import Remedy.Json.Reader
import Remedy.Proofs.Json.Number
import Remedy.Proofs.Json.Printer

/-! Reading what was printed. Main statement: a value whose numbers with a fraction are read back is read back from its
indented text, if it does not nest too deep. -/

namespace Remedy.Json

section Spaces

theorem skipSpace_of_not {c : Char} (solid : isSpace c = false) (cs : List Char) : skipSpace (c :: cs) = c :: cs := by
  rw [skipSpace, List.dropWhile_cons, solid, if_neg Bool.false_ne_true]

theorem skipSpace_append {spaces : List Char} (blank : skipSpace spaces = []) (cs : List Char) :
    skipSpace (spaces ++ cs) = skipSpace cs := by
  rw [skipSpace, List.dropWhile_append, ← skipSpace, blank]
  rfl

theorem skipSpace_append_of_cons {cs body : List Char} {c : Char} (first : skipSpace cs = c :: body) (more : List Char) :
    skipSpace (cs ++ more) = c :: body ++ more := by
  rw [skipSpace, List.dropWhile_append, ← skipSpace, first]
  rfl

theorem skipSpace_newline (depth : Nat) : skipSpace (newlineChars depth) = [] := by
  refine List.dropWhile_eq_nil_iff.mpr ?_
  intro c member
  rcases List.mem_cons.mp member with rfl | space
  · rfl
  · rw [(List.mem_replicate.mp space).2]
    rfl

theorem length_skipSpace {c : Char} (solid : isSpace c = false) (cs more : List Char) :
    more.length < (skipSpace (cs ++ c :: more)).length := by
  induction cs with
  | nil =>
      rw [List.nil_append, skipSpace_of_not solid]
      simp
  | cons first rest ih =>
      rw [List.cons_append, skipSpace, List.dropWhile_cons]
      split
      · exact ih
      · simp only [List.length_cons, List.length_append]
        omega

theorem length_skipSpace_le (cs : List Char) : (skipSpace cs).length ≤ cs.length :=
  (List.dropWhile_sublist isSpace).length_le

end Spaces

section Texts

theorem hex_of_control (n : Fin 32) :
    Text.Hex.digits 4 n = ['0', '0', (n.val / 16).digitChar, (n.val % 16).digitChar] ∧
      Text.Hex.number? ['0', '0', (n.val / 16).digitChar, (n.val % 16).digitChar] = some n.val := by
  revert n
  decide

theorem readText?_control {c : Char} (control : c.toNat < 32) (more : List Char) :
    readText? (['\\', 'u'] ++ Text.Hex.digits 4 c.toNat ++ more) = (readText? more).map fun (t, r) => (c :: t, r) := by
  obtain ⟨digits, number⟩ := hex_of_control ⟨c.toNat, control⟩
  have low : isLowSurrogate c.toNat = false := by
    simp only [isLowSurrogate, Bool.and_eq_false_iff, decide_eq_false_iff_not]
    omega
  have high : isHighSurrogate c.toNat = false := by
    simp only [isHighSurrogate, Bool.and_eq_false_iff, decide_eq_false_iff_not]
    omega
  simp only at digits number
  rw [digits]
  simp [readText?, number, low, high]

theorem readText?_escape (c : Char) (more : List Char) :
    readText? (escaped c ++ more) = (readText? more).map fun (t, r) => (c :: t, r) := by
  by_cases quote : c = '"'
  · subst quote
    simp [escaped, readText?, shortEscape?]
  by_cases slash : c = '\\'
  · subst slash
    simp [escaped, readText?, shortEscape?]
  by_cases back : c = '\x08'
  · subst back
    simp [escaped, readText?, shortEscape?]
  by_cases feed : c = '\x0c'
  · subst feed
    simp [escaped, readText?, shortEscape?]
  by_cases line : c = '\n'
  · subst line
    simp [escaped, readText?, shortEscape?]
  by_cases carriage : c = '\r'
  · subst carriage
    simp [escaped, readText?, shortEscape?]
  by_cases tab : c = '\t'
  · subst tab
    simp [escaped, readText?, shortEscape?]
  simp only [escaped, quote, slash, back, feed, line, carriage, tab, ↓reduceIte]
  by_cases control : c.toNat < 32
  · rw [if_pos control]
    exact readText?_control control more
  · rw [if_neg control]
    simp [readText?, slash, control]

theorem readText?_escaped (cs tail : List Char) : readText? (cs.flatMap escaped ++ '"' :: tail) = some (cs, tail) := by
  induction cs with
  | nil => simp [readText?]
  | cons c rest ih => rw [List.flatMap_cons, List.append_assoc, readText?_escape, ih, Option.map_some]

end Texts

section Items

/-- A reader takes a text for an item, whatever closes it, and leaves no more than spaces of it. -/
def Takes {α : Type} (item : List Char → Option (α × List Char)) (cs : List Char) (a : α) : Prop :=
  ∀ tail, Closes tail → ∃ rest, item (skipSpace (cs ++ tail)) = some (a, rest) ∧ skipSpace rest = skipSpace tail

theorem Takes.spaced {α : Type} {item : List Char → Option (α × List Char)} {cs spaces : List Char} {a : α}
    (takes : Takes item cs a) (blank : skipSpace spaces = []) : Takes item (spaces ++ cs) a := by
  intro tail closes
  rw [List.append_assoc, skipSpace_append blank]
  exact takes tail closes

theorem closes_cons {c : Char} (other : c.isDigit = false ∧ c ≠ '.' ∧ c ≠ 'e' ∧ c ≠ 'E') (tail : List Char) :
    Closes (c :: tail) := by
  rintro c' ⟨⟩
  exact other

theorem closes_nil : Closes [] := by
  rintro c ⟨⟩

variable {α : Type} {item : List Char → Option (α × List Char)} {stop : Char}

theorem readItems?_takes (solid : isSpace stop = false) (apart : stop ≠ ',') (depth : Nat) (tail : List Char)
    {parts : List (List Char × α)} (present : parts ≠ []) (takes : ∀ p ∈ parts, Takes item p.1 p.2) (fuel : Nat)
    (enough : (skipSpace (List.intercalate [','] (parts.map Prod.fst) ++ (newlineChars depth ++ stop :: tail))).length ≤
      fuel) :
    readItems? item stop fuel
        (skipSpace (List.intercalate [','] (parts.map Prod.fst) ++ (newlineChars depth ++ stop :: tail))) =
      some (parts.map Prod.snd, tail) := by
  induction parts generalizing fuel with
  | nil => exact absurd rfl present
  | cons part parts ih =>
      have here := takes part List.mem_cons_self
      cases parts with
      | nil =>
          have single : List.intercalate [','] ([part].map Prod.fst) = part.1 := by simp [List.intercalate]
          rw [single] at enough ⊢
          obtain ⟨rest, taken, left⟩ := here (newlineChars depth ++ stop :: tail) (closes_cons (by decide) _)
          rw [skipSpace_append (skipSpace_newline depth), skipSpace_of_not solid] at left
          have positive := length_skipSpace solid (part.1 ++ newlineChars depth) tail
          rw [List.append_assoc] at positive
          obtain ⟨fuel, rfl⟩ := Nat.exists_eq_add_of_lt (Nat.lt_of_lt_of_le (Nat.zero_lt_of_lt positive) enough)
          rw [Nat.zero_add, readItems?, taken]
          simp [left]
      | cons next parts =>
          have split : List.intercalate [','] ((part :: next :: parts).map Prod.fst) =
              part.1 ++ ',' :: List.intercalate [','] ((next :: parts).map Prod.fst) := by
            simp [List.intercalate]
          rw [split, List.append_assoc, List.cons_append] at enough ⊢
          obtain ⟨rest, taken, left⟩ := here _ (closes_cons (c := ',') (by decide) _)
          rw [skipSpace_of_not (by decide)] at left
          -- the comma is still to come, so one step of fuel pays for this item
          have longer := Nat.lt_of_lt_of_le (length_skipSpace (c := ',') (by decide) part.1 _) enough
          obtain ⟨fuel, rfl⟩ := Nat.exists_eq_add_of_lt (Nat.zero_lt_of_lt longer)
          have later := ih (by simp) (fun p member => takes p (List.mem_cons_of_mem _ member)) fuel
            ((length_skipSpace_le _).trans (by omega))
          rw [Nat.zero_add, readItems?, taken]
          simp only [left]
          rw [later]
          rfl

end Items

section Values

variable {s : Strictness} {depth : ℕ}

@[simp] theorem orSkip_some {α : Type} (s : Strictness) (a : α) (rest : List Char) (skipped : Option (List Char)) :
    s.orSkip (some (a, rest)) skipped = some (some a, rest) := by
  cases s <;> rfl

theorem read_of_orSkip {α : Type} {read : Option (α × List Char)} {skipped : Option (List Char)} {a : α} {rest : List Char}
    (taken : s.orSkip read skipped = some (some a, rest)) : read = some (a, rest) := by
  rcases read with _ | ⟨b, rest'⟩
  · cases s with
    | strict => cases taken
    | lenient =>
        obtain ⟨more, -, same⟩ := Option.map_eq_some_iff.mp taken
        cases same
  · rw [orSkip_some] at taken
    cases taken
    rfl

/-- A number with a fraction that is read back from its own text. -/
def ReadsBack (x : Float) : Prop := parse? (realText x) = some (real x)

/-- Values that nest no deeper than so many levels, whose numbers with a fraction are read back. -/
inductive Readable : Nat → Json → Prop
  | null (depth : Nat) : Readable depth null
  | bool (depth : Nat) (b : Bool) : Readable depth (bool b)
  | nat (depth : Nat) (n : UInt64) : Readable depth (nat n)
  | neg (depth : Nat) {n : Int64} (negative : n < 0) : Readable depth (neg n)
  | real (depth : Nat) {x : Float} (back : ReadsBack x) : Readable depth (real x)
  | str (depth : Nat) (s : String) : Readable depth (str s)
  | arr {depth : Nat} {items : List Json} (all : ∀ j ∈ items, Readable depth j) : Readable (depth + 1) (arr items)
  | obj {depth : Nat} {fields : List (String × Json)} (all : ∀ f ∈ fields, Readable depth f.2) :
      Readable (depth + 1) (obj fields)

theorem starts_of_readNumber? {c : Char} {body rest : List Char} {j : Json}
    (read : readNumber? (c :: body) = some (j, rest)) : c = '-' ∨ c.isDigit = true := by
  rw [readNumber?_cons] at read
  by_cases minus : c = '-'
  · exact .inl minus
  right
  rw [if_neg minus, readMagnitude?_eq] at read
  cases digit : c.isDigit with
  | true => rfl
  | false => simp [digit] at read

theorem readValue?_number {c : Char} (starts : c = '-' ∨ c.isDigit = true) (body : List Char) :
    readValue? s depth (c :: body) =
      (s.orSkip (readNumber? (c :: body)) (skipNumber? (c :: body))).map fun (j?, r) => (j?.getD unfit, r) := by
  have other : ∀ c', c' ≠ '-' → c'.isDigit = false → c ≠ c' := by
    rintro c' minus digit rfl
    rcases starts with same | same
    · exact minus same
    · rw [digit] at same
      cases same
  unfold readValue?
  split
  any_goals
    rename_i first
    exact absurd (List.cons.inj first).1 (other _ (by decide) (by decide))
  rfl

theorem takes_number {cs rest : List Char} {j : Json} (read : readNumber? (skipSpace cs) = some (j, rest))
    (blank : skipSpace rest = []) : Takes (readValue? s depth) cs j := by
  intro tail closes
  cases first : skipSpace cs with
  | nil =>
      rw [first] at read
      cases read
  | cons c body =>
      rw [first] at read
      have longer := readNumber?_closed closes read
      refine ⟨rest ++ tail, ?_, skipSpace_append blank tail⟩
      rw [skipSpace_append_of_cons first, List.cons_append, readValue?_number (starts_of_readNumber? read)]
      rw [List.cons_append] at longer
      rw [longer, orSkip_some]
      rfl

theorem readNumber?_of_real {cs rest : List Char} {x : Float}
    (read : readValue? s depth cs = some (real x, rest)) : readNumber? cs = some (real x, rest) := by
  unfold readValue? at read
  split at read
  · cases read
  · cases read
  · cases read
  · obtain ⟨⟨t?, r⟩, -, same⟩ := Option.map_eq_some_iff.mp read
    cases t? <;> cases same
  · split at read
    · cases read
    · split at read
      · cases read
      · obtain ⟨_, -, same⟩ := Option.map_eq_some_iff.mp read
        cases same
  · split at read
    · cases read
    · split at read
      · cases read
      · obtain ⟨⟨fields, r⟩, -, same⟩ := Option.map_eq_some_iff.mp read
        simp only [ofFields] at same
        cases named : fields.mapM id <;> simp [named] at same
  · obtain ⟨⟨j?, r⟩, taken, same⟩ := Option.map_eq_some_iff.mp read
    cases j? with
    | none => cases same
    | some j =>
        cases same
        exact read_of_orSkip taken

theorem takes_real {x : Float} (back : ReadsBack x) :
    Takes (readValue? s depth) (realText x).toList (real x) := by
  unfold ReadsBack parse? readWhole? at back
  split at back
  · rename_i j rest read
    split at back
    · rename_i ended
      cases back
      exact takes_number (readNumber?_of_real read) (List.isEmpty_iff.mp ended)
    · cases back
  · cases back

theorem skipSpace_toDigits (n : Nat) : skipSpace (Nat.toDigits 10 n) = Nat.toDigits 10 n := by
  cases digits : Nat.toDigits 10 n with
  | nil => rfl
  | cons c body =>
      have digit : c.isDigit = true := Text.toDigits_isDigit (n := n) (by rw [digits]; exact List.mem_cons_self)
      refine skipSpace_of_not ?_ body
      by_contra space
      simp only [isSpace, Bool.not_eq_false, Bool.or_eq_true, decide_eq_true_eq] at space
      rcases space with ((rfl | rfl) | rfl) | rfl <;> cases digit

theorem takes_nat (n : UInt64) : Takes (readValue? s depth) (toString n.toNat).toList (nat n) := by
  rw [Nat.toString_eq_repr, Nat.toList_repr]
  have read : readNumber? (skipSpace (Nat.toDigits 10 n.toNat)) = some (nat n, []) := by
    rw [skipSpace_toDigits]
    exact readNumber?_nat n
  exact takes_number read rfl

theorem takes_neg {n : Int64} (negative : n < 0) :
    Takes (readValue? s depth) (toString n.toInt).toList (neg n) := by
  have below : n.toInt < 0 := Int64.lt_iff_toInt_lt.mp negative
  have shape : (toString n.toInt).toList = '-' :: Nat.toDigits 10 n.toInt.natAbs := by
    have magnitude : (-n.toInt).toNat = n.toInt.natAbs := by omega
    rw [Int.toString_eq_repr, Int.repr_eq_if, if_neg (by omega), magnitude, String.toList_append, Nat.toList_repr]
    rfl
  rw [shape]
  have read : readNumber? (skipSpace ('-' :: Nat.toDigits 10 n.toInt.natAbs)) = some (neg n, []) := by
    rw [skipSpace_of_not (by decide)]
    exact readNumber?_neg negative
  exact takes_number read rfl

theorem takes_str (t : String) :
    Takes (readValue? s depth) ('"' :: t.toList.flatMap escaped ++ ['"']) (str t) := by
  intro tail closes
  refine ⟨tail, ?_, rfl⟩
  rw [List.cons_append, List.cons_append, skipSpace_of_not (by decide), List.append_assoc]
  simp only [readValue?, List.singleton_append, readText?_escaped, orSkip_some, Option.map_some, Option.getD_some,
    String.ofList_toList]

theorem Takes.field {cs : List Char} {j : Json} (key : String) (takes : Takes (readValue? s depth) cs j) :
    Takes (readField? s (readValue? s depth)) (('"' :: key.toList.flatMap escaped ++ ['"']) ++ [':', ' '] ++ cs) (some (key, j)) := by
  intro tail closes
  obtain ⟨rest, taken, left⟩ := takes tail closes
  refine ⟨rest, ?_, left⟩
  have colon : skipSpace (':' :: ' ' :: (cs ++ tail)) = ':' :: ' ' :: (cs ++ tail) := skipSpace_of_not (by decide) _
  have blank : skipSpace (' ' :: (cs ++ tail)) = skipSpace (cs ++ tail) := @skipSpace_append [' '] rfl _
  have shape : ('"' :: key.toList.flatMap escaped ++ ['"']) ++ [':', ' '] ++ cs ++ tail =
      '"' :: (key.toList.flatMap escaped ++ '"' :: ':' :: ' ' :: (cs ++ tail)) := by simp
  rw [shape, skipSpace_of_not (by decide)]
  simp only [readField?, readText?_escaped, orSkip_some, colon, blank, taken, Option.map_some, String.ofList_toList]

theorem readItems?_ne_of_stop {α : Type} {item : List Char → Option (α × List Char)} {stop : Char} {rest : List Char}
    (none : item (stop :: rest) = none) (fuel : Nat) : readItems? item stop fuel (stop :: rest) = Option.none := by
  cases fuel with
  | zero => rfl
  | succ fuel => rw [readItems?, none]

theorem readValue?_arr {body tail : List Char} {items : List Json}
    (read : readItems? (readValue? s depth) ']' (skipSpace body).length (skipSpace body) = some (items, tail)) :
    readValue? s (depth + 1) ('[' :: body) = some (arr items, tail) := by
  simp only [readValue?]
  split
  · rename_i rest ended
    have none : readValue? s depth (']' :: rest) = none := by
      rw [readValue?]
      · cases s <;> rfl
      all_goals simp
    rw [ended, readItems?_ne_of_stop none] at read
    cases read
  · rw [read, Option.map_some]

theorem readValue?_obj {body tail : List Char} {fields : List (Option (String × Json))}
    (read : readItems? (readField? s (readValue? s depth)) '\x7d' (skipSpace body).length (skipSpace body) =
      some (fields, tail)) :
    readValue? s (depth + 1) ('\x7b' :: body) = some (ofFields fields, tail) := by
  simp only [readValue?]
  split
  · rename_i rest ended
    rw [ended, readItems?_ne_of_stop rfl] at read
    cases read
  · rw [read, Option.map_some]

def itemParts (depth : Nat) (items : List Json) : List (List Char × Json) :=
  items.map fun j => (newlineChars depth ++ charsAt depth j, j)

def fieldParts (depth : Nat) (fields : List (String × Json)) : List (List Char × Option (String × Json)) :=
  fields.map fun f =>
    (newlineChars depth ++ ('"' :: f.1.toList.flatMap escaped ++ ['"']) ++ [':', ' '] ++ charsAt depth f.2, some f)

theorem map_itemParts (depth : Nat) (items : List Json) : (itemParts depth items).map Prod.snd = items := by
  simp [itemParts, Function.comp_def]

theorem map_fieldParts (depth : Nat) (fields : List (String × Json)) :
    (fieldParts depth fields).map Prod.snd = fields.map some := by
  simp [fieldParts]

theorem ofFields_some (fields : List (String × Json)) : ofFields (fields.map some) = obj fields := by
  have named : (fields.map some).mapM id = some fields := by
    induction fields with
    | nil => rfl
    | cons f rest ih => simp [ih]
  rw [ofFields, named, Option.map_some, Option.getD_some]

theorem itemsChars_eq (depth : Nat) (items : List Json) : itemsChars depth items = (itemParts depth items).map Prod.fst := by
  induction items with
  | nil => rfl
  | cons j rest ih =>
      rw [itemsChars, ih]
      rfl

theorem fieldsChars_eq (depth : Nat) (fields : List (String × Json)) :
    fieldsChars depth fields = (fieldParts depth fields).map Prod.fst := by
  induction fields with
  | nil => rfl
  | cons f rest ih =>
      rw [fieldsChars, ih]
      rfl

theorem takes_null : Takes (readValue? s depth) ['n', 'u', 'l', 'l'] null := by
  intro tail closes
  refine ⟨tail, ?_, rfl⟩
  rw [List.cons_append, skipSpace_of_not (by decide)]
  simp [readValue?]

theorem takes_bool (k : Nat) (b : Bool) : Takes (readValue? s depth) (charsAt k (bool b)) (bool b) := by
  intro tail closes
  refine ⟨tail, ?_, rfl⟩
  rw [charsAt]
  cases b with
  | true =>
      rw [if_pos rfl, List.cons_append, skipSpace_of_not (by decide)]
      simp [readValue?]
  | false =>
      rw [if_neg Bool.false_ne_true, List.cons_append, skipSpace_of_not (by decide)]
      simp [readValue?]

theorem takes_arr {items : List Json} (all : ∀ j ∈ items, ∀ k, Takes (readValue? s depth) (charsAt k j) j)
    (k : Nat) : Takes (readValue? s (depth + 1)) (charsAt k (arr items)) (arr items) := by
  intro tail closes
  refine ⟨tail, ?_, rfl⟩
  cases items with
  | nil =>
      rw [charsAt, List.cons_append, skipSpace_of_not (by decide)]
      simp [readValue?, skipSpace_of_not (c := ']') (by decide)]
  | cons j rest =>
      have takes : ∀ p ∈ itemParts (k + 1) (j :: rest), Takes (readValue? s depth) p.1 p.2 := by
        intro p member
        obtain ⟨item, among, rfl⟩ := List.mem_map.mp member
        exact (all item among (k + 1)).spaced (skipSpace_newline _)
      have present : itemParts (k + 1) (j :: rest) ≠ [] := by simp [itemParts]
      have read := @readItems?_takes _ _ ']' (by decide) (by decide) k tail _ present takes _ (Nat.le_refl _)
      rw [map_itemParts, ← itemsChars_eq] at read
      rw [charsAt]
      simp only [List.cons_append, List.append_assoc, List.nil_append]
      rw [skipSpace_of_not (by decide)]
      exact readValue?_arr read

theorem takes_obj {fields : List (String × Json)}
    (all : ∀ f ∈ fields, ∀ k, Takes (readValue? s depth) (charsAt k f.2) f.2) (k : Nat) :
    Takes (readValue? s (depth + 1)) (charsAt k (obj fields)) (obj fields) := by
  intro tail closes
  refine ⟨tail, ?_, rfl⟩
  cases fields with
  | nil =>
      rw [charsAt, List.cons_append, skipSpace_of_not (by decide)]
      simp [readValue?, skipSpace_of_not (c := '\x7d') (by decide)]
  | cons f rest =>
      have takes : ∀ p ∈ fieldParts (k + 1) (f :: rest), Takes (readField? s (readValue? s depth)) p.1 p.2 := by
        intro p member
        obtain ⟨field, among, rfl⟩ := List.mem_map.mp member
        have printed := ((all field among (k + 1)).field field.1).spaced (skipSpace_newline (k + 1))
        simpa only [List.append_assoc] using printed
      have present : fieldParts (k + 1) (f :: rest) ≠ [] := by simp [fieldParts]
      have read := @readItems?_takes _ _ '\x7d' (by decide) (by decide) k tail _ present takes _ (Nat.le_refl _)
      rw [map_fieldParts, ← fieldsChars_eq] at read
      rw [charsAt]
      simp only [List.cons_append, List.append_assoc, List.nil_append]
      rw [skipSpace_of_not (by decide)]
      have taken := readValue?_obj read
      rwa [ofFields_some] at taken

/-- Every readable value is taken from the front of its indented text. -/
theorem Readable.takes {j : Json} (readable : Readable depth j) (k : Nat) :
    Takes (readValue? s depth) (charsAt k j) j := by
  induction readable generalizing k with
  | null depth =>
      rw [charsAt]
      exact takes_null
  | bool depth b => exact takes_bool k b
  | nat depth n =>
      rw [charsAt]
      exact takes_nat n
  | neg depth negative =>
      rw [charsAt]
      exact takes_neg negative
  | real depth back =>
      rw [charsAt]
      exact takes_real back
  | str depth s =>
      rw [charsAt]
      exact takes_str s
  | arr all ih => exact takes_arr ih k
  | obj all ih => exact takes_obj ih k

theorem readWhole?_pretty {j : Json} (readable : Readable depth j) : readWhole? s depth j.pretty.toList = some j := by
  obtain ⟨rest, taken, left⟩ := (readable.takes 0 : Takes (readValue? s depth) _ _) [] closes_nil
  have ended : skipSpace rest = [] := left
  rw [List.append_nil] at taken
  unfold readWhole?
  rw [toList_pretty, taken]
  simp [ended]

/-- A readable value is read back from its indented text. -/
theorem scan?_pretty {j : Json} (readable : Readable j.pretty.length j) : scan? j.pretty = some j :=
  readWhole?_pretty readable

end Values

end Remedy.Json
