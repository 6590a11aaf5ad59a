import Remedy.Proofs.Text.Basic
import Remedy.Proofs.Text.Digits
import Remedy.Report.Headline

/-! Lines that report a diagnostic. Main statements: a line is read as a headline exactly if some of it stands in front
of a marker, and what is written as a headline is read back, however much its file and its message look like one. -/

namespace Remedy

namespace Unicode

set_option maxRecDepth 2000 in
theorem digit_front : digit.take 2 = [(48, 57), (1632, 1641)] := by
  have place : generalCategories.findIdx (fun row =>
      (Text.words row.1.toList).any fun w => normalName (String.ofList w) == "nd") = 11 := by decide +kernel
  have there : generalCategories[11]? = some generalCategories[11] := List.getElem?_eq_getElem _
  -- The characters of the row are spelled out, since taking a long literal apart is slow.
  have spelled : (generalCategories[11]).2 = String.ofList _ := rfl
  rw [digit, lookup?, List.find?_eq_getElem?_findIdx, place, there, Option.map_some, Option.getD_some, spelled,
    Text.rangesOf, Text.numbersIn, String.toList_ofList]
  decide +kernel

theorem has_ascii {table : Text.Ranges} (front : table.take 2 = [(48, 57), (1632, 1641)]) {n : Nat} (ascii : n < 128) :
    table.has n = (48 ≤ n && n ≤ 57) := by
  obtain ⟨later, rfl⟩ : ∃ later, table = (48, 57) :: (1632, 1641) :: later :=
    ⟨table.drop 2, by rw [← List.take_append_drop 2 table, front]; rfl⟩
  have next : n < 1632 := by omega
  unfold Text.Ranges.has Text.Ranges.has
  rw [if_pos next]
  by_cases low : n < 48
  · rw [if_pos low, decide_eq_false (Nat.not_le.mpr low), Bool.false_and]
  · simp [low, Nat.not_lt.mp low]

theorem digit_has_ascii {n : Nat} (ascii : n < 128) : digit.has n = (48 ≤ n && n ≤ 57) := has_ascii digit_front ascii

end Unicode

namespace Text

theorem stripStart?_eq_some_iff {start cs rest : List Char} : stripStart? start cs = some rest ↔ cs = start ++ rest := by
  unfold stripStart?
  constructor
  · intro stripped
    split at stripped
    · rename_i begins
      obtain ⟨tail, rfl⟩ := List.isPrefixOf_iff_prefix.mp begins
      rw [List.drop_left, Option.some.injEq] at stripped
      rw [stripped]
    · cases stripped
  · rintro rfl
    rw [if_pos (List.isPrefixOf_iff_prefix.mpr (List.prefix_append start rest)), List.drop_left]

theorem stripStart?_append (start rest : List Char) : stripStart? start (start ++ rest) = some rest :=
  stripStart?_eq_some_iff.mpr rfl

end Text

namespace Headline

theorem isDigit_ascii {c : Char} (ascii : c.toNat < 128) : isDigit c = c.isDigit := by
  rw [isDigit, Unicode.digit_has_ascii ascii, Char.isDigit]
  exact congrArg₂ and (decide_eq_decide.mpr Iff.rfl) (decide_eq_decide.mpr Iff.rfl)

structure Digits (ds : List Char) : Prop where
  nonempty : ds ≠ []
  all : ∀ c ∈ ds, isDigit c = true

theorem digits_toDigits (n : Nat) : Digits (Nat.toDigits 10 n) where
  nonempty := Nat.toDigits_ne_nil
  all c member := by
    have digit := Text.toDigits_isDigit member
    have last : c.toNat ≤ 57 := by
      rw [Char.isDigit, Bool.and_eq_true, decide_eq_true_eq, decide_eq_true_eq] at digit
      exact digit.2
    rw [isDigit_ascii (by omega), digit]

variable {ds rest cs : List Char}

theorem readDigits?_append (digits : Digits ds) (ends : ∀ c ∈ rest.head?, isDigit c = false) :
    readDigits? (ds ++ rest) = some (ds, rest) := by
  have none : rest.takeWhile isDigit = [] ∧ rest.dropWhile isDigit = rest := by
    cases rest with
    | nil => exact ⟨rfl, rfl⟩
    | cons c later => simp [ends c rfl]
  have taken : (ds ++ rest).takeWhile isDigit = ds := by
    rw [List.takeWhile_append_of_pos digits.all, none.1, List.append_nil]
  have left : (ds ++ rest).dropWhile isDigit = rest := by
    rw [List.dropWhile_append_of_pos digits.all, none.2]
  rw [readDigits?, taken, left, if_neg (by simpa using digits.nonempty)]

theorem readDigits?_sound (read : readDigits? cs = some (ds, rest)) : Digits ds ∧ cs = ds ++ rest := by
  unfold readDigits? at read
  split at read
  · cases read
  · rename_i some
    simp only [Option.some.injEq, Prod.mk.injEq] at read
    obtain ⟨rfl, rfl⟩ := read
    have all : ∀ c ∈ cs.takeWhile isDigit, isDigit c = true := List.all_eq_true.mp List.all_takeWhile
    exact ⟨⟨by simpa using some, all⟩, List.takeWhile_append_dropWhile.symm⟩

theorem readSeverity?_append {word : String} {severity : Severity} (listed : (word, severity) ∈ severityWords)
    (rest : List Char) : readSeverity? (word.toList ++ rest) = some (severity, rest) := by
  unfold severityWords at listed
  simp only [List.mem_cons, Prod.mk.injEq, List.not_mem_nil, or_false] at listed
  rcases listed with ⟨rfl, rfl⟩ | ⟨rfl, rfl⟩ | ⟨rfl, rfl⟩ | ⟨rfl, rfl⟩ <;> rfl

theorem readSeverity?_sound {severity : Severity} (read : readSeverity? cs = some (severity, rest)) :
    ∃ word, (word, severity) ∈ severityWords ∧ cs = word.toList ++ rest := by
  obtain ⟨⟨word, s⟩, listed, stripped⟩ := List.exists_of_findSome?_eq_some read
  obtain ⟨rest', begins, same⟩ := Option.map_eq_some_iff.mp stripped
  cases same
  exact ⟨word, listed, Text.stripStart?_eq_some_iff.mp begins⟩

inductive Form.Known : Form → Prop where
  | plain : Known plain
  | pretty : Known pretty

def Form.marker (form : Form) (line column : List Char) (word : String) (code : List Char) : List Char :=
  form.beforeLine.toList ++ line ++ form.beforeColumn.toList ++ column ++ form.afterColumn.toList ++ word.toList ++
    " TS".toList ++ code ++ ": ".toList

/-- The text is a marker of this form, with numbers of any size and one of the words for a severity. -/
inductive Form.Marks (form : Form) : List Char → Prop where
  | marker {line column code : List Char} {word : String} {severity : Severity} (lineDigits : Digits line)
      (columnDigits : Digits column) (listed : (word, severity) ∈ severityWords) (codeDigits : Digits code) :
      Marks form (form.marker line column word code)

variable {form : Form} {file message : List Char}

theorem not_isDigit {c : Char} (ascii : c.toNat < 128) (other : c.isDigit = false) : isDigit c = false := by
  rw [isDigit_ascii ascii, other]

theorem Form.Known.ends (known : form.Known) (rest : List Char) :
    (∀ c ∈ (form.beforeColumn.toList ++ rest).head?, isDigit c = false) ∧
      ∀ c ∈ (form.afterColumn.toList ++ rest).head?, isDigit c = false := by
  cases known <;> constructor <;> rintro c ⟨⟩ <;> exact not_isDigit (by decide) rfl

theorem readAfterFile?_marker (known : form.Known) {line column code : List Char} {word : String} {severity : Severity}
    (lineDigits : Digits line) (columnDigits : Digits column) (listed : (word, severity) ∈ severityWords)
    (codeDigits : Digits code) (file message : List Char) :
    readAfterFile? form file (form.marker line column word code ++ message) =
      some ⟨file, line, column, severity, code, message⟩ := by
  have colon : ∀ c ∈ (": ".toList ++ message).head?, isDigit c = false := by
    rintro c ⟨⟩
    exact not_isDigit (by decide) rfl
  unfold readAfterFile? Form.marker
  simp only [List.append_assoc, Text.stripStart?_append, Option.bind_eq_bind, Option.bind_some,
    readDigits?_append lineDigits (known.ends _).1, readDigits?_append columnDigits (known.ends _).2,
    readSeverity?_append listed, readDigits?_append codeDigits colon]
  rfl

theorem readAfterFile?_sound {h : Headline} (read : readAfterFile? form file cs = some h) :
    h.file = file ∧ ∃ marker, form.Marks marker ∧ cs = marker ++ h.message := by
  unfold readAfterFile? at read
  simp only [Option.bind_eq_bind, Option.bind_eq_some_iff, Prod.exists, Text.stripStart?_eq_some_iff] at read
  obtain ⟨_, rfl, line, _, lineRead, _, rfl, column, _, columnRead, _, rfl, severity, _, severityRead, _, rfl, code, _,
    codeRead, message, rfl, made⟩ := read
  cases made
  obtain ⟨lineDigits, rfl⟩ := readDigits?_sound lineRead
  obtain ⟨columnDigits, rfl⟩ := readDigits?_sound columnRead
  obtain ⟨word, listed, rfl⟩ := readSeverity?_sound severityRead
  obtain ⟨codeDigits, rfl⟩ := readDigits?_sound codeRead
  exact ⟨rfl, _, .marker lineDigits columnDigits listed codeDigits, by simp [Form.marker]⟩

theorem readAfterFile?_eq_none_iff (known : form.Known) :
    readAfterFile? form file cs = none ↔ ∀ marker, form.Marks marker → ¬marker <+: cs := by
  constructor
  · rintro unread _ ⟨line, column, listed, code⟩ ⟨message, rfl⟩
    rw [readAfterFile?_marker known line column listed code] at unread
    cases unread
  · intro unmarked
    cases read : readAfterFile? form file cs with
    | none => rfl
    | some h =>
        obtain ⟨-, marker, marks, rfl⟩ := readAfterFile?_sound read
        exact (unmarked marker marks (List.prefix_append _ _)).elim

def Headed (form : Form) (cs : List Char) : Prop :=
  ∃ file marker message, file ≠ [] ∧ form.Marks marker ∧ cs = file ++ marker ++ message

def Marked (form : Form) (cs : List Char) : Prop := ∃ marker, form.Marks marker ∧ marker <:+: cs

theorem Headed.marked (headed : Headed form cs) : Marked form cs := by
  obtain ⟨file, marker, message, -, marks, rfl⟩ := headed
  exact ⟨marker, marks, file, message, rfl⟩

theorem Marked.named (marked : Marked form cs) : " TS".toList <:+: cs := by
  obtain ⟨_, ⟨line, column, listed, code⟩, inside⟩ := marked
  refine List.IsInfix.trans ?_ inside
  unfold Form.marker
  exact ⟨_, _, (List.append_assoc _ _ _).symm⟩

theorem not_marked (absent : Text.occursIn " TS".toList cs = false) : ¬Marked form cs := by
  intro marked
  rw [Text.occursIn_iff.mpr marked.named] at absent
  cases absent

theorem not_headed (absent : Text.occursIn " TS".toList cs = false) : ¬Headed form cs :=
  fun headed => not_marked absent headed.marked

theorem readFrom?_append {passed : List Char} {h : Headline} (some : file ≠ [])
    (first : ∀ front back, file = front ++ back → front ≠ [] → back ≠ [] →
      readAfterFile? form (passed.reverse ++ front) (back ++ rest) = none)
    (read : readAfterFile? form (passed.reverse ++ file) rest = .some h) :
    readFrom? form passed (file ++ rest) = .some h := by
  induction file generalizing passed with
  | nil => exact (some rfl).elim
  | cons c later ih =>
      rw [List.cons_append, readFrom?]
      cases later with
      | nil =>
          have here : readAfterFile? form (c :: passed).reverse ([] ++ rest) = .some h := by simpa using read
          rw [here]
      | cons d others =>
          have here := first [c] (d :: others) rfl (List.cons_ne_nil _ _) (List.cons_ne_nil _ _)
          have further : readFrom? form (c :: passed) (d :: others ++ rest) = .some h := by
            refine ih (List.cons_ne_nil _ _) ?_ (by simpa using read)
            intro front back same begun unended
            have next := first (c :: front) back (by rw [same]; rfl) (List.cons_ne_nil _ _) unended
            simpa using next
          rw [List.reverse_cons, here]
          exact further

theorem readAfterFile?_of_unread {passed front back : List Char} (unread : readFrom? form passed (front ++ back) = none)
    (some : front ≠ []) : readAfterFile? form (passed.reverse ++ front) back = none := by
  induction front generalizing passed with
  | nil => exact (some rfl).elim
  | cons c later ih =>
      rw [List.cons_append, readFrom?] at unread
      split at unread
      · cases unread
      · rename_i here
        cases later with
        | nil => simpa using here
        | cons d others => simpa using ih unread (List.cons_ne_nil _ _)

theorem readFrom?_parts {passed : List Char} {h : Headline} (read : readFrom? form passed cs = some h) :
    ∃ file marker, file ≠ [] ∧ form.Marks marker ∧ h.file = passed.reverse ++ file ∧ cs = file ++ marker ++ h.message := by
  induction cs generalizing passed with
  | nil => cases read
  | cons c later ih =>
      rw [readFrom?] at read
      split at read
      · rename_i here
        cases read
        obtain ⟨named, marker, marks, rfl⟩ := readAfterFile?_sound here
        exact ⟨[c], marker, List.cons_ne_nil _ _, marks, by simpa using named, by simp⟩
      · obtain ⟨file, marker, -, marks, named, rfl⟩ := ih read
        exact ⟨c :: file, marker, List.cons_ne_nil _ _, marks, by simpa using named, rfl⟩

theorem readFrom?_sound {passed : List Char} {h : Headline} (read : readFrom? form passed cs = some h) :
    Headed form cs := by
  obtain ⟨file, marker, some, marks, -, parts⟩ := readFrom?_parts read
  exact ⟨file, marker, h.message, some, marks, parts⟩

theorem readFrom?_eq_none_iff (known : form.Known) : readFrom? form [] cs = none ↔ ¬Headed form cs := by
  constructor
  · rintro unread ⟨file, marker, message, named, marks, rfl⟩
    rw [List.append_assoc] at unread
    have unmarked := (readAfterFile?_eq_none_iff known).mp (readAfterFile?_of_unread unread named)
    exact unmarked marker marks (List.prefix_append _ _)
  · intro headless
    cases read : readFrom? form [] cs with
    | none => rfl
    | some h => exact (headless (readFrom?_sound read)).elim

theorem read?_parts {h : Headline} (read : read? cs = some h) :
    h.file ≠ [] ∧ ∃ form marker, Form.Known form ∧ form.Marks marker ∧ cs = h.file ++ marker ++ h.message := by
  rw [read?, Option.or_eq_some_iff] at read
  rcases read with first | ⟨-, second⟩
  · obtain ⟨file, marker, named, marks, rfl, parts⟩ := readFrom?_parts first
    exact ⟨named, plain, marker, .plain, marks, parts⟩
  · obtain ⟨file, marker, named, marks, rfl, parts⟩ := readFrom?_parts second
    exact ⟨named, pretty, marker, .pretty, marks, parts⟩

theorem diagnostic?_parts {h : Headline} {d : Diagnostic} (made : h.diagnostic? = some d) :
    d.file.text.toList = h.file ∧ d.message.toList = Text.trim h.message ∧ d.category = .genericError := by
  unfold diagnostic? at made
  simp only [Option.bind_eq_bind, Option.bind_eq_some_iff] at made
  obtain ⟨_, -, _, -, _, -, whole⟩ := made
  cases whole
  exact ⟨String.toList_ofList, String.toList_ofList, rfl⟩

theorem read?_eq_none_iff : read? cs = none ↔ ¬Headed plain cs ∧ ¬Headed pretty cs := by
  rw [read?, Option.or_eq_none_iff, readFrom?_eq_none_iff .plain, readFrom?_eq_none_iff .pretty]

section Overlap

variable {back m m' : List Char}

def Spaced : List Char → Prop
  | [] => True
  | c :: cs => (c = ':' → cs.head? = some ' ') ∧ Spaced cs

theorem Spaced.append {front : List Char} (free : ':' ∉ front) (spaced : Spaced cs) : Spaced (front ++ cs) := by
  induction front with
  | nil => exact spaced
  | cons c later ih =>
      rw [List.mem_cons, not_or] at free
      exact ⟨fun colon => (free.1 colon.symm).elim, ih free.2⟩

theorem Spaced.after {front : List Char} (spaced : Spaced (front ++ ':' :: cs)) : cs.head? = some ' ' := by
  induction front with
  | nil => exact spaced.1 rfl
  | cons c later ih => exact ih spaced.2

theorem Digits.not_mem (digits : Digits ds) {c : Char} (other : isDigit c = false) : c ∉ ds := by
  intro member
  rw [digits.all c member] at other
  cases other

theorem Form.Marks.not_mem (marks : form.Marks m) {c : Char} (digit : isDigit c = false)
    (words : ∀ w ∈ severityWords, c ∉ w.1.toList)
    (signs : c ∉ form.beforeLine.toList ++ form.beforeColumn.toList ++ form.afterColumn.toList ++
      " TS".toList ++ ": ".toList) : c ∉ m := by
  obtain ⟨line, column, listed, code⟩ := marks
  simp only [List.mem_append, not_or] at signs
  obtain ⟨⟨⟨⟨before, between⟩, behind⟩, name⟩, last⟩ := signs
  simp only [Form.marker, List.mem_append, not_or]
  exact ⟨⟨⟨⟨⟨⟨⟨⟨before, line.not_mem digit⟩, between⟩, column.not_mem digit⟩, behind⟩, words _ listed⟩, name⟩,
    code.not_mem digit⟩, last⟩

theorem colon_not_digit : isDigit ':' = false := not_isDigit (by decide) rfl

theorem space_not_digit : isDigit ' ' = false := not_isDigit (by decide) rfl

theorem paren_not_digit : isDigit '(' = false := not_isDigit (by decide) rfl

theorem words_plain : ∀ w ∈ severityWords, '(' ∉ w.1.toList ∧ ':' ∉ w.1.toList := by decide

theorem Digits.unique {other : List Char} (digits : Digits ds) (digits' : Digits other) {c d : Char}
    (ends : isDigit c = false) (ends' : isDigit d = false) {later later' : List Char}
    (same : ds ++ c :: later = other ++ d :: later') : c = d := by
  have read : readDigits? (ds ++ c :: later) = some (ds, c :: later) :=
    readDigits?_append digits (by rintro _ ⟨⟩; exact ends)
  rw [same, readDigits?_append digits' (by rintro _ ⟨⟩; exact ends')] at read
  simp only [Option.some.injEq, Prod.mk.injEq, List.cons.injEq] at read
  exact read.2.1.symm

theorem marker_plain (line column : List Char) (word : String) (code : List Char) :
    plain.marker line column word code =
      '(' :: (line ++ ',' :: column ++ [')'] ++ ':' :: ' ' :: (word.toList ++ " TS".toList ++ code ++ [':', ' '])) := by
  simp [Form.marker, plain]

theorem marker_pretty (line column : List Char) (word : String) (code : List Char) :
    pretty.marker line column word code =
      ':' :: (line ++ ':' :: (column ++ ' ' :: ('-' :: ' ' :: word.toList ++ " TS".toList ++ code ++ [':', ' ']))) := by
  simp [Form.marker, pretty]

theorem opens_plain (marks : plain.Marks m) : ∃ rest, m = '(' :: rest ∧ '(' ∉ rest := by
  obtain ⟨line, column, listed, code⟩ := marks
  refine ⟨_, marker_plain _ _ _ _, ?_⟩
  simp [line.not_mem paren_not_digit, column.not_mem paren_not_digit, code.not_mem paren_not_digit,
    (words_plain _ listed).1]

theorem closed_pretty (marks : pretty.Marks m) : '(' ∉ m :=
  marks.not_mem paren_not_digit (by decide) (by decide)

theorem spaced_end : Spaced [':', ' '] := by simp [Spaced]

theorem spaced_plain (marks : plain.Marks m) : Spaced m := by
  obtain @⟨line, column, code, word, severity, lineDigits, columnDigits, listed, codeDigits⟩ := marks
  have last : Spaced (' ' :: (word.toList ++ " TS".toList ++ code ++ [':', ' '])) := by
    rw [← List.cons_append]
    refine spaced_end.append ?_
    simp [codeDigits.not_mem colon_not_digit, (words_plain _ listed).2]
  rw [marker_plain, ← List.cons_append]
  refine Spaced.append ?_ ⟨fun _ => rfl, last⟩
  simp [lineDigits.not_mem colon_not_digit, columnDigits.not_mem colon_not_digit]

theorem parts_pretty (marks : pretty.Marks m) : ∃ line column rest, Digits line ∧ Digits column ∧
    m = ':' :: (line ++ ':' :: (column ++ ' ' :: rest)) ∧ Spaced (column ++ ' ' :: rest) := by
  obtain ⟨line, column, listed, code⟩ := marks
  refine ⟨_, _, _, line, column, marker_pretty _ _ _ _, ?_⟩
  rw [← List.cons_append, ← List.append_assoc]
  refine spaced_end.append ?_
  simp [column.not_mem colon_not_digit, code.not_mem colon_not_digit, (words_plain _ listed).2]

theorem Form.Marks.opens (marks : form.Marks m) (known : form.Known) : ∃ c rest, m = c :: rest ∧ (c = '(' ∨ c = ':') := by
  cases known with
  | plain =>
      obtain ⟨rest, rfl, -⟩ := opens_plain marks
      exact ⟨'(', rest, rfl, .inl rfl⟩
  | pretty =>
      obtain ⟨line, column, rest, -, -, rfl, -⟩ := parts_pretty marks
      exact ⟨':', _, rfl, .inr rfl⟩

theorem prefix_append_cases {rest : List Char} (reaches : m <+: back ++ rest) :
    m <+: back ∨ ∃ c x, m = back ++ c :: x ∧ c :: x <+: rest := by
  rcases List.prefix_or_prefix_of_prefix reaches (List.prefix_append back rest) with within | ⟨x, rfl⟩
  · exact .inl within
  · cases x with
    | nil => exact .inl (by simp)
    | cons c x => exact .inr ⟨c, x, rfl, (List.prefix_append_right_inj back).mp reaches⟩

theorem within_plain (marks : plain.Marks m) (own : plain.Marks m') (begun : back ≠ [])
    (reaches : m <+: back ++ (m' ++ rest)) : m <+: back := by
  rcases prefix_append_cases reaches with within | ⟨c, x, rfl, next⟩
  · exact within
  · obtain ⟨tail, rfl, -⟩ := opens_plain own
    obtain ⟨rest', same, single⟩ := opens_plain marks
    obtain ⟨rfl, -⟩ := List.cons_prefix_cons.mp next
    cases back with
    | nil => exact (begun rfl).elim
    | cons b others =>
        obtain ⟨-, rfl⟩ := List.cons.inj same
        exact (single (by simp)).elim

theorem not_space_of_pretty (own : pretty.Marks m') {c : Char} {x : List Char} (next : c :: x <+: m' ++ rest) :
    c = ':' ∧ x.head? ≠ some ' ' := by
  obtain ⟨line, column, tail, digits, -, rfl, -⟩ := parts_pretty own
  obtain ⟨rfl, y, same⟩ := List.cons_prefix_cons.mp next
  refine ⟨rfl, ?_⟩
  intro space
  obtain ⟨z, rfl⟩ := List.head?_eq_some_iff.mp space
  cases line with
  | nil => exact digits.nonempty rfl
  | cons d later =>
      obtain ⟨rfl, -⟩ := List.cons.inj same
      have digit := digits.all ' ' List.mem_cons_self
      rw [space_not_digit] at digit
      cases digit

theorem within_pretty_of_plain (marks : plain.Marks m) (own : pretty.Marks m') (reaches : m <+: back ++ (m' ++ rest)) :
    m <+: back := by
  rcases prefix_append_cases reaches with within | ⟨c, x, rfl, next⟩
  · exact within
  · obtain ⟨rfl, digit⟩ := not_space_of_pretty own next
    exact (digit (spaced_plain marks).after).elim

theorem split_at_separator {α : Type} {a b a' b' : List α} {s : α} (free : s ∉ a)
    (same : a ++ s :: b = a' ++ s :: b') : b = b' ∨ ∃ middle, b = middle ++ s :: b' := by
  rcases List.append_eq_append_iff.mp same with ⟨x, rfl, right⟩ | ⟨x, rfl, right⟩
  · cases x with
    | nil => exact .inl (List.cons.inj right).2
    | cons c middle =>
        obtain ⟨-, rfl⟩ := List.cons.inj right
        exact .inr ⟨middle, rfl⟩
  · cases x with
    | nil => exact .inl (List.cons.inj right).2.symm
    | cons c middle =>
        obtain ⟨rfl, -⟩ := List.cons.inj right
        exact (free (by simp)).elim

theorem within_pretty (marks : pretty.Marks m) (own : pretty.Marks m') (begun : back ≠ [])
    (reaches : m <+: back ++ (m' ++ rest)) : m <+: back := by
  rcases prefix_append_cases reaches with within | ⟨c, x, same, next⟩
  · exact within
  · obtain ⟨rfl, digit⟩ := not_space_of_pretty own next
    obtain ⟨line, column, tail, lineDigits, columnDigits, rfl, spaced⟩ := parts_pretty marks
    obtain ⟨line', column', tail', lineDigits', -, rfl, -⟩ := parts_pretty own
    cases back with
    | nil => exact (begun rfl).elim
    | cons b others =>
        rw [List.cons_append] at same
        obtain ⟨-, same⟩ := List.cons.inj same
        -- The colon that `own` begins with is the second of `m` or the last one.
        rcases split_at_separator (lineDigits.not_mem colon_not_digit) same with second | ⟨middle, last⟩
        · rw [List.cons_append] at next
          obtain ⟨-, y, continued⟩ := List.cons_prefix_cons.mp next
          rw [← second] at continued
          simp only [List.append_assoc, List.cons_append] at continued
          have apart := columnDigits.unique lineDigits' space_not_digit colon_not_digit continued
          cases apart
        · rw [last] at spaced
          exact (digit spaced.after).elim

end Overlap

/-- The file and the message leave the end of the file in no doubt: the file has no marker but at its very front, and in
the pretty form no plain marker comes first. -/
inductive Clear : Form → List Char → List Char → Prop where
  | plain {file message : List Char} (headless : ¬Headed plain file) : Clear plain file message
  | pretty {file message : List Char} (headless : ¬Headed plain file) (headless' : ¬Headed pretty file)
      (unmarked : ¬Marked plain message) : Clear pretty file message

theorem Clear.known (clear : Clear form file message) : form.Known := by
  cases clear with
  | plain headless => exact .plain
  | pretty headless headless' unmarked => exact .pretty

variable {m : List Char}

/-- If no marker begins in the file and goes on behind it, the file is read up to the marker that follows it. -/
theorem readFrom?_of_headless (known : form.Known) {h : Headline} (named : file ≠ []) (headless : ¬Headed form file)
    (within : ∀ back m', back ≠ [] → form.Marks m' → m' <+: back ++ rest → m' <+: back)
    (read : readAfterFile? form file rest = some h) : readFrom? form [] (file ++ rest) = some h := by
  refine readFrom?_append named ?_ read
  intro front back same begun unended
  refine (readAfterFile?_eq_none_iff known).mpr ?_
  intro m' marks reaches
  obtain ⟨message, rfl⟩ := within back m' unended marks reaches
  exact headless ⟨front, m', message, begun, marks, by rw [same, List.append_assoc]⟩

/-- A pretty marker makes no plain headline of a text. -/
theorem headless_of_pretty (own : pretty.Marks m) (headless : ¬Headed plain file) (unmarked : ¬Marked plain message) :
    ¬Headed plain (file ++ (m ++ message)) := by
  rintro ⟨file', m', message', begun, marks, same⟩
  rw [List.append_assoc] at same
  rcases List.append_eq_append_iff.mp same with ⟨x, rfl, right⟩ | ⟨back, rfl, right⟩
  · rcases List.append_eq_append_iff.mp right with ⟨y, rfl, inside⟩ | ⟨y, rfl, inside⟩
    · exact unmarked ⟨m', marks, y, message', by rw [inside, List.append_assoc]⟩
    · cases y with
      | nil => exact unmarked ⟨m', marks, [], message', by simpa using inside⟩
      | cons c z =>
          obtain ⟨rest, rfl, -⟩ := opens_plain marks
          obtain ⟨rfl, -⟩ := List.cons.inj inside
          exact closed_pretty own (by simp)
  · have reaches : m' <+: back ++ (m ++ message) := right ▸ List.prefix_append m' message'
    obtain ⟨later, rfl⟩ := within_pretty_of_plain marks own reaches
    exact headless ⟨file', m', later, begun, marks, by rw [List.append_assoc]⟩

theorem read?_marker {line column code : List Char} {word : String} {severity : Severity} (lineDigits : Digits line)
    (columnDigits : Digits column) (listed : (word, severity) ∈ severityWords) (codeDigits : Digits code)
    (named : file ≠ []) (clear : Clear form file message) :
    read? (file ++ (form.marker line column word code ++ message)) =
      some ⟨file, line, column, severity, code, message⟩ := by
  have own : form.Marks (form.marker line column word code) := .marker lineDigits columnDigits listed codeDigits
  have read := readAfterFile?_marker clear.known lineDigits columnDigits listed codeDigits file message
  unfold read?
  cases clear with
  | plain headless =>
      rw [readFrom?_of_headless .plain named headless (fun _ _ begun marks => within_plain marks own begun) read]
      rfl
  | pretty headless headless' unmarked =>
      rw [(readFrom?_eq_none_iff .plain).mpr (headless_of_pretty own headless unmarked), Option.none_or]
      exact readFrom?_of_headless .pretty named headless' (fun _ _ begun marks => within_pretty marks own begun) read

def written (form : Form) (d : Diagnostic) : String :=
  d.file.text ++ form.beforeLine ++ Text.natText d.line.toNat ++ form.beforeColumn ++ Text.natText d.column.toNat ++
    form.afterColumn ++ d.severity.name ++ " " ++ codeText d.code ++ ": " ++ d.message

theorem toList_written (form : Form) (d : Diagnostic) :
    (written form d).toList = d.file.text.toList ++ (form.marker (Nat.toDigits 10 d.line.toNat)
      (Nat.toDigits 10 d.column.toNat) d.severity.name (Nat.toDigits 10 d.code.toNat) ++ d.message.toList) := by
  simp [written, Form.marker, codeText, Text.natText, String.toList_append, String.toList_ofList, List.append_assoc]

theorem severity_listed (severity : Severity) : (severity.name, severity) ∈ severityWords := by
  cases severity <;> decide

theorem number?_toDigits (n : UInt32) : number? (Nat.toDigits 10 n.toNat) = some n := by
  rw [number?, Text.readUnsigned?_toDigits n.toNat_lt, Option.map_some, UInt32.ofNat_toNat]

/-- A diagnostic whose headline can be told apart: its file has a name, its message is something without blanks around
it, and neither hides a marker. -/
structure Legible (form : Form) (d : Diagnostic) : Prop where
  unclassified : d.category = .genericError
  named : d.file.text ≠ ""
  stated : d.message ≠ ""
  trimmed : Text.trimmed d.message = d.message
  oneLine : ∀ c ∈ d.file.text.toList ++ d.message.toList, c ≠ '\n' ∧ c ≠ '\x1b'
  clear : Clear form d.file.text.toList d.message.toList

theorem Form.Marks.oneLine (marks : form.Marks m) (known : form.Known) : ∀ c ∈ m, c ≠ '\n' ∧ c ≠ '\x1b' := by
  have newline : isDigit '\n' = false := not_isDigit (by decide) rfl
  have escape : isDigit '\x1b' = false := not_isDigit (by decide) rfl
  have free : '\n' ∉ m ∧ '\x1b' ∉ m := by
    cases known with
    | plain => exact ⟨marks.not_mem newline (by decide) (by decide), marks.not_mem escape (by decide) (by decide)⟩
    | pretty => exact ⟨marks.not_mem newline (by decide) (by decide), marks.not_mem escape (by decide) (by decide)⟩
  intro c member
  exact ⟨fun same => free.1 (same ▸ member), fun same => free.2 (same ▸ member)⟩

theorem written_oneLine {d : Diagnostic} (legible : Legible form d) :
    ∀ c ∈ (written form d).toList, c ≠ '\n' ∧ c ≠ '\x1b' := by
  have marks : form.Marks (form.marker (Nat.toDigits 10 d.line.toNat) (Nat.toDigits 10 d.column.toNat) d.severity.name
      (Nat.toDigits 10 d.code.toNat)) :=
    .marker (digits_toDigits _) (digits_toDigits _) (severity_listed _) (digits_toDigits _)
  intro c member
  rw [toList_written, List.mem_append, List.mem_append] at member
  rcases member with file | within | message
  · exact legible.oneLine c (List.mem_append_left _ file)
  · exact marks.oneLine legible.clear.known c within
  · exact legible.oneLine c (List.mem_append_right _ message)

/-- The headline of a diagnostic is read back to it. -/
theorem read?_written {d : Diagnostic} (legible : Legible form d) :
    ∃ h, read? (written form d).toList = some h ∧ h.diagnostic? = some d := by
  have named : d.file.text.toList ≠ [] := by simpa using legible.named
  have read := read?_marker (digits_toDigits d.line.toNat) (digits_toDigits d.column.toNat)
    (severity_listed d.severity) (digits_toDigits d.code.toNat) named legible.clear
  rw [← toList_written] at read
  refine ⟨_, read, ?_⟩
  obtain ⟨file, line, column, message, code, severity, category⟩ := d
  cases legible.unclassified
  have whole : String.ofList (Text.trim message.toList) = message := legible.trimmed
  simp only [diagnostic?, number?_toDigits, Option.bind_eq_bind, Option.bind_some, String.ofList_toList, whole]
  rfl

end Headline

end Remedy
