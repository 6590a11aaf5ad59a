import Remedy.Knowledge.Document
import Remedy.Proofs.Json.Reader
import Remedy.Proofs.Knowledge.Table

/-! Reading a knowledge base that was written. Main statement: the document of a table is read as that table, if the
numbers with a fraction and the times in it are read back. -/

namespace Remedy

namespace Text

theorem splitOnce?_row {sep : Char} {row : List Char} (whole : sep ∉ row) (rest : List Char) :
    splitOnce? sep (row ++ sep :: rest) = some (row, rest) := by
  induction row with
  | nil => simp [splitOnce?]
  | cons c row ih =>
      rw [List.mem_cons, not_or] at whole
      rw [List.cons_append, splitOnce?, if_neg (Ne.symm whole.1), ih whole.2]
      rfl

theorem trim_of_solid {cs : List Char} (solid : ∀ c ∈ cs, isBlank c = false) : trim cs = cs := by
  have kept : ∀ ds : List Char, (∀ c ∈ ds, isBlank c = false) → ds.dropWhile isBlank = ds := by
    intro ds solid
    cases ds with
    | nil => rfl
    | cons c rest => rw [List.dropWhile_cons, solid c List.mem_cons_self, if_neg Bool.false_ne_true]
  rw [trim, trimEnd, trimStart, kept cs solid, kept cs.reverse fun c member => solid c (List.mem_reverse.mp member),
    List.reverse_reverse]

theorem isBlank_of_isDigit {c : Char} (digit : c.isDigit = true) : isBlank c = false := by
  simp only [Char.isDigit, Bool.and_eq_true, decide_eq_true_eq, ge_iff_le, UInt32.le_iff_toNat_le] at digit
  have range : 48 ≤ c.toNat ∧ c.toNat ≤ 57 := digit
  simp only [isBlank, blankRanges, List.any_cons, List.any_nil, Bool.or_false, Bool.or_eq_false_iff,
    Bool.and_eq_false_iff, decide_eq_false_iff_not]
  omega

theorem stripAll_of_head? {c : Char} {start cs : List Char} (other : cs.head? ≠ some c) (n : Nat) :
    stripAll (c :: start) n cs = cs := by
  cases n with
  | zero => rfl
  | succ n =>
      have apart : (c :: start).isPrefixOf cs = false := by
        cases cs with
        | nil => rfl
        | cons d rest =>
            have different : c ≠ d := by
              rintro rfl
              exact other rfl
            simp [List.isPrefixOf, different]
      rw [stripAll, stripStart?, apart]
      rfl

end Text

namespace Signature

theorem ofText?_name (c : Category) : Category.ofText? (String.ofList c.name.toList) = some c := by
  rw [String.ofList_toList]
  cases c <;> rfl

theorem toList_text (s : Signature) :
    s.text.toList = ('T' :: 'S' :: Nat.toDigits 10 s.code.toNat) ++ ':' :: s.category.name.toList := by
  simp [text, Text.natText]

/-- A signature is read back from its text, whatever its code and category. -/
theorem ofText?_of_text (s : Signature) : ofText? s.text = some s := by
  have digits : ∀ c ∈ Nat.toDigits 10 s.code.toNat, c.isDigit = true := fun _ member => Text.toDigits_isDigit member
  have whole : ':' ∉ 'T' :: 'S' :: Nat.toDigits 10 s.code.toNat := by
    simp only [List.mem_cons, not_or]
    exact ⟨by decide, by decide, fun member => absurd (digits _ member) (by decide)⟩
  have solid : ∀ c ∈ 'T' :: 'S' :: Nat.toDigits 10 s.code.toNat, Text.isBlank c = false := by
    simp only [List.forall_mem_cons]
    exact ⟨by decide, by decide, fun c member => Text.isBlank_of_isDigit (digits c member)⟩
  have upper := Text.toDigits_head?_of_not_digit (n := s.code.toNat) (c := 'T') rfl
  have lower := Text.toDigits_head?_of_not_digit (n := s.code.toNat) (c := 't') rfl
  have number := Text.readUnsigned?_toDigits (n := s.code.toNat) s.code.toNat_lt
  unfold ofText?
  rw [toList_text, Text.splitOnce?_row whole]
  have stripped : Text.stripAll ['T', 'S'] ('T' :: 'S' :: Nat.toDigits 10 s.code.toNat).length
      ('T' :: 'S' :: Nat.toDigits 10 s.code.toNat) = Nat.toDigits 10 s.code.toNat :=
    Text.stripAll_of_head? upper _
  simp only [Text.trim_of_solid solid, stripped, Text.stripAll_of_head? lower, number, ofText?_name,
    UInt32.ofNat_toNat]

theorem text_injective {a b : Signature} (same : a.text = b.text) : a = b := by
  have back := ofText?_of_text b
  rw [← same, ofText?_of_text a] at back
  exact Option.some.inj back

end Signature

theorem Json.asList?_ofList {α : Type} {write : α → Json} {read : Json.Decoder α} {items : List α}
    (back : ∀ a ∈ items, read (write a) = some a) : Json.asList? read (.ofList write items) = some items := by
  change (items.map write).mapM read = some items
  induction items with
  | nil => rfl
  | cons a rest ih =>
      rw [List.map_cons, List.mapM_cons, back a List.mem_cons_self,
        ih fun b member => back b (List.mem_cons_of_mem _ member)]
      rfl

namespace LearnedSolution

theorem ofJson?_toJson (s : LearnedSolution) : ofJson? s.toJson = some s := rfl

theorem toJson_readable (depth : Nat) (s : LearnedSolution) : Json.Readable (depth + 1) s.toJson := by
  refine .obj ?_
  simp only [List.forall_mem_cons]
  exact ⟨.str _ _, .str _ _, .nat _ _, .nat _ _, .nat _ _, .nat _ _, by simp⟩

end LearnedSolution

namespace Entry

/-- The numbers with a fraction and the time of an entry are read back from their texts. -/
structure ReadsBack (e : Entry Float) : Prop where
  averageTime : Json.ReadsBack e.averageTime
  adjustment : Json.ReadsBack e.adjustment
  lastUpdated : Instant.read? e.lastUpdated.text = some e.lastUpdated

theorem ofJson?_toJson {e : Entry Float} (back : e.ReadsBack) : ofJson? e.toJson = some e := by
  have signature : Signature.ofJson? e.signature.toJson = some e.signature := by
    rw [Signature.ofJson?, Signature.toJson, Json.asText?, Option.bind_some, Signature.ofText?_of_text]
  have solutions : Json.asList? LearnedSolution.ofJson? (.ofList LearnedSolution.toJson e.solutions) =
      some e.solutions := Json.asList?_ofList fun s _ => LearnedSolution.ofJson?_toJson s
  have time : Instant.ofJson? e.lastUpdated.toJson = some e.lastUpdated := by
    rw [Instant.ofJson?, Instant.toJson, Json.asText?, Option.bind_some, back.lastUpdated]
  have record : Json.Record.of? fieldNames e.toJson = some ⟨[("signature", e.signature.toJson),
      ("observedResolutions", .nat e.observed), ("successCount", .nat e.successCount),
      ("averageTimeToResolve", .real e.averageTime), ("derivedConfidenceAdjustment", .real e.adjustment),
      ("learnedSolutions", .ofList LearnedSolution.toJson e.solutions), ("lastUpdated", e.lastUpdated.toJson)],
      false⟩ := rfl
  unfold ofJson?
  rw [record]
  simp [Json.Record.required, Json.Record.defaulted, Json.Record.lookup?, signature, solutions, time, Json.asUInt64?,
    Json.asFloat?]

theorem toJson_readable (depth : Nat) {e : Entry Float} (back : e.ReadsBack) : Json.Readable (depth + 3) e.toJson := by
  refine .obj ?_
  simp only [List.forall_mem_cons]
  refine ⟨.str _ _, .nat _ _, .nat _ _, .real _ back.averageTime, .real _ back.adjustment, .arr ?_, .str _ _, by simp⟩
  intro j member
  obtain ⟨s, -, rfl⟩ := List.mem_map.mp member
  exact s.toJson_readable depth

end Entry

namespace Table

theorem insertInto_last {e : Entry Float} {front : List (Entry Float)}
    (after : ∀ f ∈ front, f.signature.compare e.signature = .lt) : insertInto e front = front ++ [e] := by
  induction front with
  | nil => rfl
  | cons f front ih =>
      have later : e.signature.compare f.signature = .gt :=
        (Signature.compare_eq_gt_iff _ _).mpr (after f List.mem_cons_self)
      rw [insertInto, later]
      simp only
      rw [ih fun g member => after g (List.mem_cons_of_mem f member)]
      rfl

theorem ofList_of_ordered {entries : List (Entry Float)} (ordered : Ordered entries) : ofList entries = ⟨entries⟩ := by
  have grown : ∀ front rest : List (Entry Float), Ordered (front ++ rest) →
      rest.foldl insert ⟨front⟩ = (⟨front ++ rest⟩ : Table Float) := by
    intro front rest ordered
    induction rest generalizing front with
    | nil => simp
    | cons e rest ih =>
        have after : ∀ f ∈ front, f.signature.compare e.signature = .lt := fun f member =>
          (List.pairwise_append.mp ordered).2.2 f member e List.mem_cons_self
        rw [List.foldl_cons, insert, insertInto_last after, ih (front ++ [e]) (by simpa using ordered)]
        simp
  exact grown [] entries ordered

theorem fields?_toJson {t : Table Float} (back : ∀ e ∈ t.entries, e.ReadsBack) :
    fields? t.toJson = some (version, t.entries) := by
  have entries : Json.asList? Entry.ofJson? (.ofList Entry.toJson t.entries) = some t.entries :=
    Json.asList?_ofList fun e member => Entry.ofJson?_toJson (back e member)
  have record : Json.Record.of? fieldNames t.toJson =
      some ⟨[("version", .ofUInt32 version), ("entries", .ofList Entry.toJson t.entries)], false⟩ := rfl
  have number : Json.asUInt32? (.ofUInt32 version) = some version := rfl
  unfold fields?
  rw [record]
  simp [Json.Record.required, Json.Record.defaulted, Json.Record.lookup?, number, entries]

theorem toJson_readable (depth : Nat) {t : Table Float} (back : ∀ e ∈ t.entries, e.ReadsBack) :
    Json.Readable (depth + 5) t.toJson := by
  refine .obj ?_
  simp only [List.forall_mem_cons]
  refine ⟨.nat _ _, .arr ?_, by simp⟩
  intro j member
  obtain ⟨e, among, rfl⟩ := List.mem_map.mp member
  exact Entry.toJson_readable depth (back e among)

theorem length_toText (t : Table Float) : 5 ≤ t.toText.length := by
  rw [← String.length_toList, toText, Json.toList_pretty, toJson, Json.charsAt, Json.fieldsChars, Json.fieldsChars,
    Json.fieldsChars, Json.newlineChars]
  simp [List.intercalate]

/-- The text of the table is read back as it is. -/
def Legible (t : Table Float) : Prop := read t.toText = .ok t

/-- The document of a table is read as that table. -/
theorem legible_of_readsBack {t : Table Float} (ordered : Ordered t.entries) (back : ∀ e ∈ t.entries, e.ReadsBack) :
    t.Legible := by
  have written : Text.isAllBlank t.toText = false := by
    rw [Text.isAllBlank, toText, Json.toList_pretty, toJson, Json.charsAt]
    rfl
  have parsed : (Json.scan? t.toText).bind fields? = some (version, t.entries) := by
    obtain ⟨depth, deep⟩ := Nat.exists_eq_add_of_le' t.length_toText
    have scanned : Json.scan? t.toText = some t.toJson := Json.scan?_pretty (deep ▸ toJson_readable depth back)
    rw [scanned, Option.bind_some, fields?_toJson back]
  unfold Legible read
  simp only [written, parsed, Bool.false_eq_true, ↓reduceIte, ofList_of_ordered ordered]

/-- The document of a table is read as that table, and no two signatures share a text. What is taken for granted of each
entry is that its two numbers with a fraction and its time are read back from their own texts. -/
theorem document_readsBack {t : Table Float} (ordered : Ordered t.entries) (back : ∀ e ∈ t.entries, e.ReadsBack) :
    read t.toText = .ok t ∧ (∀ s : Signature, Signature.ofText? s.text = some s) ∧
      ∀ a b : Signature, a.text = b.text → a = b :=
  ⟨legible_of_readsBack ordered back, Signature.ofText?_of_text, fun _ _ => Signature.text_injective⟩

def varied : Table Float :=
  ⟨[⟨⟨2304, .typeError⟩, 18446744073709551615, 1, 2.5, -0.5, [⟨"say \"yes\"\n\x01", "\\d+", 3, 2, 1, 0⟩], ⟨0, 0⟩⟩,
    ⟨⟨2304, .unusedCode⟩, 7, 0, 0.15, 0.0, [], ⟨951782400, 123000000⟩⟩]⟩

theorem varied_readsBack : ∀ e ∈ varied.entries, e.ReadsBack := by
  simp only [varied, List.forall_mem_cons]
  refine ⟨⟨?_, ?_, ?_⟩, ⟨?_, ?_, ?_⟩, by simp⟩
  all_goals rfl

theorem document_readsBack_varied : read varied.toText = .ok varied :=
  (document_readsBack (t := varied) (by unfold Ordered; decide) varied_readsBack).1

end Table

end Remedy
