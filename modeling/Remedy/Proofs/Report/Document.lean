import Mathlib.Data.List.Forall2
import Mathlib.Data.List.Nodup
import Remedy.Report.Source

/-! Documents of diagnostics. Main statement: whichever way its diagnostics are written, a list of them, a record with
such a list and a single diagnostic are each read in one way only, and as what they hold. -/

namespace Remedy

namespace Json.Record

variable {names : List String} {fields : List (String × Json)} {name : String} {j : Json}

theorem firstTwice_of_nodup (distinct : names.Nodup) : firstTwice names = false := by
  induction names with
  | nil => rfl
  | cons name rest ih =>
      obtain ⟨own, distinct⟩ := List.nodup_cons.mp distinct
      simp [firstTwice, own, ih distinct]

theorem find?_eq_some (distinct : (fields.map Prod.fst).Nodup) (member : (name, j) ∈ fields) :
    fields.find? (·.1 == name) = some (name, j) := by
  induction fields with
  | nil => cases member
  | cons f rest ih =>
      rw [List.map_cons, List.nodup_cons] at distinct
      rcases List.mem_cons.mp member with rfl | later
      · simp
      · have other : (f.1 == name) = false := by
          rw [beq_eq_false_iff_ne]
          intro same
          exact distinct.1 (List.mem_map.mpr ⟨(name, j), later, same.symm⟩)
        rw [List.find?_cons, other]
        exact ih distinct.2 later

theorem find?_eq_none (absent : name ∉ fields.map Prod.fst) : fields.find? (·.1 == name) = none := by
  rw [List.find?_eq_none]
  intro f member same
  exact absent (beq_iff_eq.mp same ▸ List.mem_map_of_mem member)

theorem zip_take (fields : List (String × Json)) (n : ℕ) :
    (fields.map Prod.fst).zip ((fields.take n).map Prod.snd) = fields.take n := by
  induction fields generalizing n with
  | nil => simp
  | cons f rest ih =>
      cases n with
      | zero => rfl
      | succ n => rw [List.take_succ_cons, List.map_cons, List.map_cons, List.zip_cons_cons, ih]

theorem of?_arr (fields : List (String × Json)) (n : ℕ) :
    of? (fields.map Prod.fst) (.arr ((fields.take n).map Prod.snd)) = some ⟨fields.take n, true⟩ := by
  have short : ((fields.take n).map Prod.snd).length ≤ (fields.map Prod.fst).length := by
    rw [List.length_map, List.length_map, List.length_take]
    exact Nat.min_le_right _ _
  rw [of?, if_pos short, zip_take]

theorem of?_obj (distinct : (fields.map Prod.fst).Nodup) :
    of? names (.obj fields) = some ⟨fields.filter fun f => names.contains f.1, false⟩ := by
  have known : ((fields.filter fun f => names.contains f.1).map Prod.fst).Nodup :=
    distinct.sublist (List.filter_sublist.map _)
  rw [of?, firstTwice_of_nodup known]
  rfl

theorem lookup?_known (wanted : name ∈ names) (ordered : Bool) :
    lookup? ⟨fields.filter fun f => names.contains f.1, ordered⟩ name =
      (fields.find? (·.1 == name)).map Prod.snd := by
  rw [lookup?, List.find?_filter]
  congr 2
  funext f
  by_cases same : f.1 = name
  · simp [same, wanted]
  · simp [same]

end Json.Record

namespace Diagnostic

variable {d : Diagnostic} {j : Json} {r : Json.Record}

def fields (d : Diagnostic) : List (String × Json) :=
  fieldNames.zip [d.file.toJson, .ofUInt32 d.line, .ofUInt32 d.column, .str d.message, .ofUInt32 d.code,
    d.severity.toJson, d.category.toJson]

def Usual (d : Diagnostic) (name : String) : Prop :=
  name = "severity" ∧ d.severity = .error ∨ name = "category" ∧ d.category = .genericError

/-- The forms in which a diagnostic may be written. Usual fields may be left out. -/
inductive Written (d : Diagnostic) : Json → Prop
  /-- The fields in their order, those at the end left out. -/
  | inOrder (n : ℕ) (rest : ∀ f ∈ d.fields.drop n, d.Usual f.1) : Written d (.arr ((d.fields.take n).map Prod.snd))
  /-- The fields by name, in any order and with others beside them. -/
  | byName {fields : List (String × Json)} (distinct : (fields.map Prod.fst).Nodup)
      (given : ∀ f ∈ d.fields, f ∈ fields ∨ d.Usual f.1 ∧ f.1 ∉ fields.map Prod.fst)
      (plain : "diagnostics" ∉ fields.map Prod.fst) : Written d (.obj fields)

theorem fields_names (d : Diagnostic) : d.fields.map Prod.fst = fieldNames := rfl

theorem fieldNames_nodup : fieldNames.Nodup := by decide

theorem written_toJson (d : Diagnostic) : Written d d.toJson := by
  have distinct : (d.fields.map Prod.fst).Nodup := fieldNames_nodup
  have plain : "diagnostics" ∉ d.fields.map Prod.fst := by
    rw [fields_names]
    decide
  exact .byName distinct (fun _ member => .inl member) plain

def Gives (d : Diagnostic) (r : Json.Record) : Prop :=
  ∀ f ∈ d.fields, r.lookup? f.1 = some f.2 ∨ d.Usual f.1 ∧ r.lookup? f.1 = none

theorem Written.gives (written : Written d j) : ∃ r, Json.Record.of? fieldNames j = some r ∧ d.Gives r := by
  cases written with
  | inOrder n rest =>
      refine ⟨_, Json.Record.of?_arr d.fields n, ?_⟩
      have distinct : (d.fields.map Prod.fst).Nodup := fieldNames_nodup
      rw [← List.take_append_drop n d.fields, List.map_append, List.nodup_append] at distinct
      intro f member
      rw [← List.take_append_drop n d.fields, List.mem_append] at member
      rcases member with given | left
      · exact .inl (by rw [Json.Record.lookup?, Json.Record.find?_eq_some distinct.1 given]; rfl)
      · have absent : f.1 ∉ (d.fields.take n).map Prod.fst :=
          fun given => distinct.2.2 _ given _ (List.mem_map_of_mem left) rfl
        exact .inr ⟨rest f left, by rw [Json.Record.lookup?, Json.Record.find?_eq_none absent]; rfl⟩
  | byName distinct given plain =>
      refine ⟨_, Json.Record.of?_obj distinct, ?_⟩
      intro f member
      have wanted : f.1 ∈ fieldNames := List.mem_map_of_mem member
      rw [Json.Record.lookup?_known wanted]
      rcases given f member with there | ⟨usual, absent⟩
      · exact .inl (by rw [Json.Record.find?_eq_some distinct there]; rfl)
      · exact .inr ⟨usual, by rw [Json.Record.find?_eq_none absent]; rfl⟩

theorem asUInt32?_ofUInt32 (n : UInt32) : Json.asUInt32? (.ofUInt32 n) = some n := by
  have small : n.toNat < UInt32.size := n.toNat_lt_size
  simp [Json.asUInt32?, Json.ofUInt32, small]

theorem severity_ofJson?_toJson (s : Severity) : Severity.ofJson? s.toJson = some s := by
  cases s <;> decide

theorem category_ofJson?_toJson (c : Category) : Category.ofJson? c.toJson = some c := by
  cases c <;> decide

section Reading

variable {α : Type} {name : String} {value : Json} {a absent : α} {read : Json.Decoder α}

theorem Gives.required (gives : d.Gives r) (member : (name, value) ∈ d.fields)
    (due : name ≠ "severity" ∧ name ≠ "category") (known : read value = some a) : r.required name read = some a := by
  have there : r.lookup? name = some value :=
    (gives _ member).resolve_right fun left => left.1.elim (fun usual => due.1 usual.1) fun usual => due.2 usual.1
  rw [Json.Record.required, there, Option.bind_some, known]

theorem Gives.defaulted (gives : d.Gives r) (member : (name, value) ∈ d.fields) (usual : d.Usual name → absent = a)
    (known : read value = some a) : r.defaulted name absent read = some a := by
  unfold Json.Record.defaulted
  rcases gives _ member with there | ⟨left, none⟩
  · rw [there, ← known]
  · rw [none, usual left]

end Reading

theorem ofJson?_of_gives (record : Json.Record.of? fieldNames j = some r) (gives : d.Gives r) : ofJson? j = some d := by
  have file : r.required "file" Path.ofJson? = some d.file :=
    gives.required (by simp [fields, fieldNames]) (by decide) (rfl : Path.ofJson? d.file.toJson = some d.file)
  have line : r.required "line" Json.asUInt32? = some d.line :=
    gives.required (by simp [fields, fieldNames]) (by decide) (asUInt32?_ofUInt32 _)
  have column : r.required "column" Json.asUInt32? = some d.column :=
    gives.required (by simp [fields, fieldNames]) (by decide) (asUInt32?_ofUInt32 _)
  have message : r.required "message" Json.asText? = some d.message :=
    gives.required (by simp [fields, fieldNames]) (by decide) (rfl : Json.asText? (.str d.message) = some d.message)
  have code : r.required "code" Json.asUInt32? = some d.code :=
    gives.required (by simp [fields, fieldNames]) (by decide) (asUInt32?_ofUInt32 _)
  have severity : r.defaulted "severity" .error Severity.ofJson? = some d.severity :=
    gives.defaulted (by simp [fields, fieldNames]) (by simp [Usual, eq_comm]) (severity_ofJson?_toJson _)
  have category : r.defaulted "category" .genericError Category.ofJson? = some d.category :=
    gives.defaulted (by simp [fields, fieldNames]) (by simp [Usual, eq_comm]) (category_ofJson?_toJson _)
  simp only [ofJson?, record, Option.bind_eq_bind, Option.bind_some, file, line, column, message, code, severity,
    category]
  rfl

theorem Written.ofJson? (written : Written d j) : ofJson? j = some d := by
  obtain ⟨r, record, gives⟩ := written.gives
  exact ofJson?_of_gives record gives

theorem ofJson?_arr_eq_none {items : List Json} (untold : ∀ s, items.head? ≠ some (.str s)) :
    Diagnostic.ofJson? (.arr items) = none := by
  cases items with
  | nil => rfl
  | cons first rest =>
      have nameless : Path.ofJson? first = none := by
        cases first with
        | str s => exact (untold s rfl).elim
        | _ => rfl
      by_cases short : (first :: rest).length ≤ fieldNames.length
      · have record : Json.Record.of? fieldNames (.arr (first :: rest)) = some ⟨fieldNames.zip (first :: rest), true⟩ :=
          if_pos short
        have unnamed : Json.Record.required ⟨fieldNames.zip (first :: rest), true⟩ "file" Path.ofJson? = none :=
          nameless
        simp only [Diagnostic.ofJson?, record, Option.bind_eq_bind, Option.bind_some, unnamed]
        rfl
      · have long : Json.Record.of? fieldNames (.arr (first :: rest)) = none := if_neg short
        simp only [Diagnostic.ofJson?, long]
        rfl

theorem Written.cases_head (written : Written d j) :
    (∃ fields, j = .obj fields ∧ "diagnostics" ∉ fields.map Prod.fst ∧ (fields.map Prod.fst).Nodup) ∨
      ∃ s rest, j = .arr (.str s :: rest) := by
  cases written with
  | inOrder n rest =>
      cases n with
      | zero =>
          have named := rest ("file", d.file.toJson) (by simp [fields, fieldNames])
          simp [Usual] at named
      | succ n => exact .inr ⟨d.file.text, _, rfl⟩
  | byName distinct given plain => exact .inl ⟨_, rfl, plain, distinct⟩

end Diagnostic

namespace Document

open Diagnostic (Written)

variable {d : Diagnostic} {ds : List Diagnostic} {j : Json} {records : List Json}

inductive Shape where
  | wrapped
  | many
  | one
  deriving DecidableEq

def Shape.read? : Shape → Json → Option (List Diagnostic)
  | wrapped => wrapped?
  | many => many?
  | one => one?

/-- The document has one shape and no other, and any text of it is read as these diagnostics. -/
structure ReadAs (shape : Shape) (j : Json) (ds : List Diagnostic) : Prop where
  alone : ∀ other : Shape, other.read? j = if other = shape then some ds else none
  told : ∀ path s, Json.parse? s = some j → Report.ofDocument path s = .ok ds

theorem readAs_of_alone {shape : Shape}
    (alone : ∀ other : Shape, other.read? j = if other = shape then some ds else none) : ReadAs shape j ds where
  alone := alone
  told := by
    intro path s parsed
    have read : Document.ofJson? j = some ds := by
      have wrapped := alone .wrapped
      have many := alone .many
      have one := alone .one
      simp only [Shape.read?] at wrapped many one
      rw [Document.ofJson?, wrapped, many, one]
      cases shape <;> rfl
    rw [Report.ofDocument, diagnostics?, parsed, Option.bind_some, read]

theorem many?_of_written (written : List.Forall₂ Written ds records) : many? (.arr records) = some ds := by
  unfold many? Json.asList?
  induction written with
  | nil => rfl
  | cons first rest ih =>
      dsimp only at ih ⊢
      rw [List.mapM_cons, first.ofJson?, ih]
      rfl

theorem readAs_many (written : List.Forall₂ Written ds records) : ReadAs .many (.arr records) ds := by
  refine readAs_of_alone ?_
  have untold : ∀ s, records.head? ≠ some (.str s) := by
    intro s
    cases written with
    | nil => simp
    | cons first rest =>
        rintro ⟨⟩
        rcases first.cases_head with ⟨_, same, _⟩ | ⟨_, _, same⟩ <;> cases same
  intro other
  cases other with
  | wrapped => rfl
  | many => exact many?_of_written written
  | one =>
      simp only [Shape.read?, one?, Diagnostic.ofJson?_arr_eq_none untold]
      rfl

theorem readAs_wrapped (written : List.Forall₂ Written ds records) :
    ReadAs .wrapped (.obj [("diagnostics", .arr records)]) ds := by
  refine readAs_of_alone ?_
  intro other
  cases other with
  | wrapped => exact many?_of_written written
  | many => rfl
  | one => rfl

theorem readAs_one (written : Written d j) : ReadAs .one j [d] := by
  refine readAs_of_alone ?_
  intro other
  cases other with
  | wrapped =>
      rcases written.cases_head with ⟨fields, rfl, plain, distinct⟩ | ⟨s, rest, rfl⟩
      · have known : Json.Record.lookup? ⟨fields.filter fun f => ["diagnostics"].contains f.1, false⟩ "diagnostics" =
            none := by
          rw [Json.Record.lookup?_known List.mem_cons_self, Json.Record.find?_eq_none plain]
          rfl
        simp only [Shape.read?, wrapped?, Json.Record.of?_obj distinct, Option.bind_eq_bind, Option.bind_some,
          Json.Record.required, known]
        rfl
      · rfl
  | many =>
      rcases written.cases_head with ⟨fields, rfl, -⟩ | ⟨s, rest, rfl⟩
      · rfl
      · have untold : Diagnostic.ofJson? (.str s) = none := rfl
        simp [Shape.read?, many?, Json.asList?, List.mapM_cons, untold]
  | one =>
      simp only [Shape.read?, one?, written.ofJson?]
      rfl

/-- A list of diagnostics and a record with such a list are read as this list, and a single diagnostic is read as the
list of it alone, in whichever form each diagnostic is written. None of these documents has two shapes. -/
theorem documents_read (written : List.Forall₂ Written ds records) :
    ReadAs .many (.arr records) ds ∧ ReadAs .wrapped (.obj [("diagnostics", .arr records)]) ds ∧
      ∀ d j, Written d j → ReadAs .one j [d] :=
  ⟨readAs_many written, readAs_wrapped written, fun _ _ => readAs_one⟩

def unused : Diagnostic := ⟨⟨"src/a.ts"⟩, 3, 10, "'x' is declared but never used.", 6133, .warning, .unusedCode⟩

def plain : Diagnostic := ⟨⟨"src/b.ts"⟩, 1, 2, "Odd.", 9999, .error, .genericError⟩

def plainInOrder : Json := .arr [.str "src/b.ts", .ofUInt32 1, .ofUInt32 2, .str "Odd.", .ofUInt32 9999]

theorem documents_read_mixed : List.Forall₂ Written [unused, plain] [unused.toJson, plainInOrder] ∧
    ReadAs .many (.arr [unused.toJson, plainInOrder]) [unused, plain] ∧ ReadAs .one plainInOrder [plain] := by
  have short : Written plain plainInOrder :=
    .inOrder 5 (by simp [Diagnostic.fields, Diagnostic.fieldNames, Diagnostic.Usual, plain])
  have written : List.Forall₂ Written [unused, plain] [unused.toJson, plainInOrder] :=
    .cons unused.written_toJson (.cons short .nil)
  obtain ⟨many, -, one⟩ := documents_read written
  exact ⟨written, many, one plain plainInOrder short⟩

example : diagnostics? "[[\"src/b.ts\",1,2,\"Odd.\",9999]]" = some [plain] := by decide +kernel

end Document

end Remedy
