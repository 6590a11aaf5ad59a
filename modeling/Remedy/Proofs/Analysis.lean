import Mathlib.Data.List.Induction
import Mathlib.Data.List.Nodup
import Mathlib.Data.Prod.Lex
import Remedy.Analysis
import Remedy.Knowledge.Memory
import Remedy.Proofs.Action.Run
import Remedy.Proofs.Sorting

/-! Findings that may share a cause. Main statement: the related signatures are those of the other findings near a
diagnostic whose categories go with its own, each once, in the order in which they first occur in the file. -/

namespace Remedy

theorem Catalog.coOccurs_comm (a b : Category) : coOccurs a b = coOccurs b a := by
  unfold coOccurs
  rw [Bool.or_assoc, Bool.or_assoc, Bool.or_comm ((category a).coOccursWith.contains b), decide_eq_decide.mpr eq_comm]

namespace Diagnostic

variable {a b : Diagnostic}

theorem same_iff :
    a.same b = true ↔ a.file.components = b.file.components ∧ a = { b with file := a.file } := by
  obtain ⟨file, line, column, message, code, severity, category⟩ := a
  obtain ⟨file', line', column', message', code', severity', category'⟩ := b
  simp only [same, Path.same, Bool.and_eq_true, beq_iff_eq, and_assoc, Diagnostic.mk.injEq, true_and]

theorem signature_of_same (same : a.same b = true) : a.normalize.signature = b.normalize.signature := by
  rw [(same_iff.mp same).2]
  rfl

end Diagnostic

namespace Analysis

variable {own : Signature}

theorem distinctFrom_concat (own : Signature) (xs : List Signature) (x : Signature) :
    distinctFrom own (xs ++ [x]) =
      if x = own ∨ x ∈ distinctFrom own xs then distinctFrom own xs else distinctFrom own xs ++ [x] := by
  unfold distinctFrom
  rw [List.foldl_append, List.foldl_cons, List.foldl_nil]
  simp only [Bool.or_eq_true, decide_eq_true_eq, List.contains_iff_mem]

theorem distinctFrom_nodup (own : Signature) (xs : List Signature) : (distinctFrom own xs).Nodup := by
  induction xs using List.reverseRecOn with
  | nil => exact List.nodup_nil
  | append_singleton xs x ih =>
      rw [distinctFrom_concat]
      split
      · exact ih
      · rename_i new
        rw [not_or] at new
        exact List.concat_eq_append ▸ ih.concat new.2

theorem mem_distinctFrom {xs : List Signature} {s : Signature} : s ∈ distinctFrom own xs ↔ s ≠ own ∧ s ∈ xs := by
  induction xs using List.reverseRecOn generalizing s with
  | nil => simp [distinctFrom]
  | append_singleton xs x ih =>
      rw [distinctFrom_concat, List.mem_append, List.mem_singleton]
      split
      · rename_i old
        rw [ih] at old ⊢
        refine ⟨fun ⟨other, listed⟩ => ⟨other, .inl listed⟩, ?_⟩
        rintro ⟨other, listed | rfl⟩
        · exact ⟨other, listed⟩
        · exact old.resolve_left other
      · rename_i new
        rw [List.mem_append, List.mem_singleton, ih]
        constructor
        · rintro (⟨other, listed⟩ | rfl)
          · exact ⟨other, .inl listed⟩
          · exact ⟨fun same => new (.inl same), .inr rfl⟩
        · rintro ⟨other, listed | rfl⟩
          · exact .inl ⟨other, listed⟩
          · exact .inr rfl

section Leading

variable {ρ : Type} {key : ρ → Signature} {before : ρ → ρ → Prop} {items : List ρ} {s : Signature} {a : ρ}

structure Leads (key : ρ → Signature) (before : ρ → ρ → Prop) (items : List ρ) (s : Signature) (a : ρ) : Prop where
  listed : a ∈ items
  keyed : key a = s
  first : ∀ b ∈ items, key b = s → b = a ∨ before a b

theorem Leads.concat {x : ρ} (leads : Leads key before items s a) (last : ∀ a ∈ items, before a x) :
    Leads key before (items ++ [x]) s a where
  listed := List.mem_append_left [x] leads.listed
  keyed := leads.keyed
  first b member keyed := by
    rcases List.mem_append.mp member with earlier | here
    · exact leads.first b earlier keyed
    · cases List.mem_singleton.mp here
      exact .inr (last a leads.listed)

theorem leads_last {x : ρ} (new : key x ∉ items.map key) : Leads key before (items ++ [x]) (key x) x where
  listed := List.mem_append_right items List.mem_cons_self
  keyed := rfl
  first b member same := by
    rcases List.mem_append.mp member with listed | here
    · exact absurd (List.mem_map.mpr ⟨b, listed, same⟩) new
    · exact .inl (List.mem_singleton.mp here)

theorem exists_leads (ordered : items.Pairwise before) (occurs : s ∈ items.map key) :
    ∃ a, Leads key before items s a := by
  induction items using List.reverseRecOn with
  | nil => exact (List.not_mem_nil occurs).elim
  | append_singleton items x ih =>
      obtain ⟨earlier, -, last⟩ := List.pairwise_append.mp ordered
      by_cases known : s ∈ items.map key
      · obtain ⟨a, leads⟩ := ih earlier known
        exact ⟨a, leads.concat fun a listed => last a listed x List.mem_cons_self⟩
      · rw [List.map_append, List.mem_append, List.map_singleton, List.mem_singleton] at occurs
        obtain rfl := occurs.resolve_left known
        exact ⟨x, leads_last known⟩

theorem distinctFrom_pairwise (own : Signature) (ordered : items.Pairwise before) :
    (distinctFrom own (items.map key)).Pairwise fun s t =>
      ∃ a b, Leads key before items s a ∧ Leads key before items t b ∧ before a b := by
  induction items using List.reverseRecOn with
  | nil => exact List.Pairwise.nil
  | append_singleton items x ih =>
      obtain ⟨earlier, -, last⟩ := List.pairwise_append.mp ordered
      have later : ∀ a ∈ items, before a x := fun a listed => last a listed x List.mem_cons_self
      have rising : (distinctFrom own (items.map key)).Pairwise fun s t =>
          ∃ a b, Leads key before (items ++ [x]) s a ∧ Leads key before (items ++ [x]) t b ∧ before a b := by
        refine (ih earlier).imp ?_
        rintro s t ⟨a, b, leads, leads', precedes⟩
        exact ⟨a, b, leads.concat later, leads'.concat later, precedes⟩
      rw [List.map_append, List.map_singleton, distinctFrom_concat]
      split
      · exact rising
      · rename_i new
        rw [not_or, mem_distinctFrom, not_and] at new
        refine List.pairwise_append.mpr ⟨rising, List.pairwise_singleton _ _, ?_⟩
        intro s listed t here
        cases List.mem_singleton.mp here
        obtain ⟨a, leads⟩ := exists_leads earlier (mem_distinctFrom.mp listed).2
        exact ⟨a, x, leads.concat later, leads_last (new.2 new.1), later a leads.listed⟩

end Leading

section Related

variable {window : UInt32} {d other : Diagnostic} {batch : List Diagnostic} {s : Signature}

structure Reaches (window : UInt32) (d other : Diagnostic) : Prop where
  file : other.file.components = d.file.components
  above : other.line.toNat ≤ d.line.toNat + window.toNat
  below : d.line.toNat ≤ other.line.toNat + window.toNat

instance (window : UInt32) (d other : Diagnostic) : Decidable (Reaches window d other) :=
  decidable_of_iff (other.file.components = d.file.components ∧
      other.line.toNat ≤ d.line.toNat + window.toNat ∧ d.line.toNat ≤ other.line.toNat + window.toNat)
    ⟨fun ⟨file, above, below⟩ => ⟨file, above, below⟩, fun ⟨file, above, below⟩ => ⟨file, above, below⟩⟩

theorem Reaches.symm (reaches : Reaches window d other) : Reaches window other d :=
  ⟨reaches.file.symm, reaches.below, reaches.above⟩

/-- The finding is another one within reach, and its category goes with that of the first. -/
structure Relates (window : UInt32) (d other : Diagnostic) : Prop where
  differs : other.same d = false
  reaches : Reaches window d other
  together : Catalog.coOccurs d.normalize.category other.normalize.category = true

theorem isNear_iff : isNear window d.normalize d other = true ↔ other.same d = false ∧ Reaches window d other := by
  have file : other.file.same d.normalize.file = true ↔ other.file.components = d.file.components := beq_iff_eq
  have lines : distance other.line d.normalize.line ≤ window.toNat ↔
      other.line.toNat ≤ d.line.toNat + window.toNat ∧ d.line.toNat ≤ other.line.toNat + window.toNat := by
    change (other.line.toNat - d.line.toNat) + (d.line.toNat - other.line.toNat) ≤ window.toNat ↔ _
    omega
  rw [isNear, Bool.and_eq_true, Bool.and_eq_true, Bool.not_eq_true', decide_eq_true_iff, file, lines]
  exact ⟨fun ⟨⟨differs, file⟩, above, below⟩ => ⟨differs, file, above, below⟩,
    fun ⟨differs, file, above, below⟩ => ⟨⟨differs, file⟩, above, below⟩⟩

def relates (window : UInt32) (d other : Diagnostic) : Bool :=
  Catalog.coOccurs d.normalize.category other.normalize.category && isNear window d.normalize d other

theorem relates_iff : relates window d other = true ↔ Relates window d other := by
  rw [relates, Bool.and_eq_true, isNear_iff]
  exact ⟨fun ⟨together, differs, reaches⟩ => ⟨differs, reaches, together⟩,
    fun ⟨differs, reaches, together⟩ => ⟨together, differs, reaches⟩⟩

/-- Within reach and with categories that go together, findings with different signatures relate both ways. -/
theorem Relates.of_reaches (reaches : Reaches window d other)
    (together : Catalog.coOccurs d.normalize.category other.normalize.category = true)
    (apart : d.normalize.signature ≠ other.normalize.signature) :
    Relates window d other ∧ Relates window other d := by
  have differs : ∀ {a b : Diagnostic}, a.normalize.signature ≠ b.normalize.signature → b.same a = false := by
    intro a b apart
    rw [Bool.eq_false_iff]
    exact fun same => apart (Diagnostic.signature_of_same same).symm
  exact ⟨⟨differs apart, reaches, together⟩,
    differs apart.symm, reaches.symm, Catalog.coOccurs_comm _ _ ▸ together⟩

def Precedes (a b : Diagnostic × ℕ) : Prop :=
  a.1.line < b.1.line ∨ a.1.line = b.1.line ∧ (a.1.column < b.1.column ∨ a.1.column = b.1.column ∧ a.2 < b.2)

/-- The finding is in the batch at this index, relates to `d` and has the signature. -/
structure Occurs (window : UInt32) (d : Diagnostic) (batch : List Diagnostic) (s : Signature) (row : Diagnostic × ℕ) :
    Prop where
  listed : batch[row.2]? = some row.1
  relates : Relates window d row.1
  keyed : row.1.normalize.signature = s

/-- Where a signature occurs first. -/
structure First (window : UInt32) (d : Diagnostic) (batch : List Diagnostic) (s : Signature) (row : Diagnostic × ℕ) :
    Prop where
  occurs : Occurs window d batch s row
  precedes : ∀ other, Occurs window d batch s other → other = row ∨ Precedes row other

def rows (window : UInt32) (d : Diagnostic) (batch : List Diagnostic) : List (Diagnostic × ℕ) :=
  batch.zipIdx.filter fun row => relates window d row.1

theorem mem_rows {row : Diagnostic × ℕ} :
    row ∈ rows window d batch ↔ batch[row.2]? = some row.1 ∧ Relates window d row.1 := by
  rw [rows, List.mem_filter, List.mem_zipIdx_iff_getElem?, relates_iff]

theorem rows_pairwise (window : UInt32) (d : Diagnostic) (batch : List Diagnostic) :
    (rows window d batch).Pairwise fun a b => a.2 < b.2 := by
  have indices : (batch.zipIdx.map Prod.snd).Pairwise (· < ·) := by
    rw [List.zipIdx_map_snd]
    exact List.pairwise_lt_range' 1
  exact (List.pairwise_map.mp indices).filter _

def sortedRows (window : UInt32) (d : Diagnostic) (batch : List Diagnostic) : List (Diagnostic × ℕ) :=
  (rows window d batch).mergeSort fun a b => placeLe a.1 b.1

def place (row : Diagnostic × ℕ) : (ℕ ×ₗ ℕ)ᵒᵈ := OrderDual.toDual (toLex (row.1.line.toNat, row.1.column.toNat))

theorem place_lt_iff {a b : Diagnostic × ℕ} : place b < place a ↔
    a.1.line < b.1.line ∨ a.1.line = b.1.line ∧ a.1.column < b.1.column := by
  rw [place, place, OrderDual.toDual_lt_toDual, Prod.Lex.toLex_lt_toLex, UInt32.lt_iff_toNat_lt, UInt32.lt_iff_toNat_lt,
    UInt32.toNat_inj]

theorem place_eq_iff {a b : Diagnostic × ℕ} :
    place a = place b ↔ a.1.line = b.1.line ∧ a.1.column = b.1.column := by
  rw [place, place, OrderDual.toDual_inj, toLex_inj, Prod.mk.injEq, UInt32.toNat_inj, UInt32.toNat_inj]

theorem placeLe_iff (a b : Diagnostic × ℕ) : placeLe a.1 b.1 = true ↔ place b ≤ place a := by
  rw [le_iff_lt_or_eq, place_lt_iff, eq_comm (a := place b), place_eq_iff, placeLe, Bool.or_eq_true, Bool.and_eq_true,
    decide_eq_true_iff, decide_eq_true_iff, beq_iff_eq]
  simp only [UInt32.lt_iff_toNat_lt, UInt32.le_iff_toNat_le, ← UInt32.toNat_inj]
  omega

theorem sortedRows_pairwise (window : UInt32) (d : Diagnostic) (batch : List Diagnostic) :
    (sortedRows window d batch).Pairwise Precedes := by
  have descends := descends_mergeSort placeLe_iff (rows window d batch)
  refine (descends.pairwise (rows_pairwise window d batch)).imp ?_
  rintro a b (above | ⟨level, earlier⟩)
  · exact (place_lt_iff.mp above).imp_right fun ⟨line, left⟩ => ⟨line, .inl left⟩
  · obtain ⟨line, column⟩ := place_eq_iff.mp level
    exact .inr ⟨line, .inr ⟨column, earlier⟩⟩

theorem mem_sortedRows {row : Diagnostic × ℕ} :
    row ∈ sortedRows window d batch ↔ batch[row.2]? = some row.1 ∧ Relates window d row.1 :=
  List.mem_mergeSort.trans mem_rows

theorem relatedTo_eq (window : UInt32) (d : Diagnostic) (batch : List Diagnostic) :
    relatedTo window d batch =
      distinctFrom d.normalize.signature ((sortedRows window d batch).map fun row => row.1.normalize.signature) := by
  have chosen : (rows window d batch).map Prod.fst = batch.filter (relates window d) := by
    rw [rows, ← congrArg (List.filter (relates window d)) (List.zipIdx_map_fst 0 batch), List.filter_map]
    rfl
  have candidates : ((batch.filter (isNear window d.normalize d)).map Diagnostic.normalize).filter
      (fun other => Catalog.coOccurs d.normalize.category other.category) =
      (rows window d batch).map fun row => row.1.normalize := by
    rw [List.filter_map, List.filter_filter]
    exact (congrArg (List.map Diagnostic.normalize) chosen.symm).trans List.map_map
  unfold relatedTo sortedRows
  dsimp only
  rw [candidates, ← List.map_mergeSort (r := fun a b => placeLe a.1 b.1) fun a _ b _ => rfl, List.map_map]
  rfl

theorem mem_relatedTo : s ∈ relatedTo window d batch ↔
    s ≠ d.normalize.signature ∧ ∃ other ∈ batch, Relates window d other ∧ other.normalize.signature = s := by
  rw [relatedTo_eq, mem_distinctFrom, List.mem_map]
  refine and_congr_right fun _ => ?_
  constructor
  · rintro ⟨row, member, keyed⟩
    obtain ⟨listed, relates⟩ := mem_sortedRows.mp member
    exact ⟨row.1, List.mem_of_getElem? listed, relates, keyed⟩
  · rintro ⟨other, listed, relates, keyed⟩
    obtain ⟨i, found⟩ := List.mem_iff_getElem?.mp listed
    exact ⟨(other, i), mem_sortedRows.mpr ⟨found, relates⟩, keyed⟩

theorem first_of_leads {row : Diagnostic × ℕ}
    (leads : Leads (fun row => row.1.normalize.signature) Precedes (sortedRows window d batch) s row) :
    First window d batch s row := by
  obtain ⟨listed, relates⟩ := mem_sortedRows.mp leads.listed
  exact ⟨⟨listed, relates, leads.keyed⟩,
    fun other occurs => leads.first other (mem_sortedRows.mpr ⟨occurs.listed, occurs.relates⟩) occurs.keyed⟩

theorem relatedTo_pairwise (window : UInt32) (d : Diagnostic) (batch : List Diagnostic) :
    (relatedTo window d batch).Pairwise fun s t =>
      ∃ a b, First window d batch s a ∧ First window d batch t b ∧ Precedes a b := by
  rw [relatedTo_eq]
  refine (distinctFrom_pairwise _ (sortedRows_pairwise window d batch)).imp ?_
  rintro s t ⟨a, b, leads, leads', precedes⟩
  exact ⟨a, b, first_of_leads leads, first_of_leads leads', precedes⟩

theorem relatedTo_filter (window : UInt32) (d : Diagnostic) (batch : List Diagnostic) :
    relatedTo window d (batch.filter fun other => Reaches window d other) = relatedTo window d batch := by
  have near : (batch.filter fun other => Reaches window d other).filter (isNear window d.normalize d) =
      batch.filter (isNear window d.normalize d) := by
    rw [List.filter_filter]
    refine List.filter_congr fun other _ => ?_
    rw [Bool.eq_iff_iff, Bool.and_eq_true, decide_eq_true_iff, isNear_iff]
    exact ⟨And.left, fun near => ⟨near, near.2⟩⟩
  unfold relatedTo
  simp only [near]

end Related

section Analyzing

variable {m : Type → Type} [Monad m] {σ : Type} [World m σ] {α : Type} [Scalar α] {store : Store m α} {d : Diagnostic}
  {w w' : σ} {past? : Option (Entry α)}

theorem analyze_runOn (valid : d.validate = .ok ())
    (read : (store.get d.normalize.signature).runOn w = (.ok past?, w')) (window : UInt32) (batch : List Diagnostic) :
    (store.analyze window d batch).runOn w = (.ok (ofDiagnostic window d batch past?), w') := by
  rw [Store.analyze, ExceptT.runOn_bind, valid, Action.runOn_ofDomain_ok, ExceptT.andThen_ok, ExceptT.runOn_bind, read,
    ExceptT.andThen_ok, ExceptT.runOn_pure]

/-- A valid diagnostic is analysed whenever the store answers. The related signatures are those of the findings that
relate to it other than its own, each once and where it occurs first. What is out of reach may come or go, and two
findings whose signatures differ are related both ways or not at all. -/
theorem related_exact (valid : d.validate = .ok ())
    (read : (store.get d.normalize.signature).runOn w = (.ok past?, w')) (window : UInt32) (batch : List Diagnostic) :
    (∃ a, (store.analyze window d batch).runOn w = (.ok a, w') ∧ a.related = relatedTo window d batch) ∧
    (relatedTo window d batch).Nodup ∧
    (∀ s, s ∈ relatedTo window d batch ↔
      s ≠ d.normalize.signature ∧ ∃ other ∈ batch, Relates window d other ∧ other.normalize.signature = s) ∧
    ((relatedTo window d batch).Pairwise fun s t =>
      ∃ a b, First window d batch s a ∧ First window d batch t b ∧ Precedes a b) ∧
    (∀ batch' : List Diagnostic, (batch'.filter fun other => Reaches window d other) =
        (batch.filter fun other => Reaches window d other) → relatedTo window d batch' = relatedTo window d batch) ∧
    ∀ other ∈ batch, d ∈ batch → Reaches window d other →
      Catalog.coOccurs d.normalize.category other.normalize.category = true →
      d.normalize.signature ≠ other.normalize.signature →
      other.normalize.signature ∈ relatedTo window d batch ∧ d.normalize.signature ∈ relatedTo window other batch := by
  refine ⟨⟨_, analyze_runOn valid read window batch, rfl⟩, distinctFrom_nodup _ _, fun s => mem_relatedTo,
    relatedTo_pairwise window d batch, ?_, ?_⟩
  · intro batch' same
    rw [← relatedTo_filter window d batch', same, relatedTo_filter]
  · intro other listed among reaches together apart
    obtain ⟨there, back⟩ := Relates.of_reaches reaches together apart
    exact ⟨mem_relatedTo.mpr ⟨apart.symm, other, listed, there, rfl⟩,
      mem_relatedTo.mpr ⟨apart, d, among, back, rfl⟩⟩

def unnamed : Diagnostic := ⟨⟨"src/a.ts"⟩, 10, 1, "Cannot find name 'useState'.", 2304, .error, .genericError⟩

def below : Diagnostic :=
  ⟨⟨"src/./a.ts"⟩, 15, 1, "Type 'string' is not assignable to type 'number'.", 2322, .error, .genericError⟩

theorem related_exact_below :
    (∃ a, (MemoryKnowledge.store.analyze 5 unnamed [below, unnamed, below]).runOn
        (.ofEntries ([] : List (Entry Float))) = (.ok a, .ofEntries []) ∧ a.related.Nodup ∧ below.normalize.signature ∈ a.related) ∧
    unnamed.normalize.signature ∈ relatedTo 5 below [below, unnamed, below] := by
  have read : (MemoryKnowledge.store.get unnamed.normalize.signature).runOn (.ofEntries ([] : List (Entry Float))) =
      (.ok none, .ofEntries []) := rfl
  obtain ⟨⟨a, ran, related⟩, distinct, -, -, -, both⟩ := related_exact rfl read 5 [below, unnamed, below]
  obtain ⟨there, back⟩ := both below List.mem_cons_self (by decide) (by decide) (by decide) (by decide)
  exact ⟨⟨a, ran, related ▸ distinct, related ▸ there⟩, back⟩

end Analyzing

end Analysis

end Remedy
