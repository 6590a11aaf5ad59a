import Remedy.Knowledge.Table

/-! Tables of entries by signature. Main statement: of each signature a merged table has the
higher of the two counts. -/

namespace Remedy

namespace Category

theorem rank_injective {a b : Category} (same : a.rank = b.rank) : a = b := by
  cases a <;> cases b <;> first | rfl | cases same

end Category

namespace Signature

theorem compare_eq_lt_iff (a b : Signature) :
    a.compare b = .lt ↔
      a.code.toNat < b.code.toNat ∨ a.code.toNat = b.code.toNat ∧ a.category.rank < b.category.rank := by
  rw [compare, Ordering.then_eq_lt, Nat.compare_eq_lt, Nat.compare_eq_eq, Nat.compare_eq_lt]

theorem eq_of_keys {a b : Signature} (codes : a.code.toNat = b.code.toNat) (ranks : a.category.rank = b.category.rank) :
    a = b := by
  obtain ⟨code, category⟩ := a
  obtain ⟨code', category'⟩ := b
  rw [Signature.mk.injEq]
  exact ⟨UInt32.toNat_inj.mp codes, Category.rank_injective ranks⟩

theorem compare_eq_eq_iff (a b : Signature) : a.compare b = .eq ↔ a = b := by
  rw [compare, Ordering.then_eq_eq, Nat.compare_eq_eq, Nat.compare_eq_eq]
  constructor
  · rintro ⟨codes, ranks⟩
    exact eq_of_keys codes ranks
  · rintro rfl
    exact ⟨rfl, rfl⟩

theorem compare_eq_gt_iff (a b : Signature) : a.compare b = .gt ↔ b.compare a = .lt := by
  rw [compare, compare, Ordering.then_eq_lt, Ordering.then_eq_gt, Nat.compare_eq_gt, Nat.compare_eq_eq,
    Nat.compare_eq_gt, Nat.compare_eq_lt, Nat.compare_eq_eq, Nat.compare_eq_lt, eq_comm (a := b.code.toNat)]

theorem compare_ne_gt_iff (a b : Signature) :
    (a.compare b != .gt) = true ↔
      a.code.toNat < b.code.toNat ∨ a.code.toNat = b.code.toNat ∧ a.category.rank ≤ b.category.rank := by
  rw [bne_iff_ne, ne_eq, compare_eq_gt_iff, compare_eq_lt_iff]
  omega

theorem compare_lt_trans {a b c : Signature} (first : a.compare b = .lt) (second : b.compare c = .lt) :
    a.compare c = .lt := by
  rw [compare_eq_lt_iff] at *
  omega

theorem compare_lt_irrefl (a : Signature) : a.compare a ≠ .lt := by
  rw [ne_eq, compare_eq_lt_iff]
  omega

end Signature

namespace Table

variable {α : Type}

/-- The entries stand in the order of their signatures, and no two share one. -/
def Ordered (entries : List (Entry α)) : Prop :=
  entries.Pairwise fun a b => a.signature.compare b.signature = .lt

def observed (t : Table α) (signature : Signature) : Nat :=
  (t.get? signature).elim 0 (·.observed.toNat)

theorem mem_insertInto {e f : Entry α} {entries : List (Entry α)} (member : f ∈ insertInto e entries) :
    f = e ∨ f ∈ entries := by
  induction entries with
  | nil => exact .inl (List.mem_singleton.mp member)
  | cons g rest ih =>
      unfold insertInto at member
      split at member
      · exact List.mem_cons.mp member
      · rcases List.mem_cons.mp member with here | later
        · exact .inl here
        · exact .inr (List.mem_cons_of_mem g later)
      · rcases List.mem_cons.mp member with here | later
        · exact .inr (here ▸ List.mem_cons_self)
        · rcases ih later with here | inside
          · exact .inl here
          · exact .inr (List.mem_cons_of_mem g inside)

theorem insertInto_ordered (e : Entry α) {entries : List (Entry α)} (ordered : Ordered entries) :
    Ordered (insertInto e entries) := by
  induction entries with
  | nil => exact List.pairwise_singleton _ _
  | cons f rest ih =>
      obtain ⟨before, tail⟩ := List.pairwise_cons.mp ordered
      unfold insertInto
      split
      · rename_i less
        refine List.pairwise_cons.mpr ⟨?_, ordered⟩
        intro g member
        rcases List.mem_cons.mp member with rfl | later
        · exact less
        · exact Signature.compare_lt_trans less (before g later)
      · rename_i same
        refine List.pairwise_cons.mpr ⟨?_, tail⟩
        intro g later
        rw [(Signature.compare_eq_eq_iff _ _).mp same]
        exact before g later
      · rename_i greater
        refine List.pairwise_cons.mpr ⟨?_, ih tail⟩
        intro g member
        rcases mem_insertInto member with rfl | later
        · exact (Signature.compare_eq_gt_iff _ _).mp greater
        · exact before g later

theorem ofList_ordered (entries : List (Entry α)) : Ordered (ofList entries).entries := by
  have folded : ∀ t : Table α, Ordered t.entries → Ordered (entries.foldl insert t).entries := by
    induction entries with
    | nil => exact fun _ ordered => ordered
    | cons e rest ih => exact fun t ordered => ih _ (insertInto_ordered e ordered)
  exact folded empty List.Pairwise.nil

theorem get?_insert (t : Table α) (e : Entry α) (signature : Signature) :
    (t.insert e).get? signature = if e.signature = signature then some e else t.get? signature := by
  unfold get? insert
  simp only
  induction t.entries with
  | nil => by_cases here : e.signature = signature <;> simp [insertInto, here]
  | cons f rest ih =>
      unfold insertInto
      split
      · by_cases here : e.signature = signature <;> simp [List.find?_cons, here]
      · rename_i same
        have alike := (Signature.compare_eq_eq_iff _ _).mp same
        by_cases here : e.signature = signature
        · simp [here]
        · have other : f.signature ≠ signature := fun there => here (alike.trans there)
          simp [here, other]
      · rename_i greater
        have apart : f.signature ≠ e.signature := by
          intro same
          rw [← same] at greater
          exact Signature.compare_lt_irrefl _ ((Signature.compare_eq_gt_iff _ _).mp greater)
        by_cases there : f.signature = signature
        · have elsewhere : e.signature ≠ signature := fun here => apart (there.trans here.symm)
          simp [there, elsewhere]
        · simpa [List.find?_cons, there] using ih

theorem signature_of_get? {t : Table α} {signature : Signature} {e : Entry α}
    (found : t.get? signature = some e) : e.signature = signature := by
  have matched := List.find?_some found
  simpa using matched

theorem observed_insert (t : Table α) (e : Entry α) (signature : Signature) :
    (t.insert e).observed signature =
      if e.signature = signature then e.observed.toNat else t.observed signature := by
  unfold observed
  rw [get?_insert]
  by_cases here : e.signature = signature
  · rw [if_pos here, if_pos here]
    rfl
  · rw [if_neg here, if_neg here]

theorem get?_cons (e : Entry α) (rest : List (Entry α)) (signature : Signature) :
    (⟨e :: rest⟩ : Table α).get? signature =
      if e.signature = signature then some e else (⟨rest⟩ : Table α).get? signature := by
  unfold get?
  by_cases here : e.signature = signature <;> simp [here]

theorem get?_behind {signature : Signature} {rest : List (Entry α)}
    (before : ∀ f ∈ rest, signature.compare f.signature = .lt) : (⟨rest⟩ : Table α).get? signature = none := by
  refine List.find?_eq_none.mpr fun f member same => ?_
  have less := before f member
  rw [beq_iff_eq.mp same] at less
  exact Signature.compare_lt_irrefl _ less

theorem observed_cons (e : Entry α) (rest : List (Entry α)) (signature : Signature) :
    observed ⟨e :: rest⟩ signature =
      if e.signature = signature then e.observed.toNat else observed ⟨rest⟩ signature := by
  unfold observed
  rw [get?_cons]
  split <;> rfl

theorem observed_behind {e : Entry α} {rest : List (Entry α)} (ordered : Ordered (e :: rest)) :
    observed ⟨rest⟩ e.signature = 0 := by
  unfold observed
  rw [get?_behind (List.pairwise_cons.mp ordered).1]
  rfl

theorem observed_raise (t : Table α) (e : Entry α) (signature : Signature) :
    (t.raise e).observed signature =
      if e.signature = signature then max (t.observed signature) e.observed.toNat
      else t.observed signature := by
  unfold raise
  cases found : t.get? e.signature with
  | none =>
      simp only [observed_insert]
      by_cases here : e.signature = signature
      · have none_known : t.observed signature = 0 := by rw [observed, ← here, found]; rfl
        simp [here, none_known]
      · simp [here]
  | some known =>
      simp only
      by_cases here : e.signature = signature
      · have count : t.observed signature = known.observed.toNat := by rw [observed, ← here, found]; rfl
        rw [if_pos here, count]
        split
        · rename_i more
          have later := UInt64.lt_iff_toNat_lt.mp more
          rw [observed_insert, if_pos here]
          omega
        · rename_i late
          have earlier := UInt64.le_iff_toNat_le.mp (UInt64.not_lt.mp late)
          rw [count]
          omega
      · rw [if_neg here]
        split
        · rw [observed_insert, if_neg here]
        · rfl

/-- Merging keeps the higher of the two counts. -/
theorem observed_merge (t : Table α) {seen : Table α} (ordered : Ordered seen.entries) (signature : Signature) :
    (t.merge seen).observed signature = max (t.observed signature) (seen.observed signature) := by
  obtain ⟨entries⟩ := seen
  unfold merge
  induction entries generalizing t with
  | nil => exact (Nat.max_zero _).symm
  | cons e rest ih =>
      have behind := observed_behind ordered
      have rested := ih (t.raise e) (List.pairwise_cons.mp ordered).2
      rw [List.foldl_cons, rested, observed_raise, observed_cons]
      by_cases here : e.signature = signature
      · rw [here] at behind
        rw [if_pos here, if_pos here, behind]
        omega
      · rw [if_neg here, if_neg here]

theorem raise_ordered {t : Table α} (ordered : Ordered t.entries) (e : Entry α) : Ordered (t.raise e).entries := by
  unfold raise
  split
  · split
    · exact insertInto_ordered e ordered
    · exact ordered
  · exact insertInto_ordered e ordered

theorem merge_ordered {t : Table α} (ordered : Ordered t.entries) (seen : Table α) :
    Ordered (t.merge seen).entries := by
  obtain ⟨entries⟩ := seen
  unfold merge
  induction entries generalizing t with
  | nil => exact ordered
  | cons e rest ih => exact ih (raise_ordered ordered e)

variable [Scalar α]

theorem advance?_of_fresh {t : Table α} {e : Entry α} (fresh : t.isStale e = false) :
    t.advance? e = some (t.insert e) := by
  rw [advance?, fresh]
  rfl

theorem advance?_of_stale {t : Table α} {e : Entry α} (stale : t.isStale e = true) : t.advance? e = none := by
  rw [advance?, stale]
  rfl

/-- What is not stale repeats the entry that is known, or has been observed more often. -/
theorem advance?_eq_some {t t' : Table α} {e : Entry α} (advanced : t.advance? e = some t') :
    t' = t.insert e ∧
      ∀ known, t.get? e.signature = some known → known.same e = true ∨ known.observed < e.observed := by
  unfold advance? at advanced
  cases stale : t.isStale e with
  | true => simp [stale] at advanced
  | false =>
      simp only [stale, Bool.false_eq_true, ↓reduceIte, Option.some.injEq] at advanced
      refine ⟨advanced.symm, ?_⟩
      intro known found
      cases same : known.same e with
      | true => exact .inl rfl
      | false =>
          simp only [isStale, found, same, Bool.not_false, Bool.true_and, decide_eq_false_iff_not,
            UInt64.not_le] at stale
          exact .inr stale

theorem observed_of_same {e f : Entry α} (same : e.same f = true) : e.observed = f.observed := by
  simp only [Entry.same, Bool.and_eq_true, beq_iff_eq] at same
  exact same.1.1.1.1.1.2

theorem observed_le_of_fresh {t : Table α} {e : Entry α}
    (fresh : ∀ known, t.get? e.signature = some known → known.same e = true ∨ known.observed < e.observed) :
    t.observed e.signature ≤ e.observed.toNat := by
  unfold observed
  cases found : t.get? e.signature with
  | none => exact Nat.zero_le _
  | some known =>
      rcases fresh known found with same | more
      · rw [← observed_of_same same]
        exact Nat.le_refl _
      · exact Nat.le_of_lt (UInt64.lt_iff_toNat_lt.mp more)

theorem observed_le_insert {t : Table α} {e : Entry α}
    (fresh : ∀ known, t.get? e.signature = some known → known.same e = true ∨ known.observed < e.observed)
    (signature : Signature) : t.observed signature ≤ (t.insert e).observed signature := by
  rw [observed_insert]
  by_cases here : e.signature = signature
  · rw [if_pos here, ← here]
    exact observed_le_of_fresh fresh
  · exact Nat.le_of_eq (if_neg here).symm

end Table

end Remedy
