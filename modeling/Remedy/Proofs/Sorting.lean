import Mathlib.Data.List.Basic
import Mathlib.Order.Lattice

/-! Sorting that leaves alike items in their order. Main statement: sorting by a measure gives its items the largest
first, and those of one measure as they were. -/

namespace Remedy

variable {α : Type} {le : α → α → Bool} {κ : Type} [LinearOrder κ] {measure : α → κ} {given sorted : List α}

/-- Items that differ are sorted in one way only, in whatever order they come. -/
theorem mergeSort_of_perm (trans : ∀ a b c, le a b → le b c → le a c) (total : ∀ a b, le a b || le b a)
    {xs ys : List α} (perm : xs.Perm ys) (antisymm : ∀ a ∈ ys, ∀ b ∈ ys, le a b → le b a → a = b) :
    xs.mergeSort le = ys.mergeSort le := by
  refine List.Perm.eq_of_pairwise ?_ (List.pairwise_mergeSort trans total xs) (List.pairwise_mergeSort trans total ys)
    (((List.mergeSort_perm xs le).trans perm).trans (List.mergeSort_perm ys le).symm)
  intro a b among among' first second
  exact antisymm a (perm.mem_iff.mp (List.mem_mergeSort.mp among)) b (List.mem_mergeSort.mp among') first second

theorem filter_mergeSort (trans : ∀ a b c, le a b → le b c → le a c) (total : ∀ a b, le a b || le b a)
    {p : α → Bool} (alike : ∀ a b, p a = true → p b = true → le a b = true) (xs : List α) :
    (xs.mergeSort le).filter p = xs.filter p := by
  have ordered : (xs.filter p).Pairwise fun a b => le a b = true :=
    List.pairwise_iff_forall_sublist.mpr fun listed =>
      alike _ _ (List.of_mem_filter (listed.subset List.mem_cons_self))
        (List.of_mem_filter (listed.subset (List.mem_cons_of_mem _ List.mem_cons_self)))
  have among : (xs.filter p).Sublist (xs.mergeSort le) :=
    List.sublist_mergeSort trans total ordered List.filter_sublist
  have kept := among.filter p
  rw [List.filter_filter] at kept
  simp only [Bool.and_self] at kept
  exact (kept.eq_of_length ((List.mergeSort_perm xs le).filter p).length_eq.symm).symm

/-- A list in falling order of a measure, with the items of each measure in the order in which they were given. -/
structure Descends (measure : α → κ) (given sorted : List α) : Prop where
  perm : sorted.Perm given
  falling : sorted.Pairwise fun a b => measure b ≤ measure a
  stable : ∀ k, sorted.filter (measure · = k) = given.filter (measure · = k)

theorem descends_mergeSort (agrees : ∀ a b, le a b = true ↔ measure b ≤ measure a) (given : List α) :
    Descends measure given (given.mergeSort le) := by
  have trans : ∀ a b c, le a b → le b c → le a c := by
    intro a b c first second
    rw [agrees] at first second ⊢
    exact le_trans second first
  have total : ∀ a b, le a b || le b a := by
    intro a b
    rw [Bool.or_eq_true, agrees, agrees]
    exact le_total _ _
  refine ⟨List.mergeSort_perm given le, ?_, fun k => filter_mergeSort trans total ?_ given⟩
  · exact (List.pairwise_mergeSort trans total given).imp fun {a b} ordered => (agrees a b).mp ordered
  · intro a b first second
    rw [agrees, of_decide_eq_true first, of_decide_eq_true second]

theorem Descends.pairwise {earlier : α → α → Prop} (descends : Descends measure given sorted)
    (ordered : given.Pairwise earlier) :
    sorted.Pairwise fun a b => measure b < measure a ∨ measure a = measure b ∧ earlier a b := by
  refine List.pairwise_iff_forall_sublist.mpr fun {a b} pair => ?_
  have falls := List.pairwise_iff_forall_sublist.mp descends.falling pair
  refine falls.lt_or_eq.imp_right fun same => ⟨same.symm, ?_⟩
  have kept := pair.filter fun c => decide (measure c = measure a)
  rw [List.filter_cons_of_pos (by simp), List.filter_cons_of_pos (by simp [same]), List.filter_nil,
    descends.stable] at kept
  exact List.pairwise_iff_forall_sublist.mp ordered (kept.trans List.filter_sublist)

/-- Leaving items out before sorting or after it is the same. -/
theorem Descends.filter (descends : Descends measure given sorted) (p : α → Bool) :
    Descends measure (given.filter p) (sorted.filter p) where
  perm := descends.perm.filter p
  falling := descends.falling.filter p
  stable k := by
    rw [List.filter_comm, descends.stable, List.filter_comm]

end Remedy
