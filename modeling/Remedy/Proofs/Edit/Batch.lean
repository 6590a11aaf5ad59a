import Mathlib.Algebra.Group.Nat.Defs
import Mathlib.Data.List.Basic
import Remedy.Edit.Buffer
import Remedy.Proofs.Text.Bytes

/-! Batches of changes. Main statement: a batch is accepted exactly if its changes fit the text, and it is checked without
an answer exactly if a span ends beyond all offsets behind changes that fit. -/

namespace Remedy

namespace Span

variable {a b c s : Span} {stop : ℕ}

theorem stop_of_lt (near : s.limit < 2 ^ 64) : s.stop = .ok s.limit := if_pos near

theorem stop_of_le (far : 2 ^ 64 ≤ s.limit) : s.stop = .error .addition := if_neg (Nat.not_lt.mpr far)

theorem stop_eq_ok : s.stop = .ok stop ↔ s.limit < 2 ^ 64 ∧ stop = s.limit := by
  rcases Nat.lt_or_ge s.limit (2 ^ 64) with near | far
  · rw [stop_of_lt near, Except.ok.injEq]
    exact ⟨fun same => ⟨near, same.symm⟩, fun ended => ended.2.symm⟩
  · rw [stop_of_le far]
    exact ⟨nofun, fun ended => absurd ended.1 (Nat.not_lt.mpr far)⟩

theorem le_iff : a.le b = true ↔
    a.start.toNat < b.start.toNat ∨ a.start.toNat = b.start.toNat ∧ a.length.toNat ≤ b.length.toNat := by
  simp only [le, Bool.or_eq_true, Bool.and_eq_true, decide_eq_true_eq, beq_iff_eq, UInt64.lt_iff_toNat_lt,
    UInt64.le_iff_toNat_le, UInt64.toNat_inj]

theorem le_trans (first : a.le b = true) (second : b.le c = true) : a.le c = true := by
  rw [le_iff] at *
  omega

theorem le_total (a b : Span) : (a.le b || b.le a) = true := by
  rw [Bool.or_eq_true, le_iff, le_iff]
  omega

end Span

namespace Change

variable {changes : List Change} {c : Change}

theorem mem_sorted : c ∈ sorted changes ↔ c ∈ changes := List.mem_mergeSort

theorem forall_mem_sorted {p : Change → Prop} : (∀ c ∈ sorted changes, p c) ↔ ∀ c ∈ changes, p c := by
  simp only [mem_sorted]

theorem sorted_ordered (changes : List Change) : (sorted changes).Pairwise fun a c => a.span.le c.span = true :=
  @List.pairwise_mergeSort _ (fun a c : Change => a.span.le c.span) (fun _ _ _ => Span.le_trans)
    (fun _ _ => Span.le_total _ _) changes

theorem sorted_starts (changes : List Change) :
    (sorted changes).Pairwise fun a c => a.span.start.toNat ≤ c.span.start.toNat := by
  refine (sorted_ordered changes).imp fun le => ?_
  rw [Span.le_iff] at le
  omega

theorem sorted_swapped {a c : Change} (behind : a.span.le c.span = false) : sorted [a, c] = [c, a] := by
  simp [sorted, List.mergeSort, behind]

end Change

namespace Buffer

open Text

variable {b : Buffer} {changes more : List Change} {e : DomainError}

def Divided (b : Buffer) (offset : ℕ) : Prop := ∃ front back, b.chars = front ++ back ∧ byteLength front = offset

structure Holds (b : Buffer) (start stop : ℕ) : Prop where
  within : stop ≤ b.length
  opens : b.Divided start
  closes : b.Divided stop

/-- The changes can be made in one text: all spans are part of it, and in order of start and length each ends before
every later one starts, or where it starts. -/
structure Fit (b : Buffer) (changes : List Change) : Prop where
  inside : ∀ c ∈ changes, b.Holds c.span.start.toNat c.span.limit
  apart : (Change.sorted changes).Pairwise fun a c => a.span.limit ≤ c.span.start.toNat

/-- What is wrong with a change among others that stand in order. -/
inductive Flawed (b : Buffer) (changes : List Change) : DomainError → Prop where
  | beyond {c : Change} (listed : c ∈ changes) (outside : b.length < c.span.limit) :
      Flawed b changes (.spanOutOfBounds c.span.start.toNat c.span.limit b.length)
  | parted {c : Change} (listed : c ∈ changes)
      (parts : ¬(b.Divided c.span.start.toNat ∧ b.Divided c.span.limit)) :
      Flawed b changes (.spanNotOnBoundary c.span.start.toNat c.span.limit)
  | overlapping {a c : Change} (listed : [a, c].Sublist changes) (inside : c.span.start.toNat < a.span.limit) :
      Flawed b changes (.overlappingSpans c.span.start.toNat)

theorem Flawed.mono (flawed : b.Flawed changes e) (among : changes.Sublist more) : b.Flawed more e := by
  cases flawed with
  | beyond listed outside => exact .beyond (among.subset listed) outside
  | parted listed parts => exact .parted (among.subset listed) parts
  | overlapping listed inside => exact .overlapping (listed.trans among) inside

theorem Flawed.not_fit (flawed : b.Flawed (Change.sorted changes) e) : ¬b.Fit changes := by
  intro fit
  cases flawed with
  | beyond listed outside =>
      have held := fit.inside _ (Change.mem_sorted.mp listed)
      exact absurd held.within (Nat.not_le.mpr outside)
  | parted listed parts =>
      have held := fit.inside _ (Change.mem_sorted.mp listed)
      exact parts ⟨held.opens, held.closes⟩
  | overlapping listed inside =>
      have apart := List.pairwise_iff_forall_sublist.mp fit.apart listed
      exact absurd apart (Nat.not_le.mpr inside)

theorem isBoundary_eq_false {offset : ℕ} : isBoundary b.chars offset = false ↔ ¬b.Divided offset := by
  rw [← Bool.not_eq_true, isBoundary_iff]
  exact Iff.rfl

def Sound (b : Buffer) (before? : Option Change) (changes : List Change) : Prop :=
  (∀ c ∈ changes, c.span.limit < 2 ^ 64 ∧ b.Holds c.span.start.toNat c.span.limit) ∧
    (before?.toList ++ changes).Pairwise fun a c => a.span.limit ≤ c.span.start.toNat

theorem Sound.nil (b : Buffer) (before? : Option Change) : b.Sound before? [] := by
  refine ⟨List.forall_mem_nil _, ?_⟩
  cases before? with
  | none => exact .nil
  | some a => exact List.pairwise_singleton _ _

theorem Sound.cons {before? : Option Change} {c : Change}
    (starts : ∀ d ∈ changes, c.span.start.toNat ≤ d.span.start.toNat) (near : c.span.limit < 2 ^ 64)
    (held : b.Holds c.span.start.toNat c.span.limit)
    (clear : ∀ a ∈ before?, a.span.limit ≤ c.span.start.toNat) (sound : b.Sound (some c) changes) :
    b.Sound before? (c :: changes) := by
  obtain ⟨others, apart⟩ := sound
  refine ⟨List.forall_mem_cons.mpr ⟨⟨near, held⟩, others⟩, ?_⟩
  cases before? with
  | none => exact apart
  | some a =>
      have first := clear a rfl
      refine List.pairwise_cons.mpr ⟨List.forall_mem_cons.mpr ⟨first, fun d later => ?_⟩, apart⟩
      exact Nat.le_trans first (starts d later)

/-- A span among the changes has no end, and those before it are all right. -/
def Endless (b : Buffer) (before? : Option Change) (changes : List Change) : Prop :=
  ∃ front c back, changes = front ++ c :: back ∧ 2 ^ 64 ≤ c.span.limit ∧ b.Sound before? front

def Ends (b : Buffer) (before? : Option Change) (changes : List Change) : Except EditError Unit → Prop
  | .ok () => b.Sound before? changes
  | .error (.domain e) => b.Flawed (before?.toList ++ changes) e
  | .error (.panic _) => b.Endless before? changes

theorem Ends.cons {before? : Option Change} {c : Change} {result : Except EditError Unit}
    (starts : ∀ d ∈ changes, c.span.start.toNat ≤ d.span.start.toNat) (near : c.span.limit < 2 ^ 64)
    (held : b.Holds c.span.start.toNat c.span.limit)
    (clear : ∀ a ∈ before?, a.span.limit ≤ c.span.start.toNat) (ends : b.Ends (some c) changes result) :
    b.Ends before? (c :: changes) result := by
  cases result with
  | ok done => exact Sound.cons starts near held clear ends
  | error failure =>
      cases failure with
      | domain e => exact Flawed.mono ends (List.sublist_append_right _ _)
      | panic p =>
          obtain ⟨front, d, back, rfl, far, sound⟩ := ends
          refine ⟨c :: front, d, back, rfl, far, Sound.cons ?_ near held clear sound⟩
          exact fun d listed => starts d (List.mem_append_left _ listed)

/-- Comparing each change with the one before it is enough, as they start one after the other. -/
theorem checkSorted_ends {before? : Option Change}
    (starts : changes.Pairwise fun a c => a.span.start.toNat ≤ c.span.start.toNat) :
    b.Ends before? changes (b.checkSorted (before?.map (·.span.limit)) changes) := by
  induction changes generalizing before? with
  | nil => exact .nil b before?
  | cons c rest ih =>
      obtain ⟨first, later⟩ := List.pairwise_cons.mp starts
      have listed : c ∈ before?.toList ++ c :: rest := List.mem_append_right _ List.mem_cons_self
      unfold checkSorted
      dsimp only
      split
      · rename_i p endless
        have far : 2 ^ 64 ≤ c.span.limit := by
          by_contra near
          rw [Span.stop_of_lt (Nat.not_le.mp near)] at endless
          cases endless
        exact ⟨[], c, rest, rfl, far, .nil b before?⟩
      rename_i stop ended
      obtain ⟨near, rfl⟩ := Span.stop_eq_ok.mp ended
      split
      · rename_i outside
        exact Flawed.beyond listed outside
      · rename_i within
        split
        · rename_i parts
          rw [Bool.or_eq_true, Bool.not_eq_true', Bool.not_eq_true', isBoundary_eq_false, isBoundary_eq_false,
            ← not_and_or] at parts
          exact Flawed.parted listed parts
        · rename_i whole
          rw [Bool.or_eq_true, Bool.not_eq_true', Bool.not_eq_true', isBoundary_eq_false, isBoundary_eq_false,
            ← not_and_or, not_not] at whole
          split
          · rename_i overlaps
            cases before? with
            | none => cases overlaps
            | some a =>
                refine Flawed.overlapping (a := a) ?_ (of_decide_eq_true overlaps)
                exact List.sublist_append_left [a, c] rest
          · rename_i clear
            refine Ends.cons first near ⟨Nat.not_lt.mp within, whole.1, whole.2⟩ ?_ (ih later)
            rintro a ⟨⟩
            exact Nat.not_lt.mp fun inside => clear (decide_eq_true inside)

theorem check_ends (b : Buffer) (changes : List Change) :
    b.Ends none (Change.sorted changes) (b.check changes) := checkSorted_ends (Change.sorted_starts changes)

theorem sound_sorted_iff :
    b.Sound none (Change.sorted changes) ↔ b.Fit changes ∧ ∀ c ∈ changes, c.span.limit < 2 ^ 64 := by
  constructor
  · rintro ⟨inside, apart⟩
    rw [Change.forall_mem_sorted] at inside
    exact ⟨⟨fun c listed => (inside c listed).2, apart⟩, fun c listed => (inside c listed).1⟩
  · rintro ⟨fit, near⟩
    exact ⟨Change.forall_mem_sorted.mpr fun c listed => ⟨near c listed, fit.inside c listed⟩, fit.apart⟩

theorem check_answers (near : ∀ c ∈ changes, c.span.limit < 2 ^ 64) (p : Panic) :
    b.check changes ≠ .error (.panic p) := by
  intro panicked
  have ends := b.check_ends changes
  rw [panicked] at ends
  obtain ⟨front, c, back, parts, far, -⟩ := ends
  have listed : c ∈ changes := Change.mem_sorted.mp (parts ▸ List.mem_append_right _ List.mem_cons_self)
  exact absurd (near c listed) (Nat.not_lt.mpr far)

theorem check_eq_ok_iff : b.check changes = .ok () ↔ b.Fit changes ∧ ∀ c ∈ changes, c.span.limit < 2 ^ 64 := by
  have ends := b.check_ends changes
  constructor
  · intro accepted
    rw [accepted] at ends
    exact sound_sorted_iff.mp ends
  · rintro ⟨fit, near⟩
    cases checked : b.check changes with
    | ok done => rfl
    | error failure =>
        cases failure with
        | panic p => exact (check_answers near p checked).elim
        | domain e =>
            rw [checked] at ends
            exact (Flawed.not_fit ends fit).elim

/-- Changes that are all right are passed, up to one whose span has no end. -/
theorem checkSorted_endless {before? : Option Change} {front back : List Change} {c : Change}
    (sound : b.Sound before? front) (far : 2 ^ 64 ≤ c.span.limit) :
    b.checkSorted (before?.map (·.span.limit)) (front ++ c :: back) = .error (.panic .addition) := by
  induction front generalizing before? with
  | nil =>
      rw [List.nil_append, checkSorted, Span.stop_of_le far]
  | cons d front ih =>
      obtain ⟨inside, apart⟩ := sound
      obtain ⟨⟨near, held⟩, others⟩ := List.forall_mem_cons.mp inside
      have opens : isBoundary b.chars d.span.start.toNat = true := isBoundary_iff.mpr held.opens
      have closes : isBoundary b.chars d.span.limit = true := isBoundary_iff.mpr held.closes
      have clear : (before?.map (·.span.limit)).any (d.span.start.toNat < ·) = false := by
        cases before? with
        | none => rfl
        | some a =>
            have first := (List.pairwise_cons.mp apart).1 d List.mem_cons_self
            exact decide_eq_false (Nat.not_lt.mpr first)
      have behind : ((some d).toList ++ front).Pairwise fun a c => a.span.limit ≤ c.span.start.toNat :=
        apart.sublist (List.sublist_append_right _ _)
      rw [List.cons_append, checkSorted, Span.stop_of_lt near]
      simp only [Nat.not_lt.mpr held.within, opens, closes, clear, Bool.not_true, Bool.or_self, Bool.false_eq_true, ↓reduceIte]
      exact ih ⟨others, behind⟩

/-- A batch is accepted exactly if its changes fit, and what else is answered is a flaw, which the error tells. There is
no answer exactly if a span that ends beyond all offsets follows changes that fit. -/
theorem applicable_iff_check (small : b.length < 2 ^ 64) (changes : List Change) :
    (b.check changes = .ok () ↔ b.Fit changes) ∧
      (∀ e, b.check changes = .error (.domain e) → b.Flawed (Change.sorted changes) e) ∧
      ((∃ p, b.check changes = .error (.panic p)) ↔ ∃ front c back, Change.sorted changes = front ++ c :: back ∧
        2 ^ 64 ≤ c.span.limit ∧ b.Fit front) := by
  have near : ∀ {changes}, b.Fit changes → ∀ c ∈ changes, c.span.limit < 2 ^ 64 :=
    fun fit c listed => Nat.lt_of_le_of_lt (fit.inside c listed).within small
  have sound : ∀ {front back}, Change.sorted changes = front ++ back → (b.Sound none front ↔ b.Fit front) := by
    intro front back parts
    have ordered : Change.sorted front = front :=
      List.mergeSort_of_pairwise ((Change.sorted_ordered changes).sublist (parts ▸ List.sublist_append_left _ _))
    rw [← ordered, sound_sorted_iff, ordered]
    exact and_iff_left_of_imp near
  refine ⟨?_, ?_, ?_, ?_⟩
  · rw [check_eq_ok_iff]
    exact and_iff_left_of_imp near
  · intro e refused
    have ends := b.check_ends changes
    rwa [refused] at ends
  · rintro ⟨p, panicked⟩
    have ends := b.check_ends changes
    rw [panicked] at ends
    obtain ⟨front, c, back, parts, far, passed⟩ := ends
    exact ⟨front, c, back, parts, far, (sound parts).mp passed⟩
  · rintro ⟨front, c, back, parts, far, fit⟩
    refine ⟨.addition, ?_⟩
    rw [check, parts]
    exact @checkSorted_endless b none front back c ((sound parts).mpr fit) far

/-- An insertion where a deletion ends, and one within the text that is deleted. -/
theorem applicable_iff_check_touching :
    (ofString "né!").Fit [⟨⟨3, 0⟩, "e"⟩, ⟨⟨1, 2⟩, ""⟩] ∧
      ¬(ofString "né!").Fit [⟨⟨3, 0⟩, "e"⟩, ⟨⟨1, 3⟩, ""⟩] := by
  have small : (ofString "né!").length < 2 ^ 64 := by decide +kernel
  have accepted : (ofString "né!").check [⟨⟨3, 0⟩, "e"⟩, ⟨⟨1, 2⟩, ""⟩] = .ok () := by
    rw [check, Change.sorted_swapped (by decide)]
    decide +kernel
  have refused : (ofString "né!").check [⟨⟨3, 0⟩, "e"⟩, ⟨⟨1, 3⟩, ""⟩] = .error (.domain (.overlappingSpans 3)) := by
    rw [check, Change.sorted_swapped (by decide)]
    decide +kernel
  refine ⟨(applicable_iff_check small _).1.mp accepted, ?_⟩
  intro fit
  have taken := (applicable_iff_check small _).1.mpr fit
  rw [refused] at taken
  cases taken

/-- A deletion that reaches beyond all offsets is neither accepted nor refused. -/
theorem overflowing_deletion_panics :
    (ofString "ab").check [.delete ⟨1, 18446744073709551615⟩] = .error (.panic .addition) ∧
      ¬(ofString "ab").Fit [.delete ⟨1, 18446744073709551615⟩] := by
  refine ⟨by decide +kernel, ?_⟩
  intro fit
  have within := (fit.inside _ List.mem_cons_self).within
  revert within
  decide +kernel

end Buffer

end Remedy
