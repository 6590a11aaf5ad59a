import Mathlib.Data.List.Pairwise
import Remedy.Command.Plan
import Remedy.Proofs.Action.Run
import Remedy.Proofs.Path

/-! Which files a plan names. Main statement: a plan names no file twice exactly if the chosen diagnostics
never spell one file in two ways. -/

namespace Remedy

namespace PlannedFix

variable {α : Type}

def file (s : PlannedFix α) : Path := s.diagnostic.file

end PlannedFix

namespace Plan

variable {α : Type}

def gather (p : Plan α) (picked : List (PlannedFix α)) : Plan α :=
  picked.foldl (fun p s => p.add s.diagnostic (some s.fix)) p

/-- No two steps are for the same file, as seen from the home that relative paths start from. -/
def OneFixPerFile (home : List Path.Component) (p : Plan α) : Prop :=
  p.steps.Pairwise fun a b => a.file.canonical home ≠ b.file.canonical home

/-- Choices that are for the same file also have equal components in its name. -/
def SpelledAlike (home : List Path.Component) (picked : List (PlannedFix α)) : Prop :=
  ∀ a ∈ picked, ∀ b ∈ picked, a.file.canonical home = b.file.canonical home → a.file.same b.file = true

theorem gather_cons (p : Plan α) (s : PlannedFix α) (rest : List (PlannedFix α)) :
    p.gather (s :: rest) = (p.add s.diagnostic (some s.fix)).gather rest := rfl

theorem touches_iff (p : Plan α) (file : Path) :
    p.touches file = true ↔ ∃ s ∈ p.steps, s.file.same file = true := by
  simp [touches, PlannedFix.file]

theorem add_of_touches {p : Plan α} {s : PlannedFix α} (touched : p.touches s.file = true) :
    (p.add s.diagnostic (some s.fix)).steps = p.steps := by
  have already : p.touches s.diagnostic.file = true := touched
  simp [add, already]

theorem add_of_not_touches {p : Plan α} {s : PlannedFix α} (fresh : p.touches s.file = false) :
    (p.add s.diagnostic (some s.fix)).steps = p.steps ++ [s] := by
  have untouched : p.touches s.diagnostic.file = false := fresh
  simp [add, untouched]

theorem add_distinct {p : Plan α} (s : PlannedFix α)
    (distinct : p.steps.Pairwise fun a b => a.file.same b.file = false) :
    (p.add s.diagnostic (some s.fix)).steps.Pairwise fun a b => a.file.same b.file = false := by
  cases touched : p.touches s.file with
  | true =>
      rw [add_of_touches touched]
      exact distinct
  | false =>
      rw [add_of_not_touches touched, List.pairwise_append]
      refine ⟨distinct, List.pairwise_singleton _ _, ?_⟩
      intro a earlier b last
      rw [List.mem_singleton] at last
      rw [last, Bool.eq_false_iff]
      intro same
      have already := (touches_iff p s.file).mpr ⟨a, earlier, same⟩
      rw [touched] at already
      cases already

theorem gather_distinct (picked : List (PlannedFix α)) {p : Plan α}
    (distinct : p.steps.Pairwise fun a b => a.file.same b.file = false) :
    (p.gather picked).steps.Pairwise fun a b => a.file.same b.file = false := by
  induction picked generalizing p with
  | nil => exact distinct
  | cons s rest ih => exact ih (add_distinct s distinct)

theorem mem_gather {picked : List (PlannedFix α)} {p : Plan α} {a : PlannedFix α}
    (member : a ∈ (p.gather picked).steps) : a ∈ p.steps ∨ a ∈ picked := by
  induction picked generalizing p with
  | nil => exact .inl member
  | cons s rest ih =>
      rcases ih member with here | later
      · cases touched : p.touches s.file with
        | true =>
            rw [add_of_touches touched] at here
            exact .inl here
        | false =>
            rw [add_of_not_touches touched, List.mem_append, List.mem_singleton] at here
            rcases here with earlier | rfl
            · exact .inl earlier
            · exact .inr List.mem_cons_self
      · exact .inr (List.mem_cons_of_mem s later)

theorem touches_gather {picked : List (PlannedFix α)} {p : Plan α} {file : Path}
    (touched : p.touches file = true) : (p.gather picked).touches file = true := by
  induction picked generalizing p with
  | nil => exact touched
  | cons s rest ih =>
      refine ih ?_
      obtain ⟨a, member, same⟩ := (touches_iff p file).mp touched
      refine (touches_iff _ file).mpr ⟨a, ?_, same⟩
      cases already : p.touches s.file with
      | true =>
          rw [add_of_touches already]
          exact member
      | false =>
          rw [add_of_not_touches already]
          exact List.mem_append_left _ member

theorem gather_touches {picked : List (PlannedFix α)} {p : Plan α} {a : PlannedFix α}
    (member : a ∈ picked) : (p.gather picked).touches a.file = true := by
  induction picked generalizing p with
  | nil => cases member
  | cons s rest ih =>
      rcases List.mem_cons.mp member with rfl | later
      · have touched : (p.add a.diagnostic (some a.fix)).touches a.file = true := by
          rw [touches_iff]
          cases already : p.touches a.file with
          | true =>
              rw [add_of_touches already]
              exact (touches_iff p a.file).mp already
          | false =>
              rw [add_of_not_touches already]
              exact ⟨a, by simp, by simp [Path.same]⟩
        rw [gather_cons]
        exact touches_gather touched
      · exact ih later

theorem gather_oneFixPerFile_iff (home : List Path.Component) (picked : List (PlannedFix α)) :
    (gather empty picked).OneFixPerFile home ↔ SpelledAlike home picked := by
  constructor
  · intro apart a chosen b also same
    obtain ⟨a', planned, spelled⟩ := (touches_iff _ a.file).mp (gather_touches (p := empty) chosen)
    obtain ⟨b', planned', spelled'⟩ := (touches_iff _ b.file).mp (gather_touches (p := empty) also)
    have there := Path.canonical_eq_of_same home spelled
    have there' := Path.canonical_eq_of_same home spelled'
    have one : a' = b' := by
      by_contra other
      have symmetric : Std.Symm fun x y : PlannedFix α => x.file.canonical home ≠ y.file.canonical home :=
        ⟨fun _ _ away => away.symm⟩
      exact apart.forall planned planned' other (there.trans (same.trans there'.symm))
    rw [Path.same, beq_iff_eq] at spelled spelled' ⊢
    rw [← spelled, ← spelled', one]
  · intro alike
    have distinct := gather_distinct (p := (empty : Plan α)) picked List.Pairwise.nil
    refine distinct.imp_of_mem ?_
    intro a b first second differ same
    have chosen := (mem_gather first).resolve_left (by simp [empty])
    have also := (mem_gather second).resolve_left (by simp [empty])
    rw [alike a chosen b also same] at differ
    cases differ

theorem gather_choice (p : Plan α) (d : Diagnostic) (choice? : Option (Fix α)) (later : List (PlannedFix α)) :
    p.gather ((choice?.map (⟨d, ·⟩)).toList ++ later) = (p.add d choice?).gather later := by
  cases choice? with
  | none => rfl
  | some fix => rfl

variable {m : Type → Type} [Monad m] {σ : Type} [World m σ] [Scalar α]

def picks (engine : Engine m α) (requested? : Option String) : List Diagnostic → Action m (List (PlannedFix α))
  | [] => return []
  | d :: rest => do
    let fixes ← engine.suggest d
    let later ← picks engine requested? rest
    return ((choose requested? fixes).map (⟨d, ·⟩)).toList ++ later

/-- Planning is choosing for one diagnostic after the other, and then gathering. -/
theorem runOn_extend (engine : Engine m α) (requested? : Option String) (found : List Diagnostic) (p : Plan α)
    (s : σ) :
    (extend engine requested? p found).runOn s =
      (((picks engine requested? found).runOn s).1.map p.gather, ((picks engine requested? found).runOn s).2) := by
  induction found generalizing p s with
  | nil =>
      rw [extend, picks, ExceptT.runOn_pure, ExceptT.runOn_pure]
      rfl
  | cons d rest ih =>
      rw [extend, picks, ExceptT.runOn_bind, ExceptT.runOn_bind]
      rcases (engine.suggest d).runOn s with ⟨result, t⟩
      cases result with
      | error e => rfl
      | ok fixes =>
          rw [ExceptT.andThen_ok, ExceptT.andThen_ok, ih, ExceptT.runOn_bind]
          rcases (picks engine requested? rest).runOn t with ⟨chosen, t'⟩
          cases chosen with
          | error e => rfl
          | ok later =>
              rw [ExceptT.andThen_ok, ExceptT.runOn_pure]
              simp only [Except.map, gather_choice]

end Plan

end Remedy
