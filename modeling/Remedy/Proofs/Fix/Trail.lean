import Mathlib.Data.List.Basic
import Mathlib.Data.List.Chain
import Remedy.Fix.Apply
import Remedy.Proofs.Action.Run

/-! Runs of an attempt. Main statement: whatever steps an attempt is asked for, its trail takes allowed steps from the
proposal to its state, a step that is not allowed leaves it as it is, and it is committed only at the end of an
unbroken round from its last proposal. -/

namespace Remedy

namespace FixState

variable {source target : FixState}

def rounds : FixState → List (List FixState)
  | proposed => [[]]
  | preconditionChecked => [[preconditionChecked]]
  | applied => [[preconditionChecked, applied]]
  | postconditionValidated => [[preconditionChecked, applied, postconditionValidated]]
  | committed => [[preconditionChecked, applied, postconditionValidated, committed]]
  | rolledBack =>
    [[preconditionChecked, rolledBack], [preconditionChecked, applied, rolledBack],
     [preconditionChecked, applied, postconditionValidated, rolledBack]]

theorem rounds_step (allowed : source.canReach target = true) (further : target ≠ proposed) :
    ∀ round ∈ source.rounds, round ++ [target] ∈ target.rounds := by
  revert allowed further
  cases source <;> cases target <;> decide

theorem rounds_uncommitted (unfinished : source ≠ committed) : ∀ round ∈ source.rounds, committed ∉ round := by
  cases source with
  | committed => exact (unfinished rfl).elim
  | _ => decide

end FixState

namespace Attempt

open FixState

variable {a b : Attempt} {target : FixState}

/-- An attempt whose states so far are allowed steps from the proposal on. -/
def IsLegal (a : Attempt) : Prop :=
  a.trail.head? = some .proposed ∧ a.trail.IsChain fun source target => source.canReach target = true

theorem new_isLegal : new.IsLegal := by
  simp [IsLegal, new, trail]

theorem trail_getLast? (a : Attempt) : a.trail.getLast? = some a.current := by
  simp [trail]

theorem advance_eq_ok_iff :
    a.advance target = .ok b ↔ a.current.canReach target = true ∧ ⟨target, a.current :: a.earlier⟩ = b := by
  by_cases allowed : a.current.canReach target = true
  · simp [advance, allowed]
  · simp [advance, allowed]

theorem trail_advance (advanced : a.advance target = .ok b) : b.trail = a.trail ++ [target] := by
  obtain ⟨-, rfl⟩ := advance_eq_ok_iff.mp advanced
  simp [trail]

theorem advance_isLegal (legal : a.IsLegal) (advanced : a.advance target = .ok b) :
    b.IsLegal ∧ b.current = target := by
  have longer := trail_advance advanced
  obtain ⟨allowed, rfl⟩ := advance_eq_ok_iff.mp advanced
  obtain ⟨starts, chain⟩ := legal
  refine ⟨⟨?_, ?_⟩, rfl⟩
  · rw [longer, List.head?_append, starts]
    rfl
  · rw [longer, List.isChain_append]
    refine ⟨chain, by simp, ?_⟩
    intro source last next first
    rw [trail_getLast?] at last
    simp only [Option.mem_def, Option.some.injEq, List.head?_cons] at last first
    rw [← last, ← first]
    exact allowed

theorem advance_legal (target : FixState) (legal : a.IsLegal) (allowed : a.current.canReach target = true) :
    ∃ b, a.advance target = .ok b ∧ b.IsLegal ∧ b.current = target := by
  have advanced := advance_eq_ok_iff.mpr ⟨allowed, rfl⟩
  exact ⟨_, advanced, advance_isLegal legal advanced⟩

theorem current_ne_committed (advanced : a.advance target = .ok b) : a.current ≠ .committed := by
  obtain ⟨allowed, -⟩ := advance_eq_ok_iff.mp advanced
  intro ended
  rw [ended] at allowed
  cases allowed

theorem runOn_request (target : FixState) (a : Attempt) :
    (request target).runOn a =
      match a.advance target with
      | .ok b => (.ok b.current, b)
      | .error e => (.error e, a) := by
  have read : (get : ExceptT DomainError (StateM Attempt) Attempt).runOn a = (.ok a, a) := rfl
  rw [request, ExceptT.runOn_bind, read, ExceptT.andThen_ok, ExceptT.runOn_bind]
  cases a.advance target <;> rfl

def after (a : Attempt) (targets : List FixState) : Attempt :=
  targets.foldl (fun a target => ((request target).runOn a).2) a

theorem after_keeps {P : Attempt → Prop} (keeps : ∀ a b target, P a → a.advance target = .ok b → P b)
    (here : P a) (targets : List FixState) : P (a.after targets) := by
  induction targets generalizing a with
  | nil => exact here
  | cons target later ih =>
      refine ih ?_
      change P ((request target).runOn a).2
      rw [runOn_request]
      cases advanced : a.advance target with
      | ok b => exact keeps a b target here advanced
      | error e => exact here

/-- A request for a step that is allowed is granted and recorded; any other leaves the attempt as it is. -/
theorem request_answered (a : Attempt) (target : FixState) :
    (a.current.canReach target = true ∧
        ∃ b, (request target).runOn a = (.ok target, b) ∧ b.trail = a.trail ++ [target]) ∨
      (a.current.canReach target = false ∧
        (request target).runOn a = (.error (.illegalTransition a.current target), a)) := by
  rw [runOn_request]
  cases allowed : a.current.canReach target with
  | true =>
      left
      have advanced := advance_eq_ok_iff.mpr ⟨allowed, rfl⟩
      rw [advanced]
      exact ⟨rfl, _, rfl, trail_advance advanced⟩
  | false =>
      right
      rw [advance, allowed]
      exact ⟨rfl, rfl⟩

theorem after_of_committed (ended : a.current = .committed) (targets : List FixState) : a.after targets = a := by
  refine after_keeps (P := (· = a)) ?_ rfl targets
  rintro _ b target rfl advanced
  exact (current_ne_committed advanced ended).elim

/-- The trail up to its last proposal holds no commit, and behind that stands one of the rounds to the current state. -/
def InRounds (a : Attempt) : Prop :=
  ∃ settled round, a.trail = settled ++ .proposed :: round ∧ .committed ∉ settled ∧ round ∈ a.current.rounds

theorem new_inRounds : new.InRounds := ⟨[], [], rfl, by simp, by decide⟩

theorem InRounds.advance (inRounds : a.InRounds) (advanced : a.advance target = .ok b) : b.InRounds := by
  obtain ⟨settled, round, trail, unsettled, listed⟩ := inRounds
  have longer := trail_advance advanced
  have unfinished := rounds_uncommitted (current_ne_committed advanced) round listed
  obtain ⟨allowed, rfl⟩ := advance_eq_ok_iff.mp advanced
  by_cases anew : target = .proposed
  · -- The round that ends here was rolled back, so it holds no commit.
    subst anew
    refine ⟨a.trail, [], longer, ?_, List.mem_singleton_self []⟩
    rw [trail]
    simp [unsettled, unfinished]
  · refine ⟨settled, round ++ [target], ?_, unsettled, rounds_step allowed anew round listed⟩
    rw [longer, trail, List.append_assoc, List.cons_append]

/-- A commit on the trail is its end, and the end of an unbroken round from the last proposal. -/
theorem InRounds.committed (inRounds : a.InRounds) {before later : List FixState}
    (parts : a.trail = before ++ .committed :: later) :
    a.current = .committed ∧ later = [] ∧
      ∃ settled, before = settled ++ [.proposed, .preconditionChecked, .applied, .postconditionValidated] := by
  obtain ⟨settled, round, trail, unsettled, listed⟩ := inRounds
  have reached : FixState.committed ∈ round := by
    have member : FixState.committed ∈ settled ++ .proposed :: round := by simp [← trail, parts]
    simpa [unsettled] using member
  have ended : a.current = .committed := by
    by_contra unfinished
    exact rounds_uncommitted unfinished round listed reached
  rw [ended] at listed
  have whole := List.mem_singleton.mp listed
  have split : (settled ++ [.proposed, .preconditionChecked, .applied, .postconditionValidated]) ++ [.committed] =
      before ++ .committed :: later := by
    rw [← parts, trail, whole, List.append_assoc]
    rfl
  have alone : FixState.committed ∉
      settled ++ [.proposed, .preconditionChecked, .applied, .postconditionValidated] := by
    simp [unsettled]
  obtain ⟨front, -, back⟩ := (List.append_cons_inj_of_notMem alone List.not_mem_nil).mp split
  exact ⟨ended, back.symm, settled, front.symm⟩

theorem after_isLegal (targets : List FixState) : (new.after targets).IsLegal :=
  after_keeps (fun _ _ _ legal advanced => (advance_isLegal legal advanced).1) new_isLegal targets

theorem after_inRounds (targets : List FixState) : (new.after targets).InRounds :=
  after_keeps (fun _ _ _ inRounds advanced => inRounds.advance advanced) new_inRounds targets

/-- Whatever steps a new attempt is asked for, its trail takes allowed steps from the proposal to its state. A request
is granted and recorded if it is for an allowed step, and else changes nothing; after a commit none is granted. A
commit ends the trail, and with it a round that began at the last proposal and went through every state in order. -/
theorem requests_recorded (targets : List FixState) :
    let a := new.after targets
    a.trail.head? = some .proposed ∧ a.trail.getLast? = some a.current ∧
      (a.trail.IsChain fun source target => source.canReach target = true) ∧
      (∀ target,
        (a.current.canReach target = true ∧
            ∃ b, (request target).runOn a = (.ok target, b) ∧ b.trail = a.trail ++ [target]) ∨
          (a.current.canReach target = false ∧
            (request target).runOn a = (.error (.illegalTransition a.current target), a))) ∧
      (.committed ∈ a.trail → ∀ later target,
        (request target).runOn (a.after later) = (.error (.illegalTransition .committed target), a)) ∧
      ∀ before later, a.trail = before ++ .committed :: later →
        later = [] ∧
          ∃ settled, before = settled ++ [.proposed, .preconditionChecked, .applied, .postconditionValidated] := by
  intro a
  have inRounds : a.InRounds := after_inRounds targets
  obtain ⟨starts, legal⟩ := after_isLegal targets
  refine ⟨starts, trail_getLast? a, legal, request_answered a, ?_, ?_⟩
  · intro reached later target
    obtain ⟨before, rest, parts⟩ := List.append_of_mem reached
    obtain ⟨ended, -⟩ := inRounds.committed parts
    rw [after_of_committed ended, runOn_request, advance, ended]
    rfl
  · intro before later parts
    exact (inRounds.committed parts).2

/-- An attempt that is rolled back, proposed anew and committed, with requests in between that are not allowed. -/
def retried : List FixState :=
  [.applied, .preconditionChecked, .rolledBack, .committed, .proposed, .preconditionChecked, .proposed, .applied,
   .postconditionValidated, .committed, .rolledBack]

theorem requests_recorded_retried :
    let a := new.after retried
    a.trail = [.proposed, .preconditionChecked, .rolledBack] ++
        [.proposed, .preconditionChecked, .applied, .postconditionValidated] ++ [.committed] ∧
      .committed ∈ a.trail ∧
      (request .proposed).runOn (a.after [.applied, .proposed]) =
        (.error (.illegalTransition .committed .proposed), a) := by
  intro a
  obtain ⟨-, -, -, -, final, -⟩ := requests_recorded retried
  have trail : a.trail = [.proposed, .preconditionChecked, .rolledBack] ++
      [.proposed, .preconditionChecked, .applied, .postconditionValidated] ++ [.committed] := rfl
  have reached : .committed ∈ a.trail := by simp [trail]
  exact ⟨trail, reached, final reached _ _⟩

end Attempt

end Remedy
