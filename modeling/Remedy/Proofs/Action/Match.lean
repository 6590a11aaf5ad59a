import Remedy.Proofs.Action.Run

/-! Steps of two worlds side by side. Steps that match, taken where the states are related, come to the same failure or
to related results, and leave related states. -/

namespace Except

inductive Alike {ε α β : Type} (Q : α → β → Prop) : Except ε α → Except ε β → Prop where
  | ok {a : α} {b : β} (related : Q a b) : Alike Q (.ok a) (.ok b)
  | error (e : ε) : Alike Q (.error e) (.error e)

theorem alike_eq_iff {ε α : Type} {x y : Except ε α} : Alike Eq x y ↔ x = y := by
  constructor
  · rintro (⟨rfl⟩ | _)
    · rfl
    · rfl
  · rintro rfl
    cases x with
    | ok a => exact .ok rfl
    | error e => exact .error e

end Except

namespace ExceptT

open Remedy (World)

variable {m n : Type → Type} [Monad m] [Monad n] {σ τ : Type} [World m σ] [World n τ] {ε α β γ δ : Type}
  {R : σ → τ → Prop} {Q : α → β → Prop} {P : γ → δ → Prop}

def Matches (R : σ → τ → Prop) (Q : α → β → Prop) (x : ExceptT ε m α) (y : ExceptT ε n β) : Prop :=
  ∀ s t, R s t → Except.Alike Q (x.runOn s).1 (y.runOn t).1 ∧ R (x.runOn s).2 (y.runOn t).2

theorem matches_pure {a : α} {b : β} (related : Q a b) :
    Matches R Q (pure a : ExceptT ε m α) (pure b : ExceptT ε n β) := by
  intro s t states
  rw [runOn_pure, runOn_pure]
  exact ⟨.ok related, states⟩

theorem matches_throw (e : ε) : Matches R Q (throw e : ExceptT ε m α) (throw e : ExceptT ε n β) := by
  intro s t states
  rw [runOn_throw, runOn_throw]
  exact ⟨.error e, states⟩

theorem Matches.bind {x : ExceptT ε m α} {y : ExceptT ε n β} {f : α → ExceptT ε m γ} {g : β → ExceptT ε n δ}
    (first : Matches R Q x y) (rest : ∀ a b, Q a b → Matches R P (f a) (g b)) : Matches R P (x >>= f) (y >>= g) := by
  intro s t states
  obtain ⟨results, states'⟩ := first s t states
  rw [runOn_bind, runOn_bind]
  rcases ran : x.runOn s with ⟨result, s'⟩
  rcases ran' : y.runOn t with ⟨result', t'⟩
  rw [ran, ran'] at results states'
  cases results with
  | ok related => exact rest _ _ related s' t' states'
  | error e => exact ⟨.error e, states'⟩

theorem Matches.map {x : ExceptT ε m α} {y : ExceptT ε n α} (step : Matches R Eq x y) (f : α → γ) :
    Matches R Eq (f <$> x) (f <$> y) := by
  intro s t states
  obtain ⟨results, states'⟩ := step s t states
  rw [runOn_map, runOn_map, Except.alike_eq_iff.mp results]
  exact ⟨Except.alike_eq_iff.mpr rfl, states'⟩

end ExceptT

namespace Remedy.Action

open ExceptT (Matches)

variable {m n : Type → Type} [Monad m] [Monad n] {σ τ : Type} [World m σ] [World n τ] {α : Type} {R : σ → τ → Prop}

theorem matches_ofExcept (result : Except Failure α) :
    Matches R Eq (ofExcept result : Action m α) (ofExcept result : Action n α) := by
  cases result with
  | ok a => exact ExceptT.matches_pure rfl
  | error e => exact ExceptT.matches_throw e

theorem matches_ofDomain (result : Except DomainError α) :
    Matches R Eq (ofDomain result : Action m α) (ofDomain result : Action n α) := by
  cases result with
  | ok a => exact ExceptT.matches_pure rfl
  | error e => exact ExceptT.matches_throw _

theorem matches_attempt {x : Action m α} {y : Action n α} (step : Matches R Eq x y) :
    Matches R Eq x.attempt y.attempt := by
  intro s t states
  obtain ⟨results, states'⟩ := step s t states
  rw [runOn_attempt, runOn_attempt]
  exact ⟨.ok (Except.alike_eq_iff.mp results), states'⟩

end Remedy.Action
