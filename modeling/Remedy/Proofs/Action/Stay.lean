import Mathlib.Order.Defs.Unbundled
import Remedy.Proofs.Action.Run

/-! How far steps move a state. A step made of steps that move it only within a preorder does so too. -/

namespace Remedy.World

variable {m : Type → Type} [Monad m] {σ : Type} [World m σ] {α β : Type} {R Q : σ → σ → Prop}

def Stays (R : σ → σ → Prop) (x : m α) : Prop := ∀ s, R s (step x s).2

theorem stays_pure [Std.Refl R] (a : α) : Stays R (pure a : m α) := by
  intro s
  rw [step_pure]
  exact Std.Refl.refl s

theorem Stays.bind [IsTrans σ R] {x : m α} {next : α → m β} (first : Stays R x)
    (rest : ∀ a, Stays R (next a)) : Stays R (x >>= next) := by
  intro s
  rw [step_bind]
  exact IsTrans.trans _ _ _ (first s) (rest _ _)

theorem Stays.mono {x : m α} (stays : Stays R x) (weaker : ∀ s t, R s t → Q s t) : Stays Q x :=
  fun s => weaker _ _ (stays s)

end Remedy.World

namespace ExceptT

open Remedy (World)

variable {m : Type → Type} [Monad m] {σ : Type} [World m σ] {ε α β : Type} {R Q : σ → σ → Prop}

/-- Whatever comes of the step, failures included, the state after it is related to the one before. -/
def Stays (R : σ → σ → Prop) (step : ExceptT ε m α) : Prop := ∀ s, R s (step.runOn s).2

theorem stays_pure [Std.Refl R] (a : α) : Stays R (pure a : ExceptT ε m α) :=
  World.stays_pure (m := m) (Except.ok a)

theorem stays_throw [Std.Refl R] (e : ε) : Stays R (throw e : ExceptT ε m α) :=
  World.stays_pure (m := m) (Except.error e)

theorem Stays.bind [IsTrans σ R] {step : ExceptT ε m α} {next : α → ExceptT ε m β} (first : Stays R step)
    (rest : ∀ a, Stays R (next a)) : Stays R (step >>= next) := by
  intro s
  rw [runOn_bind]
  have before := first s
  rcases ran : step.runOn s with ⟨result, t⟩
  rw [ran] at before
  cases result with
  | ok a => exact IsTrans.trans _ _ _ before (rest a t)
  | error e => exact before

theorem Stays.mono {step : ExceptT ε m α} (stays : Stays R step) (weaker : ∀ s t, R s t → Q s t) :
    Stays Q step :=
  fun s => weaker _ _ (stays s)

theorem stays_lift {x : m α} (stays : World.Stays R x) : Stays R (ExceptT.lift x : ExceptT ε m α) := by
  intro s
  rw [runOn_lift]
  exact stays s

end ExceptT

namespace Remedy.Action

open ExceptT (Stays)

variable {m : Type → Type} [Monad m] {σ : Type} [World m σ] {α : Type} {R : σ → σ → Prop}

theorem stays_ofExcept [Std.Refl R] (result : Except Failure α) : Stays R (ofExcept result : Action m α) := by
  intro s
  rw [runOn_ofExcept]
  exact Std.Refl.refl s

theorem stays_ofChecked [Std.Refl R] (result : Except Panic α) : Stays R (ofChecked result : Action m α) := by
  intro s
  rw [runOn_ofChecked]
  exact Std.Refl.refl s

theorem stays_ofDomain [Std.Refl R] (result : Except DomainError α) :
    Stays R (ofDomain result : Action m α) := by
  intro s
  cases result with
  | ok a =>
      rw [runOn_ofDomain_ok]
      exact Std.Refl.refl s
  | error e =>
      rw [runOn_ofDomain_error]
      exact Std.Refl.refl s

theorem stays_attempt {step : Action m α} (stays : Stays R step) : Stays R step.attempt := by
  intro s
  rw [runOn_attempt]
  exact stays s

end Remedy.Action
