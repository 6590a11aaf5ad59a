import Remedy.Action

/-! Steps of a world whose whole state is in view: the result of a step and the state it leaves. -/

namespace Remedy

/-- A monad whose steps are functions of a state. -/
class World (m : Type → Type) [Monad m] (σ : outParam Type) where
  step {α : Type} : m α → σ → α × σ
  step_pure {α : Type} (a : α) (s : σ) : step (pure a) s = (a, s)
  step_bind {α β : Type} (x : m α) (f : α → m β) (s : σ) :
    step (x >>= f) s = step (f (step x s).1) (step x s).2
  step_map {α β : Type} (f : α → β) (x : m α) (s : σ) : step (f <$> x) s = (f (step x s).1, (step x s).2)

namespace World

instance {σ : Type} : World (StateM σ) σ where
  step x s := (x.run s).run
  step_pure _ _ := rfl
  step_bind _ _ _ := rfl
  step_map _ _ _ := rfl

instance {m : Type → Type} [Monad m] {σ τ : Type} [World m σ] : World (StateT τ m) (τ × σ) where
  step x w := (((step (x.run w.1) w.2).1).1, ((step (x.run w.1) w.2).1).2, (step (x.run w.1) w.2).2)
  step_pure a w := by
    obtain ⟨t, s⟩ := w
    simp only [StateT.run_pure, step_pure]
  step_bind x f w := by
    obtain ⟨t, s⟩ := w
    simp only [StateT.run_bind, step_bind]
  step_map f x w := by
    obtain ⟨t, s⟩ := w
    have mapped : step ((f <$> x).run t) s =
        ((f (step (x.run t) s).1.1, (step (x.run t) s).1.2), (step (x.run t) s).2) := by
      change step (StateT.map f x t) s = _
      unfold StateT.map
      rw [step_bind, step_pure]
      rfl
    simp only [mapped]

theorem step_lift {m : Type → Type} [Monad m] {σ τ α : Type} [World m σ] (x : m α) (t : τ) (s : σ) :
    step (StateT.lift x : StateT τ m α) (t, s) = ((step x s).1, (t, (step x s).2)) := by
  have lifted : step ((StateT.lift x : StateT τ m α).run t) s = (((step x s).1, t), (step x s).2) := by
    change step (x >>= fun a => pure (a, t)) s = _
    rw [step_bind, step_pure]
  change (((step ((StateT.lift x : StateT τ m α).run t) s).1).1, _, _) = _
  rw [lifted]

theorem step_set {m : Type → Type} [Monad m] {σ τ : Type} [World m σ] (t' t : τ) (s : σ) :
    step (set t' : StateT τ m PUnit) (t, s) = (PUnit.unit, (t', s)) := by
  have done : step ((set t' : StateT τ m PUnit).run t) s = ((PUnit.unit, t'), s) :=
    step_pure (PUnit.unit, t') s
  change (((step ((set t' : StateT τ m PUnit).run t) s).1).1, _, _) = _
  rw [done]

theorem step_get {m : Type → Type} [Monad m] {σ τ : Type} [World m σ] (t : τ) (s : σ) :
    step (MonadState.get : StateT τ m τ) (t, s) = (t, (t, s)) := by
  have done : step ((MonadState.get : StateT τ m τ).run t) s = ((t, t), s) := step_pure (t, t) s
  change (((step ((MonadState.get : StateT τ m τ).run t) s).1).1, _, _) = _
  rw [done]

end World

end Remedy

namespace Except

theorem bind_eq_ok {ε α β : Type} {result : Except ε α} {next : α → Except ε β} {b : β} :
    result.bind next = .ok b ↔ ∃ a, result = .ok a ∧ next a = .ok b := by
  cases result <;> simp [Except.bind]

theorem toOption_eq_some_iff {ε α : Type} {result : Except ε α} {a : α} :
    result.toOption = some a ↔ result = .ok a := by
  cases result <;> simp [Except.toOption]

@[simp] theorem mapError_ok {ε ε' α : Type} (f : ε → ε') (a : α) :
    (.ok a : Except ε α).mapError f = .ok a := rfl

@[simp] theorem mapError_error {ε ε' α : Type} (f : ε → ε') (e : ε) :
    (.error e : Except ε α).mapError f = .error (f e) := rfl

end Except

namespace ExceptT

open Remedy (World)

variable {m : Type → Type} [Monad m] {σ : Type} [World m σ] {ε α β : Type}

/-- The result of a step and the state after it. -/
def runOn (step : ExceptT ε m α) (s : σ) : Except ε α × σ := World.step step.run s

/-- What a step that goes on after another one comes to. -/
def andThen (done : Except ε α × σ) (next : α → ExceptT ε m β) : Except ε β × σ :=
  match done with
  | (.ok a, s) => (next a).runOn s
  | (.error e, s) => (.error e, s)

@[simp] theorem andThen_ok (a : α) (s : σ) (next : α → ExceptT ε m β) :
    andThen (.ok a, s) next = (next a).runOn s := rfl

@[simp] theorem andThen_error (e : ε) (s : σ) (next : α → ExceptT ε m β) :
    andThen (.error e, s) next = (.error e, s) := rfl

@[simp] theorem runOn_pure (a : α) (s : σ) : (pure a : ExceptT ε m α).runOn s = (.ok a, s) :=
  World.step_pure (Except.ok a) s

@[simp] theorem runOn_throw (e : ε) (s : σ) : (throw e : ExceptT ε m α).runOn s = (.error e, s) :=
  World.step_pure (Except.error e) s

@[simp] theorem runOn_bind (step : ExceptT ε m α) (next : α → ExceptT ε m β) (s : σ) :
    (step >>= next).runOn s = andThen (step.runOn s) next := by
  have unfolded : (step >>= next).runOn s = World.step (step.run >>= ExceptT.bindCont next) s := rfl
  rw [unfolded, World.step_bind]
  rcases ran : step.runOn s with ⟨result, s'⟩
  have stepped : World.step step.run s = (result, s') := ran
  rw [stepped]
  cases result with
  | ok a => rfl
  | error e => exact World.step_pure (Except.error e) s'

@[simp] theorem runOn_lift (x : m α) (s : σ) :
    (ExceptT.lift x : ExceptT ε m α).runOn s = (.ok (World.step x s).1, (World.step x s).2) :=
  World.step_map Except.ok x s

theorem bind_ok {step : ExceptT ε m α} {next : α → ExceptT ε m β} {s s' : σ} {b : β} :
    (step >>= next).runOn s = (.ok b, s') ↔
      ∃ a t, step.runOn s = (.ok a, t) ∧ (next a).runOn t = (.ok b, s') := by
  rw [runOn_bind]
  rcases step.runOn s with ⟨result, t⟩
  constructor
  · intro ran
    cases result with
    | ok a => exact ⟨a, t, rfl, ran⟩
    | error e => simp at ran
  · rintro ⟨a, t', same, ran⟩
    cases same
    exact ran

@[simp] theorem runOn_map (f : α → β) (step : ExceptT ε m α) (s : σ) :
    (f <$> step).runOn s = ((step.runOn s).1.map f, (step.runOn s).2) := by
  have unfolded : (f <$> step).runOn s = (step >>= fun a => pure (f a)).runOn s := by
    change World.step (step.run >>= _) s = World.step (step.run >>= _) s
    congr 2
  rw [unfolded, runOn_bind]
  rcases step.runOn s with ⟨result, s'⟩
  cases result <;> simp [Except.map]

end ExceptT

namespace Remedy.Action

variable {m : Type → Type} [Monad m] {σ : Type} [World m σ] {α : Type}

@[simp] theorem runOn_fail (e : Failure) (s : σ) : (fail e : Action m α).runOn s = (.error e, s) :=
  ExceptT.runOn_throw e s

@[simp] theorem runOn_ofExcept (result : Except Failure α) (s : σ) :
    (ofExcept result : Action m α).runOn s = (result, s) := by
  cases result with
  | ok a => exact ExceptT.runOn_pure a s
  | error e => exact runOn_fail e s

@[simp] theorem runOn_ofDomain_ok (a : α) (s : σ) :
    (ofDomain (.ok a) : Action m α).runOn s = (.ok a, s) := ExceptT.runOn_pure a s

@[simp] theorem runOn_ofDomain_error (e : DomainError) (s : σ) :
    (ofDomain (.error e) : Action m α).runOn s = (.error (.domain e), s) := runOn_fail _ s

theorem ofDomain_ok {result : Except DomainError α} {a : α} {s s' : σ} :
    (ofDomain result : Action m α).runOn s = (.ok a, s') ↔ result = .ok a ∧ s' = s := by
  cases result <;> simp [eq_comm]

@[simp] theorem runOn_ofChecked (result : Except Panic α) (s : σ) :
    (ofChecked result : Action m α).runOn s = (result.mapError .panicked, s) := by
  cases result with
  | ok a => exact ExceptT.runOn_pure a s
  | error p => exact runOn_fail _ s

@[simp] theorem runOn_attempt (step : Action m α) (s : σ) :
    step.attempt.runOn s = (.ok (step.runOn s).1, (step.runOn s).2) := by
  have unfolded : step.attempt.runOn s = World.step (Except.ok <$> step.run) s := rfl
  rw [unfolded, World.step_map]
  rfl

end Remedy.Action
