import Remedy.Knowledge.Learn

/-! Learning as a row of calls to a store, so that the calls of several learners can be interleaved. Main
statement: made one after the other, the calls are what learning does. -/

namespace Remedy

/-- A program that does nothing but call a store. -/
inductive Calls (β : Type) where
  | done (b : β)
  | get (signature : Signature) (next : Except Failure (Option (Entry Float)) → Calls β)
  | put (e : Entry Float) (next : Except Failure Unit → Calls β)
  | entries (next : Except Failure (List (Entry Float)) → Calls β)
  | flush (next : Except Failure Unit → Calls β)

namespace Calls

variable {β γ : Type}

def bind : Calls β → (β → Calls γ) → Calls γ
  | done b, f => f b
  | get signature next, f => get signature fun r => (next r).bind f
  | put e next, f => put e fun r => (next r).bind f
  | entries next, f => entries fun r => (next r).bind f
  | flush next, f => flush fun r => (next r).bind f

instance : Monad Calls where
  pure := done
  bind := bind

def store : Store Calls Float where
  get signature := ExceptT.mk (get signature done)
  put e := ExceptT.mk (put e done)
  entries := ExceptT.mk (entries done)
  flush := ExceptT.mk (flush done)

def learn (clock : Nat → Instant) (d : Diagnostic) (r : Resolution) : Calls (Except Failure (Entry Float)) :=
  (store.learn clock d r).run

variable {m : Type → Type} [Monad m]

def make (s : Store m Float) : Calls β → m β
  | done b => pure b
  | get signature next => (s.get signature).run >>= fun r => make s (next r)
  | put e next => (s.put e).run >>= fun r => make s (next r)
  | entries next => s.entries.run >>= fun r => make s (next r)
  | flush next => s.flush.run >>= fun r => make s (next r)

/-- Makes the first of the calls to a store; what is left are the others. -/
def forward (s : Store m Float) : Calls β → m (Calls β)
  | done b => pure (done b)
  | get signature next => next <$> (s.get signature).run
  | put e next => next <$> (s.put e).run
  | entries next => next <$> s.entries.run
  | flush next => next <$> s.flush.run

variable [LawfulMonad m] {s : Store m Float}

theorem make_forward (x : Calls β) : forward s x >>= make s = make s x := by
  cases x <;> simp [forward, make]

theorem make_bind (x : Calls β) (f : β → Calls γ) : make s (x.bind f) = make s x >>= fun b => make s (f b) := by
  induction x with
  | done b => simp [bind, make]
  | get signature next ih => simp [bind, make, ih]
  | put e next ih => simp [bind, make, ih]
  | entries next ih => simp [bind, make, ih]
  | flush next ih => simp [bind, make, ih]

theorem make_action_bind {x : Action Calls β} {y : Action m β} {f : β → Action Calls γ} {g : β → Action m γ}
    (first : make s x.run = y.run) (rest : ∀ b, make s (f b).run = (g b).run) :
    make s (x >>= f).run = (y >>= g).run := by
  have unfolded : (x >>= f).run = bind x.run (ExceptT.bindCont f) := rfl
  rw [unfolded, make_bind, first, ExceptT.run_bind]
  congr 1
  funext result
  cases result with
  | ok b => exact rest b
  | error e => rfl

theorem make_attempt {x : Action Calls β} {y : Action m β} (same : make s x.run = y.run) :
    make s x.attempt.run = y.attempt.run := by
  have unfolded : x.attempt.run = bind x.run fun r => done (.ok r) := rfl
  have lifted : y.attempt.run = Except.ok <$> y.run := rfl
  rw [unfolded, make_bind, same, lifted, ← bind_pure_comp]
  rfl

theorem make_learnRound (signature : Signature) (r : Resolution) (now : Instant) :
    make s (store.learnRound signature r now).run = (s.learnRound signature r now).run := by
  apply make_action_bind
  · simp [store, make, ExceptT.run_mk]
  · intro found?
    apply make_action_bind
    · simp [store, make, ExceptT.run_mk]
    · intro done
      rfl

theorem make_learnFrom (signature : Signature) (r : Resolution) (clock : Nat → Instant) (left round : Nat) :
    make s (store.learnFrom signature r clock left round).run = (s.learnFrom signature r clock left round).run := by
  induction left generalizing round with
  | zero => exact make_learnRound signature r (clock round)
  | succ left ih =>
      apply make_action_bind
      · simp [store, make, ExceptT.run_mk]
      · intro found?
        apply make_action_bind
        · refine make_attempt ?_
          simp [store, make, ExceptT.run_mk]
        · intro result
          split
          · exact ih (round + 1)
          · apply make_action_bind
            · cases result <;> rfl
            · intro done
              rfl

/-- Made one after the other, the calls are what learning does. -/
theorem make_learn (clock : Nat → Instant) (d : Diagnostic) (r : Resolution) :
    make s (learn clock d r) = (s.learn clock d r).run := by
  apply make_action_bind
  · cases Resolution.validateFor d r <;> rfl
  · intro valid
    exact make_learnFrom _ r clock _ 0

end Calls

end Remedy
