import Remedy.Error

/-! Steps that may change a world and may fail. What a step has changed before it fails stays changed.
The world is a monad: a state in which everything can be proved, or the world outside. -/

namespace Remedy

abbrev Action (m : Type → Type) (α : Type) := ExceptT Failure m α

namespace Action

variable {m n : Type → Type} {α : Type}

def lifted (lift : {β : Type} → n β → m β) (step : Action n α) : Action m α := ExceptT.mk (lift step.run)

variable [Monad m]

def fail (e : Failure) : Action m α := throw e

def ofExcept : Except Failure α → Action m α
  | .ok a => pure a
  | .error e => fail e

def ofDomain : Except DomainError α → Action m α
  | .ok a => pure a
  | .error e => fail (.domain e)

def ofChecked : Except Panic α → Action m α
  | .ok a => pure a
  | .error p => fail (.panicked p)

/-- The result of a step, failures included, without failing. -/
def attempt (step : Action m α) : Action m (Except Failure α) := ExceptT.lift step.run

end Action

end Remedy
