import Remedy.Engine

/-! Which fixes are applied in one run: at most one for a file, since the first edit moves the places that
the other diagnostics speak of. -/

namespace Remedy

structure PlannedFix (α : Type) where
  diagnostic : Diagnostic
  fix : Fix α

structure Plan (α : Type) where
  steps : List (PlannedFix α)
  /-- How many diagnostics wait for another run. -/
  deferred : Nat

namespace Plan

variable {α : Type}

def empty : Plan α := ⟨[], 0⟩

def touches (p : Plan α) (file : Path) : Bool := p.steps.any fun s => s.diagnostic.file.same file

/-- The fix with the requested id, or else the first automatic one. -/
def choose (requested? : Option String) (fixes : List (Fix α)) : Option (Fix α) :=
  match requested? with
  | some id => fixes.find? (·.id == id)
  | none => fixes.find? (·.isAutomatic)

def add (p : Plan α) (d : Diagnostic) : Option (Fix α) → Plan α
  | none => p
  | some fix =>
    if p.touches d.file then { p with deferred := p.deferred + 1 }
    else { p with steps := p.steps ++ [⟨d, fix⟩] }

variable {m : Type → Type} [Monad m] [Scalar α]

def extend (engine : Engine m α) (requested? : Option String) : Plan α → List Diagnostic → Action m (Plan α)
  | p, [] => return p
  | p, d :: rest => do
    let fixes ← engine.suggest d
    extend engine requested? (p.add d (choose requested? fixes)) rest

end Plan

end Remedy
