/-! The states of one attempt to apply a fix, and the steps between them. -/

namespace Remedy

inductive FixState where
  | proposed
  | preconditionChecked
  | applied
  | postconditionValidated
  | committed
  | rolledBack
  deriving DecidableEq, Repr, Inhabited

namespace FixState

def all : List FixState :=
  [proposed, preconditionChecked, applied, postconditionValidated, committed, rolledBack]

def text : FixState → String
  | proposed => "proposed"
  | preconditionChecked => "precondition-checked"
  | applied => "applied"
  | postconditionValidated => "postcondition-validated"
  | committed => "committed"
  | rolledBack => "rolled-back"

def name : FixState → String
  | proposed => "proposed"
  | preconditionChecked => "preconditionChecked"
  | applied => "applied"
  | postconditionValidated => "postconditionValidated"
  | committed => "committed"
  | rolledBack => "rolledBack"

def ofName? (s : String) : Option FixState := all.find? (·.name == s)

def next : FixState → List FixState
  | proposed => [preconditionChecked]
  | preconditionChecked => [applied, rolledBack]
  | applied => [postconditionValidated, rolledBack]
  | postconditionValidated => [committed, rolledBack]
  | committed => []
  | rolledBack => [proposed]

def canReach (source target : FixState) : Bool := source.next.contains target

def isTerminal : FixState → Bool
  | committed | rolledBack => true
  | _ => false

end FixState

end Remedy
