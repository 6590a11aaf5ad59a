import Remedy.Fix.Condition
import Remedy.Rule.Edit

/-! Rules: which diagnostics they are for, and the fix they offer. -/

namespace Remedy

structure Rule (α : Type) where
  id : String
  /-- The codes it is for; none means all. -/
  codes : List UInt32
  category? : Option Category
  /-- A pattern the message must match. -/
  messagePattern? : Option String
  description : String
  autonomy : Autonomy
  /-- The confidence before history is taken into account. -/
  confidence : α
  edit : RuleEdit
  preConditions : List String
  postConditions : List String
  sideEffects : List String
  rollbackPossible : Bool
  deriving Repr

namespace Rule

variable {α : Type} [Scalar α]

def flaw? (r : Rule α) : Option RuleFlaw :=
  if Text.isAllBlank r.id then some .emptyId
  else if Text.isAllBlank r.description then some .emptyDescription
  else if !Scalar.isProportion r.confidence then some (.confidenceOutside (Scalar.text r.confidence))
  else if r.postConditions.isEmpty then some .noPostCondition
  else if r.codes.isEmpty && r.category?.isNone && r.messagePattern?.isNone then some .matchesAnything
  else if r.autonomy = .automatic ∧
      !(Condition.allKnown r.preConditions && Condition.allKnown r.postConditions) then
    some .uncheckableCondition
  else if r.edit = .insertImport ∧ r.messagePattern?.isNone then some .importWithoutPattern
  else none

def validate (r : Rule α) : Except DomainError Unit :=
  match r.flaw? with
  | some flaw => .error (.invalidRule r.id flaw)
  | none => .ok ()

def fix (r : Rule α) (d : Diagnostic) (captures? : Option Captures) (source? : Option Buffer) :
    Except DomainError (Fix α) :=
  Fix.build {
    id := Text.natText d.code.toNat ++ "-" ++ r.id
    description := Captures.fill captures? r.description
    autonomy := r.autonomy
    confidence := r.confidence
    category := d.category
    changes := r.edit.resolve d captures? source?
    checks := ⟨r.preConditions, r.postConditions, r.sideEffects, false⟩
    rollbackPossible := r.rollbackPossible }

end Rule

end Remedy
