import Remedy.Edit.Span
import Remedy.Error
import Remedy.Scalar

/-! Candidate fixes and the rules every fix obeys: an automatic fix is confident, can be rolled back and
changes something; a manual fix, and one with more than two pre-conditions, asks for tests; every fix
names a post-condition. -/

namespace Remedy

structure Checks where
  preConditions : List String
  postConditions : List String
  sideEffects : List String
  testRequired : Bool
  deriving DecidableEq, Repr, Inhabited

structure Fix (α : Type) where
  id : String
  description : String
  autonomy : Autonomy
  confidence : α
  category : Category
  changes : List Change
  checks : Checks
  rollbackPossible : Bool
  deriving Repr

namespace Fix

variable {α : Type} [Scalar α]

def automaticThreshold : α := 0.7

def isAutomatic (fix : Fix α) : Bool := fix.autonomy = .automatic

def mayBeAutomatic (fix : Fix α) : Bool :=
  !Scalar.lt fix.confidence automaticThreshold && fix.rollbackPossible && !fix.changes.isEmpty

def needsTest (fix : Fix α) : Bool :=
  fix.autonomy = .manual || 2 < fix.checks.preConditions.length

def downgradeUnlessFit (fix : Fix α) : Fix α :=
  if fix.isAutomatic && !fix.mayBeAutomatic then { fix with autonomy := fix.autonomy.downgraded } else fix

def requireTest (fix : Fix α) : Fix α :=
  if fix.needsTest then { fix with checks := { fix.checks with testRequired := true } } else fix

/-- Brings a fix under the rules, never towards more autonomy. -/
def settle (fix : Fix α) : Fix α := fix.downgradeUnlessFit.requireTest

def draft (id description : String) : Fix α where
  id := id
  description := description
  autonomy := .manual
  confidence := 0.0
  category := .genericError
  changes := []
  checks := ⟨[], [], [], false⟩
  rollbackPossible := false

def build (draft : Fix α) : Except DomainError (Fix α) :=
  if Text.isAllBlank draft.description then .error (.invalidFix draft.id .emptyDescription)
  else if !Scalar.isProportion draft.confidence then
    .error (.invalidFix draft.id (.confidenceGiven (Scalar.text draft.confidence)))
  else if draft.checks.postConditions.isEmpty then .error (.invalidFix draft.id .noPostCondition)
  else .ok draft.settle

def withConfidence (fix : Fix α) (confidence : α) : Fix α :=
  settle { fix with confidence := Scalar.clamp 0.0 1.0 confidence }

/-- The first rule a fix breaks that was not built here. -/
def flaw? (fix : Fix α) : Option FixFlaw :=
  if Text.isAllBlank fix.description then some .emptyDescription
  else if !Scalar.isProportion fix.confidence then some .confidenceRange
  else if fix.checks.postConditions.isEmpty then some .noPostCondition
  else if fix.isAutomatic && Scalar.lt fix.confidence automaticThreshold then some .lowConfidence
  else if fix.isAutomatic && !fix.rollbackPossible then some .noRollback
  else if fix.autonomy = .manual ∧ !fix.checks.testRequired then some .untestedManual
  else if 2 < fix.checks.preConditions.length ∧ !fix.checks.testRequired then some .untestedPreConditions
  else none

def validate (fix : Fix α) : Except DomainError Unit :=
  match fix.flaw? with
  | some flaw => .error (.invalidFix fix.id flaw)
  | none => .ok ()

def ranked (fixes : List (Fix α)) : List (Fix α) :=
  fixes.mergeSort fun a b => Scalar.order b.confidence a.confidence != .gt

end Fix

end Remedy
