import Remedy.Diagnostic.Basic
import Remedy.Feedback

/-! How a diagnostic was resolved, as reported. -/

namespace Remedy

structure Resolution where
  errorCode : UInt32
  /-- The shape of the problem, for instance the message. -/
  pattern : String
  solution : String
  success : Bool
  /-- Minutes. -/
  timeToResolve : UInt32
  feedback? : Option Feedback
  deriving DecidableEq, Repr, Inhabited

namespace Resolution

def flaw? (r : Resolution) : Option ResolutionFlaw :=
  if Text.isAllBlank r.solution then some .emptySolution
  else if r.timeToResolve = 0 then some .zeroTime
  else none

def validate (r : Resolution) : Except DomainError Unit :=
  match r.flaw? with
  | some flaw => .error (.invalidResolution flaw)
  | none => .ok ()

/-- A report must describe the diagnostic it is made for. -/
def validateFor (d : Diagnostic) (r : Resolution) : Except DomainError Unit := do
  d.validate
  r.validate
  if r.errorCode ≠ d.code then
    .error (.invalidResolution (.otherCode r.errorCode d.code))

end Resolution

end Remedy
