import Remedy.Error
import Remedy.Files.Editor
import Remedy.Fix.Condition
import Remedy.Resolution
import Remedy.Text.Hex

/-! Applying an automatic fix: the file is read once, the pre-conditions are checked on that text, all
changes are made at once, and if a post-condition fails on the text read back the old text returns. An attempt has the
state it is in and every state before, and a name made of a random number. -/

namespace Remedy

/-- The states passed through, the current one first. -/
structure Attempt where
  current : FixState
  earlier : List FixState
  deriving DecidableEq, Repr

namespace Attempt

def new : Attempt := ⟨.proposed, []⟩

def advance (a : Attempt) (target : FixState) : Except DomainError Attempt :=
  if a.current.canReach target then .ok ⟨target, a.current :: a.earlier⟩
  else .error (.illegalTransition a.current target)

def request (target : FixState) : ExceptT DomainError (StateM Attempt) FixState := do
  let a ← get
  let b ← MonadExcept.ofExcept (a.advance target)
  set b
  return b.current

def trail (a : Attempt) : List FixState := (a.current :: a.earlier).reverse

end Attempt

structure Outcome where
  attemptId : String
  fixId : String
  file : Path
  state : FixState
  success : Bool
  appliedChanges : List Change
  sideEffects : List String
  error? : Option String
  trail : List FixState
  deriving DecidableEq, Repr, Inhabited

namespace Outcome

variable {α : Type}

def committed (id : String) (fix : Fix α) (file : Path) (a : Attempt) : Outcome where
  attemptId := id
  fixId := fix.id
  file := file
  state := a.current
  success := true
  appliedChanges := fix.changes
  sideEffects := fix.checks.sideEffects
  error? := none
  trail := a.trail

def failed (id : String) (fix : Fix α) (file : Path) (a : Attempt) (reason : String) : Outcome where
  attemptId := id
  fixId := fix.id
  file := file
  state := a.current
  success := false
  appliedChanges := []
  sideEffects := []
  error? := some reason
  trail := a.trail

def toResolution (o : Outcome) (d : Diagnostic) (fix : Fix α) : Resolution where
  errorCode := d.code
  pattern := d.message
  solution := fix.description
  success := o.success
  timeToResolve := 1
  feedback? := none

end Outcome

namespace Fix

/-- Sixteen random bytes, with the marks that say they are random. -/
def marked (bytes : List UInt8) : List UInt8 :=
  (bytes.modify 6 fun b => b &&& 0x0f ||| 0x40).modify 8 fun b => b &&& 0x3f ||| 0x80

def grouped : List Nat → List Char → List (List Char)
  | [], _ => []
  | n :: sizes, cs => cs.take n :: grouped sizes (cs.drop n)

def attemptName (bytes : List UInt8) : String :=
  Text.join "-" ((grouped [8, 4, 4, 4, 12] (Text.Hex.ofBytes (marked bytes))).map String.ofList)

variable {m : Type → Type} [Monad m] {α : Type} [Scalar α]

def refusal? (fix : Fix α) : Option ServiceError :=
  if !fix.isAutomatic then some (.fixNotAutomatic fix.id fix.autonomy)
  else if !fix.rollbackPossible then some (.rollbackUnavailable fix.id)
  else none

def ensureApplicable (fix : Fix α) : Action m Unit :=
  match fix.refusal? with
  | some e => Action.fail (.service e)
  | none => pure ()

def failedBefore? (fix : Fix α) (d : Diagnostic) (before : Buffer) : Except Panic (Option Condition.Failed) :=
  Condition.firstFailed? ⟨d, fix.changes, before, none⟩ fix.checks.preConditions

def failedAfter? (fix : Fix α) (d : Diagnostic) (before after : Buffer) : Except Panic (Option Condition.Failed) :=
  Condition.firstFailed? ⟨d, fix.changes, before, some after⟩ fix.checks.postConditions

def preview (editor : Editor m) (d : Diagnostic) (fix : Fix α) : Action m Buffer := do
  fix.ensureApplicable
  let before ← editor.read d.file
  match ← Action.ofChecked (fix.failedBefore? d before) with
  | some failed => Action.fail (.service (.validationFailed failed.text))
  | none => Action.ofExcept ((before.apply fix.changes).mapError EditError.failure)

def restore (editor : Editor m) (path : Path) (snapshot : Buffer) : Action m Unit := do
  match ← (editor.write path snapshot).attempt with
  | .ok () => pure ()
  | .error e => Action.fail (.service (.rollbackFailed path e.message))

def advance (a : Attempt) (target : FixState) : Action m Attempt := Action.ofDomain (a.advance target)

def giveUp (id : String) (d : Diagnostic) (fix : Fix α) (a : Attempt) (reason : String) : Action m Outcome := do
  return .failed id fix d.file (← advance a .rolledBack) reason

def rejection? (fix : Fix α) (d : Diagnostic) (before : Buffer) :
    Except Failure Buffer → Except Panic (Option String)
  | .ok after => (fix.failedAfter? d before after).map fun failed? => failed?.map (·.text)
  | .error e => .ok (some ("could not re-read the file: " ++ e.message))

/-- Writes the edited text, reads it back and checks it. -/
def writeAndCheck (editor : Editor m) (id : String) (d : Diagnostic) (fix : Fix α) (before after : Buffer)
    (a : Attempt) : Action m Outcome := do
  match ← (editor.write d.file after).attempt with
  | .error e =>
    restore editor d.file before
    giveUp id d fix a e.message
  | .ok () =>
    let a ← advance a .applied
    match ← Action.ofChecked (fix.rejection? d before (← (editor.read d.file).attempt)) with
    | none =>
      let a ← advance a .postconditionValidated
      return .committed id fix d.file (← advance a .committed)
    | some reason =>
      restore editor d.file before
      giveUp id d fix a reason

/-- Applies an automatic fix. A condition that does not hold is an outcome; an error means that the fix may
not be applied, that the file could not be read, or that its old text could not be put back. -/
def apply (editor : Editor m) (id : String) (d : Diagnostic) (fix : Fix α) : Action m Outcome := do
  fix.ensureApplicable
  Action.ofDomain fix.validate
  let before ← editor.read d.file
  let a ← advance .new .preconditionChecked
  match ← Action.ofChecked (fix.failedBefore? d before) with
  | some failed => giveUp id d fix a failed.text
  | none =>
    match before.apply fix.changes with
    | .error (.panic p) => Action.fail (.panicked p)
    | .error (.domain e) => giveUp id d fix a e.message
    | .ok after => writeAndCheck editor id d fix before after a

end Fix

end Remedy
