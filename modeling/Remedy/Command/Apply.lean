import Remedy.Command.Plan
import Remedy.Command.Task
import Remedy.Edit.Difference
import Remedy.Record.Outcome

/-! Applying the planned fixes, or showing what they would change. -/

namespace Remedy.Command

structure Preview where
  step : PlannedFix Float
  before : String
  after : String

namespace Preview

def toJson (p : Preview) : Json :=
  .obj [("fixId", .str p.step.fix.id), ("file", p.step.diagnostic.file.toJson), ("text", .str p.after)]

def lines (p : Preview) : List Line :=
  .header (p.step.fix.id ++ " (" ++ percent p.step.fix.confidence ++ ") → " ++ p.step.diagnostic.file.text) ::
    (Difference.of p.before p.after).lines.map .text

end Preview

def previewLines (json : Bool) (previews : List Preview) : List Line :=
  if json then [.document (.ofList Preview.toJson previews)]
  else previews.flatMap Preview.lines ++ [.info "Dry run: no files were written"]

def outcomeLines (o : Outcome) : List Line :=
  if o.success then
    .success (o.fixId ++ " applied to " ++ o.file.text) :: o.sideEffects.map .detail
  else
    [.failure (o.fixId ++ " rolled back in " ++ o.file.text ++ ": " ++ o.error?.getD "verification failed")]

def deferredLines (deferred : Nat) : List Line :=
  if deferred = 0 then []
  else
    [.info (Text.natText deferred ++
      " more diagnostic(s) share a file with an applied fix; recompile and re-run")]

def appliedLines (json : Bool) (deferred : Nat) (outcomes : List Outcome) : List Line :=
  if json then [.document (.ofList Outcome.toJson outcomes)]
  else outcomes.flatMap outcomeLines ++ deferredLines deferred

def nothingToApply : List Line :=
  [.warning "No automatic fix is available for these diagnostics",
   .info "Run \x60mend suggest\x60 to see the manual options"]

def unconfirmed : CommandError :=
  .invalidInput "confirmation required; pass --yes to apply without a terminal" none

variable {m : Type → Type} [Monad m]

def previewStep (around : Surroundings m) (engine : CommandEngine m) (s : PlannedFix Float) : Task m Preview := do
  let after ← Task.action (engine.preview s.diagnostic s.fix)
  let before ← Task.outside (around.disk.readText s.diagnostic.file)
  return ⟨s, before.toOption.getD "", after⟩

def applyStep (around : Surroundings m) (engine : CommandEngine m) (number : Nat) (s : PlannedFix Float) :
    Task m Outcome := do
  let outcome ← Task.action (engine.apply (around.attemptName number) s.diagnostic s.fix)
  let _ ← Task.action (engine.recordOutcome around.clock s.diagnostic s.fix outcome)
  return outcome

def applySteps (around : Surroundings m) (engine : CommandEngine m) : Nat → List (PlannedFix Float) →
    Task m (List Outcome)
  | _, [] => return []
  | number, s :: rest => do
    let outcome ← applyStep around engine number s
    return outcome :: (← applySteps around engine (number + 1) rest)

/-- The plan for some diagnostics. A fix that was asked for must be among their fixes. -/
def makePlan (engine : CommandEngine m) (requested? : Option String) (found : List Diagnostic) :
    Task m (Plan Float) := do
  let plan ← Task.action (Plan.extend engine requested? .empty found)
  match requested? with
  | some id => if plan.steps.isEmpty then Task.fail (.fixNotFound id) else return plan
  | none => return plan

def apply (around : Surroundings m) (style : Style) (engine : CommandEngine m) (r : ApplyRequest) : Task m Unit := do
  let found ← diagnostics around engine r.input
  let plan ← makePlan engine r.fix? found
  if plan.steps.isEmpty then Task.print nothingToApply
  else if r.dryRun then
    Task.print (previewLines style.json (← each (previewStep around engine) plan.steps))
  else if !r.confirmed then Task.fail unconfirmed
  else
    let outcomes ← applySteps around engine 0 plan.steps
    Task.action engine.flush
    Task.print (appliedLines style.json plan.deferred outcomes)

end Remedy.Command
