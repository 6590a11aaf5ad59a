import Remedy.Fix.Apply
import Remedy.Record.Fix

/-! JSON form of the outcome of an attempt. -/

namespace Remedy

def Outcome.toJson (o : Outcome) : Json :=
  .obj ([("attemptId", .str o.attemptId), ("fixId", .str o.fixId), ("file", o.file.toJson),
    ("state", o.state.toJson), ("success", .bool o.success),
    ("appliedChanges", .ofList Change.toJson o.appliedChanges),
    ("sideEffects", .ofStrings o.sideEffects)] ++
    (match o.error? with
    | some reason => [("error", .str reason)]
    | none => []) ++
    [("trail", .ofList FixState.toJson o.trail)])

end Remedy
