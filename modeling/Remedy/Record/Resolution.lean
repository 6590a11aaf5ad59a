import Remedy.Record.Word
import Remedy.Resolution

/-! JSON form of a resolution. -/

namespace Remedy.Resolution

def fieldNames : List String :=
  ["errorCode", "pattern", "solution", "success", "timeToResolve", "userFeedback"]

def toJson (r : Resolution) : Json :=
  .obj ([("errorCode", .ofUInt32 r.errorCode), ("pattern", .str r.pattern), ("solution", .str r.solution),
    ("success", .bool r.success), ("timeToResolve", .ofUInt32 r.timeToResolve)] ++
    (match r.feedback? with
    | some f => [("userFeedback", f.toJson)]
    | none => []))

def ofJson? (j : Json) : Option Resolution := do
  let r ← Json.Record.of? fieldNames j
  return {
    errorCode := ← r.required "errorCode" Json.asUInt32?
    pattern := ← r.required "pattern" Json.asText?
    solution := ← r.required "solution" Json.asText?
    success := ← r.required "success" Json.asBool?
    timeToResolve := ← r.required "timeToResolve" Json.asUInt32?
    feedback? := ← r.defaulted "userFeedback" none (Json.asOption? Feedback.ofJson?) }

end Remedy.Resolution
