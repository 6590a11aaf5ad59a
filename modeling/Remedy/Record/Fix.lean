import Remedy.Edit.Span
import Remedy.Fix.Basic
import Remedy.Json.Decode
import Remedy.Record.Word

/-! JSON forms of spans, changes and fixes. -/

namespace Remedy

def Span.toJson (s : Span) : Json := .obj [("start", .nat s.start), ("length", .nat s.length)]

def Span.ofJson? (j : Json) : Option Span := do
  let r ← Json.Record.of? ["start", "length"] j
  return ⟨← r.required "start" Json.asUInt64?, ← r.required "length" Json.asUInt64?⟩

def Change.toJson (c : Change) : Json := .obj [("span", c.span.toJson), ("newText", .str c.newText)]

def Change.ofJson? (j : Json) : Option Change := do
  let r ← Json.Record.of? ["span", "newText"] j
  return ⟨← r.required "span" Span.ofJson?, ← r.required "newText" Json.asText?⟩

def Json.ofStrings (items : List String) : Json := .ofList .str items

def Json.asStrings? : Json.Decoder (List String) := Json.asList? Json.asText?

def Checks.toJson (c : Checks) : Json :=
  .obj [("preConditions", .ofStrings c.preConditions), ("postConditions", .ofStrings c.postConditions),
    ("sideEffects", .ofStrings c.sideEffects), ("testRequired", .bool c.testRequired)]

def Checks.ofJson? (j : Json) : Option Checks := do
  let r ← Json.Record.of? ["preConditions", "postConditions", "sideEffects", "testRequired"] j
  return {
    preConditions := ← r.required "preConditions" Json.asStrings?
    postConditions := ← r.required "postConditions" Json.asStrings?
    sideEffects := ← r.required "sideEffects" Json.asStrings?
    testRequired := ← r.required "testRequired" Json.asBool? }

namespace Fix

def fieldNames : List String :=
  ["id", "description", "type", "confidence", "category", "changes", "validation", "rollbackPossible"]

def toJson (fix : Fix Float) : Json :=
  .obj [("id", .str fix.id), ("description", .str fix.description), ("type", fix.autonomy.toJson),
    ("confidence", .real fix.confidence), ("category", fix.category.toJson),
    ("changes", .ofList Change.toJson fix.changes), ("validation", fix.checks.toJson),
    ("rollbackPossible", .bool fix.rollbackPossible)]

def ofJson? (j : Json) : Option (Fix Float) := do
  let r ← Json.Record.of? fieldNames j
  return {
    id := ← r.required "id" Json.asText?
    description := ← r.required "description" Json.asText?
    autonomy := ← r.required "type" Autonomy.ofJson?
    confidence := ← r.required "confidence" Json.asFloat?
    category := ← r.required "category" Category.ofJson?
    changes := ← r.required "changes" (Json.asList? Change.ofJson?)
    checks := ← r.required "validation" Checks.ofJson?
    rollbackPossible := ← r.required "rollbackPossible" Json.asBool? }

end Fix

end Remedy
