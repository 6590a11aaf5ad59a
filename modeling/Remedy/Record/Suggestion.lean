import Remedy.Record.Diagnostic
import Remedy.Record.Fix
import Remedy.Suggestion

/-! JSON form of analyses and suggestions. -/

namespace Remedy

namespace Analysis

def fieldNames : List String :=
  ["error", "rootCause", "impactLevel", "fixComplexity", "estimatedFixTime", "relatedErrors", "prerequisites"]

def toJson (a : Analysis) : Json :=
  .obj [("error", a.error.toJson), ("rootCause", .str a.rootCause), ("impactLevel", a.impact.toJson),
    ("fixComplexity", a.complexity.toJson), ("estimatedFixTime", .ofUInt32 a.estimate),
    ("relatedErrors", .ofList Signature.toJson a.related), ("prerequisites", .ofStrings a.prerequisites)]

def ofJson? (j : Json) : Option Analysis := do
  let r ← Json.Record.of? fieldNames j
  return {
    error := ← r.required "error" Diagnostic.ofJson?
    rootCause := ← r.required "rootCause" Json.asText?
    impact := ← r.required "impactLevel" Impact.ofJson?
    complexity := ← r.required "fixComplexity" Complexity.ofJson?
    estimate := ← r.required "estimatedFixTime" Json.asUInt32?
    related := ← r.required "relatedErrors" (Json.asList? Signature.ofJson?)
    prerequisites := ← r.required "prerequisites" Json.asStrings? }

end Analysis

def Resource.toJson (r : Resource) : Json :=
  .obj [("title", .str r.title), ("url", .str r.url), ("type", .str r.kind.name), ("relevance", .real r.relevance)]

def Suggestion.toJson (s : Suggestion Float) : Json :=
  .obj [("analysis", s.analysis.toJson), ("fixes", .ofList Fix.toJson s.fixes),
    ("similarErrors", .ofList Signature.toJson s.similar), ("preventionTips", .ofStrings s.tips),
    ("learningResources", .ofList Resource.toJson s.resources)]

end Remedy
