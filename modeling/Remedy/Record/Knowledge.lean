import Remedy.Engine
import Remedy.Record.Word

/-! JSON form of the knowledge base, of what is computed from it, and of the settings. -/

namespace Remedy

def Instant.toJson (t : Instant) : Json := .str t.text

def Instant.ofJson? (j : Json) : Option Instant := (Json.asText? j).bind Instant.read?

namespace LearnedSolution

def fieldNames : List String := ["solution", "pattern", "attempts", "successes", "helpful", "notHelpful"]

def toJson (s : LearnedSolution) : Json :=
  .obj [("solution", .str s.solution), ("pattern", .str s.pattern), ("attempts", .nat s.attempts),
    ("successes", .nat s.successes), ("helpful", .nat s.helpful), ("notHelpful", .nat s.notHelpful)]

def ofJson? (j : Json) : Option LearnedSolution := do
  let r ← Json.Record.of? fieldNames j
  return {
    solution := ← r.required "solution" Json.asText?
    pattern := ← r.defaulted "pattern" "" Json.asText?
    attempts := ← r.required "attempts" Json.asUInt64?
    successes := ← r.required "successes" Json.asUInt64?
    helpful := ← r.required "helpful" Json.asUInt64?
    notHelpful := ← r.required "notHelpful" Json.asUInt64? }

end LearnedSolution

namespace Entry

def fieldNames : List String :=
  ["signature", "observedResolutions", "successCount", "averageTimeToResolve",
   "derivedConfidenceAdjustment", "learnedSolutions", "lastUpdated"]

def toJson (e : Entry Float) : Json :=
  .obj [("signature", e.signature.toJson), ("observedResolutions", .nat e.observed),
    ("successCount", .nat e.successCount), ("averageTimeToResolve", .real e.averageTime),
    ("derivedConfidenceAdjustment", .real e.adjustment),
    ("learnedSolutions", .ofList LearnedSolution.toJson e.solutions), ("lastUpdated", e.lastUpdated.toJson)]

def ofJson? (j : Json) : Option (Entry Float) := do
  let r ← Json.Record.of? fieldNames j
  return {
    signature := ← r.required "signature" Signature.ofJson?
    observed := ← r.required "observedResolutions" Json.asUInt64?
    successCount := ← r.required "successCount" Json.asUInt64?
    averageTime := ← r.required "averageTimeToResolve" Json.asFloat?
    adjustment := ← r.required "derivedConfidenceAdjustment" Json.asFloat?
    solutions := ← r.defaulted "learnedSolutions" [] (Json.asList? LearnedSolution.ofJson?)
    lastUpdated := ← r.required "lastUpdated" Instant.ofJson? }

end Entry

def Statistics.toJson (s : Statistics Float) : Json :=
  .obj [("entries", .ofNat s.entries), ("observedResolutions", .nat s.observed),
    ("successes", .nat s.successes), ("successRate", .real s.successRate),
    ("averageTimeToResolve", .real s.averageTime)]

namespace BlendPolicy

def toJson (p : BlendPolicy Float) : Json :=
  .obj [("historyCap", .ofUInt32 p.historyCap), ("maxHistoryWeight", .real p.maxHistoryWeight)]

def ofJson? (j : Json) : Option (BlendPolicy Float) := do
  let r ← Json.Record.of? ["historyCap", "maxHistoryWeight"] j
  return ⟨← r.required "historyCap" Json.asUInt32?, ← r.required "maxHistoryWeight" Json.asFloat?⟩

end BlendPolicy

namespace Settings

def toJson (s : Settings Float) : Json :=
  .obj [("blend", s.blend.toJson), ("related_line_window", .ofUInt32 s.relatedLineWindow)]

def ofJson? (j : Json) : Option (Settings Float) := do
  let r ← Json.Record.of? ["blend", "related_line_window"] j
  return ⟨← r.defaulted "blend" Settings.standard.blend BlendPolicy.ofJson?,
    ← r.defaulted "related_line_window" Analysis.standardLineWindow Json.asUInt32?⟩

end Settings

end Remedy
