import Remedy.Command.Task
import Remedy.Record.Suggestion

/-! All that is known about every diagnostic. -/

namespace Remedy.Command

def fixesShown : Nat := 3

def signatureTexts (signatures : List Signature) : String := Text.join ", " (signatures.map (·.text))

def listed (label : String) (signatures : List Signature) : List Line :=
  if signatures.isEmpty then [] else [.text (label ++ signatureTexts signatures)]

def fixLine (fix : Fix Float) : Line :=
  .detail ("[" ++ fix.id ++ "] " ++ fix.description ++ " (" ++ fix.autonomy.name ++ ", " ++
    percent fix.confidence ++ ")")

def resourceLine (r : Resource) : Line := .detail (r.title ++ " (" ++ r.kind.name ++ ") " ++ r.url)

def prerequisiteLines (prerequisites : List String) : List Line :=
  if prerequisites.isEmpty then [] else .text "  Before fixing:" :: prerequisites.map .detail

def suggestionLines (s : Suggestion Float) : List Line :=
  [.header s.analysis.error.text, .text ("  Root cause:  " ++ s.analysis.rootCause),
   .text ("  Impact:      " ++ s.analysis.impact.name ++ "   Complexity: " ++ s.analysis.complexity.name ++
     "   Estimate: ~" ++ Text.natText s.analysis.estimate.toNat ++ " min")] ++
    prerequisiteLines s.analysis.prerequisites ++
    listed "  Related:     " s.analysis.related ++
    .text "  Fixes:" :: (s.fixes.take fixesShown).map fixLine ++
    listed "  Seen before: " s.similar ++
    .text "  Prevention:" :: s.tips.map .detail ++
    .text "  Learn more:" :: s.resources.map resourceLine ++ [.text ""]

def analysisLines (json : Bool) (suggestions : List (Suggestion Float)) : List Line :=
  if json then [.document (.ofList Suggestion.toJson suggestions)]
  else
    suggestions.flatMap suggestionLines ++
      [.info (Text.natText suggestions.length ++ " diagnostic(s) analysed")]

variable {m : Type → Type} [Monad m]

def analyze (around : Surroundings m) (style : Style) (engine : CommandEngine m) (input : Input) : Task m Unit := do
  let found ← diagnostics around engine input
  let suggestions ← each (fun d => Task.action (engine.comprehensive d found)) found
  Task.print (analysisLines style.json suggestions)

end Remedy.Command
