import Remedy.Command.Learn

/-! Looking into the knowledge base. -/

namespace Remedy.Command

def minutesText (x : Float) : String := Decimal.fixed "" 1 x ++ " min"

def statisticsLines (json : Bool) (knowledge : Path) (s : Statistics Float) : List Line :=
  if json then [.document s.toJson]
  else
    [.header "Knowledge base", .text ("  File:         " ++ knowledge.text),
     .text ("  Signatures:   " ++ Text.natText s.entries),
     .text ("  Resolutions:  " ++ countText s.observed),
     .text ("  Successful:   " ++ countText s.successes ++ " (" ++ percent s.successRate ++ ")"),
     .text ("  Avg. time:    " ++ minutesText s.averageTime)]

def padLeft (width : Nat) (s : String) : String := "".pushn ' ' (width - s.length) ++ s

def padRight (width : Nat) (s : String) : String := s ++ "".pushn ' ' (width - s.length)

def entryLine (e : Entry Float) : Line :=
  .text (padRight 28 e.signature.text ++ " " ++ padLeft 4 (countText e.observed) ++ " seen  " ++
    padLeft 4 (countText e.successCount) ++ " ok  " ++ adjustmentText e.adjustment)

def entriesLines (json : Bool) (entries : List (Entry Float)) : List Line :=
  if json then [.document (.ofList Entry.toJson entries)]
  else if entries.isEmpty then
    [.info "Nothing learned yet. Record a resolution with \x60mend learn\x60."]
  else entries.map entryLine

def solutionLine (s : LearnedSolution) : Line :=
  .detail (s.solution ++ " (" ++ countText s.successes ++ "/" ++ countText s.attempts ++ " worked, " ++
    countText s.helpful ++ " helpful, " ++ countText s.notHelpful ++ " not helpful)")

def entryLines (json : Bool) (e : Entry Float) : List Line :=
  if json then [.document e.toJson]
  else
    [.header e.signature.text,
     .text ("  " ++ countText e.observed ++ " observed, " ++ countText e.successCount ++ " successful (" ++
       percent e.successRate ++ "), avg. " ++ minutesText e.averageTime),
     .text ("  Confidence adjustment " ++ adjustmentText e.adjustment ++ ", updated " ++ e.lastUpdated.minuteText)] ++
      (if e.solutions.isEmpty then [] else [.text "  Learned solutions:"]) ++ e.solutions.map solutionLine

variable {m : Type → Type} [Monad m]

def statistics (style : Style) (knowledge : Path) (engine : CommandEngine m) : Task m Unit := do
  Task.print (statisticsLines style.json knowledge (← Task.action engine.statistics))

def entries (style : Style) (engine : CommandEngine m) : Task m Unit := do
  Task.print (entriesLines style.json (← Task.action engine.entries))

def entry (style : Style) (engine : CommandEngine m) (word : String) : Task m Unit := do
  match Signature.read word with
  | .error e => Task.fail (.invalidInput e.message (some e.message))
  | .ok signature =>
    match ← Task.action (engine.entry signature) with
    | none => Task.fail (.entryNotFound signature)
    | some e => Task.print (entryLines style.json e)

end Remedy.Command
