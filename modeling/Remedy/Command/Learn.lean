import Remedy.Command.Task

/-! Reports of resolutions from the command line. -/

namespace Remedy

namespace LearnRequest

def origin : Path := ⟨"<cli>"⟩

def diagnostic (r : LearnRequest) : Diagnostic where
  file := origin
  line := 1
  column := 1
  message := r.message
  code := r.code
  severity := r.severity
  category := r.category?.getD .genericError

def resolution (r : LearnRequest) : Resolution where
  errorCode := r.code
  pattern := r.message
  solution := r.solution
  success := !r.failed
  timeToResolve := r.minutes
  feedback? := r.feedback?

end LearnRequest

namespace Command

def adjustmentText (x : Float) : String := Decimal.fixed "+" 2 x

def countText (n : UInt64) : String := Text.natText n.toNat

def learnedLines (json : Bool) (e : Entry Float) : List Line :=
  if json then [.document e.toJson]
  else
    [.success ("Recorded resolution for " ++ e.signature.text),
     .detail (countText e.observed ++ " observed, " ++ countText e.successCount ++
       " successful, confidence adjustment " ++ adjustmentText e.adjustment),
     .detail ("success rate " ++ percent e.successRate)]

variable {m : Type → Type} [Monad m]

def learn (around : Surroundings m) (style : Style) (engine : CommandEngine m) (r : LearnRequest) : Task m Unit := do
  let entry ← Task.action (engine.learn around.clock r.diagnostic r.resolution)
  Task.action engine.flush
  Task.print (learnedLines style.json entry)

end Command

end Remedy
