import Remedy.Command.Task
import Remedy.Record.Fix

/-! The ranked fixes for every diagnostic. -/

namespace Remedy.Command

structure Suggested where
  diagnostic : Diagnostic
  fixes : List (Fix Float)

namespace Suggested

def toJson (s : Suggested) : Json :=
  .obj [("diagnostic", s.diagnostic.toJson), ("fixes", .ofList Fix.toJson s.fixes)]

def fixLines (rank : Nat) (fix : Fix Float) : List Line :=
  [.text ("  " ++ Text.natText rank ++ ". [" ++ fix.id ++ "] " ++ fix.description),
   .detail (fix.autonomy.name ++ " · confidence " ++ percent fix.confidence ++ " · " ++
     Text.natText fix.changes.length ++ " change(s)" ++
     (if fix.checks.testRequired then " · run tests afterwards" else ""))]

def rankedLines : Nat → List (Fix Float) → List Line
  | _, [] => []
  | rank, fix :: rest => fixLines rank fix ++ rankedLines (rank + 1) rest

def lines (s : Suggested) : List Line := .header s.diagnostic.text :: rankedLines 1 s.fixes

end Suggested

def suggestedLines (json : Bool) (all : List Suggested) : List Line :=
  if json then [.document (.ofList Suggested.toJson all)] else all.flatMap Suggested.lines

variable {m : Type → Type} [Monad m]

def atMost {α : Type} (limit? : Option Nat) (items : List α) : List α :=
  match limit? with
  | some n => items.take n
  | none => items

def suggest (around : Surroundings m) (style : Style) (engine : CommandEngine m) (input : Input)
    (limit? : Option Nat) : Task m Unit := do
  let found ← diagnostics around engine input
  let all ← each (fun d => do
    return Suggested.mk d (atMost limit? (← Task.action (engine.suggest d)))) found
  Task.print (suggestedLines style.json all)

end Remedy.Command
