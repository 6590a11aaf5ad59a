import Remedy.Error

/-! The formats in which diagnostics come in. -/

namespace Remedy

inductive ReportFormat where
  | json
  | listing
  /-- To be found out from the input. -/
  | auto
  deriving DecidableEq, Repr, Inhabited

namespace ReportFormat

def words : List (String × ReportFormat) :=
  [("json", json), ("tsc", listing), ("text", listing), ("auto", auto)]

def read (s : String) : Except Failure ReportFormat :=
  let word := Text.lower (Text.trimmed s)
  match words.find? (·.1 == word) with
  | some (_, f) => .ok f
  | none => .error (.configuration
      ("unknown diagnostic format '" ++ word ++ "' (expected json, tsc or auto)"))

end ReportFormat

end Remedy
