import Remedy.Text.Basic

/-! How serious the checker says a diagnostic is. -/

namespace Remedy

inductive Severity where
  | error
  | warning
  | info
  deriving DecidableEq, Repr, Inhabited

namespace Severity

def name : Severity → String
  | error => "error"
  | warning => "warning"
  | info => "info"

def ofName? (s : String) : Option Severity := [error, warning, info].find? (·.name == s)

def ofText? (s : String) : Option Severity :=
  match Text.lower s with
  | "error" => some error
  | "warning" | "warn" => some warning
  | "info" | "message" | "suggestion" => some info
  | _ => none

end Severity

end Remedy
