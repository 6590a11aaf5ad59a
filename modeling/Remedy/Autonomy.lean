import Remedy.Text.Basic

/-! How much of a person a fix needs. -/

namespace Remedy

inductive Autonomy where
  | automatic
  | semiAutomatic
  | manual
  deriving DecidableEq, Repr, Inhabited

namespace Autonomy

def name : Autonomy → String
  | automatic => "automatic"
  | semiAutomatic => "semi-automatic"
  | manual => "manual"

def ofName? (s : String) : Option Autonomy :=
  [automatic, semiAutomatic, manual].find? (·.name == s)

def rank : Autonomy → Nat
  | automatic => 0
  | semiAutomatic => 1
  | manual => 2

def downgraded : Autonomy → Autonomy
  | automatic => semiAutomatic
  | semiAutomatic => semiAutomatic
  | manual => manual

def ofText? (s : String) : Option Autonomy :=
  match Text.swapChar '_' '-' (Text.lower s) with
  | "automatic" | "auto" => some automatic
  | "semi-automatic" | "semi" => some semiAutomatic
  | "manual" => some manual
  | _ => none

end Autonomy

end Remedy
