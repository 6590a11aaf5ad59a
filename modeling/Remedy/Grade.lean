/-! Grades of an analysis: how much a diagnostic matters and how hard it is to fix. -/

namespace Remedy

inductive Impact where
  | low
  | medium
  | high
  | critical
  deriving DecidableEq, Repr, Inhabited

namespace Impact

def name : Impact → String
  | low => "low"
  | medium => "medium"
  | high => "high"
  | critical => "critical"

def ofName? (s : String) : Option Impact := [low, medium, high, critical].find? (·.name == s)

def lowered : Impact → Impact
  | critical => high
  | high => medium
  | medium => low
  | low => low

end Impact

inductive Complexity where
  | simple
  | moderate
  | complex
  deriving DecidableEq, Repr, Inhabited

namespace Complexity

def name : Complexity → String
  | simple => "simple"
  | moderate => "moderate"
  | complex => "complex"

def ofName? (s : String) : Option Complexity := [simple, moderate, complex].find? (·.name == s)

def raised : Complexity → Complexity
  | simple => moderate
  | moderate => complex
  | complex => complex

end Complexity

end Remedy
