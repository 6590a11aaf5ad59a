import Remedy.Scalar
import Remedy.Text.Basic

/-! What people report about a solution. -/

namespace Remedy

inductive Feedback where
  | helpful
  | notHelpful
  | partiallyHelpful
  deriving DecidableEq, Repr, Inhabited

namespace Feedback

def name : Feedback → String
  | helpful => "helpful"
  | notHelpful => "not_helpful"
  | partiallyHelpful => "partially_helpful"

def ofName? (s : String) : Option Feedback :=
  [helpful, notHelpful, partiallyHelpful].find? (·.name == s)

def polarity {α : Type} [Scalar α] : Feedback → α
  | helpful => 1.0
  | notHelpful => -1.0
  | partiallyHelpful => 0.0

def ofText? (s : String) : Option Feedback :=
  match Text.swapChar '-' '_' (Text.lower s) with
  | "helpful" => some helpful
  | "not_helpful" | "unhelpful" => some notHelpful
  | "partially_helpful" | "partial" => some partiallyHelpful
  | _ => none

end Feedback

end Remedy
