import Remedy.Catalog.Code
import Remedy.Diagnostic.Basic
import Remedy.Edit.Buffer
import Remedy.Pattern.Template

/-! The edit a rule makes, and the changes it comes to at one diagnostic. -/

namespace Remedy

inductive RuleEdit where
  /-- Advice without a change. -/
  | none
  | insertAtStart (text : String)
  /-- At the line and column of the diagnostic. -/
  | insertAtPosition (text : String)
  /-- After the name that starts at the diagnostic. -/
  | insertAfterToken (text : String)
  /-- The whole line of the diagnostic. -/
  | deleteLine
  /-- An import of the first group of the message, if its module is known. -/
  | insertImport
  deriving DecidableEq, Repr, Inhabited

namespace RuleEdit

def needsSource : RuleEdit → Bool
  | insertAtPosition _ | insertAfterToken _ | deleteLine => true
  | _ => false

def tokenOffset? (d : Diagnostic) (source : Buffer) : Option Nat := do
  let start ← source.offsetOf? d.line d.column
  let stop ← source.tokenEnd? start
  if start < stop then some stop else failure

/-- The changes; none when the place cannot be found. -/
def resolve (edit : RuleEdit) (d : Diagnostic) (captures? : Option Captures) (source? : Option Buffer) :
    List Change :=
  match edit with
  | none => []
  | insertAtStart text => [.insert 0 (Captures.fill captures? text)]
  | insertImport =>
    match captures?.bind (·.get? 1) with
    | some symbol =>
      match Catalog.moduleFor? symbol with
      | some module => [.insert 0 (Catalog.importLine symbol module)]
      | Option.none => []
    | Option.none => []
  | insertAtPosition text =>
    match source?.bind (·.offsetOf? d.line d.column) with
    | some offset => [.insert offset (Captures.fill captures? text)]
    | Option.none => []
  | insertAfterToken text =>
    match source?.bind (tokenOffset? d) with
    | some offset => [.insert offset (Captures.fill captures? text)]
    | Option.none => []
  | deleteLine =>
    match source?.bind (·.lineSpan? d.line) with
    | some span => if span.length = 0 then [] else [.delete span]
    | Option.none => []

end RuleEdit

end Remedy
