import Remedy.Catalog.Rule
import Remedy.Diagnostic.Classify
import Remedy.Files.Editor
import Remedy.Knowledge.Blend
import Remedy.Knowledge.Store

/-! Fixes for a diagnostic: those of the rules, with their confidence changed by history, then solutions
that worked before, and general advice when no rule is for the diagnostic. -/

namespace Remedy.Suggest

variable {m : Type → Type} [Monad m] {α : Type} [Scalar α]

def recheck : String := "diagnostic no longer reported"

def learnedLimit : Nat := 3

def learnedDiscount : α := 0.9

def generic (d : Diagnostic) : Fix α :=
  { (Fix.draft "generic-investigate" "Investigate and fix manually" : Fix α) with
    confidence := 0.3
    category := d.category
    checks := ⟨[], [recheck], [], false⟩ }

def describes (s : LearnedSolution) (fix : Fix α) : Bool :=
  Text.equalIgnoringCase fix.description (Text.trimmed s.solution)

def offered (e : Entry α) (existing : List (Fix α)) : List LearnedSolution :=
  (e.successfulSolutions.filter fun s => !existing.any (describes s)).take learnedLimit

def learnedFix (policy : BlendPolicy α) (d : Diagnostic) (e : Entry α) (s : LearnedSolution) (place : Nat) :
    Except DomainError (Fix α) :=
  Fix.build {
    (Fix.draft (Text.natText d.code.toNat ++ "-learned-" ++ Text.natText (place + 1)) s.solution : Fix α) with
    autonomy := .semiAutomatic
    confidence := policy.blend (s.smoothedRate * learnedDiscount) e
    category := d.category
    checks := ⟨[], [recheck], [], false⟩ }

def learnedFixes (policy : BlendPolicy α) (d : Diagnostic) (e : Entry α) :
    Nat → List LearnedSolution → Except DomainError (List (Fix α))
  | _, [] => .ok []
  | place, s :: rest => do
    let fix ← learnedFix policy d e s place
    return fix :: (← learnedFixes policy d e (place + 1) rest)

/-- The confidence of rule fixes with history taken into account, and the solutions that worked. -/
def withHistory (policy : BlendPolicy α) (d : Diagnostic) (e : Entry α) (fixes : List (Fix α)) :
    Except DomainError (List (Fix α)) := do
  let blended := fixes.map fun fix => fix.withConfidence (policy.blend fix.confidence e)
  return blended ++ (← learnedFixes policy d e 0 (offered e blended))

def candidates (policy : BlendPolicy α) (d : Diagnostic) (ruleFixes : List (Fix α)) (past? : Option (Entry α)) :
    Except DomainError (List (Fix α)) := do
  let known ← match past? with
    | some e => withHistory policy d e ruleFixes
    | none => .ok ruleFixes
  if ruleFixes.isEmpty then return known ++ [← Fix.build (generic d)] else return known

/-- The text of the file, if a rule needs it and it can be read. -/
def sourceFor (book : RuleBook α) (editor? : Option (Editor m)) (d : Diagnostic) : Action m (Option Buffer) := do
  match editor? with
  | none => return none
  | some editor =>
    if book.needsSource d then
      match ← (editor.read d.file).attempt with
      | .ok b => return some b
      | .error _ => return none
    else return none

def fixes (store : Store m α) (book : RuleBook α) (editor? : Option (Editor m)) (policy : BlendPolicy α)
    (original : Diagnostic) : Action m (List (Fix α)) := do
  Action.ofDomain original.validate
  let d := original.normalize
  let source? ← sourceFor book editor? d
  let ruleFixes ← Action.ofDomain (book.matchingFixes d source?)
  let past? ← store.get d.signature
  return Fix.ranked (← Action.ofDomain (candidates policy d ruleFixes past?))

end Remedy.Suggest
