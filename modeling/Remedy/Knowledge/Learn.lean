import Remedy.Diagnostic.Classify
import Remedy.Knowledge.Store

/-! Folding reports into the knowledge base. -/

namespace Remedy.Store

variable {m : Type → Type} [Monad m] {α : Type} [Scalar α]

def learnRounds : Nat := 8

/-- Reads an entry, or starts one, and puts it back with the resolution. The clock is read in each round. -/
def learnRound (s : Store m α) (signature : Signature) (r : Resolution) (now : Instant) :
    Action m (Entry α) := do
  let found? ← s.get signature
  let entry := (found?.getD (Entry.new signature now)).record r now
  s.put entry
  return entry

/-- Rounds until one meets no conflict when it puts the entry back; at most `left + 1` of them. -/
def learnFrom (s : Store m α) (signature : Signature) (r : Resolution) (clock : Nat → Instant) :
    Nat → Nat → Action m (Entry α)
  | 0, round => s.learnRound signature r (clock round)
  | left + 1, round => do
    let found? ← s.get signature
    let entry := (found?.getD (Entry.new signature (clock round))).record r (clock round)
    match ← (s.put entry).attempt with
    | .error (.service (.storeConflict _)) => learnFrom s signature r clock left (round + 1)
    | result =>
      Action.ofExcept result
      return entry

def learn (s : Store m α) (clock : Nat → Instant) (d : Diagnostic) (r : Resolution) : Action m (Entry α) := do
  Action.ofDomain (Resolution.validateFor d r)
  s.learnFrom d.normalize.signature r clock (learnRounds - 1) 0

/-- Other signatures with the same code or category, the most observed first. -/
def similarAmong (signature : Signature) (entries : List (Entry α)) : List Signature :=
  let similar := entries.filter fun e =>
    e.signature != signature && e.signature.sharesCodeOrCategory signature
  let sorted := similar.mergeSort fun a b =>
    ((compare b.observed.toNat a.observed.toNat).then (a.signature.compare b.signature)) != .gt
  sorted.map (·.signature)

def similar (s : Store m α) (signature : Signature) : Action m (List Signature) := do
  return similarAmong signature (← s.entries)

end Remedy.Store
