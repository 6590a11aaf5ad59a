import Remedy.Knowledge.Store

/-! Sums over the whole knowledge base. -/

namespace Remedy

structure Statistics (α : Type) where
  entries : Nat
  observed : UInt64
  successes : UInt64
  successRate : α
  /-- Mean minutes per resolution over all signatures. -/
  averageTime : α
  deriving Repr

namespace Statistics

variable {α : Type} [Scalar α]

def ratio (value : α) (observed : UInt64) : α :=
  if observed = 0 then 0.0 else value / Scalar.ofNat observed.toNat

def totalMinutes (entries : List (Entry α)) : α :=
  (entries.map fun e => e.averageTime * Scalar.ofNat e.observed.toNat).foldl (· + ·) (-0.0)

def ofEntries (entries : List (Entry α)) : Statistics α :=
  let observed := (entries.map (·.observed)).foldl (· + ·) 0
  let successes := (entries.map (·.successCount)).foldl (· + ·) 0
  { entries := entries.length
    observed := observed
    successes := successes
    successRate := ratio (Scalar.ofNat successes.toNat) observed
    averageTime := ratio (totalMinutes entries) observed }

end Statistics

def Store.statistics {m : Type → Type} [Monad m] {α : Type} [Scalar α] (s : Store m α) : Action m (Statistics α) := do
  return Statistics.ofEntries (← s.entries)

end Remedy
