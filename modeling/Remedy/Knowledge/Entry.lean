import Remedy.Instant
import Remedy.Resolution
import Remedy.Signature

/-! What was learned about diagnostics of one signature. -/

namespace Remedy

structure LearnedSolution where
  solution : String
  pattern : String
  attempts : UInt64
  successes : UInt64
  helpful : UInt64
  notHelpful : UInt64
  deriving DecidableEq, Repr, Inhabited

namespace LearnedSolution

def first (r : Resolution) : LearnedSolution := ⟨Text.trimmed r.solution, r.pattern, 0, 0, 0, 0⟩

def isFor (s : LearnedSolution) (r : Resolution) : Bool :=
  Text.equalIgnoringCase s.solution (Text.trimmed r.solution)

def count (s : LearnedSolution) (r : Resolution) : LearnedSolution :=
  { s with
    attempts := s.attempts + 1
    successes := if r.success then s.successes + 1 else s.successes
    helpful := if r.feedback? = some .helpful then s.helpful + 1 else s.helpful
    notHelpful := if r.feedback? = some .notHelpful then s.notHelpful + 1 else s.notHelpful }

/-- The success rate with one success and one failure assumed beforehand. -/
def smoothedRate {α : Type} [Scalar α] (s : LearnedSolution) : α :=
  (Scalar.ofNat s.successes.toNat + 1.0) / (Scalar.ofNat s.attempts.toNat + 2.0)

/-- Counts a report for the first solution it is about, or for a new one at the end. -/
def countIn (r : Resolution) : List LearnedSolution → List LearnedSolution
  | [] => [(first r).count r]
  | s :: rest => if s.isFor r then s.count r :: rest else s :: countIn r rest

end LearnedSolution

structure Entry (α : Type) where
  signature : Signature
  observed : UInt64
  successCount : UInt64
  /-- Mean minutes per resolution. -/
  averageTime : α
  /-- The feedback so far between -1 and 1, later reports weighing more. -/
  adjustment : α
  solutions : List LearnedSolution
  lastUpdated : Instant
  deriving Repr, Inhabited

namespace Entry

variable {α : Type} [Scalar α]

def adjustmentWeight : α := 0.3

def new (signature : Signature) (now : Instant) : Entry α := ⟨signature, 0, 0, 0.0, 0.0, [], now⟩

/-- What one resolution says, between -1 and 1: half its outcome, half its feedback. -/
def signal (r : Resolution) : α :=
  let outcome : α := if r.success then 1.0 else -1.0
  let polarity : α := match r.feedback? with
    | some f => f.polarity
    | none => 0.0
  0.5 * outcome + 0.5 * polarity

def record (e : Entry α) (r : Resolution) (now : Instant) : Entry α :=
  let observed := e.observed + 1
  { signature := e.signature
    observed := observed
    successCount := if r.success then e.successCount + 1 else e.successCount
    averageTime :=
      e.averageTime + (Scalar.ofNat r.timeToResolve.toNat - e.averageTime) / Scalar.ofNat observed.toNat
    adjustment := Scalar.clamp (-1.0) 1.0
      ((1.0 - adjustmentWeight) * e.adjustment + adjustmentWeight * signal r)
    solutions := LearnedSolution.countIn r e.solutions
    lastUpdated := now }

def successRate (e : Entry α) : α :=
  if e.observed = 0 then 0.0 else Scalar.ofNat e.successCount.toNat / Scalar.ofNat e.observed.toNat

def hasHistory (e : Entry α) : Bool := 0 < e.observed

def netFeedback (e : Entry α) : Int64 :=
  (e.solutions.map fun s => s.helpful.toInt64 - s.notHelpful.toInt64).foldl (· + ·) 0

/-- The solutions that worked, the most successful first; equal ones stay as they came. -/
def successfulSolutions (e : Entry α) : List LearnedSolution :=
  (e.solutions.filter fun s => 0 < s.successes).mergeSort fun a b => b.successes ≤ a.successes

def sameScalar (a b : α) : Bool := Scalar.le a b && Scalar.le b a

def same (a b : Entry α) : Bool :=
  a.signature == b.signature && a.observed == b.observed && a.successCount == b.successCount &&
    sameScalar a.averageTime b.averageTime && sameScalar a.adjustment b.adjustment &&
    a.solutions == b.solutions && a.lastUpdated == b.lastUpdated

end Entry

end Remedy
