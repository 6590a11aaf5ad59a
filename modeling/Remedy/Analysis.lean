import Remedy.Catalog.Category
import Remedy.Diagnostic.Classify
import Remedy.Knowledge.Store

/-! Why a diagnostic arose, how hard it is, and which findings stand near it. -/

namespace Remedy

structure Analysis where
  error : Diagnostic
  rootCause : String
  impact : Impact
  complexity : Complexity
  /-- Minutes. -/
  estimate : UInt32
  related : List Signature
  prerequisites : List String
  deriving DecidableEq, Repr, Inhabited

namespace Analysis

def standardLineWindow : UInt32 := 10

def rootCauseOf (d : Diagnostic) : String :=
  let known := ((Catalog.code? d.code).bind (·.rootCause?)).getD (Catalog.category d.category).rootCause
  known ++ ": " ++ Text.trimmed d.message

def impactOf (d : Diagnostic) : Impact :=
  match d.severity with
  | .error => (Catalog.category d.category).impact
  | .warning => (Catalog.category d.category).impact.lowered
  | .info => .low

def effortOf {α : Type} [Scalar α] (d : Diagnostic) (past? : Option (Entry α)) : UInt32 × Complexity :=
  let known := Catalog.category d.category
  match past?.filter (·.hasHistory) with
  | none => (known.minutes, known.complexity)
  | some e =>
    (max (Scalar.ceilCount e.averageTime) 1,
      if Scalar.lt (3.0 * Scalar.ofNat known.minutes.toNat) e.averageTime then known.complexity.raised
      else known.complexity)

def distance (a b : UInt32) : Nat := (a.toNat - b.toNat) + (b.toNat - a.toNat)

def isNear (window : UInt32) (d original other : Diagnostic) : Bool :=
  !other.same original && other.file.same d.file && distance other.line d.line ≤ window.toNat

def placeLe (a b : Diagnostic) : Bool :=
  a.line < b.line || (a.line == b.line && a.column ≤ b.column)

/-- The signatures of a list other than `own`, each once, where it occurs first. -/
def distinctFrom (own : Signature) (signatures : List Signature) : List Signature :=
  signatures.foldl (fun found s => if s = own || found.contains s then found else found ++ [s]) []

/-- Signatures of findings that may share a cause, nearest to the top of the file first. -/
def relatedTo (window : UInt32) (original : Diagnostic) (batch : List Diagnostic) : List Signature :=
  let d := original.normalize
  let candidates := ((batch.filter (isNear window d original)).map Diagnostic.normalize).filter fun other =>
    Catalog.coOccurs d.category other.category
  distinctFrom d.signature ((candidates.mergeSort placeLe).map Diagnostic.signature)

def ofDiagnostic {α : Type} [Scalar α] (window : UInt32) (original : Diagnostic) (batch : List Diagnostic)
    (past? : Option (Entry α)) : Analysis :=
  let d := original.normalize
  let effort := effortOf d past?
  { error := d
    rootCause := rootCauseOf d
    impact := impactOf d
    complexity := effort.2
    estimate := effort.1
    related := relatedTo window original batch
    prerequisites := (Catalog.category d.category).prerequisites }

end Analysis

def Store.analyze {m : Type → Type} [Monad m] {α : Type} [Scalar α] (s : Store m α) (window : UInt32) (d : Diagnostic)
    (batch : List Diagnostic) : Action m Analysis := do
  Action.ofDomain d.validate
  return Analysis.ofDiagnostic window d batch (← s.get d.normalize.signature)

end Remedy
