import Remedy.Fix.Apply
import Remedy.Knowledge.Learn
import Remedy.Knowledge.Statistics
import Remedy.Suggest
import Remedy.Suggestion

/-! The whole of it: classify, analyse, suggest, apply and learn over one knowledge base and one set of
source files. -/

namespace Remedy

structure Settings (α : Type) where
  blend : BlendPolicy α
  relatedLineWindow : UInt32
  deriving Repr

def Settings.standard {α : Type} [Scalar α] : Settings α := ⟨.standard, Analysis.standardLineWindow⟩

structure Engine (m : Type → Type) (α : Type) where
  store : Store m α
  book : RuleBook α
  /-- Without an editor no fix can be applied. -/
  editor? : Option (Editor m)
  settings : Settings α

namespace Engine

variable {m : Type → Type} [Monad m] {α : Type} [Scalar α]

def classify (_ : Engine m α) (d : Diagnostic) : Category := d.classify

def analyze (e : Engine m α) (d : Diagnostic) (batch : List Diagnostic) : Action m Analysis :=
  e.store.analyze e.settings.relatedLineWindow d batch

def suggest (e : Engine m α) (d : Diagnostic) : Action m (List (Fix α)) :=
  Suggest.fixes e.store e.book e.editor? e.settings.blend d

def withEditor {β : Type} (e : Engine m α) (step : Editor m → Action m β) : Action m β :=
  match e.editor? with
  | some editor => step editor
  | none => Action.fail (.service (.adapterMissing "source editor"))

/-- Applies a fix; `id` names the attempt. -/
def apply (e : Engine m α) (id : String) (d : Diagnostic) (fix : Fix α) : Action m Outcome :=
  e.withEditor fun editor => fix.apply editor id d

def preview (e : Engine m α) (d : Diagnostic) (fix : Fix α) : Action m String := do
  return (← e.withEditor fun editor => fix.preview editor d).text

def learn (e : Engine m α) (clock : Nat → Instant) (d : Diagnostic) (r : Resolution) : Action m (Entry α) :=
  e.store.learn clock d r

def recordOutcome (e : Engine m α) (clock : Nat → Instant) (d : Diagnostic) (fix : Fix α) (o : Outcome) :
    Action m (Entry α) :=
  e.learn clock d (o.toResolution d fix)

def comprehensive (e : Engine m α) (d : Diagnostic) (batch : List Diagnostic) : Action m (Suggestion α) := do
  let analysis ← e.analyze d batch
  let fixes ← e.suggest d
  let similar ← e.store.similar analysis.error.signature
  return .compose analysis fixes similar

def entry (e : Engine m α) (signature : Signature) : Action m (Option (Entry α)) := e.store.get signature

def similar (e : Engine m α) (signature : Signature) : Action m (List Signature) := e.store.similar signature

def statistics (e : Engine m α) : Action m (Statistics α) := e.store.statistics

def entries (e : Engine m α) : Action m (List (Entry α)) := do
  return (← e.store.entries).mergeSort fun a b => a.signature.compare b.signature != .gt

def flush (e : Engine m α) : Action m Unit := e.store.flush

/-- Diagnostics from outside, if all of them are sound. -/
def ingest (_ : Engine m α) (source : Action m (List Diagnostic)) : Action m (List Diagnostic) := do
  let found ← source
  Action.ofDomain (found.forM Diagnostic.validate)
  return found

end Engine

end Remedy
