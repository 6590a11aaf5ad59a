import Remedy.Files.Disk
import Remedy.Knowledge.Document
import Remedy.Knowledge.Store
import Remedy.Knowledge.Table

/-! A knowledge base in a file that several programs share. Reading takes the file as it is; writing reads
it again, merges and replaces it as a whole. The state of a handle is the table it saw last. -/

namespace Remedy

structure KnowledgeFile (m : Type → Type) where
  disk : Disk m
  path : Path

namespace KnowledgeFile

variable {m : Type → Type} [Monad m]

def persistence (path : Path) (reason : String) : Failure := .service (.persistence path reason)

/-- The table in what reading the file gave; a missing file holds nothing. -/
def decode (path : Path) : Except DiskError String → Except Failure (Table Float)
  | .ok s => (Table.read s).mapError fun flaw => persistence path flaw.text
  | .error .missing => .ok .empty
  | .error e => .error (persistence path ("Failed to read: " ++ e.text))

def load (f : KnowledgeFile m) : Action m (Table Float) := do
  Action.ofExcept (decode f.path (← ExceptT.lift (f.disk.readText f.path)))

def lockPath (path : Path) : Path := path.withFileName (path.fileName?.getD "" ++ ".lock")

def failed (path : Path) (task : String) (e : DiskError) : Failure :=
  persistence path ("Failed to " ++ task ++ ": " ++ e.text)

/-- Replaces the table in the file by what `merge` makes of it, which is returned. -/
def update (f : KnowledgeFile m) (merge : Table Float → Except Failure (Table Float)) :
    Action m (Table Float) := do
  Disk.step (failed f.path "create directory") (f.disk.makeParent f.path)
  let lock := lockPath f.path
  Disk.step (failed lock "open lock") (f.disk.touch lock)
  let merged ← Action.ofExcept (merge (← f.load))
  Disk.step (failed f.path "write") (f.disk.replace f.path merged.toText)
  return merged

def advance (e : Entry Float) (t : Table Float) : Except Failure (Table Float) :=
  match t.advance? e with
  | some t' => .ok t'
  | none => .error (.service (.storeConflict e.signature))

def seeing {β : Type} (step : Action m (β × Table Float)) : Action (StateT (Table Float) m) β := do
  let (b, seen) ← step.lifted (fun run => (StateT.lift run : StateT (Table Float) m _))
  ExceptT.lift (set seen)
  return b

def get (f : KnowledgeFile m) (signature : Signature) :
    Action (StateT (Table Float) m) (Option (Entry Float)) :=
  seeing do
    let t ← f.load
    return (t.get? signature, t)

def entries (f : KnowledgeFile m) : Action (StateT (Table Float) m) (List (Entry Float)) :=
  seeing do
    let t ← f.load
    return (t.entries, t)

def put (f : KnowledgeFile m) (e : Entry Float) : Action (StateT (Table Float) m) Unit :=
  seeing do return ((), ← f.update (advance e))

/-- Writes back what this handle has seen and the file has lost. -/
def flush (f : KnowledgeFile m) : Action (StateT (Table Float) m) Unit := do
  let seen ← ExceptT.lift MonadState.get
  seeing do return ((), ← f.update fun t => .ok (t.merge seen))

def store (f : KnowledgeFile m) : Store (StateT (Table Float) m) Float where
  get := f.get
  put := f.put
  entries := f.entries
  flush := f.flush

end KnowledgeFile

end Remedy
