import Remedy.Files.Editor
import Remedy.Path

/-! Files and directories as an operating system offers them, and source files among them. -/

namespace Remedy

inductive FileKind where
  | directory
  | regular
  deriving DecidableEq, Repr

inductive DiskError where
  | missing
  | busy
  | present
  | notDirectory
  | isDirectory
  /-- The bytes are no text. -/
  | undecodable
  | other (text : String)
  deriving DecidableEq, Repr

def DiskError.text : DiskError → String
  | missing => "No such file or directory (os error 2)"
  | busy => "Device or resource busy (os error 16)"
  | present => "File exists (os error 17)"
  | notDirectory => "Not a directory (os error 20)"
  | isDirectory => "Is a directory (os error 21)"
  | undecodable => "stream did not contain valid UTF-8"
  | other text => text

structure Disk (m : Type → Type) where
  kind? : Path → m (Option FileKind)
  read : Path → m (Except DiskError ByteArray)
  /-- The names in a directory. -/
  names : Path → m (Except DiskError (List String))
  makeDirectory : Path → m (Except DiskError Unit)
  /-- Makes sure that a file is there, and leaves what it holds. -/
  touch : Path → m (Except DiskError Unit)
  write : Path → String → m (Except DiskError Unit)
  /-- Puts a whole new file in place of an old one at once. -/
  replace : Path → String → m (Except DiskError Unit)

namespace Disk

variable {m : Type → Type}

def lifted {n : Type → Type} (lift : {β : Type} → n β → m β) (d : Disk n) : Disk m where
  kind? p := lift (d.kind? p)
  read p := lift (d.read p)
  names p := lift (d.names p)
  makeDirectory p := lift (d.makeDirectory p)
  touch p := lift (d.touch p)
  write p s := lift (d.write p s)
  replace p s := lift (d.replace p s)

variable [Monad m] (disk : Disk m)

def isDirectory (p : Path) : m Bool := do return (← disk.kind? p) == some .directory

def isRegular (p : Path) : m Bool := do return (← disk.kind? p) == some .regular

def isPresent (p : Path) : m Bool := do return (← disk.kind? p).isSome

def readText (p : Path) : m (Except DiskError String) := do
  match ← disk.read p with
  | .error e => return .error e
  | .ok bytes =>
    match String.fromUTF8? bytes with
    | some s => return .ok s
    | none => return .error .undecodable

def ensureDirectory (p : Path) : m (Except DiskError Unit) := do
  match ← disk.makeDirectory p with
  | .ok () => return .ok ()
  | .error e => if ← disk.isDirectory p then return .ok () else return .error e

/-- Makes a directory and those above it, as far up as they are missing. `above` bounds how far. -/
def makeDirectoriesUpTo : Nat → Path → m (Except DiskError Unit)
  | 0, _ => return .ok ()
  | above + 1, p => do
    if p.isEmpty then return .ok ()
    match ← disk.makeDirectory p with
    | .ok () => return .ok ()
    | .error .missing =>
      match p.parent? with
      | none => return .error .missing
      | some parent =>
        match ← makeDirectoriesUpTo above parent with
        | .error e => return .error e
        | .ok () => disk.ensureDirectory p
    | .error e => if ← disk.isDirectory p then return .ok () else return .error e

def makeDirectories (p : Path) : m (Except DiskError Unit) :=
  disk.makeDirectoriesUpTo (p.text.length + 1) p

def makeParent (p : Path) : m (Except DiskError Unit) :=
  match p.parent? with
  | some parent => disk.makeDirectories parent
  | none => return .ok ()

/-- No path is so long that it has more names than this. -/
def deepest : Nat := 2048

mutual

def filesWithin : Nat → Path → m (Except DiskError (List Path))
  | 0, _ => return .ok []
  | depth + 1, dir => do
    match ← disk.names dir with
    | .error e => return .error e
    | .ok names => filesAmong depth dir names

def filesAmong : Nat → Path → List String → m (Except DiskError (List Path))
  | _, _, [] => return .ok []
  | depth, dir, name :: rest => do
    let path := dir.join name
    let here ← match ← disk.kind? path with
      | some .directory => filesWithin depth path
      | some .regular => pure (.ok [path])
      | none => pure (.ok [])
    match here with
    | .error e => return .error e
    | .ok here =>
      match ← filesAmong depth dir rest with
      | .error e => return .error e
      | .ok others => return .ok (here ++ others)

end

def filesBelow (dir : Path) (isWanted : String → Bool) : m (Except DiskError (List Path)) := do
  match ← disk.filesWithin deepest dir with
  | .error e => return .error e
  | .ok files =>
    let wanted := files.filter fun p => p.extension?.any isWanted
    return .ok (wanted.mergeSort fun a b => a.compare b != .gt)

def step {α : Type} (failed : DiskError → Failure) (run : m (Except DiskError α)) : Action m α := do
  match ← ExceptT.lift run with
  | .ok a => return a
  | .error e => Action.fail (failed e)

def sourceError (path : Path) (task : String) (e : DiskError) : Failure :=
  .service (.sourceIo path ("Failed to " ++ task ++ ": " ++ e.text))

def editor : Editor m where
  read path := do return .ofString (← step (sourceError path "read file") (disk.readText path))
  write path buffer := step (sourceError path "write file") (disk.replace path buffer.text)

end Disk

end Remedy
