import Remedy.Files.Editor

/-! Source files in memory, whose writes can be told to fail. -/

namespace Remedy

structure MemoryFiles where
  files : List (Path × Buffer)
  /-- How many of the next writes fail. -/
  failingWrites : Nat
  deriving Repr, Inhabited

namespace MemoryFiles

def lookup? (path : Path) : List (Path × Buffer) → Option Buffer
  | [] => none
  | (p, b) :: rest => if p.same path then some b else lookup? path rest

def replace (path : Path) (buffer : Buffer) : List (Path × Buffer) → List (Path × Buffer)
  | [] => [(path, buffer)]
  | (p, b) :: rest => if p.same path then (p, buffer) :: rest else (p, b) :: replace path buffer rest

def content? (m : MemoryFiles) (path : Path) : Option Buffer := lookup? path m.files

def insert (m : MemoryFiles) (path : Path) (buffer : Buffer) : MemoryFiles :=
  { m with files := replace path buffer m.files }

def ofList (files : List (Path × Buffer)) : MemoryFiles :=
  files.foldl (fun m f => m.insert f.1 f.2) ⟨[], 0⟩

def missing (path : Path) : Failure := .service (.sourceIo path "File does not exist")

def read (path : Path) : Action (StateM MemoryFiles) Buffer := fun m =>
  match m.content? path with
  | some b => (.ok b, m)
  | none => (.error (missing path), m)

def write (path : Path) (buffer : Buffer) : Action (StateM MemoryFiles) Unit := fun m =>
  match m.failingWrites with
  | 0 => (.ok (), m.insert path buffer)
  | left + 1 =>
    (.error (.service (.sourceIo path "Simulated write failure")), { m with failingWrites := left })

def editor : Editor (StateM MemoryFiles) where
  read := read
  write := write

end MemoryFiles

end Remedy
