import Remedy.Files.Disk

/-! Files and directories in memory. A place is the list of names that lead to it from the root. -/

namespace Remedy

inductive Node where
  | directory
  | file (bytes : ByteArray)

abbrev Place := List String

structure Tree where
  nodes : List (Place × Node)
  /-- Where relative paths start. -/
  home : Place

namespace Tree

def lookup? (place : Place) : List (Place × Node) → Option Node
  | [] => none
  | (p, n) :: rest => if p = place then some n else lookup? place rest

def node? (t : Tree) (place : Place) : Option Node :=
  if place = [] then some .directory else lookup? place t.nodes

def put (place : Place) (n : Node) : List (Place × Node) → List (Place × Node)
  | [] => [(place, n)]
  | (p, old) :: rest => if p = place then (p, n) :: rest else (p, old) :: put place n rest

def insert (t : Tree) (place : Place) (n : Node) : Tree := { t with nodes := put place n t.nodes }

def erase (t : Tree) (place : Place) : Tree := { t with nodes := t.nodes.filter (·.1 ≠ place) }

def hasDirectory (t : Tree) (place : Place) : Bool :=
  match t.node? place with
  | some .directory => true
  | _ => false

def enter (t : Tree) (place : Place) : Except DiskError Unit :=
  match t.node? place with
  | some .directory => .ok ()
  | some (.file _) => .error .notDirectory
  | none => .error .missing

/-- Follows the pieces of a path. All but the last must lead to directories. -/
def follow (t : Tree) : Place → List (List Char) → Except DiskError Place
  | place, [] => .ok place
  | place, piece :: rest => do
    t.enter place
    match piece with
    | [] | ['.'] => follow t place rest
    | ['.', '.'] => follow t place.dropLast rest
    | name => follow t (place ++ [String.ofList name]) rest

def start (t : Tree) (p : Path) : Place × List (List Char) :=
  (if p.isAbsolute then [] else t.home, Text.split '/' p.text.toList)

def locate (t : Tree) (p : Path) : Except DiskError Place :=
  if p.isEmpty then .error .missing else t.follow (t.start p).1 (t.start p).2

/-- Where something new would get the name of a path. -/
inductive Target where
  /-- A name in a directory that is there; `asDirectory` if a slash follows it. -/
  | name (place : Place) (asDirectory : Bool)
  /-- The path ends in no name. -/
  | nameless
  deriving DecidableEq, Repr

def dropSlashes (pieces : List (List Char)) : List (List Char) := (pieces.reverse.dropWhile (· = [])).reverse

def target (t : Tree) (p : Path) : Except DiskError Target := do
  if p.isEmpty then throw .missing
  let (base, pieces) := t.start p
  let kept := dropSlashes pieces
  match kept.getLast? with
  | none => return .nameless
  | some last =>
    let dir ← t.follow base kept.dropLast
    t.enter dir
    match last with
    | ['.'] | ['.', '.'] => return .nameless
    | name => return .name (dir ++ [String.ofList name]) (kept.length < pieces.length)

def Node.kind : Node → FileKind
  | .directory => .directory
  | .file _ => .regular

def kind? (t : Tree) (p : Path) : Option FileKind :=
  match t.locate p with
  | .ok place => (t.node? place).map Node.kind
  | .error _ => none

def read (t : Tree) (p : Path) : Except DiskError ByteArray := do
  match t.node? (← t.locate p) with
  | some (.file bytes) => return bytes
  | some .directory => throw .isDirectory
  | none => throw .missing

def namesAt (t : Tree) (place : Place) : List String :=
  t.nodes.filterMap fun (p, _) => if p ≠ [] ∧ p.dropLast = place then p.getLast? else none

def names (t : Tree) (p : Path) : Except DiskError (List String) := do
  let place ← t.locate p
  t.enter place
  return t.namesAt place

def makeDirectory (t : Tree) (p : Path) : Except DiskError Tree := do
  match ← t.target p with
  | .nameless => throw .present
  | .name place _ =>
    match t.node? place with
    | some _ => throw .present
    | none => return t.insert place .directory

def writable (t : Tree) (p : Path) : Except DiskError Place := do
  match ← t.target p with
  | .nameless => throw .isDirectory
  | .name place asDirectory =>
    if asDirectory || t.hasDirectory place then throw .isDirectory
    return place

def touch (t : Tree) (p : Path) : Except DiskError Tree := do
  let place ← t.writable p
  return if (t.node? place).isSome then t else t.insert place (.file .empty)

def write (t : Tree) (p : Path) (s : String) : Except DiskError Tree := do
  return t.insert (← t.writable p) (.file s.toUTF8)

def replace (t : Tree) (p : Path) (s : String) : Except DiskError Tree := do
  match ← t.target p with
  | .nameless => throw .busy
  | .name place asDirectory =>
    if asDirectory then throw .notDirectory
    if t.hasDirectory place then throw .isDirectory
    return t.insert place (.file s.toUTF8)

def remove (t : Tree) (p : Path) : Except DiskError Tree := do
  match ← t.target p with
  | .nameless => throw .isDirectory
  | .name place asDirectory =>
    match t.node? place with
    | none => throw .missing
    | some .directory => throw .isDirectory
    | some (.file _) => if asDirectory then throw .notDirectory else return t.erase place

def change (step : Tree → Except DiskError Tree) : StateM Tree (Except DiskError Unit) := fun t =>
  match step t with
  | .ok t' => (.ok (), t')
  | .error e => (.error e, t)

def disk : Disk (StateM Tree) where
  kind? p := fun t => (t.kind? p, t)
  read p := fun t => (t.read p, t)
  names p := fun t => (t.names p, t)
  makeDirectory p := change (·.makeDirectory p)
  touch p := change (·.touch p)
  write p s := change (·.write p s)
  replace p s := change (·.replace p s)

end Tree

end Remedy
