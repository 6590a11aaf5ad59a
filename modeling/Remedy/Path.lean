import Remedy.Text.Basic

/-! Names of files. Two spellings name one place when their components agree: repeated slashes, a
slash at the end and single dots inside do not count. -/

namespace Remedy

structure Path where
  text : String
  deriving DecidableEq, Repr, Inhabited

namespace Path

inductive Component where
  | root
  | here
  | up
  | name (s : String)
  deriving DecidableEq, Repr

def componentOf? (piece : List Char) : Option Component :=
  match piece with
  | [] => none
  | ['.'] => none
  | ['.', '.'] => some .up
  | cs => some (.name (String.ofList cs))

def isAbsolute (p : Path) : Bool := p.text.toList.head? == some '/'

/-- The components in order. A dot counts only in front of a relative path. -/
def components (p : Path) : List Component :=
  let pieces := Text.split '/' p.text.toList
  let body := pieces.filterMap componentOf?
  if p.isAbsolute then .root :: body
  else if pieces.head? == some ['.'] then .here :: body
  else body

def same (a b : Path) : Bool := a.components == b.components

def isEmpty (p : Path) : Bool := p.text == ""

def Component.rank : Component → Nat
  | .root => 0
  | .here => 1
  | .up => 2
  | .name _ => 3

def Component.compare : Component → Component → Ordering
  | .name a, .name b => if a < b then .lt else if a = b then .eq else .gt
  | a, b => Ord.compare a.rank b.rank

def compareComponents : List Component → List Component → Ordering
  | [], [] => .eq
  | [], _ :: _ => .lt
  | _ :: _, [] => .gt
  | a :: as, b :: bs =>
    match a.compare b with
    | .eq => compareComponents as bs
    | o => o

def compare (a b : Path) : Ordering := compareComponents a.components b.components

def fileName? (p : Path) : Option String :=
  match p.components.getLast? with
  | some (.name s) => some s
  | _ => none

/-- What follows the last dot of the file name; a dot in front of the name does not count. -/
def extension? (p : Path) : Option String :=
  match p.fileName? with
  | none => none
  | some s =>
    match Text.splitOnce? '.' s.toList.reverse with
    | some (after, before) =>
      if before.isEmpty then none else some (String.ofList after.reverse)
    | none => none

def join (dir : Path) (name : String) : Path :=
  if name.toList.head? = some '/' || dir.isEmpty then ⟨name⟩
  else if dir.text.toList.getLast? = some '/' then ⟨dir.text ++ name⟩
  else ⟨dir.text ++ "/" ++ name⟩

/-- Drops pieces that name nothing from the front, but never the last piece there is. -/
def dropIdle : List (List Char) → List (List Char)
  | [] => []
  | [first] => [first]
  | last :: before => if componentOf? last = none then dropIdle before else last :: before

def piecesBack (p : Path) : List (List Char) := dropIdle (Text.split '/' p.text.toList).reverse

def ofPiecesBack (pieces : List (List Char)) : Path :=
  ⟨String.ofList (List.intercalate ['/'] pieces.reverse)⟩

def parent? (p : Path) : Option Path :=
  match p.piecesBack with
  | [] => none
  | [only] => if only.isEmpty then none else some ⟨""⟩
  | _ :: before =>
    match dropIdle before with
    | [[]] => some ⟨"/"⟩
    | kept => some (ofPiecesBack kept)

/-- The file of another name in the same directory; a path that ends in no name is taken for the directory. -/
def withFileName (p : Path) (name : String) : Path :=
  match p.fileName? with
  | some _ => (p.parent?.getD ⟨""⟩).join name
  | none => p.join name

def fold : List Component → List Component → List Component
  | done, [] => done.reverse
  | done, .here :: rest => fold done rest
  | .name _ :: done, .up :: rest => fold done rest
  | .root :: done, .up :: rest => fold (.root :: done) rest
  | done, c :: rest => fold (c :: done) rest

/-- The components of a path that starts at a home, without steps that lead nowhere. Links are not followed. -/
def canonical (home : List Component) (p : Path) : List Component :=
  if p.isEmpty then [] else fold [] (if p.isAbsolute then p.components else home ++ p.components)

end Path

end Remedy
