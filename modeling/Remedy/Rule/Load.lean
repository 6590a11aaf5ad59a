import Remedy.Files.Disk
import Remedy.Rule.Book
import Remedy.Rule.Pack

/-! Rule packs from files and directories. One flaw in any of them refuses them all. -/

namespace Remedy

inductive PackError where
  | notFound (path : Path)
  | unreadable (path : Path) (e : DiskError)
  | malformed (path : Path) (detail : String)
  | invalidRule (path : Path) (id : String) (reason : String)
  deriving DecidableEq, Repr

namespace PackError

def message : PackError → String
  | notFound path => "rule pack not found: " ++ path.text
  | unreadable path e => "failed to read rule pack " ++ path.text ++ ": " ++ e.text
  | malformed path detail => "failed to parse rule pack " ++ path.text ++ ": " ++ detail
  | invalidRule path id reason => "invalid rule '" ++ id ++ "' in " ++ path.text ++ ": " ++ reason

def failure (e : PackError) : Failure := .configuration e.message

end PackError

namespace Pack

def rulesOf (path : Path) : List PackRule → Except PackError (List (Rule Float))
  | [] => .ok []
  | p :: rest =>
    match p.rule with
    | .error flaw => .error (.invalidRule path p.id flaw.text)
    | .ok rule => (rulesOf path rest).map (rule :: ·)

def read (path : Path) (s : String) : Except PackError (List (Rule Float)) :=
  match parse? s with
  | some rules => rulesOf path rules
  | none => .error (.malformed path "not a list of rules")

/-- Adds the rules of a file behind those loaded before; ids are distinct among all of them. -/
def append (path : Path) (loaded : List (Rule Float)) : List (Rule Float) → Except PackError (List (Rule Float))
  | [] => .ok loaded
  | rule :: rest =>
    if (loaded.map (·.id)).contains rule.id then .error (.invalidRule path rule.id "duplicate rule id")
    else append path (loaded ++ [rule]) rest

abbrev Loading (m : Type → Type) := ExceptT PackError m

variable {m : Type → Type} [Monad m] (disk : Disk m)

def isPackExtension (s : String) : Bool := Text.equalIgnoringCase s "toml"

def files (path : Path) : Loading m (List Path) := do
  match ← ExceptT.lift (disk.kind? path) with
  | some .regular => return [path]
  | none => throw (.notFound path)
  | some .directory =>
    match ← ExceptT.lift (disk.filesBelow path isPackExtension) with
    | .ok found => return found
    | .error e => throw (.malformed path ("directory walk error: " ++ e.text))

def loadFile (path : Path) : Loading m (List (Rule Float)) := do
  match ← ExceptT.lift (disk.readText path) with
  | .error e => throw (.unreadable path e)
  | .ok s => ExceptT.mk (pure (read path s))

def loadFiles (loaded : List (Rule Float)) : List Path → Loading m (List (Rule Float))
  | [] => return loaded
  | path :: rest => do
    let rules ← loadFile disk path
    loadFiles (← ExceptT.mk (pure (append path loaded rules))) rest

def loadFrom (loaded : List (Rule Float)) : List Path → Loading m (List (Rule Float))
  | [] => return loaded
  | path :: rest => do loadFrom (← loadFiles disk loaded (← files disk path)) rest

def load (paths : List Path) : Loading m (List (Rule Float)) := loadFrom disk [] paths

/-- A book with the rules of all packs behind its own, and how many they are. A pack that cannot be loaded
leaves the book as it is. -/
def extend (book : RuleBook Float) (paths : List Path) : m (RuleBook Float × Except Failure Nat) := do
  match ← (load disk paths).run with
  | .error e => return (book, .error e.failure)
  | .ok rules =>
    match book.extend rules with
    | (book, .ok ()) => return (book, .ok rules.length)
    | (book, .error e) => return (book, .error (.domain e))

end Pack

end Remedy
