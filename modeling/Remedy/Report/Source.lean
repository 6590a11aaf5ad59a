import Remedy.Files.Disk
import Remedy.Record.Diagnostic
import Remedy.Report.Format
import Remedy.Report.Listing

/-! Where diagnostics come from: a file of either format, or a directory of JSON files. -/

namespace Remedy.Report

def isJsonExtension (s : String) : Bool := Text.equalIgnoringCase s "json"

def opensJson (s : String) : Bool :=
  match Text.trimStart s.toList with
  | '\x7b' :: _ | '[' :: _ => true
  | _ => false

def readError (path : Path) (e : DiskError) : Failure := .service (.sourceIo path e.text)

def walkError (dir : Path) (e : DiskError) : Failure :=
  .service (.sourceIo dir ("IO error for operation on " ++ dir.text ++ ": " ++ e.text))

def malformed (path : Path) : Failure :=
  .service (.validationFailed ("Malformed diagnostics in " ++ path.text ++
    ": not a document of diagnostics"))

def ofDocument (path : Path) (s : String) : Except Failure (List Diagnostic) :=
  match Document.diagnostics? s with
  | some ds => .ok ds
  | none => .error (malformed path)

variable {m : Type → Type} [Monad m] (disk : Disk m)

/-- The format that an input shows: its kind, its name and its first character count, in this order. -/
def detect (input : Path) : m ReportFormat := do
  if ← disk.isDirectory input then return .json
  if input.extension?.any isJsonExtension then return .json
  match ← disk.readText input with
  | .ok s => return if opensJson s then .json else .listing
  | .error _ => return .listing

def documentFile (path : Path) : Action m (List Diagnostic) := do
  Action.ofExcept (ofDocument path (← Disk.step (readError path) (disk.readText path)))

def documentFiles : List Path → Action m (List Diagnostic)
  | [] => return []
  | path :: rest => do
    let found ← documentFile disk path
    return found ++ (← documentFiles rest)

def documents (input : Path) : Action m (List Diagnostic) := do
  if ← ExceptT.lift (disk.isDirectory input) then
    documentFiles disk (← Disk.step (walkError input) (disk.filesBelow input isJsonExtension))
  else documentFile disk input

def listing (input : Path) : Action m (List Diagnostic) := do
  return Listing.diagnostics (← Disk.step (readError input) (disk.readText input))

def source (format : ReportFormat) (input : Path) : Action m (List Diagnostic) := do
  let format ← match format with
    | .auto => ExceptT.lift (detect disk input)
    | f => pure f
  match format with
  | .listing => listing disk input
  | _ => documents disk input

end Remedy.Report
