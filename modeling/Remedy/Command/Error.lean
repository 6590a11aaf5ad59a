import Remedy.Files.Disk
import Remedy.Error

/-! What a command fails with, as it is told to the person who gave it. -/

namespace Remedy

inductive CommandError where
  /-- With the error behind it, if there is one. -/
  | invalidInput (message : String) (cause? : Option String)
  | inputNotFound (path : Path)
  | noDiagnostics (path : Path)
  | fixNotFound (id : String)
  | entryNotFound (signature : Signature)
  | configuration (message : String)
  | failed (e : Failure)
  | disk (message : String) (e : DiskError)
  deriving DecidableEq, Repr

namespace CommandError

def message : CommandError → String
  | invalidInput message _ => "Invalid input: " ++ message
  | inputNotFound path => "Input not found: " ++ path.text
  | noDiagnostics path => "No diagnostics found in " ++ path.text
  | fixNotFound id => "Fix '" ++ id ++ "' was not suggested for any diagnostic"
  | entryNotFound signature => "No knowledge-base entry for " ++ signature.text
  | configuration message => "Configuration error: " ++ message
  | failed e => e.message
  | disk message _ => "I/O error: " ++ message

def suggestions : CommandError → List String
  | invalidInput message _ => ["Check your input: " ++ message, "Use --help for usage information"]
  | inputNotFound path =>
    ["'" ++ path.text ++ "' does not exist",
     "Capture compiler output first: tsc --noEmit --pretty false > tsc.txt"]
  | noDiagnostics path =>
    ["'" ++ path.text ++ "' contains no recognisable diagnostics",
     "Pass --format json or --format tsc if detection guessed wrong",
     "tsc output must use --pretty false or the default pretty headline"]
  | fixNotFound id =>
    ["'" ++ id ++ "' is not among the suggested fixes", "List fix IDs with: mend suggest <INPUT>"]
  | entryNotFound signature =>
    ["Nothing has been learned for " ++ signature.text ++ " yet", "List known signatures with: mend kb list"]
  | configuration message =>
    ["Configuration issue: " ++ message, "Show the active values with: mend config list",
     "Create a default config with: mend init"]
  | failed e => e.suggestions
  | disk message _ =>
    ["I/O operation failed: " ++ message, "Check file permissions", "Ensure the parent directory exists"]

def kind : CommandError → FailureKind
  | invalidInput .. | noDiagnostics _ => .validation
  | inputNotFound _ | fixNotFound _ | entryNotFound _ => .notFound
  | configuration _ => .configuration
  | failed e => e.kind
  | disk .. => .internal

def causes : CommandError → List String
  | invalidInput _ cause? => cause?.toList
  | failed (.domain e) => [(Failure.domain e).message, e.message]
  | failed (.service e) => [(Failure.service e).message, e.message]
  | failed e => [e.message]
  | disk _ e => [e.text]
  | _ => []

def exitCode : CommandError → Nat
  | failed (.panicked _) => 101
  | e =>
    match e.kind with
    | .internal => 1
    | .validation | .conflict => 2
    | .notFound => 3
    | .configuration => 4

def report (verbose : Bool) (e : CommandError) : String :=
  "\nError: " ++ e.message ++ "\n" ++
    (if verbose then String.join (e.causes.map fun c => "  Caused by: " ++ c ++ "\n") else "") ++
    "\nSuggestions:\n" ++ String.join (e.suggestions.map fun s => "  " ++ s ++ "\n") ++
    (if verbose then "" else "\nUse -v / --verbose for more details.\n")

end CommandError

end Remedy
