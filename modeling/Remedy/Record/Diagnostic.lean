import Remedy.Diagnostic.Basic
import Remedy.Json.Reader
import Remedy.Record.Word

/-! JSON form of a diagnostic, and of documents that hold diagnostics: a record with a list of them, a list, or a single
one. The shapes are tried in this order. -/

namespace Remedy.Diagnostic

def fieldNames : List String := ["file", "line", "column", "message", "code", "severity", "category"]

def toJson (d : Diagnostic) : Json :=
  .obj [("file", d.file.toJson), ("line", .ofUInt32 d.line), ("column", .ofUInt32 d.column),
    ("message", .str d.message), ("code", .ofUInt32 d.code), ("severity", d.severity.toJson),
    ("category", d.category.toJson)]

def ofJson? (j : Json) : Option Diagnostic := do
  let r ← Json.Record.of? fieldNames j
  return {
    file := ← r.required "file" Path.ofJson?
    line := ← r.required "line" Json.asUInt32?
    column := ← r.required "column" Json.asUInt32?
    message := ← r.required "message" Json.asText?
    code := ← r.required "code" Json.asUInt32?
    severity := ← r.defaulted "severity" .error Severity.ofJson?
    category := ← r.defaulted "category" .genericError Category.ofJson? }

end Remedy.Diagnostic

namespace Remedy.Document

/-- The record must be written with its field's name, not as an array. -/
def wrapped? : Json → Option (List Diagnostic)
  | .obj fields => do
    let r ← Json.Record.of? ["diagnostics"] (.obj fields)
    r.required "diagnostics" (Json.asList? Diagnostic.ofJson?)
  | _ => none

def many? : Json → Option (List Diagnostic) := Json.asList? Diagnostic.ofJson?

def one? (j : Json) : Option (List Diagnostic) := (Diagnostic.ofJson? j).map fun d => [d]

def ofJson? (j : Json) : Option (List Diagnostic) := (wrapped? j).or ((many? j).or (one? j))

def diagnostics? (s : String) : Option (List Diagnostic) := (Json.parse? s).bind ofJson?

end Remedy.Document
