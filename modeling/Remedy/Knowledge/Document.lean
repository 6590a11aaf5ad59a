import Remedy.Json.Printer
import Remedy.Json.Reader
import Remedy.Knowledge.Table
import Remedy.Record.Knowledge

/-! The knowledge base as a JSON document: the version of the format, and the entries in order. -/

namespace Remedy

inductive TableFlaw where
  | notDocument
  | otherVersion (version : UInt32)
  deriving DecidableEq, Repr

namespace Table

def version : UInt32 := 1

def fieldNames : List String := ["version", "entries"]

end Table

def TableFlaw.text : TableFlaw → String
  | notDocument => "Not a knowledge-base document: not a record of a version and entries"
  | otherVersion v =>
    "Unsupported format version " ++ Text.natText v.toNat ++ " (expected " ++
      Text.natText Table.version.toNat ++ ")"

namespace Table

def toJson (t : Table Float) : Json :=
  .obj [("version", .ofUInt32 Table.version), ("entries", .ofList Entry.toJson t.entries)]

def toText (t : Table Float) : String := t.toJson.pretty

def fields? (j : Json) : Option (UInt32 × List (Entry Float)) := do
  let r ← Json.Record.of? fieldNames j
  return (← r.required "version" Json.asUInt32?, ← r.defaulted "entries" [] (Json.asList? Entry.ofJson?))

/-- The table of a document; a blank one holds nothing. -/
def read (s : String) : Except TableFlaw (Table Float) :=
  if Text.isAllBlank s then .ok empty
  else
    match (Json.scan? s).bind fields? with
    | none => .error .notDocument
    | some (version, entries) =>
      if version = Table.version then .ok (ofList entries) else .error (.otherVersion version)

end Table

end Remedy
