import Remedy.Config.Layers
import Remedy.Config.Loose
import Remedy.Engine
import Remedy.Json.Printer
import Remedy.Record.Word
import Remedy.Toml.Printer

/-! The configuration: where knowledge is kept, which rule packs are loaded, how history counts, and how
results are shown; and the configuration as a TOML document. -/

namespace Remedy

structure Config where
  /-- The user's data directory when not set. -/
  knowledgePath? : Option Path
  rulePaths : List Path
  historyCap : UInt32
  maxHistoryWeight : Float
  relatedLineWindow : UInt32
  noColor : Bool
  format : String
  deriving Repr

namespace Config

def standard : Config where
  knowledgePath? := none
  rulePaths := []
  historyCap := (BlendPolicy.standard : BlendPolicy Float).historyCap
  maxHistoryWeight := (BlendPolicy.standard : BlendPolicy Float).maxHistoryWeight
  relatedLineWindow := Analysis.standardLineWindow
  noColor := false
  format := "auto"

def asPath? (v : Toml) : Option Path := (Loose.asText? v).map Path.mk

def section? (fields : List (String × Toml)) (name : String) (fieldNames : List String) :
    Option (List (String × Toml)) :=
  Loose.field fields name [] (Loose.fields? fieldNames)

/-- The configuration that settings describe; what they do not mention is standard. -/
def ofFields? (fields : List (String × Toml)) : Option Config := do
  let knowledge ← section? fields "knowledge" ["path"]
  let rules ← section? fields "rules" ["paths"]
  let engine ← section? fields "engine" ["history_cap", "max_history_weight", "related_line_window"]
  let output ← section? fields "output" ["no_color", "format"]
  return {
    knowledgePath? := ← Loose.field knowledge "path" none fun v => (asPath? v).map some
    rulePaths := ← Loose.field rules "paths" [] (Toml.asList? asPath?)
    historyCap := ← Loose.field engine "history_cap" standard.historyCap Loose.asUInt32?
    maxHistoryWeight := ← Loose.field engine "max_history_weight" standard.maxHistoryWeight Loose.asFloat?
    relatedLineWindow := ← Loose.field engine "related_line_window" standard.relatedLineWindow Loose.asUInt32?
    noColor := ← Loose.field output "no_color" false Loose.asBool?
    format := ← Loose.field output "format" "auto" Loose.asText? }

inductive Flaw where
  | weight (shown : String)
  | format (word : String)
  deriving DecidableEq, Repr

def Flaw.text : Flaw → String
  | weight shown => "engine.max_history_weight must be within 0.0..=1.0, got " ++ shown
  | format word => "output.format must be one of auto, human, plain, json; got '" ++ word ++ "'"

def formats : List String := ["auto", "human", "plain", "json"]

def flaw? (c : Config) : Option Flaw :=
  if !Scalar.isProportion c.maxHistoryWeight then some (.weight (Scalar.text c.maxHistoryWeight))
  else if !formats.contains c.format then some (.format c.format)
  else none

def settings (c : Config) : Settings Float := ⟨⟨c.historyCap, c.maxHistoryWeight⟩, c.relatedLineWindow⟩

def toJson (c : Config) : Json :=
  .obj [("knowledge", .obj [("path", .ofOption Path.toJson c.knowledgePath?)]),
    ("rules", .obj [("paths", .ofList Path.toJson c.rulePaths)]),
    ("engine", .obj [("history_cap", .ofUInt32 c.historyCap), ("max_history_weight", .real c.maxHistoryWeight),
      ("related_line_window", .ofUInt32 c.relatedLineWindow)]),
    ("output", .obj [("no_color", .bool c.noColor), ("format", .str c.format)])]

def numberText (n : UInt32) : String := Text.natText n.toNat

def sections (c : Config) : List (String × List (String × String)) :=
  [("knowledge", c.knowledgePath?.toList.map fun p => ("path", Toml.quoted p.text)),
   ("rules", [("paths", Toml.arrayText (c.rulePaths.map fun p => Toml.quoted p.text))]),
   ("engine", [("history_cap", numberText c.historyCap),
     ("max_history_weight", Toml.realText c.maxHistoryWeight),
     ("related_line_window", numberText c.relatedLineWindow)]),
   ("output", [("no_color", Toml.boolText c.noColor), ("format", Toml.quoted c.format)])]

def toToml (c : Config) : String := Text.join "\n" (c.sections.map fun (name, fields) => Toml.tableText name fields)

end Config

end Remedy
