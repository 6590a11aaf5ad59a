import Remedy.Config.Basic
import Remedy.Config.Variables
import Remedy.Files.Disk
import Remedy.Toml.Reader

/-! Loading the configuration: the file is laid over the standard settings, and variables of the
environment over the file. -/

namespace Remedy

structure Folders where
  config? : Option Path
  data? : Option Path
  deriving Repr

namespace Folders

/-- A variable that names an absolute path, or a place below the home directory. -/
def folder? (env : Environment) (name fallback : String) : Option Path :=
  match env.get? "HOME" with
  | none | some "" => none
  | some home =>
    match (env.get? name).map Path.mk with
    | some p => some (if p.isAbsolute then p.join "mend" else (Path.mk home).join fallback)
    | none => some ((Path.mk home).join fallback)

def ofEnvironment (env : Environment) : Folders where
  config? := folder? env "XDG_CONFIG_HOME" ".config/mend"
  data? := folder? env "XDG_DATA_HOME" ".local/share/mend"

def localConfig : Path := ⟨".mend.toml"⟩

def configFile (f : Folders) : Path :=
  match f.config? with
  | some dir => dir.join "config.toml"
  | none => localConfig

def knowledgeFile (f : Folders) : Path :=
  match f.data? with
  | some dir => dir.join "knowledge.json"
  | none => ⟨".mend/knowledge.json"⟩

end Folders

namespace Config

inductive LoadError where
  | unreadable (detail : String)
  | shape
  | flaw (f : Flaw)
  deriving DecidableEq, Repr

def LoadError.message : LoadError → String
  | unreadable detail => "Failed to read configuration: " ++ detail
  | shape => "Configuration has an invalid shape: a setting has a value of the wrong kind"
  | flaw f => f.text

def knowledgePath (c : Config) (folders : Folders) : Path := c.knowledgePath?.getD folders.knowledgeFile

mutual

def isBounded : Toml → Bool
  | .int n => decide (-0x8000000000000000 ≤ n ∧ n < 0x8000000000000000)
  | .array items => areBounded items
  | .table fields => fieldsAreBounded fields
  | _ => true

def areBounded : List Toml → Bool
  | [] => true
  | v :: rest => isBounded v && areBounded rest

def fieldsAreBounded : List (String × Toml) → Bool
  | [] => true
  | (_, v) :: rest => isBounded v && fieldsAreBounded rest

end

def fileFields? (s : String) : Option Layers.Fields :=
  match Toml.parse? s with
  | some (.table fields) => if fieldsAreBounded fields then some fields else none
  | _ => none

def variableStart : String := "mend_"

/-- The setting that a variable stands for: its name without the common start, in which two underscores
part a section from a field. -/
def settingOf? (v : String × String) : Option (String × Toml) :=
  (Text.stripStart? variableStart.toList (Text.lower v.1).toList).map fun rest =>
    (Text.join "." ((Text.splitOn ['_', '_'] rest).map String.ofList), Loose.guess v.2)

def variableFields (env : Environment) : Layers.Fields := env.filterMap settingOf?

def ofLayers (file : Layers.Fields) (env : Environment) : Except LoadError Config :=
  match ofFields? (Layers.overlaid (Layers.overlaid [] file) (variableFields env)) with
  | none => .error .shape
  | some c =>
    match c.flaw? with
    | some f => .error (.flaw f)
    | none => .ok c

variable {m : Type → Type} [Monad m] (disk : Disk m)

/-- A file, or the one with `.toml` behind its name. -/
def find? (path : Path) : m (Option Path) := do
  if ← disk.isRegular path then return some path
  let named : Path := ⟨path.text ++ ".toml"⟩
  if ← disk.isRegular named then return some named
  return none

def explicitFields (path : Path) : m (Except LoadError Layers.Fields) := do
  match ← find? disk path with
  | none => return .error (.unreadable ("configuration file \"" ++ path.text ++ "\" not found"))
  | some found =>
    match ← disk.readText found with
    | .error e => return .error (.unreadable e.text)
    | .ok s =>
      match fileFields? s with
      | some fields => return .ok fields
      | none => return .error (.unreadable "not a TOML document")

def implicitFields (path : Path) : m (Except LoadError Layers.Fields) := do
  match ← find? disk path with
  | none => return .ok []
  | some found =>
    match ← disk.readText found with
    | .error _ => return .ok []
    | .ok s =>
      match fileFields? s with
      | some fields => return .ok fields
      | none => return .error (.unreadable "not a TOML document")

def load (env : Environment) (named? : Option Path) : m (Except LoadError Config) := do
  let file ← match named? with
    | some path => explicitFields disk path
    | none =>
      if ← disk.isPresent Folders.localConfig then implicitFields disk Folders.localConfig
      else implicitFields disk (Folders.ofEnvironment env).configFile
  match file with
  | .error e => return .error e
  | .ok fields => return ofLayers fields env

def environment (env : Environment) : m Environment := do
  match ← disk.read ⟨".env"⟩ with
  | .error _ => return env
  | .ok bytes => return env.load (Text.decodeLines bytes)

end Config

end Remedy
