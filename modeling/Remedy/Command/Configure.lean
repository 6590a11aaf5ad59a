import Remedy.Command.Task
import Remedy.Config.Basic

/-! Showing the configuration, and writing a first one. -/

namespace Remedy.Command

def settingText? (c : Config) (folders : Folders) : String → Option String
  | "knowledge.path" => some (c.knowledgePath folders).text
  | "rules.paths" => some (Text.join "," (c.rulePaths.map (·.text)))
  | "engine.history_cap" => some (Config.numberText c.historyCap)
  | "engine.max_history_weight" => some (Scalar.text c.maxHistoryWeight)
  | "engine.related_line_window" => some (Config.numberText c.relatedLineWindow)
  | "output.no_color" => some (Toml.boolText c.noColor)
  | "output.format" => some c.format
  | _ => none

def settingsLines (json : Bool) (c : Config) (folders : Folders) : List Line :=
  if json then [.document c.toJson]
  else
    [.header "Current Configuration:", .text c.toToml,
     .text ("# effective knowledge.path = " ++ (c.knowledgePath folders).text)]

variable {m : Type → Type} [Monad m]

def setting (c : Config) (folders : Folders) (key : String) : Task m Unit :=
  match settingText? c folders key with
  | some s => Task.print [.text (key ++ " = " ++ s)]
  | none => Task.fail (.configuration ("Unknown config key: '" ++ key ++ "'"))

def settings (style : Style) (c : Config) (folders : Folders) : Task m Unit :=
  Task.print (settingsLines style.json c folders)

def settingsPath (folders : Folders) : Task m Unit := Task.print [.text folders.configFile.text]

def init (around : Surroundings m) (folders : Folders) (inDirectory force : Bool) : Task m Unit := do
  Task.print [.info "Initialising configuration..."]
  let path := if inDirectory then Folders.localConfig else folders.configFile
  if (← Task.outside (around.disk.isPresent path)) && !force then
    Task.print [.warning ("Config already exists at " ++ path.text ++ "  (use --force to overwrite)")]
  else
    match path.parent? with
    | none => pure ()
    | some parent =>
      Task.disk ("Failed to create config directory '" ++ parent.text ++ "'") (around.disk.makeDirectories parent)
    Task.disk ("Failed to write config to '" ++ path.text ++ "'") (around.disk.write path Config.standard.toToml)
    Task.print [.success ("Configuration created at " ++ path.text)]

end Remedy.Command
