import Remedy.Command.Analyze
import Remedy.Command.Apply
import Remedy.Command.Configure
import Remedy.Command.Inspect
import Remedy.Command.Suggest

/-! The program: from the words of its command line to what it prints and its exit status. -/

namespace Remedy

structure Printed where
  exitCode : Nat
  output : String
  /-- The block about an error, if there was one. -/
  report? : Option String
  deriving DecidableEq, Repr

namespace Program

def versionText : String := "mend 0.1.0\n"

def stopped : Usage.Stop → Printed
  | .misuse => ⟨2, "", none⟩
  | .help => ⟨0, "", none⟩
  | .version => ⟨0, versionText, none⟩

/-- The format of results: as asked on the command line, or else as configured, or else plain. -/
def formatOf (globals : GlobalOptions) (config : Config) : OutputFormat :=
  match globals.format with
  | .auto =>
    match (OutputFormat.ofWord? config.format).getD .auto with
    | .auto => .plain
    | f => f
  | f => f

def styleOf (globals : GlobalOptions) (config : Config) : Style :=
  let format := formatOf globals config
  { quiet := globals.quiet
    coloured := !globals.noColor && !config.noColor && format = .human
    json := format = .json }

variable {m : Type → Type} [Monad m]

def perform (around : Surroundings m) (folders : Folders) (config : Config) (style : Style) :
    Request → Task m Unit
  | .analyze input => do Command.analyze around style (← engine) input
  | .suggest input limit? => do Command.suggest around style (← engine) input limit?
  | .apply r => do Command.apply around style (← engine) r
  | .learn r => do Command.learn around style (← engine) r
  | .statistics => do Command.statistics style knowledge (← engine)
  | .entries => do Command.entries style (← engine)
  | .entry word => do Command.entry style (← engine) word
  | .init inDirectory force => Command.init around folders inDirectory force
  | .completions => pure ()
  | .setting key => Command.setting config folders key
  | .settings => Command.settings style config folders
  | .settingsPath => Command.settingsPath folders
where
  knowledge : Path := config.knowledgePath folders
  engine : Task m (Command.CommandEngine m) := Command.engine around knowledge config

/-- What is printed when a command fails. A program that ends in a panic writes no block about it. -/
def failed (verbose : Bool) (output : String) (e : CommandError) : Printed :=
  match e with
  | .failed (.panicked _) => ⟨e.exitCode, output, none⟩
  | _ => ⟨e.exitCode, output, some (e.report verbose)⟩

def run (around : Surroundings m) (environment : Environment) (words : List String) : m Printed := do
  let environment ← Config.environment around.disk environment
  match Arguments.read environment.get? words with
  | .error stop => return stopped stop
  | .ok (globals, request) =>
    match ← Config.load around.disk environment globals.config? with
    | .error e => return failed globals.verbose "" (.configuration e.message)
    | .ok config =>
      let style := styleOf globals config
      let (lines, result) ← (perform around (.ofEnvironment environment) config style request).run
      match result with
      | .ok () => return ⟨0, Line.printAll style lines, none⟩
      | .error e => return failed globals.verbose (Line.printAll style lines) e

end Program

end Remedy
