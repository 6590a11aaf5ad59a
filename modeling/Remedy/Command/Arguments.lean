import Remedy.Path
import Remedy.Report.Format
import Remedy.Usage.Reader
import Remedy.Words

/-! The command line of the program, and what it asks for. -/

namespace Remedy

inductive OutputFormat where
  | auto
  | human
  | plain
  | json
  deriving DecidableEq, Repr, Inhabited

def OutputFormat.words : List (String × OutputFormat) :=
  [("auto", auto), ("human", human), ("plain", plain), ("json", json)]

def OutputFormat.ofWord? (s : String) : Option OutputFormat := (words.find? (·.1 == s)).map Prod.snd

structure GlobalOptions where
  verbose : Bool
  quiet : Bool
  noColor : Bool
  config? : Option Path
  format : OutputFormat
  deriving Repr

structure Input where
  path : Path
  format : ReportFormat
  deriving Repr

structure LearnRequest where
  code : UInt32
  category? : Option Category
  severity : Severity
  message : String
  solution : String
  failed : Bool
  minutes : UInt32
  feedback? : Option Feedback
  deriving Repr

structure ApplyRequest where
  input : Input
  fix? : Option String
  dryRun : Bool
  confirmed : Bool
  deriving Repr

inductive Request where
  | analyze (input : Input)
  | suggest (input : Input) (limit? : Option Nat)
  | apply (request : ApplyRequest)
  | learn (request : LearnRequest)
  | statistics
  | entries
  | entry (signature : String)
  | init (inDirectory : Bool) (force : Bool)
  | completions
  | setting (key : String)
  | settings
  | settingsPath
  deriving Repr

namespace Arguments

open Usage

def isWord {α : Type} (words : List (String × α)) (s : String) : Bool := words.any (·.1 == s)

def isAny (_ : String) : Bool := true

def isPath (s : String) : Bool := s != ""

def isNumber (bound : Nat) (s : String) : Bool := (Text.readUnsigned? bound s.toList).isSome

def number (bound : Nat) (s : String) : Nat := (Text.readUnsigned? bound s.toList).getD 0

def inputFormats : List (String × ReportFormat) := [("auto", .auto), ("json", .json), ("tsc", .listing)]

def severities : List (String × Severity) := [("error", .error), ("warning", .warning), ("info", .info)]

def feedbacks : List (String × Feedback) :=
  [("helpful", .helpful), ("not-helpful", .notHelpful), ("partially-helpful", .partiallyHelpful)]

def logFormats : List (String × Unit) := [("text", ()), ("json", ())]

def shells : List (String × Unit) :=
  [("bash", ()), ("zsh", ()), ("fish", ()), ("power-shell", ()), ("elvish", ())]

def code? (s : String) : Option UInt32 :=
  let cs := Text.trim s.toList
  let digits := Text.stripAll ['t', 's'] cs.length (Text.stripAll ['T', 'S'] cs.length cs)
  (Text.readUnsigned? UInt32.size digits).map UInt32.ofNat

def helpSwitch : Switch := ⟨"help", some 'h', .help⟩

def globalSwitches : List Switch :=
  [⟨"verbose", some 'v', .tally⟩, ⟨"quiet", some 'q', .nothing⟩, ⟨"no-color", none, .nothing⟩,
   ⟨"config", some 'c', .value isPath⟩, ⟨"output-format", none, .value (isWord OutputFormat.words)⟩,
   ⟨"log-format", none, .value (isWord logFormats)⟩, helpSwitch]

def command (names : List String) (switches : List Switch) (required : List String) (operands : List Operand) :
    List String × Grammar :=
  (names, .mk (switches ++ globalSwitches) required operands [])

def group (name : String) (commands : List (List String × Grammar)) : List String × Grammar :=
  ([name], .mk globalSwitches [] [] commands)

def inputOperands : List Operand := [⟨"input", isPath⟩]

def formatSwitch : Switch := ⟨"format", none, .value (isWord inputFormats)⟩

def grammar : Grammar := .mk (⟨"version", some 'V', .version⟩ :: globalSwitches) [] []
  [command ["analyze", "a"] [formatSwitch] [] inputOperands,
   command ["suggest", "s"] [formatSwitch, ⟨"limit", some 'n', .value (isNumber UInt64.size)⟩] [] inputOperands,
   command ["apply"] [formatSwitch, ⟨"fix", none, .value isAny⟩, ⟨"dry-run", none, .nothing⟩,
     ⟨"yes", some 'y', .nothing⟩] [] inputOperands,
   command ["learn"] [⟨"code", none, .value fun s => (code? s).isSome⟩,
     ⟨"category", none, .value fun s => (Category.ofText? s).isSome⟩,
     ⟨"severity", none, .value (isWord severities)⟩, ⟨"message", none, .value isAny⟩,
     ⟨"solution", none, .value isAny⟩, ⟨"failed", none, .nothing⟩,
     ⟨"minutes", none, .value (isNumber UInt32.size)⟩, ⟨"feedback", none, .value (isWord feedbacks)⟩]
     ["code", "solution"] [],
   group "kb" [command ["stats"] [] [] [], command ["list"] [] [] [],
     command ["show"] [] [] [⟨"signature", isAny⟩]],
   command ["init"] [⟨"local", none, .nothing⟩, ⟨"force", some 'f', .nothing⟩] [] [],
   command ["completions"] [] [] [⟨"shell", isWord shells⟩],
   group "config" [command ["get"] [] [] [⟨"key", isAny⟩], command ["list"] [] [] [],
     command ["path"] [] [] []]]

def value? (given : List Given) (name : String) : Option String := (given.find? (·.name == name)).map (·.value)

def word {α : Type} (words : List (String × α)) (default : α) (s? : Option String) : α :=
  match s?.bind fun s => words.find? (·.1 == s) with
  | some (_, a) => a
  | none => default

def inputOf (given : List Given) : Input :=
  ⟨⟨(value? given "input").getD ""⟩, word inputFormats .auto (value? given "format")⟩

def learnRequest (given : List Given) : LearnRequest where
  code := ((value? given "code").bind code?).getD 0
  category? := (value? given "category").bind Category.ofText?
  severity := word severities .error (value? given "severity")
  message := (value? given "message").getD "recorded from the command line"
  solution := (value? given "solution").getD ""
  failed := isGiven "failed" given
  minutes := UInt32.ofNat (((value? given "minutes").map (number UInt32.size)).getD 1)
  feedback? := (value? given "feedback").bind fun s => (feedbacks.find? (·.1 == s)).map Prod.snd

def request? : List Level → Option Request
  | [_, ⟨name, given⟩] =>
    match name with
    | "analyze" => some (.analyze (inputOf given))
    | "suggest" => some (.suggest (inputOf given) ((value? given "limit").map (number UInt64.size)))
    | "apply" => some (.apply ⟨inputOf given, value? given "fix", isGiven "dry-run" given, isGiven "yes" given⟩)
    | "learn" => some (.learn (learnRequest given))
    | "init" => some (.init (isGiven "local" given) (isGiven "force" given))
    | "completions" => some .completions
    | _ => none
  | [_, ⟨"kb", _⟩, ⟨name, given⟩] =>
    match name with
    | "stats" => some .statistics
    | "list" => some .entries
    | "show" => some (.entry ((value? given "signature").getD ""))
    | _ => none
  | [_, ⟨"config", _⟩, ⟨name, given⟩] =>
    match name with
    | "get" => some (.setting ((value? given "key").getD ""))
    | "list" => some .settings
    | "path" => some .settingsPath
    | _ => none
  | _ => none

def variableFlag? (setting? : Option String) : Option Bool :=
  match setting? with
  | none => some false
  | some "true" => some true
  | some "false" => some false
  | some _ => none

/-- The global options, unless a variable of the environment makes no sense. -/
def globals? (environment : String → Option String) (levels : List Level) : Option GlobalOptions := do
  let noColor ← variableFlag? (environment "NO_COLOR")
  if !(environment "MEND_LOG_FORMAT").all (isWord logFormats) then none
  return {
    verbose := !(innermost "verbose" levels).isEmpty
    quiet := !(innermost "quiet" levels).isEmpty
    noColor := !(innermost "no-color" levels).isEmpty || noColor
    config? := (innermost "config" levels).head?.map Path.mk
    format := word OutputFormat.words .auto (innermost "output-format" levels).head? }

def read (environment : String → Option String) (words : List String) :
    Except Stop (GlobalOptions × Request) := do
  let levels ← Usage.read grammar "mend" words
  match globals? environment levels, request? levels with
  | some globals, some request => return (globals, request)
  | _, _ => .error .misuse

end Arguments

end Remedy
