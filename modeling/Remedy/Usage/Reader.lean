import Remedy.Usage.Grammar

/-! Reading a command line. Words are taken from left to right, and the first that does not fit, or that
asks for help, ends it. -/

namespace Remedy.Usage

inductive Stop where
  | misuse
  | help
  | version
  deriving DecidableEq, Repr

structure Given where
  name : String
  value : String
  deriving DecidableEq, Repr

structure Level where
  command : String
  given : List Given
  deriving DecidableEq, Repr

def isGiven (name : String) (given : List Given) : Bool := given.any (·.name == name)

def take (s : Switch) (isValid : String → Bool) (v : String) (given : List Given) : Except Stop (List Given) :=
  if isGiven s.long given || !isValid v then .error .misuse else .ok (given ++ [⟨s.long, v⟩])

def flag (s : Switch) (given : List Given) : Except Stop (Option (List Given)) :=
  match s.takes with
  | .help => .error .help
  | .version => .error .version
  | .tally => .ok (some (given ++ [⟨s.long, ""⟩]))
  | .nothing => if isGiven s.long given then .error .misuse else .ok (some (given ++ [⟨s.long, ""⟩]))
  | .value _ => .ok none

def dropEquals : List Char → List Char
  | '=' :: rest => rest
  | cs => cs

/-- Short switches in one word. The last may take the rest of the word as its value, or wait for the next. -/
def cluster (g : Grammar) (given : List Given) : List Char → Except Stop (List Given × Option Switch)
  | [] => .ok (given, none)
  | c :: rest =>
    match g.short? c with
    | none => .error .misuse
    | some s => do
      match ← flag s given with
      | some given => cluster g given rest
      | none =>
        match s.takes, rest with
        | .value isValid, _ :: _ => return (← take s isValid (String.ofList (dropEquals rest)) given, none)
        | _, _ => return (given, some s)

def longSwitch (g : Grammar) (given : List Given) (name : String) (value? : Option String) :
    Except Stop (List Given × Option Switch) :=
  match g.long? name with
  | none => .error .misuse
  | some s =>
    match value?, s.takes with
    | some v, .value isValid => do return (← take s isValid v given, none)
    | some _, _ => .error .misuse
    | none, _ => do
      match ← flag s given with
      | some given => return (given, none)
      | none => return (given, some s)

def clashes : List (String × String) := [("quiet", "verbose")]

def isConsistent (given : List Given) : Bool :=
  clashes.all fun (a, b) => !(isGiven a given && isGiven b given)

def isComplete (g : Grammar) (left : List Operand) (given : List Given) : Bool :=
  g.commands.isEmpty && left.isEmpty && g.required.all (isGiven · given) && isConsistent given

def helpFor (g : Grammar) : List String → Stop
  | [] => .help
  | name :: rest =>
    match g.command? name with
    | some (_, inner) => helpFor inner rest
    | none => if name = "help" && !g.commands.isEmpty then .help else .misuse

def readLevel (g : Grammar) (command : String) (left : List Operand) (given : List Given) (escaped : Bool) :
    List String → Except Stop (List Level)
  | [] => if isComplete g left given then .ok [⟨command, given⟩] else .error .misuse
  | word :: rest =>
    let operand : Except Stop (List Level) :=
      match left with
      | [] => .error .misuse
      | o :: left =>
        if o.isValid word then readLevel g command left (given ++ [⟨o.name, word⟩]) escaped rest
        else .error .misuse
    let onward (r : Except Stop (List Given × Option Switch)) : Except Stop (List Level) := do
      match ← r with
      | (given, none) => readLevel g command left given false rest
      | (given, some s) =>
        match s.takes, rest with
        | .value isValid, value :: rest =>
          if isPlain value then readLevel g command left (← take s isValid value given) false rest
          else .error .misuse
        | _, _ => .error .misuse
    if escaped then operand
    else
      match g.command? word with
      | some (name, inner) => do
        let below ← readLevel inner name inner.operands [] false rest
        if isConsistent given then return ⟨command, given⟩ :: below else .error .misuse
      | none =>
        if word = "help" && !g.commands.isEmpty then .error (helpFor g rest)
        else
          match Word.of word with
          | .escape => readLevel g command left given true rest
          | .long name value? => onward (longSwitch g given name value?)
          | .short letters => onward (cluster g given letters)
          | .plain => operand

/-- The commands of a command line from the outermost on. -/
def read (g : Grammar) (program : String) (words : List String) : Except Stop (List Level) :=
  readLevel g program g.operands [] false words

def innermost (name : String) (levels : List Level) : List String :=
  match levels.reverse.find? fun l => isGiven name l.given with
  | some l => (l.given.filter (·.name == name)).map (·.value)
  | none => []

end Remedy.Usage
