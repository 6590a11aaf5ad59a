import Remedy.Text.Basic

/-! What may stand on a command line: switches, values in their places, and commands within commands. -/

namespace Remedy.Usage

inductive Takes where
  | nothing
  /-- It may be repeated. -/
  | tally
  | value (isValid : String → Bool)
  /-- It asks for the usage and ends the reading. -/
  | help
  /-- It asks for the version and ends the reading. -/
  | version

structure Switch where
  long : String
  short? : Option Char
  takes : Takes

structure Operand where
  name : String
  isValid : String → Bool

inductive Grammar where
  | mk (switches : List Switch) (required : List String) (operands : List Operand)
    (commands : List (List String × Grammar))

namespace Grammar

def switches : Grammar → List Switch
  | mk s _ _ _ => s

def required : Grammar → List String
  | mk _ r _ _ => r

def operands : Grammar → List Operand
  | mk _ _ o _ => o

def commands : Grammar → List (List String × Grammar)
  | mk _ _ _ c => c

def long? (g : Grammar) (name : String) : Option Switch := g.switches.find? (·.long == name)

def short? (g : Grammar) (c : Char) : Option Switch := g.switches.find? (·.short? == some c)

def command? (g : Grammar) (name : String) : Option (String × Grammar) :=
  (g.commands.find? fun c => c.1.contains name).map fun c => (c.1.headD name, c.2)

end Grammar

inductive Word where
  /-- From here on every word is a value. -/
  | escape
  | long (name : String) (value? : Option String)
  | short (letters : List Char)
  | plain

/-- A single dash is a value. -/
def Word.of (s : String) : Word :=
  match s.toList with
  | ['-', '-'] => .escape
  | '-' :: '-' :: rest =>
    match Text.splitOnce? '=' rest with
    | some (name, value) => .long (String.ofList name) (some (String.ofList value))
    | none => .long (String.ofList rest) none
  | '-' :: c :: rest => .short (c :: rest)
  | _ => .plain

def isPlain (s : String) : Bool :=
  match Word.of s with
  | .plain => true
  | _ => false

end Remedy.Usage
