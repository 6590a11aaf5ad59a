import Remedy.Decimal.Layout
import Remedy.Toml.Text

/-! Values as they are written in a TOML document. -/

namespace Remedy.Toml

def longestRun (quote : Char) : Nat → List Char → Nat
  | n, [] => n
  | n, c :: cs => if c = quote then longestRun quote (n + 1) cs else max n (longestRun quote 0 cs)

def needsEscape (c : Char) : Bool := !(isPlain c || c = '\n')

def escaped (c : Char) : List Char :=
  if c = '"' then ['\\', '"']
  else if c = '\\' then ['\\', '\\']
  else if c = '\x08' then ['\\', 'b']
  else if c = '\t' then ['\\', 't']
  else if c = '\n' then ['\\', 'n']
  else if c = '\x0c' then ['\\', 'f']
  else if c = '\r' then ['\\', 'r']
  else if isPlain c then [c]
  else ['\\', 'u'] ++ (Text.Hex.digits 4 c.toNat).map Char.toUpper

/-- A text in the quotes that need no escapes, if there are such; plain double quotes are preferred, and
several lines take threefold quotes. -/
def quoted (s : String) : String :=
  let cs := s.toList
  let newline := cs.contains '\n'
  let escapes := cs.any needsEscape
  let lines := if newline then "\n" else ""
  if !escapes && !cs.contains '\\' && !cs.contains '"' && !newline then "\"" ++ s ++ "\""
  else if !escapes && !cs.contains '\'' && !newline then "'" ++ s ++ "'"
  else if !escapes && !cs.contains '\\' && longestRun '"' 0 cs ≤ 2 then "\"\"\"" ++ lines ++ s ++ "\"\"\""
  else if !escapes && longestRun '\'' 0 cs ≤ 2 then "'''" ++ lines ++ s ++ "'''"
  else "\"" ++ String.ofList (cs.flatMap escaped) ++ "\""

def boolText (b : Bool) : String := if b then "true" else "false"

def realText (x : Float) : String :=
  let s := Decimal.message.text x
  if x == x.floor then s ++ ".0" else s

def arrayText : List String → String
  | [] => "[]"
  | [item] => "[" ++ item ++ "]"
  | items => "[\n" ++ String.join (items.map fun i => "    " ++ i ++ ",\n") ++ "]"

def pairText (p : String × String) : String := p.1 ++ " = " ++ p.2 ++ "\n"

def tableText (name : String) (fields : List (String × String)) : String :=
  "[" ++ name ++ "]\n" ++ String.join (fields.map pairText)

end Remedy.Toml
