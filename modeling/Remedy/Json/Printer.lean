import Remedy.Json.Basic
import Remedy.Decimal.Layout
import Remedy.Text.Hex

/-! JSON values as text, on one line or indented by two spaces. -/

namespace Remedy.Json

def escaped (c : Char) : List Char :=
  if c = '"' then ['\\', '"']
  else if c = '\\' then ['\\', '\\']
  else if c = '\x08' then ['\\', 'b']
  else if c = '\x0c' then ['\\', 'f']
  else if c = '\n' then ['\\', 'n']
  else if c = '\r' then ['\\', 'r']
  else if c = '\t' then ['\\', 't']
  else if c.toNat < 32 then ['\\', 'u'] ++ Text.Hex.digits 4 c.toNat
  else [c]

def quoted (s : String) : String :=
  String.ofList ('"' :: s.toList.flatMap escaped ++ ['"'])

def realText (x : Float) : String := Decimal.document.text x

mutual

def compact : Json → String
  | null | unfit => "null"
  | bool b => if b then "true" else "false"
  | nat n => toString n.toNat
  | neg n => toString n.toInt
  | real x => realText x
  | str s => quoted s
  | arr items => "[" ++ String.intercalate "," (compactItems items) ++ "]"
  | obj fields => "\x7b" ++ String.intercalate "," (compactFields fields) ++ "\x7d"

def compactItems : List Json → List String
  | [] => []
  | j :: rest => compact j :: compactItems rest

def compactFields : List (String × Json) → List String
  | [] => []
  | (key, j) :: rest => (quoted key ++ ":" ++ compact j) :: compactFields rest

end

def newline (depth : Nat) : String := "\n" ++ "".pushn ' ' (2 * depth)

mutual

def prettyAt (depth : Nat) : Json → String
  | null | unfit => "null"
  | bool b => if b then "true" else "false"
  | nat n => toString n.toNat
  | neg n => toString n.toInt
  | real x => realText x
  | str s => quoted s
  | arr [] => "[]"
  | arr (j :: rest) =>
    "[" ++ String.intercalate "," (prettyItems (depth + 1) (j :: rest)) ++ newline depth ++ "]"
  | obj [] => "\x7b\x7d"
  | obj (f :: rest) =>
    "\x7b" ++ String.intercalate "," (prettyFields (depth + 1) (f :: rest)) ++ newline depth ++ "\x7d"

def prettyItems (depth : Nat) : List Json → List String
  | [] => []
  | j :: rest => (newline depth ++ prettyAt depth j) :: prettyItems depth rest

def prettyFields (depth : Nat) : List (String × Json) → List String
  | [] => []
  | (key, j) :: rest => (newline depth ++ quoted key ++ ": " ++ prettyAt depth j) :: prettyFields depth rest

end

def pretty (j : Json) : String := prettyAt 0 j

end Remedy.Json
