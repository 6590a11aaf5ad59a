import Remedy.Pattern.Run

/-! Templates: texts in which `$name` and `${name}` stand for the groups of a match. -/

namespace Remedy.Captures

def isNameChar (c : Char) : Bool := c.isAlphanum || c = '_'

def named (c : Captures) (name : List Char) : List Char :=
  let index? := match Text.readUnsigned? UInt64.size name with
    | some n => some n
    | none => c.indexOf? (String.ofList name)
  match index?.bind c.get? with
  | some s => s.toList
  | none => []

def expandFrom (c : Captures) : Nat → List Char → List Char
  | 0, _ => []
  | _ + 1, [] => []
  | fuel + 1, '$' :: '$' :: rest => '$' :: expandFrom c fuel rest
  | fuel + 1, '$' :: '\x7b' :: rest =>
    match rest.dropWhile (· ≠ '\x7d') with
    | _ :: after => c.named (rest.takeWhile (· ≠ '\x7d')) ++ expandFrom c fuel after
    | [] => '$' :: expandFrom c fuel ('\x7b' :: rest)
  | fuel + 1, '$' :: rest =>
    match rest.takeWhile isNameChar with
    | [] => '$' :: expandFrom c fuel rest
    | name => c.named name ++ expandFrom c fuel (rest.dropWhile isNameChar)
  | fuel + 1, d :: rest => d :: expandFrom c fuel rest

def expand (c : Captures) (template : String) : String :=
  String.ofList (c.expandFrom (template.toList.length + 1) template.toList)

/-- A template filled in where there was a pattern to match, and left as it is where there was none. -/
def fill (captures? : Option Captures) (template : String) : String :=
  match captures? with
  | some c => c.expand template
  | none => template

end Remedy.Captures
