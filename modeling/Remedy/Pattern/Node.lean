import Remedy.Text.Ranges

/-! Patterns over text: what a pattern is, once its writing has been read. -/

namespace Remedy.Pattern

inductive Look where
  | textStart
  | textEnd
  | lineStart (crlf : Bool)
  | lineEnd (crlf : Bool)
  | wordEdge (unicode : Bool)
  | notWordEdge (unicode : Bool)
  | wordStart (unicode : Bool)
  | wordEnd (unicode : Bool)
  | wordStartHalf (unicode : Bool)
  | wordEndHalf (unicode : Bool)
  deriving DecidableEq, Repr

inductive Node where
  | empty
  /-- One character of a set. -/
  | one (set : Text.Ranges)
  | look (l : Look)
  /-- A group; with an index, its text is kept. -/
  | group (index? : Option Nat) (body : Node)
  | seq (first second : Node)
  | alt (first second : Node)
  | repeated (least : Nat) (most? : Option Nat) (greedy : Bool) (body : Node)
  deriving Repr, Inhabited

namespace Node

def canBeEmpty : Node → Bool
  | empty => true
  | one _ => false
  | look _ => true
  | group _ body => body.canBeEmpty
  | seq a b => a.canBeEmpty && b.canBeEmpty
  | alt a b => a.canBeEmpty || b.canBeEmpty
  | repeated least _ _ body => least = 0 || body.canBeEmpty

def isAlwaysEmpty : Node → Bool
  | empty => true
  | one _ => false
  | look _ => true
  | group _ body => body.isAlwaysEmpty
  | seq a b => a.isAlwaysEmpty && b.isAlwaysEmpty
  | alt a b => a.isAlwaysEmpty && b.isAlwaysEmpty
  | repeated _ most? _ body => most? == some 0 || body.isAlwaysEmpty

/-- A repetition. What never matches a character is repeated at most once. -/
def repeat_ (least : Nat) (most? : Option Nat) (greedy : Bool) (body : Node) : Node :=
  let (least, most?) := if body.isAlwaysEmpty then (min least 1, some (min (most?.getD 1) 1)) else (least, most?)
  if least = 0 && most? == some 0 then empty
  else if least = 1 && most? == some 1 then body
  else repeated least most? greedy body

def seqOf : List Node → Node
  | [] => empty
  | [n] => n
  | n :: rest => seq n (seqOf rest)

def altOf : List Node → Node
  | [] => empty
  | [n] => n
  | n :: rest => alt n (altOf rest)

end Node

inductive Fault where
  | unclosedGroup
  | unopenedGroup
  | unclosedClass
  | nothingToRepeat
  | badRepetition
  | badEscape
  | badClass
  | badRange
  | badFlag
  | badGroupName
  | unsupportedLook
  | unsupportedBackReference
  | notText
  | tooDeep
  | tooLarge
  deriving DecidableEq, Repr

def Fault.text : Fault → String
  | .unclosedGroup => "unclosed group"
  | .unopenedGroup => "unopened group"
  | .unclosedClass => "unclosed character class"
  | .nothingToRepeat => "repetition operator missing expression"
  | .badRepetition => "invalid repetition count"
  | .badEscape => "unrecognized escape sequence"
  | .badClass => "invalid character class"
  | .badRange => "invalid character class range"
  | .badFlag => "unrecognized flag"
  | .badGroupName => "invalid capture group name"
  | .unsupportedLook => "look-around is not supported"
  | .unsupportedBackReference => "backreferences are not supported"
  | .notText => "pattern can match invalid UTF-8"
  | .tooDeep => "nesting exceeds its limit"
  | .tooLarge => "compiled pattern exceeds its size limit"

structure Form where
  root : Node
  names : List (Option String)
  deriving Repr

end Remedy.Pattern
