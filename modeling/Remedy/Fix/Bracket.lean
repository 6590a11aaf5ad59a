/-! Brackets of program text outside of string literals and line comments, and whether they nest. -/

namespace Remedy.Bracket

inductive Mode where
  | code
  | quoted (quote : Char)
  /-- After a backslash inside a literal. -/
  | escaped (quote : Char)
  | comment
  deriving DecidableEq, Repr

def isQuote (c : Char) : Bool := c = '"' || c = '\'' || c = '\x60'

def isOpen (c : Char) : Bool := c = '(' || c = '[' || c = '\x7b'

def isClose (c : Char) : Bool := c = ')' || c = ']' || c = '\x7d'

def modeAfter (c : Char) (following : List Char) : Mode :=
  if isQuote c then .quoted c
  else if c = '/' && following.head? == some '/' then .comment
  else .code

def bracketsFrom : Mode → List Char → List Char
  | _, [] => []
  | .code, c :: cs =>
    if isOpen c || isClose c then c :: bracketsFrom .code cs else bracketsFrom (modeAfter c cs) cs
  | .quoted q, c :: cs =>
    bracketsFrom (if c = '\\' then .escaped q else if c = q then .code else .quoted q) cs
  | .escaped q, _ :: cs => bracketsFrom (.quoted q) cs
  | .comment, c :: cs => bracketsFrom (if c = '\n' then .code else .comment) cs

def brackets (cs : List Char) : List Char := bracketsFrom .code cs

def partner (c : Char) : Char := if c = ')' then '(' else if c = ']' then '[' else '\x7b'

inductive Fault where
  | unmatched (c : Char)
  | unclosed (c : Char)
  deriving DecidableEq, Repr

/-- Goes through brackets with those still open, the innermost first. -/
def faultFrom : List Char → List Char → Option Fault
  | [], [] => none
  | c :: _, [] => some (.unclosed c)
  | stack, c :: cs =>
    if isOpen c then faultFrom (c :: stack) cs
    else
      match stack with
      | top :: below => if top = partner c then faultFrom below cs else some (.unmatched c)
      | [] => some (.unmatched c)

def fault? (cs : List Char) : Option Fault := faultFrom [] (brackets cs)

end Remedy.Bracket
