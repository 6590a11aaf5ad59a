import Remedy.Text.Alphanumeric
import Remedy.Text.Basic

/-! Variables of the environment, and files that set them line by line as a shell would: names, an equals
sign, and values in either kind of quotes or none, with escapes and references to other variables. -/

namespace Remedy

abbrev Environment := List (String × String)

namespace Environment

def get? (env : Environment) (name : String) : Option String := (env.find? (·.1 == name)).map Prod.snd

def blockTexts (bytes : List UInt8) : List String :=
  (Text.split 0 bytes).filterMap fun piece => String.fromUTF8? (ByteArray.mk piece.toArray)

def ofBlock (bytes : List UInt8) : Environment :=
  (blockTexts bytes).filterMap fun s => (Text.splitOnce? '=' s.toList).map fun (name, value) =>
    (String.ofList name, String.ofList value)

def setIfMissing (env : Environment) (name value : String) : Environment :=
  if (env.get? name).isSome then env else env ++ [(name, value)]

/-! Statements. One may run over several lines when a quote is open. -/

inductive Mark where
  | complete
  | escape
  | strong
  | strongEscape
  | weak
  | weakEscape
  | blank
  deriving DecidableEq, Repr

def opening (c : Char) : Mark :=
  if c = '\\' then .escape else if c = '"' then .weak else if c = '\'' then .strong else .complete

def Mark.next (m : Mark) (c : Char) : Mark :=
  match m with
  | .blank => opening c
  | .escape => .complete
  | .complete => if Text.isBlank c && c ≠ '\n' && c ≠ '\r' then .blank else opening c
  | .weak => if c = '\\' then .weakEscape else if c = '"' then .complete else .weak
  | .weakEscape => .weak
  | .strong => if c = '\\' then .strongEscape else if c = '\'' then .complete else .strong
  | .strongEscape => .strong

inductive Ending where
  | open (m : Mark)
  | comment (before : List Char)
  deriving DecidableEq, Repr

def endingFrom (m : Mark) (passed : List Char) : List Char → Ending
  | [] => .open m
  | c :: cs =>
    if m = .blank && c = '#' then .comment passed.reverse
    else endingFrom (m.next c) (c :: passed) cs

def dropNewline (cs : List Char) : List Char :=
  match cs.reverse with
  | '\n' :: '\r' :: rest => rest.reverse
  | '\n' :: rest => rest.reverse
  | _ => cs

/-- The statements of lines that keep their line endings; `none` at the end if the last is not complete. -/
def statements (m : Mark) (begun : List Char) : List (List Char) → List (Option (List Char))
  | [] => if m = .complete then [] else [none]
  | line :: rest =>
    let all := begun ++ line
    if (Text.trimStart all).head? = some '#' then some [] :: statements .complete [] rest
    else
      match endingFrom m [] line with
      | .comment before => some (begun ++ before) :: statements .complete [] rest
      | .open .complete => some (dropNewline all) :: statements .complete [] rest
      | .open m => statements m all rest

def keptLines : List (List Char) → List (List Char)
  | [] => []
  | [last] => if last.isEmpty then [] else [last]
  | line :: rest => (line ++ ['\n']) :: keptLines rest

/-! Values. -/

inductive Reference where
  | none
  | bare
  | braced
  deriving DecidableEq, Repr

structure Scan where
  strong : Bool
  weak : Bool
  escaped : Bool
  /-- Only blanks and a comment may follow. -/
  ending : Bool
  reference : Reference
  /-- The name of the variable so far. -/
  name : List Char
  output : List Char

def Scan.start : Scan := ⟨false, false, false, false, .none, [], []⟩

def unescape? (c : Char) : Option Char :=
  if c = 'n' then some '\n'
  else if c = '\\' || c = '\'' || c = '"' || c = '$' || c = ' ' then some c
  else none

def Scan.resolve (s : Scan) (env : Environment) : Scan :=
  { s with output := s.output ++ ((env.get? (String.ofList s.name)).getD "").toList, name := [] }

def Scan.refer (env : Environment) (s : Scan) (c : Char) : Scan :=
  if Text.isAlphanumeric c then { s with name := s.name ++ [c] }
  else
    match s.reference with
    | .braced =>
      if c = '\x7d' then { s.resolve env with reference := .none } else { s with name := s.name ++ [c] }
    | _ =>
      if c = '\x7b' && s.name.isEmpty then { s with reference := .braced }
      else if c = '$' then { s.resolve env with reference := .bare }
      else { s.resolve env with reference := .none, output := (s.resolve env).output ++ [c] }

def Scan.run (env : Environment) (s : Scan) : List Char → Option Scan
  | [] => some s
  | c :: cs =>
    if s.ending then
      if c = ' ' || c = '\t' then run env s cs else if c = '#' then some s else none
    else if s.escaped then do
      run env { s with escaped := false, output := s.output ++ [← unescape? c] } cs
    else if s.strong then
      run env (if c = '\'' then { s with strong := false } else { s with output := s.output ++ [c] }) cs
    else if s.reference ≠ .none then run env (s.refer env c) cs
    else if c = '$' then run env { s with reference := .bare } cs
    else if c = '\\' then run env { s with escaped := true } cs
    else if s.weak then
      run env (if c = '"' then { s with weak := false } else { s with output := s.output ++ [c] }) cs
    else if c = '\'' then run env { s with strong := true } cs
    else if c = '"' then run env { s with weak := true } cs
    else if c = ' ' || c = '\t' then run env { s with ending := true } cs
    else run env { s with output := s.output ++ [c] } cs

def value? (env : Environment) (cs : List Char) : Option String := do
  let s ← Scan.start.run env cs
  if s.reference = .braced || s.strong || s.weak then none
  else some (String.ofList (s.resolve env).output)

def isNameStart (c : Char) : Bool := c.isAlpha || c = '_'

def isNameChar (c : Char) : Bool := c.isAlphanum || c = '_' || c = '.'

def readName? (cs : List Char) : Option (String × List Char) :=
  match cs with
  | c :: _ =>
    if isNameStart c then
      some (String.ofList (cs.takeWhile isNameChar), Text.trimStart (cs.dropWhile isNameChar))
    else none
  | [] => none

def readEquals? : List Char → Option (List Char)
  | '=' :: rest => some rest
  | _ => none

/-- The name of a statement and its value's characters. The word `export` may stand in front. -/
def readTarget? (cs : List Char) : Option (String × List Char) := do
  let (name, rest) ← readName? cs
  match name, readEquals? rest with
  | "export", none =>
    let (name, rest) ← readName? rest
    return (name, ← readEquals? rest)
  | _, some rest => some (name, rest)
  | _, none => none

def isVoid (cs : List Char) : Bool := cs.isEmpty || cs.head? = some '#'

def execute (env : Environment) (statement : List Char) : Option Environment :=
  let cs := Text.trimStart (Text.trimEnd statement)
  if isVoid cs then some env
  else do
    let (name, rest) ← readTarget? cs
    let rest := Text.trimStart rest
    return env.setIfMissing name (← if isVoid rest then some "" else value? env rest)

def executeAll (env : Environment) : List (Option (List Char)) → Environment
  | [] => env
  | none :: _ => env
  | some s :: rest =>
    match execute env s with
    | some env => executeAll env rest
    | none => env

def dropMark : List Char → List Char
  | '\ufeff' :: rest => rest
  | cs => cs

def load (env : Environment) (text : String) : Environment :=
  executeAll env (statements .complete [] (keptLines (Text.split '\n' (dropMark text.toList))))

end Environment

end Remedy
