import Remedy.Toml.Draft
import Remedy.Toml.Scalar
import Remedy.Toml.Text

/-! Reading a TOML document. -/

namespace Remedy.Toml

def isBareKey (c : Char) : Bool := c.isAlphanum || c = '_' || c = '-'

def readKey? (cs : List Char) : Option (String × List Char) :=
  match cs with
  | '"' :: rest => (readBasic? (rest.length + 1) rest).map fun (k, rest) => (String.ofList k, rest)
  | '\'' :: rest => (readLiteral? rest).map fun (k, rest) => (String.ofList k, rest)
  | _ =>
    match cs.takeWhile isBareKey with
    | [] => none
    | key => some (String.ofList key, cs.dropWhile isBareKey)

def readKeys? : Nat → List String → List Char → Option (List String × List Char)
  | 0, _, _ => none
  | fuel + 1, done, cs => do
    let (key, rest) ← readKey? (skipSpace cs)
    match skipSpace rest with
    | '.' :: rest => readKeys? fuel (key :: done) rest
    | rest => some (key :: done, rest)

def readPath? (cs : List Char) : Option (List String × String × List Char) :=
  match readKeys? (cs.length + 1) [] cs with
  | some (key :: before, rest) => some (before.reverse, key, rest)
  | _ => none

def isScalarChar (c : Char) : Bool := c.isAlphanum || c = '_' || c = '-' || c = '+' || c = '.' || c = ':'

def readTimeAfter (cs : List Char) : List Char :=
  match cs with
  | ' ' :: d :: rest => if d.isDigit then ' ' :: (d :: rest).takeWhile isScalarChar else []
  | _ => []

def readScalar? (cs : List Char) : Option (Toml × List Char) :=
  let word := cs.takeWhile isScalarChar
  let rest := cs.dropWhile isScalarChar
  match readDate? word with
  | some (_, []) =>
    let time := readTimeAfter rest
    (scalar? (word ++ time)).map fun v => (v, rest.drop time.length)
  | _ => (scalar? word).map fun v => (v, rest)

def readItems? {α : Type} (item : List Char → Option (α × List Char)) (stop : Char) :
    Nat → List Char → Option (List α × List Char)
  | 0, _ => none
  | fuel + 1, cs =>
    match skipAllVoid cs with
    | [] => none
    | c :: rest =>
      if c = stop then some ([], rest)
      else do
        let (a, rest) ← item (c :: rest)
        match skipAllVoid rest with
        | ',' :: rest =>
          let (others, rest) ← readItems? item stop fuel rest
          return (a :: others, rest)
        | d :: rest => if d = stop then some ([a], rest) else none
        | [] => none

def readPair? (value : List Char → Option (Draft × List Char)) (cs : List Char) :
    Option ((List String × String × Draft) × List Char) := do
  let (path, key, rest) ← readPath? cs
  match rest with
  | '=' :: rest =>
    let (v, rest) ← value (skipSpace rest)
    return ((path, key, v), rest)
  | _ => none

def insertPairs : List (List String × String × Draft) → Fields → Option Fields
  | [], fields => some fields
  | (path, key, v) :: rest, fields => do
    let (_, fields) ← Draft.insertPair path key v .inline fields
    insertPairs rest fields

def depthLimit : Nat := 80

/-- A value at the front of a text; arrays and tables in braces may nest `depth` deep. -/
def readValue? : Nat → List Char → Option (Draft × List Char)
  | depth, cs =>
    match cs with
    | '"' :: _ | '\'' :: _ => (readQuoted? cs).map fun (s, rest) => (.leaf (.str (String.ofList s)), rest)
    | '[' :: rest =>
      match depth with
      | 0 => none
      | depth + 1 =>
        (readItems? (readValue? depth) ']' (rest.length + 1) rest).map fun (items, rest) => (.array items, rest)
    | '\x7b' :: rest =>
      match depth with
      | 0 => none
      | depth + 1 => do
        let (pairs, rest) ← readItems? (readPair? (readValue? depth)) '\x7d' (rest.length + 1) rest
        return (.table .inline (← insertPairs pairs []), rest)
    | _ => (readScalar? cs).map fun (v, rest) => (.leaf v, rest)

/-- The document so far and the path of the table that pairs go to. -/
structure Progress where
  root : Fields
  here : List String

namespace Progress

def insert (p : Progress) (path : List String) (key : String) (v : Draft) : Option Progress := do
  let (_, root) ← Draft.within false (Draft.insertPair path key v) p.here .header p.root
  return { p with root := root }

def openTable (p : Progress) (path : List String) (key : String) : Option Progress := do
  let (_, root) ← Draft.openTable path key .header p.root
  return ⟨root, path ++ [key]⟩

def openItem (p : Progress) (path : List String) (key : String) : Option Progress := do
  let (_, root) ← Draft.openItem path key .header p.root
  return ⟨root, path ++ [key]⟩

def statement? (p : Progress) (cs : List Char) : Option (Progress × List Char) :=
  match cs with
  | '[' :: '[' :: rest => do
    let (path, key, rest) ← readPath? rest
    match rest with
    | ']' :: ']' :: rest => return (← p.openItem path key, ← readLineEnd? rest)
    | _ => none
  | '[' :: rest => do
    let (path, key, rest) ← readPath? rest
    match rest with
    | ']' :: rest => return (← p.openTable path key, ← readLineEnd? rest)
    | _ => none
  | _ => do
    let ((path, key, v), rest) ← readPair? (readValue? depthLimit) cs
    return (← p.insert path key v, ← readLineEnd? rest)

def statements? : Nat → Progress → List Char → Option Progress
  | 0, _, _ => none
  | fuel + 1, p, cs =>
    match skipAllVoid cs with
    | [] => some p
    | cs => do
      let (p, rest) ← p.statement? cs
      statements? fuel p rest

end Progress

def dropMark : List Char → List Char
  | '\ufeff' :: rest => rest
  | cs => cs

def parse? (s : String) : Option Toml :=
  (Progress.statements? (s.length + 1) ⟨[], []⟩ (dropMark s.toList)).map fun p =>
    .table (Draft.finishFields p.root)

end Remedy.Toml
