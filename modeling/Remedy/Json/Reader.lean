import Remedy.Json.Number
import Remedy.Text.Hex

/-! Reading a JSON text. A strict reader takes only values. A lenient one goes by their form and leaves it to those who
look at a value whether it is one, as a record passes over the fields it does not know. -/

namespace Remedy.Json

def isSpace (c : Char) : Bool := c = ' ' || c = '\n' || c = '\t' || c = '\r'

inductive Strictness where
  | strict
  | lenient
  deriving DecidableEq, Repr

/-- What was read, or else, for a lenient reader, what follows the form of it. -/
def Strictness.orSkip {α : Type} (s : Strictness) (read : Option (α × List Char)) (skipped : Option (List Char)) :
    Option (Option α × List Char) :=
  match read, s with
  | some (a, rest), _ => some (some a, rest)
  | none, strict => none
  | none, lenient => skipped.map fun rest => (none, rest)

def skipSpace (cs : List Char) : List Char := cs.dropWhile isSpace

def isHighSurrogate (n : Nat) : Bool := 0xD800 ≤ n && n < 0xDC00

def isLowSurrogate (n : Nat) : Bool := 0xDC00 ≤ n && n < 0xE000

def shortEscape? : Char → Option Char
  | '"' => some '"'
  | '\\' => some '\\'
  | '/' => some '/'
  | 'b' => some '\x08'
  | 'f' => some '\x0c'
  | 'n' => some '\n'
  | 'r' => some '\r'
  | 't' => some '\t'
  | _ => none

/-- The text up to the closing quote, and what follows it. Control characters must be escaped, and
surrogates come in pairs. -/
def readText? : List Char → Option (List Char × List Char)
  | [] => none
  | '"' :: rest => some ([], rest)
  | '\\' :: 'u' :: a :: b :: c :: d :: rest =>
    match Text.Hex.number? [a, b, c, d] with
    | none => none
    | some n =>
      if isLowSurrogate n then none
      else if isHighSurrogate n then
        match rest with
        | '\\' :: 'u' :: e :: f :: g :: h :: rest =>
          match Text.Hex.number? [e, f, g, h] with
          | some m =>
            if isLowSurrogate m then
              (readText? rest).map fun (t, r) =>
                (Char.ofNat (0x10000 + (n - 0xD800) * 0x400 + (m - 0xDC00)) :: t, r)
            else none
          | none => none
        | _ => none
      else (readText? rest).map fun (t, r) => (Char.ofNat n :: t, r)
  | '\\' :: c :: rest =>
    match shortEscape? c with
    | some e => (readText? rest).map fun (t, r) => (e :: t, r)
    | none => none
  | c :: rest =>
    if c.toNat < 32 || c = '\\' then none else (readText? rest).map fun (t, r) => (c :: t, r)

/-- What follows the closing quote of a text, whether or not its surrogates come in pairs. -/
def skipText? : List Char → Option (List Char)
  | [] => none
  | '"' :: rest => some rest
  | '\\' :: 'u' :: a :: b :: c :: d :: rest =>
    if (Text.Hex.number? [a, b, c, d]).isSome then skipText? rest else none
  | '\\' :: c :: rest => if (shortEscape? c).isSome then skipText? rest else none
  | c :: rest => if c.toNat < 32 || c = '\\' then none else skipText? rest

def readItems? {α : Type} (item : List Char → Option (α × List Char)) (stop : Char) :
    Nat → List Char → Option (List α × List Char)
  | 0, _ => none
  | fuel + 1, cs =>
    match item cs with
    | none => none
    | some (a, rest) =>
      match skipSpace rest with
      | ',' :: rest => (readItems? item stop fuel (skipSpace rest)).map fun (as, r) => (a :: as, r)
      | c :: rest => if c = stop then some ([a], rest) else none
      | [] => none

def readField? (s : Strictness) (value : List Char → Option (Json × List Char)) :
    List Char → Option (Option (String × Json) × List Char)
  | '"' :: cs =>
    match s.orSkip (readText? cs) (skipText? cs) with
    | none => none
    | some (key?, rest) =>
      match skipSpace rest with
      | ':' :: rest => (value (skipSpace rest)).map fun (j, r) => (key?.map fun key => (String.ofList key, j), r)
      | _ => none
  | _ => none

def ofFields (fields : List (Option (String × Json))) : Json := ((fields.mapM id).map obj).getD unfit

/-- A value at the front of the text; arrays and objects may nest `depth` deep. -/
def readValue? (s : Strictness) : Nat → List Char → Option (Json × List Char)
  | depth, cs =>
    match cs with
    | 'n' :: 'u' :: 'l' :: 'l' :: rest => some (null, rest)
    | 't' :: 'r' :: 'u' :: 'e' :: rest => some (bool true, rest)
    | 'f' :: 'a' :: 'l' :: 's' :: 'e' :: rest => some (bool false, rest)
    | '"' :: rest =>
      (s.orSkip (readText? rest) (skipText? rest)).map fun (t?, r) =>
        ((t?.map fun t => str (String.ofList t)).getD unfit, r)
    | '[' :: rest =>
      match depth with
      | 0 => none
      | depth + 1 =>
        match skipSpace rest with
        | ']' :: rest => some (arr [], rest)
        | rest => (readItems? (readValue? s depth) ']' rest.length rest).map fun (items, r) => (arr items, r)
    | '\x7b' :: rest =>
      match depth with
      | 0 => none
      | depth + 1 =>
        match skipSpace rest with
        | '\x7d' :: rest => some (obj [], rest)
        | rest =>
          (readItems? (readField? s (readValue? s depth)) '\x7d' rest.length rest).map fun (fields, r) =>
            (ofFields fields, r)
    | cs => (s.orSkip (readNumber? cs) (skipNumber? cs)).map fun (j?, r) => (j?.getD unfit, r)

def readWhole? (s : Strictness) (depth : Nat) (cs : List Char) : Option Json :=
  match readValue? s depth (skipSpace cs) with
  | some (j, rest) => if (skipSpace rest).isEmpty then some j else none
  | none => none

/-- The deepest nesting of arrays and objects that a strict reader takes. -/
def depthLimit : Nat := 127

def parse? (text : String) : Option Json := readWhole? .strict depthLimit text.toList

/-- The value of a text of which not all need be read. No text nests deeper than it is long. -/
def scan? (text : String) : Option Json := readWhole? .lenient text.length text.toList

end Remedy.Json
