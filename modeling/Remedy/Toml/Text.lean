import Remedy.Text.Hex
import Remedy.Toml.Basic

/-! White space, comments and quoted texts in a TOML document. -/

namespace Remedy.Toml

def isSpace (c : Char) : Bool := c = ' ' || c = '\t'

def skipSpace (cs : List Char) : List Char := cs.dropWhile isSpace

def readNewline? : List Char → Option (List Char)
  | '\n' :: rest => some rest
  | '\r' :: '\n' :: rest => some rest
  | _ => none

def isPlain (c : Char) : Bool := c = '\t' || (32 ≤ c.toNat && c.toNat ≠ 127)

def skipComment (cs : List Char) : List Char :=
  match skipSpace cs with
  | '#' :: rest => rest.dropWhile isPlain
  | rest => rest

def readLineEnd? (cs : List Char) : Option (List Char) :=
  match skipComment cs with
  | [] => some []
  | rest => readNewline? rest

def skipVoid : Nat → List Char → List Char
  | 0, cs => cs
  | lines + 1, cs =>
    match readNewline? (skipComment cs) with
    | some rest => skipVoid lines rest
    | none => skipComment cs

def skipAllVoid (cs : List Char) : List Char := skipVoid cs.length cs

def readCodePoint? (digits : Nat) (cs : List Char) : Option (Char × List Char) := do
  if cs.length < digits then none
  let c ← (Text.Hex.number? (cs.take digits)).bind Text.Hex.charOf?
  return (c, cs.drop digits)

def readEscape? : List Char → Option (Char × List Char)
  | 'b' :: rest => some ('\x08', rest)
  | 't' :: rest => some ('\t', rest)
  | 'n' :: rest => some ('\n', rest)
  | 'f' :: rest => some ('\x0c', rest)
  | 'r' :: rest => some ('\r', rest)
  | 'e' :: rest => some ('\x1b', rest)
  | '"' :: rest => some ('"', rest)
  | '\\' :: rest => some ('\\', rest)
  | 'x' :: rest => readCodePoint? 2 rest
  | 'u' :: rest => readCodePoint? 4 rest
  | 'U' :: rest => readCodePoint? 8 rest
  | _ => none

def readBasic? : Nat → List Char → Option (List Char × List Char)
  | 0, _ => none
  | fuel + 1, cs =>
    match cs with
    | [] => none
    | '"' :: rest => some ([], rest)
    | '\\' :: rest => do
      let (c, rest) ← readEscape? rest
      let (text, rest) ← readBasic? fuel rest
      return (c :: text, rest)
    | c :: rest =>
      if isPlain c then (readBasic? fuel rest).map fun (text, rest) => (c :: text, rest) else none

def readLiteral? : List Char → Option (List Char × List Char)
  | [] => none
  | '\'' :: rest => some ([], rest)
  | c :: rest =>
    if isPlain c then (readLiteral? rest).map fun (text, rest) => (c :: text, rest) else none

/-- The end of a text in threefold quotes: up to two more quotes before the last three belong to the text. -/
def readClosing? (quote : Char) (cs : List Char) : Option (List Char × List Char) :=
  let run := (cs.takeWhile (· = quote)).length
  if run < 3 then none
  else
    let kept := min (run - 3) 2
    some (List.replicate kept quote, cs.drop (kept + 3))

def skipLayout : List Char → List Char
  | '\r' :: '\n' :: rest => skipLayout rest
  | c :: rest => if isSpace c || c = '\n' then skipLayout rest else c :: rest
  | [] => []

/-- A line ending escaped by a backslash takes the white space and the line endings after it along. -/
def skipFold? (cs : List Char) : Option (List Char) := (readNewline? (skipSpace cs)).map skipLayout

def readBasicLines? : Nat → List Char → Option (List Char × List Char)
  | 0, _ => none
  | fuel + 1, cs =>
    match readClosing? '"' cs with
    | some r => some r
    | none =>
      match cs with
      | [] => none
      | '\\' :: rest =>
        match skipFold? rest with
        | some rest => readBasicLines? fuel rest
        | none => do
          let (c, rest) ← readEscape? rest
          let (text, rest) ← readBasicLines? fuel rest
          return (c :: text, rest)
      | '\r' :: '\n' :: rest =>
        (readBasicLines? fuel rest).map fun (text, rest) => ('\r' :: '\n' :: text, rest)
      | c :: rest =>
        if isPlain c || c = '\n' then
          (readBasicLines? fuel rest).map fun (text, rest) => (c :: text, rest)
        else none

def readLiteralLines? : Nat → List Char → Option (List Char × List Char)
  | 0, _ => none
  | fuel + 1, cs =>
    match readClosing? '\'' cs with
    | some r => some r
    | none =>
      match cs with
      | [] => none
      | '\r' :: '\n' :: rest =>
        (readLiteralLines? fuel rest).map fun (text, rest) => ('\r' :: '\n' :: text, rest)
      | c :: rest =>
        if isPlain c || c = '\n' then
          (readLiteralLines? fuel rest).map fun (text, rest) => (c :: text, rest)
        else none

def dropFirstNewline (cs : List Char) : List Char := (readNewline? cs).getD cs

def readQuoted? (cs : List Char) : Option (List Char × List Char) :=
  match cs with
  | '"' :: '"' :: '"' :: rest => readBasicLines? (rest.length + 1) (dropFirstNewline rest)
  | '\'' :: '\'' :: '\'' :: rest => readLiteralLines? (rest.length + 1) (dropFirstNewline rest)
  | '"' :: rest => readBasic? (rest.length + 1) rest
  | '\'' :: rest => readLiteral? rest
  | _ => none

end Remedy.Toml
