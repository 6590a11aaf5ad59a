import Remedy.Pattern.Node
import Remedy.Text.Hex
import Remedy.Unicode.Lookup

/-! The place a reader of patterns has come to, and the pieces that stand in and outside of classes. -/

namespace Remedy.Pattern

structure Flags where
  ignoreCase : Bool
  multiLine : Bool
  dotAll : Bool
  swapGreed : Bool
  unicode : Bool
  crlf : Bool
  spaced : Bool
  deriving DecidableEq, Repr

def Flags.initial : Flags := ⟨false, false, false, false, true, false, false⟩

structure Cursor where
  rest : List Char
  flags : Flags
  /-- Names of the groups opened so far, the latest first. -/
  names : List (Option String)

namespace Cursor

def skipLine (cs : List Char) : List Char := (cs.dropWhile (· ≠ '\n')).drop 1

def skipSpaced : Nat → List Char → List Char
  | 0, cs => cs
  | _ + 1, [] => []
  | fuel + 1, c :: cs =>
    if Text.isBlank c then skipSpaced fuel cs
    else if c = '#' then skipSpaced fuel (skipLine cs)
    else c :: cs

def skip (cur : Cursor) : Cursor :=
  if cur.flags.spaced then { cur with rest := skipSpaced cur.rest.length cur.rest } else cur

def at_ (cur : Cursor) (rest : List Char) : Cursor := { cur with rest := rest }

def moved (cur : Cursor) (rest : List Char) : Cursor := (cur.at_ rest).skip

end Cursor

inductive Piece where
  /-- A character; `byte` if it was written as two hexadecimal digits. -/
  | literal (c : Char) (byte : Bool)
  /-- A class of its own. -/
  | set (set : Text.Ranges)
  | look (l : Look)

def perlSet (unicode : Bool) (kind : Char) : Text.Ranges :=
  match unicode, kind with
  | true, 'd' => Unicode.digit
  | true, 's' => Unicode.blank
  | true, _ => Unicode.word
  | false, 'd' => [(48, 57)]
  | false, 's' => [(9, 13), (32, 32)]
  | false, _ => [(48, 57), (65, 90), (95, 95), (97, 122)]

/-- The points outside a set. Without Unicode these are bytes, and bytes above 127 are no text. -/
def negated (unicode : Bool) (set : Text.Ranges) : Except Fault Text.Ranges :=
  if unicode then .ok (Text.Ranges.complement Text.Ranges.lastPoint set)
  else
    let set := Text.Ranges.complement 255 set
    if set.isAscii then .ok set else .error .notText

def folded (flags : Flags) (set : Text.Ranges) : Text.Ranges :=
  if flags.ignoreCase then (if flags.unicode then Unicode.fold set else Unicode.foldAscii set) else set

def isEscapable (c : Char) : Bool :=
  c.toNat < 128 && !c.isAlphanum && c ≠ '<' && c ≠ '>'

def takeChars : Nat → Cursor → Option (List Char × Cursor)
  | 0, cur => some ([], cur)
  | n + 1, cur =>
    match cur.rest with
    | [] => none
    | c :: rest => (takeChars n (cur.moved rest)).map fun (cs, cur) => (c :: cs, cur)

def takeUntil (stop : Char) : Nat → Cursor → Option (List Char × Cursor)
  | 0, _ => none
  | fuel + 1, cur =>
    match cur.rest with
    | [] => none
    | c :: rest =>
      if c = stop then some ([], cur.at_ rest)
      else (takeUntil stop fuel (cur.moved rest)).map fun (cs, cur) => (c :: cs, cur)

def readHex (width : Nat) (cur : Cursor) : Except Fault (Piece × Cursor) :=
  let cur := cur.skip
  match cur.rest with
  | '\x7b' :: rest =>
    match takeUntil '\x7d' (rest.length + 1) (cur.moved rest) with
    | none => .error .badEscape
    | some (digits, cur) =>
      if digits.isEmpty then .error .badEscape
      else
        match (Text.Hex.number? digits).bind Text.Hex.charOf? with
        | some c => .ok (.literal c false, cur)
        | none => .error .badEscape
  | _ =>
    match takeChars width cur with
    | none => .error .badEscape
    | some (digits, cur) =>
      match (Text.Hex.number? digits).bind Text.Hex.charOf? with
      | some c => .ok (.literal c (width = 2), cur)
      | none => .error .badEscape

def splitName? (mark : List Char) : List Char → Option (List Char × List Char)
  | [] => none
  | c :: cs =>
    if mark.isPrefixOf (c :: cs) then some ([], (c :: cs).drop mark.length)
    else (splitName? mark cs).map fun (a, b) => (c :: a, b)

def propertySet? (cs : List Char) : Option (Text.Ranges × Bool) :=
  let value (parts : List Char × List Char) :=
    Unicode.valued? (String.ofList parts.1) (String.ofList parts.2)
  match splitName? ['!', '='] cs, splitName? [':'] cs, splitName? ['='] cs with
  | some parts, _, _ => (value parts).map (·, true)
  | none, some parts, _ => (value parts).map (·, false)
  | none, none, some parts => (value parts).map (·, false)
  | none, none, none => (Unicode.named? (String.ofList cs)).map (·, false)

def readProperty (negative : Bool) (cur : Cursor) : Except Fault (Piece × Cursor) := do
  let cur := cur.skip
  let (name, cur) ← match cur.rest with
    | [] => throw .badEscape
    | '\x7b' :: rest =>
      match takeUntil '\x7d' (rest.length + 1) (cur.moved rest) with
      | none => throw .badEscape
      | some found => pure found
    | '\\' :: _ => throw .badClass
    | c :: rest => pure ([c], cur.moved rest)
  if !cur.flags.unicode then throw .badClass
  match propertySet? name with
  | none => throw .badClass
  | some (set, inverse) =>
    let set := folded cur.flags set
    if negative != inverse then return (.set (← negated true set), cur) else return (.set set, cur)

def readWordEdge (cur : Cursor) : Except Fault (Piece × Cursor) :=
  let plain := .ok (.look (.wordEdge cur.flags.unicode), cur)
  match cur.rest with
  | '\x7b' :: rest =>
    let inner := cur.moved rest
    match inner.rest with
    | [] => .error .badEscape
    | c :: _ =>
      if !(c.isAlpha || c = '-') then plain
      else
        match takeUntil '\x7d' (inner.rest.length + 1) inner with
        | none => .error .badEscape
        | some (name, after) =>
          match String.ofList name with
          | "start" => .ok (.look (.wordStart cur.flags.unicode), after)
          | "end" => .ok (.look (.wordEnd cur.flags.unicode), after)
          | "start-half" => .ok (.look (.wordStartHalf cur.flags.unicode), after)
          | "end-half" => .ok (.look (.wordEndHalf cur.flags.unicode), after)
          | _ => .error .badEscape
  | _ => plain

def readEscape (cur : Cursor) : Except Fault (Piece × Cursor) :=
  let unicode := cur.flags.unicode
  match cur.rest with
  | [] => .error .badEscape
  | c :: rest =>
    let cur := cur.at_ rest
    let literal (c : Char) : Except Fault (Piece × Cursor) := .ok (.literal c false, cur)
    let look (l : Look) : Except Fault (Piece × Cursor) := .ok (.look l, cur)
    if c.isDigit then .error .unsupportedBackReference
    else if isEscapable c then literal c
    else
      match c with
      | 'x' => readHex 2 cur
      | 'u' => readHex 4 cur
      | 'U' => readHex 8 cur
      | 'p' => readProperty false cur
      | 'P' => readProperty true cur
      | 'd' | 's' | 'w' => .ok (.set (perlSet unicode c), cur)
      | 'D' | 'S' | 'W' => do return (.set (← negated unicode (perlSet unicode c.toLower)), cur)
      | 'a' => literal '\x07'
      | 'f' => literal '\x0c'
      | 't' => literal '\t'
      | 'n' => literal '\n'
      | 'r' => literal '\r'
      | 'v' => literal '\x0b'
      | 'A' => look .textStart
      | 'z' => look .textEnd
      | 'B' => look (.notWordEdge unicode)
      | '<' => look (.wordStart unicode)
      | '>' => look (.wordEnd unicode)
      | 'b' => readWordEdge cur
      | _ => .error .badEscape

end Remedy.Pattern
