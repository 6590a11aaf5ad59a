import Remedy.Pattern.Cursor

/-! Character classes in brackets: ranges, classes by name, classes within classes, and operators on them. -/

namespace Remedy.Pattern

def posixClass? : String → Option Text.Ranges
  | "alnum" => some [(48, 57), (65, 90), (97, 122)]
  | "alpha" => some [(65, 90), (97, 122)]
  | "ascii" => some [(0, 127)]
  | "blank" => some [(9, 9), (32, 32)]
  | "cntrl" => some [(0, 31), (127, 127)]
  | "digit" => some [(48, 57)]
  | "graph" => some [(33, 126)]
  | "lower" => some [(97, 122)]
  | "print" => some [(32, 126)]
  | "punct" => some [(33, 47), (58, 64), (91, 96), (123, 126)]
  | "space" => some [(9, 13), (32, 32)]
  | "upper" => some [(65, 90)]
  | "word" => some [(48, 57), (65, 90), (95, 95), (97, 122)]
  | "xdigit" => some [(48, 57), (65, 70), (97, 102)]
  | _ => none

def readPosix? (cs : List Char) : Option (Text.Ranges × Bool × List Char) :=
  match cs with
  | ':' :: rest =>
    let (negative, rest) := match rest with
      | '^' :: rest => (true, rest)
      | _ => (false, rest)
    let name := rest.takeWhile (· ≠ ':')
    match rest.dropWhile (· ≠ ':') with
    | ':' :: ']' :: rest => (posixClass? (String.ofList name)).map fun set => (set, negative, rest)
    | _ => none
  | _ => none

inductive SetOp where
  | intersection
  | difference
  | symmetricDifference
  deriving DecidableEq, Repr

def SetOp.apply : SetOp → Text.Ranges → Text.Ranges → Text.Ranges
  | .intersection => Text.Ranges.intersection
  | .difference => Text.Ranges.difference
  | .symmetricDifference => Text.Ranges.symmetricDifference

def combine (flags : Flags) (pending? : Option (SetOp × Text.Ranges)) (set : Text.Ranges) : Text.Ranges :=
  match pending? with
  | none => set
  | some (op, first) => op.apply (folded flags first) (folded flags set)

/-- The end of a class: case is ignored before the class is negated. -/
def finishClass (flags : Flags) (negative : Bool) (set : Text.Ranges) : Except Fault Text.Ranges :=
  let set := Text.Ranges.normal (folded flags set)
  if negative then negated flags.unicode set
  else if flags.unicode || set.isAscii then .ok set
  else .error .notText

def readItem (cur : Cursor) : Except Fault (Piece × Cursor) :=
  match cur.rest with
  | [] => .error .unclosedClass
  | '\\' :: rest => readEscape (cur.at_ rest)
  | c :: rest => .ok (.literal c false, cur.at_ rest)

def pointOf (flags : Flags) : Piece → Except Fault Nat
  | .literal c byte =>
    if flags.unicode then .ok c.toNat
    else if c.toNat < 128 then .ok c.toNat
    else if byte then .error .notText
    else .error .badClass
  | _ => .error .badRange

def setOf (flags : Flags) (piece : Piece) : Except Fault Text.Ranges :=
  match piece with
  | .set set => .ok set
  | .look _ => .error .badEscape
  | .literal .. => (pointOf flags piece).map Text.Ranges.single

def readRange (cur : Cursor) : Except Fault (Text.Ranges × Cursor) := do
  let (first, cur) ← readItem cur
  let cur := cur.skip
  match cur.rest with
  | [] => throw .unclosedClass
  | '-' :: rest =>
    let ahead := (cur.moved rest).rest.head?
    if ahead == some ']' || ahead == some '-' then return (← setOf cur.flags first, cur)
    else if ahead == none then throw .unclosedClass
    else
      let (second, cur) ← readItem (cur.moved rest)
      let low ← pointOf cur.flags first
      let high ← pointOf cur.flags second
      if low ≤ high then return ([(low, high)], cur) else throw .badRange
  | _ => return (← setOf cur.flags first, cur)

def readOpening (cur : Cursor) : Except Fault (Bool × Text.Ranges × Cursor) :=
  let (negative, cur) := match cur.rest with
    | '^' :: rest => (true, cur.moved rest)
    | _ => (false, cur)
  let rec hyphens : Nat → Cursor → Nat × Cursor
    | 0, cur => (0, cur)
    | fuel + 1, cur =>
      match cur.rest with
      | '-' :: rest =>
        let (n, cur) := hyphens fuel (cur.moved rest)
        (n + 1, cur)
      | _ => (0, cur)
  let (count, cur) := hyphens cur.rest.length cur
  let set := if count = 0 then [] else Text.Ranges.single '-'.toNat
  match count, cur.rest with
  | _, [] => .error .unclosedClass
  | 0, ']' :: rest =>
    let cur := cur.moved rest
    if cur.rest.isEmpty then .error .unclosedClass else .ok (negative, Text.Ranges.single ']'.toNat, cur)
  | _, _ => .ok (negative, set, cur)

def readItems (inner : Cursor → Except Fault (Text.Ranges × Cursor)) (negative : Bool) :
    Nat → Option (SetOp × Text.Ranges) → Text.Ranges → Cursor → Except Fault (Text.Ranges × Cursor)
  | 0, _, _, _ => .error .unclosedClass
  | fuel + 1, pending?, set, cur =>
    let cur := cur.skip
    let operator (op : SetOp) (rest : List Char) :=
      readItems inner negative fuel (some (op, combine cur.flags pending? set)) [] (cur.at_ rest)
    match cur.rest with
    | [] => .error .unclosedClass
    | '[' :: rest =>
      match readPosix? rest with
      | some (named, inverse, rest) => do
        let named := folded cur.flags named
        let named ← if inverse then negated cur.flags.unicode named else pure named
        readItems inner negative fuel pending? (set ++ named) (cur.at_ rest)
      | none => do
        let (nested, cur) ← inner (cur.moved rest)
        readItems inner negative fuel pending? (set ++ nested) cur
    | ']' :: rest => do
      let whole ← finishClass cur.flags negative (combine cur.flags pending? (Text.Ranges.normal set))
      return (whole, cur.at_ rest)
    | '&' :: '&' :: rest => operator .intersection rest
    | '-' :: '-' :: rest => operator .difference rest
    | '~' :: '~' :: rest => operator .symmetricDifference rest
    | _ => do
      let (range, cur) ← readRange cur
      readItems inner negative fuel pending? (set ++ range) cur

/-- A class after its opening bracket; classes may nest `depth` deep. -/
def readClass : Nat → Cursor → Except Fault (Text.Ranges × Cursor)
  | 0, _ => .error .tooDeep
  | depth + 1, cur => do
    let (negative, set, cur) ← readOpening cur
    readItems (readClass depth) negative (cur.rest.length + 1) none set cur

end Remedy.Pattern
