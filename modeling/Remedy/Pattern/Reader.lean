import Remedy.Pattern.CharClass

/-! Reading a pattern. -/

namespace Remedy.Pattern

def depthLimit : Nat := 250

def flagOf? (value : Bool) (flags : Flags) : Char → Option Flags
  | 'i' => some { flags with ignoreCase := value }
  | 'm' => some { flags with multiLine := value }
  | 's' => some { flags with dotAll := value }
  | 'U' => some { flags with swapGreed := value }
  | 'u' => some { flags with unicode := value }
  | 'R' => some { flags with crlf := value }
  | 'x' => some { flags with spaced := value }
  | _ => none

def readFlags : List Char → Bool → List Char → Flags → Except Fault (List Char × Flags × Char × List Char)
  | _, _, [], _ => .error .badFlag
  | seen, value, c :: cs, flags =>
    if c = ':' || c = ')' then
      if seen.head? == some '-' then .error .badFlag else .ok (seen, flags, c, cs)
    else if seen.contains c then .error .badFlag
    else if c = '-' then readFlags (c :: seen) false cs flags
    else
      match flagOf? value flags c with
      | some flags => readFlags (c :: seen) value cs flags
      | none => .error .badFlag

def isNameChar (first : Bool) (c : Char) : Bool :=
  if first then c = '_' || (Text.isAlphanumeric c && !Unicode.numeric.has c.toNat)
  else c = '_' || c = '.' || c = '[' || c = ']' || Text.isAlphanumeric c

def readName? (cs : List Char) : Option (String × List Char) :=
  let name := cs.takeWhile (· ≠ '>')
  match name, cs.dropWhile (· ≠ '>') with
  | c :: more, '>' :: rest =>
    if isNameChar true c && more.all (isNameChar false) then some (String.ofList name, rest) else none
  | _, _ => none

def readCount? (cur : Cursor) : Option (Nat × Cursor) :=
  let cur := cur.at_ (Text.trimStart cur.rest)
  let rec digits : Nat → Cursor → List Char × Cursor
    | 0, cur => ([], cur)
    | fuel + 1, cur =>
      match cur.rest with
      | c :: rest =>
        if c.isDigit then
          let (ds, cur) := digits fuel (cur.moved rest)
          (c :: ds, cur)
        else ([], cur)
      | [] => ([], cur)
  let (ds, cur) := digits cur.rest.length cur
  match Text.readNat? ds with
  | some n =>
    if n < UInt32.size then some (n, (cur.at_ (Text.trimStart cur.rest)).skip) else none
  | none => none

def readBounds (cur : Cursor) : Except Fault (Nat × Option Nat × Cursor) :=
  let close (least : Nat) (most? : Option Nat) (cur : Cursor) :=
    match cur.rest with
    | '\x7d' :: rest =>
      if most?.any (· < least) then .error .badRepetition else .ok (least, most?, cur.at_ rest)
    | _ => .error .badRepetition
  match readCount? cur with
  | none => .error .badRepetition
  | some (least, cur) =>
    match cur.rest with
    | ',' :: rest =>
      let cur := cur.moved rest
      match cur.rest with
      | '\x7d' :: _ => close least none cur
      | _ =>
        match readCount? cur with
        | some (most, cur) => close least (some most) cur
        | none => .error .badRepetition
    | _ => close least (some least) cur

def readGreed (cur : Cursor) : Bool × Cursor :=
  match cur.rest with
  | '?' :: rest => (cur.flags.swapGreed, cur.at_ rest)
  | _ => (!cur.flags.swapGreed, cur)

def dotSet (flags : Flags) : Except Fault Text.Ranges :=
  if !flags.unicode then .error .notText
  else if flags.dotAll then .ok [(0, Text.Ranges.lastPoint)]
  else if flags.crlf then negated true [(10, 10), (13, 13)]
  else negated true [(10, 10)]

def literalNode (flags : Flags) (c : Char) (byte : Bool) : Except Fault Node :=
  if !flags.unicode && byte && 127 < c.toNat then .error .notText
  else if !flags.unicode && 127 < c.toNat then .ok (.one (Text.Ranges.single c.toNat))
  else .ok (.one (folded flags (Text.Ranges.single c.toNat)))

def pieceNode (flags : Flags) : Piece → Except Fault Node
  | .literal c byte => literalNode flags c byte
  | .set set => .ok (.one set)
  | .look l => .ok (.look l)

/-- How a group begins: flags alone, or a body with its own flags and perhaps an index. -/
inductive Opening where
  | flags (flags : Flags)
  | body (flags : Flags) (index? : Option Nat)

def startsAny (marks : List String) (cs : List Char) : Bool :=
  marks.any fun m => m.toList.isPrefixOf cs

def keepGroup (cur : Cursor) (name? : Option String) : Except Fault (Opening × Cursor) :=
  if name?.isSome && cur.names.contains name? then .error .badGroupName
  else .ok (.body cur.flags (some (cur.names.length + 1)), { cur with names := name? :: cur.names })

def readOpeningGroup (cur : Cursor) : Except Fault (Opening × Cursor) :=
  let cur := cur.skip
  if startsAny ["?=", "?!", "?<=", "?<!"] cur.rest then .error .unsupportedLook
  else if startsAny ["?P<", "?<"] cur.rest then
    let rest := if startsAny ["?P<"] cur.rest then cur.rest.drop 3 else cur.rest.drop 2
    match readName? rest with
    | some (name, rest) => keepGroup (cur.at_ rest) (some name)
    | none => .error .badGroupName
  else
    match cur.rest with
    | '?' :: rest =>
      if rest.isEmpty then .error .unclosedGroup
      else
        match readFlags [] true rest cur.flags with
        | .error e => .error e
        | .ok (seen, flags, mark, rest) =>
          if mark = ')' then
            if seen.isEmpty then .error .nothingToRepeat else .ok (.flags flags, cur.at_ rest)
          else .ok (.body flags none, cur.at_ rest)
    | _ => keepGroup cur none

/-- What has been read of a pattern: alternatives, and the items of the last one, latest first. An item
that sets flags is no node. -/
structure Progress where
  alternatives : List Node
  items : List (Option Node)

def Progress.node (p : Progress) : Node :=
  Node.altOf ((Node.seqOf (p.items.filterMap id).reverse :: p.alternatives).reverse)

def Progress.repeatLast (p : Progress) (least : Nat) (most? : Option Nat) (greedy : Bool) :
    Except Fault Progress :=
  match p.items with
  | some node :: items => .ok { p with items := some (Node.repeat_ least most? greedy node) :: items }
  | _ => .error .nothingToRepeat

def Progress.push (p : Progress) (node : Node) : Progress := { p with items := some node :: p.items }

/-- Reads up to the end, or with `inside` up to the parenthesis that closes a group. `group` reads the
body of a group within. -/
def readPattern (group : Cursor → Except Fault (Node × Cursor)) (inside : Bool) :
    Nat → Progress → Cursor → Except Fault (Node × Cursor)
  | 0, _, _ => .error .tooLarge
  | fuel + 1, p, cur =>
    let cur := cur.skip
    let go := readPattern group inside fuel
    let repetition (least : Nat) (most? : Option Nat) (rest : List Char) : Except Fault (Node × Cursor) := do
      let (greedy, cur) := readGreed (cur.at_ rest)
      go (← p.repeatLast least most? greedy) cur
    let anchor (multi single : Look) (rest : List Char) :=
      go (p.push (.look (if cur.flags.multiLine then multi else single))) (cur.at_ rest)
    match cur.rest with
    | [] => if inside then .error .unclosedGroup else .ok (p.node, cur)
    | '(' :: rest => do
      match ← readOpeningGroup (cur.at_ rest) with
      | (.flags flags, cur) => go { p with items := none :: p.items } { cur with flags := flags }
      | (.body flags index?, inner) =>
        let (node, after) ← group { inner with flags := flags }
        go (p.push (.group index? node)) { after with flags := cur.flags }
    | ')' :: rest => if inside then .ok (p.node, cur.at_ rest) else .error .unopenedGroup
    | '|' :: rest =>
      go ⟨Node.seqOf (p.items.filterMap id).reverse :: p.alternatives, []⟩ (cur.at_ rest)
    | '[' :: rest => do
      let (set, cur) ← readClass depthLimit (cur.moved rest)
      go (p.push (.one set)) cur
    | '?' :: rest => repetition 0 (some 1) rest
    | '*' :: rest => repetition 0 none rest
    | '+' :: rest => repetition 1 none rest
    | '\x7b' :: rest => do
      let (least, most?, after) ← readBounds (cur.moved rest)
      let (greedy, after) := readGreed after.skip
      go (← p.repeatLast least most? greedy) after
    | '\\' :: rest => do
      let (piece, cur) ← readEscape (cur.at_ rest)
      go (p.push (← pieceNode cur.flags piece)) cur
    | '.' :: rest => do go (p.push (.one (← dotSet cur.flags))) (cur.at_ rest)
    | '^' :: rest => anchor (.lineStart cur.flags.crlf) .textStart rest
    | '$' :: rest => anchor (.lineEnd cur.flags.crlf) .textEnd rest
    | c :: rest => do go (p.push (← literalNode cur.flags c false)) (cur.at_ rest)

def readGroup : Nat → Cursor → Except Fault (Node × Cursor)
  | 0, _ => .error .tooDeep
  | depth + 1, cur => readPattern (readGroup depth) true (cur.rest.length + 1) ⟨[], []⟩ cur

def Form.read (s : String) : Except Fault Form :=
  let cur : Cursor := ⟨s.toList, .initial, []⟩
  match readPattern (readGroup depthLimit) false (s.toList.length + 1) ⟨[], []⟩ cur with
  | .ok (node, cur) => .ok ⟨node, none :: cur.names.reverse⟩
  | .error e => .error e

end Remedy.Pattern
