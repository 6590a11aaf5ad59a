/-! Small operations on text that several formats share: white space as the Unicode property White_Space has it, ASCII
case, substrings, splitting and lines. -/

namespace Remedy.Text

def blankRanges : List (Nat × Nat) :=
  [(0x09, 0x0D), (0x20, 0x20), (0x85, 0x85), (0xA0, 0xA0), (0x1680, 0x1680), (0x2000, 0x200A),
   (0x2028, 0x2029), (0x202F, 0x202F), (0x205F, 0x205F), (0x3000, 0x3000)]

def isBlank (c : Char) : Bool :=
  blankRanges.any fun r => r.1 ≤ c.toNat && c.toNat ≤ r.2

def trimStart (cs : List Char) : List Char := cs.dropWhile isBlank

def trimEnd (cs : List Char) : List Char := (cs.reverse.dropWhile isBlank).reverse

def trim (cs : List Char) : List Char := trimEnd (trimStart cs)

def words : List Char → List (List Char)
  | [] => []
  | c :: cs =>
    if isBlank c then words cs
    else
      match cs with
      | [] => [[c]]
      | d :: _ =>
        if isBlank d then [c] :: words cs
        else
          match words cs with
          | [] => [[c]]
          | w :: ws => (c :: w) :: ws

def trimmed (s : String) : String := String.ofList (trim s.toList)

def isAllBlank (s : String) : Bool := s.toList.all isBlank

def equalIgnoringCase (a b : String) : Bool :=
  a.toList.map Char.toLower == b.toList.map Char.toLower

def lower (s : String) : String := String.ofList (s.toList.map Char.toLower)

def swapChar (old new : Char) (s : String) : String :=
  String.ofList (s.toList.map fun c => if c = old then new else c)

def occursIn (needle : List Char) : List Char → Bool
  | [] => needle.isEmpty
  | c :: cs => needle.isPrefixOf (c :: cs) || occursIn needle cs

def contains (s needle : String) : Bool := occursIn needle.toList s.toList

def startsWith (s start : String) : Bool := start.toList.isPrefixOf s.toList

def stripStart? (start cs : List Char) : Option (List Char) :=
  if start.isPrefixOf cs then some (cs.drop start.length) else none

def stripAll (start : List Char) : Nat → List Char → List Char
  | 0, cs => cs
  | n + 1, cs =>
    match stripStart? start cs with
    | some rest => stripAll start n rest
    | none => cs

def splitOnce? (sep : Char) : List Char → Option (List Char × List Char)
  | [] => none
  | c :: cs =>
    if c = sep then some ([], cs)
    else (splitOnce? sep cs).map fun p => (c :: p.1, p.2)

/-- The pieces between the occurrences of `sep`; never empty. -/
def split {α : Type} [DecidableEq α] (sep : α) : List α → List (List α)
  | [] => [[]]
  | c :: cs =>
    if c = sep then [] :: split sep cs
    else
      match split sep cs with
      | [] => [[c]]
      | p :: ps => (c :: p) :: ps

/-- The pieces between the occurrences of a separator, which are taken from the left; after a separator
`skip` characters of it are still to be passed. -/
def splitOnFrom (sep : List Char) : Nat → List Char → List (List Char)
  | _, [] => [[]]
  | skip + 1, _ :: cs => splitOnFrom sep skip cs
  | 0, c :: cs =>
    if sep.isPrefixOf (c :: cs) then [] :: splitOnFrom sep (sep.length - 1) cs
    else
      match splitOnFrom sep 0 cs with
      | [] => [[c]]
      | p :: ps => (c :: p) :: ps

def splitOn (sep cs : List Char) : List (List Char) := splitOnFrom sep 0 cs

def dropReturn (line : List Char) : List Char :=
  match line.getLast? with
  | some '\r' => line.dropLast
  | _ => line

/-- The lines of a text. A line ends at a newline, a carriage return before it belongs to the ending,
and a last line may lack the ending. -/
def linesOf : List (List Char) → List (List Char)
  | [] => []
  | [last] => if last.isEmpty then [] else [last]
  | line :: rest => dropReturn line :: linesOf rest

def lines (cs : List Char) : List (List Char) := linesOf (split '\n' cs)

def linesOfString (s : String) : List String := (lines s.toList).map String.ofList

/-- The longest part of some bytes that ends with a line and is text up to there. -/
def decodeLines (bytes : ByteArray) : String :=
  match String.fromUTF8? bytes with
  | some s => s
  | none =>
    let lines := (bytes.toList.splitOn 10).map fun l => String.fromUTF8? ⟨l.toArray⟩
    "".intercalate ((lines.takeWhile Option.isSome).filterMap fun l => l.map (· ++ "\n"))

def join (sep : String) (parts : List String) : String := sep.intercalate parts

def natText (n : Nat) : String := String.ofList (Nat.toDigits 10 n)

def readNat? (cs : List Char) : Option Nat :=
  if cs.isEmpty || !cs.all Char.isDigit then none
  else some (cs.foldl (fun n c => 10 * n + (c.toNat - '0'.toNat)) 0)

/-- Reads an unsigned number below `bound`: an optional plus sign and digits. -/
def readUnsigned? (bound : Nat) (cs : List Char) : Option Nat :=
  let digits := match cs with
    | '+' :: rest => rest
    | _ => cs
  match readNat? digits with
  | some n => if n < bound then some n else none
  | none => none

end Remedy.Text
