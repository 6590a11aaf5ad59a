import Remedy.Edit.Span
import Remedy.Error
import Remedy.Text.Alphanumeric
import Remedy.Text.Bytes

/-! A text that is edited in batches. All spans of a batch refer to the text before the batch. -/

namespace Remedy

inductive EditError where
  | domain (e : DomainError)
  /-- A span ends beyond all offsets. -/
  | panic (p : Panic)
  deriving DecidableEq, Repr

def EditError.failure : EditError → Failure
  | domain e => .domain e
  | panic p => .panicked p

structure Buffer where
  chars : List Char
  deriving DecidableEq, Repr, Inhabited

namespace Buffer

def ofString (s : String) : Buffer := ⟨s.toList⟩

def text (b : Buffer) : String := String.ofList b.chars

def length (b : Buffer) : Nat := Text.byteLength b.chars

def isEmpty (b : Buffer) : Bool := b.chars.isEmpty

def lineCount (b : Buffer) : Nat := (Text.lines b.chars).length

/-- The offset at which a line starts; lines count from zero. -/
def lineStart? : List Char → Nat → Option Nat
  | _, 0 => some 0
  | [], _ + 1 => none
  | c :: cs, n + 1 => (lineStart? cs (if c = '\n' then n else n + 1)).map (c.utf8Size + ·)

def firstLine (cs : List Char) : List Char := cs.takeWhile (· ≠ '\n')

/-- The offset of a line and a column, both from one. The column after the last character counts. -/
def offsetOf? (b : Buffer) (line column : UInt32) : Option Nat :=
  if line = 0 ∨ column = 0 then none
  else
    match lineStart? b.chars (line.toNat - 1) with
    | none => none
    | some start =>
      let row := firstLine (Text.dropBytes start b.chars)
      let before := column.toNat - 1
      if before ≤ row.length then some (start + Text.byteLength (row.take before)) else none

def lineSpan? (b : Buffer) (line : UInt32) : Option Span :=
  if line = 0 then none
  else
    match lineStart? b.chars (line.toNat - 1) with
    | none => none
    | some start =>
      let rest := Text.dropBytes start b.chars
      let row := firstLine rest
      let ending := if row.length < rest.length then 1 else 0
      some ⟨UInt64.ofNat start, UInt64.ofNat (Text.byteLength row + ending)⟩

def isTokenChar (c : Char) : Bool := Text.isAlphanumeric c || c = '_' || c = '$'

def tokenEnd? (b : Buffer) (offset : Nat) : Option Nat :=
  (Text.splitAt? b.chars offset).map fun p => offset + Text.byteLength (p.2.takeWhile isTokenChar)

/-- Checks sorted changes against the end of the change before them. -/
def checkSorted (b : Buffer) : Option Nat → List Change → Except EditError Unit
  | _, [] => .ok ()
  | last?, change :: rest =>
    let start := change.span.start.toNat
    match change.span.stop with
    | .error p => .error (.panic p)
    | .ok stop =>
      if b.length < stop then .error (.domain (.spanOutOfBounds start stop b.length))
      else if !Text.isBoundary b.chars start || !Text.isBoundary b.chars stop then
        .error (.domain (.spanNotOnBoundary start stop))
      else if last?.any (start < ·) then .error (.domain (.overlappingSpans start))
      else checkSorted b (some stop) rest

def check (b : Buffer) (changes : List Change) : Except EditError Unit :=
  b.checkSorted none (Change.sorted changes)

/-- The text from a cursor on, with sorted changes made. -/
def splice (cs : List Char) : Nat → List Change → List Char
  | cursor, [] => Text.dropBytes cursor cs
  | cursor, change :: rest =>
    Text.sliceBytes cursor change.span.start.toNat cs ++ change.newText.toList ++
      splice cs change.span.limit rest

def apply (b : Buffer) (changes : List Change) : Except EditError Buffer :=
  match b.check changes with
  | .error e => .error e
  | .ok () => .ok ⟨splice b.chars 0 (Change.sorted changes)⟩

end Buffer

end Remedy
