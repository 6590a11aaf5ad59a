import Remedy.Error

/-! Places in a text by byte offsets, and replacements of them. -/

namespace Remedy

structure Span where
  start : UInt64
  length : UInt64
  deriving DecidableEq, Repr, Inhabited

namespace Span

def at_ (offset : UInt64) : Span := ⟨offset, 0⟩

/-- The offset after the last byte as a number, which may be too large for an offset. -/
def limit (s : Span) : Nat := s.start.toNat + s.length.toNat

def stop (s : Span) : Except Panic Nat :=
  if s.limit < UInt64.size then .ok s.limit else .error .addition

def le (a b : Span) : Bool := a.start < b.start || (a.start == b.start && a.length ≤ b.length)

end Span

structure Change where
  span : Span
  newText : String
  deriving DecidableEq, Repr, Inhabited

namespace Change

def insert (offset : Nat) (text : String) : Change := ⟨.at_ (UInt64.ofNat offset), text⟩

def delete (span : Span) : Change := ⟨span, ""⟩

/-- Changes by their spans; equal spans stay as given. -/
def sorted (changes : List Change) : List Change := changes.mergeSort fun a b => a.span.le b.span

end Change

end Remedy
