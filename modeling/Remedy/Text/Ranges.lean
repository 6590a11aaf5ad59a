/-! Sets of code points as ascending ranges, the short text that writes such a set down, and the operations on sets. -/

namespace Remedy.Text

/-- Closed ranges of code points, ascending and apart. -/
abbrev Ranges := List (Nat × Nat)

def Ranges.has : Ranges → Nat → Bool
  | [], _ => false
  | (low, high) :: rest, n =>
    if n < low then false else if n ≤ high then true else Ranges.has rest n

def numbersIn (s : String) : List Nat :=
  let (done, last) := s.toList.foldl
    (fun (done, last) c =>
      if c.isDigit then (done, some (10 * last.getD 0 + (c.toNat - '0'.toNat)))
      else
        match last with
        | some n => (n :: done, none)
        | none => (done, none))
    (([], none) : List Nat × Option Nat)
  match last with
  | some n => (n :: done).reverse
  | none => done.reverse

/-- Ranges from the gap before each range and its size, in turn, beginning at `start`. -/
def rangesFrom : Nat → List Nat → Ranges
  | start, gap :: size :: rest => (start + gap, start + gap + size - 1) :: rangesFrom (start + gap + size) rest
  | _, _ => []

def rangesOf (s : String) : Ranges := rangesFrom 0 (numbersIn s)

namespace Ranges

def lastPoint : Nat := 0x10FFFF

def single (n : Nat) : Ranges := [(n, n)]

def merge : Ranges → Ranges
  | [] => []
  | (low, high) :: rest =>
    let rec go (low high : Nat) : Ranges → Ranges
      | [] => [(low, high)]
      | (low', high') :: rest =>
        if low' ≤ high + 1 then go low (max high high') rest else (low, high) :: go low' high' rest
    go low high rest

/-- Brings ranges in any order into ascending ones that lie apart. -/
def normal (rs : Ranges) : Ranges := merge (rs.mergeSort fun a b => a.1 ≤ b.1)

def union (a b : Ranges) : Ranges := normal (a ++ b)

def gaps (stop : Nat) : Nat → Ranges → Ranges
  | start, [] => if start ≤ stop then [(start, stop)] else []
  | start, (low, high) :: rest =>
    if start < low then (start, low - 1) :: gaps stop (high + 1) rest else gaps stop (high + 1) rest

def complement (stop : Nat) (rs : Ranges) : Ranges := gaps stop 0 rs

def intersection (a b : Ranges) : Ranges :=
  normal (a.flatMap fun r => b.filterMap fun s =>
    let low := max r.1 s.1
    let high := min r.2 s.2
    if low ≤ high then some (low, high) else none)

def difference (a b : Ranges) : Ranges := intersection a (complement lastPoint b)

def symmetricDifference (a b : Ranges) : Ranges := difference (union a b) (intersection a b)

def isAscii (rs : Ranges) : Bool := rs.all fun r => r.2 < 128

end Ranges

end Remedy.Text
