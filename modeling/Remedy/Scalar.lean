import Remedy.Decimal.Layout

/-! The numbers that confidences, rates and means are computed with. The program runs at `Float`; at
`Rat` the same definitions are exact. -/

namespace Remedy

/-- Arithmetic and comparison as the statistics use them. -/
class Scalar (α : Type) extends Add α, Sub α, Mul α, Div α, Neg α, OfScientific α where
  ofNat : Nat → α
  lt : α → α → Bool
  le : α → α → Bool
  /-- A total order that agrees with `lt` on ordinary values. -/
  order : α → α → Ordering
  /-- Whether the value is no number at all. -/
  undefined : α → Bool
  /-- The value rounded up, cut to the range of a 32-bit count. -/
  ceilCount : α → UInt32
  /-- The value in a message. -/
  text : α → String

namespace Scalar

variable {α : Type} [Scalar α]

/-- The larger of the two; a value that is no number yields to the other. -/
def max (a b : α) : α := if undefined a then b else if lt a b then b else a

def min (a b : α) : α := if undefined a then b else if lt b a then b else a

def clamp (lo hi x : α) : α :=
  let x := if lt x lo then lo else x
  if lt hi x then hi else x

def isProportion (x : α) : Bool := le 0.0 x && le x 1.0

end Scalar

/-- Binary64 values ordered by sign and magnitude: negative not-a-number first, positive last. -/
def floatKey (x : Float) : Int :=
  let bits := x.toBits.toNat
  if bits < 0x8000000000000000 then (bits : Int) else -((bits - 0x8000000000000000 : Nat) : Int) - 1

instance : Scalar Float where
  ofNat := Float.ofNat
  lt a b := decide (a < b)
  le a b := decide (a ≤ b)
  order a b := compare (floatKey a) (floatKey b)
  undefined := Float.isNaN
  ceilCount x := x.ceil.toUInt32
  text := Decimal.message.text

instance : Scalar Rat where
  ofNat n := (n : Rat)
  lt a b := decide (a < b)
  le a b := decide (a ≤ b)
  order a b := if a < b then .lt else if a = b then .eq else .gt
  undefined _ := false
  ceilCount x := UInt32.ofNat (min x.ceil.toNat 4294967295)
  text x := toString x

end Remedy
