import Remedy.Decimal.Binary

/-! The fewest decimal digits that still name a binary64 value. -/

namespace Remedy.Decimal

inductive Tie where
  | even
  | up
  deriving DecidableEq, Repr

/-- The decimal `0.d₁d₂…dₙ * 10 ^ point`, its digits written as one number of `count` digits. -/
structure Digits where
  digits : Nat
  count : Nat
  point : Int
  deriving DecidableEq, Repr

def leadingZeros (den : Nat) : Nat → Nat → Nat
  | 0, _ => 0
  | fuel + 1, num => if num * 10 < den then 1 + leadingZeros den fuel (num * 10) else 0

def pointOf (num den : Nat) : Int :=
  if den ≤ num then ((Nat.toDigits 10 (num / den)).length : Int)
  else -(leadingZeros den 400 num : Int)

/-- The point of a decimal grid nearest to `num / den`, among those that lie between `low / den`
and `high / den`. The grid has the step `step / scale`. -/
def gridPoint? (tie : Tie) (closed : Bool) (low num high den step scale : Nat) : Option Nat :=
  let below := num * scale / (den * step)
  let inside (d : Nat) : Bool :=
    let x := d * step * den
    if closed then low * scale ≤ x && x ≤ high * scale else low * scale < x && x < high * scale
  let near := num * scale - below * step * den
  let far := (below + 1) * step * den - num * scale
  let lowerFirst : Bool :=
    if near = far then
      match tie with
      | .even => below % 2 = 0
      | .up => false
    else near < far
  if lowerFirst then
    if inside below then some below else if inside (below + 1) then some (below + 1) else none
  else
    if inside (below + 1) then some (below + 1) else if inside below then some below else none

def firstGrid (tie : Tie) (closed : Bool) (low num high den : Nat) (point : Int) : Nat → Nat → Digits
  | 0, count => ⟨0, count, point⟩
  | fuel + 1, count =>
    let e := point - count
    let step := if 0 ≤ e then Nat.pow 10 e.toNat else 1
    let scale := if 0 ≤ e then 1 else Nat.pow 10 (-e).toNat
    match gridPoint? tie closed low num high den step scale with
    | some d => if d = Nat.pow 10 count then ⟨1, 1, point + 1⟩ else ⟨d, count, point⟩
    | none => firstGrid tie closed low num high den point fuel (count + 1)

def Digits.dropZeros : Nat → Digits → Digits
  | 0, d => d
  | fuel + 1, d =>
    if d.digits % 10 = 0 && 1 < d.count then Digits.dropZeros fuel ⟨d.digits / 10, d.count - 1, d.point⟩ else d

/-- The shortest decimal among those that lie nearer to the value than to any other, and of these
the nearest. -/
def shortest (tie : Tie) (b : Binary) : Digits :=
  let (num, den) := b.fraction
  let unit := if 0 ≤ b.exponent then Nat.pow 2 b.exponent.toNat else 1
  let low := 4 * num - (if b.narrowBelow then unit else 2 * unit)
  let high := 4 * num + 2 * unit
  (firstGrid tie (b.mantissa % 2 = 0) low (4 * num) high (4 * den) (pointOf num den) 20 1).dropZeros 20

end Remedy.Decimal
