/-! Binary64 values taken apart into sign, mantissa and power of two, and written with a fixed count of decimal places, a
half going to the even neighbour; and decimal numerals read as the nearest such value. -/

namespace Remedy.Decimal

/-- The finite value `mantissa * 2 ^ exponent`, and whether the gap to the next smaller value is
half the gap to the next larger one. -/
structure Binary where
  mantissa : Nat
  exponent : Int
  narrowBelow : Bool
  deriving DecidableEq, Repr

inductive Parts where
  | undefined
  | infinite (negative : Bool)
  | finite (negative : Bool) (magnitude : Binary)
  deriving DecidableEq, Repr

def partsOfBits (bits : Nat) : Parts :=
  let negative := decide (bits / 0x8000000000000000 % 2 = 1)
  let field : Nat := bits / 0x10000000000000 % 2048
  let fraction : Nat := bits % 0x10000000000000
  if field = 2047 then
    if fraction = 0 then .infinite negative else .undefined
  else if field = 0 then .finite negative ⟨fraction, -1074, false⟩
  else .finite negative ⟨0x10000000000000 + fraction, (field : Int) - 1075, fraction = 0 && 1 < field⟩

def partsOf (x : Float) : Parts := partsOfBits x.toBits.toNat

def Binary.fraction (b : Binary) : Nat × Nat :=
  if 0 ≤ b.exponent then (b.mantissa * Nat.pow 2 b.exponent.toNat, 1)
  else (b.mantissa, Nat.pow 2 (-b.exponent).toNat)

def roundHalfEven (num den : Nat) : Nat :=
  let q := num / den
  let r := num % den
  if 2 * r < den then q else if den < 2 * r then q + 1 else if q % 2 = 0 then q else q + 1

def placesText (places n : Nat) : String :=
  let s := (Nat.toDigits 10 n)
  let s := List.replicate (places + 1 - s.length) '0' ++ s
  let whole := String.ofList (s.take (s.length - places))
  if places = 0 then whole else whole ++ "." ++ String.ofList (s.drop (s.length - places))

def fixed (plus : String) (places : Nat) (x : Float) : String :=
  match partsOf x with
  | .undefined => "NaN"
  | .infinite negative => (if negative then "-" else plus) ++ "inf"
  | .finite negative b =>
    let (num, den) := b.fraction
    (if negative then "-" else plus) ++ placesText places (roundHalfEven (num * Nat.pow 10 places) den)

def infinite : Float := 1.0 / 0.0

def undefined : Float := 0.0 / 0.0

def signed (negative : Bool) (x : Float) : Float := if negative then -x else x

def nearest (digits : Nat) (exponent : Int) : Float :=
  if digits = 0 then 0.0
  else
    let size := ((Nat.toDigits 10 digits).length : Int) + exponent
    if 310 < size then infinite
    else if size < -330 then 0.0
    else Float.ofScientific digits (decide (exponent < 0)) exponent.natAbs

def digitsValue (cs : List Char) : Nat := cs.foldl (fun n c => 10 * n + (c.toNat - '0'.toNat)) 0

def numeral (whole fraction : List Char) (exponent : Int) : Float :=
  nearest (digitsValue (whole ++ fraction)) (exponent - fraction.length)

end Remedy.Decimal
