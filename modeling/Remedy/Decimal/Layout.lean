import Remedy.Decimal.Shortest

/-! How the shortest digits of a number are set out, and the two layouts the program writes. -/

namespace Remedy.Decimal

structure Layout where
  tie : Tie
  /-- Whether a number with this decimal point is written without an exponent. -/
  positional : Int → Bool
  /-- Whether a whole number keeps the mark `.0`. -/
  keepPoint : Bool
  undefinedText : String
  infiniteText : String
  negativeInfiniteText : String

/-- Numbers in a JSON document: an exponent below 0.00001 and from 10 ^ 16 on. -/
def document : Layout where
  tie := .even
  positional k := -5 < k && k ≤ 16
  keepPoint := true
  undefinedText := "null"
  infiniteText := "null"
  negativeInfiniteText := "null"

/-- Numbers in a message: never an exponent, whole numbers without a point. -/
def message : Layout where
  tie := .up
  positional _ := true
  keepPoint := false
  undefinedText := "NaN"
  infiniteText := "inf"
  negativeInfiniteText := "-inf"

def digitText (d : Digits) : String :=
  let s := String.ofList (Nat.toDigits 10 d.digits)
  "".pushn '0' (d.count - s.length) ++ s

def Layout.positionalText (layout : Layout) (d : Digits) : String :=
  let s := digitText d
  if d.point ≤ 0 then "0." ++ "".pushn '0' (-d.point).toNat ++ s
  else if d.count ≤ d.point.toNat then
    s ++ "".pushn '0' (d.point.toNat - d.count) ++ (if layout.keepPoint then ".0" else "")
  else
    String.ofList (s.toList.take d.point.toNat) ++ "." ++ String.ofList (s.toList.drop d.point.toNat)

def exponentText (d : Digits) : String :=
  let s := (digitText d).toList
  let lead := String.ofList (s.take 1)
  let rest := String.ofList (s.drop 1)
  lead ++ (if rest.isEmpty then "" else "." ++ rest) ++ "e" ++ toString (d.point - 1)

def Layout.magnitude (layout : Layout) (b : Binary) : String :=
  if b.mantissa = 0 then (if layout.keepPoint then "0.0" else "0")
  else
    let d := shortest layout.tie b
    if layout.positional d.point then layout.positionalText d else exponentText d

def Layout.text (layout : Layout) (x : Float) : String :=
  match partsOf x with
  | .undefined => layout.undefinedText
  | .infinite false => layout.infiniteText
  | .infinite true => layout.negativeInfiniteText
  | .finite negative b => (if negative then "-" else "") ++ layout.magnitude b

end Remedy.Decimal
