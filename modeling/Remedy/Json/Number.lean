import Remedy.Json.Basic

/-! Numbers in a JSON text. Digits are gathered in 64 bits; a number with a fraction or an exponent, or
too large for 64 bits, becomes a binary64 value by one multiplication or division by a power of ten. -/

namespace Remedy.Json

def bound64 : Nat := UInt64.size

def bound31 : Nat := 0x80000000

def digitValue (c : Char) : Nat := c.toNat - '0'.toNat

def tenPower (n : Nat) : Float := Float.ofScientific 1 false n

/-- Scales down by 10 ^ 308 until the exponent can be met by one division. -/
def scaleDown : Nat → Float → Nat → Float
  | 0, x, _ => x
  | fuel + 1, x, e =>
    if e ≤ 308 then x / tenPower e
    else if x == 0.0 then x
    else scaleDown fuel (x / tenPower 308) (e - 308)

/-- `significand * 10 ^ exponent`; nothing if it is too large. -/
def scaled? (negative : Bool) (significand : Nat) (exponent : Int) : Option Json :=
  let x := Float.ofNat significand
  let magnitude? : Option Float :=
    if exponent < 0 then some (scaleDown ((-exponent).toNat / 308 + 2) x (-exponent).toNat)
    else if exponent ≤ 308 then
      let y := x * tenPower exponent.toNat
      if y.isInf then none else some y
    else if x == 0.0 then some x
    else none
  magnitude?.map fun y => real (if negative then -y else y)

def saturate (e : Int) : Int := max (-0x80000000) (min 0x7fffffff e)

/-- Digits of an exponent: its value, or nothing when it leaves 31 bits. -/
def exponentDigits : Nat → List Char → Option Nat
  | e, [] => some e
  | e, c :: cs =>
    let e' := 10 * e + digitValue c
    if e' < bound31 then exponentDigits e' cs else none

def readExponent? (negative : Bool) (significand : Nat) (start : Int) (cs : List Char) :
    Option (Json × List Char) :=
  let (down, cs) := match cs with
    | '+' :: rest => (false, rest)
    | '-' :: rest => (true, rest)
    | _ => (false, cs)
  let digits := cs.takeWhile Char.isDigit
  let rest := cs.dropWhile Char.isDigit
  if digits.isEmpty then none
  else
    match exponentDigits 0 digits with
    | some e =>
      (scaled? negative significand (saturate (if down then start - e else start + e))).map (·, rest)
    | none =>
      if significand ≠ 0 && !down then none
      else some (real (if negative then -0.0 else 0.0), rest)

def readScale? (negative : Bool) (significand : Nat) (exponent : Int) (cs : List Char) :
    Option (Json × List Char) :=
  match cs with
  | 'e' :: rest | 'E' :: rest => readExponent? negative significand exponent rest
  | _ => (scaled? negative significand exponent).map (·, cs)

/-- Takes digits as long as the number they form fits in 64 bits: the number, how many were taken, and
the digits left. -/
def gather : Nat → Nat → List Char → Nat × Nat × List Char
  | n, taken, [] => (n, taken, [])
  | n, taken, c :: cs =>
    if 10 * n + digitValue c < bound64 then gather (10 * n + digitValue c) (taken + 1) cs
    else (n, taken, c :: cs)

/-- After the point. Digits beyond 64 bits are dropped. -/
def readFraction? (negative : Bool) (significand : Nat) (exponent : Int) (cs : List Char) :
    Option (Json × List Char) :=
  let digits := cs.takeWhile Char.isDigit
  let rest := cs.dropWhile Char.isDigit
  if digits.isEmpty then none
  else
    let (n, taken, _) := gather significand 0 digits
    readScale? negative n (exponent - taken) rest

def readMagnitude? (negative : Bool) (cs : List Char) : Option (Json × List Char) :=
  let digits := cs.takeWhile Char.isDigit
  let rest := cs.dropWhile Char.isDigit
  if digits.isEmpty || (digits.head? = some '0' && 1 < digits.length) then none
  else
    let (n, _, left) := gather 0 0 digits
    match rest with
    | '.' :: after => readFraction? negative n left.length after
    | 'e' :: after | 'E' :: after => readExponent? negative n left.length after
    | _ =>
      if !left.isEmpty then (scaled? negative n left.length).map (·, rest)
      else if !negative then some (nat (UInt64.ofNat n), rest)
      else if n = 0 || 0x8000000000000000 < n then some (real (-(Float.ofNat n)), rest)
      else some (neg (Int64.ofInt (-(n : Int))), rest)

def readNumber? : List Char → Option (Json × List Char)
  | '-' :: cs => readMagnitude? true cs
  | cs => readMagnitude? false cs

def skipDigits? (cs : List Char) : Option (List Char) :=
  if cs.head?.any Char.isDigit then some (cs.dropWhile Char.isDigit) else none

def skipExponent? : List Char → Option (List Char)
  | 'e' :: cs | 'E' :: cs =>
    match cs with
    | '+' :: cs | '-' :: cs => skipDigits? cs
    | cs => skipDigits? cs
  | cs => some cs

def skipFraction? : List Char → Option (List Char)
  | '.' :: cs => (skipDigits? cs).bind skipExponent?
  | cs => skipExponent? cs

def skipMagnitude? : List Char → Option (List Char)
  | '0' :: cs => if cs.head?.any Char.isDigit then none else skipFraction? cs
  | cs => (skipDigits? cs).bind skipFraction?

def skipNumber? : List Char → Option (List Char)
  | '-' :: cs => skipMagnitude? cs
  | cs => skipMagnitude? cs

end Remedy.Json
