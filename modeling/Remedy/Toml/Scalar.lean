import Remedy.Decimal.Binary
import Remedy.Instant
import Remedy.Toml.Basic

/-! Numbers, dates and times in a TOML text. -/

namespace Remedy.Toml

def plainDigits? (isDigit : Char → Bool) : List Char → Option (List Char)
  | [] => none
  | [c] => if isDigit c then some [c] else none
  | c :: '_' :: rest => if isDigit c then (plainDigits? isDigit rest).map (c :: ·) else none
  | c :: rest => if isDigit c then (plainDigits? isDigit rest).map (c :: ·) else none

def wholeDigits? (cs : List Char) : Option (List Char) :=
  match plainDigits? Char.isDigit cs with
  | some ('0' :: _ :: _) => none
  | r => r

def isBaseDigit (base : Nat) (c : Char) : Bool :=
  if c.isDigit then c.toNat - '0'.toNat < base
  else base = 16 && (('a' ≤ c && c ≤ 'f') || ('A' ≤ c && c ≤ 'F'))

def baseDigitValue (c : Char) : Nat :=
  if c.isDigit then c.toNat - '0'.toNat else c.toLower.toNat - 'a'.toNat + 10

def inBase? (base : Nat) (cs : List Char) : Option Toml :=
  (plainDigits? (isBaseDigit base) cs).map fun ds =>
    .int (ds.foldl (fun n c => base * n + baseDigitValue c) 0 : Nat)

def unsign : List Char → Bool × List Char
  | '-' :: cs => (true, cs)
  | '+' :: cs => (false, cs)
  | cs => (false, cs)

def exponent? (cs : List Char) : Option Int :=
  let (negative, cs) := unsign cs
  (plainDigits? Char.isDigit cs).map fun ds =>
    let n : Int := Decimal.digitsValue ds
    if negative then -n else n

def finite? (negative : Bool) (whole fraction : List Char) (e : Int) : Option Toml :=
  let x := Decimal.numeral whole fraction e
  if x.isInf then none else some (.real (Decimal.signed negative x))

def isExponentMark (c : Char) : Bool := c = 'e' || c = 'E'

def scaled? (cs : List Char) : Option (List Char × Int) :=
  match cs.dropWhile fun c => !isExponentMark c with
  | [] => some (cs, 0)
  | _ :: e => (exponent? e).map fun n => (cs.takeWhile fun c => !isExponentMark c, n)

def number? (cs : List Char) : Option Toml :=
  let (negative, body) := unsign cs
  match body with
  | ['i', 'n', 'f'] => some (.real (Decimal.signed negative Decimal.infinite))
  | ['n', 'a', 'n'] => some (.real (Decimal.signed negative Decimal.undefined))
  | _ =>
    match cs with
    | '0' :: 'x' :: ds => inBase? 16 ds
    | '0' :: 'o' :: ds => inBase? 8 ds
    | '0' :: 'b' :: ds => inBase? 2 ds
    | _ => do
      let (mantissa, e) ← scaled? body
      match Text.splitOnce? '.' mantissa with
      | some (whole, fraction) =>
        finite? negative (← wholeDigits? whole) (← plainDigits? Char.isDigit fraction) e
      | none =>
        let whole ← wholeDigits? mantissa
        if body.any isExponentMark then finite? negative whole [] e
        else
          let n : Int := Decimal.digitsValue whole
          return .int (if negative then -n else n)

/-! Dates and times. -/

def twoDigits? : List Char → Option (Nat × List Char)
  | a :: b :: rest => if a.isDigit && b.isDigit then some (Decimal.digitsValue [a, b], rest) else none
  | _ => none

def bounded? (limit : Nat) (r : Option (Nat × List Char)) : Option (Nat × List Char) :=
  r.bind fun (n, rest) => if n < limit then some (n, rest) else none

def expect? (c : Char) : List Char → Option (List Char)
  | d :: rest => if d = c then some rest else none
  | [] => none

def readDate? (cs : List Char) : Option (String × List Char) := do
  let (century, rest) ← twoDigits? cs
  let (year, rest) ← twoDigits? rest
  let (month, rest) ← twoDigits? (← expect? '-' rest)
  let (day, rest) ← twoDigits? (← expect? '-' rest)
  if month = 0 || 12 < month || day = 0 || Instant.monthLength (100 * century + year : Nat) month < day then none
  else some (String.ofList (cs.take 10), rest)

def fractionText (ds : List Char) : String :=
  match ((ds.take 9).reverse.dropWhile (· = '0')).reverse with
  | [] => ""
  | kept => "." ++ String.ofList kept

def readSeconds? (cs : List Char) : Option (String × List Char) :=
  match cs with
  | ':' :: rest => do
    let (s, rest) ← bounded? 61 (twoDigits? rest)
    let whole := ":" ++ Instant.padded 2 s
    match rest with
    | '.' :: rest =>
      let ds := rest.takeWhile Char.isDigit
      if ds.isEmpty then none else some (whole ++ fractionText ds, rest.dropWhile Char.isDigit)
    | _ => some (whole, rest)
  | _ => some ("", cs)

def readTime? (cs : List Char) : Option (String × List Char) := do
  let (_, rest) ← bounded? 24 (twoDigits? cs)
  let (_, rest) ← bounded? 60 (twoDigits? (← expect? ':' rest))
  let (seconds, rest) ← readSeconds? rest
  return (String.ofList (cs.take 5) ++ seconds, rest)

def offset? : List Char → Option String
  | [] => some ""
  | ['Z'] | ['z'] => some "Z"
  | c :: cs =>
    if c = '+' || c = '-' then do
      let (_, rest) ← bounded? 24 (twoDigits? cs)
      let (_, rest) ← bounded? 60 (twoDigits? (← expect? ':' rest))
      if rest.isEmpty then some (String.ofList (c :: cs)) else none
    else none

def moment? (cs : List Char) : Option Toml :=
  match readDate? cs with
  | some (date, []) => some (.moment date)
  | some (date, mark :: rest) =>
    if mark = 'T' || mark = 't' || mark = ' ' then do
      let (time, rest) ← readTime? rest
      return .moment (date ++ "T" ++ time ++ (← offset? rest))
    else none
  | none =>
    match readTime? cs with
    | some (time, []) => some (.moment time)
    | _ => none

def scalar? (cs : List Char) : Option Toml :=
  match cs with
  | ['t', 'r', 'u', 'e'] => some (.bool true)
  | ['f', 'a', 'l', 's', 'e'] => some (.bool false)
  | _ => (number? cs).or (moment? cs)

end Remedy.Toml
