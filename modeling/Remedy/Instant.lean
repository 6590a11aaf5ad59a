import Remedy.Text.Basic

/-! Points in time of the proleptic Gregorian calendar, read and written as RFC 3339 texts. -/

namespace Remedy

/-- Seconds since 1970 and the fraction after them; in a leap second the fraction is a second or more. -/
structure Instant where
  seconds : Int
  nanos : Nat
  deriving DecidableEq, Repr, Inhabited

namespace Instant

def isLeapYear (y : Int) : Bool := y % 4 = 0 && (y % 100 ≠ 0 || y % 400 = 0)

def monthLength (y : Int) (m : Nat) : Nat :=
  if m = 2 then (if isLeapYear y then 29 else 28)
  else if m = 4 || m = 6 || m = 9 || m = 11 then 30
  else 31

/-- Days from 1970-01-01 to a date. Years are counted from March, so that a leap day ends one. -/
def daysOfDate (y : Int) (m d : Nat) : Int :=
  let y := if m ≤ 2 then y - 1 else y
  let era := y / 400
  let yearOfEra := y - era * 400
  let monthFromMarch : Int := if m ≤ 2 then (m : Int) + 9 else (m : Int) - 3
  let dayOfYear := (153 * monthFromMarch + 2) / 5 + (d : Int) - 1
  era * 146097 + yearOfEra * 365 + yearOfEra / 4 - yearOfEra / 100 + dayOfYear - 719468

def dateOfDays (days : Int) : Int × Nat × Nat :=
  let z := days + 719468
  let era := z / 146097
  let dayOfEra := z - era * 146097
  let yearOfEra := (dayOfEra - dayOfEra / 1460 + dayOfEra / 36524 - dayOfEra / 146096) / 365
  let dayOfYear := dayOfEra - (365 * yearOfEra + yearOfEra / 4 - yearOfEra / 100)
  let monthFromMarch := (5 * dayOfYear + 2) / 153
  let day := dayOfYear - (153 * monthFromMarch + 2) / 5 + 1
  let month := if monthFromMarch < 10 then monthFromMarch + 3 else monthFromMarch - 9
  let year := yearOfEra + era * 400 + (if month ≤ 2 then 1 else 0)
  (year, month.toNat, day.toNat)

def firstYear : Int := -262143

def lastYear : Int := 262142

def inCalendar (t : Instant) : Bool :=
  daysOfDate firstYear 1 1 * 86400 ≤ t.seconds && t.seconds < daysOfDate (lastYear + 1) 1 1 * 86400

def padded (width n : Nat) : String :=
  let s := Text.natText n
  "".pushn '0' (width - s.length) ++ s

def yearText (y : Int) : String :=
  if 0 ≤ y && y ≤ 9999 then padded 4 y.toNat
  else (if y < 0 then "-" else "+") ++ padded 4 y.natAbs

def fractionText (nanos : Nat) : String :=
  if nanos = 0 then ""
  else if nanos % 1000000 = 0 then "." ++ padded 3 (nanos / 1000000)
  else if nanos % 1000 = 0 then "." ++ padded 6 (nanos / 1000)
  else "." ++ padded 9 nanos

def text (t : Instant) : String :=
  let (y, m, d) := dateOfDays (t.seconds / 86400)
  let s := (t.seconds % 86400).toNat
  let leap := decide (1000000000 ≤ t.nanos)
  yearText y ++ "-" ++ padded 2 m ++ "-" ++ padded 2 d ++ "T" ++ padded 2 (s / 3600) ++ ":" ++
    padded 2 (s / 60 % 60) ++ ":" ++ padded 2 (s % 60 + (if leap then 1 else 0)) ++
    fractionText (if leap then t.nanos - 1000000000 else t.nanos) ++ "Z"

def minuteText (t : Instant) : String :=
  let (y, m, d) := dateOfDays (t.seconds / 86400)
  let s := (t.seconds % 86400).toNat
  yearText y ++ "-" ++ padded 2 m ++ "-" ++ padded 2 d ++ " " ++ padded 2 (s / 3600) ++ ":" ++
    padded 2 (s / 60 % 60) ++ " UTC"

def readDigits? (width : Nat) (cs : List Char) : Option (Nat × List Char) :=
  let digits := (cs.take width).takeWhile Char.isDigit
  (Text.readNat? digits).map fun n => (n, cs.drop digits.length)

def readField? (width low high : Nat) (cs : List Char) : Option (Nat × List Char) :=
  match readDigits? width (Text.trimStart cs) with
  | some (n, rest) => if low ≤ n && n ≤ high then some (n, rest) else none
  | none => none

/-- A sign before a digit allows more than four digits. -/
def readYear? (cs : List Char) : Option (Int × List Char) :=
  match Text.trimStart cs with
  | '-' :: rest => (readDigits? rest.length rest).map fun (n, r) => (-(n : Int), r)
  | '+' :: rest => (readDigits? rest.length rest).map fun (n, r) => ((n : Int), r)
  | cs => (readDigits? 4 cs).map fun (n, r) => ((n : Int), r)

def readMark? (mark : Char) (cs : List Char) : Option (List Char) :=
  match Text.trimStart cs with
  | c :: rest => if c = mark then some rest else none
  | [] => none

/-- Digits beyond the ninth are passed over. -/
def readFraction? : List Char → Option (Nat × List Char)
  | '.' :: cs =>
    let digits := cs.takeWhile Char.isDigit
    (Text.readNat? (digits.take 9)).map fun n =>
      (n * Nat.pow 10 (9 - (digits.take 9).length), cs.drop digits.length)
  | cs => some (0, cs)

def readOffset? (cs : List Char) : Option (Int × List Char) :=
  match cs with
  | 'Z' :: rest | 'z' :: rest => some (0, rest)
  | sign :: rest =>
    if (String.ofList (cs.take 3)).toUpper = "UTC" then some (0, cs.drop 3)
    else if sign ≠ '+' && sign ≠ '-' && sign ≠ '−' then none
    else
      match rest with
      | h :: h' :: rest =>
        match Text.readNat? [h, h'], rest.dropWhile fun c => c = ':' || Text.isBlank c with
        | some hours, m :: m' :: rest =>
          match Text.readNat? [m, m'] with
          | some minutes =>
            if minutes < 60 then
              let east : Int := hours * 3600 + minutes * 60
              some (if sign = '+' then east else -east, rest)
            else none
          | none => none
        | _, _ => none
      | _ => none
  | [] => none

def readParts? (cs : List Char) : Option (Instant × List Char) := do
  let (y, cs) ← readYear? cs
  let cs ← readMark? '-' cs
  let (m, cs) ← readField? 2 1 12 cs
  let cs ← readMark? '-' cs
  let (d, cs) ← readField? 2 1 31 cs
  let cs ← match cs with
    | 'T' :: rest | 't' :: rest | ' ' :: rest => some rest
    | _ => none
  let (hour, cs) ← readField? 2 0 23 cs
  let cs ← readMark? ':' cs
  let (minute, cs) ← readField? 2 0 59 cs
  let cs ← readMark? ':' cs
  let (second, cs) ← readField? 2 0 60 cs
  let (nanos, cs) ← readFraction? cs
  let (offset, cs) ← readOffset? (Text.trimStart cs)
  if monthLength y m < d || y < firstYear || lastYear < y || 86400 ≤ offset.natAbs then none
  else
    let leap := decide (second = 60)
    let seconds := daysOfDate y m d * 86400 + hour * 3600 + minute * 60 +
      (if leap then 59 else second) - offset
    let t : Instant := ⟨seconds, if leap then nanos + 1000000000 else nanos⟩
    if t.inCalendar then some (t, cs) else none

def read? (s : String) : Option Instant :=
  match readParts? s.toList with
  | some (t, rest) => if Text.isAllBlank (String.ofList rest) then some t else none
  | none => none

end Instant

end Remedy
