/-! Numbers in hexadecimal digits. -/

namespace Remedy.Text.Hex

def value? (c : Char) : Option Nat :=
  if c.isDigit then some (c.toNat - '0'.toNat)
  else if 'a' ≤ c && c ≤ 'f' then some (c.toNat - 'a'.toNat + 10)
  else if 'A' ≤ c && c ≤ 'F' then some (c.toNat - 'A'.toNat + 10)
  else none

def number? (cs : List Char) : Option Nat :=
  cs.foldl (fun n? c => do return 16 * (← n?) + (← value? c)) (some 0)

def charOf? (n : Nat) : Option Char := if n.isValidChar then some (Char.ofNat n) else none

def digits (width n : Nat) : List Char :=
  let ds := Nat.toDigits 16 n
  List.replicate (width - ds.length) '0' ++ ds

def ofBytes (bytes : List UInt8) : List Char := bytes.flatMap fun b => digits 2 b.toNat

def bytes? : List Char → Option (List UInt8)
  | [] => some []
  | [_] => none
  | a :: b :: rest => do
    let n ← number? [a, b]
    return UInt8.ofNat n :: (← bytes? rest)

end Remedy.Text.Hex
