import Mathlib.Data.List.TakeWhile
import Remedy.Proofs.Text.Digits

/-! Reading a number does not look past its end. Main statements: whatever closes a number may follow it, and whole
numbers of 64 bits are read back from their digits. -/

namespace Remedy.Json

def Closes (tail : List Char) : Prop :=
  ∀ c, tail.head? = some c → c.isDigit = false ∧ c ≠ '.' ∧ c ≠ 'e' ∧ c ≠ 'E'

variable {tail : List Char}

theorem takeWhile_closed (closes : Closes tail) (cs : List Char) :
    (cs ++ tail).takeWhile Char.isDigit = cs.takeWhile Char.isDigit := by
  have none : tail.takeWhile Char.isDigit = [] := by
    cases tail with
    | nil => rfl
    | cons c rest => rw [List.takeWhile_cons, (closes c rfl).1, if_neg Bool.false_ne_true]
  induction cs with
  | nil => exact none
  | cons c rest ih => rw [List.cons_append, List.takeWhile_cons, List.takeWhile_cons, ih]

theorem dropWhile_closed (closes : Closes tail) (cs : List Char) :
    (cs ++ tail).dropWhile Char.isDigit = cs.dropWhile Char.isDigit ++ tail := by
  have all : tail.dropWhile Char.isDigit = tail := by
    cases tail with
    | nil => rfl
    | cons c rest => rw [List.dropWhile_cons, (closes c rfl).1, if_neg Bool.false_ne_true]
  induction cs with
  | nil => exact all
  | cons c rest ih =>
      rw [List.cons_append, List.dropWhile_cons, List.dropWhile_cons]
      split
      · exact ih
      · rfl

variable {negative : Bool} {significand : Nat} {exponent : Int} {cs rest : List Char} {j : Json}

section Parts

variable (negative : Bool) (significand : Nat) (exponent : Int)

def exponentAfter? (down : Bool) (cs : List Char) : Option (Json × List Char) :=
  if (cs.takeWhile Char.isDigit).isEmpty then none
  else
    match exponentDigits 0 (cs.takeWhile Char.isDigit) with
    | some e =>
      (scaled? negative significand (saturate (if down then exponent - e else exponent + e))).map
        (·, cs.dropWhile Char.isDigit)
    | none =>
      if significand ≠ 0 && !down then none
      else some (real (if negative then -0.0 else 0.0), cs.dropWhile Char.isDigit)

theorem readExponent?_cons (c : Char) (body : List Char) :
    readExponent? negative significand exponent (c :: body) =
      exponentAfter? negative significand exponent (c = '-') (if c = '+' ∨ c = '-' then body else c :: body) := by
  by_cases plus : c = '+'
  · subst plus
    rfl
  by_cases minus : c = '-'
  · subst minus
    rfl
  unfold readExponent?
  split
  rename_i down digits signed
  split at signed
  · rename_i first
    cases first
    exact absurd rfl plus
  · rename_i first
    cases first
    exact absurd rfl minus
  · cases signed
    simp only [plus, minus, or_self, ↓reduceIte, decide_false]
    rfl

theorem readScale?_cons (c : Char) (body : List Char) :
    readScale? negative significand exponent (c :: body) =
      if c = 'e' ∨ c = 'E' then readExponent? negative significand exponent body
      else (scaled? negative significand exponent).map (·, c :: body) := by
  unfold readScale?
  split
  · rename_i first
    cases first
    rfl
  · rename_i first
    cases first
    rfl
  · rename_i small large
    have other : ¬(c = 'e' ∨ c = 'E') := by
      rintro (rfl | rfl)
      · exact small _ rfl
      · exact large _ rfl
    rw [if_neg other]

def magnitudeAfter? (n : Nat) (left : List Char) (rest : List Char) : Option (Json × List Char) :=
  match rest with
  | '.' :: after => readFraction? negative n left.length after
  | 'e' :: after | 'E' :: after => readExponent? negative n left.length after
  | _ =>
    if !left.isEmpty then (scaled? negative n left.length).map (·, rest)
    else if !negative then some (nat (UInt64.ofNat n), rest)
    else if n = 0 || 0x8000000000000000 < n then some (real (-(Float.ofNat n)), rest)
    else some (neg (Int64.ofInt (-(n : Int))), rest)

def whole? (n : Nat) (left : List Char) : Option Json :=
  if !left.isEmpty then scaled? negative n left.length
  else if !negative then some (nat (UInt64.ofNat n))
  else if n = 0 || 0x8000000000000000 < n then some (real (-(Float.ofNat n)))
  else some (neg (Int64.ofInt (-(n : Int))))

theorem readMagnitude?_eq (cs : List Char) :
    readMagnitude? negative cs =
      if (cs.takeWhile Char.isDigit).isEmpty ||
          ((cs.takeWhile Char.isDigit).head? = some '0' && 1 < (cs.takeWhile Char.isDigit).length) then none
      else magnitudeAfter? negative (gather 0 0 (cs.takeWhile Char.isDigit)).1
        (gather 0 0 (cs.takeWhile Char.isDigit)).2.2 (cs.dropWhile Char.isDigit) := rfl

theorem magnitudeAfter?_whole (n : Nat) (left : List Char) {rest : List Char}
    (ended : ∀ c, rest.head? = some c → c ≠ '.' ∧ c ≠ 'e' ∧ c ≠ 'E') :
    magnitudeAfter? negative n left rest = (whole? negative n left).map (·, rest) := by
  unfold magnitudeAfter? whole?
  split
  · exact absurd rfl (ended '.' rfl).1
  · exact absurd rfl (ended 'e' rfl).2.1
  · exact absurd rfl (ended 'E' rfl).2.2
  · repeat' split
    all_goals rfl

theorem magnitudeAfter?_cons (n : Nat) (left : List Char) (c : Char) (body : List Char) :
    magnitudeAfter? negative n left (c :: body) =
      if c = '.' then readFraction? negative n left.length body
      else if c = 'e' ∨ c = 'E' then readExponent? negative n left.length body
      else (whole? negative n left).map (·, c :: body) := by
  by_cases point : c = '.'
  · subst point
    rfl
  by_cases small : c = 'e'
  · subst small
    rfl
  by_cases large : c = 'E'
  · subst large
    rfl
  rw [if_neg point, if_neg (not_or.mpr ⟨small, large⟩)]
  refine magnitudeAfter?_whole negative n left ?_
  rintro c' ⟨⟩
  exact ⟨point, small, large⟩

end Parts

variable {negative : Bool} {significand : Nat} {exponent : Int} {cs rest : List Char} {j : Json}

theorem exponentAfter?_closed (closes : Closes tail) {down : Bool}
    (read : exponentAfter? negative significand exponent down cs = some (j, rest)) :
    exponentAfter? negative significand exponent down (cs ++ tail) = some (j, rest ++ tail) := by
  unfold exponentAfter? at read ⊢
  rw [takeWhile_closed closes, dropWhile_closed closes]
  split at read
  · cases read
  · rename_i digits
    rw [if_neg digits]
    cases value : exponentDigits 0 (cs.takeWhile Char.isDigit) with
    | some e =>
        simp only [value, Option.map_eq_some_iff, Prod.mk.injEq] at read ⊢
        obtain ⟨number, scaled, rfl, rfl⟩ := read
        exact ⟨_, scaled, rfl, rfl⟩
    | none =>
        simp only [value] at read ⊢
        split at read
        · cases read
        · rename_i small
          cases read
          rw [if_neg small]

theorem readExponent?_closed (closes : Closes tail)
    (read : readExponent? negative significand exponent cs = some (j, rest)) :
    readExponent? negative significand exponent (cs ++ tail) = some (j, rest ++ tail) := by
  cases cs with
  | nil => simp [readExponent?] at read
  | cons c body =>
      rw [readExponent?_cons] at read
      rw [List.cons_append, readExponent?_cons]
      by_cases sign : c = '+' ∨ c = '-'
      · rw [if_pos sign] at read ⊢
        exact exponentAfter?_closed closes read
      · rw [if_neg sign] at read ⊢
        exact exponentAfter?_closed closes read

theorem map_closed (tail : List Char) {found : Option Json} (read : found.map (·, cs) = some (j, rest)) :
    found.map (·, cs ++ tail) = some (j, rest ++ tail) := by
  obtain ⟨number, scaled, same⟩ := Option.map_eq_some_iff.mp read
  cases same
  rw [scaled]
  rfl

theorem readScale?_closed (closes : Closes tail)
    (read : readScale? negative significand exponent cs = some (j, rest)) :
    readScale? negative significand exponent (cs ++ tail) = some (j, rest ++ tail) := by
  cases cs with
  | nil =>
      rw [List.nil_append]
      cases tail with
      | nil => simpa using read
      | cons c body =>
          obtain ⟨-, -, small, large⟩ := closes c rfl
          rw [readScale?_cons, if_neg (not_or.mpr ⟨small, large⟩)]
          exact map_closed (c :: body) read
  | cons c body =>
      rw [readScale?_cons] at read
      rw [List.cons_append, readScale?_cons]
      by_cases scale : c = 'e' ∨ c = 'E'
      · rw [if_pos scale] at read ⊢
        exact readExponent?_closed closes read
      · rw [if_neg scale] at read ⊢
        exact map_closed tail read

theorem readFraction?_closed (closes : Closes tail)
    (read : readFraction? negative significand exponent cs = some (j, rest)) :
    readFraction? negative significand exponent (cs ++ tail) = some (j, rest ++ tail) := by
  unfold readFraction? at read ⊢
  simp only [takeWhile_closed closes, dropWhile_closed closes] at read ⊢
  split at read
  · cases read
  · rename_i digits
    rw [if_neg digits]
    exact readScale?_closed closes read

theorem magnitudeAfter?_closed (closes : Closes tail) {n : Nat} {left : List Char}
    (read : magnitudeAfter? negative n left cs = some (j, rest)) :
    magnitudeAfter? negative n left (cs ++ tail) = some (j, rest ++ tail) := by
  cases cs with
  | nil =>
      rw [magnitudeAfter?_whole negative n left (by simp)] at read
      rw [List.nil_append, magnitudeAfter?_whole negative n left fun c first => (closes c first).2]
      exact map_closed tail read
  | cons c body =>
      rw [magnitudeAfter?_cons] at read
      rw [List.cons_append, magnitudeAfter?_cons]
      by_cases point : c = '.'
      · rw [if_pos point] at read ⊢
        exact readFraction?_closed closes read
      rw [if_neg point] at read ⊢
      by_cases scale : c = 'e' ∨ c = 'E'
      · rw [if_pos scale] at read ⊢
        exact readExponent?_closed closes read
      · rw [if_neg scale] at read ⊢
        exact map_closed tail read

theorem readMagnitude?_closed (closes : Closes tail) (read : readMagnitude? negative cs = some (j, rest)) :
    readMagnitude? negative (cs ++ tail) = some (j, rest ++ tail) := by
  rw [readMagnitude?_eq] at read ⊢
  rw [takeWhile_closed closes, dropWhile_closed closes]
  split at read
  · cases read
  · rename_i digits
    rw [if_neg digits]
    exact magnitudeAfter?_closed closes read

theorem readNumber?_cons (c : Char) (body : List Char) :
    readNumber? (c :: body) = readMagnitude? (c = '-') (if c = '-' then body else c :: body) := by
  by_cases minus : c = '-'
  · subst minus
    rfl
  · unfold readNumber?
    split
    · rename_i first
      cases first
      exact absurd rfl minus
    · rw [if_neg minus, decide_eq_false minus]

theorem readNumber?_closed (closes : Closes tail) (read : readNumber? cs = some (j, rest)) :
    readNumber? (cs ++ tail) = some (j, rest ++ tail) := by
  cases cs with
  | nil => cases read
  | cons c body =>
      rw [readNumber?_cons] at read
      rw [List.cons_append, readNumber?_cons]
      by_cases minus : c = '-'
      · rw [if_pos minus] at read ⊢
        exact readMagnitude?_closed closes read
      · rw [if_neg minus] at read ⊢
        exact readMagnitude?_closed closes read

theorem readMagnitude?_toDigits (negative : Bool) {n : Nat} (fits : n < bound64) :
    readMagnitude? negative (Nat.toDigits 10 n) = (whole? negative n []).map (·, []) := by
  have all : ∀ c ∈ Nat.toDigits 10 n, c.isDigit = true := fun _ member => Text.toDigits_isDigit member
  have taken : (Nat.toDigits 10 n).takeWhile Char.isDigit = Nat.toDigits 10 n := List.takeWhile_eq_self_iff.mpr all
  have dropped : (Nat.toDigits 10 n).dropWhile Char.isDigit = [] := List.dropWhile_eq_nil_iff.mpr all
  have proper : ((Nat.toDigits 10 n).head? = some '0' && 1 < (Nat.toDigits 10 n).length : Bool) = false := by
    rcases Text.toDigits_zero_or n with zero | other
    · rw [zero]
      rfl
    · rw [decide_eq_false other, Bool.false_and]
  rw [readMagnitude?_eq, taken, dropped, proper, gather_toDigits fits,
    List.isEmpty_eq_false_iff.mpr Nat.toDigits_ne_nil]
  have ended : ∀ c, [].head? = some c → c ≠ '.' ∧ c ≠ 'e' ∧ c ≠ 'E' := by simp
  exact magnitudeAfter?_whole negative n [] ended

theorem readNumber?_nat (n : UInt64) : readNumber? (Nat.toDigits 10 n.toNat) = some (nat n, []) := by
  have fits : n.toNat < bound64 := n.toNat_lt
  have digits := readMagnitude?_toDigits false fits
  have signless := Text.toDigits_head?_of_not_digit (n := n.toNat) (c := '-') rfl
  cases first : Nat.toDigits 10 n.toNat with
  | nil => exact absurd first Nat.toDigits_ne_nil
  | cons c body =>
      rw [first] at digits signless
      have minus : c ≠ '-' := by simpa using signless
      rw [readNumber?_cons, if_neg minus, decide_eq_false minus, digits]
      simp [whole?]

theorem readNumber?_neg {n : Int64} (negative : n < 0) :
    readNumber? ('-' :: Nat.toDigits 10 n.toInt.natAbs) = some (neg n, []) := by
  have below : n.toInt < 0 := Int64.lt_iff_toInt_lt.mp negative
  have least := n.le_toInt
  have fits : n.toInt.natAbs < bound64 := by
    unfold bound64
    simp only [UInt64.size]
    omega
  have inRange : ¬(n.toInt.natAbs = 0 ∨ 0x8000000000000000 < n.toInt.natAbs) := by omega
  have value : Int64.ofInt (-(n.toInt.natAbs : Int)) = n := by
    have magnitude : -(n.toInt.natAbs : Int) = n.toInt := by omega
    rw [magnitude, Int64.ofInt_toInt]
  have number : whole? true n.toInt.natAbs [] = some (neg n) := by
    unfold whole?
    rw [if_neg (by decide), if_neg (by decide), if_neg, value]
    simp only [Bool.or_eq_true, decide_eq_true_eq]
    exact inRange
  rw [readNumber?_cons, if_pos rfl, decide_eq_true rfl, readMagnitude?_toDigits true fits, number]
  rfl

end Remedy.Json
