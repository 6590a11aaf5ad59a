import Remedy.Json.Number
import Remedy.Text.Basic

/-! Decimal digits of numbers. Main statement: the digits of a number that fits are gathered to that number. -/

namespace Remedy

namespace Text

theorem toDigits_isDigit {n : Nat} {c : Char} (member : c ∈ Nat.toDigits 10 n) : c.isDigit = true :=
  Nat.isDigit_of_mem_toDigits (by decide) (by decide) member

theorem toDigits_all (n : Nat) : (Nat.toDigits 10 n).all Char.isDigit = true :=
  List.all_eq_true.mpr fun _ member => toDigits_isDigit member

theorem toDigits_head? {n : Nat} (positive : 0 < n) : (Nat.toDigits 10 n).head? ≠ some '0' := by
  induction n using Nat.strongRecOn with
  | ind n ih =>
      by_cases small : n < 10
      · rw [Nat.toDigits_of_lt_base small]
        simpa using Nat.ne_of_gt positive
      · have front := ih (n / 10) (by omega) (by omega)
        rw [Nat.toDigits_of_base_le (by decide) (by omega), List.head?_append]
        cases first : (Nat.toDigits 10 (n / 10)).head? with
        | none => exact absurd (List.head?_eq_none_iff.mp first) Nat.toDigits_ne_nil
        | some c => rwa [first] at front

theorem toDigits_zero_or (n : Nat) : Nat.toDigits 10 n = ['0'] ∨ (Nat.toDigits 10 n).head? ≠ some '0' := by
  rcases Nat.eq_zero_or_pos n with rfl | positive
  · exact .inl (Nat.toDigits_zero 10)
  · exact .inr (toDigits_head? positive)

theorem readNat?_toDigits (n : Nat) : readNat? (Nat.toDigits 10 n) = some n := by
  unfold readNat?
  rw [List.isEmpty_eq_false_iff.mpr Nat.toDigits_ne_nil, toDigits_all]
  exact congrArg some Nat.ofDigitChars_ten_toDigits

theorem natText_injective : Function.Injective natText := by
  intro m n same
  have digits : Nat.toDigits 10 m = Nat.toDigits 10 n := String.ofList_injective same
  rw [← Option.some.injEq, ← readNat?_toDigits m, digits, readNat?_toDigits]

theorem toDigits_head?_of_not_digit {n : Nat} {c : Char} (other : c.isDigit = false) :
    (Nat.toDigits 10 n).head? ≠ some c := by
  intro first
  rw [toDigits_isDigit (List.mem_of_head? first)] at other
  cases other

theorem readUnsigned?_toDigits {n bound : Nat} (fits : n < bound) :
    readUnsigned? bound (Nat.toDigits 10 n) = some n := by
  have unsigned := toDigits_head?_of_not_digit (n := n) (c := '+') rfl
  have read := readNat?_toDigits n
  unfold readUnsigned?
  generalize Nat.toDigits 10 n = digits at unsigned read
  split
  · simp at unsigned
  · simp only [read, if_pos fits]

end Text

namespace Json

theorem le_ofDigitChars (cs : List Char) (init : Nat) : init ≤ Nat.ofDigitChars 10 cs init := by
  induction cs generalizing init with
  | nil => simp
  | cons c rest ih =>
      rw [Nat.ofDigitChars_cons]
      have later := ih (10 * init + (c.toNat - '0'.toNat))
      omega

theorem gather_of_fits (cs : List Char) (init taken : Nat) (fits : Nat.ofDigitChars 10 cs init < bound64) :
    gather init taken cs = (Nat.ofDigitChars 10 cs init, taken + cs.length, []) := by
  induction cs generalizing init taken with
  | nil => simp [gather]
  | cons c rest ih =>
      rw [Nat.ofDigitChars_cons] at fits ⊢
      have here := Nat.lt_of_le_of_lt (le_ofDigitChars rest _) fits
      rw [gather, digitValue, if_pos here, ih _ _ fits, List.length_cons]
      congr 2
      omega

theorem gather_toDigits {n : Nat} (fits : n < bound64) :
    gather 0 0 (Nat.toDigits 10 n) = (n, (Nat.toDigits 10 n).length, []) := by
  have value : Nat.ofDigitChars 10 (Nat.toDigits 10 n) 0 = n := Nat.ofDigitChars_ten_toDigits
  rw [gather_of_fits _ _ _ (by rw [value]; exact fits), value, Nat.zero_add]

end Json

end Remedy
