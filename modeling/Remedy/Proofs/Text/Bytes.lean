import Mathlib.Data.List.Basic
import Remedy.Text.Bytes

/-! Byte offsets as lengths of what stands before them. Main statement: an offset is a boundary exactly if it is
the length of the beginning of the text. -/

namespace Remedy.Text

theorem byteLength_append (a b : List Char) : byteLength (a ++ b) = byteLength a + byteLength b := by
  induction a with
  | nil => simp [byteLength]
  | cons c cs ih => simp [byteLength, ih, Nat.add_assoc]

theorem byteLength_eq_zero {cs : List Char} : byteLength cs = 0 ↔ cs = [] := by
  cases cs with
  | nil => simp [byteLength]
  | cons c cs => simp [byteLength, Nat.ne_of_gt c.utf8Size_pos]

theorem byteLength_cons_sub (c : Char) (cs : List Char) :
    byteLength (c :: cs) - c.utf8Size = byteLength cs := Nat.add_sub_cancel_left _ _

theorem byteLength_cons_pos (c : Char) (cs : List Char) : byteLength (c :: cs) ≠ 0 :=
  fun zero => List.cons_ne_nil c cs (byteLength_eq_zero.mp zero)

theorem prefix_of_byteLength_le {a b cs : List Char} (first : a <+: cs) (second : b <+: cs)
    (shorter : byteLength a ≤ byteLength b) : a <+: b := by
  rcases List.prefix_or_prefix_of_prefix first second with begins | ⟨more, rfl⟩
  · exact begins
  · rw [byteLength_append] at shorter
    have none : more = [] := byteLength_eq_zero.mp (by omega)
    simp [none]

theorem splitAt?_append (a b : List Char) : splitAt? (a ++ b) (byteLength a) = some (a, b) := by
  induction a with
  | nil => cases b <;> rfl
  | cons c cs ih =>
      have fits : c.utf8Size ≤ byteLength (c :: cs) := Nat.le_add_right _ _
      obtain ⟨n, offset⟩ := Nat.exists_eq_succ_of_ne_zero (byteLength_cons_pos c cs)
      have rest := byteLength_cons_sub c cs
      rw [offset] at fits rest ⊢
      rw [List.cons_append, splitAt?, if_pos fits, rest, ih]
      rfl

theorem isBoundary_append (a b : List Char) : isBoundary (a ++ b) (byteLength a) = true := by
  rw [isBoundary, splitAt?_append]
  rfl

theorem splitAt?_sound {cs a b : List Char} {n : Nat} (divided : splitAt? cs n = some (a, b)) :
    cs = a ++ b ∧ byteLength a = n := by
  induction cs generalizing n a with
  | nil =>
      cases n with
      | zero =>
          cases divided
          exact ⟨rfl, rfl⟩
      | succ n => cases divided
  | cons c cs ih =>
      cases n with
      | zero =>
          cases divided
          exact ⟨rfl, rfl⟩
      | succ n =>
          rw [splitAt?] at divided
          split at divided
          · rename_i fits
            obtain ⟨⟨front, back⟩, later, same⟩ := Option.map_eq_some_iff.mp divided
            cases same
            obtain ⟨rfl, length⟩ := ih later
            refine ⟨rfl, ?_⟩
            rw [byteLength, length]
            omega
          · cases divided

/-- An offset is a boundary exactly if it is the length of a beginning of the text. -/
theorem isBoundary_iff {cs : List Char} {n : Nat} :
    isBoundary cs n = true ↔ ∃ front back, cs = front ++ back ∧ byteLength front = n := by
  constructor
  · intro boundary
    obtain ⟨⟨front, back⟩, divided⟩ := Option.isSome_iff_exists.mp boundary
    exact ⟨front, back, splitAt?_sound divided⟩
  · rintro ⟨front, back, rfl, rfl⟩
    exact isBoundary_append front back

theorem takeBytes_append (a b : List Char) : takeBytes (byteLength a) (a ++ b) = a := by
  induction a with
  | nil => cases b <;> rfl
  | cons c cs ih =>
      obtain ⟨n, offset⟩ := Nat.exists_eq_succ_of_ne_zero (byteLength_cons_pos c cs)
      have rest := byteLength_cons_sub c cs
      rw [offset] at rest ⊢
      rw [List.cons_append, takeBytes, rest, ih]

theorem dropBytes_append (a b : List Char) : dropBytes (byteLength a) (a ++ b) = b := by
  induction a with
  | nil => cases b <;> rfl
  | cons c cs ih =>
      obtain ⟨n, offset⟩ := Nat.exists_eq_succ_of_ne_zero (byteLength_cons_pos c cs)
      have rest := byteLength_cons_sub c cs
      rw [offset] at rest ⊢
      rw [List.cons_append, dropBytes, rest, ih]

theorem sliceBytes_append (a b c : List Char) :
    sliceBytes (byteLength a) (byteLength a + byteLength b) (a ++ b ++ c) = b := by
  rw [sliceBytes, Nat.add_sub_cancel_left, List.append_assoc, dropBytes_append, takeBytes_append]

end Remedy.Text
