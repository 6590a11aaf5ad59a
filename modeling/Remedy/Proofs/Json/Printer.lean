import Remedy.Json.Printer

/-! The indented text of a value, character by character. -/

namespace Remedy.Json

def newlineChars (depth : Nat) : List Char := '\n' :: List.replicate (2 * depth) ' '

mutual

def charsAt (depth : Nat) : Json → List Char
  | null | unfit => ['n', 'u', 'l', 'l']
  | bool b => if b then ['t', 'r', 'u', 'e'] else ['f', 'a', 'l', 's', 'e']
  | nat n => (toString n.toNat).toList
  | neg n => (toString n.toInt).toList
  | real x => (realText x).toList
  | str s => '"' :: s.toList.flatMap escaped ++ ['"']
  | arr [] => ['[', ']']
  | arr (j :: rest) =>
    '[' :: List.intercalate [','] (itemsChars (depth + 1) (j :: rest)) ++ newlineChars depth ++ [']']
  | obj [] => ['\x7b', '\x7d']
  | obj (f :: rest) =>
    '\x7b' :: List.intercalate [','] (fieldsChars (depth + 1) (f :: rest)) ++ newlineChars depth ++ ['\x7d']

def itemsChars (depth : Nat) : List Json → List (List Char)
  | [] => []
  | j :: rest => (newlineChars depth ++ charsAt depth j) :: itemsChars depth rest

def fieldsChars (depth : Nat) : List (String × Json) → List (List Char)
  | [] => []
  | (key, j) :: rest =>
    (newlineChars depth ++ ('"' :: key.toList.flatMap escaped ++ ['"']) ++ [':', ' '] ++ charsAt depth j) ::
      fieldsChars depth rest

end

theorem toList_pushn (s : String) (c : Char) (n : Nat) :
    (s.pushn c n).toList = s.toList ++ List.replicate n c := by
  rw [String.pushn_eq_repeat_push]
  induction n with
  | zero => simp [Nat.repeat]
  | succ n ih =>
      rw [Nat.repeat, String.toList_push, ih, List.append_assoc, List.replicate_succ']

theorem toList_newline (depth : Nat) : (newline depth).toList = newlineChars depth := by
  simp [newline, newlineChars, toList_pushn]

theorem toList_quoted (s : String) : (quoted s).toList = '"' :: s.toList.flatMap escaped ++ ['"'] := by
  rw [quoted, String.toList_ofList]

mutual

theorem toList_prettyAt (depth : Nat) (j : Json) : (prettyAt depth j).toList = charsAt depth j := by
  cases j with
  | null | unfit => simp [prettyAt, charsAt]
  | bool b => cases b <;> simp [prettyAt, charsAt]
  | nat n => rfl
  | neg n => rfl
  | real x => rfl
  | str s => exact toList_quoted s
  | arr items =>
      cases items with
      | nil => simp [prettyAt, charsAt]
      | cons j rest =>
          rw [prettyAt, charsAt, ← map_toList_prettyItems]
          simp [String.toList_intercalate, toList_newline]
  | obj fields =>
      cases fields with
      | nil => simp [prettyAt, charsAt]
      | cons f rest =>
          rw [prettyAt, charsAt, ← map_toList_prettyFields]
          simp [String.toList_intercalate, toList_newline]

theorem map_toList_prettyItems (depth : Nat) (items : List Json) :
    (prettyItems depth items).map String.toList = itemsChars depth items := by
  cases items with
  | nil => rfl
  | cons j rest =>
      rw [prettyItems, itemsChars, ← toList_prettyAt, ← map_toList_prettyItems]
      simp [toList_newline]

theorem map_toList_prettyFields (depth : Nat) (fields : List (String × Json)) :
    (prettyFields depth fields).map String.toList = fieldsChars depth fields := by
  cases fields with
  | nil => rfl
  | cons f rest =>
      obtain ⟨key, j⟩ := f
      rw [prettyFields, fieldsChars, ← toList_prettyAt, ← map_toList_prettyFields]
      simp [toList_newline, toList_quoted]

end

theorem toList_pretty (j : Json) : j.pretty.toList = charsAt 0 j := toList_prettyAt 0 j

end Remedy.Json
