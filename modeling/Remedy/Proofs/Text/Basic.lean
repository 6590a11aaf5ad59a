import Mathlib.Data.List.DropRight
import Mathlib.Data.List.Infix
import Remedy.Text.Basic

/-! Substrings, pieces and lines of texts. Main statement: whole lines in front of a text are lines of their own. -/

namespace Remedy.Text

theorem occursIn_iff {needle cs : List Char} : occursIn needle cs = true ↔ needle <:+: cs := by
  induction cs with
  | nil => simp [occursIn]
  | cons c cs ih => rw [occursIn, Bool.or_eq_true, List.isPrefixOf_iff_prefix, ih, List.infix_cons_iff]

theorem trim_part (cs : List Char) : trim cs <:+: cs := by
  have front : trim cs <+: trimStart cs := by
    rw [← List.reverse_suffix, trim, trimEnd, List.reverse_reverse]
    exact List.dropWhile_suffix isBlank
  exact front.isInfix.trans (List.dropWhile_suffix isBlank).isInfix

theorem trim_begins {first last : Char} (solid : isBlank first = false) (solid' : isBlank last = false)
    (middle rest : List Char) : first :: middle ++ [last] <+: trim (first :: middle ++ last :: rest) := by
  have front : trimStart (first :: middle ++ last :: rest) = first :: middle ++ last :: rest := by
    simp [trimStart, solid]
  have flipped : (first :: middle ++ last :: rest).reverse = rest.reverse ++ last :: (first :: middle).reverse := by
    simp
  have begins : (first :: middle ++ [last]).reverse <:+ (rest.reverse ++ last :: (first :: middle).reverse).dropWhile
      isBlank := by
    have same : (first :: middle ++ [last]).reverse = last :: (first :: middle).reverse := by simp
    rw [same, List.dropWhile_append]
    split
    · rw [List.dropWhile_cons_of_neg (by simp [solid'])]
    · exact List.suffix_append _ _
  rw [trim, front, trimEnd, flipped]
  rw [← List.reverse_suffix, List.reverse_reverse]
  exact begins

theorem prefix_trimEnd (cs : List Char) : trimEnd cs <+: cs := by
  rw [← List.reverse_suffix, trimEnd, List.reverse_reverse]
  exact List.dropWhile_suffix isBlank

theorem head?_trimStart_append {front : List Char} (some : trimStart front ≠ []) (back : List Char) :
    (trimStart (front ++ back)).head? = (trimStart front).head? := by
  unfold trimStart at some ⊢
  rw [List.dropWhile_append, if_neg (by simpa using some), List.head?_append_of_ne_nil _ some]

theorem trimEnd_trimEnd (cs : List Char) : trimEnd (trimEnd cs) = trimEnd cs := by
  rw [trimEnd, trimEnd, List.reverse_reverse, List.dropWhile_idempotent]

theorem trimEnd_append (front back : List Char) :
    trimEnd (front ++ back) = if (trimEnd back).isEmpty then trimEnd front else front ++ trimEnd back := by
  unfold trimEnd
  rw [List.reverse_append, List.dropWhile_append, List.isEmpty_reverse]
  split
  · rfl
  · rw [List.reverse_append, List.reverse_reverse]

theorem trimEnd_append_solid {back : List Char} (solid : trimEnd back = back) (some : back ≠ []) (front : List Char) :
    trimEnd (front ++ back) = front ++ back := by
  rw [trimEnd_append, solid, if_neg (by simpa using some)]

theorem trim_trimEnd (cs : List Char) : trim (trimEnd cs) = trim cs := by
  have blank : ∀ c ∈ cs.takeWhile isBlank, isBlank c = true := List.all_eq_true.mp List.all_takeWhile
  have parts : cs = cs.takeWhile isBlank ++ trimStart cs := List.takeWhile_append_dropWhile.symm
  have ended := trimEnd_append (cs.takeWhile isBlank) (trimStart cs)
  rw [← parts] at ended
  rw [ended, trim, trim]
  split
  · rename_i empty
    have none : trimEnd (trimStart cs) = [] := by simpa using empty
    have whole : ∀ c ∈ trimEnd (cs.takeWhile isBlank), isBlank c = true :=
      fun c member => blank c ((prefix_trimEnd _).mem member)
    rw [trimStart, List.dropWhile_eq_nil_iff.mpr whole, none]
    rfl
  · rename_i some
    -- What is left of the front after trimming it begins solid, and so does what is left of that.
    have solid : trimStart (trimEnd (trimStart cs)) = trimEnd (trimStart cs) := by
      obtain ⟨later, whole⟩ := prefix_trimEnd (trimStart cs)
      cases kept : trimEnd (trimStart cs) with
      | nil => rfl
      | cons c rest =>
          have first : (trimStart cs).head? = .some c := by rw [← whole, kept]; rfl
          have fromSolid := List.head?_dropWhile_not isBlank cs
          rw [← trimStart, first] at fromSolid
          rw [trimStart, List.dropWhile_cons_of_neg (by simpa using fromSolid)]
    rw [trimStart, List.dropWhile_append_of_pos blank, ← trimStart, solid, trimEnd_trimEnd]

theorem trim_trim (cs : List Char) : trim (trim cs) = trim cs := by
  have started : trimStart (trimStart cs) = trimStart cs := List.dropWhile_idempotent _ _
  calc
    trim (trim cs) = trim (trimStart cs) := trim_trimEnd (trimStart cs)
    _ = trim cs := congrArg trimEnd started

theorem trimmed_trimmed (s : String) : trimmed (trimmed s) = trimmed s := by
  rw [trimmed, trimmed, String.toList_ofList, trim_trim]

section Blanks

variable {cs front back : List Char}

theorem trimEnd_eq_nil_iff : trimEnd cs = [] ↔ ∀ c ∈ cs, isBlank c = true := by
  rw [trimEnd, List.reverse_eq_nil_iff, List.dropWhile_eq_nil_iff]
  simp

theorem trim_eq_nil_iff : trim cs = [] ↔ ∀ c ∈ cs, isBlank c = true := by
  have whole : trimEnd (trimStart cs) = [] ↔ trimStart cs = [] := by
    constructor
    · intro none
      have blank : trimStart (trimStart cs) = [] := List.dropWhile_eq_nil_iff.mpr (trimEnd_eq_nil_iff.mp none)
      rwa [trimStart, trimStart, List.dropWhile_idempotent] at blank
    · intro none
      rw [none]
      rfl
  rw [trim, whole, trimStart, List.dropWhile_eq_nil_iff]

theorem trim_eq_self_iff : trim cs = cs ↔ trimStart cs = cs ∧ trimEnd cs = cs := by
  constructor
  · intro same
    have short := (prefix_trimEnd (trimStart cs)).length_le
    rw [← trim, same] at short
    have started : trimStart cs = cs := (List.dropWhile_suffix isBlank).eq_of_length_le short
    exact ⟨started, by rwa [trim, started] at same⟩
  · rintro ⟨started, ended⟩
    rw [trim, started, ended]

theorem trimEnd_of_append (solid : trimEnd (front ++ back) = front ++ back) (some : back ≠ []) :
    trimEnd back = back := by
  rw [trimEnd_append] at solid
  split at solid
  · have short := (prefix_trimEnd front).length_le
    rw [solid, List.length_append] at short
    exact (some (List.length_eq_zero_iff.mp (by omega))).elim
  · exact List.append_cancel_left solid

theorem trimStart_append_solid (solid : trimStart front = front) (some : front ≠ []) :
    trimStart (front ++ back) = front ++ back := by
  unfold trimStart at solid ⊢
  rw [List.dropWhile_append, solid, if_neg (by simpa using some)]

end Blanks

theorem trimEnd_dropReturn (row : List Char) : trimEnd (dropReturn row) = trimEnd row := by
  unfold dropReturn
  split
  · rename_i last
    obtain ⟨front, rfl⟩ := List.getLast?_eq_some_iff.mp last
    rw [List.dropLast_concat, trimEnd_append]
    rfl
  · rfl

theorem dropReturn_begins (row : List Char) : dropReturn row <+: row := by
  unfold dropReturn
  split
  · exact List.dropLast_prefix row
  · exact List.prefix_refl row

theorem dropReturn_subset (row : List Char) : dropReturn row ⊆ row := (dropReturn_begins row).subset

theorem split_ne_nil {α : Type} [DecidableEq α] (sep : α) (cs : List α) : split sep cs ≠ [] := by
  cases cs with
  | nil => simp [split]
  | cons c rest =>
      by_cases here : c = sep
      · simp [split, here]
      · cases rest' : split sep rest <;> simp [split, here, rest']

theorem split_head?_eq_nil {α : Type} [DecidableEq α] {sep : α} {cs : List α}
    (first : (split sep cs).head? = some []) : cs = [] ∨ cs.head? = some sep := by
  cases cs with
  | nil => exact .inl rfl
  | cons c rest =>
      by_cases here : c = sep
      · exact .inr (by rw [here]; rfl)
      · cases rest' : split sep rest <;> simp [split, here, rest'] at first

theorem split_row {α : Type} [DecidableEq α] {sep : α} {row : List α} (whole : sep ∉ row) (rest : List α) :
    split sep (row ++ sep :: rest) = row :: split sep rest := by
  induction row with
  | nil => simp [split]
  | cons c cs ih =>
      rw [List.mem_cons, not_or] at whole
      rw [List.cons_append, split, if_neg (Ne.symm whole.1), ih whole.2]

theorem split_last {α : Type} [DecidableEq α] {sep : α} {row : List α} (whole : sep ∉ row) :
    split sep row = [row] := by
  induction row with
  | nil => rfl
  | cons c cs ih =>
      rw [List.mem_cons, not_or] at whole
      rw [split, if_neg (Ne.symm whole.1), ih whole.2]

variable {row : List Char}

theorem lines_row (whole : '\n' ∉ row) (rest : List Char) :
    lines (row ++ '\n' :: rest) = dropReturn row :: lines rest := by
  rw [lines, lines, split_row whole]
  cases pieces : split '\n' rest with
  | nil => exact (split_ne_nil '\n' rest pieces).elim
  | cons first others => rfl

theorem lines_last (whole : '\n' ∉ row) (some : row ≠ []) : lines row = [row] := by
  rw [lines, split_last whole, linesOf, if_neg (by simpa using some)]

theorem split_begins {α : Type} [DecidableEq α] {sep : α} {cs first : List α} {others : List (List α)}
    (pieces : split sep cs = first :: others) : first <+: cs := by
  induction cs generalizing first others with
  | nil =>
      cases pieces
      exact List.prefix_refl _
  | cons c rest ih =>
      rw [split] at pieces
      split at pieces
      · cases pieces
        exact List.nil_prefix
      · split at pieces
        · rename_i none
          exact (split_ne_nil sep rest none).elim
        · rename_i later
          cases pieces
          exact List.cons_prefix_cons.mpr ⟨rfl, ih later⟩

theorem lines_begins {cs line : List Char} {others : List (List Char)} (rows : lines cs = line :: others) :
    line <+: cs := by
  unfold lines at rows
  cases pieces : split '\n' cs with
  | nil => exact (split_ne_nil '\n' cs pieces).elim
  | cons first later =>
      have begins := split_begins pieces
      rw [pieces] at rows
      unfold linesOf at rows
      cases later with
      | nil =>
          dsimp only at rows
          split at rows
          · cases rows
          · cases rows
            exact begins
      | cons next more =>
          cases rows
          exact (dropReturn_begins first).trans begins

/-- Lines with newlines between them come apart again, up to carriage returns that were at their ends. -/
theorem lines_intercalate {β : Type} {rows : List (List Char)} (whole : ∀ row ∈ rows, '\n' ∉ row)
    (some : ∀ row ∈ rows, row ≠ []) {f : List Char → β} (ends : ∀ row ∈ rows, f (dropReturn row) = f row) :
    (lines (List.intercalate ['\n'] rows)).map f = rows.map f := by
  induction rows with
  | nil => rfl
  | cons row later ih =>
      rw [List.forall_mem_cons] at whole some ends
      cases later with
      | nil => rw [List.intercalate_singleton, lines_last whole.1 some.1]
      | cons next others =>
          rw [List.intercalate_cons_cons, List.append_assoc, List.singleton_append, lines_row whole.1, List.map_cons,
            ih whole.2 some.2 ends.2, ends.1]
          rfl

def joinRows (rows : List (List Char)) : List Char := (rows.map (· ++ ['\n'])).flatten

theorem joinRows_cons (row : List Char) (rows : List (List Char)) (rest : List Char) :
    joinRows (row :: rows) ++ rest = row ++ '\n' :: (joinRows rows ++ rest) := by
  simp [joinRows]

theorem joinRows_concat (rows : List (List Char)) (row : List Char) :
    joinRows (rows ++ [row]) = joinRows rows ++ (row ++ ['\n']) := by
  simp [joinRows]

theorem split_joinRows {rows : List (List Char)} (whole : ∀ row ∈ rows, '\n' ∉ row) (rest : List Char) :
    split '\n' (joinRows rows ++ rest) = rows ++ split '\n' rest := by
  induction rows with
  | nil => rfl
  | cons row others ih =>
      rw [List.forall_mem_cons] at whole
      rw [joinRows_cons, split_row whole.1, ih whole.2, List.cons_append]

theorem lines_joinRows {rows : List (List Char)} (whole : ∀ row ∈ rows, '\n' ∉ row) (rest : List Char) :
    lines (joinRows rows ++ rest) = rows.map dropReturn ++ lines rest := by
  induction rows with
  | nil => rfl
  | cons row others ih =>
      rw [List.forall_mem_cons] at whole
      rw [joinRows_cons, lines_row whole.1, ih whole.2]
      rfl

theorem row_cases (cs : List Char) : '\n' ∉ cs ∨ ∃ row rest, '\n' ∉ row ∧ cs = row ++ '\n' :: rest := by
  induction cs with
  | nil => simp
  | cons c cs ih =>
      by_cases newline : c = '\n'
      · exact .inr ⟨[], cs, List.not_mem_nil, by rw [newline, List.nil_append]⟩
      · rcases ih with last | ⟨row, rest, whole, rfl⟩
        · left
          simpa [Ne.symm newline] using last
        · right
          exact ⟨c :: row, rest, by simpa [Ne.symm newline] using whole, rfl⟩

theorem exists_last_row (cs : List Char) :
    ∃ rows piece, cs = joinRows rows ++ piece ∧ (∀ row ∈ rows, '\n' ∉ row) ∧ '\n' ∉ piece := by
  rcases row_cases cs with last | ⟨row, rest, whole, rfl⟩
  · exact ⟨[], cs, rfl, by simp, last⟩
  · obtain ⟨rows, piece, same, others, last⟩ := exists_last_row rest
    exact ⟨row :: rows, piece, by rw [joinRows_cons, ← same], List.forall_mem_cons.mpr ⟨whole, others⟩, last⟩
termination_by cs.length

theorem not_mem_of_lines {cs line : List Char} (listed : line ∈ lines cs) : '\n' ∉ line := by
  obtain ⟨rows, piece, rfl, whole, last⟩ := exists_last_row cs
  rw [lines_joinRows whole, List.mem_append, List.mem_map] at listed
  rcases listed with ⟨row, among, rfl⟩ | behind
  · exact fun member => whole row among (dropReturn_subset row member)
  · by_cases none : piece = []
    · rw [none] at behind
      cases behind
    · rw [lines_last last none, List.mem_singleton] at behind
      rwa [behind]

theorem lines_append {cs : List Char} (ended : cs = [] ∨ cs.getLast? = some '\n') (rest : List Char) :
    lines (cs ++ rest) = lines cs ++ lines rest := by
  obtain ⟨rows, piece, rfl, whole, last⟩ := exists_last_row cs
  have none : piece = [] := by
    rcases ended with nothing | newline
    · exact (List.append_eq_nil_iff.mp nothing).2
    · by_contra some
      rw [List.getLast?_append_of_ne_nil _ some] at newline
      exact last (List.mem_of_getLast? newline)
  rw [none, List.append_nil, lines_joinRows whole]
  have alone := lines_joinRows whole []
  rw [List.append_nil] at alone
  rw [alone]
  simp [lines, split, linesOf]

theorem length_split_pos (cs : List Char) : 0 < (split '\n' cs).length :=
  List.length_pos_iff.mpr (split_ne_nil '\n' cs)

theorem length_split_bounds (cs : List Char) :
    (lines cs).length ≤ (split '\n' cs).length ∧ (split '\n' cs).length ≤ (lines cs).length + 1 := by
  unfold lines
  induction split '\n' cs with
  | nil => simp [linesOf]
  | cons piece others ih =>
      cases others with
      | nil =>
          rw [linesOf]
          split <;> simp
      | cons next more =>
          simp only [linesOf, List.length_cons] at ih ⊢
          omega

end Remedy.Text
