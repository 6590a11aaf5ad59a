import Mathlib.Data.List.TakeWhile
import Mathlib.Logic.ExistsUnique
import Remedy.Proofs.Edit.Batch
import Remedy.Proofs.Text.Basic

/-! Lines and columns of a text. Main statement: they name the offsets between characters, each by one line and one
column, and the spans of the lines follow each other through the text. -/

namespace Remedy.Buffer

open Text

variable {row piece rest : List Char}

theorem not_mem_firstLine (cs : List Char) : '\n' ∉ firstLine cs := by
  intro member
  have kept := List.mem_takeWhile_imp member
  simp at kept

theorem firstLine_append (whole : '\n' ∉ row) (rest : List Char) : firstLine (row ++ rest) = row ++ firstLine rest := by
  apply List.takeWhile_append_of_pos
  intro c member
  exact decide_eq_true fun newline => whole (newline ▸ member)

theorem firstLine_last (whole : '\n' ∉ row) : firstLine row = row := by
  simpa [firstLine] using firstLine_append whole []

theorem firstLine_row (whole : '\n' ∉ row) (rest : List Char) : firstLine (row ++ '\n' :: rest) = row := by
  rw [firstLine_append whole]
  simp [firstLine]

def topLine (cs : List Char) : List Char := cs.take ((firstLine cs).length + 1)

theorem topLine_last (whole : '\n' ∉ row) : topLine row = row := by
  rw [topLine, firstLine_last whole]
  exact List.take_of_length_le (Nat.le_succ _)

theorem topLine_row (whole : '\n' ∉ row) (rest : List Char) : topLine (row ++ '\n' :: rest) = row ++ ['\n'] := by
  rw [topLine, firstLine_row whole, List.take_length_add_append]
  rfl

theorem firstLine_prefix_topLine (cs : List Char) : firstLine cs <+: topLine cs := by
  apply List.prefix_of_prefix_length_le (List.takeWhile_prefix _) (List.take_prefix _ _)
  rw [List.length_take]
  exact Nat.le_min.mpr ⟨Nat.le_succ _, (List.takeWhile_prefix _).length_le⟩

theorem lineStart?_row (whole : '\n' ∉ row) (rest : List Char) (n : ℕ) :
    lineStart? (row ++ '\n' :: rest) (n + 1) = (lineStart? rest n).map (byteLength (row ++ ['\n']) + ·) := by
  induction row with
  | nil => rfl
  | cons c cs ih =>
      rw [List.mem_cons, not_or] at whole
      rw [List.cons_append, lineStart?, if_neg (Ne.symm whole.1), ih whole.2, Option.map_map]
      congr 1
      funext offset
      exact (Nat.add_assoc _ _ _).symm

theorem lineStart?_joinRows {rows : List (List Char)} (whole : ∀ row ∈ rows, '\n' ∉ row) (rest : List Char) :
    lineStart? (joinRows rows ++ rest) rows.length = some (byteLength (joinRows rows)) := by
  induction rows with
  | nil => cases rest <;> rfl
  | cons row others ih =>
      rw [List.forall_mem_cons] at whole
      rw [joinRows_cons, List.length_cons, lineStart?_row whole.1, ih whole.2, Option.map_some, ← byteLength_append]
      simp [joinRows]

theorem lineStart?_last (last : '\n' ∉ row) (n : ℕ) : lineStart? row (n + 1) = none := by
  induction row with
  | nil => rfl
  | cons c cs ih =>
      rw [List.mem_cons, not_or] at last
      rw [lineStart?, if_neg (Ne.symm last.1), ih last.2]
      rfl

theorem lineStart?_eq_none {cs : List Char} {n : ℕ} (beyond : (split '\n' cs).length ≤ n) : lineStart? cs n = none := by
  induction n generalizing cs with
  | zero => exact absurd (length_split_pos cs) (Nat.not_lt.mpr beyond)
  | succ n ih =>
      rcases row_cases cs with last | ⟨row, rest, whole, rfl⟩
      · exact lineStart?_last last n
      · rw [split_row whole, List.length_cons] at beyond
        rw [lineStart?_row whole, ih (Nat.le_of_succ_le_succ beyond)]
        rfl

variable {b : Buffer} {line column : UInt32} {n : ℕ} {rows : List (List Char)}

/-- Where a line of a text starts, counted from one: behind so many whole lines. -/
structure LineAt (b : Buffer) (line : ℕ) (rows : List (List Char)) (rest : List Char) : Prop where
  chars : b.chars = joinRows rows ++ rest
  whole : ∀ row ∈ rows, '\n' ∉ row
  line_eq : line = rows.length + 1

/-- A line and a column of a text, counted from one: on its line so many characters are before it. -/
structure PlaceAt (b : Buffer) (line column : ℕ) (rows : List (List Char)) (piece back : List Char) : Prop extends
    b.LineAt line rows (piece ++ back) where
  within : '\n' ∉ piece
  column_eq : column = piece.length + 1

theorem LineAt.start (at_ : b.LineAt line.toNat rows rest) :
    lineStart? b.chars (line.toNat - 1) = some (byteLength (joinRows rows)) := by
  rw [at_.chars, at_.line_eq, Nat.add_sub_cancel]
  exact lineStart?_joinRows at_.whole rest

theorem LineAt.split_eq (at_ : b.LineAt n rows rest) : split '\n' b.chars = rows ++ split '\n' rest := by
  rw [at_.chars, split_joinRows at_.whole]

theorem LineAt.ends (at_ : b.LineAt n rows rest) :
    '\n' ∉ rest ∧ n = (split '\n' b.chars).length ∨
      (∃ row more, '\n' ∉ row ∧ rest = row ++ '\n' :: more) ∧ n < (split '\n' b.chars).length := by
  rw [at_.split_eq, List.length_append, at_.line_eq]
  rcases row_cases rest with last | ⟨row, more, whole, rfl⟩
  · left
    exact ⟨last, by rw [split_last last, List.length_singleton]⟩
  · right
    have behind := length_split_pos more
    refine ⟨⟨row, more, whole, rfl⟩, ?_⟩
    rw [split_row whole, List.length_cons]
    omega

theorem LineAt.next (at_ : b.LineAt n rows (row ++ '\n' :: rest)) (whole : '\n' ∉ row) :
    b.LineAt (n + 1) (rows ++ [row]) rest := by
  constructor
  · rw [at_.chars, joinRows_concat, List.append_assoc, List.append_assoc, List.singleton_append]
  · simpa [or_imp, forall_and] using ⟨at_.whole, whole⟩
  · rw [at_.line_eq, List.length_append, List.length_singleton]

theorem exists_lineAt_iff : (∃ rows rest, b.LineAt n rows rest) ↔ 0 < n ∧ n ≤ (split '\n' b.chars).length := by
  constructor
  · rintro ⟨rows, rest, at_⟩
    have counted := at_.line_eq
    rcases at_.ends with ⟨-, last⟩ | ⟨-, before⟩
    · omega
    · omega
  · rintro ⟨positive, within⟩
    induction n with
    | zero => cases positive
    | succ n ih =>
        by_cases first : n = 0
        · exact ⟨[], b.chars, rfl, by simp, by simp [first]⟩
        · obtain ⟨rows, rest, at_⟩ := ih (Nat.pos_of_ne_zero first) (Nat.le_of_succ_le within)
          rcases at_.ends with ⟨-, last⟩ | ⟨⟨row, more, whole, rfl⟩, -⟩
          · omega
          · exact ⟨_, _, at_.next whole⟩

theorem exists_lineAt_of_start {start : ℕ} (positive : line ≠ 0)
    (found : lineStart? b.chars (line.toNat - 1) = some start) : ∃ rows rest, b.LineAt line.toNat rows rest := by
  have counted : line.toNat ≠ 0 := fun zero => positive (UInt32.toNat_inj.mp zero)
  apply exists_lineAt_iff.mpr
  by_contra beyond
  rw [lineStart?_eq_none (by omega)] at found
  cases found

theorem offsetOf?_eq_some_iff {offset : ℕ} : b.offsetOf? line column = some offset ↔
    ∃ rows piece back, b.PlaceAt line.toNat column.toNat rows piece back ∧
      offset = byteLength (joinRows rows ++ piece) := by
  constructor
  · intro found
    rw [offsetOf?] at found
    split at found
    · cases found
    · rename_i positive
      rw [not_or] at positive
      have counted : column.toNat ≠ 0 := fun zero => positive.2 (UInt32.toNat_inj.mp zero)
      split at found
      · cases found
      · rename_i start started
        obtain ⟨rows, rest, at_⟩ := exists_lineAt_of_start positive.1 started
        rw [at_.start] at started
        cases started
        rw [at_.chars, dropBytes_append] at found
        dsimp only at found
        split at found
        · rename_i reached
          cases found
          obtain ⟨more, first⟩ : firstLine rest <+: rest := List.takeWhile_prefix _
          have parts : (firstLine rest).take (column.toNat - 1) ++ ((firstLine rest).drop (column.toNat - 1) ++ more) =
              rest := by
            rw [← List.append_assoc, List.take_append_drop, first]
          refine ⟨rows, (firstLine rest).take (column.toNat - 1), _, ⟨parts.symm ▸ at_, ?_, ?_⟩,
            (byteLength_append _ _).symm⟩
          · exact fun newline => not_mem_firstLine rest (List.mem_of_mem_take newline)
          · rw [List.length_take, Nat.min_eq_left reached]
            omega
        · cases found
  · rintro ⟨rows, piece, back, place, rfl⟩
    have positive : ¬(line = 0 ∨ column = 0) := by
      rintro (rfl | rfl)
      · cases place.line_eq
      · cases place.column_eq
    rw [offsetOf?, if_neg positive, place.start]
    dsimp only
    rw [place.chars, dropBytes_append, firstLine_append place.within, place.column_eq, Nat.add_sub_cancel,
      List.take_left, List.length_append, if_pos (Nat.le_add_right _ _), byteLength_append]

theorem byteLength_topLine (cs : List Char) : byteLength (topLine cs) =
    byteLength (firstLine cs) + if (firstLine cs).length < cs.length then 1 else 0 := by
  rcases row_cases cs with last | ⟨row, rest, whole, rfl⟩
  · rw [topLine_last last, firstLine_last last, if_neg (Nat.lt_irrefl _), Nat.add_zero]
  · rw [topLine_row whole, firstLine_row whole, byteLength_append, if_pos (by simp)]
    rfl

def lineSpan (rows : List (List Char)) (rest : List Char) : Span :=
  ⟨UInt64.ofNat (byteLength (joinRows rows)), UInt64.ofNat (byteLength (topLine rest))⟩

theorem lineSpan?_eq_some_iff {span : Span} : b.lineSpan? line = some span ↔
    ∃ rows rest, b.LineAt line.toNat rows rest ∧ span = lineSpan rows rest := by
  constructor
  · intro found
    rw [lineSpan?] at found
    split at found
    · cases found
    · rename_i positive
      split at found
      · cases found
      · rename_i start started
        obtain ⟨rows, rest, at_⟩ := exists_lineAt_of_start positive started
        rw [at_.start] at started
        cases started
        rw [at_.chars, dropBytes_append] at found
        cases found
        exact ⟨rows, rest, at_, by rw [lineSpan, byteLength_topLine]⟩
  · rintro ⟨rows, rest, at_, rfl⟩
    have positive : line ≠ 0 := by
      rintro rfl
      cases at_.line_eq
    rw [lineSpan?, if_neg positive, at_.start]
    dsimp only
    rw [at_.chars, dropBytes_append, lineSpan, byteLength_topLine]

theorem PlaceAt.chars_eq {n m : ℕ} {back : List Char} (place : b.PlaceAt n m rows piece back) :
    b.chars = joinRows rows ++ piece ++ back := by
  rw [place.chars, List.append_assoc]

/-- Two places at one offset are the same. -/
theorem PlaceAt.unique {n m n' m' : ℕ} {rows' : List (List Char)} {piece' back back' : List Char}
    (first : b.PlaceAt n m rows piece back) (second : b.PlaceAt n' m' rows' piece' back')
    (same : byteLength (joinRows rows ++ piece) = byteLength (joinRows rows' ++ piece')) : n = n' ∧ m = m' := by
  have divided := splitAt?_append (joinRows rows ++ piece) back
  rw [← first.chars_eq, second.chars_eq, same, splitAt?_append] at divided
  have front : joinRows rows' ++ piece' = joinRows rows ++ piece := by simpa using congrArg (·.map Prod.fst) divided
  have pieces := congrArg (split '\n') front
  rw [split_joinRows first.whole, split_joinRows second.whole, split_last first.within, split_last second.within]
    at pieces
  obtain ⟨rfl, last⟩ := List.append_inj' pieces rfl
  cases last
  exact ⟨first.line_eq.trans second.line_eq.symm, first.column_eq.trans second.column_eq.symm⟩

theorem exists_piece (within : '\n' ∉ piece) (back : List Char) :
    ∃ more, piece ++ more ∈ split '\n' (piece ++ back) := by
  rcases row_cases back with last | ⟨row, rest, whole, rfl⟩
  · have single : '\n' ∉ piece ++ back := by simp [within, last]
    exact ⟨back, by simp [split_last single]⟩
  · have single : '\n' ∉ piece ++ row := by simp [within, whole]
    rw [← List.append_assoc, split_row single]
    exact ⟨row, List.mem_cons_self⟩

/-- Where lines and the characters on them can be counted, an offset between characters is behind so many of them. -/
theorem exists_place {offset : ℕ} (few : b.lineCount < 2 ^ 32 - 1)
    (short : ∀ row ∈ split '\n' b.chars, row.length < 2 ^ 32 - 1) (divided : b.Divided offset) :
    ∃ line column : UInt32, b.offsetOf? line column = some offset := by
  obtain ⟨front, back, chars, rfl⟩ := divided
  obtain ⟨rows, piece, rfl, whole, within⟩ := exists_last_row front
  rw [List.append_assoc] at chars
  have pieces := split_joinRows whole (piece ++ back)
  rw [← chars] at pieces
  obtain ⟨more, listed⟩ := exists_piece within back
  have fewRows : rows.length + 1 < 2 ^ 32 := by
    have counted := (length_split_bounds b.chars).2
    have some := List.length_pos_of_mem listed
    rw [pieces, List.length_append] at counted
    unfold lineCount at few
    omega
  have shortPiece : piece.length + 1 < 2 ^ 32 := by
    have bound := short (piece ++ more) (pieces ▸ List.mem_append_right rows listed)
    rw [List.length_append] at bound
    omega
  have line_eq : (UInt32.ofNat (rows.length + 1)).toNat = rows.length + 1 := UInt32.toNat_ofNat_of_lt fewRows
  have column_eq : (UInt32.ofNat (piece.length + 1)).toNat = piece.length + 1 := UInt32.toNat_ofNat_of_lt shortPiece
  exact ⟨_, _, offsetOf?_eq_some_iff.mpr ⟨rows, piece, back, ⟨⟨chars, whole, line_eq⟩, within, column_eq⟩, rfl⟩⟩

theorem divided_of_offsetOf? {offset : ℕ} (found : b.offsetOf? line column = some offset) : b.Divided offset := by
  obtain ⟨rows, piece, back, place, rfl⟩ := offsetOf?_eq_some_iff.mp found
  exact ⟨joinRows rows ++ piece, back, place.chars_eq, rfl⟩

theorem place_unique {line' column' : UInt32} {offset : ℕ} (first : b.offsetOf? line column = some offset)
    (second : b.offsetOf? line' column' = some offset) : line = line' ∧ column = column' := by
  obtain ⟨rows, piece, back, place, rfl⟩ := offsetOf?_eq_some_iff.mp first
  obtain ⟨rows', piece', back', place', same⟩ := offsetOf?_eq_some_iff.mp second
  obtain ⟨lines, columns⟩ := place.unique place' same
  exact ⟨UInt32.toNat_inj.mp lines, UInt32.toNat_inj.mp columns⟩

theorem LineAt.length_le (at_ : b.LineAt n rows rest) :
    byteLength (joinRows rows) + byteLength (topLine rest) ≤ b.length := by
  obtain ⟨more, parts⟩ : topLine rest <+: rest := List.take_prefix _ _
  have size := byteLength_append (topLine rest) more
  rw [parts] at size
  rw [length, at_.chars, byteLength_append, size]
  omega

theorem LineAt.start_eq (at_ : b.LineAt n rows rest) (small : b.length < 2 ^ 64) :
    (lineSpan rows rest).start.toNat = byteLength (joinRows rows) := by
  have inside := at_.length_le
  have near : byteLength (joinRows rows) < 2 ^ 64 := by omega
  exact UInt64.toNat_ofNat_of_lt near

theorem LineAt.limit_eq (at_ : b.LineAt n rows rest) (small : b.length < 2 ^ 64) :
    (lineSpan rows rest).limit = byteLength (joinRows rows) + byteLength (topLine rest) := by
  have inside := at_.length_le
  have near : byteLength (topLine rest) < 2 ^ 64 := by omega
  rw [Span.limit, at_.start_eq small]
  exact congrArg _ (UInt64.toNat_ofNat_of_lt near)

theorem offsetOf?_within {offset : ℕ} (small : b.length < 2 ^ 64) (found : b.offsetOf? line column = some offset) :
    ∃ span, b.lineSpan? line = some span ∧ span.start.toNat ≤ offset ∧ offset ≤ span.limit := by
  obtain ⟨rows, piece, back, place, rfl⟩ := offsetOf?_eq_some_iff.mp found
  have at_ := place.toLineAt
  have begins : piece <+: topLine (piece ++ back) := by
    apply List.IsPrefix.trans _ (firstLine_prefix_topLine _)
    rw [firstLine_append place.within]
    exact List.prefix_append _ _
  obtain ⟨more, top⟩ := begins
  refine ⟨lineSpan rows (piece ++ back), lineSpan?_eq_some_iff.mpr ⟨rows, _, at_, rfl⟩, ?_, ?_⟩
  · rw [at_.start_eq small, byteLength_append]
    exact Nat.le_add_right _ _
  · rw [at_.limit_eq small, byteLength_append, ← top, byteLength_append]
    omega

/-- The lines of a text up to the last cover it one after the other. -/
structure Tiled (b : Buffer) (last : UInt32) : Prop where
  opens : ∃ span, b.lineSpan? 1 = some span ∧ span.start = 0
  follows : ∀ line, 0 < line → line < last →
    ∃ span next, b.lineSpan? line = some span ∧ b.lineSpan? (line + 1) = some next ∧ span.limit = next.start.toNat
  closes : ∃ span, b.lineSpan? last = some span ∧ span.limit = b.length
  ends : ∀ line, last < line → b.lineSpan? line = none

theorem tiled_of_lineCount (small : b.length < 2 ^ 64) (few : b.lineCount < 2 ^ 32 - 1) :
    b.Tiled (UInt32.ofNat (split '\n' b.chars).length) := by
  have counted := (length_split_bounds b.chars).2
  have countable : (split '\n' b.chars).length < 2 ^ 32 := by
    unfold lineCount at few
    omega
  have last_eq : (UInt32.ofNat (split '\n' b.chars).length).toNat = (split '\n' b.chars).length :=
    UInt32.toNat_ofNat_of_lt countable
  constructor
  · have first : b.LineAt (1 : UInt32).toNat [] b.chars := ⟨rfl, by simp, rfl⟩
    exact ⟨_, lineSpan?_eq_some_iff.mpr ⟨[], b.chars, first, rfl⟩, rfl⟩
  · intro line positive before
    rw [UInt32.lt_iff_toNat_lt] at positive before
    rw [last_eq] at before
    have succ_eq : (line + 1).toNat = line.toNat + 1 := by
      rw [UInt32.toNat_add]
      exact Nat.mod_eq_of_lt (by simpa using Nat.lt_of_le_of_lt before countable)
    obtain ⟨rows, rest, at_⟩ := exists_lineAt_iff.mpr ⟨positive, before.le⟩
    rcases at_.ends with ⟨-, last⟩ | ⟨⟨row, more, whole, rfl⟩, -⟩
    · omega
    · have next := at_.next whole
      rw [← succ_eq] at next
      refine ⟨_, _, lineSpan?_eq_some_iff.mpr ⟨_, _, at_, rfl⟩, lineSpan?_eq_some_iff.mpr ⟨_, _, next, rfl⟩, ?_⟩
      rw [at_.limit_eq small, next.start_eq small, topLine_row whole, joinRows_concat, ← byteLength_append]
  · obtain ⟨rows, rest, at_⟩ := exists_lineAt_iff.mpr ⟨length_split_pos b.chars, le_rfl⟩
    rcases at_.ends with ⟨single, -⟩ | ⟨-, before⟩
    · rw [← last_eq] at at_
      refine ⟨_, lineSpan?_eq_some_iff.mpr ⟨rows, rest, at_, rfl⟩, ?_⟩
      rw [at_.limit_eq small, topLine_last single, length, at_.chars, byteLength_append]
    · exact absurd before (Nat.lt_irrefl _)
  · intro line beyond
    rw [UInt32.lt_iff_toNat_lt, last_eq] at beyond
    rw [Option.eq_none_iff_forall_ne_some]
    intro span found
    obtain ⟨rows, rest, at_, -⟩ := lineSpan?_eq_some_iff.mp found
    have within := exists_lineAt_iff.mp ⟨rows, rest, at_⟩
    omega

/-- Lines and columns name the offsets between characters, each exactly once, and no others; and a place lies on its
line. The lines cover the text one after the other. -/
theorem places_correspond (small : b.length < 2 ^ 64) (few : b.lineCount < 2 ^ 32 - 1)
    (short : ∀ row ∈ split '\n' b.chars, row.length < 2 ^ 32 - 1) :
    (∀ offset, b.Divided offset ↔ ∃! place : UInt32 × UInt32, b.offsetOf? place.1 place.2 = some offset) ∧
      (∀ line column offset, b.offsetOf? line column = some offset → b.Divided offset ∧
        ∃ span, b.lineSpan? line = some span ∧ span.start.toNat ≤ offset ∧ offset ≤ span.limit) ∧
      ∃ last, b.Tiled last := by
  refine ⟨?_, ?_, _, tiled_of_lineCount small few⟩
  · intro offset
    constructor
    · intro divided
      obtain ⟨line, column, found⟩ := exists_place few short divided
      refine ⟨(line, column), found, ?_⟩
      rintro ⟨line', column'⟩ found'
      obtain ⟨rfl, rfl⟩ := place_unique found' found
      rfl
    · rintro ⟨place, found, -⟩
      exact divided_of_offsetOf? found
  · intro line column offset found
    exact ⟨divided_of_offsetOf? found, offsetOf?_within small found⟩

/-- Within a character there is no place, and behind it there is one. -/
theorem places_correspond_accented :
    (ofString "né\n\r\nb").length < 2 ^ 64 ∧ (ofString "né\n\r\nb").lineCount < 2 ^ 32 - 1 ∧
      (∀ row ∈ split '\n' (ofString "né\n\r\nb").chars, row.length < 2 ^ 32 - 1) ∧
      (∀ line column, (ofString "né\n\r\nb").offsetOf? line column ≠ some 2) ∧
      (∃! place : UInt32 × UInt32, (ofString "né\n\r\nb").offsetOf? place.1 place.2 = some 3) ∧
      ∃ last, (ofString "né\n\r\nb").Tiled last := by
  have small : (ofString "né\n\r\nb").length < 2 ^ 64 := by decide +kernel
  have few : (ofString "né\n\r\nb").lineCount < 2 ^ 32 - 1 := by decide +kernel
  have short : ∀ row ∈ split '\n' (ofString "né\n\r\nb").chars, row.length < 2 ^ 32 - 1 := by decide +kernel
  obtain ⟨named, placed, tiled⟩ := places_correspond small few short
  have parted : ¬(ofString "né\n\r\nb").Divided 2 := isBoundary_eq_false.mp (by decide +kernel)
  have divided : (ofString "né\n\r\nb").Divided 3 := isBoundary_iff.mp (by decide +kernel)
  exact ⟨small, few, short, fun line column found => parted (placed line column 2 found).1, (named 3).mp divided, tiled⟩

end Remedy.Buffer
