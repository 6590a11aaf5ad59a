import Remedy.Proofs.Edit.Place
import Remedy.Proofs.Edit.Splice

/-! Single changes of a text. Main statements: one change puts a text there and leaves the rest, and without a line the
other lines are left as they are. -/

namespace Remedy.Buffer

open Text

variable {b : Buffer} {n : ℕ} {rows : List (List Char)} {rest : List Char}

def belowLine (cs : List Char) : List Char := cs.drop ((firstLine cs).length + 1)

theorem topLine_append_belowLine (cs : List Char) : topLine cs ++ belowLine cs = cs := List.take_append_drop _ _

theorem topLine_ne_nil {cs : List Char} (some : cs ≠ []) : topLine cs ≠ [] := by
  simpa [topLine] using some

theorem exists_lines_eq {cs : List Char} (some : cs ≠ []) : ∃ first, lines cs = first :: lines (belowLine cs) := by
  rcases row_cases cs with last | ⟨row, rest, whole, rfl⟩
  · have none : belowLine cs = [] := by
      rw [belowLine, firstLine_last last]
      exact List.drop_of_length_le (Nat.le_succ _)
    exact ⟨cs, by rw [none, lines_last last some]; rfl⟩
  · have below : belowLine (row ++ '\n' :: rest) = rest := by
      rw [belowLine, firstLine_row whole, List.drop_length_add_append]
      rfl
    exact ⟨dropReturn row, by rw [below, lines_row whole]⟩

theorem LineAt.le_lineCount_iff (at_ : b.LineAt n rows rest) : n ≤ b.lineCount ↔ rest ≠ [] := by
  rw [lineCount, at_.chars, lines_joinRows at_.whole, List.length_append, List.length_map, at_.line_eq]
  by_cases none : rest = []
  · simp [none, lines, split, linesOf]
  · obtain ⟨first, later⟩ := exists_lines_eq none
    simp [none, later]

theorem exists_lineSpan? {line : UInt32} (positive : 0 < line.toNat) (counted : line.toNat ≤ b.lineCount) :
    ∃ span, b.lineSpan? line = some span := by
  have within := counted.trans (length_split_bounds b.chars).1
  obtain ⟨rows, rest, at_⟩ := exists_lineAt_iff.mpr ⟨positive, within⟩
  exact ⟨_, lineSpan?_eq_some_iff.mpr ⟨rows, rest, at_, rfl⟩⟩

theorem LineAt.lineSpan_empty_iff (at_ : b.LineAt n rows rest) (small : b.length < 2 ^ 64) :
    (lineSpan rows rest).length = 0 ↔ rest = [] := by
  have inside := at_.length_le
  have near : byteLength (topLine rest) < 2 ^ 64 := by omega
  have size : (lineSpan rows rest).length.toNat = byteLength (topLine rest) := UInt64.toNat_ofNat_of_lt near
  rw [← UInt64.toNat_inj, size]
  constructor
  · intro none
    by_contra some
    exact topLine_ne_nil some (byteLength_eq_zero.mp none)
  · rintro rfl
    rfl

theorem LineAt.lines_without (at_ : b.LineAt n rows rest) (some : rest ≠ []) :
    lines (joinRows rows ++ belowLine rest) = (lines b.chars).eraseIdx (n - 1) := by
  obtain ⟨first, later⟩ := exists_lines_eq some
  have here : n - 1 = (rows.map dropReturn).length := by
    rw [at_.line_eq, List.length_map, Nat.add_sub_cancel]
  rw [at_.chars, lines_joinRows at_.whole, lines_joinRows at_.whole, later, here,
    List.eraseIdx_append_of_length_le (Nat.le_refl _)]
  simp

theorem LineAt.lineCount_without (at_ : b.LineAt n rows rest) (some : rest ≠ []) :
    lineCount ⟨joinRows rows ++ belowLine rest⟩ + 1 = b.lineCount := by
  have there := at_.le_lineCount_iff.mpr some
  have within : n - 1 < b.lineCount := by
    rw [at_.line_eq] at there ⊢
    omega
  rw [lineCount, at_.lines_without some, List.length_eraseIdx_of_lt within]
  exact Nat.sub_add_cancel (Nat.one_le_of_lt within)

theorem apply_nil (b : Buffer) : b.apply [] = .ok b := by
  rw [apply_eq_ok_iff (by simp), Change.sorted, List.mergeSort_nil]
  exact .done b.chars

theorem apply_single {front old back : List Char} (chars : b.chars = front ++ old ++ back)
    (small : b.length < 2 ^ 64) (new : String) :
    b.apply [⟨⟨UInt64.ofNat (byteLength front), UInt64.ofNat (byteLength old)⟩, new⟩] =
      .ok ⟨front ++ new.toList ++ back⟩ := by
  have size : b.length = byteLength front + byteLength old + byteLength back := by
    rw [length, chars, byteLength_append, byteLength_append]
  have near : byteLength front < 2 ^ 64 := by omega
  have short : byteLength old < 2 ^ 64 := by omega
  have start : (UInt64.ofNat (byteLength front)).toNat = byteLength front := UInt64.toNat_ofNat_of_lt near
  have covered : (UInt64.ofNat (byteLength old)).toNat = byteLength old := UInt64.toNat_ofNat_of_lt short
  have whole : b = ⟨front ++ old ++ back⟩ := by rw [← chars]
  rw [whole]
  apply apply_singleton back start.symm covered.symm
  rw [Span.limit, start, covered]
  omega

theorem apply_insert {front back : List Char} (chars : b.chars = front ++ back) (small : b.length < 2 ^ 64)
    (new : String) : b.apply [.insert (byteLength front) new] = .ok ⟨front ++ new.toList ++ back⟩ := by
  have nothing : b.chars = front ++ [] ++ back := by rw [chars, List.append_nil]
  exact apply_single nothing small new

theorem LineAt.apply_delete (at_ : b.LineAt n rows rest) (small : b.length < 2 ^ 64) :
    b.apply [.delete (lineSpan rows rest)] = .ok ⟨joinRows rows ++ belowLine rest⟩ := by
  have parts : b.chars = joinRows rows ++ topLine rest ++ belowLine rest := by
    rw [at_.chars, List.append_assoc, topLine_append_belowLine]
  have made := apply_single parts small ""
  rwa [String.toList_empty, List.append_nil] at made

/-- With the new text of any change the text has a length that a signed offset can hold. -/
def HasRoom (b : Buffer) (changes : List Change) : Prop :=
  ∀ change ∈ changes, b.length + byteLength change.newText.toList < 2 ^ 63

theorem HasRoom.insert {offset : ℕ} {new : String} (room : b.HasRoom [.insert offset new]) :
    b.length + byteLength new.toList < 2 ^ 63 := room (.insert offset new) List.mem_cons_self

theorem HasRoom.length_lt {changes : List Change} (room : b.HasRoom changes) (some : changes ≠ []) :
    b.length < 2 ^ 64 := by
  obtain ⟨change, listed⟩ := List.exists_mem_of_ne_nil changes some
  have bound := room change listed
  omega

end Remedy.Buffer
