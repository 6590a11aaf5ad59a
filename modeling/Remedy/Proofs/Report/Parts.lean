import Remedy.Proofs.Report.Listing

/-! Reports of a compiler in parts. Main statement: parts are read each on its own, as long as none begins with what
would go on with the message before it. -/

namespace Remedy.Listing

open Headline (Form Headed)

/-- The line goes on with no message above it, and is in no excerpt. -/
inductive Line.Fresh : Line → Prop where
  | headline (diagnostic? : Option Diagnostic) : Fresh (.headline diagnostic?)
  | other : Fresh .other

theorem collect_fresh (open? : Option Diagnostic) {lines : List Line} (fresh : ∀ line ∈ lines.head?, line.Fresh) :
    collect open? lines = open?.toList ++ collect none lines := by
  cases lines with
  | nil => exact (List.append_nil _).symm
  | cons line later =>
      cases fresh line rfl with
      | headline diagnostic? => simp [collect]
      | other => simp [collect]

/-- Whatever is open in between, lines are read apart from those in front of them that they do not go on with. -/
theorem collect_append (open? : Option Diagnostic) (front : List Line) {back : List Line}
    (fresh : ∀ line ∈ back.head?, line.Fresh) :
    collect open? (front ++ back) = collect open? front ++ collect none back := by
  induction front generalizing open? with
  | nil => exact collect_fresh open? fresh
  | cons line later ih =>
      cases line with
      | headline diagnostic? => simp only [List.cons_append, collect, ih, List.append_assoc]
      | elaboration text => cases open? <;> simp only [List.cons_append, collect, ih]
      | excerpt => simp only [List.cons_append, collect, ih]
      | other => simp only [List.cons_append, collect, ih, List.append_assoc]

/-- A line that begins something new: as it counts it is a headline, or it is blank, or it is not indented. -/
inductive Begins (line : List Char) : Prop where
  | headline {form : Form} (known : form.Known) (headed : Headed form (clean line))
  | blank (blank : ∀ c ∈ clean line, Text.isBlank c = true)
  | outward (space : (clean line).head? ≠ some ' ') (tab : (clean line).head? ≠ some '\t')

theorem Begins.read {line : List Char} (begins : Begins line) : (Line.read line).Fresh := by
  unfold Line.read
  dsimp only
  cases read : Headline.read? (clean line) with
  | some h => exact .headline _
  | none =>
      have headless := Headline.read?_eq_none_iff.mp read
      have idle : (Text.trim (clean line)).isEmpty = true ∨
          ((clean line).head? == some ' ' || (clean line).head? == some '\t') = false := by
        cases begins with
        | headline known headed =>
            cases known with
            | plain => exact (headless.1 headed).elim
            | pretty => exact (headless.2 headed).elim
        | blank blank =>
            left
            have none : Text.trimStart (clean line) = [] := List.dropWhile_eq_nil_iff.mpr blank
            rw [Text.trim, none]
            rfl
        | outward space tab =>
            right
            simp [space, tab]
      rcases idle with blank | outward
      · rw [blank]
        exact .other
      · rw [outward, Bool.not_false, Bool.or_true]
        exact .other

def Ended (s : String) : Prop := s = "" ∨ s.toList.getLast? = some '\n'

/-- The first line of the text, if it has one, begins something new. -/
def StartsAnew (s : String) : Prop := ∀ line ∈ (Text.lines s.toList).head?, Begins line

variable {front part back : String}

theorem diagnostics_append_of_fresh (ended : Ended front) (anew : StartsAnew back) :
    diagnostics (front ++ back) = diagnostics front ++ diagnostics back := by
  have apart : Text.lines (front ++ back).toList = Text.lines front.toList ++ Text.lines back.toList := by
    rw [String.toList_append]
    refine Text.lines_append (ended.imp ?_ id) _
    rintro rfl
    rfl
  unfold diagnostics
  rw [apart, List.map_append]
  refine collect_append none _ ?_
  intro line first
  rw [List.head?_map, Option.mem_def, Option.map_eq_some_iff] at first
  obtain ⟨row, listed, rfl⟩ := first
  exact (anew row listed).read

theorem Ended.append (first : Ended front) (last : Ended part) : Ended (front ++ part) := by
  by_cases none : part = ""
  · rwa [none, String.append_empty]
  · right
    have some : part.toList ≠ [] := by simpa using none
    rw [String.toList_append, List.getLast?_append_of_ne_nil _ some]
    exact last.resolve_left none

/-- A text that starts anew behind ended lines is read as if it stood alone, and so are they. Hence what a part reports
is neither lost nor reported twice nor changed by what stands in front of it or behind it. -/
theorem diagnostics_append (ended : Ended part) (anew : StartsAnew back) :
    diagnostics (part ++ back) = diagnostics part ++ diagnostics back ∧
      ∀ front, Ended front → StartsAnew part →
        diagnostics (front ++ part ++ back) = diagnostics front ++ diagnostics part ++ diagnostics back := by
  refine ⟨diagnostics_append_of_fresh ended anew, ?_⟩
  intro front first begun
  rw [diagnostics_append_of_fresh (first.append ended) anew, diagnostics_append_of_fresh first begun]

/-- A summary keeps the lines behind it from the message above it. -/
theorem diagnostics_append_summary :
    let part := String.join (quoting.lines.map (· ++ "\n"))
    let back := "Found 1 error.\n  Type 'A' is not a 'C'.\n"
    Ended part ∧ StartsAnew back ∧ diagnostics (part ++ back) = diagnostics part ++ diagnostics back ∧
      diagnostics part = [quoting.whole] := by
  intro part back
  have ended : Ended part := .inr (by decide +kernel)
  have anew : StartsAnew back := by
    have first : (Text.lines back.toList).head? = some "Found 1 error.".toList := by decide +kernel
    intro line listed
    rw [first, Option.mem_def, Option.some.injEq] at listed
    rw [← listed]
    exact .outward (by decide +kernel) (by decide +kernel)
  have sound : ∀ item ∈ [quoting], item.Sound := List.forall_mem_singleton.mpr sound_quoting
  have read := (diagnostics_written sound).2
  exact ⟨ended, anew, (diagnostics_append ended anew).1, by simpa [part] using read⟩

end Remedy.Listing
