import Remedy.Proofs.Report.Headline
import Remedy.Report.Listing

/-! Reports of a compiler, taken as a whole. Main statement: diagnostics that are written with the elaborations of their
messages are read back in order. -/

namespace Remedy.Listing

open Headline (Headed Legible written)
open Text (trim trimEnd trimStart trimmed)

variable {line : List Char}

theorem colourLength?_eq_none {c : Char} (other : c ≠ '\x1b') (cs : List Char) : colourLength? (c :: cs) = none := by
  unfold colourLength?
  split
  · rename_i rest same
    exact (other (List.cons.inj same).1).elim
  · rfl

theorem uncoloured_cons {c : Char} (other : c ≠ '\x1b') (cs : List Char) :
    uncolouredFrom 0 (c :: cs) = c :: uncolouredFrom 0 cs := by
  rw [uncolouredFrom, colourLength?_eq_none other]

theorem uncoloured (free : '\x1b' ∉ line) : uncolouredFrom 0 line = line := by
  induction line with
  | nil => rfl
  | cons c cs ih =>
      rw [List.mem_cons, not_or] at free
      rw [uncoloured_cons (Ne.symm free.1), ih free.2]

theorem clean_eq (free : '\x1b' ∉ line) : clean line = trimEnd line := congrArg trimEnd (uncoloured free)

theorem read_dropReturn (free : '\x1b' ∉ line) : Line.read (Text.dropReturn line) = Line.read line := by
  have same : clean (Text.dropReturn line) = clean line := by
    rw [clean_eq free, clean_eq fun member => free (Text.dropReturn_subset line member), Text.trimEnd_dropReturn]
  unfold Line.read
  rw [same]

/-- A line that goes on with the message of the diagnostic above it. -/
structure Elaborates (line : String) : Prop where
  indented : line.toList.head? = some ' ' ∨ line.toList.head? = some '\t'
  oneLine : ∀ c ∈ line.toList, c ≠ '\n' ∧ c ≠ '\x1b'
  stated : trimmed line ≠ ""
  text : isExcerpt (trim line.toList) = false
  headless : ¬Headed Headline.plain (trimEnd line.toList) ∧ ¬Headed Headline.pretty (trimEnd line.toList)

theorem read_elaboration {line : String} (elaborates : Elaborates line) :
    Line.read line.toList = .elaboration (trim line.toList) := by
  have free : '\x1b' ∉ line.toList := fun member => (elaborates.oneLine _ member).2 rfl
  have unread := Headline.read?_eq_none_iff.mpr elaborates.headless
  have some : trim line.toList ≠ [] := fun none => elaborates.stated (congrArg String.ofList none)
  have first : (trimEnd line.toList).head? = line.toList.head? := by
    obtain ⟨rest, whole⟩ := Text.prefix_trimEnd line.toList
    cases kept : trimEnd line.toList with
    | nil =>
        rw [← Text.trim_trimEnd, kept] at some
        exact (some rfl).elim
    | cons c later =>
        rw [← whole, kept]
        rfl
  have indented : ((trimEnd line.toList).head? == .some ' ' || (trimEnd line.toList).head? == .some '\t') = true := by
    rw [first, Bool.or_eq_true, beq_iff_eq, beq_iff_eq]
    exact elaborates.indented
  unfold Line.read
  simp only [clean_eq free, unread, Text.trim_trimEnd, indented, elaborates.text, List.isEmpty_eq_false_iff.mpr some]
  rfl

theorem read_headline {form : Headline.Form} {d : Diagnostic} (legible : Legible form d) :
    Line.read (written form d).toList = .headline (some d) := by
  have free : '\x1b' ∉ (written form d).toList := fun member => (Headline.written_oneLine legible _ member).2 rfl
  have message : trim d.message.toList = d.message.toList := by
    have same := congrArg String.toList legible.trimmed
    rwa [trimmed, String.toList_ofList] at same
  have solid : trimEnd d.message.toList = d.message.toList := by
    rw [← message]
    exact Text.trimEnd_trimEnd _
  have whole : trimEnd (written form d).toList = (written form d).toList := by
    rw [Headline.toList_written, ← List.append_assoc]
    exact Text.trimEnd_append_solid solid (by simpa using legible.stated) _
  obtain ⟨h, read, made⟩ := Headline.read?_written legible
  unfold Line.read
  simp only [clean_eq free, whole, read, made]

theorem headline_of_read {diagnostic? : Option Diagnostic} (read : Line.read line = .headline diagnostic?) :
    ∃ h, Headline.read? (clean line) = some h ∧ h.diagnostic? = diagnostic? := by
  unfold Line.read at read
  dsimp only at read
  split at read
  · rename_i h found
    exact ⟨h, found, Line.headline.inj read⟩
  · split at read
    · cases read
    · split at read <;> cases read

/-- A diagnostic as it is reported: in one of the forms, with lines that go on with its message. -/
structure Item where
  form : Headline.Form
  diagnostic : Diagnostic
  elaborations : List String

namespace Item

def lines (item : Item) : List String := written item.form item.diagnostic :: item.elaborations

def whole (item : Item) : Diagnostic :=
  { item.diagnostic with message := Text.join " " (item.diagnostic.message :: item.elaborations.map trimmed) }

structure Sound (item : Item) : Prop where
  headline : Legible item.form item.diagnostic
  elaborations : ∀ line ∈ item.elaborations, Elaborates line

end Item

theorem collect_elaborations (d : Diagnostic) (elaborations : List String) (rest : List Line) :
    collect (some d) (elaborations.map (fun line => .elaboration (trim line.toList)) ++ rest) =
      collect (some { d with message := Text.join " " (d.message :: elaborations.map trimmed) }) rest := by
  induction elaborations generalizing d with
  | nil => rfl
  | cons line later ih =>
      rw [List.map_cons, List.cons_append, collect, ih]
      rfl

theorem collect_items (open? : Option Diagnostic) {items : List Item} (sound : ∀ item ∈ items, item.Sound) :
    collect open? ((items.flatMap Item.lines).map fun line => Line.read line.toList) =
      open?.toList ++ items.map Item.whole := by
  induction items generalizing open? with
  | nil => simp [collect]
  | cons item later ih =>
      rw [List.forall_mem_cons] at sound
      obtain ⟨own, others⟩ := sound
      have elaborations : (item.elaborations.map fun line => Line.read line.toList) =
          item.elaborations.map fun line => .elaboration (trim line.toList) :=
        List.map_congr_left fun line listed => read_elaboration (own.elaborations line listed)
      rw [List.flatMap_cons, List.map_append, Item.lines, List.map_cons, read_headline own.headline, elaborations,
        List.cons_append, collect, collect_elaborations, ih _ others]
      rfl

theorem Item.Sound.oneLine {item : Item} (sound : item.Sound) :
    ∀ line ∈ item.lines, line.toList ≠ [] ∧ ∀ c ∈ line.toList, c ≠ '\n' ∧ c ≠ '\x1b' := by
  refine List.forall_mem_cons.mpr ⟨⟨?_, Headline.written_oneLine sound.headline⟩, ?_⟩
  · rw [Headline.toList_written]
    exact List.append_ne_nil_of_left_ne_nil (by simpa using sound.headline.named) _
  · intro line listed
    have elaborates := sound.elaborations line listed
    refine ⟨?_, elaborates.oneLine⟩
    intro empty
    have indented := elaborates.indented
    rw [empty] at indented
    simp at indented

/-- Diagnostics that are reported line by line are read back in their order, each with the elaborations of its message,
whether the last line ends with a newline or not. -/
theorem diagnostics_written {items : List Item} (sound : ∀ item ∈ items, item.Sound) :
    diagnostics (Text.join "\n" (items.flatMap Item.lines)) = items.map Item.whole ∧
      diagnostics (String.join ((items.flatMap Item.lines).map (· ++ "\n"))) = items.map Item.whole := by
  set rows := (items.flatMap Item.lines).map String.toList with texts
  have formed : ∀ row ∈ rows, row ≠ [] ∧ ∀ c ∈ row, c ≠ '\n' ∧ c ≠ '\x1b' := by
    intro row member
    obtain ⟨line, listed, rfl⟩ := List.mem_map.mp member
    obtain ⟨item, own, among⟩ := List.mem_flatMap.mp listed
    exact (sound item own).oneLine line among
  have whole : ∀ row ∈ rows, '\n' ∉ row := fun row member inside => ((formed row member).2 _ inside).1 rfl
  have ends : ∀ row ∈ rows, Line.read (Text.dropReturn row) = Line.read row :=
    fun row member => read_dropReturn fun inside => ((formed row member).2 _ inside).2 rfl
  have read : collect none (rows.map Line.read) = items.map Item.whole := by
    rw [texts, List.map_map]
    exact collect_items none sound
  constructor
  · have joined : (Text.join "\n" (items.flatMap Item.lines)).toList = List.intercalate ['\n'] rows :=
      String.toList_intercalate
    rw [diagnostics, joined, Text.lines_intercalate whole (fun row member => (formed row member).1) ends, read]
  · have joined : (String.join ((items.flatMap Item.lines).map (· ++ "\n"))).toList = Text.joinRows rows ++ [] := by
      rw [String.toList_join, List.flatMap_map, List.append_nil, Text.joinRows, texts, List.map_map, List.flatMap_def]
      simp [Function.comp_def]
    have same : (rows.map Text.dropReturn).map Line.read = rows.map Line.read := by
      rw [List.map_map]
      exact List.map_congr_left ends
    rw [diagnostics, joined, Text.lines_joinRows whole, List.map_append, same]
    exact (congrArg (collect none) (List.append_nil _)).trans read

def quoting : Item where
  form := Headline.plain
  diagnostic := ⟨⟨"logs/a(1,2): error.ts"⟩, 5, 16, "See b.ts(3,4): error TS2304: No name.", 2322, .error, .genericError⟩
  elaborations := ["  Type 'A' is not a 'B'.", "\tDid you mean 'C'?  "]

def unused : Item where
  form := Headline.pretty
  diagnostic := ⟨⟨"C:/app/(group)/page.tsx"⟩, 12, 1, "'x' is never read.", 6133, .warning, .genericError⟩
  elaborations := []

theorem sound_quoting : quoting.Sound where
  headline :=
    { unclassified := rfl
      named := by decide
      stated := by decide
      trimmed := by decide +kernel
      oneLine := by simp [quoting]
      clear := .plain (Headline.not_headed (by decide +kernel)) }
  elaborations := by
    have each : ∀ line ∈ quoting.elaborations, (line.toList.head? = some ' ' ∨ line.toList.head? = some '\t') ∧
        trimmed line ≠ "" ∧ isExcerpt (trim line.toList) = false ∧
        Text.occursIn " TS".toList (trimEnd line.toList) = false := by decide +kernel
    have oneLine : ∀ line ∈ quoting.elaborations, ∀ c ∈ line.toList, c ≠ '\n' ∧ c ≠ '\x1b' := by simp [quoting]
    intro line listed
    obtain ⟨indented, stated, text, absent⟩ := each line listed
    exact ⟨indented, oneLine line listed, stated, text, Headline.not_headed absent, Headline.not_headed absent⟩

theorem sound_unused : unused.Sound where
  headline :=
    { unclassified := rfl
      named := by decide
      stated := by decide
      trimmed := by decide +kernel
      oneLine := by simp [unused]
      clear := .pretty (Headline.not_headed (by decide +kernel)) (Headline.not_headed (by decide +kernel))
        (Headline.not_marked (by decide +kernel)) }
  elaborations := by
    rintro line ⟨⟩

theorem diagnostics_written_quoting : diagnostics
    "logs/a(1,2): error.ts(5,16): error TS2322: See b.ts(3,4): error TS2304: No name.
  Type 'A' is not a 'B'.
\tDid you mean 'C'?  \nC:/app/(group)/page.tsx:12:1 - warning TS6133: 'x' is never read." =
    [⟨⟨"logs/a(1,2): error.ts"⟩, 5, 16,
        "See b.ts(3,4): error TS2304: No name. Type 'A' is not a 'B'. Did you mean 'C'?", 2322, .error, .genericError⟩,
      ⟨⟨"C:/app/(group)/page.tsx"⟩, 12, 1, "'x' is never read.", 6133, .warning, .genericError⟩] := by
  have sound : ∀ item ∈ [quoting, unused], item.Sound :=
    List.forall_mem_cons.mpr ⟨sound_quoting, List.forall_mem_singleton.mpr sound_unused⟩
  refine Eq.trans (congrArg diagnostics ?_) ((diagnostics_written sound).1.trans ?_)
  · decide +kernel
  · decide +kernel

end Remedy.Listing
