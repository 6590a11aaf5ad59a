import Remedy.Proofs.Report.Detect

/-! What a report of a compiler can hold. Main statement: every diagnostic in it is valid but for a line or a column of
zero, so that only a headline with such a number keeps the report from being taken in. -/

namespace Remedy

namespace Listing

structure Worded (words : List Char) : Prop where
  stated : words ≠ []
  trimmed : Text.trim words = words
  oneLine : '\n' ∉ words

theorem worded_trim {words : List Char} (stated : Text.trim words ≠ []) (oneLine : '\n' ∉ words) :
    Worded (Text.trim words) where
  stated := stated
  trimmed := Text.trim_trim words
  oneLine := fun member => oneLine ((Text.trim_part words).subset member)

theorem Worded.append {words more : List Char} (worded : Worded words) (further : Worded more) :
    Worded (words ++ ' ' :: more) where
  stated := List.append_ne_nil_of_left_ne_nil worded.stated _
  trimmed := by
    have started := (Text.trim_eq_self_iff.mp worded.trimmed).1
    have ended := (Text.trim_eq_self_iff.mp further.trimmed).2
    refine Text.trim_eq_self_iff.mpr ⟨Text.trimStart_append_solid started worded.stated, ?_⟩
    have spaced : words ++ ' ' :: more = words ++ [' '] ++ more := by simp
    rw [spaced]
    exact Text.trimEnd_append_solid ended further.stated _
  oneLine := by
    simpa using ⟨worded.oneLine, further.oneLine⟩

/-- What a compiler can report: a named file, a message of some words, and no category. -/
structure Reportable (d : Diagnostic) : Prop where
  named : d.file.text ≠ ""
  worded : Worded d.message.toList
  unclassified : d.category = .genericError

theorem Reportable.validate_eq {d : Diagnostic} (reportable : Reportable d) :
    d.validate = if d.line = 0 then .error (.invalidDiagnostic .zeroLine)
      else if d.column = 0 then .error (.invalidDiagnostic .zeroColumn) else .ok () := by
  have named : d.file.isEmpty = false := by simpa [Path.isEmpty] using reportable.named
  have stated : Text.isAllBlank d.message = false := by
    rw [Text.isAllBlank, Bool.eq_false_iff]
    intro blank
    have none := Text.trim_eq_nil_iff.mpr (List.all_eq_true.mp blank)
    exact reportable.worded.stated (reportable.worded.trimmed.symm.trans none)
  have known : ¬(d.category = .unusedCode ∧ d.severity ≠ .warning) := by
    rw [reportable.unclassified]
    rintro ⟨⟨⟩, -⟩
  unfold Diagnostic.validate Diagnostic.flaw?
  rw [named, stated, if_neg known]
  by_cases line : d.line = 0
  · simp [line]
  · by_cases column : d.column = 0 <;> simp [line, column]

theorem Reportable.valid_iff {d : Diagnostic} (reportable : Reportable d) :
    d.validate = .ok () ↔ d.line ≠ 0 ∧ d.column ≠ 0 := by
  rw [reportable.validate_eq]
  split
  · simp_all
  · split <;> simp_all

theorem Reportable.extend {d : Diagnostic} {text : List Char} (reportable : Reportable d) (worded : Worded text) :
    Reportable (extendMessage d text) where
  named := reportable.named
  worded := by
    have whole : (extendMessage d text).message.toList = d.message.toList ++ ' ' :: text := by
      simp [extendMessage, String.toList_append]
    rw [whole]
    exact reportable.worded.append worded
  unclassified := reportable.unclassified

section Lines

variable {line text : List Char} {d : Diagnostic}

theorem uncolouredFrom_sublist (skip : ℕ) (line : List Char) : (uncolouredFrom skip line).Sublist line := by
  fun_induction uncolouredFrom skip line with
  | case1 skip => exact .refl _
  | case2 skip c cs ih => exact ih.cons c
  | case3 c cs n coloured ih => exact ih.cons c
  | case4 c cs plain ih => exact ih.cons_cons c

theorem clean_subset (line : List Char) : clean line ⊆ line := fun _ member =>
  (uncolouredFrom_sublist 0 line).subset ((Text.prefix_trimEnd _).subset member)

theorem stated_of_marked {form : Headline.Form} {file marker message : List Char} (marks : form.Marks marker)
    (parts : clean line = file ++ marker ++ message) : Text.trim message ≠ [] := by
  obtain ⟨front, rfl⟩ : ∃ front, marker = front ++ [' '] := by
    obtain ⟨lineDigits, columnDigits, listed, codeDigits⟩ := marks
    exact ⟨_, (List.append_assoc _ [':'] [' ']).symm⟩
  have solid : Text.trimEnd (clean line) = clean line := Text.trimEnd_trimEnd _
  have split : clean line = file ++ front ++ ' ' :: message := by simp [parts]
  rw [split] at solid
  have ended := Text.trimEnd_of_append solid (List.cons_ne_nil _ _)
  intro none
  have blank : Text.trimEnd (' ' :: message) = [] :=
    Text.trimEnd_eq_nil_iff.mpr (List.forall_mem_cons.mpr ⟨by decide, Text.trim_eq_nil_iff.mp none⟩)
  rw [blank] at ended
  cases ended

theorem reportable_of_headline (oneLine : '\n' ∉ line) (read : Line.read line = .headline (some d)) :
    Reportable d := by
  obtain ⟨h, found, made⟩ := headline_of_read read
  obtain ⟨named, form, marker, -, marks, parts⟩ := Headline.read?_parts found
  obtain ⟨file, message, unclassified⟩ := Headline.diagnostic?_parts made
  have within : '\n' ∉ h.message := by
    intro member
    refine oneLine (clean_subset line ?_)
    rw [parts]
    exact List.mem_append_right _ member
  refine ⟨?_, ?_, unclassified⟩
  · rwa [← file, ne_eq, String.toList_eq_nil_iff] at named
  · rw [message]
    exact worded_trim (stated_of_marked marks parts) within

theorem worded_of_elaboration (oneLine : '\n' ∉ line) (read : Line.read line = .elaboration text) : Worded text := by
  unfold Line.read at read
  dsimp only at read
  split at read
  · cases read
  · split at read
    · cases read
    · rename_i indented
      split at read
      · cases read
      · cases read
        simp only [Bool.or_eq_true, not_or, List.isEmpty_iff] at indented
        exact worded_trim indented.1 fun member => oneLine (clean_subset line member)

end Lines

def Line.reported? : Line → Option Diagnostic
  | .headline diagnostic? => diagnostic?
  | _ => none

theorem Line.reported?_eq_some_iff {line : Line} {d : Diagnostic} :
    line.reported? = some d ↔ line = .headline (some d) := by
  cases line <;> simp [reported?]

section Collecting

variable {P : Diagnostic → Prop} {open? : Option Diagnostic} {lines : List Line}

/-- What is true of every reported diagnostic, and stays true as its message goes on, is true of all. -/
theorem collect_keeps (reported : ∀ line ∈ lines, ∀ d, line.reported? = some d → P d)
    (extended : ∀ d text, .elaboration text ∈ lines → P d → P (extendMessage d text)) (opened : ∀ d ∈ open?, P d) :
    ∀ d ∈ collect open? lines, P d := by
  induction lines generalizing open? with
  | nil => simpa [collect] using opened
  | cons line later ih =>
      rw [List.forall_mem_cons] at reported
      have further : ∀ {next? : Option Diagnostic}, (∀ d ∈ next?, P d) → ∀ d ∈ collect next? later, P d :=
        ih reported.2 fun d text listed => extended d text (List.mem_cons_of_mem _ listed)
      have closed : ∀ d ∈ open?.toList, P d := by simpa using opened
      cases line with
      | headline diagnostic? =>
          rw [collect]
          exact List.forall_mem_append.mpr ⟨closed, further reported.1⟩
      | elaboration text =>
          cases open? with
          | none => exact further (by simp)
          | some d =>
              refine further ?_
              rintro _ ⟨⟩
              exact extended d text List.mem_cons_self (opened d rfl)
      | excerpt => exact further opened
      | other =>
          rw [collect]
          exact List.forall_mem_append.mpr ⟨closed, further (by simp)⟩

theorem map_collect {β : Type} {f : Diagnostic → β} (still : ∀ d text, f (extendMessage d text) = f d)
    (open? : Option Diagnostic) (lines : List Line) :
    (collect open? lines).map f = (open?.toList ++ lines.filterMap Line.reported?).map f := by
  induction lines generalizing open? with
  | nil => simp [collect]
  | cons line later ih =>
      cases line with
      | headline diagnostic? => cases diagnostic? <;> simp [collect, List.filterMap_cons, ih, Line.reported?]
      | elaboration text => cases open? <;> simp [collect, List.filterMap_cons, ih, Line.reported?, still]
      | excerpt => simp [collect, List.filterMap_cons, ih, Line.reported?]
      | other => simp [collect, List.filterMap_cons, ih, Line.reported?]

end Collecting

theorem reportable_of_listed {text : String} {d : Diagnostic} (listed : d ∈ diagnostics text) : Reportable d := by
  refine collect_keeps ?_ ?_ (by simp) d listed
  · intro line member d reported
    obtain ⟨row, among, rfl⟩ := List.mem_map.mp member
    exact reportable_of_headline (Text.not_mem_of_lines among) (Line.reported?_eq_some_iff.mp reported)
  · intro d words member reportable
    obtain ⟨row, among, read⟩ := List.mem_map.mp member
    exact reportable.extend (worded_of_elaboration (Text.not_mem_of_lines among) read)

/-- The lines and columns that are reported are those in the headlines. -/
theorem places_listed (text : String) (P : UInt32 × UInt32 → Prop) :
    (∀ d ∈ diagnostics text, P (d.line, d.column)) ↔
      ∀ row ∈ Text.lines text.toList, ∀ d, Line.read row = .headline (some d) → P (d.line, d.column) := by
  have places : (diagnostics text).map (fun d => (d.line, d.column)) =
      (((Text.lines text.toList).map Line.read).filterMap Line.reported?).map fun d => (d.line, d.column) :=
    map_collect (fun _ _ => rfl) none _
  have reported : (∀ place ∈ (diagnostics text).map fun d => (d.line, d.column), P place) ↔
      ∀ d ∈ ((Text.lines text.toList).map Line.read).filterMap Line.reported?, P (d.line, d.column) := by
    rw [places, List.forall_mem_map]
  rw [List.forall_mem_map] at reported
  rw [reported]
  simp only [List.mem_filterMap, List.mem_map, Line.reported?_eq_some_iff]
  constructor
  · intro all row listed d read
    exact all d ⟨_, ⟨row, listed, rfl⟩, read⟩
  · rintro all d ⟨_, ⟨row, listed, rfl⟩, read⟩
    exact all row listed d read

end Listing

namespace Report

theorem checked_eq_ok_iff {found : List Diagnostic} :
    checked found = .ok found ↔ ∀ d ∈ found, d.validate = .ok () := by
  have all : found.forM Diagnostic.validate = .ok () ↔ ∀ d ∈ found, d.validate = .ok () := by
    induction found with
    | nil => exact iff_of_true rfl (by simp)
    | cons d later ih =>
        have first : (d :: later).forM Diagnostic.validate =
            d.validate.bind fun _ => later.forM Diagnostic.validate := rfl
        rw [List.forall_mem_cons, ← ih, first, Except.bind_eq_ok]
        exact ⟨fun ⟨_, both⟩ => both, fun both => ⟨(), both⟩⟩
  rw [← all, checked]
  cases found.forM Diagnostic.validate with
  | ok _ => simp
  | error e => simp

section Ingesting

variable {m : Type → Type} [Monad m] {σ : Type} [World m σ] {α : Type}

/-- Whatever a compiler prints, each of the diagnostics that are read from it has a named file, a message on one line
that is not empty and has no white space around it, and no category, and so it is valid but for a line or a column of
zero. A report that can be read is therefore taken in exactly if no headline in it has such a number. -/
theorem listing_valid (text : String) (e : Engine m α) (disk : Disk m) (input : Path) (w : σ) :
    (∀ d ∈ Listing.diagnostics text, Listing.Reportable d ∧
      d.validate = if d.line = 0 then .error (.invalidDiagnostic .zeroLine)
        else if d.column = 0 then .error (.invalidDiagnostic .zeroColumn) else .ok ()) ∧
      (Shows disk input w text →
        ((e.ingest (source disk .listing input)).runOn w = (.ok (Listing.diagnostics text), w) ↔
          ∀ row ∈ Text.lines text.toList, ∀ d, Listing.Line.read row = .headline (some d) →
            d.line ≠ 0 ∧ d.column ≠ 0)) := by
  constructor
  · intro d listed
    have reportable := Listing.reportable_of_listed listed
    exact ⟨reportable, reportable.validate_eq⟩
  · intro shows
    rw [runOn_ingest, shows.source_listing, ← Listing.places_listed text fun place => place.1 ≠ 0 ∧ place.2 ≠ 0,
      Prod.mk.injEq, and_iff_left rfl]
    refine checked_eq_ok_iff.trans (forall₂_congr ?_)
    intro d listed
    exact (Listing.reportable_of_listed listed).valid_iff

end Ingesting

def unplaced : Diagnostic := { unended with column := 0 }

theorem listing_valid_unplaced :
    let text := Headline.written Headline.plain unplaced ++ "\n"
    text = "src/a.ts(1,0): error TS1005: ';' expected.\n" ∧ Shows Tree.disk output (holding text) text ∧
      (∀ d ∈ Listing.diagnostics text, Listing.Reportable d) ∧
      (blank.ingest (source Tree.disk .listing output)).runOn (holding text) ≠
        (.ok (Listing.diagnostics text), holding text) := by
  intro text
  have legible : Headline.Legible Headline.plain unplaced := { legible_printed unended (by simp) with }
  obtain ⟨line, rows, -, headline⟩ := lines_written legible
  obtain ⟨valid, read⟩ := listing_valid text blank Tree.disk output (holding text)
  refine ⟨by decide +kernel, shows_holding text, fun d listed => (valid d listed).1, ?_⟩
  rw [ne_eq, read (shows_holding text)]
  intro placed
  exact (placed line (by rw [rows]; exact List.mem_cons_self) unplaced headline).2 rfl

end Report

end Remedy
