import Remedy.Engine
import Remedy.Knowledge.Memory
import Remedy.Proofs.Action.Stay
import Remedy.Proofs.Files.Tree
import Remedy.Proofs.Report.Listing
import Remedy.Report.Source

/-! Which format an input is taken for. Main statement: compiler output is taken for JSON only if the path in its first
line opens like JSON, and then it is read as compiler output is exactly if the JSON reader makes the same of it. -/

namespace Remedy

namespace Report

open Text (trimStart)

variable {s : String} {cs line : List Char}

def Opens (cs : List Char) : Prop := (trimStart cs).head? = some '\x7b' ∨ (trimStart cs).head? = some '['

theorem opensJson_iff : opensJson s = true ↔ Opens s.toList := by
  unfold opensJson Opens
  cases trimStart s.toList with
  | nil => simp
  | cons c rest =>
      split
      · rename_i same
        simp [(List.cons.inj same).1]
      · rename_i same
        simp [(List.cons.inj same).1]
      · rename_i record list
        simp only [Bool.false_eq_true, List.head?_cons, Option.some.injEq, false_iff, not_or]
        exact ⟨fun same => record rest (by rw [same]), fun same => list rest (by rw [same])⟩

theorem opens_congr (same : (trimStart cs).head? = (trimStart line).head?) : Opens cs ↔ Opens line := by
  unfold Opens
  rw [same]

theorem opens_of_begins (begins : line <+: cs) (some : trimStart line ≠ []) : Opens cs ↔ Opens line := by
  obtain ⟨rest, rfl⟩ := begins
  exact opens_congr (Text.head?_trimStart_append some rest)

theorem Opens.uncoloured (opens : Opens line) : Opens (Listing.uncolouredFrom 0 line) := by
  induction line with
  | nil => exact opens
  | cons c rest ih =>
      by_cases blank : Text.isBlank c = true
      · have other : c ≠ '\x1b' := by
          rintro rfl
          revert blank
          decide
        rw [Listing.uncoloured_cons other]
        unfold Opens trimStart at opens ih ⊢
        rw [List.dropWhile_cons_of_pos blank] at opens ⊢
        exact ih opens
      · have first : ∀ cs, (trimStart (c :: cs)).head? = some c := by
          intro cs
          rw [trimStart, List.dropWhile_cons_of_neg blank]
          rfl
        have other : c ≠ '\x1b' := by
          rintro rfl
          unfold Opens at opens
          rw [first] at opens
          revert opens
          decide
        rw [Listing.uncoloured_cons other]
        exact (opens_congr ((first _).trans (first _).symm)).mp opens

section Headlines

open Headline (Form)

variable {form : Form} {file marker message : List Char} {d : Diagnostic}

theorem trimStart_marked (known : form.Known) (marks : form.Marks marker) :
    trimStart (file ++ marker ++ message) ≠ [] := by
  obtain ⟨c, rest, rfl, sign⟩ := marks.opens known
  have solid : Text.isBlank c = false := by rcases sign with rfl | rfl <;> decide
  unfold trimStart
  rw [ne_eq, List.dropWhile_eq_nil_iff]
  intro all
  rw [all c (by simp)] at solid
  cases solid

/-- Since a marker does not open like JSON, the line does exactly if the file in front of it does. -/
theorem opens_file_iff (known : form.Known) (marks : form.Marks marker) :
    Opens (file ++ marker ++ message) ↔ Opens file := by
  by_cases some : trimStart file = []
  · have blank : ∀ c ∈ file, Text.isBlank c = true := List.dropWhile_eq_nil_iff.mp some
    obtain ⟨c, rest, rfl, sign⟩ := marks.opens known
    have solid : ¬Text.isBlank c = true := by rcases sign with rfl | rfl <;> decide
    have first : (trimStart (file ++ c :: rest ++ message)).head? = .some c := by
      rw [List.append_assoc, trimStart, List.dropWhile_append_of_pos blank, List.cons_append,
        List.dropWhile_cons_of_neg solid]
      rfl
    unfold Opens
    rw [first, some]
    rcases sign with rfl | rfl <;> decide
  · rw [List.append_assoc]
    exact opens_of_begins (List.prefix_append _ _) some

theorem parts_of_headline (read : Listing.Line.read line = .headline (some d)) :
    ∃ form marker message, Form.Known form ∧ form.Marks marker ∧
      Listing.clean line = d.file.text.toList ++ marker ++ message := by
  obtain ⟨h, found, made⟩ := Listing.headline_of_read read
  obtain ⟨-, form, marker, known, marks, parts⟩ := Headline.read?_parts found
  exact ⟨form, marker, h.message, known, marks, (Headline.diagnostic?_parts made).1 ▸ parts⟩

theorem opens_of_headline (read : Listing.Line.read line = .headline (some d)) :
    trimStart line ≠ [] ∧ (Opens line → Opens d.file.text.toList) ∧
      ('\x1b' ∉ line → Opens d.file.text.toList → Opens line) := by
  obtain ⟨form, marker, message, known, marks, parts⟩ := parts_of_headline read
  have some : trimStart (Listing.clean line) ≠ [] := parts ▸ trimStart_marked known marks
  have path : Opens (Listing.clean line) ↔ Opens d.file.text.toList := parts ▸ opens_file_iff known marks
  have ended : Opens (Listing.uncolouredFrom 0 line) ↔ Opens (Listing.clean line) :=
    opens_of_begins (Text.prefix_trimEnd _) some
  refine ⟨?_, fun opens => path.mp (ended.mp opens.uncoloured), fun free opens => ?_⟩
  · intro none
    have blank : ∀ c ∈ line, Text.isBlank c = true := List.dropWhile_eq_nil_iff.mp none
    have free : '\x1b' ∉ line := by
      intro member
      have escape := blank _ member
      revert escape
      decide
    refine some (List.dropWhile_eq_nil_iff.mpr fun c member => blank c ?_)
    rw [Listing.clean_eq free] at member
    exact (Text.prefix_trimEnd line).mem member
  · rw [← Listing.uncoloured free]
    exact ended.mpr (path.mpr opens)

end Headlines

def checked (found : List Diagnostic) : Except Failure (List Diagnostic) :=
  match found.forM Diagnostic.validate with
  | .ok () => .ok found
  | .error e => .error (.domain e)

section Reading

variable {m : Type → Type} [Monad m] {σ : Type} [World m σ] {α : Type} {disk : Disk m} {input : Path} {w : σ}
  {text : String}

theorem runOn_ingest (e : Engine m α) (source : Action m (List Diagnostic)) (w : σ) :
    (e.ingest source).runOn w =
      ((source.runOn w).1.bind checked, (source.runOn w).2) := by
  unfold Engine.ingest
  rw [ExceptT.runOn_bind]
  rcases source.runOn w with ⟨result, w'⟩
  cases result with
  | error f => rfl
  | ok found =>
      rw [ExceptT.andThen_ok, ExceptT.runOn_bind]
      simp only [Except.bind, checked]
      cases found.forM Diagnostic.validate with
      | ok done => simp
      | error f => simp

/-- A file that can be read, on a disk that looking at it does not change. -/
structure Shows (disk : Disk m) (input : Path) (w : σ) (text : String) : Prop where
  kind : World.step (disk.isDirectory input) w = (false, w)
  read : World.step (disk.readText input) w = (.ok text, w)

variable (shows : Shows disk input w text)

include shows

theorem Shows.listing : (listing disk input).runOn w = (.ok (Listing.diagnostics text), w) := by
  unfold Report.listing
  rw [ExceptT.runOn_bind, Disk.runOn_step, shows.read]
  exact ExceptT.runOn_pure _ _

theorem Shows.documents : (documents disk input).runOn w = (ofDocument input text, w) := by
  unfold Report.documents documentFile
  rw [ExceptT.runOn_bind, ExceptT.runOn_lift, shows.kind, ExceptT.andThen_ok, if_neg Bool.false_ne_true,
    ExceptT.runOn_bind, Disk.runOn_step, shows.read]
  exact Action.runOn_ofExcept _ _

theorem Shows.detect (named : input.extension?.any isJsonExtension = false) :
    World.step (detect disk input) w = (if opensJson text then .json else .listing, w) := by
  unfold Report.detect
  rw [World.step_bind, shows.kind]
  simp only [Bool.false_eq_true, ↓reduceIte, named]
  rw [World.step_bind, shows.read]
  exact World.step_pure _ _

theorem Shows.source_auto (named : input.extension?.any isJsonExtension = false) :
    (source disk .auto input).runOn w =
      (if opensJson text then ofDocument input text else .ok (Listing.diagnostics text), w) := by
  unfold source
  rw [ExceptT.runOn_bind, ExceptT.runOn_lift, shows.detect named, ExceptT.andThen_ok]
  dsimp only
  cases opensJson text with
  | true => exact shows.documents
  | false => exact shows.listing

theorem Shows.source_listing : (source disk .listing input).runOn w = (.ok (Listing.diagnostics text), w) := by
  unfold source
  rw [ExceptT.runOn_bind, ExceptT.runOn_pure, ExceptT.andThen_ok]
  exact shows.listing

theorem Shows.source_json : (source disk .json input).runOn w = (ofDocument input text, w) := by
  unfold source
  rw [ExceptT.runOn_bind, ExceptT.runOn_pure, ExceptT.andThen_ok]
  exact shows.documents

omit shows

/-- A text that is no document fails as such, and what compiler output fails with is a flaw of a diagnostic. -/
theorem bind_ofDocument_eq_iff (input : Path) {found : List Diagnostic} :
    (ofDocument input text).bind checked = checked found ↔
      ∃ others, Document.diagnostics? text = some others ∧ checked others = checked found := by
  unfold ofDocument
  cases Document.diagnostics? text with
  | some others => simp [Except.bind]
  | none =>
      simp only [Except.bind, reduceCtorEq, false_and, exists_false, iff_false]
      unfold checked malformed
      split <;> simp

/-- Where compiler output is to be read, its format is found unless it opens like JSON. Then it is read as JSON, which
comes to the same exactly if it happens to be a document of as good as the same diagnostics. It opens so only if the
path in its first line does, and if that line has no colours, just then. -/
theorem ingest_auto_eq_iff {α : Type} (e : Engine m α) {line : List Char} {others : List (List Char)} {d : Diagnostic}
    (shows : Shows disk input w text) (named : input.extension?.any isJsonExtension = false)
    (rows : Text.lines text.toList = line :: others) (headline : Listing.Line.read line = .headline (some d)) :
    ((e.ingest (source disk .auto input)).runOn w = (e.ingest (source disk .listing input)).runOn w ↔
        opensJson text = false ∨ ∃ found, Document.diagnostics? text = some found ∧
          checked found = checked (Listing.diagnostics text)) ∧
      (opensJson text = true → opensJson d.file.text = true ∧
        (e.ingest (source disk .auto input)).runOn w = (e.ingest (source disk .json input)).runOn w) ∧
      ('\x1b' ∉ line → opensJson d.file.text = true → opensJson text = true) := by
  obtain ⟨solid, path, colourless⟩ := opens_of_headline headline
  have first : Opens text.toList ↔ Opens line := opens_of_begins (Text.lines_begins rows) solid
  refine ⟨?_, fun opens => ⟨?_, ?_⟩, fun free opens => ?_⟩
  · rw [runOn_ingest, runOn_ingest, shows.source_auto named, shows.source_listing, ← bind_ofDocument_eq_iff input]
    cases opensJson text <;> simp [Except.bind]
  · exact opensJson_iff.mpr (path (first.mp (opensJson_iff.mp opens)))
  · rw [runOn_ingest, runOn_ingest, shows.source_auto named, shows.source_json, if_pos opens]
  · exact opensJson_iff.mpr (first.mpr (colourless free (opensJson_iff.mp opens)))

end Reading

section Printed

open Headline (Legible written)

def output : Path := ⟨"out.txt"⟩

def holding (text : String) : Tree := ⟨[(["out.txt"], .file text.toUTF8)], []⟩

def blank : Engine (StateM Tree) Float :=
  ⟨MemoryKnowledge.store.lifted fun step => pure (step (.ofEntries [])).1, .empty, none, .standard⟩

theorem shows_holding (text : String) : Shows Tree.disk output (holding text) text where
  kind := rfl
  read := by
    have there : (holding text).read output = .ok text.toUTF8 := rfl
    rw [Tree.step_readText, there]
    simp only [Except.bind, Tree.fromUTF8?_toUTF8]

theorem lines_written {form : Headline.Form} {d : Diagnostic} (legible : Legible form d) :
    ∃ line, Text.lines (written form d ++ "\n").toList = [line] ∧ '\x1b' ∉ line ∧
      Listing.Line.read line = .headline (some d) := by
  have oneLine := Headline.written_oneLine legible
  have free : '\x1b' ∉ (written form d).toList := fun member => (oneLine _ member).2 rfl
  refine ⟨Text.dropReturn (written form d).toList, ?_, fun member => free (Text.dropReturn_subset _ member), ?_⟩
  · rw [String.toList_append]
    exact Text.lines_row (fun member => (oneLine _ member).1 rfl) []
  · rw [Listing.read_dropReturn free, Listing.read_headline legible]

theorem diagnostics_of_line {text : String} {line : List Char} {d : Diagnostic}
    (rows : Text.lines text.toList = [line]) (headline : Listing.Line.read line = .headline (some d)) :
    Listing.diagnostics text = [d] := by
  rw [Listing.diagnostics, rows, List.map_singleton, headline]
  rfl

def unended : Diagnostic := ⟨⟨"src/a.ts"⟩, 1, 1, "';' expected.", 1005, .error, .genericError⟩

def addressed : Diagnostic := ⟨⟨"[id]/page.tsx"⟩, 3, 10, "Cannot find name 'x'.", 2304, .error, .genericError⟩

theorem legible_printed : ∀ d ∈ [unended, addressed], Legible Headline.plain d := by
  have worded : ∀ d ∈ [unended, addressed], d.category = .genericError ∧ d.file.text ≠ "" ∧ d.message ≠ "" := by
    decide
  have trimmed : ∀ d ∈ [unended, addressed], Text.trimmed d.message = d.message := by decide +kernel
  have absent : ∀ d ∈ [unended, addressed], Text.occursIn " TS".toList d.file.text.toList = false := by decide +kernel
  have oneLine : ∀ d ∈ [unended, addressed],
      ∀ c ∈ d.file.text.toList ++ d.message.toList, c ≠ '\n' ∧ c ≠ '\x1b' :=
    List.forall_mem_cons.mpr ⟨by simp [unended], List.forall_mem_singleton.mpr (by simp [addressed])⟩
  intro d listed
  obtain ⟨unclassified, named, stated⟩ := worded d listed
  exact ⟨unclassified, named, stated, trimmed d listed, oneLine d listed,
    .plain (Headline.not_headed (absent d listed))⟩

theorem ingest_auto_unended :
    let text := written Headline.plain unended ++ "\n"
    text = "src/a.ts(1,1): error TS1005: ';' expected.\n" ∧ opensJson text = false ∧
      (blank.ingest (source Tree.disk .auto output)).runOn (holding text) =
        (blank.ingest (source Tree.disk .listing output)).runOn (holding text) ∧
      (blank.ingest (source Tree.disk .listing output)).runOn (holding text) = (.ok [unended], holding text) := by
  intro text
  obtain ⟨line, rows, -, headline⟩ := lines_written (legible_printed unended (by simp))
  have other : opensJson text = false := by decide +kernel
  have read := (ingest_auto_eq_iff blank (shows_holding text) (by decide +kernel) rows headline).1
  refine ⟨by decide +kernel, other, read.mpr (.inl other), ?_⟩
  rw [runOn_ingest, (shows_holding text).source_listing, diagnostics_of_line rows headline]
  rfl

/-- A headline whose path begins with a bracket is found to be JSON, and fails as a document that it is not. -/
theorem ingest_auto_addressed :
    let text := "[id]/page.tsx(3,10): error TS2304: Cannot find name 'x'.\n"
    (∃ line, Text.lines text.toList = [line] ∧ Listing.Line.read line = .headline (some addressed)) ∧
      output.extension?.any isJsonExtension = false ∧
      (blank.ingest (source Tree.disk .listing output)).runOn (holding text) = (.ok [addressed], holding text) ∧
      (blank.ingest (source Tree.disk .auto output)).runOn (holding text) =
        (.error (malformed output), holding text) := by
  intro text
  have printed : text = written Headline.plain addressed ++ "\n" := by decide +kernel
  obtain ⟨line, rows, -, headline⟩ := lines_written (legible_printed addressed (by simp))
  rw [← printed] at rows
  have named : output.extension?.any isJsonExtension = false := by decide +kernel
  have opens : opensJson text = true := by decide +kernel
  have unread : Document.diagnostics? text = none := by decide +kernel
  refine ⟨⟨line, rows, headline⟩, named, ?_, ?_⟩
  · rw [runOn_ingest, (shows_holding text).source_listing, diagnostics_of_line rows headline]
    rfl
  · rw [runOn_ingest, (shows_holding text).source_auto named, if_pos opens, ofDocument, unread]
    rfl

end Printed

end Report

end Remedy
