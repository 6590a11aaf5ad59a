import Remedy.Files.Editor
import Remedy.Proofs.Action.Stay

/-! Editors whose files can be looked at from outside. Main statement: an editor stays one when any of its
steps may fail. -/

namespace Remedy

def SameView {σ Place Content : Type} (place : σ → Path → Place) (content : σ → Place → Option Content)
    (s t : σ) : Prop :=
  place t = place s ∧ content t = content s

instance {σ Place Content : Type} (place : σ → Path → Place) (content : σ → Place → Option Content) :
    IsPreorder σ (SameView place content) where
  refl _ := ⟨rfl, rfl⟩
  trans _ _ _ first second := ⟨second.1.trans first.1, second.2.trans first.2⟩

/-- Names lead where they led, and the file at a place is as it was if they led where they do in `names`. -/
def SameViewAt {σ Place Content : Type} (place : σ → Path → Place) (content : σ → Place → Option Content)
    (names : Path → Place) (k : Place) (s t : σ) : Prop :=
  place t = place s ∧ (place s = names → content t k = content s k)

instance {σ Place Content : Type} (place : σ → Path → Place) (content : σ → Place → Option Content)
    (names : Path → Place) (k : Place) : IsPreorder σ (SameViewAt place content names k) where
  refl _ := ⟨rfl, fun _ => rfl⟩
  trans _ _ _ first second := by
    refine ⟨second.1.trans first.1, ?_⟩
    intro named
    exact (second.2 (first.1.trans named)).trans (first.2 named)

theorem SameView.at {σ Place Content : Type} {place : σ → Path → Place} {content : σ → Place → Option Content}
    {s t : σ} (same : SameView place content s t) (names : Path → Place) (k : Place) :
    SameViewAt place content names k s t :=
  ⟨same.1, fun _ => congrFun same.2 k⟩

/-- An editor together with a view of the files it edits. Reading shows what is there and changes nothing;
writing puts a text at its own place, or fails and changes nothing. Any step may fail. -/
structure FileView (m : Type → Type) [Monad m] {σ : Type} [World m σ] where
  editor : Editor m
  /-- What tells the files of the world apart. -/
  Place : Type
  Content : Type
  /-- The file a path names. -/
  place : σ → Path → Place
  content : σ → Place → Option Content
  encode : Buffer → Content
  encode_injective : ∀ a b, encode a = encode b → a = b
  place_read : ∀ path s, place ((editor.read path).runOn s).2 = place s
  place_write : ∀ path text s, place ((editor.write path text).runOn s).2 = place s
  content_read : ∀ path s, content ((editor.read path).runOn s).2 = content s
  read_shows : ∀ path s text, ((editor.read path).runOn s).1 = .ok text →
    content s (place s path) = some (encode text)
  write_puts : ∀ path text s, ((editor.write path text).runOn s).1 = .ok () →
    content ((editor.write path text).runOn s).2 (place s path) = some (encode text)
  write_elsewhere : ∀ path text s k, k ≠ place s path →
    content ((editor.write path text).runOn s).2 k = content s k
  write_fails : ∀ path text s e, ((editor.write path text).runOn s).1 = .error e →
    content ((editor.write path text).runOn s).2 = content s

abbrev FaultScript := Nat → Option Failure

namespace Editor

variable {m : Type → Type} [Monad m] {σ : Type} [World m σ]

def scripted {α : Type} (step : Action m α) : Action (StateT FaultScript m) α := ExceptT.mk fun script =>
  match script 0 with
  | some e => pure (.error e, fun n => script (n + 1))
  | none => (fun result => (result, fun n => script (n + 1))) <$> step.run

def faulty (editor : Editor m) : Editor (StateT FaultScript m) where
  read path := scripted (editor.read path)
  write path text := scripted (editor.write path text)

theorem runOn_scripted {α : Type} (step : Action m α) (script : FaultScript) (s : σ) :
    (scripted step).runOn (script, s) =
      match script 0 with
      | some e => (.error e, (fun n => script (n + 1), s))
      | none => ((step.runOn s).1, (fun n => script (n + 1), (step.runOn s).2)) := by
  unfold scripted ExceptT.runOn
  cases next : script 0 with
  | some e => simp only [World.step, ExceptT.run_mk, StateT.run, next, World.step_pure]
  | none => simp only [World.step, ExceptT.run_mk, StateT.run, next, World.step_map]

end Editor

namespace FileView

variable {m : Type → Type} [Monad m] {σ : Type} [World m σ]

def Same (files : FileView m) : σ → σ → Prop := SameView files.place files.content

def SameAt (files : FileView m) (names : Path → files.Place) (k : files.Place) : σ → σ → Prop :=
  SameViewAt files.place files.content names k

instance (files : FileView m) : IsPreorder σ files.Same := inferInstanceAs (IsPreorder σ (SameView _ _))

instance (files : FileView m) (names : Path → files.Place) (k : files.Place) :
    IsPreorder σ (files.SameAt names k) := inferInstanceAs (IsPreorder σ (SameViewAt _ _ _ _))

/-- Where it is so, files that are there can be read and written, and it stays so. -/
structure Works (files : FileView m) (Ready : σ → Prop) : Prop where
  read : ∀ path s text, Ready s → files.content s (files.place s path) = some (files.encode text) →
    ((files.editor.read path).runOn s).1 = .ok text
  write : ∀ path text s, Ready s → (files.content s (files.place s path)).isSome = true →
    ((files.editor.write path text).runOn s).1 = .ok ()
  read_ready : ∀ path s, Ready s → Ready ((files.editor.read path).runOn s).2
  write_ready : ∀ path text s, Ready s → Ready ((files.editor.write path text).runOn s).2

theorem read_stays (files : FileView m) (path : Path) :
    ExceptT.Stays files.Same (files.editor.read path) :=
  fun s => ⟨files.place_read path s, files.content_read path s⟩

theorem reads_stay {files : FileView m} {editor? : Option (Editor m)} (edits : editor? = some files.editor) :
    ∀ editor ∈ editor?, ∀ path, ExceptT.Stays files.Same (editor.read path) := by
  subst edits
  rintro editor ⟨⟩ path
  exact files.read_stays path

/-- The same files behind an editor whose steps fail as a script says. -/
def faulty (files : FileView m) : FileView (StateT FaultScript m) where
  editor := files.editor.faulty
  Place := files.Place
  Content := files.Content
  place w := files.place w.2
  content w := files.content w.2
  encode := files.encode
  encode_injective := files.encode_injective
  place_read path w := by
    obtain ⟨script, s⟩ := w
    cases next : script 0 <;> simp [Editor.faulty, Editor.runOn_scripted, next, files.place_read]
  place_write path text w := by
    obtain ⟨script, s⟩ := w
    cases next : script 0 <;> simp [Editor.faulty, Editor.runOn_scripted, next, files.place_write]
  content_read path w := by
    obtain ⟨script, s⟩ := w
    cases next : script 0 <;> simp [Editor.faulty, Editor.runOn_scripted, next, files.content_read]
  read_shows path w text shown := by
    obtain ⟨script, s⟩ := w
    cases next : script 0 with
    | some e => simp [Editor.faulty, Editor.runOn_scripted, next] at shown
    | none =>
        simp only [Editor.faulty, Editor.runOn_scripted, next] at shown
        exact files.read_shows path s text shown
  write_puts path text w written := by
    obtain ⟨script, s⟩ := w
    cases next : script 0 with
    | some e => simp [Editor.faulty, Editor.runOn_scripted, next] at written
    | none =>
        simp only [Editor.faulty, Editor.runOn_scripted, next] at written ⊢
        exact files.write_puts path text s written
  write_elsewhere path text w k elsewhere := by
    obtain ⟨script, s⟩ := w
    cases next : script 0 with
    | some e => simp [Editor.faulty, Editor.runOn_scripted, next]
    | none =>
        simp only [Editor.faulty, Editor.runOn_scripted, next]
        exact files.write_elsewhere path text s k elsewhere
  write_fails path text w e failed := by
    obtain ⟨script, s⟩ := w
    cases next : script 0 with
    | some first => simp [Editor.faulty, Editor.runOn_scripted, next]
    | none =>
        simp only [Editor.faulty, Editor.runOn_scripted, next] at failed ⊢
        exact files.write_fails path text s e failed

end FileView

end Remedy
