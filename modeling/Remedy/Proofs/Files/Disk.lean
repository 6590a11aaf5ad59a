import Remedy.Files.Disk
import Remedy.Proofs.Files.View

/-! Disks whose files can be looked at from outside. Main statement: the editor on such a disk is one whose
files can be looked at. -/

namespace Remedy

open World (Stays)

variable {m : Type → Type} [Monad m] {σ : Type} [World m σ]

/-- Putting a text under a name puts its bytes at the place of that name, or fails and changes nothing. -/
structure IsPut {Place : Type} (place : σ → Path → Place) (bytes : σ → Place → Option ByteArray)
    (put : Path → String → m (Except DiskError Unit)) : Prop where
  stays_named : ∀ path text s, place (World.step (put path text) s).2 = place s
  puts : ∀ path text s, (World.step (put path text) s).1 = .ok () →
    bytes (World.step (put path text) s).2 (place s path) = some text.toUTF8
  elsewhere : ∀ path text s k, k ≠ place s path → bytes (World.step (put path text) s).2 k = bytes s k
  fails : ∀ path text s e, (World.step (put path text) s).1 = .error e →
    bytes (World.step (put path text) s).2 = bytes s

/-- A disk together with a view of the files on it. -/
structure DiskView (m : Type → Type) [Monad m] {σ : Type} [World m σ] where
  disk : Disk m
  Place : Type
  place : σ → Path → Place
  bytes : σ → Place → Option ByteArray
  kind_stays : ∀ path, Stays (SameView place bytes) (disk.kind? path)
  read_stays : ∀ path, Stays (SameView place bytes) (disk.read path)
  read_shows : ∀ path s b, (World.step (disk.read path) s).1 = .ok b → bytes s (place s path) = some b
  makeDirectory_stays : ∀ path, Stays (SameView place bytes) (disk.makeDirectory path)
  touch_stays_named : ∀ path s, place (World.step (disk.touch path) s).2 = place s
  touch_elsewhere : ∀ path s k, k ≠ place s path → bytes (World.step (disk.touch path) s).2 k = bytes s k
  replace_isPut : IsPut place bytes disk.replace

theorem toUTF8_of_fromUTF8? {bytes : ByteArray} {text : String} (decoded : String.fromUTF8? bytes = some text) :
    text.toUTF8 = bytes := by
  unfold String.fromUTF8? at decoded
  split at decoded
  · cases decoded
    rfl
  · cases decoded

namespace Disk

variable {disk : Disk m}

theorem runOn_step {α : Type} (failed : DiskError → Failure) (run : m (Except DiskError α)) (s : σ) :
    (step failed run).runOn s = ((World.step run s).1.mapError failed, (World.step run s).2) := by
  unfold step
  rw [ExceptT.runOn_bind, ExceptT.runOn_lift, ExceptT.andThen_ok]
  cases (World.step run s).1 with
  | ok a => exact ExceptT.runOn_pure a _
  | error e => exact Action.runOn_fail _ _

theorem readText_ok {path : Path} {s : σ} {text : String}
    (read : (World.step (disk.readText path) s).1 = .ok text) :
    (World.step (disk.read path) s).1 = .ok text.toUTF8 := by
  unfold readText at read
  rw [World.step_bind] at read
  cases bytes : (World.step (disk.read path) s).1 with
  | error e =>
      rw [bytes] at read
      simp only [World.step_pure] at read
      cases read
  | ok b =>
      rw [bytes] at read
      cases decoded : String.fromUTF8? b with
      | none =>
          simp only [decoded, World.step_pure] at read
          cases read
      | some found =>
          simp only [decoded, World.step_pure, Except.ok.injEq] at read
          rw [← read, toUTF8_of_fromUTF8? decoded]

theorem runOn_editor_read (path : Path) (s : σ) :
    (disk.editor.read path).runOn s =
      (((World.step (disk.readText path) s).1.mapError (sourceError path "read file")).map Buffer.ofString,
        (World.step (disk.readText path) s).2) := by
  have unfolded : disk.editor.read path =
      step (sourceError path "read file") (disk.readText path) >>= fun text => pure (.ofString text) := rfl
  rw [unfolded, ExceptT.runOn_bind, runOn_step]
  cases (World.step (disk.readText path) s).1 with
  | ok text => exact ExceptT.runOn_pure _ _
  | error e => rfl

theorem runOn_editor_write (path : Path) (buffer : Buffer) (s : σ) :
    (disk.editor.write path buffer).runOn s =
      ((World.step (disk.replace path buffer.text) s).1.mapError (sourceError path "write file"),
        (World.step (disk.replace path buffer.text) s).2) := runOn_step _ _ s

theorem readText_stays {R : σ → σ → Prop} [IsPreorder σ R] {path : Path} (stays : Stays R (disk.read path)) :
    Stays R (disk.readText path) := by
  refine stays.bind ?_
  intro result
  split
  · exact World.stays_pure _
  · split
    · exact World.stays_pure _
    · exact World.stays_pure _

end Disk

namespace DiskView

theorem text_toUTF8_injective {a b : Buffer} (same : a.text.toUTF8 = b.text.toUTF8) : a = b := by
  obtain ⟨as⟩ := a
  obtain ⟨bs⟩ := b
  have texts : String.ofList as = String.ofList bs := String.toByteArray_inj.mp same
  rw [String.ofList_inj.mp texts]

theorem readText_stays (view : DiskView m) (path : Path) :
    Stays (SameView view.place view.bytes) (view.disk.readText path) :=
  Disk.readText_stays (view.read_stays path)

def files (view : DiskView m) : FileView m where
  editor := view.disk.editor
  Place := view.Place
  Content := ByteArray
  place := view.place
  content := view.bytes
  encode b := b.text.toUTF8
  encode_injective _ _ same := text_toUTF8_injective same
  place_read path s := by
    rw [Disk.runOn_editor_read]
    exact (view.readText_stays path s).1
  place_write path text s := by
    rw [Disk.runOn_editor_write]
    exact view.replace_isPut.stays_named path text.text s
  content_read path s := by
    rw [Disk.runOn_editor_read]
    exact (view.readText_stays path s).2
  read_shows path s text shown := by
    rw [Disk.runOn_editor_read] at shown
    cases read : (World.step (view.disk.readText path) s).1 with
    | error e => simp [read, Except.map] at shown
    | ok found =>
        simp only [read, Except.mapError_ok, Except.map, Except.ok.injEq] at shown
        have there := view.read_shows path s _ (Disk.readText_ok read)
        rw [there, ← shown, Buffer.ofString, Buffer.text, String.ofList_toList]
  write_puts path text s written := by
    rw [Disk.runOn_editor_write] at written ⊢
    apply view.replace_isPut.puts
    cases put : (World.step (view.disk.replace path text.text) s).1 with
    | ok done => rfl
    | error e => simp [put] at written
  write_elsewhere path text s k elsewhere := by
    rw [Disk.runOn_editor_write]
    exact view.replace_isPut.elsewhere path text.text s k elsewhere
  write_fails path text s e failed := by
    rw [Disk.runOn_editor_write] at failed ⊢
    cases put : (World.step (view.disk.replace path text.text) s).1 with
    | ok done => simp [put] at failed
    | error reason => exact view.replace_isPut.fails path text.text s reason put

def beside (τ : Type) (view : DiskView m) : DiskView (StateT τ m) where
  disk := view.disk.lifted StateT.lift
  Place := view.Place
  place w := view.place w.2
  bytes w := view.bytes w.2
  kind_stays path w := by
    rw [Disk.lifted, World.step_lift]
    exact view.kind_stays path w.2
  read_stays path w := by
    rw [Disk.lifted, World.step_lift]
    exact view.read_stays path w.2
  read_shows path w b read := by
    rw [Disk.lifted, World.step_lift] at read
    exact view.read_shows path w.2 b read
  makeDirectory_stays path w := by
    rw [Disk.lifted, World.step_lift]
    exact view.makeDirectory_stays path w.2
  touch_stays_named path w := by
    rw [Disk.lifted, World.step_lift]
    exact view.touch_stays_named path w.2
  touch_elsewhere path w k other := by
    rw [Disk.lifted, World.step_lift]
    exact view.touch_elsewhere path w.2 k other
  replace_isPut := by
    constructor
    case stays_named =>
      intro path text w
      rw [Disk.lifted, World.step_lift]
      exact view.replace_isPut.stays_named path text w.2
    case puts =>
      intro path text w put
      rw [Disk.lifted, World.step_lift] at put ⊢
      exact view.replace_isPut.puts path text w.2 put
    case elsewhere =>
      intro path text w k other
      rw [Disk.lifted, World.step_lift]
      exact view.replace_isPut.elsewhere path text w.2 k other
    case fails =>
      intro path text w e failed
      rw [Disk.lifted, World.step_lift] at failed ⊢
      exact view.replace_isPut.fails path text w.2 e failed

end DiskView

end Remedy
