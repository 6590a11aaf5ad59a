import Remedy.Files.Memory
import Remedy.Proofs.Files.View

/-! Files in memory as files that can be looked at: two spellings with the same components name one file. -/

namespace Remedy.MemoryFiles

def contentAt (m : MemoryFiles) (k : List Path.Component) : Option Buffer :=
  (m.files.find? fun f => f.1.components == k).map Prod.snd

theorem content?_eq (m : MemoryFiles) (path : Path) : m.content? path = m.contentAt path.components := by
  unfold content? contentAt
  induction m.files with
  | nil => rfl
  | cons file rest ih =>
      obtain ⟨p, text⟩ := file
      cases same : p.components == path.components with
      | true => simp [lookup?, Path.same, same]
      | false => simpa [lookup?, Path.same, same] using ih

theorem contentAt_insert (m : MemoryFiles) (path : Path) (text : Buffer) (k : List Path.Component) :
    (m.insert path text).contentAt k = if k = path.components then some text else m.contentAt k := by
  unfold contentAt insert
  simp only
  induction m.files with
  | nil =>
      by_cases here : k = path.components
      · simp [replace, here]
      · simp [replace, here, Ne.symm here]
  | cons file rest ih =>
      obtain ⟨p, old⟩ := file
      by_cases same : p.components = path.components
      · by_cases here : k = path.components
        · simp [replace, Path.same, same, here]
        · simp [replace, Path.same, same, here, Ne.symm here]
      · by_cases found : p.components = k
        · have elsewhere : k ≠ path.components := fun here => same (found.trans here)
          simp [replace, Path.same, found, elsewhere]
        · simpa [replace, Path.same, same, found] using ih

theorem runOn_read (path : Path) (m : MemoryFiles) :
    (editor.read path).runOn m =
      (match m.content? path with
        | some text => .ok text
        | none => .error (missing path), m) := by
  change read path m = _
  unfold read
  cases m.content? path <;> rfl

theorem runOn_write (path : Path) (text : Buffer) (m : MemoryFiles) :
    (editor.write path text).runOn m =
      match m.failingWrites with
      | 0 => (.ok (), m.insert path text)
      | left + 1 =>
        (.error (.service (.sourceIo path "Simulated write failure")), { m with failingWrites := left }) := by
  change write path text m = _
  unfold write
  rfl

def view : FileView (StateM MemoryFiles) where
  editor := editor
  Place := List Path.Component
  Content := Buffer
  place _ path := path.components
  content := contentAt
  encode := id
  encode_injective _ _ same := same
  place_read _ _ := rfl
  place_write _ _ _ := rfl
  content_read path m := by rw [runOn_read]
  read_shows path m text shown := by
    rw [runOn_read, content?_eq] at shown
    cases found : m.contentAt path.components with
    | none => simp [found] at shown
    | some known => simp_all
  write_puts path text m written := by
    rw [runOn_write] at written ⊢
    cases left : m.failingWrites with
    | zero => simp [contentAt_insert]
    | succ left' => simp [left] at written
  write_elsewhere path text m k elsewhere := by
    rw [runOn_write]
    cases m.failingWrites with
    | zero => simp [contentAt_insert, elsewhere]
    | succ left => rfl
  write_fails path text m e failed := by
    rw [runOn_write] at failed ⊢
    cases left : m.failingWrites with
    | zero => simp [left] at failed
    | succ left' => rfl

theorem view_works : view.Works fun m => m.failingWrites = 0 where
  read path m text _ there := by
    change ((editor.read path).runOn m).1 = .ok text
    have found : m.content? path = some text := (content?_eq m path).trans there
    rw [runOn_read, found]
  write path text m ready _ := by
    change ((editor.write path text).runOn m).1 = .ok ()
    rw [runOn_write, ready]
  read_ready path m ready := by
    change ((editor.read path).runOn m).2.failingWrites = 0
    rw [runOn_read]
    exact ready
  write_ready path text m ready := by
    change ((editor.write path text).runOn m).2.failingWrites = 0
    rw [runOn_write, ready]
    exact ready

end Remedy.MemoryFiles
