import Remedy.Action
import Remedy.Edit.Buffer

/-! Source files as those see them who edit them. -/

namespace Remedy

structure Editor (m : Type → Type) where
  read : Path → Action m Buffer
  write : Path → Buffer → Action m Unit

def Editor.lifted {m n : Type → Type} (lift : {β : Type} → n β → m β) (e : Editor n) : Editor m where
  read path := (e.read path).lifted lift
  write path buffer := (e.write path buffer).lifted lift

end Remedy
