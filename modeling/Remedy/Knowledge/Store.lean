import Remedy.Action
import Remedy.Knowledge.Entry

/-! The knowledge base as its users see it. -/

namespace Remedy

structure Store (m : Type → Type) (α : Type) where
  get : Signature → Action m (Option (Entry α))
  /-- Adds an entry or puts it in place of the one with its signature. -/
  put : Entry α → Action m Unit
  entries : Action m (List (Entry α))
  /-- Makes what was put last. -/
  flush : Action m Unit

def Store.lifted {m n : Type → Type} {α : Type} (lift : {β : Type} → n β → m β) (s : Store n α) :
    Store m α where
  get signature := (s.get signature).lifted lift
  put entry := (s.put entry).lifted lift
  entries := s.entries.lifted lift
  flush := s.flush.lifted lift

end Remedy
