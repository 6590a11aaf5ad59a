import Remedy.Knowledge.Store
import Remedy.Knowledge.Table

/-! A knowledge base in memory, which can be told to fail. -/

namespace Remedy

structure MemoryKnowledge (α : Type) where
  table : Table α
  /-- How many of the next puts meet an entry that someone else has changed. -/
  conflicts : Nat
  /-- Whether nothing can be reached. -/
  broken : Bool
  deriving Repr, Inhabited

namespace MemoryKnowledge

variable {α : Type}

def ofEntries (entries : List (Entry α)) : MemoryKnowledge α := ⟨Table.ofList entries, 0, false⟩

def outage : Failure := .service (.knowledgeStore "simulated outage")

def get (signature : Signature) : Action (StateM (MemoryKnowledge α)) (Option (Entry α)) := fun m =>
  (if m.broken then .error outage else .ok (m.table.get? signature), m)

def put (e : Entry α) : Action (StateM (MemoryKnowledge α)) Unit := fun m =>
  if m.broken then (.error outage, m)
  else
    match m.conflicts with
    | 0 => (.ok (), { m with table := m.table.insert e })
    | left + 1 => (.error (.service (.storeConflict e.signature)), { m with conflicts := left })

def entries : Action (StateM (MemoryKnowledge α)) (List (Entry α)) := fun m =>
  (if m.broken then .error outage else .ok m.table.entries, m)

def store : Store (StateM (MemoryKnowledge α)) α where
  get := get
  put := put
  entries := entries
  flush := pure ()

end MemoryKnowledge

end Remedy
