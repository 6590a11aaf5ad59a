import Remedy.Knowledge.Entry

/-! Entries by signature, in the order of signatures, and how tables that grew apart come together: of one signature, the
entry with more resolutions is kept. -/

namespace Remedy

structure Table (α : Type) where
  entries : List (Entry α)
  deriving Repr, Inhabited

namespace Table

variable {α : Type}

def empty : Table α := ⟨[]⟩

def size (t : Table α) : Nat := t.entries.length

def isEmpty (t : Table α) : Bool := t.entries.isEmpty

def get? (t : Table α) (signature : Signature) : Option (Entry α) :=
  t.entries.find? (·.signature == signature)

def insertInto (e : Entry α) : List (Entry α) → List (Entry α)
  | [] => [e]
  | f :: rest =>
    match e.signature.compare f.signature with
    | .lt => e :: f :: rest
    | .eq => e :: rest
    | .gt => f :: insertInto e rest

def insert (t : Table α) (e : Entry α) : Table α := ⟨insertInto e t.entries⟩

/-- Of entries with one signature the last is kept. -/
def ofList (entries : List (Entry α)) : Table α := entries.foldl insert empty

variable [Scalar α]

/-- Whether an entry says nothing new against the table: another one has been observed as often. -/
def isStale (t : Table α) (e : Entry α) : Bool :=
  match t.get? e.signature with
  | some known => !known.same e && e.observed ≤ known.observed
  | none => false

def advance? (t : Table α) (e : Entry α) : Option (Table α) :=
  if t.isStale e then none else some (t.insert e)

/-- The table with an entry, if it has been observed more often than the one there. -/
def raise (t : Table α) (e : Entry α) : Table α :=
  match t.get? e.signature with
  | some known => if known.observed < e.observed then t.insert e else t
  | none => t.insert e

def merge (t seen : Table α) : Table α := seen.entries.foldl raise t

end Table

end Remedy
