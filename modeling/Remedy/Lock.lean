/-! One lock for each key. Locks are numbered as their keys are first asked for. -/

namespace Remedy

/-- The keys that have a lock; the place of a key is the number of its lock. -/
structure Locks (κ : Type) where
  keys : List κ
  nodup : keys.Nodup

namespace Locks

variable {κ : Type}

def empty : Locks κ := ⟨[], .nil⟩

def size (l : Locks κ) : Nat := l.keys.length

variable [DecidableEq κ]

def handle (l : Locks κ) (key : κ) : Nat × Locks κ :=
  if h : key ∈ l.keys then (l.keys.idxOf key, l)
  else (l.size, ⟨l.keys ++ [key],
    List.nodup_append.mpr ⟨l.nodup, by simp, fun _ here _ there same =>
      h (by simp only [List.mem_singleton] at there; rw [← there, ← same]; exact here)⟩⟩)

/-- The numbers of the locks of several keys, in turn, each with the count of locks by then. -/
def handles (l : Locks κ) : List κ → List (Nat × Nat) × Locks κ
  | [] => ([], l)
  | key :: keys =>
    let (number, l) := l.handle key
    let (rest, last) := l.handles keys
    ((number, l.size) :: rest, last)

end Locks

end Remedy
