/-! JSON values. The order of an object's fields, and fields given twice, are kept. -/

namespace Remedy

inductive Json where
  | null
  | bool (b : Bool)
  | nat (n : UInt64)
  /-- A whole number below zero. -/
  | neg (n : Int64)
  | real (x : Float)
  | str (s : String)
  | arr (items : List Json)
  | obj (fields : List (String × Json))
  /-- Text in the form of a value that stands for none: a number out of range, or half a character. -/
  | unfit
  deriving Inhabited

namespace Json

/-- The value of a field; of a field given twice, the last. -/
def field? (name : String) : List (String × Json) → Option Json
  | [] => none
  | (key, value) :: rest =>
    match field? name rest with
    | some later => some later
    | none => if key = name then some value else none

def get? (name : String) : Json → Option Json
  | obj fields => field? name fields
  | _ => none

def ofNat (n : Nat) : Json := nat (UInt64.ofNat n)

def ofUInt32 (n : UInt32) : Json := nat n.toUInt64

def ofInt64 (n : Int64) : Json := if n < 0 then neg n else nat n.toUInt64

def ofOption {α : Type} (write : α → Json) : Option α → Json
  | some a => write a
  | none => null

def ofList {α : Type} (write : α → Json) (items : List α) : Json := arr (items.map write)

end Json

end Remedy
