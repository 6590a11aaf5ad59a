import Remedy.Text.Basic

/-! TOML values. -/

namespace Remedy

inductive Toml where
  | str (s : String)
  | int (n : Int)
  | real (x : Float)
  | bool (b : Bool)
  /-- A date, a time, or both, in its usual form. -/
  | moment (s : String)
  | array (items : List Toml)
  | table (fields : List (String × Toml))
  deriving Inhabited

namespace Toml

abbrev Decoder (α : Type) := Toml → Option α

def asText? : Decoder String
  | str s => some s
  | _ => none

def asBool? : Decoder Bool
  | bool b => some b
  | _ => none

def asUInt32? : Decoder UInt32
  | int n => if 0 ≤ n ∧ n < (UInt32.size : Int) then some (UInt32.ofNat n.toNat) else none
  | _ => none

/-- A number; a whole one must fit in 64 bits, with or without a sign. -/
def asFloat? : Decoder Float
  | int n => if -0x8000000000000000 ≤ n ∧ n < 0x10000000000000000 then some (Float.ofInt n) else none
  | real x => some x
  | _ => none

def asList? {α : Type} (item : Decoder α) : Decoder (List α)
  | array items => items.mapM item
  | _ => none

structure Record where
  fields : List (String × Toml)
  /-- Whether the fields were given in order instead of by name. -/
  ordered : Bool

namespace Record

/-- The record with these field names and no other; or an array of its fields in order, where what is
left over does not count. -/
def of? (names : List String) : Toml → Option Record
  | table fields => if fields.all fun f => names.contains f.1 then some ⟨fields, false⟩ else none
  | array items => some ⟨names.zip items, true⟩
  | _ => none

def lookup? (r : Record) (name : String) : Option Toml := (r.fields.find? (·.1 == name)).map Prod.snd

def required {α : Type} (r : Record) (name : String) (value : Decoder α) : Option α :=
  (r.lookup? name).bind value

def optional {α : Type} (r : Record) (name : String) (value : Decoder α) : Option (Option α) :=
  match r.lookup? name with
  | some v => (value v).map some
  | none => if r.ordered then none else some none

def defaulted {α : Type} (r : Record) (name : String) (absent : α) (value : Decoder α) : Option α :=
  match r.lookup? name with
  | some v => value v
  | none => some absent

end Record

end Toml

end Remedy
