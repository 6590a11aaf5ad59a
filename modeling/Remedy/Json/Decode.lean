import Remedy.Json.Basic

/-! Reading records out of JSON values. A record is an object with named fields, or an array of its
fields in order; names it does not know are passed over. -/

namespace Remedy.Json

abbrev Decoder (α : Type) := Json → Option α

def asText? : Decoder String
  | str s => some s
  | _ => none

def asBool? : Decoder Bool
  | bool b => some b
  | _ => none

def asUInt64? : Decoder UInt64
  | nat n => some n
  | _ => none

def asUInt32? : Decoder UInt32
  | nat n => if n.toNat < UInt32.size then some n.toUInt32 else none
  | _ => none

def asInt64? : Decoder Int64
  | nat n => if n.toNat < 0x8000000000000000 then some n.toInt64 else none
  | neg n => some n
  | _ => none

def asFloat? : Decoder Float
  | nat n => some n.toFloat
  | neg n => some n.toFloat
  | real x => some x
  | _ => none

def asList? {α : Type} (item : Decoder α) : Decoder (List α)
  | arr items => items.mapM item
  | _ => none

def asOption? {α : Type} (value : Decoder α) : Decoder (Option α)
  | null => some none
  | j => (value j).map some

/-- One of several spellings, or an object with the spelling as its only field and nothing in it. -/
def asChoice? {α : Type} (choice? : String → Option α) : Decoder α
  | str s => choice? s
  | obj [(s, null)] => choice? s
  | _ => none

structure Record where
  fields : List (String × Json)
  /-- Whether the fields were given in order instead of by name. -/
  ordered : Bool

namespace Record

def firstTwice (names : List String) : Bool :=
  match names with
  | [] => false
  | name :: rest => rest.contains name || firstTwice rest

/-- The record with these field names. A field given twice and a surplus item are refused. -/
def of? (names : List String) : Json → Option Record
  | obj fields =>
    let known := fields.filter fun f => names.contains f.1
    if firstTwice (known.map Prod.fst) then none else some ⟨known, false⟩
  | arr items => if items.length ≤ names.length then some ⟨names.zip items, true⟩ else none
  | _ => none

def lookup? (r : Record) (name : String) : Option Json := (r.fields.find? (·.1 == name)).map Prod.snd

def required {α : Type} (r : Record) (name : String) (value : Decoder α) : Option α :=
  (r.lookup? name).bind value

def optional {α : Type} (r : Record) (name : String) (value : Decoder α) : Option (Option α) :=
  match r.lookup? name with
  | some j => asOption? value j
  | none => if r.ordered then none else some none

def defaulted {α : Type} (r : Record) (name : String) (absent : α) (value : Decoder α) : Option α :=
  match r.lookup? name with
  | some j => value j
  | none => some absent

end Record

end Remedy.Json
