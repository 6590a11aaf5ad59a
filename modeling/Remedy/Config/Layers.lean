import Remedy.Toml.Basic

/-! Settings in layers: a later layer prevails, tables are joined field by field. -/

namespace Remedy.Layers

abbrev Fields := List (String × Toml)

def put (key : String) (v : Toml) : Fields → Fields
  | [] => [(key, v)]
  | (k, old) :: rest => if k = key then (k, v) :: rest else (k, old) :: put key v rest

def lookup? (key : String) (fields : Fields) : Option Toml := (fields.find? (·.1 == key)).map Prod.snd

def inner : Option Toml → Fields
  | some (.table fields) => fields
  | _ => []

mutual

/-- A field with a value laid over what it had. An empty table leaves the old value. -/
def lay (old? : Option Toml) : Toml → Toml
  | .table [] => old?.getD (.table [])
  | .table (field :: rest) => .table (layFields (inner old?) (field :: rest))
  | v => v

def layFields (base : Fields) : List (String × Toml) → Fields
  | [] => base
  | (key, v) :: rest => layFields (put key (lay (lookup? key base) v) base) rest

end

def layAt (base : Fields) : List String → Toml → Fields
  | [], _ => base
  | [key], v => put key (lay (lookup? key base) v) base
  | key :: path, v => put key (.table (layAt (inner (lookup? key base)) path v)) base

def isKeyChar (c : Char) : Bool := c.isAlphanum || c = '_' || c = '-'

def pathOf (key : String) : List String :=
  let pieces := Text.split '.' key.toList
  if pieces.all fun p => !p.isEmpty && p.all isKeyChar then pieces.map String.ofList else [key]

def overlaid (base : Fields) (layer : Fields) : Fields :=
  layer.foldl (fun base (key, v) => layAt base (pathOf key) v) base

end Remedy.Layers
