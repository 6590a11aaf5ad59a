import Remedy.Toml.Basic

/-! A TOML document as it grows. How a table came to be decides what may still be added to it. -/

namespace Remedy.Toml

inductive Origin where
  /-- It has a header of its own. -/
  | header
  /-- The header of another table runs through it. -/
  | implied
  /-- A key with dots runs through it. -/
  | dotted
  /-- It was written as a value. -/
  | inline
  deriving DecidableEq, Repr

inductive Draft where
  | leaf (v : Toml)
  | array (items : List Draft)
  /-- Tables under one header. -/
  | tables (items : List (Origin × List (String × Draft)))
  | table (origin : Origin) (fields : List (String × Draft))

abbrev Fields := List (String × Draft)

namespace Draft

def lookup? (key : String) : Fields → Option Draft
  | [] => none
  | (k, v) :: rest => if k = key then some v else lookup? key rest

def put (key : String) (v : Draft) : Fields → Fields
  | [] => [(key, v)]
  | (k, old) :: rest => if k = key then (k, v) :: rest else (k, old) :: put key v rest

/-- Whether a path with these origins may run through a table. A table written as a value is closed, and
keys with dots do not reach into a table that has its own header. -/
def isOpen (dotted : Bool) : Origin → Bool
  | .inline => false
  | .header => !dotted
  | _ => true

def within (dotted : Bool) (change : Origin → Fields → Option (Origin × Fields)) :
    List String → Origin → Fields → Option (Origin × Fields)
  | [], origin, fields => change origin fields
  | key :: path, origin, fields => do
    match lookup? key fields with
    | none =>
      let (o, inner) ← within dotted change path (if dotted then .dotted else .implied) []
      return (origin, put key (.table o inner) fields)
    | some (.table o inner) =>
      if !isOpen dotted o then none
      let (o, inner) ← within dotted change path o inner
      return (origin, put key (.table o inner) fields)
    | some (.tables items) =>
      let (o, inner) ← items.getLast?
      let last ← within dotted change path o inner
      return (origin, put key (.tables (items.dropLast ++ [last])) fields)
    | some _ => none

def insertPair (path : List String) (key : String) (v : Draft) : Origin → Fields → Option (Origin × Fields) :=
  within true (fun origin fields =>
    if decide (origin = .dotted) = path.isEmpty then none
    else if (lookup? key fields).isSome then none
    else some (origin, put key v fields)) path

def openTable (path : List String) (key : String) : Origin → Fields → Option (Origin × Fields) :=
  within false (fun origin fields =>
    match lookup? key fields with
    | none => some (origin, put key (.table .header []) fields)
    | some (.table .implied inner) => some (origin, put key (.table .header inner) fields)
    | some _ => none) path

def openItem (path : List String) (key : String) : Origin → Fields → Option (Origin × Fields) :=
  within false (fun origin fields =>
    match lookup? key fields with
    | none => some (origin, put key (.tables [(.header, [])]) fields)
    | some (.tables items) => some (origin, put key (.tables (items ++ [(.header, [])])) fields)
    | some _ => none) path

mutual

def finish : Draft → Toml
  | leaf v => v
  | array items => .array (finishItems items)
  | tables items => .array (finishTables items)
  | table _ fields => .table (finishFields fields)

def finishItems : List Draft → List Toml
  | [] => []
  | d :: rest => finish d :: finishItems rest

def finishTables : List (Origin × List (String × Draft)) → List Toml
  | [] => []
  | (_, fields) :: rest => .table (finishFields fields) :: finishTables rest

def finishFields : List (String × Draft) → List (String × Toml)
  | [] => []
  | (k, d) :: rest => (k, finish d) :: finishFields rest

end

end Draft

end Remedy.Toml
