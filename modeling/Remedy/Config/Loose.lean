import Remedy.Decimal.Binary
import Remedy.Decimal.Layout
import Remedy.Toml.Basic

/-! Settings taken loosely: where one kind of value is wanted, another is converted if it has a plain sense
there. A text may stand for a truth value or a number, and a number for a text. -/

namespace Remedy.Loose

def float? (s : String) : Option Float :=
  let (negative, body) := match s.toList with
    | '-' :: cs => (true, cs)
    | '+' :: cs => (false, cs)
    | cs => (false, cs)
  match String.ofList (body.map Char.toLower) with
  | "inf" | "infinity" => some (Decimal.signed negative Decimal.infinite)
  | "nan" => some (Decimal.signed negative Decimal.undefined)
  | _ =>
    let whole := body.takeWhile Char.isDigit
    let rest := body.dropWhile Char.isDigit
    let (fraction, rest) := match rest with
      | '.' :: cs => (cs.takeWhile Char.isDigit, cs.dropWhile Char.isDigit)
      | cs => ([], cs)
    if whole.isEmpty && fraction.isEmpty then none
    else
      let value (e : Int) : Float := Decimal.signed negative (Decimal.numeral whole fraction e)
      match rest with
      | [] => some (value 0)
      | c :: cs =>
        if c = 'e' || c = 'E' then
          match cs with
          | '-' :: ds => (Text.readNat? ds).map fun n => value (-(n : Int))
          | '+' :: ds => (Text.readNat? ds).map fun n => value n
          | ds => (Text.readNat? ds).map fun n => value n
        else none

def int? (s : String) : Option Int :=
  let bounded (n : Int) : Option Int := if -0x8000000000000000 ≤ n ∧ n < 0x8000000000000000 then some n else none
  match s.toList with
  | '-' :: ds => (Text.readNat? ds).bind fun n => bounded (-(n : Int))
  | '+' :: ds => (Text.readNat? ds).bind fun n => bounded n
  | ds => (Text.readNat? ds).bind fun n => bounded n

/-- The value a text stands for where nothing says what is wanted. -/
def guess (s : String) : Toml :=
  match Text.lower s with
  | "true" => .bool true
  | "false" => .bool false
  | _ =>
    match int? s with
    | some n => .int n
    | none =>
      match float? s with
      | some x => .real x
      | none => .str s

def switch? (s : String) : Option Bool :=
  match Text.lower s with
  | "true" | "on" | "yes" => some true
  | "false" | "off" | "no" => some false
  | _ => none

def asBool? : Toml.Decoder Bool
  | .bool b => some b
  | .int n => some (n != 0)
  | .real x => some (x != 0.0)
  | .str s | .moment s =>
    match s with
    | "1" => some true
    | "0" => some false
    | _ => switch? s
  | _ => none

/-- A count; of a fraction the nearest whole number, and of too large a one the last 32 bits. -/
def asUInt32? : Toml.Decoder UInt32
  | .bool b => some (if b then 1 else 0)
  | .int n => if 0 ≤ n then some (UInt32.ofNat n.toNat) else none
  | .real x => some x.round.toUInt64.toUInt32
  | .str s | .moment s =>
    match switch? s with
    | some b => some (if b then 1 else 0)
    | none => (Text.readUnsigned? UInt64.size s.toList).map UInt32.ofNat
  | _ => none

def asFloat? : Toml.Decoder Float
  | .bool b => some (if b then 1.0 else 0.0)
  | .int n => some (Float.ofInt n)
  | .real x => some x
  | .str s | .moment s =>
    match switch? s with
    | some b => some (if b then 1.0 else 0.0)
    | none => float? s
  | _ => none

def asText? : Toml.Decoder String
  | .bool b => some (if b then "true" else "false")
  | .int n => some (toString n)
  | .real x => some (Decimal.message.text x)
  | .str s | .moment s => some s
  | _ => none

/-- The fields of a record by name, or in order; what is left over does not count. -/
def fields? (names : List String) : Toml → Option (List (String × Toml))
  | .table fields => some fields
  | .array items => some (names.zip items)
  | _ => none

def field {α : Type} (fields : List (String × Toml)) (name : String) (absent : α) (value : Toml.Decoder α) :
    Option α :=
  match fields.find? (·.1 == name) with
  | some (_, v) => value v
  | none => some absent

end Remedy.Loose
