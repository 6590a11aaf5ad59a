import Remedy.Text.Alphanumeric
import Remedy.Text.Basic
import Remedy.Text.Ranges
import Remedy.Unicode.Category
import Remedy.Unicode.Folding
import Remedy.Unicode.Property
import Remedy.Unicode.Script

/-! Sets of characters by name, and the letters that differ from a letter in case only. -/

namespace Remedy.Unicode

open Text

/-- A name without case, spaces, hyphens and underscores, and without `is` in front. -/
def normalName (s : String) : String :=
  let cs := (s.toList.filter fun c => c ≠ ' ' && c ≠ '-' && c ≠ '_' && c.toNat < 128).map Char.toLower
  let cs := match cs with
    | 'i' :: 's' :: rest => if rest = ['c'] then cs else rest
    | _ => cs
  String.ofList cs

def lookup? (table : List (String × String)) (name : String) : Option Ranges :=
  (table.find? fun row =>
    (Text.words row.1.toList).any fun w => normalName (String.ofList w) == name).map fun row => rangesOf row.2

def unionCategories : List (String × List String) :=
  [("l", ["lu", "ll", "lt", "lm", "lo"]), ("letter", ["lu", "ll", "lt", "lm", "lo"]),
   ("lc", ["lu", "ll", "lt"]), ("casedletter", ["lu", "ll", "lt"]),
   ("m", ["mn", "mc", "me"]), ("mark", ["mn", "mc", "me"]), ("combiningmark", ["mn", "mc", "me"]),
   ("n", ["nd", "nl", "no"]), ("number", ["nd", "nl", "no"]),
   ("p", ["pc", "pd", "pe", "pf", "pi", "po", "ps"]),
   ("punctuation", ["pc", "pd", "pe", "pf", "pi", "po", "ps"]),
   ("punct", ["pc", "pd", "pe", "pf", "pi", "po", "ps"]),
   ("s", ["sc", "sk", "sm", "so"]), ("symbol", ["sc", "sk", "sm", "so"]),
   ("z", ["zs", "zl", "zp"]), ("separator", ["zs", "zl", "zp"])]

def unionOf (names : List String) : Ranges :=
  Ranges.normal (names.flatMap fun name => (lookup? generalCategories name).getD [])

def leafNames : List String := generalCategories.filterMap fun row =>
  ((Text.words row.1.toList).head?).map fun w => normalName (String.ofList w)

def assigned : Ranges := unionOf leafNames

def category? (name : String) : Option Ranges :=
  match name with
  | "any" => some [(0, Ranges.lastPoint)]
  | "ascii" => some [(0, 127)]
  | "assigned" => some assigned
  | "cn" | "unassigned" => some (Ranges.complement Ranges.lastPoint assigned)
  | "cs" | "surrogate" => some []
  | "c" | "other" =>
    some (Ranges.union (unionOf ["cc", "cf", "co"]) (Ranges.complement Ranges.lastPoint assigned))
  | _ =>
    match unionCategories.find? (·.1 == name) with
    | some (_, parts) => some (unionOf parts)
    | none => lookup? generalCategories name

def script? (name : String) : Option Ranges := lookup? scripts name

def property? (name : String) : Option Ranges :=
  match name with
  | "whitespace" | "wspace" | "space" => some blankRanges
  | _ => lookup? properties name

def named? (name : String) : Option Ranges :=
  let name := normalName name
  let property := if name = "cf" || name = "sc" || name = "lc" then none else property? name
  property <|> category? name <|> script? name

def valued? (property value : String) : Option Ranges :=
  match normalName property with
  | "gc" | "generalcategory" => category? (normalName value)
  | "sc" | "script" | "scx" | "scriptextensions" => script? (normalName value)
  | _ => none

def word : Ranges := rangesOf wordRanges

def digit : Ranges := (lookup? generalCategories "nd").getD []

def blank : Ranges := blankRanges

def numeric : Ranges := unionOf ["nd", "nl", "no"]

def caseOrbits : List (List Nat) :=
  (Text.split '/' caseGroups.toList).map fun group => numbersIn (String.ofList group)

/-- Adds to a set every letter that differs from one of it in case only. -/
def fold (rs : Ranges) : Ranges :=
  Ranges.normal (rs ++ (caseOrbits.filter fun orbit => orbit.any rs.has).flatMap fun orbit =>
    orbit.map fun n => (n, n))

def foldAscii (rs : Ranges) : Ranges :=
  let letters := (List.range 26).flatMap fun i =>
    (if rs.has (65 + i) then [(97 + i, 97 + i)] else []) ++ (if rs.has (97 + i) then [(65 + i, 65 + i)] else [])
  Ranges.normal (rs ++ letters)

end Remedy.Unicode
