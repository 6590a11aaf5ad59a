import Remedy.Json.Printer

/-! What a command shows: lines of a few kinds, in colours, plain, or left out. -/

namespace Remedy

inductive Line where
  | text (s : String)
  | header (s : String)
  /-- Indented under the line before. -/
  | detail (s : String)
  | success (s : String)
  | failure (s : String)
  | warning (s : String)
  | info (s : String)
  /-- A result as one document. -/
  | document (j : Json)

structure Style where
  quiet : Bool
  coloured : Bool
  /-- Results are documents instead of lines. -/
  json : Bool
  deriving DecidableEq, Repr

namespace Line

def escape (code : String) : String := "\x1b[" ++ code ++ "m"

def coloured (code s : String) : String := escape code ++ s ++ escape "39"

def bold (s : String) : String := escape "1" ++ s ++ escape "0"

def dimmed (s : String) : String := escape "2" ++ s ++ escape "0"

def marked (style : Style) (colour sign s : String) : String :=
  if style.coloured then bold (coloured colour sign) ++ " " ++ coloured colour s else sign ++ " " ++ s

/-- Failures and documents are never left out. -/
def isKept (style : Style) : Line → Bool
  | failure _ | document _ => true
  | _ => !style.quiet

def shown (style : Style) : Line → String
  | text s => s
  | header s => if style.coloured then bold (coloured "36" s) else s
  | detail s => "    " ++ (if style.coloured then dimmed s else s)
  | success s => marked style "32" "✓" s
  | failure s => marked style "31" "✗" s
  | warning s => marked style "33" "⚠" s
  | info s => marked style "34" "ℹ" s
  | document j => j.pretty

def print (style : Style) (l : Line) : String := if l.isKept style then l.shown style ++ "\n" else ""

def printAll (style : Style) (ls : List Line) : String := String.join (ls.map (print style))

end Line

end Remedy
