import Remedy.Diagnostic.Basic
import Remedy.Text.Basic
import Remedy.Unicode.Lookup

/-! The line with which a compiler reports a diagnostic, in its plain form `file(line,column): severity
TScode: message` and in its pretty form `file:line:column - severity TScode: message`. -/

namespace Remedy

structure Headline where
  file : List Char
  line : List Char
  column : List Char
  severity : Severity
  code : List Char
  message : List Char
  deriving DecidableEq, Repr

namespace Headline

def isDigit (c : Char) : Bool := Unicode.digit.has c.toNat

def readDigits? (cs : List Char) : Option (List Char × List Char) :=
  if (cs.takeWhile isDigit).isEmpty then none else some (cs.takeWhile isDigit, cs.dropWhile isDigit)

def severityWords : List (String × Severity) :=
  [("error", .error), ("warning", .warning), ("message", .info), ("info", .info)]

def readSeverity? (cs : List Char) : Option (Severity × List Char) :=
  severityWords.findSome? fun (word, s) => (Text.stripStart? word.toList cs).map fun rest => (s, rest)

/-- How a form marks the places of its numbers. -/
structure Form where
  beforeLine : String
  beforeColumn : String
  afterColumn : String

def plain : Form := ⟨"(", ",", "): "⟩

def pretty : Form := ⟨":", ":", " - "⟩

def readAfterFile? (form : Form) (file cs : List Char) : Option Headline := do
  let cs ← Text.stripStart? form.beforeLine.toList cs
  let (line, cs) ← readDigits? cs
  let cs ← Text.stripStart? form.beforeColumn.toList cs
  let (column, cs) ← readDigits? cs
  let cs ← Text.stripStart? form.afterColumn.toList cs
  let (severity, cs) ← readSeverity? cs
  let cs ← Text.stripStart? " TS".toList cs
  let (code, cs) ← readDigits? cs
  let message ← Text.stripStart? ": ".toList cs
  return ⟨file, line, column, severity, code, message⟩

/-- The headline with the shortest name of a file; `file` holds the characters passed, the last first. -/
def readFrom? (form : Form) : List Char → List Char → Option Headline
  | _, [] => none
  | file, c :: cs =>
    match readAfterFile? form (c :: file).reverse cs with
    | some h => some h
    | none => readFrom? form (c :: file) cs

def read? (line : List Char) : Option Headline :=
  (readFrom? plain [] line).or (readFrom? pretty [] line)

def number? (digits : List Char) : Option UInt32 :=
  (Text.readUnsigned? UInt32.size digits).map UInt32.ofNat

def diagnostic? (h : Headline) : Option Diagnostic := do
  return {
    file := ⟨String.ofList h.file⟩
    line := ← number? h.line
    column := ← number? h.column
    code := ← number? h.code
    message := String.ofList (Text.trim h.message)
    severity := h.severity
    category := .genericError }

end Headline

end Remedy
