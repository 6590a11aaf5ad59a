import Remedy.Error

/-! What a checker reports about one place in one file. -/

namespace Remedy

structure Diagnostic where
  file : Path
  line : UInt32
  column : UInt32
  message : String
  code : UInt32
  severity : Severity
  category : Category
  deriving DecidableEq, Repr, Inhabited

namespace Diagnostic

def signature (d : Diagnostic) : Signature := ⟨d.code, d.category⟩

def location (d : Diagnostic) : String :=
  d.file.text ++ ":" ++ Text.natText d.line.toNat ++ ":" ++ Text.natText d.column.toNat

def text (d : Diagnostic) : String :=
  d.location ++ " " ++ d.severity.name ++ " " ++ codeText d.code ++ ": " ++ d.message

def flaw? (d : Diagnostic) : Option DiagnosticFlaw :=
  if d.file.isEmpty then some .emptyFile
  else if d.line = 0 then some .zeroLine
  else if d.column = 0 then some .zeroColumn
  else if Text.isAllBlank d.message then some .emptyMessage
  else if d.category = .unusedCode ∧ d.severity ≠ .warning then some (.unusedNotWarning d.severity)
  else none

def validate (d : Diagnostic) : Except DomainError Unit :=
  match d.flaw? with
  | some flaw => .error (.invalidDiagnostic flaw)
  | none => .ok ()

/-- Equality of findings; their files are compared by components. -/
def same (a b : Diagnostic) : Bool :=
  a.file.same b.file && a.line == b.line && a.column == b.column && a.message == b.message &&
    a.code == b.code && a.severity == b.severity && a.category == b.category

end Diagnostic

end Remedy
