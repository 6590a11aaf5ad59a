import Remedy.Catalog.Code
import Remedy.Diagnostic.Basic

/-! The category of a diagnostic: from its code, else from the checker, else from the range of the code,
else from words in the message. -/

namespace Remedy.Diagnostic

def categoryOfRange? (code : UInt32) : Option Category :=
  if 1000 ≤ code ∧ code ≤ 1999 then some .syntaxError
  else if 5000 ≤ code ∧ code ≤ 5999 then some .configurationError
  else if code = 6133 ∨ code = 6196 ∨ code = 6198 then some .unusedCode
  else none

/-- Words that tell the category, the first that occurs deciding. -/
def messageHints : List (String × Category) :=
  [("Cannot find module", .importError),
   ("has no exported member", .importError),
   ("is deprecated", .deprecatedApi),
   ("implicitly has", .strictModeError),
   ("is possibly 'null'", .strictModeError),
   ("is possibly 'undefined'", .strictModeError),
   ("is declared but", .unusedCode),
   ("Duplicate identifier", .declarationError),
   ("is not assignable to", .typeError)]

def categoryOfMessage? (message : String) : Option Category :=
  (messageHints.find? fun hint => Text.contains message hint.1).map Prod.snd

def apparentCategory (d : Diagnostic) : Category :=
  match Catalog.code? d.code with
  | some entry => entry.category
  | none =>
    if !d.category.isGeneric then d.category
    else
      match categoryOfRange? d.code with
      | some c => c
      | none => (categoryOfMessage? d.message).getD .genericError

/-- Unused code that is no mere warning exists only under strict checks. -/
def classify (d : Diagnostic) : Category :=
  let c := d.apparentCategory
  if c = .unusedCode ∧ d.severity ≠ .warning then .strictModeError else c

def normalize (d : Diagnostic) : Diagnostic := { d with category := d.classify }

end Remedy.Diagnostic
