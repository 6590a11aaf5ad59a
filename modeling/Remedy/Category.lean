import Remedy.Text.Basic

/-! The closed list of categories a diagnostic can fall into. -/

namespace Remedy

inductive Category where
  | syntaxError
  | typeError
  | importError
  | configurationError
  | declarationError
  | strictModeError
  | unusedCode
  | deprecatedApi
  | genericError
  deriving DecidableEq, Repr, Inhabited

namespace Category

def all : List Category :=
  [syntaxError, typeError, importError, configurationError, declarationError, strictModeError,
   unusedCode, deprecatedApi, genericError]

def name : Category → String
  | syntaxError => "SYNTAX_ERROR"
  | typeError => "TYPE_ERROR"
  | importError => "IMPORT_ERROR"
  | configurationError => "CONFIGURATION_ERROR"
  | declarationError => "DECLARATION_ERROR"
  | strictModeError => "STRICT_MODE_ERROR"
  | unusedCode => "UNUSED_CODE"
  | deprecatedApi => "DEPRECATED_API"
  | genericError => "GENERIC_ERROR"

def label : Category → String
  | syntaxError => "syntax"
  | typeError => "type"
  | importError => "import"
  | configurationError => "configuration"
  | declarationError => "declaration"
  | strictModeError => "strict mode"
  | unusedCode => "unused code"
  | deprecatedApi => "deprecated API"
  | genericError => "generic"

def isGeneric (c : Category) : Bool := c = genericError

def rank : Category → Nat
  | syntaxError => 0
  | typeError => 1
  | importError => 2
  | configurationError => 3
  | declarationError => 4
  | strictModeError => 5
  | unusedCode => 6
  | deprecatedApi => 7
  | genericError => 8

def ofName? (s : String) : Option Category := all.find? (·.name == s)

def aliases : Category → List String
  | syntaxError => ["syntax"]
  | typeError => ["type"]
  | importError => ["import"]
  | configurationError => ["configuration", "config"]
  | declarationError => ["declaration"]
  | strictModeError => ["strict_mode", "strict"]
  | unusedCode => ["unused"]
  | deprecatedApi => ["deprecated"]
  | genericError => ["generic"]

/-- The canonical spelling or a short name, in either case, with hyphens or underscores. -/
def ofText? (s : String) : Option Category :=
  let key := Text.swapChar '-' '_' (Text.lower (Text.trimmed s))
  all.find? fun c => key == Text.lower c.name || c.aliases.contains key

end Category

end Remedy
