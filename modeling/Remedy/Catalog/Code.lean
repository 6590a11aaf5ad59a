
import Remedy.Category
import Remedy.Text.Basic

/-! What is known by itself: the category of a diagnostic code, and the module of a name that is clear enough to import
unasked. -/

namespace Remedy.Catalog

structure CodeEntry where
  code : UInt32
  category : Category
  /-- A root cause more exact than that of the category. -/
  rootCause? : Option String
  deriving DecidableEq, Repr

def codes : List CodeEntry :=
  [⟨1005, .syntaxError, some "A required token is missing"⟩,
   ⟨1109, .syntaxError, none⟩,
   ⟨1128, .syntaxError, none⟩,
   ⟨1161, .syntaxError, none⟩,
   ⟨2304, .importError, some "An identifier is used without being imported or declared"⟩,
   ⟨2305, .importError, some "The imported module does not export the requested member"⟩,
   ⟨2307, .importError, some "The module cannot be resolved from the import path"⟩,
   ⟨2552, .importError, none⟩,
   ⟨2724, .importError, none⟩,
   ⟨7016, .importError, none⟩,
   ⟨2322, .typeError, some "A value is assigned to a target whose declared type does not accept it"⟩,
   ⟨2339, .typeError, some "A property is accessed that the type does not declare"⟩,
   ⟨2345, .typeError, some "An argument does not match the parameter type of the called function"⟩,
   ⟨2554, .typeError, some "A function is called with the wrong number of arguments"⟩,
   ⟨2531, .strictModeError, some "A value that may be null is used without a null check"⟩,
   ⟨2532, .strictModeError, some "A value that may be undefined is used without a check"⟩,
   ⟨2533, .strictModeError, none⟩,
   ⟨18047, .strictModeError, none⟩,
   ⟨18048, .strictModeError, none⟩,
   ⟨7006, .strictModeError,
     some "A parameter has no type annotation and implicitly has type \x60any\x60"⟩,
   ⟨7031, .strictModeError, none⟩,
   ⟨2300, .declarationError, none⟩,
   ⟨2451, .declarationError, none⟩,
   ⟨2448, .declarationError, some "A block-scoped variable is used before its declaration"⟩,
   ⟨6133, .unusedCode, none⟩,
   ⟨6192, .unusedCode, none⟩,
   ⟨6196, .unusedCode, none⟩,
   ⟨6198, .unusedCode, none⟩,
   ⟨6385, .deprecatedApi, none⟩,
   ⟨6387, .deprecatedApi, none⟩,
   ⟨5023, .configurationError, none⟩,
   ⟨5024, .configurationError, none⟩,
   ⟨5083, .configurationError, none⟩,
   ⟨18003, .configurationError,
     some "The configuration's include/files patterns match no input files"⟩]

def code? (code : UInt32) : Option CodeEntry := codes.find? (·.code == code)

def codeUrl (code : UInt32) : String :=
  "https://typescript.tv/errors/#ts" ++ Text.natText code.toNat

def exports : List (String × String) :=
  [("useState", "react"),
   ("useEffect", "react"),
   ("useMemo", "react"),
   ("useCallback", "react"),
   ("useRef", "react"),
   ("useContext", "react"),
   ("useReducer", "react"),
   ("createContext", "react"),
   ("Fragment", "react"),
   ("useRouter", "next/router"),
   ("readFile", "node:fs/promises"),
   ("writeFile", "node:fs/promises"),
   ("readFileSync", "node:fs"),
   ("existsSync", "node:fs"),
   ("EventEmitter", "node:events"),
   ("promisify", "node:util"),
   ("fileURLToPath", "node:url"),
   ("ref", "vue"),
   ("computed", "vue"),
   ("Injectable", "@angular/core"),
   ("Component", "@angular/core"),
   ("Observable", "rxjs"),
   ("z", "zod")]

def moduleFor? (symbol : String) : Option String :=
  (exports.find? (·.1 == symbol)).map Prod.snd

def importLine (symbol module : String) : String :=
  "import \x7b " ++ symbol ++ " \x7d from '" ++ module ++ "';\n"

end Remedy.Catalog
