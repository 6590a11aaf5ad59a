import Remedy.Rule.Book

/-! The rules that come with the program. -/

namespace Remedy

namespace Rule

variable {α : Type} [Scalar α]

def advice (id : String) (codes : List UInt32) (description : String) (autonomy : Autonomy)
    (confidence : α) : Rule α where
  id := id
  codes := codes
  category? := none
  messagePattern? := none
  description := description
  autonomy := autonomy
  confidence := confidence
  edit := .none
  preConditions := []
  postConditions := ["diagnostic no longer reported"]
  sideEffects := []
  rollbackPossible := false

def onMessage (r : Rule α) (pattern : String) : Rule α := { r with messagePattern? := some pattern }

def editing (r : Rule α) (edit : RuleEdit) (pre post effects : List String) : Rule α :=
  { r with
    edit := edit
    preConditions := pre
    postConditions := post
    sideEffects := effects
    rollbackPossible := true }

end Rule

namespace Catalog

variable {α : Type} [Scalar α]

open Rule (advice)

def unusedCodes : List UInt32 := [6133, 6192, 6196, 6198]

def nullishCodes : List UInt32 := [2531, 2532, 2533, 18047, 18048]

/-- The rules in order of priority. -/
def rules : List (Rule α) :=
  [(advice "add-missing-import" [2304]
      "Add an import for '$\x7b1\x7d'" .automatic 0.8)
      |>.onMessage "Cannot find name '([^']+)'"
      |>.editing .insertImport
        ["edits within file bounds", "import not already present"]
        ["import statement present"]
        ["adds a module dependency to the file"],
   advice "import-or-declare" [2304]
      "Import the missing identifier from its module or declare it locally" .semiAutomatic 0.7,
   (advice "use-suggested-name" [2304, 2552, 2724]
      "Replace the identifier with the suggested '$\x7b1\x7d'" .semiAutomatic 0.6)
      |>.onMessage "Did you mean '([^']+)'",
   (advice "correct-module-path" [2307]
      "Check that '$\x7b1\x7d' is installed and that the import path is correct" .semiAutomatic 0.75)
      |>.onMessage "Cannot find module '([^']+)'",
   advice "install-type-declarations" [2307, 7016]
      "Install the package's type declarations (e.g. @types/<package>) or add a module declaration" .manual 0.5,
   advice "import-exported-member" [2305]
      "Import a member the module actually exports" .semiAutomatic 0.7,
   (advice "convert-value" [2322]
      "Convert the '$\x7b1\x7d' value to '$\x7b2\x7d'" .semiAutomatic 0.75)
      |>.onMessage "Type '([^']+)' is not assignable to type '([^']+)'",
   advice "align-declared-type" [2322]
      "Change the value or widen the declared type so they agree" .semiAutomatic 0.7,
   (advice "declare-property" [2339]
      "Declare '$\x7b1\x7d' on '$\x7b2\x7d' or check the property name for typos" .semiAutomatic 0.65)
      |>.onMessage "Property '([^']+)' does not exist on type '([^']+)'",
   advice "pass-matching-argument" [2345]
      "Pass an argument that matches the parameter type" .semiAutomatic 0.75,
   advice "assert-argument-type" [2345]
      "Add a type assertion if the argument is known to be compatible" .semiAutomatic 0.5,
   advice "adjust-argument-count" [2554]
      "Adjust the call to pass the number of arguments the function expects" .semiAutomatic 0.8,
   advice "add-null-check" nullishCodes
      "Guard the value with a null check before using it" .semiAutomatic 0.9,
   (advice "non-null-assertion" nullishCodes
      "Add a non-null assertion (\x60!\x60) if the value can never be absent here" .semiAutomatic 0.6)
      |>.editing (.insertAfterToken "!")
        ["target position exists"]
        ["inserted text present"]
        ["suppresses the null check at runtime"],
   (advice "annotate-parameter" [7006, 7031]
      "Add an explicit type annotation to the parameter" .semiAutomatic 0.7)
      |>.editing (.insertAfterToken ": unknown")
        ["target position exists"]
        ["inserted text present"]
        [],
   (advice "remove-unused-declaration" unusedCodes
      "Remove the unused declaration" .automatic 0.85)
      |>.editing .deleteLine
        ["target position exists"]
        ["line count decreased"]
        ["removes the whole line containing the declaration"],
   (advice "prefix-underscore" [6133]
      "Prefix the name with \x60_\x60 to mark it as intentionally unused" .semiAutomatic 0.6)
      |>.editing (.insertAtPosition "_")
        ["target position exists"]
        ["inserted text present"]
        [],
   (advice "insert-expected-token" [1005]
      "Insert the missing '$\x7b1\x7d'" .automatic 0.75)
      |>.onMessage "'(.\x7b1,3\x7d)' expected"
      |>.editing (.insertAtPosition "$\x7b1\x7d")
        ["target position exists"]
        ["inserted text present"]
        [],
   advice "review-syntax" [1005, 1109, 1128, 1161]
      "Review the surrounding syntax for a missing or extra token" .manual 0.5,
   advice "rename-duplicate" [2300, 2451]
      "Rename or remove the duplicate declaration" .manual 0.6,
   advice "move-declaration" [2448]
      "Move the declaration above its first use" .semiAutomatic 0.65,
   advice "replace-deprecated" [6385, 6387]
      "Replace the deprecated API with its documented successor" .semiAutomatic 0.65,
   advice "fix-compiler-options" [5023, 5024, 5083, 18003]
      "Correct the compiler options in tsconfig.json" .manual 0.6]

def book : Except DomainError (RuleBook α) := RuleBook.ofRules rules

end Catalog

end Remedy
