import Remedy.Category
import Remedy.Grade

/-! What is known about each category: why such diagnostics arise, how hard they are, and where to read on. -/

namespace Remedy

inductive ResourceKind where
  | documentation
  | tutorial
  | reference
  | video
  deriving DecidableEq, Repr, Inhabited

namespace ResourceKind

def name : ResourceKind → String
  | documentation => "documentation"
  | tutorial => "tutorial"
  | reference => "reference"
  | video => "video"

def ofName? (s : String) : Option ResourceKind :=
  [documentation, tutorial, reference, video].find? (·.name == s)

end ResourceKind

structure Resource where
  title : String
  url : String
  kind : ResourceKind
  /-- From zero to one. -/
  relevance : Float
  deriving Repr

namespace Catalog

structure CategoryEntry where
  rootCause : String
  impact : Impact
  complexity : Complexity
  /-- Minutes a fix takes when nothing was learned yet. -/
  minutes : UInt32
  prerequisites : List String
  tips : List String
  /-- Categories whose findings tend to stand next to these. -/
  coOccursWith : List Category
  resources : List Resource
  deriving Repr

def category : Category → CategoryEntry
  | .syntaxError =>
    { rootCause := "The source text does not parse as valid TypeScript"
      impact := .critical
      complexity := .simple
      minutes := 2
      prerequisites := ["Locate the exact token the parser stopped at"]
      tips := ["Enable format-on-save so unbalanced brackets show up immediately",
       "Keep statements short enough that a missing delimiter is easy to spot"]
      coOccursWith := []
      resources := [⟨"TypeScript Handbook: The Basics",
         "https://www.typescriptlang.org/docs/handbook/2/basic-types.html", .documentation, 0.7⟩] }
  | .typeError =>
    { rootCause := "A value is used with a type that does not match what the code declares"
      impact := .high
      complexity := .moderate
      minutes := 5
      prerequisites := ["Understand the declared type of the target",
       "Inspect the inferred type of the value"]
      tips := ["Annotate function boundaries so mismatches surface where they start",
       "Prefer narrowing with type guards over type assertions"]
      coOccursWith := [.importError, .declarationError, .strictModeError, .deprecatedApi]
      resources := [⟨"TypeScript Handbook: Everyday Types",
         "https://www.typescriptlang.org/docs/handbook/2/everyday-types.html", .documentation, 0.8⟩,
        ⟨"TypeScript Handbook: Narrowing",
         "https://www.typescriptlang.org/docs/handbook/2/narrowing.html", .tutorial, 0.6⟩] }
  | .importError =>
    { rootCause := "A name or module is referenced without being imported or installed"
      impact := .high
      complexity := .simple
      minutes := 3
      prerequisites := ["Know which module exports the missing name"]
      tips := ["Let the editor add imports automatically when completing a symbol",
       "Keep path aliases in tsconfig.json in sync with the bundler"]
      coOccursWith := [.typeError, .configurationError]
      resources := [⟨"TypeScript Handbook: Modules",
         "https://www.typescriptlang.org/docs/handbook/2/modules.html", .documentation, 0.8⟩] }
  | .configurationError =>
    { rootCause := "The compiler configuration is invalid or inconsistent"
      impact := .critical
      complexity := .complex
      minutes := 15
      prerequisites := ["Open the tsconfig.json that the build actually uses",
       "Check which options are inherited through \x60extends\x60"]
      tips := ["Validate tsconfig.json against its JSON schema in the editor",
       "Keep one base tsconfig and extend it instead of copying options"]
      coOccursWith := [.importError]
      resources := [⟨"TSConfig Reference",
         "https://www.typescriptlang.org/tsconfig", .reference, 0.85⟩] }
  | .declarationError =>
    { rootCause := "An identifier is declared more than once or used before its declaration"
      impact := .high
      complexity := .moderate
      minutes := 4
      prerequisites := ["Find every declaration of the identifier in scope"]
      tips := ["Prefer \x60const\x60 and \x60let\x60 over \x60var\x60 to get block scoping",
       "Give module-level helpers distinct, descriptive names"]
      coOccursWith := [.typeError]
      resources := [⟨"TypeScript Handbook: Variable Declarations",
         "https://www.typescriptlang.org/docs/handbook/variable-declarations.html", .documentation, 0.7⟩] }
  | .strictModeError =>
    { rootCause := "Code that relies on loose typing is rejected by strict compiler checks"
      impact := .medium
      complexity := .moderate
      minutes := 8
      prerequisites := ["Know which strict flags are enabled for the project",
       "Decide whether the value can legitimately be absent"]
      tips := ["Write new code with strict mode on rather than migrating later",
       "Model optional values explicitly with union types"]
      coOccursWith := [.typeError, .unusedCode]
      resources := [⟨"TSConfig Reference: strict",
         "https://www.typescriptlang.org/tsconfig#strict", .reference, 0.8⟩,
        ⟨"TypeScript Handbook: Narrowing",
         "https://www.typescriptlang.org/docs/handbook/2/narrowing.html", .tutorial, 0.65⟩] }
  | .unusedCode =>
    { rootCause := "A declaration is never read"
      impact := .low
      complexity := .simple
      minutes := 1
      prerequisites := ["Confirm the declaration has no side effects"]
      tips := ["Run the linter's unused-variable rule before committing",
       "Remove scaffolding code as soon as the feature lands"]
      coOccursWith := [.strictModeError]
      resources := [⟨"TSConfig Reference: noUnusedLocals",
         "https://www.typescriptlang.org/tsconfig#noUnusedLocals", .reference, 0.75⟩] }
  | .deprecatedApi =>
    { rootCause := "The code calls an API that its declarations mark as deprecated"
      impact := .medium
      complexity := .moderate
      minutes := 6
      prerequisites := ["Read the deprecation notice for the suggested replacement"]
      tips := ["Review deprecation notes in changelogs when upgrading dependencies",
       "Track deprecated call sites in an issue instead of ignoring the warning"]
      coOccursWith := [.typeError]
      resources := [⟨"JSDoc Reference: @deprecated",
         "https://www.typescriptlang.org/docs/handbook/jsdoc-supported-types.html#deprecated", .reference, 0.7⟩] }
  | .genericError =>
    { rootCause := "The checker reported a problem that does not match a known pattern"
      impact := .medium
      complexity := .moderate
      minutes := 10
      prerequisites := ["Read the full diagnostic message and the code around it"]
      tips := ["Run the type checker in watch mode to catch problems as they appear",
       "Keep changes small so new diagnostics are easy to attribute"]
      coOccursWith := []
      resources := [⟨"TypeScript Handbook",
         "https://www.typescriptlang.org/docs/handbook/intro.html", .documentation, 0.5⟩,
        ⟨"TypeScript Deep Dive",
         "https://basarat.gitbook.io/typescript/", .tutorial, 0.4⟩] }

def coOccurs (a b : Category) : Bool :=
  a = b || (category a).coOccursWith.contains b || (category b).coOccursWith.contains a

end Catalog

end Remedy
