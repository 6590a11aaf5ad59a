import Remedy.Autonomy
import Remedy.Fix.State
import Remedy.Path
import Remedy.Severity
import Remedy.Signature

/-! Everything that can go wrong, by cause, with the words people see. -/

namespace Remedy

inductive DiagnosticFlaw where
  | emptyFile
  | zeroLine
  | zeroColumn
  | emptyMessage
  /-- Unused code reported as something else than a warning. -/
  | unusedNotWarning (severity : Severity)
  | unknownSeverity (word : String)
  deriving DecidableEq, Repr

namespace DiagnosticFlaw

def field : DiagnosticFlaw → String
  | emptyFile => "file"
  | zeroLine => "line"
  | zeroColumn => "column"
  | emptyMessage => "message"
  | unusedNotWarning _ => "severity"
  | unknownSeverity _ => "severity"

def reason : DiagnosticFlaw → String
  | emptyFile => "path must not be empty"
  | zeroLine => "must be a positive 1-based line number"
  | zeroColumn => "must be a positive 1-based column number"
  | emptyMessage => "must not be empty"
  | unusedNotWarning severity => "UNUSED_CODE diagnostics must be warnings, got " ++ severity.name
  | unknownSeverity word => "unknown severity: " ++ word

end DiagnosticFlaw

inductive ResolutionFlaw where
  | emptySolution
  | zeroTime
  | otherCode (resolution diagnostic : UInt32)
  | unknownFeedback (word : String)
  deriving DecidableEq, Repr

def codeText (code : UInt32) : String := "TS" ++ Text.natText code.toNat

def ResolutionFlaw.reason : ResolutionFlaw → String
  | emptySolution => "solution must not be empty"
  | zeroTime => "time to resolve must be a positive number of minutes"
  | otherCode resolution diagnostic =>
    "resolution is for " ++ codeText resolution ++ " but the diagnostic is " ++ codeText diagnostic
  | unknownFeedback word => "unknown feedback: " ++ word

inductive FixFlaw where
  | emptyDescription
  /-- The confidence a fix was to be built with. -/
  | confidenceGiven (shown : String)
  | confidenceRange
  | noPostCondition
  | lowConfidence
  | noRollback
  | untestedManual
  | untestedPreConditions
  deriving DecidableEq, Repr

def FixFlaw.reason : FixFlaw → String
  | emptyDescription => "description must not be empty"
  | confidenceGiven shown => "confidence " ++ shown ++ " is outside 0.0..=1.0"
  | confidenceRange => "confidence must be within 0.0..=1.0"
  | noPostCondition => "at least one post-condition is required"
  | lowConfidence => "automatic fixes need confidence >= 0.7"
  | noRollback => "automatic fixes must be rollback-capable"
  | untestedManual => "manual fixes must require testing"
  | untestedPreConditions => "fixes with many pre-conditions must require testing"

inductive RuleFlaw where
  | emptyId
  | emptyDescription
  | confidenceOutside (shown : String)
  | noPostCondition
  | matchesAnything
  | uncheckableCondition
  | importWithoutPattern
  | duplicateId
  | badPattern (detail : String)
  | unknownFixType (word : String)
  deriving DecidableEq, Repr

def RuleFlaw.reason : RuleFlaw → String
  | emptyId => "id must not be empty"
  | emptyDescription => "description must not be empty"
  | confidenceOutside shown => "confidence " ++ shown ++ " is outside 0.0..=1.0"
  | noPostCondition => "at least one post-condition is required"
  | matchesAnything => "a rule must name codes, a category, or a message pattern"
  | uncheckableCondition => "automatic rules may only use conditions that can be checked"
  | importWithoutPattern => "insert-import edits need a message pattern capturing the symbol"
  | duplicateId => "duplicate rule id"
  | badPattern detail => "invalid message pattern: " ++ detail
  | unknownFixType word => "unknown fix type: " ++ word

inductive FailureKind where
  | validation
  | conflict
  | notFound
  | configuration
  | internal
  deriving DecidableEq, Repr

inductive DomainError where
  | invalidDiagnostic (flaw : DiagnosticFlaw)
  | invalidResolution (flaw : ResolutionFlaw)
  | invalidFix (id : String) (flaw : FixFlaw)
  | invalidRule (id : String) (flaw : RuleFlaw)
  | unknownCategory (word : String)
  | invalidSignature (text : String)
  | spanOutOfBounds (start stop length : Nat)
  | spanNotOnBoundary (start stop : Nat)
  | overlappingSpans (offset : Nat)
  | illegalTransition (source target : FixState)
  deriving DecidableEq, Repr

namespace DomainError

def spanText (start stop : Nat) : String := Text.natText start ++ ".." ++ Text.natText stop

def message : DomainError → String
  | invalidDiagnostic flaw => "Invalid diagnostic (" ++ flaw.field ++ "): " ++ flaw.reason
  | invalidResolution flaw => "Invalid resolution: " ++ flaw.reason
  | invalidFix id flaw => "Invalid fix '" ++ id ++ "': " ++ flaw.reason
  | invalidRule id flaw => "Invalid rule '" ++ id ++ "': " ++ flaw.reason
  | unknownCategory word => "Unknown error category: " ++ word
  | invalidSignature text => "Invalid signature '" ++ text ++ "': expected TS<code>:<CATEGORY>"
  | spanOutOfBounds start stop length =>
    "Edit span " ++ spanText start stop ++ " is outside the buffer (length " ++ Text.natText length ++ ")"
  | spanNotOnBoundary start stop =>
    "Edit span " ++ spanText start stop ++ " does not fall on a character boundary"
  | overlappingSpans offset => "Edit spans overlap at offset " ++ Text.natText offset
  | illegalTransition source target =>
    "Illegal fix state transition: " ++ source.text ++ " -> " ++ target.text

def suggestions : DomainError → List String
  | invalidDiagnostic flaw =>
    ["The diagnostic field '" ++ flaw.field ++ "' is invalid: " ++ flaw.reason,
     "Lines and columns are 1-based; messages must not be empty",
     "Check the output of the tool that produced the diagnostics"]
  | invalidResolution flaw =>
    ["Resolution rejected: " ++ flaw.reason,
     "Provide a non-empty solution and a positive time to resolve"]
  | invalidRule id flaw =>
    ["Rule '" ++ id ++ "' could not be loaded: " ++ flaw.reason,
     "Confidence must be within 0.0..=1.0",
     "Every rule needs at least one post-condition"]
  | unknownCategory word =>
    ["'" ++ word ++ "' is not a known category",
     "Known categories: SYNTAX_ERROR, TYPE_ERROR, IMPORT_ERROR, CONFIGURATION_ERROR,",
     "  DECLARATION_ERROR, STRICT_MODE_ERROR, UNUSED_CODE, DEPRECATED_API, GENERIC_ERROR"]
  | invalidSignature _ =>
    ["Signatures look like TS2304:IMPORT_ERROR", "Try: mend kb list"]
  | spanOutOfBounds .. | spanNotOnBoundary .. | overlappingSpans _ =>
    ["The file changed since the fix was suggested",
     "Re-run the checker and request fresh suggestions"]
  | invalidFix .. | illegalTransition .. => ["See documentation for more details"]

def kind : DomainError → FailureKind
  | invalidDiagnostic _ | invalidResolution _ | invalidRule .. | unknownCategory _
  | invalidSignature _ => .validation
  | spanOutOfBounds .. | spanNotOnBoundary .. | overlappingSpans _ => .conflict
  | invalidFix .. | illegalTransition .. => .internal

end DomainError

inductive ServiceError where
  | knowledgeStore (reason : String)
  /-- Someone else advanced the entry since it was read. -/
  | storeConflict (signature : Signature)
  | sourceIo (path : Path) (reason : String)
  | fixNotAutomatic (id : String) (autonomy : Autonomy)
  | rollbackUnavailable (id : String)
  | rollbackFailed (path : Path) (reason : String)
  | persistence (path : Path) (reason : String)
  | adapterMissing (name : String)
  | validationFailed (reason : String)
  deriving DecidableEq, Repr

namespace ServiceError

def message : ServiceError → String
  | knowledgeStore reason => "Knowledge store error: " ++ reason
  | storeConflict signature => "Knowledge entry " ++ signature.text ++ " changed since it was read"
  | sourceIo path reason => "Source I/O error at " ++ path.text ++ ": " ++ reason
  | fixNotAutomatic id autonomy =>
    "Fix '" ++ id ++ "' is " ++ autonomy.name ++ ", only automatic fixes can be applied"
  | rollbackUnavailable id => "Automatic fix '" ++ id ++ "' declares no rollback capability"
  | rollbackFailed path reason => "Rollback failed for " ++ path.text ++ ": " ++ reason
  | persistence path reason => "Persistence error at " ++ path.text ++ ": " ++ reason
  | adapterMissing name => "Required adapter not configured: " ++ name
  | validationFailed reason => "Validation failed: " ++ reason

def suggestions : ServiceError → List String
  | knowledgeStore _ | persistence .. =>
    ["Check that the knowledge-base file is readable and writable",
     "Try: mend config get knowledge.path"]
  | storeConflict _ =>
    ["Another mend process updated the knowledge base at the same time", "Run the command again"]
  | sourceIo path _ =>
    ["Failed to access: " ++ path.text, "Check that the file exists and you have write permissions"]
  | fixNotAutomatic .. =>
    ["Apply this fix by hand, then record the outcome with \x60mend learn\x60",
     "Try: mend suggest <INPUT> to see which fixes are automatic"]
  | rollbackUnavailable _ => ["Rebuild the fix through the rule book so its type is enforced"]
  | rollbackFailed path _ =>
    [path.text ++ " may contain a partial edit", "Restore the file from version control"]
  | adapterMissing name =>
    ["Required component not configured: " ++ name, "This is likely a configuration error"]
  | validationFailed _ => ["Check the error details above"]

def kind : ServiceError → FailureKind
  | knowledgeStore _ | persistence .. | rollbackFailed .. | rollbackUnavailable _ => .internal
  | storeConflict _ => .conflict
  | sourceIo .. => .notFound
  | fixNotAutomatic .. | validationFailed _ => .validation
  | adapterMissing _ => .configuration

end ServiceError

/-- Arithmetic that leaves the range of its words. The program ends there and then. -/
inductive Panic where
  | addition
  | subtraction
  deriving DecidableEq, Repr

def Panic.message : Panic → String
  | addition => "attempt to add with overflow"
  | subtraction => "attempt to subtract with overflow"

inductive Failure where
  | domain (e : DomainError)
  | service (e : ServiceError)
  | configuration (message : String)
  | internal (message : String)
  | panicked (p : Panic)
  deriving DecidableEq, Repr

namespace Failure

def message : Failure → String
  | domain e => "Domain error: " ++ e.message
  | service e => "Application error: " ++ e.message
  | configuration m => "Configuration error: " ++ m
  | internal m => "Internal error: " ++ m ++ ". This is a bug, please report it."
  | panicked p => p.message

def suggestions : Failure → List String
  | domain e => e.suggestions
  | service e => e.suggestions
  | configuration m => ["Configuration issue: " ++ m, "Check your setup and try again"]
  | internal _ =>
    ["This appears to be a bug in Mend",
     "Please report it together with the input that triggered it"]
  | panicked _ => []

def kind : Failure → FailureKind
  | domain e => e.kind
  | service e => e.kind
  | configuration _ => .configuration
  | internal _ | panicked _ => .internal

def isRetryable : Failure → Bool
  | service (.storeConflict _) | service (.knowledgeStore _) => true
  | _ => false

end Failure

end Remedy
