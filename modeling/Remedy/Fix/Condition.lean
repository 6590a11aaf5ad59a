import Remedy.Diagnostic.Basic
import Remedy.Edit.Buffer
import Remedy.Fix.Basic
import Remedy.Fix.Bracket
import Remedy.Text.Escaped

/-! Conditions that can be checked by machine before and after an edit. A fix names them as phrases; a
phrase that is not known never holds. -/

namespace Remedy

inductive Condition where
  | editsWithinBounds
  | targetPositionExists
  | importAbsent
  | importPresent
  | insertedTextPresent
  | lineCountDecreased
  | bufferChanged
  | balancedDelimiters
  deriving DecidableEq, Repr

namespace Condition

def all : List Condition :=
  [editsWithinBounds, targetPositionExists, importAbsent, importPresent, insertedTextPresent,
   lineCountDecreased, bufferChanged, balancedDelimiters]

def phrase : Condition → String
  | editsWithinBounds => "edits within file bounds"
  | targetPositionExists => "target position exists"
  | importAbsent => "import not already present"
  | importPresent => "import statement present"
  | insertedTextPresent => "inserted text present"
  | lineCountDecreased => "line count decreased"
  | bufferChanged => "buffer changed"
  | balancedDelimiters => "balanced delimiters"

def ofPhrase? (s : String) : Option Condition :=
  let key := Text.join " " ((Text.words s.toList).map String.ofList)
  all.find? fun c => Text.equalIgnoringCase c.phrase key

inductive Reason where
  | misfit (e : DomainError)
  | pastEnd (location : String)
  | insertsNoImport
  | importThere (line : String)
  | importMissing (line : String)
  | textMissing (text : String) (offset : Int)
  | lineCount (before after : Nat)
  | unchanged
  | bracket (fault : Bracket.Fault)
  /-- The edited text is not there yet. -/
  | tooEarly
  | unknownPhrase
  deriving DecidableEq, Repr

def Reason.text : Reason → String
  | misfit e => e.message
  | pastEnd location => location ++ " is past the end of the file"
  | insertsNoImport => "the fix inserts no import"
  | importThere line => "\x60" ++ line ++ "\x60 is already present"
  | importMissing line => "\x60" ++ line ++ "\x60 is missing after the edit"
  | textMissing text offset =>
    "'" ++ Text.escaped text ++ "' not found at offset " ++ toString offset
  | lineCount before after =>
    "line count went from " ++ Text.natText before ++ " to " ++ Text.natText after
  | unchanged => "the text is unchanged"
  | bracket (.unmatched c) => "unmatched '" ++ c.toString ++ "'"
  | bracket (.unclosed c) => "unclosed '" ++ c.toString ++ "'"
  | tooEarly => "can only be checked after the edit"
  | unknownPhrase => "cannot verify condition automatically"

structure Context where
  diagnostic : Diagnostic
  changes : List Change
  before : Buffer
  after? : Option Buffer

def importLines (changes : List Change) : List (List Char) :=
  (changes.map fun c => Text.trim c.newText.toList).filter fun line => "import ".toList.isPrefixOf line

def standsAt (cs : List Char) (start stop : Int) (text : String) : Bool :=
  0 ≤ start && start ≤ stop && Text.isBoundary cs start.toNat && Text.isBoundary cs stop.toNat &&
    Text.sliceBytes start.toNat stop.toNat cs == text.toList

/-- A signed offset, which has 64 bits. -/
def offset (beyond : Panic) (n : Int) : Except Panic Int :=
  if Int64.minValue.toInt ≤ n ∧ n ≤ Int64.maxValue.toInt then .ok n else .error beyond

/-- Looks for each new text of sorted changes where the changes before it have moved it. -/
def missingFrom? (cs : List Char) : Int → List Change → Except Panic (Option Reason)
  | _, [] => .ok none
  | shift, c :: rest => do
    let size := Text.byteLength c.newText.toList
    let start ← offset .addition (c.span.start.toInt64.toInt + shift)
    let stop ← offset .addition (start + size)
    if standsAt cs start stop c.newText then
      let grown ← offset .subtraction (size - c.span.length.toInt64.toInt)
      missingFrom? cs (← offset .addition (shift + grown)) rest
    else return some (.textMissing c.newText start)

def require (holds : Bool) (reason : Reason) : Option Reason := if holds then none else some reason

def importReason? (changes : List Change) (wanted : List Char → Bool) (reason : String → Reason) :
    Option Reason :=
  let lines := importLines changes
  if lines.isEmpty then some .insertsNoImport
  else (lines.find? fun line => !wanted line).map fun line => reason (String.ofList line)

/-- What a check of the edited text says, once there is one. -/
def Context.edited (ctx : Context) (check : Buffer → Except Panic (Option Reason)) : Except Panic (Option Reason) :=
  match ctx.after? with
  | none => .ok (some .tooEarly)
  | some after => check after

def reason? (ctx : Context) : Condition → Except Panic (Option Reason)
  | editsWithinBounds =>
    match ctx.before.check ctx.changes with
    | .ok () => .ok none
    | .error (.domain e) => .ok (some (.misfit e))
    | .error (.panic p) => .error p
  | targetPositionExists =>
    .ok (require (ctx.before.offsetOf? ctx.diagnostic.line ctx.diagnostic.column).isSome
      (.pastEnd ctx.diagnostic.location))
  | importAbsent =>
    .ok (importReason? ctx.changes (fun line => !Text.occursIn line ctx.before.chars) .importThere)
  | importPresent => ctx.edited fun after =>
    .ok (importReason? ctx.changes (fun line => Text.occursIn line after.chars) .importMissing)
  | insertedTextPresent => ctx.edited fun after => missingFrom? after.chars 0 (Change.sorted ctx.changes)
  | lineCountDecreased => ctx.edited fun after =>
    .ok (require (after.lineCount < ctx.before.lineCount) (.lineCount ctx.before.lineCount after.lineCount))
  | bufferChanged => ctx.edited fun after => .ok (require (after.chars != ctx.before.chars) .unchanged)
  | balancedDelimiters => .ok ((Bracket.fault? (ctx.after?.getD ctx.before).chars).map .bracket)

structure Failed where
  phrase : String
  reason : Reason
  deriving DecidableEq, Repr

def Failed.text (f : Failed) : String :=
  "condition '" ++ f.phrase ++ "' failed: " ++ f.reason.text

def phraseReason? (ctx : Context) (phrase : String) : Except Panic (Option Reason) :=
  match ofPhrase? phrase with
  | some c => c.reason? ctx
  | none => .ok (some .unknownPhrase)

def firstFailed? (ctx : Context) : List String → Except Panic (Option Failed)
  | [] => .ok none
  | phrase :: rest =>
    match phraseReason? ctx phrase with
    | .error p => .error p
    | .ok (some reason) => .ok (some ⟨phrase, reason⟩)
    | .ok none => firstFailed? ctx rest

def allKnown (phrases : List String) : Bool := phrases.all fun s => (ofPhrase? s).isSome

end Condition

end Remedy
