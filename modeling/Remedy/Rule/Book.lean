import Remedy.Rule.Basic

/-! Rule books: accepted rules in order of priority, with distinct ids. -/

namespace Remedy

structure ReadyRule (α : Type) where
  rule : Rule α
  pattern? : Option Pattern
  deriving Repr

inductive Recognition where
  | no
  /-- With the groups of the message, if the rule has a pattern. -/
  | yes (captures? : Option Captures)
  deriving DecidableEq, Repr

structure RuleBook (α : Type) where
  rules : List (ReadyRule α)
  deriving Repr

namespace ReadyRule

variable {α : Type}

def recognise (r : ReadyRule α) (d : Diagnostic) : Recognition :=
  if !r.rule.codes.isEmpty && !r.rule.codes.contains d.code then .no
  else if r.rule.category?.any (· != d.category) then .no
  else
    match r.pattern? with
    | none => .yes none
    | some p =>
      match p.captures? d.message with
      | some c => .yes (some c)
      | none => .no

def recognises (r : ReadyRule α) (d : Diagnostic) : Bool :=
  match r.recognise d with
  | .no => false
  | .yes _ => true

end ReadyRule

namespace RuleBook

variable {α : Type} [Scalar α]

def empty : RuleBook α := ⟨[]⟩

def size (b : RuleBook α) : Nat := b.rules.length

def isEmpty (b : RuleBook α) : Bool := b.rules.isEmpty

def ids (b : RuleBook α) : List String := b.rules.map (·.rule.id)

def readPattern (r : Rule α) : Except DomainError (Option Pattern) :=
  match r.messagePattern? with
  | none => .ok none
  | some s =>
    match Pattern.read s with
    | .ok p => .ok (some p)
    | .error fault => .error (.invalidRule r.id (.badPattern fault.text))

def accept (b : RuleBook α) (r : Rule α) : Except DomainError (ReadyRule α) := do
  r.validate
  if b.ids.contains r.id then throw (.invalidRule r.id .duplicateId)
  return ⟨r, ← readPattern r⟩

/-- Adds rules behind those of the book up to the first that is refused. -/
def extend (b : RuleBook α) : List (Rule α) → RuleBook α × Except DomainError Unit
  | [] => (b, .ok ())
  | r :: rest =>
    match b.accept r with
    | .ok ready => extend ⟨b.rules ++ [ready]⟩ rest
    | .error e => (b, .error e)

def ofRules (rules : List (Rule α)) : Except DomainError (RuleBook α) :=
  match empty.extend rules with
  | (b, .ok ()) => .ok b
  | (_, .error e) => .error e

def needsSource (b : RuleBook α) (d : Diagnostic) : Bool :=
  b.rules.any fun r => r.rule.edit.needsSource && r.recognises d

def fixesOf (d : Diagnostic) (source? : Option Buffer) : List (ReadyRule α) → Except DomainError (List (Fix α))
  | [] => .ok []
  | r :: rest =>
    match r.recognise d with
    | .no => fixesOf d source? rest
    | .yes captures? => do
      let fix ← r.rule.fix d captures? source?
      return fix :: (← fixesOf d source? rest)

def matchingFixes (b : RuleBook α) (d : Diagnostic) (source? : Option Buffer) :
    Except DomainError (List (Fix α)) :=
  fixesOf d source? b.rules

end RuleBook

end Remedy
