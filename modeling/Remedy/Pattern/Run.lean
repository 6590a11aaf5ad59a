import Remedy.Pattern.Program

/-! Matching: the steps of a pattern are tried depth first, the preferred ones before the others, and no
step is tried twice at one place. The first match from the leftmost place is the one taken. -/

namespace Remedy.Pattern

abbrev Subject := Array Char

def isWordAt (unicode : Bool) (subject : Subject) (i : Nat) : Bool :=
  match subject[i]? with
  | some c =>
    if c.toNat < 128 then c.isAlphanum || c = '_' else unicode && Unicode.word.has c.toNat
  | none => false

def isWordBefore (unicode : Bool) (subject : Subject) : Nat → Bool
  | 0 => false
  | i + 1 => isWordAt unicode subject i

def charBefore? (subject : Subject) : Nat → Option Char
  | 0 => none
  | i + 1 => subject[i]?

def Look.holds (subject : Subject) (i : Nat) : Look → Bool
  | textStart => i = 0
  | textEnd => i = subject.size
  | lineStart false => i = 0 || charBefore? subject i == some '\n'
  | lineEnd false => i = subject.size || subject[i]? == some '\n'
  | lineStart true =>
    i = 0 || charBefore? subject i == some '\n' ||
      (charBefore? subject i == some '\r' && subject[i]? != some '\n')
  | lineEnd true =>
    i = subject.size || subject[i]? == some '\r' ||
      (subject[i]? == some '\n' && charBefore? subject i != some '\r')
  | wordEdge u => isWordBefore u subject i != isWordAt u subject i
  | notWordEdge u => isWordBefore u subject i == isWordAt u subject i
  | wordStart u => !isWordBefore u subject i && isWordAt u subject i
  | wordEnd u => isWordBefore u subject i && !isWordAt u subject i
  | wordStartHalf u => !isWordBefore u subject i
  | wordEndHalf u => !isWordAt u subject i

/-- A step to be tried at a place, with the group ends found before it. -/
structure Job where
  step : Nat
  place : Nat
  slots : Array (Option Nat)

def Job.next (subject : Subject) (job : Job) : Step → List Job
  | .one set next =>
    match subject[job.place]? with
    | some c => if set.has c.toNat then [⟨next, job.place + 1, job.slots⟩] else []
    | none => []
  | .split first second => [{ job with step := first }, { job with step := second }]
  | .save slot next => [⟨next, job.place, job.slots.setIfInBounds slot (some job.place)⟩]
  | .look l next => if l.holds subject job.place then [{ job with step := next }] else []
  | .jump next => [{ job with step := next }]
  | .done => []

/-- Works through the jobs. `tried` says at which places which steps were tried. -/
def work (p : Pattern) (subject : Subject) :
    Nat → Array Bool → List Job → Option (Array (Option Nat)) × Array Bool
  | 0, tried, _ => (none, tried)
  | _ + 1, tried, [] => (none, tried)
  | fuel + 1, tried, job :: jobs =>
    let key := job.place * p.steps.size + job.step
    if tried.getD key true then work p subject fuel tried jobs
    else
      match p.steps[job.step]? with
      | none => work p subject fuel tried jobs
      | some .done => (some job.slots, tried)
      | some step => work p subject fuel (tried.setIfInBounds key true) (job.next subject step ++ jobs)

def seek (p : Pattern) (subject : Subject) (fuel : Nat) : Nat → Nat → Array Bool → Option (Array (Option Nat))
  | 0, _, _ => none
  | left + 1, start, tried =>
    match work p subject fuel tried [⟨0, start, Array.replicate (2 * p.names.length) none⟩] with
    | (some slots, _) => some slots
    | (none, tried) => seek p subject fuel left (start + 1) tried

end Pattern

/-- The texts of the groups of a match, those without a part in it missing, and the groups' names. -/
structure Captures where
  groups : List (Option String)
  names : List (Option String)
  deriving DecidableEq, Repr

namespace Pattern

def groupText (subject : Subject) (slots : Array (Option Nat)) (index : Nat) : Option String :=
  match slots.getD (2 * index) none, slots.getD (2 * index + 1) none with
  | some i, some j => some (String.ofList (subject.extract i j).toList)
  | _, _ => none

def captures? (p : Pattern) (text : String) : Option Captures :=
  let subject := text.toList.toArray
  let room := p.steps.size * (subject.size + 1)
  (p.seek subject (2 * room + 2) (subject.size + 1) 0 (Array.replicate room false)).map fun slots =>
    ⟨(List.range p.names.length).map (groupText subject slots), p.names⟩

def isMatch (p : Pattern) (text : String) : Bool := (p.captures? text).isSome

end Pattern

namespace Captures

def get? (c : Captures) (index : Nat) : Option String := (c.groups[index]?).join

def indexOf? (c : Captures) (name : String) : Option Nat := c.names.findIdx? (· == some name)

end Captures

end Remedy
