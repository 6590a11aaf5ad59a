import Remedy.Pattern.Reader

/-! Patterns as programs: numbered steps, each naming the steps that may come after it. -/

namespace Remedy.Pattern

inductive Step where
  /-- Takes one character of a set. -/
  | one (set : Text.Ranges) (next : Nat)
  /-- Tries one continuation, and then the other. -/
  | split (first second : Nat)
  | save (slot next : Nat)
  | look (l : Look) (next : Nat)
  | jump (next : Nat)
  | done
  deriving Repr, Inhabited

def branch (greedy : Bool) (body exit : Nat) : Step := if greedy then .split body exit else .split exit body

def copies (body : Nat → Nat → List Step) (size : Nat) : Nat → Nat → Nat → List Step
  | 0, _, _ => []
  | k + 1, base, exit =>
    body base (if k = 0 then exit else base + size) ++ copies body size k (base + size) exit

def optionals (body : Nat → Nat → List Step) (size : Nat) (greedy : Bool) : Nat → Nat → Nat → List Step
  | 0, _, _ => []
  | k + 1, base, exit =>
    branch greedy (base + 1) exit :: body (base + 1) (if k = 0 then exit else base + 1 + size) ++
      optionals body size greedy k (base + 1 + size) exit

namespace Node

def size : Node → Nat
  | empty => 1
  | one _ => 1
  | look _ => 1
  | group none body => body.size
  | group (some _) body => body.size + 2
  | seq a b => a.size + b.size
  | alt a b => a.size + b.size + 1
  | repeated 0 none _ body => body.size + (if body.canBeEmpty then 2 else 1)
  | repeated (least + 1) none _ body => (least + 1) * body.size + 1
  | repeated least (some most) _ body => least * body.size + (most - least) * (body.size + 1)

/-- The steps of a node that stand from `base` on and leave to `exit`. A body that may be empty and is
repeated without bound is entered once before it can loop. -/
def steps : Node → Nat → Nat → List Step
  | empty, _, exit => [.jump exit]
  | one set, _, exit => [.one set exit]
  | look l, _, exit => [.look l exit]
  | group none body, base, exit => body.steps base exit
  | group (some index) body, base, exit =>
    .save (2 * index) (base + 1) ::
      (body.steps (base + 1) (base + 1 + body.size) ++ [.save (2 * index + 1) exit])
  | seq a b, base, exit => a.steps base (base + a.size) ++ b.steps (base + a.size) exit
  | alt a b, base, exit =>
    .split (base + 1) (base + 1 + a.size) :: (a.steps (base + 1) exit ++ b.steps (base + 1 + a.size) exit)
  | repeated 0 none greedy body, base, exit =>
    if body.canBeEmpty then
      branch greedy (base + 1) exit ::
        (body.steps (base + 1) (base + 1 + body.size) ++ [branch greedy (base + 1) exit])
    else branch greedy (base + 1) exit :: body.steps (base + 1) base
  | repeated (least + 1) none greedy body, base, exit =>
    copies body.steps body.size (least + 1) base (base + (least + 1) * body.size) ++
      [branch greedy (base + least * body.size) exit]
  | repeated least (some most) greedy body, base, exit =>
    let extra := most - least
    copies body.steps body.size least base (if extra = 0 then exit else base + least * body.size) ++
      optionals body.steps body.size greedy extra (base + least * body.size) exit

def setCost (set : Text.Ranges) : Nat :=
  if set.isAscii then (if set.length ≤ 1 then 32 else 32 + 8 * set.length) else 32 + 24 * set.length

def cost : Node → Nat
  | empty => 32
  | one set => setCost set
  | look _ => 32
  | group none body => body.cost
  | group (some _) body => body.cost + 64
  | seq a b => a.cost + b.cost
  | alt a b => a.cost + b.cost + 32
  | repeated least none _ body => (max least 1) * body.cost + 64
  | repeated _ (some most) _ body => most * (body.cost + 32)

def depth : Node → Nat
  | empty => 0
  | one _ => 0
  | look _ => 0
  | group _ body => body.depth + 1
  | seq a b => max (a.depth + 1) b.depth
  | alt a b => max (a.depth + 1) b.depth
  | repeated _ _ _ body => body.depth + 1

end Node

def costLimit : Nat := 10485760

end Pattern

structure Pattern where
  steps : Array Pattern.Step
  names : List (Option String)
  deriving Repr, Inhabited

namespace Pattern

def ofForm (form : Form) : Except Fault Pattern :=
  if depthLimit < form.root.depth then .error .tooDeep
  else if costLimit < form.root.cost then .error .tooLarge
  else
    let steps := form.root.steps 1 (form.root.size + 1)
    .ok ⟨(.save 0 1 :: (steps ++ [.save 1 (form.root.size + 2), .done])).toArray, form.names⟩

def read (s : String) : Except Fault Pattern := (Form.read s).bind ofForm

end Pattern

end Remedy
