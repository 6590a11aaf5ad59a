import Remedy.Category

/-! The key under which diagnostics of one kind share what was learned. -/

namespace Remedy

structure Signature where
  code : UInt32
  category : Category
  deriving DecidableEq, Repr, Inhabited

namespace Signature

def text (s : Signature) : String := "TS" ++ Text.natText s.code.toNat ++ ":" ++ s.category.name

def sharesCodeOrCategory (a b : Signature) : Bool := a.code == b.code || a.category == b.category

def compare (a b : Signature) : Ordering :=
  (Ord.compare a.code.toNat b.code.toNat).then (Ord.compare a.category.rank b.category.rank)

/-- Code and category around the first colon. The code may carry `TS` or `ts` in front, also repeated. -/
def ofText? (s : String) : Option Signature :=
  match Text.splitOnce? ':' s.toList with
  | none => none
  | some (code, category) =>
    let code := Text.trim code
    let digits := Text.stripAll ['t', 's'] code.length (Text.stripAll ['T', 'S'] code.length code)
    match Text.readUnsigned? UInt32.size digits, Category.ofText? (String.ofList category) with
    | some n, some c => some ⟨UInt32.ofNat n, c⟩
    | _, _ => none

end Signature

end Remedy
