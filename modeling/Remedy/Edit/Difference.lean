import Remedy.Text.Basic

/-! The lines in which two texts differ: what is left when their common start and end are taken away. -/

namespace Remedy

structure Difference where
  removed : List String
  added : List String
  deriving DecidableEq, Repr

namespace Difference

def dropCommon : List String → List String → List String × List String
  | a :: as, b :: bs => if a = b then dropCommon as bs else (a :: as, b :: bs)
  | as, bs => (as, bs)

def ofLines (old new : List String) : Difference :=
  let (old, new) := dropCommon old new
  let (old, new) := dropCommon old.reverse new.reverse
  ⟨old.reverse, new.reverse⟩

def of (before after : String) : Difference :=
  ofLines (Text.linesOfString before) (Text.linesOfString after)

def lines (d : Difference) : List String := d.removed.map ("- " ++ ·) ++ d.added.map ("+ " ++ ·)

end Difference

end Remedy
