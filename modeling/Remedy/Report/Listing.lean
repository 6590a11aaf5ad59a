import Remedy.Report.Headline

/-! The text a compiler prints: headlines, each followed by indented elaborations of its message. All else
(summaries, blank lines, excerpts of the source) is passed over. -/

namespace Remedy.Listing

def colourLength? : List Char → Option Nat
  | '\x1b' :: '[' :: rest =>
    let digits := rest.takeWhile fun c => c.isDigit || c = ';'
    if rest[digits.length]? = some 'm' then some (digits.length + 3) else none
  | _ => none

def uncolouredFrom : Nat → List Char → List Char
  | _, [] => []
  | skip + 1, _ :: cs => uncolouredFrom skip cs
  | 0, c :: cs =>
    match colourLength? (c :: cs) with
    | some n => uncolouredFrom (n - 1) cs
    | none => c :: uncolouredFrom 0 cs

def clean (line : List Char) : List Char := Text.trimEnd (uncolouredFrom 0 line)

/-- Whether a line shows source text behind its line number, or marks a place in it. -/
def isExcerpt (text : List Char) : Bool :=
  text.head? == some '~' ||
    match Text.splitOnce? ' ' text with
    | some (gutter, _) => gutter.all Char.isDigit
    | none => false

inductive Line where
  /-- Nothing is reported if a number does not fit. -/
  | headline (diagnostic? : Option Diagnostic)
  | elaboration (text : List Char)
  | excerpt
  /-- Ends the elaborations. -/
  | other
  deriving DecidableEq, Repr

def Line.read (raw : List Char) : Line :=
  let line := clean raw
  match Headline.read? line with
  | some h => .headline h.diagnostic?
  | none =>
    let text := Text.trim line
    if text.isEmpty || !(line.head? == some ' ' || line.head? == some '\t') then .other
    else if isExcerpt text then .excerpt
    else .elaboration text

def extendMessage (d : Diagnostic) (text : List Char) : Diagnostic :=
  { d with message := d.message ++ " " ++ String.ofList text }

/-- The diagnostics of some lines; `open?` is the one whose elaborations may still follow. -/
def collect : Option Diagnostic → List Line → List Diagnostic
  | open?, [] => open?.toList
  | open?, .headline d? :: rest => open?.toList ++ collect d? rest
  | some d, .elaboration text :: rest => collect (some (extendMessage d text)) rest
  | none, .elaboration _ :: rest => collect none rest
  | open?, .excerpt :: rest => collect open? rest
  | open?, .other :: rest => open?.toList ++ collect none rest

def diagnostics (s : String) : List Diagnostic := collect none ((Text.lines s.toList).map Line.read)

end Remedy.Listing
