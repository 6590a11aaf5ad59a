import Remedy.Proofs.Fix.Condition
import Remedy.Proofs.Text.Basic

/-! Brackets that nest. Main statement: the condition on a text's delimiters holds exactly if the brackets outside of
its string literals and line comments are well bracketed. -/

namespace Remedy.Bracket

inductive Pair : Char → Char → Prop
  | round : Pair '(' ')'
  | square : Pair '[' ']'
  | curly : Pair '\x7b' '\x7d'

def delimiters : List Char := ['(', ')', '[', ']', '\x7b', '\x7d']

def quotes : List Char := ['"', '\'', '\x60']

/-- Rows of brackets in which each is closed by its own, and what stands in between nests in the same way. -/
inductive WellBracketed : List Char → Prop
  | nil : WellBracketed []
  | pair {opening closing : Char} {inner rest : List Char} (pair : Pair opening closing)
      (nested : WellBracketed inner) (later : WellBracketed rest) :
      WellBracketed (opening :: (inner ++ closing :: rest))

inductive Inside (quote : Char) : List Char → Prop
  | nil : Inside quote []
  | plain {c : Char} {cs : List Char} (unquoted : c ≠ quote) (unescaped : c ≠ '\\') (later : Inside quote cs) :
      Inside quote (c :: cs)
  | escaped {c : Char} {cs : List Char} (later : Inside quote cs) : Inside quote ('\\' :: c :: cs)

/-- A text and its characters outside of string literals and line comments. A literal that is not closed goes on to the
end of the text, where a backslash may stand alone; so does a comment in the last line. -/
inductive Outside : List Char → List Char → Prop
  | nil : Outside [] []
  | code {c : Char} {cs code : List Char} (unquoted : c ∉ quotes) (uncommented : ¬['/', '/'] <+: c :: cs)
      (later : Outside cs code) : Outside (c :: cs) (c :: code)
  | literal {quote : Char} {body cs code : List Char} (opens : quote ∈ quotes) (inside : Inside quote body)
      (later : Outside cs code) : Outside (quote :: (body ++ quote :: cs)) code
  | unclosed {quote : Char} {body stray : List Char} (opens : quote ∈ quotes) (inside : Inside quote body)
      (ends : stray = [] ∨ stray = ['\\']) : Outside (quote :: (body ++ stray)) []
  | comment {line cs code : List Char} (whole : '\n' ∉ line) (later : Outside cs code) :
      Outside ('/' :: '/' :: (line ++ '\n' :: cs)) code
  | lastComment {line : List Char} (whole : '\n' ∉ line) : Outside ('/' :: '/' :: line) []

/-- A text and the brackets outside of its string literals and line comments, in order. -/
def Delimits (cs word : List Char) : Prop := ∃ code, Outside cs code ∧ code.filter (· ∈ delimiters) = word

variable {c opening closing quote : Char} {cs word stack code body line : List Char}

theorem Pair.isOpen_opening (pair : Pair opening closing) : isOpen opening = true := by cases pair <;> decide

theorem Pair.isOpen_closing (pair : Pair opening closing) : isOpen closing = false := by cases pair <;> decide

theorem Pair.partner_closing (pair : Pair opening closing) : partner closing = opening := by cases pair <;> decide

theorem pair_partner (listed : c ∈ delimiters) (closes : isOpen c = false) : Pair (partner c) c := by
  simp only [delimiters, List.mem_cons, List.not_mem_nil, or_false] at listed
  rcases listed with rfl | rfl | rfl | rfl | rfl | rfl
  · cases closes
  · exact .round
  · cases closes
  · exact .square
  · cases closes
  · exact .curly

theorem faultFrom_open (opens : isOpen c = true) (stack cs : List Char) :
    faultFrom stack (c :: cs) = faultFrom (c :: stack) cs := by
  cases stack <;> simp [faultFrom, opens]

theorem faultFrom_close (pair : Pair opening closing) (stack cs : List Char) :
    faultFrom (opening :: stack) (closing :: cs) = faultFrom stack cs := by
  simp [faultFrom, pair.isOpen_closing, pair.partner_closing]

theorem WellBracketed.faultFrom_append (nests : WellBracketed word) (stack rest : List Char) :
    faultFrom stack (word ++ rest) = faultFrom stack rest := by
  induction nests generalizing stack rest with
  | nil => rfl
  | @pair opening closing inner later pair nested others ih ih' =>
      calc
        faultFrom stack (opening :: (inner ++ closing :: later) ++ rest)
          = faultFrom (opening :: stack) (inner ++ closing :: (later ++ rest)) := by
            rw [List.cons_append, faultFrom_open pair.isOpen_opening, List.append_assoc, List.cons_append]
        _ = faultFrom stack (later ++ rest) := by rw [ih, faultFrom_close pair]
        _ = faultFrom stack rest := ih' stack rest

theorem WellBracketed.insert (nests : WellBracketed word) (pair : Pair opening closing) {front back : List Char}
    (parts : word = front ++ back) : WellBracketed (front ++ opening :: closing :: back) := by
  induction nests generalizing front back with
  | nil =>
      obtain ⟨rfl, rfl⟩ := List.append_eq_nil_iff.mp parts.symm
      exact .pair pair .nil .nil
  | @pair first last inner later outer nested others ih ih' =>
      cases front with
      | nil =>
          rw [List.nil_append] at parts ⊢
          rw [← parts]
          exact .pair pair .nil (.pair outer nested others)
      | cons c front =>
          rw [List.cons_append, List.cons.injEq] at parts
          obtain ⟨rfl, parts⟩ := parts
          -- The place is inside of the first pair, its end included, or behind it.
          have place : (∃ middle, inner = front ++ middle ∧ back = middle ++ last :: later) ∨
              ∃ middle, front = inner ++ last :: middle ∧ later = middle ++ back := by
            rcases List.append_eq_append_iff.mp parts with ⟨middle, rfl, behind⟩ | ⟨middle, rfl, rfl⟩
            · rcases List.cons_eq_append_iff.mp behind with ⟨rfl, rfl⟩ | ⟨middle, rfl, rfl⟩
              · exact .inl ⟨[], by simp, rfl⟩
              · exact .inr ⟨middle, rfl, rfl⟩
            · exact .inl ⟨middle, rfl, rfl⟩
          rcases place with ⟨middle, rfl, rfl⟩ | ⟨middle, rfl, rfl⟩
          · simpa using WellBracketed.pair outer (ih rfl) others
          · simpa using WellBracketed.pair outer nested (ih' rfl)

/-- If going through brackets finds no fault, then they nest behind those that were open. -/
theorem wellBracketed_of_faultFrom (listed : ∀ c ∈ cs, c ∈ delimiters) (faultless : faultFrom stack cs = none) :
    WellBracketed (stack.reverse ++ cs) := by
  fun_induction faultFrom stack cs with
  | case1 => exact .nil
  | case2 => cases faultless
  | case3 stack c cs opens ih =>
      have nests := ih (fun c member => listed c (List.mem_cons_of_mem _ member)) faultless
      rwa [List.reverse_cons, List.append_assoc] at nests
  | case4 c cs closes below ih =>
      have nests := ih (fun c member => listed c (List.mem_cons_of_mem _ member)) faultless
      have pair := pair_partner (listed c List.mem_cons_self) (by simpa using closes)
      rw [List.reverse_cons, List.append_assoc]
      exact nests.insert pair rfl
  | case5 => cases faultless
  | case6 => cases faultless

theorem faultFrom_eq_none_iff (listed : ∀ c ∈ word, c ∈ delimiters) : faultFrom [] word = none ↔ WellBracketed word := by
  constructor
  · exact wellBracketed_of_faultFrom listed
  · intro nests
    have rest := nests.faultFrom_append [] []
    rwa [List.append_nil] at rest

theorem mem_delimiters_iff (c : Char) : c ∈ delimiters ↔ (isOpen c || isClose c) = true := by
  simp only [delimiters, isOpen, isClose, List.mem_cons, List.not_mem_nil, or_false, Bool.or_eq_true,
    decide_eq_true_iff]
  tauto

theorem isQuote_iff (c : Char) : isQuote c = true ↔ c ∈ quotes := by
  simp [quotes, isQuote, or_assoc]

theorem bracketsFrom_inside (inside : Inside quote body) (rest : List Char) :
    bracketsFrom (.quoted quote) (body ++ rest) = bracketsFrom (.quoted quote) rest := by
  induction inside with
  | nil => rfl
  | plain unquoted unescaped later ih => simp [bracketsFrom, unquoted, unescaped, ih]
  | escaped later ih => simp [bracketsFrom, ih]

theorem bracketsFrom_comment (whole : '\n' ∉ line) (rest : List Char) :
    bracketsFrom .comment (line ++ rest) = bracketsFrom .comment rest := by
  induction line with
  | nil => rfl
  | cons c cs ih =>
      rw [List.mem_cons, not_or] at whole
      simp [bracketsFrom, Ne.symm whole.1, ih whole.2]

theorem modeAfter_code (unquoted : c ∉ quotes) (uncommented : ¬['/', '/'] <+: c :: cs) : modeAfter c cs = .code := by
  rw [← isQuote_iff, Bool.not_eq_true] at unquoted
  have slashes : (decide (c = '/') && cs.head? == some '/') = false := by
    cases cs with
    | nil => simp
    | cons d cs => simpa [@eq_comm Char '/'] using uncommented
  rw [modeAfter, unquoted, slashes]
  rfl

theorem bracketsFrom_opens (opens : quote ∈ quotes) (cs : List Char) :
    bracketsFrom .code (quote :: cs) = bracketsFrom (.quoted quote) cs := by
  simp only [quotes, List.mem_cons, List.not_mem_nil, or_false] at opens
  rcases opens with rfl | rfl | rfl <;> rfl

theorem bracketsFrom_closes (opens : quote ∈ quotes) (cs : List Char) :
    bracketsFrom (.quoted quote) (quote :: cs) = bracketsFrom .code cs := by
  have unescaped : quote ≠ '\\' := by
    rintro rfl
    revert opens
    decide
  simp [bracketsFrom, unescaped]

theorem Outside.brackets_eq (outside : Outside cs code) : brackets cs = code.filter (· ∈ delimiters) := by
  unfold brackets
  induction outside with
  | nil => rfl
  | @code c cs code unquoted uncommented later ih =>
      rw [bracketsFrom, modeAfter_code unquoted uncommented, List.filter_cons, ih]
      simp only [decide_eq_true_iff, mem_delimiters_iff]
  | @literal quote body cs code opens inside later ih =>
      rw [bracketsFrom_opens opens, bracketsFrom_inside inside, bracketsFrom_closes opens, ih]
  | @unclosed quote body stray opens inside ends =>
      rw [bracketsFrom_opens opens, bracketsFrom_inside inside]
      rcases ends with rfl | rfl <;> rfl
  | @comment line cs code whole later ih =>
      have begins : bracketsFrom .code ('/' :: '/' :: (line ++ '\n' :: cs)) =
          bracketsFrom .comment (line ++ '\n' :: cs) := rfl
      rw [begins, bracketsFrom_comment whole, ← ih]
      rfl
  | @lastComment line whole =>
      have begins : bracketsFrom .code ('/' :: '/' :: line) = bracketsFrom .comment (line ++ []) := by
        rw [List.append_nil]
        rfl
      rw [begins, bracketsFrom_comment whole]
      rfl

theorem literal_cases (quote : Char) (cs : List Char) :
    (∃ body rest, Inside quote body ∧ cs = body ++ quote :: rest) ∨
      ∃ body stray, Inside quote body ∧ (stray = [] ∨ stray = ['\\']) ∧ cs = body ++ stray := by
  match cs with
  | [] => exact .inr ⟨[], [], .nil, .inl rfl, rfl⟩
  | c :: cs =>
      by_cases closed : c = quote
      · exact .inl ⟨[], cs, .nil, by rw [closed, List.nil_append]⟩
      by_cases escape : c = '\\'
      · subst escape
        match cs with
        | [] => exact .inr ⟨[], ['\\'], .nil, .inr rfl, rfl⟩
        | d :: cs =>
            rcases literal_cases quote cs with ⟨body, rest, inside, rfl⟩ | ⟨body, stray, inside, ends, rfl⟩
            · exact .inl ⟨'\\' :: d :: body, rest, .escaped inside, rfl⟩
            · exact .inr ⟨'\\' :: d :: body, stray, .escaped inside, ends, rfl⟩
      · rcases literal_cases quote cs with ⟨body, rest, inside, rfl⟩ | ⟨body, stray, inside, ends, rfl⟩
        · exact .inl ⟨c :: body, rest, .plain closed escape inside, rfl⟩
        · exact .inr ⟨c :: body, stray, .plain closed escape inside, ends, rfl⟩

/-- Every text can be read. -/
theorem exists_outside (cs : List Char) : ∃ code, Outside cs code := by
  induction size : cs.length using Nat.strong_induction_on generalizing cs with
  | _ n ih =>
      subst size
      cases cs with
      | nil => exact ⟨[], .nil⟩
      | cons c cs =>
          by_cases opens : c ∈ quotes
          · rcases literal_cases c cs with ⟨body, rest, inside, rfl⟩ | ⟨body, stray, inside, ends, rfl⟩
            · obtain ⟨code, later⟩ := ih rest.length (by simp; omega) rest rfl
              exact ⟨code, .literal opens inside later⟩
            · exact ⟨[], .unclosed opens inside ends⟩
          by_cases begins : ['/', '/'] <+: c :: cs
          · obtain ⟨behind, same⟩ := begins
            rw [← same] at ih ⊢
            rcases Text.row_cases behind with last | ⟨line, rest, whole, rfl⟩
            · exact ⟨[], .lastComment last⟩
            · obtain ⟨code, later⟩ := ih rest.length (by simp; omega) rest rfl
              exact ⟨code, .comment whole later⟩
          · obtain ⟨code, later⟩ := ih cs.length (by simp) cs rfl
            exact ⟨c :: code, .code opens begins later⟩

theorem delimits_iff : Delimits cs word ↔ word = brackets cs := by
  constructor
  · rintro ⟨code, outside, rfl⟩
    exact outside.brackets_eq.symm
  · rintro rfl
    obtain ⟨code, outside⟩ := exists_outside cs
    exact ⟨code, outside, outside.brackets_eq.symm⟩

theorem mem_brackets (listed : c ∈ brackets cs) : c ∈ delimiters := by
  obtain ⟨code, outside⟩ := exists_outside cs
  rw [outside.brackets_eq] at listed
  simpa using List.of_mem_filter listed

theorem holds_balanced_iff (ctx : Condition.Context) :
    Condition.Holds ctx "balanced delimiters" ↔ fault? (ctx.after?.getD ctx.before).chars = none := by
  have known : Condition.ofPhrase? "balanced delimiters" = some .balancedDelimiters := by decide +kernel
  simp [Condition.Holds, known, Condition.reason?]

/-- Every text has one row of brackets outside of its string literals and line comments, and the text is found to be
without fault exactly if these are well bracketed; so is the condition that checks it. -/
theorem balanced_iff (cs : List Char) :
    ∃ word, (∀ other, Delimits cs other ↔ other = word) ∧ (fault? cs = none ↔ WellBracketed word) ∧
      ∀ ctx : Condition.Context, (ctx.after?.getD ctx.before).chars = cs →
        (Condition.Holds ctx "balanced delimiters" ↔ WellBracketed word) := by
  have faultless : fault? cs = none ↔ WellBracketed (brackets cs) :=
    faultFrom_eq_none_iff fun _ member => mem_brackets member
  refine ⟨brackets cs, fun _ => delimits_iff, faultless, ?_⟩
  rintro ctx rfl
  exact (holds_balanced_iff ctx).trans faultless

def snippet : List Char := "f(\"\\\"(\", [1, \x60]\x60], \x7b b: ')' \x7d) // (".toList

theorem balanced_iff_snippet :
    (∀ other, Delimits snippet other ↔ other = ['(', '[', ']', '\x7b', '\x7d', ')']) ∧
      WellBracketed ['(', '[', ']', '\x7b', '\x7d', ')'] ∧
      Condition.Holds ⟨default, [], Buffer.ofString "f(", some ⟨snippet⟩⟩ "balanced delimiters" := by
  obtain ⟨word, only, faultless, holds⟩ := balanced_iff snippet
  have read : ['(', '[', ']', '\x7b', '\x7d', ')'] = brackets snippet := by decide +kernel
  have whole := (only _).mp (delimits_iff.mpr read)
  subst whole
  have nests := faultless.mp (by decide +kernel)
  exact ⟨only, nests, (holds _ rfl).mpr nests⟩

end Remedy.Bracket
