import Mathlib.Data.List.Count
import Mathlib.Data.List.SplitBy
import Trefoil.Reader.Lexeme

/-! # Tokens

The tokens of a text, said without a scanner: take the comments out, and what is
left falls into parentheses, blanks and runs of other characters. The scanner finds
these tokens in every text that has no brackets, quotes or backslashes where they
would mean something. -/

namespace Trefoil.Reader

open Trefoil.Text

/-! ## Comments -/

/-- The text without comments. A semicolon starts a comment, which goes up to the end
of the line. `inComment` tells whether the text starts inside one. -/
def code (inComment : Bool) : List Char → List Char
  | [] => []
  | char :: rest =>
      if char = '\n' then char :: code false rest
      else if inComment || char = ';' then code true rest
      else char :: code false rest

def endsInComment (inComment : Bool) : List Char → Bool
  | [] => inComment
  | char :: rest =>
      if char = '\n' then endsInComment false rest
      else endsInComment (inComment || char = ';') rest

theorem code_of_ne {char : Char} (different : char ≠ ';') (rest : List Char) :
    code false (char :: rest) = char :: code false rest := by
  simp [code, different]

theorem code_subset (inComment : Bool) (chars : List Char) : code inComment chars ⊆ chars := by
  induction chars generalizing inComment with
  | nil => exact fun _ member => member
  | cons char chars induction =>
      rw [code]
      split
      · exact List.cons_subset_cons char (induction false)
      · split
        · exact List.subset_cons_of_subset char (induction true)
        · exact List.cons_subset_cons char (induction false)

theorem code_append (inComment : Bool) (front back : List Char) :
    code inComment (front ++ back) =
      code inComment front ++ code (endsInComment inComment front) back := by
  induction front generalizing inComment with
  | nil => rfl
  | cons char front induction =>
      rw [List.cons_append, code, code, endsInComment]
      split
      · rw [induction, List.cons_append]
      · split
        next skipped => rw [induction, skipped]
        next kept => rw [induction, List.cons_append, eq_false_of_ne_true kept]

theorem code_newline (inComment : Bool) (front back : List Char) :
    code inComment (front ++ '\n' :: back) = code inComment front ++ '\n' :: code false back := by
  rw [code_append, code, if_pos rfl]

theorem code_line {line : List Char} (single : '\n' ∉ line) :
    code false line = line.takeWhile (· ≠ ';') ∧ code true line = [] := by
  induction line with
  | nil => exact ⟨rfl, rfl⟩
  | cons char line induction =>
      rw [List.mem_cons, not_or] at single
      rcases induction single.2 with ⟨outside, inside⟩
      have noBreak : char ≠ '\n' := fun equal => single.1 equal.symm
      by_cases semicolon : char = ';'
      · simp [code, semicolon, inside]
      · simp [code, noBreak, semicolon, outside, inside]

/-! ## Words -/

def isWordChar (char : Char) : Bool := !isBlank char && char ≠ '(' && char ≠ ')'

/-- The two characters, side by side, belong to one token. -/
def adjoin (left right : Char) : Bool := isWordChar left && isWordChar right

/-- The parentheses and the longest runs of word characters. -/
def words (chars : List Char) : List String :=
  ((chars.splitBy adjoin).filter fun run => !run.all isBlank).map String.ofList

def tokens (source : String) : List String := words (code false source.toList)

example : tokens "(a;)\n b')" = ["(", "a", "b'", ")"] := by decide

theorem words_append {front back : List Char}
    (apart : ∀ left ∈ front.getLast?, ∀ right ∈ back.head?, adjoin left right = false) :
    words (front ++ back) = words front ++ words back := by
  rw [words, List.splitBy_append apart, List.filter_append, List.map_append]
  rfl

section

variable {char : Char} {front rest : List Char}

theorem words_append_cons (apart : isWordChar char = false) :
    words (front ++ char :: rest) = words front ++ words [char] ++ words rest := by
  have before : words (front ++ char :: rest) = words front ++ words (char :: rest) :=
    words_append (by simp [adjoin, apart])
  have behind : words ([char] ++ rest) = words [char] ++ words rest :=
    words_append (by simp [adjoin, apart])
  rw [before, List.append_assoc, ← behind]
  rfl

theorem words_append_blank (blank : isBlank char = true) :
    words (front ++ char :: rest) = words front ++ words rest := by
  have apart : isWordChar char = false := by simp [isWordChar, blank]
  have none : words [char] = [] := by
    have single : [char].splitBy adjoin = [[char]] := rfl
    simp [words, single, blank]
  rw [words_append_cons apart, none, List.append_nil]

theorem words_blank_cons (blank : isBlank char = true) : words (char :: rest) = words rest :=
  @words_append_blank char [] rest blank

end

theorem words_of_isWordChar {run : List Char} (filled : run ≠ [])
    (inRun : ∀ char ∈ run, isWordChar char = true) : words run = [String.ofList run] := by
  have whole : run.splitBy adjoin = [run] := by
    apply List.splitBy_of_isChain filled
    apply List.Pairwise.isChain
    rw [List.pairwise_iff_forall_sublist]
    intro left right both
    have onLeft := inRun left (both.subset (by simp))
    have onRight := inRun right (both.subset (by simp))
    simp [adjoin, onLeft, onRight]
  have notBlank : run.all isBlank = false := by
    cases run with
    | nil => exact absurd rfl filled
    | cons char run =>
        have inWord := inRun char (by simp)
        simp only [isWordChar, Bool.and_eq_true, Bool.not_eq_true'] at inWord
        simp [inWord.1.1]
  simp [words, whole, notBlank]

theorem words_code_newline (inComment : Bool) (front back : List Char) :
    words (code inComment (front ++ '\n' :: back)) =
      words (code inComment front) ++ words (code false back) := by
  rw [code_newline, words_append_blank (by decide)]

section

variable {blanks : List Char} (blank : ∀ char ∈ blanks, isBlank char = true)
include blank

theorem words_eq_nil : words blanks = [] := by
  induction blanks with
  | nil => rfl
  | cons char blanks induction =>
      rw [List.forall_mem_cons] at blank
      rw [words_blank_cons blank.1]
      exact induction blank.2

theorem words_append_blanks (front : List Char) : words (front ++ blanks) = words front := by
  cases blanks with
  | nil => rw [List.append_nil]
  | cons char blanks =>
      rw [List.forall_mem_cons] at blank
      rw [words_append_blank blank.1, words_eq_nil blank.2, List.append_nil]

theorem words_code_blanks_append (rest : List Char) :
    words (code false (blanks ++ rest)) = words (code false rest) := by
  induction blanks with
  | nil => rfl
  | cons char blanks induction =>
      rw [List.forall_mem_cons] at blank
      have notSemicolon : char ≠ ';' := by
        rintro rfl
        cases blank.1
      rw [List.cons_append, code_of_ne notSemicolon, words_blank_cons blank.1]
      exact induction blank.2

theorem words_code_append_blanks (front : List Char) :
    words (code false (front ++ blanks)) = words (code false front) := by
  rw [code_append]
  apply words_append_blanks
  intro char member
  exact blank char (code_subset _ _ member)

end

/-! ## Counting parentheses -/

theorem eq_singleton_of_mem_splitBy {chars run : List Char} {paren : Char}
    (inSplit : run ∈ chars.splitBy adjoin) (apart : isWordChar paren = false)
    (member : paren ∈ run) : run = [paren] := by
  have chain := List.isChain_of_mem_splitBy inSplit
  rcases List.append_of_mem member with ⟨before, behind, rfl⟩
  rw [List.isChain_append] at chain
  rcases List.eq_nil_or_concat before with rfl | ⟨front, last, rfl⟩
  · cases behind with
    | nil => rfl
    | cons next behind =>
        have joined := (List.isChain_cons_cons.mp chain.2.1).1
        simp [adjoin, apart] at joined
  · have joined := chain.2.2 last (by simp) paren (by simp)
    simp [adjoin, apart] at joined

/-- Where a character only stands alone in runs, the runs that it stands in are as many
as the places where it stands. -/
theorem count_singleton {runs : List (List Char)} {char : Char}
    (alone : ∀ run ∈ runs, char ∈ run → run = [char]) :
    runs.count [char] = runs.flatten.count char := by
  induction runs with
  | nil => rfl
  | cons run runs induction =>
      have rest := induction fun other member => alone other (by simp [member])
      rw [List.flatten_cons, List.count_append, List.count_cons, rest]
      by_cases member : char ∈ run
      · rw [alone run (by simp) member]
        simp [Nat.add_comm]
      · have different : run ≠ [char] := by
          rintro rfl
          simp at member
        simp [List.count_eq_zero.mpr member, different]

theorem count_words (chars : List Char) {paren : Char} (isParen : paren = '(' ∨ paren = ')') :
    (words chars).count (String.ofList [paren]) = chars.count paren := by
  have apart : isWordChar paren = false := by rcases isParen with rfl | rfl <;> rfl
  have counted : (chars.splitBy adjoin).count [paren] =
      (chars.splitBy adjoin).flatten.count paren :=
    count_singleton fun run member inside => eq_singleton_of_mem_splitBy member apart inside
  have kept : ((chars.splitBy adjoin).filter fun run => !run.all isBlank).count [paren] =
      (chars.splitBy adjoin).count [paren] :=
    List.count_filter (by rcases isParen with rfl | rfl <;> rfl)
  rw [words, List.count_map_of_injective _ _ fun _ _ => String.ofList_injective, kept, counted,
    List.flatten_splitBy]

/-! ## The scanner -/

namespace Lexeme

/-- The lexeme is a part of trees. Quotes, text literals and the like are not. -/
def isTreePart : Lexeme → Bool
  | opening .round | closing .round _ | atom _ => true
  | opening .square | closing .square _ | quote _ | text _ | unfinishedText
  | unfinishedEscape => false

/-- The token that a lexeme is. An atom that reads like a parenthesis is none. -/
def token? : Lexeme → Option String
  | opening .round => some "("
  | closing .round _ => some ")"
  | atom token => if token = "(" ∨ token = ")" then none else some token
  | opening .square | closing .square _ | quote _ | text _ | unfinishedText
  | unfinishedEscape => none

end Lexeme

namespace Scan

def Plain : Scan → Prop
  | gap | comment => True
  | atom chars => chars ≠ [] ∧ ∀ char ∈ chars, isWordChar char = true
  | atomEscape _ | text _ | textEscape _ => False

/-- The code from the start of the token on that is being read. -/
def ahead : Scan → List Char → List Char
  | gap, rest => code false rest
  | comment, rest => code true rest
  | atom chars, rest => chars.reverse ++ code false rest
  | atomEscape _, rest | text _, rest | textEscape _, rest => rest

/-- The character is part of a token, a parenthesis, or stands between tokens. An
apostrophe is part of a token unless it comes first. -/
def accepts : Scan → Char → Bool
  | comment, _ => true
  | gap, char => !(['[', ']', doubleQuote, '\\', apostrophe].contains char)
  | atom _, char => !(['[', ']', doubleQuote, '\\'].contains char)
  | atomEscape _, _ | text _, _ | textEscape _, _ => false

def next (scan : Scan) (char : Char) : Scan := (scan.step 0 char).2

theorem token?_finishedAtom {chars : List Char} (plain : (atom chars).Plain) :
    (finishedAtom chars).token? = some (String.ofList chars.reverse) := by
  have notParen {paren : Char} (apart : isWordChar paren = false) :
      String.ofList chars.reverse ≠ String.ofList [paren] := by
    intro equal
    have same : chars.reverse = [paren] := String.ofList_injective equal
    have inWord := plain.2 paren (by rw [← List.mem_reverse, same]; simp)
    simp [apart] at inWord
  have notOpening := @notParen '(' rfl
  have notClosing := @notParen ')' rfl
  simp_all [finishedAtom, Lexeme.token?]

theorem start_next (position : Nat) (char : Char) : (start position char).2 = (start 0 char).2 := by
  simp only [start, apply_ite Prod.snd]

theorem step_next (scan : Scan) (position : Nat) (char : Char) :
    (scan.step position char).2 = scan.next char := by
  cases scan with
  | gap => exact start_next position char
  | comment | atomEscape _ | textEscape _ => rfl
  | atom chars =>
      simp only [next, step]
      split
      · exact start_next position char
      · split <;> rfl
  | text chars => rfl

theorem eq_newline_of_head {char : Char} {rest : List Char}
    (first : char ∈ (code true rest).head?) : char = '\n' := by
  induction rest with
  | nil => cases first
  | cons other rest induction =>
      rw [code] at first
      split at first
      next newline => simpa [newline] using first.symm
      · exact induction first

theorem start_words {char : Char} (ends : endsAtom char = true)
    (accepted : accepts gap char = true) (position : Nat) (front rest : List Char) :
    (start position char).2.Plain ∧
      (words (front ++ code false (char :: rest))).map some =
        (words front).map some ++ (start position char).1.toList.map Lexeme.token? ++
          (words ((start position char).2.ahead rest)).map some := by
  have kinds : isBlank char = true ∨ char = '(' ∨ char = ')' ∨ char = ';' := by
    simp only [endsAtom, Bool.or_eq_true, decide_eq_true_eq] at ends
    simp only [accepts, List.contains_cons, List.contains_nil, Bool.not_eq_true',
      Bool.or_eq_false_iff, beq_eq_false_iff_ne] at accepted
    tauto
  rcases kinds with blank | rfl | rfl | rfl
  · have notSemicolon : char ≠ ';' := by
      rintro rfl
      cases blank
    have starts : start position char = (none, gap) := by simp [start, blank]
    rw [starts, code_of_ne notSemicolon, words_append_blank blank]
    exact ⟨trivial, by simp [ahead]⟩
  · rw [code_of_ne (by decide), words_append_cons (by decide)]
    exact ⟨trivial, by simp [ahead]; rfl⟩
  · rw [code_of_ne (by decide), words_append_cons (by decide)]
    exact ⟨trivial, by simp [ahead]; rfl⟩
  · have comment : code false (';' :: rest) = code true rest := rfl
    have apart : ∀ left ∈ front.getLast?, ∀ right ∈ (code true rest).head?,
        adjoin left right = false := by
      intro left _ right first
      have notWord : isWordChar '\n' = false := rfl
      rw [eq_newline_of_head first, adjoin, notWord, Bool.and_false]
    rw [comment, words_append apart]
    exact ⟨trivial, by simp [ahead]; rfl⟩

theorem word_of_not_endsAtom {char : Char} (goesOn : ¬ endsAtom char = true) :
    isWordChar char = true ∧ char ≠ ';' := by
  simp_all [endsAtom, isWordChar]

/-- One character on, the tokens that lie ahead are those that the scanner completes
and those that still lie ahead. -/
theorem step_words {scan : Scan} {char : Char} (plain : scan.Plain)
    (accepted : scan.accepts char = true) (position : Nat) (rest : List Char) :
    (scan.next char).Plain ∧
      (words (scan.ahead (char :: rest))).map some =
        (scan.step position char).1.map Lexeme.token? ++
          (words ((scan.next char).ahead rest)).map some := by
  rw [← step_next scan position]
  cases scan with
  | atomEscape _ | text _ | textEscape _ => cases accepted
  | comment =>
      by_cases newline : char = '\n'
      · subst newline
        have skipped : code true ('\n' :: rest) = [] ++ '\n' :: code false rest := rfl
        rw [ahead, skipped, words_append_blank (by decide)]
        exact ⟨trivial, rfl⟩
      · have skipped : code true (char :: rest) = code true rest := by simp [code, newline]
        have stays : step position char comment = ([], comment) := by simp [step, newline]
        rw [ahead, skipped, stays]
        exact ⟨trivial, rfl⟩
  | gap =>
      by_cases ends : endsAtom char = true
      · exact start_words ends accepted position [] rest
      · rcases word_of_not_endsAtom ends with ⟨inWord, notSemicolon⟩
        have starts : start position char = (none, atom [char]) := by
          simp_all [endsAtom, accepts, start]
        have stepped : step position char gap = ([], atom [char]) := by simp [step, starts]
        rw [stepped, ahead, code_of_ne notSemicolon]
        exact ⟨⟨by simp, by simpa using inWord⟩, rfl⟩
  | atom chars =>
      by_cases ends : endsAtom char = true
      · have notFirst : accepts gap char = true := by
          have notApostrophe : char ≠ apostrophe := by
            rintro rfl
            cases ends
          simp_all [accepts]
        have started := start_words ends notFirst position chars.reverse rest
        have complete : words chars.reverse = [String.ofList chars.reverse] :=
          words_of_isWordChar (by simpa using plain.1) (by simpa using plain.2)
        simp only [step, ends, if_true]
        rw [ahead, started.2, complete]
        exact ⟨started.1, by simp [token?_finishedAtom plain]⟩
      · rcases word_of_not_endsAtom ends with ⟨inWord, notSemicolon⟩
        have noEscape : char ≠ '\\' := by
          rintro rfl
          cases accepted
        have stepped : step position char (atom chars) = ([], atom (char :: chars)) := by
          simp [step, ends, noEscape]
        rw [stepped, ahead, code_of_ne notSemicolon]
        refine ⟨⟨by simp, ?_⟩, by simp [ahead]⟩
        rw [List.forall_mem_cons]
        exact ⟨inWord, plain.2⟩

theorem start_of_refused {char : Char} (refused : accepts gap char = false)
    (noEscape : char ≠ '\\') (position : Nat) :
    (∃ lexeme ∈ (start position char).1, lexeme.isTreePart = false) ∨
      (start position char).2 = text [] := by
  have kinds : char = '[' ∨ char = ']' ∨ char = doubleQuote ∨ char = apostrophe := by
    simp only [accepts, List.contains_cons, List.contains_nil, Bool.not_eq_false',
      Bool.or_eq_true, beq_iff_eq] at refused
    tauto
  rcases kinds with rfl | rfl | rfl | rfl
  · exact .inl ⟨.opening .square, rfl, rfl⟩
  · exact .inl ⟨.closing .square position, rfl, rfl⟩
  · exact .inr rfl
  · exact .inl ⟨.quote position, rfl, rfl⟩

theorem step_of_refused {scan : Scan} {char : Char} (plain : scan.Plain)
    (refused : scan.accepts char = false) (noEscape : char ≠ '\\') (position : Nat) :
    (∃ lexeme ∈ (scan.step position char).1, lexeme.isTreePart = false) ∨
      (scan.step position char).2 = text [] := by
  cases scan with
  | atomEscape _ | text _ | textEscape _ => cases plain
  | comment => cases refused
  | gap => simpa [step] using start_of_refused refused noEscape position
  | atom chars =>
      have kinds : char = '[' ∨ char = ']' ∨ char = doubleQuote := by
        simp only [accepts, List.contains_cons, List.contains_nil, Bool.not_eq_false',
          Bool.or_eq_true, beq_iff_eq] at refused
        tauto
      have both : accepts gap char = false ∧ endsAtom char = true := by
        rcases kinds with rfl | rfl | rfl <;> exact ⟨rfl, rfl⟩
      rcases both with ⟨refusedFirst, ends⟩
      rcases start_of_refused refusedFirst noEscape position with ⟨lexeme, found, foreign⟩ | inText
      · refine .inl ⟨lexeme, ?_, foreign⟩
        simpa [step, ends] using .inr found
      · refine .inr ?_
        simpa [step, ends] using inText

def acceptsAll : Scan → List Char → Bool
  | _, [] => true
  | scan, char :: rest => scan.accepts char && (scan.next char).acceptsAll rest

theorem acceptsAll_append (scan : Scan) (front back : List Char) :
    scan.acceptsAll (front ++ back) =
      (scan.acceptsAll front && (front.foldl next scan).acceptsAll back) := by
  induction front generalizing scan with
  | nil => simp [acceptsAll]
  | cons char front induction => simp [acceptsAll, induction, Bool.and_assoc]

theorem Plain.foldl {scan : Scan} {chars : List Char} (plain : scan.Plain)
    (accepted : scan.acceptsAll chars = true) : (chars.foldl next scan).Plain := by
  induction chars generalizing scan with
  | nil => exact plain
  | cons char chars induction =>
      rw [acceptsAll, Bool.and_eq_true] at accepted
      exact induction (step_words plain accepted.1 0 []).1 accepted.2

theorem Plain.newline {scan : Scan} (plain : scan.Plain) :
    scan.accepts '\n' = true ∧ scan.next '\n' = gap := by
  cases scan with
  | gap | comment | atom _ => exact ⟨rfl, rfl⟩
  | atomEscape _ | text _ | textEscape _ => cases plain

theorem acceptsAll_newline (front back : List Char) :
    gap.acceptsAll (front ++ '\n' :: back) = (gap.acceptsAll front && gap.acceptsAll back) := by
  rw [acceptsAll_append]
  cases accepted : gap.acceptsAll front with
  | false => rfl
  | true =>
      have plain : (front.foldl next gap).Plain := Plain.foldl trivial accepted
      rw [acceptsAll, plain.newline.1, plain.newline.2, Bool.true_and]

theorem acceptsAll_blanks_append {blanks : List Char} (blank : ∀ char ∈ blanks, isBlank char = true)
    (rest : List Char) : gap.acceptsAll (blanks ++ rest) = gap.acceptsAll rest := by
  induction blanks with
  | nil => rfl
  | cons char blanks induction =>
      rw [List.forall_mem_cons] at blank
      have stays : gap.accepts char = true ∧ gap.next char = gap := by
        have kind := blank.1
        simp only [isBlank, Bool.or_eq_true, decide_eq_true_eq] at kind
        rcases kind with ((((rfl | rfl) | rfl) | rfl) | rfl) | rfl <;> exact ⟨rfl, rfl⟩
      rw [List.cons_append, acceptsAll, stays.1, stays.2, Bool.true_and]
      exact induction blank.2

theorem acceptsAll_of_unmarked {scan : Scan} {chars : List Char} (plain : scan.Plain)
    (unmarked : ∀ char ∈ chars, char ∉ [doubleQuote, apostrophe, '\\', '[', ']']) :
    scan.acceptsAll chars = true := by
  induction chars generalizing scan with
  | nil => rfl
  | cons char chars induction =>
      rw [List.forall_mem_cons] at unmarked
      have accepted : scan.accepts char = true := by
        cases scan with
        | comment => rfl
        | gap | atom _ => simp_all [accepts]
        | atomEscape _ | text _ | textEscape _ => cases plain
      rw [acceptsAll, accepted, Bool.true_and]
      exact induction (step_words plain accepted 0 []).1 unmarked.2

end Scan

namespace Scanner

/-- The scanner finds the tokens of what it accepts. -/
theorem finish_foldl {scanner : Scanner} {rest : List Char} (plain : scanner.scan.Plain)
    (accepted : scanner.scan.acceptsAll rest = true) :
    (rest.foldl step scanner).finish.map Lexeme.token? =
      scanner.lexemes.reverse.map Lexeme.token? ++ (words (scanner.scan.ahead rest)).map some := by
  induction rest generalizing scanner with
  | nil =>
      rw [List.foldl_nil, finish, List.map_append]
      congr 1
      cases equation : scanner.scan with
      | gap | comment => rfl
      | atom chars =>
          rw [equation] at plain
          have complete : words chars.reverse = [String.ofList chars.reverse] :=
            words_of_isWordChar (by simpa using plain.1) (by simpa using plain.2)
          simp [Scan.finish, Scan.ahead, code, complete, Scan.token?_finishedAtom plain]
      | atomEscape _ | text _ | textEscape _ =>
          rw [equation] at plain
          cases plain
  | cons char rest induction =>
      rw [Scan.acceptsAll, Bool.and_eq_true] at accepted
      rcases Scan.step_words plain accepted.1 scanner.position rest with ⟨onward, stepped⟩
      have sameScan : (scanner.step char).scan = scanner.scan.next char :=
        Scan.step_next scanner.scan scanner.position char
      have found := @induction (scanner.step char) (by rw [sameScan]; exact onward)
        (by rw [sameScan]; exact accepted.2)
      rw [List.foldl_cons, found, sameScan, stepped]
      simp [step]

theorem mem_finish {scanner : Scanner} {lexeme : Lexeme} (found : lexeme ∈ scanner.lexemes)
    (rest : List Char) : lexeme ∈ (rest.foldl step scanner).finish := by
  induction rest generalizing scanner with
  | nil => simp [finish, found]
  | cons char rest induction =>
      apply induction
      simp [step, found]

theorem text_found {scanner : Scanner} {chars rest : List Char}
    (inText : scanner.scan = .text chars) (noEscape : '\\' ∉ rest) :
    ∃ lexeme ∈ (rest.foldl step scanner).finish, lexeme.isTreePart = false := by
  induction rest generalizing scanner chars with
  | nil => exact ⟨.unfinishedText, by simp [finish, inText, Scan.finish], rfl⟩
  | cons char rest induction =>
      rw [List.mem_cons, not_or] at noEscape
      rw [List.foldl_cons]
      by_cases ends : char = doubleQuote
      · refine ⟨.text (String.ofList chars.reverse), mem_finish ?_ rest, rfl⟩
        simp [step, inText, Scan.step, ends]
      · have noBackslash : char ≠ '\\' := fun equal => noEscape.1 equal.symm
        have goesOn : (scanner.step char).scan = .text (char :: chars) := by
          simp [step, inText, Scan.step, ends, noBackslash]
        exact induction goesOn noEscape.2

theorem acceptsAll_of_finish {scanner : Scanner} {rest : List Char} (plain : scanner.scan.Plain)
    (noEscape : '\\' ∉ rest)
    (parts : ∀ lexeme ∈ (rest.foldl step scanner).finish, lexeme.isTreePart = true) :
    scanner.scan.acceptsAll rest = true := by
  induction rest generalizing scanner with
  | nil => rfl
  | cons char rest induction =>
      rw [List.mem_cons, not_or] at noEscape
      rw [List.foldl_cons] at parts
      have accepted : scanner.scan.accepts char = true := by
        by_contra refused
        -- The character is such a lexeme itself, or it starts a text literal, which
        -- becomes one wherever it ends.
        have noBackslash : char ≠ '\\' := fun equal => noEscape.1 equal.symm
        rcases Scan.step_of_refused plain (eq_false_of_ne_true refused) noBackslash
          scanner.position with ⟨lexeme, found, foreign⟩ | inText
        · have completed : lexeme ∈ (scanner.step char).lexemes := by simp [step, found]
          simp [parts lexeme (mem_finish completed rest)] at foreign
        · rcases @text_found (scanner.step char) [] rest inText noEscape.2 with
            ⟨lexeme, found, foreign⟩
          simp [parts lexeme found] at foreign
      have sameScan : (scanner.step char).scan = scanner.scan.next char :=
        Scan.step_next scanner.scan scanner.position char
      have onward := (Scan.step_words plain accepted scanner.position rest).1
      rw [Scan.acceptsAll, accepted, Bool.true_and, ← sameScan]
      exact induction (by rw [sameScan]; exact onward) noEscape.2 parts

end Scanner

theorem map_token?_lexemes {source : String} (accepted : Scan.gap.acceptsAll source.toList = true) :
    (lexemes source.toList).map Lexeme.token? = (tokens source).map some :=
  @Scanner.finish_foldl {} source.toList trivial accepted

theorem acceptsAll_of_lexemes {source : String} (noEscape : '\\' ∉ source.toList)
    (parts : ∀ lexeme ∈ lexemes source.toList, lexeme.isTreePart = true) :
    Scan.gap.acceptsAll source.toList = true :=
  @Scanner.acceptsAll_of_finish {} source.toList trivial noEscape parts

end Trefoil.Reader
