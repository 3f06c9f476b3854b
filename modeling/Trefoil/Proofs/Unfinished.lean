import Trefoil.Proofs.LineByLine

/-! # Unfinished input

A session counts parentheses to tell whether an input is finished, and knows nothing
of tokens or trees. The count agrees with the reader all the same. It is zero where
the text can be read, and where the reader misses closing parentheses, it is the
number of those that are missing. -/

namespace Trefoil

namespace Reader

open Trefoil.Text

/-! ## What the reader says -/

def Reads (room : Nat) (source : String) : Prop :=
  ∃ trees, (program room source).outcome = .ok trees

def LeavesOpen (room : Nat) (source : String) : Prop :=
  ∃ error, (program room source).outcome = .error (.program (.inSyntax error)) ∧
    error.diagnostic.summary = "Syntax error: unbalanced parentheses."

section

variable {room : Nat} {source : String} (accepted : Scan.gap.acceptsAll source.toList = true)
include accepted

theorem reads_iff :
    Reads room source ↔ Balanced (tokens source) ∧ Fits room (tokens source) := by
  simp only [Reads, outcome_program_eq_ok accepted, exists_and_right, exists_arrange_iff]

theorem leavesOpen_iff :
    LeavesOpen room source ↔ ¬ Overcloses (tokens source) ∧
      (tokens source).count "(" ≠ (tokens source).count ")" ∧ Fits room (tokens source) := by
  constructor
  · rintro ⟨error, fails, summary⟩
    rcases @outcome_program_of_accepted room source accepted with
      ⟨trees, _, _, read⟩ | ⟨_, rest, stray⟩ | ⟨sane, differ, unclosed⟩ | ⟨_, tooDeep⟩
    · rw [read] at fails
      cases fails
    · rw [stray] at fails
      cases fails
      simp [SyntaxError.diagnostic, Diagnostic.ofSource] at summary
    · exact ⟨sane, differ, fits_of_unclosed accepted unclosed⟩
    · rw [tooDeep] at fails
      cases fails
  · rintro ⟨sane, differ, fits⟩
    rcases @outcome_program_of_accepted room source accepted with
      ⟨trees, arranged, _⟩ | ⟨overcloses, _⟩ | ⟨_, _, unclosed⟩ | ⟨tight, _⟩
    · exact absurd (exists_arrange_iff.mp ⟨trees, arranged⟩).2 differ
    · exact absurd overcloses sane
    · exact ⟨_, unclosed, rfl⟩
    · exact absurd fits tight

end

/-! ## Closing what is open -/

def closers (count : Nat) : String := String.ofList (List.replicate count ')')

theorem tokens_closers (count : Nat) : tokens (closers count) = List.replicate count ")" := by
  rw [tokens, closers, String.toList_ofList]
  induction count with
  | zero => rfl
  | succ count induction =>
      rw [List.replicate_succ, code_of_ne (by decide)]
      have first := @words_append_cons ')' [] (code false (List.replicate count ')')) (by decide)
      rw [List.nil_append] at first
      rw [first, induction]
      rfl

section

variable {front : List String}

theorem count_closers (front : List String) (count : Nat) :
    (front ++ List.replicate count ")").count "(" = front.count "(" ∧
      (front ++ List.replicate count ")").count ")" = front.count ")" + count := by
  simp [List.count_append, List.count_replicate]

theorem prefix_closers {start : List String} {count : Nat}
    (begins : start <+: front ++ List.replicate count ")") :
    start <+: front ∨ ∃ fewer ≤ count, start = front ++ List.replicate fewer ")" := by
  rcases List.prefix_or_prefix_of_prefix begins (List.prefix_append front _) with
    within | ⟨rest, rfl⟩
  · exact .inl within
  · rw [List.prefix_append_right_inj, List.prefix_replicate_iff] at begins
    exact .inr ⟨rest.length, begins.1, congrArg (front ++ ·) begins.2⟩

theorem balanced_closers_iff (count : Nat) :
    Balanced (front ++ List.replicate count ")") ↔
      ¬ Overcloses front ∧ front.count "(" = front.count ")" + count := by
  rw [Balanced, (count_closers front count).1, (count_closers front count).2]
  apply and_congr_left
  intro closed
  constructor
  · rintro sane ⟨start, begins, more⟩
    exact sane ⟨start, begins.trans (List.prefix_append front _), more⟩
  · rintro sane ⟨start, begins, more⟩
    rcases prefix_closers begins with within | ⟨fewer, few, rfl⟩
    · exact sane ⟨start, within, more⟩
    · rw [(count_closers front fewer).1, (count_closers front fewer).2] at more
      omega

theorem Fits.closers {room : Nat} (fits : Fits room front) (count : Nat) :
    Fits room (front ++ List.replicate count ")") := by
  intro start begins
  rcases prefix_closers begins with within | ⟨fewer, _, rfl⟩
  · exact fits start within
  · have bound := fits front (List.prefix_refl front)
    rw [(count_closers front fewer).1, (count_closers front fewer).2]
    omega

end

/-- A text that leaves parentheses open can be read with closing parentheses on a further
line, if these are as many as it leaves open. -/
theorem reads_closers_iff {room : Nat} {source : String}
    (unmarked : ∀ char ∈ source.toList, char ∉ [doubleQuote, apostrophe, '\\', '[', ']'])
    (opens : LeavesOpen room source) (count : Nat) :
    Reads room (source ++ "\n" ++ closers count) ↔
      (tokens source).count "(" = (tokens source).count ")" + count := by
  have accepted : Scan.gap.acceptsAll source.toList = true :=
    Scan.acceptsAll_of_unmarked trivial unmarked
  rcases (leavesOpen_iff accepted).mp opens with ⟨sane, _, fits⟩
  have acceptedClosers : Scan.gap.acceptsAll (closers count).toList = true := by
    refine @Scan.acceptsAll_of_unmarked .gap _ trivial ?_
    intro char member
    rw [closers, String.toList_ofList] at member
    rw [List.eq_of_mem_replicate member]
    decide
  have chars : (source ++ "\n" ++ closers count).toList =
      source.toList ++ '\n' :: (closers count).toList := by
    simp
  have acceptedWhole : Scan.gap.acceptsAll (source ++ "\n" ++ closers count).toList = true := by
    rw [chars, Scan.acceptsAll_newline, accepted, acceptedClosers]
    rfl
  have sameTokens : tokens (source ++ "\n" ++ closers count) =
      tokens source ++ List.replicate count ")" := by
    rw [← tokens_closers, tokens, chars, words_code_newline]
    rfl
  rw [reads_iff acceptedWhole, sameTokens, balanced_closers_iff, and_iff_left (fits.closers count),
    and_iff_right sane]

end Reader

namespace Session

open Trefoil.Text Trefoil.Reader

/-! ## The count of a session -/

theorem parenDepth_eq {text : String}
    (newlines : ∀ char ∈ text.toList, isLineBreak char = true → char = '\n') :
    parenDepth text = (tokens text).count "(" - (tokens text).count ")" := by
  have unbroken : ∀ line ∈ splitLines text, ∀ char ∈ line.toList, isLineBreak char = false := by
    intro line member char inside
    rcases mem_of_mem_splitLines member char inside with ⟨inText, noNewline⟩
    apply eq_false_of_ne_true
    intro breaks
    exact noNewline (newlines char inText breaks)
  have depth := parenDepth_joined unbroken
  rwa [← tokens_joined, joined_splitLines] at depth

/-- The depth of a text tells what the reader says to it. It is zero for a text that can
be read. For a text that leaves parentheses open it is the number of closing ones that
make it a text that can be read. So a session goes on with an input that is not a command
as long as the reader finds it unfinished, and never with one that can be read. -/
theorem depth_agrees_with_reader {room : Nat} {text : String}
    (unmarked : ∀ char ∈ text.toList, char ∉ [doubleQuote, apostrophe, '\\', '[', ']'])
    (newlines : ∀ char ∈ text.toList, isLineBreak char = true → char = '\n') :
    (Reads room text → parenDepth text = 0) ∧
    (LeavesOpen room text → 0 < parenDepth text ∧
      ∀ count : Nat, Reads room (text ++ "\n" ++ closers count) ↔ count = parenDepth text) ∧
    (parenDepth text ≤ 0 → ¬ LeavesOpen room text) ∧
    ∀ gathered, joined gathered = text →
      (LeavesOpen room text → isCommand (gathered.headD "") = false →
        isUnfinished gathered = true) ∧
      (Reads room text → isUnfinished gathered = false) := by
  have accepted : Scan.gap.acceptsAll text.toList = true :=
    Scan.acceptsAll_of_unmarked trivial unmarked
  have depth := parenDepth_eq newlines
  have complete : Reads room text → parenDepth text = 0 := by
    intro reads
    rw [depth, ((reads_iff accepted).mp reads).1.2]
    exact Int.sub_self _
  have positive : LeavesOpen room text → 0 < parenDepth text := by
    intro opens
    rcases (leavesOpen_iff accepted).mp opens with ⟨sane, differ, _⟩
    have least := count_le_of_not_overcloses sane (List.prefix_refl _)
    omega
  refine ⟨complete, ?_, ?_, ?_⟩
  · intro opens
    refine ⟨positive opens, ?_⟩
    intro count
    rw [reads_closers_iff unmarked opens, depth]
    omega
  · intro closed opens
    exact absurd (positive opens) (Int.not_lt.mpr closed)
  · rintro gathered rfl
    constructor
    · intro opens source
      rw [isUnfinished, source, decide_eq_true (positive opens)]
      rfl
    · intro reads
      simp [isUnfinished, complete reads]

/-- Parentheses in comments do not count, and two are missing. A stray one leaves a text
with a depth of zero that cannot be read, though not for a parenthesis that stays open. -/
theorem depth_agrees_with_reader_commented :
    let text := "(define (f a) ; (\n (+ a ;))"
    (LeavesOpen 3 text ∧ parenDepth text = 2 ∧ Reads 3 (text ++ "\n" ++ closers 2) ∧
      ¬ Reads 3 (text ++ "\n" ++ closers 1) ∧
      isUnfinished ["(define (f a) ; (", " (+ a ;))"] = true) ∧
    parenDepth ") (" = 0 ∧ ¬ LeavesOpen 3 ") (" := by
  intro text
  have unmarked {source : String}
      (checked : source.toList.all (· ∉ [doubleQuote, apostrophe, '\\', '[', ']']) = true) :
      ∀ char ∈ source.toList, char ∉ [doubleQuote, apostrophe, '\\', '[', ']'] := by
    simpa only [List.all_eq_true, decide_eq_true_eq] using checked
  have newlines {source : String}
      (checked : source.toList.all (fun char => !isLineBreak char || char = '\n') = true) :
      ∀ char ∈ source.toList, isLineBreak char = true → char = '\n' := by
    intro char member breaks
    simpa [breaks] using List.all_eq_true.mp checked char member
  have agrees := @depth_agrees_with_reader 3 text (unmarked (by decide)) (newlines (by decide))
  have stray := @depth_agrees_with_reader 3 ") (" (unmarked (by decide)) (newlines (by decide))
  have depth : parenDepth text = 2 := by decide
  have opens : LeavesOpen 3 text :=
    (leavesOpen_iff (Scan.acceptsAll_of_unmarked trivial (unmarked (by decide)))).mpr (by decide)
  have closing := (agrees.2.1 opens).2
  refine ⟨⟨opens, depth, (closing 2).mpr depth.symm, ?_, ?_⟩, by decide, stray.2.2.1 (by decide)⟩
  · rw [closing, depth]
    decide
  · exact (agrees.2.2.2 _ (by decide)).1 opens (isCommand_eq_false (by decide))

end Session

end Trefoil
