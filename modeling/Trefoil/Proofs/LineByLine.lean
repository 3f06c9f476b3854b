import Mathlib.Data.List.DropRight
import Trefoil.Proofs.Balance
import Trefoil.Proofs.KeepGoing
import Trefoil.Session

/-! # Typing a text line by line

A session to which a text is typed line by line does what a run of the whole text
does. The session counts parentheses line by line to tell where an input ends, and
the reader nests them. Both see the same tokens, so that each input holds some of
the trees of the text, and the inputs in their order hold all of them. -/

namespace Trefoil.Session

open Trefoil.Text Trefoil.Reader

/-! ## Lines and their tokens -/

/-- Characters that a text may have: the printable ASCII ones, tabs and line ends. -/
def isTyped (char : Char) : Bool :=
  (' ' ≤ char && char ≤ '~') || char = '\t' || char = '\n'

/-- The lines between the line feeds of a text. The last one may be empty. -/
def splitLines (text : String) : List String := (text.toList.splitOn '\n').map String.ofList

theorem joined_splitLines (text : String) : joined (splitLines text) = text := by
  have same : (joined (splitLines text)).toList = text.toList := by
    simp [joined, splitLines, Function.comp_def, List.intercalate_splitOn]
  exact String.toList_injective same

theorem mem_of_mem_splitOn {chars line : List Char} (member : line ∈ chars.splitOn '\n') :
    ∀ char ∈ line, char ∈ chars ∧ char ≠ '\n' := by
  induction chars generalizing line with
  | nil => simp_all
  | cons first chars induction =>
      rw [List.splitOn_cons_eq_if_modifyHead] at member
      have onRest {line : List Char} (inRest : line ∈ chars.splitOn '\n') :
          ∀ char ∈ line, char ∈ first :: chars ∧ char ≠ '\n' := by
        intro char inLine
        have found := induction inRest char inLine
        exact ⟨List.mem_cons_of_mem first found.1, found.2⟩
      split at member
      · rcases List.mem_cons.mp member with rfl | inRest
        · exact nofun
        · exact onRest inRest
      next notNewline =>
        -- The first character goes to the first of the other lines.
        cases lines : chars.splitOn '\n' with
        | nil => exact absurd lines (List.splitOn_ne_nil _ _)
        | cons head tail =>
            rw [lines] at member onRest
            rcases List.mem_cons.mp member with rfl | inTail
            · rw [List.forall_mem_cons]
              exact ⟨⟨by simp, by simpa using notNewline⟩, onRest (by simp)⟩
            · exact onRest (by simp [inTail])

theorem mem_of_mem_splitLines {text line : String} (member : line ∈ splitLines text) :
    ∀ char ∈ line.toList, char ∈ text.toList ∧ char ≠ '\n' := by
  rcases List.mem_map.mp member with ⟨chars, inSplit, rfl⟩
  rw [String.toList_ofList]
  exact mem_of_mem_splitOn inSplit

theorem toList_joined_cons (line other : String) (lines : List String) :
    (joined (line :: other :: lines)).toList =
      line.toList ++ '\n' :: (joined (other :: lines)).toList := by
  simp [joined]

theorem tokens_joined (lines : List String) : tokens (joined lines) = lines.flatMap tokens := by
  induction lines with
  | nil => rfl
  | cons line lines induction =>
      cases lines with
      | nil => simp [joined]
      | cons other lines =>
          rw [tokens, toList_joined_cons, words_code_newline, ← tokens, ← tokens, induction]
          rfl

theorem acceptsAll_joined (lines : List String) :
    Scan.gap.acceptsAll (joined lines).toList =
      lines.all fun line => Scan.gap.acceptsAll line.toList := by
  induction lines with
  | nil => rfl
  | cons line lines induction =>
      cases lines with
      | nil => simp [joined]
      | cons other lines =>
          rw [toList_joined_cons, Scan.acceptsAll_newline, induction]
          rfl

theorem lt_of_isTyped {char : Char} (typed : isTyped char = true) : char.toNat < 127 := by
  simp only [isTyped, Bool.or_eq_true, Bool.and_eq_true, decide_eq_true_eq, Char.le_def,
    UInt32.le_iff_toNat_le] at typed
  rcases typed with (⟨_, high⟩ | rfl) | rfl
  · exact Nat.lt_succ_of_le high
  · decide
  · decide

/-- Among the characters that may be typed, the differences between kinds of white space and
between kinds of line ends do not show. -/
theorem kinds_of_isTyped {char : Char} (typed : isTyped char = true) :
    (isSpace char = true → isBlank char = true) ∧ (char ≠ '\n' → isLineBreak char = false) := by
  have all : ∀ code : Fin 127, isTyped (Char.ofNat code) = true →
      (isSpace (Char.ofNat code) = true → isBlank (Char.ofNat code) = true) ∧
        (Char.ofNat code ≠ '\n' → isLineBreak (Char.ofNat code) = false) := by
    decide
  have one := all ⟨char.toNat, lt_of_isTyped typed⟩
  rw [Char.ofNat_toNat] at one
  exact one typed

/-! ## Depths -/

theorem lineDepth_eq {line : String} (single : '\n' ∉ line.toList) :
    lineDepth line.toList = (tokens line).count "(" - (tokens line).count ")" := by
  have opened : (tokens line).count "(" = (code false line.toList).count '(' :=
    count_words _ (.inl rfl)
  have closed : (tokens line).count ")" = (code false line.toList).count ')' :=
    count_words _ (.inr rfl)
  rw [opened, closed, (code_line single).1]
  rfl

theorem linesFrom_cons {char : Char} (unbroken : isLineBreak char = false)
    (current rest : List Char) :
    linesFrom current (char :: rest) = linesFrom (char :: current) rest := by
  have noReturn : char ≠ '\r' := by
    rintro rfl
    cases unbroken
  rw [linesFrom.eq_def]
  split
  next equal => cases equal
  next equal =>
    cases equal
    exact absurd rfl noReturn
  next equal =>
    cases equal
    rw [if_neg (by simp [unbroken])]

theorem linesFrom_append {line : List Char} (unbroken : ∀ char ∈ line, isLineBreak char = false)
    (current rest : List Char) :
    linesFrom current (line ++ rest) = linesFrom (line.reverse ++ current) rest := by
  induction line generalizing current with
  | nil => rfl
  | cons char line induction =>
      rw [List.forall_mem_cons] at unbroken
      rw [List.cons_append, linesFrom_cons unbroken.1, induction unbroken.2]
      simp

section

variable {line : List Char} (unbroken : ∀ char ∈ line, isLineBreak char = false)
include unbroken

theorem lines_newline (rest : List Char) : lines (line ++ '\n' :: rest) = line :: lines rest := by
  have broken : linesFrom line.reverse ('\n' :: rest) = line.reverse.reverse :: lines rest := rfl
  rw [lines, linesFrom_append unbroken, List.append_nil, broken, List.reverse_reverse]

theorem lines_single : lines line = if line.isEmpty then [] else [line] := by
  have whole := linesFrom_append unbroken [] []
  rw [List.append_nil, List.append_nil, linesFrom, List.isEmpty_reverse,
    List.reverse_reverse] at whole
  exact whole

end

theorem parenDepth_joined {lines : List String}
    (unbroken : ∀ line ∈ lines, ∀ char ∈ line.toList, isLineBreak char = false) :
    parenDepth (joined lines) =
      (lines.flatMap tokens).count "(" - (lines.flatMap tokens).count ")" := by
  induction lines with
  | nil => rfl
  | cons line lines induction =>
      rw [List.forall_mem_cons] at unbroken
      have single : '\n' ∉ line.toList := by
        intro member
        cases unbroken.1 _ member
      have first := lineDepth_eq single
      cases lines with
      | nil =>
          -- An empty line at the end is no line, but it would not count for anything either.
          rw [parenDepth, joined, String.intercalate_singleton, lines_single unbroken.1,
            List.flatMap_singleton, ← first]
          split
          next empty =>
            rw [List.isEmpty_iff.mp empty]
            rfl
          · exact Int.add_zero _
      | cons other lines =>
          have rest := induction unbroken.2
          have whole : (line :: other :: lines).flatMap tokens =
              tokens line ++ (other :: lines).flatMap tokens := rfl
          rw [parenDepth] at rest
          rw [parenDepth, toList_joined_cons, lines_newline unbroken.1, List.foldr_cons, rest,
            first, whole, List.count_append, List.count_append]
          omega

/-! ## Trimming -/

theorem exists_append_trimChars (drop : Char → Bool) (chars : List Char) :
    ∃ front back, chars = front ++ (trimChars drop chars ++ back) ∧
      (∀ char ∈ front, drop char = true) ∧ ∀ char ∈ back, drop char = true := by
  let tail := chars.dropWhile drop
  refine ⟨chars.takeWhile drop, (tail.reverse.takeWhile drop).reverse, ?_, ?_, ?_⟩
  · have onTail : tail = trimChars drop chars ++ (tail.reverse.takeWhile drop).reverse := by
      rw [trimChars, ← List.reverse_append, List.takeWhile_append_dropWhile, List.reverse_reverse]
    rw [← onTail, List.takeWhile_append_dropWhile]
  · exact fun char member => List.mem_takeWhile_imp member
  · intro char member
    rw [List.mem_reverse] at member
    exact List.mem_takeWhile_imp member

section

variable {text : String} (typed : ∀ char ∈ text.toList, isTyped char = true)
include typed

theorem exists_blanks_around_trim :
    ∃ front back, text.toList = front ++ ((trim text).toList ++ back) ∧
      (∀ char ∈ front, isBlank char = true) ∧ ∀ char ∈ back, isBlank char = true := by
  rcases exists_append_trimChars isSpace text.toList with ⟨front, back, split, before, behind⟩
  refine ⟨front, back, by rw [trim, String.toList_ofList, ← split], ?_, ?_⟩
  · intro char member
    exact (kinds_of_isTyped (typed char (by rw [split]; simp [member]))).1 (before char member)
  · intro char member
    exact (kinds_of_isTyped (typed char (by rw [split]; simp [member]))).1 (behind char member)

theorem tokens_trim : tokens (trim text) = tokens text := by
  rcases exists_blanks_around_trim typed with ⟨front, back, split, before, behind⟩
  rw [tokens, tokens, split, words_code_blanks_append before, words_code_append_blanks behind]

theorem acceptsAll_trim (accepted : Scan.gap.acceptsAll text.toList = true) :
    Scan.gap.acceptsAll (trim text).toList = true := by
  rcases exists_blanks_around_trim typed with ⟨front, back, split, before, _⟩
  rw [split, Scan.acceptsAll_blanks_append before, Scan.acceptsAll_append,
    Bool.and_eq_true] at accepted
  exact accepted.1

end

/-! ## Commands -/

def firstChar? (text : String) : Option Char := (text.toList.dropWhile isSpace).head?

theorem isCommand_iff {text : String} :
    isCommand text = true ↔ ['/'] <+: trimChars isSpace text.toList := by
  rw [isCommand, String.startsWith_string_iff, trim]
  simp only [String.toList_ofList, String.reduceToList]

theorem isCommand_eq_false {text : String} (other : firstChar? text ≠ some '/') :
    isCommand text = false := by
  apply eq_false_of_ne_true
  rw [isCommand_iff]
  intro command
  have begins : trimChars isSpace text.toList <+: text.toList.dropWhile isSpace :=
    List.rdropWhile_prefix isSpace _
  rcases command.trans begins with ⟨rest, equal⟩
  simp [firstChar?, ← equal] at other

theorem firstChar?_joined {lines : List String}
    (other : ∀ line ∈ lines, firstChar? line ≠ some '/') :
    firstChar? (joined lines) ≠ some '/' := by
  induction lines with
  | nil => exact nofun
  | cons line lines induction =>
      rw [List.forall_mem_cons] at other
      cases lines with
      | nil => simpa [joined] using other.1
      | cons next lines =>
          have rest := induction other.2
          rw [firstChar?] at rest other ⊢
          rw [toList_joined_cons, List.dropWhile_append]
          split
          · exact rest
          next filled =>
            rw [List.isEmpty_iff] at filled
            rw [List.head?_append_of_ne_nil _ filled]
            exact other.1

/-! ## Source lines -/

/-- A line of source text: no command, and without anything that trees have no place for. -/
structure SourceLine (line : String) : Prop where
  typed : ∀ char ∈ line.toList, isTyped char = true
  single : '\n' ∉ line.toList
  source : firstChar? line ≠ some '/'
  accepted : Scan.gap.acceptsAll line.toList = true

section

variable {lines : List String} (sources : ∀ line ∈ lines, SourceLine line)
include sources

theorem isTyped_joined : ∀ char ∈ (joined lines).toList, isTyped char = true := by
  induction lines with
  | nil => exact nofun
  | cons line lines induction =>
      rw [List.forall_mem_cons] at sources
      cases lines with
      | nil => simpa [joined] using sources.1.typed
      | cons other lines =>
          rw [toList_joined_cons, List.forall_mem_append, List.forall_mem_cons]
          exact ⟨sources.1.typed, rfl, induction sources.2⟩

theorem isUnfinished_iff :
    isUnfinished lines = true ↔
      (lines.flatMap tokens).count ")" < (lines.flatMap tokens).count "(" := by
  have source : isCommand (lines.headD "") = false := by
    apply isCommand_eq_false
    cases lines with
    | nil => exact nofun
    | cons line lines => exact (sources line (by simp)).source
  have depth := parenDepth_joined fun line member char inside =>
    (kinds_of_isTyped ((sources line member).typed char inside)).2 fun newline =>
      (sources line member).single (newline ▸ inside)
  rw [isUnfinished, source, depth]
  simp

end

/-! ## Replies -/

def Output.line? : Output → Option String
  | printed line => some line
  | prompted _ | logged _ => none

def printed (outputs : List Output) : List String := outputs.filterMap Output.line?

theorem printed_append (front back : List Output) :
    printed (front ++ back) = printed front ++ printed back :=
  List.filterMap_append

theorem printed_events {α : Type} {computation : Traced α} (noErrors : computation.errors = []) :
    printed (computation.events.map outputOfEvent) = computation.reports.map Report.text := by
  rcases computation with ⟨outcome, events⟩
  induction events with
  | nil => rfl
  | cons event events induction =>
      cases event with
      | logged record => exact induction noErrors
      | reported report => exact congrArg (report.text :: ·) (induction noErrors)
      | failed error => cases noErrors

theorem respond_source {room : Nat} {read : String → FileRead} {env : Env} {lines : List String}
    {trees : List SymbolTree} {final : RunResult} (sources : ∀ line ∈ lines, SourceLine line)
    (arranged : arrange (lines.flatMap tokens) = some trees)
    (fits : Fits room (lines.flatMap tokens))
    (runs : (runTrees room true trees { env }).outcome = .ok final)
    (complete : final.errors = []) :
    (respond room read (joined lines) env).ending = none ∧
      (respond room read (joined lines) env).env = final.env ∧
      printed (respond room read (joined lines) env).outputs =
        (runTrees room true trees { env }).reports.map Report.text := by
  have typed := isTyped_joined sources
  have sameTokens : tokens (trim (joined lines)) = lines.flatMap tokens := by
    rw [tokens_trim typed, tokens_joined]
  have accepted : Scan.gap.acceptsAll (joined lines).toList = true := by
    rw [acceptsAll_joined, List.all_eq_true]
    exact fun line member => (sources line member).accepted
  have noCommand : command? (joined lines) = none := by
    have source := firstChar?_joined fun line member => (sources line member).source
    rw [command?, isCommand_eq_false source]
    rfl
  rw [respond, noCommand]
  dsimp only
  split
  next empty =>
      -- Without tokens there are no trees.
      rw [empty] at sameTokens
      rw [← sameTokens] at arranged
      cases arranged
      cases runs
      exact ⟨rfl, rfl, rfl⟩
  · have readBack : (program room (trim (joined lines))).outcome = .ok trees := by
      rw [outcome_program_eq_ok (acceptsAll_trim typed accepted), sameTokens]
      exact ⟨arranged, fits⟩
    have same := @runSource_of_read room true _ trees env readBack
    have noErrors : (runSource room true (trim (joined lines)) env).errors = [] := by
      have told := errors_of_runTrees runs
      rw [complete] at told
      rw [Traced.errors, same.2]
      exact told.symm
    rw [runText, same.1, runs, printed_events noErrors, Traced.reports, same.2]
    exact ⟨rfl, rfl, rfl⟩

/-! ## Runs in parts -/

theorem exists_runs_of_append {room : Nat} {front back : List SymbolTree} {env : Env}
    {final : RunResult} (runs : (runTrees room true (front ++ back) { env }).outcome = .ok final)
    (complete : final.errors = []) :
    ∃ middle later, (runTrees room true front { env }).outcome = .ok middle ∧ middle.errors = [] ∧
      (runTrees room true back { env := middle.env }).outcome = .ok later ∧ later.errors = [] ∧
      later.env = final.env ∧
      (runTrees room true (front ++ back) { env }).reports =
        (runTrees room true front { env }).reports ++
          (runTrees room true back { env := middle.env }).reports := by
  have split := @runTrees_append room true front back { env } rfl
  rw [split, Traced.outcome_bind_eq_ok] at runs
  rcases runs with ⟨middle, onFront, onBack⟩
  cases halted : middle.halts true with
  | true =>
      -- The run would have stopped with the errors of the first part.
      rw [halted] at onBack
      cases onBack
      simp [RunResult.halts, complete] at halted
  | false =>
      have noErrors : middle.errors = [] := by simpa [RunResult.halts] using halted
      have alone := runTrees_after room true back middle
      rw [halted, if_neg Bool.false_ne_true, alone.1] at onBack
      cases ran : (runTrees room true back { env := middle.env }).outcome with
      | error failure => simp [ran, Except.map] at onBack
      | ok later =>
          rw [ran] at onBack
          cases onBack
          refine ⟨middle, later, onFront, noErrors, ran, ?_, rfl, ?_⟩
          · exact (List.append_eq_nil_iff.mp complete).2
          · rw [Traced.reports, split, Traced.shown_bind_of_ok onFront, halted,
              if_neg Bool.false_ne_true, alone.2, List.filterMap_append]
            rfl

/-! ## Sessions -/

theorem Transcript.after_after (first second : List Output) (transcript : Transcript) :
    (transcript.after second).after first = transcript.after (first ++ second) := by
  simp [after]

/-- What was gathered and the lines that are still to be typed hold the trees, and a run
of these is complete. -/
structure Ahead (room : Nat) (state : State) (rest : List String) (trees : List SymbolTree)
    (final : RunResult) : Prop where
  sources : ∀ line ∈ state.gathered ++ rest, SourceLine line
  unfinished : state.gathered = [] ∨ isUnfinished state.gathered = true
  arranged : arrange ((state.gathered ++ rest).flatMap tokens) = some trees
  fits : Fits room ((state.gathered ++ rest).flatMap tokens)
  runs : (runTrees room true trees { env := state.env }).outcome = .ok final
  complete : final.errors = []

namespace Ahead

variable {room : Nat} {read : String → FileRead} {state : State} {rest : List String}
  {trees : List SymbolTree} {final : RunResult}

theorem nothing (ahead : Ahead room state [] trees final) :
    state.gathered = [] ∧ final.env = state.env ∧
      (runTrees room true trees { env := state.env }).reports = [] := by
  rcases ahead with ⟨sources, unfinished, arranged, _, runs, _⟩
  rw [List.append_nil] at sources arranged
  have balanced := exists_arrange_iff.mp ⟨trees, arranged⟩
  have none : state.gathered = [] := by
    rcases unfinished with none | unfinished
    · exact none
    · rw [isUnfinished_iff sources, balanced.2] at unfinished
      exact absurd unfinished (Nat.lt_irrefl _)
  rw [none] at arranged
  cases arranged
  cases runs
  exact ⟨none, rfl, rfl⟩

/-- One more line is gathered, or it completes an input. The input holds the first trees,
and the other ones still lie ahead. -/
theorem step {line : String} {next : Step} (ahead : Ahead room state (line :: rest) trees final)
    (stepped : Session.step room read state (.line line) = next) :
    next.ending = none ∧ ∃ others last, Ahead room next.state rest others last ∧
      last.env = final.env ∧
      (runTrees room true trees { env := state.env }).reports.map Report.text =
        printed next.outputs ++
          (runTrees room true others { env := next.state.env }).reports.map Report.text := by
  rcases ahead with ⟨sources, _, arranged, fits, runs, complete⟩
  have moved : state.gathered ++ line :: rest = (state.gathered ++ [line]) ++ rest := by simp
  rw [moved] at sources arranged fits
  subst stepped
  by_cases more : isUnfinished (state.gathered ++ [line]) = true
  · have same : Session.step room read state (.line line) =
        { state := { state with gathered := state.gathered ++ [line] } } := by
      simp [Session.step, more]
    rw [same]
    exact ⟨rfl, trees, final, ⟨sources, .inr more, arranged, fits, runs, complete⟩, rfl, rfl⟩
  · have same (reply : Reply)
        (replies : respond room read (joined (state.gathered ++ [line])) state.env = reply) :
        Session.step room read state (.line line) =
          { outputs := reply.outputs, state := { env := reply.env }, ending := reply.ending } := by
      simp [Session.step, more, replies]
    rw [List.forall_mem_append] at sources
    rw [List.flatMap_append] at arranged fits
    rw [isUnfinished_iff sources.1, not_lt] at more
    -- The lines so far close what they open, so they and the other lines are read apart.
    rcases exists_arrange_of_append arranged fits more with
      ⟨first, others, rfl, ⟨arrangedFirst, fitsFirst⟩, arrangedRest, fitsRest⟩
    rcases exists_runs_of_append runs complete with
      ⟨middle, last, ranFirst, completeFirst, ranRest, completeRest, sameEnv, reports⟩
    have answered := @respond_source room read _ _ _ _ sources.1 arrangedFirst fitsFirst ranFirst
      completeFirst
    generalize replies : respond room read (joined (state.gathered ++ [line])) state.env = reply
      at answered
    rcases answered with ⟨goes, env, outputs⟩
    rw [same reply replies]
    have onward : (runTrees room true others { env := reply.env }).outcome = .ok last := by
      rw [env, ranRest]
    refine ⟨goes, others, last, ⟨sources.2, .inl rfl, arrangedRest, fitsRest, onward, completeRest⟩,
      sameEnv, ?_⟩
    rw [reports, List.map_append, outputs, env]

/-- The session reads all lines of the text, and goes on in the environment that the run
leaves. -/
theorem run (ahead : Ahead room state rest trees final) (more : List Input) :
    ∃ outputs, continueFrom room read state (rest.map .line ++ more) =
        (continueFrom room read { env := final.env } more).after outputs ∧
      printed outputs =
        (runTrees room true trees { env := state.env }).reports.map Report.text := by
  induction rest generalizing state trees final with
  | nil =>
      rcases ahead.nothing with ⟨none, env, noReports⟩
      have same : state = { env := final.env } := by
        rw [env, ← none]
      refine ⟨[], ?_, by rw [noReports]; rfl⟩
      rw [← same]
      rfl
  | cons line rest induction =>
      generalize stepped : Session.step room read state (.line line) = next
      rcases ahead.step stepped with ⟨goes, others, last, onward, sameEnv, reports⟩
      rcases induction onward with ⟨outputs, continues, onOthers⟩
      refine ⟨.prompted state.prompt :: next.outputs ++ outputs, ?_, ?_⟩
      · rw [List.map_cons, List.cons_append, continueFrom, stepped, goes]
        dsimp only
        rw [continues, sameEnv, Transcript.after_after]
      · rw [reports, ← onOthers, printed_append]
        rfl

end Ahead

theorem exists_read_of_complete {room : Nat} {stopOnError : Bool} {source : String} {env : Env}
    {result : RunResult} (runs : (runSource room stopOnError source env).outcome = .ok result)
    (complete : result.errors = []) :
    ∃ trees, (program room source).outcome = .ok trees := by
  cases reads : (program room source).outcome with
  | ok trees => exact ⟨trees, rfl⟩
  | error failure =>
      rw [runSource, Traced.outcome_bind, Traced.outcome_attempt, Traced.ok_bind, reads] at runs
      dsimp only at runs
      split at runs
      · cases runs
      · cases runs
        cases complete

/-- A text that runs without errors may as well be typed line by line. The session reads
all lines up to the end of the input, prints the same reports and nothing else, and
ends with the same environment. -/
theorem session_agrees_with_run {room : Nat} {read : String → FileRead} {env : Env}
    {text : String} {result : RunResult} {ended : List Input}
    (typed : ∀ char ∈ text.toList, isTyped char = true) (noEscape : '\\' ∉ text.toList)
    (noCommand : ∀ line ∈ splitLines text, firstChar? line ≠ some '/')
    (runs : (runSource room true text env).outcome = .ok result)
    (complete : result.status = .complete) (ends : ended = [] ∨ ended = [.finish]) :
    let transcript := start room read env ((splitLines text).map .line ++ ended)
    transcript.ending = .returned ∧ transcript.unread = 0 ∧ transcript.env = result.env ∧
      printed transcript.outputs =
        banner :: (runSource room true text env).reports.map Report.text ++ [farewell] := by
  intro transcript
  have noErrors : result.errors = [] := by
    by_contra errors
    simp [RunResult.status, errors] at complete
  rcases exists_read_of_complete runs noErrors with ⟨trees, reads⟩
  have same := @runSource_of_read room true text trees env reads
  have accepted := acceptsAll_of_read noEscape reads
  rcases (outcome_program_eq_ok accepted).mp reads with ⟨arranged, fits⟩
  have sources : ∀ line ∈ splitLines text, SourceLine line := by
    rw [← joined_splitLines text, acceptsAll_joined, List.all_eq_true] at accepted
    intro line member
    have inside := mem_of_mem_splitLines member
    exact ⟨fun char inLine => typed char (inside char inLine).1,
      fun newline => (inside _ newline).2 rfl, noCommand line member, accepted line member⟩
  rw [← joined_splitLines text, tokens_joined] at arranged fits
  have ahead : Ahead room { env } (splitLines text) trees result :=
    ⟨sources, .inl rfl, arranged, fits, same.1 ▸ runs, noErrors⟩
  rcases @Ahead.run room read _ _ _ _ ahead ended with ⟨outputs, continues, reports⟩
  have last : continueFrom room read { env := result.env } ended =
      { outputs := [.prompted prompt, .printed farewell], ending := .returned, unread := 0
        env := result.env } := by
    rcases ends with rfl | rfl <;> rfl
  have whole : transcript = _ := congrArg (Transcript.after [.printed banner]) continues
  rw [last, Transcript.after_after, Transcript.after] at whole
  rw [whole]
  dsimp only
  refine ⟨rfl, rfl, rfl, ?_⟩
  have sameReports : (runSource room true text env).reports =
      (runTrees room true trees { env }).reports := by
    rw [Traced.reports, same.2]
    rfl
  have opening : printed [.printed banner] = [banner] := rfl
  have closing : printed [.prompted prompt, .printed farewell] = [farewell] := rfl
  rw [sameReports, ← reports, printed_append, printed_append, opening, closing,
    List.singleton_append]

/-- A function is typed on three lines, one of them empty, after a definition on the first of
them. The parentheses in comments do not count. -/
theorem session_agrees_with_run_cut :
    let text := "(define x true) (define (f a) ; )\n\n\t (cons a x))\n(f nil);(\n"
    let transcript := start 9 (fun _ => .text "") .empty ((splitLines text).map .line ++ [.finish])
    transcript.ending = .returned ∧ transcript.unread = 0 ∧
      printed transcript.outputs =
        [banner, "x = true", "f is defined", "(cons nil true)", farewell] := by
  intro text transcript
  let trees : List SymbolTree :=
    [.node [.leaf "define", .leaf "x", .leaf "true"],
      .node [.leaf "define", .node [.leaf "f", .leaf "a"],
        .node [.leaf "cons", .leaf "a", .leaf "x"]],
      .node [.leaf "f", .leaf "nil"]]
  let f : FunctionDef := ⟨"f", ["a"], .cons (.var "a") (.var "x")⟩
  let result : RunResult :=
    { env := .bindFunction 1 f (.bindValue "x" (.bool true) .empty), bindingsRun := 3 }
  have sameTokens : tokens text = ["(", "define", "x", "true", ")", "(", "define", "(", "f", "a",
      ")", "(", "cons", "a", "x", ")", ")", "(", "f", "nil", ")"] := by
    decide
  have accepted : Scan.gap.acceptsAll text.toList = true := by decide
  have reads : (program 9 text).outcome = .ok trees := by
    rw [outcome_program_eq_ok accepted, sameTokens]
    exact ⟨rfl, by decide⟩
  have same := @runSource_of_read 9 true text trees .empty reads
  have runs : (runSource 9 true text .empty).outcome = .ok result := same.1
  have agrees := @session_agrees_with_run 9 (fun _ => .text "") .empty text result [.finish]
    (List.all_eq_true.mp (by decide)) (by decide) (by decide) runs rfl (.inr rfl)
  refine ⟨agrees.1, agrees.2.1, ?_⟩
  rw [agrees.2.2.2, Traced.reports, same.2]
  rfl

end Trefoil.Session
