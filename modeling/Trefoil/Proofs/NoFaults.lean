import Trefoil.Proofs.MoreRoom
import Trefoil.Proofs.WaysToRun

/-! # Runs without faults

Without double quotes and backslashes in it, and with numerals that can be read, a
source is always run to a result. Whatever fails on the way, in the reader, in
building a form or in executing it, is told as an error of that result. -/

namespace Trefoil

open Traced

/-- A run tells the failure as an error, and goes on to its result. -/
def Failure.IsTold (failure : Failure) : Prop :=
  ∃ error, failure.programError? = some error

theorem Failure.IsSyntax.isTold {failure : Failure} (inSyntax : failure.IsSyntax) :
    failure.IsTold := by
  rcases inSyntax with ⟨error, rfl⟩
  exact ⟨.inSyntax error, rfl⟩

theorem Failure.IsRuntime.isTold {failure : Failure} (runtime : failure.IsRuntime) :
    failure.IsTold := by
  rcases runtime.told with ⟨reason, told, _⟩
  exact ⟨.atRuntime reason, told⟩

/-! ## The reader -/

namespace Reader

open Trefoil.Text

def Lexeme.isWhole : Lexeme → Bool
  | unfinishedText | unfinishedEscape => false
  | opening _ | closing _ _ | quote _ | atom _ | text _ => true

namespace Scan

def mayEnd : Scan → Bool
  | gap | comment | atom _ => true
  | atomEscape _ | text _ | textEscape _ => false

theorem start_whole {char : Char} (noText : char ≠ doubleQuote) (noEscape : char ≠ '\\')
    (position : Nat) :
    (start position char).2.mayEnd = true ∧
      ∀ lexeme ∈ (start position char).1, lexeme.isWhole = true := by
  generalize same : start position char = started
  unfold start at same
  split_ifs at same <;> subst same <;> simp [mayEnd, Lexeme.isWhole]

theorem step_whole {scan : Scan} {char : Char} (ends : scan.mayEnd = true)
    (noText : char ≠ doubleQuote) (noEscape : char ≠ '\\') (position : Nat) :
    (scan.step position char).2.mayEnd = true ∧
      ∀ lexeme ∈ (scan.step position char).1, lexeme.isWhole = true := by
  have started := start_whole noText noEscape position
  cases scan with
  | atomEscape _ | text _ | textEscape _ => cases ends
  | gap => simpa [step] using started
  | comment =>
      refine ⟨?_, by simp [step]⟩
      by_cases newline : char = '\n' <;> simp [step, newline, mayEnd]
  | atom chars =>
      by_cases finished : endsAtom char = true
      · simpa [step, finished, finishedAtom, Lexeme.isWhole] using started
      · simp [step, finished, noEscape, mayEnd]

end Scan

namespace Scanner

def Whole (scanner : Scanner) : Prop :=
  scanner.scan.mayEnd = true ∧ ∀ lexeme ∈ scanner.lexemes, lexeme.isWhole = true

theorem Whole.step {scanner : Scanner} {char : Char} (whole : scanner.Whole)
    (noText : char ≠ doubleQuote) (noEscape : char ≠ '\\') : (scanner.step char).Whole := by
  rcases Scan.step_whole whole.1 noText noEscape scanner.position with ⟨ends, completed⟩
  refine ⟨ends, ?_⟩
  intro lexeme member
  rcases List.mem_append.mp member with new | old
  · exact completed lexeme (List.mem_reverse.mp new)
  · exact whole.2 lexeme old

theorem Whole.foldl {scanner : Scanner} {chars : List Char} (whole : scanner.Whole)
    (noText : doubleQuote ∉ chars) (noEscape : '\\' ∉ chars) :
    (chars.foldl Scanner.step scanner).Whole := by
  induction chars generalizing scanner with
  | nil => exact whole
  | cons char chars induction =>
      rw [List.mem_cons, not_or] at noText noEscape
      exact induction (whole.step (Ne.symm noText.1) (Ne.symm noEscape.1)) noText.2 noEscape.2

theorem Whole.finish {scanner : Scanner} (whole : scanner.Whole) :
    ∀ lexeme ∈ scanner.finish, lexeme.isWhole = true := by
  intro lexeme member
  rcases List.mem_append.mp member with completed | last
  · exact whole.2 lexeme (List.mem_reverse.mp completed)
  · have ends := whole.1
    cases equation : scanner.scan with
    | gap | comment => simp [equation, Scan.finish] at last
    | atom chars =>
        rw [equation, Scan.finish, List.mem_singleton] at last
        rw [last]
        rfl
    | atomEscape _ | text _ | textEscape _ =>
        rw [equation] at ends
        cases ends

end Scanner

theorem lexemes_whole {source : List Char} (noText : doubleQuote ∉ source)
    (noEscape : '\\' ∉ source) : ∀ lexeme ∈ lexemes source, lexeme.isWhole = true := by
  have start : Scanner.Whole {} := ⟨rfl, nofun⟩
  exact (start.foldl noText noEscape).finish

def NestingError.isTold : NestingError → Bool
  | unfinishedText | unfinishedEscape => false
  | unclosed _ _ | strayCloser _ | danglingQuote _ | tooDeep => true

theorem NestingError.isTold_failure {error : NestingError} (told : error.isTold = true)
    (source : String) : (error.failure source).IsTold := by
  cases error with
  | unfinishedText | unfinishedEscape => cases told
  | unclosed _ _ | strayCloser _ | danglingQuote _ | tooDeep => exact ⟨_, rfl⟩

theorem bind_eq_error {ε α β : Type} {first : Except ε α} {next : α → Except ε β} {reason : ε}
    (fails : (first >>= next) = .error reason) :
    first = .error reason ∨ ∃ value, first = .ok value ∧ next value = .error reason := by
  cases first with
  | error reason =>
      cases fails
      exact .inl rfl
  | ok value => exact .inr ⟨value, rfl, fails⟩

theorem isTold_of_settle {room : Nat} {levels : List Level} {forms : List Form}
    {error : NestingError} (fails : settle room levels forms = .error error) :
    error.isTold = true := by
  fun_induction settle room levels forms with
  | case1 | case2 => cases fails
  | case3 =>
      cases fails
      rfl
  | case4 _ _ _ _ _ _ _ induction => exact induction fails

namespace Reading

variable {reading : Reading} {error : NestingError}

theorem isTold_of_enter {opener : Opener} (fails : reading.enter opener = .error error) :
    error.isTold = true := by
  unfold enter at fails
  split at fails <;> cases fails
  rfl

theorem isTold_of_close {bracket : Bracket} {position : Nat}
    (fails : reading.close bracket position = .error error) : error.isTold = true := by
  rcases bind_eq_error fails with unsettled | ⟨settled, _, fails⟩
  · exact isTold_of_settle unsettled
  · split at fails
    next =>
        cases fails
        rfl
    next opened before levels _ =>
        split at fails <;> cases fails
        rfl

theorem isTold_of_step {lexeme : Lexeme} (whole : lexeme.isWhole = true)
    (fails : reading.step lexeme = .error error) : error.isTold = true := by
  cases lexeme with
  | atom _ | text _ => cases fails
  | unfinishedText | unfinishedEscape => cases whole
  | opening _ | quote _ => exact isTold_of_enter fails
  | closing bracket position => exact isTold_of_close fails

theorem isTold_of_foldlM {lexemes : List Lexeme}
    (whole : ∀ lexeme ∈ lexemes, lexeme.isWhole = true)
    (fails : lexemes.foldlM step reading = .error error) : error.isTold = true := by
  induction lexemes generalizing reading with
  | nil => cases fails
  | cons lexeme lexemes induction =>
      rw [List.forall_mem_cons] at whole
      rw [List.foldlM_cons] at fails
      rcases bind_eq_error fails with stuck | ⟨next, _, fails⟩
      · exact isTold_of_step whole.1 stuck
      · exact induction whole.2 fails

theorem isTold_of_finish (fails : reading.finish = .error error) : error.isTold = true := by
  rcases bind_eq_error fails with unsettled | ⟨settled, _, fails⟩
  · exact isTold_of_settle unsettled
  · split at fails <;> cases fails
    rfl

end Reading

theorem isTold_of_program {room : Nat} {source : String} {failure : Failure}
    (noText : doubleQuote ∉ source.toList) (noEscape : '\\' ∉ source.toList)
    (fails : (program room source).outcome = .error failure) : failure.IsTold := by
  cases nests : forms room source.toList with
  | error error =>
      rw [outcome_program_of_error nests] at fails
      cases fails
      apply NestingError.isTold_failure
      rcases bind_eq_error nests with stuck | ⟨reading, _, unfinished⟩
      · exact Reading.isTold_of_foldlM (lexemes_whole noText noEscape) stuck
      · exact Reading.isTold_of_finish unfinished
  | ok forms =>
      rw [program, outcome_bind, outcome_log, ok_bind, nests] at fails
      dsimp only at fails
      split at fails <;> cases fails
      exact ⟨_, rfl⟩

end Reader

/-! ## Tokens of trees -/

theorem Tree.flatten_subset_of_mem {tree : SymbolTree} {trees : List SymbolTree}
    (member : tree ∈ trees) : tree.flatten ⊆ flattenAll trees := by
  rcases List.append_of_mem member with ⟨front, back, rfl⟩
  intro token found
  simp [flattenAll_append, flattenAll, found]

theorem Tree.tokens_subset_flatten (tree : SymbolTree) : tree.tokens ⊆ tree.flatten := by
  induction tree using Tree.induction with
  | leaf token => exact List.Subset.refl _
  | foreign value => cases value
  | node children induction =>
      intro token found
      rw [tokens, mem_tokensAll] at found
      rcases found with ⟨child, member, inside⟩
      have among := flatten_subset_of_mem member (induction child member inside)
      simp [flatten, among]

theorem Reader.tokens_subset_of_program {room : Nat} {source : String} {trees : List SymbolTree}
    (noEscape : '\\' ∉ source.toList) (read : (program room source).outcome = .ok trees)
    {tree : SymbolTree} (member : tree ∈ trees) : tree.tokens ⊆ tokens source := by
  have accepted := acceptsAll_of_read noEscape read
  have flat := flattenAll_of_arrange ((outcome_program_eq_ok accepted).mp read).1
  intro token found
  rw [← flat]
  exact Tree.flatten_subset_of_mem member (tree.tokens_subset_flatten found)

/-! ## Forms -/

theorem Binding.isTold_of_ofTree {room : Nat} {tree : SymbolTree} {failure : Failure}
    (short : ShortNumerals tree.tokens)
    (fails : (Binding.ofTree room tree).outcome = .error failure) : failure.IsTold := by
  by_cases tooDeep : failure = .tooDeep
  · rw [tooDeep]
    exact ⟨_, rfl⟩
  · -- The failure is not for lack of room, so it is the same where there is enough.
    let roomy := room + tree.height + 1
    have enough : (Binding.ofTree room tree).outcome ≠ .error .tooDeep := by
      rw [fails]
      intro equal
      exact tooDeep (Except.error.inj equal)
    have same : Binding.ofTree roomy tree = Binding.ofTree room tree :=
      Binding.persists_ofTree (by omega) tree enough
    have within : tree.Within roomy := ⟨by omega, short⟩
    rw [← same] at fails
    have builds := Binding.builds_ofTree (Nat.le_refl roomy) tree (List.Subset.refl _)
    exact (builds.isSyntax_of_error within fails).isTold

theorem isTold_of_runTree {room : Nat} {tree : SymbolTree} {env : Env} {failure : Failure}
    (short : ShortNumerals tree.tokens) (sound : env.Sound)
    (fails : (runTree room tree env).outcome = .error failure) : failure.IsTold := by
  rw [runTree, outcome_bind] at fails
  cases built : (Binding.ofTree room tree).outcome with
  | error reason =>
      rw [built] at fails
      cases fails
      exact Binding.isTold_of_ofTree short built
  | ok binding =>
      rw [built, ok_bind] at fails
      have concrete : binding.Concrete := Binding.Built.concrete ⟨room, tree, built⟩
      exact ((execute_ensures concrete sound).of_error fails).isTold

theorem exists_result_of_runTrees {room : Nat} {trees : List SymbolTree} {env : Env}
    (short : ∀ tree ∈ trees, ShortNumerals tree.tokens) (sound : env.Sound)
    (stopOnError : Bool) :
    ∃ result, (runTrees room stopOnError trees { env }).outcome = .ok result := by
  cases ran : (runTrees room stopOnError trees { env }).outcome with
  | ok result => exact ⟨result, rfl⟩
  | error failure =>
      rcases faultsAmong_of_error (by cases stopOnError <;> rfl) ran with
        ⟨front, tree, back, before, fault, rfl, runs, _, faults⟩
      have soundBefore : before.env.Sound := sound.of_runTrees runs
      rcases isTold_of_runTree (short tree (by simp)) soundBefore faults with ⟨error, told⟩
      cases told

/-! ## Sources -/

/-- The source has nothing in it that could be at fault. -/
structure Harmless (source : String) : Prop where
  noText : Text.doubleQuote ∉ source.toList
  noEscape : '\\' ∉ source.toList
  short : ShortNumerals (Reader.tokens source)

theorem Harmless.exists_result {source : String} {env : Env} (harmless : Harmless source)
    (sound : env.Sound) (room : Nat) (stopOnError : Bool) :
    ∃ result, (runSource room stopOnError source env).outcome = .ok result := by
  cases read : (Reader.program room source).outcome with
  | ok trees =>
      have short (tree : SymbolTree) (member : tree ∈ trees) : ShortNumerals tree.tokens :=
        harmless.short.mono (Reader.tokens_subset_of_program harmless.noEscape read member)
      rcases @exists_result_of_runTrees room trees env short sound stopOnError with ⟨result, runs⟩
      exact ⟨result, (runSource_of_read read).1.trans runs⟩
  | error failure =>
      rcases Reader.isTold_of_program harmless.noText harmless.noEscape read with ⟨error, told⟩
      exact ⟨_, (runSource_of_unread read told).1⟩

/-- Running a source returns a result. If the source cannot be read, the result is that
nothing was run: it has one error, and the environment is the one from before. -/
theorem runSource_returns {room : Nat} {source : String} {env : Env}
    (noText : Text.doubleQuote ∉ source.toList) (noEscape : '\\' ∉ source.toList)
    (short : ShortNumerals (Reader.tokens source)) (reachable : env.Reachable)
    (stopOnError : Bool) :
    ∃ result, (runSource room stopOnError source env).outcome = .ok result ∧
      ∀ failure, (Reader.program room source).outcome = .error failure →
        ∃ error, failure.programError? = some error ∧ result.bindingsRun = 0 ∧
          result.errors = [error] ∧ result.env = env ∧
          (runSource room stopOnError source env).reports = [] := by
  have harmless : Harmless source := ⟨noText, noEscape, short⟩
  rcases harmless.exists_result reachable.sound room stopOnError with ⟨result, returned⟩
  refine ⟨result, returned, ?_⟩
  intro failure unread
  rcases Reader.isTold_of_program noText noEscape unread with ⟨error, told⟩
  have ran := @runSource_of_unread room stopOnError source env failure error unread told
  rw [ran.1] at returned
  cases returned
  refine ⟨error, told, rfl, rfl, rfl, ?_⟩
  rw [Traced.reports, ran.2]
  rfl

/-- A quote with nothing to quote, and a bracket that closes a parenthesis. -/
theorem runSource_returns_unread :
    let source := "(f '] ;'"
    Text.doubleQuote ∉ source.toList ∧ '\\' ∉ source.toList ∧
      ShortNumerals (Reader.tokens source) ∧ Env.Reachable .empty ∧
      ∃ result, (runSource 9 false source .empty).outcome = .ok result ∧
        result.bindingsRun = 0 ∧ result.errors = [.inSyntax (.danglingQuote source 3)] ∧
        result.env = .empty ∧ (runSource 9 false source .empty).reports = [] := by
  intro source
  have noText : Text.doubleQuote ∉ source.toList := by decide
  have noEscape : '\\' ∉ source.toList := by decide
  have short : ShortNumerals (Reader.tokens source) := .of_length (by decide)
  have dangles : Reader.forms 9 "(f '] ;'".toList = .error (.danglingQuote 3) := by cbv
  have unread := Reader.outcome_program_of_error dangles
  rcases @runSource_returns 9 source .empty noText noEscape short .empty false with
    ⟨result, returned, nothingRun⟩
  rcases nothingRun _ unread with ⟨error, told, rest⟩
  cases told
  exact ⟨noText, noEscape, short, .empty, result, returned, rest⟩

end Trefoil
