import Trefoil.Proofs.NoFaults

/-! # Faults of source text

A source faults in no more than three ways: it ends inside a text literal, it ends
behind a backslash, or it has a numeral with too many digits. All else that goes wrong
with it is told as an error. -/

namespace Trefoil

open Traced

def Fault.isOfText : Fault → Bool
  | unfinishedText | unfinishedEscape | numeralTooLong _ => true
  | _ => false

def Failure.isOfText : Failure → Bool
  | program _ | tooDeep => true
  | fault reason => reason.isOfText

theorem Failure.IsTold.isOfText {failure : Failure} (told : failure.IsTold) :
    failure.isOfText = true := by
  rcases told with ⟨error, told⟩
  cases failure with
  | program _ | tooDeep => rfl
  | fault fault => cases told

/-- Nothing but the text is at fault where the computation fails. -/
def Traced.BlamesText {α : Type} (computation : Traced α) : Prop :=
  computation.Ensures (fun _ => True) fun failure => failure.isOfText = true

/-! ## The reader -/

theorem Reader.blamesText_program (room : Nat) (source : String) :
    (program room source).BlamesText := by
  unfold BlamesText Ensures
  cases nests : forms room source.toList with
  | error error =>
      rw [outcome_program_of_error nests]
      cases error <;> rfl
  | ok forms =>
      rw [program, outcome_bind, outcome_log, ok_bind, nests]
      dsimp only
      split
      next => trivial
      next failure fails =>
          split at fails <;> cases fails
          rfl

/-! ## Forms -/

theorem Unbuilt.isOfText {within grammatical : Prop} {failure : Failure}
    (unbuilt : Unbuilt within grammatical failure) : failure.isOfText = true := by
  cases unbuilt <;> rfl

/-! ## Runs -/

theorem blamesText_runTree {room : Nat} {env : Env} (tree : SymbolTree) (sound : env.Sound) :
    (runTree room tree env).BlamesText := by
  have builds := (Binding.builds_ofTree (Nat.le_refl room) tree (List.Subset.refl _)).ensures
  apply (builds.mono (fun _ holds => holds.2) fun _ unbuilt => unbuilt.isOfText).bind
  intro binding written
  exact (execute_ensures written.concrete sound).mono (fun _ _ => trivial)
    fun _ atRuntime => atRuntime.isTold.isOfText

theorem exists_fault_of_runTrees {room : Nat} {stopOnError : Bool} {trees : List SymbolTree}
    {result : RunResult} {failure : Failure} (sound : result.env.Sound)
    (fails : (runTrees room stopOnError trees result).outcome = .error failure) :
    ∃ fault, failure = .fault fault ∧ fault.isOfText = true := by
  induction trees generalizing result with
  | nil => cases fails
  | cons tree trees induction =>
      rw [outcome_runTrees_cons] at fails
      cases ran : (runTree room tree result.env).outcome with
      | ok env =>
          rw [ran] at fails
          exact @induction (result.succeeding env) (sound.of_runTree ran) fails
      | error reason =>
          rw [ran] at fails
          cases reason with
          | fault fault =>
              cases fails
              exact ⟨fault, rfl, (blamesText_runTree tree sound).of_error ran⟩
          | program _ | tooDeep =>
              cases stopOnError with
              | true => cases fails
              | false => exact @induction { result with errors := result.errors ++ [_] } sound fails

theorem exists_fault_of_runSource {room : Nat} {stopOnError : Bool} {source : String} {env : Env}
    {failure : Failure} (sound : env.Sound)
    (fails : (runSource room stopOnError source env).outcome = .error failure) :
    ∃ fault, failure = .fault fault ∧ fault.isOfText = true := by
  cases read : (Reader.program room source).outcome with
  | ok trees =>
      rw [(runSource_of_read read).1] at fails
      exact @exists_fault_of_runTrees room stopOnError trees { env } failure sound fails
  | error reason =>
      rw [runSource, outcome_bind, outcome_attempt, ok_bind, read] at fails
      cases reason with
      | program _ | tooDeep => cases fails
      | fault fault =>
          cases fails
          exact ⟨fault, rfl, (Reader.blamesText_program room source).of_error read⟩

end Trefoil
