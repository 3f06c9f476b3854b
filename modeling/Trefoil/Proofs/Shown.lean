import Trefoil.Proofs.Soundness

/-! # What is shown

Building and evaluating show nothing at all. Executing a binding shows its report, and
nothing when it fails. -/

namespace Trefoil

instance Traced.lawfulMonad : LawfulMonad Traced := LawfulMonad.mk' Traced
  (by
    rintro α ⟨outcome, events⟩
    cases outcome <;> simp [Functor.map])
  (by
    intro α β value next
    simp [bind, pure])
  (by
    rintro α β γ ⟨outcome, events⟩ next last
    cases outcome with
    | error failure => rfl
    | ok value => cases equation : (next value).outcome <;> simp [bind, equation])

open Traced

/-! ## Evaluation -/

section

variable {room : Nat} {env : Env}

theorem Expr.silent_applyBinary (op : BinaryOp) (site left right : Expr) :
    (applyBinary room op site left right).Silent := by
  unfold applyBinary
  split
  · rfl
  · rfl
  · rfl
  · rfl
  · rfl
  · exact silent_raise _ _

theorem Expr.silent_applyUnary (op : UnaryOp) (site value : Expr) :
    (applyUnary room op site value).Silent := by
  unfold applyUnary
  split
  · rfl
  · rfl
  · rfl
  · rfl
  · rfl
  · rfl
  · rfl
  · exact silent_raise _ _

theorem Expr.silent_integerArgument (position : Nat) (site value : Expr) :
    (integerArgument room position site value).Silent := by
  unfold integerArgument
  split
  · rfl
  · exact silent_raise _ _

theorem Expr.silent_largest {evaluate : Expr → Traced Expr} {site : Expr}
    (inside : ∀ expr, (evaluate expr).Silent) (position : Nat) (best : Int)
    (arguments : List Expr) :
    (largest room evaluate site position best arguments).Silent := by
  induction arguments generalizing position best with
  | nil => rfl
  | cons argument arguments induction =>
      apply (inside argument).bind
      intro value
      apply (silent_integerArgument _ _ _).bind
      intro candidate
      exact induction _ _

theorem Env.silent_variableValue (name : String) (site : Option Expr) :
    (env.variableValue room name site).Silent := by
  unfold variableValue
  split
  · rfl
  · apply Silent.log_bind
    dsimp only
    split
    · exact Silent.log_bind (silent_raise _ _)
    · exact silent_raise _ _

theorem Env.silent_functionNamed (name : String) (site : Option Expr) :
    (env.functionNamed room name site).Silent := by
  unfold functionNamed
  split
  · rfl
  · exact Silent.log_bind (silent_raise _ _)

theorem Env.silent_withValue (name : String) (value : Expr) :
    (env.withValue room name value).Silent := by
  unfold withValue
  split
  · rfl
  · exact silent_raise _ _

theorem Env.silent_withValues (names : List String) (values : List Expr) :
    (env.withValues room names values).Silent := by
  unfold withValues
  split
  · generalize names.zip values = bindings
    induction bindings generalizing env with
    | nil => rfl
    | cons binding bindings induction =>
        apply (silent_withValue _ _).bind
        intro extended
        exact induction
  · rfl

theorem Env.silent_withFunction (mark : Nat) (definition : FunctionDef) :
    (env.withFunction room mark definition).Silent := by
  unfold withFunction
  split
  · exact silent_raise _ _
  · rfl

theorem silent_evaluate (room : Nat) (expr : Expr) (env : Env) :
    (evaluate room expr env).Silent := by
  induction room generalizing expr env with
  | zero => rfl
  | succ room induction =>
      cases expr with
      | blank | int _ | bool _ | nil => rfl
      | var name => exact Env.silent_variableValue _ _
      | binary op left right =>
          by_cases sketched : op = .blank
          · subst sketched
            rfl
          · rw [evaluate_binary sketched]
            apply (induction _ _).bind
            intro leftValue
            apply (induction _ _).bind
            intro rightValue
            exact Expr.silent_applyBinary _ _ _ _
      | unary op operand =>
          by_cases sketched : op = .blank
          · subst sketched
            rfl
          · rw [evaluate_unary sketched]
            apply (induction _ _).bind
            intro value
            exact Expr.silent_applyUnary _ _ _
      | cond condition thenBranch elseBranch =>
          rw [evaluate]
          apply (induction _ _).bind
          intro value
          exact Silent.log_bind (induction _ _)
      | letIn name bound body =>
          rw [evaluate]
          apply (induction _ _).bind
          intro value
          apply (Env.silent_withValue _ _).bind
          intro inner
          exact induction _ _
      | cons head tail =>
          rw [evaluate]
          apply (induction _ _).bind
          intro headValue
          apply (induction _ _).bind
          intro tailValue
          exact silent_pure _
      | max first others =>
          rw [evaluate]
          apply (induction _ _).bind
          intro value
          apply (Expr.silent_integerArgument _ _ _).bind
          intro start
          apply (Expr.silent_largest (fun other => induction other env) _ _ _).bind
          intro best
          exact Silent.log_bind (silent_pure _)
      | call name arguments =>
          rw [evaluate]
          apply (Env.silent_functionNamed _ _).bind
          rintro ⟨definition, scope⟩
          dsimp only
          split
          · apply (silent_each _ fun argument => induction argument env).bind
            intro values
            apply (Env.silent_withValues _ _).bind
            intro inner
            exact Silent.log_bind (induction _ _)
          · exact silent_raise _ _

end

/-! ## Execution -/

namespace Traced

variable {α β : Type}

theorem Silent.errors {computation : Traced α} (silent : computation.Silent) :
    computation.errors = [] := by
  rw [Traced.errors, silent, List.filterMap_nil]

theorem errors_bind {first : Traced α} {next : α → Traced β} (start : first.errors = [])
    (rest : ∀ value, (next value).errors = []) : (first >>= next).errors = [] := by
  cases equation : first.outcome with
  | error failure => rw [errors, shown_bind_of_error equation, ← errors, start]
  | ok value =>
      rw [errors, shown_bind_of_ok equation, List.filterMap_append, ← errors, ← errors, start,
        rest value, List.append_nil]

theorem errors_report (room : Nat) (report : Report) : (Traced.report room report).errors = [] := by
  unfold Traced.report
  split <;> rfl

def FailsSilently (computation : Traced α) : Prop :=
  ∀ failure, computation.outcome = .error failure → computation.Silent

theorem Silent.failsSilently {computation : Traced α} (silent : computation.Silent) :
    computation.FailsSilently :=
  fun _ _ => silent

theorem Silent.bind_failsSilently {first : Traced α} {next : α → Traced β}
    (start : first.Silent)
    (rest : ∀ value, first.outcome = .ok value → (next value).FailsSilently) :
    (first >>= next).FailsSilently := by
  intro failure fails
  cases equation : first.outcome with
  | error reason => exact (shown_bind_of_error equation).trans start
  | ok value =>
      rw [outcome_bind, equation, ok_bind] at fails
      exact (start.shown_bind equation).trans (rest value equation failure fails)

/-- What has been reported cannot fail any more. -/
theorem report_bind_failsSilently {room : Nat} {report : Report} {next : Unit → Traced α}
    {value : α} (returns : (next ()).outcome = .ok value) :
    (Traced.report room report >>= next).FailsSilently := by
  unfold Traced.report
  split
  · intro failure fails
    have told : (happen (.reported report)).outcome = .ok () := rfl
    rw [outcome_bind, told, ok_bind, returns] at fails
    cases fails
  · have failed : (fail .tooDeep >>= next).Silent := rfl
    exact failed.failsSilently

end Traced

theorem errors_execute (room mark : Nat) (binding : Binding) (env : Env) :
    (execute room mark binding env).errors = [] := by
  cases binding with
  | blank => rfl
  | defineVariable name init =>
      apply errors_bind (silent_log _).errors
      intro _
      apply errors_bind (silent_evaluate room init env).errors
      intro value
      apply errors_bind (errors_report _ _)
      intro _
      exact (Env.silent_withValue _ _).errors
  | defineFunction definition =>
      apply errors_bind (silent_log _).errors
      intro _
      apply errors_bind (Env.silent_withFunction _ _).errors
      intro extended
      apply errors_bind (errors_report _ _)
      intro _
      rfl
  | expression expr =>
      apply errors_bind (silent_log _).errors
      intro _
      apply errors_bind (silent_evaluate room expr env).errors
      intro value
      apply errors_bind (errors_report _ _)
      intro _
      rfl
  | test expr =>
      apply errors_bind (silent_log _).errors
      intro _
      apply errors_bind (silent_evaluate room expr env).errors
      intro value
      split
      · rfl
      · exact (silent_raise _ _).errors

/-- The report of a variable comes before it is bound, but then binding it does not
fail: what an expression evaluates to in a sound environment is a value. -/
theorem execute_failsSilently {room mark : Nat} {binding : Binding} {env : Env}
    (concrete : binding.Concrete) (sound : env.Sound) :
    (execute room mark binding env).FailsSilently := by
  rcases concrete with ⟨filled, concrete⟩
  cases binding with
  | blank => exact absurd rfl filled
  | defineVariable name init =>
      have onInit : init.Concrete := concrete init (by simp [Binding.exprs])
      apply (silent_log _).bind_failsSilently
      intro _ _
      apply (silent_evaluate room init env).bind_failsSilently
      intro value evaluates
      have deep := (evaluate_ensures onInit sound).of_ok evaluates
      have binds : (env.withValue room name value).outcome = .ok (.bindValue name value env) := by
        rw [Env.outcome_withValue, if_pos (Expr.isValue_of_isDeepValue deep)]
      exact report_bind_failsSilently binds
  | defineFunction definition =>
      apply (silent_log _).bind_failsSilently
      intro _ _
      apply (Env.silent_withFunction _ _).bind_failsSilently
      intro extended _
      exact report_bind_failsSilently rfl
  | expression expr =>
      apply (silent_log _).bind_failsSilently
      intro _ _
      apply (silent_evaluate room expr env).bind_failsSilently
      intro value _
      exact report_bind_failsSilently rfl
  | test expr =>
      apply (silent_log _).bind_failsSilently
      intro _ _
      apply (silent_evaluate room expr env).bind_failsSilently
      intro value _
      apply Silent.failsSilently
      split
      · exact silent_pure _
      · exact silent_raise _ _

theorem errors_runTree (room : Nat) (tree : SymbolTree) (env : Env) :
    (runTree room tree env).errors = [] := by
  apply errors_bind (Binding.silent_ofTree room tree).errors
  intro binding
  exact errors_execute room env.size binding env

theorem runTree_failsSilently (room : Nat) (tree : SymbolTree) {env : Env} (sound : env.Sound) :
    (runTree room tree env).FailsSilently := by
  apply (Binding.silent_ofTree room tree).bind_failsSilently
  intro binding builds
  have built : binding.Built := ⟨room, tree, builds⟩
  exact execute_failsSilently built.concrete sound

end Trefoil
