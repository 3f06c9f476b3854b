import Trefoil.Proofs.KeepGoing
import Trefoil.Proofs.RoundTrip
import Trefoil.Proofs.Substitution

/-! # Values as source

The text of a deep value has no names in it, so it is read and built as the value
whatever is bound, and evaluating the value gives the value again. Evaluation ends in
deep values, even where expressions that are not evaluated are sketches. -/

namespace Trefoil

open Traced

/-! ## Texts of values -/

namespace Expr

variable {value : Expr}

theorem written_of_isDeepValue (deep : value.isDeepValue = true) : value.Written [] := by
  induction value using Expr.induction with
  | int value => exact every_int.mpr deep
  | bool value => exact every_bool.mpr rfl
  | nil => exact every_nil.mpr rfl
  | cons head tail onHead onTail =>
      rw [isDeepValue, Bool.and_eq_true] at deep
      exact every_cons.mpr ⟨rfl, onHead deep.1, onTail deep.2⟩
  | _ => cases deep

theorem height_toTree_lt_depth (deep : value.isDeepValue = true) :
    value.toTree.height < value.depth := by
  induction value using Expr.induction with
  | int _ | nil => exact Nat.zero_lt_one
  | bool value => cases value <;> exact Nat.zero_lt_one
  | cons head tail onHead onTail =>
      rw [isDeepValue, Bool.and_eq_true] at deep
      have lowerHead := onHead deep.1
      have lowerTail := onTail deep.2
      simp only [toTree, Tree.height, Tree.heightAll, depth]
      grind
  | _ => cases deep

theorem outcome_program_value {room : Nat} (deep : value.isDeepValue = true)
    (enough : value.depth ≤ room) :
    (Reader.program room value.text).outcome = .ok [value.toTree] := by
  have plain : value.toTree.Plain := plain_toTree (by simp) (written_of_isDeepValue deep)
  have lower := height_toTree_lt_depth deep
  have read := @Reader.outcome_program [value.toTree] room (by simpa using plain)
    (by simp; omega)
  rwa [List.map_singleton, String.intercalate_singleton, text_toTree] at read

theorem outcome_ofSource_value {room : Nat} (deep : value.isDeepValue = true)
    (enough : value.depth ≤ room) : (Expr.ofSource room value.text).outcome = .ok value := by
  rw [Expr.ofSource, Reader.single, outcome_bind, outcome_bind, outcome_program_value deep enough]
  exact outcome_ofTree_toTree (written_of_isDeepValue deep)
    (Nat.lt_of_lt_of_le (height_toTree_lt_depth deep) enough)

end Expr

theorem runTree_value {room : Nat} {value : Expr} (deep : value.isDeepValue = true)
    (enough : value.depth ≤ room) (env : Env) :
    (runTree room value.toTree env).outcome = .ok env ∧
      (runTree room value.toTree env).shown = [.reported (.result value)] := by
  have written : Binding.Written [] (.expression value) := by
    refine ⟨Expr.written_of_isDeepValue deep, ?_⟩
    rintro name arguments rfl
    cases deep
  have builds : (Binding.ofTree room value.toTree).outcome = .ok (.expression value) :=
    Binding.outcome_ofTree_toTree written
      (Nat.lt_of_lt_of_le (Expr.height_toTree_lt_depth deep) enough)
  have evaluates := outcome_evaluate_value deep env enough
  have reports : Traced.report room (.result value) = happen (.reported (.result value)) := by
    simp [Traced.report, Report.exprs, enough]
  constructor
  · rw [runTree, outcome_bind, builds, ok_bind, execute, outcome_bind, outcome_log, ok_bind,
      outcome_bind, evaluates, ok_bind, reports]
    rfl
  · rw [runTree, (Binding.silent_ofTree room _).shown_bind builds, execute,
      (silent_log _).shown_bind (outcome_log _),
      (silent_evaluate room value env).shown_bind evaluates, reports]
    rfl

theorem runSource_value {room : Nat} {value : Expr} (deep : value.isDeepValue = true)
    (enough : value.depth ≤ room) (stopOnError : Bool) (env : Env) :
    (runSource room stopOnError value.text env).outcome = .ok { env, bindingsRun := 1 } ∧
      (runSource room stopOnError value.text env).reports = [.result value] := by
  have runs := @runSource_of_read room stopOnError _ _ env (Expr.outcome_program_value deep enough)
  rcases runTree_value deep enough env with ⟨outcome, shown⟩
  constructor
  · rw [runs.1, outcome_runTrees_cons, outcome]
    rfl
  · rw [Traced.reports, runs.2, shown_runTrees_cons, outcome, shown]
    rfl

/-- What an expression evaluates to is read back from its text. In any environment, it
evaluates to itself, and its text runs with the report of it. -/
theorem values_read_back {env : Env} {expr value : Expr} {room : Nat} (reachable : env.Reachable)
    (ranged : expr.Ranged) (evaluates : (evaluate room expr env).outcome = .ok value)
    {enough : Nat} (fits : value.depth ≤ enough) (other : Env) :
    (Expr.ofSource enough value.text).outcome = .ok value ∧
      (evaluate enough value other).outcome = .ok value ∧
      ∀ stopOnError, (runSource enough stopOnError value.text other).outcome =
          .ok { env := other, bindingsRun := 1 } ∧
        (runSource enough stopOnError value.text other).reports = [.result value] := by
  have deep : value.isDeepValue = true := (evaluate_yields ranged reachable.sound).of_ok evaluates
  exact ⟨Expr.outcome_ofSource_value deep fits, outcome_evaluate_value deep other fits,
    fun stopOnError => runSource_value deep fits stopOnError other⟩

/-- The branch that is not taken is a sketch, and the sum wraps. Where the value is read
back, `nil` is bound to something else and `cons` is a function. -/
theorem values_read_back_rebound :
    let expr : Expr := .cond (.bool true)
      (.cons (.binary .plus (.int 2147483647) (.int 1)) (.cons .nil (.bool true))) .blank
    let value : Expr := .cons (.int (-2147483648)) (.cons .nil (.bool true))
    let text := "(cons -2147483648 (cons nil true))"
    let other : Env := .bindValue "nil" (.int 1) (.bindFunction 0 ⟨"cons", [], .nil⟩ .empty)
    Env.Reachable .empty ∧ expr.Ranged ∧ (evaluate 4 expr .empty).outcome = .ok value ∧
      value.depth ≤ 3 ∧ value.text = text ∧ (Expr.ofSource 3 text).outcome = .ok value ∧
      (evaluate 3 value other).outcome = .ok value ∧
      (runSource 3 true text other).reports = [.result value] := by
  intro expr value text other
  have ranged : expr.Ranged := by decide
  have evaluates : (evaluate 4 expr .empty).outcome = .ok value := rfl
  have fits : value.depth ≤ 3 := by decide
  have written : value.text = text := by decide
  have back := values_read_back .empty ranged evaluates fits other
  rw [written] at back
  exact ⟨.empty, ranged, evaluates, fits, written, back.1, back.2.1, (back.2.2 true).2⟩

end Trefoil
