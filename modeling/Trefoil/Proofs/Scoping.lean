import Trefoil.Evaluate
import Trefoil.Proofs.Outcome

/-! # Lexical scoping

The outcome of an expression depends on its environment through the entries of its
free names alone. Variables and functions share one space of names, so the names
of calls count as well, and a `let` hides a function as it hides a variable. The
body of a function is evaluated in the environment that its entry carries, and no
name of the caller comes into it. -/

namespace Trefoil

namespace Expr

mutual

/-- The names that an expression looks up outside itself. -/
def freeNames : Expr → List String
  | blank | int _ | bool _ | nil => []
  | var name => [name]
  | binary _ left right | cons left right => freeNames left ++ freeNames right
  | cond condition thenBranch elseBranch =>
      freeNames condition ++ freeNames thenBranch ++ freeNames elseBranch
  | letIn name bound body => freeNames bound ++ (freeNames body).filter (· ≠ name)
  | unary _ operand => freeNames operand
  | call name arguments => name :: freeNamesAll arguments
  | max first others => freeNames first ++ freeNamesAll others

def freeNamesAll : List Expr → List String
  | [] => []
  | expr :: exprs => freeNames expr ++ freeNamesAll exprs

end

theorem mem_freeNamesAll {name : String} {exprs : List Expr} :
    name ∈ freeNamesAll exprs ↔ ∃ expr ∈ exprs, name ∈ expr.freeNames := by
  induction exprs with
  | nil => simp [freeNamesAll]
  | cons expr exprs induction => simp [freeNamesAll, induction]

end Expr

namespace Env

def AgreesOn (names : List String) (env env' : Env) : Prop :=
  ∀ name ∈ names, env.lookup name = env'.lookup name

namespace AgreesOn

variable {names names' : List String} {env env' : Env}

theorem mono (agrees : AgreesOn names env env') (subset : names' ⊆ names) :
    AgreesOn names' env env' :=
  fun name member => agrees name (subset member)

theorem bindValue {name : String} {value : Expr}
    (agrees : AgreesOn (names.filter (· ≠ name)) env env') :
    AgreesOn names (.bindValue name value env) (.bindValue name value env') := by
  intro other member
  rw [lookup, lookup]
  split
  · rfl
  next different =>
      apply agrees
      simp only [List.mem_filter, member, true_and, decide_eq_true_eq]
      exact fun equal => different equal.symm

end AgreesOn

end Env

/-! ## Two runs -/

theorem Expr.outcome_largest_congr {room : Nat} {evaluate evaluate' : Expr → Traced Expr}
    {site : Expr} {position : Nat} {best : Int} {arguments : List Expr}
    (same : ∀ argument ∈ arguments,
      (evaluate argument).outcome = (evaluate' argument).outcome) :
    (largest room evaluate site position best arguments).outcome =
      (largest room evaluate' site position best arguments).outcome := by
  induction arguments generalizing position best with
  | nil => rfl
  | cons argument arguments induction =>
      rw [largest, largest]
      apply Traced.outcome_bind_congr (same argument (by simp))
      intro value _
      apply Traced.outcome_bind_congr rfl
      intro candidate _
      exact induction fun other member => same other (by simp [member])

theorem outcome_call_congr {room : Nat} {name : String} {arguments : List Expr} {env env' : Env}
    (sameEntry : env.lookup name = env'.lookup name)
    (sameValues : (Traced.each (evaluate room · env) arguments).outcome =
      (Traced.each (evaluate room · env') arguments).outcome) :
    (evaluate (room + 1) (.call name arguments) env).outcome =
      (evaluate (room + 1) (.call name arguments) env').outcome := by
  rw [evaluate, evaluate]
  apply Traced.outcome_bind_congr
  · rw [Env.outcome_functionNamed, Env.outcome_functionNamed, sameEntry]
  · rintro ⟨definition, scope⟩ _
    dsimp only
    split
    · apply Traced.outcome_bind_congr sameValues
      intro values _
      rfl
    · rfl

theorem outcome_evaluate_congr {room : Nat} {expr : Expr} {env env' : Env}
    (agrees : Env.AgreesOn expr.freeNames env env') :
    (evaluate room expr env).outcome = (evaluate room expr env').outcome := by
  -- By induction on the room: under a `let` both environments grow, and in a call the
  -- bodies are evaluated in one and the same environment.
  induction room generalizing expr env env' with
  | zero => rfl
  | succ room induction =>
      cases expr with
      | blank | int _ | bool _ | nil => rfl
      | var name =>
          have same := agrees name (by simp [Expr.freeNames])
          rw [evaluate, evaluate, Env.outcome_variableValue, Env.outcome_variableValue, same]
      | binary op left right =>
          have onLeft : Env.AgreesOn left.freeNames env env' :=
            agrees.mono (by simp [Expr.freeNames])
          have onRight : Env.AgreesOn right.freeNames env env' :=
            agrees.mono (by simp [Expr.freeNames])
          by_cases sketched : op = .blank
          · subst sketched
            rfl
          · rw [evaluate_binary sketched, evaluate_binary sketched]
            apply Traced.outcome_bind_congr (induction onLeft)
            intro leftValue _
            apply Traced.outcome_bind_congr (induction onRight)
            intro rightValue _
            rfl
      | unary op operand =>
          have onOperand : Env.AgreesOn operand.freeNames env env' :=
            agrees.mono (by simp [Expr.freeNames])
          by_cases sketched : op = .blank
          · subst sketched
            rfl
          · rw [evaluate_unary sketched, evaluate_unary sketched]
            apply Traced.outcome_bind_congr (induction onOperand)
            intro value _
            rfl
      | cond condition thenBranch elseBranch =>
          have onCondition : Env.AgreesOn condition.freeNames env env' :=
            agrees.mono (by simp [Expr.freeNames])
          have onThen : Env.AgreesOn thenBranch.freeNames env env' :=
            agrees.mono (by simp [Expr.freeNames])
          have onElse : Env.AgreesOn elseBranch.freeNames env env' :=
            agrees.mono (by simp [Expr.freeNames])
          rw [evaluate, evaluate]
          apply Traced.outcome_bind_congr (induction onCondition)
          intro value _
          apply Traced.outcome_bind_congr rfl
          intro _ _
          split
          · exact induction onElse
          · exact induction onThen
      | letIn name bound body =>
          have onBound : Env.AgreesOn bound.freeNames env env' :=
            agrees.mono (by simp [Expr.freeNames])
          have onBody : Env.AgreesOn (body.freeNames.filter (· ≠ name)) env env' :=
            agrees.mono (by simp [Expr.freeNames])
          rw [evaluate, evaluate]
          apply Traced.outcome_bind_congr (induction onBound)
          intro value _
          rw [Traced.outcome_bind, Traced.outcome_bind, Env.outcome_withValue,
            Env.outcome_withValue]
          split
          · exact induction onBody.bindValue
          · rfl
      | cons head tail =>
          have onHead : Env.AgreesOn head.freeNames env env' :=
            agrees.mono (by simp [Expr.freeNames])
          have onTail : Env.AgreesOn tail.freeNames env env' :=
            agrees.mono (by simp [Expr.freeNames])
          rw [evaluate, evaluate]
          apply Traced.outcome_bind_congr (induction onHead)
          intro headValue _
          apply Traced.outcome_bind_congr (induction onTail)
          intro tailValue _
          rfl
      | max first others =>
          have onFirst : Env.AgreesOn first.freeNames env env' :=
            agrees.mono (by simp [Expr.freeNames])
          have onOthers (other : Expr) (member : other ∈ others) :
              Env.AgreesOn other.freeNames env env' := by
            intro name free
            apply agrees
            simp only [Expr.freeNames, List.mem_append, Expr.mem_freeNamesAll]
            exact .inr ⟨other, member, free⟩
          rw [evaluate, evaluate]
          apply Traced.outcome_bind_congr (induction onFirst)
          intro value _
          apply Traced.outcome_bind_congr rfl
          intro start _
          apply Traced.outcome_bind_congr
            (Expr.outcome_largest_congr fun other member => induction (onOthers other member))
          intro best _
          rfl
      | call name arguments =>
          have onArguments (argument : Expr) (member : argument ∈ arguments) :
              Env.AgreesOn argument.freeNames env env' := by
            intro name free
            apply agrees
            simp only [Expr.freeNames, List.mem_cons, Expr.mem_freeNamesAll]
            exact .inr ⟨argument, member, free⟩
          apply outcome_call_congr (agrees name (by simp [Expr.freeNames]))
          exact Traced.outcome_each_congr fun argument member =>
            induction (onArguments argument member)

/-- The outcome of an expression is the same in environments that have the same
entries for its free names. That of a call is the same where the called name has
the same entry and the arguments have the same values. -/
theorem lexical_scoping :
    (∀ room expr env env', (∀ name ∈ expr.freeNames, env.lookup name = env'.lookup name) →
      (evaluate room expr env).outcome = (evaluate room expr env').outcome) ∧
    (∀ room name arguments env env', env.lookup name = env'.lookup name →
      (Traced.each (evaluate room · env) arguments).outcome =
        (Traced.each (evaluate room · env') arguments).outcome →
      (evaluate (room + 1) (.call name arguments) env).outcome =
        (evaluate (room + 1) (.call name arguments) env').outcome) := by
  constructor
  · intro room expr env env' agrees
    exact outcome_evaluate_congr agrees
  · intro room name arguments env env' sameEntry sameValues
    exact outcome_call_congr sameEntry sameValues

/-- The caller has a variable `x` of its own, and rebinds the `y` that the function
saw. Neither comes into the call. -/
theorem lexical_scoping_shadowed :
    let f : FunctionDef := ⟨"f", ["x"], .cons (.var "x") (.var "y")⟩
    let scope : Env := .bindFunction 1 f (.bindValue "y" (.int 1) .empty)
    let caller : Env := .bindValue "x" (.int 7) (.bindValue "y" (.int 2) scope)
    (evaluate 9 (.letIn "x" .nil (.call "f" [.var "x"])) scope).outcome =
        (evaluate 9 (.letIn "x" .nil (.call "f" [.var "x"])) caller).outcome ∧
      (evaluate 9 (.call "f" [.binary .minus (.var "y") (.var "y")]) scope).outcome =
        (evaluate 9 (.call "f" [.binary .minus (.var "y") (.var "y")]) caller).outcome :=
  ⟨lexical_scoping.1 9 _ _ _ (by decide), lexical_scoping.2 8 "f" _ _ _ (by decide) rfl⟩

end Trefoil
