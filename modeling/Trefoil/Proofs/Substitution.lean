import Trefoil.Proofs.Alike
import Trefoil.Proofs.Scoping

/-! # Substitution

A variable can be replaced by its value. Evaluating an expression where a name is
bound to a value comes to the same as evaluating, without the binding, the expression
with the value written in place of the name. This needs that the name is not called:
a value in front of a function hides it. So a `let` can be replaced by its body once
the bound expression has a value. -/

namespace Trefoil

namespace Expr

mutual

/-- The expression with a value in place of a variable. Where a `let` binds the name
again, its body stays as it is. -/
def substitute (expr : Expr) (name : String) (value : Expr) : Expr :=
  match expr with
  | blank | int _ | bool _ | nil => expr
  | var other => if other = name then value else expr
  | binary op left right => binary op (left.substitute name value) (right.substitute name value)
  | cond condition thenBranch elseBranch =>
      cond (condition.substitute name value) (thenBranch.substitute name value)
        (elseBranch.substitute name value)
  | letIn other bound body =>
      letIn other (bound.substitute name value)
        (if other = name then body else body.substitute name value)
  | cons head tail => cons (head.substitute name value) (tail.substitute name value)
  | unary op operand => unary op (operand.substitute name value)
  | call callee arguments => call callee (substituteAll arguments name value)
  | max first others => max (first.substitute name value) (substituteAll others name value)

def substituteAll (exprs : List Expr) (name : String) (value : Expr) : List Expr :=
  match exprs with
  | [] => []
  | expr :: exprs => expr.substitute name value :: substituteAll exprs name value

end

mutual

/-- The names that an expression looks up outside itself in order to call them. -/
def freeCallees : Expr → List String
  | blank | int _ | bool _ | nil | var _ => []
  | binary _ left right | cons left right => freeCallees left ++ freeCallees right
  | cond condition thenBranch elseBranch =>
      freeCallees condition ++ freeCallees thenBranch ++ freeCallees elseBranch
  | letIn name bound body => freeCallees bound ++ (freeCallees body).filter (· ≠ name)
  | unary _ operand => freeCallees operand
  | call name arguments => name :: freeCalleesAll arguments
  | max first others => freeCallees first ++ freeCalleesAll others

def freeCalleesAll : List Expr → List String
  | [] => []
  | expr :: exprs => freeCallees expr ++ freeCalleesAll exprs

end

section

variable {name : String} {value : Expr}

theorem substituteAll_eq_map (exprs : List Expr) :
    substituteAll exprs name value = exprs.map (·.substitute name value) := by
  induction exprs with
  | nil => rfl
  | cons expr exprs induction => rw [substituteAll, induction, List.map_cons]

theorem not_mem_freeCalleesAll {exprs : List Expr} :
    name ∉ freeCalleesAll exprs ↔ ∀ expr ∈ exprs, name ∉ expr.freeCallees := by
  induction exprs with
  | nil => simp [freeCalleesAll]
  | cons expr exprs induction => simp [freeCalleesAll, induction]

theorem hasBlankAll_map {change : Expr → Expr} {exprs : List Expr}
    (same : ∀ expr ∈ exprs, (change expr).hasBlank = expr.hasBlank) :
    hasBlankAll (exprs.map change) = hasBlankAll exprs := by
  induction exprs with
  | nil => rfl
  | cons expr exprs induction =>
      rw [List.map_cons, hasBlankAll, hasBlankAll, same expr (by simp),
        induction fun other member => same other (by simp [member])]

theorem hasBlank_substitute (filled : value.hasBlank = false) (expr : Expr) :
    (expr.substitute name value).hasBlank = expr.hasBlank := by
  induction expr using Expr.induction with
  | blank | int _ | bool _ | nil => rfl
  | var other =>
      rw [substitute]
      split
      · exact filled
      · rfl
  | binary op left right onLeft onRight => simp only [substitute, hasBlank, onLeft, onRight]
  | cond condition thenBranch elseBranch onCondition onThen onElse =>
      simp only [substitute, hasBlank, onCondition, onThen, onElse]
  | letIn other bound body onBound onBody =>
      rw [substitute, hasBlank, hasBlank, onBound]
      split
      · rfl
      · rw [onBody]
  | cons head tail onHead onTail => simp only [substitute, hasBlank, onHead, onTail]
  | unary op operand onOperand => simp only [substitute, hasBlank, onOperand]
  | call callee arguments onArguments =>
      rw [substitute, hasBlank, hasBlank, substituteAll_eq_map, hasBlankAll_map onArguments]
  | max first others onFirst onOthers =>
      rw [substitute, hasBlank, hasBlank, onFirst, substituteAll_eq_map, hasBlankAll_map onOthers]

end

end Expr

open Traced (Settles Grows ComesTo Alike)

/-! ## Values and places

A value means itself wherever it stands. What an operation comes to does not depend on
the expression that it is a part of, which is only mentioned in errors. -/

section

variable {value : Expr} {env : Env}

theorem grows_evaluate (expr : Expr) (env : Env) : Grows (evaluate · expr env) :=
  fun _ _ le => persists_evaluate le expr env

theorem outcome_evaluate_value {room : Nat} (deep : value.isDeepValue = true) (env : Env)
    (enough : value.depth ≤ room) : (evaluate room value env).outcome = .ok value := by
  induction value using Expr.induction generalizing room with
  | int _ | bool _ | nil =>
      cases room with
      | zero => simp [Expr.depth] at enough
      | succ room => rfl
  | cons head tail onHead onTail =>
      rw [Expr.isDeepValue, Bool.and_eq_true] at deep
      cases room with
      | zero => simp [Expr.depth] at enough
      | succ room =>
          rw [Expr.depth, Nat.succ_le_succ_iff, Nat.max_le] at enough
          rw [evaluate, Traced.outcome_bind, onHead deep.1 enough.1, Traced.ok_bind,
            Traced.outcome_bind, onTail deep.2 enough.2]
          rfl
  | _ => cases deep

theorem settles_value (deep : value.isDeepValue = true) (env : Env) :
    Settles (evaluate · value env) (.ok value) :=
  ⟨value.depth, fun _ enough => outcome_evaluate_value deep env enough⟩

variable {site site' : Expr}

theorem Expr.alike_applyBinary (blank : site.hasBlank = site'.hasBlank) (op : BinaryOp)
    (left right : Expr) :
    Alike (applyBinary · op site left right) (applyBinary · op site' left right) := by
  unfold applyBinary
  split
  · exact .refl _
  · exact .refl _
  · exact .refl _
  · exact .refl _
  · exact Traced.alike_fault _ _
  · exact Traced.alike_raise rfl (by simp [RuntimeError.exprs, blank])

theorem Expr.alike_applyUnary (blank : site.hasBlank = site'.hasBlank) (op : UnaryOp)
    (value : Expr) :
    Alike (applyUnary · op site value) (applyUnary · op site' value) := by
  unfold applyUnary
  split
  · exact .refl _
  · exact .refl _
  · exact .refl _
  · exact .refl _
  · exact .refl _
  · exact .refl _
  · exact Traced.alike_fault _ _
  · exact Traced.alike_raise rfl (by simp [RuntimeError.exprs, blank])

theorem Expr.alike_integerArgument (blank : site.hasBlank = site'.hasBlank) (position : Nat)
    (value : Expr) :
    Alike (integerArgument · position site value) (integerArgument · position site' value) := by
  unfold integerArgument
  split
  · exact .refl _
  · exact Traced.alike_raise rfl (by simp [RuntimeError.exprs, blank])

theorem Expr.alike_largest {evaluate evaluate' : Nat → Expr → Traced Expr} {change : Expr → Expr}
    {arguments : List Expr} (blank : site.hasBlank = site'.hasBlank)
    (grows : ∀ expr, Grows (evaluate · expr)) (grows' : ∀ expr, Grows (evaluate' · expr))
    (one : ∀ argument ∈ arguments, Alike (evaluate · argument) (evaluate' · (change argument)))
    (position : Nat) (best : Int) :
    Alike (fun room => largest room (evaluate room) site position best arguments)
      fun room => largest room (evaluate' room) site' position best (arguments.map change) := by
  induction arguments generalizing position best with
  | nil => exact .refl _
  | cons argument arguments induction =>
      simp only [List.map_cons, largest]
      apply Alike.bind (grows argument) (grows' (change argument)) (one argument (by simp))
      intro value
      apply Alike.bind (fun _ _ le => persists_integerArgument le _ _)
        (fun _ _ le => persists_integerArgument le _ _) (alike_integerArgument blank position value)
      intro candidate
      exact induction (fun other member => one other (by simp [member])) _ _

theorem Env.lookup_bindValue_again (name other : String) (value old : Expr) (env : Env) :
    (Env.bindValue name value (.bindValue name old env)).lookup other =
      (Env.bindValue name value env).lookup other := by
  simp only [lookup]
  split
  · rfl
  · rfl

theorem Env.lookup_bindValue_comm {name name' : String} {value value' : Expr} {env : Env}
    (different : name ≠ name') (other : String) :
    (Env.bindValue name value (.bindValue name' value' env)).lookup other =
      (Env.bindValue name' value' (.bindValue name value env)).lookup other := by
  simp only [lookup]
  split
  next named =>
      rw [if_neg]
      exact fun same => different (named.trans same.symm)
  · rfl

theorem Env.alike_functionNamed {env env' : Env} {name : String}
    (same : env.lookup name = env'.lookup name) (blank : site.hasBlank = site'.hasBlank) :
    Alike (fun room => env.functionNamed room name (some site))
      fun room => env'.functionNamed room name (some site') := by
  unfold functionNamed
  rw [same]
  split
  · exact .refl _
  · apply Alike.log_bind
    exact Traced.alike_raise rfl (by simp [RuntimeError.exprs, blank])

theorem Env.alike_withValue_bind {α : Type} {env env' : Env} {name : String}
    {next next' : Nat → Env → Traced α}
    (rest : Alike (next · (.bindValue name value env)) (next' · (.bindValue name value env'))) :
    Alike (fun room => env.withValue room name value >>= next room)
      fun room => env'.withValue room name value >>= next' room := by
  by_cases isValue : value.isValue = true
  · have bound (env : Env) (next : Nat → Env → Traced α) (room : Nat) :
        (env.withValue room name value >>= next room).outcome =
          (next room (.bindValue name value env)).outcome := by
      rw [Traced.outcome_bind, outcome_withValue, if_pos isValue, Traced.ok_bind]
    exact (Alike.of_outcome (bound env next)).trans
      (rest.trans (.of_outcome fun room => (bound env' next' room).symm))
  · apply Alike.of_outcome
    intro room
    apply Traced.outcome_bind_congr
    · rw [outcome_withValue, outcome_withValue, if_neg isValue, if_neg isValue]
    · intro extended returns
      rw [outcome_withValue, if_neg isValue] at returns
      exact absurd returns Traced.outcome_raise_ne_ok

end

/-! ## Substitution -/

theorem alike_substitute {name : String} {value : Expr} (deep : value.isDeepValue = true)
    {expr : Expr} (env : Env) (notCalled : name ∉ expr.freeCallees) :
    Alike (evaluate · expr (.bindValue name value env))
      (evaluate · (expr.substitute name value) env) := by
  have filled := (Expr.concrete_of_isDeepValue deep).hasBlank_eq_false
  have sites (site : Expr) : site.hasBlank = (site.substitute name value).hasBlank :=
    (Expr.hasBlank_substitute filled site).symm
  induction expr using Expr.induction generalizing env with
  | blank | int _ | bool _ | nil =>
      apply Alike.of_succ
      exact .refl _
  | var other =>
      rw [Expr.substitute]
      split
      next itself =>
          have found : Settles (evaluate · (.var other) (.bindValue name value env))
              (.ok value) := by
            refine ⟨1, ?_⟩
            intro room enough
            cases room with
            | zero => omega
            | succ room =>
                dsimp only
                rw [evaluate, Env.outcome_variableValue, Env.lookup, if_pos itself.symm]
          exact .of_settles found (settles_value deep env) rfl
      next different =>
          apply Alike.of_outcome
          intro room
          apply outcome_evaluate_congr
          intro free member
          rw [List.mem_singleton.mp member, Env.lookup, if_neg fun same => different same.symm]
  | binary op left right onLeft onRight =>
      rw [Expr.freeCallees, List.mem_append, not_or] at notCalled
      have blank := sites (.binary op left right)
      rw [Expr.substitute] at blank ⊢
      apply Alike.of_succ
      by_cases sketched : op = .blank
      · subst sketched
        exact Traced.alike_fault _ _
      · simp only [evaluate_binary sketched]
        apply Alike.bind (grows_evaluate _ _) (grows_evaluate _ _) (onLeft env notCalled.1)
        intro leftValue
        apply Alike.bind (grows_evaluate _ _) (grows_evaluate _ _) (onRight env notCalled.2)
        intro rightValue
        exact Expr.alike_applyBinary blank op leftValue rightValue
  | unary op operand onOperand =>
      rw [Expr.freeCallees] at notCalled
      have blank := sites (.unary op operand)
      rw [Expr.substitute] at blank ⊢
      apply Alike.of_succ
      by_cases sketched : op = .blank
      · subst sketched
        exact Traced.alike_fault _ _
      · simp only [evaluate_unary sketched]
        apply Alike.bind (grows_evaluate _ _) (grows_evaluate _ _) (onOperand env notCalled)
        intro operandValue
        exact Expr.alike_applyUnary blank op operandValue
  | cond condition thenBranch elseBranch onCondition onThen onElse =>
      simp only [Expr.freeCallees, List.mem_append, not_or] at notCalled
      rcases notCalled with ⟨⟨inCondition, inThen⟩, inElse⟩
      rw [Expr.substitute]
      apply Alike.of_succ
      simp only [evaluate]
      apply Alike.bind (grows_evaluate _ _) (grows_evaluate _ _) (onCondition env inCondition)
      intro conditionValue
      apply Alike.log_bind
      split
      · exact onElse env inElse
      · exact onThen env inThen
  | letIn other bound body onBound onBody =>
      rw [Expr.freeCallees, List.mem_append, not_or] at notCalled
      rw [Expr.substitute]
      apply Alike.of_succ
      simp only [evaluate]
      apply Alike.bind (grows_evaluate _ _) (grows_evaluate _ _) (onBound env notCalled.1)
      intro boundValue
      apply Env.alike_withValue_bind
      split
      next again =>
          -- The body sees the inner binding only.
          apply Alike.of_outcome
          intro room
          apply outcome_evaluate_congr
          intro free _
          rw [again, Env.lookup_bindValue_again]
      next different =>
          have inBody : name ∉ body.freeCallees := by
            intro member
            apply notCalled.2
            rw [List.mem_filter]
            exact ⟨member, decide_eq_true fun same => different same.symm⟩
          refine Alike.trans (.of_outcome ?_) (onBody (.bindValue other boundValue env) inBody)
          intro room
          apply outcome_evaluate_congr
          intro free _
          exact Env.lookup_bindValue_comm different free
  | cons head tail onHead onTail =>
      rw [Expr.freeCallees, List.mem_append, not_or] at notCalled
      rw [Expr.substitute]
      apply Alike.of_succ
      simp only [evaluate]
      apply Alike.bind (grows_evaluate _ _) (grows_evaluate _ _) (onHead env notCalled.1)
      intro headValue
      apply Alike.bind (grows_evaluate _ _) (grows_evaluate _ _) (onTail env notCalled.2)
      intro tailValue
      exact .refl _
  | max first others onFirst onOthers =>
      rw [Expr.freeCallees, List.mem_append, not_or, Expr.not_mem_freeCalleesAll] at notCalled
      have blank := sites (.max first others)
      rw [Expr.substitute, Expr.substituteAll_eq_map] at blank ⊢
      apply Alike.of_succ
      simp only [evaluate]
      apply Alike.bind (grows_evaluate _ _) (grows_evaluate _ _) (onFirst env notCalled.1)
      intro firstValue
      apply Alike.bind (fun _ _ le => Expr.persists_integerArgument le _ _)
        (fun _ _ le => Expr.persists_integerArgument le _ _)
        (Expr.alike_integerArgument blank 1 firstValue)
      intro start
      have onRest (other : Expr) (member : other ∈ others) :=
        onOthers other member env (notCalled.2 other member)
      apply Alike.bind
        (fun _ _ le => Expr.persists_largest le (fun other => persists_evaluate le other _) _ _ _)
        (fun _ _ le => Expr.persists_largest le (fun other => persists_evaluate le other _) _ _ _)
        (Expr.alike_largest blank (grows_evaluate · _) (grows_evaluate · _) onRest 2 start)
      intro best
      apply Alike.log_bind
      exact .refl _
  | call callee arguments onArguments =>
      rw [Expr.freeCallees, List.mem_cons, not_or, Expr.not_mem_freeCalleesAll] at notCalled
      have blank := sites (.call callee arguments)
      rw [Expr.substitute, Expr.substituteAll_eq_map] at blank ⊢
      have sameEntry : (Env.bindValue name value env).lookup callee = env.lookup callee := by
        rw [Env.lookup, if_neg notCalled.1]
      apply Alike.of_succ
      simp only [evaluate, List.length_map]
      apply Alike.bind (fun _ _ le => Env.persists_functionNamed le _ _)
        (fun _ _ le => Env.persists_functionNamed le _ _) (Env.alike_functionNamed sameEntry blank)
      rintro ⟨definition, scope⟩
      dsimp only
      split
      · have onEach (argument : Expr) (member : argument ∈ arguments) :=
          onArguments argument member env (notCalled.2 argument member)
        apply Alike.bind (Traced.grows_each (grows_evaluate · _) _)
          (Traced.grows_each (grows_evaluate · _) _)
          (Traced.alike_each (grows_evaluate · _) (grows_evaluate · _) onEach)
        intro values
        -- From here on, neither the caller nor its environment is seen.
        exact .refl _
      · exact Traced.alike_raise rfl (by simp [RuntimeError.exprs, blank])

/-! ## Answers -/

def Expr.HasValue (expr : Expr) (env : Env) (value : Expr) : Prop :=
  ∃ room, (evaluate room expr env).outcome = .ok value

/-- With enough room, the expression ends in a runtime error that is summed up so. -/
def Expr.HasError (expr : Expr) (env : Env) (summary : String) : Prop :=
  ∃ room error, (evaluate room expr env).outcome = .error (.program (.atRuntime error)) ∧
    error.summary = summary

/-- The two expressions, each in its environment, have the same values and the same
errors. -/
def SameAnswers (expr : Expr) (env : Env) (expr' : Expr) (env' : Env) : Prop :=
  (∀ value, expr.HasValue env value ↔ expr'.HasValue env' value) ∧
    ∀ summary, expr.HasError env summary ↔ expr'.HasError env' summary

theorem comesTo_ok_iff {expr : Expr} {env : Env} {value : Expr} :
    ComesTo (evaluate · expr env) (.ok value) ↔ expr.HasValue env value := by
  rw [(grows_evaluate expr env).comesTo_iff]
  simp [Traced.ending_eq_ok, Expr.HasValue]

theorem comesTo_mistake_iff {expr : Expr} {env : Env} {summary : String} :
    ComesTo (evaluate · expr env) (.error (.mistake summary)) ↔ expr.HasError env summary := by
  rw [(grows_evaluate expr env).comesTo_iff]
  simp [Traced.ending_eq_mistake, Expr.HasError]

theorem Traced.Alike.sameAnswers {expr expr' : Expr} {env env' : Env}
    (alike : Alike (evaluate · expr env) (evaluate · expr' env')) :
    SameAnswers expr env expr' env' := by
  constructor
  · intro value
    rw [← comesTo_ok_iff, alike, comesTo_ok_iff]
  · intro summary
    rw [← comesTo_mistake_iff, alike, comesTo_mistake_iff]

theorem alike_letIn {name : String} {bound body value : Expr} {env : Env}
    (isValue : value.isValue = true) (hasValue : bound.HasValue env value) :
    Alike (evaluate · (.letIn name bound body) env)
      (evaluate · body (.bindValue name value env)) := by
  have settled := comesTo_ok_iff.mpr hasValue
  have onBody : Alike
      (fun room => env.withValue room name value >>= fun inner => evaluate room body inner)
      (evaluate · body (.bindValue name value env)) := by
    apply Alike.of_outcome
    intro room
    rw [Traced.outcome_bind, Env.outcome_withValue, if_pos isValue, Traced.ok_bind]
  intro ending
  rw [← ComesTo.succ_iff]
  simp only [evaluate]
  rw [ComesTo.bind_iff (grows_evaluate bound env), ← onBody]
  constructor
  · rintro (⟨gist, fails, _⟩ | ⟨other, returns, ends⟩)
    · cases fails.unique settled
    · cases returns.unique settled
      exact ends
  · intro ends
    exact .inr ⟨value, settled, ends⟩

/-- Where a name is bound to a value, an expression that does not call it has the same
answers as the expression with the value in its place has without the binding. So has
a `let` that binds the name to an expression with this value. -/
theorem substitution_keeps_answers {expr value : Expr} {name : String} {env : Env}
    (deep : value.isDeepValue = true) (notCalled : name ∉ expr.freeCallees) :
    (∀ room, (env.withValue room name value).outcome = .ok (.bindValue name value env)) ∧
    SameAnswers expr (.bindValue name value env) (expr.substitute name value) env ∧
    ∀ bound : Expr, bound.HasValue env value →
      SameAnswers (.letIn name bound expr) env (expr.substitute name value) env := by
  have isValue := Expr.isValue_of_isDeepValue deep
  have alike := alike_substitute deep env notCalled
  refine ⟨?_, alike.sameAnswers, ?_⟩
  · intro room
    rw [Env.outcome_withValue, if_pos isValue]
  · intro bound hasValue
    exact ((alike_letIn isValue hasValue).trans alike).sameAnswers

/-- The function sees an `x` of its own, and the inner `let` hides the `x` that is
replaced. -/
theorem substitution_keeps_answers_shadowed :
    let pair : FunctionDef := ⟨"pair", ["y"], .cons (.var "y") (.var "x")⟩
    let env : Env := .bindFunction 1 pair (.bindValue "x" (.int 5) .empty)
    let value : Expr := .cons (.int 1) .nil
    let expr : Expr := .cons (.call "pair" [.unary .car (.var "x")])
      (.letIn "x" (.unary .cdr (.var "x")) (.unary .isNil (.var "x")))
    expr.substitute "x" value = .cons (.call "pair" [.unary .car value])
        (.letIn "x" (.unary .cdr value) (.unary .isNil (.var "x"))) ∧
      (Expr.letIn "x" (.cons (.binary .minus (.var "x") (.int 4)) .nil) expr).HasValue env
        (.cons (.cons (.int 1) (.int 5)) (.bool true)) := by
  intro pair env value expr
  have answers := @substitution_keeps_answers expr value "x" env rfl (by decide)
  have hasValue : (Expr.cons (.binary .minus (.var "x") (.int 4)) .nil).HasValue env value :=
    ⟨9, rfl⟩
  have substituted : (expr.substitute "x" value).HasValue env
      (.cons (.cons (.int 1) (.int 5)) (.bool true)) := ⟨9, rfl⟩
  exact ⟨rfl, ((answers.2.2 _ hasValue).1 _).mpr substituted⟩

end Trefoil
