import Trefoil.Proofs.Closures
import Trefoil.Proofs.MoreRoom
import Trefoil.Proofs.Printed

/-! # Functions that can be called

A function gets a name when it is defined, and a call finds it under that name. In
between stands the builder, for which a node that starts with a keyword is never a
call. Definitions do not refuse keywords, though: a function may be named like one,
and is then out of reach. All other functions can be called. -/

namespace Trefoil

theorem isName_of_built {definition : FunctionDef}
    (built : Binding.Built (.defineFunction definition)) : isName definition.name = true := by
  rcases built with ⟨room, tree, builds⟩
  have written := (Binding.ofTree_written room tree (List.Subset.refl _)).of_ok builds
  exact (written.1 definition.name List.mem_cons_self).1

theorem Expr.ne_call_of_keyword {room : Nat} {word : String} {arguments : List SymbolTree}
    {expr : Expr} (keyword : word ∈ keywords)
    (builds : (Expr.ofTree room (.node (.leaf word :: arguments))).outcome = .ok expr)
    (name : String) (others : List Expr) : expr ≠ .call name others := by
  rintro rfl
  rcases (Expr.ofTree_yields room _ (List.Subset.refl _)).of_ok builds with ⟨written, headed⟩
  have node := (Expr.every_call.mp written).1
  rw [isWrittenNode, Bool.and_eq_true, Bool.and_eq_true, Option.isNone_iff_eq_none,
    Keyword.ofToken?_eq_none_iff] at node
  rcases headed name others rfl with ⟨rest, same⟩
  cases same
  exact node.1.2 keyword

theorem Expr.outcome_ofTree_call_of_le {room roomy : Nat} {name : String}
    {arguments : List SymbolTree} {exprs : List Expr} (named : isName name = true)
    (noKeyword : name ∉ keywords)
    (accepted : (Traced.each (Expr.ofTree room) arguments).outcome = .ok exprs)
    (more : room < roomy) :
    (Expr.ofTree roomy (.node (.leaf name :: arguments))).outcome = .ok (.call name exprs) := by
  cases roomy with
  | zero => exact absurd more (Nat.not_lt_zero room)
  | succ inside =>
      have persists := Traced.persists_each arguments
        (Expr.persists_ofTree (Nat.le_of_lt_succ more))
      have same : (Traced.each (Expr.ofTree inside) arguments).outcome = .ok exprs :=
        persists.outcome_eq_ok accepted
      rw [Expr.outcome_ofTree_call named (Keyword.ofToken?_eq_none_iff.mpr noKeyword),
        Traced.outcome_bind, same]
      rfl

/-- Where a function was just defined, a call with as many arguments as it has parameters
evaluates its body, with the parameters in front of what the function sees. -/
theorem outcome_evaluate_defined {mark : Nat} {definition : FunctionDef} {outer scope : Env}
    (defined : scope = .bindFunction mark definition outer) {exprs : List Expr}
    (count : exprs.length = definition.parameters.length) (room : Nat) :
    (evaluate (room + 1) (.call definition.name exprs) scope).outcome =
      (do
        let values ← Traced.each (evaluate room · scope) exprs
        let inner ← scope.withValues room definition.parameters values
        evaluate room definition.body inner : Traced Expr).outcome := by
  have found : scope.lookup definition.name = some (.function definition scope) := by
    rw [defined, Env.lookup, if_pos rfl]
  rw [evaluate, Traced.outcome_bind, Env.outcome_functionNamed, found]
  dsimp only
  rw [Traced.ok_bind]
  dsimp only
  rw [if_pos count.symm]
  apply Traced.outcome_bind_congr rfl
  intro values _
  apply Traced.outcome_bind_congr rfl
  intro inner _
  rw [Traced.outcome_bind, Traced.outcome_log, Traced.ok_bind]

/-- A function that was defined can be called just when its name is no keyword. The builder
then takes the name with arguments for a call, and the call runs the body. Where the
name is a keyword, the builder never takes it for a call. -/
theorem callable_iff_no_keyword {room room' mark : Nat} {tree : SymbolTree}
    {definition : FunctionDef} {env scope : Env} {arguments : List SymbolTree} {exprs : List Expr}
    (built : (Binding.ofTree room tree).outcome = .ok (.defineFunction definition))
    (runs : (execute room' mark (.defineFunction definition) env).outcome = .ok scope)
    (accepted : (Traced.each (Expr.ofTree room) arguments).outcome = .ok exprs)
    (count : arguments.length = definition.parameters.length) :
    let call : SymbolTree := .node (.leaf definition.name :: arguments)
    (definition.name ∉ keywords ↔ ∀ roomy, room < roomy →
      (Expr.ofTree roomy call).outcome = .ok (.call definition.name exprs)) ∧
    (definition.name ∈ keywords → ∀ roomy expr, (Expr.ofTree roomy call).outcome = .ok expr →
      ∀ name others, expr ≠ .call name others) ∧
    ∀ roomy, (evaluate (roomy + 1) (.call definition.name exprs) scope).outcome =
      (do
        let values ← Traced.each (evaluate roomy · scope) exprs
        let inner ← scope.withValues roomy definition.parameters values
        evaluate roomy definition.body inner : Traced Expr).outcome := by
  intro call
  have named := isName_of_built ⟨room, tree, built⟩
  refine ⟨⟨?_, ?_⟩, ?_, ?_⟩
  · intro noKeyword roomy more
    exact Expr.outcome_ofTree_call_of_le named noKeyword accepted more
  · intro builds keyword
    exact Expr.ne_call_of_keyword keyword (builds (room + 1) (Nat.lt_succ_self room)) _ _ rfl
  · intro keyword roomy expr builds
    exact Expr.ne_call_of_keyword keyword builds
  · have defined : scope = .bindFunction mark definition env := extends_of_execute runs
    have sameCount := (Traced.length_eq_of_each accepted).trans count
    exact outcome_evaluate_defined defined sameCount

/-- The word `define` is a name like any other inside an expression, so a function of that
name can be called. -/
theorem callable_iff_no_keyword_named_define :
    let pair : FunctionDef := ⟨"define", ["a", "b"], .cons (.var "b") (.var "a")⟩
    let tree : SymbolTree := .node [.leaf "define",
      .node [.leaf "define", .leaf "a", .leaf "b"],
      .node [.leaf "cons", .leaf "b", .leaf "a"]]
    let call : SymbolTree := .node [.leaf "define", .leaf "1", .leaf "nil"]
    let scope : Env := .bindFunction 0 pair .empty
    (Binding.ofTree 5 tree).outcome = .ok (.defineFunction pair) ∧
      (execute 5 0 (.defineFunction pair) .empty).outcome = .ok scope ∧
      (Expr.ofTree 6 call).outcome = .ok (.call "define" [.int 1, .nil]) ∧
      (evaluate 6 (.call "define" [.int 1, .nil]) scope).outcome = .ok (.cons .nil (.int 1)) := by
  intro pair tree call scope
  have built : (Binding.ofTree 5 tree).outcome = .ok (.defineFunction pair) := rfl
  have runs : (execute 5 0 (.defineFunction pair) .empty).outcome = .ok scope := rfl
  let arguments : List SymbolTree := [.leaf "1", .leaf "nil"]
  have accepted : (Traced.each (Expr.ofTree 5) arguments).outcome = .ok [.int 1, .nil] := rfl
  rcases callable_iff_no_keyword built runs accepted rfl with ⟨callable, _, called⟩
  exact ⟨built, runs, callable.mp (by decide) 6 (by decide), (called 5).trans rfl⟩

/-- A function is defined under the name `+`, and what reads like a call of it is a sum. -/
theorem defined_keyword_is_not_called :
    let first : FunctionDef := ⟨"+", ["a", "b"], .var "a"⟩
    let tree : SymbolTree := .node [.leaf "define",
      .node [.leaf "+", .leaf "a", .leaf "b"], .leaf "a"]
    let sum : SymbolTree := .node [.leaf "+", .leaf "1", .leaf "2"]
    let scope : Env := .bindFunction 0 first .empty
    (Binding.ofTree 5 tree).outcome = .ok (.defineFunction first) ∧
      (execute 5 0 (.defineFunction first) .empty).outcome = .ok scope ∧
      (Expr.ofTree 6 sum).outcome = .ok (.binary .plus (.int 1) (.int 2)) ∧
      (evaluate 6 (.binary .plus (.int 1) (.int 2)) scope).outcome = .ok (.int 3) ∧
      (evaluate 6 (.call "+" [.int 1, .int 2]) scope).outcome = .ok (.int 1) := by
  intro first tree sum scope
  exact ⟨rfl, rfl, rfl, rfl, rfl⟩

end Trefoil
