import Trefoil.Proofs.Built
import Trefoil.Proofs.Numerals

/-! # Trees of expressions

The text of an expression is the text of a tree, and so is that of a binding. What
was built from some tree is built from this one as well: the two differ at most in
how they spell integers. -/

namespace Trefoil

namespace Expr

mutual

/-- The tree whose text is that of the expression. -/
def toTree : Expr → SymbolTree
  | blank => .leaf ""
  | int value => .leaf (toString value)
  | bool true => .leaf "true"
  | bool false => .leaf "false"
  | nil => .leaf "nil"
  | var name => .leaf name
  | binary op left right => .node [.leaf op.symbol, toTree left, toTree right]
  | cond condition thenBranch elseBranch =>
      .node [.leaf "if", toTree condition, toTree thenBranch, toTree elseBranch]
  | letIn name bound body =>
      .node [.leaf "let", .node [.node [.leaf name, toTree bound]], toTree body]
  | cons head tail => .node [.leaf "cons", toTree head, toTree tail]
  | unary op operand => .node [.leaf op.symbol, toTree operand]
  | call name arguments => .node (.leaf name :: toTrees arguments)
  | max first others => .node (.leaf "max" :: toTree first :: toTrees others)

def toTrees : List Expr → List SymbolTree
  | [] => []
  | expr :: exprs => toTree expr :: toTrees exprs

end

theorem toTrees_eq_map (exprs : List Expr) : toTrees exprs = exprs.map toTree := by
  induction exprs with
  | nil => rfl
  | cons expr exprs induction => rw [toTrees, induction, List.map_cons]

theorem texts_eq_map (exprs : List Expr) : texts exprs = exprs.map text := by
  induction exprs with
  | nil => rfl
  | cons expr exprs induction => rw [texts, induction, List.map_cons]

theorem text_toTree (expr : Expr) : expr.toTree.text = expr.text := by
  induction expr using Expr.induction with
  | blank | int _ | nil | var _ => rfl
  | bool value => cases value <;> rfl
  | binary op left right onLeft onRight =>
      simp [toTree, text, onLeft, onRight]
  | cond condition thenBranch elseBranch onCondition onThen onElse =>
      simp [toTree, text, onCondition, onThen, onElse]
  | letIn name bound body onBound onBody =>
      simp [toTree, text, onBound, onBody]
  | cons head tail onHead onTail =>
      simp [toTree, text, onHead, onTail]
  | unary op operand onOperand =>
      simp [toTree, text, onOperand]
  | call name arguments onArguments =>
      have inside : (arguments.map toTree).map Tree.text = arguments.map text := by
        rw [List.map_map]
        exact List.map_congr_left onArguments
      rw [toTree, text, Tree.text_node, toTrees_eq_map, texts_eq_map, List.map_cons, inside,
        Tree.text_leaf]
  | max first others onFirst onOthers =>
      have inside : (others.map toTree).map Tree.text = others.map text := by
        rw [List.map_map]
        exact List.map_congr_left onOthers
      rw [toTree, text, Tree.text_node, toTrees_eq_map, texts_eq_map, List.map_cons,
        List.map_cons, inside, onFirst, Tree.text_leaf]

end Expr

namespace Binding

def toTree : Binding → SymbolTree
  | blank => .leaf ""
  | defineVariable name init => .node [.leaf "define", .leaf name, init.toTree]
  | defineFunction definition =>
      .node [.leaf "define", .node (.leaf definition.name :: definition.parameters.map .leaf),
        definition.body.toTree]
  | expression expr => expr.toTree
  | test expr => .node [.leaf "test", expr.toTree]

theorem text_toTree (binding : Binding) : binding.toTree.text = binding.text := by
  cases binding with
  | blank => rfl
  | defineVariable name init =>
      simp [toTree, text, Expr.text_toTree]
  | defineFunction definition =>
      simp [toTree, text, FunctionDef.text, Expr.text_toTree, Function.comp_def]
  | expression expr => exact expr.text_toTree
  | test expr => simp [toTree, text, Expr.text_toTree]

end Binding

/-! ## Building again -/

section

variable {tokens : List String} {room : Nat}

theorem Expr.outcome_ofToken_of_isName {name : String} (named : isName name = true) :
    (Expr.ofToken name).outcome = .ok (.var name) := by
  rw [isName, Bool.and_eq_true, decide_eq_true_eq, decide_eq_true_eq] at named
  rw [Expr.ofToken, named.1, named.2]
  rfl

theorem Expr.outcome_ofTree_keyword {token : String} {keyword : Keyword}
    (found : Keyword.ofToken? token = some keyword) (arguments : List SymbolTree) :
    (Expr.ofTree (room + 1) (.node (.leaf token :: arguments))).outcome =
      (keywordForm (Expr.ofTree room) keyword token arguments
        (.node (.leaf token :: arguments))).outcome := by
  rw [Expr.ofTree, Keyword.ofHead?, found]
  rfl

theorem Expr.outcome_ofTree_call {name : String} (named : isName name = true)
    (noKeyword : Keyword.ofToken? name = none) (arguments : List SymbolTree) :
    (Expr.ofTree (room + 1) (.node (.leaf name :: arguments))).outcome =
      (do
        let exprs ← Traced.each (Expr.ofTree room) arguments
        return Expr.call name exprs : Traced Expr).outcome := by
  rw [Expr.ofTree, Keyword.ofHead?, noKeyword]
  dsimp only [Option.map_none]
  rw [callForm, calleeName]
  simp [outcome_ofToken_of_isName named]

theorem BinaryOp.keyword_symbol {op : BinaryOp} (filled : op ≠ .blank) :
    Keyword.ofToken? op.symbol = some (.binary op) := by
  cases op with
  | blank => exact absurd rfl filled
  | _ => rfl

theorem UnaryOp.keyword_symbol {op : UnaryOp} (filled : op ≠ .blank) :
    Keyword.ofToken? op.symbol = some (.unary op) := by
  cases op with
  | blank => exact absurd rfl filled
  | _ => rfl

theorem Expr.outcome_ofTree_toTree {expr : Expr} (written : expr.Written tokens)
    (deep : expr.toTree.height < room) : (Expr.ofTree room expr.toTree).outcome = .ok expr := by
  -- By induction on the room, as trees are built; a tree that fits has children that
  -- fit in one level less.
  induction room generalizing expr with
  | zero => omega
  | succ room induction =>
      cases expr with
      | blank =>
          have node : isWrittenNode tokens .blank = true := every_blank.mp written
          cases node
      | int value =>
          have within : Integer.inRange value = true := every_int.mp written
          rw [toTree, Expr.ofTree, Expr.ofToken, Integer.ofToken_toString within]
          rfl
      | bool value => cases value <;> rfl
      | nil => rfl
      | var name =>
          have node : isWrittenNode tokens (.var name) = true := every_var.mp written
          rw [isWrittenNode, Bool.and_eq_true] at node
          exact outcome_ofToken_of_isName node.1
      | binary op left right =>
          rcases every_binary.mp written with ⟨_, leftWritten, rightWritten⟩
          have filled := written.concrete.binary_filled
          rw [toTree] at deep ⊢
          have lower (child : SymbolTree) := @Tree.height_lt_of_mem_of_lt _ child _ _ deep
          have onLeft := induction leftWritten (lower _ (by simp))
          have onRight := induction rightWritten (lower _ (by simp))
          rw [outcome_ofTree_keyword (BinaryOp.keyword_symbol filled)]
          simp [keywordForm, onLeft, onRight]
      | unary op operand =>
          rcases every_unary.mp written with ⟨_, operandWritten⟩
          have filled := written.concrete.unary_filled
          rw [toTree] at deep ⊢
          have lower (child : SymbolTree) := @Tree.height_lt_of_mem_of_lt _ child _ _ deep
          have onOperand := induction operandWritten (lower _ (by simp))
          rw [outcome_ofTree_keyword (UnaryOp.keyword_symbol filled)]
          simp [keywordForm, onOperand]
      | cond condition thenBranch elseBranch =>
          rcases every_cond.mp written with ⟨_, conditionWritten, thenWritten, elseWritten⟩
          rw [toTree] at deep ⊢
          have lower (child : SymbolTree) := @Tree.height_lt_of_mem_of_lt _ child _ _ deep
          have onCondition := induction conditionWritten (lower _ (by simp))
          have onThen := induction thenWritten (lower _ (by simp))
          have onElse := induction elseWritten (lower _ (by simp))
          have found : Keyword.ofToken? "if" = some .cond := rfl
          rw [outcome_ofTree_keyword found]
          simp [keywordForm, onCondition, onThen, onElse]
      | letIn name bound body =>
          rcases every_letIn.mp written with ⟨_, boundWritten, bodyWritten⟩
          rw [toTree] at deep ⊢
          have lower (child : SymbolTree) := @Tree.height_lt_of_mem_of_lt _ child _ _ deep
          -- Two more levels of parentheses stand around what is bound.
          let pair : SymbolTree := .node [.leaf name, bound.toTree]
          have outer : (Tree.node [pair]).height < room := lower _ (by simp [pair])
          have middle : pair.height < (Tree.node [pair]).height := Tree.height_lt_of_mem (by simp)
          have inner : bound.toTree.height < pair.height := Tree.height_lt_of_mem (by simp)
          have onBound := induction boundWritten (by omega)
          have onBody := induction bodyWritten (lower _ (by simp))
          have found : Keyword.ofToken? "let" = some .letIn := rfl
          rw [outcome_ofTree_keyword found]
          simp [keywordForm, letForm, onBound, onBody]
      | cons head tail =>
          rcases every_cons.mp written with ⟨_, headWritten, tailWritten⟩
          rw [toTree] at deep ⊢
          have lower (child : SymbolTree) := @Tree.height_lt_of_mem_of_lt _ child _ _ deep
          have onHead := induction headWritten (lower _ (by simp))
          have onTail := induction tailWritten (lower _ (by simp))
          have found : Keyword.ofToken? "cons" = some .cons := rfl
          rw [outcome_ofTree_keyword found]
          simp [keywordForm, onHead, onTail]
      | call name arguments =>
          rcases every_call.mp written with ⟨node, argumentsWritten⟩
          rw [isWrittenNode, Bool.and_eq_true, Bool.and_eq_true, Option.isNone_iff_eq_none] at node
          rw [toTree, toTrees_eq_map] at deep ⊢
          have lower (child : SymbolTree) := @Tree.height_lt_of_mem_of_lt _ child _ _ deep
          have onArguments : (Traced.each (Expr.ofTree room) (arguments.map toTree)).outcome =
              .ok arguments := by
            apply Traced.outcome_each_map_eq_ok
            intro argument member
            apply induction (argumentsWritten argument member)
            exact lower _ (by simp [List.mem_map_of_mem member])
          rw [outcome_ofTree_call node.1.1 node.1.2]
          simp [onArguments]
      | max first others =>
          rcases every_max.mp written with ⟨_, firstWritten, othersWritten⟩
          rw [toTree, toTrees_eq_map] at deep ⊢
          have lower (child : SymbolTree) := @Tree.height_lt_of_mem_of_lt _ child _ _ deep
          have onFirst := induction firstWritten (lower _ (by simp))
          have onOthers : (Traced.each (Expr.ofTree room) (others.map toTree)).outcome =
              .ok others := by
            apply Traced.outcome_each_map_eq_ok
            intro other member
            apply induction (othersWritten other member)
            exact lower _ (by simp [List.mem_map_of_mem member])
          have found : Keyword.ofToken? "max" = some .max := rfl
          rw [outcome_ofTree_keyword found]
          simp [keywordForm, onFirst, onOthers]

/-! ### Bindings -/

theorem outcome_definableName_of_isName {name : String} (named : isName name = true)
    (tree : SymbolTree) : (definableName tree (.leaf name)).outcome = .ok name := by
  rw [definableName, Traced.outcome_bind, Expr.outcome_ofToken_of_isName named]
  rfl

theorem Binding.ofTree_of_expression {tree : SymbolTree}
    (noDefine : ∀ rest, tree ≠ .node (.leaf "define" :: rest))
    (noTest : ∀ rest, tree ≠ .node (.leaf "test" :: rest)) :
    Binding.ofTree room tree = (do
      let expr ← Expr.ofTree room tree
      return .expression expr) := by
  unfold Binding.ofTree
  split
  · exact absurd rfl (noDefine _)
  · exact absurd rfl (noDefine _)
  · exact absurd rfl (noTest _)
  · exact absurd rfl (noTest _)
  · rfl

/-- The word at the head of an expression's tree is a keyword, or a function that
is called. -/
theorem Expr.head_of_toTree {expr : Expr} {word : String} {rest : List SymbolTree}
    (concrete : expr.Concrete) (equal : expr.toTree = .node (.leaf word :: rest)) :
    (∃ arguments, expr = .call word arguments) ∨ (Keyword.ofToken? word).isSome = true := by
  cases expr with
  | blank | int _ | nil | var _ => cases equal
  | bool value => cases value <;> cases equal
  | binary op left right =>
      cases equal
      rw [BinaryOp.keyword_symbol concrete.binary_filled]
      exact .inr rfl
  | unary op operand =>
      cases equal
      rw [UnaryOp.keyword_symbol concrete.unary_filled]
      exact .inr rfl
  | cond _ _ _ | letIn _ _ _ | cons _ _ | max _ _ =>
      cases equal
      exact .inr rfl
  | call name arguments =>
      cases equal
      exact .inl ⟨arguments, rfl⟩

theorem Binding.outcome_ofTree_toTree {binding : Binding} (written : binding.Written tokens)
    (deep : binding.toTree.height < room) :
    (Binding.ofTree room binding.toTree).outcome = .ok binding := by
  cases binding with
  | blank => cases written
  | defineVariable name init =>
      have lower : init.toTree.height < (toTree (.defineVariable name init)).height :=
        Tree.height_lt_of_mem (by simp)
      have onName := outcome_definableName_of_isName written.1.1
      have onInit := Expr.outcome_ofTree_toTree written.2 (Nat.lt_trans lower deep)
      simp [toTree, Binding.ofTree, definition, onName, onInit]
  | defineFunction definition =>
      have lower : definition.body.toTree.height < (toTree (.defineFunction definition)).height :=
        Tree.height_lt_of_mem (by simp)
      have onBody := Expr.outcome_ofTree_toTree written.2 (Nat.lt_trans lower deep)
      have onName (tree : SymbolTree) :=
        outcome_definableName_of_isName (written.1 definition.name (by simp)).1 tree
      have onParameters (tree : SymbolTree) :
          (Traced.each (definableName tree) (definition.parameters.map .leaf)).outcome =
            .ok definition.parameters := by
        apply Traced.outcome_each_map_eq_ok
        intro parameter member
        exact outcome_definableName_of_isName (written.1 parameter (by simp [member])).1 tree
      simp [toTree, Binding.ofTree, Trefoil.definition, onName, onParameters, onBody]
  | expression expr =>
      have onExpr := Expr.outcome_ofTree_toTree written.1 deep
      -- The words `define` and `test` are no keywords of expressions, so they could
      -- only stand at the head as the name of a call.
      have called {word : String} {rest : List SymbolTree}
          (noKeyword : Keyword.ofToken? word = none)
          (equal : expr.toTree = .node (.leaf word :: rest)) :
          word ≠ "define" ∧ word ≠ "test" := by
        rcases Expr.head_of_toTree written.1.concrete equal with ⟨arguments, call⟩ | keyword
        · exact written.2 word arguments call
        · rw [noKeyword] at keyword
          cases keyword
      rw [toTree, Binding.ofTree_of_expression (fun rest equal => (called rfl equal).1 rfl)
        (fun rest equal => (called rfl equal).2 rfl)]
      simp [onExpr]
  | test expr =>
      have lower : expr.toTree.height < (toTree (.test expr)).height :=
        Tree.height_lt_of_mem (by simp)
      have onExpr := Expr.outcome_ofTree_toTree written (Nat.lt_trans lower deep)
      simp [toTree, Binding.ofTree, onExpr]

end

end Trefoil
