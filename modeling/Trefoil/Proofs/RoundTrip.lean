import Trefoil.Proofs.Printed
import Trefoil.Proofs.ReadBack

/-! # Printing and reading

Everything that was built from trees with plain tokens can be written out, read
and built again. Names keep their spelling, so they stay plain. Numerals are
spelled anew. -/

namespace Trefoil

open Trefoil.Text Trefoil.Reader

/-! ## Printed tokens are plain -/

theorem Reader.isPlainChar_of_isDigit {char : Char} (digit : char.isDigit = true) :
    isPlainChar char = true := by
  have differs (other : Char) (noDigit : other.isDigit = false) : char ≠ other := by
    rintro rfl
    rw [digit] at noDigit
    cases noDigit
  simp [isPlainChar, isBlank, marks, apostrophe, doubleQuote, differs]

theorem Integer.isPlain_toString (value : Int) : isPlain (toString value) = true := by
  have digits (number : Nat) : (Nat.toDigits 10 number).all isPlainChar = true := by
    rw [List.all_eq_true]
    exact fun char member => isPlainChar_of_isDigit (isDigit_of_mem member)
  cases value with
  | ofNat number =>
      rw [isPlain, toList_toString_ofNat, digits]
      simp [Nat.toDigits_ne_nil]
  | negSucc number =>
      rw [isPlain, toList_toString_negSucc, List.all_cons, digits]
      rfl

section

variable {tokens : List String}

theorem Expr.plain_toTree (plain : ∀ token ∈ tokens, isPlain token = true) {expr : Expr}
    (written : expr.Written tokens) : expr.toTree.Plain := by
  induction expr using Expr.induction with
  | blank =>
      have node : isWrittenNode tokens .blank = true := every_blank.mp written
      cases node
  | int value => exact Tree.plain_leaf.mpr (Integer.isPlain_toString value)
  | bool value => cases value <;> exact Tree.plain_leaf.mpr (by decide)
  | nil => exact Tree.plain_leaf.mpr (by decide)
  | var name =>
      have node : isWrittenNode tokens (.var name) = true := every_var.mp written
      simp only [isWrittenNode, Bool.and_eq_true, List.contains_iff_mem] at node
      exact Tree.plain_leaf.mpr (plain name node.2)
  | binary op left right onLeft onRight =>
      rcases every_binary.mp written with ⟨node, leftWritten, rightWritten⟩
      have onSymbol : isPlain op.symbol = true := by
        cases op with
        | blank => cases node
        | _ => decide
      simp [toTree, onSymbol, onLeft leftWritten, onRight rightWritten]
  | cond condition thenBranch elseBranch onCondition onThen onElse =>
      rcases every_cond.mp written with ⟨_, conditionWritten, thenWritten, elseWritten⟩
      have onKeyword : isPlain "if" = true := by decide
      simp [toTree, onKeyword, onCondition conditionWritten, onThen thenWritten,
        onElse elseWritten]
  | letIn name bound body onBound onBody =>
      rcases every_letIn.mp written with ⟨node, boundWritten, bodyWritten⟩
      simp only [isWrittenNode, List.contains_iff_mem] at node
      have onKeyword : isPlain "let" = true := by decide
      simp [toTree, onKeyword, plain name node, onBound boundWritten, onBody bodyWritten]
  | cons head tail onHead onTail =>
      rcases every_cons.mp written with ⟨_, headWritten, tailWritten⟩
      have onKeyword : isPlain "cons" = true := by decide
      simp [toTree, onKeyword, onHead headWritten, onTail tailWritten]
  | unary op operand onOperand =>
      rcases every_unary.mp written with ⟨node, operandWritten⟩
      have onSymbol : isPlain op.symbol = true := by
        cases op with
        | blank => cases node
        | _ => decide
      simp [toTree, onSymbol, onOperand operandWritten]
  | call name arguments onArguments =>
      rcases every_call.mp written with ⟨node, argumentsWritten⟩
      simp only [isWrittenNode, Bool.and_eq_true, List.contains_iff_mem] at node
      have inside : ∀ argument ∈ arguments, argument.toTree.Plain :=
        fun argument member => onArguments argument member (argumentsWritten argument member)
      simpa [toTree, toTrees_eq_map, plain name node.2] using inside
  | max first others onFirst onOthers =>
      rcases every_max.mp written with ⟨_, firstWritten, othersWritten⟩
      have onKeyword : isPlain "max" = true := by decide
      have inside : ∀ other ∈ others, other.toTree.Plain :=
        fun other member => onOthers other member (othersWritten other member)
      simpa [toTree, toTrees_eq_map, onKeyword, onFirst firstWritten] using inside

theorem Binding.plain_toTree (plain : ∀ token ∈ tokens, isPlain token = true) {binding : Binding}
    (written : binding.Written tokens) : binding.toTree.Plain := by
  have onDefine : isPlain "define" = true := by decide
  have onTest : isPlain "test" = true := by decide
  cases binding with
  | blank => cases written
  | defineVariable name init =>
      simp [toTree, onDefine, plain name written.1.2, Expr.plain_toTree plain written.2]
  | defineFunction definition =>
      have onName : isPlain definition.name = true := plain _ (written.1 _ (by simp)).2
      have onParameters : ∀ parameter ∈ definition.parameters, isPlain parameter = true :=
        fun parameter member => plain parameter (written.1 parameter (by simp [member])).2
      simpa [toTree, onDefine, onName, Expr.plain_toTree plain written.2] using onParameters
  | expression expr => exact Expr.plain_toTree plain written.1
  | test expr => simp [toTree, onTest, Expr.plain_toTree plain written]

end

/-! ## Round trips -/

/-- Bindings that were built from plain trees are read back from their texts, one
below the other, and so is an expression from its text. As much room is enough as
the text has levels of parentheses, and one more. -/
theorem read_printed :
    (∀ (trees : List SymbolTree) (bindings : List Binding) (room enough : Nat),
      (∀ tree ∈ trees, tree.Plain) →
      (Traced.each (Binding.ofTree room) trees).outcome = .ok bindings →
      (∀ binding ∈ bindings, binding.toTree.height < enough) →
      (Binding.listOfSource enough ("\n".intercalate (bindings.map Binding.text))).outcome =
        .ok bindings) ∧
    (∀ (tree : SymbolTree) (expr : Expr) (room enough : Nat), tree.Plain →
      (Expr.ofTree room tree).outcome = .ok expr → expr.toTree.height < enough →
      (Expr.ofSource enough expr.text).outcome = .ok expr) := by
  constructor
  · intro trees bindings room enough plain builds fits
    have plainTokens : ∀ token ∈ Tree.tokensAll trees, isPlain token = true := by
      intro token member
      rcases Tree.mem_tokensAll.mp member with ⟨tree, inside, found⟩
      exact plain tree inside token found
    have written := (Traced.ensures_each trees fun tree member =>
      Binding.ofTree_written room tree
        (Tree.tokens_subset_of_mem member (List.Subset.refl _))).of_ok builds
    have texts : bindings.map Binding.text = (bindings.map Binding.toTree).map Tree.text := by
      rw [List.map_map]
      exact List.map_congr_left fun binding _ => binding.text_toTree.symm
    have read : (Reader.program enough ("\n".intercalate (bindings.map Binding.text))).outcome =
        .ok (bindings.map Binding.toTree) := by
      rw [texts]
      apply Reader.outcome_program
      · intro tree member
        rcases List.mem_map.mp member with ⟨binding, inside, rfl⟩
        exact Binding.plain_toTree plainTokens (written.2 binding inside)
      · intro tree member
        rcases List.mem_map.mp member with ⟨binding, inside, rfl⟩
        exact Nat.le_of_lt (fits binding inside)
    rw [Binding.listOfSource, Traced.outcome_bind, read, Traced.ok_bind]
    apply Traced.outcome_each_map_eq_ok
    intro binding member
    exact Binding.outcome_ofTree_toTree (written.2 binding member) (fits binding member)
  · intro tree expr room enough plain builds fits
    have written := (Expr.ofTree_yields room tree (List.Subset.refl _)).of_ok builds
    have read := Reader.outcome_single (Expr.plain_toTree plain written.1) (Nat.le_of_lt fits)
    rw [Expr.text_toTree] at read
    rw [Expr.ofSource, Traced.outcome_bind, read, Traced.ok_bind]
    exact Expr.outcome_ofTree_toTree written.1 fits

/-- A numeral out of range is a name, a `let` may bind what looks like a literal,
`test` can be called inside an expression, and integers lose their signs and zeros. -/
theorem read_printed_respelled :
    let body : Expr := .letIn "5" (.var "x") (.call "test" [.var "99999999999", .int 0])
    (Binding.listOfSource 9 ("\n".intercalate
        ["(define 99999999999 7)", "(define (f x) (let ((5 x)) (test 99999999999 0)))"])).outcome =
      .ok [.defineVariable "99999999999" (.int 7), .defineFunction ⟨"f", ["x"], body⟩] ∧
    (Expr.ofSource 9 "(let ((5 x)) (test 99999999999 0))").outcome = .ok body := by
  intro body
  let tree : SymbolTree := .node [.leaf "let", .node [.node [.leaf "5", .leaf "x"]],
    .node [.leaf "test", .leaf "99999999999", .leaf "-0"]]
  let trees : List SymbolTree := [.node [.leaf "define", .leaf "99999999999", .leaf "+007"],
    .node [.leaf "define", .node [.leaf "f", .leaf "x"], tree]]
  let bindings : List Binding :=
    [.defineVariable "99999999999" (.int 7), .defineFunction ⟨"f", ["x"], body⟩]
  have texts : bindings.map Binding.text =
      ["(define 99999999999 7)", "(define (f x) (let ((5 x)) (test 99999999999 0)))"] := by decide
  have text : body.text = "(let ((5 x)) (test 99999999999 0))" := by decide
  have readBindings := read_printed.1 trees bindings 9 9 (by decide) rfl (by decide)
  have readBody := read_printed.2 tree body 9 9 (by decide) rfl (by decide)
  rw [texts] at readBindings
  rw [text] at readBody
  exact ⟨readBindings, readBody⟩

end Trefoil
