import Trefoil.Proofs.Literals
import Trefoil.Proofs.Trees

/-! # The grammar

Which trees are expressions and which are bindings, as rules that say nothing of how
a tree is built. The words `define` and `test` mean something only at the head of a
whole tree. Further inside they are names like any others. -/

namespace Trefoil

/-! ## Rules -/

def keywords : List String :=
  ["+", "-", "*", "=", "if", "let", "nil?", "cons", "cons?", "car", "cdr", "max"]

namespace Tree

inductive IsExpression : SymbolTree → Prop
  | atom (token : String) : IsExpression (.leaf token)
  | binary {word : String} {left right : SymbolTree} (operator : word ∈ ["+", "-", "*", "="])
      (onLeft : IsExpression left) (onRight : IsExpression right) :
      IsExpression (.node [.leaf word, left, right])
  | cond {condition thenBranch elseBranch : SymbolTree} (onCondition : IsExpression condition)
      (onThen : IsExpression thenBranch) (onElse : IsExpression elseBranch) :
      IsExpression (.node [.leaf "if", condition, thenBranch, elseBranch])
  | cons {head tail : SymbolTree} (onHead : IsExpression head) (onTail : IsExpression tail) :
      IsExpression (.node [.leaf "cons", head, tail])
  | unary {word : String} {operand : SymbolTree}
      (operator : word ∈ ["nil?", "cons?", "car", "cdr"]) (onOperand : IsExpression operand) :
      IsExpression (.node [.leaf word, operand])
  | max {first : SymbolTree} {others : List SymbolTree} (onFirst : IsExpression first)
      (onOthers : ∀ other ∈ others, IsExpression other) :
      IsExpression (.node (.leaf "max" :: first :: others))
  | letIn {name : String} {bound body : SymbolTree} (onBound : IsExpression bound)
      (onBody : IsExpression body) :
      IsExpression (.node [.leaf "let", .node [.node [.leaf name, bound]], body])
  | call {name : String} {arguments : List SymbolTree} (noLiteral : ¬ IsLiteral name)
      (noKeyword : name ∉ keywords) (onArguments : ∀ argument ∈ arguments, IsExpression argument) :
      IsExpression (.node (.leaf name :: arguments))

/-- The trees that a definition can give a meaning to. -/
inductive IsName : SymbolTree → Prop
  | leaf {token : String} (noLiteral : ¬ IsLiteral token) : IsName (.leaf token)

def HeadedBy (word : String) (tree : SymbolTree) : Prop :=
  ∃ rest, tree = .node (.leaf word :: rest)

/-- The trees that stand behind `define`. Parameters may repeat. -/
inductive IsTarget : SymbolTree → Prop
  | variable {name : SymbolTree} (onName : name.IsName) : IsTarget name
  | function {name : SymbolTree} {parameters : List SymbolTree} (onName : name.IsName)
      (onParameters : ∀ parameter ∈ parameters, parameter.IsName) :
      IsTarget (.node (name :: parameters))

inductive IsBinding : SymbolTree → Prop
  | define {target body : SymbolTree} (onTarget : target.IsTarget) (onBody : body.IsExpression) :
      IsBinding (.node [.leaf "define", target, body])
  | test {body : SymbolTree} (onBody : body.IsExpression) :
      IsBinding (.node [.leaf "test", body])
  | expression {tree : SymbolTree} (noDefine : ¬ tree.HeadedBy "define")
      (noTest : ¬ tree.HeadedBy "test") (onTree : tree.IsExpression) : IsBinding tree

/-! ## Rules read backwards -/

theorem isName_leaf_iff {token : String} : (leaf token).IsName ↔ ¬ IsLiteral token :=
  ⟨fun | .leaf noLiteral => noLiteral, .leaf⟩

theorem not_isName_node {children : List SymbolTree} : ¬ (node children).IsName := nofun

theorem isTarget_leaf_iff {token : String} :
    (leaf token).IsTarget ↔ (leaf token : SymbolTree).IsName := by
  constructor
  · rintro ⟨onName⟩
    exact onName
  · exact .variable

theorem not_isTarget_empty : ¬ (node []).IsTarget := by
  rintro ⟨onName⟩
  exact not_isName_node onName

theorem isTarget_node_iff {name : SymbolTree} {parameters : List SymbolTree} :
    (node (name :: parameters)).IsTarget ↔
      name.IsName ∧ ∀ parameter ∈ parameters, parameter.IsName := by
  constructor
  · rintro (⟨onName⟩ | ⟨onName, onParameters⟩)
    · exact absurd onName not_isName_node
    · exact ⟨onName, onParameters⟩
  · rintro ⟨onName, onParameters⟩
    exact .function onName onParameters

theorem not_isExpression_empty : ¬ (node []).IsExpression := nofun

theorem not_isExpression_of_node {children arguments : List SymbolTree} :
    ¬ (node (.node children :: arguments)).IsExpression := nofun

theorem isBinding_define_iff {rest : List SymbolTree} :
    (node (.leaf "define" :: rest)).IsBinding ↔
      ∃ target body, rest = [target, body] ∧ target.IsTarget ∧ body.IsExpression := by
  constructor
  · intro derived
    generalize equal : node (.leaf "define" :: rest) = tree at derived
    cases derived with
    | define onTarget onBody =>
        cases equal
        exact ⟨_, _, rfl, onTarget, onBody⟩
    | test onBody => simp at equal
    | expression noDefine _ _ => exact absurd ⟨rest, equal.symm⟩ noDefine
  · rintro ⟨target, body, rfl, onTarget, onBody⟩
    exact .define onTarget onBody

theorem isBinding_test_iff {rest : List SymbolTree} :
    (node (.leaf "test" :: rest)).IsBinding ↔ ∃ body, rest = [body] ∧ body.IsExpression := by
  constructor
  · intro derived
    generalize equal : node (.leaf "test" :: rest) = tree at derived
    cases derived with
    | define onTarget onBody => simp at equal
    | test onBody =>
        cases equal
        exact ⟨_, rfl, onBody⟩
    | expression _ noTest _ => exact absurd ⟨rest, equal.symm⟩ noTest
  · rintro ⟨body, rfl, onBody⟩
    exact .test onBody

theorem isBinding_iff_isExpression {tree : SymbolTree} (noDefine : ¬ tree.HeadedBy "define")
    (noTest : ¬ tree.HeadedBy "test") : tree.IsBinding ↔ tree.IsExpression := by
  constructor
  · intro derived
    cases derived with
    | define onTarget onBody => exact absurd ⟨_, rfl⟩ noDefine
    | test onBody => exact absurd ⟨_, rfl⟩ noTest
    | expression _ _ onTree => exact onTree
  · exact .expression noDefine noTest

end Tree

namespace Keyword

theorem ofToken?_eq_none_iff {token : String} : ofToken? token = none ↔ token ∉ keywords := by
  unfold ofToken?
  split <;> simp_all [keywords]

theorem ofHead?_eq_some {head : SymbolTree} {token : String} {keyword : Keyword}
    (found : ofHead? head = some (token, keyword)) :
    head = .leaf token ∧ ofToken? token = some keyword := by
  cases head with
  | foreign value => cases value
  | node children => cases found
  | leaf word =>
      rcases Option.map_eq_some_iff.mp found with ⟨_, spelled, equal⟩
      cases equal
      exact ⟨rfl, spelled⟩

def spellings : Keyword → List String
  | binary _ => ["+", "-", "*", "="]
  | unary _ => ["nil?", "cons?", "car", "cdr"]
  | cond => ["if"]
  | letIn => ["let"]
  | cons => ["cons"]
  | max => ["max"]

theorem mem_spellings {token : String} {keyword : Keyword} (found : ofToken? token = some keyword) :
    token ∈ keyword.spellings := by
  unfold ofToken? at found
  split at found <;> cases found <;> decide

/-- What the arguments of a keyword have to be. -/
inductive Takes : Keyword → List SymbolTree → Prop
  | binary {op : BinaryOp} {left right : SymbolTree} (onLeft : left.IsExpression)
      (onRight : right.IsExpression) : Takes (.binary op) [left, right]
  | unary {op : UnaryOp} {operand : SymbolTree} (onOperand : operand.IsExpression) :
      Takes (.unary op) [operand]
  | cond {condition thenBranch elseBranch : SymbolTree} (onCondition : condition.IsExpression)
      (onThen : thenBranch.IsExpression) (onElse : elseBranch.IsExpression) :
      Takes .cond [condition, thenBranch, elseBranch]
  | letIn {name : String} {bound body : SymbolTree} (onBound : bound.IsExpression)
      (onBody : body.IsExpression) : Takes .letIn [.node [.node [.leaf name, bound]], body]
  | cons {head tail : SymbolTree} (onHead : head.IsExpression) (onTail : tail.IsExpression) :
      Takes .cons [head, tail]
  | max {first : SymbolTree} {others : List SymbolTree} (onFirst : first.IsExpression)
      (onOthers : ∀ other ∈ others, other.IsExpression) : Takes .max (first :: others)

theorem takes_binary_iff {op : BinaryOp} {left right : SymbolTree} :
    (binary op).Takes [left, right] ↔ left.IsExpression ∧ right.IsExpression := by
  constructor
  · intro takes
    cases takes with
    | binary onLeft onRight => exact ⟨onLeft, onRight⟩
  · rintro ⟨onLeft, onRight⟩
    exact .binary onLeft onRight

theorem takes_unary_iff {op : UnaryOp} {operand : SymbolTree} :
    (unary op).Takes [operand] ↔ operand.IsExpression := by
  constructor
  · intro takes
    cases takes with
    | unary onOperand => exact onOperand
  · intro onOperand
    exact .unary onOperand

theorem takes_cond_iff {condition thenBranch elseBranch : SymbolTree} :
    cond.Takes [condition, thenBranch, elseBranch] ↔
      condition.IsExpression ∧ thenBranch.IsExpression ∧ elseBranch.IsExpression := by
  constructor
  · intro takes
    cases takes with
    | cond onCondition onThen onElse => exact ⟨onCondition, onThen, onElse⟩
  · rintro ⟨onCondition, onThen, onElse⟩
    exact .cond onCondition onThen onElse

theorem takes_letIn_iff {name : String} {bound body : SymbolTree} :
    letIn.Takes [.node [.node [.leaf name, bound]], body] ↔
      bound.IsExpression ∧ body.IsExpression := by
  constructor
  · intro takes
    cases takes with
    | letIn onBound onBody => exact ⟨onBound, onBody⟩
  · rintro ⟨onBound, onBody⟩
    exact .letIn onBound onBody

theorem takes_cons_iff {head tail : SymbolTree} :
    cons.Takes [head, tail] ↔ head.IsExpression ∧ tail.IsExpression := by
  constructor
  · intro takes
    cases takes with
    | cons onHead onTail => exact ⟨onHead, onTail⟩
  · rintro ⟨onHead, onTail⟩
    exact .cons onHead onTail

theorem takes_max_iff {first : SymbolTree} {others : List SymbolTree} :
    max.Takes (first :: others) ↔ first.IsExpression ∧ ∀ other ∈ others, other.IsExpression := by
  constructor
  · intro takes
    cases takes with
    | max onFirst onOthers => exact ⟨onFirst, onOthers⟩
  · rintro ⟨onFirst, onOthers⟩
    exact .max onFirst onOthers

theorem isExpression_iff_takes {token : String} {keyword : Keyword} {arguments : List SymbolTree}
    (found : ofToken? token = some keyword) :
    (Tree.node (.leaf token :: arguments)).IsExpression ↔ keyword.Takes arguments := by
  constructor
  · intro derived
    generalize equal : Tree.node (.leaf token :: arguments) = tree at derived
    cases derived with
    | atom => cases equal
    | binary operator onLeft onRight =>
        cases equal
        simp only [List.mem_cons, List.not_mem_nil, or_false] at operator
        rcases operator with rfl | rfl | rfl | rfl <;> cases found <;>
          exact .binary onLeft onRight
    | unary operator onOperand =>
        cases equal
        simp only [List.mem_cons, List.not_mem_nil, or_false] at operator
        rcases operator with rfl | rfl | rfl | rfl <;> cases found <;> exact .unary onOperand
    | cond onCondition onThen onElse =>
        cases equal
        cases found
        exact .cond onCondition onThen onElse
    | cons onHead onTail =>
        cases equal
        cases found
        exact .cons onHead onTail
    | letIn onBound onBody =>
        cases equal
        cases found
        exact .letIn onBound onBody
    | max onFirst onOthers =>
        cases equal
        cases found
        exact .max onFirst onOthers
    | call _ noKeyword _ =>
        cases equal
        rw [ofToken?_eq_none_iff.mpr noKeyword] at found
        cases found
  · intro takes
    have spelled := mem_spellings found
    cases takes with
    | binary onLeft onRight => exact .binary spelled onLeft onRight
    | unary onOperand => exact .unary spelled onOperand
    | cond onCondition onThen onElse =>
        cases List.mem_singleton.mp spelled
        exact .cond onCondition onThen onElse
    | letIn onBound onBody =>
        cases List.mem_singleton.mp spelled
        exact .letIn onBound onBody
    | cons onHead onTail =>
        cases List.mem_singleton.mp spelled
        exact .cons onHead onTail
    | max onFirst onOthers =>
        cases List.mem_singleton.mp spelled
        exact .max onFirst onOthers

end Keyword

theorem Tree.isExpression_call_iff {token : String} {arguments : List SymbolTree}
    (noKeyword : Keyword.ofToken? token = none) :
    (Tree.node (.leaf token :: arguments)).IsExpression ↔
      ¬ IsLiteral token ∧ ∀ argument ∈ arguments, argument.IsExpression := by
  rw [Keyword.ofToken?_eq_none_iff] at noKeyword
  constructor
  · intro derived
    generalize equal : Tree.node (.leaf token :: arguments) = tree at derived
    cases derived with
    | atom => cases equal
    | call noLiteral _ onArguments =>
        cases equal
        exact ⟨noLiteral, onArguments⟩
    | _ =>
        cases equal
        simp_all [keywords]
  · rintro ⟨noLiteral, onArguments⟩
    exact .call noLiteral noKeyword onArguments

end Trefoil
