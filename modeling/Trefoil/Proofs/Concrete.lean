import Trefoil.Binding

/-! # Concrete expressions

An expression is concrete when all of its nodes say what they do and its integers
are in range. The values that evaluation ends in are concrete all the way down:
integers in range, truth values, `nil`, and conses of such values. -/

namespace Trefoil

namespace Expr

/-! ## Nodes -/

/-- Induction over expressions, with one hypothesis for all arguments of a call. -/
@[elab_as_elim]
theorem induction {motive : Expr → Prop} (blank : motive .blank)
    (int : ∀ value, motive (.int value)) (bool : ∀ value, motive (.bool value))
    (nil : motive .nil) (var : ∀ name, motive (.var name))
    (binary : ∀ op left right, motive left → motive right → motive (.binary op left right))
    (cond : ∀ condition thenBranch elseBranch, motive condition → motive thenBranch →
      motive elseBranch → motive (.cond condition thenBranch elseBranch))
    (letIn : ∀ name bound body, motive bound → motive body → motive (.letIn name bound body))
    (cons : ∀ head tail, motive head → motive tail → motive (.cons head tail))
    (unary : ∀ op operand, motive operand → motive (.unary op operand))
    (call : ∀ name arguments, (∀ argument ∈ arguments, motive argument) →
      motive (.call name arguments))
    (max : ∀ first others, motive first → (∀ argument ∈ others, motive argument) →
      motive (.max first others)) :
    ∀ expr, motive expr :=
  @Expr.rec motive (fun exprs => ∀ expr ∈ exprs, motive expr)
    blank int bool nil var binary cond letIn cons unary call max
    (fun _ member => nomatch member)
    (fun _ _ head tail _ member => by
      rcases List.mem_cons.mp member with equal | member
      · exact equal ▸ head
      · exact tail _ member)

mutual

def nodes : Expr → List Expr
  | binary op left right => binary op left right :: (nodes left ++ nodes right)
  | cond condition thenBranch elseBranch =>
      cond condition thenBranch elseBranch ::
        (nodes condition ++ nodes thenBranch ++ nodes elseBranch)
  | letIn name bound body => letIn name bound body :: (nodes bound ++ nodes body)
  | cons head tail => cons head tail :: (nodes head ++ nodes tail)
  | unary op operand => unary op operand :: nodes operand
  | call name arguments => call name arguments :: nodesAll arguments
  | max first others => max first others :: (nodes first ++ nodesAll others)
  | expr => [expr]

def nodesAll : List Expr → List Expr
  | [] => []
  | expr :: exprs => nodes expr ++ nodesAll exprs

end

@[simp] theorem mem_nodesAll {node : Expr} {exprs : List Expr} :
    node ∈ nodesAll exprs ↔ ∃ expr ∈ exprs, node ∈ expr.nodes := by
  induction exprs with
  | nil => simp [nodesAll]
  | cons expr exprs induction => simp [nodesAll, induction]

@[simp] theorem hasBlankAll_iff {exprs : List Expr} :
    hasBlankAll exprs = true ↔ ∃ expr ∈ exprs, expr.hasBlank = true := by
  induction exprs with
  | nil => simp [hasBlankAll]
  | cons expr exprs induction => simp [hasBlankAll, induction]

theorem hasBlank_iff (expr : Expr) : expr.hasBlank = true ↔ blank ∈ expr.nodes := by
  induction expr using Expr.induction with
  | blank | int _ | bool _ | nil | var _ => simp [hasBlank, nodes]
  | binary op left right onLeft onRight => simp [hasBlank, nodes, onLeft, onRight]
  | cond condition thenBranch elseBranch onCondition onThen onElse =>
      simp [hasBlank, nodes, onCondition, onThen, onElse, or_assoc]
  | letIn name bound body onBound onBody => simp [hasBlank, nodes, onBound, onBody]
  | cons head tail onHead onTail => simp [hasBlank, nodes, onHead, onTail]
  | unary op operand onOperand => simp [hasBlank, nodes, onOperand]
  | call name arguments onArguments =>
      simp only [hasBlank, hasBlankAll_iff, nodes, List.mem_cons, reduceCtorEq, mem_nodesAll,
        false_or]
      exact exists_congr fun argument => and_congr_right (onArguments argument)
  | max first others onFirst onOthers =>
      simp only [hasBlank, Bool.or_eq_true, hasBlankAll_iff, nodes, List.mem_cons, reduceCtorEq,
        List.mem_append, mem_nodesAll, false_or, onFirst]
      exact or_congr_right (exists_congr fun argument => and_congr_right (onOthers argument))

def Every (property : Expr → Bool) (expr : Expr) : Prop :=
  ∀ node ∈ expr.nodes, property node = true

section

variable {property : Expr → Bool} {expr left right condition thenBranch elseBranch : Expr}
  {op : BinaryOp} {name : String} {arguments : List Expr}

instance : Decidable (expr.Every property) :=
  inferInstanceAs (Decidable (∀ node ∈ expr.nodes, property node = true))

@[simp] theorem every_blank : blank.Every property ↔ property blank = true := by
  simp [Every, nodes]

@[simp] theorem every_int {value : Int} :
    (int value).Every property ↔ property (int value) = true := by
  simp [Every, nodes]

@[simp] theorem every_bool {value : Bool} :
    (bool value).Every property ↔ property (bool value) = true := by
  simp [Every, nodes]

@[simp] theorem every_nil : nil.Every property ↔ property nil = true := by
  simp [Every, nodes]

@[simp] theorem every_var : (var name).Every property ↔ property (var name) = true := by
  simp [Every, nodes]

@[simp] theorem every_binary :
    (binary op left right).Every property ↔
      property (binary op left right) = true ∧ left.Every property ∧ right.Every property := by
  simp [Every, nodes, or_imp, forall_and]

@[simp] theorem every_cond :
    (cond condition thenBranch elseBranch).Every property ↔
      property (cond condition thenBranch elseBranch) = true ∧ condition.Every property ∧
        thenBranch.Every property ∧ elseBranch.Every property := by
  simp [Every, nodes, or_imp, forall_and]

@[simp] theorem every_letIn :
    (letIn name left right).Every property ↔
      property (letIn name left right) = true ∧ left.Every property ∧ right.Every property := by
  simp [Every, nodes, or_imp, forall_and]

@[simp] theorem every_cons :
    (cons left right).Every property ↔
      property (cons left right) = true ∧ left.Every property ∧ right.Every property := by
  simp [Every, nodes, or_imp, forall_and]

@[simp] theorem every_unary {op : UnaryOp} :
    (unary op expr).Every property ↔ property (unary op expr) = true ∧ expr.Every property := by
  simp [Every, nodes]

theorem forall_mem_nodesAll :
    (∀ node ∈ nodesAll arguments, property node = true) ↔
      ∀ argument ∈ arguments, argument.Every property := by
  simp only [Every, mem_nodesAll, forall_exists_index, and_imp]
  exact ⟨fun all argument member node => all node argument member,
    fun all node argument member => all argument member node⟩

@[simp] theorem every_call :
    (call name arguments).Every property ↔
      property (call name arguments) = true ∧
        ∀ argument ∈ arguments, argument.Every property := by
  simp only [Every, nodes, List.mem_cons, forall_eq_or_imp]
  exact and_congr_right' forall_mem_nodesAll

@[simp] theorem every_max :
    (max expr arguments).Every property ↔
      property (max expr arguments) = true ∧ expr.Every property ∧
        ∀ argument ∈ arguments, argument.Every property := by
  simp only [Every, nodes, List.mem_cons, List.mem_append, or_imp, forall_and, forall_eq]
  exact and_congr_right' (and_congr_right' forall_mem_nodesAll)

end

/-! ## Concreteness -/

/-- The node itself is no sketch, and if it is an integer, it is in range. -/
def isConcreteNode : Expr → Bool
  | blank | binary .blank _ _ | unary .blank _ => false
  | int value => Integer.inRange value
  | _ => true

def Concrete (expr : Expr) : Prop := expr.Every isConcreteNode

instance (expr : Expr) : Decidable expr.Concrete :=
  inferInstanceAs (Decidable (expr.Every isConcreteNode))

def isRangedNode : Expr → Bool
  | int value => Integer.inRange value
  | _ => true

/-- All integers are in range. Nodes may be sketches. -/
def Ranged (expr : Expr) : Prop := expr.Every isRangedNode

instance (expr : Expr) : Decidable expr.Ranged :=
  inferInstanceAs (Decidable (expr.Every isRangedNode))

variable {expr : Expr}

theorem Concrete.ranged (concrete : expr.Concrete) : expr.Ranged := by
  intro node member
  have holds := concrete node member
  cases node with
  | int value => exact holds
  | _ => rfl

theorem Concrete.hasBlank_eq_false (concrete : expr.Concrete) : expr.hasBlank = false := by
  rw [Bool.eq_false_iff]
  intro blankInside
  have node := concrete blank (expr.hasBlank_iff.mp blankInside)
  cases node

theorem Concrete.binary_filled {op : BinaryOp} {left right : Expr}
    (concrete : (binary op left right).Concrete) : op ≠ .blank := by
  rintro rfl
  cases (every_binary.mp concrete).1

theorem Concrete.unary_filled {op : UnaryOp} {operand : Expr}
    (concrete : (unary op operand).Concrete) : op ≠ .blank := by
  rintro rfl
  cases (every_unary.mp concrete).1

/-! ## Values -/

def isDeepValue : Expr → Bool
  | int value => Integer.inRange value
  | bool _ | nil => true
  | cons head tail => isDeepValue head && isDeepValue tail
  | _ => false

theorem isValue_of_isDeepValue (deep : expr.isDeepValue = true) : expr.isValue = true := by
  cases expr <;> simp_all [isDeepValue, isValue]

theorem concrete_of_isDeepValue (deep : expr.isDeepValue = true) : expr.Concrete := by
  induction expr using Expr.induction with
  | int value => exact every_int.mpr deep
  | bool value => exact every_bool.mpr rfl
  | nil => decide
  | cons head tail onHead onTail =>
      rw [isDeepValue, Bool.and_eq_true] at deep
      exact every_cons.mpr ⟨rfl, onHead deep.1, onTail deep.2⟩
  | _ => cases deep

end Expr

namespace Binding

def Concrete (binding : Binding) : Prop :=
  binding ≠ .blank ∧ ∀ expr ∈ binding.exprs, expr.Concrete

instance (binding : Binding) : Decidable binding.Concrete :=
  inferInstanceAs (Decidable (_ ∧ _))

end Binding

end Trefoil
