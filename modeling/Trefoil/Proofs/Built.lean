import Trefoil.Proofs.Concrete
import Trefoil.Proofs.Grammar
import Trefoil.Proofs.Traces

/-! # What is built from trees

Building decides whether a tree follows the grammar: it succeeds if so, and ends in a
syntax error if not, unless it lacks room or meets a numeral with too many digits. It
shows nothing, and does the same with more room. Everything that is built is concrete.
Besides, its names are tokens of the tree that are no literals, and the names of its
calls are no keywords. That is all there is to say about single nodes of a built
expression. A built binding that is an expression also does not start like a definition
or a test.

`Builds` says all of this of one computation, so that the builder is gone through once. -/

namespace Trefoil

/-! ## What is written -/

namespace Expr

/-- A node that can be built from a tree with these tokens. -/
def isWrittenNode (tokens : List String) : Expr → Bool
  | var name => isName name && tokens.contains name
  | letIn name _ _ => tokens.contains name
  | call name _ => isName name && (Keyword.ofToken? name).isNone && tokens.contains name
  | expr => expr.isConcreteNode

def Written (tokens : List String) (expr : Expr) : Prop := expr.Every (isWrittenNode tokens)

theorem Written.concrete {tokens : List String} {expr : Expr} (written : expr.Written tokens) :
    expr.Concrete := by
  intro node member
  have holds := written node member
  unfold isWrittenNode at holds
  split at holds
  · rfl
  · rfl
  · rfl
  · exact holds

end Expr

namespace Binding

def Written (tokens : List String) : Binding → Prop
  | blank => False
  | defineVariable name init => (isName name = true ∧ name ∈ tokens) ∧ init.Written tokens
  | defineFunction definition =>
      (∀ name ∈ definition.name :: definition.parameters, isName name = true ∧ name ∈ tokens) ∧
        definition.body.Written tokens
  | expression expr =>
      expr.Written tokens ∧
        ∀ name arguments, expr = .call name arguments → name ≠ "define" ∧ name ≠ "test"
  | test expr => expr.Written tokens

theorem Written.concrete {tokens : List String} {binding : Binding}
    (written : binding.Written tokens) : binding.Concrete := by
  cases binding with
  | blank => cases written
  | defineVariable name init => exact ⟨nofun, by simpa [exprs] using written.2.concrete⟩
  | defineFunction definition => exact ⟨nofun, by simpa [exprs] using written.2.concrete⟩
  | expression expr => exact ⟨nofun, by simpa [exprs] using written.1.concrete⟩
  | test expr => exact ⟨nofun, by simpa [exprs] using Expr.Written.concrete written⟩

end Binding

/-! ## Computations that build -/

/-- Why nothing is built. -/
inductive Unbuilt (within grammatical : Prop) : Failure → Prop
  | tooDeep (beyond : ¬ within) : Unbuilt within grammatical .tooDeep
  | numeral (digits : Nat) (beyond : ¬ within) :
      Unbuilt within grammatical (.fault (.numeralTooLong digits))
  | misread (error : SyntaxError) (ungrammatical : ¬ grammatical) :
      Unbuilt within grammatical (.program (.inSyntax error))

theorem Unbuilt.mono {within within' grammatical grammatical' : Prop} {failure : Failure}
    (unbuilt : Unbuilt within' grammatical' failure) (inside : within → within')
    (needed : grammatical → grammatical') : Unbuilt within grammatical failure := by
  cases unbuilt with
  | tooDeep beyond => exact .tooDeep (mt inside beyond)
  | numeral digits beyond => exact .numeral digits (mt inside beyond)
  | misread error ungrammatical => exact .misread error (mt needed ungrammatical)

def Failure.IsSyntax (failure : Failure) : Prop :=
  ∃ error, failure = .program (.inSyntax error)

namespace Traced

variable {α β : Type} {within within' grammatical grammatical' : Prop} {result : α → Prop}

/-- The computation comes to a result just when something is grammatical. `roomy` is the
same computation with more room, and `within` holds if nothing is too much for it. -/
structure Builds (within grammatical : Prop) (result : α → Prop) (computation roomy : Traced α) :
    Prop where
  silent : computation.Silent
  persists : Persists computation roomy
  ensures : computation.Ensures (fun value => grammatical ∧ result value)
    (Unbuilt within grammatical)

theorem builds_pure {value : α} (holds : grammatical) (on : result value) :
    Builds within grammatical result (pure value) (pure value) where
  silent := silent_pure value
  persists := .refl _
  ensures := ensures_pure ⟨holds, on⟩

theorem builds_misread (error : SyntaxError) (never : ¬ grammatical) :
    Builds within grammatical result (misread error) (misread error) where
  silent := silent_fail _
  persists := .refl _
  ensures := ensures_fail (.misread error never)

namespace Builds

variable {computation roomy : Traced α}

theorem mono {result' : α → Prop} (builds : Builds within' grammatical result computation roomy)
    (inside : within → within') (results : ∀ value, result value → result' value) :
    Builds within grammatical result' computation roomy where
  silent := builds.silent
  persists := builds.persists
  ensures := builds.ensures.mono (fun value holds => ⟨holds.1, results value holds.2⟩)
    fun _ unbuilt => unbuilt.mono inside id

/-- Where the first part needs only what the whole needs, the rest decides what is left. -/
theorem bind {start : α → Prop} {result : β → Prop} {next next' : α → Traced β}
    (first : Builds within' grammatical' start computation roomy) (inside : within → within')
    (needed : grammatical → grammatical')
    (rest : grammatical' → ∀ value, start value →
      Builds within grammatical result (next value) (next' value)) :
    Builds within grammatical result (computation >>= next) (roomy >>= next') := by
  have onward (value : α) (returns : computation.outcome = .ok value) :=
    rest (first.ensures.of_ok returns).1 value (first.ensures.of_ok returns).2
  constructor
  · exact first.silent.bind_of_ok fun value returns => (onward value returns).silent
  · exact first.persists.bind_of_ok fun value returns => (onward value returns).persists
  · have start := first.ensures.mono (fun _ => id) fun _ unbuilt => unbuilt.mono inside needed
    exact start.bind fun value holds => (rest holds.1 value holds.2).ensures

theorem log_bind {record : Log.Record} {next next' : Unit → Traced α}
    (rest : Builds within grammatical result (next ()) (next' ())) :
    Builds within grammatical result (log record >>= next) (log record >>= next') where
  silent := rest.silent.log_bind
  persists := rest.persists.log_bind
  ensures := ensures_log_bind rest.ensures

theorem exists_ok_iff (builds : Builds within grammatical result computation roomy)
    (inside : within) : (∃ value, computation.outcome = .ok value) ↔ grammatical := by
  constructor
  · rintro ⟨value, returns⟩
    exact (builds.ensures.of_ok returns).1
  · intro holds
    cases equation : computation.outcome with
    | ok value => exact ⟨value, rfl⟩
    | error failure =>
        cases builds.ensures.of_error equation with
        | tooDeep beyond | numeral _ beyond => exact absurd inside beyond
        | misread _ ungrammatical => exact absurd holds ungrammatical

theorem isSyntax_of_error (builds : Builds within grammatical result computation roomy)
    (inside : within) {failure : Failure} (fails : computation.outcome = .error failure) :
    failure.IsSyntax := by
  cases builds.ensures.of_error fails with
  | tooDeep beyond | numeral _ beyond => exact absurd inside beyond
  | misread error _ => exact ⟨error, rfl⟩

theorem exists_error (builds : Builds within grammatical result computation roomy)
    (inside : within) (fails : ¬ grammatical) :
    ∃ error, computation.outcome = .error (.program (.inSyntax error)) := by
  cases equation : computation.outcome with
  | ok value => exact absurd (builds.ensures.of_ok equation).1 fails
  | error failure =>
      rcases builds.isSyntax_of_error inside equation with ⟨error, rfl⟩
      exact ⟨error, rfl⟩

end Builds

theorem builds_each {result : β → Prop} {action action' : α → Traced β} {holds : α → Prop}
    {items : List α}
    (one : ∀ item ∈ items, Builds within (holds item) result (action item) (action' item)) :
    Builds within (∀ item ∈ items, holds item) (fun values => ∀ value ∈ values, result value)
      (each action items) (each action' items) := by
  induction items with
  | nil => exact builds_pure (by simp) (by simp)
  | cons item items induction =>
      rw [List.forall_mem_cons] at one
      have all : (∀ other ∈ item :: items, holds other) ↔
          holds item ∧ ∀ other ∈ items, holds other := List.forall_mem_cons
      rw [each, each, all]
      apply one.1.bind id And.left
      intro first value onValue
      apply (induction one.2).bind id And.right
      intro rest values onValues
      exact builds_pure ⟨first, rest⟩ (List.forall_mem_cons.mpr ⟨onValue, onValues⟩)

end Traced

open Traced

/-! ## Tokens -/

theorem Expr.builds_ofToken (token : String) :
    Builds (ShortNumerals [token]) True
      (fun expr => IsLiteral token ∧
          ((∃ value, expr = .int value ∧ Integer.inRange value = true) ∨
            (∃ value, expr = .bool value) ∨ expr = .nil) ∨
        ¬ IsLiteral token ∧ isName token = true ∧ expr = .var token)
      (Expr.ofToken token) (Expr.ofToken token) := by
  by_cases short : ShortNumerals [token]
  · have named := isName_iff short
    unfold Expr.ofToken
    cases reading : Integer.ofToken token with
    | tooLong digits => exact absurd reading (Integer.ofToken_ne_tooLong short digits)
    | integer value =>
        have literal : IsLiteral token := by simpa [isName, reading] using named
        exact builds_pure trivial
          (.inl ⟨literal, .inl ⟨value, rfl, Integer.inRange_of_ofToken reading⟩⟩)
    | notInteger =>
        apply builds_pure trivial
        rcases Expr.ofWord_cases token with word | word | word
        · have literal : IsLiteral token := by
            rcases word with ⟨value, word⟩
            simpa [isName, word] using named
          exact .inl ⟨literal, .inr (.inl word)⟩
        · have literal : IsLiteral token := by simpa [isName, word] using named
          exact .inl ⟨literal, .inr (.inr word)⟩
        · have isName : isName token = true := by simp [isName, reading, word]
          exact .inr ⟨named.mp isName, isName, word⟩
  · rcases Integer.exists_tooLong short with ⟨digits, reading⟩
    rw [Expr.ofToken, reading]
    exact ⟨silent_fail _, .refl _, ensures_fail (.numeral digits short)⟩

theorem builds_nameOf (token : String) (error : SyntaxError) :
    let named : Traced String := do
      match ← Expr.ofToken token with
      | .var name => return name
      | _ => misread error
    Builds (ShortNumerals [token]) (¬ IsLiteral token)
      (fun name => name = token ∧ isName token = true) named named := by
  apply (Expr.builds_ofToken token).bind id fun _ => trivial
  rintro _ expr (⟨literal, ⟨value, rfl, _⟩ | ⟨value, rfl⟩ | rfl⟩ | ⟨noLiteral, named, rfl⟩)
  · exact builds_misread _ (not_not_intro literal)
  · exact builds_misread _ (not_not_intro literal)
  · exact builds_misread _ (not_not_intro literal)
  · exact builds_pure noLiteral ⟨rfl, named⟩

/-! ## Expressions -/

/-- The tree is less than `room` levels high, and its numerals can be read. -/
def Tree.Within (room : Nat) (tree : SymbolTree) : Prop :=
  tree.height < room ∧ ShortNumerals tree.tokens

namespace Tree.Within

variable {room : Nat} {children : List SymbolTree} {child : SymbolTree}

theorem of_mem_succ (within : (node children).Within (room + 1)) (member : child ∈ children) :
    child.Within room :=
  ⟨height_lt_of_mem_of_lt within.1 member,
    within.2.mono (tokens_subset_of_mem member (List.Subset.refl _))⟩

theorem of_mem (within : (node children).Within room) (member : child ∈ children) :
    child.Within room := by
  have lower : child.height < (node children).height := height_lt_of_mem member
  exact ⟨Nat.lt_trans lower within.1,
    within.2.mono (tokens_subset_of_mem member (List.Subset.refl _))⟩

theorem token {token : String} (within : (leaf token).Within room) : ShortNumerals [token] :=
  within.2

end Tree.Within

namespace Keyword

theorem filled_of_ofToken? {token : String} {keyword : Keyword}
    (found : ofToken? token = some keyword) :
    keyword ≠ .binary .blank ∧ keyword ≠ .unary .blank := by
  unfold ofToken? at found
  split at found <;> cases found <;> simp

end Keyword

def Expr.WrittenForm (tokens : List String) (expr : Expr) : Prop :=
  expr.Written tokens ∧ ∀ name arguments, expr ≠ .call name arguments

section

variable {room : Nat} {tokens : List String} {build build' : SymbolTree → Traced Expr}
  (inside : ∀ child : SymbolTree, child.tokens ⊆ tokens →
    Builds (child.Within room) child.IsExpression (Expr.Written tokens) (build child)
      (build' child))
include inside

theorem builds_letForm {bindings body : SymbolTree} (tree : SymbolTree)
    (onBindings : bindings.tokens ⊆ tokens) (onBody : body.tokens ⊆ tokens) :
    Builds (bindings.Within room ∧ body.Within room) (Keyword.letIn.Takes [bindings, body])
      (Expr.WrittenForm tokens) (letForm build bindings body tree)
      (letForm build' bindings body tree) := by
  unfold letForm
  split
  next name bound =>
      simp only [Tree.tokens, Tree.tokensAll, List.append_nil, List.singleton_append,
        List.cons_subset] at onBindings
      have boundWithin (within : (Tree.node [.node [.leaf name, bound]]).Within room) :
          bound.Within room := (within.of_mem List.mem_cons_self).of_mem (by simp)
      rw [Keyword.takes_letIn_iff]
      apply (inside bound onBindings.2).bind (fun within => boundWithin within.1) And.left
      intro isBound boundExpr boundWritten
      apply (inside body onBody).bind And.right And.right
      intro isBody bodyExpr bodyWritten
      have node : Expr.isWrittenNode tokens (.letIn name boundExpr bodyExpr) = true := by
        simp [Expr.isWrittenNode, onBindings.1]
      exact builds_pure ⟨isBound, isBody⟩
        ⟨Expr.every_letIn.mpr ⟨node, boundWritten, bodyWritten⟩, by simp⟩
  next notLeaf =>
      apply builds_misread
      intro takes
      cases takes
      exact notLeaf _ rfl
  next notPair =>
      apply builds_misread
      intro takes
      cases takes
      exact notPair _ _ rfl
  next notSingle =>
      apply builds_misread
      intro takes
      cases takes
      exact notSingle _ rfl

theorem builds_keywordForm {keyword : Keyword}
    (filled : keyword ≠ .binary .blank ∧ keyword ≠ .unary .blank) (token : String)
    {arguments : List SymbolTree} (tree : SymbolTree)
    (onArguments : ∀ argument ∈ arguments, argument.tokens ⊆ tokens) :
    Builds (∀ argument ∈ arguments, argument.Within room) (keyword.Takes arguments)
      (Expr.WrittenForm tokens) (keywordForm build keyword token arguments tree)
      (keywordForm build' keyword token arguments tree) := by
  unfold keywordForm
  split
  next op left right =>
      simp only [List.forall_mem_cons] at onArguments ⊢
      rw [Keyword.takes_binary_iff]
      apply (inside left onArguments.1).bind And.left And.left
      intro isLeft leftExpr leftWritten
      apply (inside right onArguments.2.1).bind (·.2.1) And.right
      intro isRight rightExpr rightWritten
      have node : Expr.isWrittenNode tokens (.binary op leftExpr rightExpr) = true := by
        cases op <;> simp_all [Expr.isWrittenNode, Expr.isConcreteNode]
      exact builds_pure ⟨isLeft, isRight⟩
        ⟨Expr.every_binary.mpr ⟨node, leftWritten, rightWritten⟩, by simp⟩
  next op operand =>
      simp only [List.forall_mem_cons] at onArguments ⊢
      rw [Keyword.takes_unary_iff]
      apply (inside operand onArguments.1).bind And.left id
      intro isOperand operandExpr operandWritten
      have node : Expr.isWrittenNode tokens (.unary op operandExpr) = true := by
        cases op <;> simp_all [Expr.isWrittenNode, Expr.isConcreteNode]
      exact builds_pure isOperand
        ⟨Expr.every_unary.mpr ⟨node, operandWritten⟩, by simp⟩
  next condition thenBranch elseBranch =>
      simp only [List.forall_mem_cons] at onArguments ⊢
      rw [Keyword.takes_cond_iff]
      apply (inside condition onArguments.1).bind And.left And.left
      intro isCondition conditionExpr conditionWritten
      apply (inside thenBranch onArguments.2.1).bind (·.2.1) (·.2.1)
      intro isThen thenExpr thenWritten
      apply (inside elseBranch onArguments.2.2.1).bind (·.2.2.1) (·.2.2)
      intro isElse elseExpr elseWritten
      exact builds_pure ⟨isCondition, isThen, isElse⟩
        ⟨Expr.every_cond.mpr ⟨rfl, conditionWritten, thenWritten, elseWritten⟩, by simp⟩
  next bindings body =>
      simp only [List.forall_mem_cons] at onArguments ⊢
      exact (builds_letForm inside tree onArguments.1 onArguments.2.1).mono
        (fun within => ⟨within.1, within.2.1⟩) fun _ => id
  next head tail =>
      simp only [List.forall_mem_cons] at onArguments ⊢
      rw [Keyword.takes_cons_iff]
      apply (inside head onArguments.1).bind And.left And.left
      intro isHead headExpr headWritten
      apply (inside tail onArguments.2.1).bind (·.2.1) And.right
      intro isTail tailExpr tailWritten
      exact builds_pure ⟨isHead, isTail⟩
        ⟨Expr.every_cons.mpr ⟨rfl, headWritten, tailWritten⟩, by simp⟩
  next first others =>
      rw [List.forall_mem_cons] at onArguments
      rw [List.forall_mem_cons, Keyword.takes_max_iff]
      have rest := builds_each fun other (member : other ∈ others) =>
        (inside other (onArguments.2 other member)).mono
          (fun (within : ∀ other ∈ others, other.Within room) => within other member) fun _ => id
      apply (inside first onArguments.1).bind And.left And.left
      intro isFirst firstExpr firstWritten
      apply rest.bind And.right And.right
      intro areOthers otherExprs othersWritten
      exact builds_pure ⟨isFirst, areOthers⟩
        ⟨Expr.every_max.mpr ⟨rfl, firstWritten, othersWritten⟩, by simp⟩
  next =>
      apply builds_misread
      intro takes
      cases takes
  next noBinary noUnary noCond noLetIn noCons noMax _ =>
      -- No keyword has arguments of the shape that it takes.
      apply builds_misread
      intro takes
      cases takes with
      | binary _ _ => exact noBinary _ _ _ rfl rfl
      | unary _ => exact noUnary _ _ rfl rfl
      | cond _ _ _ => exact noCond _ _ _ rfl rfl
      | letIn _ _ => exact noLetIn _ _ rfl rfl
      | cons _ _ => exact noCons _ _ rfl rfl
      | max _ _ => exact noMax _ _ rfl rfl

theorem builds_callForm {head : SymbolTree} {arguments : List SymbolTree} (tree : SymbolTree)
    (call : Keyword.ofHead? head = none)
    (onTree : (Tree.node (head :: arguments)).tokens ⊆ tokens) :
    Builds (∀ child ∈ head :: arguments, child.Within room)
      (Tree.node (head :: arguments)).IsExpression
      (fun expr => expr.Written tokens ∧
        ∀ name exprs, expr = .call name exprs → head = .leaf name)
      (callForm build head arguments tree) (callForm build' head arguments tree) := by
  have rest := builds_each fun argument (member : argument ∈ arguments) =>
    (inside argument (Tree.tokens_subset_of_mem (List.mem_cons_of_mem head member) onTree)).mono
      (fun (within : ∀ child ∈ head :: arguments, child.Within room) =>
        within argument (List.mem_cons_of_mem head member)) fun _ => id
  cases head with
  | foreign value => cases value
  | node children => exact builds_misread _ Tree.not_isExpression_of_node
  | leaf token =>
      have noKeyword : Keyword.ofToken? token = none := by simpa [Keyword.ofHead?] using call
      have member : token ∈ tokens := onTree (by simp [Tree.tokens, Tree.tokensAll])
      rw [Tree.isExpression_call_iff noKeyword]
      apply (builds_nameOf token _).bind (fun within => (within _ List.mem_cons_self).token)
        And.left
      rintro noLiteral name ⟨rfl, named⟩
      apply rest.bind id And.right
      intro areArguments exprs written
      have node : Expr.isWrittenNode tokens (.call name exprs) = true := by
        simp [Expr.isWrittenNode, named, noKeyword, member]
      apply builds_pure ⟨noLiteral, areArguments⟩
      constructor
      · exact Expr.every_call.mpr ⟨node, written⟩
      · intro other _ equal
        cases equal
        rfl

end

/-- What is built from a tree is made of the tree's tokens, and a call starts with the
name that is called. -/
theorem Expr.builds_ofTree {room roomy : Nat} {tokens : List String} (le : room ≤ roomy)
    (tree : SymbolTree) (onTree : tree.tokens ⊆ tokens) :
    Builds (tree.Within room) tree.IsExpression
      (fun expr => expr.Written tokens ∧ ∀ name arguments, expr = .call name arguments →
        ∃ rest, tree = .node (.leaf name :: rest))
      (Expr.ofTree room tree) (Expr.ofTree roomy tree) := by
  induction room generalizing roomy tree with
  | zero =>
      have beyond : ¬ tree.Within 0 := fun within => Nat.not_lt_zero _ within.1
      exact ⟨silent_fail _, fun enough => absurd rfl enough, ensures_fail (.tooDeep beyond)⟩
  | succ room induction =>
      rcases Nat.exists_eq_succ_of_ne_zero (by omega : roomy ≠ 0) with ⟨roomy, rfl⟩
      have inside (child : SymbolTree) (onChild : child.tokens ⊆ tokens) :
          Builds (child.Within room) child.IsExpression (Expr.Written tokens)
            (Expr.ofTree room child) (Expr.ofTree roomy child) :=
        (induction (by omega) child onChild).mono id fun _ holds => holds.1
      cases tree with
      | foreign value => cases value
      | leaf token =>
          have member : token ∈ tokens := onTree (List.mem_singleton.mpr rfl)
          have same : (Tree.leaf token : SymbolTree).IsExpression ↔ True :=
            iff_of_true (.atom token) trivial
          rw [same]
          apply (Expr.builds_ofToken token).mono Tree.Within.token
          rintro expr (⟨_, ⟨value, rfl, inRange⟩ | ⟨value, rfl⟩ | rfl⟩ | ⟨_, named, rfl⟩)
          · exact ⟨every_int.mpr inRange, by simp⟩
          · exact ⟨every_bool.mpr rfl, by simp⟩
          · exact ⟨every_nil.mpr rfl, by simp⟩
          · exact ⟨every_var.mpr (by simp [isWrittenNode, named, member]), by simp⟩
      | node children =>
          cases children with
          | nil => exact builds_misread _ Tree.not_isExpression_empty
          | cons head arguments =>
              have onArguments : ∀ argument ∈ arguments, argument.tokens ⊆ tokens :=
                fun argument member => Tree.tokens_subset_of_mem (by simp [member]) onTree
              rw [Expr.ofTree, Expr.ofTree]
              split
              next token keyword found =>
                  rcases Keyword.ofHead?_eq_some found with ⟨rfl, spelled⟩
                  apply Builds.log_bind
                  rw [Keyword.isExpression_iff_takes spelled]
                  have form := builds_keywordForm inside (Keyword.filled_of_ofToken? spelled) token
                    (.node (.leaf token :: arguments)) onArguments
                  apply form.mono
                  · intro within argument member
                    exact within.of_mem_succ (List.mem_cons_of_mem _ member)
                  · rintro expr ⟨written, noCall⟩
                    exact ⟨written, fun name _ equal => absurd equal (noCall name _)⟩
              next call =>
                  have form := builds_callForm inside (.node (head :: arguments)) call onTree
                  apply form.mono
                  · intro within child member
                    exact within.of_mem_succ member
                  · rintro expr ⟨written, headed⟩
                    exact ⟨written, fun name exprs equal =>
                      ⟨arguments, by rw [headed name exprs equal]⟩⟩

theorem Expr.ofTree_yields {tokens : List String} (room : Nat) (tree : SymbolTree)
    (onTree : tree.tokens ⊆ tokens) :
    (Expr.ofTree room tree).Yields fun expr =>
      expr.Written tokens ∧ ∀ name arguments, expr = .call name arguments →
        ∃ rest, tree = .node (.leaf name :: rest) :=
  (Expr.builds_ofTree (Nat.le_refl room) tree onTree).ensures.mono (fun _ holds => holds.2)
    fun _ _ => trivial

theorem Expr.persists_ofTree {room roomy : Nat} (le : room ≤ roomy) (tree : SymbolTree) :
    Persists (Expr.ofTree room tree) (Expr.ofTree roomy tree) :=
  (Expr.builds_ofTree le tree (List.Subset.refl _)).persists

/-! ## Bindings -/

section

variable {room roomy : Nat} {tokens : List String}

theorem builds_definableName (room : Nat) (tree : SymbolTree) {part : SymbolTree}
    (onPart : part.tokens ⊆ tokens) :
    Builds (part.Within room) part.IsName (fun name => isName name = true ∧ name ∈ tokens)
      (definableName tree part) (definableName tree part) := by
  cases part with
  | foreign value => cases value
  | node children => exact builds_misread _ Tree.not_isName_node
  | leaf token =>
      have member : token ∈ tokens := onPart (List.mem_singleton.mpr rfl)
      rw [Tree.isName_leaf_iff]
      apply (builds_nameOf token _).mono Tree.Within.token
      rintro name ⟨rfl, named⟩
      exact ⟨named, member⟩

theorem builds_definition (le : room ≤ roomy) {target body : SymbolTree} (tree : SymbolTree)
    (onTarget : target.tokens ⊆ tokens) (onBody : body.tokens ⊆ tokens) :
    Builds (target.Within room ∧ body.Within room) (target.IsTarget ∧ body.IsExpression)
      (Binding.Written tokens) (definition room target body tree)
      (definition roomy target body tree) := by
  unfold definition
  split
  next token =>
      rw [Tree.isTarget_leaf_iff]
      apply (builds_definableName room tree onTarget).bind And.left And.left
      intro isTarget name named
      apply (Expr.builds_ofTree le body onBody).bind And.right And.right
      intro isBody init written
      exact builds_pure ⟨isTarget, isBody⟩ ⟨named, written.1⟩
  next value => cases value
  next => exact builds_misread _ fun both => Tree.not_isTarget_empty both.1
  next head parameters =>
      rw [Tree.isTarget_node_iff]
      have onHead := builds_definableName room tree
        (Tree.tokens_subset_of_mem List.mem_cons_self onTarget)
      have onParameters := builds_each fun parameter (member : parameter ∈ parameters) =>
        (builds_definableName room tree
          (Tree.tokens_subset_of_mem (List.mem_cons_of_mem head member) onTarget)).mono
          (fun (within : (Tree.node (head :: parameters)).Within room ∧ body.Within room) =>
            within.1.of_mem (List.mem_cons_of_mem head member)) fun _ => id
      apply onHead.bind (fun within => within.1.of_mem List.mem_cons_self) (·.1.1)
      intro isHead name named
      apply onParameters.bind id (·.1.2)
      intro areNames names allNamed
      apply Builds.log_bind
      apply (Expr.builds_ofTree le body onBody).bind And.right And.right
      intro isBody bodyExpr written
      exact builds_pure ⟨⟨isHead, areNames⟩, isBody⟩
        ⟨List.forall_mem_cons.mpr ⟨named, allNamed⟩, written.1⟩

theorem Binding.builds_ofTree (le : room ≤ roomy) (tree : SymbolTree)
    (onTree : tree.tokens ⊆ tokens) :
    Builds (tree.Within room) tree.IsBinding (Binding.Written tokens)
      (Binding.ofTree room tree) (Binding.ofTree roomy tree) := by
  unfold Binding.ofTree
  split
  next target body =>
      have same : (Tree.node [.leaf "define", target, body]).IsBinding ↔
          target.IsTarget ∧ body.IsExpression := by
        simp [Tree.isBinding_define_iff, and_assoc]
      rw [same]
      exact (builds_definition le _ (Tree.tokens_subset_of_mem (by simp) onTree)
        (Tree.tokens_subset_of_mem (by simp) onTree)).mono
        (fun within => ⟨within.of_mem (by simp), within.of_mem (by simp)⟩) fun _ => id
  next rest different =>
      apply builds_misread
      rw [Tree.isBinding_define_iff]
      rintro ⟨target, body, equal, _⟩
      exact different target body equal
  next body =>
      have same : (Tree.node [.leaf "test", body]).IsBinding ↔ body.IsExpression := by
        simp [Tree.isBinding_test_iff]
      rw [same]
      apply (Expr.builds_ofTree le body (Tree.tokens_subset_of_mem (by simp) onTree)).bind
        (fun within => within.of_mem (by simp)) id
      intro isBody expr written
      exact builds_pure isBody written.1
  next rest different =>
      apply builds_misread
      rw [Tree.isBinding_test_iff]
      rintro ⟨body, equal, _⟩
      exact different body equal
  next _ noDefine _ noTest =>
      rw [Tree.isBinding_iff_isExpression (not_exists.mpr noDefine) (not_exists.mpr noTest)]
      apply (Expr.builds_ofTree le tree onTree).bind id id
      intro isTree expr written
      apply builds_pure isTree
      refine ⟨written.1, ?_⟩
      intro name arguments equal
      -- The name of a call is the head of the tree.
      rcases written.2 name arguments equal with ⟨rest, rfl⟩
      exact ⟨fun isDefine => noDefine rest (by rw [isDefine]),
        fun isTest => noTest rest (by rw [isTest])⟩

end

theorem Binding.ofTree_written {tokens : List String} (room : Nat) (tree : SymbolTree)
    (onTree : tree.tokens ⊆ tokens) :
    (Binding.ofTree room tree).Yields (Binding.Written tokens) :=
  (Binding.builds_ofTree (Nat.le_refl room) tree onTree).ensures.mono (fun _ holds => holds.2)
    fun _ _ => trivial

theorem Binding.silent_ofTree (room : Nat) (tree : SymbolTree) :
    (Binding.ofTree room tree).Silent :=
  (Binding.builds_ofTree (Nat.le_refl room) tree (List.Subset.refl _)).silent

theorem Binding.persists_ofTree {room roomy : Nat} (le : room ≤ roomy) (tree : SymbolTree) :
    Persists (Binding.ofTree room tree) (Binding.ofTree roomy tree) :=
  (Binding.builds_ofTree le tree (List.Subset.refl _)).persists

/-- The trees that can be built are the ones that follow the grammar, and all others
end in a syntax error. -/
theorem builds_iff_grammatical {room : Nat} {tree : SymbolTree} (deep : tree.height < room)
    (short : ShortNumerals tree.tokens) :
    ((∃ expr, (Expr.ofTree room tree).outcome = .ok expr) ↔ tree.IsExpression) ∧
      (¬ tree.IsExpression →
        ∃ error, (Expr.ofTree room tree).outcome = .error (.program (.inSyntax error))) ∧
      ((∃ binding, (Binding.ofTree room tree).outcome = .ok binding) ↔ tree.IsBinding) ∧
      (¬ tree.IsBinding →
        ∃ error, (Binding.ofTree room tree).outcome = .error (.program (.inSyntax error))) := by
  have within : tree.Within room := ⟨deep, short⟩
  have expression := Expr.builds_ofTree (Nat.le_refl room) tree (List.Subset.refl _)
  have binding := Binding.builds_ofTree (Nat.le_refl room) tree (List.Subset.refl _)
  exact ⟨expression.exists_ok_iff within, expression.exists_error within,
    binding.exists_ok_iff within, binding.exists_error within⟩

/-- A parameter is refused where it is a literal. One more than the greatest integer
is a name. -/
theorem builds_iff_grammatical_at_the_greatest_integer :
    let define (parameter : String) : SymbolTree :=
      .node [.leaf "define", .node [.leaf "f", .leaf "x", .leaf parameter],
        .node [.leaf "let", .node [.node [.leaf "5", .leaf "x"]],
          .node [.leaf "test", .leaf "x"]]]
    ((define "2147483648").height < 5 ∧ ShortNumerals (define "2147483648").tokens ∧
      (define "2147483648").IsBinding) ∧
      (define "2147483647").height < 5 ∧ ShortNumerals (define "2147483647").tokens ∧
        ¬ (define "2147483647").IsBinding ∧
        ∃ error, (Binding.ofTree 5 (define "2147483647")).outcome =
          .error (.program (.inSyntax error)) := by
  intro define
  have accepted : ShortNumerals (define "2147483648").tokens := .of_length (by decide)
  have refused : ShortNumerals (define "2147483647").tokens := .of_length (by decide)
  have different : ¬ (define "2147483647").IsBinding := by
    intro derived
    have built := (builds_iff_grammatical (by decide : _ < 5) refused).2.2.1.mpr derived
    rcases built with ⟨binding, equal⟩
    cases equal
  exact ⟨⟨by decide, accepted,
      (builds_iff_grammatical (by decide : _ < 5) accepted).2.2.1.mp ⟨_, rfl⟩⟩,
    by decide, refused, different,
    (builds_iff_grammatical (by decide : _ < 5) refused).2.2.2 different⟩

end Trefoil
