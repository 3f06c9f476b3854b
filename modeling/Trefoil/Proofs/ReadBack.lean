import Trefoil.Proofs.Outcome
import Trefoil.Proofs.Trees
import Trefoil.Reader

/-! # Reading text back

The text of a tree is read as that tree, provided that its tokens are plain. A
piece of text that starts between tokens adds its forms to whatever was read
before it. That is said of single tokens, of rows with blanks between them, and
of rows in parentheses, and so of all trees. -/

namespace Trefoil

/-! ## Plain tokens -/

namespace Reader

open Trefoil.Text

/-- The characters, besides blanks, that mean something to the scanner: brackets,
quotes, the backslash and the start of a comment. -/
def marks : List Char := ['(', ')', '[', ']', apostrophe, doubleQuote, '\\', ';']

def isPlainChar (char : Char) : Bool := !isBlank char && !marks.contains char

def isPlain (token : String) : Bool := !token.toList.isEmpty && token.toList.all isPlainChar

end Reader

namespace Tree

def Plain (tree : SymbolTree) : Prop := ∀ token ∈ tree.tokens, Reader.isPlain token = true

instance (tree : SymbolTree) : Decidable tree.Plain :=
  inferInstanceAs (Decidable (∀ token ∈ tree.tokens, Reader.isPlain token = true))

@[simp] theorem plain_leaf {token : String} :
    (leaf token : SymbolTree).Plain ↔ Reader.isPlain token = true := by
  simp [Plain, tokens]

@[simp] theorem plain_node {children : List SymbolTree} :
    (node children).Plain ↔ ∀ child ∈ children, child.Plain := by
  simp only [Plain, tokens, mem_tokensAll, forall_exists_index, and_imp]
  exact ⟨fun all child member token => all token child member,
    fun all token child member => all child member token⟩

end Tree

namespace Reader

open Trefoil.Text

section

variable {char : Char}

theorem endsAtom_of_isPlainChar (plain : isPlainChar char = true) : endsAtom char = false := by
  simp_all [isPlainChar, marks, endsAtom]

theorem Scan.start_of_isPlainChar (plain : isPlainChar char = true) (position : Nat) :
    start position char = (none, atom [char]) := by
  simp_all [isPlainChar, marks, start]

theorem Scan.step_of_isPlainChar (plain : isPlainChar char = true) (position : Nat)
    (chars : List Char) : step position char (atom chars) = ([], atom (char :: chars)) := by
  have noEscape : char ≠ '\\' := by
    rintro rfl
    exact absurd plain (by decide)
  simp [step, endsAtom_of_isPlainChar plain, noEscape]

end

/-! ## The scanner -/

namespace Scanner

variable {scanner : Scanner} {start reading next : Reading} {char : Char} {chars : List Char}

/-- The scanner is between tokens or in a plain part of one, and if the text ended
here, its lexemes would lead from one reading to the other. -/
structure Reads (start : Reading) (scanner : Scanner) (reading : Reading) : Prop where
  plain : scanner.scan = .gap ∨ ∃ chars, scanner.scan = .atom chars
  leads : scanner.finish.foldlM Reading.step start = .ok reading

theorem finish_step {lexeme : Option Lexeme}
    (plain : scanner.scan = .gap ∨ ∃ chars, scanner.scan = .atom chars)
    (ends : endsAtom char = true) (starts : Scan.start scanner.position char = (lexeme, .gap)) :
    (scanner.step char).scan = .gap ∧
      (scanner.step char).finish = scanner.finish ++ lexeme.toList := by
  rcases plain with gap | ⟨chars, atom⟩
  · simp [Scanner.step, Scan.step, Scanner.finish, Scan.finish, gap, starts]
  · simp [Scanner.step, Scan.step, Scanner.finish, Scan.finish, atom, starts, ends]

theorem Reads.delimiter {lexeme : Option Lexeme} (reads : scanner.Reads start reading)
    (ends : endsAtom char = true) (starts : Scan.start scanner.position char = (lexeme, .gap))
    (leads : lexeme.toList.foldlM Reading.step reading = .ok next) :
    (scanner.step char).scan = .gap ∧ (scanner.step char).Reads start next := by
  rcases finish_step reads.plain ends starts with ⟨gap, finish⟩
  refine ⟨gap, .inl gap, ?_⟩
  rw [finish, List.foldlM_append, reads.leads]
  exact leads

theorem Reads.blank (reads : scanner.Reads start reading) (blank : isBlank char = true) :
    (scanner.step char).scan = .gap ∧ (scanner.step char).Reads start reading := by
  have ends : endsAtom char = true := by simp [endsAtom, blank]
  have starts : Scan.start scanner.position char = (none, .gap) := by simp [Scan.start, blank]
  exact reads.delimiter ends starts rfl

theorem Reads.opening {room : Nat} {outer : List Level} {before : List Form}
    (reads : scanner.Reads start ⟨room + 1, outer, before⟩) :
    (scanner.step '(').scan = .gap ∧
      (scanner.step '(').Reads start ⟨room, ⟨.bracket .round, before⟩ :: outer, []⟩ := by
  have starts : Scan.start scanner.position '(' = (some (.opening .round), .gap) := rfl
  exact reads.delimiter rfl starts rfl

theorem Reads.closing {room : Nat} {outer : List Level} {before forms : List Form}
    (reads : scanner.Reads start ⟨room, ⟨.bracket .round, before⟩ :: outer, forms⟩) :
    (scanner.step ')').Reads start ⟨room + 1, outer, .list forms.reverse :: before⟩ := by
  have starts : Scan.start scanner.position ')' =
      (some (.closing .round scanner.position), .gap) := rfl
  exact (reads.delimiter rfl starts rfl).2

theorem foldl_step_plain {more : List Char} (plain : ∀ char ∈ more, isPlainChar char = true)
    (inAtom : scanner.scan = .atom chars) :
    (more.foldl step scanner).scan = .atom (more.reverse ++ chars) ∧
      (more.foldl step scanner).lexemes = scanner.lexemes := by
  induction more generalizing scanner chars with
  | nil => exact ⟨inAtom, rfl⟩
  | cons char more induction =>
      have first : scanner.scan.step scanner.position char = ([], .atom (char :: chars)) := by
        rw [inAtom, Scan.step_of_isPlainChar (plain char (by simp))]
      have stepped : (scanner.step char).scan = .atom (char :: chars) := by
        simp [Scanner.step, first]
      have kept : (scanner.step char).lexemes = scanner.lexemes := by
        simp [Scanner.step, first]
      have rest := induction (fun other member => plain other (by simp [member])) stepped
      rw [List.foldl_cons, rest.1, rest.2, kept]
      simp

theorem Reads.token {token : String} (reads : scanner.Reads start reading)
    (gap : scanner.scan = .gap) (plain : isPlain token = true) :
    (token.toList.foldl step scanner).Reads start (reading.add (.symbol token)) := by
  rw [isPlain, Bool.and_eq_true, List.all_eq_true] at plain
  cases equation : token.toList with
  | nil => simp [equation] at plain
  | cons char more =>
      rw [equation] at plain
      have first : (scanner.step char).scan = .atom [char] ∧
          (scanner.step char).lexemes = scanner.lexemes := by
        simp [Scanner.step, Scan.step, gap, Scan.start_of_isPlainChar (plain.2 char (by simp))]
      have plainMore : ∀ other ∈ more, isPlainChar other = true :=
        fun other member => plain.2 other (by simp [member])
      have rest := foldl_step_plain plainMore first.1
      rw [first.2] at rest
      have finish : (more.foldl step (scanner.step char)).finish =
          scanner.finish ++ [.atom token] := by
        rw [Scanner.finish, Scanner.finish, rest.1, rest.2, gap, Scan.finish, Scan.finish,
          Scan.finishedAtom]
        simp [← equation]
      rw [List.foldl_cons]
      refine ⟨.inr ⟨_, rest.1⟩, ?_⟩
      rw [finish, List.foldlM_append, reads.leads]
      rfl

end Scanner

/-! ## Forms -/

theorem Reading.foldl_add (reading : Reading) (forms : List Form) :
    forms.foldl Reading.add reading = { reading with forms := forms.reverse ++ reading.forms } := by
  induction forms generalizing reading with
  | nil => rfl
  | cons form forms induction =>
      rw [List.foldl_cons, induction]
      simp [Reading.add]

theorem Reading.finish_outermost (room : Nat) (forms : List Form) :
    Reading.finish { room, forms } = .ok forms.reverse := rfl

/-- Whatever was read before it, the text adds the forms. Its parentheses nest up to
`levels` deep. -/
def Adds (levels : Nat) (source : String) (forms : List Form) : Prop :=
  ∀ (start reading : Reading) (scanner : Scanner), scanner.scan = .gap →
    levels ≤ reading.room → scanner.Reads start reading →
    (source.toList.foldl Scanner.step scanner).Reads start (forms.foldl Reading.add reading)

namespace Adds

variable {levels : Nat}

theorem mono {more : Nat} {source : String} {forms : List Form} (adds : Adds levels source forms)
    (fewer : levels ≤ more) : Adds more source forms :=
  fun start reading scanner gap fits =>
    adds start reading scanner gap (Nat.le_trans fewer fits)

theorem token {token : String} (plain : isPlain token = true) :
    Adds 0 token [.symbol token] :=
  fun _ _ _ gap _ reads => reads.token gap plain

theorem row {α : Type} {separator : String} {char : Char} (single : separator.toList = [char])
    (blank : isBlank char = true) {items : List α} {text : α → String} {form : α → Form}
    (one : ∀ item ∈ items, Adds levels (text item) [form item]) :
    Adds levels (separator.intercalate (items.map text)) (items.map form) := by
  induction items with
  | nil => exact fun _ _ _ _ _ reads => reads
  | cons item items induction =>
      intro start reading scanner gap fits reads
      have first := one item (by simp) start reading scanner gap fits reads
      cases items with
      | nil => simpa using first
      | cons other items =>
          -- The blank completes the last atom, and the next text starts between tokens.
          have divided := first.blank blank
          have rest := induction fun another member => one another (by simp [member])
          rw [List.map_cons, List.map_cons, String.intercalate_cons_cons, String.toList_append,
            String.toList_append, single, List.foldl_append, List.foldl_append]
          exact rest start (reading.add (form item)) _ divided.1 fits divided.2

theorem parenthesised {source : String} {forms : List Form} (adds : Adds levels source forms) :
    Adds (levels + 1) ("(" ++ source ++ ")") [.list forms] := by
  intro start reading scanner gap fits reads
  rcases reading with ⟨room, outer, before⟩
  -- The opening parenthesis takes one level of room, which the closing one gives back.
  cases room with
  | zero => cases fits
  | succ room =>
      have opened := reads.opening
      have inside := adds start _ _ opened.1 (Nat.le_of_succ_le_succ fits) opened.2
      rw [Reading.foldl_add] at inside
      have closed := inside.closing
      rw [List.append_nil, List.reverse_reverse] at closed
      rw [String.toList_append, String.toList_append, List.foldl_append, List.foldl_append]
      exact closed

end Adds

/-! ## Trees -/

namespace Form

mutual

def ofTree : SymbolTree → Form
  | .leaf token => symbol token
  | .node children => list (ofTrees children)
  | .foreign value => nomatch value

def ofTrees : List SymbolTree → List Form
  | [] => []
  | tree :: trees => ofTree tree :: ofTrees trees

end

theorem ofTrees_eq_map (trees : List SymbolTree) : ofTrees trees = trees.map ofTree := by
  induction trees with
  | nil => rfl
  | cons tree trees induction => rw [ofTrees, induction, List.map_cons]

theorem toTrees_map_ofTree {trees : List SymbolTree}
    (one : ∀ tree ∈ trees, toTree (ofTree tree) = .ok tree) :
    toTrees (trees.map ofTree) = .ok trees := by
  induction trees with
  | nil => rfl
  | cons tree trees induction =>
      have first := one tree (by simp)
      have rest := induction fun other member => one other (by simp [member])
      rw [List.map_cons, toTrees, first, rest]
      rfl

theorem toTree_ofTree (tree : SymbolTree) : toTree (ofTree tree) = .ok tree := by
  induction tree using Tree.induction with
  | leaf token => rfl
  | node children onChildren =>
      rw [ofTree, ofTrees_eq_map, toTree, toTrees_map_ofTree onChildren]
      rfl
  | foreign value => cases value

end Form

theorem adds_text (tree : SymbolTree) (plain : tree.Plain) :
    Adds tree.height tree.text [Form.ofTree tree] := by
  induction tree using Tree.induction with
  | leaf token =>
      have onToken := Adds.token (Tree.plain_leaf.mp plain)
      simpa [Tree.height, Form.ofTree] using onToken
  | node children onChildren =>
      have inside (child : SymbolTree) (member : child ∈ children) :
          Adds (Tree.heightAll children) child.text [Form.ofTree child] := by
        have lower : child.height < (Tree.node children).height := Tree.height_lt_of_mem member
        rw [Tree.height, Nat.lt_succ_iff] at lower
        exact (onChildren child member (Tree.plain_node.mp plain child member)).mono lower
      have row : Adds _ (" ".intercalate _) _ := Adds.row rfl (by decide) inside
      rw [Tree.text_node, Tree.height, Form.ofTree, Form.ofTrees_eq_map]
      exact row.parenthesised
  | foreign value => cases value

/-! ## Sources -/

theorem outcome_program {trees : List SymbolTree} {room : Nat}
    (plain : ∀ tree ∈ trees, tree.Plain) (fits : ∀ tree ∈ trees, tree.height ≤ room) :
    (program room ("\n".intercalate (trees.map Tree.text))).outcome = .ok trees := by
  have one (tree : SymbolTree) (member : tree ∈ trees) :
      Adds room tree.text [Form.ofTree tree] :=
    (adds_text tree (plain tree member)).mono (fits tree member)
  have row : Adds room ("\n".intercalate _) _ := Adds.row rfl (by decide) one
  have leads := (row { room } { room } {} rfl (Nat.le_refl room) ⟨.inl rfl, rfl⟩).leads
  rw [Reading.foldl_add, List.append_nil] at leads
  have read : forms room ("\n".intercalate (trees.map Tree.text)).toList =
      .ok (trees.map Form.ofTree) := by
    have finish := Reading.finish_outermost room (trees.map Form.ofTree).reverse
    rw [List.reverse_reverse] at finish
    rw [forms, nest, lexemes, leads]
    exact finish
  have back := Form.toTrees_map_ofTree fun tree (_ : tree ∈ trees) => Form.toTree_ofTree tree
  rw [program, Traced.outcome_bind, Traced.outcome_log, Traced.ok_bind, read]
  dsimp only
  rw [back]
  rfl

theorem outcome_single {tree : SymbolTree} {room : Nat} (plain : tree.Plain)
    (fits : tree.height ≤ room) :
    (single room tree.text).outcome = .ok tree := by
  have read : (program room ("\n".intercalate ([tree].map Tree.text))).outcome = .ok [tree] :=
    outcome_program (by simpa using plain) (by simpa using fits)
  rw [List.map_singleton, String.intercalate_singleton] at read
  rw [single, Traced.outcome_bind, read]
  rfl

end Reader

end Trefoil
