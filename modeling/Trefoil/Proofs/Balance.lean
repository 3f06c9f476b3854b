import Mathlib.Data.List.Infix
import Trefoil.Proofs.ReadBack
import Trefoil.Proofs.Tokens

/-! # Balanced parentheses

Whether a text can be read is a matter of counting parentheses. The tokens that
are read go to a stack of rows, one for each open parenthesis, and the reader goes
along with it. How high the stack is, and when it is too low for a closing
parenthesis, only depends on how many parentheses have been opened and closed. -/

namespace Trefoil

namespace Tree

variable {host : Type}

mutual

/-- The tokens of a tree and its parentheses, from left to right. -/
def flatten : Tree host → List String
  | leaf token => [token]
  | node children => "(" :: flattenAll children ++ [")"]
  | foreign _ => []

def flattenAll : List (Tree host) → List String
  | [] => []
  | tree :: trees => flatten tree ++ flattenAll trees

end

theorem flattenAll_append (front back : List (Tree host)) :
    flattenAll (front ++ back) = flattenAll front ++ flattenAll back := by
  induction front with
  | nil => rfl
  | cons tree front induction =>
      rw [List.cons_append, flattenAll, flattenAll, induction, List.append_assoc]

end Tree

namespace Reader

open Trefoil.Text

/-! ## Counting -/

/-- Some beginning of the tokens closes more parentheses than it has opened. -/
def Overcloses (tokens : List String) : Prop :=
  ∃ front, front <+: tokens ∧ front.count "(" < front.count ")"

def Fits (room : Nat) (tokens : List String) : Prop :=
  ∀ front, front <+: tokens → front.count "(" ≤ front.count ")" + room

/-- Every parenthesis that is closed was opened before, and every one that is opened is
closed. -/
def Balanced (tokens : List String) : Prop :=
  ¬ Overcloses tokens ∧ tokens.count "(" = tokens.count ")"

instance (tokens : List String) : Decidable (Overcloses tokens) :=
  decidable_of_iff (∃ front ∈ tokens.inits, front.count "(" < front.count ")") (by
    simp only [List.mem_inits, Overcloses])

instance (room : Nat) (tokens : List String) : Decidable (Fits room tokens) :=
  decidable_of_iff (∀ front ∈ tokens.inits, front.count "(" ≤ front.count ")" + room) (by
    simp only [List.mem_inits, Fits])

instance (tokens : List String) : Decidable (Balanced tokens) :=
  inferInstanceAs (Decidable (¬ Overcloses tokens ∧ tokens.count "(" = tokens.count ")"))

theorem count_le_of_not_overcloses {front tokens : List String} (sane : ¬ Overcloses tokens)
    (begins : front <+: tokens) : front.count ")" ≤ front.count "(" := by
  by_contra more
  exact sane ⟨front, begins, Nat.lt_of_not_le more⟩

theorem Balanced.split {front back : List String} (balanced : Balanced (front ++ back))
    (closed : front.count "(" ≤ front.count ")") : Balanced front ∧ Balanced back := by
  have least := count_le_of_not_overcloses balanced.1 (List.prefix_append front back)
  have total := balanced.2
  rw [List.count_append, List.count_append] at total
  refine ⟨⟨?_, Nat.le_antisymm closed least⟩, ?_, by omega⟩
  · rintro ⟨start, begins, more⟩
    exact balanced.1 ⟨start, begins.trans (List.prefix_append front back), more⟩
  · rintro ⟨start, begins, more⟩
    refine balanced.1 ⟨front ++ start, (List.prefix_append_right_inj front).mpr begins, ?_⟩
    rw [List.count_append, List.count_append]
    omega

theorem Fits.split {room : Nat} {front back : List String} (fits : Fits room (front ++ back))
    (balanced : Balanced front) : Fits room front ∧ Fits room back := by
  constructor
  · intro start begins
    exact fits start (begins.trans (List.prefix_append front back))
  · intro start begins
    have bound := fits (front ++ start) ((List.prefix_append_right_inj front).mpr begins)
    rw [List.count_append, List.count_append, balanced.2] at bound
    omega

/-! ## Rows of trees -/

/-- The trees inside each open parenthesis and those outside all of them. Each row has
its last tree first. -/
inductive Nesting where
  | outermost (trees : List SymbolTree)
  | inside (outer : Nesting) (trees : List SymbolTree)

namespace Nesting

def depth : Nesting → Nat
  | outermost _ => 0
  | inside outer _ => outer.depth + 1

def flat : Nesting → List String
  | outermost trees => Tree.flattenAll trees.reverse
  | inside outer trees => outer.flat ++ "(" :: Tree.flattenAll trees.reverse

def add (tree : SymbolTree) : Nesting → Nesting
  | outermost trees => outermost (tree :: trees)
  | inside outer trees => inside outer (tree :: trees)

/-- The nesting with trees before all that it has. -/
def above (base : List SymbolTree) : Nesting → Nesting
  | outermost trees => outermost (trees ++ base)
  | inside outer trees => inside (outer.above base) trees

def step (nesting : Nesting) (token : String) : Option Nesting :=
  if token = "(" then some (inside nesting [])
  else if token = ")" then
    match nesting with
    | outermost _ => none
    | inside outer trees => some (outer.add (.node trees.reverse))
  else some (nesting.add (.leaf token))

def trees? : Nesting → Option (List SymbolTree)
  | outermost trees => some trees.reverse
  | inside _ _ => none

@[simp] theorem depth_add (tree : SymbolTree) (nesting : Nesting) :
    (nesting.add tree).depth = nesting.depth := by
  cases nesting <;> rfl

@[simp] theorem flat_add (tree : SymbolTree) (nesting : Nesting) :
    (nesting.add tree).flat = nesting.flat ++ tree.flatten := by
  cases nesting <;> simp [add, flat, Tree.flattenAll_append, Tree.flattenAll]

@[simp] theorem above_add (base : List SymbolTree) (tree : SymbolTree) (nesting : Nesting) :
    (nesting.add tree).above base = (nesting.above base).add tree := by
  cases nesting <;> rfl

theorem step_eq_some {nesting next : Nesting} {token : String}
    (stepped : nesting.step token = some next) :
    token = "(" ∧ next = inside nesting [] ∨
      (token = ")" ∧ ∃ outer trees,
        nesting = inside outer trees ∧ next = outer.add (.node trees.reverse)) ∨
      token ≠ "(" ∧ token ≠ ")" ∧ next = nesting.add (.leaf token) := by
  unfold step at stepped
  split_ifs at stepped with opens closes
  · exact .inl ⟨opens, (Option.some.inj stepped).symm⟩
  · cases nesting with
    | outermost trees => cases stepped
    | inside outer trees =>
        exact .inr (.inl ⟨closes, outer, trees, rfl, (Option.some.inj stepped).symm⟩)
  · exact .inr (.inr ⟨opens, closes, (Option.some.inj stepped).symm⟩)

theorem step_eq_none {nesting : Nesting} {token : String} (failed : nesting.step token = none) :
    token = ")" ∧ nesting.depth = 0 := by
  unfold step at failed
  split_ifs at failed with opens closes
  cases nesting with
  | outermost trees => exact ⟨closes, rfl⟩
  | inside outer trees => cases failed

theorem step_spec {nesting next : Nesting} {token : String}
    (stepped : nesting.step token = some next) :
    next.depth + [token].count ")" = nesting.depth + [token].count "(" ∧
      next.flat = nesting.flat ++ [token] ∧
      ∀ base, (nesting.above base).step token = some (next.above base) := by
  rcases step_eq_some stepped with
    ⟨rfl, rfl⟩ | ⟨rfl, outer, trees, rfl, rfl⟩ | ⟨noOpening, noClosing, rfl⟩
  · exact ⟨rfl, rfl, fun base => rfl⟩
  · refine ⟨by simp [depth], by simp [flat, Tree.flatten], fun base => ?_⟩
    simp [step, above]
  · refine ⟨by simp [noOpening, noClosing], by simp [Tree.flatten], fun base => ?_⟩
    simp [step, noOpening, noClosing]

theorem foldlM_spec {nesting next : Nesting} {tokens : List String}
    (runs : tokens.foldlM step nesting = some next) :
    next.depth + tokens.count ")" = nesting.depth + tokens.count "(" ∧
      next.flat = nesting.flat ++ tokens ∧
      ∀ base, tokens.foldlM step (nesting.above base) = some (next.above base) := by
  induction tokens generalizing nesting with
  | nil =>
      cases runs
      exact ⟨rfl, (List.append_nil _).symm, fun base => rfl⟩
  | cons token tokens induction =>
      rw [List.foldlM_cons] at runs
      rcases Option.bind_eq_some_iff.mp runs with ⟨middle, stepped, rest⟩
      rcases step_spec stepped with ⟨depthFirst, flatFirst, aboveFirst⟩
      rcases induction rest with ⟨depthRest, flatRest, aboveRest⟩
      refine ⟨?_, by simp [flatRest, flatFirst], fun base => ?_⟩
      · rw [← List.singleton_append, List.count_append, List.count_append]
        omega
      · rw [List.foldlM_cons, aboveFirst]
        exact aboveRest base

theorem overcloses_of_foldlM {nesting : Nesting} {tokens : List String}
    (failed : tokens.foldlM step nesting = none) :
    ∃ front, front <+: tokens ∧ nesting.depth + front.count "(" < front.count ")" := by
  induction tokens generalizing nesting with
  | nil => cases failed
  | cons token tokens induction =>
      rw [List.foldlM_cons] at failed
      cases stepped : nesting.step token with
      | none =>
          rcases step_eq_none stepped with ⟨rfl, noDepth⟩
          exact ⟨[")"], by simp, by simp [noDepth]⟩
      | some middle =>
          rw [stepped] at failed
          rcases induction failed with ⟨front, begins, more⟩
          have depth := (step_spec stepped).1
          refine ⟨token :: front, List.cons_prefix_cons.mpr ⟨rfl, begins⟩, ?_⟩
          rw [← List.singleton_append, List.count_append, List.count_append]
          omega

end Nesting

/-! ## The trees of tokens -/

/-- The trees that tokens are written as. -/
def arrange (tokens : List String) : Option (List SymbolTree) :=
  (tokens.foldlM Nesting.step (.outermost [])).bind Nesting.trees?

theorem arrange_eq_some {tokens : List String} {trees : List SymbolTree} :
    arrange tokens = some trees ↔
      tokens.foldlM Nesting.step (.outermost []) = some (.outermost trees.reverse) := by
  rw [arrange, Option.bind_eq_some_iff]
  constructor
  · rintro ⟨nesting, runs, outermost⟩
    cases nesting with
    | inside outer trees => cases outermost
    | outermost row =>
        cases outermost
        rw [runs, List.reverse_reverse]
  · intro runs
    exact ⟨_, runs, congrArg some (List.reverse_reverse trees)⟩

theorem not_overcloses_of_foldlM {tokens : List String} {nesting : Nesting}
    (runs : tokens.foldlM Nesting.step (.outermost []) = some nesting) : ¬ Overcloses tokens := by
  rintro ⟨front, ⟨back, rfl⟩, more⟩
  rw [List.foldlM_append] at runs
  rcases Option.bind_eq_some_iff.mp runs with ⟨middle, first, _⟩
  have counted := (Nesting.foldlM_spec first).1
  simp only [Nesting.depth] at counted
  omega

theorem exists_arrange_iff {tokens : List String} :
    (∃ trees, arrange tokens = some trees) ↔ Balanced tokens := by
  constructor
  · rintro ⟨trees, arranged⟩
    rw [arrange_eq_some] at arranged
    have counted := (Nesting.foldlM_spec arranged).1
    simp only [Nesting.depth] at counted
    exact ⟨not_overcloses_of_foldlM arranged, by omega⟩
  · rintro ⟨sane, closed⟩
    cases runs : tokens.foldlM Nesting.step (.outermost []) with
    | none =>
        rcases Nesting.overcloses_of_foldlM runs with ⟨front, begins, more⟩
        simp only [Nesting.depth] at more
        exact absurd ⟨front, begins, by omega⟩ sane
    | some nesting =>
        have counted := (Nesting.foldlM_spec runs).1
        cases nesting with
        | outermost trees => exact ⟨trees.reverse, by rw [arrange, runs]; rfl⟩
        | inside outer trees =>
            simp only [Nesting.depth] at counted
            omega

theorem flattenAll_of_arrange {tokens : List String} {trees : List SymbolTree}
    (arranged : arrange tokens = some trees) : Tree.flattenAll trees = tokens := by
  rw [arrange_eq_some] at arranged
  have flat := (Nesting.foldlM_spec arranged).2.1
  simpa [Nesting.flat, Tree.flattenAll] using flat

theorem arrange_append {front back : List String} {first second : List SymbolTree}
    (onFront : arrange front = some first) (onBack : arrange back = some second) :
    arrange (front ++ back) = some (first ++ second) := by
  rw [arrange_eq_some] at *
  have above := (Nesting.foldlM_spec onBack).2.2 first.reverse
  rw [List.foldlM_append, onFront, List.reverse_append]
  exact above

theorem exists_arrange_of_append {room : Nat} {front back : List String} {trees : List SymbolTree}
    (arranged : arrange (front ++ back) = some trees) (fits : Fits room (front ++ back))
    (closed : front.count "(" ≤ front.count ")") :
    ∃ first others, trees = first ++ others ∧ (arrange front = some first ∧ Fits room front) ∧
      arrange back = some others ∧ Fits room back := by
  rcases (exists_arrange_iff.mp ⟨trees, arranged⟩).split closed with ⟨balanced, balancedRest⟩
  rcases exists_arrange_iff.mpr balanced with ⟨first, onFront⟩
  rcases exists_arrange_iff.mpr balancedRest with ⟨others, onBack⟩
  rcases fits.split balanced with ⟨fitsFront, fitsBack⟩
  have whole : some trees = some (first ++ others) :=
    arranged.symm.trans (arrange_append onFront onBack)
  exact ⟨first, others, Option.some.inj whole, ⟨onFront, fitsFront⟩, onBack, fitsBack⟩

/-! ## The reader -/

namespace Nesting

def forms : Nesting → List Form
  | outermost trees | inside _ trees => trees.map Form.ofTree

def levels : Nesting → List Level
  | outermost _ => []
  | inside outer _ => ⟨.bracket .round, outer.forms⟩ :: outer.levels

/-- The reader with the nesting, where parentheses may nest `room` deep in all. -/
def reading (room : Nat) (nesting : Nesting) : Reading :=
  { room := room - nesting.depth, levels := nesting.levels, forms := nesting.forms }

theorem reading_add (room : Nat) (tree : SymbolTree) (nesting : Nesting) :
    (nesting.add tree).reading room = (nesting.reading room).add (Form.ofTree tree) := by
  cases nesting <;> rfl

variable {nesting : Nesting} {room : Nat}

/-- The reader follows the nesting, up to a stray closing parenthesis or to an opening one
that it has no room for. -/
theorem step_reading {lexeme : Lexeme} {token : String} (same : lexeme.token? = some token)
    (fits : nesting.depth ≤ room) :
    (∃ next, nesting.step token = some next ∧ next.depth ≤ room ∧
        (nesting.reading room).step lexeme = .ok (next.reading room)) ∨
      (nesting.step token = none ∧
        ∃ position, (nesting.reading room).step lexeme = .error (.strayCloser position)) ∨
      (token = "(" ∧ nesting.depth = room ∧
        (nesting.reading room).step lexeme = .error .tooDeep) := by
  cases lexeme with
  | quote _ | text _ | unfinishedText | unfinishedEscape => cases same
  | opening bracket =>
      cases bracket with
      | square => cases same
      | round =>
          cases same
          rcases Nat.eq_or_lt_of_le fits with full | free
          · refine .inr (.inr ⟨rfl, full, ?_⟩)
            simp [Reading.step, Reading.enter, reading, full]
          · have left : room - nesting.depth = room - (nesting.depth + 1) + 1 := by omega
            refine .inl ⟨inside nesting [], rfl, free, ?_⟩
            simp only [Reading.step, Reading.enter, reading, left]
            rfl
  | closing bracket position =>
      cases bracket with
      | square => cases same
      | round =>
          cases same
          cases nesting with
          | outermost trees => exact .inr (.inl ⟨rfl, position, rfl⟩)
          | inside outer trees =>
              simp only [depth] at fits
              have fitsOuter : outer.depth ≤ room := by omega
              have back : room - (outer.depth + 1) + 1 = room - outer.depth := by omega
              have closed : ((inside outer trees).reading room).step (.closing .round position) =
                  .ok ⟨room - (outer.depth + 1) + 1, outer.levels,
                    .list (trees.map Form.ofTree).reverse :: outer.forms⟩ := rfl
              refine .inl ⟨outer.add (.node trees.reverse), rfl, by simpa using fitsOuter, ?_⟩
              rw [closed, back, reading_add, Form.ofTree, Form.ofTrees_eq_map, List.map_reverse]
              rfl
  | atom word =>
      rw [Lexeme.token?] at same
      split at same
      · cases same
      next notParen =>
          cases same
          rw [not_or] at notParen
          refine .inl ⟨nesting.add (.leaf token), by simp [step, notParen], by simpa, ?_⟩
          rw [reading_add, Form.ofTree]
          rfl

theorem foldlM_reading {lexemes : List Lexeme} {tokens : List String}
    (same : lexemes.map Lexeme.token? = tokens.map some) (fits : nesting.depth ≤ room) :
    (∃ next, tokens.foldlM step nesting = some next ∧
        lexemes.foldlM Reading.step (nesting.reading room) = .ok (next.reading room) ∧
        ∀ front, front <+: tokens → nesting.depth + front.count "(" ≤ front.count ")" + room) ∨
      (tokens.foldlM step nesting = none ∧ ∃ position,
        lexemes.foldlM Reading.step (nesting.reading room) = .error (.strayCloser position)) ∨
      ((∃ front, front <+: tokens ∧ front.count ")" + room < nesting.depth + front.count "(") ∧
        lexemes.foldlM Reading.step (nesting.reading room) = .error .tooDeep) := by
  induction tokens generalizing lexemes nesting with
  | nil =>
      rw [List.map_nil, List.map_eq_nil_iff] at same
      subst same
      refine .inl ⟨nesting, rfl, rfl, ?_⟩
      intro front begins
      rw [List.prefix_nil.mp begins]
      simpa using fits
  | cons token tokens induction =>
      rcases List.map_eq_cons_iff.mp same with ⟨lexeme, rest, rfl, sameFirst, sameRest⟩
      rw [List.foldlM_cons, List.foldlM_cons]
      rcases step_reading sameFirst fits with
        ⟨next, stepped, fitsNext, read⟩ | ⟨failed, position, stray⟩ | ⟨rfl, full, tooDeep⟩
      · have depth := (step_spec stepped).1
        rw [stepped, read]
        rcases induction sameRest fitsNext with
          ⟨final, runs, reads, within⟩ | failed | ⟨⟨front, begins, more⟩, tooDeep⟩
        · refine .inl ⟨final, runs, reads, ?_⟩
          intro front begins
          rcases List.prefix_cons_iff.mp begins with rfl | ⟨others, rfl, beginsRest⟩
          · simpa using fits
          · have bound := within others beginsRest
            rw [← List.singleton_append, List.count_append, List.count_append]
            omega
        · exact .inr (.inl failed)
        · have longer : token :: front <+: token :: tokens :=
            List.cons_prefix_cons.mpr ⟨rfl, begins⟩
          refine .inr (.inr ⟨⟨token :: front, longer, ?_⟩, tooDeep⟩)
          rw [← List.singleton_append, List.count_append, List.count_append]
          omega
      · exact .inr (.inl ⟨by rw [failed]; rfl, position, by rw [stray]; rfl⟩)
      · exact .inr (.inr ⟨⟨["("], by simp, by simp [full]⟩, by rw [tooDeep]; rfl⟩)

end Nesting

/-! ## What trees have no place for

Reading goes on after a text literal or a quote. Its form stays among the others, though,
and so what was read before is known from what became of it. -/

theorem bind_eq_ok {ε α β : Type} {first : Except ε α} {next : α → Except ε β} {result : β}
    (returns : (first >>= next) = .ok result) :
    ∃ value, first = .ok value ∧ next value = .ok result := by
  cases first with
  | error reason => cases returns
  | ok value => exact ⟨value, rfl, returns⟩

def Form.HasTree (form : Form) : Prop := ∃ tree, form.toTree = .ok tree

theorem Form.hasTree_of_toTrees {forms : List Form} {trees : List SymbolTree}
    (found : toTrees forms = .ok trees) : ∀ form ∈ forms, form.HasTree := by
  induction forms generalizing trees with
  | nil => exact nofun
  | cons form forms induction =>
      rw [toTrees] at found
      rcases bind_eq_ok found with ⟨tree, first, found⟩
      rcases bind_eq_ok found with ⟨others, rest, _⟩
      exact List.forall_mem_cons.mpr ⟨⟨tree, first⟩, induction rest⟩

theorem exists_quoted_of_quoteFirst? {forms settled : List Form}
    (quotes : quoteFirst? forms = some settled) : ∃ form, .quoted form ∈ settled := by
  fun_induction quoteFirst? forms generalizing settled with
  | case1 => cases quotes
  | case2 form =>
      cases quotes
      exact ⟨form, by simp⟩
  | case3 form earlier _ induction =>
      rcases Option.map_eq_some_iff.mp quotes with ⟨others, quoted, rfl⟩
      rcases induction quoted with ⟨inner, member⟩
      exact ⟨inner, by simp [member]⟩

/-- A quote would stay among the forms, so there is none on the innermost level. -/
theorem hasTree_of_settle {room : Nat} {levels : List Level} {forms : List Form} {settled : Settled}
    (settles : settle room levels forms = .ok settled)
    (trees : ∀ form ∈ settled.forms, form.HasTree) :
    (∀ form ∈ forms, form.HasTree) ∧
      (levels = [] ∧ settled.inside = none ∨ ∃ bracket before outer,
        levels = ⟨.bracket bracket, before⟩ :: outer ∧
          settled.inside = some (bracket, before, outer)) := by
  induction levels generalizing room forms with
  | nil =>
      cases settles
      exact ⟨trees, .inl ⟨rfl, rfl⟩⟩
  | cons level levels induction =>
      rcases level with ⟨opener, before⟩
      cases opener with
      | bracket bracket =>
          cases settles
          exact ⟨trees, .inr ⟨bracket, before, levels, rfl, rfl⟩⟩
      | quote position =>
          rw [settle] at settles
          split at settles
          · cases settles
          next quoted quotes =>
              rcases exists_quoted_of_quoteFirst? quotes with ⟨form, member⟩
              have onward := (induction settles).1 (.quoted form) (by simp [member])
              rcases onward with ⟨tree, found⟩
              cases found

namespace Reading

structure HasTrees (reading : Reading) : Prop where
  levels : ∀ level ∈ reading.levels,
    level.opener = .bracket .round ∧ ∀ form ∈ level.before, form.HasTree
  forms : ∀ form ∈ reading.forms, form.HasTree

variable {reading next : Reading}

theorem hasTrees_of_close {bracket : Bracket} {position : Nat}
    (closes : reading.close bracket position = .ok next) (trees : next.HasTrees) :
    reading.HasTrees ∧ bracket = .round := by
  rcases bind_eq_ok closes with ⟨settled, settles, encloses⟩
  split at encloses
  · cases encloses
  next opened before outer inside =>
    split at encloses
    next same =>
      cases encloses
      -- The list that was closed has a tree, and so have the forms in it.
      rcases trees.forms _ List.mem_cons_self with ⟨tree, found⟩
      cases opened with
      | square => cases found
      | round =>
          rcases bind_eq_ok found with ⟨children, onList, _⟩
          have onForms : ∀ form ∈ settled.forms, form.HasTree := by
            simpa using Form.hasTree_of_toTrees onList
          rcases hasTree_of_settle settles onForms with
            ⟨onInner, ⟨_, outermost⟩ | ⟨bracket, row, rest, levels, around⟩⟩
          · simp [outermost] at inside
          · rw [inside] at around
            cases around
            have onBefore : ∀ form ∈ before, form.HasTree :=
              fun form member => trees.forms form (by simp [member])
            refine ⟨⟨?_, onInner⟩, same.symm⟩
            rw [levels, List.forall_mem_cons]
            exact ⟨⟨rfl, onBefore⟩, trees.levels⟩
    · cases encloses

theorem hasTrees_of_step {lexeme : Lexeme} (stepped : reading.step lexeme = .ok next)
    (trees : next.HasTrees) : reading.HasTrees ∧ lexeme.isTreePart = true := by
  cases lexeme with
  | unfinishedText | unfinishedEscape => cases stepped
  | atom token =>
      cases stepped
      exact ⟨⟨trees.levels, fun form member => trees.forms form (by simp [add, member])⟩, rfl⟩
  | text value =>
      cases stepped
      rcases trees.forms (.text value) (by simp [add]) with ⟨tree, found⟩
      cases found
  | quote position =>
      simp only [step, enter] at stepped
      split at stepped
      · cases stepped
      · cases stepped
        cases (trees.levels _ List.mem_cons_self).1
  | opening bracket =>
      simp only [step, enter] at stepped
      split at stepped
      · cases stepped
      · cases stepped
        rcases trees with ⟨levels, _⟩
        rw [List.forall_mem_cons] at levels
        rcases levels with ⟨⟨round, before⟩, outer⟩
        cases round
        exact ⟨⟨outer, before⟩, rfl⟩
  | closing bracket position =>
      rcases hasTrees_of_close stepped trees with ⟨onInner, rfl⟩
      exact ⟨onInner, rfl⟩

theorem isTreePart_of_foldlM {lexemes : List Lexeme}
    (runs : lexemes.foldlM step reading = .ok next) (trees : next.HasTrees) :
    reading.HasTrees ∧ ∀ lexeme ∈ lexemes, lexeme.isTreePart = true := by
  induction lexemes generalizing reading with
  | nil =>
      cases runs
      exact ⟨trees, nofun⟩
  | cons lexeme lexemes induction =>
      rw [List.foldlM_cons] at runs
      rcases bind_eq_ok runs with ⟨middle, stepped, rest⟩
      rcases induction rest with ⟨onMiddle, onRest⟩
      rcases hasTrees_of_step stepped onMiddle with ⟨onFirst, part⟩
      exact ⟨onFirst, List.forall_mem_cons.mpr ⟨part, onRest⟩⟩

theorem hasTrees_of_finish {forms : List Form} (finishes : reading.finish = .ok forms)
    (trees : ∀ form ∈ forms, form.HasTree) : reading.HasTrees := by
  rcases bind_eq_ok finishes with ⟨settled, settles, ends⟩
  split at ends
  next outermost =>
      cases ends
      have onForms : ∀ form ∈ settled.forms, form.HasTree := by simpa using trees
      rcases hasTree_of_settle settles onForms with
        ⟨onInner, ⟨levels, _⟩ | ⟨bracket, row, rest, _, around⟩⟩
      · exact ⟨by simp [levels], onInner⟩
      · simp [outermost] at around
  · cases ends

end Reading

theorem acceptsAll_of_read {room : Nat} {source : String} {trees : List SymbolTree}
    (noEscape : '\\' ∉ source.toList) (read : (program room source).outcome = .ok trees) :
    Scan.gap.acceptsAll source.toList = true := by
  apply acceptsAll_of_lexemes noEscape
  rw [program, Traced.outcome_bind, Traced.outcome_log, Traced.ok_bind] at read
  split at read
  next error _ => cases error <;> cases read
  next forms nests =>
      split at read
      · cases read
      next found =>
          rcases bind_eq_ok nests with ⟨reading, runs, finishes⟩
          have onForms := Form.hasTree_of_toTrees found
          exact (Reading.isTreePart_of_foldlM runs (Reading.hasTrees_of_finish finishes onForms)).2

/-! ## Sources -/

theorem outcome_program_of_error {room : Nat} {source : String} {error : NestingError}
    (failed : forms room source.toList = .error error) :
    (program room source).outcome = .error (error.failure source) := by
  rw [program, Traced.outcome_bind, Traced.outcome_log, Traced.ok_bind, failed]
  cases error <;> rfl

theorem outcome_program_of_ok {room : Nat} {source : String} {trees : List SymbolTree}
    (read : forms room source.toList = .ok (trees.map Form.ofTree)) :
    (program room source).outcome = .ok trees := by
  have back := Form.toTrees_map_ofTree fun tree (_ : tree ∈ trees) => Form.toTree_ofTree tree
  rw [program, Traced.outcome_bind, Traced.outcome_log, Traced.ok_bind, read]
  dsimp only
  rw [back]
  rfl

theorem outcome_program_of_accepted {room : Nat} {source : String}
    (accepted : Scan.gap.acceptsAll source.toList = true) :
    (∃ trees, arrange (tokens source) = some trees ∧ Fits room (tokens source) ∧
        (program room source).outcome = .ok trees) ∨
      (Overcloses (tokens source) ∧ ∃ rest, (program room source).outcome =
        .error (.program (.inSyntax (.strayCloser source rest)))) ∨
      (¬ Overcloses (tokens source) ∧ (tokens source).count "(" ≠ (tokens source).count ")" ∧
        (program room source).outcome =
          .error (.program (.inSyntax (.unclosed source .round none)))) ∨
      (¬ Fits room (tokens source) ∧ (program room source).outcome = .error .tooDeep) := by
  have run := @Nesting.foldlM_reading (.outermost []) room _ _ (map_token?_lexemes accepted)
    (Nat.zero_le room)
  have formsOf (result) (leads : (lexemes source.toList).foldlM Reading.step { room } = result) :
      forms room source.toList = result >>= Reading.finish := by
    rw [forms, nest, leads]
  rcases run with ⟨nesting, runs, reads, fits⟩ | ⟨failed, position, stray⟩ |
    ⟨⟨front, begins, more⟩, tooDeep⟩
  · have counted := (Nesting.foldlM_spec runs).1
    cases nesting with
    | outermost trees =>
        have read : forms room source.toList = .ok (trees.reverse.map Form.ofTree) := by
          rw [formsOf _ reads, List.map_reverse]
          rfl
        refine .inl ⟨trees.reverse, ?_, ?_, outcome_program_of_ok read⟩
        · rw [arrange_eq_some, runs, List.reverse_reverse]
        · simpa [Fits, Nesting.depth] using fits
    | inside outer trees =>
        simp only [Nesting.depth] at counted
        refine .inr (.inr (.inl ⟨not_overcloses_of_foldlM runs, by omega, ?_⟩))
        exact outcome_program_of_error (formsOf _ reads)
  · rcases Nesting.overcloses_of_foldlM failed with ⟨front, begins, more⟩
    simp only [Nesting.depth] at more
    exact .inr (.inl ⟨⟨front, begins, by omega⟩, _, outcome_program_of_error (formsOf _ stray)⟩)
  · simp only [Nesting.depth] at more
    refine .inr (.inr (.inr ⟨?_, outcome_program_of_error (formsOf _ tooDeep)⟩))
    intro fits
    have bound := fits front begins
    omega

theorem fits_of_unclosed {room : Nat} {source : String} {opened : Bracket}
    {found : Option Bracket} (accepted : Scan.gap.acceptsAll source.toList = true)
    (unclosed : (program room source).outcome =
      .error (.program (.inSyntax (.unclosed source opened found)))) :
    Fits room (tokens source) := by
  have failing (error : NestingError)
      (stuck : (lexemes source.toList).foldlM Reading.step { room } = .error error) :
      error.failure source = .program (.inSyntax (.unclosed source opened found)) := by
    have fails : forms room source.toList = .error error := by rw [forms, nest, stuck]; rfl
    rw [outcome_program_of_error fails] at unclosed
    exact Except.error.inj unclosed
  rcases @Nesting.foldlM_reading (.outermost []) room _ _ (map_token?_lexemes accepted)
    (Nat.zero_le room) with ⟨nesting, _, _, fits⟩ | ⟨_, position, stray⟩ | ⟨_, tooDeep⟩
  · simpa [Fits, Nesting.depth] using fits
  · cases failing _ stray
  · cases failing _ tooDeep

theorem outcome_program_eq_ok {room : Nat} {source : String} {trees : List SymbolTree}
    (accepted : Scan.gap.acceptsAll source.toList = true) :
    (program room source).outcome = .ok trees ↔
      arrange (tokens source) = some trees ∧ Fits room (tokens source) := by
  have balanced (arranged : arrange (tokens source) = some trees) : Balanced (tokens source) :=
    exists_arrange_iff.mp ⟨trees, arranged⟩
  rcases @outcome_program_of_accepted room source accepted with
    ⟨found, arranged, fits, read⟩ | ⟨overcloses, rest, stray⟩ | ⟨sane, differ, unclosed⟩ |
    ⟨tight, tooDeep⟩
  · rw [read, arranged]
    simp [fits]
  · rw [stray]
    exact ⟨nofun, fun both => absurd overcloses (balanced both.1).1⟩
  · rw [unclosed]
    exact ⟨nofun, fun both => absurd (balanced both.1).2 differ⟩
  · rw [tooDeep]
    exact ⟨nofun, fun both => absurd both.2 tight⟩

/-- A source without brackets, quotes and backslashes can be read exactly if its
parentheses are balanced. Its trees then are its tokens, and otherwise the error
tells whether a parenthesis is closed that is not open. -/
theorem reads_iff_balanced {room : Nat} {source : String}
    (unmarked : ∀ char ∈ source.toList, char ∉ [doubleQuote, apostrophe, '\\', '[', ']'])
    (fits : Fits room (tokens source)) :
    ((∃ trees, (program room source).outcome = .ok trees) ↔ Balanced (tokens source)) ∧
    (∀ trees, (program room source).outcome = .ok trees →
      Tree.flattenAll trees = tokens source) ∧
    (Overcloses (tokens source) → ∃ error,
      (program room source).outcome = .error (.program (.inSyntax error)) ∧
      error.diagnostic.summary = "Syntax error: unexpected closing parenthesis.") ∧
    (¬ Overcloses (tokens source) → (tokens source).count "(" ≠ (tokens source).count ")" →
      ∃ error, (program room source).outcome = .error (.program (.inSyntax error)) ∧
        error.diagnostic.summary = "Syntax error: unbalanced parentheses.") := by
  have accepted : Scan.gap.acceptsAll source.toList = true :=
    Scan.acceptsAll_of_unmarked trivial unmarked
  have ok (trees : List SymbolTree) := @outcome_program_eq_ok room source trees accepted
  refine ⟨?_, fun trees read => flattenAll_of_arrange ((ok trees).mp read).1, ?_, ?_⟩
  · simp only [ok, fits, and_true]
    exact exists_arrange_iff
  · intro overcloses
    rcases @outcome_program_of_accepted room source accepted with
      ⟨trees, arranged, _, _⟩ | ⟨_, rest, stray⟩ | ⟨sane, _⟩ | ⟨tight, _⟩
    · exact absurd overcloses (exists_arrange_iff.mp ⟨trees, arranged⟩).1
    · exact ⟨_, stray, rfl⟩
    · exact absurd overcloses sane
    · exact absurd fits tight
  · intro sane differ
    rcases @outcome_program_of_accepted room source accepted with
      ⟨trees, arranged, _, _⟩ | ⟨overcloses, _⟩ | ⟨_, _, unclosed⟩ | ⟨tight, _⟩
    · exact absurd (exists_arrange_iff.mp ⟨trees, arranged⟩).2 differ
    · exact absurd overcloses sane
    · exact ⟨_, unclosed, rfl⟩
    · exact absurd fits tight

/-- A parenthesis in a comment does not count, and a comment need not end. A text that closes
too many is at fault for that, even if it also leaves one open. -/
theorem reads_iff_balanced_commented :
    (∃ trees, (program 2 "(a ;(\n () b) ;(").outcome = .ok trees ∧
      Tree.flattenAll trees = ["(", "a", "(", ")", "b", ")"]) ∧
    (∃ error, (program 1 "a) (").outcome = .error (.program (.inSyntax error)) ∧
      error.diagnostic.summary = "Syntax error: unexpected closing parenthesis.") ∧
    ∃ error, (program 1 "(a ;)").outcome = .error (.program (.inSyntax error)) ∧
      error.diagnostic.summary = "Syntax error: unbalanced parentheses." := by
  let marked := [doubleQuote, apostrophe, '\\', '[', ']']
  have unmarked {source : String} (checked : source.toList.all (· ∉ marked) = true) :
      ∀ char ∈ source.toList, char ∉ marked := by
    simpa only [List.all_eq_true, decide_eq_true_eq] using checked
  have balanced := @reads_iff_balanced 2 "(a ;(\n () b) ;(" (unmarked (by decide)) (by decide)
  have stray := @reads_iff_balanced 1 "a) (" (unmarked (by decide)) (by decide)
  have unclosed := @reads_iff_balanced 1 "(a ;)" (unmarked (by decide)) (by decide)
  rcases balanced.1.mpr (by decide) with ⟨trees, read⟩
  have flat := balanced.2.1 trees read
  refine ⟨⟨trees, read, flat.trans (by decide)⟩, ?_, ?_⟩
  · exact stray.2.2.1 (by decide)
  · exact unclosed.2.2.2 (by decide) (by decide)

end Reader

end Trefoil
