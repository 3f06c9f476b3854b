import Trefoil.Expr
import Trefoil.Tree

/-! # Tokens, heights and texts of trees -/

namespace Trefoil.Tree

variable {host : Type}

/-- Induction over trees, with one hypothesis for all children of a node. -/
@[elab_as_elim]
theorem induction {motive : Tree host → Prop} (leaf : ∀ token, motive (.leaf token))
    (node : ∀ children, (∀ child ∈ children, motive child) → motive (.node children))
    (foreign : ∀ value, motive (.foreign value)) : ∀ tree, motive tree :=
  @Tree.rec host motive (fun trees => ∀ tree ∈ trees, motive tree) leaf node foreign
    (fun _ member => nomatch member)
    (fun _ _ head tail _ member => by
      rcases List.mem_cons.mp member with equal | member
      · exact equal ▸ head
      · exact tail _ member)

/-! ## Tokens -/

mutual

def tokens : Tree host → List String
  | leaf token => [token]
  | node children => tokensAll children
  | foreign _ => []

def tokensAll : List (Tree host) → List String
  | [] => []
  | tree :: trees => tokens tree ++ tokensAll trees

end

@[simp] theorem mem_tokensAll {token : String} {trees : List (Tree host)} :
    token ∈ tokensAll trees ↔ ∃ tree ∈ trees, token ∈ tree.tokens := by
  induction trees with
  | nil => simp [tokensAll]
  | cons tree trees induction => simp [tokensAll, induction]

theorem tokens_subset_of_mem {tree : Tree host} {trees : List (Tree host)} {tokens : List String}
    (member : tree ∈ trees) (inside : (node trees).tokens ⊆ tokens) :
    tree.tokens ⊆ tokens := by
  intro token found
  apply inside
  rw [Tree.tokens, mem_tokensAll]
  exact ⟨tree, member, found⟩

/-! ## Heights -/

mutual

def height : Tree host → Nat
  | leaf _ | foreign _ => 0
  | node children => heightAll children + 1

def heightAll : List (Tree host) → Nat
  | [] => 0
  | tree :: trees => Nat.max (height tree) (heightAll trees)

end

theorem height_lt_of_mem {tree : Tree host} {trees : List (Tree host)} (member : tree ∈ trees) :
    tree.height < (node trees).height := by
  rw [height, Nat.lt_succ_iff]
  induction trees with
  | nil => cases member
  | cons first trees induction =>
      rw [heightAll]
      rcases List.mem_cons.mp member with equal | member
      · rw [equal]
        exact Nat.le_max_left _ _
      · exact Nat.le_trans (induction member) (Nat.le_max_right _ _)

theorem height_lt_of_mem_of_lt {tree : Tree host} {trees : List (Tree host)} {room : Nat}
    (deep : (node trees).height < room + 1) (member : tree ∈ trees) : tree.height < room := by
  have lower := height_lt_of_mem member
  omega

/-! ## Texts -/

theorem texts_eq_map [ToString host] (trees : List (Tree host)) :
    texts trees = trees.map text := by
  induction trees with
  | nil => rfl
  | cons tree trees induction => rw [texts, induction, List.map_cons]

@[simp] theorem text_leaf [ToString host] (token : String) :
    (leaf token : Tree host).text = token := by
  rw [text]

@[simp] theorem text_node [ToString host] (children : List (Tree host)) :
    (node children).text = Expr.parenthesised (children.map text) := by
  rw [text, texts_eq_map, Expr.parenthesised]

end Trefoil.Tree
