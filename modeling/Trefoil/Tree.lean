/-! # Symbol trees

A symbol tree is what parenthesised text says before any meaning is given to it:
a leaf is one token, a node a row of trees in parentheses.

A host program that assembles trees by hand may put values of its own where a
tree belongs. `Tree host` has a place for them, so that the checks made on trees
can say what they found. Text that is read never has any: its trees are the
`SymbolTree`s, for which that place is empty. -/

namespace Trefoil

inductive Tree (host : Type) where
  | leaf (token : String)
  | node (children : List (Tree host))
  | foreign (value : host)

abbrev SymbolTree := Tree Empty

instance toStringEmpty : ToString Empty := ⟨nofun⟩

namespace Tree

variable {host : Type}

mutual

def text [ToString host] : Tree host → String
  | leaf token => token
  | node children => "(" ++ " ".intercalate (texts children) ++ ")"
  | foreign value => toString value

def texts [ToString host] : List (Tree host) → List String
  | [] => []
  | tree :: trees => text tree :: texts trees

end

end Tree

end Trefoil
