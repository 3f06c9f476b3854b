import Trefoil.Reader.Lexeme
import Trefoil.Tree

/-! # Forms

Lexemes nest into forms. Besides atoms and parenthesised lists there are text
literals, lists in square brackets and quoted forms. Trees have no counterpart
for those three, which `Form.toTree` reports.

Reading keeps the levels that are still open, innermost first. A quote opens a
level of its own, which ends together with the level around it: the first form
on it is the quoted one, and the others simply follow. -/

namespace Trefoil.Reader

open Trefoil.Text

inductive Form where
  | symbol (token : String)
  | text (value : String)
  | list (items : List Form)
  | brackets (items : List Form)
  | quoted (form : Form)

namespace Form

mutual

def describe : Form → String
  | symbol token => "Symbol(" ++ quote token ++ ")"
  | text value => quote value
  | list items => bracketed (describeAll items)
  | brackets items => "Brackets(I=" ++ bracketed (describeAll items) ++ ")"
  | quoted form => "Quoted(" ++ describe form ++ ")"

def describeAll : List Form → List String
  | [] => []
  | form :: forms => describe form :: describeAll forms

end

mutual

/-- The tree of a form, or its first part, from the left, that trees cannot hold. -/
def toTree : Form → Except Form SymbolTree
  | symbol token => .ok (.leaf token)
  | list items => return .node (← toTrees items)
  | text value => .error (.text value)
  | brackets items => .error (.brackets items)
  | quoted form => .error (.quoted form)

def toTrees : List Form → Except Form (List SymbolTree)
  | [] => .ok []
  | form :: forms => do
      let tree ← toTree form
      let trees ← toTrees forms
      return tree :: trees

end

end Form

def Bracket.enclose : Bracket → List Form → Form
  | .round, forms => .list forms
  | .square, forms => .brackets forms

inductive NestingError where
  /-- A bracket is closed by another kind of bracket, or by nothing. -/
  | unclosed (opened : Bracket) (found : Option Bracket)
  | strayCloser (position : Nat)
  /-- No form follows the quote. -/
  | danglingQuote (position : Nat)
  | unfinishedText
  | unfinishedEscape
  | tooDeep
  deriving DecidableEq, Repr

inductive Opener where
  | bracket (bracket : Bracket)
  | quote (position : Nat)

/-- An open level: what opened it, and the forms before that on the level
around it, last one first. -/
structure Level where
  opener : Opener
  before : List Form

structure Reading where
  /-- How many more levels may be opened. -/
  room : Nat
  /-- The open levels, innermost first. -/
  levels : List Level := []
  /-- The forms on the innermost level, last one first. -/
  forms : List Form := []

/-- The innermost level once the quotes on it have their forms. -/
structure Settled where
  room : Nat
  forms : List Form
  /-- The bracket around the level with what is outside it, unless the level is
  the outermost one. -/
  inside : Option (Bracket × List Form × List Level)

def quoteFirst? : List Form → Option (List Form)
  | [] => none
  | [form] => some [.quoted form]
  | form :: earlier => (quoteFirst? earlier).map (form :: ·)

def settle (room : Nat) : List Level → List Form → Except NestingError Settled
  | [], forms => .ok { room, forms, inside := none }
  | ⟨.bracket bracket, before⟩ :: levels, forms =>
      .ok { room, forms, inside := some (bracket, before, levels) }
  | ⟨.quote position, before⟩ :: levels, forms =>
      match quoteFirst? forms with
      | none => .error (.danglingQuote position)
      | some settled => settle (room + 1) levels (settled ++ before)

namespace Reading

def settle (reading : Reading) : Except NestingError Settled :=
  Reader.settle reading.room reading.levels reading.forms

def add (reading : Reading) (form : Form) : Reading :=
  { reading with forms := form :: reading.forms }

def enter (reading : Reading) (opener : Opener) : Except NestingError Reading :=
  match reading.room with
  | 0 => .error .tooDeep
  | room + 1 => .ok { room, levels := ⟨opener, reading.forms⟩ :: reading.levels, forms := [] }

def close (reading : Reading) (bracket : Bracket) (position : Nat) :
    Except NestingError Reading := do
  let settled ← reading.settle
  match settled.inside with
  | none => .error (.strayCloser position)
  | some (opened, before, levels) =>
      if opened = bracket then
        .ok { room := settled.room + 1
              levels
              forms := opened.enclose settled.forms.reverse :: before }
      else .error (.unclosed opened (some bracket))

def step (reading : Reading) : Lexeme → Except NestingError Reading
  | .opening bracket => reading.enter (.bracket bracket)
  | .closing bracket position => reading.close bracket position
  | .quote position => reading.enter (.quote position)
  | .atom token => .ok (reading.add (.symbol token))
  | .text value => .ok (reading.add (.text value))
  | .unfinishedText => .error .unfinishedText
  | .unfinishedEscape => .error .unfinishedEscape

def finish (reading : Reading) : Except NestingError (List Form) := do
  let settled ← reading.settle
  match settled.inside with
  | none => .ok settled.forms.reverse
  | some (opened, _, _) => .error (.unclosed opened none)

end Reading

def nest (room : Nat) (lexemes : List Lexeme) : Except NestingError (List Form) := do
  let reading ← lexemes.foldlM Reading.step { room }
  reading.finish

def forms (room : Nat) (source : List Char) : Except NestingError (List Form) :=
  nest room (lexemes source)

end Trefoil.Reader
