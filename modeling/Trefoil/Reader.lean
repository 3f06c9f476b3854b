import Trefoil.Reader.Form
import Trefoil.Traced

/-! # Reading programs

The symbol trees of source text. The whole text is read before any of it is
turned into trees, so a mistake in the nesting of brackets is found before a form
that trees cannot hold. -/

namespace Trefoil.Reader

open Trefoil.Text

namespace NestingError

def failure (source : String) : NestingError → Failure
  | unclosed opened found => .program (.inSyntax (.unclosed source opened found))
  | strayCloser position =>
      .program (.inSyntax (.strayCloser source (String.ofList (source.toList.drop position))))
  | danglingQuote position => .program (.inSyntax (.danglingQuote source position))
  | unfinishedText => .fault .unfinishedText
  | unfinishedEscape => .fault .unfinishedEscape
  | tooDeep => .tooDeep

def record? (source : String) : NestingError → Option Log.Record
  | unclosed opened found => some (.unbalanced (SyntaxError.unclosedDetails opened found))
  | strayCloser position =>
      some (.unexpectedCloser
        (SyntaxError.strayCloserDetails (String.ofList (source.toList.drop position))))
  | danglingQuote position => some (.danglingQuote (SyntaxError.danglingQuoteDetails position))
  | unfinishedText | unfinishedEscape | tooDeep => none

end NestingError

def unsupportedError (source : String) : Form → SyntaxError
  | .text value => .textLiteral source value
  | form => .unsupported source form

/-- Every tree of a source, in order. Brackets may nest `room` deep. -/
def program (room : Nat) (source : String) : Traced (List SymbolTree) := do
  Traced.log (.readingSource source)
  match forms room source.toList with
  | .error error =>
      (error.record? source).forM Traced.log
      Traced.fail (error.failure source)
  | .ok forms =>
      match Form.toTrees forms with
      | .error form => Traced.fail (.program (.inSyntax (unsupportedError source form)))
      | .ok trees =>
          Traced.log (.readTrees trees.length)
          return trees

def single (room : Nat) (source : String) : Traced SymbolTree := do
  match ← program room source with
  | [tree] => return tree
  | [] => Traced.fail (.program (.inSyntax (.noForm source)))
  | trees => Traced.fail (.program (.inSyntax (.manyForms source trees.length)))

end Trefoil.Reader
