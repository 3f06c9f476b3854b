import Trefoil.Text.Blank
import Trefoil.Text.Quoted

/-! # Lexemes

Source text is a row of lexemes: brackets, quotes, atoms and text literals, with
blanks and comments between them. The scanner reads one character at a time. It
holds the token that is being read, and the character that ends an atom is then
read again as the start of what follows. -/

namespace Trefoil.Reader

open Trefoil.Text

inductive Bracket where
  | round
  | square
  deriving DecidableEq, Repr

namespace Bracket

def opening : Bracket → Char
  | round => '('
  | square => '['

def closing : Bracket → Char
  | round => ')'
  | square => ']'

end Bracket

/-- Positions count characters from the start of the text. They are kept where
an error message needs them. -/
inductive Lexeme where
  | opening (bracket : Bracket)
  | closing (bracket : Bracket) (position : Nat)
  | quote (position : Nat)
  | atom (token : String)
  | text (value : String)
  /-- The text ends inside a text literal. -/
  | unfinishedText
  /-- The text ends right after a backslash. -/
  | unfinishedEscape
  deriving DecidableEq, Repr

/-- What the scanner is in the middle of. Characters of an unfinished token are
kept last one first. -/
inductive Scan where
  | gap
  | comment
  | atom (chars : List Char)
  | atomEscape (chars : List Char)
  | text (chars : List Char)
  | textEscape (chars : List Char)
  deriving DecidableEq, Repr

/-- Characters that end an atom. An apostrophe does not. -/
def endsAtom (char : Char) : Bool :=
  isBlank char || char = '(' || char = ')' || char = '[' || char = ']' ||
    char = doubleQuote || char = ';'

def escapable : List Char :=
  ['\\', apostrophe, doubleQuote, '(', ')', '[', ']', '\x60', ' ', ',', '?', ';', '#']

/-- What a backslash and the character after it stand for in an atom. A pair
without a meaning stands for itself. -/
def atomEscaped (char : Char) : List Char :=
  if escapable.contains char then [char] else ['\\', char]

def textEscaped (char : Char) : List Char :=
  if char = '\\' || char = doubleQuote then [char]
  else if char = 'b' then ['\x08']
  else if char = 'f' then ['\x0c']
  else if char = 'n' then ['\n']
  else if char = 'r' then ['\r']
  else if char = 't' then ['\t']
  else ['\\', char]

namespace Scan

/-- A character between tokens: the lexeme it is, if it is one, and what it
starts. -/
def start (position : Nat) (char : Char) : Option Lexeme × Scan :=
  if isBlank char then (none, gap)
  else if char = ';' then (none, comment)
  else if char = '(' then (some (.opening .round), gap)
  else if char = '[' then (some (.opening .square), gap)
  else if char = ')' then (some (.closing .round position), gap)
  else if char = ']' then (some (.closing .square position), gap)
  else if char = apostrophe then (some (.quote position), gap)
  else if char = doubleQuote then (none, text [])
  else if char = '\\' then (none, atomEscape [])
  else (none, atom [char])

def finishedAtom (chars : List Char) : Lexeme := .atom (String.ofList chars.reverse)

def step (position : Nat) (char : Char) : Scan → List Lexeme × Scan
  | gap =>
      let (lexeme, next) := start position char
      (lexeme.toList, next)
  | comment => ([], if char = '\n' then gap else comment)
  | atom chars =>
      if endsAtom char then
        let (lexeme, next) := start position char
        (finishedAtom chars :: lexeme.toList, next)
      else if char = '\\' then ([], atomEscape chars)
      else ([], atom (char :: chars))
  | atomEscape chars => ([], atom ((atomEscaped char).reverse ++ chars))
  | text chars =>
      if char = doubleQuote then ([.text (String.ofList chars.reverse)], gap)
      else if char = '\\' then ([], textEscape chars)
      else ([], text (char :: chars))
  | textEscape chars => ([], text ((textEscaped char).reverse ++ chars))

def finish : Scan → List Lexeme
  | gap | comment => []
  | atom chars => [finishedAtom chars]
  | text _ => [.unfinishedText]
  | atomEscape _ | textEscape _ => [.unfinishedEscape]

end Scan

structure Scanner where
  scan : Scan := .gap
  position : Nat := 0
  /-- The lexemes completed so far, last one first. -/
  lexemes : List Lexeme := []

namespace Scanner

def step (scanner : Scanner) (char : Char) : Scanner :=
  let (completed, next) := scanner.scan.step scanner.position char
  { scan := next
    position := scanner.position + 1
    lexemes := completed.reverse ++ scanner.lexemes }

def finish (scanner : Scanner) : List Lexeme :=
  scanner.lexemes.reverse ++ scanner.scan.finish

end Scanner

/-- The lexemes of a text. An unfinished one comes last. -/
def lexemes (source : List Char) : List Lexeme :=
  (source.foldl Scanner.step {}).finish

example : lexemes "(a;)\n b)".toList =
    [.opening .round, .atom "a", .atom "b", .closing .round 7] := by decide

end Trefoil.Reader
