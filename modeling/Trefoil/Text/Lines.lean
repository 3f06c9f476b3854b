/-! # Lines

Every character or pair that ends a line on some device ends a line here: the
line feed and carriage return, alone or as a pair, the vertical tab and form
feed, the file, group and record separators, the next-line control, and the two
Unicode separators. -/

namespace Trefoil.Text

def isLineBreak (char : Char) : Bool :=
  char = '\n' || char = '\r' || char = '\x0b' || char = '\x0c' ||
    ('\x1c' ≤ char && char ≤ '\x1e') || char = '\x85' || char = '\u2028' || char = '\u2029'

/-- The lines of a text. `current` is the line being read, last character first.
A break at the very end starts no further line. -/
def linesFrom (current : List Char) : List Char → List (List Char)
  | [] => if current.isEmpty then [] else [current.reverse]
  | '\r' :: '\n' :: rest => current.reverse :: linesFrom [] rest
  | char :: rest =>
      if isLineBreak char then current.reverse :: linesFrom [] rest
      else linesFrom (char :: current) rest

def lines (chars : List Char) : List (List Char) := linesFrom [] chars

/-- Text with each carriage return, alone or before a line feed, made a line feed. -/
def unifyLineEnds : List Char → List Char
  | [] => []
  | '\r' :: '\n' :: rest => '\n' :: unifyLineEnds rest
  | '\r' :: rest => '\n' :: unifyLineEnds rest
  | char :: rest => char :: unifyLineEnds rest

example : lines "a\r\n\nb\n".toList = ["a".toList, [], "b".toList] := by decide

end Trefoil.Text
