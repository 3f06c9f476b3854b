/-! # Blank characters

Three sets of blank characters are in use. Source text is divided by the six
ASCII blanks alone. Numbers are trimmed of all white space. Lines typed at a
prompt are trimmed, and divided into words, at white space and at the four
information separators. -/

namespace Trefoil.Text

def isBlank (char : Char) : Bool :=
  char = ' ' || char = '\t' || char = '\n' || char = '\r' || char = '\x0b' || char = '\x0c'

def isWhiteSpace (char : Char) : Bool :=
  isBlank char || char = '\x85' || char = '\xa0' || char = '\u1680' ||
    ('\u2000' ≤ char && char ≤ '\u200a') || char = '\u2028' || char = '\u2029' ||
    char = '\u202f' || char = '\u205f' || char = '\u3000'

/-- White space and the information separators. -/
def isSpace (char : Char) : Bool :=
  isWhiteSpace char || ('\x1c' ≤ char && char ≤ '\x1f')

def trimChars (drop : Char → Bool) (chars : List Char) : List Char :=
  ((chars.dropWhile drop).reverse.dropWhile drop).reverse

def trim (text : String) : String := String.ofList (trimChars isSpace text.toList)

/-- The first word of a text and what follows it, the blanks between left out.
Both are empty when the text has no word. -/
def firstWord (text : String) : String × String :=
  let chars := text.toList.dropWhile isSpace
  (String.ofList (chars.takeWhile (!isSpace ·)),
    String.ofList ((chars.dropWhile (!isSpace ·)).dropWhile isSpace))

end Trefoil.Text
