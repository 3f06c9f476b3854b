import Trefoil.Text.Printable

/-! # Quoted text

Text shown inside quotation marks on one line. Apostrophes surround it, or double
quotes when it contains an apostrophe and no double quote. Inside, the mark in
use and the backslash are escaped, and so is every character that is not
printable. -/

namespace Trefoil.Text

def apostrophe : Char := '\x27'

def doubleQuote : Char := '\x22'

def quotationMark (chars : List Char) : Char :=
  if chars.contains apostrophe && !chars.contains doubleQuote then doubleQuote else apostrophe

def hexDigits (width number : Nat) : List Char :=
  let digits := Nat.toDigits 16 number
  List.replicate (width - digits.length) '0' ++ digits

def quoteChar (mark char : Char) : List Char :=
  if char = mark || char = '\\' then ['\\', char]
  else if char = '\n' then ['\\', 'n']
  else if char = '\r' then ['\\', 'r']
  else if char = '\t' then ['\\', 't']
  else if isPrintable char then [char]
  else if char.toNat < 0x100 then '\\' :: 'x' :: hexDigits 2 char.toNat
  else if char.toNat < 0x10000 then '\\' :: 'u' :: hexDigits 4 char.toNat
  else '\\' :: 'U' :: hexDigits 8 char.toNat

def quoteChars (chars : List Char) : List Char :=
  let mark := quotationMark chars
  mark :: (chars.flatMap (quoteChar mark) ++ [mark])

def quote (text : String) : String := String.ofList (quoteChars text.toList)

def commaSeparated (items : List String) : String := ", ".intercalate items

def bracketed (items : List String) : String := "[" ++ commaSeparated items ++ "]"

/-- Items in parentheses. A single item is followed by a comma, which tells the
row from an item in parentheses. -/
def tupled : List String → String
  | [item] => "(" ++ item ++ ",)"
  | items => "(" ++ commaSeparated items ++ ")"

end Trefoil.Text
