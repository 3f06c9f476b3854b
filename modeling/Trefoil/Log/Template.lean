/-! # Line templates

A template says how the lines of a log are written: some pieces are fixed, and the
others are filled in for each record. -/

namespace Trefoil.Log

inductive Piece where
  | literal (text : String)
  | time
  | level
  | origin
  | message
  deriving DecidableEq, Repr

abbrev Template := List Piece

structure Particulars where
  time : String
  level : String
  origin : String
  message : String

namespace Piece

def text : Piece → String
  | literal text => text
  | time => "%(asctime)s"
  | level => "%(levelname)s"
  | origin => "%(name)s"
  | message => "%(message)s"

def fill (particulars : Particulars) : Piece → String
  | literal text => text
  | time => particulars.time
  | level => particulars.level
  | origin => particulars.origin
  | message => particulars.message

end Piece

namespace Template

def text (template : Template) : String := String.join (template.map Piece.text)

def fill (template : Template) (particulars : Particulars) : String :=
  String.join (template.map (Piece.fill particulars))

end Template

end Trefoil.Log
