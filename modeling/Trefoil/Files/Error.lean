import Trefoil.Text.Quoted

/-! # File errors

Why a file cannot be read or opened, in the words and numbers of the system. -/

namespace Trefoil

open Trefoil.Text

inductive FileError where
  | missing
  | denied
  | alreadyThere
  | notDirectory
  | isDirectory
  | nameTooLong
  deriving DecidableEq, Repr

namespace FileError

def number : FileError → Nat
  | missing => 2
  | denied => 13
  | alreadyThere => 17
  | notDirectory => 20
  | isDirectory => 21
  | nameTooLong => 36

def reason : FileError → String
  | missing => "No such file or directory"
  | denied => "Permission denied"
  | alreadyThere => "File exists"
  | notDirectory => "Not a directory"
  | isDirectory => "Is a directory"
  | nameTooLong => "File name too long"

def message (error : FileError) (path : String) : String :=
  "[Errno " ++ toString error.number ++ "] " ++ error.reason ++ ": " ++ quote path

end FileError

end Trefoil
