import Trefoil.Failure
import Trefoil.Text.Lines

/-! # Files

What reading a file can give, and a folder of files held in memory. -/

namespace Trefoil

open Trefoil.Text

inductive FileRead where
  /-- The content, with line feeds at the ends of its lines. -/
  | text (content : String)
  | failed (error : FileError)
  | fault (fault : Fault)

def FileRead.ofText (content : String) : FileRead :=
  .text (String.ofList (unifyLineEnds content.toList))

inductive FileContent where
  | text (content : String)
  /-- Bytes that are not text. -/
  | bytes
  | directory

/-- Files and directories under their paths, each a list of names from the top. -/
structure Folder where
  contents : List (List String × FileContent) := []

namespace Folder

/-- Goes from a directory to what is named there. Nothing leads out of the folder. -/
def enter (directory : List String) (name : String) : Option (List String) :=
  if name = "" || name = "." then some directory
  else if name = ".." then
    if directory.isEmpty then none else some directory.dropLast
  else some (directory ++ [name])

/-- The names along a path inside the folder, read off the path alone. Doubled
slashes and dots for the directory itself lead nowhere else. -/
def resolve? (path : String) : Option (List String) :=
  if path.startsWith "/" then none else (path.splitOn "/").foldlM enter []

def holdsBelow (folder : Folder) (names : List String) : Bool :=
  folder.contents.any fun entry => entry.1.length > names.length && names.isPrefixOf entry.1

def find? (folder : Folder) (names : List String) : Option FileContent :=
  if names.isEmpty then some .directory
  else
    match folder.contents.lookup names with
    | some content => some content
    | none => if folder.holdsBelow names then some .directory else none

def staysPut (name : String) : Bool := name = "" || name = "." || name = ".."

def maxNameBytes : Nat := 255

def maxPathBytes : Nat := 4095

/-- Follows names from a directory, which is given by the names that lead to it,
last one first. An empty name, as after a slash at the end, asks for a directory.
Nothing is known of what lies outside the folder. -/
def follow (folder : Folder) (directory : List String) :
    List String → Except FileError FileContent
  | [] => .ok .directory
  | name :: names =>
      if name = "" || name = "." then folder.follow directory names
      else if name = ".." then
        match directory with
        | [] => if names.all staysPut then .ok .directory else .error .missing
        | _ :: above => folder.follow above names
      else if maxNameBytes < name.utf8ByteSize then .error .nameTooLong
      else
        match folder.find? (name :: directory).reverse with
        | none => .error .missing
        | some .directory => folder.follow (name :: directory) names
        | some content => if names.isEmpty then .ok content else .error .notDirectory

/-- What every system has outside the folder: an empty file, and a place for
files that come and go. -/
def outside : Folder where
  contents := [(["dev", "null"], .text ""), (["tmp"], .directory)]

def read (folder : Folder) (path : String) : FileRead :=
  if path.toList.contains '\x00' then .fault .nullInPath
  else if path = "" then .failed .missing
  else if maxPathBytes < path.utf8ByteSize then .failed .nameTooLong
  else
    let found :=
      match path.splitOn "/" with
      | "" :: names => outside.follow [] names
      | names => folder.follow [] names
    match found with
    | .error error => .failed error
    | .ok .directory => .failed .isDirectory
    | .ok .bytes => .fault .notText
    | .ok (.text content) => .ofText content

/-! ## Opening a file for writing -/

def blocked? (folder : Folder) (above : List String) :
    List String → Option (FileError × List String)
  | name :: next :: names =>
      let here := above ++ [name]
      match folder.find? here with
      | some (.text _) | some .bytes =>
          if names.isEmpty then some (.alreadyThere, here)
          else some (.notDirectory, here ++ [next])
      | _ => folder.blocked? here (next :: names)
  | _ => none

/-- Makes sure that a file exists. One that is new is empty, and gets the
directories it needs. -/
def touch (folder : Folder) (path : String) : Except Fault Folder :=
  if path.toList.contains '\x00' then .error .nullInPath
  else
    match resolve? path with
    | none => .ok folder
    | some names =>
        match folder.blocked? [] names, folder.find? names with
        | some (error, place), _ => .error (.fileFailed error ("/".intercalate place))
        | none, some .directory => .error (.fileFailed .isDirectory path)
        | none, some _ => .ok folder
        | none, none =>
            if path.endsWith "/" then .error (.fileFailed .isDirectory path)
            else .ok { contents := folder.contents ++ [(names, .text "")] }

end Folder

end Trefoil
