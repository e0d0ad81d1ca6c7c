/-!
# File stems

The name of the file that a path leads to, without its extension. Slashes separate the components of
a path; empty components, and dots that stand for the same directory, do not count. A path that ends
at the root, at the directory it starts from or at a parent directory has no file name.
-/

namespace SortableId.Text

/-- A component of a path. -/
inductive PathPart where
  /-- The root, or the directory that a path starts from. -/
  | start
  /-- The directory above. -/
  | parent
  /-- A name in the directory reached so far. -/
  | name (text : List Char)
  deriving DecidableEq, Repr

/-- What a component after the first means, if it counts. -/
def PathPart.ofText : List Char → Option PathPart
  | [] => none
  | ['.'] => none
  | ['.', '.'] => some .parent
  | text => some (.name text)

/-- What the first component means: nothing stands for the root, a dot for where the path starts. -/
def PathPart.ofFirst : List Char → Option PathPart
  | [] => some .start
  | ['.'] => some .start
  | text => PathPart.ofText text

/-- The components of a path that is not empty. -/
def pathParts (path : List Char) : List PathPart :=
  match path.splitOn '/' with
  | [] => []
  | first :: rest => (PathPart.ofFirst first).toList ++ rest.filterMap PathPart.ofText

/-- The name that a path ends in. -/
def fileName (path : List Char) : Option (List Char) :=
  match (pathParts path).getLast? with
  | some (.name text) => some text
  | _ => none

/-- A name without its extension: all before the last dot, unless nothing would be left. -/
def withoutExtension (name : List Char) : List Char :=
  match name.reverse.dropWhile (· != '.') with
  | [] => name
  | [_] => name
  | _ :: stem => stem.reverse

/-- The stem of the file name that a path ends in, if it ends in one that is not empty. -/
def fileStem (path : String) : Option String :=
  match path.toList with
  | [] => none
  | path => (fileName path).map fun name => String.ofList (withoutExtension name)

end SortableId.Text
