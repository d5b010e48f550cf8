/-!
# File paths

A path is a text of names with slashes between them. The directory of a path is the path without its last name; empty
names and single points count as names only where a point starts the path.
-/
namespace ClusterCost.Path

def isAbsolute (path : String) : Bool :=
  path.toList.head? == some '/'

/-- The names of a path, with empty ones where slashes meet. -/
def names (cs : List Char) : List (List Char) :=
  cs.splitOn '/'

def ofNames (names : List (List Char)) : List Char :=
  (names.intersperse ['/']).flatten

/-- Names without the empty ones and the single points at the end. -/
def trimEnd (names : List (List Char)) : List (List Char) :=
  (names.reverse.dropWhile fun name => name == [] || name == ['.']).reverse

/-- The start of a path that is no name to be removed on its own account: the root, or a point for the working
directory. -/
def anchor : List Char → List Char × List Char
  | '/' :: rest => (['/'], rest)
  | ['.'] => (['.'], [])
  | '.' :: '/' :: rest => (['.'], '/' :: rest)
  | other => ([], other)

/-- The directory of a path. The root and the empty path have none. -/
def parent? (path : String) : Option String :=
  let (start, body) := anchor path.toList
  match trimEnd (names body) with
  | [] => if start == ['.'] then some "" else none
  | first :: others =>
    some (String.ofList (start ++ ofNames (trimEnd ((first :: others).dropLast))))

/-- A path as seen from a directory. An absolute path stays as it is. -/
def join (directory path : String) : String :=
  if isAbsolute path then path
  else if directory.isEmpty || directory.toList.getLast? == some '/' then directory ++ path
  else directory ++ "/" ++ path

/-- A path that stands in a file, as seen from where the path of the file is seen. -/
def anchored (file path : String) : String :=
  if isAbsolute path then path
  else match parent? file with
    | some directory => join directory path
    | none => path

end ClusterCost.Path
