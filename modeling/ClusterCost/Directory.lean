import ClusterCost.Path

/-!
# Directories in memory

A directory holds files under relative paths. Reading follows a path name by name as a file system does: every name but
the last has to be a directory, two points lead back up, and nothing outside of the directory can be reached.
-/
namespace ClusterCost

/-- A file: the names that lead to it, and its bytes. -/
structure Directory.File where
  names : List (List Char)
  content : ByteArray

/-- A directory with all the files below it. -/
structure Directory where
  files : List Directory.File

namespace Directory

def ofFiles (files : List (String × ByteArray)) : Directory :=
  ⟨files.map fun (path, content) =>
    ⟨(Path.names path.toList).filter fun name => name != [] && name != ['.'], content⟩⟩

def isDirectory (d : Directory) (names : List (List Char)) : Bool :=
  names.isEmpty || d.files.any fun file => names.isPrefixOf file.names && names != file.names

def content? (d : Directory) (names : List (List Char)) : Option ByteArray :=
  (d.files.find? fun file => file.names == names).map File.content

/-- The place that a path leads to from another one. -/
def follow? (d : Directory) (place : List (List Char)) : List (List Char) → Option (List (List Char))
  | [] => some place
  | name :: path =>
    if !d.isDirectory place then none
    else if name == [] || name == ['.'] then d.follow? place path
    else if name == ['.', '.'] then
      if place.isEmpty then none else d.follow? place.dropLast path
    else d.follow? (place ++ [name]) path

/-- The text of the file at a path, if there is one and its bytes are UTF-8. -/
def read? (d : Directory) (path : String) : Option String := do
  if path.isEmpty || Path.isAbsolute path then none
  else
    let place ← d.follow? [] (Path.names path.toList)
    let bytes ← d.content? place
    String.fromUTF8? bytes

end Directory

end ClusterCost
