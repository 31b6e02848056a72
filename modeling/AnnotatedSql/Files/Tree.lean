import AnnotatedSql.Files

/-!
Files held in memory. A directory is there if something is in it.
-/
namespace AnnotatedSql

/-- Texts by path, a path being its parts from the top. -/
structure FileTree where
  entries : List (List String × String)

namespace FileTree

/-- The parts of a path. -/
def parts (path : String) : List String :=
  (path.toList.splitOn '/').map String.ofList

/-- A tree of files with their paths from the top. -/
def ofPaths (files : List (String × String)) : FileTree where
  entries := files.map fun (path, text) => (parts path, text)

def text? (tree : FileTree) (place : List String) : Option String :=
  tree.entries.lookup place

/-- Whether a place is a directory, the working directory being one in any case. -/
def isDirectory (tree : FileTree) (working place : List String) : Bool :=
  place.isPrefixOf working ||
    tree.entries.any fun (path, _) => place.length < path.length && place.isPrefixOf path

/-- One step from a directory. Nothing lies above the top. -/
def step? (tree : FileTree) (working place : List String) (name : String) : Option (List String) :=
  if !tree.isDirectory working place then none
  else if name == "" || name == "." then some place
  else if name == ".." then if place.isEmpty then none else some place.dropLast
  else
    let next := place ++ [name]
    if tree.isDirectory working next || (tree.text? next).isSome then some next else none

/-- The place of a path, if there is something. -/
def place? (tree : FileTree) (working : List String) (path : String) : Option (List String) :=
  if path.isEmpty || path.startsWith "/" then none
  else (parts path).foldlM (tree.step? working) working

/-- The names in a directory. -/
def names (tree : FileTree) (working place : List String) : List String :=
  let below := (tree.entries.map (·.1) ++ [working]).filter place.isPrefixOf
  (below.filterMap fun path => path[place.length]?).eraseDups

/-- Access to a tree from a working directory. -/
def access (tree : FileTree) (working : List String) : Files Id where
  depth := working.length
  kind? path := (tree.place? working path).map fun place =>
    if tree.isDirectory working place then .directory else .file
  text? path := (tree.place? working path).bind tree.text?
  names? path := (tree.place? working path).bind fun place =>
    if tree.isDirectory working place then some (tree.names working place) else none

end FileTree

end AnnotatedSql
