/-!
What a program sees of the files around it. Paths are texts with `/` between their parts, and those that do not start
with one are looked up from the working directory.
-/
namespace AnnotatedSql

inductive FileKind where
  | file
  | directory
deriving Repr, DecidableEq

/-- Access to files. What cannot be found or read is `none`. -/
structure Files (m : Type → Type) where
  /-- How many directories the working directory lies in. -/
  depth : m Nat
  kind? : String → m (Option FileKind)
  /-- The text of a file. -/
  text? : String → m (Option String)
  /-- The names in a directory. -/
  names? : String → m (Option (List String))

namespace Files

/-- A path one step below a directory. Below the working directory, that is the step alone. -/
def join (directory step : String) : String :=
  if directory == "." then step
  else if directory.endsWith "/" then directory ++ step
  else directory ++ "/" ++ step

variable {m : Type → Type} [Monad m]

def isDirectory (files : Files m) (path : String) : m Bool := do
  return (← files.kind? path) == some .directory

/-- The first of some paths where there is something. -/
def firstPresent (files : Files m) : List String → m (Option String)
  | [] => return none
  | path :: rest => do
    if (← files.kind? path).isSome then return some path else firstPresent files rest

/-- The path of a name in the working directory, and in each directory above it. -/
def upwards (name : String) (depth : Nat) : List String :=
  (List.range (depth + 1)).map fun steps => String.join (List.replicate steps "../") ++ name

/-- The path of the nearest file of a name in the working directory and those above it. -/
def nearest? (files : Files m) (name : String) : m (Option String) := do
  files.firstPresent (upwards name (← files.depth))

end Files

end AnnotatedSql
