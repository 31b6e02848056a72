import AnnotatedSql.Query

/-!
Helpers that generated code relies on, and the record of those already generated in each namespace.
-/
namespace AnnotatedSql.Generate

/-- Helpers already generated, by namespace. -/
structure HelperRegistry where
  namespaces : Keyed (List String) := []
deriving Repr, DecidableEq, Inhabited

namespace HelperRegistry

/-- The helpers of a namespace. -/
def helpers (registry : HelperRegistry) (space : String) : List String :=
  (registry.namespaces.get? space).getD []

def contains (registry : HelperRegistry) (space helper : String) : Bool :=
  (registry.helpers space).contains helper

/-- Adds helpers to a namespace. The namespace is there afterwards, even if there are none to add. -/
def addAll (registry : HelperRegistry) (space : String) (helpers : List String) : HelperRegistry :=
  { namespaces := registry.namespaces.insert space (helpers.foldr List.insert (registry.helpers space)) }

/-- Adds a helper to a namespace. -/
def add (registry : HelperRegistry) (space helper : String) : HelperRegistry :=
  registry.addAll space [helper]

/-- Records a helper, and tells whether it was not there yet. -/
def claim (registry : HelperRegistry) (space helper : String) : Bool × HelperRegistry :=
  (!registry.contains space helper, registry.add space helper)

/-- The helpers of both registries. -/
def merge (registry other : HelperRegistry) : HelperRegistry :=
  other.namespaces.foldl (fun merged entry => merged.addAll entry.1 entry.2) registry

def isEmpty (registry : HelperRegistry) : Bool :=
  registry.namespaces.all (·.2.isEmpty)

/-- Namespaces and their helpers, both sorted by code point. -/
def sorted (registry : HelperRegistry) : Keyed (List String) :=
  let order (a b : String) : Bool := !(b < a : Bool)
  (registry.namespaces.map fun entry => (entry.1, entry.2.mergeSort order)).mergeSort
    fun a b => order a.1 b.1

end HelperRegistry

/-- The helpers that a generated method for a query needs. -/
def queryHelpers (query : Query) : List String :=
  (if query.params.any (·.column.isSlice) then ["expand_slice"] else []) ++
  (if query.insertValues.isSome then ["batch_values"] else [])

end AnnotatedSql.Generate
