/-!
Names of tables, types and functions, with or without a schema.
-/
namespace AnnotatedSql

structure QualifiedName where
  schema : Option String
  name : String
deriving Repr, DecidableEq, Inhabited

namespace QualifiedName

/-- Splits a name at its first dot. -/
def ofDotted (text : String) : QualifiedName :=
  let cs := text.toList
  match cs.dropWhile (· != '.') with
  | [] => { schema := none, name := text }
  | _ :: name => { schema := some (String.ofList (cs.takeWhile (· != '.'))), name := String.ofList name }

def display (name : QualifiedName) : String :=
  match name.schema with
  | some schema => schema ++ "." ++ name.name
  | none => name.name

end QualifiedName

end AnnotatedSql
