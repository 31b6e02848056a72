import AnnotatedSql.Compile.Numbering
import AnnotatedSql.Compile.Reference

/-!
Types of parameters, from the places that their references stand in.
-/
namespace AnnotatedSql

/-- A column as the type of a value that is written into it. -/
def targetColumn (catalog : Catalog) (table : QualifiedName) (column : String) : Except Error Column :=
  match catalog.table? table with
  | none => .error (.tableNotFound table.display)
  | some definition =>
    match definition.column? column with
    | none => .error (.columnNotFound (some table.name) column)
    | some found => .ok (.ofDef catalog definition found)

/-- The type of an argument, from the first signature that accepts the call. -/
def argumentColumn (catalog : Catalog) (function : QualifiedName) (index count : Nat) : Column :=
  match ((catalog.functions function).find? (·.accepts count)).bind (·.args[index]?) with
  | some arg => .ofType (arg.name.getD "") arg.type true
  | none => .any ""

namespace Reference

/-- The column that a reference is compared with. No use is made of a null there. -/
def compared (reference : Reference) (qualifier : Option String) (name : String) : Except Error Column := do
  return { (← reference.scope.lookup qualifier name) with notNull := true }

/-- What the place of a reference says about its type. -/
def column (catalog : Catalog) (named : Option NamedParam) (reference : Reference) : Except Error Column :=
  match reference.context with
  | .column qualifier name => reference.compared qualifier name
  | .anyOf qualifier name => do return { (← reference.compared qualifier name) with isArray := true }
  | .inList qualifier name => do return { (← reference.compared qualifier name) with isSlice := true }
  | .target table column => targetColumn catalog table column
  | .argument function index count => .ok (argumentColumn catalog function index count)
  | .cast type => .ok (.ofType "" type true)
  | .limit => .ok (.ofType "limit" .bigInt true)
  | .offset => .ok (.ofType "offset" .bigInt true)
  | .unknown =>
    match named.bind fun param => (reference.scope.lookup none param.name).toOption with
    | some column => .ok column
    | none => .error (.columnNotFound none ((named.map NamedParam.name).getD (Numbering.placeholder reference.number)))

/-- A reference as a parameter. A name given to it wins, and so does what its spelling asks for. -/
def resolve (catalog : Catalog) (numbering : Numbering) (reference : Reference) : Except Error Parameter := do
  let named := numbering.param? reference.number
  let column ← reference.column catalog named
  let column := match named with
    | none => column
    | some param =>
      { column with
        name := param.name
        notNull := column.notNull && !param.nullable
        isSlice := column.isSlice || param.slice }
  return { number := reference.number, column, location := reference.location }

end Reference

/-- The parameters of the first row of values in an insert, and the length of the row. -/
def insertValues (catalog : Catalog) (numbering : Numbering) (references : List Reference) :
    Sql.Statement → Except Error (Option InsertValues)
  | .insert insert =>
    match insert.source.map Sql.Query.body with
    | some (.values rows) => do
      let first := references.filter (·.row = some 0)
      let params ← (Reference.unique first).mapM (Reference.resolve catalog numbering)
      return some { params, length := (rows.head?.map List.length).getD 0 }
    | _ => .ok none
  | _ => .ok none

/-- Every column that is left out is the column of some parameter. -/
def checkOmits (omits : List String) (params : List Parameter) : Except Error Unit :=
  match omits.filter fun name => !params.any (·.column.name == name) with
  | [] => .ok ()
  | missing => .error (.columnNotFound none (",".intercalate missing))

end AnnotatedSql
