import AnnotatedSql.Catalog.Define

/-!
Catalogs of running databases. A database reports its name, its tables, and for each table either its fields or the
text of its definition; both kinds of report give a catalog.
-/
namespace AnnotatedSql

/-- A column as a database reports it. -/
structure FieldDescriptor where
  name : String
  /-- Base name of the type; empty if the type could not be read. -/
  typeName : String
  size : Option Nat
  unsigned : Bool
  allowNull : Bool
  comment : Option String
  /-- The values of an `enum` or a `set`. -/
  values : List String
deriving Repr, DecidableEq

/-- A descriptor with the type given as a string. A string that cannot be read leaves the type open, and an empty
    comment is none. -/
def FieldDescriptor.ofColumnType (name type : String) (allowNull : Bool) (comment : Option String) :
    FieldDescriptor :=
  let read := (FieldType.read type).toOption.getD {}
  { name
    typeName := read.base
    size := read.size
    unsigned := read.unsigned
    allowNull
    comment := comment.filter (!·.isEmpty)
    values := read.values }

/-- What a database answers, or why it does not. -/
structure Database (ε : Type) where
  name : Except ε String
  tables : Except ε (List String)
  definition : String → Except ε String
  fields : String → Except ε (List FieldDescriptor)

/-- A question that a database did not answer, and its reason. -/
structure FetchError (ε : Type) where
  question : String
  reason : ε
deriving Repr, DecidableEq

def FetchError.message {ε : Type} (error : FetchError ε) : String :=
  "failed to fetch " ++ error.question

/-- An answer, with its question in the case of a failure. -/
def asked {ε α : Type} (question : String) (answer : Except ε α) : Except (FetchError ε) α :=
  answer.mapError fun reason => { question, reason }

/-- A table's name as questions spell it. -/
def spelled (table : String) : String :=
  Dialect.quoteName Dialect.mySQL.nameQuote table

namespace Catalog

/-- Puts the column of a field into a table. The values of an enum become a type of their own. -/
def addField (catalog : Catalog) (table : TableDef) (field : FieldDescriptor) : Catalog × TableDef :=
  let enumName := table.name.name ++ "_" ++ field.name
  let isEnum := field.typeName == "enum"
  let type := if isEnum then .custom enumName else SqlType.ofName field.typeName field.size none
  let catalog :=
    if isEnum then catalog.addEnum none { name := enumName, values := field.values, isNotNull := !field.allowNull }
    else catalog
  (catalog, table.addColumn { ColumnDef.ofType field.name type with
    nullable := field.allowNull
    unsigned := field.unsigned
    length := field.size
    comment := field.comment })

def addTableOfFields (catalog : Catalog) (name : String) (fields : List FieldDescriptor) : Catalog :=
  let start : TableDef := { name := { schema := none, name } }
  let (catalog, table) := fields.foldl (fun (catalog, table) => addField catalog table) (catalog, start)
  catalog.addTable table

/-- The catalog of a database from the fields of its tables. The database is the default schema. -/
def ofFields {ε : Type} (database : Database ε) : Except (FetchError ε) Catalog := do
  let name ← asked "database name" database.name
  let tables ← asked "table names" database.tables
  tables.foldlM (fun (catalog : Catalog) table => do
    let fields ← asked ("fields of " ++ spelled table) (database.fields table)
    return catalog.addTableOfFields table fields) (Catalog.empty name)

end Catalog

/-- The catalog of a database from the definitions of its tables. There is no outcome if a definition has none. -/
def Draft.ofDefinitions? {ε : Type} (database : Database ε) : ExceptT (FetchError ε) Option Draft := do
  let name ← asked "database name" database.name
  let tables ← asked "table names" database.tables
  tables.foldlM (fun draft table => do
    let text ← asked ("create syntax of " ++ spelled table) (database.definition table)
    Draft.read? .mySQL draft (text ++ ";")) { catalog := Catalog.empty name }

end AnnotatedSql
