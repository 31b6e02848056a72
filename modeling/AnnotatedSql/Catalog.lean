import AnnotatedSql.Keyed
import AnnotatedSql.QualifiedName
import AnnotatedSql.SqlType

/-!
The catalog: schemas with their tables, enum types and functions, everything in the order of definition. Queries are
resolved against it.
-/
namespace AnnotatedSql

/-- A column of a catalog table. -/
structure ColumnDef where
  name : String
  type : SqlType
  nullable : Bool
  isArray : Bool
  /-- Length or precision, where one is declared. -/
  length : Option Nat
  unsigned : Bool
  isPrimaryKey : Bool
  comment : Option String
deriving Repr, DecidableEq

/-- A nullable column with the array flag and the length of its type. -/
def ColumnDef.ofType (name : String) (type : SqlType) : ColumnDef where
  name
  type
  nullable := true
  isArray := type.isArray
  length := type.length
  unsigned := false
  isPrimaryKey := false
  comment := none

structure TableDef where
  name : QualifiedName
  columns : Keyed ColumnDef := []
  comment : Option String := none
deriving Repr, DecidableEq

namespace TableDef

/-- Adds a column under its name, in the place of one of the same name. -/
def addColumn (table : TableDef) (column : ColumnDef) : TableDef :=
  { table with columns := table.columns.insert column.name column }

/-- The first column with a name, letter case aside. -/
def column? (table : TableDef) (name : String) : Option ColumnDef :=
  (table.columns.find? fun entry => Text.sameLetters entry.1 name).map (·.2)

end TableDef

structure EnumDef where
  name : String
  values : List String
  isNotNull : Bool := false
  comment : Option String := none
deriving Repr, DecidableEq

structure FunctionArg where
  name : Option String
  type : SqlType
  hasDefault : Bool
deriving Repr, DecidableEq

/-- A function signature; functions of one name stand side by side. -/
structure FunctionDef where
  name : String
  args : List FunctionArg
  returnType : SqlType
  returnNotNull : Bool
deriving Repr, DecidableEq

/-- Whether a call with `count` arguments fits the signature. -/
def FunctionDef.accepts (function : FunctionDef) (count : Nat) : Bool :=
  (function.args.filter (!·.hasDefault)).length ≤ count && count ≤ function.args.length

structure Schema where
  name : String
  tables : Keyed TableDef := []
  enums : Keyed EnumDef := []
  functions : List FunctionDef := []
deriving Repr, DecidableEq

/-- The table of a name: spelled exactly so, or else the first one that differs in letter case only. -/
def Schema.table? (schema : Schema) (name : String) : Option TableDef :=
  schema.tables.get? name <|> (schema.tables.find? fun entry => Text.sameLetters entry.1 name).map (·.2)

structure Catalog where
  schemas : Keyed Schema
  /-- The schema of names without one. -/
  defaultSchema : String
deriving Repr, DecidableEq

namespace Catalog

/-- A catalog that holds one empty schema, its default one. -/
def empty (defaultSchema : String) : Catalog where
  schemas := [(defaultSchema, { name := defaultSchema })]
  defaultSchema

/-- The schema that an optional qualifier names. -/
def schemaName (catalog : Catalog) (qualifier : Option String) : String :=
  qualifier.getD catalog.defaultSchema

def schema? (catalog : Catalog) (qualifier : Option String) : Option Schema :=
  catalog.schemas.get? (catalog.schemaName qualifier)

/-- Makes sure that a schema exists. -/
def ensureSchema (catalog : Catalog) (name : String) : Catalog :=
  if catalog.schemas.has name then catalog
  else { catalog with schemas := catalog.schemas.insert name { name } }

theorem defaultSchema_ensureSchema (catalog : Catalog) (name : String) :
    (catalog.ensureSchema name).defaultSchema = catalog.defaultSchema := by
  unfold ensureSchema
  split <;> rfl

theorem schemaName_ensureSchema (catalog : Catalog) (name : String) (qualifier : Option String) :
    (catalog.ensureSchema name).schemaName qualifier = catalog.schemaName qualifier := by
  rw [schemaName, schemaName, defaultSchema_ensureSchema]

/-- Changes the schema that a qualifier names, if it exists. -/
def modifySchema (catalog : Catalog) (qualifier : Option String) (f : Schema → Schema) : Catalog :=
  { catalog with schemas := catalog.schemas.modifyFirst (· == catalog.schemaName qualifier) f }

/-- Changes the schema that a qualifier names, after creating it if needed. -/
def withSchema (catalog : Catalog) (qualifier : Option String) (f : Schema → Schema) : Catalog :=
  (catalog.ensureSchema (catalog.schemaName qualifier)).modifySchema qualifier f

/-- Adds a table, in the place of one of the same name. -/
def addTable (catalog : Catalog) (table : TableDef) : Catalog :=
  catalog.withSchema table.name.schema fun schema =>
    { schema with tables := schema.tables.insert table.name.name table }

def table? (catalog : Catalog) (name : QualifiedName) : Option TableDef :=
  (catalog.schema? name.schema).bind (·.table? name.name)

def hasTable (catalog : Catalog) (name : QualifiedName) : Bool :=
  (catalog.table? name).isSome

/-- The first table with a name, letter case aside; this is the one that changes apply to. -/
def alterable? (catalog : Catalog) (name : QualifiedName) : Option TableDef :=
  (catalog.schema? name.schema).bind fun schema =>
    (schema.tables.find? fun entry => Text.sameLetters entry.1 name.name).map (·.2)

/-- Changes the first table with a name, letter case aside. -/
def modifyTable (catalog : Catalog) (name : QualifiedName) (f : TableDef → TableDef) : Catalog :=
  catalog.modifySchema name.schema fun schema =>
    { schema with tables := schema.tables.modifyFirst (Text.sameLetters · name.name) f }

/-- The table under exactly this name, as removal sees it. -/
def removable? (catalog : Catalog) (name : QualifiedName) : Option TableDef :=
  (catalog.schema? name.schema).bind (·.tables.get? name.name)

def removeTable (catalog : Catalog) (name : QualifiedName) : Catalog :=
  catalog.modifySchema name.schema fun schema => { schema with tables := schema.tables.erase name.name }

/-- Adds an enum type, in the place of one of the same name. -/
def addEnum (catalog : Catalog) (qualifier : Option String) (type : EnumDef) : Catalog :=
  catalog.withSchema qualifier fun schema => { schema with enums := schema.enums.insert type.name type }

def enum? (catalog : Catalog) (name : QualifiedName) : Option EnumDef :=
  (catalog.schema? name.schema).bind (·.enums.get? name.name)

/-- Adds a function beside those of the same name. -/
def addFunction (catalog : Catalog) (qualifier : Option String) (function : FunctionDef) : Catalog :=
  catalog.withSchema qualifier fun schema => { schema with functions := schema.functions ++ [function] }

/-- All functions of a name, letter case aside. -/
def functions (catalog : Catalog) (name : QualifiedName) : List FunctionDef :=
  match catalog.schema? name.schema with
  | some schema => schema.functions.filter (Text.sameLetters ·.name name.name)
  | none => []

/-- All table names, schema by schema. -/
def tableNames (catalog : Catalog) : List QualifiedName :=
  catalog.schemas.flatMap fun (schemaName, schema) =>
    schema.tables.keys.map fun name => { schema := some schemaName, name }

end Catalog

end AnnotatedSql
