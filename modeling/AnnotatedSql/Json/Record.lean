import AnnotatedSql.Diagnostic
import AnnotatedSql.Generate.Helper
import AnnotatedSql.Json

/-!
The JSON form of catalogs, queries, diagnostics and helper registries. Every field is present, and an absent value is
`null`.
-/
namespace AnnotatedSql

open Json (ofList ofOption)

/-- A type is the name of its kind; one with parameters is an object under that name. -/
def SqlType.toJson : SqlType → Json
  | tinyInt => .str "TinyInt"
  | smallInt => .str "SmallInt"
  | mediumInt => .str "MediumInt"
  | integer => .str "Integer"
  | bigInt => .str "BigInt"
  | decimal precision scale =>
    .obj [("Decimal", .obj [("precision", ofOption .num precision), ("scale", ofOption .num scale)])]
  | real => .str "Real"
  | doublePrecision => .str "DoublePrecision"
  | char length => .obj [("Char", .obj [("length", ofOption .num length)])]
  | varchar length => .obj [("Varchar", .obj [("length", ofOption .num length)])]
  | text => .str "Text"
  | bytea => .str "Bytea"
  | blob => .str "Blob"
  | date => .str "Date"
  | time precision zone =>
    .obj [("Time", .obj [("precision", ofOption .num precision), ("with_timezone", .bool zone)])]
  | timestamp precision zone =>
    .obj [("Timestamp", .obj [("precision", ofOption .num precision), ("with_timezone", .bool zone)])]
  | datetime => .str "Datetime"
  | interval => .str "Interval"
  | boolean => .str "Boolean"
  | uuid => .str "Uuid"
  | json => .str "Json"
  | jsonb => .str "Jsonb"
  | array element => .obj [("Array", element.toJson)]
  | custom name => .obj [("Custom", .str name)]
  | unknown => .str "Unknown"

def QualifiedName.toJson (name : QualifiedName) : Json :=
  .obj [("schema", ofOption .str name.schema), ("name", .str name.name)]

/-! Catalogs -/

def ColumnDef.toJson (column : ColumnDef) : Json :=
  .obj [
    ("name", .str column.name),
    ("data_type", column.type.toJson),
    ("nullable", .bool column.nullable),
    ("is_array", .bool column.isArray),
    ("length", ofOption .num column.length),
    ("unsigned", .bool column.unsigned),
    ("is_primary_key", .bool column.isPrimaryKey),
    ("comment", ofOption .str column.comment)]

/-- Entries as the fields of an object. -/
def Keyed.toJson {α : Type} (encode : α → Json) (entries : Keyed α) : Json :=
  .obj (entries.map fun (key, value) => (key, encode value))

def TableDef.toJson (table : TableDef) : Json :=
  .obj [
    ("name", table.name.toJson),
    ("columns", table.columns.toJson ColumnDef.toJson),
    ("comment", ofOption .str table.comment)]

def EnumDef.toJson (enum : EnumDef) : Json :=
  .obj [
    ("kind", .str "enum"),
    ("name", .str enum.name),
    ("comment", ofOption .str enum.comment),
    ("values", ofList .str enum.values),
    ("is_not_null", .bool enum.isNotNull)]

def FunctionArg.toJson (arg : FunctionArg) : Json :=
  .obj [
    ("name", ofOption .str arg.name),
    ("data_type", arg.type.toJson),
    ("has_default", .bool arg.hasDefault)]

def FunctionDef.toJson (function : FunctionDef) : Json :=
  .obj [
    ("name", .str function.name),
    ("args", ofList FunctionArg.toJson function.args),
    ("return_type", function.returnType.toJson),
    ("return_not_null", .bool function.returnNotNull)]

def Schema.toJson (schema : Schema) : Json :=
  .obj [
    ("name", .str schema.name),
    ("tables", schema.tables.toJson TableDef.toJson),
    ("types", schema.enums.toJson EnumDef.toJson),
    ("functions", ofList FunctionDef.toJson schema.functions)]

def Catalog.toJson (catalog : Catalog) : Json :=
  .obj [
    ("schemas", catalog.schemas.toJson Schema.toJson),
    ("default_schema", .str catalog.defaultSchema)]

/-! Queries -/

def Column.toJson (column : Column) : Json :=
  .obj [
    ("name", .str column.name),
    ("data_type", .str column.type),
    ("not_null", .bool column.notNull),
    ("is_array", .bool column.isArray),
    ("is_slice", .bool column.isSlice),
    ("unsigned", .bool column.unsigned),
    ("length", ofOption .num column.length),
    ("table", ofOption QualifiedName.toJson column.table),
    ("table_alias", ofOption .str column.tableAlias),
    ("enum_ref", ofOption QualifiedName.toJson column.enumRef),
    ("comment", ofOption .str column.comment)]

def Parameter.toJson (param : Parameter) : Json :=
  .obj [("number", .num param.number), ("column", param.column.toJson), ("location", .num param.location)]

def InsertValues.toJson (values : InsertValues) : Json :=
  .obj [("params", ofList Parameter.toJson values.params), ("len", .num values.length)]

def Query.toJson (query : Query) : Json :=
  .obj [
    ("cmd", .str query.command.name),
    ("name", .str query.name),
    ("comments", ofList .str query.comments),
    ("params", ofList Parameter.toJson query.params),
    ("columns", ofList Column.toJson query.columns),
    ("sql", .str query.sql),
    ("omits", ofList .str query.omits),
    ("insert_values", ofOption InsertValues.toJson query.insertValues),
    ("filename", .str query.filename)]

/-! Reports -/

def Span.toJson (span : Span) : Json :=
  .obj [
    ("offset", .num span.offset),
    ("length", .num span.length),
    ("line", .num span.line),
    ("column", .num span.column)]

def Diagnostic.toJson (report : Diagnostic) : Json :=
  .obj [
    ("kind", .str report.kind.title),
    ("severity", .str report.severity.name),
    ("message", .str report.message),
    ("span", ofOption Span.toJson report.span),
    ("help", ofOption .str report.help),
    ("query", ofOption .str report.query),
    ("file", ofOption .str report.file)]

/-- Namespaces and their helpers, both sorted. -/
def Generate.HelperRegistry.toJson (registry : HelperRegistry) : Json :=
  registry.sorted.toJson (ofList .str)

end AnnotatedSql
