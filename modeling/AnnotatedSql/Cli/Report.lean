import AnnotatedSql.Json.Record
import AnnotatedSql.SqlType
import AnnotatedSql.Text.Blank

/-!
What is printed about queries, diagnostics and catalogs.
-/
namespace AnnotatedSql.Cli

/-- A text on a line of its own. -/
def line (text : String) : String :=
  text ++ "\n"

def replicate (count : Nat) (c : Char) : String :=
  String.ofList (List.replicate count c)

/-- A number at the right end of three places. -/
def lineNumber (number : Nat) : String :=
  let digits := Nat.repr number
  replicate (3 - digits.length) ' ' ++ digits

/-- The severity, in red or in yellow. -/
def severityLabel : Severity → String
  | .error => "\x1b[31merror\x1b[0m"
  | .warning => "\x1b[33mwarning\x1b[0m"

/-- The line that a span starts on, underlined from there to its end. -/
def excerpt (source : List Char) (span : Span) : String :=
  match (Text.lines source)[span.line - 1]? with
  | none => ""
  | some shown =>
    let indent := span.column - 1
    line "   |" ++ line (lineNumber span.line ++ " | " ++ String.ofList shown) ++
      line ("   | " ++ replicate indent ' ' ++ replicate (max (shown.length - indent) 1) '^')

/-- A diagnostic, with an excerpt of the source it is about. -/
def diagnosticText (source : List Char) (report : Diagnostic) : String :=
  let subject := match report.query with
    | some query => query ++ ": "
    | none => ""
  let place := match report.span with
    | some span =>
      let file := report.file.getD "<input>"
      line s!"  --> {file}:{span.line}:{span.column}" ++ excerpt source span
    | none => ""
  let help := match report.help with
    | some help => line ("   = help: " ++ help)
    | none => ""
  line (severityLabel report.severity ++ "[" ++ report.kind.code ++ "]: " ++ subject ++ report.message) ++
    place ++ help ++ line ""

/-- The type of a column, and whether it excludes null. -/
def columnType (column : Column) : String :=
  column.type ++ if column.notNull then " NOT NULL" else ""

/-- A query with its parameters and its columns, one on each line. -/
def queryText (query : Query) : String :=
  let param (p : Parameter) :=
    let name := if p.column.name.isEmpty then "_" else p.column.name
    line s!"  ${p.number} {name} {columnType p.column}"
  let column (c : Column) := line s!"  -> {c.name} {columnType c}"
  line s!"{query.name} {query.command.name} ({query.filename})" ++
    String.join (query.params.map param) ++ String.join (query.columns.map column)

/-- The tables of a catalog with their columns. -/
def catalogText (catalog : Catalog) : String :=
  let column (name : String) (column : ColumnDef) :=
    let null := if column.nullable then "NULL" else "NOT NULL"
    line s!"    - {name} {column.type.displayName} {null}"
  let table (name : String) (table : TableDef) :=
    line ("  Table: " ++ name) ++ String.join (table.columns.map fun (name, c) => column name c)
  let schema (name : String) (schema : Schema) :=
    line "" ++ line ("Schema: " ++ name) ++ String.join (schema.tables.map fun (name, t) => table name t)
  line "Schema Information:" ++ line "==================" ++
    String.join (catalog.schemas.map fun (name, s) => schema name s)

/-- Everything that a compilation gives. -/
structure Report where
  queries : List Query
  helpers : Generate.HelperRegistry
  diagnostics : List Diagnostic

def Report.toJson (report : Report) : Json :=
  .obj [
    ("queries", .ofList Query.toJson report.queries),
    ("helpers", report.helpers.toJson),
    ("diagnostics", .ofList Diagnostic.toJson report.diagnostics)]

/-- The diagnostics, each with the text of its file. -/
def Report.diagnosticsText (report : Report) (sources : List (String × String)) : String :=
  String.join (report.diagnostics.map fun diagnostic =>
    let source := (diagnostic.file.bind fun file => sources.lookup file).getD ""
    diagnosticText source.toList diagnostic)

def Report.queriesText (report : Report) : String :=
  String.join (report.queries.map queryText)

/-- One line on what came of a number of files. -/
def Report.summary (report : Report) (files : Nat) : String :=
  if report.diagnostics.isEmpty then
    let count := report.queries.length
    let noun := if count = 1 then "query" else "queries"
    line s!"Compiled {count} {noun} from {files} file(s)"
  else line s!"Found {report.diagnostics.length} error(s) in {files} file(s)"

end AnnotatedSql.Cli
