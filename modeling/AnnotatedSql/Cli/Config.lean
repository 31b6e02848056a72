import AnnotatedSql.Cli.Arguments
import AnnotatedSql.Generate.Naming
import AnnotatedSql.Toml.Document

/-!
Settings of a compilation. They come from a configuration file, and the command line overrides them.
-/
namespace AnnotatedSql.Cli

/-- The name of the configuration file that is looked for. -/
def configName : String := "sqltyped.toml"

structure Config where
  /-- Schema files, or patterns of them. -/
  schema : List String := []
  /-- A directory below which all SQL files belong to the schema. -/
  schemaDir : Option String := none
  /-- Query files, or patterns of them. -/
  queries : List String := []
  dialect : Option String := none
  format : Option String := none
  positional : Option Bool := none
  generate : Generate.Settings := {}
deriving Repr, DecidableEq

/-! Reading values: a value that is there must be of the right kind. -/

def text? : Toml → Option String
  | .string text => some text
  | _ => none

def truth? : Toml → Option Bool
  | .boolean value => some value
  | _ => none

def texts? : Toml → Option (List String)
  | .array items => items.mapM text?
  | _ => none

/-- The value of an optional key. -/
def optional {α : Type} (entries : Toml.Entries) (key : String) (read : Toml → Option α) : Option (Option α) :=
  match entries.lookup key with
  | none => some none
  | some value => (read value).map some

/-- The value of a key, or a default. -/
def withDefault {α : Type} (entries : Toml.Entries) (key : String) (read : Toml → Option α) (default : α) :
    Option α :=
  (optional entries key read).map (·.getD default)

/-- The keys of the settings for generated code, in the order in which an array gives their values. -/
def generateKeys : List String :=
  ["package", "emit_db_tags", "emit_json_tags", "emit_exact_table_names"]

def generateOfEntries? (entries : Toml.Entries) : Option Generate.Settings := do
  let default : Generate.Settings := {}
  return {
    package := ← withDefault entries "package" text? default.package
    dbTags := ← withDefault entries "emit_db_tags" truth? default.dbTags
    jsonTags := ← withDefault entries "emit_json_tags" truth? default.jsonTags
    exactTableNames := ← withDefault entries "emit_exact_table_names" truth? default.exactTableNames }

/-- Settings for generated code: a table, or its values in order. -/
def generate? : Toml → Option Generate.Settings
  | .table _ entries => generateOfEntries? entries
  | .array items => generateOfEntries? (generateKeys.zip items)
  | _ => none

/-- The settings of a document. Other keys are ignored. -/
def Config.ofEntries? (entries : Toml.Entries) : Option Config := do
  return {
    schema := ← withDefault entries "schema" texts? []
    schemaDir := ← optional entries "schema_dir" text?
    queries := ← withDefault entries "queries" texts? []
    dialect := ← optional entries "dialect" text?
    format := ← optional entries "format" text?
    positional := ← optional entries "positional_parameters" truth?
    generate := ← withDefault entries "gen" generate? {} }

/-- Reads a configuration file. -/
def Config.read? (text : String) : Option Config :=
  (Toml.parse? text).bind ofEntries?

/-- What the command line gives takes the place of what the file says. -/
def Config.override (config : Config) (args : CompileArgs) : Config :=
  { config with
    schema := if args.schema.isEmpty then config.schema else args.schema
    schemaDir := args.schemaDir <|> config.schemaDir
    queries := if args.files.isEmpty then config.queries else args.files
    dialect := args.dialect <|> config.dialect
    format := args.format.map Format.name <|> config.format
    positional := args.positional <|> config.positional }

end AnnotatedSql.Cli
