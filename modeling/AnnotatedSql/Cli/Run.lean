import AnnotatedSql.Catalog.Define
import AnnotatedSql.Cli.Config
import AnnotatedSql.Cli.Help
import AnnotatedSql.Cli.Report
import AnnotatedSql.Compile
import AnnotatedSql.Files.Glob

/-!
Running a command line over the files it can see.
-/
namespace AnnotatedSql.Cli

/-- What a run prints, and the code it ends with. -/
structure Outcome where
  exit : Nat
  stdout : String := ""
  stderr : String := ""
deriving Repr, DecidableEq

/-- Why a run comes to no result. -/
inductive Failure where
  | unreadable (path : String)
  | invalidConfig (path : String)
  | unknownDialect (name : String)
  | unknownFormat (name : String)
  | invalidPattern (text : String)
  | noSchema
  | noQueries
  /-- The reading of a file breaks off, or a definition in it has no place in its table. -/
  | brokenOff (path : String)
deriving Repr, DecidableEq

namespace Failure

def message : Failure → String
  | unreadable path => "cannot read " ++ path
  | invalidConfig path => "invalid configuration in " ++ path
  | unknownDialect name => Dialect.unknownMessage name
  | unknownFormat name => "invalid variant: " ++ name
  | invalidPattern text => "invalid pattern: " ++ text
  | noSchema => "No schema files specified. Use --schema, --schema-dir, or configure in " ++ configName
  | noQueries => "No query files specified. Use positional arguments or configure in " ++ configName
  | brokenOff path => "no result for " ++ path

def exit : Failure → Nat
  | brokenOff _ => 101
  | _ => 2

def outcome (failure : Failure) : Outcome where
  exit := failure.exit
  stderr := "Error: " ++ failure.message ++ "\n"

end Failure

def Halt.outcome : Halt → Outcome
  | .usage error => { exit := 2, stderr := "error: " ++ error.message ++ "\n" }
  | .version topic => { exit := 0, stdout := versionText topic }
  | .help topic => { exit := 0, stdout := helpText topic }

section
variable {m : Type → Type} [Monad m]

/-- A value that must be there. -/
def orFail {α : Type} (failure : Failure) : Option α → ExceptT Failure m α
  | some value => return value
  | none => throw failure

def dialectOf (name : Option String) : ExceptT Failure m Dialect :=
  let name := name.getD Dialect.postgreSQL.name
  orFail (.unknownDialect name) (Dialect.ofName? name)

/-- The format of a name in any letter case. -/
def formatOf : Option String → ExceptT Failure m Format
  | none => return .human
  | some name =>
    orFail (.unknownFormat name) ([Format.human, .json].find? fun format => Text.sameLetters format.name name)

variable (files : Files m)

/-- The text of a file that must be there. -/
def textOf (path : String) : ExceptT Failure m String := do
  orFail (.unreadable path) (← files.text? path)

/-- The paths that a pattern describes. -/
def expandGlob (text : String) : ExceptT Failure m (List String) := do
  let pattern ← orFail (.invalidPattern text) (Glob.Pattern.read? text)
  let found : List String ← (pattern.expand files : m (List String))
  return found

/-- Paths as given, those with a star as patterns. -/
def expandPaths (paths : List String) : ExceptT Failure m (List String) := do
  let found ← paths.mapM fun path => if path.toList.contains '*' then expandGlob files path else return [path]
  return found.flatten

/-- The settings of a compilation: those of the file named, or of the nearest one, under the command line. -/
def configOf (args : CompileArgs) : ExceptT Failure m Config := do
  let file ← match args.config with
    | some path => pure (some path)
    | none => files.nearest? configName
  let config ← match file with
    | none => pure {}
    | some path => orFail (.invalidConfig path) (Config.read? (← textOf files path))
  return config.override args

def schemaFiles (config : Config) : ExceptT Failure m (List String) := do
  let named ← expandPaths files config.schema
  match config.schemaDir with
  | some directory => return named ++ (← expandGlob files (directory ++ "/**/*.sql"))
  | none => return named

/-- The catalog of definitions in files. -/
def catalogOf (dialect : Dialect) (paths : List String) : ExceptT Failure m Catalog := do
  let draft ← paths.foldlM (fun draft path => do
    orFail (.brokenOff path) (Draft.read? dialect draft (← textOf files path)))
    { catalog := Catalog.empty dialect.defaultSchema : Draft }
  return draft.catalog

/-- The helpers of queries, under the package of the generated code. -/
def helpersOf (package : String) (queries : List Query) : Generate.HelperRegistry :=
  queries.foldl (fun registry query => (Generate.queryHelpers query).foldl (·.add package ·) registry) {}

/-- Compiles the query files against the schema files. -/
def runCompile (args : CompileArgs) (quiet : Bool) : ExceptT Failure m Outcome := do
  let config ← configOf files args
  let dialect ← dialectOf config.dialect
  let format ← formatOf config.format
  let schema ← schemaFiles files config
  if schema.isEmpty then throw .noSchema
  let catalog ← catalogOf files dialect schema
  let paths ← expandPaths files config.queries
  if paths.isEmpty then throw .noQueries
  let sources ← paths.mapM fun path => return (path, ← textOf files path)
  let options : CompileOptions := { dialect, positional? := config.positional }
  let compiled ← sources.mapM fun (path, text) => do
    let compiled := compile catalog options path text.toList
    if compiled.aborted then throw (.brokenOff path) else return compiled
  let queries := Query.sortByName (compiled.flatMap (·.queries))
  let report : Report := {
    queries
    helpers := helpersOf config.generate.package queries
    diagnostics := compiled.flatMap (·.diagnostics) }
  let summary := if quiet then "" else report.summary paths.length
  return {
    exit := if report.diagnostics.isEmpty then 0 else 1
    stdout := match format with
      | .human => report.queriesText
      | .json => line report.toJson.pretty
    stderr := match format with
      | .human => report.diagnosticsText sources ++ summary
      | .json => summary }

/-- Lists the definitions in the schema files. -/
def runSchema (args : SchemaArgs) : ExceptT Failure m Outcome := do
  let dialect ← dialectOf args.dialect
  let catalog ← catalogOf files dialect args.files
  return { exit := 0, stdout := if args.json then line catalog.toJson.pretty else catalogText catalog }

/-- Runs a command line. A configuration file can be given from outside if the command line names none. -/
def run (words : List String) (config : Option String := none) : m Outcome := do
  match read words with
  | .error why => return why.outcome
  | .ok invocation =>
    let result ← match invocation.task with
      | .compile args => (runCompile files { args with config := args.config <|> config } invocation.quiet).run
      | .schema args => (runSchema files args).run
    match result with
    | .ok outcome => return outcome
    | .error failure => return failure.outcome

end

end AnnotatedSql.Cli
