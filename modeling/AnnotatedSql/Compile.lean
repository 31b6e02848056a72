import AnnotatedSql.Compile.Check
import AnnotatedSql.Compile.Resolve
import AnnotatedSql.Compile.Wildcard
import AnnotatedSql.Diagnostic
import AnnotatedSql.Source.Comment
import AnnotatedSql.Source.Split
import AnnotatedSql.Sql.Parse
import AnnotatedSql.Text.Position

/-!
Compiling annotated statements into typed queries. A statement that fails does not stop the others; each failure is
reported with its place.
-/
namespace AnnotatedSql

/-- How statements are compiled. -/
structure CompileOptions where
  dialect : Dialect
  /-- Whether placeholders become `?`; the dialect decides if nothing is said. -/
  positional? : Option Bool := none
deriving Repr, DecidableEq

def CompileOptions.positional (options : CompileOptions) : Bool :=
  options.positional?.getD options.dialect.positionalParameters

/-- The only statement of a text. -/
def parseStatement (grammar : Sql.Grammar) (text : List Char) : Except Error Sql.Statement :=
  match Sql.parse grammar (String.ofList text) with
  | .error .brokenOff => .error .brokenOff
  | .error _ => .error (.parse "sql parser error: unexpected text")
  | .ok [statement] => .ok statement
  | .ok statements => .error (.parse s!"expected one statement, found {statements.length}")

/-- The leading keywords of a statement that is not compiled. -/
def unsupported? : Sql.Statement → Option String
  | .definition keywords _ | .other keywords => some keywords
  | _ => none

/-- How many placeholders a statement has. -/
def placeholderCount (statement : Sql.Statement) : Nat :=
  statement.all.countP fun
    | .literal (.placeholder _) => true
    | _ => false

/-- An edited text is still one statement, with as many placeholders as before. PostgreSQL's own grammar has no `?`. -/
def checkEdited (options : CompileOptions) (edited : List Char) (expected : Nat) : Except Error Unit :=
  let grammar :=
    if options.positional && options.dialect == .postgreSQL then .general else options.dialect.grammar
  match parseStatement grammar edited with
  | .error .brokenOff => .error .brokenOff
  | .error error => .error (.invalidEdit (error.message ++ ": " ++ String.ofList edited))
  | .ok statement =>
    let count := placeholderCount statement
    if count = expected then .ok ()
    else .error (.invalidEdit s!"edited statement has {count} placeholders, expected {expected}")

/-- A statement with a directive, as far as its text alone tells. -/
structure Annotated where
  text : List Char
  statement : Sql.Statement
  occurrences : List Occurrence
  directive : Directive

/-- Types the parameters and the columns of a statement and puts its text into its final form. -/
def Annotated.toQuery (catalog : Catalog) (options : CompileOptions) (filename : String) (given : Annotated) :
    Except Error Query := do
  let dialect := options.dialect
  let numbering := Numbering.ofOccurrences given.occurrences
  let statement := numbering.substitute given.statement
  let view : View := { catalog, dialect }
  let walk : Walk := { view, slices := dialect.inListSlices }
  let references ← Reference.ofStatement walk statement given.occurrences numbering.ordinals
  let resolved := if options.positional then references else Reference.unique references
  let params ← resolved.mapM (Reference.resolve catalog numbering)
  let insertValues ← insertValues catalog numbering references statement
  checkOmits given.directive.omits params
  let columns ← view.statementColumns statement
  let numberEdits :=
    if options.positional then positionalEdits given.occurrences else numbering.edits given.occurrences
  let edits := numberEdits ++ (← view.wildcardEdits given.text statement)
  let edited ← Source.mutate given.text edits
  if edited ≠ given.text then checkEdited options edited given.occurrences.length
  let (sql, comments) := Source.stripComments dialect.commentForms edited
  return {
    command := given.directive.command
    name := given.directive.name
    comments := comments.map String.ofList
    params
    columns
    sql := String.ofList sql
    omits := given.directive.omits
    insertValues
    filename }

/-- Compiles the statement of an extent with the text given. There is no query for a statement without a directive. -/
def compileText (catalog : Catalog) (options : CompileOptions) (filename : String) (extent : Source.Extent)
    (text : List Char) : Except Error (Option Query) := do
  let dialect := options.dialect
  let forms := dialect.commentForms
  let annotated := (Text.lines text).any forms.isDirective
  match parseStatement dialect.grammar text with
  | .error .brokenOff => throw .brokenOff
  | .error error => if annotated then throw error else return none
  | .ok statement =>
    match unsupported? statement with
    | some keywords => if annotated then throw (.unsupportedStatement keywords) else return none
    | none =>
      let text ← extent.pluck text
      let occurrences ← Placeholder.locate dialect text
      checkStyle occurrences
      checkNumbers occurrences
      checkInsert statement
      checkCalls catalog statement
      match ← Directive.read forms text with
      | none => return none
      | some directive =>
        return some (← Annotated.toQuery catalog options filename { text, statement, occurrences, directive })

/-- What a source text compiles to. -/
structure Compiled where
  queries : List Query := []
  diagnostics : List Diagnostic := []
  /-- Whether the reading of a statement broke off, which leaves the source without a result. -/
  aborted : Bool := false
deriving Repr, DecidableEq

namespace Compiled

def hasErrors (compiled : Compiled) : Bool :=
  !compiled.diagnostics.isEmpty

end Compiled

/-- The report on a statement that fails, with its place and the name of its query. -/
def diagnose (forms : CommentForms) (source : List Char) (filename : String) (extent : Source.Extent)
    (text : List Char) (error : Error) : Diagnostic :=
  let (line, column) := (Text.position? source extent.location).getD (1, 1)
  { error.toDiagnostic with
    span := some { offset := extent.location, length := extent.length, line, column }
    file := some filename
    query := match Directive.read forms text with
      | .ok (some directive) => some directive.name
      | _ => none }

/-- Compiles all statements of a source text. -/
def compile (catalog : Catalog) (options : CompileOptions) (filename : String) (source : List Char) : Compiled :=
  (Source.statements options.dialect source).foldl (fun compiled extent =>
    let text := (extent.text? source).getD []
    match compileText catalog options filename extent text with
    | .ok (some query) => { compiled with queries := compiled.queries ++ [query] }
    | .ok none => compiled
    | .error .brokenOff => { compiled with aborted := true }
    | .error error =>
      let report := diagnose options.dialect.commentForms source filename extent text error
      { compiled with diagnostics := compiled.diagnostics ++ [report] }) {}

end AnnotatedSql
