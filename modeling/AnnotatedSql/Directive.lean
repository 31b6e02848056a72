import AnnotatedSql.Dialect
import AnnotatedSql.Error
import AnnotatedSql.Text.Blank
import AnnotatedSql.Text.Letter

/-!
Query directives: the comment line that names a query and says how it is run, such as
`-- name: CreateUser :exec [password, secret]`. Reading takes the first line of a text that opens like a directive;
`Directive.line` writes one.
-/
namespace AnnotatedSql

/-- How a query is run and what it returns. -/
inductive Command where
  | exec
  | execResult
  | execRows
  | many
  | one
deriving Repr, DecidableEq

namespace Command

def name : Command → String
  | exec => ":exec"
  | execResult => ":execresult"
  | execRows => ":execrows"
  | many => ":many"
  | one => ":one"

def ofName? (text : String) : Option Command :=
  [exec, execResult, execRows, many, one].find? (·.name == text)

theorem ofName?_name (command : Command) : ofName? command.name = some command := by
  cases command <;> decide

def ofName (text : String) : Except Error Command :=
  match ofName? text with
  | some command => .ok command
  | none => .error (.invalidCommand text)

end Command

namespace CommentForms

/-- How a directive line opens in each of the forms. -/
def openings (forms : CommentForms) : List (List Char) :=
  (if forms.dash then ["-- name:".toList] else []) ++
  (if forms.hash then ["# name:".toList] else []) ++
  (if forms.slashStar then ["/* name:".toList] else [])

/-- Whether a line opens like a directive, blanks before it aside. -/
def isDirective (forms : CommentForms) (line : List Char) : Bool :=
  forms.openings.any (·.isPrefixOf (Text.trimStart line))

end CommentForms

/-- Name, command and left-out columns of a query. -/
structure Directive where
  name : String
  command : Command
  omits : List String
deriving Repr, DecidableEq

namespace Directive

/-- The directive as a line of its own. -/
def line (directive : Directive) : String :=
  "-- name: " ++ directive.name ++ " " ++ directive.command.name ++
    if directive.omits.isEmpty then "" else " [" ++ ", ".intercalate directive.omits ++ "]"

/-- An identifier starts with a letter or `_` and goes on with letters, digits and `_` of any script. -/
def isIdentifier : List Char → Bool
  | [] => false
  | c :: cs => (Text.isAlphabetic c || c == '_') && cs.all fun d => Text.isAlphanumeric d || d == '_'

/-- The entries of a list `[a, b]`; nothing may stand around the brackets or nest in them. -/
def readOmits? (tail : List Char) : Option (List String) :=
  match tail with
  | '[' :: rest =>
    if rest.getLast? = some ']' then
      let inner := rest.dropLast
      if inner.contains '[' || inner.contains ']' then none
      else some (((inner.splitOn ',').map Text.trim).filter (!·.isEmpty) |>.map String.ofList)
    else none
  | _ => none

/-- A `/* … */` line without its closing mark. -/
def dropClosing (line : List Char) : List Char :=
  if "/*".toList.isPrefixOf line then
    Text.trimEnd (if "*/".toList.isSuffixOf line then line.take (line.length - 2) else line)
  else line

/-- Reads one trimmed line that opens like a directive. -/
def readLine (line : List Char) : Except Error Directive :=
  let line := dropClosing line
  let invalid (reason : String) : Except Error Directive :=
    .error (.invalidDirective reason (String.ofList line))
  match Text.words line with
  | [_, _] => invalid "missing query type [':one', ':many', ':exec', ':execrows', ':execresult']"
  | _ :: _ :: name :: command :: tail =>
    match if tail.isEmpty then some [] else readOmits? (List.intercalate [' '] tail) with
    | none => invalid "invalid query comment"
    | some omits => do
      let command ← Command.ofName (String.ofList command)
      if isIdentifier name then
        return { name := String.ofList name, command, omits }
      else
        throw (.invalidIdentifier (String.ofList name))
  | _ => invalid "invalid query comment"

/-- Reads the first directive of a text; `none` if no line opens like one. -/
def read (forms : CommentForms) (text : List Char) : Except Error (Option Directive) :=
  match ((Text.lines text).map Text.trim).find? fun line => forms.openings.any (·.isPrefixOf line) with
  | none => .ok none
  | some line => (readLine line).map some

end Directive

end AnnotatedSql
