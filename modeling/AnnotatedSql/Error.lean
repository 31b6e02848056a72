import AnnotatedSql.Text.Quoted

/-!
Why a statement does not compile. Each error is fatal for its statement only; `Error.message` is its wording, and
`Error.kind` the class under which it is reported.
-/
namespace AnnotatedSql

/-- Classes of errors, as reported. -/
inductive ErrorKind where
  | tableNotFound
  | columnNotFound
  | ambiguousColumn
  | unsupportedStatement
  | missingTerminator
  | invalidDirective
  | invalidCommand
  | invalidIdentifier
  | validationFailure
  | invalidEdit
  | parseError
deriving Repr, DecidableEq

namespace ErrorKind

def title : ErrorKind → String
  | tableNotFound => "TableNotFound"
  | columnNotFound => "ColumnNotFound"
  | ambiguousColumn => "AmbiguousColumn"
  | unsupportedStatement => "UnsupportedStatement"
  | missingTerminator => "MissingTerminator"
  | invalidDirective => "InvalidDirective"
  | invalidCommand => "InvalidCommand"
  | invalidIdentifier => "InvalidIdentifier"
  | validationFailure => "ValidationFailure"
  | invalidEdit => "InvalidRewrite"
  | parseError => "ParseError"

def code : ErrorKind → String
  | tableNotFound => "E0001"
  | columnNotFound => "E0002"
  | ambiguousColumn => "E0006"
  | unsupportedStatement => "E0101"
  | missingTerminator => "E0102"
  | invalidDirective => "E0103"
  | invalidCommand => "E0104"
  | invalidIdentifier => "E0105"
  | validationFailure => "E0106"
  | invalidEdit => "E0107"
  | parseError => "E1000"

def slug : ErrorKind → String
  | tableNotFound => "table-not-found"
  | columnNotFound => "column-not-found"
  | ambiguousColumn => "ambiguous-column"
  | unsupportedStatement => "unsupported-statement"
  | missingTerminator => "missing-terminator"
  | invalidDirective => "invalid-directive"
  | invalidCommand => "invalid-command"
  | invalidIdentifier => "invalid-identifier"
  | validationFailure => "validation-failure"
  | invalidEdit => "invalid-rewrite"
  | parseError => "parse-error"

end ErrorKind

/-- Why a statement does not compile. -/
inductive Error where
  /-- The statement is of a kind that is not compiled; its leading keywords. -/
  | unsupportedStatement (keywords : String)
  /-- No semicolon ends the statement. -/
  | missingTerminator
  | invalidDirective (reason line : String)
  | invalidCommand (text : String)
  | invalidIdentifier (text : String)
  | columnNotFound (table : Option String) (column : String)
  | tableNotFound (name : String)
  | ambiguousColumn (name : String)
  | validation (text : String)
  /-- The text after the edits is not the statement that was meant. -/
  | invalidEdit (text : String)
  | parse (text : String)
  /-- The reading of the statement breaks off; the whole text then has no result. -/
  | brokenOff
deriving Repr, DecidableEq

namespace Error

def message : Error → String
  | unsupportedStatement keywords => "unsupported statement type: " ++ keywords
  | missingTerminator => "missing semicolon at end of file"
  | invalidDirective reason line => reason ++ ": " ++ line
  | invalidCommand text => "invalid query type: " ++ text
  | invalidIdentifier text => "invalid query name: " ++ Text.quoted text
  | columnNotFound (some table) column =>
    "column \"" ++ column ++ "\" does not exist in \"" ++ table ++ "\""
  | columnNotFound none column => "column \"" ++ column ++ "\" does not exist"
  | tableNotFound name => "relation \"" ++ name ++ "\" does not exist"
  | ambiguousColumn name => "column reference \"" ++ name ++ "\" is ambiguous"
  | validation text => text
  | invalidEdit text => "edited query syntax is invalid: " ++ text
  | parse text => "parse error: " ++ text
  | brokenOff => "parse error: the reading breaks off"

def kind : Error → ErrorKind
  | unsupportedStatement _ => .unsupportedStatement
  | missingTerminator => .missingTerminator
  | invalidDirective _ _ => .invalidDirective
  | invalidCommand _ => .invalidCommand
  | invalidIdentifier _ => .invalidIdentifier
  | columnNotFound _ _ => .columnNotFound
  | tableNotFound _ => .tableNotFound
  | ambiguousColumn _ => .ambiguousColumn
  | validation _ => .validationFailure
  | invalidEdit _ => .invalidEdit
  | parse _ | brokenOff => .parseError

/-- What a report adds to the message. -/
def help : Error → Option String
  | unsupportedStatement _ =>
    some "only SELECT, INSERT, UPDATE, DELETE and TRUNCATE statements can be compiled"
  | invalidCommand _ => some "use one of :one, :many, :exec, :execrows, :execresult"
  | ambiguousColumn _ => some "qualify the column with a table name or alias"
  | missingTerminator => some "terminate the statement with a semicolon"
  | _ => none

/-- The name of the error in a fancy report. -/
def label : Error → String
  | unsupportedStatement _ => "sqltyped::unsupported_statement"
  | missingTerminator => "sqltyped::missing_terminator"
  | invalidDirective _ _ => "sqltyped::invalid_directive"
  | invalidCommand _ => "sqltyped::invalid_command"
  | invalidIdentifier _ => "sqltyped::invalid_identifier"
  | columnNotFound _ _ => "sqltyped::column_not_found"
  | tableNotFound _ => "sqltyped::table_not_found"
  | ambiguousColumn _ => "sqltyped::ambiguous_column"
  | validation _ => "sqltyped::validation"
  | invalidEdit _ => "sqltyped::invalid_rewrite"
  | parse _ | brokenOff => "sqltyped::parse"

/-- What a fancy report adds to the message. -/
def hint : Error → Option String
  | invalidDirective _ _ => some "expected `-- name: <Name> <:cmd> [omit, ...]`"
  | missingTerminator => none
  | error => error.help

end Error

end AnnotatedSql
