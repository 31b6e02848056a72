import AnnotatedSql.Error

/-!
Reports about statements: what went wrong, how badly, and where.
-/
namespace AnnotatedSql

inductive Severity where
  | error
  | warning
deriving Repr, DecidableEq

def Severity.name : Severity → String
  | error => "error"
  | warning => "warning"

/-- A place in a source text. Offset and length count bytes; line and column count from 1. -/
structure Span where
  offset : Nat
  length : Nat
  line : Nat
  column : Nat
deriving Repr, DecidableEq

structure Diagnostic where
  kind : ErrorKind
  severity : Severity
  message : String
  span : Option Span := none
  help : Option String := none
  /-- Name of the query, when its directive could be read. -/
  query : Option String := none
  file : Option String := none
deriving Repr, DecidableEq

def Error.toDiagnostic (error : Error) : Diagnostic where
  kind := error.kind
  severity := .error
  message := error.message
  help := error.help

end AnnotatedSql
