import AnnotatedSql.Placeholder
import AnnotatedSql.Source.Edit
import AnnotatedSql.Sql.Walk

/-!
Ordinal numbers of placeholders. Named parameters are numbered in the order of their first appearance, and a name that
comes again keeps its number. Tree and text are changed alike: the tree by `Numbering.substitute`, the text by
`Numbering.edits`.
-/
namespace AnnotatedSql

open Sql (Call Expr Statement)

/-- Name and form of a call such as `sqlc.arg(name)`. -/
def helperCall? (call : Call) : Option (String × NamedForm) :=
  match call.name, call.args with
  | [space, helper], .list [.positional (some value)] _ => do
    guard (Text.sameLetters space.value "sqlc")
    let form ← NamedForm.ofHelper? helper.value
    match value with
    | .ident name => some (name.value, form)
    | .literal (.text .single name) => some (name, form)
    | _ => none
  | _, _ => none

/-- The name of the parameter that an expression stands for: `:name`, `@name` in any of its readings, or a call of a
    helper. -/
def parameterName? : Expr → Option String
  | .literal (.placeholder spelling) =>
    match spelling.toList with
    | ':' :: name | '@' :: name => some (String.ofList name)
    | _ => none
  | .unary .abs (.ident name) => if name.quote.isNone then some name.value else none
  | .ident name => Placeholder.userVariable? { value := name.value, quote := name.quote, key := "" }
  | .call call => (helperCall? call).map (·.1)
  | _ => none

/-- What the spellings of a named parameter ask for. -/
structure NamedParam where
  name : String
  /-- `sqlc.narg` -/
  nullable : Bool
  /-- `sqlc.slice` -/
  slice : Bool
deriving Repr, DecidableEq

/-- Takes one more spelling into account. -/
def NamedParam.join (param : NamedParam) (form : NamedForm) : NamedParam :=
  { param with
    nullable := param.nullable || form == .nullableArg
    slice := param.slice || form == .slice }

/-- The numbers of a statement's placeholders. -/
structure Numbering where
  /-- One for each occurrence. -/
  ordinals : List Nat := []
  /-- The named parameters; the first one has the number 1. -/
  named : List NamedParam := []
  /-- How many placeholders had neither number nor name. -/
  positional : Nat := 0
deriving Repr, DecidableEq

namespace Numbering

/-- The number of a name. -/
def ordinal? (numbering : Numbering) (name : String) : Option Nat :=
  (numbering.named.findIdx? (·.name == name)).map (· + 1)

/-- The named parameter of a number. -/
def param? (numbering : Numbering) (number : Nat) : Option NamedParam :=
  if number = 0 then none else numbering.named[number - 1]?

/-- Notes a spelling of a name. -/
def note (name : String) (form : NamedForm) : List NamedParam → List NamedParam
  | [] => [NamedParam.join { name, nullable := false, slice := false } form]
  | param :: rest => if param.name == name then param.join form :: rest else param :: note name form rest

/-- Numbers one more occurrence. -/
def add (numbering : Numbering) (occurrence : Occurrence) : Numbering :=
  match occurrence.kind with
  | .numbered number => { numbering with ordinals := numbering.ordinals ++ [number] }
  | .positional =>
    { numbering with
      ordinals := numbering.ordinals ++ [numbering.positional + 1]
      positional := numbering.positional + 1 }
  | .named name form =>
    { numbering with
      ordinals := numbering.ordinals ++ [(numbering.ordinal? name).getD (numbering.named.length + 1)]
      named := note name form numbering.named }

def ofOccurrences (occurrences : List Occurrence) : Numbering :=
  occurrences.foldl add {}

/-- The placeholder of a number. -/
def placeholder (number : Nat) : String :=
  s!"${number}"

/-- The tree with the number of each named parameter in its place. -/
def substitute (numbering : Numbering) (statement : Statement) : Statement :=
  if numbering.named.isEmpty then statement
  else statement.mapUp fun expr =>
    match (parameterName? expr).bind numbering.ordinal? with
    | some number => .literal (.placeholder (placeholder number))
    | none => expr

/-- The edits that put the number of each named parameter in its place. -/
def edits (numbering : Numbering) (occurrences : List Occurrence) : List Source.Edit :=
  (occurrences.zip numbering.ordinals).filterMap fun (occurrence, number) =>
    if occurrence.isNamed then
      some {
        location := occurrence.location
        old := occurrence.text.toList
        new := (placeholder number).toList }
    else none

end Numbering

/-- The edits that turn every placeholder into a bare `?`. -/
def positionalEdits (occurrences : List Occurrence) : List Source.Edit :=
  (occurrences.filter (·.text != "?")).map fun occurrence =>
    { location := occurrence.location, old := occurrence.text.toList, new := ['?'] }

end AnnotatedSql
