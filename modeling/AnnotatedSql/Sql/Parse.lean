import AnnotatedSql.Sql.Lexer
import AnnotatedSql.Sql.Parse.Command
import AnnotatedSql.Sql.Parse.Expr
import AnnotatedSql.Sql.Parse.TypeName

/-!
Reading statements. The rules of the grammar call each other through `Parse.rules`, which counts down the calls that
are left and how deep statements, queries and expressions may still be nested. Main definition: `parse`, which reads
all statements of a text.
-/
namespace AnnotatedSql.Sql

namespace Parse

/-- A statement. -/
def statement (rules : Rules) : Parse Statement := do
  match ← createEnum? with
  | some definition => return .definition "CREATE TYPE" definition
  | none =>
    let key ← peekKey
    match key with
    | "SELECT" | "WITH" | "VALUES" => return .query (← rules.query)
    | "" => if ← peekSymbol "(" then return .query (← rules.query) else refuse
    | _ =>
      skip
      match key with
      | "INSERT" => insertStatement rules
      | "REPLACE" => if ← inGrammar [.postgreSQL] then refuse else insertStatement rules
      | "UPDATE" => return .update (← update rules)
      | "DELETE" => return .delete (← delete rules)
      | "TRUNCATE" => return .truncate (← truncate rules)
      | "UNLOAD" => unload rules
      | "CREATE" => create rules
      | "ALTER" => alter rules
      | "DROP" => drop rules
      | "COMMENT" =>
        if ← inGrammar [.mySQL] then refuse
        match ← comment with
        | some definition => return .definition "COMMENT" definition
        | none => return .other "COMMENT"
      | _ =>
        command rules key
        return .other (commandName key)

/-- Rules that read nothing. -/
def noRules : Rules where
  expr _ := refuse
  primary := refuse
  query := refuse
  body _ := refuse
  typeName := refuse
  relation := refuse
  statement := refuse

/-- A reader that is one level deeper than the one around it. -/
def deeper {α : Type} (depth : Nat) (reader : Nat → Parse α) : Parse α :=
  match depth with
  | 0 => throw .tooDeep
  | depth + 1 => reader depth

/-- The rules of the grammar, for at most `calls` calls within each other and `depth` levels. -/
def rules (calls depth : Nat) : Rules :=
  match calls with
  | 0 => noRules
  | calls + 1 => {
    expr := fun least => deeper depth fun depth => fun grammar lexemes => expr (rules calls depth) least grammar lexemes
    primary := fun grammar lexemes => operand (rules calls depth) grammar lexemes
    query := deeper depth fun depth => fun grammar lexemes =>
      query (rules calls depth) (insert (rules calls depth)) (update (rules calls depth)) grammar lexemes
    body := fun least grammar lexemes => body (rules calls depth) least grammar lexemes
    typeName
    relation := fun grammar lexemes => relation (rules calls depth) grammar lexemes
    statement := deeper depth fun depth => fun grammar lexemes => statement (rules calls depth) grammar lexemes
  }

/-- How deep statements, queries and expressions may be nested. -/
def maxDepth : Nat := 50

end Parse

/-- All statements of a text, or why it does not have the grammar's form. -/
def parse (grammar : Grammar) (text : String) : Except Refusal (List Statement) :=
  match lex grammar text.toList with
  | none => .error .unexpected
  | some lexemes =>
    let rules := Parse.rules (10 * (lexemes.length + 5)) Parse.maxDepth
    (Parse.statements rules (lexemes.length + 1) grammar lexemes).map Prod.fst

end AnnotatedSql.Sql
