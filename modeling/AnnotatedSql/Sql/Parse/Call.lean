import AnnotatedSql.Sql.Parse.TypeName

/-!
Function calls with all that may follow them, and intervals.
-/
namespace AnnotatedSql.Sql.Parse

/-- Units that may follow the number of an interval. -/
def temporalUnits : List String := [
  "YEAR", "MONTH", "WEEK", "DAY", "HOUR", "MINUTE", "SECOND", "CENTURY", "DECADE", "DOW", "DOY", "EPOCH", "ISODOW",
  "ISOYEAR", "JULIAN", "MICROSECOND", "MICROSECONDS", "MILLENIUM", "MILLENNIUM", "MILLISECOND", "MILLISECONDS",
  "NANOSECOND", "NANOSECONDS", "QUARTER", "TIMEZONE", "TIMEZONE_HOUR", "TIMEZONE_MINUTE"]

/-- Parts of a date or a time that can be named beside the units. -/
def temporalFields : List String :=
  temporalUnits ++ ["DAYOFWEEK", "DAYOFYEAR", "DATE", "DATETIME", "ISOWEEK", "TIME", "TIMEZONE_ABBR", "TIMEZONE_REGION"]

/-- A part of a date or a time; its key. MySQL takes known parts only. In the general grammar the day that weeks
    start with may follow in parentheses. -/
def dateTimeField : Parse String := do
  let flexible ← inGrammar [.postgreSQL, .general]
  match (← next).token with
  | .word word =>
    if word.key == "WEEK" then
      if ← inGrammar [.general] <&&> symbol? "(" then
        let _ ← ident
        symbol ")"
    if temporalFields.contains word.key || flexible then return word.key else refuse
  | .text .single _ => if flexible then return "" else refuse
  | _ => refuse

/-- An interval after its keyword. MySQL takes any expression for the number, and needs the unit. -/
def interval (rules : Rules) : Parse Expr := do
  let strict ← inGrammar [.mySQL]
  let value ← if strict then rules.whole else rules.primary
  let unit ← do
    if temporalUnits.contains (← peekKey) then dateTimeField
    else if strict then refuse
    else pure ""
  if unit == "SECOND" then
    let _ ← precisionAndScale?
  else
    let _ ← precision?
    if ← keyword? "TO" then
      if (← dateTimeField) == "SECOND" then let _ ← precision?
  return .interval value

/-- An expression to sort by, with its direction. -/
def orderItem (rules : Rules) : Parse Expr := do
  let expr ← rules.whole
  let _ ← oneOf? ["ASC", "DESC"]
  if !(← keywords? ["NULLS", "FIRST"]) then let _ ← keywords? ["NULLS", "LAST"]
  return expr

/-- Expressions to sort by, if `ORDER BY` comes next. -/
def orderBy (rules : Rules) : Parse (List Expr) :=
  listAfter ["ORDER", "BY"] (commaSeparated (orderItem rules))

/-- One end of a window frame. -/
def frameBound (rules : Rules) : Parse (List Expr) := do
  if ← keywords? ["CURRENT", "ROW"] then return []
  let rows ← do
    if ← keyword? "UNBOUNDED" then pure []
    else match ← peek? with
      | some (.text .single _) => do pure [← interval rules]
      | _ => do pure [← rules.whole]
  let _ ← oneOf ["PRECEDING", "FOLLOWING"]
  return rows

/-- A window after its opening parenthesis; its operands. -/
def windowSpec (rules : Rules) : Parse (List Expr) := do
  if let some (.word word) ← peek? then
    if word.isPlainName then skip
  let partitions ← listAfter ["PARTITION", "BY"] rules.list
  let order ← orderBy rules
  if ← symbol? ")" then return partitions ++ order
  let _ ← oneOf ["ROWS", "RANGE", "GROUPS"]
  let bounds ← do
    if ← keyword? "BETWEEN" then
      let lower ← frameBound rules
      keyword "AND"
      pure (lower ++ (← frameBound rules))
    else frameBound rules
  symbol ")"
  return partitions ++ order ++ bounds

/-- An expression, or a wildcard in its place. -/
inductive Starred where
  | all (extent : Extent)
  | of (name : ObjectName) (extent : Option Extent)
  | expr (value : Expr)

/-- A part of a path: a word, or a quoted text in its place. -/
def pathPart? : Token → Option Ident
  | .word word => some word.ident
  | .text .single value => some { value, quote := some '\x27' }
  | _ => none

/-- The path before a wildcard, the end of the wildcard, and what follows it. -/
abbrev StarPath := ObjectName × Nat × List Lexeme

/-- Follows a path to its wildcard. Gives `none` inside if the path has no wildcard, and `none` if a dot is followed
    by neither a part nor a wildcard. -/
def starPath? (parts : ObjectName) : List Lexeme → Option (Option StarPath)
  | ⟨.symbol ".", _, _⟩ :: ⟨.symbol "*", _, stop⟩ :: rest => some (some (parts, stop, rest))
  | ⟨.symbol ".", _, _⟩ :: ⟨token, _, _⟩ :: rest =>
    match pathPart? token with
    | some part => starPath? (parts ++ [part]) rest
    | none => none
  | [⟨.symbol ".", _, _⟩] => none
  | _ => some none

/-- An expression or a wildcard. The place of `name.*` is not known if the name starts with a quoted text. -/
def starred (rules : Rules) : Parse Starred := do
  match ← get with
  | ⟨.symbol "*", start, stop⟩ :: rest =>
    set rest
    return .all ⟨start, stop⟩
  | ⟨token, start, _⟩ :: rest =>
    match pathPart? token with
    | none => return .expr (← rules.whole)
    | some part =>
      match starPath? [part] rest with
      | none => refuse
      | some none => return .expr (← rules.whole)
      | some (some (name, stop, rest)) =>
        set rest
        let placed := match token with
          | .word _ => true
          | _ => false
        return .of name (if placed then some ⟨start, stop⟩ else none)
  | [] => refuse

/-- The value of an argument; missing for a wildcard. -/
def argValue (rules : Rules) : Parse (Option Expr) := do
  match ← starred rules with
  | .expr value => return some value
  | _ => return none

/-- What stands between the name and the value of an argument. -/
def argMark : Parse Unit := do
  if ← keyword? "VALUE" then return
  match ← read with
  | .postgreSQL => if !(← symbol? "=>") then symbol ":"
  | .mySQL => symbol "=>"
  | .general => if !(← symbol? "=>") then symbol ":="

/-- An argument. In PostgreSQL any expression can label one. -/
def arg (rules : Rules) : Parse Arg := do
  let labelled ← inGrammar [.postgreSQL]
  let named ← attempt do
    if labelled then
      let label ← rules.whole
      argMark
      return Arg.labelled label (← argValue rules)
    else
      let _ ← ident
      argMark
      return Arg.named (← argValue rules)
  match named with
  | some arg => return arg
  | none => return .positional (← argValue rules)

/-- `IGNORE NULLS` or `RESPECT NULLS`. -/
def nullTreatment : Parse Bool := do
  match ← oneOf? ["RESPECT", "IGNORE"] with
  | none => return false
  | some _ =>
    keyword "NULLS"
    return true

/-- `NULL ON NULL` or `ABSENT ON NULL`. -/
def nullClause : Parse Unit := do
  if !(← keywords? ["ABSENT", "ON", "NULL"]) then let _ ← keywords? ["NULL", "ON", "NULL"]

/-- What is done when an aggregated text grows too long. -/
def overflowClause (rules : Rules) : Parse (List Expr) := do
  if !(← keywords? ["ON", "OVERFLOW"]) then return []
  if ← keyword? "ERROR" then return []
  keyword "TRUNCATE"
  let filler ← do
    match ← peek? with
    | some (.text kind _) =>
      if [.single, .escaped, .unicode, .national, .hex].contains kind then do pure [← rules.whole] else refuse
    | _ => pure []
  let _ ← oneOf ["WITH", "WITHOUT"]
  keyword "COUNT"
  return filler

/-- Arguments after the opening parenthesis, the operands of the clauses after them, and whether these clauses say
    how nulls are treated. -/
def argList (rules : Rules) : Parse (List Arg × List Expr × Bool) := do
  let general ← inGrammar [.general]
  nullClause
  if ← symbol? ")" then return ([], [], false)
  let all ← keyword? "ALL"
  let distinct ← keyword? "DISTINCT"
  if all && distinct then refuse
  let args ← commaSeparated (arg rules)
  let treated ← if general then nullTreatment else pure false
  let order ← orderBy rules
  let limit ← do if ← keyword? "LIMIT" then pure [← rules.whole] else pure []
  let bound ← do
    if ← pure general <&&> keyword? "HAVING" then
      let _ ← oneOf ["MIN", "MAX"]
      pure [← rules.whole]
    else pure []
  if ← inGrammar [.mySQL, .general] then
    if ← keyword? "SEPARATOR" then let _ ← value
  let filler ← overflowClause rules
  nullClause
  symbol ")"
  return (args, order ++ limit ++ bound ++ filler, treated)

/-- `FILTER (WHERE …)`, in PostgreSQL. The words are taken as far as they match. -/
def filterClause (rules : Rules) : Parse (Option Expr) := do
  if !(← inGrammar [.postgreSQL]) then return none
  if !(← keyword? "FILTER") then return none
  if !(← symbol? "(") then return none
  if !(← keyword? "WHERE") then return none
  let filter ← rules.whole
  symbol ")"
  return some filter

/-- The window that a function runs over. -/
def overClause (rules : Rules) : Parse (List Expr) := do
  if !(← keyword? "OVER") then return []
  if ← symbol? "(" then windowSpec rules
  else
    let _ ← ident
    return []

/-- A function call from its opening parenthesis on. -/
def call (rules : Rules) (name : ObjectName) : Parse Expr := do
  symbol "("
  let (args, clauses, treated) ← argList rules
  let (args, clauses, treated) ← do
    if ← inGrammar [.general] <&&> symbol? "(" then
      let (inner, more, treated) ← argList rules
      pure (args ++ inner, clauses ++ more, treated)
    else pure (args, clauses, treated)
  let withinGroup ← do
    if ← keywords? ["WITHIN", "GROUP"] then
      parenthesized do
        keywords ["ORDER", "BY"]
        commaSeparated (orderItem rules)
    else pure []
  let filter ← filterClause rules
  if !treated then let _ ← nullTreatment
  let window ← overClause rules
  return .call { name, args := .list args clauses, filter, window, withinGroup }

/-- A call without parentheses. -/
def bareCall (name : ObjectName) : Expr :=
  .call { name, args := .none, filter := none, window := [], withinGroup := [] }

/-- A function of the current time, which may be called without parentheses. -/
def timeCall (rules : Rules) (name : ObjectName) : Parse Expr := do
  if ← symbol? "(" then
    let (args, clauses, _) ← argList rules
    return .call { name, args := .list args clauses, filter := none, window := [], withinGroup := [] }
  else return bareCall name

end AnnotatedSql.Sql.Parse
