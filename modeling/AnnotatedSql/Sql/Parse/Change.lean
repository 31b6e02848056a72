import AnnotatedSql.Sql.Parse.Query

/-!
Statements that change rows: `INSERT`, `UPDATE`, `DELETE` and `TRUNCATE`.
-/
namespace AnnotatedSql.Sql.Parse

/-- `OR REPLACE` and its like. -/
def conflictClause : Parse Unit := do
  let taken ← ["REPLACE", "ROLLBACK", "ABORT", "FAIL", "IGNORE"].anyM fun key => keywords? ["OR", key]
  if !taken then let _ ← keyword? "REPLACE"

/-- An assignment to a column or to a list of columns. -/
def assignment (rules : Rules) : Parse Assignment := do
  let target ← do
    if ← symbol? "(" then
      let _ ← commaSeparated objectName
      symbol ")"
      pure none
    else some <$> objectName
  symbol "="
  return { target, value := ← rules.whole }

def assignments (rules : Rules) : Parse (List Assignment) :=
  commaSeparated (assignment rules)

/-- What is done when a row exists, after `ON`: assignments and their condition. -/
def onInsert (rules : Rules) : Parse (List Assignment × Option Expr) := do
  if !(← keyword? "ON") then return ([], none)
  if ← keyword? "CONFLICT" then
    if ← keywords? ["ON", "CONSTRAINT"] then let _ ← objectName
    else if ← peekSymbol "(" then let _ ← columnList false false
    keyword "DO"
    if ← keyword? "NOTHING" then return ([], none)
    keywords ["UPDATE", "SET"]
    let updates ← assignments rules
    return (updates, ← after? "WHERE" rules.whole)
  else
    keywords ["DUPLICATE", "KEY", "UPDATE"]
    return (← assignments rules, none)

/-- The rows that are inserted, with the columns and partitions named before them. -/
def insertSource (rules : Rules) : Parse (List Ident × List Expr × Option Query) := do
  if ← keywords? ["DEFAULT", "VALUES"] then return ([], [], none)
  let queryFirst := (← peekSymbol "(") && (match ← peekAt? 1 with
    | some (.word word) => word.key == "SELECT"
    | _ => false)
  let (columns, partitions) ← do
    if queryFirst then pure ([], [])
    else
      let columns ← columnList true (← inGrammar [.mySQL])
      let partitions ← listAfter ["PARTITION"] (parenthesized rules.list)
      pure (columns, partitions)
  return (columns, partitions, some (← rules.query))

/-- What stands between `INSERT` and its target. -/
def insertHead : Parse Unit := do
  conflictClause
  if ← inGrammar [.mySQL, .general] then
    let _ ← oneOf? ["LOW_PRIORITY", "DELAYED", "HIGH_PRIORITY"]
    let _ ← keyword? "IGNORE"
  let _ ← keyword? "OVERWRITE"
  let _ ← keyword? "INTO"
  let _ ← keyword? "LOCAL"

/-- `INSERT` into a table, after what stands before it. -/
def insertRows (rules : Rules) : Parse Insert := do
  let lenient ← inGrammar [.mySQL, .general]
  let _ ← keyword? "TABLE"
  let table ← objectName
  if ← inGrammar [.postgreSQL] then
    if ← keyword? "AS" then let _ ← ident
  let (columns, partitions, source) ← insertSource rules
  if lenient then
    if ← keyword? "AS" then
      let _ ← objectName
      let _ ← columnList true false
  let (updates, updateWhere) ← onInsert rules
  return { table, columns, source, partitions, updates, updateWhere, returning := ← returningItems rules }

/-- A format that the files of a table are kept in. -/
def fileFormat : Parse Unit :=
  discard (oneOf ["AVRO", "JSONFILE", "ORC", "PARQUET", "RCFILE", "SEQUENCEFILE", "TEXTFILE"])

/-- `INSERT` after its keyword, as part of a query. -/
def insert (rules : Rules) : Parse Insert := do
  insertHead
  if ← peekKeyword "DIRECTORY" then refuse
  insertRows rules

/-- `INSERT` after its keyword, as a statement. Rows can be written to files as well. -/
def insertStatement (rules : Rules) : Parse Statement := do
  insertHead
  if ← keyword? "DIRECTORY" then
    let _ ← text
    if ← keywords? ["STORED", "AS"] then fileFormat
    let _ ← rules.query
    return .other "INSERT"
  else return .insert (← insertRows rules)

/-- `UPDATE` after its keyword. MySQL has no `FROM` clause, but takes the word. -/
def update (rules : Rules) : Parse Update := do
  conflictClause
  let table ← fromItem rules
  keyword "SET"
  let assignments ← assignments rules
  let tables ← do
    if (← keyword? "FROM") && !(← inGrammar [.mySQL]) then some <$> fromItem rules else pure none
  let selection ← after? "WHERE" rules.whole
  return { table, assignments, tables, selection, returning := ← returningItems rules }

/-- `DELETE` after its keyword. Tables may be named before `FROM`. -/
def delete (rules : Rules) : Parse Delete := do
  if !(← keyword? "FROM") then
    if !(← inGrammar [.general]) then
      let _ ← commaSeparated objectName
      keyword "FROM"
  let tables ← fromItems rules
  let others ← listAfter ["USING"] (fromItems rules)
  let selection ← after? "WHERE" rules.whole
  let returning ← returningItems rules
  let orderBy ← orderBy rules
  let limit ← do
    if ← keyword? "LIMIT" then
      if ← keyword? "ALL" then pure none else some <$> rules.whole
    else pure none
  return { tables, others, selection, returning, orderBy, limit }

/-- `ON CLUSTER name`. -/
def onCluster : Parse Unit := do
  if ← keywords? ["ON", "CLUSTER"] then let _ ← ident

/-- `TRUNCATE` after its keyword; the partitions that are emptied. -/
def truncate (rules : Rules) : Parse (List Expr) := do
  let _ ← keyword? "TABLE"
  let _ ← keyword? "ONLY"
  let _ ← commaSeparated objectName
  let partitions ← listAfter ["PARTITION"] (parenthesized rules.list)
  if ← inGrammar [.postgreSQL, .general] then
    if !(← keywords? ["RESTART", "IDENTITY"]) then let _ ← keywords? ["CONTINUE", "IDENTITY"]
    let _ ← oneOf? ["CASCADE", "RESTRICT"]
  onCluster
  return partitions

end AnnotatedSql.Sql.Parse
