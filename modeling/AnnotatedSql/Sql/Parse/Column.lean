import AnnotatedSql.Sql.Parse.Call

/-!
Columns and constraints, as they stand in the definition of a table.
-/
namespace AnnotatedSql.Sql.Parse

/-- When a constraint is checked, in any order but each part once. -/
def checkTimes (deferral start enforcement : Bool) : Nat → Parse Unit
  | 0 => return
  | bound + 1 => do
    if ← pure deferral <&&> (keywords? ["NOT", "DEFERRABLE"] <||> keyword? "DEFERRABLE") then
      checkTimes false start enforcement bound
    else if ← pure start <&&> keyword? "INITIALLY" then
      let _ ← oneOf ["DEFERRED", "IMMEDIATE"]
      checkTimes deferral false enforcement bound
    else if ← pure enforcement <&&> (keyword? "ENFORCED" <||> keywords? ["NOT", "ENFORCED"]) then
      checkTimes deferral start false bound

/-- `DEFERRABLE`, `INITIALLY DEFERRED`, `ENFORCED` and their like. -/
def constraintTimes : Parse Unit :=
  checkTimes true true true 3

/-- What happens to rows whose referenced row changes. -/
def referentialAction : Parse Unit := do
  if (← oneOf? ["RESTRICT", "CASCADE"]).isNone then
    let known ← [["SET", "NULL"], ["NO", "ACTION"], ["SET", "DEFAULT"]].anyM keywords?
    if !known then refuse

/-- `ON DELETE` and `ON UPDATE`, in any order but each once. -/
def referentialActions (onDelete onUpdate : Bool) : Nat → Parse Unit
  | 0 => return
  | bound + 1 => do
    if ← pure onDelete <&&> keywords? ["ON", "DELETE"] then
      referentialAction
      referentialActions false onUpdate bound
    else if ← pure onUpdate <&&> keywords? ["ON", "UPDATE"] then
      referentialAction
      referentialActions onDelete false bound

/-- What follows `REFERENCES`; the columns may be left out if they are optional. -/
def reference (optional : Bool) : Parse Unit := do
  let _ ← objectName
  let _ ← columnList optional false
  referentialActions true true 2
  constraintTimes

/-- A number with a sign, or a placeholder for one. -/
def signedNumber : Parse Expr := do
  if !(← symbol? "+") then let _ ← symbol? "-"
  return .literal (← numberValue)

/-- A number that keywords announce, or `NO` before them. -/
def sequenceBound (key : String) : Parse Unit := do
  if ← keyword? key then let _ ← signedNumber
  else let _ ← keywords? ["NO", key]

/-- Options of a sequence, in the order that they have to come in. -/
def sequenceOptions : Parse Unit := do
  if ← keyword? "INCREMENT" then
    let _ ← keyword? "BY"
    let _ ← signedNumber
  sequenceBound "MINVALUE"
  sequenceBound "MAXVALUE"
  if ← keyword? "START" then
    let _ ← keyword? "WITH"
    let _ ← signedNumber
  if ← keyword? "CACHE" then let _ ← signedNumber
  if !(← keywords? ["NO", "CYCLE"]) then let _ ← keyword? "CYCLE"

/-- A column that is computed, after `GENERATED`. PostgreSQL stores such a column. -/
def generated? (rules : Rules) : Parse (Option ColumnOption) := do
  if ← keywords? ["ALWAYS", "AS", "IDENTITY"] <||> keywords? ["BY", "DEFAULT", "AS", "IDENTITY"] then
    if ← peekSymbol "(" then parenthesized sequenceOptions
    return some .other
  else if ← keywords? ["ALWAYS", "AS"] then
    if ← peekSymbol "(" then
      let _ ← parenthesized rules.whole
      if !(← keyword? "STORED") then
        if ← inGrammar [.postgreSQL] then refuse
        let _ ← keyword? "VIRTUAL"
      return some .other
    else return none
  else return none

/-- The options that only some databases have. Where a database lacks one, its words are taken all the same and the
    column ends there. -/
def rareOption? (rules : Rules) : Parse (Option ColumnOption) := do
  let known ← inGrammar [.mySQL, .general]
  if (← keyword? "AUTO_INCREMENT") && known then return some .other
  ["AUTOINCREMENT", "ASC", "DESC"].forM fun key => discard (keyword? key)
  if (← keywords? ["ON", "UPDATE"]) && known then
    let _ ← rules.whole
    return some .other
  if ← keyword? "GENERATED" then return ← generated? rules
  if (← keyword? "AS") && known then
    let _ ← parenthesized rules.whole
    let _ ← oneOf? ["STORED", "VIRTUAL"]
    return some .other
  let _ ← keyword? "IDENTITY"
  return none

/-- What a column definition says beside name and type, if there is more. -/
def columnOption? (rules : Rules) : Parse (Option ColumnOption) := do
  if ← keywords? ["CHARACTER", "SET"] then
    let _ ← objectName
    return some .other
  else if ← keywords? ["NOT", "NULL"] then return some .notNull
  else if ← keyword? "COMMENT" then
    match (← next).token with
    | .text .single text => return some (.comment text)
    | _ => refuse
  else if ← keyword? "NULL" then return some .null
  else if ← keyword? "DEFAULT" then
    let _ ← rules.whole
    return some .other
  else if ← keywords? ["PRIMARY", "KEY"] then
    constraintTimes
    return some .primaryKey
  else if ← keyword? "UNIQUE" then
    constraintTimes
    return some .other
  else if ← keyword? "REFERENCES" then
    reference true
    return some .other
  else if ← keyword? "CHECK" then
    let _ ← parenthesized rules.whole
    return some .other
  else rareOption? rules

/-- An option that may have a name in front; in MySQL a collation may stand between the options. -/
def namedOption? (rules : Rules) : Parse (Option ColumnOption) := do
  if ← keyword? "CONSTRAINT" then
    let _ ← ident
    match ← columnOption? rules with
    | some option => return some option
    | none => refuse
  else
    match ← columnOption? rules with
    | some option => return some option
    | none =>
      if ← inGrammar [.mySQL, .general] <&&> keyword? "COLLATE" then
        let _ ← objectName
        return some .other
      else return none

/-- A column: its name, its type and its options. -/
def columnSyntax (rules : Rules) : Parse ColumnSyntax := do
  let name ← ident
  let type ← rules.typeName
  if ← keyword? "COLLATE" then let _ ← objectName
  return { name, type, options := ← repeated (namedOption? rules) }

/-- `USING BTREE` or `USING HASH`. -/
def indexMethod? : Parse Bool := do
  if ← keyword? "USING" then
    let _ ← oneOf ["BTREE", "HASH"]
    return true
  else return false

/-- The columns of a key, perhaps with a name and a method in front and options behind. -/
def keyColumns : Parse (List Ident) := do
  let _ ← attempt ident
  let _ ← indexMethod?
  let columns ← columnList false false
  let _ ← repeated do
    if ← indexMethod? then return some ()
    else after? "COMMENT" (discard text)
  constraintTimes
  return columns

/-- `NULLS [NOT] DISTINCT`. -/
def nullsDistinct : Parse Unit := do
  if ← keyword? "NULLS" then
    let _ ← keyword? "NOT"
    keyword "DISTINCT"

/-- A constraint on a table, if there is one; the columns of a primary key, and nothing for other constraints. -/
def tableConstraint? (rules : Rules) : Parse (Option (List Ident)) := do
  let named ← keyword? "CONSTRAINT"
  if named then let _ ← ident
  let hasIndexes ← inGrammar [.mySQL, .general]
  let key ← peekKey
  if key == "UNIQUE" then
    skip
    if ["KEY", "INDEX"].contains (← peekKey) then
      if hasIndexes then skip else refuse
    nullsDistinct
    let _ ← keyColumns
    return some []
  else if key == "PRIMARY" then
    skip
    keyword "KEY"
    return some (← keyColumns)
  else if key == "FOREIGN" then
    skip
    keyword "KEY"
    let _ ← columnList false false
    keyword "REFERENCES"
    reference false
    return some []
  else if key == "CHECK" then
    skip
    let _ ← parenthesized rules.whole
    return some []
  else if hasIndexes && !named && (key == "INDEX" || key == "KEY") then
    skip
    if !(← peekKeyword "USING") then let _ ← attempt ident
    let _ ← indexMethod?
    let _ ← columnList false false
    return some []
  else if hasIndexes && (key == "FULLTEXT" || key == "SPATIAL") then
    if named then refuse
    skip
    let _ ← oneOf? ["KEY", "INDEX"]
    let _ ← attempt ident
    let _ ← columnList false false
    return some []
  else if named then refuse
  else return none

/-- An entry between the parentheses of a table's definition. -/
inductive TableEntry where
  | column (column : ColumnSyntax)
  | key (columns : List Ident)

def tableEntry (rules : Rules) : Parse TableEntry := do
  match ← tableConstraint? rules with
  | some columns => return .key columns
  | none =>
    match ← peek? with
    | some (.word _) => return .column (← columnSyntax rules)
    | _ => refuse

/-- The columns and the primary keys between a table's parentheses. Both may be left out. -/
def tableEntries (rules : Rules) : Parse (List ColumnSyntax × List (List Ident)) := do
  if !(← symbol? "(") then return ([], [])
  if ← symbol? ")" then return ([], [])
  let entries ← commaSeparated (tableEntry rules)
  symbol ")"
  return (entries.filterMap fun | .column column => some column | .key _ => none,
    entries.filterMap fun | .key columns => some columns | .column _ => none)

end AnnotatedSql.Sql.Parse
