import AnnotatedSql.Sql.Parse.Column
import AnnotatedSql.Sql.Parse.Change

/-!
Statements that change a catalog: definitions of tables, enum types and functions, changes of tables, comments and
`DROP TABLE`.
-/
namespace AnnotatedSql.Sql.Parse

def ifNotExists : Parse Unit :=
  discard (keywords? ["IF", "NOT", "EXISTS"])

def ifExists : Parse Unit :=
  discard (keywords? ["IF", "EXISTS"])

/-- Options with values in parentheses, after a keyword. -/
def optionList (rules : Rules) (keys : List String) : Parse Bool := do
  if ← keywords? keys then
    let _ ← parenthesized (commaSeparated do
      let _ ← ident
      symbol "="
      rules.whole)
    return true
  else return false

/-- A word after `=`. -/
def wordAfterEquals : Parse Unit := do
  symbol "="
  match (← next).token with
  | .word _ => return
  | _ => refuse

/-- What happens to a temporary table's rows at the end of a transaction, after `ON COMMIT`. -/
def atCommit : Parse Unit := do
  let known ← [["DELETE", "ROWS"], ["PRESERVE", "ROWS"], ["DROP"]].anyM keywords?
  if !known then refuse

/-- A mark that divides the fields or the lines of a row's text; `none` if there is no more. -/
def rowMark? : Parse (Option Unit) := do
  let mark (keys : List String) : Parse (Option Unit) := do
    if ← keywords? keys then
      let _ ← ident
      return some ()
    else return none
  match ← oneOf? ["FIELDS", "COLLECTION", "MAP", "LINES", "NULL"] with
  | some "FIELDS" =>
    let found ← mark ["TERMINATED", "BY"]
    if found.isSome then let _ ← mark ["ESCAPED", "BY"]
    return found
  | some "COLLECTION" => mark ["ITEMS", "TERMINATED", "BY"]
  | some "MAP" => mark ["KEYS", "TERMINATED", "BY"]
  | some "LINES" => mark ["TERMINATED", "BY"]
  | some "NULL" => mark ["DEFINED", "AS"]
  | _ => return none

/-- How and where the rows of a table are stored; `none` if nothing more is said. -/
def storageClause? (rules : Rules) : Parse (Option Unit) := do
  if ← keyword? "ROW" then
    keyword "FORMAT"
    if (← oneOf? ["SERDE", "DELIMITED"]) == some "SERDE" then let _ ← text
    else let _ ← repeated rowMark?
    return some ()
  else if ← keyword? "STORED" then
    keyword "AS"
    if ← keyword? "INPUTFORMAT" then
      let _ ← rules.whole
      keyword "OUTPUTFORMAT"
      let _ ← rules.whole
    else fileFormat
    return some ()
  else if ← keyword? "LOCATION" then
    let _ ← text
    return some ()
  else if ← optionList rules ["WITH", "SERDEPROPERTIES"] then return some ()
  else return none

/-- How the rows of a table are divided among files, and how these are stored. -/
def storage (rules : Rules) : Parse Unit := do
  if ← keywords? ["PARTITIONED", "BY"] then
    let _ ← parenthesized (commaSeparated (columnSyntax rules))
  let _ ← repeated (storageClause? rules)

/-- What may follow the columns of a table. The clauses come in one order. -/
def tableTail (rules : Rules) : Parse Unit := do
  let _ ← keywords? ["WITHOUT", "ROWID"]
  storage rules
  let _ ← optionList rules ["WITH"]
  let _ ← optionList rules ["TBLPROPERTIES"]
  if ← keyword? "ENGINE" then
    wordAfterEquals
    if ← peekSymbol "(" then let _ ← columnList false false
  if ← keyword? "AUTO_INCREMENT" then
    let _ ← symbol? "="
    if (← wholeNumber) ≥ 4294967296 then refuse
  if ← keywords? ["ORDER", "BY"] then
    if ← peekSymbol "(" then let _ ← parenthesized (commaSeparatedUntil ")" rules.whole)
    else let _ ← rules.whole
  if ← inGrammar [.postgreSQL, .general] <&&> keywords? ["PARTITION", "BY"] then let _ ← rules.whole
  if ← keywords? ["DEFAULT", "CHARSET"] then wordAfterEquals
  if ← keyword? "COLLATE" then wordAfterEquals
  if ← keywords? ["ON", "COMMIT"] then atCommit
  let _ ← keyword? "STRICT"
  if ← keyword? "COMMENT" then
    let _ ← symbol? "="
    match (← next).token with
    | .text .single _ => pure ()
    | _ => refuse
  if ← keyword? "AS" then let _ ← rules.query
  else if ← inGrammar [.mySQL] <&&> peekKeyword "SELECT" then let _ ← rules.query

/-- `CREATE TABLE` after its keywords. -/
def createTable (rules : Rules) : Parse Definition := do
  ifNotExists
  let name ← objectName
  onCluster
  if ← keyword? "LIKE" <||> keyword? "ILIKE" then looseName
  if ← keyword? "CLONE" then looseName
  let (columns, keys) ← tableEntries rules
  tableTail rules
  return .table name columns keys

/-- `CREATE EXTERNAL TABLE` after `EXTERNAL`. -/
def createExternalTable (rules : Rules) : Parse Definition := do
  keyword "TABLE"
  ifNotExists
  let name ← objectName
  let (columns, keys) ← tableEntries rules
  storage rules
  let _ ← optionList rules ["TBLPROPERTIES"]
  return .table name columns keys

/-- `CREATE TYPE … AS ENUM`, in PostgreSQL; none for any other statement. -/
def createEnum? : Parse (Option Definition) := do
  if !(← inGrammar [.postgreSQL]) then return none
  let head ← attempt do
    keywords ["CREATE", "TYPE"]
    let name ← objectName
    keywords ["AS", "ENUM"]
    return name
  match head with
  | none => return none
  | some name => return some (.enum name (← parenthesized (commaSeparatedUntil ")" ident)))

/-- An attribute of a composite type. -/
def typeAttribute (rules : Rules) : Parse Unit := do
  let _ ← ident
  let _ ← rules.typeName
  if ← keyword? "COLLATE" then let _ ← objectName

/-- `CREATE TYPE` of a composite type, after its keywords. A comma may follow the last attribute. -/
def createType (rules : Rules) : Parse Unit := do
  let _ ← objectName
  keyword "AS"
  if !(← symbol? "(") then return
  if ← symbol? ")" then return
  typeAttribute rules
  let _ ← repeated do
    if ← symbol? "," then
      if ← peekSymbol ")" then return none
      typeAttribute rules
      return some ()
    else return none
  symbol ")"

/-- An argument of a function. A type known by name only is taken for the argument's name. -/
def functionArg (rules : Rules) : Parse ArgSyntax := do
  let _ ← oneOf? ["IN", "OUT", "INOUT"]
  let first ← rules.typeName
  let (name, type) ← match first with
    | .custom path => do pure (path.head?, ← rules.typeName)
    | type => pure (none, type)
  let hasDefault ← keyword? "DEFAULT" <||> symbol? "="
  if hasDefault then let _ ← rules.whole
  return { name, type, hasDefault }

/-- A part of a function's definition that may come once. -/
inductive FunctionPart where
  | body
  | language
  | behavior
  | nullInput
  | parallelism
deriving DecidableEq

/-- Reads the next part of a function's definition. -/
def functionPart? (rules : Rules) : Parse (Option FunctionPart) := do
  if ← keyword? "AS" then
    match ← peek? with
    | some (.text .dollar _) => skip
    | _ => let _ ← text
    return some .body
  else if ← keyword? "LANGUAGE" then
    let _ ← ident
    return some .language
  else if (← oneOf? ["IMMUTABLE", "STABLE", "VOLATILE"]).isSome then return some .behavior
  else if ← keywords? ["CALLED", "ON", "NULL", "INPUT"] <||> keywords? ["RETURNS", "NULL", "ON", "NULL", "INPUT"]
      <||> keyword? "STRICT" then
    return some .nullInput
  else if ← keyword? "PARALLEL" then
    let _ ← oneOf ["UNSAFE", "RESTRICTED", "SAFE"]
    return some .parallelism
  else if ← keyword? "RETURN" then
    let _ ← rules.whole
    return some .body
  else return none

/-- `CREATE FUNCTION` after its keywords; not in MySQL. -/
def createFunction (rules : Rules) : Parse Definition := do
  if ← inGrammar [.mySQL] then refuse
  let name ← objectName
  let args ← parenthesized (commaSeparatedUntil ")" (functionArg rules))
  let result ← after? "RETURNS" rules.typeName
  let parts ← repeated (functionPart? rules)
  if parts.Nodup then return .function name args result else refuse

/-- A column's place after `ADD`, `CHANGE` or `MODIFY`, in MySQL. -/
def columnPlace : Parse Unit := do
  if ← inGrammar [.mySQL, .general] then
    if !(← keyword? "FIRST") then
      if ← keyword? "AFTER" then let _ ← ident

/-- What `ADD` adds. -/
def added (rules : Rules) : Parse Alteration := do
  match ← tableConstraint? rules with
  | some columns => return .addPrimaryKey columns
  | none =>
    ifNotExists
    let partitions ← repeated (after? "PARTITION" (parenthesized rules.list))
    if !partitions.isEmpty then return .other
    let _ ← keyword? "COLUMN"
    if !(← inGrammar [.mySQL]) then ifNotExists
    let column ← columnSyntax rules
    columnPlace
    return .addColumn column

/-- What `RENAME` renames. -/
def renamed : Parse Alteration := do
  if ← inGrammar [.postgreSQL] <&&> keyword? "CONSTRAINT" then
    let _ ← ident
    keyword "TO"
    let _ ← ident
    return .other
  else if ← keyword? "TO" then return .renameTable (← objectName)
  else
    let _ ← keyword? "COLUMN"
    let old ← ident
    keyword "TO"
    return .renameColumn old (← ident)

/-- What `DROP` drops. The words `PRIMARY KEY` and `PROJECTION` are taken by every database, and a column's name is
    still expected if they mean nothing to it. -/
def dropped (rules : Rules) : Parse Alteration := do
  if ← keywords? ["IF", "EXISTS", "PARTITION"] <||> keyword? "PARTITION" then
    let _ ← parenthesized rules.list
    return .other
  else if ← keyword? "CONSTRAINT" then
    ifExists
    let _ ← ident
    let _ ← keyword? "CASCADE"
    return .other
  else if ← keywords? ["PRIMARY", "KEY"] <&&> inGrammar [.mySQL, .general] then return .other
  else
    let _ ← keyword? "PROJECTION"
    if ← keywords? ["CLUSTERING", "KEY"] then return .other
    let _ ← keyword? "COLUMN"
    ifExists
    let name ← ident
    let _ ← keyword? "CASCADE"
    return .dropColumn name

/-- What `DISABLE` or `ENABLE` switches. -/
def switched (enables : Bool) : Parse Alteration := do
  if ← keywords? ["ROW", "LEVEL", "SECURITY"] then return .other
  if enables then let _ ← oneOf? ["ALWAYS", "REPLICA"]
  let _ ← oneOf ["RULE", "TRIGGER"]
  let _ ← ident
  return .other

/-- A column's new definition, after its name. -/
def redefinition (rules : Rules) : Parse Alteration := do
  let _ ← rules.typeName
  let _ ← repeated (columnOption? rules)
  columnPlace
  return .other

/-- What `ALTER COLUMN` changes. -/
def columnChange (rules : Rules) : Parse Alteration := do
  let _ ← keyword? "COLUMN"
  let _ ← ident
  let isPostgreSQL ← inGrammar [.postgreSQL]
  if ← keywords? ["SET", "NOT", "NULL"] <||> keywords? ["DROP", "NOT", "NULL"] then return .other
  else if ← keywords? ["SET", "DEFAULT"] then
    let _ ← rules.whole
    return .other
  else if ← keywords? ["DROP", "DEFAULT"] then return .other
  else if ← keywords? ["SET", "DATA", "TYPE"] <||> (pure isPostgreSQL <&&> keyword? "TYPE") then
    let _ ← rules.typeName
    if ← pure isPostgreSQL <&&> keyword? "USING" then let _ ← rules.whole
    return .other
  else
    keywords ["ADD", "GENERATED"]
    if !(← keyword? "ALWAYS") then let _ ← keywords? ["BY", "DEFAULT"]
    keywords ["AS", "IDENTITY"]
    if ← peekSymbol "(" then parenthesized sequenceOptions
    return .other

/-- The changes that stand behind those of names and switches. -/
def furtherAlteration (rules : Rules) : Parse Alteration := do
  if ← keyword? "DROP" then dropped rules
  else if ← keyword? "PARTITION" then
    let _ ← parenthesized rules.list
    keywords ["RENAME", "TO", "PARTITION"]
    let _ ← parenthesized rules.list
    return .other
  else if ← keyword? "CHANGE" then
    let _ ← keyword? "COLUMN"
    let _ ← ident
    let _ ← ident
    redefinition rules
  else if ← keyword? "MODIFY" then
    let _ ← keyword? "COLUMN"
    let _ ← ident
    redefinition rules
  else if ← keyword? "ALTER" then columnChange rules
  else if ← keyword? "SWAP" then
    keyword "WITH"
    let _ ← objectName
    return .other
  else if ← inGrammar [.postgreSQL, .general] <&&> keywords? ["OWNER", "TO"] then
    let _ ← ident
    return .other
  else if ← keywords? ["CLUSTER", "BY"] then
    let _ ← parenthesized rules.list
    return .other
  else if ← keywords? ["SUSPEND", "RECLUSTER"] <||> keywords? ["RESUME", "RECLUSTER"] then return .other
  else if ← optionList rules ["SET", "TBLPROPERTIES"] then return .other
  else refuse

/-- One of the changes after `ALTER TABLE name`. Words about projections are taken by every database. -/
def alteration (rules : Rules) : Parse Alteration := do
  if ← keyword? "ADD" then added rules
  else if ← keyword? "RENAME" then renamed
  else if ← keyword? "DISABLE" then switched false
  else if ← keyword? "ENABLE" then switched true
  else
    let _ ← keywords? ["CLEAR", "PROJECTION"]
    let _ ← keywords? ["MATERIALIZE", "PROJECTION"]
    furtherAlteration rules

/-- `ALTER TABLE` after its keywords. -/
def alterTable (rules : Rules) : Parse Definition := do
  ifExists
  let _ ← keyword? "ONLY"
  let name ← objectName
  onCluster
  let changes ← commaSeparated (alteration rules)
  if ← keyword? "LOCATION" <||> keywords? ["SET", "LOCATION"] then let _ ← ident
  return .alterTable name changes

/-- `COMMENT` after its keyword; the definition is missing if the object is neither a table nor a column. -/
def comment : Parse (Option Definition) := do
  ifExists
  keyword "ON"
  let object ← oneOf ["COLUMN", "TABLE", "EXTENSION", "SCHEMA", "DATABASE", "USER", "ROLE"]
  let name ← objectName
  keyword "IS"
  let note ← do if ← keyword? "NULL" then pure none else some <$> text
  match object with
  | "COLUMN" => return some (.commentColumn name note)
  | "TABLE" => return some (.commentTable name note)
  | _ => return none

/-- Names that are dropped, with what happens to objects that need them. -/
def droppedNames (isRole : Bool) : Parse (List ObjectName) := do
  ifExists
  let names ← commaSeparated objectName
  let cascade ← keyword? "CASCADE"
  let restrict ← keyword? "RESTRICT"
  let purge ← keyword? "PURGE"
  if cascade && restrict || isRole && (cascade || restrict || purge) then refuse
  return names

end AnnotatedSql.Sql.Parse
