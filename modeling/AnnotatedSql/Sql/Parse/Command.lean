import AnnotatedSql.Sql.Parse.Definition

/-!
Statements that neither read or change rows nor define a table: sessions, transactions, privileges, cursors and the
definitions of other objects. Of them only the leading keywords are kept.
-/
namespace AnnotatedSql.Sql.Parse

/-- `READ ONLY`, `ISOLATION LEVEL …` and their like. Commas between them are optional. -/
def transactionMode? : Parse (Option Unit) := do
  if ← keywords? ["ISOLATION", "LEVEL"] then
    let levels := [["READ", "UNCOMMITTED"], ["READ", "COMMITTED"], ["REPEATABLE", "READ"], ["SERIALIZABLE"]]
    if ← levels.anyM keywords? then return some () else refuse
  else if ← keywords? ["READ", "ONLY"] <||> keywords? ["READ", "WRITE"] then return some ()
  else return none

def transactionModes : Parse Unit := do
  let _ ← repeated do
    match ← transactionMode? with
    | none => return none
    | some _ =>
      if ← symbol? "," then
        if !(← peekKeyword "ISOLATION" <||> peekKeyword "READ") then refuse
      return some ()

/-- `[WORK] [AND [NO] CHAIN]` after `COMMIT`, `END` or `ROLLBACK`. -/
def transactionEnd : Parse Unit := do
  let _ ← oneOf? ["TRANSACTION", "WORK"]
  if ← keyword? "AND" then
    let _ ← keyword? "NO"
    keyword "CHAIN"

def rollback : Parse Unit := do
  transactionEnd
  if ← keyword? "TO" then
    let _ ← keyword? "SAVEPOINT"
    let _ ← ident

/-- `SET` after its keyword. -/
def setVariable (rules : Rules) : Parse Unit := do
  let scope ← oneOf? ["SESSION", "LOCAL", "HIVEVAR"]
  if scope == some "HIVEVAR" then symbol ":"
  else if (← attempt do keyword "ROLE"; ident).isSome then return
  let name ← do
    if ← keywords? ["TIME", "ZONE"] then pure "TIMEZONE" else ObjectName.display <$> objectName
  if (← inGrammar [.mySQL]) && Text.sameLetters name "NAMES" then
    if ← keyword? "DEFAULT" then return
    let _ ← text
    if ← keyword? "COLLATE" then let _ ← text
  else if ← symbol? "=" <||> keyword? "TO" then
    let _ ← commaSeparated do
      if ← peekSubquery then discard rules.query else discard rules.whole
  else if Text.sameLetters name "TIMEZONE" then
    let _ ← rules.whole
  else if name == "CHARACTERISTICS" then
    keywords ["AS", "TRANSACTION"]
    transactionModes
  else if name == "TRANSACTION" && scope.isNone then
    if ← keyword? "SNAPSHOT" then let _ ← value
    else transactionModes
  else refuse

/-- The filter of a `SHOW` statement. -/
def showFilter (rules : Rules) : Parse Unit := do
  if (← oneOf? ["LIKE", "ILIKE"]).isSome then let _ ← text
  else if ← keyword? "WHERE" then let _ ← rules.whole
  else let _ ← attempt text

/-- Where a `SHOW` statement looks. The name of an object whose kind is given may be left out. -/
def showPlace : Parse Unit := do
  if (← oneOf? ["FROM", "IN"]).isSome then
    match ← oneOf? ["ACCOUNT", "DATABASE", "SCHEMA", "TABLE", "VIEW"] with
    | some kind =>
      let next := ((← get).take 2).map keyOf
      let ends := next == ["STARTS", "WITH"] || next.head? == some "LIMIT"
      if !(["DATABASE", "SCHEMA"].contains kind && ends) then let _ ← attempt objectName
    | none =>
      let _ ← objectName
      if (← oneOf? ["FROM", "IN"]).isSome then let _ ← ident

/-- Where a `SHOW` statement looks, its filter, and how much it shows. -/
def showTail (rules : Rules) : Parse Unit := do
  showPlace
  showFilter rules
  if ← keywords? ["STARTS", "WITH"] then let _ ← value
  if ← keyword? "LIMIT" then
    if !(← keyword? "ALL") then let _ ← rules.whole
  if ← keyword? "FROM" then let _ ← value

/-- Skips tokens up to an equals sign or to the end. -/
def skipToEquals : Parse Unit :=
  modify fun lexemes => lexemes.dropWhile fun lexeme => lexeme.token != .symbol "="

/-- `SHOW` after its keyword. -/
def showStatement (rules : Rules) : Parse Unit := do
  let _ ← keyword? "TERSE"
  let extended ← keyword? "EXTENDED"
  let full ← keyword? "FULL"
  let _ ← keyword? "SESSION"
  let _ ← keyword? "GLOBAL"
  let _ ← keyword? "EXTERNAL"
  if (← oneOf? ["COLUMNS", "FIELDS", "TABLES", "VIEWS"]).isSome then showTail rules
  else if ← keywords? ["MATERIALIZED", "VIEWS"] then showTail rules
  else if ← keyword? "FUNCTIONS" then showFilter rules
  else if extended || full then refuse
  else if ← keyword? "CREATE" then
    let _ ← oneOf ["TABLE", "TRIGGER", "FUNCTION", "PROCEDURE", "EVENT", "VIEW"]
    let _ ← objectName
  else if ← keyword? "COLLATION" then showFilter rules
  else if ← oneOf? ["VARIABLES", "STATUS"] <&> Option.isSome <&&> inGrammar [.mySQL, .general] then showFilter rules
  else if (← oneOf? ["DATABASES", "SCHEMAS"]).isSome then showTail rules
  else skipToEquals

/-- What a role may do; each has an opposite that starts with `NO`. -/
def roleFlags : List String :=
  ["BYPASSRLS", "CREATEDB", "CREATEROLE", "INHERIT", "LOGIN", "REPLICATION", "SUPERUSER"]

/-- An option of a role, in PostgreSQL; the keyword that it sets. -/
def roleOption? : Parse (Option String) := do
  let key ← peekKey
  match roleFlags.find? fun flag => key == flag || key == "NO" ++ flag with
  | some flag =>
    skip
    return some flag
  | none =>
    if ← keyword? "CONNECTION" then
      keyword "LIMIT"
      let _ ← numberValue
      return some key
    else if ← keyword? "VALID" then
      keyword "UNTIL"
      let _ ← value
      return some key
    else if ← keyword? "PASSWORD" then
      let _ ← value
      return some key
    else return none

/-- Roles that a new role is connected with; the keyword that says how. -/
def roleMembers? : Parse (Option String) := do
  if let some key ← oneOf? ["ROLE", "ADMIN", "USER"] then
    let _ ← commaSeparated ident
    return some key
  else if ← keyword? "IN" then
    let key ← oneOf ["ROLE", "GROUP"]
    let _ ← commaSeparated ident
    return some ("IN " ++ key)
  else return none

/-- `CREATE ROLE` after its keywords. PostgreSQL has options, each of them once. -/
def createRole : Parse Unit := do
  ifNotExists
  let _ ← commaSeparated objectName
  let _ ← keyword? "WITH"
  if ← inGrammar [.postgreSQL] then
    let options ← repeated do
      match ← roleOption? with
      | some key => return some key
      | none => roleMembers?
    if !options.Nodup then refuse

/-- `ALTER ROLE` after its keywords; only in PostgreSQL. -/
def alterRole (rules : Rules) : Parse Unit := do
  if !(← inGrammar [.postgreSQL]) then refuse
  let _ ← ident
  if ← keywords? ["IN", "DATABASE"] then looseName
  if ← keyword? "RENAME" then
    keyword "TO"
    let _ ← ident
  else if ← keyword? "SET" then
    let _ ← objectName
    if !(← keywords? ["FROM", "CURRENT"]) then
      if !(← symbol? "=" <||> keyword? "TO") then refuse
      if !(← keyword? "DEFAULT") then let _ ← rules.whole
  else if ← keyword? "RESET" then
    if !(← keyword? "ALL") then let _ ← objectName
  else
    let _ ← keyword? "WITH"
    if (← repeated roleOption?).isEmpty then refuse

/-- Who a policy is for and which rows it lets through. -/
def policyTail (rules : Rules) : Parse Unit := do
  if ← keyword? "TO" then let _ ← commaSeparated ident
  if ← keyword? "USING" then let _ ← parenthesized rules.whole
  if ← keywords? ["WITH", "CHECK"] then let _ ← parenthesized rules.whole

/-- `CREATE POLICY` after its keywords. -/
def createPolicy (rules : Rules) : Parse Unit := do
  let _ ← ident
  keyword "ON"
  let _ ← objectName
  if ← keyword? "AS" then let _ ← oneOf ["PERMISSIVE", "RESTRICTIVE"]
  if ← keyword? "FOR" then let _ ← oneOf ["ALL", "SELECT", "INSERT", "UPDATE", "DELETE"]
  policyTail rules

/-- `ALTER POLICY` after its keywords. -/
def alterPolicy (rules : Rules) : Parse Unit := do
  let _ ← ident
  keyword "ON"
  let _ ← objectName
  if ← keyword? "RENAME" then
    keyword "TO"
    let _ ← ident
  else policyTail rules

/-- `CREATE INDEX` after its keywords. -/
def createIndex (rules : Rules) : Parse Unit := do
  let _ ← keyword? "CONCURRENTLY"
  let guarded ← keywords? ["IF", "NOT", "EXISTS"]
  if guarded || !(← keyword? "ON") then
    let _ ← objectName
    keyword "ON"
  let _ ← objectName
  if ← keyword? "USING" then let _ ← ident
  let _ ← parenthesized (commaSeparated (orderItem rules))
  if ← keyword? "INCLUDE" then let _ ← columnList false false
  nullsDistinct
  if ← inGrammar [.postgreSQL, .general] <&&> keyword? "WITH" then let _ ← parenthesized rules.list
  if ← keyword? "WHERE" then let _ ← rules.whole

/-- `CREATE VIEW` after its keywords. -/
def createView (rules : Rules) : Parse Unit := do
  let _ ← objectName
  if ← peekSymbol "(" then let _ ← parenthesized (commaSeparatedUntil ")" ident)
  let _ ← optionList rules ["WITH"]
  if ← keyword? "CLUSTER" then
    keyword "BY"
    let _ ← columnList true false
  keyword "AS"
  let _ ← rules.query

/-- `ALTER VIEW` after its keywords. -/
def alterView (rules : Rules) : Parse Unit := do
  let _ ← objectName
  let _ ← columnList true false
  let _ ← optionList rules ["WITH"]
  keyword "AS"
  let _ ← rules.query

/-- `CREATE SEQUENCE` after its keywords. -/
def createSequence (rules : Rules) : Parse Unit := do
  ifNotExists
  let _ ← objectName
  if ← keyword? "AS" then let _ ← rules.typeName
  sequenceOptions
  if ← keywords? ["OWNED", "BY"] then let _ ← objectName

/-- `CREATE SCHEMA` after its keywords. -/
def createSchema : Parse Unit := do
  ifNotExists
  if ← keyword? "AUTHORIZATION" then let _ ← ident
  else
    let _ ← objectName
    if ← keyword? "AUTHORIZATION" then let _ ← ident

/-- `CREATE DATABASE` after its keywords. -/
def createDatabase : Parse Unit := do
  ifNotExists
  let _ ← objectName
  let _ ← repeated do
    if (← oneOf? ["LOCATION", "MANAGEDLOCATION"]).isSome then return some (← text) else return none

/-- `CREATE EXTENSION` after its keywords. -/
def createExtension : Parse Unit := do
  ifNotExists
  let _ ← ident
  if ← keyword? "WITH" then
    if ← keyword? "SCHEMA" then let _ ← ident
    if ← keyword? "VERSION" then let _ ← ident
    let _ ← keyword? "CASCADE"

/-- A function named with its arguments, which may be left out. -/
def functionSignature (rules : Rules) : Parse Unit := do
  let _ ← objectName
  if ← peekSymbol "(" then let _ ← parenthesized (commaSeparatedUntil ")" (functionArg rules))

/-- `CREATE TRIGGER` after its keywords; not in MySQL. -/
def createTrigger (rules : Rules) : Parse Unit := do
  if ← inGrammar [.mySQL] then refuse
  let _ ← objectName
  if !(← (oneOf? ["BEFORE", "AFTER"] <&> Option.isSome) <||> keywords? ["INSTEAD", "OF"]) then refuse
  let event : Parse Unit := do
    let key ← oneOf ["INSERT", "UPDATE", "DELETE", "TRUNCATE"]
    if ← pure (key == "UPDATE") <&&> keyword? "OF" then let _ ← commaSeparated ident
  event
  let _ ← repeated (after? "OR" event)
  keyword "ON"
  let _ ← objectName
  if ← keyword? "FROM" then looseName
  constraintTimes
  if ← keyword? "REFERENCING" then
    let _ ← repeated do
      if (← oneOf? ["OLD", "NEW"]).isSome then
        if !(← keyword? "TABLE") then return none
        let _ ← keyword? "AS"
        return some (← objectName)
      else return none
  keyword "FOR"
  let _ ← keyword? "EACH"
  let _ ← oneOf ["ROW", "STATEMENT"]
  if ← keyword? "WHEN" then let _ ← rules.whole
  keyword "EXECUTE"
  let _ ← oneOf ["FUNCTION", "PROCEDURE"]
  functionSignature rules

/-- What is granted or revoked, and on what. -/
def privileges : Parse Unit := do
  if ← keyword? "ALL" then let _ ← keyword? "PRIVILEGES"
  else
    let _ ← commaSeparated do
      let key ← oneOf ["CONNECT", "CREATE", "DELETE", "EXECUTE", "INSERT", "REFERENCES", "SELECT", "TEMPORARY",
        "TRIGGER", "TRUNCATE", "UPDATE", "USAGE"]
      if ["INSERT", "REFERENCES", "SELECT", "UPDATE"].contains key then let _ ← columnList true false
  keyword "ON"
  if !(← keywords? ["ALL", "TABLES", "IN", "SCHEMA"] <||> keywords? ["ALL", "SEQUENCES", "IN", "SCHEMA"]) then
    let _ ← oneOf? ["SEQUENCE", "SCHEMA", "TABLE"]
  let _ ← commaSeparated objectName

/-- Who grants or revokes. -/
def grantedBy : Parse Unit := do
  if ← keywords? ["GRANTED", "BY"] then let _ ← firmly ident

def grant : Parse Unit := do
  privileges
  keyword "TO"
  let _ ← commaSeparated ident
  let _ ← keywords? ["WITH", "GRANT", "OPTION"]
  grantedBy

def revoke : Parse Unit := do
  privileges
  keyword "FROM"
  let _ ← commaSeparated ident
  grantedBy
  let _ ← oneOf? ["CASCADE", "RESTRICT"]

/-- One of the cases of a `MERGE`. Rows can be inserted only if nothing matches, and changed only if something does. -/
def mergeClause? (rules : Rules) : Parse (Option Unit) := do
  if (← peek?).isNone || (← peekSymbol ";") then return none
  keyword "WHEN"
  let lacking ← keyword? "NOT"
  keyword "MATCHED"
  let bySource ← pure lacking <&&> keywords? ["BY", "SOURCE"]
  if lacking && !bySource then let _ ← keywords? ["BY", "TARGET"]
  if ← keyword? "AND" then let _ ← rules.whole
  keyword "THEN"
  let action ← oneOf ["UPDATE", "INSERT", "DELETE"]
  if (action == "INSERT") != (lacking && !bySource) then refuse
  if action == "UPDATE" then
    keyword "SET"
    let _ ← assignments rules
  if action == "INSERT" then
    let isMySQL ← inGrammar [.mySQL]
    let _ ← columnList true isMySQL
    keyword "VALUES"
    let _ ← valueRows rules isMySQL
  return some ()

/-- `MERGE` after its keyword. -/
def merge (rules : Rules) : Parse Unit := do
  let _ ← keyword? "INTO"
  let _ ← rules.relation
  keyword "USING"
  let _ ← rules.relation
  keyword "ON"
  let _ ← rules.whole
  let _ ← repeated (mergeClause? rules)

/-- Whether a statement explains or describes another. -/
def explains : Statement → Bool
  | .other keywords => ["EXPLAIN", "DESCRIBE", "DESC"].contains keywords
  | _ => false

/-- `EXPLAIN`, `DESCRIBE` or `DESC` of a statement or of a table. -/
def explain (rules : Rules) (key : String) : Parse Unit := do
  if ← inGrammar [.postgreSQL, .general] <&&> pure (key == "EXPLAIN") <&&> peekSymbol "(" then
    parenthesized do
      let _ ← commaSeparated do
        let _ ← ident
        if !(← peekSymbol ",") && !(← peekSymbol ")") then let _ ← rules.whole
  else if !(← keywords? ["QUERY", "PLAN"]) then
    let _ ← keyword? "ANALYZE"
    let _ ← keyword? "VERBOSE"
    if ← keyword? "FORMAT" then let _ ← oneOf ["TEXT", "GRAPHVIZ", "JSON"]
  match ← attempt rules.statement with
  | some statement => if explains statement then refuse
  | none =>
    let _ ← oneOf? ["EXTENDED", "FORMATTED"]
    let _ ← objectName

/-- `DECLARE` of a cursor, after its keyword. -/
def declareCursor (rules : Rules) : Parse Unit := do
  let _ ← ident
  let _ ← keyword? "BINARY"
  let _ ← oneOf? ["INSENSITIVE", "ASENSITIVE"]
  if !(← keywords? ["NO", "SCROLL"]) then let _ ← keyword? "SCROLL"
  keyword "CURSOR"
  if (← oneOf? ["WITH", "WITHOUT"]).isSome then keyword "HOLD"
  keyword "FOR"
  let _ ← rules.query

/-- `FETCH` of rows from a cursor, after its keyword. -/
def fetchRows : Parse Unit := do
  if (← oneOf? ["NEXT", "PRIOR", "FIRST", "LAST", "ALL"]).isNone then
    if (← oneOf? ["FORWARD", "BACKWARD"]).isSome then
      if !(← keyword? "ALL") then let _ ← numberValue
    else
      let _ ← oneOf? ["ABSOLUTE", "RELATIVE"]
      let _ ← numberValue
  let _ ← oneOf ["FROM", "IN"]
  let _ ← ident
  if ← keyword? "INTO" then let _ ← objectName

/-- `EXECUTE` of a prepared statement, after its keyword. -/
def execute (rules : Rules) : Parse Unit := do
  let _ ← objectName
  if ← symbol? "(" then
    let _ ← commaSeparatedUntil ")" rules.whole
    symbol ")"
  else if !(← peekSymbol ";") && !(← peekKeyword "USING") && (← peek?).isSome then
    let _ ← rules.list
  if ← keyword? "USING" then let _ ← rules.list

/-- `PREPARE` of a statement, after its keyword. -/
def prepare (rules : Rules) : Parse Unit := do
  let _ ← ident
  if ← peekSymbol "(" then let _ ← parenthesized (commaSeparated rules.typeName)
  keyword "AS"
  let _ ← rules.statement

/-- The rows that follow `COPY … FROM STDIN`, up to a backslash with a dot. Any other token after a backslash belongs
    to it. -/
def copiedRows : List Lexeme → List Lexeme
  | [] => []
  | [_] => []
  | first :: second :: rest =>
    if first.token == .symbol "\\" then
      if second.token == .symbol "." then rest else copiedRows rest
    else copiedRows (second :: rest)

/-- A text of one byte. -/
def byteText : Parse Unit := do
  if (← text).utf8ByteSize != 1 then refuse

/-- An option of `COPY`. -/
def copyOption : Parse Unit := do
  let key ← oneOf ["FORMAT", "FREEZE", "DELIMITER", "NULL", "HEADER", "QUOTE", "ESCAPE", "FORCE_QUOTE",
    "FORCE_NOT_NULL", "FORCE_NULL", "ENCODING"]
  match key with
  | "FORMAT" => discard ident
  | "FREEZE" | "HEADER" => discard (oneOf? ["TRUE", "FALSE"])
  | "FORCE_QUOTE" | "FORCE_NOT_NULL" | "FORCE_NULL" => discard (columnList false false)
  | "DELIMITER" | "QUOTE" | "ESCAPE" => byteText
  | _ => discard text

/-- An option of `COPY` about texts with commas, in the old spelling. -/
def oldCsvOption : Parse Unit := do
  match ← oneOf ["HEADER", "QUOTE", "ESCAPE", "FORCE"] with
  | "HEADER" => pure ()
  | "FORCE" =>
    if !(← keywords? ["NOT", "NULL"]) then keyword "QUOTE"
    discard (commaSeparated ident)
  | _ =>
    let _ ← keyword? "AS"
    byteText

/-- An option of `COPY`, in the old spelling. -/
def oldCopyOption : Parse Unit := do
  match ← oneOf ["BINARY", "DELIMITER", "NULL", "CSV"] with
  | "BINARY" => pure ()
  | "CSV" => discard (repeated (attempt oldCsvOption))
  | key =>
    let _ ← keyword? "AS"
    if key == "NULL" then discard text else byteText

/-- `COPY` after its keyword. -/
def copyRows (rules : Rules) : Parse Unit := do
  let fromQuery ← peekSymbol "("
  if fromQuery then let _ ← parenthesized rules.query
  else
    let _ ← objectName
    let _ ← columnList true false
  let direction ← oneOf ["FROM", "TO"]
  if fromQuery && direction == "FROM" then refuse
  let fromInput ← keyword? "STDIN"
  if !fromInput && !(← keyword? "STDOUT") then
    let _ ← keyword? "PROGRAM"
    let _ ← text
  let _ ← keyword? "WITH"
  if ← peekSymbol "(" then let _ ← parenthesized (commaSeparated copyOption)
  let _ ← repeated (attempt oldCopyOption)
  if fromInput then
    symbol ";"
    modify copiedRows

/-- `CALL` of a procedure, after its keyword. -/
def callProcedure (rules : Rules) : Parse Unit := do
  let name ← objectName
  if ← peekSymbol "(" then let _ ← call rules name

/-- A table that is locked, in MySQL. -/
def tableLock : Parse Unit := do
  let _ ← ident
  let _ ← aliasName? ["READ", "WRITE", "LOW_PRIORITY"]
  if ← keyword? "READ" then let _ ← keyword? "LOCAL"
  else
    let _ ← keyword? "LOW_PRIORITY"
    keyword "WRITE"

/-- `FLUSH` after its keyword; not in PostgreSQL. -/
def flush : Parse Unit := do
  if ← inGrammar [.postgreSQL] then refuse
  let _ ← oneOf? ["NO_WRITE_TO_BINLOG", "LOCAL"]
  let logs := ["BINARY", "ENGINE", "ERROR", "GENERAL", "SLOW"].map ([·, "LOGS"])
  let plain := ["HOSTS", "PRIVILEGES", "OPTIMIZER_COSTS", "STATUS", "USER_RESOURCES", "LOGS"].map ([·])
  if !(← (logs ++ plain).anyM keywords?) then
    if ← keywords? ["RELAY", "LOGS"] then
      if ← keywords? ["FOR", "CHANNEL"] then let _ ← firmly objectName
    else
      keyword "TABLES"
      let _ ← repeated do
        match ← peek? with
        | some (.word word) =>
          if word.isPlainName then let _ ← commaSeparated objectName
          else skip
          return some ()
        | _ =>
          skip
          return none

/-- Statements, with semicolons between them. After a statement the word `END` ends the text. -/
def statements (rules : Rules) : Nat → Parse (List Statement)
  | 0 => return []
  | bound + 1 => do
    modify fun lexemes => lexemes.dropWhile fun lexeme => lexeme.token == .symbol ";"
    if (← peek?).isNone then return []
    let first ← rules.statement
    if (← peek?).isNone || (← peekKeyword "END") then return [first]
    if !(← peekSymbol ";") then refuse
    return first :: (← statements rules bound)

/-- `CREATE PROCEDURE` after its keywords. Parameters may be missing between commas. -/
def createProcedure (rules : Rules) : Parse Unit := do
  let _ ← objectName
  if ← symbol? "(" then
    let _ ← repeated do
      if let some (.word _) ← peek? then
        let _ ← ident
        let _ ← rules.typeName
      if ← symbol? "," then return some () else return none
    symbol ")"
  keywords ["AS", "BEGIN"]
  let _ ← statements rules ((← get).length + 1)
  keyword "END"

/-- `CREATE VIRTUAL TABLE` after its first keyword. -/
def createVirtualTable : Parse Unit := do
  keyword "TABLE"
  ifNotExists
  let _ ← objectName
  keyword "USING"
  let _ ← ident
  discard (columnList true false)

/-- `CREATE SECRET` after its keywords. -/
def createSecret : Parse Unit := do
  ifNotExists
  if !(← peekSymbol "(") then
    if !(← peekKeyword "IN") then let _ ← ident
    if ← keyword? "IN" then let _ ← ident
  parenthesized do
    keyword "TYPE"
    let _ ← ident
    if ← symbol? "," then
      let _ ← commaSeparated do
        let _ ← ident
        ident

/-- `CACHE` of a table after its keyword, with the query that fills it. -/
def cacheTable (rules : Rules) : Parse Unit := do
  if !(← keyword? "TABLE") then
    let _ ← objectName
    keyword "TABLE"
  let _ ← objectName
  if (← peek?).isNone then return
  let _ ← optionList rules ["OPTIONS"]
  match ← peek? with
  | none => return
  | some (.word _) =>
    let _ ← keyword? "AS"
    discard rules.query
  | _ => refuse

/-- `ANALYZE` of a table after its keyword. -/
def analyze (rules : Rules) : Parse Unit := do
  keyword "TABLE"
  let _ ← objectName
  discard <| repeated do
    match ← oneOf? ["PARTITION", "FOR", "CACHE", "NOSCAN", "COMPUTE"] with
    | none => return none
    | some "PARTITION" => discard (parenthesized rules.list)
    | some "FOR" =>
      keyword "COLUMNS"
      let _ ← attempt (commaSeparated ident)
    | some "CACHE" => keyword "METADATA"
    | some "COMPUTE" => keyword "STATISTICS"
    | some _ => pure ()
    return some ()

/-- `PRAGMA` after its keyword. -/
def pragma : Parse Unit := do
  let _ ← objectName
  let setting : Parse Unit := do
    match ← value with
    | .text .single _ | .text .double _ | .number _ | .placeholder _ => return
    | _ => refuse
  if ← peekSymbol "(" then parenthesized setting
  else if ← symbol? "=" then setting

/-- `MSCK` after its keyword. -/
def repairTable : Parse Unit := do
  let _ ← keyword? "REPAIR"
  keyword "TABLE"
  let _ ← objectName
  discard <| attempt do
    let _ ← oneOf? ["ADD", "DROP", "SYNC"]
    keyword "PARTITIONS"

/-- `DROP` after its keyword: the next keyword, and the tables if it is one for them. -/
def drop (rules : Rules) : Parse Statement := do
  let temporary ← inGrammar [.mySQL, .general] <&&> keyword? "TEMPORARY"
  let kind := fun (key : String) => if temporary then "DROP TEMPORARY" else "DROP " ++ key
  match ← oneOf? ["TABLE", "VIEW", "INDEX", "ROLE", "SCHEMA", "DATABASE", "SEQUENCE", "STAGE", "TYPE"] with
  | some key =>
    let names ← droppedNames (key == "ROLE")
    return if key == "TABLE" then .definition (kind key) (.dropTables names) else .other (kind key)
  | none =>
    let key ← oneOf ["FUNCTION", "PROCEDURE", "POLICY", "SECRET", "TRIGGER"]
    if ← pure (key == "TRIGGER") <&&> inGrammar [.mySQL] then refuse
    ifExists
    if key == "SECRET" then
      let _ ← ident
      if ← keyword? "IN" then let _ ← ident
      return .other (kind key)
    if key == "FUNCTION" || key == "PROCEDURE" then let _ ← commaSeparated (functionSignature rules)
    else
      if key == "POLICY" then let _ ← ident
      else let _ ← objectName
      keyword "ON"
      let _ ← objectName
    let _ ← oneOf? ["CASCADE", "RESTRICT"]
    return .other ("DROP " ++ key)

/-- `ALTER` after its keyword. -/
def alter (rules : Rules) : Parse Statement := do
  let key ← oneOf ["VIEW", "TABLE", "INDEX", "ROLE", "POLICY"]
  if key == "TABLE" then return .definition "ALTER TABLE" (← alterTable rules)
  match key with
  | "VIEW" => alterView rules
  | "ROLE" => alterRole rules
  | "POLICY" => alterPolicy rules
  | _ =>
    let _ ← objectName
    keywords ["RENAME", "TO"]
    discard objectName
  return .other ("ALTER " ++ key)

/-- What stands between `CREATE` and the kind of object. -/
structure Modifiers where
  orReplace : Bool
  orAlter : Bool
  isLocal : Bool
  isGlobal : Bool
  transient : Bool
  temporary : Bool

/-- The leading keywords of a definition: the first of some marks that is there, or the kind of object. -/
def creation (marks : List (Bool × String)) (kind : String) : String :=
  "CREATE " ++ ((marks.find? (·.1)).map (·.2)).getD kind

def createModifiers : Parse Modifiers := do
  let orReplace ← keywords? ["OR", "REPLACE"]
  let orAlter ← keywords? ["OR", "ALTER"]
  let isLocal ← keyword? "LOCAL"
  let isGlobal ← keyword? "GLOBAL"
  let transient ← keyword? "TRANSIENT"
  let temporary ← (oneOf? ["TEMP", "TEMPORARY"]) <&> Option.isSome
  return { orReplace, orAlter, isLocal, isGlobal, transient, temporary }

/-- Definitions of objects that `OR REPLACE` cannot stand before. -/
def createPlain (rules : Rules) (given : Modifiers) : Parse Statement := do
  if ← keywords? ["UNIQUE", "INDEX"] then
    createIndex rules
    return .other "CREATE UNIQUE"
  let key ← oneOf ["EXTENSION", "INDEX", "VIRTUAL", "SCHEMA", "DATABASE", "ROLE", "SEQUENCE", "TYPE", "PROCEDURE"]
  match key with
  | "EXTENSION" => createExtension
  | "INDEX" => createIndex rules
  | "SCHEMA" => createSchema
  | "DATABASE" => createDatabase
  | "ROLE" => createRole
  | "SEQUENCE" => createSequence rules
  | "VIRTUAL" => createVirtualTable
  | "PROCEDURE" => createProcedure rules
  | _ => createType rules
  return .other (creation
    [(key == "SEQUENCE" && given.temporary, "TEMPORARY"), (key == "PROCEDURE" && given.orAlter, "OR")] key)

/-- `CREATE` after its keyword. -/
def create (rules : Rules) : Parse Statement := do
  let given ← createModifiers
  let replace := (given.orReplace, "OR")
  let temporary := (given.temporary, "TEMPORARY")
  if ← keyword? "TABLE" then
    let marks := [replace, (given.isGlobal, "GLOBAL"), (given.isLocal, "LOCAL"), temporary,
      (given.transient, "TRANSIENT")]
    return .definition (creation marks "TABLE") (← createTable rules)
  else if ← keywords? ["MATERIALIZED", "VIEW"] then
    createView rules
    return .other (creation [replace] "MATERIALIZED")
  else if ← keyword? "VIEW" then
    createView rules
    return .other (creation [replace, temporary] "VIEW")
  else if ← keyword? "POLICY" then
    createPolicy rules
    return .other "CREATE POLICY"
  else if ← keyword? "EXTERNAL" then
    return .definition (creation [replace] "EXTERNAL") (← createExternalTable rules)
  else if ← keyword? "FUNCTION" then
    return .definition (creation [replace, temporary] "FUNCTION") (← createFunction rules)
  else if ← keyword? "TRIGGER" then
    createTrigger rules
    return .other (creation [replace] "TRIGGER")
  else if ← keywords? ["CONSTRAINT", "TRIGGER"] then
    createTrigger rules
    return .other (creation [replace] "CONSTRAINT")
  else if ← keyword? "SECRET" then
    createSecret
    return .other (creation [replace, temporary] "SECRET")
  else if given.orReplace then refuse
  else createPlain rules given

/-- The first word of a query. -/
def queryWord (query : Query) : String :=
  match query with
  | ⟨_, [], body, _, _, _, _⟩ => bodyWord body
  | _ => "WITH"
where
  /-- The first word of a query body. -/
  bodyWord : Body → String
    | .select _ => "SELECT"
    | .query query => "(" ++ queryWord query
    | .setOperation left _ => bodyWord left
    | .values _ => "VALUES"
    | .insert _ => "INSERT"
    | .update _ => "UPDATE"
    | .table => "TABLE"

/-- `UNLOAD` after its keyword. -/
def unload (rules : Rules) : Parse Statement := do
  let query ← parenthesized rules.query
  keyword "TO"
  let _ ← ident
  let _ ← optionList rules ["WITH"]
  return .other ("UNLOAD(" ++ queryWord query)

/-- Statements that do not touch tables or their rows, by their first keyword. -/
def command (rules : Rules) (key : String) : Parse Unit :=
  match key with
  | "KILL" => do
    let _ ← oneOf? ["CONNECTION", "QUERY"]
    discard wholeNumber
  | "FLUSH" => flush
  | "DESC" | "DESCRIBE" | "EXPLAIN" => explain rules key
  | "ANALYZE" => analyze rules
  | "ATTACH" => do
    let _ ← keyword? "DATABASE"
    let _ ← rules.whole
    keyword "AS"
    discard ident
  | "CACHE" => cacheTable rules
  | "UNCACHE" => do
    keyword "TABLE"
    ifExists
    discard objectName
  | "MSCK" => repairTable
  | "PRAGMA" => pragma
  | "LOAD" => do
    if ← inGrammar [.mySQL] then refuse
    discard ident
  | "DISCARD" => discard (oneOf ["ALL", "PLANS", "SEQUENCES", "TEMP", "TEMPORARY"])
  | "DECLARE" => declareCursor rules
  | "FETCH" => fetchRows
  | "CALL" => callProcedure rules
  | "COPY" => copyRows rules
  | "CLOSE" => discard ident
  | "SET" => setVariable rules
  | "SHOW" => showStatement rules
  | "USE" => discard objectName
  | "GRANT" => grant
  | "REVOKE" => revoke
  | "START" => do
    keyword "TRANSACTION"
    transactionModes
  | "BEGIN" => do
    let _ ← oneOf? ["TRANSACTION", "WORK"]
    transactionModes
  | "END" | "COMMIT" => transactionEnd
  | "ROLLBACK" => rollback
  | "SAVEPOINT" => discard ident
  | "RELEASE" => do
    let _ ← keyword? "SAVEPOINT"
    discard ident
  | "ASSERT" => do
    let _ ← rules.whole
    if ← keyword? "AS" then let _ ← rules.whole
  | "DEALLOCATE" => do
    let _ ← keyword? "PREPARE"
    discard ident
  | "EXECUTE" | "EXEC" => execute rules
  | "PREPARE" => prepare rules
  | "MERGE" => merge rules
  | "LISTEN" => do
    if ← inGrammar [.mySQL] then refuse
    discard ident
  | "UNLISTEN" => do
    if ← inGrammar [.mySQL] then refuse
    if !(← symbol? "*") then let _ ← ident
  | "NOTIFY" => do
    if ← inGrammar [.mySQL] then refuse
    let _ ← ident
    if ← symbol? "," then let _ ← text
  | "LOCK" => do
    if !(← inGrammar [.mySQL]) then refuse
    keyword "TABLES"
    discard (commaSeparated tableLock)
  | "UNLOCK" => do
    if !(← inGrammar [.mySQL]) then refuse
    keyword "TABLES"
  | _ => refuse

/-- The keyword that a command is known by. -/
def commandName : String → String
  | "END" => "COMMIT"
  | "EXEC" => "EXECUTE"
  | key => key

end AnnotatedSql.Sql.Parse
