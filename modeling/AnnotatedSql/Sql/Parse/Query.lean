import AnnotatedSql.Sql.Parse.Expr

/-!
Queries: common table expressions, select lists, `FROM` clauses with their joins, set operations and row limits.
-/
namespace AnnotatedSql.Sql.Parse

/-- Columns left out of a wildcard, which only the general grammar has. -/
def exceptions : Parse Unit := do
  if ← inGrammar [.general] <&&> keyword? "EXCEPT" then
    if ← peekSymbol "(" then let _ ← columnList false false
    else let _ ← ident

/-- An item of a select list. The bare word `FROM` is none. -/
def selectItem (rules : Rules) : Parse Item := do
  match ← starred rules with
  | .all extent =>
    exceptions
    return .wildcard extent
  | .of name extent =>
    exceptions
    return .qualified name extent
  | .expr value =>
    if let .ident name := value then
      if name.quote.isNone && Text.toLower name.value == "from" then refuse
    match ← aliasName? reservedForColumn with
    | some asName => return .aliased value asName
    | none => return .expr value

def selectItems (rules : Rules) : Parse (List Item) :=
  commaSeparated (selectItem rules)

/-- Items of a `RETURNING` clause, if there is one. -/
def returningItems (rules : Rules) : Parse (List Item) :=
  listAfter ["RETURNING"] (selectItems rules)

/-- The condition after `ON`, or the columns after `USING`. -/
def joinConstraint (rules : Rules) : Parse (Option Expr × List Ident) := do
  if ← keyword? "ON" then return (some (← rules.whole), [])
  else if ← keyword? "USING" then return (none, ← columnList false false)
  else return (none, [])

/-- The kind of a join that has a constraint, up to and with `JOIN`. -/
def joinKind? : Parse (Option JoinKind) := do
  match ← peekKey with
  | "INNER" | "JOIN" =>
    let _ ← keyword? "INNER"
    keyword "JOIN"
    return some .inner
  | "LEFT" =>
    skip
    sided .left
  | "RIGHT" =>
    skip
    sided .right
  | "SEMI" | "ANTI" =>
    skip
    keyword "JOIN"
    return some .plain
  | "FULL" =>
    skip
    let _ ← keyword? "OUTER"
    keyword "JOIN"
    return some .full
  | "OUTER" => refuse
  | _ => return none
where
  /-- The rest of a left or right join; semi and anti joins add no rows. -/
  sided (kind : JoinKind) : Parse (Option JoinKind) := do
    match ← oneOf ["OUTER", "SEMI", "ANTI", "JOIN"] with
    | "JOIN" => return some kind
    | "OUTER" =>
      keyword "JOIN"
      return some kind
    | _ =>
      keyword "JOIN"
      return some .inner

/-- A join without a constraint that shows. -/
def plainJoin (relation : Relation) (hidden : List Expr) : Join :=
  { relation, kind := .plain, on := none, shared := [], hidden }

/-- The next join of a `FROM` item. -/
def join? (rules : Rules) : Parse (Option Join) := do
  let _ ← keyword? "GLOBAL"
  if ← keyword? "CROSS" then
    let _ ← oneOf ["JOIN", "APPLY"]
    return some (plainJoin (← rules.relation) [])
  else if ← keyword? "OUTER" then
    keyword "APPLY"
    return some (plainJoin (← rules.relation) [])
  else if ← keyword? "ASOF" then
    keyword "JOIN"
    let relation ← rules.relation
    keyword "MATCH_CONDITION"
    let condition ← parenthesized rules.whole
    let (on, _) ← joinConstraint rules
    return some (plainJoin relation (condition :: on.toList))
  else
    let natural ← keyword? "NATURAL"
    match ← joinKind? with
    | none => if natural then refuse else return none
    | some kind =>
      let relation ← rules.relation
      let (on, shared) ← if natural then pure (none, []) else joinConstraint rules
      if kind == .plain then return some (plainJoin relation on.toList)
      else return some { relation, kind, on, shared, hidden := [] }

/-- A relation with the joins after it. -/
def fromItem (rules : Rules) : Parse FromItem := do
  let relation ← rules.relation
  return { relation, joins := ← repeated (join? rules) }

def fromItems (rules : Rules) : Parse (List FromItem) :=
  commaSeparated (fromItem rules)

/-- A query in parentheses, after the opening one, with its alias. -/
def derivedTable (rules : Rules) (lateral : Bool) : Parse Relation := do
  let query ← rules.query
  symbol ")"
  return .derived lateral query (← rules.tableAlias?)

/-- The expressions of an argument. -/
def argExprs : Arg → List Expr
  | .positional value => value.toList
  | .named value => value.toList
  | .labelled label value => label :: value.toList

/-- Arguments of a table function after the opening parenthesis. -/
def tableArgs (rules : Rules) : Parse (List Expr) := do
  if ← symbol? ")" then return []
  let args ← commaSeparated (arg rules)
  symbol ")"
  return args.flatMap argExprs

/-- What happens on an empty or a bad value of a column of `JSON_TABLE`. -/
def jsonFallback? : Parse (Option Unit) := do
  match ← oneOf? ["NULL", "ERROR", "DEFAULT"] with
  | none => return none
  | some key =>
    if key == "DEFAULT" then let _ ← value
    keyword "ON"
    let _ ← oneOf ["EMPTY", "ERROR"]
    return some ()

/-- The definition of a column of `JSON_TABLE`, which may hold columns in turn. -/
def jsonColumn (rules : Rules) (bound : Nat) : Parse Unit :=
  match bound with
  | 0 => refuse
  | bound + 1 => do
    if ← keyword? "NESTED" then
      let _ ← keyword? "PATH"
      let _ ← value
      keyword "COLUMNS"
      let _ ← parenthesized (commaSeparated (jsonColumn rules bound))
    else
      let _ ← ident
      if ← keyword? "FOR" then keyword "ORDINALITY"
      else
        let _ ← rules.typeName
        let _ ← keyword? "EXISTS"
        keyword "PATH"
        let _ ← value
        let _ ← repeated jsonFallback?

/-- `JSON_TABLE` after its opening parenthesis. -/
def jsonTable (rules : Rules) : Parse Relation := do
  let document ← rules.whole
  symbol ","
  let _ ← value
  keyword "COLUMNS"
  let _ ← parenthesized (commaSeparated (jsonColumn rules ((← get).length + 1)))
  symbol ")"
  let _ ← rules.tableAlias?
  return .hidden [document]

/-- `OPENJSON` after its opening parenthesis. -/
def openJson (rules : Rules) : Parse Relation := do
  let document ← rules.whole
  if ← symbol? "," then let _ ← value
  symbol ")"
  if ← keyword? "WITH" then
    let _ ← parenthesized <| commaSeparated do
      let _ ← ident
      let _ ← rules.typeName
      if let some (.text .single _) ← peek? then skip
      if ← keyword? "AS" then keyword "JSON"
  let _ ← rules.tableAlias?
  return .hidden [document]

/-- An expression with a name after it, perhaps. -/
def namedExpr (reader : Parse Expr) : Parse Expr := do
  let value ← reader
  let _ ← after? "AS" ident
  return value

/-- The values that become columns: those of a query, of a list, or any. -/
def pivotValues (rules : Rules) : Parse (List Expr) := do
  if ← keyword? "ANY" then orderBy rules
  else if ← peekSubquery then return [.subquery (← rules.query)]
  else commaSeparated (namedExpr rules.whole)

/-- `PIVOT` after its keyword; its operands. -/
def pivot (rules : Rules) : Parse (List Expr) := do
  symbol "("
  let aggregates ← commaSeparated <| namedExpr do
    match (← next).token with
    | .word word => call rules [{ value := word.value }]
    | _ => refuse
  keyword "FOR"
  let _ ← objectName
  keyword "IN"
  let values ← parenthesized (pivotValues rules)
  let default ← listAfter ["DEFAULT", "ON", "NULL"] do return [← parenthesized rules.whole]
  symbol ")"
  return aggregates ++ values ++ default

/-- `UNPIVOT` after its keyword. -/
def unpivot : Parse Unit :=
  parenthesized do
    let _ ← ident
    keyword "FOR"
    let _ ← ident
    keyword "IN"
    let _ ← columnList false false

/-- A relation with the pivots after it, at most `bound` of them. -/
def pivots (rules : Rules) (bound : Nat) (inner : Relation) : Parse Relation :=
  match bound with
  | 0 => return inner
  | bound + 1 => do
    match ← oneOf? ["PIVOT", "UNPIVOT"] with
    | none => return inner
    | some key =>
      let operands ← do
        if key == "PIVOT" then pivot rules
        else
          unpivot
          pure []
      let _ ← rules.tableAlias?
      pivots rules bound (.pivoted inner operands)

/-- A relation with another alias, if it has none yet. -/
def realias? (asName : Alias) : Relation → Option Relation
  | .table name none hints => some (.table name (some asName) hints)
  | .function name operands none => some (.function name operands (some asName))
  | .derived lateral query none => some (.derived lateral query (some asName))
  | .joined inner none => some (.joined inner (some asName))
  | .hidden operands => some (.hidden operands)
  | .pivoted inner operands => some (.pivoted inner operands)
  | _ => none

/-- A relation in parentheses, after the opening one: a query, or a join. The general grammar also takes a lone
    table. -/
def parenRelation (rules : Rules) : Parse Relation := do
  match ← attempt (derivedTable rules false) with
  | some relation => pivots rules ((← get).length + 1) relation
  | none =>
    let inner ← fromItem rules
    let joined := match inner.relation with
      | .joined _ _ => true
      | _ => !inner.joins.isEmpty
    if joined then
      symbol ")"
      return .joined inner (← rules.tableAlias?)
    else if ← inGrammar [.general] then
      symbol ")"
      match ← rules.tableAlias? with
      | none => return inner.relation
      | some asName =>
        match realias? asName inner.relation with
        | some relation => return relation
        | none => refuse
    else refuse

/-- Rows of `VALUES`. MySQL takes an empty row. -/
def valueRows (rules : Rules) (allowEmpty : Bool) : Parse (List (List Expr)) :=
  commaSeparated do
    let _ ← keyword? "ROW"
    symbol "("
    if ← pure allowEmpty <&&> symbol? ")" then return []
    let row ← rules.list
    symbol ")"
    return row

/-- A query that is only a body. -/
def bodyQuery (body : Body) : Query :=
  { recursive := false, ctes := [], body, orderBy := [], limit := none, offset := none, fetch := none }

/-- A table by its name, or a call of a table function. -/
def namedRelation (rules : Rules) : Parse Relation := do
  let name ← objectName
  if ← inGrammar [.mySQL, .general] then
    if ← keyword? "PARTITION" then let _ ← parenthesized (commaSeparated ident)
  let args ← do if ← symbol? "(" then some <$> tableArgs rules else pure none
  let _ ← keywords? ["WITH", "ORDINALITY"]
  let asName ← rules.tableAlias?
  let before ← get
  let hints ← do
    if ← keyword? "WITH" then
      if ← symbol? "(" then
        let hints ← rules.list
        symbol ")"
        pure hints
      else
        set before
        pure []
    else pure []
  pivots rules ((← get).length + 1) <| match args with
    | none => .table name asName hints
    | some operands => .function (some name) (operands ++ hints) asName

/-- What a `FROM` item ranges over. -/
def relation (rules : Rules) : Parse Relation := do
  if ← keyword? "LATERAL" then
    if ← symbol? "(" then derivedTable rules true
    else
      let _ ← objectName
      symbol "("
      let operands ← tableArgs rules
      return .function none operands (← rules.tableAlias?)
  else if ← keyword? "TABLE" then
    let operand ← parenthesized rules.whole
    return .function none [operand] (← rules.tableAlias?)
  else if ← symbol? "(" then parenRelation rules
  else
    let key ← peekKey
    let called := (← peekAt? 1) == some (.symbol "(")
    if (← inGrammar [.general]) && key == "VALUES" && called then
      skip
      let rows ← valueRows rules false
      return .derived false (bodyQuery (.values rows)) (← rules.tableAlias?)
    else if (← inGrammar [.postgreSQL, .general]) && key == "UNNEST" then
      skip
      let operands ← parenthesized rules.list
      let _ ← keywords? ["WITH", "ORDINALITY"]
      let asName ← rules.tableAlias?
      if ← keyword? "WITH" then
        if ← keyword? "OFFSET" then let _ ← aliasName? reservedForColumn
      return .function none operands asName
    else if key == "JSON_TABLE" && called then
      skip
      skip
      jsonTable rules
    else if key == "OPENJSON" && called then
      skip
      skip
      openJson rules
    else namedRelation rules

/-- Rows to take first, from `TOP` on. -/
def topClause (rules : Rules) : Parse (List Expr) := do
  if !(← keyword? "TOP") then return []
  let quantity ← do
    if ← symbol? "(" then
      let quantity ← rules.whole
      symbol ")"
      pure [quantity]
    else
      let _ ← wholeNumber
      pure []
  let _ ← keyword? "PERCENT"
  let _ ← keywords? ["WITH", "TIES"]
  return quantity

/-- `ALL`, `DISTINCT` or `DISTINCT ON (…)`. -/
def distinctClause (rules : Rules) : Parse (List Expr) := do
  let all ← keyword? "ALL"
  if !(← keyword? "DISTINCT") then return []
  if all then refuse
  if ← keyword? "ON" then parenthesized (commaSeparatedUntil ")" rules.whole)
  else return []

/-- The table that a query writes to. -/
def intoClause : Parse Unit := do
  if ← keyword? "INTO" then
    let _ ← oneOf? ["TEMP", "TEMPORARY"]
    let _ ← keyword? "UNLOGGED"
    let _ ← keyword? "TABLE"
    let _ ← objectName

/-- The next lateral view. -/
def lateralView? (rules : Rules) : Parse (Option Expr) := do
  if ← keywords? ["LATERAL", "VIEW"] then
    let _ ← keyword? "OUTER"
    let view ← rules.whole
    let _ ← objectName
    let _ ← commaSeparated (aliasName? ["WHERE", "GROUP", "CLUSTER", "HAVING", "LATERAL"])
    return some view
  else return none

/-- Expressions in parentheses, or a lone one where that is allowed. -/
def groupingSet (rules : Rules) (lone : Bool) : Parse (List Expr) := do
  if ← symbol? "(" then
    let items ← commaSeparatedUntil ")" rules.whole
    symbol ")"
    return items
  else if lone then return [← rules.whole]
  else refuse

/-- An expression to group by. -/
def groupItem (rules : Rules) : Parse Expr := do
  if ← inGrammar [.mySQL] then rules.whole
  else if ← keywords? ["GROUPING", "SETS"] then
    return .form (← parenthesized (commaSeparated (groupingSet rules false))).flatten
  else if (← oneOf? ["CUBE", "ROLLUP"]).isSome then
    return .form (← parenthesized (commaSeparated (groupingSet rules true))).flatten
  else if ← symbols? ["(", ")"] then return .tuple []
  else rules.whole

/-- Expressions to group by. -/
def groupBy (rules : Rules) : Parse (List Expr) := do
  if !(← keywords? ["GROUP", "BY"]) then return []
  let items ← do if ← keyword? "ALL" then pure [] else commaSeparated (groupItem rules)
  if ← inGrammar [.general] then
    let _ ← repeated (after? "WITH" (oneOf ["ROLLUP", "CUBE", "TOTALS"]))
  return items

/-- A named window; its operands. -/
def namedWindow (rules : Rules) : Parse (List Expr) := do
  let _ ← ident
  keyword "AS"
  if ← symbol? "(" then windowSpec rules
  else if ← inGrammar [.general] then
    let _ ← ident
    return []
  else refuse

def namedWindows (rules : Rules) : Parse (List Expr) := do
  return (← commaSeparated (namedWindow rules)).flatten

/-- `WINDOW` and `QUALIFY` in either order. -/
def windowClauses (rules : Rules) : Parse (List Expr × Option Expr) := do
  if ← keyword? "WINDOW" then
    let windows ← namedWindows rules
    return (windows, ← after? "QUALIFY" rules.whole)
  else if ← keyword? "QUALIFY" then
    let qualify ← rules.whole
    return (← listAfter ["WINDOW"] (namedWindows rules), some qualify)
  else return ([], none)

/-- A `SELECT`. -/
def select (rules : Rules) : Parse Select := do
  keyword "SELECT"
  let distinct ← distinctClause rules
  let top ← topClause rules
  let items ← selectItems rules
  intoClause
  let tables ← listAfter ["FROM"] (fromItems rules)
  let views ← repeated (lateralView? rules)
  let selection ← after? "WHERE" rules.whole
  let groupBy ← groupBy rules
  let cluster ← listAfter ["CLUSTER", "BY"] rules.list
  let distribute ← listAfter ["DISTRIBUTE", "BY"] rules.list
  let sort ← listAfter ["SORT", "BY"] rules.list
  let having ← after? "HAVING" rules.whole
  let (windows, qualify) ← windowClauses rules
  return {
    head := distinct ++ top
    items, tables, views, selection, groupBy
    sorting := cluster ++ distribute ++ sort
    having, windows, qualify }

/-- `schema.table` or a table after `TABLE`; three tokens are taken in any case. -/
def tableBody : Parse Body := do
  let first ← peek?
  let dotted := (← peekAt? 1) == some (.symbol ".")
  let third ← peekAt? 2
  skip
  skip
  skip
  let isWord : Option Token → Bool
    | some (.word _) => true
    | _ => false
  if isWord first && (!dotted || isWord third) then return .table else refuse

/-- A query body without set operators. -/
def bodyOperand (rules : Rules) : Parse Body := do
  if ← peekKeyword "SELECT" then return .select (← select rules)
  else if ← symbol? "(" then
    let query ← rules.query
    symbol ")"
    return .query query
  else if ← keyword? "VALUES" then return .values (← valueRows rules (← inGrammar [.mySQL]))
  else if ← keyword? "TABLE" then tableBody
  else refuse

/-- How strong a set operator binds. -/
def setStrength : String → Nat
  | "UNION" | "EXCEPT" => 10
  | "INTERSECT" => 20
  | _ => 0

/-- Goes on from a left side for as long as set operators bind stronger than `least`. -/
def setOperations (rules : Rules) (least : Nat) (bound : Nat) (left : Body) : Parse Body :=
  match bound with
  | 0 => return left
  | bound + 1 => do
    let strength := setStrength (← peekKey)
    if strength ≤ least then return left
    else
      skip
      if !(← keywords? ["DISTINCT", "BY", "NAME"]) then
        if !(← keywords? ["BY", "NAME"]) then
          if ← keyword? "ALL" then let _ ← keywords? ["BY", "NAME"]
          else let _ ← keyword? "DISTINCT"
      let right ← rules.body strength
      setOperations rules least bound (.setOperation left right)

/-- A query body whose set operators bind stronger than `least`. -/
def body (rules : Rules) (least : Nat) : Parse Body := do
  let left ← bodyOperand rules
  setOperations rules least ((← get).length + 1) left

/-- A common table expression. -/
def cte (rules : Rules) : Parse Cte := do
  let name ← ident
  let columns ← do
    if ← keyword? "AS" then pure []
    else
      let columns ← rules.aliasColumns
      keyword "AS"
      pure columns
  if ← inGrammar [.postgreSQL] then
    if !(← keyword? "MATERIALIZED") then let _ ← keywords? ["NOT", "MATERIALIZED"]
  let query ← parenthesized rules.query
  if ← keyword? "FROM" then let _ ← ident
  return { asName := { name, columns }, query }

/-- `LIMIT` and `OFFSET` in either order, twice at most. `LIMIT a, b` gives the offset first. -/
def limits (rules : Rules) (rounds : Nat) (limit offset : Option Expr) : Parse (Option Expr × Option Expr) :=
  match rounds with
  | 0 => return (limit, offset)
  | rounds + 1 => do
    let limit ← do
      if ← pure limit.isNone <&&> keyword? "LIMIT" then
        if ← keyword? "ALL" then pure none else some <$> rules.whole
      else pure limit
    let offset ← do
      if ← pure offset.isNone <&&> keyword? "OFFSET" then
        let offset ← rules.whole
        let _ ← oneOf? ["ROW", "ROWS"]
        pure (some offset)
      else pure offset
    if ← inGrammar [.mySQL, .general] <&&> pure (limit.isSome && offset.isNone) <&&> symbol? "," then
      let count ← rules.whole
      limits rules rounds (some count) limit
    else limits rules rounds limit offset

/-- `FETCH FIRST n ROWS ONLY`; the number of rows, if it is given. -/
def fetchClause : Parse (Option Expr) := do
  if !(← keyword? "FETCH") then return none
  let _ ← oneOf ["FIRST", "NEXT"]
  let quantity ← do
    if (← oneOf? ["ROW", "ROWS"]).isSome then pure none
    else
      let quantity ← value
      let _ ← keyword? "PERCENT"
      let _ ← oneOf ["ROW", "ROWS"]
      pure (some (Expr.literal quantity))
  if !(← keyword? "ONLY") then keywords ["WITH", "TIES"]
  return quantity

/-- A name in parentheses, if there is one. -/
def elementName : Parse Unit := do
  if ← peekSymbol "(" then let _ ← parenthesized text

/-- How rows are written as `XML`, after the keyword. -/
def xmlForm : Parse Unit := do
  match ← oneOf ["RAW", "AUTO", "EXPLICIT", "PATH"] with
  | "RAW" | "PATH" => elementName
  | _ => pure ()
  let _ ← repeated do
    if ← symbol? "," then
      match ← oneOf? ["ELEMENTS", "BINARY", "ROOT", "TYPE"] with
      | some "BINARY" => keyword "BASE64"
      | some "ROOT" => discard (parenthesized text)
      | _ => pure ()
      return some ()
    else return none

/-- How rows are written as `JSON`, after the keyword. -/
def jsonForm : Parse Unit := do
  let _ ← oneOf ["AUTO", "PATH"]
  let _ ← repeated do
    if ← symbol? "," then
      match ← oneOf? ["ROOT", "INCLUDE_NULL_VALUES", "WITHOUT_ARRAY_WRAPPER"] with
      | some "ROOT" => discard (parenthesized text)
      | _ => pure ()
      return some ()
    else return none

/-- The next row lock. The form in which rows are written may stand in its place; nothing follows it then. -/
def lock? : Parse (Option Unit) := do
  if ← keyword? "FOR" then
    match ← oneOf ["UPDATE", "SHARE", "XML", "JSON", "BROWSE"] with
    | "XML" => xmlForm
    | "JSON" => jsonForm
    | "BROWSE" => pure ()
    | _ =>
      if ← keyword? "OF" then let _ ← objectName
      if !(← keyword? "NOWAIT") then let _ ← keywords? ["SKIP", "LOCKED"]
      return some ()
    return none
  else return none

/-- A query, given the readers of an `INSERT` and of an `UPDATE` after their keywords. -/
def query (rules : Rules) (insert : Parse Insert) (update : Parse Update) : Parse Query := do
  let withClause ← keyword? "WITH"
  let recursive ← if withClause then keyword? "RECURSIVE" else pure false
  let ctes ← if withClause then commaSeparated (cte rules) else pure []
  if ← keyword? "INSERT" then return { bodyQuery (.insert (← insert)) with recursive, ctes }
  else if ← keyword? "UPDATE" then return { bodyQuery (.update (← update)) with recursive, ctes }
  else
    let body ← rules.body 0
    let orderBy ← orderBy rules
    let (limit, offset) ← limits rules 2 none none
    if ← inGrammar [.general] then
      if ← keyword? "BY" then let _ ← rules.list
    let fetch ← fetchClause
    let _ ← repeated lock?
    return { recursive, ctes, body, orderBy, limit, offset, fetch }

end AnnotatedSql.Sql.Parse
