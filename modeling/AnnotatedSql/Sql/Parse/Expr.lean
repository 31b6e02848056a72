import AnnotatedSql.Sql.Parse.Call
import AnnotatedSql.Sql.Parse.Strength

/-!
Expressions: operands with the forms that a keyword opens, and the operators between them.
-/
namespace AnnotatedSql.Sql.Parse

/-- Whether a subquery comes next. -/
def peekSubquery : Parse Bool := do
  return ["SELECT", "WITH"].contains (← peekKey)

/-- A text with its type in front, or an interval. A type known by name only does not count. -/
def typedText (rules : Rules) : Parse Expr := do
  match ← rules.typeName with
  | .interval => interval rules
  | .custom _ => refuse
  | type =>
    let _ ← text
    return .typed type.sqlType

/-- `CASE` after its keyword. -/
def caseForm (rules : Rules) : Parse Expr := do
  let operand ← do
    if ← keyword? "WHEN" then pure none
    else
      let operand ← rules.whole
      keyword "WHEN"
      pure (some operand)
  let branch : Parse (Expr × Expr) := do
    let condition ← rules.whole
    keyword "THEN"
    return (condition, ← rules.whole)
  let first ← branch
  let rest ← repeated (after? "WHEN" branch)
  let otherwise ← after? "ELSE" rules.whole
  keyword "END"
  let branches := first :: rest
  return .case operand (branches.map (·.1)) (branches.map (·.2)) otherwise

/-- `CAST (e AS type)` after its keyword. -/
def castForm (rules : Rules) : Parse Expr :=
  parenthesized do
    let operand ← rules.whole
    keyword "AS"
    let type ← rules.typeName
    if ← keyword? "FORMAT" then
      let _ ← value
      if ← keywords? ["AT", "TIME", "ZONE"] then let _ ← value
    return .cast operand type.sqlType

/-- `CONVERT (e USING charset)` or `CONVERT (e, type)` after its keyword. -/
def convertForm (rules : Rules) : Parse Expr :=
  parenthesized do
    let operand ← rules.whole
    if ← keyword? "USING" then
      let _ ← objectName
    else
      symbol ","
      let _ ← rules.typeName
      if ← keywords? ["CHARACTER", "SET"] then let _ ← objectName
    return .form [operand]

/-- `EXISTS (query)` after its keyword. -/
def existsForm (rules : Rules) : Parse Expr :=
  parenthesized do return .exists (← rules.query)

/-- `EXTRACT (field FROM e)` after its keyword. -/
def extractForm (rules : Rules) : Parse Expr :=
  parenthesized do
    let _ ← dateTimeField
    if !(← keyword? "FROM") then
      symbol ","
      if !(← inGrammar [.general]) then refuse
    return .form [← rules.whole]

/-- `CEIL` or `FLOOR`, of a number or to a part of a date, after its keyword. -/
def roundForm (rules : Rules) : Parse Expr :=
  parenthesized do
    let operand ← rules.whole
    if ← keyword? "TO" then let _ ← dateTimeField
    else if ← symbol? "," then
      match ← value with
      | .number _ => pure ()
      | _ => refuse
    return .form [operand]

/-- `POSITION (a IN b)`, or a call, after its keyword. -/
def positionForm (rules : Rules) (name : Ident) : Parse Expr := do
  let between := (← read).strength .between
  let position ← attempt do
    parenthesized do
      let needle ← rules.expr between
      keyword "IN"
      return Expr.form [needle, ← rules.whole]
  match position with
  | some expr => return expr
  | none => call rules [name]

/-- `SUBSTRING (e FROM a FOR b)` or `SUBSTRING (e, a, b)` after its keyword. -/
def substringForm (rules : Rules) : Parse Expr :=
  parenthesized do
    let operand ← rules.whole
    let start ← do
      if ← symbol? "," <||> keyword? "FROM" then pure [← rules.whole] else pure []
    let length ← do
      if ← keyword? "FOR" <||> symbol? "," then pure [← rules.whole] else pure []
    return .form (operand :: start ++ length)

/-- `OVERLAY (a PLACING b FROM c FOR d)` after its keyword. -/
def overlayForm (rules : Rules) : Parse Expr :=
  parenthesized do
    let operand ← rules.whole
    keyword "PLACING"
    let what ← rules.whole
    keyword "FROM"
    let start ← rules.whole
    let length ← after? "FOR" rules.whole
    return .form (operand :: what :: start :: length.toList)

/-- `TRIM (BOTH a FROM b)` after its keyword; the trimmed text comes first among the operands. -/
def trimForm (rules : Rules) : Parse Expr :=
  parenthesized do
    let _ ← oneOf? ["BOTH", "LEADING", "TRAILING"]
    let first ← rules.whole
    if ← keyword? "FROM" then return .form [← rules.whole, first]
    else if ← symbol? "," then
      if ← inGrammar [.general] then return .form (first :: (← rules.list)) else return .form [first]
    else return .form [first]

/-- `MATCH (columns) AGAINST (value …)` after its keyword. -/
def matchForm : Parse Expr := do
  let _ ← columnList false false
  keyword "AGAINST"
  parenthesized do
    let _ ← value
    if ← keywords? ["IN", "NATURAL", "LANGUAGE", "MODE"] then let _ ← keywords? ["WITH", "QUERY", "EXPANSION"]
    else if !(← keywords? ["IN", "BOOLEAN", "MODE"]) then let _ ← keywords? ["WITH", "QUERY", "EXPANSION"]
  return .form []

/-- `NOT` after its keyword. -/
def notForm (rules : Rules) : Parse Expr := do
  if ← keyword? "EXISTS" then existsForm rules
  else return .unary .not (← rules.expr ((← read).strength .not))

/-- Elements of an array after its opening bracket. -/
def arrayForm (rules : Rules) : Parse Expr := do
  let items ← commaSeparatedUntil "]" rules.whole
  symbol "]"
  return .form items

/-- `STRUCT<fields>(values)` after its keyword. Values have names only where the fields are not given. -/
def structForm (rules : Rules) : Parse Expr := do
  let (typed, surplus) ← structFields (nestedType ((← get).length + 1))
  if surplus then refuse
  let values ← parenthesized <| commaSeparated do
    let value ← rules.whole
    if ← keyword? "AS" then
      if typed then refuse
      let _ ← ident
    return value
  return .form values

/-- A call in braces after the opening one, marked as a function. -/
def bracedCall (rules : Rules) : Parse Expr := do
  keyword "FN"
  let call ← call rules (← objectName)
  symbol "\x7d"
  return call

/-- The expression that a keyword opens; `none` if the word opens none. -/
def keywordForm (rules : Rules) (word : Word) : Parse (Option Expr) := do
  let flexible ← inGrammar [.postgreSQL, .general]
  match word.key with
  | "TRUE" | "FALSE" => return some (.literal .boolean)
  | "NULL" => return some (.literal .null)
  | "CURRENT_CATALOG" | "CURRENT_USER" | "SESSION_USER" | "USER" =>
    return if flexible then some (bareCall [word.ident]) else none
  | "CURRENT_TIMESTAMP" | "CURRENT_TIME" | "CURRENT_DATE" | "LOCALTIME" | "LOCALTIMESTAMP" =>
    return some (← timeCall rules [word.ident])
  | "CASE" => return some (← caseForm rules)
  | "CONVERT" => return some (← convertForm rules)
  | "TRY_CONVERT" => if ← inGrammar [.general] then return some (← convertForm rules) else return none
  | "CAST" | "TRY_CAST" | "SAFE_CAST" => return some (← castForm rules)
  | "EXISTS" => return some (← existsForm rules)
  | "EXTRACT" => return some (← extractForm rules)
  | "CEIL" | "FLOOR" => return some (← roundForm rules)
  | "POSITION" => if ← peekSymbol "(" then return some (← positionForm rules word.ident) else return none
  | "SUBSTRING" => return some (← substringForm rules)
  | "OVERLAY" => return some (← overlayForm rules)
  | "TRIM" => return some (← trimForm rules)
  | "INTERVAL" => return some (← interval rules)
  | "ARRAY" =>
    if ← symbol? "[" then return some (← arrayForm rules)
    else if ← symbol? "(" then
      let query ← rules.query
      symbol ")"
      return some (.call
        { name := [word.ident], args := .query query, filter := none, window := [], withinGroup := [] })
    else return none
  | "NOT" => return some (← notForm rules)
  | "MATCH" => if ← inGrammar [.mySQL, .general] then return some (← matchForm) else return none
  | "STRUCT" => if ← inGrammar [.general] then return some (← structForm rules) else return none
  | _ => return none

/-- The rest of a path after its first part, and whether a wildcard ends it, as PostgreSQL allows. -/
def pathRest (bound : Nat) : Parse (List Ident × Bool) :=
  match bound with
  | 0 => return ([], false)
  | bound + 1 => do
    if ← symbol? "." then
      match (← next).token with
      | .symbol "*" => if ← inGrammar [.postgreSQL] then return ([], true) else refuse
      | token =>
        match pathPart? token with
        | none => refuse
        | some part =>
          let (rest, starred) ← pathRest bound
          return (part :: rest, starred)
    else return ([], false)

/-- A column, a path or a call that starts with a word. -/
def nameForm (rules : Rules) (word : Word) : Parse Expr := do
  match ← peek? with
  | some (.symbol "(") | some (.symbol ".") =>
    let (rest, starred) ← pathRest ((← get).length + 1)
    let name := word.ident :: rest
    if starred then return .form []
    else if ← peekSymbol "(" then call rules name
    else return .path name
  | some (.text kind _) =>
    if [.single, .double, .hex].contains kind && word.value.toList.head? == some '_' then
      skip
      return .form []
    else return .ident word.ident
  | _ => return .ident word.ident

/-- Expressions in parentheses, after the opening one. -/
def parenForm (rules : Rules) : Parse Expr := do
  let inner ← do
    if ← peekSubquery then pure (Expr.subquery (← rules.query))
    else match ← rules.list with
      | [single] => pure (.nested single)
      | items => pure (.tuple items)
  symbol ")"
  if ← symbol? "." then
    match (← next).token with
    | .word _ => return .form [inner]
    | _ => refuse
  else return inner

/-- A collation after an operand. -/
def collated (operand : Expr) : Parse Expr := do
  if ← keyword? "COLLATE" then
    let _ ← objectName
    return .form [operand]
  else return operand

/-- An operand that starts with a word. A keyword whose form fails is a name, unless it is reserved. -/
def wordForm (rules : Rules) (word : Word) : Parse Expr := fun grammar lexemes =>
  match keywordForm rules word grammar lexemes with
  | .ok (some expr, rest) => collated expr grammar rest
  | .ok (none, _) => (nameForm rules word >>= collated) grammar lexemes
  | .error .brokenOff => .error .brokenOff
  | .error refusal =>
    if reservedForName.contains word.key then .error refusal
    else match nameForm rules word grammar lexemes with
      | .ok result => .ok result
      | .error _ => .error refusal

/-- Signs in front of an operand that only PostgreSQL has. -/
def signs : List (String × UnaryOp) := [("!!", .other), ("|/", .other), ("||/", .other), ("@", .abs), ("~", .other)]

/-- An operand. -/
def operand (rules : Rules) : Parse Expr := do
  match ← attempt (typedText rules) with
  | some expr => return expr
  | none =>
    let grammar ← read
    let before ← get
    match (← next).token with
    | .word word => wordForm rules word
    | .symbol "[" => arrayForm rules >>= collated
    | .symbol "(" => parenForm rules >>= collated
    | .symbol "\x7b" => bracedCall rules >>= collated
    | .symbol spelling =>
      if spelling == "-" || spelling == "+" then
        collated (.unary .other (← rules.expr (grammar.strength .product)))
      else match if grammar == .postgreSQL then signs.lookup spelling else none with
        | some op => collated (.unary op (← rules.expr (grammar.strength .sum)))
        | none =>
          if spelling == ":" || spelling == "@" then
            set before
            collated (.literal (← value))
          else refuse
    | .text .escaped _ =>
      if grammar == .mySQL then refuse
      else
        set before
        collated (.literal (← value))
    | .number _ _ | .text _ _ | .placeholder _ =>
      set before
      collated (.literal (← value))
    | _ => refuse

/-- The operator that a symbol stands for, if the grammar has it. -/
def symbolOp? (grammar : Grammar) (spelling : String) : Option BinaryOp :=
  let outside (excluded : List Grammar) : Option BinaryOp := if excluded.contains grammar then none else some .other
  match spelling with
  | "==" | "=" | "<>" | ">" | ">=" | "<" | "<=" => some .comparison
  | "<=>" => some .nullSafe
  | "+" | "-" | "*" => some .arithmetic
  | "/" | "%" => some .division
  | "||" => some .concat
  | "//" => outside [.postgreSQL, .mySQL]
  | "<<" | ">>" | "&&" | "^@" => outside [.mySQL]
  | "#" => outside [.mySQL, .general]
  | "|" | "^" | "&" | "~" | "~*" | "!~" | "!~*" | "~~" | "~~*" | "!~~" | "!~~*" => some .other
  | "->" | "->>" | "#>" | "#>>" | "@>" | "<@" | "#-" | "@?" | "@@" | "?" | "?&" | "?|" => some .other
  | _ => none

/-- The right side of an operator. Only a comparison can be with `ANY` or `ALL` of something. -/
def rightSide (rules : Rules) (left : Expr) (op : BinaryOp) (quantifiable : Bool) (strength : Nat) : Parse Expr := do
  match ← oneOf? ["ANY", "ALL", "SOME"] with
  | none => return .binary left op (← rules.expr strength)
  | some _ =>
    let before ← get
    symbol "("
    let right ← do
      if ← peekSubquery then
        set before
        rules.expr strength
      else
        let right ← rules.expr strength
        symbol ")"
        pure right
    if quantifiable then return .quantified left right else refuse

/-- `IS …` after its keyword. -/
def isForm (rules : Rules) (left : Expr) : Parse Expr := do
  let _ ← keyword? "NOT"
  match ← oneOf? ["NULL", "TRUE", "FALSE", "UNKNOWN", "DISTINCT"] with
  | some "UNKNOWN" => return .form [left]
  | some "DISTINCT" =>
    keyword "FROM"
    return .distinct left (← rules.whole)
  | some _ => return .test left
  | none => refuse

/-- `IN (…)` after its keyword. -/
def inForm (rules : Rules) (left : Expr) : Parse Expr := do
  if ← keyword? "UNNEST" then
    let array ← parenthesized rules.whole
    return .form [left, array]
  else
    parenthesized do
      if ← peekSubquery then return .inQuery left (← rules.query)
      else return .inList left (← rules.list)

/-- `LIKE`, `ILIKE` or `SIMILAR TO` after its keywords. -/
def likeForm (rules : Rules) (left : Expr) : Parse Expr := do
  let pattern ← rules.expr ((← read).strength .like)
  if ← keyword? "ESCAPE" then let _ ← text
  return .like left pattern

/-- Tests that `NOT` may negate. -/
def testForm (rules : Rules) (left : Expr) : Parse Expr := do
  let grammar ← read
  let _ ← keyword? "NOT"
  let regexp ← keyword? "REGEXP"
  let rlike ← keyword? "RLIKE"
  if regexp || rlike then
    return .form [left, ← rules.expr (grammar.strength .like)]
  else if ← keyword? "IN" then inForm rules left
  else if ← keyword? "BETWEEN" then
    let low ← rules.expr (grammar.strength .between)
    keyword "AND"
    return .between left low (← rules.expr (grammar.strength .between))
  else if (← oneOf? ["LIKE", "ILIKE"]).isSome then
    let _ ← keyword? "ANY"
    likeForm rules left
  else if ← keywords? ["SIMILAR", "TO"] then likeForm rules left
  else refuse

/-- A subscript after its opening bracket: an index, or bounds with colons. -/
def subscript (rules : Rules) (left : Expr) : Parse Expr := do
  let lower ← do if ← symbol? ":" then pure none else some <$> rules.whole
  if ← symbol? "]" then return .form (left :: lower.toList)
  if lower.isSome then symbol ":"
  if ← symbol? "]" then return .form (left :: lower.toList)
  let upper ← rules.whole
  if ← symbol? "]" then return .form (left :: lower.toList ++ [upper])
  symbol ":"
  if ← symbol? "]" then return .form (left :: lower.toList ++ [upper])
  let stride ← rules.whole
  symbol "]"
  return .form (left :: lower.toList ++ [upper, stride])

/-- Keys in brackets after the opening bracket of the first. -/
def keyAccess (rules : Rules) (left : Expr) : Parse Expr := do
  let key : Parse Expr := do
    let key ← rules.whole
    symbol "]"
    return key
  let first ← key
  let rest ← repeated do if ← symbol? "[" then return some (← key) else return none
  return .form (left :: first :: rest)

/-- A user-defined operator, spelled `OPERATOR (schema.name)`, after its keyword. -/
def namedOperator : Parse Unit :=
  parenthesized do
    let _ ← next
    let _ ← repeated do if ← symbol? "." then return some (← next) else return none

/-- An operator and its right side, after its left side. -/
def operation (rules : Rules) (left : Expr) (strength : Nat) : Parse Expr := do
  let grammar ← read
  let before ← get
  match (← next).token with
  | .symbol "::" => return .cast left (← rules.typeName).sqlType
  | .symbol "[" => if grammar == .mySQL then keyAccess rules left else subscript rules left
  | .symbol "!" => if grammar == .postgreSQL then return .unary .other left else refuse
  | .symbol spelling =>
    match symbolOp? grammar spelling with
    | some op => rightSide rules left op (op == .comparison) strength
    | none => refuse
  | .operator _ => rightSide rules left .other false strength
  | .word word =>
    match word.key with
    | "AND" => rightSide rules left .and false strength
    | "OR" => rightSide rules left .or false strength
    | "XOR" => rightSide rules left .xor false strength
    | "DIV" => if grammar == .mySQL then return .binary left .other (← firmly rules.whole) else refuse
    | "OPERATOR" =>
      if grammar == .mySQL then refuse
      else
        namedOperator
        rightSide rules left .other false strength
    | "IS" => isForm rules left
    | "AT" =>
      keywords ["TIME", "ZONE"]
      return .form [left, ← rules.expr strength]
    | "NOT" | "IN" | "BETWEEN" | "LIKE" | "ILIKE" | "SIMILAR" | "REGEXP" | "RLIKE" =>
      set before
      testForm rules left
    | _ => refuse
  | _ => refuse

/-- Goes on from a left side for as long as operators bind stronger than `least`. -/
def operations (rules : Rules) (least : Nat) (bound : Nat) (left : Expr) : Parse Expr :=
  match bound with
  | 0 => return left
  | bound + 1 => do
    let strength := (← read).nextStrength (← get)
    if strength ≤ least then return left
    else operations rules least bound (← operation rules left strength)

/-- An expression whose operators bind stronger than `least`. -/
def expr (rules : Rules) (least : Nat) : Parse Expr := do
  let left ← rules.primary
  operations rules least ((← get).length + 1) left

end AnnotatedSql.Sql.Parse
