import AnnotatedSql.Sql.Parse.Basic

/-!
Types as they are written in definitions and casts.
-/
namespace AnnotatedSql.Sql.Parse

/-- `(n)` or `(MAX)` after a character type, where the unit of the length may be named. -/
def characterLength? : Parse (Option Nat) := do
  if ← symbol? "(" then
    let length ← do
      if ← keyword? "MAX" then pure Text.maxWord
      else
        let length ← wholeNumber
        let _ ← oneOf? ["CHARACTERS", "OCTETS"]
        pure length
    symbol ")"
    return some length
  else return none

/-- `(p)` or `(p, s)` after a decimal type. -/
def precisionAndScale? : Parse (Option Nat × Option Nat) := do
  if ← symbol? "(" then
    let precision ← wholeNumber
    let scale ← do if ← symbol? "," then some <$> wholeNumber else pure none
    symbol ")"
    return (some precision, scale)
  else return (none, none)

/-- `WITH TIME ZONE` or `WITHOUT TIME ZONE`; whether there is a time zone. -/
def timeZone : Parse Bool := do
  if ← keyword? "WITH" then
    keywords ["TIME", "ZONE"]
    return true
  else if ← keyword? "WITHOUT" then
    keywords ["TIME", "ZONE"]
    return false
  else return false

/-- Members of an enum type, each perhaps with a number; the labels if no member has one. -/
def enumMembers : Parse (Option (List String)) :=
  parenthesized do
    let members ← commaSeparated do
      let label ← text
      let numbered ← symbol? "="
      if numbered then
        if !(← symbol? "-") then let _ ← symbol? "+"
        let _ ← numberValue
      return (label, numbered)
    return if members.any (·.2) then none else some (members.map (·.1))

/-- What may stand in parentheses after a type known by name only. -/
def modifiers : Parse Unit := do
  if ← symbol? "(" then
    let _ ← repeated do
      match ← peek? with
      | some (.word _) | some (.number _ _) | some (.text .single _) | some (.symbol ",") =>
        skip
        return some ()
      | _ => return none
    symbol ")"

/-- Types without parameters. -/
def simpleTypes : List (String × SqlType) := [
  ("BOOLEAN", .boolean), ("BOOL", .boolean), ("REAL", .real), ("FLOAT4", .real), ("FLOAT8", .doublePrecision),
  ("UUID", .uuid), ("DATE", .date), ("JSON", .json), ("JSONB", .jsonb), ("TEXT", .text), ("BYTEA", .bytea),
  ("FLOAT32", .unknown), ("FLOAT64", .unknown), ("DATE32", .unknown), ("REGCLASS", .unknown), ("TRIGGER", .unknown),
  ("INT16", .unknown), ("INT32", .unknown), ("INT64", .unknown), ("INT128", .unknown), ("INT256", .unknown),
  ("UINT8", .unknown), ("UINT16", .unknown), ("UINT32", .unknown), ("UINT64", .unknown), ("UINT128", .unknown),
  ("UINT256", .unknown), ("TINYBLOB", .unknown), ("MEDIUMBLOB", .unknown), ("LONGBLOB", .unknown),
  ("TINYTEXT", .unknown), ("MEDIUMTEXT", .unknown), ("LONGTEXT", .unknown)]

/-- Types with a precision that does not show. -/
def sizedTypes : List (String × SqlType) := [
  ("FLOAT", .unknown), ("BINARY", .blob), ("VARBINARY", .blob), ("BLOB", .blob), ("DATETIME", .datetime),
  ("CLOB", .unknown), ("BYTES", .unknown), ("STRING", .text)]

/-- Integer types, and what each becomes with `UNSIGNED`. -/
def integerTypes : List (String × SqlType × SqlType × Bool) := [
  ("TINYINT", .tinyInt, .tinyInt, true), ("SMALLINT", .smallInt, .smallInt, true),
  ("MEDIUMINT", .mediumInt, .mediumInt, true), ("INT", .integer, .integer, true),
  ("INTEGER", .integer, .integer, true), ("BIGINT", .bigInt, .bigInt, true),
  ("INT2", .smallInt, .unknown, false), ("INT4", .integer, .unknown, false), ("INT8", .bigInt, .unknown, false)]

/-- Closes an angle bracket, unless the type inside it took that bracket too. Two closing brackets may be one token,
    which then closes two types; tells whether a bracket too many was taken. -/
def closeAngle (closed : Bool) : Parse Bool := do
  if closed then return false
  else if ← symbol? ">>" then return true
  else
    symbol ">"
    return false

/-- `ARRAY<…>` after its keyword, given the reader of the element type, which tells whether it took a bracket too
    many. -/
def angledArray (element : Parse (TypeName × Bool)) : Parse (TypeName × Bool) := do
  symbol "<"
  let (inner, closed) ← element
  return (.plain (.array inner.sqlType) false, ← closeAngle closed)

/-- A field of a structure: a type, perhaps with a name in front. -/
def structField (element : Parse (TypeName × Bool)) : Parse Bool := do
  match ← peekAt? 0, ← peekAt? 1 with
  | some (.word _), some (.word _) => skip
  | _, _ => pure ()
  return (← element).2

/-- The fields of a structure in angle brackets: whether there are any, and whether a bracket too many was taken. -/
def structFields (element : Parse (TypeName × Bool)) : Parse (Bool × Bool) := do
  if ← symbol? "<" then
    let closed ← commaSeparated (structField element)
    if closed.dropLast.any id then refuse
    return (true, ← closeAngle (closed.getLast?.getD false))
  else return (false, false)

/-- A type that only the general grammar has, with its types inside; `none` if the keyword starts no such type. -/
def generalType? (element : Parse (TypeName × Bool)) : Parse (Option (TypeName × Bool)) := do
  let inside (reader : Parse Unit) : Parse (Option (TypeName × Bool)) := do
    skip
    parenthesized reader
    return some (.plain .unknown false, false)
  let entire : Parse Unit := do if (← element).2 then refuse
  if !(← inGrammar [.general]) then return none
  match ← peekKey with
  | "STRUCT" =>
    skip
    return some (.plain .unknown false, (← structFields element).2)
  | "UNION" | "NESTED" => inside do
    let _ ← commaSeparated do
      let _ ← ident
      entire
  | "NULLABLE" | "LOWCARDINALITY" => inside entire
  | "MAP" => inside do
    entire
    symbol ","
    entire
  | "TUPLE" => inside do
    let closed ← commaSeparated (structField element)
    if closed.any id then refuse
  | _ => return none

/-- A type whose name is not `ARRAY`, without the brackets of an array after it. -/
def baseType : Parse TypeName := do
  let word ← match ← peek? with
    | some (.word word) => pure word
    | _ => refuse
  let key := word.key
  let plain (type : SqlType) : Parse TypeName := return .plain type false
  if let some type := simpleTypes.lookup key then
    skip
    plain type
  else if let some type := sizedTypes.lookup key then
    skip
    let _ ← precision?
    plain type
  else if let some (signed, unsigned, flag) := integerTypes.lookup key then
    skip
    let _ ← precision?
    if ← keyword? "UNSIGNED" then return .plain unsigned flag
    else plain signed
  else match key with
    | "DOUBLE" =>
      skip
      let _ ← keyword? "PRECISION"
      plain .doublePrecision
    | "VARCHAR" =>
      skip
      return .plain (.varchar (← characterLength?)) false
    | "NVARCHAR" =>
      skip
      let _ ← characterLength?
      plain .unknown
    | "CHARACTER" =>
      skip
      if ← keyword? "VARYING" then return .plain (.varchar (← characterLength?)) false
      else if ← keywords? ["LARGE", "OBJECT"] then
        let _ ← precision?
        plain .unknown
      else return .plain (.char (← characterLength?)) false
    | "CHAR" =>
      skip
      if ← keyword? "VARYING" then
        let _ ← characterLength?
        plain .unknown
      else if ← keywords? ["LARGE", "OBJECT"] then
        let _ ← precision?
        plain .unknown
      else return .plain (.char (← characterLength?)) false
    | "BIT" =>
      skip
      let _ ← keyword? "VARYING"
      let _ ← precision?
      plain .unknown
    | "TIMESTAMP" =>
      skip
      let precision ← precision?
      return .plain (.timestamp precision (← timeZone)) false
    | "TIMESTAMPTZ" =>
      skip
      return .plain (.timestamp (← precision?) true) false
    | "TIME" =>
      skip
      let precision ← precision?
      return .plain (.time precision (← timeZone)) false
    | "TIMETZ" =>
      skip
      return .plain (.time (← precision?) false) false
    | "INTERVAL" =>
      skip
      return .interval
    | "NUMERIC" | "DECIMAL" =>
      skip
      let (precision, scale) ← precisionAndScale?
      plain (.decimal precision scale)
    | "DEC" | "BIGNUMERIC" | "BIGDECIMAL" =>
      skip
      let _ ← precisionAndScale?
      plain .unknown
    | "ENUM" =>
      skip
      return .enum (← enumMembers)
    | "ENUM8" | "ENUM16" =>
      skip
      let _ ← enumMembers
      return .enum none
    | "SET" =>
      skip
      parenthesized do
        let _ ← commaSeparated do
          match (← next).token with
          | .text .single _ => pure ()
          | _ => refuse
      plain .unknown
    | "FIXEDSTRING" =>
      skip
      let _ ← parenthesized wholeNumber
      plain .unknown
    | "DATETIME64" =>
      skip
      parenthesized do
        let _ ← wholeNumber
        if ← symbol? "," then let _ ← text
      plain .unknown
    | _ =>
      let name ← objectName
      modifiers
      return .custom name

/-- A type, nested at most `bound` deep, and whether it took a closing bracket too many. -/
def nestedType : Nat → Parse (TypeName × Bool)
  | 0 => refuse
  | bound + 1 => do
    let (base, surplus) ← do
      if ← keyword? "ARRAY" then angledArray (nestedType bound)
      else match ← generalType? (nestedType bound) with
        | some type => pure type
        | none => do pure (← baseType, false)
    let sized ← inGrammar [.postgreSQL, .general]
    let brackets ← repeated do
      if ← symbol? "[" then
        if sized then let _ ← attempt wholeNumber
        symbol "]"
        return some ()
      else return none
    return (brackets.foldl (fun type _ => .plain (.array type.sqlType) false) base, surplus)

/-- A type. -/
def typeName : Parse TypeName := do
  let (type, surplus) ← nestedType ((← get).length + 1)
  if surplus then refuse else return type

end AnnotatedSql.Sql.Parse
