import AnnotatedSql.Query

/-!
Names in generated code, made from names in the database: `user_id` becomes `userID` for an argument and `UserID`
for a struct, and a table's struct is named after one of its rows.
-/
namespace AnnotatedSql.Generate

/-- What a generator is asked for. -/
structure Settings where
  /-- Package or namespace of the generated code. -/
  package : String := "db"
  dbTags : Bool := false
  jsonTags : Bool := false
  /-- Whether struct names keep the plural of table names. -/
  exactTableNames : Bool := false
deriving Repr, DecidableEq

/-- A word with a capital first letter. -/
def title : List Char → List Char
  | [] => []
  | c :: cs => Text.upperChar c ++ cs

/-- A word inside a name; `id` is written in capitals. -/
def capitalized (word : List Char) : List Char :=
  if word = ['i', 'd'] then ['I', 'D'] else title word

/-- `user_id` becomes `userID`. -/
def argName (name : String) : String :=
  match name.toList.splitOn '_' with
  | [] => ""
  | first :: rest => Text.toLower (String.ofList first) ++ String.ofList (rest.flatMap capitalized)

/-- `user_id` becomes `UserID`. -/
def structName (name : String) : String :=
  String.ofList ((name.toList.splitOn '_').flatMap capitalized)

/-- The name of a column at a position from 0; one without a name is called after its position. -/
def columnName (column : Column) (position : Nat) : String :=
  if column.name.isEmpty then s!"column_{position + 1}" else column.name

/-- The argument name of a parameter; one without a name is called after its number. -/
def paramName (param : Parameter) : String :=
  if param.column.name.isEmpty then s!"dollar_{param.number}" else argName param.column.name

def endsWith (word : String) (ending : String) : Bool :=
  ending.toList.isSuffixOf word.toList

/-- English singular of a word, by its ending. -/
def singularWord (word : String) : String :=
  let lower := Text.toLower word
  let dropEnd (count : Nat) : String := String.ofList (word.toList.take (word.toList.length - count))
  if endsWith lower "ies" && word.utf8ByteSize > 3 then dropEnd 3 ++ "y"
  else if ["sses", "shes", "ches", "xes", "zes"].any (endsWith lower) then dropEnd 2
  else if endsWith lower "s" && !endsWith lower "ss" && !endsWith lower "us" then dropEnd 1
  else word

/-- The name with its last word in the singular. -/
def singular (name : String) : String :=
  let word := (name.toList.reverse.takeWhile (· != '_')).reverse
  String.ofList (name.toList.take (name.toList.length - word.length)) ++ singularWord (String.ofList word)

/-- The struct of a catalog table's rows. A table outside the default schema carries its schema's name in front. -/
def tableStructName (catalog : Catalog) (table : QualifiedName) (settings : Settings) : String :=
  let name := match table.schema with
    | some schema => if schema ≠ catalog.defaultSchema then schema ++ "_" ++ table.name else table.name
    | none => table.name
  structName (if settings.exactTableNames then name else singular name)

end AnnotatedSql.Generate
