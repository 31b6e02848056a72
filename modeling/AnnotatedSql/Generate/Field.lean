import AnnotatedSql.Generate.Naming

/-!
Fields of generated structs. Columns under one id, such as one numbered parameter used twice, share a field name;
otherwise a repeated column name gets the count of its occurrences as a suffix.
-/
namespace AnnotatedSql.Generate

structure Field where
  name : String
  /-- Values of the `db` and `json` tags, where they are asked for. -/
  tags : Keyed String
  column : Column
deriving Repr, DecidableEq

/-- The columns seen so far: how often each name occurred, and the suffix that each id got. -/
structure Seen where
  names : List String := []
  suffixes : List (Nat × Nat) := []

/-- The suffix of a column under an id; 0 stands for none. -/
def Seen.suffix (seen : Seen) (id : Nat) (name : String) : Nat :=
  match seen.suffixes.lookup id with
  | some suffix => suffix
  | none =>
    let count := seen.names.count name
    if count > 0 then count + 1 else 0

def Seen.add (seen : Seen) (id : Nat) (name : String) : Seen where
  names := name :: seen.names
  suffixes := (id, seen.suffix id name) :: seen.suffixes

/-- The field of a column, given its name and suffix. -/
def fieldOf (settings : Settings) (column : Column) (name : String) (suffix : Nat) : Field :=
  let ending := if suffix > 0 then s!"_{suffix}" else ""
  let tag := name ++ ending
  { name := structName name ++ ending
    tags := (if settings.dbTags then [("db", tag)] else []) ++ (if settings.jsonTags then [("json", tag)] else [])
    column }

/-- The fields of columns from a position on. -/
def fieldsFrom (settings : Settings) (seen : Seen) (position : Nat) : List (Nat × Column) → List Field
  | [] => []
  | (id, column) :: rest =>
    let name := columnName column position
    fieldOf settings column name (seen.suffix id name) ::
      fieldsFrom settings (seen.add id name) (position + 1) rest

/-- One field per column, each column paired with an id. -/
def structFields (columns : List (Nat × Column)) (settings : Settings) : List Field :=
  fieldsFrom settings {} 0 columns

/-- Fields of the struct of a query's parameters, under their numbers. -/
def paramFields (query : Query) (settings : Settings) : List Field :=
  structFields (query.params.map fun param => (param.number, param.column)) settings

/-- Fields of the struct of a query's rows, under their positions. -/
def rowFields (query : Query) (settings : Settings) : List Field :=
  structFields (query.columns.zipIdx.map fun (column, position) => (position, column)) settings

end AnnotatedSql.Generate
