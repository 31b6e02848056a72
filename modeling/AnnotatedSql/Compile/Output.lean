import AnnotatedSql.Compile.View

/-!
Types of expressions and the output columns of statements. The functions follow the tree: a query's columns come from
its body, whose range variables come from the relations it names, whose columns may come from queries again.
-/
namespace AnnotatedSql

open Sql (Arg Body Call CallArgs Cte Expr FromItem Item Join Literal Relation Select Statement)

/-- The type of a literal. Placeholders and `NULL` have none. -/
def literalColumn : Literal → Column
  | .number digits =>
    if digits.toList.any fun c => c == '.' || c == 'e' || c == 'E' then .ofType "" (.decimal none none) true
    else .ofType "" .integer true
  | .text .single _ | .text .double _ | .text .escaped _ | .text .national _ => .ofType "" .text true
  | .boolean => .ofType "" .boolean true
  | _ => .any ""

/-- Whether the type of a column is known. -/
def Column.isTyped (column : Column) : Bool :=
  column.type != "any"

/-- The first column whose type is known, or one of unknown type. -/
def firstTyped (columns : List Column) : Column :=
  (columns.find? Column.isTyped).getD (.any "")

/-- The column of an operator between two operands. Operators that typing does not know give an unknown type. -/
def binaryColumn (op : Sql.BinaryOp) (left right : Column) : Column :=
  let notNull := left.notNull && right.notNull
  match op with
  | .comparison | .nullSafe | .and | .or | .xor => .ofType "" .boolean notNull
  | .concat => .ofType "" .text notNull
  | .arithmetic | .division =>
    { (if left.isTyped then left else right) with
      name := "", notNull, table := none, tableAlias := none, comment := none }
  | .other => .any ""

/-- The column of `CASE`, from the columns of its results. Without `ELSE` it may be null. -/
def caseColumn (results : List Column) (otherwise : Option Column) : Column :=
  let columns := results ++ otherwise.toList
  (Column.ofType "" .unknown (otherwise.isSome && columns.all Column.notNull)).withTypeOf (firstTyped columns)

/-- The column of a subquery that stands for a value: its first column, which may be null. -/
def scalarColumn (columns : List Column) : Column :=
  match columns with
  | first :: _ => { first with name := "", notNull := false, table := none, tableAlias := none }
  | [] => .any ""

/-- The column of a function call, from the columns of its arguments. -/
def View.callColumn (view : View) (name : QualifiedName) (count : Nat) (args : List Column) : Column :=
  let label := Text.toLower name.name
  let allNotNull := args.all Column.notNull
  match label with
  | "count" => .ofType label .bigInt true
  | "sum" | "min" | "max" =>
    match args with
    | arg :: _ => (Column.ofType label .unknown false).withTypeOf arg
    | [] => .any label
  | "avg" => .ofType label (.decimal none none) false
  | "coalesce" | "ifnull" =>
    (Column.ofType label .unknown (args.any Column.notNull)).withTypeOf (firstTyped args)
  | "now" | "current_timestamp" | "localtimestamp" =>
    match view.dialect with
    | .postgreSQL => .ofType label (.timestamp none true) true
    | .mySQL => .ofType label .datetime true
  | "lower" | "upper" | "concat" | "trim" | "replace" | "substring" | "substr" => .ofType label .text allNotNull
  | "length" | "char_length" => .ofType label .integer allNotNull
  | _ =>
    match (view.catalog.functions name).find? (·.accepts count) with
    | some function => .ofType label function.returnType function.returnNotNull
    | none => .any label

/-- The nullability of one side of a set operation, with the names and types of the other. -/
def combineColumns : List Column → List Column → List Column
  | column :: columns, other :: others =>
    { column with notNull := column.notNull && other.notNull } :: combineColumns columns others
  | columns, _ => columns

/-- Which sides of a join may lack a row, applied to the range variables of both sides. -/
def joinSides (kind : Sql.JoinKind) (left right : List RangeVar) : List RangeVar :=
  match kind with
  | .inner | .plain => left ++ right
  | .left => left ++ right.map RangeVar.nullable
  | .right => left.map RangeVar.nullable ++ right
  | .full => left.map RangeVar.nullable ++ right.map RangeVar.nullable

/-- The range variable of a table function: it shows only the columns that its alias names. -/
def functionVars (asName : Option Sql.Alias) : List RangeVar :=
  asName.toList.map fun asName =>
    .ofColumns asName.name.value (some asName) (asName.columns.map fun name => .any name.value)

mutual

/-- The view with the common table expressions of a `WITH` clause. Each sees those before it. -/
def View.withCtes (view : View) (recursive : Bool) (outer : Scope) : List Cte → Except Error View
  | [] => .ok view
  | ⟨asName, query⟩ :: rest => do
    let columns ← view.queryColumns recursive outer query
    (view.addCte asName columns).withCtes recursive outer rest

/-- The output columns of a query. Of a recursive term only the part before the set operator counts, since the other
    part refers to the query itself. -/
def View.queryColumns (view : View) (recursiveTerm : Bool) (outer : Scope) : Sql.Query → Except Error (List Column)
  | ⟨recursive, ctes, body, _, _, _, _⟩ =>
    match recursiveTerm, body with
    | true, .setOperation left _ => view.bodyColumns outer left
    | _, body => do
      let view ← view.withCtes recursive outer ctes
      view.bodyColumns outer body

/-- The output columns of a query body. Those of a set operation have the names of its left side. -/
def View.bodyColumns (view : View) (outer : Scope) : Body → Except Error (List Column)
  | .select select => view.selectColumns outer select
  | .query query => view.queryColumns false outer query
  | .setOperation left right => do
    return combineColumns (← view.bodyColumns outer left) (← view.bodyColumns outer right)
  | .values [] => .ok []
  | .values (row :: _) => view.valueColumns outer 1 row
  | .insert _ | .update _ | .table => .ok []

/-- The columns of a row of values, named by their places. -/
def View.valueColumns (view : View) (scope : Scope) (place : Nat) : List Expr → Except Error (List Column)
  | [] => .ok []
  | value :: rest => do
    let column ← view.exprColumn scope value
    let columns ← view.valueColumns scope (place + 1) rest
    return { column with name := s!"column{place}" } :: columns

def View.selectColumns (view : View) (outer : Scope) : Select → Except Error (List Column)
  | ⟨_, items, tables, _, _, _, _, _, _, _⟩ => do
    let frame ← view.frame outer {} tables
    view.itemColumns (frame :: outer) 0 items

/-- The columns of select items, after `count` columns of earlier items. An expression without a name is named by
    its place. -/
def View.itemColumns (view : View) (scope : Scope) (count : Nat) : List Item → Except Error (List Column)
  | [] => .ok []
  | .expr value :: rest => do
    let column ← view.exprColumn scope value
    let column := if column.name.isEmpty then { column with name := s!"column_{count + 1}" } else column
    return column :: (← view.itemColumns scope (count + 1) rest)
  | .aliased value asName :: rest => do
    let column ← view.exprColumn scope value
    return { column with name := asName.value } :: (← view.itemColumns scope (count + 1) rest)
  | .wildcard _ :: rest => do
    let columns := (scope.head?.map Frame.columns).getD []
    return columns ++ (← view.itemColumns scope (count + columns.length) rest)
  | .qualified name _ :: rest => do
    let qualifier := (name.getLast?.map Sql.Ident.value).getD ""
    match scope.head?.bind (·.var? qualifier) with
    | none => throw (.tableNotFound qualifier)
    | some var => return var.columns ++ (← view.itemColumns scope (count + var.columns.length) rest)

/-- The range variables of `FROM` items, added to a frame of earlier ones. -/
def View.frame (view : View) (outer : Scope) (frame : Frame) : List FromItem → Except Error Frame
  | [] => .ok frame
  | ⟨relation, joins⟩ :: rest => do
    let vars ← view.relationVars outer frame relation
    let (frame, vars) ← view.joinVars outer frame vars joins
    view.frame outer { frame with vars := frame.vars ++ vars } rest

/-- The range variables of a `FROM` item after its joins, given those before them. -/
def View.joinVars (view : View) (outer : Scope) (frame : Frame) (vars : List RangeVar) :
    List Join → Except Error (Frame × List RangeVar)
  | [] => .ok (frame, vars)
  | ⟨relation, kind, _, shared, _⟩ :: rest => do
    let right ← view.relationVars outer frame relation
    let frame := { frame with merged := frame.merged ++ shared.map Sql.Ident.value }
    view.joinVars outer frame (joinSides kind vars right) rest

/-- The range variables of a relation. A lateral subquery sees the items before it. -/
def View.relationVars (view : View) (outer : Scope) (preceding : Frame) : Relation → Except Error (List RangeVar)
  | .table name asName _ => do return [← view.relation name asName]
  | .derived lateral query asName => do
    let columns ← view.queryColumns false (if lateral then preceding :: outer else outer) query
    return [.ofColumns ((asName.map (·.name.value)).getD "") asName columns]
  | .joined inner asName => do
    let frame ← view.itemFrame outer inner
    match asName with
    | some asName => return [.ofColumns asName.name.value (some asName) frame.columns]
    | none => return frame.vars
  | .function _ _ asName => .ok (functionVars asName)
  | .hidden _ | .pivoted _ _ => .ok []

/-- The range variables of one `FROM` item alone. -/
def View.itemFrame (view : View) (outer : Scope) : FromItem → Except Error Frame
  | ⟨relation, joins⟩ => do
    let vars ← view.relationVars outer {} relation
    let (frame, vars) ← view.joinVars outer {} vars joins
    return { frame with vars }

/-- The column that an expression yields. -/
def View.exprColumn (view : View) (scope : Scope) : Expr → Except Error Column
  | .ident name => scope.lookup none name.value
  | .path parts => scope.lookup (Sql.ObjectName.column parts).1 (Sql.ObjectName.column parts).2
  | .nested inner => view.exprColumn scope inner
  | .literal value => .ok (literalColumn value)
  | .typed type => .ok (.ofType "" type true)
  | .cast operand type => do
    let inner ← view.exprColumn scope operand
    return .ofType inner.name type inner.notNull
  | .binary left op right => do
    return binaryColumn op (← view.exprColumn scope left) (← view.exprColumn scope right)
  | .unary op operand => do
    let inner ← view.exprColumn scope operand
    match op with
    | .not => return .ofType "" .boolean inner.notNull
    | _ => return { inner with name := "", table := none }
  | .test _ | .distinct _ _ | .exists _ => .ok (.ofType "" .boolean true)
  | .inList operand _ => do return .ofType "" .boolean (← view.exprColumn scope operand).notNull
  | .inQuery operand _ => do return .ofType "" .boolean (← view.exprColumn scope operand).notNull
  | .between operand _ _ => do return .ofType "" .boolean (← view.exprColumn scope operand).notNull
  | .like operand _ => do return .ofType "" .boolean (← view.exprColumn scope operand).notNull
  | .case _ _ results otherwise => do
    let columns ← view.exprColumns scope results
    match otherwise with
    | none => return caseColumn columns none
    | some otherwise => return caseColumn columns (some (← view.exprColumn scope otherwise))
  | .subquery query => do return scalarColumn (← view.queryColumns false scope query)
  | .call call => view.callColumns scope call
  | .interval _ => .ok (.ofType "" .interval true)
  | .tuple _ | .quantified _ _ | .form _ => .ok (.any "")

def View.exprColumns (view : View) (scope : Scope) : List Expr → Except Error (List Column)
  | [] => .ok []
  | value :: rest => do return (← view.exprColumn scope value) :: (← view.exprColumns scope rest)

def View.callColumns (view : View) (scope : Scope) : Call → Except Error Column
  | ⟨name, .list args _, _, _, _⟩ => do
    return view.callColumn (Sql.ObjectName.qualified name) args.length (← view.argColumns scope args)
  | ⟨name, _, _, _, _⟩ => .ok (view.callColumn (Sql.ObjectName.qualified name) 0 [])

/-- The columns of arguments, wildcards left out. -/
def View.argColumns (view : View) (scope : Scope) : List Arg → Except Error (List Column)
  | [] => .ok []
  | .positional none :: rest => view.argColumns scope rest
  | .named none :: rest => view.argColumns scope rest
  | .labelled _ none :: rest => view.argColumns scope rest
  | .positional (some value) :: rest => do
    return (← view.exprColumn scope value) :: (← view.argColumns scope rest)
  | .named (some value) :: rest => do
    return (← view.exprColumn scope value) :: (← view.argColumns scope rest)
  | .labelled _ (some value) :: rest => do
    return (← view.exprColumn scope value) :: (← view.argColumns scope rest)

end

namespace View

/-- The frame that the `RETURNING` clause of a statement sees; none if the statement has no such clause. -/
def returningFrame? (view : View) : Statement → Except Error (Option (List Item × Frame))
  | .insert insert =>
    if insert.returning.isEmpty then .ok none
    else do return some (insert.returning, .single (← view.relation insert.table none))
  | .update update =>
    if update.returning.isEmpty then .ok none
    else do return some (update.returning, ← view.frame [] {} (update.table :: update.tables.toList))
  | .delete delete =>
    if delete.returning.isEmpty then .ok none
    else do return some (delete.returning, ← view.frame [] {} (delete.tables ++ delete.others))
  | _ => .ok none

/-- The output columns of a statement: those of its select list, or of its `RETURNING` clause. -/
def statementColumns (view : View) (statement : Statement) : Except Error (List Column) := do
  match statement with
  | .query query => view.queryColumns false [] query
  | _ =>
    match ← view.returningFrame? statement with
    | some (items, frame) => view.itemColumns [frame] 0 items
    | none => return []

end View

end AnnotatedSql
