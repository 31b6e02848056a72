import AnnotatedSql.Sql.Tree

/-!
Walks over whole trees. `Expr.all` lists an expression and everything inside it, each expression before its operands;
`Expr.mapUp` replaces every expression, operands first. Other nodes have the same two functions.
-/
namespace AnnotatedSql.Sql

mutual

def Expr.all : Expr → List Expr
  | e@(.ident _) | e@(.path _) | e@(.literal _) | e@(.typed _) => [e]
  | e@(.nested inner) => e :: inner.all
  | e@(.tuple items) => e :: allOfList items
  | e@(.binary left _ right) => e :: left.all ++ right.all
  | e@(.unary _ operand) => e :: operand.all
  | e@(.quantified left right) => e :: left.all ++ right.all
  | e@(.test operand) => e :: operand.all
  | e@(.distinct left right) => e :: left.all ++ right.all
  | e@(.inList operand items) => e :: operand.all ++ allOfList items
  | e@(.inQuery operand query) => e :: operand.all ++ query.all
  | e@(.between operand low high) => e :: operand.all ++ low.all ++ high.all
  | e@(.like operand pattern) => e :: operand.all ++ pattern.all
  | e@(.cast operand _) => e :: operand.all
  | e@(.call call) => e :: call.all
  | e@(.case operand conditions results otherwise) =>
    e :: allOfOption operand ++ allOfList conditions ++ allOfList results ++ allOfOption otherwise
  | e@(.subquery query) => e :: query.all
  | e@(.exists query) => e :: query.all
  | e@(.interval value) => e :: value.all
  | e@(.form operands) => e :: allOfList operands

def allOfList : List Expr → List Expr
  | [] => []
  | e :: rest => e.all ++ allOfList rest

def allOfOption : Option Expr → List Expr
  | none => []
  | some e => e.all

def allOfRows : List (List Expr) → List Expr
  | [] => []
  | row :: rest => allOfList row ++ allOfRows rest

def Call.all : Call → List Expr
  | ⟨_, args, filter, window, withinGroup⟩ =>
    args.all ++ allOfOption filter ++ allOfList window ++ allOfList withinGroup

def CallArgs.all : CallArgs → List Expr
  | .none => []
  | .list args clauses => allOfArgs args ++ allOfList clauses
  | .query q => q.all

def allOfArgs : List Arg → List Expr
  | [] => []
  | .positional value :: rest => allOfOption value ++ allOfArgs rest
  | .named value :: rest => allOfOption value ++ allOfArgs rest
  | .labelled label value :: rest => label.all ++ allOfOption value ++ allOfArgs rest

def Query.all : Query → List Expr
  | ⟨_, ctes, body, orderBy, limit, offset, fetch⟩ =>
    allOfCtes ctes ++ body.all ++ allOfList orderBy ++ allOfOption limit ++ allOfOption offset ++ allOfOption fetch

def allOfCtes : List Cte → List Expr
  | [] => []
  | ⟨_, query⟩ :: rest => query.all ++ allOfCtes rest

def Body.all : Body → List Expr
  | .select s => s.all
  | .query q => q.all
  | .setOperation left right => left.all ++ right.all
  | .values rows => allOfRows rows
  | .insert i => i.all
  | .update u => u.all
  | .table => []

def Select.all : Select → List Expr
  | ⟨head, items, tables, views, selection, groupBy, sorting, having, windows, qualify⟩ =>
    allOfList head ++ allOfItems items ++ allOfTables tables ++ allOfList views ++ allOfOption selection ++
      allOfList groupBy ++ allOfList sorting ++ allOfOption having ++ allOfList windows ++ allOfOption qualify

def allOfItems : List Item → List Expr
  | [] => []
  | .expr value :: rest => value.all ++ allOfItems rest
  | .aliased value _ :: rest => value.all ++ allOfItems rest
  | .wildcard _ :: rest => allOfItems rest
  | .qualified _ _ :: rest => allOfItems rest

def FromItem.all : FromItem → List Expr
  | ⟨relation, joins⟩ => relation.all ++ allOfJoins joins

def allOfTables : List FromItem → List Expr
  | [] => []
  | item :: rest => item.all ++ allOfTables rest

def allOfJoins : List Join → List Expr
  | [] => []
  | ⟨relation, _, on, _, hidden⟩ :: rest =>
    relation.all ++ allOfOption on ++ allOfList hidden ++ allOfJoins rest

def Relation.all : Relation → List Expr
  | .table _ _ hints => allOfList hints
  | .function _ operands _ => allOfList operands
  | .derived _ query _ => query.all
  | .joined inner _ => inner.all
  | .hidden operands => allOfList operands
  | .pivoted inner operands => inner.all ++ allOfList operands

def Insert.all : Insert → List Expr
  | ⟨_, _, source, partitions, updates, updateWhere, returning⟩ =>
    allOfSource source ++ allOfList partitions ++ allOfAssignments updates ++ allOfOption updateWhere ++
      allOfItems returning

def allOfSource : Option Query → List Expr
  | none => []
  | some query => query.all

def Update.all : Update → List Expr
  | ⟨table, assignments, tables, selection, returning⟩ =>
    table.all ++ allOfAssignments assignments ++ allOfTable tables ++ allOfOption selection ++ allOfItems returning

def allOfTable : Option FromItem → List Expr
  | none => []
  | some item => item.all

def allOfAssignments : List Assignment → List Expr
  | [] => []
  | ⟨_, value⟩ :: rest => value.all ++ allOfAssignments rest

end

def Delete.all (delete : Delete) : List Expr :=
  allOfTables delete.tables ++ allOfTables delete.others ++ allOfOption delete.selection ++
    allOfItems delete.returning ++ allOfList delete.orderBy ++ allOfOption delete.limit

/-- All expressions of a statement that can be compiled. -/
def Statement.all : Statement → List Expr
  | .query q => q.all
  | .insert i => i.all
  | .update u => u.all
  | .delete d => d.all
  | .truncate partitions => allOfList partitions
  | .definition _ _ | .other _ => []

mutual

/-- Replaces every expression in an expression, operands first. -/
def Expr.mapUp (f : Expr → Expr) : Expr → Expr
  | .ident name => f (.ident name)
  | .path parts => f (.path parts)
  | .literal value => f (.literal value)
  | .typed type => f (.typed type)
  | .nested inner => f (.nested (inner.mapUp f))
  | .tuple items => f (.tuple (mapUpList f items))
  | .binary left op right => f (.binary (left.mapUp f) op (right.mapUp f))
  | .unary op operand => f (.unary op (operand.mapUp f))
  | .quantified left right => f (.quantified (left.mapUp f) (right.mapUp f))
  | .test operand => f (.test (operand.mapUp f))
  | .distinct left right => f (.distinct (left.mapUp f) (right.mapUp f))
  | .inList operand items => f (.inList (operand.mapUp f) (mapUpList f items))
  | .inQuery operand query => f (.inQuery (operand.mapUp f) (query.mapUp f))
  | .between operand low high => f (.between (operand.mapUp f) (low.mapUp f) (high.mapUp f))
  | .like operand pattern => f (.like (operand.mapUp f) (pattern.mapUp f))
  | .cast operand type => f (.cast (operand.mapUp f) type)
  | .call call => f (.call (call.mapUp f))
  | .case operand conditions results otherwise =>
    f (.case (mapUpOption f operand) (mapUpList f conditions) (mapUpList f results) (mapUpOption f otherwise))
  | .subquery query => f (.subquery (query.mapUp f))
  | .exists query => f (.exists (query.mapUp f))
  | .interval value => f (.interval (value.mapUp f))
  | .form operands => f (.form (mapUpList f operands))

def mapUpList (f : Expr → Expr) : List Expr → List Expr
  | [] => []
  | e :: rest => e.mapUp f :: mapUpList f rest

def mapUpOption (f : Expr → Expr) : Option Expr → Option Expr
  | none => none
  | some e => some (e.mapUp f)

def mapUpRows (f : Expr → Expr) : List (List Expr) → List (List Expr)
  | [] => []
  | row :: rest => mapUpList f row :: mapUpRows f rest

def Call.mapUp (f : Expr → Expr) : Call → Call
  | ⟨name, args, filter, window, withinGroup⟩ =>
    ⟨name, args.mapUp f, mapUpOption f filter, mapUpList f window, mapUpList f withinGroup⟩

def CallArgs.mapUp (f : Expr → Expr) : CallArgs → CallArgs
  | .none => .none
  | .list args clauses => .list (mapUpArgs f args) (mapUpList f clauses)
  | .query q => .query (q.mapUp f)

def mapUpArgs (f : Expr → Expr) : List Arg → List Arg
  | [] => []
  | .positional value :: rest => .positional (mapUpOption f value) :: mapUpArgs f rest
  | .named value :: rest => .named (mapUpOption f value) :: mapUpArgs f rest
  | .labelled label value :: rest => .labelled (label.mapUp f) (mapUpOption f value) :: mapUpArgs f rest

def Query.mapUp (f : Expr → Expr) : Query → Query
  | ⟨recursive, ctes, body, orderBy, limit, offset, fetch⟩ =>
    ⟨recursive, mapUpCtes f ctes, body.mapUp f, mapUpList f orderBy, mapUpOption f limit, mapUpOption f offset,
      mapUpOption f fetch⟩

def mapUpCtes (f : Expr → Expr) : List Cte → List Cte
  | [] => []
  | ⟨asName, query⟩ :: rest => ⟨asName, query.mapUp f⟩ :: mapUpCtes f rest

def Body.mapUp (f : Expr → Expr) : Body → Body
  | .select s => .select (s.mapUp f)
  | .query q => .query (q.mapUp f)
  | .setOperation left right => .setOperation (left.mapUp f) (right.mapUp f)
  | .values rows => .values (mapUpRows f rows)
  | .insert i => .insert (i.mapUp f)
  | .update u => .update (u.mapUp f)
  | .table => .table

def Select.mapUp (f : Expr → Expr) : Select → Select
  | ⟨head, items, tables, views, selection, groupBy, sorting, having, windows, qualify⟩ =>
    ⟨mapUpList f head, mapUpItems f items, mapUpTables f tables, mapUpList f views, mapUpOption f selection,
      mapUpList f groupBy, mapUpList f sorting, mapUpOption f having, mapUpList f windows, mapUpOption f qualify⟩

def mapUpItems (f : Expr → Expr) : List Item → List Item
  | [] => []
  | .expr value :: rest => .expr (value.mapUp f) :: mapUpItems f rest
  | .aliased value asName :: rest => .aliased (value.mapUp f) asName :: mapUpItems f rest
  | .wildcard extent :: rest => .wildcard extent :: mapUpItems f rest
  | .qualified name extent :: rest => .qualified name extent :: mapUpItems f rest

def FromItem.mapUp (f : Expr → Expr) : FromItem → FromItem
  | ⟨relation, joins⟩ => ⟨relation.mapUp f, mapUpJoins f joins⟩

def mapUpTables (f : Expr → Expr) : List FromItem → List FromItem
  | [] => []
  | item :: rest => item.mapUp f :: mapUpTables f rest

def mapUpJoins (f : Expr → Expr) : List Join → List Join
  | [] => []
  | ⟨relation, kind, on, shared, hidden⟩ :: rest =>
    ⟨relation.mapUp f, kind, mapUpOption f on, shared, mapUpList f hidden⟩ :: mapUpJoins f rest

def Relation.mapUp (f : Expr → Expr) : Relation → Relation
  | .table name asName hints => .table name asName (mapUpList f hints)
  | .function name operands asName => .function name (mapUpList f operands) asName
  | .derived lateral query asName => .derived lateral (query.mapUp f) asName
  | .joined inner asName => .joined (inner.mapUp f) asName
  | .hidden operands => .hidden (mapUpList f operands)
  | .pivoted inner operands => .pivoted (inner.mapUp f) (mapUpList f operands)

def Insert.mapUp (f : Expr → Expr) : Insert → Insert
  | ⟨table, columns, source, partitions, updates, updateWhere, returning⟩ =>
    ⟨table, columns, mapUpSource f source, mapUpList f partitions, mapUpAssignments f updates,
      mapUpOption f updateWhere, mapUpItems f returning⟩

def mapUpSource (f : Expr → Expr) : Option Query → Option Query
  | none => none
  | some query => some (query.mapUp f)

def Update.mapUp (f : Expr → Expr) : Update → Update
  | ⟨table, assignments, tables, selection, returning⟩ =>
    ⟨table.mapUp f, mapUpAssignments f assignments, mapUpTable f tables, mapUpOption f selection,
      mapUpItems f returning⟩

def mapUpTable (f : Expr → Expr) : Option FromItem → Option FromItem
  | none => none
  | some item => some (item.mapUp f)

def mapUpAssignments (f : Expr → Expr) : List Assignment → List Assignment
  | [] => []
  | ⟨target, value⟩ :: rest => ⟨target, value.mapUp f⟩ :: mapUpAssignments f rest

end

/-- Replaces every expression in a statement that can be compiled, operands first. -/
def Statement.mapUp (f : Expr → Expr) : Statement → Statement
  | .query q => .query (q.mapUp f)
  | .insert i => .insert (i.mapUp f)
  | .update u => .update (u.mapUp f)
  | .delete d => .delete {
      tables := mapUpTables f d.tables
      others := mapUpTables f d.others
      selection := mapUpOption f d.selection
      returning := mapUpItems f d.returning
      orderBy := mapUpList f d.orderBy
      limit := mapUpOption f d.limit }
  | .truncate partitions => .truncate (mapUpList f partitions)
  | statement => statement

end AnnotatedSql.Sql
