import AnnotatedSql.Sql.Walk

/-!
Placeholders under other spellings. A tree keeps its shape when its placeholders are respelled, so a walk over all of
its expressions meets the same ones as before, each with its placeholders respelled (`Expr.all_respell`).
-/
namespace AnnotatedSql.Sql

/-- The text of a placeholder. -/
def Expr.placeholder? : Expr → Option String
  | .literal (.placeholder spelling) => some spelling
  | _ => none

/-- The texts of the placeholders among expressions. -/
def placeholdersAmong (exprs : List Expr) : List String :=
  exprs.filterMap Expr.placeholder?

/-- The texts of all placeholders of a statement that can be compiled. -/
def Statement.placeholders (statement : Statement) : List String :=
  placeholdersAmong statement.all

/-- Gives a placeholder its new spelling. Other expressions are left alone, operands included. -/
def respelling (respell : String → String) : Expr → Expr
  | .literal (.placeholder spelling) => .literal (.placeholder (respell spelling))
  | value => value

/-- The statement with a new spelling for each of its placeholders. -/
def Statement.respell (respell : String → String) (statement : Statement) : Statement :=
  statement.mapUp (respelling respell)

variable (respell : String → String)

/-- What is a list of images part by part is one as a whole. -/
theorem append_eq_map {α β : Type} {f : α → β} {values others : List α} {images otherImages : List β}
    (hvalues : images = values.map f) (hothers : otherImages = others.map f) :
    images ++ otherImages = (values ++ others).map f := by
  rw [hvalues, hothers, List.map_append]

mutual

/-- Respelling and listing the expressions inside can be exchanged. -/
theorem Expr.all_respell (value : Expr) :
    (value.mapUp (respelling respell)).all = value.all.map (·.mapUp (respelling respell)) := by
  cases value with
  | ident name => rfl
  | path parts => rfl
  | typed type => rfl
  | literal value => cases value <;> rfl
  | nested inner => exact congrArg (List.cons _) inner.all_respell
  | tuple items => exact congrArg (List.cons _) (allOfList_respell items)
  | binary left op right => exact append_eq_map (congrArg (List.cons _) left.all_respell) right.all_respell
  | unary op operand => exact congrArg (List.cons _) operand.all_respell
  | quantified left right => exact append_eq_map (congrArg (List.cons _) left.all_respell) right.all_respell
  | test operand => exact congrArg (List.cons _) operand.all_respell
  | distinct left right => exact append_eq_map (congrArg (List.cons _) left.all_respell) right.all_respell
  | inList operand items =>
    exact append_eq_map (congrArg (List.cons _) operand.all_respell) (allOfList_respell items)
  | inQuery operand query => exact append_eq_map (congrArg (List.cons _) operand.all_respell) query.all_respell
  | between operand low high =>
    exact append_eq_map (append_eq_map (congrArg (List.cons _) operand.all_respell) low.all_respell) high.all_respell
  | like operand pattern => exact append_eq_map (congrArg (List.cons _) operand.all_respell) pattern.all_respell
  | cast operand type => exact congrArg (List.cons _) operand.all_respell
  | call call => exact congrArg (List.cons _) call.all_respell
  | case operand conditions results otherwise =>
    exact append_eq_map (append_eq_map (append_eq_map (congrArg (List.cons _) (allOfOption_respell operand))
      (allOfList_respell conditions)) (allOfList_respell results)) (allOfOption_respell otherwise)
  | subquery query => exact congrArg (List.cons _) query.all_respell
  | «exists» query => exact congrArg (List.cons _) query.all_respell
  | interval value => exact congrArg (List.cons _) value.all_respell
  | form operands => exact congrArg (List.cons _) (allOfList_respell operands)
termination_by structural value

theorem allOfList_respell (values : List Expr) :
    allOfList (mapUpList (respelling respell) values) = (allOfList values).map (·.mapUp (respelling respell)) := by
  cases values with
  | nil => rfl
  | cons value rest => exact append_eq_map value.all_respell (allOfList_respell rest)
termination_by structural values

theorem allOfOption_respell (value : Option Expr) :
    allOfOption (mapUpOption (respelling respell) value) = (allOfOption value).map (·.mapUp (respelling respell)) := by
  cases value with
  | none => rfl
  | some value => exact value.all_respell
termination_by structural value

theorem allOfRows_respell (rows : List (List Expr)) :
    allOfRows (mapUpRows (respelling respell) rows) = (allOfRows rows).map (·.mapUp (respelling respell)) := by
  cases rows with
  | nil => rfl
  | cons row rest => exact append_eq_map (allOfList_respell row) (allOfRows_respell rest)
termination_by structural rows

theorem Call.all_respell (call : Call) :
    (call.mapUp (respelling respell)).all = call.all.map (·.mapUp (respelling respell)) := by
  obtain ⟨name, args, filter, window, withinGroup⟩ := call
  exact append_eq_map (append_eq_map (append_eq_map args.all_respell (allOfOption_respell filter))
    (allOfList_respell window)) (allOfList_respell withinGroup)
termination_by structural call

theorem CallArgs.all_respell (args : CallArgs) :
    (args.mapUp (respelling respell)).all = args.all.map (·.mapUp (respelling respell)) := by
  cases args with
  | none => rfl
  | list args clauses => exact append_eq_map (allOfArgs_respell args) (allOfList_respell clauses)
  | query query => exact query.all_respell
termination_by structural args

theorem allOfArgs_respell (args : List Arg) :
    allOfArgs (mapUpArgs (respelling respell) args) = (allOfArgs args).map (·.mapUp (respelling respell)) := by
  match args with
  | [] => rfl
  | .positional value :: rest => exact append_eq_map (allOfOption_respell value) (allOfArgs_respell rest)
  | .named value :: rest => exact append_eq_map (allOfOption_respell value) (allOfArgs_respell rest)
  | .labelled label value :: rest =>
    exact append_eq_map (append_eq_map label.all_respell (allOfOption_respell value)) (allOfArgs_respell rest)
termination_by structural args

theorem Query.all_respell (query : Query) :
    (query.mapUp (respelling respell)).all = query.all.map (·.mapUp (respelling respell)) := by
  obtain ⟨recursive, ctes, body, orderBy, limit, offset, fetch⟩ := query
  exact append_eq_map (append_eq_map (append_eq_map (append_eq_map (append_eq_map (allOfCtes_respell ctes)
    body.all_respell) (allOfList_respell orderBy)) (allOfOption_respell limit)) (allOfOption_respell offset))
    (allOfOption_respell fetch)
termination_by structural query

theorem allOfCtes_respell (ctes : List Cte) :
    allOfCtes (mapUpCtes (respelling respell) ctes) = (allOfCtes ctes).map (·.mapUp (respelling respell)) := by
  match ctes with
  | [] => rfl
  | ⟨asName, query⟩ :: rest => exact append_eq_map query.all_respell (allOfCtes_respell rest)
termination_by structural ctes

theorem Body.all_respell (body : Body) :
    (body.mapUp (respelling respell)).all = body.all.map (·.mapUp (respelling respell)) := by
  cases body with
  | select select => exact select.all_respell
  | query query => exact query.all_respell
  | setOperation left right => exact append_eq_map left.all_respell right.all_respell
  | values rows => exact allOfRows_respell rows
  | insert insert => exact insert.all_respell
  | update update => exact update.all_respell
  | table => rfl
termination_by structural body

theorem Select.all_respell (select : Select) :
    (select.mapUp (respelling respell)).all = select.all.map (·.mapUp (respelling respell)) := by
  obtain ⟨head, items, tables, views, selection, groupBy, sorting, having, windows, qualify⟩ := select
  exact append_eq_map (append_eq_map (append_eq_map (append_eq_map (append_eq_map (append_eq_map (append_eq_map
    (append_eq_map (append_eq_map (allOfList_respell head) (allOfItems_respell items)) (allOfTables_respell tables))
    (allOfList_respell views)) (allOfOption_respell selection)) (allOfList_respell groupBy))
    (allOfList_respell sorting)) (allOfOption_respell having)) (allOfList_respell windows))
    (allOfOption_respell qualify)
termination_by structural select

theorem allOfItems_respell (items : List Item) :
    allOfItems (mapUpItems (respelling respell) items) = (allOfItems items).map (·.mapUp (respelling respell)) := by
  match items with
  | [] => rfl
  | .expr value :: rest => exact append_eq_map value.all_respell (allOfItems_respell rest)
  | .aliased value asName :: rest => exact append_eq_map value.all_respell (allOfItems_respell rest)
  | .wildcard extent :: rest => exact allOfItems_respell rest
  | .qualified name extent :: rest => exact allOfItems_respell rest
termination_by structural items

theorem FromItem.all_respell (item : FromItem) :
    (item.mapUp (respelling respell)).all = item.all.map (·.mapUp (respelling respell)) := by
  obtain ⟨relation, joins⟩ := item
  exact append_eq_map relation.all_respell (allOfJoins_respell joins)
termination_by structural item

theorem allOfTables_respell (tables : List FromItem) :
    allOfTables (mapUpTables (respelling respell) tables) =
      (allOfTables tables).map (·.mapUp (respelling respell)) := by
  cases tables with
  | nil => rfl
  | cons item rest => exact append_eq_map item.all_respell (allOfTables_respell rest)
termination_by structural tables

theorem allOfJoins_respell (joins : List Join) :
    allOfJoins (mapUpJoins (respelling respell) joins) = (allOfJoins joins).map (·.mapUp (respelling respell)) := by
  match joins with
  | [] => rfl
  | ⟨relation, kind, on, shared, hidden⟩ :: rest =>
    exact append_eq_map (append_eq_map (append_eq_map relation.all_respell (allOfOption_respell on))
      (allOfList_respell hidden)) (allOfJoins_respell rest)
termination_by structural joins

theorem Relation.all_respell (relation : Relation) :
    (relation.mapUp (respelling respell)).all = relation.all.map (·.mapUp (respelling respell)) := by
  cases relation with
  | table name asName hints => exact allOfList_respell hints
  | function name operands asName => exact allOfList_respell operands
  | derived lateral query asName => exact query.all_respell
  | joined inner asName => exact inner.all_respell
  | hidden operands => exact allOfList_respell operands
  | pivoted inner operands => exact append_eq_map inner.all_respell (allOfList_respell operands)
termination_by structural relation

theorem Insert.all_respell (insert : Insert) :
    (insert.mapUp (respelling respell)).all = insert.all.map (·.mapUp (respelling respell)) := by
  obtain ⟨table, columns, source, partitions, updates, updateWhere, returning⟩ := insert
  exact append_eq_map (append_eq_map (append_eq_map (append_eq_map (allOfSource_respell source)
    (allOfList_respell partitions)) (allOfAssignments_respell updates)) (allOfOption_respell updateWhere))
    (allOfItems_respell returning)
termination_by structural insert

theorem allOfSource_respell (source : Option Query) :
    allOfSource (mapUpSource (respelling respell) source) =
      (allOfSource source).map (·.mapUp (respelling respell)) := by
  cases source with
  | none => rfl
  | some query => exact query.all_respell
termination_by structural source

theorem Update.all_respell (update : Update) :
    (update.mapUp (respelling respell)).all = update.all.map (·.mapUp (respelling respell)) := by
  obtain ⟨table, assignments, tables, selection, returning⟩ := update
  exact append_eq_map (append_eq_map (append_eq_map (append_eq_map table.all_respell
    (allOfAssignments_respell assignments)) (allOfTable_respell tables)) (allOfOption_respell selection))
    (allOfItems_respell returning)
termination_by structural update

theorem allOfTable_respell (table : Option FromItem) :
    allOfTable (mapUpTable (respelling respell) table) = (allOfTable table).map (·.mapUp (respelling respell)) := by
  cases table with
  | none => rfl
  | some item => exact item.all_respell
termination_by structural table

theorem allOfAssignments_respell (given : List Assignment) :
    allOfAssignments (mapUpAssignments (respelling respell) given) =
      (allOfAssignments given).map (·.mapUp (respelling respell)) := by
  match given with
  | [] => rfl
  | ⟨target, value⟩ :: rest => exact append_eq_map value.all_respell (allOfAssignments_respell rest)
termination_by structural given

end

theorem placeholdersAmong_append (exprs others : List Expr) :
    placeholdersAmong (exprs ++ others) = placeholdersAmong exprs ++ placeholdersAmong others :=
  List.filterMap_append

/-- Respelled expressions have respelled placeholders among them, and no others. -/
theorem placeholdersAmong_respell (exprs : List Expr) :
    placeholdersAmong (exprs.map (·.mapUp (respelling respell))) = (placeholdersAmong exprs).map respell := by
  rw [placeholdersAmong, placeholdersAmong, List.filterMap_map, List.map_filterMap]
  congr 1
  funext value
  cases value with
  | literal value => cases value <;> rfl
  | _ => rfl

theorem length_mapUpList (f : Expr → Expr) (values : List Expr) : (mapUpList f values).length = values.length := by
  induction values with
  | nil => rfl
  | cons value rest ih => exact congrArg (· + 1) ih

theorem length_mapUpArgs (f : Expr → Expr) (args : List Arg) : (mapUpArgs f args).length = args.length := by
  induction args with
  | nil => rfl
  | cons arg rest ih => cases arg <;> exact congrArg (· + 1) ih

/-- Respelling turns nothing into a tuple. -/
theorem Expr.exists_tuple_of_respell {value : Expr} {items : List Expr}
    (htuple : value.mapUp (respelling respell) = .tuple items) : ∃ originals, value = .tuple originals := by
  cases value with
  | tuple originals => exact ⟨originals, rfl⟩
  | literal value => cases value <;> cases htuple
  | _ => cases htuple

end AnnotatedSql.Sql
