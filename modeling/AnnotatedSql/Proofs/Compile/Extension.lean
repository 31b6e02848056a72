import AnnotatedSql.Compile.Output
import AnnotatedSql.Proofs.Catalog.Keyed
import Mathlib.Data.List.Basic

/-!
Views that know more. The relations that a query takes from outside are its outer names; a view with the same meaning
for these, and with a catalog that has at least the same tables, gives the query the same columns
(`View.queryColumns_follows`). Range variables that are visible further out do not change them either.
-/
namespace AnnotatedSql

open Sql (Arg Body Call CallArgs Cte Expr FromItem Item Join Literal ObjectName Relation Select Statement)

/-- The second computation gives what the first one gives, unless the first one fails. -/
def Follows {α : Type} (part other : Except Error α) : Prop :=
  ∀ result, part = .ok result → other = .ok result

namespace Follows

variable {α β : Type} {part other : Except Error α} {rest otherRest : α → Except Error β}

theorem refl (part : Except Error α) : Follows part part :=
  fun _ h => h

/-- Steps that follow one another, the first of which gives something else in the second computation. -/
theorem bind_of {γ : Type} {wider : Except Error γ} {widerRest : γ → Except Error β}
    (hpart : ∀ value, part = .ok value → ∃ wide, wider = .ok wide ∧ Follows (rest value) (widerRest wide)) :
    Follows (part >>= rest) (wider >>= widerRest) := by
  intro result hresult
  cases part with
  | error error => cases hresult
  | ok value =>
    obtain ⟨wide, hwide, hrest⟩ := hpart value rfl
    rw [hwide]
    exact hrest result hresult

theorem bind (hpart : Follows part other) (hrest : ∀ result, Follows (rest result) (otherRest result)) :
    Follows (part >>= rest) (other >>= otherRest) :=
  bind_of fun value hvalue => ⟨value, hpart value hvalue, hrest value⟩

end Follows

/-- The name under which a relation is looked up among common table expressions; none for a name with a schema. -/
def Sql.ObjectName.outerNames (name : ObjectName) : List String :=
  if name.qualified.schema.isNone then [Text.toLower name.qualified.name] else []

/-- The name under which a common table expression is known. -/
def Sql.Cte.key (cte : Cte) : String :=
  Text.toLower cte.asName.name.value

mutual

/-- The names of the relations that an expression takes from outside. -/
def Sql.Expr.outerNames : Expr → List String
  | .nested inner => inner.outerNames
  | .binary left _ right => left.outerNames ++ right.outerNames
  | .quantified left right => left.outerNames ++ right.outerNames
  | .inList operand items => operand.outerNames ++ namesOfExprs items
  | .inQuery operand query => operand.outerNames ++ query.outerNames false
  | .between operand low high => operand.outerNames ++ low.outerNames ++ high.outerNames
  | .like operand pattern => operand.outerNames ++ pattern.outerNames
  | .cast operand _ => operand.outerNames
  | .call call => call.outerNames
  | .case operand conditions results otherwise =>
    namesOfOption operand ++ namesOfExprs conditions ++ namesOfExprs results ++ namesOfOption otherwise
  | .subquery query => query.outerNames false
  | .exists query => query.outerNames false
  | .unary _ operand => operand.outerNames
  | .test operand => operand.outerNames
  | .tuple items => namesOfExprs items
  | .ident _ | .path _ | .literal _ | .typed _ | .distinct _ _ | .interval _ | .form _ => []

def namesOfExprs : List Expr → List String
  | [] => []
  | value :: rest => value.outerNames ++ namesOfExprs rest

def namesOfOption : Option Expr → List String
  | none => []
  | some value => value.outerNames

def Sql.Call.outerNames : Call → List String
  | ⟨_, args, filter, _, _⟩ => args.outerNames ++ namesOfOption filter

def Sql.CallArgs.outerNames : CallArgs → List String
  | .none => []
  | .list args _ => namesOfArgs args
  | .query query => query.outerNames false

def namesOfArgs : List Arg → List String
  | [] => []
  | .positional value :: rest => namesOfOption value ++ namesOfArgs rest
  | .named value :: rest => namesOfOption value ++ namesOfArgs rest
  | .labelled _ value :: rest => namesOfOption value ++ namesOfArgs rest

/-- The names of the relations that a query takes from outside. Of a recursive term only the part before the set
    operator counts, as for its columns. -/
def Sql.Query.outerNames (recursiveTerm : Bool) : Sql.Query → List String
  | ⟨recursive, ctes, body, orderBy, limit, offset, _⟩ =>
    match recursiveTerm, body with
    | true, .setOperation left _ => left.outerNames
    | _, body =>
      namesOfCtes recursive (body.outerNames ++ namesOfTerms ctes ++ namesOfExprs orderBy ++ namesOfOption limit ++
        namesOfOption offset) ctes

/-- The names that common table expressions leave to the outside, and with them those of what follows, which sees all
    of the expressions. Each expression sees those before it. -/
def namesOfCtes (recursive : Bool) (following : List String) : List Cte → List String
  | [] => following
  | ⟨asName, query⟩ :: rest =>
    query.outerNames recursive ++
      (namesOfCtes recursive following rest).filter (· != Text.toLower asName.name.value)

/-- The names in the queries of common table expressions. -/
def namesOfTerms : List Cte → List String
  | [] => []
  | ⟨_, query⟩ :: rest => query.outerNames false ++ namesOfTerms rest

def Sql.Body.outerNames : Body → List String
  | .select select => select.outerNames
  | .query query => query.outerNames false
  | .setOperation left right => left.outerNames ++ right.outerNames
  | .values rows => namesOfRows rows
  | .insert _ | .update _ | .table => []

def namesOfRows : List (List Expr) → List String
  | [] => []
  | row :: rest => namesOfExprs row ++ namesOfRows rest

def Sql.Select.outerNames : Select → List String
  | ⟨_, items, tables, _, selection, groupBy, _, having, _, qualify⟩ =>
    namesOfItems items ++ namesOfTables tables ++ namesOfOption selection ++ namesOfExprs groupBy ++
      namesOfOption having ++ namesOfOption qualify

def namesOfItems : List Item → List String
  | [] => []
  | .expr value :: rest => value.outerNames ++ namesOfItems rest
  | .aliased value _ :: rest => value.outerNames ++ namesOfItems rest
  | .wildcard _ :: rest => namesOfItems rest
  | .qualified _ _ :: rest => namesOfItems rest

def namesOfTables : List FromItem → List String
  | [] => []
  | item :: rest => item.outerNames ++ namesOfTables rest

def Sql.FromItem.outerNames : FromItem → List String
  | ⟨relation, joins⟩ => relation.outerNames ++ namesOfJoins joins

def namesOfJoins : List Join → List String
  | [] => []
  | ⟨relation, _, on, _, _⟩ :: rest => relation.outerNames ++ namesOfOption on ++ namesOfJoins rest

def Sql.Relation.outerNames : Relation → List String
  | .table name _ _ => name.outerNames
  | .derived _ query _ => query.outerNames false
  | .joined inner _ => inner.outerNames
  | .function _ _ _ | .hidden _ | .pivoted _ _ => []

end

/-- A catalog with at least the same tables, and with the same enum types and functions. -/
structure Catalog.Extends (catalog wider : Catalog) : Prop where
  defaultSchema : wider.defaultSchema = catalog.defaultSchema
  tables : ∀ {name table}, catalog.table? name = some table → wider.table? name = some table
  enums : ∀ name, wider.enum? name = catalog.enum? name
  functions : ∀ name, wider.functions name = catalog.functions name

theorem Catalog.Extends.refl (catalog : Catalog) : catalog.Extends catalog :=
  ⟨rfl, id, fun _ => rfl, fun _ => rfl⟩

/-- A column of a table is the same in both catalogs. -/
theorem Catalog.Extends.ofDef {catalog wider : Catalog} (hcatalog : catalog.Extends wider) :
    Column.ofDef wider = Column.ofDef catalog := by
  funext table column
  simp [Column.ofDef, Column.enumRef?, Catalog.schemaName, hcatalog.defaultSchema, hcatalog.enums]

/-- A catalog with one table of users, from which the examples of this theory start. -/
def usersOnly : Catalog :=
  (Catalog.empty "public").addTable {
    name := ⟨none, "users"⟩
    columns := [("id", .ofType "id" .integer), ("name", .ofType "name" .text)] }

/-- A view of a catalog with at least the same tables, where some names mean the same common table expressions. -/
structure View.Extends (view wider : View) (names : List String) : Prop where
  catalog : view.catalog.Extends wider.catalog
  dialect : wider.dialect = view.dialect
  ctes : ∀ name ∈ names, wider.ctes.get? name = view.ctes.get? name

namespace View.Extends

variable {view wider : View} {names others : List String}

theorem of_subset (hview : view.Extends wider names) (hsubset : others ⊆ names) : view.Extends wider others :=
  ⟨hview.catalog, hview.dialect, fun name hname => hview.ctes name (hsubset hname)⟩

theorem left (hview : view.Extends wider (names ++ others)) : view.Extends wider names :=
  hview.of_subset (List.subset_append_left names others)

theorem right (hview : view.Extends wider (names ++ others)) : view.Extends wider others :=
  hview.of_subset (List.subset_append_right names others)

end View.Extends

/-- A scope in which every reference that has a meaning keeps it. -/
def Scope.Extends (scope wider : Scope) : Prop :=
  ∀ qualifier name, Follows (scope.lookup qualifier name) (wider.lookup qualifier name)

theorem Scope.Extends.refl (scope : Scope) : scope.Extends scope :=
  fun _ _ => .refl _

theorem Scope.Extends.cons {scope wider : Scope} (hscope : scope.Extends wider) (frame : Frame) :
    Scope.Extends (frame :: scope) (frame :: wider) := by
  intro qualifier name column hcolumn
  cases qualifier with
  | some qualifier =>
    simp only [lookup] at hcolumn ⊢
    cases hvar : frame.var? qualifier with
    | none =>
      rw [hvar] at hcolumn
      exact hscope _ _ column hcolumn
    | some var =>
      rw [hvar] at hcolumn
      exact hcolumn
  | none =>
    simp only [lookup] at hcolumn ⊢
    cases hfound : frame.vars.filterMap (·.column? name) with
    | nil =>
      rw [hfound] at hcolumn
      exact hscope _ _ column hcolumn
    | cons first rest =>
      rw [hfound] at hcolumn
      cases rest <;> exact hcolumn

namespace View.Extends

variable {view wider : View} {names : List String}

/-- A relation that one of the names means is the same in both views. -/
theorem relation {name : ObjectName} (hview : view.Extends wider name.outerNames) (asName : Option Sql.Alias) :
    Follows (view.relation name asName) (wider.relation name asName) := by
  intro var hvar
  have hctes : (if name.qualified.schema.isNone then wider.ctes.get? (Text.toLower name.qualified.name) else none) =
      if name.qualified.schema.isNone then view.ctes.get? (Text.toLower name.qualified.name) else none := by
    split
    · next hnone => exact hview.ctes _ (by simp [Sql.ObjectName.outerNames, hnone])
    · rfl
  unfold View.relation at hvar ⊢
  simp only [hctes] at hvar ⊢
  split at hvar
  · exact hvar
  · split at hvar
    · next table htable =>
      simp only [hview.catalog.tables htable, View.tableVar, hview.catalog.ofDef] at hvar ⊢
      exact hvar
    · cases hvar

/-- A common table expression that is added to both views means the same in them. -/
theorem addCte {asName : Sql.Alias} (hview : view.Extends wider (names.filter (· != Text.toLower asName.name.value)))
    (columns : List Column) : (view.addCte asName columns).Extends (wider.addCte asName columns) names := by
  refine ⟨hview.catalog, hview.dialect, fun name hname => ?_⟩
  simp only [View.addCte, Keyed.get?_insert]
  split
  · rfl
  · next hne => exact hview.ctes name (List.mem_filter.2 ⟨hname, by simpa using hne⟩)

theorem callColumn (hview : view.Extends wider names) : wider.callColumn = view.callColumn := by
  funext name count args
  simp only [View.callColumn, hview.dialect, hview.catalog.functions]

end View.Extends

mutual

theorem View.withCtes_follows {view wider : View} {outer widerOuter : Scope} (hscope : outer.Extends widerOuter)
    (recursive : Bool) (following : List String) (ctes : List Cte)
    (hview : view.Extends wider (namesOfCtes recursive following ctes)) {inner : View}
    (hinner : view.withCtes recursive outer ctes = .ok inner) :
    ∃ widerInner, wider.withCtes recursive widerOuter ctes = .ok widerInner ∧ inner.Extends widerInner following := by
  match ctes with
  | [] =>
    cases hinner
    exact ⟨wider, rfl, hview⟩
  | ⟨asName, query⟩ :: rest =>
    cases hcolumns : view.queryColumns recursive outer query with
    | error error => simp [View.withCtes, hcolumns, bind, Except.bind] at hinner
    | ok columns =>
      have hsame := View.queryColumns_follows hscope recursive query hview.left columns hcolumns
      rw [View.withCtes, hcolumns] at hinner
      rw [View.withCtes, hsame]
      exact View.withCtes_follows hscope recursive following rest (hview.right.addCte columns) hinner
termination_by structural ctes

theorem View.queryColumns_follows {view wider : View} {outer widerOuter : Scope} (hscope : outer.Extends widerOuter)
    (recursiveTerm : Bool) (query : Sql.Query) (hview : view.Extends wider (query.outerNames recursiveTerm)) :
    Follows (view.queryColumns recursiveTerm outer query) (wider.queryColumns recursiveTerm widerOuter query) := by
  match query with
  | ⟨recursive, ctes, body, orderBy, limit, offset, _⟩ =>
    have hwhole : view.Extends wider (namesOfCtes recursive (body.outerNames ++ namesOfTerms ctes ++
        namesOfExprs orderBy ++ namesOfOption limit ++ namesOfOption offset) ctes) →
        Follows (do (← view.withCtes recursive outer ctes).bodyColumns outer body)
          (do (← wider.withCtes recursive widerOuter ctes).bodyColumns widerOuter body) := by
      intro hview
      refine Follows.bind_of fun inner hinner => ?_
      obtain ⟨widerInner, hwider, hnames⟩ := View.withCtes_follows hscope recursive _ ctes hview hinner
      exact ⟨widerInner, hwider, View.bodyColumns_follows hscope body hnames.left.left.left.left⟩
    match recursiveTerm, body with
    | true, .setOperation left _ => exact View.bodyColumns_follows hscope left hview
    | false, _ => exact hwhole hview
    | true, .select _ | true, .query _ | true, .values _ | true, .insert _ | true, .update _ | true, .table =>
      exact hwhole hview
termination_by structural query

theorem View.bodyColumns_follows {view wider : View} {outer widerOuter : Scope} (hscope : outer.Extends widerOuter)
    (body : Body) (hview : view.Extends wider body.outerNames) :
    Follows (view.bodyColumns outer body) (wider.bodyColumns widerOuter body) := by
  match body with
  | .select select => exact View.selectColumns_follows hscope select hview
  | .query query => exact View.queryColumns_follows hscope false query hview
  | .setOperation left right =>
    exact (View.bodyColumns_follows hscope left hview.left).bind fun _ =>
      (View.bodyColumns_follows hscope right hview.right).bind fun _ => .refl _
  | .values [] => exact .refl _
  | .values (row :: rest) => exact View.valueColumns_follows hscope 1 row hview.left
  | .insert _ | .update _ | .table => exact .refl _
termination_by structural body

theorem View.valueColumns_follows {view wider : View} {scope widerScope : Scope} (hscope : scope.Extends widerScope)
    (place : Nat) (values : List Expr) (hview : view.Extends wider (namesOfExprs values)) :
    Follows (view.valueColumns scope place values) (wider.valueColumns widerScope place values) := by
  match values with
  | [] => exact .refl _
  | value :: rest =>
    exact (View.exprColumn_follows hscope value hview.left).bind fun _ =>
      (View.valueColumns_follows hscope (place + 1) rest hview.right).bind fun _ => .refl _
termination_by structural values

theorem View.selectColumns_follows {view wider : View} {outer widerOuter : Scope} (hscope : outer.Extends widerOuter)
    (select : Select) (hview : view.Extends wider select.outerNames) :
    Follows (view.selectColumns outer select) (wider.selectColumns widerOuter select) := by
  match select with
  | ⟨_, items, tables, _, _, _, _, _, _, _⟩ =>
    have hitems : view.Extends wider (namesOfItems items) := hview.left.left.left.left.left
    have htables : view.Extends wider (namesOfTables tables) := hview.left.left.left.left.right
    exact (View.frame_follows hscope {} tables htables).bind fun frame =>
      View.itemColumns_follows (hscope.cons frame) rfl 0 items hitems
termination_by structural select

/-- Wildcards stand for the columns of the innermost frame, which has to be the same. -/
theorem View.itemColumns_follows {view wider : View} {scope widerScope : Scope} (hscope : scope.Extends widerScope)
    (hhead : widerScope.head? = scope.head?) (count : Nat) (items : List Item)
    (hview : view.Extends wider (namesOfItems items)) :
    Follows (view.itemColumns scope count items) (wider.itemColumns widerScope count items) := by
  match items with
  | [] => exact .refl _
  | .expr value :: rest =>
    exact (View.exprColumn_follows hscope value hview.left).bind fun _ =>
      (View.itemColumns_follows hscope hhead (count + 1) rest hview.right).bind fun _ => .refl _
  | .aliased value asName :: rest =>
    exact (View.exprColumn_follows hscope value hview.left).bind fun _ =>
      (View.itemColumns_follows hscope hhead (count + 1) rest hview.right).bind fun _ => .refl _
  | .wildcard _ :: rest =>
    rw [View.itemColumns, View.itemColumns, hhead]
    exact (View.itemColumns_follows hscope hhead _ rest hview).bind fun _ => .refl _
  | .qualified name _ :: rest =>
    rw [View.itemColumns, View.itemColumns, hhead]
    cases scope.head?.bind (·.var? ((name.getLast?.map Sql.Ident.value).getD "")) with
    | none => exact .refl _
    | some var => exact (View.itemColumns_follows hscope hhead _ rest hview).bind fun _ => .refl _
termination_by structural items

theorem View.frame_follows {view wider : View} {outer widerOuter : Scope} (hscope : outer.Extends widerOuter)
    (frame : Frame) (items : List FromItem) (hview : view.Extends wider (namesOfTables items)) :
    Follows (view.frame outer frame items) (wider.frame widerOuter frame items) := by
  match items with
  | [] => exact .refl _
  | ⟨relation, joins⟩ :: rest =>
    exact (View.relationVars_follows hscope frame relation hview.left.left).bind fun vars =>
      (View.joinVars_follows hscope frame vars joins hview.left.right).bind fun (_, _) =>
        View.frame_follows hscope _ rest hview.right
termination_by structural items

theorem View.joinVars_follows {view wider : View} {outer widerOuter : Scope} (hscope : outer.Extends widerOuter)
    (frame : Frame) (vars : List RangeVar) (joins : List Join) (hview : view.Extends wider (namesOfJoins joins)) :
    Follows (view.joinVars outer frame vars joins) (wider.joinVars widerOuter frame vars joins) := by
  match joins with
  | [] => exact .refl _
  | ⟨relation, kind, on, shared, _⟩ :: rest =>
    exact (View.relationVars_follows hscope frame relation hview.left.left).bind fun _ =>
      View.joinVars_follows hscope _ _ rest hview.right
termination_by structural joins

theorem View.relationVars_follows {view wider : View} {outer widerOuter : Scope} (hscope : outer.Extends widerOuter)
    (preceding : Frame) (relation : Relation) (hview : view.Extends wider relation.outerNames) :
    Follows (view.relationVars outer preceding relation) (wider.relationVars widerOuter preceding relation) := by
  match relation with
  | .table name asName _ => exact (hview.relation asName).bind fun _ => .refl _
  | .derived lateral query asName =>
    have hinner : Scope.Extends (if lateral then preceding :: outer else outer)
        (if lateral then preceding :: widerOuter else widerOuter) := by
      cases lateral
      · exact hscope
      · exact hscope.cons preceding
    exact (View.queryColumns_follows hinner false query hview).bind fun _ => .refl _
  | .joined inner asName => exact (View.itemFrame_follows hscope inner hview).bind fun _ => .refl _
  | .function _ _ asName => exact .refl _
  | .hidden _ | .pivoted _ _ => exact .refl _
termination_by structural relation

theorem View.itemFrame_follows {view wider : View} {outer widerOuter : Scope} (hscope : outer.Extends widerOuter)
    (item : FromItem) (hview : view.Extends wider item.outerNames) :
    Follows (view.itemFrame outer item) (wider.itemFrame widerOuter item) := by
  match item with
  | ⟨relation, joins⟩ =>
    exact (View.relationVars_follows hscope {} relation hview.left).bind fun vars =>
      (View.joinVars_follows hscope {} vars joins hview.right).bind fun _ => .refl _
termination_by structural item

theorem View.exprColumn_follows {view wider : View} {scope widerScope : Scope} (hscope : scope.Extends widerScope)
    (value : Expr) (hview : view.Extends wider value.outerNames) :
    Follows (view.exprColumn scope value) (wider.exprColumn widerScope value) := by
  match value with
  | .ident name => exact hscope none name.value
  | .path parts => exact hscope _ _
  | .nested inner => exact View.exprColumn_follows hscope inner hview
  | .literal _ | .typed _ | .test _ | .distinct _ _ | .exists _ | .interval _ => exact .refl _
  | .tuple _ | .quantified _ _ | .form _ => exact .refl _
  | .cast operand _ => exact (View.exprColumn_follows hscope operand hview).bind fun _ => .refl _
  | .binary left op right =>
    exact (View.exprColumn_follows hscope left hview.left).bind fun _ =>
      (View.exprColumn_follows hscope right hview.right).bind fun _ => .refl _
  | .unary op operand => exact (View.exprColumn_follows hscope operand hview).bind fun _ => .refl _
  | .inList operand _ => exact (View.exprColumn_follows hscope operand hview.left).bind fun _ => .refl _
  | .inQuery operand _ => exact (View.exprColumn_follows hscope operand hview.left).bind fun _ => .refl _
  | .between operand _ _ => exact (View.exprColumn_follows hscope operand hview.left.left).bind fun _ => .refl _
  | .like operand _ => exact (View.exprColumn_follows hscope operand hview.left).bind fun _ => .refl _
  | .case operand conditions results none =>
    exact (View.exprColumns_follows hscope results hview.left.right).bind fun _ => .refl _
  | .case operand conditions results (some otherwise) =>
    exact (View.exprColumns_follows hscope results hview.left.right).bind fun _ =>
      (View.exprColumn_follows hscope otherwise hview.right).bind fun _ => .refl _
  | .subquery query => exact (View.queryColumns_follows hscope false query hview).bind fun _ => .refl _
  | .call call => exact View.callColumns_follows hscope call hview
termination_by structural value

theorem View.exprColumns_follows {view wider : View} {scope widerScope : Scope} (hscope : scope.Extends widerScope)
    (values : List Expr) (hview : view.Extends wider (namesOfExprs values)) :
    Follows (view.exprColumns scope values) (wider.exprColumns widerScope values) := by
  match values with
  | [] => exact .refl _
  | value :: rest =>
    exact (View.exprColumn_follows hscope value hview.left).bind fun _ =>
      (View.exprColumns_follows hscope rest hview.right).bind fun _ => .refl _
termination_by structural values

theorem View.callColumns_follows {view wider : View} {scope widerScope : Scope} (hscope : scope.Extends widerScope)
    (call : Call) (hview : view.Extends wider call.outerNames) :
    Follows (view.callColumns scope call) (wider.callColumns widerScope call) := by
  match call with
  | ⟨name, .list args _, filter, _, _⟩ =>
    rw [View.callColumns, View.callColumns, hview.callColumn]
    exact (View.argColumns_follows hscope args hview.left).bind fun _ => .refl _
  | ⟨name, .none, _, _, _⟩ | ⟨name, .query _, _, _, _⟩ =>
    simp only [View.callColumns, hview.callColumn]
    exact .refl _
termination_by structural call

theorem View.argColumns_follows {view wider : View} {scope widerScope : Scope} (hscope : scope.Extends widerScope)
    (args : List Arg) (hview : view.Extends wider (namesOfArgs args)) :
    Follows (view.argColumns scope args) (wider.argColumns widerScope args) := by
  match args with
  | [] => exact .refl _
  | .positional none :: rest => exact View.argColumns_follows hscope rest hview.right
  | .named none :: rest => exact View.argColumns_follows hscope rest hview.right
  | .labelled _ none :: rest => exact View.argColumns_follows hscope rest hview.right
  | .positional (some value) :: rest =>
    exact (View.exprColumn_follows hscope value hview.left).bind fun _ =>
      (View.argColumns_follows hscope rest hview.right).bind fun _ => .refl _
  | .named (some value) :: rest =>
    exact (View.exprColumn_follows hscope value hview.left).bind fun _ =>
      (View.argColumns_follows hscope rest hview.right).bind fun _ => .refl _
  | .labelled _ (some value) :: rest =>
    exact (View.exprColumn_follows hscope value hview.left).bind fun _ =>
      (View.argColumns_follows hscope rest hview.right).bind fun _ => .refl _
termination_by structural args

end

end AnnotatedSql
