import AnnotatedSql.Compile.Output
import AnnotatedSql.Proofs.Sql.Respell

/-!
Typing and the spellings of placeholders. A placeholder has no type of its own, however it is spelled, so typing gives
the same columns and the same range variables when placeholders are respelled (`View.withCtes_respell`,
`View.frame_respell`).
-/
namespace AnnotatedSql

open Sql (Arg Body Call CallArgs Cte Expr FromItem Item Join Literal Relation Select respelling)

/-- Steps that are the same one by one are the same together. -/
theorem bind_eq_bind {ε α β : Type} {part other : Except ε α} {rest otherRest : α → Except ε β} (hpart : part = other)
    (hrest : ∀ value, rest value = otherRest value) : part >>= rest = other >>= otherRest := by
  rw [hpart]
  exact bind_congr hrest

variable (respell : String → String)

mutual

theorem View.withCtes_respell (view : View) (recursive : Bool) (outer : Scope) (ctes : List Cte) :
    view.withCtes recursive outer (Sql.mapUpCtes (respelling respell) ctes) = view.withCtes recursive outer ctes := by
  match ctes with
  | [] => rfl
  | ⟨asName, query⟩ :: rest =>
    exact bind_eq_bind (view.queryColumns_respell recursive outer query) fun columns =>
      (view.addCte asName columns).withCtes_respell recursive outer rest
termination_by structural ctes

theorem View.queryColumns_respell (view : View) (recursiveTerm : Bool) (outer : Scope) (query : Sql.Query) :
    view.queryColumns recursiveTerm outer (query.mapUp (respelling respell)) =
      view.queryColumns recursiveTerm outer query := by
  match query with
  | ⟨recursive, ctes, body, _, _, _, _⟩ =>
    have hwhole : (view.withCtes recursive outer (Sql.mapUpCtes (respelling respell) ctes) >>= fun view =>
        view.bodyColumns outer (body.mapUp (respelling respell))) =
        view.withCtes recursive outer ctes >>= fun view => view.bodyColumns outer body :=
      bind_eq_bind (view.withCtes_respell recursive outer ctes) fun view => view.bodyColumns_respell outer body
    match recursiveTerm, body with
    | true, .setOperation left _ => exact view.bodyColumns_respell outer left
    | false, _ => exact hwhole
    | true, .select _ | true, .query _ | true, .values _ | true, .insert _ | true, .update _ | true, .table =>
      exact hwhole
termination_by structural query

theorem View.bodyColumns_respell (view : View) (outer : Scope) (body : Body) :
    view.bodyColumns outer (body.mapUp (respelling respell)) = view.bodyColumns outer body := by
  match body with
  | .select select => exact view.selectColumns_respell outer select
  | .query query => exact view.queryColumns_respell false outer query
  | .setOperation left right =>
    exact bind_eq_bind (view.bodyColumns_respell outer left) fun _ =>
      bind_eq_bind (view.bodyColumns_respell outer right) fun _ => rfl
  | .values [] => rfl
  | .values (row :: rest) => exact view.valueColumns_respell outer 1 row
  | .insert _ | .update _ | .table => rfl
termination_by structural body

theorem View.valueColumns_respell (view : View) (scope : Scope) (place : Nat) (values : List Expr) :
    view.valueColumns scope place (Sql.mapUpList (respelling respell) values) =
      view.valueColumns scope place values := by
  match values with
  | [] => rfl
  | value :: rest =>
    exact bind_eq_bind (view.exprColumn_respell scope value) fun _ =>
      bind_eq_bind (view.valueColumns_respell scope (place + 1) rest) fun _ => rfl
termination_by structural values

theorem View.selectColumns_respell (view : View) (outer : Scope) (select : Select) :
    view.selectColumns outer (select.mapUp (respelling respell)) = view.selectColumns outer select := by
  match select with
  | ⟨_, items, tables, _, _, _, _, _, _, _⟩ =>
    exact bind_eq_bind (view.frame_respell outer {} tables) fun frame =>
      view.itemColumns_respell (frame :: outer) 0 items
termination_by structural select

theorem View.itemColumns_respell (view : View) (scope : Scope) (count : Nat) (items : List Item) :
    view.itemColumns scope count (Sql.mapUpItems (respelling respell) items) = view.itemColumns scope count items := by
  match items with
  | [] => rfl
  | .expr value :: rest =>
    exact bind_eq_bind (view.exprColumn_respell scope value) fun _ =>
      bind_eq_bind (view.itemColumns_respell scope (count + 1) rest) fun _ => rfl
  | .aliased value asName :: rest =>
    exact bind_eq_bind (view.exprColumn_respell scope value) fun _ =>
      bind_eq_bind (view.itemColumns_respell scope (count + 1) rest) fun _ => rfl
  | .wildcard _ :: rest => exact bind_eq_bind (view.itemColumns_respell scope _ rest) fun _ => rfl
  | .qualified name _ :: rest =>
    have hrest := fun count => view.itemColumns_respell scope count rest
    simp only [Sql.mapUpItems, View.itemColumns, hrest]
termination_by structural items

theorem View.frame_respell (view : View) (outer : Scope) (frame : Frame) (tables : List FromItem) :
    view.frame outer frame (Sql.mapUpTables (respelling respell) tables) = view.frame outer frame tables := by
  match tables with
  | [] => rfl
  | ⟨relation, joins⟩ :: rest =>
    exact bind_eq_bind (view.relationVars_respell outer frame relation) fun vars =>
      bind_eq_bind (view.joinVars_respell outer frame vars joins) fun made =>
        view.frame_respell outer { made.1 with vars := made.1.vars ++ made.2 } rest
termination_by structural tables

theorem View.joinVars_respell (view : View) (outer : Scope) (frame : Frame) (vars : List RangeVar)
    (joins : List Join) :
    view.joinVars outer frame vars (Sql.mapUpJoins (respelling respell) joins) =
      view.joinVars outer frame vars joins := by
  match joins with
  | [] => rfl
  | ⟨relation, kind, _, shared, _⟩ :: rest =>
    exact bind_eq_bind (view.relationVars_respell outer frame relation) fun right =>
      view.joinVars_respell outer _ (joinSides kind vars right) rest
termination_by structural joins

theorem View.relationVars_respell (view : View) (outer : Scope) (preceding : Frame) (relation : Relation) :
    view.relationVars outer preceding (relation.mapUp (respelling respell)) =
      view.relationVars outer preceding relation := by
  match relation with
  | .table _ _ _ | .function _ _ _ | .hidden _ | .pivoted _ _ => rfl
  | .derived lateral query asName => exact bind_eq_bind (view.queryColumns_respell false _ query) fun _ => rfl
  | .joined inner asName => exact bind_eq_bind (view.itemFrame_respell outer inner) fun _ => rfl
termination_by structural relation

theorem View.itemFrame_respell (view : View) (outer : Scope) (item : FromItem) :
    view.itemFrame outer (item.mapUp (respelling respell)) = view.itemFrame outer item := by
  match item with
  | ⟨relation, joins⟩ =>
    exact bind_eq_bind (view.relationVars_respell outer {} relation) fun vars =>
      bind_eq_bind (view.joinVars_respell outer {} vars joins) fun _ => rfl
termination_by structural item

theorem View.exprColumn_respell (view : View) (scope : Scope) (value : Expr) :
    view.exprColumn scope (value.mapUp (respelling respell)) = view.exprColumn scope value := by
  match value with
  | .ident _ | .path _ | .typed _ | .test _ | .distinct _ _ | .exists _ | .interval _ | .tuple _ | .quantified _ _
  | .form _ => rfl
  | .literal value => cases value <;> rfl
  | .nested inner => exact view.exprColumn_respell scope inner
  | .cast operand _ | .unary _ operand | .inList operand _ | .inQuery operand _ | .between operand _ _
  | .like operand _ => exact bind_eq_bind (view.exprColumn_respell scope operand) fun _ => rfl
  | .binary left op right =>
    exact bind_eq_bind (view.exprColumn_respell scope left) fun _ =>
      bind_eq_bind (view.exprColumn_respell scope right) fun _ => rfl
  | .case _ _ results none => exact bind_eq_bind (view.exprColumns_respell scope results) fun _ => rfl
  | .case _ _ results (some otherwise) =>
    exact bind_eq_bind (view.exprColumns_respell scope results) fun _ =>
      bind_eq_bind (view.exprColumn_respell scope otherwise) fun _ => rfl
  | .subquery query => exact bind_eq_bind (view.queryColumns_respell false scope query) fun _ => rfl
  | .call call => exact view.callColumns_respell scope call
termination_by structural value

theorem View.exprColumns_respell (view : View) (scope : Scope) (values : List Expr) :
    view.exprColumns scope (Sql.mapUpList (respelling respell) values) = view.exprColumns scope values := by
  match values with
  | [] => rfl
  | value :: rest =>
    exact bind_eq_bind (view.exprColumn_respell scope value) fun _ =>
      bind_eq_bind (view.exprColumns_respell scope rest) fun _ => rfl
termination_by structural values

theorem View.callColumns_respell (view : View) (scope : Scope) (call : Call) :
    view.callColumns scope (call.mapUp (respelling respell)) = view.callColumns scope call := by
  match call with
  | ⟨name, .list args _, _, _, _⟩ =>
    refine bind_eq_bind (view.argColumns_respell scope args) fun columns => ?_
    rw [Sql.length_mapUpArgs]
  | ⟨name, .none, _, _, _⟩ | ⟨name, .query _, _, _, _⟩ => rfl
termination_by structural call

theorem View.argColumns_respell (view : View) (scope : Scope) (args : List Arg) :
    view.argColumns scope (Sql.mapUpArgs (respelling respell) args) = view.argColumns scope args := by
  match args with
  | [] => rfl
  | .positional none :: rest | .named none :: rest | .labelled _ none :: rest =>
    exact view.argColumns_respell scope rest
  | .positional (some value) :: rest | .named (some value) :: rest | .labelled _ (some value) :: rest =>
    exact bind_eq_bind (view.exprColumn_respell scope value) fun _ =>
      bind_eq_bind (view.argColumns_respell scope rest) fun _ => rfl
termination_by structural args

end

end AnnotatedSql
