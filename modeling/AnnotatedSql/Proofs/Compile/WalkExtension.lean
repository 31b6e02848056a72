import AnnotatedSql.Proofs.Compile.Extension
import AnnotatedSql.Proofs.Compile.WalkOrder

/-!
The walk of a statement under a view that knows more. It meets the same placeholders, with the same range variables
visible at each of them (`Walk.query_follows`, `Walk.statement_follows`).
-/
namespace AnnotatedSql

open Sql (Arg Assignment Body Call CallArgs Cte Expr FromItem Item Join Literal Relation Select Statement)

namespace Follows

theorem append {part other widerPart widerOther : Finding} (hpart : Follows part widerPart)
    (hother : Follows other widerOther) :
    Follows (do return (← part) ++ (← other)) (do return (← widerPart) ++ (← widerOther)) :=
  hpart.bind fun _ => hother.bind fun _ => .refl _

theorem all {parts others : List Finding} (hparts : List.Forall₂ Follows parts others) :
    Follows (Finding.all parts) (Finding.all others) := by
  have hmapM : Follows (parts.mapM id) (others.mapM id) := by
    induction hparts with
    | nil => exact .refl _
    | cons hpart _ ih =>
      rw [List.mapM_cons, List.mapM_cons]
      exact bind hpart fun _ => ih.bind fun _ => .refl _
  exact hmapM.bind fun _ => .refl _

end Follows

/-- `AND`, `OR` and `XOR`, whose operands tell nothing about each other. -/
def Sql.BinaryOp.IsLogical (op : Sql.BinaryOp) : Prop :=
  op = .and ∨ op = .or ∨ op = .xor

theorem Walk.expr_logical {op : Sql.BinaryOp} (hop : op.IsLogical) (walk : Walk) (scope : Scope) (context : Context)
    (left right : Expr) :
    walk.expr scope context (.binary left op right) = (do
      return (← walk.expr scope .unknown left) ++ (← walk.expr scope .unknown right)) := by
  obtain rfl | rfl | rfl := hop <;> rw [Walk.expr]

theorem Walk.expr_tuples {op : Sql.BinaryOp} (hop : ¬ op.IsLogical) (walk : Walk) (scope : Scope) (context : Context)
    (lefts rights : List Expr) :
    walk.expr scope context (.binary (.tuple lefts) op (.tuple rights)) =
      if lefts.length = rights.length then do
        return (← Finding.all (walk.exprs scope (rights.map .ofOperand) lefts)) ++
          (← Finding.all (walk.exprs scope (lefts.map .ofOperand) rights))
      else do
        return (← Finding.all (walk.exprs scope (lefts.map fun _ => .unknown) lefts)) ++
          (← Finding.all (walk.exprs scope (rights.map fun _ => .unknown) rights)) := by
  simp only [Sql.BinaryOp.IsLogical, not_or] at hop
  obtain ⟨hand, hor, hxor⟩ := hop
  rw [Walk.expr] <;> assumption

/-- At any other operator each operand gets its context from the other one. -/
theorem Walk.expr_operands {op : Sql.BinaryOp} (hop : ¬ op.IsLogical) {left right : Expr}
    (htuples : ¬ ∃ lefts rights, left = .tuple lefts ∧ right = .tuple rights) (walk : Walk) (scope : Scope)
    (context : Context) :
    walk.expr scope context (.binary left op right) = (do
      return (← walk.expr scope (.ofOperand right) left) ++ (← walk.expr scope (.ofOperand left) right)) := by
  simp only [Sql.BinaryOp.IsLogical, not_or] at hop
  obtain ⟨hand, hor, hxor⟩ := hop
  rw [Walk.expr]
  · assumption
  · assumption
  · assumption
  · exact fun lefts rights hleft hright => htuples ⟨lefts, rights, hleft, hright⟩

/-- How the walk goes on at an operator: into both operands, or into the items of both if they are tuples. -/
theorem Walk.expr_binary (context : Context) (left right : Expr) (op : Sql.BinaryOp) :
    (∃ lefts rights contexts others, left = .tuple lefts ∧ right = .tuple rights ∧ ∀ (walk : Walk) (scope : Scope),
      walk.expr scope context (.binary left op right) = (do
        return (← Finding.all (walk.exprs scope contexts lefts)) ++
          (← Finding.all (walk.exprs scope others rights)))) ∨
    ∃ first second, ∀ (walk : Walk) (scope : Scope), walk.expr scope context (.binary left op right) = (do
      return (← walk.expr scope first left) ++ (← walk.expr scope second right)) := by
  by_cases hop : op.IsLogical
  · exact .inr ⟨.unknown, .unknown, fun walk scope => walk.expr_logical hop scope context left right⟩
  · by_cases htuples : ∃ lefts rights, left = .tuple lefts ∧ right = .tuple rights
    · obtain ⟨lefts, rights, rfl, rfl⟩ := htuples
      by_cases hlength : lefts.length = rights.length
      · refine .inl ⟨lefts, rights, rights.map .ofOperand, lefts.map .ofOperand, rfl, rfl, fun walk scope => ?_⟩
        rw [walk.expr_tuples hop, if_pos hlength]
      · refine .inl ⟨lefts, rights, lefts.map fun _ => .unknown, rights.map fun _ => .unknown, rfl, rfl,
          fun walk scope => ?_⟩
        rw [walk.expr_tuples hop, if_neg hlength]
    · exact .inr ⟨.ofOperand right, .ofOperand left, fun walk scope => walk.expr_operands hop htuples scope context⟩

mutual

theorem Walk.expr_follows (walk : Walk) {wider : View} (scope : Scope) (context : Context) (value : Expr)
    (hview : walk.view.Extends wider value.outerNames) :
    Follows (walk.expr scope context value) ({ walk with view := wider }.expr scope context value) := by
  match value with
  | .ident _ | .path _ | .typed _ | .distinct _ _ | .interval _ | .form _ => exact .refl _
  | .literal value => cases value <;> exact .refl _
  | .nested inner => exact walk.expr_follows scope context inner hview
  | .binary left op right =>
    have hlefts (contexts : List Context) (lefts : List Expr) (htuple : left = .tuple lefts) :
        List.Forall₂ Follows (walk.exprs scope contexts lefts)
          ({ walk with view := wider }.exprs scope contexts lefts) := by
      cases left with
      | tuple items =>
        rw [← Expr.tuple.inj htuple]
        exact walk.exprs_follows scope contexts items hview.left
      | _ => cases htuple
    have hrights (contexts : List Context) (rights : List Expr) (htuple : right = .tuple rights) :
        List.Forall₂ Follows (walk.exprs scope contexts rights)
          ({ walk with view := wider }.exprs scope contexts rights) := by
      cases right with
      | tuple items =>
        rw [← Expr.tuple.inj htuple]
        exact walk.exprs_follows scope contexts items hview.right
      | _ => cases htuple
    obtain ⟨lefts, rights, contexts, others, hleftTuple, hrightTuple, hwalk⟩ | ⟨first, second, hwalk⟩ :=
      Walk.expr_binary context left right op
    · rw [hwalk, hwalk]
      exact (Follows.all (hlefts contexts lefts hleftTuple)).append (.all (hrights others rights hrightTuple))
    · rw [hwalk, hwalk]
      exact (walk.expr_follows scope first left hview.left).append (walk.expr_follows scope second right hview.right)
  | .quantified left right =>
    exact (walk.expr_follows scope .unknown left hview.left).append (walk.expr_follows scope _ right hview.right)
  | .inList operand items =>
    exact (walk.expr_follows scope .unknown operand hview.left).append
      (.all (walk.exprs_follows scope _ items hview.right))
  | .inQuery operand query =>
    exact (walk.expr_follows scope .unknown operand hview.left).append (walk.query_follows scope query hview.right)
  | .between operand low high =>
    exact (walk.expr_follows scope .unknown operand hview.left.left).bind fun _ =>
      (walk.expr_follows scope _ low hview.left.right).bind fun _ =>
      (walk.expr_follows scope _ high hview.right).bind fun _ => .refl _
  | .like operand pattern =>
    exact (walk.expr_follows scope .unknown operand hview.left).append (walk.expr_follows scope _ pattern hview.right)
  | .cast operand type => exact walk.expr_follows scope (.cast type) operand hview
  | .call call => exact walk.call_follows scope call hview
  | .case operand conditions results otherwise =>
    have hparts := rel_interleave
      (walk.exprs_follows scope (conditions.map fun _ => (operand.map Context.ofOperand).getD .unknown) conditions
        hview.left.left.right)
      (walk.exprs_follows scope (results.map fun _ => .unknown) results hview.left.right)
    exact (walk.exprOption_follows scope .unknown operand hview.left.left.left).bind fun _ =>
      (Follows.all hparts).bind fun _ =>
      (walk.exprOption_follows scope .unknown otherwise hview.right).bind fun _ => .refl _
  | .subquery query => exact walk.query_follows scope query hview
  | .exists query => exact walk.query_follows scope query hview
  | .unary _ operand => exact walk.expr_follows scope .unknown operand hview
  | .test operand => exact walk.expr_follows scope .unknown operand hview
  | .tuple items => exact .all (walk.exprs_follows scope _ items hview)
termination_by structural value

theorem Walk.exprs_follows (walk : Walk) {wider : View} (scope : Scope) (contexts : List Context) (values : List Expr)
    (hview : walk.view.Extends wider (namesOfExprs values)) :
    List.Forall₂ Follows (walk.exprs scope contexts values)
      ({ walk with view := wider }.exprs scope contexts values) := by
  match contexts, values with
  | [], [] | [], _ :: _ | _ :: _, [] => exact .nil
  | context :: contexts, value :: rest =>
    exact .cons (walk.expr_follows scope context value hview.left)
      (walk.exprs_follows scope contexts rest hview.right)
termination_by structural values

theorem Walk.exprOption_follows (walk : Walk) {wider : View} (scope : Scope) (context : Context) (value : Option Expr)
    (hview : walk.view.Extends wider (namesOfOption value)) :
    Follows (walk.exprOption scope context value) ({ walk with view := wider }.exprOption scope context value) := by
  match value with
  | none => exact .refl _
  | some value => exact walk.expr_follows scope context value hview
termination_by structural value

theorem Walk.call_follows (walk : Walk) {wider : View} (scope : Scope) (call : Call)
    (hview : walk.view.Extends wider call.outerNames) :
    Follows (walk.call scope call) ({ walk with view := wider }.call scope call) := by
  match call with
  | ⟨name, args, filter, _, _⟩ =>
    exact (walk.callArgs_follows scope _ args hview.left).bind fun _ =>
      (walk.exprOption_follows scope .unknown filter hview.right).bind fun _ => .refl _
termination_by structural call

theorem Walk.callArgs_follows (walk : Walk) {wider : View} (scope : Scope) (function : QualifiedName)
    (args : CallArgs) (hview : walk.view.Extends wider args.outerNames) :
    Follows (walk.callArgs scope function args) ({ walk with view := wider }.callArgs scope function args) := by
  match args with
  | .none => exact .refl _
  | .list args _ => exact (walk.args_follows scope function args.length 0 args hview).bind fun _ => .refl _
  | .query query => exact walk.query_follows scope query hview
termination_by structural args

theorem Walk.args_follows (walk : Walk) {wider : View} (scope : Scope) (function : QualifiedName) (count index : Nat)
    (args : List Arg) (hview : walk.view.Extends wider (namesOfArgs args)) :
    Follows (walk.args scope function count index args)
      ({ walk with view := wider }.args scope function count index args) := by
  match args with
  | [] => exact .refl _
  | .positional value :: rest =>
    exact (walk.exprOption_follows scope _ value hview.left).append
      (walk.args_follows scope function count (index + 1) rest hview.right)
  | .named value :: rest =>
    exact (walk.exprOption_follows scope _ value hview.left).append
      (walk.args_follows scope function count (index + 1) rest hview.right)
  | .labelled _ value :: rest =>
    exact (walk.exprOption_follows scope _ value hview.left).append
      (walk.args_follows scope function count (index + 1) rest hview.right)
termination_by structural args

theorem Walk.query_follows (walk : Walk) {wider : View} (outer : Scope) (query : Sql.Query)
    (hview : walk.view.Extends wider (query.outerNames false)) :
    Follows (walk.query outer query) ({ walk with view := wider }.query outer query) := by
  match query with
  | ⟨recursive, ctes, body, orderBy, limit, offset, _⟩ =>
    refine Follows.bind_of fun inner hinner => ?_
    obtain ⟨widerInner, hwider, hnames⟩ := View.withCtes_follows (.refl outer) recursive _ ctes hview hinner
    refine ⟨widerInner, hwider, ?_⟩
    refine (Walk.ctes_follows { walk with view := inner } outer ctes hnames.left.left.left.right).bind fun _ =>
      (Walk.body_follows { walk with view := inner } outer body hnames.left.left.left.left).bind fun (_, scope) => ?_
    exact (Follows.all (Walk.exprs_follows { walk with view := inner } scope _ orderBy
        hnames.left.left.right)).bind fun _ =>
      (Walk.exprOption_follows { walk with view := inner } scope .limit limit hnames.left.right).bind fun _ =>
      (Walk.exprOption_follows { walk with view := inner } scope .offset offset hnames.right).bind fun _ => .refl _
termination_by structural query

theorem Walk.ctes_follows (walk : Walk) {wider : View} (outer : Scope) (ctes : List Cte)
    (hview : walk.view.Extends wider (namesOfTerms ctes)) :
    Follows (walk.ctes outer ctes) ({ walk with view := wider }.ctes outer ctes) := by
  match ctes with
  | [] => exact .refl _
  | ⟨_, query⟩ :: rest =>
    exact (walk.query_follows outer query hview.left).append (walk.ctes_follows outer rest hview.right)
termination_by structural ctes

theorem Walk.body_follows (walk : Walk) {wider : View} (outer : Scope) (body : Body)
    (hview : walk.view.Extends wider body.outerNames) :
    Follows (walk.body outer body) ({ walk with view := wider }.body outer body) := by
  match body with
  | .select select => exact walk.select_follows outer select hview
  | .query query => exact (walk.query_follows outer query hview).bind fun _ => .refl _
  | .setOperation left right =>
    exact (walk.body_follows outer left hview.left).bind fun _ =>
      (walk.body_follows outer right hview.right).bind fun _ => .refl _
  | .values rows => exact (walk.rows_follows outer rows hview).bind fun _ => .refl _
  | .insert _ | .update _ | .table => exact .refl _
termination_by structural body

theorem Walk.rows_follows (walk : Walk) {wider : View} (outer : Scope) (rows : List (List Expr))
    (hview : walk.view.Extends wider (namesOfRows rows)) :
    Follows (walk.rows outer rows) ({ walk with view := wider }.rows outer rows) := by
  match rows with
  | [] => exact .refl _
  | row :: rest =>
    exact (Follows.all (walk.exprs_follows outer _ row hview.left)).append (walk.rows_follows outer rest hview.right)
termination_by structural rows

theorem Walk.select_follows (walk : Walk) {wider : View} (outer : Scope) (select : Select)
    (hview : walk.view.Extends wider select.outerNames) :
    Follows (walk.select outer select) ({ walk with view := wider }.select outer select) := by
  match select with
  | ⟨_, items, tables, _, selection, groupBy, _, having, _, qualify⟩ =>
    have htables : walk.view.Extends wider (namesOfTables tables) := hview.left.left.left.left.right
    refine (View.frame_follows (.refl outer) {} tables htables).bind fun frame => ?_
    refine (walk.items_follows (frame :: outer) items hview.left.left.left.left.left).bind fun _ =>
      (walk.fromItems_follows outer (frame :: outer) tables htables).bind fun _ =>
      (walk.exprOption_follows (frame :: outer) .unknown selection hview.left.left.left.right).bind fun _ => ?_
    exact (Follows.all (walk.exprs_follows (frame :: outer) _ groupBy hview.left.left.right)).bind fun _ =>
      (walk.exprOption_follows (frame :: outer) .unknown having hview.left.right).bind fun _ =>
      (walk.exprOption_follows (frame :: outer) .unknown qualify hview.right).bind fun _ => .refl _
termination_by structural select

theorem Walk.items_follows (walk : Walk) {wider : View} (scope : Scope) (items : List Item)
    (hview : walk.view.Extends wider (namesOfItems items)) :
    Follows (walk.items scope items) ({ walk with view := wider }.items scope items) := by
  match items with
  | [] => exact .refl _
  | .expr value :: rest =>
    exact (walk.expr_follows scope .unknown value hview.left).append (walk.items_follows scope rest hview.right)
  | .aliased value _ :: rest =>
    exact (walk.expr_follows scope .unknown value hview.left).append (walk.items_follows scope rest hview.right)
  | .wildcard _ :: rest => exact walk.items_follows scope rest hview
  | .qualified _ _ :: rest => exact walk.items_follows scope rest hview
termination_by structural items

theorem Walk.fromItems_follows (walk : Walk) {wider : View} (outer scope : Scope) (items : List FromItem)
    (hview : walk.view.Extends wider (namesOfTables items)) :
    Follows (walk.fromItems outer scope items) ({ walk with view := wider }.fromItems outer scope items) := by
  match items with
  | [] => exact .refl _
  | item :: rest =>
    exact (walk.fromItem_follows outer scope item hview.left).append
      (walk.fromItems_follows outer scope rest hview.right)
termination_by structural items

theorem Walk.fromItem_follows (walk : Walk) {wider : View} (outer scope : Scope) (item : FromItem)
    (hview : walk.view.Extends wider item.outerNames) :
    Follows (walk.fromItem outer scope item) ({ walk with view := wider }.fromItem outer scope item) := by
  match item with
  | ⟨relation, joins⟩ =>
    exact (walk.relation_follows outer scope relation hview.left).append
      (walk.joins_follows outer scope joins hview.right)
termination_by structural item

theorem Walk.joins_follows (walk : Walk) {wider : View} (outer scope : Scope) (joins : List Join)
    (hview : walk.view.Extends wider (namesOfJoins joins)) :
    Follows (walk.joins outer scope joins) ({ walk with view := wider }.joins outer scope joins) := by
  match joins with
  | [] => exact .refl _
  | ⟨relation, _, on, _, _⟩ :: rest =>
    exact (walk.relation_follows outer scope relation hview.left.left).bind fun _ =>
      (walk.exprOption_follows scope .unknown on hview.left.right).bind fun _ =>
      (walk.joins_follows outer scope rest hview.right).bind fun _ => .refl _
termination_by structural joins

theorem Walk.relation_follows (walk : Walk) {wider : View} (outer scope : Scope) (relation : Relation)
    (hview : walk.view.Extends wider relation.outerNames) :
    Follows (walk.relation outer scope relation) ({ walk with view := wider }.relation outer scope relation) := by
  match relation with
  | .table _ _ _ | .function _ _ _ | .hidden _ | .pivoted _ _ => exact .refl _
  | .derived lateral query _ => exact walk.query_follows (if lateral then scope else outer) query hview
  | .joined inner _ => exact walk.fromItem_follows outer scope inner hview
termination_by structural relation

end

namespace Walk

variable {wider : View}

theorem assignments_follows (walk : Walk) (hview : ∀ names, walk.view.Extends wider names)
    (table : Option QualifiedName) (scope : Scope) (given : List Assignment) :
    Follows (walk.assignments table scope given) ({ walk with view := wider }.assignments table scope given) := by
  refine .all ?_
  rw [List.forall₂_map_left_iff, List.forall₂_map_right_iff, List.forall₂_same]
  intro assignment _
  exact walk.expr_follows scope _ assignment.value (hview _)

theorem targetRow_follows (walk : Walk) (hview : ∀ names, walk.view.Extends wider names) (table : QualifiedName)
    (columns : List String) (row : List Expr) :
    Follows (walk.targetRow table columns row) ({ walk with view := wider }.targetRow table columns row) :=
  .all (walk.exprs_follows [] _ row (hview _))

theorem insert_follows (walk : Walk) (hview : ∀ names, walk.view.Extends wider names) (given : Sql.Insert) :
    Follows (walk.insert given) ({ walk with view := wider }.insert given) := by
  refine ((hview _).relation none).bind fun var => ?_
  have hclauses : ∀ inSource : List Found, Follows
      (do return inSource ++ (← walk.assignments (some given.table.qualified) [.single var] given.updates) ++
        (← walk.exprOption [.single var] .unknown given.updateWhere) ++ (← walk.items [.single var] given.returning))
      (do return inSource ++
        (← { walk with view := wider }.assignments (some given.table.qualified) [.single var] given.updates) ++
        (← { walk with view := wider }.exprOption [.single var] .unknown given.updateWhere) ++
        (← { walk with view := wider }.items [.single var] given.returning)) := by
    intro inSource
    exact (walk.assignments_follows hview _ _ given.updates).bind fun _ =>
      (walk.exprOption_follows _ .unknown given.updateWhere (hview _)).bind fun _ =>
      (walk.items_follows _ given.returning (hview _)).bind fun _ => .refl _
  cases hsource : given.source with
  | none => exact hclauses []
  | some source =>
    cases hbody : source.body with
    | values rows =>
      simp only [hbody]
      refine (Follows.all ?_).bind hclauses
      rw [List.forall₂_iff_get]
      refine ⟨by simp, fun i _ _ => ?_⟩
      simp only [List.get_eq_getElem, List.getElem_mapIdx]
      exact targetRow_follows { walk with row := some i } hview _ _ _
    | _ =>
      simp only [hbody]
      exact (walk.query_follows [] source (hview _)).bind hclauses

theorem update_follows (walk : Walk) (hview : ∀ names, walk.view.Extends wider names) (given : Sql.Update) :
    Follows (walk.update given) ({ walk with view := wider }.update given) := by
  refine (View.frame_follows (.refl []) {} _ (hview _)).bind fun frame => ?_
  exact (walk.fromItem_follows [] [frame] given.table (hview _)).bind fun _ =>
    (walk.assignments_follows hview _ [frame] given.assignments).bind fun _ =>
    (walk.fromItems_follows [] [frame] given.tables.toList (hview _)).bind fun _ =>
    (walk.exprOption_follows [frame] .unknown given.selection (hview _)).bind fun _ =>
    (walk.items_follows [frame] given.returning (hview _)).bind fun _ => .refl _

theorem delete_follows (walk : Walk) (hview : ∀ names, walk.view.Extends wider names) (given : Sql.Delete) :
    Follows (walk.delete given) ({ walk with view := wider }.delete given) := by
  refine (View.frame_follows (.refl []) {} _ (hview _)).bind fun frame => ?_
  exact (walk.fromItems_follows [] [frame] _ (hview _)).bind fun _ =>
    (walk.exprOption_follows [frame] .unknown given.selection (hview _)).bind fun _ =>
    (walk.items_follows [frame] given.returning (hview _)).bind fun _ =>
    (Follows.all (walk.exprs_follows [frame] _ given.orderBy (hview _))).bind fun _ =>
    (walk.exprOption_follows [frame] .limit given.limit (hview _)).bind fun _ => .refl _

/-- A statement that can be walked is walked alike under a view that knows more. -/
theorem statement_follows (walk : Walk) (hview : ∀ names, walk.view.Extends wider names) (statement : Statement) :
    Follows (walk.statement statement) ({ walk with view := wider }.statement statement) := by
  cases statement with
  | query q => exact walk.query_follows [] q (hview _)
  | insert i => exact walk.insert_follows hview i
  | update u => exact walk.update_follows hview u
  | delete d => exact walk.delete_follows hview d
  | _ => exact .refl _

end Walk

end AnnotatedSql
