import AnnotatedSql.Compile.Reference
import Mathlib.Data.List.Forall2

/-!
The order in which a statement is walked. It is a matter of the tree alone: neither the catalog nor the scopes have a
part in it. Main statement: `Walk.statement_marks`.
-/
namespace AnnotatedSql

open Sql (Arg Assignment Body Call CallArgs Cte Expr FromItem Item Join Literal Relation Select Statement)

/-- The row limit that a placeholder with the context is the operand of. -/
def Context.slot? : Context → Option LimitSlot
  | .limit => some .limit
  | .offset => some .offset
  | _ => none

/-- What tells a placeholder from its neighbours in the walk. -/
structure Mark where
  /-- The number in its spelling. -/
  number : Option Nat
  /-- The row limit that it is the operand of. -/
  slot : Option LimitSlot
deriving Repr, DecidableEq

def Found.mark (found : Found) : Mark :=
  { number := found.number, slot := found.context.slot? }

/-- The placeholders among expressions, none of which is the operand of a row limit. -/
def marksAmong (exprs : List Expr) : List Mark :=
  exprs.filterMap fun
    | .literal (.placeholder spelling) => some { number := Walk.numberOf? spelling, slot := none }
    | _ => none

mutual

/-- The placeholders of an expression in the order of the walk, if the expression is the operand of a row limit. -/
def Sql.Expr.marks (slot : Option LimitSlot) : Expr → List Mark
  | .literal (.placeholder spelling) => [{ number := Walk.numberOf? spelling, slot }]
  | .nested inner => inner.marks slot
  | .ident _ | .path _ | .literal _ | .typed _ => []
  | .binary left _ right => left.marks none ++ right.marks none
  | .quantified left right => left.marks none ++ right.marks none
  | .inList operand items => operand.marks none ++ (marksOfEach items).flatten
  | .inQuery operand query => operand.marks none ++ query.marks
  | .between operand low high => operand.marks none ++ low.marks none ++ high.marks none
  | .like operand pattern => operand.marks none ++ pattern.marks none
  | .cast operand _ => operand.marks none
  | .call call => call.marks
  | .case operand conditions results otherwise =>
    marksOfOption none operand ++ (interleave (marksOfEach conditions) (marksOfEach results)).flatten ++
      marksOfOption none otherwise
  | .subquery query => query.marks
  | .exists query => query.marks
  | .unary _ operand => operand.marks none
  | .test operand => operand.marks none
  | .tuple items => (marksOfEach items).flatten
  | .distinct left right => marksAmong (left.all ++ right.all)
  | .interval value => marksAmong value.all
  | .form operands => marksAmong (Sql.allOfList operands)

/-- The placeholders of each of some expressions. -/
def marksOfEach : List Expr → List (List Mark)
  | [] => []
  | value :: rest => value.marks none :: marksOfEach rest

def marksOfOption (slot : Option LimitSlot) : Option Expr → List Mark
  | none => []
  | some value => value.marks slot

def Sql.Call.marks : Call → List Mark
  | ⟨_, args, filter, window, _⟩ => args.marks ++ marksOfOption none filter ++ marksAmong (Sql.allOfList window)

def Sql.CallArgs.marks : CallArgs → List Mark
  | .none => []
  | .list args clauses => marksOfArgs args ++ marksAmong (Sql.allOfList clauses)
  | .query query => query.marks

def marksOfArgs : List Arg → List Mark
  | [] => []
  | .positional value :: rest => marksOfOption none value ++ marksOfArgs rest
  | .named value :: rest => marksOfOption none value ++ marksOfArgs rest
  | .labelled _ value :: rest => marksOfOption none value ++ marksOfArgs rest

/-- The placeholders of a query. The row limit comes before the offset, however the text has them. -/
def Sql.Query.marks : Sql.Query → List Mark
  | ⟨_, ctes, body, orderBy, limit, offset, _⟩ =>
    marksOfCtes ctes ++ body.marks ++ (marksOfEach orderBy).flatten ++ marksOfOption (some .limit) limit ++
      marksOfOption (some .offset) offset

def marksOfCtes : List Cte → List Mark
  | [] => []
  | ⟨_, query⟩ :: rest => query.marks ++ marksOfCtes rest

def Sql.Body.marks : Body → List Mark
  | .select select => select.marks
  | .query query => query.marks
  | .setOperation left right => left.marks ++ right.marks
  | .values rows => marksOfRows rows
  | .insert insert => marksAmong insert.all
  | .update update => marksAmong update.all
  | .table => []

def marksOfRows : List (List Expr) → List Mark
  | [] => []
  | row :: rest => (marksOfEach row).flatten ++ marksOfRows rest

def Sql.Select.marks : Select → List Mark
  | ⟨_, items, tables, _, selection, groupBy, _, having, _, qualify⟩ =>
    marksOfItems items ++ marksOfTables tables ++ marksOfOption none selection ++ (marksOfEach groupBy).flatten ++
      marksOfOption none having ++ marksOfOption none qualify

def marksOfItems : List Item → List Mark
  | [] => []
  | .expr value :: rest => value.marks none ++ marksOfItems rest
  | .aliased value _ :: rest => value.marks none ++ marksOfItems rest
  | .wildcard _ :: rest => marksOfItems rest
  | .qualified _ _ :: rest => marksOfItems rest

def marksOfTables : List FromItem → List Mark
  | [] => []
  | item :: rest => item.marks ++ marksOfTables rest

def Sql.FromItem.marks : FromItem → List Mark
  | ⟨relation, joins⟩ => relation.marks ++ marksOfJoins joins

def marksOfJoins : List Join → List Mark
  | [] => []
  | ⟨relation, _, on, _, _⟩ :: rest => relation.marks ++ marksOfOption none on ++ marksOfJoins rest

def Sql.Relation.marks : Relation → List Mark
  | .table _ _ _ => []
  | .derived _ query _ => query.marks
  | .joined inner _ => inner.marks
  | .function _ operands _ => marksAmong (Sql.allOfList operands)
  | .hidden operands => marksAmong (Sql.allOfList operands)
  | .pivoted inner operands => marksAmong (inner.all ++ Sql.allOfList operands)

end

/-- The placeholders of values that are assigned. -/
def marksOfAssignments (given : List Assignment) : List Mark :=
  given.flatMap fun assignment => assignment.value.marks none

/-- The placeholders of what is inserted. Rows of values are walked without the clauses around them. -/
def Sql.Insert.sourceMarks (given : Sql.Insert) : List Mark :=
  match given.source with
  | none => []
  | some source =>
    match source.body with
    | .values rows => marksOfRows rows
    | _ => source.marks

def Sql.Insert.marks (given : Sql.Insert) : List Mark :=
  given.sourceMarks ++ marksOfAssignments given.updates ++ marksOfOption none given.updateWhere ++
    marksOfItems given.returning

def Sql.Update.marks (given : Sql.Update) : List Mark :=
  given.table.marks ++ marksOfAssignments given.assignments ++ marksOfTables given.tables.toList ++
    marksOfOption none given.selection ++ marksOfItems given.returning

def Sql.Delete.marks (given : Sql.Delete) : List Mark :=
  marksOfTables (given.tables ++ given.others) ++ marksOfOption none given.selection ++
    marksOfItems given.returning ++ (marksOfEach given.orderBy).flatten ++ marksOfOption (some .limit) given.limit

/-- The placeholders of a statement in the order of the walk. -/
def Sql.Statement.marks : Statement → List Mark
  | .query q => q.marks
  | .insert i => i.marks
  | .update u => u.marks
  | .delete d => d.marks
  | _ => []

/-- What a computation gives has the property, if the computation does not fail. -/
def Yields {α : Type} (part : Except Error α) (property : α → Prop) : Prop :=
  ∀ result, part = .ok result → property result

namespace Yields

variable {α β : Type} {property : α → Prop} {next : β → Prop}

theorem ok {result : α} (hresult : property result) : Yields (.ok result) property := by
  intro other hother
  cases hother
  exact hresult

theorem bind {part : Except Error α} {rest : α → Except Error β} (hpart : Yields part property)
    (hrest : ∀ result, property result → Yields (rest result) next) : Yields (part >>= rest) next := by
  cases part with
  | error error => exact fun _ h => nomatch h
  | ok result => exact hrest result (hpart result rfl)

theorem trivial (part : Except Error α) : Yields part fun _ => True :=
  fun _ _ => True.intro

end Yields

/-- Parts that are related one by one are so after they have been interleaved. -/
theorem rel_interleave {α β : Type} {R : α → β → Prop} {parts others : List α} {relatedParts relatedOthers : List β}
    (hparts : List.Forall₂ R parts relatedParts) (hothers : List.Forall₂ R others relatedOthers) :
    List.Forall₂ R (interleave parts others) (interleave relatedParts relatedOthers) := by
  induction hparts generalizing others relatedOthers with
  | nil => exact .nil
  | cons hpart _ ih =>
    cases hothers with
    | nil => exact .nil
    | cons hother hothers => exact .cons hpart (.cons hother (ih hothers))

/-- The placeholders of a part have the marks given, if the part does not fail. -/
def HasMarks (part : Finding) (marks : List Mark) : Prop :=
  Yields part fun found => found.map Found.mark = marks

namespace HasMarks

theorem append {part other : Finding} {marks others : List Mark} (hpart : HasMarks part marks)
    (hother : HasMarks other others) : HasMarks (do return (← part) ++ (← other)) (marks ++ others) := by
  refine hpart.bind fun found hfound => hother.bind fun rest hrest => .ok ?_
  rw [List.map_append, hfound, hrest]

/-- Parts in order have their marks in order. -/
theorem all {parts : List Finding} {marks : List (List Mark)} (hparts : List.Forall₂ HasMarks parts marks) :
    HasMarks (Finding.all parts) marks.flatten := by
  have hmapM : Yields (parts.mapM id) fun founds => founds.flatten.map Found.mark = marks.flatten := by
    induction hparts with
    | nil => exact .ok rfl
    | cons hpart _ ih =>
      rw [List.mapM_cons]
      refine Yields.bind hpart fun first hfirst => ih.bind fun rest hrest => .ok ?_
      rw [List.flatten_cons, List.map_append, hfirst, hrest, List.flatten_cons]
  exact hmapM.bind fun _ hfounds => .ok hfounds

end HasMarks

theorem Walk.unknowns_marks (walk : Walk) (scope : Scope) (exprs : List Expr) :
    (walk.unknowns scope exprs).map Found.mark = marksAmong exprs := by
  rw [Walk.unknowns, marksAmong, List.map_filterMap]
  congr 1
  funext value
  cases value with
  | literal value => cases value <;> rfl
  | _ => rfl

theorem Context.slot?_ofOperand (operand : Expr) : (Context.ofOperand operand).slot? = none := by
  fun_induction Context.ofOperand operand <;> first | rfl | assumption

/-- Contexts that say nothing of row limits, one for each of some expressions. -/
def Plain (contexts : List Context) (values : List Expr) : Prop :=
  contexts.length = values.length ∧ ∀ context ∈ contexts, context.slot? = none

theorem Plain.map {f : Expr → Context} {others values : List Expr} (hlength : others.length = values.length)
    (hslot : ∀ other, (f other).slot? = none) : Plain (others.map f) values := by
  refine ⟨by simpa using hlength, ?_⟩
  intro context hcontext
  obtain ⟨other, _, rfl⟩ := List.mem_map.1 hcontext
  exact hslot other

theorem Context.slot?_quantified (context : Context) : context.quantified.slot? = none := by
  cases context <;> rfl

theorem Context.slot?_listed {context : Context} (hslot : context.slot? = none) : context.listed.slot? = none := by
  cases context <;> first | rfl | exact hslot

mutual

theorem Walk.expr_marks (walk : Walk) (scope : Scope) (context : Context) (value : Expr) :
    HasMarks (walk.expr scope context value) (value.marks context.slot?) := by
  cases value with
  | ident name => exact .ok rfl
  | path parts => exact .ok rfl
  | typed type => exact .ok rfl
  | literal value => cases value <;> exact .ok rfl
  | nested inner => exact walk.expr_marks scope context inner
  | binary left op right =>
    have hleft := walk.expr_marks scope (.ofOperand right) left
    have hright := walk.expr_marks scope (.ofOperand left) right
    rw [Context.slot?_ofOperand] at hleft hright
    have hlefts (contexts : List Context) (lefts : List Expr) (htuple : left = .tuple lefts)
        (hplain : Plain contexts lefts) :
        List.Forall₂ HasMarks (walk.exprs scope contexts lefts) (marksOfEach lefts) := by
      cases left with
      | tuple items =>
        rw [← Expr.tuple.inj htuple] at hplain ⊢
        exact walk.exprs_marks scope contexts items hplain
      | _ => cases htuple
    have hrights (contexts : List Context) (rights : List Expr) (htuple : right = .tuple rights)
        (hplain : Plain contexts rights) :
        List.Forall₂ HasMarks (walk.exprs scope contexts rights) (marksOfEach rights) := by
      cases right with
      | tuple items =>
        rw [← Expr.tuple.inj htuple] at hplain ⊢
        exact walk.exprs_marks scope contexts items hplain
      | _ => cases htuple
    have hplainLeft := walk.expr_marks scope .unknown left
    have hplainRight := walk.expr_marks scope .unknown right
    unfold Walk.expr
    split
    · exact hplainLeft.append hplainRight
    · exact hplainLeft.append hplainRight
    · exact hplainLeft.append hplainRight
    · rename_i lefts rights _ _ _
      split
      · next hlength =>
        exact (HasMarks.all (hlefts _ lefts rfl (.map hlength.symm Context.slot?_ofOperand))).append
          (.all (hrights _ rights rfl (.map hlength Context.slot?_ofOperand)))
      · exact (HasMarks.all (hlefts _ lefts rfl (.map rfl fun _ => rfl))).append
          (.all (hrights _ rights rfl (.map rfl fun _ => rfl)))
    · exact hleft.append hright
  | quantified left right =>
    have hright := walk.expr_marks scope (Context.ofOperand left).quantified right
    rw [Context.slot?_quantified] at hright
    exact (walk.expr_marks scope .unknown left).append hright
  | inList operand items =>
    refine (walk.expr_marks scope .unknown operand).append (.all (walk.exprs_marks scope _ items ?_))
    refine .map rfl fun _ => ?_
    split
    · exact Context.slot?_listed (Context.slot?_ofOperand operand)
    · exact Context.slot?_ofOperand operand
  | inQuery operand query =>
    exact (walk.expr_marks scope .unknown operand).append (walk.query_marks scope query)
  | between operand low high =>
    have hlow := walk.expr_marks scope (.ofOperand operand) low
    have hhigh := walk.expr_marks scope (.ofOperand operand) high
    rw [Context.slot?_ofOperand] at hlow hhigh
    refine (walk.expr_marks scope .unknown operand).bind fun _ hoperand => hlow.bind fun _ hlow =>
      hhigh.bind fun _ hhigh => .ok ?_
    rw [List.map_append, List.map_append, hoperand, hlow, hhigh]
    rfl
  | like operand pattern =>
    have hpattern := walk.expr_marks scope (.ofOperand operand) pattern
    rw [Context.slot?_ofOperand] at hpattern
    exact (walk.expr_marks scope .unknown operand).append hpattern
  | cast operand type => exact walk.expr_marks scope (.cast type) operand
  | call call => exact walk.call_marks scope call
  | case operand conditions results otherwise =>
    have hslot : ((operand.map Context.ofOperand).getD .unknown).slot? = none := by
      cases operand with
      | none => rfl
      | some operand => exact Context.slot?_ofOperand operand
    have hparts := rel_interleave
      (walk.exprs_marks scope (conditions.map fun _ => (operand.map Context.ofOperand).getD .unknown) conditions
        (.map rfl fun _ => hslot))
      (walk.exprs_marks scope (results.map fun _ => .unknown) results (.map rfl fun _ => rfl))
    refine (walk.exprOption_marks scope .unknown operand).bind fun _ hoperand => (HasMarks.all hparts).bind
      fun _ hparts => (walk.exprOption_marks scope .unknown otherwise).bind fun _ hotherwise => .ok ?_
    rw [List.map_append, List.map_append, hoperand, hparts, hotherwise]
    rfl
  | subquery query => exact walk.query_marks scope query
  | «exists» query => exact walk.query_marks scope query
  | unary op operand => exact walk.expr_marks scope .unknown operand
  | test operand => exact walk.expr_marks scope .unknown operand
  | tuple items => exact .all (walk.exprs_marks scope _ items (.map rfl fun _ => rfl))
  | distinct left right => exact .ok (walk.unknowns_marks scope _)
  | interval value => exact .ok (walk.unknowns_marks scope _)
  | form operands => exact .ok (walk.unknowns_marks scope _)
termination_by structural value

theorem Walk.exprs_marks (walk : Walk) (scope : Scope) (contexts : List Context) (values : List Expr)
    (hplain : Plain contexts values) :
    List.Forall₂ HasMarks (walk.exprs scope contexts values) (marksOfEach values) := by
  obtain ⟨hlength, hslot⟩ := hplain
  cases values with
  | nil =>
    cases contexts with
    | nil => exact .nil
    | cons => simp at hlength
  | cons value values =>
    cases contexts with
    | nil => simp at hlength
    | cons context contexts =>
      have hvalue := walk.expr_marks scope context value
      rw [hslot context List.mem_cons_self] at hvalue
      refine .cons hvalue (walk.exprs_marks scope contexts values ⟨by simpa using hlength, ?_⟩)
      exact fun other hother => hslot other (List.mem_cons_of_mem _ hother)
termination_by structural values

theorem Walk.exprOption_marks (walk : Walk) (scope : Scope) (context : Context) (value : Option Expr) :
    HasMarks (walk.exprOption scope context value) (marksOfOption context.slot? value) := by
  cases value with
  | none => exact .ok rfl
  | some value => exact walk.expr_marks scope context value
termination_by structural value

theorem Walk.call_marks (walk : Walk) (scope : Scope) (call : Call) :
    HasMarks (walk.call scope call) call.marks := by
  obtain ⟨name, args, filter, window, _⟩ := call
  refine (walk.callArgs_marks scope _ args).bind fun _ hargs => (walk.exprOption_marks scope .unknown filter).bind
    fun _ hfilter => .ok ?_
  rw [List.map_append, List.map_append, hargs, hfilter, walk.unknowns_marks]
  rfl
termination_by structural call

theorem Walk.callArgs_marks (walk : Walk) (scope : Scope) (function : QualifiedName) (args : CallArgs) :
    HasMarks (walk.callArgs scope function args) args.marks := by
  cases args with
  | none => exact .ok rfl
  | list args clauses =>
    refine (walk.args_marks scope function args.length 0 args).bind fun _ hargs => .ok ?_
    rw [List.map_append, hargs, walk.unknowns_marks]
    rfl
  | query query => exact walk.query_marks scope query
termination_by structural args

theorem Walk.args_marks (walk : Walk) (scope : Scope) (function : QualifiedName) (count index : Nat)
    (args : List Arg) : HasMarks (walk.args scope function count index args) (marksOfArgs args) := by
  match args with
  | [] => exact .ok rfl
  | .positional value :: rest =>
    exact (walk.exprOption_marks scope (.argument function index count) value).append
      (walk.args_marks scope function count (index + 1) rest)
  | .named value :: rest =>
    exact (walk.exprOption_marks scope (.argument function index count) value).append
      (walk.args_marks scope function count (index + 1) rest)
  | .labelled _ value :: rest =>
    exact (walk.exprOption_marks scope (.argument function index count) value).append
      (walk.args_marks scope function count (index + 1) rest)
termination_by structural args

theorem Walk.query_marks (walk : Walk) (outer : Scope) (query : Sql.Query) :
    HasMarks (walk.query outer query) query.marks := by
  obtain ⟨recursive, ctes, body, orderBy, limit, offset, _⟩ := query
  refine (Yields.trivial _).bind fun view _ => (Walk.ctes_marks _ outer ctes).bind fun _ hctes =>
    (Walk.body_marks _ outer body).bind fun (_, scope) hbody => ?_
  refine (HasMarks.all (Walk.exprs_marks _ scope _ orderBy (.map rfl fun _ => rfl))).bind fun _ horder =>
    (Walk.exprOption_marks _ scope .limit limit).bind fun _ hlimit =>
    (Walk.exprOption_marks _ scope .offset offset).bind fun _ hoffset => .ok ?_
  simp only [List.map_append, hctes, hbody, horder, hlimit, hoffset]
  rfl
termination_by structural query

theorem Walk.ctes_marks (walk : Walk) (outer : Scope) (ctes : List Cte) :
    HasMarks (walk.ctes outer ctes) (marksOfCtes ctes) := by
  match ctes with
  | [] => exact .ok rfl
  | ⟨_, query⟩ :: rest => exact (walk.query_marks outer query).append (walk.ctes_marks outer rest)
termination_by structural ctes

theorem Walk.body_marks (walk : Walk) (outer : Scope) (body : Body) :
    Yields (walk.body outer body) fun (found, _) => found.map Found.mark = body.marks := by
  cases body with
  | select select => exact walk.select_marks outer select
  | query query => exact (walk.query_marks outer query).bind fun _ hquery => .ok hquery
  | setOperation left right =>
    refine (walk.body_marks outer left).bind fun _ hleft => (walk.body_marks outer right).bind fun _ hright => .ok ?_
    simp only [List.map_append, hleft, hright]
    rfl
  | values rows => exact (walk.rows_marks outer rows).bind fun _ hrows => .ok hrows
  | insert insert => exact .ok (walk.unknowns_marks outer _)
  | update update => exact .ok (walk.unknowns_marks outer _)
  | table => exact .ok rfl
termination_by structural body

theorem Walk.rows_marks (walk : Walk) (outer : Scope) (rows : List (List Expr)) :
    HasMarks (walk.rows outer rows) (marksOfRows rows) := by
  match rows with
  | [] => exact .ok rfl
  | row :: rest =>
    exact (HasMarks.all (walk.exprs_marks outer _ row (.map rfl fun _ => rfl))).append (walk.rows_marks outer rest)
termination_by structural rows

theorem Walk.select_marks (walk : Walk) (outer : Scope) (select : Select) :
    Yields (walk.select outer select) fun (found, _) => found.map Found.mark = select.marks := by
  obtain ⟨_, items, tables, _, selection, groupBy, _, having, _, qualify⟩ := select
  refine (Yields.trivial _).bind fun frame _ => (walk.items_marks _ items).bind fun _ hitems =>
    (walk.fromItems_marks outer _ tables).bind fun _ htables =>
    (walk.exprOption_marks _ .unknown selection).bind fun _ hselection => ?_
  refine (HasMarks.all (walk.exprs_marks _ _ groupBy (.map rfl fun _ => rfl))).bind fun _ hgroup =>
    (walk.exprOption_marks _ .unknown having).bind fun _ hhaving =>
    (walk.exprOption_marks _ .unknown qualify).bind fun _ hqualify => .ok ?_
  simp only [List.map_append, hitems, htables, hselection, hgroup, hhaving, hqualify]
  rfl
termination_by structural select

theorem Walk.items_marks (walk : Walk) (scope : Scope) (items : List Item) :
    HasMarks (walk.items scope items) (marksOfItems items) := by
  match items with
  | [] => exact .ok rfl
  | .expr value :: rest => exact (walk.expr_marks scope .unknown value).append (walk.items_marks scope rest)
  | .aliased value _ :: rest => exact (walk.expr_marks scope .unknown value).append (walk.items_marks scope rest)
  | .wildcard _ :: rest => exact walk.items_marks scope rest
  | .qualified _ _ :: rest => exact walk.items_marks scope rest
termination_by structural items

theorem Walk.fromItems_marks (walk : Walk) (outer scope : Scope) (items : List FromItem) :
    HasMarks (walk.fromItems outer scope items) (marksOfTables items) := by
  match items with
  | [] => exact .ok rfl
  | item :: rest => exact (walk.fromItem_marks outer scope item).append (walk.fromItems_marks outer scope rest)
termination_by structural items

theorem Walk.fromItem_marks (walk : Walk) (outer scope : Scope) (item : FromItem) :
    HasMarks (walk.fromItem outer scope item) item.marks := by
  obtain ⟨relation, joins⟩ := item
  exact (walk.relation_marks outer scope relation).append (walk.joins_marks outer scope joins)
termination_by structural item

theorem Walk.joins_marks (walk : Walk) (outer scope : Scope) (joins : List Join) :
    HasMarks (walk.joins outer scope joins) (marksOfJoins joins) := by
  match joins with
  | [] => exact .ok rfl
  | ⟨relation, _, on, _, _⟩ :: rest =>
    refine (walk.relation_marks outer scope relation).bind fun _ hrelation =>
      (walk.exprOption_marks scope .unknown on).bind fun _ hon =>
      (walk.joins_marks outer scope rest).bind fun _ hrest => .ok ?_
    simp only [List.map_append, hrelation, hon, hrest]
    rfl
termination_by structural joins

theorem Walk.relation_marks (walk : Walk) (outer scope : Scope) (relation : Relation) :
    HasMarks (walk.relation outer scope relation) relation.marks := by
  cases relation with
  | table name columns given => exact .ok rfl
  | derived lateral query given => exact walk.query_marks _ query
  | joined inner given => exact walk.fromItem_marks outer scope inner
  | function name operands given => exact .ok (walk.unknowns_marks scope _)
  | hidden operands => exact .ok (walk.unknowns_marks scope _)
  | pivoted inner operands => exact .ok (walk.unknowns_marks scope _)
termination_by structural relation

end

namespace Walk

theorem assignments_marks (walk : Walk) (table : Option QualifiedName) (scope : Scope) (given : List Assignment) :
    HasMarks (walk.assignments table scope given) (marksOfAssignments given) := by
  rw [marksOfAssignments, List.flatMap_def]
  refine .all ?_
  rw [List.forall₂_map_left_iff, List.forall₂_map_right_iff, List.forall₂_same]
  intro assignment _
  have hslot : ∀ context : Context, context.slot? = none →
      HasMarks (walk.expr scope context assignment.value) (assignment.value.marks none) :=
    fun context hcontext => hcontext ▸ walk.expr_marks scope context assignment.value
  refine hslot _ ?_
  split <;> rfl

theorem targetRow_marks (walk : Walk) (table : QualifiedName) (columns : List String) (row : List Expr) :
    HasMarks (walk.targetRow table columns row) (marksOfEach row).flatten := by
  refine .all (walk.exprs_marks [] _ row ⟨List.length_mapIdx, ?_⟩)
  intro context hcontext
  obtain ⟨i, _, rfl⟩ := List.mem_mapIdx.1 hcontext
  split <;> rfl

/-- The rows of an insert, each walked under its own number. -/
theorem targetRows_marks (walk : Nat → Walk) (table : QualifiedName) (columns : List String)
    (rows : List (List Expr)) :
    HasMarks (Finding.all (rows.mapIdx fun i row => (walk i).targetRow table columns row)) (marksOfRows rows) := by
  have hflatten : marksOfRows rows = (rows.map fun row => (marksOfEach row).flatten).flatten := by
    induction rows with
    | nil => rfl
    | cons row rest ih => rw [marksOfRows, ih, List.map_cons, List.flatten_cons]
  rw [hflatten]
  clear hflatten
  refine .all ?_
  induction rows generalizing walk with
  | nil => exact .nil
  | cons row rest ih =>
    rw [List.mapIdx_cons]
    exact .cons ((walk 0).targetRow_marks table columns row) (ih _)

theorem insert_marks (walk : Walk) (given : Sql.Insert) : HasMarks (walk.insert given) given.marks := by
  have hclauses : ∀ scope inSource, inSource.map Found.mark = given.sourceMarks → HasMarks (do
      return inSource ++ (← walk.assignments (some given.table.qualified) scope given.updates) ++
        (← walk.exprOption scope .unknown given.updateWhere) ++ (← walk.items scope given.returning)) given.marks := by
    intro scope inSource hsource
    refine (walk.assignments_marks _ scope given.updates).bind fun _ hupdates =>
      (walk.exprOption_marks scope .unknown given.updateWhere).bind fun _ hwhere =>
      (walk.items_marks scope given.returning).bind fun _ hreturning => .ok ?_
    simp only [List.map_append, hsource, hupdates, hwhere, hreturning]
    rfl
  refine (Yields.trivial _).bind fun var _ => ?_
  unfold Sql.Insert.sourceMarks at hclauses
  generalize (if given.columns.isEmpty then _ else _) = columns
  split
  · next hnone =>
    simp only [hnone] at hclauses
    exact hclauses _ [] rfl
  · next source hsome =>
    simp only [hsome] at hclauses
    split
    · next rows hrows =>
      simp only [hrows] at hclauses
      exact (targetRows_marks _ _ _ rows).bind (hclauses _)
    · next hother =>
      refine (walk.query_marks [] source).bind fun inSource hsource => hclauses _ inSource ?_
      split
      · next rows hrows => exact absurd hrows (hother rows)
      · exact hsource

theorem update_marks (walk : Walk) (given : Sql.Update) : HasMarks (walk.update given) given.marks := by
  refine (Yields.trivial _).bind fun frame _ => ?_
  refine (walk.fromItem_marks [] _ given.table).bind fun _ htable =>
    (walk.assignments_marks _ _ given.assignments).bind fun _ hassignments =>
    (walk.fromItems_marks [] _ given.tables.toList).bind fun _ htables =>
    (walk.exprOption_marks _ .unknown given.selection).bind fun _ hselection =>
    (walk.items_marks _ given.returning).bind fun _ hreturning => .ok ?_
  simp only [List.map_append, htable, hassignments, htables, hselection, hreturning]
  rfl

theorem delete_marks (walk : Walk) (given : Sql.Delete) : HasMarks (walk.delete given) given.marks := by
  refine (Yields.trivial _).bind fun frame _ => ?_
  refine (walk.fromItems_marks [] _ (given.tables ++ given.others)).bind fun _ htables =>
    (walk.exprOption_marks _ .unknown given.selection).bind fun _ hselection =>
    (walk.items_marks _ given.returning).bind fun _ hreturning =>
    (HasMarks.all (walk.exprs_marks _ _ given.orderBy (.map rfl fun _ => rfl))).bind fun _ horder =>
    (walk.exprOption_marks _ .limit given.limit).bind fun _ hlimit => .ok ?_
  simp only [List.map_append, htables, hselection, hreturning, horder, hlimit]
  rfl

/-- The walk of a statement meets the placeholders of its tree in the order of the tree, whatever the catalog. -/
theorem statement_marks (walk : Walk) (statement : Statement) :
    HasMarks (walk.statement statement) statement.marks := by
  cases statement with
  | query q => exact walk.query_marks [] q
  | insert i => exact walk.insert_marks i
  | update u => exact walk.update_marks u
  | delete d => exact walk.delete_marks d
  | _ => exact .ok rfl

end Walk

end AnnotatedSql
