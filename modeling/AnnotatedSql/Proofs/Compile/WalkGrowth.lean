import AnnotatedSql.Compile.Resolve
import AnnotatedSql.Proofs.Compile.ColumnGrowth
import AnnotatedSql.Proofs.Compile.WalkExtension

/-!
The walk of a statement over tables that have gained a column. It meets the same placeholders in the same places, each
with the range variables that are visible there, which have grown (`Walk.query_grows`).
-/
namespace AnnotatedSql

open Sql (Arg Body Call CallArgs Cte Expr FromItem Item Join Literal Relation Select Statement)

/-- The same placeholder, where the range variables that it sees have grown. -/
structure Found.Grows (name : String) (found wider : Found) : Prop where
  number : wider.number = found.number
  context : wider.context = found.context
  row : wider.row = found.row
  scope : found.scope.Grows name wider.scope

/-- A part of a statement in which the same placeholders are found. -/
abbrev Finding.Grows (name : String) (part wider : Finding) : Prop :=
  FollowsUpTo (List.Forall₂ (Found.Grows name)) part wider

namespace Finding.Grows

variable {name : String} {part other widerPart widerOther : Finding}

theorem nil : Finding.Grows name (.ok []) (.ok []) :=
  .ok .nil

theorem append (hpart : part.Grows name widerPart) (hother : other.Grows name widerOther) :
    Finding.Grows name (do return (← part) ++ (← other)) (do return (← widerPart) ++ (← widerOther)) :=
  hpart.bind fun _ _ hfirst => hother.bind fun _ _ hsecond => .ok (List.rel_append hfirst hsecond)

theorem all {parts others : List Finding} (hparts : List.Forall₂ (Finding.Grows name) parts others) :
    Finding.Grows name (Finding.all parts) (Finding.all others) := by
  have hmapM : FollowsUpTo (List.Forall₂ (List.Forall₂ (Found.Grows name))) (parts.mapM id) (others.mapM id) := by
    induction hparts with
    | nil => exact .ok .nil
    | cons hpart _ ih =>
      rw [List.mapM_cons, List.mapM_cons]
      exact FollowsUpTo.bind hpart fun _ _ hfirst => ih.bind fun _ _ hrest => .ok (.cons hfirst hrest)
  exact hmapM.bind fun _ _ hfound => .ok (List.rel_flatten hfound)

end Finding.Grows

/-- The placeholders of forms that say nothing about types are those of the tree. -/
theorem Walk.unknowns_grows {name : String} (walk : Walk) (wider : View) {scope widerScope : Scope}
    (hscope : scope.Grows name widerScope) (values : List Expr) :
    List.Forall₂ (Found.Grows name) (walk.unknowns scope values)
      ({ walk with view := wider }.unknowns widerScope values) := by
  refine List.rel_filterMap (R := Eq) ?_ (List.forall₂_refl values)
  rintro value _ rfl
  cases value with
  | literal value =>
    cases value with
    | placeholder => exact .some ⟨rfl, rfl, rfl, hscope⟩
    | _ => exact .none
  | _ => exact .none

section

variable {name : String}

mutual

theorem Walk.expr_grows (walk : Walk) {wider : View} {scope widerScope : Scope} (hview : walk.view.Grows name wider)
    (hscope : scope.Grows name widerScope) (typed : Bool) (context : Context) (value : Expr)
    (hvalue : value.spares name typed = true) :
    Finding.Grows name (walk.expr scope context value)
      ({ walk with view := wider }.expr widerScope context value) := by
  match value with
  | .ident _ | .path _ | .typed _ => exact .nil
  | .distinct _ _ | .interval _ | .form _ => exact .ok (walk.unknowns_grows wider hscope _)
  | .literal value =>
    cases value with
    | placeholder => exact .ok (.cons ⟨rfl, rfl, rfl, hscope⟩ .nil)
    | _ => exact .nil
  | .nested inner => exact walk.expr_grows hview hscope typed context inner hvalue
  | .binary left op right =>
    obtain ⟨hleft, hright⟩ := Bool.and_eq_true_iff.1 hvalue
    have hlefts (contexts : List Context) (lefts : List Expr) (htuple : left = .tuple lefts) :
        List.Forall₂ (Finding.Grows name) (walk.exprs scope contexts lefts)
          ({ walk with view := wider }.exprs widerScope contexts lefts) := by
      cases left with
      | tuple items =>
        rw [← Expr.tuple.inj htuple]
        exact walk.exprs_grows hview hscope false contexts items hleft
      | _ => cases htuple
    have hrights (contexts : List Context) (rights : List Expr) (htuple : right = .tuple rights) :
        List.Forall₂ (Finding.Grows name) (walk.exprs scope contexts rights)
          ({ walk with view := wider }.exprs widerScope contexts rights) := by
      cases right with
      | tuple items =>
        rw [← Expr.tuple.inj htuple]
        exact walk.exprs_grows hview hscope false contexts items hright
      | _ => cases htuple
    obtain ⟨lefts, rights, contexts, others, hleftTuple, hrightTuple, hwalk⟩ | ⟨first, second, hwalk⟩ :=
      Walk.expr_binary context left right op
    · rw [hwalk, hwalk]
      exact (Finding.Grows.all (hlefts contexts lefts hleftTuple)).append
        (.all (hrights others rights hrightTuple))
    · rw [hwalk, hwalk]
      exact (walk.expr_grows hview hscope typed first left hleft).append
        (walk.expr_grows hview hscope typed second right hright)
  | .quantified left right =>
    obtain ⟨hleft, hright⟩ := Bool.and_eq_true_iff.1 hvalue
    exact (walk.expr_grows hview hscope false .unknown left hleft).append
      (walk.expr_grows hview hscope false _ right hright)
  | .inList operand items =>
    obtain ⟨hoperand, hitems⟩ := Bool.and_eq_true_iff.1 hvalue
    exact (walk.expr_grows hview hscope typed .unknown operand hoperand).append
      (.all (walk.exprs_grows hview hscope false _ items hitems))
  | .inQuery operand query =>
    obtain ⟨hoperand, hquery⟩ := Bool.and_eq_true_iff.1 hvalue
    exact (walk.expr_grows hview hscope typed .unknown operand hoperand).append
      (walk.query_grows hview hscope false query hquery)
  | .between operand low high =>
    obtain ⟨hbelow, hhigh⟩ := Bool.and_eq_true_iff.1 hvalue
    obtain ⟨hoperand, hlow⟩ := Bool.and_eq_true_iff.1 hbelow
    exact (walk.expr_grows hview hscope typed .unknown operand hoperand).bind fun _ _ hfirst =>
      (walk.expr_grows hview hscope false _ low hlow).bind fun _ _ hsecond =>
      (walk.expr_grows hview hscope false _ high hhigh).bind fun _ _ hthird =>
        .ok (List.rel_append (List.rel_append hfirst hsecond) hthird)
  | .like operand pattern =>
    obtain ⟨hoperand, hpattern⟩ := Bool.and_eq_true_iff.1 hvalue
    exact (walk.expr_grows hview hscope typed .unknown operand hoperand).append
      (walk.expr_grows hview hscope false _ pattern hpattern)
  | .cast operand type => exact walk.expr_grows hview hscope typed (.cast type) operand hvalue
  | .call call => exact walk.call_grows hview hscope typed call hvalue
  | .case operand conditions results otherwise =>
    obtain ⟨hbranches, hotherwise⟩ := Bool.and_eq_true_iff.1 hvalue
    obtain ⟨hbranches, hresults⟩ := Bool.and_eq_true_iff.1 hbranches
    obtain ⟨hoperand, hconditions⟩ := Bool.and_eq_true_iff.1 hbranches
    have hparts := rel_interleave
      (walk.exprs_grows hview hscope false (conditions.map fun _ => (operand.map Context.ofOperand).getD .unknown)
        conditions hconditions)
      (walk.exprs_grows hview hscope typed (results.map fun _ => .unknown) results hresults)
    exact (walk.exprOption_grows hview hscope false .unknown operand hoperand).bind fun _ _ hfirst =>
      (Finding.Grows.all hparts).bind fun _ _ hsecond =>
      (walk.exprOption_grows hview hscope typed .unknown otherwise hotherwise).bind fun _ _ hthird =>
        .ok (List.rel_append (List.rel_append hfirst hsecond) hthird)
  | .subquery query => exact walk.query_grows hview hscope typed query hvalue
  | .exists query => exact walk.query_grows hview hscope false query hvalue
  | .unary _ operand => exact walk.expr_grows hview hscope typed .unknown operand hvalue
  | .test operand => exact walk.expr_grows hview hscope false .unknown operand hvalue
  | .tuple items => exact .all (walk.exprs_grows hview hscope false _ items hvalue)
termination_by structural value

theorem Walk.exprs_grows (walk : Walk) {wider : View} {scope widerScope : Scope} (hview : walk.view.Grows name wider)
    (hscope : scope.Grows name widerScope) (typed : Bool) (contexts : List Context) (values : List Expr)
    (hvalues : sparesExprs name typed values = true) :
    List.Forall₂ (Finding.Grows name) (walk.exprs scope contexts values)
      ({ walk with view := wider }.exprs widerScope contexts values) := by
  match contexts, values with
  | [], [] | [], _ :: _ | _ :: _, [] => exact .nil
  | context :: contexts, value :: rest =>
    obtain ⟨hvalue, hrest⟩ := Bool.and_eq_true_iff.1 hvalues
    exact .cons (walk.expr_grows hview hscope typed context value hvalue)
      (walk.exprs_grows hview hscope typed contexts rest hrest)
termination_by structural values

theorem Walk.exprOption_grows (walk : Walk) {wider : View} {scope widerScope : Scope}
    (hview : walk.view.Grows name wider) (hscope : scope.Grows name widerScope) (typed : Bool) (context : Context)
    (value : Option Expr) (hvalue : sparesOption name typed value = true) :
    Finding.Grows name (walk.exprOption scope context value)
      ({ walk with view := wider }.exprOption widerScope context value) := by
  match value with
  | none => exact .nil
  | some value => exact walk.expr_grows hview hscope typed context value hvalue
termination_by structural value

theorem Walk.call_grows (walk : Walk) {wider : View} {scope widerScope : Scope} (hview : walk.view.Grows name wider)
    (hscope : scope.Grows name widerScope) (typed : Bool) (call : Call) (hcall : call.spares name typed = true) :
    Finding.Grows name (walk.call scope call) ({ walk with view := wider }.call widerScope call) := by
  match call with
  | ⟨function, args, filter, window, _⟩ =>
    obtain ⟨hargs, hfilter⟩ := Bool.and_eq_true_iff.1 hcall
    exact (walk.callArgs_grows hview hscope typed _ args hargs).bind fun _ _ hfirst =>
      (walk.exprOption_grows hview hscope false .unknown filter hfilter).bind fun _ _ hsecond =>
        .ok (List.rel_append (List.rel_append hfirst hsecond) (walk.unknowns_grows wider hscope _))
termination_by structural call

theorem Walk.callArgs_grows (walk : Walk) {wider : View} {scope widerScope : Scope}
    (hview : walk.view.Grows name wider) (hscope : scope.Grows name widerScope) (typed : Bool)
    (function : QualifiedName) (args : CallArgs) (hargs : args.spares name typed = true) :
    Finding.Grows name (walk.callArgs scope function args)
      ({ walk with view := wider }.callArgs widerScope function args) := by
  match args with
  | .none => exact .nil
  | .list args clauses =>
    exact (walk.args_grows hview hscope typed function args.length 0 args hargs).bind fun _ _ hfirst =>
      .ok (List.rel_append hfirst (walk.unknowns_grows wider hscope _))
  | .query query => exact walk.query_grows hview hscope false query hargs
termination_by structural args

theorem Walk.args_grows (walk : Walk) {wider : View} {scope widerScope : Scope} (hview : walk.view.Grows name wider)
    (hscope : scope.Grows name widerScope) (typed : Bool) (function : QualifiedName) (count index : Nat)
    (args : List Arg) (hargs : sparesArgs name typed args = true) :
    Finding.Grows name (walk.args scope function count index args)
      ({ walk with view := wider }.args widerScope function count index args) := by
  match args with
  | [] => exact .nil
  | .positional value :: rest | .named value :: rest | .labelled _ value :: rest =>
    obtain ⟨hvalue, hrest⟩ := Bool.and_eq_true_iff.1 hargs
    exact (walk.exprOption_grows hview hscope typed _ value hvalue).append
      (walk.args_grows hview hscope typed function count (index + 1) rest hrest)
termination_by structural args

theorem Walk.query_grows (walk : Walk) {wider : View} {outer widerOuter : Scope}
    (hview : walk.view.Grows name wider) (houter : outer.Grows name widerOuter) (typed : Bool) (query : Sql.Query)
    (hquery : query.spares name typed = true) :
    Finding.Grows name (walk.query outer query) ({ walk with view := wider }.query widerOuter query) := by
  match query with
  | ⟨recursive, ctes, body, orderBy, limit, offset, _⟩ =>
    obtain ⟨hquery, hoffset⟩ := Bool.and_eq_true_iff.1 hquery
    obtain ⟨hquery, hlimit⟩ := Bool.and_eq_true_iff.1 hquery
    obtain ⟨hquery, horderBy⟩ := Bool.and_eq_true_iff.1 hquery
    obtain ⟨hctes, hbody⟩ := Bool.and_eq_true_iff.1 hquery
    refine (View.withCtes_grows hview houter recursive ctes hctes).bind fun inner widerInner hinner => ?_
    refine (Walk.ctes_grows { walk with view := inner } hinner houter ctes hctes).bind fun _ _ hfirst => ?_
    refine (Walk.body_grows { walk with view := inner } hinner houter typed body hbody).bind ?_
    rintro ⟨inBody, scope⟩ ⟨widerBody, widerScope⟩ ⟨hsecond, hscope⟩
    exact (Finding.Grows.all (Walk.exprs_grows { walk with view := inner } hinner hscope false _ orderBy
        horderBy)).bind fun _ _ hthird =>
      (Walk.exprOption_grows { walk with view := inner } hinner hscope false .limit limit hlimit).bind
        fun _ _ hfourth =>
      (Walk.exprOption_grows { walk with view := inner } hinner hscope false .offset offset hoffset).bind
        fun _ _ hfifth => .ok (List.rel_append (List.rel_append (List.rel_append (List.rel_append hfirst hsecond)
          hthird) hfourth) hfifth)
termination_by structural query

theorem Walk.ctes_grows (walk : Walk) {wider : View} {outer widerOuter : Scope} (hview : walk.view.Grows name wider)
    (houter : outer.Grows name widerOuter) (ctes : List Cte) (hctes : sparesCtes name ctes = true) :
    Finding.Grows name (walk.ctes outer ctes) ({ walk with view := wider }.ctes widerOuter ctes) := by
  match ctes with
  | [] => exact .nil
  | ⟨_, query⟩ :: rest =>
    obtain ⟨hquery, hrest⟩ := Bool.and_eq_true_iff.1 hctes
    exact (walk.query_grows hview houter true query hquery).append (walk.ctes_grows hview houter rest hrest)
termination_by structural ctes

theorem Walk.body_grows (walk : Walk) {wider : View} {outer widerOuter : Scope} (hview : walk.view.Grows name wider)
    (houter : outer.Grows name widerOuter) (typed : Bool) (body : Body) (hbody : body.spares name typed = true) :
    FollowsUpTo (fun found wide => List.Forall₂ (Found.Grows name) found.1 wide.1 ∧ found.2.Grows name wide.2)
      (walk.body outer body) ({ walk with view := wider }.body widerOuter body) := by
  match body with
  | .select select => exact walk.select_grows hview houter typed select hbody
  | .query query =>
    exact (walk.query_grows hview houter typed query hbody).bind fun _ _ hfound => .ok ⟨hfound, houter⟩
  | .setOperation left right =>
    obtain ⟨hleft, hright⟩ := Bool.and_eq_true_iff.1 hbody
    refine (walk.body_grows hview houter typed left hleft).bind ?_
    rintro ⟨inLeft, leftScope⟩ ⟨widerLeft, widerLeftScope⟩ ⟨hfirst, -⟩
    refine (walk.body_grows hview houter typed right hright).bind ?_
    rintro ⟨inRight, rightScope⟩ ⟨widerRight, widerRightScope⟩ ⟨hsecond, -⟩
    exact .ok ⟨List.rel_append hfirst hsecond, houter⟩
  | .values rows =>
    exact (walk.rows_grows hview houter typed rows hbody).bind fun _ _ hfound => .ok ⟨hfound, houter⟩
  | .insert _ | .update _ => exact .ok ⟨walk.unknowns_grows wider houter _, houter⟩
  | .table => exact .ok ⟨.nil, houter⟩
termination_by structural body

theorem Walk.rows_grows (walk : Walk) {wider : View} {outer widerOuter : Scope} (hview : walk.view.Grows name wider)
    (houter : outer.Grows name widerOuter) (typed : Bool) (rows : List (List Expr))
    (hrows : sparesRows name typed rows = true) :
    Finding.Grows name (walk.rows outer rows) ({ walk with view := wider }.rows widerOuter rows) := by
  match rows with
  | [] => exact .nil
  | row :: rest =>
    obtain ⟨hrow, hrest⟩ := Bool.and_eq_true_iff.1 hrows
    exact (Finding.Grows.all (walk.exprs_grows hview houter typed _ row hrow)).append
      (walk.rows_grows hview houter typed rest hrest)
termination_by structural rows

theorem Walk.select_grows (walk : Walk) {wider : View} {outer widerOuter : Scope}
    (hview : walk.view.Grows name wider) (houter : outer.Grows name widerOuter) (typed : Bool) (select : Select)
    (hselect : select.spares name typed = true) :
    FollowsUpTo (fun found wide => List.Forall₂ (Found.Grows name) found.1 wide.1 ∧ found.2.Grows name wide.2)
      (walk.select outer select) ({ walk with view := wider }.select widerOuter select) := by
  match select with
  | ⟨_, items, tables, _, selection, groupBy, _, having, _, qualify⟩ =>
    obtain ⟨hselect, hqualify⟩ := Bool.and_eq_true_iff.1 hselect
    obtain ⟨hselect, hhaving⟩ := Bool.and_eq_true_iff.1 hselect
    obtain ⟨hselect, hgroupBy⟩ := Bool.and_eq_true_iff.1 hselect
    obtain ⟨hselect, hselection⟩ := Bool.and_eq_true_iff.1 hselect
    obtain ⟨hitems, htables⟩ := Bool.and_eq_true_iff.1 hselect
    refine (View.frame_grows hview houter (.refl name {}) tables htables).bind fun frame wide hframe => ?_
    have hscope : Scope.Grows name (frame :: outer) (wide :: widerOuter) := .cons hframe houter
    refine (walk.items_grows hview hscope typed items hitems).bind fun _ _ hfirst => ?_
    refine (walk.fromItems_grows hview houter hscope tables htables).bind fun _ _ hsecond => ?_
    refine (walk.exprOption_grows hview hscope false .unknown selection hselection).bind fun _ _ hthird => ?_
    refine (Finding.Grows.all (walk.exprs_grows hview hscope false _ groupBy hgroupBy)).bind fun _ _ hfourth => ?_
    exact (walk.exprOption_grows hview hscope false .unknown having hhaving).bind fun _ _ hfifth =>
      (walk.exprOption_grows hview hscope false .unknown qualify hqualify).bind fun _ _ hsixth =>
        .ok ⟨List.rel_append (List.rel_append (List.rel_append (List.rel_append (List.rel_append hfirst hsecond)
          hthird) hfourth) hfifth) hsixth, hscope⟩
termination_by structural select

theorem Walk.items_grows (walk : Walk) {wider : View} {scope widerScope : Scope} (hview : walk.view.Grows name wider)
    (hscope : scope.Grows name widerScope) (typed : Bool) (items : List Item)
    (hitems : sparesItems name typed items = true) :
    Finding.Grows name (walk.items scope items) ({ walk with view := wider }.items widerScope items) := by
  match items with
  | [] => exact .nil
  | .expr value :: rest | .aliased value _ :: rest =>
    obtain ⟨hvalue, hrest⟩ := Bool.and_eq_true_iff.1 hitems
    exact (walk.expr_grows hview hscope typed .unknown value hvalue).append
      (walk.items_grows hview hscope typed rest hrest)
  | .wildcard _ :: rest | .qualified _ _ :: rest =>
    exact walk.items_grows hview hscope typed rest (Bool.and_eq_true_iff.1 hitems).2
termination_by structural items

theorem Walk.fromItems_grows (walk : Walk) {wider : View} {outer widerOuter scope widerScope : Scope}
    (hview : walk.view.Grows name wider) (houter : outer.Grows name widerOuter) (hscope : scope.Grows name widerScope)
    (items : List FromItem) (hitems : sparesTables name items = true) :
    Finding.Grows name (walk.fromItems outer scope items)
      ({ walk with view := wider }.fromItems widerOuter widerScope items) := by
  match items with
  | [] => exact .nil
  | item :: rest =>
    obtain ⟨hitem, hrest⟩ := Bool.and_eq_true_iff.1 hitems
    exact (walk.fromItem_grows hview houter hscope item hitem).append
      (walk.fromItems_grows hview houter hscope rest hrest)
termination_by structural items

theorem Walk.fromItem_grows (walk : Walk) {wider : View} {outer widerOuter scope widerScope : Scope}
    (hview : walk.view.Grows name wider) (houter : outer.Grows name widerOuter) (hscope : scope.Grows name widerScope)
    (item : FromItem) (hitem : item.spares name = true) :
    Finding.Grows name (walk.fromItem outer scope item)
      ({ walk with view := wider }.fromItem widerOuter widerScope item) := by
  match item with
  | ⟨relation, joins⟩ =>
    obtain ⟨hrelation, hjoins⟩ := Bool.and_eq_true_iff.1 hitem
    exact (walk.relation_grows hview houter hscope relation hrelation).append
      (walk.joins_grows hview houter hscope joins hjoins)
termination_by structural item

theorem Walk.joins_grows (walk : Walk) {wider : View} {outer widerOuter scope widerScope : Scope}
    (hview : walk.view.Grows name wider) (houter : outer.Grows name widerOuter) (hscope : scope.Grows name widerScope)
    (joins : List Join) (hjoins : sparesJoins name joins = true) :
    Finding.Grows name (walk.joins outer scope joins)
      ({ walk with view := wider }.joins widerOuter widerScope joins) := by
  match joins with
  | [] => exact .nil
  | ⟨relation, _, on, _, _⟩ :: rest =>
    obtain ⟨hjoin, hrest⟩ := Bool.and_eq_true_iff.1 hjoins
    obtain ⟨hrelation, hon⟩ := Bool.and_eq_true_iff.1 hjoin
    exact (walk.relation_grows hview houter hscope relation hrelation).bind fun _ _ hfirst =>
      (walk.exprOption_grows hview hscope false .unknown on hon).bind fun _ _ hsecond =>
      (walk.joins_grows hview houter hscope rest hrest).bind fun _ _ hthird =>
        .ok (List.rel_append (List.rel_append hfirst hsecond) hthird)
termination_by structural joins

theorem Walk.relation_grows (walk : Walk) {wider : View} {outer widerOuter scope widerScope : Scope}
    (hview : walk.view.Grows name wider) (houter : outer.Grows name widerOuter) (hscope : scope.Grows name widerScope)
    (relation : Relation) (hrelation : relation.spares name = true) :
    Finding.Grows name (walk.relation outer scope relation)
      ({ walk with view := wider }.relation widerOuter widerScope relation) := by
  match relation with
  | .table _ _ _ => exact .nil
  | .derived lateral query _ =>
    cases lateral with
    | false => exact walk.query_grows hview houter true query hrelation
    | true => exact walk.query_grows hview hscope true query hrelation
  | .joined inner _ => exact walk.fromItem_grows hview houter hscope inner (Bool.and_eq_true_iff.1 hrelation).2
  | .function _ _ _ | .hidden _ | .pivoted _ _ => exact .ok (walk.unknowns_grows wider hscope _)
termination_by structural relation

end

end

/-- The same reference, where the range variables that it sees have grown. -/
structure Reference.Grows (name : String) (reference wider : Reference) : Prop where
  number : wider.number = reference.number
  location : wider.location = reference.location
  context : wider.context = reference.context
  row : wider.row = reference.row
  scope : reference.scope.Grows name wider.scope

/-- Whether the place of a placeholder is safe from a new column of a name: it is compared with no column that the new
    one could be taken for. -/
def Context.spares (name : String) : Context → Bool
  | .column qualifier reference | .anyOf qualifier reference | .inList qualifier reference =>
    sparesReference name qualifier reference
  | .target _ _ | .argument _ _ _ | .cast _ | .limit | .offset | .unknown => true

theorem alignLimits_grows {name : String} {found wide : List Found}
    (hfound : List.Forall₂ (Found.Grows name) found wide) (occurrences : List Occurrence) :
    List.Forall₂ (Found.Grows name) (alignLimits found occurrences) (alignLimits wide occurrences) := by
  induction found, occurrences using alignLimits.induct generalizing wide with
  | case1 a b rest o p others hlimits ih =>
    obtain _ | ⟨ha, _ | ⟨hb, hrest⟩⟩ := hfound
    rw [alignLimits, if_pos hlimits, alignLimits, ha.context, hb.context, if_pos hlimits]
    exact .cons hb (.cons ha (ih hrest))
  | case2 a b rest o p others hlimits ih =>
    obtain _ | ⟨ha, _ | ⟨hb, hrest⟩⟩ := hfound
    rw [alignLimits, if_neg hlimits, alignLimits, ha.context, hb.context, if_neg hlimits]
    exact .cons ha (ih (.cons hb hrest))
  | case3 found occurrences hshort =>
    have hwide : ∀ a b rest o p others, wide = a :: b :: rest → occurrences = o :: p :: others → False := by
      rintro a b rest o p others rfl rfl
      obtain _ | ⟨_, _ | ⟨_, _⟩⟩ := hfound
      exact hshort _ _ _ _ _ _ rfl rfl
    rw [alignLimits, alignLimits]
    · exact hfound
    · exact hwide
    · exact hshort

namespace Reference

variable {name : String}

theorem ofStatement_grows (walk : Walk) {wider : View} (hview : walk.view.Grows name wider) (query : Sql.Query)
    (hquery : query.spares name false = true) (occurrences : List Occurrence) (ordinals : List Nat) :
    FollowsUpTo (List.Forall₂ (Reference.Grows name)) (ofStatement walk (.query query) occurrences ordinals)
      (ofStatement { walk with view := wider } (.query query) occurrences ordinals) := by
  refine (walk.query_grows hview .nil false query hquery).bind fun found wide hfound => ?_
  have hzip : ∀ {found wide : List Found}, List.Forall₂ (Found.Grows name) found wide →
      ∀ places : List (Occurrence × Nat), List.Forall₂ (Reference.Grows name)
        (found.zipWith (fun found place => ofFound found place.1 place.2) places)
        (wide.zipWith (fun found place => ofFound found place.1 place.2) places) := by
    intro found wide hfound
    induction hfound with
    | nil => exact fun _ => .nil
    | cons hfirst _ ih =>
      intro places
      cases places with
      | nil => exact .nil
      | cons place places =>
        refine .cons ⟨?_, rfl, hfirst.context, hfirst.row, hfirst.scope⟩ (ih places)
        simp only [ofFound, hfirst.number]
  rw [← hfound.length_eq]
  split
  · rintro _ ⟨⟩
  · exact .ok (hzip (alignLimits_grows hfound occurrences) _)

/-- A reference that has grown, in a place that is safe from the new name. -/
abbrev Steady (name : String) (reference wider : Reference) : Prop :=
  reference.context.spares name = true ∧ reference.Grows name wider

theorem merge?_steady {references wide : List Reference} (hreferences : List.Forall₂ (Steady name) references wide) :
    Option.Rel (Steady name) (merge? references) (merge? wide) := by
  cases hreferences with
  | nil => exact .none
  | @cons first other references wide hfirst hrest =>
    obtain ⟨hspared, hgrows⟩ := hfirst
    simp only [merge?, hgrows.context]
    split
    · have hfound : Option.Rel (Steady name) (references.find? (·.context ≠ .unknown))
          (wide.find? (·.context ≠ .unknown)) :=
        rel_find? hrest fun reference other hreference => by rw [hreference.2.context]
      generalize references.find? (·.context ≠ .unknown) = found, wide.find? (·.context ≠ .unknown) = wideFound
        at hfound ⊢
      cases hfound with
      | none => exact .some ⟨hspared, hgrows⟩
      | some hother =>
        exact .some ⟨hother.1, hgrows.number, hgrows.location, hother.2.context, hgrows.row, hother.2.scope⟩
    · exact .some ⟨hspared, hgrows⟩

theorem unique_steady {references wide : List Reference} (hreferences : List.Forall₂ (Steady name) references wide) :
    List.Forall₂ (Steady name) (unique references) (unique wide) := by
  have hnumbers : wide.map number = references.map number := by
    induction hreferences with
    | nil => rfl
    | cons hfirst _ ih => rw [List.map_cons, List.map_cons, ih, hfirst.2.number]
  rw [unique, unique, hnumbers]
  refine List.rel_filterMap (R := Eq) ?_ (List.forall₂_refl _)
  rintro number _ rfl
  refine merge?_steady (List.rel_filter ?_ hreferences)
  intro reference other hreference
  simp [hreference.2.number]

/-- A column that is written into is found by its name in any letter case, before the new one. -/
theorem targetColumn_grows {catalog wider : Catalog} (hcatalog : catalog.Grows name wider) (table : QualifiedName)
    (column : String) : Follows (targetColumn catalog table column) (targetColumn wider table column) := by
  intro result hresult
  unfold targetColumn at hresult ⊢
  cases htable : catalog.table? table with
  | none =>
    rw [htable] at hresult
    cases hresult
  | some definition =>
    obtain ⟨wide, hwide, hgrows⟩ := hcatalog.tables htable
    obtain ⟨extra, hextra, -⟩ := hgrows.columns
    simp only [htable] at hresult
    simp only [hwide]
    cases hfound : definition.column? column with
    | none =>
      rw [hfound] at hresult
      cases hresult
    | some found =>
      have hsame : wide.column? column = some found := by
        obtain ⟨entry, hentry, hvalue⟩ := Option.map_eq_some_iff.1 hfound
        simp [TableDef.column?, hextra, List.find?_append, hentry, hvalue]
      simp only [hfound] at hresult
      simp only [hsame, hcatalog.ofDef hgrows.sameName]
      exact hresult

/-- What the place of a reference says about its type stays, also if only its name says it. -/
theorem resolve_grows {catalog wider : Catalog} (hcatalog : catalog.Grows name wider) {numbering : Numbering}
    (hnames : ∀ param ∈ numbering.named, Text.sameLetters name param.name = false) {reference other : Reference}
    (hreference : Steady name reference other) :
    Follows (reference.resolve catalog numbering) (other.resolve wider numbering) := by
  obtain ⟨hspared, hgrows⟩ := hreference
  have hcompared : ∀ qualifier column, sparesReference name qualifier column = true →
      Follows (reference.compared qualifier column) (other.compared qualifier column) :=
    fun qualifier column hcolumn => (hgrows.scope.lookup hcolumn).bind fun _ => .refl _
  have hcolumn : Follows (reference.column catalog (numbering.param? reference.number))
      (other.column wider (numbering.param? reference.number)) := by
    unfold column
    rw [hgrows.context]
    cases hcontext : reference.context with
    | column qualifier column =>
      rw [hcontext] at hspared
      exact hcompared qualifier column hspared
    | anyOf qualifier column | inList qualifier column =>
      rw [hcontext] at hspared
      exact (hcompared qualifier column hspared).bind fun _ => .refl _
    | target table column => exact targetColumn_grows hcatalog table column
    | argument function index count =>
      simp only [argumentColumn, hcatalog.functions]
      exact .refl _
    | cast | limit | offset => exact .refl _
    | unknown =>
      cases hparam : numbering.param? reference.number with
      | none =>
        intro result hresult
        cases hresult
      | some param =>
        have hmem : param ∈ numbering.named := by
          unfold Numbering.param? at hparam
          split at hparam
          · cases hparam
          · exact List.mem_of_getElem? hparam
        have hspared : sparesReference name none param.name = true := by simp [sparesReference, hnames param hmem]
        intro result hresult
        cases hlookup : reference.scope.lookup none param.name with
        | error =>
          simp [hlookup, Except.toOption] at hresult
        | ok column =>
          have hsame := hgrows.scope.lookup hspared column hlookup
          simpa [hlookup, hsame, Except.toOption] using hresult
  unfold resolve
  rw [hgrows.number, hgrows.location]
  exact hcolumn.bind fun _ => .refl _

end Reference

end AnnotatedSql
