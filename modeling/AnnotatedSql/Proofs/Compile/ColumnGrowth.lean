import AnnotatedSql.Proofs.Compile.Extension
import Mathlib.Data.List.Forall2
import Mathlib.Data.Option.Basic

/-!
Tables that have gained a column. The range variables of a clause then have more columns behind their own, all of one
name (`View.frame_grows`), and a reference to another name means what it meant (`Scope.Grows.lookup`). So a query that
lists its columns and does not use the new name has the same ones as before (`View.queryColumns_grows`).
-/
namespace AnnotatedSql

open Sql (Arg Body Call CallArgs Cte Expr FromItem Item Join Literal ObjectName Relation Select Statement)

/-- The second computation gives something that is related to what the first one gives, unless the first one fails. -/
def FollowsUpTo {α β : Type} (R : α → β → Prop) (part : Except Error α) (other : Except Error β) : Prop :=
  ∀ result, part = .ok result → ∃ wide, other = .ok wide ∧ R result wide

namespace FollowsUpTo

variable {α β γ δ : Type} {R : α → β → Prop} {S : γ → δ → Prop} {part : Except Error α} {other : Except Error β}

theorem ok {value : α} {wide : β} (h : R value wide) : FollowsUpTo R (.ok value) (.ok wide) := by
  rintro _ ⟨⟩
  exact ⟨wide, rfl, h⟩

theorem bind {rest : α → Except Error γ} {otherRest : β → Except Error δ} (hpart : FollowsUpTo R part other)
    (hrest : ∀ value wide, R value wide → FollowsUpTo S (rest value) (otherRest wide)) :
    FollowsUpTo S (part >>= rest) (other >>= otherRest) := by
  intro result hresult
  cases hvalue : part with
  | error error =>
    rw [hvalue] at hresult
    cases hresult
  | ok value =>
    obtain ⟨wide, hwide, hrelated⟩ := hpart value hvalue
    rw [hvalue] at hresult
    rw [hwide]
    exact hrest value wide hrelated result hresult

/-- Steps that follow one another, the last of which give the same. -/
theorem follows {rest : α → Except Error γ} {otherRest : β → Except Error γ} (hpart : FollowsUpTo R part other)
    (hrest : ∀ value wide, R value wide → Follows (rest value) (otherRest wide)) :
    Follows (part >>= rest) (other >>= otherRest) := by
  refine Follows.bind_of fun value hvalue => ?_
  obtain ⟨wide, hwide, hrelated⟩ := hpart value hvalue
  exact ⟨wide, hwide, hrest value wide hrelated⟩

end FollowsUpTo

theorem Follows.upTo {α : Type} {part other : Except Error α} (hpart : Follows part other) :
    FollowsUpTo (· = ·) part other :=
  fun result hresult => ⟨result, hpart result hresult, rfl⟩

/-- Nothing is found among columns of one name by a test that this name fails. -/
theorem find?_eq_none_of_name {name : String} {columns : List Column} (hnames : ∀ column ∈ columns, column.name = name)
    {p : String → Bool} (hname : p name = false) : columns.find? (p ·.name) = none := by
  rw [List.find?_eq_none]
  intro column hcolumn
  rw [hnames column hcolumn, hname]
  exact Bool.false_ne_true

/-- A range variable with more columns behind its own, all of one name. -/
structure RangeVar.Grows (name : String) (var wider : RangeVar) : Prop where
  sameName : wider.name = var.name
  sameAlias : wider.asName = var.asName
  columns : ∃ extra, wider.columns = var.columns ++ extra ∧ ∀ column ∈ extra, column.name = name

namespace RangeVar.Grows

variable {name : String} {var wider : RangeVar}

theorem refl (name : String) (var : RangeVar) : var.Grows name var :=
  ⟨rfl, rfl, [], by simp, by simp⟩

theorem label (hvar : var.Grows name wider) : wider.label = var.label := by
  rw [RangeVar.label, RangeVar.label, hvar.sameName, hvar.sameAlias]

/-- A column that a reference spells exactly is found as before. -/
theorem column?_of_exact (hvar : var.Grows name wider) {reference : String} {column : Column}
    (hcolumn : var.columns.find? (·.name == reference) = some column) : wider.column? reference = some column := by
  obtain ⟨extra, hextra, -⟩ := hvar.columns
  simp [column?, hextra, List.find?_append, hcolumn]

theorem column?_of_ne (hvar : var.Grows name wider) {reference : String} (hreference : reference ≠ name)
    {column : Column} (hcolumn : var.column? reference = some column) : wider.column? reference = some column := by
  cases hexact : var.columns.find? (·.name == reference) with
  | some found =>
    rw [column?, hexact] at hcolumn
    exact hvar.column?_of_exact (hexact.trans hcolumn)
  | none =>
    obtain ⟨extra, hextra, hnames⟩ := hvar.columns
    have hnone : extra.find? (·.name == reference) = none :=
      find?_eq_none_of_name hnames (p := (· == reference)) (beq_eq_false_iff_ne.2 hreference.symm)
    rw [column?, hexact] at hcolumn
    replace hcolumn : var.columns.find? (Text.sameLetters ·.name reference) = some column := hcolumn
    simp [column?, hextra, List.find?_append, hexact, hnone, hcolumn]

theorem column?_eq (hvar : var.Grows name wider) {reference : String}
    (hreference : Text.sameLetters name reference = false) : wider.column? reference = var.column? reference := by
  obtain ⟨extra, hextra, hnames⟩ := hvar.columns
  have hne : name ≠ reference := by
    rintro rfl
    rw [Text.sameLetters_refl] at hreference
    cases hreference
  have hexact : extra.find? (·.name == reference) = none :=
    find?_eq_none_of_name hnames (p := (· == reference)) (beq_eq_false_iff_ne.2 hne)
  have hletters : extra.find? (Text.sameLetters ·.name reference) = none :=
    find?_eq_none_of_name hnames (p := (Text.sameLetters · reference)) hreference
  simp [column?, hextra, List.find?_append, hexact, hletters]

theorem nullable (hvar : var.Grows name wider) : var.nullable.Grows name wider.nullable := by
  obtain ⟨extra, hextra, hnames⟩ := hvar.columns
  refine ⟨hvar.sameName, hvar.sameAlias, extra.map fun column => { column with notNull := false }, ?_, ?_⟩
  · simp [RangeVar.nullable, hextra]
  · simpa using hnames

/-- An alias that names no columns leaves the new ones behind the others. -/
theorem ofColumns (label : String) {asName : Option Sql.Alias} (halias : asName.all (·.columns.isEmpty) = true)
    (columns : List Column) {extra : List Column} (hnames : ∀ column ∈ extra, column.name = name) :
    (RangeVar.ofColumns label asName columns).Grows name (RangeVar.ofColumns label asName (columns ++ extra)) := by
  cases asName with
  | none => exact ⟨rfl, rfl, extra, rfl, hnames⟩
  | some asName =>
    have hplain : asName.columns = [] := by simpa using halias
    have hrename : ∀ columns, renameColumns columns [] = columns := by
      intro columns
      cases columns <;> rfl
    refine ⟨rfl, rfl, extra.map fun column => { column with tableAlias := some asName.name.value }, ?_, ?_⟩
    · simp [RangeVar.ofColumns, hplain, hrename]
    · simpa using hnames

end RangeVar.Grows

/-- A frame whose range variables have grown. -/
structure Frame.Grows (name : String) (frame wider : Frame) : Prop where
  vars : List.Forall₂ (RangeVar.Grows name) frame.vars wider.vars
  merged : wider.merged = frame.merged

theorem Frame.Grows.refl (name : String) (frame : Frame) : frame.Grows name frame :=
  ⟨List.forall₂_same.2 fun var _ => .refl name var, rfl⟩

theorem rel_find? {α β : Type} {R : α → β → Prop} {p : α → Bool} {q : β → Bool} {values : List α} {others : List β}
    (hvalues : List.Forall₂ R values others) (hsame : ∀ value other, R value other → p value = q other) :
    Option.Rel R (values.find? p) (others.find? q) := by
  induction hvalues with
  | nil => exact .none
  | @cons value other values others hvalue _ ih =>
    rw [List.find?_cons, List.find?_cons, ← hsame value other hvalue]
    cases p value with
    | true => exact .some hvalue
    | false => exact ih

namespace Frame.Grows

variable {name : String} {frame wider : Frame}

theorem rel_var? (hframe : frame.Grows name wider) (qualifier : String) :
    Option.Rel (RangeVar.Grows name) (frame.var? qualifier) (wider.var? qualifier) := by
  refine rel_find? hframe.vars fun var wide hvar => ?_
  rw [RangeVar.isNamed, RangeVar.isNamed, hvar.label]

theorem var?_of_some (hframe : frame.Grows name wider) {qualifier : String} {var : RangeVar}
    (hvar : frame.var? qualifier = some var) : ∃ wide, wider.var? qualifier = some wide ∧ var.Grows name wide := by
  have hrel := hframe.rel_var? qualifier
  rw [hvar] at hrel
  generalize wider.var? qualifier = found at hrel ⊢
  cases hrel with
  | some hwide => exact ⟨_, rfl, hwide⟩

theorem var?_of_none (hframe : frame.Grows name wider) {qualifier : String} (hvar : frame.var? qualifier = none) :
    wider.var? qualifier = none := by
  have hrel := hframe.rel_var? qualifier
  rw [hvar] at hrel
  generalize wider.var? qualifier = found at hrel ⊢
  cases hrel
  rfl

theorem filterMap_column? (hframe : frame.Grows name wider) {reference : String}
    (hreference : Text.sameLetters name reference = false) :
    wider.vars.filterMap (·.column? reference) = frame.vars.filterMap (·.column? reference) := by
  have hvars := hframe.vars
  generalize frame.vars = vars, wider.vars = widerVars at hvars
  induction hvars with
  | nil => rfl
  | cons hvar _ ih => rw [List.filterMap_cons, List.filterMap_cons, hvar.column?_eq hreference, ih]

theorem append (hframe : frame.Grows name wider) {vars wideVars : List RangeVar}
    (hvars : List.Forall₂ (RangeVar.Grows name) vars wideVars) :
    Frame.Grows name { frame with vars := frame.vars ++ vars } { wider with vars := wider.vars ++ wideVars } :=
  ⟨List.rel_append hframe.vars hvars, hframe.merged⟩

theorem merge (hframe : frame.Grows name wider) (names : List String) :
    Frame.Grows name { frame with merged := frame.merged ++ names } { wider with merged := wider.merged ++ names } :=
  ⟨hframe.vars, by rw [hframe.merged]⟩

end Frame.Grows

/-- Whether a reference is safe from a new column of a name: with a qualifier if it is spelled otherwise, and without
    one if it differs in more than the case of letters. -/
def sparesReference (name : String) (qualifier : Option String) (reference : String) : Bool :=
  match qualifier with
  | some _ => reference != name
  | none => !Text.sameLetters name reference

/-- A scope whose range variables have grown. -/
abbrev Scope.Grows (name : String) (scope wider : Scope) : Prop :=
  List.Forall₂ (Frame.Grows name) scope wider

theorem Scope.Grows.lookup {name : String} {scope wider : Scope} (hscope : scope.Grows name wider)
    {qualifier : Option String} {reference : String} (hspared : sparesReference name qualifier reference = true) :
    Follows (scope.lookup qualifier reference) (wider.lookup qualifier reference) := by
  induction hscope with
  | nil => exact .refl _
  | @cons frame wide outer widerOuter hframe _ ih =>
    cases qualifier with
    | some qualifier =>
      have hreference : reference ≠ name := by simpa [sparesReference] using hspared
      intro column hcolumn
      simp only [Scope.lookup] at hcolumn ⊢
      cases hvar : frame.var? qualifier with
      | none =>
        rw [hvar] at hcolumn
        rw [hframe.var?_of_none hvar]
        exact ih column hcolumn
      | some var =>
        obtain ⟨wideVar, hwide, hgrows⟩ := hframe.var?_of_some hvar
        simp only [hvar] at hcolumn
        simp only [hwide]
        cases hfound : var.column? reference with
        | none =>
          rw [hfound] at hcolumn
          cases hcolumn
        | some found =>
          rw [hfound] at hcolumn
          rw [hgrows.column?_of_ne hreference hfound]
          exact hcolumn
    | none =>
      have hreference : Text.sameLetters name reference = false := by simpa [sparesReference] using hspared
      intro column hcolumn
      simp only [Scope.lookup] at hcolumn ⊢
      rw [hframe.filterMap_column? hreference, hframe.merged]
      cases hfound : frame.vars.filterMap (·.column? reference) with
      | nil =>
        rw [hfound] at hcolumn
        exact ih column hcolumn
      | cons first rest =>
        rw [hfound] at hcolumn
        cases rest <;> exact hcolumn

/-- A table with more columns behind its own, all of one name. -/
structure TableDef.Grows (name : String) (table wider : TableDef) : Prop where
  sameName : wider.name = table.name
  columns : ∃ extra, wider.columns = table.columns ++ extra ∧ ∀ entry ∈ extra, entry.2.name = name

theorem TableDef.Grows.refl (name : String) (table : TableDef) : table.Grows name table :=
  ⟨rfl, [], by simp, by simp⟩

/-- A catalog whose tables have grown, with the same enum types and functions. -/
structure Catalog.Grows (name : String) (catalog wider : Catalog) : Prop where
  defaultSchema : wider.defaultSchema = catalog.defaultSchema
  tables : ∀ {table found}, catalog.table? table = some found →
    ∃ wide, wider.table? table = some wide ∧ found.Grows name wide
  enums : ∀ table, wider.enum? table = catalog.enum? table
  functions : ∀ function, wider.functions function = catalog.functions function

theorem Catalog.Grows.ofDef {name : String} {catalog wider : Catalog} (hcatalog : catalog.Grows name wider)
    {table wide : TableDef} (htable : wide.name = table.name) :
    Column.ofDef wider wide = Column.ofDef catalog table := by
  funext column
  simp [Column.ofDef, Column.enumRef?, Catalog.schemaName, hcatalog.defaultSchema, hcatalog.enums, htable]

/-- A view of a catalog whose tables have grown. -/
structure View.Grows (name : String) (view wider : View) : Prop where
  catalog : view.catalog.Grows name wider.catalog
  dialect : wider.dialect = view.dialect
  ctes : wider.ctes = view.ctes

namespace View.Grows

variable {name : String} {view wider : View}

theorem tableVar (hview : view.Grows name wider) {table wide : TableDef} (htable : table.Grows name wide)
    {asName : Option Sql.Alias} (halias : asName.all (·.columns.isEmpty) = true) :
    (view.tableVar table asName).Grows name (wider.tableVar wide asName) := by
  obtain ⟨extra, hextra, hnames⟩ := htable.columns
  rw [View.tableVar, View.tableVar, htable.sameName, hview.catalog.ofDef htable.sameName, hextra, Keyed.values,
    Keyed.values, List.map_append, List.map_append]
  exact RangeVar.Grows.ofColumns _ halias _ (List.forall_mem_map.2 (List.forall_mem_map.2 hnames))

theorem relation (hview : view.Grows name wider) (table : ObjectName) {asName : Option Sql.Alias}
    (halias : asName.all (·.columns.isEmpty) = true) :
    FollowsUpTo (RangeVar.Grows name) (view.relation table asName) (wider.relation table asName) := by
  intro var hvar
  unfold View.relation at hvar ⊢
  simp only [hview.ctes] at hvar ⊢
  split at hvar
  · exact ⟨var, hvar, .refl name var⟩
  · split at hvar
    · next found hfound =>
      obtain ⟨wide, hwide, hgrows⟩ := hview.catalog.tables hfound
      obtain rfl := Except.ok.inj hvar
      simp only [hwide]
      exact ⟨_, rfl, hview.tableVar hgrows halias⟩
    · cases hvar

theorem addCte (hview : view.Grows name wider) (asName : Sql.Alias) (columns : List Column) :
    (view.addCte asName columns).Grows name (wider.addCte asName columns) :=
  ⟨hview.catalog, hview.dialect, by simp only [View.addCte, hview.ctes]⟩

theorem callColumn (hview : view.Grows name wider) : wider.callColumn = view.callColumn := by
  funext function count args
  simp only [View.callColumn, hview.dialect, hview.catalog.functions]

end View.Grows

mutual

/-- Whether an expression is safe from a new column of a name. An expression of which the column counts has to spare
    its references; one that is only searched for placeholders has none to spare but those of the queries in it. -/
def Sql.Expr.spares (name : String) (typed : Bool) : Expr → Bool
  | .ident ident => !typed || sparesReference name none ident.value
  | .path parts => !typed || sparesReference name (ObjectName.column parts).1 (ObjectName.column parts).2
  | .nested inner => inner.spares name typed
  | .binary left _ right => left.spares name typed && right.spares name typed
  | .unary _ operand => operand.spares name typed
  | .cast operand _ => operand.spares name typed
  | .quantified left right => left.spares name false && right.spares name false
  | .test operand => operand.spares name false
  | .inList operand items => operand.spares name typed && sparesExprs name false items
  | .inQuery operand query => operand.spares name typed && query.spares name false
  | .between operand low high =>
    operand.spares name typed && low.spares name false && high.spares name false
  | .like operand pattern => operand.spares name typed && pattern.spares name false
  | .case operand conditions results otherwise =>
    sparesOption name false operand && sparesExprs name false conditions && sparesExprs name typed results &&
      sparesOption name typed otherwise
  | .call call => call.spares name typed
  | .subquery query => query.spares name typed
  | .exists query => query.spares name false
  | .tuple items => sparesExprs name false items
  | .literal _ | .typed _ | .distinct _ _ | .interval _ | .form _ => true

def sparesExprs (name : String) (typed : Bool) : List Expr → Bool
  | [] => true
  | value :: rest => value.spares name typed && sparesExprs name typed rest

def sparesOption (name : String) (typed : Bool) : Option Expr → Bool
  | none => true
  | some value => value.spares name typed

def Sql.Call.spares (name : String) (typed : Bool) : Call → Bool
  | ⟨_, args, filter, _, _⟩ => args.spares name typed && sparesOption name false filter

def Sql.CallArgs.spares (name : String) (typed : Bool) : CallArgs → Bool
  | .none => true
  | .list args _ => sparesArgs name typed args
  | .query query => query.spares name false

def sparesArgs (name : String) (typed : Bool) : List Arg → Bool
  | [] => true
  | .positional value :: rest => sparesOption name typed value && sparesArgs name typed rest
  | .named value :: rest => sparesOption name typed value && sparesArgs name typed rest
  | .labelled _ value :: rest => sparesOption name typed value && sparesArgs name typed rest

/-- Whether a query is safe from a new column of a name. The columns of common table expressions always count. -/
def Sql.Query.spares (name : String) (typed : Bool) : Sql.Query → Bool
  | ⟨_, ctes, body, orderBy, limit, offset, _⟩ =>
    sparesCtes name ctes && body.spares name typed && sparesExprs name false orderBy &&
      sparesOption name false limit && sparesOption name false offset

def sparesCtes (name : String) : List Cte → Bool
  | [] => true
  | ⟨_, query⟩ :: rest => query.spares name true && sparesCtes name rest

def Sql.Body.spares (name : String) (typed : Bool) : Body → Bool
  | .select select => select.spares name typed
  | .query query => query.spares name typed
  | .setOperation left right => left.spares name typed && right.spares name typed
  | .values rows => sparesRows name typed rows
  | .insert _ | .update _ | .table => true

def sparesRows (name : String) (typed : Bool) : List (List Expr) → Bool
  | [] => true
  | row :: rest => sparesExprs name typed row && sparesRows name typed rest

def Sql.Select.spares (name : String) (typed : Bool) : Select → Bool
  | ⟨_, items, tables, _, selection, groupBy, _, having, _, qualify⟩ =>
    sparesItems name typed items && sparesTables name tables && sparesOption name false selection &&
      sparesExprs name false groupBy && sparesOption name false having && sparesOption name false qualify

/-- A wildcard stands for the new column too. -/
def sparesItems (name : String) (typed : Bool) : List Item → Bool
  | [] => true
  | .expr value :: rest => value.spares name typed && sparesItems name typed rest
  | .aliased value _ :: rest => value.spares name typed && sparesItems name typed rest
  | .wildcard _ :: rest => !typed && sparesItems name typed rest
  | .qualified _ _ :: rest => !typed && sparesItems name typed rest

def sparesTables (name : String) : List FromItem → Bool
  | [] => true
  | item :: rest => item.spares name && sparesTables name rest

def Sql.FromItem.spares (name : String) : FromItem → Bool
  | ⟨relation, joins⟩ => relation.spares name && sparesJoins name joins

def sparesJoins (name : String) : List Join → Bool
  | [] => true
  | ⟨relation, _, on, _, _⟩ :: rest => relation.spares name && sparesOption name false on && sparesJoins name rest

/-- Names for the columns of a table or of a join would go to other columns if there is one more. -/
def Sql.Relation.spares (name : String) : Relation → Bool
  | .table _ asName _ => asName.all (·.columns.isEmpty)
  | .derived _ query _ => query.spares name true
  | .joined inner asName => asName.isNone && inner.spares name
  | .function _ _ _ | .hidden _ | .pivoted _ _ => true

end

theorem joinSides_grows {name : String} (kind : Sql.JoinKind) {left right wideLeft wideRight : List RangeVar}
    (hleft : List.Forall₂ (RangeVar.Grows name) left wideLeft)
    (hright : List.Forall₂ (RangeVar.Grows name) right wideRight) :
    List.Forall₂ (RangeVar.Grows name) (joinSides kind left right) (joinSides kind wideLeft wideRight) := by
  have hnullable {vars wideVars : List RangeVar} (hvars : List.Forall₂ (RangeVar.Grows name) vars wideVars) :
      List.Forall₂ (RangeVar.Grows name) (vars.map RangeVar.nullable) (wideVars.map RangeVar.nullable) := by
    rw [List.forall₂_map_left_iff, List.forall₂_map_right_iff]
    exact hvars.imp fun _ _ hvar => hvar.nullable
  cases kind with
  | inner | plain => exact List.rel_append hleft hright
  | left => exact List.rel_append hleft (hnullable hright)
  | right => exact List.rel_append (hnullable hleft) hright
  | full => exact List.rel_append (hnullable hleft) (hnullable hright)

theorem Sql.Query.spares_body {name : String} {typed recursive : Bool} {ctes : List Cte} {body : Body}
    {orderBy : List Expr} {limit offset fetch : Option Expr}
    (hquery : Sql.Query.spares name typed ⟨recursive, ctes, body, orderBy, limit, offset, fetch⟩ = true) :
    sparesCtes name ctes = true ∧ body.spares name typed = true := by
  simp only [Sql.Query.spares, Bool.and_eq_true] at hquery
  exact hquery.1.1.1

theorem Sql.Select.spares_tables {name : String} {typed : Bool} {items : List Item} {tables : List FromItem}
    {head views groupBy sorting windows : List Expr} {selection having qualify : Option Expr}
    (hselect : Sql.Select.spares name typed
      ⟨head, items, tables, views, selection, groupBy, sorting, having, windows, qualify⟩ = true) :
    sparesItems name typed items = true ∧ sparesTables name tables = true := by
  simp only [Sql.Select.spares, Bool.and_eq_true] at hselect
  exact hselect.1.1.1.1

section

variable {name : String}

mutual

theorem View.withCtes_grows {view wider : View} {outer widerOuter : Scope} (hview : view.Grows name wider)
    (houter : outer.Grows name widerOuter) (recursive : Bool) (ctes : List Cte) (hctes : sparesCtes name ctes = true) :
    FollowsUpTo (View.Grows name) (view.withCtes recursive outer ctes)
      (wider.withCtes recursive widerOuter ctes) := by
  match ctes with
  | [] => exact .ok hview
  | ⟨asName, query⟩ :: rest =>
    obtain ⟨hquery, hrest⟩ := Bool.and_eq_true_iff.1 hctes
    refine (View.queryColumns_grows hview houter recursive query hquery).upTo.bind ?_
    rintro columns _ rfl
    exact View.withCtes_grows (hview.addCte asName columns) houter recursive rest hrest
termination_by structural ctes

theorem View.queryColumns_grows {view wider : View} {outer widerOuter : Scope} (hview : view.Grows name wider)
    (houter : outer.Grows name widerOuter) (recursiveTerm : Bool) (query : Sql.Query)
    (hquery : query.spares name true = true) :
    Follows (view.queryColumns recursiveTerm outer query) (wider.queryColumns recursiveTerm widerOuter query) := by
  match query with
  | ⟨recursive, ctes, body, orderBy, limit, offset, _⟩ =>
    obtain ⟨hctes, hbody⟩ := Sql.Query.spares_body hquery
    have hwhole : Follows (do (← view.withCtes recursive outer ctes).bodyColumns outer body)
        (do (← wider.withCtes recursive widerOuter ctes).bodyColumns widerOuter body) :=
      (View.withCtes_grows hview houter recursive ctes hctes).follows fun _ _ hinner =>
        View.bodyColumns_grows hinner houter body hbody
    cases recursiveTerm with
    | false => exact hwhole
    | true =>
      cases body with
      | setOperation left right =>
        exact View.bodyColumns_grows hview houter left (Bool.and_eq_true_iff.1 hbody).1
      | select | query | values | insert | update | table => exact hwhole
termination_by structural query

theorem View.bodyColumns_grows {view wider : View} {outer widerOuter : Scope} (hview : view.Grows name wider)
    (houter : outer.Grows name widerOuter) (body : Body) (hbody : body.spares name true = true) :
    Follows (view.bodyColumns outer body) (wider.bodyColumns widerOuter body) := by
  match body with
  | .select select => exact View.selectColumns_grows hview houter select hbody
  | .query query => exact View.queryColumns_grows hview houter false query hbody
  | .setOperation left right =>
    obtain ⟨hleft, hright⟩ := Bool.and_eq_true_iff.1 hbody
    exact (View.bodyColumns_grows hview houter left hleft).bind fun _ =>
      (View.bodyColumns_grows hview houter right hright).bind fun _ => .refl _
  | .values [] => exact .refl _
  | .values (row :: rest) =>
    exact View.valueColumns_grows hview houter 1 row (Bool.and_eq_true_iff.1 hbody).1
  | .insert _ | .update _ | .table => exact .refl _
termination_by structural body

theorem View.valueColumns_grows {view wider : View} {scope widerScope : Scope} (hview : view.Grows name wider)
    (hscope : scope.Grows name widerScope) (place : Nat) (values : List Expr)
    (hvalues : sparesExprs name true values = true) :
    Follows (view.valueColumns scope place values) (wider.valueColumns widerScope place values) := by
  match values with
  | [] => exact .refl _
  | value :: rest =>
    obtain ⟨hvalue, hrest⟩ := Bool.and_eq_true_iff.1 hvalues
    exact (View.exprColumn_grows hview hscope value hvalue).bind fun _ =>
      (View.valueColumns_grows hview hscope (place + 1) rest hrest).bind fun _ => .refl _
termination_by structural values

theorem View.selectColumns_grows {view wider : View} {outer widerOuter : Scope} (hview : view.Grows name wider)
    (houter : outer.Grows name widerOuter) (select : Select) (hselect : select.spares name true = true) :
    Follows (view.selectColumns outer select) (wider.selectColumns widerOuter select) := by
  match select with
  | ⟨_, items, tables, _, _, _, _, _, _, _⟩ =>
    obtain ⟨hitems, htables⟩ := Sql.Select.spares_tables hselect
    exact (View.frame_grows hview houter (.refl name {}) tables htables).follows fun _ _ hframe =>
      View.itemColumns_grows hview (.cons hframe houter) 0 items hitems
termination_by structural select

theorem View.itemColumns_grows {view wider : View} {scope widerScope : Scope} (hview : view.Grows name wider)
    (hscope : scope.Grows name widerScope) (count : Nat) (items : List Item)
    (hitems : sparesItems name true items = true) :
    Follows (view.itemColumns scope count items) (wider.itemColumns widerScope count items) := by
  match items with
  | [] => exact .refl _
  | .expr value :: rest =>
    obtain ⟨hvalue, hrest⟩ := Bool.and_eq_true_iff.1 hitems
    exact (View.exprColumn_grows hview hscope value hvalue).bind fun _ =>
      (View.itemColumns_grows hview hscope (count + 1) rest hrest).bind fun _ => .refl _
  | .aliased value asName :: rest =>
    obtain ⟨hvalue, hrest⟩ := Bool.and_eq_true_iff.1 hitems
    exact (View.exprColumn_grows hview hscope value hvalue).bind fun _ =>
      (View.itemColumns_grows hview hscope (count + 1) rest hrest).bind fun _ => .refl _
  | .wildcard _ :: rest | .qualified _ _ :: rest => cases (Bool.and_eq_true_iff.1 hitems).1
termination_by structural items

theorem View.frame_grows {view wider : View} {outer widerOuter : Scope} {frame wide : Frame}
    (hview : view.Grows name wider) (houter : outer.Grows name widerOuter) (hframe : frame.Grows name wide)
    (items : List FromItem) (hitems : sparesTables name items = true) :
    FollowsUpTo (Frame.Grows name) (view.frame outer frame items) (wider.frame widerOuter wide items) := by
  match items with
  | [] => exact .ok hframe
  | ⟨relation, joins⟩ :: rest =>
    obtain ⟨hitem, hrest⟩ := Bool.and_eq_true_iff.1 hitems
    obtain ⟨hrelation, hjoins⟩ := Bool.and_eq_true_iff.1 hitem
    refine (View.relationVars_grows hview houter hframe relation hrelation).bind fun vars wideVars hvars => ?_
    refine (View.joinVars_grows hview houter hframe hvars joins hjoins).bind ?_
    rintro ⟨joined, vars⟩ ⟨wideJoined, wideVars⟩ ⟨hjoined, hvars⟩
    exact View.frame_grows hview houter (hjoined.append hvars) rest hrest
termination_by structural items

theorem View.joinVars_grows {view wider : View} {outer widerOuter : Scope} {frame wide : Frame}
    {vars wideVars : List RangeVar} (hview : view.Grows name wider) (houter : outer.Grows name widerOuter)
    (hframe : frame.Grows name wide) (hvars : List.Forall₂ (RangeVar.Grows name) vars wideVars) (joins : List Join)
    (hjoins : sparesJoins name joins = true) :
    FollowsUpTo (fun joined wideJoined =>
        joined.1.Grows name wideJoined.1 ∧ List.Forall₂ (RangeVar.Grows name) joined.2 wideJoined.2)
      (view.joinVars outer frame vars joins) (wider.joinVars widerOuter wide wideVars joins) := by
  match joins with
  | [] => exact .ok ⟨hframe, hvars⟩
  | ⟨relation, kind, on, shared, _⟩ :: rest =>
    obtain ⟨hjoin, hrest⟩ := Bool.and_eq_true_iff.1 hjoins
    have hrelation := (Bool.and_eq_true_iff.1 hjoin).1
    refine (View.relationVars_grows hview houter hframe relation hrelation).bind fun right wideRight hright => ?_
    exact View.joinVars_grows hview houter (hframe.merge _) (joinSides_grows kind hvars hright) rest hrest
termination_by structural joins

theorem View.relationVars_grows {view wider : View} {outer widerOuter : Scope} {preceding wide : Frame}
    (hview : view.Grows name wider) (houter : outer.Grows name widerOuter) (hpreceding : preceding.Grows name wide)
    (relation : Relation) (hrelation : relation.spares name = true) :
    FollowsUpTo (List.Forall₂ (RangeVar.Grows name)) (view.relationVars outer preceding relation)
      (wider.relationVars widerOuter wide relation) := by
  match relation with
  | .table table asName _ =>
    exact (hview.relation table hrelation).bind fun _ _ hvar => .ok (.cons hvar .nil)
  | .derived lateral query asName =>
    have hscope : Scope.Grows name (if lateral then preceding :: outer else outer)
        (if lateral then wide :: widerOuter else widerOuter) := by
      cases lateral with
      | false => exact houter
      | true => exact .cons hpreceding houter
    refine (View.queryColumns_grows hview hscope false query hrelation).upTo.bind ?_
    rintro columns _ rfl
    exact .ok (.cons (.refl name _) .nil)
  | .joined inner asName =>
    obtain ⟨hplain, hinner⟩ := Bool.and_eq_true_iff.1 hrelation
    obtain rfl := Option.isNone_iff_eq_none.1 hplain
    exact (View.itemFrame_grows hview houter inner hinner).bind fun _ _ hframe => .ok hframe.vars
  | .function _ _ asName => exact .ok (List.forall₂_same.2 fun var _ => .refl name var)
  | .hidden _ | .pivoted _ _ => exact .ok .nil
termination_by structural relation

theorem View.itemFrame_grows {view wider : View} {outer widerOuter : Scope} (hview : view.Grows name wider)
    (houter : outer.Grows name widerOuter) (item : FromItem) (hitem : item.spares name = true) :
    FollowsUpTo (Frame.Grows name) (view.itemFrame outer item) (wider.itemFrame widerOuter item) := by
  match item with
  | ⟨relation, joins⟩ =>
    obtain ⟨hrelation, hjoins⟩ := Bool.and_eq_true_iff.1 hitem
    refine (View.relationVars_grows hview houter (.refl name {}) relation hrelation).bind fun vars wideVars hvars => ?_
    refine (View.joinVars_grows hview houter (.refl name {}) hvars joins hjoins).bind ?_
    rintro ⟨joined, vars⟩ ⟨wideJoined, wideVars⟩ ⟨hjoined, hvars⟩
    exact .ok ⟨hvars, hjoined.merged⟩
termination_by structural item

theorem View.exprColumn_grows {view wider : View} {scope widerScope : Scope} (hview : view.Grows name wider)
    (hscope : scope.Grows name widerScope) (value : Expr) (hvalue : value.spares name true = true) :
    Follows (view.exprColumn scope value) (wider.exprColumn widerScope value) := by
  match value with
  | .ident _ => exact hscope.lookup hvalue
  | .path _ => exact hscope.lookup hvalue
  | .nested inner => exact View.exprColumn_grows hview hscope inner hvalue
  | .literal _ | .typed _ | .test _ | .distinct _ _ | .exists _ | .interval _ => exact .refl _
  | .tuple _ | .quantified _ _ | .form _ => exact .refl _
  | .cast operand _ => exact (View.exprColumn_grows hview hscope operand hvalue).bind fun _ => .refl _
  | .binary left op right =>
    obtain ⟨hleft, hright⟩ := Bool.and_eq_true_iff.1 hvalue
    exact (View.exprColumn_grows hview hscope left hleft).bind fun _ =>
      (View.exprColumn_grows hview hscope right hright).bind fun _ => .refl _
  | .unary op operand => exact (View.exprColumn_grows hview hscope operand hvalue).bind fun _ => .refl _
  | .inList operand _ =>
    exact (View.exprColumn_grows hview hscope operand (Bool.and_eq_true_iff.1 hvalue).1).bind fun _ => .refl _
  | .inQuery operand _ =>
    exact (View.exprColumn_grows hview hscope operand (Bool.and_eq_true_iff.1 hvalue).1).bind fun _ => .refl _
  | .between operand _ _ =>
    have hbelow := (Bool.and_eq_true_iff.1 hvalue).1
    exact (View.exprColumn_grows hview hscope operand (Bool.and_eq_true_iff.1 hbelow).1).bind fun _ => .refl _
  | .like operand _ =>
    exact (View.exprColumn_grows hview hscope operand (Bool.and_eq_true_iff.1 hvalue).1).bind fun _ => .refl _
  | .case operand conditions results none =>
    have hbranches := (Bool.and_eq_true_iff.1 hvalue).1
    exact (View.exprColumns_grows hview hscope results (Bool.and_eq_true_iff.1 hbranches).2).bind fun _ => .refl _
  | .case operand conditions results (some otherwise) =>
    obtain ⟨hbranches, hotherwise⟩ := Bool.and_eq_true_iff.1 hvalue
    exact (View.exprColumns_grows hview hscope results (Bool.and_eq_true_iff.1 hbranches).2).bind fun _ =>
      (View.exprColumn_grows hview hscope otherwise hotherwise).bind fun _ => .refl _
  | .subquery query => exact (View.queryColumns_grows hview hscope false query hvalue).bind fun _ => .refl _
  | .call call => exact View.callColumns_grows hview hscope call hvalue
termination_by structural value

theorem View.exprColumns_grows {view wider : View} {scope widerScope : Scope} (hview : view.Grows name wider)
    (hscope : scope.Grows name widerScope) (values : List Expr) (hvalues : sparesExprs name true values = true) :
    Follows (view.exprColumns scope values) (wider.exprColumns widerScope values) := by
  match values with
  | [] => exact .refl _
  | value :: rest =>
    obtain ⟨hvalue, hrest⟩ := Bool.and_eq_true_iff.1 hvalues
    exact (View.exprColumn_grows hview hscope value hvalue).bind fun _ =>
      (View.exprColumns_grows hview hscope rest hrest).bind fun _ => .refl _
termination_by structural values

theorem View.callColumns_grows {view wider : View} {scope widerScope : Scope} (hview : view.Grows name wider)
    (hscope : scope.Grows name widerScope) (call : Call) (hcall : call.spares name true = true) :
    Follows (view.callColumns scope call) (wider.callColumns widerScope call) := by
  match call with
  | ⟨function, .list args _, filter, _, _⟩ =>
    rw [View.callColumns, View.callColumns, hview.callColumn]
    exact (View.argColumns_grows hview hscope args (Bool.and_eq_true_iff.1 hcall).1).bind fun _ => .refl _
  | ⟨function, .none, _, _, _⟩ | ⟨function, .query _, _, _, _⟩ =>
    simp only [View.callColumns, hview.callColumn]
    exact .refl _
termination_by structural call

theorem View.argColumns_grows {view wider : View} {scope widerScope : Scope} (hview : view.Grows name wider)
    (hscope : scope.Grows name widerScope) (args : List Arg) (hargs : sparesArgs name true args = true) :
    Follows (view.argColumns scope args) (wider.argColumns widerScope args) := by
  match args with
  | [] => exact .refl _
  | .positional none :: rest | .named none :: rest | .labelled _ none :: rest =>
    exact View.argColumns_grows hview hscope rest (Bool.and_eq_true_iff.1 hargs).2
  | .positional (some value) :: rest | .named (some value) :: rest | .labelled _ (some value) :: rest =>
    obtain ⟨hvalue, hrest⟩ := Bool.and_eq_true_iff.1 hargs
    exact (View.exprColumn_grows hview hscope value hvalue).bind fun _ =>
      (View.argColumns_grows hview hscope rest hrest).bind fun _ => .refl _
termination_by structural args

end

end

end AnnotatedSql
