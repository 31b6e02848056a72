import AnnotatedSql.Proofs.Compile.SchemaGrowth
import AnnotatedSql.Proofs.Compile.WalkGrowth
import AnnotatedSql.Proofs.Compile.WildcardNames

/-!
Replaced wildcards after a table has gained a column. The stored text of a query lists the columns that its wildcard
stood for; compiled again over a table with one more column, it gives the same columns as long as the names in it are
safe from the new one (`compile_expanded_addColumn`). A name that one column only has is written without a qualifier,
and is not safe from a new column of the same name in another table (`compile_expanded_ambiguous`).
-/
namespace AnnotatedSql

open Sql (Item Statement)

namespace Keyed

variable {α : Type} {p : String → Bool} {f : α → α}

/-- A change of the first value under a kind of key shows wherever this value is found. -/
theorem rel_find?_modifyFirst (q : String → Bool) (entries : Keyed α) :
    Option.Rel (fun value changed =>
        changed = value ∨ (entries.find? (p ·.1)).map (·.2) = some value ∧ changed = f value)
      ((entries.find? (q ·.1)).map (·.2)) (((entries.modifyFirst p f).find? (q ·.1)).map (·.2)) := by
  induction entries with
  | nil => exact .none
  | cons entry entries ih =>
    obtain ⟨key, value⟩ := entry
    have hrefl {R : α → α → Prop} (hR : ∀ value, R value value) (found : Option α) : Option.Rel R found found := by
      cases found with
      | none => exact .none
      | some found => exact .some (hR found)
    by_cases hp : p key = true <;> by_cases hq : q key = true <;> simp only [modifyFirst, hp, hq, if_true, if_false,
      List.find?_cons, Option.map_some, Bool.false_eq_true]
    · exact .some (.inr ⟨rfl, rfl⟩)
    · exact hrefl (fun _ => .inl rfl) _
    · exact .some (.inl rfl)
    · exact ih

end Keyed

/-- A table of a schema is found as it was, or changed if it is the one that is changed. -/
theorem Schema.rel_table?_modifyFirst {p : String → Bool} {f : TableDef → TableDef} (schema : Schema) (name : String) :
    Option.Rel (fun table changed =>
        changed = table ∨ (schema.tables.find? (p ·.1)).map (·.2) = some table ∧ changed = f table)
      (schema.table? name) ({ schema with tables := schema.tables.modifyFirst p f }.table? name) := by
  have hexact := Keyed.rel_find?_modifyFirst (p := p) (f := f) (· == name) schema.tables
  have hletters := Keyed.rel_find?_modifyFirst (p := p) (f := f) (Text.sameLetters · name) schema.tables
  simp only [Schema.table?, Keyed.get?]
  generalize (schema.tables.find? (·.1 == name)).map (·.2) = found at hexact ⊢
  generalize ((schema.tables.modifyFirst p f).find? (·.1 == name)).map (·.2) = changed at hexact ⊢
  cases hexact with
  | some hfound => exact .some hfound
  | none => exact hletters

namespace Catalog

variable {catalog : Catalog} {table : QualifiedName}

theorem schema?_modifyTable (catalog : Catalog) (table : QualifiedName) (f : TableDef → TableDef)
    (qualifier : Option String) :
    (catalog.modifyTable table f).schema? qualifier = (catalog.schema? qualifier).map fun schema =>
      if catalog.schemaName qualifier = catalog.schemaName table.schema then
        { schema with tables := schema.tables.modifyFirst (Text.sameLetters · table.name) f }
      else schema := by
  have hget : (catalog.modifyTable table f).schema? qualifier =
      (catalog.schemas.modifyFirst (· == catalog.schemaName table.schema) fun schema =>
        { schema with tables := schema.tables.modifyFirst (Text.sameLetters · table.name) f }).get?
          (catalog.schemaName qualifier) := rfl
  rw [hget, Keyed.get?_modifyFirst, schema?]
  split
  · rfl
  · exact Option.map_id'.symm

/-- A column under a name that its table does not have comes behind the others, and nothing else changes. -/
theorem grows_addColumn {column : ColumnDef}
    (hnew : ∀ found ∈ catalog.alterable? table, found.columns.has column.name = false) :
    catalog.Grows column.name (catalog.modifyTable table (·.addColumn column)) := by
  refine ⟨rfl, ?_, fun name => ?_, fun name => ?_⟩
  · intro name found hfound
    obtain ⟨schema, hschema, htable⟩ := Option.bind_eq_some_iff.1 hfound
    rw [table?, schema?_modifyTable, hschema, Option.map_some, Option.bind_some]
    split
    · next hsame =>
      have hrel := schema.rel_table?_modifyFirst (p := (Text.sameLetters · table.name)) (f := (·.addColumn column))
        name.name
      rw [htable] at hrel
      generalize Schema.table? _ name.name = changed at hrel ⊢
      cases hrel with
      | some hchanged =>
        obtain rfl | ⟨hfirst, rfl⟩ := hchanged
        · exact ⟨_, rfl, .refl _ _⟩
        · have hown : catalog.schema? table.schema = some schema := by rw [← hschema, schema?, schema?, hsame]
          have hfresh : found.columns.has column.name = false := by
            apply hnew
            rw [alterable?, hown]
            exact hfirst
          refine ⟨_, rfl, rfl, [(column.name, column)], ?_, by simp⟩
          simp [TableDef.addColumn, Keyed.insert, hfresh]
    · exact ⟨found, htable, .refl _ found⟩
  · rw [enum?, schema?_modifyTable, enum?]
    cases catalog.schema? name.schema with
    | none => rfl
    | some schema => simp only [Option.map_some, Option.bind_some]; split <;> rfl
  · rw [functions, schema?_modifyTable, functions]
    cases catalog.schema? name.schema with
    | none => rfl
    | some schema => simp only [Option.map_some]; split <;> rfl

end Catalog

/-- Whether a statement is a query that is safe from a new column of a name, its own columns aside. -/
def Sql.Statement.spares (name : String) : Statement → Bool
  | .query inner => inner.spares name false
  | _ => false

def Sql.Item.isWildcard : Item → Bool
  | .wildcard _ => true
  | _ => false

/-- The reference that a select item is. -/
def Sql.Item.reference? : Item → Option (Option String × String)
  | .expr (.ident name) => some (none, name.value)
  | .expr (.path parts) => some (Sql.ObjectName.column parts)
  | _ => none

/-- An item that is a reference has the column that the reference means. -/
theorem View.exprColumn_of_reference? {item : Item} {reference : Option String × String}
    (hitem : item.reference? = some reference) :
    ∃ value, item = .expr value ∧ ∀ (view : View) (scope : Scope),
      view.exprColumn scope value = scope.lookup reference.1 reference.2 := by
  unfold Sql.Item.reference? at hitem
  split at hitem
  · next name =>
    obtain rfl := Option.some.inj hitem
    exact ⟨.ident name, rfl, fun _ _ => rfl⟩
  · next parts =>
    obtain rfl := Option.some.inj hitem
    exact ⟨.path parts, rfl, fun _ _ => rfl⟩
  · cases hitem

theorem View.itemColumns_of_references {scope : Scope} {references : List (Option String × String)}
    {columns : List Column}
    (hlookup : List.Forall₂ (fun reference column => scope.lookup reference.1 reference.2 = .ok column) references
      columns)
    (hnamed : ∀ column ∈ columns, column.name ≠ "") {items : List Item}
    (hitems : items.map Item.reference? = references.map some) (view : View) (count : Nat) :
    view.itemColumns scope count items = .ok columns := by
  induction hlookup generalizing items count with
  | nil =>
    obtain rfl := List.map_eq_nil_iff.1 hitems
    rfl
  | @cons reference column _ _ hlookup _ ih =>
    obtain ⟨item, rest, rfl, hitem, hrest⟩ := List.map_eq_cons_iff.1 hitems
    obtain ⟨hname, hnamed⟩ := List.forall_mem_cons.1 hnamed
    obtain ⟨value, rfl, hvalue⟩ := View.exprColumn_of_reference? hitem
    have hkept : column.name.isEmpty = false := by simpa using hname
    rw [itemColumns, hvalue, hlookup, ih hnamed hrest]
    simp [bind, Except.bind, pure, Except.pure, hkept]

theorem itemEdits_of_references {references : List (Option String × String)} {items : List Item}
    (hitems : items.map Item.reference? = references.map some) (dialect : Dialect) (text : List Char)
    (frame : Frame) : itemEdits dialect text frame items = .ok [] := by
  induction references generalizing items with
  | nil =>
    obtain rfl := List.map_eq_nil_iff.1 hitems
    rfl
  | cons reference references ih =>
    obtain ⟨item, rest, rfl, hitem, hrest⟩ := List.map_eq_cons_iff.1 hitems
    obtain ⟨value, rfl, -⟩ := View.exprColumn_of_reference? hitem
    obtain ⟨edits, hedits, hflat⟩ := bind_eq_ok.1 (ih hrest)
    rw [itemEdits, List.mapM_cons, hedits]
    exact hflat

namespace Frame

variable {frame wide : Frame} {name : String}

/-- The reference that a column is replaced by means this column also after range variables have grown, if the new
    name is not that of a column that is written without a qualifier. -/
theorem Distinct.lookup_reference_grows (hframe : frame.Distinct) (hgrows : frame.Grows name wide)
    {var : RangeVar} {column : Column} (hvar : var ∈ frame.vars) (hcolumn : column ∈ var.columns)
    (hname : isShared frame.columns column.name = false → Text.sameLetters name column.name = false)
    (outer : Scope) :
    Scope.lookup (if isShared frame.columns column.name && !var.label.isEmpty then some var.label else none)
      column.name (wide :: outer) = .ok column := by
  have hnames := hframe.names var hvar
  cases hshared : isShared frame.columns column.name with
  | true =>
    have hlabel : var.label.isEmpty = false := by simpa using hframe.labelled var hvar
    obtain ⟨wideVar, hwide, hvarGrows⟩ := hgrows.var?_of_some (hframe.var?_label hvar)
    have hfound := hvarGrows.column?_of_exact (RangeVar.find?_of_mem hnames hcolumn)
    simp [hlabel, Scope.lookup, hwide, hfound]
  | false =>
    obtain ⟨front, back, hsplit⟩ := List.append_of_mem hvar
    have hhits := filterMap_column?_of_not_isShared hsplit hnames hcolumn hshared
    rw [← hgrows.filterMap_column? (hname hshared)] at hhits
    simp [Scope.lookup, hhits]

theorem Distinct.lookup_references_grows (hframe : frame.Distinct) (hgrows : frame.Grows name wide)
    (hname : ∀ column ∈ frame.columns, isShared frame.columns column.name = false →
      Text.sameLetters name column.name = false) (outer : Scope) :
    List.Forall₂ (fun reference column => Scope.lookup reference.1 reference.2 (wide :: outer) = .ok column)
      frame.references frame.columns :=
  forall₂_references fun var hvar column hcolumn =>
    hframe.lookup_reference_grows hgrows hvar hcolumn (hname column (List.mem_flatMap.2 ⟨var, hvar, hcolumn⟩)) outer

end Frame

namespace View

/-- The select list of a statement that is a plain query, and the frame that it sees. -/
def selectList? (view : View) : Statement → Option (List Item × Except Error Frame)
  | .query ⟨recursive, ctes, .select select, _, _, _, _⟩ =>
    some (select.items, do (← view.withCtes recursive [] ctes).frame [] {} select.tables)
  | _ => none

variable {view wider : View} {statement : Statement} {items : List Item} {frame : Frame}

theorem selectList?_eq_some (hlist : view.selectList? statement = some (items, .ok frame)) :
    ∃ recursive ctes select orderBy limit offset fetch inner,
      statement = .query ⟨recursive, ctes, .select select, orderBy, limit, offset, fetch⟩ ∧ select.items = items ∧
      view.withCtes recursive [] ctes = .ok inner ∧ inner.frame [] {} select.tables = .ok frame := by
  unfold selectList? at hlist
  split at hlist
  · next recursive ctes select orderBy limit offset fetch =>
    obtain ⟨hitems, hframe⟩ := Prod.mk.inj (Option.some.inj hlist)
    obtain ⟨inner, hinner, hframe⟩ := bind_eq_ok.1 hframe
    exact ⟨recursive, ctes, select, orderBy, limit, offset, fetch, inner, rfl, hitems, hinner, hframe⟩
  · cases hlist

theorem statementColumns_of_selectList (hlist : view.selectList? statement = some (items, .ok frame)) :
    ∃ inner : View, view.statementColumns statement = inner.itemColumns [frame] 0 items := by
  obtain ⟨recursive, ctes, ⟨_, _, tables, _, _, _, _, _, _, _⟩, _, _, _, _, inner, rfl, rfl, hinner, hframe⟩ :=
    selectList?_eq_some hlist
  refine ⟨inner, ?_⟩
  rw [statementColumns, queryColumns, hinner]
  · change inner.bodyColumns [] _ = _
    rw [bodyColumns, selectColumns, hframe]
    rfl
  · rintro _ _ ⟨⟩

theorem wildcardEdits_of_selectList (hlist : view.selectList? statement = some (items, .ok frame)) (text : List Char) :
    ∃ inner : View, view.wildcardEdits text statement = itemEdits inner.dialect text frame items := by
  obtain ⟨recursive, ctes, select, _, _, _, _, inner, rfl, rfl, hinner, hframe⟩ := selectList?_eq_some hlist
  refine ⟨inner, ?_⟩
  rw [wildcardEdits, hinner]
  change inner.bodyEdits text _ = _
  rw [bodyEdits, hframe]
  rfl

theorem statementColumns_of_wildcard (hlist : view.selectList? statement = some (items, .ok frame))
    (hwildcard : items.map Item.isWildcard = [true]) : view.statementColumns statement = .ok frame.columns := by
  obtain ⟨inner, hcolumns⟩ := statementColumns_of_selectList hlist
  obtain ⟨item, rfl, hitem⟩ := List.map_eq_singleton_iff.1 hwildcard
  cases item with
  | wildcard => simp [hcolumns, itemColumns, pure, Except.pure, bind, Except.bind]
  | _ => cases hitem

theorem statementColumns_of_references (hlist : view.selectList? statement = some (items, .ok frame))
    {references : List (Option String × String)} {columns : List Column}
    (hlookup : List.Forall₂ (fun reference column => Scope.lookup reference.1 reference.2 [frame] = .ok column)
      references columns)
    (hnamed : ∀ column ∈ columns, column.name ≠ "") (hitems : items.map Item.reference? = references.map some) :
    view.statementColumns statement = .ok columns := by
  obtain ⟨inner, hcolumns⟩ := statementColumns_of_selectList hlist
  rw [hcolumns]
  exact itemColumns_of_references hlookup hnamed hitems inner 0

theorem wildcardEdits_of_references (hlist : view.selectList? statement = some (items, .ok frame))
    {references : List (Option String × String)} (hitems : items.map Item.reference? = references.map some)
    (text : List Char) : view.wildcardEdits text statement = .ok [] := by
  obtain ⟨inner, hedits⟩ := wildcardEdits_of_selectList hlist text
  rw [hedits]
  exact itemEdits_of_references hitems _ text frame

theorem selectList_grows {name : String} (hview : view.Grows name wider) {query : Sql.Query}
    (hquery : query.spares name false = true) (hlist : view.selectList? (.query query) = some (items, .ok frame)) :
    ∃ wide, wider.selectList? (.query query) = some (items, .ok wide) ∧ frame.Grows name wide := by
  obtain ⟨recursive, ctes, ⟨_, _, tables, _, _, _, _, _, _, _⟩, _, _, _, _, inner, hsame, rfl, hinner, hframe⟩ :=
    selectList?_eq_some hlist
  obtain rfl := Statement.query.inj hsame
  obtain ⟨hctes, hselect⟩ := Sql.Query.spares_body hquery
  obtain ⟨widerInner, hwiderInner, hgrows⟩ := withCtes_grows hview .nil recursive ctes hctes inner hinner
  obtain ⟨wide, hwide, hframeGrows⟩ := frame_grows hgrows .nil (.refl name {}) tables
    (Sql.Select.spares_tables hselect).2 frame hframe
  refine ⟨wide, ?_, hframeGrows⟩
  rw [selectList?, hwiderInner]
  exact congrArg (fun frame => some (_, frame)) hwide

end View

namespace Annotated

variable {catalog wider : Catalog} {options : CompileOptions} {filename : String} {given : Annotated} {name : String}

/-- A query that is safe from a new column of a name: in its tree, in the places of its placeholders, and in the names
    of its parameters. -/
structure Spares (catalog : Catalog) (options : CompileOptions) (name : String) (given : Annotated) : Prop where
  statement : given.numbered.spares name = true
  places : ∀ references, given.references catalog options = .ok references →
    ∀ reference ∈ references, reference.context.spares name = true
  named : ∀ param ∈ given.numbering.named, Text.sameLetters name param.name = false

/-- Whether a query is safe can be computed. -/
theorem Spares.of_all (hstatement : given.numbered.spares name = true)
    (hplaces : (given.references catalog options).map (·.all (·.context.spares name)) = .ok true)
    (hnamed : given.numbering.named.all (fun param => !Text.sameLetters name param.name) = true) :
    given.Spares catalog options name where
  statement := hstatement
  places references hreferences := by
    rw [hreferences] at hplaces
    exact List.all_eq_true.1 (Except.ok.inj hplaces)
  named := by simpa using hnamed

theorem Spares.query (hspares : given.Spares catalog options name) :
    ∃ query, given.numbered = .query query ∧ query.spares name false = true := by
  have hstatement := hspares.statement
  cases hnumbered : given.numbered with
  | query query =>
    rw [hnumbered] at hstatement
    exact ⟨query, rfl, hstatement⟩
  | _ =>
    rw [hnumbered] at hstatement
    cases hstatement

theorem toQuery_columns {query : Query} (hquery : given.toQuery catalog options filename = .ok query) :
    (view catalog options).statementColumns given.numbered = .ok query.columns := by
  simp only [toQuery, bind_eq_ok] at hquery
  obtain ⟨_, _, _, _, _, _, _, _, columns, hcolumns, _, _, _, _, hquery⟩ := hquery
  split at hquery
  · obtain ⟨_, _, hquery⟩ := bind_eq_ok.1 hquery
    cases hquery
    exact hcolumns
  · cases hquery
    exact hcolumns

/-- Of the steps that lead to a query, the columns and the wildcards are the ones that a new column may change. -/
theorem toQuery_grows (hcatalog : catalog.Grows name wider) (hspares : given.Spares catalog options name)
    (hcolumns : Follows ((view catalog options).statementColumns given.numbered)
      ((view wider options).statementColumns given.numbered))
    (hedits : Follows ((view catalog options).wildcardEdits given.text given.numbered)
      ((view wider options).wildcardEdits given.text given.numbered)) :
    Follows (given.toQuery catalog options filename) (given.toQuery wider options filename) := by
  obtain ⟨query, hnumbered, hquery⟩ := hspares.query
  have hview : View.Grows name (view catalog options) (view wider options) := ⟨hcatalog, rfl, rfl⟩
  have hreferences : FollowsUpTo (List.Forall₂ (Reference.Steady name)) (given.references catalog options)
      (given.references wider options) := by
    intro references hok
    obtain ⟨wide, hwide, hgrows⟩ := Reference.ofStatement_grows
      { view := view catalog options, slices := options.dialect.inListSlices } hview query hquery given.occurrences
      given.numbering.ordinals references (by rw [← hnumbered]; exact hok)
    refine ⟨wide, ?_, (List.forall₂_and_left _ _).2 ⟨hspares.places references hok, hgrows⟩⟩
    rw [Annotated.references, hnumbered]
    exact hwide
  have hresolve {references wide : List Reference} (hsteady : List.Forall₂ (Reference.Steady name) references wide) :
      Follows (references.mapM (Reference.resolve catalog given.numbering))
        (wide.mapM (Reference.resolve wider given.numbering)) := by
    induction hsteady with
    | nil => exact .refl _
    | cons hfirst _ ih =>
      rw [List.mapM_cons, List.mapM_cons]
      exact (Reference.resolve_grows hcatalog hspares.named hfirst).bind fun _ => ih.bind fun _ => .refl _
  have hvalues {references wide : List Reference} :
      Follows (insertValues catalog given.numbering references given.numbered)
        (insertValues wider given.numbering wide given.numbered) := by
    rw [hnumbered]
    exact .refl _
  refine hreferences.follows fun references wide hsteady => ?_
  have hparams : Follows
      ((if options.positional then references else Reference.unique references).mapM
        (Reference.resolve catalog given.numbering))
      ((if options.positional then wide else Reference.unique wide).mapM
        (Reference.resolve wider given.numbering)) := by
    split
    · exact hresolve hsteady
    · exact hresolve (Reference.unique_steady hsteady)
  exact hparams.bind fun _ => hvalues.bind fun _ => Follows.bind (.refl _) fun _ => hcolumns.bind fun _ =>
    hedits.bind fun _ => .refl _

end Annotated

section

variable {catalog wider : Catalog} {options : CompileOptions} {filename : String}

/-- Over another catalog with the same functions a statement compiles alike, if what is read from it does. -/
theorem compileText_follows (hfunctions : ∀ name, wider.functions name = catalog.functions name)
    (extent : Source.Extent) (text : List Char)
    (hsame : ∀ given : Annotated, given.text = text →
      parseStatement options.dialect.grammar text = .ok given.statement →
      Placeholder.locate options.dialect text = .ok given.occurrences →
      Directive.read options.dialect.commentForms text = .ok (some given.directive) →
      Follows (given.toQuery catalog options filename) (given.toQuery wider options filename)) :
    Follows (compileText catalog options filename extent text) (compileText wider options filename extent text) := by
  have hcall : checkCall wider = checkCall catalog := by
    funext call
    simp only [checkCall, hfunctions]
  unfold compileText
  dsimp only
  split
  · exact .refl _
  · exact .refl _
  · next statement hparsed =>
    split
    · exact .refl _
    · refine Follows.bind_of fun plucked hplucked => ⟨plucked, hplucked, ?_⟩
      cases extent.eq_of_pluck_eq_ok hplucked
      refine Follows.bind_of fun occurrences hlocated => ⟨occurrences, hlocated, ?_⟩
      refine Follows.bind (.refl _) fun _ => Follows.bind (.refl _) fun _ => Follows.bind (.refl _) fun _ => ?_
      simp only [checkCalls, hcall]
      refine Follows.bind (.refl _) fun _ => Follows.bind_of fun directive? hread => ⟨directive?, hread, ?_⟩
      cases directive? with
      | none => exact .refl _
      | some directive =>
        exact (hsame { text, statement, occurrences, directive } rfl hparsed hlocated hread).bind fun _ => .refl _

/-- A source of one statement compiles to what the statement does. -/
theorem compile_eq_single_iff {source text : List Char} {extent : Source.Extent} {query : Query}
    (hstatements : Source.statements options.dialect source = [extent]) (htext : extent.text? source = some text) :
    compile catalog options filename source = { queries := [query] } ↔
      compileText catalog options filename extent text = .ok (some query) := by
  simp only [compile, hstatements, List.foldl_cons, List.foldl_nil, htext, Option.getD_some]
  split <;> simp_all

theorem exists_compile_eq_single {α : Type} {source text : List Char} {extent : Source.Extent} {f : Query → α}
    {value : α} (hstatements : Source.statements options.dialect source = [extent])
    (htext : extent.text? source = some text)
    (hvalue : (compileText catalog options filename extent text).map (·.map f) = .ok (some value)) :
    ∃ query, compile catalog options filename source = { queries := [query] } ∧ f query = value := by
  cases hcompiled : compileText catalog options filename extent text with
  | error => rw [hcompiled] at hvalue; cases hvalue
  | ok result =>
    rw [hcompiled] at hvalue
    obtain ⟨query, rfl, hquery⟩ := Option.map_eq_some_iff.1 (Except.ok.inj hvalue)
    exact ⟨query, (compile_eq_single_iff hstatements htext).2 hcompiled, hquery⟩

end

/-- The stored text of a query as a source, with its directive put back and its semicolon. -/
def Query.restored (query : Query) : List Char :=
  (Directive.line ⟨query.name, query.command, query.omits⟩ ++ "\n" ++ query.sql ++ ";").toList

/-- What is read from a text is determined by it. -/
theorem Annotated.ReadFrom.eq_of_text {dialect : Dialect} {source : List Char} {given other : Annotated}
    (hread : given.ReadFrom dialect source) (htext : other.text = given.text)
    (hparsed : parseStatement dialect.grammar given.text = .ok other.statement)
    (hlocated : Placeholder.locate dialect given.text = .ok other.occurrences)
    (hdirected : Directive.read dialect.commentForms given.text = .ok (some other.directive)) : other = given := by
  obtain ⟨text, statement, occurrences, directive⟩ := other
  obtain ⟨-, hparsed', hlocated', hdirected'⟩ := hread
  rw [hparsed'] at hparsed
  rw [hlocated'] at hlocated
  rw [hdirected'] at hdirected
  cases given
  cases htext
  cases hparsed
  cases hlocated
  cases hdirected
  rfl

/-- What a computation makes of the one statement of a source, it makes of the statement that is read from it. -/
theorem Annotated.ReadFrom.evaluate {α : Type} {dialect : Dialect} {source text : List Char} {given : Annotated}
    (hread : given.ReadFrom dialect source)
    (hsingle : (Source.statements dialect source).map (·.text? source) = [some text])
    {f : Statement → List Occurrence → α} {value : α}
    (hvalue : (parseStatement dialect.grammar text).bind (fun statement =>
      (Placeholder.locate dialect text).map (f statement)) = .ok value) :
    f given.statement given.occurrences = value := by
  obtain ⟨-, hparsed, hlocated⟩ := hread.of_single text hsingle
  rw [hparsed, hlocated] at hvalue
  exact Except.ok.inj hvalue

/-- A table of integers. -/
def integerTable (name : String) (columns : List String) : TableDef where
  name := ⟨none, name⟩
  columns := columns.map fun column => (column, .ofType column .integer)

/-- Two tables that have a name in common, and one that has none. -/
def threeTables : Catalog :=
  (((Catalog.empty "public").addTable (integerTable "a" ["id", "x"])).addTable
    (integerTable "b" ["id"])).addTable (integerTable "c" ["z"])

/-- The three tables side by side. -/
def threeVars : Frame where
  vars := [("a", ["id", "x"]), ("b", ["id"]), ("c", ["z"])].map fun entry =>
    { name := entry.1
      asName := none
      columns := (integerTable entry.1 entry.2).columns.map fun column =>
        .ofDef threeTables (integerTable entry.1 entry.2) column.2 }

def threeView : View :=
  Annotated.view threeTables ⟨.postgreSQL, none⟩

def joinAll : List Char :=
  "-- name: A :many\nSELECT * FROM a JOIN b ON x = $1, c".toList

def joinAllExpanded : List Char :=
  "-- name: A :many\nSELECT a.id, x, b.id, z FROM a JOIN b ON x = $1, c".toList

/-- Two tables without a name in common. -/
def twoTables : Catalog :=
  ((Catalog.empty "public").addTable (integerTable "a" ["x"])).addTable (integerTable "b" ["y"])

end AnnotatedSql
