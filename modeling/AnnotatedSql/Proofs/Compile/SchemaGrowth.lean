import AnnotatedSql.Compile
import AnnotatedSql.Proofs.Compile.Numbering
import AnnotatedSql.Proofs.Compile.WalkExtension
import AnnotatedSql.Proofs.Source.Splice

/-!
Growth of the schema. A table under a name that is new to its schema leaves every lookup that succeeded as it was
(`Catalog.extends_addTable`), so a statement that compiles without it compiles to the same with it.
-/
namespace AnnotatedSql

open Sql (Body Item Statement)

/-- A table under a new name hides none of the others. -/
theorem Schema.table?_insert {schema : Schema} {key name : String} {table found : TableDef}
    (hfresh : ∀ other ∈ schema.tables.keys, Text.sameLetters other key = false)
    (hfound : schema.table? name = some found) :
    { schema with tables := schema.tables.insert key table }.table? name = some found := by
  have hnew : ∀ entry ∈ schema.tables, Text.sameLetters entry.1 key = false :=
    fun entry hentry => hfresh entry.1 (List.mem_map_of_mem hentry)
  have hhas : schema.tables.has key = false := by
    rw [Keyed.has, List.any_eq_false]
    rintro entry hentry hkey
    have hsame := hnew entry hentry
    rw [beq_iff_eq.1 hkey, Text.sameLetters_refl] at hsame
    cases hsame
  have hne : name ≠ key := by
    rintro rfl
    rw [Keyed.has_eq_isSome, Option.isSome_eq_false_iff, Option.isNone_iff_eq_none] at hhas
    rw [table?, hhas, Option.orElse_eq_orElse, Option.orElse_none] at hfound
    obtain ⟨entry, hentry, -⟩ := Option.map_eq_some_iff.1 hfound
    have hsame := List.find?_some hentry
    rw [hnew entry (List.mem_of_find?_eq_some hentry)] at hsame
    cases hsame
  simp only [table?, Keyed.get?_insert, if_neg hne] at hfound ⊢
  cases hexact : schema.tables.get? name with
  | some exact =>
    rw [hexact] at hfound
    exact hfound
  | none =>
    rw [hexact] at hfound
    simp only [Option.orElse_eq_orElse, Option.orElse_none] at hfound ⊢
    obtain ⟨entry, hentry, hvalue⟩ := Option.map_eq_some_iff.1 hfound
    simp [Keyed.insert, hhas, List.find?_append, hentry, hvalue]

namespace Catalog

theorem schemaName_withSchema (catalog : Catalog) (qualifier other : Option String) (f : Schema → Schema) :
    (catalog.withSchema qualifier f).schemaName other = catalog.schemaName other :=
  schemaName_ensureSchema catalog _ other

/-- A schema that is changed, or made for the purpose, is found in its changed form, and the others stay. -/
theorem schema?_withSchema (catalog : Catalog) (qualifier other : Option String) (f : Schema → Schema) :
    (catalog.withSchema qualifier f).schema? other =
      if catalog.schemaName other = catalog.schemaName qualifier then
        some (f ((catalog.schema? qualifier).getD { name := catalog.schemaName qualifier }))
      else catalog.schema? other := by
  have hensured : (catalog.ensureSchema (catalog.schemaName qualifier)).schemas.get? (catalog.schemaName other) =
      if catalog.schemaName other = catalog.schemaName qualifier then
        some ((catalog.schema? qualifier).getD { name := catalog.schemaName qualifier })
      else catalog.schema? other := by
    unfold ensureSchema
    split
    · next hhas =>
      rw [Keyed.has_eq_isSome] at hhas
      obtain ⟨schema, hschema⟩ := Option.isSome_iff_exists.1 hhas
      split
      · next hsame => rw [schema?, hsame, hschema, Option.getD_some]
      · rfl
    · next hhas =>
      rw [Keyed.has_eq_isSome, Bool.not_eq_true, Option.isSome_eq_false_iff, Option.isNone_iff_eq_none] at hhas
      simp only [Keyed.get?_insert, schema?, hhas, Option.getD_none]
  simp only [schema?, schemaName_withSchema]
  simp only [withSchema, modifySchema, schemaName_ensureSchema, Keyed.get?_modifyFirst]
  split
  · next hsame => rw [hensured, if_pos hsame, Option.map_some, schema?]
  · next hother => rw [hensured, if_neg hother, schema?]

/-- A new table changes nothing about a schema but its tables, whether the schema is new or not. -/
theorem getD_schema?_addTable (catalog : Catalog) (table : TableDef) (qualifier : Option String) :
    ∃ tables, ((catalog.addTable table).schema? qualifier).getD { name := catalog.schemaName qualifier } =
      { (catalog.schema? qualifier).getD { name := catalog.schemaName qualifier } with tables } := by
  rw [addTable, schema?_withSchema]
  split
  · next hsame =>
    have hschema : catalog.schema? qualifier = catalog.schema? table.name.schema := by rw [schema?, schema?, hsame]
    rw [hschema, hsame]
    exact ⟨_, rfl⟩
  · exact ⟨_, rfl⟩

theorem enum?_eq (catalog : Catalog) (name : QualifiedName) (empty : String) :
    catalog.enum? name = ((catalog.schema? name.schema).getD { name := empty }).enums.get? name.name := by
  rw [enum?]
  cases catalog.schema? name.schema <;> rfl

theorem functions_eq (catalog : Catalog) (name : QualifiedName) (empty : String) :
    catalog.functions name =
      ((catalog.schema? name.schema).getD { name := empty }).functions.filter (Text.sameLetters ·.name name.name) := by
  rw [functions]
  cases catalog.schema? name.schema <;> rfl

/-- A table under a name that its schema does not have in any letter case. -/
def IsFresh (catalog : Catalog) (table : TableDef) : Prop :=
  ∀ schema ∈ catalog.schema? table.name.schema, ∀ key ∈ schema.tables.keys,
    Text.sameLetters key table.name.name = false

instance (catalog : Catalog) (table : TableDef) : Decidable (catalog.IsFresh table) :=
  inferInstanceAs (Decidable (∀ schema ∈ catalog.schema? table.name.schema, ∀ key ∈ schema.tables.keys,
    Text.sameLetters key table.name.name = false))

theorem extends_addTable {catalog : Catalog} {table : TableDef} (hfresh : catalog.IsFresh table) :
    catalog.Extends (catalog.addTable table) := by
  refine ⟨defaultSchema_ensureSchema catalog _, ?_, fun name => ?_, fun name => ?_⟩
  · intro name found hfound
    obtain ⟨schema, hschema, htable⟩ := Option.bind_eq_some_iff.1 hfound
    rw [table?, addTable, schema?_withSchema]
    split
    · next hsame =>
      have hown : catalog.schema? table.name.schema = some schema := by rw [← hschema, schema?, schema?, hsame]
      rw [hown]
      exact Schema.table?_insert (hfresh schema hown) htable
    · rw [hschema]
      exact htable
  · obtain ⟨tables, hschema⟩ := catalog.getD_schema?_addTable table name.schema
    rw [enum?_eq, hschema, enum?_eq catalog]
  · obtain ⟨tables, hschema⟩ := catalog.getD_schema?_addTable table name.schema
    rw [functions_eq, hschema, functions_eq catalog]

end Catalog

theorem Follows.mapM {α β : Type} {f g : α → Except Error β} (values : List α)
    (hstep : ∀ value, Follows (f value) (g value)) : Follows (values.mapM f) (values.mapM g) := by
  induction values with
  | nil => exact .refl _
  | cons value values ih =>
    rw [List.mapM_cons, List.mapM_cons]
    exact (hstep value).bind fun _ => ih.bind fun _ => .refl _

theorem Follows.ite {α : Type} {c : Prop} [Decidable c] {first other second wider : Except Error α}
    (hfirst : Follows first other) (hsecond : Follows second wider) :
    Follows (if c then first else second) (if c then other else wider) := by
  split
  · exact hfirst
  · exact hsecond

namespace View.Extends

variable {view wider : View}

theorem returningFrame? (hview : ∀ names, view.Extends wider names) (statement : Statement) :
    Follows (view.returningFrame? statement) (wider.returningFrame? statement) := by
  cases statement with
  | insert insert => exact .ite (.refl _) (((hview _).relation none).bind fun _ => .refl _)
  | update update => exact .ite (.refl _) ((View.frame_follows (.refl []) {} _ (hview _)).bind fun _ => .refl _)
  | delete delete => exact .ite (.refl _) ((View.frame_follows (.refl []) {} _ (hview _)).bind fun _ => .refl _)
  | _ => exact .refl _

theorem statementColumns (hview : ∀ names, view.Extends wider names) (statement : Statement) :
    Follows (view.statementColumns statement) (wider.statementColumns statement) := by
  cases statement with
  | query query => exact View.queryColumns_follows (.refl []) false query (hview _)
  | _ =>
    refine (returningFrame? hview _).bind fun returned => ?_
    cases returned with
    | none => exact .refl _
    | some returned => exact View.itemColumns_follows (.refl [returned.2]) rfl 0 returned.1 (hview _)

theorem bodyEdits (hview : ∀ names, view.Extends wider names) (text : List Char) (body : Body) :
    Follows (view.bodyEdits text body) (wider.bodyEdits text body) := by
  induction body using View.bodyEdits.induct with
  | case1 select =>
    rw [View.bodyEdits, View.bodyEdits, (hview []).dialect]
    exact (View.frame_follows (.refl []) {} _ (hview _)).bind fun _ => .refl _
  | case2 left right ihleft ihright =>
    rw [View.bodyEdits, View.bodyEdits]
    exact ihleft.bind fun _ => ihright.bind fun _ => .refl _
  | case3 body hselect hoperation =>
    rw [View.bodyEdits.eq_3 _ _ _ hselect hoperation, View.bodyEdits.eq_3 _ _ _ hselect hoperation]
    exact .refl _

theorem withCtes (hview : ∀ names, view.Extends wider names) (recursive : Bool) (ctes : List Sql.Cte) {inner : View}
    (hinner : view.withCtes recursive [] ctes = .ok inner) :
    ∃ widerInner, wider.withCtes recursive [] ctes = .ok widerInner ∧ ∀ names, inner.Extends widerInner names := by
  obtain ⟨widerInner, hwider, -⟩ := View.withCtes_follows (.refl []) recursive [] ctes (hview _) hinner
  refine ⟨widerInner, hwider, fun names => ?_⟩
  obtain ⟨other, hother, hextends⟩ := View.withCtes_follows (.refl []) recursive names ctes (hview _) hinner
  rw [hwider] at hother
  cases hother
  exact hextends

theorem wildcardEdits (hview : ∀ names, view.Extends wider names) (text : List Char) (statement : Statement) :
    Follows (view.wildcardEdits text statement) (wider.wildcardEdits text statement) := by
  cases statement with
  | query query =>
    refine Follows.bind_of fun inner hinner => ?_
    obtain ⟨widerInner, hwider, hextends⟩ := withCtes hview query.recursive query.ctes hinner
    exact ⟨widerInner, hwider, bodyEdits hextends text query.body⟩
  | _ =>
    refine (returningFrame? hview _).bind fun returned => ?_
    rw [(hview []).dialect]
    exact .refl _

end View.Extends

namespace Catalog.Extends

variable {catalog wider : Catalog}

theorem view (hcatalog : catalog.Extends wider) (dialect : Dialect) (names : List String) :
    View.Extends { catalog, dialect } { catalog := wider, dialect } names :=
  ⟨hcatalog, rfl, fun _ _ => rfl⟩

theorem targetColumn (hcatalog : catalog.Extends wider) (table : QualifiedName) (column : String) :
    Follows (targetColumn catalog table column) (targetColumn wider table column) := by
  intro result hresult
  unfold AnnotatedSql.targetColumn at hresult ⊢
  cases htable : catalog.table? table with
  | none =>
    rw [htable] at hresult
    cases hresult
  | some definition =>
    rw [htable] at hresult
    rw [hcatalog.tables htable, hcatalog.ofDef]
    exact hresult

theorem resolve (hcatalog : catalog.Extends wider) (numbering : Numbering) (reference : Reference) :
    Follows (reference.resolve catalog numbering) (reference.resolve wider numbering) := by
  have hcolumn : ∀ named, Follows (reference.column catalog named) (reference.column wider named) := by
    intro named
    unfold Reference.column
    cases reference.context with
    | target table column => exact hcatalog.targetColumn table column
    | argument function index count =>
      simp only [argumentColumn, hcatalog.functions]
      exact .refl _
    | _ => exact .refl _
  exact (hcolumn _).bind fun _ => .refl _

theorem insertValues (hcatalog : catalog.Extends wider) (numbering : Numbering) (references : List Reference)
    (statement : Statement) :
    Follows (insertValues catalog numbering references statement)
      (insertValues wider numbering references statement) := by
  cases statement with
  | insert insert =>
    simp only [AnnotatedSql.insertValues]
    split
    · exact (Follows.mapM _ (hcatalog.resolve numbering)).bind fun _ => .refl _
    · exact .refl _
  | _ => exact .refl _

theorem checkCalls (hcatalog : catalog.Extends wider) (statement : Statement) :
    checkCalls wider statement = checkCalls catalog statement := by
  have hcall : checkCall wider = checkCall catalog := by
    funext call
    simp only [checkCall, hcatalog.functions]
  simp only [AnnotatedSql.checkCalls, hcall]

/-- A statement that is typed keeps its query. -/
theorem toQuery (hcatalog : catalog.Extends wider) (options : CompileOptions) (filename : String)
    (given : Annotated) :
    Follows (given.toQuery catalog options filename) (given.toQuery wider options filename) := by
  have hview := hcatalog.view options.dialect
  refine Follows.bind ?_ fun references => ?_
  · exact (Walk.statement_follows _ hview _).bind fun _ => .refl _
  · exact (Follows.mapM _ (hcatalog.resolve _)).bind fun _ =>
      (hcatalog.insertValues _ references _).bind fun _ => Follows.bind (.refl _) fun _ =>
      (View.Extends.statementColumns hview _).bind fun _ =>
      (View.Extends.wildcardEdits hview given.text _).bind fun _ => .refl _

theorem compileText (hcatalog : catalog.Extends wider) (options : CompileOptions) (filename : String)
    (extent : Source.Extent) (text : List Char) :
    Follows (compileText catalog options filename extent text) (compileText wider options filename extent text) := by
  unfold AnnotatedSql.compileText
  dsimp only
  split
  · exact .refl _
  · exact .refl _
  · next statement _ =>
    split
    · exact .refl _
    · -- Of the steps before the query only the check of calls reads the catalog.
      refine Follows.bind (.refl _) fun text => Follows.bind (.refl _) fun occurrences => ?_
      refine Follows.bind (.refl _) fun _ => Follows.bind (.refl _) fun _ => Follows.bind (.refl _) fun _ => ?_
      rw [hcatalog.checkCalls statement]
      refine Follows.bind (.refl _) fun _ => Follows.bind (.refl _) fun directive? => ?_
      cases directive? with
      | none => exact .refl _
      | some directive => exact (hcatalog.toQuery options filename _).bind fun _ => .refl _

end Catalog.Extends

/-- A statement that compiles, to a query or to nothing, compiles to the same when its catalog gets one more table,
    under a name that its schema does not have. -/
theorem compileText_addTable {catalog : Catalog} {table : TableDef} (hfresh : catalog.IsFresh table)
    (options : CompileOptions) (filename : String) (extent : Source.Extent) (text : List Char) {result : Option Query}
    (hresult : compileText catalog options filename extent text = .ok result) :
    compileText (catalog.addTable table) options filename extent text = .ok result :=
  (Catalog.extends_addTable hfresh).compileText options filename extent text result hresult

/-- A table that has the name of a common table expression below. -/
def membersTable : TableDef where
  name := ⟨some "public", "members"⟩
  columns := [("name", .ofType "name" .boolean)]

def findMembers : List Char :=
  "-- name: Find :many
WITH members AS (SELECT * FROM users WHERE name = $1) SELECT * FROM members".toList

/-- The new table has the name of a common table expression, which hides it. -/
theorem compileText_addTable_members :
    usersOnly.IsFresh membersTable ∧ ∃ query,
      compileText usersOnly ⟨.postgreSQL, none⟩ "query.sql" ⟨0, 95, true⟩ findMembers = .ok (some query) ∧
      query.columns.map (·.name) = ["id", "name"] ∧
      compileText (usersOnly.addTable membersTable) ⟨.postgreSQL, none⟩ "query.sql" ⟨0, 95, true⟩ findMembers =
        .ok (some query) := by
  have hfresh : usersOnly.IsFresh membersTable := by decide +kernel
  have hcompiled : ((compileText usersOnly ⟨.postgreSQL, none⟩ "query.sql" ⟨0, 95, true⟩ findMembers).map
      (·.map (·.columns.map (·.name)))) = .ok (some ["id", "name"]) := by
    rw [AnnotatedSql.compileText]
    simp only [Annotated.toQuery, Reference.unique_eq_insertionSort, Source.mutate_eq_insertionSort]
    decide +kernel
  cases hresult : compileText usersOnly ⟨.postgreSQL, none⟩ "query.sql" ⟨0, 95, true⟩ findMembers with
  | error error =>
    rw [hresult] at hcompiled
    cases hcompiled
  | ok result =>
    rw [hresult] at hcompiled
    cases result with
    | none => cases hcompiled
    | some query =>
      refine ⟨hfresh, query, rfl, ?_, compileText_addTable hfresh _ _ _ _ hresult⟩
      simpa [Except.map] using hcompiled

end AnnotatedSql
