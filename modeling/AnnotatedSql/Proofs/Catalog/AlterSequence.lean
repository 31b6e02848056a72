import AnnotatedSql.Proofs.Catalog.NamedTable

/-!
Several changes of a table in one statement. They are made one after another, but all of them under the name that the
table has at first. As long as a change leaves the table under its name, the next one could as well stand in a statement
of its own. Behind a change of the name the two ways part. `Draft.define?_alterTable_steady` says both.
-/
namespace AnnotatedSql

open Sql (Alteration ObjectName)

/-- A name in the form that it has in a statement. -/
def Sql.ObjectName.ofQualified (name : QualifiedName) : ObjectName :=
  (name.schema.toList ++ [name.name]).map fun part => { value := part }

theorem Sql.ObjectName.qualified_ofQualified (name : QualifiedName) : (ofQualified name).qualified = name := by
  obtain ⟨schema, name⟩ := name
  cases schema <;> rfl

namespace Catalog

variable {catalog after : Catalog} {name : QualifiedName} {change : Alteration}

/-- The name of a table after a change: a new one if the change gives it and finds the table. -/
def nameAfter (catalog : Catalog) (name : QualifiedName) : Alteration → QualifiedName
  | .renameTable new => if (catalog.removable? name).isSome then ⟨name.schema, new.qualified.name⟩ else name
  | _ => name

/-- Behind a change that gives a table another name, nothing is changed any more. -/
def Steady (catalog : Catalog) (name : QualifiedName) (changes : List Alteration) : Prop :=
  changes.Pairwise fun change later => catalog.nameAfter name change = name ∨ later = .other

theorem isSome_removable? (catalog : Catalog) (name : QualifiedName) :
    (catalog.removable? name).isSome =
      (catalog.tablesOf (catalog.schemaName name.schema)).keys.contains name.name := by
  rw [removable?_eq, stored?, ← Keyed.has_eq_isSome, Bool.eq_iff_iff, ← Keyed.mem_keys, List.contains_iff_mem]

/-- A name is known if a table has its letters. -/
theorem hasTable_eq (catalog : Catalog) (name : QualifiedName) :
    catalog.hasTable name =
      (catalog.tablesOf (catalog.schemaName name.schema)).keys.any (Text.sameLetters · name.name) := by
  have hletters : (catalog.alterable? name).isSome =
      (catalog.tablesOf (catalog.schemaName name.schema)).keys.any (Text.sameLetters · name.name) := by
    rw [alterable?_eq, Option.isSome_map, Keyed.keys, List.any_map, Bool.eq_iff_iff, List.find?_isSome,
      List.any_eq_true]
    rfl
  rw [hasTable, table?_eq]
  cases hexact : catalog.removable? name with
  | none => exact hletters
  | some table =>
    have hkey : name.name ∈ (catalog.tablesOf (catalog.schemaName name.schema)).keys := by
      rw [← List.contains_iff_mem, ← isSome_removable?, hexact, Option.isSome_some]
    have hany : (catalog.tablesOf (catalog.schemaName name.schema)).keys.any (Text.sameLetters · name.name) = true :=
      List.any_eq_true.2 ⟨name.name, hkey, Text.sameLetters_refl name.name⟩
    exact hany.symm

theorem hasTable_of_removable? {table : TableDef} (htable : catalog.removable? name = some table) :
    catalog.hasTable name = true := by
  rw [hasTable, table?_eq, htable]
  rfl

theorem schemaName_addTable (catalog : Catalog) (table : TableDef) (qualifier : Option String) :
    (catalog.addTable table).schemaName qualifier = catalog.schemaName qualifier :=
  schemaName_ensureSchema _ _ _

theorem removable?_addTable (catalog : Catalog) (table : TableDef) :
    (catalog.addTable table).removable? table.name = some table := by
  rw [removable?_eq, stored?_addTable, schemaName_addTable, Function.update_self]

/-- All that a change can do to the tables, but for giving one a new name: one of them is changed in its place. -/
theorem exists_modifyFirst_of_alter? (hchange : ∀ new, change ≠ .renameTable new)
    (hafter : catalog.alter? name change = some after) :
    after.schemaName = catalog.schemaName ∧ ∃ f : TableDef → TableDef,
      after.tablesOf = Function.update catalog.tablesOf (catalog.schemaName name.schema)
        ((catalog.tablesOf (catalog.schemaName name.schema)).modifyFirst (Text.sameLetters · name.name) f) := by
  have hsame : catalog.tablesOf = Function.update catalog.tablesOf (catalog.schemaName name.schema)
      ((catalog.tablesOf (catalog.schemaName name.schema)).modifyFirst (Text.sameLetters · name.name) id) := by
    rw [Keyed.modifyFirst_id, Function.update_eq_self]
  cases change with
  | addColumn given =>
    cases hafter
    have htables := tablesOf_modifyTable (catalog.defineColumn name given).1 name
      (·.addColumn (catalog.defineColumn name given).2)
    rw [tablesOf_defineColumn, schemaName_defineColumn] at htables
    exact ⟨schemaName_defineColumn catalog name given, _, htables⟩
  | dropColumn column =>
    cases hafter
    exact ⟨rfl, _, tablesOf_modifyTable _ _ _⟩
  | renameColumn old new =>
    rw [alter?] at hafter
    split at hafter
    · cases hafter
      exact ⟨rfl, id, hsame⟩
    · obtain ⟨changed, -, rfl⟩ := Option.map_eq_some_iff.1 hafter
      exact ⟨rfl, _, tablesOf_modifyTable _ _ _⟩
  | renameTable new => exact absurd rfl (hchange new)
  | addPrimaryKey key =>
    cases hafter
    exact ⟨rfl, _, tablesOf_modifyTable _ _ _⟩
  | other =>
    cases hafter
    exact ⟨rfl, id, hsame⟩

/-- Such a change leaves every table under its key. -/
theorem keys_tablesOf_alter? (hchange : ∀ new, change ≠ .renameTable new)
    (hafter : catalog.alter? name change = some after) (schema : String) :
    (after.tablesOf schema).keys = (catalog.tablesOf schema).keys := by
  obtain ⟨-, f, htables⟩ := exists_modifyFirst_of_alter? hchange hafter
  rw [htables]
  by_cases hschema : schema = catalog.schemaName name.schema
  · rw [hschema, Function.update_self, Keyed.keys_modifyFirst]
  · rw [Function.update_of_ne hschema]

/-- A change after which a table has the name that it had leaves all names known as they were. -/
theorem known_alter? (hname : catalog.nameAfter name change = name) (hafter : catalog.alter? name change = some after) :
    (after.removable? name).isSome = (catalog.removable? name).isSome ∧
      after.hasTable name = catalog.hasTable name := by
  by_cases hchange : ∀ new, change ≠ .renameTable new
  · have hschema := (exists_modifyFirst_of_alter? hchange hafter).1
    have hkeys := keys_tablesOf_alter? hchange hafter
    simp only [isSome_removable?, hasTable_eq, hschema, hkeys, and_self]
  · obtain ⟨new, rfl⟩ : ∃ new, change = .renameTable new := by simpa using hchange
    rw [alter?] at hafter
    split at hafter
    · cases hafter
      exact ⟨rfl, rfl⟩
    · next table hfound =>
      -- The table is put back under the key that it was taken from.
      rw [nameAfter, hfound, Option.isSome_some, if_pos rfl] at hname
      cases hafter
      have hback := removable?_addTable (catalog.removeTable name)
        { table with name := ⟨name.schema, new.qualified.name⟩ }
      dsimp only at hback
      rw [hname] at hback ⊢
      rw [hback, hfound, hasTable_of_removable? hback, hasTable_of_removable? hfound]
      exact ⟨rfl, rfl⟩

/-- Behind a change that keeps the name, the further changes find the same names. -/
theorem Steady.tail {changes : List Alteration} (hchanges : catalog.Steady name (change :: changes))
    (hname : catalog.nameAfter name change = name) (hafter : catalog.alter? name change = some after) :
    after.Steady name changes := by
  have hsame : ∀ change, after.nameAfter name change = catalog.nameAfter name change := by
    intro change
    cases change with
    | renameTable new => rw [nameAfter, nameAfter, (known_alter? hname hafter).1]
    | _ => rfl
  refine (List.pairwise_cons.1 hchanges).2.imp fun hlater => ?_
  rwa [hsame]

/-- Where no table has a name any more, changes under it reach no table whose name has other letters. -/
theorem removable?_alter?_of_gone (hgone : catalog.removable? name = none) (other : QualifiedName)
    (hschema : other.schema = name.schema) (hletters : Text.sameLetters other.name name.name = false)
    (hafter : catalog.alter? name change = some after) :
    after.removable? name = none ∧ after.removable? other = catalog.removable? other := by
  have hname : catalog.nameAfter name change = name := by
    cases change with
    | renameTable new => rw [nameAfter, hgone, if_neg (by simp)]
    | _ => rfl
  have hstill := (known_alter? hname hafter).1
  rw [hgone, Option.isSome_none, Option.isSome_eq_false_iff, Option.isNone_iff_eq_none] at hstill
  refine ⟨hstill, ?_⟩
  by_cases hchange : ∀ new, change ≠ .renameTable new
  · obtain ⟨hschemaName, f, htables⟩ := exists_modifyFirst_of_alter? hchange hafter
    rw [removable?_eq, removable?_eq, stored?, stored?, hschemaName, htables, hschema, Function.update_self]
    exact Keyed.get?_modifyFirst_of_not (p := (Text.sameLetters · name.name)) hletters f _
  · obtain ⟨new, rfl⟩ : ∃ new, change = .renameTable new := by simpa using hchange
    rw [alter?, hgone] at hafter
    cases hafter
    rfl

/-- A table that has got a name of other letters stays as it is, whatever is still changed under its old name. -/
theorem removable?_foldlM_alter?_renameTable (hcatalog : catalog.WellFormed) {table : TableDef} {new : ObjectName}
    {rest : List Alteration} (htable : catalog.removable? name = some table)
    (hletters : Text.sameLetters new.qualified.name name.name = false)
    (hafter : (.renameTable new :: rest).foldlM (fun catalog change => catalog.alter? name change) catalog =
      some after) :
    after.removable? ⟨name.schema, new.qualified.name⟩ =
      some { table with name := ⟨name.schema, new.qualified.name⟩ } := by
  rw [List.foldlM_cons, alter?, htable] at hafter
  have hother : name.name ≠ new.qualified.name := by
    intro hsame
    rw [hsame, Text.sameLetters_refl] at hletters
    cases hletters
  have hstart : ((catalog.removeTable name).addTable
      { table with name := ⟨name.schema, new.qualified.name⟩ }).removable? name = none := by
    rw [removable?_eq, stored?_addTable, schemaName_addTable, Function.update_of_ne (by simp [hother]),
      stored?_removeTable hcatalog]
    exact Function.update_self _ _ _
  refine (invariant_of_foldlM (fun state => state.removable? name = none ∧
    state.removable? ⟨name.schema, new.qualified.name⟩ = some { table with name := ⟨name.schema, new.qualified.name⟩ })
    ?_ ⟨hstart, removable?_addTable (catalog.removeTable name) _⟩ hafter).2
  rintro state change next ⟨hgone, hmoved⟩ hnext
  obtain ⟨hstill, hkept⟩ := removable?_alter?_of_gone hgone ⟨name.schema, new.qualified.name⟩ rfl hletters hnext
  exact ⟨hstill, hkept.trans hmoved⟩

end Catalog

namespace Draft

variable {draft : Draft}

/-- Changes a table by a statement for each change, under the name that the table has by then. -/
def alterEach? (draft : Draft) (name : QualifiedName) : List Alteration → Option Draft
  | [] => some draft
  | change :: rest => do
    let next ← draft.define? (.alterTable (.ofQualified name) [change])
    next.alterEach? (draft.catalog.nameAfter name change) rest

theorem define?_alterTable {name : ObjectName} (htable : draft.catalog.hasTable name.qualified = true)
    (changes : List Alteration) :
    draft.define? (.alterTable name changes) =
      (changes.foldlM (fun (catalog : Catalog) change => catalog.alter? name.qualified change) draft.catalog).map
        fun catalog => { draft with catalog } := by
  rw [define?, if_pos htable]

theorem define?_alterTable_singleton {name : QualifiedName} (htable : draft.catalog.hasTable name = true)
    (change : Alteration) :
    draft.define? (.alterTable (.ofQualified name) [change]) =
      (draft.catalog.alter? name change).map fun catalog => { draft with catalog } := by
  rw [define?_alterTable (by rwa [ObjectName.qualified_ofQualified]), ObjectName.qualified_ofQualified,
    List.foldlM_cons]
  cases draft.catalog.alter? name change <;> rfl

/-- Statements that change nothing leave the catalog as it is, under any name. -/
theorem map_catalog_alterEach?_other {changes : List Alteration} (hchanges : ∀ change ∈ changes, change = .other)
    (draft : Draft) (name : QualifiedName) :
    (draft.alterEach? name changes).map Draft.catalog = some draft.catalog := by
  induction changes generalizing draft with
  | nil => rfl
  | cons change rest ih =>
    obtain ⟨rfl, hrest⟩ := List.forall_mem_cons.1 hchanges
    have hnext : ∃ next : Draft, draft.define? (.alterTable (.ofQualified name) [.other]) = some next ∧
        next.catalog = draft.catalog := by
      rw [define?]
      split <;> exact ⟨_, rfl, rfl⟩
    obtain ⟨next, hnext, hcatalog⟩ := hnext
    rw [alterEach?, hnext, ← hcatalog]
    exact ih hrest next

theorem foldlM_alter?_other {changes : List Alteration} (hchanges : ∀ change ∈ changes, change = .other)
    (catalog : Catalog) (name : QualifiedName) :
    changes.foldlM (fun catalog change => catalog.alter? name change) catalog = some catalog := by
  induction changes with
  | nil => rfl
  | cons change rest ih =>
    obtain ⟨rfl, hrest⟩ := List.forall_mem_cons.1 hchanges
    exact ih hrest

/-- Each change leads to the same catalog, whether it stands behind others or in a statement of its own. -/
theorem map_catalog_alterEach? {name : QualifiedName} {changes : List Alteration}
    (htable : draft.catalog.hasTable name = true) (hchanges : draft.catalog.Steady name changes) :
    (draft.alterEach? name changes).map Draft.catalog =
      changes.foldlM (fun catalog change => catalog.alter? name change) draft.catalog := by
  induction changes generalizing draft with
  | nil => rfl
  | cons change rest ih =>
    rw [alterEach?, define?_alterTable_singleton htable, List.foldlM_cons]
    cases hafter : draft.catalog.alter? name change with
    | none => rfl
    | some after =>
      change (alterEach? { draft with catalog := after } (draft.catalog.nameAfter name change) rest).map _ =
        rest.foldlM _ after
      by_cases hname : draft.catalog.nameAfter name change = name
      · have hhas := (Catalog.known_alter? hname hafter).2.trans htable
        rw [hname]
        exact ih hhas (hchanges.tail hname hafter)
      · have hrest : ∀ later ∈ rest, later = .other := fun later hlater =>
          ((List.pairwise_cons.1 hchanges).1 later hlater).resolve_left hname
        rw [map_catalog_alterEach?_other hrest, foldlM_alter?_other hrest]

/-- Several changes of a table that exists lead to the same catalog as statements with one change each, if nothing is
    changed behind a change of the name. What stands behind one never reaches the table, unless the new name has the
    letters of the old one. -/
theorem define?_alterTable_steady (draft : Draft) (name : ObjectName)
    (htable : draft.catalog.hasTable name.qualified = true) :
    (∀ {changes : List Alteration}, draft.catalog.Steady name.qualified changes →
      (draft.define? (.alterTable name changes)).map Draft.catalog =
        (draft.alterEach? name.qualified changes).map Draft.catalog) ∧
    ∀ {table : TableDef} {new : ObjectName} {rest : List Alteration} {after : Draft}, draft.catalog.WellFormed →
      draft.catalog.removable? name.qualified = some table →
      Text.sameLetters new.qualified.name name.qualified.name = false →
      draft.define? (.alterTable name (.renameTable new :: rest)) = some after →
      after.catalog.removable? ⟨name.qualified.schema, new.qualified.name⟩ =
        some { table with name := ⟨name.qualified.schema, new.qualified.name⟩ } := by
  constructor
  · intro changes hchanges
    rw [map_catalog_alterEach? htable hchanges, define?_alterTable htable, Option.map_map]
    exact Option.map_id_apply
  · intro table new rest after hcatalog hfound hletters hafter
    rw [define?_alterTable htable] at hafter
    obtain ⟨catalog, hlast, rfl⟩ := Option.map_eq_some_iff.1 hafter
    exact Catalog.removable?_foldlM_alter?_renameTable hcatalog hfound hletters hlast

/-- A table of one column. -/
def users : Draft where
  catalog := (Catalog.empty "main").addTable
    { name := ⟨none, "users"⟩, columns := [("id", .ofType "id" .integer)] }

/-- The column and the table get other names, and nothing but an index follows. -/
def renamings : List Alteration :=
  [.renameColumn { value := "id" } { value := "no" }, .renameTable [{ value := "members" }], .other]

/-- The renamings can be made one by one. A column that is dropped behind the table's renaming stays. -/
theorem define?_alterTable_steady_users :
    users.catalog.hasTable ⟨none, "users"⟩ = true ∧ users.catalog.Steady ⟨none, "users"⟩ renamings ∧
    (users.alterEach? ⟨none, "users"⟩ renamings).map (·.catalog.tableNames) = some [⟨some "main", "members"⟩] ∧
    (users.define? (.alterTable [{ value := "users" }] renamings)).map Draft.catalog =
      (users.alterEach? ⟨none, "users"⟩ renamings).map Draft.catalog ∧
    ∃ after, users.define? (.alterTable [{ value := "users" }]
        [.renameTable [{ value := "members" }], .dropColumn { value := "id" }]) = some after ∧
      after.catalog.removable? ⟨none, "members"⟩ =
        some { name := ⟨none, "members"⟩, columns := [("id", .ofType "id" .integer)] } := by
  have hsteady : users.catalog.Steady ⟨none, "users"⟩ renamings := by
    simp [Catalog.Steady, renamings, Catalog.nameAfter]
  have hcatalog : users.catalog.WellFormed :=
    (Catalog.wellFormed_empty "main").addTable (.singleton ⟨rfl, rfl⟩)
  obtain ⟨after, hafter⟩ : ∃ after, users.define? (.alterTable [{ value := "users" }]
      [.renameTable [{ value := "members" }], .dropColumn { value := "id" }]) = some after := ⟨_, rfl⟩
  obtain ⟨hsame, hlost⟩ := define?_alterTable_steady users [{ value := "users" }] rfl
  exact ⟨rfl, hsteady, rfl, hsame hsteady, after, hafter, hlost hcatalog rfl (by decide) hafter⟩

/-- A column that is added behind a renaming gets lost, but not if it is added by a statement of its own. -/
theorem read?_lostColumn :
    (read? .mySQL { catalog := .empty "" } "CREATE TABLE t (id int); ALTER TABLE t RENAME TO u, ADD COLUMN x int;").map
        (fun draft => (draft.catalog.table? ⟨none, "u"⟩).map (·.columns.keys)) = some (some ["id"]) ∧
      (read? .mySQL { catalog := .empty "" }
          "CREATE TABLE t (id int); ALTER TABLE t RENAME TO u; ALTER TABLE u ADD COLUMN x int;").map
        (fun draft => (draft.catalog.table? ⟨none, "u"⟩).map (·.columns.keys)) = some (some ["id", "x"]) := by
  decide +kernel

end Draft

end AnnotatedSql
