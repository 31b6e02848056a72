import AnnotatedSql.Proofs.Catalog.WellFormed
import Mathlib.Logic.Function.Basic

/-!
The table that a definition acts on. A name is looked up in three ways: a query means the table that is spelled exactly
so, or else the first one up to letter case; removal and renaming know the exact spelling only; and changes of a table's
contents go to the first table up to letter case. `Draft.define?_namedTable` says when these are the same table, what
becomes of it then, and that all other tables stay as they are.
-/
namespace AnnotatedSql

open Sql (Alteration ColumnSyntax Definition ObjectName)

namespace Catalog

/-- The tables of a schema, and none if there is no such schema. -/
def tablesOf (catalog : Catalog) (schema : String) : Keyed TableDef :=
  ((catalog.schemas.get? schema).map Schema.tables).getD []

/-- The table at a place, which is a schema and a key in it. -/
def stored? (catalog : Catalog) (place : String × String) : Option TableDef :=
  (catalog.tablesOf place.1).get? place.2

section Lookup

variable {catalog : Catalog} {name : QualifiedName} {table : TableDef}

theorem removable?_eq (catalog : Catalog) (name : QualifiedName) :
    catalog.removable? name = catalog.stored? (catalog.schemaName name.schema, name.name) := by
  unfold removable? stored? tablesOf schema?
  cases catalog.schemas.get? (catalog.schemaName name.schema) <;> rfl

theorem alterable?_eq (catalog : Catalog) (name : QualifiedName) :
    catalog.alterable? name = ((catalog.tablesOf (catalog.schemaName name.schema)).find? fun entry =>
      Text.sameLetters entry.1 name.name).map (·.2) := by
  unfold alterable? tablesOf schema?
  cases catalog.schemas.get? (catalog.schemaName name.schema) <;> rfl

/-- Queries prefer the table that removal sees to the one that changes apply to. -/
theorem table?_eq (catalog : Catalog) (name : QualifiedName) :
    catalog.table? name = (catalog.removable? name <|> catalog.alterable? name) := by
  unfold table? removable? alterable?
  cases catalog.schema? name.schema <;> rfl

theorem WellFormed.tablesOf (hcatalog : catalog.WellFormed) (schema : String) :
    (catalog.tablesOf schema).WellKeyed (TableDef.Fits catalog.defaultSchema schema) := by
  unfold Catalog.tablesOf
  cases hschema : catalog.schemas.get? schema with
  | none => exact .nil
  | some found => exact (hcatalog.schemas.of_get? hschema).tables

/-- A table that is found under a key has the key as its name. -/
theorem WellFormed.name_of_stored? (hcatalog : catalog.WellFormed) {place : String × String}
    (htable : catalog.stored? place = some table) : table.name.name = place.2 :=
  ((hcatalog.tablesOf place.1).of_get? htable).name

/-- A table before which no other one of its schema has the letters of a name. -/
def IsForemost (catalog : Catalog) (name : QualifiedName) (table : TableDef) : Prop :=
  ∃ front back, catalog.tablesOf (catalog.schemaName name.schema) = front ++ (table.name.name, table) :: back ∧
    ∀ entry ∈ front, Text.sameLetters entry.1 name.name = false

theorem WellFormed.find?_of_alterable? (hcatalog : catalog.WellFormed) (htable : catalog.alterable? name = some table) :
    (catalog.tablesOf (catalog.schemaName name.schema)).find? (fun entry => Text.sameLetters entry.1 name.name) =
      some (table.name.name, table) := by
  rw [alterable?_eq] at htable
  obtain ⟨⟨key, found⟩, hentry, rfl⟩ := Option.map_eq_some_iff.1 htable
  have hname := ((hcatalog.tablesOf _).fits _ (List.mem_of_find?_eq_some hentry)).name
  rw [hentry, hname]

/-- Changes apply to a table if it is the foremost one with the letters of the name. -/
theorem WellFormed.alterable?_eq_some_iff (hcatalog : catalog.WellFormed) :
    catalog.alterable? name = some table ↔
      Text.sameLetters table.name.name name.name = true ∧ catalog.IsForemost name table := by
  constructor
  · intro htable
    obtain ⟨hsame, front, back, htables, hfront⟩ :=
      List.find?_eq_some_iff_append.1 (hcatalog.find?_of_alterable? htable)
    exact ⟨hsame, front, back, htables, by simpa using hfront⟩
  · rintro ⟨hsame, front, back, htables, hfront⟩
    rw [alterable?_eq, Option.map_eq_some_iff]
    refine ⟨(table.name.name, table), List.find?_eq_some_iff_append.2 ⟨hsame, front, back, htables, ?_⟩, rfl⟩
    simpa using hfront

theorem WellFormed.stored?_of_alterable? (hcatalog : catalog.WellFormed)
    (htable : catalog.alterable? name = some table) :
    catalog.stored? (catalog.schemaName name.schema, table.name.name) = some table :=
  (hcatalog.tablesOf _).get?_of_mem (List.mem_of_find?_eq_some (hcatalog.find?_of_alterable? htable))

/-- The table of a name stands under its own name, which has the letters of the given one. -/
theorem WellFormed.stored?_of_table? (hcatalog : catalog.WellFormed) (htable : catalog.table? name = some table) :
    catalog.stored? (catalog.schemaName name.schema, table.name.name) = some table ∧
      Text.sameLetters table.name.name name.name = true := by
  rw [table?_eq] at htable
  cases hexact : catalog.removable? name with
  | some found =>
    rw [hexact] at htable
    cases htable
    rw [removable?_eq] at hexact
    have hname := hcatalog.name_of_stored? hexact
    rw [hname]
    exact ⟨hexact, Text.sameLetters_refl name.name⟩
  | none =>
    rw [hexact] at htable
    exact ⟨hcatalog.stored?_of_alterable? htable, (hcatalog.alterable?_eq_some_iff.1 htable).1⟩

/-- Where a table has the letters of a name, there is a foremost one. -/
theorem exists_alterable? (hstored : catalog.stored? (catalog.schemaName name.schema, table.name.name) = some table)
    (hsame : Text.sameLetters table.name.name name.name = true) : ∃ first, catalog.alterable? name = some first := by
  rw [← Option.isSome_iff_exists, alterable?_eq, Option.isSome_map, List.find?_isSome]
  exact ⟨(table.name.name, table), Keyed.mem_of_get? hstored, hsame⟩

/-- Nothing stands under the given spelling of a name if its table is spelled otherwise. -/
theorem WellFormed.stored?_eq_none (hcatalog : catalog.WellFormed) (htable : catalog.table? name = some table)
    (hspelling : name.name ≠ table.name.name) :
    catalog.stored? (catalog.schemaName name.schema, name.name) = none := by
  cases hexact : catalog.stored? (catalog.schemaName name.schema, name.name) with
  | none => rfl
  | some found =>
    rw [table?_eq, removable?_eq, hexact] at htable
    cases htable
    exact absurd (hcatalog.name_of_stored? hexact).symm hspelling

end Lookup

section Change

variable {catalog after : Catalog}

/-- A change of one table in one schema changes what is stored at that place, and nothing else. -/
theorem stored?_of_tablesOf {schema key : String} {tables : Keyed TableDef} {value : Option TableDef}
    (hafter : after.tablesOf = Function.update catalog.tablesOf schema tables)
    (htables : ∀ other, tables.get? other = if other = key then value else (catalog.tablesOf schema).get? other) :
    after.stored? = Function.update catalog.stored? (schema, key) value := by
  funext ⟨place, other⟩
  rw [stored?, hafter]
  by_cases hplace : place = schema
  · subst hplace
    rw [Function.update_self, htables]
    by_cases hother : other = key
    · rw [if_pos hother, hother, Function.update_self]
    · rw [if_neg hother, Function.update_of_ne (by simp [hother]), stored?]
  · rw [Function.update_of_ne hplace, Function.update_of_ne (by simp [hplace]), stored?]

theorem tablesOf_modifySchema {qualifier : Option String} {f : Schema → Schema}
    (g : Keyed TableDef → Keyed TableDef) (hf : ∀ schema, (f schema).tables = g schema.tables)
    (hg : catalog.schemas.has (catalog.schemaName qualifier) = true ∨ g [] = []) :
    (catalog.modifySchema qualifier f).tablesOf = Function.update catalog.tablesOf (catalog.schemaName qualifier)
      (g (catalog.tablesOf (catalog.schemaName qualifier))) := by
  funext schema
  rw [tablesOf, modifySchema, Keyed.get?_modifyFirst]
  split
  · next hschema =>
    rw [← hschema] at hg ⊢
    rw [Function.update_self, tablesOf]
    rw [Keyed.has_eq_isSome] at hg
    cases hfound : catalog.schemas.get? schema with
    | none =>
      rcases hg with hhas | hg
      · rw [hfound] at hhas
        cases hhas
      · exact hg.symm
    | some found => exact hf found
  · next hschema => rw [Function.update_of_ne hschema, tablesOf]

/-- A schema that is made for a purpose has no tables at first. -/
theorem tablesOf_ensureSchema (catalog : Catalog) (name : String) :
    (catalog.ensureSchema name).tablesOf = catalog.tablesOf := by
  funext schema
  unfold ensureSchema
  split
  · rfl
  · next hhas =>
    rw [Keyed.has_eq_isSome, Bool.not_eq_true, Option.isSome_eq_false_iff, Option.isNone_iff_eq_none] at hhas
    rw [tablesOf, tablesOf, Keyed.get?_insert]
    split
    · next hschema =>
      rw [hschema, hhas]
      rfl
    · rfl

theorem has_schemas_ensureSchema (catalog : Catalog) (name : String) :
    (catalog.ensureSchema name).schemas.has name = true := by
  unfold ensureSchema
  split
  · next hhas => exact hhas
  · rw [Keyed.has_eq_isSome, Keyed.get?_insert, if_pos rfl, Option.isSome_some]

theorem tablesOf_withSchema {qualifier : Option String} {f : Schema → Schema}
    (g : Keyed TableDef → Keyed TableDef) (hf : ∀ schema, (f schema).tables = g schema.tables) :
    (catalog.withSchema qualifier f).tablesOf = Function.update catalog.tablesOf (catalog.schemaName qualifier)
      (g (catalog.tablesOf (catalog.schemaName qualifier))) := by
  rw [withSchema, tablesOf_modifySchema g hf, schemaName_ensureSchema, tablesOf_ensureSchema]
  rw [schemaName_ensureSchema]
  exact .inl (has_schemas_ensureSchema catalog _)

theorem stored?_addTable (catalog : Catalog) (table : TableDef) :
    (catalog.addTable table).stored? =
      Function.update catalog.stored? (catalog.schemaName table.name.schema, table.name.name) (some table) :=
  stored?_of_tablesOf (tablesOf_withSchema (·.insert table.name.name table) fun _ => rfl) fun other =>
    Keyed.get?_insert _ table.name.name other table

theorem stored?_removeTable (hcatalog : catalog.WellFormed) (name : QualifiedName) :
    (catalog.removeTable name).stored? =
      Function.update catalog.stored? (catalog.schemaName name.schema, name.name) none :=
  stored?_of_tablesOf (tablesOf_modifySchema (·.erase name.name) (fun _ => rfl) (.inr rfl)) fun other =>
    Keyed.get?_erase (hcatalog.tablesOf _).nodup name.name other

theorem tablesOf_modifyTable (catalog : Catalog) (name : QualifiedName) (f : TableDef → TableDef) :
    (catalog.modifyTable name f).tablesOf = Function.update catalog.tablesOf (catalog.schemaName name.schema)
      ((catalog.tablesOf (catalog.schemaName name.schema)).modifyFirst (Text.sameLetters · name.name) f) :=
  tablesOf_modifySchema (·.modifyFirst (Text.sameLetters · name.name) f) (fun _ => rfl) (.inr rfl)

theorem stored?_modifyTable (hcatalog : catalog.WellFormed) {name : QualifiedName} {table : TableDef}
    (htable : catalog.alterable? name = some table) (f : TableDef → TableDef) :
    (catalog.modifyTable name f).stored? =
      Function.update catalog.stored? (catalog.schemaName name.schema, table.name.name) (some (f table)) := by
  refine stored?_of_tablesOf (tablesOf_modifyTable catalog name f) fun other => ?_
  exact Keyed.get?_modifyFirst_of_find? (hcatalog.find?_of_alterable? htable) f other

theorem tablesOf_addEnum (catalog : Catalog) (qualifier : Option String) (type : EnumDef) :
    (catalog.addEnum qualifier type).tablesOf = catalog.tablesOf := by
  rw [addEnum, tablesOf_withSchema id]
  · exact Function.update_eq_self _ _
  · exact fun _ => rfl

/-- A column that is not in a table yet changes no table. -/
theorem tablesOf_defineColumn (catalog : Catalog) (name : QualifiedName) (given : ColumnSyntax) :
    (catalog.defineColumn name given).1.tablesOf = catalog.tablesOf := by
  unfold defineColumn
  dsimp only
  split
  · exact tablesOf_addEnum _ _ _
  · rfl

theorem schemaName_defineColumn (catalog : Catalog) (name : QualifiedName) (given : ColumnSyntax) :
    (catalog.defineColumn name given).1.schemaName = catalog.schemaName := by
  funext qualifier
  unfold defineColumn
  dsimp only
  split
  · exact schemaName_ensureSchema _ _ _
  · rfl

/-- What a change of its contents makes of a table. There is no outcome if a column cannot take its new name. -/
def changed? (catalog : Catalog) (name : QualifiedName) (table : TableDef) : Alteration → Option TableDef
  | .addColumn given => some (table.addColumn (catalog.defineColumn name given).2)
  | .dropColumn column => some { table with columns := table.columns.erase column.value }
  | .renameColumn old new => renameColumn? table old.value new.value
  | .addPrimaryKey key => some (table.addPrimaryKey key)
  | .renameTable _ | .other => some table

/-- A change other than of the name is made to the foremost table with the letters of the name. -/
theorem map_stored?_alter? (hcatalog : catalog.WellFormed) {name : QualifiedName} {table : TableDef}
    (htable : catalog.alterable? name = some table) {change : Alteration}
    (hchange : ∀ new, change ≠ .renameTable new) :
    (catalog.alter? name change).map stored? = (catalog.changed? name table change).map fun changed =>
      Function.update catalog.stored? (catalog.schemaName name.schema, table.name.name) (some changed) := by
  cases change with
  | addColumn given =>
    have hsame : (catalog.defineColumn name given).1.alterable? name = some table := by
      rw [alterable?_eq, tablesOf_defineColumn, schemaName_defineColumn, ← alterable?_eq, htable]
    have hstored : (catalog.defineColumn name given).1.stored? = catalog.stored? := by
      funext place
      rw [stored?, stored?, tablesOf_defineColumn]
    have hafter := stored?_modifyTable (hcatalog.defineColumn name given) hsame
      (·.addColumn (catalog.defineColumn name given).2)
    rw [hstored, schemaName_defineColumn] at hafter
    exact congrArg some hafter
  | dropColumn column => exact congrArg some (stored?_modifyTable hcatalog htable _)
  | renameColumn old new =>
    simp only [alter?, htable, changed?, Option.map_map]
    congr 1
    funext changed
    exact stored?_modifyTable hcatalog htable _
  | renameTable new => exact absurd rfl (hchange new)
  | addPrimaryKey key => exact congrArg some (stored?_modifyTable hcatalog htable _)
  | other =>
    refine congrArg some (Function.update_eq_self_iff.2 ?_).symm
    exact (hcatalog.stored?_of_alterable? htable).symm

/-- A new name of a table takes effect if the old one is spelled exactly. -/
theorem map_stored?_alter?_renameTable (hcatalog : catalog.WellFormed) {name : QualifiedName} {table : TableDef}
    (htable : catalog.stored? (catalog.schemaName name.schema, name.name) = some table) (new : ObjectName) :
    (catalog.alter? name (.renameTable new)).map stored? =
      some (Function.update (Function.update catalog.stored? (catalog.schemaName name.schema, name.name) none)
        (catalog.schemaName name.schema, new.qualified.name)
        (some { table with name := ⟨name.schema, new.qualified.name⟩ })) := by
  rw [← removable?_eq] at htable
  rw [alter?, htable, Option.map_some, stored?_addTable, stored?_removeTable hcatalog]
  rfl

end Change

/-- Definitions find every catalog that can come about in order. -/
theorem Reachable.wellFormed {catalog : Catalog} (hcatalog : catalog.Reachable) : catalog.WellFormed := by
  induction hcatalog with
  | empty defaultSchema => exact wellFormed_empty defaultSchema
  | ofFields hfields => exact wellFormed_ofFields hfields
  | step _ hstep ih => exact ih.step hstep

end Catalog

namespace Draft

/-- What is stored at each place after a definition, if that has an outcome. -/
def storedAfter? (draft : Draft) (definition : Definition) : Option (String × String → Option TableDef) :=
  (draft.define? definition).map (·.catalog.stored?)

/-- Removing a name takes the table away, a new name moves it to another place, and nothing else is touched. -/
def MovesOnly (draft : Draft) (name : ObjectName) (table : TableDef) : Prop :=
  let stored := draft.catalog.stored?
  let schema := draft.catalog.schemaName name.qualified.schema
  draft.storedAfter? (.dropTables [name]) = some (Function.update stored (schema, table.name.name) none) ∧
  ∀ new : ObjectName, draft.storedAfter? (.alterTable name [.renameTable new]) =
    some (Function.update (Function.update stored (schema, table.name.name) none) (schema, new.qualified.name)
      (some { table with name := ⟨name.qualified.schema, new.qualified.name⟩ }))

/-- A comment on a name and each change of the contents under it change the table, and no other one. -/
def ChangesOnly (draft : Draft) (name : ObjectName) (table : TableDef) : Prop :=
  let stored := draft.catalog.stored?
  let place := (draft.catalog.schemaName name.qualified.schema, table.name.name)
  (∀ text, draft.storedAfter? (.commentTable name text) =
    some (Function.update stored place (some { table with comment := text }))) ∧
  ∀ change, (∀ new, change ≠ .renameTable new) →
    draft.storedAfter? (.alterTable name [change]) =
      (draft.catalog.changed? name.qualified table change).map fun changed =>
        Function.update stored place (some changed)

variable {draft : Draft} {name : ObjectName} {table : TableDef}

theorem storedAfter?_alterTable (htable : draft.catalog.table? name.qualified = some table) (change : Alteration) :
    draft.storedAfter? (.alterTable name [change]) =
      (draft.catalog.alter? name.qualified change).map Catalog.stored? := by
  have hhas : draft.catalog.hasTable name.qualified = true := by rw [Catalog.hasTable, htable, Option.isSome_some]
  rw [storedAfter?, define?, if_pos hhas, List.foldlM_cons]
  cases draft.catalog.alter? name.qualified change <;> rfl

theorem movesOnly (hcatalog : draft.catalog.WellFormed) (htable : draft.catalog.table? name.qualified = some table)
    (hspelling : name.qualified.name = table.name.name) : draft.MovesOnly name table := by
  have hstored := (hcatalog.stored?_of_table? htable).1
  unfold MovesOnly
  rw [← hspelling] at hstored ⊢
  refine ⟨congrArg some (Catalog.stored?_removeTable hcatalog name.qualified), fun new => ?_⟩
  rw [storedAfter?_alterTable htable, Catalog.map_stored?_alter?_renameTable hcatalog hstored]

/-- A name that is not spelled like its table neither removes nor renames anything. -/
theorem stored?_unmoved (hcatalog : draft.catalog.WellFormed)
    (htable : draft.catalog.table? name.qualified = some table) (hspelling : name.qualified.name ≠ table.name.name) :
    draft.storedAfter? (.dropTables [name]) = some draft.catalog.stored? ∧
      ∀ new, draft.storedAfter? (.alterTable name [.renameTable new]) = some draft.catalog.stored? := by
  have hnone := hcatalog.stored?_eq_none htable hspelling
  constructor
  · refine congrArg some ((Catalog.stored?_removeTable hcatalog name.qualified).trans ?_)
    exact Function.update_eq_self_iff.2 hnone.symm
  · intro new
    rw [storedAfter?_alterTable htable, Catalog.alter?, Catalog.removable?_eq, hnone]
    rfl

theorem changesOnly (hcatalog : draft.catalog.WellFormed) (htable : draft.catalog.hasTable name.qualified = true)
    (hfirst : draft.catalog.alterable? name.qualified = some table) : draft.ChangesOnly name table := by
  obtain ⟨found, hfound⟩ := Option.isSome_iff_exists.1 htable
  refine ⟨fun text => congrArg some (Catalog.stored?_modifyTable hcatalog hfirst _), fun change hchange => ?_⟩
  rw [storedAfter?_alterTable hfound, Catalog.map_stored?_alter? hcatalog hfirst hchange]

/-- A table that a name stands for in queries is the one that definitions under this name act on, as far as the name is
    spelled exactly (to remove or rename the table), or no table before it has the same letters (to change it). A name
    that is spelled otherwise removes and renames nothing, and changes that miss the table go to one before it. -/
theorem define?_namedTable (hreachable : draft.catalog.Reachable) (name : ObjectName)
    (htable : draft.catalog.table? name.qualified = some table) :
    let stored := draft.catalog.stored?
    let schema := draft.catalog.schemaName name.qualified.schema
    stored (schema, table.name.name) = some table ∧
    (name.qualified.name = table.name.name → draft.MovesOnly name table) ∧
    (name.qualified.name ≠ table.name.name →
      draft.storedAfter? (.dropTables [name]) = some stored ∧
      ∀ new, draft.storedAfter? (.alterTable name [.renameTable new]) = some stored) ∧
    (draft.catalog.IsForemost name.qualified table → draft.ChangesOnly name table) ∧
    (¬ draft.catalog.IsForemost name.qualified table →
      ∃ other, other.name.name ≠ table.name.name ∧ stored (schema, other.name.name) = some other ∧
        draft.ChangesOnly name other) := by
  intro stored schema
  have hcatalog := hreachable.wellFormed
  have hhas : draft.catalog.hasTable name.qualified = true := by rw [Catalog.hasTable, htable, Option.isSome_some]
  obtain ⟨hstored, hsame⟩ := hcatalog.stored?_of_table? htable
  refine ⟨hstored, movesOnly hcatalog htable, stored?_unmoved hcatalog htable, ?_, ?_⟩
  · intro hforemost
    exact changesOnly hcatalog hhas (hcatalog.alterable?_eq_some_iff.2 ⟨hsame, hforemost⟩)
  · intro hbehind
    -- There is a foremost table with these letters; under the same name it would be the table itself.
    obtain ⟨first, hfirst⟩ := Catalog.exists_alterable? hstored hsame
    have hother := hcatalog.stored?_of_alterable? hfirst
    refine ⟨first, ?_, hother, changesOnly hcatalog hhas hfirst⟩
    intro hname
    rw [hname, hstored] at hother
    cases hother
    exact hbehind (hcatalog.alterable?_eq_some_iff.1 hfirst).2

/-- Two tables whose names differ in the case of one letter. -/
def twoSpellings : Draft where
  catalog := ((Catalog.empty "main").addTable { name := ⟨none, "users"⟩ }).addTable { name := ⟨none, "Users"⟩ }

/-- The later table can be removed, and the earlier one can be changed. -/
theorem define?_namedTable_twoSpellings :
    twoSpellings.storedAfter? (.dropTables [[{ value := "Users" }]]) =
        some (Function.update twoSpellings.catalog.stored? ("main", "Users") none) ∧
      twoSpellings.storedAfter? (.commentTable [{ value := "users" }] "people") =
        some (Function.update twoSpellings.catalog.stored? ("main", "users")
          (some { name := ⟨none, "users"⟩, comment := "people" })) := by
  have hreachable : twoSpellings.catalog.Reachable :=
    .step (.step (.empty "main") (.addTable ⟨none, "users"⟩ [] (by simp))) (.addTable ⟨none, "Users"⟩ [] (by simp))
  have hlater : twoSpellings.catalog.table? ⟨none, "Users"⟩ = some { name := ⟨none, "Users"⟩ } := by decide
  have hearlier : twoSpellings.catalog.table? ⟨none, "users"⟩ = some { name := ⟨none, "users"⟩ } := by decide
  obtain ⟨-, hmoved, -⟩ := define?_namedTable hreachable [{ value := "Users" }] hlater
  obtain ⟨-, -, -, hchanged, -⟩ := define?_namedTable hreachable [{ value := "users" }] hearlier
  have hforemost : twoSpellings.catalog.IsForemost ⟨none, "users"⟩ { name := ⟨none, "users"⟩ } :=
    ⟨[], [("Users", { name := ⟨none, "Users"⟩ })], by decide, by simp⟩
  exact ⟨(hmoved rfl).1, (hchanged hforemost).1 "people"⟩

/-- A table may outlive the statement that drops it, and a column may end up in another table than the one named. -/
theorem read?_missedTable :
    (read? .postgreSQL { catalog := .empty "public" } "CREATE TABLE users (id int); DROP TABLE USERS;").map
        (fun draft => (draft.catalog.table? ⟨none, "USERS"⟩).map (·.name)) = some (some ⟨none, "users"⟩) ∧
      (read? .postgreSQL { catalog := .empty "public" }
          "CREATE TABLE users (id int); CREATE TABLE \"Users\" (id int); ALTER TABLE \"Users\" ADD COLUMN x int;").map
        (fun draft => ["users", "Users"].map fun name => (draft.catalog.table? ⟨none, name⟩).map (·.columns.keys)) =
        some [some ["id", "x"], some ["id"]] := by
  decide +kernel

end Draft

end AnnotatedSql
