import AnnotatedSql.Catalog.Fetch
import AnnotatedSql.Proofs.Catalog.Keyed

/-!
Catalogs that are in order: everything stands under its own name, in the schema that its name says, and the default
schema is there. Each operation on a catalog keeps this order (`Catalog.WellFormed`), and so do definitions that are
read from a text and the fields that a database reports. Every catalog that can be reached is therefore in order.
-/
namespace AnnotatedSql

open Sql (Alteration ColumnOption ColumnSyntax Definition Ident ObjectName Statement)

/-- A column under its own name, with the array flag of its type. -/
def ColumnDef.Fits (key : String) (column : ColumnDef) : Prop :=
  column.name = key ∧ column.isArray = column.type.isArray

/-- A table under its own name, in the schema that the name says. Only the default schema may be left unsaid. -/
structure TableDef.Fits (defaultSchema schema key : String) (table : TableDef) : Prop where
  name : table.name.name = key
  schema : table.name.schema = some schema ∨ table.name.schema = none ∧ schema = defaultSchema
  columns : table.columns.WellKeyed ColumnDef.Fits

/-- A schema under its own name, with tables and enum types that stand in it by right. -/
structure Schema.Fits (defaultSchema key : String) (schema : Schema) : Prop where
  name : schema.name = key
  tables : schema.tables.WellKeyed (TableDef.Fits defaultSchema key)
  enums : schema.enums.WellKeyed fun key type => type.name = key

structure Catalog.WellFormed (catalog : Catalog) : Prop where
  hasDefault : catalog.schemas.has catalog.defaultSchema = true
  schemas : catalog.schemas.WellKeyed (Schema.Fits catalog.defaultSchema)

/-- What each step of a computation keeps, the whole computation keeps. -/
theorem invariant_of_foldlM {α β : Type} {step : β → α → Option β} (Inv : β → Prop)
    (hstep : ∀ {state value next}, Inv state → step state value = some next → Inv next) {values : List α}
    {state last : β} (hstate : Inv state) (hlast : values.foldlM step state = some last) : Inv last := by
  induction values generalizing state with
  | nil =>
    cases hlast
    exact hstate
  | cons value values ih =>
    rw [List.foldlM_cons] at hlast
    obtain ⟨next, hnext, hlast⟩ := Option.bind_eq_some_iff.1 hlast
    exact ih (hstep hstate hnext) hlast

theorem TableDef.columns_addColumn {table : TableDef} (hcolumns : table.columns.WellKeyed ColumnDef.Fits)
    {column : ColumnDef} (hcolumn : column.isArray = column.type.isArray) :
    (table.addColumn column).columns.WellKeyed ColumnDef.Fits :=
  hcolumns.insert ⟨rfl, hcolumn⟩

/-- Options change neither the name of a column nor anything about its type. -/
theorem ColumnDef.foldl_applyOption (options : List ColumnOption) (column : ColumnDef) :
    (options.foldl applyOption column).name = column.name ∧
      (options.foldl applyOption column).type = column.type ∧
      (options.foldl applyOption column).isArray = column.isArray := by
  induction options generalizing column with
  | nil => exact ⟨rfl, rfl, rfl⟩
  | cons option options ih =>
    obtain ⟨hname, htype, hflag⟩ := ih (column.applyOption option)
    rw [List.foldl_cons, hname, htype, hflag]
    cases option <;> exact ⟨rfl, rfl, rfl⟩

/-- A primary key changes columns in their places. -/
theorem TableDef.columns_addPrimaryKey {table : TableDef} (hcolumns : table.columns.WellKeyed ColumnDef.Fits)
    (key : List Ident) :
    (table.addPrimaryKey key).name = table.name ∧ (table.addPrimaryKey key).columns.WellKeyed ColumnDef.Fits := by
  unfold addPrimaryKey
  refine List.foldlRecOn
    (motive := fun changed : TableDef => changed.name = table.name ∧ changed.columns.WellKeyed ColumnDef.Fits)
    key _ ⟨rfl, hcolumns⟩ ?_
  rintro changed ⟨hname, hcolumns⟩ column _
  refine ⟨hname, hcolumns.modifyFirst _ _ ?_⟩
  intro entry hentry
  exact hcolumns.fits entry (List.mem_of_find?_eq_some hentry)

/-- A table whose column was renamed has its columns under the right names. -/
theorem Catalog.columns_renameColumn? {table changed : TableDef} {old new : String}
    (hcolumns : table.columns.WellKeyed ColumnDef.Fits) (hchanged : renameColumn? table old new = some changed) :
    changed.name = table.name ∧ changed.columns.WellKeyed ColumnDef.Fits := by
  unfold renameColumn? at hchanged
  split at hchanged
  · next index column hindex hcolumn =>
    obtain ⟨columns, hinserted, rfl⟩ := Option.map_eq_some_iff.1 hchanged
    have hfits : { column with name := new }.Fits new := ⟨rfl, (hcolumns.of_get? hcolumn).2⟩
    exact ⟨rfl, (hcolumns.erase old).insertAt? hfits hinserted⟩
  · cases hchanged
    exact ⟨rfl, hcolumns⟩

namespace Catalog

variable {catalog : Catalog}

theorem wellFormed_empty (defaultSchema : String) : (empty defaultSchema).WellFormed where
  hasDefault := by simp [empty, Keyed.has]
  schemas := .singleton ⟨rfl, .nil, .nil⟩

namespace WellFormed

theorem ensureSchema (hcatalog : catalog.WellFormed) (name : String) : (catalog.ensureSchema name).WellFormed := by
  unfold Catalog.ensureSchema
  split
  · exact hcatalog
  · constructor
    · have hdefault := Keyed.mem_keys.2 hcatalog.hasDefault
      rw [← Keyed.mem_keys, Keyed.keys_insert]
      split
      · exact hdefault
      · exact List.mem_append_left _ hdefault
    · exact hcatalog.schemas.insert ⟨rfl, .nil, .nil⟩

/-- A change of one schema has to keep that schema in order. -/
theorem modifySchema (hcatalog : catalog.WellFormed) (qualifier : Option String) (f : Schema → Schema)
    (hf : ∀ schema, catalog.schema? qualifier = some schema →
      schema.Fits catalog.defaultSchema (catalog.schemaName qualifier) →
      (f schema).Fits catalog.defaultSchema (catalog.schemaName qualifier)) :
    (catalog.modifySchema qualifier f).WellFormed := by
  constructor
  · rw [← Keyed.mem_keys, Catalog.modifySchema, Keyed.keys_modifyFirst]
    exact Keyed.mem_keys.2 hcatalog.hasDefault
  · apply hcatalog.schemas.modifyFirst
    intro entry hentry
    have hkey : entry.1 = catalog.schemaName qualifier := by simpa using List.find?_some hentry
    have hfits := hcatalog.schemas.fits entry (List.mem_of_find?_eq_some hentry)
    rw [hkey] at hfits ⊢
    exact hf entry.2 (by simp [schema?, Keyed.get?, hentry]) hfits

theorem withSchema (hcatalog : catalog.WellFormed) (qualifier : Option String) (f : Schema → Schema)
    (hf : ∀ schema : Schema, schema.Fits catalog.defaultSchema (catalog.schemaName qualifier) →
      (f schema).Fits catalog.defaultSchema (catalog.schemaName qualifier)) :
    (catalog.withSchema qualifier f).WellFormed := by
  apply (hcatalog.ensureSchema _).modifySchema
  intro schema _
  rw [defaultSchema_ensureSchema, schemaName_ensureSchema]
  exact hf schema

theorem addTable (hcatalog : catalog.WellFormed) {table : TableDef}
    (hcolumns : table.columns.WellKeyed ColumnDef.Fits) : (catalog.addTable table).WellFormed := by
  apply hcatalog.withSchema
  intro schema hschema
  refine ⟨hschema.name, hschema.tables.insert ⟨rfl, ?_, hcolumns⟩, hschema.enums⟩
  cases hname : table.name.schema with
  | none => exact .inr ⟨rfl, rfl⟩
  | some name => exact .inl rfl

theorem removeTable (hcatalog : catalog.WellFormed) (name : QualifiedName) : (catalog.removeTable name).WellFormed := by
  apply hcatalog.modifySchema
  intro schema _ hschema
  exact ⟨hschema.name, hschema.tables.erase name.name, hschema.enums⟩

theorem addEnum (hcatalog : catalog.WellFormed) (qualifier : Option String) (type : EnumDef) :
    (catalog.addEnum qualifier type).WellFormed := by
  apply hcatalog.withSchema
  intro schema hschema
  exact ⟨hschema.name, hschema.tables, hschema.enums.insert rfl⟩

theorem addFunction (hcatalog : catalog.WellFormed) (qualifier : Option String) (function : FunctionDef) :
    (catalog.addFunction qualifier function).WellFormed := by
  apply hcatalog.withSchema
  intro schema hschema
  exact ⟨hschema.name, hschema.tables, hschema.enums⟩

/-- A change of one table has to leave its name and to keep its columns in order. -/
theorem modifyTable (hcatalog : catalog.WellFormed) (name : QualifiedName) (f : TableDef → TableDef)
    (hf : ∀ table, catalog.alterable? name = some table → table.columns.WellKeyed ColumnDef.Fits →
      (f table).name = table.name ∧ (f table).columns.WellKeyed ColumnDef.Fits) :
    (catalog.modifyTable name f).WellFormed := by
  apply hcatalog.modifySchema
  intro schema hfound hschema
  refine ⟨hschema.name, hschema.tables.modifyFirst _ _ ?_, hschema.enums⟩
  intro entry hentry
  have htable := hschema.tables.fits entry (List.mem_of_find?_eq_some hentry)
  obtain ⟨hname, hcolumns⟩ := hf entry.2 (by simp [alterable?, hfound, hentry]) htable.columns
  exact ⟨hname ▸ htable.name, hname ▸ htable.schema, hcolumns⟩

theorem columns_of_removable? (hcatalog : catalog.WellFormed) {name : QualifiedName} {table : TableDef}
    (htable : catalog.removable? name = some table) : table.columns.WellKeyed ColumnDef.Fits := by
  obtain ⟨schema, hschema, htable⟩ := Option.bind_eq_some_iff.1 htable
  exact ((hcatalog.schemas.of_get? hschema).tables.of_get? htable).columns

theorem defineColumn (hcatalog : catalog.WellFormed) (table : QualifiedName) (given : ColumnSyntax) :
    (catalog.defineColumn table given).1.WellFormed := by
  unfold Catalog.defineColumn
  split
  · exact hcatalog.addEnum _ _
  · exact hcatalog

end WellFormed

/-- The column of an enum type takes the name of that type, which is no array either. -/
theorem isArray_defineColumn (catalog : Catalog) (table : QualifiedName) (given : ColumnSyntax) :
    (catalog.defineColumn table given).2.isArray = (catalog.defineColumn table given).2.type.isArray := by
  unfold Catalog.defineColumn
  dsimp only
  split
  · next labels htype =>
    simp only [ColumnDef.foldl_applyOption, htype]
    rfl
  · simp only [ColumnDef.foldl_applyOption]
    rfl

theorem WellFormed.defineColumns (hcatalog : catalog.WellFormed) {table : TableDef}
    (hcolumns : table.columns.WellKeyed ColumnDef.Fits) (given : List ColumnSyntax) :
    (catalog.defineColumns table given).1.WellFormed ∧
      (catalog.defineColumns table given).2.columns.WellKeyed ColumnDef.Fits := by
  unfold Catalog.defineColumns
  refine List.foldlRecOn
    (motive := fun made : Catalog × TableDef => made.1.WellFormed ∧ made.2.columns.WellKeyed ColumnDef.Fits)
    given _ ⟨hcatalog, hcolumns⟩ ?_
  rintro ⟨catalog, table⟩ ⟨hcatalog, hcolumns⟩ column _
  exact ⟨hcatalog.defineColumn _ _, TableDef.columns_addColumn hcolumns (isArray_defineColumn _ _ _)⟩

/-- Every change of a table keeps its catalog in order. -/
theorem WellFormed.alter? (hcatalog : catalog.WellFormed) {name : QualifiedName} {change : Alteration}
    {after : Catalog} (hafter : catalog.alter? name change = some after) : after.WellFormed := by
  cases change with
  | addColumn given =>
    cases hafter
    apply (hcatalog.defineColumn name given).modifyTable
    intro table _ hcolumns
    exact ⟨rfl, TableDef.columns_addColumn hcolumns (isArray_defineColumn _ _ _)⟩
  | dropColumn column =>
    cases hafter
    apply hcatalog.modifyTable
    intro table _ hcolumns
    exact ⟨rfl, hcolumns.erase column.value⟩
  | renameColumn old new =>
    rw [Catalog.alter?] at hafter
    split at hafter
    · cases hafter
      exact hcatalog
    · next table hfound =>
      obtain ⟨changed, hchanged, rfl⟩ := Option.map_eq_some_iff.1 hafter
      apply hcatalog.modifyTable
      intro other hother hcolumns
      -- The table that is replaced is the one that was renamed.
      rw [hfound] at hother
      cases hother
      exact columns_renameColumn? hcolumns hchanged
  | renameTable new =>
    rw [Catalog.alter?] at hafter
    split at hafter
    · cases hafter
      exact hcatalog
    · next table hfound =>
      cases hafter
      have hcolumns := hcatalog.columns_of_removable? hfound
      exact (hcatalog.removeTable name).addTable hcolumns
  | addPrimaryKey key =>
    cases hafter
    apply hcatalog.modifyTable
    intro table _ hcolumns
    exact TableDef.columns_addPrimaryKey hcolumns key
  | other =>
    cases hafter
    exact hcatalog

end Catalog

namespace Draft

variable {draft after : Draft}

/-- Every definition keeps the catalog in order. -/
theorem wellFormed_define? (hdraft : draft.catalog.WellFormed) {definition : Definition}
    (hafter : draft.define? definition = some after) : after.catalog.WellFormed := by
  cases definition with
  | table name columns keys =>
    cases hafter
    have hempty : TableDef.columns { name := ObjectName.qualified name } |>.WellKeyed ColumnDef.Fits := .nil
    obtain ⟨hcatalog, hcolumns⟩ := hdraft.defineColumns hempty columns
    apply hcatalog.addTable
    refine List.foldlRecOn (motive := fun table : TableDef => table.columns.WellKeyed ColumnDef.Fits)
      keys _ hcolumns ?_
    intro table hcolumns key _
    exact (TableDef.columns_addPrimaryKey hcolumns key).2
  | enum name labels =>
    cases hafter
    exact hdraft.addEnum _ _
  | function name args result =>
    cases hafter
    exact hdraft.addFunction _ _
  | alterTable name changes =>
    rw [define?] at hafter
    split at hafter
    · obtain ⟨catalog, hcatalog, rfl⟩ := Option.map_eq_some_iff.1 hafter
      exact invariant_of_foldlM Catalog.WellFormed (fun hstate hnext => hstate.alter? hnext) hdraft hcatalog
    · cases hafter
      exact hdraft
  | commentTable name text =>
    cases hafter
    apply hdraft.modifyTable
    intro table _ hcolumns
    exact ⟨rfl, hcolumns⟩
  | commentColumn name text =>
    cases hafter
    apply hdraft.modifyTable
    intro table _ hcolumns
    refine ⟨rfl, hcolumns.modifyFirst _ _ ?_⟩
    intro entry hentry
    exact hcolumns.fits entry (List.mem_of_find?_eq_some hentry)
  | dropTables names =>
    cases hafter
    apply List.foldlRecOn names _ hdraft
    intro catalog hcatalog name _
    exact hcatalog.removeTable _

theorem wellFormed_step? (hdraft : draft.catalog.WellFormed) {statement : Statement}
    (hafter : draft.step? statement = some after) : after.catalog.WellFormed := by
  unfold step? at hafter
  split at hafter
  · exact wellFormed_define? hdraft hafter
  · cases hafter
    exact hdraft

/-- A text of definitions keeps the catalog in order, whether it is read as a whole or statement by statement. -/
theorem wellFormed_read? (hdraft : draft.catalog.WellFormed) {dialect : Dialect} {text : String}
    (hafter : draft.read? dialect text = some after) : after.catalog.WellFormed := by
  have hsteps : ∀ {statements : List Statement} {state next : Draft}, state.catalog.WellFormed →
      statements.foldlM step? state = some next → next.catalog.WellFormed :=
    invariant_of_foldlM (fun state : Draft => state.catalog.WellFormed) fun hstate hnext =>
      wellFormed_step? hstate hnext
  unfold read? at hafter
  split at hafter
  · exact hsteps hdraft hafter
  · cases hafter
  · refine invariant_of_foldlM (fun state : Draft => state.catalog.WellFormed) ?_ hdraft hafter
    intro state extent next hstate hnext
    obtain ⟨part, -, hnext⟩ := Option.bind_eq_some_iff.1 hnext
    obtain ⟨statements, -, hnext⟩ := Option.bind_eq_some_iff.1 hnext
    exact hsteps hstate hnext

end Draft

namespace Catalog

variable {catalog : Catalog}

theorem WellFormed.addTableOfFields (hcatalog : catalog.WellFormed) (name : String) (fields : List FieldDescriptor) :
    (catalog.addTableOfFields name fields).WellFormed := by
  have hfilled : ∀ made : Catalog × TableDef,
      made = fields.foldl (fun made => addField made.1 made.2) (catalog, { name := ⟨none, name⟩ }) →
      made.1.WellFormed ∧ made.2.columns.WellKeyed ColumnDef.Fits := by
    rintro made rfl
    refine List.foldlRecOn
      (motive := fun made : Catalog × TableDef => made.1.WellFormed ∧ made.2.columns.WellKeyed ColumnDef.Fits)
      fields _ ⟨hcatalog, .nil⟩ ?_
    rintro ⟨catalog, table⟩ ⟨hcatalog, hcolumns⟩ field _
    constructor
    · unfold addField
      dsimp only
      split
      · exact hcatalog.addEnum _ _
      · exact hcatalog
    · exact TableDef.columns_addColumn hcolumns rfl
  obtain ⟨hmade, hcolumns⟩ := hfilled _ rfl
  exact hmade.addTable hcolumns

/-- The catalog of a database is in order, whatever the database reports. -/
theorem wellFormed_ofFields {ε : Type} {database : Database ε} (hcatalog : ofFields database = .ok catalog) :
    catalog.WellFormed := by
  have htables : ∀ (tables : List String) {start : Catalog}, start.WellFormed →
      tables.foldlM (fun (catalog : Catalog) table => do
        let fields ← asked ("fields of " ++ spelled table) (database.fields table)
        return catalog.addTableOfFields table fields) start = .ok catalog → catalog.WellFormed := by
    intro tables
    induction tables with
    | nil =>
      intro start hstart hlast
      cases hlast
      exact hstart
    | cons table tables ih =>
      intro start hstart hlast
      rw [List.foldlM_cons] at hlast
      cases hfields : asked ("fields of " ++ spelled table) (database.fields table) with
      | error error =>
        rw [hfields] at hlast
        cases hlast
      | ok fields =>
        rw [hfields] at hlast
        exact ih (hstart.addTableOfFields table fields) hlast
  unfold ofFields at hcatalog
  cases hname : asked "database name" database.name with
  | error error =>
    rw [hname] at hcatalog
    cases hcatalog
  | ok name =>
    cases hnames : asked "table names" database.tables with
    | error error =>
      rw [hname, hnames] at hcatalog
      cases hcatalog
    | ok tables =>
      rw [hname, hnames] at hcatalog
      exact htables tables (wellFormed_empty name) hcatalog

/-- One operation on a catalog. -/
inductive Step : Catalog → Catalog → Prop where
  | ensureSchema {catalog : Catalog} (name : String) : Step catalog (catalog.ensureSchema name)
  /-- The table is made by adding columns to an empty one, each with the array flag of its type. -/
  | addTable {catalog : Catalog} (name : QualifiedName) (columns : List ColumnDef)
      (hcolumns : ∀ column ∈ columns, column.isArray = column.type.isArray) :
      Step catalog (catalog.addTable (columns.foldl TableDef.addColumn { name }))
  | removeTable {catalog : Catalog} (name : QualifiedName) : Step catalog (catalog.removeTable name)
  | addEnum {catalog : Catalog} (qualifier : Option String) (type : EnumDef) :
      Step catalog (catalog.addEnum qualifier type)
  | addFunction {catalog : Catalog} (qualifier : Option String) (function : FunctionDef) :
      Step catalog (catalog.addFunction qualifier function)
  | commentTable {catalog : Catalog} (name : QualifiedName) (text : Option String) :
      Step catalog (catalog.modifyTable name fun table => { table with comment := text })
  /-- The definitions of a text, taken in by a draft that has any warnings already. -/
  | read {draft after : Draft} {dialect : Dialect} {text : String} (hread : draft.read? dialect text = some after) :
      Step draft.catalog after.catalog

/-- The catalogs that can come about: an empty one or the one of a database's fields, after any number of operations. -/
inductive Reachable : Catalog → Prop where
  | empty (defaultSchema : String) : Reachable (.empty defaultSchema)
  | ofFields {ε : Type} {database : Database ε} {catalog : Catalog} (hfields : ofFields database = .ok catalog) :
      Reachable catalog
  | step {catalog after : Catalog} (hcatalog : Reachable catalog) (hstep : Step catalog after) : Reachable after

theorem WellFormed.step {after : Catalog} (hcatalog : catalog.WellFormed) (hstep : Step catalog after) :
    after.WellFormed := by
  cases hstep with
  | ensureSchema name => exact hcatalog.ensureSchema name
  | addTable name columns hcolumns =>
    apply hcatalog.addTable
    refine List.foldlRecOn (motive := fun table : TableDef => table.columns.WellKeyed ColumnDef.Fits)
      columns _ .nil ?_
    intro table hmade column hcolumn
    exact TableDef.columns_addColumn hmade (hcolumns column hcolumn)
  | removeTable name => exact hcatalog.removeTable name
  | addEnum qualifier type => exact hcatalog.addEnum qualifier type
  | addFunction qualifier function => exact hcatalog.addFunction qualifier function
  | commentTable name text =>
    apply hcatalog.modifyTable
    intro table _ hcolumns
    exact ⟨rfl, hcolumns⟩
  | read hread => exact Draft.wellFormed_read? hcatalog hread

/-- An enum type of its own comes with the first column; then the column and the table get other names. -/
def renamedOrders : String :=
  "CREATE TABLE shop.orders (state ENUM('new', 'paid') NOT NULL, tags int);
ALTER TABLE shop.orders RENAME COLUMN state TO phase, RENAME TO bills;"

end Catalog

end AnnotatedSql
