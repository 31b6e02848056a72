import AnnotatedSql.Proofs.Catalog.NamedTable
import AnnotatedSql.Proofs.Compile.SchemaGrowth

/-!
Enum types that tables bring along. A column that lists its labels becomes a column of an enum type of its own, which is
named after the table and the column and stands in the schema of the table. Columns refer to enum types by name, so a
new table can change what a column of another table refers to; `Catalog.enumOf?_declared` says when it does.
-/
namespace AnnotatedSql

open Sql (ColumnSyntax ObjectName)

/-- The enum type that a column of a table brings along. -/
def Sql.ColumnSyntax.inlineEnum? (table : String) (given : ColumnSyntax) : Option EnumDef :=
  match given.type with
  | .enum labels =>
    let plain := { ColumnDef.ofType given.name.value given.type.sqlType with unsigned := given.type.isUnsigned }
    some {
      name := table ++ "_" ++ given.name.value
      values := (labels.map enumValues).getD []
      isNotNull := !(given.options.foldl ColumnDef.applyOption plain).nullable }
  | _ => none

/-- The enum type that a reported field of a table brings along. -/
def FieldDescriptor.inlineEnum? (table : String) (field : FieldDescriptor) : Option EnumDef :=
  if field.typeName == "enum" then
    some { name := table ++ "_" ++ field.name, values := field.values, isNotNull := !field.allowNull }
  else none

/-- The enum type of a name that is added last. -/
def EnumDef.lastNamed? (types : List EnumDef) (name : String) : Option EnumDef :=
  types.reverse.find? (·.name == name)

theorem EnumDef.lastNamed?_concat (types : List EnumDef) (type : EnumDef) (name : String) :
    lastNamed? (types ++ [type]) name = if name = type.name then some type else lastNamed? types name := by
  rw [lastNamed?, List.reverse_append, List.reverse_singleton, List.singleton_append, List.find?_cons]
  by_cases hname : name = type.name
  · simp [hname]
  · rw [beq_false_of_ne (Ne.symm hname), if_neg hname, lastNamed?]

namespace Catalog

/-- Adds enum types to one schema, one after the other. -/
def addEnums (catalog : Catalog) (qualifier : Option String) (types : List EnumDef) : Catalog :=
  types.foldl (fun catalog type => catalog.addEnum qualifier type) catalog

section Lookup

variable (catalog : Catalog) (qualifier : Option String)

theorem addEnums_append (types others : List EnumDef) :
    catalog.addEnums qualifier (types ++ others) = (catalog.addEnums qualifier types).addEnums qualifier others :=
  List.foldl_append

theorem schemaName_addEnums (types : List EnumDef) :
    (catalog.addEnums qualifier types).schemaName = catalog.schemaName := by
  induction types generalizing catalog with
  | nil => rfl
  | cons type types ih =>
    refine (ih (catalog.addEnum qualifier type)).trans ?_
    funext other
    exact schemaName_withSchema _ _ _ _

theorem tablesOf_addEnums (types : List EnumDef) : (catalog.addEnums qualifier types).tablesOf = catalog.tablesOf := by
  induction types generalizing catalog with
  | nil => rfl
  | cons type types ih => exact (ih (catalog.addEnum qualifier type)).trans (tablesOf_addEnum _ _ _)

/-- An enum type is found where it was put, and all others stay as they are. -/
theorem enum?_addEnum (type : EnumDef) (name : QualifiedName) :
    (catalog.addEnum qualifier type).enum? name =
      if catalog.schemaName name.schema = catalog.schemaName qualifier ∧ name.name = type.name then some type
      else catalog.enum? name := by
  rw [enum?, addEnum, schema?_withSchema]
  by_cases hschema : catalog.schemaName name.schema = catalog.schemaName qualifier
  · have hsame : catalog.schema? qualifier = catalog.schema? name.schema := by rw [schema?, schema?, hschema]
    rw [if_pos hschema, Option.bind_some, Keyed.get?_insert, hsame, ← enum?_eq catalog name]
    simp [hschema]
  · rw [if_neg hschema, if_neg (fun hboth => hschema hboth.1), enum?]

/-- Of several enum types of one name the last one is found. -/
theorem enum?_addEnums (types : List EnumDef) (name : QualifiedName) :
    (catalog.addEnums qualifier types).enum? name =
      if catalog.schemaName name.schema = catalog.schemaName qualifier then
        (EnumDef.lastNamed? types name.name).or (catalog.enum? name)
      else catalog.enum? name := by
  induction types using List.reverseRecOn with
  | nil => simp [addEnums, EnumDef.lastNamed?]
  | append_singleton types type ih =>
    have hlast := enum?_addEnum (catalog.addEnums qualifier types) qualifier type name
    rw [addEnums_append]
    refine hlast.trans ?_
    rw [ih, schemaName_addEnums, EnumDef.lastNamed?_concat]
    by_cases hschema : catalog.schemaName name.schema = catalog.schemaName qualifier
    · by_cases hname : name.name = type.name <;> simp [hschema, hname]
    · simp [hschema]

theorem enum?_addTable (table : TableDef) (name : QualifiedName) :
    (catalog.addTable table).enum? name = catalog.enum? name := by
  obtain ⟨tables, hschema⟩ := catalog.getD_schema?_addTable table name.schema
  rw [enum?_eq, hschema, enum?_eq catalog]

end Lookup

/-- A table is declared under a name, with the enum types that its columns bring along: by a definition, or by the
    fields that a database reports. -/
inductive Declares : Catalog → QualifiedName → List EnumDef → Catalog → Prop where
  | definition {draft after : Draft} {name : ObjectName} {columns : List ColumnSyntax} {keys : List (List Sql.Ident)}
    (hafter : draft.define? (.table name columns keys) = some after) :
    Declares draft.catalog name.qualified (columns.filterMap (·.inlineEnum? name.qualified.name)) after.catalog
  | fields (catalog : Catalog) (name : String) (fields : List FieldDescriptor) :
    Declares catalog ⟨none, name⟩ (fields.filterMap (·.inlineEnum? name)) (catalog.addTableOfFields name fields)

theorem defineColumn_fst (catalog : Catalog) (table : QualifiedName) (given : ColumnSyntax) :
    (catalog.defineColumn table given).1 = catalog.addEnums table.schema (given.inlineEnum? table.name).toList := by
  unfold defineColumn ColumnSyntax.inlineEnum?
  dsimp only
  cases given.type <;> rfl

theorem addField_fst (catalog : Catalog) (table : TableDef) (field : FieldDescriptor) :
    (catalog.addField table field).1 = catalog.addEnums none (field.inlineEnum? table.name.name).toList := by
  unfold addField FieldDescriptor.inlineEnum?
  dsimp only
  split <;> rfl

/-- Columns are put into a table one after the other, and their enum types into its schema. -/
theorem foldl_columns {α : Type} (step : Catalog × TableDef → α → Catalog × TableDef) (qualifier : Option String)
    (name : QualifiedName) (inlineEnum? : α → Option EnumDef)
    (hstep : ∀ catalog table given, table.name = name → (step (catalog, table) given).2.name = name ∧
      (step (catalog, table) given).1 = catalog.addEnums qualifier (inlineEnum? given).toList)
    (columns : List α) (catalog : Catalog) (table : TableDef) (hname : table.name = name) :
    (columns.foldl step (catalog, table)).2.name = name ∧
      (columns.foldl step (catalog, table)).1 = catalog.addEnums qualifier (columns.filterMap inlineEnum?) := by
  induction columns generalizing catalog table with
  | nil => exact ⟨hname, rfl⟩
  | cons given columns ih =>
    obtain ⟨hkept, hadded⟩ := hstep catalog table given hname
    obtain ⟨hlast, hall⟩ := ih (step (catalog, table) given).1 (step (catalog, table) given).2 hkept
    refine ⟨hlast, hall.trans ?_⟩
    rw [hadded, ← addEnums_append]
    cases hgiven : inlineEnum? given <;> simp [hgiven]

theorem name_foldl_addPrimaryKey (keys : List (List Sql.Ident)) (table : TableDef) :
    (keys.foldl TableDef.addPrimaryKey table).name = table.name := by
  induction keys generalizing table with
  | nil => rfl
  | cons key keys ih =>
    rw [List.foldl_cons, ih, TableDef.addPrimaryKey]
    exact List.foldlRecOn (motive := fun changed : TableDef => changed.name = table.name) key _ rfl
      fun _ hname _ _ => hname

/-- Declaring a table adds its enum types to the table's schema, and then the table. -/
theorem Declares.exists_eq {catalog after : Catalog} {name : QualifiedName} {types : List EnumDef}
    (hdeclares : Declares catalog name types after) :
    ∃ table : TableDef, table.name = name ∧ after = (catalog.addEnums name.schema types).addTable table := by
  cases hdeclares with
  | @definition draft after name columns keys hafter =>
    cases hafter
    obtain ⟨hname, hadded⟩ := foldl_columns
      (fun made given =>
        let defined := made.1.defineColumn made.2.name given
        (defined.1, made.2.addColumn defined.2))
      name.qualified.schema name.qualified (·.inlineEnum? name.qualified.name)
      (by
        intro catalog table given hname
        exact ⟨hname, hname ▸ defineColumn_fst catalog table.name given⟩)
      columns draft.catalog { name := name.qualified } rfl
    refine ⟨_, (name_foldl_addPrimaryKey keys _).trans hname, ?_⟩
    rw [← hadded]
  | fields catalog name fields =>
    obtain ⟨hname, hadded⟩ := foldl_columns (fun made field => made.1.addField made.2 field) none ⟨none, name⟩
      (·.inlineEnum? name)
      (by
        intro catalog table field hname
        exact ⟨hname, by rw [addField_fst, hname]⟩)
      fields catalog { name := ⟨none, name⟩ } rfl
    refine ⟨_, hname, ?_⟩
    rw [← hadded]
    rfl

section Frame

variable {catalog after : Catalog} {name : QualifiedName} {types : List EnumDef}

theorem Declares.schemaName_eq (hdeclares : Declares catalog name types after) :
    after.schemaName = catalog.schemaName := by
  obtain ⟨table, -, rfl⟩ := hdeclares.exists_eq
  funext qualifier
  rw [addTable, schemaName_withSchema, schemaName_addEnums]

/-- The tables at all other places stay. -/
theorem Declares.stored?_eq (hdeclares : Declares catalog name types after) {place : String × String}
    (hplace : place ≠ (catalog.schemaName name.schema, name.name)) : after.stored? place = catalog.stored? place := by
  obtain ⟨table, rfl, rfl⟩ := hdeclares.exists_eq
  rw [stored?_addTable, schemaName_addEnums, Function.update_of_ne hplace, stored?, tablesOf_addEnums, stored?]

theorem Declares.enum?_eq (hdeclares : Declares catalog name types after) (other : QualifiedName) :
    after.enum? other =
      if catalog.schemaName other.schema = catalog.schemaName name.schema then
        (EnumDef.lastNamed? types other.name).or (catalog.enum? other)
      else catalog.enum? other := by
  obtain ⟨table, -, rfl⟩ := hdeclares.exists_eq
  rw [enum?_addTable, enum?_addEnums]

/-- The enum type that a column refers to, and its values. -/
def enumOf? (catalog : Catalog) (table : TableDef) (column : ColumnDef) : Option (QualifiedName × List String) :=
  (Column.ofDef catalog table column).enumRef.bind fun name => (catalog.enum? name).map fun type => (name, type.values)

/-- The name by which a column of a table refers to an enum type, whether there is such a type or not. -/
def enumName? (catalog : Catalog) (table : TableDef) (column : ColumnDef) : Option QualifiedName :=
  match column.type.element with
  | .custom name =>
    let dotted := QualifiedName.ofDotted name
    some { dotted with schema := dotted.schema <|> some (catalog.schemaName table.name.schema) }
  | _ => none

theorem enumOf?_eq (catalog : Catalog) (table : TableDef) (column : ColumnDef) :
    catalog.enumOf? table column = (catalog.enumName? table column).bind fun name =>
      (catalog.enum? name).map fun type => (name, type.values) := by
  have hfound : ∀ ref : QualifiedName,
      (((catalog.enum? ref).map fun _ => ref).bind fun name =>
        (catalog.enum? name).map fun type => (name, type.values)) =
      (catalog.enum? ref).map fun type => (ref, type.values) := by
    intro ref
    cases hfound : catalog.enum? ref <;> simp [hfound]
  rw [enumOf?, Column.ofDef, enumName?]
  dsimp only
  rw [Column.enumRef?]
  cases column.type.element with
  | custom name => exact hfound _
  | _ => rfl

/-- A table under a name that is new to its schema leaves every other table in its place. What a column of such a table
    refers to stays as it is, with its values, if and only if the new table brings along no enum type under that name,
    or one with the values that stand there already. -/
theorem enumOf?_declared (hdeclares : Declares catalog name types after)
    (hnew : catalog.stored? (catalog.schemaName name.schema, name.name) = none) {place : String × String}
    {table : TableDef} (htable : catalog.stored? place = some table) :
    after.stored? place = some table ∧ ∀ column,
      (after.enumOf? table column = catalog.enumOf? table column ↔
        ∀ ref ∈ catalog.enumName? table column, catalog.schemaName ref.schema = catalog.schemaName name.schema →
          ∀ type ∈ EnumDef.lastNamed? types ref.name, (catalog.enum? ref).map EnumDef.values = some type.values) := by
  constructor
  · rw [hdeclares.stored?_eq, htable]
    rintro rfl
    rw [hnew] at htable
    cases htable
  · intro column
    have hname : after.enumName? table column = catalog.enumName? table column := by
      rw [enumName?, hdeclares.schemaName_eq, enumName?]
    rw [enumOf?_eq, enumOf?_eq, hname]
    cases href : catalog.enumName? table column with
    | none => simp
    | some ref =>
      simp only [Option.bind_some, hdeclares.enum?_eq ref, Option.mem_some, forall_eq']
      by_cases hschema : catalog.schemaName ref.schema = catalog.schemaName name.schema
      · cases htype : EnumDef.lastNamed? types ref.name with
        | none => simp
        | some type => cases hfound : catalog.enum? ref <;> simp [hschema, eq_comm]
      · simp [hschema]

end Frame

/-- A field with one label. -/
def shadeField (label : String) : FieldDescriptor where
  name := "shade"
  typeName := "enum"
  size := none
  unsigned := false
  allowNull := true
  comment := none
  values := [label]

def inkCatalog : Catalog :=
  (Catalog.empty "shop").addTableOfFields "inks" [shadeField "red"]

def inkTable : TableDef where
  name := ⟨none, "inks"⟩
  columns := [("shade", ColumnDef.ofType "shade" (.custom "inks_shade"))]

/-- Columns of one name in two tables have types of their own. -/
theorem enumOf?_declared_inkCatalog :
    (inkCatalog.addTableOfFields "paints" [shadeField "blue"]).stored? ("shop", "inks") = some inkTable ∧
      (inkCatalog.addTableOfFields "paints" [shadeField "blue"]).enumOf? inkTable
        (ColumnDef.ofType "shade" (.custom "inks_shade")) = some (⟨some "shop", "inks_shade"⟩, ["red"]) := by
  have htable : inkCatalog.stored? ("shop", "inks") = some inkTable := by decide
  have hdeclares := Declares.fields inkCatalog "paints" [shadeField "blue"]
  obtain ⟨hstored, hcolumns⟩ := enumOf?_declared hdeclares (by decide) htable
  refine ⟨hstored, ((hcolumns _).2 ?_).trans (by decide)⟩
  intro ref href _ type htype
  cases href
  cases htype

/-- What a column of a table refers to after some definitions. -/
def enumAfter (definitions table column : String) : Option (QualifiedName × List String) :=
  (Draft.read? .mySQL { catalog := .empty "" } definitions).bind fun draft =>
    (draft.catalog.table? ⟨none, table⟩).bind fun found =>
      (found.column? column).bind (draft.catalog.enumOf? found)

/-- A column gets the labels of another table's column: where the names of tables and columns run into each other, and
    where a table has given its name away. -/
theorem enumAfter_shared :
    enumAfter "CREATE TABLE a (b_c ENUM('x'));" "a" "b_c" = some (⟨some "", "a_b_c"⟩, ["x"]) ∧
      enumAfter "CREATE TABLE a (b_c ENUM('x')); CREATE TABLE a_b (c ENUM('y'));" "a" "b_c" =
        some (⟨some "", "a_b_c"⟩, ["y"]) ∧
      enumAfter "CREATE TABLE a (b ENUM('x')); ALTER TABLE a RENAME TO c;" "c" "b" =
        some (⟨some "", "a_b"⟩, ["x"]) ∧
      enumAfter "CREATE TABLE a (b ENUM('x')); ALTER TABLE a RENAME TO c; CREATE TABLE a (b ENUM('y'));" "c" "b" =
        some (⟨some "", "a_b"⟩, ["y"]) := by
  decide +kernel

end Catalog

end AnnotatedSql
