import AnnotatedSql.Proofs.Catalog.AlterSequence

/-!
Columns under new names. A column is taken out and put back at its index, so everything behind it moves up and down
again. If the new name is free, the column stands where it stood, nothing else about the table is different, and the
way back is a renaming too (`Draft.define?_renameColumn_restores`).
-/
namespace AnnotatedSql

open Sql (Ident ObjectName)

namespace Keyed

variable {α : Type} {entries front back : Keyed α} {key : String} {value : α}

/-- Under distinct keys, nothing else has the key of the entry at an index. -/
theorem exists_split_of_getElem? (hnodup : entries.keys.Nodup) {index : Nat}
    (hentry : entries[index]? = some (key, value)) :
    ∃ front back : Keyed α, entries = front ++ (key, value) :: back ∧ front.length = index ∧
      has (front ++ back) key = false := by
  obtain ⟨hlt, hvalue⟩ := List.getElem?_eq_some_iff.1 hentry
  have hsplit : entries = entries.take index ++ (key, value) :: entries.drop (index + 1) := by
    rw [← hvalue, ← List.drop_eq_getElem_cons hlt, List.take_append_drop]
  refine ⟨_, _, hsplit, List.length_take_of_le (Nat.le_of_lt hlt), ?_⟩
  rw [hsplit, keys, List.map_append, List.map_cons, List.nodup_middle, List.nodup_cons, ← List.map_append] at hnodup
  rw [← Bool.not_eq_true, ← mem_keys]
  exact hnodup.1

theorem WellKeyed.of_getElem? {P : String → α → Prop} (hentries : entries.WellKeyed P) {index : Nat}
    (hentry : entries[index]? = some (key, value)) : P key value :=
  hentries.fits (key, value) (List.mem_of_getElem? hentry)

theorem has_append (front back : Keyed α) (key : String) : has (front ++ back) key = (has front key || has back key) :=
  List.any_append

theorem indexOf?_of_first (hfront : has front key = false) :
    indexOf? (front ++ (key, value) :: back) key = some front.length := by
  have hnone : front.findIdx? (·.1 == key) = none := by simpa [has] using hfront
  simp [indexOf?, List.findIdx?_append, List.findIdx?_cons, hnone]

/-- A new key can be put between any two entries. -/
theorem insertAt?_of_new (hnew : has (front ++ back) key = false) :
    insertAt? (front ++ back) front.length key value = some (front ++ (key, value) :: back) := by
  have hinsert : List.insertIdx (front ++ back) front.length (key, value) = front ++ (key, value) :: back := by
    clear hnew
    induction front with
    | nil => rfl
    | cons entry front ih => exact congrArg (entry :: ·) ih
  rw [insertAt?, hnew, if_neg Bool.false_ne_true, if_pos (by simp), hinsert]

/-- Of two changes of the first entry of some kind, the second one finds what the first one made of it. -/
theorem modifyFirst_modifyFirst (p : String → Bool) (f g : α → α) (entries : Keyed α) :
    (entries.modifyFirst p f).modifyFirst p g = entries.modifyFirst p (g ∘ f) := by
  induction entries with
  | nil => rfl
  | cons entry entries ih =>
    by_cases hentry : p entry.1 = true
    · simp [modifyFirst, hentry]
    · simp [modifyFirst, hentry, ih]

theorem find?_modifyFirst (p : String → Bool) (f : α → α) (entries : Keyed α) :
    (entries.modifyFirst p f).find? (p ·.1) = (entries.find? (p ·.1)).map fun entry => (entry.1, f entry.2) := by
  induction entries with
  | nil => rfl
  | cons entry entries ih =>
    by_cases hentry : p entry.1 = true
    · simp [modifyFirst, hentry]
    · simp [modifyFirst, hentry, ih]

/-- Nothing changes if the first entry of some kind keeps its value. -/
theorem modifyFirst_eq_self {p : String → Bool} {f : α → α}
    (hkept : ∀ entry, entries.find? (p ·.1) = some entry → f entry.2 = entry.2) :
    entries.modifyFirst p f = entries := by
  induction entries with
  | nil => rfl
  | cons entry entries ih =>
    by_cases hentry : p entry.1 = true
    · have hsame : f entry.2 = entry.2 := hkept entry (by simp [hentry])
      simp [modifyFirst, hentry, hsame]
    · have hrest : modifyFirst p f entries = entries := ih fun other hother => hkept other (by simp [hentry, hother])
      simp [modifyFirst, hentry, hrest]

end Keyed

/-- The table with the column at an index under another name. -/
def TableDef.renamedAt (table : TableDef) (index : Nat) (column : ColumnDef) (new : String) : TableDef :=
  { table with columns := table.columns.set index (new, { column with name := new }) }

namespace Catalog

section Table

variable {table : TableDef} {front back : Keyed ColumnDef} {old new : String} {column : ColumnDef}

/-- A column gets a name that no other column has. -/
theorem renameColumn?_of_split (hcolumns : table.columns = front ++ (old, column) :: back)
    (hold : Keyed.has (front ++ back) old = false) (hnew : Keyed.has (front ++ back) new = false) :
    renameColumn? table old new = some (table.renamedAt front.length column new) := by
  have hfront : Keyed.has front old = false := by
    rw [Keyed.has_append, Bool.or_eq_false_iff] at hold
    exact hold.1
  have hset : table.columns.set front.length (new, { column with name := new }) =
      front ++ (new, { column with name := new }) :: back := by
    simp [hcolumns]
  rw [renameColumn?, TableDef.renamedAt, hset, hcolumns, Keyed.indexOf?_of_first hfront, Keyed.get?_of_first hfront,
    Keyed.erase_of_first hfront]
  simp only [Keyed.insertAt?_of_new hnew, Option.map_some]

/-- A column that had its key for a name gets both back. -/
theorem renameColumn?_renamedAt (hcolumns : table.columns = front ++ (old, column) :: back)
    (hold : Keyed.has (front ++ back) old = false) (hnew : Keyed.has (front ++ back) new = false)
    (hname : column.name = old) :
    renameColumn? (table.renamedAt front.length column new) new old = some table := by
  have hrenamed : (table.renamedAt front.length column new).columns =
      front ++ (new, { column with name := new }) :: back := by
    simp [TableDef.renamedAt, hcolumns]
  have hback : (front ++ (new, { column with name := new }) :: back).set front.length (old, column) =
      table.columns := by
    simp [hcolumns]
  subst hname
  rw [renameColumn?_of_split hrenamed hnew hold, TableDef.renamedAt, hrenamed, hback]
  rfl

end Table

variable {catalog : Catalog} {name : QualifiedName} {table : TableDef}

theorem modifySchema_modifySchema (catalog : Catalog) (qualifier : Option String) (f g : Schema → Schema) :
    (catalog.modifySchema qualifier f).modifySchema qualifier g = catalog.modifySchema qualifier (g ∘ f) := by
  have hschemas := Keyed.modifyFirst_modifyFirst (· == catalog.schemaName qualifier) f g catalog.schemas
  exact congrArg (fun schemas => { catalog with schemas }) hschemas

theorem modifyTable_modifyTable (catalog : Catalog) (name : QualifiedName) (f g : TableDef → TableDef) :
    (catalog.modifyTable name f).modifyTable name g = catalog.modifyTable name (g ∘ f) := by
  have hschema := modifySchema_modifySchema catalog name.schema
    (fun schema => { schema with tables := schema.tables.modifyFirst (Text.sameLetters · name.name) f })
    (fun schema => { schema with tables := schema.tables.modifyFirst (Text.sameLetters · name.name) g })
  simp only [Function.comp_def, Keyed.modifyFirst_modifyFirst] at hschema
  exact hschema

/-- A change that leaves the table as it is leaves the catalog as it is. -/
theorem modifyTable_eq_self {f : TableDef → TableDef} (htable : catalog.alterable? name = some table)
    (hkept : f table = table) : catalog.modifyTable name f = catalog := by
  have hschemas : catalog.schemas.modifyFirst (· == catalog.schemaName name.schema) (fun schema =>
      { schema with tables := schema.tables.modifyFirst (Text.sameLetters · name.name) f }) = catalog.schemas := by
    refine Keyed.modifyFirst_eq_self fun entry hentry => ?_
    have hschema : catalog.schema? name.schema = some entry.2 := by
      rw [schema?, Keyed.get?, hentry, Option.map_some]
    have htables : entry.2.tables.modifyFirst (Text.sameLetters · name.name) f = entry.2.tables := by
      refine Keyed.modifyFirst_eq_self fun found hfound => ?_
      rw [alterable?, hschema, Option.bind_some, hfound, Option.map_some] at htable
      cases htable
      exact hkept
    rw [htables]
  rw [modifyTable, modifySchema, hschemas]

theorem alterable?_modifyTable (htable : catalog.alterable? name = some table) (f : TableDef → TableDef) :
    (catalog.modifyTable name f).alterable? name = some (f table) := by
  rw [alterable?_eq] at htable
  obtain ⟨entry, hentry, rfl⟩ := Option.map_eq_some_iff.1 htable
  have hschema : (catalog.modifyTable name f).schemaName name.schema = catalog.schemaName name.schema := rfl
  rw [alterable?_eq, hschema, tablesOf_modifyTable, Function.update_self,
    Keyed.find?_modifyFirst (Text.sameLetters · name.name), hentry]
  rfl

/-- A name under which a table can be changed is known. -/
theorem hasTable_of_alterable? (htable : catalog.alterable? name = some table) : catalog.hasTable name = true := by
  rw [hasTable, table?_eq, htable]
  cases catalog.removable? name <;> rfl

theorem alter?_renameColumn {old new : Ident} {changed : TableDef} (htable : catalog.alterable? name = some table)
    (hchanged : renameColumn? table old.value new.value = some changed) :
    catalog.alter? name (.renameColumn old new) = some (catalog.modifyTable name fun _ => changed) := by
  simp only [alter?, htable, hchanged, Option.map_some]

end Catalog

namespace Draft

/-- A statement that renames a column, where the column can be renamed. -/
theorem define?_renameColumn {draft : Draft} {name : ObjectName} {table changed : TableDef} {old new : Ident}
    (htable : draft.catalog.alterable? name.qualified = some table)
    (hchanged : Catalog.renameColumn? table old.value new.value = some changed) :
    draft.define? (.alterTable name [.renameColumn old new]) =
      some { draft with catalog := draft.catalog.modifyTable name.qualified fun _ => changed } := by
  rw [define?_alterTable (Catalog.hasTable_of_alterable? htable), List.foldlM_cons,
    Catalog.alter?_renameColumn htable hchanged]
  rfl

/-- A column that gets a name which no column of its table has changes its key and its name and nothing else: the table
    keeps all that is not a column, the number of its columns, and each other column in its place. Renaming the column
    back restores the table. Statements that rename it do the same to the table of any catalog, and together leave the
    catalog as it was. -/
theorem define?_renameColumn_restores {table : TableDef} (hcolumns : table.columns.WellKeyed ColumnDef.Fits)
    (old new : Ident) (index : Nat) {column : ColumnDef} (hold : table.columns[index]? = some (old.value, column))
    (hnew : new.value ∉ table.columns.keys) :
    ∃ renamed : TableDef,
      Catalog.renameColumn? table old.value new.value = some renamed ∧
      renamed.name = table.name ∧ renamed.comment = table.comment ∧
      renamed.columns.length = table.columns.length ∧
      renamed.columns[index]? = some (new.value, { column with name := new.value }) ∧
      (∀ other, other ≠ index → renamed.columns[other]? = table.columns[other]?) ∧
      Catalog.renameColumn? renamed new.value old.value = some table ∧
      ∀ (draft : Draft) (name : ObjectName), draft.catalog.alterable? name.qualified = some table →
        ∃ after : Draft, draft.define? (.alterTable name [.renameColumn old new]) = some after ∧
          after.warnings = draft.warnings ∧
          after.catalog = draft.catalog.modifyTable name.qualified (fun _ => renamed) ∧
          after.catalog.alterable? name.qualified = some renamed ∧
          after.define? (.alterTable name [.renameColumn new old]) = some draft := by
  obtain ⟨front, back, hsplit, rfl, hunique⟩ := Keyed.exists_split_of_getElem? hcolumns.nodup hold
  have hfree : Keyed.has (front ++ back) new.value = false := by
    rw [← Bool.not_eq_true, ← Keyed.mem_keys]
    intro hmem
    apply hnew
    rw [hsplit]
    simp only [Keyed.keys, List.map_append, List.map_cons, List.mem_append, List.mem_cons] at hmem ⊢
    exact hmem.imp_right .inr
  have hthere := Catalog.renameColumn?_of_split hsplit hunique hfree
  have hback := Catalog.renameColumn?_renamedAt hsplit hunique hfree (hcolumns.of_getElem? hold).1
  refine ⟨_, hthere, rfl, rfl, List.length_set, ?_, fun other hother => List.getElem?_set_ne hother.symm, hback, ?_⟩
  · exact List.getElem?_set_self (List.getElem?_eq_some_iff.1 hold).1
  · intro draft name htable
    have hafter := Catalog.alterable?_modifyTable htable fun _ => table.renamedAt front.length column new.value
    refine ⟨_, define?_renameColumn htable hthere, rfl, rfl, hafter, ?_⟩
    rw [define?_renameColumn hafter hback, Catalog.modifyTable_modifyTable, Catalog.modifyTable_eq_self htable rfl]

/-- A table of three columns with a comment. -/
def orders : TableDef where
  name := ⟨none, "orders"⟩
  columns := [("id", .ofType "id" .integer), ("state", { ColumnDef.ofType "state" .text with nullable := false }),
    ("note", .ofType "note" .text)]
  comment := some "all orders"

/-- The last column gets another name and then its own one back, in a catalog where another table stands first. -/
theorem define?_renameColumn_restores_orders :
    let draft : Draft := { catalog := users.catalog.addTable orders }
    ∃ renamed, Catalog.renameColumn? orders "note" "remark" = some renamed ∧
      renamed.columns.keys = ["id", "state", "remark"] ∧
      Catalog.renameColumn? renamed "remark" "note" = some orders ∧
      ∃ after, draft.define? (.alterTable [{ value := "Orders" }]
          [.renameColumn { value := "note" } { value := "remark" }]) = some after ∧
        after.catalog.alterable? ⟨none, "Orders"⟩ = some renamed ∧
        after.define? (.alterTable [{ value := "Orders" }]
          [.renameColumn { value := "remark" } { value := "note" }]) = some draft := by
  intro draft
  have hcolumns : orders.columns.WellKeyed ColumnDef.Fits :=
    ⟨by decide, by simp [orders, ColumnDef.Fits, ColumnDef.ofType]⟩
  obtain ⟨renamed, hthere, -, -, -, -, -, hback, hdrafts⟩ := define?_renameColumn_restores hcolumns
    { value := "note" } { value := "remark" } 2 rfl (by decide)
  obtain ⟨after, hafter, -, -, hfound, hrestored⟩ := hdrafts draft [{ value := "Orders" }] rfl
  refine ⟨renamed, hthere, ?_, hback, after, hafter, hfound, hrestored⟩
  cases hthere
  rfl

end Draft

end AnnotatedSql
