import AnnotatedSql.Catalog.Define
import AnnotatedSql.Proofs.Catalog.Keyed
import AnnotatedSql.Proofs.Source.Boundary

/-!
When definitions can be taken in. A column that is renamed is taken out and put back at its index under the new name.
If it was the last one and the new name belongs to another column, this index lies behind the end of the columns that
are left. No other change can fail, so this clash of names is the only way in which the definitions of a text have no
outcome, apart from texts whose reading breaks off (`Draft.read?_eq_none_iff`).
-/
namespace AnnotatedSql

open Sql (Alteration Definition ObjectName Statement)

/-- A run of steps has no outcome if one of them, after those before it, has none. -/
theorem foldlM_eq_none_iff {α β : Type} {step : β → α → Option β} {values : List α} {state : β} :
    values.foldlM step state = none ↔ ∃ before value after middle, values = before ++ value :: after ∧
      before.foldlM step state = some middle ∧ step middle value = none := by
  induction values generalizing state with
  | nil => simp
  | cons first values ih =>
    rw [List.foldlM_cons, Option.bind_eq_bind, Option.bind_eq_none_iff]
    constructor
    · intro hnone
      cases hfirst : step state first with
      | none => exact ⟨[], first, values, state, rfl, rfl, hfirst⟩
      | some next =>
        obtain ⟨before, value, after, middle, rfl, hbefore, hvalue⟩ := ih.1 (hnone next hfirst)
        refine ⟨first :: before, value, after, middle, rfl, ?_, hvalue⟩
        rw [List.foldlM_cons, hfirst]
        exact hbefore
    · rintro ⟨before, value, after, middle, hvalues, hbefore, hvalue⟩ next hnext
      cases before with
      | nil =>
        cases hvalues
        cases hbefore
        rw [hvalue] at hnext
        cases hnext
      | cons other before =>
        cases hvalues
        rw [List.foldlM_cons, hnext] at hbefore
        exact ih.2 ⟨before, value, after, middle, rfl, hbefore, hvalue⟩

theorem foldlM_eq_none_of_mem {α β : Type} {step : β → α → Option β} {values : List α} {value : α}
    (hmem : value ∈ values) (hvalue : ∀ state, step state value = none) (state : β) :
    values.foldlM step state = none := by
  obtain ⟨before, after, rfl⟩ := List.append_of_mem hmem
  rw [List.foldlM_append]
  cases before.foldlM step state with
  | none => rfl
  | some middle =>
    show (value :: after).foldlM step middle = none
    rw [List.foldlM_cons, hvalue]
    rfl

/-- The last column of a table has the one name, and a column before it has the other. -/
def TableDef.LastOnto (table : TableDef) (old new : String) : Prop :=
  ∃ front, table.columns.keys = front ++ [old] ∧ old ∉ front ∧ new ∈ front

/-- A list that ends with the first occurrence of a name is split there in one way. -/
theorem split_unique {front back names : List String} {old : String}
    (hsplit : front ++ old :: back = names ++ [old]) (hold : old ∉ names) : back = [] ∧ front = names := by
  rcases List.eq_nil_or_concat back with rfl | ⟨middle, last, rfl⟩
  · exact ⟨rfl, List.append_cancel_right hsplit⟩
  · have hends : front ++ old :: middle ++ [last] = names ++ [old] := by simpa using hsplit
    have hnames : front ++ old :: middle = names := List.append_inj_left' hends rfl
    exact absurd (by simp [← hnames]) hold

namespace Catalog

/-- A column cannot be renamed only if it is the last one and its new name belongs to another column. -/
theorem renameColumn?_eq_none_iff {table : TableDef} {old new : String} :
    renameColumn? table old new = none ↔ table.LastOnto old new := by
  unfold renameColumn?
  cases hindex : table.columns.indexOf? old with
  | none =>
    have habsent : ∀ entry ∈ table.columns, entry.1 ≠ old := by simpa using List.findIdx?_eq_none_iff.1 hindex
    simp only [reduceCtorEq, false_iff]
    rintro ⟨front, hkeys, -, -⟩
    obtain ⟨entry, hentry, hkey⟩ := List.mem_map.1 (show old ∈ table.columns.keys by simp [hkeys])
    exact habsent entry hentry hkey
  | some index =>
    obtain ⟨front, column, back, hcolumns, hfront, rfl⟩ := Keyed.exists_of_indexOf? hindex
    have hkeys : table.columns.keys = Keyed.keys front ++ old :: Keyed.keys back := by simp [hcolumns, Keyed.keys]
    rw [hcolumns, Keyed.get?_of_first hfront, Keyed.erase_of_first hfront]
    simp only [Option.map_eq_none_iff, Keyed.insertAt?_eq_none_iff, List.length_append]
    rw [← Bool.not_eq_true, ← Keyed.mem_keys] at hfront
    constructor
    · rintro (hlength | ⟨hlength, hnew⟩)
      · omega
      · have hback : back = [] := List.length_eq_zero_iff.1 (by omega)
        rw [hback, List.append_nil, ← Keyed.mem_keys] at hnew
        exact ⟨Keyed.keys front, by rw [hkeys, hback]; rfl, hfront, hnew⟩
    · rintro ⟨names, hnames, hold, hnew⟩
      obtain ⟨hback, rfl⟩ := split_unique (hkeys.symm.trans hnames) hold
      have hnil : back = [] := List.map_eq_nil_iff.1 hback
      rw [hnil]
      exact .inr ⟨by simp, by simpa [← Keyed.mem_keys] using hnew⟩

/-- Renaming a column is the only change that can have no outcome. -/
theorem alter?_eq_none_iff {catalog : Catalog} {name : QualifiedName} {change : Alteration} :
    catalog.alter? name change = none ↔ ∃ old new table, change = .renameColumn old new ∧
      catalog.alterable? name = some table ∧ table.LastOnto old.value new.value := by
  cases change with
  | renameColumn old new =>
    rw [alter?]
    cases hfound : catalog.alterable? name with
    | none => simp
    | some table => simp [renameColumn?_eq_none_iff]
  | renameTable new =>
    rw [alter?]
    cases catalog.removable? name <;> simp
  | _ => simp [alter?]

/-- One of the changes of a table renames its last column onto another one, as the table is after the changes before. -/
def Clashes (catalog : Catalog) (name : QualifiedName) (changes : List Alteration) : Prop :=
  ∃ before old new after middle table, changes = before ++ .renameColumn old new :: after ∧
    before.foldlM (fun (catalog : Catalog) change => catalog.alter? name change) catalog = some middle ∧
    middle.alterable? name = some table ∧ table.LastOnto old.value new.value

theorem foldlM_alter?_eq_none_iff {catalog : Catalog} {name : QualifiedName} {changes : List Alteration} :
    changes.foldlM (fun (catalog : Catalog) change => catalog.alter? name change) catalog = none ↔
      catalog.Clashes name changes := by
  rw [foldlM_eq_none_iff]
  constructor
  · rintro ⟨before, change, after, middle, hchanges, hbefore, hnone⟩
    obtain ⟨old, new, table, rfl, hfound, hlast⟩ := alter?_eq_none_iff.1 hnone
    exact ⟨before, old, new, after, middle, table, hchanges, hbefore, hfound, hlast⟩
  · rintro ⟨before, old, new, after, middle, table, hchanges, hbefore, hfound, hlast⟩
    exact ⟨before, _, after, middle, hchanges, hbefore, alter?_eq_none_iff.2 ⟨old, new, table, rfl, hfound, hlast⟩⟩

end Catalog

namespace Draft

/-- One of the statements changes a table so that two columns clash, as the catalog is after the statements before. -/
def Clashes (draft : Draft) (statements : List Statement) : Prop :=
  ∃ before keywords name changes after middle,
    statements = before ++ .definition keywords (.alterTable name changes) :: after ∧
    before.foldlM step? draft = some middle ∧ middle.catalog.hasTable (ObjectName.qualified name) = true ∧
    middle.catalog.Clashes (ObjectName.qualified name) changes

theorem step?_eq_none_iff {draft : Draft} {statement : Statement} :
    draft.step? statement = none ↔ ∃ keywords name changes,
      statement = .definition keywords (.alterTable name changes) ∧
      draft.catalog.hasTable (ObjectName.qualified name) = true ∧
      draft.catalog.Clashes (ObjectName.qualified name) changes := by
  cases statement with
  | definition keywords definition =>
    cases definition with
    | alterTable name changes =>
      simp only [step?, define?]
      split
      · next hknown => simp [Catalog.foldlM_alter?_eq_none_iff, hknown]
      · next hknown => simp [hknown]
    | _ => simp [step?, define?]
  | _ => simp [step?]

theorem foldlM_step?_eq_none_iff {draft : Draft} {statements : List Statement} :
    statements.foldlM step? draft = none ↔ draft.Clashes statements := by
  rw [foldlM_eq_none_iff]
  constructor
  · rintro ⟨before, statement, after, middle, hstatements, hbefore, hnone⟩
    obtain ⟨keywords, name, changes, rfl, hknown, hclash⟩ := step?_eq_none_iff.1 hnone
    exact ⟨before, keywords, name, changes, after, middle, hstatements, hbefore, hknown, hclash⟩
  · rintro ⟨before, keywords, name, changes, after, middle, hstatements, hbefore, hknown, hclash⟩
    exact ⟨before, _, after, middle, hstatements, hbefore,
      step?_eq_none_iff.2 ⟨keywords, name, changes, rfl, hknown, hclash⟩⟩

/-- The statements that are taken in from a text: all of them, or those that can be read one by one. -/
def statementsOf (dialect : Dialect) (text : String) : List Statement :=
  match Sql.parse dialect.grammar text with
  | .ok statements => statements
  | .error _ => (Source.statements dialect text.toList).flatMap fun extent =>
      ((extent.text? text.toList).bind (statements? dialect)).getD []

/-- The reading of a text breaks off, or it cannot be read as a whole and that of one of its statements does. -/
def BreaksOff (dialect : Dialect) (text : String) : Prop :=
  Sql.parse dialect.grammar text = .error .brokenOff ∨
    ∃ refusal, Sql.parse dialect.grammar text = .error refusal ∧
      ∃ extent ∈ Source.statements dialect text.toList, ∃ part, extent.text? text.toList = some part ∧
        Sql.parse dialect.grammar (String.ofList (Text.trim part)) = .error .brokenOff

theorem statements?_eq_none_iff {dialect : Dialect} {part : List Char} :
    statements? dialect part = none ↔
      Sql.parse dialect.grammar (String.ofList (Text.trim part)) = .error .brokenOff := by
  unfold statements?
  cases Sql.parse dialect.grammar (String.ofList (Text.trim part)) with
  | ok statements => simp
  | error refusal => cases refusal <;> simp

/-- Statements that can all be read one by one are taken in as if they were read together. -/
theorem foldlM_extents {dialect : Dialect} {source : List Char} {extents : List Source.Extent} (draft : Draft)
    (hread : ∀ extent ∈ extents, ∃ part statements, extent.text? source = some part ∧
      statements? dialect part = some statements) :
    extents.foldlM (fun draft extent => do
        let part ← extent.text? source
        (← statements? dialect part).foldlM step? draft) draft =
      (extents.flatMap fun extent => ((extent.text? source).bind (statements? dialect)).getD []).foldlM
        step? draft := by
  induction extents generalizing draft with
  | nil => rfl
  | cons extent extents ih =>
    obtain ⟨⟨part, statements, hpart, hstatements⟩, hrest⟩ := List.forall_mem_cons.1 hread
    rw [List.foldlM_cons, List.flatMap_cons, List.foldlM_append]
    simp only [hpart, hstatements, Option.bind_eq_bind, Option.bind_some, Option.getD_some]
    exact bind_congr fun middle => ih middle hrest

/-- The definitions of a text have no outcome exactly if the reading breaks off or two columns clash. The text of each
    statement can always be cut out. -/
theorem read?_eq_none_iff {dialect : Dialect} {draft : Draft} {text : String} :
    draft.read? dialect text = none ↔ BreaksOff dialect text ∨ draft.Clashes (statementsOf dialect text) := by
  rw [← foldlM_step?_eq_none_iff]
  unfold read? statementsOf BreaksOff
  split
  · next statements hparse => simp [hparse]
  · next hparse => simp [hparse]
  · next refusal hbroken hparse =>
    rw [hparse]
    dsimp only
    by_cases hbreak : ∃ extent ∈ Source.statements dialect text.toList, ∃ part,
        extent.text? text.toList = some part ∧
          Sql.parse dialect.grammar (String.ofList (Text.trim part)) = .error .brokenOff
    · refine iff_of_true ?_ (.inl (.inr ⟨refusal, rfl, hbreak⟩))
      obtain ⟨extent, hextent, part, hpart, hpartBroken⟩ := hbreak
      apply foldlM_eq_none_of_mem hextent
      intro state
      simp [hpart, statements?_eq_none_iff.2 hpartBroken]
    · have hread : ∀ extent ∈ Source.statements dialect text.toList, ∃ part statements,
          extent.text? text.toList = some part ∧ statements? dialect part = some statements := by
        intro extent hextent
        obtain ⟨part, hpart⟩ := Source.text?_of_mem_statements hextent
        cases hstatements : statements? dialect part with
        | none => exact absurd ⟨extent, hextent, part, hpart, statements?_eq_none_iff.1 hstatements⟩ hbreak
        | some statements => exact ⟨part, statements, hpart, hstatements⟩
      rw [foldlM_extents draft hread]
      constructor
      · exact .inr
      · rintro ((hsame | ⟨_, _, hpart⟩) | hclash)
        · cases hsame
          exact absurd rfl hbroken
        · exact absurd hpart hbreak
        · exact hclash

/-- The definitions of a text are taken in, whatever the catalog before, if the reading does not break off and no
    change renames the last column of its table onto another column; and only then. -/
theorem exists_read?_eq_some_iff (dialect : Dialect) (draft : Draft) (text : String) :
    (∃ after, draft.read? dialect text = some after) ↔
      ¬ BreaksOff dialect text ∧ ¬ draft.Clashes (statementsOf dialect text) := by
  rw [← not_or, ← read?_eq_none_iff, ← Option.isSome_iff_exists, Option.isSome_iff_ne_none]

/-- Two columns, of which the second one is renamed to the name of the first. -/
def lastRenamed : String :=
  "CREATE TABLE t (a int, b int); ALTER TABLE t RENAME COLUMN b TO a;"

/-- The text is read as a whole, into two definitions that have no outcome together, although the first has one. -/
theorem read?_lastRenamed :
    ((Sql.parse Dialect.postgreSQL.grammar lastRenamed).toOption.map fun statements =>
      (statements.length, ((statements.take 1).foldlM step? { catalog := .empty "public" }).map fun draft =>
        (draft.catalog.table? ⟨none, "t"⟩).map (·.columns.keys))) = some (2, some (some ["a", "b"])) ∧
      Draft.read? .postgreSQL { catalog := .empty "public" } lastRenamed = none := by
  refine ⟨by decide +kernel, ?_⟩
  rw [← Option.isNone_iff_eq_none]
  decide +kernel

end Draft

end AnnotatedSql
