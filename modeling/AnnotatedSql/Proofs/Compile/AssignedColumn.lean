import AnnotatedSql.Proofs.Catalog.NamedTable
import AnnotatedSql.Proofs.Compile.Unique
import AnnotatedSql.Proofs.Source.Splice

/-!
Placeholders that are assigned to columns. An `UPDATE` may join other tables to the one that it updates, and the columns
that it assigns to may be qualified; yet each of them is looked for in the updated table. So the parameter has the type
of the column that its path means in the scope of the statement, if the qualifier names the updated table
(`Annotated.toQuery_assigned`).
-/
namespace AnnotatedSql

open Sql (Assignment Expr FromItem Join JoinKind ObjectName Relation)

/-- Columns of the same type and origin. -/
structure Column.Alike (column other : Column) : Prop where
  type : column.type = other.type
  length : column.length = other.length
  enumRef : column.enumRef = other.enumRef
  table : column.table = other.table

theorem Column.Alike.symm {column other : Column} (halike : column.Alike other) : other.Alike column :=
  ⟨halike.type.symm, halike.length.symm, halike.enumRef.symm, halike.table.symm⟩

theorem Column.Alike.trans {column other third : Column} (hfirst : column.Alike other) (hsecond : other.Alike third) :
    column.Alike third :=
  ⟨hfirst.type.trans hsecond.type, hfirst.length.trans hsecond.length, hfirst.enumRef.trans hsecond.enumRef,
    hfirst.table.trans hsecond.table⟩

namespace Finding

theorem all_append_ok {parts others : List Finding} {found : List Found} (hfound : all (parts ++ others) = .ok found) :
    ∃ front back, all parts = .ok front ∧ all others = .ok back ∧ found = front ++ back := by
  obtain ⟨founds, hfounds, hfound⟩ := bind_eq_ok.1 hfound
  rw [List.mapM_append] at hfounds
  obtain ⟨front, hfront, hfounds⟩ := bind_eq_ok.1 hfounds
  obtain ⟨back, hback, hfounds⟩ := bind_eq_ok.1 hfounds
  cases hfounds
  cases hfound
  refine ⟨front.flatten, back.flatten, ?_, ?_, List.flatten_append⟩
  · rw [all, hfront]
    rfl
  · rw [all, hback]
    rfl

theorem all_cons_ok {part : Finding} {rest : List Finding} {found : List Found}
    (hfound : all (part :: rest) = .ok found) :
    ∃ front back, part = .ok front ∧ all rest = .ok back ∧ found = front ++ back := by
  obtain ⟨founds, hfounds, hfound⟩ := bind_eq_ok.1 hfound
  rw [List.mapM_cons] at hfounds
  obtain ⟨front, hfront, hfounds⟩ := bind_eq_ok.1 hfounds
  obtain ⟨back, hback, hfounds⟩ := bind_eq_ok.1 hfounds
  cases hfounds
  cases hfound
  refine ⟨front, back.flatten, hfront, ?_, rfl⟩
  rw [all, hback]
  rfl

end Finding

/-- An expression that is a placeholder, in parentheses or not. -/
inductive Sql.Expr.IsPlaceholder (spelling : String) : Expr → Prop where
  | bare : IsPlaceholder spelling (.literal (.placeholder spelling))
  | nested {inner : Expr} (hinner : IsPlaceholder spelling inner) : IsPlaceholder spelling (.nested inner)

theorem Walk.expr_of_isPlaceholder (walk : Walk) (scope : Scope) (context : Context) {value : Expr} {spelling : String}
    (hvalue : value.IsPlaceholder spelling) :
    walk.expr scope context value = .ok [walk.found scope context spelling] := by
  induction hvalue with
  | bare => rfl
  | nested _ ih => exact ih

/-- A placeholder is assigned to the column of a path. The walk meets `index` other placeholders before it. -/
def Sql.Update.Assigns (update : Sql.Update) (index : Nat) (path : ObjectName) : Prop :=
  ∃ before value after spelling, update.assignments = before ++ ⟨some path, value⟩ :: after ∧
    value.IsPlaceholder spelling ∧ index = (update.table.marks ++ marksOfAssignments before).length

theorem Sql.ObjectName.getLast?_of_column {path : ObjectName} {qualifier column : String}
    (hpath : path.column = (some qualifier, column)) : path.getLast?.map Ident.value = some column := by
  rw [← List.head?_reverse]
  unfold ObjectName.column at hpath
  split at hpath
  · cases hpath
  · cases hpath
  · next name _ _ hreverse =>
    cases hpath
    rw [hreverse]
    rfl

/-- A placeholder that is assigned to a column is met as one that is written into a column of the updated table,
    whatever the qualifier of the column. -/
theorem Walk.update_assigned {walk : Walk} {update : Sql.Update} {found : List Found} {table : QualifiedName}
    {index : Nat} {path : ObjectName} {qualifier column : String} (hfound : walk.update update = .ok found)
    (htable : updated? update.table.relation = some table) (hassigns : update.Assigns index path)
    (hpath : path.column = (some qualifier, column)) :
    ∃ frame spelling, walk.view.frame [] {} (update.table :: update.tables.toList) = .ok frame ∧
      found[index]? = some (walk.found [frame] (.target table column) spelling) := by
  obtain ⟨before, value, after, spelling, hassignments, hvalue, rfl⟩ := hassigns
  obtain ⟨frame, hframe, hfound⟩ := bind_eq_ok.1 hfound
  obtain ⟨inTable, hinTable, hfound⟩ := bind_eq_ok.1 hfound
  obtain ⟨assigned, hassigned, hfound⟩ := bind_eq_ok.1 hfound
  obtain ⟨inTables, -, hfound⟩ := bind_eq_ok.1 hfound
  obtain ⟨inSelection, -, hfound⟩ := bind_eq_ok.1 hfound
  obtain ⟨inReturning, -, hfound⟩ := bind_eq_ok.1 hfound
  cases hfound
  refine ⟨frame, spelling, hframe, ?_⟩
  rw [hassignments, htable, assignments, List.map_append] at hassigned
  obtain ⟨front, rest, hfront, hrest, rfl⟩ := Finding.all_append_ok hassigned
  obtain ⟨own, back, hown, -, rfl⟩ := Finding.all_cons_ok hrest
  obtain ⟨last, hlast, rfl⟩ := Option.map_eq_some_iff.1 (Sql.ObjectName.getLast?_of_column hpath)
  simp only [Option.bind_some, hlast] at hown
  rw [walk.expr_of_isPlaceholder _ _ hvalue] at hown
  cases hown
  have hlength : (update.table.marks ++ marksOfAssignments before).length = (inTable ++ front).length := by
    rw [← walk.fromItem_marks [] [frame] update.table inTable hinTable,
      ← walk.assignments_marks (some table) [frame] before front hfront, ← List.map_append, List.length_map]
  rw [hlength]
  simp

/-- Placeholders that are not operands of row limits keep their places. -/
theorem getElem?_alignLimits {found : List Found} {occurrences : List Occurrence} {index : Nat} {entry : Found}
    (hentry : found[index]? = some entry) (hslot : entry.context.slot? = none) :
    (alignLimits found occurrences)[index]? = some entry := by
  fun_induction alignLimits found occurrences generalizing index with
  | case1 a b rest o p others halign ih =>
    rcases index with _ | _ | index
    · cases hentry
      rw [halign.1] at hslot
      cases hslot
    · cases hentry
      rw [halign.2.1] at hslot
      cases hslot
    · exact ih hentry
  | case2 a b rest o p others _ ih =>
    cases index with
    | zero => exact hentry
    | succ index => exact ih hentry
  | case3 => exact hentry

namespace Reference

/-- What the walk finds has a reference at the same place, unless row limits are exchanged there. -/
theorem ofStatement_getElem? {walk : Walk} {statement : Sql.Statement} {occurrences : List Occurrence}
    {ordinals : List Nat} {references : List Reference} (hlength : ordinals.length = occurrences.length)
    (hreferences : ofStatement walk statement occurrences ordinals = .ok references) :
    ∃ found, walk.statement statement = .ok found ∧
      ∀ {index : Nat} {entry : Found}, found[index]? = some entry → entry.context.slot? = none →
        ∃ occurrence ordinal, references[index]? = some (ofFound entry occurrence ordinal) := by
  obtain ⟨found, hfound, hreferences⟩ := bind_eq_ok.1 hreferences
  split at hreferences
  · cases hreferences
  · next hcount =>
    cases hreferences
    refine ⟨found, hfound, fun {index entry} hentry hslot => ?_⟩
    have hlt : index < found.length := (List.getElem?_eq_some_iff.1 hentry).1
    have hindex : index < (occurrences.zip ordinals).length := by
      rw [List.length_zip, hlength, Nat.min_self, ← not_not.1 hcount]
      exact hlt
    refine ⟨(occurrences.zip ordinals)[index].1, (occurrences.zip ordinals)[index].2, ?_⟩
    rw [List.getElem?_zipWith, getElem?_alignLimits hentry hslot, List.getElem?_eq_getElem hindex]

/-- A reference decides about its parameter if each reference is a parameter of its own, or if none before it under the
    same number says anything about the type. -/
def Decides (options : CompileOptions) (references : List Reference) (index : Nat) (reference : Reference) : Prop :=
  options.positional = true ∨
    ∀ earlier ∈ references.take index, earlier.number = reference.number → earlier.context = .unknown

/-- Something is kept for each number, and of the references under it the first one that says something about the type
    counts. -/
theorem exists_digest? {references : List Reference} {index : Nat} {reference : Reference}
    (hreference : references[index]? = some reference) (htells : reference.context ≠ .unknown) :
    ∃ kept, digest? references reference.number = some kept ∧
      ((∀ earlier ∈ references.take index, earlier.number = reference.number → earlier.context = .unknown) →
        kept.context = reference.context) := by
  obtain ⟨hlt, rfl⟩ := List.getElem?_eq_some_iff.1 hreference
  obtain ⟨first, hfirst⟩ : ∃ first, references.find? (·.number = references[index].number) = some first := by
    rw [← Option.isSome_iff_exists, List.find?_isSome]
    exact ⟨references[index], List.getElem_mem hlt, decide_eq_true rfl⟩
  refine ⟨_, by rw [digest?, hfirst, Option.map_some], fun hearlier => ?_⟩
  have htelling : references.find? (fun other => other.number = references[index].number ∧ other.context ≠ .unknown) =
      some references[index] := by
    refine List.find?_eq_some_iff_append.2 ⟨decide_eq_true ⟨rfl, htells⟩, references.take index,
      references.drop (index + 1), ?_, fun earlier hmem => ?_⟩
    · rw [← List.drop_eq_getElem_cons hlt, List.take_append_drop]
    · simpa [imp_iff_not_or] using hearlier earlier hmem
  rw [htelling, Option.getD_some]

/-- A placeholder that is written into a column has the type and the origin of that column, whatever name it is
    given. -/
theorem resolve_target {catalog : Catalog} {numbering : Numbering} {reference : Reference} {param : Parameter}
    {table : QualifiedName} {column : String} (hcontext : reference.context = .target table column)
    (hparam : reference.resolve catalog numbering = .ok param) :
    ∃ target, targetColumn catalog table column = .ok target ∧ param.column.Alike target := by
  obtain ⟨target, htarget, hparam⟩ := bind_eq_ok.1 hparam
  rw [Reference.column, hcontext] at htarget
  cases hparam
  refine ⟨target, htarget, ?_⟩
  dsimp only
  split
  · exact ⟨rfl, rfl, rfl, rfl⟩
  · exact ⟨rfl, rfl, rfl, rfl⟩

end Reference

theorem targetColumn_ok {catalog : Catalog} {name : QualifiedName} {column : String} {target : Column}
    (htarget : targetColumn catalog name column = .ok target) :
    ∃ table definition, catalog.table? name = some table ∧ table.column? column = some definition ∧
      target = .ofDef catalog table definition := by
  unfold targetColumn at htarget
  split at htarget
  · cases htarget
  · next table htable =>
    split at htarget
    · cases htarget
    · next definition hcolumn =>
      cases htarget
      exact ⟨table, definition, htable, hcolumn, rfl⟩

/-- What is found among some values has a counterpart that is found among their counterparts. -/
theorem exists_find?_of_forall₂ {α β : Type} {R : α → β → Prop} {p : α → Bool} {q : β → Bool} {values : List α}
    {others : List β} (hothers : List.Forall₂ R values others) (hkinds : ∀ a b, R a b → p a = q b) {value : α}
    (hvalue : values.find? p = some value) : ∃ other, others.find? q = some other ∧ R value other := by
  induction hothers with
  | nil => cases hvalue
  | @cons a b _ _ hfirst _ ih =>
    rw [List.find?_cons] at hvalue ⊢
    rw [← hkinds a b hfirst]
    cases hp : p a with
    | true =>
      rw [hp] at hvalue
      cases hvalue
      exact ⟨b, rfl, hfirst⟩
    | false =>
      rw [hp] at hvalue
      exact ih hvalue

/-- The parameter of a reference: the one of its place, where placeholders are positional, or else the one of its
    number. -/
def Query.param? (query : Query) (options : CompileOptions) (index : Nat) (reference : Reference) : Option Parameter :=
  if options.positional then query.params[index]? else query.params.find? (·.number = reference.number)

namespace RangeVar

theorem nullable_nullable (var : RangeVar) : var.nullable.nullable = var.nullable := by
  simp [nullable, Function.comp_def]

/-- A range variable as its relation has it, but for nulls that an outer join may bring. -/
def IsOf (base var : RangeVar) : Prop :=
  var = base ∨ var = base.nullable

theorem IsOf.nullable {base var : RangeVar} (hvar : base.IsOf var) : base.IsOf var.nullable := by
  rcases hvar with rfl | rfl
  · exact .inr rfl
  · exact .inr (nullable_nullable base)

theorem IsOf.isNamed {base var : RangeVar} (hvar : base.IsOf var) (qualifier : String) :
    var.isNamed qualifier = base.isNamed qualifier := by
  rcases hvar with rfl | rfl <;> rfl

/-- The columns of a range variable are searched as what they are made from. -/
theorem column?_of_map {α : Type} {var : RangeVar} {values : List α} {f : α → Column}
    (hcolumns : var.columns = values.map f) (name : String) :
    var.column? name = (values.find? (fun value => (f value).name == name) <|>
      values.find? fun value => Text.sameLetters (f value).name name).map f := by
  rw [column?, hcolumns, List.find?_map, List.find?_map]
  simp only [Function.comp_def]
  cases values.find? fun value => (f value).name == name <;> rfl

/-- A column that is found stays the same but for nulls. -/
theorem IsOf.column? {base var : RangeVar} (hvar : base.IsOf var) {name : String} {column : Column}
    (hcolumn : base.column? name = some column) : ∃ found, var.column? name = some found ∧ found.Alike column := by
  rcases hvar with rfl | rfl
  · exact ⟨column, hcolumn, rfl, rfl, rfl, rfl⟩
  · refine ⟨{ column with notNull := false }, ?_, rfl, rfl, rfl, rfl⟩
    exact (column?_of_map rfl name).trans (congrArg (Option.map _) hcolumn)

end RangeVar

theorem joinSides_head (kind : JoinKind) {base var : RangeVar} (hvar : base.IsOf var) (vars right : List RangeVar) :
    ∃ first rest, joinSides kind (var :: vars) right = first :: rest ∧ base.IsOf first := by
  cases kind with
  | inner => exact ⟨var, _, rfl, hvar⟩
  | plain => exact ⟨var, _, rfl, hvar⟩
  | left => exact ⟨var, _, rfl, hvar⟩
  | right => exact ⟨var.nullable, _, rfl, hvar.nullable⟩
  | full => exact ⟨var.nullable, _, rfl, hvar.nullable⟩

namespace View

variable {view : View} {outer : Scope}

/-- Joins add nothing to the range variables of earlier items. -/
theorem joinVars_vars {frame last : Frame} {vars all : List RangeVar} {joins : List Join}
    (hjoined : view.joinVars outer frame vars joins = .ok (last, all)) : last.vars = frame.vars := by
  induction joins generalizing frame vars with
  | nil =>
    cases hjoined
    rfl
  | cons join joins ih =>
    obtain ⟨relation, kind, on, shared, hidden⟩ := join
    obtain ⟨right, -, hjoined⟩ := bind_eq_ok.1 hjoined
    have hlast := ih hjoined
    exact hlast

/-- Joins leave the first range variable of an item in its place. -/
theorem joinVars_head {frame last : Frame} {base var : RangeVar} {vars all : List RangeVar} {joins : List Join}
    (hvar : base.IsOf var) (hjoined : view.joinVars outer frame (var :: vars) joins = .ok (last, all)) :
    ∃ first rest, all = first :: rest ∧ base.IsOf first := by
  induction joins generalizing frame var vars with
  | nil =>
    cases hjoined
    exact ⟨var, vars, rfl, hvar⟩
  | cons join joins ih =>
    obtain ⟨relation, kind, on, shared, hidden⟩ := join
    obtain ⟨right, -, hjoined⟩ := bind_eq_ok.1 hjoined
    obtain ⟨first, rest, hsides, hfirst⟩ := joinSides_head kind hvar vars right
    rw [hsides] at hjoined
    exact ih hfirst hjoined

/-- The range variables of each item stand behind those of earlier ones. -/
theorem exists_frame_vars {start frame : Frame} {items : List FromItem}
    (hframe : view.frame outer start items = .ok frame) : ∃ rest, frame.vars = start.vars ++ rest := by
  induction items generalizing start with
  | nil =>
    cases hframe
    exact ⟨[], (List.append_nil _).symm⟩
  | cons item items ih =>
    obtain ⟨relation, joins⟩ := item
    obtain ⟨vars, -, hframe⟩ := bind_eq_ok.1 hframe
    obtain ⟨⟨joined, all⟩, hjoined, hframe⟩ := bind_eq_ok.1 hframe
    obtain ⟨rest, hrest⟩ := ih hframe
    rw [joinVars_vars hjoined, List.append_assoc] at hrest
    exact ⟨all ++ rest, hrest⟩

/-- The table of a clause that comes first is the first range variable of the clause. -/
theorem frame_head {frame : Frame} {name : ObjectName} {asName : Option Sql.Alias} {hints : List Expr}
    {joins : List Join} {items : List FromItem}
    (hframe : view.frame outer {} (⟨.table name asName hints, joins⟩ :: items) = .ok frame) :
    ∃ base first rest, view.relation name asName = .ok base ∧ frame.vars = first :: rest ∧ base.IsOf first := by
  obtain ⟨vars, hvars, hframe⟩ := bind_eq_ok.1 hframe
  obtain ⟨base, hbase, hvars⟩ := bind_eq_ok.1 hvars
  cases hvars
  obtain ⟨⟨joined, all⟩, hjoined, hframe⟩ := bind_eq_ok.1 hframe
  obtain ⟨first, others, rfl, hfirst⟩ := joinVars_head (.inl rfl) hjoined
  obtain ⟨rest, hrest⟩ := exists_frame_vars hframe
  rw [joinVars_vars hjoined] at hrest
  exact ⟨base, first, others ++ rest, hbase, hrest, hfirst⟩

end View

/-- A qualifier and a name mean a column of a table with an alias. The alias leaves the columns their names, and a
    column that is spelled exactly like the name is the first one with the same letters. -/
structure TableDef.Names (table : TableDef) (asName : Option Sql.Alias) (qualifier name : String) : Prop where
  label : Text.sameLetters ((asName.map (·.name.value)).getD table.name.name) qualifier = true
  columns : ∀ given ∈ asName, given.columns = []
  spelling : ∀ column, table.columns.get? name = some column → table.column? name = some column

namespace View

variable {table : TableDef} {asName : Option Sql.Alias}

theorem isNamed_tableVar (view : View) (table : TableDef) (asName : Option Sql.Alias) (qualifier : String) :
    (view.tableVar table asName).isNamed qualifier =
      Text.sameLetters ((asName.map (·.name.value)).getD table.name.name) qualifier := by
  cases asName <;> rfl

/-- An alias without names for columns changes nothing but the alias in the columns. -/
theorem columns_tableVar (view : View) (table : TableDef) (hplain : ∀ given ∈ asName, given.columns = []) :
    ∃ f : ColumnDef → Column, (view.tableVar table asName).columns = table.columns.values.map f ∧
      ∀ column, (f column).name = column.name ∧ (f column).Alike (.ofDef view.catalog table column) := by
  cases asName with
  | none => exact ⟨.ofDef view.catalog table, rfl, fun column => ⟨rfl, rfl, rfl, rfl, rfl⟩⟩
  | some given =>
    refine ⟨fun column => { Column.ofDef view.catalog table column with tableAlias := some given.name.value }, ?_,
      fun column => ⟨rfl, rfl, rfl, rfl, rfl⟩⟩
    rw [tableVar, RangeVar.ofColumns, hplain given rfl]
    have hkept : ∀ columns : List Column, renameColumns columns [] = columns := by
      intro columns
      cases columns <;> rfl
    rw [hkept, List.map_map]
    rfl

/-- The range variable of a table finds the column that the table finds. -/
theorem column?_tableVar (view : View) {qualifier name : String} {column : ColumnDef}
    (hcolumns : table.columns.WellKeyed ColumnDef.Fits) (hnames : table.Names asName qualifier name)
    (hcolumn : table.column? name = some column) :
    ∃ found, (view.tableVar table asName).column? name = some found ∧
      found.Alike (.ofDef view.catalog table column) := by
  obtain ⟨f, hmade, hf⟩ := columns_tableVar view table hnames.columns
  have hkeys : ∀ entry ∈ table.columns, (f entry.2).name = entry.1 := fun entry hentry =>
    (hf entry.2).1.trans (hcolumns.fits entry hentry).1
  refine ⟨f column, ?_, (hf column).2⟩
  rw [RangeVar.column?_of_map hmade, Keyed.find?_values hkeys (· == name),
    Keyed.find?_values hkeys (Text.sameLetters · name)]
  have hfound : (table.columns.get? name <|> table.column? name) = some column := by
    cases hexact : table.columns.get? name with
    | none => exact hcolumn
    | some exact => exact (hnames.spelling exact hexact).symm.trans hcolumn
  exact congrArg (Option.map f) hfound

end View

namespace Annotated

variable {catalog : Catalog} {options : CompileOptions} {filename : String} {given : Annotated} {query : Query}

theorem relation_view {name : ObjectName} {asName : Option Sql.Alias} {base : RangeVar}
    (hbase : (view catalog options).relation name asName = .ok base) :
    ∃ table, catalog.table? name.qualified = some table ∧ base = (view catalog options).tableVar table asName := by
  have hhidden : (if name.qualified.schema.isNone then
      (view catalog options).ctes.get? (Text.toLower name.qualified.name) else none) = none := ite_self none
  rw [View.relation, hhidden] at hbase
  cases htable : catalog.table? name.qualified with
  | none =>
    rw [view, htable] at hbase
    cases hbase
  | some table =>
    rw [view, htable] at hbase
    cases hbase
    exact ⟨table, rfl, rfl⟩

/-- A qualified column of the table that a clause begins with is found in the scope of the clause. -/
theorem lookup_updated {frame : Frame} {name : ObjectName} {asName : Option Sql.Alias} {hints : List Expr}
    {joins : List Join} {items : List FromItem} {table : TableDef} {definition : ColumnDef} {qualifier column : String}
    (hframe : (view catalog options).frame [] {} (⟨.table name asName hints, joins⟩ :: items) = .ok frame)
    (hcatalog : catalog.Reachable) (htable : catalog.table? name.qualified = some table)
    (hnames : table.Names asName qualifier column) (hcolumn : table.column? column = some definition) :
    ∃ found, Scope.lookup (some qualifier) column [frame] = .ok found ∧
      found.Alike (.ofDef catalog table definition) := by
  obtain ⟨base, first, rest, hbase, hvars, hfirst⟩ := View.frame_head hframe
  obtain ⟨table', htable', rfl⟩ := relation_view hbase
  rw [htable] at htable'
  cases htable'
  have hwell := hcatalog.wellFormed
  have hcolumns := ((hwell.tablesOf _).of_get? (hwell.stored?_of_table? htable).1).columns
  obtain ⟨shown, hshown, hsame⟩ := View.column?_tableVar (view catalog options) hcolumns hnames hcolumn
  obtain ⟨found, hfound, halike⟩ := hfirst.column? hshown
  have hvar : frame.var? qualifier = some first := by
    rw [Frame.var?, hvars, List.find?_cons, hfirst.isNamed, View.isNamed_tableVar, hnames.label]
  refine ⟨found, ?_, halike.trans hsame⟩
  simp only [Scope.lookup, hvar, hfound]

/-- Each reference has its parameter, and one that decides about it is resolved to its column. -/
theorem exists_param {references : List Reference} {index : Nat} {reference : Reference} {table : QualifiedName}
    {column : String} (hquery : given.toQuery catalog options filename = .ok query)
    (hreferences : given.references catalog options = .ok references)
    (hreference : references[index]? = some reference) (hcontext : reference.context = .target table column) :
    ∃ param, query.param? options index reference = some param ∧
      (reference.Decides options references index →
        ∃ target, targetColumn catalog table column = .ok target ∧ param.column.Alike target) := by
  obtain ⟨references', _, _, hsame, hparams, -⟩ := toQuery_ok hquery
  rw [hreferences] at hsame
  cases hsame
  unfold Query.param?
  by_cases hpositional : options.positional = true
  · rw [if_pos hpositional] at hparams ⊢
    obtain ⟨hlt, rfl⟩ := List.getElem?_eq_some_iff.1 hreference
    have hresolved := forall₂_of_mapM_eq_ok hparams
    have hindex : index < query.params.length := hresolved.length_eq ▸ hlt
    refine ⟨query.params[index], List.getElem?_eq_getElem hindex, fun _ => ?_⟩
    exact Reference.resolve_target hcontext (hresolved.get hlt hindex)
  · rw [if_neg hpositional] at hparams ⊢
    have htells : reference.context ≠ .unknown := by simp [hcontext]
    obtain ⟨kept, hkept, hcounts⟩ := Reference.exists_digest? hreference htells
    rw [← (Reference.isDigest_unique references).find?] at hkept
    have hnumbers : ∀ (entry : Reference) (param : Parameter), entry.resolve catalog given.numbering = .ok param →
        decide (entry.number = reference.number) = decide (param.number = reference.number) := by
      intro entry param hresolved
      rw [(Reference.resolve_ok hresolved).1]
    obtain ⟨param, hparam, hresolved⟩ := exists_find?_of_forall₂ (forall₂_of_mapM_eq_ok hparams) hnumbers hkept
    refine ⟨param, hparam, fun hdecides => ?_⟩
    have hearlier := hdecides.resolve_left hpositional
    exact Reference.resolve_target ((hcounts hearlier).trans hcontext) hresolved

/-- The parameter of a placeholder that is assigned to a qualified column has type and origin of the column of that name
    in the updated table, whichever table the qualifier names. This is the column that the path means in the scope of
    the statement, if the qualifier names the updated table. -/
theorem toQuery_assigned {update : Sql.Update} {name : ObjectName} {asName : Option Sql.Alias} {hints : List Expr}
    {joins : List Join} {index : Nat} {path : ObjectName} {qualifier column : String}
    (hquery : given.toQuery catalog options filename = .ok query) (hupdate : given.numbered = .update update)
    (htable : update.table = ⟨.table name asName hints, joins⟩) (hassigns : update.Assigns index path)
    (hpath : path.column = (some qualifier, column)) :
    ∃ references reference frame param,
      given.references catalog options = .ok references ∧ references[index]? = some reference ∧
      (view catalog options).frame [] {} (update.table :: update.tables.toList) = .ok frame ∧
      query.param? options index reference = some param ∧
      (reference.Decides options references index →
        ∃ table definition, catalog.table? name.qualified = some table ∧ table.column? column = some definition ∧
          param.column.Alike (.ofDef catalog table definition) ∧
          (catalog.Reachable → table.Names asName qualifier column →
            ∃ found, Scope.lookup (some qualifier) column [frame] = .ok found ∧ param.column.Alike found)) := by
  obtain ⟨references, _, _, hreferences, -⟩ := toQuery_ok hquery
  obtain ⟨found, hfound, hmet⟩ :=
    Reference.ofStatement_getElem? (Numbering.length_ordinals given.occurrences) hreferences
  rw [hupdate] at hfound
  have hupdated : Walk.updated? update.table.relation = some name.qualified := by rw [htable]; rfl
  obtain ⟨frame, spelling, hframe, hentry⟩ := Walk.update_assigned hfound hupdated hassigns hpath
  obtain ⟨occurrence, ordinal, hreference⟩ := hmet hentry rfl
  obtain ⟨param, hparam, hdecided⟩ := exists_param hquery hreferences hreference rfl
  refine ⟨references, _, frame, param, hreferences, hreference, hframe, hparam, fun hdecides => ?_⟩
  obtain ⟨target, htarget, halike⟩ := hdecided hdecides
  obtain ⟨table, definition, hfound, hcolumn, rfl⟩ := targetColumn_ok htarget
  refine ⟨table, definition, hfound, hcolumn, halike, fun hcatalog hnames => ?_⟩
  rw [htable] at hframe
  obtain ⟨meant, hmeant, hsame⟩ := lookup_updated hframe hcatalog hfound hnames hcolumn
  exact ⟨meant, hmeant, halike.trans hsame.symm⟩

/-- A table with two columns. -/
def twoColumns (name : String) (type : SqlType) : TableDef :=
  [.ofType "id" .integer, .ofType "x" type].foldl TableDef.addColumn { name := ⟨none, name⟩ }

/-- Two tables with columns of the same names but of different types. -/
def twoTables : Catalog :=
  ((Catalog.empty "").addTable (twoColumns "a" .integer)).addTable (twoColumns "b" (.varchar (some 9)))

/-- The clause `a JOIN b ON a.id = b.id`. -/
def joinedTables : FromItem where
  relation := .table [{ value := "a" }] none []
  joins := [{
    relation := .table [{ value := "b" }] none []
    kind := .inner
    on := some (.binary (.path [{ value := "a" }, { value := "id" }]) .comparison
      (.path [{ value := "b" }, { value := "id" }]))
    shared := []
    hidden := [] }]

/-- The statement `UPDATE a JOIN b ON a.id = b.id SET a.x = ?`. -/
def joinedUpdate : Annotated where
  text := "UPDATE a JOIN b ON a.id = b.id SET a.x = ?".toList
  statement := .update {
    table := joinedTables
    assignments := [⟨some [{ value := "a" }, { value := "x" }], .literal (.placeholder "?")⟩]
    tables := none
    selection := none
    returning := [] }
  occurrences := [{ location := 41, text := "?", kind := .positional, slot := none }]
  directive := { name := "Q", command := .exec, omits := [] }

theorem toQuery_assigned_joinedUpdate :
    ∃ query param frame found, joinedUpdate.toQuery twoTables ⟨.mySQL, none⟩ "query.sql" = .ok query ∧
      query.params[0]? = some param ∧ (view twoTables ⟨.mySQL, none⟩).frame [] {} [joinedTables] = .ok frame ∧
      Scope.lookup (some "a") "x" [frame] = .ok found ∧ param.column.Alike found := by
  have hsome : (joinedUpdate.toQuery twoTables ⟨.mySQL, none⟩ "query.sql").toOption.isSome = true := by
    simp only [toQuery, Source.mutate_eq_insertionSort]
    decide +kernel
  have hreachable : twoTables.Reachable :=
    .step (.step (.empty "") (.addTable ⟨none, "a"⟩ _ (by simp [ColumnDef.ofType])))
      (.addTable ⟨none, "b"⟩ _ (by simp [ColumnDef.ofType]))
  have htable : twoTables.table? ⟨none, "a"⟩ = some (twoColumns "a" .integer) := by decide
  have hsame : (twoColumns "a" .integer).columns.get? "x" = (twoColumns "a" .integer).column? "x" := by decide
  have hnames : (twoColumns "a" .integer).Names none "a" "x" := ⟨by decide, by simp, fun column h => hsame ▸ h⟩
  cases hquery : joinedUpdate.toQuery twoTables ⟨.mySQL, none⟩ "query.sql" with
  | error error =>
    rw [hquery] at hsome
    cases hsome
  | ok query =>
    obtain ⟨references, reference, frame, param, -, -, hframe, hparam, hdecides⟩ :=
      toQuery_assigned hquery rfl rfl ⟨[], _, [], "?", rfl, .bare, rfl⟩ rfl
    obtain ⟨table, definition, hfound, -, -, hmeant⟩ := hdecides (.inl rfl)
    cases hfound.symm.trans htable
    obtain ⟨found, hlookup, halike⟩ := hmeant hreachable hnames
    exact ⟨query, param, frame, found, rfl, hparam, hframe, hlookup, halike⟩

/-- A column of the joined table is written, and the parameter has the type of the updated table's column. -/
theorem compile_assigned_joinedTable :
    ((compile twoTables ⟨.mySQL, none⟩ "query.sql"
        "-- name: Q :exec\nUPDATE a JOIN b ON a.id = b.id SET b.x = ?;".toList).queries.map fun query =>
      query.params.map fun param => (param.column.type, param.column.table)) = [[("int", some ⟨some "", "a"⟩)]] ∧
    (((view twoTables ⟨.mySQL, none⟩).frame [] {} [joinedTables]).toOption.bind fun frame =>
      (Scope.lookup (some "b") "x" [frame]).toOption.map fun column => (column.type, column.table)) =
        some ("varchar", some ⟨some "", "b"⟩) := by
  refine ⟨?_, by decide +kernel⟩
  simp only [compile, compileText, toQuery, Reference.unique_eq_insertionSort, Source.mutate_eq_insertionSort]
  decide +kernel

end Annotated

end AnnotatedSql
