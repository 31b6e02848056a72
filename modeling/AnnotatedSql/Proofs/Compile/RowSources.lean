import AnnotatedSql.Compile.Output
import AnnotatedSql.Proofs.Compile.Success

/-!
Nulls in the rows of a query body. The rows come from `SELECT`s and from lists of values, which set operations and
parentheses put together at any depth (`View.Draws`). A column of the body is marked as never null if and only if each
of these sources marks it, where a list of values speaks through its first row only (`View.bodyColumns_neverNullAt`).
-/
namespace AnnotatedSql

open Sql (Body Expr Select)

/-- Whether columns have one at a place that is marked as never null. -/
def NeverNullAt (columns : List Column) (place : Nat) : Prop :=
  columns[place]?.map Column.notNull = some true

theorem neverNullAt_cons_zero (column : Column) (columns : List Column) :
    NeverNullAt (column :: columns) 0 ↔ column.notNull = true := by
  simp [NeverNullAt]

theorem neverNullAt_cons_succ (column : Column) (columns : List Column) (place : Nat) :
    NeverNullAt (column :: columns) (place + 1) ↔ NeverNullAt columns place := by
  simp [NeverNullAt]

theorem not_neverNullAt_nil (place : Nat) : ¬ NeverNullAt [] place := by
  simp [NeverNullAt]

/-- A set operation keeps a mark that both sides have. -/
theorem neverNullAt_combineColumns {columns others : List Column} (hlength : columns.length = others.length)
    (place : Nat) :
    NeverNullAt (combineColumns columns others) place ↔ NeverNullAt columns place ∧ NeverNullAt others place := by
  induction columns generalizing others place with
  | nil =>
    simp [combineColumns, not_neverNullAt_nil]
  | cons column columns ih =>
    cases others with
    | nil => cases hlength
    | cons other others =>
      cases place with
      | zero => simp [combineColumns, neverNullAt_cons_zero]
      | succ place =>
        simp only [combineColumns, neverNullAt_cons_succ]
        exact ih (Nat.succ.inj hlength) place

theorem length_combineColumns (columns others : List Column) :
    (combineColumns columns others).length = columns.length := by
  fun_induction combineColumns columns others with
  | case1 column columns other others ih => simp [ih]
  | case2 => rfl

/-- Where rows come from. -/
inductive RowSource where
  | select (select : Select)
  | values (rows : List (List Expr))

namespace RowSource

/-- The part of a source that is typed: of a list of values, the first row. -/
def leading : RowSource → RowSource
  | .select given => .select given
  | .values rows => .values (rows.take 1)

/-- Whether each row of a source has an expression at a place whose column is marked as never null. -/
def Marks (view : View) (outer : Scope) (place : Nat) : RowSource → Prop
  | .select given => ∃ columns, view.selectColumns outer given = .ok columns ∧ NeverNullAt columns place
  | .values rows => ∀ row ∈ rows, ∃ value column,
      row[place]? = some value ∧ view.exprColumn outer value = .ok column ∧ column.notNull = true

theorem Marks.leading {view : View} {outer : Scope} {place : Nat} {source : RowSource}
    (hsource : source.Marks view outer place) : source.leading.Marks view outer place := by
  cases source with
  | select given => exact hsource
  | values rows => exact fun row hrow => hsource row (List.mem_of_mem_take hrow)

end RowSource

namespace View

variable {view inner : View} {outer : Scope} {body : Body} {width : Nat} {columns : List Column}

/-- The sources of a query body, each with the view that it is typed under. -/
inductive Draws (outer : Scope) : View → Body → View → RowSource → Prop where
  | select {view : View} {select : Select} : Draws outer view (.select select) view (.select select)
  | values {view : View} {rows : List (List Expr)} : Draws outer view (.values rows) view (.values rows)
  | left {view inner : View} {left right : Body} {source : RowSource} (hsource : Draws outer view left inner source) :
    Draws outer view (.setOperation left right) inner source
  | right {view inner : View} {left right : Body} {source : RowSource} (hsource : Draws outer view right inner source) :
    Draws outer view (.setOperation left right) inner source
  | query {view seen inner : View} {query : Sql.Query} {source : RowSource}
    (hseen : view.withCtes query.recursive outer query.ctes = .ok seen)
    (hsource : Draws outer seen query.body inner source) : Draws outer view (.query query) inner source

/-- A query body made of `SELECT`s and lists of values that all have the same number of columns. -/
inductive HasWidth (outer : Scope) (width : Nat) : View → Body → Prop where
  | select {view : View} {select : Select}
    (hselect : ∀ columns, view.selectColumns outer select = .ok columns → columns.length = width) :
    HasWidth outer width view (.select select)
  | values {view : View} {rows : List (List Expr)} (hrows : rows ≠ []) (hwidth : ∀ row ∈ rows, row.length = width) :
    HasWidth outer width view (.values rows)
  | setOperation {view : View} {left right : Body} (hleft : HasWidth outer width view left)
    (hright : HasWidth outer width view right) : HasWidth outer width view (.setOperation left right)
  | query {view : View} {query : Sql.Query}
    (hbody : ∀ seen, view.withCtes query.recursive outer query.ctes = .ok seen →
      HasWidth outer width seen query.body) :
    HasWidth outer width view (.query query)

/-- The columns of a query are those of its body, under the view of its common table expressions. -/
theorem queryColumns_eq_ok {query : Sql.Query} (hcolumns : view.queryColumns false outer query = .ok columns) :
    ∃ seen, view.withCtes query.recursive outer query.ctes = .ok seen ∧
      seen.bodyColumns outer query.body = .ok columns := by
  cases query
  exact bind_eq_ok.1 hcolumns

theorem bodyColumns_setOperation_eq_ok {left right : Body}
    (hcolumns : view.bodyColumns outer (.setOperation left right) = .ok columns) :
    ∃ lefts rights, view.bodyColumns outer left = .ok lefts ∧ view.bodyColumns outer right = .ok rights ∧
      columns = combineColumns lefts rights := by
  obtain ⟨lefts, hlefts, hcolumns⟩ := bind_eq_ok.1 hcolumns
  obtain ⟨rights, hrights, hcolumns⟩ := bind_eq_ok.1 hcolumns
  cases hcolumns
  exact ⟨lefts, rights, hlefts, hrights, rfl⟩

theorem valueColumns_cons_eq_ok {place : Nat} {value : Expr} {row : List Expr}
    (hcolumns : view.valueColumns outer place (value :: row) = .ok columns) :
    ∃ column rest, view.exprColumn outer value = .ok column ∧ view.valueColumns outer (place + 1) row = .ok rest ∧
      columns = { column with name := s!"column{place}" } :: rest := by
  obtain ⟨column, hcolumn, hcolumns⟩ := bind_eq_ok.1 hcolumns
  obtain ⟨rest, hrest, hcolumns⟩ := bind_eq_ok.1 hcolumns
  cases hcolumns
  exact ⟨column, rest, hcolumn, hrest, rfl⟩

/-- The columns of a row have the marks of its expressions. -/
theorem neverNullAt_valueColumns {start : Nat} {row : List Expr}
    (hcolumns : view.valueColumns outer start row = .ok columns) (place : Nat) :
    columns.length = row.length ∧ (NeverNullAt columns place ↔ ∃ value column,
      row[place]? = some value ∧ view.exprColumn outer value = .ok column ∧ column.notNull = true) := by
  induction row generalizing start columns place with
  | nil =>
    cases hcolumns
    simp [not_neverNullAt_nil]
  | cons value row ih =>
    obtain ⟨column, rest, hcolumn, hrest, rfl⟩ := valueColumns_cons_eq_ok hcolumns
    refine ⟨congrArg (· + 1) (ih hrest 0).1, ?_⟩
    cases place with
    | zero => simp [neverNullAt_cons_zero, hcolumn]
    | succ place =>
      rw [neverNullAt_cons_succ, (ih hrest place).2]
      rfl

theorem HasWidth.length_eq (hwidth : HasWidth outer width view body)
    (hcolumns : view.bodyColumns outer body = .ok columns) : columns.length = width := by
  induction hwidth generalizing columns with
  | select hselect => exact hselect columns hcolumns
  | @values view rows hrows hwidth =>
    cases rows with
    | nil => exact absurd rfl hrows
    | cons row rows =>
      rw [(neverNullAt_valueColumns hcolumns 0).1]
      exact hwidth row List.mem_cons_self
  | setOperation _ _ ihleft _ =>
    obtain ⟨lefts, rights, hlefts, -, rfl⟩ := bodyColumns_setOperation_eq_ok hcolumns
    rw [length_combineColumns]
    exact ihleft hlefts
  | query _ ih =>
    obtain ⟨seen, hseen, hbody⟩ := queryColumns_eq_ok hcolumns
    exact ih seen hseen hbody

/-- A mark is the conjunction of the marks of all sources, of which lists of values show their first row. -/
theorem HasWidth.neverNullAt_iff (hwidth : HasWidth outer width view body)
    (hcolumns : view.bodyColumns outer body = .ok columns) (place : Nat) :
    NeverNullAt columns place ↔
      ∀ inner source, Draws outer view body inner source → source.leading.Marks inner outer place := by
  induction hwidth generalizing columns with
  | select _ =>
    constructor
    · rintro hmark inner source ⟨⟩
      exact ⟨columns, hcolumns, hmark⟩
    · intro hsources
      obtain ⟨found, hfound, hmark⟩ := hsources _ _ .select
      cases hcolumns.symm.trans hfound
      exact hmark
  | @values view rows hrows _ =>
    cases rows with
    | nil => exact absurd rfl hrows
    | cons row rows =>
      rw [(neverNullAt_valueColumns hcolumns place).2]
      constructor
      · rintro hmark inner source ⟨⟩
        intro first hfirst
        cases List.mem_singleton.1 hfirst
        exact hmark
      · intro hsources
        have hleading : (RowSource.values [row]).Marks view outer place := hsources _ _ .values
        exact hleading row List.mem_cons_self
  | setOperation hleft hright ihleft ihright =>
    obtain ⟨lefts, rights, hlefts, hrights, rfl⟩ := bodyColumns_setOperation_eq_ok hcolumns
    have hlength : lefts.length = rights.length := by rw [hleft.length_eq hlefts, hright.length_eq hrights]
    rw [neverNullAt_combineColumns hlength, ihleft hlefts, ihright hrights]
    constructor
    · rintro ⟨hlefts, hrights⟩ inner source hsource
      cases hsource with
      | left hsource => exact hlefts inner source hsource
      | right hsource => exact hrights inner source hsource
    · intro hsources
      exact ⟨fun inner source hsource => hsources inner source (.left hsource),
        fun inner source hsource => hsources inner source (.right hsource)⟩
  | query _ ih =>
    obtain ⟨seen, hseen, hbody⟩ := queryColumns_eq_ok hcolumns
    rw [ih seen hseen hbody]
    constructor
    · intro hsources inner source hsource
      cases hsource with
      | query hother hsource =>
        cases hseen.symm.trans hother
        exact hsources inner source hsource
    · intro hsources inner source hsource
      exact hsources inner source (.query hseen hsource)

/-- A column of a query body is marked as never null if and only if every `SELECT` and the first row of every list of
    values mark it. If no further row brings a null where the first row has none, this is so if and only if every
    `SELECT` and every row mark it. -/
theorem bodyColumns_neverNullAt (hcolumns : view.bodyColumns outer body = .ok columns)
    (hwidth : HasWidth outer width view body) (place : Nat) :
    (NeverNullAt columns place ↔
      ∀ inner source, Draws outer view body inner source → source.leading.Marks inner outer place) ∧
    ((∀ inner source, Draws outer view body inner source →
        source.leading.Marks inner outer place → source.Marks inner outer place) →
      (NeverNullAt columns place ↔
        ∀ inner source, Draws outer view body inner source → source.Marks inner outer place)) := by
  have hleading := hwidth.neverNullAt_iff hcolumns place
  refine ⟨hleading, fun hfurther => hleading.trans ⟨?_, ?_⟩⟩
  · intro hsources inner source hsource
    exact hfurther inner source hsource (hsources inner source hsource)
  · intro hsources inner source hsource
    exact (hsources inner source hsource).leading

/-- `VALUES (1, NULL), (2, 3)` -/
def pairRows : List (List Expr) :=
  [[.literal (.number "1"), .literal .null], [.literal (.number "2"), .literal (.number "3")]]

/-- `SELECT a, b FROM c` -/
def pairSelect : Select where
  head := []
  items := [.expr (.ident ⟨"a", none⟩), .expr (.ident ⟨"b", none⟩)]
  tables := [⟨.table [⟨"c", none⟩] none [], []⟩]
  views := []
  selection := none
  groupBy := []
  sorting := []
  having := none
  windows := []
  qualify := none

/-- A query that names its rows and lists them, set against the rows themselves. -/
def pairBody : Body :=
  let values : Sql.Query :=
    { recursive := false, ctes := [], body := .values pairRows, orderBy := [], limit := none, offset := none,
      fetch := none }
  .setOperation (.values pairRows)
    (.query { values with
      ctes := [⟨⟨⟨"c", none⟩, [⟨"a", none⟩, ⟨"b", none⟩]⟩, values⟩]
      body := .select pairSelect })

/-- No tables. -/
def bareView : View where
  catalog := .empty "public"
  dialect := .postgreSQL

theorem hasWidth_pairBody : HasWidth [] 2 bareView pairBody := by
  refine .setOperation (.values (List.cons_ne_nil _ _) (by decide))
    (.query fun seen hseen => .select fun columns hcolumns => ?_)
  cases hseen
  have hlength := congrArg (Except.map List.length) hcolumns
  exact Except.ok.inj (hlength.symm.trans rfl)

/-- The first column has the mark of all rows. The second one would have that of the first row, if there were one. -/
theorem bodyColumns_neverNullAt_pairBody :
    (bareView.bodyColumns [] pairBody).map (·.map Column.notNull) = .ok [true, false] ∧
      (∀ inner source, Draws [] bareView pairBody inner source → source.Marks inner [] 0) ∧
      ¬ ∀ inner source, Draws [] bareView pairBody inner source → source.leading.Marks inner [] 1 := by
  have hmarks : (bareView.bodyColumns [] pairBody).map (·.map Column.notNull) = .ok [true, false] := rfl
  obtain ⟨columns, hcolumns⟩ : ∃ columns, bareView.bodyColumns [] pairBody = .ok columns := ⟨_, rfl⟩
  have hcells : columns.map Column.notNull = [true, false] := by
    rw [hcolumns] at hmarks
    exact Except.ok.inj hmarks
  have hplace (place : Nat) : NeverNullAt columns place ↔ [true, false][place]? = some true := by
    rw [NeverNullAt, ← List.getElem?_map, hcells]
  refine ⟨hmarks, ?_, ?_⟩
  · refine ((bodyColumns_neverNullAt hcolumns hasWidth_pairBody 0).2 ?_).1 ((hplace 0).2 rfl)
    intro inner source hsource hleading
    cases hsource with
    | left hsource =>
      cases hsource
      intro row hrow
      rcases List.mem_pair.1 hrow with rfl | rfl <;> exact ⟨_, _, rfl, rfl, rfl⟩
    | right hsource =>
      cases hsource with
      | query _ hsource =>
        cases hsource
        exact hleading
  · intro hleading
    have hmark := (bodyColumns_neverNullAt hcolumns hasWidth_pairBody 1).1.2 hleading
    cases (hplace 1).1 hmark

/-- `VALUES (1), (NULL)` -/
def laterNull : List (List Expr) :=
  [[.literal (.number "1")], [.literal .null]]

/-- The column is marked as never null, and the second row has a null. -/
theorem bodyColumns_laterNull :
    HasWidth [] 1 bareView (.values laterNull) ∧
      (bareView.bodyColumns [] (.values laterNull)).map (·.map Column.notNull) = .ok [true] ∧
      Draws [] bareView (.values laterNull) bareView (.values laterNull) ∧
      ¬ (RowSource.values laterNull).Marks bareView [] 0 := by
  refine ⟨.values (List.cons_ne_nil _ _) (by decide), rfl, .values, fun hrows => ?_⟩
  obtain ⟨value, column, hvalue, hcolumn, hmark⟩ := hrows [.literal .null] (by simp [laterNull])
  cases hvalue
  cases hcolumn
  cases hmark

end View

end AnnotatedSql
