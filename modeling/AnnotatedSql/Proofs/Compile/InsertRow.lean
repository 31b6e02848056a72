import AnnotatedSql.Proofs.Compile.Unique

/-!
The first row of an `INSERT`. Its references are merged twice: by themselves for the row, and with all others for the
parameters of the statement. If they come first and each says something about its type, then no other reference is asked
about their numbers (`Reference.digest?_append_of_known`), and the parameters of the row are among those of the
statement.
-/
namespace AnnotatedSql

namespace Reference

variable {first rest : List Reference}

/-- The first reference of a number decides if it says something about its type. -/
theorem digest?_of_known {references : List Reference} {number : Nat} {reference : Reference}
    (hfound : references.find? (·.number = number) = some reference) (hknown : reference.context ≠ .unknown) :
    digest? references number = some reference := by
  have htelling : references.find? (fun reference => reference.number = number ∧ reference.context ≠ .unknown) =
      some reference := by
    obtain ⟨hnumber, front, back, rfl, hfront⟩ := List.find?_eq_some_iff_append.1 hfound
    refine List.find?_eq_some_iff_append.2 ⟨?_, front, back, rfl, fun other hother => ?_⟩
    · exact decide_eq_true ⟨of_decide_eq_true hnumber, hknown⟩
    · have hnumber : other.number ≠ number := by simpa using hfront other hother
      simp [hnumber]
  rw [digest?, hfound, htelling]
  rfl

/-- Later references change nothing for a number that occurs among earlier ones, all of which say something. -/
theorem digest?_append_of_known (hfirst : ∀ reference ∈ first, reference.context ≠ .unknown) {number : Nat}
    (hnumber : number ∈ first.map Reference.number) (rest : List Reference) :
    digest? (first ++ rest) number = digest? first number := by
  obtain ⟨reference, hfound⟩ : ∃ reference, first.find? (·.number = number) = some reference := by
    obtain ⟨reference, hreference, rfl⟩ := List.mem_map.1 hnumber
    exact Option.isSome_iff_exists.1 (List.find?_isSome.2 ⟨reference, hreference, decide_eq_true rfl⟩)
  have hknown := hfirst reference (List.mem_of_find?_eq_some hfound)
  have hwhole : (first ++ rest).find? (·.number = number) = some reference := by
    rw [List.find?_append, hfound, Option.some_or]
  rw [digest?_of_known hfound hknown, digest?_of_known hwhole hknown]

theorem digest?_eq_none {references : List Reference} {number : Nat}
    (hnumber : number ∉ references.map Reference.number) : digest? references number = none := by
  have hnone : references.find? (·.number = number) = none := by
    refine List.find?_eq_none.2 fun reference hreference hsame => hnumber ?_
    exact List.mem_map.2 ⟨reference, hreference, of_decide_eq_true hsame⟩
  rw [digest?, hnone]
  rfl

/-- References that come first and all say something are merged alike with and without the others. -/
theorem unique_eq_filter (hfirst : ∀ reference ∈ first, reference.context ≠ .unknown) (rest : List Reference) :
    unique first = (unique (first ++ rest)).filter fun kept => kept.number ∈ first.map Reference.number := by
  have hwhole := isDigest_unique (first ++ rest)
  refine (isDigest_unique first).eq ⟨hwhole.ascending.filter _, fun number => ?_⟩
  rw [List.find?_filter]
  by_cases hnumber : number ∈ first.map Reference.number
  · rw [← digest?_append_of_known hfirst hnumber rest, ← hwhole.find?]
    congr 1
    funext kept
    by_cases hkept : kept.number = number
    · simp only [hkept, hnumber, decide_true, and_self]
    · simp only [hkept, and_false, decide_false, Bool.false_eq_true]
  · rw [digest?_eq_none hnumber, List.find?_eq_none]
    intro kept _ hboth
    obtain ⟨hmem, hkept⟩ : kept.number ∈ first.map Reference.number ∧ kept.number = number := by simpa using hboth
    exact hnumber (hkept ▸ hmem)

end Reference

/-- What succeeds for all values of a list succeeds for those of them that a test picks. -/
theorem mapM_filter_eq_ok {α β : Type} {f : α → Except Error β} {p : α → Bool} {q : β → Bool} {values : List α}
    {results : List β} (hsame : ∀ value result, f value = .ok result → p value = q result)
    (hresults : values.mapM f = .ok results) : (values.filter p).mapM f = .ok (results.filter q) := by
  refine mapM_eq_ok_of_forall₂ (List.rel_filter ?_ (forall₂_of_mapM_eq_ok hresults))
  intro value result hresult
  exact Bool.eq_iff_iff.1 (hsame value result hresult)

/-- If the references of the first row come first and each says something about its type, then the row has the
    parameters of the statement whose numbers occur in it, as they are and in their order. -/
theorem insertValues_eq_filter {catalog : Catalog} {numbering : Numbering} {insert : Sql.Insert}
    {rows : List (List Sql.Expr)} (hrows : insert.source.map Sql.Query.body = some (.values rows))
    {first rest : List Reference}
    (hfirst : ∀ reference ∈ first, reference.row = some 0 ∧ reference.context ≠ .unknown)
    (hrest : ∀ reference ∈ rest, reference.row ≠ some 0) {params : List Parameter}
    (hparams : (Reference.unique (first ++ rest)).mapM (Reference.resolve catalog numbering) = .ok params) :
    insertValues catalog numbering (first ++ rest) (.insert insert) = .ok (some {
      params := params.filter fun param => param.number ∈ first.map Reference.number
      length := (rows.headD []).length }) := by
  have hrow : (first ++ rest).filter (·.row = some 0) = first := by
    have hkept : first.filter (·.row = some 0) = first :=
      List.filter_eq_self.2 fun reference hreference => decide_eq_true (hfirst reference hreference).1
    have hdropped : rest.filter (·.row = some 0) = [] :=
      List.filter_eq_nil_iff.2 fun reference hreference => by simpa using hrest reference hreference
    rw [List.filter_append, hkept, hdropped, List.append_nil]
  have hunique := Reference.unique_eq_filter (fun reference hreference => (hfirst reference hreference).2) rest
  have hpicked : (Reference.unique first).mapM (Reference.resolve catalog numbering) =
      .ok (params.filter fun param => param.number ∈ first.map Reference.number) := by
    rw [hunique]
    refine mapM_filter_eq_ok (fun reference param hparam => ?_) hparams
    rw [(Reference.resolve_ok hparam).1]
  have hlength : (rows.head?.map List.length).getD 0 = (rows.headD []).length := by
    cases rows <;> rfl
  rw [insertValues, hrows]
  dsimp only
  rw [hrow, hpicked, ← hlength]
  rfl

/-- A table of two columns. -/
def pairCatalog : Catalog :=
  (Catalog.empty "public").addTable {
    name := ⟨none, "t"⟩
    columns := [("a", .ofType "a" .integer), ("b", .ofType "b" .text)] }

/-- The placeholders of the first row in `INSERT INTO t VALUES ($2, $1), ($1, $3) ON CONFLICT DO UPDATE SET b = $2`. -/
def firstRow : List Reference := [
  { number := 2, location := 22, context := .target ⟨none, "t"⟩ "a", scope := [], row := some 0 },
  { number := 1, location := 26, context := .target ⟨none, "t"⟩ "b", scope := [], row := some 0 }]

/-- The other placeholders. They use the numbers of the first row for other columns. -/
def furtherPlaces : List Reference := [
  { number := 1, location := 32, context := .target ⟨none, "t"⟩ "a", scope := [], row := some 1 },
  { number := 3, location := 36, context := .target ⟨none, "t"⟩ "b", scope := [], row := some 1 },
  { number := 2, location := 70, context := .target ⟨none, "t"⟩ "b", scope := [], row := none }]

def insertedRows : List (List Sql.Expr) :=
  [["$2", "$1"], ["$1", "$3"]].map (·.map fun name => .literal (.placeholder name))

def pairInsert : Sql.Insert where
  table := [⟨"t", none⟩]
  columns := []
  source := some {
    recursive := false
    ctes := []
    body := .values insertedRows
    orderBy := []
    limit := none
    offset := none
    fetch := none }
  partitions := []
  updates := [⟨some [⟨"b", none⟩], .literal (.placeholder "$2")⟩]
  updateWhere := none
  returning := []

/-- The column that a placeholder is written into. -/
def pairColumn (name : String) (type : SqlType) : Column :=
  { Column.ofType name type false with table := some ⟨some "public", "t"⟩ }

theorem insertValues_eq_filter_pairInsert :
    (Reference.unique (firstRow ++ furtherPlaces)).mapM (Reference.resolve pairCatalog {}) = .ok [
      { number := 1, column := pairColumn "b" .text, location := 26 },
      { number := 2, column := pairColumn "a" .integer, location := 22 },
      { number := 3, column := pairColumn "b" .text, location := 36 }] ∧
    insertValues pairCatalog {} (firstRow ++ furtherPlaces) (.insert pairInsert) = .ok (some {
      params := [
        { number := 1, column := pairColumn "b" .text, location := 26 },
        { number := 2, column := pairColumn "a" .integer, location := 22 }]
      length := 2 }) := by
  have hparams : (Reference.unique (firstRow ++ furtherPlaces)).mapM (Reference.resolve pairCatalog {}) = .ok [
      { number := 1, column := pairColumn "b" .text, location := 26 },
      { number := 2, column := pairColumn "a" .integer, location := 22 },
      { number := 3, column := pairColumn "b" .text, location := 36 }] := by
    rw [← (Reference.isDigest_foldl_absorb _).eq (Reference.isDigest_unique _)]
    rfl
  have hfirst : ∀ reference ∈ firstRow, reference.row = some 0 ∧ reference.context ≠ .unknown := by decide
  have hrest : ∀ reference ∈ furtherPlaces, reference.row ≠ some 0 := by decide
  have hrows : pairInsert.source.map Sql.Query.body = some (.values insertedRows) := rfl
  exact ⟨hparams, (insertValues_eq_filter hrows hfirst hrest hparams).trans rfl⟩

end AnnotatedSql
