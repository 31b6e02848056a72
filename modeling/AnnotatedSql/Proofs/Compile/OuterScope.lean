import AnnotatedSql.Proofs.Compile.CommonTables

/-!
Queries within queries. A reference is left to the levels further out only if no level inside decides it
(`Scope.lookup_append`), so a query that has a meaning by itself keeps this meaning wherever it stands.
-/
namespace AnnotatedSql

/-- Whether a level decides a reference: it has the range variable of the qualifier, or a column of the name where
    there is no qualifier. -/
def Frame.decides (frame : Frame) (qualifier : Option String) (name : String) : Bool :=
  match qualifier with
  | some qualifier => (frame.var? qualifier).isSome
  | none => frame.vars.any fun var => (var.column? name).isSome

namespace Scope

variable {qualifier : Option String} {name : String}

/-- A level that decides a reference does so alone, whether to find a column or to refuse. -/
theorem lookup_cons (frame : Frame) (outer : Scope) :
    lookup qualifier name (frame :: outer) =
      if frame.decides qualifier name then lookup qualifier name [frame] else lookup qualifier name outer := by
  cases qualifier with
  | some qualifier =>
    cases hvar : frame.var? qualifier <;> simp [lookup, Frame.decides, hvar]
  | none =>
    have hdecides : frame.decides none name = false ↔ frame.vars.filterMap (·.column? name) = [] := by
      simp [Frame.decides, List.filterMap_eq_nil_iff]
    simp only [lookup]
    cases hfound : frame.vars.filterMap (·.column? name) with
    | nil => simp [hdecides.2 hfound]
    | cons first rest =>
      have htrue : frame.decides none name = true := by
        rw [← Bool.not_eq_false, hdecides, hfound]
        exact List.cons_ne_nil first rest
      rw [if_pos htrue]
      cases rest <;> rfl

/-- Outer levels are asked for what no inner level decides, and for nothing else. -/
theorem lookup_append (inner outer : Scope) :
    lookup qualifier name (inner ++ outer) =
      if inner.any (·.decides qualifier name) then lookup qualifier name inner else lookup qualifier name outer := by
  induction inner with
  | nil => rfl
  | cons frame inner ih =>
    rw [List.cons_append, lookup_cons frame (inner ++ outer), lookup_cons frame inner, ih, List.any_cons]
    cases frame.decides qualifier name <;> rfl

theorem lookup_nil_ne_ok (column : Column) : lookup qualifier name [] ≠ .ok column := by
  cases qualifier <;> simp [lookup]

/-- References that have a meaning keep it when levels are added on the outside. -/
theorem extends_append (inner outer : Scope) : inner.Extends (inner ++ outer) := by
  intro qualifier name column hcolumn
  rw [lookup_append]
  split
  · exact hcolumn
  · next hundecided =>
    have halone : lookup qualifier name (inner ++ []) = lookup qualifier name [] := by
      rw [lookup_append, if_neg hundecided]
    rw [List.append_nil, hcolumn] at halone
    exact absurd halone.symm (lookup_nil_ne_ok column)

end Scope

theorem View.Extends.refl (view : View) (names : List String) : view.Extends view names :=
  ⟨.refl _, rfl, fun _ _ => rfl⟩

/-- Levels that are added on the outside of a scope do not change the columns of a query. -/
theorem View.queryColumns_append (view : View) (recursiveTerm : Bool) (inner outer : Scope) (query : Sql.Query) :
    Follows (view.queryColumns recursiveTerm inner query) (view.queryColumns recursiveTerm (inner ++ outer) query) :=
  View.queryColumns_follows (Scope.extends_append inner outer) recursiveTerm query (.refl view _)

/-- A query that has columns by itself has the same columns within any other query. -/
theorem View.queryColumns_of_alone {view : View} {query : Sql.Query} {columns : List Column}
    (halone : view.queryColumns false [] query = .ok columns) (outer : Scope) :
    view.queryColumns false outer query = .ok columns := by
  have hwithin := view.queryColumns_append false [] outer query columns halone
  rwa [List.nil_append] at hwithin

/-- A level whose range variable is called like one of the query below, with columns that are called like those of the
    users but have another type. -/
def namesakes : Frame :=
  .single { name := "u", asName := none, columns := [.ofType "id" .boolean true, .ofType "name" .boolean true] }

/-- The names `u`, `id` and `name` of the query mean its own range variables and columns, although the level around
    it has all of them too. -/
theorem View.queryColumns_of_alone_namesakes :
    ∃ query columns,
      queryOf? "SELECT id, s.* FROM users AS u, LATERAL (SELECT (SELECT max(u.name) FROM users)) AS s(top)" =
        some query ∧
      usersView.queryColumns false [] query = .ok columns ∧
      columns.map (fun column => (column.name, column.type)) = [("id", "int"), ("top", "text")] ∧
      usersView.queryColumns false [namesakes] query = .ok columns := by
  have hchecked :
      (queryOf? "SELECT id, s.* FROM users AS u, LATERAL (SELECT (SELECT max(u.name) FROM users)) AS s(top)").map
        (fun query => (usersView.queryColumns false [] query).map fun columns =>
          columns.map fun column => (column.name, column.type)) =
      some (.ok [("id", "int"), ("top", "text")]) := by
    decide +kernel
  obtain ⟨query, hquery, hcolumns⟩ := Option.map_eq_some_iff.1 hchecked
  cases halone : usersView.queryColumns false [] query with
  | error error =>
    rw [halone] at hcolumns
    cases hcolumns
  | ok columns =>
    rw [halone] at hcolumns
    exact ⟨query, columns, hquery, halone, Except.ok.inj hcolumns, View.queryColumns_of_alone halone [namesakes]⟩

end AnnotatedSql
