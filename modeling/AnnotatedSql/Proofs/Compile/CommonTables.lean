import AnnotatedSql.Compile
import AnnotatedSql.Proofs.Compile.Numbering
import AnnotatedSql.Proofs.Compile.Success
import AnnotatedSql.Proofs.Compile.WalkExtension

/-!
Common table expressions in the two passes over a statement. Typing sees an expression together with those before it
(`View.withCtes` of a front part of the list), but the walk for placeholders goes into it with all of them in force.
The two agree about every relation except those with the name of the expression itself or of a later one
(`View.relation_withCtes`), and the walk finds what it would find under the view of typing if no such name is used.
-/
namespace AnnotatedSql

open Sql (Cte ObjectName)

variable {view inner : View} {recursive : Bool} {outer : Scope}

theorem View.withCtes_cons (view : View) (recursive : Bool) (outer : Scope) (cte : Cte) (rest : List Cte) :
    view.withCtes recursive outer (cte :: rest) = view.queryColumns recursive outer cte.query >>= fun columns =>
      (view.addCte cte.asName columns).withCtes recursive outer rest := by
  cases cte
  rw [View.withCtes]

theorem View.withCtes_append (view : View) (recursive : Bool) (outer : Scope) (before after : List Cte) :
    view.withCtes recursive outer (before ++ after) =
      view.withCtes recursive outer before >>= fun seen => seen.withCtes recursive outer after := by
  induction before generalizing view with
  | nil =>
    rw [List.nil_append, View.withCtes]
    rfl
  | cons cte before ih => simp only [List.cons_append, View.withCtes_cons, ih, bind_assoc]

/-- Common table expressions change nothing about a view but the meaning of their names. -/
theorem View.withCtes_unchanged {ctes : List Cte} (hinner : view.withCtes recursive outer ctes = .ok inner) :
    inner.catalog = view.catalog ∧ inner.dialect = view.dialect ∧
      ∀ name, (∀ cte ∈ ctes, cte.key ≠ name) → inner.ctes.get? name = view.ctes.get? name := by
  induction ctes generalizing view with
  | nil =>
    cases hinner
    exact ⟨rfl, rfl, fun _ _ => rfl⟩
  | cons cte ctes ih =>
    rw [View.withCtes_cons] at hinner
    obtain ⟨columns, -, hinner⟩ := bind_eq_ok.1 hinner
    obtain ⟨hcatalog, hdialect, hctes⟩ := ih hinner
    refine ⟨hcatalog, hdialect, fun name hname => ?_⟩
    obtain ⟨hkey, hrest⟩ := List.forall_mem_cons.1 hname
    rw [hctes name hrest]
    exact (Keyed.get?_insert ..).trans (if_neg (Ne.symm hkey))

/-- A relation that has the name of none of some common table expressions is the same with and without them. -/
theorem View.relation_withCtes {ctes : List Cte} (hinner : view.withCtes recursive outer ctes = .ok inner)
    (name : ObjectName) (hname : ∀ cte ∈ ctes, cte.key ∉ name.outerNames) (asName : Option Sql.Alias) :
    inner.relation name asName = view.relation name asName := by
  obtain ⟨hcatalog, -, hctes⟩ := View.withCtes_unchanged hinner
  simp only [View.relation, View.tableVar, hcatalog]
  cases hschema : name.qualified.schema with
  | some schema => rfl
  | none =>
    have hkey : inner.ctes.get? (Text.toLower name.qualified.name) =
        view.ctes.get? (Text.toLower name.qualified.name) := by
      refine hctes _ fun cte hcte hkey => hname cte hcte ?_
      simp [ObjectName.outerNames, hschema, hkey]
    simp only [hkey]

/-- The view without some common table expressions knows as much as the one with them, about names that are not
    theirs. -/
theorem View.extends_of_withCtes {ctes : List Cte} (hinner : view.withCtes recursive outer ctes = .ok inner)
    {names : List String} (hnames : ∀ cte ∈ ctes, cte.key ∉ names) : inner.Extends view names := by
  obtain ⟨hcatalog, hdialect, hctes⟩ := View.withCtes_unchanged hinner
  refine ⟨hcatalog ▸ .refl _, hdialect.symm, fun name hname => ?_⟩
  exact (hctes name fun cte hcte hkey => hnames cte hcte (hkey ▸ hname)).symm

/-- What is found in common table expressions is what is found in each of them, in order. -/
theorem Walk.ctes_eq_ok {walk : Walk} {ctes : List Cte} {found : List Found}
    (hfound : walk.ctes outer ctes = .ok found) :
    ∃ parts : List (List Found), found = parts.flatten ∧
      List.Forall₂ (fun cte part => walk.query outer cte.query = .ok part) ctes parts := by
  induction ctes generalizing found with
  | nil =>
    cases hfound
    exact ⟨[], rfl, .nil⟩
  | cons cte ctes ih =>
    cases cte
    rw [Walk.ctes] at hfound
    obtain ⟨part, hpart, hfound⟩ := bind_eq_ok.1 hfound
    obtain ⟨rest, hrest, hfound⟩ := bind_eq_ok.1 hfound
    cases hfound
    obtain ⟨parts, rfl, hparts⟩ := ih hrest
    exact ⟨part :: parts, rfl, .cons hpart hparts⟩

/-- A query is walked under a view that has all of its common table expressions, and these come first. -/
theorem Walk.query_eq_ok {walk : Walk} {query : Sql.Query} {found : List Found}
    (hfound : walk.query outer query = .ok found) :
    ∃ full parts rest, walk.view.withCtes query.recursive outer query.ctes = .ok full ∧
      found = parts.flatten ++ rest ∧
      List.Forall₂ (fun cte part => { walk with view := full }.query outer cte.query = .ok part) query.ctes parts := by
  obtain ⟨recursive, ctes, body, orderBy, limit, offset, fetch⟩ := query
  rw [Walk.query] at hfound
  obtain ⟨full, hfull, hfound⟩ := bind_eq_ok.1 hfound
  obtain ⟨inCtes, hctes, hfound⟩ := bind_eq_ok.1 hfound
  obtain ⟨⟨inBody, scope⟩, -, hfound⟩ := bind_eq_ok.1 hfound
  obtain ⟨inOrder, -, hfound⟩ := bind_eq_ok.1 hfound
  obtain ⟨inLimit, -, hfound⟩ := bind_eq_ok.1 hfound
  obtain ⟨inOffset, -, hfound⟩ := bind_eq_ok.1 hfound
  cases hfound
  obtain ⟨parts, rfl, hparts⟩ := Walk.ctes_eq_ok hctes
  exact ⟨full, parts, inBody ++ inOrder ++ inLimit ++ inOffset, hfull, by simp, hparts⟩

/-- The view under which the common table expression after some others is typed, and what is added to it later. -/
theorem View.withCtes_split {before after : List Cte} {cte : Cte} {full : View}
    (hfull : view.withCtes recursive outer (before ++ cte :: after) = .ok full) :
    ∃ seen columns, view.withCtes recursive outer before = .ok seen ∧
      seen.queryColumns recursive outer cte.query = .ok columns ∧
      seen.withCtes recursive outer (cte :: after) = .ok full := by
  rw [View.withCtes_append] at hfull
  obtain ⟨seen, hseen, hfull⟩ := bind_eq_ok.1 hfull
  have hcte := hfull
  rw [View.withCtes_cons] at hcte
  obtain ⟨columns, hcolumns, -⟩ := bind_eq_ok.1 hcte
  exact ⟨seen, columns, hseen, hcolumns, hfull⟩

/-- A relation in a common table expression is the same for the walk as for typing, unless it has the name of the
    expression itself or of a later one: one of an earlier expression, or else what the name means outside. The walk
    then finds in the expression what it finds under the view of typing, with the same scopes. -/
theorem Walk.query_ctes_agree {walk : Walk} {query : Sql.Query} {found : List Found}
    (hrecursive : query.recursive = false) (hfound : walk.query outer query = .ok found) :
    ∃ (full : View) (parts : List (List Found)) (rest : List Found),
      walk.view.withCtes false outer query.ctes = .ok full ∧ found = parts.flatten ++ rest ∧
      parts.length = query.ctes.length ∧
      ∀ before cte after, query.ctes = before ++ cte :: after →
        ∃ seen columns part, parts[before.length]? = some part ∧
          walk.view.withCtes false outer before = .ok seen ∧
          seen.queryColumns false outer cte.query = .ok columns ∧
          { walk with view := full }.query outer cte.query = .ok part ∧
          (∀ name asName, (∀ other ∈ cte :: after, other.key ∉ name.outerNames) →
            full.relation name asName = seen.relation name asName) ∧
          (∀ name asName, (∀ other ∈ before, other.key ∉ name.outerNames) →
            seen.relation name asName = walk.view.relation name asName) ∧
          ((∀ other ∈ cte :: after, other.key ∉ cte.query.outerNames false) →
            { walk with view := seen }.query outer cte.query = .ok part) := by
  obtain ⟨full, parts, rest, hfull, hparts, hwalked⟩ := Walk.query_eq_ok hfound
  rw [hrecursive] at hfull
  refine ⟨full, parts, rest, hfull, hparts, hwalked.length_eq.symm, ?_⟩
  intro before cte after hctes
  rw [hctes] at hfull hwalked
  obtain ⟨seen, columns, hseen, hcolumns, hadded⟩ := View.withCtes_split hfull
  obtain ⟨part, hpart, hquery⟩ : ∃ part, parts[before.length]? = some part ∧
      { walk with view := full }.query outer cte.query = .ok part := by
    have hlength : before.length < parts.length := by simp [← hwalked.length_eq]
    refine ⟨parts[before.length], List.getElem?_eq_getElem hlength, ?_⟩
    simpa using hwalked.get (i := before.length) (by simp) hlength
  refine ⟨seen, columns, part, hpart, hseen, hcolumns, hquery, ?_, ?_, ?_⟩
  · intro name asName hname
    exact View.relation_withCtes hadded name hname asName
  · intro name asName hname
    exact View.relation_withCtes hseen name hname asName
  · intro hnames
    exact Walk.query_follows { walk with view := full } outer cte.query (View.extends_of_withCtes hadded hnames) part
      hquery

/-- The view of a statement that names these users. -/
def usersView : View :=
  { catalog := usersOnly, dialect := .postgreSQL }

/-- The query of a text. -/
def queryOf? (text : String) : Option Sql.Query :=
  match parseStatement .postgreSQL text.toList with
  | .ok (.query query) => some query
  | _ => none

/-- The query of the second expression names the first one, and its placeholder is found under the view that has only
    that one. -/
theorem Walk.query_ctes_agree_chained :
    ∃ query old few found seen part,
      queryOf? "WITH old AS (SELECT id FROM users), few AS (SELECT id FROM old WHERE id = $1) SELECT id FROM few" =
        some query ∧ query.ctes = [old, few] ∧
      Walk.query ⟨usersView, false, none⟩ [] query = .ok found ∧ found.length = 1 ∧
      usersView.withCtes false [] [old] = .ok seen ∧ Walk.query ⟨seen, false, none⟩ [] few.query = .ok part ∧
      part ⊆ found := by
  have hchecked :
      (queryOf? "WITH old AS (SELECT id FROM users), few AS (SELECT id FROM old WHERE id = $1) SELECT id FROM few").map
        (fun query => (query.recursive, query.ctes.map fun cte => (cte.key, cte.query.outerNames false),
          (Walk.query ⟨usersView, false, none⟩ [] query).map List.length)) =
      some (false, [("old", ["users"]), ("few", ["old"])], .ok 1) := by
    decide +kernel
  obtain ⟨query, hquery, hvalues⟩ := Option.map_eq_some_iff.1 hchecked
  simp only [Prod.mk.injEq] at hvalues
  obtain ⟨hrecursive, hctes, hlength⟩ := hvalues
  obtain ⟨old, rest, hold, -, hrest⟩ := List.map_eq_cons_iff.1 hctes
  obtain ⟨few, rest, rfl, hfew, hnil⟩ := List.map_eq_cons_iff.1 hrest
  rw [List.map_eq_nil_iff.1 hnil] at hold
  simp only [Prod.mk.injEq] at hfew
  cases hfound : Walk.query ⟨usersView, false, none⟩ [] query with
  | error error =>
    rw [hfound] at hlength
    cases hlength
  | ok found =>
    rw [hfound] at hlength
    obtain ⟨full, parts, rest, -, hparts, -, hagree⟩ := Walk.query_ctes_agree hrecursive hfound
    obtain ⟨seen, columns, part, hpart, hseen, -, -, -, -, hwalked⟩ := hagree [old] few [] hold
    refine ⟨query, old, few, found, seen, part, hquery, hold, hfound, Except.ok.inj hlength, hseen, ?_, ?_⟩
    · refine hwalked fun other hother => ?_
      rw [List.mem_singleton.1 hother, hfew.1, hfew.2]
      decide
    · intro placeholder hplaceholder
      rw [hparts, List.mem_append, List.mem_flatten]
      exact .inl ⟨part, List.mem_of_getElem? hpart, hplaceholder⟩

/-- The walk takes `users` for the expression of this name in its own query, where typing takes it for the table; a
    column that only the table has is then not found. -/
theorem walk_own_name_differs :
    (queryOf? "WITH users AS (SELECT id FROM users WHERE name = $1) SELECT id FROM users").map (fun query =>
      (Walk.query ⟨usersView, false, none⟩ [] query).map fun found =>
        found.flatMap fun placeholder => placeholder.scope.flatMap fun frame => frame.columns.map (·.name)) =
      some (.ok ["id"]) ∧
    (usersView.relation [⟨"users", none⟩] none).map (fun var => var.columns.map (·.name)) = .ok ["id", "name"] ∧
    (compile usersOnly ⟨.postgreSQL, none⟩ "query.sql" "-- name: A :many
WITH users AS (SELECT id FROM users WHERE name = $1) SELECT id FROM users;".toList).diagnostics.map
      (fun diagnostic => (diagnostic.kind, diagnostic.message)) =
      [(.columnNotFound, "column \"name\" does not exist")] := by
  refine ⟨by decide +kernel, by decide +kernel, ?_⟩
  simp only [compile, compileText, Annotated.toQuery, Reference.unique_eq_insertionSort]
  decide +kernel

end AnnotatedSql
