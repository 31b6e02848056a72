import AnnotatedSql.Proofs.Compile.Success
import AnnotatedSql.Proofs.Text.Trim

/-!
Every annotated statement is accounted for: it becomes a query or a report, in the order of the source. The lines that
make a statement an annotated one are those in which a directive is looked for (`Directive.read_eq_none_iff`), so no
step on the way can lose a statement in between.
-/
namespace AnnotatedSql

/-- Every opening of a directive ends with its colon. -/
theorem CommentForms.getLast?_openings (forms : CommentForms) :
    ∀ opening ∈ forms.openings, opening.getLast? = some ':' := by
  rcases forms with ⟨_ | _, _ | _, _ | _⟩ <;> decide

namespace Directive

/-- The line that is read as a directive is looked for among trimmed lines, which makes no difference. -/
theorem read_eq (forms : CommentForms) (text : List Char) :
    read forms text = match (Text.lines text).find? forms.isDirective with
      | none => .ok none
      | some line => (readLine (Text.trim line)).map some := by
  have hsame : (fun line => forms.openings.any fun opening => opening.isPrefixOf line) ∘ Text.trim =
      forms.isDirective := by
    funext line
    rw [Bool.eq_iff_iff, Function.comp_apply, CommentForms.isDirective, List.any_eq_true, List.any_eq_true]
    refine exists_congr fun opening => and_congr_right fun hopening => ?_
    have hlast : ∀ c ∈ opening.getLast?, Text.isBlank c = false := by
      rw [forms.getLast?_openings opening hopening]
      rintro c ⟨⟩
      rfl
    rw [Text.trim, Text.isPrefixOf_trimEnd _ hlast]
  rw [read, List.find?_map, hsame]
  cases (Text.lines text).find? forms.isDirective <;> rfl

theorem read_eq_none_iff {forms : CommentForms} {text : List Char} :
    read forms text = .ok none ↔ (Text.lines text).any forms.isDirective = false := by
  rw [read_eq, List.any_eq_false]
  cases hfound : (Text.lines text).find? forms.isDirective with
  | none => exact ⟨fun _ => List.find?_eq_none.1 hfound, fun _ => rfl⟩
  | some line =>
    constructor
    · intro hread
      dsimp only at hread
      cases hline : readLine (Text.trim line) <;> rw [hline] at hread <;> cases hread
    · intro hnone
      exact absurd (List.find?_some hfound) (hnone line (List.mem_of_find?_eq_some hfound))

end Directive

section

variable {catalog : Catalog} {options : CompileOptions} {filename : String} {source : List Char}

/-- A statement with a directive line compiles to a query or fails. -/
theorem compileText_ne_none {extent : Source.Extent} {text : List Char}
    (hannotated : (Text.lines text).any options.dialect.commentForms.isDirective = true) :
    compileText catalog options filename extent text ≠ .ok none := by
  intro hnone
  simp only [compileText, hannotated, if_true] at hnone
  split at hnone
  · cases hnone
  · cases hnone
  · split at hnone
    · cases hnone
    · simp only [bind_eq_ok] at hnone
      obtain ⟨plucked, hplucked, _, _, _, _, _, _, _, _, _, _, directive, hread, hnone⟩ := hnone
      cases extent.eq_of_pluck_eq_ok hplucked
      cases directive with
      | none =>
        rw [Directive.read_eq_none_iff.1 hread] at hannotated
        cases hannotated
      | some directive =>
        obtain ⟨query, -, hnone⟩ := bind_eq_ok.1 hnone
        cases hnone

/-- A query has the name and the command of its directive. -/
theorem Annotated.toQuery_directive {given : Annotated} {query : Query}
    (hquery : given.toQuery catalog options filename = .ok query) :
    query.name = given.directive.name ∧ query.command = given.directive.command := by
  simp only [toQuery, bind_eq_ok] at hquery
  obtain ⟨_, _, _, _, _, _, _, _, _, _, _, _, _, _, hquery⟩ := hquery
  split at hquery
  · obtain ⟨_, -, hquery⟩ := bind_eq_ok.1 hquery
    cases hquery
    exact ⟨rfl, rfl⟩
  · cases hquery
    exact ⟨rfl, rfl⟩

theorem compileExtents_diagnostics (source : List Char) (extents : List Source.Extent) :
    (compileExtents catalog options filename source extents).diagnostics =
      extents.flatMap fun extent => (compileExtent catalog options filename source extent).diagnostics := by
  induction extents with
  | nil => rfl
  | cons extent extents ih =>
    simp only [compileExtents, List.map_cons, List.foldr_cons, Compiled.append, List.flatMap_cons] at ih ⊢
    rw [ih]

theorem compileExtents_aborted (source : List Char) (extents : List Source.Extent) :
    (compileExtents catalog options filename source extents).aborted =
      extents.any fun extent => (compileExtent catalog options filename source extent).aborted := by
  induction extents with
  | nil => rfl
  | cons extent extents ih =>
    simp only [compileExtents, List.map_cons, List.foldr_cons, Compiled.append, List.any_cons] at ih ⊢
    rw [ih]

/-- What a statement adds to the result: a query with the name of its directive, a report on its place, nothing, or no
    result at all. Which of these depends on its text alone. -/
theorem compileExtent_cases {extent : Source.Extent} {text : List Char} (htext : extent.text? source = some text) :
    (∃ query directive, compileExtent catalog options filename source extent = { queries := [query] } ∧
      Directive.read options.dialect.commentForms text = .ok (some directive) ∧
      query.name = directive.name ∧ query.command = directive.command) ∨
    (∃ diagnostic span, compileExtent catalog options filename source extent = { diagnostics := [diagnostic] } ∧
      diagnostic.span = some span ∧ span.offset = extent.location ∧ span.length = extent.length) ∨
    (compileExtent catalog options filename source extent = {} ∧
      compileText catalog options filename extent text = .ok none) ∨
    compileExtent catalog options filename source extent = { aborted := true } := by
  simp only [compileExtent, htext, Option.getD_some]
  cases houtcome : compileText catalog options filename extent text with
  | ok result =>
    cases result with
    | none => exact .inr (.inr (.inl ⟨rfl, rfl⟩))
    | some query =>
      obtain ⟨statement, occurrences, directive, -, -, hread, hquery⟩ := compileText_eq_some houtcome
      exact .inl ⟨query, directive, rfl, hread, Annotated.toQuery_directive hquery⟩
  | error error =>
    have hreported : ∀ diagnostic,
        diagnostic = diagnose options.dialect.commentForms source filename extent text error →
        ∃ span, diagnostic.span = some span ∧ span.offset = extent.location ∧ span.length = extent.length := by
      rintro diagnostic rfl
      exact ⟨_, rfl, rfl, rfl⟩
    obtain ⟨span, hspan⟩ := hreported _ rfl
    cases error with
    | brokenOff => exact .inr (.inr (.inr rfl))
    | _ => exact .inr (.inl ⟨_, span, rfl, hspan⟩)

end

/-- Unless the reading of a statement breaks off, every annotated statement is compiled to exactly one query or
    reported exactly once, and only annotated ones become queries. Queries and reports stand in the order of the
    statements that they come from, which is the order of the source. -/
theorem compile_accounts_for (catalog : Catalog) (options : CompileOptions) (filename : String) (source : List Char)
    (haborted : (compile catalog options filename source).aborted = false) :
    (compile catalog options filename source).queries =
        (Source.statements options.dialect source).flatMap
          (fun extent => (compileExtent catalog options filename source extent).queries) ∧
      (compile catalog options filename source).diagnostics =
        (Source.statements options.dialect source).flatMap
          (fun extent => (compileExtent catalog options filename source extent).diagnostics) ∧
      (Source.statements options.dialect source).Pairwise
        (fun extent later => extent.location + extent.length < later.location) ∧
      ∀ extent ∈ Source.statements options.dialect source, ∃ text, extent.text? source = some text ∧
        ((Text.lines text).any options.dialect.commentForms.isDirective = true →
          (∃ query directive, compileExtent catalog options filename source extent = { queries := [query] } ∧
            Directive.read options.dialect.commentForms text = .ok (some directive) ∧
            query.name = directive.name ∧ query.command = directive.command) ∨
          ∃ diagnostic span, compileExtent catalog options filename source extent = { diagnostics := [diagnostic] } ∧
            diagnostic.span = some span ∧ span.offset = extent.location ∧ span.length = extent.length) ∧
        ((Text.lines text).any options.dialect.commentForms.isDirective = false →
          (compileExtent catalog options filename source extent).queries = []) := by
  rw [compile_eq_compileExtents, compileExtents_aborted, List.any_eq_false] at haborted
  rw [compile_eq_compileExtents, compileExtents_queries, compileExtents_diagnostics]
  refine ⟨rfl, rfl, Source.statements_pairwise _ _, fun extent hextent => ?_⟩
  obtain ⟨text, htext⟩ := Source.text?_of_mem_statements hextent
  refine ⟨text, htext, ?_, ?_⟩
  · intro hannotated
    rcases compileExtent_cases htext with hquery | hreport | ⟨-, hnone⟩ | hbroken
    · exact .inl hquery
    · exact .inr hreport
    · exact absurd hnone (compileText_ne_none hannotated)
    · exact absurd (by rw [hbroken]) (haborted extent hextent)
  · intro hplain
    rcases compileExtent_cases htext with
      ⟨query, directive, -, hread, -⟩ | ⟨diagnostic, span, hreport, -⟩ | ⟨hnone, -⟩ | hbroken
    · rw [Directive.read_eq_none_iff.2 hplain] at hread
      cases hread
    · rw [hreport]
    · rw [hnone]
    · rw [hbroken]

/-- A first statement without a directive that cannot be read, and a second one that names a missing table. -/
def missingTable : List Char :=
  "SELEC 1;\n-- name: A :one\nSELECT a FROM missing;".toList

/-- The first of the two statements leaves no trace, and the second one is reported. -/
theorem compile_accounts_for_missingTable :
    (compile (.empty "public") ⟨.postgreSQL, none⟩ "query.sql" missingTable).aborted = false ∧
      Source.statements .postgreSQL missingTable = [⟨0, 7, true⟩, ⟨9, 37, true⟩] ∧
      ((∃ query directive, compileExtent (.empty "public") ⟨.postgreSQL, none⟩ "query.sql" missingTable ⟨9, 37, true⟩ =
          { queries := [query] } ∧
        Directive.read Dialect.postgreSQL.commentForms "-- name: A :one\nSELECT a FROM missing".toList =
          .ok (some directive) ∧ query.name = directive.name ∧ query.command = directive.command) ∨
      ∃ diagnostic span, compileExtent (.empty "public") ⟨.postgreSQL, none⟩ "query.sql" missingTable ⟨9, 37, true⟩ =
          { diagnostics := [diagnostic] } ∧
        diagnostic.span = some span ∧ span.offset = 9 ∧ span.length = 37) := by
  have haborted : (compile (.empty "public") ⟨.postgreSQL, none⟩ "query.sql" missingTable).aborted = false := by
    decide +kernel
  have hstatements : Source.statements .postgreSQL missingTable = [⟨0, 7, true⟩, ⟨9, 37, true⟩] := by decide +kernel
  obtain ⟨-, -, -, hall⟩ := compile_accounts_for (.empty "public") ⟨.postgreSQL, none⟩ "query.sql" missingTable haborted
  obtain ⟨text, htext, hannotated, -⟩ := hall ⟨9, 37, true⟩ (by rw [hstatements]; simp)
  have hsame : some text = some "-- name: A :one\nSELECT a FROM missing".toList := htext.symm.trans (by decide +kernel)
  cases hsame
  exact ⟨haborted, hstatements, hannotated (by decide +kernel)⟩

/-- An operand is missing behind `DIV`, and the annotated statement is neither compiled nor reported. -/
theorem compile_div_without_operand :
    Source.statements .mySQL "-- name: A :one\nSELECT 1 DIV;".toList = [⟨0, 28, true⟩] ∧
      Dialect.mySQL.commentForms.isDirective "-- name: A :one".toList = true ∧
      compile (.empty "") ⟨.mySQL, none⟩ "query.sql" "-- name: A :one\nSELECT 1 DIV;".toList =
        { queries := [], diagnostics := [], aborted := true } := by
  decide +kernel

end AnnotatedSql
