import AnnotatedSql.Proofs.Compile.Boundary
import Mathlib.Data.List.Forall2

/-!
What stands behind a compiled query: the statement that it was read from, and the steps that its compilation went
through. Later proofs cite these and do not open `compile` again.
-/
namespace AnnotatedSql

/-- A computation of two steps succeeds if both do. -/
theorem bind_eq_ok {α β : Type} {first : Except Error α} {rest : α → Except Error β} {result : β} :
    (first >>= rest) = .ok result ↔ ∃ value, first = .ok value ∧ rest value = .ok result := by
  cases first <;> simp [bind, Except.bind]

/-- A list of computations succeeds if each of them does. -/
theorem forall₂_of_mapM_eq_ok {α β : Type} {f : α → Except Error β} {values : List α} {results : List β}
    (hresults : values.mapM f = .ok results) :
    List.Forall₂ (fun value result => f value = .ok result) values results := by
  induction values generalizing results with
  | nil =>
    cases hresults
    exact .nil
  | cons value values ih =>
    rw [List.mapM_cons] at hresults
    obtain ⟨first, hfirst, hresults⟩ := bind_eq_ok.1 hresults
    obtain ⟨rest, hrest, hresults⟩ := bind_eq_ok.1 hresults
    cases hresults
    exact .cons hfirst (ih hrest)

/-- Plucking a statement from its source leaves its text as it is. -/
theorem Source.Extent.eq_of_pluck_eq_ok (extent : Source.Extent) {text plucked : List Char}
    (hplucked : extent.pluck text = .ok plucked) : plucked = text := by
  unfold Source.Extent.pluck at hplucked
  split at hplucked <;> cases hplucked
  rfl

namespace Annotated

/-- A statement of a source with its directive, its placeholders located in its own text. -/
structure ReadFrom (dialect : Dialect) (source : List Char) (given : Annotated) : Prop where
  text : ∃ extent ∈ Source.statements dialect source, extent.text? source = some given.text
  parsed : parseStatement dialect.grammar given.text = .ok given.statement
  located : Placeholder.locate dialect given.text = .ok given.occurrences
  directed : Directive.read dialect.commentForms given.text = .ok (some given.directive)

/-- The one statement of a source is the one that is read from it. -/
theorem ReadFrom.of_single {dialect : Dialect} {source : List Char} {given : Annotated}
    (hread : given.ReadFrom dialect source) (text : List Char)
    (hsingle : (Source.statements dialect source).map (·.text? source) = [some text]) :
    given.text = text ∧ parseStatement dialect.grammar text = .ok given.statement ∧
      Placeholder.locate dialect text = .ok given.occurrences := by
  obtain ⟨extent, hextent, htext⟩ := hread.text
  have hmem : some given.text ∈ (Source.statements dialect source).map (·.text? source) :=
    List.mem_map.2 ⟨extent, hextent, htext⟩
  rw [hsingle, List.mem_singleton] at hmem
  cases hmem
  exact ⟨rfl, hread.parsed, hread.located⟩

/-- The numbers of the placeholders. -/
def numbering (given : Annotated) : Numbering :=
  .ofOccurrences given.occurrences

/-- The tree with numbers for names. -/
def numbered (given : Annotated) : Sql.Statement :=
  given.numbering.substitute given.statement

def view (catalog : Catalog) (options : CompileOptions) : View :=
  { catalog, dialect := options.dialect }

def references (catalog : Catalog) (options : CompileOptions) (given : Annotated) : Except Error (List Reference) :=
  Reference.ofStatement { view := view catalog options, slices := options.dialect.inListSlices } given.numbered
    given.occurrences given.numbering.ordinals

/-- The edits that the placeholders ask for. -/
def numberEdits (options : CompileOptions) (given : Annotated) : List Source.Edit :=
  if options.positional then positionalEdits given.occurrences else given.numbering.edits given.occurrences

/-- A compiled query comes from references that resolve to its parameters, and from a text that its edits apply
    to. -/
theorem toQuery_ok {catalog : Catalog} {options : CompileOptions} {filename : String} {given : Annotated}
    {query : Query} (hquery : given.toQuery catalog options filename = .ok query) :
    ∃ references wildcards edited,
      given.references catalog options = .ok references ∧
      (if options.positional then references else Reference.unique references).mapM
        (Reference.resolve catalog given.numbering) = .ok query.params ∧
      (view catalog options).wildcardEdits given.text given.numbered = .ok wildcards ∧
      Source.mutate given.text (given.numberEdits options ++ wildcards) = .ok edited ∧
      (edited ≠ given.text → checkEdited options edited given.occurrences.length = .ok ()) ∧
      query.sql = String.ofList (Source.stripComments options.dialect.commentForms edited).1 := by
  simp only [toQuery, bind_eq_ok] at hquery
  obtain ⟨references, hreferences, params, hparams, values, _, _, _, columns, _, wildcards, hwildcards, edited,
    hedited, hquery⟩ := hquery
  refine ⟨references, wildcards, edited, hreferences, ?_⟩
  split at hquery
  · obtain ⟨_, hchecked, hquery⟩ := bind_eq_ok.1 hquery
    cases hquery
    exact ⟨hparams, hwildcards, hedited, fun _ => hchecked, rfl⟩
  · next hsame =>
    cases hquery
    exact ⟨hparams, hwildcards, hedited, fun hchanged => absurd hchanged hsame, rfl⟩

end Annotated

section

variable {catalog : Catalog} {options : CompileOptions} {filename : String}

/-- Compiling a text gives a query only if each of the steps on the way succeeds. -/
theorem compileText_eq_some {extent : Source.Extent} {text : List Char} {query : Query}
    (hquery : compileText catalog options filename extent text = .ok (some query)) :
    ∃ statement occurrences directive, parseStatement options.dialect.grammar text = .ok statement ∧
      Placeholder.locate options.dialect text = .ok occurrences ∧
      Directive.read options.dialect.commentForms text = .ok (some directive) ∧
      Annotated.toQuery catalog options filename { text, statement, occurrences, directive } = .ok query := by
  simp only [compileText] at hquery
  split at hquery
  · cases hquery
  · split at hquery <;> cases hquery
  · next statement hparsed =>
    split at hquery
    · split at hquery <;> cases hquery
    · simp only [bind_eq_ok] at hquery
      obtain ⟨plucked, hplucked, occurrences, hlocated, _, _, _, _, _, _, _, _, directive, hread, hquery⟩ := hquery
      cases extent.eq_of_pluck_eq_ok hplucked
      cases directive with
      | none => cases hquery
      | some directive =>
        obtain ⟨built, hbuilt, hquery⟩ := bind_eq_ok.1 hquery
        cases hquery
        exact ⟨statement, occurrences, directive, hparsed, hlocated, hread, hbuilt⟩

theorem compileExtents_queries (source : List Char) (extents : List Source.Extent) :
    (compileExtents catalog options filename source extents).queries =
      extents.flatMap fun extent => (compileExtent catalog options filename source extent).queries := by
  induction extents with
  | nil => rfl
  | cons extent extents ih =>
    simp only [compileExtents, List.map_cons, List.foldr_cons, Compiled.append, List.flatMap_cons] at ih ⊢
    rw [ih]

/-- Every query of a source is compiled from one of its statements. -/
theorem mem_compile_queries {source : List Char} {query : Query}
    (hquery : query ∈ (compile catalog options filename source).queries) :
    ∃ given : Annotated, given.ReadFrom options.dialect source ∧
      given.toQuery catalog options filename = .ok query := by
  rw [compile_eq_compileExtents, compileExtents_queries] at hquery
  obtain ⟨extent, hextent, hquery⟩ := List.mem_flatMap.1 hquery
  obtain ⟨before, text, after, hsource, hlocation, hlength⟩ := Source.mem_statements hextent
  have htext : extent.text? source = some text := by
    rw [Source.Extent.text?, hlocation, hlength, hsource]
    exact Text.slice?_append before text after
  have hcompiled : compileText catalog options filename extent text = .ok (some query) := by
    simp only [compileExtent, htext, Option.getD_some] at hquery
    split at hquery
    · next other hother => rw [hother, List.mem_singleton.1 hquery]
    all_goals cases hquery
  obtain ⟨statement, occurrences, directive, hparsed, hlocated, hread, hbuilt⟩ := compileText_eq_some hcompiled
  exact ⟨{ text, statement, occurrences, directive }, ⟨⟨extent, hextent, htext⟩, hparsed, hlocated, hread⟩, hbuilt⟩

end

end AnnotatedSql
