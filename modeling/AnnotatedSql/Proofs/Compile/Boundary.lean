import AnnotatedSql.Compile
import AnnotatedSql.Proofs.Source.Boundary
import AnnotatedSql.Proofs.Text.Position

/-!
Compiling is compositional at statement boundaries. A statement is compiled from its own text alone; where it stands
shows in the reports only.
-/
namespace AnnotatedSql

namespace Compiled

/-- What two sources compile to, one after the other. -/
def append (first second : Compiled) : Compiled where
  queries := first.queries ++ second.queries
  diagnostics := first.diagnostics ++ second.diagnostics
  aborted := first.aborted || second.aborted

theorem append_assoc (first second third : Compiled) :
    (first.append second).append third = first.append (second.append third) := by
  simp [append, Bool.or_assoc]

@[simp] theorem append_empty (compiled : Compiled) : compiled.append {} = compiled := by
  simp [append]

@[simp] theorem empty_append (compiled : Compiled) : ({} : Compiled).append compiled = compiled := by
  simp [append]

end Compiled

/-- A place behind a text that is put in front. -/
def Span.behind (front : List Char) (span : Span) : Span :=
  let (line, column) := Text.rebase (Text.positionAfter 1 1 front) (span.line, span.column)
  { span with offset := Text.byteSize front + span.offset, line, column }

/-- A report on a source behind a text that is put in front. -/
def Diagnostic.behind (front : List Char) (diagnostic : Diagnostic) : Diagnostic :=
  { diagnostic with span := diagnostic.span.map (·.behind front) }

def Compiled.behind (front : List Char) (compiled : Compiled) : Compiled :=
  { compiled with diagnostics := compiled.diagnostics.map (·.behind front) }

/-- What the statement of one extent adds to the result. -/
def compileExtent (catalog : Catalog) (options : CompileOptions) (filename : String) (source : List Char)
    (extent : Source.Extent) : Compiled :=
  let text := (extent.text? source).getD []
  match compileText catalog options filename extent text with
  | .ok (some query) => { queries := [query] }
  | .ok none => {}
  | .error .brokenOff => { aborted := true }
  | .error error => { diagnostics := [diagnose options.dialect.commentForms source filename extent text error] }

/-- What the statements of some extents add up to. -/
def compileExtents (catalog : Catalog) (options : CompileOptions) (filename : String) (source : List Char)
    (extents : List Source.Extent) : Compiled :=
  (extents.map (compileExtent catalog options filename source)).foldr Compiled.append {}

section

variable {catalog : Catalog} {options : CompileOptions} {filename : String}

theorem compileExtents_append (source : List Char) (extents others : List Source.Extent) :
    compileExtents catalog options filename source (extents ++ others) =
      (compileExtents catalog options filename source extents).append
        (compileExtents catalog options filename source others) := by
  induction extents with
  | nil => simp [compileExtents]
  | cons extent extents ih =>
    simp only [compileExtents, List.cons_append, List.map_cons, List.foldr_cons] at ih ⊢
    rw [ih, Compiled.append_assoc]

/-- One step of compiling a source adds what its statement contributes. -/
theorem compile_eq_foldl (source : List Char) :
    compile catalog options filename source =
      (Source.statements options.dialect source).foldl
        (fun compiled extent => compiled.append (compileExtent catalog options filename source extent)) {} := by
  unfold compile
  congr 1
  funext compiled extent
  simp only [compileExtent]
  generalize compileText catalog options filename extent ((extent.text? source).getD []) = outcome
  rcases outcome with error | (_ | query)
  · cases error <;> simp [Compiled.append]
  · simp
  · simp [Compiled.append]

theorem compile_eq_compileExtents (source : List Char) :
    compile catalog options filename source =
      compileExtents catalog options filename source (Source.statements options.dialect source) := by
  rw [compile_eq_foldl]
  generalize Source.statements options.dialect source = extents
  suffices h : ∀ compiled : Compiled, extents.foldl
      (fun compiled extent => compiled.append (compileExtent catalog options filename source extent)) compiled =
      compiled.append (compileExtents catalog options filename source extents) by
    simpa using h {}
  induction extents with
  | nil => simp [compileExtents]
  | cons extent extents ih =>
    intro compiled
    rw [List.foldl_cons, ih, Compiled.append_assoc]
    rfl

/-- The statements of a source compile alike when a text is put behind it. -/
theorem compileExtents_front {first second : List Char} {extents : List Source.Extent}
    (hextents : ∀ extent ∈ extents, extent ∈ Source.statements options.dialect first) :
    compileExtents catalog options filename (first ++ second) extents =
      compileExtents catalog options filename first extents := by
  unfold compileExtents
  congr 1
  apply List.map_congr_left
  intro extent hextent
  obtain ⟨before, text, after, hfirst, hlocation, hlength⟩ := Source.mem_statements (hextents extent hextent)
  have htext : ∀ rest, extent.text? (first ++ rest) = some text := by
    intro rest
    rw [Source.Extent.text?, hlocation, hlength, hfirst, List.append_assoc]
    exact Text.slice?_append before text (after ++ rest)
  have hplace : ∀ rest, Text.position? (first ++ rest) extent.location = some (Text.positionAfter 1 1 before) := by
    intro rest
    rw [hlocation, hfirst, List.append_assoc, List.append_assoc]
    exact Text.positionFrom_byteSize 1 1 before (text ++ (after ++ rest))
  have halone : extent.text? first = some text := by simpa using htext []
  have hplaced : Text.position? first extent.location = some (Text.positionAfter 1 1 before) := by simpa using hplace []
  simp only [compileExtent, diagnose, htext second, halone, hplace second, hplaced]

/-- Where a statement stands has no part in compiling its text. -/
theorem compileText_shift (size : Nat) (extent : Source.Extent) (text : List Char) :
    compileText catalog options filename (extent.shift size) text =
      compileText catalog options filename extent text := rfl

theorem compileExtent_shift {first second : List Char} {extent : Source.Extent}
    (hextent : extent ∈ Source.statements options.dialect second) :
    compileExtent catalog options filename (first ++ second) (extent.shift (Text.byteSize first)) =
      (compileExtent catalog options filename second extent).behind first := by
  obtain ⟨before, text, after, hsecond, hlocation, hlength⟩ := Source.mem_statements hextent
  have htext : ∀ front, (extent.shift (Text.byteSize front)).text? (front ++ second) = some text := by
    intro front
    simp only [Source.Extent.text?, Source.Extent.shift]
    rw [hlocation, hlength, ← Text.byteSize_append, hsecond, ← List.append_assoc, ← List.append_assoc]
    exact Text.slice?_append (front ++ before) text after
  have halone : extent.text? second = some text := by simpa [Source.Extent.shift] using htext []
  have hplace : Text.position? (first ++ second) (Text.byteSize first + extent.location) =
      some (Text.rebase (Text.positionAfter 1 1 first) (Text.positionAfter 1 1 before)) := by
    rw [hlocation, ← Text.byteSize_append, hsecond, List.append_assoc, ← List.append_assoc, Text.position?,
      Text.positionFrom_byteSize, Text.positionAfter_append, Text.positionAfter_eq_rebase]
  have hplaced : Text.position? second extent.location = some (Text.positionAfter 1 1 before) := by
    rw [hlocation, hsecond, List.append_assoc]
    exact Text.positionFrom_byteSize 1 1 before (text ++ after)
  simp only [compileExtent, htext first, halone, Option.getD_some, compileText_shift]
  generalize compileText catalog options filename extent text = outcome
  rcases outcome with error | (_ | query)
  · cases error <;>
      simp [Compiled.behind, Diagnostic.behind, Span.behind, diagnose, Source.Extent.shift, hplace, hplaced]
  · simp [Compiled.behind]
  · simp [Compiled.behind]

/-- The statements of a source compile alike when a text is put in front of it; only their reports move. -/
theorem compileExtents_behind {first second : List Char} {extents : List Source.Extent}
    (hextents : ∀ extent ∈ extents, extent ∈ Source.statements options.dialect second) :
    compileExtents catalog options filename (first ++ second) (extents.map (·.shift (Text.byteSize first))) =
      (compileExtents catalog options filename second extents).behind first := by
  induction extents with
  | nil => rfl
  | cons extent extents ih =>
    have hhead : compileExtent catalog options filename (first ++ second) (extent.shift (Text.byteSize first)) =
        (compileExtent catalog options filename second extent).behind first :=
      compileExtent_shift (hextents extent List.mem_cons_self)
    have htail := ih fun other hother => hextents other (List.mem_cons_of_mem _ hother)
    simp only [compileExtents, List.map_cons, List.foldr_cons] at htail ⊢
    rw [hhead, htail]
    simp [Compiled.append, Compiled.behind]

end

/-- Behind a statement boundary a source is split and compiled as if it stood alone. Its statements and its reports
    are moved by the bytes in front of them, and lines and columns are counted on. -/
theorem compile_append_of_closed (catalog : Catalog) (options : CompileOptions) (filename : String)
    (first second : List Char) (hclosed : Source.Closed options.dialect first) :
    Source.statements options.dialect (first ++ second) =
        Source.statements options.dialect first ++
          (Source.statements options.dialect second).map (·.shift (Text.byteSize first)) ∧
      (compile catalog options filename (first ++ second)).queries =
        (compile catalog options filename first).queries ++ (compile catalog options filename second).queries ∧
      (compile catalog options filename (first ++ second)).diagnostics =
        (compile catalog options filename first).diagnostics ++
          (compile catalog options filename second).diagnostics.map (·.behind first) ∧
      (compile catalog options filename (first ++ second)).aborted =
        ((compile catalog options filename first).aborted || (compile catalog options filename second).aborted) := by
  have hstatements := Source.statements_append_of_closed hclosed second
  have hcompile : compile catalog options filename (first ++ second) =
      (compile catalog options filename first).append ((compile catalog options filename second).behind first) := by
    rw [compile_eq_compileExtents, compile_eq_compileExtents, compile_eq_compileExtents, hstatements,
      compileExtents_append, compileExtents_front fun _ h => h, compileExtents_behind fun _ h => h]
  rw [hcompile]
  exact ⟨hstatements, rfl, rfl, rfl⟩

/-- Semicolons in a dollar-quoted text and in a comment are no boundary, but the last one is. -/
theorem compile_append_of_closed_quoted :
    Source.Closed .postgreSQL "SELECT $a$;$a$ /* ; */;".toList ∧
      (compile (.empty "public") ⟨.postgreSQL, none⟩ "q.sql"
        ("SELECT $a$;$a$ /* ; */;".toList ++ "\n-- name: A :one\nSELECT".toList)).diagnostics =
      (compile (.empty "public") ⟨.postgreSQL, none⟩ "q.sql" "SELECT $a$;$a$ /* ; */;".toList).diagnostics ++
        (compile (.empty "public") ⟨.postgreSQL, none⟩ "q.sql" "\n-- name: A :one\nSELECT".toList).diagnostics.map
          (·.behind "SELECT $a$;$a$ /* ; */;".toList) := by
  have hclosed : Source.Closed .postgreSQL "SELECT $a$;$a$ /* ; */;".toList := by decide +kernel
  exact ⟨hclosed, (compile_append_of_closed _ ⟨.postgreSQL, none⟩ _ _ _ hclosed).2.2.1⟩

end AnnotatedSql
