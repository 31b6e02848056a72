import AnnotatedSql.Proofs.Compile.Numbering
import AnnotatedSql.Proofs.Compile.Success
import AnnotatedSql.Proofs.Source.Splice
import AnnotatedSql.Proofs.Sql.Lexer

/-!
Named parameters, and the text with their numbers in their place. Numbers can always be written into the text; where
they are set apart in it, its tokens are those of the statement with one placeholder for each parameter. Main statement:
`mem_queries_substituteTokens`.
-/
namespace AnnotatedSql

open Sql (Grammar Lexeme Token tokens)
open Sql.Lexer (lexFrom scan through visible visible_map_token)

namespace Numbering

/-- The tokens with the number of each named parameter in its place, as `substitute` puts it into the tree. -/
def substituteTokens (numbering : Numbering) : List Lexeme → List Token
  | [] => []
  | lexeme :: rest =>
    match Placeholder.front? lexeme rest with
    | none => lexeme.token :: substituteTokens numbering rest
    | some (kind, size) =>
      match numbering.number? kind with
      | none => (lexeme :: rest.take (size - 1)).map Lexeme.token ++ substituteTokens numbering (rest.drop (size - 1))
      | some number => .placeholder (placeholder number) :: substituteTokens numbering (rest.drop (size - 1))
termination_by lexemes => lexemes.length
decreasing_by all_goals simp only [List.length_drop, List.length_cons]; omega

end Numbering

/-- A named parameter starts with a character that is no blank and cannot stand in a number. -/
theorem Placeholder.head_of_front? {grammar : Grammar} {lexeme : Lexeme} {rest : List Lexeme} {name : String}
    {form : NamedForm} {size : Nat} (hfront : front? lexeme rest = some (.named name form, size)) {b : Char}
    {cs : List Char} {n : Nat} (hscan : scan grammar b cs = some (lexeme.token, n)) :
    (b ≠ 'e' ∧ b ≠ 'E') ∧ Text.isPlainBlank b = false := by
  have hletter : ¬ (b = 'e' ∨ b = 'E') := by
    intro hb
    rcases Sql.Lexer.scan_of_e hb hscan with ⟨value, htoken⟩ | ⟨more, htoken⟩
    · simp [front?, htoken] at hfront
    · have hvariable : userVariable? (.plain (String.ofList (b :: more))) = none := by
        rcases hb with rfl | rfl <;> simp [userVariable?, Sql.Word.plain]
      have hhelper : Text.sameLetters (String.ofList (b :: more)) "sqlc" = false := by
        rcases hb with rfl | rfl <;> simp [Text.sameLetters]
      have hnone : front? lexeme rest = none := by
        unfold front?
        rw [htoken]
        simp only [hvariable]
        exact if_neg (by simp only [Sql.Word.plain, hhelper, Bool.and_false, Bool.false_eq_true, not_false_eq_true])
      rw [hnone] at hfront
      cases hfront
  refine ⟨not_or.1 hletter, ?_⟩
  by_contra hblank
  obtain ⟨m, hread⟩ := Sql.Lexer.scan_of_isPlainBlank grammar (by simpa using hblank) cs
  have htoken : lexeme.token = .blank := (Prod.mk.inj (Option.some.inj (hread.symm.trans hscan))).1.symm
  simp [front?, htoken] at hfront

open Source (Splice)

/-- A text laid out around its named parameters: no token goes on from what stands between them, and the tokens are
    those of the text with a number for each parameter. -/
inductive Laid (grammar : Grammar) (tail : List Char) : List Splice → List Token → Prop where
  | nil {read : List Token} (hread : through grammar tail [] = some read) : Laid grammar tail [] (visible read)
  | cons {splice : Splice} {rest : List Splice} {read others : List Token} {number : Nat} {b : Char} {more : List Char}
      (hread : through grammar splice.gap (splice.old ++ Splice.source tail rest) = some read)
      (hold : splice.old = b :: more) (hb : (b ≠ 'e' ∧ b ≠ 'E') ∧ Text.isPlainBlank b = false)
      (hnew : splice.new = (Numbering.placeholder number).toList) (hrest : Laid grammar tail rest others) :
      Laid grammar tail (splice :: rest) (visible read ++ .placeholder (Numbering.placeholder number) :: others)

/-- More text in front, at whose end no token goes on. -/
theorem Laid.lead {grammar : Grammar} {tail : List Char} {splices : List Splice} {others : List Token}
    (hlaid : Laid grammar tail splices others) {part : List Char} {read : List Token}
    (hread : through grammar part (Splice.source tail splices) = some read) (offset : Nat) :
    ∃ splices' tail', Splice.source tail' splices' = part ++ Splice.source tail splices ∧
      Splice.edits offset splices' = Splice.edits (offset + Text.byteSize part) splices ∧
      Laid grammar tail' splices' (visible read ++ others) := by
  cases hlaid with
  | nil htail =>
    rw [← Sql.Lexer.visible_append]
    exact ⟨[], part ++ tail, rfl, rfl, .nil (Sql.Lexer.through_append (by simpa [Splice.source] using hread) htail)⟩
  | @cons splice rest gapRead others number b more hgap hold hb hnew hrest =>
    rw [← List.append_assoc, ← Sql.Lexer.visible_append]
    refine ⟨{ splice with gap := part ++ splice.gap } :: rest, tail, by simp [Splice.source], ?_, ?_⟩
    · simp [Splice.edits, Nat.add_assoc]
    · exact .cons (Sql.Lexer.through_append hread hgap) hold hb hnew hrest

/-- Tokens that hold no parameter, in front of a text that is laid out. -/
theorem exists_laid_append {grammar : Grammar} {front cs : List Char} {all taken rest : List Lexeme}
    {edits : List Source.Edit} {others : List Token} (hlex : lexFrom grammar (Text.byteSize front) cs = some all)
    (hshown : all.filter (·.token != .blank) = taken ++ rest) (htaken : taken ≠ [])
    (hrest : ∀ part behind after, part ++ behind = cs →
      lexFrom grammar (Text.byteSize (front ++ part)) behind = some after →
      after.filter (·.token != .blank) = rest →
      ∃ splices tail, Splice.source tail splices = behind ∧
        Splice.edits (Text.byteSize (front ++ part)) splices = edits ∧ Laid grammar tail splices others) :
    ∃ splices tail, Splice.source tail splices = cs ∧ Splice.edits (Text.byteSize front) splices = edits ∧
      Laid grammar tail splices (taken.map Lexeme.token ++ others) := by
  obtain ⟨first, after, rfl, hfirst, hafter, _⟩ := Sql.Lexer.exists_front hshown htaken
  obtain ⟨part, behind, rfl, hread, hbehind, _⟩ := Sql.Lexer.exists_part hlex
  rw [← Text.byteSize_append] at hbehind
  obtain ⟨splices, tail, hsource, hedits, hlaid⟩ := hrest part behind after rfl hbehind hafter
  rw [← hsource] at hread
  obtain ⟨splices', tail', hsource', hedits', hlaid'⟩ := hlaid.lead hread (Text.byteSize front)
  rw [visible_map_token, hfirst] at hlaid'
  rw [← Text.byteSize_append, hedits] at hedits'
  exact ⟨splices', tail', by rw [hsource', hsource], hedits', hlaid'⟩

/-- The text behind a front, laid out around its named parameters. -/
theorem exists_laid {grammar : Grammar} (numbering : Numbering) (front cs : List Char) {all lexemes : List Lexeme}
    (hlex : lexFrom grammar (Text.byteSize front) cs = some all)
    (hshown : all.filter (·.token != .blank) = lexemes) (before : List Token) :
    ∃ splices tail, Splice.source tail splices = cs ∧
      Splice.edits (Text.byteSize front) splices =
        (Placeholder.occurrencesFrom (front ++ cs) before lexemes).filterMap numbering.edit? ∧
      Laid grammar tail splices (numbering.substituteTokens lexemes) := by
  fun_induction Numbering.substituteTokens numbering lexemes generalizing front cs all before with
  | case1 =>
    rw [← List.append_nil all] at hlex
    obtain ⟨part, rest, rfl, hread, hrest, _⟩ := Sql.Lexer.exists_part hlex
    obtain rfl : rest = [] := by
      rcases rest with _ | ⟨c, rest⟩
      · rfl
      · rw [lexFrom] at hrest
        split at hrest <;> simp at hrest
    have hlaid : Laid grammar part [] (visible (all.map Lexeme.token)) := .nil hread
    rw [visible_map_token, hshown] at hlaid
    exact ⟨[], part, by simp [Splice.source], by simp [Placeholder.occurrencesFrom, Splice.edits], hlaid⟩
  | case2 lexeme rest hfront ih =>
    refine @exists_laid_append _ _ _ _ [lexeme] rest _ _ hlex hshown (by simp) ?_
    rintro part behind after rfl hbehind hafter
    have hlaid := ih (front ++ part) behind hbehind hafter (lexeme.token :: before)
    rw [List.append_assoc] at hlaid
    rw [Placeholder.occurrencesFrom]
    simpa only [hfront] using hlaid
  | case3 lexeme rest kind size hfront hnumber ih =>
    have htaken : lexeme :: rest = (lexeme :: rest.take (size - 1)) ++ rest.drop (size - 1) := by simp
    rw [htaken] at hshown
    refine exists_laid_append hlex hshown (List.cons_ne_nil _ _) ?_
    rintro part behind after rfl hbehind hafter
    have hlaid := ih (front ++ part) behind hbehind hafter
      (((lexeme :: rest.take (size - 1)).map Lexeme.token).reverse ++ before)
    rw [List.append_assoc] at hlaid
    rw [Placeholder.occurrencesFrom]
    simpa only [hfront, List.filterMap_cons, Numbering.edit?, hnumber, Option.map_none] using hlaid
  | case4 lexeme rest kind size hfront number hnumber ih =>
    have htaken : lexeme :: rest = (lexeme :: rest.take (size - 1)) ++ rest.drop (size - 1) := by simp
    rw [htaken] at hshown
    obtain ⟨gap, read, b, old, behind, after, rfl, hgap, hblank, hstart, ⟨following, n, hscan⟩, hend, hbehind,
      hafter⟩ := Sql.Lexer.exists_group hlex hshown
    obtain ⟨name, form, rfl⟩ : ∃ name form, kind = .named name form := by
      cases kind with
      | named name form => exact ⟨name, form, rfl⟩
      | numbered _ | positional => cases hnumber
    have hsize : lexeme.start + Text.byteSize (b :: old) = Text.byteSize (front ++ (gap ++ b :: old)) := by
      rw [hstart, Text.byteSize_append, Text.byteSize_append, Nat.add_assoc]
    rw [hsize] at hbehind
    obtain ⟨splices, tail, hsource, hedits, hlaid⟩ := ih (front ++ (gap ++ b :: old)) behind hbehind hafter
      (((lexeme :: rest.take (size - 1)).map Lexeme.token).reverse ++ before)
    refine ⟨{ gap, old := b :: old, new := (Numbering.placeholder number).toList } :: splices, tail,
      by simp [Splice.source, hsource], ?_, ?_⟩
    · have hslice := Text.slice?_append (front ++ gap) (b :: old) behind
      rw [Text.byteSize_append, ← hstart, List.append_assoc front] at hslice
      rw [← List.append_assoc gap, ← List.append_assoc front, Splice.edits, ← hstart, hsize, hedits]
      conv_rhs => rw [Placeholder.occurrencesFrom]
      simp only [hfront, hend, hslice]
      rw [List.filterMap_cons_some]
      simp [Numbering.edit?, hnumber]
    · rw [← hsource] at hgap
      have hcons : Laid grammar tail
          ({ gap, old := b :: old, new := (Numbering.placeholder number).toList } :: splices) _ :=
        .cons hgap rfl (Placeholder.head_of_front? hfront hscan) rfl hlaid
      rw [hblank] at hcons
      exact hcons

/-- The new parts are set apart: what stands before one does not end in a character of names or numbers, and what
    follows it does not continue the digits. -/
def Apart (tail : List Char) : List Splice → Prop
  | [] => True
  | splice :: rest =>
    (∀ c ∈ splice.gap.getLast?, Grammar.postgreSQL.isNamePart c = false ∧ Text.isAlphanumeric c = false) ∧
    (∀ c ∈ (Splice.edited tail rest).head?, Sql.Lexer.isTagPart c = false ∧ c ≠ '$') ∧
    Apart tail rest

theorem isTagPart_of_isDigit {c : Char} (hdigit : c.isDigit = true) : Sql.Lexer.isTagPart c = true := by
  have hsmall : c.toNat < 128 := by
    simp only [Char.isDigit, Bool.and_eq_true, decide_eq_true_eq, UInt32.le_iff_toNat_le] at hdigit
    exact Nat.lt_of_le_of_lt hdigit.2 (by decide)
  simp [Sql.Lexer.isTagPart, Text.isAlphanumeric, Text.isNumeric, hsmall, hdigit]

/-- A text laid out around its named parameters gives the tokens with their numbers, if these are set apart. -/
theorem Laid.tokens_edited {tail : List Char} {splices : List Splice} {read : List Token}
    (hlaid : Laid .postgreSQL tail splices read) (hapart : Apart tail splices) :
    tokens .postgreSQL (Splice.edited tail splices) = some read := by
  induction hlaid with
  | nil hread =>
    have htail := Sql.tokens_append hread
    rw [List.append_nil] at htail
    simp [Splice.edited, htail]
  | @cons splice rest gapRead others number b more hread hold hb hnew hrest ih =>
    obtain ⟨hbefore, hafter, hothers⟩ := hapart
    have hdigits : ∀ c ∈ Nat.toDigits 10 number, Sql.Lexer.isTagPart c = true := fun c hc =>
      isTagPart_of_isDigit (Nat.isDigit_of_mem_toDigits (by decide) (by decide) hc)
    have hscan := Sql.Lexer.scan_dollar hdigits Nat.toDigits_ne_nil hafter
    rw [hold, List.cons_append] at hread
    rw [Splice.edited, hnew, Numbering.toList_placeholder, List.cons_append]
    rw [Sql.tokens_append_other hread hb.1 (.inr (by rintro rfl; revert hb; decide)) (by simp [hb.2])
      (.dollar _ rfl hbefore), Sql.tokens_cons hscan, List.drop_left, ih hothers]
    simp [visible, ← Numbering.toList_placeholder]

/-- Whether a placeholder `$N` in the place of an edit would be a token of its own in PostgreSQL. -/
def Source.Edit.isApart (text : List Char) (edit : Edit) : Bool :=
  ((Text.takeBytes? edit.location text).bind List.getLast?).all
    (fun c => !(Grammar.postgreSQL.isNamePart c || Text.isAlphanumeric c)) &&
  ((Text.dropBytes? edit.stop text).bind List.head?).all (fun c => !(Sql.Lexer.isTagPart c || c == '$'))

theorem apart_of_isApart (front tail : List Char) (splices : List Splice)
    (hapart : ∀ edit ∈ Splice.edits (Text.byteSize front) splices,
      edit.isApart (front ++ Splice.source tail splices) = true ∧
        ∀ other ∈ Splice.edits (Text.byteSize front) splices, other.location ≠ edit.stop) :
    Apart tail splices := by
  induction splices generalizing front with
  | nil => trivial
  | cons splice rest ih =>
    have htext : front ++ Splice.source tail (splice :: rest) =
        front ++ (splice.gap ++ splice.old) ++ Splice.source tail rest := by simp [Splice.source]
    have hsize : Text.byteSize front + Text.byteSize splice.gap + Text.byteSize splice.old =
        Text.byteSize (front ++ (splice.gap ++ splice.old)) := by simp; omega
    rw [Splice.edits, hsize, htext] at hapart
    obtain ⟨hsplice, hnext⟩ := hapart _ List.mem_cons_self
    have hbefore := Text.takeBytes?_byteSize_append (front ++ splice.gap) (splice.old ++ Splice.source tail rest)
    have hafter := Text.dropBytes?_byteSize_append (front ++ (splice.gap ++ splice.old)) (Splice.source tail rest)
    rw [Text.byteSize_append, ← List.append_assoc, List.append_assoc front] at hbefore
    rw [← hsize] at hafter
    simp only [Source.Edit.isApart, Source.Edit.stop, hbefore, hafter, Option.bind_some, Bool.and_eq_true] at hsplice
    obtain ⟨hends, hstarts⟩ := hsplice
    refine ⟨fun c hc => ?_, fun c hc => ?_, ih (front ++ (splice.gap ++ splice.old)) fun edit hedit => ?_⟩
    · have hlast : (front ++ splice.gap).getLast? = some c := by
        rw [List.getLast?_append, hc]
        rfl
      simpa [hlast] using hends
    · have hhead : (Splice.source tail rest).head? = some c := by
        rcases rest with _ | ⟨next, rest⟩
        · exact hc
        · rcases hgap : next.gap with _ | ⟨d, more⟩
          · -- Two edits would follow each other at once.
            refine absurd ?_ (hnext _ (List.mem_cons_of_mem _ List.mem_cons_self))
            simp [hgap, Source.Edit.stop, hsize]
          · simpa [Splice.source, Splice.edited, hgap] using hc
      simpa [hhead] using hstarts
    · obtain ⟨hrest, hothers⟩ := hapart edit (List.mem_cons_of_mem _ hedit)
      exact ⟨hrest, fun other hother => hothers other (List.mem_cons_of_mem _ hother)⟩

theorem Laid.old_ne_nil {grammar : Grammar} {tail : List Char} {splices : List Splice} {read : List Token}
    (hlaid : Laid grammar tail splices read) : ∀ splice ∈ splices, splice.old ≠ [] := by
  induction hlaid with
  | nil => simp
  | cons _ hold _ _ _ ih =>
    rw [List.forall_mem_cons]
    exact ⟨by simp [hold], ih⟩

/-- Whether placeholders in the place of edits would all be tokens of their own. -/
def Source.setApart (text : List Char) (edits : List Edit) : Bool :=
  edits.all fun edit => edit.isApart text && edits.all fun other => other.location != edit.stop

namespace Annotated

/-- The numbers of named parameters can always be written into the text. Set apart, they give the tokens that the
    numbering gives. -/
theorem ReadFrom.mutate_edits {dialect : Dialect} {source : List Char} {given : Annotated}
    (hread : given.ReadFrom dialect source) :
    ∃ edited lexemes, Source.mutate given.text (given.numbering.edits given.occurrences) = .ok edited ∧
      Sql.lex dialect.grammar given.text = some lexemes ∧
      (dialect = .postgreSQL → Source.setApart given.text (given.numbering.edits given.occurrences) = true →
        tokens dialect.grammar edited = some (given.numbering.substituteTokens lexemes)) := by
  have hlocated := hread.located
  unfold Placeholder.locate at hlocated
  cases hlex : Sql.lex dialect.grammar given.text with
  | none => simp [hlex] at hlocated
  | some lexemes =>
    simp only [hlex, Except.ok.injEq] at hlocated
    obtain ⟨all, hall, hshown⟩ := Option.map_eq_some_iff.1 hlex
    obtain ⟨splices, tail, hsource, hedits, hlaid⟩ := exists_laid given.numbering [] given.text hall hshown []
    rw [List.nil_append, hlocated, Text.byteSize_nil] at hedits
    have hsame : Splice.edits 0 splices = given.numbering.edits given.occurrences := by
      rw [hedits]
      exact (Numbering.edits_eq_filterMap given.occurrences).symm
    have hmutate := Splice.mutate_edits hlaid.old_ne_nil tail (.refl _)
    rw [hsource, hsame] at hmutate
    refine ⟨Splice.edited tail splices, lexemes, hmutate, rfl, ?_⟩
    rintro rfl hapart
    refine hlaid.tokens_edited (apart_of_isApart [] tail splices ?_)
    rw [List.nil_append, hsource, Text.byteSize_nil, hsame]
    simpa [Source.setApart, List.all_eq_true] using hapart

end Annotated

/-- An edited text that passes the check is one statement with as many placeholders as it should have. -/
theorem checkEdited_ok {options : CompileOptions} {edited : List Char} {expected : Nat}
    (hnumbered : options.positional = false) (hchecked : checkEdited options edited expected = .ok ()) :
    ∃ statement, parseStatement options.dialect.grammar edited = .ok statement ∧
      placeholderCount statement = expected := by
  unfold checkEdited at hchecked
  simp only [hnumbered, Bool.false_and, Bool.false_eq_true, if_false] at hchecked
  split at hchecked
  · cases hchecked
  · cases hchecked
  · next statement hparsed =>
    split at hchecked
    · next hcount => exact ⟨statement, hparsed, hcount⟩
    · cases hchecked

theorem Numbering.edits_of_named_eq_nil {occurrences : List Occurrence}
    (hnamed : (ofOccurrences occurrences).named = []) :
    (ofOccurrences occurrences).edits occurrences = [] := by
  rw [edits_eq_filterMap, List.filterMap_eq_nil_iff]
  intro occurrence _
  have hnone : (ofOccurrences occurrences).number? occurrence.kind = none := by
    unfold number?
    split
    · simp [ordinal?, hnamed]
    · rfl
  simp [edit?, hnone]

/-- All forms of named parameters, and colons that do not start one. -/
def namedText : List Char :=
  "-- name: Page :many\nSELECT :a::int, (sqlc.arg( b ) /* :c */+@a), ':d' LIMIT sqlc.narg('b')".toList

/-- The placeholders of a tree, as they are spelled. -/
def spellings (statement : Sql.Statement) : List String :=
  statement.all.filterMap fun
    | .literal (.placeholder spelling) => some spelling
    | _ => none

/-- A parameter that a word follows at once. -/
def joinedText : List Char :=
  "-- name: Q :one\nSELECT 1 OFFSET sqlc.arg(a)ROWS".toList

end AnnotatedSql
