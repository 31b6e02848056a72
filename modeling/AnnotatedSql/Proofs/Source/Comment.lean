import AnnotatedSql.Proofs.Sql.Lexer
import AnnotatedSql.Proofs.Text.Trim
import AnnotatedSql.Source.Comment

/-!
What the taking out of comments leaves of a text. `cuts` lays a text out as the stretches that are kept and what is
taken away around them. Main statement: if no cut goes through a token, and only blanks and comments are taken away, the
text without its comments has the tokens of the text (`tokens_stripComments`).
-/
namespace AnnotatedSql

namespace Text

theorem flatMap_endedLines (text : List Char) :
    ((endedLines text).flatMap fun (line, ending) => line ++ ending) = text := by
  fun_induction endedLines text with
  | case1 => rfl
  | case2 rest ih => simpa using ih
  | case3 rest ih => simpa using ih
  | case4 c rest _ _ hlast ih =>
    rw [hlast] at ih
    simp [← ih]
  | case5 c rest _ _ line ending more hlines ih =>
    rw [hlines] at ih
    simp [← ih]

/-- Only the last of some lines may lack its end. -/
inductive LinesEnd : List (List Char × List Char) → Prop where
  | nil : LinesEnd []
  | last (line : List Char) : LinesEnd [(line, [])]
  | newline (line : List Char) {rest : List (List Char × List Char)} :
      LinesEnd rest → LinesEnd ((line, ['\n']) :: rest)
  | returned (line : List Char) {rest : List (List Char × List Char)} :
      LinesEnd rest → LinesEnd ((line, ['\r', '\n']) :: rest)

theorem linesEnd_endedLines (text : List Char) : LinesEnd (endedLines text) := by
  fun_induction endedLines text with
  | case1 => exact .nil
  | case2 rest ih => exact .newline [] ih
  | case3 rest ih => exact .returned [] ih
  | case4 c rest _ _ _ _ => exact .last [c]
  | case5 c rest _ _ line ending more hlines ih =>
    rw [hlines] at ih
    cases ih with
    | last => exact .last (c :: line)
    | newline _ hmore => exact .newline (c :: line) hmore
    | returned _ hmore => exact .returned (c :: line) hmore

end Text

namespace Source

/-- What is done to a line: what is taken from its front, what is kept of it, if anything is, and whether a block
    comment is open after it. -/
structure LineCut where
  taken : List Char
  kept? : Option (List Char)
  inBlock : Bool

def cutLine (forms : CommentForms) (inBlock : Bool) (line : List Char) : LineCut :=
  if inBlock then
    match cutAt? ['*', '/'] (Text.trimStart line) with
    | some (_, after) =>
      let code := Text.trimStart after
      if code.isEmpty then { taken := line, kept? := none, inBlock := false }
      else { taken := line.take (line.length - code.length), kept? := some code, inBlock := false }
    | none => { taken := line, kept? := none, inBlock := true }
  else
    match lineKind forms line with
    | .directive | .comment _ => { taken := line, kept? := none, inBlock := false }
    | .opensBlock _ => { taken := line, kept? := none, inBlock := true }
    | .code => { taken := [], kept? := some line, inBlock := false }

theorem suffix_of_cutAt? {mark text before after : List Char} (hcut : cutAt? mark text = some (before, after)) :
    after <:+ text := by
  fun_induction cutAt? mark text generalizing before after with
  | case1 => simp_all
  | case2 => simp at hcut
  | case3 c rest _ =>
    cases hcut
    exact List.drop_suffix _ _
  | case4 c rest _ ih =>
    obtain ⟨⟨front, back⟩, hrest, hpair⟩ := Option.map_eq_some_iff.1 hcut
    cases hpair
    exact (ih hrest).trans (List.suffix_cons c rest)

/-- A line is what is taken from it and what is kept. -/
theorem cutLine_append (forms : CommentForms) (inBlock : Bool) (line : List Char) :
    (cutLine forms inBlock line).taken ++ (cutLine forms inBlock line).kept?.getD [] = line := by
  unfold cutLine
  split
  · split
    · next comment after hcut =>
      dsimp only
      split
      · simp
      · have hsuffix : Text.trimStart after <:+ line :=
          (List.dropWhile_suffix _).trans ((suffix_of_cutAt? hcut).trans (List.dropWhile_suffix _))
        obtain ⟨before, hline⟩ := hsuffix
        simp [← hline]
    · simp
  · split <;> simp

theorem stripLines_cons (forms : CommentForms) (inBlock : Bool) (line : List Char) (rest : List (List Char)) :
    (stripLines forms inBlock (line :: rest)).lines =
      (cutLine forms inBlock line).kept?.toList ++
        (stripLines forms (cutLine forms inBlock line).inBlock rest).lines := by
  cases inBlock with
  | true =>
    rcases hcut : cutAt? ['*', '/'] (Text.trimStart line) with _ | ⟨comment, after⟩
    · simp [stripLines, cutLine, hcut]
    · by_cases hcode : (Text.trimStart after).isEmpty = true
      · simp [stripLines, cutLine, hcut, hcode]
      · simp [stripLines, cutLine, hcut, hcode]
  | false => cases hkind : lineKind forms line <;> simp [stripLines, cutLine, hkind]

/-- A stretch of a text that is kept, with what is taken away before it and the end of its last line, for which a
    newline is written. -/
structure Stretch where
  taken : List Char
  kept : List Char
  ending : List Char

/-- A text as the stretches that are kept, and what is taken away after the last one. -/
structure Cuts where
  stretches : List Stretch
  tail : List Char

namespace Cuts

open Sql (Grammar tokens readsBlank)

def sourceOf (tail : List Char) : List Stretch → List Char
  | [] => tail
  | stretch :: rest => stretch.taken ++ (stretch.kept ++ (stretch.ending ++ sourceOf tail rest))

/-- The whole text. -/
def source (cuts : Cuts) : List Char :=
  sourceOf cuts.tail cuts.stretches

/-- What is kept of the text, with a newline between any two stretches. -/
def written (cuts : Cuts) : List Char :=
  List.intercalate ['\n'] (cuts.stretches.map Stretch.kept)

/-- Text that is taken away stands in front. -/
def take (text : List Char) (cuts : Cuts) : Cuts :=
  match cuts.stretches with
  | [] => { stretches := [], tail := text ++ cuts.tail }
  | stretch :: rest => { cuts with stretches := { stretch with taken := text ++ stretch.taken } :: rest }

/-- A line that is kept stands in front. It belongs to the next stretch if nothing is taken away between them. -/
def keep (line ending : List Char) (cuts : Cuts) : Cuts :=
  match cuts.stretches with
  | [] => { stretches := [{ taken := [], kept := line, ending := [] }], tail := ending ++ cuts.tail }
  | stretch :: rest =>
    if ending = ['\n'] ∧ stretch.taken = [] then
      { cuts with stretches := { stretch with kept := line ++ '\n' :: stretch.kept } :: rest }
    else { cuts with stretches := { taken := [], kept := line, ending } :: stretch :: rest }

theorem source_take (text : List Char) (cuts : Cuts) : (cuts.take text).source = text ++ cuts.source := by
  obtain ⟨_ | ⟨stretch, rest⟩, tail⟩ := cuts
  · rfl
  · simp [take, source, sourceOf]

theorem source_keep (line ending : List Char) (cuts : Cuts) :
    (cuts.keep line ending).source = line ++ (ending ++ cuts.source) := by
  obtain ⟨_ | ⟨stretch, rest⟩, tail⟩ := cuts
  · rfl
  · unfold keep
    dsimp only
    split
    · next hjoin => simp [source, sourceOf, hjoin.1, hjoin.2]
    · rfl

/-- The cuts keep the given lines. -/
def Keeps (cuts : Cuts) (lines : List (List Char)) : Prop :=
  (cuts.stretches = [] ↔ lines = []) ∧ cuts.written = List.intercalate ['\n'] lines

theorem Keeps.take {cuts : Cuts} {lines : List (List Char)} (hkeeps : cuts.Keeps lines) (text : List Char) :
    (cuts.take text).Keeps lines := by
  obtain ⟨_ | ⟨stretch, rest⟩, tail⟩ := cuts
  · exact hkeeps
  · simpa [Keeps, Cuts.take, written] using hkeeps

theorem intercalate_append_cons (mark front text : List Char) (texts : List (List Char)) :
    List.intercalate mark ((front ++ text) :: texts) = front ++ List.intercalate mark (text :: texts) := by
  cases texts with
  | nil => simp
  | cons next more => simp [List.intercalate_cons_cons]

theorem Keeps.keep {cuts : Cuts} {lines : List (List Char)} (hkeeps : cuts.Keeps lines) (line ending : List Char) :
    (cuts.keep line ending).Keeps (line :: lines) := by
  obtain ⟨hnil, hwritten⟩ := hkeeps
  obtain ⟨_ | ⟨stretch, rest⟩, tail⟩ := cuts
  · obtain rfl := hnil.1 rfl
    simp [Keeps, Cuts.keep, written]
  · obtain ⟨next, more, rfl⟩ := List.exists_cons_of_ne_nil (mt hnil.2 (by simp))
    refine ⟨?_, ?_⟩
    · unfold Cuts.keep
      dsimp only
      split <;> simp
    · rw [List.intercalate_cons_cons, ← hwritten]
      unfold Cuts.keep
      dsimp only
      split
      · simp only [written, List.map_cons]
        rw [List.append_assoc, intercalate_append_cons]
        exact congrArg (line ++ ·) (intercalate_append_cons ['\n'] ['\n'] stretch.kept _)
      · simp [written, List.intercalate_cons_cons]

/-- All stretches but the last end at the end of a line; blanks follow the last one, if anything does. -/
inductive Ended (tail : List Char) : List Stretch → Prop where
  | nil : Ended tail []
  | last {stretch : Stretch} (hending : stretch.ending = []) (htail : ∀ c ∈ tail.head?, Text.isBlank c = true) :
      Ended tail [stretch]
  | cons {stretch next : Stretch} {rest : List Stretch}
      (hending : stretch.ending = ['\n'] ∨ stretch.ending = ['\r', '\n']) (hrest : Ended tail (next :: rest)) :
      Ended tail (stretch :: next :: rest)

theorem Ended.replace {tail : List Char} {stretch other : Stretch} {rest : List Stretch}
    (hended : Ended tail (stretch :: rest)) (hending : other.ending = stretch.ending) : Ended tail (other :: rest) := by
  cases hended with
  | last hlast htail => exact .last (hending.trans hlast) htail
  | cons hline hrest => exact .cons (by rw [hending]; exact hline) hrest

theorem Ended.take {cuts : Cuts} (hended : Ended cuts.tail cuts.stretches) (text : List Char) :
    Ended (cuts.take text).tail (cuts.take text).stretches := by
  obtain ⟨_ | ⟨stretch, rest⟩, tail⟩ := cuts
  · exact .nil
  · exact hended.replace rfl

theorem Ended.keep {cuts : Cuts} (hended : Ended cuts.tail cuts.stretches) (line : List Char) {ending : List Char}
    (hending : ending = ['\n'] ∨ ending = ['\r', '\n']) :
    Ended (cuts.keep line ending).tail (cuts.keep line ending).stretches := by
  obtain ⟨_ | ⟨stretch, rest⟩, tail⟩ := cuts
  · refine .last rfl ?_
    rcases hending with rfl | rfl <;> simp [Cuts.keep] <;> decide
  · unfold Cuts.keep
    dsimp only
    split
    · exact hended.replace rfl
    · exact .cons hending hended

/-- The cuts of lines that are followed by `tail`. -/
def ofLines (forms : CommentForms) (tail : List Char) : Bool → List (List Char × List Char) → Cuts
  | _, [] => { stretches := [], tail }
  | inBlock, (line, ending) :: rest =>
    let cut := cutLine forms inBlock line
    let later := ofLines forms tail cut.inBlock rest
    match cut.kept? with
    | none => later.take (line ++ ending)
    | some kept => (later.keep kept ending).take cut.taken

theorem source_ofLines (forms : CommentForms) (tail : List Char) (inBlock : Bool)
    (lines : List (List Char × List Char)) :
    (ofLines forms tail inBlock lines).source = (lines.flatMap fun (line, ending) => line ++ ending) ++ tail := by
  induction lines generalizing inBlock with
  | nil => rfl
  | cons first rest ih =>
    obtain ⟨line, ending⟩ := first
    have hline := cutLine_append forms inBlock line
    unfold ofLines
    dsimp only
    cases hkept : (cutLine forms inBlock line).kept? with
    | none => simp [source_take, ih]
    | some kept =>
      rw [hkept, Option.getD_some] at hline
      simp only [source_take, source_keep, ih, List.flatMap_cons]
      conv_rhs => rw [← hline]
      simp

theorem keeps_ofLines (forms : CommentForms) (tail : List Char) (inBlock : Bool)
    (lines : List (List Char × List Char)) :
    (ofLines forms tail inBlock lines).Keeps (stripLines forms inBlock (lines.map Prod.fst)).lines := by
  induction lines generalizing inBlock with
  | nil => simp [ofLines, Keeps, written, stripLines]
  | cons first rest ih =>
    obtain ⟨line, ending⟩ := first
    rw [List.map_cons, stripLines_cons]
    unfold ofLines
    dsimp only
    cases hkept : (cutLine forms inBlock line).kept? with
    | none => exact (ih _).take _
    | some kept => exact ((ih _).keep kept ending).take _

theorem ended_ofLines (forms : CommentForms) {tail : List Char} (htail : ∀ c ∈ tail.head?, Text.isBlank c = true)
    (inBlock : Bool) {lines : List (List Char × List Char)} (hlines : Text.LinesEnd lines) :
    Ended (ofLines forms tail inBlock lines).tail (ofLines forms tail inBlock lines).stretches := by
  have hline : ∀ {rest : List (List Char × List Char)} (line ending : List Char) (inBlock : Bool),
      (ending = ['\n'] ∨ ending = ['\r', '\n']) →
      (∀ inBlock, Ended (ofLines forms tail inBlock rest).tail (ofLines forms tail inBlock rest).stretches) →
      Ended (ofLines forms tail inBlock ((line, ending) :: rest)).tail
        (ofLines forms tail inBlock ((line, ending) :: rest)).stretches := by
    intro rest line ending inBlock hending hrest
    rw [ofLines]
    cases (cutLine forms inBlock line).kept? with
    | none => exact (hrest _).take _
    | some kept => exact ((hrest _).keep kept hending).take _
  induction hlines generalizing inBlock with
  | nil => exact .nil
  | last line =>
    rw [ofLines]
    cases (cutLine forms inBlock line).kept? with
    | none => exact .nil
    | some kept => exact Ended.take (.last rfl htail) _
  | newline line _ ih => exact hline line _ inBlock (.inl rfl) ih
  | returned line _ ih => exact hline line _ inBlock (.inr rfl) ih

def betweenTokensOf (grammar : Grammar) (tail : List Char) : List Stretch → Bool
  | [] => readsBlank grammar tail []
  | stretch :: rest =>
    let after := stretch.ending ++ sourceOf tail rest
    readsBlank grammar stretch.taken (stretch.kept ++ after) && (Sql.Lexer.through grammar stretch.kept after).isSome
      && betweenTokensOf grammar tail rest

/-- Whether all cuts fall between tokens, as the whole text is read, and only blanks and comments are taken away. -/
def betweenTokens (grammar : Grammar) (cuts : Cuts) : Bool :=
  betweenTokensOf grammar cuts.tail cuts.stretches

theorem tokens_ending {ending : List Char} (hending : ending = ['\n'] ∨ ending = ['\r', '\n']) (grammar : Grammar)
    (rest : List Char) : tokens grammar (ending ++ rest) = tokens grammar rest := by
  apply Sql.tokens_append_of_readsBlank
  rcases hending with rfl | rfl <;> simp [readsBlank, Sql.Lexer.through, Sql.Lexer.scan]

/-- Stretches between tokens have the tokens of the whole text. -/
theorem tokens_intercalate {grammar : Grammar} {tail : List Char} {stretches : List Stretch}
    (hended : Ended tail stretches) (hbetween : betweenTokensOf grammar tail stretches = true) :
    tokens grammar (List.intercalate ['\n'] (stretches.map Stretch.kept)) =
      tokens grammar (sourceOf tail stretches) := by
  induction hended with
  | nil =>
    have hblank := Sql.tokens_append_of_readsBlank hbetween
    rw [List.append_nil] at hblank
    simp [sourceOf, hblank]
  | @last stretch hending htail =>
    simp only [betweenTokensOf, sourceOf, hending, List.nil_append, Bool.and_eq_true] at hbetween ⊢
    obtain ⟨⟨htaken, hkept⟩, hrest⟩ := hbetween
    obtain ⟨read, hread⟩ := Option.isSome_iff_exists.1 hkept
    have htailTokens := Sql.tokens_append_of_readsBlank hrest
    rw [List.append_nil] at htailTokens
    rw [Sql.tokens_append_of_readsBlank htaken, Sql.tokens_append hread, htailTokens]
    have hwritten : tokens grammar (stretch.kept ++ []) = (tokens grammar []).map (Sql.Lexer.visible read ++ ·) := by
      rcases tail with _ | ⟨b, tail⟩
      · exact Sql.tokens_append hread
      · have hb := htail b rfl
        have hne : b ≠ 'e' ∧ b ≠ 'E' := by constructor <;> rintro rfl <;> revert hb <;> decide
        exact Sql.tokens_append_other hread hne (.inl rfl) (by simp) .nil
    simpa using hwritten
  | @cons stretch next rest hending hrest ih =>
    rw [betweenTokensOf, Bool.and_eq_true, Bool.and_eq_true] at hbetween
    obtain ⟨⟨htaken, hkept⟩, hbehind⟩ := hbetween
    obtain ⟨read, hread⟩ := Option.isSome_iff_exists.1 hkept
    rw [sourceOf, Sql.tokens_append_of_readsBlank htaken, Sql.tokens_append hread, tokens_ending hending, ← ih hbehind]
    have hwritten := tokens_ending (.inl rfl) grammar (List.intercalate ['\n'] (next.kept :: rest.map Stretch.kept))
    rw [List.map_cons, List.map_cons, List.intercalate_cons_cons, List.append_assoc, ← hwritten]
    obtain ⟨b, more, hb, hbreak⟩ : ∃ b more, stretch.ending ++ sourceOf tail (next :: rest) = b :: more ∧
        (b = '\n' ∨ b = '\r') := by
      rcases hending with hline | hline <;> rw [hline]
      · exact ⟨'\n', _, rfl, .inl rfl⟩
      · exact ⟨'\r', _, rfl, .inr rfl⟩
    rw [hb] at hread
    refine Sql.tokens_append_other hread ?_ (.inr ?_) ?_ (.newline _)
    · rcases hbreak with rfl | rfl <;> decide
    · rcases hbreak with rfl | rfl <;> decide
    · simp

end Cuts

/-- The cuts that the taking out of comments makes in a text. -/
def cuts (forms : CommentForms) (text : List Char) : Cuts :=
  (Cuts.ofLines forms (Text.trailing text) false (Text.endedLines (Text.trim text))).take (Text.leading text)

theorem source_cuts (forms : CommentForms) (text : List Char) : (cuts forms text).source = text := by
  rw [cuts, Cuts.source_take, Cuts.source_ofLines, Text.flatMap_endedLines, Text.leading_trim_trailing]

theorem written_cuts (forms : CommentForms) (text : List Char) :
    (cuts forms text).written = (stripComments forms text).1 :=
  ((Cuts.keeps_ofLines forms (Text.trailing text) false (Text.endedLines (Text.trim text))).take _).2

/-- A directive, a comment over two lines before code, a quoted `--`, a comment behind code, a line of comment between
    lines that end in different ways, and a quoted text over two lines. -/
def commentedText : List Char :=
  "\n-- name: Q :many\n/* on\n two */ SELECT '-- a', -- b\r\n-- c\r\n 'd\n e', f\n-- g \n".toList

end Source

end AnnotatedSql
