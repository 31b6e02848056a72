import AnnotatedSql.Proofs.Compile.Accounted
import AnnotatedSql.Proofs.Text.Words

/-!
The grammar of directives. A line spells a directive if it consists of the mark of a comment, the word `name:`, the
name, the command and perhaps a list of names in brackets, set apart by blanks; a block comment may be closed on the
same line. Reading takes the lines that are spelled so, and one form besides: what follows `name:` without a blank is
passed over (`Directive.read_eq_spells`).
-/
namespace AnnotatedSql

theorem Command.ofName_eq_ok_iff {text : String} {command : Command} :
    ofName text = .ok command ↔ text = command.name := by
  constructor
  · intro hread
    unfold ofName at hread
    split at hread
    · next found hfound =>
      cases hread
      have hname := List.find?_some hfound
      exact (beq_iff_eq.1 hname).symm
    · cases hread
  · rintro rfl
    rw [ofName, ofName?_name]

namespace Directive

open Text (EndsWord IsGap IsTrimmed IsWord)

/-- The marks of comments. -/
def marks : List (List Char) :=
  ["--".toList, "#".toList, "/*".toList]

/-- The word that makes a comment a directive. -/
def keyword : List Char :=
  "name:".toList

/-- The names of a list: its parts between commas, with their words one space apart. A part without a word is none. -/
def entries (inner : List Char) : List String :=
  (((inner.splitOn ',').map Text.squeeze).filter (!·.isEmpty)).map String.ofList

/-- What may stand behind a command: nothing, or one list in brackets. -/
inductive OmitList : List Char → List String → Prop where
  | none : OmitList [] []
  | brackets {gap inner : List Char} (hgap : IsGap gap) (hinner : '[' ∉ inner ∧ ']' ∉ inner) :
    OmitList (gap ++ '[' :: (inner ++ [']'])) (entries inner)

/-- What may stand at the end of a comment with a given mark. -/
inductive Closing : List Char → List Char → Prop where
  | unclosed (mark : List Char) : Closing mark []
  | block {blanks : List Char} (hblanks : ∀ c ∈ blanks, Text.isBlank c = true) :
    Closing "/*".toList (blanks ++ "*/".toList)

/-- A directive as it stands in a comment, from the mark on. Something may be glued to the keyword. -/
inductive Body (mark glued : List Char) : List Char → Directive → Prop where
  | intro {directive : Directive} {gap gap' tail : List Char} (hglued : ∀ c ∈ glued, Text.isBlank c = false)
    (hgap : IsGap gap) (hname : isIdentifier directive.name.toList = true) (hgap' : IsGap gap')
    (homits : OmitList tail directive.omits) :
    Body mark glued
      (mark ++ ([' '] ++ ((keyword ++ glued) ++ (gap ++ (directive.name.toList ++ (gap' ++
        (directive.command.name.toList ++ tail))))))) directive

/-- The lines that spell a directive, with something glued to the keyword. -/
def Spells (glued line : List Char) (directive : Directive) : Prop :=
  ∃ mark ∈ marks, ∃ body closing, line = body ++ closing ∧ Body mark glued body directive ∧ Closing mark closing

section Omits

theorem isTrimmed_enclosed {front back : Char} (hfront : Text.isBlank front = false) (hback : Text.isBlank back = false)
    (inner : List Char) : IsTrimmed (front :: (inner ++ [back])) := by
  constructor
  · rintro c ⟨⟩
    exact hfront
  · intro c hc
    rw [← List.cons_append, List.getLast?_concat] at hc
    cases hc
    exact hback

/-- Between two visible characters, setting the words one space apart only collapses blanks. -/
theorem squeeze_enclosed {front back : Char} (hfront : Text.isBlank front = false) (hback : Text.isBlank back = false)
    (inner : List Char) :
    Text.squeeze (front :: (inner ++ [back])) = front :: (Text.collapse inner ++ [back]) := by
  have hinner : Text.collapse (front :: (inner ++ [back])) = front :: (Text.collapse inner ++ [back]) := by
    rw [← List.nil_append (front :: _), Text.collapse_append_visible hfront, Text.collapse_append_visible hback]
    rfl
  rw [Text.squeeze_eq_trim_collapse, hinner, (isTrimmed_enclosed hfront hback _).trim_eq]

theorem entries_collapse (inner : List Char) :
    ((((Text.collapse inner).splitOn ',').map Text.trim).filter (!·.isEmpty)).map String.ofList = entries inner := by
  have hsqueeze : Text.trim ∘ Text.collapse = Text.squeeze := funext fun part =>
    (Text.squeeze_eq_trim_collapse part).symm
  rw [Text.splitOn_collapse rfl, List.map_map, hsqueeze, entries]

theorem readOmits?_eq_some_iff {text : List Char} {omits : List String} :
    readOmits? text = some omits ↔
      ∃ inner, text = '[' :: (inner ++ [']']) ∧ ('[' ∉ inner ∧ ']' ∉ inner) ∧
        (((inner.splitOn ',').map Text.trim).filter (!·.isEmpty)).map String.ofList = omits := by
  constructor
  · intro hread
    unfold readOmits? at hread
    split at hread
    · next rest =>
      split at hread
      · next hlast =>
        obtain ⟨inner, rfl⟩ := List.getLast?_eq_some_iff.1 hlast
        simp only [List.dropLast_concat] at hread
        split at hread
        · cases hread
        · next hnone =>
          cases hread
          exact ⟨inner, rfl, by simpa using hnone, rfl⟩
      · cases hread
    · cases hread
  · rintro ⟨inner, rfl, hinner, rfl⟩
    simp [readOmits?, hinner.1, hinner.2]

/-- A text with no blanks around it is read as a list if it stands in brackets. -/
theorem readOmits?_squeeze {core : List Char} (hcore : IsTrimmed core) {omits : List String} :
    readOmits? (Text.squeeze core) = some omits ↔
      ∃ inner, core = '[' :: (inner ++ [']']) ∧ ('[' ∉ inner ∧ ']' ∉ inner) ∧ entries inner = omits := by
  have hcollapse (inner : List Char) :
      ('[' ∉ Text.collapse inner ∧ ']' ∉ Text.collapse inner) ↔ '[' ∉ inner ∧ ']' ∉ inner := by
    rw [Text.mem_collapse_iff rfl, Text.mem_collapse_iff rfl]
  rw [readOmits?_eq_some_iff]
  constructor
  · rintro ⟨inner, hsame, hinner, homits⟩
    cases core with
    | nil => cases hsame
    | cons front rest =>
      have hfront := hcore.front front rfl
      rcases List.eq_nil_or_concat rest with rfl | ⟨between, back, rfl⟩
      -- A single character is not both brackets.
      · have hword : IsWord [front] := ⟨by simp, by simpa using hfront⟩
        have hend : EndsWord [] := by rintro c ⟨⟩
        have hwords : Text.words [front] = [[front]] := hword.words_append hend
        rw [Text.squeeze, hwords] at hsame
        simp at hsame
      · rw [List.concat_eq_append] at hcore hsame ⊢
        have hback := hcore.back back (by rw [← List.cons_append, List.getLast?_concat]; rfl)
        rw [squeeze_enclosed hfront hback] at hsame
        obtain ⟨rfl, hrest⟩ := List.cons.inj hsame
        obtain ⟨rfl, hlast⟩ := List.append_inj' hrest rfl
        cases hlast
        exact ⟨between, rfl, (hcollapse between).1 hinner, (entries_collapse between).symm.trans homits⟩
  · rintro ⟨inner, rfl, hinner, rfl⟩
    exact ⟨Text.collapse inner, squeeze_enclosed rfl rfl inner, (hcollapse inner).2 hinner, entries_collapse inner⟩

theorem OmitList.endsWord {tail : List Char} {omits : List String} (homits : OmitList tail omits) : EndsWord tail := by
  cases homits with
  | none => rintro c ⟨⟩
  | brackets hgap _ => exact hgap.endsWord_append _

theorem OmitList.getLast? {tail : List Char} {omits : List String} (homits : OmitList tail omits) :
    tail = [] ∨ tail.getLast? = some ']' := by
  cases homits with
  | none => exact .inl rfl
  | @brackets gap inner _ _ => exact .inr (by rw [← List.cons_append, ← List.append_assoc, List.getLast?_concat])

/-- The words of what stands behind a command are read as the list that is spelled there. -/
theorem OmitList.read {tail : List Char} {omits : List String} (homits : OmitList tail omits) :
    (if (Text.words tail).isEmpty then some [] else readOmits? ([' '].intercalate (Text.words tail))) = some omits := by
  cases homits with
  | none => rfl
  | @brackets gap inner hgap hinner =>
    have hread := (readOmits?_squeeze (isTrimmed_enclosed rfl rfl inner)).2 ⟨inner, rfl, hinner, rfl⟩
    have hwords : Text.words ('[' :: (inner ++ [']'])) ≠ [] := by
      intro hnil
      have hblank := Text.words_eq_nil_iff.1 hnil '[' List.mem_cons_self
      cases hblank
    rw [Text.words_append_of_blank hgap.blank, if_neg (by simpa using hwords)]
    exact hread

theorem omitList_of_read {tail : List Char} {omits : List String} (htail : EndsWord tail)
    (hback : ∀ c ∈ tail.getLast?, Text.isBlank c = false)
    (hread : (if (Text.words tail).isEmpty then some [] else readOmits? ([' '].intercalate (Text.words tail))) =
      some omits) : OmitList tail omits := by
  split at hread
  · next hnone =>
    cases hread
    have hblank := Text.words_eq_nil_iff.1 (List.isEmpty_iff.1 hnone)
    have hnil : tail = [] := by
      by_contra hne
      obtain ⟨last, hlast⟩ : ∃ last, tail.getLast? = some last := by
        simpa [← Option.isSome_iff_exists] using hne
      have hvisible := hback last hlast
      rw [hblank last (List.mem_of_getLast? hlast)] at hvisible
      cases hvisible
    rw [hnil]
    exact .none
  · next hsome =>
    obtain ⟨word, others, hwords⟩ := List.exists_cons_of_ne_nil (by simpa using hsome)
    obtain ⟨gap, rest, rfl, hgap, hword, -, -⟩ := htail.exists_gap hwords
    rw [Text.words_append_of_blank hgap.blank] at hread
    have hcore : IsTrimmed (word ++ rest) := by
      constructor
      · obtain ⟨first, more, rfl⟩ := List.exists_cons_of_ne_nil hword.ne_nil
        rintro c ⟨⟩
        exact hword.visible first List.mem_cons_self
      · rwa [List.getLast?_append_of_ne_nil _ (by simp [hword.ne_nil])] at hback
    obtain ⟨inner, hinner, hfree, rfl⟩ := (readOmits?_squeeze hcore).1 hread
    rw [hinner]
    exact .brackets hgap hfree

end Omits

section Words

theorem isBlank_of_isAlphanumeric {c : Char} (hc : Text.isAlphanumeric c = true) : Text.isBlank c = false := by
  -- The blanks are few enough to look each of them up.
  let codes := Text.blankRanges.flatMap fun range => List.range' range.1 (range.2 + 1 - range.1)
  have hnone : ∀ code ∈ codes, Text.isAlphanumeric (Char.ofNat code) = false := by decide +kernel
  rw [← Bool.not_eq_true]
  intro hblank
  obtain ⟨range, hrange, hcode⟩ := Text.Ranges.has_iff.1 hblank
  have hmem : c.toNat ∈ codes := List.mem_flatMap.2 ⟨range, hrange, List.mem_range'_1.2 (by omega)⟩
  have hother := hnone c.toNat hmem
  rw [Char.ofNat_toNat, hc] at hother
  cases hother

theorem isWord_of_isIdentifier {name : List Char} (hname : isIdentifier name = true) : IsWord name := by
  cases name with
  | nil => cases hname
  | cons first rest =>
    have hpart {c : Char} (hc : (Text.isAlphanumeric c || c == '_') = true) : Text.isBlank c = false := by
      rcases Bool.or_eq_true_iff.1 hc with hletter | hunder
      · exact isBlank_of_isAlphanumeric hletter
      · rw [beq_iff_eq.1 hunder]
        rfl
    rw [isIdentifier, Bool.and_eq_true, List.all_eq_true] at hname
    refine ⟨by simp, fun c hc => ?_⟩
    rcases List.mem_cons.1 hc with rfl | hc
    · refine hpart ?_
      rcases Bool.or_eq_true_iff.1 hname.1 with hletter | hunder
      · simp [Text.isAlphanumeric, hletter]
      · simp [hunder]
    · exact hpart (hname.2 c hc)

theorem isWord_command (command : Command) : IsWord command.name.toList := by
  have hvisible : command.name.toList.all (!Text.isBlank ·) = true := by cases command <;> rfl
  refine ⟨by cases command <;> simp [Command.name], fun c hc => ?_⟩
  simpa using List.all_eq_true.1 hvisible c hc

theorem isWord_of_mem_marks {mark : List Char} (hmark : mark ∈ marks) : IsWord mark := by
  have hvisible : marks.all (fun mark => !mark.isEmpty && mark.all (!Text.isBlank ·)) = true := rfl
  have hmark := List.all_eq_true.1 hvisible mark hmark
  rw [Bool.and_eq_true, List.all_eq_true] at hmark
  exact ⟨by simpa using hmark.1, fun c hc => by simpa using hmark.2 c hc⟩

theorem isWord_keyword {glued : List Char} (hglued : ∀ c ∈ glued, Text.isBlank c = false) :
    IsWord (keyword ++ glued) := by
  have hvisible : keyword.all (!Text.isBlank ·) = true := rfl
  refine ⟨List.append_ne_nil_of_left_ne_nil (List.cons_ne_nil _ _) glued, fun c hc => ?_⟩
  rcases List.mem_append.1 hc with hc | hc
  · simpa using List.all_eq_true.1 hvisible c hc
  · exact hglued c hc

theorem isGap_space : IsGap [' '] :=
  ⟨by simp, by simp only [List.mem_singleton, forall_eq]; rfl⟩

/-- The words of a directive. -/
theorem Body.words {mark glued body : List Char} {directive : Directive} (hbody : Body mark glued body directive)
    (hmark : mark ∈ marks) :
    ∃ tail, OmitList tail directive.omits ∧
      Text.words body = mark :: (keyword ++ glued) :: directive.name.toList :: directive.command.name.toList ::
        Text.words tail := by
  cases hbody with
  | @intro _ gap gap' tail hglued hgap hname hgap' homits =>
    refine ⟨tail, homits, ?_⟩
    rw [(isWord_of_mem_marks hmark).words_append_gap isGap_space, (isWord_keyword hglued).words_append_gap hgap,
      (isWord_of_isIdentifier hname).words_append_gap hgap', (isWord_command _).words_append homits.endsWord]

/-- A text that opens like a directive and whose words are those of one. -/
theorem exists_body {mark body : List Char} {directive : Directive} {first second : List Char} {tail : List (List Char)}
    (hmark : mark ∈ marks) (hopens : mark ++ ([' '] ++ keyword) <+: body)
    (hback : ∀ c ∈ body.getLast?, Text.isBlank c = false)
    (hwords : Text.words body =
      first :: second :: directive.name.toList :: directive.command.name.toList :: tail)
    (hname : isIdentifier directive.name.toList = true)
    (homits : (if tail.isEmpty then some [] else readOmits? ([' '].intercalate tail)) = some directive.omits) :
    ∃ glued, Body mark glued body directive := by
  obtain ⟨more, rfl⟩ := hopens
  -- The keyword opens the second word, which runs on to the next blank.
  obtain ⟨glued, rest, rfl, hglued, hrest⟩ := Text.exists_endsWord more
  have hsame : mark ++ ([' '] ++ keyword) ++ (glued ++ rest) = mark ++ ([' '] ++ ((keyword ++ glued) ++ rest)) := by
    simp only [List.append_assoc]
  rw [hsame] at hback hwords ⊢
  rw [(isWord_of_mem_marks hmark).words_append_gap isGap_space, (isWord_keyword hglued).words_append hrest] at hwords
  simp only [List.cons.injEq] at hwords
  obtain ⟨gap, behind, rfl, hgap, -, hbehind, hcommand⟩ := hrest.exists_gap hwords.2.2
  obtain ⟨gap', omits, rfl, hgap', -, hend, rfl⟩ := hbehind.exists_gap hcommand
  refine ⟨glued, .intro hglued hgap hname hgap' (omitList_of_read hend (fun c hc => hback c ?_) homits)⟩
  have hne : omits ≠ [] := by
    rintro rfl
    cases hc
  simpa only [← List.append_assoc, List.getLast?_append_of_ne_nil _ hne] using hc

end Words

section Lines

/-- Reading a line means reading its words. -/
theorem readLine_eq_ok_iff {line : List Char} {directive : Directive} :
    readLine line = .ok directive ↔ ∃ first second tail,
      Text.words (dropClosing line) =
        first :: second :: directive.name.toList :: directive.command.name.toList :: tail ∧
      isIdentifier directive.name.toList = true ∧
      (if tail.isEmpty then some [] else readOmits? ([' '].intercalate tail)) = some directive.omits := by
  rw [readLine]
  rcases Text.words (dropClosing line) with _ | ⟨first, _ | ⟨second, _ | ⟨name, _ | ⟨command, tail⟩⟩⟩⟩
  · simp
  · simp
  · simp
  · simp
  · dsimp only
    constructor
    · intro hread
      split at hread
      · cases hread
      · next omits homits =>
        obtain ⟨found, hfound, hread⟩ := bind_eq_ok.1 hread
        rw [Command.ofName_eq_ok_iff] at hfound
        split at hread
        · next hname =>
          cases hread
          exact ⟨first, second, tail, by simp [← hfound], by simpa using hname, homits⟩
        · cases hread
    · rintro ⟨_, _, _, hwords, hname, homits⟩
      cases hwords
      rw [homits]
      dsimp only
      rw [String.ofList_toList, Command.ofName_eq_ok_iff.2 rfl, String.ofList_toList, hname]
      rfl

/-- A directive ends with its command or with a bracket. -/
theorem Body.getLast? {mark glued body : List Char} {directive : Directive} (hbody : Body mark glued body directive) :
    ∃ last, body.getLast? = some last ∧ Text.isBlank last = false ∧ last ≠ '/' := by
  cases hbody with
  | @intro _ gap gap' tail hglued hgap hname hgap' homits =>
    rcases homits.getLast? with rfl | htail
    · have hcommand : ∃ last, directive.command.name.toList.getLast? = some last ∧ Text.isBlank last = false ∧
          last ≠ '/' := by
        cases directive.command <;> exact ⟨_, rfl, rfl, by decide⟩
      simpa only [← List.append_assoc, List.append_nil, List.getLast?_append_of_ne_nil _ (isWord_command _).ne_nil]
        using hcommand
    · have hne : tail ≠ [] := by
        rintro rfl
        cases htail
      refine ⟨']', ?_, rfl, by decide⟩
      simpa only [← List.append_assoc, List.getLast?_append_of_ne_nil _ hne] using htail

theorem isPrefixOf_block {mark line : List Char} (hmark : mark ∈ marks) (hline : mark ++ [' '] <+: line) :
    "/*".toList.isPrefixOf line = decide (mark = "/*".toList) := by
  obtain ⟨rest, rfl⟩ := hline
  simp only [marks, List.mem_cons, List.not_mem_nil, or_false] at hmark
  rcases hmark with rfl | rfl | rfl <;> rfl

/-- The closing mark goes, with the blanks before it. -/
theorem dropClosing_closed {front : List Char} (hblock : "/*".toList.isPrefixOf (front ++ "*/".toList) = true) :
    dropClosing (front ++ "*/".toList) = Text.trimEnd front := by
  have hclosed : "*/".toList.isSuffixOf (front ++ "*/".toList) = true :=
    List.isSuffixOf_iff_suffix.2 (List.suffix_append _ _)
  have htake : (front ++ "*/".toList).take ((front ++ "*/".toList).length - 2) = front := by
    rw [List.length_append]
    exact List.take_left
  rw [dropClosing, if_pos hblock, if_pos hclosed, htake]

/-- A line that is not a closed block comment stays as it is. -/
theorem dropClosing_eq_self {mark line : List Char} (hmark : mark ∈ marks) (hopens : mark ++ [' '] <+: line)
    (hback : ∀ c ∈ line.getLast?, Text.isBlank c = false) (hunclosed : mark = "/*".toList → ¬"*/".toList <:+ line) :
    dropClosing line = line := by
  rw [dropClosing, isPrefixOf_block hmark hopens]
  by_cases hblock : mark = "/*".toList
  · have hend : ¬"*/".toList.isSuffixOf line = true := by
      rw [List.isSuffixOf_iff_suffix]
      exact hunclosed hblock
    rw [if_pos (decide_eq_true hblock), if_neg hend, Text.trimEnd_eq_self hback]
  · rw [decide_eq_false hblock]
    rfl

theorem dropClosing_append {mark glued body closing : List Char} {directive : Directive} (hmark : mark ∈ marks)
    (hbody : Body mark glued body directive) (hclosing : Closing mark closing) :
    dropClosing (body ++ closing) = body := by
  obtain ⟨last, hlast, hvisible, hslash⟩ := hbody.getLast?
  have hback : ∀ c ∈ body.getLast?, Text.isBlank c = false := by
    rw [hlast]
    rintro c ⟨⟩
    exact hvisible
  have hopens : mark ++ [' '] <+: body := by
    cases hbody
    exact ⟨_, List.append_assoc _ _ _⟩
  cases hclosing with
  | unclosed =>
    rw [List.append_nil]
    refine dropClosing_eq_self hmark hopens hback fun _ => ?_
    rintro ⟨front, rfl⟩
    rw [List.getLast?_append_of_ne_nil _ (by simp)] at hlast
    cases hlast
    exact hslash rfl
  | @block blanks hblanks =>
    have hne : body ≠ [] := by
      rintro rfl
      cases hlast
    have hblock := isPrefixOf_block hmark (hopens.trans (List.prefix_append body (blanks ++ "*/".toList)))
    rw [← List.append_assoc] at hblock ⊢
    rw [dropClosing_closed (hblock.trans (decide_eq_true rfl)), Text.trimEnd_append blanks hback hne,
      Text.trimEnd_of_blank hblanks, List.append_nil]

/-- The opening of a directive ends with a colon, so it cannot reach into the closing mark. -/
theorem prefix_of_prefix_closed {opening front : List Char} (hlast : opening.getLast? = some ':')
    (hopens : opening <+: front ++ "*/".toList) : opening <+: front := by
  have hreach : opening <+: front ++ ['*'] ++ ['/'] := by simpa using hopens
  rcases List.prefix_concat_iff.1 hreach with hsame | hreach
  · rw [hsame, List.getLast?_concat] at hlast
    cases hlast
  rcases List.prefix_concat_iff.1 hreach with hsame | hreach
  · rw [hsame, List.getLast?_concat] at hlast
    cases hlast
  exact hreach

theorem exists_closing {mark line : List Char} (hmark : mark ∈ marks) (hopens : mark ++ ([' '] ++ keyword) <+: line)
    (hback : ∀ c ∈ line.getLast?, Text.isBlank c = false) :
    mark ++ ([' '] ++ keyword) <+: dropClosing line ∧ (∀ c ∈ (dropClosing line).getLast?, Text.isBlank c = false) ∧
      ∃ closing, line = dropClosing line ++ closing ∧ Closing mark closing := by
  have hspace : mark ++ [' '] <+: line := (List.prefix_append _ keyword).trans (by simpa using hopens)
  by_cases hclosed : mark = "/*".toList ∧ "*/".toList <:+ line
  · obtain ⟨hblock, front, rfl⟩ := hclosed
    rw [dropClosing_closed ((isPrefixOf_block hmark hspace).trans (decide_eq_true hblock))]
    obtain ⟨blanks, hblanks, hblank⟩ := Text.exists_trimEnd_append front
    refine ⟨?_, fun c hc => Text.isBlank_of_getLast?_trimEnd hc, blanks ++ "*/".toList, ?_, ?_⟩
    · have hlast : (mark ++ ([' '] ++ keyword)).getLast? = some ':' := by
        rw [List.getLast?_append_of_ne_nil _ (by simp)]
        rfl
      rw [← List.isPrefixOf_iff_prefix, Text.isPrefixOf_trimEnd, List.isPrefixOf_iff_prefix]
      · exact prefix_of_prefix_closed hlast hopens
      · rw [hlast]
        rintro c ⟨⟩
        rfl
    · rw [← List.append_assoc, ← hblanks]
    · rw [hblock]
      exact .block hblank
  · have hsame : dropClosing line = line :=
      dropClosing_eq_self hmark hspace hback fun hblock hend => hclosed ⟨hblock, hend⟩
    rw [hsame]
    exact ⟨hopens, hback, [], (List.append_nil line).symm, .unclosed mark⟩

theorem readLine_eq_ok_iff_spells {line : List Char} (hback : ∀ c ∈ line.getLast?, Text.isBlank c = false)
    (hopens : ∃ mark ∈ marks, mark ++ ([' '] ++ keyword) <+: line) {directive : Directive} :
    readLine line = .ok directive ↔ ∃ glued, Spells glued line directive := by
  rw [readLine_eq_ok_iff]
  constructor
  · rintro ⟨first, second, tail, hwords, hname, homits⟩
    obtain ⟨mark, hmark, hopens⟩ := hopens
    obtain ⟨hopens, hback, closing, hline, hclosing⟩ := exists_closing hmark hopens hback
    obtain ⟨glued, hbody⟩ := exists_body hmark hopens hback hwords hname homits
    exact ⟨glued, mark, hmark, _, closing, hline, hbody, hclosing⟩
  · rintro ⟨glued, mark, hmark, body, closing, rfl, hbody, hclosing⟩
    obtain ⟨tail, homits, hwords⟩ := hbody.words hmark
    rw [dropClosing_append hmark hbody hclosing]
    refine ⟨mark, keyword ++ glued, Text.words tail, hwords, ?_, homits.read⟩
    cases hbody with
    | intro _ _ hname _ _ => exact hname

end Lines

section Reading

/-- The second word of a line that spells a directive is the keyword with what is glued to it. -/
theorem Spells.second_word {glued line : List Char} {directive : Directive} (hspells : Spells glued line directive) :
    (Text.words line)[1]? = some (keyword ++ glued) := by
  obtain ⟨mark, hmark, body, closing, rfl, hbody, -⟩ := hspells
  cases hbody with
  | intro hglued hgap _ _ _ =>
    simp only [List.append_assoc]
    rw [(isWord_of_mem_marks hmark).words_append_gap isGap_space, ← List.append_assoc keyword,
      (isWord_keyword hglued).words_append_gap hgap]
    rfl

theorem exists_mark_of_isDirective {forms : CommentForms} {line : List Char} (hline : forms.isDirective line = true) :
    ∃ mark ∈ marks, mark ++ ([' '] ++ keyword) <+: Text.trim line := by
  obtain ⟨opening, hopening, hopens⟩ := List.any_eq_true.1 hline
  have hlast : ∀ c ∈ opening.getLast?, Text.isBlank c = false := by
    rw [forms.getLast?_openings opening hopening]
    rintro c ⟨⟩
    rfl
  rw [← Text.isPrefixOf_trimEnd _ hlast, List.isPrefixOf_iff_prefix] at hopens
  have hmark : ∃ mark ∈ marks, opening = mark ++ ([' '] ++ keyword) := by
    simp only [CommentForms.openings, List.mem_append, List.mem_ite_nil_right, List.mem_singleton] at hopening
    rcases hopening with (⟨-, rfl⟩ | ⟨-, rfl⟩) | ⟨-, rfl⟩
    · exact ⟨"--".toList, by simp [marks], rfl⟩
    · exact ⟨"#".toList, by simp [marks], rfl⟩
    · exact ⟨"/*".toList, by simp [marks], rfl⟩
  obtain ⟨mark, hmark, rfl⟩ := hmark
  exact ⟨mark, hmark, hopens⟩

/-- The first line that opens like a directive decides. -/
theorem read_of_find? {forms : CommentForms} {text line : List Char}
    (hline : (Text.lines text).find? forms.isDirective = some line) :
    read forms text = (readLine (Text.trim line)).map some := by
  rw [read_eq, hline]

theorem read_eq_some_iff_spells {forms : CommentForms} {text line : List Char}
    (hline : (Text.lines text).find? forms.isDirective = some line) {directive : Directive} :
    read forms text = .ok (some directive) ↔ ∃ glued, Spells glued (Text.trim line) directive := by
  rw [← readLine_eq_ok_iff_spells (Text.isTrimmed_trim line).back
    (exists_mark_of_isDirective (List.find?_some hline)), read_of_find? hline]
  cases readLine (Text.trim line) <;> simp [Except.map]

/-- Reading finds no directive if no line opens like one. Else the first line that does decides: it spells the directive
    that is read, with or without something glued to the keyword, and if it spells none, reading fails. -/
theorem read_eq_spells (forms : CommentForms) (text : List Char) :
    (read forms text = .ok none ↔ (Text.lines text).find? forms.isDirective = none) ∧
    ∀ line, (Text.lines text).find? forms.isDirective = some line →
      (∀ directive, read forms text = .ok (some directive) ↔ ∃ glued, Spells glued (Text.trim line) directive) ∧
      ((∃ error, read forms text = .error error) ↔ ¬∃ directive glued, Spells glued (Text.trim line) directive) ∧
      ((Text.words (Text.trim line))[1]? = some keyword →
        ∀ directive glued, Spells glued (Text.trim line) directive → glued = []) := by
  refine ⟨?_, fun line hline => ⟨fun directive => read_eq_some_iff_spells hline, ?_, ?_⟩⟩
  · rw [read_eq_none_iff, List.any_eq_false, List.find?_eq_none]
  · simp only [← read_eq_some_iff_spells hline]
    rw [read_of_find? hline]
    cases readLine (Text.trim line) <;> simp [Except.map]
  · intro halone directive glued hspells
    rw [hspells.second_word, Option.some.injEq] at halone
    simpa using halone

/-- A block comment in the middle of a text, closed on its line, with blanks and commas to spare. -/
def blockLine : List Char :=
  " /* name:  Größe_2\t:many [ a\u00a0 b,, c ]*/ ".toList

def blockText : List Char :=
  "SELECT 1 -- name: No :one\r\n".toList ++ blockLine ++ "\n-- name: Late :one\nFROM t".toList

theorem read_eq_spells_blockText :
    (Text.lines blockText).find? Dialect.mySQL.commentForms.isDirective = some blockLine ∧
    read Dialect.mySQL.commentForms blockText = .ok (some ⟨"Größe_2", .many, ["a b", "c"]⟩) ∧
    (Text.words (Text.trim blockLine))[1]? = some keyword ∧
    Spells [] (Text.trim blockLine) ⟨"Größe_2", .many, ["a b", "c"]⟩ := by
  have hline : (Text.lines blockText).find? Dialect.mySQL.commentForms.isDirective = some blockLine := by decide +kernel
  have hread : read Dialect.mySQL.commentForms blockText = .ok (some ⟨"Größe_2", .many, ["a b", "c"]⟩) := by
    decide +kernel
  have halone : (Text.words (Text.trim blockLine))[1]? = some keyword := by decide +kernel
  obtain ⟨hsome, -, hglued⟩ := (read_eq_spells Dialect.mySQL.commentForms blockText).2 blockLine hline
  obtain ⟨glued, hspells⟩ := (hsome _).1 hread
  obtain rfl := hglued halone _ glued hspells
  exact ⟨hline, hread, halone, hspells⟩

/-- A line in which the name follows the keyword at once, and another word takes its place. -/
def gluedLine : List Char :=
  "-- name:Foo Bar :one".toList

theorem read_gluedLine :
    (Text.lines gluedLine).find? Dialect.postgreSQL.commentForms.isDirective = some gluedLine ∧
    read Dialect.postgreSQL.commentForms gluedLine = .ok (some ⟨"Bar", .one, []⟩) ∧
    ¬Spells [] (Text.trim gluedLine) ⟨"Bar", .one, []⟩ := by
  refine ⟨by decide +kernel, by decide +kernel, fun hspells => ?_⟩
  have hsecond : (Text.words (Text.trim gluedLine))[1]? ≠ some (keyword ++ []) := by decide +kernel
  exact hsecond hspells.second_word

end Reading

end Directive

end AnnotatedSql
