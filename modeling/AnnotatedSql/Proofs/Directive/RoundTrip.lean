import AnnotatedSql.Proofs.Directive.Grammar
import AnnotatedSql.Proofs.Source.Comment

/-!
Directives that are written and read again. The line of a directive is read as that directive if its name is an
identifier and the names it leaves out can stand in a list; and no other directive comes from reading a text
(`Directive.read_line_iff_isWritable`).
-/
namespace AnnotatedSql.Directive

open Text (IsSpaced IsTrimmed)

/-- A name that can stand in a list of names: its words are one space apart, and nothing in it looks like the list. -/
structure IsEntry (entry : List Char) : Prop where
  ne_nil : entry ≠ []
  plain : ',' ∉ entry ∧ '[' ∉ entry ∧ ']' ∉ entry
  spaced : IsSpaced entry

/-- A directive that can be told from its line. -/
structure IsWritable (directive : Directive) : Prop where
  name : isIdentifier directive.name.toList = true
  omits : ∀ entry ∈ directive.omits, IsEntry entry.toList

section Reading

theorem mem_of_mem_squeeze {c : Char} (hc : Text.isBlank c = false) {text : List Char} (hmem : c ∈ Text.squeeze text) :
    c ∈ text := by
  rw [Text.squeeze_eq_trim_collapse] at hmem
  exact (Text.mem_collapse_iff hc text).1 ((Text.trim_infix_self _).subset hmem)

theorem isEntry_of_mem_entries {inner : List Char} (hinner : '[' ∉ inner ∧ ']' ∉ inner) {entry : String}
    (hentry : entry ∈ entries inner) : IsEntry entry.toList := by
  obtain ⟨squeezed, hsqueezed, rfl⟩ := List.mem_map.1 hentry
  obtain ⟨hmem, hne⟩ := List.mem_filter.1 hsqueezed
  obtain ⟨part, hpart, rfl⟩ := List.mem_map.1 hmem
  obtain ⟨hcomma, hsubset⟩ := Text.of_mem_splitOn inner hpart
  rw [String.toList_ofList]
  refine ⟨by simpa using hne, ⟨fun h => ?_, fun h => ?_, fun h => ?_⟩, Text.isSpaced_squeeze part⟩
  · exact hcomma (mem_of_mem_squeeze rfl h)
  · exact hinner.1 (hsubset _ (mem_of_mem_squeeze rfl h))
  · exact hinner.2 (hsubset _ (mem_of_mem_squeeze rfl h))

theorem OmitList.isEntry {tail : List Char} {omits : List String} (homits : OmitList tail omits) :
    ∀ entry ∈ omits, IsEntry entry.toList := by
  cases homits with
  | none => simp
  | brackets _ hinner => exact fun entry hentry => isEntry_of_mem_entries hinner hentry

theorem Body.isWritable {mark glued body : List Char} {directive : Directive} (hbody : Body mark glued body directive) :
    directive.IsWritable := by
  cases hbody with
  | intro _ _ hname _ homits => exact ⟨hname, homits.isEntry⟩

/-- Every directive that is read can be written. -/
theorem isWritable_of_read {forms : CommentForms} {text : List Char} {directive : Directive}
    (hread : read forms text = .ok (some directive)) : directive.IsWritable := by
  cases hline : (Text.lines text).find? forms.isDirective with
  | none =>
    rw [read_eq, hline] at hread
    cases hread
  | some line =>
    obtain ⟨glued, mark, -, body, closing, -, hbody, -⟩ := (read_eq_some_iff_spells hline).1 hread
    exact hbody.isWritable

end Reading

section Writing

/-- Names that are joined with commas and spaces come apart at the commas. -/
theorem splitOn_intercalate_comma {first : List Char} {rest : List (List Char)} (hfirst : ',' ∉ first)
    (hrest : ∀ part ∈ rest, ',' ∉ part) :
    (", ".toList.intercalate (first :: rest)).splitOn ',' = first :: rest.map (' ' :: ·) := by
  induction rest generalizing first with
  | nil => simpa using List.splitOn_eq_singleton hfirst
  | cons next rest ih =>
    have hjoined : ", ".toList.intercalate (first :: next :: rest) =
        first ++ ',' :: (' ' :: ", ".toList.intercalate (next :: rest)) := by
      rw [List.intercalate_cons_cons, List.append_assoc]
      rfl
    rw [hjoined, List.splitOn_append_cons_self_of_not_mem hfirst, List.splitOn_cons_eq_if_modifyHead,
      ih (hrest next List.mem_cons_self) fun part hpart => hrest part (List.mem_cons_of_mem _ hpart)]
    simp

theorem IsEntry.squeeze_cons_space {entry : List Char} (hentry : IsEntry entry) :
    Text.squeeze (' ' :: entry) = entry := by
  have hwords : Text.words (' ' :: entry) = Text.words entry := Text.words_append_of_blank isGap_space.blank entry
  rw [Text.squeeze, hwords]
  exact hentry.spaced.squeeze_eq

theorem entries_intercalate {omits : List String} (hne : omits ≠ []) (homits : ∀ entry ∈ omits, IsEntry entry.toList) :
    entries (", ".intercalate omits).toList = omits := by
  obtain ⟨first, rest, rfl⟩ := List.exists_cons_of_ne_nil hne
  have hfirst := homits first List.mem_cons_self
  have hrest : ∀ entry ∈ rest, IsEntry entry.toList := fun entry hentry => homits entry (List.mem_cons_of_mem _ hentry)
  have hparts : ((", ".intercalate (first :: rest)).toList.splitOn ',').map Text.squeeze =
      (first :: rest).map String.toList := by
    rw [String.toList_intercalate, List.map_cons, splitOn_intercalate_comma hfirst.plain.1, List.map_cons,
      hfirst.spaced.squeeze_eq, List.map_map, List.map_map]
    · exact congrArg _ (List.map_congr_left fun entry hentry => (hrest entry hentry).squeeze_cons_space)
    · intro part hpart
      obtain ⟨entry, hentry, rfl⟩ := List.mem_map.1 hpart
      exact (hrest entry hentry).plain.1
  have hkept : ((first :: rest).map String.toList).filter (!·.isEmpty) = (first :: rest).map String.toList := by
    refine List.filter_eq_self.2 fun part hpart => ?_
    obtain ⟨entry, hentry, rfl⟩ := List.mem_map.1 hpart
    simpa using (homits entry hentry).ne_nil
  rw [entries, hparts, hkept, List.map_map]
  exact List.map_id'' (fun _ => String.ofList_toList) _

theorem mem_intercalate_comma {omits : List String} {c : Char} (hc : c ∈ (", ".intercalate omits).toList) :
    c = ',' ∨ c = ' ' ∨ ∃ entry ∈ omits, c ∈ entry.toList := by
  rw [String.toList_intercalate] at hc
  induction omits with
  | nil => simp at hc
  | cons first rest ih =>
    cases rest with
    | nil => exact .inr (.inr ⟨first, by simp, by simpa using hc⟩)
    | cons next rest =>
      rw [List.map_cons, List.map_cons, List.intercalate_cons_cons, List.mem_append, List.mem_append] at hc
      rcases hc with (hc | hc) | hc
      · exact .inr (.inr ⟨first, by simp, hc⟩)
      · have hsep : c = ',' ∨ c = ' ' := by simpa using hc
        exact hsep.imp_right .inl
      · refine (ih hc).imp_right (Or.imp_right ?_)
        rintro ⟨entry, hentry, hc⟩
        exact ⟨entry, List.mem_cons_of_mem _ hentry, hc⟩

/-- What a line has behind the command. -/
def listed (omits : List String) : List Char :=
  if omits.isEmpty then [] else [' '] ++ '[' :: ((", ".intercalate omits).toList ++ [']'])

theorem toList_line (directive : Directive) :
    directive.line.toList = "--".toList ++ ([' '] ++ ((keyword ++ []) ++ ([' '] ++ (directive.name.toList ++ ([' '] ++
      (directive.command.name.toList ++ listed directive.omits)))))) := by
  rw [line, listed]
  split <;> simp [keyword]

theorem omitList_listed {omits : List String} (homits : ∀ entry ∈ omits, IsEntry entry.toList) :
    OmitList (listed omits) omits := by
  rw [listed]
  split
  · next hnone =>
    rw [List.isEmpty_iff.1 hnone]
    exact .none
  · next hsome =>
    have hfree {c : Char} (hcomma : c ≠ ',') (hspace : c ≠ ' ') (hc : ∀ entry ∈ omits, c ∉ entry.toList) :
        c ∉ (", ".intercalate omits).toList := by
      intro hmem
      rcases mem_intercalate_comma hmem with heq | heq | ⟨entry, hentry, hmem⟩
      · exact hcomma heq
      · exact hspace heq
      · exact hc entry hentry hmem
    have hbrackets := OmitList.brackets isGap_space
      ⟨hfree (by decide) (by decide) fun entry hentry => (homits entry hentry).plain.2.1,
        hfree (by decide) (by decide) fun entry hentry => (homits entry hentry).plain.2.2⟩
    rwa [entries_intercalate (by simpa using hsome) homits] at hbrackets

theorem IsWritable.body {directive : Directive} (hdirective : directive.IsWritable) :
    Body "--".toList [] directive.line.toList directive := by
  rw [toList_line]
  exact .intro (by simp) isGap_space hdirective.name isGap_space (omitList_listed hdirective.omits)

/-- The only blanks of a line are spaces. -/
theorem IsWritable.eq_space {directive : Directive} (hdirective : directive.IsWritable) {c : Char}
    (hmem : c ∈ directive.line.toList) (hc : Text.isBlank c = true) : c = ' ' := by
  have hnone {word : List Char} (hword : Text.IsWord word) (hmem : c ∈ word) : c = ' ' := by
    rw [hword.visible c hmem] at hc
    cases hc
  rw [toList_line] at hmem
  simp only [List.mem_append, List.mem_singleton, List.not_mem_nil, or_false] at hmem
  rcases hmem with hmem | rfl | hmem | rfl | hmem | rfl | hmem | hmem
  · exact hnone (isWord_of_mem_marks List.mem_cons_self) hmem
  · rfl
  · exact hnone (isWord_keyword (by simp)) (List.mem_append_left [] hmem)
  · rfl
  · exact hnone (isWord_of_isIdentifier hdirective.name) hmem
  · rfl
  · exact hnone (isWord_command _) hmem
  · rw [listed] at hmem
    split at hmem
    · cases hmem
    · simp only [List.mem_append, List.mem_cons, List.not_mem_nil, or_false] at hmem
      rcases hmem with rfl | rfl | hmem | rfl
      · rfl
      · cases hc
      · rcases mem_intercalate_comma hmem with rfl | rfl | ⟨entry, hentry, hmem⟩
        · cases hc
        · rfl
        · exact (hdirective.omits entry hentry).spaced.space c hmem hc
      · cases hc

theorem lines_of_not_mem {text : List Char} (hne : text ≠ []) (htext : '\n' ∉ text) : Text.lines text = [text] := by
  have hends := Text.linesEnd_endedLines text
  have hflat := Text.flatMap_endedLines text
  rw [Text.lines]
  generalize Text.endedLines text = ended at hends hflat
  subst hflat
  cases hends with
  | nil => exact absurd rfl hne
  | last line => simp
  | newline line _ => exact absurd (by simp) htext
  | returned line _ => exact absurd (by simp) htext

theorem opens_line (directive : Directive) : "--".toList ++ ([' '] ++ keyword) <+: directive.line.toList := by
  rw [toList_line, List.append_nil, ← List.append_assoc [' '], ← List.append_assoc]
  exact List.prefix_append _ _

theorem IsWritable.isTrimmed_line {directive : Directive} (hdirective : directive.IsWritable) :
    IsTrimmed directive.line.toList := by
  constructor
  · obtain ⟨rest, hrest⟩ := opens_line directive
    rw [← hrest]
    rintro c ⟨⟩
    rfl
  · obtain ⟨last, hlast, hvisible, -⟩ := hdirective.body.getLast?
    rw [hlast]
    rintro c ⟨⟩
    exact hvisible

theorem IsWritable.lines_line {directive : Directive} (hdirective : directive.IsWritable) :
    Text.lines directive.line.toList = [directive.line.toList] := by
  refine lines_of_not_mem (fun hnil => ?_) fun hmem => absurd (hdirective.eq_space hmem rfl) (by decide)
  have hopens := opens_line directive
  simp [hnil] at hopens

theorem isDirective_line {forms : CommentForms} (hdash : forms.dash = true) {directive : Directive}
    (hdirective : directive.IsWritable) : forms.isDirective directive.line.toList = true := by
  rw [CommentForms.isDirective, hdirective.isTrimmed_line.trimStart_eq, List.any_eq_true]
  refine ⟨"-- name:".toList, ?_, List.isPrefixOf_iff_prefix.2 (opens_line directive)⟩
  rw [CommentForms.openings, if_pos hdash]
  exact List.mem_append_left _ (List.mem_append_left _ List.mem_cons_self)

/-- A directive that can be told from its line is read from it. -/
theorem IsWritable.read_line {directive : Directive} (hdirective : directive.IsWritable) {forms : CommentForms}
    (hdash : forms.dash = true) : read forms directive.line.toList = .ok (some directive) := by
  have hfound : (Text.lines directive.line.toList).find? forms.isDirective = some directive.line.toList := by
    rw [hdirective.lines_line, List.find?_cons, isDirective_line hdash hdirective]
  rw [read_eq_some_iff_spells hfound, hdirective.isTrimmed_line.trim_eq]
  exact ⟨[], "--".toList, List.mem_cons_self, _, [], (List.append_nil _).symm, hdirective.body, .unclosed _⟩

end Writing

/-- The line of a directive is read as that directive if and only if it is a writable one, and every directive that is
    read from a text is. -/
theorem read_line_iff_isWritable (directive : Directive) :
    (∀ forms : CommentForms, forms.dash = true →
      (read forms directive.line.toList = .ok (some directive) ↔ directive.IsWritable)) ∧
    ∀ (forms : CommentForms) (text : List Char), read forms text = .ok (some directive) →
      directive.IsWritable ∧
        ∀ other : CommentForms, other.dash = true → read other directive.line.toList = .ok (some directive) := by
  refine ⟨fun forms hdash => ⟨isWritable_of_read, fun hdirective => hdirective.read_line hdash⟩,
    fun forms text hread => ?_⟩
  have hdirective := isWritable_of_read hread
  exact ⟨hdirective, fun other hdash => hdirective.read_line hdash⟩

theorem read_line_iff_isWritable_listed :
    read Dialect.mySQL.commentForms "# name: Größe_2 :exec [ a\u00a0 b,,c ]".toList =
      .ok (some ⟨"Größe_2", .exec, ["a b", "c"]⟩) ∧
    IsWritable ⟨"Größe_2", .exec, ["a b", "c"]⟩ ∧
    read Dialect.postgreSQL.commentForms (line ⟨"Größe_2", .exec, ["a b", "c"]⟩).toList =
      .ok (some ⟨"Größe_2", .exec, ["a b", "c"]⟩) ∧
    read Dialect.postgreSQL.commentForms (line ⟨"Q", .one, ["a, b"]⟩).toList ≠ .ok (some ⟨"Q", .one, ["a, b"]⟩) := by
  have hread : read Dialect.mySQL.commentForms "# name: Größe_2 :exec [ a\u00a0 b,,c ]".toList =
      .ok (some ⟨"Größe_2", .exec, ["a b", "c"]⟩) := by decide +kernel
  obtain ⟨hwritable, hlines⟩ := (read_line_iff_isWritable _).2 _ _ hread
  refine ⟨hread, hwritable, hlines _ rfl, fun hsame => ?_⟩
  have hcomma := ((read_line_iff_isWritable _).1 _ rfl).1 hsame
  exact (hcomma.omits "a, b" (by simp)).plain.1 (by simp)

end AnnotatedSql.Directive
