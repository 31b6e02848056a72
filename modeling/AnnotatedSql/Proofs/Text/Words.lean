import AnnotatedSql.Proofs.Text.Trim
import Mathlib.Data.List.Infix

/-!
Words and blanks. A text that is not blank is some blanks, its first word, and a rest that starts with a blank or is
empty (`exists_of_words_eq_cons`). Set one space apart, its words make up the text that is left when each run of blanks
is replaced by a space and those at both ends are cut off (`squeeze_eq_trim_collapse`).
-/
namespace AnnotatedSql.Text

/-- A word as it stands in a text. -/
structure IsWord (word : List Char) : Prop where
  ne_nil : word ≠ []
  visible : ∀ c ∈ word, isBlank c = false

/-- What sets two words apart. -/
structure IsGap (gap : List Char) : Prop where
  ne_nil : gap ≠ []
  blank : ∀ c ∈ gap, isBlank c = true

/-- A word that stands before such a text ends there. -/
def EndsWord (rest : List Char) : Prop :=
  ∀ c ∈ rest.head?, isBlank c = true

theorem IsWord.visible_getLast? {word : List Char} (hword : IsWord word) : ∀ c ∈ word.getLast?, isBlank c = false :=
  fun c hc => hword.visible c (List.mem_of_getLast? hc)

theorem IsGap.endsWord_append {gap : List Char} (hgap : IsGap gap) (rest : List Char) : EndsWord (gap ++ rest) := by
  obtain ⟨first, others, rfl⟩ := List.exists_cons_of_ne_nil hgap.ne_nil
  rintro c ⟨⟩
  exact hgap.blank first List.mem_cons_self

section Words

theorem words_append_blank {c : Char} (hc : isBlank c = true) (front rest : List Char) :
    words (front ++ c :: rest) = words front ++ words rest := by
  rw [words, List.splitOnP_append_cons front rest hc, List.filter_append]
  rfl

theorem words_append_of_blank {blanks : List Char} (hblanks : ∀ c ∈ blanks, isBlank c = true) (rest : List Char) :
    words (blanks ++ rest) = words rest := by
  induction blanks with
  | nil => rfl
  | cons c blanks ih =>
    have hrest := ih fun d hd => hblanks d (List.mem_cons_of_mem c hd)
    rw [← hrest]
    exact words_append_blank (hblanks c List.mem_cons_self) [] _

theorem IsWord.words_append {word rest : List Char} (hword : IsWord word) (hrest : EndsWord rest) :
    words (word ++ rest) = word :: words rest := by
  have hself : words word = [word] := by
    rw [words, List.splitOnP_eq_singleton hword.visible]
    simp [hword.ne_nil]
  cases rest with
  | nil => rw [List.append_nil, hself]; rfl
  | cons c rest =>
    have hc := hrest c rfl
    rw [words_append_blank hc, hself]
    exact congrArg (word :: ·) (words_append_blank hc [] rest).symm

/-- A word, the blanks behind it, and the words behind these. -/
theorem IsWord.words_append_gap {word gap : List Char} (hword : IsWord word) (hgap : IsGap gap) (rest : List Char) :
    words (word ++ (gap ++ rest)) = word :: words rest := by
  rw [hword.words_append (hgap.endsWord_append rest), words_append_of_blank hgap.blank]

/-- A text goes on without a blank up to some place. -/
theorem exists_endsWord (text : List Char) :
    ∃ front rest, text = front ++ rest ∧ (∀ c ∈ front, isBlank c = false) ∧ EndsWord rest := by
  refine ⟨text.takeWhile (!isBlank ·), text.dropWhile (!isBlank ·), List.takeWhile_append_dropWhile.symm,
    fun c hc => by simpa using List.mem_takeWhile_imp hc, fun c hc => ?_⟩
  have hhead := List.head?_dropWhile_not (!isBlank ·) text
  rw [Option.mem_def.1 hc] at hhead
  simpa using hhead

theorem blank_or_exists_word (text : List Char) :
    (∀ c ∈ text, isBlank c = true) ∨
      ∃ blanks word rest, text = blanks ++ (word ++ rest) ∧ (∀ c ∈ blanks, isBlank c = true) ∧ IsWord word ∧
        EndsWord rest := by
  cases hvisible : trimStart text with
  | nil => exact .inl (List.dropWhile_eq_nil_iff.1 hvisible)
  | cons first others =>
    have hfirst : isBlank first = false := by
      have hhead := List.head?_dropWhile_not isBlank text
      rw [show text.dropWhile isBlank = first :: others from hvisible] at hhead
      simpa using hhead
    obtain ⟨front, rest, rfl, hfront, hrest⟩ := exists_endsWord others
    refine .inr ⟨leading text, first :: front, rest, ?_, fun c hc => isBlank_of_mem_leading hc, ⟨by simp, ?_⟩, hrest⟩
    · rw [List.cons_append, ← hvisible, leading, trimStart, List.takeWhile_append_dropWhile]
    · simpa [hfirst] using hfront

theorem words_eq_nil_iff {text : List Char} : words text = [] ↔ ∀ c ∈ text, isBlank c = true := by
  constructor
  · intro hnil
    rcases blank_or_exists_word text with hblank | ⟨blanks, word, rest, rfl, hblanks, hword, hrest⟩
    · exact hblank
    · rw [words_append_of_blank hblanks, hword.words_append hrest] at hnil
      cases hnil
  · intro hblank
    rw [← List.append_nil text, words_append_of_blank hblank]
    rfl

/-- The first word of a text, with what stands around it. -/
theorem exists_of_words_eq_cons {text word : List Char} {others : List (List Char)}
    (hwords : words text = word :: others) :
    ∃ blanks rest, text = blanks ++ (word ++ rest) ∧ (∀ c ∈ blanks, isBlank c = true) ∧ IsWord word ∧ EndsWord rest ∧
      words rest = others := by
  rcases blank_or_exists_word text with hblank | ⟨blanks, first, rest, rfl, hblanks, hfirst, hrest⟩
  · rw [words_eq_nil_iff.2 hblank] at hwords
    cases hwords
  · rw [words_append_of_blank hblanks, hfirst.words_append hrest] at hwords
    cases hwords
    exact ⟨blanks, rest, rfl, hblanks, hfirst, hrest, rfl⟩

/-- Behind a word, the next one comes after at least one blank. -/
theorem EndsWord.exists_gap {text word : List Char} {others : List (List Char)} (htext : EndsWord text)
    (hwords : words text = word :: others) :
    ∃ gap rest, text = gap ++ (word ++ rest) ∧ IsGap gap ∧ IsWord word ∧ EndsWord rest ∧ words rest = others := by
  obtain ⟨blanks, rest, rfl, hblanks, hword, hrest, hothers⟩ := exists_of_words_eq_cons hwords
  refine ⟨blanks, rest, rfl, ⟨?_, hblanks⟩, hword, hrest, hothers⟩
  rintro rfl
  obtain ⟨first, more, rfl⟩ := List.exists_cons_of_ne_nil hword.ne_nil
  have hblank := htext first rfl
  rw [hword.visible first List.mem_cons_self] at hblank
  cases hblank

end Words

section Squeeze

/-- The words of a text, one space apart. -/
def squeeze (text : List Char) : List Char :=
  [' '].intercalate (words text)

/-- The text with a space in place of each run of blanks. -/
def collapse : List Char → List Char
  | [] => []
  | c :: rest =>
    if isBlank c then
      if rest.head?.any isBlank then collapse rest else ' ' :: collapse rest
    else c :: collapse rest

theorem collapse_append_visible {c : Char} (hc : isBlank c = false) (front rest : List Char) :
    collapse (front ++ c :: rest) = collapse front ++ c :: collapse rest := by
  induction front with
  | nil => simp [collapse, hc]
  | cons d front ih =>
    have hnext : (front ++ c :: rest).head?.any isBlank = front.head?.any isBlank := by
      cases front <;> simp [hc]
    rw [List.cons_append, collapse, collapse, hnext, ih]
    split
    · split <;> rfl
    · rfl

theorem IsWord.collapse_append {word : List Char} (hword : IsWord word) (front rest : List Char) :
    collapse (front ++ (word ++ rest)) = collapse front ++ (word ++ collapse rest) := by
  obtain ⟨first, more, rfl⟩ := List.exists_cons_of_ne_nil hword.ne_nil
  have hmore : collapse (more ++ rest) = more ++ collapse rest := by
    have hvisible : ∀ c ∈ more, isBlank c = false := fun c hc => hword.visible c (List.mem_cons_of_mem _ hc)
    clear hword
    induction more with
    | nil => rfl
    | cons c more ih =>
      rw [List.cons_append, collapse, hvisible c List.mem_cons_self, List.cons_append,
        ih fun d hd => hvisible d (List.mem_cons_of_mem _ hd)]
      rfl
  rw [List.cons_append, collapse_append_visible (hword.visible first List.mem_cons_self), hmore, List.cons_append]

theorem collapse_of_blank {blanks : List Char} (hblanks : ∀ c ∈ blanks, isBlank c = true) :
    collapse blanks = if blanks = [] then [] else [' '] := by
  induction blanks with
  | nil => rfl
  | cons c blanks ih =>
    have hrest := ih fun d hd => hblanks d (List.mem_cons_of_mem _ hd)
    rw [collapse, hblanks c List.mem_cons_self, hrest]
    cases blanks with
    | nil => rfl
    | cons d blanks => simp [hblanks d (by simp)]

theorem trimEnd_of_blank {blanks : List Char} (hblanks : ∀ c ∈ blanks, isBlank c = true) : trimEnd blanks = [] := by
  rw [trimEnd, List.dropWhile_eq_nil_iff.2, List.reverse_nil]
  exact fun c hc => hblanks c (List.mem_reverse.1 hc)

theorem trimEnd_eq_self {text : List Char} (hback : ∀ c ∈ text.getLast?, isBlank c = false) : trimEnd text = text := by
  by_cases hnil : text = []
  · rw [hnil]
    rfl
  · have hend : trimEnd (text ++ []) = text ++ [] := trimEnd_append [] hback hnil
    rwa [List.append_nil] at hend

theorem isBlank_of_getLast?_trimEnd {text : List Char} {c : Char} (hc : c ∈ (trimEnd text).getLast?) :
    isBlank c = false := by
  have hhead := List.head?_dropWhile_not isBlank text.reverse
  rw [trimEnd, List.getLast?_reverse] at hc
  rw [Option.mem_def.1 hc] at hhead
  simpa using hhead

theorem exists_trimEnd_append (text : List Char) :
    ∃ blanks, text = trimEnd text ++ blanks ∧ ∀ c ∈ blanks, isBlank c = true := by
  refine ⟨(text.reverse.takeWhile isBlank).reverse, ?_, fun c hc => List.mem_takeWhile_imp (List.mem_reverse.1 hc)⟩
  rw [trimEnd, ← List.reverse_append, List.takeWhile_append_dropWhile, List.reverse_reverse]

theorem IsWord.trim_append {word : List Char} (hword : IsWord word) {blanks : List Char}
    (hblanks : ∀ c ∈ blanks, isBlank c = true) (rest : List Char) :
    trim (blanks ++ (word ++ rest)) = word ++ trimEnd rest := by
  have hstart : trimStart (blanks ++ (word ++ rest)) = word ++ rest := by
    obtain ⟨first, more, rfl⟩ := List.exists_cons_of_ne_nil hword.ne_nil
    rw [trimStart, List.dropWhile_append_of_pos hblanks, List.cons_append, List.dropWhile_cons_of_neg]
    simp [hword.visible first List.mem_cons_self]
  rw [trim, hstart, trimEnd_append rest hword.visible_getLast? hword.ne_nil]

theorem isBlank_of_mem_collapse {blanks : List Char} (hblanks : ∀ c ∈ blanks, isBlank c = true) :
    ∀ c ∈ collapse blanks, isBlank c = true := by
  rw [collapse_of_blank hblanks]
  split
  · simp
  · simp only [List.mem_singleton, forall_eq]
    rfl

/-- Words that are set one space apart make up the text without its other blanks. -/
theorem squeeze_eq_trim_collapse (text : List Char) : squeeze text = trim (collapse text) := by
  rw [squeeze]
  generalize hwords : words text = found
  induction found generalizing text with
  | nil =>
    have hblank := isBlank_of_mem_collapse (words_eq_nil_iff.1 hwords)
    rw [trim, trimStart, List.dropWhile_eq_nil_iff.2 hblank]
    rfl
  | cons word others ih =>
    obtain ⟨blanks, rest, rfl, hblanks, hword, hrest, hothers⟩ := exists_of_words_eq_cons hwords
    rw [hword.collapse_append, hword.trim_append (isBlank_of_mem_collapse hblanks)]
    cases others with
    | nil =>
      rw [trimEnd_of_blank (isBlank_of_mem_collapse (words_eq_nil_iff.1 hothers)), List.append_nil]
      simp
    | cons next others =>
      -- The blanks before the next word become the space that sets it apart.
      obtain ⟨gap, behind, rfl, hgap, hnext, -, -⟩ := hrest.exists_gap hothers
      have hspace : collapse gap = [' '] := by rw [collapse_of_blank hgap.blank, if_neg hgap.ne_nil]
      have hshort := ih _ hothers
      rw [hnext.collapse_append, hnext.trim_append (isBlank_of_mem_collapse hgap.blank)] at hshort
      have hlast : ∀ c ∈ ([' '] ++ next).getLast?, isBlank c = false := by
        rw [List.getLast?_append_of_ne_nil _ hnext.ne_nil]
        exact hnext.visible_getLast?
      rw [hnext.collapse_append, hspace, List.intercalate_cons_cons, hshort, ← List.append_assoc [' '] next,
        trimEnd_append _ hlast (by simp)]
      simp

/-- Collapsing neither takes away a visible character nor puts one in. -/
theorem mem_collapse_iff {c : Char} (hc : isBlank c = false) (text : List Char) : c ∈ collapse text ↔ c ∈ text := by
  induction text with
  | nil => rfl
  | cons d text ih =>
    rw [collapse]
    split
    · next hd =>
      have hne : c ≠ d := by
        rintro rfl
        simp [hc] at hd
      have hspace : c ≠ ' ' := by
        rintro rfl
        cases hc
      split
      · simp [ih, hne]
      · simp [ih, hne, hspace]
    · rw [List.mem_cons, List.mem_cons, ih]

theorem eq_space_of_mem_collapse {text : List Char} {c : Char} (hmem : c ∈ collapse text) (hc : isBlank c = true) :
    c = ' ' := by
  induction text with
  | nil => cases hmem
  | cons d text ih =>
    rw [collapse] at hmem
    split at hmem
    · split at hmem
      · exact ih hmem
      · rcases List.mem_cons.1 hmem with rfl | hmem
        · rfl
        · exact ih hmem
    · next hd =>
      rcases List.mem_cons.1 hmem with rfl | hmem
      · exact absurd hc hd
      · exact ih hmem

theorem not_infix_collapse (text : List Char) : ¬[' ', ' '] <:+: collapse text := by
  induction text with
  | nil => simp [collapse]
  | cons c text ih =>
    rw [collapse]
    split
    · split
      · exact ih
      · next hnext =>
        rw [List.infix_cons_iff, not_or]
        refine ⟨?_, ih⟩
        rw [List.cons_prefix_cons]
        rintro ⟨-, hspace⟩
        cases text with
        | nil => simp [collapse] at hspace
        | cons d text =>
          have hd : isBlank d = false := by simpa using hnext
          have hstart : collapse (d :: text) = d :: collapse text := collapse_append_visible hd [] text
          rw [hstart, List.cons_prefix_cons] at hspace
          obtain ⟨rfl, -⟩ := hspace
          cases hd
    · next hc =>
      rw [List.infix_cons_iff, not_or]
      refine ⟨?_, ih⟩
      rw [List.cons_prefix_cons]
      rintro ⟨rfl, -⟩
      exact hc rfl

end Squeeze

section Spaced

/-- Words that are one space apart: there is no other blank between them, and none around them. -/
structure IsSpaced (text : List Char) : Prop where
  space : ∀ c ∈ text, isBlank c = true → c = ' '
  trimmed : IsTrimmed text
  single : ¬[' ', ' '] <:+: text

theorem trim_infix_self (text : List Char) : trim text <:+: text :=
  ⟨leading text, trailing text, by rw [List.append_assoc, leading_trim_trailing]⟩

theorem isSpaced_squeeze (text : List Char) : IsSpaced (squeeze text) := by
  rw [squeeze_eq_trim_collapse]
  have hwithin := trim_infix_self (collapse text)
  refine ⟨fun c hc => eq_space_of_mem_collapse (hwithin.subset hc), isTrimmed_trim _, fun hdouble => ?_⟩
  exact not_infix_collapse text (hdouble.trans hwithin)

theorem collapse_eq_self {text : List Char} (hspace : ∀ c ∈ text, isBlank c = true → c = ' ')
    (hsingle : ¬[' ', ' '] <:+: text) : collapse text = text := by
  induction text with
  | nil => rfl
  | cons c rest ih =>
    rw [List.infix_cons_iff, not_or] at hsingle
    have hrest := ih (fun d hd => hspace d (List.mem_cons_of_mem _ hd)) hsingle.2
    rw [collapse, hrest]
    split
    · next hc =>
      obtain rfl := hspace c List.mem_cons_self hc
      rw [if_neg]
      intro hnext
      cases rest with
      | nil => simp at hnext
      | cons d rest =>
        obtain rfl := hspace d (by simp) (by simpa using hnext)
        exact hsingle.1 (by simp)
    · rfl

theorem IsTrimmed.trimStart_eq {text : List Char} (htext : IsTrimmed text) : trimStart text = text := by
  cases text with
  | nil => rfl
  | cons c rest => rw [trimStart, List.dropWhile_cons_of_neg (by simp [htext.front c rfl])]

theorem IsTrimmed.trim_eq {text : List Char} (htext : IsTrimmed text) : trim text = text := by
  rw [trim, htext.trimStart_eq, trimEnd_eq_self htext.back]

theorem IsSpaced.squeeze_eq {text : List Char} (htext : IsSpaced text) : squeeze text = text := by
  rw [squeeze_eq_trim_collapse, collapse_eq_self htext.space htext.single, htext.trimmed.trim_eq]

end Spaced

section Parts

variable {sep : Char}

/-- The parts of a text between separators hold what the text holds, apart from the separators. -/
theorem of_mem_splitOn (text : List Char) {part : List Char} (hpart : part ∈ text.splitOn sep) :
    sep ∉ part ∧ ∀ c ∈ part, c ∈ text := by
  by_cases hmem : sep ∈ text
  · obtain ⟨front, rest, htext, hfront⟩ := List.eq_append_cons_of_mem hmem
    rw [htext] at hpart ⊢
    rw [List.splitOn_append_cons_self_of_not_mem hfront] at hpart
    rcases List.mem_cons.1 hpart with rfl | hpart
    · exact ⟨hfront, fun c hc => List.mem_append_left _ hc⟩
    · have hrest := of_mem_splitOn rest hpart
      exact ⟨hrest.1, fun c hc => List.mem_append_right _ (List.mem_cons_of_mem _ (hrest.2 c hc))⟩
  · rw [List.splitOn_eq_singleton hmem, List.mem_singleton] at hpart
    subst hpart
    exact ⟨hmem, fun c hc => hc⟩
termination_by text.length
decreasing_by
  rw [htext, List.length_append, List.length_cons]
  omega

/-- Collapsing a text collapses its parts, since a separator is not blank. -/
theorem splitOn_collapse (hsep : isBlank sep = false) (text : List Char) :
    (collapse text).splitOn sep = (text.splitOn sep).map collapse := by
  by_cases hmem : sep ∈ text
  · obtain ⟨front, rest, htext, hfront⟩ := List.eq_append_cons_of_mem hmem
    have hcollapsed : sep ∉ collapse front := fun h => hfront ((mem_collapse_iff hsep front).1 h)
    rw [htext, collapse_append_visible hsep, List.splitOn_append_cons_self_of_not_mem hfront,
      List.splitOn_append_cons_self_of_not_mem hcollapsed, splitOn_collapse hsep rest, List.map_cons]
  · have hcollapsed : sep ∉ collapse text := fun h => hmem ((mem_collapse_iff hsep text).1 h)
    rw [List.splitOn_eq_singleton hmem, List.splitOn_eq_singleton hcollapsed, List.map_cons, List.map_nil]
termination_by text.length
decreasing_by
  rw [htext, List.length_append, List.length_cons]
  omega

end Parts

end AnnotatedSql.Text
