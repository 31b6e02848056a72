import AnnotatedSql.FieldType
import AnnotatedSql.Proofs.Text.Case
import AnnotatedSql.Proofs.Text.Words

/-!
Type strings and what they spell. A base name in letters of either case may be followed by a size, by a size and a scale
or, for `enum` and `set`, by a list of quoted values, and then by any number of qualifiers; blanks may stand around each
of these parts. What is spelled so is read back (`FieldType.read_of_spells`).
-/
namespace AnnotatedSql

namespace Text

/-- Blanks in any number. -/
def IsBlanks (blanks : List Char) : Prop :=
  ∀ c ∈ blanks, isBlank c = true

instance (blanks : List Char) : Decidable (IsBlanks blanks) :=
  decidable_of_iff (blanks.all isBlank = true) List.all_eq_true

/-- No blank is among the printable characters of ASCII. -/
theorem isBlank_of_printable {c : Char} (hlow : 33 ≤ c.toNat) (hhigh : c.toNat ≤ 126) : isBlank c = false := by
  simp only [isBlank, Ranges.has, blankRanges, List.any_cons, List.any_nil]
  simp
  omega

theorem isBlank_toLower (c : Char) : isBlank c.toLower = isBlank c := by
  rcases toLower_cases c with hself | ⟨hupper, hlower⟩
  · rw [hself]
  · rw [isBlank_of_printable (by omega) (by omega), isBlank_of_printable (by omega) (by omega)]

theorem words_append_blanks (front : List Char) {blanks : List Char} (hblanks : IsBlanks blanks) :
    words (front ++ blanks) = words front := by
  cases blanks with
  | nil => rw [List.append_nil]
  | cons c blanks =>
    have hnil : words blanks = [] := words_eq_nil_iff.2 fun d hd => hblanks d (List.mem_cons_of_mem c hd)
    rw [words_append_blank (hblanks c List.mem_cons_self), hnil, List.append_nil]

theorem words_trimEnd (text : List Char) : words (trimEnd text) = words text := by
  obtain ⟨blanks, htext, hblanks⟩ := exists_trimEnd_append text
  rw [← words_append_blanks (trimEnd text) hblanks, ← htext]

theorem words_trimStart (text : List Char) : words (trimStart text) = words text := by
  have hsplit := List.takeWhile_append_dropWhile (p := isBlank) (l := text)
  rw [trimStart, ← words_append_of_blank (fun c hc => List.mem_takeWhile_imp hc) (text.dropWhile isBlank), hsplit]

end Text

namespace FieldType

open Text (EndsWord IsBlanks IsWord)

/-- A part with blanks around it. -/
inductive Padded (part : List Char) : List Char → Prop where
  | intro {before after : List Char} (hbefore : IsBlanks before) (hafter : IsBlanks after) :
    Padded part (before ++ (part ++ after))

inductive Qualifier where
  | unsigned
  | zerofill
  | signed
deriving DecidableEq

def Qualifier.word : Qualifier → String
  | unsigned => "unsigned"
  | zerofill => "zerofill"
  | signed => "signed"

/-- The qualifiers at the end of a type string. A blank has to stand between two of them, and before the first one if
    it has to be kept apart from what is before it. -/
inductive Qualified : (apart : Bool) → List Qualifier → List Char → Prop where
  | done {apart : Bool} {blanks : List Char} (hblanks : IsBlanks blanks) : Qualified apart [] blanks
  | next {apart : Bool} {gap word rest : List Char} {qualifier : Qualifier} {qualifiers : List Qualifier}
    (hgap : IsBlanks gap) (hapart : apart = true → gap ≠ [])
    (hword : word.map Char.toLower = qualifier.word.toList) (hrest : Qualified true qualifiers rest) :
    Qualified apart (qualifier :: qualifiers) (gap ++ (word ++ rest))

/-- A size, or a size and a scale, in decimal digits. -/
inductive Sized : Nat → Option Nat → List Char → Prop where
  | size {size : Nat} {text : List Char} (hsize : size < UInt64.size) (htext : Padded (Nat.toDigits 10 size) text) :
    Sized size none text
  | scaled {size scale : Nat} {text text' : List Char} (hsize : size < UInt64.size)
    (htext : Padded (Nat.toDigits 10 size) text) (hscale : scale < UInt64.size)
    (htext' : Padded (Nat.toDigits 10 scale) text') :
    Sized size (some scale) (text ++ ',' :: text')

/-- A value as it stands between quotes: each quote in it is doubled. -/
def doubled (value : List Char) : List Char :=
  value.flatMap fun c => if c = '\x27' then ['\x27', '\x27'] else [c]

/-- A list of values in quotes, with commas between them. -/
inductive Listed : List String → List Char → Prop where
  | none {blanks : List Char} (hblanks : IsBlanks blanks) : Listed [] blanks
  | last {value : String} {text : List Char}
    (htext : Padded ('\x27' :: (doubled value.toList ++ ['\x27'])) text) : Listed [value] text
  | more {value next : String} {values : List String} {text rest : List Char}
    (htext : Padded ('\x27' :: (doubled value.toList ++ ['\x27'])) text) (hrest : Listed (next :: values) rest) :
    Listed (value :: next :: values) (text ++ ',' :: rest)

/-- A base name: letters, digits and underscores, at least one. -/
structure IsBase (base : List Char) : Prop where
  ne_nil : base ≠ []
  chars : ∀ c ∈ base, c.isAlphanum = true ∨ c = '_'

instance (base : List Char) : Decidable (IsBase base) :=
  decidable_of_iff (base ≠ [] ∧ base.all (fun c => c.isAlphanum || c == '_') = true)
    ⟨fun h => ⟨h.1, by simpa using h.2⟩, fun h => ⟨h.ne_nil, by simpa using h.chars⟩⟩

/-- The base name in small letters. -/
def baseName (base : List Char) : String :=
  String.ofList (base.map Char.toLower)

/-- The type with the flags of some qualifiers. -/
def flagged (type : FieldType) (qualifiers : List Qualifier) : FieldType :=
  { type with
    unsigned := type.unsigned || qualifiers.contains .unsigned
    zerofill := type.zerofill || qualifiers.contains .zerofill }

theorem flagged_nil (type : FieldType) : type.flagged [] = type := by
  simp [flagged]

theorem flagged_cons (type : FieldType) (qualifier : Qualifier) (qualifiers : List Qualifier) :
    type.flagged (qualifier :: qualifiers) = (type.flagged [qualifier]).flagged qualifiers := by
  simp [flagged, Bool.or_assoc]

/-- The texts that spell a type. -/
inductive Spells : FieldType → List Char → Prop where
  | bare {blanks base rest : List Char} {qualifiers : List Qualifier} (hblanks : IsBlanks blanks)
    (hbase : IsBase base) (hplain : baseName base ≠ "enum" ∧ baseName base ≠ "set")
    (hrest : Qualified true qualifiers rest) :
    Spells (flagged { base := baseName base } qualifiers) (blanks ++ (base ++ rest))
  | sized {blanks base gap inner rest : List Char} {size : Nat} {scale : Option Nat} {qualifiers : List Qualifier}
    (hblanks : IsBlanks blanks) (hbase : IsBase base) (hplain : baseName base ≠ "enum" ∧ baseName base ≠ "set")
    (hgap : IsBlanks gap) (hinner : Sized size scale inner) (hrest : Qualified false qualifiers rest) :
    Spells (flagged { base := baseName base, size := some size, scale } qualifiers)
      (blanks ++ (base ++ (gap ++ '(' :: (inner ++ ')' :: rest))))
  | listed {blanks base gap inner rest : List Char} {values : List String} {qualifiers : List Qualifier}
    (hblanks : IsBlanks blanks) (hbase : IsBase base) (hlist : baseName base = "enum" ∨ baseName base = "set")
    (hgap : IsBlanks gap) (hinner : Listed values inner) (hrest : Qualified false qualifiers rest) :
    Spells (flagged { base := baseName base, values } qualifiers)
      (blanks ++ (base ++ (gap ++ '(' :: (inner ++ ')' :: rest))))

section Qualifiers

theorem isWord_of_word {word : List Char} {qualifier : Qualifier}
    (hword : word.map Char.toLower = qualifier.word.toList) : IsWord word := by
  have hvisible : qualifier.word.toList.all (fun c => !Text.isBlank c) = true := by
    cases qualifier <;> decide
  constructor
  · rintro rfl
    cases qualifier <;> cases hword
  · intro c hc
    rw [← Text.isBlank_toLower]
    simpa using List.all_eq_true.1 hvisible _ (hword ▸ List.mem_map_of_mem hc)

theorem Qualified.endsWord {qualifiers : List Qualifier} {text : List Char} (htext : Qualified true qualifiers text) :
    EndsWord text := by
  cases htext with
  | done hblanks => exact fun c hc => hblanks c (List.mem_of_head? hc)
  | next hgap hapart _ _ => exact Text.IsGap.endsWord_append ⟨hapart rfl, hgap⟩ _

theorem qualify_of_word (input : String) (type : FieldType) {word : List Char} {qualifier : Qualifier}
    (hword : word.map Char.toLower = qualifier.word.toList) :
    qualify input type word = .ok (type.flagged [qualifier]) := by
  have hname : String.ofList (word.map Char.toLower) = qualifier.word := by rw [hword, String.ofList_toList]
  rw [qualify, hname]
  cases qualifier <;> simp [Qualifier.word, flagged]

/-- Each qualifier sets its flag, whatever the order. -/
theorem Qualified.foldlM_qualify (input : String) {apart : Bool} {qualifiers : List Qualifier} {text : List Char}
    (htext : Qualified apart qualifiers text) (type : FieldType) :
    (Text.words text).foldlM (qualify input) type = .ok (type.flagged qualifiers) := by
  induction htext generalizing type with
  | done hblanks =>
    rw [Text.words_eq_nil_iff.2 hblanks, flagged_nil]
    rfl
  | next hgap _ hword hrest ih =>
    rw [Text.words_append_of_blank hgap, (isWord_of_word hword).words_append hrest.endsWord, List.foldlM_cons,
      qualify_of_word input type hword]
    exact (ih _).trans (congrArg Except.ok (flagged_cons type _ _).symm)

end Qualifiers

section Sizes

theorem digitsValue_toDigits (n : Nat) : Text.digitsValue (Nat.toDigits 10 n) = n :=
  Nat.ofDigitChars_toDigits (by decide) (by decide)

theorem isDigit_of_mem_toDigits {n : Nat} {c : Char} (hc : c ∈ Nat.toDigits 10 n) : c.isDigit = true :=
  Nat.isDigit_of_mem_toDigits (by decide) (by decide) hc

/-- The decimal digits of a number of 64 bits are read as that number. -/
theorem readWord?_toDigits {n : Nat} (hn : n < UInt64.size) : Text.readWord? (Nat.toDigits 10 n) = some n := by
  have hdigits : (Nat.toDigits 10 n).all Char.isDigit = true :=
    List.all_eq_true.2 fun c hc => isDigit_of_mem_toDigits hc
  have hvalue : Text.digitsValue (Nat.toDigits 10 n) < Text.wordCount := by rwa [digitsValue_toDigits]
  unfold Text.readWord?
  dsimp only
  split
  · next rest hplus =>
    have hmem : '+' ∈ Nat.toDigits 10 n := hplus ▸ List.mem_cons_self
    exact absurd (isDigit_of_mem_toDigits hmem) (by decide)
  · rw [hdigits, if_neg (by simp [Nat.toDigits_ne_nil]), if_pos hvalue, digitsValue_toDigits]

theorem isWord_toDigits (n : Nat) : IsWord (Nat.toDigits 10 n) := by
  refine ⟨Nat.toDigits_ne_nil, fun c hc => ?_⟩
  have hdigit : 48 ≤ c.val ∧ c.val ≤ 57 := by simpa [Char.isDigit] using isDigit_of_mem_toDigits hc
  have hcode : 48 ≤ c.toNat ∧ c.toNat ≤ 57 := hdigit
  exact Text.isBlank_of_printable (by omega) (by omega)

/-- Blanks around a word are trimmed. -/
theorem Padded.trim_eq {part text : List Char} (hpart : IsWord part) (htext : Padded part text) :
    Text.trim text = part := by
  obtain ⟨hbefore, hafter⟩ := htext
  rw [hpart.trim_append hbefore, Text.trimEnd_of_blank hafter, List.append_nil]

/-- A visible character that is not in a part is not put there by blanks. -/
theorem Padded.not_mem {part text : List Char} {c : Char} (htext : Padded part text) (hc : Text.isBlank c = false)
    (hpart : c ∉ part) : c ∉ text := by
  obtain ⟨hbefore, hafter⟩ := htext
  have hblank : ∀ {blanks : List Char}, IsBlanks blanks → c ∉ blanks := fun hblanks hmem => by
    simp [hblanks c hmem] at hc
  simp [hblank hbefore, hblank hafter, hpart]

theorem not_mem_toDigits {c : Char} (hc : c.isDigit = false) (n : Nat) : c ∉ Nat.toDigits 10 n := fun hmem => by
  simp [isDigit_of_mem_toDigits hmem] at hc

theorem readWord?_padded {n : Nat} {text : List Char} (hn : n < UInt64.size) (htext : Padded (Nat.toDigits 10 n) text) :
    Text.readWord? (Text.trim text) = some n := by
  rw [htext.trim_eq (isWord_toDigits n), readWord?_toDigits hn]

theorem Padded.ne_nil {part text : List Char} (hpart : part ≠ []) (htext : Padded part text) : text ≠ [] := by
  obtain ⟨hbefore, hafter⟩ := htext
  simp [hpart]

/-- Size and scale are read, and they do not end early. -/
theorem Sized.read {size : Nat} {scale : Option Nat} {text : List Char} (htext : Sized size scale text) :
    text ≠ [] ∧ ')' ∉ text ∧ readSize? text = some (size, scale) := by
  cases htext with
  | size hsize htext =>
    have hcomma := htext.not_mem (c := ',') (by decide) (not_mem_toDigits (by decide) size)
    refine ⟨htext.ne_nil Nat.toDigits_ne_nil, htext.not_mem (by decide) (not_mem_toDigits (by decide) size), ?_⟩
    rw [readSize?, List.splitOn_eq_singleton hcomma, List.map_singleton, readWord?_padded hsize htext]
  | scaled hsize htext hscale htext' =>
    have hcomma := htext.not_mem (c := ',') (by decide) (not_mem_toDigits (by decide) size)
    have hcomma' := htext'.not_mem (c := ',') (by decide) (not_mem_toDigits (by decide) _)
    have hclosed := htext.not_mem (c := ')') (by decide) (not_mem_toDigits (by decide) size)
    have hclosed' := htext'.not_mem (c := ')') (by decide) (not_mem_toDigits (by decide) _)
    refine ⟨by simp, by simp [hclosed, hclosed'], ?_⟩
    rw [readSize?, List.splitOn_append_cons_self_of_not_mem hcomma, List.splitOn_eq_singleton hcomma', List.map_cons,
      List.map_singleton, readWord?_padded hsize htext, readWord?_padded hscale htext']

end Sizes

section Values

/-- A value ends at the first quote that is not doubled. -/
theorem readValue?_doubled (value : List Char) {after : List Char} (hafter : ∀ c ∈ after.head?, c ≠ '\x27') :
    readValue? (doubled value ++ '\x27' :: after) = some (value, after) := by
  induction value with
  | nil =>
    cases after with
    | nil => rfl
    | cons c after =>
      have hc := hafter c rfl
      simp [doubled, readValue?, hc]
  | cons c value ih =>
    by_cases hc : c = '\x27'
    · rw [hc]
      simp only [doubled, List.flatMap_cons, if_pos, List.cons_append, List.nil_append] at ih ⊢
      rw [readValue?, ih]
      rfl
    · simp only [doubled, List.flatMap_cons, if_neg hc, List.cons_append, List.nil_append] at ih ⊢
      rw [readValue?, if_neg hc, ih]
      · rfl
      · simp [hc]

theorem readValues?_close {cs rest : List Char} (hcs : cs.dropWhile isSeparator = ')' :: rest) :
    readValues? cs = some ([], rest) := by
  rw [readValues?]
  split
  · next heq =>
    rw [hcs] at heq
    cases heq
    rfl
  · next heq =>
    rw [hcs] at heq
    cases heq
  · next hclose _ => exact absurd hcs (hclose rest)

theorem readValues?_quote {cs rest value after : List Char} (hcs : cs.dropWhile isSeparator = '\x27' :: rest)
    (hvalue : readValue? rest = some (value, after)) :
    readValues? cs = (readValues? after).map fun read => (String.ofList value :: read.1, read.2) := by
  rw [readValues?]
  split
  · next heq =>
    rw [hcs] at heq
    cases heq
  · next heq =>
    rw [hcs] at heq
    cases heq
    split
    · next hnone =>
      rw [hvalue] at hnone
      cases hnone
    · next hsome =>
      rw [hvalue] at hsome
      cases hsome
      rfl
  · next hquote => exact absurd hcs (hquote rest)

theorem isSeparator_of_isBlanks {blanks : List Char} (hblanks : IsBlanks blanks) :
    ∀ c ∈ blanks, isSeparator c = true :=
  fun c hc => by simp [isSeparator, hblanks c hc]

/-- One value after separators is read, and the reading goes on behind it. -/
theorem readValues?_value {separators : List Char} (hseparators : ∀ c ∈ separators, isSeparator c = true)
    {value : String} {part : List Char} (hpart : Padded ('\x27' :: (doubled value.toList ++ ['\x27'])) part)
    (rest : List Char) (hrest : ∀ c ∈ rest.head?, c ≠ '\x27') :
    ∃ blanks, IsBlanks blanks ∧ readValues? (separators ++ (part ++ rest)) =
      (readValues? (blanks ++ rest)).map fun read => (value :: read.1, read.2) := by
  obtain @⟨before, after, hbefore, hafter⟩ := hpart
  refine ⟨after, hafter, ?_⟩
  have hbehind : ∀ c ∈ (after ++ rest).head?, c ≠ '\x27' := by
    cases after with
    | nil => exact hrest
    | cons d after =>
      rintro c ⟨⟩ rfl
      exact absurd (hafter _ List.mem_cons_self) (by decide)
  have hstart : (separators ++ (before ++ ('\x27' :: (doubled value.toList ++ ['\x27']) ++ after) ++ rest)).dropWhile
      isSeparator = '\x27' :: (doubled value.toList ++ '\x27' :: (after ++ rest)) := by
    rw [List.dropWhile_append_of_pos hseparators, List.append_assoc,
      List.dropWhile_append_of_pos (isSeparator_of_isBlanks hbefore)]
    simp [isSeparator, show Text.isBlank '\x27' = false by decide]
  rw [readValues?_quote hstart (readValue?_doubled value.toList hbehind), String.ofList_toList]

/-- The values of a list are read, whatever separators stand before it. -/
theorem Listed.read {values : List String} {text : List Char} (htext : Listed values text) {separators : List Char}
    (hseparators : ∀ c ∈ separators, isSeparator c = true) (rest : List Char) :
    readValues? (separators ++ (text ++ ')' :: rest)) = some (values, rest) := by
  have hclosed : ∀ {before : List Char}, (∀ c ∈ before, isSeparator c = true) →
      readValues? (before ++ ')' :: rest) = some ([], rest) := fun hbefore =>
    readValues?_close (by rw [List.dropWhile_append_of_pos hbefore]; rfl)
  induction htext generalizing separators with
  | none hblanks =>
    rw [← List.append_assoc]
    exact hclosed (List.forall_mem_append.2 ⟨hseparators, isSeparator_of_isBlanks hblanks⟩)
  | last htext =>
    obtain ⟨blanks, hblanks, hread⟩ := readValues?_value hseparators htext (')' :: rest) (by simp)
    rw [hread, hclosed (isSeparator_of_isBlanks hblanks)]
    rfl
  | @more value next values part others htext _ ih =>
    -- The comma is one of the separators before the next value.
    obtain ⟨blanks, hblanks, hread⟩ :=
      readValues?_value hseparators htext (',' :: (others ++ ')' :: rest)) (by simp)
    have hcomma : ∀ c ∈ blanks ++ [','], isSeparator c = true :=
      List.forall_mem_append.2 ⟨isSeparator_of_isBlanks hblanks, by simp [isSeparator]⟩
    have hothers := ih hcomma
    rw [List.append_assoc, List.singleton_append] at hothers
    rw [List.append_assoc, List.cons_append, hread, hothers]
    rfl

end Values

section Whole

theorem isBlank_of_isBaseChar {c : Char} (hc : isBaseChar c = true) : Text.isBlank c = false := by
  rcases Bool.or_eq_true_iff.1 hc with hletter | hunderscore
  · have hcode : 48 ≤ c.toNat ∧ c.toNat ≤ 122 := by
      rcases Bool.or_eq_true_iff.1 hletter with hletter | hdigit
      · rcases Bool.or_eq_true_iff.1 hletter with hupper | hlower
        · have hcode : 65 ≤ c.toNat ∧ c.toNat ≤ 90 := of_decide_eq_true hupper
          omega
        · have hcode : 97 ≤ c.toNat ∧ c.toNat ≤ 122 :=
            (Bool.and_eq_true_iff.1 hlower).imp of_decide_eq_true of_decide_eq_true
          omega
      · have hcode : 48 ≤ c.toNat ∧ c.toNat ≤ 57 :=
          (Bool.and_eq_true_iff.1 hdigit).imp of_decide_eq_true of_decide_eq_true
        omega
    exact Text.isBlank_of_printable (by omega) (by omega)
  · rw [beq_iff_eq.1 hunderscore]
    rfl

theorem IsBase.isBaseChar {base : List Char} (hbase : IsBase base) : ∀ c ∈ base, isBaseChar c = true :=
  fun c hc => by simpa [FieldType.isBaseChar] using hbase.chars c hc

theorem IsBase.isWord {base : List Char} (hbase : IsBase base) : IsWord base :=
  ⟨hbase.ne_nil, fun c hc => isBlank_of_isBaseChar (hbase.isBaseChar c hc)⟩

theorem isBaseChar_of_isBlank {c : Char} (hc : Text.isBlank c = true) : isBaseChar c = false := by
  by_contra hbase
  rw [isBlank_of_isBaseChar (Bool.not_eq_false _ ▸ hbase)] at hc
  cases hc

/-- A base name ends at the first character that is not one of its own. -/
theorem span_base {base rest : List Char} (hbase : IsBase base) (hrest : ∀ c ∈ rest.head?, isBaseChar c = false) :
    (base ++ rest).takeWhile isBaseChar = base ∧ (base ++ rest).dropWhile isBaseChar = rest := by
  rw [List.takeWhile_append_of_pos hbase.isBaseChar, List.dropWhile_append_of_pos hbase.isBaseChar]
  cases rest with
  | nil => simp
  | cons c rest => simp [hrest c rfl]

theorem mem_head?_of_trimEnd {rest : List Char} {c : Char} (hc : c ∈ (Text.trimEnd rest).head?) : c ∈ rest.head? := by
  obtain ⟨more, hmore⟩ := Text.trimEnd_prefix_self rest
  rw [← hmore, List.head?_append, Option.mem_def.1 hc]
  rfl

/-- Behind the base name the arguments are read, and behind them the qualifiers. -/
theorem read_of_arguments {blanks base rest : List Char} (hblanks : IsBlanks blanks) (hbase : IsBase base)
    (hrest : ∀ c ∈ rest.head?, isBaseChar c = false) {type type' : FieldType} {after : List Char} {input : String}
    (hinput : input = String.ofList (blanks ++ (base ++ rest)))
    (harguments : readArguments input { base := baseName base } (Text.trimStart (Text.trimEnd rest)) =
      .ok (type, after)) (hqualifiers : (Text.words after).foldlM (qualify input) type = .ok type') :
    read input = .ok type' := by
  have htrim : Text.trim input.toList = base ++ Text.trimEnd rest := by
    rw [hinput, String.toList_ofList, hbase.isWord.trim_append hblanks]
  obtain ⟨htake, hdrop⟩ := span_base hbase fun c hc => hrest c (mem_head?_of_trimEnd hc)
  have hsome : (base ++ Text.trimEnd rest).isEmpty = false := by simp [hbase.ne_nil]
  have hname : base.isEmpty = false := by simp [hbase.ne_nil]
  rw [baseName] at harguments
  simp only [read, htrim, htake, hdrop, hsome, hname, harguments]
  exact hqualifiers

theorem Qualified.not_mem_parenthesis {apart : Bool} {qualifiers : List Qualifier} {text : List Char}
    (htext : Qualified apart qualifiers text) : '(' ∉ text := by
  have hblank : ∀ {blanks : List Char}, IsBlanks blanks → '(' ∉ blanks := fun hblanks hmem =>
    absurd (hblanks _ hmem) (by decide)
  induction htext with
  | done hblanks => exact hblank hblanks
  | @next _ gap word rest qualifier _ hgap _ hword _ ih =>
    have hletters : '(' ∉ word := fun hmem => by
      have hlower : '(' ∈ qualifier.word.toList := hword ▸ List.mem_map_of_mem hmem
      revert hlower
      cases qualifier <;> decide
    simp [hblank hgap, hletters, ih]

/-- Trimming leaves what stands in parentheses as it is. -/
theorem trim_parentheses {gap : List Char} (hgap : IsBlanks gap) (inner rest : List Char) :
    Text.trimStart (Text.trimEnd (gap ++ '(' :: (inner ++ ')' :: rest))) =
      '(' :: (inner ++ ')' :: Text.trimEnd rest) := by
  have hend := @Text.trimEnd_append (gap ++ '(' :: (inner ++ [')'])) rest
    (by rw [← List.cons_append, ← List.append_assoc, List.getLast?_concat]; rintro c ⟨⟩; rfl) (by simp)
  simp only [List.append_assoc, List.cons_append, List.nil_append] at hend
  rw [hend, Text.trimStart, List.dropWhile_append_of_pos hgap]
  rfl

theorem isBaseChar_head?_parentheses {gap : List Char} (hgap : IsBlanks gap) (rest : List Char) :
    ∀ c ∈ (gap ++ '(' :: rest).head?, isBaseChar c = false := by
  cases gap with
  | nil =>
    rintro c ⟨⟩
    rfl
  | cons d gap =>
    rintro c ⟨⟩
    exact isBaseChar_of_isBlank (hgap _ List.mem_cons_self)

theorem readArguments_of_not_mem (input : String) (type : FieldType) {rest : List Char} (hrest : '(' ∉ rest) :
    readArguments input type rest = .ok (type, rest) := by
  unfold readArguments
  split
  · exact absurd List.mem_cons_self hrest
  · rfl

theorem readArguments_sized (input : String) {type : FieldType} (hplain : type.base ≠ "enum" ∧ type.base ≠ "set")
    {inner : List Char} {size : Nat} {scale : Option Nat} (hinner : Sized size scale inner) (rest : List Char) :
    readArguments input type ('(' :: (inner ++ ')' :: rest)) = .ok ({ type with size := some size, scale }, rest) := by
  obtain ⟨hne, hclosed, hread⟩ := hinner.read
  have hopen : ∀ c ∈ inner, (c != ')') = true := fun c hc => by
    rw [bne_iff_ne]
    rintro rfl
    exact hclosed hc
  have htake : (inner ++ ')' :: rest).takeWhile (· != ')') = inner := by
    rw [List.takeWhile_append_of_pos hopen]
    simp
  have hdrop : (inner ++ ')' :: rest).dropWhile (· != ')') = ')' :: rest := by
    rw [List.dropWhile_append_of_pos hopen]
    simp
  have hkind : ¬ (type.base = "enum" ∨ type.base = "set") := not_or.2 hplain
  simp only [readArguments, if_neg hkind, hdrop, htake, hread]
  rw [if_neg (by simpa using hne)]

theorem readArguments_listed (input : String) {type : FieldType} (hlist : type.base = "enum" ∨ type.base = "set")
    {inner : List Char} {values : List String} (hinner : Listed values inner) (rest : List Char) :
    readArguments input type ('(' :: (inner ++ ')' :: rest)) = .ok ({ type with values }, rest) := by
  have hread : readValues? (inner ++ ')' :: rest) = some (values, rest) :=
    @Listed.read _ _ hinner [] (by simp) rest
  simp only [readArguments, if_pos hlist, hread]

/-- What a text spells is what is read from it: the base name in small letters, the size and the scale or the values,
    and the flags of the qualifiers. -/
theorem read_of_spells {type : FieldType} {text : List Char} (hspells : Spells type text) :
    read (String.ofList text) = .ok type := by
  cases hspells with
  | @bare blanks base rest qualifiers hblanks hbase _ hrest =>
    have hnone : '(' ∉ Text.trimStart (Text.trimEnd rest) := fun hmem =>
      hrest.not_mem_parenthesis ((Text.trimEnd_prefix_self rest).subset ((List.dropWhile_sublist _).subset hmem))
    refine read_of_arguments hblanks hbase (fun c hc => isBaseChar_of_isBlank (hrest.endsWord c hc)) rfl
      (readArguments_of_not_mem _ _ hnone) ?_
    rw [Text.words_trimStart, Text.words_trimEnd]
    exact hrest.foldlM_qualify _ _
  | @sized blanks base gap inner rest size scale qualifiers hblanks hbase hplain hgap hinner hrest =>
    refine read_of_arguments hblanks hbase (isBaseChar_head?_parentheses hgap _) rfl
      (trim_parentheses hgap inner rest ▸ readArguments_sized _ hplain hinner _) ?_
    rw [Text.words_trimEnd]
    exact hrest.foldlM_qualify _ _
  | @listed blanks base gap inner rest values qualifiers hblanks hbase hlist hgap hinner hrest =>
    refine read_of_arguments hblanks hbase (isBaseChar_head?_parentheses hgap _) rfl
      (trim_parentheses hgap inner rest ▸ readArguments_listed _ hlist hinner _) ?_
    rw [Text.words_trimEnd]
    exact hrest.foldlM_qualify _ _

/-- The largest size, with blanks around it, and a qualifier that follows without a blank. -/
def largestDecimal : List Char :=
  "\tDeciMal (18446744073709551615 , 0)UNSIGNED ".toList

/-- Values that hold what could end them. -/
def trickyEnum : List Char :=
  "ENUM( 'it''s','),(' ,'''')\nsigned ZeroFill".toList

theorem spells_largestDecimal :
    Spells { base := "decimal", size := some 18446744073709551615, scale := some 0, unsigned := true }
      largestDecimal :=
  @Spells.sized "\t".toList "DeciMal".toList " ".toList "18446744073709551615 , 0".toList "UNSIGNED ".toList _ _
    [.unsigned] (by decide) (by decide) ⟨by decide, by decide⟩ (by decide)
    (@Sized.scaled _ _ "18446744073709551615 ".toList " 0".toList (by decide)
      (@Padded.intro _ [] " ".toList (by decide) (by decide)) (by decide)
      (@Padded.intro _ " ".toList [] (by decide) (by decide)))
    (@Qualified.next _ [] "UNSIGNED".toList " ".toList .unsigned [] (by decide) (by decide) (by decide)
      (.done (by decide)))

theorem spells_trickyEnum :
    Spells { base := "enum", zerofill := true, values := ["it's", "),(", "'"] } trickyEnum :=
  @Spells.listed [] "ENUM".toList [] " 'it''s','),(' ,''''".toList "\nsigned ZeroFill".toList _ [.signed, .zerofill]
    (by decide) (by decide) (by decide) (by decide)
    (@Listed.more "it's" _ _ " 'it''s'".toList "'),(' ,''''".toList
      (@Padded.intro _ " ".toList [] (by decide) (by decide))
      (@Listed.more "),(" _ _ "'),(' ".toList "''''".toList
        (@Padded.intro _ [] " ".toList (by decide) (by decide))
        (@Listed.last "'" "''''".toList (@Padded.intro _ [] [] (by decide) (by decide)))))
    (@Qualified.next _ "\n".toList "signed".toList " ZeroFill".toList .signed _ (by decide) (by decide) (by decide)
      (@Qualified.next _ " ".toList "ZeroFill".toList [] .zerofill _ (by decide) (by decide) (by decide)
        (.done (by decide))))

theorem read_of_spells_trickyEnum :
    read (String.ofList largestDecimal) =
      .ok { base := "decimal", size := some 18446744073709551615, scale := some 0, unsigned := true } ∧
    read (String.ofList trickyEnum) = .ok { base := "enum", zerofill := true, values := ["it's", "),(", "'"] } :=
  ⟨read_of_spells spells_largestDecimal, read_of_spells spells_trickyEnum⟩

end Whole

end FieldType

end AnnotatedSql
