import AnnotatedSql.Dialect
import AnnotatedSql.Proofs.Sql.Lexer

/-!
Identifiers among the tokens of a text. An identifier is spelled plainly if that keeps its letters, and in quotes
otherwise; either way it is one word of the text (`tokens_quoteIdentifier`).
-/
namespace AnnotatedSql

/-- The word that the spelling of an identifier makes. -/
def Dialect.nameWord (dialect : Dialect) (text : String) : Sql.Word :=
  if dialect.isPlainName text then .plain text else .quoted dialect.nameQuote text

namespace Sql

namespace Lexer

/-- Letters of ASCII, and the underscore. -/
def startsWord (c : Char) : Bool :=
  c.isAlpha || c == '_'

/-- Letters and digits of ASCII, and the underscore. -/
def continuesWord (c : Char) : Bool :=
  c.isAlphanum || c == '_'

theorem toNat_of_isAlpha {c : Char} (hc : c.isAlpha = true) : 65 ≤ c.toNat ∧ c.toNat ≤ 122 := by
  rcases Bool.or_eq_true_iff.1 hc with hupper | hlower
  · have hcode : 65 ≤ c.toNat ∧ c.toNat ≤ 90 := of_decide_eq_true hupper
    omega
  · have hcode : 97 ≤ c.toNat ∧ c.toNat ≤ 122 :=
      (Bool.and_eq_true_iff.1 hlower).imp of_decide_eq_true of_decide_eq_true
    omega

theorem isAlphabetic_of_isAlpha {c : Char} (hc : c.isAlpha = true) : Text.isAlphabetic c = true := by
  have hcode := toNat_of_isAlpha hc
  rw [Text.isAlphabetic, if_pos (by omega), hc]

theorem isDigit_of_startsWord {c : Char} (hc : startsWord c = true) : c.isDigit = false := by
  rcases Bool.or_eq_true_iff.1 hc with halpha | hunderscore
  · have hcode := toNat_of_isAlpha halpha
    refine Bool.eq_false_iff.2 fun hdigit => ?_
    have hrange : 48 ≤ c.toNat ∧ c.toNat ≤ 57 :=
      (Bool.and_eq_true_iff.1 hdigit).imp of_decide_eq_true of_decide_eq_true
    omega
  · rw [beq_iff_eq.1 hunderscore]
    rfl

theorem isNameStart_of_startsWord (grammar : Grammar) {c : Char} (hc : startsWord c = true) :
    grammar.isNameStart c = true := by
  rcases Bool.or_eq_true_iff.1 hc with halpha | hunderscore
  · cases grammar <;> simp [Grammar.isNameStart, isAlphabetic_of_isAlpha halpha]
  · rw [beq_iff_eq.1 hunderscore]
    cases grammar <;> rfl

theorem isNamePart_of_continuesWord (grammar : Grammar) {c : Char} (hc : continuesWord c = true) :
    grammar.isNamePart c = true := by
  rcases Bool.or_eq_true_iff.1 hc with halnum | hunderscore
  · rcases Bool.or_eq_true_iff.1 halnum with halpha | hdigit
    · cases grammar <;> simp [Grammar.isNamePart, Grammar.isNameStart, isAlphabetic_of_isAlpha halpha]
    · cases grammar <;> simp [Grammar.isNamePart, hdigit]
  · rw [beq_iff_eq.1 hunderscore]
    cases grammar <;> rfl

theorem toNat_of_continuesWord {c : Char} (hc : continuesWord c = true) : c.toNat < 128 := by
  rcases Bool.or_eq_true_iff.1 hc with halnum | hunderscore
  · rcases Bool.or_eq_true_iff.1 halnum with halpha | hdigit
    · have hcode := toNat_of_isAlpha halpha
      omega
    · have hcode : c.toNat ≤ 57 := of_decide_eq_true (Bool.and_eq_true_iff.1 hdigit).2
      omega
  · rw [beq_iff_eq.1 hunderscore]
    decide

theorem symbolRules_of_startsWord (grammar : Grammar) {c : Char} (hc : startsWord c = true) :
    symbolRules grammar c = [] := by
  unfold symbolRules
  split
  case h_26 => rfl
  all_goals exact absurd hc (by decide)

theorem symbol?_of_startsWord (grammar : Grammar) {c : Char} (hc : startsWord c = true) (cs : List Char) :
    symbol? grammar c cs = none := by
  have hcomment : comment? grammar c cs = none := by
    unfold comment?
    split
    case h_4 => rfl
    all_goals exact absurd hc (by decide)
  have hquestion : (c == '?') = false := by
    rw [beq_eq_false_iff_ne]
    rintro rfl
    cases hc
  rw [symbol?, hcomment, hquestion, symbolRules_of_startsWord grammar hc]
  rfl

/-- No letter opens a literal unless a quote or `&` follows it. -/
theorem letterLiteral?_of_head {grammar : Grammar} {c : Char} {cs : List Char}
    (hhead : ∀ d ∈ cs.head?, d ≠ '\x27' ∧ d ≠ '"' ∧ d ≠ '&') : letterLiteral? grammar c cs = none := by
  have hrules : ∀ rule ∈ literalRules grammar c.toLower, ¬ rule.opening.isPrefixOf cs = true := by
    intro rule hrule hopening
    have hfirst : ∃ d more, rule.opening = d :: more ∧ (d = '\x27' ∨ d = '"' ∨ d = '&') := by
      unfold literalRules at hrule
      split at hrule <;> grind
    obtain ⟨d, more, heq, hd⟩ := hfirst
    obtain ⟨others, rfl⟩ := List.isPrefixOf_iff_prefix.1 hopening
    obtain ⟨hsingle, hdouble, hand⟩ := hhead d (by simp [heq])
    rcases hd with rfl | rfl | rfl <;> contradiction
  rw [letterLiteral?, List.find?_eq_none.2 hrules, Option.map_none]

/-- What starts like a word opens no literal, is no symbol and no number. -/
theorem scan_of_startsWord {grammar : Grammar} {c : Char} {cs : List Char} (hc : startsWord c = true)
    (hliteral : letterLiteral? grammar c cs = none) : scan grammar c cs = wordOrOther grammar c cs := by
  have hne : ∀ d, startsWord d = false → c ≠ d := by
    rintro d hd rfl
    rw [hc] at hd
    cases hd
  have hquote : grammar.isNameQuote c = false := by
    cases grammar <;> simp [Grammar.isNameQuote, hne '"' rfl, hne '\x60' rfl]
  simp [scan, scanPlain, hliteral, hquote, isDigit_of_startsWord hc, symbol?_of_startsWord grammar hc, hne ' ' rfl,
    hne '\t' rfl, hne '\n' rfl, hne '\r' rfl, hne '\x27' rfl, hne '"' rfl, hne '.' rfl]

/-- A word of letters, digits and underscores ends before a blank. -/
theorem scan_word (grammar : Grammar) {c : Char} {cs rest : List Char} (hc : startsWord c = true)
    (hcs : ∀ d ∈ cs, continuesWord d = true) (hrest : ∀ d ∈ rest.head?, d = ' ') :
    scan grammar c (cs ++ rest) = some (.word (.plain (String.ofList (c :: cs))), cs.length) := by
  have hliteral : letterLiteral? grammar c (cs ++ rest) = none := by
    have hhead : ∀ d ∈ (cs ++ rest).head?, continuesWord d = true ∨ d = ' ' := by
      intro d hd
      cases cs with
      | nil => exact .inr (hrest d hd)
      | cons e cs =>
        cases hd
        exact .inl (hcs _ List.mem_cons_self)
    refine letterLiteral?_of_head fun d hd => ⟨?_, ?_, ?_⟩ <;> rintro rfl <;> exact absurd (hhead _ hd) (by decide)
  have hpart : (cs ++ rest).takeWhile grammar.isNamePart = cs := by
    rw [List.takeWhile_append_of_pos fun d hd => isNamePart_of_continuesWord grammar (hcs d hd)]
    cases rest with
    | nil => simp
    | cons d rest =>
      rw [hrest d rfl, List.takeWhile_cons_of_neg (by cases grammar <;> decide), List.append_nil]
  have hpoint : (c == '.') = false := by
    rw [beq_eq_false_iff_ne]
    rintro rfl
    cases hc
  have hname : name grammar [c] (cs ++ rest) = (.word (.plain (String.ofList (c :: cs))), cs.length) := by
    simp [name, hpart, isDigit_of_startsWord hc, hpoint]
  rw [scan_of_startsWord hc hliteral, wordOrOther, hname, letterWord, hpart,
    if_pos (isNameStart_of_startsWord grammar hc), ite_self]

/-- A text in quotes ends at the first quote that is not doubled. -/
theorem quoted?_doubled (quote : Char) (text : List Char) {after : List Char} (hafter : quote ∉ after.head?) :
    quoted? false quote (text.flatMap (fun c => if c = quote then [c, c] else [c]) ++ quote :: after) =
      some (text, (text.flatMap fun c => if c = quote then [c, c] else [c]).length + 1) := by
  induction text with
  | nil =>
    cases after with
    | nil => simp [quoted?]
    | cons d after =>
      have hd : d ≠ quote := fun heq => hafter (by simp [heq])
      simp [quoted?, hd]
  | cons c text ih =>
    by_cases hc : c = quote
    · simp [hc, quoted?, ih]
    · obtain ⟨d, more, hmore⟩ := List.exists_cons_of_ne_nil (show
        text.flatMap (fun c => if c = quote then [c, c] else [c]) ++ quote :: after ≠ [] by simp)
      rw [hmore] at ih
      simp [hc, hmore, quoted?, ih]

end Lexer

open Lexer

theorem tokens_space (grammar : Grammar) (rest : List Char) : tokens grammar (' ' :: rest) = tokens grammar rest := by
  rw [tokens_cons (show scan grammar ' ' rest = some (.blank, 0) from rfl)]
  simp [visible]

theorem tokens_word (grammar : Grammar) {c : Char} {cs rest : List Char} (hc : startsWord c = true)
    (hcs : ∀ d ∈ cs, continuesWord d = true) (hrest : ∀ d ∈ rest.head?, d = ' ') :
    tokens grammar (c :: cs ++ rest) =
      (tokens grammar rest).map (.word (.plain (String.ofList (c :: cs))) :: ·) := by
  rw [List.cons_append, tokens_cons (scan_word grammar hc hcs hrest), List.drop_left]
  rfl

theorem continuesWord_of_isPlainNameChar {dialect : Dialect} {c : Char} (hc : dialect.isPlainNameChar c = true) :
    continuesWord c = true := by
  cases dialect with
  | postgreSQL =>
    rcases Bool.or_eq_true_iff.1 hc with hletter | hunderscore
    · have halnum : c.isAlphanum = true := by
        rcases Bool.or_eq_true_iff.1 hletter with hlower | hdigit
        · exact Bool.or_eq_true_iff.2 (.inl (Bool.or_eq_true_iff.2 (.inr hlower)))
        · exact Bool.or_eq_true_iff.2 (.inr hdigit)
      exact Bool.or_eq_true_iff.2 (.inl halnum)
    · exact Bool.or_eq_true_iff.2 (.inr hunderscore)
  | mySQL => exact hc

/-- A plain name is a word of letters, digits and underscores. -/
theorem exists_of_isPlainName {dialect : Dialect} {text : String} (hplain : dialect.isPlainName text = true) :
    ∃ c cs, text.toList = c :: cs ∧ startsWord c = true ∧ ∀ d ∈ c :: cs, continuesWord d = true := by
  unfold Dialect.isPlainName at hplain
  split at hplain
  · cases hplain
  · next c cs htext =>
    obtain ⟨hstart, hall⟩ := Bool.and_eq_true_iff.1 hplain
    exact ⟨c, cs, htext, hstart, fun d hd => continuesWord_of_isPlainNameChar (List.all_eq_true.1 hall d hd)⟩

/-- The spelling of an identifier is one word. -/
theorem tokens_quoteIdentifier (dialect : Dialect) (text : String) {rest : List Char}
    (hrest : ∀ d ∈ rest.head?, d = ' ') :
    tokens dialect.grammar ((dialect.quoteIdentifier text).toList ++ rest) =
      (tokens dialect.grammar rest).map (.word (dialect.nameWord text) :: ·) := by
  rw [Dialect.quoteIdentifier, Dialect.nameWord]
  split
  · next hplain =>
    obtain ⟨c, cs, htext, hstart, hparts⟩ := exists_of_isPlainName hplain
    rw [htext, tokens_word _ hstart (fun d hd => hparts d (List.mem_cons_of_mem c hd)) hrest, ← htext,
      String.ofList_toList]
  · have hafter : dialect.nameQuote ∉ rest.head? := fun hquote => by
      have hblank := hrest _ hquote
      cases dialect <;> cases hblank
    have hquoted := quoted?_doubled dialect.nameQuote text.toList hafter
    have hscan : ∀ cs, scan dialect.grammar dialect.nameQuote cs =
        (quoted? false dialect.nameQuote cs).map fun read =>
          (.word (.quoted dialect.nameQuote (String.ofList read.1)), read.2) := fun cs => by
      cases dialect <;> rfl
    have hread := hscan (text.toList.flatMap (fun c => if c = dialect.nameQuote then [c, c] else [c]) ++
      dialect.nameQuote :: rest)
    rw [hquoted, Option.map_some, String.ofList_toList] at hread
    rw [Dialect.quoteName, String.toList_ofList, List.append_assoc, List.singleton_append, List.cons_append,
      tokens_cons hread, List.drop_length_add_append]
    rfl

end Sql

end AnnotatedSql
