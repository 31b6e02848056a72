import AnnotatedSql.Proofs.Sql.Enclosed
import AnnotatedSql.Source.Piece
import Mathlib.Data.List.Basic
import Mathlib.Data.List.TakeWhile

/-!
Quoted texts as the two readers of a source see them: the one that looks for statements, and the one that makes tokens.
Each of their functions reads a quoted text as far as its body goes (`QuotedBody`). A body is the same with and without
escapes, unless a quote in it stands behind a backslash.
-/
namespace AnnotatedSql.Source

open Sql.Lexer (quoted? escapedText? unicodeText? escape? hexValue? isHexDigit isOctalDigit)

/-- What stands behind an opening quote, up to the quote that closes it. -/
inductive QuotedBody (escapes : Bool) (quote : Char) : List Char → Prop where
  | close : QuotedBody escapes quote [quote]
  | doubled {body : List Char} : QuotedBody escapes quote body → QuotedBody escapes quote (quote :: quote :: body)
  | escaped {body : List Char} (c : Char) : escapes = true → QuotedBody escapes quote body →
      QuotedBody escapes quote ('\\' :: c :: body)
  | plain {body : List Char} {c : Char} : c ≠ quote → (escapes = true → c ≠ '\\') → QuotedBody escapes quote body →
      QuotedBody escapes quote (c :: body)

/-- Whether a quote stands behind a backslash, which is not itself behind one. -/
def escapesQuote (quote : Char) : List Char → Bool
  | [] => false
  | '\\' :: c :: rest => c == quote || escapesQuote quote rest
  | _ :: rest => escapesQuote quote rest

theorem escapesQuote_cons {quote c : Char} (hc : c ≠ '\\') (rest : List Char) :
    escapesQuote quote (c :: rest) = escapesQuote quote rest := by
  rw [escapesQuote]
  rintro d rest rfl
  exact absurd rfl hc

namespace QuotedBody

variable {escapes : Bool} {quote : Char} {body : List Char}

theorem ne_nil (hbody : QuotedBody escapes quote body) : body ≠ [] := by
  cases hbody <;> simp

theorem append_plain {front : List Char} (hfront : ∀ c ∈ front, c ≠ quote ∧ c ≠ '\\')
    (hbody : QuotedBody escapes quote body) : QuotedBody escapes quote (front ++ body) := by
  induction front with
  | nil => exact hbody
  | cons c front ih =>
    obtain ⟨⟨hquote, hslash⟩, hrest⟩ := List.forall_mem_cons.1 hfront
    exact .plain hquote (fun _ => hslash) (ih hrest)

/-- Looking for statements, a quoted text is taken to the end of its body. -/
theorem quotedRest_eq (hbody : QuotedBody escapes quote body) (hquote : quote ≠ '\\') {rest : List Char}
    (hrest : rest.head? ≠ some quote) : quotedRest escapes quote (body ++ rest) = (body, rest) := by
  induction hbody with
  | close =>
    cases rest with
    | nil => rfl
    | cons d rest =>
      have hd : d ≠ quote := by simpa using hrest
      simp [quotedRest, hquote, hd]
  | doubled _ ih => simp [quotedRest, ih]
  | escaped c hescapes _ ih =>
    subst hescapes
    simp [quotedRest, ih]
  | @plain body c hc hslash hbody ih =>
    obtain ⟨d, body, rfl⟩ := List.exists_cons_of_ne_nil hbody.ne_nil
    have hpair : (escapes && c == '\\') = false := by
      cases escapes
      · rfl
      · simpa using hslash rfl
    simp only [List.cons_append] at ih
    simp [quotedRest, hpair, hc, ih]

private theorem of_escapes {body : List Char} (hbody : QuotedBody true quote body) (hquote : quote ≠ '\\')
    (hnone : escapesQuote quote body = false) : QuotedBody false quote body := by
  induction hbody with
  | close => exact .close
  | doubled _ ih =>
    rw [escapesQuote_cons hquote, escapesQuote_cons hquote] at hnone
    exact .doubled (ih hnone)
  | escaped c _ _ ih =>
    rw [escapesQuote, Bool.or_eq_false_iff] at hnone
    exact .plain (Ne.symm hquote) (by simp) (.plain (by simpa using hnone.1) (by simp) (ih hnone.2))
  | plain hc hslash _ ih =>
    rw [escapesQuote_cons (hslash rfl)] at hnone
    exact .plain hc (by simp) (ih hnone)

private theorem to_escapes {body : List Char} (hbody : QuotedBody false quote body) (hquote : quote ≠ '\\')
    (hnone : escapesQuote quote body = false) : QuotedBody true quote body := by
  cases hbody with
  | close => exact .close
  | doubled hbody =>
    rw [escapesQuote_cons hquote, escapesQuote_cons hquote] at hnone
    exact .doubled (to_escapes hbody hquote hnone)
  | escaped c hescapes => cases hescapes
  | @plain body c hc _ hbody =>
    by_cases hslash : c = '\\'
    · subst hslash
      -- The backslash takes the next character with it, which is no quote and so stands for itself.
      cases hbody with
      | close => simp [escapesQuote] at hnone
      | doubled _ => simp [escapesQuote] at hnone
      | escaped _ hescapes => cases hescapes
      | @plain body d _ _ hbody =>
        rw [escapesQuote, Bool.or_eq_false_iff] at hnone
        exact .escaped d rfl (to_escapes hbody hquote hnone.2)
    · rw [escapesQuote_cons hslash] at hnone
      exact .plain hc (fun _ => hslash) (to_escapes hbody hquote hnone)
termination_by body.length

/-- Where no quote is escaped, it makes no difference whether backslashes escape. -/
theorem of_escapesQuote_eq_false (hbody : QuotedBody escapes quote body) (hquote : quote ≠ '\\')
    (hnone : escapesQuote quote body = false) (other : Bool) : QuotedBody other quote body := by
  cases escapes <;> cases other
  · exact hbody
  · exact hbody.to_escapes hquote hnone
  · exact hbody.of_escapes hquote hnone
  · exact hbody

end QuotedBody

/-- A text that is taken up to some character ends with the body of a quoted text. -/
def EndsQuoted (escapes : Bool) (quote : Char) (cs : List Char) (n : Nat) : Prop :=
  QuotedBody escapes quote (cs.take n) ∧ (cs.drop n).head? ≠ some quote

theorem EndsQuoted.quotedRest_eq {escapes : Bool} {quote : Char} {cs : List Char} {n : Nat}
    (hends : EndsQuoted escapes quote cs n) (hquote : quote ≠ '\\') :
    quotedRest escapes quote cs = (cs.take n, cs.drop n) := by
  have h := hends.1.quotedRest_eq hquote hends.2
  rwa [List.take_append_drop] at h

/-- The quote that closes a text is not written twice. -/
theorem EndsQuoted.close {escapes : Bool} {quote : Char} {rest : List Char} (hrest : ∀ cs, rest ≠ quote :: cs) :
    EndsQuoted escapes quote (quote :: rest) 1 := by
  refine ⟨.close, ?_⟩
  rw [List.drop_succ_cons, List.drop_zero]
  intro hhead
  obtain ⟨cs, hcs⟩ := List.head?_eq_some_iff.1 hhead
  exact hrest cs hcs

theorem endsQuoted_of_quoted? {escapes : Bool} {quote : Char} {cs text : List Char} {n : Nat}
    (hquoted : quoted? escapes quote cs = some (text, n)) : EndsQuoted escapes quote cs n := by
  fun_induction quoted? escapes quote cs generalizing text n with
  | case1 => cases hquoted
  | case2 =>
    cases hquoted
    exact .close (by simp)
  | case3 => cases hquoted
  | case4 rest ih =>
    obtain ⟨⟨text, m⟩, hm, heq⟩ := Option.map_eq_some_iff.1 hquoted
    cases heq
    exact ⟨.doubled (ih hm).1, (ih hm).2⟩
  | case5 d rest hd =>
    cases hquoted
    exact .close (by simp [hd])
  | case6 c d rest hc hescapes ih =>
    obtain ⟨⟨text, m⟩, hm, heq⟩ := Option.map_eq_some_iff.1 hquoted
    cases heq
    simp only [Bool.and_eq_true, beq_iff_eq] at hescapes
    obtain ⟨hescapes, rfl⟩ := hescapes
    exact ⟨.escaped d hescapes (ih hm).1, (ih hm).2⟩
  | case7 c d rest hc hescapes ih =>
    obtain ⟨⟨text, m⟩, hm, heq⟩ := Option.map_eq_some_iff.1 hquoted
    cases heq
    have hslash : escapes = true → c ≠ '\\' := by
      rintro rfl rfl
      exact hescapes rfl
    exact ⟨.plain hc hslash (ih hm).1, (ih hm).2⟩

theorem ne_of_isHexDigit {c : Char} (hc : isHexDigit c = true) : c ≠ '\x27' ∧ c ≠ '\\' := by
  constructor <;> rintro rfl <;> exact absurd hc (by decide)

theorem isHexDigit_of_hexValue? {cs : List Char} {value : Nat} (hvalue : hexValue? cs = some value) :
    ∀ c ∈ cs, isHexDigit c = true := by
  suffices h : ∀ (cs : List Char) (start value : Nat), (cs.foldlM (fun value c =>
      if c.isDigit then some (16 * value + (c.toNat - 48))
      else if 'a' ≤ c ∧ c ≤ 'f' then some (16 * value + (c.toNat - 87))
      else if 'A' ≤ c ∧ c ≤ 'F' then some (16 * value + (c.toNat - 55))
      else none) start) = some value → ∀ c ∈ cs, isHexDigit c = true from h cs 0 value hvalue
  intro cs
  induction cs with
  | nil => simp
  | cons c cs ih =>
    intro start value hvalue
    rw [List.foldlM_cons] at hvalue
    obtain ⟨next, hnext, hrest⟩ := Option.bind_eq_some_iff.1 hvalue
    refine List.forall_mem_cons.2 ⟨?_, ih next value hrest⟩
    grind [isHexDigit]

theorem ne_of_signedCode? {cs : List Char} {char : Char} (hcode : Sql.Lexer.signedCode? cs = some char) :
    ∀ c ∈ cs, c ≠ '\x27' ∧ c ≠ '\\' := by
  intro c hc
  unfold Sql.Lexer.signedCode? at hcode
  obtain ⟨value, hvalue, -⟩ := Option.bind_eq_some_iff.1 hcode
  have hdigits := isHexDigit_of_hexValue? hvalue
  by_cases hplus : cs.head? = some '+'
  · obtain ⟨rest, rfl⟩ := List.head?_eq_some_iff.1 hplus
    rcases List.mem_cons.1 hc with rfl | hc
    · decide
    · exact ne_of_isHexDigit (hdigits c (by simpa using hc))
  · exact ne_of_isHexDigit (hdigits c (by simpa [hplus] using hc))

private theorem take_length_takeWhile (p : Char → Bool) (cs : List Char) (size : Nat) :
    cs.take ((cs.take size).takeWhile p).length = (cs.take size).takeWhile p :=
  (List.prefix_iff_eq_take.1 ((List.takeWhile_prefix p).trans (List.take_prefix size cs))).symm

/-- Behind its first character an escape has neither a quote nor a backslash. -/
theorem take_of_escape? {cs : List Char} {c : Char} {size : Nat} (hescape : escape? cs = some (c, size)) :
    ∃ d digits, cs.take size = d :: digits ∧ ∀ x ∈ digits, x ≠ '\x27' ∧ x ≠ '\\' := by
  cases cs with
  | nil => cases hescape
  | cons d rest =>
    have hsingle : size = 1 →
        ∃ e digits, (d :: rest).take size = e :: digits ∧ ∀ x ∈ digits, x ≠ '\x27' ∧ x ≠ '\\' := by
      rintro rfl
      exact ⟨d, [], rfl, by simp⟩
    by_cases hcode : d = 'u' ∨ d = 'U'
    · have hd : d ≠ 'b' ∧ d ≠ 'f' ∧ d ≠ 'n' ∧ d ≠ 'r' ∧ d ≠ 't' := by rcases hcode with rfl | rfl <;> decide
      simp only [escape?, hd, if_false] at hescape
      rw [if_pos hcode] at hescape
      generalize (if d = 'u' then 4 else 8) = count at hescape
      split at hescape
      · cases hescape
      · obtain ⟨char, hchar, heq⟩ := Option.map_eq_some_iff.1 hescape
        cases heq
        exact ⟨d, _, List.take_succ_cons, ne_of_signedCode? hchar⟩
    by_cases hx : d = 'x'
    · subst hx
      simp only [escape?, Char.reduceEq, or_self, if_true, if_false] at hescape
      split at hescape
      · cases hescape
        exact hsingle rfl
      · obtain ⟨char, -, heq⟩ := Option.map_eq_some_iff.1 hescape
        cases heq
        refine ⟨'x', _, List.take_succ_cons, ?_⟩
        rw [take_length_takeWhile]
        exact fun x hx => ne_of_isHexDigit (List.mem_takeWhile_imp hx)
    by_cases hoctal : isOctalDigit d = true
    · have hd : d ≠ 'b' ∧ d ≠ 'f' ∧ d ≠ 'n' ∧ d ≠ 'r' ∧ d ≠ 't' := by
        refine ⟨?_, ?_, ?_, ?_, ?_⟩ <;> rintro rfl <;> exact absurd hoctal (by decide)
      simp only [escape?, hd, hcode, hx, hoctal, if_true, if_false] at hescape
      obtain ⟨char, -, heq⟩ := Option.map_eq_some_iff.1 hescape
      cases heq
      refine ⟨d, _, List.take_succ_cons, ?_⟩
      rw [take_length_takeWhile]
      intro x hmem
      have hdigit := List.mem_takeWhile_imp hmem
      constructor <;> rintro rfl <;> exact absurd hdigit (by decide)
    · apply hsingle
      grind [escape?]

theorem endsQuoted_of_escapedText? {cs text : List Char} {n : Nat} (htext : escapedText? cs = some (text, n)) :
    EndsQuoted true '\x27' cs n := by
  fun_induction escapedText? cs generalizing text n with
  | case1 => cases htext
  | case2 rest ih =>
    obtain ⟨⟨text, m⟩, hm, heq⟩ := Option.map_eq_some_iff.1 htext
    cases heq
    exact ⟨.doubled (ih hm).1, (ih hm).2⟩
  | case3 rest hsingle =>
    cases htext
    exact .close hsingle
  | case4 => cases htext
  | case5 => cases htext
  | case6 rest c size hescape hnul ih =>
    obtain ⟨⟨text, m⟩, hm, heq⟩ := Option.map_eq_some_iff.1 htext
    cases heq
    obtain ⟨hbody, hhead⟩ := ih hm
    obtain ⟨d, digits, htake, hdigits⟩ := take_of_escape? hescape
    have htaken : rest.take (m + size) = d :: (digits ++ (rest.drop size).take m) := by
      rw [Nat.add_comm, List.take_add, htake, List.cons_append]
    constructor
    · rw [List.take_succ_cons, htaken]
      exact .escaped d rfl (hbody.append_plain hdigits)
    · rwa [List.drop_succ_cons, Nat.add_comm, ← List.drop_drop]
  | case7 c rest _ hquote hslash ih =>
    obtain ⟨⟨text, m⟩, hm, heq⟩ := Option.map_eq_some_iff.1 htext
    cases heq
    exact ⟨.plain hquote (fun _ => hslash) (ih hm).1, (ih hm).2⟩

theorem endsQuoted_of_unicodeText? {cs text : List Char} {n : Nat} (htext : unicodeText? cs = some (text, n)) :
    EndsQuoted false '\x27' cs n := by
  fun_induction unicodeText? cs generalizing text n with
  | case1 => cases htext
  | case2 rest ih =>
    obtain ⟨⟨text, m⟩, hm, heq⟩ := Option.map_eq_some_iff.1 htext
    cases heq
    exact ⟨.doubled (ih hm).1, (ih hm).2⟩
  | case3 rest hsingle =>
    cases htext
    exact .close hsingle
  | case4 rest ih =>
    obtain ⟨⟨text, m⟩, hm, heq⟩ := Option.map_eq_some_iff.1 htext
    cases heq
    exact ⟨.plain (by decide) (by simp) (.plain (by decide) (by simp) (ih hm).1), (ih hm).2⟩
  | case5 a b c d e f rest ih =>
    obtain ⟨char, hchar, htext⟩ := Option.bind_eq_some_iff.1 htext
    obtain ⟨value, hvalue, -⟩ := Option.bind_eq_some_iff.1 hchar
    obtain ⟨⟨text, m⟩, hm, heq⟩ := Option.map_eq_some_iff.1 htext
    cases heq
    have hdigits : ∀ x ∈ [a, b, c, d, e, f], x ≠ '\x27' ∧ x ≠ '\\' :=
      fun x hx => ne_of_isHexDigit (isHexDigit_of_hexValue? hvalue x hx)
    exact ⟨.plain (by decide) (by simp) (.plain (by decide) (by simp) ((ih hm).1.append_plain hdigits)), (ih hm).2⟩
  | case6 => cases htext
  | case7 a b c d rest _ _ _ ih =>
    obtain ⟨char, hchar, htext⟩ := Option.bind_eq_some_iff.1 htext
    obtain ⟨value, hvalue, -⟩ := Option.bind_eq_some_iff.1 hchar
    obtain ⟨⟨text, m⟩, hm, heq⟩ := Option.map_eq_some_iff.1 htext
    cases heq
    have hdigits : ∀ x ∈ [a, b, c, d], x ≠ '\x27' ∧ x ≠ '\\' :=
      fun x hx => ne_of_isHexDigit (isHexDigit_of_hexValue? hvalue x hx)
    exact ⟨.plain (by decide) (by simp) ((ih hm).1.append_plain hdigits), (ih hm).2⟩
  | case8 => cases htext
  | case9 c rest _ hquote _ _ _ _ _ ih =>
    obtain ⟨⟨text, m⟩, hm, heq⟩ := Option.map_eq_some_iff.1 htext
    cases heq
    exact ⟨.plain hquote (by simp) (ih hm).1, (ih hm).2⟩

end AnnotatedSql.Source
