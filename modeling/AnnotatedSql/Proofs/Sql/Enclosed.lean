import AnnotatedSql.Sql.Lexer
import Mathlib.Data.List.Basic

/-!
Texts and comments between marks. One that ends within a part of a text is read from that part alone: what follows
counts only where it doubles the closing quote.
-/
namespace AnnotatedSql.Sql.Lexer

/-- A part that is long enough holds all of a text's front. -/
theorem exists_of_append_eq (front : List Char) {tail part rest : List Char} (happend : part ++ rest = front ++ tail)
    (hlength : front.length ≤ part.length) : ∃ more, part = front ++ more ∧ more ++ rest = tail := by
  rcases List.append_eq_append_iff.1 happend with ⟨more, hfront, hrest⟩ | ⟨more, hpart, htail⟩
  · have hnil : more = [] := by
      have := congrArg List.length hfront
      rw [List.length_append] at this
      exact List.eq_nil_of_length_eq_zero (by omega)
    subst hnil
    exact ⟨[], by simpa using hfront.symm, by simpa using hrest⟩
  · exact ⟨more, hpart, htail.symm⟩

/-- Where a character is not doubled, it is not if another text follows that does not start with it. -/
theorem append_ne_cons {c : Char} {part rest other : List Char} (hsingle : ∀ after, part ++ rest ≠ c :: after)
    (hother : ∀ d ∈ other.head?, d ≠ c) (after : List Char) : part ++ other ≠ c :: after := by
  intro happend
  cases part with
  | nil => exact hother c (by rw [← List.nil_append other, happend]; rfl) rfl
  | cons d part =>
    obtain ⟨rfl, -⟩ := List.cons.inj happend
    exact hsingle (part ++ rest) rfl

theorem quoted?_pos {escapes : Bool} {quote : Char} {cs text : List Char} {n : Nat}
    (hquoted : quoted? escapes quote cs = some (text, n)) : 0 < n := by
  fun_induction quoted? escapes quote cs generalizing text n <;> grind [Option.map_eq_some_iff]

/-- A quoted text that ends within a part ends there whatever follows, if that is not another quote. -/
theorem quoted?_append {escapes : Bool} {quote : Char} {part rest other text : List Char} {n : Nat}
    (hquoted : quoted? escapes quote (part ++ rest) = some (text, n)) (hn : n ≤ part.length)
    (hother : ∀ c ∈ other.head?, c ≠ quote) : quoted? escapes quote (part ++ other) = some (text, n) := by
  have hpos := quoted?_pos hquoted
  match part with
  | [] => exact absurd hn (by simp; omega)
  | [a] =>
    have hn1 : n = 1 := by simp at hn; omega
    subst hn1
    rcases other with _ | ⟨h, other⟩ <;> rcases rest with _ | ⟨r, rest⟩ <;>
      grind [quoted?, Option.map_eq_some_iff, quoted?_pos]
  | a :: b :: part =>
    have hdeep := fun text n => @quoted?_append escapes quote part rest other text n
    have hnext := fun text n => @quoted?_append escapes quote (b :: part) rest other text n
    simp only [List.cons_append, quoted?] at hquoted ⊢
    grind [Option.map_eq_some_iff]
termination_by part.length

/-- A comment that ends within a part ends there whatever follows. -/
theorem blockComment?_append {depth : Nat} {last : Char} {part rest : List Char} {n : Nat}
    (hcomment : blockComment? depth last (part ++ rest) = some n) (hn : n ≤ part.length) (other : List Char) :
    blockComment? depth last (part ++ other) = some n := by
  induction part generalizing depth last n with
  | nil =>
    have hpos : blockComment? depth last rest ≠ some 0 := by
      cases rest <;> grind [blockComment?, Option.map_eq_some_iff]
    simp_all
  | cons c part ih =>
    simp only [List.cons_append, blockComment?] at hcomment ⊢
    grind [Option.map_eq_some_iff]

theorem two_le_of_dollarBody? {cs : List Char} {n : Nat} (hbody : dollarBody? cs = some n) : 2 ≤ n := by
  fun_induction dollarBody? cs generalizing n <;> grind [Option.map_eq_some_iff]

theorem dollarBody?_append {part rest : List Char} {n : Nat} (hbody : dollarBody? (part ++ rest) = some n)
    (hn : n ≤ part.length) (other : List Char) : dollarBody? (part ++ other) = some n := by
  generalize hcs : part ++ rest = cs at hbody
  fun_induction dollarBody? cs generalizing part n with
  | case1 tail =>
    cases hbody
    obtain ⟨more, rfl, _⟩ := exists_of_append_eq ['$', '$'] hcs hn
    simp [dollarBody?]
  | case2 c tail hmark ih =>
    obtain ⟨m, hm, rfl⟩ := Option.map_eq_some_iff.1 hbody
    have htwo := two_le_of_dollarBody? hm
    obtain ⟨more, rfl, hmore⟩ := exists_of_append_eq [c] hcs (by simp; omega)
    obtain ⟨d, more, rfl⟩ := List.exists_cons_of_length_pos (l := more) (by simp at hn; omega)
    have hrest := ih (by simpa using hn) hmore hm
    rw [List.append_assoc, List.singleton_append, dollarBody?, hrest]
    · rfl
    · intro _ hc hd
      cases hd
      exact hmark _ hc hmore.symm
  | case3 => cases hbody

theorem unicodeText?_append {part rest other text : List Char} {n : Nat}
    (htext : unicodeText? (part ++ rest) = some (text, n)) (hn : n ≤ part.length)
    (hother : ∀ c ∈ other.head?, c ≠ '\x27') : unicodeText? (part ++ other) = some (text, n) := by
  generalize hcs : part ++ rest = cs at htext
  fun_induction unicodeText? cs generalizing part text n with
  | case1 => cases htext
  | case2 tail ih =>
    obtain ⟨⟨text, m⟩, hm, heq⟩ := Option.map_eq_some_iff.1 htext
    cases heq
    obtain ⟨more, rfl, hmore⟩ := exists_of_append_eq ['\x27', '\x27'] hcs (by simp; omega)
    have hrest := ih (by simpa using hn) hmore hm
    simp [unicodeText?, hrest]
  | case3 tail hsingle =>
    cases htext
    obtain ⟨more, rfl, hmore⟩ := exists_of_append_eq ['\x27'] hcs hn
    subst hmore
    rw [List.append_assoc, List.singleton_append, unicodeText?]
    exact append_ne_cons hsingle hother
  | case4 tail ih =>
    obtain ⟨⟨text, m⟩, hm, heq⟩ := Option.map_eq_some_iff.1 htext
    cases heq
    obtain ⟨more, rfl, hmore⟩ := exists_of_append_eq ['\\', '\\'] hcs (by simp; omega)
    have hrest := ih (by simpa using hn) hmore hm
    simp [unicodeText?, hrest]
  | case5 a b c d e f tail ih =>
    obtain ⟨char, hchar, htext⟩ := Option.bind_eq_some_iff.1 htext
    obtain ⟨⟨text, m⟩, hm, heq⟩ := Option.map_eq_some_iff.1 htext
    cases heq
    obtain ⟨more, rfl, hmore⟩ := exists_of_append_eq ['\\', '+', a, b, c, d, e, f] hcs (by simp; omega)
    have hrest := ih (by simpa using hn) hmore hm
    simp [unicodeText?, hrest, hchar]
  | case6 => cases htext
  | case7 a b c d tail hslash _ hplus ih =>
    obtain ⟨char, hchar, htext⟩ := Option.bind_eq_some_iff.1 htext
    obtain ⟨⟨text, m⟩, hm, heq⟩ := Option.map_eq_some_iff.1 htext
    cases heq
    obtain ⟨more, rfl, hmore⟩ := exists_of_append_eq ['\\', a, b, c, d] hcs (by simp; omega)
    have hrest := ih (by simpa using hn) hmore hm
    rw [List.append_assoc]
    simp only [List.cons_append, List.nil_append]
    rw [unicodeText?.eq_7 _ _ _ _ _ hslash (fun _ _ _ _ h _ => hplus h) hplus, hchar, hrest]
    rfl
  | case8 => cases htext
  | case9 c tail _ hquote _ _ _ _ hslash ih =>
    obtain ⟨⟨text, m⟩, hm, heq⟩ := Option.map_eq_some_iff.1 htext
    cases heq
    obtain ⟨more, rfl, hmore⟩ := exists_of_append_eq [c] hcs (by simp; omega)
    have hrest := ih (by simpa using hn) hmore hm
    rw [List.append_assoc, List.singleton_append, unicodeText?.eq_9 _ _ (fun _ h _ => hquote h) hquote
      (fun _ h _ => hslash h) (fun _ _ _ _ _ _ _ h _ => hslash h) (fun _ h _ => hslash h)
      (fun _ _ _ _ _ h _ => hslash h) hslash, hrest]
    rfl

theorem escapedText?_pos {cs text : List Char} {n : Nat} (htext : escapedText? cs = some (text, n)) : 0 < n := by
  fun_induction escapedText? cs generalizing text n <;> grind [Option.map_eq_some_iff]

private theorem takeWhile_take_two_append {p : Char → Bool} {part rest : List Char}
    (hlength : (((part ++ rest).take 2).takeWhile p).length < part.length) (other : List Char) :
    ((part ++ other).take 2).takeWhile p = ((part ++ rest).take 2).takeWhile p := by
  rcases part with _ | ⟨a, _ | ⟨b, part⟩⟩
  · simp at hlength
  · have hstop : p a = false := by
      by_contra hp
      simp_all
    simp [hstop]
  · simp

/-- An escape that ends before the end of a part is the same whatever follows. -/
theorem escape?_append {part rest : List Char} {c : Char} {size : Nat}
    (hescape : escape? (part ++ rest) = some (c, size)) (hsize : size < part.length) (other : List Char) :
    escape? (part ++ other) = some (c, size) := by
  rcases part with _ | ⟨d, part⟩
  · simp at hsize
  · simp only [List.cons_append, List.length_cons, escape?] at hescape hsize ⊢
    by_cases hx : d = 'x'
    · have hdigits : ((part ++ other).take 2).takeWhile isHexDigit = ((part ++ rest).take 2).takeWhile isHexDigit := by
        refine takeWhile_take_two_append ?_ other
        grind [Option.map_eq_some_iff]
      rw [hdigits]
      simpa [hx] using hescape
    by_cases hoctal : isOctalDigit d
    · have hletter : d ≠ 'b' ∧ d ≠ 'f' ∧ d ≠ 'n' ∧ d ≠ 'r' ∧ d ≠ 't' ∧ d ≠ 'u' ∧ d ≠ 'U' := by
        refine ⟨?_, ?_, ?_, ?_, ?_, ?_, ?_⟩ <;> rintro rfl <;> exact absurd hoctal (by decide)
      have hdigits :
          ((part ++ other).take 2).takeWhile isOctalDigit = ((part ++ rest).take 2).takeWhile isOctalDigit := by
        refine takeWhile_take_two_append ?_ other
        grind [Option.map_eq_some_iff]
      rw [hdigits]
      simpa [hletter, hx] using hescape
    · grind [Option.map_eq_some_iff]

theorem escapedText?_append {part rest other text : List Char} {n : Nat}
    (htext : escapedText? (part ++ rest) = some (text, n)) (hn : n ≤ part.length)
    (hother : ∀ c ∈ other.head?, c ≠ '\x27') : escapedText? (part ++ other) = some (text, n) := by
  generalize hcs : part ++ rest = cs at htext
  fun_induction escapedText? cs generalizing part text n with
  | case1 => cases htext
  | case2 tail ih =>
    obtain ⟨⟨text, m⟩, hm, heq⟩ := Option.map_eq_some_iff.1 htext
    cases heq
    obtain ⟨more, rfl, hmore⟩ := exists_of_append_eq ['\x27', '\x27'] hcs (by simp; omega)
    have hrest := ih (by simpa using hn) hmore hm
    simp [escapedText?, hrest]
  | case3 tail hsingle =>
    cases htext
    obtain ⟨more, rfl, hmore⟩ := exists_of_append_eq ['\x27'] hcs hn
    subst hmore
    rw [List.append_assoc, List.singleton_append, escapedText?]
    exact append_ne_cons hsingle hother
  | case4 => cases htext
  | case5 => cases htext
  | case6 tail c size hescape hnul ih =>
    obtain ⟨⟨text, m⟩, hm, heq⟩ := Option.map_eq_some_iff.1 htext
    cases heq
    have hpos := escapedText?_pos hm
    obtain ⟨more, rfl, hmore⟩ := exists_of_append_eq ['\\'] hcs (by simp; omega)
    have hsize : m + size ≤ more.length := by simp at hn; omega
    subst hmore
    rw [List.drop_append_of_le_length (by omega)] at hm ih
    have hrest := ih (by rw [List.length_drop]; omega) rfl hm
    rw [List.append_assoc, List.singleton_append, escapedText?, escape?_append hescape (by omega)]
    simp only [if_neg hnul]
    rw [List.drop_append_of_le_length (by omega), hrest]
    rfl
  | case7 c tail _ hquote hslash ih =>
    obtain ⟨⟨text, m⟩, hm, heq⟩ := Option.map_eq_some_iff.1 htext
    cases heq
    obtain ⟨more, rfl, hmore⟩ := exists_of_append_eq [c] hcs (by simp; omega)
    have hrest := ih (by simpa using hn) hmore hm
    rw [List.append_assoc, List.singleton_append, escapedText?.eq_5 _ _ (fun _ h _ => hquote h) hquote hslash, hrest]
    rfl

/-- What a tag and a text have in common is the same whatever follows, if it ends within the text. -/
theorem takeWhile_zip_append {p : Char × Char → Bool} {tag part rest : List Char}
    (hlength : ((tag.zip (part ++ rest)).takeWhile p).length < part.length ∨ tag.length ≤ part.length)
    (other : List Char) : (tag.zip (part ++ other)).takeWhile p = (tag.zip (part ++ rest)).takeWhile p := by
  induction part generalizing tag with
  | nil =>
    have hnil : tag = [] := by simpa using hlength
    simp [hnil]
  | cons c part ih =>
    rcases tag with _ | ⟨t, tag⟩
    · simp
    · simp only [List.cons_append, List.zip_cons_cons, List.takeWhile_cons, List.length_cons] at hlength ⊢
      split
      · next hsame =>
        rw [if_pos hsame, List.length_cons] at hlength
        rw [ih (by omega)]
      · rfl

theorem two_le_of_taggedBody? {tag cs : List Char} {n : Nat} (hbody : taggedBody? tag cs = some n) : 2 ≤ n := by
  fun_induction taggedBody? tag cs generalizing n <;> grind [Option.map_eq_some_iff]

theorem taggedBody?_append {tag part rest : List Char} {n : Nat} (hbody : taggedBody? tag (part ++ rest) = some n)
    (hn : n ≤ part.length) (other : List Char) : taggedBody? tag (part ++ other) = some n := by
  generalize hcs : part ++ rest = cs at hbody
  fun_induction taggedBody? tag cs generalizing part n with
  | case1 => cases hbody
  | case2 => cases hbody
  | case3 tail =>
    rename_i same hshort hlong ih
    obtain ⟨m, hm, rfl⟩ := Option.map_eq_some_iff.1 hbody
    have htwo := two_le_of_taggedBody? hm
    obtain ⟨more, rfl, rfl⟩ := exists_of_append_eq ['$'] hcs (by simp; omega)
    have hsize : m + same.length + 1 ≤ more.length := by simp at hn; omega
    rw [List.drop_append_of_le_length (by omega)] at hm ih
    have hrest := ih (by rw [List.length_drop]; omega) rfl hm
    have hsame := takeWhile_zip_append (.inl (show same.length < more.length by omega)) other
    have hmore : ¬ (more ++ other).length ≤ same.length := by rw [List.length_append]; omega
    rw [List.append_assoc, List.singleton_append, taggedBody?, hsame, if_pos hshort, if_neg hmore,
      List.drop_append_of_le_length (show same.length + 1 ≤ more.length by omega), hrest]
    rfl
  | case4 tail =>
    rename_i same hlong hmark
    cases hbody
    obtain ⟨more, rfl, rfl⟩ := exists_of_append_eq ['$'] hcs (by simp; omega)
    have hsize : tag.length + 1 ≤ more.length := by simpa using hn
    have hsame : (tag.zip (more ++ other)).takeWhile _ = same := takeWhile_zip_append (.inr (by omega)) other
    rw [List.drop_append_of_le_length (by omega)] at hmark
    rw [List.append_assoc, List.singleton_append, taggedBody?, hsame, if_neg hlong,
      List.drop_append_of_le_length (by omega), if_pos]
    obtain ⟨d, after, hafter⟩ := List.exists_cons_of_length_pos (show 0 < (more.drop tag.length).length by simp; omega)
    simpa [hafter] using hmark
  | case5 tail =>
    rename_i same hlong hmark ih
    obtain ⟨m, hm, rfl⟩ := Option.map_eq_some_iff.1 hbody
    have htwo := two_le_of_taggedBody? hm
    obtain ⟨more, rfl, rfl⟩ := exists_of_append_eq ['$'] hcs (by simp; omega)
    have hsize : m + tag.length ≤ more.length := by simp at hn; omega
    have hsame : (tag.zip (more ++ other)).takeWhile _ = same := takeWhile_zip_append (.inr (by omega)) other
    rw [List.drop_append_of_le_length (by omega)] at hm hmark ih
    have hrest := ih (by rw [List.length_drop]; omega) rfl hm
    rw [List.append_assoc, List.singleton_append, taggedBody?, hsame, if_neg hlong,
      List.drop_append_of_le_length (by omega), if_neg, hrest]
    · rfl
    · have hpos : 0 < (more.drop tag.length).length := by simp; omega
      obtain ⟨d, after, hafter⟩ := List.exists_cons_of_length_pos hpos
      simpa [hafter] using hmark
  | case6 c tail hdollar ih =>
    obtain ⟨m, hm, rfl⟩ := Option.map_eq_some_iff.1 hbody
    obtain ⟨more, rfl, hmore⟩ := exists_of_append_eq [c] hcs (by simp; omega)
    have hrest := ih (by simpa using hn) hmore hm
    rw [List.append_assoc, List.singleton_append, taggedBody?, hrest]
    · rfl
    · exact hdollar

end AnnotatedSql.Sql.Lexer
