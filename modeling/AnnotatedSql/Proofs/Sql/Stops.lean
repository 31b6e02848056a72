import AnnotatedSql.Proofs.Sql.Enclosed
import Mathlib.Data.List.TakeWhile

/-!
Texts that cannot continue a token (`Stops`), and the runs of characters that end before them: names (`name_append`) and
numbers (`number_append`).
-/
namespace AnnotatedSql.Sql.Lexer

/-- The text cannot continue a token that ends a front: it is empty or starts with a newline. In PostgreSQL a dollar
    sign does not continue a token either, if the front does not end in a character of names or numbers. -/
inductive Stops (grammar : Grammar) (front : List Char) : List Char → Prop where
  | nil : Stops grammar front []
  | newline (rest : List Char) : Stops grammar front ('\n' :: rest)
  | dollar (rest : List Char) (hgrammar : grammar = .postgreSQL)
      (hfront : ∀ c ∈ front.getLast?, grammar.isNamePart c = false ∧ Text.isAlphanumeric c = false) :
      Stops grammar front ('$' :: rest)

namespace Stops

variable {grammar : Grammar} {front other : List Char}

theorem head (hstops : Stops grammar front other) {c : Char} (hc : c ∈ other.head?) : c = '\n' ∨ c = '$' := by
  cases hstops with
  | nil => cases hc
  | newline rest => exact .inl (Option.mem_some.1 hc).symm
  | dollar rest => exact .inr (Option.mem_some.1 hc).symm

/-- A class of characters without newline and dollar sign does not go on behind the front. -/
theorem head_false (hstops : Stops grammar front other) {p : Char → Bool} (hnewline : p '\n' = false)
    (hdollar : p '$' = false) : ∀ c ∈ other.head?, p c = false := by
  intro c hc
  rcases hstops.head hc with rfl | rfl
  · exact hnewline
  · exact hdollar

theorem head_ne (hstops : Stops grammar front other) {d : Char} (hnewline : d ≠ '\n') (hdollar : d ≠ '$') :
    ∀ c ∈ other.head?, c ≠ d := by
  intro c hc hcd
  rcases hstops.head hc with rfl | rfl
  · exact hnewline hcd.symm
  · exact hdollar hcd.symm

end Stops

/-- A run of characters that ends within a part is the same before any text that does not continue it. -/
theorem takeWhile_append_stop {p : Char → Bool} {part rest other : List Char}
    (hn : ((part ++ rest).takeWhile p).length ≤ part.length) (hother : ∀ c ∈ other.head?, p c = false) :
    (part ++ other).takeWhile p = (part ++ rest).takeWhile p := by
  induction part with
  | nil =>
    have hrest : rest.takeWhile p = [] := List.eq_nil_of_length_eq_zero (Nat.le_zero.1 hn)
    rw [List.nil_append, List.nil_append, hrest]
    cases other with
    | nil => rfl
    | cons c other => simp [hother c rfl]
  | cons c part ih =>
    simp only [List.cons_append, List.takeWhile_cons] at hn ⊢
    split
    · next hc =>
      rw [if_pos hc, List.length_cons, List.length_cons] at hn
      rw [ih (by omega)]
    · rfl

/-- The same for characters of names, which a dollar sign is one of in PostgreSQL. -/
theorem Stops.takeWhile_isNamePart {grammar : Grammar} {front part rest other : List Char}
    (hstops : Stops grammar (front ++ part) other)
    (hfront : grammar = .postgreSQL → ∃ c ∈ front.getLast?, grammar.isNamePart c = true)
    (hn : ((part ++ rest).takeWhile grammar.isNamePart).length ≤ part.length) :
    (part ++ other).takeWhile grammar.isNamePart = (part ++ rest).takeWhile grammar.isNamePart := by
  cases hstops with
  | nil => exact takeWhile_append_stop hn (by simp)
  | newline after =>
    have hnewline : grammar.isNamePart '\n' = false := by cases grammar <;> rfl
    exact takeWhile_append_stop hn (by simpa using hnewline)
  | dollar after hgrammar hlast =>
    by_cases hfull : (part.takeWhile grammar.isNamePart).length = part.length
    · -- The run would reach to the dollar sign, so the front would end in a character of names.
      have hself : part.takeWhile grammar.isNamePart = part := (List.takeWhile_prefix _).eq_of_length hfull
      have hall := List.takeWhile_eq_self_iff.1 hself
      exfalso
      rcases List.eq_nil_or_concat part with rfl | ⟨before, last, rfl⟩
      · obtain ⟨c, hc, hname⟩ := hfront hgrammar
        rw [(hlast c (by simpa using hc)).1] at hname
        cases hname
      · have hname := hall last (by simp)
        rw [(hlast last (by simp)).1] at hname
        cases hname
    · rw [List.takeWhile_append, List.takeWhile_append, if_neg hfull, if_neg hfull]

theorem length_le_of_name {grammar : Grammar} {start cs : List Char} {token : Token} {n : Nat}
    (hname : name grammar start cs = (token, n)) : start.length ≤ n + 1 := by
  unfold name at hname
  dsimp only at hname
  split at hname <;> cases hname <;> omega

/-- Names that start with the given characters. -/
theorem name_append {grammar : Grammar} {start part rest other : List Char} {token : Token} {n : Nat}
    (hname : name grammar start (part ++ rest) = (token, n)) (hn : n ≤ part.length)
    (hstart : ∃ c ∈ start, c.isDigit = false ∧ c ≠ '.')
    (hlast : grammar = .postgreSQL → ∃ c ∈ start.getLast?, grammar.isNamePart c = true)
    (hstops : Stops grammar (start ++ part.drop (start.length - 1)) other) :
    name grammar start (part ++ other) = (token, n) := by
  have htext : ∀ run : List Char, (start ++ run).all (fun c => c.isDigit || c == '.') = false := by
    intro run
    obtain ⟨c, hc, hdigit, hpoint⟩ := hstart
    rw [List.all_eq_false]
    exact ⟨c, List.mem_append_left _ hc, by simp [hdigit, hpoint]⟩
  simp only [name, htext, Bool.false_eq_true, if_false, Prod.mk.injEq] at hname ⊢
  obtain ⟨rfl, rfl⟩ := hname
  have hsize : start.length - 1 ≤ part.length := by omega
  rw [List.drop_append_of_le_length hsize] at hn ⊢
  have hrun := @Stops.takeWhile_isNamePart grammar start _ rest other hstops hlast (by rw [List.length_drop]; omega)
  rw [List.drop_append_of_le_length hsize, hrun]
  exact ⟨rfl, rfl⟩

theorem letterWord_append {grammar : Grammar} {c : Char} {part rest other : List Char} {token : Token} {n : Nat}
    (hword : letterWord grammar c (part ++ rest) = (token, n)) (hn : n ≤ part.length)
    (hc : grammar = .postgreSQL → grammar.isNamePart c = true) (hstops : Stops grammar (c :: part) other) :
    letterWord grammar c (part ++ other) = (token, n) := by
  simp only [letterWord, Prod.mk.injEq] at hword ⊢
  obtain ⟨rfl, rfl⟩ := hword
  have hrun := @Stops.takeWhile_isNamePart grammar [c] part rest other hstops (fun h => ⟨c, rfl, hc h⟩) hn
  rw [hrun]
  exact ⟨rfl, rfl⟩

/-- The sign at the front, and what follows it. -/
def signed (cs : List Char) : List Char × List Char :=
  match cs with
  | '+' :: more => (['+'], more)
  | '-' :: more => (['-'], more)
  | _ => ([], cs)

theorem exponent_cons (e : Char) (cs : List Char) :
    exponent (e :: cs) = if e == 'e' || e == 'E' then
      (if ((signed cs).2.takeWhile Char.isDigit).isEmpty then []
        else e :: (signed cs).1 ++ (signed cs).2.takeWhile Char.isDigit, true) else ([], false) := rfl

theorem signed_cons_append (s : Char) (part rest : List Char) :
    signed (s :: part ++ rest) = ((signed (s :: part)).1, (signed (s :: part)).2 ++ rest) := by
  by_cases hplus : s = '+'
  · simp [signed, hplus]
  · by_cases hminus : s = '-'
    · simp [signed, hminus]
    · simp [signed, hplus, hminus]

theorem signed_length (cs : List Char) : (signed cs).1.length + (signed cs).2.length = cs.length := by
  unfold signed
  split <;> simp <;> omega

theorem signed_of_stops {grammar : Grammar} {front other : List Char} (hstops : Stops grammar front other) :
    signed other = ([], other) := by
  cases hstops <;> rfl

/-- The exponent of a number that ends within a part. -/
theorem exponent_append {grammar : Grammar} {front part rest other power : List Char} {marked : Bool}
    (hexponent : exponent (part ++ rest) = (power, marked)) (hpower : power.length ≤ part.length)
    (hrest : ∀ c ∈ rest.head?, c ≠ 'e' ∧ c ≠ 'E') (hstops : Stops grammar front other) :
    exponent (part ++ other) = (power, marked) := by
  have hdigit := hstops.head_false (p := Char.isDigit) rfl rfl
  rcases part with _ | ⟨e, part⟩
  · have hnone : ∀ cs : List Char, (∀ c ∈ cs.head?, c ≠ 'e' ∧ c ≠ 'E') → exponent cs = ([], false) := by
      intro cs hcs
      rcases cs with _ | ⟨c, cs⟩
      · rfl
      · simp [exponent, hcs c rfl]
    rw [List.nil_append, hnone rest hrest] at hexponent
    rw [List.nil_append, hnone other fun c hc => ⟨hstops.head_ne (by decide) (by decide) c hc,
      hstops.head_ne (by decide) (by decide) c hc⟩, hexponent]
  · rw [List.cons_append, exponent_cons] at hexponent ⊢
    by_cases he : (e == 'e' || e == 'E') = true
    · rw [if_pos he] at hexponent ⊢
      rcases part with _ | ⟨s, part⟩
      · have hempty : ((signed rest).2.takeWhile Char.isDigit).isEmpty = true := by
          by_contra hrun
          rw [List.nil_append, if_neg hrun] at hexponent
          cases hexponent
          rw [List.isEmpty_iff, ← List.length_eq_zero_iff] at hrun
          simp only [List.length_append, List.length_cons, List.length_nil] at hpower
          omega
        rw [List.nil_append, if_pos hempty] at hexponent
        rw [List.nil_append, signed_of_stops hstops, if_pos, hexponent]
        rcases other with _ | ⟨d, other⟩
        · rfl
        · simp [hdigit d rfl]
      · have hsize := signed_length (s :: part)
        rw [signed_cons_append] at hexponent ⊢
        have hrun : (((signed (s :: part)).2 ++ rest).takeWhile Char.isDigit).length ≤
            (signed (s :: part)).2.length := by
          grind
        rw [takeWhile_append_stop hrun hdigit]
        exact hexponent
    · rw [if_neg he] at hexponent ⊢
      exact hexponent

/-- The character at a place within a part, or just behind it. -/
theorem head?_append_eq {grammar : Grammar} {front part rest other : List Char} {d : Char}
    (hstops : Stops grammar front other) (hnewline : d ≠ '\n') (hdollar : d ≠ '$')
    (hpart : part = [] → rest.head? ≠ some d) :
    ((part ++ other).head? == some d) = ((part ++ rest).head? == some d) := by
  rcases part with _ | ⟨c, part⟩
  · have hother : other.head? ≠ some d := fun h => hstops.head_ne hnewline hdollar d h rfl
    simp [hother, hpart rfl]
  · rfl

theorem mantissa_append {grammar : Grammar} {front part rest other : List Char}
    (hn : (mantissa (part ++ rest)).length ≤ part.length) (hstops : Stops grammar front other) :
    mantissa (part ++ other) = mantissa (part ++ rest) := by
  have hdigit := hstops.head_false (p := Char.isDigit) rfl rfl
  simp only [mantissa, List.length_append] at hn ⊢
  have hwhole : (part ++ other).takeWhile Char.isDigit = (part ++ rest).takeWhile Char.isDigit :=
    takeWhile_append_stop (by omega) hdigit
  rw [hwhole]
  generalize hw : (part ++ rest).takeWhile Char.isDigit = whole at hn ⊢
  have hsize : whole.length ≤ part.length := by omega
  rw [List.drop_append_of_le_length hsize] at hn ⊢
  rw [List.drop_append_of_le_length hsize]
  have hmore : (part.drop whole.length).length = part.length - whole.length := List.length_drop
  generalize part.drop whole.length = more at hn hmore ⊢
  have hpoint : ((more ++ other).head? == some '.') = ((more ++ rest).head? == some '.') := by
    refine head?_append_eq hstops (by decide) (by decide) fun hnil hrest => ?_
    subst hnil
    simp [hrest] at hn
    simp at hmore
    omega
  rw [hpoint]
  generalize (if ((more ++ rest).head? == some '.') = true then ['.'] else []) = point at hn ⊢
  have hpart : point.length ≤ more.length := by omega
  rw [List.drop_append_of_le_length hpart] at hn ⊢
  have hfraction : (more.drop point.length ++ other).takeWhile Char.isDigit =
      (more.drop point.length ++ rest).takeWhile Char.isDigit :=
    takeWhile_append_stop (by rw [List.length_drop]; omega) hdigit
  rw [List.drop_append_of_le_length hpart, hfraction]

theorem mantissa_pos {c : Char} (hc : c.isDigit = true ∨ c = '.') (cs : List Char) :
    0 < (mantissa (c :: cs)).length := by
  by_cases hdigit : c.isDigit = true
  · simp [mantissa, hdigit]
  · obtain rfl : c = '.' := hc.resolve_left hdigit
    simp [mantissa]

theorem length_le_of_numberFrom {grammar : Grammar} {digits cs : List Char} {token : Token} {n : Nat}
    (hnumber : numberFrom grammar digits cs = (token, n)) : digits.length ≤ n + 1 := by
  unfold numberFrom at hnumber
  dsimp only at hnumber
  split at hnumber <;> cases hnumber <;> simp only [List.length_append] <;> omega

theorem numberFrom_append {grammar : Grammar} {front digits part rest other : List Char} {token : Token} {n : Nat}
    (hnumber : numberFrom grammar digits (part ++ rest) = (token, n)) (hn : n + 1 ≤ digits.length + part.length)
    (hdigits : 0 < digits.length) (hrest : ∀ d ∈ rest.head?, d ≠ 'e' ∧ d ≠ 'E')
    (hstops : Stops grammar front other) : numberFrom grammar digits (part ++ other) = (token, n) := by
  unfold numberFrom at hnumber ⊢
  rcases hexponent : exponent (part ++ rest) with ⟨power, marked⟩
  rw [hexponent] at hnumber
  dsimp only at hnumber
  have hpower : power.length ≤ part.length := by
    split at hnumber <;> cases hnumber <;> simp only [List.length_append] at hn <;> omega
  rw [exponent_append hexponent hpower hrest hstops]
  dsimp only
  rw [List.drop_append_of_le_length hpower] at hnumber
  rw [List.drop_append_of_le_length hpower]
  have hmore : (part.drop power.length).length = part.length - power.length := List.length_drop
  generalize part.drop power.length = more at hnumber hmore ⊢
  have htail : grammar.digitNames = true →
      ((more ++ rest).takeWhile grammar.isNamePart).length ≤ more.length →
      (more ++ other).takeWhile grammar.isNamePart = (more ++ rest).takeWhile grammar.isNamePart := by
    intro hnames hle
    refine takeWhile_append_stop hle ?_
    cases hstops with
    | nil => simp
    | newline _ => cases grammar <;> simp <;> rfl
    | dollar _ hgrammar => simp [hgrammar, Grammar.digitNames] at hnames
  by_cases hword : (grammar.digitNames && !marked && !((more ++ rest).takeWhile grammar.isNamePart).isEmpty) = true
  · have hnames : grammar.digitNames = true := by simp_all
    rw [if_pos hword] at hnumber
    cases hnumber
    rw [htail hnames (by simp only [List.length_append] at hn; omega), if_pos hword]
  · rw [if_neg hword] at hnumber
    rw [if_neg]
    · have hlong : ((more ++ other).head? == some 'L') = ((more ++ rest).head? == some 'L') := by
        refine head?_append_eq hstops (by decide) (by decide) fun hnil hhead => ?_
        subst hnil
        simp [hhead] at hnumber
        simp at hmore
        omega
      rw [hlong]
      exact hnumber
    · intro hother
      by_cases hempty : (more ++ rest).takeWhile grammar.isNamePart = []
      · have hnames : grammar.digitNames = true := by simp_all
        rw [htail hnames (by simp [hempty]), hempty] at hother
        simp at hother
      · exact hword (by simp_all)

theorem number_append {grammar : Grammar} {front part rest other : List Char} {c : Char} {token : Token} {n : Nat}
    (hnumber : number grammar c (part ++ rest) = (token, n)) (hn : n ≤ part.length)
    (hc : c.isDigit = true ∨ c = '.') (hrest : ∀ d ∈ rest.head?, d ≠ 'e' ∧ d ≠ 'E')
    (hstops : Stops grammar front other) : number grammar c (part ++ other) = (token, n) := by
  unfold number at hnumber ⊢
  by_cases hhex : (c == '0' && (part ++ rest).head? == some 'x') = true
  · rw [if_pos hhex] at hnumber
    cases hnumber
    rcases part with _ | ⟨x, part⟩
    · simp at hn
    · have hrun : ((part ++ rest).takeWhile isHexDigit).length ≤ part.length := by
        rw [List.length_cons] at hn
        simp only [List.cons_append, List.drop_succ_cons, List.drop_zero] at hn
        omega
      have hsame := @takeWhile_append_stop isHexDigit part rest other hrun (hstops.head_false rfl rfl)
      rw [if_pos (by simpa using hhex)]
      simp [hsame]
  · have hother : ¬ (c == '0' && (part ++ other).head? == some 'x') = true := by
      rcases part with _ | ⟨x, part⟩
      · have hhead := hstops.head_ne (d := 'x') (by decide) (by decide)
        intro hx
        exact hhead 'x' (by simpa using (Bool.and_eq_true_iff.1 hx).2) rfl
      · simpa using hhex
    rw [if_neg hhex] at hnumber
    rw [if_neg hother]
    have hlength : (mantissa (c :: part ++ rest)).length ≤ (c :: part).length := by
      by_cases hpoint : mantissa (c :: part ++ rest) = ['.']
      · rw [hpoint]
        simp
      · rw [← List.cons_append, if_neg (by simpa using hpoint)] at hnumber
        have hle := length_le_of_numberFrom hnumber
        rw [List.length_cons]
        omega
    have hmantissa := mantissa_append hlength hstops
    rw [← List.cons_append] at hnumber
    rw [← List.cons_append, hmantissa]
    by_cases hpoint : (mantissa (c :: part ++ rest) == ['.']) = true
    · rw [if_pos hpoint] at hnumber ⊢
      exact hnumber
    · rw [if_neg hpoint] at hnumber ⊢
      rw [List.drop_append_of_le_length hlength] at hnumber ⊢
      refine numberFrom_append hnumber ?_ (mantissa_pos hc (part ++ rest)) hrest hstops
      rw [List.length_drop, List.length_cons] at *
      omega

end AnnotatedSql.Sql.Lexer
