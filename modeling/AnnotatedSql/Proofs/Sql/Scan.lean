import AnnotatedSql.Proofs.Sql.Stops

/-!
Tokens and what stands behind them. A token that ends within a part of a text is read from that part alone, whatever
follows the part, as long as it cannot continue a token. Main statement: `scan_append`.
-/
namespace AnnotatedSql.Sql.Lexer

/-- Operators. -/
theorem operator_append {grammar : Grammar} {front : List Char} {symbol : String} {size : Nat}
    {part rest other : List Char} {token : Token} {n : Nat}
    (hoperator : operator grammar symbol size (part ++ rest) = some (token, n)) (hn : n ≤ part.length)
    (hstops : Stops grammar front other) : operator grammar symbol size (part ++ other) = some (token, n) := by
  have hpart := hstops.head_false (p := grammar.isOperatorPart) (by cases grammar <;> rfl) (by cases grammar <;> rfl)
  have hsize : size ≤ part.length := by
    unfold operator at hoperator
    dsimp only at hoperator
    split at hoperator <;> cases hoperator <;> omega
  unfold operator at hoperator ⊢
  rw [List.drop_append_of_le_length hsize] at hoperator
  rw [List.drop_append_of_le_length hsize]
  have hmore : (part.drop size).length = part.length - size := List.length_drop
  generalize part.drop size = more at hoperator hmore ⊢
  rw [@takeWhile_append_stop _ _ rest _ _ hpart]
  · exact hoperator
  · dsimp only at hoperator
    split at hoperator
    · next hempty => simp [List.isEmpty_iff.1 hempty]
    · cases hoperator
      omega

section Table

variable {α : Type} {opening : α → List Char} {rules : List α} {grammar : Grammar} {front part rest other : List Char}

/-- An opening at the front of a part and a text that cannot continue it lies within the part. -/
theorem isPrefixOf_of_append {mark : List Char} (hmark : ∀ d ∈ mark, d ≠ '\n' ∧ d ≠ '$')
    (hstops : Stops grammar front other) (hstarts : mark.isPrefixOf (part ++ other) = true) : mark <+: part := by
  obtain ⟨after, hafter⟩ := List.isPrefixOf_iff_prefix.1 hstarts
  rcases List.append_eq_append_iff.1 hafter with ⟨more, hpart, _⟩ | ⟨more, hopening, hother⟩
  · exact ⟨more, hpart.symm⟩
  · rcases more with _ | ⟨d, more⟩
    · exact ⟨[], by simpa using hopening⟩
    · have hd := hmark d (by simp [hopening])
      rcases hstops.head (c := d) (by simp [hother]) with h | h
      · exact absurd h hd.1
      · exact absurd h hd.2

/-- The first rule of a table whose opening stands at the front. -/
theorem find?_append (hrules : ∀ rule ∈ rules, ∀ d ∈ opening rule, d ≠ '\n' ∧ d ≠ '$') {rule : α}
    (hfind : rules.find? (fun rule => (opening rule).isPrefixOf (part ++ rest)) = some rule)
    (hlength : (opening rule).length ≤ part.length) (hstops : Stops grammar front other) :
    rules.find? (fun rule => (opening rule).isPrefixOf (part ++ other)) = some rule ∧ opening rule <+: part := by
  obtain ⟨hrule, before, after, happend, hbefore⟩ := List.find?_eq_some_iff_append.1 hfind
  have hpart : opening rule <+: part :=
    List.prefix_of_prefix_length_le (List.isPrefixOf_iff_prefix.1 hrule) (List.prefix_append _ _) hlength
  refine ⟨List.find?_eq_some_iff_append.2 ⟨?_, before, after, happend, ?_⟩, hpart⟩
  · exact List.isPrefixOf_iff_prefix.2 (hpart.trans (List.prefix_append _ _))
  · intro earlier hearlier
    have hnot := hbefore earlier hearlier
    rw [Bool.not_eq_true'] at hnot ⊢
    by_contra hstarts
    have hwithin := isPrefixOf_of_append (hrules earlier (by simp [happend, hearlier])) hstops (by simpa using hstarts)
    rw [List.isPrefixOf_iff_prefix.2 (hwithin.trans (List.prefix_append _ _))] at hnot
    cases hnot

theorem find?_append_none (hrules : ∀ rule ∈ rules, ∀ d ∈ opening rule, d ≠ '\n' ∧ d ≠ '$')
    (hfind : rules.find? (fun rule => (opening rule).isPrefixOf (part ++ rest)) = none)
    (hstops : Stops grammar front other) :
    rules.find? (fun rule => (opening rule).isPrefixOf (part ++ other)) = none := by
  rw [List.find?_eq_none] at hfind ⊢
  intro rule hrule hstarts
  have hwithin := isPrefixOf_of_append (hrules rule hrule) hstops hstarts
  exact hfind rule hrule (List.isPrefixOf_iff_prefix.2 (hwithin.trans (List.prefix_append _ _)))

end Table

/-- No symbol holds a newline or a dollar sign. -/
theorem symbolRules_tail (grammar : Grammar) (c : Char) :
    ∀ rule ∈ symbolRules grammar c, ∀ d ∈ rule.tail, d ≠ '\n' ∧ d ≠ '$' := by
  unfold symbolRules
  cases grammar <;> split <;> simp

/-- In PostgreSQL no symbol starts a name. -/
theorem symbolRules_growth (c : Char) : ∀ rule ∈ symbolRules .postgreSQL c, rule.growth ≠ .name := by
  have hat : Grammar.postgreSQL.isNameStart '@' = false := rfl
  have hsharp : Grammar.postgreSQL.isNameStart '#' = false := rfl
  unfold symbolRules
  split <;> simp [hat, hsharp]

theorem SymbolRule.length_tail_le {rule : SymbolRule} {grammar : Grammar} {c : Char} {cs : List Char} {token : Token}
    {n : Nat} (hscan : rule.scan grammar c cs = some (token, n)) : rule.tail.length ≤ n := by
  unfold SymbolRule.scan at hscan
  split at hscan
  · cases hscan
    exact Nat.le_refl _
  · unfold operator at hscan
    dsimp only at hscan
    split at hscan <;> cases hscan <;> omega
  · split at hscan
    · cases hscan
      exact Nat.le_refl _
    · have hle := length_le_of_name (Option.some.inj hscan)
      simp only [List.length_append, List.length_cons, List.length_nil] at hle
      omega

theorem SymbolRule.scan_append {rule : SymbolRule} {grammar : Grammar} {c : Char} {part rest other : List Char}
    {token : Token} {n : Nat} (hscan : rule.scan grammar c (part ++ rest) = some (token, n)) (hn : n ≤ part.length)
    (hrest : rest ≠ []) (hspace : other = [] ∨ rest.head? ≠ some ' ') (hrule : rule ∈ symbolRules grammar c)
    (hpart : rule.tail <+: part) (hc : c.isDigit = false ∧ c ≠ '.') (hstops : Stops grammar (c :: part) other) :
    rule.scan grammar c (part ++ other) = some (token, n) := by
  unfold SymbolRule.scan at hscan ⊢
  split at hscan
  · exact hscan
  · exact operator_append hscan hn hstops
  · next hname =>
    have hsize := hpart.length_le
    have hmore : (part.drop rule.tail.length).length = part.length - rule.tail.length := List.length_drop
    rw [List.drop_append_of_le_length hsize] at hscan ⊢
    rcases hdrop : part.drop rule.tail.length with _ | ⟨d, more⟩
    · -- The symbol ends the part; a character after it would start a name, so it is a blank.
      rw [hdrop, List.nil_append] at hscan
      obtain ⟨b, rest, rfl⟩ := List.exists_cons_of_ne_nil hrest
      by_cases hb : b = ' '
      · obtain rfl : other = [] := hspace.resolve_right (by simp [hb])
        subst hb
        exact hscan
      · have hle : rule.tail.length + 2 ≤ n + 1 := by
          simp only [List.head?_cons, Option.filter_some, bne_iff_ne, ne_eq, hb, not_false_eq_true, if_true,
            Option.some.injEq] at hscan
          simpa using length_le_of_name hscan
        rw [hdrop, List.length_nil] at hmore
        omega
    · rw [hdrop] at hscan
      simp only [List.cons_append, List.head?_cons] at hscan ⊢
      split
      · next hblank =>
        rw [hblank] at hscan
        exact hscan
      · next e hstart =>
        rw [hstart] at hscan
        refine congrArg some (name_append (Option.some.inj hscan) hn ⟨c, by simp, hc⟩ ?_ ?_)
        · rintro rfl
          exact absurd hname (symbolRules_growth c rule hrule)
        · obtain rfl : d = e := Option.some.inj (Option.filter_eq_some_iff.1 hstart).1
          obtain ⟨after, rfl⟩ := hpart
          rw [List.drop_left] at hdrop
          simpa [hdrop] using hstops

/-- Symbols of the table. -/
theorem find?_symbolRules_append {grammar : Grammar} {c : Char} {part rest other : List Char} {token : Token} {n : Nat}
    (hsymbol : ((symbolRules grammar c).find? (·.tail.isPrefixOf (part ++ rest))).map
      (·.scan grammar c (part ++ rest)) = some (some (token, n))) (hn : n ≤ part.length)
    (hrest : rest ≠ []) (hspace : other = [] ∨ rest.head? ≠ some ' ') (hc : c.isDigit = false ∧ c ≠ '.')
    (hstops : Stops grammar (c :: part) other) :
    ((symbolRules grammar c).find? (·.tail.isPrefixOf (part ++ other))).map (·.scan grammar c (part ++ other)) =
      some (some (token, n)) := by
  obtain ⟨rule, hfind, hscan⟩ := Option.map_eq_some_iff.1 hsymbol
  have hlength := Nat.le_trans (SymbolRule.length_tail_le hscan) hn
  obtain ⟨hother, hpart⟩ := find?_append (symbolRules_tail grammar c) hfind hlength hstops
  rw [hother, Option.map_some,
    SymbolRule.scan_append hscan hn hrest hspace (List.mem_of_find?_eq_some hfind) hpart hc hstops]

/-- A comment to the end of a line that ends within a part, either before a newline in it or with the part. -/
theorem lineComment_append {grammar : Grammar} {front part rest other : List Char}
    (hn : lineComment (part ++ rest) ≤ part.length) (hrest : rest ≠ [])
    (hblank : rest.head?.all Text.isPlainBlank = true → other.head? ≠ some '$') (hstops : Stops grammar front other) :
    lineComment (part ++ other) = lineComment (part ++ rest) := by
  unfold lineComment at hn ⊢
  simp only [List.takeWhile_append] at hn ⊢
  by_cases hline : (part.takeWhile (· != '\n')).length = part.length
  · rw [if_pos hline] at hn ⊢
    rw [if_pos hline]
    -- Nothing but blanks follows up to the end of the line, or the comment would go on.
    rw [List.reverse_append, List.dropWhile_append] at hn ⊢
    have hempty : ((rest.takeWhile (· != '\n')).reverse.dropWhile Text.isPlainBlank).isEmpty = true := by
      by_contra hmore
      rw [if_neg hmore, List.length_append, List.length_reverse] at hn
      rw [List.isEmpty_iff, ← List.length_eq_zero_iff] at hmore
      omega
    have hother : other.takeWhile (· != '\n') = [] := by
      cases hstops with
      | nil => rfl
      | newline after => rfl
      | dollar after _ _ =>
        exfalso
        obtain ⟨b, rest, rfl⟩ := List.exists_cons_of_ne_nil hrest
        refine hblank ?_ rfl
        by_cases hb : b = '\n'
        · subst hb
          rfl
        · rw [List.isEmpty_iff, List.dropWhile_eq_nil_iff] at hempty
          exact hempty b (by simp [hb])
    rw [hother, List.reverse_append, List.dropWhile_append, if_pos hempty]
    rfl
  · rw [if_neg hline, if_neg hline]

/-- Tokens that start with `?`. -/
theorem question_append {grammar : Grammar} {front part rest other : List Char} {token : Token} {n : Nat}
    (hquestion : question grammar (part ++ rest) = some (token, n)) (hn : n ≤ part.length) (hrest : rest ≠ [])
    (hstops : Stops grammar front other) : question grammar (part ++ other) = some (token, n) := by
  unfold question at hquestion ⊢
  split
  · next hgrammar =>
    rw [if_pos hgrammar] at hquestion
    rcases part with _ | ⟨a, part⟩
    · obtain ⟨b, rest, rfl⟩ := List.exists_cons_of_ne_nil hrest
      rw [List.nil_append] at hquestion
      split at hquestion <;> simp [fixed] at hquestion <;> simp [← hquestion.2] at hn
    · by_cases hbar : a = '|'
      · simpa [hbar] using hquestion
      · by_cases hand : a = '&'
        · simpa [hand] using hquestion
        · simpa [hbar, hand] using hquestion
  · next hgrammar =>
    rw [if_neg hgrammar] at hquestion
    cases hquestion
    rw [takeWhile_append_stop hn (hstops.head_false rfl rfl)]

/-- Comments. -/
theorem comment?_append {grammar : Grammar} {front part rest other : List Char} {c : Char} {token : Token} {n : Nat}
    (hcomment : comment? grammar c (part ++ rest) = some (some (token, n))) (hn : n ≤ part.length) (hrest : rest ≠ [])
    (hblank : rest.head?.all Text.isPlainBlank = true → other.head? ≠ some '$') (hstops : Stops grammar front other) :
    comment? grammar c (part ++ other) = some (some (token, n)) := by
  generalize hcs : part ++ rest = cs at hcomment
  unfold comment? at hcomment
  split at hcomment
  · next tail =>
    simp only [Option.some.injEq, Prod.mk.injEq] at hcomment
    obtain ⟨rfl, rfl⟩ := hcomment
    obtain ⟨more, rfl, rfl⟩ := exists_of_append_eq ['-'] hcs (by simp; omega)
    have hmore : lineComment (more ++ rest) ≤ more.length := by simp at hn; omega
    simp [comment?, lineComment_append hmore hrest hblank hstops]
  · next tail =>
    obtain ⟨size, hsize, hscan⟩ := Option.map_eq_some_iff.1 (Option.some.inj hcomment)
    cases hscan
    obtain ⟨more, rfl, rfl⟩ := exists_of_append_eq ['*'] hcs (by simp; omega)
    have hmore : size ≤ more.length := by simpa using hn
    simp [comment?, blockComment?_append hsize hmore other]
  · next cs =>
    subst hcs
    split at hcomment
    · next hgrammar =>
      simp only [Option.some.injEq, Prod.mk.injEq] at hcomment
      obtain ⟨rfl, rfl⟩ := hcomment
      simp [comment?, hgrammar, lineComment_append hn hrest hblank hstops]
    · cases hcomment
  · cases hcomment

theorem comment?_append_none {grammar : Grammar} {front part rest other : List Char} {c : Char}
    (hcomment : comment? grammar c (part ++ rest) = none) (hstops : Stops grammar front other) :
    comment? grammar c (part ++ other) = none := by
  rcases part with _ | ⟨d, part⟩
  · have hsharp : c = '#' → (grammar == .mySQL) = false := by
      rintro rfl
      simpa [comment?] using hcomment
    cases hstops <;> unfold comment? <;> split <;> simp_all
  · unfold comment? at hcomment ⊢
    split at hcomment <;> simp_all

/-- Operators, punctuation and comments. -/
theorem symbol?_append {grammar : Grammar} {c : Char} {part rest other : List Char} {token : Token} {n : Nat}
    (hsymbol : symbol? grammar c (part ++ rest) = some (some (token, n))) (hn : n ≤ part.length) (hrest : rest ≠ [])
    (hspace : other = [] ∨ rest.head? ≠ some ' ') (hc : c.isDigit = false ∧ c ≠ '.')
    (hblank : rest.head?.all Text.isPlainBlank = true → other.head? ≠ some '$')
    (hstops : Stops grammar (c :: part) other) : symbol? grammar c (part ++ other) = some (some (token, n)) := by
  unfold symbol? at hsymbol ⊢
  cases hcomment : comment? grammar c (part ++ rest) with
  | some scan =>
    rw [hcomment] at hsymbol
    cases hsymbol
    rw [comment?_append hcomment hn hrest hblank hstops]
  | none =>
    rw [hcomment] at hsymbol
    rw [comment?_append_none hcomment hstops]
    dsimp only at hsymbol ⊢
    split
    · next hquestion =>
      rw [if_pos hquestion, Option.some.injEq] at hsymbol
      rw [question_append hsymbol hn hrest hstops]
    · next hquestion =>
      rw [if_neg hquestion] at hsymbol
      exact find?_symbolRules_append hsymbol hn hrest hspace hc hstops

theorem symbol?_append_none {grammar : Grammar} {front part rest other : List Char} {c : Char}
    (hsymbol : symbol? grammar c (part ++ rest) = none) (hstops : Stops grammar front other) :
    symbol? grammar c (part ++ other) = none := by
  unfold symbol? at hsymbol ⊢
  cases hcomment : comment? grammar c (part ++ rest) with
  | some scan =>
    rw [hcomment] at hsymbol
    cases hsymbol
  | none =>
    rw [hcomment] at hsymbol
    rw [comment?_append_none hcomment hstops]
    dsimp only at hsymbol ⊢
    split
    · next hquestion =>
      rw [if_pos hquestion] at hsymbol
      cases hsymbol
    · next hquestion =>
      rw [if_neg hquestion, Option.map_eq_none_iff] at hsymbol
      rw [Option.map_eq_none_iff]
      exact find?_append_none (symbolRules_tail grammar c) hsymbol hstops

theorem dollar_of_head_ne {cs : List Char} (hhead : cs.head? ≠ some '$') :
    dollar cs = tagged (cs.takeWhile isTagPart) (cs.drop (cs.takeWhile isTagPart).length) := by
  unfold dollar
  split
  · simp at hhead
  · rfl

theorem length_le_of_tagged {tag cs : List Char} {token : Token} {n : Nat}
    (htagged : tagged tag cs = some (token, n)) : tag.length ≤ n := by
  unfold tagged at htagged
  split at htagged
  · obtain ⟨size, _, hscan⟩ := Option.map_eq_some_iff.1 htagged
    cases hscan
    omega
  · cases htagged
    exact Nat.le_refl _

theorem tagged_of_head_ne {tag cs : List Char} (hhead : cs.head? ≠ some '$') :
    tagged tag cs = some (.placeholder (String.ofList ('$' :: tag)), tag.length) := by
  unfold tagged
  split
  · simp at hhead
  · rfl

theorem tagged_append {tag part rest other : List Char} {token : Token} {n : Nat}
    (htagged : tagged tag (part ++ rest) = some (token, n)) (hn : n ≤ tag.length + part.length)
    (hother : part = [] → other.head? ≠ some '$') : tagged tag (part ++ other) = some (token, n) := by
  by_cases hhead : (part ++ rest).head? = some '$'
  · obtain ⟨tail, htail⟩ := List.head?_eq_some_iff.1 hhead
    rw [htail] at htagged
    obtain ⟨size, hbody, hscan⟩ := Option.map_eq_some_iff.1 htagged
    cases hscan
    obtain ⟨more, rfl, rfl⟩ := exists_of_append_eq ['$'] htail (by simp; omega)
    simp only [List.cons_append, List.nil_append, List.length_cons] at hn ⊢
    simp only [tagged, taggedBody?_append hbody (by omega) other, Option.map_some]
    rw [List.take_append_of_le_length (by omega), List.take_append_of_le_length (by omega)]
  · rw [tagged_of_head_ne hhead] at htagged
    rw [tagged_of_head_ne ?_, htagged]
    rcases part with _ | ⟨a, part⟩
    · exact hother rfl
    · exact hhead

/-- A dollar sign that follows a tag would close its mark, so none does. -/
theorem Stops.head_ne_dollar {grammar : Grammar} {part other : List Char} (hstops : Stops grammar ('$' :: part) other)
    (htag : part.takeWhile isTagPart = part) : other.head? ≠ some '$' := by
  cases hstops with
  | nil => simp
  | newline rest => simp
  | dollar rest hgrammar hfront =>
    exfalso
    subst hgrammar
    rcases List.eq_nil_or_concat part with rfl | ⟨before, last, rfl⟩
    · have hname := (hfront '$' (by simp)).1
      revert hname
      decide
    · obtain ⟨hname, halpha⟩ := hfront last (by simp [List.getLast?_cons])
      have hlast := List.takeWhile_eq_self_iff.1 htag last (by simp)
      simp only [isTagPart, halpha, Bool.false_or, beq_iff_eq] at hlast
      subst hlast
      revert hname
      decide

/-- Tokens that start with `$`. -/
theorem dollar_append {grammar : Grammar} {part rest other : List Char} {token : Token} {n : Nat}
    (hdollar : dollar (part ++ rest) = some (token, n)) (hn : n ≤ part.length)
    (hstops : Stops grammar ('$' :: part) other) : dollar (part ++ other) = some (token, n) := by
  by_cases hhead : (part ++ rest).head? = some '$'
  · obtain ⟨tail, htail⟩ := List.head?_eq_some_iff.1 hhead
    rw [htail] at hdollar
    obtain ⟨size, hbody, hscan⟩ := Option.map_eq_some_iff.1 hdollar
    cases hscan
    have htwo := two_le_of_dollarBody? hbody
    obtain ⟨more, rfl, rfl⟩ := exists_of_append_eq ['$'] htail (by simp; omega)
    simp only [List.cons_append, List.nil_append, List.length_cons] at hn ⊢
    rw [List.take_append_of_le_length (by omega)]
    simp only [dollar, dollarBody?_append hbody (by omega) other, Option.map_some]
    rw [List.take_append_of_le_length (by omega)]
  · have hother : (part ++ other).head? ≠ some '$' := by
      rcases part with _ | ⟨a, part⟩
      · exact hstops.head_ne_dollar rfl
      · exact hhead
    rw [dollar_of_head_ne hhead] at hdollar
    have htag := Nat.le_trans (length_le_of_tagged hdollar) hn
    have hsame := takeWhile_append_stop htag (hstops.head_false rfl rfl)
    rw [dollar_of_head_ne hother, hsame]
    rw [List.drop_append_of_le_length htag] at hdollar ⊢
    refine tagged_append hdollar (by rw [List.length_drop]; omega) fun hnil => hstops.head_ne_dollar ?_
    rw [List.drop_eq_nil_iff] at hnil
    have hpart : part = (part ++ rest).takeWhile isTagPart :=
      (List.prefix_of_prefix_length_le (List.prefix_append _ _) (List.takeWhile_prefix _) hnil).eq_of_length_le htag
    exact List.takeWhile_eq_self_iff.2 fun c hc => List.mem_takeWhile_imp (hpart ▸ hc)

/-- The openings of literals hold quotes and `&` only. -/
theorem literalRules_opening (grammar : Grammar) (c : Char) :
    ∀ rule ∈ literalRules grammar c, ∀ d ∈ rule.opening, d ≠ '\n' ∧ d ≠ '$' := by
  unfold literalRules
  cases grammar <;> split <;> simp

/-- The text of a literal that ends within a part is the same before any text that starts with no quote. -/
theorem literalRules_text? {grammar : Grammar} {c : Char} {rule : LiteralRule} (hrule : rule ∈ literalRules grammar c)
    {part rest other text : List Char} {n : Nat} (htext : rule.text? (part ++ rest) = some (text, n))
    (hn : n ≤ part.length) (hsingle : ∀ d ∈ other.head?, d ≠ '\x27') (hdouble : ∀ d ∈ other.head?, d ≠ '"') :
    rule.text? (part ++ other) = some (text, n) := by
  have hsplit : rule.text? = escapedText? ∨ rule.text? = unicodeText? ∨
      ∃ escapes quote, (quote = '\x27' ∨ quote = '"') ∧ rule.text? = quoted? escapes quote := by
    unfold literalRules at hrule
    split at hrule <;> grind
  rcases hsplit with hread | hread | ⟨escapes, quote, hquote, hread⟩ <;> rw [hread] at htext ⊢
  · exact escapedText?_append htext hn hsingle
  · exact unicodeText?_append htext hn hsingle
  · rcases hquote with rfl | rfl
    · exact quoted?_append htext hn hsingle
    · exact quoted?_append htext hn hdouble

/-- Literals that a letter opens. -/
theorem letterLiteral?_append {grammar : Grammar} {front part rest other : List Char} {c : Char} {token : Token}
    {n : Nat} (hliteral : letterLiteral? grammar c (part ++ rest) = some (some (token, n))) (hn : n ≤ part.length)
    (hstops : Stops grammar front other) : letterLiteral? grammar c (part ++ other) = some (some (token, n)) := by
  obtain ⟨rule, hfind, hscan⟩ := Option.map_eq_some_iff.1 hliteral
  obtain ⟨⟨text, size⟩, htext, hscan⟩ := Option.map_eq_some_iff.1 hscan
  cases hscan
  have hlength : rule.opening.length ≤ part.length := by omega
  obtain ⟨hother, hpart⟩ := find?_append (literalRules_opening grammar c.toLower) hfind hlength hstops
  rw [List.drop_append_of_le_length hlength] at htext
  have hsame := literalRules_text? (List.mem_of_find?_eq_some hfind) htext (by rw [List.length_drop]; omega)
    (hstops.head_ne (by decide) (by decide)) (hstops.head_ne (by decide) (by decide))
  rw [letterLiteral?, hother, Option.map_some, List.drop_append_of_le_length hlength, hsame, Option.map_some]

theorem letterLiteral?_append_none {grammar : Grammar} {front part rest other : List Char} {c : Char}
    (hliteral : letterLiteral? grammar c (part ++ rest) = none) (hstops : Stops grammar front other) :
    letterLiteral? grammar c (part ++ other) = none := by
  rw [letterLiteral?, Option.map_eq_none_iff] at hliteral ⊢
  exact find?_append_none (literalRules_opening grammar c.toLower) hliteral hstops

theorem isNamePart_of_isNameStart {c : Char} (hstart : Grammar.postgreSQL.isNameStart c = true) :
    Grammar.postgreSQL.isNamePart c = true := by
  simp only [Grammar.isNameStart, Bool.or_eq_true] at hstart
  rcases hstart with halpha | hunder <;> simp_all [Grammar.isNamePart]

theorem isNamePart_of_opensLiteral {c : Char} (hopens : opensLiteral .postgreSQL c = true) :
    Grammar.postgreSQL.isNamePart c = true := by
  have hletters : (c = 'b' ∨ c = 'B' ∨ c = 'n' ∨ c = 'N' ∨ c = 'e' ∨ c = 'E' ∨ c = 'x' ∨ c = 'X') ∨
      c = 'u' ∨ c = 'U' := by
    simpa [opensLiteral] using hopens
  rcases hletters with (rfl | rfl | rfl | rfl | rfl | rfl | rfl | rfl) | rfl | rfl <;> rfl

/-- Words and placeholders. -/
theorem wordOrOther_append {grammar : Grammar} {c : Char} {part rest other : List Char} {token : Token} {n : Nat}
    (hword : wordOrOther grammar c (part ++ rest) = some (token, n)) (hn : n ≤ part.length)
    (hc : c.isDigit = false ∧ c ≠ '.') (hstops : Stops grammar (c :: part) other) :
    wordOrOther grammar c (part ++ other) = some (token, n) := by
  unfold wordOrOther at hword ⊢
  split
  · next hopens =>
    rw [if_pos hopens, Option.some.injEq] at hword
    refine congrArg some (letterWord_append hword hn ?_ hstops)
    rintro rfl
    exact isNamePart_of_opensLiteral hopens
  · next hopens =>
    rw [if_neg hopens] at hword
    split
    · next hstart =>
      rw [if_pos hstart, Option.some.injEq] at hword
      refine congrArg some (name_append hword hn ⟨c, by simp, hc⟩ ?_ hstops)
      rintro rfl
      exact ⟨c, rfl, isNamePart_of_isNameStart hstart⟩
    · next hstart =>
      rw [if_neg hstart] at hword
      split
      · next hdollar =>
        rw [if_pos hdollar] at hword
        obtain rfl := beq_iff_eq.1 hdollar
        exact dollar_append hword hn hstops
      · next hdollar =>
        rw [if_neg hdollar] at hword
        exact hword

/-- A quoted text, made into a token of the same size. -/
theorem quoted?_map_append {escapes : Bool} {quote : Char} {part rest other : List Char} {token : Token} {n : Nat}
    {make : List Char × Nat → Token × Nat} (hmake : ∀ text size, (make (text, size)).2 = size)
    (hquoted : (quoted? escapes quote (part ++ rest)).map make = some (token, n)) (hn : n ≤ part.length)
    (hother : ∀ d ∈ other.head?, d ≠ quote) :
    (quoted? escapes quote (part ++ other)).map make = some (token, n) := by
  obtain ⟨⟨text, size⟩, htext, hscan⟩ := Option.map_eq_some_iff.1 hquoted
  have hsize := hmake text size
  rw [hscan] at hsize
  rw [quoted?_append htext (hsize ▸ hn) hother, Option.map_some, hscan]

theorem scanPlain_append {grammar : Grammar} {c b : Char} {part rest other : List Char} {token : Token} {n : Nat}
    (hscan : scanPlain grammar c (part ++ b :: rest) = some (token, n)) (hn : n ≤ part.length)
    (hb : b ≠ 'e' ∧ b ≠ 'E') (hspace : other = [] ∨ b ≠ ' ')
    (hblank : Text.isPlainBlank b = true → other.head? ≠ some '$') (hstops : Stops grammar (c :: part) other) :
    scanPlain grammar c (part ++ other) = some (token, n) := by
  have hquote : grammar.isNameQuote c = true → c ≠ '\n' ∧ c ≠ '$' := by
    rintro hname
    constructor <;> rintro rfl <;> revert hname <;> cases grammar <;> decide
  unfold scanPlain at hscan ⊢
  split
  · next hc =>
    rw [if_pos hc] at hscan
    obtain rfl := beq_iff_eq.1 hc
    exact quoted?_map_append (fun _ _ => rfl) hscan hn (hstops.head_ne (by decide) (by decide))
  · next hc =>
    rw [if_neg hc] at hscan
    split
    · next hname =>
      rw [if_pos hname] at hscan
      exact quoted?_map_append (fun _ _ => rfl) hscan hn (hstops.head_ne (hquote hname).1 (hquote hname).2)
    · next hname =>
      rw [if_neg hname] at hscan
      split
      · next hdouble =>
        rw [if_pos hdouble] at hscan
        obtain rfl := beq_iff_eq.1 hdouble
        exact quoted?_map_append (fun _ _ => rfl) hscan hn (hstops.head_ne (by decide) (by decide))
      · next hdouble =>
        rw [if_neg hdouble] at hscan
        split
        · next hnumber =>
          rw [if_pos hnumber, Option.some.injEq] at hscan
          exact congrArg some (number_append hscan hn (by simpa using hnumber) (by simpa using hb) hstops)
        · next hnumber =>
          rw [if_neg hnumber] at hscan
          have hc : c.isDigit = false ∧ c ≠ '.' := by simpa using hnumber
          cases hsymbol : symbol? grammar c (part ++ b :: rest) with
          | some symbol =>
            rw [hsymbol, Option.getD_some] at hscan
            rw [hscan] at hsymbol
            rw [symbol?_append hsymbol hn (List.cons_ne_nil b rest) (by simpa using hspace) hc
              (by simpa using hblank) hstops, Option.getD_some]
          | none =>
            rw [hsymbol, Option.getD_none] at hscan
            rw [symbol?_append_none hsymbol hstops, Option.getD_none]
            exact wordOrOther_append hscan hn hc hstops

/-- A token that ends within a part of a text is read from the part alone, whatever cannot continue it follows. A
    blank behind a sign and a newline behind a carriage return can tell in what precedes them. -/
theorem scan_append {grammar : Grammar} {c b : Char} {part rest other : List Char} {token : Token} {n : Nat}
    (hscan : scan grammar c (part ++ b :: rest) = some (token, n)) (hn : n ≤ part.length)
    (hb : b ≠ 'e' ∧ b ≠ 'E') (hspace : other = [] ∨ b ≠ ' ')
    (hblank : Text.isPlainBlank b = true → other.head? ≠ some '$')
    (hreturn : c = '\r' → part = [] → other.head? ≠ some '\n') (hstops : Stops grammar (c :: part) other) :
    scan grammar c (part ++ other) = some (token, n) := by
  unfold scan at hscan ⊢
  split
  · next hplain =>
    rw [if_pos hplain] at hscan
    exact hscan
  · next hplain =>
    rw [if_neg hplain] at hscan
    split
    · next hc =>
      rw [if_pos hc] at hscan
      rcases part with _ | ⟨a, part⟩
      · have hother := hreturn (beq_iff_eq.1 hc) rfl
        have hnewline : b ≠ '\n' := by
          rintro rfl
          cases hscan
          simp at hn
        simpa [hother, hnewline] using hscan
      · exact hscan
    · next hc =>
      rw [if_neg hc] at hscan
      cases hliteral : letterLiteral? grammar c (part ++ b :: rest) with
      | some literal =>
        rw [hliteral, Option.getD_some] at hscan
        rw [hscan] at hliteral
        rw [letterLiteral?_append hliteral hn hstops, Option.getD_some]
      | none =>
        rw [hliteral, Option.getD_none] at hscan
        rw [letterLiteral?_append_none hliteral hstops, Option.getD_none]
        exact scanPlain_append hscan hn hb hspace hblank hstops

theorem scan_of_isPlainBlank (grammar : Grammar) {c : Char} (hblank : Text.isPlainBlank c = true) (cs : List Char) :
    ∃ n, scan grammar c cs = some (.blank, n) := by
  simp only [Text.isPlainBlank, Bool.or_eq_true, beq_iff_eq] at hblank
  rcases hblank with (((rfl | rfl) | rfl) | rfl) | rfl
  · exact ⟨0, rfl⟩
  · exact ⟨0, rfl⟩
  · exact ⟨0, rfl⟩
  · refine ⟨0, ?_⟩
    have hliteral : letterLiteral? grammar '\x0c' cs = none := rfl
    have hsymbol : symbol? grammar '\x0c' cs = none := rfl
    have hquote : grammar.isNameQuote '\x0c' = false := by cases grammar <;> rfl
    have hopens : opensLiteral grammar '\x0c' = false := by cases grammar <;> rfl
    have hstart : grammar.isNameStart '\x0c' = false := by cases grammar <;> rfl
    have hother : wordOrOther grammar '\x0c' cs = some (.blank, 0) := by simp [wordOrOther, hopens, hstart]; decide
    have hplain : scanPlain grammar '\x0c' cs = some (.blank, 0) := by simp [scanPlain, hquote, hsymbol, hother]
    simp [scan, hliteral, hplain]
  · exact ⟨_, rfl⟩

theorem scan_of_e {grammar : Grammar} {c : Char} (hc : c = 'e' ∨ c = 'E') {cs : List Char} {token : Token} {n : Nat}
    (hscan : scan grammar c cs = some (token, n)) :
    (∃ value, token = .text .escaped value) ∨ ∃ rest, token = .word (.plain (String.ofList (c :: rest))) := by
  have hrules : literalRules grammar c.toLower = [⟨['\x27'], .escaped, escapedText?⟩] := by
    rcases hc with rfl | rfl <;> rfl
  have hword : scanPlain grammar c cs = some (letterWord grammar c cs) := by
    rcases hc with rfl | rfl <;> cases grammar <;> rfl
  have hblank : scan grammar c cs = (letterLiteral? grammar c cs).getD (scanPlain grammar c cs) := by
    rcases hc with rfl | rfl <;> rfl
  rw [hblank, hword] at hscan
  cases hliteral : letterLiteral? grammar c cs with
  | none =>
    rw [hliteral, Option.getD_none, Option.some.injEq, letterWord] at hscan
    cases hscan
    exact .inr ⟨_, rfl⟩
  | some literal =>
    rw [hliteral, Option.getD_some] at hscan
    rw [hscan, letterLiteral?, hrules] at hliteral
    obtain ⟨rule, hrule, hread⟩ := Option.map_eq_some_iff.1 hliteral
    obtain ⟨⟨text, size⟩, _, hmade⟩ := Option.map_eq_some_iff.1 hread
    have hmem := List.mem_of_find?_eq_some hrule
    rw [List.mem_singleton] at hmem
    subst hmem
    cases hmade
    exact .inl ⟨_, rfl⟩

/-- In PostgreSQL `$` and digits are a placeholder, if nothing follows that continues the tag. -/
theorem scan_dollar {digits rest : List Char} (hdigits : ∀ c ∈ digits, isTagPart c = true) (hne : digits ≠ [])
    (hrest : ∀ c ∈ rest.head?, isTagPart c = false ∧ c ≠ '$') :
    scan .postgreSQL '$' (digits ++ rest) = some (.placeholder (String.ofList ('$' :: digits)), digits.length) := by
  have hscan : scan .postgreSQL '$' (digits ++ rest) = dollar (digits ++ rest) := by
    have hliteral : letterLiteral? .postgreSQL '$' (digits ++ rest) = none := rfl
    have hsymbol : symbol? .postgreSQL '$' (digits ++ rest) = none := rfl
    have hstart : Grammar.postgreSQL.isNameStart '$' = false := rfl
    have hword : wordOrOther .postgreSQL '$' (digits ++ rest) = dollar (digits ++ rest) := by
      rw [wordOrOther, if_neg (by decide), if_neg (by simp [hstart])]
      rfl
    have hplain : scanPlain .postgreSQL '$' (digits ++ rest) = dollar (digits ++ rest) := by
      simp [scanPlain, Grammar.isNameQuote, hsymbol, hword]
    simp [scan, hliteral, hplain]
  have hhead : (digits ++ rest).head? ≠ some '$' := by
    obtain ⟨d, digits, rfl⟩ := List.exists_cons_of_ne_nil hne
    intro h
    obtain rfl : d = '$' := by simpa using h
    have htag := hdigits '$' (by simp)
    revert htag
    decide
  have hrun : (digits ++ rest).takeWhile isTagPart = digits := by
    rw [List.takeWhile_append_of_pos hdigits]
    rcases rest with _ | ⟨c, rest⟩
    · simp
    · simp [(hrest c rfl).1]
  rw [hscan, dollar_of_head_ne hhead, hrun, List.drop_left, tagged_of_head_ne]
  intro h
  exact (hrest '$' h).2 rfl

end AnnotatedSql.Sql.Lexer
