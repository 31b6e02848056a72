import AnnotatedSql.Proofs.Sql.Scan

/-!
Laws of cutting a text into tokens. Tokens stand one after the other; a part of a text at whose end no token goes on
gives its tokens by itself (`tokens_append`), and gives the same ones if another text follows that cannot continue them
(`tokens_append_other`).
-/
namespace AnnotatedSql.Sql

namespace Lexer

/-- Tokens stand one after the other. -/
theorem lexFrom_ordered {grammar : Grammar} {offset : Nat} {text : List Char} {lexemes : List Lexeme}
    (hlex : lexFrom grammar offset text = some lexemes) :
    (∀ lexeme ∈ lexemes, offset ≤ lexeme.start) ∧ lexemes.Pairwise (·.start < ·.start) := by
  fun_induction lexFrom grammar offset text generalizing lexemes with
  | case1 =>
    cases hlex
    exact ⟨by simp, .nil⟩
  | case2 => cases hlex
  | case3 offset c cs token n _ =>
    rename_i stop ih
    obtain ⟨rest, hrest, rfl⟩ := Option.map_eq_some_iff.1 hlex
    obtain ⟨hstart, hordered⟩ := ih hrest
    have hpos := c.utf8Size_pos
    have hstop : offset < stop := by omega
    refine ⟨?_, .cons (fun lexeme hlexeme => Nat.lt_of_lt_of_le hstop (hstart lexeme hlexeme)) hordered⟩
    intro lexeme hlexeme
    rcases List.mem_cons.1 hlexeme with rfl | hlexeme
    · exact Nat.le_refl _
    · exact Nat.le_of_lt (Nat.lt_of_lt_of_le hstop (hstart lexeme hlexeme))

/-- The tokens of a part of a text, read with the rest of the text behind it; `none` if one of them goes beyond the
    part. -/
def through (grammar : Grammar) (part rest : List Char) : Option (List Token) :=
  match part with
  | [] => some []
  | c :: cs =>
    match scan grammar c (cs ++ rest) with
    | none => none
    | some (token, n) =>
      if n ≤ cs.length ∨ rest = [] then (through grammar (cs.drop n) rest).map (token :: ·) else none
termination_by part.length
decreasing_by simp only [List.length_drop, List.length_cons]; omega

/-- Tokens without blanks and comments. -/
def visible (tokens : List Token) : List Token :=
  tokens.filter (· != .blank)

theorem visible_cons (token : Token) (tokens : List Token) :
    visible (token :: tokens) = visible [token] ++ visible tokens :=
  List.filter_append [token] tokens

theorem visible_append (front back : List Token) : visible (front ++ back) = visible front ++ visible back :=
  List.filter_append front back

/-- A token before those of a part, where the tokens behind the part are still to be read. -/
theorem map_visible_cons (token : Token) (read : List Token) (others : Option (List Token)) :
    (others.map (visible read ++ ·)).map (visible [token] ++ ·) = others.map (visible (token :: read) ++ ·) := by
  rw [Option.map_map, visible_cons token read]
  simp only [Function.comp_def, List.append_assoc]

theorem drop_append_of_read {n : Nat} {cs rest : List Char} (hn : n ≤ cs.length ∨ rest = []) :
    (cs ++ rest).drop n = cs.drop n ++ rest := by
  rcases hn with hn | rfl
  · exact List.drop_append_of_le_length hn
  · simp

/-- Parts that follow each other. -/
theorem through_append {grammar : Grammar} {part next rest : List Char} {read others : List Token}
    (hread : through grammar part (next ++ rest) = some read) (hothers : through grammar next rest = some others) :
    through grammar (part ++ next) rest = some (read ++ others) := by
  generalize hbehind : next ++ rest = behind at hread
  fun_induction through grammar part behind generalizing read with
  | case1 =>
    cases hread
    exact hothers
  | case2 => cases hread
  | case3 c cs token n hscan hn ih =>
    obtain ⟨more, hmore, rfl⟩ := Option.map_eq_some_iff.1 hread
    subst hbehind
    rw [List.cons_append, through, List.append_assoc, hscan]
    have hle : n ≤ (cs ++ next).length ∨ rest = [] := by
      rcases hn with hn | hnil
      · exact .inl (by rw [List.length_append]; omega)
      · exact .inr (List.append_eq_nil_iff.1 hnil).2
    have hdrop : (cs ++ next).drop n = cs.drop n ++ next := by
      refine drop_append_of_read (hn.imp_right fun hnil => ?_)
      exact (List.append_eq_nil_iff.1 hnil).1
    simp only [if_pos hle, hdrop, ih hmore, Option.map_some, List.cons_append]
  | case4 => cases hread

/-- The first token of a text stands at its start, and the others are those of the text behind it. -/
theorem lexFrom_cons {grammar : Grammar} {offset : Nat} {text : List Char} {lexeme : Lexeme}
    {rest : List Lexeme} (hlex : lexFrom grammar offset text = some (lexeme :: rest)) :
    lexeme.start = offset ∧ ∃ c cs n, text = c :: cs ∧ scan grammar c cs = some (lexeme.token, n) ∧
      lexeme.stop = offset + c.utf8Size + Text.byteSize (cs.take n) ∧
      lexFrom grammar lexeme.stop (cs.drop n) = some rest := by
  rcases text with _ | ⟨c, cs⟩
  · simp [lexFrom] at hlex
  · rw [lexFrom] at hlex
    split at hlex
    · cases hlex
    · next token n hscan =>
      obtain ⟨others, hothers, hcons⟩ := Option.map_eq_some_iff.1 hlex
      obtain ⟨rfl, rfl⟩ := List.cons.inj hcons
      exact ⟨rfl, c, cs, n, rfl, hscan, rfl, hothers⟩

/-- Where some of the tokens end, the text is cut into a part that gives these and a rest that gives the others. -/
theorem exists_part {grammar : Grammar} {offset : Nat} {text : List Char} {front after : List Lexeme}
    (hlex : lexFrom grammar offset text = some (front ++ after)) :
    ∃ part rest, text = part ++ rest ∧ through grammar part rest = some (front.map Lexeme.token) ∧
      lexFrom grammar (offset + Text.byteSize part) rest = some after ∧
      (front.getLast?.map Lexeme.stop).getD offset = offset + Text.byteSize part := by
  induction front generalizing offset text with
  | nil => exact ⟨[], text, rfl, by rw [through, List.map_nil], hlex, rfl⟩
  | cons first front ih =>
    obtain ⟨-, c, cs, n, rfl, hscan, hfirst, hothers⟩ := lexFrom_cons hlex
    obtain ⟨part, rest, hcut, hread, hafter, hstop⟩ := ih hothers
    have htext : cs = cs.take n ++ part ++ rest := by rw [List.append_assoc, ← hcut, List.take_append_drop]
    have hsize : offset + Text.byteSize (c :: (cs.take n ++ part)) = first.stop + Text.byteSize part := by
      rw [hfirst, Text.byteSize_cons, Text.byteSize_append, ← Nat.add_assoc, ← Nat.add_assoc]
    refine ⟨c :: (cs.take n ++ part), rest, by rw [List.cons_append, ← htext], ?_, by rw [hsize]; exact hafter, ?_⟩
    · rw [through, ← htext, hscan]
      by_cases hn : n ≤ cs.length
      · have htake : (cs.take n).length = n := List.length_take_of_le hn
        have hle : n ≤ (cs.take n ++ part).length := by rw [List.length_append, htake]; omega
        simp only [if_pos (Or.inl hle), List.drop_left' htake, hread, Option.map_some, List.map_cons]
      · -- The token takes the whole text, so that nothing is left.
        rw [List.drop_eq_nil_of_le (by omega)] at hcut
        obtain ⟨rfl, rfl⟩ := List.append_eq_nil_iff.1 hcut.symm
        rw [through] at hread
        simp [through, ← Option.some.inj hread]
    · rw [hsize, ← hstop]
      rcases List.eq_nil_or_concat front with rfl | ⟨init, last, rfl⟩
      · rfl
      · simp [List.getLast?_cons]

/-- Visible tokens at the front of a text end with the last of them. -/
theorem exists_front {all taken others : List Lexeme}
    (hshown : all.filter (·.token != .blank) = taken ++ others) (htaken : taken ≠ []) :
    ∃ front after, all = front ++ after ∧ front.filter (·.token != .blank) = taken ∧
      after.filter (·.token != .blank) = others ∧ front.getLast? = taken.getLast? := by
  obtain ⟨init, last, rfl⟩ := (List.eq_nil_or_concat taken).resolve_left htaken
  rw [List.concat_eq_append, List.append_assoc, List.filter_eq_append_iff] at hshown
  obtain ⟨front, behind, rfl, hfront, hbehind⟩ := hshown
  obtain ⟨blanks, after, rfl, hblanks, hlast, hafter⟩ := List.filter_eq_cons_iff.1 hbehind
  have hnone : blanks.filter (·.token != .blank) = [] := List.filter_eq_nil_iff.2 hblanks
  refine ⟨front ++ (blanks ++ [last]), after, by simp, ?_, hafter, by simp⟩
  rw [List.filter_append, List.filter_append, hfront, hnone]
  simp [hlast]

theorem visible_map_token (lexemes : List Lexeme) :
    visible (lexemes.map Lexeme.token) = (lexemes.filter (·.token != .blank)).map Lexeme.token := by
  rw [visible, List.filter_map]
  rfl

/-- The text of the first tokens, from the start of the first to the end of the last, with the blanks before it. -/
theorem exists_group {grammar : Grammar} {offset : Nat} {cs : List Char} {lexeme : Lexeme}
    {all more rest : List Lexeme} (hlex : lexFrom grammar offset cs = some all)
    (hshown : all.filter (·.token != .blank) = (lexeme :: more) ++ rest) :
    ∃ gap read b old behind after, gap ++ (b :: old ++ behind) = cs ∧
      through grammar gap (b :: old ++ behind) = some read ∧ visible read = [] ∧
      lexeme.start = offset + Text.byteSize gap ∧
      (∃ following n, scan grammar b following = some (lexeme.token, n)) ∧
      ((lexeme :: more).getLast?.map Lexeme.stop).getD lexeme.stop = lexeme.start + Text.byteSize (b :: old) ∧
      lexFrom grammar (lexeme.start + Text.byteSize (b :: old)) behind = some after ∧
      after.filter (·.token != .blank) = rest := by
  obtain ⟨first, after, rfl, hfirst, hafter, hlast⟩ := exists_front hshown (List.cons_ne_nil _ _)
  obtain ⟨blanks, others, rfl, hblanks, _, _⟩ := List.filter_eq_cons_iff.1 hfirst
  rw [List.append_assoc] at hlex
  obtain ⟨gap, behind, rfl, hgap, hbehind, _⟩ := exists_part hlex
  obtain ⟨hstart, b, following, n, hhead, hscan, -⟩ := lexFrom_cons hbehind
  obtain ⟨old, behind, rfl, hold, hbehind, hstop⟩ := exists_part hbehind
  obtain ⟨old, rfl⟩ : ∃ rest, old = b :: rest := by
    rcases old with _ | ⟨c, old⟩
    · rw [through] at hold
      cases hold
    · exact ⟨old, by rw [(List.cons.inj hhead).1]⟩
  have hnone : visible (blanks.map Lexeme.token) = [] := by
    rw [visible_map_token, List.filter_eq_nil_iff.2 hblanks, List.map_nil]
  have hend : ((lexeme :: more).getLast?.map Lexeme.stop).getD lexeme.stop =
      lexeme.start + Text.byteSize (b :: old) := by
    rw [List.getLast?_append_cons, List.getLast?_cons] at hlast
    rw [List.getLast?_cons] at hstop
    rw [← hlast, hstart]
    exact hstop
  rw [← hstart] at hbehind
  exact ⟨gap, _, b, old, behind, after, rfl, hgap, hnone, hstart, ⟨following, n, hscan⟩, hend, hbehind, hafter⟩

/-- The offset at which a text starts does not show in its tokens. -/
theorem lexFrom_map_token (grammar : Grammar) (offset base : Nat) (text : List Char) :
    (lexFrom grammar offset text).map (·.map Lexeme.token) =
      (lexFrom grammar base text).map (·.map Lexeme.token) := by
  fun_induction lexFrom grammar offset text generalizing base with
  | case1 => simp [lexFrom]
  | case2 offset c cs hscan => simp [lexFrom, hscan]
  | case3 offset c cs token n hscan =>
    rename_i stop ih
    rw [lexFrom, hscan]
    have hrest := ih (base + c.utf8Size + Text.byteSize (cs.take n))
    simp only [Option.map_map, Function.comp_def, List.map_cons]
    have hcons := congrArg (Option.map (token :: ·)) hrest
    simpa only [Option.map_map, Function.comp_def] using hcons

end Lexer

open Lexer

theorem lex_ordered {grammar : Grammar} {text : List Char} {lexemes : List Lexeme}
    (hlex : lex grammar text = some lexemes) : lexemes.Pairwise (·.start < ·.start) := by
  obtain ⟨all, hall, rfl⟩ := Option.map_eq_some_iff.1 hlex
  exact (Lexer.lexFrom_ordered hall).2.sublist List.filter_sublist

/-- The tokens of a text, without their places. -/
def tokens (grammar : Grammar) (text : List Char) : Option (List Token) :=
  (lex grammar text).map (·.map Lexeme.token)

theorem tokens_eq_lexFrom (grammar : Grammar) (offset : Nat) (text : List Char) :
    tokens grammar text = (lexFrom grammar offset text).map fun lexemes => visible (lexemes.map Lexeme.token) := by
  have hsame := congrArg (Option.map visible) (lexFrom_map_token grammar 0 offset text)
  simp only [Option.map_map, Function.comp_def] at hsame
  rw [← hsame, tokens, lex, Option.map_map]
  congr 1
  funext lexemes
  simp [visible, List.filter_map, Function.comp_def]

@[simp] theorem tokens_nil (grammar : Grammar) : tokens grammar [] = some [] := by
  simp [tokens, lex, lexFrom]

theorem tokens_cons {grammar : Grammar} {c : Char} {cs : List Char} {token : Token} {n : Nat}
    (hscan : scan grammar c cs = some (token, n)) :
    tokens grammar (c :: cs) = (tokens grammar (cs.drop n)).map (visible [token] ++ ·) := by
  rw [tokens_eq_lexFrom grammar 0, lexFrom, hscan,
    tokens_eq_lexFrom grammar (0 + c.utf8Size + Text.byteSize (cs.take n))]
  simp only [Option.map_map, Function.comp_def, List.map_cons]
  congr 1
  funext lexemes
  exact visible_cons token _

/-- A part of a text at whose end no token goes on gives its own tokens, and the rest gives the others. -/
theorem tokens_append {grammar : Grammar} {part rest : List Char} {read : List Token}
    (hread : through grammar part rest = some read) :
    tokens grammar (part ++ rest) = (tokens grammar rest).map (visible read ++ ·) := by
  fun_induction through grammar part rest generalizing read with
  | case1 =>
    cases hread
    simp [visible]
  | case2 => cases hread
  | case3 c cs token n hscan hn ih =>
    obtain ⟨more, hmore, rfl⟩ := Option.map_eq_some_iff.1 hread
    have hrest := ih hmore
    rw [List.cons_append, tokens_cons hscan, drop_append_of_read hn, hrest, map_visible_cons]
  | case4 => cases hread

/-- Whether a part of a text is read as blanks and comments, with the rest of the text behind it. -/
def readsBlank (grammar : Grammar) (part rest : List Char) : Bool :=
  (through grammar part rest).any (·.all (· == .blank))

theorem tokens_append_of_readsBlank {grammar : Grammar} {part rest : List Char}
    (hblank : readsBlank grammar part rest = true) : tokens grammar (part ++ rest) = tokens grammar rest := by
  obtain ⟨read, hread, hall⟩ := (Option.any_eq_true _ _).1 hblank
  have hnone : visible read = [] := by simpa [visible, List.filter_eq_nil_iff] using hall
  rw [tokens_append hread, hnone]
  simp

theorem Lexer.Stops.suffix {grammar : Grammar} {front part other : List Char} (hstops : Stops grammar front other)
    (hpart : part <:+ front) : Stops grammar part other := by
  cases hstops with
  | nil => exact .nil
  | newline rest => exact .newline rest
  | dollar rest hgrammar hfront =>
    refine .dollar rest hgrammar fun c hc => hfront c ?_
    obtain ⟨before, rfl⟩ := hpart
    simpa [List.getLast?_append] using Or.inl hc

/-- A part of a text at whose end no token goes on gives the same tokens if another text follows it that cannot
    continue them. -/
theorem tokens_append_other {grammar : Grammar} {part rest other : List Char} {b : Char} {read : List Token}
    (hread : through grammar part (b :: rest) = some read) (hb : b ≠ 'e' ∧ b ≠ 'E') (hspace : other = [] ∨ b ≠ ' ')
    (hblank : Text.isPlainBlank b = true → other.head? ≠ some '$') (hstops : Stops grammar part other) :
    tokens grammar (part ++ other) = (tokens grammar other).map (visible read ++ ·) := by
  -- Along the tokens of the part, each of which `scan_append` reads again.
  generalize hrest : b :: rest = behind at hread
  fun_induction through grammar part behind generalizing read with
  | case1 =>
    cases hread
    simp [visible]
  | case2 => cases hread
  | case3 c cs token n hscan hn ih =>
    obtain ⟨more, hmore, rfl⟩ := Option.map_eq_some_iff.1 hread
    subst hrest
    have hn : n ≤ cs.length := hn.resolve_right (List.cons_ne_nil b rest)
    have hothers := ih (hstops.suffix ((List.drop_suffix n cs).trans (List.suffix_cons c cs))) hmore
    by_cases hreturn : c = '\r' ∧ cs = [] ∧ other.head? = some '\n'
    · -- The return and the newline become one blank.
      obtain ⟨rfl, rfl, hnewline⟩ := hreturn
      obtain ⟨more', rfl⟩ := List.head?_eq_some_iff.1 hnewline
      have hblankToken : token = .blank := by simpa using (Prod.mk.inj (Option.some.inj hscan)).1.symm
      rw [List.drop_nil, through] at hmore
      cases hmore
      have hpair : scan grammar '\r' ('\n' :: more') = some (.blank, 1) := rfl
      have hline : scan grammar '\n' more' = some (.blank, 0) := rfl
      rw [List.singleton_append, tokens_cons hpair, tokens_cons hline, hblankToken]
      simp [visible]
    · have hagain := scan_append hscan hn hb hspace hblank (fun hc hcs hhead => hreturn ⟨hc, hcs, hhead⟩) hstops
      rw [List.cons_append, tokens_cons hagain, List.drop_append_of_le_length hn, hothers, map_visible_cons]
  | case4 => cases hread

end AnnotatedSql.Sql
