import AnnotatedSql.Proofs.Source.Boundary
import AnnotatedSql.Proofs.Source.QuotedBody
import AnnotatedSql.Proofs.Sql.Scan

/-!
Statement ends, as the splitter and the lexer find them. The splitter passes over a token if it comes out of it where
the lexer does, having met no semicolon (`PassedOver`). It does so for every token but those of a few forms that it
reads in another way (`endsAlike`), so a text without these is split exactly at its semicolon tokens.
-/
namespace AnnotatedSql.Source

open Sql (Lexeme Token)
open Sql.Lexer (scan lexFrom quoted? blockComment? lineComment dollarBody? taggedBody? isTagPart)

/-- The byte offsets of the terminators among pieces. -/
def endsFrom (offset : Nat) : List Piece → List Nat
  | [] => []
  | piece :: rest =>
    (if piece.role = .terminator then [offset] else []) ++ endsFrom (offset + Text.byteSize piece.text) rest

theorem chunkEnds_splitOnP (start : Nat) {pieces : List Piece}
    (hterminator : ∀ piece ∈ pieces, piece.role = .terminator → piece.text = [';']) :
    chunkEnds start (pieces.splitOnP (·.role == .terminator)) = endsFrom start pieces := by
  induction pieces generalizing start with
  | nil => rfl
  | cons piece pieces ih =>
    obtain ⟨hpiece, hrest⟩ := List.forall_mem_cons.1 hterminator
    have hends := ih (start + Text.byteSize piece.text) hrest
    rw [List.splitOnP_cons_eq_if_modifyHead, endsFrom, ← hends]
    obtain ⟨chunk, chunks, hchunks⟩ :=
      List.exists_cons_of_ne_nil (List.splitOnP_ne_nil (·.role == .terminator) pieces)
    rw [hchunks]
    by_cases hrole : piece.role = .terminator
    · have hsize : Text.byteSize piece.text = 1 := by rw [hpiece hrole]; decide
      simp [hrole, chunkEnds, concat, hsize]
    · have hne : (piece.role == .terminator) = false := by simpa using hrole
      simp only [hne, hrole, Bool.false_eq_true, if_false, List.modifyHead_cons, List.nil_append]
      cases chunks with
      | nil => rfl
      | cons next rest => simp [chunkEnds, concat, Nat.add_assoc]

theorem statementEnds_eq_endsFrom (dialect : Dialect) (source : List Char) :
    statementEnds dialect source = endsFrom 0 (pieces dialect source) :=
  chunkEnds_splitOnP 0 fun _ hpiece => pieces_terminator hpiece

/-- The splitter comes through a part of a text to what follows it, and the part holds no end. -/
def PassedOver (dialect : Dialect) (part rest : List Char) : Prop :=
  ∀ offset, endsFrom offset (pieces dialect (part ++ rest)) =
    endsFrom (offset + Text.byteSize part) (pieces dialect rest)

/-- Whether a character within a statement is a piece of its own. -/
def standsAlone (dialect : Dialect) (c : Char) (cs : List Char) : Bool :=
  (nextPiece dialect c cs).1.role != .terminator && (nextPiece dialect c cs).1.text == [c]

/-- Whether each of the first characters of a text is a piece of its own. -/
def allAlone (dialect : Dialect) : Nat → List Char → Bool
  | n + 1, c :: cs => standsAlone dialect c cs && allAlone dialect n cs
  | _, _ => true

namespace PassedOver

variable {dialect : Dialect} {part rest : List Char} {c : Char} {cs : List Char}

theorem nil (dialect : Dialect) (rest : List Char) : PassedOver dialect [] rest :=
  fun _ => rfl

theorem append {front back : List Char} (hfront : PassedOver dialect front (back ++ rest))
    (hback : PassedOver dialect back rest) : PassedOver dialect (front ++ back) rest := by
  intro offset
  rw [List.append_assoc, hfront, hback, Text.byteSize_append, Nat.add_assoc]

/-- A piece that is no semicolon is passed over. -/
theorem of_nextPiece (hrole : (nextPiece dialect c cs).1.role ≠ .terminator) (hcs : cs = part ++ rest)
    (hrest : (nextPiece dialect c cs).2 = rest) : PassedOver dialect (c :: part) rest := by
  subst hcs
  have htext : (nextPiece dialect c (part ++ rest)).1.text = c :: part := by
    have happend := nextPiece_append dialect c (part ++ rest)
    rw [hrest, ← List.cons_append] at happend
    exact List.append_cancel_right happend
  intro offset
  rw [List.cons_append, pieces, endsFrom, if_neg hrole, List.nil_append, htext, hrest]

theorem of_standsAlone (halone : standsAlone dialect c cs = true) : PassedOver dialect [c] cs := by
  rw [standsAlone, Bool.and_eq_true, bne_iff_ne, beq_iff_eq] at halone
  refine of_nextPiece halone.1 rfl ?_
  have happend := nextPiece_append dialect c cs
  rw [halone.2] at happend
  exact (List.cons.inj happend).2

theorem of_allAlone {n : Nat} {cs : List Char} (halone : allAlone dialect n cs = true) :
    PassedOver dialect (cs.take n) (cs.drop n) := by
  fun_induction allAlone dialect n cs with
  | case1 n c cs ih =>
    rw [Bool.and_eq_true] at halone
    have hfirst : PassedOver dialect [c] (cs.take n ++ cs.drop n) := by
      rw [List.take_append_drop]
      exact of_standsAlone halone.1
    exact hfirst.append (ih halone.2)
  | case2 n cs hnil =>
    cases n with
    | zero => exact nil dialect cs
    | succ n =>
      cases cs with
      | nil => exact nil dialect []
      | cons c cs => exact absurd rfl (hnil n c cs rfl)

end PassedOver

/-- The characters that are not always pieces of their own. -/
def opening : List Char :=
  ['\x27', '"', '\x60', '$', '-', '#', '/', ';']

theorem forall_mem_opening {p : Char → Prop} :
    (∀ d ∈ opening, p d) ↔ p '\x27' ∧ p '"' ∧ p '\x60' ∧ p '$' ∧ p '-' ∧ p '#' ∧ p '/' ∧ p ';' := by
  simp only [opening, List.forall_mem_cons, List.not_mem_nil, false_implies, implies_true, and_true]

theorem not_mem_opening {c : Char} {p : Char → Bool} (hopening : ∀ d ∈ opening, p d = false) (hc : p c = true) :
    c ∉ opening := by
  intro hmem
  rw [hopening c hmem] at hc
  cases hc

theorem not_mem_opening_of_isBlank {c : Char} (hc : Text.isBlank c = true) : c ∉ opening :=
  not_mem_opening (forall_mem_opening.2 ⟨rfl, rfl, rfl, rfl, rfl, rfl, rfl, rfl⟩) hc

theorem not_mem_opening_of_isHexDigit {c : Char} (hc : Sql.Lexer.isHexDigit c = true) : c ∉ opening :=
  not_mem_opening (forall_mem_opening.2 ⟨rfl, rfl, rfl, rfl, rfl, rfl, rfl, rfl⟩) hc

theorem standsAlone_of_not_opening (dialect : Dialect) {c : Char} (hc : c ∉ opening) (cs : List Char) :
    standsAlone dialect c cs = true := by
  simp only [opening, List.mem_cons, List.not_mem_nil, or_false, not_or] at hc
  have hpiece : nextPiece dialect c cs = (⟨if Text.isPlainBlank c then .filler else .code, [c]⟩, cs) := by
    simp [nextPiece, hc]
  rw [standsAlone, hpiece]
  by_cases hblank : Text.isPlainBlank c = true <;> simp [hblank]

theorem allAlone_of_not_opening (dialect : Dialect) {n : Nat} {cs : List Char} (hcs : ∀ c ∈ cs.take n, c ∉ opening) :
    allAlone dialect n cs = true := by
  fun_induction allAlone dialect n cs with
  | case1 n c cs ih =>
    obtain ⟨hc, hrest⟩ := List.forall_mem_cons.1 hcs
    rw [standsAlone_of_not_opening dialect hc, ih hrest]
    rfl
  | case2 => rfl

namespace PassedOver

variable {dialect : Dialect} {rest : List Char}

/-- What is passed over before a part that is passed over itself. -/
theorem of_append {front back : List Char} (hall : PassedOver dialect (front ++ back) rest)
    (hback : PassedOver dialect back rest) : PassedOver dialect front (back ++ rest) := by
  intro offset
  rw [← List.append_assoc, hall, hback, Text.byteSize_append, Nat.add_assoc]

theorem of_not_opening {part : List Char} (hpart : ∀ c ∈ part, c ∉ opening) : PassedOver dialect part rest := by
  have halone : allAlone dialect part.length (part ++ rest) = true :=
    allAlone_of_not_opening dialect (by simpa using hpart)
  simpa using of_allAlone halone

/-- A quoted text. -/
theorem quoted {quote : Char} {cs : List Char} {n : Nat} (hquote : quote ∈ ['\x27', '"', '\x60'])
    (hends : EndsQuoted (dialect == .mySQL && quote != '\x60') quote cs n) :
    PassedOver dialect (quote :: cs.take n) (cs.drop n) := by
  have hslash : quote ≠ '\\' := by
    rintro rfl
    exact absurd hquote (by decide)
  have hpiece : nextPiece dialect quote cs = (⟨.code, quote :: cs.take n⟩, cs.drop n) := by
    have hopens : (quote == '\x27' || quote == '"' || quote == '\x60') = true := by simpa [or_assoc] using hquote
    simp [nextPiece, hopens, hends.quotedRest_eq hslash]
  exact of_nextPiece (by simp [hpiece]) (List.take_append_drop n cs).symm (by rw [hpiece])

/-- A comment that ends with its line, up to the blanks before the end of the line. -/
theorem lineComment {c : Char} {cs blanks : List Char} {n : Nat}
    (hrole : (nextPiece dialect c cs).1.role ≠ .terminator) (hdrop : cs.drop n = blanks ++ (nextPiece dialect c cs).2)
    (hblanks : ∀ b ∈ blanks, Text.isPlainBlank b = true) : PassedOver dialect (c :: cs.take n) (cs.drop n) := by
  have hblank : PassedOver dialect blanks (nextPiece dialect c cs).2 :=
    of_not_opening fun b hb => not_mem_opening_of_isBlank (Text.isBlank_of_isPlainBlank (hblanks b hb))
  have hcs : cs = (cs.take n ++ blanks) ++ (nextPiece dialect c cs).2 := by
    rw [List.append_assoc, ← hdrop, List.take_append_drop]
  rw [hdrop]
  exact of_append (of_nextPiece hrole hcs rfl) hblank

end PassedOver

/-- The rest of a line behind a comment in it is blank. -/
theorem drop_lineComment (cs : List Char) :
    ∃ blanks, (∀ b ∈ blanks, Text.isPlainBlank b = true) ∧ cs.drop (lineComment cs) = blanks ++ (lineRest cs).2 := by
  have hline : cs.takeWhile (· != '\n') =
      ((cs.takeWhile (· != '\n')).reverse.dropWhile Text.isPlainBlank).reverse ++
        ((cs.takeWhile (· != '\n')).reverse.takeWhile Text.isPlainBlank).reverse := by
    rw [← List.reverse_append, List.takeWhile_append_dropWhile, List.reverse_reverse]
  refine ⟨((cs.takeWhile (· != '\n')).reverse.takeWhile Text.isPlainBlank).reverse, ?_, ?_⟩
  · intro b hb
    exact List.mem_takeWhile_imp (List.mem_reverse.1 hb)
  · have hcs : cs = ((cs.takeWhile (· != '\n')).reverse.dropWhile Text.isPlainBlank).reverse ++
        (((cs.takeWhile (· != '\n')).reverse.takeWhile Text.isPlainBlank).reverse ++ (lineRest cs).2) := by
      rw [← List.append_assoc, ← hline]
      exact List.takeWhile_append_dropWhile.symm
    have hlength : lineComment cs =
        ((cs.takeWhile (· != '\n')).reverse.dropWhile Text.isPlainBlank).reverse.length := by
      rw [lineComment, List.length_reverse]
    rw [hlength]
    exact (congrArg (List.drop _) hcs).trans List.drop_left

/-- Whether a comment opens in a text. -/
def opensComment : List Char → Bool
  | [] => false
  | '/' :: '*' :: _ => true
  | _ :: rest => opensComment rest

/-- A block comment in which no other one opens ends at its first end. -/
theorem blockRest_of_blockComment? {last : Char} {cs : List Char} {n : Nat}
    (hblock : blockComment? 1 last cs = some n) (hnone : opensComment (last :: cs.take n) = false) :
    blockRest (last :: cs) = (last :: cs.take n, cs.drop n) := by
  induction cs generalizing last n with
  | nil => cases hblock
  | cons c cs ih =>
    rw [blockComment?] at hblock
    split at hblock
    · next hopens =>
      obtain ⟨m, -, rfl⟩ := Option.map_eq_some_iff.1 hblock
      simp only [Bool.and_eq_true, beq_iff_eq] at hopens
      simp [hopens, opensComment] at hnone
    · split at hblock
      · next hcloses =>
        cases hblock
        simp [blockRest, hcloses]
      · next hcloses =>
        obtain ⟨m, hm, rfl⟩ := Option.map_eq_some_iff.1 hblock
        have hrest : opensComment (c :: cs.take m) = false := by
          rw [List.take_succ_cons, opensComment] at hnone
          · exact hnone
          · rintro rest rfl hrest
            simp_all
        rw [blockRest, if_neg hcloses, ih hm hrest]
        rfl

theorem PassedOver.blockComment {dialect : Dialect} {rest : List Char} {n : Nat}
    (hblock : blockComment? 1 ' ' rest = some n) (hnone : opensComment (rest.take n) = false) :
    PassedOver dialect ('/' :: '*' :: rest.take n) (rest.drop n) := by
  have hends : blockRest rest = (rest.take n, rest.drop n) := by
    have hspaced := blockRest_of_blockComment? hblock (by rw [opensComment]; exact hnone; simp)
    cases rest with
    | nil => cases hblock
    | cons c rest => simpa [blockRest, Prod.ext_iff] using hspaced
  have hpiece : nextPiece dialect '/' ('*' :: rest) = (⟨.filler, '/' :: '*' :: rest.take n⟩, rest.drop n) := by
    simp [nextPiece, hends]
  have hcs : '*' :: rest = '*' :: rest.take n ++ rest.drop n := by rw [List.cons_append, List.take_append_drop]
  exact of_nextPiece (by simp [hpiece]) hcs (by rw [hpiece])

/-- A mark that is the first one in the text that it ends is the first one whatever follows. -/
theorem throughMark_append_of_first {mark front : List Char} (hmark : mark ≠ [])
    (hfirst : (throughMark mark (front ++ mark)).2 = []) (rest : List Char) :
    throughMark mark (front ++ mark ++ rest) = (front ++ mark, rest) := by
  induction front with
  | nil =>
    obtain ⟨m, more, rfl⟩ := List.exists_cons_of_ne_nil hmark
    have hstarts : (m :: more).isPrefixOf (m :: (more ++ rest)) = true :=
      List.isPrefixOf_iff_prefix.2 (List.prefix_append (m :: more) rest)
    rw [List.nil_append, List.cons_append, throughMark, if_pos hstarts, ← List.cons_append, List.take_left,
      List.drop_left]
  | cons c front ih =>
    rw [List.cons_append, throughMark] at hfirst
    have hlate : ¬ mark.isPrefixOf (c :: (front ++ mark)) = true := by
      intro hstarts
      rw [if_pos hstarts, List.drop_eq_nil_iff, List.length_cons, List.length_append] at hfirst
      omega
    rw [if_neg hlate] at hfirst
    have hstill : ¬ mark.isPrefixOf (c :: (front ++ mark ++ rest)) = true := by
      intro hstarts
      have hprefix := List.isPrefixOf_iff_prefix.1 hstarts
      exact hlate (List.isPrefixOf_iff_prefix.2 (List.prefix_of_prefix_length_le hprefix
        (List.prefix_append (c :: (front ++ mark)) rest) (by simp; omega)))
    rw [List.cons_append, List.cons_append, throughMark, if_neg hstill, ih hfirst]

/-- The text between dollar marks ends with the mark that closes it. -/
theorem exists_of_dollarBody? {cs : List Char} {n : Nat} (hbody : dollarBody? cs = some n) :
    ∃ front, cs.take n = front ++ ['$', '$'] := by
  fun_induction dollarBody? cs generalizing n with
  | case1 rest =>
    cases hbody
    exact ⟨[], rfl⟩
  | case2 c rest _ ih =>
    obtain ⟨m, hm, rfl⟩ := Option.map_eq_some_iff.1 hbody
    obtain ⟨front, hfront⟩ := ih hm
    exact ⟨c :: front, by rw [List.take_succ_cons, hfront, List.cons_append]⟩
  | case3 => cases hbody

private theorem take_of_takeWhile_zip {tag cs : List Char}
    (hsame : ¬ ((tag.zip cs).takeWhile fun (a, b) => a == b).length < tag.length) : cs.take tag.length = tag := by
  induction tag generalizing cs with
  | nil => rfl
  | cons t tag ih =>
    cases cs with
    | nil => simp at hsame
    | cons c cs =>
      by_cases heq : t = c
      · have hrest : cs.take tag.length = tag := ih (by simpa [heq] using hsame)
        rw [List.length_cons, List.take_succ_cons, hrest, heq]
      · simp [heq] at hsame

theorem exists_of_taggedBody? {tag cs : List Char} {n : Nat} (hbody : taggedBody? tag cs = some n) :
    ∃ front, cs.take n = front ++ ('$' :: tag ++ ['$']) := by
  fun_induction taggedBody? tag cs generalizing n with
  | case1 => cases hbody
  | case2 => cases hbody
  | case3 rest =>
    rename_i same hshort hlong ih
    obtain ⟨m, hm, rfl⟩ := Option.map_eq_some_iff.1 hbody
    obtain ⟨front, hfront⟩ := ih hm
    refine ⟨'$' :: (rest.take (same.length + 1) ++ front), ?_⟩
    have hsize : m + same.length + 2 = (same.length + 1 + m) + 1 := by omega
    rw [hsize, List.take_succ_cons, List.take_add, hfront]
    simp
  | case4 rest =>
    rename_i same hlong hcloses
    cases hbody
    refine ⟨[], ?_⟩
    have htag := take_of_takeWhile_zip hlong
    obtain ⟨after, hafter⟩ := List.head?_eq_some_iff.1 (beq_iff_eq.1 hcloses)
    rw [List.take_succ_cons, List.take_add, htag, hafter]
    rfl
  | case5 rest =>
    rename_i same hlong hcloses ih
    obtain ⟨m, hm, rfl⟩ := Option.map_eq_some_iff.1 hbody
    obtain ⟨front, hfront⟩ := ih hm
    refine ⟨'$' :: (rest.take tag.length ++ front), ?_⟩
    rw [List.take_succ_cons, Nat.add_comm m, List.take_add, hfront]
    simp
  | case6 c rest _ ih =>
    obtain ⟨m, hm, rfl⟩ := Option.map_eq_some_iff.1 hbody
    obtain ⟨front, hfront⟩ := ih hm
    exact ⟨c :: front, by simp [hfront]⟩

/-- A dollar-quoted text has its mark twice, and its own text between. -/
theorem exists_of_dollar {cs : List Char} {value : String} {n : Nat}
    (hdollar : Sql.Lexer.dollar cs = some (.text .dollar value, n)) :
    ∃ tag front, cs.takeWhile isTagPart = tag ∧ cs.take n = tag ++ '$' :: (front ++ ('$' :: tag ++ ['$'])) := by
  unfold Sql.Lexer.dollar at hdollar
  split at hdollar
  · next rest =>
    obtain ⟨m, hm, heq⟩ := Option.map_eq_some_iff.1 hdollar
    cases heq
    obtain ⟨front, hfront⟩ := exists_of_dollarBody? hm
    have hmark : isTagPart '$' = false := rfl
    exact ⟨[], front, by simp [hmark], by simp [hfront]⟩
  · generalize htag : cs.takeWhile isTagPart = tag at hdollar
    have hcs : cs = tag ++ cs.drop tag.length := by
      have hprefix : tag <+: cs := htag ▸ List.takeWhile_prefix isTagPart
      rw [List.prefix_iff_eq_append.1 hprefix]
    unfold Sql.Lexer.tagged at hdollar
    dsimp only at hdollar
    split at hdollar
    · next rest hrest =>
      obtain ⟨m, hm, heq⟩ := Option.map_eq_some_iff.1 hdollar
      cases heq
      obtain ⟨front, hfront⟩ := exists_of_taggedBody? hm
      rw [hrest] at hcs
      refine ⟨tag, front, rfl, ?_⟩
      rw [hcs, Nat.add_assoc, List.take_length_add_append, Nat.add_comm 1, List.take_succ_cons, hfront]
    · cases hdollar

/-- Whether a dollar-quoted text opens with a plain tag and closes with the first mark behind that. -/
def closesFirst (cs : List Char) (n : Nat) : Bool :=
  let tag := cs.takeWhile isTagPart
  tag.all isTagChar && !tag.head?.any Char.isDigit &&
    (throughMark ('$' :: tag ++ ['$']) ((cs.take n).drop (tag.length + 1))).2.isEmpty

theorem PassedOver.dollar {cs : List Char} {value : String} {n : Nat}
    (hdollar : Sql.Lexer.dollar cs = some (.text .dollar value, n)) (hfirst : closesFirst cs n = true) :
    PassedOver .postgreSQL ('$' :: cs.take n) (cs.drop n) := by
  obtain ⟨tag, front, htag, htake⟩ := exists_of_dollar hdollar
  simp only [closesFirst, htag, htake, Bool.and_eq_true, Bool.not_eq_true', List.all_eq_true] at hfirst
  obtain ⟨⟨hplain, hdigit⟩, hclose⟩ := hfirst
  rw [List.drop_length_add_append, List.drop_succ_cons, List.drop_zero, List.isEmpty_iff] at hclose
  have hcs : cs = tag ++ '$' :: (front ++ ('$' :: tag ++ ['$']) ++ cs.drop n) := by
    have hsplit := (List.take_append_drop n cs).symm
    rw [htake] at hsplit
    simpa using hsplit
  have hopens : dollarTag? cs = some (tag ++ ['$'], front ++ ('$' :: tag ++ ['$']) ++ cs.drop n) := by
    have hhead : cs.head?.any Char.isDigit = false := by
      rw [hcs]
      cases tag with
      | nil => rfl
      | cons c tag => exact hdigit
    have hdrop : cs.dropWhile isTagChar = '$' :: (front ++ ('$' :: tag ++ ['$']) ++ cs.drop n) := by
      conv_lhs => rw [hcs]
      rw [List.dropWhile_append_of_pos hplain, List.dropWhile_cons_of_neg (by decide)]
    have hwhile : cs.takeWhile isTagChar = tag := by
      conv_lhs => rw [hcs]
      rw [List.takeWhile_append_of_pos hplain, List.takeWhile_cons_of_neg (by decide), List.append_nil]
    rw [dollarTag?, hhead, hdrop, hwhile]
    rfl
  have hmark := throughMark_append_of_first (by simp) hclose (cs.drop n)
  have hrest : (nextPiece .postgreSQL '$' cs).2 = cs.drop n := by
    simp only [nextPiece, hopens]
    simpa using congrArg Prod.snd hmark
  refine of_nextPiece ?_ (List.take_append_drop n cs).symm hrest
  simp [nextPiece, hopens]

/-- Whether a quote behind the opening one is escaped in the body of a literal, which the opening quote leads. -/
def hasEscapedQuote : List Char → Bool
  | [] => false
  | quote :: body => escapesQuote quote body

/-- Whether the splitter comes out of a literal where the lexer does. Escaped quotes count in the kinds where one of
    the two readers knows of escapes and the other does not. -/
def textAlike (dialect : Dialect) (kind : Sql.TextKind) (cs : List Char) (n : Nat) : Bool :=
  match kind with
  | .single | .double | .unicode => true
  | .bits => dialect == .postgreSQL || !hasEscapedQuote (cs.take n)
  | .national | .escaped | .hex => dialect == .mySQL || !hasEscapedQuote (cs.take n)
  | .dollar => closesFirst cs n
  | .raw => false

/-- Whether the splitter comes out of a token where the lexer does. The token takes `n` characters after its first
    one. Apart from literals, quoted names and comments, its characters have to be pieces of their own; comments may not
    nest, which only the lexer lets them do. -/
def endsAlike (dialect : Dialect) (token : Token) (c : Char) (cs : List Char) (n : Nat) : Bool :=
  allAlone dialect (n + 1) (c :: cs) ||
  match token with
  | .symbol spelling => spelling == ";"
  | .word word => word.quote.isSome
  | .text kind _ => textAlike dialect kind cs n
  | .blank => c != '/' || !opensComment ((cs.take n).drop 1)
  | _ => false

/-- A token of `n` characters after `c` that is neither a literal nor a comment, nor in quotes. -/
def IsCode (c : Char) (n : Nat) : Token → Prop
  | .blank | .text _ _ => False
  | .word word => word.quote = none
  | .symbol spelling => spelling = ";" → c = ';' ∧ n = 0
  | _ => True

section Code

variable {grammar : Sql.Grammar} {c : Char} {cs : List Char} {token : Token} {n : Nat}

theorem isCode_name {start : List Char} (hname : Sql.Lexer.name grammar start cs = (token, n)) : IsCode c n token := by
  unfold Sql.Lexer.name at hname
  dsimp only at hname
  split at hname <;> cases hname <;> trivial

theorem isCode_letterWord (hword : Sql.Lexer.letterWord grammar c cs = (token, n)) : IsCode c n token := by
  cases hword
  trivial

theorem isCode_numberFrom {mantissa : List Char}
    (hnumber : Sql.Lexer.numberFrom grammar mantissa cs = (token, n)) : IsCode c n token := by
  unfold Sql.Lexer.numberFrom at hnumber
  dsimp only at hnumber
  split at hnumber <;> cases hnumber <;> trivial

theorem isCode_question (hquestion : Sql.Lexer.question grammar cs = some (token, n)) : IsCode c n token := by
  unfold Sql.Lexer.question at hquestion
  split at hquestion
  · split at hquestion <;> cases hquestion <;> simp [IsCode]
  · cases hquestion
    trivial

/-- The semicolon is spelled in one way only. -/
theorem symbolRules_semicolon {rule : Sql.Lexer.SymbolRule} (hrule : rule ∈ Sql.Lexer.symbolRules grammar c)
    (hspelling : rule.spelling = ";") : c = ';' ∧ rule.tail = [] ∧ rule.growth = .none := by
  unfold Sql.Lexer.symbolRules at hrule
  cases grammar <;> split at hrule <;> grind

theorem isCode_symbolRule {rule : Sql.Lexer.SymbolRule} (hrule : rule ∈ Sql.Lexer.symbolRules grammar c)
    (hscan : rule.scan grammar c cs = some (token, n)) : IsCode c n token := by
  unfold Sql.Lexer.SymbolRule.scan at hscan
  split at hscan
  · cases hscan
    intro hspelling
    obtain ⟨hc, htail, -⟩ := symbolRules_semicolon hrule hspelling
    exact ⟨hc, by rw [htail, List.length_nil]⟩
  · next hgrowth =>
    have hother : rule.spelling ≠ ";" := by
      intro hspelling
      rw [(symbolRules_semicolon hrule hspelling).2.2] at hgrowth
      cases hgrowth
    unfold Sql.Lexer.operator at hscan
    dsimp only at hscan
    split at hscan <;> cases hscan
    · exact fun hspelling => absurd hspelling hother
    · trivial
  · next hgrowth =>
    split at hscan
    · cases hscan
      intro hspelling
      rw [(symbolRules_semicolon hrule hspelling).2.2] at hgrowth
      cases hgrowth
    · exact isCode_name (Option.some.inj hscan)

/-- What starts with a dollar sign is a text or a placeholder. -/
theorem dollar_cases (hdollar : Sql.Lexer.dollar cs = some (token, n)) :
    (∃ value, token = .text .dollar value) ∨ IsCode c n token := by
  unfold Sql.Lexer.dollar at hdollar
  split at hdollar
  · obtain ⟨m, -, heq⟩ := Option.map_eq_some_iff.1 hdollar
    cases heq
    exact .inl ⟨_, rfl⟩
  · unfold Sql.Lexer.tagged at hdollar
    dsimp only at hdollar
    split at hdollar
    · obtain ⟨m, -, heq⟩ := Option.map_eq_some_iff.1 hdollar
      cases heq
      exact .inl ⟨_, rfl⟩
    · cases hdollar
      exact .inr trivial

end Code

section Scan

variable {dialect : Dialect} {c : Char} {cs : List Char} {token : Token} {n : Nat}

/-- A token is the semicolon at its first character, or it is passed over. -/
def Stepped (dialect : Dialect) (token : Token) (c : Char) (cs : List Char) (n : Nat) : Prop :=
  (token = .symbol ";" ∧ c = ';' ∧ n = 0) ∨
    (token ≠ .symbol ";" ∧ PassedOver dialect (c :: cs.take n) (cs.drop n))

theorem EndsQuoted.of_alike {escapes other : Bool} {quote : Char} (hends : EndsQuoted escapes quote cs n)
    (hquote : quote ≠ '\\') (halike : escapes = other ∨ escapesQuote quote (cs.take n) = false) :
    EndsQuoted other quote cs n := by
  rcases halike with rfl | hnone
  · exact hends
  · exact ⟨hends.1.of_escapesQuote_eq_false hquote hnone other, hends.2⟩

/-- The literals that a letter opens, in the grammars of the dialects. -/
theorem literalRules_cases {letter : Char} {rule : Sql.Lexer.LiteralRule}
    (hrule : rule ∈ Sql.Lexer.literalRules dialect.grammar letter) :
    (∃ quote ∈ ['\x27', '"'], rule.opening = [quote] ∧ rule.kind = .bits ∧ rule.text? = quoted? false quote) ∨
    (rule.opening = ['\x27'] ∧ (rule.kind = .national ∨ rule.kind = .hex) ∧ rule.text? = quoted? true '\x27') ∨
    (rule.opening = ['\x27'] ∧ rule.kind = .escaped ∧ rule.text? = Sql.Lexer.escapedText?) ∨
    (rule.opening = ['&', '\x27'] ∧ dialect = .postgreSQL ∧ rule.text? = Sql.Lexer.unicodeText?) := by
  unfold Sql.Lexer.literalRules at hrule
  cases dialect <;> split at hrule <;> simp_all [Dialect.grammar]
  all_goals grind

theorem not_opening_of_literalRules {grammar : Sql.Grammar} {rule : Sql.Lexer.LiteralRule}
    (hrule : rule ∈ Sql.Lexer.literalRules grammar c.toLower) : c ∉ opening := by
  intro hc
  have hnone : ∀ d ∈ opening, Sql.Lexer.literalRules grammar d.toLower = [] :=
    forall_mem_opening.2 ⟨rfl, rfl, rfl, rfl, rfl, rfl, rfl, rfl⟩
  rw [hnone c hc] at hrule
  cases hrule

/-- The quoted part of a literal, read with escapes or without. -/
theorem PassedOver.quotedLiteral {escapes : Bool} {quote : Char} (hquote : quote ∈ ['\x27', '"'])
    (hends : EndsQuoted escapes quote cs n)
    (halike : escapes = (dialect == .mySQL) ∨ hasEscapedQuote (quote :: cs.take n) = false) :
    PassedOver dialect (quote :: cs.take n) (cs.drop n) := by
  have hquotes : quote ≠ '\\' ∧ (quote != '\x60') = true := by
    simp only [List.mem_cons, List.not_mem_nil, or_false] at hquote
    rcases hquote with rfl | rfl <;> decide
  refine quoted (List.mem_append_left ['\x60'] hquote) ?_
  rw [hquotes.2, Bool.and_true]
  exact hends.of_alike hquotes.1 halike

theorem Stepped.letterLiteral (hliteral : Sql.Lexer.letterLiteral? dialect.grammar c cs = some (some (token, n)))
    (halike : endsAlike dialect token c cs n = true) : Stepped dialect token c cs n := by
  obtain ⟨rule, hfind, hscan⟩ := Option.map_eq_some_iff.1 hliteral
  obtain ⟨⟨text, m⟩, htext, heq⟩ := Option.map_eq_some_iff.1 hscan
  cases heq
  have hrule := List.mem_of_find?_eq_some hfind
  have hopens : rule.opening.isPrefixOf cs = true := by simpa using List.find?_some hfind
  obtain ⟨rest, rfl⟩ := List.isPrefixOf_iff_prefix.1 hopens
  rw [List.drop_left] at htext
  refine .inr ⟨by simp, ?_⟩
  unfold endsAlike at halike
  rcases Bool.or_eq_true_iff.1 halike with halone | htextAlike
  · exact PassedOver.of_allAlone halone
  have hletter : ∀ after, PassedOver dialect [c] after := fun after =>
    .of_standsAlone (standsAlone_of_not_opening dialect (not_opening_of_literalRules hrule) after)
  refine (hletter _).append ?_
  rcases literalRules_cases hrule with ⟨quote, hquote, hopening, hkind, hread⟩ | ⟨hopening, hkind, hread⟩ |
    ⟨hopening, hkind, hread⟩ | ⟨hopening, hdialect, hread⟩
  · rw [hread] at htext
    rw [hopening] at htextAlike ⊢
    refine PassedOver.quotedLiteral hquote (endsQuoted_of_quoted? htext) ?_
    rw [hkind] at htextAlike
    cases dialect
    · exact .inl rfl
    · exact .inr (by simpa [textAlike] using htextAlike)
  · rw [hread] at htext
    rw [hopening] at htextAlike ⊢
    refine PassedOver.quotedLiteral (by simp) (endsQuoted_of_quoted? htext) ?_
    cases dialect
    · rcases hkind with hkind | hkind <;> rw [hkind] at htextAlike <;>
        exact .inr (by simpa [textAlike] using htextAlike)
    · exact .inl rfl
  · rw [hread] at htext
    rw [hopening] at htextAlike ⊢
    refine PassedOver.quotedLiteral (by simp) (endsQuoted_of_escapedText? htext) ?_
    rw [hkind] at htextAlike
    cases dialect
    · exact .inr (by simpa [textAlike] using htextAlike)
    · exact .inl rfl
  · rw [hread] at htext
    subst hdialect
    have hquoted : PassedOver .postgreSQL ('\x27' :: rest.take m) (rest.drop m) :=
      .quotedLiteral (by simp) (endsQuoted_of_unicodeText? htext) (.inl rfl)
    have hand : PassedOver .postgreSQL ['&'] ('\x27' :: rest.take m ++ rest.drop m) :=
      .of_not_opening (by simp [opening])
    rw [hopening]
    exact hand.append hquoted

theorem Stepped.of_isCode (hcode : IsCode c n token) (halike : endsAlike dialect token c cs n = true) :
    Stepped dialect token c cs n := by
  by_cases hsemicolon : token = .symbol ";"
  · subst hsemicolon
    exact .inl ⟨rfl, hcode rfl⟩
  · refine .inr ⟨hsemicolon, ?_⟩
    unfold endsAlike at halike
    rcases Bool.or_eq_true_iff.1 halike with halone | hmatch
    · exact PassedOver.of_allAlone halone
    · cases token <;> simp_all [IsCode]

theorem Stepped.number (hnumber : Sql.Lexer.number dialect.grammar c cs = (token, n))
    (halike : endsAlike dialect token c cs n = true) : Stepped dialect token c cs n := by
  unfold Sql.Lexer.number at hnumber
  dsimp only at hnumber
  split at hnumber
  · next hhex =>
    cases hnumber
    simp only [Bool.and_eq_true, beq_iff_eq] at hhex
    obtain ⟨rfl, hx⟩ := hhex
    obtain ⟨rest, rfl⟩ := List.head?_eq_some_iff.1 hx
    refine .inr ⟨by simp, PassedOver.of_not_opening ?_⟩
    have hdigits : (('x' :: rest).drop 1).takeWhile Sql.Lexer.isHexDigit = rest.takeWhile Sql.Lexer.isHexDigit := rfl
    have htake : rest.take (rest.takeWhile Sql.Lexer.isHexDigit).length = rest.takeWhile Sql.Lexer.isHexDigit :=
      (List.prefix_iff_eq_take.1 (List.takeWhile_prefix _)).symm
    rw [hdigits, Nat.add_comm, List.take_succ_cons, htake]
    intro d hd
    rcases List.mem_cons.1 hd with rfl | hd
    · exact not_mem_opening_of_isHexDigit rfl
    rcases List.mem_cons.1 hd with rfl | hd
    · simp [opening]
    · exact not_mem_opening_of_isHexDigit (List.mem_takeWhile_imp hd)
  · split at hnumber
    · cases hnumber
      exact .of_isCode (by simp [IsCode]) halike
    · exact .of_isCode (isCode_numberFrom hnumber) halike

theorem Stepped.comment (hcomment : Sql.Lexer.comment? dialect.grammar c cs = some (some (token, n)))
    (halike : endsAlike dialect token c cs n = true) : Stepped dialect token c cs n := by
  unfold Sql.Lexer.comment? at hcomment
  split at hcomment
  · next rest =>
    cases hcomment
    refine .inr ⟨by simp, ?_⟩
    obtain ⟨blanks, hblanks, hdrop⟩ := drop_lineComment rest
    have hpiece : nextPiece dialect '-' ('-' :: rest) =
        (⟨.filler, '-' :: (lineRest ('-' :: rest)).1⟩, (lineRest rest).2) := by
      simp [nextPiece, lineRest]
    refine PassedOver.lineComment (by simp [hpiece]) ?_ hblanks
    rw [hpiece, Nat.add_comm, List.drop_succ_cons, hdrop]
  · next rest =>
    obtain ⟨m, hm, heq⟩ := Option.map_eq_some_iff.1 (Option.some.inj hcomment)
    cases heq
    refine .inr ⟨by simp, ?_⟩
    unfold endsAlike at halike
    rcases Bool.or_eq_true_iff.1 halike with halone | hnone
    · exact PassedOver.of_allAlone halone
    · exact PassedOver.blockComment hm (by simpa using hnone)
  · split at hcomment
    · next hmySQL =>
      cases hcomment
      refine .inr ⟨by simp, ?_⟩
      obtain ⟨blanks, hblanks, hdrop⟩ := drop_lineComment cs
      have hdialect : dialect = .mySQL := by cases dialect <;> simp_all [Dialect.grammar]
      have hpiece : nextPiece dialect '#' cs = (⟨.filler, '#' :: (lineRest cs).1⟩, (lineRest cs).2) := by
        simp [nextPiece, hdialect]
      exact PassedOver.lineComment (by simp [hpiece]) (by rw [hpiece, hdrop]) hblanks
    · cases hcomment
  · cases hcomment

theorem Stepped.symbol (hsymbol : Sql.Lexer.symbol? dialect.grammar c cs = some (some (token, n)))
    (halike : endsAlike dialect token c cs n = true) : Stepped dialect token c cs n := by
  unfold Sql.Lexer.symbol? at hsymbol
  split at hsymbol
  · next found hcomment =>
    cases hsymbol
    exact .comment hcomment halike
  · split at hsymbol
    · exact .of_isCode (isCode_question (Option.some.inj hsymbol)) halike
    · obtain ⟨rule, hfind, hscan⟩ := Option.map_eq_some_iff.1 hsymbol
      exact .of_isCode (isCode_symbolRule (List.mem_of_find?_eq_some hfind) hscan) halike

theorem Stepped.wordOrOther (hword : Sql.Lexer.wordOrOther dialect.grammar c cs = some (token, n))
    (halike : endsAlike dialect token c cs n = true) : Stepped dialect token c cs n := by
  unfold Sql.Lexer.wordOrOther at hword
  split at hword
  · exact .of_isCode (isCode_letterWord (Option.some.inj hword)) halike
  split at hword
  · exact .of_isCode (isCode_name (Option.some.inj hword)) halike
  · next hstart =>
    split at hword
    · next hc =>
      rw [beq_iff_eq] at hc
      subst hc
      rcases dollar_cases hword with ⟨value, rfl⟩ | hcode
      · have hdialect : dialect = .postgreSQL := by
          cases dialect
          · rfl
          · exact absurd rfl hstart
        subst hdialect
        refine .inr ⟨by simp, ?_⟩
        unfold endsAlike at halike
        rcases Bool.or_eq_true_iff.1 halike with halone | hfirst
        · exact PassedOver.of_allAlone halone
        · exact PassedOver.dollar hword hfirst
      · exact .of_isCode hcode halike
    split at hword
    · next hblank =>
      cases hword
      refine .inr ⟨by simp, PassedOver.of_not_opening ?_⟩
      intro d hd
      rw [List.mem_singleton.1 hd]
      exact not_mem_opening_of_isBlank hblank
    · cases hword
      exact .of_isCode trivial halike

/-- A text or a name in quotes, with escapes as the splitter knows them. -/
theorem Stepped.quoted (make : List Char → Token) (hmake : ∀ text, make text ≠ .symbol ";")
    (hc : c ∈ ['\x27', '"', '\x60'])
    (hscan : (quoted? (dialect == .mySQL && c != '\x60') c cs).map (fun found => (make found.1, found.2)) =
      some (token, n)) :
    Stepped dialect token c cs n := by
  obtain ⟨⟨text, m⟩, hquoted, heq⟩ := Option.map_eq_some_iff.1 hscan
  cases heq
  exact .inr ⟨hmake text, PassedOver.quoted hc (endsQuoted_of_quoted? hquoted)⟩

theorem Stepped.scanPlain (hscan : Sql.Lexer.scanPlain dialect.grammar c cs = some (token, n))
    (halike : endsAlike dialect token c cs n = true) : Stepped dialect token c cs n := by
  unfold Sql.Lexer.scanPlain at hscan
  split at hscan
  · next hc =>
    rw [beq_iff_eq] at hc
    subst hc
    cases dialect <;> exact .quoted (fun text => .text .single (.ofList text)) (by simp) (by simp) hscan
  split at hscan
  · next hquote =>
    -- Names are quoted by different characters in the two dialects, and never with escapes.
    cases dialect with
    | postgreSQL =>
      have hc : c = '"' := by simpa [Dialect.grammar, Sql.Grammar.isNameQuote] using hquote
      subst hc
      exact .quoted (fun text => .word (.quoted '"' (.ofList text))) (by simp) (by simp) hscan
    | mySQL =>
      have hc : c = '\x60' := by simpa [Dialect.grammar, Sql.Grammar.isNameQuote] using hquote
      subst hc
      exact .quoted (fun text => .word (.quoted '\x60' (.ofList text))) (by simp) (by simp) hscan
  split at hscan
  · next hc =>
    rw [beq_iff_eq] at hc
    subst hc
    cases dialect <;> exact .quoted (fun text => .text .double (.ofList text)) (by simp) (by simp) hscan
  split at hscan
  · exact .number (Option.some.inj hscan) halike
  · cases hsymbol : Sql.Lexer.symbol? dialect.grammar c cs with
    | none =>
      rw [hsymbol, Option.getD_none] at hscan
      exact .wordOrOther hscan halike
    | some found =>
      rw [hsymbol, Option.getD_some] at hscan
      subst hscan
      exact .symbol hsymbol halike

/-- One step of the lexer, as the splitter sees it. -/
theorem Stepped.scan (hscan : Sql.Lexer.scan dialect.grammar c cs = some (token, n))
    (halike : endsAlike dialect token c cs n = true) : Stepped dialect token c cs n := by
  unfold Sql.Lexer.scan at hscan
  split at hscan
  · next hc =>
    cases hscan
    refine .inr ⟨by simp, PassedOver.of_not_opening ?_⟩
    simp only [Bool.or_eq_true, beq_iff_eq] at hc
    rw [List.take_zero]
    rcases hc with (rfl | rfl) | rfl <;> simp [opening]
  split at hscan
  · next hc =>
    rw [beq_iff_eq] at hc
    subst hc
    split at hscan
    · next hnewline =>
      cases hscan
      obtain ⟨rest, rfl⟩ := List.head?_eq_some_iff.1 (beq_iff_eq.1 hnewline)
      refine .inr ⟨by simp, PassedOver.of_not_opening ?_⟩
      simp [opening]
    · cases hscan
      exact .inr ⟨by simp, PassedOver.of_not_opening (by simp [opening])⟩
  · cases hliteral : Sql.Lexer.letterLiteral? dialect.grammar c cs with
    | none =>
      rw [hliteral, Option.getD_none] at hscan
      exact .scanPlain hscan halike
    | some found =>
      rw [hliteral, Option.getD_some] at hscan
      subst hscan
      exact .letterLiteral hliteral halike

end Scan

/-- Whether the splitter comes out of every token of a text where the lexer does. -/
def readAlike (dialect : Dialect) : List Char → Bool
  | [] => true
  | c :: cs =>
    match scan dialect.grammar c cs with
    | none => true
    | some (token, n) => endsAlike dialect token c cs n && readAlike dialect (cs.drop n)
termination_by cs => cs.length
decreasing_by simp only [List.length_drop, List.length_cons]; omega

/-- Along a text, the splitter ends its chunks at the semicolons of the lexer. -/
theorem endsFrom_lexFrom {dialect : Dialect} {offset : Nat} {text : List Char} {lexemes : List Lexeme}
    (hlex : lexFrom dialect.grammar offset text = some lexemes) (halike : readAlike dialect text = true) :
    endsFrom offset (pieces dialect text) = (lexemes.filter (·.token = .symbol ";")).map (·.start) := by
  generalize hgrammar : dialect.grammar = grammar at hlex
  fun_induction lexFrom grammar offset text generalizing lexemes with
  | case1 =>
    cases hlex
    simp [pieces, endsFrom]
  | case2 => cases hlex
  | case3 offset c cs token n hscan =>
    rename_i stop ih
    subst hgrammar
    obtain ⟨rest, hrest, rfl⟩ := Option.map_eq_some_iff.1 hlex
    rw [readAlike, hscan, Bool.and_eq_true] at halike
    have hends := ih halike.2 hrest
    rcases Stepped.scan hscan halike.1 with ⟨rfl, rfl, rfl⟩ | ⟨hother, hpassed⟩
    · have hpiece : nextPiece dialect ';' cs = (⟨.terminator, [';']⟩, cs) := by simp [nextPiece]
      rw [pieces, hpiece, endsFrom, List.filter_cons_of_pos (by simp), List.map_cons, ← hends]
      rfl
    · have hpassed := hpassed offset
      rw [List.cons_append, List.take_append_drop] at hpassed
      rw [hpassed, Text.byteSize_cons, ← Nat.add_assoc, List.filter_cons_of_neg (by simpa using hother), ← hends]

/-- A text is split exactly at the semicolons among its tokens, and its statements are cut apart there, if the splitter
    comes out of each token where the lexer does. -/
theorem statementEnds_eq_semicolons (dialect : Dialect) (text : List Char) {lexemes : List Lexeme}
    (hlex : Sql.lex dialect.grammar text = some lexemes) (halike : readAlike dialect text = true) :
    statementEnds dialect text = (lexemes.filter (·.token = .symbol ";")).map (·.start) ∧
      CutAt ((lexemes.filter (·.token = .symbol ";")).map (·.start)) (statements dialect text) := by
  obtain ⟨all, hall, rfl⟩ := Option.map_eq_some_iff.1 hlex
  -- Blanks and comments are tokens too, but no semicolons.
  have hvisible : (all.filter (·.token != .blank)).filter (·.token = .symbol ";") =
      all.filter (·.token = .symbol ";") := by
    rw [List.filter_filter]
    apply List.filter_congr
    intro lexeme _
    by_cases hsemicolon : lexeme.token = .symbol ";" <;> simp [hsemicolon]
  have hends := endsFrom_lexFrom hall halike
  rw [← statementEnds_eq_endsFrom] at hends
  rw [hvisible, ← hends]
  exact ⟨rfl, cutAt_statements dialect text⟩

/-- Two statements with semicolons in texts and comments of all kinds. -/
def quotedSemicolons : List Char :=
  "SELECT 'a;\x27\x27', \"b;\", $x$;$x$, E'\\n;', U&'\\0041;' /* ; */ -- ; \n; SELECT a$b, $1;".toList

theorem statementEnds_eq_semicolons_quoted :
    readAlike .postgreSQL quotedSemicolons = true ∧ statementEnds .postgreSQL quotedSemicolons = [63, 79] ∧
      (∃ lexemes, Sql.lex .postgreSQL quotedSemicolons = some lexemes ∧
        (lexemes.filter (·.token = .symbol ";")).map (·.start) = [63, 79]) ∧
      CutAt [63, 79] (statements .postgreSQL quotedSemicolons) := by
  have halike : readAlike .postgreSQL quotedSemicolons = true := by decide +kernel
  have hends : statementEnds .postgreSQL quotedSemicolons = [63, 79] := by decide +kernel
  have hsome : (Sql.lex .postgreSQL quotedSemicolons).isSome = true := by decide +kernel
  obtain ⟨lexemes, hlex⟩ := Option.isSome_iff_exists.1 hsome
  obtain ⟨hsame, hcut⟩ := statementEnds_eq_semicolons .postgreSQL _ hlex halike
  rw [← hsame, hends] at hcut
  exact ⟨halike, hends, ⟨lexemes, hlex, hsame.symm.trans hends⟩, hcut⟩

/-- The quote behind the backslash does not close the literal, but the splitter takes it for its end. -/
theorem statementEnds_escaped_quote :
    statementEnds .postgreSQL "SELECT E'a\\';b';".toList = [12] ∧
      statements .postgreSQL "SELECT E'a\\';b';".toList = [⟨0, 12, true⟩, ⟨13, 3, false⟩] ∧
      (Sql.lex .postgreSQL "SELECT E'a\\';b';".toList).map (fun lexemes =>
        (lexemes.filter (·.token = .symbol ";")).map (·.start)) = some [15] := by
  refine ⟨?_, ?_, ?_⟩ <;> decide +kernel

end AnnotatedSql.Source
