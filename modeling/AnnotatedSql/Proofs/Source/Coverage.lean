import AnnotatedSql.Proofs.Source.Boundary
import AnnotatedSql.Proofs.Text.Position

/-!
What the statements of a source cover. A source is split into chunks (`SplitInto`), and each of them holds a statement
between blanks, or nothing but blanks and comments. So a character of the source that is in no statement is a blank, a
semicolon at which the source is split, or in a chunk of blanks and comments (`Placed`).
-/
namespace AnnotatedSql.Source

/-- A text of blanks and comments, given what stands behind it. A comment that ends with its line may end with the
    source, and so may a block comment that nothing closes. -/
inductive Idle (dialect : Dialect) (behind : List Char) : List Char → Prop where
  | nil : Idle dialect behind []
  | blank {c : Char} {rest : List Char} (hblank : Text.isBlank c = true) (hrest : Idle dialect behind rest) :
      Idle dialect behind (c :: rest)
  | lineComment {mark body rest : List Char} (hmark : mark = ['-', '-'] ∨ dialect = .mySQL ∧ mark = ['#'])
      (hbody : '\n' ∉ body) (hends : ∀ c ∈ (rest ++ behind).head?, c = '\n') (hrest : Idle dialect behind rest) :
      Idle dialect behind (mark ++ (body ++ rest))
  | blockComment {body rest : List Char} (hbody : ¬ ['*', '/'] <:+: body) (hrest : Idle dialect behind rest) :
      Idle dialect behind ('/' :: '*' :: (body ++ '*' :: '/' :: rest))
  | openComment {body : List Char} (hbody : ¬ ['*', '/'] <:+: body) (hbehind : behind = []) :
      Idle dialect behind ('/' :: '*' :: body)

/-- The rest of a block comment goes to the first `*/`, or to the end if there is none. -/
theorem blockRest_cases (cs : List Char) :
    (∃ body left, blockRest cs = (body ++ ['*', '/'], left) ∧ ¬ ['*', '/'] <:+: body) ∨
      blockRest cs = (cs, []) ∧ ¬ ['*', '/'] <:+: cs := by
  fun_induction blockRest cs with
  | case1 => exact .inr ⟨rfl, by simp⟩
  | case2 c => exact .inr ⟨rfl, by simp [List.infix_cons_iff]⟩
  | case3 c d rest hclose =>
    obtain ⟨rfl, rfl⟩ : c = '*' ∧ d = '/' := by simpa using hclose
    exact .inl ⟨[], rest, rfl, by simp⟩
  | case4 c d rest hopen taken left hrest ih =>
    have happend := blockRest_append (d :: rest)
    rw [hrest] at happend ih
    -- A `*/` that starts with `c` would go on with `d`.
    have hfirst : ∀ body, body ++ ['*', '/'] ++ left = d :: rest ∨ body = d :: rest →
        ¬ ['*', '/'] <:+: body → ¬ ['*', '/'] <:+: c :: body := by
      rintro body hbody hnone hinfix
      rcases List.infix_cons_iff.1 hinfix with hprefix | hinfix
      · obtain ⟨more, hmore⟩ := hprefix
        obtain ⟨rfl, rfl⟩ := List.cons.inj hmore
        rcases hbody with hbody | hbody <;> simp [← (List.cons.inj hbody).1] at hopen
      · exact hnone hinfix
    rcases ih with ⟨body, left', heq, hnone⟩ | ⟨heq, hnone⟩
    · obtain ⟨rfl, rfl⟩ := Prod.mk.inj heq
      exact .inl ⟨c :: body, left, rfl, hfirst body (.inl happend) hnone⟩
    · obtain ⟨rfl, rfl⟩ := Prod.mk.inj heq
      exact .inr ⟨rfl, hfirst _ (.inr rfl) hnone⟩

/-- A piece that is no code is a blank or a comment. -/
theorem nextPiece_filler {dialect : Dialect} {c : Char} {cs : List Char}
    (hrole : (nextPiece dialect c cs).1.role = .filler) :
    (Text.isPlainBlank c = true ∧ nextPiece dialect c cs = (⟨.filler, [c]⟩, cs)) ∨
      ((c = '-' ∧ cs.head? = some '-' ∨ dialect = .mySQL ∧ c = '#') ∧
        nextPiece dialect c cs = (⟨.filler, c :: (lineRest cs).1⟩, (lineRest cs).2)) ∨
      c = '/' ∧ ∃ rest, cs = '*' :: rest ∧
        nextPiece dialect c cs = (⟨.filler, '/' :: '*' :: (blockRest rest).1⟩, (blockRest rest).2) := by
  by_cases hquote : (c == '\x27' || c == '"' || c == '\x60') = true
  · simp [nextPiece, hquote] at hrole
  by_cases hdollar : (c == '$' && !dialect == .mySQL) = true
  · simp only [nextPiece, hquote, hdollar, if_true, if_false, Bool.false_eq_true] at hrole
    split at hrole <;> simp at hrole
  by_cases hdash : (c == '-' && cs.head? == some '-') = true
  · refine .inr (.inl ⟨.inl (by simpa using hdash), ?_⟩)
    simp only [nextPiece, hquote, hdollar, hdash, if_true, if_false, Bool.false_eq_true]
  by_cases hsharp : (c == '#' && dialect == .mySQL) = true
  · refine .inr (.inl ⟨.inr (by simpa [and_comm] using hsharp), ?_⟩)
    simp only [nextPiece, hquote, hdollar, hdash, hsharp, if_true, if_false, Bool.false_eq_true]
  by_cases hslash : (c == '/' && cs.head? == some '*') = true
  · obtain ⟨rfl, hstar⟩ : c = '/' ∧ cs.head? = some '*' := by simpa using hslash
    obtain ⟨rest, rfl⟩ := List.head?_eq_some_iff.1 hstar
    exact .inr (.inr ⟨rfl, rest, rfl, rfl⟩)
  · simp only [nextPiece, hquote, hdollar, hdash, hsharp, hslash, if_false, Bool.false_eq_true] at hrole
    split at hrole
    · simp at hrole
    · next hsemicolon =>
      have hblank : Text.isPlainBlank c = true := by
        by_contra hblank
        simp [hblank] at hrole
      refine .inl ⟨hblank, ?_⟩
      simp only [nextPiece, hquote, hdollar, hdash, hsharp, hslash, hsemicolon, hblank, if_true, if_false,
        Bool.false_eq_true]

/-- A blank or a comment in front of blanks and comments. -/
theorem Idle.piece {dialect : Dialect} {c : Char} {cs rest behind : List Char}
    (hrole : (nextPiece dialect c cs).1.role = .filler) (hleft : (nextPiece dialect c cs).2 = rest ++ behind)
    (hrest : Idle dialect behind rest) : Idle dialect behind ((nextPiece dialect c cs).1.text ++ rest) := by
  rcases nextPiece_filler hrole with ⟨hblank, hpiece⟩ | ⟨hmark, hpiece⟩ | ⟨rfl, body, rfl, hpiece⟩
  · rw [hpiece]
    exact .blank (Text.isBlank_of_isPlainBlank hblank) hrest
  · rw [hpiece] at hleft ⊢
    have hends : ∀ d ∈ (rest ++ behind).head?, d = '\n' := by
      intro d hd
      have hhead := List.head?_dropWhile_not (· != '\n') cs
      rw [show cs.dropWhile (· != '\n') = rest ++ behind from hleft, Option.mem_def.1 hd] at hhead
      simpa using hhead
    have hline : ∀ ds : List Char, '\n' ∉ ds.takeWhile (· != '\n') := by
      intro ds hmem
      simpa using List.mem_takeWhile_imp hmem
    rcases hmark with ⟨rfl, hdash⟩ | ⟨hdialect, rfl⟩
    · obtain ⟨body, rfl⟩ := List.head?_eq_some_iff.1 hdash
      have htaken : (lineRest ('-' :: body)).1 = '-' :: body.takeWhile (· != '\n') := rfl
      rw [htaken]
      exact .lineComment (.inl rfl) (hline body) hends hrest
    · exact .lineComment (.inr ⟨hdialect, rfl⟩) (hline cs) hends hrest
  · rw [hpiece] at hleft ⊢
    rcases blockRest_cases body with ⟨inner, left, hbody, hnone⟩ | ⟨hbody, hnone⟩
    · rw [hbody]
      simpa using Idle.blockComment hnone hrest
    · rw [hbody] at hleft ⊢
      obtain ⟨rfl, rfl⟩ := List.append_eq_nil_iff.1 hleft.symm
      simpa using Idle.openComment hnone rfl

/-- The first chunk of a text: up to the first semicolon that ends a statement, or to the end. -/
theorem exists_chunk (dialect : Dialect) (text : List Char) :
    ∃ chunk behind, text = concat chunk ++ behind ∧
      (chunk.any (·.role == .code) = false → Idle dialect behind (concat chunk)) ∧
      (behind = [] ∧ (pieces dialect text).splitOnP (·.role == .terminator) = [chunk] ∨
        ∃ rest, behind = ';' :: rest ∧ (pieces dialect text).splitOnP (·.role == .terminator) =
          chunk :: (pieces dialect rest).splitOnP (·.role == .terminator)) := by
  fun_induction pieces dialect text with
  | case1 => exact ⟨[], [], rfl, fun _ => .nil, .inl ⟨rfl, rfl⟩⟩
  | case2 c cs ih =>
    rw [List.splitOnP_cons_eq_if_modifyHead]
    by_cases hrole : (nextPiece dialect c cs).1.role = .terminator
    · have happend := nextPiece_append dialect c cs
      rw [nextPiece_terminator hrole cs] at happend ⊢
      exact ⟨[], ';' :: cs, happend.symm, fun _ => .nil, .inr ⟨cs, rfl, by simp⟩⟩
    · obtain ⟨chunk, behind, hleft, hidle, hsplit⟩ := ih
      have htext : c :: cs = concat ((nextPiece dialect c cs).1 :: chunk) ++ behind := by
        rw [concat, List.flatMap_cons, List.append_assoc, ← concat, ← hleft, nextPiece_append]
      have hne : ((nextPiece dialect c cs).1.role == .terminator) = false := by simpa using hrole
      refine ⟨(nextPiece dialect c cs).1 :: chunk, behind, htext, fun hnone => ?_, ?_⟩
      · obtain ⟨hcode, hothers⟩ : (nextPiece dialect c cs).1.role ≠ .code ∧ chunk.any (·.role == .code) = false := by
          simpa using hnone
        have hfiller : (nextPiece dialect c cs).1.role = .filler := by
          cases hcases : (nextPiece dialect c cs).1.role <;> simp_all
        exact (hidle hothers).piece hfiller hleft
      · simp only [hne, Bool.false_eq_true, if_false]
        rcases hsplit with ⟨hbehind, hsplit⟩ | ⟨rest, hbehind, hsplit⟩
        · exact .inl ⟨hbehind, by rw [hsplit]; rfl⟩
        · exact .inr ⟨rest, hbehind, by rw [hsplit]; rfl⟩

/-- What a chunk holds that starts at an offset: blanks and comments, or a statement between blanks. -/
inductive ChunkHolds (dialect : Dialect) (start : Nat) (behind : List Char) (terminated : Bool) :
    (chunk : List Char) → List Extent → Prop where
  | idle {chunk : List Char} (hidle : Idle dialect behind chunk) :
      ChunkHolds dialect start behind terminated chunk []
  | statement {lead body trail : List Char} (hlead : ∀ c ∈ lead, Text.isBlank c = true)
      (htrail : ∀ c ∈ trail, Text.isBlank c = true) (hbody : Text.IsTrimmed body) :
      ChunkHolds dialect start behind terminated (lead ++ (body ++ trail))
        [⟨start + Text.byteSize lead, Text.byteSize body, terminated⟩]

/-- A text behind a front is split into chunks at some offsets, and the chunks hold some statements. -/
inductive SplitInto (dialect : Dialect) : (front text : List Char) → List Nat → List Extent → Prop where
  | last {front chunk : List Char} {held : List Extent}
      (hheld : ChunkHolds dialect (Text.byteSize front) [] false chunk held) :
      SplitInto dialect front chunk [] held
  | cons {front chunk rest : List Char} {ends : List Nat} {held extents : List Extent}
      (hheld : ChunkHolds dialect (Text.byteSize front) (';' :: rest) true chunk held)
      (hrest : SplitInto dialect (front ++ chunk ++ [';']) rest ends extents) :
      SplitInto dialect front (chunk ++ ';' :: rest) (Text.byteSize (front ++ chunk) :: ends) (held ++ extents)

theorem chunkHolds_extentOf {dialect : Dialect} {behind : List Char} {chunk : List Piece}
    (hidle : chunk.any (·.role == .code) = false → Idle dialect behind (concat chunk)) (start : Nat)
    (terminated : Bool) :
    ChunkHolds dialect start behind terminated (concat chunk) (extentOf start chunk terminated).toList := by
  cases hextent : extentOf start chunk terminated with
  | none =>
    refine .idle (hidle ?_)
    simpa [extentOf] using hextent
  | some extent =>
    have htext := Text.leading_trim_trailing (concat chunk)
    rw [extentOf_eq_some hextent]
    generalize concat chunk = text at htext ⊢
    nth_rewrite 1 [← htext]
    exact .statement (fun _ => Text.isBlank_of_mem_leading) (fun _ => Text.isBlank_of_mem_trailing)
      (Text.isTrimmed_trim text)

theorem splitInto_extentsFrom (dialect : Dialect) (front text : List Char) :
    SplitInto dialect front text
      (chunkEnds (Text.byteSize front) ((pieces dialect text).splitOnP (·.role == .terminator)))
      (extentsFrom (Text.byteSize front) ((pieces dialect text).splitOnP (·.role == .terminator))) := by
  induction hlength : text.length using Nat.strong_induction_on generalizing front text with
  | _ length ih =>
    obtain ⟨chunk, behind, rfl, hidle, ⟨rfl, hsplit⟩ | ⟨rest, rfl, hsplit⟩⟩ := exists_chunk dialect text
    · rw [hsplit, List.append_nil]
      exact .last (chunkHolds_extentOf hidle _ _)
    · have hrest := ih rest.length (by simp at hlength; omega) (front ++ concat chunk ++ [';']) rest rfl
      have hsize : Text.byteSize (front ++ concat chunk ++ [';']) = Text.byteSize (front ++ concat chunk) + 1 :=
        Text.byteSize_append _ [';']
      obtain ⟨next, more, hmore⟩ := List.exists_cons_of_ne_nil
        (List.splitOnP_ne_nil (·.role == .terminator) (pieces dialect rest))
      rw [hsize, hmore] at hrest
      rw [hsplit, hmore, chunkEnds, extentsFrom, ← Text.byteSize_append]
      exact .cons (chunkHolds_extentOf hidle _ _) hrest

theorem splitInto_statements (dialect : Dialect) (source : List Char) :
    SplitInto dialect [] source (statementEnds dialect source) (statements dialect source) :=
  splitInto_extentsFrom dialect [] source

theorem ChunkHolds.text? {dialect : Dialect} {front behind chunk : List Char} {terminated : Bool}
    {held : List Extent} (hheld : ChunkHolds dialect (Text.byteSize front) behind terminated chunk held) :
    ∀ extent ∈ held, ∃ text, extent.text? (front ++ (chunk ++ behind)) = some text ∧ Text.IsTrimmed text := by
  cases hheld with
  | idle => simp
  | @statement lead body trail _ _ hbody =>
    have hslice := Text.slice?_append (front ++ lead) body (trail ++ behind)
    rw [Text.byteSize_append] at hslice
    simp only [List.forall_mem_singleton, Extent.text?]
    exact ⟨body, by simpa using hslice, hbody⟩

/-- Each statement has its text, without blanks around it. -/
theorem SplitInto.text? {dialect : Dialect} {front text : List Char} {ends : List Nat} {extents : List Extent}
    (hsplit : SplitInto dialect front text ends extents) :
    ∀ extent ∈ extents, ∃ body, extent.text? (front ++ text) = some body ∧ Text.IsTrimmed body := by
  induction hsplit with
  | last hheld => simpa using hheld.text?
  | @cons front chunk rest ends held extents hheld hrest ih =>
    rw [List.forall_mem_append]
    exact ⟨hheld.text?, by simpa using ih⟩

/-- A part of a source from one of its ends to the next: from the start or from behind a semicolon, to the next
    semicolon or to the end. -/
structure IsChunk (ends : List Nat) (front chunk behind : List Char) : Prop where
  opens : front = [] ∨ ∃ before, front = before ++ [';'] ∧ Text.byteSize before ∈ ends
  closes : behind = [] ∨ ∃ after, behind = ';' :: after ∧ Text.byteSize (front ++ chunk) ∈ ends
  whole : ∀ stop ∈ ends, stop < Text.byteSize front ∨ Text.byteSize (front ++ chunk) ≤ stop

/-- Where a character of a source stands: in a statement, or it is a blank or a semicolon at which the source is split,
    or it stands in a chunk of blanks and comments. -/
inductive Placed (dialect : Dialect) (ends : List Nat) (extents : List Extent) (before : List Char) (c : Char)
    (after : List Char) : Prop where
  | inStatement {extent : Extent} (hmem : extent ∈ extents) (hstart : extent.location ≤ Text.byteSize before)
      (hstop : Text.byteSize before + c.utf8Size ≤ extent.location + extent.length)
  | blank (hblank : Text.isBlank c = true)
  | separator (hc : c = ';') (hend : Text.byteSize before ∈ ends)
  | idle {front lead trail behind : List Char} (hbefore : before = front ++ lead) (hafter : after = trail ++ behind)
      (hchunk : IsChunk ends front (lead ++ c :: trail) behind) (hidle : Idle dialect behind (lead ++ c :: trail))

theorem Placed.mono {dialect : Dialect} {ends : List Nat} {extents others : List Extent} {before after : List Char}
    {c : Char} (hplaced : Placed dialect ends extents before c after) (hsubset : extents ⊆ others) :
    Placed dialect ends others before c after := by
  cases hplaced with
  | inStatement hmem hstart hstop => exact .inStatement (hsubset hmem) hstart hstop
  | blank hblank => exact .blank hblank
  | separator hc hend => exact .separator hc hend
  | idle hbefore hafter hchunk hidle => exact .idle hbefore hafter hchunk hidle

/-- A character of two texts is in the first or in the second one. -/
theorem exists_of_append_cons {before rest front back : List Char} {c : Char}
    (happend : before ++ c :: rest = front ++ back) :
    (∃ more, front = before ++ c :: more ∧ rest = more ++ back) ∨
      ∃ more, before = front ++ more ∧ back = more ++ c :: rest := by
  rcases List.append_eq_append_iff.1 happend with ⟨more, rfl, hmore⟩ | ⟨more, rfl, hmore⟩
  · rcases more with _ | ⟨d, more⟩
    · exact .inr ⟨[], by simp, hmore.symm⟩
    · obtain ⟨rfl, rfl⟩ := List.cons.inj hmore
      exact .inl ⟨more, rfl, rfl⟩
  · exact .inr ⟨more, rfl, hmore⟩

theorem ChunkHolds.placed {dialect : Dialect} {ends : List Nat} {front before trail behind : List Char} {c : Char}
    {terminated : Bool} {held : List Extent}
    (hheld : ChunkHolds dialect (Text.byteSize front) behind terminated (before ++ c :: trail) held)
    (hchunk : IsChunk ends front (before ++ c :: trail) behind) :
    Placed dialect ends held (front ++ before) c (trail ++ behind) := by
  generalize htext : before ++ c :: trail = chunk at hheld hchunk
  cases hheld with
  | idle hidle =>
    subst htext
    exact .idle rfl rfl hchunk hidle
  | @statement lead body after hlead htrail hbody =>
    rcases exists_of_append_cons htext with ⟨more, rfl, -⟩ | ⟨inner, rfl, hinner⟩
    · exact .blank (hlead c (by simp))
    rcases exists_of_append_cons hinner.symm with ⟨more, rfl, -⟩ | ⟨more, -, rfl⟩
    · refine .inStatement List.mem_cons_self ?_ ?_
      · simp only [Text.byteSize_append]
        omega
      · simp only [Text.byteSize_append, Text.byteSize_cons]
        omega
    · exact .blank (htrail c (by simp))

theorem SplitInto.le_of_mem_ends {dialect : Dialect} {front text : List Char} {ends : List Nat} {extents : List Extent}
    (hsplit : SplitInto dialect front text ends extents) : ∀ stop ∈ ends, Text.byteSize front ≤ stop := by
  induction hsplit with
  | last => simp
  | @cons front chunk rest ends held extents _ _ ih =>
    simp only [Text.byteSize_append] at ih
    simp only [List.forall_mem_cons, Text.byteSize_append]
    refine ⟨by omega, fun stop hstop => ?_⟩
    have := ih stop hstop
    omega

/-- Every character behind a front has its place, if the front itself ends at an end of the source. -/
theorem SplitInto.placed {dialect : Dialect} {front text : List Char} {ends : List Nat} {extents : List Extent}
    (hsplit : SplitInto dialect front text ends extents) {earlier : List Nat}
    (hopens : front = [] ∨ ∃ before, front = before ++ [';'] ∧ Text.byteSize before ∈ earlier)
    (hearlier : ∀ stop ∈ earlier, stop < Text.byteSize front) {before after : List Char} {c : Char}
    (htext : text = before ++ c :: after) : Placed dialect (earlier ++ ends) extents (front ++ before) c after := by
  induction hsplit generalizing earlier before with
  | @last front chunk held hheld =>
    subst htext
    have hchunk : IsChunk (earlier ++ []) front (before ++ c :: after) [] :=
      ⟨by simpa using hopens, .inl rfl, fun stop hstop => .inl (hearlier stop (by simpa using hstop))⟩
    simpa using hheld.placed hchunk
  | @cons front chunk rest ends held extents hheld hrest ih =>
    have hsize : Text.byteSize (front ++ chunk ++ [';']) = Text.byteSize (front ++ chunk) + 1 :=
      Text.byteSize_append _ [';']
    rcases exists_of_append_cons htext.symm with ⟨trail, rfl, rfl⟩ | ⟨more, rfl, hmore⟩
    · have hchunk : IsChunk (earlier ++ Text.byteSize (front ++ (before ++ c :: trail)) :: ends) front
          (before ++ c :: trail) (';' :: rest) := by
        refine ⟨hopens.imp_right ?_, .inr ⟨rest, rfl, by simp⟩, fun stop hstop => ?_⟩
        · rintro ⟨opening, hopening, hmem⟩
          exact ⟨opening, hopening, List.mem_append_left _ hmem⟩
        · rcases List.mem_append.1 hstop with hstop | hstop
          · exact .inl (hearlier stop hstop)
          · rcases List.mem_cons.1 hstop with rfl | hstop
            · exact .inr (Nat.le_refl _)
            · have hle := hrest.le_of_mem_ends stop hstop
              exact .inr (by omega)
      exact (hheld.placed hchunk).mono (List.subset_append_left held extents)
    · rcases more with _ | ⟨d, more⟩
      · -- The semicolon itself.
        obtain ⟨rfl, rfl⟩ := List.cons.inj hmore
        exact .separator rfl (by simp)
      · obtain ⟨rfl, rfl⟩ := List.cons.inj hmore
        have hends : ∀ stop ∈ earlier ++ [Text.byteSize (front ++ chunk)],
            stop < Text.byteSize (front ++ chunk ++ [';']) := by
          rw [List.forall_mem_append, List.forall_mem_singleton, hsize]
          refine ⟨fun stop hstop => ?_, Nat.lt_succ_self _⟩
          have := hearlier stop hstop
          rw [Text.byteSize_append]
          omega
        have hplaced := ih (.inr ⟨front ++ chunk, rfl, by simp⟩) hends rfl
        simpa using hplaced.mono (List.subset_append_right held extents)

/-- A statement with another one behind it is ended by the semicolon between them. -/
theorem terminated_of_mem_dropLast (dialect : Dialect) (source : List Char) :
    ∀ extent ∈ (statements dialect source).dropLast, extent.terminated = true := by
  obtain ⟨hapart, -, hterminated⟩ := cutAt_statements dialect source
  rcases List.eq_nil_or_concat (statements dialect source) with hnil | ⟨init, last, hconcat⟩
  · simp [hnil]
  · rw [hconcat, List.concat_eq_append] at hapart hterminated
    rw [hconcat, List.concat_eq_append, List.dropLast_concat]
    intro extent hextent
    obtain ⟨stop, hstop, hend, -⟩ := (List.pairwise_append.1 hapart).2.2 extent hextent last List.mem_cons_self
    exact (hterminated extent (List.mem_append_left _ hextent)).2 ⟨stop, hstop, hend⟩

/-- Statements stand in order within their source, each with a text of its own that has no blanks around it and with a
    position, and all but the last one are terminated. No code is lost: a character that stands in no statement is a
    blank, a semicolon at which the source is split, or in a chunk of blanks and comments. -/
theorem statements_placed (dialect : Dialect) (source : List Char) :
    (∀ extent ∈ statements dialect source,
      (∃ text, extent.text? source = some text ∧ Text.IsTrimmed text) ∧
        ∃ position, Text.position? source extent.location = some position) ∧
    ((statements dialect source).Pairwise fun extent later =>
      extent.location < later.location ∧ extent.location + extent.length ≤ later.location) ∧
    (∀ extent ∈ (statements dialect source).dropLast, extent.terminated = true) ∧
    ∀ before c after, source = before ++ c :: after →
      Placed dialect (statementEnds dialect source) (statements dialect source) before c after := by
  have hsplit := splitInto_statements dialect source
  refine ⟨fun extent hextent => ⟨hsplit.text? extent hextent, ?_⟩, ?_, ?_, ?_⟩
  · obtain ⟨before, text, after, hsource, hlocation, -⟩ := mem_statements hextent
    rw [Text.position?, hlocation, hsource, List.append_assoc]
    exact ⟨_, Text.positionFrom_byteSize 1 1 before (text ++ after)⟩
  · refine (statements_pairwise dialect source).imp fun {extent later} hapart => ?_
    omega
  · exact terminated_of_mem_dropLast dialect source
  · intro before c after hsource
    exact hsplit.placed (.inl rfl) (fun _ hstop => absurd hstop List.not_mem_nil) hsource

end AnnotatedSql.Source
