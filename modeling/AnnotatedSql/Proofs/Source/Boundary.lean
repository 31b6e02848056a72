import AnnotatedSql.Proofs.Text.Trim
import AnnotatedSql.Source.Split
import Mathlib.Data.List.Basic
import Mathlib.Data.List.TakeWhile

/-!
Statement boundaries. Where the scan of a text ends with the semicolon of a statement, whatever follows is scanned as
if it stood alone: no quote, dollar tag or comment looks beyond the boundary. The statements of a text are cut apart at
the offsets where it is split (`cutAt_statements`).
-/
namespace AnnotatedSql.Source

/-- The scan of the text ends by taking the semicolon of a statement, or there is nothing to scan. -/
def Closed (dialect : Dialect) (text : List Char) : Prop :=
  ∀ piece ∈ (pieces dialect text).getLast?, piece.role = .terminator

instance (dialect : Dialect) (text : List Char) : Decidable (Closed dialect text) :=
  inferInstanceAs (Decidable (∀ piece ∈ (pieces dialect text).getLast?, piece.role = .terminator))

/-- An extent moved by some bytes. -/
def Extent.shift (size : Nat) (extent : Extent) : Extent :=
  { extent with location := size + extent.location }

/-- A run that stops inside a text does not change when the text goes on. -/
theorem span_append_of_ne_nil {α : Type} (p : α → Bool) (as bs : List α) (hrest : as.dropWhile p ≠ []) :
    (as ++ bs).takeWhile p = as.takeWhile p ∧ (as ++ bs).dropWhile p = as.dropWhile p ++ bs := by
  have hshort : ¬ (as.takeWhile p).length = as.length := by
    intro hall
    apply hrest
    have hsplit := congrArg List.length (List.takeWhile_append_dropWhile (p := p) (l := as))
    rw [List.length_append, hall] at hsplit
    exact List.eq_nil_of_length_eq_zero (by omega)
  rw [List.takeWhile_append, if_neg hshort, List.dropWhile_append, if_neg (by simpa using hrest)]
  exact ⟨rfl, rfl⟩

theorem quotedRest_append_of_ne_nil (escapes : Bool) (quote : Char) (cs ds : List Char)
    (hrest : (quotedRest escapes quote cs).2 ≠ []) :
    quotedRest escapes quote (cs ++ ds) =
      ((quotedRest escapes quote cs).1, (quotedRest escapes quote cs).2 ++ ds) := by
  fun_induction quotedRest escapes quote cs with
  | case1 => simp at hrest
  | case2 c => simp at hrest
  | case3 c d rest hskip taken left hleft ih =>
    simp only [hleft] at ih
    simp [quotedRest, hskip, ih hrest]
  | case4 c d rest hskip hclose =>
    rw [List.cons_append, List.cons_append, quotedRest, if_neg hskip, if_pos hclose]
  | case5 c d rest hskip hclose taken left hleft ih =>
    simp only [hleft] at ih
    have htail := ih hrest
    rw [List.cons_append] at htail
    rw [List.cons_append, List.cons_append, quotedRest, if_neg hskip, if_neg hclose, htail]

theorem blockRest_append_of_ne_nil (cs ds : List Char) (hrest : (blockRest cs).2 ≠ []) :
    blockRest (cs ++ ds) = ((blockRest cs).1, (blockRest cs).2 ++ ds) := by
  fun_induction blockRest cs with
  | case1 => simp at hrest
  | case2 c => simp at hrest
  | case3 c d rest hclose => simp [blockRest, hclose]
  | case4 c d rest hclose taken left hleft ih =>
    simp only [hleft] at ih
    have htail := ih hrest
    rw [List.cons_append] at htail
    rw [List.cons_append, List.cons_append, blockRest, if_neg hclose, htail]

theorem lineRest_append_of_ne_nil (cs ds : List Char) (hrest : (lineRest cs).2 ≠ []) :
    lineRest (cs ++ ds) = ((lineRest cs).1, (lineRest cs).2 ++ ds) := by
  obtain ⟨htake, hdrop⟩ := span_append_of_ne_nil (· != '\n') cs ds hrest
  rw [lineRest, htake, hdrop]
  rfl

private theorem length_le_of_throughMark_ne_nil {mark cs : List Char} (hrest : (throughMark mark cs).2 ≠ []) :
    mark.length ≤ cs.length := by
  fun_induction throughMark mark cs with
  | case1 => simp at hrest
  | case2 c rest hmark => exact (List.isPrefixOf_iff_prefix.1 hmark).length_le
  | case3 c rest hmark taken left hleft ih =>
    simp only [hleft] at ih
    exact (ih hrest).trans (by simp)

/-- A mark that is not found leaves nothing, so a mark that leaves something stands in the text as a whole. -/
theorem throughMark_append_of_ne_nil (mark cs ds : List Char) (hrest : (throughMark mark cs).2 ≠ []) :
    throughMark mark (cs ++ ds) = ((throughMark mark cs).1, (throughMark mark cs).2 ++ ds) := by
  fun_induction throughMark mark cs with
  | case1 => simp at hrest
  | case2 c rest hmark =>
    have hstarts := List.isPrefixOf_iff_prefix.1 hmark
    have hlonger : mark.isPrefixOf (c :: (rest ++ ds)) = true :=
      List.isPrefixOf_iff_prefix.2 (hstarts.trans (List.prefix_append (c :: rest) ds))
    rw [List.cons_append, throughMark, if_pos hlonger, ← List.cons_append,
      List.take_append_of_le_length hstarts.length_le, List.drop_append_of_le_length hstarts.length_le]
  | case3 c rest hmark taken left hleft ih =>
    simp only [hleft] at ih
    have htail := ih hrest
    have hlength : mark.length ≤ rest.length :=
      length_le_of_throughMark_ne_nil (by rw [hleft]; exact hrest)
    -- The mark is found further on, so it is not so long that it could begin at `c` and run into `ds`.
    have hstill : ¬ mark.isPrefixOf (c :: (rest ++ ds)) = true := by
      intro hlonger
      have hstarts := List.isPrefixOf_iff_prefix.1 hlonger
      apply hmark
      exact List.isPrefixOf_iff_prefix.2
        (List.prefix_of_prefix_length_le hstarts (List.prefix_append (c :: rest) ds) (by simp; omega))
    rw [List.cons_append, throughMark, if_neg hstill, htail]

/-- A semicolon is in no tag, so a text with one settles whether a tag opens it. -/
theorem dollarTag?_append_of_mem {cs : List Char} (ds : List Char) (hsemicolon : ';' ∈ cs) :
    dollarTag? (cs ++ ds) = (dollarTag? cs).map fun (tag, rest) => (tag, rest ++ ds) := by
  have hne : cs ≠ [] := List.ne_nil_of_mem hsemicolon
  have hhead : (cs ++ ds).head? = cs.head? := List.head?_append_of_ne_nil cs hne
  have hrest : cs.dropWhile isTagChar ≠ [] := by
    intro hnil
    have hall := List.dropWhile_eq_nil_iff.1 hnil ';' hsemicolon
    exact absurd hall (by decide)
  obtain ⟨htake, hdrop⟩ := span_append_of_ne_nil isTagChar cs ds hrest
  unfold dollarTag?
  rw [hhead, htake, hdrop]
  split
  · rfl
  · cases hcases : cs.dropWhile isTagChar with
    | nil => exact absurd hcases hrest
    | cons d rest =>
      by_cases hd : d = '$'
      · subst hd
        rfl
      · simp [hd]

/-- A piece that something follows in a text with a semicolon is the same however the text goes on. -/
theorem nextPiece_append_of_mem (dialect : Dialect) (c : Char) (cs ds : List Char) (hsemicolon : ';' ∈ cs)
    (hrest : (nextPiece dialect c cs).2 ≠ []) :
    nextPiece dialect c (cs ++ ds) = ((nextPiece dialect c cs).1, (nextPiece dialect c cs).2 ++ ds) := by
  have hne : cs ≠ [] := List.ne_nil_of_mem hsemicolon
  have hhead : (cs ++ ds).head? = cs.head? := List.head?_append_of_ne_nil cs hne
  have hdrop : (cs ++ ds).drop 1 = cs.drop 1 ++ ds :=
    List.drop_append_of_le_length (List.length_pos_iff.2 hne)
  unfold nextPiece at hrest ⊢
  simp only [hhead, hdrop] at hrest ⊢
  by_cases hquote : (c == '\x27' || c == '"' || c == '\x60') = true
  · simp only [hquote, if_true] at hrest ⊢
    rw [quotedRest_append_of_ne_nil _ _ _ _ hrest]
  by_cases hdollar : (c == '$' && !dialect == .mySQL) = true
  · simp only [hquote, hdollar, if_true, if_false, Bool.false_eq_true] at hrest ⊢
    rw [dollarTag?_append_of_mem ds hsemicolon]
    cases htag : dollarTag? cs with
    | none => rfl
    | some opened =>
      rw [htag] at hrest
      simp only [Option.map_some]
      rw [throughMark_append_of_ne_nil _ _ _ hrest]
  by_cases hdash : (c == '-' && cs.head? == some '-') = true
  · simp only [hquote, hdollar, hdash, if_true, if_false, Bool.false_eq_true] at hrest ⊢
    rw [lineRest_append_of_ne_nil _ _ hrest]
  by_cases hsharp : (c == '#' && dialect == .mySQL) = true
  · simp only [hquote, hdollar, hdash, hsharp, if_true, if_false, Bool.false_eq_true] at hrest ⊢
    rw [lineRest_append_of_ne_nil _ _ hrest]
  by_cases hslash : (c == '/' && cs.head? == some '*') = true
  · simp only [hquote, hdollar, hdash, hsharp, hslash, if_true, if_false, Bool.false_eq_true] at hrest ⊢
    rw [blockRest_append_of_ne_nil _ _ hrest]
  · simp only [hquote, hdollar, hdash, hsharp, hslash, if_false, Bool.false_eq_true]
    split <;> rfl

/-- Only a semicolon is a terminator, and it is a piece of its own. -/
theorem nextPiece_terminator {dialect : Dialect} {c : Char} {cs : List Char}
    (hrole : (nextPiece dialect c cs).1.role = .terminator) (ds : List Char) :
    nextPiece dialect c ds = (⟨.terminator, [';']⟩, ds) := by
  unfold nextPiece at hrole
  grind [nextPiece]

theorem nextPiece_suffix (dialect : Dialect) (c : Char) (cs : List Char) : (nextPiece dialect c cs).2 <:+ cs := by
  have happend := nextPiece_append dialect c cs
  cases htext : (nextPiece dialect c cs).1.text with
  | nil => exact absurd htext (nextPiece_text_ne_nil dialect c cs)
  | cons d ds =>
    rw [htext, List.cons_append] at happend
    exact ⟨ds, (List.cons.inj happend).2⟩

theorem Closed.of_cons {dialect : Dialect} {c : Char} {cs : List Char} (hclosed : Closed dialect (c :: cs)) :
    Closed dialect (nextPiece dialect c cs).2 := by
  intro piece hlast
  apply hclosed piece
  rw [pieces, List.getLast?_cons, Option.mem_def.1 hlast]
  rfl

/-- A closed text that is not empty has its semicolon in it. -/
theorem Closed.semicolon_mem {dialect : Dialect} {text : List Char} (hclosed : Closed dialect text)
    (hne : text ≠ []) : ';' ∈ text := by
  fun_induction pieces dialect text with
  | case1 => exact absurd rfl hne
  | case2 c cs ih =>
    rw [← nextPiece_append dialect c cs]
    by_cases hrest : (nextPiece dialect c cs).2 = []
    · have hrole : (nextPiece dialect c cs).1.role = .terminator := by
        apply hclosed
        rw [pieces, hrest, pieces]
        rfl
      rw [nextPiece_terminator hrole cs]
      simp
    · exact List.mem_append_right _ (ih hclosed.of_cons hrest)

/-- Behind a boundary the scan starts afresh. -/
theorem pieces_append_of_closed {dialect : Dialect} {cs : List Char} (hclosed : Closed dialect cs) (ds : List Char) :
    pieces dialect (cs ++ ds) = pieces dialect cs ++ pieces dialect ds := by
  fun_induction pieces dialect cs with
  | case1 => rfl
  | case2 c cs ih =>
    by_cases hrest : (nextPiece dialect c cs).2 = []
    · have hrole : (nextPiece dialect c cs).1.role = .terminator := by
        apply hclosed
        rw [pieces, hrest, pieces]
        rfl
      have hnil : cs = [] := by
        rw [nextPiece_terminator hrole cs] at hrest
        exact hrest
      subst hnil
      rw [List.cons_append, List.nil_append, pieces, nextPiece_terminator hrole ds, nextPiece_terminator hrole [],
        pieces]
      rfl
    · have hsemicolon : ';' ∈ cs := by
        obtain ⟨before, hbefore⟩ := nextPiece_suffix dialect c cs
        rw [← hbefore]
        exact List.mem_append_right _ (hclosed.of_cons.semicolon_mem hrest)
      rw [List.cons_append, pieces, nextPiece_append_of_mem dialect c cs ds hsemicolon hrest]
      simp only [List.cons_append]
      rw [ih hclosed.of_cons]

/-- The bytes of chunks, each with the semicolon that ends it. -/
def chunksSize : List (List Piece) → Nat
  | [] => 0
  | chunk :: chunks => Text.byteSize (concat chunk) + 1 + chunksSize chunks

/-- Chunks that are all ended leave an empty one behind them, which holds no statement. -/
theorem extentsFrom_append (start : Nat) (chunks : List (List Piece)) {others : List (List Piece)}
    (hothers : others ≠ []) :
    extentsFrom start (chunks ++ others) =
      extentsFrom start (chunks ++ [[]]) ++ extentsFrom (start + chunksSize chunks) others := by
  induction chunks generalizing start with
  | nil => simp [extentsFrom, extentOf, chunksSize]
  | cons chunk chunks ih =>
    have hstep : ∀ tail ≠ [], extentsFrom start (chunk :: (chunks ++ tail)) =
        (extentOf start chunk true).toList ++
          extentsFrom (start + Text.byteSize (concat chunk) + 1) (chunks ++ tail) := by
      intro tail htail
      cases hcases : chunks ++ tail with
      | nil => simp_all
      | cons next rest => rfl
    rw [List.cons_append, List.cons_append, hstep others hothers, hstep [[]] (by simp), ih, List.append_assoc]
    congr 3
    rw [chunksSize]
    omega

theorem extentOf_add (size start : Nat) (chunk : List Piece) (terminated : Bool) :
    extentOf (size + start) chunk terminated = (extentOf start chunk terminated).map (·.shift size) := by
  unfold extentOf
  split
  · simp [Extent.shift, Nat.add_assoc]
  · rfl

theorem extentsFrom_add (size start : Nat) (chunks : List (List Piece)) :
    extentsFrom (size + start) chunks = (extentsFrom start chunks).map (·.shift size) := by
  fun_induction extentsFrom start chunks with
  | case1 => rfl
  | case2 start last =>
    rw [extentsFrom, extentOf_add]
    cases extentOf start last false <;> rfl
  | case3 start chunk next rest ih =>
    rw [extentsFrom, extentOf_add, List.map_append, ← ih]
    congr 1
    · cases extentOf start chunk true <;> rfl
    · rw [Nat.add_assoc size, Nat.add_assoc size]

/-- The text of chunks with semicolons between them. -/
def joined (chunks : List (List Piece)) : List Char :=
  List.intercalate [';'] (chunks.map concat)

theorem pieces_terminator {dialect : Dialect} {cs : List Char} {piece : Piece} (hmem : piece ∈ pieces dialect cs)
    (hrole : piece.role = .terminator) : piece.text = [';'] := by
  fun_induction pieces dialect cs with
  | case1 => simp at hmem
  | case2 c cs ih =>
    rcases List.mem_cons.1 hmem with rfl | hmem
    · rw [nextPiece_terminator hrole cs]
    · exact ih hmem

theorem joined_splitOnP {pieces : List Piece} (hterminator : ∀ piece ∈ pieces, piece.role = .terminator →
    piece.text = [';']) : joined (pieces.splitOnP (·.role == .terminator)) = concat pieces := by
  induction pieces with
  | nil => rfl
  | cons piece pieces ih =>
    have hrest := ih fun other hother => hterminator other (List.mem_cons_of_mem _ hother)
    rw [List.splitOnP_cons_eq_if_modifyHead]
    obtain ⟨chunk, chunks, hchunks⟩ :=
      List.exists_cons_of_ne_nil (List.splitOnP_ne_nil (·.role == .terminator) pieces)
    rw [hchunks] at hrest ⊢
    by_cases hrole : piece.role = .terminator
    · have htext := hterminator piece List.mem_cons_self hrole
      simp only [hrole, beq_self_eq_true, if_true]
      simp only [joined, concat, List.map_cons, List.flatMap_cons, List.flatMap_nil, htext] at hrest ⊢
      rw [List.intercalate_cons_cons, hrest]
      rfl
    · have hne : (piece.role == .terminator) = false := by simpa using hrole
      simp only [hne, Bool.false_eq_true, if_false, List.modifyHead_cons]
      simp only [joined, concat, List.map_cons, List.flatMap_cons] at hrest ⊢
      cases chunks with
      | nil => simpa using hrest
      | cons next rest =>
        rw [List.map_cons, List.intercalate_cons_cons] at hrest ⊢
        simpa using hrest

theorem byteSize_joined {chunks : List (List Piece)} (hne : chunks ≠ []) :
    Text.byteSize (joined chunks) + 1 = chunksSize chunks := by
  induction chunks with
  | nil => exact absurd rfl hne
  | cons chunk chunks ih =>
    cases chunks with
    | nil => simp [joined, chunksSize]
    | cons next rest =>
      have hrest := ih (by simp)
      have hsemicolon : (';' : Char).utf8Size = 1 := by decide
      simp only [joined, chunksSize, List.map_cons] at hrest ⊢
      rw [List.intercalate_cons_cons]
      simp only [Text.byteSize_append, Text.byteSize_cons, Text.byteSize_nil, hsemicolon]
      omega

/-- Statements of a closed text are found whatever follows it, and what follows has its own statements. -/
theorem statements_append_of_closed {dialect : Dialect} {first : List Char} (hclosed : Closed dialect first)
    (second : List Char) :
    statements dialect (first ++ second) =
      statements dialect first ++ (statements dialect second).map (·.shift (Text.byteSize first)) := by
  rw [statements, pieces_append_of_closed hclosed]
  rcases List.eq_nil_or_concat (pieces dialect first) with hnil | ⟨init, last, hinit⟩
  · have hfirst : first = [] := by rw [← concat_pieces dialect first, hnil]; rfl
    subst hfirst
    have hempty : extentsFrom 0 [[]] = [] := rfl
    simp only [statements, hnil, List.splitOnP_nil, hempty, List.nil_append, Text.byteSize_nil]
    exact extentsFrom_add 0 0 _
  · have hlast : last.role = .terminator := hclosed last (by simp [hinit])
    have hterminator : ∀ piece ∈ init, piece.role = .terminator → piece.text = [';'] := by
      intro piece hpiece
      have hmem : piece ∈ pieces dialect first := by simp [hinit, hpiece]
      exact pieces_terminator hmem
    have htext : last.text = [';'] := by
      have hmem : last ∈ pieces dialect first := by simp [hinit]
      exact pieces_terminator hmem hlast
    have hsplit : ∀ others, (init ++ last :: others).splitOnP (·.role == .terminator) =
        init.splitOnP (·.role == .terminator) ++ others.splitOnP (·.role == .terminator) := by
      intro others
      exact List.splitOnP_append_cons init others (by simp [hlast])
    have hsize : chunksSize (init.splitOnP (·.role == .terminator)) = Text.byteSize first := by
      rw [← byteSize_joined (List.splitOnP_ne_nil _ _), joined_splitOnP hterminator, ← concat_pieces dialect first,
        hinit]
      simp [concat, htext]
      decide
    rw [statements, hinit, List.concat_eq_append, List.append_assoc, List.singleton_append, hsplit, hsplit [],
      extentsFrom_append _ _ (List.splitOnP_ne_nil _ _), hsize, Nat.add_comm 0, extentsFrom_add]
    rfl

theorem extentOf_eq_some {start : Nat} {chunk : List Piece} {terminated : Bool} {extent : Extent}
    (hextent : extentOf start chunk terminated = some extent) :
    extent = {
      location := start + Text.byteSize (Text.leading (concat chunk))
      length := Text.byteSize (Text.trim (concat chunk))
      terminated } := by
  unfold extentOf at hextent
  split at hextent
  · rw [← Text.byteSize_leading]
    exact (Option.some.inj hextent).symm
  · cases hextent

private theorem exists_of_extentOf {start : Nat} {chunk : List Piece} {terminated : Bool} {extent : Extent}
    (hextent : extentOf start chunk terminated = some extent) :
    ∃ before text after, concat chunk = before ++ text ++ after ∧
      extent.location = start + Text.byteSize before ∧ extent.length = Text.byteSize text := by
  have htext := Text.leading_trim_trailing (concat chunk)
  rw [← List.append_assoc] at htext
  cases extentOf_eq_some hextent
  exact ⟨_, _, _, htext.symm, rfl, rfl⟩

private theorem mem_extentsFrom {start : Nat} {chunks : List (List Piece)} {extent : Extent}
    (hmem : extent ∈ extentsFrom start chunks) :
    ∃ before text after, joined chunks = before ++ text ++ after ∧
      extent.location = start + Text.byteSize before ∧ extent.length = Text.byteSize text := by
  fun_induction extentsFrom start chunks with
  | case1 => simp at hmem
  | case2 start last =>
    obtain ⟨before, text, after, htext, hwhere⟩ := exists_of_extentOf (Option.mem_toList.1 hmem)
    exact ⟨before, text, after, by simpa [joined] using htext, hwhere⟩
  | case3 start chunk next rest ih =>
    have hjoined : joined (chunk :: next :: rest) = concat chunk ++ (';' :: joined (next :: rest)) := by
      simp [joined, List.intercalate_cons_cons]
    rw [hjoined]
    rcases List.mem_append.1 hmem with hmem | hmem
    · obtain ⟨before, text, after, htext, hwhere⟩ := exists_of_extentOf (Option.mem_toList.1 hmem)
      exact ⟨before, text, after ++ (';' :: joined (next :: rest)), by simp [htext], hwhere⟩
    · obtain ⟨before, text, after, htext, hlocation, hlength⟩ := ih hmem
      have hsemicolon : (';' : Char).utf8Size = 1 := by decide
      refine ⟨concat chunk ++ (';' :: before), text, after, by simp [htext], ?_, hlength⟩
      simp only [Text.byteSize_append, Text.byteSize_cons, hsemicolon]
      omega

/-- A statement's extent is where its text stands in the source. -/
theorem mem_statements {dialect : Dialect} {source : List Char} {extent : Extent}
    (hmem : extent ∈ statements dialect source) :
    ∃ before text after, source = before ++ text ++ after ∧ extent.location = Text.byteSize before ∧
      extent.length = Text.byteSize text := by
  obtain ⟨before, text, after, hjoined, hlocation, hlength⟩ := mem_extentsFrom hmem
  rw [joined_splitOnP fun piece hpiece => pieces_terminator hpiece, concat, concat_pieces] at hjoined
  exact ⟨before, text, after, hjoined, by omega, hlength⟩

theorem text?_of_mem_statements {dialect : Dialect} {source : List Char} {extent : Extent}
    (hextent : extent ∈ statements dialect source) : ∃ text, extent.text? source = some text := by
  obtain ⟨before, text, after, hsource, hlocation, hlength⟩ := mem_statements hextent
  rw [Extent.text?, hlocation, hlength, hsource]
  exact ⟨text, Text.slice?_append before text after⟩

/-- The byte offsets of the semicolons that end the chunks of a text; the last chunk has none. -/
def chunkEnds (start : Nat) : List (List Piece) → List Nat
  | [] => []
  | [_] => []
  | chunk :: next :: rest =>
    (start + Text.byteSize (concat chunk)) :: chunkEnds (start + Text.byteSize (concat chunk) + 1) (next :: rest)

/-- The byte offsets at which a source text is split into statements. -/
def statementEnds (dialect : Dialect) (source : List Char) : List Nat :=
  chunkEnds 0 ((pieces dialect source).splitOnP (·.role == .terminator))

/-- Statements that are cut apart at some offsets: one of these stands between each two statements and none within a
    statement, and a statement is terminated if one of them comes after it. -/
structure CutAt (ends : List Nat) (extents : List Extent) : Prop where
  apart : extents.Pairwise fun extent later =>
    ∃ stop ∈ ends, extent.location + extent.length ≤ stop ∧ stop < later.location
  whole : ∀ extent ∈ extents, ∀ stop ∈ ends, stop < extent.location ∨ extent.location + extent.length ≤ stop
  terminated : ∀ extent ∈ extents,
    extent.terminated = true ↔ ∃ stop ∈ ends, extent.location + extent.length ≤ stop

private theorem le_of_mem_chunkEnds {start stop : Nat} {chunks : List (List Piece)}
    (hstop : stop ∈ chunkEnds start chunks) : start ≤ stop := by
  fun_induction chunkEnds start chunks with
  | case1 => cases hstop
  | case2 => cases hstop
  | case3 start chunk next rest ih =>
    rcases List.mem_cons.1 hstop with rfl | hstop
    · exact Nat.le_add_right start _
    · exact Nat.le_trans (by omega) (ih hstop)

private theorem within_of_extentOf {start : Nat} {chunk : List Piece} {terminated : Bool} {extent : Extent}
    (hextent : extent ∈ (extentOf start chunk terminated).toList) :
    extent.location + extent.length ≤ start + Text.byteSize (concat chunk) ∧ extent.terminated = terminated := by
  constructor
  · obtain ⟨before, text, after, hconcat, hlocation, hlength⟩ := exists_of_extentOf (Option.mem_toList.1 hextent)
    rw [hconcat, Text.byteSize_append, Text.byteSize_append, hlocation, hlength]
    omega
  · rw [extentOf_eq_some (Option.mem_toList.1 hextent)]

private theorem cutAt_extentsFrom (start : Nat) (chunks : List (List Piece)) :
    CutAt (chunkEnds start chunks) (extentsFrom start chunks) := by
  fun_induction extentsFrom start chunks with
  | case1 => exact ⟨.nil, by simp, by simp⟩
  | case2 start last =>
    refine ⟨by cases extentOf start last false <;> simp, by simp [chunkEnds], ?_⟩
    intro extent hextent
    simp [chunkEnds, (within_of_extentOf hextent).2]
  | case3 start chunk next rest ih =>
    have hends : ∀ stop ∈ chunkEnds (start + Text.byteSize (concat chunk) + 1) (next :: rest),
        start + Text.byteSize (concat chunk) < stop :=
      fun stop hstop => le_of_mem_chunkEnds hstop
    have hlater : ∀ extent ∈ extentsFrom (start + Text.byteSize (concat chunk) + 1) (next :: rest),
        start + Text.byteSize (concat chunk) < extent.location := by
      intro extent hextent
      obtain ⟨before, text, after, -, hlocation, -⟩ := mem_extentsFrom hextent
      omega
    rw [chunkEnds]
    refine ⟨List.pairwise_append.2 ⟨by cases extentOf start chunk true <;> simp, ?_, ?_⟩, ?_, ?_⟩
    · refine ih.apart.imp ?_
      rintro extent later ⟨stop, hstop, hbetween⟩
      exact ⟨stop, List.mem_cons_of_mem _ hstop, hbetween⟩
    · intro extent hextent later hmem
      exact ⟨_, List.mem_cons_self, (within_of_extentOf hextent).1, hlater later hmem⟩
    · intro extent hextent stop hstop
      rcases List.mem_append.1 hextent with hextent | hextent
      · have hend := (within_of_extentOf hextent).1
        rcases List.mem_cons.1 hstop with rfl | hstop
        · exact .inr hend
        · exact .inr (Nat.le_trans hend (Nat.le_of_lt (hends stop hstop)))
      · rcases List.mem_cons.1 hstop with rfl | hstop
        · exact .inl (hlater extent hextent)
        · exact ih.whole extent hextent stop hstop
    · intro extent hextent
      rcases List.mem_append.1 hextent with hextent | hextent
      · obtain ⟨hend, hterminated⟩ := within_of_extentOf hextent
        exact ⟨fun _ => ⟨_, List.mem_cons_self, hend⟩, fun _ => hterminated⟩
      · have hstart := hlater extent hextent
        rw [ih.terminated extent hextent, List.exists_mem_cons_iff]
        constructor
        · exact .inr
        · rintro (hend | hend)
          · omega
          · exact hend

/-- Statements are cut apart at the offsets at which the source is split. -/
theorem cutAt_statements (dialect : Dialect) (source : List Char) :
    CutAt (statementEnds dialect source) (statements dialect source) :=
  cutAt_extentsFrom 0 _

/-- The statements of a source stand one after another, with a semicolon between them at least. -/
theorem statements_pairwise (dialect : Dialect) (source : List Char) :
    (statements dialect source).Pairwise fun extent later => extent.location + extent.length < later.location := by
  refine (cutAt_statements dialect source).apart.imp ?_
  rintro extent later ⟨stop, -, hend, hstart⟩
  exact Nat.lt_of_le_of_lt hend hstart

end AnnotatedSql.Source
