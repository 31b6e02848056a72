/-!
Byte offsets into texts. A text is a list of characters, and a character takes as many bytes as UTF-8 gives it;
an offset that falls inside a character denotes no position.
-/
namespace AnnotatedSql.Text

/-- Length in bytes. -/
def byteSize : List Char → Nat
  | [] => 0
  | c :: cs => c.utf8Size + byteSize cs

@[simp] theorem byteSize_nil : byteSize [] = 0 := rfl

@[simp] theorem byteSize_cons (c : Char) (cs : List Char) :
    byteSize (c :: cs) = c.utf8Size + byteSize cs := rfl

@[simp] theorem byteSize_append (cs ds : List Char) :
    byteSize (cs ++ ds) = byteSize cs + byteSize ds := by
  induction cs with
  | nil => simp
  | cons c cs ih => simp [ih, Nat.add_assoc]

theorem byteSize_pos {cs : List Char} (hcs : cs ≠ []) : 0 < byteSize cs := by
  obtain ⟨c, rest, rfl⟩ := List.exists_cons_of_ne_nil hcs
  have hpos := c.utf8Size_pos
  rw [byteSize_cons]
  omega

/-- The text after the first `n` bytes, if `n` is the offset of a character or of the end. -/
def dropBytes? : Nat → List Char → Option (List Char)
  | 0, cs => some cs
  | _ + 1, [] => none
  | n + 1, c :: cs => if c.utf8Size ≤ n + 1 then dropBytes? (n + 1 - c.utf8Size) cs else none

/-- The text of the first `n` bytes, if `n` is the offset of a character or of the end. -/
def takeBytes? : Nat → List Char → Option (List Char)
  | 0, _ => some []
  | _ + 1, [] => none
  | n + 1, c :: cs =>
    if c.utf8Size ≤ n + 1 then (takeBytes? (n + 1 - c.utf8Size) cs).map (c :: ·) else none

/-- The text between two byte offsets, if both are positions and stand in order. -/
def slice? (cs : List Char) (start stop : Nat) : Option (List Char) :=
  if start ≤ stop then (dropBytes? start cs).bind (takeBytes? (stop - start)) else none

/-- An offset behind the first character is an offset into the others. -/
theorem dropBytes?_utf8Size_add (c : Char) (cs : List Char) (n : Nat) :
    dropBytes? (c.utf8Size + n) (c :: cs) = dropBytes? n cs := by
  have hpos := c.utf8Size_pos
  obtain ⟨m, hm⟩ : ∃ m, c.utf8Size + n = m + 1 := ⟨c.utf8Size + n - 1, by omega⟩
  rw [hm, dropBytes?, if_pos (by omega), ← hm, Nat.add_sub_cancel_left]

theorem takeBytes?_utf8Size_add (c : Char) (cs : List Char) (n : Nat) :
    takeBytes? (c.utf8Size + n) (c :: cs) = (takeBytes? n cs).map (c :: ·) := by
  have hpos := c.utf8Size_pos
  obtain ⟨m, hm⟩ : ∃ m, c.utf8Size + n = m + 1 := ⟨c.utf8Size + n - 1, by omega⟩
  rw [hm, takeBytes?, if_pos (by omega), ← hm, Nat.add_sub_cancel_left]

theorem dropBytes?_byteSize_append (cs ds : List Char) :
    dropBytes? (byteSize cs) (cs ++ ds) = some ds := by
  induction cs with
  | nil => cases ds <;> rfl
  | cons c cs ih => rw [byteSize_cons, List.cons_append, dropBytes?_utf8Size_add, ih]

theorem takeBytes?_byteSize_append (cs ds : List Char) :
    takeBytes? (byteSize cs) (cs ++ ds) = some cs := by
  induction cs with
  | nil => cases ds <;> rfl
  | cons c cs ih => rw [byteSize_cons, List.cons_append, takeBytes?_utf8Size_add, ih, Option.map_some]

/-- A slice whose ends are the sizes of what stands before them is exactly the part between them. -/
theorem slice?_append (before part after : List Char) :
    slice? (before ++ part ++ after) (byteSize before) (byteSize before + byteSize part) = some part := by
  rw [slice?, if_pos (by omega), List.append_assoc, dropBytes?_byteSize_append, Option.bind_some,
    Nat.add_sub_cancel_left, takeBytes?_byteSize_append]

theorem dropBytes?_eq_some_iff {n : Nat} {cs rest : List Char} :
    dropBytes? n cs = some rest ↔ ∃ front, cs = front ++ rest ∧ byteSize front = n := by
  constructor
  · intro hdrop
    fun_induction dropBytes? n cs with
    | case1 cs => exact ⟨[], by simpa using hdrop, rfl⟩
    | case2 => cases hdrop
    | case3 n c cs hsize ih =>
      obtain ⟨front, rfl, hfront⟩ := ih hdrop
      exact ⟨c :: front, rfl, by rw [byteSize_cons]; omega⟩
    | case4 => cases hdrop
  · rintro ⟨front, rfl, rfl⟩
    exact dropBytes?_byteSize_append front rest

theorem takeBytes?_eq_some_iff {n : Nat} {cs front : List Char} :
    takeBytes? n cs = some front ↔ ∃ rest, cs = front ++ rest ∧ byteSize front = n := by
  constructor
  · intro htake
    fun_induction takeBytes? n cs generalizing front with
    | case1 cs =>
      cases htake
      exact ⟨cs, rfl, rfl⟩
    | case2 => cases htake
    | case3 n c cs hsize ih =>
      obtain ⟨more, hmore, rfl⟩ := Option.map_eq_some_iff.1 htake
      obtain ⟨rest, rfl, hfront⟩ := ih hmore
      exact ⟨rest, rfl, by rw [byteSize_cons]; omega⟩
    | case4 => cases htake
  · rintro ⟨rest, rfl, rfl⟩
    exact takeBytes?_byteSize_append front rest

/-- A slice is the part between what stands before its start and what stands behind its end. -/
theorem slice?_eq_some_iff {cs part : List Char} {start stop : Nat} :
    slice? cs start stop = some part ↔
      ∃ before after, cs = before ++ part ++ after ∧ byteSize before = start ∧ start + byteSize part = stop := by
  constructor
  · intro hslice
    unfold slice? at hslice
    split at hslice
    · obtain ⟨rest, hdrop, htake⟩ := Option.bind_eq_some_iff.1 hslice
      obtain ⟨before, rfl, hbefore⟩ := dropBytes?_eq_some_iff.1 hdrop
      obtain ⟨after, rfl, hpart⟩ := takeBytes?_eq_some_iff.1 htake
      exact ⟨before, after, (List.append_assoc ..).symm, hbefore, by omega⟩
    · cases hslice
  · rintro ⟨before, after, rfl, rfl, rfl⟩
    exact slice?_append before part after

/-- Of two fronts of a text, the smaller one starts the other. -/
theorem prefix_of_byteSize_le {front rest front' rest' : List Char} (happend : front ++ rest = front' ++ rest')
    (hsize : byteSize front ≤ byteSize front') : front <+: front' := by
  rcases List.append_eq_append_iff.1 happend with ⟨more, hmore, -⟩ | ⟨more, rfl, -⟩
  · exact ⟨more, hmore.symm⟩
  · cases more with
    | nil => exact ⟨[], by simp⟩
    | cons c more =>
      have hpos := byteSize_pos (List.cons_ne_nil c more)
      rw [byteSize_append] at hsize
      omega

end AnnotatedSql.Text
