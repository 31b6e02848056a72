import AnnotatedSql.Generate.Field
import AnnotatedSql.Proofs.Catalog.Keyed
import AnnotatedSql.Proofs.Text.Case

/-!
Names and tags of generated fields. An id keeps the suffix that it got when it was first met, so the suffix of a field
can be read off at the end (`getElem?_structFields`). Entries of one id with equal columns therefore share a field, but
for a column without a name, which is called after its position (`sharesField_iff`).

Two ids of one name are first met after different numbers of columns of that name (`Seen.Apart`), so their suffixes
differ. A tag tells its name and its suffix, if no name is another one with a number behind it. Under this condition
fields of different ids have different tags (`exists_dbTag?_ne`).
-/
namespace AnnotatedSql.Generate

variable {columns : List (Nat × Column)}

namespace Seen

variable {seen : Seen} {id suffix : Nat}

/-- What has been seen behind the columns from a position on. -/
def after (seen : Seen) (position : Nat) : List (Nat × Column) → Seen
  | [] => seen
  | (id, column) :: rest => after (seen.add id (columnName column position)) (position + 1) rest

theorem lookup_add (seen : Seen) (id : Nat) (name : String) (other : Nat) :
    (seen.add id name).suffixes.lookup other =
      if other = id then some (seen.suffix id name) else seen.suffixes.lookup other := by
  rw [add, List.lookup_cons]
  by_cases hother : other = id
  · simp [hother]
  · simp [hother, beq_false_of_ne hother]

/-- A suffix that an id has got is its suffix under any name. -/
theorem suffix_of_lookup (hsuffix : seen.suffixes.lookup id = some suffix) (name : String) :
    seen.suffix id name = suffix := by
  rw [Seen.suffix, hsuffix]

theorem lookup_add_of_lookup (hsuffix : seen.suffixes.lookup id = some suffix) (other : Nat) (name : String) :
    (seen.add other name).suffixes.lookup id = some suffix := by
  rw [lookup_add]
  split
  · next hsame =>
    subst hsame
    rw [suffix_of_lookup hsuffix]
  · exact hsuffix

/-- No later column takes the suffix of an id away. -/
theorem lookup_after (hsuffix : seen.suffixes.lookup id = some suffix) (position : Nat)
    (columns : List (Nat × Column)) : (seen.after position columns).suffixes.lookup id = some suffix := by
  induction columns generalizing seen position with
  | nil => exact hsuffix
  | cons entry rest ih => exact ih (lookup_add_of_lookup hsuffix _ _) (position + 1)

/-- The suffix that a column gets is the one that its id has at the end. -/
theorem lookup_after_cons (seen : Seen) (position : Nat) (entry : Nat × Column) (rest : List (Nat × Column)) :
    (seen.after position (entry :: rest)).suffixes.lookup entry.1 =
      some (seen.suffix entry.1 (columnName entry.2 position)) :=
  lookup_after ((lookup_add _ _ _ _).trans (if_pos rfl)) (position + 1) rest

end Seen

/-- The suffix that an id has at the end. -/
def suffixOf (columns : List (Nat × Column)) (id : Nat) : Nat :=
  ((Seen.after {} 0 columns).suffixes.lookup id).getD 0

theorem getElem?_fieldsFrom (settings : Settings) (seen : Seen) (position : Nat) (columns : List (Nat × Column))
    (index : Nat) :
    (fieldsFrom settings seen position columns)[index]? = columns[index]?.map fun entry =>
      fieldOf settings entry.2 (columnName entry.2 (position + index))
        (((seen.after position columns).suffixes.lookup entry.1).getD 0) := by
  induction columns generalizing seen position index with
  | nil => rfl
  | cons entry rest ih =>
    rw [fieldsFrom]
    cases index with
    | zero =>
      rw [List.getElem?_cons_zero, List.getElem?_cons_zero, Option.map_some, Seen.lookup_after_cons, Nat.add_zero]
      rfl
    | succ index =>
      rw [List.getElem?_cons_succ, List.getElem?_cons_succ, ih, Nat.add_right_comm, Nat.add_assoc]
      rfl

/-- A field depends on its own column, on its position as far as the column has no name, and on the suffix of its id. -/
theorem getElem?_structFields (columns : List (Nat × Column)) (settings : Settings) (index : Nat) :
    (structFields columns settings)[index]? = columns[index]?.map fun entry =>
      fieldOf settings entry.2 (columnName entry.2 index) (suffixOf columns entry.1) := by
  rw [structFields, getElem?_fieldsFrom, Nat.zero_add]
  rfl

/-- What a suffix puts behind a name. -/
def ending (suffix : Nat) : String :=
  if suffix > 0 then s!"_{suffix}" else ""

theorem name_fieldOf (settings : Settings) (column : Column) (name : String) (suffix : Nat) :
    (fieldOf settings column name suffix).name = structName name ++ ending suffix :=
  rfl

theorem toDigits_inj {n m : Nat} (hdigits : Nat.toDigits 10 n = Nat.toDigits 10 m) : n = m := by
  have hvalue := congrArg (fun digits => Nat.ofDigitChars 10 digits 0) hdigits
  simpa [Nat.ofDigitChars_toDigits] using hvalue

theorem underscore_not_mem_toDigits (n : Nat) : '_' ∉ Nat.toDigits 10 n := fun hmem =>
  absurd (Nat.isDigit_of_mem_toDigits (by decide) (by decide) hmem) (by decide)

section Shared

/-- Two places have fields of one name, with the same tags. -/
def SharesField (fields : List Field) (first second : Nat) : Prop :=
  ∃ field other, fields[first]? = some field ∧ fields[second]? = some other ∧
    field.name = other.name ∧ field.tags = other.tags

theorem sharesField_of_getElem? {fields : List Field} {first second : Nat} {field other : Field}
    (hfield : fields[first]? = some field) (hother : fields[second]? = some other) :
    SharesField fields first second ↔ field.name = other.name ∧ field.tags = other.tags := by
  constructor
  · rintro ⟨found, otherFound, hfound, hotherFound, hsame⟩
    rw [hfield] at hfound
    rw [hother] at hotherFound
    cases hfound
    cases hotherFound
    exact hsame
  · intro hsame
    exact ⟨field, other, hfield, hother, hsame⟩

theorem columnName_of_name {column : Column} (hname : column.name ≠ "") (position : Nat) :
    columnName column position = column.name := by
  rw [columnName, if_neg (by simpa [String.isEmpty_iff] using hname)]

theorem title_of_digit {c : Char} (hdigit : c.isDigit = true) (rest : List Char) : title (c :: rest) = c :: rest := by
  have hcode : 48 ≤ c.val ∧ c.val ≤ 57 := by simpa [Char.isDigit] using hdigit
  have hrange : 48 ≤ c.toNat ∧ c.toNat ≤ 57 := hcode
  have hupper : Text.upperChar c = [c.toUpper] := if_pos (by omega)
  have hsame : c.toUpper = c := by
    rw [← Char.toNat_inj, Text.toNat_toUpper, if_neg (by omega)]
  rw [title, hupper, hsame]
  rfl

theorem capitalized_toDigits (n : Nat) : capitalized (Nat.toDigits 10 n) = Nat.toDigits 10 n := by
  have hdigits : ∀ c ∈ Nat.toDigits 10 n, c.isDigit = true := fun c hc =>
    Nat.isDigit_of_mem_toDigits (by decide) (by decide) hc
  cases hn : Nat.toDigits 10 n with
  | nil => exact absurd hn Nat.toDigits_ne_nil
  | cons c rest =>
    rw [hn] at hdigits
    have hfirst := hdigits c List.mem_cons_self
    have hother : c :: rest ≠ ['i', 'd'] := by
      intro hid
      cases hid
      cases hfirst
    rw [capitalized, if_neg hother, title_of_digit hfirst]

/-- A column without a name is called after its position, from 1. -/
theorem toList_structName_columnName {column : Column} (hname : column.name = "") (position : Nat) :
    (structName (columnName column position)).toList = "Column".toList ++ Nat.toDigits 10 (position + 1) := by
  have hcolumn : (columnName column position).toList = "column".toList ++ '_' :: Nat.toDigits 10 (position + 1) := by
    rw [columnName, hname]
    simp [toString, Nat.toList_repr]
  rw [structName, hcolumn, List.splitOn_append_cons_self_of_not_mem (by decide),
    List.splitOn_eq_singleton (underscore_not_mem_toDigits _), String.toList_ofList, List.flatMap_cons,
    List.flatMap_singleton, capitalized_toDigits]
  rfl

/-- Entries of one id with equal columns share a field, unless the column is called after its position. -/
theorem sharesField_structFields_iff (settings : Settings) {first second id : Nat} {column : Column}
    (hfirst : columns[first]? = some (id, column)) (hsecond : columns[second]? = some (id, column)) :
    SharesField (structFields columns settings) first second ↔ column.name ≠ "" ∨ first = second := by
  have hfield := getElem?_structFields columns settings first
  have hother := getElem?_structFields columns settings second
  rw [hfirst, Option.map_some] at hfield
  rw [hsecond, Option.map_some] at hother
  rw [sharesField_of_getElem? hfield hother]
  constructor
  · rintro ⟨hname, -⟩
    refine or_iff_not_imp_left.2 fun hempty => ?_
    rw [ne_eq, not_not] at hempty
    have hchars := congrArg String.toList hname
    rw [name_fieldOf, name_fieldOf, String.toList_append, String.toList_append,
      toList_structName_columnName hempty, toList_structName_columnName hempty] at hchars
    exact Nat.succ.inj (toDigits_inj (List.append_cancel_left (List.append_cancel_right hchars)))
  · intro hcases
    have hcolumn : columnName column first = columnName column second := by
      rcases hcases with hname | rfl
      · rw [columnName_of_name hname, columnName_of_name hname]
      · rfl
    rw [hcolumn]
    exact ⟨rfl, rfl⟩

/-- Entries of one id with equal columns get one field name and the same tags exactly if the column has a name or the
    two are one entry. So do parameters of one number with equal columns. -/
theorem sharesField_iff (settings : Settings) :
    (∀ {columns : List (Nat × Column)} {first second id : Nat} {column : Column},
      columns[first]? = some (id, column) → columns[second]? = some (id, column) →
      (SharesField (structFields columns settings) first second ↔ column.name ≠ "" ∨ first = second)) ∧
    ∀ {query : Query} {first second : Nat} {param other : Parameter},
      query.params[first]? = some param → query.params[second]? = some other →
      param.number = other.number → param.column = other.column →
      (SharesField (paramFields query settings) first second ↔ param.column.name ≠ "" ∨ first = second) := by
  refine ⟨fun hfirst hsecond => sharesField_structFields_iff settings hfirst hsecond, ?_⟩
  intro query first second param other hfirst hsecond hnumber hcolumn
  have hparam : (query.params.map fun param => (param.number, param.column))[first]? =
      some (param.number, param.column) := by
    rw [List.getElem?_map, hfirst, Option.map_some]
  have hother : (query.params.map fun param => (param.number, param.column))[second]? =
      some (param.number, param.column) := by
    rw [List.getElem?_map, hsecond, Option.map_some, hnumber, hcolumn]
  exact sharesField_structFields_iff settings hparam hother

/-- One parameter twice, with a second one of the same column between. -/
def repeatedColumns : List (Nat × Column) :=
  [(1, .ofType "id" .integer true), (2, .ofType "id" .integer true), (1, .ofType "id" .integer true)]

theorem sharesField_iff_repeatedColumns :
    repeatedColumns[0]? = some (1, .ofType "id" .integer true) ∧
      repeatedColumns[2]? = some (1, .ofType "id" .integer true) ∧
      SharesField (structFields repeatedColumns {}) 0 2 :=
  ⟨rfl, rfl, ((sharesField_iff {}).1 rfl rfl).2 (.inl (by decide))⟩

/-- One parameter twice, under a cast that gives it no name. -/
theorem structFields_unnamed :
    (structFields [(1, .ofType "" .integer true), (1, .ofType "" .integer true)] { dbTags := true }).map
        (fun field => (field.name, field.tags)) =
      [("Column1", [("db", "column_1")]), ("Column2", [("db", "column_2")])] := by
  decide +kernel

end Shared

section Tags

/-- A name that is another one with `_` and decimal digits behind it. -/
def IsNumbered (name base : String) : Prop :=
  ∃ digits : List Char, digits ≠ [] ∧ (∀ c ∈ digits, c.isDigit = true) ∧ name.toList = base.toList ++ '_' :: digits

instance (name base : String) : Decidable (IsNumbered name base) :=
  let digits := name.toList.drop (base.toList.length + 1)
  decidable_of_iff (digits ≠ [] ∧ digits.all Char.isDigit = true ∧ name.toList = base.toList ++ '_' :: digits) <| by
    constructor
    · rintro ⟨hdigits, hall, hname⟩
      exact ⟨digits, hdigits, List.all_eq_true.1 hall, hname⟩
    · rintro ⟨rest, hrest, hall, hname⟩
      have hsame : digits = rest := by simp [digits, hname]
      rw [hsame]
      exact ⟨hrest, List.all_eq_true.2 hall, hname⟩

theorem toList_append_ending (name : String) {suffix : Nat} (hsuffix : 0 < suffix) :
    (name ++ ending suffix).toList = name.toList ++ '_' :: Nat.toDigits 10 suffix := by
  rw [ending, if_pos hsuffix]
  simp [toString, Nat.toList_repr]

theorem isNumbered_append_ending (base : String) {suffix : Nat} (hsuffix : 0 < suffix) :
    IsNumbered (base ++ ending suffix) base :=
  ⟨Nat.toDigits 10 suffix, Nat.toDigits_ne_nil, fun _ hc => Nat.isDigit_of_mem_toDigits (by decide) (by decide) hc,
    toList_append_ending base hsuffix⟩

theorem append_ending_zero (name : String) : name ++ ending 0 = name := by
  simp [ending]

/-- A text is cut in one way at the last place of a character. -/
theorem append_cons_inj {c : Char} {front other back rest : List Char} (hback : c ∉ back) (hrest : c ∉ rest)
    (hsame : front ++ c :: back = other ++ c :: rest) : front = other ∧ back = rest := by
  rcases List.append_eq_append_iff.1 hsame with ⟨between, rfl, htail⟩ | ⟨between, rfl, htail⟩
  · cases between with
    | nil =>
      cases htail
      exact ⟨(List.append_nil _).symm, rfl⟩
    | cons first between =>
      cases htail
      exact absurd (List.mem_append_right between List.mem_cons_self) hback
  · cases between with
    | nil =>
      cases htail
      exact ⟨List.append_nil _, rfl⟩
    | cons first between =>
      cases htail
      exact absurd (List.mem_append_right between List.mem_cons_self) hrest

/-- A tag tells its name and its suffix. -/
theorem append_ending_inj {name other : String} {suffix otherSuffix : Nat} (hname : ¬ IsNumbered name other)
    (hother : ¬ IsNumbered other name) (htag : name ++ ending suffix = other ++ ending otherSuffix) :
    name = other ∧ suffix = otherSuffix := by
  rcases Nat.eq_zero_or_pos suffix with rfl | hsuffix <;>
    rcases Nat.eq_zero_or_pos otherSuffix with rfl | hotherSuffix
  · rw [append_ending_zero, append_ending_zero] at htag
    exact ⟨htag, rfl⟩
  · rw [append_ending_zero] at htag
    exact absurd (htag ▸ isNumbered_append_ending other hotherSuffix) hname
  · rw [append_ending_zero] at htag
    exact absurd (htag ▸ isNumbered_append_ending name hsuffix) hother
  · have hchars := congrArg String.toList htag
    rw [toList_append_ending name hsuffix, toList_append_ending other hotherSuffix] at hchars
    obtain ⟨hfront, hdigits⟩ :=
      append_cons_inj (underscore_not_mem_toDigits suffix) (underscore_not_mem_toDigits otherSuffix) hchars
    exact ⟨String.toList_inj.1 hfront, toDigits_inj hdigits⟩

/-- The suffix of a column whose name has occurred a number of times. -/
def Seen.mark (count : Nat) : Nat :=
  if count > 0 then count + 1 else 0

theorem Seen.mark_inj {count other : Nat} (hmark : mark count = mark other) : count = other := by
  unfold mark at hmark
  split at hmark <;> split at hmark <;> omega

namespace Seen

variable {seen : Seen} {nameOf : Nat → String} {id suffix : Nat}

theorem suffix_of_new (hnew : seen.suffixes.lookup id = none) (name : String) :
    seen.suffix id name = mark (seen.names.count name) := by
  rw [Seen.suffix, hnew]
  rfl

/-- Each id has the suffix of a number of earlier columns of its name, and no two ids of one name have the same. -/
structure Apart (nameOf : Nat → String) (seen : Seen) : Prop where
  earlier : ∀ {id suffix}, seen.suffixes.lookup id = some suffix →
    ∃ count < seen.names.count (nameOf id), suffix = mark count
  inj : ∀ {id other suffix}, seen.suffixes.lookup id = some suffix → seen.suffixes.lookup other = some suffix →
    nameOf id = nameOf other → id = other

theorem Apart.empty : Apart nameOf {} where
  earlier hlookup := by cases hlookup
  inj hlookup := by cases hlookup

/-- A new id gets a suffix that no other id of its name has. -/
theorem Apart.ne_suffix (hseen : seen.Apart nameOf) {other : Nat} (hnew : seen.suffixes.lookup id = none)
    (hname : nameOf id = nameOf other) : seen.suffixes.lookup other ≠ some (seen.suffix id (nameOf id)) := by
  intro hother
  obtain ⟨count, hless, hmark⟩ := hseen.earlier hother
  rw [suffix_of_new hnew] at hmark
  have hcount := mark_inj hmark
  rw [hname] at hcount
  omega

theorem Apart.add (hseen : seen.Apart nameOf) (id : Nat) : (seen.add id (nameOf id)).Apart nameOf where
  earlier := by
    intro other suffix hlookup
    have hgrown : seen.names.count (nameOf other) ≤ (seen.add id (nameOf id)).names.count (nameOf other) :=
      List.count_le_count_cons
    rw [lookup_add] at hlookup
    split at hlookup
    · next hsame =>
      subst hsame
      cases hlookup
      cases hold : seen.suffixes.lookup other with
      | none => exact ⟨_, by simp [Seen.add], suffix_of_new hold _⟩
      | some suffix =>
        obtain ⟨count, hless, hmark⟩ := hseen.earlier hold
        exact ⟨count, Nat.lt_of_lt_of_le hless hgrown, (suffix_of_lookup hold _).trans hmark⟩
    · obtain ⟨count, hless, hmark⟩ := hseen.earlier hlookup
      exact ⟨count, Nat.lt_of_lt_of_le hless hgrown, hmark⟩
  inj := by
    intro first second suffix hfirst hsecond hname
    cases hold : seen.suffixes.lookup id with
    | some known =>
      -- Nothing changes for an id that has its suffix already.
      have hsame : ∀ other, (seen.add id (nameOf id)).suffixes.lookup other = seen.suffixes.lookup other := by
        intro other
        rw [lookup_add, suffix_of_lookup hold]
        split
        · next hother => rw [hother, hold]
        · rfl
      rw [hsame] at hfirst hsecond
      exact hseen.inj hfirst hsecond hname
    | none =>
      rw [lookup_add] at hfirst hsecond
      split at hfirst <;> split at hsecond
      · next hid hother => rw [hid, hother]
      · next hid _ =>
        rw [hid] at hname
        cases hfirst
        exact absurd hsecond (hseen.ne_suffix hold hname)
      · next _ hother =>
        rw [hother] at hname
        cases hsecond
        exact absurd hfirst (hseen.ne_suffix hold hname.symm)
      · exact hseen.inj hfirst hsecond hname

theorem Apart.after (hseen : seen.Apart nameOf) (position : Nat)
    (hnames : ∀ entry ∈ columns, entry.2.name ≠ "" ∧ entry.2.name = nameOf entry.1) :
    (seen.after position columns).Apart nameOf := by
  induction columns generalizing seen position with
  | nil => exact hseen
  | cons entry rest ih =>
    obtain ⟨⟨hnamed, hname⟩, hrest⟩ := List.forall_mem_cons.1 hnames
    have hadded := hseen.add entry.1
    rw [← hname, ← columnName_of_name hnamed position] at hadded
    exact ih hadded (position + 1) hrest

/-- Every id that occurs has a suffix at the end. -/
theorem exists_lookup_after {entry : Nat × Column} (hentry : entry ∈ columns) (seen : Seen) (position : Nat) :
    ∃ suffix, (seen.after position columns).suffixes.lookup entry.1 = some suffix := by
  induction columns generalizing seen position with
  | nil => cases hentry
  | cons first rest ih =>
    rcases List.mem_cons.1 hentry with rfl | hrest
    · exact ⟨_, lookup_after_cons seen position entry rest⟩
    · exact ih hrest _ (position + 1)

end Seen

/-- Ids of one name have different suffixes. -/
theorem suffixOf_inj {nameOf : Nat → String}
    (hnames : ∀ entry ∈ columns, entry.2.name ≠ "" ∧ entry.2.name = nameOf entry.1) {entry other : Nat × Column}
    (hentry : entry ∈ columns) (hother : other ∈ columns) (hname : entry.2.name = other.2.name)
    (hsuffix : suffixOf columns entry.1 = suffixOf columns other.1) : entry.1 = other.1 := by
  obtain ⟨suffix, hfound⟩ := Seen.exists_lookup_after hentry {} 0
  obtain ⟨otherSuffix, hotherFound⟩ := Seen.exists_lookup_after hother {} 0
  rw [suffixOf, suffixOf, hfound, hotherFound, Option.getD_some, Option.getD_some] at hsuffix
  subst hsuffix
  rw [(hnames entry hentry).2, (hnames other hother).2] at hname
  exact (Seen.Apart.empty.after 0 hnames).inj hfound hotherFound hname

/-- The `db` tag of a field. -/
def dbTag? (fields : List Field) (index : Nat) : Option String :=
  fields[index]?.bind (·.tags.get? "db")

theorem dbTag?_structFields {settings : Settings} (hdb : settings.dbTags = true) {entry : Nat × Column} {index : Nat}
    (hentry : columns[index]? = some entry) (hname : entry.2.name ≠ "") :
    dbTag? (structFields columns settings) index = some (entry.2.name ++ ending (suffixOf columns entry.1)) := by
  rw [dbTag?, getElem?_structFields, hentry, Option.map_some, columnName_of_name hname, Option.bind_some, fieldOf, hdb]
  rfl

/-- The names of ids that carry one name each. -/
def nameOf (columns : List (Nat × Column)) (id : Nat) : String :=
  ((columns.lookup id).map Column.name).getD ""

theorem name_eq_nameOf
    (hsame : ∀ entry ∈ columns, ∀ other ∈ columns, entry.1 = other.1 → entry.2.name = other.2.name)
    {entry : Nat × Column} (hentry : entry ∈ columns) : entry.2.name = nameOf columns entry.1 := by
  cases hfound : columns.lookup entry.1 with
  | none =>
    have hother := List.lookup_eq_none_iff.1 hfound entry hentry
    simp at hother
  | some column =>
    obtain ⟨front, back, hcolumns, -⟩ := List.lookup_eq_some_iff.1 hfound
    have hmem : (entry.1, column) ∈ columns := hcolumns ▸ List.mem_append_right front List.mem_cons_self
    rw [nameOf, hfound]
    exact hsame entry hentry _ hmem rfl

/-- With `db` tags, fields of different ids have different ones, if columns have names, one id has one name, and no name
    is another one with a number behind it. -/
theorem exists_dbTag?_ne {settings : Settings} (hdb : settings.dbTags = true)
    (hnamed : ∀ entry ∈ columns, entry.2.name ≠ "")
    (hsame : ∀ entry ∈ columns, ∀ other ∈ columns, entry.1 = other.1 → entry.2.name = other.2.name)
    (hplain : ∀ entry ∈ columns, ∀ other ∈ columns, ¬ IsNumbered entry.2.name other.2.name)
    {first second : Nat} {entry other : Nat × Column} (hfirst : columns[first]? = some entry)
    (hsecond : columns[second]? = some other) (hids : entry.1 ≠ other.1) :
    ∃ tag otherTag, dbTag? (structFields columns settings) first = some tag ∧
      dbTag? (structFields columns settings) second = some otherTag ∧ tag ≠ otherTag := by
  have hentry := List.mem_of_getElem? hfirst
  have hother := List.mem_of_getElem? hsecond
  refine ⟨_, _, dbTag?_structFields hdb hfirst (hnamed entry hentry),
    dbTag?_structFields hdb hsecond (hnamed other hother), fun htag => hids ?_⟩
  obtain ⟨hname, hsuffix⟩ :=
    append_ending_inj (hplain entry hentry other hother) (hplain other hother entry hentry) htag
  have hnames : ∀ entry ∈ columns, entry.2.name ≠ "" ∧ entry.2.name = nameOf columns entry.1 := fun entry hentry =>
    ⟨hnamed entry hentry, name_eq_nameOf hsame hentry⟩
  exact suffixOf_inj hnames hentry hother hname hsuffix

/-- Three ids of one name, of which the first comes again, and a longer name with letters behind the underscore. -/
def numberedColumns : List (Nat × Column) :=
  [(1, "id"), (2, "id"), (1, "id"), (3, "id"), (4, "id_no")].map fun entry => (entry.1, .ofType entry.2 .integer true)

/-- The repeated id counts for the suffix of the third one, which is `_4`. -/
theorem exists_dbTag?_ne_numberedColumns :
    (∀ entry ∈ numberedColumns, entry.2.name ≠ "") ∧
    (∀ entry ∈ numberedColumns, ∀ other ∈ numberedColumns, entry.1 = other.1 → entry.2.name = other.2.name) ∧
    (∀ entry ∈ numberedColumns, ∀ other ∈ numberedColumns, ¬ IsNumbered entry.2.name other.2.name) ∧
    ∃ tag otherTag, dbTag? (structFields numberedColumns { dbTags := true }) 1 = some tag ∧
      dbTag? (structFields numberedColumns { dbTags := true }) 3 = some otherTag ∧ tag ≠ otherTag := by
  have hnamed : ∀ entry ∈ numberedColumns, entry.2.name ≠ "" := by decide
  have hsame : ∀ entry ∈ numberedColumns, ∀ other ∈ numberedColumns, entry.1 = other.1 →
      entry.2.name = other.2.name := by decide
  have hplain : ∀ entry ∈ numberedColumns, ∀ other ∈ numberedColumns,
      ¬ IsNumbered entry.2.name other.2.name := by decide
  exact ⟨hnamed, hsame, hplain, exists_dbTag?_ne rfl hnamed hsame hplain rfl rfl (by decide)⟩

end Tags

end AnnotatedSql.Generate
