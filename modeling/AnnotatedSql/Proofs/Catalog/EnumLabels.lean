import Mathlib.Data.List.Basic
import AnnotatedSql.Proofs.Compile.InlineEnum
import AnnotatedSql.Proofs.FieldType.Spelling

/-!
Labels of enum types. The labels that a column lists are written down as a type string, which is then read back. Writing
doubles a quote only where it stands alone: two quotes in a row are taken for a doubled one, and a quote behind a
backslash for an escaped one. `Catalog.define?_enumLabels` says for which labels this comes to the same.
-/
namespace AnnotatedSql

open Sql (ColumnSyntax ObjectName escapeQuotes)

/-- No quote stands directly behind another one or behind a backslash. -/
def QuotesApart (label : List Char) : Prop :=
  label.IsChain fun c d => d = '\x27' → c ≠ '\x27' ∧ c ≠ '\\'

instance (label : List Char) : Decidable (QuotesApart label) :=
  inferInstanceAs (Decidable (label.IsChain _))

namespace FieldType

theorem doubled_cons_quote (value : List Char) : doubled ('\x27' :: value) = '\x27' :: '\x27' :: doubled value := rfl

theorem doubled_cons {c : Char} (hc : c ≠ '\x27') (value : List Char) : doubled (c :: value) = c :: doubled value := by
  simp [doubled, hc]

section Escaping

theorem length_escapeQuotes_le (last : Char) (label : List Char) :
    (escapeQuotes '\x27' last label).length ≤ (doubled label).length := by
  fun_induction escapeQuotes '\x27' last label with
  | case1 => simp
  | case2 last c hc =>
    obtain ⟨rfl, -⟩ : c = '\x27' ∧ last ≠ '\\' := by simpa using hc
    simp [doubled]
  | case3 last c =>
    by_cases hc : c = '\x27' <;> simp [doubled, hc]
  | case4 d rest ih =>
    simp only [doubled_cons_quote, List.length_cons] at ih ⊢
    omega
  | case5 last rest hlast ih =>
    simp only [doubled_cons_quote, List.length_cons]
    omega
  | case6 last d rest hlast hd ih =>
    simp only [doubled_cons_quote, List.length_cons]
    omega
  | case7 last c d rest hc ih =>
    simp only [doubled_cons hc, List.length_cons]
    omega

/-- Writing loses and adds quotes only. -/
theorem filter_escapeQuotes (last : Char) (label : List Char) :
    (escapeQuotes '\x27' last label).filter (· ≠ '\x27') = (doubled label).filter (· ≠ '\x27') := by
  fun_induction escapeQuotes '\x27' last label with
  | case1 => rfl
  | case2 last c hc =>
    obtain ⟨rfl, -⟩ : c = '\x27' ∧ last ≠ '\\' := by simpa using hc
    rfl
  | case3 last c =>
    by_cases hc : c = '\x27' <;> simp [doubled, hc]
  | case4 d rest ih => simpa [doubled_cons_quote] using ih
  | case5 last rest hlast ih => simpa [doubled_cons_quote] using ih
  | case6 last d rest hlast hd ih => simpa [doubled_cons_quote] using ih
  | case7 last c d rest hc ih => simpa [doubled_cons hc, hc] using ih

/-- Each quote is doubled exactly where none of them could be taken for a part of a pair or for an escaped one. -/
theorem escapeQuotes_eq_doubled_iff (last : Char) (label : List Char) :
    escapeQuotes '\x27' last label = doubled label ↔
      ('\x27' ∈ label.head? → last ≠ '\\') ∧ QuotesApart label := by
  fun_induction escapeQuotes '\x27' last label with
  | case1 => simp [doubled, QuotesApart]
  | case2 last c hc =>
    obtain ⟨rfl, hlast⟩ : c = '\x27' ∧ last ≠ '\\' := by simpa using hc
    simp [doubled, QuotesApart, hlast]
  | case3 last c hc =>
    by_cases hquote : c = '\x27' <;> simp_all [doubled, QuotesApart]
  | case4 d rest ih =>
    have hshort := length_escapeQuotes_le '\\' (d :: rest)
    refine iff_of_false (fun heq => ?_) (by simp)
    have hlength := congrArg List.length heq
    simp only [doubled_cons_quote, List.length_cons] at hlength
    omega
  | case5 last rest hlast ih =>
    have hshort := length_escapeQuotes_le '\x27' rest
    refine iff_of_false (fun heq => ?_) (by simp [QuotesApart])
    have hlength := congrArg List.length heq
    simp only [doubled_cons_quote, List.length_cons] at hlength
    omega
  | case6 last d rest hlast hd ih =>
    simp only [doubled_cons_quote, List.cons.injEq, true_and, ih]
    simp [QuotesApart, hlast, hd]
  | case7 last c d rest hc ih =>
    simp only [doubled_cons hc, List.cons.injEq, true_and, ih]
    simp [QuotesApart, hc]

end Escaping

section Reading

/-- A value that is read ends at a quote that is not doubled, and each quote in it stands there doubled. -/
theorem eq_of_readValue?_eq_some {text value after : List Char} (hread : readValue? text = some (value, after)) :
    text = doubled value ++ '\x27' :: after := by
  fun_induction readValue? text generalizing value after with
  | case1 => cases hread
  | case2 rest ih =>
    obtain ⟨⟨value', after'⟩, hrest, heq⟩ := Option.map_eq_some_iff.1 hread
    cases heq
    rw [doubled_cons_quote, ih hrest]
    rfl
  | case3 =>
    cases hread
    rfl
  | case4 c rest _ hc ih =>
    obtain ⟨⟨value', after'⟩, hrest, heq⟩ := Option.map_eq_some_iff.1 hread
    cases heq
    rw [doubled_cons hc, ih hrest]
    rfl

/-- What is written for a label reads back as this label only if each quote is doubled. -/
theorem escapeQuotes_eq_doubled_of_readValue? {label after rest : List Char} (hrest : '\x27' ∉ rest.head?)
    (hread : readValue? (escapeQuotes '\x27' '\x00' label ++ '\x27' :: rest) = some (label, after)) :
    escapeQuotes '\x27' '\x00' label = doubled label ∧ after = rest := by
  have hshort := length_escapeQuotes_le '\x00' label
  have hsplit := List.append_eq_append_iff.1 (eq_of_readValue?_eq_some hread)
  rcases hsplit with ⟨more, hdoubled, hmore⟩ | ⟨more, hescaped, hmore⟩
  · -- Only quotes can be missing, and one more of them would have to follow.
    cases more with
    | nil => simp_all
    | cons c more =>
      obtain ⟨rfl, rfl⟩ : '\x27' = c ∧ rest = more ++ '\x27' :: after := by simpa using hmore
      have hquotes := filter_escapeQuotes '\x00' label
      rw [hdoubled, List.filter_append, List.self_eq_append_right, List.filter_eq_nil_iff] at hquotes
      cases more with
      | nil => simp at hrest
      | cons d more =>
        have hd : d = '\x27' := by simpa using hquotes d (by simp)
        simp [hd] at hrest
  · have hlength := congrArg List.length hescaped
    rw [List.length_append] at hlength
    obtain rfl := List.eq_nil_of_length_eq_zero (show more.length = 0 by omega)
    simp_all

theorem readValues?_eq_some_cons {text : List Char} {value : String} {values : List String} {rest : List Char}
    (hread : readValues? text = some (value :: values, rest)) :
    ∃ inner after, text.dropWhile isSeparator = '\x27' :: inner ∧ readValue? inner = some (value.toList, after) ∧
      readValues? after = some (values, rest) := by
  rw [readValues?] at hread
  split at hread
  · cases hread
  · next inner hinner =>
    split at hread
    · cases hread
    · next found after hfound =>
      obtain ⟨⟨others, rest'⟩, hothers, heq⟩ := Option.map_eq_some_iff.1 hread
      cases heq
      exact ⟨inner, after, hinner, by rw [hfound, String.toList_ofList], hothers⟩
  · cases hread

end Reading

section Listing

/-- Labels as they are written down. -/
def written (labels : List String) : List Char :=
  ", ".toList.intercalate (labels.map fun label => '\x27' :: (escapeQuotes '\x27' '\x00' label.toList ++ ['\x27']))

/-- What stands between the first label and the others. -/
theorem exists_written_cons (label : String) (labels : List String) :
    ∃ gap, (∀ c ∈ gap, isSeparator c = true) ∧ (gap = [] → labels = []) ∧ written (label :: labels) =
      '\x27' :: (escapeQuotes '\x27' '\x00' label.toList ++ '\x27' :: (gap ++ written labels)) := by
  cases labels with
  | nil => exact ⟨[], by simp, fun _ => rfl, by simp [written]⟩
  | cons next labels =>
    refine ⟨[',', ' '], ?_, by simp, ?_⟩
    · intro c hc
      rcases List.mem_pair.1 hc with rfl | rfl <;> decide
    · simp [written, List.intercalate_cons_cons]

/-- Written labels are read back as they are if and only if each quote is doubled. -/
theorem readValues?_written_iff (labels : List String) {separators : List Char}
    (hseparators : ∀ c ∈ separators, isSeparator c = true) {rest after : List Char} :
    readValues? (separators ++ (written labels ++ ')' :: rest)) = some (labels, after) ↔
      (∀ label ∈ labels, escapeQuotes '\x27' '\x00' label.toList = doubled label.toList) ∧ after = rest := by
  induction labels generalizing separators with
  | nil =>
    have hclosed := @readValues?_close (separators ++ ')' :: rest) rest
      (by rw [List.dropWhile_append_of_pos hseparators]; rfl)
    rw [show written [] = [] from rfl, List.nil_append, hclosed]
    simp [eq_comm]
  | cons label labels ih =>
    obtain ⟨gap, hgap, hlast, hwritten⟩ := exists_written_cons label labels
    have htail : '\x27' ∉ (gap ++ (written labels ++ ')' :: rest)).head? := by
      cases gap with
      | nil =>
        rw [hlast rfl]
        exact fun hc => absurd (Option.some.inj hc) (by decide)
      | cons c gap =>
        rintro ⟨⟩
        exact absurd (hgap _ List.mem_cons_self) (by decide)
    have hstart : (separators ++ (written (label :: labels) ++ ')' :: rest)).dropWhile isSeparator =
        '\x27' :: (escapeQuotes '\x27' '\x00' label.toList ++ '\x27' :: (gap ++ (written labels ++ ')' :: rest))) := by
      rw [List.dropWhile_append_of_pos hseparators, hwritten]
      simp [isSeparator, show Text.isBlank '\x27' = false by decide]
    rw [List.forall_mem_cons, and_assoc, ← ih hgap]
    constructor
    · intro hread
      obtain ⟨inner, behind, hinner, hvalue, hothers⟩ := readValues?_eq_some_cons hread
      obtain ⟨-, rfl⟩ := List.cons.inj (hstart.symm.trans hinner)
      obtain ⟨hlabel, rfl⟩ := escapeQuotes_eq_doubled_of_readValue? htail hvalue
      exact ⟨hlabel, hothers⟩
    · rintro ⟨hlabel, hothers⟩
      rw [hlabel] at hstart
      have hvalue := readValue?_doubled label.toList (fun c hc hquote => htail (hquote ▸ hc))
      rw [readValues?_quote hstart hvalue, hothers, String.ofList_toList]
      rfl

end Listing

section Whole

/-- Qualifiers leave the values alone. -/
theorem values_of_foldlM_qualify {input : String} {words : List (List Char)} {type type' : FieldType}
    (hfold : words.foldlM (qualify input) type = .ok type') : type'.values = type.values := by
  induction words generalizing type with
  | nil =>
    cases hfold
    rfl
  | cons word words ih =>
    rw [List.foldlM_cons] at hfold
    cases hword : qualify input type word with
    | error e =>
      rw [hword] at hfold
      cases hfold
    | ok next =>
      rw [hword] at hfold
      rw [ih hfold]
      unfold qualify at hword
      split at hword <;> cases hword <;> rfl

/-- A type string of an enum is read as far as its list of values. -/
theorem read_enum (inner : List Char) {input : String}
    (hinput : input.toList = "ENUM".toList ++ '(' :: (inner ++ [')'])) :
    read input = readArguments input { base := "enum" } ('(' :: (inner ++ [')'])) >>= fun made =>
      (Text.words made.2).foldlM (qualify input) made.1 := by
  have hbase : IsBase "ENUM".toList := by decide
  have hblanks : Text.IsBlanks [] := by decide
  have hrest : Text.trimStart (Text.trimEnd ('(' :: (inner ++ [')']))) = '(' :: (inner ++ [')']) :=
    trim_parentheses hblanks inner []
  have htrim : Text.trim input.toList = "ENUM".toList ++ Text.trimEnd ('(' :: (inner ++ [')'])) := by
    rw [hinput]
    exact hbase.isWord.trim_append hblanks _
  obtain ⟨htake, hdrop⟩ := span_base hbase fun c hc =>
    isBaseChar_head?_parentheses hblanks (inner ++ [')']) c (mem_head?_of_trimEnd hc)
  have hsome : ("ENUM".toList ++ Text.trimEnd ('(' :: (inner ++ [')']))).isEmpty = false := rfl
  rw [List.nil_append] at htake hdrop
  simp only [read, htrim, htake, hdrop, hsome, hrest]
  rfl

theorem read_enum_of_readValues? {inner : List Char} {input : String}
    (hinput : input.toList = "ENUM".toList ++ '(' :: (inner ++ [')'])) {values : List String}
    (hvalues : readValues? (inner ++ [')']) = some (values, [])) :
    read input = .ok { base := "enum", values } := by
  simp only [read_enum inner hinput, readArguments, hvalues]
  rfl

theorem readValues?_of_read_enum {inner : List Char} {input : String}
    (hinput : input.toList = "ENUM".toList ++ '(' :: (inner ++ [')'])) {type : FieldType}
    (hread : read input = .ok type) : ∃ after, readValues? (inner ++ [')']) = some (type.values, after) := by
  simp only [read_enum inner hinput, readArguments] at hread
  cases hvalues : readValues? (inner ++ [')']) with
  | none =>
    rw [hvalues] at hread
    cases hread
  | some made =>
    rw [hvalues] at hread
    exact ⟨made.2, congrArg (fun values => some (values, made.2)) (values_of_foldlM_qualify hread).symm⟩

end Whole

end FieldType

/-- Labels survive being written down if and only if no quote stands directly behind another one or behind a
    backslash. -/
theorem enumValues_eq_self_iff (labels : List String) :
    enumValues labels = labels ↔ ∀ label ∈ labels, QuotesApart label.toList := by
  have hinput : ("ENUM(" ++ ", ".intercalate (labels.map fun label =>
      "\x27" ++ String.ofList (escapeQuotes '\x27' '\x00' label.toList) ++ "\x27") ++ ")").toList =
      "ENUM".toList ++ '(' :: (FieldType.written labels ++ [')']) := by
    simp [FieldType.written, String.toList_intercalate, Function.comp_def]
  have hapart : (∀ label ∈ labels, escapeQuotes '\x27' '\x00' label.toList = FieldType.doubled label.toList) ↔
      ∀ label ∈ labels, QuotesApart label.toList := by
    simp [FieldType.escapeQuotes_eq_doubled_iff]
  have hwritten := fun after => @FieldType.readValues?_written_iff labels [] (by simp) [] after
  rw [← hapart, enumValues]
  constructor
  · intro hsame
    split at hsame
    · next type hread =>
      obtain ⟨after, hvalues⟩ := FieldType.readValues?_of_read_enum hinput hread
      exact ((hwritten after).1 (hsame ▸ hvalues)).1
    · rw [← hsame]
      simp
  · intro hlabels
    rw [FieldType.read_enum_of_readValues? hinput ((hwritten []).2 ⟨hlabels, rfl⟩)]

namespace Catalog

theorem of_inlineEnum?_eq_some {table : String} {given : ColumnSyntax} {type : EnumDef}
    (hgiven : given.inlineEnum? table = some type) :
    type.name = table ++ "_" ++ given.name.value ∧ ∃ labels, given.type = .enum labels := by
  unfold ColumnSyntax.inlineEnum? at hgiven
  split at hgiven
  · next labels htype =>
    cases hgiven
    exact ⟨rfl, labels, htype⟩
  · cases hgiven

/-- The last column of a name that lists its labels gives the values of the enum type. -/
theorem exists_lastNamed?_inlineEnum? (table : String) (front : List ColumnSyntax) {back : List ColumnSyntax}
    {given : ColumnSyntax} {labels : List String} (htype : given.type = .enum (some labels))
    (hlast : ∀ other ∈ back, other.name.value = given.name.value → ∀ others, other.type ≠ .enum others) :
    ∃ type, EnumDef.lastNamed? ((front ++ given :: back).filterMap (·.inlineEnum? table))
      (table ++ "_" ++ given.name.value) = some type ∧ type.values = enumValues labels := by
  obtain ⟨type, hgiven, hvalues⟩ :
      ∃ type, given.inlineEnum? table = some type ∧ type.values = enumValues labels := by
    simp [ColumnSyntax.inlineEnum?, htype]
  have hback : ∀ other ∈ back.filterMap (·.inlineEnum? table), other.name ≠ table ++ "_" ++ given.name.value := by
    intro other hother hname
    obtain ⟨column, hcolumn, hinline⟩ := List.mem_filterMap.1 hother
    obtain ⟨hown, others, henum⟩ := of_inlineEnum?_eq_some hinline
    exact hlast column hcolumn ((String.append_right_inj _).1 (hown.symm.trans hname)) others henum
  refine ⟨type, ?_, hvalues⟩
  rw [EnumDef.lastNamed?, List.filterMap_append, List.filterMap_cons_some hgiven, List.reverse_append,
    List.reverse_cons, List.append_assoc, List.find?_append, List.find?_eq_none.2]
  · simp [(of_inlineEnum?_eq_some hgiven).1]
  · simpa using hback

/-- The table of a definition is always taken into the catalog. The enum type of a column that lists its labels has them
    as its values, in order, if and only if no quote in a label stands directly behind another one or behind a
    backslash. -/
theorem define?_enumLabels (draft : Draft) (name : ObjectName) (front back : List ColumnSyntax) (given : ColumnSyntax)
    (keys : List (List Sql.Ident)) {labels : List String} (htype : given.type = .enum (some labels))
    (hlast : ∀ other ∈ back, other.name.value = given.name.value → ∀ others, other.type ≠ .enum others) :
    ∃ after type, draft.define? (.table name (front ++ given :: back) keys) = some after ∧
      after.catalog.enum? ⟨name.qualified.schema, name.qualified.name ++ "_" ++ given.name.value⟩ = some type ∧
      (type.values = labels ↔ ∀ label ∈ labels, QuotesApart label.toList) := by
  obtain ⟨type, hfound, hvalues⟩ :=
    exists_lastNamed?_inlineEnum? name.qualified.name front htype hlast
  have hdeclares := @Declares.definition draft _ name (front ++ given :: back) keys rfl
  refine ⟨_, type, rfl, ?_, hvalues ▸ enumValues_eq_self_iff labels⟩
  rw [hdeclares.enum?_eq, hfound]
  simp

/-- A column that lists labels. -/
def labelled (column : String) (labels : List String) : ColumnSyntax where
  name := ⟨column, none⟩
  type := .enum (some labels)
  options := []

/-- Quotes that stand alone, and what could end a value or a list, are no obstacle. -/
def trickyLabels : List String :=
  ["it's", "'", "),(", "\\", "\\\\x", ""]

theorem define?_enumLabels_tricky :
    ∃ after type, Draft.define? { catalog := .empty "" } (.table [⟨"t", none⟩]
        ([labelled "a" ["old"]] ++ labelled "a" trickyLabels :: []) []) = some after ∧
      after.catalog.enum? ⟨none, "t_a"⟩ = some type ∧ type.values = trickyLabels := by
  obtain ⟨after, type, hafter, htype, hvalues⟩ := define?_enumLabels { catalog := .empty "" } [⟨"t", none⟩]
    [labelled "a" ["old"]] [] (labelled "a" trickyLabels) [] rfl (by simp)
  exact ⟨after, type, hafter, htype, hvalues.2 (by decide)⟩

/-- The labels of an enum type after some definitions. -/
def labelsAfter (definitions name : String) : Option (List String) :=
  (Draft.read? .mySQL { catalog := .empty "" } definitions).bind fun draft =>
    (draft.catalog.enum? ⟨none, name⟩).map EnumDef.values

/-- A pair of quotes comes back as a single one, and a quote behind a backslash makes all labels disappear. -/
theorem labelsAfter_lost :
    enumValues ["it''s"] = ["it's"] ∧ enumValues ["it's", "x\\'y"] = [] ∧
      labelsAfter "CREATE TABLE t (a ENUM('it''s'));" "t_a" = some ["it's"] ∧
      labelsAfter "CREATE TABLE t (a ENUM('it''''s'));" "t_a" = some ["it's"] ∧
      labelsAfter "CREATE TABLE t (a ENUM('it''s', 'x\\\\''y'));" "t_a" = some [] := by
  decide +kernel

end Catalog

end AnnotatedSql
