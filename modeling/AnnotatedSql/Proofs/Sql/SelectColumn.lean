import AnnotatedSql.Proofs.Sql.Identifier
import AnnotatedSql.Proofs.Text.Case
import AnnotatedSql.Sql.Parse

/-!
Columns that are selected by the spelling of their names. The spelling is one word of the text, and a select list reads
the word as a column unless the grammar has another use for it there; `parse_columnText` tells for which names it has.
Quotes would keep a word from being a keyword, but names that are keywords are spelled without them.
-/
namespace AnnotatedSql

namespace Dialect

/-- Keywords that are an expression other than a column, or open one and are no names without it. -/
def openingKeys (dialect : Dialect) : List String :=
  ["NOT", "INTERVAL", "EXISTS", "TRIM", "TRUE", "FALSE", "NULL", "CURRENT_DATE", "CURRENT_TIME", "CURRENT_TIMESTAMP",
    "LOCALTIME", "LOCALTIMESTAMP"] ++
  match dialect with
  | postgreSQL => ["CURRENT_CATALOG", "CURRENT_USER", "SESSION_USER", "USER"]
  | mySQL => []

/-- Keywords that a select list does not take for columns: what stands before it, what opens an expression, and what
    stands behind it. -/
def misreadKeys (dialect : Dialect) : List String :=
  "FROM" :: (["ALL", "DISTINCT", "TOP"] ++ dialect.openingKeys)

end Dialect

namespace Sql

/-- The column that a statement selects by its name, if it selects nothing else. -/
def Statement.soleColumn? : Statement → Option String
  | .query given =>
    match given.body with
    | .select clauses =>
      match clauses.items with
      | [.expr (.ident name)] => some name.value
      | _ => none
    | _ => none
  | _ => none

namespace Parse

section Steps

variable {α β : Type} {reader : Parse α} {grammar : Grammar} {lexemes rest : List Lexeme}

/-- What follows a reader goes on with the value and the tokens that it leaves. -/
theorem bind_of_ok {value : α} (hread : reader grammar lexemes = .ok (value, rest)) (next : α → Parse β) :
    (reader >>= next) grammar lexemes = next value grammar rest := by
  show (reader grammar lexemes).bind _ = _
  rw [hread]
  rfl

theorem bind_of_error {refusal : Refusal} (hread : reader grammar lexemes = .error refusal) (next : α → Parse β) :
    (reader >>= next) grammar lexemes = .error refusal := by
  show (reader grammar lexemes).bind _ = _
  rw [hread]
  rfl

theorem get_bind (next : List Lexeme → Parse β) : (get >>= next) grammar lexemes = next lexemes grammar lexemes :=
  rfl

theorem attempt_of_error (hread : reader grammar lexemes = .error .unexpected) :
    attempt reader grammar lexemes = .ok (none, lexemes) := by
  rw [attempt, hread]

theorem keyword?_of_ne {lexeme : Lexeme} {key : String} (hkey : keyOf lexeme ≠ key) :
    keyword? key grammar (lexeme :: rest) = .ok (false, lexeme :: rest) := by
  have hne : ¬ (((lexeme :: rest).take [key].length).map keyOf == [key]) = true := by simpa using hkey
  rw [keyword?, keywords?, get_bind, if_neg hne]
  rfl

/-- The reader takes all tokens, or refuses. -/
def ReadsAll (reader : Parse α) (grammar : Grammar) (lexemes : List Lexeme) (outcome : Except Refusal α) : Prop :=
  reader grammar lexemes = outcome.map fun value => (value, [])

theorem ReadsAll.bind {outcome : Except Refusal α} (hread : ReadsAll reader grammar lexemes outcome)
    (next : α → Parse β) {f : α → β} (hnext : ∀ value, next value grammar [] = .ok (f value, [])) :
    ReadsAll (reader >>= next) grammar lexemes (outcome.map f) := by
  cases outcome with
  | error refusal => exact bind_of_error hread next
  | ok value => exact (bind_of_ok hread next).trans (hnext value)

end Steps

/-- ` FROM t`, with the places of these tokens. -/
def fromTable (place : Nat → Nat) : List Lexeme :=
  [⟨.word (.plain "FROM"), place 4, place 5⟩, ⟨.word (.plain "t"), place 6, place 7⟩]

/-- A word before ` FROM t`. -/
def wordFrom (word : Word) (place : Nat → Nat) : List Lexeme :=
  ⟨.word word, place 2, place 3⟩ :: fromTable place

/-- `SELECT`, a word and ` FROM t`. -/
def selectWord (word : Word) (place : Nat → Nat) : List Lexeme :=
  ⟨.word (.plain "SELECT"), place 0, place 1⟩ :: wordFrom word place

section Types

variable {dialect : Dialect} {word : Word} {place : Nat → Nat}

/-- The reader takes the word for a type, though for no interval, or refuses. -/
def ReadsType (dialect : Dialect) (word : Word) (place : Nat → Nat) (reader : Parse TypeName) : Prop :=
  reader dialect.grammar (wordFrom word place) = .error .unexpected ∨
    ∃ type, reader dialect.grammar (wordFrom word place) = .ok (type, fromTable place) ∧ type ≠ .interval

theorem readsType_baseType (hkey : word.key ≠ "INTERVAL") : ReadsType dialect word place baseType := by
  have hpeek : ∀ next : Option Token → Parse TypeName, ReadsType dialect word place (next (some (.word word))) →
      ReadsType dialect word place (peek? >>= next) := fun _ hnext => hnext
  apply hpeek
  simp only [pure_bind]
  split
  · exact .inr ⟨_, rfl, by simp⟩
  split
  · exact .inr ⟨_, rfl, by simp⟩
  split
  · exact .inr ⟨_, rfl, by simp⟩
  split
  case h_11 => contradiction
  -- Lists of members and fixed sizes have to follow in parentheses.
  case h_17 | h_18 | h_19 | h_20 | h_21 | h_22 => exact .inl rfl
  all_goals exact .inr ⟨_, rfl, by simp⟩

theorem nestedType_word (bound : Nat) (hkey : word.key ≠ "INTERVAL") :
    nestedType (bound + 1) dialect.grammar (wordFrom word place) = .error .unexpected ∨
      ∃ type, nestedType (bound + 1) dialect.grammar (wordFrom word place) = .ok ((type, false), fromTable place) ∧
        type ≠ .interval := by
  by_cases harray : word.key = "ARRAY"
  · left
    obtain ⟨value, quote, key⟩ := word
    cases harray
    rfl
  · have hkeyword : keyword? "ARRAY" dialect.grammar (wordFrom word place) = .ok (false, wordFrom word place) :=
      keyword?_of_ne harray
    have hgeneral : ∀ element, generalType? element dialect.grammar (wordFrom word place) =
        .ok (none, wordFrom word place) := by
      intro element
      cases dialect <;> rfl
    rw [nestedType, bind_of_ok hkeyword, if_neg Bool.false_ne_true, bind_of_ok (hgeneral _)]
    rcases @readsType_baseType dialect word place hkey with hbase | ⟨type, hbase, htype⟩
    · exact .inl (bind_of_error hbase _)
    · refine .inr ⟨type, (bind_of_ok hbase _).trans ?_, htype⟩
      cases dialect <;> rfl

theorem readsType_typeName (hkey : word.key ≠ "INTERVAL") : ReadsType dialect word place typeName := by
  rw [ReadsType, typeName, get_bind]
  rcases @nestedType_word dialect word place _ hkey with hnested | ⟨type, hnested, htype⟩
  · exact .inl (bind_of_error hnested _)
  · exact .inr ⟨type, bind_of_ok hnested _, htype⟩

/-- No text follows the word, so it is not the type of one. -/
theorem typedText_word {rules : Rules} (hrules : rules.typeName = typeName) (hkey : word.key ≠ "INTERVAL") :
    typedText rules dialect.grammar (wordFrom word place) = .error .unexpected := by
  rw [typedText, hrules]
  rcases @readsType_typeName dialect word place hkey with hread | ⟨type, hread, htype⟩
  · exact bind_of_error hread _
  · refine (bind_of_ok hread _).trans ?_
    cases type with
    | interval => contradiction
    | _ => rfl

end Types

section Items

variable {dialect : Dialect} {word : Word} {place : Nat → Nat}

/-- Whether the form that a word could open is given up, so that the word is read as a name. -/
def givesUp (word : Word) : Except Refusal (Option Expr × List Lexeme) → Bool
  | .ok (none, _) => true
  | .error .unexpected => !reservedForName.contains word.key
  | _ => false

/-- The reader leaves the word to be a name, or it is one of the keywords that are none. -/
def LeavesName (dialect : Dialect) (word : Word) (place : Nat → Nat) (reader : Parse (Option Expr)) : Prop :=
  (givesUp word (reader dialect.grammar (fromTable place)) || dialect.openingKeys.contains word.key) = true

theorem leavesName_keywordForm (calls depth : Nat) :
    LeavesName dialect word place (keywordForm (rules (calls + 3) (depth + 1)) word) := by
  have hgrammar : ∀ next : Bool → Parse (Option Expr),
      LeavesName dialect word place (next ([.postgreSQL, .general].contains dialect.grammar)) →
      LeavesName dialect word place (inGrammar [.postgreSQL, .general] >>= next) := fun _ hnext => hnext
  apply hgrammar
  obtain ⟨value, quote, key⟩ := word
  dsimp only
  cases dialect <;> split <;> rfl

/-- Whether a word is `FROM` without quotes. Its lower case tells, where other keywords are told by their upper case. -/
def isBareFrom (word : Word) : Bool :=
  word.ident.quote.isNone && Text.toLower word.ident.value == "from"

section Name

variable (hkey : word.key ∉ dialect.openingKeys) (calls depth : Nat)

include hkey

theorem wordForm_word : wordForm (rules (calls + 3) (depth + 1)) word dialect.grammar (fromTable place) =
    .ok (.ident word.ident, fromTable place) := by
  have hleaves := @leavesName_keywordForm dialect word place calls depth
  rw [LeavesName, Bool.or_eq_true, or_iff_left (by simpa using hkey)] at hleaves
  rw [wordForm]
  unfold givesUp at hleaves
  split at hleaves
  · next hform =>
    rw [hform]
    rfl
  · next hform =>
    rw [hform]
    dsimp only
    rw [if_neg (by simpa using hleaves)]
    rfl
  · cases hleaves

theorem operand_word : operand (rules (calls + 3) (depth + 1)) dialect.grammar (wordFrom word place) =
    .ok (.ident word.ident, fromTable place) := by
  have hinterval : word.key ≠ "INTERVAL" := by
    intro heq
    exact hkey (heq ▸ List.mem_append_left _ (by decide))
  have htyped : typedText (rules (calls + 3) (depth + 1)) dialect.grammar (wordFrom word place) = .error .unexpected :=
    typedText_word rfl hinterval
  exact (bind_of_ok (attempt_of_error htyped) _).trans (wordForm_word hkey calls depth)

theorem whole_word : (rules (calls + 5) (depth + 2)).whole dialect.grammar (wordFrom word place) =
    .ok (.ident word.ident, fromTable place) := by
  have hprimary : (rules (calls + 4) (depth + 1)).primary dialect.grammar (wordFrom word place) =
      .ok (.ident word.ident, fromTable place) := operand_word hkey calls depth
  refine (bind_of_ok hprimary _).trans ?_
  cases dialect <;> rfl

theorem starred_word : starred (rules (calls + 5) (depth + 2)) dialect.grammar (wordFrom word place) =
    .ok (.expr (.ident word.ident), fromTable place) :=
  bind_of_ok (whole_word hkey calls depth) fun value => pure (Starred.expr value)

/-- The item is the column of that name, except for the bare word `FROM`. -/
theorem selectItem_word : selectItem (rules (calls + 5) (depth + 2)) dialect.grammar (wordFrom word place) =
    if isBareFrom word then .error .unexpected else .ok (.expr (.ident word.ident), fromTable place) := by
  refine (bind_of_ok (starred_word hkey calls depth) _).trans ?_
  unfold isBareFrom
  dsimp only
  split
  · rfl
  · cases dialect <;> rfl

end Name

/-- `SELECT` of some items from the table `t`. -/
def selectFrom (items : List Item) : Select where
  head := []
  items := items
  tables := [{ relation := .table [⟨"t", none⟩] none [], joins := [] }]
  views := []
  selection := none
  groupBy := []
  sorting := []
  having := none
  windows := []
  qualify := none

/-- Before its items a `SELECT` takes some keywords only. -/
theorem select_eq (hkey : word.key ∉ ["ALL", "DISTINCT", "TOP"]) (calls depth : Nat) :
    ∃ next : List Item → Parse Select, select (rules (calls + 1) depth) dialect.grammar (selectWord word place) =
        (selectItems (rules (calls + 1) depth) >>= next) dialect.grammar (wordFrom word place) ∧
      ∀ items, next items dialect.grammar (fromTable place) = .ok (selectFrom items, []) := by
  have hnone : ∀ key ∈ ["ALL", "DISTINCT", "TOP"],
      keyword? key dialect.grammar (wordFrom word place) = .ok (false, wordFrom word place) := by
    intro key hmem
    refine keyword?_of_ne ?_
    rintro rfl
    exact hkey hmem
  have hdistinct : distinctClause (rules (calls + 1) depth) dialect.grammar (wordFrom word place) =
      .ok ([], wordFrom word place) := by
    rw [distinctClause, bind_of_ok (hnone "ALL" (by simp)), bind_of_ok (hnone "DISTINCT" (by simp))]
    rfl
  have htop : topClause (rules (calls + 1) depth) dialect.grammar (wordFrom word place) =
      .ok ([], wordFrom word place) := by
    rw [topClause, bind_of_ok (hnone "TOP" (by simp))]
    rfl
  have hselect : keyword "SELECT" dialect.grammar (selectWord word place) = .ok ((), wordFrom word place) := rfl
  rw [select, bind_of_ok hselect, bind_of_ok hdistinct, bind_of_ok htop]
  refine ⟨_, rfl, fun items => ?_⟩
  cases dialect <;> rfl

/-- The `SELECT` has the column of that name for its only item. -/
theorem readsAll_select (hhead : word.key ∉ ["ALL", "DISTINCT", "TOP"]) (hkey : word.key ∉ dialect.openingKeys)
    (calls depth : Nat) :
    ReadsAll (select (rules (calls + 5) (depth + 2))) dialect.grammar (selectWord word place)
      (if isBareFrom word then .error .unexpected else .ok (selectFrom [.expr (.ident word.ident)])) := by
  obtain ⟨next, hselect, hnext⟩ := @select_eq dialect word place hhead (calls + 4) (depth + 2)
  have hitem := @selectItem_word dialect word place hkey calls depth
  rw [ReadsAll, hselect]
  split at hitem
  · next hfrom =>
    rw [if_pos hfrom]
    exact bind_of_error (bind_of_error hitem _) next
  · next hfrom =>
    have hitems : selectItems (rules (calls + 5) (depth + 2)) dialect.grammar (wordFrom word place) =
        .ok ([.expr (.ident word.ident)], fromTable place) := (bind_of_ok hitem _).trans rfl
    rw [if_neg hfrom]
    exact (bind_of_ok hitems next).trans (hnext _)

end Items

section Statements

variable {dialect : Dialect} {word : Word} {place : Nat → Nat} {calls depth : Nat}

/-- The statement is the query whose body is the `SELECT`. -/
theorem readsAll_statements {outcome : Except Refusal Select}
    (hselect : ReadsAll (select (rules calls depth)) dialect.grammar (selectWord word place) outcome) (bound : Nat) :
    ReadsAll (statements (rules (calls + 3) (depth + 2)) (bound + 1)) dialect.grammar (selectWord word place)
      (outcome.map fun clauses => [.query (bodyQuery (.select clauses))]) := by
  have hnone : ∀ key : String, "SELECT" ≠ key →
      keyword? key dialect.grammar (selectWord word place) = .ok (false, selectWord word place) :=
    fun _ hne => keyword?_of_ne hne
  have hcreate : createEnum? dialect.grammar (selectWord word place) = .ok (none, selectWord word place) := by
    cases dialect <;> rfl
  have hoperand : ReadsAll (bodyOperand (rules calls depth)) dialect.grammar (selectWord word place)
      (outcome.map Body.select) := hselect.bind (fun clauses => pure (Body.select clauses)) fun _ => rfl
  have hbody : ReadsAll ((rules (calls + 1) depth).body 0) dialect.grammar (selectWord word place)
      (outcome.map Body.select) := by
    cases outcome with
    | error refusal => exact bind_of_error hoperand _
    | ok clauses => exact (bind_of_ok hoperand _).trans rfl
  have hquery : ReadsAll (rules (calls + 2) (depth + 1)).query dialect.grammar (selectWord word place)
      ((outcome.map Body.select).map bodyQuery) := by
    show query _ _ _ _ _ = _
    simp only [query, bind_of_ok (hnone "WITH" (by decide)), bind_of_ok (hnone "INSERT" (by decide)),
      bind_of_ok (hnone "UPDATE" (by decide)), Bool.false_eq_true, if_false, pure_bind]
    exact hbody.bind _ fun body => by cases dialect <;> rfl
  have hstatement : ReadsAll (rules (calls + 3) (depth + 2)).statement dialect.grammar (selectWord word place)
      (((outcome.map Body.select).map bodyQuery).map Statement.query) := by
    show statement _ _ _ = _
    rw [statement, bind_of_ok hcreate]
    exact hquery.bind (fun given => pure (Statement.query given)) fun _ => rfl
  have hskip : (modify fun lexemes => lexemes.dropWhile fun lexeme => lexeme.token == .symbol ";" : Parse Unit)
      dialect.grammar (selectWord word place) = .ok ((), selectWord word place) := rfl
  have hpeek : peek? dialect.grammar (selectWord word place) =
      .ok (some (.word (.plain "SELECT")), selectWord word place) := rfl
  have hall : ReadsAll (statements (rules (calls + 3) (depth + 2)) (bound + 1)) dialect.grammar (selectWord word place)
      ((((outcome.map Body.select).map bodyQuery).map Statement.query).map fun first => [first]) := by
    rw [ReadsAll, statements, bind_of_ok hskip, bind_of_ok hpeek]
    exact hstatement.bind _ fun _ => rfl
  cases outcome <;> exact hall

/-- What is selected by a keyword that opens a select list or an expression is no column of that name. -/
theorem soleColumn?_keyword (dialect : Dialect) (value : String) (quote : Option Char) (place : Nat → Nat) :
    (["ALL", "DISTINCT", "TOP"] ++ dialect.openingKeys).all (fun key =>
      (((statements (rules 90 50) 5 dialect.grammar (selectWord ⟨value, quote, key⟩ place)).map Prod.fst).toOption.bind
        fun made => made.head?.bind Statement.soleColumn?).isNone) = true := by
  -- Each keyword decides by itself what is read, so that the value and the quotes of the word stay open.
  cases dialect <;> rfl

/-- A word is selected as a column unless it is a keyword that is used otherwise. -/
theorem soleColumn?_selectWord (hbare : isBareFrom word = true ↔ word.key = "FROM") :
    (∃ statement, (statements (rules 90 50) 5 dialect.grammar (selectWord word place)).map Prod.fst = .ok [statement] ∧
      statement.soleColumn? = some word.value) ↔ word.key ∉ dialect.misreadKeys := by
  constructor
  · rintro ⟨statement, hstatement, hcolumn⟩ hkey
    rcases List.mem_cons.1 hkey with hfrom | hkeyword
    · -- The list would end before its first item.
      have hhead : word.key ∉ ["ALL", "DISTINCT", "TOP"] := hfrom ▸ by decide
      have hopening : word.key ∉ dialect.openingKeys := hfrom ▸ by cases dialect <;> decide
      have hall := @readsAll_statements dialect word place _ _ _ (readsAll_select hhead hopening 82 46) 4
      rw [if_pos (hbare.2 hfrom)] at hall
      cases (congrArg (Except.map Prod.fst) hall).symm.trans hstatement
    · have hnone := List.all_eq_true.1 (soleColumn?_keyword dialect word.value word.quote place) word.key hkeyword
      rw [hstatement] at hnone
      exact Option.some_ne_none _ (hcolumn.symm.trans (Option.isNone_iff_eq_none.1 hnone))
  · intro hkey
    have hfrom : ¬ isBareFrom word = true := fun hword => hkey (List.mem_cons.2 (.inl (hbare.1 hword)))
    have hhead : word.key ∉ ["ALL", "DISTINCT", "TOP"] := fun hmem =>
      hkey (List.mem_cons_of_mem _ (List.mem_append_left _ hmem))
    have hopening : word.key ∉ dialect.openingKeys := fun hmem =>
      hkey (List.mem_cons_of_mem _ (List.mem_append_right _ hmem))
    have hall := @readsAll_statements dialect word place _ _ _ (readsAll_select hhead hopening 82 46) 4
    rw [if_neg hfrom] at hall
    exact ⟨_, congrArg (Except.map Prod.fst) hall, rfl⟩

end Statements

end Parse

open Parse

/-- A text that selects one column by the spelling of its name. -/
def columnText (dialect : Dialect) (name : String) : String :=
  "SELECT " ++ dialect.quoteIdentifier name ++ " FROM t"

theorem tokens_columnText (dialect : Dialect) (name : String) :
    tokens dialect.grammar (columnText dialect name).toList =
      some [.word (.plain "SELECT"), .word (dialect.nameWord name), .word (.plain "FROM"), .word (.plain "t")] := by
  have hword : ∀ {c : Char} {cs rest : List Char}, Lexer.startsWord c = true → cs.all Lexer.continuesWord = true →
      (∀ d ∈ rest.head?, d = ' ') → tokens dialect.grammar (c :: cs ++ rest) =
        (tokens dialect.grammar rest).map (.word (.plain (String.ofList (c :: cs))) :: ·) :=
    fun hc hcs hrest => tokens_word _ hc (List.all_eq_true.1 hcs) hrest
  have htable : tokens dialect.grammar " FROM t".toList = some [.word (.plain "FROM"), .word (.plain "t")] := by
    refine (tokens_space _ _).trans ((@hword 'F' "ROM".toList " t".toList rfl rfl (by simp)).trans ?_)
    rw [show " t".toList = ' ' :: ('t' :: [] ++ []) from rfl, tokens_space, hword rfl rfl (by simp), tokens_nil]
    rfl
  have hname := @tokens_quoteIdentifier dialect name " FROM t".toList (by simp)
  rw [htable] at hname
  have hselect := @hword 'S' "ELECT".toList (' ' :: ((dialect.quoteIdentifier name).toList ++ " FROM t".toList)) rfl rfl
    (by simp)
  rw [tokens_space, hname] at hselect
  rw [columnText, String.toList_append, String.toList_append, List.append_assoc]
  exact hselect

theorem parse_columnText_eq (dialect : Dialect) (name : String) :
    ∃ place, parse dialect.grammar (columnText dialect name) =
      (statements (rules 90 50) 5 dialect.grammar (selectWord (dialect.nameWord name) place)).map Prod.fst := by
  obtain ⟨lexemes, hlex, hmap⟩ := Option.map_eq_some_iff.1 (tokens_columnText dialect name)
  obtain ⟨⟨_, a, b⟩, _, rfl, rfl, hword⟩ := List.map_eq_cons_iff.1 hmap
  obtain ⟨⟨_, c, d⟩, _, rfl, rfl, hfrom⟩ := List.map_eq_cons_iff.1 hword
  obtain ⟨⟨_, e, f⟩, _, rfl, rfl, htable⟩ := List.map_eq_cons_iff.1 hfrom
  obtain ⟨⟨_, g, h⟩, _, rfl, rfl, hnil⟩ := List.map_eq_cons_iff.1 htable
  obtain rfl := List.map_eq_nil_iff.1 hnil
  refine ⟨fun i => [a, b, c, d, e, f, g, h].getD i 0, ?_⟩
  rw [parse, hlex]
  rfl

theorem value_nameWord (dialect : Dialect) (name : String) : (dialect.nameWord name).value = name := by
  rw [Dialect.nameWord]
  split <;> rfl

/-- A name in quotes is no keyword. -/
theorem key_nameWord_mem_iff {dialect : Dialect} {name : String} :
    (dialect.nameWord name).key ∈ dialect.misreadKeys ↔
      dialect.isPlainName name = true ∧ Text.toUpper name ∈ dialect.misreadKeys := by
  rw [Dialect.nameWord]
  split
  · next hplain => exact ⟨fun hkey => ⟨hplain, hkey⟩, And.right⟩
  · next hplain =>
    have hempty : "" ∉ dialect.misreadKeys := by cases dialect <;> decide
    exact iff_of_false hempty fun hboth => hplain hboth.1

/-- In a plain name, the two ways to tell `FROM` agree. -/
theorem isBareFrom_nameWord {dialect : Dialect} {name : String} :
    isBareFrom (dialect.nameWord name) = true ↔ (dialect.nameWord name).key = "FROM" := by
  rw [Dialect.nameWord, isBareFrom]
  split
  · next hplain =>
    have hascii : Text.IsAscii name := by
      obtain ⟨c, cs, hname, -, hchars⟩ := exists_of_isPlainName hplain
      intro d hd
      exact Lexer.toNat_of_continuesWord (hchars d (hname ▸ hd))
    rw [Bool.and_eq_true, beq_iff_eq]
    exact (and_iff_right rfl).trans (@Text.toLower_eq_iff_toUpper_eq name "from" hascii (by decide))
  · exact iff_of_false (by simp [Word.ident, Word.quoted]) (by simp [Word.quoted])

/-- The column that is selected by the spelling of a name has that name, unless the spelling is a keyword that a select
    list has another use for. -/
theorem parse_columnText (dialect : Dialect) (name : String) :
    (∃ statement, parse dialect.grammar (columnText dialect name) = .ok [statement] ∧
      statement.soleColumn? = some name) ↔
    ¬ (dialect.isPlainName name = true ∧ Text.toUpper name ∈ dialect.misreadKeys) := by
  obtain ⟨place, hparse⟩ := parse_columnText_eq dialect name
  have hword := @soleColumn?_selectWord dialect (dialect.nameWord name) place isBareFrom_nameWord
  rw [value_nameWord, key_nameWord_mem_iff] at hword
  rw [hparse]
  exact hword

/-- `null` is spelled without quotes and then no column, though it would be one in quotes. What `from` is spelled as
    cannot be selected at all. -/
theorem parse_columnText_null :
    columnText .postgreSQL "null" = "SELECT null FROM t" ∧
    (parse Dialect.postgreSQL.grammar (columnText .postgreSQL "null")).toOption.map (·.map Statement.soleColumn?) =
      some [none] ∧
    (parse Dialect.mySQL.grammar (columnText .mySQL "null")).toOption.map (·.map Statement.soleColumn?) = some [none] ∧
    (parse Dialect.postgreSQL.grammar (columnText .postgreSQL "from")).toOption.isNone ∧
    (parse Dialect.postgreSQL.grammar "SELECT \"null\" FROM t").toOption.map (·.map Statement.soleColumn?) =
      some [some "null"] := by
  decide +kernel

end Sql

end AnnotatedSql
