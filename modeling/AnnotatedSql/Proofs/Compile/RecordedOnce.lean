import AnnotatedSql.Proofs.Compile.RespelledView
import AnnotatedSql.Proofs.Compile.WalkExtension
import AnnotatedSql.Proofs.Compile.WalkOrder
import Mathlib.Data.List.Perm.Subperm

/-!
The placeholders that the walk records. A record keeps the number in the text of its placeholder, not the text itself;
which text it was shows when placeholders are respelled, since the walk then records the numbers of the new spellings
and nothing else changes. The texts told in this way are among the placeholders of the statement, none more often than
it stands there (`Walk.statement_recordsOnce`).
-/
namespace AnnotatedSql

open Sql (Arg Assignment Body Call CallArgs Cte Expr FromItem Item Join Literal Relation Select Statement
  placeholdersAmong respelling)

/-- A placeholder as the walk meets it. -/
structure Sighting where
  text : String
  context : Context
  scope : Scope
  row : Option Nat

/-- What the walk records of the placeholder if it is respelled. -/
def Sighting.found (respell : String → String) (sighting : Sighting) : Found where
  number := Walk.numberOf? (respell sighting.text)
  context := sighting.context
  scope := sighting.scope
  row := sighting.row

/-- Respelling tells apart what was sighted. -/
theorem Sighting.eq_of_found {sighting other : Sighting}
    (hfound : ∀ respell, sighting.found respell = other.found respell) : sighting = other := by
  obtain ⟨text, context, scope, row⟩ := sighting
  obtain ⟨otherText, otherContext, otherScope, otherRow⟩ := other
  obtain ⟨-, rfl, rfl, rfl⟩ := Found.mk.inj (hfound id)
  -- The text of the first one is told from all others by a number of its own.
  have htext := congrArg Found.number (hfound fun spelling => if spelling = text then "$1" else "$2")
  by_cases hsame : otherText = text
  · rw [hsame]
  · simp only [found, if_neg hsame, if_true] at htext
    exact absurd htext (by decide)

/-- A computation over a tree, and the same one over the tree with its placeholders respelled. If the first one does
    not fail, neither does the other one, and their results are related. -/
def Respells {α : Type} (part : Except Error α) (respelled : (String → String) → Except Error α)
    (related : α → ((String → String) → α) → Prop) : Prop :=
  Yields part fun result => ∃ results, (∀ respell, respelled respell = .ok (results respell)) ∧ related result results

namespace Respells

variable {α β : Type} {part : Except Error α} {respelled : (String → String) → Except Error α}
  {related : α → ((String → String) → α) → Prop} {next : β → ((String → String) → β) → Prop}

theorem ok {result : α} {results : (String → String) → α} (hresult : related result results) :
    Respells (.ok result) (fun respell => .ok (results respell)) related :=
  Yields.ok ⟨results, fun _ => rfl, hresult⟩

theorem bind {rest : α → Except Error β} {respelledRest : (String → String) → α → Except Error β}
    (hpart : Respells part respelled related)
    (hrest : ∀ result results, related result results →
      Respells (rest result) (fun respell => respelledRest respell (results respell)) next) :
    Respells (part >>= rest) (fun respell => respelled respell >>= respelledRest respell) next := by
  refine Yields.bind hpart ?_
  rintro result ⟨results, hresults, hrelated⟩ last hlast
  obtain ⟨lasts, hlasts, hnext⟩ := hrest result results hrelated last hlast
  refine ⟨lasts, fun respell => ?_, hnext⟩
  show respelled respell >>= respelledRest respell = _
  rw [hresults]
  exact hlasts respell

/-- A computation that respelling does not change. -/
theorem same (hsame : ∀ respell, respelled respell = part) :
    Respells part respelled fun result results => results = fun _ => result := by
  intro result hresult
  exact ⟨_, fun respell => (hsame respell).trans hresult, rfl⟩

theorem congr {other : Except Error α} {otherRespelled : (String → String) → Except Error α} (hpart : part = other)
    (hrespelled : ∀ respell, respelled respell = otherRespelled respell)
    (hother : Respells other otherRespelled related) : Respells part respelled related := by
  rwa [hpart, funext hrespelled]

end Respells

/-- What is found comes from placeholders among the expressions, from none of them twice. -/
def Seen (found : List Found) (founds : (String → String) → List Found) (exprs : List Expr) : Prop :=
  ∃ sightings : List Sighting, found = sightings.map (·.found id) ∧
    (∀ respell, founds respell = sightings.map (·.found respell)) ∧
    (sightings.map Sighting.text).Subperm (placeholdersAmong exprs)

namespace Seen

variable {found other : List Found} {founds others : (String → String) → List Found} {exprs more : List Expr}

theorem nil (exprs : List Expr) : Seen [] (fun _ => []) exprs :=
  ⟨[], rfl, fun _ => rfl, List.nil_subperm⟩

theorem append (hfound : Seen found founds exprs) (hother : Seen other others more) :
    Seen (found ++ other) (fun respell => founds respell ++ others respell) (exprs ++ more) := by
  obtain ⟨sightings, rfl, hfounds, hwithin⟩ := hfound
  obtain ⟨later, rfl, hothers, hlater⟩ := hother
  refine ⟨sightings ++ later, List.map_append.symm, fun respell => ?_, ?_⟩
  · rw [List.map_append, ← hfounds, ← hothers]
  · rw [List.map_append, Sql.placeholdersAmong_append]
    exact hwithin.append hlater

/-- What comes from some expressions comes from more of them. -/
theorem mono (hfound : Seen found founds exprs) (hmore : (placeholdersAmong exprs).Subperm (placeholdersAmong more)) :
    Seen found founds more := by
  obtain ⟨sightings, hsightings, hfounds, hwithin⟩ := hfound
  exact ⟨sightings, hsightings, hfounds, hwithin.trans hmore⟩

theorem of_sublist (hfound : Seen found founds exprs) (hmore : exprs.Sublist more) : Seen found founds more :=
  hfound.mono (hmore.filterMap _).subperm

theorem cons (value : Expr) (hfound : Seen found founds exprs) : Seen found founds (value :: exprs) :=
  hfound.of_sublist (List.sublist_cons_self value exprs)

theorem appendLeft (more : List Expr) (hfound : Seen found founds exprs) : Seen found founds (more ++ exprs) :=
  hfound.of_sublist (List.sublist_append_right more exprs)

theorem appendRight (more : List Expr) (hfound : Seen found founds exprs) : Seen found founds (exprs ++ more) :=
  hfound.of_sublist (List.sublist_append_left exprs more)

end Seen

/-- What a part of the walk finds comes from placeholders among the expressions, from none of them twice. -/
def Sees (part : Finding) (respelled : (String → String) → Finding) (exprs : List Expr) : Prop :=
  Respells part respelled (Seen · · exprs)

namespace Sees

variable {part other : Finding} {respelled otherRespelled : (String → String) → Finding} {exprs more : List Expr}

theorem append (hpart : Sees part respelled exprs) (hother : Sees other otherRespelled more) :
    Sees (do return (← part) ++ (← other))
      (fun respell => do return (← respelled respell) ++ (← otherRespelled respell)) (exprs ++ more) :=
  hpart.bind fun _ _ hfound => hother.bind fun _ _ hmore => .ok (hfound.append hmore)

theorem mono (hpart : Sees part respelled exprs) (hmore : (placeholdersAmong exprs).Subperm (placeholdersAmong more)) :
    Sees part respelled more := by
  intro found hfound
  obtain ⟨founds, hfounds, hseen⟩ := hpart found hfound
  exact ⟨founds, hfounds, hseen.mono hmore⟩

theorem cons (value : Expr) (hpart : Sees part respelled exprs) : Sees part respelled (value :: exprs) :=
  hpart.mono ((List.sublist_cons_self value exprs).filterMap _).subperm

end Sees

/-- The same for parts one by one, each with expressions of its own. -/
inductive SeesEach : List Finding → ((String → String) → List Finding) → List Expr → Prop
  | nil (exprs : List Expr) : SeesEach [] (fun _ => []) exprs
  | cons {part : Finding} {respelled : (String → String) → Finding} {parts : List Finding}
      {respelledParts : (String → String) → List Finding} {exprs more : List Expr}
      (hpart : Sees part respelled exprs) (hparts : SeesEach parts respelledParts more) :
      SeesEach (part :: parts) (fun respell => respelled respell :: respelledParts respell) (exprs ++ more)

theorem Finding.all_cons (part : Finding) (parts : List Finding) :
    Finding.all (part :: parts) = (do return (← part) ++ (← Finding.all parts)) := by
  simp only [Finding.all, List.mapM_cons, id_eq, bind_assoc, pure_bind, List.flatten_cons]

namespace SeesEach

variable {parts others : List Finding} {respelled otherRespelled : (String → String) → List Finding}
  {exprs more : List Expr}

theorem all (hparts : SeesEach parts respelled exprs) :
    Sees (Finding.all parts) (fun respell => Finding.all (respelled respell)) exprs := by
  induction hparts with
  | nil exprs => exact .ok (.nil exprs)
  | cons hpart _ ih =>
    simp only [Finding.all_cons]
    exact hpart.append ih

/-- Parts of two kinds by turns come from the expressions of both. -/
theorem interleave (hparts : SeesEach parts respelled exprs) (hothers : SeesEach others otherRespelled more) :
    Sees (Finding.all (interleave parts others))
      (fun respell => Finding.all (interleave (respelled respell) (otherRespelled respell))) (exprs ++ more) := by
  induction hparts generalizing others otherRespelled more with
  | nil exprs => exact .ok (.nil _)
  | cons hpart _ ih =>
    cases hothers with
    | nil more => exact .ok (.nil _)
    | cons hother hothers =>
      simp only [AnnotatedSql.interleave, Finding.all_cons]
      refine (hpart.append (hother.append (ih hothers))).mono ?_
      simp only [Sql.placeholdersAmong_append, List.append_assoc]
      exact ((List.perm_append_comm_assoc _ _ _).append_left _).subperm

end SeesEach

/-- A placeholder that is respelled tells the same about the other side of an operator: nothing. -/
theorem Context.ofOperand_respell (value : Expr) (respell : String → String) :
    ofOperand (value.mapUp (respelling respell)) = ofOperand value := by
  cases value with
  | nested inner => exact ofOperand_respell inner respell
  | literal value => cases value <;> rfl
  | _ => rfl
termination_by structural value

theorem map_ofOperand_respell (values : List Expr) (respell : String → String) :
    (Sql.mapUpList (respelling respell) values).map Context.ofOperand = values.map .ofOperand := by
  induction values with
  | nil => rfl
  | cons value rest ih => rw [Sql.mapUpList, List.map_cons, List.map_cons, Context.ofOperand_respell, ih]

/-- One context for each of some expressions. -/
theorem map_const_respell (context : Context) (values : List Expr) (respell : String → String) :
    ((Sql.mapUpList (respelling respell) values).map fun _ => context) = values.map fun _ => context := by
  rw [List.map_const', List.map_const', Sql.length_mapUpList]

/-- The walk records every placeholder among expressions of forms that say nothing about types. -/
theorem Walk.unknowns_seen (walk : Walk) (scope : Scope) {exprs : List Expr} {respelled : (String → String) → List Expr}
    (hrespelled : ∀ respell, respelled respell = exprs.map (·.mapUp (respelling respell))) :
    Seen (walk.unknowns scope exprs) (fun respell => walk.unknowns scope (respelled respell)) exprs := by
  have hunknowns : ∀ exprs, walk.unknowns scope exprs = (placeholdersAmong exprs).map (walk.found scope .unknown) := by
    intro exprs
    rw [Walk.unknowns, placeholdersAmong, List.map_filterMap]
    congr 1
    funext value
    cases value with
    | literal value => cases value <;> rfl
    | _ => rfl
  refine ⟨(placeholdersAmong exprs).map fun text => ⟨text, .unknown, scope, walk.row⟩, ?_, fun respell => ?_, ?_⟩
  · rw [hunknowns, List.map_map]
    rfl
  · show walk.unknowns scope (respelled respell) = _
    rw [hunknowns, hrespelled, Sql.placeholdersAmong_respell, List.map_map, List.map_map]
    rfl
  · have htexts : (placeholdersAmong exprs).map (Sighting.text ∘ fun text => ⟨text, .unknown, scope, walk.row⟩) =
        placeholdersAmong exprs := List.map_id _
    rw [List.map_map, htexts]

/-- What a body yields: what is found in it, and a scope that does not depend on spellings. -/
def SeesBody (part : Except Error (List Found × Scope))
    (respelled : (String → String) → Except Error (List Found × Scope)) (exprs : List Expr) : Prop :=
  Respells part respelled fun result results =>
    ∃ founds, results = (fun respell => (founds respell, result.2)) ∧ Seen result.1 founds exprs

/-- What the walk finds in expressions one by one comes from them, if their contexts do not depend on spellings. -/
def Walk.SeesExprs (walk : Walk) (scope : Scope) (values : List Expr) : Prop :=
  ∀ {contexts : List Context} {respelledContexts : (String → String) → List Context},
    (∀ respell, respelledContexts respell = contexts) →
    SeesEach (walk.exprs scope contexts values)
      (fun respell => walk.exprs scope (respelledContexts respell) (Sql.mapUpList (respelling respell) values))
      (Sql.allOfList values)

/-- Tuples on both sides of an operator are walked item by item, whether they have the same length or not. -/
theorem Walk.expr_tuples_sees {op : Sql.BinaryOp} (hop : ¬ op.IsLogical) {walk : Walk} {scope : Scope}
    {lefts rights : List Expr} (hlefts : walk.SeesExprs scope lefts) (hrights : walk.SeesExprs scope rights)
    (context : Context) :
    Sees (walk.expr scope context (.binary (.tuple lefts) op (.tuple rights)))
      (fun respell => walk.expr scope context
        (.binary (.tuple (Sql.mapUpList (respelling respell) lefts)) op
          (.tuple (Sql.mapUpList (respelling respell) rights))))
      (Expr.binary (.tuple lefts) op (.tuple rights)).all := by
  simp only [walk.expr_tuples hop, Sql.length_mapUpList]
  split
  · exact (((hlefts (map_ofOperand_respell rights)).all.cons _).cons _).append
      ((hrights (map_ofOperand_respell lefts)).all.cons _)
  · exact (((hlefts (map_const_respell .unknown lefts)).all.cons _).cons _).append
      ((hrights (map_const_respell .unknown rights)).all.cons _)

mutual

/-- The placeholders that are found in an expression are in it, and none is found twice. The context may be read off a
    neighbour in the tree, as long as respelling does not change it. -/
theorem Walk.expr_sees (walk : Walk) (scope : Scope) (context : Context) {contexts : (String → String) → Context}
    (hcontexts : ∀ respell, contexts respell = context) (value : Expr) :
    Sees (walk.expr scope context value)
      (fun respell => walk.expr scope (contexts respell) (value.mapUp (respelling respell))) value.all := by
  obtain rfl : contexts = fun _ => context := funext hcontexts
  cases value with
  | ident name => exact .ok (.nil _)
  | path parts => exact .ok (.nil _)
  | typed type => exact .ok (.nil _)
  | literal value =>
    cases value with
    | placeholder spelling => exact .ok ⟨[⟨spelling, context, scope, walk.row⟩], rfl, fun _ => rfl, .refl _⟩
    | _ => exact .ok (.nil _)
  | nested inner => exact (walk.expr_sees scope context (fun _ => rfl) inner).cons _
  | binary left op right =>
    -- The recursion has to go into the operands themselves, so what it says of tuples stands before the case split.
    have hlefts (lefts : List Expr) (htuple : left = .tuple lefts) : walk.SeesExprs scope lefts := by
      cases left with
      | tuple items =>
        rw [← Expr.tuple.inj htuple]
        exact walk.exprs_sees scope items
      | _ => cases htuple
    have hrights (rights : List Expr) (htuple : right = .tuple rights) : walk.SeesExprs scope rights := by
      cases right with
      | tuple items =>
        rw [← Expr.tuple.inj htuple]
        exact walk.exprs_sees scope items
      | _ => cases htuple
    have hleft {context : Context} {contexts : (String → String) → Context}
        (hcontexts : ∀ respell, contexts respell = context) := walk.expr_sees scope context hcontexts left
    have hright {context : Context} {contexts : (String → String) → Context}
        (hcontexts : ∀ respell, contexts respell = context) := walk.expr_sees scope context hcontexts right
    by_cases hop : op.IsLogical
    · exact .congr (walk.expr_logical hop ..) (fun respell => walk.expr_logical hop ..)
        (((hleft fun _ => rfl).cons _).append (hright fun _ => rfl))
    · by_cases htuples : ∃ lefts rights, left = .tuple lefts ∧ right = .tuple rights
      · obtain ⟨lefts, rights, rfl, rfl⟩ := htuples
        exact Walk.expr_tuples_sees hop (hlefts lefts rfl) (hrights rights rfl) context
      · refine .congr (walk.expr_operands hop htuples ..) (fun respell => walk.expr_operands hop ?_ ..)
          (((hleft (Context.ofOperand_respell right)).cons _).append (hright (Context.ofOperand_respell left)))
        rintro ⟨_, _, hleftTuple, hrightTuple⟩
        obtain ⟨lefts, hleftTuple⟩ := Expr.exists_tuple_of_respell respell hleftTuple
        obtain ⟨rights, hrightTuple⟩ := Expr.exists_tuple_of_respell respell hrightTuple
        exact htuples ⟨lefts, rights, hleftTuple, hrightTuple⟩
  | quantified left right =>
    exact ((walk.expr_sees scope .unknown (fun _ => rfl) left).cons _).append
      (walk.expr_sees scope (Context.ofOperand left).quantified
        (fun respell => congrArg Context.quantified (Context.ofOperand_respell left respell)) right)
  | inList operand items =>
    refine ((walk.expr_sees scope .unknown (fun _ => rfl) operand).cons _).append
      (walk.exprs_sees scope items fun respell => ?_).all
    rw [Context.ofOperand_respell, Sql.length_mapUpList]
    exact map_const_respell _ items respell
  | inQuery operand query =>
    exact ((walk.expr_sees scope .unknown (fun _ => rfl) operand).cons _).append (walk.query_sees scope query)
  | between operand low high =>
    exact (walk.expr_sees scope .unknown (fun _ => rfl) operand).bind fun _ _ hoperand =>
      (walk.expr_sees scope (.ofOperand operand) (Context.ofOperand_respell operand) low).bind fun _ _ hlow =>
      (walk.expr_sees scope (.ofOperand operand) (Context.ofOperand_respell operand) high).bind fun _ _ hhigh =>
        .ok (((hoperand.cons _).append hlow).append hhigh)
  | like operand pattern =>
    exact ((walk.expr_sees scope .unknown (fun _ => rfl) operand).cons _).append
      (walk.expr_sees scope (.ofOperand operand) (Context.ofOperand_respell operand) pattern)
  | cast operand type => exact (walk.expr_sees scope (.cast type) (fun _ => rfl) operand).cons _
  | call call => exact (walk.call_sees scope call).cons _
  | case operand conditions results otherwise =>
    have hcontext : ∀ respell, ((Sql.mapUpOption (respelling respell) operand).map Context.ofOperand).getD .unknown =
        (operand.map Context.ofOperand).getD .unknown := by
      intro respell
      cases operand with
      | none => rfl
      | some operand => exact Context.ofOperand_respell operand respell
    have hconditions := walk.exprs_sees scope conditions fun respell =>
      (map_const_respell _ conditions respell).trans (congrArg (fun context => conditions.map fun _ => context)
        (hcontext respell))
    have hresults := walk.exprs_sees scope results (map_const_respell .unknown results)
    refine (walk.exprOption_sees scope .unknown operand).bind fun _ _ hoperand =>
      (hconditions.interleave hresults).bind fun _ _ hparts =>
      (walk.exprOption_sees scope .unknown otherwise).bind fun _ _ hotherwise => .ok ?_
    have hseen := ((hoperand.cons (.case operand conditions results otherwise)).append hparts).append hotherwise
    rwa [← List.append_assoc] at hseen
  | subquery query => exact (walk.query_sees scope query).cons _
  | «exists» query => exact (walk.query_sees scope query).cons _
  | unary op operand => exact (walk.expr_sees scope .unknown (fun _ => rfl) operand).cons _
  | test operand => exact (walk.expr_sees scope .unknown (fun _ => rfl) operand).cons _
  | tuple items =>
    exact (walk.exprs_sees scope items (map_const_respell .unknown items)).all.cons _
  | distinct left right =>
    exact .ok ((walk.unknowns_seen scope fun respell =>
      Sql.append_eq_map (left.all_respell respell) (right.all_respell respell)).cons _)
  | interval value => exact .ok ((walk.unknowns_seen scope fun respell => value.all_respell respell).cons _)
  | form operands =>
    exact .ok ((walk.unknowns_seen scope fun respell => Sql.allOfList_respell respell operands).cons _)
termination_by structural value

theorem Walk.exprs_sees (walk : Walk) (scope : Scope) (values : List Expr) : walk.SeesExprs scope values := by
  intro contexts respelledContexts hcontexts
  obtain rfl : respelledContexts = fun _ => contexts := funext hcontexts
  cases values with
  | nil => cases contexts <;> exact .nil _
  | cons value rest =>
    cases contexts with
    | nil => exact .nil _
    | cons context contexts =>
      exact .cons (walk.expr_sees scope context (fun _ => rfl) value) (walk.exprs_sees scope rest fun _ => rfl)
termination_by structural values

theorem Walk.exprOption_sees (walk : Walk) (scope : Scope) (context : Context) (value : Option Expr) :
    Sees (walk.exprOption scope context value)
      (fun respell => walk.exprOption scope context (Sql.mapUpOption (respelling respell) value))
      (Sql.allOfOption value) := by
  cases value with
  | none => exact .ok (.nil _)
  | some value => exact walk.expr_sees scope context (fun _ => rfl) value
termination_by structural value

theorem Walk.call_sees (walk : Walk) (scope : Scope) (call : Call) :
    Sees (walk.call scope call) (fun respell => walk.call scope (call.mapUp (respelling respell))) call.all := by
  obtain ⟨name, args, filter, window, _⟩ := call
  exact (walk.callArgs_sees scope _ args).bind fun _ _ hargs =>
    (walk.exprOption_sees scope .unknown filter).bind fun _ _ hfilter =>
      .ok (((hargs.append hfilter).append
        (walk.unknowns_seen scope fun respell => Sql.allOfList_respell respell window)).appendRight _)
termination_by structural call

theorem Walk.callArgs_sees (walk : Walk) (scope : Scope) (function : QualifiedName) (args : CallArgs) :
    Sees (walk.callArgs scope function args)
      (fun respell => walk.callArgs scope function (args.mapUp (respelling respell))) args.all := by
  cases args with
  | none => exact .ok (.nil _)
  | list args clauses =>
    exact (walk.args_sees scope function args.length (fun respell => Sql.length_mapUpArgs _ args) 0 args).bind
      fun _ _ hargs => .ok (hargs.append
        (walk.unknowns_seen scope fun respell => Sql.allOfList_respell respell clauses))
  | query query => exact walk.query_sees scope query
termination_by structural args

theorem Walk.args_sees (walk : Walk) (scope : Scope) (function : QualifiedName) (count : Nat)
    {counts : (String → String) → Nat} (hcounts : ∀ respell, counts respell = count) (index : Nat) (args : List Arg) :
    Sees (walk.args scope function count index args)
      (fun respell => walk.args scope function (counts respell) index (Sql.mapUpArgs (respelling respell) args))
      (Sql.allOfArgs args) := by
  obtain rfl : counts = fun _ => count := funext hcounts
  match args with
  | [] => exact .ok (.nil _)
  | .positional value :: rest =>
    exact (walk.exprOption_sees scope (.argument function index count) value).append
      (walk.args_sees scope function count (fun _ => rfl) (index + 1) rest)
  | .named value :: rest =>
    exact (walk.exprOption_sees scope (.argument function index count) value).append
      (walk.args_sees scope function count (fun _ => rfl) (index + 1) rest)
  | .labelled label value :: rest =>
    exact (walk.exprOption_sees scope (.argument function index count) value).bind fun _ _ hvalue =>
      (walk.args_sees scope function count (fun _ => rfl) (index + 1) rest).bind fun _ _ hrest =>
        .ok ((hvalue.appendLeft _).append hrest)
termination_by structural args

theorem Walk.query_sees (walk : Walk) (outer : Scope) (query : Sql.Query) :
    Sees (walk.query outer query) (fun respell => walk.query outer (query.mapUp (respelling respell))) query.all := by
  obtain ⟨recursive, ctes, body, orderBy, limit, offset, _⟩ := query
  -- All respelled parts are walked under one view, since the columns of common table expressions stay the same.
  refine (Respells.same fun respell => View.withCtes_respell respell walk.view recursive outer ctes).bind ?_
  rintro view _ rfl
  refine (Walk.ctes_sees _ outer ctes).bind fun _ _ hctes => (Walk.body_sees _ outer body).bind ?_
  rintro ⟨_, scope⟩ _ ⟨_, rfl, hbody⟩
  exact (Walk.exprs_sees _ scope orderBy (map_const_respell .unknown orderBy)).all.bind
    fun _ _ horder => (Walk.exprOption_sees _ scope .limit limit).bind fun _ _ hlimit =>
    (Walk.exprOption_sees _ scope .offset offset).bind fun _ _ hoffset =>
      .ok (((((hctes.append hbody).append horder).append hlimit).append hoffset).appendRight _)
termination_by structural query

theorem Walk.ctes_sees (walk : Walk) (outer : Scope) (ctes : List Cte) :
    Sees (walk.ctes outer ctes) (fun respell => walk.ctes outer (Sql.mapUpCtes (respelling respell) ctes))
      (Sql.allOfCtes ctes) := by
  match ctes with
  | [] => exact .ok (.nil _)
  | ⟨_, query⟩ :: rest => exact (walk.query_sees outer query).append (walk.ctes_sees outer rest)
termination_by structural ctes

theorem Walk.body_sees (walk : Walk) (outer : Scope) (body : Body) :
    SeesBody (walk.body outer body) (fun respell => walk.body outer (body.mapUp (respelling respell))) body.all := by
  cases body with
  | select select => exact walk.select_sees outer select
  | query query => exact (walk.query_sees outer query).bind fun _ founds hquery => .ok ⟨founds, rfl, hquery⟩
  | setOperation left right =>
    refine (walk.body_sees outer left).bind ?_
    rintro ⟨_, _⟩ _ ⟨_, rfl, hleft⟩
    refine (walk.body_sees outer right).bind ?_
    rintro ⟨_, _⟩ _ ⟨_, rfl, hright⟩
    exact .ok ⟨_, rfl, hleft.append hright⟩
  | values rows => exact (walk.rows_sees outer rows).bind fun _ founds hrows => .ok ⟨founds, rfl, hrows⟩
  | insert insert => exact .ok ⟨_, rfl, walk.unknowns_seen outer fun respell => insert.all_respell respell⟩
  | update update => exact .ok ⟨_, rfl, walk.unknowns_seen outer fun respell => update.all_respell respell⟩
  | table => exact .ok ⟨_, rfl, .nil _⟩
termination_by structural body

theorem Walk.rows_sees (walk : Walk) (outer : Scope) (rows : List (List Expr)) :
    Sees (walk.rows outer rows) (fun respell => walk.rows outer (Sql.mapUpRows (respelling respell) rows))
      (Sql.allOfRows rows) := by
  match rows with
  | [] => exact .ok (.nil _)
  | row :: rest =>
    exact (walk.exprs_sees outer row (map_const_respell .unknown row)).all.append
      (walk.rows_sees outer rest)
termination_by structural rows

theorem Walk.select_sees (walk : Walk) (outer : Scope) (select : Select) :
    SeesBody (walk.select outer select) (fun respell => walk.select outer (select.mapUp (respelling respell)))
      select.all := by
  obtain ⟨_, items, tables, _, selection, groupBy, _, having, _, qualify⟩ := select
  refine (Respells.same fun respell => View.frame_respell respell walk.view outer {} tables).bind ?_
  rintro frame _ rfl
  refine (walk.items_sees _ items).bind fun _ _ hitems => (walk.fromItems_sees outer _ tables).bind fun _ _ htables =>
    (walk.exprOption_sees _ .unknown selection).bind fun _ _ hselection => ?_
  refine (walk.exprs_sees _ groupBy (map_const_respell .unknown groupBy)).all.bind
    fun _ _ hgroup => (walk.exprOption_sees _ .unknown having).bind fun _ _ hhaving =>
    (walk.exprOption_sees _ .unknown qualify).bind fun _ _ hqualify => .ok ⟨_, rfl, ?_⟩
  exact ((((((((hitems.appendLeft _).append htables).appendRight _).append hselection).append hgroup).appendRight
    _).append hhaving).appendRight _).append hqualify
termination_by structural select

theorem Walk.items_sees (walk : Walk) (scope : Scope) (items : List Item) :
    Sees (walk.items scope items) (fun respell => walk.items scope (Sql.mapUpItems (respelling respell) items))
      (Sql.allOfItems items) := by
  match items with
  | [] => exact .ok (.nil _)
  | .expr value :: rest =>
    exact (walk.expr_sees scope .unknown (fun _ => rfl) value).append (walk.items_sees scope rest)
  | .aliased value _ :: rest =>
    exact (walk.expr_sees scope .unknown (fun _ => rfl) value).append (walk.items_sees scope rest)
  | .wildcard _ :: rest => exact walk.items_sees scope rest
  | .qualified _ _ :: rest => exact walk.items_sees scope rest
termination_by structural items

theorem Walk.fromItems_sees (walk : Walk) (outer scope : Scope) (items : List FromItem) :
    Sees (walk.fromItems outer scope items)
      (fun respell => walk.fromItems outer scope (Sql.mapUpTables (respelling respell) items))
      (Sql.allOfTables items) := by
  match items with
  | [] => exact .ok (.nil _)
  | item :: rest => exact (walk.fromItem_sees outer scope item).append (walk.fromItems_sees outer scope rest)
termination_by structural items

theorem Walk.fromItem_sees (walk : Walk) (outer scope : Scope) (item : FromItem) :
    Sees (walk.fromItem outer scope item)
      (fun respell => walk.fromItem outer scope (item.mapUp (respelling respell))) item.all := by
  obtain ⟨relation, joins⟩ := item
  exact (walk.relation_sees outer scope relation).append (walk.joins_sees outer scope joins)
termination_by structural item

theorem Walk.joins_sees (walk : Walk) (outer scope : Scope) (joins : List Join) :
    Sees (walk.joins outer scope joins)
      (fun respell => walk.joins outer scope (Sql.mapUpJoins (respelling respell) joins)) (Sql.allOfJoins joins) := by
  match joins with
  | [] => exact .ok (.nil _)
  | ⟨relation, _, on, _, _⟩ :: rest =>
    exact (walk.relation_sees outer scope relation).bind fun _ _ hrelation =>
      (walk.exprOption_sees scope .unknown on).bind fun _ _ hon =>
      (walk.joins_sees outer scope rest).bind fun _ _ hrest =>
        .ok (((hrelation.append hon).appendRight _).append hrest)
termination_by structural joins

theorem Walk.relation_sees (walk : Walk) (outer scope : Scope) (relation : Relation) :
    Sees (walk.relation outer scope relation)
      (fun respell => walk.relation outer scope (relation.mapUp (respelling respell))) relation.all := by
  cases relation with
  | table name asName hints => exact .ok (.nil _)
  | derived lateral query asName => exact walk.query_sees _ query
  | joined inner asName => exact walk.fromItem_sees outer scope inner
  | function name operands asName =>
    exact .ok (walk.unknowns_seen scope fun respell => Sql.allOfList_respell respell operands)
  | hidden operands => exact .ok (walk.unknowns_seen scope fun respell => Sql.allOfList_respell respell operands)
  | pivoted inner operands =>
    exact .ok (walk.unknowns_seen scope fun respell =>
      Sql.append_eq_map (inner.all_respell respell) (Sql.allOfList_respell respell operands))
termination_by structural relation

end

namespace Walk

theorem assignments_sees (walk : Walk) (table : Option QualifiedName) (scope : Scope) (given : List Assignment) :
    Sees (walk.assignments table scope given)
      (fun respell => walk.assignments table scope (Sql.mapUpAssignments (respelling respell) given))
      (Sql.allOfAssignments given) := by
  refine SeesEach.all ?_
  induction given with
  | nil => exact .nil _
  | cons assignment rest ih =>
    obtain ⟨target, value⟩ := assignment
    exact .cons (walk.expr_sees scope _ (fun _ => rfl) value) ih

theorem targetRow_sees (walk : Walk) (table : QualifiedName) (columns : List String) (row : List Expr) :
    Sees (walk.targetRow table columns row)
      (fun respell => walk.targetRow table columns (Sql.mapUpList (respelling respell) row)) (Sql.allOfList row) := by
  refine (walk.exprs_sees [] row fun respell => ?_).all
  refine List.ext_getElem (by simp [Sql.length_mapUpList]) fun i _ _ => ?_
  rw [List.getElem_mapIdx, List.getElem_mapIdx]

/-- The rows of an insert, each walked under its own number. -/
theorem targetRows_sees (walk : Nat → Walk) (table : QualifiedName) (columns : List String) (rows : List (List Expr)) :
    Sees (Finding.all (rows.mapIdx fun i row => (walk i).targetRow table columns row))
      (fun respell => Finding.all ((Sql.mapUpRows (respelling respell) rows).mapIdx fun i row =>
        (walk i).targetRow table columns row)) (Sql.allOfRows rows) := by
  refine SeesEach.all ?_
  induction rows generalizing walk with
  | nil => exact .nil _
  | cons row rest ih =>
    simp only [Sql.mapUpRows, List.mapIdx_cons]
    exact .cons ((walk 0).targetRow_sees table columns row) (ih _)

theorem insert_sees (walk : Walk) (given : Sql.Insert) :
    Sees (walk.insert given) (fun respell => walk.insert (given.mapUp (respelling respell))) given.all := by
  obtain ⟨table, columns, source, partitions, updates, updateWhere, returning⟩ := given
  have hclauses (scope : Scope) (inSource : List Found) (inSources : (String → String) → List Found)
      (hsource : Seen inSource inSources (Sql.allOfSource source)) :
      Sees (do
        return inSource ++ (← walk.assignments (some table.qualified) scope updates) ++
          (← walk.exprOption scope .unknown updateWhere) ++ (← walk.items scope returning))
        (fun respell => do
          return inSources respell ++
            (← walk.assignments (some table.qualified) scope (Sql.mapUpAssignments (respelling respell) updates)) ++
            (← walk.exprOption scope .unknown (Sql.mapUpOption (respelling respell) updateWhere)) ++
            (← walk.items scope (Sql.mapUpItems (respelling respell) returning)))
        (Sql.Insert.all ⟨table, columns, source, partitions, updates, updateWhere, returning⟩) :=
    (walk.assignments_sees _ scope updates).bind fun _ _ hupdates =>
      (walk.exprOption_sees scope .unknown updateWhere).bind fun _ _ hwhere =>
      (walk.items_sees scope returning).bind fun _ _ hreturning =>
        .ok ((((hsource.appendRight _).append hupdates).append hwhere).append hreturning)
  refine (Respells.same fun _ => rfl).bind ?_
  rintro var _ rfl
  cases source with
  | none => exact hclauses _ [] _ (.nil _)
  | some source =>
    obtain ⟨recursive, ctes, body, orderBy, limit, offset, fetch⟩ := source
    cases body with
    | values rows =>
      refine (targetRows_sees _ _ _ rows).bind fun _ _ hrows => hclauses _ _ _ ?_
      exact ((((hrows.appendLeft _).appendRight _).appendRight _).appendRight _).appendRight _
    | _ => exact (walk.query_sees [] _).bind fun _ _ hsource => hclauses _ _ _ hsource

theorem updated?_respell (relation : Relation) (respell : String → String) :
    updated? (relation.mapUp (respelling respell)) = updated? relation := by
  cases relation <;> rfl

theorem update_sees (walk : Walk) (given : Sql.Update) :
    Sees (walk.update given) (fun respell => walk.update (given.mapUp (respelling respell))) given.all := by
  obtain ⟨table, assignments, tables, selection, returning⟩ := given
  have htables (scope : Scope) : Sees (walk.fromItems [] scope tables.toList)
      (fun respell => walk.fromItems [] scope (Sql.mapUpTable (respelling respell) tables).toList)
      (Sql.allOfTable tables) := by
    cases tables with
    | none => exact .ok (.nil _)
    | some item =>
      have hitem := walk.fromItems_sees [] scope [item]
      rwa [Sql.allOfTables, Sql.allOfTables, List.append_nil] at hitem
  have hframe (respell : String → String) : walk.view.frame [] {} (table.mapUp (respelling respell) ::
      (Sql.mapUpTable (respelling respell) tables).toList) = walk.view.frame [] {} (table :: tables.toList) := by
    cases tables with
    | none => exact View.frame_respell respell walk.view [] {} [table]
    | some item => exact View.frame_respell respell walk.view [] {} [table, item]
  have hassignments (scope : Scope) : Sees (walk.assignments (updated? table.relation) scope assignments)
      (fun respell => walk.assignments (updated? (table.mapUp (respelling respell)).relation) scope
        (Sql.mapUpAssignments (respelling respell) assignments)) (Sql.allOfAssignments assignments) := by
    obtain ⟨relation, joins⟩ := table
    simp only [Sql.FromItem.mapUp, updated?_respell]
    exact walk.assignments_sees _ scope assignments
  refine (Respells.same hframe).bind ?_
  rintro frame _ rfl
  exact (walk.fromItem_sees [] _ table).bind fun _ _ htable => (hassignments _).bind fun _ _ hassigned =>
    (htables _).bind fun _ _ hothers => (walk.exprOption_sees _ .unknown selection).bind fun _ _ hselection =>
    (walk.items_sees _ returning).bind fun _ _ hreturning =>
      .ok ((((htable.append hassigned).append hothers).append hselection).append hreturning)

theorem delete_sees (walk : Walk) (given : Sql.Delete) :
    Sees (walk.delete given)
      (fun respell => walk.delete {
        tables := Sql.mapUpTables (respelling respell) given.tables
        others := Sql.mapUpTables (respelling respell) given.others
        selection := Sql.mapUpOption (respelling respell) given.selection
        returning := Sql.mapUpItems (respelling respell) given.returning
        orderBy := Sql.mapUpList (respelling respell) given.orderBy
        limit := Sql.mapUpOption (respelling respell) given.limit }) given.all := by
  have htables (respell : String → String) : Sql.mapUpTables (respelling respell) given.tables ++
      Sql.mapUpTables (respelling respell) given.others =
      Sql.mapUpTables (respelling respell) (given.tables ++ given.others) := by
    induction given.tables with
    | nil => rfl
    | cons item rest ih => exact congrArg (_ :: ·) ih
  have hall : Sql.allOfTables (given.tables ++ given.others) =
      Sql.allOfTables given.tables ++ Sql.allOfTables given.others := by
    induction given.tables with
    | nil => rfl
    | cons item rest ih => rw [List.cons_append, Sql.allOfTables, ih, Sql.allOfTables, List.append_assoc]
  simp only [Walk.delete, htables, Sql.Delete.all, ← hall]
  refine (Respells.same fun respell => View.frame_respell respell walk.view [] {} _).bind ?_
  rintro frame _ rfl
  exact (walk.fromItems_sees [] _ _).bind fun _ _ htables =>
    (walk.exprOption_sees _ .unknown given.selection).bind fun _ _ hselection =>
    (walk.items_sees _ given.returning).bind fun _ _ hreturning =>
    (walk.exprs_sees _ given.orderBy (map_const_respell .unknown given.orderBy)).all.bind fun _ _ horder =>
    (walk.exprOption_sees _ .limit given.limit).bind fun _ _ hlimit =>
      .ok ((((htables.append hselection).append hreturning).append horder).append hlimit)

theorem statement_sees (walk : Walk) (statement : Statement) :
    Sees (walk.statement statement) (fun respell => walk.statement (statement.respell respell)) statement.all := by
  cases statement with
  | query q => exact walk.query_sees [] q
  | insert i => exact walk.insert_sees i
  | update u => exact walk.update_sees u
  | delete d => exact walk.delete_sees d
  | _ => exact .ok (.nil _)

/-- The walk of a statement sights placeholders one by one: it records their numbers, however they are spelled. -/
def Sights (walk : Walk) (statement : Statement) (sightings : List Sighting) : Prop :=
  ∀ respell, walk.statement (statement.respell respell) = .ok (sightings.map (·.found respell))

/-- There is only one way to tell what was sighted. -/
theorem Sights.unique {walk : Walk} {statement : Statement} {sightings others : List Sighting}
    (hsightings : walk.Sights statement sightings) (hothers : walk.Sights statement others) : others = sightings := by
  have hsame (respell : String → String) : others.map (·.found respell) = sightings.map (·.found respell) :=
    Except.ok.inj ((hothers respell).symm.trans (hsightings respell))
  have hlength : others.length = sightings.length := by simpa using congrArg List.length (hsame id)
  refine List.ext_getElem hlength fun i hi hi' => Sighting.eq_of_found fun respell => ?_
  have hentry := congrArg (·[i]?) (hsame respell)
  simpa [hi, hi'] using hentry

/-- What the walk of a statement records are placeholders of the statement, as a full walk over its expressions has
    them, and no placeholder is recorded more often than it stands there. So if there are as many records as
    placeholders, each placeholder is recorded once. -/
theorem statement_recordsOnce (walk : Walk) (statement : Statement) {found : List Found}
    (hfound : walk.statement statement = .ok found) :
    ∃ sightings : List Sighting, found = sightings.map (·.found id) ∧ walk.Sights statement sightings ∧
      (∀ others, walk.Sights statement others → others = sightings) ∧
      (sightings.map Sighting.text).Subperm statement.placeholders ∧
      (found.length = statement.placeholders.length →
        (sightings.map Sighting.text).Perm statement.placeholders) := by
  obtain ⟨founds, hfounds, sightings, rfl, hsightings, hwithin⟩ := walk.statement_sees statement found hfound
  have hsights : walk.Sights statement sightings := fun respell =>
    (hfounds respell).trans (congrArg Except.ok (hsightings respell))
  refine ⟨sightings, rfl, hsights, fun _ => hsights.unique, hwithin, fun hlength => ?_⟩
  have hcount : statement.placeholders.length = (sightings.map Sighting.text).length := by
    rw [← hlength, List.length_map, List.length_map]
  exact hwithin.perm_of_length_le (Nat.le_of_eq hcount)

/-- The query `SELECT CASE $1 WHEN $2 THEN :a WHEN $1 THEN ? END FROM users WHERE (id, name) = ($2, $3) LIMIT ?`. -/
def pagedCase : Statement :=
  .query {
    recursive := false
    ctes := []
    body := .select {
      head := []
      items := [.expr (.case (some (.literal (.placeholder "$1")))
        [.literal (.placeholder "$2"), .literal (.placeholder "$1")]
        [.literal (.placeholder ":a"), .literal (.placeholder "?")] none)]
      tables := [{ relation := .table [{ value := "users" }] none [], joins := [] }]
      views := []
      selection := some (.binary (.tuple [.ident { value := "id" }, .ident { value := "name" }]) .comparison
        (.tuple [.literal (.placeholder "$2"), .literal (.placeholder "$3")]))
      groupBy := []
      sorting := []
      having := none
      windows := []
      qualify := none }
    orderBy := []
    limit := some (.literal (.placeholder "?"))
    offset := none
    fetch := none }

/-- Each placeholder of the statement is recorded once, though not in the order of the full walk. -/
theorem statement_recordsOnce_pagedCase :
    let walk : Walk := { view := { catalog := usersOnly, dialect := .postgreSQL }, slices := false }
    pagedCase.placeholders = ["$1", "$2", "$1", ":a", "?", "$2", "$3", "?"] ∧
    ∃ found, walk.statement pagedCase = .ok found ∧
      found.map Found.number = [some 1, some 2, none, some 1, none, some 2, some 3, none] ∧
      ∃ sightings : List Sighting, found = sightings.map (·.found id) ∧ walk.Sights pagedCase sightings ∧
        (sightings.map Sighting.text).Perm pagedCase.placeholders := by
  intro walk
  have hplaceholders : pagedCase.placeholders = ["$1", "$2", "$1", ":a", "?", "$2", "$3", "?"] := rfl
  have hnumbers : (walk.statement pagedCase).toOption.map (·.map Found.number) =
      some [some 1, some 2, none, some 1, none, some 2, some 3, none] := by decide +kernel
  cases hfound : walk.statement pagedCase with
  | error error =>
    rw [hfound] at hnumbers
    cases hnumbers
  | ok found =>
    rw [hfound] at hnumbers
    have hrecorded : found.map Found.number = [some 1, some 2, none, some 1, none, some 2, some 3, none] :=
      Option.some.inj hnumbers
    obtain ⟨sightings, hsame, hsights, -, -, hperm⟩ := statement_recordsOnce walk pagedCase hfound
    refine ⟨hplaceholders, found, rfl, hrecorded, sightings, hsame, hsights, hperm ?_⟩
    rw [hplaceholders, ← List.length_map, hrecorded]
    rfl

end Walk

end AnnotatedSql
