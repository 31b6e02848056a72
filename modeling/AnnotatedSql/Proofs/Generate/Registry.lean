import AnnotatedSql.Generate.Helper
import AnnotatedSql.Proofs.Catalog.Keyed
import Mathlib.Data.List.Induction
import Mathlib.Data.List.Sort
import Mathlib.Data.String.Basic

/-!
Registries of helpers that are filled side by side. A registry's history tells which claims it made itself and which
registries it took in, in any order and nesting. What the registry shows in the end depends on the set of these claims
only: `History.registry_eq_ofClaims`.
-/
namespace AnnotatedSql

namespace Generate

namespace HelperRegistry

variable {registry other : HelperRegistry} {space helper : String}

/-- A registry that makes all claims itself. -/
def ofClaims (claims : List (String × String)) : HelperRegistry :=
  claims.foldl (fun registry entry => (registry.claim entry.1 entry.2).2) {}

theorem mem_helpers_addAll {target : String} {helpers : List String} :
    helper ∈ (registry.addAll target helpers).helpers space ↔
      helper ∈ registry.helpers space ∨ space = target ∧ helper ∈ helpers := by
  unfold HelperRegistry.helpers addAll
  rw [Keyed.get?_insert]
  by_cases hspace : space = target
  · subst hspace
    rw [if_pos rfl, Option.getD_some, or_comm, and_iff_right rfl]
    exact List.mem_union_iff
  · simp [hspace]

/-- Each namespace stands once in a registry and has a helper, and each of its helpers stands in it once. -/
def WellFormed (registry : HelperRegistry) : Prop :=
  registry.namespaces.WellKeyed fun _ helpers => helpers ≠ [] ∧ helpers.Nodup

namespace WellFormed

theorem empty : WellFormed {} :=
  .nil

theorem nodup_helpers (hregistry : registry.WellFormed) (space : String) : (registry.helpers space).Nodup := by
  unfold HelperRegistry.helpers
  cases hfound : registry.namespaces.get? space with
  | none => exact .nil
  | some helpers => exact (hregistry.of_get? hfound).2

/-- Adding helpers leaves no namespace empty, if there is one to add at least. -/
theorem addAll (hregistry : registry.WellFormed) (space : String) {helpers : List String} (hhelpers : helpers ≠ []) :
    (registry.addAll space helpers).WellFormed := by
  refine hregistry.insert ⟨?_, List.Nodup.union helpers (hregistry.nodup_helpers space)⟩
  obtain ⟨helper, rest, rfl⟩ := List.exists_cons_of_ne_nil hhelpers
  exact List.ne_nil_of_mem List.mem_insert_self

/-- The helpers of a namespace stand in its one entry. -/
theorem mem_helpers_iff (hregistry : registry.WellFormed) :
    helper ∈ registry.helpers space ↔ ∃ helpers, (space, helpers) ∈ registry.namespaces ∧ helper ∈ helpers := by
  constructor
  · intro hhelper
    unfold HelperRegistry.helpers at hhelper
    cases hfound : registry.namespaces.get? space with
    | none => simp [hfound] at hhelper
    | some helpers =>
      rw [hfound] at hhelper
      exact ⟨helpers, Keyed.mem_of_get? hfound, hhelper⟩
  · rintro ⟨helpers, hentry, hhelper⟩
    unfold HelperRegistry.helpers
    rw [hregistry.get?_of_mem hentry]
    exact hhelper

end WellFormed

/-- What a registry holds: exactly these claims, without a trace of how they came in beyond the order of entries. -/
structure Records (registry : HelperRegistry) (claims : List (String × String)) : Prop where
  wellFormed : registry.WellFormed
  mem_helpers : ∀ space helper, helper ∈ registry.helpers space ↔ (space, helper) ∈ claims

namespace Records

variable {claims others : List (String × String)}

theorem empty : Records {} [] :=
  ⟨.empty, by simp [HelperRegistry.helpers, Keyed.get?]⟩

theorem claim (hregistry : registry.Records claims) (space helper : String) :
    (registry.claim space helper).2.Records (claims ++ [(space, helper)]) := by
  refine ⟨hregistry.wellFormed.addAll space (List.cons_ne_nil helper []), fun other wanted => ?_⟩
  rw [HelperRegistry.claim, add, mem_helpers_addAll, hregistry.mem_helpers]
  simp

theorem ofClaims (claims : List (String × String)) : (ofClaims claims).Records claims := by
  induction claims using List.reverseRecOn with
  | nil => exact .empty
  | append_singleton claims entry ih =>
    rw [HelperRegistry.ofClaims, List.foldl_append]
    exact ih.claim entry.1 entry.2

/-- Entries of another registry come in one after the other. -/
theorem foldl_addAll (hregistry : registry.Records claims) {entries : Keyed (List String)}
    (hentries : ∀ entry ∈ entries, entry.2 ≠ []) :
    Records (entries.foldl (fun merged entry => merged.addAll entry.1 entry.2) registry)
      (claims ++ entries.flatMap fun entry => entry.2.map (entry.1, ·)) := by
  induction entries generalizing registry claims with
  | nil => simpa using hregistry
  | cons entry entries ih =>
    have hfirst : (registry.addAll entry.1 entry.2).Records (claims ++ entry.2.map (entry.1, ·)) := by
      refine ⟨hregistry.wellFormed.addAll entry.1 (hentries entry List.mem_cons_self), fun space helper => ?_⟩
      rw [mem_helpers_addAll, hregistry.mem_helpers]
      simp [eq_comm, and_comm]
    have hrest := ih hfirst fun other hother => hentries other (List.mem_cons_of_mem entry hother)
    rwa [List.append_assoc] at hrest

theorem congr (hregistry : registry.Records claims) (hclaims : ∀ entry, entry ∈ others ↔ entry ∈ claims) :
    registry.Records others :=
  ⟨hregistry.wellFormed, fun space helper => (hregistry.mem_helpers space helper).trans (hclaims _).symm⟩

theorem merge (hregistry : registry.Records claims) (hother : other.Records others) :
    (registry.merge other).Records (claims ++ others) := by
  refine (hregistry.foldl_addAll fun entry hentry => (hother.wellFormed.fits entry hentry).1).congr fun entry => ?_
  rw [List.mem_append, List.mem_append, ← hother.mem_helpers entry.1 entry.2, hother.wellFormed.mem_helpers_iff]
  simp [Prod.ext_iff, eq_comm]

/-- A registry shows each claim in the entry of its namespace. -/
theorem mem_sorted (hregistry : registry.Records claims) :
    (∃ helpers, (space, helpers) ∈ registry.sorted ∧ helper ∈ helpers) ↔ (space, helper) ∈ claims := by
  rw [← hregistry.mem_helpers, hregistry.wellFormed.mem_helpers_iff]
  simp [sorted]

end Records

/-- Sorting by texts that are all different does not show the order in which the values came. -/
theorem mergeSort_eq_of_perm {α : Type} (key : α → String) {values others : List α} (hkeys : (values.map key).Nodup)
    (hperm : values.Perm others) :
    values.mergeSort (fun a b => !(key b < key a : Bool)) = others.mergeSort fun a b => !(key b < key a : Bool) := by
  have hsorted (list : List α) :
      (list.mergeSort fun a b => !(key b < key a : Bool)).Pairwise fun a b => key a ≤ key b := by
    have hmerge := @List.pairwise_mergeSort _ (fun a b : α => !(key b < key a : Bool)) ?_ ?_ list
    · simpa only [Bool.not_eq_true', decide_eq_false_iff_not, not_lt] using hmerge
    · simp only [Bool.not_eq_true', decide_eq_false_iff_not, not_lt]
      exact fun _ _ _ => le_trans
    · simp only [Bool.or_eq_true, Bool.not_eq_true', decide_eq_false_iff_not, not_lt]
      exact fun _ _ => le_total _ _
  refine @List.Perm.eq_of_pairwise _ (fun a b => key a ≤ key b) _ _ ?_ (hsorted values) (hsorted others) ?_
  · intro a b ha hb hab hba
    have hmem := hperm.symm.mem_iff.1 ((List.mergeSort_perm others _).mem_iff.1 hb)
    exact List.inj_on_of_nodup_map hkeys ((List.mergeSort_perm values _).mem_iff.1 ha) hmem (le_antisymm hab hba)
  · exact (List.mergeSort_perm values _).trans (hperm.trans (List.mergeSort_perm others _).symm)

/-- The entry of a namespace, its helpers sorted, is the same in registries that hold the same claims. -/
theorem Records.mem_map_of_mem {claims : List (String × String)} (hregistry : registry.Records claims)
    (hother : other.Records claims) {helpers : List String} (hentry : (space, helpers) ∈ registry.namespaces) :
    ∃ others, (space, others) ∈ other.namespaces ∧
      helpers.mergeSort (fun a b => !(b < a : Bool)) = others.mergeSort fun a b => !(b < a : Bool) := by
  obtain ⟨hsome, hnodup⟩ := hregistry.wellFormed.fits _ hentry
  have hhelpers : registry.helpers space = helpers := by
    rw [HelperRegistry.helpers, hregistry.wellFormed.get?_of_mem hentry]
    rfl
  have hsame (helper : String) : helper ∈ helpers ↔ helper ∈ other.helpers space := by
    rw [← hhelpers, hregistry.mem_helpers, hother.mem_helpers]
  obtain ⟨helper, hhelper⟩ := List.exists_mem_of_ne_nil helpers hsome
  obtain ⟨others, hfound, -⟩ := hother.wellFormed.mem_helpers_iff.1 ((hsame helper).1 hhelper)
  have hothers : other.helpers space = others := by
    rw [HelperRegistry.helpers, hother.wellFormed.get?_of_mem hfound]
    rfl
  rw [hothers] at hsame
  have hperm : helpers.Perm others := (List.perm_ext_iff_of_nodup hnodup (hother.wellFormed.fits _ hfound).2).2 hsame
  exact ⟨others, hfound, mergeSort_eq_of_perm id (by simpa using hnodup) hperm⟩

/-- Registries that hold the same claims show the same. -/
theorem Records.sorted_eq {claims : List (String × String)} (hregistry : registry.Records claims)
    (hother : other.Records claims) : registry.sorted = other.sorted := by
  have hkeys {registry : HelperRegistry} (hregistry : registry.Records claims) :
      ((registry.namespaces.map fun entry =>
        (entry.1, entry.2.mergeSort fun a b => !(b < a : Bool))).map Prod.fst).Nodup := by
    have hnodup := hregistry.wellFormed.nodup
    rwa [List.map_map]
  refine mergeSort_eq_of_perm Prod.fst (hkeys hregistry) ?_
  apply (List.perm_ext_iff_of_nodup (hkeys hregistry).of_map (hkeys hother).of_map).2
  intro entry
  rw [List.mem_map, List.mem_map]
  constructor
  · rintro ⟨⟨space, helpers⟩, hentry, rfl⟩
    obtain ⟨others, hfound, hsort⟩ := hregistry.mem_map_of_mem hother hentry
    exact ⟨(space, others), hfound, congrArg (space, ·) hsort.symm⟩
  · rintro ⟨⟨space, helpers⟩, hentry, rfl⟩
    obtain ⟨others, hfound, hsort⟩ := hother.mem_map_of_mem hregistry hentry
    exact ⟨(space, others), hfound, congrArg (space, ·) hsort.symm⟩

end HelperRegistry

open HelperRegistry

/-- How a registry came about: it was new, it made a claim, or it took in another registry. -/
inductive History where
  | fresh
  | claim (before : History) (space helper : String)
  | merge (into other : History)

namespace History

/-- The registry at the end. -/
def registry : History → HelperRegistry
  | fresh => {}
  | claim before space helper => (before.registry.claim space helper).2
  | merge into other => into.registry.merge other.registry

/-- The claims that were made up to the end, by the registry or by one that it took in. -/
def claims : History → List (String × String)
  | fresh => []
  | claim before space helper => before.claims ++ [(space, helper)]
  | merge into other => into.claims ++ other.claims

theorem records (history : History) : history.registry.Records history.claims := by
  induction history with
  | fresh => exact .empty
  | claim before space helper ih => exact ih.claim space helper
  | merge into other hinto hother => exact hinto.merge hother

/-- Claims may be distributed over registries in any way, which are merged in any order and nesting. The registry at
    the end shows and contains what one registry does that makes the same claims by itself, in any order. A claim
    tells that it is new just where the claim was not made before in the history. -/
theorem registry_eq_ofClaims (history : History) (claims : List (String × String))
    (hclaims : ∀ entry, entry ∈ claims ↔ entry ∈ history.claims) :
    history.registry.sorted = (ofClaims claims).sorted ∧
      (∀ space helper, history.registry.contains space helper = (ofClaims claims).contains space helper) ∧
      (∀ space helper, (∃ helpers, (space, helpers) ∈ history.registry.sorted ∧ helper ∈ helpers) ↔
        (space, helper) ∈ history.claims) ∧
      ∀ space helper, (history.registry.claim space helper).1 = true ↔ (space, helper) ∉ history.claims := by
  have hrecords := history.records
  have hsingle : (ofClaims claims).Records history.claims := (Records.ofClaims claims).congr fun _ => (hclaims _).symm
  refine ⟨hrecords.sorted_eq hsingle, fun space helper => ?_, fun space helper => hrecords.mem_sorted,
    fun space helper => ?_⟩
  · rw [Bool.eq_iff_iff, HelperRegistry.contains, HelperRegistry.contains, List.contains_iff_mem,
      List.contains_iff_mem, hrecords.mem_helpers, hsingle.mem_helpers]
  · simp [HelperRegistry.claim, HelperRegistry.contains, hrecords.mem_helpers]

/-- Two passes with a claim in common, one of which goes on after the merge. -/
def shared : History :=
  .claim (.merge (.claim (.claim .fresh "db" "expand_slice") "admin" "batch_values")
    (.claim (.claim .fresh "db" "batch_values") "db" "expand_slice")) "db" "retry"

theorem registry_eq_ofClaims_shared :
    shared.registry.sorted = (ofClaims [("db", "retry"), ("db", "batch_values"), ("admin", "batch_values"),
        ("db", "expand_slice"), ("db", "retry")]).sorted ∧
      (shared.registry.claim "db" "batch_values").1 = false ∧ (shared.registry.claim "admin" "retry").1 = true := by
  obtain ⟨hsorted, -, -, hclaim⟩ := registry_eq_ofClaims shared [("db", "retry"), ("db", "batch_values"),
    ("admin", "batch_values"), ("db", "expand_slice"), ("db", "retry")] (by grind [shared, claims])
  refine ⟨hsorted, ?_, (hclaim "admin" "retry").2 (by simp [shared, claims])⟩
  rw [← Bool.not_eq_true, hclaim]
  simp [shared, claims]

end History

end Generate

end AnnotatedSql
