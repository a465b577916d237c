import RouteAtlas.Proofs.Endpoint.Growth
import RouteAtlas.Proofs.Params.Access

/-!
# What the handlers of a group read

A group starts without parameters, and what is inferred for it are the names that its handlers
read.  Its handlers are those of the walked endpoints with its key, one chain behind the other,
so its names are the names that these endpoints read.
-/

namespace RouteAtlas

def Source.Reads.names : Source.Origin → Source.Reads → List String
  | .query, reads => reads.query
  | .body, reads => reads.body

namespace Endpoint

def paramsFrom : Source.Origin → Endpoint → List String
  | .query, endpoint => endpoint.queryParams
  | .body, endpoint => endpoint.bodyParams

/-- The names that the handlers of an endpoint read from one origin. -/
def readNames (settings : Settings) (origin : Source.Origin) (endpoint : Endpoint) :
    List String :=
  (readsOf settings endpoint.handlers).flatMap (Source.Reads.names origin)

variable {settings : Settings} {raw : List Endpoint} {origin : Source.Origin} {group : Endpoint}

/-- Inference adds the names that the handlers read, without repeats, to those at hand. -/
theorem paramsFrom_infer (endpoint : Endpoint) :
    (infer settings endpoint).paramsFrom origin =
      Text.addNames (endpoint.paramsFrom origin) (endpoint.readNames settings origin) := by
  cases origin with
  | query => rfl
  | body => rfl

theorem readNames_append {left right both : Endpoint}
    (hhandlers : both.handlers = left.handlers ++ right.handlers) :
    both.readNames settings origin =
      left.readNames settings origin ++ right.readNames settings origin := by
  rw [readNames, hhandlers, readsOf_append, List.flatMap_append]
  rfl

theorem paramsFrom_bare (method path : String) (handlers : List Handler) :
    (bare method path handlers).paramsFrom origin = [] := by
  cases origin with
  | query => rfl
  | body => rfl

theorem paramsFrom_mergeVerbs (group new : Endpoint) :
    (mergeVerbs group new).paramsFrom origin = group.paramsFrom origin := by
  cases origin with
  | query => rfl
  | body => rfl

theorem paramsFrom_mergeHandlers (group new : Endpoint) :
    (mergeHandlers group new).paramsFrom origin = group.paramsFrom origin := by
  cases origin with
  | query => rfl
  | body => rfl

/-- Gathering brings no parameters. -/
theorem paramsFrom_gatherInto {Key : Type} [DecidableEq Key] {key : Endpoint → Key}
    {merge : Endpoint → Endpoint → Endpoint}
    (hmerge : ∀ group new, (merge group new).paramsFrom origin = group.paramsFrom origin)
    {items : List Endpoint} (hitems : ∀ item ∈ items, item.paramsFrom origin = [])
    (hgroup : group ∈ gatherInto key merge [] items) : group.paramsFrom origin = [] := by
  apply forall_mem_gatherInto _ (by simp) hitems group hgroup
  intro group new hnone
  exact (hmerge group new).trans hnone

/-- Groups have no parameters before they are inferred. -/
theorem paramsFrom_groupByPath (hgroup : group ∈ groupByPath settings raw) :
    group.paramsFrom origin = [] := by
  rw [groupByPath_eq_gatherInto] at hgroup
  apply paramsFrom_gatherInto paramsFrom_mergeVerbs _ hgroup
  intro item hitem
  obtain ⟨endpoint, -, rfl⟩ := List.mem_map.mp hitem
  exact paramsFrom_bare _ _ _

theorem paramsFrom_groupByVerb (hgroup : group ∈ groupByVerb settings raw) :
    group.paramsFrom origin = [] := by
  rw [groupByVerb_eq_gatherInto] at hgroup
  apply paramsFrom_gatherInto paramsFrom_mergeHandlers _ hgroup
  intro item hitem
  obtain ⟨endpoint, -, hverbs⟩ := List.mem_flatMap.mp hitem
  obtain ⟨verb, -, rfl⟩ := mem_asVerbGroups.mp hverbs
  exact paramsFrom_bare _ _ _

/-- The names of a path's group are read by the walked endpoints with that path, in order. -/
theorem paramsFrom_infer_groupByPath (hgroup : group ∈ groupByPath settings raw) :
    (infer settings group).paramsFrom origin =
      Text.distinctNames (((visible settings raw).filter fun endpoint =>
        normalizePath endpoint.path = group.path).flatMap (readNames settings origin)) := by
  have hgathered := hgroup
  rw [groupByPath_eq_gatherInto] at hgathered
  have hcarry (group new : Endpoint) : (mergeVerbs group new).readNames settings origin =
      group.readNames settings origin ++ new.readNames settings origin :=
    readNames_append (handlers_mergeVerbs group new)
  have hnames : group.readNames settings origin =
      ((visible settings raw).filter fun endpoint =>
        normalizePath endpoint.path = group.path).flatMap (readNames settings origin) := by
    rw [carry_eq_of_mem_gatherInto path_mergeVerbs hcarry hgathered,
      List.filter_map, List.flatMap_map]
    rfl
  rw [paramsFrom_infer, paramsFrom_groupByPath hgroup, hnames, Text.distinctNames]

/-- A route has a name exactly if some visible endpoint with its path reads it. -/
theorem mem_paramsFrom_infer_groupByPath (hgroup : group ∈ groupByPath settings raw)
    {name : String} :
    name ∈ (infer settings group).paramsFrom origin ↔
      ∃ endpoint ∈ visible settings raw, normalizePath endpoint.path = group.path ∧
        name ∈ endpoint.readNames settings origin := by
  rw [paramsFrom_infer_groupByPath hgroup, Text.distinctNames, Text.mem_addNames]
  simp [List.mem_flatMap, and_assoc]

/-- The names of the group of a path and a verb are read by the walked endpoints with both. -/
theorem mem_paramsFrom_infer_groupByVerb (hgroup : group ∈ groupByVerb settings raw)
    {name : String} :
    name ∈ (infer settings group).paramsFrom origin ↔
      ∃ endpoint ∈ visible settings raw, normalizePath endpoint.path = group.path ∧
        group.method ∈ endpoint.methods ∧ name ∈ endpoint.readNames settings origin := by
  have hgathered := hgroup
  rw [groupByVerb_eq_gatherInto] at hgathered
  have hcarry (group new : Endpoint) : (mergeHandlers group new).readNames settings origin =
      group.readNames settings origin ++ new.readNames settings origin :=
    readNames_append (handlers_mergeHandlers group new)
  rw [paramsFrom_infer, paramsFrom_groupByVerb hgroup, Text.mem_addNames,
    carry_eq_of_mem_gatherInto pair_mergeHandlers hcarry hgathered]
  constructor
  · rintro (hnil | hname)
    · simp at hnil
    · obtain ⟨item, hitem, hname⟩ := List.mem_flatMap.mp hname
      obtain ⟨hverbs, hpair⟩ := List.mem_filter.mp hitem
      obtain ⟨endpoint, hvisible, hverbs⟩ := List.mem_flatMap.mp hverbs
      obtain ⟨verb, hverb, rfl⟩ := mem_asVerbGroups.mp hverbs
      obtain ⟨hpath, hmethod⟩ := Prod.mk.inj (of_decide_eq_true hpair)
      exact ⟨endpoint, hvisible, hpath, hmethod ▸ hverb, hname⟩
  · rintro ⟨endpoint, hvisible, hpath, hverb, hname⟩
    apply Or.inr
    refine List.mem_flatMap.mpr ⟨bare group.method group.path endpoint.handlers, ?_, hname⟩
    refine List.mem_filter.mpr ⟨?_, decide_eq_true rfl⟩
    refine List.mem_flatMap.mpr ⟨endpoint, hvisible, mem_asVerbGroups.mpr ?_⟩
    exact ⟨group.method, hverb, by rw [hpath]⟩

end Endpoint

end RouteAtlas
