import RouteAtlas.Endpoint.Grouping
import RouteAtlas.Proofs.Text.Words

/-!
# What groups hold

Both ways of grouping gather items by a key: every item goes into the group of its key, and a
new key opens a group at the end.  No key has two groups, and the groups have the keys of the
items.  Whatever is put side by side when items are merged can be read off the items: under
each key, a group carries what the items of that key carried, in their order.
-/

namespace RouteAtlas.Endpoint

section Gathering

variable {Item Key Part : Type} [DecidableEq Key]

/-- Groups with more items gathered into them, each into the group of its key. -/
def gatherInto (key : Item → Key) (merge : Item → Item → Item) (groups items : List Item) :
    List Item :=
  items.foldl
    (fun groups new => mergeInto (fun left right => key left = key right) merge new groups)
    groups

variable {key : Item → Key} {merge : Item → Item → Item}

theorem gatherInto_cons (groups : List Item) (item : Item) (items : List Item) :
    gatherInto key merge groups (item :: items) =
      gatherInto key merge
        (mergeInto (fun left right => key left = key right) merge item groups) items := rfl

/-- Items may be gathered in two batches. -/
theorem gatherInto_append (groups left right : List Item) :
    gatherInto key merge groups (left ++ right) =
      gatherInto key merge (gatherInto key merge groups left) right := by
  simp only [gatherInto, List.foldl_append]

variable (hkey : ∀ group new, key (merge group new) = key group)

include hkey

/-- An item brings its key to the end, unless a group has it already. -/
theorem map_key_mergeInto (new : Item) (groups : List Item) :
    (mergeInto (fun left right => key left = key right) merge new groups).map key =
      if key new ∈ groups.map key then groups.map key else groups.map key ++ [key new] := by
  induction groups with
  | nil => simp [mergeInto]
  | cons group groups ih =>
      by_cases hsame : key group = key new
      · simp [mergeInto, hsame, hkey]
      · have hcons : key new ∈ (group :: groups).map key ↔ key new ∈ groups.map key := by
          simp [Ne.symm hsame]
        simp only [mergeInto, hsame, decide_false, Bool.false_eq_true, if_false, hcons]
        rw [List.map_cons, ih, List.map_cons]
        by_cases hmem : key new ∈ groups.map key
        · rw [if_pos hmem, if_pos hmem]
        · rw [if_neg hmem, if_neg hmem, List.cons_append]

theorem nodup_map_key_mergeInto (new : Item) {groups : List Item}
    (hnodup : (groups.map key).Nodup) :
    ((mergeInto (fun left right => key left = key right) merge new groups).map key).Nodup := by
  rw [map_key_mergeInto hkey]
  by_cases hmem : key new ∈ groups.map key
  · rwa [if_pos hmem]
  · rw [if_neg hmem]
    exact List.nodup_append.mpr ⟨hnodup, by simp, by
      intro left hleft right hright heq
      rw [List.mem_singleton.mp hright] at heq
      exact hmem (heq ▸ hleft)⟩

theorem mem_map_key_mergeInto (new : Item) (groups : List Item) (k : Key) :
    k ∈ (mergeInto (fun left right => key left = key right) merge new groups).map key ↔
      k ∈ groups.map key ∨ k = key new := by
  rw [map_key_mergeInto hkey]
  by_cases hmem : key new ∈ groups.map key
  · rw [if_pos hmem]
    constructor
    · exact Or.inl
    · rintro (hold | rfl)
      · exact hold
      · exact hmem
  · rw [if_neg hmem, List.mem_append, List.mem_singleton]

/-- A merge adds what the new item carries to the group of its key and to no other. -/
theorem flatMap_filter_mergeInto {carry : Item → List Part}
    (hcarry : ∀ group new, carry (merge group new) = carry group ++ carry new)
    (new : Item) {groups : List Item} (hnodup : (groups.map key).Nodup) (k : Key) :
    ((mergeInto (fun left right => key left = key right) merge new groups).filter
        fun group => key group = k).flatMap carry =
      (groups.filter fun group => key group = k).flatMap carry ++
        if key new = k then carry new else [] := by
  induction groups with
  | nil =>
      by_cases hk : key new = k
      · simp [mergeInto, hk]
      · simp [mergeInto, hk]
  | cons group groups ih =>
      rw [List.map_cons, List.nodup_cons] at hnodup
      obtain ⟨hfresh, hrest⟩ := hnodup
      by_cases hsame : key group = key new
      · simp only [mergeInto, hsame, decide_true, if_true]
        by_cases hk : key new = k
        · have halone : (groups.filter fun group => key group = k) = [] := by
            rw [List.filter_eq_nil_iff]
            intro other hother heq
            have hkother : key other = key group := by
              rw [of_decide_eq_true heq, hsame, hk]
            exact hfresh (hkother ▸ List.mem_map_of_mem hother)
          simp [hkey, hsame, hk, halone, hcarry]
        · simp [hkey, hsame, hk]
      · simp only [mergeInto, hsame, decide_false, Bool.false_eq_true, if_false]
        by_cases hk : key group = k
        · simp [hk, ih hrest]
        · simp [hk, ih hrest]

/-- No key comes to have two groups. -/
theorem nodup_map_key_gatherInto (groups items : List Item)
    (hnodup : (groups.map key).Nodup) :
    ((gatherInto key merge groups items).map key).Nodup := by
  induction items generalizing groups with
  | nil => exact hnodup
  | cons item items ih => exact ih _ (nodup_map_key_mergeInto hkey item hnodup)

theorem mem_map_key_gatherInto (groups items : List Item) (k : Key) :
    k ∈ (gatherInto key merge groups items).map key ↔
      k ∈ groups.map key ∨ k ∈ items.map key := by
  induction items generalizing groups with
  | nil => simp [gatherInto]
  | cons item items ih =>
      rw [gatherInto_cons, ih, mem_map_key_mergeInto hkey, List.map_cons, List.mem_cons,
        or_assoc]

/-- Under each key the groups carry what they carried and what the items bring, in order. -/
theorem flatMap_filter_gatherInto {carry : Item → List Part}
    (hcarry : ∀ group new, carry (merge group new) = carry group ++ carry new)
    (groups items : List Item) (hnodup : (groups.map key).Nodup) (k : Key) :
    ((gatherInto key merge groups items).filter fun group => key group = k).flatMap carry =
      (groups.filter fun group => key group = k).flatMap carry ++
        (items.filter fun item => key item = k).flatMap carry := by
  induction items generalizing groups with
  | nil => simp [gatherInto]
  | cons item items ih =>
      rw [gatherInto_cons, ih _ (nodup_map_key_mergeInto hkey item hnodup),
        flatMap_filter_mergeInto hkey hcarry item hnodup, List.append_assoc]
      by_cases hk : key item = k
      · simp [hk]
      · simp [hk]

omit hkey in
/-- What merging keeps, and what holds of the groups and the new item, holds of all groups
afterwards. -/
theorem forall_mem_mergeInto {holds : Item → Prop}
    (hmerge : ∀ group new, holds group → holds (merge group new)) {new : Item} (hnew : holds new)
    {groups : List Item} (hgroups : ∀ group ∈ groups, holds group) :
    ∀ group ∈ mergeInto (fun left right => key left = key right) merge new groups,
      holds group := by
  induction groups with
  | nil => simpa [mergeInto] using hnew
  | cons first groups ih =>
      obtain ⟨hfirst, hrest⟩ := List.forall_mem_cons.mp hgroups
      rw [mergeInto]
      by_cases hsame : key first = key new
      · rw [if_pos (decide_eq_true hsame)]
        exact List.forall_mem_cons.mpr ⟨hmerge first new hfirst, hrest⟩
      · rw [if_neg (by simpa using hsame)]
        exact List.forall_mem_cons.mpr ⟨hfirst, ih hrest⟩

omit hkey in
/-- What holds of the items and is kept by merging holds of the groups. -/
theorem forall_mem_gatherInto {holds : Item → Prop}
    (hmerge : ∀ group new, holds group → holds (merge group new)) {groups items : List Item}
    (hgroups : ∀ group ∈ groups, holds group) (hitems : ∀ item ∈ items, holds item) :
    ∀ group ∈ gatherInto key merge groups items, holds group := by
  induction items generalizing groups with
  | nil => exact hgroups
  | cons item items ih =>
      obtain ⟨hitem, hrest⟩ := List.forall_mem_cons.mp hitems
      exact ih (forall_mem_mergeInto hmerge hitem hgroups) hrest

/-- Groups of some keys may be left out before an item is merged or after. -/
theorem filter_mergeInto (keep : Key → Bool) (new : Item) (groups : List Item) :
    (mergeInto (fun left right => key left = key right) merge new groups).filter
        (fun group => keep (key group)) =
      if keep (key new) then
        mergeInto (fun left right => key left = key right) merge new
          (groups.filter fun group => keep (key group))
      else groups.filter fun group => keep (key group) := by
  induction groups with
  | nil =>
      by_cases hkeep : keep (key new) = true
      · simp [mergeInto, hkeep]
      · simp [mergeInto, hkeep]
  | cons group groups ih =>
      by_cases hsame : key group = key new
      · by_cases hkeep : keep (key new) = true
        · simp [mergeInto, hsame, hkey, hkeep]
        · simp [mergeInto, hsame, hkey, hkeep]
      · by_cases hgroup : keep (key group) = true
        · by_cases hkeep : keep (key new) = true
          · simpa [mergeInto, hsame, hgroup, hkeep] using ih
          · simpa [mergeInto, hsame, hgroup, hkeep] using ih
        · simpa [mergeInto, hsame, hgroup] using ih

/-- The groups of some keys are made of the items of these keys alone. -/
theorem filter_gatherInto (keep : Key → Bool) (groups items : List Item) :
    (gatherInto key merge groups items).filter (fun group => keep (key group)) =
      gatherInto key merge (groups.filter fun group => keep (key group))
        (items.filter fun item => keep (key item)) := by
  induction items generalizing groups with
  | nil => rfl
  | cons item items ih =>
      rw [gatherInto_cons, ih, filter_mergeInto hkey]
      by_cases hkeep : keep (key item) = true
      · have hitems : (item :: items).filter (fun item => keep (key item)) =
            item :: items.filter fun item => keep (key item) := List.filter_cons_of_pos hkeep
        rw [if_pos hkeep, hitems]
        rfl
      · have hitems : (item :: items).filter (fun item => keep (key item)) =
            items.filter fun item => keep (key item) := List.filter_cons_of_neg hkeep
        rw [if_neg hkeep, hitems]

omit hkey in
/-- Where keys are distinct, each has one group. -/
theorem filter_key_eq_singleton {groups : List Item} (hnodup : (groups.map key).Nodup)
    {group : Item} (hgroup : group ∈ groups) :
    (groups.filter fun other => key other = key group) = [group] := by
  induction groups with
  | nil => simp at hgroup
  | cons first groups ih =>
      rw [List.map_cons, List.nodup_cons] at hnodup
      obtain ⟨hfresh, hrest⟩ := hnodup
      obtain rfl | hmem := List.mem_cons.mp hgroup
      · have hnone : (groups.filter fun other => key other = key group) = [] := by
          apply List.filter_eq_nil_iff.mpr
          intro other hother heq
          exact hfresh (of_decide_eq_true heq ▸ List.mem_map_of_mem hother)
        simp [hnone]
      · have hne : key first ≠ key group := fun heq =>
          hfresh (heq ▸ List.mem_map_of_mem hmem)
        simp [hne, ih hrest hmem]

/-- A group carries what the items of its key bring, in order. -/
theorem carry_eq_of_mem_gatherInto {carry : Item → List Part}
    (hcarry : ∀ group new, carry (merge group new) = carry group ++ carry new)
    {items : List Item} {group : Item} (hgroup : group ∈ gatherInto key merge [] items) :
    carry group = (items.filter fun item => key item = key group).flatMap carry := by
  have hnodup : ((gatherInto key merge [] items).map key).Nodup :=
    nodup_map_key_gatherInto hkey [] items List.nodup_nil
  calc
    carry group =
        ((gatherInto key merge [] items).filter fun other => key other = key group).flatMap
          carry := by
      rw [filter_key_eq_singleton hnodup hgroup, List.flatMap_singleton]
    _ = (items.filter fun item => key item = key group).flatMap carry := by
      rw [flatMap_filter_gatherInto hkey hcarry [] items List.nodup_nil, List.filter_nil,
        List.flatMap_nil, List.nil_append]

/-- What an item carries is carried on in one piece by the group of its key. -/
theorem carry_infix_of_mem_gatherInto {carry : Item → List Part}
    (hcarry : ∀ group new, carry (merge group new) = carry group ++ carry new)
    {items : List Item} {group : Item} (hgroup : group ∈ gatherInto key merge [] items)
    {item : Item} (hitem : item ∈ items) (hsame : key item = key group) :
    carry item <:+: carry group := by
  rw [carry_eq_of_mem_gatherInto hkey hcarry hgroup, List.flatMap_def]
  apply List.infix_of_mem_flatten
  apply List.mem_map_of_mem
  exact List.mem_filter.mpr ⟨hitem, decide_eq_true hsame⟩

end Gathering

def pair (endpoint : Endpoint) : String × String :=
  (endpoint.path, endpoint.method)

theorem groupByPath_eq_gatherInto (settings : Settings) (raw : List Endpoint) :
    groupByPath settings raw =
      gatherInto path mergeVerbs [] ((visible settings raw).map asGroup) := rfl

theorem groupByVerb_eq_gatherInto (settings : Settings) (raw : List Endpoint) :
    groupByVerb settings raw =
      gatherInto pair mergeHandlers [] ((visible settings raw).flatMap asVerbGroups) := by
  rw [groupByVerb, gatherInto]
  congr 1
  funext groups new
  congr 1
  funext left right
  simp [pair]

theorem path_mergeVerbs (group new : Endpoint) : (mergeVerbs group new).path = group.path := rfl

theorem pair_mergeHandlers (group new : Endpoint) :
    pair (mergeHandlers group new) = pair group := rfl

theorem methods_mergeVerbs (group new : Endpoint) :
    (mergeVerbs group new).methods = group.methods ++ new.methods :=
  Text.words_append_space group.method new.method

theorem handlers_mergeVerbs (group new : Endpoint) :
    (mergeVerbs group new).handlers = group.handlers ++ new.handlers := rfl

theorem handlers_mergeHandlers (group new : Endpoint) :
    (mergeHandlers group new).handlers = group.handlers ++ new.handlers := rfl

theorem mem_asVerbGroups {endpoint group : Endpoint} :
    group ∈ asVerbGroups endpoint ↔
      ∃ verb ∈ endpoint.methods,
        group = .bare verb (normalizePath endpoint.path) endpoint.handlers := by
  simp [asVerbGroups, eq_comm]

theorem filter_flatMap_asVerbGroups (keep : String → Bool) (endpoints : List Endpoint) :
    (endpoints.flatMap asVerbGroups).filter (fun group => keep group.path) =
      (endpoints.filter fun endpoint => keep (normalizePath endpoint.path)).flatMap
        asVerbGroups := by
  induction endpoints with
  | nil => rfl
  | cons endpoint endpoints ih =>
      -- All groups of an endpoint have its path, so they stay or go together.
      have hpath : ∀ group ∈ asVerbGroups endpoint,
          keep group.path = keep (normalizePath endpoint.path) := by
        intro group hgroup
        obtain ⟨verb, -, rfl⟩ := mem_asVerbGroups.mp hgroup
        rfl
      rw [List.flatMap_cons, List.filter_append, ih]
      by_cases hkeep : keep (normalizePath endpoint.path) = true
      · have hall : (asVerbGroups endpoint).filter (fun group => keep group.path) =
            asVerbGroups endpoint := by
          apply List.filter_eq_self.mpr
          intro group hgroup
          rw [hpath group hgroup, hkeep]
        rw [hall]
        simp [hkeep]
      · have hnone : (asVerbGroups endpoint).filter (fun group => keep group.path) = [] := by
          apply List.filter_eq_nil_iff.mpr
          intro group hgroup
          rwa [hpath group hgroup]
        rw [hnone]
        simp [hkeep]

section Hidden

variable {settings : Settings} {left right : List Endpoint}
variable (hvisible : visible settings left = visible settings right)

include hvisible

theorem groupByPath_congr : groupByPath settings left = groupByPath settings right := by
  rw [groupByPath, groupByPath, hvisible]

theorem groupByVerb_congr : groupByVerb settings left = groupByVerb settings right := by
  rw [groupByVerb, groupByVerb, hvisible]

end Hidden

section Views

variable (settings : Settings) (raw : List Endpoint)

/-- No path has two groups. -/
theorem nodup_map_path_groupByPath : ((groupByPath settings raw).map path).Nodup :=
  nodup_map_key_gatherInto path_mergeVerbs [] _ List.nodup_nil

/-- The paths of the groups are those of the visible endpoints, with a slash in front. -/
theorem mem_map_path_groupByPath {fullPath : String} :
    fullPath ∈ (groupByPath settings raw).map path ↔
      ∃ endpoint ∈ visible settings raw, normalizePath endpoint.path = fullPath := by
  rw [groupByPath_eq_gatherInto, mem_map_key_gatherInto path_mergeVerbs]
  simp [asGroup, bare]

theorem exists_visible_of_mem_groupByPath {group : Endpoint}
    (hgroup : group ∈ groupByPath settings raw) :
    ∃ endpoint ∈ visible settings raw, normalizePath endpoint.path = group.path :=
  (mem_map_path_groupByPath settings raw).mp (List.mem_map_of_mem hgroup)

/-- The verbs of a path's group are those of the walked endpoints with that path. -/
theorem flatMap_methods_groupByPath (fullPath : String) :
    ((groupByPath settings raw).filter fun group => group.path = fullPath).flatMap methods =
      ((visible settings raw).filter fun endpoint =>
        normalizePath endpoint.path = fullPath).flatMap methods := by
  rw [groupByPath_eq_gatherInto,
    flatMap_filter_gatherInto path_mergeVerbs methods_mergeVerbs [] _ List.nodup_nil]
  rw [List.filter_nil, List.flatMap_nil, List.nil_append, List.filter_map, List.flatMap_map]
  rfl

theorem nodup_map_pair_groupByVerb : ((groupByVerb settings raw).map pair).Nodup := by
  rw [groupByVerb_eq_gatherInto]
  exact nodup_map_key_gatherInto pair_mergeHandlers [] _ List.nodup_nil

/-- A path and a verb have a group exactly if a visible endpoint declares them. -/
theorem mem_map_pair_groupByVerb {fullPath verb : String} :
    (fullPath, verb) ∈ (groupByVerb settings raw).map pair ↔
      ∃ endpoint ∈ visible settings raw,
        normalizePath endpoint.path = fullPath ∧ verb ∈ endpoint.methods := by
  rw [groupByVerb_eq_gatherInto, mem_map_key_gatherInto pair_mergeHandlers]
  simp only [List.map_nil, List.not_mem_nil, false_or, List.mem_map, List.mem_flatMap,
    mem_asVerbGroups]
  constructor
  · rintro ⟨group, ⟨endpoint, hvisible, word, hword, rfl⟩, heq⟩
    obtain ⟨rfl, rfl⟩ := Prod.mk.inj heq
    exact ⟨endpoint, hvisible, rfl, hword⟩
  · rintro ⟨endpoint, hvisible, rfl, hverb⟩
    exact ⟨_, ⟨endpoint, hvisible, verb, hverb, rfl⟩, rfl⟩

theorem exists_visible_of_mem_groupByVerb {group : Endpoint}
    (hgroup : group ∈ groupByVerb settings raw) :
    ∃ endpoint ∈ visible settings raw,
      normalizePath endpoint.path = group.path ∧ group.method ∈ endpoint.methods := by
  have hpair : (group.path, group.method) ∈ (groupByVerb settings raw).map pair :=
    List.mem_map_of_mem hgroup
  exact (mem_map_pair_groupByVerb settings raw).mp hpair

variable {settings raw} in
/-- A verb of a path's group is one of some visible endpoint with the path. -/
theorem mem_methods_groupByPath {group : Endpoint} (hgroup : group ∈ groupByPath settings raw)
    {verb : String} :
    verb ∈ group.methods ↔ ∃ endpoint ∈ visible settings raw,
      normalizePath endpoint.path = group.path ∧ verb ∈ endpoint.methods := by
  rw [groupByPath_eq_gatherInto] at hgroup
  rw [carry_eq_of_mem_gatherInto path_mergeVerbs methods_mergeVerbs hgroup, List.filter_map,
    List.flatMap_map]
  simp only [List.mem_flatMap, List.mem_filter, Function.comp_apply, decide_eq_true_eq, and_assoc]
  rfl

variable {settings raw} in
/-- An endpoint is taken into the group of its path, its verbs and its handlers in one piece. -/
theorem exists_groupByPath_of_visible {endpoint : Endpoint}
    (hvisible : endpoint ∈ visible settings raw) :
    ∃ group ∈ groupByPath settings raw,
      group.path = normalizePath endpoint.path ∧ endpoint.methods <:+: group.methods ∧
        endpoint.handlers <:+: group.handlers := by
  obtain ⟨group, hgroup, hpath⟩ := List.mem_map.mp
    ((mem_map_path_groupByPath settings raw).mpr ⟨endpoint, hvisible, rfl⟩)
  have hitem : asGroup endpoint ∈ (visible settings raw).map asGroup :=
    List.mem_map_of_mem hvisible
  have hmethods : (asGroup endpoint).methods <:+: group.methods :=
    carry_infix_of_mem_gatherInto path_mergeVerbs methods_mergeVerbs hgroup hitem hpath.symm
  have hhandlers : (asGroup endpoint).handlers <:+: group.handlers :=
    carry_infix_of_mem_gatherInto path_mergeVerbs handlers_mergeVerbs hgroup hitem hpath.symm
  exact ⟨group, hgroup, hpath, hmethods, hhandlers⟩

variable {settings raw} in
/-- An endpoint is taken into the group of its path and each of its verbs, its handlers in one
piece. -/
theorem exists_groupByVerb_of_visible {endpoint : Endpoint}
    (hvisible : endpoint ∈ visible settings raw) {verb : String}
    (hverb : verb ∈ endpoint.methods) :
    ∃ group ∈ groupByVerb settings raw,
      group.path = normalizePath endpoint.path ∧ group.method = verb ∧
        endpoint.handlers <:+: group.handlers := by
  obtain ⟨group, hgroup, hpair⟩ := List.mem_map.mp
    ((mem_map_pair_groupByVerb settings raw).mpr ⟨endpoint, hvisible, rfl, hverb⟩)
  obtain ⟨hpath, hmethod⟩ := Prod.mk.inj hpair
  have hitem : bare verb (normalizePath endpoint.path) endpoint.handlers ∈
      (visible settings raw).flatMap asVerbGroups :=
    List.mem_flatMap.mpr ⟨endpoint, hvisible, mem_asVerbGroups.mpr ⟨verb, hverb, rfl⟩⟩
  have hgathered := hgroup
  rw [groupByVerb_eq_gatherInto] at hgathered
  have hhandlers : (bare verb (normalizePath endpoint.path) endpoint.handlers).handlers <:+:
      group.handlers :=
    carry_infix_of_mem_gatherInto pair_mergeHandlers handlers_mergeHandlers hgathered hitem
      hpair.symm
  exact ⟨group, hgroup, hpath, hmethod, hhandlers⟩

theorem visible_append (more : List Endpoint) :
    visible settings (raw ++ more) = visible settings raw ++ visible settings more := by
  rw [visible, List.filter_append, ← visible, ← visible]

/-- Hiding the documentation and choosing endpoints may change places. -/
theorem visible_filter (keep : Endpoint → Bool) :
    visible settings (raw.filter keep) = (visible settings raw).filter keep := by
  simp only [visible, List.filter_filter, Bool.and_comm]

/-- The groups of some paths are those of the endpoints with these paths. -/
theorem filter_groupByPath (keep : String → Bool) :
    (groupByPath settings raw).filter (fun group => keep group.path) =
      groupByPath settings (raw.filter fun endpoint => keep (normalizePath endpoint.path)) := by
  rw [groupByPath_eq_gatherInto, groupByPath_eq_gatherInto,
    filter_gatherInto path_mergeVerbs, visible_filter, List.filter_map]
  rfl

theorem filter_groupByVerb (keep : String → Bool) :
    (groupByVerb settings raw).filter (fun group => keep group.path) =
      groupByVerb settings (raw.filter fun endpoint => keep (normalizePath endpoint.path)) := by
  rw [groupByVerb_eq_gatherInto, groupByVerb_eq_gatherInto, visible_filter,
    ← filter_flatMap_asVerbGroups]
  exact filter_gatherInto pair_mergeHandlers (fun pair => keep pair.1) [] _

end Views

end RouteAtlas.Endpoint
