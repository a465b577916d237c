import RouteAtlas.Proofs.Docs.Reserved
import RouteAtlas.Proofs.Endpoint.Growth

/-!
# Grouping is stable

Gathering goes through the items once and changes groups where they stand.  What comes of it can be
told without the order of the changes: there is one group for each key, in the order in which the
keys first appear, and it is made of the items of its key, in their order.  Both ways of grouping
endpoints are of this form, and the verbs that one of them lists for a path are the distinct verbs
that the other puts side by side.
-/

namespace RouteAtlas.Endpoint

section FirstOccurrences

variable {Item Key : Type} [DecidableEq Key]

/-- Induction over the distinct keys of a list: behind the first item, the items of its key are left
out. -/
theorem distinct_induction (key : Item → Key) {motive : List Item → Prop} (nil : motive [])
    (cons : ∀ first rest, motive (rest.filter fun item => key item ≠ key first) →
      motive (first :: rest)) (items : List Item) : motive items := by
  induction hlength : items.length using Nat.strongRecOn generalizing items with
  | ind length ih =>
      cases items with
      | nil => exact nil
      | cons first rest =>
          have hshorter : (rest.filter fun item => key item ≠ key first).length < length := by
            rw [← hlength, List.length_cons]
            exact Nat.lt_succ_of_le (List.length_filter_le _ rest)
          exact cons first rest (ih _ hshorter _ rfl)

variable [DecidableEq Item] [BEq Item] [LawfulBEq Item]

omit [DecidableEq Key] in
/-- The first item stays, and its repeats are taken out of the rest before other repeats are. -/
theorem eraseDups_cons_eq (first : Item) (rest : List Item) :
    (first :: rest).eraseDups = first :: (rest.filter fun item => item ≠ first).eraseDups := by
  have hother : (fun item : Item => !item == first) = fun item => decide (item ≠ first) := by
    funext item
    by_cases hsame : item = first
    · simp [hsame]
    · simp [hsame]
  rw [List.eraseDups_cons, hother]

omit [DecidableEq Key] in
theorem filter_eraseDups (keep : Item → Bool) (items : List Item) :
    items.eraseDups.filter keep = (items.filter keep).eraseDups := by
  induction items using distinct_induction (id : Item → Item) with
  | nil => rfl
  | cons first rest ih =>
      rw [eraseDups_cons_eq]
      by_cases hkeep : keep first = true
      · have hcomm : ((rest.filter fun item => item ≠ first).filter keep) =
            (rest.filter keep).filter fun item => item ≠ first := by
          rw [List.filter_filter, List.filter_filter]
          simp only [Bool.and_comm]
        rw [List.filter_cons_of_pos hkeep, List.filter_cons_of_pos hkeep, eraseDups_cons_eq,
          ← hcomm]
        exact congrArg (List.cons first) ih
      · have hkept : ((rest.filter fun item => item ≠ first).filter keep) = rest.filter keep := by
          rw [List.filter_filter]
          apply List.filter_congr
          intro item _
          by_cases hsame : item = first
          · simp [hsame, hkeep]
          · simp [hsame]
        rw [List.filter_cons_of_neg hkeep, List.filter_cons_of_neg hkeep, ← hkept]
        exact ih

omit [DecidableEq Key] in
/-- What is found first is a first occurrence. -/
theorem find?_eraseDups (wanted : Item → Bool) (items : List Item) :
    items.eraseDups.find? wanted = items.find? wanted := by
  rw [← List.head?_filter, filter_eraseDups, ← List.head?_filter]
  cases items.filter wanted with
  | nil => rfl
  | cons first rest => rw [eraseDups_cons_eq, List.head?_cons, List.head?_cons]

variable [BEq Key] [LawfulBEq Key]

/-- Repeats may be dropped before or after a map that keeps items apart. -/
theorem map_eraseDups {f : Item → Key} {items : List Item}
    (hinj : ∀ left ∈ items, ∀ right ∈ items, f left = f right → left = right) :
    items.eraseDups.map f = (items.map f).eraseDups := by
  induction items using distinct_induction (id : Item → Item) with
  | nil => rfl
  | cons first rest ih =>
      obtain ⟨hfirst, hrest⟩ := List.forall_mem_cons.mp hinj
      have hothers : (rest.map f).filter (fun other => other ≠ f first) =
          (rest.filter fun item => item ≠ first).map f := by
        rw [List.filter_map]
        congr 1
        apply List.filter_congr
        intro item hitem
        have hsame : f item = f first ↔ item = first :=
          ⟨fun heq => (hfirst item (List.mem_cons_of_mem first hitem) heq.symm).symm, congrArg f⟩
        simp [hsame]
      rw [eraseDups_cons_eq, List.map_cons, List.map_cons, eraseDups_cons_eq, hothers]
      apply congrArg (List.cons (f first))
      apply ih
      intro left hleft right hright
      exact hrest left (List.mem_of_mem_filter hleft) right
        (List.mem_cons_of_mem first (List.mem_of_mem_filter hright))

/-- Of the distinct pairs with one first part, the second parts are distinct too. -/
theorem map_snd_filter_eraseDups (pairs : List (Item × Key)) (first : Item) :
    (pairs.eraseDups.filter fun pair => pair.1 = first).map Prod.snd =
      ((pairs.filter fun pair => pair.1 = first).map Prod.snd).eraseDups := by
  rw [filter_eraseDups]
  apply map_eraseDups
  intro left hleft right hright hsecond
  have hleftFirst : left.1 = first := of_decide_eq_true (List.mem_filter.mp hleft).2
  have hrightFirst : right.1 = first := of_decide_eq_true (List.mem_filter.mp hright).2
  exact Prod.ext (hleftFirst.trans hrightFirst.symm) hsecond

end FirstOccurrences

section Gathering

variable {Item Key : Type} [DecidableEq Key] {key : Item → Key} {merge : Item → Item → Item}
variable (hkey : ∀ group new, key (merge group new) = key group)

include hkey

/-- The first group takes the items of its key, the groups behind it take the others. -/
theorem gatherInto_group_cons (group : Item) (groups items : List Item) :
    gatherInto key merge (group :: groups) items =
      (items.filter fun item => key item = key group).foldl merge group ::
        gatherInto key merge groups (items.filter fun item => key item ≠ key group) := by
  induction items generalizing group groups with
  | nil => rfl
  | cons item items ih =>
      rw [gatherInto_cons, mergeInto]
      by_cases hsame : key item = key group
      · simp [hsame, ih, hkey]
      · simp [hsame, Ne.symm hsame, ih, gatherInto_cons]

variable [BEq Key] [LawfulBEq Key]

/-- One group for each key, in order of first appearance, made of the items of its key.  The first
item of a group decides what merging keeps, so only such items need to be of the form that a group
is built in. -/
theorem gatherInto_eq_map_eraseDups {holds : Item → Prop} {build : Key → List Item → Item}
    (hbuild : ∀ first rest, holds first →
      rest.foldl merge first = build (key first) (first :: rest))
    {items : List Item} (hitems : ∀ item ∈ items, holds item) :
    gatherInto key merge [] items =
      (items.map key).eraseDups.map fun k => build k (items.filter fun item => key item = k) := by
  induction items using distinct_induction key with
  | nil => rfl
  | cons first rest ih =>
      obtain ⟨hfirst, hrest⟩ := List.forall_mem_cons.mp hitems
      have hopen : gatherInto key merge [] (first :: rest) =
          gatherInto key merge [first] rest := rfl
      have hothers : (rest.map key).filter (fun k => k ≠ key first) =
          (rest.filter fun item => key item ≠ key first).map key := List.filter_map
      have hmembers : (first :: rest).filter (fun item => key item = key first) =
          first :: rest.filter fun item => key item = key first :=
        List.filter_cons_of_pos (decide_eq_true rfl)
      rw [hopen, gatherInto_group_cons hkey, hbuild _ _ hfirst, List.map_cons, eraseDups_cons_eq,
        hothers, List.map_cons, hmembers,
        ih fun item hitem => hrest item (List.mem_of_mem_filter hitem)]
      apply congrArg (List.cons _)
      apply List.map_congr_left
      intro k hk
      have hne : k ≠ key first := by
        obtain ⟨item, hitem, rfl⟩ := List.mem_map.mp (List.mem_eraseDups.mp hk)
        exact of_decide_eq_true (List.mem_filter.mp hitem).2
      rw [List.filter_filter, List.filter_cons_of_neg (by simpa using Ne.symm hne)]
      apply congrArg (build k)
      apply List.filter_congr
      intro item _
      by_cases hsame : key item = k
      · simp [hsame, hne]
      · simp [hsame]

omit hkey [BEq Key] [LawfulBEq Key] in
/-- Where no key has two groups, the group of a key carries all that is carried under it. -/
theorem elim_find?_eq_flatMap_filter {Part : Type} {groups : List Item}
    (hnodup : (groups.map key).Nodup) (carry : Item → List Part) (k : Key) :
    ((groups.find? fun group => key group = k).elim [] carry) =
      (groups.filter fun group => key group = k).flatMap carry := by
  cases hfind : groups.find? fun group => key group = k with
  | none =>
      have hnone : (groups.filter fun group => key group = k) = [] :=
        List.filter_eq_nil_iff.mpr (List.find?_eq_none.mp hfind)
      rw [hnone]
      rfl
  | some group =>
      have hkeyed := List.find?_some hfind
      obtain rfl : key group = k := of_decide_eq_true hkeyed
      rw [filter_key_eq_singleton hnodup (List.mem_of_find?_eq_some hfind), List.flatMap_singleton]
      rfl

end Gathering

/-- Whether an endpoint has no parameters and no link. -/
def IsBare (endpoint : Endpoint) : Prop :=
  endpoint = bare endpoint.method endpoint.path endpoint.handlers

/-- The members of a path as one endpoint without parameters or link: their verb texts side by side,
a space between two, and their handlers one chain. -/
def pathGroup (fullPath : String) (members : List Endpoint) : Endpoint :=
  bare (" ".intercalate (members.map method)) fullPath (members.flatMap handlers)

/-- The members of a path and a verb as one endpoint without parameters or link. -/
def verbGroup (pair : String × String) (members : List Endpoint) : Endpoint :=
  bare pair.2 pair.1 (members.flatMap handlers)

/-- Merging the members of a path one by one puts their verbs side by side and their handlers into
one chain. -/
theorem foldl_mergeVerbs_of_isBare (first : Endpoint) (rest : List Endpoint)
    (hfirst : IsBare first) :
    rest.foldl mergeVerbs first = pathGroup first.path (first :: rest) := by
  rw [foldl_mergeVerbs, hfirst]
  rfl

theorem foldl_mergeHandlers_of_isBare (first : Endpoint) (rest : List Endpoint)
    (hfirst : IsBare first) :
    rest.foldl mergeHandlers first = verbGroup (pair first) (first :: rest) := by
  rw [foldl_mergeHandlers, hfirst]
  rfl

/-- The verbs of a path are those of its members, in order and with repeats. -/
theorem methods_pathGroup (fullPath : String) (members : List Endpoint) :
    (pathGroup fullPath members).methods = members.flatMap methods := by
  have hwords : (pathGroup fullPath members).methods = (members.map method).flatMap Text.words :=
    Text.words_intercalate (members.map method)
  rw [hwords, List.flatMap_map]
  rfl

section Views

variable (settings : Settings) (raw : List Endpoint)

/-- Each distinct path has one group, over all visible endpoints with that path. -/
theorem groupByPath_eq_map_eraseDups :
    groupByPath settings raw =
      ((visible settings raw).map fun endpoint => normalizePath endpoint.path).eraseDups.map
        fun fullPath => pathGroup fullPath
          ((visible settings raw).filter
            fun endpoint => normalizePath endpoint.path = fullPath) := by
  have hbare : ∀ item ∈ (visible settings raw).map asGroup, IsBare item := by
    intro item hitem
    obtain ⟨endpoint, -, rfl⟩ := List.mem_map.mp hitem
    rfl
  have hmembers (fullPath : String) :
      pathGroup fullPath (((visible settings raw).map asGroup).filter
          fun item => item.path = fullPath) =
        pathGroup fullPath ((visible settings raw).filter
          fun endpoint => normalizePath endpoint.path = fullPath) := by
    rw [List.filter_map, pathGroup, List.map_map, List.flatMap_map]
    rfl
  rw [groupByPath_eq_gatherInto,
    gatherInto_eq_map_eraseDups path_mergeVerbs foldl_mergeVerbs_of_isBare hbare, List.map_map]
  simp only [hmembers]
  rfl

/-- Each distinct pair of a path and a verb has one group, over all that declare it. -/
theorem groupByVerb_eq_map_eraseDups :
    groupByVerb settings raw =
      (((visible settings raw).flatMap asVerbGroups).map pair).eraseDups.map fun declared =>
        verbGroup declared
          (((visible settings raw).flatMap asVerbGroups).filter
            fun item => pair item = declared) := by
  have hbare : ∀ item ∈ (visible settings raw).flatMap asVerbGroups, IsBare item := by
    intro item hitem
    obtain ⟨endpoint, -, hverbs⟩ := List.mem_flatMap.mp hitem
    obtain ⟨verb, -, rfl⟩ := mem_asVerbGroups.mp hverbs
    rfl
  rw [groupByVerb_eq_gatherInto]
  exact gatherInto_eq_map_eraseDups pair_mergeHandlers foldl_mergeHandlers_of_isBare hbare

/-- The first group of some pairs is that of the first of them that is declared. -/
theorem find?_map_pair_groupByVerb (wanted : String × String → Bool) :
    ((groupByVerb settings raw).map pair).find? wanted =
      (((visible settings raw).flatMap asVerbGroups).map pair).find? wanted := by
  have hpairs : (groupByVerb settings raw).map pair =
      (((visible settings raw).flatMap asVerbGroups).map pair).eraseDups := by
    rw [groupByVerb_eq_map_eraseDups, List.map_map]
    exact List.map_id _
  rw [hpairs, find?_eraseDups]

theorem normalizePath_normalizePath (path : String) :
    normalizePath (normalizePath path) = normalizePath path := by
  by_cases hslash : path.toList.head? = some '/'
  · have hkept : normalizePath path = path := if_pos hslash
    rw [hkept, hkept]
  · have hput : normalizePath path = "/" ++ path := if_neg hslash
    have hhead : ("/" ++ path).toList.head? = some '/' := by simp
    rw [hput, normalizePath, if_pos hhead]

/-- Slashes in front of the paths may be added before the documentation is hidden or after. -/
theorem visible_normalized :
    visible settings (raw.map fun endpoint =>
        { endpoint with path := normalizePath endpoint.path }) =
      (visible settings raw).map fun endpoint =>
        { endpoint with path := normalizePath endpoint.path } := by
  rw [visible, List.filter_map]
  simp only [Function.comp_def, settings.isDocsPath_normalizePath]
  rfl

/-- Grouping by path is stable: one group for each path that is documented, in order of first
appearance, made of the endpoints with that path in their order.  A group has the verbs of its
members, one by one, and slashes put in front beforehand make no difference. -/
theorem groupByPath_stable :
    let documented := raw.filter fun endpoint => !settings.isDocsPath endpoint.path
    let paths := (documented.map fun endpoint => normalizePath endpoint.path).eraseDups
    let members (fullPath : String) :=
      documented.filter fun endpoint => normalizePath endpoint.path = fullPath
    groupByPath settings raw =
        paths.map (fun fullPath => pathGroup fullPath (members fullPath)) ∧
      (groupByPath settings raw).map methods =
        paths.map (fun fullPath => (members fullPath).flatMap methods) ∧
      groupByPath settings (raw.map fun endpoint =>
          { endpoint with path := normalizePath endpoint.path }) =
        groupByPath settings raw := by
  intro documented paths members
  have hgroups : groupByPath settings raw =
      paths.map fun fullPath => pathGroup fullPath (members fullPath) :=
    groupByPath_eq_map_eraseDups settings raw
  refine ⟨hgroups, ?_, ?_⟩
  · rw [hgroups, List.map_map]
    apply List.map_congr_left
    intro fullPath _
    exact methods_pathGroup fullPath (members fullPath)
  · have hgroup (endpoint : Endpoint) :
        asGroup { endpoint with path := normalizePath endpoint.path } = asGroup endpoint := by
      rw [asGroup, asGroup, normalizePath_normalizePath]
    rw [groupByPath, groupByPath, visible_normalized, List.map_map]
    simp only [Function.comp_def, hgroup]

/-- A verb text without verbs leaves a space and no verb. -/
example : groupByPath .default [bare "" "items" [], bare "get head" "/items" []] =
    [bare " get head" "/items" []] := by
  decide

theorem map_pair_asVerbGroups (endpoint : Endpoint) :
    (asVerbGroups endpoint).map pair =
      endpoint.methods.map (Prod.mk (normalizePath endpoint.path)) := by
  rw [asVerbGroups, List.map_map]
  rfl

theorem map_snd_filter_asVerbGroups (endpoints : List Endpoint) (fullPath : String) :
    (((endpoints.flatMap asVerbGroups).map pair).filter fun declared =>
        declared.1 = fullPath).map Prod.snd =
      (endpoints.filter fun endpoint =>
        normalizePath endpoint.path = fullPath).flatMap methods := by
  have hpath : ((endpoints.flatMap asVerbGroups).map pair).filter
        (fun declared => declared.1 = fullPath) =
      ((endpoints.flatMap asVerbGroups).filter fun group => group.path = fullPath).map pair :=
    List.filter_map
  have hmethods (endpoint : Endpoint) :
      (asVerbGroups endpoint).map (Prod.snd ∘ pair) = endpoint.methods := by
    rw [← List.map_map, map_pair_asVerbGroups, List.map_map]
    exact List.map_id endpoint.methods
  rw [hpath, List.map_map, filter_flatMap_asVerbGroups (fun path => path = fullPath),
    List.map_flatMap]
  simp only [hmethods]

/-- The groups of one path have its distinct verbs, in order. -/
theorem map_method_filter_groupByVerb (fullPath : String) :
    ((groupByVerb settings raw).filter fun operation => operation.path = fullPath).map method =
      (((visible settings raw).filter fun endpoint =>
        normalizePath endpoint.path = fullPath).flatMap methods).eraseDups := by
  have hshown : ((groupByVerb settings raw).filter fun operation =>
        operation.path = fullPath).map method =
      ((((visible settings raw).flatMap asVerbGroups).map pair).eraseDups.filter fun declared =>
        declared.1 = fullPath).map Prod.snd := by
    rw [groupByVerb_eq_map_eraseDups, List.filter_map, List.map_map]
    rfl
  rw [hshown, map_snd_filter_eraseDups, map_snd_filter_asVerbGroups]

/-- The pairs of a path and a verb that endpoints declare, each with its chain of handlers, in order
and with repeats. -/
def declarations (endpoints : List Endpoint) : List ((String × String) × List Handler) :=
  endpoints.flatMap fun endpoint =>
    endpoint.methods.map fun verb => ((normalizePath endpoint.path, verb), endpoint.handlers)

theorem declarations_eq (endpoints : List Endpoint) :
    declarations endpoints =
      (endpoints.flatMap asVerbGroups).map fun group => (pair group, group.handlers) := by
  simp [declarations, asVerbGroups, List.map_flatMap, pair, bare, Function.comp_def]

/-- Grouping by path and verb is stable: one group for each pair that is declared, in order of first
appearance, with the handlers of all its declarations in their order.  Under one path the verbs are
those of the path's group, each where it first appears. -/
theorem groupByVerb_stable :
    let documented := raw.filter fun endpoint => !settings.isDocsPath endpoint.path
    let declared := declarations documented
    groupByVerb settings raw =
        (declared.map Prod.fst).eraseDups.map (fun pair => bare pair.2 pair.1
          ((declared.filter fun declaration => declaration.1 = pair).flatMap Prod.snd)) ∧
      ∀ fullPath,
        ((groupByVerb settings raw).filter fun operation => operation.path = fullPath).map method =
          (((groupByPath settings raw).find? fun group => group.path = fullPath).elim []
            methods).eraseDups := by
  intro documented declared
  constructor
  · have hdeclared : declared = _ := declarations_eq documented
    rw [hdeclared, List.map_map, groupByVerb_eq_map_eraseDups]
    simp only [List.filter_map, List.flatMap_map]
    rfl
  · intro fullPath
    rw [map_method_filter_groupByVerb,
      elim_find?_eq_flatMap_filter (nodup_map_path_groupByPath settings raw),
      flatMap_methods_groupByPath]

end Views

end RouteAtlas.Endpoint
