import RouteAtlas.Params.Infer
import RouteAtlas.Proofs.Endpoint.Grouping

/-!
# Groups only grow

When endpoints are appended to a walk, every group stays where it is.  Later endpoints add verbs
and handlers behind those of the group, and new groups come behind the old ones.  A longer chain
of handlers reads the parameters of the shorter chain first, so the names inferred for a group
keep their places too.
-/

namespace RouteAtlas.Endpoint

section Gathering

variable {Item Key : Type} {key : Item → Key} {merge : Item → Item → Item}

/-- A group keeps its place when an item is merged: it stays as it is, or takes the item up. -/
theorem getElem?_mergeInto {alike : Item → Item → Bool} (new : Item) {groups : List Item}
    {i : Nat} {group : Item} (hgroup : groups[i]? = some group) :
    (mergeInto alike merge new groups)[i]? = some group ∨
      (mergeInto alike merge new groups)[i]? = some (merge group new) := by
  induction groups generalizing i with
  | nil => simp at hgroup
  | cons first groups ih =>
      rw [mergeInto]
      by_cases halike : alike first new = true
      · rw [if_pos halike]
        cases i with
        | zero =>
            apply Or.inr
            obtain rfl : first = group := by simpa using hgroup
            rfl
        | succ i => exact Or.inl hgroup
      · rw [if_neg halike]
        cases i with
        | zero => exact Or.inl hgroup
        | succ i => exact ih hgroup

theorem key_foldl_merge (hkey : ∀ group new, key (merge group new) = key group) (group : Item)
    (news : List Item) : key (news.foldl merge group) = key group := by
  induction news generalizing group with
  | nil => rfl
  | cons new news ih => rw [List.foldl_cons, ih, hkey]

variable [DecidableEq Key]

/-- A group keeps its place, and only what is merged into it changes it. -/
theorem getElem?_gatherInto (items : List Item) {groups : List Item} {i : Nat} {group : Item}
    (hgroup : groups[i]? = some group) :
    ∃ news : List Item, (gatherInto key merge groups items)[i]? =
      some (news.foldl merge group) := by
  induction items generalizing groups group with
  | nil => exact ⟨[], hgroup⟩
  | cons item items ih =>
      rw [gatherInto_cons]
      obtain hkept | hmerged := getElem?_mergeInto item hgroup
      · exact ih hkept
      · obtain ⟨news, hnews⟩ := ih hmerged
        exact ⟨item :: news, hnews⟩

/-- The first group of some keys stays the first of them. -/
theorem find?_gatherInto (hkey : ∀ group new, key (merge group new) = key group)
    (wanted : Key → Bool) (items : List Item) {groups : List Item} {group : Item}
    (hfind : groups.find? (fun group => wanted (key group)) = some group) :
    ∃ news : List Item, (gatherInto key merge groups items).find?
      (fun group => wanted (key group)) = some (news.foldl merge group) := by
  obtain ⟨hwanted, i, hi, rfl, hbefore⟩ := List.find?_eq_some_iff_getElem.mp hfind
  have hplace (j : Nat) (hj : j < groups.length) :
      ∃ news : List Item, (gatherInto key merge groups items)[j]? =
        some (news.foldl merge groups[j]) :=
    getElem?_gatherInto items (List.getElem?_eq_getElem hj)
  obtain ⟨news, hnews⟩ := hplace i hi
  obtain ⟨hlength, hgrown⟩ := List.getElem?_eq_some_iff.mp hnews
  refine ⟨news, List.find?_eq_some_iff_getElem.mpr ⟨?_, i, hlength, hgrown, ?_⟩⟩
  · rw [key_foldl_merge hkey]
    exact hwanted
  · -- What stood before it keeps its key, and so stays unwanted.
    intro j hj
    obtain ⟨others, hothers⟩ := hplace j (Nat.lt_trans hj hi)
    obtain ⟨_, hother⟩ := List.getElem?_eq_some_iff.mp hothers
    rw [hother, key_foldl_merge hkey]
    exact hbefore j hj

end Gathering

theorem foldl_mergeHandlers (group : Endpoint) (news : List Endpoint) :
    news.foldl mergeHandlers group =
      { group with handlers := group.handlers ++ news.flatMap handlers } := by
  induction news generalizing group with
  | nil => simp
  | cons new news ih => simp [ih, mergeHandlers]

theorem foldl_mergeVerbs (group : Endpoint) (news : List Endpoint) :
    news.foldl mergeVerbs group =
      { group with
        method := " ".intercalate (group.method :: news.map method)
        handlers := group.handlers ++ news.flatMap handlers } := by
  induction news generalizing group with
  | nil => simp
  | cons new news ih =>
      rw [List.foldl_cons, ih, List.map_cons, String.intercalate_cons_cons]
      simp [mergeVerbs, String.intercalate_cons_append, String.append_assoc]

/-- Texts that are put together start with the first of them. -/
theorem intercalate_cons_eq_append (sep first : String) (rest : List String) :
    ∃ behind, sep.intercalate (first :: rest) = first ++ behind := by
  cases rest with
  | nil => exact ⟨"", by simp⟩
  | cons next rest =>
      rw [String.intercalate_cons_cons, String.append_assoc]
      exact ⟨_, rfl⟩

section Views

variable (settings : Settings) (raw more : List Endpoint)

/-- The group at a place stays there; verbs and handlers may come behind its own. -/
theorem getElem?_groupByPath_append {i : Nat} {group : Endpoint}
    (hgroup : (groupByPath settings raw)[i]? = some group) :
    ∃ verbs chain, (groupByPath settings (raw ++ more))[i]? =
      some { group with
        method := group.method ++ verbs
        handlers := group.handlers ++ chain } := by
  have happend : groupByPath settings (raw ++ more) =
      gatherInto path mergeVerbs (groupByPath settings raw)
        ((visible settings more).map asGroup) := by
    rw [groupByPath_eq_gatherInto, groupByPath_eq_gatherInto, visible_append, List.map_append,
      gatherInto_append]
  rw [happend]
  obtain ⟨news, hnews⟩ : ∃ news : List Endpoint,
      (gatherInto path mergeVerbs (groupByPath settings raw)
        ((visible settings more).map asGroup))[i]? = some (news.foldl mergeVerbs group) :=
    getElem?_gatherInto _ hgroup
  obtain ⟨verbs, hverbs⟩ := intercalate_cons_eq_append " " group.method (news.map method)
  rw [foldl_mergeVerbs, hverbs] at hnews
  exact ⟨verbs, _, hnews⟩

/-- The first group of some pairs stays the first; handlers may come behind its own. -/
theorem find?_groupByVerb_append (wanted : String × String → Bool) {group : Endpoint}
    (hfind : (groupByVerb settings raw).find? (fun group => wanted (pair group)) = some group) :
    ∃ chain, (groupByVerb settings (raw ++ more)).find? (fun group => wanted (pair group)) =
      some { group with handlers := group.handlers ++ chain } := by
  have happend : groupByVerb settings (raw ++ more) =
      gatherInto pair mergeHandlers (groupByVerb settings raw)
        ((visible settings more).flatMap asVerbGroups) := by
    rw [groupByVerb_eq_gatherInto, groupByVerb_eq_gatherInto, visible_append,
      List.flatMap_append, gatherInto_append]
  rw [happend]
  obtain ⟨news, hnews⟩ := find?_gatherInto pair_mergeHandlers wanted
    ((visible settings more).flatMap asVerbGroups) hfind
  rw [foldl_mergeHandlers] at hnews
  exact ⟨_, hnews⟩

theorem readsOf_append (left right : List Handler) :
    readsOf settings (left ++ right) = readsOf settings left ++ readsOf settings right :=
  List.filterMap_append

/-- What a chain of handlers reads is read first by every longer chain. -/
theorem infer_append (endpoint : Endpoint) (verbs : String) (chain : List Handler) :
    let grown := infer settings { endpoint with
      method := endpoint.method ++ verbs
      handlers := endpoint.handlers ++ chain }
    (infer settings endpoint).queryParams <+: grown.queryParams ∧
      (infer settings endpoint).bodyParams <+: grown.bodyParams := by
  simp only [infer, readsOf_append, List.flatMap_append, Text.addNames_append]
  exact ⟨Text.prefix_addNames _ _, Text.prefix_addNames _ _⟩

end Views

end RouteAtlas.Endpoint
