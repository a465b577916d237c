import RouteAtlas.Text.Names

/-!
# Names without repeats

Adding names one by one keeps those that are there and adds each of the others once, at its first
occurrence.  So the distinct names of a list are the list without its later repeats.
-/

namespace RouteAtlas.Text

theorem mem_addNames {names more : List String} {name : String} :
    name ∈ addNames names more ↔ name ∈ names ∨ name ∈ more := by
  induction more generalizing names with
  | nil => simp
  | cons first more ih =>
      rw [addNames, List.foldl_cons, ← addNames, ih, mem_addName, List.mem_cons, or_assoc]

theorem nodup_addName {names : List String} (hnames : names.Nodup) (name : String) :
    (addName names name).Nodup := by
  unfold addName
  split
  · exact hnames
  · rw [List.nodup_append]
    refine ⟨hnames, by simp, ?_⟩
    intro other hother found hfound
    rw [List.mem_singleton.mp hfound]
    rintro rfl
    contradiction

theorem nodup_addNames {names : List String} (hnames : names.Nodup) (more : List String) :
    (addNames names more).Nodup := by
  induction more generalizing names with
  | nil => exact hnames
  | cons name more ih => exact ih (nodup_addName hnames name)

theorem nodup_distinctNames (names : List String) : (distinctNames names).Nodup :=
  nodup_addNames List.nodup_nil names

/-- New names stand behind the old ones, in order and without repeats. -/
theorem addNames_eq_append (names more : List String) :
    addNames names more = names ++ (more.filter (· ∉ names)).eraseDups := by
  induction more generalizing names with
  | nil => simp
  | cons name more ih =>
      rw [addNames, List.foldl_cons, ← addNames, ih, addName]
      by_cases hname : name ∈ names
      · simp [hname]
      · have hlater : more.filter (· ∉ names ++ [name]) =
            (more.filter (· ∉ names)).filter fun other => !other == name := by
          rw [List.filter_filter]
          apply List.filter_congr
          intro other _
          by_cases heq : other = name
          · simp [heq]
          · simp [heq]
        rw [if_neg hname, hlater, List.filter_cons_of_pos (by simpa using hname),
          List.eraseDups_cons, List.append_assoc, List.singleton_append]

/-- Names in order of their first occurrence are the names without repeats. -/
theorem distinctNames_eq_eraseDups (names : List String) :
    distinctNames names = names.eraseDups := by
  rw [distinctNames, addNames_eq_append, List.nil_append, List.filter_eq_self.mpr (by simp)]

theorem addNames_addName (names seen : List String) (name : String) :
    addNames names (addName seen name) = addName (addNames names seen) name := by
  by_cases hname : name ∈ seen
  · have hadded : name ∈ addNames names seen := mem_addNames.mpr (Or.inr hname)
    rw [addName, if_pos hname, addName, if_pos hadded]
  · rw [addName, if_neg hname, addNames_append]
    rfl

/-- Two batches of names may be put together before they are added. -/
theorem addNames_addNames (names seen more : List String) :
    addNames names (addNames seen more) = addNames (addNames names seen) more := by
  induction more generalizing seen with
  | nil => rfl
  | cons name more ih =>
      calc
        addNames names (addNames seen (name :: more)) =
            addNames names (addNames (addName seen name) more) := rfl
        _ = addNames (addName (addNames names seen) name) more := by
          rw [ih, addNames_addName]
        _ = addNames (addNames names seen) (name :: more) := rfl

/-- Repeats that are dropped from the parts would be dropped from the whole. -/
theorem addNames_flatMap_distinctNames {Part : Type} (part : Part → List String)
    (names : List String) (parts : List Part) :
    addNames names (parts.flatMap fun item => distinctNames (part item)) =
      addNames names (parts.flatMap part) := by
  induction parts generalizing names with
  | nil => rfl
  | cons item parts ih =>
      rw [List.flatMap_cons, List.flatMap_cons, addNames_append, addNames_append, ih,
        distinctNames, addNames_addNames, addNames_nil]

end RouteAtlas.Text
