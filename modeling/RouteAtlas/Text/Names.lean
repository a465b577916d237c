/-!
# Lists of distinct names

Names are collected in the order in which they are first met.
-/

namespace RouteAtlas.Text

/-- The names with one more at the end, unless it is among them already. -/
def addName (names : List String) (name : String) : List String :=
  if name ∈ names then names else names ++ [name]

/-- The names with more of them added one by one. -/
def addNames (names more : List String) : List String :=
  more.foldl addName names

/-- The names in order of their first occurrence. -/
def distinctNames (names : List String) : List String :=
  addNames [] names

@[simp]
theorem addNames_nil (names : List String) : addNames names [] = names := rfl

theorem addNames_append (names left right : List String) :
    addNames names (left ++ right) = addNames (addNames names left) right := by
  simp [addNames]

theorem mem_addName {names : List String} {name other : String} :
    other ∈ addName names name ↔ other ∈ names ∨ other = name := by
  unfold addName
  split
  · constructor
    · exact Or.inl
    · rintro (hmem | rfl)
      · exact hmem
      · assumption
  · simp

/-- A name is only ever added at the end. -/
theorem prefix_addName (names : List String) (name : String) : names <+: addName names name := by
  unfold addName
  split
  · exact List.prefix_refl names
  · exact List.prefix_append names [name]

/-- The names that are there keep their places. -/
theorem prefix_addNames (names more : List String) : names <+: addNames names more := by
  induction more generalizing names with
  | nil => exact List.prefix_refl names
  | cons name more ih => exact (prefix_addName names name).trans (ih (addName names name))

end RouteAtlas.Text
