import RouteAtlas.Text.Matches

/-!
# Cutting texts

Trimming, stripping a known head or tail, and replacing one text by another inside a third.
-/

namespace RouteAtlas.Text

/-- The text without the run of `c` at its end. -/
def trimEnd (c : Char) (cs : List Char) : List Char :=
  (cs.reverse.dropWhile (· == c)).reverse

/-- The text without the runs of `c` at its two ends. -/
def trimBoth (c : Char) (cs : List Char) : List Char :=
  trimEnd c (cs.dropWhile (· == c))

/-- What follows `head` in a text that starts with it. -/
def stripHead? : (head : List Char) → List Char → Option (List Char)
  | [], cs => some cs
  | _ :: _, [] => none
  | h :: head, c :: cs => if h = c then stripHead? head cs else none

/-- What precedes `tail` in a text that ends with it. -/
def stripTail? (tail cs : List Char) : Option (List Char) :=
  (stripHead? tail.reverse cs.reverse).map List.reverse

/-- The text with every occurrence of `old`, taken from left to right, replaced by `new`. -/
def replaceAll (old new : List Char) (cs : List Char) : List Char :=
  replaceMatches (fun _ rest => (stripHead? old rest).map fun _ => ((), old.length))
    (fun _ => new) cs

theorem stripHead?_eq_some_iff {head cs rest : List Char} :
    stripHead? head cs = some rest ↔ cs = head ++ rest := by
  induction head generalizing cs with
  | nil => simp [stripHead?, eq_comm]
  | cons h head ih =>
    cases cs with
    | nil => simp [stripHead?]
    | cons c cs =>
      by_cases heq : h = c
      · simp [stripHead?, heq, ih]
      · simp [stripHead?, heq, Ne.symm heq]

theorem stripTail?_eq_some_iff {tail cs rest : List Char} :
    stripTail? tail cs = some rest ↔ cs = rest ++ tail := by
  simp only [stripTail?, Option.map_eq_some_iff, stripHead?_eq_some_iff]
  constructor
  · rintro ⟨front, hfront, rfl⟩
    rw [← List.reverse_inj]
    simpa using hfront
  · rintro rfl
    exact ⟨rest.reverse, by simp, by simp⟩

end RouteAtlas.Text
