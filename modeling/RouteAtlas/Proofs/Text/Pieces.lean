import Mathlib.Data.List.DropRight
import RouteAtlas.Text.Pieces

/-!
# Ends of texts

Trimming takes runs of a character off the ends of a text.  What is left is a piece of the text
that neither starts nor ends with the character, so that trimming it again changes nothing.
Delimiters of two characters are told by the first character of a text and the one behind it.
-/

namespace RouteAtlas.Text

theorem trimEnd_eq_rdropWhile (c : Char) (cs : List Char) :
    trimEnd c cs = cs.rdropWhile (· == c) := rfl

theorem trimEnd_trimEnd (c : Char) (cs : List Char) :
    trimEnd c (trimEnd c cs) = trimEnd c cs := by
  simp only [trimEnd_eq_rdropWhile]
  exact List.rdropWhile_idempotent _ cs

theorem trimEnd_prefix_self (c : Char) (cs : List Char) : trimEnd c cs <+: cs := by
  rw [trimEnd_eq_rdropWhile]
  exact List.rdropWhile_prefix _ cs

/-- Nothing is left to trim at the end. -/
theorem getLast?_trimEnd_ne (c : Char) (cs : List Char) : (trimEnd c cs).getLast? ≠ some c := by
  intro hlast
  rw [trimEnd, List.getLast?_reverse] at hlast
  have hfirst := List.head?_dropWhile_not (· == c) cs.reverse
  rw [hlast] at hfirst
  simp at hfirst

theorem trimEnd_trimBoth (c : Char) (cs : List Char) :
    trimEnd c (trimBoth c cs) = trimBoth c cs :=
  trimEnd_trimEnd c _

theorem head?_trimBoth_ne (c : Char) (cs : List Char) : (trimBoth c cs).head? ≠ some c := by
  intro hhead
  obtain ⟨rest, hrest⟩ := List.head?_eq_some_iff.mp hhead
  obtain ⟨tail, htail⟩ := trimEnd_prefix_self c (cs.dropWhile (· == c))
  rw [← trimBoth, hrest] at htail
  have hdrop := List.head?_dropWhile_not (· == c) cs
  rw [← htail] at hdrop
  simp at hdrop

theorem mem_of_mem_trimBoth {c d : Char} {cs : List Char} (hd : d ∈ trimBoth c cs) : d ∈ cs :=
  (List.dropWhile_sublist _).subset ((trimEnd_prefix_self c _).subset hd)

theorem stripTail?_append (front tail : List Char) :
    stripTail? tail (front ++ tail) = some front :=
  stripTail?_eq_some_iff.mpr rfl

theorem stripHead?_eq_none_iff {head cs : List Char} :
    stripHead? head cs = none ↔ ¬ head <+: cs := by
  rw [← Option.not_isSome_iff_eq_none, Option.isSome_iff_exists]
  apply not_congr
  constructor
  · rintro ⟨rest, hrest⟩
    exact ⟨rest, (stripHead?_eq_some_iff.mp hrest).symm⟩
  · rintro ⟨rest, hrest⟩
    exact ⟨rest, stripHead?_eq_some_iff.mpr hrest.symm⟩

theorem stripTail?_eq_none_iff {tail cs : List Char} :
    stripTail? tail cs = none ↔ ¬ tail <:+ cs := by
  rw [stripTail?, Option.map_eq_none_iff, stripHead?_eq_none_iff, List.reverse_prefix]

/-- A text starts with two given characters, or behind the first stands another than the
second. -/
theorem starts_cases (first second c : Char) (cs : List Char) :
    (∃ rest, c = first ∧ cs = second :: rest) ∨ (c = first → cs.head? ≠ some second) := by
  by_cases hstarts : c = first ∧ cs.head? = some second
  · obtain ⟨rfl, hsecond⟩ := hstarts
    obtain ⟨rest, rfl⟩ := List.head?_eq_some_iff.mp hsecond
    exact Or.inl ⟨rest, rfl, rfl⟩
  · exact Or.inr fun hc hsecond => hstarts ⟨hc, hsecond⟩

theorem head?_append_ne {c : Char} {cs rest : List Char} (hcs : cs.head? ≠ some c)
    (hseam : cs = [] → rest.head? ≠ some c) : (cs ++ rest).head? ≠ some c := by
  cases cs with
  | nil => exact hseam rfl
  | cons d cs => exact hcs

end RouteAtlas.Text
