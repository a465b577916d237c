import Mathlib.Algebra.GroupWithZero.Nat
import Mathlib.Data.List.Infix

/-!
# Counting a word in a text

A word that starts with a mark occurs in two joined texts as often as in both of them, unless it
could reach from the first into the second.  It cannot when the mark does not stand among the last
characters of the first text, as many as the word has behind its mark.
-/

namespace RouteAtlas.Text

/-- The number of places of a text at which a word starts. -/
def occurrences (word : List Char) : List Char → Nat
  | [] => 0
  | c :: cs => (if word.isPrefixOf (c :: cs) then 1 else 0) + occurrences word cs

variable {mark : Char} {word : List Char}

/-- Whether a word that starts with the mark, and is so long behind it, ends within a text if it
starts there. -/
def EndsWithin (mark : Char) (length : Nat) (cs : List Char) : Prop :=
  mark ∉ cs.drop (cs.length - length)

instance (mark : Char) (length : Nat) (cs : List Char) : Decidable (EndsWithin mark length cs) :=
  inferInstanceAs (Decidable (mark ∉ _))

theorem endsWithin_of_not_mem {cs : List Char} (hmark : mark ∉ cs) (length : Nat) :
    EndsWithin mark length cs :=
  fun hmem => hmark (List.mem_of_mem_drop hmem)

theorem EndsWithin.tail {length : Nat} {c : Char} {cs : List Char}
    (hends : EndsWithin mark length (c :: cs)) : EndsWithin mark length cs := by
  by_cases hshort : cs.length < length
  · rw [EndsWithin, List.length_cons, show cs.length + 1 - length = 0 by omega] at hends
    exact endsWithin_of_not_mem (fun hmem => hends (List.mem_cons_of_mem c hmem)) length
  · rw [EndsWithin, List.length_cons,
      show cs.length + 1 - length = (cs.length - length) + 1 by omega] at hends
    exact hends

theorem EndsWithin.length_le {length : Nat} {cs : List Char}
    (hends : EndsWithin mark length (mark :: cs)) : length ≤ cs.length := by
  by_contra hshort
  rw [EndsWithin, List.length_cons, show cs.length + 1 - length = 0 by omega] at hends
  exact hends List.mem_cons_self

theorem occurrences_eq_zero_of_not_mem {cs : List Char} (hmark : mark ∉ cs) :
    occurrences (mark :: word) cs = 0 := by
  induction cs with
  | nil => rfl
  | cons c cs ih =>
      rw [List.mem_cons, not_or] at hmark
      rw [occurrences, ih hmark.2, List.isPrefixOf, beq_false_of_ne hmark.1]
      rfl

/-- Occurrences add up over a seam that no occurrence reaches over. -/
theorem occurrences_append {cs : List Char} (hends : EndsWithin mark word.length cs)
    (rest : List Char) :
    occurrences (mark :: word) (cs ++ rest) =
      occurrences (mark :: word) cs + occurrences (mark :: word) rest := by
  induction cs with
  | nil => rw [List.nil_append, occurrences, Nat.zero_add]
  | cons c cs ih =>
      have hhere : (mark :: word).isPrefixOf (c :: (cs ++ rest)) =
          (mark :: word).isPrefixOf (c :: cs) := by
        rw [List.isPrefixOf, List.isPrefixOf]
        by_cases hc : mark = c
        · subst hc
          rw [Bool.eq_iff_iff, Bool.and_eq_true, Bool.and_eq_true, List.isPrefixOf_iff_prefix,
            List.isPrefixOf_iff_prefix, List.isPrefix_append_of_length hends.length_le]
        · rw [beq_false_of_ne hc]
          rfl
      rw [List.cons_append, occurrences, occurrences, hhere, ih hends.tail, Nat.add_assoc]

/-- The occurrences in texts joined one behind the other, if none can reach over a seam. -/
theorem occurrences_flatMap {Piece : Type} (write : Piece → List Char) (pieces : List Piece)
    (hends : ∀ piece ∈ pieces, EndsWithin mark word.length (write piece)) :
    occurrences (mark :: word) (pieces.flatMap write) =
      (pieces.map fun piece => occurrences (mark :: word) (write piece)).sum := by
  induction pieces with
  | nil => rfl
  | cons piece pieces ih =>
      rw [List.flatMap_cons, occurrences_append (hends piece List.mem_cons_self),
        ih fun other hother => hends other (List.mem_cons_of_mem piece hother), List.map_cons,
        List.sum_cons]

end RouteAtlas.Text
