import RouteAtlas.Proofs.Text.Matches
import RouteAtlas.Proofs.Text.Pieces

/-!
# Replacing one text by another

A replacement goes from left to right.  Where the old text does not stand, a character is kept;
where it stands, the new text is written and the reading goes on behind it.  A piece that does not
hold the first character of the old text is kept whole, since no occurrence can begin in it.
-/

namespace RouteAtlas.Text

variable {old cs : List Char} (new : List Char)

@[simp]
theorem replaceAll_nil (old new : List Char) : replaceAll old new [] = [] := rfl

theorem replaceAll_cons {c : Char} (hkept : ¬ old <+: c :: cs) :
    replaceAll old new (c :: cs) = c :: replaceAll old new cs := by
  apply replaceMatches_cons_of_none fun _ _ => rfl
  rw [stripHead?_eq_none_iff.mpr hkept, Option.map_none]

/-- An occurrence at the front is replaced, and the text behind it by itself. -/
theorem replaceAll_append_old {c : Char} (old cs : List Char) :
    replaceAll (c :: old) new (c :: old ++ cs) = new ++ replaceAll (c :: old) new cs := by
  have hfind : stripHead? (c :: old) (c :: old ++ cs) = some cs := stripHead?_eq_some_iff.mpr rfl
  have hdrop : (old ++ cs).drop ((c :: old).length - 1) = cs := by simp
  rw [List.cons_append] at hfind ⊢
  rw [replaceAll, replaceMatches_cons_of_some (fun _ _ => rfl) _ (by rw [hfind]; rfl), hdrop]
  rfl

/-- No occurrence begins in a text without the first character of what is replaced. -/
theorem replaceAll_append {c : Char} {front : List Char} (hfront : c ∉ front) (old cs : List Char) :
    replaceAll (c :: old) new (front ++ cs) = front ++ replaceAll (c :: old) new cs := by
  induction front with
  | nil => rfl
  | cons d front ih =>
      rw [List.mem_cons, not_or] at hfront
      have hkept : ¬ (c :: old) <+: d :: (front ++ cs) :=
        fun hprefix => hfront.1 (List.cons_prefix_cons.mp hprefix).1
      rw [List.cons_append, replaceAll_cons new hkept, ih hfront.2, List.cons_append]

/-- A single character is replaced wherever it stands. -/
theorem replaceAll_singleton (c d : Char) (cs : List Char) :
    replaceAll [c] [d] cs = cs.map fun x => if x = c then d else x := by
  induction cs with
  | nil => rfl
  | cons x cs ih =>
      by_cases hx : x = c
      · subst hx
        have hhere := replaceAll_append_old [d] [] cs (c := x)
        rw [List.map_cons, if_pos rfl, ← ih]
        exact hhere
      · have hkept : ¬ [c] <+: x :: cs :=
          fun hprefix => hx (List.cons_prefix_cons.mp hprefix).1.symm
        rw [replaceAll_cons [d] hkept, ih, List.map_cons, if_neg hx]

end RouteAtlas.Text
