import Mathlib.Data.List.Pairwise
import RouteAtlas.Text.Matches

/-!
# The items that count

A matcher may find items at several places of a text, and the texts of the items may overlap.
Reading from left to right and jumping over each item found counts some of them.  The rule can
be told without the reading: the items that count stand one behind the other, and every other
one begins inside the text of an item that counts.  At most one list of items follows that rule,
and the reading finds it.
-/

namespace RouteAtlas.Text

variable {Item : Type}

/-- An item at a place of a text: the number of characters before it, and of those it covers. -/
structure Find (Item : Type) where
  place : Nat
  size : Nat
  item : Item

/-- Whether a place is inside the text of an item, behind its beginning. -/
def Find.Covers (found : Find Item) (place : Nat) : Prop :=
  found.place < place ∧ place < found.place + found.size

/-- The items that count among those of a text: they stand apart, in text order, and all others
begin inside one of them. -/
structure Counted (IsFound : Find Item → Prop) (counted : List (Find Item)) : Prop where
  isFound : ∀ found ∈ counted, IsFound found
  apart : counted.Pairwise fun earlier later => earlier.place + earlier.size ≤ later.place
  covered : ∀ found, IsFound found →
    found ∈ counted ∨ ∃ earlier ∈ counted, earlier.Covers found.place

theorem Counted.congr {IsFound IsFound' : Find Item → Prop} {counted : List (Find Item)}
    (hiff : ∀ found, IsFound found ↔ IsFound' found) (hcounted : Counted IsFound counted) :
    Counted IsFound' counted := by
  rwa [← funext fun found => propext (hiff found)]

theorem Counted.nil {IsFound : Find Item → Prop} (hnone : ∀ found, ¬ IsFound found) :
    Counted IsFound [] where
  isFound := by simp
  apart := List.Pairwise.nil
  covered found hfound := absurd hfound (hnone found)

/-- The first item counts, and behind its text the counting starts anew. -/
theorem Counted.cons {IsFound : Find Item → Prop} {first : Find Item} {rest : List (Find Item)}
    (hfirst : IsFound first)
    (hleast : ∀ found, IsFound found → found = first ∨ first.place < found.place)
    (hrest : Counted (fun found => IsFound found ∧ first.place + first.size ≤ found.place) rest) :
    Counted IsFound (first :: rest) where
  isFound found hmem := by
    obtain rfl | hmem := List.mem_cons.mp hmem
    · exact hfirst
    · exact (hrest.isFound found hmem).1
  apart := List.pairwise_cons.mpr ⟨fun found hmem => (hrest.isFound found hmem).2, hrest.apart⟩
  covered found hfound := by
    obtain rfl | hbehind := hleast found hfound
    · exact Or.inl List.mem_cons_self
    · by_cases hinside : found.place < first.place + first.size
      · exact Or.inr ⟨first, List.mem_cons_self, hbehind, hinside⟩
      · obtain hmem | ⟨earlier, hmem, hcovers⟩ := hrest.covered found ⟨hfound, by omega⟩
        · exact Or.inl (List.mem_cons_of_mem first hmem)
        · exact Or.inr ⟨earlier, List.mem_cons_of_mem first hmem, hcovers⟩

section Unique

variable {IsFound : Find Item → Prop} {counted left right : List (Find Item)}

/-- No item that counts begins inside another. -/
theorem Counted.not_covers (hcounted : Counted IsFound counted) :
    ∀ found ∈ counted, ∀ other ∈ counted, ¬ found.Covers other.place := by
  apply List.Pairwise.forall_of_forall_of_flip
  · rintro found - ⟨hbehind, -⟩
    omega
  · refine hcounted.apart.imp ?_
    rintro earlier later hapart ⟨-, hinside⟩
    omega
  · refine hcounted.apart.imp ?_
    rintro earlier later hapart ⟨hbehind, -⟩
    omega

/-- Two lists that count the same finds hold the same ones. -/
theorem Counted.mem_of_mem (hleft : Counted IsFound left) (hright : Counted IsFound right)
    {found : Find Item} (hmem : found ∈ left) : found ∈ right := by
  -- An item that covers the place of this one stands before it, so the induction is on places.
  induction hplace : found.place using Nat.strongRecOn generalizing left right found with
  | ind place ih =>
      obtain hfound | ⟨earlier, hearlier, hcovers⟩ :=
        hright.covered found (hleft.isFound found hmem)
      · exact hfound
      · have hbefore : earlier.place < place := hplace ▸ hcovers.1
        have hcounted : earlier ∈ left := ih earlier.place hbefore hright hleft hearlier rfl
        exact absurd hcovers (hleft.not_covers earlier hcounted found hmem)

/-- At most one list of items follows the rule, where every item covers a character. -/
theorem Counted.unique (hsize : ∀ found, IsFound found → 0 < found.size)
    (hleft : Counted IsFound left) (hright : Counted IsFound right) : left = right := by
  have hnodup {list : List (Find Item)} (hlist : Counted IsFound list) : list.Nodup := by
    refine hlist.apart.imp_of_mem ?_
    rintro found other hmem - hapart rfl
    have hpositive := hsize found (hlist.isFound found hmem)
    omega
  have hperm : left.Perm right :=
    (List.perm_ext_iff_of_nodup (hnodup hleft) (hnodup hright)).mpr fun found =>
      ⟨hleft.mem_of_mem hright, hright.mem_of_mem hleft⟩
  refine hperm.eq_of_pairwise ?_ hleft.apart hright.apart
  intro found other hmem hother hbefore hbehind
  have hpositive := hsize found (hleft.isFound found hmem)
  omega

end Unique

section Reading

variable (find : Matcher Item)

/-- Whether a matcher finds an item at its place of a text. -/
def FoundIn (cs : List Char) (found : Find Item) : Prop :=
  ∃ front rest, cs = front ++ rest ∧ rest ≠ [] ∧ front.length = found.place ∧
    find front.getLast? rest = some (found.item, found.size)

/-- The items met when a text is read on from a place, after passing over the first `skip`
characters. -/
def findsFrom : (skip : Nat) → (front cs : List Char) → List (Find Item)
  | _, _, [] => []
  | skip + 1, front, c :: cs => findsFrom skip (front ++ [c]) cs
  | 0, front, c :: cs =>
    match find front.getLast? (c :: cs) with
    | some (item, size) =>
      ⟨front.length, size, item⟩ :: findsFrom (size - 1) (front ++ [c]) cs
    | none => findsFrom 0 (front ++ [c]) cs

variable {find}

theorem findsFrom_of_some {front cs : List Char} {c : Char} {item : Item} {size : Nat}
    (hfind : find front.getLast? (c :: cs) = some (item, size)) :
    findsFrom find 0 front (c :: cs) =
      ⟨front.length, size, item⟩ :: findsFrom find (size - 1) (front ++ [c]) cs := by
  rw [findsFrom, hfind]

theorem findsFrom_of_none {front cs : List Char} {c : Char}
    (hfind : find front.getLast? (c :: cs) = none) :
    findsFrom find 0 front (c :: cs) = findsFrom find 0 (front ++ [c]) cs := by
  rw [findsFrom, hfind]

/-- Without their places, the finds are the items of the text. -/
theorem map_item_findsFrom (find : Matcher Item) (skip : Nat) (front cs : List Char) :
    (findsFrom find skip front cs).map Find.item =
      (readMatches find skip front.getLast? cs).filterMap Sum.getRight? := by
  induction cs generalizing skip front with
  | nil =>
      rw [findsFrom, readMatches]
      rfl
  | cons c cs ih =>
      have hlast : (front ++ [c]).getLast? = some c := List.getLast?_concat
      cases skip with
      | succ skip => rw [findsFrom, readMatches_skip, ih, hlast]
      | zero =>
          cases hfind : find front.getLast? (c :: cs) with
          | none =>
              rw [findsFrom_of_none hfind, ih, hlast, readMatches, hfind]
              rfl
          | some found =>
              rw [findsFrom_of_some hfind, List.map_cons, ih, hlast, readMatches, hfind]
              rfl

/-- A find at the place reached is what the matcher answers there. -/
theorem FoundIn.find_eq {front cs : List Char} {found : Find Item}
    (hfound : FoundIn find (front ++ cs) found) (hplace : front.length = found.place) :
    find front.getLast? cs = some (found.item, found.size) ∧ cs ≠ [] := by
  obtain ⟨front', rest, happend, hrest, hplace', hfind⟩ := hfound
  obtain ⟨rfl, rfl⟩ := List.append_inj happend (hplace.trans hplace'.symm)
  exact ⟨hfind, hrest⟩

/-- What is met from a place on are the items that count among those from there on. -/
theorem counted_findsFrom
    (hsize : ∀ before cs item size, find before cs = some (item, size) → 0 < size)
    (skip : Nat) (front cs : List Char) :
    Counted (fun found => FoundIn find (front ++ cs) found ∧ front.length + skip ≤ found.place)
      (findsFrom find skip front cs) := by
  induction cs generalizing skip front with
  | nil =>
      refine Counted.nil ?_
      rintro found ⟨⟨front', rest, happend, hrest, hplace, -⟩, hbehind⟩
      have hlength := congrArg List.length happend
      have hpositive := List.length_pos_iff.mpr hrest
      simp only [List.length_append, List.length_nil] at hlength
      omega
  | cons c cs ih =>
      have hlater (skip : Nat) : Counted (fun found =>
          FoundIn find (front ++ c :: cs) found ∧ front.length + (skip + 1) ≤ found.place)
          (findsFrom find skip (front ++ [c]) cs) := by
        have hcounted := ih skip (front ++ [c])
        rwa [← List.append_cons, List.length_append, List.length_singleton,
          Nat.add_assoc, Nat.add_comm 1] at hcounted
      cases skip with
      | succ skip => exact hlater skip
      | zero =>
          cases hfind : find front.getLast? (c :: cs) with
          | none =>
              rw [findsFrom_of_none hfind]
              refine (hlater 0).congr fun found => and_congr_right fun hfound => ?_
              have hne : front.length ≠ found.place := by
                intro hplace
                rw [(hfound.find_eq hplace).1] at hfind
                simp at hfind
              omega
          | some item =>
              obtain ⟨item, size⟩ := item
              rw [findsFrom_of_some hfind]
              have hfirst : FoundIn find (front ++ c :: cs) ⟨front.length, size, item⟩ :=
                ⟨front, c :: cs, rfl, List.cons_ne_nil c cs, rfl, hfind⟩
              refine Counted.cons ⟨hfirst, Nat.le_refl _⟩ ?_ ?_
              · rintro found ⟨hfound, hbehind⟩
                by_cases hplace : front.length = found.place
                · have hsame := (hfound.find_eq hplace).1
                  rw [hfind, Option.some.injEq, Prod.mk.injEq] at hsame
                  obtain ⟨rfl, rfl⟩ := hsame
                  left
                  rw [hplace]
                · right
                  exact Nat.lt_of_le_of_ne hbehind hplace
              · refine (hlater (size - 1)).congr fun found => ?_
                have hpositive := hsize _ _ _ _ hfind
                simp only [and_assoc]
                refine and_congr_right fun _ => ?_
                omega

/-- The items of a text are those that count, and no other list of finds would be. -/
theorem itemsIn_counted (find : Matcher Item)
    (hsize : ∀ before cs item size, find before cs = some (item, size) → 0 < size)
    (cs : List Char) :
    ∃ counted, (∀ list, Counted (FoundIn find cs) list ↔ list = counted) ∧
      itemsIn find cs = counted.map Find.item := by
  refine ⟨findsFrom find 0 [] cs, ?_, (map_item_findsFrom find 0 [] cs).symm⟩
  have hcounted : Counted (FoundIn find cs) (findsFrom find 0 [] cs) :=
    (counted_findsFrom hsize 0 [] cs).congr (by simp)
  intro list
  constructor
  · intro hlist
    refine hlist.unique ?_ hcounted
    rintro found ⟨front, rest, -, -, -, hfind⟩
    exact hsize _ _ _ _ hfind
  · rintro rfl
    exact hcounted

end Reading

end RouteAtlas.Text
