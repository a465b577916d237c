import RouteAtlas.Proofs.Params.Template

/-!
# Placeholders read back

A documented path shows each placeholder as a name between braces.  What stands between braces
can be read back: as long as the literal characters of a path hold no braces of their own, the
documented path shows exactly the names of its placeholders, in order.  No placeholder is left in
it, since a colon stays only where no name follows, and whatever is written behind it starts with
no name either.
-/

namespace RouteAtlas.Template

open Text

/-- The name between braces that a text starts with, and the characters it takes. -/
def bracedName? : List Char → Option (List Char × Nat)
  | '{' :: cs =>
    if '}' ∈ cs then
      some (cs.takeWhile (· != '}'), (cs.takeWhile (· != '}')).length + 2)
    else none
  | _ => none

/-- The names between braces in a path, from left to right and with repeats. -/
def bracedNames (path : String) : List String :=
  (itemsIn (fun _ => bracedName?) path.toList).map String.ofList

/-- The characters of a path that belong to no placeholder. -/
def literals (path : List Char) : List Char :=
  (parse path).filterMap Sum.getLeft?

/-- Whether a path holds braces nowhere but in the groups of its placeholders. -/
def BracesInGroups (path : String) : Prop :=
  '{' ∉ literals path.toList ∧ '}' ∉ literals path.toList

instance (path : String) : Decidable (BracesInGroups path) :=
  inferInstanceAs (Decidable (_ ∧ _))

theorem blind_bracedName? : Matcher.Blind fun _ => bracedName? := fun _ _ => rfl

theorem bracedName?_eq_none {c : Char} (hc : c ≠ '{') (cs : List Char) :
    bracedName? (c :: cs) = none := by
  rw [bracedName?]
  simpa using hc

theorem bracedName?_append {name : List Char} (hname : '}' ∉ name) (rest : List Char) :
    bracedName? ('{' :: (name ++ '}' :: rest)) = some (name, name.length + 2) := by
  have htake : (name ++ '}' :: rest).takeWhile (· != '}') = name := by
    rw [List.takeWhile_append_of_pos]
    · simp
    · intro c hc
      simpa using fun heq : c = '}' => hname (heq ▸ hc)
  have hclosed : '}' ∈ name ++ '}' :: rest := by simp
  simp only [bracedName?, htake, if_pos hclosed]

section Parse

theorem parse_cons {c : Char} {cs : List Char} (hfind : placeholder? (c :: cs) = none) :
    parse (c :: cs) = .inl c :: parse cs :=
  matchesIn_cons_of_none blind_placeholder? hfind

theorem parse_token {c : Char} {cs name : List Char} {size : Nat}
    (hfind : placeholder? (c :: cs) = some (name, size)) :
    parse (c :: cs) = .inr name :: parse (cs.drop (size - 1)) :=
  matchesIn_cons_of_some blind_placeholder? hfind

theorem literals_cons {c : Char} {cs : List Char} (hfind : placeholder? (c :: cs) = none) :
    literals (c :: cs) = c :: literals cs := by
  rw [literals, parse_cons hfind]
  rfl

theorem literals_token {c : Char} {cs name : List Char} {size : Nat}
    (hfind : placeholder? (c :: cs) = some (name, size)) :
    literals (c :: cs) = literals (cs.drop (size - 1)) := by
  rw [literals, parse_token hfind]
  rfl

/-- Without a colon a text holds no part of a placeholder, so it is read by itself. -/
theorem parse_append {front : List Char} (hfront : ':' ∉ front) (rest : List Char) :
    parse (front ++ rest) = front.map .inl ++ parse rest := by
  induction front with
  | nil => rfl
  | cons c front ih =>
      rw [List.mem_cons, not_or] at hfront
      have hnone : placeholder? (c :: (front ++ rest)) = none :=
        placeholder?_eq_none (Ne.symm hfront.1) _
      rw [List.cons_append, parse_cons hnone, ih hfront.2]
      rfl

theorem placeholder?_colon_eq_none_iff (cs : List Char) :
    placeholder? (':' :: cs) = none ↔ cs.takeWhile isNameChar = [] := by
  simp [placeholder?]

end Parse

/-- A placeholder's name is made of name characters. -/
theorem isNameChar_of_placeholder? {c : Char} {cs name : List Char} {size : Nat}
    (hfind : placeholder? (c :: cs) = some (name, size)) :
    ∀ d ∈ name, isNameChar d = true := by
  obtain ⟨-, rfl, -⟩ := placeholder?_eq_some hfind
  exact List.all_eq_true.mp List.all_takeWhile

theorem not_mem_of_isNameChar {name : List Char} (hname : ∀ c ∈ name, isNameChar c = true)
    {d : Char} (hd : isNameChar d = false) : d ∉ name := by
  intro hmem
  rw [hname d hmem] at hd
  exact absurd hd (by decide)

theorem not_mem_of_placeholder? {c : Char} {cs name : List Char} {size : Nat}
    (hfind : placeholder? (c :: cs) = some (name, size)) {d : Char}
    (hd : isNameChar d = false) : d ∉ name :=
  not_mem_of_isNameChar (isNameChar_of_placeholder? hfind) hd

/-- The placeholders of a path have names of name characters alone. -/
theorem isNameChar_of_mem_parse {cs name : List Char} (hname : .inr name ∈ parse cs) :
    ∀ c ∈ name, isNameChar c = true := by
  induction cs using match_induction (fun _ => placeholder?) with
  | nil => simp [parse] at hname
  | char c cs hfind ih =>
      rw [parse_cons hfind] at hname
      exact ih (by simpa using hname)
  | item c cs found size hfind ih =>
      rw [parse_token hfind, List.mem_cons] at hname
      obtain heq | hrest := hname
      · obtain rfl := Sum.inr.inj heq
        exact isNameChar_of_placeholder? hfind
      · exact ih hrest

theorem not_mem_of_mem_parse {cs name : List Char} (hname : .inr name ∈ parse cs)
    {d : Char} (hd : isNameChar d = false) : d ∉ name :=
  not_mem_of_isNameChar (isNameChar_of_mem_parse hname) hd

/-- The names of a path are those of its pieces. -/
theorem mem_names_iff {path name : String} :
    name ∈ names path ↔ .inr name.toList ∈ parse path.toList := by
  rw [names, itemsIn, ← parse, List.mem_map]
  constructor
  · rintro ⟨chars, hchars, rfl⟩
    simpa using hchars
  · intro hpiece
    refine ⟨name.toList, ?_, String.ofList_toList⟩
    simpa using hpiece

/-- A placeholder is written in braces, and what stands behind it is written on its own. -/
theorem bracedChars_item {c : Char} {cs name : List Char} {size : Nat}
    (hfind : placeholder? (c :: cs) = some (name, size)) :
    bracedChars (c :: cs) =
      '{' :: (name ++ ['}']) ++ bracedChars (cs.drop (size - 1)) := by
  rw [bracedChars_token hfind, (placeholder?_eq_some hfind).2.2]
  simp

theorem not_mem_written_of_placeholder? {c : Char} {cs name : List Char} {size : Nat}
    (hfind : placeholder? (c :: cs) = some (name, size)) {d : Char}
    (hd : isNameChar d = false) (hopen : d ≠ '{') (hclose : d ≠ '}') :
    d ∉ '{' :: (name ++ ['}']) := by
  simp [hopen, hclose, not_mem_of_placeholder? hfind hd]

/-- Where no name starts in a path, none starts in its documented form. -/
theorem takeWhile_bracedChars {cs : List Char} (hcs : cs.takeWhile isNameChar = []) :
    (bracedChars cs).takeWhile isNameChar = [] := by
  cases cs with
  | nil => rfl
  | cons c cs =>
      cases hfind : placeholder? (c :: cs) with
      | none =>
          have hc : ¬ isNameChar c = true := by
            intro hname
            simp [hname] at hcs
          rw [bracedChars_cons hfind, List.takeWhile_cons_of_neg hc]
      | some found =>
          rw [bracedChars_token hfind]
          rfl

/-- A documented path is made of literal characters alone. -/
theorem parse_bracedChars (path : List Char) :
    parse (bracedChars path) = (bracedChars path).map .inl := by
  induction path using match_induction (fun _ => placeholder?) with
  | nil => rfl
  | char c cs hfind ih =>
      have hnone : placeholder? (c :: bracedChars cs) = none := by
        by_cases hc : c = ':'
        · subst hc
          rw [placeholder?_colon_eq_none_iff] at hfind ⊢
          exact takeWhile_bracedChars hfind
        · exact placeholder?_eq_none hc _
      rw [bracedChars_cons hfind, parse_cons hnone, ih]
      rfl
  | item c cs name size hfind ih =>
      have hcolon : ':' ∉ '{' :: (name ++ ['}']) :=
        not_mem_written_of_placeholder? hfind (by decide) (by decide) (by decide)
      rw [bracedChars_item hfind, parse_append hcolon, ih, List.map_append]

/-- Writing a documented path in braces changes nothing. -/
theorem braced_braced (path : String) : braced (braced path) = braced path := by
  have hparse := parse_bracedChars path.toList
  rw [braced_eq, braced_eq, String.toList_ofList, bracedChars, replaceMatches]
  rw [parse] at hparse
  rw [hparse, List.flatMap_map]
  simp

/-- A path in braces has no placeholders left. -/
theorem names_braced (path : String) : names (braced path) = [] := by
  have hparse := parse_bracedChars path.toList
  rw [parse] at hparse
  rw [names, braced_eq, String.toList_ofList, itemsIn, hparse, List.filterMap_map]
  simp

/-- The names between braces in a documented path are those of its placeholders. -/
theorem itemsIn_bracedChars {path : List Char} (hopen : '{' ∉ literals path) :
    itemsIn (fun _ => bracedName?) (bracedChars path) =
      itemsIn (fun _ => placeholder?) path := by
  induction path using match_induction (fun _ => placeholder?) with
  | nil => rfl
  | char c cs hfind ih =>
      rw [literals_cons hfind, List.mem_cons, not_or] at hopen
      have hc : c ≠ '{' := Ne.symm hopen.1
      rw [bracedChars_cons hfind, itemsIn_cons_of_none blind_placeholder? hfind,
        itemsIn_cons_of_none blind_bracedName? (bracedName?_eq_none hc _), ih hopen.2]
  | item c cs name size hfind ih =>
      rw [literals_token hfind] at hopen
      have hclose : '}' ∉ name := not_mem_of_placeholder? hfind (by decide)
      have hshown : bracedChars (c :: cs) =
          '{' :: (name ++ '}' :: bracedChars (cs.drop (size - 1))) := by
        rw [bracedChars_item hfind]
        simp
      have hdrop : (name ++ '}' :: bracedChars (cs.drop (size - 1))).drop (name.length + 2 - 1) =
          bracedChars (cs.drop (size - 1)) := by
        simp
      rw [hshown, itemsIn_cons_of_some blind_bracedName? (bracedName?_append hclose _), hdrop,
        itemsIn_cons_of_some blind_placeholder? hfind, ih hopen]

/-- The names between braces of the shown path are the placeholders of the raw one, if the raw path
has no braces of its own outside of groups. -/
theorem bracedNames_braced {path : String} (hbraces : BracesInGroups path) :
    bracedNames (braced path) = names path := by
  rw [bracedNames, names, braced_eq, String.toList_ofList, itemsIn_bracedChars hbraces.1]

end RouteAtlas.Template
