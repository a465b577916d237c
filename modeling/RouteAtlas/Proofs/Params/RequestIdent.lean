import RouteAtlas.Params.RequestIdent
import RouteAtlas.Proofs.Text.Runs

/-!
# Reading up to a mark

A handler's first parameter stands behind the first parenthesis of its source or, in an arrow
function without parentheses, in front of the arrow.  Parentheses and `=` are marks: they are no
blanks and belong to no name, so the text in front of the first of them is read on its own.  The
readers of the forms never disagree: each one that reads a parameter list reads the list that
opens first, and what decides is the text in front of it.
-/

namespace RouteAtlas.Source

open Text

/-- A run of blanks, possibly empty. -/
def IsBlanks (cs : List Char) : Prop :=
  ∀ c ∈ cs, isBlank c = true

instance (cs : List Char) : Decidable (IsBlanks cs) :=
  decidable_of_iff (cs.all isBlank = true) List.all_eq_true

section Blanks

theorem startsOutside_isBlank_ident {name : List Char} (hname : IsIdent name)
    (rest : List Char) : StartsOutside isBlank (name ++ rest) := by
  obtain ⟨c, cs, rfl, hc, -⟩ := hname
  apply startsOutside_cons.mpr
  rw [Bool.eq_false_iff]
  intro hblank
  have hpart := isIdentPart_eq_false_of_isBlank hblank
  rw [isIdentPart_of_isIdentStart hc] at hpart
  exact absurd hpart (by decide)

theorem dropBlanks_append {blanks rest : List Char} (hblanks : IsBlanks blanks)
    (hrest : StartsOutside isBlank rest) : dropBlanks (blanks ++ rest) = rest :=
  hrest.dropWhile_run hblanks

/-- Blanks do not go on with an identifier. -/
theorem startsOutside_isIdentPart_blanks {blanks rest : List Char} (hblanks : IsBlanks blanks)
    (hrest : StartsOutside isIdentPart rest) : StartsOutside isIdentPart (blanks ++ rest) :=
  startsOutside_append hblanks (fun _ => isIdentPart_eq_false_of_isBlank) hrest

theorem dropBlanks_eq_nil {blanks : List Char} (hblanks : IsBlanks blanks) :
    dropBlanks blanks = [] := by
  simpa using dropBlanks_append hblanks (startsOutside_nil isBlank)

theorem IsBlanks.startsOutside_isIdentPart {blanks : List Char} (hblanks : IsBlanks blanks) :
    StartsOutside isIdentPart blanks := by
  simpa using startsOutside_isIdentPart_blanks hblanks (startsOutside_nil isIdentPart)

/-- A whole identifier behind blanks is found. -/
theorem identAfterBlanks?_ident {blanks param rest : List Char} (hblanks : IsBlanks blanks)
    (hparam : IsIdent param) (hrest : StartsOutside isIdentPart rest) :
    identAfterBlanks? (blanks ++ (param ++ rest)) = some param := by
  rw [identAfterBlanks?, dropBlanks_append hblanks (startsOutside_isBlank_ident hparam rest),
    takeIdent?_eq_some_iff.mpr ⟨hparam, rfl, hrest⟩]
  rfl

theorem identAfterBlanks?_eq_none {blanks rest : List Char} (hblanks : IsBlanks blanks)
    (hblank : StartsOutside isBlank rest) (hstart : StartsOutside isIdentStart rest) :
    identAfterBlanks? (blanks ++ rest) = none := by
  rw [identAfterBlanks?, dropBlanks_append hblanks hblank, takeIdent?_eq_none_iff.mpr hstart]
  rfl

theorem not_mem_blanks {blanks : List Char} (hblanks : IsBlanks blanks) {c : Char}
    (hc : isBlank c = false) : c ∉ blanks := by
  intro hmem
  rw [hblanks c hmem] at hc
  exact absurd hc (by decide)

theorem not_mem_ident {name : List Char} (hname : IsIdent name) {c : Char}
    (hc : isIdentPart c = false) : c ∉ name := by
  intro hmem
  rw [hname.isIdentPart_of_mem c hmem] at hc
  exact absurd hc (by decide)

theorem isIdent_async : IsIdent "async".toList :=
  ⟨'a', ['s', 'y', 'n', 'c'], rfl, by decide, List.all_eq_true.mp (by decide)⟩

theorem isIdent_function : IsIdent "function".toList :=
  ⟨'f', ['u', 'n', 'c', 't', 'i', 'o', 'n'], rfl, by decide, List.all_eq_true.mp (by decide)⟩

end Blanks

section Suffixes

theorem dropBlanks_suffix (cs : List Char) : dropBlanks cs <:+ cs :=
  List.dropWhile_suffix isBlank

theorem stripHead?_suffix {head cs rest : List Char} (hstrip : stripHead? head cs = some rest) :
    rest <:+ cs :=
  ⟨head, (stripHead?_eq_some_iff.mp hstrip).symm⟩

theorem skipAsyncWord_async {c : Char} (hc : isBlank c = true) (rest : List Char) :
    skipAsyncWord ("async".toList ++ c :: rest) = dropBlanks rest := by
  have hstrip : stripHead? "async".toList ("async".toList ++ c :: rest) = some (c :: rest) :=
    stripHead?_eq_some_iff.mpr rfl
  rw [skipAsyncWord, hstrip]
  exact if_pos hc

/-- The word `async` is passed over with the blanks behind it, and nothing else is. -/
theorem skipAsyncWord_cases (cs : List Char) :
    (∃ c rest, isBlank c = true ∧ cs = "async".toList ++ c :: rest ∧
      skipAsyncWord cs = dropBlanks rest) ∨ skipAsyncWord cs = cs := by
  rw [skipAsyncWord]
  cases hstrip : stripHead? "async".toList cs with
  | none => exact Or.inr rfl
  | some rest =>
      cases rest with
      | nil => exact Or.inr rfl
      | cons c rest =>
          by_cases hc : isBlank c = true
          · exact Or.inl ⟨c, rest, hc, stripHead?_eq_some_iff.mp hstrip, if_pos hc⟩
          · exact Or.inr (if_neg hc)

/-- Skipping `async` only takes characters off the front. -/
theorem skipAsyncWord_suffix (cs : List Char) : skipAsyncWord cs <:+ cs := by
  rcases skipAsyncWord_cases cs with ⟨c, rest, -, hcs, hskip⟩ | hskip
  · have hrest : c :: rest <:+ cs := ⟨"async".toList, hcs.symm⟩
    rw [hskip]
    exact (dropBlanks_suffix rest).trans ((List.suffix_cons c rest).trans hrest)
  · simp [hskip]

theorem takeIdent?_suffix {cs name rest : List Char} (htake : takeIdent? cs = some (name, rest)) :
    rest <:+ cs :=
  ⟨name, takeIdent?_append htake⟩

end Suffixes

section Marks

variable {mark : Char} {behind : List Char}

/-- A character that is no blank and belongs to no name, such as a parenthesis. -/
structure IsMark (mark : Char) : Prop where
  isBlank_eq : isBlank mark = false
  isIdentPart_eq : isIdentPart mark = false

theorem isMark_paren : IsMark '(' := ⟨by decide, by decide⟩

theorem isMark_equals : IsMark '=' := ⟨by decide, by decide⟩

/-- No mark goes on with a word, so a word is looked for in the text in front of it. -/
theorem IsMark.startsOutside_mem (hmark : IsMark mark) {word : List Char}
    (hword : IsIdent word) (behind : List Char) : StartsOutside (· ∈ word) (mark :: behind) := by
  apply startsOutside_cons.mpr
  exact decide_eq_false (not_mem_ident hword hmark.isIdentPart_eq)

theorem dropBlanks_append_mark (hmark : IsMark mark) (front : List Char) :
    dropBlanks (front ++ mark :: behind) = dropBlanks front ++ mark :: behind :=
  StartsOutside.dropWhile_append (startsOutside_cons.mpr hmark.isBlank_eq) front

theorem takeIdent?_append_mark (hmark : IsMark mark) (front : List Char) :
    takeIdent? (front ++ mark :: behind) =
      (takeIdent? front).map fun found => (found.1, found.2 ++ mark :: behind) :=
  takeIdent?_append_of_startsOutside (startsOutside_cons.mpr hmark.isIdentPart_eq) front

theorem skipAsyncWord_append_mark (hmark : IsMark mark) (front : List Char) :
    skipAsyncWord (front ++ mark :: behind) = skipAsyncWord front ++ mark :: behind := by
  rw [skipAsyncWord, skipAsyncWord,
    stripHead?_append (hmark.startsOutside_mem isIdent_async behind)]
  cases hstrip : stripHead? "async".toList front with
  | none => rfl
  | some rest =>
      cases rest with
      | nil => simp [hmark.isBlank_eq]
      | cons c rest =>
          by_cases hc : isBlank c = true
          · simp [hc, dropBlanks_append_mark hmark]
          · simp [hc]

end Marks

section FirstList

variable {mark : Char} {front behind : List Char}

/-- Whether the text in front of a parenthesis makes it the list of a function expression. -/
def opensFunction (front : List Char) : Bool :=
  (stripHead? "function".toList (skipAsyncWord (dropBlanks front))).any fun rest =>
    !rest.head?.any isWordChar

/-- Whether a text is nothing but a name and blanks, or empty. -/
def isName (cs : List Char) : Bool :=
  match takeIdent? cs with
  | some (_, rest) => (dropBlanks rest).isEmpty
  | none => cs.isEmpty

/-- Whether the text in front of a parenthesis makes it the list of an arrow function or of a
method. -/
def opensNamed (front : List Char) : Bool :=
  ((stripHead? "async".toList (dropBlanks front)).any fun rest => isName (dropBlanks rest)) ||
    isName (dropBlanks front)

theorem functionParam?_eq (cs : List Char) :
    functionParam? cs =
      (stripHead? "function".toList (skipAsyncWord (dropBlanks cs))).bind fun rest =>
        if rest.head?.any isWordChar then none
        else firstParam? (rest.dropWhile (· != '(')) := rfl

theorem any_isWordChar_append_mark (hmark : IsMark mark) (rest : List Char) :
    (rest ++ mark :: behind).head?.any isWordChar = rest.head?.any isWordChar := by
  cases rest with
  | nil =>
      have hpart := hmark.isIdentPart_eq
      rw [isIdentPart, Bool.or_eq_false_iff] at hpart
      exact hpart.1
  | cons c rest => rfl

/-- A function expression is read behind its word, up to the first parenthesis. -/
theorem functionParam?_append_mark (hmark : IsMark mark) (front : List Char) :
    functionParam? (front ++ mark :: behind) =
      (stripHead? "function".toList (skipAsyncWord (dropBlanks front))).bind fun rest =>
        if rest.head?.any isWordChar then none
        else firstParam? ((rest ++ mark :: behind).dropWhile (· != '(')) := by
  rw [functionParam?_eq, dropBlanks_append_mark hmark, skipAsyncWord_append_mark hmark,
    stripHead?_append (hmark.startsOutside_mem isIdent_function behind)]
  cases stripHead? "function".toList (skipAsyncWord (dropBlanks front)) with
  | none => rfl
  | some rest =>
      rw [Option.map_some, Option.bind_some, Option.bind_some,
        any_isWordChar_append_mark hmark]

theorem functionParam?_append_of_not_opens (hmark : IsMark mark)
    (hfront : opensFunction front = false) : functionParam? (front ++ mark :: behind) = none := by
  rw [functionParam?_append_mark hmark]
  rw [opensFunction] at hfront
  cases hstrip : stripHead? "function".toList (skipAsyncWord (dropBlanks front)) with
  | none => rfl
  | some rest =>
      rw [hstrip, Option.any_some, Bool.not_eq_false'] at hfront
      rw [Option.bind_some, if_pos hfront]

/-- At the first parenthesis it is told whether a function's list opens; the parameter is behind it. -/
theorem functionParam?_append_paren (hfront : '(' ∉ front) :
    functionParam? (front ++ '(' :: behind) =
      if opensFunction front then identAfterBlanks? behind else none := by
  rw [functionParam?_append_mark isMark_paren, opensFunction]
  cases hstrip : stripHead? "function".toList (skipAsyncWord (dropBlanks front)) with
  | none => rfl
  | some rest =>
      have hsuffix : rest <:+ front :=
        (stripHead?_suffix hstrip).trans
          ((skipAsyncWord_suffix _).trans (dropBlanks_suffix front))
      have hrest : ∀ c ∈ rest, (c != '(') = true := by
        intro c hc
        simpa using fun heq : c = '(' => hfront (hsuffix.subset (heq ▸ hc))
      have hdrop : (rest ++ '(' :: behind).dropWhile (· != '(') = '(' :: behind :=
        StartsOutside.dropWhile_run (startsOutside_cons.mpr (by decide)) hrest
      rw [Option.bind_some, Option.any_some, hdrop]
      cases rest.head?.any isWordChar with
      | false => rfl
      | true => rfl

theorem firstParam?_append (hfront : '(' ∉ front) :
    firstParam? (front ++ behind) = if front.isEmpty then firstParam? behind else none := by
  cases front with
  | nil => rfl
  | cons c front =>
      have hc : c ≠ '(' := fun heq => hfront (heq ▸ List.mem_cons_self)
      rw [List.cons_append, firstParam?]
      · rfl
      · intro rest heq
        exact hc (List.cons.inj heq).1

/-- In front of the first parenthesis nothing but a name and blanks may stand. -/
theorem namedListParam?_append_mark (hmark : IsMark mark) (hfront : '(' ∉ front) :
    namedListParam? (front ++ mark :: behind) =
      if isName front then firstParam? (mark :: behind) else none := by
  rw [namedListParam?, takeIdent?_append_mark hmark, isName]
  cases htake : takeIdent? front with
  | none => exact firstParam?_append hfront
  | some found =>
      have hsuffix : dropBlanks found.2 <:+ front :=
        (dropBlanks_suffix found.2).trans (takeIdent?_suffix htake)
      rw [Option.map_some]
      simp only [dropBlanks_append_mark hmark]
      exact firstParam?_append fun hmem => hfront (hsuffix.subset hmem)

theorem ite_or_ite_none {Found : Type} (left right : Bool) (found : Option Found) :
    (if left then found else none).or (if right then found else none) =
      if left || right then found else none := by
  cases left with
  | false => rw [if_neg Bool.false_ne_true, Option.none_or, Bool.false_or]
  | true =>
      cases right with
      | false => rw [Bool.or_false, if_neg Bool.false_ne_true, Option.or_none]
      | true => rw [Bool.or_true, if_pos rfl, Option.or_self]

/-- An arrow function with parentheses or a method is read at the first mark, if a parenthesis
stands there. -/
theorem listParam?_append_mark (hmark : IsMark mark) (hfront : '(' ∉ front) :
    listParam? (front ++ mark :: behind) =
      if opensNamed front then firstParam? (mark :: behind) else none := by
  have hstart : '(' ∉ dropBlanks front := fun hmem => hfront ((dropBlanks_suffix front).subset hmem)
  rw [listParam?, dropBlanks_append_mark hmark,
    stripHead?_append (hmark.startsOutside_mem isIdent_async behind), opensNamed,
    namedListParam?_append_mark hmark hstart]
  cases hstrip : stripHead? "async".toList (dropBlanks front) with
  | none => rfl
  | some rest =>
      have hrest : '(' ∉ dropBlanks rest := fun hmem =>
        hstart ((stripHead?_suffix hstrip).subset ((dropBlanks_suffix rest).subset hmem))
      rw [Option.map_some, Option.bind_some, dropBlanks_append_mark hmark,
        namedListParam?_append_mark hmark hrest, Option.any_some, ite_or_ite_none]

theorem bareParam?_eq (cs : List Char) :
    bareParam? cs =
      (takeIdent? cs).bind fun found =>
        (stripHead? ['=', '>'] (dropBlanks found.2)).map fun _ => found.1 := by
  rw [bareParam?]
  cases takeIdent? cs with
  | none => rfl
  | some found =>
      change (stripHead? ['=', '>'] (dropBlanks found.2)).bind (fun _ => some found.1) = _
      cases hstrip : stripHead? ['=', '>'] (dropBlanks found.2) with
      | none => simp [hstrip]
      | some rest => simp [hstrip]

theorem bareParam?_append_paren (hfront : '=' ∉ front) :
    bareParam? (front ++ '(' :: behind) = none := by
  rw [bareParam?_eq, takeIdent?_append_mark isMark_paren]
  cases htake : takeIdent? front with
  | none => rfl
  | some found =>
      have hsuffix : dropBlanks found.2 <:+ front :=
        (dropBlanks_suffix found.2).trans (takeIdent?_suffix htake)
      have harrow : stripHead? ['=', '>'] (dropBlanks found.2 ++ '(' :: behind) = none := by
        cases hrest : dropBlanks found.2 with
        | nil => rfl
        | cons c rest =>
            have hc : '=' ≠ c := by
              rintro rfl
              exact hfront (hsuffix.subset (hrest ▸ List.mem_cons_self))
            exact if_neg hc
      rw [Option.map_some, Option.bind_some, dropBlanks_append_mark isMark_paren, harrow]
      rfl

/-- Without an arrow in front of the first parenthesis no bare parameter is read. -/
theorem arrowParam?_append_paren (hfront : '=' ∉ front) :
    arrowParam? (front ++ '(' :: behind) = none := by
  have hstart : '=' ∉ dropBlanks front := fun hmem =>
    hfront ((dropBlanks_suffix front).subset hmem)
  have hword : '=' ∉ skipAsyncWord (dropBlanks front) := fun hmem =>
    hstart ((skipAsyncWord_suffix _).subset hmem)
  rw [arrowParam?, dropBlanks_append_mark isMark_paren, skipAsyncWord_append_mark isMark_paren,
    bareParam?_append_paren hword, bareParam?_append_paren hstart]
  rfl

/-- The name that stands where one of the forms has its parameter. -/
def shownIdent? (cs : List Char) : Option (List Char) :=
  ((functionParam? cs).or (listParam? cs)).or (arrowParam? cs)

/-- The forms are tried first, and what they find is dropped if it is a keyword. -/
theorem requestIdent?_eq (source : String) :
    requestIdent? source = (shownIdent? source.toList).bind fun name =>
      if isKeyword name then none else some (String.ofList name) := rfl

/-- All forms that read a list read the one that opens first. -/
theorem shownIdent?_append_paren (hparen : '(' ∉ front) (hequals : '=' ∉ front) :
    shownIdent? (front ++ '(' :: behind) =
      if opensFunction front || opensNamed front then identAfterBlanks? behind else none := by
  have hlist : firstParam? ('(' :: behind) = identAfterBlanks? behind := rfl
  rw [shownIdent?, functionParam?_append_paren hparen, listParam?_append_mark isMark_paren hparen,
    hlist, arrowParam?_append_paren hequals, Option.or_none, ite_or_ite_none]

end FirstList

end RouteAtlas.Source
