import RouteAtlas.Text.Matches

/-!
# Reading matches piece by piece

A text that is read for matches can be read in pieces where no match reaches from one piece
into the next.  Two kinds of matchers allow this.  A blind matcher does not ask what stands
before a place, so reading goes on after a match as if the text began there.  A matcher that
stays before a mark finds nothing that reaches the mark, so every mark is read as itself and
the text behind it is read on its own, with the mark before it.
-/

namespace RouteAtlas.Text

variable {Item : Type}

/-- A matcher for which the character before a place makes no difference. -/
def Matcher.Blind (find : Matcher Item) : Prop :=
  ∀ before cs, find before cs = find none cs

/-- A matcher whose finds end before the next `mark`. -/
structure Matcher.StaysBefore (mark : Char) (find : Matcher Item) : Prop where
  find_nil : ∀ before, find before [] = none
  find_append : ∀ before cs rest, find before (cs ++ mark :: rest) = find before cs
  size_le : ∀ before cs item size, find before cs = some (item, size) → size ≤ cs.length

section Blind

variable {find : Matcher Item}

@[simp]
theorem matchesIn_nil (find : Matcher Item) : matchesIn find [] = [] := rfl

@[simp]
theorem replaceMatches_nil (find : Matcher Item) (write : Item → List Char) :
    replaceMatches find write [] = [] := rfl

/-- A matcher that does not look back reads on in the same way behind any character. -/
theorem readMatches_eq_of_blind (hblind : Matcher.Blind find) (skip : Nat)
    (left right : Option Char) (cs : List Char) :
    readMatches find skip left cs = readMatches find skip right cs := by
  cases cs with
  | nil => rw [readMatches, readMatches]
  | cons c cs =>
      cases skip with
      | zero => simp only [readMatches, hblind left, hblind right]
      | succ skip => rw [readMatches_skip, readMatches_skip]

/-- A matcher that does not look back reads on behind a match as if the text began there. -/
theorem readMatches_eq_matchesIn_drop (hblind : Matcher.Blind find) (skip : Nat)
    (before : Option Char) (cs : List Char) :
    readMatches find skip before cs = matchesIn find (cs.drop skip) := by
  induction cs generalizing skip before with
  | nil => simp [readMatches]
  | cons c cs ih =>
      cases skip with
      | zero => exact readMatches_eq_of_blind hblind 0 before none (c :: cs)
      | succ skip =>
          rw [readMatches_skip, ih]
          rfl

theorem matchesIn_cons_of_none (hblind : Matcher.Blind find) {c : Char} {cs : List Char}
    (hfind : find none (c :: cs) = none) :
    matchesIn find (c :: cs) = .inl c :: matchesIn find cs := by
  rw [matchesIn, readMatches, hfind]
  rw [readMatches_eq_of_blind hblind 0 (some c) none]
  rfl

theorem matchesIn_cons_of_some (hblind : Matcher.Blind find) {c : Char} {cs : List Char}
    {item : Item} {size : Nat} (hfind : find none (c :: cs) = some (item, size)) :
    matchesIn find (c :: cs) = .inr item :: matchesIn find (cs.drop (size - 1)) := by
  rw [matchesIn, readMatches, hfind]
  simp only [readMatches_eq_matchesIn_drop hblind]

theorem replaceMatches_cons_of_none (hblind : Matcher.Blind find)
    (write : Item → List Char) {c : Char} {cs : List Char}
    (hfind : find none (c :: cs) = none) :
    replaceMatches find write (c :: cs) = c :: replaceMatches find write cs := by
  rw [replaceMatches, matchesIn_cons_of_none hblind hfind]
  rfl

theorem replaceMatches_cons_of_some (hblind : Matcher.Blind find)
    (write : Item → List Char) {c : Char} {cs : List Char} {item : Item} {size : Nat}
    (hfind : find none (c :: cs) = some (item, size)) :
    replaceMatches find write (c :: cs) =
      write item ++ replaceMatches find write (cs.drop (size - 1)) := by
  rw [replaceMatches, matchesIn_cons_of_some hblind hfind]
  rfl

theorem itemsIn_cons_of_none (hblind : Matcher.Blind find) {c : Char} {cs : List Char}
    (hfind : find none (c :: cs) = none) : itemsIn find (c :: cs) = itemsIn find cs := by
  rw [itemsIn, matchesIn_cons_of_none hblind hfind]
  rfl

theorem itemsIn_cons_of_some (hblind : Matcher.Blind find) {c : Char} {cs : List Char}
    {item : Item} {size : Nat} (hfind : find none (c :: cs) = some (item, size)) :
    itemsIn find (c :: cs) = item :: itemsIn find (cs.drop (size - 1)) := by
  rw [itemsIn, matchesIn_cons_of_some hblind hfind]
  rfl

/-- A text is read off character by character and match by match. -/
@[elab_as_elim]
theorem match_induction (find : Matcher Item) {motive : List Char → Prop}
    (nil : motive [])
    (char : ∀ c cs, find none (c :: cs) = none → motive cs → motive (c :: cs))
    (item : ∀ c cs item size, find none (c :: cs) = some (item, size) →
      motive (cs.drop (size - 1)) → motive (c :: cs))
    (cs : List Char) : motive cs := by
  -- A match may cover any number of characters, so the induction is on the length.
  induction hlength : cs.length using Nat.strongRecOn generalizing cs with
  | ind length ih =>
      cases cs with
      | nil => exact nil
      | cons c cs =>
          have hshorter (rest : List Char) (hle : rest.length ≤ cs.length) : motive rest :=
            ih rest.length (by rw [← hlength, List.length_cons]; omega) rest rfl
          cases hfind : find none (c :: cs) with
          | none => exact char c cs hfind (hshorter cs (Nat.le_refl _))
          | some found =>
              refine item c cs found.1 found.2 hfind (hshorter _ ?_)
              rw [List.length_drop]
              omega

end Blind

section Rewriting

variable (find : Matcher Item) (write : Item → List Char)

/-- What is written from a place on, after passing over the first `skip` characters. -/
def rewriteFrom (skip : Nat) (before : Option Char) (cs : List Char) : List Char :=
  (readMatches find skip before cs).flatMap fun
    | .inl c => [c]
    | .inr item => write item

theorem replaceMatches_eq_rewriteFrom (cs : List Char) :
    replaceMatches find write cs = rewriteFrom find write 0 none cs := rfl

@[simp]
theorem rewriteFrom_nil (skip : Nat) (before : Option Char) :
    rewriteFrom find write skip before [] = [] := by
  rw [rewriteFrom, readMatches, List.flatMap_nil]

theorem rewriteFrom_skip (skip : Nat) (before : Option Char) (c : Char) (cs : List Char) :
    rewriteFrom find write (skip + 1) before (c :: cs) =
      rewriteFrom find write skip (some c) cs := rfl

variable {find}

theorem rewriteFrom_of_none {before : Option Char} {c : Char} {cs : List Char}
    (hfind : find before (c :: cs) = none) :
    rewriteFrom find write 0 before (c :: cs) = c :: rewriteFrom find write 0 (some c) cs := by
  rw [rewriteFrom, readMatches, hfind]
  rfl

theorem rewriteFrom_of_some {before : Option Char} {c : Char} {cs : List Char} {item : Item}
    {size : Nat} (hfind : find before (c :: cs) = some (item, size)) :
    rewriteFrom find write 0 before (c :: cs) =
      write item ++ rewriteFrom find write (size - 1) (some c) cs := by
  rw [rewriteFrom, readMatches, hfind]
  rfl

variable (find)

/-- Taking items out leaves characters of the text, in their order. -/
theorem rewriteFrom_sublist (skip : Nat) (before : Option Char) (cs : List Char) :
    (rewriteFrom find (fun _ => []) skip before cs).Sublist cs := by
  induction cs generalizing skip before with
  | nil => simp
  | cons c cs ih =>
      cases skip with
      | succ skip => exact (ih skip (some c)).cons c
      | zero =>
          cases hfind : find before (c :: cs) with
          | none =>
              rw [rewriteFrom_of_none _ hfind]
              exact (ih 0 (some c)).cons_cons c
          | some found =>
              rw [rewriteFrom_of_some _ hfind]
              exact (ih (found.2 - 1) (some c)).cons c

end Rewriting

section StaysBefore

variable {mark : Char} {find : Matcher Item}

/-- At a mark the reader stands at the mark, whatever it has found before. -/
theorem readMatches_append_mark (hstays : Matcher.StaysBefore mark find) (skip : Nat)
    (before : Option Char) (cs rest : List Char) (hskip : skip ≤ cs.length) :
    readMatches find skip before (cs ++ mark :: rest) =
      readMatches find skip before cs ++
        .inl mark :: readMatches find 0 (some mark) rest := by
  induction cs generalizing skip before with
  | nil =>
      have hmark : find before (mark :: rest) = none := by
        have happend := hstays.find_append before [] rest
        rwa [hstays.find_nil before] at happend
      obtain rfl : skip = 0 := by simpa using hskip
      simp [readMatches, hmark]
  | cons c cs ih =>
      cases skip with
      | succ skip =>
          rw [List.cons_append, readMatches_skip, readMatches_skip]
          exact ih skip (some c) (by simpa using hskip)
      | zero =>
          have happend := hstays.find_append before (c :: cs) rest
          rw [List.cons_append] at happend
          simp only [List.cons_append, readMatches, happend]
          cases hfind : find before (c :: cs) with
          | none => simp only [List.cons_append, ih 0 (some c) (Nat.zero_le _)]
          | some found =>
              obtain ⟨item, size⟩ := found
              have hsize := hstays.size_le before (c :: cs) item size hfind
              rw [List.length_cons] at hsize
              simp only [List.cons_append, ih (size - 1) (some c) (by omega)]

/-- A mark that a matcher does not reach over cuts the text in two. -/
theorem matchesIn_append_mark (hstays : Matcher.StaysBefore mark find)
    (cs rest : List Char) :
    matchesIn find (cs ++ mark :: rest) =
      matchesIn find cs ++ .inl mark :: readMatches find 0 (some mark) rest :=
  readMatches_append_mark hstays 0 none cs rest (Nat.zero_le _)

end StaysBefore

end RouteAtlas.Text
