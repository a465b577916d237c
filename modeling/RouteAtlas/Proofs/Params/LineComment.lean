import RouteAtlas.Params.Comment
import RouteAtlas.Proofs.Text.Matches
import RouteAtlas.Proofs.Text.Pieces

/-!
# Taking out line comments

Line comments can be taken out by reading one character at a time and remembering whether a
comment is open.  A new line closes it, so a text is read line by line; and a line ends, as
far as the reader sees, where two slashes stand that nothing protects.
-/

namespace RouteAtlas.Source

open Text

/-- Whether a line comment starts with a character and the text behind it. -/
def StartsLineComment (before : Option Char) (c : Char) (cs : List Char) : Prop :=
  c = '/' ∧ cs.head? = some '/' ∧ protectsSlashes before = false

instance (before : Option Char) (c : Char) (cs : List Char) :
    Decidable (StartsLineComment before c cs) :=
  inferInstanceAs (Decidable (_ ∧ _ ∧ _))

/-- A text without its line comments; at first inside a comment or not. -/
def cutLines : (inside : Bool) → (before : Option Char) → List Char → List Char
  | _, _, [] => []
  | true, _, c :: cs =>
    if c = '\n' then c :: cutLines false (some c) cs else cutLines true (some c) cs
  | false, before, c :: cs =>
    if StartsLineComment before c cs then cutLines true (some c) cs
    else c :: cutLines false (some c) cs

theorem cutLines_of_starts {before : Option Char} {c : Char} {cs : List Char}
    (hstarts : StartsLineComment before c cs) :
    cutLines false before (c :: cs) = cutLines true (some c) cs := by
  rw [cutLines, if_pos hstarts]

theorem cutLines_of_not_starts {before : Option Char} {c : Char} {cs : List Char}
    (hstarts : ¬ StartsLineComment before c cs) :
    cutLines false before (c :: cs) = c :: cutLines false (some c) cs := by
  rw [cutLines, if_neg hstarts]

theorem not_startsLineComment {c : Char} (hc : c ≠ '/') (before : Option Char)
    (cs : List Char) : ¬ StartsLineComment before c cs :=
  fun hstarts => hc hstarts.1

theorem lineComment_of_starts {before : Option Char} {c : Char} {cs : List Char}
    (hstarts : StartsLineComment before c cs) :
    lineComment before (c :: cs) = some ((), (cs.takeWhile (· != '\n')).length + 1) := by
  obtain ⟨rfl, hslash, hfree⟩ := hstarts
  obtain ⟨rest, rfl⟩ := List.head?_eq_some_iff.mp hslash
  have hrest : ('/' :: rest).takeWhile (· != '\n') = '/' :: rest.takeWhile (· != '\n') := rfl
  rw [lineComment, hfree, hrest, List.length_cons, Nat.add_comm 2]
  rfl

theorem lineComment_of_not_starts {before : Option Char} {c : Char} {cs : List Char}
    (hstarts : ¬ StartsLineComment before c cs) : lineComment before (c :: cs) = none := by
  obtain ⟨rest, rfl, rfl⟩ | hc := starts_cases '/' '/' c cs
  · have hprotected : protectsSlashes before = true := by
      by_cases hfree : protectsSlashes before = false
      · exact absurd ⟨rfl, rfl, hfree⟩ hstarts
      · simpa using hfree
    rw [lineComment, if_pos hprotected]
  · unfold lineComment
    split
    · next heq =>
        obtain ⟨rfl, rfl⟩ := List.cons.inj heq
        exact absurd rfl (hc rfl)
    · rfl

/-- By one induction: what is written outside a comment, and what is written inside one. -/
theorem rewriteFrom_lineComment (before : Option Char) (cs : List Char) :
    rewriteFrom lineComment (fun _ => []) 0 before cs = cutLines false before cs ∧
      rewriteFrom lineComment (fun _ => []) (cs.takeWhile (· != '\n')).length before cs =
        cutLines true before cs := by
  induction cs generalizing before with
  | nil => simp [cutLines]
  | cons c cs ih =>
      obtain ⟨houtside, hinside⟩ := ih (some c)
      constructor
      · by_cases hstarts : StartsLineComment before c cs
        · rw [rewriteFrom_of_some _ (lineComment_of_starts hstarts),
            cutLines_of_starts hstarts, ← hinside]
          rfl
        · rw [rewriteFrom_of_none _ (lineComment_of_not_starts hstarts),
            cutLines_of_not_starts hstarts, houtside]
      · by_cases hline : c = '\n'
        · subst hline
          have hnone : lineComment before ('\n' :: cs) = none :=
            lineComment_of_not_starts (not_startsLineComment (by decide) before cs)
          rw [List.takeWhile_cons_of_neg (by decide), List.length_nil,
            rewriteFrom_of_none _ hnone, houtside]
          rfl
        · rw [List.takeWhile_cons_of_pos (by simpa using hline), List.length_cons,
            rewriteFrom_skip, hinside, cutLines, if_neg hline]

/-- Line comments can be taken out in one pass that only knows whether it is inside one. -/
theorem stripLines_eq_cutLines (cs : List Char) : stripLines cs = cutLines false none cs := by
  rw [stripLines, replaceMatches_eq_rewriteFrom]
  exact (rewriteFrom_lineComment none cs).1

theorem cutLines_inside {line : List Char} (hline : '\n' ∉ line) (before : Option Char) :
    cutLines true before line = [] := by
  induction line generalizing before with
  | nil => rfl
  | cons c cs ih =>
      rw [List.mem_cons, not_or] at hline
      rw [cutLines, if_neg (Ne.symm hline.1), ih hline.2]

/-- Text behind makes no difference to where a comment starts, unless it brings the second slash. -/
theorem startsLineComment_append {before : Option Char} {c : Char} {cs rest : List Char}
    (hseam : cs ≠ [] ∨ c ≠ '/' ∨ rest.head? ≠ some '/') :
    StartsLineComment before c (cs ++ rest) ↔ StartsLineComment before c cs := by
  cases cs with
  | nil =>
      rw [List.nil_append]
      constructor
      · rintro ⟨hc, hslash, -⟩
        obtain hne | hne | hne := hseam
        · exact absurd rfl hne
        · exact absurd hc hne
        · exact absurd hslash hne
      · rintro ⟨-, hslash, -⟩
        simp at hslash
  | cons d cs => exact Iff.rfl

/-- A new line ends every line comment: the lines are read one by one. -/
theorem cutLines_append_newline (inside : Bool) (before : Option Char)
    (left right : List Char) :
    cutLines inside before (left ++ '\n' :: right) =
      cutLines inside before left ++ '\n' :: cutLines false (some '\n') right := by
  induction left generalizing inside before with
  | nil =>
      cases inside with
      | true => rfl
      | false => exact cutLines_of_not_starts (not_startsLineComment (by decide) before right)
  | cons c cs ih =>
      have hstarts : StartsLineComment before c (cs ++ '\n' :: right) ↔
          StartsLineComment before c cs :=
        startsLineComment_append (Or.inr (Or.inr (by simp)))
      cases inside with
      | true =>
          rw [List.cons_append, cutLines, cutLines, ih, ih]
          by_cases hline : c = '\n'
          · rw [if_pos hline, if_pos hline, List.cons_append]
          · rw [if_neg hline, if_neg hline]
      | false =>
          by_cases hcut : StartsLineComment before c cs
          · rw [List.cons_append, cutLines_of_starts (hstarts.mpr hcut),
              cutLines_of_starts hcut, ih]
          · rw [List.cons_append, cutLines_of_not_starts fun h => hcut (hstarts.mp h),
              cutLines_of_not_starts hcut, ih, List.cons_append]

/-- The end of a line is cut where two slashes stand that its last character does not change. -/
theorem cutLines_append_comment {left line : List Char} (hline : '\n' ∉ line) (inside : Bool)
    (before : Option Char)
    (hlast : ∀ last, left.getLast?.or before = some last → last ∉ [':', '\\', '/']) :
    cutLines inside before (left ++ '/' :: '/' :: line) = cutLines inside before left := by
  have hcomment : '\n' ∉ '/' :: '/' :: line := by simpa using hline
  induction left generalizing inside before with
  | nil =>
      cases inside with
      | true => exact cutLines_inside hcomment before
      | false =>
          have hfree : protectsSlashes before = false := by
            cases before with
            | none => rfl
            | some last =>
                have hmem := hlast last rfl
                simp only [List.mem_cons, not_or] at hmem
                simp [protectsSlashes, hmem.1, hmem.2.1]
          rw [List.nil_append, cutLines_of_starts ⟨rfl, rfl, hfree⟩]
          exact cutLines_inside (fun h => hcomment (List.mem_cons_of_mem _ h)) (some '/')
  | cons c cs ih =>
      have hrest : ∀ last, cs.getLast?.or (some c) = some last → last ∉ [':', '\\', '/'] := by
        intro last hmem
        refine hlast last ?_
        rw [List.getLast?_cons, Option.some_or, ← hmem]
        cases cs.getLast? with
        | none => rfl
        | some d => rfl
      cases inside with
      | true => rw [List.cons_append, cutLines, cutLines, ih _ _ hrest, ih _ _ hrest]
      | false =>
          have hseam : cs ≠ [] ∨ c ≠ '/' ∨ ('/' :: '/' :: line).head? ≠ some '/' := by
            cases cs with
            | nil =>
                refine Or.inr (Or.inl ?_)
                rintro rfl
                exact absurd (hrest '/' rfl) (by decide)
            | cons d cs => exact Or.inl (List.cons_ne_nil d cs)
          have hstarts : StartsLineComment before c (cs ++ '/' :: '/' :: line) ↔
              StartsLineComment before c cs :=
            startsLineComment_append hseam
          by_cases hcut : StartsLineComment before c cs
          · rw [List.cons_append, cutLines_of_starts (hstarts.mpr hcut),
              cutLines_of_starts hcut, ih _ _ hrest]
          · rw [List.cons_append, cutLines_of_not_starts fun h => hcut (hstarts.mp h),
              cutLines_of_not_starts hcut, ih _ _ hrest]

theorem cutLines_slash_slash {line : List Char} (hline : '\n' ∉ line)
    (hslash : line.head? = some '/') : cutLines false none ('/' :: line) = [] := by
  rw [cutLines_of_starts ⟨rfl, hslash, rfl⟩]
  exact cutLines_inside hline (some '/')

theorem cutLines_slash {line : List Char} (hslash : line.head? ≠ some '/') :
    cutLines false none ('/' :: line) = '/' :: cutLines false (some '/') line :=
  cutLines_of_not_starts fun hstarts => hslash hstarts.2.1

end RouteAtlas.Source
