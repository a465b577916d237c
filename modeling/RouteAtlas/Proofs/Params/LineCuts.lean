import Mathlib.Data.List.Forall2
import RouteAtlas.Proofs.Params.BlockComment
import RouteAtlas.Proofs.Params.LineComment
import RouteAtlas.Proofs.Text.Words

/-!
# Where sources are cut

Taking comments out of a source invents nothing: what is left is a subsequence of the source, and
two slashes in it stand behind a colon or a backslash.  A source in which no block comment starts
keeps its lines, each of them up to the first two slashes that nothing protects.
-/

namespace RouteAtlas.Source

open Text

/-- Whether two slashes stand in a text behind `front`, with no colon or backslash directly before
them.  In front of the text stands `before`, or nothing. -/
def FreeSlashes (before : Option Char) (cs front : List Char) : Prop :=
  (∃ rest, cs = front ++ '/' :: '/' :: rest) ∧
    front.getLast?.or before ≠ some ':' ∧ front.getLast?.or before ≠ some '\\'

/-- What is kept of a line: the text before its first free slashes, or all of it where it has
none. -/
inductive CutTo (before : Option Char) (line : List Char) : List Char → Prop
  | whole (hnone : ∀ front, ¬ FreeSlashes before line front) : CutTo before line line
  | cut {kept : List Char} (hfree : FreeSlashes before line kept)
      (hfirst : ∀ front, FreeSlashes before line front → kept.length ≤ front.length) :
      CutTo before line kept

section FreeSlashes

variable {before : Option Char} {c : Char} {cs : List Char}

theorem protectsSlashes_eq_false_iff :
    protectsSlashes before = false ↔ before ≠ some ':' ∧ before ≠ some '\\' := by
  rw [protectsSlashes, Bool.or_eq_false_iff, beq_eq_false_iff_ne, beq_eq_false_iff_ne]

theorem not_freeSlashes_nil (before : Option Char) (front : List Char) :
    ¬ FreeSlashes before [] front := by
  rintro ⟨⟨rest, hslashes⟩, -⟩
  simp at hslashes

/-- Free slashes at the front of a text are the start of a line comment. -/
theorem freeSlashes_nil_iff :
    FreeSlashes before (c :: cs) [] ↔ StartsLineComment before c cs := by
  rw [StartsLineComment, protectsSlashes_eq_false_iff]
  constructor
  · rintro ⟨⟨rest, hslashes⟩, hfree⟩
    obtain ⟨rfl, rfl⟩ := List.cons.inj hslashes
    exact ⟨rfl, rfl, hfree⟩
  · rintro ⟨rfl, hslash, hfree⟩
    obtain ⟨rest, rfl⟩ := List.head?_eq_some_iff.mp hslash
    exact ⟨⟨rest, rfl⟩, hfree⟩

theorem freeSlashes_cons_iff {d : Char} {front : List Char} :
    FreeSlashes before (c :: cs) (d :: front) ↔ c = d ∧ FreeSlashes (some c) cs front := by
  have hlast : (d :: front).getLast?.or before = front.getLast?.or (some d) := by
    rw [List.getLast?_cons, Option.some_or]
    cases front.getLast? with
    | none => rfl
    | some last => rfl
  rw [FreeSlashes, FreeSlashes, hlast]
  constructor
  · rintro ⟨⟨rest, hslashes⟩, hfree⟩
    obtain ⟨rfl, hrest⟩ := List.cons.inj hslashes
    exact ⟨rfl, ⟨rest, hrest⟩, hfree⟩
  · rintro ⟨rfl, ⟨rest, rfl⟩, hfree⟩
    exact ⟨⟨rest, rfl⟩, hfree⟩

/-- A text has no free slashes if none are behind its first character and no comment starts there. -/
theorem not_freeSlashes_cons (hstarts : ¬ StartsLineComment before c cs)
    (hnone : ∀ front, ¬ FreeSlashes (some c) cs front) (front : List Char) :
    ¬ FreeSlashes before (c :: cs) front := by
  cases front with
  | nil => exact fun hfree => hstarts (freeSlashes_nil_iff.mp hfree)
  | cons d front => exact fun hfree => hnone front (freeSlashes_cons_iff.mp hfree).2

end FreeSlashes

section Kept

theorem cutLines_sublist (cs : List Char) : (cutLines false none cs).Sublist cs := by
  rw [← stripLines_eq_cutLines, stripLines, replaceMatches_eq_rewriteFrom]
  exact rewriteFrom_sublist lineComment 0 none cs

theorem head?_of_head?_cutLines {before : Option Char} {cs : List Char}
    (hhead : (cutLines false before cs).head? = some '/') : cs.head? = some '/' := by
  cases cs with
  | nil => exact hhead
  | cons c cs =>
      by_cases hstarts : StartsLineComment before c cs
      · exact congrArg some hstarts.1
      · rwa [cutLines_of_not_starts hstarts] at hhead

/-- Outside a comment no free slashes are kept; inside one nothing is kept before the new line, so
that it makes no difference what stands in front. -/
theorem not_freeSlashes_cutLines (before : Option Char) (cs : List Char) :
    (∀ front, ¬ FreeSlashes before (cutLines false before cs) front) ∧
      ∀ shown front, ¬ FreeSlashes shown (cutLines true before cs) front := by
  induction cs generalizing before with
  | nil => exact ⟨not_freeSlashes_nil before, not_freeSlashes_nil⟩
  | cons c cs ih =>
      obtain ⟨houtside, hinside⟩ := ih (some c)
      constructor
      · by_cases hstarts : StartsLineComment before c cs
        · rw [cutLines_of_starts hstarts]
          exact hinside before
        · rw [cutLines_of_not_starts hstarts]
          refine not_freeSlashes_cons ?_ houtside
          rintro ⟨hc, hslash, hfree⟩
          exact hstarts ⟨hc, head?_of_head?_cutLines hslash, hfree⟩
      · intro shown
        rw [cutLines]
        by_cases hline : c = '\n'
        · subst hline
          rw [if_pos rfl]
          exact not_freeSlashes_cons (not_startsLineComment (by decide) shown _) houtside
        · rw [if_neg hline]
          exact hinside shown

end Kept

section Lines

variable {before : Option Char}

theorem newline_not_mem_line {cs line : List Char} (hline : line ∈ cs.splitOn '\n') :
    '\n' ∉ line := by
  rw [List.splitOn_eq_splitOnP] at hline
  intro hmem
  have hother := eq_false_of_mem_splitOnP _ hline '\n' hmem
  simp at hother

theorem cutLines_eq_of_free (hfree : protectsSlashes before = false) (cs : List Char) :
    cutLines false before cs = cutLines false none cs := by
  cases cs with
  | nil => rfl
  | cons c cs =>
      have hstarts : StartsLineComment before c cs ↔ StartsLineComment none c cs := by
        rw [StartsLineComment, StartsLineComment, hfree]
        rfl
      rw [cutLines, cutLines]
      simp only [hstarts]

/-- The lines of a text are cut one by one. -/
theorem cutLines_intercalate {line : List Char} {lines : List (List Char)}
    (hfree : protectsSlashes before = false) :
    cutLines false before (['\n'].intercalate (line :: lines)) =
      ['\n'].intercalate ((line :: lines).map (cutLines false none)) := by
  induction lines generalizing line before with
  | nil =>
      rw [List.map_singleton, List.intercalate_singleton, List.intercalate_singleton,
        cutLines_eq_of_free hfree]
  | cons next lines ih =>
      have hnewline : protectsSlashes (some '\n') = false := by decide
      rw [List.intercalate_cons_cons, List.append_assoc, List.singleton_append,
        cutLines_append_newline, ih hnewline, cutLines_eq_of_free hfree, List.map_cons,
        List.map_cons, List.map_cons, List.intercalate_cons_cons, List.append_assoc,
        List.singleton_append]

/-- Cutting a text keeps its lines apart, and cuts each as if it stood alone. -/
theorem splitOn_cutLines (cs : List Char) :
    (cutLines false none cs).splitOn '\n' = (cs.splitOn '\n').map (cutLines false none) := by
  have hplain : ∀ line ∈ (cs.splitOn '\n').map (cutLines false none), '\n' ∉ line := by
    intro kept hkept hmem
    obtain ⟨line, hline, rfl⟩ := List.mem_map.mp hkept
    exact newline_not_mem_line hline ((cutLines_sublist line).subset hmem)
  obtain ⟨line, lines, hsplit⟩ := List.exists_cons_of_ne_nil (List.splitOn_ne_nil '\n' cs)
  have hstart : protectsSlashes none = false := by decide
  have hlines : cutLines false none cs =
      ['\n'].intercalate ((cs.splitOn '\n').map (cutLines false none)) := by
    rw [hsplit, ← cutLines_intercalate hstart, ← hsplit, List.intercalate_splitOn]
  rw [hlines]
  exact List.splitOn_intercalate '\n' hplain (by simp)

end Lines

section Cut

/-- A character that starts no comment is kept in front of what is kept behind it. -/
theorem CutTo.cons {before : Option Char} {c : Char} {cs kept : List Char}
    (hstarts : ¬ StartsLineComment before c cs) (hcut : CutTo (some c) cs kept) :
    CutTo before (c :: cs) (c :: kept) := by
  cases hcut with
  | whole hnone => exact .whole (not_freeSlashes_cons hstarts hnone)
  | cut hfree hfirst =>
      refine .cut (freeSlashes_cons_iff.mpr ⟨rfl, hfree⟩) fun front hother => ?_
      cases front with
      | nil => exact absurd (freeSlashes_nil_iff.mp hother) hstarts
      | cons d front => exact Nat.succ_le_succ (hfirst front (freeSlashes_cons_iff.mp hother).2)

/-- A single line is cut at its first free slashes. -/
theorem cutTo_cutLines {line : List Char} (hline : '\n' ∉ line) (before : Option Char) :
    CutTo before line (cutLines false before line) := by
  induction line generalizing before with
  | nil => exact .whole (not_freeSlashes_nil before)
  | cons c cs ih =>
      rw [List.mem_cons, not_or] at hline
      by_cases hstarts : StartsLineComment before c cs
      · rw [cutLines_of_starts hstarts, cutLines_inside hline.2]
        exact .cut (freeSlashes_nil_iff.mpr hstarts) fun front _ => Nat.zero_le front.length
      · rw [cutLines_of_not_starts hstarts]
        exact (ih hline.2 (some c)).cons hstarts

end Cut

/-- A source without its comments is a subsequence of the source, and two slashes in it stand
directly behind a colon or a backslash.  Where no block comment starts, the source keeps its lines,
and each line is cut before its first free slashes. -/
theorem stripComments_cuts (source : String) :
    (stripComments source).toList.Sublist source.toList ∧
      (∀ front rest, (stripComments source).toList = front ++ '/' :: '/' :: rest →
        front.getLast? = some ':' ∨ front.getLast? = some '\\') ∧
      (¬ ['/', '*'] <:+: source.toList →
        List.Forall₂ (CutTo none) (source.toList.splitOn '\n')
          ((stripComments source).toList.splitOn '\n')) := by
  have hkept : (stripComments source).toList =
      cutLines false none (stripBlocks source.toList) := by
    rw [← stripLines_eq_cutLines]
    exact String.toList_ofList
  rw [hkept]
  refine ⟨?_, ?_, ?_⟩
  · exact (cutLines_sublist _).trans (stripBlocks_sublist _)
  · intro front rest hslashes
    by_contra hfree
    rw [not_or] at hfree
    apply (not_freeSlashes_cutLines none (stripBlocks source.toList)).1 front
    exact ⟨⟨rest, hslashes⟩, by rwa [Option.or_none]⟩
  · intro hplain
    rw [stripBlocks_eq_self hplain, splitOn_cutLines, List.forall₂_map_right_iff,
      List.forall₂_same]
    intro line hline
    exact cutTo_cutLines (newline_not_mem_line hline) none

/-- An address before a comment, a line that is a comment, and an escaped slash before two more. -/
def withAddress : String := "go('http://x.io') // on\n//off\n\\///\nend"

theorem stripComments_cuts_withAddress :
    ¬ ['/', '*'] <:+: withAddress.toList ∧
      stripComments withAddress = "go('http://x.io') \n\n\\/\nend" ∧
      List.Forall₂ (CutTo none) (withAddress.toList.splitOn '\n')
        ((stripComments withAddress).toList.splitOn '\n') := by
  have hstar : '*' ∉ withAddress.toList := by decide
  have hplain : ¬ ['/', '*'] <:+: withAddress.toList := fun hstands =>
    hstar (hstands.subset (by simp))
  exact ⟨hplain, by decide +kernel, (stripComments_cuts withAddress).2.2 hplain⟩

end RouteAtlas.Source
