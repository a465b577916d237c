import RouteAtlas.Endpoint.Grouping
import RouteAtlas.Proofs.Params.Placeholder
import RouteAtlas.Proofs.Text.Pieces

/-!
# Reserved paths

A path runs through the segments of the documentation root exactly when the root stands in it
between slashes.  A slash in front of a path makes no difference to that, and neither do braces:
a text without an opening brace that stands in a documented path stands between two of its
placeholders, and so it stands in the path itself.
-/

namespace RouteAtlas

open Text

namespace Settings

def slashed (cs : List Char) : List Char :=
  '/' :: (cs ++ ['/'])

/-- A run of neighbours is an infix. -/
theorem hasRun_iff_isInfix (wanted parts : List (List Char)) :
    hasRun wanted parts = true ↔ wanted <:+: parts := by
  induction parts with
  | nil => rw [hasRun, List.isEmpty_iff, List.infix_nil]
  | cons part parts ih =>
      rw [hasRun, Bool.or_eq_true, List.isPrefixOf_iff_prefix, ih, List.infix_cons_iff]

/-- The pieces between slashes, each with a slash in front again, are the text behind one more
slash. -/
theorem flatMap_slash_splitOn (cs : List Char) :
    (cs.splitOn '/').flatMap (fun part => '/' :: part) = '/' :: cs := by
  have hjoin (part : List Char) (parts : List (List Char)) :
      (part :: parts).flatMap (fun part => '/' :: part) =
        '/' :: ['/'].intercalate (part :: parts) := by
    induction parts generalizing part with
    | nil => simp
    | cons next parts ih => rw [List.flatMap_cons, ih]; simp
  obtain ⟨part, parts, hsplit⟩ := List.exists_cons_of_ne_nil (List.splitOn_ne_nil '/' cs)
  rw [hsplit, hjoin, ← hsplit, List.intercalate_splitOn]

/-- A text between slashes has the pieces of the text between two empty ones. -/
theorem splitOn_slashed (cs : List Char) :
    (slashed cs).splitOn '/' = [] :: (cs.splitOn '/' ++ [[]]) := by
  have hslashed : slashed cs = [] ++ '/' :: (cs ++ '/' :: []) := rfl
  rw [hslashed, List.splitOn_append_cons_self, List.splitOn_append_cons_self, List.splitOn_nil]
  rfl

/-- The segments of a text stand side by side in a path exactly when the text stands in it
between slashes. -/
theorem splitOn_isInfix_iff (text cs : List Char) :
    text.splitOn '/' <:+: cs.splitOn '/' ↔ slashed text <:+: slashed cs := by
  constructor
  · rintro ⟨before, after, hparts⟩
    obtain ⟨rest, hrest⟩ : ∃ rest,
        after.flatMap (fun part => '/' :: part) ++ ['/'] = '/' :: rest := by
      cases after with
      | nil => exact ⟨[], rfl⟩
      | cons part parts => exact ⟨_, rfl⟩
    refine ⟨before.flatMap fun part => '/' :: part, rest, ?_⟩
    calc
      before.flatMap (fun part => '/' :: part) ++ slashed text ++ rest =
          before.flatMap (fun part => '/' :: part) ++ ('/' :: text) ++ '/' :: rest := by
        simp [slashed]
      _ = (before ++ text.splitOn '/' ++ after).flatMap (fun part => '/' :: part) ++ ['/'] := by
        rw [List.flatMap_append, List.flatMap_append, flatMap_slash_splitOn,
          List.append_assoc _ (after.flatMap _), hrest]
      _ = slashed cs := by
        rw [hparts, flatMap_slash_splitOn]
        rfl
  · rintro ⟨before, after, hslashed⟩
    have htext : slashed cs = before ++ '/' :: (text ++ '/' :: after) := by
      rw [← hslashed]
      simp [slashed]
    have hsplit := splitOn_slashed cs
    rw [htext, List.splitOn_append_cons_self, List.splitOn_append_cons_self] at hsplit
    -- Only the first and the last part of the path between slashes are none of the path's own.
    obtain ⟨first, front, hfront⟩ := List.exists_cons_of_ne_nil (List.splitOn_ne_nil '/' before)
    obtain ⟨back, last, hback⟩ :=
      (List.eq_nil_or_concat _).resolve_left (List.splitOn_ne_nil '/' after)
    rw [hfront, hback, List.concat_eq_append, List.cons_append, ← List.append_assoc,
      ← List.append_assoc] at hsplit
    obtain ⟨-, hparts⟩ := List.cons.inj hsplit
    obtain ⟨hparts, -⟩ := List.append_inj' hparts rfl
    exact ⟨front, back, hparts⟩

variable (settings : Settings)

/-- A path belongs to the documentation when the root, if there is one, stands in it between
slashes. -/
theorem isDocsPath_eq_true_iff (path : String) :
    settings.isDocsPath path = true ↔
      settings.docsSegment ≠ "" ∧ slashed settings.docsSegment.toList <:+: slashed path.toList := by
  have hempty : settings.docsSegment.toList.isEmpty = true ↔ settings.docsSegment = "" := by
    simp
  rw [← splitOn_isInfix_iff, ← hasRun_iff_isInfix, isDocsPath, Bool.and_eq_true,
    Bool.not_eq_true', ← Bool.not_eq_true, hempty]

theorem head?_docsSegment_ne : settings.docsSegment.toList.head? ≠ some '/' := by
  rw [docsSegment, String.toList_ofList]
  exact head?_trimBoth_ne '/' _

/-- A slash in front of a path does not change whether the path is one of the documentation. -/
theorem isDocsPath_normalizePath (path : String) :
    settings.isDocsPath (normalizePath path) = settings.isDocsPath path := by
  rw [normalizePath]
  by_cases hslash : path.toList.head? = some '/'
  · rw [if_pos hslash]
  · rw [if_neg hslash, Bool.eq_iff_iff, isDocsPath_eq_true_iff, isDocsPath_eq_true_iff,
      String.toList_append]
    apply and_congr_right
    intro hsegment
    constructor
    · intro hstands
      -- The root does not start with a slash, so it stands behind the second one at the earliest.
      obtain hstarts | hrest := List.infix_cons_iff.mp hstands
      · obtain ⟨first, rest, htext⟩ : ∃ first rest, settings.docsSegment.toList = first :: rest :=
          List.exists_cons_of_ne_nil (by simpa using hsegment)
        have hhead := settings.head?_docsSegment_ne
        rw [htext] at hstarts hhead
        have hfirst : first = '/' :=
          (List.cons_prefix_cons.mp (List.cons_prefix_cons.mp hstarts).2).1
        exact absurd (congrArg some hfirst) hhead
      · exact hrest
    · exact List.infix_cons

theorem slashed_isInfix_slashed (before path after : List Char) :
    slashed path <:+: slashed (before ++ '/' :: (path ++ '/' :: after)) :=
  ⟨'/' :: before, after ++ ['/'], by simp [slashed]⟩

/-- A path around one of the documentation, with slashes between, belongs to it as well. -/
theorem isDocsPath_around {path : String} (hdocs : settings.isDocsPath path = true)
    (before after : String) :
    settings.isDocsPath (before ++ "/" ++ path ++ "/" ++ after) = true := by
  have haround : (before ++ "/" ++ path ++ "/" ++ after).toList =
      before.toList ++ '/' :: (path.toList ++ '/' :: after.toList) := by
    simp [String.toList_append]
  rw [isDocsPath_eq_true_iff] at hdocs ⊢
  obtain ⟨hsegment, hstands⟩ := hdocs
  rw [haround]
  exact ⟨hsegment, hstands.trans (slashed_isInfix_slashed _ _ _)⟩

/-- A path belongs to the documentation exactly when the root is not empty and stands, between
slashes, in the path between slashes.  So a slash in front of a path makes no difference, and a
longer path belongs to the documentation with the path inside it. -/
theorem docs_path_holds_root (settings : Settings) :
    (∀ path : String, settings.isDocsPath path = true ↔
        settings.docsSegment ≠ "" ∧
          ("/" ++ settings.docsSegment ++ "/").toList <:+: ("/" ++ path ++ "/").toList) ∧
      (∀ path, settings.isDocsPath (normalizePath path) = settings.isDocsPath path) ∧
      ∀ before path after : String, settings.isDocsPath path = true →
        settings.isDocsPath (before ++ "/" ++ path ++ "/" ++ after) = true := by
  have hslashed (text : String) : ("/" ++ text ++ "/").toList = slashed text.toList := by
    simp [slashed, String.toList_append]
  refine ⟨?_, settings.isDocsPath_normalizePath, ?_⟩
  · intro path
    rw [hslashed, hslashed]
    exact settings.isDocsPath_eq_true_iff path
  · intro before path after hdocs
    exact settings.isDocsPath_around hdocs before after

/-- A documentation root with an empty segment inside. -/
def doubleSlashed : Settings := ⟨"//v1//docs/", "req"⟩

theorem docs_path_holds_doubleSlashed :
    doubleSlashed.isDocsPath "api/v1//docs" = true ∧
      doubleSlashed.isDocsPath (normalizePath "api/v1//docs") = true ∧
      doubleSlashed.isDocsPath ("/en" ++ "/" ++ "api/v1//docs" ++ "/" ++ "ui.css") = true ∧
      doubleSlashed.isDocsPath "/api/v1/docs" = false := by
  have hsegment : doubleSlashed.docsSegment = "v1//docs" := by decide
  obtain ⟨hholds, hnormal, haround⟩ := docs_path_holds_root doubleSlashed
  have hdocs : doubleSlashed.isDocsPath "api/v1//docs" = true := by
    rw [hholds, hsegment]
    exact ⟨by decide, "/api".toList, [], rfl⟩
  refine ⟨hdocs, ?_, haround "/en" _ "ui.css" hdocs, by decide⟩
  rw [hnormal, hdocs]

end Settings

namespace Template

variable {text cs : List Char} {tail : List Char}

/-- A text without braces in front of a path in braces stands in front of the raw path too. -/
theorem prefix_of_prefix_bracedChars (hbrace : '{' ∉ text)
    (hstarts : text <+: bracedChars cs ++ tail) : text <+: cs ++ tail := by
  induction cs using match_induction (fun _ => placeholder?) generalizing text with
  | nil => exact hstarts
  | char c cs hfind ih =>
      rw [bracedChars_cons hfind, List.cons_append, List.prefix_cons_iff] at hstarts
      obtain rfl | ⟨rest, rfl, hrest⟩ := hstarts
      · exact List.nil_prefix
      · rw [List.mem_cons, not_or] at hbrace
        exact List.cons_prefix_cons.mpr ⟨rfl, ih hbrace.2 hrest⟩
  | item c cs name size hfind ih =>
      rw [bracedChars_item hfind, List.append_assoc, List.cons_append,
        List.prefix_cons_iff] at hstarts
      obtain rfl | ⟨rest, rfl, -⟩ := hstarts
      · exact List.nil_prefix
      · exact absurd List.mem_cons_self hbrace

/-- A text starts behind a front in which its first character does not occur. -/
theorem infix_of_infix_append {c : Char} {rest front back : List Char} (hfront : c ∉ front)
    (hstands : c :: rest <:+: front ++ back) : c :: rest <:+: back := by
  induction front with
  | nil => exact hstands
  | cons d front ih =>
      rw [List.mem_cons, not_or] at hfront
      obtain hstarts | hbehind := List.infix_cons_iff.mp hstands
      · exact absurd (List.cons_prefix_cons.mp hstarts).1 hfront.1
      · exact ih hfront.2 hbehind

/-- A text that starts with a slash and holds no opening brace stands in a documented path only
where it stands in the path itself. -/
theorem infix_of_infix_bracedChars (hbrace : '{' ∉ text)
    (hstands : '/' :: text <:+: bracedChars cs ++ tail) : '/' :: text <:+: cs ++ tail := by
  induction cs using match_induction (fun _ => placeholder?) with
  | nil => exact hstands
  | char c cs hfind ih =>
      rw [bracedChars_cons hfind, List.cons_append] at hstands
      obtain hstarts | hrest := List.infix_cons_iff.mp hstands
      · obtain ⟨rfl, hbehind⟩ := List.cons_prefix_cons.mp hstarts
        have hplain : text <+: cs ++ tail := prefix_of_prefix_bracedChars hbrace hbehind
        exact (List.cons_prefix_cons.mpr ⟨rfl, hplain⟩).isInfix
      · exact List.infix_cons (ih hrest)
  | item c cs name size hfind ih =>
      have hslash : '/' ∉ '{' :: (name ++ ['}']) :=
        not_mem_written_of_placeholder? hfind (by decide) (by decide) (by decide)
      rw [bracedChars_item hfind, List.append_assoc] at hstands
      have hbehind : '/' :: text <:+: cs.drop (size - 1) ++ tail :=
        ih (infix_of_infix_append hslash hstands)
      have hdrop : cs.drop (size - 1) ++ tail <:+ c :: cs ++ tail :=
        ⟨c :: cs.take (size - 1), by
          rw [← List.append_assoc, List.cons_append, List.take_append_drop]⟩
      exact hbehind.trans hdrop.isInfix

end Template

/-- Braces bring no path into the documentation. -/
theorem Settings.isDocsPath_of_braced (settings : Settings) {path : String}
    (hbrace : '{' ∉ settings.docsSegment.toList)
    (hdocs : settings.isDocsPath (Template.braced path) = true) :
    settings.isDocsPath path = true := by
  rw [isDocsPath_eq_true_iff] at hdocs ⊢
  obtain ⟨hsegment, hstands⟩ := hdocs
  refine ⟨hsegment, ?_⟩
  have hplain : '{' ∉ settings.docsSegment.toList ++ ['/'] := by simp [hbrace]
  have hshown : slashed (Template.bracedChars path.toList) =
      Template.bracedChars ('/' :: path.toList) ++ ['/'] := by
    rw [Template.bracedChars_cons (Template.placeholder?_eq_none (by decide) _)]
    rfl
  rw [Template.braced_eq, String.toList_ofList, hshown] at hstands
  exact Template.infix_of_infix_bracedChars hplain hstands

end RouteAtlas
