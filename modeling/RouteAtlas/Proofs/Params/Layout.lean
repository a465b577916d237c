import RouteAtlas.Proofs.Params.Placeholder
import RouteAtlas.Proofs.Text.Runs

/-!
# Path templates written and read

A path template is written as literal texts with placeholders between them.  Where no literal
holds a placeholder and none goes on with the one before it, the written path is read back: its
placeholders are found where they were written, and nowhere else.  Every path can be written in
this way, since a parenthesis that is never closed opens no group.
-/

namespace RouteAtlas.Template

open Text

/-- A placeholder as a path shows it. -/
structure Placeholder where
  name : List Char
  group : Option (List Char)
  modifier : Option Char
  name_ne_nil : name ≠ []
  isNameChar_of_mem : ∀ c ∈ name, isNameChar c = true
  close_not_mem : ∀ inner ∈ group, ')' ∉ inner
  isModifier_of_mem : ∀ c ∈ modifier, isModifier c = true

namespace Placeholder

def groupText : Option (List Char) → List Char
  | none => []
  | some inner => '(' :: (inner ++ [')'])

/-- The placeholder as it is written: a colon, its name, its group and its modifier. -/
def text (token : Placeholder) : List Char :=
  ':' :: (token.name ++ (groupText token.group ++ token.modifier.toList))

/-- Whether a placeholder ends where a text begins: the text does not go on with its name, opens
no group of it that is closed, and starts with no modifier of it. -/
structure EndsBefore (token : Placeholder) (rest : List Char) : Prop where
  name : token.group = none → token.modifier = none → StartsOutside isNameChar rest
  group : token.group = none → token.modifier = none → rest.head? = some '(' → ')' ∉ rest
  modifier : token.modifier = none → StartsOutside isModifier rest

end Placeholder

/-- A literal text: it holds no colon in front of a name. -/
def IsLiteral (cs : List Char) : Prop :=
  ∀ c, isNameChar c = true → ¬ [':', c] <:+: cs

/-- Placeholders, each with the literal text behind it, as they are written. -/
def piecesText (pieces : List (Placeholder × List Char)) : List Char :=
  pieces.flatMap fun piece => piece.1.text ++ piece.2

/-- Whether each placeholder ends where the text behind it begins: with the literal text next to
it, or, where that is empty, with the colon of the next placeholder or not at all. -/
def PiecesApart : List (Placeholder × List Char) → Prop
  | [] => True
  | (token, literal) :: pieces =>
    token.EndsBefore (literal ++ piecesText pieces) ∧ PiecesApart pieces

/-- A path template in its parts: a literal text, then placeholders with a literal text behind
each. -/
structure Layout where
  first : List Char
  pieces : List (Placeholder × List Char)
  isLiteral_first : IsLiteral first
  isLiteral_of_mem : ∀ piece ∈ pieces, IsLiteral piece.2
  apart : PiecesApart pieces

namespace Layout

def path (layout : Layout) : String :=
  String.ofList (layout.first ++ piecesText layout.pieces)

def names (layout : Layout) : List String :=
  layout.pieces.map fun piece => String.ofList piece.1.name

/-- The literal texts with the name of each placeholder between braces. -/
def shown (layout : Layout) : String :=
  String.ofList
    (layout.first ++ layout.pieces.flatMap fun piece => '{' :: (piece.1.name ++ '}' :: piece.2))

end Layout

section Reading

/-- There is no group exactly where no parenthesis opens or none closes. -/
theorem groupSize_eq_zero_iff (cs : List Char) :
    groupSize cs = 0 ↔ (cs.head? = some '(' → ')' ∉ cs) := by
  unfold groupSize
  split
  · next cs => simp
  · next hopen =>
      simp only [true_iff]
      intro hhead
      obtain ⟨rest, rfl⟩ := List.head?_eq_some_iff.mp hhead
      exact absurd rfl (hopen rest)

theorem modifierSize_eq_zero {cs : List Char} (hcs : StartsOutside isModifier cs) :
    modifierSize cs = 0 := by
  cases cs with
  | nil => rfl
  | cons c cs => rw [modifierSize, startsOutside_cons.mp hcs]; rfl

theorem groupSize_groupText {inner : List Char} (hclose : ')' ∉ inner) (rest : List Char) :
    groupSize (Placeholder.groupText (some inner) ++ rest) =
      (Placeholder.groupText (some inner)).length := by
  have hinner : ∀ c ∈ inner, (c != ')') = true := by
    intro c hc
    simpa using fun heq : c = ')' => hclose (heq ▸ hc)
  have hrest : StartsOutside (· != ')') (')' :: rest) := startsOutside_cons.mpr (by decide)
  have hmem : ')' ∈ inner ++ ')' :: rest := by simp
  have htext : Placeholder.groupText (some inner) ++ rest = '(' :: (inner ++ ')' :: rest) := by
    simp [Placeholder.groupText]
  rw [htext, groupSize, if_pos hmem, hrest.takeWhile_run hinner]
  simp [Placeholder.groupText]

theorem isNameChar_eq_false_of_isModifier {c : Char} (hc : isModifier c = true) :
    isNameChar c = false := by
  simp only [isModifier, Bool.or_eq_true, beq_iff_eq] at hc
  rcases hc with (rfl | rfl) | rfl
  · decide
  · decide
  · decide

namespace Placeholder

variable {token : Placeholder} {rest : List Char}

/-- What is written behind the name does not go on with it. -/
theorem startsOutside_behind_name (hends : token.EndsBefore rest) :
    StartsOutside isNameChar
      (groupText token.group ++ (token.modifier.toList ++ rest)) := by
  cases hgroup : token.group with
  | some inner => exact startsOutside_cons.mpr (by decide)
  | none =>
      cases hmodifier : token.modifier with
      | none => exact hends.name hgroup hmodifier
      | some c =>
          have hc := token.isModifier_of_mem c hmodifier
          exact startsOutside_cons.mpr (isNameChar_eq_false_of_isModifier hc)

theorem groupSize_behind_name (hends : token.EndsBefore rest) :
    groupSize (groupText token.group ++ (token.modifier.toList ++ rest)) =
      (groupText token.group).length := by
  cases hgroup : token.group with
  | some inner => exact groupSize_groupText (token.close_not_mem inner hgroup) _
  | none =>
      rw [groupText, List.nil_append, List.length_nil, groupSize_eq_zero_iff]
      cases hmodifier : token.modifier with
      | none => exact hends.group hgroup hmodifier
      | some c =>
          have hc := token.isModifier_of_mem c hmodifier
          intro hhead
          obtain rfl : c = '(' := by simpa using hhead
          exact absurd hc (by decide)

theorem modifierSize_behind_group (hends : token.EndsBefore rest) :
    modifierSize (token.modifier.toList ++ rest) = token.modifier.toList.length := by
  cases hmodifier : token.modifier with
  | none => exact modifierSize_eq_zero (hends.modifier hmodifier)
  | some c =>
      have hc := token.isModifier_of_mem c hmodifier
      exact if_pos hc

/-- A placeholder is found whole where it is written. -/
theorem placeholder?_text (hends : token.EndsBefore rest) :
    placeholder? (token.text ++ rest) = some (token.name, token.text.length) := by
  have htext : token.text ++ rest = ':' ::
      (token.name ++ (groupText token.group ++ (token.modifier.toList ++ rest))) := by
    simp [text]
  have hbehind := startsOutside_behind_name hends
  have hdrop : (groupText token.group ++ (token.modifier.toList ++ rest)).drop
      (groupText token.group).length = token.modifier.toList ++ rest :=
    List.drop_left
  have hname : token.name.isEmpty = false := by simpa using token.name_ne_nil
  simp only [htext, placeholder?, hbehind.takeWhile_run token.isNameChar_of_mem,
    hbehind.dropWhile_run token.isNameChar_of_mem, groupSize_behind_name hends, hdrop,
    modifierSize_behind_group hends, hname, Bool.false_eq_true, if_false]
  simp only [text, List.length_cons, List.length_append]
  congr 2
  omega

end Placeholder

/-- A written placeholder is read as its name, and the text behind it by itself. -/
theorem parse_text {token : Placeholder} {rest : List Char} (hends : token.EndsBefore rest) :
    parse (token.text ++ rest) = .inr token.name :: parse rest := by
  have hfind := token.placeholder?_text hends
  rw [Placeholder.text, List.cons_append] at hfind ⊢
  rw [parse_token hfind, List.length_cons, Nat.add_sub_cancel, List.drop_left]

theorem isLiteral_nil : IsLiteral [] :=
  fun _ _ hinfix => by simp at hinfix

theorem IsLiteral.tail {c : Char} {cs : List Char} (hcs : IsLiteral (c :: cs)) : IsLiteral cs :=
  fun d hd hinfix => hcs d hd (List.infix_cons hinfix)

/-- No placeholder starts in a literal text, not even with its last colon. -/
theorem parse_literal_append {literal rest : List Char} (hliteral : IsLiteral literal)
    (hrest : StartsOutside isNameChar rest) :
    parse (literal ++ rest) = literal.map .inl ++ parse rest := by
  induction literal with
  | nil => rfl
  | cons c cs ih =>
      have hnone : placeholder? (c :: (cs ++ rest)) = none := by
        by_cases hc : c = ':'
        · subst hc
          have hbehind : StartsOutside isNameChar (cs ++ rest) := by
            cases cs with
            | nil => exact hrest
            | cons d cs =>
                apply startsOutside_cons.mpr
                rw [Bool.eq_false_iff]
                intro hd
                exact hliteral d hd ⟨[], cs, rfl⟩
          rw [placeholder?_colon_eq_none_iff, hbehind.takeWhile_eq_nil]
        · exact placeholder?_eq_none hc _
      rw [List.cons_append, parse_cons hnone, ih hliteral.tail]
      rfl

theorem startsOutside_piecesText (pieces : List (Placeholder × List Char)) :
    StartsOutside isNameChar (piecesText pieces) := by
  cases pieces with
  | nil => exact startsOutside_nil isNameChar
  | cons piece pieces => exact startsOutside_cons.mpr (by decide)

/-- Placeholders and the literal texts behind them are read one after the other. -/
theorem parse_piecesText {pieces : List (Placeholder × List Char)} (hapart : PiecesApart pieces)
    (hliteral : ∀ piece ∈ pieces, IsLiteral piece.2) :
    parse (piecesText pieces) =
      pieces.flatMap fun piece => .inr piece.1.name :: piece.2.map .inl := by
  induction pieces with
  | nil => rfl
  | cons piece pieces ih =>
      obtain ⟨token, literal⟩ := piece
      obtain ⟨hends, hapart⟩ := hapart
      have hhere : IsLiteral literal := hliteral (token, literal) List.mem_cons_self
      have hlater := ih hapart fun piece hpiece => hliteral piece (List.mem_cons_of_mem _ hpiece)
      calc
        parse (piecesText ((token, literal) :: pieces)) =
            parse (token.text ++ (literal ++ piecesText pieces)) := by
          simp [piecesText]
        _ = .inr token.name :: (literal.map .inl ++ parse (piecesText pieces)) := by
          rw [parse_text hends, parse_literal_append hhere (startsOutside_piecesText pieces)]
        _ = ((token, literal) :: pieces).flatMap fun piece =>
            .inr piece.1.name :: piece.2.map .inl := by
          rw [hlater]
          rfl

theorem Layout.parse_path (layout : Layout) :
    parse layout.path.toList =
      layout.first.map .inl ++
        layout.pieces.flatMap fun piece => .inr piece.1.name :: piece.2.map .inl := by
  rw [Layout.path, String.toList_ofList, parse_literal_append layout.isLiteral_first
    (startsOutside_piecesText layout.pieces), parse_piecesText layout.apart
    layout.isLiteral_of_mem]

/-- Reading a written path gives the names that were written. -/
theorem Layout.names_path (layout : Layout) : Template.names layout.path = layout.names := by
  have hparse := layout.parse_path
  have hliteral (cs : List Char) :
      (cs.map (Sum.inl : Char → Char ⊕ List Char)).filterMap Sum.getRight? = [] := by
    rw [List.filterMap_map, List.filterMap_eq_nil_iff]
    intro c _
    rfl
  rw [parse] at hparse
  rw [Template.names, itemsIn, hparse, Layout.names, List.filterMap_append, hliteral,
    List.filterMap_flatMap]
  simp only [List.filterMap_cons, Sum.getRight?_inr, hliteral, List.nil_append]
  rw [List.map_flatMap, List.map_eq_flatMap]
  rfl

/-- Showing a written path gives its literal texts and its names in braces. -/
theorem Layout.braced_path (layout : Layout) : braced layout.path = layout.shown := by
  have hparse := layout.parse_path
  rw [parse] at hparse
  rw [braced, replaceMatches, hparse, Layout.shown]
  simp [List.flatMap_assoc, List.flatMap_map]

end Reading

section Writing

/-- A text opens with a group if one is closed, and else the parenthesis opens none. -/
theorem exists_group (rest : List Char) :
    ∃ group : Option (List Char), (∀ inner ∈ group, ')' ∉ inner) ∧
      Placeholder.groupText group ++ rest.drop (groupSize rest) = rest ∧
      (group = none → groupSize rest = 0) := by
  by_cases hsize : groupSize rest = 0
  · exact ⟨none, by simp, by rw [hsize]; rfl, fun _ => hsize⟩
  · rw [groupSize_eq_zero_iff, Classical.not_imp, Decidable.not_not] at hsize
    obtain ⟨hopen, hmem⟩ := hsize
    obtain ⟨cs, rfl⟩ := List.head?_eq_some_iff.mp hopen
    have hinner : ')' ∈ cs := by simpa using hmem
    obtain ⟨inner, tail, rfl, hclose⟩ := List.eq_append_cons_of_mem hinner
    have htext : '(' :: (inner ++ ')' :: tail) = Placeholder.groupText (some inner) ++ tail := by
      simp [Placeholder.groupText]
    refine ⟨some inner, by simpa using hclose, ?_, by simp⟩
    rw [htext, groupSize_groupText hclose, List.drop_left]

theorem exists_modifier (rest : List Char) :
    ∃ modifier : Option Char, (∀ c ∈ modifier, isModifier c = true) ∧
      modifier.toList ++ rest.drop (modifierSize rest) = rest ∧
      (modifier = none → modifierSize rest = 0 ∧ StartsOutside isModifier rest) := by
  cases rest with
  | nil => exact ⟨none, by simp, rfl, fun _ => ⟨rfl, startsOutside_nil isModifier⟩⟩
  | cons c rest =>
      by_cases hc : isModifier c = true
      · refine ⟨some c, by simpa using hc, ?_, by simp⟩
        rw [modifierSize, if_pos hc]
        rfl
      · refine ⟨none, by simp, ?_, fun _ => ⟨if_neg hc, by simpa using hc⟩⟩
        rw [modifierSize, if_neg hc]
        rfl

/-- What stands behind a name is a group and a modifier, where they stand there, and a rest with
which the placeholder does not go on. -/
theorem exists_placeholder {name rest : List Char} (hne : name ≠ [])
    (hname : ∀ c ∈ name, isNameChar c = true) (hrest : StartsOutside isNameChar rest) :
    ∃ token : Placeholder, token.EndsBefore (behindToken rest) ∧
      token.text ++ behindToken rest = ':' :: (name ++ rest) := by
  obtain ⟨group, hclose, hgroup, hbare⟩ := exists_group rest
  obtain ⟨modifier, hmodifier, htail, hplain⟩ := exists_modifier (rest.drop (groupSize rest))
  have hbehind : behindToken rest =
      (rest.drop (groupSize rest)).drop (modifierSize (rest.drop (groupSize rest))) := by
    rw [behindToken, List.drop_drop]
  have hwhole (hgroup : group = none) (hmodifier : modifier = none) :
      behindToken rest = rest := by
    rw [hbehind, (hplain hmodifier).1, hbare hgroup]
    rfl
  refine ⟨⟨name, group, modifier, hne, hname, hclose, hmodifier⟩, ⟨?_, ?_, ?_⟩, ?_⟩
  · intro hnoGroup hnoModifier
    rwa [hwhole hnoGroup hnoModifier]
  · intro hnoGroup hnoModifier
    rw [hwhole hnoGroup hnoModifier, ← groupSize_eq_zero_iff]
    exact hbare hnoGroup
  · intro hnoModifier
    rw [hbehind, (hplain hnoModifier).1]
    exact (hplain hnoModifier).2
  · simp only [Placeholder.text, List.cons_append, List.append_assoc]
    rw [hbehind, htail, hgroup]

/-- A colon in front of a literal text makes no placeholder unless a name follows it. -/
theorem IsLiteral.cons {c : Char} {cs : List Char} (hcs : IsLiteral cs)
    (hc : c = ':' → StartsOutside isNameChar cs) : IsLiteral (c :: cs) := by
  intro d hd hinfix
  rcases List.infix_cons_iff.mp hinfix with hhead | hlater
  · obtain ⟨rfl, tail, htail⟩ := List.cons_prefix_cons.mp hhead
    have hstart := hc rfl
    rw [← htail, List.singleton_append, startsOutside_cons, hd] at hstart
    exact absurd hstart (by decide)
  · exact hcs d hd hlater

/-- Every path is written by some layout. -/
theorem exists_layout (path : List Char) :
    ∃ layout : Layout, layout.first ++ piecesText layout.pieces = path := by
  induction path using match_induction (fun _ => placeholder?) with
  | nil => exact ⟨⟨[], [], isLiteral_nil, by simp, trivial⟩, rfl⟩
  | char c cs hfind ih =>
      obtain ⟨layout, rfl⟩ := ih
      have hc : c = ':' → StartsOutside isNameChar layout.first := by
        rintro rfl
        rw [placeholder?_colon_eq_none_iff] at hfind
        cases hfirst : layout.first with
        | nil => exact startsOutside_nil isNameChar
        | cons d first =>
            rw [hfirst] at hfind
            apply startsOutside_cons.mpr
            rw [Bool.eq_false_iff]
            intro hd
            simp [hd] at hfind
      exact ⟨⟨c :: layout.first, layout.pieces, layout.isLiteral_first.cons hc,
        layout.isLiteral_of_mem, layout.apart⟩, rfl⟩
  | item c cs name size hfind ih =>
      obtain ⟨layout, hlayout⟩ := ih
      have hne : cs.takeWhile isNameChar ≠ [] := by
        intro hnil
        obtain ⟨rfl, -, -⟩ := placeholder?_eq_some hfind
        rw [(placeholder?_colon_eq_none_iff cs).mpr hnil] at hfind
        simp at hfind
      obtain ⟨rfl, rfl, hdrop⟩ := placeholder?_eq_some hfind
      rw [hdrop] at hlayout
      have hname : ∀ d ∈ cs.takeWhile isNameChar, isNameChar d = true :=
        List.all_eq_true.mp List.all_takeWhile
      obtain ⟨token, hends, htext⟩ :=
        exists_placeholder hne hname (startsOutside_dropWhile isNameChar cs)
      have hliteral : ∀ piece ∈ (token, layout.first) :: layout.pieces, IsLiteral piece.2 := by
        intro piece hpiece
        rcases List.mem_cons.mp hpiece with rfl | hpiece
        · exact layout.isLiteral_first
        · exact layout.isLiteral_of_mem piece hpiece
      have hapart : PiecesApart ((token, layout.first) :: layout.pieces) :=
        ⟨by rwa [hlayout], layout.apart⟩
      refine ⟨⟨[], (token, layout.first) :: layout.pieces, isLiteral_nil, hliteral, hapart⟩, ?_⟩
      calc
        [] ++ piecesText ((token, layout.first) :: layout.pieces) =
            token.text ++ (layout.first ++ piecesText layout.pieces) := by
          simp [piecesText]
        _ = ':' :: (cs.takeWhile isNameChar ++ cs.dropWhile isNameChar) := by
          rw [hlayout, htext]
        _ = ':' :: cs := by rw [List.takeWhile_append_dropWhile]

end Writing

/-- Every layout is read back, and every path has one: its placeholders are named in order, and
each is shown as its name between braces. -/
theorem layout_reads_back :
    (∀ layout : Layout, names layout.path = layout.names ∧ braced layout.path = layout.shown) ∧
      ∀ path : String, ∃ layout : Layout, layout.path = path := by
  constructor
  · intro layout
    exact ⟨layout.names_path, layout.braced_path⟩
  · intro path
    obtain ⟨layout, hpath⟩ := exists_layout path.toList
    exact ⟨layout, by rw [Layout.path, hpath, String.ofList_toList]⟩

end RouteAtlas.Template
