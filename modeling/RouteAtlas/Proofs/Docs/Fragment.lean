import RouteAtlas.Docs.Locator
import RouteAtlas.Proofs.Params.Placeholder
import RouteAtlas.Proofs.Text.Replacing

/-!
# Fragments in one pass

A link flattens a path by replacing the name of one placeholder after the other, in a text that
earlier replacements have changed already.  Where a path holds braces in the groups of its
placeholders alone, every brace of this text stands around a name.  So each step changes the
placeholders of its own name and nothing else, whatever was replaced before it: the order of the
steps makes no difference, and the fragment is that of one pass over the pieces of the path.
-/

namespace RouteAtlas

open Text

/-- One step: the placeholders of a name are flattened. -/
def flattenName (name fragment : List Char) : List Char :=
  replaceAll ('{' :: name ++ ['}']) ('_' :: name ++ ['_']) fragment

/-- A fragment flattens one name after the other, and slashes after all names. -/
theorem operationFragment_eq (method path : String) (params : List String) :
    operationFragment method path params =
      replaceAll ['/'] ['_']
        (params.foldl (fun fragment name => flattenName name.toList fragment)
          (method ++ path).toList) := rfl

/-- A piece of a path, as it stands in a text in which the placeholders of some names are
flattened. -/
def partlyFlat (flattened : List (List Char)) : Char ⊕ List Char → List Char
  | .inl c => [c]
  | .inr name =>
    if name ∈ flattened then '_' :: (name ++ ['_']) else '{' :: (name ++ ['}'])

/-- The characters of a piece, a placeholder by its name alone. -/
def pieceChars : Char ⊕ List Char → List Char
  | .inl c => [c]
  | .inr name => name

/-- Whether no piece holds braces of its own. -/
def Braceless (pieces : List (Char ⊕ List Char)) : Prop :=
  ∀ piece ∈ pieces, '{' ∉ pieceChars piece ∧ '}' ∉ pieceChars piece

section Steps

variable {flattened : List (List Char)} {name : List Char}

theorem partlyFlat_of_mem (hname : name ∈ flattened) :
    partlyFlat flattened (.inr name) = '_' :: (name ++ ['_']) :=
  if_pos hname

theorem partlyFlat_of_not_mem (hname : name ∉ flattened) :
    partlyFlat flattened (.inr name) = '{' :: (name ++ ['}']) :=
  if_neg hname

/-- A text without opening braces is kept. -/
theorem flattenName_append {front : List Char} (hfront : '{' ∉ front) (name rest : List Char) :
    flattenName name (front ++ rest) = front ++ flattenName name rest :=
  replaceAll_append ('_' :: name ++ ['_']) hfront (name ++ ['}']) rest

theorem flattenName_self (name rest : List Char) :
    flattenName name ('{' :: (name ++ ['}']) ++ rest) =
      '_' :: (name ++ ['_']) ++ flattenName name rest :=
  replaceAll_append_old ('_' :: name ++ ['_']) (name ++ ['}']) rest

/-- The placeholder of another name is kept. -/
theorem flattenName_other {other : List Char} (hne : other ≠ name) (hname : '}' ∉ name)
    (hopen : '{' ∉ other) (hclose : '}' ∉ other) (rest : List Char) :
    flattenName name ('{' :: (other ++ ['}']) ++ rest) =
      '{' :: (other ++ ['}']) ++ flattenName name rest := by
  -- Both names end at the first closing brace, so one is not the start of the other.
  have hkept : ¬ '{' :: name ++ ['}'] <+: '{' :: (other ++ ['}'] ++ rest) := by
    rintro ⟨behind, hbehind⟩
    have hread := Template.bracedName?_append hname behind
    have htext : '{' :: (name ++ '}' :: behind) = '{' :: (other ++ '}' :: rest) := by
      simpa using hbehind
    rw [htext, Template.bracedName?_append hclose rest] at hread
    exact hne (Prod.mk.inj (Option.some.inj hread)).1
  have hfront : '{' ∉ other ++ ['}'] := by simpa using hopen
  calc
    flattenName name ('{' :: (other ++ ['}'] ++ rest)) =
        '{' :: flattenName name (other ++ ['}'] ++ rest) := replaceAll_cons _ hkept
    _ = '{' :: (other ++ ['}'] ++ flattenName name rest) := by
      rw [flattenName_append hfront]

/-- A step keeps or flattens a piece, and goes on behind it. -/
theorem flattenName_piece {piece : Char ⊕ List Char} (hopen : '{' ∉ pieceChars piece)
    (hclose : '}' ∉ pieceChars piece) (hname : '}' ∉ name) (rest : List Char) :
    flattenName name (partlyFlat flattened piece ++ rest) =
      partlyFlat (flattened ++ [name]) piece ++ flattenName name rest := by
  cases piece with
  | inl c => exact flattenName_append hopen name rest
  | inr other =>
      by_cases hdone : other ∈ flattened
      · have hafter : other ∈ flattened ++ [name] := List.mem_append_left _ hdone
        have hfront : '{' ∉ '_' :: (other ++ ['_']) := by simpa [pieceChars] using hopen
        rw [partlyFlat_of_mem hdone, partlyFlat_of_mem hafter, flattenName_append hfront]
      · by_cases hsame : other = name
        · subst hsame
          have hafter : other ∈ flattened ++ [other] := by simp
          rw [partlyFlat_of_not_mem hdone, partlyFlat_of_mem hafter, flattenName_self]
        · have hafter : other ∉ flattened ++ [name] := by simp [hdone, hsame]
          rw [partlyFlat_of_not_mem hdone, partlyFlat_of_not_mem hafter]
          exact flattenName_other hsame hname hopen hclose rest

/-- A step flattens the placeholders of its name, and keeps all other pieces. -/
theorem flattenName_pieces {pieces : List (Char ⊕ List Char)} (hpieces : Braceless pieces)
    (flattened : List (List Char)) (hname : '}' ∉ name) :
    flattenName name (pieces.flatMap (partlyFlat flattened)) =
      pieces.flatMap (partlyFlat (flattened ++ [name])) := by
  induction pieces with
  | nil => rfl
  | cons piece pieces ih =>
      obtain ⟨hopen, hclose⟩ := hpieces piece List.mem_cons_self
      have htail : Braceless pieces := fun other hother =>
        hpieces other (List.mem_cons_of_mem piece hother)
      rw [List.flatMap_cons, flattenName_piece hopen hclose hname, ih htail, List.flatMap_cons]

/-- After all steps the placeholders of every name that was replaced are flattened. -/
theorem foldl_flattenName {pieces : List (Char ⊕ List Char)} (hpieces : Braceless pieces)
    {params : List String} (hparams : ∀ name ∈ params, '}' ∉ name.toList)
    (flattened : List (List Char)) :
    params.foldl (fun fragment name => flattenName name.toList fragment)
        (pieces.flatMap (partlyFlat flattened)) =
      pieces.flatMap (partlyFlat (flattened ++ params.map String.toList)) := by
  induction params generalizing flattened with
  | nil => simp
  | cons name params ih =>
      have hname : '}' ∉ name.toList := hparams name List.mem_cons_self
      have htail : ∀ other ∈ params, '}' ∉ other.toList := fun other hother =>
        hparams other (List.mem_cons_of_mem name hother)
      rw [List.foldl_cons, flattenName_pieces hpieces flattened hname, ih htail, List.map_cons,
        List.append_assoc, List.singleton_append]

end Steps

/-- A literal character of a fragment: slashes become underscores. -/
def flatChar (c : Char) : Char :=
  if c = '/' then '_' else c

/-- A piece of a fragment: slashes become underscores, and a name stands between underscores. -/
def flatPiece : Char ⊕ List Char → List Char
  | .inl c => [flatChar c]
  | .inr name => '_' :: (name ++ ['_'])

/-- The fragment of a method and a raw path, in one pass over the pieces of the path. -/
def flatFragment (method path : String) : List Char :=
  method.toList.map flatChar ++ (Template.parse path.toList).flatMap flatPiece

/-- A method and a raw path, as the pieces that a fragment is made of. -/
def fragmentPieces (method path : String) : List (Char ⊕ List Char) :=
  method.toList.map .inl ++ Template.parse path.toList

section Pieces

variable {method path : String}

/-- A method and a path in braces are the pieces of which no name is flattened yet. -/
theorem toList_append_braced (method path : String) :
    (method ++ Template.braced path).toList =
      (fragmentPieces method path).flatMap (partlyFlat []) := by
  have hpath : Template.bracedChars path.toList =
      (Template.parse path.toList).flatMap (partlyFlat []) := by
    rw [Template.bracedChars, replaceMatches, Template.parse]
    congr 1
    funext piece
    cases piece <;> simp [partlyFlat]
  have hmethod : (method.toList.map Sum.inl).flatMap (partlyFlat []) = method.toList := by
    simp [List.flatMap_map, partlyFlat]
  rw [String.toList_append, Template.braced_eq, String.toList_ofList, fragmentPieces,
    List.flatMap_append, hmethod, hpath]

/-- One pass over the path is one pass over the pieces of method and path. -/
theorem flatFragment_eq (method path : String) :
    flatFragment method path = (fragmentPieces method path).flatMap flatPiece := by
  have hmethod : (method.toList.map Sum.inl).flatMap flatPiece = method.toList.map flatChar := by
    rw [List.flatMap_map, List.map_eq_flatMap]
    rfl
  rw [flatFragment, fragmentPieces, List.flatMap_append, hmethod]

/-- The names among the pieces are those of the path's placeholders. -/
theorem inr_mem_fragmentPieces {name : List Char} :
    .inr name ∈ fragmentPieces method path ↔ .inr name ∈ Template.parse path.toList := by
  simp [fragmentPieces]

/-- If braces stand in groups only, no literal piece holds one, so a name in braces is a
placeholder. -/
theorem braceless_fragmentPieces (hopen : '{' ∉ method.toList) (hclose : '}' ∉ method.toList)
    (hbraces : Template.BracesInGroups path) : Braceless (fragmentPieces method path) := by
  intro piece hpiece
  cases piece with
  | inr name =>
      have hname := inr_mem_fragmentPieces.mp hpiece
      exact ⟨Template.not_mem_of_mem_parse hname (by decide),
        Template.not_mem_of_mem_parse hname (by decide)⟩
  | inl c =>
      have hliteral : c ∈ method.toList ∨ c ∈ Template.literals path.toList := by
        simpa [fragmentPieces, Template.literals] using hpiece
      have hkept : ∀ d : Char, d ∉ method.toList → d ∉ Template.literals path.toList →
          d ∉ pieceChars (.inl c) := by
        intro d hmethod hpath hmem
        obtain rfl : d = c := List.mem_singleton.mp hmem
        exact hliteral.elim hmethod hpath
      exact ⟨hkept '{' hopen hbraces.1, hkept '}' hclose hbraces.2⟩

/-- Once all names are flattened, only the slashes of literal characters are left. -/
theorem map_flatChar_partlyFlat {flattened : List (List Char)} {piece : Char ⊕ List Char}
    (hpiece : piece ∈ fragmentPieces method path)
    (hall : ∀ name, .inr name ∈ Template.parse path.toList → name ∈ flattened) :
    (partlyFlat flattened piece).map flatChar = flatPiece piece := by
  cases piece with
  | inl c => rfl
  | inr name =>
      have hname := inr_mem_fragmentPieces.mp hpiece
      have hslash : '/' ∉ name := Template.not_mem_of_mem_parse hname (by decide)
      have hkept : name.map flatChar = name := by
        have hchars : ∀ c ∈ name, flatChar c = c := by
          intro c hc
          apply if_neg
          rintro rfl
          exact hslash hc
        rw [List.map_congr_left hchars, List.map_id']
      rw [partlyFlat_of_mem (hall name hname), List.map_cons, List.map_append, hkept]
      rfl

/-- Replacing the names of a path one after the other, in any order and with any repeats, is one
pass over its pieces. -/
theorem operationFragment_braced (hopen : '{' ∉ method.toList) (hclose : '}' ∉ method.toList)
    (hbraces : Template.BracesInGroups path) {params : List String}
    (hparams : ∀ name, name ∈ params ↔ name ∈ Template.names path) :
    operationFragment method (Template.braced path) params = flatFragment method path := by
  have hpieces := braceless_fragmentPieces hopen hclose hbraces
  have hnames : ∀ name ∈ params, '}' ∉ name.toList := fun name hname =>
    Template.not_mem_of_mem_parse (Template.mem_names_iff.mp ((hparams name).mp hname)) (by decide)
  have hall : ∀ name, .inr name ∈ Template.parse path.toList →
      name ∈ params.map String.toList := by
    intro name hname
    refine List.mem_map.mpr ⟨String.ofList name, ?_, String.toList_ofList⟩
    rw [hparams, Template.mem_names_iff, String.toList_ofList]
    exact hname
  have hsteps := foldl_flattenName hpieces hnames []
  rw [List.nil_append] at hsteps
  rw [operationFragment_eq, toList_append_braced, hsteps, replaceAll_singleton, flatFragment_eq,
    List.map_flatMap]
  exact List.flatMap_congr fun piece hpiece => map_flatChar_partlyFlat hpiece hall

theorem flatChar_eq_or (c : Char) : flatChar c = '_' ∨ flatChar c = c ∧ c ≠ '/' := by
  by_cases hslash : c = '/'
  · exact .inl (if_pos hslash)
  · exact .inr ⟨if_neg hslash, hslash⟩

/-- A fragment holds no slash and no brace. -/
theorem not_mem_flatFragment (hopen : '{' ∉ method.toList) (hclose : '}' ∉ method.toList)
    (hbraces : Template.BracesInGroups path) :
    ∀ c ∈ flatFragment method path, c ∉ ['/', '{', '}'] := by
  intro c hmem
  rw [flatFragment_eq] at hmem
  obtain ⟨piece, hpiece, hchar⟩ := List.mem_flatMap.mp hmem
  cases piece with
  | inl d =>
      obtain rfl : c = flatChar d := List.mem_singleton.mp hchar
      have hpieces := braceless_fragmentPieces hopen hclose hbraces _ hpiece
      obtain hscore | ⟨hsame, hslash⟩ := flatChar_eq_or d
      · rw [hscore]
        decide
      · simp only [pieceChars, List.mem_singleton, eq_comm (b := d)] at hpieces
        simp [hsame, hslash, hpieces]
  | inr name =>
      have hname := Template.isNameChar_of_mem_parse (inr_mem_fragmentPieces.mp hpiece)
      have hnamed : Template.isNameChar c = true := by
        simp only [flatPiece, List.mem_cons, List.mem_append, List.not_mem_nil, or_false] at hchar
        obtain rfl | hc | rfl := hchar
        · decide
        · exact hname c hc
        · decide
      intro hmark
      simp only [List.mem_cons, List.not_mem_nil, or_false] at hmark
      obtain rfl | rfl | rfl := hmark
      all_goals exact absurd hnamed (by decide)

end Pieces

/-- A link to a raw path's operation ends in the fragment of one pass over the path: every
placeholder stands between underscores, every slash has become one, and neither slashes nor
braces are left.  Names that are given in another order, or more than once, give the same link. -/
theorem locator_braced {method path : String} (hopen : '{' ∉ method.toList)
    (hclose : '}' ∉ method.toList) (hbraces : Template.BracesInGroups path)
    (docsRoot tag : String) :
    locator docsRoot tag method (Template.braced path) (Template.names path) =
        String.ofList (trimEnd '/' docsRoot.toList) ++ "/#/" ++ tag ++ "/" ++
          String.ofList (flatFragment method path) ∧
      (∀ c ∈ flatFragment method path, c ∉ ['/', '{', '}']) ∧
      ∀ params : List String, (∀ name, name ∈ params ↔ name ∈ Template.names path) →
        locator docsRoot tag method (Template.braced path) params =
          locator docsRoot tag method (Template.braced path) (Template.names path) := by
  have hfragment (params : List String)
      (hparams : ∀ name, name ∈ params ↔ name ∈ Template.names path) :
      operationFragment method (Template.braced path) params = flatFragment method path :=
    operationFragment_braced hopen hclose hbraces hparams
  have hown := hfragment (Template.names path) fun _ => Iff.rfl
  refine ⟨?_, not_mem_flatFragment hopen hclose hbraces, ?_⟩
  · rw [locator, hown]
  · intro params hparams
    rw [locator, locator, hfragment params hparams, hown]

/-- A name that repeats, one that another name begins with, and braces in a group. -/
theorem locator_braced_revisions :
    locator "/api-docs//" "files" "get" (Template.braced "/:id/id/:ids([a-f]{6})/:id")
        ["ids", "id", "ids"] = "/api-docs/#/files/get__id__id__ids___id_" ∧
      Template.names "/:id/id/:ids([a-f]{6})/:id" = ["id", "ids", "id"] := by
  have hnames : Template.names "/:id/id/:ids([a-f]{6})/:id" = ["id", "ids", "id"] := by
    decide +kernel
  obtain ⟨hlink, -, hgiven⟩ := locator_braced (by decide : '{' ∉ "get".toList) (by decide)
    (by decide +kernel : Template.BracesInGroups "/:id/id/:ids([a-f]{6})/:id")
    "/api-docs//" "files"
  refine ⟨?_, hnames⟩
  rw [hgiven ["ids", "id", "ids"] ?_, hlink]
  · decide +kernel
  · intro name
    rw [hnames]
    simp only [List.mem_cons, List.not_mem_nil, or_false]
    tauto

end RouteAtlas
