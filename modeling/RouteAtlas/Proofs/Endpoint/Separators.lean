import RouteAtlas.Proofs.Endpoint.Enumeration
import RouteAtlas.Proofs.Registry.Token

/-!
# Slashes between segments

A walk appends the segments of the tokens that it comes to.  A segment of slashes alone adds nothing,
and any other stands behind one slash, without slashes at its end, unless it starts with two slashes
itself: all but the first of them stay.  The segments of prefix mounts never do.
-/

namespace RouteAtlas

open Text

def Layer.token? : Layer → Option Token
  | .route _ => none
  | .mount token _ => some token
  | .middleware leaf => some leaf.token

/-- A walk of some layers from `start` comes to a layer with `base` accumulated in front of it. -/
inductive Reaches : (start : String) → List Layer → (base : String) → Layer → Prop
  | here {start : String} {siblings : List Layer} {layer : Layer} (hmem : layer ∈ siblings) :
      Reaches start siblings start layer
  | inside {start base : String} {siblings layers : List Layer} {token : Token} {layer : Layer}
      (hmem : .mount token layers ∈ siblings)
      (hreaches : Reaches (joinSegment start token.segment) layers base layer) :
      Reaches start siblings base layer

/-- Whether a segment is made of slashes alone, if of anything. -/
def OnlySlashes (segment : String) : Prop :=
  ∀ c ∈ segment.toList, c = '/'

instance (segment : String) : Decidable (OnlySlashes segment) :=
  List.decidableBAll (· = '/') segment.toList

/-- Whether a path goes on behind exactly one slash when a segment is appended, and stays as it is
when the segment is made of slashes. -/
def SeparatesOnce (base segment : String) : Prop :=
  (OnlySlashes segment → joinSegment base segment = base) ∧
    (¬ OnlySlashes segment → ∃ rest : String,
      joinSegment base segment = base ++ "/" ++ rest ∧ rest ≠ "" ∧
        rest.toList.head? ≠ some '/' ∧ rest.toList.getLast? ≠ some '/')

section Reaches

variable {start base : String} {layers : List Layer} {layer : Layer}

theorem walk_isInfix_walkAll (hmem : layer ∈ layers) (start : String) :
    layer.walk start <:+: Layer.walkAll start layers := by
  obtain ⟨front, back, rfl⟩ := List.append_of_mem hmem
  rw [Layer.walkAll_append, Layer.walkAll]
  exact ⟨Layer.walkAll start front, Layer.walkAll start back, List.append_assoc _ _ _⟩

/-- What a layer yields behind the path accumulated in front of it is a part of the walk. -/
theorem Reaches.walk_isInfix (hreaches : Reaches start layers base layer) :
    layer.walk base <:+: Layer.walkAll start layers := by
  induction hreaches with
  | here hmem => exact walk_isInfix_walkAll hmem _
  | @inside start _ _ _ _ _ hmem hreaches ih =>
      have houter := walk_isInfix_walkAll hmem start
      rw [Layer.walk] at houter
      exact ih.trans houter

/-- The path accumulated at any place of a walk from a base is a base. -/
theorem Reaches.isBase (hreaches : Reaches start layers base layer) (hstart : IsBase start) :
    IsBase base := by
  induction hreaches with
  | here hmem => exact hstart
  | inside hmem hreaches ih => exact ih (isBase_joinSegment hstart _)

end Reaches

section Joining

variable {segment : String}

/-- A segment made of slashes is one of which nothing is left when its end is trimmed. -/
theorem onlySlashes_iff : OnlySlashes segment ↔ trimEnd '/' segment.toList = [] := by
  rw [trimEnd_eq_rdropWhile, List.rdropWhile_eq_nil_iff, OnlySlashes]
  simp only [beq_iff_eq]

theorem joinSegment_of_onlySlashes (honly : OnlySlashes segment) (base : String) :
    joinSegment base segment = base := by
  rw [joinSegment, onlySlashes_iff.mp honly]

/-- Behind the slash stands the rest of the segment, without the slashes at its end.  It starts with
a slash again when the segment starts with two. -/
theorem exists_joinSegment_eq (hmore : ¬ OnlySlashes segment) (base : String) :
    ∃ rest : String, joinSegment base segment = base ++ "/" ++ rest ∧ rest ≠ "" ∧
      (rest.toList.head? = some '/' ↔ ['/', '/'] <+: segment.toList) ∧
      rest.toList.getLast? ≠ some '/' := by
  obtain ⟨c, cs, htrimmed⟩ := List.exists_cons_of_ne_nil (mt onlySlashes_iff.mpr hmore)
  have hlast := getLast?_trimEnd_ne '/' segment.toList
  obtain ⟨tail, htail⟩ := trimEnd_prefix_self '/' segment.toList
  rw [htrimmed] at hlast htail
  rw [joinSegment, htrimmed, ← htail]
  by_cases hslash : c = '/'
  · subst hslash
    cases cs with
    | nil => exact absurd rfl hlast
    | cons d cs =>
        refine ⟨String.ofList (d :: cs), ?_, by simp, ?_, ?_⟩
        · rw [← String.toList_inj]
          simp
        · simp [eq_comm]
        · simpa using hlast
  · refine ⟨String.ofList (c :: cs), ?_, by simp, ?_, ?_⟩
    · simp [hslash]
    · simp [hslash, Ne.symm hslash]
    · simpa using hlast

/-- A segment is separated once exactly when it is made of slashes or does not start with two. -/
theorem separatesOnce_iff (base : String) :
    SeparatesOnce base segment ↔ OnlySlashes segment ∨ ¬ ['/', '/'] <+: segment.toList := by
  constructor
  · rintro ⟨-, hseparates⟩
    refine or_iff_not_imp_left.mpr fun hmore hdouble => ?_
    obtain ⟨rest, hjoined, -, hhead, -⟩ := hseparates hmore
    obtain ⟨other, hother, -, hstarts, -⟩ := exists_joinSegment_eq hmore base
    rw [hother] at hjoined
    obtain rfl : other = rest := String.append_right_inj _ |>.mp hjoined
    exact hhead (hstarts.mpr hdouble)
  · intro honce
    refine ⟨fun honly => joinSegment_of_onlySlashes honly base, fun hmore => ?_⟩
    obtain ⟨rest, hjoined, hne, hstarts, hends⟩ := exists_joinSegment_eq hmore base
    have hsingle := honce.resolve_left hmore
    exact ⟨rest, hjoined, hne, fun hhead => hsingle (hstarts.mp hhead), hends⟩

end Joining

/-- The segment of a prefix mount does not start with a slash, whatever the prefix. -/
theorem Token.head?_segment_ofPrefix_ne (path : String) :
    (ofPrefix path).segment.toList.head? ≠ some '/' := by
  have hfront : (unescape (escapeSlashes (trimBoth '/' path.toList))).head? ≠ some '/' := by
    have hhead := head?_trimBoth_ne '/' path.toList
    cases htrimmed : trimBoth '/' path.toList with
    | nil => simp [escapeSlashes, unescape]
    | cons c cs =>
        rw [htrimmed] at hhead
        by_cases hstays : StaysBefore c cs
        · rwa [unescape_escapeSlashes_of_stays hstays]
        · obtain ⟨next, rest, rfl, rfl, hplain, hslash⟩ := not_staysBefore hstays
          rw [unescape_escapeSlashes_of_lost hplain hslash]
          simpa using hslash
  rw [ofPrefix, segment, String.toList_ofList, String.toList_ofList, decodePattern_prefixPattern]
  intro hslash
  obtain ⟨rest, hrest⟩ := List.head?_eq_some_iff.mp hslash
  obtain ⟨tail, htail⟩ := trimEnd_prefix_self '/'
    (unescape (escapeSlashes (trimBoth '/' path.toList)))
  rw [← htail, hrest] at hfront
  exact hfront rfl

/-- Where a walk from the root comes to a mount or to middleware, the accumulated path ends without a
slash, and the segment is separated from it once exactly when it is made of slashes or does not start
with two.  The segments of prefix mounts are always separated once. -/
theorem segments_separate_once_iff (registry : Registry) :
    (∀ base layer token, Reaches "" registry.layers base layer → layer.token? = some token →
        layer.walk base <:+: registry.walk ∧ base.toList.getLast? ≠ some '/' ∧
          (SeparatesOnce base token.segment ↔
            OnlySlashes token.segment ∨ ¬ ['/', '/'] <+: token.segment.toList)) ∧
      ∀ base path, SeparatesOnce base (Token.ofPrefix path).segment := by
  constructor
  · intro base layer token hreaches _
    exact ⟨hreaches.walk_isInfix, (hreaches.isBase isBase_empty).ends, separatesOnce_iff base⟩
  · intro base path
    refine (separatesOnce_iff base).mpr (Or.inr fun hdouble => ?_)
    apply Token.head?_segment_ofPrefix_ne path
    obtain ⟨rest, hrest⟩ := hdouble
    rw [← hrest]
    rfl

/-- A mount of slashes and a version with a slash at its end, inside a prefix mount. -/
def versioned : Registry :=
  ⟨[.mount (.pattern "/^\\/api\\/?(?=\\/|$)/i")
    [.mount (.path "//") [], .middleware ⟨.path "v1/", none⟩]]⟩

theorem segments_separate_once_versioned :
    Reaches "" versioned.layers "/api" (.mount (.path "//") []) ∧ SeparatesOnce "/api" "//" ∧
      Reaches "" versioned.layers "/api" (.middleware ⟨.path "v1/", none⟩) ∧
        SeparatesOnce "/api" "v1/" := by
  have hslashes : Reaches "" versioned.layers "/api" (.mount (.path "//") []) :=
    .inside List.mem_cons_self (.here List.mem_cons_self)
  have hversion : Reaches "" versioned.layers "/api" (.middleware ⟨.path "v1/", none⟩) :=
    .inside List.mem_cons_self (.here (List.mem_cons_of_mem _ List.mem_cons_self))
  obtain ⟨hseparates, -⟩ := segments_separate_once_iff versioned
  exact ⟨hslashes, (hseparates _ _ _ hslashes rfl).2.2.mpr (Or.inl (by decide)),
    hversion, (hseparates _ _ _ hversion rfl).2.2.mpr (Or.inr (by decide))⟩

/-- Middleware at a path that starts with two slashes, inside a mount. -/
def doubled : Registry :=
  ⟨[.mount (.path "/v1") [.middleware ⟨.path "//users", none⟩]]⟩

theorem doubled_not_separated_once :
    doubled.walk = [.bare "get" "/v1//users" []] ∧
      ¬ ∀ base layer token, Reaches "" doubled.layers base layer → layer.token? = some token →
        SeparatesOnce base token.segment := by
  refine ⟨by decide, fun hseparates => ?_⟩
  have hreaches : Reaches "" doubled.layers "/v1" (.middleware ⟨.path "//users", none⟩) :=
    .inside List.mem_cons_self (.here List.mem_cons_self)
  obtain honly | hsingle := (separatesOnce_iff "/v1").mp (hseparates _ _ _ hreaches rfl)
  · exact absurd honly (by decide)
  · exact hsingle (by decide)

end RouteAtlas
