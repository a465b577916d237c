import RouteAtlas.Proofs.Sitemap.Markup
import RouteAtlas.Proofs.Text.Occurrences
import RouteAtlas.Sitemap.Page

/-!
# The tags of a page

The tags of a page are those of its frame: so many for each entry, each badge and each line of
parameters, whatever the data says.  A measure of texts that vanishes on escaped data and adds up
over fragments is therefore told by the frame, and counting tags and counting entries are two such
measures.  The path of an entry can be read back from the page.
-/

namespace RouteAtlas.Sitemap

open Text

/-- The pieces of markup that pages are made of. -/
def frames : List String :=
  [opening, "\n    <li>\n      ", "<span class=\"method ", "\">", "</span>", "\n      <a href=\"",
    "</a>", "\n      <div class=\"params\">", "route", "query", "body", ": ", "</div>",
    "\n    </li>", closing]

/-- The number of parameter kinds of which an endpoint has some. -/
def paramKinds (endpoint : Endpoint) : Nat :=
  [endpoint.pathParams, endpoint.queryParams, endpoint.bodyParams].countP (!·.isEmpty)

/-- How often a tag is opened or closed in a fragment. -/
def tagMarks (fragment : Fragment) : Nat :=
  fragment.write.count '<'

def entryTag : List Char := ['<', 'l', 'i', '>']

/-- How many entries a fragment opens. -/
def entryTags (fragment : Fragment) : Nat :=
  occurrences entryTag fragment.write

/-- What holds of data and of the pieces of markup holds of every fragment of a page. -/
theorem forall_mem_page {P : Fragment → Prop} (hframe : ∀ markup ∈ frames, P (.frame markup))
    (hdatum : ∀ text, P (.datum text)) (endpoints : List Endpoint) :
    ∀ fragment ∈ page endpoints, P fragment := by
  simp only [frames, List.forall_mem_cons] at hframe
  obtain ⟨hopening, hitem, hspan, hquote, hspanEnd, hlink, hlinkEnd, hparams, hroute, hquery,
    hbody, hcolon, hparamsEnd, hitemEnd, hclosing, -⟩ := hframe
  have hbadge (method : String) : ∀ fragment ∈ badge method, P fragment := by
    simp only [badge, List.forall_mem_cons]
    exact ⟨hspan, hdatum _, hquote, hdatum _, hspanEnd, by simp⟩
  have hline (kind : String) (hkind : P (.frame kind)) (names : List String) :
      ∀ fragment ∈ paramLine kind names, P fragment := by
    rw [paramLine]
    cases names.isEmpty with
    | true => simp
    | false =>
        simp only [Bool.false_eq_true, if_false, List.forall_mem_cons]
        exact ⟨hparams, hkind, hcolon, hdatum _, hparamsEnd, by simp⟩
  have hentry (endpoint : Endpoint) : ∀ fragment ∈ entry endpoint, P fragment := by
    simp only [entry, List.forall_mem_append, List.forall_mem_cons, List.forall_mem_flatMap]
    exact ⟨⟨⟨⟨⟨⟨⟨hitem, by simp⟩, fun method _ => hbadge method⟩,
      hlink, hdatum _, hquote, hdatum _, hlinkEnd, by simp⟩, hline _ hroute _⟩,
      hline _ hquery _⟩, hline _ hbody _⟩, hitemEnd, by simp⟩
  simp only [page, List.forall_mem_append, List.forall_mem_cons, List.forall_mem_flatMap]
  exact ⟨⟨⟨hopening, by simp⟩, fun endpoint _ => hentry endpoint⟩, hclosing, by simp⟩

section Weight

variable {weight : Fragment → Nat}

def badgeWeight (weight : Fragment → Nat) : Nat :=
  weight (.frame "<span class=\"method ") + weight (.frame "\">") + weight (.frame "</span>")

/-- The weight of the frame of a line of parameters, less the name of their kind. -/
def lineWeight (weight : Fragment → Nat) : Nat :=
  weight (.frame "\n      <div class=\"params\">") + weight (.frame ": ") +
    weight (.frame "</div>")

def linkWeight (weight : Fragment → Nat) : Nat :=
  weight (.frame "\n      <a href=\"") + weight (.frame "\">") + weight (.frame "</a>")

/-- Every verb weighs as much as the frame of its badge. -/
theorem sum_badges (hdatum : ∀ text, weight (.datum text) = 0) (methods : List String) :
    ((methods.flatMap badge).map weight).sum = methods.length * badgeWeight weight := by
  induction methods with
  | nil => simp
  | cons method methods ih =>
      have hbadge : ((badge method).map weight).sum = badgeWeight weight := by
        simp only [badge, List.map_cons, List.map_nil, List.sum_cons, List.sum_nil, hdatum,
          badgeWeight]
        omega
      rw [List.flatMap_cons, List.map_append, List.sum_append, hbadge, ih, List.length_cons,
        Nat.succ_mul, Nat.add_comm]

/-- A line of parameters weighs as much as its frame, and nothing if it has no names. -/
theorem sum_paramLine (hdatum : ∀ text, weight (.datum text) = 0) {kind : String}
    (hkind : weight (.frame kind) = 0) (names : List String) :
    ((paramLine kind names).map weight).sum =
      (if names.isEmpty then 0 else 1) * lineWeight weight := by
  rw [paramLine]
  cases names.isEmpty with
  | true => simp
  | false =>
      simp only [Bool.false_eq_true, if_false, List.map_cons, List.map_nil, List.sum_cons,
        List.sum_nil, hdatum, hkind, lineWeight]
      omega

theorem paramKinds_eq (endpoint : Endpoint) :
    paramKinds endpoint = (if endpoint.pathParams.isEmpty then 0 else 1) +
      (if endpoint.queryParams.isEmpty then 0 else 1) +
      (if endpoint.bodyParams.isEmpty then 0 else 1) := by
  have hcount (empty : Bool) : (if (!empty) = true then 1 else 0) = if empty then 0 else 1 := by
    cases empty with
    | true => rfl
    | false => rfl
  simp only [paramKinds, List.countP_cons, List.countP_nil, hcount]
  omega

/-- A measure that vanishes on data is told by the frame of an entry. -/
theorem sum_entry (hdatum : ∀ text, weight (.datum text) = 0)
    (hkinds : ∀ kind ∈ ["route", "query", "body"], weight (.frame kind) = 0)
    (endpoint : Endpoint) :
    ((entry endpoint).map weight).sum =
      weight (.frame "\n    <li>\n      ") + endpoint.methods.length * badgeWeight weight +
        linkWeight weight + paramKinds endpoint * lineWeight weight +
        weight (.frame "\n    </li>") := by
  have hroute := sum_paramLine hdatum (hkinds "route" (by simp)) endpoint.pathParams
  have hquery := sum_paramLine hdatum (hkinds "query" (by simp)) endpoint.queryParams
  have hbody := sum_paramLine hdatum (hkinds "body" (by simp)) endpoint.bodyParams
  simp only [entry, List.map_append, List.sum_append, sum_badges hdatum, hroute, hquery, hbody,
    List.map_cons, List.map_nil, List.sum_cons, List.sum_nil, hdatum, paramKinds_eq,
    Nat.add_mul, linkWeight]
  omega

theorem sum_entries (weight : Fragment → Nat) (endpoints : List Endpoint) :
    ((endpoints.flatMap entry).map weight).sum =
      (endpoints.map fun endpoint => ((entry endpoint).map weight).sum).sum := by
  induction endpoints with
  | nil => rfl
  | cons endpoint endpoints ih =>
      rw [List.flatMap_cons, List.map_append, List.sum_append, ih, List.map_cons, List.sum_cons]

/-- A page weighs as much as its two ends and its entries. -/
theorem sum_page (weight : Fragment → Nat) (endpoints : List Endpoint) :
    ((page endpoints).map weight).sum =
      weight (.frame opening) +
        (endpoints.map fun endpoint => ((entry endpoint).map weight).sum).sum +
        weight (.frame closing) := by
  rw [page, List.map_append, List.map_append, List.sum_append, List.sum_append, sum_entries]
  rfl

end Weight

/-! ## Counting tags -/

theorem tagMarks_datum (text : String) : tagMarks (.datum text) = 0 :=
  List.count_eq_zero_of_not_mem (not_mem_escape (by decide) (by decide) text.toList)

/-- The count of a piece of markup that is given by its characters. -/
theorem tagMarks_ofList (cs : List Char) : tagMarks (.frame (String.ofList cs)) = cs.count '<' := by
  rw [tagMarks, Fragment.write, String.toList_ofList]

theorem toList_opening : ∃ cs, opening.toList = cs ∧ cs.count '<' = 13 ∧
    occurrences entryTag cs = 0 ∧ EndsWithin '<' 3 cs := by
  simp only [opening, String.toList_intercalate, List.map_cons, List.map_nil,
    String.toList_append]
  -- Every literal is replaced by its characters, which are faster to count than to decode.
  repeat rw [String.toList_ofList]
  exact ⟨_, rfl, by decide +kernel, by decide +kernel, by decide +kernel⟩

/-- An entry has four tags for its item and link, two for each verb and two for each line of
parameters. -/
theorem sum_tagMarks_entry (endpoint : Endpoint) :
    ((entry endpoint).map tagMarks).sum =
      4 + 2 * endpoint.methods.length + 2 * paramKinds endpoint := by
  have hitem : tagMarks (.frame "\n    <li>\n      ") = 1 := tagMarks_ofList _
  have hitemEnd : tagMarks (.frame "\n    </li>") = 1 := tagMarks_ofList _
  have hspan : tagMarks (.frame "<span class=\"method ") = 1 := tagMarks_ofList _
  have hquote : tagMarks (.frame "\">") = 0 := tagMarks_ofList _
  have hspanEnd : tagMarks (.frame "</span>") = 1 := tagMarks_ofList _
  have hlink : tagMarks (.frame "\n      <a href=\"") = 1 := tagMarks_ofList _
  have hlinkEnd : tagMarks (.frame "</a>") = 1 := tagMarks_ofList _
  have hparams : tagMarks (.frame "\n      <div class=\"params\">") = 1 := tagMarks_ofList _
  have hcolon : tagMarks (.frame ": ") = 0 := tagMarks_ofList _
  have hparamsEnd : tagMarks (.frame "</div>") = 1 := tagMarks_ofList _
  have hkinds : ∀ kind ∈ ["route", "query", "body"], tagMarks (.frame kind) = 0 := by
    simp only [List.forall_mem_cons]
    exact ⟨tagMarks_ofList _, tagMarks_ofList _, tagMarks_ofList _, by simp⟩
  rw [sum_entry tagMarks_datum hkinds, badgeWeight, linkWeight, lineWeight, hitem, hitemEnd,
    hspan, hquote, hspanEnd, hlink, hlinkEnd, hparams, hcolon, hparamsEnd]
  omega

/-! ## Counting entries -/

theorem entryTags_datum (text : String) : entryTags (.datum text) = 0 :=
  occurrences_eq_zero_of_not_mem (not_mem_escape (by decide) (by decide) text.toList)

theorem entryTags_ofList (cs : List Char) :
    entryTags (.frame (String.ofList cs)) = occurrences entryTag cs := by
  rw [entryTags, Fragment.write, String.toList_ofList]

theorem entryTags_item : entryTags (.frame "\n    <li>\n      ") = 1 := entryTags_ofList _

theorem badgeWeight_entryTags : badgeWeight entryTags = 0 := by
  have hspan : entryTags (.frame "<span class=\"method ") = 0 := entryTags_ofList _
  have hquote : entryTags (.frame "\">") = 0 := entryTags_ofList _
  have hspanEnd : entryTags (.frame "</span>") = 0 := entryTags_ofList _
  rw [badgeWeight, hspan, hquote, hspanEnd]

/-- An entry opens once. -/
theorem sum_entryTags_entry (endpoint : Endpoint) :
    ((entry endpoint).map entryTags).sum = 1 := by
  have hitemEnd : entryTags (.frame "\n    </li>") = 0 := entryTags_ofList _
  have hquote : entryTags (.frame "\">") = 0 := entryTags_ofList _
  have hlink : entryTags (.frame "\n      <a href=\"") = 0 := entryTags_ofList _
  have hlinkEnd : entryTags (.frame "</a>") = 0 := entryTags_ofList _
  have hparams : entryTags (.frame "\n      <div class=\"params\">") = 0 := entryTags_ofList _
  have hcolon : entryTags (.frame ": ") = 0 := entryTags_ofList _
  have hparamsEnd : entryTags (.frame "</div>") = 0 := entryTags_ofList _
  have hkinds : ∀ kind ∈ ["route", "query", "body"], entryTags (.frame kind) = 0 := by
    simp only [List.forall_mem_cons]
    exact ⟨entryTags_ofList _, entryTags_ofList _, entryTags_ofList _, by simp⟩
  rw [sum_entry entryTags_datum hkinds, badgeWeight_entryTags, linkWeight, lineWeight,
    entryTags_item, hitemEnd, hquote, hlink, hlinkEnd, hparams, hcolon, hparamsEnd]
  rfl

theorem endsWithin_ofList {cs : List Char} (hends : EndsWithin '<' 3 cs) :
    EndsWithin '<' 3 (Fragment.frame (String.ofList cs)).write := by
  rwa [Fragment.write, String.toList_ofList]

/-- No fragment of a page ends in the middle of the tag that opens an entry. -/
theorem endsWithin_of_mem_page (endpoints : List Endpoint) :
    ∀ fragment ∈ page endpoints, EndsWithin '<' 3 fragment.write := by
  refine forall_mem_page ?_ ?_ endpoints
  · obtain ⟨cs, hopening, -, -, hends⟩ := toList_opening
    simp only [frames, List.forall_mem_cons]
    refine ⟨by rw [Fragment.write, hopening]; exact hends, ?_, ?_, ?_, ?_, ?_, ?_, ?_, ?_, ?_, ?_,
      ?_, ?_, ?_, ?_, by simp⟩
    all_goals exact endsWithin_ofList (by decide)
  · intro text
    exact endsWithin_of_not_mem (not_mem_escape (by decide) (by decide) text.toList) 3

/-! ## A whole page -/

/-- No datum holds a mark of a tag or of a quoted value. -/
theorem not_mem_write_datum {mark : Char} (hmark : mark ∈ ['<', '>', '"', '\'']) (text : String) :
    mark ∉ (Fragment.datum text).write := by
  have hmarks : mark ∈ marks ∧ mark ≠ '&' := by
    simp only [List.mem_cons, List.not_mem_nil, or_false] at hmark
    rcases hmark with rfl | rfl | rfl | rfl <;> decide
  exact not_mem_escape hmarks.1 hmarks.2 text.toList

theorem count_tags_page (endpoints : List Endpoint) :
    ((page endpoints).flatMap Fragment.write).count '<' =
      16 + (endpoints.map fun endpoint =>
        4 + 2 * endpoint.methods.length + 2 * paramKinds endpoint).sum := by
  obtain ⟨cs, hopening, hcount, -, -⟩ := toList_opening
  have hopeningMarks : tagMarks (.frame opening) = 13 := by
    rw [tagMarks, Fragment.write, hopening, hcount]
  have hclosingMarks : tagMarks (.frame closing) = 3 := tagMarks_ofList _
  have hsum := sum_page tagMarks endpoints
  rw [hopeningMarks, hclosingMarks] at hsum
  simp only [sum_tagMarks_entry] at hsum
  rw [List.count_flatMap]
  exact hsum.trans (by omega)

theorem occurrences_entryTag_page (endpoints : List Endpoint) :
    occurrences entryTag ((page endpoints).flatMap Fragment.write) = endpoints.length := by
  obtain ⟨cs, hopening, -, hentries, -⟩ := toList_opening
  have hopeningTags : entryTags (.frame opening) = 0 := by
    rw [entryTags, Fragment.write, hopening, hentries]
  have hclosingTags : entryTags (.frame closing) = 0 := entryTags_ofList _
  have hsum := sum_page entryTags endpoints
  rw [hopeningTags, hclosingTags] at hsum
  have hcount : ((page endpoints).map entryTags).sum = endpoints.length := by
    simpa [sum_entryTags_entry] using hsum
  exact (occurrences_flatMap Fragment.write _ (endsWithin_of_mem_page endpoints)).trans hcount

/-- A fragment is a piece of the frame, or holds no mark. -/
theorem frame_or_unmarked (endpoints : List Endpoint) :
    ∀ fragment ∈ page endpoints, (∃ markup ∈ frames, fragment = .frame markup) ∨
      ∀ mark ∈ ['<', '>', '"', '\''], mark ∉ fragment.write := by
  refine forall_mem_page ?_ ?_ endpoints
  · exact fun markup hmarkup => Or.inl ⟨markup, hmarkup, rfl⟩
  · exact fun text => Or.inr fun _ hmark => not_mem_write_datum hmark text

/-! ## Reading a path back -/

/-- An entry links to its documentation if there is a link to it, and otherwise to its own path. -/
theorem target_eq (endpoint : Endpoint) :
    target endpoint = (endpoint.link.filter (· ≠ "")).getD endpoint.path := by
  rw [target]
  cases endpoint.link with
  | none => rfl
  | some link =>
      by_cases hempty : link = ""
      · simp [Option.filter, hempty]
      · simp [Option.filter, hempty]

/-- The fragments in front of the link of an entry, after those of earlier entries. -/
def beforeLink (earlier : List Endpoint) (endpoint : Endpoint) : List Fragment :=
  [.frame opening] ++ earlier.flatMap entry ++ [.frame "\n    <li>\n      "] ++
    endpoint.methods.flatMap badge

/-- The fragments in front of the path of an entry, the last of them where the link leads. -/
def beforePath (earlier : List Endpoint) (endpoint : Endpoint) : List Fragment :=
  beforeLink earlier endpoint ++ [.frame "\n      <a href=\"", .datum (target endpoint)]

/-- The fragments behind the path of an entry, up to the end of the page. -/
def behindPath (endpoint : Endpoint) (later : List Endpoint) : List Fragment :=
  paramLine "route" endpoint.pathParams ++ paramLine "query" endpoint.queryParams ++
    paramLine "body" endpoint.bodyParams ++ [.frame "\n    </li>"] ++ later.flatMap entry ++
    [.frame closing]

/-- The page as the link of one entry and what is around it. -/
theorem page_eq_around_path (earlier later : List Endpoint) (endpoint : Endpoint) :
    page (earlier ++ endpoint :: later) =
      beforePath earlier endpoint ++
        [.frame "\">", .datum endpoint.path, .frame "</a>"] ++ behindPath endpoint later := by
  simp only [page, entry, beforePath, beforeLink, behindPath, List.flatMap_append, List.flatMap_cons,
    List.append_assoc, List.cons_append, List.nil_append]

/-- In front of an entry's path, its own entry and the earlier ones are opened. -/
theorem occurrences_beforePath (earlier later : List Endpoint) (endpoint : Endpoint) :
    occurrences entryTag ((beforePath earlier endpoint).flatMap Fragment.write) =
      earlier.length + 1 := by
  have hends : ∀ fragment ∈ beforePath earlier endpoint, EndsWithin '<' 3 fragment.write := by
    intro fragment hfragment
    apply endsWithin_of_mem_page (earlier ++ endpoint :: later)
    rw [page_eq_around_path, List.append_assoc]
    exact List.mem_append_left _ hfragment
  have hopening : entryTags (.frame opening) = 0 := by
    obtain ⟨cs, htext, -, hcount, -⟩ := toList_opening
    rw [entryTags, Fragment.write, htext, hcount]
  have hlink : entryTags (.frame "\n      <a href=\"") = 0 := entryTags_ofList _
  have hearlier : ((earlier.flatMap entry).map entryTags).sum = earlier.length := by
    simp [sum_entries, sum_entryTags_entry]
  have hsum : ((beforePath earlier endpoint).map entryTags).sum = earlier.length + 1 := by
    simp only [beforePath, beforeLink, List.map_append, List.sum_append, hearlier, List.map_cons,
      List.map_nil, List.sum_cons, List.sum_nil, sum_badges entryTags_datum,
      badgeWeight_entryTags, hopening, hlink, entryTags_item, entryTags_datum]
    omega
  exact (occurrences_flatMap Fragment.write _ hends).trans hsum

theorem flatMap_write_beforePath (earlier : List Endpoint) (endpoint : Endpoint) :
    (beforePath earlier endpoint).flatMap Fragment.write =
      (beforeLink earlier endpoint).flatMap Fragment.write ++ "\n      <a href=\"".toList ++
        escape (target endpoint).toList := by
  simp only [beforePath, List.flatMap_append, List.flatMap_cons, List.flatMap_nil,
    Fragment.write, List.append_assoc, List.append_nil]

/-- The tags of a page are those of its frame, and an entry opens for each endpoint.  A fragment is
a piece of the frame, or data without any mark of a tag or a quoted value.  The link of an endpoint
stands in its own entry: where it leads reads back as the link to the documentation, or as the path
where there is none, and what it shows reads back as the path. -/
theorem tags_come_from_frame (endpoints : List Endpoint) :
    let text := (render endpoints).toList
    text.count '<' =
        16 + (endpoints.map fun endpoint =>
          4 + 2 * endpoint.methods.length +
            2 * [endpoint.pathParams, endpoint.queryParams, endpoint.bodyParams].countP
              fun names => !names.isEmpty).sum ∧
      occurrences "<li>".toList text = endpoints.length ∧
      (text = (page endpoints).flatMap Fragment.write ∧
        ∀ fragment ∈ page endpoints, (∃ markup ∈ frames, fragment = .frame markup) ∨
          ∀ mark ∈ ['<', '>', '"', '\''], mark ∉ fragment.write) ∧
      ∀ earlier endpoint later, endpoints = earlier ++ endpoint :: later →
        ∃ front link shown back,
          text = front ++ "\n      <a href=\"".toList ++ link ++ "\">".toList ++ shown ++
            "</a>".toList ++ back ∧
          occurrences "<li>".toList (front ++ "\n      <a href=\"".toList ++ link) =
            earlier.length + 1 ∧
          (∀ mark ∈ ['<', '>', '"', '\''], mark ∉ link ∧ mark ∉ shown) ∧
          unescape link = ((endpoint.link.filter (· ≠ "")).getD endpoint.path).toList ∧
          unescape shown = endpoint.path.toList := by
  intro text
  have htext : text = (page endpoints).flatMap Fragment.write := String.toList_ofList
  have hentryTag : "<li>".toList = entryTag := String.toList_ofList
  refine ⟨?_, ?_, ⟨htext, frame_or_unmarked endpoints⟩, ?_⟩
  · rw [htext]
    exact count_tags_page endpoints
  · rw [htext, hentryTag]
    exact occurrences_entryTag_page endpoints
  · rintro earlier endpoint later rfl
    refine ⟨(beforeLink earlier endpoint).flatMap Fragment.write,
      escape (target endpoint).toList, escape endpoint.path.toList,
      (behindPath endpoint later).flatMap Fragment.write, ?_, ?_, ?_, ?_, ?_⟩
    · rw [htext, page_eq_around_path, ← flatMap_write_beforePath]
      simp only [List.flatMap_append, List.flatMap_cons, List.flatMap_nil, Fragment.write,
        List.append_assoc, List.append_nil]
    · rw [hentryTag, ← flatMap_write_beforePath]
      exact occurrences_beforePath earlier later endpoint
    · intro mark hmark
      exact ⟨not_mem_write_datum hmark (target endpoint),
        not_mem_write_datum hmark endpoint.path⟩
    · rw [unescape_escape, target_eq]
    · exact unescape_escape endpoint.path.toList

end RouteAtlas.Sitemap
