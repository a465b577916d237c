import RouteAtlas.Proofs.Text.Pieces
import RouteAtlas.Registry.Token

/-!
# The pattern of a prefix and its segment

The pattern of a prefix mount keeps its delimiters, its anchor and its tail around the escaped
path, so decoding finds the escaped path again.  Only slashes are escaped there, so a backslash
of the path itself may be taken for an escape.  It is lost exactly when another character than a
letter, a digit or a slash stands behind it; a path that loses none is given back, without the
slashes around it.
-/

namespace RouteAtlas

namespace Token

open Text

/-- Slashes and flags around a pattern are taken off. -/
theorem stripDelimiters_flags {flags : List Char} (hflags : flags.all Char.isAlpha = true)
    (body : List Char) : stripDelimiters ('/' :: (body ++ '/' :: flags)) = body := by
  have hslash : ∀ c ∈ flags.reverse, (c != '/') = true := by
    intro c hc
    have halpha := List.all_eq_true.mp hflags c (List.mem_reverse.mp hc)
    rw [bne_iff_ne]
    rintro rfl
    exact absurd halpha (by decide)
  have hreverse : (body ++ '/' :: flags).reverse = flags.reverse ++ '/' :: body.reverse := by simp
  have htake : (flags.reverse ++ '/' :: body.reverse).takeWhile (· != '/') = flags.reverse := by
    rw [List.takeWhile_append_of_pos hslash]
    simp
  have hdrop : (flags.reverse ++ '/' :: body.reverse).dropWhile (· != '/') =
      '/' :: body.reverse := by
    rw [List.dropWhile_append_of_pos hslash]
    simp
  rw [stripDelimiters, hreverse, htake, hdrop]
  simp [hflags]

theorem dropHead_append (head cs : List Char) : dropHead head (head ++ cs) = cs := by
  rw [dropHead, stripHead?_eq_some_iff.mpr rfl, Option.getD_some]

/-- The tail of a prefix pattern is taken off whole. -/
theorem dropTail_lookahead (cs : List Char) : dropTail (cs ++ lookahead) = cs := by
  rw [dropTail, tails, List.findSome?_cons, stripTail?_append, Option.getD_some]

/-- Between delimiters and anchor and a tail that is taken off, decoding has only a leading slash
and the escapes left to take back. -/
theorem decodePattern_framed {front tail flags : List Char}
    (htail : dropTail (front ++ tail) = front) (hflags : flags.all Char.isAlpha = true) :
    decodePattern ('/' :: ('^' :: (front ++ tail) ++ '/' :: flags)) =
      trimEnd '/' (unescape (dropHead ['\\', '/'] front)) := by
  have hanchor : dropHead ['^'] ('^' :: (front ++ tail)) = front ++ tail :=
    dropHead_append ['^'] (front ++ tail)
  rw [decodePattern, stripDelimiters_flags hflags, hanchor, htail]

/-- Decoding the pattern of a prefix only has the escapes left to take back. -/
theorem decodePattern_prefixPattern (path : List Char) :
    decodePattern (prefixPattern path) =
      trimEnd '/' (unescape (escapeSlashes (trimBoth '/' path))) := by
  have hbody (cs : List Char) :
      decodePattern ('/' :: ('^' :: (cs ++ lookahead) ++ '/' :: ['i'])) =
        trimEnd '/' (unescape (dropHead ['\\', '/'] cs)) :=
    decodePattern_framed (dropTail_lookahead cs) (by decide)
  rw [prefixPattern]
  cases htrimmed : trimBoth '/' path with
  | nil => exact hbody []
  | cons c cs =>
      have hslash : dropHead ['\\', '/'] ('\\' :: '/' :: escapeSlashes (c :: cs)) =
          escapeSlashes (c :: cs) := dropHead_append ['\\', '/'] _
      rw [← hslash, ← hbody]
      rfl

theorem unescape_cons {c : Char} (hc : c ≠ '\\') (cs : List Char) :
    unescape (c :: cs) = c :: unescape cs := by
  rw [unescape]
  rintro d rest rfl
  exact absurd rfl hc

/-- Whether every backslash of a text stands before a letter, a digit, a slash or the end. -/
def KeepsBackslashes (cs : List Char) : Prop :=
  ∀ before next after, cs = before ++ '\\' :: next :: after → isPlain next = true ∨ next = '/'

/-- Whether a character stays before a text when slashes are escaped and escapes taken back. -/
def StaysBefore (c : Char) (cs : List Char) : Prop :=
  c = '\\' → ∀ next, cs.head? = some next → isPlain next = true ∨ next = '/'

theorem keepsBackslashes_cons {c : Char} {cs : List Char} :
    KeepsBackslashes (c :: cs) ↔ StaysBefore c cs ∧ KeepsBackslashes cs := by
  constructor
  · intro hkeeps
    constructor
    · rintro rfl next hnext
      obtain ⟨after, rfl⟩ := List.head?_eq_some_iff.mp hnext
      exact hkeeps [] next after rfl
    · rintro before next after rfl
      exact hkeeps (c :: before) next after rfl
  · rintro ⟨hstays, hrest⟩ before next after heq
    cases before with
    | nil =>
        obtain ⟨rfl, rfl⟩ := List.cons.inj heq
        exact hstays rfl next rfl
    | cons d before => exact hrest before next after (List.cons.inj heq).2

theorem keepsBackslashes_of_not_mem {cs : List Char} (hplain : '\\' ∉ cs) :
    KeepsBackslashes cs := by
  rintro before next after rfl
  exact absurd (by simp) hplain

theorem escapeSlashes_cons {c : Char} (hslash : c ≠ '/') (cs : List Char) :
    escapeSlashes (c :: cs) = c :: escapeSlashes cs := by
  rw [escapeSlashes, List.flatMap_cons, if_neg hslash]
  rfl

theorem unescape_escapeSlashes_of_stays {c : Char} {cs : List Char} (hstays : StaysBefore c cs) :
    unescape (escapeSlashes (c :: cs)) = c :: unescape (escapeSlashes cs) := by
  by_cases hslash : c = '/'
  · subst hslash
    rfl
  · rw [escapeSlashes_cons hslash]
    by_cases hback : c = '\\'
    · subst hback
      cases cs with
      | nil => rfl
      | cons next rest =>
          -- An escaped slash is written with a backslash of its own, which is taken back for it.
          obtain hplain | rfl := hstays rfl next rfl
          · have hnext : next ≠ '/' := by
              rintro rfl
              exact absurd hplain (by decide)
            rw [escapeSlashes_cons hnext, unescape, if_pos hplain]
          · rfl
    · exact unescape_cons hback _

/-- A backslash in front of punctuation is lost, since it is taken for an escape. -/
theorem unescape_escapeSlashes_of_lost {next : Char} {rest : List Char}
    (hplain : isPlain next = false) (hslash : next ≠ '/') :
    unescape (escapeSlashes ('\\' :: next :: rest)) = next :: unescape (escapeSlashes rest) := by
  rw [escapeSlashes_cons (by decide), escapeSlashes_cons hslash, unescape, hplain]
  rfl

theorem not_staysBefore {c : Char} {cs : List Char} (hlost : ¬ StaysBefore c cs) :
    ∃ next rest, c = '\\' ∧ cs = next :: rest ∧ isPlain next = false ∧ next ≠ '/' := by
  simp only [StaysBefore, Classical.not_imp, not_forall, not_or] at hlost
  obtain ⟨hc, next, hnext, hplain, hslash⟩ := hlost
  obtain ⟨rest, rfl⟩ := List.head?_eq_some_iff.mp hnext
  exact ⟨next, rest, hc, rfl, by simpa using hplain, hslash⟩

/-- Where no backslash is taken for an escape, escaping slashes can be taken back. -/
theorem unescape_escapeSlashes {cs : List Char} (hkeeps : KeepsBackslashes cs) :
    unescape (escapeSlashes cs) = cs := by
  induction cs with
  | nil => rfl
  | cons c cs ih =>
      obtain ⟨hstays, hrest⟩ := keepsBackslashes_cons.mp hkeeps
      rw [unescape_escapeSlashes_of_stays hstays, ih hrest]

/-- Escaping and taking escapes back never makes a text longer. -/
theorem length_unescape_escapeSlashes_le (cs : List Char) :
    (unescape (escapeSlashes cs)).length ≤ cs.length := by
  induction cs using List.twoStepInduction with
  | nil => exact Nat.le_refl 0
  | singleton c =>
      rw [unescape_escapeSlashes_of_stays (by simp [StaysBefore])]
      exact Nat.le_refl 1
  | cons_cons c d cs ih ih' =>
      by_cases hstays : StaysBefore c (d :: cs)
      · rw [unescape_escapeSlashes_of_stays hstays]
        exact Nat.succ_le_succ (ih' d)
      · obtain ⟨next, rest, rfl, heq, hplain, hslash⟩ := not_staysBefore hstays
        obtain ⟨rfl, rfl⟩ := List.cons.inj heq
        rw [unescape_escapeSlashes_of_lost hplain hslash]
        simp only [List.length_cons]
        omega

/-- A backslash that is not kept is lost: the text comes back shorter. -/
theorem length_unescape_escapeSlashes_lt {cs : List Char} (hloses : ¬ KeepsBackslashes cs) :
    (unescape (escapeSlashes cs)).length < cs.length := by
  induction cs with
  | nil => exact absurd (keepsBackslashes_of_not_mem List.not_mem_nil) hloses
  | cons c cs ih =>
      by_cases hstays : StaysBefore c cs
      · have hrest : ¬ KeepsBackslashes cs := fun hkeeps =>
          hloses (keepsBackslashes_cons.mpr ⟨hstays, hkeeps⟩)
        rw [unescape_escapeSlashes_of_stays hstays]
        exact Nat.succ_lt_succ (ih hrest)
      · obtain ⟨next, rest, rfl, rfl, hplain, hslash⟩ := not_staysBefore hstays
        rw [unescape_escapeSlashes_of_lost hplain hslash]
        have hle := length_unescape_escapeSlashes_le rest
        simp only [List.length_cons]
        omega

/-- A prefix is given back, without the slashes around it, exactly when every backslash left in
it stands before a letter, a digit, a slash or the end. -/
theorem segment_ofPrefix_eq_iff (path : String) :
    (ofPrefix path).segment = String.ofList (trimBoth '/' path.toList) ↔
      KeepsBackslashes (trimBoth '/' path.toList) := by
  have hsegment : (ofPrefix path).segment =
      String.ofList (trimEnd '/' (unescape (escapeSlashes (trimBoth '/' path.toList)))) := by
    rw [ofPrefix, segment, String.toList_ofList, decodePattern_prefixPattern]
  rw [hsegment, String.ofList_inj]
  constructor
  · intro hback
    by_contra hloses
    have hshorter := length_unescape_escapeSlashes_lt hloses
    have htrimmed := (trimEnd_prefix_self '/'
      (unescape (escapeSlashes (trimBoth '/' path.toList)))).length_le
    rw [hback] at htrimmed
    omega
  · intro hkeeps
    rw [unescape_escapeSlashes hkeeps, trimEnd_trimBoth]

example : (ofPrefix "/files\\.v2/").segment = "files.v2" := by decide

/-- A prefix without backslashes is its own segment, without the slashes around it. -/
theorem segment_ofPrefix {path : String} (hplain : '\\' ∉ path.toList) :
    (ofPrefix path).segment = String.ofList (trimBoth '/' path.toList) := by
  have htrimmed : '\\' ∉ trimBoth '/' path.toList := fun hmem =>
    hplain (mem_of_mem_trimBoth hmem)
  rw [ofPrefix, segment, String.toList_ofList, decodePattern_prefixPattern,
    unescape_escapeSlashes (keepsBackslashes_of_not_mem htrimmed), trimEnd_trimBoth]

end Token

/-- A trimmed segment is appended behind one slash, and an empty one not at all. -/
theorem joinSegment_trimBoth (base : String) (path : List Char) :
    joinSegment base (String.ofList (Text.trimBoth '/' path)) =
      if Text.trimBoth '/' path = [] then base
      else base ++ "/" ++ String.ofList (Text.trimBoth '/' path) := by
  rw [joinSegment, String.toList_ofList, Text.trimEnd_trimBoth]
  have hhead := Text.head?_trimBoth_ne '/' path
  cases htrimmed : Text.trimBoth '/' path with
  | nil => simp
  | cons c cs =>
      rw [htrimmed] at hhead
      have hc : c ≠ '/' := by simpa using hhead
      simp [hc]

end RouteAtlas
