import RouteAtlas.Text.CharClass

/-!
# Words hold no blanks

A word taken from a text is not empty and holds no blank, so a word read on its own is the one
word that it is.
-/

namespace RouteAtlas.Text

/-- A part between marks has only characters of the text, and no mark. -/
theorem mem_of_mem_splitOnP (mark : Char → Bool) {cs part : List Char}
    (hpart : part ∈ cs.splitOnP mark) : ∀ c ∈ part, c ∈ cs ∧ mark c = false := by
  induction cs generalizing part with
  | nil => simp_all
  | cons c cs ih =>
      have htail {other : List Char} (hother : other ∈ cs.splitOnP mark) :
          ∀ d ∈ other, d ∈ c :: cs ∧ mark d = false := fun d hd =>
        (ih hother d hd).imp_left (List.mem_cons_of_mem c)
      rw [List.splitOnP_cons_eq_if_modifyHead] at hpart
      by_cases hmark : mark c = true
      · rw [if_pos hmark, List.mem_cons] at hpart
        rcases hpart with rfl | hrest
        · simp
        · exact htail hrest
      · rw [if_neg hmark] at hpart
        cases hsplit : cs.splitOnP mark with
        | nil => exact absurd hsplit (List.splitOnP_ne_nil mark cs)
        | cons first rest =>
            rw [hsplit, List.modifyHead_cons, List.mem_cons] at hpart
            rcases hpart with rfl | hrest
            · intro d hd
              rcases List.mem_cons.mp hd with rfl | hd
              · exact ⟨List.mem_cons_self, Bool.eq_false_iff.mpr hmark⟩
              · exact htail (hsplit ▸ List.mem_cons_self) d hd
            · exact htail (hsplit ▸ List.mem_cons_of_mem first hrest)

theorem eq_false_of_mem_splitOnP (mark : Char → Bool) {cs part : List Char}
    (hpart : part ∈ cs.splitOnP mark) : ∀ c ∈ part, mark c = false :=
  fun c hc => (mem_of_mem_splitOnP mark hpart c hc).2

theorem mem_wordsOf {cs word : List Char} (hword : word ∈ wordsOf cs) :
    word ≠ [] ∧ ∀ c ∈ word, isBlank c = false := by
  rw [wordsOf, List.mem_filter] at hword
  obtain ⟨hpart, hne⟩ := hword
  exact ⟨by simpa using hne, eq_false_of_mem_splitOnP isBlank hpart⟩

theorem mem_of_mem_wordsOf {cs word : List Char} (hword : word ∈ wordsOf cs) {c : Char}
    (hc : c ∈ word) : c ∈ cs := by
  rw [wordsOf, List.mem_filter] at hword
  exact (mem_of_mem_splitOnP isBlank hword.1 c hc).1

/-- A text without blanks is one word. -/
theorem wordsOf_eq_singleton {cs : List Char} (hne : cs ≠ [])
    (hblank : ∀ c ∈ cs, isBlank c = false) : wordsOf cs = [cs] := by
  rw [wordsOf, List.splitOnP_eq_singleton hblank]
  simpa using hne

/-- A word of a text is its own only word. -/
theorem words_of_mem_words {text word : String} (hword : word ∈ words text) :
    words word = [word] := by
  rw [words, List.mem_map] at hword
  obtain ⟨cs, hcs, rfl⟩ := hword
  obtain ⟨hne, hblank⟩ := mem_wordsOf hcs
  rw [words, String.toList_ofList, wordsOf_eq_singleton hne hblank]
  rfl

/-- Texts joined by spaces have the words of each, in order. -/
theorem words_intercalate (texts : List String) :
    words (" ".intercalate texts) = texts.flatMap words := by
  induction texts with
  | nil => simp [words]
  | cons text texts ih =>
      cases texts with
      | nil => simp
      | cons next texts =>
          rw [String.intercalate_cons_cons, words_append_space, ih]
          rfl

theorem wordsOf_ne_nil {c : Char} {cs : List Char} (hc : c ∈ cs) (hblank : isBlank c = false) :
    wordsOf cs ≠ [] := by
  induction cs with
  | nil => simp at hc
  | cons d cs ih =>
      by_cases hd : isBlank d = true
      · obtain rfl | hmem := List.mem_cons.mp hc
        · rw [hd] at hblank
          exact absurd hblank (by decide)
        · have hskip : wordsOf ([] ++ d :: cs) = wordsOf [] ++ wordsOf cs :=
            wordsOf_append_cons hd [] cs
          rw [wordsOf_nil, List.nil_append, List.nil_append] at hskip
          rw [hskip]
          exact ih hmem
      · -- The first word starts with a character that is no blank.
        obtain ⟨first, rest, hsplit⟩ :=
          List.exists_cons_of_ne_nil (List.splitOnP_ne_nil isBlank cs)
        rw [wordsOf, List.splitOnP_cons_eq_if_modifyHead, if_neg hd, hsplit]
        simp

end RouteAtlas.Text
