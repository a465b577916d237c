import RouteAtlas.Proofs.Registry.Token

/-!
# Escaped literals

A pattern may have been written with more escapes than a slash needs.  Characters with a meaning in
patterns have a backslash then, letters and digits have none, and every other character may have
one.  However a literal was escaped, and whichever tail and flags stand behind it, its pattern gives
the literal back, without the slashes at its end.

Some of the tails end with others.  The right one is taken off because a question mark of the
literal has a backslash before it, so that an escaped literal never ends like the longer tail.
-/

namespace RouteAtlas.Token

open Text

/-- The characters with a meaning of their own in patterns. -/
def metacharacters : List Char :=
  ['\\', '^', '$', '.', '|', '?', '*', '+', '(', ')', '[', ']', '{', '}']

/-- The ways to escape a literal: metacharacters and slashes have a backslash, letters and digits
have none, and any other character may have one. -/
inductive Escapes : List Char → List Char → Prop
  | nil : Escapes [] []
  | bare {c : Char} {literal escaped : List Char} (hmeta : c ∉ metacharacters) (hslash : c ≠ '/')
      (hrest : Escapes literal escaped) : Escapes (c :: literal) (c :: escaped)
  | backslash {c : Char} {literal escaped : List Char} (hplain : c.isAlphanum = false)
      (hrest : Escapes literal escaped) : Escapes (c :: literal) ('\\' :: c :: escaped)

section Escaped

variable {literal escaped : List Char}

/-- Taking escapes back gives the literal text, whichever characters were escaped. -/
theorem Escapes.unescape_eq (hescaped : Escapes literal escaped) : unescape escaped = literal := by
  induction hescaped with
  | nil => rfl
  | @bare c literal escaped hmeta hslash hrest ih =>
      have hback : c ≠ '\\' := by
        rintro rfl
        exact hmeta (by decide)
      rw [unescape_cons hback, ih]
  | backslash hplain hrest ih =>
      rw [unescape, isPlain, hplain, if_neg Bool.false_ne_true, ih]

/-- A question mark of an escaped literal has a backslash before it, and so no slash. -/
theorem Escapes.not_slash_question_suffix (hescaped : Escapes literal escaped) (before : Char) :
    ¬ ['/', '?'] <:+ before :: escaped := by
  induction hescaped generalizing before with
  | nil =>
      intro hends
      exact absurd hends.length_le (by simp)
  | @bare c literal escaped hmeta hslash hrest ih =>
      intro hends
      obtain hwhole | hends := List.suffix_cons_iff.mp hends
      · obtain ⟨-, hlast⟩ := List.cons.inj hwhole
        obtain ⟨rfl, -⟩ := List.cons.inj hlast
        exact hmeta (by decide)
      · exact ih c hends
  | @backslash c literal escaped hplain hrest ih =>
      intro hends
      obtain hwhole | hends := List.suffix_cons_iff.mp hends
      · exact absurd (congrArg List.length hwhole) (by simp)
      · obtain hwhole | hends := List.suffix_cons_iff.mp hends
        · exact absurd (List.cons.inj hwhole).1 (by decide)
        · exact ih c hends

end Escaped

/-- What two of the tails have in front of the other two. -/
def optionalSlash : List Char := "\\/?".toList

/-- No escaped text ends in an optional slash, so the longer tails are not taken off by mistake. -/
theorem Escapes.not_optionalSlash_suffix {literal escaped : List Char}
    (hescaped : Escapes literal escaped) : ¬ optionalSlash <:+ '\\' :: '/' :: escaped := by
  intro hends
  have hquestion : ['/', '?'] <:+ optionalSlash := by decide
  obtain hwhole | hbehind := List.suffix_cons_iff.mp (hquestion.trans hends)
  · exact absurd (List.cons.inj hwhole).1 (by decide)
  · exact hescaped.not_slash_question_suffix '/' hbehind

section Tails

variable {front : List Char}

theorem stripTail?_optionalSlash (hfront : ¬ optionalSlash <:+ front) (ending : List Char) :
    stripTail? (optionalSlash ++ ending) (front ++ ending) = none := by
  rw [stripTail?_eq_none_iff]
  rintro ⟨rest, hrest⟩
  rw [← List.append_assoc] at hrest
  exact hfront ⟨rest, List.append_cancel_right hrest⟩

theorem stripTail?_of_last_ne {tailLast last : Char} (hne : tailLast ≠ last)
    (tail front : List Char) : stripTail? (tail ++ [tailLast]) (front ++ [last]) = none := by
  simp [stripTail?, stripHead?, hne]

/-- Behind a front that does not end with an optional slash, the tail that is taken off is the one
that stands there. -/
theorem dropTail_append (hfront : ¬ optionalSlash <:+ front) {tail : List Char}
    (htail : tail ∈ tails) : dropTail (front ++ tail) = front := by
  have hfound : stripTail? tail (front ++ tail) = some front := stripTail?_append front tail
  -- The first two tails end with a parenthesis, the others with a dollar sign.
  have hlookahead (cs : List Char) : stripTail? lookahead (cs ++ "$".toList) = none :=
    stripTail?_of_last_ne (by decide) "\\/?(?=\\/|$".toList cs
  have hslashOrEnd (cs : List Char) : stripTail? "(?=\\/|$)".toList (cs ++ "$".toList) = none :=
    stripTail?_of_last_ne (by decide) "(?=\\/|$".toList cs
  rw [dropTail]
  simp only [tails, List.mem_cons, List.not_mem_nil, or_false] at htail
  obtain rfl | rfl | rfl | rfl := htail
  · simp only [tails, List.findSome?_cons, hfound, Option.getD_some]
  · have hlonger : stripTail? lookahead (front ++ "(?=\\/|$)".toList) = none :=
      stripTail?_optionalSlash hfront "(?=\\/|$)".toList
    simp only [tails, List.findSome?_cons, hlonger, hfound, Option.getD_some]
  · have hends : front ++ "\\/?$".toList = front ++ optionalSlash ++ "$".toList :=
      (List.append_assoc front optionalSlash "$".toList).symm
    rw [hends] at hfound ⊢
    simp only [tails, List.findSome?_cons, hlookahead, hslashOrEnd, hfound, Option.getD_some]
  · have hlonger : stripTail? "\\/?$".toList (front ++ "$".toList) = none :=
      stripTail?_optionalSlash hfront "$".toList
    simp only [tails, List.findSome?_cons, hlookahead, hslashOrEnd, hlonger, hfound,
      Option.getD_some]

end Tails

/-- The pattern of an escaped literal has the literal for its segment, without the slashes at its
end, whichever of the tails and whatever flags stand behind it. -/
theorem segment_of_escapes {literal escaped tail flags : String}
    (hescaped : Escapes literal.toList escaped.toList)
    (htail : tail ∈ ["\\/?(?=\\/|$)", "(?=\\/|$)", "\\/?$", "$"])
    (hflags : flags.toList.all Char.isAlpha = true) :
    (pattern ("/^\\/" ++ escaped ++ tail ++ "/" ++ flags)).segment =
      String.ofList (trimEnd '/' literal.toList) := by
  have htails : tail.toList ∈ tails := List.mem_map_of_mem htail
  have hdrop : dropTail ('\\' :: '/' :: escaped.toList ++ tail.toList) =
      '\\' :: '/' :: escaped.toList := dropTail_append hescaped.not_optionalSlash_suffix htails
  have htext : ("/^\\/" ++ escaped ++ tail ++ "/" ++ flags).toList =
      '/' :: ('^' :: ('\\' :: '/' :: escaped.toList ++ tail.toList) ++ '/' :: flags.toList) := by
    simp [String.toList_append]
  have hslash : dropHead ['\\', '/'] ('\\' :: '/' :: escaped.toList) = escaped.toList :=
    dropHead_append ['\\', '/'] escaped.toList
  rw [segment, htext, decodePattern_framed hdrop hflags, hslash, hescaped.unescape_eq]

theorem segment_of_escapes_punctuated :
    Escapes "é-1/$\\?/".toList "\\é-1\\/\\$\\\\\\?\\/".toList ∧
      (pattern "/^\\/\\é-1\\/\\$\\\\\\?\\/(?=\\/|$)/gi").segment = "é-1/$\\?" := by
  have hescaped : Escapes "é-1/$\\?/".toList "\\é-1\\/\\$\\\\\\?\\/".toList :=
    .backslash (by decide) <| .bare (by decide) (by decide) <| .bare (by decide) (by decide) <|
      .backslash (by decide) <| .backslash (by decide) <| .backslash (by decide) <|
      .backslash (by decide) <| .backslash (by decide) .nil
  have hsegment := @segment_of_escapes "é-1/$\\?/" "\\é-1\\/\\$\\\\\\?\\/" "(?=\\/|$)" "gi"
    hescaped (by decide) (by decide)
  exact ⟨hescaped, hsegment.trans (by decide)⟩

end RouteAtlas.Token
