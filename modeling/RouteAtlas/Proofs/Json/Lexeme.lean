import Mathlib.Data.List.Basic
import RouteAtlas.Json.Nesting
import RouteAtlas.Json.Printer

/-!
# Texts and separators read back

What stands between quotes is read back character by character, whatever the characters are: a
character either stands for itself or is escaped, and the escape reads back as the character.
Between lexemes any blanks may stand, so the reader does not see which layout was written.
-/

namespace RouteAtlas.Json

theorem hexValue?_hexDigit : ∀ n < 16, hexValue? (hexDigit n) = some n := by
  decide

/-- A control character is escaped by its two hexadecimal digits. -/
theorem readEscape_hexDigits {c : Char} (hcontrol : c.toNat < 32) (rest : List Char) :
    readEscape ('u' :: '0' :: '0' :: hexDigit (c.toNat / 16) :: hexDigit (c.toNat % 16) :: rest) =
      .ok (c, rest) := by
  have hvalues : hexValues? '0' '0' (hexDigit (c.toNat / 16)) (hexDigit (c.toNat % 16)) =
      some c.toNat := by
    have hhigh := hexValue?_hexDigit (c.toNat / 16) (by omega)
    have hlow := hexValue?_hexDigit (c.toNat % 16) (by omega)
    have hzero : hexValue? '0' = some 0 := by decide
    simp only [hexValues?, hzero, hhigh, hlow, Option.bind_eq_bind, Option.bind_some,
      Option.pure_def, Option.some.injEq]
    omega
  have hread : readHex ('0' :: '0' :: hexDigit (c.toNat / 16) :: hexDigit (c.toNat % 16) :: rest) =
      .ok (c.toNat, rest) := by
    rw [readHex, hvalues]
  have htrail : ¬ (0xDC00 ≤ c.toNat ∧ c.toNat ≤ 0xDFFF) := by omega
  have hlead : c.toNat < 0xD800 ∨ 0xDBFF < c.toNat := by omega
  rw [readEscape, readUnicodeEscape, hread]
  simp [bind, Except.bind, pure, Except.pure, if_neg htrail, if_pos hlead, Char.ofNat_toNat]

/-- Between quotes a character stands for itself, or it is escaped under a name that reads back
as the character. -/
theorem escapeChar_cases (c : Char) :
    (escapeChar c = [c] ∧ c ≠ '"' ∧ c ≠ '\\' ∧ ¬ c.toNat < 32) ∨
      ∃ name, escapeChar c = '\\' :: name ∧
        ∀ rest, readEscape (name ++ rest) = .ok (c, rest) := by
  unfold escapeChar
  split_ifs with hquote hbackslash hbell hfeed hline hreturn htab hcontrol
  · exact .inr ⟨['"'], rfl, fun rest => by rw [hquote]; rfl⟩
  · exact .inr ⟨['\\'], rfl, fun rest => by rw [hbackslash]; rfl⟩
  · exact .inr ⟨_, rfl, fun rest => by rw [hbell]; rfl⟩
  · exact .inr ⟨_, rfl, fun rest => by rw [hfeed]; rfl⟩
  · exact .inr ⟨_, rfl, fun rest => by rw [hline]; rfl⟩
  · exact .inr ⟨_, rfl, fun rest => by rw [hreturn]; rfl⟩
  · exact .inr ⟨_, rfl, fun rest => by rw [htab]; rfl⟩
  · exact .inr ⟨_, rfl, readEscape_hexDigits hcontrol⟩
  · exact .inl ⟨rfl, hquote, hbackslash, hcontrol⟩

/-- One written character is read as that character, and reading goes on behind it. -/
theorem readChars_escapeChar (fuel : Nat) (c : Char) (rest : List Char) :
    readChars (fuel + 1) (escapeChar c ++ rest) =
      (readChars fuel rest).map fun read => (c :: read.1, read.2) := by
  rcases escapeChar_cases c with ⟨hself, hquote, hbackslash, hcontrol⟩ | ⟨name, hname, hread⟩
  · rw [hself, List.singleton_append, readChars, if_neg hquote, if_neg hbackslash,
      if_neg hcontrol]
    cases readChars fuel rest <;> rfl
  · rw [hname, List.cons_append, readChars, if_neg (by decide), if_pos rfl, hread]
    simp only [bind, Except.bind]
    cases readChars fuel rest <;> rfl

/-- The characters of a text are read back one by one, up to the quote that ends it. -/
theorem readChars_flatMap (chars rest : List Char) {fuel : Nat} (hfuel : chars.length < fuel) :
    readChars fuel (chars.flatMap escapeChar ++ '"' :: rest) = .ok (chars, rest) := by
  induction chars generalizing fuel with
  | nil =>
      obtain ⟨fuel, rfl⟩ := Nat.exists_eq_add_of_lt hfuel
      rfl
  | cons c chars ih =>
      obtain ⟨fuel, rfl⟩ := Nat.exists_eq_succ_of_ne_zero (Nat.ne_zero_of_lt hfuel)
      rw [List.length_cons, Nat.succ_lt_succ_iff] at hfuel
      rw [List.flatMap_cons, List.append_assoc, Nat.succ_eq_add_one, readChars_escapeChar,
        ih hfuel]
      rfl

theorem escapeChar_ne_nil (c : Char) : escapeChar c ≠ [] := by
  rcases escapeChar_cases c with ⟨hself, -⟩ | ⟨name, hname, -⟩
  · simp [hself]
  · simp [hname]

/-- Escapes make a text no shorter, so its length bounds how many characters are read. -/
theorem length_le_length_flatMap_escapeChar (chars : List Char) :
    chars.length ≤ (chars.flatMap escapeChar).length := by
  induction chars with
  | nil => exact Nat.zero_le _
  | cons c chars ih =>
      have hpos := List.length_pos_iff.mpr (escapeChar_ne_nil c)
      rw [List.flatMap_cons, List.length_append, List.length_cons]
      omega

/-- What a text is written as behind its opening quote. -/
def afterQuote (text : String) : List Char :=
  text.toList.flatMap escapeChar ++ ['"']

theorem writeText_eq_cons (text : String) : writeText text = '"' :: afterQuote text := rfl

/-- Any text reads back. -/
theorem readText_afterQuote (text : String) (rest : List Char) :
    readText (afterQuote text ++ rest) = .ok (text, rest) := by
  have hlength := length_le_length_flatMap_escapeChar text.toList
  rw [readText, afterQuote, List.append_assoc, List.singleton_append, readChars_flatMap]
  · simp [bind, Except.bind, pure, Except.pure]
  · rw [List.length_append, List.length_cons]
    omega

theorem readWord_append (word rest : List Char) : readWord word (word ++ rest) = .ok rest := by
  induction word with
  | nil => rfl
  | cons c word ih => rw [List.cons_append, readWord, if_pos rfl, ih]

section Blanks

/-- A text that separates nothing. -/
def Blank (cs : List Char) : Prop :=
  ∀ c ∈ cs, isSpace c = true

theorem blank_nil : Blank [] := by
  simp [Blank]

/-- Blanks in front make no difference to what is behind them. -/
theorem skipSpace_append {blank : List Char} (hblank : Blank blank) (cs : List Char) :
    skipSpace (blank ++ cs) = skipSpace cs :=
  List.dropWhile_append_of_pos hblank

theorem skipSpace_cons {c : Char} (hc : isSpace c = false) (cs : List Char) :
    skipSpace (c :: cs) = c :: cs :=
  List.dropWhile_cons_of_neg (by simp [hc])

theorem skipSpace_append_cons {blank : List Char} (hblank : Blank blank) {c : Char}
    (hc : isSpace c = false) (cs : List Char) : skipSpace (blank ++ c :: cs) = c :: cs := by
  rw [skipSpace_append hblank, skipSpace_cons hc]

/-- A layout in which lexemes are set apart by blanks only. -/
structure Layout.Blank (layout : Layout) : Prop where
  lineStart : ∀ level, Json.Blank (layout.lineStart level)
  afterColon : Json.Blank layout.afterColon

theorem blank_compact : compact.Blank where
  lineStart _ := blank_nil
  afterColon := blank_nil

theorem blank_pretty : pretty.Blank where
  lineStart level := by
    intro c hc
    rcases List.mem_cons.mp hc with rfl | hc
    · rfl
    · rw [List.eq_of_mem_replicate hc]
      rfl
  afterColon := by
    intro c hc
    rw [List.mem_singleton.mp hc]
    rfl

/-- What stands in front of an item: a comma, unless it is the first one. -/
def separator (first : Bool) : List Char :=
  if first then [] else [',']

variable {blank : List Char}

/-- Behind a comma, or at the front, the next item is found where it starts. -/
theorem nextItem_separator (hblank : Blank blank) (first : Bool) {c : Char}
    (hc : isSpace c = false) (hclose : c ≠ ']') (cs : List Char) :
    nextItem first (separator first ++ (blank ++ c :: cs)) = .ok (some (c :: cs)) := by
  have hskip : skipSpace (blank ++ c :: cs) = c :: cs :=
    skipSpace_append_cons hblank hc cs
  cases first with
  | true => simp [nextItem, separator, hskip, hclose]
  | false =>
      have hcomma : skipSpace (',' :: (blank ++ c :: cs)) = ',' :: (blank ++ c :: cs) := rfl
      simp [nextItem, separator, hcomma, hskip, hclose]

/-- No further item is found where the list ends. -/
theorem nextItem_close (hblank : Blank blank) (first : Bool) (cs : List Char) :
    nextItem first (blank ++ ']' :: cs) = .ok none := by
  have hskip : skipSpace (blank ++ ']' :: cs) = ']' :: cs :=
    skipSpace_append_cons hblank rfl cs
  simp [nextItem, hskip]

theorem nextKey_separator (hblank : Blank blank) (first : Bool) (cs : List Char) :
    nextKey first (separator first ++ (blank ++ '"' :: cs)) = .ok (some cs) := by
  have hskip : skipSpace (blank ++ '"' :: cs) = '"' :: cs :=
    skipSpace_append_cons hblank rfl cs
  cases first with
  | true => simp [nextKey, separator, hskip]
  | false =>
      have hcomma : skipSpace (',' :: (blank ++ '"' :: cs)) = ',' :: (blank ++ '"' :: cs) := rfl
      simp [nextKey, separator, hcomma, hskip]

theorem nextKey_close (hblank : Blank blank) (first : Bool) (cs : List Char) :
    nextKey first (blank ++ '}' :: cs) = .ok none := by
  have hskip : skipSpace (blank ++ '}' :: cs) = '}' :: cs :=
    skipSpace_append_cons hblank rfl cs
  simp [nextKey, hskip]

theorem readColon_cons (cs : List Char) : readColon (':' :: cs) = .ok cs := rfl

theorem closeList_append (hblank : Blank blank) (cs : List Char) :
    closeList (blank ++ ']' :: cs) = (none, cs) := by
  have hskip : skipSpace (blank ++ ']' :: cs) = ']' :: cs :=
    skipSpace_append_cons hblank rfl cs
  simp [closeList, hskip]

theorem closeTable_append (hblank : Blank blank) (cs : List Char) :
    closeTable (blank ++ '}' :: cs) = (none, cs) := by
  have hskip : skipSpace (blank ++ '}' :: cs) = '}' :: cs :=
    skipSpace_append_cons hblank rfl cs
  simp [closeTable, hskip]

end Blanks

end RouteAtlas.Json
