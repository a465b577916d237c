import RouteAtlas.Text.WordRanges

/-!
# Classes of characters

A class of characters beyond ASCII is a list of closed ranges of code points.  A text falls into
words at its blanks, which are the white-space characters of the Unicode standard, so a no-break
space or a line separator also ends a word.  Identifiers in handler sources are runs of word
characters and dollar signs that start with an ASCII letter, an underscore or a dollar sign.
-/

namespace RouteAtlas.Text

/-- Whether a code point lies in one of the closed ranges. -/
def inRanges (ranges : List (Nat × Nat)) (point : Nat) : Bool :=
  ranges.any fun range => range.1 ≤ point && point ≤ range.2

theorem inRanges_eq_true_iff {ranges : List (Nat × Nat)} {point : Nat} :
    inRanges ranges point = true ↔
      ∃ range ∈ ranges, range.1 ≤ point ∧ point ≤ range.2 := by
  simp [inRanges]

/-! ## Blanks -/

def blankRanges : List (Nat × Nat) :=
  [(0x9, 0xd), (0x20, 0x20), (0x85, 0x85), (0xa0, 0xa0), (0x1680, 0x1680), (0x2000, 0x200a),
    (0x2028, 0x2029), (0x202f, 0x202f), (0x205f, 0x205f), (0x3000, 0x3000)]

def isBlank (c : Char) : Bool :=
  inRanges blankRanges c.toNat

def dropBlanks (cs : List Char) : List Char :=
  cs.dropWhile isBlank

/-- The maximal runs of characters between blanks, in order. -/
def wordsOf (cs : List Char) : List (List Char) :=
  (cs.splitOnP isBlank).filter fun word => !word.isEmpty

/-- The words of a text, in order and with repeats. -/
def words (text : String) : List String :=
  (wordsOf text.toList).map String.ofList

@[simp]
theorem wordsOf_nil : wordsOf [] = [] := by
  simp [wordsOf]

/-- A blank separates: no word reaches across it. -/
theorem wordsOf_append_cons {c : Char} (hblank : isBlank c = true) (left right : List Char) :
    wordsOf (left ++ c :: right) = wordsOf left ++ wordsOf right := by
  simp [wordsOf, List.splitOnP_append_cons, hblank]

theorem isBlank_space : isBlank ' ' = true := by decide

/-- Texts joined by a space have the words of the first, then those of the second. -/
theorem words_append_space (left right : String) :
    words (left ++ " " ++ right) = words left ++ words right := by
  have hspace : (" " : String).toList = [' '] := rfl
  simp [words, hspace, wordsOf_append_cons isBlank_space]

/-! ## Word characters -/

/-- Whether a character is a letter, a mark, a decimal digit, connecting punctuation or a
joiner. -/
def isWordChar (c : Char) : Bool :=
  if c.toNat < 128 then c.isAlphanum || c == '_' else inRanges wordRanges c.toNat

def isIdentStart (c : Char) : Bool :=
  c.isAlpha || c == '_' || c == '$'

def isIdentPart (c : Char) : Bool :=
  isWordChar c || c == '$'

/-- The longest identifier at the start of a text, and what follows it. -/
def takeIdent? : List Char → Option (List Char × List Char)
  | [] => none
  | c :: cs =>
    if isIdentStart c then some (c :: cs.takeWhile isIdentPart, cs.dropWhile isIdentPart)
    else none

/-- Splitting off an identifier loses nothing. -/
theorem takeIdent?_append {cs name rest : List Char} (h : takeIdent? cs = some (name, rest)) :
    name ++ rest = cs := by
  cases cs with
  | nil => simp [takeIdent?] at h
  | cons c cs =>
    simp only [takeIdent?] at h
    split at h
    · obtain ⟨rfl, rfl⟩ := by simpa using h
      simp
    · simp at h

end RouteAtlas.Text
