import RouteAtlas.Text.CharClass
import RouteAtlas.Text.Pieces

/-!
# Runs at the start of a text

A run of characters of a class ends where a character outside the class stands.  A known head,
a run and an identifier are each read from a text alike whatever is written behind it, as long
as that starts with a character which cannot prolong them.  An identifier is followed by
blanks without a separator, since no blank belongs to one.
-/

namespace RouteAtlas.Text

/-- Whether a text is empty or starts with a character outside the class. -/
def StartsOutside (p : Char → Bool) (cs : List Char) : Prop :=
  ∀ c ∈ cs.head?, p c = false

section StartsOutside

variable {p : Char → Bool}

@[simp]
theorem startsOutside_nil (p : Char → Bool) : StartsOutside p [] := by
  simp [StartsOutside]

@[simp]
theorem startsOutside_cons {c : Char} {cs : List Char} :
    StartsOutside p (c :: cs) ↔ p c = false := by
  simp [StartsOutside]

theorem StartsOutside.mono {q : Char → Bool} {cs : List Char} (hcs : StartsOutside q cs)
    (hpq : ∀ c, p c = true → q c = true) : StartsOutside p cs := by
  intro c hc
  rw [Bool.eq_false_iff]
  intro hp
  have hq := hcs c hc
  rw [hpq c hp] at hq
  exact absurd hq (by decide)

/-- What is left behind a run starts outside its class. -/
theorem startsOutside_dropWhile (p : Char → Bool) (cs : List Char) :
    StartsOutside p (cs.dropWhile p) := by
  intro c hc
  have hhead := List.head?_dropWhile_not p cs
  rw [Option.mem_def.mp hc] at hhead
  exact hhead

/-- A run of the class in front hides how the text behind it starts. -/
theorem startsOutside_append {q : Char → Bool} {run rest : List Char}
    (hrun : ∀ c ∈ run, q c = true) (hpq : ∀ c, q c = true → p c = false)
    (hrest : StartsOutside p rest) : StartsOutside p (run ++ rest) := by
  cases run with
  | nil => exact hrest
  | cons c run => exact startsOutside_cons.mpr (hpq c (hrun c List.mem_cons_self))

/-- A text that starts outside a class does not lengthen a run in front of it. -/
theorem StartsOutside.takeWhile_append {rest : List Char} (hrest : StartsOutside p rest)
    (cs : List Char) : (cs ++ rest).takeWhile p = cs.takeWhile p := by
  induction cs with
  | nil =>
      cases rest with
      | nil => rfl
      | cons c rest => rw [List.nil_append, List.takeWhile_cons, startsOutside_cons.mp hrest]; rfl
  | cons c cs ih =>
      by_cases hc : p c = true
      · rw [List.cons_append, List.takeWhile_cons_of_pos hc, ih, List.takeWhile_cons_of_pos hc]
      · rw [List.cons_append, List.takeWhile_cons_of_neg hc, List.takeWhile_cons_of_neg hc]

theorem StartsOutside.dropWhile_append {rest : List Char} (hrest : StartsOutside p rest)
    (cs : List Char) : (cs ++ rest).dropWhile p = cs.dropWhile p ++ rest := by
  induction cs with
  | nil =>
      cases rest with
      | nil => rfl
      | cons c rest => rw [List.nil_append, List.dropWhile_cons, startsOutside_cons.mp hrest]; rfl
  | cons c cs ih =>
      by_cases hc : p c = true
      · rw [List.cons_append, List.dropWhile_cons_of_pos hc, ih, List.dropWhile_cons_of_pos hc]
      · rw [List.cons_append, List.dropWhile_cons_of_neg hc, List.dropWhile_cons_of_neg hc,
          List.cons_append]

theorem StartsOutside.takeWhile_eq_nil {rest : List Char} (hrest : StartsOutside p rest) :
    rest.takeWhile p = [] :=
  hrest.takeWhile_append []

theorem StartsOutside.dropWhile_eq {rest : List Char} (hrest : StartsOutside p rest) :
    rest.dropWhile p = rest :=
  hrest.dropWhile_append []

/-- A run of the class is taken whole. -/
theorem StartsOutside.takeWhile_run {run rest : List Char} (hrest : StartsOutside p rest)
    (hrun : ∀ c ∈ run, p c = true) : (run ++ rest).takeWhile p = run := by
  rw [List.takeWhile_append_of_pos hrun, hrest.takeWhile_eq_nil, List.append_nil]

theorem StartsOutside.dropWhile_run {run rest : List Char} (hrest : StartsOutside p rest)
    (hrun : ∀ c ∈ run, p c = true) : (run ++ rest).dropWhile p = rest := by
  rw [List.dropWhile_append_of_pos hrun, hrest.dropWhile_eq]

end StartsOutside

/-- A known head is read alike in front of a text that starts with none of its characters. -/
theorem stripHead?_append {head rest : List Char} (hrest : StartsOutside (· ∈ head) rest)
    (cs : List Char) :
    stripHead? head (cs ++ rest) = (stripHead? head cs).map fun tail => tail ++ rest := by
  induction head generalizing cs with
  | nil => rfl
  | cons h head ih =>
      cases cs with
      | nil =>
          cases rest with
          | nil => rfl
          | cons c rest =>
              have hc : h ≠ c := by
                rintro rfl
                simp at hrest
              exact if_neg hc
      | cons c cs =>
          have htail : StartsOutside (· ∈ head) rest := hrest.mono (by simp +contextual)
          rw [List.cons_append, stripHead?, stripHead?]
          by_cases heq : h = c
          · rw [if_pos heq, if_pos heq, ih htail]
          · rw [if_neg heq, if_neg heq, Option.map_none]

section Identifiers

def IsIdent (name : List Char) : Prop :=
  ∃ c cs, name = c :: cs ∧ isIdentStart c = true ∧ ∀ d ∈ cs, isIdentPart d = true

theorem toNat_of_isAlpha {c : Char} (hc : c.isAlpha = true) :
    65 ≤ c.toNat ∧ c.toNat ≤ 90 ∨ 97 ≤ c.toNat ∧ c.toNat ≤ 122 := by
  rcases Bool.or_eq_true_iff.mp hc with hupper | hlower
  · have hrange : 'A'.val ≤ c.val ∧ c.val ≤ 'Z'.val := of_decide_eq_true hupper
    rw [UInt32.le_iff_toNat_le, UInt32.le_iff_toNat_le] at hrange
    exact Or.inl hrange
  · obtain ⟨hlow, hhigh⟩ := Bool.and_eq_true_iff.mp hlower
    have hrange : 'a'.val ≤ c.val ∧ c.val ≤ 'z'.val :=
      ⟨of_decide_eq_true hlow, of_decide_eq_true hhigh⟩
    rw [UInt32.le_iff_toNat_le, UInt32.le_iff_toNat_le] at hrange
    exact Or.inr hrange

theorem isIdentPart_of_isIdentStart {c : Char} (hc : isIdentStart c = true) :
    isIdentPart c = true := by
  rw [isIdentStart, Bool.or_eq_true, Bool.or_eq_true] at hc
  obtain (halpha | hline) | hdollar := hc
  · have hascii : c.toNat < 128 := by
      have hrange := toNat_of_isAlpha halpha
      omega
    simp [isIdentPart, isWordChar, hascii, Char.isAlphanum, halpha]
  · obtain rfl : c = '_' := by simpa using hline
    decide
  · simp [isIdentPart, hdollar]

theorem IsIdent.isIdentPart_of_mem {name : List Char} (hname : IsIdent name) :
    ∀ c ∈ name, isIdentPart c = true := by
  obtain ⟨first, cs, rfl, hfirst, hcs⟩ := hname
  intro c hc
  obtain rfl | hc := List.mem_cons.mp hc
  · exact isIdentPart_of_isIdentStart hfirst
  · exact hcs c hc

/-- The code points that go on with an identifier: `$`, digits, letters, `_`, and beyond ASCII. -/
def identRanges : List (Nat × Nat) :=
  [(36, 36), (48, 57), (65, 90), (95, 95), (97, 122)] ++ wordRanges

theorem inRanges_of_isIdentPart {c : Char} (hc : isIdentPart c = true) :
    inRanges identRanges c.toNat = true := by
  rw [identRanges, inRanges, List.any_append, Bool.or_eq_true]
  rw [isIdentPart, Bool.or_eq_true, beq_iff_eq] at hc
  obtain hword | rfl := hc
  · by_cases hascii : c.toNat < 128
    · rw [isWordChar, if_pos hascii, Bool.or_eq_true, beq_iff_eq, Char.isAlphanum,
        Bool.or_eq_true] at hword
      left
      obtain (halpha | hdigit) | rfl := hword
      · have hrange := toNat_of_isAlpha halpha
        simp
        omega
      · have hrange : 48 ≤ c.toNat ∧ c.toNat ≤ 57 := Char.isDigit_iff_toNat.mp hdigit
        simp
        omega
      · decide
    · rw [isWordChar, if_neg hascii] at hword
      exact Or.inr hword
  · exact Or.inl (by decide)

/-- Code points of one list of ranges lie in none of another that is apart from it. -/
theorem inRanges_eq_false_of_apart {left right : List (Nat × Nat)} {point : Nat}
    (hapart : (left.all fun l => right.all fun r => l.2 < r.1 || r.2 < l.1) = true)
    (hpoint : inRanges left point = true) : inRanges right point = false := by
  obtain ⟨l, hl, hlow, hhigh⟩ := inRanges_eq_true_iff.mp hpoint
  rw [Bool.eq_false_iff]
  intro hright
  obtain ⟨r, hr, hlow', hhigh'⟩ := inRanges_eq_true_iff.mp hright
  have hlr := List.all_eq_true.mp (List.all_eq_true.mp hapart l hl) r hr
  simp only [Bool.or_eq_true, decide_eq_true_eq] at hlr
  omega

/-- Blanks end identifiers. -/
theorem isIdentPart_eq_false_of_isBlank {c : Char} (hc : isBlank c = true) :
    isIdentPart c = false := by
  have hapart : inRanges identRanges c.toNat = false :=
    inRanges_eq_false_of_apart (by decide +kernel) hc
  rw [Bool.eq_false_iff]
  intro hident
  rw [inRanges_of_isIdentPart hident] at hapart
  exact absurd hapart (by decide)

/-- An identifier is taken as far as it goes. -/
theorem takeIdent?_eq_some_iff {cs name rest : List Char} :
    takeIdent? cs = some (name, rest) ↔
      IsIdent name ∧ cs = name ++ rest ∧ StartsOutside isIdentPart rest := by
  constructor
  · intro htake
    have happend := takeIdent?_append htake
    cases cs with
    | nil => simp [takeIdent?] at htake
    | cons c cs =>
        by_cases hc : isIdentStart c = true
        · rw [takeIdent?, if_pos hc, Option.some.injEq, Prod.mk.injEq] at htake
          obtain ⟨rfl, rfl⟩ := htake
          have hrun : ∀ d ∈ cs.takeWhile isIdentPart, isIdentPart d = true :=
            List.all_eq_true.mp List.all_takeWhile
          exact ⟨⟨c, _, rfl, hc, hrun⟩, happend.symm, startsOutside_dropWhile isIdentPart cs⟩
        · simp [takeIdent?, hc] at htake
  · rintro ⟨⟨c, cs, rfl, hc, hcs⟩, rfl, hrest⟩
    rw [List.cons_append, takeIdent?, if_pos hc, hrest.takeWhile_run hcs,
      hrest.dropWhile_run hcs]

/-- No identifier is taken exactly where none starts. -/
theorem takeIdent?_eq_none_iff {cs : List Char} :
    takeIdent? cs = none ↔ StartsOutside isIdentStart cs := by
  cases cs with
  | nil => simp [takeIdent?]
  | cons c cs => simp [takeIdent?]

/-- Whatever follows an identifier without prolonging it leaves it as it is. -/
theorem takeIdent?_append_of_startsOutside {rest : List Char}
    (hrest : StartsOutside isIdentPart rest) (cs : List Char) :
    takeIdent? (cs ++ rest) =
      (takeIdent? cs).map fun found => (found.1, found.2 ++ rest) := by
  cases cs with
  | nil =>
      have hstart : StartsOutside isIdentStart rest :=
        hrest.mono fun c => isIdentPart_of_isIdentStart
      rw [List.nil_append, takeIdent?_eq_none_iff.mpr hstart]
      rfl
  | cons c cs =>
      rw [List.cons_append, takeIdent?, takeIdent?, hrest.takeWhile_append,
        hrest.dropWhile_append]
      by_cases hc : isIdentStart c = true
      · rw [if_pos hc, if_pos hc, Option.map_some]
      · rw [if_neg hc, if_neg hc, Option.map_none]

end Identifiers

end RouteAtlas.Text
