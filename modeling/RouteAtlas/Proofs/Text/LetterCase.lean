import Mathlib
import RouteAtlas.Proofs.Text.Words
import RouteAtlas.Text.LetterCase

/-!
# Lower case stays lower case

No character that lower case is written with has a lower case other than itself, the two small
sigmas among them.  So a text in lower case is one whose characters are their own lower case,
wherever they stand: lower case is not changed again, and every word of such a text is in lower
case too.
-/

namespace RouteAtlas.Text

section Partners

def CaseRun.points (run : CaseRun) : List Nat :=
  List.range' run.first ((run.last - run.first) / run.step + 1) run.step

def CaseRun.partners (run : CaseRun) : List Nat :=
  run.points.map fun point : Nat => ((point : Int) + run.shift).toNat

/-- A set of code points as the bits of a number. -/
def pointMask (points : List Nat) : Nat :=
  points.foldr (fun point mask => 1 <<< point ||| mask) 0

theorem testBit_pointMask (points : List Nat) (point : Nat) :
    (pointMask points).testBit point = decide (point ∈ points) := by
  induction points with
  | nil => exact Nat.zero_testBit point
  | cons first points ih =>
      rw [pointMask, List.foldr_cons, Nat.testBit_or, Nat.one_shiftLeft,
        Nat.testBit_two_pow, ← pointMask, ih]
      simp [eq_comm]

/-- Sets whose masks have no bit in common are disjoint. -/
theorem not_mem_of_pointMask {left right : List Nat}
    (hdisjoint : pointMask left &&& pointMask right = 0) {point : Nat} (hright : point ∈ right) :
    point ∉ left := by
  intro hleft
  have hbit := congrArg (Nat.testBit · point) hdisjoint
  simp [testBit_pointMask, hleft, hright] at hbit

theorem CaseRun.mem_points {run : CaseRun} {point : Nat} (hholds : run.holds point = true) :
    point ∈ run.points := by
  simp only [holds, Bool.and_eq_true, decide_eq_true_eq, beq_iff_eq] at hholds
  obtain ⟨⟨hfirst, hlast⟩, hstep⟩ := hholds
  refine List.mem_range'.mpr ⟨(point - run.first) / run.step, ?_, ?_⟩
  · exact Nat.lt_succ_of_le (Nat.div_le_div_right (Nat.sub_le_sub_right hlast _))
  · rw [Nat.mul_div_cancel' (Nat.dvd_of_mod_eq_zero hstep)]
    omega

/-- The code points whose lower case is another one, the dotted capital I among them. -/
def raisedPoints : List Nat :=
  'İ'.toNat :: lowerRuns.flatMap CaseRun.points

/-- No lower case has a lower case of its own.  The masks make this one step of arithmetic on two
large numbers. -/
theorem not_raised_of_partner {run : CaseRun} (hrun : run ∈ lowerRuns) {point : Nat}
    (hpoint : point ∈ run.partners) : point ∉ raisedPoints := by
  have hdisjoint : pointMask raisedPoints &&& pointMask (lowerRuns.flatMap CaseRun.partners) = 0 := by
    decide +kernel
  exact not_mem_of_pointMask hdisjoint (List.mem_flatMap.mpr ⟨run, hrun, hpoint⟩)

theorem not_holds_of_not_raised {run : CaseRun} (hrun : run ∈ lowerRuns) {point : Nat}
    (hraised : point ∉ raisedPoints) : run.holds point = false := by
  rw [← Bool.not_eq_true]
  intro hholds
  exact hraised (List.mem_cons_of_mem _
    (List.mem_flatMap.mpr ⟨run, hrun, CaseRun.mem_points hholds⟩))

theorem toLower_eq_self {c : Char} (hraised : c.toNat ∉ raisedPoints) : c.toLower = c := by
  apply Char.toLower_eq_of_not_isUpper
  intro hcapital
  have hletters : (⟨0x41, 0x5a, 1, 32⟩ : CaseRun) ∈ lowerRuns := List.mem_cons_self
  have hholds := not_holds_of_not_raised hletters hraised
  obtain ⟨hfirst, hlast⟩ : 0x41 ≤ c.toNat ∧ c.toNat ≤ 0x5a := of_decide_eq_true hcapital
  simp [CaseRun.holds, hfirst, hlast, Nat.mod_one] at hholds

/-- A character that is not raised is its own lower case. -/
theorem lowerChar_eq_self {c : Char} (hraised : c.toNat ∉ raisedPoints) : lowerChar c = [c] := by
  have hdotted : c ≠ 'İ' := by
    rintro rfl
    exact hraised List.mem_cons_self
  have hpartner : partner lowerRuns c = c := by
    have hnone : lowerRuns.find? (·.holds c.toNat) = none := by
      rw [List.find?_eq_none]
      intro run hrun
      rw [not_holds_of_not_raised hrun hraised]
      exact Bool.false_ne_true
    rw [partner, hnone]
  rw [lowerChar, toLower_eq_self hraised, if_neg hdotted, hpartner, ite_self]

theorem lowerChar_toLower {c : Char} (hascii : c.toNat < 128) :
    lowerChar c.toLower = [c.toLower] := by
  have hletters : ∀ point < 128,
      lowerChar (Char.ofNat point).toLower = [(Char.ofNat point).toLower] := by decide
  have hc := hletters c.toNat hascii
  rwa [Char.ofNat_toNat] at hc

/-- What lower case is written with is its own lower case. -/
theorem lowerChar_of_mem_lowerChar {c d : Char} (hd : d ∈ lowerChar c) : lowerChar d = [d] := by
  rw [lowerChar] at hd
  split at hd
  · next hascii =>
      obtain rfl := List.mem_singleton.mp hd
      exact lowerChar_toLower hascii
  · next hascii =>
      split at hd
      · have hletters : lowerChar 'i' = ['i'] ∧ lowerChar '\u0307' = ['\u0307'] := by
          decide +kernel
        rw [List.mem_cons, List.mem_singleton] at hd
        obtain rfl | rfl := hd
        · exact hletters.1
        · exact hletters.2
      · next hdotted =>
          obtain rfl := List.mem_singleton.mp hd
          cases hfind : lowerRuns.find? (·.holds c.toNat) with
          | none =>
              have hself : partner lowerRuns c = c := by rw [partner, hfind]
              rw [hself, lowerChar, if_neg hascii, if_neg hdotted, hself]
          | some run =>
              have hrun := List.mem_of_find?_eq_some hfind
              have hholds : run.holds c.toNat = true := by simpa using List.find?_some hfind
              have hpartner : ((c.toNat : Int) + run.shift).toNat ∉ raisedPoints :=
                not_raised_of_partner hrun (List.mem_map_of_mem (CaseRun.mem_points hholds))
              rw [partner, hfind]
              apply lowerChar_eq_self
              rw [Char.toNat_ofNat]
              split
              · exact hpartner
              -- A number that is no code point stands for the null character.
              · decide +kernel

end Partners

section Texts

/-- A character that is its own lower case is no capital sigma. -/
theorem ne_capitalSigma {c : Char} (hlower : lowerChar c = [c]) : c ≠ 'Σ' := by
  rintro rfl
  have hsmall : lowerChar 'Σ' = ['σ'] := by decide +kernel
  rw [hsmall] at hlower
  exact absurd hlower (by decide)

theorem lowerAfter_eq_self {cs : List Char} (hlower : ∀ c ∈ cs, lowerChar c = [c])
    (before : List Char) : lowerAfter before cs = cs := by
  induction cs generalizing before with
  | nil => rfl
  | cons c cs ih =>
      obtain ⟨hc, hcs⟩ := List.forall_mem_cons.mp hlower
      rw [lowerAfter, if_neg (ne_capitalSigma hc), hc, ih hcs, List.singleton_append]

theorem lowerChar_lowerSigma (before after : List Char) :
    lowerChar (lowerSigma before after) = [lowerSigma before after] := by
  have hsigmas : lowerChar 'ς' = ['ς'] ∧ lowerChar 'σ' = ['σ'] := by decide +kernel
  rw [lowerSigma]
  split
  · exact hsigmas.1
  · exact hsigmas.2

theorem lowerChar_of_mem_lowerAfter {before cs : List Char} {d : Char}
    (hd : d ∈ lowerAfter before cs) : lowerChar d = [d] := by
  induction cs generalizing before with
  | nil => simp [lowerAfter] at hd
  | cons c cs ih =>
      rw [lowerAfter, List.mem_append] at hd
      obtain hfirst | hrest := hd
      · by_cases hsigma : c = 'Σ'
        · rw [if_pos hsigma, List.mem_singleton] at hfirst
          rw [hfirst]
          exact lowerChar_lowerSigma before cs
        · rw [if_neg hsigma] at hfirst
          exact lowerChar_of_mem_lowerChar hfirst
      · exact ih hrest

/-- A text is in lower case when each of its characters is. -/
theorem lower_eq_self_iff {text : String} :
    lower text = text ↔ ∀ c ∈ text.toList, lowerChar c = [c] := by
  constructor
  · intro hlower c hc
    rw [← hlower, lower, String.toList_ofList] at hc
    exact lowerChar_of_mem_lowerAfter hc
  · intro hlower
    rw [lower, lowerAfter_eq_self hlower, String.ofList_toList]

/-- Putting a text into lower case twice is the same as once. -/
theorem lower_lower (text : String) : lower (lower text) = lower text := by
  rw [lower_eq_self_iff, lower, String.toList_ofList]
  intro c hc
  exact lowerChar_of_mem_lowerAfter hc

example : lower "ΟΔΟΣ ΣΑΣ" = "οδος σας" := by decide +kernel

/-- The words of a text in lower case are in lower case. -/
theorem lower_of_mem_words {text word : String} (hlower : lower text = text)
    (hword : word ∈ words text) : lower word = word := by
  rw [lower_eq_self_iff] at hlower ⊢
  rw [words, List.mem_map] at hword
  obtain ⟨cs, hcs, rfl⟩ := hword
  rw [String.toList_ofList]
  intro c hc
  exact hlower c (mem_of_mem_wordsOf hcs hc)

end Texts

end RouteAtlas.Text
