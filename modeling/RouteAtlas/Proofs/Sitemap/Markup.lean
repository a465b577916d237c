import Mathlib.Tactic.SplitIfs
import RouteAtlas.Json.Lexeme
import RouteAtlas.Proofs.Text.Matches
import RouteAtlas.Sitemap.Markup

/-!
# Data in markup

A reader of markup takes a reference for the character that it stands for.  Escaped data is read
as the data, and no character of it opens or closes a tag or ends a quoted value: what would is
written as a reference, whose name holds letters and digits only.
-/

namespace RouteAtlas.Sitemap

open Text

/-- The number that digits give in a base of at most sixteen. -/
def number? (base : Nat) (digits : List Char) : Option Nat :=
  digits.foldlM (fun number digit => do
    let value ← Json.hexValue? digit
    if value < base then some (number * base + value) else none) 0

def namedCharacters : List (List Char × Char) :=
  [(['l', 't'], '<'), (['g', 't'], '>'), (['a', 'm', 'p'], '&'), (['q', 'u', 'o', 't'], '"'),
    (['a', 'p', 'o', 's'], '\'')]

/-- The character that a reference stands for: one with a name, or one given by its number. -/
def referenced? : List Char → Option Char
  | '#' :: 'x' :: digits => (number? 16 digits).map Char.ofNat
  | '#' :: digits => (number? 10 digits).map Char.ofNat
  | name => namedCharacters.lookup name

/-- Finds a reference, which runs from `&` to the next `;`. -/
def reference? : Matcher Char := fun _ cs =>
  match cs with
  | '&' :: rest =>
    match rest.dropWhile (· != ';') with
    | [] => none
    | _ :: _ =>
      let name := rest.takeWhile (· != ';')
      (referenced? name).map fun c => (c, name.length + 2)
  | _ => none

/-- Markup without tags as a reader takes it, every reference as its character. -/
def unescape (cs : List Char) : List Char :=
  replaceMatches reference? (fun c => [c]) cs

/-- The characters that open or close a tag, a quoted value or a reference. -/
def marks : List Char := ['<', '>', '"', '\'', '&']

theorem blind_reference? : Matcher.Blind reference? := fun _ _ => rfl

theorem reference?_eq_none {c : Char} (hc : c ≠ '&') (before : Option Char) (cs : List Char) :
    reference? before (c :: cs) = none := by
  rw [reference?]
  exact fun rest heq => hc (List.cons.inj heq).1

/-- A reference is found up to its semicolon. -/
theorem reference?_written {name : List Char} (hname : ';' ∉ name) (before : Option Char)
    (rest : List Char) :
    reference? before ('&' :: (name ++ ';' :: rest)) =
      (referenced? name).map fun c => (c, name.length + 2) := by
  have hall : ∀ c ∈ name, (c != ';') = true := by
    intro c hc
    exact bne_iff_ne.mpr fun heq => hname (heq ▸ hc)
  have htake : (name ++ ';' :: rest).takeWhile (· != ';') = name := by
    rw [List.takeWhile_append_of_pos hall]
    simp
  have hdrop : (name ++ ';' :: rest).dropWhile (· != ';') = ';' :: rest := by
    rw [List.dropWhile_append_of_pos hall]
    simp
  simp only [reference?, htake, hdrop]

/-- A character of data is written as it is, or as a reference to it. -/
theorem escapeChar_cases (c : Char) :
    (escapeChar c = [c] ∧ c ∉ marks) ∨
      ∃ name, escapeChar c = '&' :: (name ++ [';']) ∧ ';' ∉ name ∧ (∀ d ∈ name, d ∉ marks) ∧
        referenced? name = some c := by
  unfold escapeChar
  split_ifs with hless hgreater hand hquote hapostrophe hslash
  · exact Or.inr ⟨['l', 't'], rfl, by decide, by simp [marks], by rw [hless]; rfl⟩
  · exact Or.inr ⟨['g', 't'], rfl, by decide, by simp [marks], by rw [hgreater]; rfl⟩
  · exact Or.inr ⟨['a', 'm', 'p'], rfl, by decide, by simp [marks], by rw [hand]; rfl⟩
  · exact Or.inr ⟨['q', 'u', 'o', 't'], rfl, by decide, by simp [marks], by rw [hquote]; rfl⟩
  · exact Or.inr
      ⟨['#', 'x', '2', '7'], rfl, by decide, by simp [marks], by rw [hapostrophe]; rfl⟩
  · exact Or.inr ⟨['#', 'x', '2', 'f'], rfl, by decide, by simp [marks], by rw [hslash]; rfl⟩
  · exact Or.inl ⟨rfl, by simp [marks, hless, hgreater, hquote, hapostrophe, hand]⟩

/-- Escaped data holds no mark except the `&` of its references. -/
theorem not_mem_escape {mark : Char} (hmark : mark ∈ marks) (hand : mark ≠ '&')
    (cs : List Char) : mark ∉ escape cs := by
  intro hmem
  obtain ⟨c, -, hc⟩ := List.mem_flatMap.mp hmem
  obtain ⟨hself, hplain⟩ | ⟨name, hname, -, hplain, -⟩ := escapeChar_cases c
  · rw [hself, List.mem_singleton] at hc
    exact hplain (hc ▸ hmark)
  · rw [hname, List.mem_cons, List.mem_append, List.mem_singleton] at hc
    obtain heq | hd | heq := hc
    · exact hand heq
    · exact hplain mark hd hmark
    · subst heq
      exact absurd hmark (by decide)

/-- Escaped data is read as the data. -/
theorem unescape_escape (cs : List Char) : unescape (escape cs) = cs := by
  induction cs with
  | nil => rfl
  | cons c cs ih =>
      rw [escape, List.flatMap_cons, ← escape]
      obtain ⟨hself, hplain⟩ | ⟨name, hname, hend, -, hc⟩ := escapeChar_cases c
      · have hand : c ≠ '&' := fun heq => hplain (by rw [heq]; decide)
        rw [hself, List.singleton_append, unescape,
          replaceMatches_cons_of_none blind_reference? _ (reference?_eq_none hand none _),
          ← unescape, ih]
      · have hfind : reference? none ('&' :: (name ++ ';' :: escape cs)) =
            some (c, name.length + 2) := by
          rw [reference?_written hend, hc]
          rfl
        have hdrop : (name ++ ';' :: escape cs).drop (name.length + 2 - 1) = escape cs := by
          rw [show name.length + 2 - 1 = name.length + 1 by omega, List.drop_append]
          simp
        rw [hname, List.cons_append, List.append_assoc, List.singleton_append, unescape,
          replaceMatches_cons_of_some blind_reference? _ hfind, hdrop, List.singleton_append,
          ← unescape, ih]

end RouteAtlas.Sitemap
