import RouteAtlas.Params.Comment
import RouteAtlas.Proofs.Text.Matches
import RouteAtlas.Proofs.Text.Pieces

/-!
# Taking out block comments

A text is read as characters that start no block comment, whole block comments, and starts of
block comments that have no end.  In a text without the last kind, blocks are taken out on
their own, whatever is written behind the text.  A start without an end instead takes
everything up to the first end that stands behind the text.
-/

namespace RouteAtlas.Source

open Text

theorem blockComment_open (before : Option Char) (cs : List Char) :
    blockComment before ('/' :: '*' :: cs) =
      (blockEnd? cs).map fun size => ((), size + 2) := rfl

theorem blockComment_eq_none {c : Char} {cs : List Char} (hc : c = '/' → cs.head? ≠ some '*')
    (before : Option Char) : blockComment before (c :: cs) = none := by
  unfold blockComment
  split
  · next heq =>
      obtain ⟨rfl, rfl⟩ := List.cons.inj heq
      exact absurd rfl (hc rfl)
  · rfl

theorem blind_blockComment : Matcher.Blind blockComment := by
  intro before cs
  cases cs with
  | nil => rfl
  | cons c cs =>
      obtain ⟨rest, rfl, rfl⟩ | hc := starts_cases '/' '*' c cs
      · rfl
      · rw [blockComment_eq_none hc, blockComment_eq_none hc]

/-- A text is read off character by character and block by block. -/
@[elab_as_elim]
theorem block_induction {motive : List Char → Prop}
    (nil : motive [])
    (char : ∀ c cs, (c = '/' → cs.head? ≠ some '*') → motive cs → motive (c :: cs))
    (block : ∀ cs size, blockEnd? cs = some size → motive (cs.drop size) →
      motive ('/' :: '*' :: cs))
    (unended : ∀ cs, blockEnd? cs = none → motive ('/' :: '*' :: cs))
    (cs : List Char) : motive cs := by
  induction cs using match_induction blockComment with
  | nil => exact nil
  | char c cs hfind ih =>
      obtain ⟨rest, rfl, rfl⟩ | hc := starts_cases '/' '*' c cs
      · rw [blockComment_open, Option.map_eq_none_iff] at hfind
        exact unended rest hfind
      · exact char c cs hc ih
  | item c cs _ size hfind ih =>
      obtain ⟨rest, rfl, rfl⟩ | hc := starts_cases '/' '*' c cs
      · rw [blockComment_open, Option.map_eq_some_iff] at hfind
        obtain ⟨inner, hend, heq⟩ := hfind
        obtain rfl : inner + 2 = size := (Prod.mk.inj heq).2
        exact block rest inner hend ih
      · rw [blockComment_eq_none hc] at hfind
        simp at hfind

@[simp]
theorem stripBlocks_nil : stripBlocks [] = [] := rfl

theorem stripBlocks_cons {c : Char} {cs : List Char} (hc : c = '/' → cs.head? ≠ some '*') :
    stripBlocks (c :: cs) = c :: stripBlocks cs :=
  replaceMatches_cons_of_none blind_blockComment _ (blockComment_eq_none hc none)

theorem stripBlocks_eq_self {cs : List Char} (hplain : ¬ ['/', '*'] <:+: cs) :
    stripBlocks cs = cs := by
  induction cs with
  | nil => rfl
  | cons c cs ih =>
      rw [List.infix_cons_iff, not_or] at hplain
      obtain ⟨rest, rfl, rfl⟩ | hc := starts_cases '/' '*' c cs
      · exact absurd ⟨rest, rfl⟩ hplain.1
      · rw [stripBlocks_cons hc, ih hplain.2]

theorem stripBlocks_block {cs : List Char} {size : Nat} (hend : blockEnd? cs = some size) :
    stripBlocks ('/' :: '*' :: cs) = stripBlocks (cs.drop size) := by
  have hfind : blockComment none ('/' :: '*' :: cs) = some ((), size + 2) := by
    rw [blockComment_open, hend, Option.map_some]
  rw [stripBlocks, replaceMatches_cons_of_some blind_blockComment _ hfind]
  rfl

theorem stripBlocks_sublist (cs : List Char) : (stripBlocks cs).Sublist cs := by
  rw [stripBlocks, replaceMatches_eq_rewriteFrom]
  exact rewriteFrom_sublist blockComment 0 none cs

section BlockEnd

theorem blockEnd?_cons {c : Char} {cs : List Char} (hc : c = '*' → cs.head? ≠ some '/') :
    blockEnd? (c :: cs) = (blockEnd? cs).map (· + 1) := by
  rw [blockEnd?]
  rintro rest rfl rfl
  exact absurd rfl (hc rfl)

theorem blockEnd?_append_of_some {cs : List Char} {size : Nat}
    (hend : blockEnd? cs = some size) (rest : List Char) :
    blockEnd? (cs ++ rest) = some size ∧ size ≤ cs.length := by
  induction cs generalizing size with
  | nil => simp [blockEnd?] at hend
  | cons c cs ih =>
      obtain ⟨tail, rfl, rfl⟩ | hc := starts_cases '*' '/' c cs
      · obtain rfl : 2 = size := Option.some.inj hend
        exact ⟨rfl, by simp⟩
      · rw [blockEnd?_cons hc, Option.map_eq_some_iff] at hend
        obtain ⟨inner, hinner, rfl⟩ := hend
        obtain ⟨happend, hle⟩ := ih hinner
        have hcRest : c = '*' → (cs ++ rest).head? ≠ some '/' := fun h =>
          head?_append_ne (hc h) fun hnil => by simp [hnil, blockEnd?] at hinner
        rw [List.cons_append, blockEnd?_cons hcRest, happend, List.length_cons]
        exact ⟨rfl, by omega⟩

theorem blockEnd?_append_of_none {cs rest : List Char} (hend : blockEnd? cs = none)
    (hrest : rest.head? ≠ some '/') :
    blockEnd? (cs ++ rest) = (blockEnd? rest).map (· + cs.length) := by
  induction cs with
  | nil => simp
  | cons c cs ih =>
      obtain ⟨tail, rfl, rfl⟩ | hc := starts_cases '*' '/' c cs
      · simp [blockEnd?] at hend
      · have hcRest : c = '*' → (cs ++ rest).head? ≠ some '/' := fun h =>
          head?_append_ne (hc h) fun _ => hrest
        rw [blockEnd?_cons hc, Option.map_eq_none_iff] at hend
        rw [List.cons_append, blockEnd?_cons hcRest, ih hend, Option.map_map,
          List.length_cons]
        congr 1

/-- A block goes on exactly as long as no end of a block is written in it. -/
theorem blockEnd?_eq_none_iff {cs : List Char} :
    blockEnd? cs = none ↔ ¬ ['*', '/'] <:+: cs := by
  induction cs with
  | nil => simp [blockEnd?]
  | cons c cs ih =>
      obtain ⟨tail, rfl, rfl⟩ | hc := starts_cases '*' '/' c cs
      · have hstands : ['*', '/'] <:+: '*' :: '/' :: tail := ⟨[], tail, rfl⟩
        simp [blockEnd?, hstands]
      · have hstart : ¬ ['*', '/'] <+: c :: cs := by
          rintro ⟨tail, hstart⟩
          obtain ⟨rfl, rfl⟩ := List.cons.inj hstart
          exact hc rfl rfl
        rw [blockEnd?_cons hc, Option.map_eq_none_iff, ih, List.infix_cons_iff, not_or]
        exact (and_iff_right hstart).symm

theorem append_drop_of_blockEnd? {cs : List Char} {size : Nat}
    (hend : blockEnd? cs = some size) :
    ∃ body, cs = body ++ '*' :: '/' :: cs.drop size := by
  induction cs generalizing size with
  | nil => simp [blockEnd?] at hend
  | cons c cs ih =>
      obtain ⟨tail, rfl, rfl⟩ | hc := starts_cases '*' '/' c cs
      · obtain rfl : 2 = size := Option.some.inj hend
        exact ⟨[], rfl⟩
      · rw [blockEnd?_cons hc, Option.map_eq_some_iff] at hend
        obtain ⟨inner, hinner, rfl⟩ := hend
        obtain ⟨body, hbody⟩ := ih hinner
        exact ⟨c :: body, by rw [List.drop_succ_cons, List.cons_append, ← hbody]⟩

end BlockEnd

/-- Whether the blocks that start in a text end in it; at first inside a block or not. -/
def blocksClosed : (inside : Bool) → List Char → Bool
  | inside, [] => !inside
  | false, '/' :: '*' :: cs => blocksClosed true cs
  | true, '*' :: '/' :: cs => blocksClosed false cs
  | inside, _ :: cs => blocksClosed inside cs

theorem blocksClosed_cons {c : Char} {cs : List Char} (hc : c = '/' → cs.head? ≠ some '*') :
    blocksClosed false (c :: cs) = blocksClosed false cs := by
  rw [blocksClosed]
  · rintro rest - rfl rfl
    exact absurd rfl (hc rfl)
  · simp

theorem blocksClosed_inside_cons {c : Char} {cs : List Char}
    (hc : c = '*' → cs.head? ≠ some '/') :
    blocksClosed true (c :: cs) = blocksClosed true cs := by
  rw [blocksClosed]
  · simp
  · rintro rest - rfl rfl
    exact absurd rfl (hc rfl)

theorem blocksClosed_inside (cs : List Char) :
    blocksClosed true cs =
      (blockEnd? cs).any fun size => blocksClosed false (cs.drop size) := by
  induction cs with
  | nil => rfl
  | cons c cs ih =>
      obtain ⟨rest, rfl, rfl⟩ | hc := starts_cases '*' '/' c cs
      · rfl
      · rw [blocksClosed_inside_cons hc, ih, blockEnd?_cons hc, Option.any_map]
        rfl

theorem blocksClosed_block {cs : List Char} {size : Nat} (hend : blockEnd? cs = some size) :
    blocksClosed false ('/' :: '*' :: cs) = blocksClosed false (cs.drop size) := by
  rw [blocksClosed, blocksClosed_inside, hend, Option.any_some]

theorem blocksClosed_unended {cs : List Char} (hend : blockEnd? cs = none) :
    blocksClosed false ('/' :: '*' :: cs) = false := by
  rw [blocksClosed, blocksClosed_inside, hend, Option.any_none]

/-- Behind a text whose blocks are closed, blocks are taken out of the rest on its own. -/
theorem stripBlocks_append {cs rest : List Char} (hclosed : blocksClosed false cs = true)
    (hseam : cs.getLast? = some '/' → rest.head? ≠ some '*') :
    stripBlocks (cs ++ rest) = stripBlocks cs ++ stripBlocks rest := by
  induction cs using block_induction with
  | nil => rfl
  | char c cs hc ih =>
      have hcRest : c = '/' → (cs ++ rest).head? ≠ some '*' := by
        rintro rfl
        refine head?_append_ne (hc rfl) ?_
        rintro rfl
        exact hseam rfl
      rw [blocksClosed_cons hc] at hclosed
      rw [stripBlocks_cons hc, List.cons_append, stripBlocks_cons hcRest, List.cons_append]
      congr 1
      apply ih hclosed
      intro hlast
      apply hseam
      rw [List.getLast?_cons, hlast, Option.getD_some]
  | block cs size hend ih =>
      obtain ⟨happend, hle⟩ := blockEnd?_append_of_some hend rest
      have hdrop : (cs ++ rest).drop size = cs.drop size ++ rest :=
        List.drop_append_of_le_length hle
      rw [blocksClosed_block hend] at hclosed
      rw [stripBlocks_block hend, List.cons_append, List.cons_append,
        stripBlocks_block happend, hdrop]
      apply ih hclosed
      intro hlast
      apply hseam
      -- The last character behind the block is the last one of the whole text.
      have hwhole : (('/' :: '*' :: cs).drop (size + 2)).getLast? = some '/' := hlast
      rw [List.getLast?_drop] at hwhole
      by_cases hshort : ('/' :: '*' :: cs).length ≤ size + 2
      · rw [if_pos hshort] at hwhole
        simp at hwhole
      · rwa [if_neg hshort] at hwhole
  | unended cs hend =>
      rw [blocksClosed_unended hend] at hclosed
      simp at hclosed

/-- A whole block goes out from behind a text whose blocks are closed. -/
theorem stripBlocks_append_block {cs body : List Char}
    (hclosed : blocksClosed false cs = true) (hbody : ¬ ['*', '/'] <:+: body)
    (rest : List Char) :
    stripBlocks (cs ++ '/' :: '*' :: (body ++ '*' :: '/' :: rest)) =
      stripBlocks cs ++ stripBlocks rest := by
  have hend : blockEnd? (body ++ '*' :: '/' :: rest) = some (2 + body.length) := by
    rw [blockEnd?_append_of_none (blockEnd?_eq_none_iff.mpr hbody) (by simp)]
    rfl
  have hdrop : (body ++ '*' :: '/' :: rest).drop (2 + body.length) = rest := by
    rw [Nat.add_comm, List.drop_length_add_append]
    rfl
  rw [stripBlocks_append hclosed (fun _ => by simp), stripBlocks_block hend, hdrop]

/-- A text that does not end in a slash keeps its last character. -/
theorem getLast?_stripBlocks {cs : List Char} (hclosed : blocksClosed false cs = true)
    (hlast : cs.getLast? ≠ some '/') : (stripBlocks cs).getLast? = cs.getLast? := by
  induction cs using block_induction with
  | nil => rfl
  | char c cs hc ih =>
      rw [blocksClosed_cons hc] at hclosed
      rw [stripBlocks_cons hc]
      cases cs with
      | nil => rfl
      | cons d cs => rw [List.getLast?_cons, ih hclosed hlast, ← List.getLast?_cons]
  | block cs size hend ih =>
      obtain ⟨body, hbody⟩ := append_drop_of_blockEnd? hend
      rw [blocksClosed_block hend] at hclosed
      rw [stripBlocks_block hend]
      cases hdrop : cs.drop size with
      | nil =>
          -- The text would end with the slash of the block.
          rw [hdrop] at hbody
          apply absurd _ hlast
          rw [hbody]
          simp [List.getLast?_cons]
      | cons d tail =>
          rw [hdrop] at hbody hclosed ih
          have hwhole : ('/' :: '*' :: cs).getLast? = (d :: tail).getLast? := by
            rw [hbody]
            simp [List.getLast?_append, List.getLast?_cons]
          rw [hwhole] at hlast ⊢
          exact ih hclosed hlast
  | unended cs hend =>
      rw [blocksClosed_unended hend] at hclosed
      simp at hclosed

/-- A block that a text leaves open takes everything up to the first end in the rest. -/
theorem stripBlocks_append_of_open {cs rest : List Char} {size : Nat}
    (hopen : blocksClosed false cs = false) (hseam : rest.head? ≠ some '/')
    (hend : blockEnd? rest = some size) :
    ∃ kept, kept.Sublist cs ∧
      stripBlocks (cs ++ rest) = kept ++ stripBlocks (rest.drop size) := by
  induction cs using block_induction with
  | nil => simp [blocksClosed] at hopen
  | char c cs hc ih =>
      rw [blocksClosed_cons hc] at hopen
      obtain ⟨kept, hsublist, hstrip⟩ := ih hopen
      have hcRest : c = '/' → (cs ++ rest).head? ≠ some '*' := fun h =>
        head?_append_ne (hc h) fun hnil => by simp [hnil, blocksClosed] at hopen
      refine ⟨c :: kept, hsublist.cons_cons c, ?_⟩
      rw [List.cons_append, stripBlocks_cons hcRest, hstrip, List.cons_append]
  | block cs inner hinner ih =>
      rw [blocksClosed_block hinner] at hopen
      obtain ⟨kept, hsublist, hstrip⟩ := ih hopen
      obtain ⟨happend, hle⟩ := blockEnd?_append_of_some hinner rest
      have hdrop : (cs ++ rest).drop inner = cs.drop inner ++ rest :=
        List.drop_append_of_le_length hle
      refine ⟨kept, hsublist.trans (((List.drop_sublist inner cs).cons _).cons _), ?_⟩
      rw [List.cons_append, List.cons_append, stripBlocks_block happend, hdrop, hstrip]
  | unended cs hnone =>
      have happend := blockEnd?_append_of_none hnone hseam
      rw [hend, Option.map_some] at happend
      refine ⟨[], List.nil_sublist _, ?_⟩
      rw [List.cons_append, List.cons_append, stripBlocks_block happend, List.nil_append,
        List.drop_append, List.drop_of_length_le (Nat.le_add_left _ _), List.nil_append,
        Nat.add_sub_cancel]

end RouteAtlas.Source
