import RouteAtlas.Params.Template
import RouteAtlas.Proofs.Text.Matches

/-!
# Writing placeholders in braces

A path in braces keeps its literal characters and writes each placeholder as its name.  The
group and the modifier of a placeholder are lost, and a brace of the path itself looks like
one that was written, so paths may become equal.  Paths that hold none of these characters
stay apart: from the text in braces the path can be read back.
-/

namespace RouteAtlas.Template

open Text

/-- The characters of a path with its placeholders in braces. -/
def bracedChars (path : List Char) : List Char :=
  replaceMatches (fun _ => placeholder?) (fun name => '{' :: name ++ ['}']) path

theorem braced_eq (path : String) : braced path = String.ofList (bracedChars path.toList) :=
  rfl

theorem blind_placeholder? : Matcher.Blind fun _ => placeholder? := fun _ _ => rfl

theorem placeholder?_eq_none {c : Char} (hc : c ≠ ':') (cs : List Char) :
    placeholder? (c :: cs) = none := by
  rw [placeholder?]
  simpa using hc

theorem drop_length_takeWhile_add (p : Char → Bool) (cs : List Char) (count : Nat) :
    cs.drop ((cs.takeWhile p).length + count) = (cs.dropWhile p).drop count := by
  calc
    cs.drop ((cs.takeWhile p).length + count) =
        (cs.takeWhile p ++ cs.dropWhile p).drop ((cs.takeWhile p).length + count) := by
      rw [List.takeWhile_append_dropWhile]
    _ = (cs.dropWhile p).drop count := by
      rw [List.drop_append, List.drop_of_length_le (Nat.le_add_right _ _),
        Nat.add_sub_cancel_left, List.nil_append]

/-- What stands behind the name of a placeholder and belongs to it no more. -/
def behindToken (rest : List Char) : List Char :=
  rest.drop (groupSize rest + modifierSize (rest.drop (groupSize rest)))

@[simp]
theorem bracedChars_nil : bracedChars [] = [] := rfl

theorem bracedChars_cons {c : Char} {cs : List Char} (hfind : placeholder? (c :: cs) = none) :
    bracedChars (c :: cs) = c :: bracedChars cs :=
  replaceMatches_cons_of_none blind_placeholder? _ hfind

/-- A placeholder is a colon and a name, and what is left stands behind its group and modifier. -/
theorem placeholder?_eq_some {c : Char} {cs name : List Char} {size : Nat}
    (hfind : placeholder? (c :: cs) = some (name, size)) :
    c = ':' ∧ name = cs.takeWhile isNameChar ∧
      cs.drop (size - 1) = behindToken (cs.dropWhile isNameChar) := by
  by_cases hc : c = ':'
  · subst hc
    simp only [placeholder?] at hfind
    by_cases hempty : (cs.takeWhile isNameChar).isEmpty
    · simp [hempty] at hfind
    · simp only [hempty, Bool.false_eq_true, if_false, Option.some.injEq,
        Prod.mk.injEq] at hfind
      obtain ⟨hname, hsize⟩ := hfind
      refine ⟨rfl, hname.symm, ?_⟩
      have htaken : size - 1 = (cs.takeWhile isNameChar).length +
          (groupSize (cs.dropWhile isNameChar) +
            modifierSize ((cs.dropWhile isNameChar).drop
              (groupSize (cs.dropWhile isNameChar)))) := by
        omega
      rw [htaken, drop_length_takeWhile_add, behindToken]
  · rw [placeholder?_eq_none hc] at hfind
    simp at hfind

/-- A placeholder is written as its name, whatever its group and modifier. -/
theorem bracedChars_token {c : Char} {cs name : List Char} {size : Nat}
    (hfind : placeholder? (c :: cs) = some (name, size)) :
    bracedChars (c :: cs) =
      '{' :: name ++ '}' :: bracedChars (behindToken (cs.dropWhile isNameChar)) := by
  rw [bracedChars, replaceMatches_cons_of_some blind_placeholder? _ hfind,
    (placeholder?_eq_some hfind).2.2, bracedChars]
  simp

/-- Whether a path holds no character that is lost or written in braces. -/
def IsPlain (path : List Char) : Prop :=
  ∀ c ∈ path, c ∉ ['{', '}', '(', '?', '*', '+']

/-- The path that a text in braces was written for. -/
def unbraced (cs : List Char) : List Char :=
  cs.flatMap fun c => if c = '{' then [':'] else if c = '}' then [] else [c]

theorem unbraced_cons {c : Char} (hopen : c ≠ '{') (hclose : c ≠ '}') (cs : List Char) :
    unbraced (c :: cs) = c :: unbraced cs := by
  rw [unbraced, List.flatMap_cons, if_neg hopen, if_neg hclose]
  rfl

theorem unbraced_append (left right : List Char) :
    unbraced (left ++ right) = unbraced left ++ unbraced right := by
  rw [unbraced, List.flatMap_append, ← unbraced, ← unbraced]

theorem unbraced_name {name : List Char} (hname : ∀ c ∈ name, isNameChar c = true) :
    unbraced name = name := by
  induction name with
  | nil => rfl
  | cons c cs ih =>
      have hc := hname c List.mem_cons_self
      have hopen : c ≠ '{' := by
        rintro rfl
        exact absurd hc (by decide)
      have hclose : c ≠ '}' := by
        rintro rfl
        exact absurd hc (by decide)
      rw [unbraced_cons hopen hclose, ih fun d hd => hname d (List.mem_cons_of_mem c hd)]

theorem IsPlain.tail {c : Char} {cs : List Char} (hplain : IsPlain (c :: cs)) : IsPlain cs :=
  fun d hd => hplain d (List.mem_cons_of_mem c hd)

theorem behindToken_of_plain {rest : List Char} (hplain : IsPlain rest) :
    behindToken rest = rest := by
  cases rest with
  | nil => rfl
  | cons c cs =>
      have hc := hplain c List.mem_cons_self
      simp only [List.mem_cons, List.not_mem_nil, or_false, not_or] at hc
      obtain ⟨-, -, hgroup, hmark, hstar, hplus⟩ := hc
      have hgroupSize : groupSize (c :: cs) = 0 := by
        rw [groupSize]
        rintro rest heq
        exact hgroup (List.cons.inj heq).1
      have hmodifier : isModifier c = false := by
        simp [isModifier, hmark, hstar, hplus]
      simp [behindToken, hgroupSize, modifierSize, hmodifier]

/-- A plain path is told from its shown form. -/
theorem unbraced_bracedChars {path : List Char} (hplain : IsPlain path) :
    unbraced (bracedChars path) = path := by
  induction path using match_induction (fun _ => placeholder?) with
  | nil => rfl
  | char c cs hfind ih =>
      have hc := hplain c List.mem_cons_self
      simp only [List.mem_cons, not_or] at hc
      rw [bracedChars_cons hfind, unbraced_cons hc.1 hc.2.1, ih hplain.tail]
  | item c cs name size hfind ih =>
      obtain ⟨rfl, rfl, hdrop⟩ := placeholder?_eq_some hfind
      have hrest : IsPlain (cs.dropWhile isNameChar) := fun d hd =>
        hplain.tail d ((List.dropWhile_sublist _).subset hd)
      have hname : ∀ d ∈ cs.takeWhile isNameChar, isNameChar d = true :=
        List.all_eq_true.mp List.all_takeWhile
      rw [hdrop, behindToken_of_plain hrest] at ih
      rw [bracedChars_token hfind, behindToken_of_plain hrest, unbraced_append]
      calc
        unbraced ('{' :: cs.takeWhile isNameChar) ++
            unbraced ('}' :: bracedChars (cs.dropWhile isNameChar)) =
            ':' :: unbraced (cs.takeWhile isNameChar) ++
              unbraced (bracedChars (cs.dropWhile isNameChar)) := rfl
        _ = ':' :: (cs.takeWhile isNameChar ++ cs.dropWhile isNameChar) := by
          rw [unbraced_name hname, ih hrest, List.cons_append]
        _ = ':' :: cs := by rw [List.takeWhile_append_dropWhile]

/-- Plain paths that are shown alike are one. -/
theorem braced_injOn_plain {left right : String} (hleft : IsPlain left.toList)
    (hright : IsPlain right.toList) (heq : braced left = braced right) : left = right := by
  rw [braced_eq, braced_eq, String.ofList_inj] at heq
  have hread := congrArg unbraced heq
  rw [unbraced_bracedChars hleft, unbraced_bracedChars hright] at hread
  exact String.toList_inj.mp hread

end RouteAtlas.Template
