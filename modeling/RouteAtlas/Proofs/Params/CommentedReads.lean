import RouteAtlas.Proofs.Params.Access
import RouteAtlas.Proofs.Params.BlockComment
import RouteAtlas.Proofs.Params.LineComment

/-!
# What a comment adds to the reads

Behind a text whose blocks are closed, a block comment never changes a scan: it goes out with
its delimiters before anything else is read, and what is left on both sides is the text without
it.

Blocks are taken out before line comments, so the text of a line comment is searched for
blocks too.  A comment that keeps its two slashes, and leaves no block open, goes out whole and
adds nothing.  Any other comment can add a read: one that starts a block together with its
second slash loses the slashes, and one that leaves a block open swallows the code behind it.
-/

namespace RouteAtlas.Source

open Text

theorem toList_blocked (left comment rest : String) :
    (left ++ "/*" ++ comment ++ "*/" ++ rest).toList =
      left.toList ++ '/' :: '*' :: (comment.toList ++ '*' :: '/' :: rest.toList) := by
  have hopen : ("/*" : String).toList = ['/', '*'] := rfl
  have hclose : ("*/" : String).toList = ['*', '/'] := rfl
  simp [hopen, hclose]

/-- A block comment changes neither the code nor the scan, whatever is written in it and around
it, unless a block is open in front of it or its removal makes one. -/
theorem block_comment_adds_nothing {left comment rest : String}
    (hclosed : blocksClosed false left.toList = true)
    (hcomment : ¬ ['*', '/'] <:+: comment.toList)
    (hseam : left.toList.getLast? ≠ some '/' ∨ rest.toList.head? ≠ some '*')
    (defaultIdent : String) :
    stripComments (left ++ "/*" ++ comment ++ "*/" ++ rest) = stripComments (left ++ rest) ∧
      scan (left ++ "/*" ++ comment ++ "*/" ++ rest) defaultIdent =
        scan (left ++ rest) defaultIdent := by
  have hcode : stripComments (left ++ "/*" ++ comment ++ "*/" ++ rest) =
      stripComments (left ++ rest) := by
    have hplain : stripBlocks (left ++ rest).toList =
        stripBlocks left.toList ++ stripBlocks rest.toList := by
      rw [String.toList_append]
      exact stripBlocks_append hclosed fun hlast hhead =>
        hseam.elim (absurd hlast) (absurd hhead)
    rw [stripComments, stripComments, toList_blocked, stripBlocks_append_block hclosed hcomment,
      hplain]
  refine ⟨hcode, ?_⟩
  simp only [scan, hcode]

theorem block_comment_adds_nothing_in_line_comment :
    blocksClosed false "req.query.a /* x */ // ".toList = true ∧
      ¬ ['*', '/'] <:+: "/ req.body.b // /* **".toList ∧
      ("req.query.a /* x */ // ".toList.getLast? ≠ some '/' ∨
        "*/ req.body.c\nreq.query.d".toList.head? ≠ some '*') ∧
      stripComments ("req.query.a /* x */ // " ++ "/*" ++ "/ req.body.b // /* **" ++ "*/" ++
          "*/ req.body.c\nreq.query.d") =
        stripComments ("req.query.a /* x */ // " ++ "*/ req.body.c\nreq.query.d") ∧
      scan ("req.query.a /* x */ // " ++ "/*" ++ "/ req.body.b // /* **" ++ "*/" ++
          "*/ req.body.c\nreq.query.d") "req" =
        scan ("req.query.a /* x */ // " ++ "*/ req.body.c\nreq.query.d") "req" := by
  have hclosed : blocksClosed false "req.query.a /* x */ // ".toList = true := by decide +kernel
  have hcomment : ¬ ['*', '/'] <:+: "/ req.body.b // /* **".toList := by decide +kernel
  have hseam : "req.query.a /* x */ // ".toList.getLast? ≠ some '/' ∨
      "*/ req.body.c\nreq.query.d".toList.head? ≠ some '*' := Or.inl (by decide +kernel)
  exact ⟨hclosed, hcomment, hseam, block_comment_adds_nothing hclosed hcomment hseam "req"⟩

/-- Whether a line comment is still one, and all of it, after its blocks are taken out. -/
def StaysComment (comment : List Char) : Prop :=
  blocksClosed false ('/' :: '/' :: comment) = true ∧
    ['/', '/'] <+: stripBlocks ('/' :: '/' :: comment)

instance (comment : List Char) : Decidable (StaysComment comment) :=
  inferInstanceAs (Decidable (_ ∧ _))

/-- Whether two slashes behind a text start a line comment: its blocks are closed, and its last
character neither protects the slashes nor is one. -/
def TakesComment (left : List Char) : Prop :=
  blocksClosed false left = true ∧
    ∀ last, left.getLast? = some last → last ∉ [':', '\\', '/']

theorem stripBlocks_newline (cs : List Char) :
    stripBlocks ('\n' :: cs) = '\n' :: stripBlocks cs :=
  stripBlocks_cons fun h => absurd h (by decide)

/-- A comment that stays one goes out with its slashes. -/
theorem strip_comment {left comment : List Char} (hleft : TakesComment left)
    (hline : '\n' ∉ comment) (hstays : StaysComment comment) (rest : List Char) :
    stripLines (stripBlocks (left ++ ('/' :: '/' :: comment ++ '\n' :: rest))) =
      stripLines (stripBlocks (left ++ '\n' :: rest)) := by
  obtain ⟨hclosed, hlast⟩ := hleft
  obtain ⟨hcommentClosed, kept, hkept⟩ := hstays
  have hnotSlash : left.getLast? ≠ some '/' := fun h => absurd (hlast '/' h) (by decide)
  have hkeptLine : '\n' ∉ kept := by
    intro hmem
    have hstripped : '\n' ∈ stripBlocks ('/' :: '/' :: comment) := by
      rw [← hkept]
      exact List.mem_append_right _ hmem
    have hcomment := (stripBlocks_sublist _).subset hstripped
    simp [hline] at hcomment
  have hbefore : ∀ last, (stripBlocks left).getLast?.or none = some last →
      last ∉ [':', '\\', '/'] := by
    rw [getLast?_stripBlocks hclosed hnotSlash, Option.or_none]
    exact hlast
  have hcommentLine : stripBlocks ('/' :: '/' :: comment ++ '\n' :: rest) =
      '/' :: '/' :: kept ++ '\n' :: stripBlocks rest := by
    rw [stripBlocks_append hcommentClosed (fun _ => by simp), stripBlocks_newline, ← hkept]
    rfl
  calc
    stripLines (stripBlocks (left ++ ('/' :: '/' :: comment ++ '\n' :: rest))) =
        cutLines false none
          ((stripBlocks left ++ '/' :: '/' :: kept) ++ '\n' :: stripBlocks rest) := by
      rw [stripLines_eq_cutLines, stripBlocks_append hclosed fun h => absurd h hnotSlash,
        hcommentLine, List.append_assoc]
    _ = cutLines false none (stripBlocks left) ++
          '\n' :: cutLines false (some '\n') (stripBlocks rest) := by
      rw [cutLines_append_newline, cutLines_append_comment hkeptLine false none hbefore]
    _ = cutLines false none (stripBlocks left ++ '\n' :: stripBlocks rest) := by
      rw [cutLines_append_newline]
    _ = stripLines (stripBlocks (left ++ '\n' :: rest)) := by
      rw [stripLines_eq_cutLines, stripBlocks_append hclosed fun h => absurd h hnotSlash,
        stripBlocks_newline]

theorem toList_commented (left comment rest : String) :
    (left ++ "//" ++ comment ++ "\n" ++ rest).toList =
      left.toList ++ ('/' :: '/' :: comment.toList ++ '\n' :: rest.toList) := by
  have hslashes : ("//" : String).toList = ['/', '/'] := rfl
  have hnewline : ("\n" : String).toList = ['\n'] := rfl
  simp [hslashes, hnewline]

theorem stripComments_comment {left comment : String} (hleft : TakesComment left.toList)
    (hline : '\n' ∉ comment.toList) (hstays : StaysComment comment.toList) (rest : String) :
    stripComments (left ++ "//" ++ comment ++ "\n" ++ rest) =
      stripComments (left ++ "\n" ++ rest) := by
  have hplain : (left ++ "\n" ++ rest).toList = left.toList ++ '\n' :: rest.toList := by
    have hnewline : ("\n" : String).toList = ['\n'] := rfl
    simp [hnewline]
  rw [stripComments, toList_commented, strip_comment hleft hline hstays, ← hplain,
    ← stripComments]

/-- A read counts in a line behind one that blocks leave with a slash in front. -/
theorem mem_query_behind_slash {source : String} {front line name : List Char}
    (hblocks : stripBlocks source.toList = '/' :: front ++ '\n' :: line)
    (hfront : '\n' ∉ front) (hline : cutLines false (some '\n') line = line)
    (hident : front.head? = some '/' → requestIdent? (String.ofList ('\n' :: line)) = none)
    (hread : (.query, name) ∈
      (readMatches (access "req".toList) 0 (some '\n') line).filterMap Sum.getRight?) :
    String.ofList name ∈ (scan source "req").query := by
  have hcode : stripComments source =
      String.ofList (cutLines false none ('/' :: front) ++ '\n' :: line) := by
    rw [stripComments, hblocks, stripLines_eq_cutLines, cutLines_append_newline, hline]
  refine mem_query_scan hcode ?_ (by decide) hread
  rw [hcode]
  by_cases hslash : front.head? = some '/'
  · rw [cutLines_slash_slash hfront hslash]
    exact hident hslash
  · rw [cutLines_slash hslash]
    exact requestIdent?_slash _

/-- The first block behind an open one starts inside it: its start is swallowed. -/
theorem comment_adds_of_open {comment : String} (hline : '\n' ∉ comment.toList)
    (hopen : blocksClosed false ('/' :: '/' :: comment.toList) = false) :
    "x" ∈ (scan ("" ++ "//" ++ comment ++ "\n" ++ "/*/\nreq.query.x*/") "req").query := by
  have hslash : '/' = '/' → ('/' :: comment.toList).head? ≠ some '*' := by simp
  have hslashBehind : '/' = '/' →
      ('/' :: comment.toList ++ "\n/*/\nreq.query.x*/".toList).head? ≠ some '*' := by simp
  have hend : blockEnd? "\n/*/\nreq.query.x*/".toList = some 4 := rfl
  rw [blocksClosed_cons hslash] at hopen
  obtain ⟨kept, hkept, hstrip⟩ := stripBlocks_append_of_open hopen (by decide) hend
  have hblocks : stripBlocks ("" ++ "//" ++ comment ++ "\n" ++ "/*/\nreq.query.x*/").toList =
      '/' :: kept ++ '\n' :: "req.query.x*/".toList := by
    rw [toList_commented]
    calc
      stripBlocks ('/' :: ('/' :: comment.toList ++ "\n/*/\nreq.query.x*/".toList)) =
          '/' :: (kept ++ stripBlocks "\nreq.query.x*/".toList) := by
        rw [stripBlocks_cons hslashBehind, hstrip]
        rfl
      _ = '/' :: kept ++ '\n' :: "req.query.x*/".toList := rfl
  have hkeptLine : '\n' ∉ kept := fun hmem => by simpa [hline] using hkept.subset hmem
  have hident : requestIdent? (String.ofList ('\n' :: "req.query.x*/".toList)) = none := by
    decide +kernel
  have hread : (Origin.query, ['x']) ∈
      (readMatches (access "req".toList) 0 (some '\n') "req.query.x*/".toList).filterMap
        Sum.getRight? := by
    decide +kernel
  exact mem_query_behind_slash hblocks hkeptLine rfl (fun _ => hident) hread

/-- A comment that loses its slashes stands before the parameter list and hides it. -/
theorem comment_adds_of_lost_slashes {comment : String} (hline : '\n' ∉ comment.toList)
    (hclosed : blocksClosed false ('/' :: '/' :: comment.toList) = true)
    (hlost : ¬ ['/', '/'] <+: stripBlocks ('/' :: '/' :: comment.toList)) :
    "x" ∈ (scan ("" ++ "//" ++ comment ++ "\n" ++ "(q) => req.query.x") "req").query := by
  have hslash : '/' = '/' → ('/' :: comment.toList).head? ≠ some '*' := by simp
  have hfirst : stripBlocks ('/' :: '/' :: comment.toList) =
      '/' :: stripBlocks ('/' :: comment.toList) := stripBlocks_cons hslash
  have hblocks :
      stripBlocks ("" ++ "//" ++ comment ++ "\n" ++ "(q) => req.query.x").toList =
        '/' :: stripBlocks ('/' :: comment.toList) ++ '\n' :: "(q) => req.query.x".toList := by
    rw [toList_commented]
    calc
      stripBlocks ('/' :: '/' :: comment.toList ++ '\n' :: "(q) => req.query.x".toList) =
          stripBlocks ('/' :: '/' :: comment.toList) ++
            '\n' :: stripBlocks "(q) => req.query.x".toList := by
        rw [stripBlocks_append hclosed (fun _ => by simp), stripBlocks_newline]
      _ = '/' :: stripBlocks ('/' :: comment.toList) ++
            '\n' :: "(q) => req.query.x".toList := by
        rw [hfirst]
        rfl
  have hkeptLine : '\n' ∉ stripBlocks ('/' :: comment.toList) := fun hmem => by
    simpa [hline] using (stripBlocks_sublist _).subset hmem
  -- With one slash in front the code shows no parameter; two would make it a comment again.
  have hident (hhead : (stripBlocks ('/' :: comment.toList)).head? = some '/') :
      requestIdent? (String.ofList ('\n' :: "(q) => req.query.x".toList)) = none := by
    obtain ⟨kept, hkept⟩ := List.head?_eq_some_iff.mp hhead
    exact absurd ⟨kept, by rw [hfirst, hkept]; rfl⟩ hlost
  have hread : (Origin.query, ['x']) ∈
      (readMatches (access "req".toList) 0 (some '\n') "(q) => req.query.x".toList).filterMap
        Sum.getRight? := by
    decide +kernel
  exact mem_query_behind_slash hblocks hkeptLine rfl hident hread

/-- Whether a line comment adds no name to a scan, in whatever place that takes one. -/
def AddsNothing (comment : String) : Prop :=
  ∀ left rest defaultIdent : String, TakesComment left.toList →
    let commented := scan (left ++ "//" ++ comment ++ "\n" ++ rest) defaultIdent
    let plain := scan (left ++ "\n" ++ rest) defaultIdent
    (∀ name ∈ commented.query, name ∈ plain.query) ∧
      ∀ name ∈ commented.body, name ∈ plain.body

/-- Exactly the comments that stay comments never add a name. -/
theorem addsNothing_iff_staysComment (comment : String) (hline : '\n' ∉ comment.toList) :
    AddsNothing comment ↔ StaysComment comment.toList := by
  constructor
  · intro hnothing
    have hempty : TakesComment "".toList := ⟨rfl, by simp⟩
    by_cases hclosed : blocksClosed false ('/' :: '/' :: comment.toList) = true
    · refine ⟨hclosed, ?_⟩
      by_cases hkept : ['/', '/'] <+: stripBlocks ('/' :: '/' :: comment.toList)
      · exact hkept
      · have hplain := (hnothing "" "(q) => req.query.x" "req" hempty).1 "x"
          (comment_adds_of_lost_slashes hline hclosed hkept)
        exact absurd hplain (by decide +kernel)
    · have hplain := (hnothing "" "/*/\nreq.query.x*/" "req" hempty).1 "x"
        (comment_adds_of_open hline (by simpa using hclosed))
      exact absurd hplain (by decide +kernel)
  · intro hstays left rest defaultIdent hleft
    have hcode := stripComments_comment hleft hline hstays rest
    have hscan : scan (left ++ "//" ++ comment ++ "\n" ++ rest) defaultIdent =
        scan (left ++ "\n" ++ rest) defaultIdent := by
      simp only [scan, hcode]
    rw [hscan]
    exact ⟨fun _ hname => hname, fun _ hname => hname⟩

theorem addsNothing_of_note :
    '\n' ∉ " reads req.query.page /* or req.body.page */".toList ∧
      AddsNothing " reads req.query.page /* or req.body.page */" :=
  ⟨by decide, (addsNothing_iff_staysComment _ (by decide)).mpr (by decide)⟩

theorem name_added_by_line_comment :
    TakesComment "".toList ∧ '\n' ∉ "**/req.query.x".toList ∧
      (scan ("" ++ "//" ++ "**/req.query.x" ++ "\n" ++ "") "req").query = ["x"] ∧
      (scan ("" ++ "\n" ++ "") "req").query = [] := by
  refine ⟨⟨rfl, by simp⟩, by decide, ?_⟩
  decide +kernel

end RouteAtlas.Source
