import RouteAtlas.Params.Access
import RouteAtlas.Proofs.Text.Matches
import RouteAtlas.Proofs.Text.Names
import RouteAtlas.Proofs.Text.Runs

/-!
# Reads line by line

A read is found exactly where its text stands and neither its identifier nor its name goes on.
No read reaches over the end of a line: a new line is neither part of an identifier nor of the
words of a read.  A read that stands in a later line is found there, whatever the lines before
it hold, as long as they do not change the request parameter.
-/

namespace RouteAtlas.Source

open Text

theorem nameOf?_eq (origin : Origin) (cs : List Char) :
    nameOf? origin cs =
      ((stripHead? (origin.word ++ ['.']) cs).bind takeIdent?).map Prod.fst := by
  rw [nameOf?]
  cases stripHead? (origin.word ++ ['.']) cs with
  | none => rfl
  | some rest =>
      cases hfound : takeIdent? rest with
      | none => simp [hfound]
      | some found => simp [hfound]

theorem nameOf?_append_newline (origin : Origin) (cs rest : List Char) :
    nameOf? origin (cs ++ '\n' :: rest) = nameOf? origin cs := by
  have hword : StartsOutside (· ∈ origin.word ++ ['.']) ('\n' :: rest) := by
    cases origin with
    | query => exact startsOutside_cons.mpr (by decide)
    | body => exact startsOutside_cons.mpr (by decide)
  have hname : StartsOutside isIdentPart ('\n' :: rest) := startsOutside_cons.mpr (by decide)
  rw [nameOf?_eq, nameOf?_eq, stripHead?_append hword]
  cases stripHead? (origin.word ++ ['.']) cs with
  | none => rfl
  | some tail =>
      rw [Option.map_some, Option.bind_some, Option.bind_some,
        takeIdent?_append_of_startsOutside hname, Option.map_map]
      rfl

/-- A name is read where the origin's word, a dot and the whole identifier stand. -/
theorem nameOf?_eq_some_iff {origin : Origin} {cs name : List Char} :
    nameOf? origin cs = some name ↔
      IsIdent name ∧ ∃ rest, cs = origin.word ++ '.' :: (name ++ rest) ∧
        StartsOutside isIdentPart rest := by
  rw [nameOf?_eq, Option.map_eq_some_iff]
  constructor
  · rintro ⟨⟨found, rest⟩, hfound, rfl⟩
    obtain ⟨tail, htail, htake⟩ := Option.bind_eq_some_iff.mp hfound
    obtain ⟨hname, rfl, hrest⟩ := takeIdent?_eq_some_iff.mp htake
    refine ⟨hname, rest, ?_, hrest⟩
    rw [stripHead?_eq_some_iff.mp htail, List.append_assoc, List.singleton_append]
  · rintro ⟨hname, rest, rfl, hrest⟩
    refine ⟨(name, rest), Option.bind_eq_some_iff.mpr ⟨name ++ rest, ?_, ?_⟩, rfl⟩
    · rw [stripHead?_eq_some_iff, List.append_assoc, List.singleton_append]
    · exact takeIdent?_eq_some_iff.mpr ⟨hname, rfl, hrest⟩

/-- What follows the identifier and its dot: the origin and the name. -/
def read? (cs : List Char) : Option Access :=
  ((nameOf? .query cs).map (Origin.query, ·)).or ((nameOf? .body cs).map (Origin.body, ·))

theorem access_eq (ident : List Char) (before : Option Char) (cs : List Char) :
    access ident before cs =
      if before.any isIdentPart then none
      else ((stripHead? (ident ++ ['.']) cs).bind read?).map fun found =>
        (found, ident.length + found.1.word.length + found.2.length + 2) := by
  rw [access]
  by_cases hbefore : before.any isIdentPart = true
  · rw [if_pos hbefore, if_pos hbefore]
  · rw [if_neg hbefore, if_neg hbefore]
    cases stripHead? (ident ++ ['.']) cs with
    | none => rfl
    | some rest =>
        cases hread : read? rest with
        | none =>
            rw [read?] at hread
            simp [read?, hread]
        | some found =>
            rw [read?] at hread
            simp [read?, hread]

theorem read?_append_newline (cs rest : List Char) :
    read? (cs ++ '\n' :: rest) = read? cs := by
  rw [read?, read?, nameOf?_append_newline, nameOf?_append_newline]

/-- A text does not start with the words of both origins. -/
theorem nameOf?_query_eq_none {cs name : List Char} (hbody : nameOf? .body cs = some name) :
    nameOf? .query cs = none := by
  obtain ⟨-, rest, rfl, -⟩ := nameOf?_eq_some_iff.mp hbody
  rfl

theorem read?_eq_some_iff {cs : List Char} {read : Access} :
    read? cs = some read ↔ nameOf? read.1 cs = some read.2 := by
  obtain ⟨origin, name⟩ := read
  rw [read?, Option.or_eq_some_iff, Option.map_eq_some_iff, Option.map_eq_some_iff,
    Option.map_eq_none_iff]
  cases origin with
  | query => simp
  | body => simpa using nameOf?_query_eq_none

/-- The text of a read through an identifier. -/
def readText (ident : List Char) (read : Access) : List Char :=
  ident ++ '.' :: (read.1.word ++ '.' :: read.2)

theorem length_readText (ident : List Char) (read : Access) :
    (readText ident read).length = ident.length + read.1.word.length + read.2.length + 2 := by
  simp only [readText, List.length_append, List.length_cons]
  omega

theorem any_isIdentPart_eq_false_iff (before : Option Char) :
    before.any isIdentPart = false ↔ ∀ c ∈ before, isIdentPart c = false := by
  cases before with
  | none => simp
  | some c => simp

/-- A read is found where its text stands, unless the identifier or the name is longer. -/
theorem access_eq_some_iff {ident : List Char} {before : Option Char} {cs : List Char}
    {read : Access} {size : Nat} :
    access ident before cs = some (read, size) ↔
      (∀ c ∈ before, isIdentPart c = false) ∧ size = (readText ident read).length ∧
        IsIdent read.2 ∧
        ∃ rest, cs = readText ident read ++ rest ∧ StartsOutside isIdentPart rest := by
  rw [access_eq, length_readText, ← any_isIdentPart_eq_false_iff]
  by_cases hbefore : before.any isIdentPart = true
  · simp [hbefore]
  · rw [if_neg hbefore, Option.map_eq_some_iff]
    constructor
    · rintro ⟨found, hfound, heq⟩
      obtain ⟨rfl, rfl⟩ := Prod.mk.inj heq
      obtain ⟨tail, htail, hread⟩ := Option.bind_eq_some_iff.mp hfound
      obtain ⟨hname, rest, rfl, hrest⟩ := nameOf?_eq_some_iff.mp (read?_eq_some_iff.mp hread)
      refine ⟨by simpa using hbefore, rfl, hname, rest, ?_, hrest⟩
      rw [stripHead?_eq_some_iff.mp htail]
      simp [readText]
    · rintro ⟨-, rfl, hname, rest, rfl, hrest⟩
      have hhead : stripHead? (ident ++ ['.']) (readText ident read ++ rest) =
          some (read.1.word ++ '.' :: (read.2 ++ rest)) := by
        rw [stripHead?_eq_some_iff]
        simp [readText]
      have hread : read? (read.1.word ++ '.' :: (read.2 ++ rest)) = some read :=
        read?_eq_some_iff.mpr (nameOf?_eq_some_iff.mpr ⟨hname, rest, rfl, hrest⟩)
      exact ⟨read, Option.bind_eq_some_iff.mpr ⟨_, hhead, hread⟩, rfl⟩

/-- No read reaches over the end of a line. -/
theorem access_staysBefore {ident : List Char} (hident : '\n' ∉ ident) :
    Matcher.StaysBefore '\n' (access ident) where
  find_nil := by
    intro before
    have hnone : stripHead? (ident ++ ['.']) [] = none := by
      cases ident with
      | nil => rfl
      | cons c ident => rfl
    rw [access_eq, hnone, Option.bind_none, Option.map_none, ite_self]
  find_append := by
    intro before cs rest
    have hhead : StartsOutside (· ∈ ident ++ ['.']) ('\n' :: rest) := by simp [hident]
    rw [access_eq, access_eq, stripHead?_append hhead]
    cases stripHead? (ident ++ ['.']) cs with
    | none => rfl
    | some tail =>
        rw [Option.map_some, Option.bind_some, Option.bind_some, read?_append_newline]
  size_le := by
    intro before cs item size hfind
    obtain ⟨-, rfl, -, rest, rfl, -⟩ := access_eq_some_iff.mp hfind
    rw [List.length_append]
    exact Nat.le_add_right _ _

theorem mem_namesFrom {origin : Origin} {accesses : List Access} {name : List Char} :
    String.ofList name ∈ namesFrom origin accesses ↔ (origin, name) ∈ accesses := by
  rw [namesFrom, distinctNames, mem_addNames, List.mem_map]
  constructor
  · rintro (hnil | ⟨⟨from', found⟩, hread, heq⟩)
    · simp at hnil
    · obtain ⟨hmem, horigin⟩ := List.mem_filter.mp hread
      obtain rfl : from' = origin := of_decide_eq_true horigin
      obtain rfl : found = name := String.ofList_inj.mp heq
      exact hmem
  · intro hmem
    refine Or.inr ⟨(origin, name), ?_, rfl⟩
    exact List.mem_filter.mpr ⟨hmem, decide_eq_true rfl⟩

/-- A read through the default identifier counts in whatever line of the code it stands. -/
theorem mem_query_scan {source defaultIdent : String} {front line name : List Char}
    (hcode : stripComments source = String.ofList (front ++ '\n' :: line))
    (hident : requestIdent? (stripComments source) = none)
    (hdefault : '\n' ∉ defaultIdent.toList)
    (hread : (.query, name) ∈
      (readMatches (access defaultIdent.toList) 0 (some '\n') line).filterMap Sum.getRight?) :
    String.ofList name ∈ (scan source defaultIdent).query := by
  have hitem : (Origin.query, name) ∈
      itemsIn (access defaultIdent.toList) (stripComments source).toList := by
    rw [itemsIn, hcode, String.toList_ofList,
      matchesIn_append_mark (access_staysBefore hdefault), List.filterMap_append]
    exact List.mem_append_right _ hread
  simp only [scan, hident, Option.getD_none]
  exact mem_namesFrom.mpr hitem

theorem requestIdent?_slash (cs : List Char) :
    requestIdent? (String.ofList ('/' :: cs)) = none := by
  rw [requestIdent?, String.toList_ofList]
  rfl

end RouteAtlas.Source
