import RouteAtlas.Proofs.Params.Access
import RouteAtlas.Proofs.Text.Finds

/-!
# The reads that a scan counts

A read of the request stands where a code says `req.query.name` or `req.body.name`, its
identifier is not the end of a longer one, and its name goes as far as it can.  A scan reports
the names of these reads, in the order in which they are first met, and leaves out only those
that begin inside the text of a read that counts, as a configured identifier with dots allows.
-/

namespace RouteAtlas.Source

open Text

/-- Whether a read through the identifier stands in a code. -/
def IsRead (ident code : List Char) (found : Find Access) : Prop :=
  ∃ front rest, code = front ++ (readText ident found.item ++ rest) ∧
    front.length = found.place ∧ (readText ident found.item).length = found.size ∧
    (∀ c ∈ front.getLast?, isIdentPart c = false) ∧
    IsIdent found.item.2 ∧ StartsOutside isIdentPart rest

/-- The names of the reads from one origin, with repeats. -/
def readNamesOf (origin : Origin) (reads : List (Find Access)) : List String :=
  (reads.filter (·.item.1 = origin)).map fun read => String.ofList read.item.2

theorem readText_ne_nil (ident : List Char) (read : Access) : readText ident read ≠ [] := by
  intro hnil
  have hlength := congrArg List.length hnil
  rw [length_readText, List.length_nil] at hlength
  omega

/-- The reads that stand in a code are those that are found in it. -/
theorem foundIn_access (ident code : List Char) :
    FoundIn (access ident) code = IsRead ident code := by
  funext found
  apply propext
  constructor
  · rintro ⟨front, cs, rfl, -, hplace, hfind⟩
    obtain ⟨hbefore, hsize, hname, rest, rfl, hrest⟩ := access_eq_some_iff.mp hfind
    exact ⟨front, rest, rfl, hplace, hsize.symm, hbefore, hname, hrest⟩
  · rintro ⟨front, rest, rfl, hplace, hsize, hbefore, hname, hrest⟩
    refine ⟨front, _, rfl, ?_, hplace, ?_⟩
    · exact List.append_ne_nil_of_left_ne_nil (readText_ne_nil ident found.item) rest
    · exact access_eq_some_iff.mpr ⟨hbefore, hsize.symm, hname, rest, rfl, hrest⟩

/-- A read takes at least one character. -/
theorem size_pos_of_access {ident cs : List Char} {before : Option Char} {read : Access}
    {size : Nat} (hfind : access ident before cs = some (read, size)) : 0 < size := by
  obtain ⟨-, rfl, -⟩ := access_eq_some_iff.mp hfind
  exact List.length_pos_iff.mpr (readText_ne_nil ident read)

/-- The names of some reads are kept in order of their first read. -/
theorem namesFrom_map_item (origin : Origin) (reads : List (Find Access)) :
    namesFrom origin (reads.map Find.item) = (readNamesOf origin reads).eraseDups := by
  rw [namesFrom, distinctNames_eq_eraseDups, readNamesOf, List.filter_map, List.map_map]
  rfl

theorem nodup_namesFrom (origin : Origin) (accesses : List Access) :
    (namesFrom origin accesses).Nodup :=
  nodup_distinctNames _

/-- The characters of the identifier through which a scan finds its reads. -/
def scanIdent (source defaultIdent : String) : List Char :=
  ((requestIdent? (stripComments source)).getD defaultIdent).toList

theorem scan_eq (source defaultIdent : String) :
    scan source defaultIdent =
      ⟨namesFrom .query
          (itemsIn (access (scanIdent source defaultIdent)) (stripComments source).toList),
        namesFrom .body
          (itemsIn (access (scanIdent source defaultIdent)) (stripComments source).toList)⟩ := rfl

/-- A scan reports the names of the reads that count, each once: exactly one list of reads
counts, and it leaves out only reads that begin inside the text of one of its own. -/
theorem scan_reports_counted_reads (source defaultIdent : String) :
    ∃ counted : List (Find Access),
      (∀ reads, Counted (IsRead (scanIdent source defaultIdent) (stripComments source).toList)
        reads ↔ reads = counted) ∧
      (scan source defaultIdent).query = (readNamesOf .query counted).eraseDups ∧
      (scan source defaultIdent).body = (readNamesOf .body counted).eraseDups ∧
      (scan source defaultIdent).query.Nodup ∧ (scan source defaultIdent).body.Nodup := by
  obtain ⟨counted, hcounted, hitems⟩ :=
    itemsIn_counted (access (scanIdent source defaultIdent))
      (fun _ _ _ _ => size_pos_of_access) (stripComments source).toList
  have hscan := scan_eq source defaultIdent
  rw [hitems] at hscan
  rw [foundIn_access] at hcounted
  rw [hscan]
  exact ⟨counted, hcounted, namesFrom_map_item .query counted, namesFrom_map_item .body counted,
    nodup_namesFrom .query _, nodup_namesFrom .body _⟩

-- The second read begins inside the first one.
example : (scan "r.query.r.query.r.query.x" "r.query.r").query = ["r"] := by
  decide +kernel

end RouteAtlas.Source
