import RouteAtlas.Proofs.Data.Fitting
import RouteAtlas.Proofs.Json.Nesting

/-!
# Trees read back

A tree in canonical form that nests no deeper than a reader follows reads back as itself, in
every layout that sets lexemes apart by blanks only.  Records, variants and scalars are one lemma
each, under the assumption that the readers of parts read the parts back; an induction on the
depth that is allowed discharges the assumption.
-/

namespace RouteAtlas.Json

section Records

variable {Form : Type} {layout : Layout} {level : Nat} {blank : List Char}
  {readForm : Form → Reading}

theorem skipSpace_of_opens {written : List Char} (hopens : Opens written) (rest : List Char)
    (hblank : Blank blank) : skipSpace (blank ++ (written ++ rest)) = written ++ rest := by
  obtain ⟨c, cs, rfl, hspace, -⟩ := hopens
  rw [skipSpace_append hblank, List.cons_append, skipSpace_cons hspace]

/-- A field that has a value reads it, whether or not it may be null. -/
theorem readField_of_readsBack {field : Field Form} {written : List Char} {tree : Tree}
    (hvalue : ReadsBack (readForm field.form) written tree) (rest : List Char)
    (hblank : Blank blank) :
    readField readForm field (blank ++ (written ++ rest)) = .ok (some tree, rest) := by
  have hskip := skipSpace_of_opens hvalue.opens rest hblank
  obtain ⟨c, cs, hwritten, -, -, hnull⟩ := hvalue.opens
  rw [readField, hskip, hvalue.reads blank rest hblank]
  split
  · next hstart =>
      rw [hwritten, List.cons_append, List.cons.injEq] at hstart
      exact absurd hstart.1 hnull
  · rfl

/-- The value of an entry is that of the field under whose name it stands. -/
def EntryReads (readForm : Form → Reading) (layout : Layout) (level : Nat)
    (fields : List (Field Form)) (entry : String × Tree) : Prop :=
  ∃ field ∈ fields, field.name = entry.1 ∧
    ReadsBack (readForm field.form) (write layout level entry.2) entry.2

/-- The entries of a record are met one by one; none may have the name of another one or of one met
before. -/
theorem readFields_entriesBehind (hlayout : layout.Blank) (hblank : Blank blank)
    {fields : List (Field Form)} (hnames : (fields.map Field.name).Nodup) (rest : List Char)
    {entries seen : List (String × Tree)} (hkeys : (entries.map Prod.fst).Nodup)
    (hseen : ∀ entry ∈ entries, seen.lookup entry.1 = none)
    (hentries : ∀ entry ∈ entries, EntryReads readForm layout level fields entry)
    {fuel : Nat} (hfuel : entries.length < fuel) (first : Bool) :
    readFields readForm fields fuel first (FieldValues.of fields seen)
        (entriesBehind layout level first entries ++ (blank ++ '}' :: rest)) =
      .ok (FieldValues.of fields (entries.reverse ++ seen), blank ++ '}' :: rest) := by
  induction entries generalizing seen fuel first with
  | nil =>
      obtain ⟨fuel, rfl⟩ := Nat.exists_eq_succ_of_ne_zero (Nat.ne_zero_of_lt hfuel)
      rw [entriesBehind, List.nil_append, readFields, nextKey_close hblank]
      rfl
  | cons entry entries ih =>
      obtain ⟨key, value⟩ := entry
      obtain ⟨fuel, rfl⟩ := Nat.exists_eq_succ_of_ne_zero (Nat.ne_zero_of_lt hfuel)
      rw [List.length_cons, Nat.succ_lt_succ_iff] at hfuel
      rw [List.map_cons, List.nodup_cons] at hkeys
      rw [List.forall_mem_cons] at hseen hentries
      obtain ⟨field, hfield, rfl, hvalue⟩ := hentries.1
      obtain ⟨index, hindex, hget⟩ := FieldValues.indexOf?_of_mem hnames hfield
      have hunmet : FieldValues.isMet (FieldValues.of fields seen) index = false := by
        rw [FieldValues.isMet_of hget, hseen.1]
        rfl
      have hread := readField_of_readsBack hvalue
        (entriesBehind layout level false entries ++ (blank ++ '}' :: rest)) hlayout.afterColon
      -- The keys behind this one are still to be met, since none comes twice.
      have hnext : ∀ entry ∈ entries,
          ((field.name, value) :: seen).lookup entry.1 = none := by
        intro entry hentry
        have hne : entry.1 ≠ field.name := fun hname =>
          hkeys.1 (List.mem_map.mpr ⟨entry, hentry, hname⟩)
        rw [Table.lookup_cons_of_ne hne]
        exact hseen.2 entry hentry
      rw [entriesBehind, readFields]
      simp only [List.append_assoc, List.cons_append]
      rw [nextKey_separator (hlayout.lineStart level), ok_bind]
      simp only [readText_afterQuote, ok_bind, hindex, hunmet, readColon_cons, hread,
        Bool.false_eq_true, if_false]
      rw [FieldValues.set_of hnames hget, ih hkeys.2 hnext hentries.2 hfuel]
      rw [List.reverse_cons, List.append_assoc, List.singleton_append]

/-- A record that is complete reads back. -/
theorem readRecord_write (hlayout : layout.Blank) {fits : Form → Tree → Prop} (name : String)
    {fields : List (Field Form)} (hnames : (fields.map Field.name).Nodup)
    {entries : List (String × Tree)} (hfit : FieldsFit fits fields entries)
    (hentries : ∀ entry ∈ entries, EntryReads readForm layout (level + 1) fields entry)
    (rest : List Char) :
    readRecord readForm name fields (write layout level (.table entries) ++ rest) =
      .ok (.table entries, rest) := by
  obtain ⟨blank, hblank, hwrite⟩ := exists_write_table level hlayout entries
  have hlength := length_le_entriesBehind layout (level + 1) entries true
  have hkeys := hnames.sublist hfit.sublist_names
  have hmet : FieldValues.of fields (entries.reverse ++ []) =
      FieldValues.of fields entries := by
    rw [List.append_nil]
    exact FieldValues.of_eq_of_perm (List.reverse_perm entries) hkeys
  rw [hwrite, readRecord, ← FieldValues.of_nil]
  simp only [List.cons_append, List.append_assoc, List.nil_append, List.tail_cons,
    List.head?_cons]
  rw [if_neg (by decide), readFields_entriesBehind hlayout hblank hnames rest hkeys (by simp)
    hentries (by simp; omega), ok_bind, hmet, closeRecord, FieldValues.record?_of hnames hfit]
  simp [enclose, closeTable_append hblank]

/-- A variant with its content between the braces. -/
theorem readVariant_write (hlayout : layout.Blank)
    {key : String} {content : Tree} {variants : List (Variant Form)} {variant : Variant Form}
    {inner : Form} (hvariant : Variant.find? variants key = some variant)
    (hcontent : variant.content = some inner)
    (hinner : ReadsBack (readForm inner) (write layout (level + 1) content) content)
    (name : String) (rest : List Char) :
    readNested readForm (.choice name variants)
        (write layout level (.table [(key, content)]) ++ rest) =
      .ok (.table [(key, content)], rest) := by
  obtain ⟨blank, hblank, hwrite⟩ := exists_write_table level hlayout [(key, content)]
  have hread := hinner.reads layout.afterColon (blank ++ '}' :: rest) hlayout.afterColon
  have hclose : skipSpace (blank ++ '}' :: rest) = '}' :: rest :=
    skipSpace_append_cons hblank rfl rest
  have hkey (cs : List Char) :
      skipSpace (layout.lineStart (level + 1) ++ '"' :: cs) = '"' :: cs :=
    skipSpace_append_cons (hlayout.lineStart _) rfl cs
  rw [hwrite, readNested, readVariant, entriesBehind, entriesBehind]
  simp only [separator, List.cons_append, List.append_assoc, List.nil_append, List.tail_cons,
    if_true, hkey]
  rw [if_neg (by decide), if_neg (by decide), readText_afterQuote, ok_bind]
  simp only [knownVariant, hvariant, hcontent, ok_bind, readColon_cons, hread]
  simp [closeChoice, hclose, ok_bind, pure, Except.pure]

end Records

section Forms

variable {Form : Type} [Shaped Form] {layout : Layout} {form : Form} {blank : List Char}

/-- What is canonical is written with a first character that tells it from blanks, ends and null. -/
theorem opens_write {tree : Tree} (hfits : Fits form tree) (layout : Layout) (level : Nat) :
    Opens (write layout level tree) := by
  cases tree with
  | null => exact absurd rfl hfits.ne_null
  | number number => exact absurd rfl (hfits.ne_number number)
  | flag value =>
      cases value with
      | false => exact ⟨'f', "alse".toList, rfl, by decide⟩
      | true => exact ⟨'t', "rue".toList, rfl, by decide⟩
  | text value => exact ⟨'"', afterQuote value, by rw [write, writeText_eq_cons], by decide⟩
  | list items =>
      cases items with
      | nil => exact ⟨'[', [']'], by rw [write], by decide⟩
      | cons item items => exact ⟨'[', _, by rw [write]; rfl, by decide⟩
  | table entries =>
      cases entries with
      | nil => exact ⟨'{', ['}'], by rw [write], by decide⟩
      | cons entry entries => exact ⟨'{', _, by rw [write]; rfl, by decide⟩

theorem write_true_append (layout : Layout) (level : Nat) (rest : List Char) :
    write layout level (.flag true) ++ rest = 't' :: ("rue".toList ++ rest) := rfl

theorem write_false_append (layout : Layout) (level : Nat) (rest : List Char) :
    write layout level (.flag false) ++ rest = 'f' :: ("alse".toList ++ rest) := rfl

theorem readForm_blank (allowance : Nat) (form : Form) (hblank : Blank blank) (cs : List Char) :
    readForm allowance form (blank ++ cs) = readForm allowance form cs := by
  cases allowance with
  | zero => simp only [readForm, skipSpace_append hblank]
  | succ allowance => simp only [readForm, skipSpace_append hblank]

theorem readForm_flat (allowance : Nat) {c : Char} (hspace : isSpace c = false)
    (hclosed : opensNesting (Shaped.shape form) c = false) (cs : List Char) :
    readForm allowance form (c :: cs) = readFlat (Shaped.shape form) (c :: cs) := by
  cases allowance with
  | zero => simp [readForm, skipSpace_cons hspace, hclosed]
  | succ allowance => simp [readForm, skipSpace_cons hspace, hclosed]

theorem readForm_nested (form : Form) (allowance : Nat) {c : Char} {cs : List Char} (hhead : cs.head? = some c)
    (hspace : isSpace c = false) (hopen : opensNesting (Shaped.shape form) c = true) :
    readForm (allowance + 1) form cs =
      readNested (readForm allowance) (Shaped.shape form) cs := by
  obtain ⟨cs, rfl⟩ := List.head?_eq_some_iff.mp hhead
  simp [readForm, skipSpace_cons hspace, hopen]

theorem head?_write_list (layout : Layout) (level : Nat) (items : List Tree) (rest : List Char) :
    (write layout level (.list items) ++ rest).head? = some '[' := by
  cases items with
  | nil => rw [write]; rfl
  | cons item items => rw [write]; rfl

theorem head?_write_table (layout : Layout) (level : Nat) (entries : List (String × Tree))
    (rest : List Char) : (write layout level (.table entries) ++ rest).head? = some '{' := by
  cases entries with
  | nil => rw [write]; rfl
  | cons entry entries => rw [write]; rfl

theorem readForm_text (allowance : Nat) {level : Nat} {value : String}
    (hfits : Fits form (.text value)) (rest : List Char) :
    readForm allowance form (write layout level (.text value) ++ rest) =
      .ok (.text value, rest) := by
  rw [write, writeText_eq_cons, List.cons_append]
  cases hfits with
  | text hshape =>
      rw [readForm_flat allowance rfl (by rw [hshape]; rfl), hshape, readFlat,
        readText_afterQuote]
      rfl
  | bare hshape hvariant hcontent =>
      rw [readForm_flat allowance rfl (by rw [hshape]; rfl), hshape, readFlat, readBareVariant,
        readText_afterQuote]
      simp only [ok_bind, knownVariant, hvariant, hcontent]
      rfl

theorem readForm_flag (allowance : Nat) {level : Nat} {value : Bool}
    (hfits : Fits form (.flag value)) (rest : List Char) :
    readForm allowance form (write layout level (.flag value) ++ rest) =
      .ok (.flag value, rest) := by
  cases hfits with
  | flag hshape =>
      cases value with
      | false =>
          rw [write_false_append, readForm_flat allowance rfl (by rw [hshape]; rfl), hshape,
            readFlat, readWord_append]
          rfl
      | true =>
          rw [write_true_append, readForm_flat allowance rfl (by rw [hshape]; rfl), hshape,
            readFlat, readWord_append]
          rfl

/-- A list of a form is read back if its items are, one level of nesting further in. -/
theorem readForm_list (hlayout : layout.Blank) {allowance level : Nat} {items : List Tree}
    (hfits : Fits form (.list items))
    (hitems : ∀ item ∈ items, ∀ inner : Form, Fits inner item →
      ReadsBack (readForm allowance inner) (write layout (level + 1) item) item)
    (rest : List Char) :
    readForm (allowance + 1) form (write layout level (.list items) ++ rest) =
      .ok (.list items, rest) := by
  cases hfits with
  | list hshape hfit =>
      rw [readForm_nested form allowance (head?_write_list layout level items rest) rfl
        (by rw [hshape]; rfl), hshape, readNested,
        readList_write id hlayout
          fun item hitem => hitems item hitem _ (hfit item hitem)]
      rw [List.map_id]

/-- A table, record or choice is read back if its values are, one level of nesting further in. -/
theorem readForm_table (hlayout : layout.Blank) {allowance level : Nat}
    {entries : List (String × Tree)} (hfits : Fits form (.table entries))
    (hentries : ∀ entry ∈ entries, ∀ inner : Form, Fits inner entry.2 →
      ReadsBack (readForm allowance inner) (write layout (level + 1) entry.2) entry.2)
    (rest : List Char) :
    readForm (allowance + 1) form (write layout level (.table entries) ++ rest) =
      .ok (.table entries, rest) := by
  have hnested (hopen : opensNesting (Shaped.shape form) '{' = true) :=
    readForm_nested form allowance (head?_write_table layout level entries rest) rfl hopen
  cases hfits with
  | table hshape hsorted hvalues =>
      rw [hnested (by rw [hshape]; rfl), hshape, readNested, readTable_write id hlayout
        fun entry hentry => hentries entry hentry _ (hvalues entry hentry)]
      have hsame : entries.map (fun entry => (entry.1, id entry.2)) = entries :=
        List.map_id' entries
      rw [hsame, Table.ofEntries_of_sorted hsorted]
  | record hshape hnames hfields =>
      rw [hnested (by rw [hshape]; rfl), hshape, readNested]
      apply readRecord_write hlayout _ hnames hfields
      intro entry hentry
      obtain ⟨field, hfield, hname, hvalue⟩ := hfields.exists_field hentry
      exact ⟨field, hfield, hname, hentries entry hentry _ hvalue⟩
  | variant hshape hvariant hcontent hinner =>
      rw [hnested (by rw [hshape]; rfl), hshape]
      exact readVariant_write hlayout hvariant hcontent
        (hentries _ List.mem_cons_self _ hinner) _ rest

/-- A tree in canonical form that nests no deeper than allowed reads back as itself. -/
theorem readsBack_readForm (hlayout : layout.Blank) {allowance : Nat} (level : Nat) {tree : Tree}
    (hfits : Fits form tree) (hdepth : tree.depth ≤ allowance) :
    ReadsBack (readForm allowance form) (write layout level tree) tree := by
  -- The reader goes down on the allowance; a list or a table takes one level of it.
  induction allowance using Nat.strongRecOn generalizing form tree level with
  | ind allowance ih =>
      refine ⟨opens_write hfits layout level, fun blank rest hblank => ?_⟩
      rw [readForm_blank _ _ hblank]
      cases tree with
      | null => exact absurd rfl hfits.ne_null
      | number number => exact absurd rfl (hfits.ne_number number)
      | flag value => exact readForm_flag _ hfits rest
      | text value => exact readForm_text _ hfits rest
      | list items =>
          obtain ⟨inner, rfl, hitems⟩ := Tree.exists_of_depth_list_le hdepth
          apply readForm_list hlayout hfits
          intro item hitem form hitemFits
          exact ih inner (Nat.lt_succ_self inner) (level + 1) hitemFits (hitems item hitem)
      | table entries =>
          obtain ⟨inner, rfl, hvalues⟩ := Tree.exists_of_depth_table_le hdepth
          apply readForm_table hlayout hfits
          intro entry hentry form hvalueFits
          exact ih inner (Nat.lt_succ_self inner) (level + 1) hvalueFits (hvalues entry hentry)

/-- A whole text that holds a tree in canonical form reads back as the tree. -/
theorem read_print (hlayout : layout.Blank) {tree : Tree} (hfits : Fits form tree)
    (hdepth : tree.depth ≤ maxDepth) : read form (print layout tree) = .ok tree := by
  have hread := (readsBack_readForm hlayout 0 hfits hdepth).reads [] [] blank_nil
  rw [List.nil_append, List.append_nil] at hread
  rw [read, print, String.toList_ofList, readWhole, hread, ok_bind]
  rfl

end Forms

section Free

variable {Form : Type} [Shaped Form] {layout : Layout} {form : Form} {blank : List Char}

theorem readTree_blank (allowance : Nat) (hblank : Blank blank) (cs : List Char) :
    readTree allowance (blank ++ cs) = readTree allowance cs := by
  cases allowance with
  | zero => simp only [readTree, skipSpace_append hblank]
  | succ allowance => simp only [readTree, skipSpace_append hblank]

theorem readTree_scalar (allowance : Nat) {c : Char} (hspace : isSpace c = false)
    (hlist : c ≠ '[') (htable : c ≠ '{') (cs : List Char) :
    readTree allowance (c :: cs) = (readScalar (c :: cs)).map fun read => (read.1.1, read.2) := by
  cases allowance with
  | zero => simp [readTree, skipSpace_cons hspace, hlist, htable]
  | succ allowance => simp [readTree, skipSpace_cons hspace, hlist, htable]

theorem readTree_text (allowance level : Nat) (value : String) (rest : List Char) :
    readTree allowance (write layout level (.text value) ++ rest) = .ok (.text value, rest) := by
  rw [write, writeText_eq_cons, List.cons_append,
    readTree_scalar allowance rfl (by decide) (by decide), readScalar]
  simp only [readText_afterQuote, ok_bind]
  rfl

theorem readTree_flag (allowance level : Nat) (value : Bool) (rest : List Char) :
    readTree allowance (write layout level (.flag value) ++ rest) = .ok (.flag value, rest) := by
  cases value with
  | false =>
      rw [write_false_append, readTree_scalar allowance rfl (by decide) (by decide), readScalar,
        readWord_append]
      rfl
  | true =>
      rw [write_true_append, readTree_scalar allowance rfl (by decide) (by decide), readScalar,
        readWord_append]
      rfl

theorem readTree_list (hlayout : layout.Blank) {allowance level : Nat} {items : List Tree}
    (hitems : ∀ item ∈ items,
      ReadsBack (readTree allowance) (write layout (level + 1) item) item.sorted)
    (rest : List Char) :
    readTree (allowance + 1) (write layout level (.list items) ++ rest) =
      .ok ((Tree.list items).sorted, rest) := by
  obtain ⟨cs, hwrite⟩ := List.head?_eq_some_iff.mp (head?_write_list layout level items rest)
  have hread := readList_write Tree.sorted hlayout hitems rest
  rw [hwrite] at hread ⊢
  rw [Tree.sorted_list, ← hread]
  rfl

/-- Without a shape, a table is read back sorted, and so is everything in it. -/
theorem readTree_table (hlayout : layout.Blank) {allowance level : Nat}
    {entries : List (String × Tree)}
    (hentries : ∀ entry ∈ entries,
      ReadsBack (readTree allowance) (write layout (level + 1) entry.2) entry.2.sorted)
    (rest : List Char) :
    readTree (allowance + 1) (write layout level (.table entries) ++ rest) =
      .ok ((Tree.table entries).sorted, rest) := by
  obtain ⟨cs, hwrite⟩ := List.head?_eq_some_iff.mp (head?_write_table layout level entries rest)
  have hread := readTable_write Tree.sorted hlayout hentries rest
  rw [hwrite] at hread ⊢
  rw [Tree.sorted_table, ← Table.ofEntries_map, ← hread]
  rfl

/-- Read freely, a tree in canonical form reads back with its tables sorted. -/
theorem readsBack_readTree (hlayout : layout.Blank) {allowance : Nat} (level : Nat) {tree : Tree}
    (hfits : Fits form tree) (hdepth : tree.depth ≤ allowance) :
    ReadsBack (readTree allowance) (write layout level tree) tree.sorted := by
  induction allowance using Nat.strongRecOn generalizing form tree level with
  | ind allowance ih =>
      refine ⟨opens_write hfits layout level, fun blank rest hblank => ?_⟩
      rw [readTree_blank _ hblank]
      cases tree with
      | null => exact absurd rfl hfits.ne_null
      | number number => exact absurd rfl (hfits.ne_number number)
      | flag value => exact readTree_flag allowance level value rest
      | text value => exact readTree_text allowance level value rest
      | list items =>
          obtain ⟨inner, rfl, hitems⟩ := Tree.exists_of_depth_list_le hdepth
          apply readTree_list hlayout
          intro item hitem
          obtain ⟨form, hitemFits⟩ := hfits.of_mem_items hitem
          exact ih inner (Nat.lt_succ_self inner) (level + 1) hitemFits (hitems item hitem)
      | table entries =>
          obtain ⟨inner, rfl, hvalues⟩ := Tree.exists_of_depth_table_le hdepth
          apply readTree_table hlayout
          intro entry hentry
          obtain ⟨form, hvalueFits⟩ := hfits.of_mem_entries hentry
          exact ih inner (Nat.lt_succ_self inner) (level + 1) hvalueFits (hvalues entry hentry)

/-- A text that holds a tree in canonical form, read freely, gives the tree with its tables
sorted. -/
theorem readAny_print (hlayout : layout.Blank) {tree : Tree} (hfits : Fits form tree)
    (hdepth : tree.depth ≤ maxDepth) : readAny (print layout tree) = .ok tree.sorted := by
  have hread := (readsBack_readTree hlayout 0 hfits hdepth).reads [] [] blank_nil
  rw [List.nil_append, List.append_nil] at hread
  rw [readAny, print, String.toList_ofList, readWhole, hread, ok_bind]
  rfl

end Free

end RouteAtlas.Json
