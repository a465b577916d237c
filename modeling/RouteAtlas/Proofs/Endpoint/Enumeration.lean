import RouteAtlas.Proofs.Endpoint.Walk
import RouteAtlas.Proofs.Text.Pieces

/-!
# Walks enumerate the leaves

A leaf of a registry has an address: the numbers of the layers on the way to it, from the outside
in.  A walk goes through the addresses in lexicographic order, which is depth first and in the order
of registration, and visits each of them once.  What it yields at a leaf is told by the leaf and by
the path accumulated around it, and a path accumulated from the empty one can always be appended to.
-/

namespace RouteAtlas

namespace Layer

/-- The leaf at an address inside a layer, the numbers of the layers on the way to it from the
outside in. -/
def leafAt? : Layer → List Nat → Option Leaf
  | .route leaf, [] => some ⟨[], .inl leaf⟩
  | .middleware leaf, [] => some ⟨[], .inr leaf⟩
  | .mount token layers, number :: address =>
    (layers[number]?.bind fun layer => layer.leafAt? address).map (Leaf.below token)
  | _, _ => none

def leafAmong? (layers : List Layer) : List Nat → Option Leaf
  | [] => none
  | number :: address => layers[number]?.bind fun layer => layer.leafAt? address

theorem leafAt?_mount (token : Token) (layers : List Layer) (address : List Nat) :
    (mount token layers).leafAt? address = (leafAmong? layers address).map (Leaf.below token) := by
  cases address with
  | nil => rfl
  | cons number address => rfl

mutual

/-- The leaves of a layer in order of registration, each with its address. -/
def addressed : Layer → List (List Nat × Leaf)
  | .route leaf => [([], ⟨[], .inl leaf⟩)]
  | .mount token layers => (addressedFrom 0 layers).map (Prod.map id (Leaf.below token))
  | .middleware leaf => [([], ⟨[], .inr leaf⟩)]

/-- The leaves of some layers in order of registration, each with its address, where the first
layer has the given number. -/
def addressedFrom (number : Nat) : List Layer → List (List Nat × Leaf)
  | [] => []
  | layer :: layers =>
    layer.addressed.map (Prod.map (number :: ·) id) ++ addressedFrom (number + 1) layers

end

mutual

theorem map_snd_addressed (layer : Layer) : layer.addressed.map Prod.snd = layer.leaves := by
  cases layer with
  | route leaf => rfl
  | mount token layers =>
      rw [addressed, leaves, ← map_snd_addressedFrom 0 layers, List.map_map, List.map_map]
      rfl
  | middleware leaf => rfl

/-- Without their addresses, the addressed leaves are the leaves. -/
theorem map_snd_addressedFrom (number : Nat) (layers : List Layer) :
    (addressedFrom number layers).map Prod.snd = leavesAll layers := by
  cases layers with
  | nil => rfl
  | cons layer layers =>
      rw [addressedFrom, leavesAll, List.map_append, map_snd_addressedFrom _ layers,
        ← map_snd_addressed layer, List.map_map]
      rfl

end

mutual

/-- The leaves that are listed are those at the addresses inside the layer. -/
theorem mem_addressed (layer : Layer) (address : List Nat) (leaf : Leaf) :
    (address, leaf) ∈ layer.addressed ↔ layer.leafAt? address = some leaf := by
  cases layer with
  | route route =>
      cases address with
      | nil => simp [addressed, leafAt?, eq_comm]
      | cons number address => simp [addressed, leafAt?]
  | mount token layers =>
      rw [addressed, leafAt?_mount, Option.map_eq_some_iff, List.mem_map]
      constructor
      · rintro ⟨⟨address, inner⟩, hinner, heq⟩
        obtain ⟨rfl, rfl⟩ := Prod.mk.inj heq
        obtain ⟨i, rest, rfl, hfound⟩ := (mem_addressedFrom 0 layers _ _).mp hinner
        rw [Nat.zero_add]
        exact ⟨inner, hfound, rfl⟩
      · rintro ⟨inner, hfound, rfl⟩
        refine ⟨(address, inner), ?_, rfl⟩
        cases address with
        | nil => simp [leafAmong?] at hfound
        | cons number rest =>
            exact (mem_addressedFrom 0 layers _ _).mpr ⟨number, rest, by rw [Nat.zero_add], hfound⟩
  | middleware middleware =>
      cases address with
      | nil => simp [addressed, leafAt?, eq_comm]
      | cons number address => simp [addressed, leafAt?]

/-- A leaf is listed with an address exactly if it is found by following the address. -/
theorem mem_addressedFrom (number : Nat) (layers : List Layer) (address : List Nat) (leaf : Leaf) :
    (address, leaf) ∈ addressedFrom number layers ↔
      ∃ i rest, address = (number + i) :: rest ∧ leafAmong? layers (i :: rest) = some leaf := by
  cases layers with
  | nil => simp [addressedFrom, leafAmong?]
  | cons layer layers =>
      rw [addressedFrom, List.mem_append, mem_addressedFrom (number + 1) layers, List.mem_map]
      constructor
      · rintro (⟨⟨rest, inner⟩, hinner, heq⟩ | ⟨i, rest, rfl, hfound⟩)
        · obtain ⟨rfl, rfl⟩ := Prod.mk.inj heq
          exact ⟨0, rest, rfl, (mem_addressed layer rest inner).mp hinner⟩
        · exact ⟨i + 1, rest, by rw [Nat.add_right_comm, Nat.add_assoc], hfound⟩
      · rintro ⟨i, rest, rfl, hfound⟩
        cases i with
        | zero => exact Or.inl ⟨(rest, leaf), (mem_addressed layer rest leaf).mpr hfound, rfl⟩
        | succ i => exact Or.inr ⟨i, rest, by rw [Nat.add_right_comm, Nat.add_assoc], hfound⟩

end

theorem mem_addressedFrom_zero (layers : List Layer) (address : List Nat) (leaf : Leaf) :
    (address, leaf) ∈ addressedFrom 0 layers ↔ leafAmong? layers address = some leaf := by
  rw [mem_addressedFrom]
  cases address with
  | nil => simp [leafAmong?]
  | cons number address => simp

mutual

/-- The addresses ascend from layer to layer, and inside each of them. -/
theorem pairwise_addressed (layer : Layer) :
    layer.addressed.Pairwise fun left right => left.1 < right.1 := by
  cases layer with
  | route leaf => exact List.pairwise_singleton _ _
  | mount token layers =>
      rw [addressed, List.pairwise_map]
      exact pairwise_addressedFrom 0 layers
  | middleware leaf => exact List.pairwise_singleton _ _

/-- The addresses increase, so none comes twice. -/
theorem pairwise_addressedFrom (number : Nat) (layers : List Layer) :
    (addressedFrom number layers).Pairwise fun left right => left.1 < right.1 := by
  cases layers with
  | nil => exact List.Pairwise.nil
  | cons layer layers =>
      rw [addressedFrom, List.pairwise_append]
      refine ⟨?_, pairwise_addressedFrom (number + 1) layers, ?_⟩
      · rw [List.pairwise_map]
        apply (pairwise_addressed layer).imp
        intro left right hlt
        exact List.cons_lt_cons_iff.mpr (Or.inr ⟨rfl, hlt⟩)
      · intro left hleft right hright
        obtain ⟨inner, -, rfl⟩ := List.mem_map.mp hleft
        obtain ⟨i, rest, haddress, -⟩ :=
          (mem_addressedFrom (number + 1) layers right.1 right.2).mp hright
        rw [haddress]
        exact List.cons_lt_cons_iff.mpr (Or.inl (by omega))

end

end Layer

/-- A path to which segments are appended: empty or behind a slash, and without one at its end. -/
structure IsBase (path : String) : Prop where
  starts : path = "" ∨ path.toList.head? = some '/'
  ends : path.toList.getLast? ≠ some '/'

theorem isBase_empty : IsBase "" :=
  ⟨Or.inl rfl, by simp⟩

/-- Whatever a token decodes to, its segment is appended behind a slash and loses those at its
end. -/
theorem isBase_joinSegment {base : String} (hbase : IsBase base) (segment : String) :
    IsBase (joinSegment base segment) := by
  have hends := Text.getLast?_trimEnd_ne '/' segment.toList
  rw [joinSegment]
  cases htrimmed : Text.trimEnd '/' segment.toList with
  | nil => exact hbase
  | cons c cs =>
      rw [htrimmed] at hends
      have hstarts (rest : String) (hrest : rest.toList.head? = some '/') :
          (base ++ rest).toList.head? = some '/' := by
        obtain rfl | hstarts := hbase.starts
        · rwa [String.empty_append]
        · rw [String.toList_append, List.head?_append, hstarts]
          rfl
      by_cases hslash : c = '/'
      · simp only [if_pos hslash]
        exact ⟨Or.inr (hstarts _ (by simp [hslash])), by simpa using hends⟩
      · simp only [if_neg hslash, String.append_assoc]
        exact ⟨Or.inr (hstarts _ (by simp)), by simpa using hends⟩

/-- Whatever the mounts on the way are, the path that a walk accumulates is a base. -/
theorem isBase_foldl_joinSegment {base : String} (hbase : IsBase base) (mounts : List Token) :
    IsBase (mounts.foldl (fun base token => joinSegment base token.segment) base) := by
  induction mounts generalizing base with
  | nil => exact hbase
  | cons token mounts ih => exact ih (isBase_joinSegment hbase token.segment)

/-- A walk goes through the addresses that lead to a leaf, each once and in ascending order.  There
a route gives its verbs side by side at its path behind the accumulated one, and middleware gives
the implicit verb at its own path, if there is one.  From the empty path the accumulated one stays
empty or behind a slash, without one at its end. -/
theorem Layer.walkAll_enumerates (start : String) (layers : List Layer) :
    let accumulated (start : String) (mounts : List Token) : String :=
      mounts.foldl (fun base token => joinSegment base token.segment) start
    (∃ entries : List (List Nat × Leaf),
      entries.Pairwise (fun left right => left.1 < right.1) ∧
      (∀ address leaf,
        (address, leaf) ∈ entries ↔ Layer.leafAmong? layers address = some leaf) ∧
      Layer.walkAll start layers = entries.filterMap fun entry =>
        match entry.2.node with
        | .inl leaf =>
          some (.bare (" ".intercalate leaf.methods)
            (accumulated start entry.2.mounts ++ leaf.path) leaf.handlers)
        | .inr leaf =>
          let path := joinSegment (accumulated start entry.2.mounts) leaf.token.segment
          if path = "" then none else some (.bare "get" path [])) ∧
    ∀ mounts, IsBase (accumulated "" mounts) := by
  intro accumulated
  refine ⟨⟨Layer.addressedFrom 0 layers, Layer.pairwise_addressedFrom 0 layers, ?_, ?_⟩, ?_⟩
  · intro address leaf
    exact Layer.mem_addressedFrom_zero layers address leaf
  · rw [Layer.walkAll_eq_filterMap_leavesAll, ← Layer.map_snd_addressedFrom 0 layers,
      List.filterMap_map]
    rfl
  · intro mounts
    exact isBase_foldl_joinSegment isBase_empty mounts

end RouteAtlas
