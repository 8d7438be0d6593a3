import Codemem.Pack.Dedupe

/-!
# Every retrieved memory is accounted for

An id is shown by its owners: the first row with the key of one of its rows, or that row itself.  A
row that stands for itself is shown as an item or under the representative of its component; a
duplicate is shown by its owner, unless the owner is itself compressed away.  So the items account
for all ids exactly when every id has one owner that shows it (`accountsFor_iff`).
-/

namespace Codemem

/-- Where an item shows ids. -/
inductive PackSlot where
  | item
  | duplicate
  | compressed
  deriving DecidableEq

def PackItem.idsIn (item : PackItem) : PackSlot → List ℤ
  | .item => [item.id]
  | .duplicate => item.duplicateIds.getD []
  | .compressed => item.compressedIds.getD []

/-- The items show every id of the inputs in one place, and their support counts add up. -/
structure AccountsFor (inputs : List PackMemory) (items : List PackItem) : Prop where
  nodup : (items.map PackItem.id).Nodup
  nodup_ids : ∀ item ∈ items, ∀ slot, (item.idsIn slot).Nodup
  once : ∀ x ∈ inputs.map PackMemory.id,
    ∃! place : PackItem × PackSlot, place.1 ∈ items ∧ x ∈ place.1.idsIn place.2
  support : (items.map fun item => item.supportCount.getD 1).sum =
    (inputs.map PackMemory.id).dedup.length

section Accounting

variable (tools : TextTools) (inputs : List PackMemory) (modeLabel : PackTraceMode)
  (compressionMode : PackCompressionMode) (compact : Bool)

/-- An id is the owner of an id, through one of its rows. -/
def Owns (o x : ℤ) : Prop := ∃ item ∈ inputs, item.id = x ∧ ownerOf tools inputs item = o

/-- The rows that stand for themselves. -/
def ownRows : List PackMemory :=
  inputs.filter fun item => decide (ownerOf tools inputs item = item.id)

/-- Compression runs, and puts an id under the chosen item of its component. -/
def Compresses (k x : ℤ) : Prop :=
  compressesRelated compressionMode compact = true ∧ modeLabel ≠ .task ∧
    ∃ r ids, r.id = k ∧ IsGroup tools (lastById (ownRows tools inputs))
      (IsChosen tools (lastById (ownRows tools inputs))) r ids ∧ x ∈ ids

/-- An id is not compressed away: compression does not run, or the item is what
`chooseRepresentative` picks from its component of the rows that stand for themselves. -/
def StaysShown (o : ℤ) : Prop :=
  compressesRelated compressionMode compact = true → modeLabel ≠ .task →
    ∃ a, a.id = o ∧ IsChosen tools (lastById (ownRows tools inputs)) a

/-- Every id has one owner that shows it: itself, or one that is not compressed away. -/
def EachHasOneOwner : Prop :=
  ∀ x ∈ inputs.map PackMemory.id, ∃! o, Owns tools inputs o x ∧
    (o = x ∨ StaysShown tools inputs modeLabel compressionMode compact o)

variable {tools inputs modeLabel compressionMode compact}

/-! ### Owners and compression -/

lemma mem_ownRows_ids_iff {o : ℤ} :
    o ∈ (lastById (ownRows tools inputs)).map PackMemory.id ↔ Owns tools inputs o o := by
  have hkeys := @mem_keys_foldl_insertOrUpdate _ _ _ PackMemory.id PackMemory (fun item => item)
    (fun item _ => item) (fun _ _ h => h.symm) (ownRows tools inputs) [] o
  refine hkeys.trans ?_
  rw [List.map_nil]
  constructor
  · rintro (h | ⟨item, hitem, rfl⟩)
    · cases h
    · obtain ⟨hmem, howner⟩ := List.mem_filter.mp hitem
      exact ⟨item, hmem, rfl, of_decide_eq_true howner⟩
  · rintro ⟨item, hitem, rfl, howner⟩
    exact .inr ⟨item, List.mem_filter.mpr ⟨hitem, decide_eq_true howner⟩, rfl⟩

lemma nodup_lastById (items : List PackMemory) : ((lastById items).map PackMemory.id).Nodup :=
  nodup_foldl_insertOrUpdate (fun _ _ h => h.symm) items List.nodup_nil

lemma Owns.self {o x : ℤ} (h : Owns tools inputs o x) : Owns tools inputs o o := by
  obtain ⟨item, hitem, rfl, rfl⟩ := h
  cases hkey : exactDedupeKey tools item with
  | none =>
    have howner : ownerOf tools inputs item = item.id := by rw [ownerOf, hkey]; rfl
    exact ⟨item, hitem, howner.symm, rfl⟩
  | some key =>
    obtain ⟨canonical, hcanonical⟩ := Option.isSome_iff_exists.mp (canonicalId_isSome hitem hkey)
    have howner : ∀ other, exactDedupeKey tools other = some key →
        ownerOf tools inputs other = canonical := by
      intro other hother
      rw [ownerOf, hother, Option.bind_some, hcanonical, Option.getD_some]
    obtain ⟨first, hfirst, hid⟩ := Option.map_eq_some_iff.mp hcanonical
    have hfirstKey : exactDedupeKey tools first = some key := by
      have hfound := List.find?_some hfirst
      exact beq_iff_eq.mp hfound
    rw [howner item hkey]
    exact ⟨first, List.mem_of_find?_eq_some hfirst, hid, howner first hfirstKey⟩

lemma Compresses.unique {k k' x : ℤ}
    (h : Compresses tools inputs modeLabel compressionMode compact k x)
    (h' : Compresses tools inputs modeLabel compressionMode compact k' x) : k = k' := by
  obtain ⟨-, -, r, ids, rfl, hgroup, hx⟩ := h
  obtain ⟨-, -, r', ids', rfl, hgroup', hx'⟩ := h'
  rw [hgroup.owner_unique (nodup_lastById _) hgroup' hx hx']

lemma Compresses.spec {k x : ℤ}
    (h : Compresses tools inputs modeLabel compressionMode compact k x) :
    Owns tools inputs k k ∧ Owns tools inputs x x ∧
      StaysShown tools inputs modeLabel compressionMode compact k := by
  obtain ⟨-, -, r, ids, rfl, hgroup, hx⟩ := h
  obtain ⟨b, hb, -, -, rfl⟩ := (hgroup.mem_iff x).mp hx
  exact ⟨mem_ownRows_ids_iff.mp (List.mem_map_of_mem hgroup.represents.mem),
    mem_ownRows_ids_iff.mp (List.mem_map_of_mem hb), fun _ _ => ⟨r, rfl, hgroup.represents⟩⟩

lemma staysShown_iff {o : ℤ} (ho : Owns tools inputs o o) :
    StaysShown tools inputs modeLabel compressionMode compact o ↔
      ¬ ∃ k, Compresses tools inputs modeLabel compressionMode compact k o := by
  constructor
  · rintro hshown ⟨k, hruns, hmode, r, ids, rfl, hgroup, hmem⟩
    obtain ⟨a, rfl, hchosen⟩ := hshown hruns hmode
    exact ((isChosen_iff (nodup_lastById _)).mp hchosen).2 ⟨r, ids, hgroup, hmem⟩
  · intro hnone hruns hmode
    obtain ⟨a, ha, rfl⟩ := List.mem_map.mp (mem_ownRows_ids_iff.mpr ho)
    refine ⟨a, rfl, (isChosen_iff (nodup_lastById _)).mpr ⟨ha, ?_⟩⟩
    rintro ⟨r, ids, hgroup, hmem⟩
    exact hnone ⟨r.id, hruns, hmode, r, ids, rfl, hgroup, hmem⟩

/-- The state of compression. -/
def clusterStateOf (tools : TextTools) (inputs : List PackMemory) (modeLabel : PackTraceMode)
    (compressionMode : PackCompressionMode) (compact : Bool) : ClusterCompressionState :=
  if compressesRelated compressionMode compact then
    (compressClusters tools (lastById (ownRows tools inputs)) modeLabel .empty).2
  else .empty

lemma mem_clusterStateOf_iff {k : ℤ} {ids : List ℤ} :
    (k, ids) ∈ (clusterStateOf tools inputs modeLabel compressionMode
        compact).compressedByRepresentative ↔
      compressesRelated compressionMode compact = true ∧ modeLabel ≠ .task ∧
        ∃ r, r.id = k ∧ IsGroup tools (lastById (ownRows tools inputs))
          (IsChosen tools (lastById (ownRows tools inputs))) r ids := by
  unfold clusterStateOf
  by_cases hruns : compressesRelated compressionMode compact = true
  · rw [if_pos hruns]
    by_cases hmode : modeLabel = .task
    · rw [compressClusters, if_pos (.inl hmode)]
      simp [ClusterCompressionState.empty, hmode]
    · rw [(compressesComponents (nodup_lastById _) hmode).recorded_iff]
      simp only [hruns, ne_eq, hmode, not_false_eq_true, true_and]
  · rw [if_neg hruns]
    simp [ClusterCompressionState.empty, hruns]

lemma mem_compressedUnder_iff {k x : ℤ} :
    x ∈ (clusterStateOf tools inputs modeLabel compressionMode compact).compressedUnder k ↔
      Compresses tools inputs modeLabel compressionMode compact k x := by
  unfold ClusterCompressionState.compressedUnder
  constructor
  · intro h
    cases hrow : rowAt Prod.fst k (clusterStateOf tools inputs modeLabel compressionMode
        compact).compressedByRepresentative with
    | none =>
      rw [hrow] at h
      cases h
    | some entry =>
      rw [hrow] at h
      obtain ⟨hmem, rfl⟩ := rowAt_eq_some hrow
      obtain ⟨hruns, hmode, r, hid, hgroup⟩ := mem_clusterStateOf_iff.mp hmem
      exact ⟨hruns, hmode, r, _, hid, hgroup, h⟩
  · rintro ⟨hruns, hmode, r, ids, rfl, hgroup, hx⟩
    have hmem := mem_clusterStateOf_iff.mpr ⟨hruns, hmode, r, rfl, hgroup⟩
    obtain ⟨⟨k', ids'⟩, hrow⟩ := @exists_rowAt_of_mem _ _ _ Prod.fst _ _ hmem
    have hkey : k' = r.id := (rowAt_eq_some hrow).2
    subst hkey
    dsimp only at hrow
    rw [hrow]
    change x ∈ ids'
    -- the entry that is found is the group of the same representative
    obtain ⟨-, -, r', hid, hgroup'⟩ := mem_clusterStateOf_iff.mp (rowAt_eq_some hrow).1
    rw [hgroup'.unique (nodup_lastById _) hgroup hid]
    exact hx

lemma nodup_compressedUnder (k : ℤ) :
    ((clusterStateOf tools inputs modeLabel compressionMode compact).compressedUnder k).Nodup := by
  unfold ClusterCompressionState.compressedUnder
  cases hrow : rowAt Prod.fst k (clusterStateOf tools inputs modeLabel compressionMode
      compact).compressedByRepresentative with
  | none => exact List.nodup_nil
  | some entry =>
    obtain ⟨-, -, r, -, hgroup⟩ := mem_clusterStateOf_iff.mp (rowAt_eq_some hrow).1
    exact hgroup.increasing.imp fun hlt => ne_of_lt hlt

lemma mem_flattenCompressedIds_iff {x : ℤ} :
    x ∈ flattenCompressedIds (clusterStateOf tools inputs modeLabel compressionMode compact) ↔
      ∃ k, Compresses tools inputs modeLabel compressionMode compact k x := by
  rw [flattenCompressedIds, mem_sortByPos, List.mem_flatMap]
  constructor
  · rintro ⟨⟨k, ids⟩, hmem, hx⟩
    obtain ⟨hruns, hmode, r, hid, hgroup⟩ := mem_clusterStateOf_iff.mp hmem
    exact ⟨k, hruns, hmode, r, ids, hid, hgroup, hx⟩
  · rintro ⟨k, hruns, hmode, r, ids, hid, hgroup, hx⟩
    exact ⟨(k, ids), mem_clusterStateOf_iff.mpr ⟨hruns, hmode, r, hid, hgroup⟩, hx⟩

/-! ### What the items show -/

/-- What the items of a pack show, in terms of owners and compression. -/
structure ShowsIds (tools : TextTools) (inputs : List PackMemory) (modeLabel : PackTraceMode)
    (compressionMode : PackCompressionMode) (compact : Bool) (items : List PackItem) : Prop where
  nodup : (items.map PackItem.id).Nodup
  nodup_ids : ∀ item ∈ items, ∀ slot, (item.idsIn slot).Nodup
  mem_iff : ∀ o, o ∈ items.map PackItem.id ↔
    Owns tools inputs o o ∧ StaysShown tools inputs modeLabel compressionMode compact o
  duplicate_iff : ∀ item ∈ items, ∀ x, x ∈ item.idsIn .duplicate ↔
    Owns tools inputs item.id x ∧ item.id ≠ x
  compressed_iff : ∀ item ∈ items, ∀ x, x ∈ item.idsIn .compressed ↔
    Compresses tools inputs modeLabel compressionMode compact item.id x
  support_eq : ∀ item ∈ items, item.supportCount.getD 1 =
    (item.idsIn .item ++ item.idsIn .duplicate ++ item.idsIn .compressed).length

lemma idsIn_toPackItem (dedupeState : DedupeState) (clusterState : ClusterCompressionState)
    (result : PackMemory) :
    (toPackItem dedupeState clusterState result).idsIn .duplicate =
        sortByPos id (((rowAt Prod.fst result.id dedupeState.duplicateIds).map Prod.snd).getD []) ∧
      (toPackItem dedupeState clusterState result).idsIn .compressed =
        sortByPos id (clusterState.compressedUnder result.id) := by
  have hshown : ∀ ids : List ℤ, (if 0 < ids.length then some (sortByPos id ids) else none).getD [] =
      sortByPos id ids := by
    intro ids
    split_ifs with hpos
    · rfl
    · rw [List.length_eq_zero_iff.mp (Nat.eq_zero_of_not_pos hpos)]
      rfl
  exact ⟨hshown _, hshown _⟩

lemma supportCount_toPackItem (dedupeState : DedupeState) (clusterState : ClusterCompressionState)
    (result : PackMemory) :
    (toPackItem dedupeState clusterState result).supportCount.getD 1 =
      ((toPackItem dedupeState clusterState result).idsIn .item ++
        (toPackItem dedupeState clusterState result).idsIn .duplicate ++
          (toPackItem dedupeState clusterState result).idsIn .compressed).length := by
  obtain ⟨hduplicate, hcompressed⟩ := idsIn_toPackItem dedupeState clusterState result
  rw [hduplicate, hcompressed, List.length_append, List.length_append,
    (perm_sortByPos _ _).length_eq, (perm_sortByPos _ _).length_eq]
  change (if 1 < 1 + _ + _ then some (1 + _ + _) else none).getD 1 = 1 + _ + _
  split_ifs with hlt
  · rfl
  · change 1 = _
    omega

lemma showsIds_items (summaryItems timelineItems observationItems : List PackMemory) :
    ShowsIds tools (summaryItems ++ timelineItems ++ observationItems) modeLabel compressionMode
      compact (dedupeAndCompressPackSections tools summaryItems timelineItems observationItems
        modeLabel compressionMode compact).items := by
  have hcollapsed := collapsed_sections tools summaryItems timelineItems observationItems
  generalize hinputs : summaryItems ++ timelineItems ++ observationItems = inputs at hcollapsed
  obtain ⟨dedupeState, hdedupe, hitems⟩ : ∃ dedupeState,
      Collapsed tools inputs (ownRows tools inputs, dedupeState) ∧
        (dedupeAndCompressPackSections tools summaryItems timelineItems observationItems modeLabel
          compressionMode compact).items =
            (firstById ((ownRows tools inputs).filter fun item => !(flattenCompressedIds
              (clusterStateOf tools inputs modeLabel compressionMode compact)).contains
                item.id)).map (toPackItem dedupeState
                  (clusterStateOf tools inputs modeLabel compressionMode compact)) := by
    have hkept := hcollapsed.kept
    dsimp only at hcollapsed hkept
    rw [hkept] at hcollapsed
    refine ⟨_, hcollapsed, ?_⟩
    unfold PackSections.items dedupeAndCompressPackSections
    dsimp only
    rw [← List.filter_append, ← List.filter_append, hkept]
    rfl
  rw [hitems]
  generalize hcluster : clusterStateOf tools inputs modeLabel compressionMode compact = state
  have hmap : ∀ items : List PackMemory,
      (items.map (toPackItem dedupeState state)).map PackItem.id = items.map PackMemory.id :=
    fun items => List.map_map
  have hduplicates := hdedupe.duplicates
  refine ⟨?_, ?_, fun o => ?_, ?_, ?_, ?_⟩
  · rw [hmap]
    exact nodup_foldl_insertOrUpdate (fun _ _ _ => rfl) _ List.nodup_nil
  · intro item hitem slot
    obtain ⟨memory, -, rfl⟩ := List.mem_map.mp hitem
    obtain ⟨hduplicate, hcompressed⟩ := idsIn_toPackItem dedupeState state memory
    cases slot with
    | item => exact List.nodup_singleton _
    | duplicate =>
      rw [hduplicate, (perm_sortByPos _ _).nodup_iff]
      cases hrow : rowAt Prod.fst memory.id dedupeState.duplicateIds with
      | none => exact List.nodup_nil
      | some entry => exact hdedupe.nodup entry (rowAt_eq_some hrow).1
    | compressed =>
      rw [hcompressed, (perm_sortByPos _ _).nodup_iff, ← hcluster]
      exact nodup_compressedUnder _
  · have hkeys := @mem_keys_foldl_insertOrUpdate _ _ _ PackMemory.id PackMemory (fun item => item)
      (fun _ => id) (fun _ _ _ => rfl) ((ownRows tools inputs).filter fun item =>
        !(flattenCompressedIds state).contains item.id) [] o
    rw [hmap]
    refine hkeys.trans ?_
    constructor
    · rintro (h | ⟨item, hitem, rfl⟩)
      · cases h
      · obtain ⟨hown, hfree⟩ := List.mem_filter.mp hitem
        obtain ⟨hmem, howner⟩ := List.mem_filter.mp hown
        have howns : Owns tools inputs item.id item.id :=
          ⟨item, hmem, rfl, of_decide_eq_true howner⟩
        rw [Bool.not_eq_true', ← Bool.not_eq_true, List.contains_iff_mem, ← hcluster,
          mem_flattenCompressedIds_iff] at hfree
        exact ⟨howns, (staysShown_iff howns).mpr hfree⟩
    · rintro ⟨howns, hshown⟩
      obtain ⟨item, hmem, rfl, howner⟩ := howns
      refine .inr ⟨item, List.mem_filter.mpr
        ⟨List.mem_filter.mpr ⟨hmem, decide_eq_true howner⟩, ?_⟩, rfl⟩
      rw [Bool.not_eq_true', ← Bool.not_eq_true, List.contains_iff_mem, ← hcluster,
        mem_flattenCompressedIds_iff]
      exact (staysShown_iff ⟨item, hmem, rfl, howner⟩).mp hshown
  · intro item hitem x
    obtain ⟨memory, -, rfl⟩ := List.mem_map.mp hitem
    rw [(idsIn_toPackItem dedupeState state memory).1, mem_sortByPos, hduplicates]
    constructor
    · rintro ⟨item, hitem, hid, howner, hne⟩
      exact ⟨⟨item, hitem, hid, howner⟩, hne⟩
    · rintro ⟨⟨item, hitem, hid, howner⟩, hne⟩
      exact ⟨item, hitem, hid, howner, hne⟩
  · intro item hitem x
    obtain ⟨memory, -, rfl⟩ := List.mem_map.mp hitem
    rw [(idsIn_toPackItem dedupeState state memory).2, mem_sortByPos, ← hcluster,
      mem_compressedUnder_iff]
    rfl
  · intro item hitem
    obtain ⟨memory, -, rfl⟩ := List.mem_map.mp hitem
    exact supportCount_toPackItem dedupeState state memory

/-! ### Places and owners -/

variable {items : List PackItem}

def ShowsAt (items : List PackItem) (x : ℤ) (place : PackItem × PackSlot) : Prop :=
  place.1 ∈ items ∧ x ∈ place.1.idsIn place.2

def OwnerShows (tools : TextTools) (inputs : List PackMemory) (modeLabel : PackTraceMode)
    (compressionMode : PackCompressionMode) (compact : Bool) (x o : ℤ) : Prop :=
  Owns tools inputs o x ∧ (o = x ∨ StaysShown tools inputs modeLabel compressionMode compact o)

def ownerAt (x : ℤ) (place : PackItem × PackSlot) : ℤ :=
  if place.2 = .duplicate then place.1.id else x

lemma ShowsIds.ownerShows (h : ShowsIds tools inputs modeLabel compressionMode compact items)
    {x : ℤ} {place : PackItem × PackSlot} (hplace : ShowsAt items x place) :
    OwnerShows tools inputs modeLabel compressionMode compact x (ownerAt x place) := by
  obtain ⟨item, slot⟩ := place
  obtain ⟨hitem, hx⟩ := hplace
  obtain ⟨howns, hshown⟩ := (h.mem_iff item.id).mp (List.mem_map_of_mem hitem)
  cases slot with
  | item =>
    obtain rfl : x = item.id := List.mem_singleton.mp hx
    exact ⟨howns, .inl rfl⟩
  | duplicate => exact ⟨((h.duplicate_iff item hitem x).mp hx).1, .inr hshown⟩
  | compressed => exact ⟨((h.compressed_iff item hitem x).mp hx).spec.2.1, .inl rfl⟩

lemma ShowsIds.exists_place (h : ShowsIds tools inputs modeLabel compressionMode compact items)
    {x o : ℤ} (howner : OwnerShows tools inputs modeLabel compressionMode compact x o) :
    ∃ place, ShowsAt items x place ∧ ownerAt x place = o := by
  obtain ⟨howns, hshows⟩ := howner
  have hitem : ∀ k, Owns tools inputs k k →
      StaysShown tools inputs modeLabel compressionMode compact k → ∃ item ∈ items, item.id = k :=
    fun k hk hstays => List.mem_map.mp ((h.mem_iff k).mpr ⟨hk, hstays⟩)
  by_cases hself : o = x
  · subst hself
    by_cases hstays : StaysShown tools inputs modeLabel compressionMode compact o
    · obtain ⟨item, hmem, rfl⟩ := hitem o howns hstays
      exact ⟨(item, .item), ⟨hmem, List.mem_singleton_self _⟩, rfl⟩
    · -- it is compressed away, under a representative that stays
      obtain ⟨k, hk⟩ := not_not.mp (mt (staysShown_iff howns).mpr hstays)
      obtain ⟨item, hmem, rfl⟩ := hitem k hk.spec.1 hk.spec.2.2
      exact ⟨(item, .compressed), ⟨hmem, (h.compressed_iff item hmem o).mpr hk⟩, rfl⟩
  · obtain ⟨item, hmem, rfl⟩ := hitem o howns.self (hshows.resolve_left hself)
    exact ⟨(item, .duplicate), ⟨hmem, (h.duplicate_iff item hmem x).mpr ⟨howns, hself⟩⟩, rfl⟩

lemma ShowsIds.place_unique (h : ShowsIds tools inputs modeLabel compressionMode compact items)
    {x : ℤ} {place place' : PackItem × PackSlot} (hplace : ShowsAt items x place)
    (hplace' : ShowsAt items x place') (howner : ownerAt x place = ownerAt x place') :
    place = place' := by
  obtain ⟨item, slot⟩ := place
  obtain ⟨item', slot'⟩ := place'
  obtain ⟨hitem, hx⟩ := hplace
  obtain ⟨hitem', hx'⟩ := hplace'
  have hsame : item.id = item'.id → item = item' :=
    fun hid => List.inj_on_of_nodup_map h.nodup hitem hitem' hid
  have hduplicate : ∀ item ∈ items, x ∈ item.idsIn .duplicate → item.id ≠ x :=
    fun item hitem hx => ((h.duplicate_iff item hitem x).mp hx).2
  -- an item that is shown is not compressed
  have hexclusive : ∀ item ∈ items, ∀ other ∈ items, x ∈ item.idsIn .item →
      x ∉ other.idsIn .compressed := by
    intro item hitem other hother hx hcompressed
    obtain rfl : x = item.id := List.mem_singleton.mp hx
    obtain ⟨howns, hstays⟩ := (h.mem_iff item.id).mp (List.mem_map_of_mem hitem)
    exact (staysShown_iff howns).mp hstays
      ⟨other.id, (h.compressed_iff other hother _).mp hcompressed⟩
  cases slot with
  | item =>
    cases slot' with
    | item => rw [hsame ((List.mem_singleton.mp hx).symm.trans (List.mem_singleton.mp hx'))]
    | duplicate => exact absurd howner.symm (hduplicate item' hitem' hx')
    | compressed => exact absurd hx' (hexclusive item hitem item' hitem' hx)
  | duplicate =>
    cases slot' with
    | item => exact absurd howner (hduplicate item hitem hx)
    | duplicate => rw [hsame howner]
    | compressed => exact absurd howner (hduplicate item hitem hx)
  | compressed =>
    cases slot' with
    | item => exact absurd hx (hexclusive item' hitem' item hitem hx')
    | duplicate => exact absurd howner.symm (hduplicate item' hitem' hx')
    | compressed =>
      rw [hsame (((h.compressed_iff item hitem x).mp hx).unique
        ((h.compressed_iff item' hitem' x).mp hx'))]

lemma ShowsIds.existsUnique_iff
    (h : ShowsIds tools inputs modeLabel compressionMode compact items) (x : ℤ) :
    (∃! place, ShowsAt items x place) ↔
      ∃! o, OwnerShows tools inputs modeLabel compressionMode compact x o := by
  constructor
  · rintro ⟨place, hplace, hunique⟩
    refine ⟨ownerAt x place, h.ownerShows hplace, fun o ho => ?_⟩
    obtain ⟨place', hplace', rfl⟩ := h.exists_place ho
    rw [hunique place' hplace']
  · rintro ⟨o, ho, hunique⟩
    obtain ⟨place, hplace, rfl⟩ := h.exists_place ho
    refine ⟨place, hplace, fun place' hplace' => h.place_unique hplace' hplace ?_⟩
    exact hunique _ (h.ownerShows hplace')

/-- Where every id is shown in one place, the support counts add up to the number of ids. -/
lemma ShowsIds.support (h : ShowsIds tools inputs modeLabel compressionMode compact items)
    (honce : ∀ x ∈ inputs.map PackMemory.id, ∃! place, ShowsAt items x place) :
    (items.map fun item => item.supportCount.getD 1).sum =
      (inputs.map PackMemory.id).dedup.length := by
  let shown : PackItem → List ℤ := fun item =>
    item.idsIn .item ++ item.idsIn .duplicate ++ item.idsIn .compressed
  have hshown : ∀ x item, item ∈ items → x ∈ shown item →
      ∃ slot, ShowsAt items x (item, slot) := by
    intro x item hitem hx
    rcases List.mem_append.mp hx with hx | hx
    · rcases List.mem_append.mp hx with hx | hx
      · exact ⟨.item, hitem, hx⟩
      · exact ⟨.duplicate, hitem, hx⟩
    · exact ⟨.compressed, hitem, hx⟩
  have hinput : ∀ x place, ShowsAt items x place → x ∈ inputs.map PackMemory.id := by
    intro x place hplace
    obtain ⟨⟨item, hitem, hid, -⟩, -⟩ := h.ownerShows hplace
    exact List.mem_map.mpr ⟨item, hitem, hid⟩
  have hone : ∀ x place place', ShowsAt items x place → ShowsAt items x place' →
      place = place' := fun x place place' hplace hplace' =>
    (honce x (hinput x place hplace)).unique hplace hplace'
  have hnodup : (items.flatMap shown).Nodup := by
    refine List.nodup_flatMap.mpr ⟨fun item hitem => ?_, ?_⟩
    · have hdisjoint : ∀ slot slot', slot ≠ slot' →
          ∀ x ∈ item.idsIn slot, ∀ y ∈ item.idsIn slot', x ≠ y := by
        rintro slot slot' hne x hx y hy rfl
        exact hne (congrArg Prod.snd
          (hone x (item, slot) (item, slot') ⟨hitem, hx⟩ ⟨hitem, hy⟩))
      refine List.nodup_append.mpr ⟨List.nodup_append.mpr ⟨h.nodup_ids item hitem _,
        h.nodup_ids item hitem _, hdisjoint _ _ (by decide)⟩, h.nodup_ids item hitem _, ?_⟩
      intro x hx y hy
      rcases List.mem_append.mp hx with hx | hx
      · exact hdisjoint .item .compressed (by decide) x hx y hy
      · exact hdisjoint .duplicate .compressed (by decide) x hx y hy
    · refine (List.Nodup.of_map _ h.nodup).imp_of_mem fun {item item'} hitem hitem' hne => ?_
      intro x hx hx'
      obtain ⟨slot, hplace⟩ := hshown x item hitem hx
      obtain ⟨slot', hplace'⟩ := hshown x item' hitem' hx'
      exact hne (congrArg Prod.fst (hone x _ _ hplace hplace'))
  have hperm : (items.flatMap shown).Perm (inputs.map PackMemory.id).dedup := by
    refine (List.perm_ext_iff_of_nodup hnodup (List.nodup_dedup _)).mpr fun x => ?_
    rw [List.mem_dedup, List.mem_flatMap]
    constructor
    · rintro ⟨item, hitem, hx⟩
      obtain ⟨slot, hplace⟩ := hshown x item hitem hx
      exact hinput x _ hplace
    · intro hx
      obtain ⟨⟨item, slot⟩, ⟨hitem, hmem⟩, -⟩ := honce x hx
      refine ⟨item, hitem, ?_⟩
      cases slot with
      | item => exact List.mem_append_left _ (List.mem_append_left _ hmem)
      | duplicate => exact List.mem_append_left _ (List.mem_append_right _ hmem)
      | compressed => exact List.mem_append_right _ hmem
  rw [← hperm.length_eq, List.length_flatMap]
  exact congrArg List.sum (List.map_congr_left fun item hitem => h.support_eq item hitem)

/-- The kept items account for every retrieved memory exactly when every id has one owner that shows
it. -/
theorem accountsFor_iff (tools : TextTools)
    (summaryItems timelineItems observationItems : List PackMemory) (modeLabel : PackTraceMode)
    (compressionMode : PackCompressionMode) (compact : Bool) :
    AccountsFor (summaryItems ++ timelineItems ++ observationItems)
        (dedupeAndCompressPackSections tools summaryItems timelineItems observationItems modeLabel
          compressionMode compact).items ↔
      EachHasOneOwner tools (summaryItems ++ timelineItems ++ observationItems) modeLabel
        compressionMode compact := by
  have hshows := @showsIds_items tools modeLabel compressionMode compact summaryItems timelineItems
    observationItems
  have hiff := fun x => hshows.existsUnique_iff x
  constructor
  · exact fun h x hx => (hiff x).mp (h.once x hx)
  · intro h
    have honce := fun x hx => (hiff x).mpr (h x hx)
    exact ⟨hshows.nodup, hshows.nodup_ids, honce, hshows.support honce⟩

end Accounting

/-- A memory, an exact duplicate of it, and a later one with the same title and another body. -/
def duplicatedCluster : List PackMemory :=
  [sampleClusterMemory 1 "2026-01-01T00:00:00Z", sampleClusterMemory 2 "2026-01-01T00:00:00Z",
    { sampleClusterMemory 3 "2026-01-02T00:00:00Z" with bodyText := "delta" }]

/-- The later memory compresses the first one away, and the duplicate is shown nowhere. -/
theorem duplicatedCluster_not_accounted :
    ¬ AccountsFor ([] ++ [] ++ duplicatedCluster)
      (dedupeAndCompressPackSections sampleTextTools [] [] duplicatedCluster .default .ids
        false).items := by
  intro h
  have hsupport := h.support
  revert hsupport
  decide +kernel

end Codemem
