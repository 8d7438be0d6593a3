import Codemem.Pack.Components

/-!
# Exact duplicates of a pack

Items with the same kind, title and body are duplicates: the first one stays, and the ids of the
others are tracked under its id.  The three sections of a pack are deduplicated one after the other
with one state, then compressed together, and every item that stays is shown with the ids it stands
for.
-/

namespace Codemem

inductive PackCompressionMode where
  | off
  | compact
  | ids
  deriving DecidableEq, Repr

/-- `text.split(/\s+/)`: only the first and the last part can be empty. -/
def splitSpaces (text : String) : List (List Char) :=
  let parts := text.toList.splitOnP isTrimSpace
  if parts.length < 2 then parts
  else parts.headD [] :: (parts.tail.dropLast.filter fun part => !part.isEmpty) ++
    [parts.getLastD []]

def normalizeDedupe (tools : TextTools) (text : String) : String :=
  String.ofList ([' '].intercalate (splitSpaces (tools.toLowerCase (trim text))))

/-- A field with its length before it. -/
def lengthPrefixed (text : String) : String := toString (utf16 text).length ++ ":" ++ text

def exactDedupeKey (tools : TextTools) (item : PackMemory) : Option String :=
  if item.isSummaryLike then none
  else
    let title := normalizeDedupe tools item.title
    let body := normalizeDedupe tools item.bodyText
    if title = "" ∧ body = "" then none
    else some (lengthPrefixed item.kind ++ "|" ++ lengthPrefixed title ++ "|" ++
      lengthPrefixed body)

structure DedupeState where
  canonicalByKey : List (String × ℤ)
  duplicateIds : List (ℤ × List ℤ)

def DedupeState.empty : DedupeState := ⟨[], []⟩

/-- `set.add(id)`. -/
def addId (id : ℤ) (ids : List ℤ) : List ℤ := if id ∈ ids then ids else ids ++ [id]

/-- One round of the loop of `collapseExactDuplicates`. -/
def collapseItem (tools : TextTools) (acc : List PackMemory × DedupeState) (item : PackMemory) :
    List PackMemory × DedupeState :=
  match exactDedupeKey tools item with
  | none => (acc.1 ++ [item], acc.2)
  | some key =>
    match (rowAt Prod.fst key acc.2.canonicalByKey).map Prod.snd with
    | none => (acc.1 ++ [item],
        { acc.2 with canonicalByKey := acc.2.canonicalByKey ++ [(key, item.id)] })
    | some canonicalId =>
      if canonicalId = item.id then (acc.1 ++ [item], acc.2)
      else (acc.1, { acc.2 with
        duplicateIds := insertOrUpdate Prod.fst (canonicalId, [item.id])
          (fun entry => (entry.1, addId item.id entry.2)) acc.2.duplicateIds })

def collapseExactDuplicates (tools : TextTools) (items : List PackMemory) (state : DedupeState) :
    List PackMemory × DedupeState :=
  items.foldl (collapseItem tools) ([], state)

/-- `new Map(items.map((item) => [item.id, item])).values()`. -/
def lastById (items : List PackMemory) : List PackMemory :=
  items.foldl (fun rows item => insertOrUpdate PackMemory.id item (fun _ => item) rows) []

def flattenCompressedIds (state : ClusterCompressionState) : List ℤ :=
  sortByPos id (state.compressedByRepresentative.flatMap Prod.snd)

/-- The sections of a pack with the states of deduplication and compression. -/
structure PackSections where
  summaryItems : List PackMemory
  timelineItems : List PackMemory
  observationItems : List PackMemory
  dedupeState : DedupeState
  clusterState : ClusterCompressionState

/-- Whether related items are compressed. -/
def compressesRelated (compressionMode : PackCompressionMode) (compact : Bool) : Bool :=
  compressionMode == .ids || (compressionMode == .compact && compact)

def dedupeAndCompressPackSections (tools : TextTools)
    (summaryItems timelineItems observationItems : List PackMemory) (modeLabel : PackTraceMode)
    (compressionMode : PackCompressionMode) (compact : Bool) : PackSections :=
  let dedupedSummary := collapseExactDuplicates tools summaryItems .empty
  let dedupedTimeline := collapseExactDuplicates tools timelineItems dedupedSummary.2
  let dedupedObservations := collapseExactDuplicates tools observationItems dedupedTimeline.2
  let clusterState :=
    if compressesRelated compressionMode compact then
      (compressClusters tools
        (lastById (dedupedSummary.1 ++ dedupedTimeline.1 ++ dedupedObservations.1)) modeLabel
        .empty).2
    else .empty
  let compressedIds := flattenCompressedIds clusterState
  let remaining := fun items : List PackMemory =>
    items.filter fun item => !compressedIds.contains item.id
  { summaryItems := remaining dedupedSummary.1
    timelineItems := remaining dedupedTimeline.1
    observationItems := remaining dedupedObservations.1
    dedupeState := dedupedObservations.2
    clusterState := clusterState }

/-- `PackItem`, as far as the memories give it. -/
structure PackItem where
  id : ℤ
  kind : String
  title : String
  body : String
  confidence : ℚ
  supportCount : Option ℕ
  duplicateIds : Option (List ℤ)
  compressedIds : Option (List ℤ)
  deriving DecidableEq

def toPackItem (dedupeState : DedupeState) (clusterState : ClusterCompressionState)
    (result : PackMemory) : PackItem :=
  let dupes := ((rowAt Prod.fst result.id dedupeState.duplicateIds).map Prod.snd).getD []
  let compressed := clusterState.compressedUnder result.id
  let supportCount := 1 + dupes.length + compressed.length
  { id := result.id
    kind := result.kind
    title := result.title
    body := (result.narrative.filter (· ≠ "")).getD result.bodyText
    confidence := result.confidence
    supportCount := if 1 < supportCount then some supportCount else none
    duplicateIds := if 0 < dupes.length then some (sortByPos id dupes) else none
    compressedIds := if 0 < compressed.length then some (sortByPos id compressed) else none }

/-- `selectedPackItemsById`: the first item of every id. -/
def firstById (items : List PackMemory) : List PackMemory :=
  items.foldl (fun rows item => insertOrUpdate PackMemory.id item id rows) []

def PackSections.items (sections : PackSections) : List PackItem :=
  (firstById (sections.summaryItems ++ sections.timelineItems ++ sections.observationItems)).map
    (toPackItem sections.dedupeState sections.clusterState)

/-! ### Owners -/

section Owners

variable {tools : TextTools}

def canonicalId (tools : TextTools) (items : List PackMemory) (key : String) : Option ℤ :=
  (items.find? fun item => exactDedupeKey tools item == some key).map PackMemory.id

/-- The id of the item that stands for an item: the first one with its key, or itself. -/
def ownerOf (tools : TextTools) (items : List PackMemory) (item : PackMemory) : ℤ :=
  ((exactDedupeKey tools item).bind (canonicalId tools items)).getD item.id

lemma canonicalId_append {items : List PackMemory} {item : PackMemory} {key : String} :
    canonicalId tools (items ++ [item]) key =
      (canonicalId tools items key).or
        (if exactDedupeKey tools item = some key then some item.id else none) := by
  unfold canonicalId
  rw [List.find?_append, Option.map_or]
  congr 1
  by_cases hkey : exactDedupeKey tools item = some key
  · simp [hkey]
  · simp [hkey]

lemma canonicalId_isSome {items : List PackMemory} {item : PackMemory} {key : String}
    (hitem : item ∈ items) (hkey : exactDedupeKey tools item = some key) :
    (canonicalId tools items key).isSome := by
  unfold canonicalId
  rw [Option.isSome_map, List.find?_isSome]
  exact ⟨item, hitem, beq_iff_eq.mpr hkey⟩

lemma ownerOf_append {items : List PackMemory} {item other : PackMemory} (hother : other ∈ items) :
    ownerOf tools (items ++ [item]) other = ownerOf tools items other := by
  unfold ownerOf
  cases hkey : exactDedupeKey tools other with
  | none => rfl
  | some key =>
    obtain ⟨canonical, hcanonical⟩ :=
      Option.isSome_iff_exists.mp (canonicalId_isSome hother hkey)
    rw [Option.bind_some, Option.bind_some, canonicalId_append, hcanonical, Option.some_or]

/-- What the loop has collected after some items. -/
structure Collapsed (tools : TextTools) (items : List PackMemory)
    (acc : List PackMemory × DedupeState) : Prop where
  canonical : ∀ key, (rowAt Prod.fst key acc.2.canonicalByKey).map Prod.snd =
    canonicalId tools items key
  kept : acc.1 = items.filter fun item => decide (ownerOf tools items item = item.id)
  keys : (acc.2.duplicateIds.map Prod.fst).Nodup
  nodup : ∀ entry ∈ acc.2.duplicateIds, entry.2.Nodup
  duplicates : ∀ c x, x ∈ ((rowAt Prod.fst c acc.2.duplicateIds).map Prod.snd).getD [] ↔
    ∃ item ∈ items, item.id = x ∧ ownerOf tools items item = c ∧ c ≠ x

lemma nodup_addId {id : ℤ} {ids : List ℤ} (h : ids.Nodup) : (addId id ids).Nodup := by
  unfold addId
  split_ifs with hmem
  · exact h
  · exact List.nodup_append.mpr ⟨h, List.nodup_singleton _, fun a ha b hb heq =>
      hmem (List.mem_singleton.mp hb ▸ heq ▸ ha)⟩

lemma mem_addId {x id : ℤ} {ids : List ℤ} : x ∈ addId id ids ↔ x ∈ ids ∨ x = id := by
  unfold addId
  split_ifs with hmem
  · exact ⟨.inl, fun h => h.elim (fun h => h) fun heq => heq ▸ hmem⟩
  · rw [List.mem_append, List.mem_singleton]

lemma ownerOf_append_self {items : List PackMemory} {item : PackMemory} :
    ownerOf tools (items ++ [item]) item = ownerOf tools items item := by
  unfold ownerOf
  cases hkey : exactDedupeKey tools item with
  | none => rfl
  | some key =>
    rw [Option.bind_some, Option.bind_some, canonicalId_append, if_pos hkey]
    cases canonicalId tools items key with
    | none => rfl
    | some canonical => rfl

lemma filter_owner_append {items : List PackMemory} {item : PackMemory} :
    ((items ++ [item]).filter fun other =>
        decide (ownerOf tools (items ++ [item]) other = other.id)) =
      (items.filter fun other => decide (ownerOf tools items other = other.id)) ++
        if ownerOf tools items item = item.id then [item] else [] := by
  rw [List.filter_append, List.filter_singleton, ownerOf_append_self]
  congr 1
  · exact List.filter_congr fun other hother => by rw [ownerOf_append hother]
  · by_cases h : ownerOf tools items item = item.id
    · simp [h]
    · simp [h]

lemma exists_duplicate_append {items : List PackMemory} {item : PackMemory} {c x : ℤ} :
    (∃ other ∈ items ++ [item], other.id = x ∧ ownerOf tools (items ++ [item]) other = c ∧ c ≠ x) ↔
      (∃ other ∈ items, other.id = x ∧ ownerOf tools items other = c ∧ c ≠ x) ∨
        (item.id = x ∧ ownerOf tools items item = c ∧ c ≠ x) := by
  constructor
  · rintro ⟨other, hother, hid, howner, hne⟩
    rcases List.mem_append.mp hother with hmem | hmem
    · exact .inl ⟨other, hmem, hid, ownerOf_append hmem ▸ howner, hne⟩
    · obtain rfl := List.mem_singleton.mp hmem
      exact .inr ⟨hid, ownerOf_append_self ▸ howner, hne⟩
  · rintro (⟨other, hmem, hid, howner, hne⟩ | ⟨hid, howner, hne⟩)
    · exact ⟨other, List.mem_append_left _ hmem, hid, (ownerOf_append hmem).trans howner, hne⟩
    · exact ⟨item, List.mem_append_right _ List.mem_cons_self, hid,
        ownerOf_append_self.trans howner, hne⟩

lemma Collapsed.keep {items : List PackMemory} {acc : List PackMemory × DedupeState}
    {item : PackMemory} (h : Collapsed tools items acc) (howner : ownerOf tools items item = item.id)
    {canonicalByKey : List (String × ℤ)}
    (hcanonical : ∀ key, (rowAt Prod.fst key canonicalByKey).map Prod.snd =
      canonicalId tools (items ++ [item]) key) :
    Collapsed tools (items ++ [item])
      (acc.1 ++ [item], { acc.2 with canonicalByKey := canonicalByKey }) where
  canonical := hcanonical
  kept := by
    rw [filter_owner_append, if_pos howner, h.kept]
  keys := h.keys
  nodup := h.nodup
  duplicates := by
    intro c x
    rw [exists_duplicate_append]
    refine (h.duplicates c x).trans ⟨.inl, fun hor => hor.elim (fun h => h) ?_⟩
    rintro ⟨rfl, rfl, hne⟩
    exact absurd howner hne

/-- One round of the loop. -/
lemma Collapsed.step {items : List PackMemory} {acc : List PackMemory × DedupeState}
    (h : Collapsed tools items acc) (item : PackMemory) :
    Collapsed tools (items ++ [item]) (collapseItem tools acc item) := by
  unfold collapseItem
  cases hkey : exactDedupeKey tools item with
  | none =>
    have howner : ownerOf tools items item = item.id := by rw [ownerOf, hkey]; rfl
    refine h.keep howner fun key => ?_
    rw [h.canonical, canonicalId_append, hkey, if_neg (by simp), Option.or_none]
  | some key =>
    dsimp only
    rw [h.canonical key]
    cases hfirst : canonicalId tools items key with
    | none =>
      have howner : ownerOf tools items item = item.id := by
        rw [ownerOf, hkey, Option.bind_some, hfirst, Option.getD_none]
      refine h.keep howner fun other => ?_
      have hstored := h.canonical other
      rw [canonicalId_append, hkey, ← hstored, rowAt, rowAt, List.find?_append, Option.map_or]
      congr 1
      by_cases hsame : key = other
      · simp [hsame]
      · simp [hsame]
    | some canonical =>
      have howner : ownerOf tools items item = canonical := by
        rw [ownerOf, hkey, Option.bind_some, hfirst, Option.getD_some]
      have hcanonical : ∀ other, (rowAt Prod.fst other acc.2.canonicalByKey).map Prod.snd =
          canonicalId tools (items ++ [item]) other := by
        intro other
        rw [h.canonical, canonicalId_append, hkey]
        by_cases hsame : key = other
        · rw [← hsame, hfirst, Option.some_or]
        · rw [if_neg (fun heq => hsame (Option.some.inj heq)), Option.or_none]
      dsimp only
      split_ifs with hself
      · exact h.keep (howner.trans hself) hcanonical
      · -- the item becomes a duplicate of the first item with its key
        refine ⟨hcanonical, ?_, ?_, ?_, fun c x => ?_⟩
        · rw [filter_owner_append, if_neg (fun heq => hself (howner.symm.trans heq)),
            List.append_nil]
          exact h.kept
        · exact @nodup_insertOrUpdate _ _ _ Prod.fst (canonical, [item.id])
            (fun entry : ℤ × List ℤ => (entry.1, addId item.id entry.2)) (fun _ _ => rfl) _ h.keys
        · intro entry hentry
          rcases mem_insertOrUpdate hentry with ⟨stored, hmem, -, rfl⟩ | ⟨stored, hmem, -, rfl⟩ | rfl
          · exact h.nodup entry hmem
          · exact nodup_addId (h.nodup stored hmem)
          · exact List.nodup_singleton _
        · have hrow := @rowAt_insertOrUpdate _ _ _ Prod.fst (canonical, [item.id])
            (fun entry : ℤ × List ℤ => (entry.1, addId item.id entry.2)) (fun _ => rfl) c
            acc.2.duplicateIds
          rw [exists_duplicate_append, ← h.duplicates, howner]
          dsimp only
          rw [hrow]
          by_cases hc : c = canonical
          · subst hc
            rw [if_pos rfl]
            cases hstored : rowAt Prod.fst c acc.2.duplicateIds with
            | none =>
              simp only [Option.map_none, Option.getD_none, Option.map_some, Option.getD_some,
                List.mem_singleton, List.not_mem_nil, false_or, true_and]
              constructor
              · rintro rfl
                exact ⟨rfl, hself⟩
              · exact fun heq => heq.1.symm
            | some entry =>
              simp only [Option.map_some, Option.getD_some, mem_addId, true_and]
              refine or_congr_right ⟨?_, fun heq => heq.1.symm⟩
              rintro rfl
              exact ⟨rfl, hself⟩
          · rw [if_neg hc]
            refine ⟨.inl, fun hor => hor.elim (fun hmem => hmem) fun heq => ?_⟩
            exact absurd heq.2.1.symm hc

lemma collapsed_run (tools : TextTools) (items : List PackMemory) :
    Collapsed tools items (items.foldl (collapseItem tools) ([], .empty)) := by
  induction items using List.reverseRecOn with
  | nil =>
    refine ⟨fun _ => rfl, rfl, List.nodup_nil, fun _ h => absurd h (List.not_mem_nil), fun c x => ?_⟩
    simp [DedupeState.empty, rowAt]
  | append_singleton items item ih =>
    rw [List.foldl_append, List.foldl_cons, List.foldl_nil]
    exact ih.step item

lemma foldl_collapseItem (items front : List PackMemory) (state : DedupeState) :
    items.foldl (collapseItem tools) (front, state) =
      (front ++ (collapseExactDuplicates tools items state).1,
        (collapseExactDuplicates tools items state).2) := by
  unfold collapseExactDuplicates
  induction items using List.reverseRecOn with
  | nil => rw [List.foldl_nil, List.foldl_nil, List.append_nil]
  | append_singleton items item ih =>
    rw [List.foldl_append, List.foldl_append, ih, List.foldl_cons, List.foldl_nil,
      List.foldl_cons, List.foldl_nil]
    generalize items.foldl (collapseItem tools) ([], state) = acc
    unfold collapseItem
    cases hkey : exactDedupeKey tools item with
    | none => simp only [List.append_assoc]
    | some key =>
      dsimp only
      cases hfirst : (rowAt Prod.fst key acc.2.canonicalByKey).map Prod.snd with
      | none => simp only [List.append_assoc]
      | some canonical =>
        dsimp only
        split_ifs
        · simp only [List.append_assoc]
        · rfl

lemma collapsed_sections (tools : TextTools) (summaryItems timelineItems observationItems : List PackMemory) :
    Collapsed tools (summaryItems ++ timelineItems ++ observationItems)
      (let dedupedSummary := collapseExactDuplicates tools summaryItems .empty
       let dedupedTimeline := collapseExactDuplicates tools timelineItems dedupedSummary.2
       let dedupedObservations := collapseExactDuplicates tools observationItems dedupedTimeline.2
       (dedupedSummary.1 ++ dedupedTimeline.1 ++ dedupedObservations.1,
        dedupedObservations.2)) := by
  have hrun := collapsed_run tools (summaryItems ++ timelineItems ++ observationItems)
  rw [List.foldl_append, List.foldl_append, foldl_collapseItem summaryItems, List.nil_append,
    foldl_collapseItem timelineItems, foldl_collapseItem observationItems] at hrun
  exact hrun

end Owners

end Codemem
