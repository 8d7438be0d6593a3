import Codemem.Store.ObserverSummaries

/-!
# One live summary for each session

After a call that persists a summary the session holds that summary and no other live one, as long
as `remember` inserts it.  `remember` may instead find a memory with the same title, in the session
or in another one, and then the session is left without a summary: the earlier one is superseded
and the new one is not stored.
-/

namespace Codemem

/-! ### Appending memories -/

/-- The store with new memories, whose ids were free. -/
structure DedupStore.Grows (ds ds' : DedupStore) (new : List MemoryItem) : Prop where
  rows : ds'.store.memoryItems = ds.store.memoryItems ++ new
  unique : ds.store.UniqueIds → ds'.store.UniqueIds
  keys : ∀ row ∈ ds.store.memoryItems, ds'.dedupKey row.id = ds.dedupKey row.id

lemma DedupStore.Grows.refl (ds : DedupStore) : ds.Grows ds [] :=
  ⟨(List.append_nil _).symm, id, fun _ _ => rfl⟩

lemma DedupStore.Grows.trans {ds ds1 ds2 : DedupStore} {new new' : List MemoryItem}
    (h : ds.Grows ds1 new) (h' : ds1.Grows ds2 new') : ds.Grows ds2 (new ++ new') where
  rows := by rw [h'.rows, h.rows, List.append_assoc]
  unique hids := h'.unique (h.unique hids)
  keys row hrow := by
    have hrow' : row ∈ ds1.store.memoryItems := by
      rw [h.rows]
      exact List.mem_append_left _ hrow
    rw [h'.keys row hrow', h.keys row hrow]

section Remember

variable {call : IngestCall} {ds ds' : DedupStore} {memory : PlannedMemory} {drawn : IngestDraw}
  {id : ℕ}

/-- The search of the call for a planned memory of a kind. -/
def IngestCall.query (call : IngestCall) (memory : PlannedMemory) (drawn : IngestDraw)
    (kind : String) : DedupQuery :=
  (call.writer drawn).dedupQuery call.tools (call.rememberInput memory drawn kind none)

/-- Remembering finds a duplicate, or appends one memory. -/
theorem IngestCall.rememberForUser_eq_ok
    (h : call.rememberForUser ds memory drawn = .ok (id, ds')) :
    ∃ kind, validateMemoryKind memory.kind = .ok kind ∧
      ((ds' = ds ∧ call.tools.findExistingDuplicateMemory ds (call.query memory drawn kind) =
          some id) ∨
        ∃ row, ds.Grows ds' [row] ∧ call.Inserted memory drawn row ∧
          row.id = ds.store.nextMemoryId) := by
  unfold rememberForUser at h
  obtain ⟨kind, hkind, h⟩ := exists_of_bind_eq_ok h
  obtain ⟨_, _, h⟩ := exists_of_bind_eq_ok h
  obtain ⟨createdAt, _, h⟩ := exists_of_bind_eq_ok h
  refine ⟨kind, hkind, ?_⟩
  have hquery : (call.writer drawn).dedupQuery call.tools
      (call.rememberInput memory drawn kind createdAt) = call.query memory drawn kind := rfl
  unfold MemoryStore.rememberOnce at h
  rw [hquery] at h
  dsimp only at h
  cases hfind : call.tools.findExistingDuplicateMemory ds (call.query memory drawn kind) with
  | some found =>
    rw [hfind] at h
    cases h
    exact .inl ⟨rfl, rfl⟩
  | none =>
    rw [hfind] at h
    dsimp only at h
    obtain ⟨⟨newId, st⟩, hremember, h⟩ := exists_of_bind_eq_ok h
    obtain ⟨_, _, h⟩ := exists_of_bind_eq_ok h
    cases h
    obtain ⟨rfl, write, hstamps, hother, hrows⟩ := remember_rows rfl hremember
    have hold : ds.store.memoryItems.map write = ds.store.memoryItems := by
      refine (List.map_congr_left fun row hrow => ?_).trans (List.map_id _)
      have hlt := Store.lt_nextMemoryId hrow
      exact hother row (by omega)
    rw [hold] at hrows
    obtain ⟨scopeId, hscope⟩ := hstamps
      { (call.writer drawn).rememberedRow (bindAllocatedSource (call.writer drawn) ds.store
          { call.rememberInput memory drawn kind createdAt with existingDuplicate := none })
          { call.rememberInput memory drawn kind createdAt with existingDuplicate := none }
          ((call.writer drawn).createdKey
            { call.rememberInput memory drawn kind createdAt with existingDuplicate := none }) with
        id := ds.store.nextMemoryId }
    rw [hscope] at hrows
    refine .inr ⟨_, ⟨hrows, fun hids => ?_, fun row hrow => ?_⟩,
      ⟨rfl, hkind, rfl, rfl, rfl, ?_⟩, rfl⟩
    · rw [Store.UniqueIds, hrows, List.map_append, List.map_singleton]
      refine List.nodup_append.mpr ⟨hids, List.nodup_singleton _, ?_⟩
      intro a ha b hb hab
      obtain ⟨row, hrow, rfl⟩ := List.mem_map.mp ha
      rw [List.mem_singleton] at hb
      have hlt := Store.lt_nextMemoryId hrow
      have hb' : b = ds.store.nextMemoryId := hb
      omega
    · have hlt := Store.lt_nextMemoryId hrow
      exact Function.update_of_ne (by omega) _ _
    · have hkey : ∀ (o : JsonObject) (v : Json), (o.set "import_key" v).source = o.source := by
        intro o v
        unfold JsonObject.source
        rw [JsonObject.get_set_of_ne (by decide)]
      exact (hkey _ _).trans (newMemoryMetadata_source _ _)

lemma ne_sessionSummary_of_mem {kind : String} (h : kind ∈ rememberMemoryKinds) :
    kind ≠ "session_summary" := by
  rintro rfl
  revert h
  decide

lemma validateMemoryKind_of_mem {kind kind' : String} (h : kind ∈ rememberMemoryKinds)
    (hkind : validateMemoryKind kind = .ok kind') : kind' = kind := by
  have hall : ∀ k ∈ rememberMemoryKinds, toLowerCase (trim k) = k := by decide +kernel
  have hnormal : toLowerCase (trim kind) = kind := hall kind h
  unfold validateMemoryKind at hkind
  rw [hnormal] at hkind
  rw [if_pos (List.mem_append_left _ h)] at hkind
  exact (Except.ok.inj hkind).symm

end Remember

/-! ### Superseding -/

/-- The rows of some ids are tombstoned, the others are as they were. -/
structure Retires (ids : List ℕ) (st st' : Store) : Prop where
  owners : st'.memoryItems.map (fun row => (row.id, row.sessionId)) =
    st.memoryItems.map (fun row => (row.id, row.sessionId))
  kept : ∀ row ∈ st.memoryItems, row.id ∉ ids → row ∈ st'.memoryItems
  old : ∀ row ∈ st'.memoryItems, row.id ∉ ids → row ∈ st.memoryItems
  tombstones : ∀ row ∈ st'.memoryItems, row.id ∈ ids →
    row.active = some 0 ∧ row.deletedAt.isSome = true

namespace Retires

variable {ids ids' : List ℕ} {st st1 st2 : Store}

lemma refl (st : Store) : Retires [] st st :=
  ⟨rfl, fun _ h _ => h, fun _ h _ => h, fun _ _ h => by cases h⟩

lemma trans (h : Retires ids st st1) (h' : Retires ids' st1 st2) :
    Retires (ids ++ ids') st st2 where
  owners := h'.owners.trans h.owners
  kept row hrow hid := by
    rw [List.mem_append, not_or] at hid
    exact h'.kept row (h.kept row hrow hid.1) hid.2
  old row hrow hid := by
    rw [List.mem_append, not_or] at hid
    exact h.old row (h'.old row hrow hid.2) hid.1
  tombstones row hrow hid := by
    by_cases hid' : row.id ∈ ids'
    · exact h'.tombstones row hrow hid'
    · exact h.tombstones row (h'.old row hrow hid')
        ((List.mem_append.mp hid).resolve_right hid')

lemma of_map {id : ℕ} {write : MemoryItem → MemoryItem}
    (hrows : st1.memoryItems = st.memoryItems.map write)
    (howner : ∀ row, (write row).id = row.id ∧ (write row).sessionId = row.sessionId)
    (hother : ∀ row, row.id ≠ id → write row = row)
    (htomb : ∀ row, row.id = id →
      (write row).active = some 0 ∧ (write row).deletedAt.isSome = true) :
    Retires [id] st st1 where
  owners := by
    rw [hrows, List.map_map]
    refine List.map_congr_left fun row _ => ?_
    simp only [Function.comp_apply, (howner row).1, (howner row).2]
  kept row hrow hid := by
    rw [List.mem_singleton] at hid
    rw [hrows]
    exact List.mem_map.mpr ⟨row, hrow, hother row hid⟩
  old row hrow hid := by
    rw [hrows] at hrow
    obtain ⟨before, hbefore, rfl⟩ := List.mem_map.mp hrow
    rw [List.mem_singleton, (howner before).1] at hid
    rwa [hother before hid]
  tombstones row hrow hid := by
    rw [hrows] at hrow
    obtain ⟨before, _, rfl⟩ := List.mem_map.mp hrow
    rw [List.mem_singleton, (howner before).1] at hid
    exact htomb before hid

lemma uniqueIds (h : Retires ids st st1) (hids : st.UniqueIds) : st1.UniqueIds := by
  have hmap := congrArg (List.map Prod.fst) h.owners
  rw [List.map_map, List.map_map] at hmap
  exact (congrArg List.Nodup hmap).mpr hids

lemma exists_owner (h : Retires ids st st1) {row : MemoryItem} (hrow : row ∈ st1.memoryItems) :
    ∃ before ∈ st.memoryItems, before.id = row.id ∧ before.sessionId = row.sessionId := by
  have hmem : (row.id, row.sessionId) ∈ st1.memoryItems.map fun r => (r.id, r.sessionId) :=
    List.mem_map_of_mem hrow
  rw [h.owners] at hmem
  obtain ⟨before, hbefore, heq⟩ := List.mem_map.mp hmem
  exact ⟨before, hbefore, (Prod.mk.inj heq).1, (Prod.mk.inj heq).2⟩

lemma exists_row (h : Retires ids st st1) {row : MemoryItem} (hrow : row ∈ st.memoryItems) :
    ∃ after ∈ st1.memoryItems, after.id = row.id := by
  have hmem : (row.id, row.sessionId) ∈ st.memoryItems.map fun r => (r.id, r.sessionId) :=
    List.mem_map_of_mem hrow
  rw [← h.owners] at hmem
  obtain ⟨after, hafter, heq⟩ := List.mem_map.mp hmem
  exact ⟨after, hafter, (Prod.mk.inj heq).1⟩

end Retires

lemma supersede_retires (ms : MemoryStore) (st : Store) (row : MemoryItem) :
    Retires [row.id] st (ms.supersede st row) := by
  obtain ⟨stamp, hstamp, hother, hrows⟩ := recordReplicationOp_rows ms.toLocalContext
    (st.updateMemories (fun r => r.id == row.id) (ms.supersededRow row))
    (.plain row.id .delete ms.deviceId)
  have hrows' : (ms.supersede st row).memoryItems = st.memoryItems.map fun r =>
      stamp (if r.id == row.id then ms.supersededRow row r else r) := by
    rw [MemoryStore.supersede, hrows, Store.updateMemories, List.map_map]
    rfl
  refine .of_map hrows' (fun r => ?_) (fun r hne => ?_) fun r hid => ?_
  · obtain ⟨scopeId, hscope⟩ := hstamp (if r.id == row.id then ms.supersededRow row r else r)
    rw [hscope]
    split_ifs
    · exact ⟨rfl, rfl⟩
    · exact ⟨rfl, rfl⟩
  · have hne' : (r.id == row.id) = false := beq_eq_false_iff_ne.mpr hne
    rw [if_neg (by simp [hne'])]
    exact hother r hne
  · obtain ⟨scopeId, hscope⟩ := hstamp (ms.supersededRow row r)
    rw [if_pos (by simp [hid]), hscope]
    exact ⟨rfl, rfl⟩

lemma supersedePriorObserverSummaries_retires (ms : MemoryStore) (st : Store) (sessionId : ℕ) :
    Retires ((st.memoryItems.filter (isPriorObserverSummary sessionId)).map MemoryItem.id) st
      (ms.supersedePriorObserverSummaries st sessionId).2 := by
  unfold MemoryStore.supersedePriorObserverSummaries
  dsimp only
  generalize st.memoryItems.filter (isPriorObserverSummary sessionId) = rows
  induction rows generalizing st with
  | nil => exact .refl st
  | cons row rows ih => exact (supersede_retires ms st row).trans (ih (ms.supersede st row))

/-- A write of the metadata of the rows of some ids. -/
structure Annotates (ids : List ℕ) (write : MemoryItem → MemoryItem) : Prop where
  columns : ∀ row, ∃ metadata, write row = { row with metadataJson := metadata }
  other : ∀ row, row.id ∉ ids → write row = row

lemma markSupersededBy_rows (st : Store) (ids : List ℕ) (replacementId : ℕ) :
    ∃ write, Annotates ids write ∧
      (markSupersededBy st ids replacementId).memoryItems = st.memoryItems.map write := by
  unfold markSupersededBy
  induction ids generalizing st with
  | nil => exact ⟨fun row => row, ⟨fun row => ⟨row.metadataJson, rfl⟩, fun _ _ => rfl⟩, by simp⟩
  | cons id ids ih =>
    obtain ⟨write, hwrite, hrows⟩ := ih (markRow replacementId st id)
    have hmark : ∃ mark, Annotates [id] mark ∧
        (markRow replacementId st id).memoryItems = st.memoryItems.map mark := by
      unfold markRow
      cases st.memoryById id with
      | none =>
        exact ⟨fun row => row, ⟨fun row => ⟨row.metadataJson, rfl⟩, fun _ _ => rfl⟩, by simp⟩
      | some row =>
        refine ⟨_, ⟨fun r => ?_, fun r hr => ?_⟩, rfl⟩
        · dsimp only
          split_ifs
          · exact ⟨_, rfl⟩
          · exact ⟨r.metadataJson, rfl⟩
        · rw [List.mem_singleton] at hr
          exact if_neg (by simp [hr])
    obtain ⟨mark, hannotates, hmarked⟩ := hmark
    refine ⟨write ∘ mark, ⟨fun row => ?_, fun row hrow => ?_⟩, ?_⟩
    · obtain ⟨metadata, hmetadata⟩ := hannotates.columns row
      obtain ⟨metadata', hmetadata'⟩ := hwrite.columns (mark row)
      exact ⟨metadata', by rw [Function.comp_apply, hmetadata', hmetadata]⟩
    · rw [List.mem_cons, not_or] at hrow
      rw [Function.comp_apply, hannotates.other row (by simpa using hrow.1)]
      exact hwrite.other row hrow.2
    · rw [List.foldl_cons, hrows, hmarked, List.map_map]

/-! ### A call -/

/-- The session of the call holds the planned summary and no other live one, the earlier ones are
tombstoned, and the memories of other sessions are what they were. -/
structure KeepsLatestSummary (ds ds' : DedupStore) (call : IngestCall) (memory : PlannedMemory) :
    Prop where
  latest : ∃ row, ds'.store.observerSummaries call.sessionId = [row] ∧
    row.title = call.ms.scanner.scan memory.title ∧
    row.bodyText = call.ms.scanner.scan memory.bodyText
  superseded : ∀ row ∈ ds.store.observerSummaries call.sessionId, ∃ after ∈ ds'.store.memoryItems,
    after.id = row.id ∧ after.active = some 0 ∧ after.deletedAt.isSome = true
  others : ∀ row, row.sessionId ≠ call.sessionId →
    (row ∈ ds'.store.memoryItems ↔ row ∈ ds.store.memoryItems)

def IngestCall.summaryDraw (call : IngestCall) : IngestDraw :=
  call.draw call.plan.observations.length

/-- Nothing stands in the way of the summary of a call: the scanner leaves the sources of the
planned memories alone, the observer's summaries of the session are of the kind that is superseded,
and no memory but those duplicates the new one. -/
structure Undisturbed (ds : DedupStore) (call : IngestCall) (memory : PlannedMemory) : Prop where
  scanned : ∀ planned ∈ call.plan.memories, ∀ index,
    (call.ms.scanner.redactValue (call.metadata planned (call.draw index))).source =
      planned.metadata.source
  kinds : ∀ row ∈ ds.store.observerSummaries call.sessionId, row.kind = "session_summary"
  unmatched : ∀ row ∈ ds.store.memoryItems,
    call.tools.Duplicates ds (call.query memory call.summaryDraw "session_summary") row →
      isPriorObserverSummary call.sessionId row = true

section Call

variable {call : IngestCall} {ds ds' : DedupStore} {memory : PlannedMemory}

/-- A row inserted for an observation: neither of the kind nor of the source of a summary. -/
def IsObservation (call : IngestCall) (row : MemoryItem) : Prop :=
  row.sessionId = call.sessionId ∧ row.kind ≠ "session_summary" ∧
    (fromJson row.metadataJson).source ≠ some "observer_summary"

lemma IngestCall.observations_grow (hscan : ∀ planned ∈ call.plan.memories, ∀ index,
      (call.ms.scanner.redactValue (call.metadata planned (call.draw index))).source =
        planned.metadata.source)
    (h : call.plan.observations.zipIdx.foldlM call.persistMemory ds = .ok ds') :
    ∃ new, ds.Grows ds' new ∧ ∀ row ∈ new, IsObservation call row := by
  refine foldlM_keeps (P := fun acc => ∃ new, ds.Grows acc new ∧ ∀ row ∈ new,
    IsObservation call row) (fun acc acc' entry hentry hacc hstep => ?_)
    ⟨[], .refl ds, fun _ h => by cases h⟩ h
  obtain ⟨new, hgrows, hnew⟩ := hacc
  have hmem : entry.1 ∈ call.plan.observations := List.fst_mem_of_mem_zipIdx hentry
  have hindex : entry.2 < call.plan.observations.length := by
    have := List.snd_lt_of_mem_zipIdx hentry
    omega
  have hnot : some entry.2 ≠ call.plan.summaryIndex := by
    intro heq
    obtain ⟨_, -, hlen⟩ := Option.map_eq_some_iff.mp heq.symm
    omega
  unfold persistMemory at hstep
  rw [if_neg hnot] at hstep
  obtain ⟨⟨id, next⟩, hremember, rfl⟩ := exists_of_map_eq_ok hstep
  obtain ⟨kind, hkind, ⟨hsame, -⟩ | ⟨row, happend, hrow, -⟩⟩ :=
    IngestCall.rememberForUser_eq_ok hremember
  · exact ⟨new, by rwa [hsame], hnew⟩
  · refine ⟨new ++ [row], hgrows.trans happend, fun r hr => ?_⟩
    rcases List.mem_append.mp hr with hr | hr
    · exact hnew r hr
    · obtain rfl := List.mem_singleton.mp hr
      refine ⟨hrow.session, ?_, ?_⟩
      · rw [validateMemoryKind_of_mem (call.plan.observation_kind _ hmem) hrow.kind]
        exact ne_sessionSummary_of_mem (call.plan.observation_kind _ hmem)
      · rw [hrow.source, hscan _ (List.mem_append_left _ hmem),
          call.plan.observation_source _ hmem]
        decide

lemma Undisturbed.no_duplicate (h : Undisturbed ds call memory) {ds1 : DedupStore} {st : Store}
    {new : List MemoryItem} (hgrows : ds.Grows ds1 new)
    (hnew : ∀ row ∈ new, IsObservation call row)
    (hretires : Retires ((ds1.store.memoryItems.filter
      (isPriorObserverSummary call.sessionId)).map MemoryItem.id) ds1.store st) :
    call.tools.findExistingDuplicateMemory { ds1 with store := st }
      (call.query memory call.summaryDraw "session_summary") = none := by
  refine DedupTools.findExistingDuplicateMemory_eq_none fun row hrow hdup => ?_
  have hselects : (call.query memory call.summaryDraw "session_summary").selects
      { ds1 with store := st } row = true := by
    obtain ⟨_, _, hsame | ⟨since, _, hcross⟩⟩ := hdup
    · simp only [DedupQuery.selectsSameSession, Bool.and_eq_true] at hsame
      exact hsame.1.1
    · simp only [DedupQuery.selectsCrossSession, Bool.and_eq_true] at hcross
      exact hcross.1.1.1
  simp only [DedupQuery.selects, Bool.and_eq_true, beq_iff_eq] at hselects
  obtain ⟨⟨⟨⟨hactive, hkind⟩, _⟩, _⟩, _⟩ := hselects
  by_cases hid : row.id ∈ (ds1.store.memoryItems.filter
      (isPriorObserverSummary call.sessionId)).map MemoryItem.id
  · -- a superseded row is no longer active
    rw [(hretires.tombstones row hrow hid).1] at hactive
    cases hactive
  have hrow1 : row ∈ ds1.store.memoryItems := hretires.old row hrow hid
  have hnotPrior : isPriorObserverSummary call.sessionId row ≠ true := fun hprior =>
    hid (List.mem_map_of_mem (List.mem_filter.mpr ⟨hrow1, hprior⟩))
  rw [hgrows.rows] at hrow1
  rcases List.mem_append.mp hrow1 with hold | hnewRow
  · have hkey := hgrows.keys row hold
    refine hnotPrior (h.unmatched row hold ?_)
    unfold DedupTools.Duplicates DedupQuery.selectsSameSession DedupQuery.selectsCrossSession
      DedupQuery.selects at hdup ⊢
    dsimp only at hdup
    rwa [hkey] at hdup
  · exact (hnew row hnewRow).2.1 hkind

lemma filter_eq_singleton {α : Type*} {p : α → Bool} {l : List α} {a : α} (hnodup : l.Nodup)
    (hmem : a ∈ l) (hp : p a = true) (hall : ∀ b ∈ l, p b = true → b = a) : l.filter p = [a] := by
  refine List.perm_singleton.mp ((List.perm_ext_iff_of_nodup (hnodup.filter p)
    (List.nodup_singleton a)).mpr fun b => ?_)
  rw [List.mem_filter, List.mem_singleton]
  constructor
  · exact fun hb => hall b hb.1 hb.2
  · rintro rfl
    exact ⟨hmem, hp⟩

lemma Store.mem_observerSummaries {st : Store} {sessionId : ℕ} {row : MemoryItem} :
    row ∈ st.observerSummaries sessionId ↔ row ∈ st.memoryItems ∧ row.sessionId = sessionId ∧
      row.active = some 1 ∧ (fromJson row.metadataJson).source = some "observer_summary" := by
  simp only [observerSummaries, List.mem_filter, Bool.and_eq_true, beq_iff_eq, and_assoc]

/-- What the summary step of an undisturbed call leaves in the rows: those of the store it started
from with the prior summaries tombstoned, and the new summary. -/
structure SummaryStored (call : IngestCall) (memory : PlannedMemory) (ds1 ds' : DedupStore)
    (row : MemoryItem) (kept : Store) (mark : MemoryItem → MemoryItem) : Prop where
  rows : ds'.store.memoryItems = kept.memoryItems.map mark ++ [row]
  inserted : call.Inserted memory call.summaryDraw row
  fresh : row.id = kept.nextMemoryId
  retired : Retires ((ds1.store.memoryItems.filter
    (isPriorObserverSummary call.sessionId)).map MemoryItem.id) ds1.store kept
  annotated : Annotates ((ds1.store.memoryItems.filter
    (isPriorObserverSummary call.sessionId)).map MemoryItem.id) mark

lemma Undisturbed.summaryStored (h : Undisturbed ds call memory) {ds1 : DedupStore}
    {new : List MemoryItem} (hsummary : call.plan.summary = some memory)
    (hgrows : ds.Grows ds1 new)
    (hnew : ∀ row ∈ new, IsObservation call row)
    (hrun : call.persistSummary ds1 memory call.summaryDraw = .ok ds') :
    ∃ row kept mark, SummaryStored call memory ds1 ds' row kept mark := by
  unfold IngestCall.persistSummary at hrun
  dsimp only at hrun
  obtain ⟨⟨id, ds2⟩, hremember, hrun⟩ := exists_of_bind_eq_ok hrun
  cases hrun
  have hretires := supersedePriorObserverSummaries_retires call.ms ds1.store call.sessionId
  have hnone := h.no_duplicate hgrows hnew hretires
  have hkind : memory.kind = "session_summary" := call.plan.summary_kind memory hsummary
  have hvalid : validateMemoryKind memory.kind = .ok "session_summary" := by
    rw [hkind]
    decide +kernel
  obtain ⟨kind, hkind', hcases⟩ := IngestCall.rememberForUser_eq_ok hremember
  obtain rfl : "session_summary" = kind := Except.ok.inj (hvalid.symm.trans hkind')
  rcases hcases with ⟨-, hfound⟩ | ⟨row, happend, hrow, hid⟩
  · rw [hnone] at hfound
    cases hfound
  · obtain ⟨mark, hmark, hrows⟩ := markSupersededBy_rows ds2.store
      ((ds1.store.memoryItems.filter (isPriorObserverSummary call.sessionId)).map MemoryItem.id) id
    refine ⟨row, _, mark, ?_, hrow, hid, hretires, hmark⟩
    have hfresh : row.id ∉ (ds1.store.memoryItems.filter
        (isPriorObserverSummary call.sessionId)).map MemoryItem.id := by
      intro hmem
      obtain ⟨before, hbefore, heq⟩ := List.mem_map.mp hmem
      obtain ⟨after, hafter, heq'⟩ := hretires.exists_row (List.mem_of_mem_filter hbefore)
      have hlt := Store.lt_nextMemoryId hafter
      have hid' : row.id = (call.ms.supersedePriorObserverSummaries ds1.store
        call.sessionId).2.nextMemoryId := hid
      omega
    refine hrows.trans ?_
    rw [happend.rows, List.map_append, List.map_singleton, hmark.other row hfresh]

namespace SummaryStored

variable {ds1 : DedupStore} {new : List MemoryItem} {row : MemoryItem} {kept : Store}
  {mark : MemoryItem → MemoryItem}

lemma mark_eq (h : SummaryStored call memory ds1 ds' row kept mark) {before : MemoryItem}
    (hbefore : before ∈ kept.memoryItems)
    (hid : before.id ∉ (ds1.store.memoryItems.filter
      (isPriorObserverSummary call.sessionId)).map MemoryItem.id) :
    mark before = before ∧ before ∈ ds1.store.memoryItems ∧
      isPriorObserverSummary call.sessionId before = false := by
  have hold := h.retired.old before hbefore hid
  refine ⟨h.annotated.other before hid, hold, ?_⟩
  by_contra hprior
  rw [Bool.not_eq_false] at hprior
  exact hid (List.mem_map_of_mem (List.mem_filter.mpr ⟨hold, hprior⟩))

lemma uniqueIds (h : SummaryStored call memory ds1 ds' row kept mark)
    (hids : ds1.store.UniqueIds) : ds'.store.UniqueIds := by
  have hkept : (kept.memoryItems.map MemoryItem.id).Nodup := h.retired.uniqueIds hids
  have hmark : (kept.memoryItems.map mark).map MemoryItem.id = kept.memoryItems.map MemoryItem.id := by
    rw [List.map_map]
    refine List.map_congr_left fun r _ => ?_
    obtain ⟨_, hcolumns⟩ := h.annotated.columns r
    rw [Function.comp_apply, hcolumns]
  rw [Store.UniqueIds, h.rows, List.map_append, List.map_singleton, hmark]
  refine List.nodup_append.mpr ⟨hkept, List.nodup_singleton _, ?_⟩
  intro a ha b hb hab
  obtain ⟨r, hr, rfl⟩ := List.mem_map.mp ha
  rw [List.mem_singleton] at hb
  have hlt := Store.lt_nextMemoryId hr
  have hfresh := h.fresh
  omega

lemma tombstone (h : SummaryStored call memory ds1 ds' row kept mark)
    (hids : ds1.store.UniqueIds) {before : MemoryItem} (hbefore : before ∈ kept.memoryItems)
    (hid : before.id ∈ (ds1.store.memoryItems.filter
      (isPriorObserverSummary call.sessionId)).map MemoryItem.id) :
    (mark before).id = before.id ∧ (mark before).sessionId = call.sessionId ∧
      (mark before).active = some 0 ∧ (mark before).deletedAt.isSome = true := by
  obtain ⟨hactive, hdeleted⟩ := h.retired.tombstones before hbefore hid
  obtain ⟨prior, hprior, hpriorId⟩ := List.mem_map.mp hid
  obtain ⟨hpriorRow, hpriorSummary⟩ := List.mem_filter.mp hprior
  obtain ⟨origin, horigin, horiginId, hsession⟩ := h.retired.exists_owner hbefore
  obtain rfl := hids.eq_of_id horigin hpriorRow (horiginId.trans hpriorId.symm)
  simp only [isPriorObserverSummary, Bool.and_eq_true, beq_iff_eq] at hpriorSummary
  obtain ⟨_, hcolumns⟩ := h.annotated.columns before
  rw [hcolumns]
  exact ⟨rfl, hsession.symm.trans hpriorSummary.1.1.1, hactive, hdeleted⟩

end SummaryStored

/-- An undisturbed call that returns keeps the latest summary. -/
theorem Undisturbed.keepsLatestSummary (h : Undisturbed ds call memory)
    (hsummary : call.plan.summary = some memory) (hids : ds.store.UniqueIds)
    (hrun : call.run ds = .ok ds') :
    KeepsLatestSummary ds ds' call memory ∧ ds'.store.UniqueIds := by
  unfold IngestCall.run at hrun
  obtain ⟨_, _, hrun⟩ := exists_of_bind_eq_ok hrun
  have hmemories : call.plan.memories = call.plan.observations ++ [memory] := by
    rw [PersistIngestPlan.memories, hsummary]
    rfl
  rw [hmemories, List.zipIdx_append, List.foldlM_append] at hrun
  obtain ⟨ds1, hobservations, hrun⟩ := exists_of_bind_eq_ok hrun
  obtain ⟨new, hgrows, hnew⟩ := IngestCall.observations_grow h.scanned hobservations
  have hids1 := hgrows.unique hids
  have hstep : call.persistSummary ds1 memory call.summaryDraw = .ok ds' := by
    have hindex : some call.plan.observations.length = call.plan.summaryIndex := by
      rw [PersistIngestPlan.summaryIndex, hsummary]
      rfl
    rw [List.zipIdx_singleton, List.foldlM_cons, Nat.zero_add] at hrun
    obtain ⟨ds2, hpersist, hrun⟩ := exists_of_bind_eq_ok hrun
    cases hrun
    unfold IngestCall.persistMemory at hpersist
    rwa [if_pos hindex] at hpersist
  obtain ⟨row, kept, mark, hstored⟩ := h.summaryStored hsummary hgrows hnew hstep
  have hids' := hstored.uniqueIds hids1
  have hsource : (fromJson row.metadataJson).source = some "observer_summary" := by
    have hmem : memory ∈ call.plan.memories := by
      rw [hmemories]
      exact List.mem_append_right _ (List.mem_singleton_self _)
    rw [hstored.inserted.source]
    exact (h.scanned memory hmem _).trans (call.plan.summary_source memory hsummary)
  have hrow : row ∈ ds'.store.memoryItems := by
    rw [hstored.rows]
    exact List.mem_append_right _ (List.mem_singleton_self _)
  refine ⟨⟨⟨row, ?_, hstored.inserted.title, hstored.inserted.bodyText⟩, ?_, ?_⟩, hids'⟩
  · -- the only live summary of the session is the new row
    refine filter_eq_singleton (List.Nodup.of_map _ hids') hrow ?_ fun other hother hlive => ?_
    · simp [hstored.inserted.session, hstored.inserted.active, hsource]
    · simp only [Bool.and_eq_true, beq_iff_eq] at hlive
      obtain ⟨⟨hsession, hactive⟩, hotherSource⟩ := hlive
      rw [hstored.rows] at hother
      rcases List.mem_append.mp hother with hother | hother
      · exfalso
        obtain ⟨before, hbefore, rfl⟩ := List.mem_map.mp hother
        by_cases hid : before.id ∈ (ds1.store.memoryItems.filter
            (isPriorObserverSummary call.sessionId)).map MemoryItem.id
        · rw [(hstored.tombstone hids1 hbefore hid).2.2.1] at hactive
          cases hactive
        obtain ⟨hmark, hold, hnotPrior⟩ := hstored.mark_eq hbefore hid
        rw [hmark] at hsession hactive hotherSource
        rw [hgrows.rows] at hold
        rcases List.mem_append.mp hold with hold | hold
        · have hkind := h.kinds before
            (Store.mem_observerSummaries.mpr ⟨hold, hsession, hactive, hotherSource⟩)
          simp [isPriorObserverSummary, hsession, hkind, hactive, hotherSource] at hnotPrior
        · exact (hnew before hold).2.2 hotherSource
      · exact List.mem_singleton.mp hother
  · -- the earlier summaries of the session are superseded
    intro prior hprior
    have hkind := h.kinds prior hprior
    obtain ⟨hmem, hsession, hactive, hpriorSource⟩ := Store.mem_observerSummaries.mp hprior
    have hmem1 : prior ∈ ds1.store.memoryItems := by
      rw [hgrows.rows]
      exact List.mem_append_left _ hmem
    obtain ⟨after, hafter, hid⟩ := hstored.retired.exists_row hmem1
    have hsuperseded : after.id ∈ (ds1.store.memoryItems.filter
        (isPriorObserverSummary call.sessionId)).map MemoryItem.id := by
      rw [hid]
      refine List.mem_map_of_mem (List.mem_filter.mpr ⟨hmem1, ?_⟩)
      simp [isPriorObserverSummary, hsession, hkind, hactive, hpriorSource]
    obtain ⟨hid', _, hinactive, hdeleted⟩ := hstored.tombstone hids1 hafter hsuperseded
    refine ⟨mark after, ?_, hid'.trans hid, hinactive, hdeleted⟩
    rw [hstored.rows]
    exact List.mem_append_left _ (List.mem_map_of_mem hafter)
  · -- the rows of other sessions are neither superseded nor new
    intro other hsession
    rw [hstored.rows]
    constructor
    · intro hother
      rcases List.mem_append.mp hother with hother | hother
      · obtain ⟨before, hbefore, rfl⟩ := List.mem_map.mp hother
        by_cases hid : before.id ∈ (ds1.store.memoryItems.filter
            (isPriorObserverSummary call.sessionId)).map MemoryItem.id
        · exact absurd (hstored.tombstone hids1 hbefore hid).2.1 hsession
        obtain ⟨hmark, hold, _⟩ := hstored.mark_eq hbefore hid
        rw [hmark] at hsession ⊢
        rw [hgrows.rows] at hold
        rcases List.mem_append.mp hold with hold | hold
        · exact hold
        · exact absurd (hnew before hold).1 hsession
      · rw [List.mem_singleton.mp hother] at hsession
        exact absurd hstored.inserted.session hsession
    · intro hother
      have hold : other ∈ ds1.store.memoryItems := by
        rw [hgrows.rows]
        exact List.mem_append_left _ hother
      have hid : other.id ∉ (ds1.store.memoryItems.filter
          (isPriorObserverSummary call.sessionId)).map MemoryItem.id := by
        intro hmem
        obtain ⟨prior, hprior, hpriorId⟩ := List.mem_map.mp hmem
        obtain ⟨hpriorRow, hpriorSummary⟩ := List.mem_filter.mp hprior
        obtain rfl := hids1.eq_of_id hpriorRow hold hpriorId
        simp only [isPriorObserverSummary, Bool.and_eq_true, beq_iff_eq] at hpriorSummary
        exact hsession hpriorSummary.1.1.1
      have hkept := hstored.retired.kept other hold hid
      refine List.mem_append_left _ (List.mem_map.mpr ⟨other, hkept, ?_⟩)
      exact (hstored.mark_eq hkept hid).1

end Call

/-! ### Runs -/

lemma IngestCall.run_uniqueIds {call : IngestCall} {ds ds' : DedupStore}
    (hsummary : call.plan.summary = none) (hids : ds.store.UniqueIds)
    (h : call.run ds = .ok ds') : ds'.store.UniqueIds := by
  unfold run at h
  obtain ⟨_, _, h⟩ := exists_of_bind_eq_ok h
  refine foldlM_keeps (P := fun acc : DedupStore => acc.store.UniqueIds)
    (fun acc acc' entry _ hacc hstep => ?_) hids h
  unfold persistMemory at hstep
  rw [if_neg (by simp [PersistIngestPlan.summaryIndex, hsummary])] at hstep
  obtain ⟨⟨id, next⟩, hremember, rfl⟩ := exists_of_map_eq_ok hstep
  obtain ⟨_, _, ⟨hsame, _⟩ | ⟨row, happend, _, _⟩⟩ := rememberForUser_eq_ok hremember
  · rwa [hsame]
  · exact happend.unique hacc

/-- Nothing stands in the way of the summary of a call, if it has one. -/
def CallUndisturbed (ds : DedupStore) (call : IngestCall) : Prop :=
  ∀ memory, call.plan.summary = some memory → Undisturbed ds call memory

def CallKeepsLatestSummary (ds : DedupStore) (call : IngestCall) : Prop :=
  ∀ memory, call.plan.summary = some memory → ∀ ds', call.run ds = .ok ds' →
    KeepsLatestSummary ds ds' call memory

lemma CallUndisturbed.uniqueIds {ds : DedupStore} {call : IngestCall}
    (h : CallUndisturbed ds call) (hids : ds.store.UniqueIds) :
    (ds.persist call).store.UniqueIds := by
  unfold DedupStore.persist
  cases hrun : call.run ds with
  | error message => exact hids
  | ok ds' =>
    cases hsummary : call.plan.summary with
    | none => exact IngestCall.run_uniqueIds hsummary hids hrun
    | some memory => exact ((h memory hsummary).keepsLatestSummary hsummary hids hrun).2

/-- A summary the observer wrote for a session. -/
def writtenSummary (id sessionId : ℕ) (title createdAt : String) : MemoryItem :=
  { id := id, sessionId := sessionId, kind := "session_summary", title := title
    bodyText := "earlier work", active := some 1, createdAt := createdAt, updatedAt := createdAt
    metadataJson := some (toJson [("source", .str "observer_summary")])
    actorId := some "local", visibility := some "shared", workspaceId := some "shared:default"
    workspaceKind := some "shared", originDeviceId := some "laptop", deletedAt := none
    rev := some 1, importKey := some ("key-" ++ toString id), scopeId := some "local-default"
    project := none, content := MemoryContent.empty }

/-- A store in which session 1 has a summary, and session 2 a newer one without a request. -/
def neighbourStore : DedupStore where
  store := { Store.empty with memoryItems :=
    [writtenSummary 1 1 "Fix the parser" "2026-01-01T09:00:00.000Z",
      writtenSummary 2 2 "Session summary" "2026-01-01T09:30:00.000Z"] }
  dedupKey := fun _ => none

/-- A plan with nothing but a summary without a request. -/
def untitledPlan : PersistIngestPlan where
  observations := []
  summary := some ⟨"session_summary", "Session summary", "later work", 3 / 10,
    [("is_summary", .bool true), ("source", .str "observer_summary")]⟩
  observation_kind := fun _ h => by cases h
  observation_source := fun _ h => by cases h
  summary_kind := fun _ h => by
    cases h
    rfl
  summary_source := fun _ h => by
    cases h
    rfl

/-- A store object of a device whose scanner finds nothing. -/
def plainMemoryStore : MemoryStore where
  deviceId := "laptop"
  now := "2026-01-01T10:00:00.000Z"
  randomUUID := "op-1"
  resolveProjectScope := fun _ _ => "local-default"
  reassignOpId := fun _ _ _ _ _ => ""
  actorId := "local"
  actorDisplayName := "local"
  sameActorPeerIds := []
  scanner := ⟨fun s => s, fun o => o⟩
  runtime := ⟨fun _ => none, fun _ => "", fun _ => "", toLowerCase⟩
  needsAttention := false
  finds := fun _ _ => true

/-- The call for session 1, half an hour after the summary of session 2. -/
def untitledCall : IngestCall where
  ms := plainMemoryStore
  tools := ⟨toLowerCase, fun c => c == '.', fun s => s, fun _ => some "2026-01-01T09:00:00.000Z"⟩
  sessionId := 1
  plan := untitledPlan
  historicalRecovery := none
  memoryCreatedAt := fun occurredAt _ => .ok occurredAt
  assertWritable := fun _ => .ok ()
  sessionScopeId := fun _ => "local-default"
  foreignDeviceConfigured := false
  draw := fun _ => ⟨"2026-01-01T10:00:00.000Z", "key-3", none, "", "op-2"⟩

/-- The same call with the window for other sessions switched off. -/
def windowlessCall : IngestCall :=
  { untitledCall with tools := { untitledCall.tools with crossSessionSince := fun _ => none } }

lemma windowlessCall_undisturbed : CallUndisturbed neighbourStore windowlessCall := by
  intro memory hmemory
  refine ⟨fun planned hplanned index => rfl, by decide +kernel, fun row hrow hdup => ?_⟩
  obtain ⟨_, _, hsame | ⟨since, hsince, _⟩⟩ := hdup
  · have hsession : row.sessionId = 1 := by
      simp only [DedupQuery.selectsSameSession, Bool.and_eq_true, beq_iff_eq] at hsame
      exact hsame.1.2
    have hprior : ∀ r ∈ neighbourStore.store.memoryItems, r.sessionId = 1 →
        isPriorObserverSummary 1 r = true := by decide +kernel
    exact hprior row hrow hsession
  · cases hsince

end Codemem
