import Codemem.Backfill.DedupKeys
import Codemem.Backfill.Refs
import Codemem.Backfill.Summaries

/-!
# Pending work under the writes of the jobs

No write of a pass makes a memory or a session pending: keys and refs are added, and memories are
only deactivated.  A write that fills the refs of a row, or supersedes all summaries of a session
but one, ends its being pending.
-/

namespace Codemem

/-! ### Writes that add no pending work -/

/-- A write of rows that activates none and leaves files and concepts alone. -/
structure QuietRow (write : MemoryItem → MemoryItem) : Prop where
  id : ∀ row, (write row).id = row.id
  content : ∀ row, (write row).content = row.content
  active : ∀ row, (write row).active = some 1 → row.active = some 1
  summary : ∀ row sessionId, isPriorObserverSummary sessionId (write row) = true →
    isPriorObserverSummary sessionId row = true

/-- Rows are written quietly, and refs are only added. -/
structure QuietWrite (st st' : Store) : Prop where
  rows : ∃ write, QuietRow write ∧ st'.memoryItems = st.memoryItems.map write
  fileRefs : ∀ id, (st.memoryFileRefs.any fun ref => ref.memoryId == id) = true →
    (st'.memoryFileRefs.any fun ref => ref.memoryId == id) = true
  conceptRefs : ∀ id, (st.memoryConceptRefs.any fun ref => ref.memoryId == id) = true →
    (st'.memoryConceptRefs.any fun ref => ref.memoryId == id) = true

def Store.RefPendingId (st : Store) (id : ℕ) : Prop :=
  ∃ row ∈ st.memoryItems, row.id = id ∧ st.refBackfillPending row = true

lemma quietRow_id : QuietRow fun row => row :=
  ⟨fun _ => rfl, fun _ => rfl, fun _ h => h, fun _ _ h => h⟩

namespace QuietWrite

variable {st st' st'' : Store}

lemma refl (st : Store) : QuietWrite st st :=
  ⟨⟨fun row => row, quietRow_id, by simp⟩, fun _ h => h, fun _ h => h⟩

lemma trans (h : QuietWrite st st') (h' : QuietWrite st' st'') : QuietWrite st st'' := by
  obtain ⟨write, hwrite, hrows⟩ := h.rows
  obtain ⟨write', hwrite', hrows'⟩ := h'.rows
  refine ⟨⟨write' ∘ write, ⟨fun row => ?_, fun row => ?_, fun row hactive => ?_,
    fun row sessionId hsummary => ?_⟩, ?_⟩, fun id hid => h'.fileRefs id (h.fileRefs id hid),
    fun id hid => h'.conceptRefs id (h.conceptRefs id hid)⟩
  · exact (hwrite'.id (write row)).trans (hwrite.id row)
  · exact (hwrite'.content (write row)).trans (hwrite.content row)
  · exact hwrite.active row (hwrite'.active (write row) hactive)
  · exact hwrite.summary row sessionId (hwrite'.summary (write row) sessionId hsummary)
  · rw [hrows', hrows, List.map_map]

lemma refBackfillPending (h : QuietWrite st st') {write : MemoryItem → MemoryItem}
    (hwrite : QuietRow write) {row : MemoryItem}
    (hpending : st'.refBackfillPending (write row) = true) : st.refBackfillPending row = true := by
  unfold Store.refBackfillPending Store.fileRefsPending Store.conceptRefsPending at hpending ⊢
  rw [hwrite.content, hwrite.id] at hpending
  simp only [Bool.and_eq_true, Bool.or_eq_true, beq_iff_eq, Bool.not_eq_true'] at hpending ⊢
  refine ⟨hwrite.active row hpending.1, hpending.2.imp (fun h' => ⟨h'.1, ?_⟩)
    fun h' => ⟨h'.1, ?_⟩⟩
  · rcases hany : st.memoryFileRefs.any fun ref => ref.memoryId == row.id with _ | _
    · rfl
    · rw [h.fileRefs row.id hany] at h'
      exact absurd h'.2 (by simp)
  · rcases hany : st.memoryConceptRefs.any fun ref => ref.memoryId == row.id with _ | _
    · rfl
    · rw [h.conceptRefs row.id hany] at h'
      exact absurd h'.2 (by simp)

lemma refPendingId (h : QuietWrite st st') {id : ℕ} (hpending : st'.RefPendingId id) :
    st.RefPendingId id := by
  obtain ⟨write, hwrite, hrows⟩ := h.rows
  obtain ⟨row', hrow', rfl, hpending⟩ := hpending
  rw [hrows] at hrow'
  obtain ⟨row, hrow, rfl⟩ := List.mem_map.mp hrow'
  exact ⟨row, hrow, (hwrite.id row).symm, h.refBackfillPending hwrite hpending⟩

lemma summaryDedupPending (h : QuietWrite st st') {sessionId : ℕ}
    (hpending : st'.summaryDedupPending sessionId = true) :
    st.summaryDedupPending sessionId = true := by
  obtain ⟨write, hwrite, hrows⟩ := h.rows
  unfold Store.summaryDedupPending Store.activeObserverSummaries at hpending ⊢
  rw [decide_eq_true_eq] at hpending ⊢
  refine lt_of_lt_of_le hpending ?_
  rw [hrows, List.filter_map, List.length_map]
  exact (List.monotone_filter_right st.memoryItems
    fun row hrow => hwrite.summary row sessionId hrow).length_le

end QuietWrite

lemma Store.refPendingId_iff {st : Store} {id : ℕ} :
    st.RefPendingId id ↔ ∃ row ∈ st.refBackfillRows, row.id = id := by
  constructor
  · rintro ⟨row, hrow, hid, hpending⟩
    exact ⟨row, List.mem_filter.mpr ⟨hrow, hpending⟩, hid⟩
  · rintro ⟨row, hrow, hid⟩
    obtain ⟨hmem, hpending⟩ := List.mem_filter.mp hrow
    exact ⟨row, hmem, hid, hpending⟩

lemma Store.hasPendingRefBackfill_iff {st : Store} :
    st.hasPendingRefBackfill = true ↔ ∃ id, st.RefPendingId id := by
  unfold Store.hasPendingRefBackfill
  rw [Bool.not_eq_true', List.isEmpty_eq_false_iff_exists_mem]
  constructor
  · rintro ⟨row, hrow⟩
    exact ⟨row.id, Store.refPendingId_iff.mpr ⟨row, hrow, rfl⟩⟩
  · rintro ⟨id, hid⟩
    obtain ⟨row, hrow, -⟩ := Store.refPendingId_iff.mp hid
    exact ⟨row, hrow⟩

lemma Store.mem_pendingSummarySessions {st : Store} {sessionId : ℕ} :
    sessionId ∈ st.pendingSummarySessions ↔ st.summaryDedupPending sessionId = true := by
  unfold Store.pendingSummarySessions
  rw [List.mem_filter, List.mem_dedup, and_iff_right_iff_imp]
  intro hpending
  unfold Store.summaryDedupPending Store.activeObserverSummaries at hpending
  rw [decide_eq_true_eq] at hpending
  obtain ⟨row, hrow⟩ := List.exists_mem_of_length_pos (Nat.lt_of_succ_lt hpending)
  obtain ⟨hmem, hsummary⟩ := List.mem_filter.mp hrow
  refine List.mem_map.mpr ⟨row, hmem, ?_⟩
  simp only [isPriorObserverSummary, Bool.and_eq_true, beq_iff_eq] at hsummary
  exact hsummary.1.1.1

lemma Store.countPendingSessions_eq_zero_iff {st : Store} :
    st.countPendingSessions = 0 ↔ ∀ sessionId, st.summaryDedupPending sessionId = false := by
  unfold Store.countPendingSessions
  rw [List.length_eq_zero_iff, List.eq_nil_iff_forall_not_mem]
  simp only [Store.mem_pendingSummarySessions, Bool.not_eq_true]

/-! ### Keys -/

lemma BackfillStore.setDedupKey_quiet {now : String} {s s' : BackfillStore} {update : ℕ × String}
    (h : s.setDedupKey now update = .ok s') :
    QuietWrite s.memories.store s'.memories.store ∧ s'.refJob = s.refJob ∧
      s'.summaryJob = s.summaryJob := by
  unfold BackfillStore.setDedupKey at h
  rcases hrow : s.memories.store.memoryById update.1 with _ | row
  · rw [hrow] at h
    cases h
    exact ⟨.refl _, rfl, rfl⟩
  · rw [hrow] at h
    dsimp only at h
    split_ifs at h
    cases h
    refine ⟨⟨⟨_, ⟨fun row => ?_, fun row => ?_, fun row => ?_, fun row sessionId => ?_⟩, rfl⟩,
      fun _ h => h, fun _ h => h⟩, rfl, rfl⟩
    · split_ifs
      · rfl
      · rfl
    · split_ifs
      · rfl
      · rfl
    · split_ifs
      · exact id
      · exact id
    · split_ifs
      · exact id
      · exact id

lemma BackfillStore.applyMemoryDedupKeyUpdates_quiet {now : String} {s s' : BackfillStore}
    {updates : List (ℕ × String)} (h : s.applyMemoryDedupKeyUpdates now updates = .ok s') :
    QuietWrite s.memories.store s'.memories.store ∧ s'.refJob = s.refJob ∧
      s'.summaryJob = s.summaryJob := by
  unfold BackfillStore.applyMemoryDedupKeyUpdates at h
  induction updates generalizing s with
  | nil =>
    cases h
    exact ⟨.refl _, rfl, rfl⟩
  | cons update updates ih =>
    rw [List.foldlM_cons] at h
    obtain ⟨s1, hfirst, hrest⟩ := exists_of_bind_eq_ok h
    obtain ⟨hquiet, href, hsummary⟩ := BackfillStore.setDedupKey_quiet hfirst
    obtain ⟨hquiet', href', hsummary'⟩ := ih hrest
    exact ⟨hquiet.trans hquiet', href'.trans href, hsummary'.trans hsummary⟩

/-! ### Refs -/

lemma any_foldl_insertOrIgnore {α ρ : Type} [DecidableEq ρ] (key : ρ → ℕ) (ref : α → ρ)
    (blank : α → Bool) {memoryId : ℕ} (hkey : ∀ item, key (ref item) = memoryId) (items : List α)
    (refs : List ρ) (id : ℕ) :
    ((items.foldl (fun acc item =>
        if blank item = true ∨ ref item ∈ acc then acc else acc ++ [ref item]) refs).any
      fun r => key r == id) = true ↔
      (refs.any fun r => key r == id) = true ∨
        memoryId = id ∧ ∃ item ∈ items, blank item = false := by
  induction items generalizing refs with
  | nil => simp
  | cons item items ih =>
    rw [List.foldl_cons, ih, List.exists_mem_cons_iff]
    rcases hblank : blank item with _ | _
    · by_cases hmem : ref item ∈ refs
      · have hany : memoryId = id → (refs.any fun r => key r == id) = true := fun h =>
          List.any_eq_true.mpr ⟨ref item, hmem, by rw [hkey, h, beq_self_eq_true]⟩
        rw [if_pos (Or.inr hmem)]
        constructor
        · exact fun h => h.imp_right fun h => ⟨h.1, Or.inr h.2⟩
        · exact fun h => h.elim Or.inl fun h => Or.inl (hany h.1)
      · rw [if_neg (by simp [hmem]), List.any_append, Bool.or_eq_true]
        have hone : ([ref item].any fun r => key r == id) = true ↔ memoryId = id := by
          simp [hkey]
        rw [hone]
        constructor
        · rintro ((h | h) | h)
          · exact Or.inl h
          · exact Or.inr ⟨h, Or.inl rfl⟩
          · exact Or.inr ⟨h.1, Or.inr h.2⟩
        · rintro (h | h)
          · exact Or.inl (Or.inl h)
          · exact Or.inl (Or.inr h.1)
    · rw [if_pos (Or.inl rfl)]
      simp

lemma any_insertFileRefs_iff (memoryId : ℕ) (relation : String) (paths : Option (List String))
    (refs : List MemoryFileRef) (id : ℕ) :
    ((insertFileRefs memoryId relation paths refs).any fun ref => ref.memoryId == id) = true ↔
      (refs.any fun ref => ref.memoryId == id) = true ∨
        memoryId = id ∧ ∃ path ∈ paths.getD [], path.toList.isEmpty = false :=
  any_foldl_insertOrIgnore MemoryFileRef.memoryId
    (fun path : String => ⟨memoryId, path, relation⟩) (fun path => path.toList.isEmpty)
    (fun _ => rfl) _ _ _

lemma any_insertConceptRefs_iff (rt : Runtime) (memoryId : ℕ) (concepts : Option (List String))
    (refs : List MemoryConceptRef) (id : ℕ) :
    ((insertConceptRefs rt memoryId concepts refs).any fun ref => ref.memoryId == id) = true ↔
      (refs.any fun ref => ref.memoryId == id) = true ∨
        memoryId = id ∧
          ∃ concept ∈ concepts.getD [], (rt.lowerCase (trim concept)).toList.isEmpty = false :=
  any_foldl_insertOrIgnore MemoryConceptRef.memoryId
    (fun concept : String => ⟨memoryId, rt.lowerCase (trim concept)⟩)
    (fun concept => (rt.lowerCase (trim concept)).toList.isEmpty) (fun _ => rfl) _ _ _

/-- A path among the files of a row names a file. -/
def MemoryItem.YieldsFileRef (row : MemoryItem) : Prop :=
  ∃ path ∈ (safeJsonArray row.content.filesRead).getD [] ++
    (safeJsonArray row.content.filesModified).getD [], path.toList.isEmpty = false

def MemoryItem.YieldsConceptRef (rt : Runtime) (row : MemoryItem) : Prop :=
  ∃ concept ∈ (safeJsonArray row.content.concepts).getD [],
    (rt.lowerCase (trim concept)).toList.isEmpty = false

lemma Store.fileRefsPending_insertRowRefs (rt : Runtime) (st : Store) (row current : MemoryItem) :
    (st.insertRowRefs rt row).fileRefsPending current = true ↔
      st.fileRefsPending current = true ∧ ¬ (row.id = current.id ∧ row.YieldsFileRef) := by
  have hrefs : ((st.insertRowRefs rt row).memoryFileRefs.any
        fun ref => ref.memoryId == current.id) = true ↔
      (st.memoryFileRefs.any fun ref => ref.memoryId == current.id) = true ∨
        row.id = current.id ∧ row.YieldsFileRef := by
    unfold Store.insertRowRefs populateMemoryRefs MemoryItem.YieldsFileRef
    dsimp only
    rw [any_insertFileRefs_iff, any_insertFileRefs_iff, or_assoc, ← and_or_left]
    simp only [List.mem_append, or_and_right, exists_or]
  unfold Store.fileRefsPending
  rw [Bool.and_eq_true, Bool.and_eq_true, Bool.not_eq_true', Bool.not_eq_true', ← Bool.not_eq_true,
    ← Bool.not_eq_true, hrefs, not_or, and_assoc]

lemma Store.conceptRefsPending_insertRowRefs (rt : Runtime) (st : Store)
    (row current : MemoryItem) :
    (st.insertRowRefs rt row).conceptRefsPending current = true ↔
      st.conceptRefsPending current = true ∧
        ¬ (row.id = current.id ∧ row.YieldsConceptRef rt) := by
  have hrefs : ((st.insertRowRefs rt row).memoryConceptRefs.any
        fun ref => ref.memoryId == current.id) = true ↔
      (st.memoryConceptRefs.any fun ref => ref.memoryId == current.id) = true ∨
        row.id = current.id ∧ row.YieldsConceptRef rt := any_insertConceptRefs_iff _ _ _ _ _
  unfold Store.conceptRefsPending
  rw [Bool.and_eq_true, Bool.and_eq_true, Bool.not_eq_true', Bool.not_eq_true', ← Bool.not_eq_true,
    ← Bool.not_eq_true, hrefs, not_or, and_assoc]

lemma Store.insertRowRefs_quiet (rt : Runtime) (st : Store) (row : MemoryItem) :
    QuietWrite st (st.insertRowRefs rt row) := by
  refine ⟨⟨fun row => row, quietRow_id, ?_⟩, fun id h => ?_, fun id h => ?_⟩
  · rw [List.map_id']
    rfl
  · exact (any_insertFileRefs_iff _ _ _ _ _).mpr
      (Or.inl ((any_insertFileRefs_iff _ _ _ _ _).mpr (Or.inl h)))
  · exact (any_insertConceptRefs_iff _ _ _ _ _).mpr (Or.inl h)

/-- What the row of a batch yields for the pending parts of the memory with its id. -/
def Store.Fills (rt : Runtime) (st : Store) (row : MemoryItem) : Prop :=
  ∀ current ∈ st.memoryItems, current.id = row.id → st.refBackfillPending current = true →
    (st.fileRefsPending current = true → row.YieldsFileRef) ∧
      (st.conceptRefsPending current = true → row.YieldsConceptRef rt)

lemma Store.Fills.not_pending {rt : Runtime} {st : Store} {row : MemoryItem}
    (h : st.Fills rt row) : ¬ (st.insertRowRefs rt row).RefPendingId row.id := by
  rintro ⟨current, hcurrent, hid, hpending⟩
  unfold Store.refBackfillPending at hpending
  rw [Bool.and_eq_true, Bool.or_eq_true, Store.fileRefsPending_insertRowRefs,
    Store.conceptRefsPending_insertRowRefs] at hpending
  obtain ⟨hactive, hparts⟩ := hpending
  have hbefore : st.refBackfillPending current = true := by
    unfold Store.refBackfillPending
    rw [Bool.and_eq_true, Bool.or_eq_true]
    exact ⟨hactive, hparts.imp And.left And.left⟩
  obtain ⟨hfiles, hconcepts⟩ := h current hcurrent hid hbefore
  rcases hparts with hpart | hpart
  · exact hpart.2 ⟨hid.symm, hfiles hpart.1⟩
  · exact hpart.2 ⟨hid.symm, hconcepts hpart.1⟩

/-! ### Summaries -/

lemma Store.supersedeSummary_quiet (ctx : LocalContext) (winnerId : ℕ) (st : Store)
    (read : MemoryItem) : QuietWrite st (st.supersedeSummary ctx winnerId read) := by
  obtain ⟨stamp, hstamp, hstore⟩ := recordReplicationOp_store ctx
    (st.updateMemories (fun row => row.id == read.id) (dedupedRow ctx winnerId read))
    (.plain read.id .delete ctx.deviceId)
  obtain ⟨stamp', hstamp', hrows⟩ := st.supersedeSummary_rows ctx winnerId read
  refine ⟨⟨_, ⟨fun row => ?_, fun row => ?_, fun row => ?_, fun row sessionId => ?_⟩, hrows⟩,
    fun id h => ?_, fun id h => ?_⟩
  · exact (keepsForm_supersede ctx winnerId read hstamp').id row
  · obtain ⟨scopeId, hscope⟩ := hstamp' (if row.id == read.id then dedupedRow ctx winnerId read row
      else row)
    rw [hscope]
    split_ifs
    · rfl
    · rfl
  · obtain ⟨scopeId, hscope⟩ := hstamp' (if row.id == read.id then dedupedRow ctx winnerId read row
      else row)
    rw [hscope]
    split_ifs
    · intro h
      exact absurd h (by simp [dedupedRow])
    · exact id
  · obtain ⟨scopeId, hscope⟩ := hstamp' (if row.id == read.id then dedupedRow ctx winnerId read row
      else row)
    rw [hscope]
    split_ifs
    · intro h
      simp [isPriorObserverSummary, dedupedRow] at h
    · exact id
  · rw [Store.supersedeSummary, hstore]
    exact h
  · rw [Store.supersedeSummary, hstore]
    exact h

lemma Store.supersedeSummary_inactive (ctx : LocalContext) (winnerId : ℕ) (st : Store)
    (read : MemoryItem) {row : MemoryItem}
    (hrow : row ∈ (st.supersedeSummary ctx winnerId read).memoryItems) (hid : row.id = read.id) :
    row.active = some 0 := by
  obtain ⟨stamp, hstamp, hrows⟩ := st.supersedeSummary_rows ctx winnerId read
  rw [hrows] at hrow
  obtain ⟨before, -, rfl⟩ := List.mem_map.mp hrow
  rw [(keepsForm_supersede ctx winnerId read hstamp).id] at hid
  obtain ⟨scopeId, hscope⟩ := hstamp (if before.id == read.id then dedupedRow ctx winnerId read
    before else before)
  rw [hscope, if_pos (by simp [hid])]
  rfl

/-- Every active summary of the session is in the plan. -/
def Store.Covers (st : Store) (plan : SessionPlan) : Prop :=
  ∀ row ∈ st.activeObserverSummaries plan.sessionId, row.id ≠ plan.winnerId →
    ∃ read ∈ plan.superseded, read.id = row.id

lemma BackfillStore.applySessionPlan_quiet (draw : ℕ → LocalContext) (s : BackfillStore)
    (plan : SessionPlan) :
    QuietWrite s.memories.store (s.applySessionPlan draw plan).memories.store ∧
      (s.applySessionPlan draw plan).refJob = s.refJob ∧
      (s.applySessionPlan draw plan).dedupKeyJob = s.dedupKeyJob ∧
      (s.applySessionPlan draw plan).summaryJob = s.summaryJob := by
  unfold BackfillStore.applySessionPlan
  generalize plan.superseded = rows
  induction rows generalizing s with
  | nil => exact ⟨.refl _, rfl, rfl, rfl⟩
  | cons read rows ih =>
    obtain ⟨hquiet, href, hkeys, hsummary⟩ := ih (s.supersedeSummary draw plan.winnerId read)
    exact ⟨(s.memories.store.supersedeSummary_quiet (draw read.id) plan.winnerId read).trans hquiet,
      href, hkeys, hsummary⟩

lemma QuietWrite.inactive {st st' : Store} (h : QuietWrite st st') {id : ℕ}
    (hinactive : ∀ row ∈ st.memoryItems, row.id = id → row.active ≠ some 1) :
    ∀ row ∈ st'.memoryItems, row.id = id → row.active ≠ some 1 := by
  obtain ⟨write, hwrite, hrows⟩ := h.rows
  intro row hrow hid hactive
  rw [hrows] at hrow
  obtain ⟨before, hbefore, rfl⟩ := List.mem_map.mp hrow
  rw [hwrite.id] at hid
  exact hinactive before hbefore hid (hwrite.active before hactive)

lemma BackfillStore.applySessionPlan_inactive (draw : ℕ → LocalContext) (s : BackfillStore)
    (plan : SessionPlan) {read : MemoryItem} (hread : read ∈ plan.superseded) :
    ∀ row ∈ (s.applySessionPlan draw plan).memories.store.memoryItems, row.id = read.id →
      row.active ≠ some 1 := by
  unfold BackfillStore.applySessionPlan
  generalize plan.superseded = rows at hread
  induction rows generalizing s with
  | nil => cases hread
  | cons first rows ih =>
    rcases List.mem_cons.mp hread with rfl | hread
    · have hquiet := (BackfillStore.applySessionPlan_quiet draw
        (s.supersedeSummary draw plan.winnerId read) { plan with superseded := rows }).1
      refine hquiet.inactive fun row hrow hid hactive => ?_
      rw [Store.supersedeSummary_inactive _ _ _ _ hrow hid] at hactive
      cases hactive
    · exact ih (s.supersedeSummary draw plan.winnerId first) hread

lemma BackfillStore.applySessionPlan_not_pending (draw : ℕ → LocalContext) {s : BackfillStore}
    {plan : SessionPlan} (h : s.memories.store.Covers plan) :
    (s.applySessionPlan draw plan).memories.store.summaryDedupPending plan.sessionId = false := by
  obtain ⟨hquiet, -⟩ := BackfillStore.applySessionPlan_quiet draw s plan
  obtain ⟨write, hwrite, hrows⟩ := hquiet.rows
  have hwinner : ∀ row ∈ (s.applySessionPlan draw plan).memories.store.activeObserverSummaries
      plan.sessionId, row.id = plan.winnerId := by
    intro row hrow
    by_contra hne
    obtain ⟨hmem, hsummary⟩ := List.mem_filter.mp hrow
    have hactive : row.active = some 1 := by
      simp only [isPriorObserverSummary, Bool.and_eq_true, beq_iff_eq] at hsummary
      exact hsummary.1.2
    rw [hrows] at hmem
    obtain ⟨before, hbefore, hwritten⟩ := List.mem_map.mp hmem
    have hid : row.id = before.id := by
      rw [← hwritten]
      exact hwrite.id before
    have hcovered : before ∈ s.memories.store.activeObserverSummaries plan.sessionId := by
      refine List.mem_filter.mpr ⟨hbefore, hwrite.summary before _ ?_⟩
      rw [hwritten]
      exact hsummary
    obtain ⟨read, hread, hreadId⟩ := h before hcovered (hid ▸ hne)
    exact BackfillStore.applySessionPlan_inactive draw s plan hread row
      (List.mem_filter.mp hrow).1 (hid.trans hreadId.symm) hactive
  have hnodup : (((s.applySessionPlan draw plan).memories.store.activeObserverSummaries
      plan.sessionId).map MemoryItem.id).Nodup :=
    (s.applySessionPlan draw plan).wellFormed.unique.sublist (List.filter_sublist.map _)
  unfold Store.summaryDedupPending
  rw [decide_eq_false_iff_not, not_lt]
  generalize (s.applySessionPlan draw plan).memories.store.activeObserverSummaries
    plan.sessionId = rows at hwinner hnodup
  rcases rows with _ | ⟨first, _ | ⟨second, rest⟩⟩
  · simp
  · simp
  · have heq : first.id = second.id :=
      (hwinner first (by simp)).trans (hwinner second (by simp)).symm
    simp [heq] at hnodup

end Codemem
