import Codemem.Foundation.Trace
import Codemem.Replication.SnapshotPrivacy
import Codemem.Store.Identity
import Codemem.Store.OwnershipRecovery
import Codemem.Sync.Retraction

/-!
# Recovered copies are made once and stay local

A commit that makes copies finds no receipt of its operation and leaves one, so an operation makes
copies once.  The copies stand behind the rows that were there, one for each requested memory, with
the entity ids that were drawn for them, and a row in the local default scope is sent to nobody.
-/

namespace Codemem

inductive RecoveryCall where
  | preview (ctx : RecoveryContext) (body : RecoveryBody)
  | commit (ctx : RecoveryContext) (body : RecoveryBody)

/-- The entity id that a call draws for the copy of a memory. -/
def RecoveryCall.allocate : RecoveryCall → ℕ → Option String
  | .preview _ _, _ => none
  | .commit ctx _, memoryId => ctx.allocate memoryId

/-- The tables after a call; a call that throws is rolled back. -/
def recoveryStep (db : RecoveryDb) : RecoveryCall → RecoveryDb
  | .preview _ _ => db
  | .commit ctx body =>
    match commitMemoryOwnershipRecovery ctx db body with
    | .ok made => made.1
    | .error _ => db

/-- The operation under which a call makes copies. -/
def createdOperation (db : RecoveryDb) : RecoveryCall → Option String
  | .preview _ _ => none
  | .commit ctx body =>
    match commitMemoryOwnershipRecovery ctx db body with
    | .ok made => if made.2.idempotent then none else some made.2.operationId
    | .error _ => none

/-- The operations under which a run makes copies, once for each commit that does. -/
def createdOperations : RecoveryDb → List RecoveryCall → List String
  | _, [] => []
  | db, call :: calls =>
    (createdOperation db call).toList ++ createdOperations (recoveryStep db call) calls

/-- Random entity ids do not repeat: those of a call differ from each other, from those of the
calls behind it and from the import keys that are stored. -/
structure DrawsDiffer (db : RecoveryDb) (calls : List RecoveryCall) : Prop where
  stored : ∀ call ∈ calls, ∀ id, ∀ key ∈ call.allocate id, ∀ row ∈ db.store.memoryItems,
    row.importKey ≠ some key
  within : ∀ call ∈ calls, ∀ id id', (call.allocate id).isSome = true →
    call.allocate id = call.allocate id' → id = id'
  between : calls.Pairwise fun call call' => ∀ id id', (call.allocate id).isSome = true →
    call.allocate id ≠ call'.allocate id'

/-- No read path sends a memory: the ops that are logged for it have its scope, the filter lets no
such op through, and no item of a page is made from its row. -/
structure NotSent (st : Store) (row : MemoryItem) : Prop where
  logged : ∀ ctx opts, opts.memoryId = row.id → opts.scopeId = none →
    (loggedOp ctx st opts).scopeId = row.scopeId
  filtered : ∀ rt st' ops peerDeviceId options,
    ∀ op ∈ (filterReplicationOpsForSyncWithStatus rt st' ops peerDeviceId options).1,
      op.entityType = .memoryItem → op.opType ≠ .accessCleanup → op.opType ≠ .reassignScope →
        op.scopeId ≠ row.scopeId
  paged : ∀ ctx options fuel st' result,
    loadMemorySnapshotPageForPeer ctx st options fuel = (st', some (.ok result)) →
      ∀ item ∈ result.items, ∃ other : SnapshotScanRow, other.1 ∈ st.memoryItems ∧
        other.1.scopeId ≠ row.scopeId ∧ snapshotItemForPeer ctx st' options other = some item

/-- A copy has the entity id drawn for it, stays in the local default scope, and is private where
the original says so anywhere. -/
structure CopyOf (ctx : RecoveryContext) (original copy : MemoryItem) : Prop where
  importKey : copy.importKey = ctx.allocate original.id
  allocated : copy.importKey.isSome = true
  scopeId : copy.scopeId = some defaultSyncScopeId
  visibility : saysPrivate ctx.runtime original = true → copy.visibility = some "private"

/-- A commit makes one copy of each requested memory, in the state that was reviewed, and changes
no row. -/
structure MakesCopies (s : RecoveryDb) (ctx : RecoveryContext) (body : RecoveryBody)
    (operationId : String) (copies : List MemoryItem) (s' : RecoveryDb) : Prop where
  request : ∃ ids digest, commitRequest body = .ok (ids, operationId, digest) ∧
    ids.Nodup ∧ (∀ id : ℕ, id ∈ ids ↔ some (id : ℚ) ∈ body.memoryIds.getD []) ∧
    (previewMemoryOwnershipRecovery ctx s body).map Prod.snd = .ok digest ∧
    List.Forall₂ (fun id copy => ∃ original, s.store.memoryById id = some original ∧
      CopyOf ctx original copy) ids copies
  rows : s'.store.memoryItems = s.store.memoryItems ++ copies
  ops : s'.store.replicationOps = s.store.replicationOps
  fresh : ∀ copy ∈ copies, ∀ row ∈ s.store.memoryItems, row.importKey ≠ copy.importKey
  distinct : (copies.map MemoryItem.importKey).Nodup

/-- A call makes no copy and changes nothing, or makes copies that are not sent from any store in
which they still have their scope. -/
def RecoversLocally (s : RecoveryDb) (call : RecoveryCall) : Prop :=
  match createdOperation s call with
  | none => recoveryStep s call = s
  | some operationId => ∃ ctx body copies, call = .commit ctx body ∧
      MakesCopies s ctx body operationId copies (recoveryStep s call) ∧
      ∀ copy ∈ copies, ∀ later : Store, ∀ row, later.memoryById copy.id = some row →
        row.scopeId = copy.scopeId → NotSent later row

/-! ### Emission -/

section Emission

variable {st : Store} {row : MemoryItem}

lemma notSent_of_scopeId (hrow : st.memoryById row.id = some row)
    (hscope : row.scopeId = some defaultSyncScopeId) : NotSent st row where
  logged := by
    intro ctx opts hid hopts
    have hclean : cleanText (some defaultSyncScopeId) = some defaultSyncScopeId := by decide
    have hrecorded : (recordedScope ctx st opts).1 = some defaultSyncScopeId := by
      unfold recordedScope ensureMemoryScopeId
      rw [hopts, hid]
      dsimp only
      rw [hrow]
      dsimp only
      rw [hscope, hclean]
    unfold loggedOp recordedOp
    rw [hrecorded, hscope]
  filtered := by
    intro rt st' ops peerDeviceId options op hop htype hcleanup hreassign hop'
    obtain ⟨-, hpasses⟩ := mem_filterReplicationOps_iff.mp hop
    have hclean : cleanText op.scopeId = some defaultSyncScopeId := by
      rw [hop', hscope]
      decide
    have hregular : regularOpRejection rt st' op peerDeviceId options ≠ none := by
      unfold regularOpRejection
      rw [hclean, if_pos (.inr rfl)]
      exact Option.some_ne_none _
    unfold outboundRejection at hpasses
    by_cases hblocked : retirementBlocksMemoryOp st' op = true
    · rw [if_pos hblocked] at hpasses
      cases hpasses
    rw [if_neg hblocked, if_neg (not_not.mpr htype)] at hpasses
    cases hopType : op.opType with
    | accessCleanup => exact hcleanup hopType
    | reassignScope => exact hreassign hopType
    | upsert => exact hregular (by rwa [hopType] at hpasses)
    | delete => exact hregular (by rwa [hopType] at hpasses)
    | other name => exact hregular (by rwa [hopType] at hpasses)
  paged := by
    intro ctx options fuel st' result hpage item hitem
    obtain ⟨other, hother, hotherScope, hsent⟩ :=
      loadMemorySnapshotPageForPeer_items hpage item hitem
    have hframe := loadMemorySnapshotPageForPeer_frame ctx st options fuel
    rw [hpage] at hframe
    obtain ⟨boundaries, legacyBoundary, cursors, legacyCursors, hframe⟩ := hframe
    dsimp only at hframe
    refine ⟨other, by rwa [hframe] at hother, fun hsame => ?_, hsent⟩
    have hdefault : normalizeSyncStateScopeId (options.scopeId.getD none) = defaultSyncScopeId :=
      Option.some.inj (hotherScope.symm.trans (hsame.trans hscope))
    rw [items_of_defaultScope hdefault hpage] at hitem
    cases hitem

end Emission

/-! ### One commit -/

section Commit

variable {ctx : RecoveryContext} {st : Store}

lemma some_of_recoveryMemoryId {entry : Option ℚ} {id : ℕ} (h : recoveryMemoryId entry = .ok id) :
    some (id : ℚ) = entry := by
  cases entry with
  | none => cases h
  | some number =>
    obtain ⟨_, hguard, h⟩ := exists_of_bind_eq_ok h
    have hguard := not_of_rejectIf_eq_ok hguard
    push Not at hguard
    obtain rfl := Except.ok.inj h
    have hnum : ((number.num.toNat : ℕ) : ℤ) = number.num :=
      Int.toNat_of_nonneg (Rat.num_nonneg.mpr hguard.2.1.le)
    refine congrArg some ?_
    rw [← Int.cast_natCast, hnum]
    exact Rat.coe_int_num_of_den_eq_one hguard.1

lemma recoveryRequest_of_commitRequest {body : RecoveryBody} {ids : List ℕ}
    {operationId digest : String} (h : commitRequest body = .ok (ids, operationId, digest)) :
    recoveryRequest body = .ok ids := by
  obtain ⟨found, hfound, h⟩ := exists_of_bind_eq_ok h
  split at h
  · obtain ⟨_, -, h⟩ := exists_of_bind_eq_ok h
    obtain ⟨rfl, -⟩ := Prod.mk.inj (Except.ok.inj h)
    exact hfound
  · cases h

lemma recoveryRequest_spec {body : RecoveryBody} {ids : List ℕ}
    (h : recoveryRequest body = .ok ids) : ids.Nodup ∧ ids.Pairwise (· ≤ ·) ∧
      ∀ id : ℕ, id ∈ ids ↔ some (id : ℚ) ∈ body.memoryIds.getD [] := by
  unfold recoveryRequest at h
  obtain ⟨_, -, h⟩ := exists_of_bind_eq_ok h
  obtain ⟨parsed, hparsed, h⟩ := exists_of_bind_eq_ok h
  obtain rfl := Except.ok.inj h
  have hentries : parsed.map (fun id : ℕ => some (id : ℚ)) = (body.memoryIds.getD []).map id :=
    map_eq_of_mapM (fun _ _ hok => some_of_recoveryMemoryId hok) hparsed
  rw [List.map_id] at hentries
  refine ⟨(List.perm_insertionSort _ _).nodup_iff.mpr (List.nodup_dedup parsed),
    List.pairwise_insertionSort _ _, fun id => ?_⟩
  rw [(List.perm_insertionSort _ _).mem_iff, List.mem_dedup, ← hentries]
  exact (List.mem_map_of_injective fun _ _ heq => Nat.cast_injective (Option.some.inj heq)).symm

lemma previewState_spec (hids : st.UniqueIds) {ids : List ℕ} (hsorted : ids.Pairwise (· ≤ ·))
    {rows : List MemoryItem} {digest : String}
    (h : previewState ctx st ids = .ok (rows, digest)) :
    rows.map MemoryItem.id = ids ∧ ∀ row ∈ rows, ∃ original project,
      st.memoryById row.id = some original ∧ row = { original with project := project } := by
  unfold previewState at h
  obtain ⟨found, hfound, h⟩ := exists_of_bind_eq_ok h
  obtain ⟨_, -, h⟩ := exists_of_bind_eq_ok h
  obtain ⟨rfl, -⟩ := Prod.mk.inj (Except.ok.inj h)
  unfold readableRows at hfound
  obtain ⟨_, hlength, hfound⟩ := exists_of_bind_eq_ok hfound
  obtain rfl := Except.ok.inj hfound
  have hlength := not_not.mp (not_of_rejectIf_eq_ok hlength)
  have hperm := List.perm_insertionSort (fun row row' : MemoryItem => row.id ≤ row'.id)
    (st.memoryItems.filter (isReadable ctx st ids))
  constructor
  · rw [List.map_map]
    have hsub : (st.memoryItems.filter (isReadable ctx st ids)).map MemoryItem.id ⊆ ids := by
      intro id hid
      obtain ⟨row, hrow, rfl⟩ := List.mem_map.mp hid
      have hkept := (List.mem_filter.mp hrow).2
      simp only [isReadable, Bool.and_eq_true] at hkept
      exact List.contains_iff_mem.mp hkept.1.1.1
    have hfilter : ((st.memoryItems.filter (isReadable ctx st ids)).map MemoryItem.id).Nodup :=
      (List.filter_sublist.map MemoryItem.id).nodup hids
    have hsame := (List.subperm_of_subset hfilter hsub).perm_of_length_le (by
      rw [List.length_map, ← hlength, hperm.length_eq])
    refine ((hperm.map MemoryItem.id).trans hsame).eq_of_pairwise
      (fun _ _ _ _ => le_antisymm) ?_ hsorted
    exact List.pairwise_map.mpr (List.pairwise_insertionSort _ _)
  · intro row hrow
    obtain ⟨original, horiginal, rfl⟩ := List.mem_map.mp hrow
    have hstored := (List.mem_filter.mp (hperm.mem_iff.mp horiginal)).1
    exact ⟨original, _, hids.memoryById_of_mem hstored, rfl⟩

lemma exists_of_copyRow {operationId : String} {made made' : Store × List RecoveredCopy}
    {original : MemoryItem} (h : copyRow ctx operationId made original = .ok made') :
    ∃ copy, made'.1.memoryItems = made.1.memoryItems ++ [copy] ∧
      made'.1.replicationOps = made.1.replicationOps ∧
      copy.id = made.1.nextMemoryId ∧ CopyOf ctx original copy := by
  unfold copyRow at h
  cases hallocated : ctx.allocate original.id with
  | none =>
    rw [hallocated] at h
    cases h
  | some entityId =>
    rw [hallocated] at h
    obtain rfl := Except.ok.inj h
    exact ⟨_, rfl, rfl, rfl, hallocated.symm, rfl, rfl, fun hprivate => if_pos hprivate⟩

lemma exists_of_copyRows {operationId : String} {rows : List MemoryItem}
    {made made' : Store × List RecoveredCopy} (hids : made.1.UniqueIds)
    (h : rows.foldlM (copyRow ctx operationId) made = .ok made') :
    made'.1.UniqueIds ∧ made'.1.replicationOps = made.1.replicationOps ∧
      ∃ copies, made'.1.memoryItems = made.1.memoryItems ++ copies ∧
        List.Forall₂ (CopyOf ctx) rows copies := by
  induction rows generalizing made with
  | nil =>
    obtain rfl := Except.ok.inj h
    exact ⟨hids, rfl, [], (List.append_nil _).symm, .nil⟩
  | cons original rows ih =>
    rw [List.foldlM_cons] at h
    obtain ⟨next, hnext, h⟩ := exists_of_bind_eq_ok h
    obtain ⟨copy, hrows, hops, hid, hcopy⟩ := exists_of_copyRow hnext
    obtain ⟨key, hkey⟩ := Option.isSome_iff_exists.mp hcopy.allocated
    have hids' := (RowsEffect.appended hrows hkey hid (.of_eq rfl)).uniqueIds hids
    obtain ⟨hids'', hops', copies, hitems, hcopies⟩ := ih hids' h
    refine ⟨hids'', hops'.trans hops, copy :: copies, ?_, .cons hcopy hcopies⟩
    rw [hitems, hrows, List.append_assoc, List.singleton_append]

lemma copies_spec {rows copies : List MemoryItem} (hcopies : List.Forall₂ (CopyOf ctx) rows copies)
    (hstored : ∀ row ∈ rows, ∃ original project,
      st.memoryById row.id = some original ∧ row = { original with project := project }) :
    copies.map MemoryItem.importKey = (rows.map MemoryItem.id).map ctx.allocate ∧
      (∀ copy ∈ copies, copy.importKey.isSome = true ∧ copy.scopeId = some defaultSyncScopeId) ∧
      List.Forall₂ (fun id copy => ∃ original, st.memoryById id = some original ∧
        CopyOf ctx original copy) (rows.map MemoryItem.id) copies := by
  induction hcopies with
  | nil => exact ⟨rfl, fun copy hmem => absurd hmem List.not_mem_nil, .nil⟩
  | @cons row copy rows copies hcopy _ ih =>
    obtain ⟨hkeys, hall, hforall⟩ := ih fun row hrow => hstored row (List.mem_cons_of_mem _ hrow)
    obtain ⟨original, project, hlookup, hrow⟩ := hstored row List.mem_cons_self
    have hcopy' : CopyOf ctx original copy := by
      rw [hrow] at hcopy
      exact ⟨hcopy.importKey, hcopy.allocated, hcopy.scopeId, hcopy.visibility⟩
    refine ⟨?_, List.forall_mem_cons.mpr ⟨⟨hcopy.allocated, hcopy.scopeId⟩, hall⟩,
      .cons ⟨original, hlookup, hcopy'⟩ hforall⟩
    rw [List.map_cons, List.map_cons, List.map_cons, hcopy.importKey, hkeys]

/-- The receipt that a commit leaves. -/
def madeReceipt (ctx : RecoveryContext) (ids : List ℕ) (operationId digest : String)
    (copies : List RecoveredCopy) : RecoveryReceipt :=
  ⟨operationId, ctx.actorId, ctx.deviceId, ids, digest, ⟨operationId, false, copies⟩⟩

lemma commit_spec {db db' : RecoveryDb} {body : RecoveryBody} {result : RecoveryResult}
    (h : commitMemoryOwnershipRecovery ctx db body = .ok (db', result)) :
    ∃ ids operationId digest, commitRequest body = .ok (ids, operationId, digest) ∧
      ((∃ receipt, db.receipts.find? (fun receipt => receipt.operationId == operationId) =
            some receipt ∧ ¬receipt.conflicts ctx ids digest ∧ db' = db ∧
            result = { receipt.result with idempotent := true }) ∨
        db.receipts.find? (fun receipt => receipt.operationId == operationId) = none ∧
          ∃ rows made, previewState ctx db.store ids = .ok (rows, digest) ∧
            rows.foldlM (copyRow ctx operationId) (db.store, []) = .ok made ∧
            db' = ⟨made.1, db.receipts ++ [madeReceipt ctx ids operationId digest made.2]⟩ ∧
            result = ⟨operationId, false, made.2⟩) := by
  unfold commitMemoryOwnershipRecovery at h
  obtain ⟨⟨ids, operationId, digest⟩, hrequest, h⟩ := exists_of_bind_eq_ok h
  refine ⟨ids, operationId, digest, hrequest, ?_⟩
  dsimp only at h
  cases hreceipt : db.receipts.find? fun receipt => receipt.operationId == operationId with
  | some receipt =>
    rw [hreceipt] at h
    obtain ⟨_, hconflicts, h⟩ := exists_of_bind_eq_ok h
    obtain ⟨_, -, h⟩ := exists_of_bind_eq_ok h
    obtain ⟨rfl, rfl⟩ := Prod.mk.inj (Except.ok.inj h)
    exact .inl ⟨receipt, rfl, not_of_rejectIf_eq_ok hconflicts, rfl, rfl⟩
  | none =>
    rw [hreceipt] at h
    obtain ⟨current, hcurrent, h⟩ := exists_of_bind_eq_ok h
    obtain ⟨_, hstale, h⟩ := exists_of_bind_eq_ok h
    obtain ⟨made, hmade, h⟩ := exists_of_bind_eq_ok h
    obtain rfl := not_not.mp (not_of_rejectIf_eq_ok hstale)
    obtain ⟨rfl, rfl⟩ := Prod.mk.inj (Except.ok.inj h)
    exact .inr ⟨rfl, current.1, made, hcurrent, hmade, rfl, rfl⟩

/-- What a commit that makes copies finds and leaves. -/
structure Commits (db : RecoveryDb) (ctx : RecoveryContext) (body : RecoveryBody)
    (operationId : String) (db' : RecoveryDb) : Prop where
  unknown : ∀ receipt ∈ db.receipts, receipt.operationId ≠ operationId
  receipts : db.receipts <+: db'.receipts
  known : ∃ receipt ∈ db'.receipts, receipt.operationId = operationId
  made : ∃ ids digest rows made, commitRequest body = .ok (ids, operationId, digest) ∧
    previewState ctx db.store ids = .ok (rows, digest) ∧
    rows.foldlM (copyRow ctx operationId) (db.store, []) = .ok made ∧ db'.store = made.1

lemma recoveryStep_spec (db : RecoveryDb) (call : RecoveryCall) :
    createdOperation db call = none ∧ recoveryStep db call = db ∨
      ∃ ctx body operationId, call = .commit ctx body ∧
        createdOperation db call = some operationId ∧
        Commits db ctx body operationId (recoveryStep db call) := by
  cases call with
  | preview ctx body => exact .inl ⟨rfl, rfl⟩
  | commit ctx body =>
    simp only [createdOperation, recoveryStep]
    cases hcommit : commitMemoryOwnershipRecovery ctx db body with
    | error message => exact .inl ⟨rfl, rfl⟩
    | ok result =>
      obtain ⟨ids, operationId, digest, hrequest, ⟨receipt, -, -, hdb, hresult⟩ |
        ⟨hnone, rows, made, hpreview, hmade, hdb, hresult⟩⟩ := commit_spec hcommit
      · -- the replay of an operation
        dsimp only
        rw [hdb, hresult]
        exact .inl ⟨rfl, rfl⟩
      · dsimp only
        rw [hdb, hresult]
        refine .inr ⟨ctx, body, operationId, rfl, rfl, fun known hknown heq => ?_,
          List.prefix_append _ _, ⟨_, List.mem_append_right _ (List.mem_singleton_self _), rfl⟩,
          ids, digest, rows, made, hrequest, hpreview, hmade, rfl⟩
        exact List.find?_eq_none.mp hnone known hknown (beq_iff_eq.mpr heq)

/-- The copies of a commit, where the entity ids of the call do not repeat. -/
lemma Commits.makesCopies {db db' : RecoveryDb} {body : RecoveryBody} {operationId : String}
    (h : Commits db ctx body operationId db') (hids : db.store.UniqueIds)
    (hstored : ∀ id, ∀ key ∈ ctx.allocate id, ∀ row ∈ db.store.memoryItems,
      row.importKey ≠ some key)
    (hwithin : ∀ id id', (ctx.allocate id).isSome = true →
      ctx.allocate id = ctx.allocate id' → id = id') :
    db'.store.UniqueIds ∧ ∃ copies, MakesCopies db ctx body operationId copies db' ∧
      ∀ copy ∈ copies, copy.scopeId = some defaultSyncScopeId ∧
        ∃ id, copy.importKey = ctx.allocate id ∧ (ctx.allocate id).isSome = true := by
  obtain ⟨ids, digest, rows, made, hrequest, hpreview, hmade, hstore⟩ := h.made
  have hparsed := recoveryRequest_of_commitRequest hrequest
  obtain ⟨hnodup, hsorted, hmem⟩ := recoveryRequest_spec hparsed
  obtain ⟨rfl, horiginals⟩ := previewState_spec hids hsorted hpreview
  obtain ⟨hids', hops, copies, hitems, hcopies⟩ := exists_of_copyRows hids hmade
  obtain ⟨hkeys, hlocal, hforall⟩ := copies_spec hcopies horiginals
  have hdrawn : ∀ copy ∈ copies, ∃ id, copy.importKey = ctx.allocate id := by
    intro copy hcopy
    have hkey := List.mem_map_of_mem (f := MemoryItem.importKey) hcopy
    rw [hkeys] at hkey
    obtain ⟨id, -, hid⟩ := List.mem_map.mp hkey
    exact ⟨id, hid.symm⟩
  rw [← hstore] at hids' hops hitems
  refine ⟨hids', copies, ⟨⟨_, digest, hrequest, hnodup, hmem, ?_, hforall⟩, hitems, hops, ?_, ?_⟩,
    fun copy hcopy => ?_⟩
  · unfold previewMemoryOwnershipRecovery
    rw [hparsed, bind_ok, hpreview]
    rfl
  · intro copy hcopy row hrow heq
    obtain ⟨id, hid⟩ := hdrawn copy hcopy
    obtain ⟨key, hkey⟩ := Option.isSome_iff_exists.mp (hlocal copy hcopy).1
    exact hstored id key (hid.symm.trans hkey) row hrow (heq.trans hkey)
  · rw [hkeys]
    refine (List.nodup_map_iff_inj_on hnodup).mpr fun id hid id' _ heq => ?_
    refine hwithin id id' ?_ heq
    have hkey := List.mem_map_of_mem (f := ctx.allocate) hid
    rw [← hkeys] at hkey
    obtain ⟨copy, hcopy, hcopyKey⟩ := List.mem_map.mp hkey
    rw [← hcopyKey]
    exact (hlocal copy hcopy).1
  · obtain ⟨id, hid⟩ := hdrawn copy hcopy
    exact ⟨(hlocal copy hcopy).2, id, hid, hid ▸ (hlocal copy hcopy).1⟩

end Commit

/-! ### Runs -/

section Runs

variable {db : RecoveryDb} {call : RecoveryCall} {calls : List RecoveryCall}

lemma recoveryStep_recoversLocally (hids : db.store.UniqueIds)
    (hdraws : DrawsDiffer db (call :: calls)) :
    (recoveryStep db call).store.UniqueIds ∧ DrawsDiffer (recoveryStep db call) calls ∧
      RecoversLocally db call := by
  have hwithin := List.forall_mem_cons.mp hdraws.within
  have hstored := List.forall_mem_cons.mp hdraws.stored
  obtain ⟨hbetween, hbetween'⟩ := List.pairwise_cons.mp hdraws.between
  unfold RecoversLocally
  rcases recoveryStep_spec db call with
    ⟨hcreated, hsame⟩ | ⟨ctx, body, operationId, rfl, hcreated, hcommits⟩
  · rw [hcreated, hsame]
    exact ⟨hids, ⟨hstored.2, hwithin.2, hbetween'⟩, rfl⟩
  · obtain ⟨hids', copies, hcopies, hdrawn⟩ :=
      hcommits.makesCopies hids hstored.1 hwithin.1
    rw [hcreated]
    refine ⟨hids', ⟨fun later hlater id key hkey row hrow hrowKey => ?_, hwithin.2, hbetween'⟩,
      ctx, body, copies, rfl, hcopies, fun copy hcopy later row hrow hscope => ?_⟩
    · rw [hcopies.rows] at hrow
      rcases List.mem_append.mp hrow with hrow | hrow
      · exact hstored.2 later hlater id key hkey row hrow hrowKey
      · obtain ⟨-, id', hid', hsome⟩ := hdrawn row hrow
        exact hbetween later hlater id' id hsome (hid'.symm.trans (hrowKey.trans hkey.symm))
    · have hid := (Store.memoryById_eq_some hrow).2
      exact notSent_of_scopeId (hid ▸ hrow) (hscope.trans (hdrawn copy hcopy).1)

lemma operationId_ne_of_mem_createdOperations {operationId : String}
    (h : operationId ∈ createdOperations db calls) :
    ∀ receipt ∈ db.receipts, receipt.operationId ≠ operationId := by
  induction calls generalizing db with
  | nil => cases h
  | cons call calls ih =>
    unfold createdOperations at h
    rcases recoveryStep_spec db call with
      ⟨hcreated, hsame⟩ | ⟨ctx, body, created, -, hcreated, hcommits⟩
    · rw [hcreated, hsame] at h
      exact ih h
    · rw [hcreated] at h
      rcases List.mem_cons.mp h with rfl | h
      · exact hcommits.unknown
      · exact fun receipt hreceipt => ih h receipt (hcommits.receipts.subset hreceipt)

lemma nodup_createdOperations : (createdOperations db calls).Nodup := by
  induction calls generalizing db with
  | nil => exact List.nodup_nil
  | cons call calls ih =>
    unfold createdOperations
    rcases recoveryStep_spec db call with
      ⟨hcreated, -⟩ | ⟨ctx, body, created, -, hcreated, hcommits⟩
    · rw [hcreated]
      exact ih
    · rw [hcreated]
      obtain ⟨receipt, hreceipt, hid⟩ := hcommits.known
      exact List.nodup_cons.mpr
        ⟨fun hmem => operationId_ne_of_mem_createdOperations hmem receipt hreceipt hid, ih⟩

lemma stepsMeet_recoversLocally (hids : db.store.UniqueIds) (hdraws : DrawsDiffer db calls) :
    StepsMeet recoveryStep RecoversLocally db calls := by
  induction calls generalizing db with
  | nil => trivial
  | cons call calls ih =>
    obtain ⟨hids', hdraws', hlocal⟩ := recoveryStep_recoversLocally hids hdraws
    exact ⟨hlocal, ih hids' hdraws'⟩

end Runs

/-- In every run of previews and commits, an operation makes copies at most once, and a call that
makes copies makes one for each requested memory in the reviewed state, changes no row, and leaves
copies that are private where their originals are and are sent to nobody. -/
theorem recoveredCopies_protocol (db : RecoveryDb) (calls : List RecoveryCall)
    (hids : db.store.UniqueIds) (hdraws : DrawsDiffer db calls) :
    (createdOperations db calls).Nodup ∧ StepsMeet recoveryStep RecoversLocally db calls :=
  ⟨nodup_createdOperations, stepsMeet_recoversLocally hids hdraws⟩

/-- The device `dev`, which draws one entity id for the memory 1. -/
def sampleRecoverer (entityId : String) : RecoveryContext :=
  { sampleMover with
    syncDeviceId := some "dev"
    hasCurrentConfiguredIdentity := true
    allocate := fun memoryId => if memoryId = 1 then some entityId else none
    redactRow := id
    digest := fun _ _ _ _ _ => String.ofList (List.replicate 64 '0') }

/-- A request for a copy of the memory 1. -/
def sampleRecovery : RecoveryBody where
  version := some 1
  memoryIds := some [some 1, some 1]
  operationId := some "recovery-2026-01"
  reviewedDigest := some ("ownership-recovery-v1:" ++ String.ofList (List.replicate 64 '0'))
  acknowledgeOriginalsRetained := true

/-- The same commit twice makes its copy once. -/
theorem recoveredCopies_protocol_replay :
    let db : RecoveryDb := ⟨sampleSharedStore (some "m1"), []⟩
    let calls : List RecoveryCall := [.preview (sampleRecoverer "c1") sampleRecovery,
      .commit (sampleRecoverer "c1") sampleRecovery, .commit (sampleRecoverer "c2") sampleRecovery]
    createdOperations db calls = ["recovery-2026-01"] ∧
      (createdOperations db calls).Nodup ∧ StepsMeet recoveryStep RecoversLocally db calls := by
  refine ⟨by decide, recoveredCopies_protocol _ _ (List.nodup_singleton 1) ⟨?_, ?_, ?_⟩⟩
  · simp [RecoveryCall.allocate, sampleRecoverer, sampleSharedStore]
  · simp only [List.forall_mem_cons, RecoveryCall.allocate, sampleRecoverer]
    grind
  · simp only [List.pairwise_cons, List.forall_mem_cons, RecoveryCall.allocate, sampleRecoverer]
    grind

/-! ### Replays -/

section Replays

variable {ctx ctx' : RecoveryContext} {db first later : RecoveryDb} {body body' : RecoveryBody}
  {result result' : RecoveryResult}

lemma commit_receipt (h : commitMemoryOwnershipRecovery ctx db body = .ok (first, result)) :
    ∃ ids operationId digest receipt, commitRequest body = .ok (ids, operationId, digest) ∧
      ¬receipt.conflicts ctx ids digest ∧
      first.receipts.find? (fun receipt => receipt.operationId == operationId) = some receipt ∧
      { result with idempotent := true } = { receipt.result with idempotent := true } := by
  obtain ⟨ids, operationId, digest, hrequest, ⟨receipt, hfound, hagrees, rfl, rfl⟩ |
    ⟨hnone, rows, made, -, -, rfl, rfl⟩⟩ := commit_spec h
  · exact ⟨ids, operationId, digest, receipt, hrequest, hagrees, hfound, rfl⟩
  · refine ⟨ids, operationId, digest, madeReceipt ctx ids operationId digest made.2, hrequest,
      ?_, ?_, rfl⟩
    · rintro (h | h | h | h) <;> exact h rfl
    · rw [List.find?_append, hnone]
      simp [madeReceipt]

lemma find?_receipts_of_run {p : RecoveryReceipt → Bool} {receipt : RecoveryReceipt}
    (h : db.receipts.find? p = some receipt) (calls : List RecoveryCall) :
    (calls.foldl recoveryStep db).receipts.find? p = some receipt := by
  induction calls generalizing db with
  | nil => exact h
  | cons call calls ih =>
    rw [List.foldl_cons]
    apply ih
    rcases recoveryStep_spec db call with ⟨-, hsame⟩ | ⟨_, _, _, -, -, hcommits⟩
    · rwa [hsame]
    · obtain ⟨added, hadded⟩ := hcommits.receipts
      rw [← hadded, List.find?_append, h]
      rfl

lemma operationId_of_commitRequest {ids : List ℕ} {operationId digest : String}
    (h : commitRequest body = .ok (ids, operationId, digest)) :
    body.operationId = some operationId := by
  obtain ⟨_, -, h⟩ := exists_of_bind_eq_ok h
  split at h
  · rename_i hoperation _
    obtain ⟨_, -, h⟩ := exists_of_bind_eq_ok h
    obtain ⟨-, rfl, -⟩ := Prod.mk.inj (Except.ok.inj h)
    exact hoperation
  · cases h

/-- Whatever calls lie between, a commit of an operation that has been carried out is of the same
request, actor and device, changes nothing and returns the result of the first one. -/
theorem recoveredCopies_replayed (calls : List RecoveryCall)
    (h : commitMemoryOwnershipRecovery ctx db body = .ok (first, result))
    (hoperation : body'.operationId = body.operationId)
    (h' : commitMemoryOwnershipRecovery ctx' (calls.foldl recoveryStep first) body' =
      .ok (later, result')) :
    later = calls.foldl recoveryStep first ∧ result' = { result with idempotent := true } ∧
      commitRequest body' = commitRequest body ∧ ctx'.actorId = ctx.actorId ∧
      ctx'.deviceId = ctx.deviceId := by
  obtain ⟨ids, operationId, digest, receipt, hrequest, hagrees, hfound, hresult⟩ :=
    commit_receipt h
  obtain ⟨ids', operationId', digest', hrequest', hcases⟩ := commit_spec h'
  have hid := operationId_of_commitRequest hrequest
  rw [← hoperation, operationId_of_commitRequest hrequest'] at hid
  obtain rfl := Option.some.inj hid
  have hknown := find?_receipts_of_run hfound calls
  rw [hknown] at hcases
  rcases hcases with ⟨_, hreceipt, hagrees', hlater, hresult'⟩ | ⟨hnone, -⟩
  · obtain rfl := Option.some.inj hreceipt
    unfold RecoveryReceipt.conflicts at hagrees hagrees'
    push Not at hagrees hagrees'
    obtain ⟨hactor, hdevice, hids, hdigest⟩ := hagrees
    obtain ⟨hactor', hdevice', hids', hdigest'⟩ := hagrees'
    refine ⟨hlater, hresult'.trans hresult.symm, ?_, hactor'.symm.trans hactor,
      hdevice'.symm.trans hdevice⟩
    rw [hrequest, hrequest', ← hids, ← hids', ← hdigest, ← hdigest']
  · cases hnone

end Replays

/-- The second commit of the operation, with another id drawn, returns the copy of the first. -/
theorem recoveredCopies_replayed_sample :
    ∃ first result later result',
      commitMemoryOwnershipRecovery (sampleRecoverer "c1") ⟨sampleSharedStore (some "m1"), []⟩
        sampleRecovery = .ok (first, result) ∧
      commitMemoryOwnershipRecovery (sampleRecoverer "c2") first sampleRecovery =
        .ok (later, result') ∧ later = first ∧ result' = { result with idempotent := true } := by
  let made := commitMemoryOwnershipRecovery (sampleRecoverer "c1")
    ⟨sampleSharedStore (some "m1"), []⟩ sampleRecovery
  have hok : ∀ first result, made = .ok (first, result) →
      (commitMemoryOwnershipRecovery (sampleRecoverer "c2") first sampleRecovery).isOk = true := by
    intro first result hmade
    have hagain : (made.bind fun made => commitMemoryOwnershipRecovery (sampleRecoverer "c2") made.1
      sampleRecovery).isOk = true := by decide
    rwa [hmade] at hagain
  obtain ⟨⟨first, result⟩, hmade⟩ := exists_of_isOk (show made.isOk = true by decide)
  obtain ⟨⟨later, result'⟩, hagain⟩ := exists_of_isOk (hok first result hmade)
  obtain ⟨hlater, hresult, -⟩ := recoveredCopies_replayed [] hmade rfl hagain
  exact ⟨first, result, later, result', hmade, hagain, hlater, hresult⟩

end Codemem
