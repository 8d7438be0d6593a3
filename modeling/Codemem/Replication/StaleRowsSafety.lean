import Codemem.Replication.StaleRows
import Codemem.Replication.VectorWork
import Codemem.Store.Identity

/-!
# Safety of the cleanup of stale rows

The decision for a row reads tables that a cleanup does not write, and whether some row of an import
key still matches its creation record.  A matching row keeps every row of its key, itself included,
so removals never change that answer (`hasMatchingLocalCreation_kept`).  The loop therefore makes
every decision as on the store it started from (`CleanupStep.visit`): a dry run reports what a real
run removes, and what is removed has none of the marks that keep a row.
-/

namespace Codemem

variable {ev : CreationEvidence} {st st' : Store} {localDeviceId : String} {sources : List String}
variable {row : MemoryItem} {cache : AuthorizationByScope}

/-- The tables that decide about a row agree, but for the memories themselves. -/
structure CleanupFrame (st st' : Store) : Prop where
  membership : SameMembership st st'
  bindings : st'.memorySourceBindings = st.memorySourceBindings
  revisions : st'.memoryForeignRevisions = st.memoryForeignRevisions

lemma CleanupFrame.refl (st : Store) : CleanupFrame st st := ⟨⟨rfl, rfl, rfl⟩, rfl, rfl⟩

lemma CleanupFrame.deleteCandidateRow (h : CleanupFrame st st') (memoryId : ℕ)
    (cursor : Option (String × String)) :
    CleanupFrame st (Codemem.deleteCandidateRow st' memoryId cursor) := by
  obtain ⟨⟨hscopes, hmemberships, hoverlays⟩, hbindings, hrevisions⟩ := h
  unfold Codemem.deleteCandidateRow
  cases cursor with
  | none => exact ⟨⟨hscopes, hmemberships, hoverlays⟩, hbindings, hrevisions⟩
  | some cursor =>
    dsimp only
    split_ifs <;> exact ⟨⟨hscopes, hmemberships, hoverlays⟩, hbindings, hrevisions⟩

lemma deleteCandidateRow_memoryItems (st : Store) (memoryId : ℕ)
    (cursor : Option (String × String)) :
    (deleteCandidateRow st memoryId cursor).memoryItems =
      st.memoryItems.filter fun row => !(row.id == memoryId) := by
  unfold deleteCandidateRow
  cases cursor with
  | none => rfl
  | some cursor =>
    dsimp only
    split_ifs <;> rfl

/-! ### Decisions on framed stores -/

lemma CleanupFrame.hasRecorded (h : CleanupFrame st st') :
    hasRecordedLocalCreation st' = hasRecordedLocalCreation st := by
  funext entityId
  rw [hasRecordedLocalCreation, h.bindings, hasRecordedLocalCreation]

lemma CleanupFrame.matching (h : CleanupFrame st st') (snapshots : List CreationSnapshot) :
    matchingLocalCreation ev st' snapshots = matchingLocalCreation ev st snapshots := by
  funext row
  simp only [matchingLocalCreation, creationKeyMatches, getVerifiedMemorySource, h.bindings,
    h.revisions]

lemma CleanupFrame.decision (h : CleanupFrame st st')
    (hmatch : ∀ key, cleanText row.importKey = some key →
      hasMatchingLocalCreation ev st' key sources = hasMatchingLocalCreation ev st key sources) :
    staleRowDecision ev st' localDeviceId sources cache row =
      staleRowDecision ev st localDeviceId sources cache row := by
  have hany : (cleanText row.importKey).any (hasMatchingLocalCreation ev st' · sources) =
      (cleanText row.importKey).any (hasMatchingLocalCreation ev st · sources) := by
    cases hkey : cleanText row.importKey with
    | none => rfl
    | some key => exact hmatch key hkey
  have hscope : legacyLocalRetentionScope st' row.scopeId =
      legacyLocalRetentionScope st row.scopeId := by
    unfold legacyLocalRetentionScope
    rw [h.membership.scopes]
  have hlocal : retainOrDiagnoseLocalRow ev st' row localDeviceId sources =
      retainOrDiagnoseLocalRow ev st row localDeviceId sources := by
    simp only [retainOrDiagnoseLocalRow, hany, h.hasRecorded, hscope]
  simp only [staleRowDecision, hlocal, cachedAuthorization,
    getCachedScopeAuthorization_congr h.membership, Store.membershipOf, h.membership.memberships]

def CacheCorrect (st : Store) (localDeviceId : String) (cache : AuthorizationByScope) : Prop :=
  ∀ entry ∈ cache, entry.2 = (getCachedScopeAuthorization st localDeviceId entry.1,
    st.membershipOf (trim localDeviceId) (trim entry.1))

lemma CacheCorrect.cachedAuthorization (h : CacheCorrect st localDeviceId cache)
    (scopeId : String) :
    (Codemem.cachedAuthorization st localDeviceId scopeId cache).1 =
      (getCachedScopeAuthorization st localDeviceId scopeId,
        st.membershipOf (trim localDeviceId) (trim scopeId)) ∧
    CacheCorrect st localDeviceId
      (Codemem.cachedAuthorization st localDeviceId scopeId cache).2 := by
  unfold Codemem.cachedAuthorization
  cases hfind : cache.find? fun entry => entry.1 == scopeId with
  | some entry =>
    have hmem := List.mem_of_find?_eq_some hfind
    have hscope : entry.1 = scopeId := by simpa using List.find?_some hfind
    refine ⟨?_, h⟩
    rw [← hscope]
    exact h entry hmem
  | none =>
    refine ⟨rfl, fun entry hentry => ?_⟩
    rcases List.mem_cons.mp hentry with rfl | hentry
    · rfl
    · exact h entry hentry

/-- The decision on a store without any authorization looked up. -/
def freshDecision (ev : CreationEvidence) (st : Store) (localDeviceId : String)
    (sources : List String) (row : MemoryItem) : StaleDecision :=
  (staleRowDecision ev st localDeviceId sources [] row).1

lemma CacheCorrect.decision (h : CacheCorrect st localDeviceId cache) (ev : CreationEvidence)
    (sources : List String) (row : MemoryItem) :
    (staleRowDecision ev st localDeviceId sources cache row).1 =
      freshDecision ev st localDeviceId sources row ∧
    CacheCorrect st localDeviceId
      (staleRowDecision ev st localDeviceId sources cache row).2 := by
  have hempty : CacheCorrect st localDeviceId [] := fun _ hentry => absurd hentry List.not_mem_nil
  unfold freshDecision staleRowDecision
  cases retainOrDiagnoseLocalRow ev st row localDeviceId sources with
  | some decision => exact ⟨rfl, h⟩
  | none =>
    cases cleanText row.originDeviceId with
    | none => exact ⟨rfl, h⟩
    | some origin =>
      cases cleanText row.scopeId with
      | none => exact ⟨rfl, h⟩
      | some scopeId =>
        dsimp only
        split_ifs
        · exact ⟨rfl, h⟩
        · exact ⟨rfl, h⟩
        · obtain ⟨hauth, hcache⟩ := h.cachedAuthorization scopeId
          obtain ⟨hfresh, -⟩ := hempty.cachedAuthorization scopeId
          rw [hauth, hfresh]
          exact ⟨rfl, hcache⟩

/-! ### What a removed row is not -/

/-- A row to be removed has no recorded creation, is not labelled as local, and its scope is not one
that this device is authorized for, unless it has no scope or the default one. -/
structure RemovableRow (st : Store) (localDeviceId : String) (row : MemoryItem) : Prop where
  unrecorded : (cleanText row.importKey).any (hasRecordedLocalCreation st) = false
  foreign : cleanText row.originDeviceId ≠ some localDeviceId
  notLegacy : cleanText row.originDeviceId ≠ some "local"
  unauthorized : ∀ scopeId, cleanText row.scopeId = some scopeId → scopeId ≠ defaultSyncScopeId →
    (getCachedScopeAuthorization st localDeviceId scopeId).authorized = false

lemma removableRow_of_delete {cursor : Option (String × String)}
    (h : freshDecision ev st localDeviceId sources row = .delete cursor) :
    RemovableRow st localDeviceId row := by
  unfold freshDecision staleRowDecision at h
  cases hlocal : retainOrDiagnoseLocalRow ev st row localDeviceId sources with
  | some decision =>
    rw [hlocal] at h
    dsimp only at h
    subst h
    simp only [retainOrDiagnoseLocalRow] at hlocal
    split_ifs at hlocal <;> simp at hlocal
  | none =>
    have hmarks : (cleanText row.importKey).any (hasRecordedLocalCreation st) = false ∧
        cleanText row.originDeviceId ≠ some localDeviceId ∧
          cleanText row.originDeviceId ≠ some "local" := by
      simp only [retainOrDiagnoseLocalRow] at hlocal
      split_ifs at hlocal with _ _ hforeign
      exact hforeign
    refine ⟨hmarks.1, hmarks.2.1, hmarks.2.2, fun scopeId hscope hne => ?_⟩
    rw [hlocal, hscope] at h
    cases horigin : cleanText row.originDeviceId with
    | none => simp [horigin] at h
    | some origin =>
      rw [horigin] at h
      dsimp only at h
      rw [if_neg hne] at h
      split_ifs at h
      simp only [cachedAuthorization, List.find?_nil, scopedRowDecision] at h
      by_contra hauth
      rw [Bool.not_eq_false] at hauth
      simp [hauth] at h

lemma freshDecision_of_matching {key : String} (hkey : cleanText row.importKey = some key)
    (h : hasMatchingLocalCreation ev st key sources = true) :
    freshDecision ev st localDeviceId sources row = .retain := by
  simp [freshDecision, staleRowDecision, retainOrDiagnoseLocalRow, hkey, h]

/-! ### The loop -/

/-- The state of the loop after some rows, against the store it started from. -/
structure CleanupStep (ev : CreationEvidence) (st : Store) (localDeviceId : String)
    (sources : List String) (deleteRows : Bool) (s : StaleCleanup) : Prop where
  frame : CleanupFrame st s.st
  cache : CacheCorrect st localDeviceId s.cache
  dry : deleteRows = false → s.st = st
  items : deleteRows = true → s.st.memoryItems =
    st.memoryItems.filter fun row => !s.result.deletedMemoryIds.contains row.id
  decided : ∀ id ∈ s.result.deletedMemoryIds, ∃ row ∈ st.memoryItems, row.id = id ∧
    ∃ cursor, freshDecision ev st localDeviceId sources row = .delete cursor

variable {deleteRows : Bool} {s : StaleCleanup}

/-- No removal changes whether some row of an import key matches its creation record. -/
lemma hasMatchingLocalCreation_kept (hids : st.UniqueIds)
    (h : CleanupStep ev st localDeviceId sources deleteRows s) {key : String}
    (hkey : cleanText (some key) = some key) :
    hasMatchingLocalCreation ev s.st key sources = hasMatchingLocalCreation ev st key sources := by
  cases deleteRows with
  | false => rw [h.dry rfl]
  | true =>
    cases hsnapshots : ev.snapshots with
    | none => simp [hasMatchingLocalCreation, hsnapshots]
    | some snapshots =>
      simp only [hasMatchingLocalCreation, hsnapshots, getVerifiedMemorySource, h.frame.bindings,
        h.frame.matching, h.items rfl]
      -- A matching row that was removed would have been retained.
      by_cases hany : st.memoryItems.any (fun row =>
          row.importKey == some key && matchingLocalCreation ev st snapshots row) = true
      · by_cases hsource : (!sources.isEmpty && (st.memorySourceBindings.find? fun b =>
            b.entityId == key).any fun binding => binding.evidence == .localCreation &&
              sources.contains binding.sourceDeviceId) = true
        · rw [hsource, hany, Bool.true_and, Bool.true_and]
          obtain ⟨row, hrow, hmatches⟩ := List.any_eq_true.mp hany
          refine List.any_eq_true.mpr ⟨row, List.mem_filter.mpr ⟨hrow, ?_⟩, hmatches⟩
          by_contra hremoved
          have hmem : row.id ∈ s.result.deletedMemoryIds := by simpa using hremoved
          obtain ⟨row', hrow', hid, cursor, hdelete⟩ := h.decided row.id hmem
          obtain rfl := hids.eq_of_id hrow' hrow hid
          have hrowKey : cleanText row'.importKey = some key := by
            rw [Bool.and_eq_true, beq_iff_eq] at hmatches
            rw [hmatches.1, hkey]
          have hmatching : hasMatchingLocalCreation ev st key sources = true := by
            simp only [hasMatchingLocalCreation, hsnapshots, getVerifiedMemorySource, hsource, hany,
              Bool.true_and]
          rw [freshDecision_of_matching hrowKey hmatching] at hdelete
          cases hdelete
        · rw [Bool.not_eq_true] at hsource
          rw [hsource, Bool.false_and, Bool.false_and]
      · rw [Bool.not_eq_true] at hany
        have hkept : ((st.memoryItems.filter fun row =>
            !s.result.deletedMemoryIds.contains row.id).any fun row =>
              row.importKey == some key && matchingLocalCreation ev st snapshots row) = false := by
          rw [List.any_eq_false] at hany ⊢
          exact fun row hrow => hany row (List.mem_of_mem_filter hrow)
        rw [hany, hkept]

lemma CleanupStep.visit (hids : st.UniqueIds)
    (h : CleanupStep ev st localDeviceId sources deleteRows s) (hrow : row ∈ st.memoryItems) :
    (s.visit ev localDeviceId sources deleteRows row).result =
      s.result.enter row (freshDecision ev st localDeviceId sources row) ∧
    CleanupStep ev st localDeviceId sources deleteRows
      (s.visit ev localDeviceId sources deleteRows row) := by
  have hsame : staleRowDecision ev s.st localDeviceId sources s.cache row =
      staleRowDecision ev st localDeviceId sources s.cache row :=
    h.frame.decision fun key hkey =>
      hasMatchingLocalCreation_kept hids h (cleanText_of_cleanText hkey)
  obtain ⟨hdecision, hcache⟩ := h.cache.decision ev sources row
  have hvisit : s.visit ev localDeviceId sources deleteRows row =
      ⟨(freshDecision ev st localDeviceId sources row).carryOut s.st deleteRows row,
        (staleRowDecision ev st localDeviceId sources s.cache row).2,
        s.result.enter row (freshDecision ev st localDeviceId sources row)⟩ := by
    rw [StaleCleanup.visit, hsame, ← hdecision]
  rw [hvisit]
  refine ⟨rfl, ?_⟩
  cases hfresh : freshDecision ev st localDeviceId sources row with
  | retain => exact ⟨h.frame, hcache, h.dry, h.items, h.decided⟩
  | report reason => exact ⟨h.frame, hcache, h.dry, h.items, h.decided⟩
  | delete cursor =>
    have hdecided : ∀ id ∈ s.result.deletedMemoryIds ++ [row.id], ∃ row ∈ st.memoryItems,
        row.id = id ∧ ∃ cursor, freshDecision ev st localDeviceId sources row = .delete cursor := by
      intro id hid
      rcases List.mem_append.mp hid with hid | hid
      · exact h.decided id hid
      · exact ⟨row, hrow, (List.mem_singleton.mp hid).symm, cursor, hfresh⟩
    cases deleteRows with
    | false => exact ⟨h.frame, hcache, h.dry, fun hd => absurd hd (by simp), hdecided⟩
    | true =>
      refine ⟨h.frame.deleteCandidateRow row.id cursor, hcache, fun hd => absurd hd (by simp),
        fun _ => ?_, hdecided⟩
      change (deleteCandidateRow s.st row.id cursor).memoryItems = _
      rw [deleteCandidateRow_memoryItems, h.items rfl, List.filter_filter]
      refine List.filter_congr fun r _ => ?_
      rw [Bool.eq_iff_iff]
      simp [StaleCleanupResult.enter, and_comm]

lemma CleanupStep.foldl (hids : st.UniqueIds)
    (h : CleanupStep ev st localDeviceId sources deleteRows s) {rows : List MemoryItem}
    (hrows : ∀ row ∈ rows, row ∈ st.memoryItems) :
    (rows.foldl (StaleCleanup.visit ev localDeviceId sources deleteRows) s).result =
      rows.foldl (fun result row =>
        result.enter row (freshDecision ev st localDeviceId sources row)) s.result ∧
    CleanupStep ev st localDeviceId sources deleteRows
      (rows.foldl (StaleCleanup.visit ev localDeviceId sources deleteRows) s) := by
  induction rows generalizing s with
  | nil => exact ⟨rfl, h⟩
  | cons row rows ih =>
    obtain ⟨hresult, hstep⟩ := h.visit hids (hrows row List.mem_cons_self)
    obtain ⟨hrest, hfinal⟩ := ih hstep fun r hr => hrows r (List.mem_cons_of_mem _ hr)
    rw [List.foldl_cons, List.foldl_cons, hrest, hresult]
    exact ⟨rfl, hfinal⟩

lemma mem_of_mem_stalePeerReceivedRows {peerDeviceId : Option String} {maxRows : Option ℕ}
    (h : row ∈ stalePeerReceivedRows st peerDeviceId maxRows) : row ∈ st.memoryItems := by
  unfold stalePeerReceivedRows at h
  cases maxRows with
  | none => exact List.mem_of_mem_filter ((List.mem_insertionSort _).mp h)
  | some n => exact List.mem_of_mem_filter ((List.mem_insertionSort _).mp (List.mem_of_mem_take h))

/-- The cleanup of stale rows is safe and predictable: the diagnosis of a store gives the result of
the real run and leaves the store alone; the real run removes exactly the rows it lists; and a
removed row has no recorded creation under its import key, its origin is neither this device nor the
legacy local id, and its scope is none, the default one, or one this device is not authorized
for. -/
theorem staleRows_cleanup_safe (ev : CreationEvidence) (st : Store)
    (options : ReconcileStaleOptions) (hids : st.UniqueIds) :
    diagnoseStalePeerReceivedRows ev st options =
      (reconcileStalePeerReceivedRows ev st options).map (fun out => (st, out.2)) ∧
    ∀ st' result, reconcileStalePeerReceivedRows ev st options = .ok (st', result) →
      st'.memoryItems =
        st.memoryItems.filter (fun row => !result.deletedMemoryIds.contains row.id) ∧
      ∀ row ∈ st.memoryItems, row ∉ st'.memoryItems →
        (cleanText row.importKey).any (hasRecordedLocalCreation st) = false ∧
        cleanText row.originDeviceId ≠ some (trim options.localDeviceId) ∧
        cleanText row.originDeviceId ≠ some "local" ∧
        ∀ scopeId, cleanText row.scopeId = some scopeId → scopeId ≠ defaultSyncScopeId →
          (getCachedScopeAuthorization st options.localDeviceId scopeId).authorized = false := by
  unfold diagnoseStalePeerReceivedRows reconcileStalePeerReceivedRows
    reconcileStalePeerReceivedRowsInternal
  cases hdevice : cleanText (some options.localDeviceId) with
  | none => exact ⟨rfl, fun st' result h => nomatch h⟩
  | some localDeviceId =>
    dsimp only
    generalize hrows : stalePeerReceivedRows st (cleanText options.peerDeviceId)
      (options.maxRows.map fun n => n.floor.toNat) = rows
    generalize localCreationSourceIds ev st localDeviceId options.publicKey = sources
    have hmem : ∀ row ∈ rows, row ∈ st.memoryItems := fun row hrow =>
      mem_of_mem_stalePeerReceivedRows (hrows ▸ hrow)
    have hstart : ∀ deleteRows, CleanupStep ev st localDeviceId sources deleteRows
        ⟨st, [], ⟨rows.length, 0, [], 0, []⟩⟩ := fun deleteRows =>
      ⟨.refl st, fun _ h => absurd h List.not_mem_nil, fun _ => rfl, fun _ => by simp,
        fun _ h => absurd h List.not_mem_nil⟩
    obtain ⟨hreal, hrealStep⟩ := (hstart true).foldl hids hmem
    obtain ⟨hdry, hdryStep⟩ := (hstart false).foldl hids hmem
    have htrim : trim options.localDeviceId = localDeviceId := trim_eq_of_cleanText hdevice
    refine ⟨?_, fun st' result h => ?_⟩
    · rw [Except.map, hdryStep.dry rfl, hdry, hreal]
    · cases h
      refine ⟨hrealStep.items rfl, fun row hrow hremoved => ?_⟩
      have hid : row.id ∈ (rows.foldl (StaleCleanup.visit ev localDeviceId sources true)
          ⟨st, [], ⟨rows.length, 0, [], 0, []⟩⟩).result.deletedMemoryIds := by
        by_contra hnot
        refine hremoved ?_
        rw [hrealStep.items rfl]
        exact List.mem_filter.mpr ⟨hrow, by simpa using hnot⟩
      obtain ⟨row', hrow', hrowId, cursor, hdelete⟩ := hrealStep.decided _ hid
      obtain rfl := hids.eq_of_id hrow' hrow hrowId
      have hremovable := removableRow_of_delete hdelete
      refine ⟨hremovable.unrecorded, htrim ▸ hremovable.foreign, hremovable.notLegacy,
        fun scopeId hscope hne => ?_⟩
      have hauth := hremovable.unauthorized scopeId hscope hne
      rw [← htrim] at hauth
      simpa [getCachedScopeAuthorization] using hauth

/-- Evidence from a database without any of the creation tables. -/
def noEvidence : CreationEvidence := ⟨none, none, none, none, fun _ => "", some, id⟩

/-- A cleanup on device `here`, over all rows of all peers. -/
def sampleStaleOptions : ReconcileStaleOptions := ⟨"here", none, none, none⟩

/-- A row of `remote` in scope `team`, in a store that knows the scope and no membership. -/
def staleTeamStore : Store :=
  { Store.empty with
    memoryItems := [sampleMemory 1 "m1"]
    replicationScopes := [⟨"team", .coordinator, 1, "active"⟩] }

/-- The row of a scope without a membership is removed. -/
theorem staleRows_cleanup_safe_sample :
    staleTeamStore.UniqueIds ∧
    (reconcileStalePeerReceivedRows noEvidence staleTeamStore sampleStaleOptions).map
      (fun out => out.2.deletedMemoryIds) = .ok [1] ∧
    diagnoseStalePeerReceivedRows noEvidence staleTeamStore sampleStaleOptions =
      (reconcileStalePeerReceivedRows noEvidence staleTeamStore sampleStaleOptions).map
        (fun out => (staleTeamStore, out.2)) :=
  ⟨List.nodup_singleton _, by decide +kernel,
    (staleRows_cleanup_safe noEvidence staleTeamStore sampleStaleOptions
      (List.nodup_singleton _)).1⟩

/-- A row of `remote` in the default scope, which device `here` is a member of. -/
def staleDefaultStore : Store :=
  { Store.empty with
    memoryItems := [{ sampleMemory 1 "m1" with scopeId := some "local-default" }]
    replicationScopes := [⟨"local-default", .local, 1, "active"⟩]
    scopeMemberships := [⟨"local-default", "here", "active", 1⟩] }

/-- A row whose import key has a recorded creation and starts with a blank. -/
def staleBlankKeyStore : Store :=
  { Store.empty with
    memoryItems := [{ sampleMemory 1 " m1" with scopeId := none }]
    memorySourceBindings := [⟨" m1", "here", .localCreation⟩] }

/-- A row of the default scope is removed although this device is authorized for the scope, and so
is a row with a recorded creation whose import key is not trimmed. -/
theorem staleRows_cleanup_unchecked :
    ((reconcileStalePeerReceivedRows noEvidence staleDefaultStore sampleStaleOptions).map
        (fun out => out.2.deletedMemoryIds) = .ok [1] ∧
      (getCachedScopeAuthorization staleDefaultStore "here" "local-default").authorized = true) ∧
    (reconcileStalePeerReceivedRows noEvidence staleBlankKeyStore sampleStaleOptions).map
        (fun out => out.2.deletedMemoryIds) = .ok [1] ∧
      hasRecordedLocalCreation staleBlankKeyStore " m1" = true := by
  decide +kernel

end Codemem
