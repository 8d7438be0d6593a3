import Codemem.Replication.Bootstrap
import Codemem.Replication.OutboundFilter

/-!
# Snapshot pages

`loadMemorySnapshotPageForPeer` serves the memories of a scope to a peer that bootstraps.  It scans
the rows of the scope in the order of their import keys, batch by batch, drops those the peer may
not see, and stops when the page is full.
-/

namespace Codemem

/-- `LoadMemorySnapshotPageForPeerOptions`; an inner `none` of `scopeId` is an explicit `null`. -/
structure SnapshotPageOptions where
  scopeId : Option (Option String)
  sourceDeviceId : Option String
  generation : ℤ
  snapshotId : Option String
  baselineCursor : Option String
  peerDeviceId : Option String
  limit : Option ℕ
  pageToken : Option String

/-- `LoadMemorySnapshotPageForPeerResult`. -/
structure SnapshotPage where
  boundary : SyncResetBoundary
  items : List SnapshotItem
  nextPageToken : Option String
  hasMore : Bool

/-- What the page loader takes from its surroundings: the runtime, `memorySourceNamespace`, and the
random snapshot id of a boundary that does not exist yet. -/
structure SnapshotPageContext where
  runtime : Runtime
  memorySourceNamespace : String → Option String
  snapshotId : String

/-! ### Tokens and rows -/

/-- `parseSnapshotPageToken`: the import key before the last bar and the number behind it. -/
def parseSnapshotPageToken (rt : Runtime) (token : Option String) : Option (String × ℚ) :=
  match normalizeCursor token with
  | none => none
  | some raw =>
    let idText := (raw.toList.reverse.takeWhile (· != '|')).reverse
    let importKey := raw.toList.take (raw.toList.length - idText.length - 1)
    if idText.length = raw.toList.length ∨ importKey.isEmpty then none
    else (rt.numberOf (String.ofList idText)).map fun id => (String.ofList importKey, id)

def makeSnapshotPageToken (importKey : String) (id : ℕ) : String := importKey ++ "|" ++ toString id

abbrev SnapshotScanRow := MemoryItem × Option String

/-- The order of the scan. -/
def snapshotPos (row : SnapshotScanRow) : Lex (String × ℕ) :=
  toLex (row.1.importKey.getD "", row.1.id)

/-- The rows of the scope above a token, each with the project of its session. -/
def snapshotCandidates (st : Store) (scopeId : String) (token : Option (String × ℚ)) :
    List SnapshotScanRow :=
  st.memoryItems.filterMap fun row =>
    if row.importKey.isSome && scopeId != defaultSyncScopeId && row.scopeId == some scopeId &&
        token.all fun t => t.1 < row.importKey.getD "" ||
          (row.importKey == some t.1 && t.2 < row.id) then
      (st.sessions.find? fun s => s.id == row.sessionId).map fun session => (row, session.project)
    else none

def rowsAfterToken (st : Store) (scopeId : String) (token : Option (String × ℚ))
    (batchLimit : ℕ) : List SnapshotScanRow :=
  page snapshotPos batchLimit (snapshotCandidates st scopeId token)

/-! ### Items -/

def snapshotClockDeviceId (payload : JsonObject) (row : MemoryItem) : String :=
  (cleanJson ((metadataRecord payload).get "clock_device_id")).getD
    (row.originDeviceId.getD "local")

def unretiredSnapshotPayload (ctx : SnapshotPageContext) (st : Store) (row : MemoryItem)
    (sourceDeviceId : Option String) : Option JsonObject :=
  let importKey := row.importKey.getD ""
  if sourceDeviceId.any fun source => !source.toList.isEmpty &&
      ctx.memorySourceNamespace importKey != some source then none
  else
    let payload := buildPayloadFromMemoryRow row
    if retirementAllowsSnapshot st importKey payload (cleanText row.scopeId) = false then none
    else some payload

def snapshotItemOf (row : SnapshotScanRow) (payload : JsonObject) : SnapshotItem where
  entityId := trim (row.1.importKey.getD "")
  opType :=
    if truthy row.1.deletedAt ∨ row.1.active = some 0 then .delete else .upsert
  payloadJson := toJson (payload.set "project" (jsonText row.2))
  clockRev := row.1.rev.getD 0
  clockUpdatedAt := row.1.updatedAt
  clockDeviceId := snapshotClockDeviceId payload row.1

/-- The item of a row that the peer may see. -/
def snapshotItemForPeer (ctx : SnapshotPageContext) (st : Store) (options : SnapshotPageOptions)
    (row : SnapshotScanRow) : Option SnapshotItem :=
  match unretiredSnapshotPayload ctx st row.1 options.sourceDeviceId with
  | none => none
  | some payload =>
    if privateToPeer ctx.runtime st row.1.scopeId (some payload) options.peerDeviceId then none
    else if syncProjectAllowed st row.2 options.peerDeviceId = false then none
    else some (snapshotItemOf row payload)

/-! ### The scan -/

/-- The accumulators of the scan. -/
structure SnapshotScan where
  items : List SnapshotItem
  nextScanToken : Option (String × ℚ)
  lastScannedToken : Option String
  hasMore : Bool

section Scan

variable (ctx : SnapshotPageContext) (st : Store) (options : SnapshotPageOptions)
  (scopeId : String) (limit : ℕ)

def scanRows : SnapshotScan → List SnapshotScanRow → SnapshotScan
  | scan, [] => scan
  | scan, row :: rest =>
    let importKey := trim (row.1.importKey.getD "")
    if importKey.toList.isEmpty then scanRows scan rest
    else
      let scanned := { scan with
        lastScannedToken := some (makeSnapshotPageToken importKey row.1.id)
        nextScanToken := some (importKey, (row.1.id : ℚ)) }
      match snapshotItemForPeer ctx st options row with
      | none => scanRows scanned rest
      | some item =>
        let added := { scanned with items := scanned.items ++ [item] }
        if limit ≤ added.items.length then
          { added with
            hasMore := !rest.isEmpty ||
              !(rowsAfterToken st scopeId added.nextScanToken 1).isEmpty }
        else scanRows added rest

/-- The batches of a page; the token need not advance over blank import keys, so the loop has a
bound. -/
def scanBatches (scanBatchSize : ℕ) : ℕ → SnapshotScan → Option SnapshotScan
  | 0, _ => none
  | fuel + 1, scan =>
    if limit ≤ scan.items.length then some scan
    else
      let rows := rowsAfterToken st scopeId scan.nextScanToken scanBatchSize
      if rows.isEmpty then some scan
      else
        let scanned := scanRows ctx st options scopeId limit scan rows
        if limit ≤ scanned.items.length ∨ rows.length < scanBatchSize then some scanned
        else scanBatches scanBatchSize fuel scanned

end Scan

/-- `loadMemorySnapshotPageForPeer`: the page, unless the boundary has moved, and the store with
its boundary.  No page is returned within `fuel` batches when the outcome is `none`. -/
def loadMemorySnapshotPageForPeer (ctx : SnapshotPageContext) (st : Store)
    (options : SnapshotPageOptions) (fuel : ℕ) : Store × Option (Except String SnapshotPage) :=
  let effectiveScopeId := normalizeSyncStateScopeId (options.scopeId.getD none)
  let (boundary, st) := getSyncResetState ctx.snapshotId st (options.scopeId.getD none)
  let emptyPage : SnapshotPage := ⟨boundary, [], none, false⟩
  if options.scopeId.isSome ∧ (st.scopeById effectiveScopeId).any (fun s => s.authorityType == .local)
    then (st, some (.ok emptyPage))
  else if options.generation ≠ boundary.generation then (st, some (.error "generation_mismatch"))
  else if normalizeCursor options.snapshotId ≠ some boundary.snapshotId ∨
      normalizeCursor options.baselineCursor ≠ boundary.baselineCursor then
    (st, some (.error "boundary_mismatch"))
  else if options.scopeId.isSome ∧ (cleanText options.peerDeviceId).any (fun peer =>
      st.denyOverlays.any fun o => o.scopeId == effectiveScopeId && o.deviceId == peer) then
    (st, some (.ok emptyPage))
  else
    let limit := max 1 (min (options.limit.getD 200) 5000)
    let start : SnapshotScan :=
      ⟨[], parseSnapshotPageToken ctx.runtime options.pageToken, none, false⟩
    (st, (scanBatches ctx st options effectiveScopeId limit (max limit (min (limit * 3) 10000)) fuel
      start).map fun scan => .ok
        ⟨boundary, scan.items, if scan.hasMore then scan.lastScannedToken else none,
          scan.hasMore && scan.lastScannedToken.isSome⟩)

/-! ### Where items come from -/

def SentFromRow (ctx : SnapshotPageContext) (st : Store) (options : SnapshotPageOptions)
    (scopeId : String) (item : SnapshotItem) : Prop :=
  ∃ row : SnapshotScanRow, row.1 ∈ st.memoryItems ∧ row.1.scopeId = some scopeId ∧
    snapshotItemForPeer ctx st options row = some item

section Items

variable {ctx : SnapshotPageContext} {st : Store} {options : SnapshotPageOptions}
  {scopeId : String} {limit : ℕ}

lemma mem_rowsAfterToken {token : Option (String × ℚ)} {batchLimit : ℕ} {row : SnapshotScanRow}
    (h : row ∈ rowsAfterToken st scopeId token batchLimit) :
    row.1 ∈ st.memoryItems ∧ row.1.scopeId = some scopeId := by
  obtain ⟨stored, hstored, hrow⟩ := List.mem_filterMap.mp (mem_of_mem_page h)
  split_ifs at hrow with hkeep
  obtain ⟨session, -, rfl⟩ := Option.map_eq_some_iff.mp hrow
  simp only [Bool.and_eq_true, beq_iff_eq] at hkeep
  exact ⟨hstored, hkeep.1.2⟩

lemma scanRows_items {P : SnapshotItem → Prop} {rows : List SnapshotScanRow}
    (hrows : ∀ row ∈ rows, ∀ item ∈ snapshotItemForPeer ctx st options row, P item)
    (scan : SnapshotScan) (hscan : ∀ item ∈ scan.items, P item) :
    ∀ item ∈ (scanRows ctx st options scopeId limit scan rows).items, P item := by
  induction rows generalizing scan with
  | nil => exact hscan
  | cons row rest ih =>
    have hrest : ∀ r ∈ rest, ∀ item ∈ snapshotItemForPeer ctx st options r, P item :=
      fun r hr => hrows r (List.mem_cons_of_mem _ hr)
    unfold scanRows
    simp only
    split_ifs
    · exact ih hrest scan hscan
    · cases hitem : snapshotItemForPeer ctx st options row with
      | none => exact ih hrest _ hscan
      | some item =>
        have hadded : ∀ i ∈ scan.items ++ [item], P i := by
          intro i hi
          rcases List.mem_append.mp hi with hi | hi
          · exact hscan i hi
          · rw [List.mem_singleton.mp hi]
            exact hrows row List.mem_cons_self item hitem
        simp only
        split_ifs
        · exact hadded
        · exact ih hrest _ hadded

lemma scanBatches_items {scanBatchSize fuel : ℕ} {scan scan' : SnapshotScan}
    (hscan : ∀ item ∈ scan.items, SentFromRow ctx st options scopeId item)
    (h : scanBatches ctx st options scopeId limit scanBatchSize fuel scan = some scan') :
    ∀ item ∈ scan'.items, SentFromRow ctx st options scopeId item := by
  induction fuel generalizing scan with
  | zero => cases h
  | succ fuel ih =>
    have hscanned : ∀ item ∈ (scanRows ctx st options scopeId limit scan
        (rowsAfterToken st scopeId scan.nextScanToken scanBatchSize)).items,
        SentFromRow ctx st options scopeId item := by
      refine scanRows_items (fun row hrow item hitem => ?_) scan hscan
      obtain ⟨hstored, hscope⟩ := mem_rowsAfterToken hrow
      exact ⟨row, hstored, hscope, hitem⟩
    unfold scanBatches at h
    simp only at h
    split_ifs at h
    · exact Option.some.inj h ▸ hscan
    · exact Option.some.inj h ▸ hscan
    · exact Option.some.inj h ▸ hscanned
    · exact ih hscanned h

/-- Every item of a returned page comes from a row of the requested scope. -/
theorem loadMemorySnapshotPageForPeer_items {fuel : ℕ} {st' : Store} {result : SnapshotPage}
    (h : loadMemorySnapshotPageForPeer ctx st options fuel = (st', some (.ok result))) :
    ∀ item ∈ result.items,
      SentFromRow ctx st' options (normalizeSyncStateScopeId (options.scopeId.getD none)) item := by
  unfold loadMemorySnapshotPageForPeer at h
  simp only at h
  split_ifs at h
  · cases h
    simp
  · cases h
  · cases h
  · cases h
    simp
  · obtain ⟨rfl, hresult⟩ := Prod.mk.inj h
    obtain ⟨scan, hscan, hok⟩ := Option.map_eq_some_iff.mp hresult
    cases hok
    exact scanBatches_items (by simp) hscan

lemma loadMemorySnapshotPageForPeer_frame (ctx : SnapshotPageContext) (st : Store)
    (options : SnapshotPageOptions) (fuel : ℕ) :
    BoundaryFrame st (loadMemorySnapshotPageForPeer ctx st options fuel).1 := by
  have hframe := getSyncResetState_frame ctx.snapshotId st (options.scopeId.getD none)
  unfold loadMemorySnapshotPageForPeer
  simp only
  split_ifs <;> exact hframe

end Items

end Codemem
