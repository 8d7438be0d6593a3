import Codemem.Replication.RetainedFloor

/-!
# Pulling from a peer

A peer pulls a scope page by page, following the cursor of the last op it was sent.  Between two
pages the server may prune.  As long as the floor is sound and the texts of cursors compare as the
positions they name, a peer that is never asked to reset misses no op.
-/

namespace Codemem

/-! ### One answer -/

def PeerRequest.scope (request : PeerRequest) : String :=
  normalizeSyncStateScopeId (request.scopeId.getD none)

/-- The device and scope filter of a request. -/
def PeerRequest.selects (request : PeerRequest) (op : ReplicationOp) : Bool :=
  fromDevice request.deviceId op && inScopeLog request.scope op

/-- The position from which a request reads. -/
def PeerRequest.start (request : PeerRequest) : Option (String ×ₗ String) :=
  startPosition (normalizeCursor request.since)

def PeerRequest.Above (request : PeerRequest) (op : ReplicationOp) : Prop :=
  ∀ p ∈ request.start, p < op.position

/-- The retained ops above the cursor of a request. -/
def PeerRequest.retained (request : PeerRequest) (st : Store) : List ReplicationOp :=
  entriesAbove ReplicationOp.position request.start (st.replicationOps.filter request.selects)

lemma PeerRequest.mem_retained {request : PeerRequest} {st : Store} {op : ReplicationOp} :
    op ∈ request.retained st ↔
      op ∈ st.replicationOps ∧ request.selects op = true ∧ request.Above op := by
  rw [PeerRequest.retained, mem_entriesAbove, List.mem_filter, PeerRequest.Above, and_assoc]

/-- The answer is a reset, or the first page of the retained ops less those held back, and then
the cursor is not stale. -/
theorem loadReplicationOpsForPeer_spec (snapshotId : String) (st : Store)
    (request : PeerRequest) :
    (∃ boundary reason,
        (loadReplicationOpsForPeer snapshotId st request).1 = .resetRequired boundary reason) ∨
      isStaleCursor (normalizeCursor request.since) (retainedFloor st request.scope) = false ∧
        ∃ boundary, (loadReplicationOpsForPeer snapshotId st request).1 = .ops boundary
          ((page ReplicationOp.position request.limit (request.retained st)).filter
            (crossesPeerBoundary st))
          ((page ReplicationOp.position request.limit (request.retained st)).getLast?.map
            ReplicationOp.cursor) := by
  have hfloor := getSyncResetState_retainedFloorCursor snapshotId st (request.scopeId.getD none)
  have hframe := getSyncResetState_frame snapshotId st (request.scopeId.getD none)
  unfold loadReplicationOpsForPeer
  generalize getSyncResetState snapshotId st (request.scopeId.getD none) = read at hfloor hframe ⊢
  obtain ⟨boundary, st1⟩ := read
  obtain ⟨_, _, _, _, rfl⟩ : BoundaryFrame st st1 := hframe
  dsimp only at hfloor ⊢
  cases requestMatches boundary request with
  | error reason => exact Or.inl ⟨boundary, reason, rfl⟩
  | ok _ =>
    dsimp only
    split_ifs with hstale
    · exact Or.inl ⟨_, _, rfl⟩
    · rw [hfloor] at hstale
      exact Or.inr ⟨Bool.eq_false_of_not_eq_true hstale, boundary, rfl⟩

/-! ### Regular logs -/

/-- A cursor text names a regular position. -/
def IsRegularCursor (width : ℕ) (cursor : String) : Prop :=
  ∃ createdAt opId, cursor = computeCursor createdAt opId ∧ RegularPosition width createdAt opId

/-- A log with `op_id` as its key, whose positions and whose floor for a scope are regular. -/
structure RegularLog (width : ℕ) (scopeId : String) (st : Store) : Prop where
  keys : ∀ a ∈ st.replicationOps, ∀ b ∈ st.replicationOps, a.opId = b.opId → a = b
  positions : ∀ op ∈ st.replicationOps, RegularPosition width op.createdAt op.opId
  floor : ∀ f ∈ retainedFloor st scopeId, IsRegularCursor width f

lemma startPosition_computeCursor {width : ℕ} {createdAt opId : String}
    (h : RegularPosition width createdAt opId) :
    startPosition (normalizeCursor (some (computeCursor createdAt opId))) =
      some (toLex (createdAt, opId)) := by
  rw [normalizeCursor_computeCursor h, startPosition, Option.bind_some, cursorPosition,
    parseCursor_computeCursor h.bar_notMem]
  rfl

lemma RegularLog.position_injOn {width : ℕ} {scopeId : String} {st : Store}
    (h : RegularLog width scopeId st) {ops : List ReplicationOp} (hops : ops ⊆ st.replicationOps) :
    ∀ a ∈ ops, ∀ b ∈ ops, a.position = b.position → a = b := by
  intro a ha b hb heq
  have hpair : (a.createdAt, a.opId) = (b.createdAt, b.opId) := toLex.injective heq
  exact h.keys a (hops ha) b (hops hb) (Prod.mk.inj hpair).2

/-- With a sound floor, a cursor that is not stale stands at or above every pruned op. -/
theorem not_above_of_pruned {width : ℕ} {request : PeerRequest} {h : LogHistory}
    (hsound : FloorSoundIn request.scope h) (hlog : RegularLog width request.scope h.1)
    (hsince : ∀ s ∈ normalizeCursor request.since, IsRegularCursor width s)
    (hnull : normalizeCursor request.since = none → retainedFloor h.1 request.scope = none)
    (hfresh : isStaleCursor (normalizeCursor request.since)
      (retainedFloor h.1 request.scope) = false)
    {op : ReplicationOp} (hop : op ∈ h.2) (hscope : op.logScope = request.scope) :
    ¬ request.Above op := by
  obtain ⟨f, hf, hle⟩ := hsound op hop hscope
  obtain ⟨floor, hfloor, hposition⟩ := Option.bind_eq_some_iff.mp hf
  obtain ⟨createdAt, opId, rfl, hregular⟩ := hlog.floor floor hfloor
  obtain rfl : toLex (createdAt, opId) = f := by
    rw [cursorPosition, parseCursor_computeCursor hregular.bar_notMem] at hposition
    exact Option.some.inj hposition
  cases hnormal : normalizeCursor request.since with
  | none =>
    rw [hnull hnormal] at hfloor
    cases hfloor
  | some since =>
    obtain ⟨createdAt', opId', rfl, hregular'⟩ := hsince since hnormal
    have htexts : ¬ jsLt (computeCursor createdAt' opId') (computeCursor createdAt opId) := by
      rw [hnormal, hfloor] at hfresh
      simpa [isStaleCursor] using hfresh
    rw [jsLt_computeCursor_iff hregular' hregular, not_lt] at htexts
    intro habove
    have hstart : request.start = some (toLex (createdAt', opId')) := by
      rw [PeerRequest.start, hnormal, startPosition, Option.bind_some, cursorPosition,
        parseCursor_computeCursor hregular'.bar_notMem]
      rfl
    exact absurd (hle.trans htexts) (not_le.mpr (habove _ hstart))

/-! ### Following the cursor -/

/-- How a pull ends: the server asks for a reset, there is no next cursor, or the peer stops. -/
inductive PullEnd where
  | resetRequired
  | exhausted
  | interrupted
  deriving DecidableEq, Repr

def PeerRequest.next (request : PeerRequest) (cursor : String) : PeerRequest :=
  { request with since := some cursor }

/-- The ops a peer receives that follows `nextCursor`, with the states the server is in at its
requests. -/
def pullOps (snapshotId : String) (request : PeerRequest) :
    List Store → List ReplicationOp × PullEnd
  | [] => ([], .interrupted)
  | st :: states =>
    match (loadReplicationOpsForPeer snapshotId st request).1 with
    | .resetRequired _ _ => ([], .resetRequired)
    | .ops _ ops none => (ops, .exhausted)
    | .ops _ ops (some cursor) =>
      let (more, ending) := pullOps snapshotId (request.next cursor) states
      (ops ++ more, ending)

lemma start_next {width : ℕ} {request : PeerRequest} {st : Store} {last : ReplicationOp}
    (hlog : RegularLog width request.scope st)
    (hlast : (page ReplicationOp.position request.limit (request.retained st)).getLast? =
      some last) :
    RegularPosition width last.createdAt last.opId ∧
      (request.next last.cursor).start = some last.position := by
  have hmem : last ∈ st.replicationOps :=
    (PeerRequest.mem_retained.mp (mem_of_mem_page (List.mem_of_getLast? hlast))).1
  have hregular := hlog.positions last hmem
  exact ⟨hregular, startPosition_computeCursor hregular⟩

lemma mem_page_or_above_next {width : ℕ} {request : PeerRequest} {st : Store}
    {last op : ReplicationOp} (hlog : RegularLog width request.scope st)
    (hlast : (page ReplicationOp.position request.limit (request.retained st)).getLast? =
      some last) (hop : op ∈ request.retained st) :
    op ∈ page ReplicationOp.position request.limit (request.retained st) ∨
      (request.next last.cursor).Above op := by
  have hpos : lastPos ReplicationOp.position
      (page ReplicationOp.position request.limit (request.retained st)) = some last.position := by
    rw [lastPos, hlast]
    rfl
  rcases mem_page_or_above (hlog.position_injOn (List.filter_subset_self _)) hop hpos with h | h
  · exact Or.inl h
  · refine Or.inr fun p hp => ?_
    rw [(start_next hlog hlast).2] at hp
    exact (mem_entriesAbove.mp h).2 p hp

/-- A peer that reached the end has every op that was ever above its cursor, unless the op was
held back. -/
lemma pullOps_complete {width : ℕ} {snapshotId : String} {op : ReplicationOp}
    (states : List LogHistory) {request : PeerRequest} (hlimit : 0 < request.limit)
    (hsound : ∀ t ∈ states, FloorSoundIn request.scope t)
    (hlog : ∀ t ∈ states, RegularLog width request.scope t.1)
    (hever : ∀ t ∈ states, op ∈ t.1.replicationOps ∨ op ∈ t.2)
    (hsince : ∀ s ∈ normalizeCursor request.since, IsRegularCursor width s)
    (hnull : normalizeCursor request.since = none →
      ∀ t ∈ states.head?, retainedFloor t.1 request.scope = none)
    (hselects : request.selects op = true) (habove : request.Above op)
    {received : List ReplicationOp}
    (hpull : pullOps snapshotId request (states.map Prod.fst) = (received, .exhausted)) :
    op ∈ received ∨ ∃ t ∈ states, crossesPeerBoundary t.1 op = false := by
  induction states generalizing request received with
  | nil => cases hpull
  | cons t states ih =>
    have hscope : op.logScope = request.scope :=
      inScopeLog_iff.mp (Bool.and_eq_true_iff.mp hselects).2
    rw [List.map_cons, pullOps] at hpull
    rcases loadReplicationOpsForPeer_spec snapshotId t.1 request with
      ⟨boundary, reason, hanswer⟩ | ⟨hfresh, boundary, hanswer⟩
    · rw [hanswer] at hpull
      cases hpull
    have hretained : op ∈ request.retained t.1 := by
      rcases hever t List.mem_cons_self with hmem | hpruned
      · exact PeerRequest.mem_retained.mpr ⟨hmem, hselects, habove⟩
      · refine absurd habove (not_above_of_pruned (hsound t List.mem_cons_self)
          (hlog t List.mem_cons_self) hsince (fun hnone => ?_) hfresh hpruned hscope)
        exact hnull hnone t rfl
    have hpage : op ∈ page ReplicationOp.position request.limit (request.retained t.1) →
        op ∈ (page ReplicationOp.position request.limit (request.retained t.1)).filter
          (crossesPeerBoundary t.1) ∨ crossesPeerBoundary t.1 op = false := by
      intro hmem
      cases hcrosses : crossesPeerBoundary t.1 op with
      | false => exact Or.inr rfl
      | true => exact Or.inl (List.mem_filter.mpr ⟨hmem, hcrosses⟩)
    rw [hanswer] at hpull
    cases hlast : (page ReplicationOp.position request.limit (request.retained t.1)).getLast? with
    | none =>
      -- an empty page means that nothing is retained above the cursor
      rw [List.getLast?_eq_none_iff, page_eq_nil_iff hlimit] at hlast
      rw [hlast] at hretained
      cases hretained
    | some last =>
      simp only [hlast, Option.map_some] at hpull
      obtain ⟨rfl, hending⟩ := Prod.mk.inj hpull
      have hnext := start_next (hlog t List.mem_cons_self) hlast
      rcases mem_page_or_above_next (hlog t List.mem_cons_self) hlast hretained with hmem | hmem
      · rcases hpage hmem with hmem | hheld
        · exact Or.inl (List.mem_append_left _ hmem)
        · exact Or.inr ⟨t, List.mem_cons_self, hheld⟩
      · have hcursor : normalizeCursor (request.next last.cursor).since = some last.cursor :=
          normalizeCursor_computeCursor hnext.1
        have hlimit' : 0 < (request.next last.cursor).limit := hlimit
        have hrest : op ∈ (pullOps snapshotId (request.next last.cursor)
            (states.map Prod.fst)).1 ∨ ∃ t ∈ states, crossesPeerBoundary t.1 op = false := by
          refine ih hlimit' (fun t ht => hsound t (List.mem_cons_of_mem _ ht))
            (fun t ht => hlog t (List.mem_cons_of_mem _ ht))
            (fun t ht => hever t (List.mem_cons_of_mem _ ht))
            (fun s hs => ?_) (fun hnone => ?_) hselects hmem (Prod.ext rfl hending)
          · rw [hcursor] at hs
            cases hs
            exact ⟨last.createdAt, last.opId, rfl, hnext.1⟩
          · rw [hcursor] at hnone
            cases hnone
        rcases hrest with h | ⟨t', ht', hheld⟩
        · exact Or.inl (List.mem_append_right _ h)
        · exact Or.inr ⟨t', List.mem_cons_of_mem _ ht', hheld⟩

/-- A pull has no gaps.  The answer is a reset, or the first page of the retained ops above the
cursor less those held back at the boundary, and then no op above the cursor was pruned; and a peer
that follows `nextCursor` to the end, while the server prunes and logs further ops, has every op
above its first cursor that was ever in the log, less those held back. -/
theorem peerPull_gap_free {width : ℕ} (snapshotId : String) (request : PeerRequest)
    (h : LogHistory) (later : List LogHistory) (hlimit : 0 < request.limit)
    (hsound : ∀ t ∈ h :: later, FloorSoundIn request.scope t)
    (hlog : ∀ t ∈ h :: later, RegularLog width request.scope t.1)
    (hsince : ∀ s ∈ normalizeCursor request.since, IsRegularCursor width s)
    (hnull : normalizeCursor request.since = none → retainedFloor h.1 request.scope = none)
    (hever : ∀ t ∈ later, ∀ op, op ∈ h.1.replicationOps ∨ op ∈ h.2 →
      op ∈ t.1.replicationOps ∨ op ∈ t.2) :
    ((∃ boundary reason,
        (loadReplicationOpsForPeer snapshotId h.1 request).1 = .resetRequired boundary reason) ∨
      ∃ boundary rows, (loadReplicationOpsForPeer snapshotId h.1 request).1 =
          .ops boundary (rows.filter (crossesPeerBoundary h.1))
            (rows.getLast?.map ReplicationOp.cursor) ∧
        IsFirstPage ReplicationOp.position request.limit (request.retained h.1) rows ∧
        ∀ op ∈ h.2, op.logScope = request.scope → ¬ request.Above op) ∧
    ∀ received, pullOps snapshotId request ((h :: later).map Prod.fst) = (received, .exhausted) →
      ∀ op, op ∈ h.1.replicationOps ∨ op ∈ h.2 → request.selects op = true → request.Above op →
        op ∈ received ∨ ∃ t ∈ h :: later, crossesPeerBoundary t.1 op = false := by
  constructor
  · rcases loadReplicationOpsForPeer_spec snapshotId h.1 request with hreset | hanswer
    · exact Or.inl hreset
    · obtain ⟨hfresh, boundary, hanswer⟩ := hanswer
      refine Or.inr ⟨boundary, _, hanswer, page_isFirstPage _ _ _, fun op hop hscope => ?_⟩
      exact not_above_of_pruned (hsound h List.mem_cons_self) (hlog h List.mem_cons_self) hsince
        hnull hfresh hop hscope
  · intro received hpull op hop hselects habove
    refine pullOps_complete (h :: later) hlimit hsound hlog (fun t ht => ?_) hsince
      (fun hnone t ht => ?_) hselects habove hpull
    · rcases List.mem_cons.mp ht with rfl | ht
      · exact hop
      · exact hever t ht op hop
    · cases ht
      exact hnull hnone

/-- A request that matches a boundary in its first generation. -/
def sampleRequest (since : Option String) (scopeId : Option (Option String)) : PeerRequest :=
  ⟨since, 10, none, scopeId, some 1, some "snapshot", none⟩

/-- The op ids of an answer that is not a reset. -/
def answeredOpIds : PeerResponse × Store → Option (List String)
  | (.resetRequired _ _, _) => none
  | (.ops _ ops _, _) => some (ops.map ReplicationOp.opId)

/-- A store after a prune of scope `team` up to an op, with a later op in the log. -/
def samplePrunedStore (pruned : ReplicationOp) : Store :=
  [LogCall.applyReplicationOps (plainContext "2027-02-01") [pruned] "local" none, samplePrune,
    .applyReplicationOps (plainContext "2027-02-01") [sampleLogOp "2026-05-01" "b"] "local"
      none].foldl LogCall.run Store.empty

/-- A peer at the floor receives the op logged since. -/
theorem peerPull_gap_free_at_floor :
    sampleLogOp "2026-05-01" "b" ∈ (pullOps "snapshot"
      (sampleRequest (some "2026-01-01|a") (some (some "team")))
      [samplePrunedStore (sampleLogOp "2026-01-01" "a"),
        samplePrunedStore (sampleLogOp "2026-01-01" "a")]).1 := by
  have hregular : ∀ createdAt opId, createdAt = "2026-01-01" ∧ opId = "a" ∨
      createdAt = "2026-05-01" ∧ opId = "b" → RegularPosition 10 createdAt opId := by
    rintro _ _ (⟨rfl, rfl⟩ | ⟨rfl, rfl⟩)
    · exact ⟨by decide, by decide, by decide, by decide, by decide⟩
    · exact ⟨by decide, by decide, by decide, by decide, by decide⟩
  let st := samplePrunedStore (sampleLogOp "2026-01-01" "a")
  have hops : st.replicationOps = [sampleLogOp "2026-05-01" "b"] := rfl
  have hfloor : retainedFloor st "team" = some "2026-01-01|a" := by decide
  have hlog : RegularLog 10 "team" st := by
    refine ⟨fun a ha b hb _ => ?_, fun op hop => ?_, fun f hf => ?_⟩
    · rw [hops, List.mem_singleton] at ha hb
      rw [ha, hb]
    · rw [hops, List.mem_singleton] at hop
      exact hop ▸ hregular _ _ (Or.inr ⟨rfl, rfl⟩)
    · rw [hfloor] at hf
      cases hf
      exact ⟨"2026-01-01", "a", rfl, hregular _ _ (Or.inl ⟨rfl, rfl⟩)⟩
  have hsound : FloorSoundIn "team" (st, {sampleLogOp "2026-01-01" "a"}) := by
    rintro op rfl -
    exact ⟨toLex ("2026-01-01", "a"), by decide, le_rfl⟩
  have hscope : (sampleRequest (some "2026-01-01|a") (some (some "team"))).scope = "team" := by
    decide
  have hpull := (peerPull_gap_free "snapshot"
    (sampleRequest (some "2026-01-01|a") (some (some "team")))
    (st, {sampleLogOp "2026-01-01" "a"}) [(st, {sampleLogOp "2026-01-01" "a"})] (by decide)
    (by simpa [hscope] using hsound) (by simpa [hscope] using hlog)
    (fun s hs => ⟨"2026-01-01", "a", by cases hs; rfl, hregular _ _ (Or.inl ⟨rfl, rfl⟩)⟩)
    (by intro h; cases h) (by simp)).2 _ (Prod.ext rfl (by decide)) (sampleLogOp "2026-05-01" "b")
    (Or.inl (by rw [hops]; exact List.mem_singleton_self _)) (by decide)
    (by intro p hp; cases hp; decide)
  rcases hpull with hmem | ⟨t, ht, hheld⟩
  · exact hmem
  · obtain rfl : t = (st, {sampleLogOp "2026-01-01" "a"}) := by simpa using ht
    exact absurd hheld (by decide)

/-- An op of the default scope is held back; and a request without a cursor, or with a cursor whose
text compares otherwise than its position, is answered although an op above it was pruned. -/
theorem peerPull_exceptions :
    (answeredOpIds (loadReplicationOpsForPeer "snapshot"
        { Store.empty with replicationOps := [{ sampleLogOp "2026-01-01" "a" with scopeId := none }] }
        (sampleRequest none none)) = some [] ∧
      ((sampleRequest none none).retained { Store.empty with replicationOps :=
        [{ sampleLogOp "2026-01-01" "a" with scopeId := none }] }).map ReplicationOp.opId = ["a"]) ∧
    ∀ since ∈ [none, some "2026-01-01|x"],
      (sampleRequest since (some (some "team"))).Above (sampleLogOp "2026-01-01T00" "a") ∧
      floorPosition (samplePrunedStore (sampleLogOp "2026-01-01T00" "a")) "team" =
        some (sampleLogOp "2026-01-01T00" "a").position ∧
      answeredOpIds (loadReplicationOpsForPeer "snapshot"
        (samplePrunedStore (sampleLogOp "2026-01-01T00" "a"))
        (sampleRequest since (some (some "team")))) = some ["b"] := by
  refine ⟨⟨by decide, by decide⟩, fun since hsince => ?_⟩
  simp only [List.mem_cons, List.not_mem_nil, or_false] at hsince
  rcases hsince with rfl | rfl
  · refine ⟨fun p hp => ?_, by decide, by decide⟩
    cases hp
  · refine ⟨fun p hp => ?_, by decide, by decide⟩
    cases hp
    decide

end Codemem
