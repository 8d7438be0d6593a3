import Codemem.Foundation.Trace
import Codemem.Replication.OpLog
import Codemem.Replication.Record

/-!
# Polling a growing log

A peer polls a log that grows between its reads, from the cursor of the last op it was given.  The
log is ordered by millisecond and then by op id, not by insertion, so an op recorded in the
millisecond of the cursor can sort behind it.  The condition under which this happens to no op is
exact: it is the condition under which no op is lost.
-/

namespace Codemem

/-! ### Streams and reads -/

/-- The streams a peer polls. -/
inductive OpStream where
  /-- `loadReplicationOpsSince` with its device and scope filters. -/
  | replicationOps (deviceId : Option String) (scopeId : Option (Option String))
  /-- `loadLocalOpsSince`. -/
  | localOps (deviceId : String)

namespace OpStream

/-- One read. -/
def load (st : Store) (cursor : Option String) (limit : ℕ) :
    OpStream → List ReplicationOp × Option String
  | replicationOps deviceId scopeId => loadReplicationOpsSince st cursor limit deviceId scopeId
  | localOps deviceId => loadLocalOpsSince st cursor deviceId limit

/-- The filter of a stream. -/
def selects (op : ReplicationOp) : OpStream → Bool
  | replicationOps deviceId scopeId => fromDevice deviceId op &&
      scopeId.all fun s => inScopeLog (normalizeSyncStateScopeId s) op
  | localOps deviceId => op.deviceId == deviceId

/-- The position from which a read with a cursor starts. -/
def start (cursor : Option String) : OpStream → Option (String ×ₗ String)
  | replicationOps _ _ => startPosition cursor
  | localOps _ => localStartPosition cursor

/-- The ops of a stream above a cursor. -/
def pending (st : Store) (cursor : Option String) (stream : OpStream) : List ReplicationOp :=
  entriesAbove ReplicationOp.position (stream.start cursor)
    (st.replicationOps.filter fun op => stream.selects op)

variable {stream : OpStream} {st : Store} {cursor : Option String} {limit : ℕ}

lemma load_eq (stream : OpStream) (st : Store) (cursor : Option String) (limit : ℕ) :
    stream.load st cursor limit =
      (page ReplicationOp.position limit (stream.pending st cursor),
        (page ReplicationOp.position limit (stream.pending st cursor)).getLast?.map
          ReplicationOp.cursor) := by
  cases stream with
  | replicationOps deviceId scopeId => rfl
  | localOps deviceId => rfl

lemma mem_pending {op : ReplicationOp} :
    op ∈ stream.pending st cursor ↔ op ∈ st.replicationOps ∧ stream.selects op = true ∧
      ∀ p ∈ stream.start cursor, p < op.position := by
  rw [pending, mem_entriesAbove, List.mem_filter, and_assoc]

@[simp] lemma start_none (stream : OpStream) : stream.start none = none := by
  cases stream <;> rfl

lemma start_cursor (stream : OpStream) {op : ReplicationOp} (h : '|' ∉ op.createdAt.toList) :
    stream.start (some op.cursor) = some op.position := by
  cases stream with
  | replicationOps deviceId scopeId => exact cursorPosition_cursor h
  | localOps deviceId =>
    have hne : op.cursor.toList.isEmpty = false := by simp [ReplicationOp.cursor, computeCursor]
    simp [start, localStartPosition, hne, cursorPosition_cursor h]

end OpStream

/-! ### Runs -/

/-- The store, the cursors handed out so far, and the ops returned so far. -/
structure PollState where
  store : Store
  handedOut : List String
  returned : List ReplicationOp

/-- The cursor the peer stores: the last one it was handed. -/
def PollState.cursor (s : PollState) : Option String := s.handedOut.getLast?

/-- A step: a local op is recorded, or the peer reads a page. -/
inductive PollStep where
  | record (ctx : LocalContext) (opts : RecordOptions)
  | read (limit : ℕ)

def PollStep.run (stream : OpStream) (s : PollState) : PollStep → PollState
  | .record ctx opts => { s with store := (recordReplicationOp ctx s.store opts).1 }
  | .read limit =>
    let (ops, nextCursor) := stream.load s.store s.cursor limit
    { s with handedOut := s.handedOut ++ nextCursor.toList, returned := s.returned ++ ops }

/-- The wall clock of a record. -/
def PollStep.time : PollStep → Option String
  | .record ctx opts => some (opts.createdAt.getD ctx.now)
  | .read _ => none

/-- The state of a peer that has read nothing from an empty log. -/
def PollState.initial (st : Store) : PollState := ⟨{ st with replicationOps := [] }, [], []⟩

/-- Nothing is left to read. -/
def PollState.Drained (stream : OpStream) (s : PollState) : Prop :=
  stream.pending s.store s.cursor = []

lemma PollStep.run_record_log (stream : OpStream) (s : PollState) (ctx : LocalContext)
    (opts : RecordOptions) :
    ((PollStep.record ctx opts).run stream s).store.replicationOps =
      if s.store.hasOp (loggedOp ctx s.store opts).opId then s.store.replicationOps
      else s.store.replicationOps ++ [loggedOp ctx s.store opts] := by
  obtain ⟨write, -, hstore⟩ := recordReplicationOp_store ctx s.store opts
  show (recordReplicationOp ctx s.store opts).1.replicationOps = _
  rw [hstore]

/-! ### What every run keeps -/

/-- The log has `op_id` as its key, and the cursors handed out are the cursors of logged ops, in
order. -/
structure PollInvariant (stream : OpStream) (s : PollState) : Prop where
  keys : ∀ a ∈ s.store.replicationOps, ∀ b ∈ s.store.replicationOps, a.opId = b.opId → a = b
  noBar : ∀ op ∈ s.store.replicationOps, '|' ∉ op.createdAt.toList
  handedOut : ∀ c ∈ s.handedOut, ∃ op ∈ s.store.replicationOps, c = op.cursor ∧
    ∀ p ∈ stream.start s.cursor, op.position ≤ p
  returned : ∀ op ∈ s.returned, op ∈ s.store.replicationOps

/-- The clock of a step is a time stamp not before any logged op. -/
def ClockNotBehind (s : PollState) (step : PollStep) : Prop :=
  ∀ t ∈ step.time, '|' ∉ t.toList ∧ ∀ op ∈ s.store.replicationOps, op.createdAt ≤ t

section Invariant

variable {stream : OpStream} {s : PollState}

lemma PollInvariant.initial (stream : OpStream) (st : Store) :
    PollInvariant stream (PollState.initial st) where
  keys := fun _ ha => absurd ha List.not_mem_nil
  noBar := fun _ ha => absurd ha List.not_mem_nil
  handedOut := fun _ hc => absurd hc List.not_mem_nil
  returned := fun _ hop => absurd hop List.not_mem_nil

lemma PollInvariant.exists_of_cursor (h : PollInvariant stream s) {c : String}
    (hc : s.cursor = some c) : ∃ op ∈ s.store.replicationOps, c = op.cursor ∧
      stream.start s.cursor = some op.position := by
  obtain ⟨op, hop, rfl, -⟩ := h.handedOut c (List.mem_of_getLast? hc)
  exact ⟨op, hop, rfl, hc ▸ stream.start_cursor (h.noBar op hop)⟩

lemma PollInvariant.position_injOn (h : PollInvariant stream s) {ops : List ReplicationOp}
    (hops : ops ⊆ s.store.replicationOps) :
    ∀ a ∈ ops, ∀ b ∈ ops, a.position = b.position → a = b := by
  intro a ha b hb heq
  have hpair : (a.createdAt, a.opId) = (b.createdAt, b.opId) := toLex.injective heq
  exact h.keys a (hops ha) b (hops hb) (Prod.mk.inj hpair).2

def PollState.nextPage (stream : OpStream) (s : PollState) (limit : ℕ) : List ReplicationOp :=
  page ReplicationOp.position limit (stream.pending s.store s.cursor)

lemma PollStep.run_read_of_nil {limit : ℕ} (h : s.nextPage stream limit = []) :
    (PollStep.read limit).run stream s = s := by
  simp only [PollState.nextPage] at h
  simp [PollStep.run, OpStream.load_eq, h]

lemma PollStep.run_read_of_last {limit : ℕ} {last : ReplicationOp}
    (h : (s.nextPage stream limit).getLast? = some last) :
    (PollStep.read limit).run stream s =
      ⟨s.store, s.handedOut ++ [last.cursor], s.returned ++ s.nextPage stream limit⟩ := by
  simp only [PollState.nextPage] at h ⊢
  simp [PollStep.run, OpStream.load_eq, h]

lemma PollState.cursor_append (st : Store) (handedOut : List String) (c : String)
    (returned : List ReplicationOp) :
    (PollState.mk st (handedOut ++ [c]) returned).cursor = some c := by
  simp [PollState.cursor]

lemma PollInvariant.last_spec (h : PollInvariant stream s) {limit : ℕ} {last : ReplicationOp}
    (hlast : (s.nextPage stream limit).getLast? = some last) :
    last ∈ stream.pending s.store s.cursor ∧
      stream.start (some last.cursor) = some last.position ∧
      lastPos ReplicationOp.position (s.nextPage stream limit) = some last.position := by
  have hmem : last ∈ stream.pending s.store s.cursor :=
    mem_of_mem_page (List.mem_of_getLast? hlast)
  refine ⟨hmem, stream.start_cursor (h.noBar last (OpStream.mem_pending.mp hmem).1), ?_⟩
  rw [lastPos, hlast]
  rfl

lemma PollInvariant.run (h : PollInvariant stream s) {step : PollStep}
    (hclock : ClockNotBehind s step) : PollInvariant stream (step.run stream s) := by
  cases step with
  | record ctx opts =>
    have hlog := PollStep.run_record_log stream s ctx opts
    split_ifs at hlog with hhas
    · exact ⟨hlog ▸ h.keys, hlog ▸ h.noBar, hlog ▸ h.handedOut, hlog ▸ h.returned⟩
    · have hfresh : ∀ op ∈ s.store.replicationOps, op.opId ≠ (loggedOp ctx s.store opts).opId := by
        simpa [Store.hasOp] using hhas
      have hbar : '|' ∉ (loggedOp ctx s.store opts).createdAt.toList := (hclock _ rfl).1
      have hsub : s.store.replicationOps ⊆
          ((PollStep.record ctx opts).run stream s).store.replicationOps :=
        hlog ▸ List.subset_append_left _ _
      refine ⟨?_, ?_, fun c hc => ?_, fun op hop => hsub (h.returned op hop)⟩
      · rw [hlog]
        intro a ha b hb heq
        rw [List.mem_append, List.mem_singleton] at ha hb
        rcases ha with ha | rfl <;> rcases hb with hb | rfl
        · exact h.keys a ha b hb heq
        · exact absurd heq (hfresh a ha)
        · exact absurd heq.symm (hfresh b hb)
        · rfl
      · rw [hlog]
        intro op hop
        rw [List.mem_append, List.mem_singleton] at hop
        rcases hop with hop | rfl
        · exact h.noBar op hop
        · exact hbar
      · obtain ⟨op, hop, hcursor, hle⟩ := h.handedOut c hc
        exact ⟨op, hsub hop, hcursor, hle⟩
  | read limit =>
    cases hlast : (s.nextPage stream limit).getLast? with
    | none =>
      rw [PollStep.run_read_of_nil (List.getLast?_eq_none_iff.mp hlast)]
      exact h
    | some last =>
      rw [PollStep.run_read_of_last hlast]
      obtain ⟨hpending, hstart, -⟩ := h.last_spec hlast
      obtain ⟨hlogged, -, habove⟩ := OpStream.mem_pending.mp hpending
      refine ⟨h.keys, h.noBar, fun c hc => ?_, fun op hop => ?_⟩
      · rw [PollState.cursor_append, hstart]
        simp only [Option.mem_def, Option.some.injEq, forall_eq']
        rcases List.mem_append.mp hc with hc | hc
        · obtain ⟨op, hop, hcursor, hle⟩ := h.handedOut c hc
          -- a cursor was stored already, and the page lies above it
          cases hold : s.cursor with
          | none =>
            rw [PollState.cursor, List.getLast?_eq_none_iff] at hold
            rw [hold] at hc
            cases hc
          | some c' =>
            obtain ⟨op', -, -, hstart'⟩ := h.exists_of_cursor hold
            exact ⟨op, hop, hcursor, (hle _ hstart').trans (habove _ hstart').le⟩
        · exact ⟨last, hlogged, List.mem_singleton.mp hc, le_rfl⟩
      · rcases List.mem_append.mp hop with hop | hop
        · exact h.returned op hop
        · exact (OpStream.mem_pending.mp (mem_of_mem_page hop)).1

end Invariant

/-! ### The clock of a run -/

/-- The wall clock of a run: time stamps without a bar that never decrease. -/
structure NondecreasingClock (steps : List PollStep) : Prop where
  noBar : ∀ step ∈ steps, ∀ t ∈ step.time, '|' ∉ t.toList
  sorted : steps.Pairwise fun a b => ∀ t ∈ a.time, ∀ t' ∈ b.time, t ≤ t'

lemma stepsMeet_clockNotBehind {stream : OpStream} {s : PollState} {steps : List PollStep}
    (hs : PollInvariant stream s) (hclock : NondecreasingClock steps)
    (hlate : ∀ op ∈ s.store.replicationOps, ∀ step ∈ steps, ∀ t ∈ step.time, op.createdAt ≤ t) :
    StepsMeet (PollStep.run stream)
      (fun s step => PollInvariant stream s ∧ ClockNotBehind s step) s steps := by
  induction steps generalizing s with
  | nil => trivial
  | cons step steps ih =>
    obtain ⟨hnoBar, hsorted⟩ := hclock
    obtain ⟨hfirst, hrest⟩ := List.pairwise_cons.mp hsorted
    have hstep : ClockNotBehind s step := fun t ht =>
      ⟨hnoBar step List.mem_cons_self t ht, fun op hop => hlate op hop step List.mem_cons_self t ht⟩
    refine ⟨⟨hs, hstep⟩, ih (hs.run hstep)
      ⟨fun b hb => hnoBar b (List.mem_cons_of_mem _ hb), hrest⟩ fun op hop b hb t ht => ?_⟩
    -- the log is the old one, or ends with the op of this step
    cases step with
    | read limit =>
      have hsame : ((PollStep.read limit).run stream s).store = s.store := rfl
      rw [hsame] at hop
      exact hlate op hop b (List.mem_cons_of_mem _ hb) t ht
    | record ctx opts =>
      rw [PollStep.run_record_log] at hop
      split_ifs at hop with hhas
      · exact hlate op hop b (List.mem_cons_of_mem _ hb) t ht
      · rcases List.mem_append.mp hop with hop | hop
        · exact hlate op hop b (List.mem_cons_of_mem _ hb) t ht
        · rw [List.mem_singleton.mp hop]
          exact hfirst b hb _ rfl t ht

/-! ### Inserting above the cursor -/

/-- A record whose op is new and counts stands above every cursor handed out. -/
def InsertsAbove (counts : ReplicationOp → Prop) (stream : OpStream) (s : PollState) :
    PollStep → Prop
  | .record ctx opts =>
    s.store.hasOp (loggedOp ctx s.store opts).opId = false → counts (loggedOp ctx s.store opts) →
      ∀ c ∈ s.handedOut, ∀ p ∈ stream.start (some c), p < (loggedOp ctx s.store opts).position
  | .read _ => True

/-- A record whose op is new and counts, in the millisecond of the stored cursor, has an op id
above that of the cursor. -/
def TieBreaksForward (counts : ReplicationOp → Prop) (stream : OpStream) (s : PollState) :
    PollStep → Prop
  | .record ctx opts =>
    s.store.hasOp (loggedOp ctx s.store opts).opId = false → counts (loggedOp ctx s.store opts) →
      ∀ p ∈ stream.start s.cursor, (ofLex p).1 = opts.createdAt.getD ctx.now →
        (ofLex p).2 < opts.opId.getD ctx.randomUUID
  | .read _ => True

section Insert

variable {stream : OpStream} {s : PollState}

lemma lt_position_loggedOp_iff (hs : PollInvariant stream s) {ctx : LocalContext}
    {opts : RecordOptions} (hclock : ClockNotBehind s (.record ctx opts)) :
    (∀ p ∈ stream.start s.cursor, p < (loggedOp ctx s.store opts).position) ↔
      ∀ p ∈ stream.start s.cursor, (ofLex p).1 = opts.createdAt.getD ctx.now →
        (ofLex p).2 < opts.opId.getD ctx.randomUUID := by
  refine forall₂_congr fun p hp => ?_
  have htime : (ofLex p).1 ≤ opts.createdAt.getD ctx.now := by
    cases hcursor : s.cursor with
    | none =>
      rw [hcursor, OpStream.start_none] at hp
      cases hp
    | some c =>
      obtain ⟨op, hop, -, hstart⟩ := hs.exists_of_cursor hcursor
      obtain rfl : op.position = p := Option.some.inj (hstart.symm.trans hp)
      exact (hclock _ rfl).2 op hop
  have hlex : p < (loggedOp ctx s.store opts).position ↔
      (ofLex p).1 < opts.createdAt.getD ctx.now ∨
        (ofLex p).1 = opts.createdAt.getD ctx.now ∧
          (ofLex p).2 < opts.opId.getD ctx.randomUUID :=
    Prod.Lex.lt_iff
  rw [hlex]
  constructor
  · rintro (hlt | ⟨-, hid⟩) heq
    · exact absurd heq hlt.ne
    · exact hid
  · intro htie
    rcases htime.lt_or_eq with hlt | heq
    · exact Or.inl hlt
    · exact Or.inr ⟨heq, htie heq⟩

lemma above_handedOut_iff (hs : PollInvariant stream s) {position : String ×ₗ String} :
    (∀ c ∈ s.handedOut, ∀ p ∈ stream.start (some c), p < position) ↔
      ∀ p ∈ stream.start s.cursor, p < position := by
  constructor
  · intro h p hp
    cases hcursor : s.cursor with
    | none =>
      rw [hcursor, OpStream.start_none] at hp
      cases hp
    | some c => exact h c (List.mem_of_getLast? hcursor) p (hcursor ▸ hp)
  · intro h c hc p hp
    obtain ⟨op, hop, rfl, hle⟩ := hs.handedOut c hc
    rw [stream.start_cursor (hs.noBar op hop)] at hp
    obtain rfl : op.position = p := Option.some.inj hp
    cases hcursor : s.cursor with
    | none =>
      rw [PollState.cursor, List.getLast?_eq_none_iff] at hcursor
      rw [hcursor] at hc
      cases hc
    | some c' =>
      obtain ⟨op', -, -, hstart⟩ := hs.exists_of_cursor hcursor
      exact (hle _ hstart).trans_lt (h _ hstart)

lemma insertsAbove_iff (counts : ReplicationOp → Prop) (hs : PollInvariant stream s)
    {step : PollStep} (hclock : ClockNotBehind s step) :
    InsertsAbove counts stream s step ↔ TieBreaksForward counts stream s step := by
  cases step with
  | read limit => exact Iff.rfl
  | record ctx opts =>
    simp only [InsertsAbove, TieBreaksForward]
    rw [above_handedOut_iff hs, lt_position_loggedOp_iff hs hclock]

end Insert

/-! ### Delivery -/

/-- Every logged op of the stream is returned or pending. -/
def Covered (stream : OpStream) (s : PollState) : Prop :=
  ∀ op ∈ s.store.replicationOps, stream.selects op = true →
    op ∈ s.returned ∨ op ∈ stream.pending s.store s.cursor

/-- A logged op of the stream that no read has returned, at or below the stored cursor. -/
def Lost (stream : OpStream) (op : ReplicationOp) (s : PollState) : Prop :=
  op ∈ s.store.replicationOps ∧ stream.selects op = true ∧ op ∉ s.returned ∧
    ∃ p ∈ stream.start s.cursor, op.position ≤ p

section Delivery

variable {stream : OpStream} {s : PollState}

lemma Covered.read (h : Covered stream s) (hs : PollInvariant stream s) (limit : ℕ) :
    Covered stream ((PollStep.read limit).run stream s) := by
  cases hlast : (s.nextPage stream limit).getLast? with
  | none =>
    rw [PollStep.run_read_of_nil (List.getLast?_eq_none_iff.mp hlast)]
    exact h
  | some last =>
    rw [PollStep.run_read_of_last hlast]
    obtain ⟨-, hstart, hpos⟩ := hs.last_spec hlast
    intro op hop hselects
    rcases h op hop hselects with hret | hpending
    · exact Or.inl (List.mem_append_left _ hret)
    · have hsub : (s.store.replicationOps.filter fun op => stream.selects op) ⊆
          s.store.replicationOps := List.filter_subset_self _
      rcases mem_page_or_above (hs.position_injOn hsub) hpending hpos with hpage | habove
      · exact Or.inl (List.mem_append_right _ hpage)
      · refine Or.inr ?_
        rw [PollState.cursor_append, OpStream.pending, hstart]
        exact habove

lemma Covered.record (h : Covered stream s) (hs : PollInvariant stream s) {ctx : LocalContext}
    {opts : RecordOptions} (hclock : ClockNotBehind s (.record ctx opts))
    (htie : TieBreaksForward (fun op => stream.selects op = true) stream s (.record ctx opts)) :
    Covered stream ((PollStep.record ctx opts).run stream s) := by
  intro op hop hselects
  have hlog := PollStep.run_record_log stream s ctx opts
  have hold : op ∈ s.store.replicationOps → op ∈ s.returned ∨
      op ∈ stream.pending ((PollStep.record ctx opts).run stream s).store s.cursor := by
    intro hmem
    refine (h op hmem hselects).imp id fun hpending => ?_
    exact OpStream.mem_pending.mpr ⟨hop, (OpStream.mem_pending.mp hpending).2⟩
  rw [hlog] at hop
  split_ifs at hop with hhas
  · exact hold hop
  · rcases List.mem_append.mp hop with hmem | hnew
    · exact hold hmem
    · obtain rfl := List.mem_singleton.mp hnew
      refine Or.inr (OpStream.mem_pending.mpr ⟨?_, hselects, ?_⟩)
      · rw [hlog, if_neg hhas]
        exact hop
      · exact (lt_position_loggedOp_iff hs hclock).mpr
          (htie (Bool.eq_false_of_not_eq_true hhas) hselects)

lemma lost_of_not_tieBreaksForward (hs : PollInvariant stream s) {step : PollStep}
    (hclock : ClockNotBehind s step)
    (htie : ¬ TieBreaksForward (fun op => stream.selects op = true) stream s step) :
    ∃ op, Lost stream op (step.run stream s) := by
  cases step with
  | read limit => exact absurd trivial htie
  | record ctx opts =>
    simp only [TieBreaksForward] at htie
    rw [← lt_position_loggedOp_iff hs hclock] at htie
    push Not at htie
    obtain ⟨hfresh, hselects, p, hp, hle⟩ := htie
    refine ⟨loggedOp ctx s.store opts, ?_, hselects, fun hret => ?_, p, hp, hle⟩
    · rw [PollStep.run_record_log, hfresh]
      simp
    · have hlogged := hs.returned _ hret
      have hne : ∀ op ∈ s.store.replicationOps, op.opId ≠ (loggedOp ctx s.store opts).opId := by
        simpa [Store.hasOp] using hfresh
      exact hne _ hlogged rfl

lemma Lost.run {op : ReplicationOp} (h : Lost stream op s) (hs : PollInvariant stream s)
    (step : PollStep) : Lost stream op (step.run stream s) := by
  obtain ⟨hlogged, hselects, hnot, p, hp, hle⟩ := h
  cases step with
  | record ctx opts =>
    refine ⟨?_, hselects, hnot, p, hp, hle⟩
    rw [PollStep.run_record_log]
    split_ifs
    · exact hlogged
    · exact List.mem_append_left _ hlogged
  | read limit =>
    cases hlast : (s.nextPage stream limit).getLast? with
    | none =>
      rw [PollStep.run_read_of_nil (List.getLast?_eq_none_iff.mp hlast)]
      exact ⟨hlogged, hselects, hnot, p, hp, hle⟩
    | some last =>
      rw [PollStep.run_read_of_last hlast]
      obtain ⟨hpending, hstart, -⟩ := hs.last_spec hlast
      have habove := (OpStream.mem_pending.mp hpending).2.2 p hp
      refine ⟨hlogged, hselects, fun hret => ?_, last.position, ?_, (hle.trans_lt habove).le⟩
      · rcases List.mem_append.mp hret with hret | hret
        · exact hnot hret
        · -- the page lies above the cursor
          have hp' := (OpStream.mem_pending.mp (mem_of_mem_page hret)).2.2 p hp
          exact absurd hle (not_le.mpr hp')
      · rw [PollState.cursor_append, hstart]
        rfl

end Delivery

/-! ### Draining -/

lemma PollInvariant.length_pending_lt {stream : OpStream} {s : PollState}
    (hs : PollInvariant stream s) {limit : ℕ} {last : ReplicationOp}
    (hlast : (s.nextPage stream limit).getLast? = some last) :
    (stream.pending ((PollStep.read limit).run stream s).store
        ((PollStep.read limit).run stream s).cursor).length <
      (stream.pending s.store s.cursor).length := by
  obtain ⟨-, hstart, hpos⟩ := hs.last_spec hlast
  rw [PollStep.run_read_of_last hlast, PollState.cursor_append, OpStream.pending, hstart]
  exact length_entriesAbove_lt hpos

/-- Enough reads of a positive limit drain the log. -/
theorem exists_drained {stream : OpStream} {limit : ℕ} (hlimit : 0 < limit) {s : PollState}
    (hs : PollInvariant stream s) :
    ∃ n, ((List.replicate n (PollStep.read limit)).foldl (PollStep.run stream) s).Drained
      stream := by
  induction hlen : (stream.pending s.store s.cursor).length using Nat.strong_induction_on
    generalizing s with
  | h len ih =>
    cases hlast : (s.nextPage stream limit).getLast? with
    | none =>
      rw [List.getLast?_eq_none_iff, PollState.nextPage, page_eq_nil_iff hlimit] at hlast
      exact ⟨0, hlast⟩
    | some last =>
      have hclock : ClockNotBehind s (.read limit) := fun t ht => by cases ht
      obtain ⟨n, hn⟩ := ih _ (hlen ▸ hs.length_pending_lt hlast) (hs.run hclock) rfl
      exact ⟨n + 1, hn⟩

/-- The peer only stores cursors that advance; with regular positions every next cursor does. -/
theorem cursorAdvances_nextPage {stream : OpStream} {s : PollState} (hs : PollInvariant stream s)
    {width limit : ℕ}
    (hregular : ∀ op ∈ s.store.replicationOps, RegularPosition width op.createdAt op.opId)
    {last : ReplicationOp} (hlast : (s.nextPage stream limit).getLast? = some last) :
    cursorAdvances s.cursor (some last.cursor) = true := by
  obtain ⟨hpending, -, -⟩ := hs.last_spec hlast
  obtain ⟨hlogged, -, habove⟩ := OpStream.mem_pending.mp hpending
  have hbar : '|' ∈ last.cursor.toList := by simp [ReplicationOp.cursor, computeCursor]
  simp only [cursorAdvances, hbar, not_true_eq_false, if_false]
  cases hcursor : s.cursor with
  | none => rfl
  | some c =>
    obtain ⟨op, hop, rfl, hstart⟩ := hs.exists_of_cursor hcursor
    have hlt : jsLt op.cursor last.cursor :=
      (jsLt_computeCursor_iff (hregular op hop) (hregular last hlogged)).mpr (habove _ hstart)
    simp [hlt]

/-! ### No lost update -/

/-- Once reads after the run have drained the log, every op of the stream has been returned. -/
def DeliversAll (stream : OpStream) (st : Store) (steps : List PollStep) : Prop :=
  ∀ limits : List ℕ,
    let s := (steps ++ limits.map PollStep.read).foldl (PollStep.run stream) (.initial st)
    s.Drained stream → ∀ op ∈ s.store.replicationOps, stream.selects op = true → op ∈ s.returned

section Runs

variable {steps : List PollStep}

lemma NondecreasingClock.append_reads (h : NondecreasingClock steps) (limits : List ℕ) :
    NondecreasingClock (steps ++ limits.map PollStep.read) := by
  have hread : ∀ step ∈ limits.map PollStep.read, step.time = none := by
    intro step hstep
    obtain ⟨limit, -, rfl⟩ := List.mem_map.mp hstep
    rfl
  refine ⟨fun step hstep t ht => ?_, List.pairwise_append.mpr ⟨h.sorted, ?_, ?_⟩⟩
  · rcases List.mem_append.mp hstep with hstep | hstep
    · exact h.noBar step hstep t ht
    · rw [hread step hstep] at ht
      cases ht
  · refine List.pairwise_of_forall_mem_list fun a ha b _ t ht => ?_
    rw [hread a ha] at ht
    cases ht
  · intro a _ b hb t _ t' ht'
    rw [hread b hb] at ht'
    cases ht'

lemma NondecreasingClock.stepsMeet (h : NondecreasingClock steps) (stream : OpStream)
    (st : Store) (limits : List ℕ) :
    StepsMeet (PollStep.run stream) (fun s step => PollInvariant stream s ∧ ClockNotBehind s step)
      (.initial st) (steps ++ limits.map PollStep.read) :=
  stepsMeet_clockNotBehind (.initial stream st) (h.append_reads limits) fun _ hop =>
    absurd hop List.not_mem_nil

/-- Everything is delivered exactly when every record of the stream breaks its tie forward. -/
theorem deliversAll_iff (stream : OpStream) (st : Store) (hclock : NondecreasingClock steps) :
    DeliversAll stream st steps ↔
      StepsMeet (PollStep.run stream)
        (TieBreaksForward (fun op => stream.selects op = true) stream) (.initial st) steps := by
  have hmeets := hclock.stepsMeet stream st
  constructor
  · intro hdelivers
    by_contra hmiss
    have hmeet : StepsMeet (PollStep.run stream)
        (fun s step => PollInvariant stream s ∧ ClockNotBehind s step) (.initial st) steps := by
      simpa using hmeets []
    obtain ⟨n, hdrained⟩ := exists_drained Nat.one_pos
      (hmeet.foldl (PollInvariant.initial stream st) fun s a h hs => hs.run h.2)
    have hread := hdelivers (List.replicate n 1)
    rw [List.map_replicate, List.foldl_append] at hread
    have hfinal := hread hdrained
    obtain ⟨before, step, after, rfl, hstep⟩ := exists_of_not_stepsMeet hmiss
    have hrun := hmeets (List.replicate n 1)
    rw [List.append_assoc, List.cons_append] at hrun
    obtain ⟨-, ⟨hs, hnotBehind⟩, hafter⟩ := (stepsMeet_append_iff _ _).mp hrun
    obtain ⟨op, hlost⟩ := lost_of_not_tieBreaksForward hs hnotBehind hstep
    -- once lost, the op is never returned
    have hlostEnd := hafter.foldl hlost fun s a h hl => hl.run h.1 a
    rw [List.map_replicate, List.foldl_append] at hlostEnd
    rw [List.foldl_append, List.foldl_cons] at hfinal
    exact hlostEnd.2.2.1 (hfinal op hlostEnd.1 hlostEnd.2.1)
  · intro htie limits s hdrained op hop hselects
    have hreads : StepsMeet (PollStep.run stream)
        (TieBreaksForward (fun op => stream.selects op = true) stream)
        (steps.foldl (PollStep.run stream) (.initial st)) (limits.map PollStep.read) := by
      refine stepsMeet_of_forall fun step hstep s => ?_
      obtain ⟨limit, -, rfl⟩ := List.mem_map.mp hstep
      trivial
    have hcovered : Covered stream s := by
      refine ((hmeets limits).and ((stepsMeet_append_iff _ _).mpr ⟨htie, hreads⟩)).foldl
        (fun op hop => absurd hop List.not_mem_nil) fun s step h hcov => ?_
      obtain ⟨⟨hs, hnotBehind⟩, hstep⟩ := h
      cases step with
      | record ctx opts => exact hcov.record hs hnotBehind hstep
      | read limit => exact hcov.read hs limit
    refine (hcovered op hop hselects).resolve_right fun hpending => ?_
    rw [hdrained] at hpending
    cases hpending

/-- In a run of records with a clock that never decreases and of reads, every op of the stream is
delivered and no op is inserted at or below a cursor handed out, exactly when every new op recorded
in the millisecond of the stored cursor has an op id above that of the cursor. -/
theorem polling_no_lost_update_iff (stream : OpStream) (st : Store)
    (hclock : NondecreasingClock steps) :
    DeliversAll stream st steps ∧
        StepsMeet (PollStep.run stream) (InsertsAbove (fun _ => True) stream) (.initial st) steps ↔
      StepsMeet (PollStep.run stream) (TieBreaksForward (fun _ => True) stream) (.initial st)
        steps := by
  have hmeet : StepsMeet (PollStep.run stream)
      (fun s step => PollInvariant stream s ∧ ClockNotBehind s step) (.initial st) steps := by
    simpa using hclock.stepsMeet stream st []
  rw [deliversAll_iff stream st hclock,
    hmeet.congr_iff fun s step h => insertsAbove_iff (fun _ => True) h.1 h.2]
  refine and_iff_right_of_imp fun htie => ?_
  refine (hmeet.and htie).imp fun s step h => ?_
  cases step with
  | read limit => trivial
  | record ctx opts => exact fun hfresh _ => h.2 hfresh trivial

end Runs

/-- A store with one memory of scope `team`. -/
def samplePolledStore : Store :=
  { Store.empty with
    memoryItems := [{
      id := 1, sessionId := 0, kind := "note", title := "title", bodyText := "text"
      active := some 1, createdAt := "2026-01-01", updatedAt := "2026-01-01"
      metadataJson := none, actorId := none, visibility := none, workspaceId := none
      workspaceKind := none, originDeviceId := none, deletedAt := none, rev := some 1
      importKey := some "m1", scopeId := some "team", project := none
      content := MemoryContent.empty }] }

/-- A record of the memory at a given time, with a given random op id. -/
def sampleRecord (now randomUUID : String) : PollStep :=
  .record ⟨"dev", now, randomUUID, fun _ _ => "", fun _ _ _ _ _ => ""⟩ (.plain 1 .upsert "dev")

lemma nondecreasingClock_sampleRecord {now now' : String} (h : '|' ∉ now.toList)
    (h' : '|' ∉ now'.toList) (hle : now ≤ now') (randomUUID randomUUID' : String) (limit : ℕ) :
    NondecreasingClock
      [sampleRecord now randomUUID, .read limit, sampleRecord now' randomUUID'] := by
  refine ⟨fun step hstep t ht => ?_, ?_⟩
  · simp only [List.mem_cons, List.not_mem_nil, or_false] at hstep
    rcases hstep with rfl | rfl | rfl <;> cases ht
    · exact h
    · exact h'
  · simp [sampleRecord, PollStep.time, RecordOptions.plain, hle]

/-- Two records in one millisecond, in the order of their ids, are delivered. -/
theorem polling_delivers_in_order :
    DeliversAll (.replicationOps none none) samplePolledStore
      [sampleRecord "2026-01-01" "a", .read 10, sampleRecord "2026-01-01" "b"] := by
  refine ((polling_no_lost_update_iff (.replicationOps none none) samplePolledStore
    (nondecreasingClock_sampleRecord (by decide) (by decide) le_rfl "a" "b" 10)).mpr ?_).1
  refine ⟨fun _ _ p hp => ?_, trivial, fun _ _ p hp _ => ?_, trivial⟩
  · cases hp
  · obtain rfl : toLex ("2026-01-01", "a") = p := Option.some.inj hp
    decide

/-- Against the order of their ids, the second record is never delivered. -/
theorem polling_loses_same_millisecond :
    ¬ (DeliversAll (.replicationOps none none) samplePolledStore
        [sampleRecord "2026-01-01" "b", .read 10, sampleRecord "2026-01-01" "a"] ∧
      StepsMeet (PollStep.run (.replicationOps none none))
        (InsertsAbove (fun _ => True) (.replicationOps none none)) (.initial samplePolledStore)
        [sampleRecord "2026-01-01" "b", .read 10, sampleRecord "2026-01-01" "a"]) := by
  rintro ⟨hdelivers, -⟩
  have hdrained := hdelivers [10] rfl
  generalize hs : ([sampleRecord "2026-01-01" "b", PollStep.read 10,
    sampleRecord "2026-01-01" "a"] ++ [10].map PollStep.read).foldl
      (PollStep.run (.replicationOps none none)) (.initial samplePolledStore) = s at hdrained
  have hlog : s.store.replicationOps.map ReplicationOp.opId = ["b", "a"] := by
    rw [← hs]
    decide
  have hreturned : s.returned.map ReplicationOp.opId = ["b"] := by
    rw [← hs]
    decide
  obtain ⟨op, hop, hid⟩ := List.mem_map.mp (hlog ▸ (by simp) :
    "a" ∈ s.store.replicationOps.map ReplicationOp.opId)
  have hmem := List.mem_map_of_mem (f := ReplicationOp.opId) (hdrained op hop rfl)
  rw [hreturned, hid] at hmem
  exact absurd hmem (by decide)

end Codemem
