import Codemem.RawEvents.Batches

/-!
# The integrity of the event log

Three calls number new events in three ways: by a count of one, by a count that may be reconciled
downward, and above the maximum of the counter and the rows.  In every state that the calls reach,
the counter of a stream is at least its greatest number and its watermark, so no new row is refused:
the numbers ever given out in a stream increase, and each identifier is present once.
-/

namespace Codemem

/-! ### Keeping the first of clashing entries -/

section KeepFirst

variable {α : Type} {clash : α → α → Bool}

lemma foldl_keepFirst (entries kept : List α)
    (h : kept.Pairwise fun a b => clash a b = false) :
    let result := entries.foldl
      (fun kept a => if kept.any fun b => clash b a then kept else kept ++ [a]) kept
    result.Pairwise (fun a b => clash a b = false) ∧ kept ⊆ result ∧ result ⊆ kept ++ entries := by
  induction entries generalizing kept with
  | nil => exact ⟨h, List.Subset.refl _, by simp⟩
  | cons a entries ih =>
    dsimp only
    rw [List.foldl_cons]
    by_cases hany : (kept.any fun b => clash b a) = true
    · rw [if_pos hany]
      obtain ⟨hpairwise, hsub, hsup⟩ := ih kept h
      refine ⟨hpairwise, hsub, fun b hb => ?_⟩
      rcases List.mem_append.mp (hsup hb) with hold | hnew
      · exact List.mem_append_left _ hold
      · exact List.mem_append_right _ (List.mem_cons_of_mem _ hnew)
    · rw [if_neg hany]
      have hfresh : ∀ b ∈ kept, clash b a = false := by
        intro b hb
        rw [Bool.eq_false_iff]
        intro hclash
        exact hany (List.any_eq_true.mpr ⟨b, hb, hclash⟩)
      have happend : (kept ++ [a]).Pairwise fun a b => clash a b = false := by
        rw [List.pairwise_append]
        refine ⟨h, List.pairwise_singleton _ _, fun b hb c hc => ?_⟩
        rw [List.mem_singleton.mp hc]
        exact hfresh b hb
      obtain ⟨hpairwise, hsub, hsup⟩ := ih (kept ++ [a]) happend
      refine ⟨hpairwise, fun b hb => hsub (List.mem_append_left _ hb), fun b hb => ?_⟩
      simpa using hsup hb

lemma pairwise_keepFirst (entries : List α) :
    (keepFirst clash entries).Pairwise fun a b => clash a b = false :=
  (foldl_keepFirst entries [] List.Pairwise.nil).1

lemma keepFirst_subset (entries : List α) : keepFirst clash entries ⊆ entries := by
  have hsup : keepFirst clash entries ⊆ [] ++ entries :=
    (foldl_keepFirst entries [] List.Pairwise.nil).2.2
  rwa [List.nil_append] at hsup

lemma mem_keepFirst {before after : List α} {a : α} (h : ∀ b ∈ before, clash b a = false) :
    a ∈ keepFirst clash (before ++ a :: after) := by
  have hstep : ((keepFirst clash before).any fun b => clash b a) = false := by
    rw [List.any_eq_false]
    intro b hb
    rw [h b (keepFirst_subset before hb)]
    exact Bool.false_ne_true
  have happend : (keepFirst clash before ++ [a]).Pairwise fun a b => clash a b = false := by
    rw [List.pairwise_append]
    refine ⟨pairwise_keepFirst before, List.pairwise_singleton _ _, fun b hb c hc => ?_⟩
    rw [List.mem_singleton.mp hc]
    exact h b (keepFirst_subset before hb)
  have hrest := (foldl_keepFirst after _ happend).2.1
  unfold keepFirst at hrest hstep ⊢
  rw [List.foldl_append, List.foldl_cons, hstep]
  exact hrest (List.mem_append_right _ (List.mem_singleton_self a))

lemma mem_keepFirst_beq {β : Type} [BEq β] [LawfulBEq β] {entries : List β} {a : β}
    (h : a ∈ entries) : a ∈ keepFirst (· == ·) entries := by
  obtain ⟨before, after, rfl, hnot⟩ := List.eq_append_cons_of_mem h
  refine mem_keepFirst fun b hb => ?_
  rw [beq_eq_false_iff_ne]
  rintro rfl
  exact hnot hb

end KeepFirst

namespace RawEventStore

/-- A unique index of `raw_events` does not take both rows. -/
def Clash (event row : RawEvent) : Prop :=
  event.stream = row.stream ∧ (event.eventSeq = row.eventSeq ∨ event.eventId = row.eventId)

/-- The rows clash neither with the stored ones nor with each other. -/
structure Fits (s : RawEventStore) (rows : List RawEvent) : Prop where
  stored : ∀ event ∈ s.events, ∀ row ∈ rows, ¬ Clash event row
  apart : rows.Pairwise fun row row' => ¬ Clash row row'

variable {s s' : RawEventStore} {stream : StreamIdentity}

lemma refuses_iff {row : RawEvent} : s.refuses row = true ↔ ∃ event ∈ s.events, Clash event row := by
  unfold refuses eventsOf Clash
  rw [List.any_eq_true]
  constructor
  · rintro ⟨event, hevent, hclash⟩
    obtain ⟨hmem, hstream⟩ := List.mem_filter.mp hevent
    exact ⟨event, hmem, beq_iff_eq.mp hstream, by simpa using hclash⟩
  · rintro ⟨event, hevent, hstream, hclash⟩
    exact ⟨event, List.mem_filter.mpr ⟨hevent, beq_iff_eq.mpr hstream⟩, by simpa using hclash⟩

lemma Fits.cons {row : RawEvent} {rows : List RawEvent} (h : s.Fits (row :: rows)) :
    s.refuses row = false ∧ Fits { s with events := s.events ++ [row] } rows := by
  obtain ⟨hfirst, hrest⟩ := List.pairwise_cons.mp h.apart
  refine ⟨?_, ?_, hrest⟩
  · rw [Bool.eq_false_iff]
    intro hrefused
    obtain ⟨event, hevent, hclash⟩ := refuses_iff.mp hrefused
    exact h.stored event hevent row List.mem_cons_self hclash
  · intro event hevent row' hrow'
    rcases List.mem_append.mp hevent with hold | hnew
    · exact h.stored event hold row' (List.mem_cons_of_mem _ hrow')
    · rw [List.mem_singleton.mp hnew]
      exact hfirst row' hrow'

lemma insertNewEvents_eq {rows : List RawEvent} (h : s.Fits rows) :
    s.insertNewEvents rows = ({ s with events := s.events ++ rows }, rows.length) := by
  have hfold : ∀ (rows : List RawEvent) (s : RawEventStore) (inserted : ℕ), s.Fits rows →
      rows.foldl (fun acc row =>
        if acc.1.refuses row then acc
        else ({ acc.1 with events := acc.1.events ++ [row] }, acc.2 + 1)) (s, inserted) =
        ({ s with events := s.events ++ rows }, inserted + rows.length) := by
    intro rows
    induction rows with
    | nil => simp
    | cons row rows ih =>
      intro s inserted h
      obtain ⟨hrefused, hrest⟩ := h.cons
      rw [List.foldl_cons]
      dsimp only
      rw [if_neg (by rw [hrefused]; exact Bool.false_ne_true), ih _ _ hrest]
      simp [List.length_cons, Nat.add_comm, Nat.add_left_comm]
  exact (hfold rows s 0 h).trans (by rw [Nat.zero_add])

lemma insertNumbered_eq {entries : List (NormalizedEvent × ℤ)}
    (h : s.Fits (entries.map fun entry => entry.1.toCapturedEvent.row stream entry.2)) :
    s.insertNumbered stream entries = .ok { s with
      events := s.events ++ entries.map fun entry => entry.1.toCapturedEvent.row stream entry.2 } := by
  unfold insertNumbered
  induction entries generalizing s with
  | nil => simp [pure, Except.pure]
  | cons entry entries ih =>
    obtain ⟨hrefused, hrest⟩ := Fits.cons h
    rw [List.foldlM_cons]
    have hinsert : s.insertEvent (entry.1.toCapturedEvent.row stream entry.2) =
        .ok { s with events := s.events ++ [entry.1.toCapturedEvent.row stream entry.2] } := by
      unfold insertEvent
      rw [if_neg (by rw [hrefused]; exact Bool.false_ne_true)]
    rw [hinsert]
    change List.foldlM _ _ _ = _
    rw [ih hrest]
    simp

/-! ### Intact logs -/

/-- The log of a store is intact: an identifier is present once in a stream, and the counter of a
stream has passed its numbers and its watermark. -/
structure Intact (s : RawEventStore) : Prop where
  ids : s.events.Pairwise fun a b => a.stream = b.stream → a.eventId ≠ b.eventId
  received : ∀ event ∈ s.events, event.eventSeq ≤ s.lastReceived event.stream
  flushed : ∀ stream, s.rawEventFlushState stream ≤ s.lastReceived stream

/-- New rows are appended: numbered upward above the counter, which they raise, and with new
identifiers. -/
structure Appends (s s' : RawEventStore) (added : List RawEvent) : Prop where
  events : s'.events = s.events ++ added
  flushed : ∀ stream, s'.rawEventFlushState stream = s.rawEventFlushState stream
  received : ∀ stream, s.lastReceived stream ≤ s'.lastReceived stream
  numbers : ∀ row ∈ added, s.lastReceived row.stream < row.eventSeq ∧
    row.eventSeq ≤ s'.lastReceived row.stream
  increasing : added.Pairwise fun a b => a.stream = b.stream → a.eventSeq < b.eventSeq
  newIds : ∀ row ∈ added, ∀ event ∈ s.events, event.stream = row.stream →
    event.eventId ≠ row.eventId
  ids : added.Pairwise fun a b => a.stream = b.stream → a.eventId ≠ b.eventId

namespace Appends

variable {s'' : RawEventStore} {added added' : List RawEvent}

lemma refl (s : RawEventStore) : Appends s s [] where
  events := (List.append_nil _).symm
  flushed := fun _ => rfl
  received := fun _ => le_rfl
  numbers := fun _ h => absurd h List.not_mem_nil
  increasing := List.Pairwise.nil
  newIds := fun _ h => absurd h List.not_mem_nil
  ids := List.Pairwise.nil

lemma trans (h : Appends s s' added) (h' : Appends s' s'' added') :
    Appends s s'' (added ++ added') where
  events := by rw [h'.events, h.events, List.append_assoc]
  flushed := fun stream => (h'.flushed stream).trans (h.flushed stream)
  received := fun stream => (h.received stream).trans (h'.received stream)
  numbers := by
    intro row hrow
    rcases List.mem_append.mp hrow with hfirst | hsecond
    · obtain ⟨hlt, hle⟩ := h.numbers row hfirst
      exact ⟨hlt, hle.trans (h'.received row.stream)⟩
    · obtain ⟨hlt, hle⟩ := h'.numbers row hsecond
      exact ⟨(h.received row.stream).trans_lt hlt, hle⟩
  increasing := by
    rw [List.pairwise_append]
    refine ⟨h.increasing, h'.increasing, fun a ha b hb hstream => ?_⟩
    have hle := (h.numbers a ha).2
    have hlt := (h'.numbers b hb).1
    rw [hstream] at hle
    omega
  newIds := by
    intro row hrow event hevent
    rcases List.mem_append.mp hrow with hfirst | hsecond
    · exact h.newIds row hfirst event hevent
    · refine h'.newIds row hsecond event ?_
      rw [h.events]
      exact List.mem_append_left _ hevent
  ids := by
    rw [List.pairwise_append]
    refine ⟨h.ids, h'.ids, fun a ha b hb => h'.newIds b hb a ?_⟩
    rw [h.events]
    exact List.mem_append_right _ ha

lemma intact (h : Appends s s' added) (hs : Intact s) : Intact s' where
  ids := by
    rw [h.events, List.pairwise_append]
    exact ⟨hs.ids, h.ids, fun event hevent row hrow => h.newIds row hrow event hevent⟩
  received := by
    intro event hevent
    rw [h.events] at hevent
    rcases List.mem_append.mp hevent with hold | hnew
    · exact (hs.received event hold).trans (h.received event.stream)
    · exact (h.numbers event hnew).2
  flushed := by
    intro stream
    rw [h.flushed stream]
    exact (hs.flushed stream).trans (h.received stream)

end Appends

lemma hasEventId_eq_false_iff {eventId : String} :
    s.hasEventId stream eventId = false ↔
      ∀ event ∈ s.events, event.stream = stream → event.eventId ≠ eventId := by
  unfold hasEventId eventsOf
  rw [List.any_eq_false]
  constructor
  · intro h event hevent hstream heq
    exact h event (List.mem_filter.mpr ⟨hevent, beq_iff_eq.mpr hstream⟩) (beq_iff_eq.mpr heq)
  · intro h event hevent heq
    obtain ⟨hmem, hstream⟩ := List.mem_filter.mp hevent
    exact h event hmem (beq_iff_eq.mp hstream) (beq_iff_eq.mp heq)

@[simp] lemma length_numbered {α : Type} {startSeq : ℤ} {events : List α} :
    (numbered startSeq events).length = events.length := by
  induction events generalizing startSeq with
  | nil => rfl
  | cons event events ih => rw [numbered, List.length_cons, List.length_cons, ih]

lemma pairwise_numbered {α : Type} {R : α → α → Prop} {events : List α} (startSeq : ℤ)
    (h : events.Pairwise R) :
    (numbered startSeq events).Pairwise fun a b => a.2 < b.2 ∧ R a.1 b.1 := by
  induction events generalizing startSeq with
  | nil => exact List.Pairwise.nil
  | cons event events ih =>
    obtain ⟨hfirst, hrest⟩ := List.pairwise_cons.mp h
    rw [numbered, List.pairwise_cons]
    refine ⟨fun entry hentry => ⟨?_, hfirst entry.1 (mem_of_numbered hentry)⟩, ih _ hrest⟩
    have hle := (mem_numbered hentry).1
    dsimp only
    omega

section Numbered

variable {α : Type} {events : List α} {startSeq : ℤ}

def numberedRows (toCaptured : α → CapturedEvent) (stream : StreamIdentity) (startSeq : ℤ)
    (events : List α) : List RawEvent :=
  (numbered startSeq events).map fun entry => (toCaptured entry.1).row stream entry.2

lemma mem_numberedRows_iff {toCaptured : α → CapturedEvent} {row : RawEvent}
    (h : row ∈ numberedRows toCaptured stream startSeq events) :
    row.stream = stream ∧ startSeq ≤ row.eventSeq ∧ row.eventSeq < startSeq + events.length ∧
      ∃ event ∈ events, row.eventId = (toCaptured event).eventId := by
  obtain ⟨entry, hentry, rfl⟩ := List.mem_map.mp h
  obtain ⟨hle, hlt⟩ := mem_numbered hentry
  exact ⟨rfl, hle, hlt, entry.1, mem_of_numbered hentry, rfl⟩

lemma exists_mem_numberedRows {toCaptured : α → CapturedEvent} {event : α} (h : event ∈ events) :
    ∃ seq, (toCaptured event).row stream seq ∈ numberedRows toCaptured stream startSeq events := by
  induction events generalizing startSeq with
  | nil => cases h
  | cons first rest ih =>
    rcases List.mem_cons.mp h with rfl | h
    · exact ⟨startSeq, List.mem_cons_self⟩
    · obtain ⟨seq, hseq⟩ := @ih (startSeq + 1) h
      exact ⟨seq, List.mem_cons_of_mem _ hseq⟩

/-- New events above the counter with new identifiers fit, and appending them is an append. -/
lemma numberedRows_spec {toCaptured : α → CapturedEvent} (hs : Intact s)
    (hstart : s.lastReceived stream < startSeq)
    (hfresh : ∀ event ∈ events, s.hasEventId stream (toCaptured event).eventId = false)
    (hids : events.Pairwise fun a b => (toCaptured a).eventId ≠ (toCaptured b).eventId) :
    Fits s (numberedRows toCaptured stream startSeq events) ∧
      ∀ s', s'.events = s.events ++ numberedRows toCaptured stream startSeq events →
        (∀ other, s'.rawEventFlushState other = s.rawEventFlushState other) →
        (∀ other, s.lastReceived other ≤ s'.lastReceived other) →
        startSeq + events.length ≤ s'.lastReceived stream + 1 →
        Appends s s' (numberedRows toCaptured stream startSeq events) := by
  have hpairwise : (numberedRows toCaptured stream startSeq events).Pairwise fun a b =>
      a.eventSeq < b.eventSeq ∧ a.eventId ≠ b.eventId :=
    List.pairwise_map.mpr (pairwise_numbered startSeq hids)
  have hnew : ∀ row ∈ numberedRows toCaptured stream startSeq events, ∀ event ∈ s.events,
      event.stream = row.stream → event.eventSeq < row.eventSeq ∧ event.eventId ≠ row.eventId := by
    intro row hrow event hevent hstream
    obtain ⟨hrowStream, hle, -, named, hnamed, hid⟩ := mem_numberedRows_iff hrow
    have hreceived := hs.received event hevent
    rw [hstream, hrowStream] at hreceived
    rw [hid]
    have hne := hasEventId_eq_false_iff.mp (hfresh named hnamed) event hevent
      (hstream.trans hrowStream)
    exact ⟨by omega, hne⟩
  constructor
  · constructor
    · rintro event hevent row hrow ⟨hstream, hclash⟩
      obtain ⟨hlt, hne⟩ := hnew row hrow event hevent hstream
      rcases hclash with hseq | hid
      · omega
      · exact hne hid
    · refine hpairwise.imp ?_
      rintro a b ⟨hlt, hne⟩ ⟨-, hclash⟩
      rcases hclash with hseq | hid
      · omega
      · exact hne hid
  · intro s' hevents hflushed hreceived hlast
    constructor
    · exact hevents
    · exact hflushed
    · exact hreceived
    · intro row hrow
      obtain ⟨hrowStream, hle, hlt, -⟩ := mem_numberedRows_iff hrow
      rw [hrowStream]
      constructor
      · omega
      · omega
    · exact hpairwise.imp fun h _ => h.1
    · exact fun row hrow event hevent hstream => (hnew row hrow event hevent hstream).2
    · exact hpairwise.imp fun h _ => h.2

end Numbered

/-! ### The capture calls on an intact log -/

lemma ensureRawEventSession_appends : Appends s (s.ensureRawEventSession stream) [] where
  events := by rw [events_ensureRawEventSession, List.append_nil]
  flushed := fun _ => rawEventFlushState_ensureRawEventSession
  received := fun _ => lastReceived_ensureRawEventSession.ge
  numbers := fun _ h => absurd h List.not_mem_nil
  increasing := List.Pairwise.nil
  newIds := fun _ h => absurd h List.not_mem_nil
  ids := List.Pairwise.nil

lemma recordStreamEvent_appends (hs : Intact s) {event : CapturedEvent}
    (hfresh : s.hasEventId stream event.eventId = false) :
    ∃ s' row, s.recordStreamEvent stream event = .ok (true, s') ∧ Appends s s' [row] ∧
      ∃ seq, row = event.row stream seq := by
  let ensured := s.ensureRawEventSession stream
  have hensured : Appends s ensured [] := ensureRawEventSession_appends
  have hintact : Intact ensured := hensured.intact hs
  have hsession : (ensured.session stream).isSome = true := isSome_session_ensureRawEventSession
  have hread := fun other => @lastReceived_allocateRawEventSeqRange ensured stream other 1 hsession
  have hfirst := @fst_allocateRawEventSeqRange ensured stream 1 hsession
  let allocated := (ensured.allocateRawEventSeqRange stream 1).2
  let row := event.row stream (ensured.lastReceived stream + 1)
  obtain ⟨hfits, happends⟩ := @numberedRows_spec ensured stream CapturedEvent [event]
    (ensured.lastReceived stream + 1) id hintact (by omega)
    (fun named hnamed => by
      rw [List.mem_singleton.mp hnamed]
      unfold hasEventId eventsOf at hfresh ⊢
      rw [events_ensureRawEventSession]
      exact hfresh)
    (List.pairwise_singleton _ _)
  have hrefused : allocated.refuses row = false := (Fits.cons hfits).1
  refine ⟨{ allocated with events := allocated.events ++ [row] }, row, ?_, ?_, _, rfl⟩
  · unfold recordStreamEvent
    rw [if_neg (by rw [hfresh]; exact Bool.false_ne_true)]
    dsimp only
    rw [hfirst]
    unfold insertEvent
    rw [if_neg (by rw [hrefused]; exact Bool.false_ne_true)]
    rfl
  · have hrow : Appends ensured { allocated with events := allocated.events ++ [row] } [row] := by
      refine happends _ rfl (fun other => ?_) (fun other => ?_) ?_
      · exact @rawEventFlushState_setLastReceived ensured stream other (· + ((1 : ℕ) : ℤ))
      · change _ ≤ allocated.lastReceived other
        rw [hread]
        split_ifs
        · push_cast
          omega
        · exact le_rfl
      · change _ ≤ allocated.lastReceived stream + 1
        rw [hread, if_pos rfl]
        push_cast
        simp
    exact hensured.trans hrow

lemma newRawEventBatchItems_spec (events : List CapturedEvent) :
    (∀ event ∈ s.newRawEventBatchItems stream events,
      s.hasEventId stream event.eventId = false) ∧
      (s.newRawEventBatchItems stream events).Pairwise (fun a b => a.eventId ≠ b.eventId) ∧
      ∀ before event after, (events.filter fun event =>
          !event.eventId.toList.isEmpty && !event.eventType.toList.isEmpty) =
            before ++ event :: after →
        s.hasEventId stream event.eventId = false →
        (∀ earlier ∈ before, earlier.eventId ≠ event.eventId) →
          event ∈ s.newRawEventBatchItems stream events := by
  unfold newRawEventBatchItems
  dsimp only
  refine ⟨fun event hevent => ?_, ?_, fun before event after hsplit hfresh hearlier => ?_⟩
  · simpa using (List.mem_filter.mp hevent).2
  · refine List.Pairwise.filter _ ((pairwise_keepFirst _).imp ?_)
    intro a b hab
    simpa using hab
  · rw [hsplit]
    refine List.mem_filter.mpr ⟨mem_keepFirst fun earlier hmem => ?_, by rw [hfresh]; rfl⟩
    exact beq_eq_false_iff_ne.mpr (hearlier earlier hmem)

/-- New items of a batch with a session row are all inserted. -/
lemma appendRawEventBatch_appends (hs : Intact s) (hsession : (s.session stream).isSome = true)
    {items : List CapturedEvent}
    (hfresh : ∀ event ∈ items, s.hasEventId stream event.eventId = false)
    (hids : items.Pairwise fun a b => a.eventId ≠ b.eventId) :
    (s.appendRawEventBatch stream items).1 = items.length ∧
      Appends s (s.appendRawEventBatch stream items).2
        (numberedRows id stream (s.lastReceived stream + 1) items) := by
  have hread := fun other =>
    @lastReceived_allocateRawEventSeqRange s stream other items.length hsession
  obtain ⟨hfits, happends⟩ := @numberedRows_spec s stream CapturedEvent items
    (s.lastReceived stream + 1) id hs (by omega) hfresh hids
  have hlength : (numberedRows id stream (s.lastReceived stream + 1) items).length =
      items.length := by
    unfold numberedRows
    rw [List.length_map, length_numbered]
  let allocated := (s.allocateRawEventSeqRange stream items.length).2
  let filled : RawEventStore := { allocated with
    events := allocated.events ++ numberedRows id stream (s.lastReceived stream + 1) items }
  have hinserted : allocated.insertNewEvents
      (numberedRows id stream (s.lastReceived stream + 1) items) = (filled, items.length) := by
    have hall := @insertNewEvents_eq allocated _ ⟨hfits.stored, hfits.apart⟩
    rw [hlength] at hall
    exact hall
  have happended : s.appendRawEventBatch stream items = (items.length, filled) := by
    unfold appendRawEventBatch
    dsimp only
    rw [fst_allocateRawEventSeqRange hsession]
    change ((allocated.insertNewEvents (numberedRows id stream (s.lastReceived stream + 1) items)).2,
      (allocated.insertNewEvents
        (numberedRows id stream (s.lastReceived stream + 1) items)).1.reconcileRawSeq stream
        (allocated.insertNewEvents
          (numberedRows id stream (s.lastReceived stream + 1) items)).2 items.length
        (s.lastReceived stream + 1 - 1)) = _
    rw [hinserted]
    unfold reconcileRawSeq
    rw [if_pos rfl]
  rw [happended]
  refine ⟨rfl, happends filled rfl (fun other => ?_) (fun other => ?_) ?_⟩
  · exact @rawEventFlushState_setLastReceived s stream other (· + (items.length : ℤ))
  · change _ ≤ allocated.lastReceived other
    rw [hread]
    split_ifs
    · omega
    · exact le_rfl
  · change _ ≤ allocated.lastReceived stream + 1
    rw [hread, if_pos rfl]
    omega

lemma recordStreamEvents_appends (hs : Intact s) (events : List CapturedEvent) :
    ∃ startSeq, (s.recordStreamEvents stream events).1.1 =
        ((s.ensureRawEventSession stream).newRawEventBatchItems stream events).length ∧
      Appends s (s.recordStreamEvents stream events).2 (numberedRows id stream startSeq
        ((s.ensureRawEventSession stream).newRawEventBatchItems stream events)) := by
  have hensured : Appends s (s.ensureRawEventSession stream) [] := ensureRawEventSession_appends
  obtain ⟨hfresh, hids, -⟩ :=
    @newRawEventBatchItems_spec (s.ensureRawEventSession stream) stream events
  refine ⟨(s.ensureRawEventSession stream).lastReceived stream + 1, ?_⟩
  unfold recordStreamEvents
  dsimp only
  split_ifs with hempty
  · rw [List.isEmpty_iff.mp hempty]
    exact ⟨rfl, hensured⟩
  · obtain ⟨hlength, happends⟩ := appendRawEventBatch_appends (hensured.intact hs)
      isSome_session_ensureRawEventSession hfresh hids
    exact ⟨hlength, hensured.trans happends⟩

lemma streamCandidates_spec (events : List NormalizedEvent) :
    (∀ event ∈ s.streamCandidates stream events, s.hasEventId stream event.eventId = false) ∧
      (s.streamCandidates stream events).Pairwise (fun a b => a.eventId ≠ b.eventId) ∧
      ∀ before event after, events = before ++ event :: after →
        (∀ id ∈ event.eventIdAliases, s.hasEventId stream id = false) →
        (∀ earlier ∈ before, ∀ id ∈ event.eventIdAliases, id ∉ earlier.eventIdAliases) →
          event ∈ s.streamCandidates stream events := by
  have hself : ∀ event : NormalizedEvent, event.eventId ∈ event.eventIdAliases :=
    fun _ => List.mem_cons_self
  unfold streamCandidates
  refine ⟨fun event hevent => ?_, ?_, fun before event after hsplit hfresh hearlier => ?_⟩
  · have hnone := (List.mem_filter.mp hevent).2
    rw [Bool.not_eq_true', List.any_eq_false] at hnone
    exact Bool.eq_false_iff.mpr (hnone event.eventId (hself event))
  · refine List.Pairwise.filter _ ((pairwise_keepFirst _).imp ?_)
    intro a b hab hsame
    rw [List.any_eq_false] at hab
    refine hab b.eventId (hself b) (List.contains_iff_mem.mpr ?_)
    rw [← hsame]
    exact hself a
  · rw [hsplit]
    refine List.mem_filter.mpr ⟨mem_keepFirst fun earlier hmem => ?_, ?_⟩
    · rw [List.any_eq_false]
      intro id hid hcontains
      exact hearlier earlier hmem id hid (List.contains_iff_mem.mp hcontains)
    · rw [Bool.not_eq_true', List.any_eq_false]
      intro id hid
      rw [hfresh id hid]
      exact Bool.false_ne_true

lemma persistStream_appends (hs : Intact s) (events : List NormalizedEvent) :
    ∃ s' startSeq, s.persistStream stream events = .ok s' ∧
      Appends s s' (numberedRows NormalizedEvent.toCapturedEvent stream startSeq
        (s.streamCandidates stream events)) := by
  obtain ⟨hfresh, hids, -⟩ := @streamCandidates_spec s stream events
  have hbound : s.lastReceived stream ≤ max (s.lastReceived stream) (s.maxEventSeq stream) :=
    le_max_left _ _
  obtain ⟨hfits, happends⟩ := @numberedRows_spec s stream NormalizedEvent
    (s.streamCandidates stream events)
    (max (s.lastReceived stream) (s.maxEventSeq stream) + 1) NormalizedEvent.toCapturedEvent hs
    (by omega) hfresh hids
  unfold persistStream
  dsimp only
  rw [insertNumbered_eq hfits]
  refine ⟨_, max (s.lastReceived stream) (s.maxEventSeq stream) + 1, rfl, happends _ rfl
    (fun other => rawEventFlushState_raiseLastReceived) (fun other => ?_) ?_⟩
  · by_cases hsame : other = stream
    · rw [hsame]
      refine le_trans ?_ (@lastReceived_raiseLastReceived _ stream stream _).1
      omega
    · exact (lastReceived_raiseLastReceived.2 hsame).ge
  · have hreached := @lastReceived_raiseLastReceived { s with
      events := s.events ++ numberedRows NormalizedEvent.toCapturedEvent stream
        (max (s.lastReceived stream) (s.maxEventSeq stream) + 1)
        (s.streamCandidates stream events) } stream stream
      (max (s.lastReceived stream) (s.maxEventSeq stream) + (s.streamCandidates stream events).length)
    have hle := hreached.1
    refine le_trans ?_ (Int.add_le_add_right hle 1)
    omega

/-- The streams of a request are persisted one after the other: an event none of whose identifiers is
stored or belongs to an earlier event of its stream is inserted. -/
lemma ingestStreams_appends {source : String} {events : List NormalizedEvent}
    {streamIds : List String} (hdistinct : streamIds.Pairwise (· ≠ ·)) (hs : Intact s) :
    ∃ s' added, streamIds.foldlM (fun acc streamId => acc.persistStream ⟨source, streamId⟩
        (events.filter fun event => event.streamId == streamId)) s = Except.ok s' ∧
      Appends s s' added ∧
      ∀ streamId ∈ streamIds, ∀ before event after,
        (events.filter fun event => event.streamId == streamId) = before ++ event :: after →
        (∀ id ∈ event.eventIdAliases, s.hasEventId ⟨source, streamId⟩ id = false) →
        (∀ earlier ∈ before, ∀ id ∈ event.eventIdAliases, id ∉ earlier.eventIdAliases) →
          ∃ seq, event.toCapturedEvent.row ⟨source, streamId⟩ seq ∈ added := by
  induction streamIds generalizing s with
  | nil => exact ⟨s, [], rfl, Appends.refl s, fun _ h => absurd h List.not_mem_nil⟩
  | cons first rest ih =>
    obtain ⟨hfirst, hrest⟩ := List.pairwise_cons.mp hdistinct
    obtain ⟨s₁, startSeq, hpersist, happends⟩ := @persistStream_appends s ⟨source, first⟩ hs
      (events.filter fun event => event.streamId == first)
    obtain ⟨s', added, hfold, happends', hinserted⟩ := ih hrest (happends.intact hs)
    refine ⟨s', _, ?_, happends.trans happends', fun streamId hmem before event after hsplit hfresh
      hearlier => ?_⟩
    · rw [List.foldlM_cons, hpersist]
      exact hfold
    · rcases List.mem_cons.mp hmem with rfl | hmem
      · have hcandidate := (@streamCandidates_spec s ⟨source, streamId⟩ _).2.2 before event after
          hsplit hfresh hearlier
        obtain ⟨seq, hseq⟩ := @exists_mem_numberedRows ⟨source, streamId⟩ _ _ startSeq
          NormalizedEvent.toCapturedEvent event hcandidate
        exact ⟨seq, List.mem_append_left _ hseq⟩
      · -- the rows that went in before belong to another stream
        have hfresh' : ∀ id ∈ event.eventIdAliases,
            s₁.hasEventId ⟨source, streamId⟩ id = false := by
          intro id hid
          rw [hasEventId_eq_false_iff]
          intro row hrow hstream
          rw [happends.events] at hrow
          rcases List.mem_append.mp hrow with hold | hnew
          · exact hasEventId_eq_false_iff.mp (hfresh id hid) row hold hstream
          · obtain ⟨hrowStream, -⟩ := mem_numberedRows_iff hnew
            rw [hrowStream] at hstream
            exact absurd (congrArg StreamIdentity.streamId hstream) (hfirst streamId hmem)
        obtain ⟨seq, hseq⟩ := hinserted streamId hmem before event after hsplit hfresh' hearlier
        exact ⟨seq, List.mem_append_right _ hseq⟩

end RawEventStore

/-! ### Runs of calls -/

inductive EventCall where
  | recordRawEvent (opencodeSessionId source : String) (event : CapturedEvent)
  | recordRawEventsBatch (opencodeSessionId : String) (events : List CapturedEvent)
  | ingestRawEvents (request : NormalizedRequest)
  | purgeRawEvents (maxAgeMs nowMs : ℤ)
  | updateRawEventFlushState (opencodeSessionId : String) (lastFlushed : ℤ) (source : String)

/-- A valid event that a call hands over, with its stream and its identifiers. -/
structure Offer where
  stream : StreamIdentity
  event : CapturedEvent
  ids : List String

namespace EventCall

/-- The outcome of a call. -/
def result (s : RawEventStore) : EventCall → Except String RawEventStore
  | .recordRawEvent opencodeSessionId source event =>
    (s.recordRawEvent opencodeSessionId source event).map Prod.snd
  | .recordRawEventsBatch opencodeSessionId events =>
    (s.recordRawEventsBatch opencodeSessionId events).map Prod.snd
  | .ingestRawEvents request => s.ingestRawEvents request
  | .purgeRawEvents maxAgeMs nowMs => .ok (s.purgeRawEvents maxAgeMs nowMs)
  | .updateRawEventFlushState opencodeSessionId lastFlushed source =>
    (normalizeStreamIdentity source opencodeSessionId).map fun stream =>
      s.updateRawEventFlushState stream lastFlushed

/-- A call that throws leaves the tables alone. -/
def run (s : RawEventStore) (call : EventCall) : RawEventStore :=
  match call.result s with
  | .ok s' => s'
  | .error _ => s

/-- The valid events of a call, in order. -/
def offers : EventCall → List Offer
  | .recordRawEvent opencodeSessionId source event =>
    if (trim opencodeSessionId).toList.isEmpty || (trim event.eventId).toList.isEmpty ||
        (trim event.eventType).toList.isEmpty then []
    else ((normalizeStreamIdentity source opencodeSessionId).toOption.map fun stream =>
      (⟨stream, event, [event.eventId]⟩ : Offer)).toList
  | .recordRawEventsBatch opencodeSessionId events =>
    match normalizeStreamIdentity "opencode" opencodeSessionId with
    | .ok stream =>
      (events.filter fun event =>
        !event.eventId.toList.isEmpty && !event.eventType.toList.isEmpty).map fun event =>
          ⟨stream, event, [event.eventId]⟩
    | .error _ => []
  | .ingestRawEvents request =>
    request.events.map fun event =>
      ⟨⟨request.source, event.streamId⟩, event.toCapturedEvent, event.eventIdAliases⟩
  | .purgeRawEvents _ _ | .updateRawEventFlushState _ _ _ => []

/-- A valid event is inserted whose identifiers are not stored and belong to no earlier valid event
of the call. -/
def InsertsNew (s : RawEventStore) (call : EventCall) (added : List RawEvent) : Prop :=
  ∀ before offer after, call.offers = before ++ offer :: after →
    (∀ id ∈ offer.ids, s.hasEventId offer.stream id = false) →
    (∀ earlier ∈ before, earlier.stream = offer.stream →
      ∀ id ∈ offer.ids, id ∉ earlier.ids) →
      ∃ seq, offer.event.row offer.stream seq ∈ added

variable {s s' : RawEventStore}

lemma run_of_result {call : EventCall} (h : call.result s = .ok s') : call.run s = s' := by
  unfold run
  rw [h]

lemma run_of_error {call : EventCall} {error : String} (h : call.result s = .error error) :
    call.run s = s := by
  unfold run
  rw [h]

lemma split_singleton {α : Type} {a b : α} {before after : List α}
    (h : [a] = before ++ b :: after) : a = b := by
  rcases before with _ | ⟨c, before⟩
  · rw [List.nil_append] at h
    exact (List.cons.inj h).1
  · have hlength := congrArg List.length h
    simp at hlength

lemma appends_of_error {call : EventCall} {error : String} (h : call.result s = .error error)
    (hoffers : call.offers = []) :
    ∃ added, s.Appends (call.run s) added ∧ InsertsNew s call added := by
  rw [run_of_error h]
  refine ⟨[], .refl s, fun before offer after hsplit => ?_⟩
  rw [hoffers] at hsplit
  simp at hsplit

lemma result_recordRawEvent_invalid {opencodeSessionId source : String} {event : CapturedEvent}
    (h : ((trim opencodeSessionId).toList.isEmpty || (trim event.eventId).toList.isEmpty ||
      (trim event.eventType).toList.isEmpty) = true) :
    ∃ error, (recordRawEvent opencodeSessionId source event).result s = .error error := by
  unfold result RawEventStore.recordRawEvent
  dsimp only
  generalize (trim opencodeSessionId).toList.isEmpty = noSession at *
  generalize (trim event.eventId).toList.isEmpty = noId at *
  generalize (trim event.eventType).toList.isEmpty = noType at *
  rcases noSession with _ | _
  · rcases noId with _ | _
    · rcases noType with _ | _
      · cases h
      · exact ⟨"event_type is required", rfl⟩
    · exact ⟨"event_id is required", rfl⟩
  · exact ⟨"opencode_session_id is required", rfl⟩

lemma result_recordRawEvent_valid {opencodeSessionId source : String} {event : CapturedEvent}
    (h : ((trim opencodeSessionId).toList.isEmpty || (trim event.eventId).toList.isEmpty ||
      (trim event.eventType).toList.isEmpty) = false) :
    (recordRawEvent opencodeSessionId source event).result s =
      ((normalizeStreamIdentity source opencodeSessionId).bind fun stream =>
        s.recordStreamEvent stream event).map Prod.snd := by
  rw [Bool.or_eq_false_iff, Bool.or_eq_false_iff] at h
  unfold result RawEventStore.recordRawEvent
  dsimp only
  rw [h.1.1, h.1.2, h.2]
  rfl

lemma recordRawEvent_appends (hs : s.Intact) (opencodeSessionId source : String)
    (event : CapturedEvent) :
    ∃ added, s.Appends ((recordRawEvent opencodeSessionId source event).run s) added ∧
      InsertsNew s (recordRawEvent opencodeSessionId source event) added := by
  cases hinvalid : ((trim opencodeSessionId).toList.isEmpty ||
      (trim event.eventId).toList.isEmpty || (trim event.eventType).toList.isEmpty) with
  | true =>
    obtain ⟨error, hresult⟩ := @result_recordRawEvent_invalid s _ source _ hinvalid
    exact appends_of_error hresult (if_pos hinvalid)
  | false =>
    have hresult := @result_recordRawEvent_valid s _ source _ hinvalid
    have hoffers : (recordRawEvent opencodeSessionId source event).offers =
        ((normalizeStreamIdentity source opencodeSessionId).toOption.map fun stream =>
          (⟨stream, event, [event.eventId]⟩ : Offer)).toList :=
      if_neg (by rw [hinvalid]; exact Bool.false_ne_true)
    rcases hstream : normalizeStreamIdentity source opencodeSessionId with error | stream
    · rw [hstream] at hresult hoffers
      exact appends_of_error hresult hoffers
    · rw [hstream] at hresult hoffers
      change _ = (s.recordStreamEvent stream event).map Prod.snd at hresult
      change _ = [(⟨stream, event, [event.eventId]⟩ : Offer)] at hoffers
      by_cases hheld : s.hasEventId stream event.eventId = true
      · have hsame : s.recordStreamEvent stream event = .ok (false, s) := by
          unfold RawEventStore.recordStreamEvent
          rw [if_pos hheld]
        rw [hsame] at hresult
        rw [run_of_result hresult]
        refine ⟨[], .refl s, fun before offer after hsplit hfresh => ?_⟩
        obtain rfl := split_singleton (hoffers.symm.trans hsplit)
        rw [hfresh event.eventId (List.mem_singleton_self _)] at hheld
        cases hheld
      · obtain ⟨s', row, hrecord, happends, seq, rfl⟩ :=
          RawEventStore.recordStreamEvent_appends hs (Bool.eq_false_iff.mpr hheld)
        rw [hrecord] at hresult
        rw [run_of_result hresult]
        refine ⟨_, happends, fun before offer after hsplit _ _ => ?_⟩
        obtain rfl := split_singleton (hoffers.symm.trans hsplit)
        exact ⟨seq, List.mem_singleton_self _⟩

lemma split_map {α β : Type} {f : α → β} {entries : List α} {before after : List β} {b : β}
    (h : entries.map f = before ++ b :: after) :
    ∃ first a rest, entries = first ++ a :: rest ∧ first.map f = before ∧ f a = b := by
  obtain ⟨first, rest, hentries, hfirst, hrest⟩ := List.map_eq_append_iff.mp h
  obtain ⟨a, rest', rfl, ha, -⟩ := List.map_eq_cons_iff.mp hrest
  exact ⟨first, a, rest', hentries, hfirst, ha⟩

/-- `recordRawEventsBatch` inserts the valid events with new identifiers. -/
lemma recordRawEventsBatch_appends (hs : s.Intact) (opencodeSessionId : String)
    (events : List CapturedEvent) :
    ∃ added, s.Appends ((recordRawEventsBatch opencodeSessionId events).run s) added ∧
      InsertsNew s (recordRawEventsBatch opencodeSessionId events) added := by
  rcases hstream : normalizeStreamIdentity "opencode" opencodeSessionId with error | stream
  · have hoffers : (recordRawEventsBatch opencodeSessionId events).offers = [] := by
      unfold offers
      dsimp only
      rw [hstream]
    have hresult : ∃ error', (recordRawEventsBatch opencodeSessionId events).result s =
        .error error' := by
      unfold result RawEventStore.recordRawEventsBatch
      dsimp only
      rw [hstream]
      generalize (trim opencodeSessionId).toList.isEmpty = noSession
      cases noSession with
      | true => exact ⟨"opencode_session_id is required", rfl⟩
      | false => exact ⟨error, rfl⟩
    obtain ⟨error', hresult⟩ := hresult
    exact appends_of_error hresult hoffers
  · have hsession : (trim opencodeSessionId).toList.isEmpty = false := by
      rw [Bool.eq_false_iff]
      intro hempty
      unfold normalizeStreamIdentity at hstream
      rw [if_pos hempty] at hstream
      cases hstream
    have hresult : (recordRawEventsBatch opencodeSessionId events).result s =
        .ok (s.recordStreamEvents stream events).2 := by
      unfold result RawEventStore.recordRawEventsBatch
      dsimp only
      rw [hsession, hstream]
      rfl
    have hoffers : (recordRawEventsBatch opencodeSessionId events).offers =
        (events.filter fun event =>
          !event.eventId.toList.isEmpty && !event.eventType.toList.isEmpty).map fun event =>
            ⟨stream, event, [event.eventId]⟩ := by
      unfold offers
      dsimp only
      rw [hstream]
    obtain ⟨startSeq, -, happends⟩ := @RawEventStore.recordStreamEvents_appends s stream hs events
    rw [run_of_result hresult]
    refine ⟨_, happends, fun before offer after hsplit hfresh hearlier => ?_⟩
    obtain ⟨first, event, rest, hevents, rfl, rfl⟩ := split_map (hoffers.symm.trans hsplit)
    have hnew : (s.ensureRawEventSession stream).hasEventId stream event.eventId = false := by
      have hid := hfresh event.eventId (List.mem_singleton_self _)
      unfold RawEventStore.hasEventId RawEventStore.eventsOf at hid ⊢
      rw [RawEventStore.events_ensureRawEventSession]
      exact hid
    have hitem := (@RawEventStore.newRawEventBatchItems_spec (s.ensureRawEventSession stream) stream
      events).2.2 first event rest hevents hnew fun earlier hmem hsame => by
        refine hearlier _ (List.mem_map_of_mem hmem) rfl event.eventId
          (List.mem_singleton_self _) ?_
        exact List.mem_singleton.mpr hsame.symm
    exact RawEventStore.exists_mem_numberedRows hitem

lemma ingestRawEvents_appends (hs : s.Intact) (request : NormalizedRequest) :
    ∃ added, s.Appends ((ingestRawEvents request).run s) added ∧
      InsertsNew s (ingestRawEvents request) added := by
  have hdistinct : (keepFirst (· == ·) (request.events.map NormalizedEvent.streamId)).Pairwise
      (· ≠ ·) := by
    refine (pairwise_keepFirst _).imp ?_
    intro a b hab
    simpa using hab
  obtain ⟨s', added, hresult, happends, hinserted⟩ :=
    @RawEventStore.ingestStreams_appends s request.source request.events _ hdistinct hs
  have hrun : (ingestRawEvents request).result s = .ok s' := hresult
  rw [run_of_result hrun]
  refine ⟨added, happends, fun before offer after hsplit hfresh hearlier => ?_⟩
  obtain ⟨first, event, rest, hevents, rfl, rfl⟩ := split_map hsplit
  have hstreamId : event.streamId ∈
      keepFirst (· == ·) (request.events.map NormalizedEvent.streamId) := by
    refine mem_keepFirst_beq (List.mem_map_of_mem ?_)
    rw [hevents]
    exact List.mem_append_right _ List.mem_cons_self
  refine hinserted event.streamId hstreamId
    (first.filter fun earlier => earlier.streamId == event.streamId) event
    (rest.filter fun later => later.streamId == event.streamId) ?_ hfresh ?_
  · rw [hevents, List.filter_append, List.filter_cons, if_pos (beq_self_eq_true _)]
  · intro earlier hmem
    obtain ⟨hfirst, hsame⟩ := List.mem_filter.mp hmem
    refine hearlier _ (List.mem_map_of_mem hfirst) ?_
    rw [beq_iff_eq.mp hsame]

end EventCall

/-- The tables, and the rows that were ever inserted, in the order of insertion. -/
structure EventLog where
  store : RawEventStore
  inserted : List RawEvent

namespace EventLog

/-- A new store. -/
def initial : EventLog := ⟨.empty, []⟩

/-- The rows that a call appends to the table. -/
def added (log : EventLog) (call : EventCall) : List RawEvent :=
  (call.run log.store).events.drop log.store.events.length

def step (log : EventLog) (call : EventCall) : EventLog :=
  ⟨call.run log.store, log.inserted ++ log.added call⟩

/-- A watermark is written with a number that was given out in its stream. -/
def FlushesAllocated (log : EventLog) : EventCall → Prop
  | .updateRawEventFlushState opencodeSessionId lastFlushed source =>
    ∀ stream, normalizeStreamIdentity source opencodeSessionId = .ok stream →
      ∃ row ∈ log.inserted, row.stream = stream ∧ row.eventSeq = lastFlushed
  | _ => True

/-- The numbers ever given out in a stream increase, in the order of insertion. -/
def NumbersIncrease (log : EventLog) : Prop :=
  log.inserted.Pairwise fun a b => a.stream = b.stream → a.eventSeq < b.eventSeq

/-- An identifier is present at most once in a stream. -/
def IdsUnique (log : EventLog) : Prop :=
  log.store.events.Pairwise fun a b => a.stream = b.stream → a.eventId ≠ b.eventId

structure Invariant (log : EventLog) : Prop where
  intact : log.store.Intact
  increase : log.NumbersIncrease
  given : ∀ row ∈ log.inserted, row.eventSeq ≤ log.store.lastReceived row.stream

lemma invariant_initial : Invariant initial where
  intact := ⟨List.Pairwise.nil, fun _ h => absurd h List.not_mem_nil, fun _ => le_rfl⟩
  increase := List.Pairwise.nil
  given := fun _ h => absurd h List.not_mem_nil

variable {log : EventLog}

lemma added_of_appends {call : EventCall} {rows : List RawEvent}
    (h : log.store.Appends (call.run log.store) rows) : log.added call = rows := by
  unfold added
  rw [h.events, List.drop_left]

lemma added_of_sublist {call : EventCall}
    (h : (call.run log.store).events.Sublist log.store.events) : log.added call = [] := by
  unfold added
  exact List.drop_eq_nil_of_le h.length_le

lemma Invariant.step_of_appends (h : Invariant log) {call : EventCall} {rows : List RawEvent}
    (happends : log.store.Appends (call.run log.store) rows) : Invariant (log.step call) := by
  have hadded := added_of_appends happends
  constructor
  · exact happends.intact h.intact
  · change (log.inserted ++ log.added call).Pairwise _
    rw [hadded, List.pairwise_append]
    refine ⟨h.increase, happends.increasing, fun a ha b hb hstream => ?_⟩
    have hgiven := h.given a ha
    have hnumber := (happends.numbers b hb).1
    rw [hstream] at hgiven
    omega
  · intro row hrow
    change row ∈ log.inserted ++ log.added call at hrow
    rw [hadded] at hrow
    rcases List.mem_append.mp hrow with hold | hnew
    · exact (h.given row hold).trans (happends.received row.stream)
    · exact (happends.numbers row hnew).2

/-- Every call keeps the invariant, numbers its rows above the watermark, and inserts what is
new. -/
lemma Invariant.step (h : Invariant log) (call : EventCall) (hflush : log.FlushesAllocated call) :
    Invariant (log.step call) ∧
      (∀ row ∈ log.added call, log.store.rawEventFlushState row.stream < row.eventSeq) ∧
      call.InsertsNew log.store (log.added call) := by
  have hcapture : (∃ rows, log.store.Appends (call.run log.store) rows ∧
      call.InsertsNew log.store rows) →
      Invariant (log.step call) ∧
        (∀ row ∈ log.added call, log.store.rawEventFlushState row.stream < row.eventSeq) ∧
        call.InsertsNew log.store (log.added call) := by
    rintro ⟨rows, happends, hinserts⟩
    refine ⟨h.step_of_appends happends, fun row hrow => ?_, ?_⟩
    · rw [added_of_appends happends] at hrow
      exact (h.intact.flushed row.stream).trans_lt (happends.numbers row hrow).1
    · rw [added_of_appends happends]
      exact hinserts
  have hquiet : (call.run log.store).events.Sublist log.store.events → call.offers = [] →
      (call.run log.store).Intact →
      (∀ stream, log.store.lastReceived stream ≤ (call.run log.store).lastReceived stream) →
      Invariant (log.step call) ∧
        (∀ row ∈ log.added call, log.store.rawEventFlushState row.stream < row.eventSeq) ∧
        call.InsertsNew log.store (log.added call) := by
    intro hsublist hoffers hintact hreceived
    have hadded := added_of_sublist hsublist
    rw [hadded]
    refine ⟨⟨hintact, ?_, ?_⟩, fun _ hrow => absurd hrow List.not_mem_nil,
      fun before offer after hsplit => ?_⟩
    · change (log.inserted ++ log.added call).Pairwise _
      rw [hadded, List.append_nil]
      exact h.increase
    · intro row hrow
      change row ∈ log.inserted ++ log.added call at hrow
      rw [hadded, List.append_nil] at hrow
      exact (h.given row hrow).trans (hreceived row.stream)
    · rw [hoffers] at hsplit
      simp at hsplit
  cases call with
  | recordRawEvent opencodeSessionId source event =>
    exact hcapture (EventCall.recordRawEvent_appends h.intact opencodeSessionId source event)
  | recordRawEventsBatch opencodeSessionId events =>
    exact hcapture (EventCall.recordRawEventsBatch_appends h.intact opencodeSessionId events)
  | ingestRawEvents request =>
    exact hcapture (EventCall.ingestRawEvents_appends h.intact request)
  | purgeRawEvents maxAgeMs nowMs =>
    have hsublist : (log.store.purgeRawEvents maxAgeMs nowMs).events.Sublist log.store.events := by
      unfold RawEventStore.purgeRawEvents
      split_ifs
      · exact List.Sublist.refl _
      · exact List.filter_sublist
    have hcaptures := @RawEventStore.purgeRawEvents_captures log.store maxAgeMs nowMs
    have hintact : (log.store.purgeRawEvents maxAgeMs nowMs).Intact := by
      constructor
      · exact h.intact.ids.sublist hsublist
      · intro event hevent
        exact (h.intact.received event (hsublist.subset hevent)).trans
          (hcaptures.received event.stream)
      · intro stream
        rw [hcaptures.flushed stream]
        exact (h.intact.flushed stream).trans (hcaptures.received stream)
    exact hquiet hsublist rfl hintact hcaptures.received
  | updateRawEventFlushState opencodeSessionId lastFlushed source =>
    rcases hstream : normalizeStreamIdentity source opencodeSessionId with error | stream
    · have hrun : (EventCall.updateRawEventFlushState opencodeSessionId lastFlushed source).run
          log.store = log.store := by
        unfold EventCall.run EventCall.result
        dsimp only
        rw [hstream]
        rfl
      rw [hrun] at hquiet
      exact hquiet (List.Sublist.refl _) rfl h.intact fun _ => le_rfl
    · have hrun : (EventCall.updateRawEventFlushState opencodeSessionId lastFlushed source).run
          log.store = log.store.updateRawEventFlushState stream lastFlushed := by
        unfold EventCall.run EventCall.result
        dsimp only
        rw [hstream]
        rfl
      rw [hrun] at hquiet
      have hreceived := fun other => @RawEventStore.lastReceived_updateRawEventFlushState log.store
        stream other lastFlushed
      obtain ⟨row, hrow, hrowStream, hseq⟩ := hflush stream hstream
      have hintact : (log.store.updateRawEventFlushState stream lastFlushed).Intact := by
        constructor
        · exact h.intact.ids
        · intro event hevent
          rw [hreceived]
          exact h.intact.received event hevent
        · intro other
          rw [hreceived, RawEventStore.rawEventFlushState_updateRawEventFlushState]
          split_ifs with hsame
          · rw [hsame, ← hseq, ← hrowStream]
            exact h.given row hrow
          · exact h.intact.flushed other
      exact hquiet (List.Sublist.refl _) rfl hintact fun other => (hreceived other).ge

/-- In every run of captures, purges and watermark writes with numbers already given out, the numbers
of a stream increase in the order of insertion, an identifier is present once in a stream, and the
next call numbers its rows above the watermarks and inserts every valid event whose identifiers are
neither stored nor those of an earlier event of the call. -/
theorem rawEventLog_integrity {calls : List EventCall} {call : EventCall}
    (h : StepsMeet step FlushesAllocated initial (calls ++ [call])) :
    let log := calls.foldl step initial
    log.NumbersIncrease ∧ (log.step call).NumbersIncrease ∧ (log.step call).IdsUnique ∧
      (∀ row ∈ log.added call, log.store.rawEventFlushState row.stream < row.eventSeq) ∧
      call.InsertsNew log.store (log.added call) := by
  rw [stepsMeet_append_iff] at h
  obtain ⟨hcalls, hlast, -⟩ := h
  have hinvariant : Invariant (calls.foldl step initial) :=
    hcalls.foldl invariant_initial fun log call hflush hlog => (hlog.step call hflush).1
  obtain ⟨hstep, habove, hinserts⟩ := hinvariant.step call hlast
  exact ⟨hinvariant.increase, hstep.increase, hstep.intact.ids, habove, hinserts⟩

/-- An event is recorded, a batch repeats it and adds one, the watermark is raised over the first,
and a purge removes it. -/
def flushAndPurge : List EventCall :=
  [.recordRawEvent "s1" "opencode" ⟨"e0", "user_prompt", [], some 1, none⟩,
    .recordRawEventsBatch "s1" [⟨"e0", "user_prompt", [], some 1, none⟩,
      ⟨"e1", "user_prompt", [], none, none⟩],
    .updateRawEventFlushState "s1" 0 "opencode", .purgeRawEvents 10 100]

/-- The event of a request whose sender numbered it as a text, with the identifier generated for it
now and the one that older versions generated. -/
def stringSequenceEvent : NormalizedEvent where
  streamId := "s1"
  eventId := "legacy-seq-7-57d15aad544fac29"
  legacyEventId := some "legacy-seq-7-7c742f403c1a085e"
  eventType := "prompt"
  payload := [("text", .str "supplied")]
  tsWallMs := none
  captureContext := none

def stringSequenceRequest : NormalizedRequest := ⟨"opencode", [stringSequenceEvent]⟩

/-- The log of the run keeps its integrity over a further request, which inserts its event. -/
theorem rawEventLog_integrity_of_flushAndPurge :
    let log := flushAndPurge.foldl step initial
    let call := EventCall.ingestRawEvents stringSequenceRequest
    (log.added call).length = 1 ∧
      log.NumbersIncrease ∧ (log.step call).NumbersIncrease ∧ (log.step call).IdsUnique ∧
      (∀ row ∈ log.added call, log.store.rawEventFlushState row.stream < row.eventSeq) ∧
      call.InsertsNew log.store (log.added call) := by
  refine ⟨by decide, rawEventLog_integrity ⟨trivial, trivial, ?_, trivial, trivial, trivial⟩⟩
  intro stream hstream
  have hnormal : normalizeStreamIdentity "opencode" "s1" = .ok ⟨"opencode", "s1"⟩ := by decide
  rw [hnormal] at hstream
  cases hstream
  exact ⟨_, List.mem_cons_self, by decide, by decide⟩

/-- The event as an older version stored it. -/
def preCutoverCall : EventCall :=
  .recordRawEvent "s1" "opencode"
    ⟨"legacy-seq-7-7c742f403c1a085e", "prompt", [("text", .str "supplied")], none, none⟩

/-- A valid event with an identifier that is not present stays out when the stream holds the
identifier that older versions generated for it. -/
theorem legacy_id_keeps_event_out :
    ¬ ∀ (calls : List EventCall) (call : EventCall),
      StepsMeet step FlushesAllocated initial (calls ++ [call]) →
      let log := calls.foldl step initial
      ∀ offer ∈ call.offers, log.store.hasEventId offer.stream offer.event.eventId = false →
        ∃ row ∈ log.added call, row.eventId = offer.event.eventId := by
  intro h
  obtain ⟨row, hrow, -⟩ := h [preCutoverCall] (.ingestRawEvents stringSequenceRequest)
    ⟨trivial, trivial, trivial⟩ ⟨⟨"opencode", "s1"⟩, stringSequenceEvent.toCapturedEvent,
      stringSequenceEvent.eventIdAliases⟩ List.mem_cons_self (by decide)
  have hempty : (([preCutoverCall].foldl step initial).added
      (.ingestRawEvents stringSequenceRequest)).isEmpty = true := by
    decide
  rw [List.isEmpty_iff.mp hempty] at hrow
  exact absurd hrow List.not_mem_nil

end EventLog

end Codemem
