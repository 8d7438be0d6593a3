import Codemem.RawEvents.Ingest

/-!
# Ingest and batching

A request drops an event that shares an identifier with an event it kept before, aliases included;
across requests only the stored identifiers count.  The two agree when an event that shares an
identifier with an earlier one has an identifier that is stored, or is about to be stored for an
event before it (`IdsSettled`).  Then every way of cutting a list of events into requests inserts
the same events, the fresh ones; and where they agree for a list and its initial parts, the
condition holds (`ingest_batching_iff`).
-/

namespace Codemem

/-! ### Lists of entries with several identifiers -/

section Entries

variable {α : Type} (ids : α → List String) (key : α → String)

/-- The second entry has an identifier of the first. -/
def sharesId (a b : α) : Bool := (ids b).any fun id => (ids a).contains id

/-- What one request inserts, given the stored identifiers. -/
def newEntries (stored : String → Bool) (entries : List α) : List α :=
  (keepFirst (sharesId ids) entries).filter fun a => !(ids a).any stored

/-- The stored identifiers after entries were inserted: each goes in under its key. -/
def storedAfter (stored : String → Bool) (inserted : List α) : String → Bool :=
  fun id => stored id || inserted.any fun a => key a == id

/-- What requests insert one after the other. -/
def insertedBy (stored : String → Bool) : List (List α) → List α
  | [] => []
  | entries :: requests =>
    newEntries ids stored entries ++
      insertedBy (storedAfter key stored (newEntries ids stored entries)) requests

def isFreshEntry (stored : String → Bool) (before : List α) (a : α) : Bool :=
  !before.any (fun b => sharesId ids b a) && !(ids a).any stored

def freshEntries (stored : String → Bool) : List α → List α → List α
  | _, [] => []
  | before, a :: entries =>
    (if isFreshEntry ids stored before a then [a] else []) ++
      freshEntries stored (before ++ [a]) entries

/-- An entry that shares an identifier with one before it has a stored identifier, or the key of a
fresh entry before it. -/
def SettledAfter (stored : String → Bool) (before : List α) (a : α) : Prop :=
  (∃ b ∈ before, sharesId ids b a = true) →
    (ids a).any stored = true ∨ ∃ b ∈ freshEntries ids stored [] before, key b ∈ ids a

def IdsSettled (stored : String → Bool) (entries : List α) : Prop :=
  ∀ before a after, entries = before ++ a :: after → SettledAfter ids key stored before a

variable {ids key} {stored : String → Bool}

lemma idsSettled_concat {entries : List α} {a : α} :
    IdsSettled ids key stored (entries ++ [a]) ↔
      IdsSettled ids key stored entries ∧ SettledAfter ids key stored entries a := by
  constructor
  · intro h
    refine ⟨fun before b after hsplit => h before b (after ++ [a]) ?_, h entries a [] rfl⟩
    rw [hsplit, List.append_assoc, List.cons_append]
  · rintro ⟨hentries, hlast⟩ before b after hsplit
    rcases List.eq_nil_or_concat after with rfl | ⟨after', c, rfl⟩
    · obtain ⟨rfl, hb⟩ := List.append_inj' hsplit rfl
      obtain rfl : a = b := by simpa using hb
      exact hlast
    · refine hentries before b after' ?_
      have hcons : entries ++ [a] = (before ++ b :: after') ++ [c] := by
        rw [hsplit, List.concat_eq_append, List.append_assoc, List.cons_append]
      exact (List.append_inj' hcons rfl).1

lemma freshEntries_concat (before entries : List α) (a : α) :
    freshEntries ids stored before (entries ++ [a]) =
      freshEntries ids stored before entries ++
        if isFreshEntry ids stored (before ++ entries) a then [a] else [] := by
  induction entries generalizing before with
  | nil => simp [freshEntries]
  | cons b entries ih =>
    rw [List.cons_append, freshEntries, ih, freshEntries, List.append_assoc, List.append_assoc,
      List.singleton_append]

lemma freshEntries_subset (before entries : List α) :
    freshEntries ids stored before entries ⊆ entries := by
  induction entries generalizing before with
  | nil => exact List.Subset.refl _
  | cons a entries ih =>
    intro b hb
    rw [freshEntries] at hb
    rcases List.mem_append.mp hb with hb | hb
    · split_ifs at hb
      · exact List.mem_singleton.mp hb ▸ List.mem_cons_self
      · cases hb
    · exact List.mem_cons_of_mem _ (ih _ hb)

lemma newEntries_concat (entries : List α) (a : α) :
    newEntries ids stored (entries ++ [a]) =
      newEntries ids stored entries ++
        if (keepFirst (sharesId ids) entries).any (fun b => sharesId ids b a) ||
          (ids a).any stored then [] else [a] := by
  unfold newEntries
  have hkeep : keepFirst (sharesId ids) (entries ++ [a]) =
      if (keepFirst (sharesId ids) entries).any fun b => sharesId ids b a then
        keepFirst (sharesId ids) entries else keepFirst (sharesId ids) entries ++ [a] := by
    unfold keepFirst
    rw [List.foldl_append]
    rfl
  rw [hkeep]
  by_cases hshared : ((keepFirst (sharesId ids) entries).any fun b => sharesId ids b a) = true
  · simp [hshared]
  · by_cases hstored : (ids a).any stored = true
    · simp [hshared, hstored, List.filter_append]
    · simp [hshared, hstored, List.filter_append]

lemma storedAfter_append (first second : List α) :
    storedAfter key (storedAfter key stored first) second =
      storedAfter key stored (first ++ second) := by
  funext id
  simp [storedAfter, List.any_append, Bool.or_assoc]

lemma insertedBy_concat (requests : List (List α)) (entries : List α) :
    insertedBy ids key stored (requests ++ [entries]) =
      insertedBy ids key stored requests ++
        newEntries ids (storedAfter key stored (insertedBy ids key stored requests)) entries := by
  induction requests generalizing stored with
  | nil =>
    have hnone : storedAfter key stored ([] : List α) = stored := by
      funext id
      simp [storedAfter]
    simp [insertedBy, hnone]
  | cons first requests ih =>
    rw [List.cons_append, insertedBy, ih, insertedBy, storedAfter_append, List.append_assoc]

section Keyed

variable (hkey : ∀ a, key a ∈ ids a)

include hkey in
lemma sharesId_of_key {a b : α} (h : key a ∈ ids b) : sharesId ids a b = true :=
  List.any_eq_true.mpr ⟨key a, h, List.contains_iff_mem.mpr (hkey a)⟩

include hkey in
/-- Where the other requests and the part of the last request before its last entry insert the fresh
entries, and the last entry is settled, it is inserted when it is fresh. -/
lemma newEntries_last {requests : List (List α)} {entries : List α} {a : α}
    (hsettled : SettledAfter ids key stored (requests.flatten ++ entries) a)
    (hbefore : insertedBy ids key stored (requests ++ [entries]) =
      freshEntries ids stored [] (requests.flatten ++ entries)) :
    ((keepFirst (sharesId ids) entries).any (fun b => sharesId ids b a) || (ids a).any
      (storedAfter key stored (insertedBy ids key stored requests))) =
        !isFreshEntry ids stored (requests.flatten ++ entries) a := by
  rw [insertedBy_concat] at hbefore
  have hsubset : freshEntries ids stored [] (requests.flatten ++ entries) ⊆
      requests.flatten ++ entries := freshEntries_subset [] _
  cases hfresh : isFreshEntry ids stored (requests.flatten ++ entries) a with
  | true =>
    -- A fresh entry meets no identifier, kept or stored.
    simp only [isFreshEntry, Bool.and_eq_true, Bool.not_eq_true', List.any_eq_false] at hfresh
    obtain ⟨hnoshare, hnotstored⟩ := hfresh
    rw [Bool.not_true, Bool.or_eq_false_iff, List.any_eq_false, List.any_eq_false]
    refine ⟨fun b hb => hnoshare b (List.mem_append_right _ (keepFirst_subset entries hb)),
      fun id hid => ?_⟩
    simp only [storedAfter, Bool.or_eq_true, List.any_eq_true, beq_iff_eq, not_or, not_exists,
      not_and]
    refine ⟨hnotstored id hid, fun b hb hbkey => ?_⟩
    have hmem : b ∈ requests.flatten ++ entries :=
      hsubset (hbefore ▸ List.mem_append_left _ hb)
    exact hnoshare b hmem (sharesId_of_key hkey (hbkey ▸ hid))
  | false =>
    rw [Bool.not_false, Bool.or_eq_true, List.any_eq_true, List.any_eq_true]
    have hreason : (ids a).any stored = true ∨
        ∃ b ∈ freshEntries ids stored [] (requests.flatten ++ entries), key b ∈ ids a := by
      by_cases hstored : (ids a).any stored = true
      · exact .inl hstored
      · refine hsettled ?_
        by_contra hnone
        have hno : ((requests.flatten ++ entries).any fun b => sharesId ids b a) = false := by
          rw [List.any_eq_false]
          exact fun b hb hshares => hnone ⟨b, hb, hshares⟩
        simp [isFreshEntry, hno, hstored] at hfresh
    rcases hreason with hstored | ⟨b, hb, hbkey⟩
    · obtain ⟨id, hid, hidStored⟩ := List.any_eq_true.mp hstored
      exact .inr ⟨id, hid, by simp [storedAfter, hidStored]⟩
    · rw [← hbefore] at hb
      rcases List.mem_append.mp hb with hb | hb
      · refine .inr ⟨key b, hbkey, ?_⟩
        simp only [storedAfter, Bool.or_eq_true, List.any_eq_true, beq_iff_eq]
        exact .inr ⟨b, hb, rfl⟩
      · exact .inl ⟨b, List.mem_of_mem_filter hb, sharesId_of_key hkey hbkey⟩

include hkey in
lemma insertedBy_eq_freshEntries (requests : List (List α))
    (h : IdsSettled ids key stored requests.flatten) :
    insertedBy ids key stored requests = freshEntries ids stored [] requests.flatten := by
  induction requests using List.reverseRecOn with
  | nil => rfl
  | append_singleton requests entries ih =>
    rw [List.flatten_append, List.flatten_singleton] at h ⊢
    induction entries using List.reverseRecOn with
    | nil =>
      rw [List.append_nil] at h ⊢
      rw [insertedBy_concat, ih h]
      simp [newEntries, keepFirst]
    | append_singleton entries a ihEntries =>
      rw [← List.append_assoc] at h ⊢
      obtain ⟨hbefore, hlast⟩ := idsSettled_concat.mp h
      have hinserted := ihEntries hbefore
      rw [insertedBy_concat, newEntries_concat, freshEntries_concat, List.nil_append,
        newEntries_last hkey hlast hinserted, ← hinserted, insertedBy_concat, List.append_assoc]
      cases isFreshEntry ids stored (requests.flatten ++ entries) a <;> rfl

include hkey in
/-- A list is settled when, for each of its initial parts, every way of cutting it into requests
inserts as many entries as one request. -/
lemma idsSettled_of_length_eq {entries : List α}
    (h : ∀ initial, initial <+: entries → ∀ requests : List (List α), requests.flatten = initial →
      (insertedBy ids key stored requests).length =
        (insertedBy ids key stored [initial]).length) : IdsSettled ids key stored entries := by
  induction entries using List.reverseRecOn with
  | nil =>
    intro before a after hsplit
    exact absurd hsplit (by simp)
  | append_singleton entries a ih =>
    have hsettled : IdsSettled ids key stored entries :=
      ih fun initial hinitial => h initial (hinitial.trans (List.prefix_append _ _))
    refine idsSettled_concat.mpr ⟨hsettled, ?_⟩
    rintro ⟨b, hb, hshares⟩
    by_contra hnot
    obtain ⟨hnotstored, hnokey⟩ := not_or.mp hnot
    obtain ⟨before, after, rfl⟩ := List.append_of_mem hb
    -- A cut just before the entry inserts it; a cut before the one it shares an identifier with
    -- does not.
    have hinserts : insertedBy ids key stored [before ++ b :: after, [a]] =
        freshEntries ids stored [] (before ++ b :: after) ++ [a] := by
      have hone : insertedBy ids key stored [before ++ b :: after] =
          freshEntries ids stored [] (before ++ b :: after) := by
        simpa using insertedBy_eq_freshEntries hkey [before ++ b :: after] (by simpa using hsettled)
      have hconcat : insertedBy ids key stored ([before ++ b :: after] ++ [[a]]) = _ :=
        insertedBy_concat _ _
      rw [List.singleton_append, hone] at hconcat
      rw [hconcat]
      have hfree : (ids a).any (storedAfter key stored
          (freshEntries ids stored [] (before ++ b :: after))) = false := by
        rw [List.any_eq_false]
        intro id hid hstored
        simp only [storedAfter, Bool.or_eq_true, List.any_eq_true, beq_iff_eq] at hstored
        rcases hstored with hstored | ⟨c, hc, hckey⟩
        · exact hnotstored (List.any_eq_true.mpr ⟨id, hid, hstored⟩)
        · exact hnokey ⟨c, hc, hckey ▸ hid⟩
      rw [newEntries, keepFirst, List.foldl_cons, List.foldl_nil, List.any_nil]
      simp only [Bool.false_eq_true, if_false, List.nil_append, List.filter_cons, hfree,
        Bool.not_false, if_true, List.filter_nil]
    have hdrops : insertedBy ids key stored [before, b :: after ++ [a]] =
        freshEntries ids stored [] (before ++ b :: after) := by
      have htwo := insertedBy_eq_freshEntries hkey [before, b :: after] (by simpa using hsettled)
      have hconcat : insertedBy ids key stored ([before] ++ [b :: after ++ [a]]) = _ :=
        insertedBy_concat _ _
      have hconcat' : insertedBy ids key stored ([before] ++ [b :: after]) = _ :=
        insertedBy_concat _ _
      rw [List.singleton_append] at hconcat hconcat'
      have hkept : b ∈ keepFirst (sharesId ids) (b :: after) :=
        mem_keepFirst fun _ hc => absurd hc List.not_mem_nil
      have hany : ((keepFirst (sharesId ids) (b :: after)).any fun c => sharesId ids c a) = true :=
        List.any_eq_true.mpr ⟨b, hkept, hshares⟩
      rw [hconcat, newEntries_concat, hany, Bool.true_or, if_pos rfl, List.append_nil, ← hconcat',
        htwo]
      simp
    have hcut := h (before ++ b :: after ++ [a]) (List.prefix_refl _) [before ++ b :: after, [a]]
      (by simp)
    have hcut' := h (before ++ b :: after ++ [a]) (List.prefix_refl _) [before, b :: after ++ [a]]
      (by simp)
    rw [hinserts] at hcut
    rw [hdrops] at hcut'
    rw [List.length_append, ← hcut'] at hcut
    simp at hcut

lemma stored_of_kept (hkey : ∀ a, key a ∈ ids a) {requests : List (List α)} {entries : List α}
    (hmem : entries ∈ requests) :
    ∀ a ∈ keepFirst (sharesId ids) entries,
      (ids a).any (storedAfter key stored (insertedBy ids key stored requests)) = true := by
  induction requests generalizing stored with
  | nil => cases hmem
  | cons first requests ih =>
    intro a ha
    rw [insertedBy, ← storedAfter_append]
    rcases List.mem_cons.mp hmem with rfl | hmem
    · have hfirst : (ids a).any
          (storedAfter key stored (newEntries ids stored entries)) = true := by
        by_cases hstored : (ids a).any stored = true
        · obtain ⟨id, hid, hidStored⟩ := List.any_eq_true.mp hstored
          exact List.any_eq_true.mpr ⟨id, hid, by simp [storedAfter, hidStored]⟩
        · have hnew : a ∈ newEntries ids stored entries :=
            List.mem_filter.mpr ⟨ha, by simpa using hstored⟩
          refine List.any_eq_true.mpr ⟨key a, hkey a, ?_⟩
          simp only [storedAfter, Bool.or_eq_true, List.any_eq_true, beq_iff_eq]
          exact .inr ⟨a, hnew, rfl⟩
      obtain ⟨id, hid, hidStored⟩ := List.any_eq_true.mp hfirst
      exact List.any_eq_true.mpr ⟨id, hid, by rw [storedAfter, hidStored, Bool.true_or]⟩
    · exact ih hmem a ha

lemma newEntries_repeated (hkey : ∀ a, key a ∈ ids a) {requests : List (List α)}
    {entries : List α} (hmem : entries ∈ requests) :
    newEntries ids (storedAfter key stored (insertedBy ids key stored requests)) entries = [] := by
  unfold newEntries
  rw [List.filter_eq_nil_iff]
  intro a ha
  rw [stored_of_kept hkey hmem a ha]
  simp

end Keyed

end Entries

/-! ### Requests on the store -/

namespace RawEventStore

variable {s s' : RawEventStore} {stream : StreamIdentity}

/-- The number above which `persistStream` numbers new events. -/
def topSeq (s : RawEventStore) (stream : StreamIdentity) : ℤ :=
  max (s.lastReceived stream) (s.maxEventSeq stream)

lemma numbered_append {α : Type} (startSeq : ℤ) (first second : List α) :
    numbered startSeq (first ++ second) =
      numbered startSeq first ++ numbered (startSeq + first.length) second := by
  induction first generalizing startSeq with
  | nil => simp [numbered]
  | cons a first ih =>
    rw [List.cons_append, numbered, ih, numbered, List.cons_append, List.length_cons]
    push_cast
    rw [add_assoc, add_comm (1 : ℤ)]

lemma maxEventSeq_append {rows : List RawEvent} {bound : ℤ} (hmax : s.maxEventSeq stream ≤ bound)
    (hrows : ∀ row ∈ rows, row.eventSeq ≤ bound) (hevents : s'.events = s.events ++ rows) :
    s'.maxEventSeq stream ≤ bound := by
  by_cases hnone : s'.eventsOf stream = []
  · have hnoneBefore : s.eventsOf stream = [] := by
      unfold eventsOf at hnone ⊢
      rw [hevents, List.filter_append, List.append_eq_nil_iff] at hnone
      exact hnone.1
    have hsame : s'.maxEventSeq stream = s.maxEventSeq stream := by
      rw [maxEventSeq, hnone, maxEventSeq, hnoneBefore]
    exact hsame ▸ hmax
  · unfold maxEventSeq
    cases hgreatest : ((s'.eventsOf stream).map RawEvent.eventSeq).max? with
    | none =>
      rw [List.max?_eq_none_iff, List.map_eq_nil_iff] at hgreatest
      exact absurd hgreatest hnone
    | some greatest =>
      obtain ⟨event, hevent, rfl⟩ := List.mem_map.mp (List.max?_eq_some_iff.mp hgreatest).1
      obtain ⟨hmem, hstream⟩ := List.mem_filter.mp hevent
      rw [hevents] at hmem
      rcases List.mem_append.mp hmem with hold | hnew
      · have hle := le_maxEventSeq hold
        rw [beq_iff_eq.mp hstream] at hle
        exact hle.trans hmax
      · exact hrows event hnew

/-- What one request does to the store: its new events go in, numbered above the top, and count as
stored from then on. -/
structure Inserts (s s' : RawEventStore) (stream : StreamIdentity)
    (inserted : List NormalizedEvent) : Prop where
  events : s'.events = s.events ++
    numberedRows NormalizedEvent.toCapturedEvent stream (s.topSeq stream + 1) inserted
  top : s'.topSeq stream = s.topSeq stream + inserted.length
  stored : s'.hasEventId stream =
    storedAfter (fun event : NormalizedEvent => event.eventId) (s.hasEventId stream) inserted

lemma hasEventId_append {startSeq : ℤ} {inserted : List NormalizedEvent}
    (h : s'.events = s.events ++
      numberedRows NormalizedEvent.toCapturedEvent stream startSeq inserted) :
    s'.hasEventId stream =
      storedAfter (fun event : NormalizedEvent => event.eventId) (s.hasEventId stream)
        inserted := by
  funext id
  have hrows : ∀ startSeq, ((numberedRows NormalizedEvent.toCapturedEvent stream startSeq
      inserted).filter fun event => event.stream == stream).any (fun event => event.eventId == id) =
        inserted.any fun event => event.eventId == id := by
    clear h
    intro startSeq
    induction inserted generalizing startSeq with
    | nil => rfl
    | cons event inserted ih =>
      have hcons : numberedRows NormalizedEvent.toCapturedEvent stream startSeq
          (event :: inserted) = event.toCapturedEvent.row stream startSeq ::
            numberedRows NormalizedEvent.toCapturedEvent stream (startSeq + 1) inserted := rfl
      rw [hcons, List.filter_cons_of_pos (by exact beq_self_eq_true stream), List.any_cons,
        List.any_cons, ih]
      rfl
  rw [hasEventId, eventsOf, h, List.filter_append, List.any_append, hrows]
  rfl

/-- `persistStream` inserts the new events of a list. -/
lemma persistStream_inserts (s : RawEventStore) (stream : StreamIdentity)
    (events : List NormalizedEvent) :
    ∃ s', s.persistStream stream events = .ok s' ∧
      Inserts s s' stream (newEntries NormalizedEvent.eventIdAliases (s.hasEventId stream)
        events) := by
  change ∃ s', _ ∧ Inserts s s' stream (s.streamCandidates stream events)
  obtain ⟨hfresh, hids, -⟩ := @streamCandidates_spec s stream events
  unfold persistStream
  dsimp only
  generalize s.streamCandidates stream events = candidates at hfresh hids ⊢
  change ∃ s', ((s.insertNumbered stream (numbered (s.topSeq stream + 1) candidates)).map
    fun filled => filled.raiseLastReceived stream (s.topSeq stream + candidates.length)) = _ ∧ _
  have hpairwise : (numberedRows NormalizedEvent.toCapturedEvent stream (s.topSeq stream + 1)
      candidates).Pairwise fun a b => a.eventSeq < b.eventSeq ∧ a.eventId ≠ b.eventId :=
    List.pairwise_map.mpr (pairwise_numbered (s.topSeq stream + 1) hids)
  have hfits : s.Fits (numberedRows NormalizedEvent.toCapturedEvent stream (s.topSeq stream + 1)
      candidates) := by
    refine ⟨?_, ?_⟩
    · rintro event hevent row hrow ⟨hstream, hclash⟩
      obtain ⟨hrowStream, hge, -, named, hnamed, hid⟩ := mem_numberedRows_iff hrow
      rcases hclash with hseq | hsame
      · have hle := le_maxEventSeq hevent
        have htop : s.maxEventSeq stream ≤ s.topSeq stream := le_max_right _ _
        rw [hstream, hrowStream] at hle
        omega
      · exact hasEventId_eq_false_iff.mp (hfresh named hnamed) event hevent
          (hstream.trans hrowStream) (hsame.trans hid)
    · refine hpairwise.imp ?_
      rintro a b ⟨hlt, hne⟩ ⟨-, hclash⟩
      rcases hclash with hseq | hid
      · omega
      · exact hne hid
  rw [insertNumbered_eq hfits]
  refine ⟨_, rfl, rfl, ?_, hasEventId_append rfl⟩
  -- The received number is raised to the last new number, which is the greatest.
  have hreceived : ∀ filled : RawEventStore, filled.session stream = s.session stream →
      (filled.raiseLastReceived stream (s.topSeq stream + candidates.length)).lastReceived stream =
        s.topSeq stream + candidates.length := by
    intro filled hsession
    have hold : s.lastReceived stream ≤ s.topSeq stream := le_max_left _ _
    unfold lastReceived at hold ⊢
    rw [session_raiseLastReceived, if_pos rfl, hsession]
    cases hrow : s.session stream with
    | none => rfl
    | some row =>
      rw [hrow] at hold
      refine max_eq_left (le_trans hold ?_)
      omega
  rw [topSeq]
  beta_reduce
  rw [hreceived]
  · refine max_eq_left (maxEventSeq_append (s := s) ?_ ?_ rfl)
    · have htop : s.maxEventSeq stream ≤ s.topSeq stream := le_max_right _ _
      omega
    · intro row hrow
      obtain ⟨-, -, hlt, -⟩ := mem_numberedRows_iff hrow
      omega
  · rfl

lemma ingestRawEvents_inserts (s : RawEventStore) (stream : StreamIdentity)
    {events : List NormalizedEvent} (h : ∀ event ∈ events, event.streamId = stream.streamId) :
    ∃ s', s.ingestRawEvents ⟨stream.source, events⟩ = .ok s' ∧
      Inserts s s' stream (newEntries NormalizedEvent.eventIdAliases (s.hasEventId stream)
        events) := by
  cases events with
  | nil =>
    refine ⟨s, rfl, ?_, ?_, ?_⟩
    · exact (List.append_nil _).symm
    · exact (add_zero _).symm
    · funext id
      exact (Bool.or_false _).symm
  | cons event events =>
    have hstreams : keepFirst (· == ·) ((event :: events).map NormalizedEvent.streamId) =
        [stream.streamId] := by
      have hall : ((event :: events).map NormalizedEvent.streamId) =
          List.replicate (events.length + 1) stream.streamId := by
        refine List.eq_replicate_iff.mpr ⟨by simp, fun id hid => ?_⟩
        obtain ⟨e, he, rfl⟩ := List.mem_map.mp hid
        exact h e he
      rw [hall]
      generalize stream.streamId = streamId
      unfold keepFirst
      rw [List.replicate_succ, List.foldl_cons]
      generalize events.length = n
      induction n with
      | zero => rfl
      | succ n ih =>
        rw [List.replicate_succ, List.foldl_cons]
        simpa using ih
    have hfilter : (event :: events).filter (fun e => e.streamId == stream.streamId) =
        event :: events :=
      List.filter_eq_self.mpr fun e he => by simpa using h e he
    obtain ⟨s', hpersist, hinserts⟩ := persistStream_inserts s stream (event :: events)
    refine ⟨s', ?_, hinserts⟩
    unfold ingestRawEvents
    dsimp only
    rw [hstreams, List.foldlM_cons, hfilter]
    change (s.persistStream stream (event :: events)).bind _ = _
    rw [hpersist]
    rfl

end RawEventStore

/-! ### Valid items -/

section Items

variable (tools : IngestTools) (stream : StreamIdentity)

def RawEventItem.normalized (item : RawEventItem) : NormalizedEvent :=
  match item.normalizeEvent tools stream.streamId with
  | .ok event => event
  | .error _ => ⟨⟨"", "", [], none, none⟩, stream.streamId, none⟩

/-- `normalizeEvent` accepts the item. -/
def RawEventItem.IsValid (item : RawEventItem) : Prop :=
  ∃ event, item.normalizeEvent tools stream.streamId = .ok event

variable {tools stream} {s : RawEventStore}

lemma RawEventItem.IsValid.normalizeEvent {item : RawEventItem} (h : item.IsValid tools stream) :
    item.normalizeEvent tools stream.streamId = .ok (item.normalized tools stream) := by
  obtain ⟨event, hevent⟩ := h
  rw [RawEventItem.normalized, hevent]

lemma RawEventItem.normalized_streamId (item : RawEventItem) :
    (item.normalized tools stream).streamId = stream.streamId := by
  unfold RawEventItem.normalized
  cases hevent : item.normalizeEvent tools stream.streamId with
  | error message => rfl
  | ok event =>
    unfold RawEventItem.normalizeEvent at hevent
    obtain ⟨eventType, -, hevent⟩ := exists_of_bind_eq_ok hevent
    obtain ⟨eventSeq, -, hevent⟩ := exists_of_bind_eq_ok hevent
    obtain ⟨eventId, -, hevent⟩ := exists_of_bind_eq_ok hevent
    cases hevent
    rfl

lemma normalizeRequest_valid {items : List RawEventItem}
    (h : ∀ item ∈ items, item.IsValid tools stream) :
    normalizeRequest tools stream items =
      .ok ⟨stream.source, items.map (RawEventItem.normalized tools stream)⟩ := by
  have hmap : (items.mapM fun (item : RawEventItem) =>
      item.normalizeEvent tools stream.streamId) =
        Except.ok (items.map (RawEventItem.normalized tools stream)) := by
    induction items with
    | nil => rfl
    | cons item items ih =>
      rw [List.mapM_cons, (h item List.mem_cons_self).normalizeEvent,
        ih fun i hi => h i (List.mem_cons_of_mem _ hi)]
      rfl
  rw [normalizeRequest, hmap]
  rfl

open RawEventStore

lemma ingestRequest_inserts (s : RawEventStore) {items : List RawEventItem}
    (h : ∀ item ∈ items, item.IsValid tools stream) :
    ∃ s', s.ingestRequest tools stream items = .ok s' ∧
      Inserts s s' stream (newEntries NormalizedEvent.eventIdAliases (s.hasEventId stream)
        (items.map (RawEventItem.normalized tools stream))) := by
  rw [RawEventStore.ingestRequest, normalizeRequest_valid h]
  refine ingestRawEvents_inserts s stream fun event hevent => ?_
  obtain ⟨item, -, rfl⟩ := List.mem_map.mp hevent
  exact item.normalized_streamId

lemma ingestRequests_inserts (s : RawEventStore) {requests : List (List RawEventItem)}
    (h : ∀ items ∈ requests, ∀ item ∈ items, item.IsValid tools stream) :
    ∃ s', s.ingestRequests tools stream requests = .ok s' ∧
      Inserts s s' stream (insertedBy NormalizedEvent.eventIdAliases
        (fun event : NormalizedEvent => event.eventId) (s.hasEventId stream)
        (requests.map fun items => items.map (RawEventItem.normalized tools stream))) := by
  induction requests generalizing s with
  | nil =>
    refine ⟨s, rfl, (List.append_nil _).symm, (add_zero _).symm, ?_⟩
    funext id
    exact (Bool.or_false _).symm
  | cons items requests ih =>
    obtain ⟨s₁, hfirst, hinserts⟩ := ingestRequest_inserts s (h items List.mem_cons_self)
    obtain ⟨s', hrest, hinserts'⟩ := ih s₁ fun i hi => h i (List.mem_cons_of_mem _ hi)
    refine ⟨s', ?_, ?_, ?_, ?_⟩
    · rw [RawEventStore.ingestRequests, List.foldlM_cons, hfirst]
      exact hrest
    · rw [hinserts'.events, hinserts.events, hinserts.top, hinserts.stored, List.map_cons,
        insertedBy, List.append_assoc, numberedRows, numberedRows, numberedRows, numbered_append,
        List.map_append, add_right_comm]
    · rw [hinserts'.top, hinserts.top, hinserts.stored, List.map_cons, insertedBy,
        List.length_append]
      push_cast
      ring
    · rw [hinserts'.stored, hinserts.stored, List.map_cons, insertedBy, storedAfter_append]

variable (tools stream)

/-- Every event of the list that shares an identifier with an earlier one has an identifier that is
stored in the stream already, or the identifier under which an earlier event goes in. -/
def IngestSettled (s : RawEventStore) (items : List RawEventItem) : Prop :=
  IdsSettled NormalizedEvent.eventIdAliases (fun event : NormalizedEvent => event.eventId)
    (s.hasEventId stream) (items.map (RawEventItem.normalized tools stream))

lemma exists_cut_of_map {α β : Type} {f : α → β} {requests : List (List β)} {entries : List α}
    (h : requests.flatten = entries.map f) :
    ∃ cut : List (List α), cut.flatten = entries ∧ cut.map (List.map f) = requests := by
  induction requests generalizing entries with
  | nil =>
    have hnil : entries = [] := by simpa using h.symm
    exact ⟨[], hnil.symm, rfl⟩
  | cons request requests ih =>
    rw [List.flatten_cons] at h
    obtain ⟨first, rest, rfl, hfirst, hrest⟩ := List.map_eq_append_iff.mp h.symm
    obtain ⟨cut, hcut, hmap⟩ := ih hrest.symm
    exact ⟨first :: cut, by rw [List.flatten_cons, hcut], by rw [List.map_cons, hfirst, hmap]⟩

lemma map_events_ingestRequests {s : RawEventStore} {requests : List (List RawEventItem)}
    (h : ∀ item ∈ requests.flatten, item.IsValid tools stream) :
    (s.ingestRequests tools stream requests).map RawEventStore.events =
      .ok (s.events ++ numberedRows NormalizedEvent.toCapturedEvent stream (s.topSeq stream + 1)
        (insertedBy NormalizedEvent.eventIdAliases (fun event : NormalizedEvent => event.eventId)
          (s.hasEventId stream)
          (requests.map fun items => items.map (RawEventItem.normalized tools stream)))) := by
  obtain ⟨s', hrun, hinserts⟩ := ingestRequests_inserts s fun items hitems item hitem =>
    h item (List.mem_flatten_of_mem hitems hitem)
  rw [hrun, ← hinserts.events]
  rfl

end Items

/-- Tools whose digests tell only which seed they were made of. -/
def sampleTools : IngestTools where
  stripPrivate := id
  seedDigest := fun seed =>
    match seed with
    | .timed .. => "m"
    | .sequenced _ (.number _) _ => "n"
    | .sequenced _ (.text _) _ => "t"

/-- An unnamed event with the sequence number `"1"`. -/
def sampleTextItem : RawEventItem := ⟨none, "prompt", some (.text "1"), [], none, none, false, none⟩

/-- An event that carries the identifier older versions made of the unnamed one. -/
def sampleNamedItem : RawEventItem :=
  ⟨some "legacy-seq-1-t", "prompt", none, [], none, none, false, none⟩

/-- The stream of the two events. -/
def sampleStream : StreamIdentity := ⟨"opencode", "s"⟩

end Codemem
