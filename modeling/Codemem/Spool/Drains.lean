import Codemem.Foundation.OrderedPage
import Codemem.Spool.Delivery

/-!
# Repeated drains of the spool

A drain loads the oldest entries of the spool, up to a limit, posts them one after the other and
removes those that the viewer accepts.  An entry that the viewer refuses keeps its place and the
drain goes on, except that a conflict ends it.  So an accepted entry is reached sooner or later if
fewer refused entries than the limit stand before it and none of them is a conflict.
-/

namespace Codemem

/-- A `.json` file of the spool as `stat` and `readFile` show it; the text is missing where it cannot
be read. -/
structure StoredSpoolFile where
  name : SpoolName
  mtimeMs : ℚ
  text : Option JsonText

def StoredSpoolFile.entry (file : StoredSpoolFile) : Option SpoolEntry :=
  file.text.bind (SpoolWorld.entryOf file.name)

/-- The `.json` files of the spool directory. -/
structure SpoolDirectory where
  files : List StoredSpoolFile
  names_nodup : (files.map StoredSpoolFile.name).Nodup

def SpoolDirectory.rm (directory : SpoolDirectory) (name : SpoolName) : SpoolDirectory where
  files := directory.files.filter fun file => file.name != name
  names_nodup := directory.names_nodup.sublist (List.filter_sublist.map _)

/-- A viewer: it accepts an envelope, or refuses it for good. -/
structure RefusingViewer where
  refusal : JsonObject → Option ℕ
  isClientError : ∀ envelope status, refusal envelope = some status → 400 ≤ status ∧ status < 500

/-- The spool, the envelopes that were posted and accepted, and the end of the backoff. -/
structure DrainState where
  directory : SpoolDirectory
  posted : List JsonObject
  streamUnavailableUntil : ℕ

section Drain

variable {κ : Type*} [LinearOrder κ] (collation : SpoolName → κ) (limit backoffMs : ℕ)
  (viewer : RefusingViewer)

/-- `left.mtimeMs - right.mtimeMs || left.name.localeCompare(right.name)`. -/
def spoolOrder (file : StoredSpoolFile) : ℚ ×ₗ κ := toLex (file.mtimeMs, collation file.name)

/-- The files whose entries `loadRawEventSpoolEntries` loads: it reads the candidates in order until
it has enough entries. -/
def loadedFiles (directory : SpoolDirectory) : List StoredSpoolFile :=
  ((sortByPos (spoolOrder collation) directory.files).filter fun file => file.entry.isSome).take
    limit

def loadRawEventSpoolEntries (directory : SpoolDirectory) : List SpoolEntry :=
  (loadedFiles collation limit directory).filterMap StoredSpoolFile.entry

/-- `drainLoadedEntries`, with the time at which a post fails. -/
def drainLoadedEntries (failedAt : ℕ) : List SpoolEntry → DrainState → DrainState
  | [], s => s
  | entry :: rest, s =>
    match viewer.refusal entry.envelope with
    | none =>
      drainLoadedEntries failedAt rest
        { s with
          directory := s.directory.rm (.entry entry.eventId)
          posted := s.posted ++ [entry.envelope] }
    | some status =>
      if 500 ≤ status ∨ status = 409 then
        -- `armViewerBackoff` and `break`
        { s with streamUnavailableUntil := failedAt + max 1000 backoffMs }
      else drainLoadedEntries failedAt rest s

/-- `drainSpool`, called at a time. -/
def drainSpool (s : DrainState) (times : ℕ × ℕ) : DrainState :=
  if times.1 < s.streamUnavailableUntil then s
  else drainLoadedEntries backoffMs viewer times.2
    (loadRawEventSpoolEntries collation limit s.directory) s

/-! ### Entries that are reached -/

/-- The viewer accepts the entry of a file. -/
def IsAccepted (file : StoredSpoolFile) : Prop :=
  ∃ entry, file.entry = some entry ∧ viewer.refusal entry.envelope = none

/-- The viewer refuses the entry of a file. -/
def isRefused (file : StoredSpoolFile) : Bool :=
  file.entry.any fun entry => (viewer.refusal entry.envelope).isSome

/-- The refused files up to the place of a file. -/
def refusedBefore (files : List StoredSpoolFile) (file : StoredSpoolFile) :
    List StoredSpoolFile :=
  files.filter fun other =>
    isRefused viewer other && decide (spoolOrder collation other ≤ spoolOrder collation file)

/-- Fewer refused files than a drain loads stand before an accepted one, and none is a conflict. -/
structure IsReachable (files : List StoredSpoolFile) (file : StoredSpoolFile) : Prop where
  accepted : IsAccepted viewer file
  few : (refusedBefore collation viewer files file).length < limit
  noConflict : ∀ other ∈ refusedBefore collation viewer files file, ∀ entry,
    other.entry = some entry → viewer.refusal entry.envelope ≠ some 409

end Drain

/-! ### One drain -/

section Proofs

variable {κ : Type*} [LinearOrder κ] {collation : SpoolName → κ} {limit backoffMs : ℕ}
  {viewer : RefusingViewer} {directory : SpoolDirectory} {file other : StoredSpoolFile}

lemma name_of_entry {entry : SpoolEntry} (h : file.entry = some entry) :
    file.name = .entry entry.eventId := by
  obtain ⟨text, -, hentry⟩ := Option.bind_eq_some_iff.mp h
  unfold SpoolWorld.entryOf at hentry
  split at hentry
  · cases hentry
  · split at hentry
    · cases hentry
    · split_ifs at hentry with hname
      rw [hname, ← Option.some.inj hentry]

lemma SpoolDirectory.eq_of_name (hfile : file ∈ directory.files) (hother : other ∈ directory.files)
    (hname : file.name = other.name) : file = other :=
  List.inj_on_of_nodup_map directory.names_nodup hfile hother hname

/-- What is left of a directory and what was posted: only accepted files go, and they were posted. -/
structure DrainedFrom (viewer : RefusingViewer) (s s' : DrainState) : Prop where
  subset : s'.directory.files ⊆ s.directory.files
  posted : s.posted ⊆ s'.posted
  kept : ∀ file ∈ s.directory.files, file ∈ s'.directory.files ∨
    ∃ entry, file.entry = some entry ∧ viewer.refusal entry.envelope = none ∧
      entry.envelope ∈ s'.posted

lemma DrainedFrom.refl (s : DrainState) : DrainedFrom viewer s s :=
  ⟨List.Subset.refl _, List.Subset.refl _, fun _ hfile => .inl hfile⟩

lemma DrainedFrom.trans {s s' s'' : DrainState} (h : DrainedFrom viewer s s')
    (h' : DrainedFrom viewer s' s'') : DrainedFrom viewer s s'' := by
  refine ⟨fun _ hfile => h.subset (h'.subset hfile), fun _ hbody => h'.posted (h.posted hbody),
    fun file hfile => ?_⟩
  rcases h.kept file hfile with hkept | ⟨entry, hentry, haccepted, hposted⟩
  · exact h'.kept file hkept
  · exact .inr ⟨entry, hentry, haccepted, h'.posted hposted⟩

lemma drainedFrom_accept {s : DrainState} {entry : SpoolEntry} (hfile : file ∈ directory.files)
    (hsubset : s.directory.files ⊆ directory.files) (hentry : file.entry = some entry)
    (haccepted : viewer.refusal entry.envelope = none) :
    DrainedFrom viewer s
      { s with
        directory := s.directory.rm (.entry entry.eventId)
        posted := s.posted ++ [entry.envelope] } := by
  refine ⟨fun other hother => (List.mem_filter.mp hother).1, List.subset_append_left _ _,
    fun other hother => ?_⟩
  by_cases hname : other.name = .entry entry.eventId
  · have hsame : other = file := SpoolDirectory.eq_of_name (hsubset hother) hfile
      (hname.trans (name_of_entry hentry).symm)
    exact .inr ⟨entry, hsame ▸ hentry, haccepted, List.mem_append_right _ List.mem_cons_self⟩
  · exact .inl (List.mem_filter.mpr ⟨hother, by simpa using hname⟩)

lemma drainedFrom_drainLoadedEntries (failedAt : ℕ) {entries : List SpoolEntry}
    (hentries : ∀ entry ∈ entries, ∃ file ∈ directory.files, file.entry = some entry)
    {s : DrainState} (hsubset : s.directory.files ⊆ directory.files) :
    DrainedFrom viewer s (drainLoadedEntries backoffMs viewer failedAt entries s) := by
  induction entries generalizing s with
  | nil => exact .refl s
  | cons entry rest ih =>
    have hrest := fun entry hentry => hentries entry (List.mem_cons_of_mem _ hentry)
    rw [drainLoadedEntries]
    split
    · rename_i haccepted
      obtain ⟨file, hfile, hentry⟩ := hentries entry List.mem_cons_self
      have hstep := drainedFrom_accept hfile hsubset hentry haccepted
      exact hstep.trans (ih hrest fun _ hmem => hsubset (hstep.subset hmem))
    · split_ifs
      · exact ⟨List.Subset.refl _, List.Subset.refl _, fun _ hmem => .inl hmem⟩
      · exact ih hrest hsubset

lemma exists_file_of_loaded {entry : SpoolEntry}
    (h : entry ∈ loadRawEventSpoolEntries collation limit directory) :
    ∃ file ∈ directory.files, file.entry = some entry := by
  obtain ⟨file, hfile, hentry⟩ := List.mem_filterMap.mp h
  exact ⟨file, mem_sortByPos.mp (List.mem_filter.mp (List.mem_of_mem_take hfile)).1, hentry⟩

lemma drainedFrom_drainSpool (s : DrainState) (times : ℕ × ℕ) :
    DrainedFrom viewer s (drainSpool collation limit backoffMs viewer s times) := by
  unfold drainSpool
  split_ifs
  · exact .refl s
  · exact drainedFrom_drainLoadedEntries _ (fun _ => exists_file_of_loaded) (List.Subset.refl _)

/-! ### Progress -/

lemma isRefused_iff (file : StoredSpoolFile) :
    isRefused viewer file = true ↔ file.entry.isSome = true ∧ ¬IsAccepted viewer file := by
  unfold isRefused IsAccepted
  rcases file.entry with _ | entry
  · simp
  · simp [Option.isSome_iff_ne_none]

/-- Among the loaded files there is an accepted one, and the refused ones before it are no
conflicts. -/
lemma exists_accepted_loaded (hfile : file ∈ directory.files)
    (h : IsReachable collation limit viewer directory.files file) :
    ∃ before next after, loadedFiles collation limit directory = before ++ next :: after ∧
      IsAccepted viewer next ∧ ∀ other ∈ before, other ∈
        refusedBefore collation viewer directory.files file := by
  classical
  obtain ⟨entry, hentry, haccepted⟩ := h.accepted
  let valid := (sortByPos (spoolOrder collation) directory.files).filter fun f => f.entry.isSome
  have hsorted : valid.Pairwise fun a b => spoolOrder collation a ≤ spoolOrder collation b :=
    (pairwise_sortByPos _ _).sublist List.filter_sublist
  have hvalid : file ∈ valid :=
    List.mem_filter.mpr ⟨mem_sortByPos.mpr hfile, by rw [hentry]; rfl⟩
  have hsplit : loadedFiles collation limit directory ++ valid.drop limit = valid :=
    List.take_append_drop limit valid
  have hrefused : ∀ other ∈ valid, ¬IsAccepted viewer other →
      spoolOrder collation other ≤ spoolOrder collation file →
        other ∈ refusedBefore collation viewer directory.files file := by
    intro other hother hnot hle
    obtain ⟨hmem, hsome⟩ := List.mem_filter.mp hother
    refine List.mem_filter.mpr ⟨mem_sortByPos.mp hmem, ?_⟩
    rw [Bool.and_eq_true, decide_eq_true_iff]
    exact ⟨(isRefused_iff other).mpr ⟨hsome, hnot⟩, hle⟩
  rcases hfind : (loadedFiles collation limit directory).find?
      (fun other => decide (IsAccepted viewer other)) with _ | next
  · -- all loaded files would be refused files before this one
    exfalso
    have hnone : ∀ other ∈ loadedFiles collation limit directory, ¬IsAccepted viewer other := by
      simpa using hfind
    have hdrop : file ∈ valid.drop limit := by
      rw [← hsplit] at hvalid
      exact (List.mem_append.mp hvalid).resolve_left fun hmem => hnone file hmem h.accepted
    rw [← hsplit] at hsorted
    have hsub : loadedFiles collation limit directory ⊆
        refusedBefore collation viewer directory.files file := fun other hother =>
      hrefused other (List.mem_of_mem_take hother) (hnone other hother)
        ((List.pairwise_append.mp hsorted).2.2 other hother file hdrop)
    have hnodup : (loadedFiles collation limit directory).Nodup :=
      (((perm_sortByPos _ _).nodup_iff.mpr directory.names_nodup.of_map).filter _).sublist
        (List.take_sublist _ _)
    have hle := (hnodup.subperm hsub).length_le
    have hlength : (loadedFiles collation limit directory).length = limit := by
      have hpos : 0 < (valid.drop limit).length := List.length_pos_of_mem hdrop
      rw [List.length_drop] at hpos
      have hlong : limit ≤ valid.length := by omega
      exact List.length_take_of_le hlong
    have hfew := h.few
    omega
  · obtain ⟨hnext, before, after, hloaded, hbefore⟩ := List.find?_eq_some_iff_append.mp hfind
    refine ⟨before, next, after, hloaded, by simpa using hnext, fun other hother => ?_⟩
    have hnot : ¬IsAccepted viewer other := by simpa using hbefore other hother
    rw [hloaded, List.append_assoc] at hsplit
    have hin : other ∈ valid := hsplit ▸ List.mem_append_left _ hother
    refine hrefused other hin hnot ?_
    rw [← hsplit] at hvalid hsorted
    have hrest : file ∈ next :: after ++ valid.drop limit := by
      refine (List.mem_append.mp hvalid).resolve_left fun hmem => ?_
      have hno : ¬IsAccepted viewer file := by simpa using hbefore file hmem
      exact hno h.accepted
    exact (List.pairwise_append.mp hsorted).2.2 other hother file hrest

lemma drainLoadedEntries_append (failedAt : ℕ) {before : List StoredSpoolFile}
    (hbefore : ∀ other ∈ before, isRefused viewer other = true ∧
      ∀ entry, other.entry = some entry → viewer.refusal entry.envelope ≠ some 409)
    (rest : List SpoolEntry) (s : DrainState) :
    drainLoadedEntries backoffMs viewer failedAt
        (before.filterMap StoredSpoolFile.entry ++ rest) s =
      drainLoadedEntries backoffMs viewer failedAt rest s := by
  induction before with
  | nil => rfl
  | cons other before ih =>
    obtain ⟨hrefused, hconflict⟩ := hbefore other List.mem_cons_self
    obtain ⟨entry, hentry, hstatus⟩ : ∃ entry, other.entry = some entry ∧
        (viewer.refusal entry.envelope).isSome = true := by
      unfold isRefused at hrefused
      rcases hentry : other.entry with _ | entry
      · rw [hentry] at hrefused
        cases hrefused
      · rw [hentry] at hrefused
        exact ⟨entry, rfl, hrefused⟩
    obtain ⟨status, hstatus⟩ := Option.isSome_iff_exists.mp hstatus
    have hrange := viewer.isClientError _ _ hstatus
    have hne : status ≠ 409 := fun heq => hconflict entry hentry (heq ▸ hstatus)
    rw [List.filterMap_cons_some hentry, List.cons_append, drainLoadedEntries]
    simp only [hstatus]
    rw [if_neg (by omega)]
    exact ih fun other hother => hbefore other (List.mem_cons_of_mem _ hother)

lemma length_drainSpool_lt {s : DrainState} {times : ℕ × ℕ}
    (htime : s.streamUnavailableUntil ≤ times.1) (hfile : file ∈ s.directory.files)
    (h : IsReachable collation limit viewer s.directory.files file) :
    (drainSpool collation limit backoffMs viewer s times).directory.files.length <
      s.directory.files.length := by
  obtain ⟨before, next, after, hloaded, ⟨entry, hentry, haccepted⟩, hbefore⟩ :=
    exists_accepted_loaded hfile h
  have hnext : next ∈ s.directory.files := by
    have hmem : next ∈ loadedFiles collation limit s.directory := by
      rw [hloaded]
      exact List.mem_append_right _ List.mem_cons_self
    exact mem_sortByPos.mp (List.mem_filter.mp (List.mem_of_mem_take hmem)).1
  have hentries : loadRawEventSpoolEntries collation limit s.directory =
      before.filterMap StoredSpoolFile.entry ++ entry :: after.filterMap StoredSpoolFile.entry := by
    rw [loadRawEventSpoolEntries, hloaded, List.filterMap_append, List.filterMap_cons_some hentry]
  have hafter : ∀ entry ∈ after.filterMap StoredSpoolFile.entry,
      ∃ file ∈ s.directory.files, file.entry = some entry := fun other hother =>
    @exists_file_of_loaded _ _ collation limit _ _
      (hentries ▸ List.mem_append_right _ (List.mem_cons_of_mem _ hother))
  have hpass : ∀ other ∈ before, isRefused viewer other = true ∧
      ∀ entry, other.entry = some entry → viewer.refusal entry.envelope ≠ some 409 :=
    fun other hother => ⟨(Bool.and_eq_true_iff.mp (List.mem_filter.mp (hbefore other hother)).2).1,
      h.noConflict other (hbefore other hother)⟩
  unfold drainSpool
  rw [if_neg (by omega), hentries, drainLoadedEntries_append _ hpass, drainLoadedEntries]
  simp only [haccepted]
  have hstep := drainedFrom_accept hnext (List.Subset.refl s.directory.files) hentry haccepted
  have hrest := @drainedFrom_drainLoadedEntries backoffMs viewer _ times.2 _ hafter _ hstep.subset
  have hle := (List.Nodup.subperm (drainLoadedEntries backoffMs viewer times.2 _
    _).directory.names_nodup.of_map hrest.subset).length_le
  refine hle.trans_lt (List.length_filter_lt_length_iff_exists.mpr ⟨next, hnext, ?_⟩)
  simp [name_of_entry hentry]

lemma IsReachable.of_drained {s s' : DrainState} (hdrained : DrainedFrom viewer s s')
    (h : IsReachable collation limit viewer s.directory.files file) :
    IsReachable collation limit viewer s'.directory.files file := by
  have hsub : refusedBefore collation viewer s'.directory.files file ⊆
      refusedBefore collation viewer s.directory.files file := fun other hother =>
    List.mem_filter.mpr ⟨hdrained.subset (List.mem_filter.mp hother).1,
      (List.mem_filter.mp hother).2⟩
  refine ⟨h.accepted, lt_of_le_of_lt ?_ h.few, fun other hother =>
    h.noConflict other (hsub hother)⟩
  exact (List.Nodup.subperm (s'.directory.names_nodup.of_map.filter _) hsub).length_le

/-! ### Repeated drains -/

lemma drainedFrom_foldl (s : DrainState) (times : List (ℕ × ℕ)) :
    DrainedFrom viewer s (times.foldl (drainSpool collation limit backoffMs viewer) s) := by
  induction times generalizing s with
  | nil => exact .refl s
  | cons time times ih => exact (drainedFrom_drainSpool s time).trans (ih _)

def BackoffIsOver (s : DrainState) (times : ℕ × ℕ) : Prop := s.streamUnavailableUntil ≤ times.1

lemma notMem_foldl {s : DrainState} {times : List (ℕ × ℕ)}
    (hmeet : StepsMeet (drainSpool collation limit backoffMs viewer) BackoffIsOver s times)
    (hlength : s.directory.files.length ≤ times.length)
    (h : IsReachable collation limit viewer s.directory.files file) :
    file ∉ (times.foldl (drainSpool collation limit backoffMs viewer) s).directory.files := by
  induction times generalizing s with
  | nil =>
    have hnil : s.directory.files = [] := List.length_eq_zero_iff.mp (by simpa using hlength)
    rw [List.foldl_nil, hnil]
    exact List.not_mem_nil
  | cons time times ih =>
    rw [List.foldl_cons]
    have hdrained := @drainedFrom_drainSpool _ _ collation limit backoffMs viewer s time
    by_cases hfile : file ∈ s.directory.files
    · have hlt : (drainSpool collation limit backoffMs viewer s time).directory.files.length <
          s.directory.files.length := length_drainSpool_lt hmeet.1 hfile h
      rw [List.length_cons] at hlength
      exact ih hmeet.2 (by omega) (h.of_drained hdrained)
    · exact fun hmem => hfile (hdrained.subset ((drainedFrom_foldl _ times).subset hmem))

def DrainState.start (directory : SpoolDirectory) (streamUnavailableUntil : ℕ) : DrainState :=
  ⟨directory, [], streamUnavailableUntil⟩

/-- After as many drains as the spool has files, each started when the backoff is over, every
reachable entry has been posted and its file is gone, and the files that are not accepted are still
there. -/
theorem reachable_entries_drained (collation : SpoolName → κ) (limit backoffMs : ℕ)
    (viewer : RefusingViewer) (directory : SpoolDirectory) (unavailableUntil : ℕ)
    (times : List (ℕ × ℕ))
    (hmeet : StepsMeet (drainSpool collation limit backoffMs viewer) BackoffIsOver
      (.start directory unavailableUntil) times)
    (hlength : directory.files.length ≤ times.length) :
    let s := times.foldl (drainSpool collation limit backoffMs viewer)
      (.start directory unavailableUntil)
    (∀ file ∈ directory.files, IsReachable collation limit viewer directory.files file →
      (∀ entry, file.entry = some entry → entry.envelope ∈ s.posted) ∧
        file ∉ s.directory.files) ∧
    ∀ file ∈ directory.files, ¬IsAccepted viewer file → file ∈ s.directory.files := by
  have hdrained := @drainedFrom_foldl _ _ collation limit backoffMs viewer
    (.start directory unavailableUntil) times
  constructor
  · intro file hfile hreach
    have hgone := notMem_foldl hmeet hlength hreach
    refine ⟨fun entry hentry => ?_, hgone⟩
    obtain ⟨other, hother, -, hposted⟩ := (hdrained.kept file hfile).resolve_left hgone
    obtain rfl := Option.some.inj (hentry.symm.trans hother)
    exact hposted
  · intro file hfile hnot
    refine (hdrained.kept file hfile).resolve_right ?_
    exact fun ⟨entry, hentry, haccepted, _⟩ => hnot ⟨entry, hentry, haccepted⟩

end Proofs

/-! ### Blocked spools -/

def sampleEnvelope (eventId : String) : JsonObject := [("event_id", .str eventId)]

def sampleSpoolFile (eventId : String) (mtimeMs : ℚ) : StoredSpoolFile :=
  ⟨.entry eventId, mtimeMs, some (toJson (sampleEnvelope eventId))⟩

/-- A spool with two events. -/
def sampleSpoolDirectory : SpoolDirectory where
  files := [sampleSpoolFile "bad" 0, sampleSpoolFile "good" 1]
  names_nodup := by decide +kernel

/-- A viewer that refuses the event `bad`. -/
def sampleViewer (status : ℕ) (h : 400 ≤ status ∧ status < 500) : RefusingViewer where
  refusal envelope := if requireEventId envelope = some "bad" then some status else none
  isClientError := by
    intro envelope status' hstatus
    split_ifs at hstatus
    exact Option.some.inj hstatus ▸ h

/-- Names in the order of their event ids. -/
def sampleCollation : SpoolName → String
  | .entry eventId => eventId
  | .other name => name

lemma posted_of_blocked {κ : Type*} [LinearOrder κ] {collation : SpoolName → κ}
    {limit backoffMs : ℕ} {viewer : RefusingViewer} {directory : SpoolDirectory}
    (hblocked : ∀ s times, s.directory = directory →
      (drainSpool collation limit backoffMs viewer s times).directory = directory ∧
        (drainSpool collation limit backoffMs viewer s times).posted = s.posted)
    {s : DrainState} (hs : s.directory = directory) (times : List (ℕ × ℕ)) :
    (times.foldl (drainSpool collation limit backoffMs viewer) s).posted = s.posted := by
  induction times generalizing s with
  | nil => rfl
  | cons time times ih =>
    obtain ⟨hdirectory, hposted⟩ := hblocked s time hs
    exact (ih hdirectory).trans hposted

/-- An entry that is refused as a conflict blocks the one behind it, and so does any refused entry
when drains load one entry. -/
theorem refused_entry_blocks :
    (∀ times : List (ℕ × ℕ), (times.foldl
      (drainSpool sampleCollation 20 1000 (sampleViewer 409 (by decide)))
      (.start sampleSpoolDirectory 0)).posted = []) ∧
    ∀ times : List (ℕ × ℕ), (times.foldl
      (drainSpool sampleCollation 1 1000 (sampleViewer 400 (by decide)))
      (.start sampleSpoolDirectory 0)).posted = [] := by
  constructor
  · refine fun times => posted_of_blocked (fun s time hs => ?_) rfl times
    have hload : loadRawEventSpoolEntries sampleCollation 20 sampleSpoolDirectory =
        [⟨"bad", sampleEnvelope "bad"⟩, ⟨"good", sampleEnvelope "good"⟩] := rfl
    have hbad : (sampleViewer 409 (by decide)).refusal (sampleEnvelope "bad") = some 409 := by
      decide +kernel
    have hsame : s.directory = sampleSpoolDirectory := hs
    unfold drainSpool
    split_ifs
    · exact ⟨hs, rfl⟩
    · rw [hsame, hload, drainLoadedEntries]
      simp only [hbad]
      exact ⟨hs, rfl⟩
  · refine fun times => posted_of_blocked (fun s time hs => ?_) rfl times
    have hload : loadRawEventSpoolEntries sampleCollation 1 sampleSpoolDirectory =
        [⟨"bad", sampleEnvelope "bad"⟩] := rfl
    have hbad : (sampleViewer 400 (by decide)).refusal (sampleEnvelope "bad") = some 400 := by
      decide +kernel
    have hsame : s.directory = sampleSpoolDirectory := hs
    unfold drainSpool
    split_ifs
    · exact ⟨hs, rfl⟩
    · rw [hsame, hload, drainLoadedEntries]
      simp only [hbad]
      exact ⟨hs, rfl⟩

/-- With a larger limit the entry behind a refused one is posted. -/
theorem reachable_entries_drained_sample :
    (sampleEnvelope "good") ∈ ([(0, 0), (0, 0)].foldl
      (drainSpool sampleCollation 20 1000 (sampleViewer 400 (by decide)))
      (.start sampleSpoolDirectory 0)).posted := by
  have hmeet : StepsMeet (drainSpool sampleCollation 20 1000 (sampleViewer 400 (by decide)))
      BackoffIsOver (.start sampleSpoolDirectory 0) [(0, 0), (0, 0)] := by
    refine ⟨le_rfl, ?_, trivial⟩
    unfold BackoffIsOver
    decide +kernel
  have hreach : IsReachable sampleCollation 20 (sampleViewer 400 (by decide))
      sampleSpoolDirectory.files (sampleSpoolFile "good" 1) := by
    refine ⟨⟨⟨"good", sampleEnvelope "good"⟩, rfl, by decide +kernel⟩,
      (List.length_filter_le _ _).trans_lt (by decide), fun other _ entry _ hconflict => ?_⟩
    unfold sampleViewer at hconflict
    dsimp only at hconflict
    split_ifs at hconflict
    cases hconflict
  exact ((reachable_entries_drained sampleCollation 20 1000 (sampleViewer 400 (by decide))
    sampleSpoolDirectory 0 [(0, 0), (0, 0)] hmeet le_rfl).1 (sampleSpoolFile "good" 1)
    (List.mem_cons_of_mem _ List.mem_cons_self) hreach).1 ⟨"good", sampleEnvelope "good"⟩ rfl

end Codemem
