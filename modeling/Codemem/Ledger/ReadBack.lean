import Codemem.Ledger.Decodings
import Codemem.Ledger.Recording

/-!
# Recorded attempts read back

What is recorded of an attempt is stored under its columns, whether the record inserts the attempt
or is a retry of one that is there.  So the encoded columns of the attempt and of each exposure are
read back as what was given, in canonical form, with one exception: the files of the working set
are read as absent when one of the paths is refused in the form in which it is stored.
-/

namespace Codemem

variable {byteLength : ByteLength} {dates : LedgerDates}

mutual

lemma Json.eq_of_sameText : (a b : Json) → Json.sameText a b = true → a = b
  | .null, b, h => by cases b <;> first | rfl | cases h
  | .bool a, b, h => by
    cases b <;> first | cases h | skip
    simpa [Json.sameText] using h
  | .num a, b, h => by
    cases b <;> first | cases h | skip
    simpa [Json.sameText] using h
  | .str a, b, h => by
    cases b <;> first | cases h | skip
    simpa [Json.sameText] using h
  | .arr a, b, h => by
    cases b <;> first | cases h | skip
    rw [Json.eq_of_sameItems a _ h]
  | .obj a, b, h => by
    cases b <;> first | cases h | skip
    rw [Json.eq_of_sameFields a _ h]

lemma Json.eq_of_sameItems : (as bs : List Json) → Json.sameItems as bs = true → as = bs
  | [], bs, h => by cases bs <;> first | rfl | cases h
  | a :: as, bs, h => by
    cases bs with
    | nil => cases h
    | cons b bs =>
      obtain ⟨hhead, htail⟩ := Bool.and_eq_true_iff.mp h
      rw [Json.eq_of_sameText a b hhead, Json.eq_of_sameItems as bs htail]

lemma Json.eq_of_sameFields : (as bs : List (String × Json)) → Json.sameFields as bs = true →
    as = bs
  | [], bs, h => by cases bs <;> first | rfl | cases h
  | (key, a) :: as, bs, h => by
    cases bs with
    | nil => cases h
    | cons field bs =>
      obtain ⟨hhead, htail⟩ := Bool.and_eq_true_iff.mp h
      obtain ⟨hkey, hvalue⟩ := Bool.and_eq_true_iff.mp hhead
      rw [Json.eq_of_sameText a _ hvalue, Json.eq_of_sameFields as bs htail, eq_of_beq hkey]

end

namespace SqlValue

lemma eq_of_same {a b : SqlValue} (h : a.same b = true) : a = b := by
  cases a <;> cases b <;> first | rfl | cases h | skip
  · exact congrArg SqlValue.number (eq_of_beq h)
  · exact congrArg SqlValue.text (eq_of_beq h)
  · rename_i a b
    cases a <;> cases b <;> first | cases h | skip
    · exact congrArg (SqlValue.json ∘ JsonText.malformed) (eq_of_beq h)
    · exact congrArg (SqlValue.json ∘ JsonText.encoded) (Json.eq_of_sameText _ _ h)

@[simp] lemma same_refl (a : SqlValue) : a.same a = true := by
  cases a <;> simp [same]

@[simp] lemma asJson_ofJson (value : Option JsonText) : (ofJson value).asJson = value := by
  cases value <;> rfl

end SqlValue

lemma exists_of_forall₂_left {α β : Type} {R : α → β → Prop} {as : List α} {bs : List β}
    (h : List.Forall₂ R as bs) {a : α} (ha : a ∈ as) : ∃ b ∈ bs, R a b := by
  induction h with
  | nil => cases ha
  | cons hpair _ ih =>
    rcases List.mem_cons.mp ha with rfl | hmem
    · exact ⟨_, List.mem_cons_self, hpair⟩
    · obtain ⟨b, hb, hpair⟩ := ih hmem
      exact ⟨b, List.mem_cons_of_mem _ hb, hpair⟩

lemma exists_of_forall₂_right {α β : Type} {R : α → β → Prop} {as : List α} {bs : List β}
    (h : List.Forall₂ R as bs) {b : β} (hb : b ∈ bs) : ∃ a ∈ as, R a b :=
  exists_of_forall₂_left h.flip hb

/-! ### Columns of rows -/

structure Column (row : SqlRow) (column : String) (value : SqlValue) : Prop where
  mem : (column, value) ∈ row
  get : row.get column = value

lemma get_cons (entry : String × SqlValue) (row : SqlRow) (column : String) :
    SqlRow.get (entry :: row) column = if entry.1 = column then entry.2 else row.get column := by
  unfold SqlRow.get
  rw [List.find?_cons]
  by_cases hname : entry.1 = column
  · rw [if_pos hname, beq_iff_eq.mpr hname]
    rfl
  · rw [if_neg hname, beq_eq_false_iff_ne.mpr hname]

lemma column_of_checkedRow {columns : List (String × Except String SqlValue)} {row : SqlRow}
    (h : checkedRow columns = .ok row) (column : String) {check : Except String SqlValue}
    (hcolumn : (columns.find? fun entry => entry.1 == column) = some (column, check)) :
    ∃ value, check = .ok value ∧ Column row column value := by
  induction columns generalizing row with
  | nil => cases hcolumn
  | cons first columns ih =>
    unfold checkedRow at h
    rw [List.mapM_cons] at h
    obtain ⟨entry, hentry, h⟩ := exists_of_bind_eq_ok h
    obtain ⟨rest, hrest, h⟩ := exists_of_bind_eq_ok h
    obtain rfl := Except.ok.inj h
    obtain ⟨value, hvalue, rfl⟩ := exists_of_map_eq_ok hentry
    rw [List.find?_cons] at hcolumn
    cases hname : first.1 == column with
    | true =>
      rw [hname] at hcolumn
      obtain rfl := Option.some_inj.mp hcolumn
      refine ⟨value, hvalue, List.mem_cons_self, ?_⟩
      rw [get_cons, if_pos rfl]
    | false =>
      rw [hname] at hcolumn
      obtain ⟨value', hcheck, hmem, hget⟩ := ih hrest hcolumn
      refine ⟨value', hcheck, List.mem_cons_of_mem _ hmem, ?_⟩
      rw [get_cons, if_neg (beq_eq_false_iff_ne.mp hname), hget]

lemma get_set_of_ne {row : SqlRow} {column column' : String} {value : SqlValue}
    (h : column' ≠ column) : (row.set column value).get column' = row.get column' := by
  induction row with
  | nil => rfl
  | cons entry row ih =>
    unfold SqlRow.set at ih ⊢
    rw [List.map_cons, get_cons, get_cons, ih]
    by_cases hentry : entry.1 = column
    · rw [if_pos hentry, if_neg h.symm, if_neg (hentry ▸ h.symm)]
    · rw [if_neg hentry]

lemma get_of_rowsEqual {expected actual : SqlRow} {ignoredKeys : List String}
    (h : rowsEqual expected actual ignoredKeys = true) {column : String} {value : SqlValue}
    (hcolumn : Column expected column value) (hkept : column ∉ ignoredKeys) :
    actual.get column = value := by
  have hentry := List.all_eq_true.mp h _ hcolumn.mem
  rcases Bool.or_eq_true_iff.mp hentry with hignored | hsame
  · exact absurd (List.contains_iff_mem.mp hignored) hkept
  · exact SqlValue.eq_of_same hsame

/-! ### Canonical rows -/

/-- The row of an attempt has what was given under its columns. -/
structure AttemptRow (byteLength : ByteLength) (input : RecordRetrievalAttemptInput)
    (attempt : SqlRow) : Prop where
  id : ∃ id, validateUuid input.attemptId "attemptId" = .ok id ∧
    Column attempt "attempt_id" (.text id)
  workingSetFiles : ∃ stored, serializeWorkingSetFiles byteLength input.workingSetFiles = .ok stored ∧
    Column attempt "working_set_files_json" (.ofJson stored)
  filterSummary : ∃ stored, serializeFilterSummary byteLength input.filterSummary = .ok stored ∧
    Column attempt "filter_summary_json" (.ofJson stored)

lemma attemptRow_of_canonicalAttempt {input : RecordRetrievalAttemptInput} {attempt : SqlRow}
    (h : canonicalAttempt byteLength dates input = .ok attempt) :
    AttemptRow byteLength input attempt := by
  unfold canonicalAttempt at h
  obtain ⟨startedAt, -, h⟩ := exists_of_bind_eq_ok h
  obtain ⟨completedAt, -, h⟩ := exists_of_bind_eq_ok h
  obtain ⟨_, -, h⟩ := exists_of_bind_eq_ok h
  obtain ⟨_, -, h⟩ := exists_of_bind_eq_ok h
  constructor
  · obtain ⟨value, hvalue, hcolumn⟩ := column_of_checkedRow h "attempt_id" rfl
    obtain ⟨id, hid, rfl⟩ := exists_of_map_eq_ok hvalue
    exact ⟨id, hid, hcolumn⟩
  · obtain ⟨value, hvalue, hcolumn⟩ := column_of_checkedRow h "working_set_files_json" rfl
    obtain ⟨stored, hstored, rfl⟩ := exists_of_map_eq_ok hvalue
    exact ⟨stored, hstored, hcolumn⟩
  · obtain ⟨value, hvalue, hcolumn⟩ := column_of_checkedRow h "filter_summary_json" rfl
    obtain ⟨stored, hstored, rfl⟩ := exists_of_map_eq_ok hvalue
    exact ⟨stored, hstored, hcolumn⟩

/-- The row of an exposure has what was given under its columns. -/
structure ExposureRow (byteLength : ByteLength) (attemptId : SqlValue)
    (exposure : RetrievalExposureInput) (row : SqlRow) : Prop where
  attemptId : Column row "attempt_id" attemptId
  rank : Column row "rank" (.number exposure.rank)
  scoreSummary : ∃ stored, serializeScoreSummary byteLength exposure.scoreSummary = .ok stored ∧
    Column row "score_summary_json" (.ofJson stored)
  reasonCodes : ∃ stored, serializeReasonCodes byteLength exposure.reasonCodes = .ok stored ∧
    Column row "reason_codes_json" (.ofJson stored)

lemma exposureRow_of_canonicalExposure {input : RecordRetrievalAttemptInput} {attemptId : SqlValue}
    {ranks : List ℚ} {exposure : RetrievalExposureInput} {row : SqlRow}
    (h : canonicalExposure byteLength dates input attemptId ranks exposure = .ok row) :
    ExposureRow byteLength attemptId exposure row := by
  unfold canonicalExposure at h
  obtain ⟨_, -, h⟩ := exists_of_bind_eq_ok h
  obtain ⟨_, -, h⟩ := exists_of_bind_eq_ok h
  obtain ⟨_, -, h⟩ := exists_of_bind_eq_ok h
  obtain ⟨_, -, h⟩ := exists_of_bind_eq_ok h
  obtain ⟨_, -, h⟩ := exists_of_bind_eq_ok h
  obtain ⟨_, -, h⟩ := exists_of_bind_eq_ok h
  obtain ⟨_, -, h⟩ := exists_of_bind_eq_ok h
  constructor
  · obtain ⟨value, hvalue, hcolumn⟩ := column_of_checkedRow h "attempt_id" rfl
    exact Except.ok.inj hvalue ▸ hcolumn
  · obtain ⟨value, hvalue, hcolumn⟩ := column_of_checkedRow h "rank" rfl
    exact Except.ok.inj hvalue ▸ hcolumn
  · obtain ⟨value, hvalue, hcolumn⟩ := column_of_checkedRow h "score_summary_json" rfl
    obtain ⟨stored, hstored, rfl⟩ := exists_of_map_eq_ok hvalue
    exact ⟨stored, hstored, hcolumn⟩
  · obtain ⟨value, hvalue, hcolumn⟩ := column_of_checkedRow h "reason_codes_json" rfl
    obtain ⟨stored, hstored, rfl⟩ := exists_of_map_eq_ok hvalue
    exact ⟨stored, hstored, hcolumn⟩

lemma forall₂_of_canonicalExposureRows {input : RecordRetrievalAttemptInput} {attemptId : SqlValue}
    {ranks : List ℚ} {exposures : List RetrievalExposureInput} {rows : List SqlRow}
    (h : canonicalExposureRows byteLength dates input attemptId ranks exposures = .ok rows) :
    List.Forall₂ (ExposureRow byteLength attemptId) exposures rows := by
  induction exposures generalizing ranks rows with
  | nil =>
    obtain rfl := Except.ok.inj h
    exact .nil
  | cons exposure exposures ih =>
    obtain ⟨row, hrow, h⟩ := exists_of_bind_eq_ok h
    obtain ⟨rest, hrest, h⟩ := exists_of_bind_eq_ok h
    obtain rfl := Except.ok.inj h
    exact .cons (exposureRow_of_canonicalExposure hrow) (ih hrest)

lemma rows_of_canonicalExposures {input : RecordRetrievalAttemptInput} {attemptId : SqlValue}
    {rows : List SqlRow} (h : canonicalExposures byteLength dates input attemptId = .ok rows) :
    rows.length = input.exposures.length ∧
      (∀ row ∈ rows, ∃ exposure, ExposureRow byteLength attemptId exposure row) ∧
      ∀ exposure ∈ input.exposures, ∃ row ∈ rows, ExposureRow byteLength attemptId exposure row := by
  unfold canonicalExposures at h
  obtain ⟨_, -, h⟩ := exists_of_bind_eq_ok h
  obtain ⟨_, -, h⟩ := exists_of_bind_eq_ok h
  obtain ⟨_, -, h⟩ := exists_of_bind_eq_ok h
  obtain ⟨unordered, hrows, h⟩ := exists_of_bind_eq_ok h
  obtain rfl := Except.ok.inj h
  have hall := forall₂_of_canonicalExposureRows hrows
  have hperm : (orderByRank unordered).Perm unordered := List.perm_insertionSort _ _
  refine ⟨hperm.length_eq.trans hall.length_eq.symm, fun row hrow => ?_, fun exposure hexposure => ?_⟩
  · obtain ⟨exposure, -, hok⟩ := exists_of_forall₂_right hall (hperm.mem_iff.mp hrow)
    exact ⟨exposure, hok⟩
  · obtain ⟨row, hrow, hok⟩ := exists_of_forall₂_left hall hexposure
    exact ⟨row, hperm.mem_iff.mpr hrow, hok⟩

/-! ### Stored rows -/

/-- A stored row of an exposure has the columns of the row, but those that may change. -/
def StoredExposure (row stored : SqlRow) : Prop :=
  ∀ column value, column ∉ ["exposure_id", "handoff_status", "memory_id"] →
    Column row column value → stored.get column = value

/-- A stored row of an attempt has the columns of the row, but those that may change. -/
def StoredAttempt (attempt stored : SqlRow) : Prop :=
  ∀ column value, column ∉ ["delivery_status", "started_at", "completed_at", "latency_ms",
    "retention_until", "retention_pinned", "retention_finalized_at"] →
    Column attempt column value → stored.get column = value

/-- The tables hold an attempt with its exposures. -/
structure Holds (db : LedgerDb) (id : SqlValue) (attempt : SqlRow) (exposures : List SqlRow) :
    Prop where
  attempt : ∃ stored, db.attempt? id = some stored ∧ StoredAttempt attempt stored
  length_eq : (db.exposuresOf id).length = exposures.length
  exposures : ∀ row ∈ exposures, ∃ stored ∈ db.exposuresOf id, StoredExposure row stored

lemma ignoredAttemptKeys_subset (attempt existing : SqlRow) :
    ignoredAttemptKeys dates attempt existing ⊆ ["delivery_status", "started_at", "completed_at",
      "latency_ms", "retention_until", "retention_pinned", "retention_finalized_at"] := by
  unfold ignoredAttemptKeys
  dsimp only
  refine List.append_subset.mpr ⟨List.append_subset.mpr ⟨List.append_subset.mpr ⟨?_, ?_⟩, ?_⟩, ?_⟩
  all_goals
    split
    · decide
    · exact List.nil_subset _

lemma storedExposure_of_equal {db : LedgerDb} {attempt existing row stored : SqlRow}
    (h : exposureRowsEqualAfterMemoryDeletion db row stored
      (ignoredExposureKeys attempt existing row) = true) : StoredExposure row stored := by
  intro column value hcolumn hvalue
  have hkept : column ∉ ignoredExposureKeys attempt existing row ++ ["memory_id"] := by
    intro hmem
    have hsubset : ignoredExposureKeys attempt existing row ++ ["memory_id"] ⊆
        ["exposure_id", "handoff_status", "memory_id"] := by
      unfold ignoredExposureKeys
      split <;> decide
    exact hcolumn (hsubset hmem)
  rcases Bool.or_eq_true_iff.mp h with hequal | hdeleted
  · exact get_of_rowsEqual hequal hvalue fun hmem => hkept (List.mem_append_left _ hmem)
  · obtain ⟨hrest, -⟩ := Bool.and_eq_true_iff.mp hdeleted
    obtain ⟨-, hequal⟩ := Bool.and_eq_true_iff.mp hrest
    exact get_of_rowsEqual hequal hvalue hkept

lemma holds_of_checkRetry {db : LedgerDb} {id : SqlValue} {attempt existing : SqlRow}
    {exposures : List SqlRow} {u : Unit} (hexisting : db.attempt? id = some existing)
    (h : checkRetry dates db attempt existing exposures (db.exposuresOf id) = .ok u) :
    Holds db id attempt exposures := by
  unfold checkRetry at h
  obtain ⟨_, -, h⟩ := exists_of_bind_eq_ok h
  obtain ⟨_, -, h⟩ := exists_of_bind_eq_ok h
  obtain ⟨hattempt, hrest⟩ := not_or.mp (not_of_rejectIf_eq_ok h)
  obtain ⟨hlength, hexposures⟩ := not_or.mp hrest
  have hlength := not_not.mp hlength
  refine ⟨⟨existing, hexisting, fun column value hcolumn hvalue => ?_⟩, hlength, fun row hrow => ?_⟩
  · exact get_of_rowsEqual (Bool.eq_true_of_not_eq_false hattempt) hvalue fun hmem =>
      hcolumn (ignoredAttemptKeys_subset _ _ hmem)
  · obtain ⟨i, hi, rfl⟩ := List.getElem_of_mem hrow
    have hi' : i < (db.exposuresOf id).length := hlength ▸ hi
    have hpair : (exposures[i], (db.exposuresOf id)[i]) ∈ exposures.zip (db.exposuresOf id) := by
      rw [← List.getElem_zip (h := by rw [List.length_zip]; exact lt_min hi hi')]
      exact List.getElem_mem _
    have hequal := List.all_eq_true.mp (Bool.eq_true_of_not_eq_false hexposures) _ hpair
    exact ⟨_, List.getElem_mem hi', storedExposure_of_equal hequal⟩

lemma exists_of_insertExposure {db db' : LedgerDb} {row : SqlRow}
    (h : db.insertExposure dates row = .ok db') :
    ∃ stored, db'.exposures = db.exposures ++ [stored] ∧ db'.attempts = db.attempts ∧
      StoredExposure row stored := by
  unfold LedgerDb.insertExposure at h
  obtain ⟨_, -, h⟩ := exists_of_bind_eq_ok h
  obtain rfl := Except.ok.inj h
  refine ⟨_, rfl, rfl, fun column value hcolumn hvalue => ?_⟩
  have hid : column ≠ "exposure_id" := by
    rintro rfl
    exact hcolumn (by decide)
  have hmemory : column ≠ "memory_id" := by
    rintro rfl
    exact hcolumn (by decide)
  rw [get_cons, if_neg (Ne.symm hid)]
  split_ifs
  · exact hvalue.get
  · rw [get_set_of_ne hmemory, hvalue.get]

lemma exists_of_insertExposures {db db' : LedgerDb} {rows : List SqlRow}
    (h : rows.foldlM (LedgerDb.insertExposure dates) db = .ok db') :
    ∃ added, db'.exposures = db.exposures ++ added ∧ db'.attempts = db.attempts ∧
      List.Forall₂ StoredExposure rows added := by
  induction rows generalizing db with
  | nil =>
    obtain rfl := Except.ok.inj h
    exact ⟨[], (List.append_nil _).symm, rfl, .nil⟩
  | cons row rows ih =>
    rw [List.foldlM_cons] at h
    obtain ⟨next, hnext, h⟩ := exists_of_bind_eq_ok h
    obtain ⟨stored, hexposures, hattempts, hstored⟩ := exists_of_insertExposure hnext
    obtain ⟨added, hexposures', hattempts', hadded⟩ := ih h
    refine ⟨stored :: added, ?_, hattempts'.trans hattempts, .cons hstored hadded⟩
    rw [hexposures', hexposures, List.append_assoc, List.singleton_append]

lemma holds_of_inserted {ledger : RetrievalLedger} {db db' : LedgerDb} {id : SqlValue}
    {attempt : SqlRow} {exposures : List SqlRow} (hid : Column attempt "attempt_id" id)
    (hexposures : ∀ row ∈ exposures, Column row "attempt_id" id)
    (hnone : ledger.attempt? id = none)
    (hattempt : ledger.insertAttempt attempt = .ok db)
    (h : exposures.foldlM (LedgerDb.insertExposure dates) db = .ok db') :
    Holds db' id attempt exposures := by
  unfold LedgerDb.insertAttempt at hattempt
  obtain ⟨_, -, hattempt⟩ := exists_of_bind_eq_ok hattempt
  obtain rfl := Except.ok.inj hattempt
  obtain ⟨added, hadded, hattempts, hstored⟩ := exists_of_insertExposures h
  -- no exposure of the attempt was there: it would belong to an attempt with its identifier
  have hold : (ledger.exposures.filter fun row => (row.get "attempt_id").same id) = [] := by
    refine List.filter_eq_nil_iff.mpr fun row hrow hsame => ?_
    obtain ⟨owner, howner, hsame'⟩ := ledger.owned row hrow
    rw [SqlValue.eq_of_same hsame] at hsame'
    exact List.find?_eq_none.mp hnone owner howner hsame'
  have hnew : (added.filter fun row => (row.get "attempt_id").same id) = added := by
    refine List.filter_eq_self.mpr fun stored hmem => ?_
    obtain ⟨row, hrow, hkept⟩ := exists_of_forall₂_right hstored hmem
    rw [hkept "attempt_id" id (by decide) (hexposures row hrow)]
    exact SqlValue.same_refl id
  have hof : db'.exposuresOf id = orderByRank added := by
    unfold LedgerDb.exposuresOf
    rw [hadded, List.filter_append]
    dsimp only
    rw [hold, hnew, List.nil_append]
  have hperm : (orderByRank added).Perm added := List.perm_insertionSort _ _
  refine ⟨⟨attempt, ?_, fun column value _ hvalue => hvalue.get⟩, ?_, fun row hrow => ?_⟩
  · unfold LedgerDb.attempt? at hnone ⊢
    rw [hattempts]
    dsimp only
    rw [List.find?_append, hnone, Option.none_or,
      List.find?_cons_of_pos (by rw [hid.get]; exact SqlValue.same_refl id)]
  · rw [hof, hperm.length_eq, hstored.length_eq]
  · obtain ⟨stored, hmem, hkept⟩ := exists_of_forall₂_left hstored hrow
    exact ⟨stored, hof ▸ hperm.mem_iff.mpr hmem, hkept⟩

lemma holds_of_writeAttempt {ledger : RetrievalLedger} {id : SqlValue} {attempt : SqlRow}
    {exposures : List SqlRow} {written : LedgerDb × Bool}
    (hid : Column attempt "attempt_id" id)
    (hexposures : ∀ row ∈ exposures, Column row "attempt_id" id)
    (h : writeAttempt dates ledger.toLedgerDb attempt exposures = .ok written) :
    Holds written.1 id attempt exposures := by
  unfold writeAttempt at h
  obtain ⟨_, -, h⟩ := exists_of_bind_eq_ok h
  rw [hid.get] at h
  cases hexisting : ledger.attempt? id with
  | some existing =>
    rw [hexisting] at h
    obtain ⟨_, hretry, h⟩ := exists_of_bind_eq_ok h
    obtain rfl := Except.ok.inj h
    exact holds_of_checkRetry hexisting hretry
  | none =>
    rw [hexisting] at h
    obtain ⟨db, hattempt, h⟩ := exists_of_bind_eq_ok h
    obtain ⟨db', hrun, h⟩ := exists_of_bind_eq_ok h
    obtain rfl := Except.ok.inj h
    exact holds_of_inserted hid hexposures hexisting hattempt hrun

/-! ### Reads -/

def canonicalFilterSummary (input : List (String × RawValue)) : Json :=
  .obj (definedEntries FILTER_KEY_ORDER input)

/-- The canonical form of scores: those of the fusion stand among the others. -/
def canonicalScoreSummary (input : RetrievalScoreSummary) : Json :=
  .obj (definedEntries SCORE_KEY_ORDER (input.flat ++ input.fusion.getD []))

structure ExposureReadsBack (exposure : RetrievalExposureInput) (read : RetrievalExposureRecord) :
    Prop where
  rank : read.columns.get "rank" = .number exposure.rank
  scoreSummary : read.scoreSummary = exposure.scoreSummary.map canonicalScoreSummary
  reasonCodes : read.reasonCodes = exposure.reasonCodes

/-- An attempt is read, with the filter summary and the exposures that were given. -/
structure AttemptReadsBack (input : RecordRetrievalAttemptInput) (record : RetrievalAttemptRecord) :
    Prop where
  filterSummary : record.filterSummary = input.filterSummary.map canonicalFilterSummary
  length_eq : record.exposures.length = input.exposures.length
  exposures : ∀ exposure ∈ input.exposures, ∃ read ∈ record.exposures,
    ExposureReadsBack exposure read

/-- An attempt is read back with all that was given. -/
def ReadsBack (byteLength : ByteLength) (dates : LedgerDates) (db : LedgerDb)
    (input : RecordRetrievalAttemptInput) : Prop :=
  ∃ record, getRetrievalAttempt byteLength dates db input.attemptId = .ok (some record) ∧
    AttemptReadsBack input record ∧
    record.workingSetFiles = input.workingSetFiles.map fun paths => paths.map repositoryPath

lemma decodeFilterSummary_of_serialize {input : Option (List (String × RawValue))}
    {stored : Option JsonText} (h : serializeFilterSummary byteLength input = .ok stored) :
    decodeFilterSummary byteLength stored = input.map canonicalFilterSummary := by
  cases input with
  | none =>
    obtain rfl := Except.ok.inj h
    rfl
  | some fields => exact decodeFilterSummary_serializeFilterSummary h

lemma flattenScoreSummary_eq {input : RetrievalScoreSummary} {fields : List (String × RawValue)}
    (h : flattenScoreSummary input = .ok fields) : fields = input.flat ++ input.fusion.getD [] := by
  unfold flattenScoreSummary at h
  cases hfusion : input.fusion with
  | none =>
    rw [hfusion] at h
    rw [← Except.ok.inj h, Option.getD_none, List.append_nil]
  | some fusion =>
    rw [hfusion] at h
    obtain ⟨_, -, h⟩ := exists_of_bind_eq_ok h
    obtain ⟨_, -, h⟩ := exists_of_bind_eq_ok h
    rw [← Except.ok.inj h, Option.getD_some]

lemma decodeScoreSummary_of_serialize {input : Option RetrievalScoreSummary}
    {stored : Option JsonText} (h : serializeScoreSummary byteLength input = .ok stored) :
    decodeScoreSummary byteLength stored = input.map canonicalScoreSummary := by
  cases input with
  | none =>
    obtain rfl := Except.ok.inj h
    rfl
  | some scores =>
    obtain ⟨fields, hflat, hdecoded⟩ := decodeScoreSummary_serializeScoreSummary h
    rw [hdecoded, flattenScoreSummary_eq hflat]
    rfl

lemma decodeReasonCodes_of_serialize {input : Option (List String)} {stored : Option JsonText}
    (h : serializeReasonCodes byteLength input = .ok stored) :
    decodeReasonCodes byteLength stored = input := by
  cases input with
  | none =>
    obtain rfl := Except.ok.inj h
    rfl
  | some codes => exact decodeReasonCodes_serializeReasonCodes h

lemma exposureReadsBack_of_stored {attemptId : SqlValue} {exposure : RetrievalExposureInput}
    {row stored : SqlRow} (hrow : ExposureRow byteLength attemptId exposure row)
    (hstored : StoredExposure row stored) :
    ExposureReadsBack exposure (readExposure byteLength stored) := by
  obtain ⟨scores, hscores, hscoreColumn⟩ := hrow.scoreSummary
  obtain ⟨codes, hcodes, hcodeColumn⟩ := hrow.reasonCodes
  refine ⟨hstored "rank" _ (by decide) hrow.rank, ?_, ?_⟩
  · unfold readExposure
    dsimp only
    rw [hstored "score_summary_json" _ (by decide) hscoreColumn, SqlValue.asJson_ofJson,
      decodeScoreSummary_of_serialize hscores]
  · unfold readExposure
    dsimp only
    rw [hstored "reason_codes_json" _ (by decide) hcodeColumn, SqlValue.asJson_ofJson,
      decodeReasonCodes_of_serialize hcodes]

/-- A recorded attempt is read, with all that was given but the files of its working set, which are
what the decoder makes of the stored text. -/
lemma exists_record_of_recorded {ledger : RetrievalLedger} {input : RecordRetrievalAttemptInput}
    {result : LedgerDb × RetrievalAttemptRecord × Bool}
    (h : recordRetrievalAttempt byteLength dates ledger.toLedgerDb input = .ok result) :
    ∃ record stored, getRetrievalAttempt byteLength dates result.1 input.attemptId =
        .ok (some record) ∧ AttemptReadsBack input record ∧
      serializeWorkingSetFiles byteLength input.workingSetFiles = .ok stored ∧
      record.workingSetFiles = decodeWorkingSetFiles byteLength stored := by
  unfold recordRetrievalAttempt at h
  obtain ⟨attempt, hattempt, h⟩ := exists_of_bind_eq_ok h
  obtain ⟨exposures, hexposures, h⟩ := exists_of_bind_eq_ok h
  obtain ⟨written, hwritten, h⟩ := exists_of_bind_eq_ok h
  have hrow := attemptRow_of_canonicalAttempt hattempt
  obtain ⟨id, hid, hidColumn⟩ := hrow.id
  obtain ⟨files, hfiles, hfilesColumn⟩ := hrow.workingSetFiles
  obtain ⟨summary, hsummary, hsummaryColumn⟩ := hrow.filterSummary
  rw [hidColumn.get] at hexposures h
  obtain ⟨hlength, hrows, hgiven⟩ := rows_of_canonicalExposures hexposures
  have hheld : Holds written.1 (.text id) attempt exposures :=
    holds_of_writeAttempt hidColumn (fun row hmem => (hrows row hmem).choose_spec.attemptId) hwritten
  obtain ⟨stored, hstored, hkept⟩ := hheld.attempt
  cases hsaved : readAttempt byteLength dates written.1 (.text id) with
  | none =>
    rw [hsaved] at h
    cases h
  | some record =>
    rw [hsaved] at h
    obtain rfl := Except.ok.inj h
    have hrecord : ∃ metadata, attemptRecord byteLength dates stored metadata
        (written.1.exposuresOf (.text id)) = record := by
      unfold readAttempt at hsaved
      rw [hstored] at hsaved
      dsimp only at hsaved
      split_ifs at hsaved
      obtain ⟨metadata, -, hrecord⟩ := Option.map_eq_some_iff.mp hsaved
      exact ⟨metadata, hrecord⟩
    obtain ⟨metadata, rfl⟩ := hrecord
    refine ⟨attemptRecord byteLength dates stored metadata (written.1.exposuresOf (.text id)), files,
      ?_, ⟨?_, ?_, fun exposure hexposure => ?_⟩, hfiles, ?_⟩
    · unfold getRetrievalAttempt
      rw [hid]
      exact congrArg Except.ok hsaved
    · unfold attemptRecord
      dsimp only
      rw [hkept "filter_summary_json" _ (by decide) hsummaryColumn, SqlValue.asJson_ofJson,
        decodeFilterSummary_of_serialize hsummary]
    · exact (List.length_map _).trans (hheld.length_eq.trans hlength)
    · obtain ⟨row, hmem, hok⟩ := hgiven exposure hexposure
      obtain ⟨held, hmemHeld, hheldRow⟩ := hheld.exposures row hmem
      exact ⟨_, List.mem_map_of_mem hmemHeld, exposureReadsBack_of_stored hok hheldRow⟩
    · unfold attemptRecord
      dsimp only
      rw [hkept "working_set_files_json" _ (by decide) hfilesColumn, SqlValue.asJson_ofJson]

/-- A recorded attempt is read back with all that was given exactly when each path of its working
set is accepted again in the form in which it is stored. -/
theorem recordRetrievalAttempt_readsBack_iff (byteLength : ByteLength) (dates : LedgerDates)
    (ledger : RetrievalLedger) (input : RecordRetrievalAttemptInput)
    (result : LedgerDb × RetrievalAttemptRecord × Bool)
    (h : recordRetrievalAttempt byteLength dates ledger.toLedgerDb input = .ok result) :
    ReadsBack byteLength dates result.1 input ↔
      ∀ paths ∈ input.workingSetFiles, ∀ path ∈ paths, RereadablePath path := by
  obtain ⟨record, stored, hget, hreads, hserialized, hfiles⟩ := exists_record_of_recorded h
  have hexact : ReadsBack byteLength dates result.1 input ↔
      decodeWorkingSetFiles byteLength stored =
        input.workingSetFiles.map fun paths => paths.map repositoryPath := by
    refine ⟨fun hback => ?_, fun hsame => ⟨record, hget, hreads, hfiles.trans hsame⟩⟩
    obtain ⟨record', hget', -, hfiles'⟩ := hback
    obtain rfl := Option.some_inj.mp (Except.ok.inj (hget.symm.trans hget'))
    exact hfiles.symm.trans hfiles'
  rw [hexact]
  cases hinput : input.workingSetFiles with
  | none =>
    rw [hinput] at hserialized
    obtain rfl := Except.ok.inj hserialized
    exact iff_of_true rfl fun paths hpaths => by cases hpaths
  | some paths =>
    rw [hinput] at hserialized
    refine (decodeWorkingSetFiles_serializeWorkingSetFiles hserialized).trans
      ⟨fun hall other hother => ?_, fun hall => hall paths rfl⟩
    obtain rfl := Option.some_inj.mp hother
    exact hall

/-- The two times of an attempt that starts with the year 2026. -/
def newYearDates : LedgerDates where
  parse text := if text = "2026-01-01T00:00:00.000Z" then some 1767225600000 else none
  toISOString time := .ok (if time = 1767225600000 then "2026-01-01T00:00:00.000Z"
    else "2026-04-01T00:00:00.000Z")
  julianday _ := none

/-- A ledger without rows. -/
def emptyLedger : RetrievalLedger where
  attempts := []
  exposures := []
  nextExposureId := 1
  sessions := []
  memories := []
  owned exposure hexposure := by cases hexposure

/-- An attempt without results, with the files of its working set. -/
def attemptWithFiles (paths : List String) : RecordRetrievalAttemptInput where
  attemptId := "0b8f7a52-6c1d-4e3f-9a20-5d4c3b2a1f00"
  surface := "prompt_pack"
  trigger := "automatic"
  startedAt := "2026-01-01T00:00:00.000Z"
  retrievalStatus := "no_results"
  deliveryStatus := "not_attempted"
  candidateCount := 0
  selectedCount := 0
  recorderVersion := "1"
  workingSetFiles := some paths
  exposures := []

/-- A path with a leading dot and a backslash is read back in its canonical form. -/
theorem recordRetrievalAttempt_readsBack_iff_source : ∃ result,
    recordRetrievalAttempt (fun _ => 15) newYearDates emptyLedger.toLedgerDb
      (attemptWithFiles ["./src\\main.ts"]) = .ok result ∧
    ReadsBack (fun _ => 15) newYearDates result.1 (attemptWithFiles ["./src\\main.ts"]) := by
  have hok : (recordRetrievalAttempt (fun _ => 15) newYearDates emptyLedger.toLedgerDb
      (attemptWithFiles ["./src\\main.ts"])).isOk = true := by
    decide +kernel
  obtain ⟨result, hresult⟩ := exists_of_isOk hok
  refine ⟨result, hresult, (recordRetrievalAttempt_readsBack_iff _ _ _ _ _ hresult).mpr ?_⟩
  intro paths hpaths path hpath
  obtain rfl := Option.some_inj.mp hpaths
  rw [List.mem_singleton.mp hpath]
  unfold RereadablePath
  decide +kernel

/-- The path `./` is accepted and stored as the empty text, and the files are read as absent. -/
theorem dotSlash_not_readBack : ¬ ∀ (byteLength : ByteLength) (dates : LedgerDates)
    (ledger : RetrievalLedger) (input : RecordRetrievalAttemptInput)
    (result : LedgerDb × RetrievalAttemptRecord × Bool),
    recordRetrievalAttempt byteLength dates ledger.toLedgerDb input = .ok result →
      ReadsBack byteLength dates result.1 input := by
  intro h
  have hok : (recordRetrievalAttempt (fun _ => 4) newYearDates emptyLedger.toLedgerDb
      (attemptWithFiles ["./"])).isOk = true := by
    decide +kernel
  obtain ⟨result, hresult⟩ := exists_of_isOk hok
  obtain ⟨record, hget, -, hfiles⟩ := h _ _ _ _ _ hresult
  obtain ⟨record', stored, hget', -, hserialized, hfiles'⟩ := exists_record_of_recorded hresult
  obtain rfl := Option.some_inj.mp (Except.ok.inj (hget.symm.trans hget'))
  have hall := (decodeWorkingSetFiles_serializeWorkingSetFiles hserialized).mp
    (hfiles'.symm.trans hfiles)
  exact (hall "./" (List.mem_singleton.mpr rfl)).1 (by decide +kernel)

end Codemem
