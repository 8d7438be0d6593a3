import Codemem.Foundation.Units
import Codemem.Store.SummaryReadings

/-!
# Near-duplicate memories

`dedupNearDuplicateMemories` looks at pairs of active memories of different sessions with the same
title and close times of creation.  Of each pair the worse one is deactivated.  Pairs are judged one
by one, so the better one of a pair may be the worse one of another: every deactivated memory has a
kept duplicate exactly when that does not happen to the pair it is reported with.
-/

namespace Codemem

structure DedupNearDuplicatesOptions where
  windowMs : Option ℚ
  limit : Option ℤ
  dryRun : Bool

structure ReportedPair where
  keptId : ℕ
  deactivatedId : ℕ
  title : String
  deriving DecidableEq, Repr

structure DedupNearDuplicatesResult where
  checked : ℕ
  deactivated : ℕ
  pairs : List ReportedPair
  deriving DecidableEq, Repr

/-- What the database contributes: `ABS(JULIANDAY(x) - JULIANDAY(y)) * 86400`, and the order in which
it visits the pairs of a join. -/
structure DedupClock where
  elapsedSeconds : String → String → Option ℚ
  elapsed_comm : ∀ x y, elapsedSeconds x y = elapsedSeconds y x
  scan : List (MemoryItem × MemoryItem) → List (MemoryItem × MemoryItem)
  scan_perm : ∀ pairs, (scan pairs).Perm pairs

/-- The rows of `memory_items`, each with its own id. -/
structure MemoryTable where
  rows : List MemoryItem
  ids_nodup : (rows.map MemoryItem.id).Nodup

variable (clock : DedupClock) (opts : DedupNearDuplicatesOptions)

/-- `LOWER(TRIM(title))`. -/
def normalizedTitle (row : MemoryItem) : String := sqlLower (sqlTrim row.title)

def CreatedWithinWindow (a b : MemoryItem) : Prop :=
  (clock.elapsedSeconds a.createdAt b.createdAt).any
    (fun seconds => seconds ≤ opts.windowMs.getD 3600000 / 1000) = true

instance (a b : MemoryItem) : Decidable (CreatedWithinWindow clock opts a b) := by
  unfold CreatedWithinWindow
  infer_instance

/-- The `JOIN … ON` condition. -/
def Joins (a b : MemoryItem) : Prop :=
  normalizedTitle a = normalizedTitle b ∧ a.id < b.id ∧ a.sessionId ≠ b.sessionId ∧
    a.active = some 1 ∧ b.active = some 1 ∧ CreatedWithinWindow clock opts a b

instance (a b : MemoryItem) : Decidable (Joins clock opts a b) := by
  unfold Joins
  infer_instance

/-- The pairs of the query, newest first, up to the limit. -/
def nearDuplicatePairs (table : MemoryTable) : List (MemoryItem × MemoryItem) :=
  let joined := clock.scan ((table.rows.product table.rows).filter fun pair =>
    decide (Joins clock opts pair.1 pair.2))
  let sorted := joined.insertionSort fun pair pair' => pair'.1.createdAt ≤ pair.1.createdAt
  match opts.limit with
  | some limit => if 0 < limit then sorted.take limit.toNat else sorted
  | none => sorted

/-- A confidence in a comparison of JavaScript. -/
def confidenceOf (row : MemoryItem) : ℚ := row.content.confidence.getD 0

/-- The pair with the row to keep first: the higher confidence, or else the more recent one. -/
def keepAndDrop (pair : MemoryItem × MemoryItem) : MemoryItem × MemoryItem :=
  if confidenceOf pair.2 < confidenceOf pair.1 then (pair.1, pair.2)
  else if confidenceOf pair.1 < confidenceOf pair.2 then (pair.2, pair.1)
  else if jsLt pair.2.createdAt pair.1.createdAt then (pair.1, pair.2)
  else (pair.2, pair.1)

def keptOf (pair : MemoryItem × MemoryItem) : MemoryItem := (keepAndDrop pair).1

def droppedOf (pair : MemoryItem × MemoryItem) : MemoryItem := (keepAndDrop pair).2

def reportOf (pair : MemoryItem × MemoryItem) : ReportedPair :=
  ⟨(keptOf pair).id, (droppedOf pair).id, pair.1.title⟩

/-- The loop over the pairs: each dropped row is listed and reported once. -/
def collectPair (acc : List ℕ × List ReportedPair) (pair : MemoryItem × MemoryItem) :
    List ℕ × List ReportedPair :=
  if (droppedOf pair).id ∈ acc.1 then acc
  else (acc.1 ++ [(droppedOf pair).id], acc.2 ++ [reportOf pair])

/-- `toDeactivate` and `pairs` after the loop. -/
def collectPairs (pairs : List (MemoryItem × MemoryItem)) : List ℕ × List ReportedPair :=
  pairs.foldl collectPair ([], [])

/-- `UPDATE memory_items SET active = 0, updated_at = ? WHERE id IN (…)`. -/
def deactivateIds (now : String) (ids : List ℕ) (table : MemoryTable) : MemoryTable where
  rows := table.rows.map fun row =>
    if row.id ∈ ids then { row with active := some 0, updatedAt := now } else row
  ids_nodup := by
    have hsame : (table.rows.map fun row =>
        if row.id ∈ ids then { row with active := some 0, updatedAt := now } else row).map
          MemoryItem.id = table.rows.map MemoryItem.id := by
      rw [List.map_map]
      refine List.map_congr_left fun row _ => ?_
      rw [Function.comp_apply]
      split_ifs
      · rfl
      · rfl
    rw [hsame]
    exact table.ids_nodup

def dedupNearDuplicateMemories (now : String) (table : MemoryTable) :
    DedupNearDuplicatesResult × MemoryTable :=
  let pairRows := nearDuplicatePairs clock opts table
  let (toDeactivate, pairs) := collectPairs pairRows
  let result := ⟨pairRows.length, toDeactivate.length, pairs⟩
  if toDeactivate.isEmpty || opts.dryRun then (result, table)
  else (result, (slicesOf 200 toDeactivate).foldl (fun table chunk => deactivateIds now chunk table)
    table)

/-! ### What is promised -/

/-- A row is at least as good as another: its confidence is higher, or it is the same and the row is
not older. -/
def AtLeastAsGood (kept dropped : MemoryItem) : Prop :=
  confidenceOf dropped < confidenceOf kept ∨
    confidenceOf dropped = confidenceOf kept ∧ ¬jsLt kept.createdAt dropped.createdAt

/-- An active row keeps what a dropped one said. -/
structure KeepsDuplicate (kept dropped : MemoryItem) : Prop where
  session : kept.sessionId ≠ dropped.sessionId
  title : normalizedTitle kept = normalizedTitle dropped
  near : CreatedWithinWindow clock opts dropped kept
  good : AtLeastAsGood kept dropped

def Deactivates (after : MemoryTable) (row : MemoryItem) : Prop :=
  row.active = some 1 ∧ ∀ row' ∈ after.rows, row'.id = row.id → row'.active = some 0

def IsActiveIn (after : MemoryTable) (id : ℕ) : Prop :=
  ∃ row ∈ after.rows, row.id = id ∧ row.active = some 1

/-- Every deactivated row has an active duplicate that is at least as good, the kept row of every
reported pair is active, and a dry run reports what the run does and changes nothing. -/
structure KeepsDuplicates (now : String) (table : MemoryTable) : Prop where
  duplicate : let after := (dedupNearDuplicateMemories clock { opts with dryRun := false } now
      table).2
    ∀ row ∈ table.rows, Deactivates after row →
      ∃ kept ∈ table.rows, IsActiveIn after kept.id ∧ KeepsDuplicate clock opts kept row
  keptActive : let run := dedupNearDuplicateMemories clock { opts with dryRun := false } now table
    ∀ pair ∈ run.1.pairs, IsActiveIn run.2 pair.keptId
  dryRun : let run := dedupNearDuplicateMemories clock { opts with dryRun := false } now table
    let dry := dedupNearDuplicateMemories clock { opts with dryRun := true } now table
    dry = (run.1, table) ∧ ∀ row ∈ table.rows, row.active = some 1 →
      (Deactivates run.2 row ↔ row.id ∈ dry.1.pairs.map ReportedPair.deactivatedId)

/-- Where a row is dropped for the first time, the row that is kept is not dropped by any pair. -/
def KeepersStay (pairs : List (MemoryItem × MemoryItem)) : Prop :=
  ∀ front pair back, pairs = front ++ pair :: back →
    (∀ other ∈ front, (droppedOf other).id ≠ (droppedOf pair).id) →
    ∀ other ∈ pairs, (droppedOf other).id ≠ (keptOf pair).id

/-! ### The loop -/

/-- The listed ids are those of the dropped rows, and reported is the first pair that drops a row. -/
structure Collected (pairs : List (MemoryItem × MemoryItem)) (acc : List ℕ × List ReportedPair) :
    Prop where
  ids : ∀ id, id ∈ acc.1 ↔ ∃ pair ∈ pairs, (droppedOf pair).id = id
  reports : ∀ report, report ∈ acc.2 ↔ ∃ front pair back, pairs = front ++ pair :: back ∧
    (∀ other ∈ front, (droppedOf other).id ≠ (droppedOf pair).id) ∧ report = reportOf pair
  listed : acc.2.map ReportedPair.deactivatedId = acc.1

lemma Collected.collectPair {pairs : List (MemoryItem × MemoryItem)}
    {acc : List ℕ × List ReportedPair} (h : Collected pairs acc) (pair : MemoryItem × MemoryItem) :
    Collected (pairs ++ [pair]) (collectPair acc pair) := by
  have hold : ∀ report, (∃ front first back, pairs = front ++ first :: back ∧
        (∀ other ∈ front, (droppedOf other).id ≠ (droppedOf first).id) ∧ report = reportOf first) →
      ∃ front first back, pairs ++ [pair] = front ++ first :: back ∧
        (∀ other ∈ front, (droppedOf other).id ≠ (droppedOf first).id) ∧ report = reportOf first := by
    rintro report ⟨front, first, back, rfl, hfirst, rfl⟩
    exact ⟨front, first, back ++ [pair], by simp, hfirst, rfl⟩
  have hnew : ∀ front first back, pairs ++ [pair] = front ++ first :: back →
      (∃ back', pairs = front ++ first :: back') ∨ (front = pairs ∧ first = pair) := by
    intro front first back hsplit
    rcases List.eq_nil_or_concat back with rfl | ⟨back', last, rfl⟩
    · obtain ⟨hfront, hfirst⟩ := List.append_inj' hsplit rfl
      exact .inr ⟨hfront.symm, (List.cons.inj hfirst).1.symm⟩
    · rw [List.concat_eq_append, ← List.cons_append, ← List.append_assoc] at hsplit
      exact .inl ⟨back', (List.append_inj' hsplit rfl).1⟩
  unfold Codemem.collectPair
  split_ifs with hmem
  · obtain ⟨earlier, hearlier, hid⟩ := (h.ids _).mp hmem
    refine ⟨fun id => ?_, fun report => ?_, h.listed⟩
    · rw [h.ids]
      constructor
      · exact fun ⟨other, hother, heq⟩ => ⟨other, List.mem_append_left _ hother, heq⟩
      · rintro ⟨other, hother, heq⟩
        rcases List.mem_append.mp hother with hother | hother
        · exact ⟨other, hother, heq⟩
        · obtain rfl := List.mem_singleton.mp hother
          exact ⟨earlier, hearlier, hid.trans heq⟩
    · rw [h.reports]
      refine ⟨hold report, ?_⟩
      rintro ⟨front, first, back, hsplit, hfirst, hreport⟩
      rcases hnew front first back hsplit with ⟨back', hpairs⟩ | ⟨rfl, rfl⟩
      · exact ⟨front, first, back', hpairs, hfirst, hreport⟩
      · exact absurd hid (hfirst earlier hearlier)
  · have hfresh : ∀ other ∈ pairs, (droppedOf other).id ≠ (droppedOf pair).id :=
      fun other hother heq => hmem ((h.ids _).mpr ⟨other, hother, heq⟩)
    refine ⟨fun id => ?_, fun report => ?_, ?_⟩
    · rw [List.mem_append, h.ids, List.mem_singleton]
      simp only [List.mem_append, List.mem_singleton, or_and_right, exists_or, exists_eq_left]
      rw [eq_comm (a := id)]
    · rw [List.mem_append, h.reports, List.mem_singleton]
      constructor
      · rintro (hreport | rfl)
        · exact hold report hreport
        · exact ⟨pairs, pair, [], rfl, hfresh, rfl⟩
      · rintro ⟨front, first, back, hsplit, hfirst, hreport⟩
        rcases hnew front first back hsplit with ⟨back', hpairs⟩ | ⟨rfl, rfl⟩
        · exact .inl ⟨front, first, back', hpairs, hfirst, hreport⟩
        · exact .inr hreport
    · rw [List.map_append, h.listed]
      rfl

lemma collected_collectPairs (pairs : List (MemoryItem × MemoryItem)) :
    Collected pairs (collectPairs pairs) := by
  induction pairs using List.reverseRecOn with
  | nil => exact ⟨by simp [collectPairs], by simp [collectPairs], rfl⟩
  | append_singleton pairs pair ih =>
    rw [collectPairs, List.foldl_append]
    exact ih.collectPair pair

lemma rows_foldl_deactivateIds (now : String) (chunks : List (List ℕ)) (table : MemoryTable) :
    (chunks.foldl (fun table chunk => deactivateIds now chunk table) table).rows =
      table.rows.map fun row => if row.id ∈ chunks.flatten then
        { row with active := some 0, updatedAt := now } else row := by
  induction chunks generalizing table with
  | nil => simp
  | cons chunk chunks ih =>
    rw [List.foldl_cons, ih, deactivateIds, List.map_map]
    refine List.map_congr_left fun row _ => ?_
    rw [Function.comp_apply, List.flatten_cons]
    by_cases hchunk : row.id ∈ chunk
    · by_cases hrest : row.id ∈ chunks.flatten
      · simp [hchunk, hrest]
      · simp [hchunk, hrest]
    · simp [hchunk]

lemma rows_dedup (now : String) (table : MemoryTable) :
    (dedupNearDuplicateMemories clock { opts with dryRun := false } now table).2.rows =
      table.rows.map fun row =>
        if row.id ∈ (collectPairs (nearDuplicatePairs clock opts table)).1 then
          { row with active := some 0, updatedAt := now } else row := by
  have hpairs : nearDuplicatePairs clock { opts with dryRun := false } table =
      nearDuplicatePairs clock opts table := rfl
  unfold dedupNearDuplicateMemories
  rw [hpairs]
  dsimp only
  split_ifs with hempty
  · have hnil : (collectPairs (nearDuplicatePairs clock opts table)).1 = [] := by
      simpa using hempty
    simp [hnil]
  · rw [rows_foldl_deactivateIds, slicesOf, flatten_slicesFrom (by decide) le_rfl]

lemma result_dedup (now : String) (table : MemoryTable) :
    (dedupNearDuplicateMemories clock opts now table).1 =
      ⟨(nearDuplicatePairs clock opts table).length,
        (collectPairs (nearDuplicatePairs clock opts table)).1.length,
        (collectPairs (nearDuplicatePairs clock opts table)).2⟩ := by
  unfold dedupNearDuplicateMemories
  dsimp only
  split_ifs
  · rfl
  · rfl

lemma table_dryRun (now : String) (table : MemoryTable) :
    (dedupNearDuplicateMemories clock { opts with dryRun := true } now table).2 = table := by
  unfold dedupNearDuplicateMemories
  dsimp only
  rw [if_pos (by simp)]

/-! ### The pairs -/

section Pairs

variable {clock opts} {table : MemoryTable} {pair : MemoryItem × MemoryItem} {row : MemoryItem}
  {now : String}

lemma joins_of_mem (h : pair ∈ nearDuplicatePairs clock opts table) :
    pair.1 ∈ table.rows ∧ pair.2 ∈ table.rows ∧ Joins clock opts pair.1 pair.2 := by
  have hjoined : pair ∈ (table.rows.product table.rows).filter fun pair =>
      decide (Joins clock opts pair.1 pair.2) := by
    refine (clock.scan_perm _).mem_iff.mp ((List.perm_insertionSort (fun pair pair' =>
      pair'.1.createdAt ≤ pair.1.createdAt) _).mem_iff.mp ?_)
    unfold nearDuplicatePairs at h
    dsimp only at h
    split at h
    · split_ifs at h
      · exact List.mem_of_mem_take h
      · exact h
    · exact h
  obtain ⟨hmem, hjoins⟩ := List.mem_filter.mp hjoined
  obtain ⟨hfirst, hsecond⟩ := List.mem_product.mp hmem
  exact ⟨hfirst, hsecond, by simpa using hjoins⟩

lemma CreatedWithinWindow.symm {a b : MemoryItem} (h : CreatedWithinWindow clock opts a b) :
    CreatedWithinWindow clock opts b a := by
  unfold CreatedWithinWindow at h ⊢
  rw [clock.elapsed_comm]
  exact h

lemma keepsDuplicate_of_mem (h : pair ∈ nearDuplicatePairs clock opts table) :
    KeepsDuplicate clock opts (keptOf pair) (droppedOf pair) ∧
      (keptOf pair ∈ table.rows ∧ (keptOf pair).active = some 1) ∧
      (droppedOf pair ∈ table.rows ∧ (droppedOf pair).active = some 1) := by
  obtain ⟨hfirst, hsecond, htitle, -, hsession, hactive, hactive', hnear⟩ := joins_of_mem h
  have hkeepFirst : AtLeastAsGood pair.1 pair.2 →
      KeepsDuplicate clock opts pair.1 pair.2 := fun hgood => ⟨hsession, htitle, hnear.symm, hgood⟩
  have hkeepSecond : AtLeastAsGood pair.2 pair.1 →
      KeepsDuplicate clock opts pair.2 pair.1 := fun hgood =>
    ⟨hsession.symm, htitle.symm, hnear, hgood⟩
  unfold keptOf droppedOf keepAndDrop
  split_ifs with hbetter hworse hnewer
  · exact ⟨hkeepFirst (.inl hbetter), ⟨hfirst, hactive⟩, hsecond, hactive'⟩
  · exact ⟨hkeepSecond (.inl hworse), ⟨hsecond, hactive'⟩, hfirst, hactive⟩
  · have hequal : confidenceOf pair.2 = confidenceOf pair.1 :=
      le_antisymm (not_lt.mp hworse) (not_lt.mp hbetter)
    exact ⟨hkeepFirst (.inr ⟨hequal, lt_asymm hnewer⟩), ⟨hfirst, hactive⟩, hsecond, hactive'⟩
  · have hequal : confidenceOf pair.1 = confidenceOf pair.2 :=
      le_antisymm (not_lt.mp hbetter) (not_lt.mp hworse)
    exact ⟨hkeepSecond (.inr ⟨hequal, hnewer⟩), ⟨hsecond, hactive'⟩, hfirst, hactive⟩

lemma MemoryTable.eq_of_id (table : MemoryTable) {row other : MemoryItem}
    (hrow : row ∈ table.rows) (hother : other ∈ table.rows) (hid : row.id = other.id) :
    row = other :=
  List.inj_on_of_nodup_map table.ids_nodup hrow hother hid

lemma deactivates_iff (hrow : row ∈ table.rows) :
    Deactivates (dedupNearDuplicateMemories clock { opts with dryRun := false } now table).2 row ↔
      row.active = some 1 ∧ row.id ∈ (collectPairs (nearDuplicatePairs clock opts table)).1 := by
  unfold Deactivates
  rw [rows_dedup]
  refine and_congr_right fun hactive => ?_
  constructor
  · intro hall
    by_contra hnot
    have hsame := hall row (List.mem_map.mpr ⟨row, hrow, if_neg hnot⟩) rfl
    rw [hactive] at hsame
    exact absurd hsame (by simp)
  · intro hmem row' hrow' hid
    obtain ⟨other, hother, rfl⟩ := List.mem_map.mp hrow'
    have heq : other = row := by
      refine table.eq_of_id hother hrow ?_
      split_ifs at hid
      · exact hid
      · exact hid
    rw [heq, if_pos hmem]

lemma isActiveIn_iff (hrow : row ∈ table.rows) (hactive : row.active = some 1) :
    IsActiveIn (dedupNearDuplicateMemories clock { opts with dryRun := false } now table).2 row.id ↔
      row.id ∉ (collectPairs (nearDuplicatePairs clock opts table)).1 := by
  unfold IsActiveIn
  rw [rows_dedup]
  constructor
  · rintro ⟨row', hrow', hid, hactive'⟩ hmem
    obtain ⟨other, hother, rfl⟩ := List.mem_map.mp hrow'
    have hother' : other.id = row.id := by
      split_ifs at hid
      · exact hid
      · exact hid
    rw [if_pos (hother' ▸ hmem)] at hactive'
    simp at hactive'
  · intro hnot
    exact ⟨row, List.mem_map.mpr ⟨row, hrow, if_neg hnot⟩, rfl, hactive⟩

end Pairs

/-! ### When a duplicate is kept -/

/-- The cleanup keeps duplicates exactly when the kept row of each reported pair is not dropped by
any pair. -/
theorem dedupNearDuplicateMemories_keeps_iff (now : String) (table : MemoryTable) :
    KeepsDuplicates clock opts now table ↔ KeepersStay (nearDuplicatePairs clock opts table) := by
  have hcollected := collected_collectPairs (nearDuplicatePairs clock opts table)
  constructor
  · intro h front pair back hsplit hfirst other hother heq
    have hmem : pair ∈ nearDuplicatePairs clock opts table := by
      rw [hsplit]
      exact List.mem_append_right _ List.mem_cons_self
    obtain ⟨-, ⟨hkept, hactive⟩, -⟩ := keepsDuplicate_of_mem hmem
    have hreport := (hcollected.reports (reportOf pair)).mpr ⟨front, pair, back, hsplit, hfirst, rfl⟩
    have hstays : IsActiveIn _ (keptOf pair).id := h.keptActive (reportOf pair) (by
      rw [result_dedup]
      exact hreport)
    exact (isActiveIn_iff hkept hactive).mp hstays ((hcollected.ids _).mpr ⟨other, hother, heq⟩)
  · intro h
    have hstays : ∀ front pair back, nearDuplicatePairs clock opts table = front ++ pair :: back →
        (∀ other ∈ front, (droppedOf other).id ≠ (droppedOf pair).id) →
        IsActiveIn (dedupNearDuplicateMemories clock { opts with dryRun := false } now table).2
          (keptOf pair).id := by
      intro front pair back hsplit hfirst
      have hmem : pair ∈ nearDuplicatePairs clock opts table := by
        rw [hsplit]
        exact List.mem_append_right _ List.mem_cons_self
      obtain ⟨-, ⟨hkept, hactive⟩, -⟩ := keepsDuplicate_of_mem hmem
      refine (isActiveIn_iff hkept hactive).mpr fun hlisted => ?_
      obtain ⟨other, hother, heq⟩ := (hcollected.ids _).mp hlisted
      exact h front pair back hsplit hfirst other hother heq
    refine ⟨fun row hrow hdeactivated => ?_, fun report hreport => ?_, ?_⟩
    · obtain ⟨hactive, hlisted⟩ := (deactivates_iff hrow).mp hdeactivated
      rw [← hcollected.listed] at hlisted
      obtain ⟨report, hreport, hid⟩ := List.mem_map.mp hlisted
      obtain ⟨front, pair, back, hsplit, hfirst, rfl⟩ := (hcollected.reports report).mp hreport
      have hmem : pair ∈ nearDuplicatePairs clock opts table := by
        rw [hsplit]
        exact List.mem_append_right _ List.mem_cons_self
      obtain ⟨hkeeps, ⟨hkept, -⟩, hdropped, -⟩ := keepsDuplicate_of_mem hmem
      obtain rfl := table.eq_of_id hdropped hrow hid
      exact ⟨keptOf pair, hkept, hstays front pair back hsplit hfirst, hkeeps⟩
    · rw [result_dedup] at hreport
      obtain ⟨front, pair, back, hsplit, hfirst, rfl⟩ := (hcollected.reports report).mp hreport
      exact hstays front pair back hsplit hfirst
    · have hresult := result_dedup clock { opts with dryRun := true } now table
      refine ⟨Prod.ext ?_ (table_dryRun clock opts now table), fun row hrow hactive => ?_⟩
      · rw [hresult, result_dedup]
        rfl
      · rw [deactivates_iff hrow, and_iff_right hactive, hresult]
        dsimp only
        rw [show nearDuplicatePairs clock { opts with dryRun := true } table =
          nearDuplicatePairs clock opts table from rfl, hcollected.listed]

def sampleMinute (createdAt : String) : ℚ :=
  if createdAt = "2026-01-01T00:40:00.000Z" then 40
  else if createdAt = "2026-01-01T01:20:00.000Z" then 80
  else 0

/-- A clock that knows the times of the sample. -/
def sampleDedupClock : DedupClock where
  elapsedSeconds x y := some (|sampleMinute x - sampleMinute y| * 60)
  elapsed_comm x y := by rw [abs_sub_comm]
  scan pairs := pairs
  scan_perm _ := List.Perm.refl _

/-- A memory of a session of its own. -/
def sampleDuplicate (id : ℕ) (confidence : ℚ) (createdAt : String) : MemoryItem :=
  { ownedItem none with
    id := id
    sessionId := id
    createdAt := createdAt
    content := { MemoryContent.empty with confidence := some confidence } }

/-- Three memories with one title, forty minutes apart and better and better. -/
def sampleDuplicates : MemoryTable where
  rows := [sampleDuplicate 1 (1 / 2) "2026-01-01T00:00:00.000Z",
    sampleDuplicate 2 (3 / 5) "2026-01-01T00:40:00.000Z",
    sampleDuplicate 3 (7 / 10) "2026-01-01T01:20:00.000Z"]
  ids_nodup := by decide

/-- The second memory is reported as kept for the first one, and is deactivated for the third. -/
theorem kept_duplicate_dropped :
    ¬KeepsDuplicates sampleDedupClock ⟨none, none, false⟩ "2026-01-02" sampleDuplicates := by
  intro h
  have hreported : (⟨2, 1, "title"⟩ : ReportedPair) ∈ (dedupNearDuplicateMemories sampleDedupClock
      ⟨none, none, false⟩ "2026-01-02" sampleDuplicates).1.pairs := by
    decide +kernel
  have hrow : sampleDuplicate 2 (3 / 5) "2026-01-01T00:40:00.000Z" ∈ sampleDuplicates.rows :=
    List.mem_cons_of_mem _ List.mem_cons_self
  refine (isActiveIn_iff hrow rfl).mp (h.keptActive ⟨2, 1, "title"⟩ hreported) ?_
  decide +kernel

end Codemem
