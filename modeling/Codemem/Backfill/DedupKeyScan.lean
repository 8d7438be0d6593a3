import Codemem.Backfill.DedupKeys

/-!
# What a scan of the dedup-key job finds

A row is fillable where its title yields a key and no other active memory of its session has it.  A
scan finds something to fill exactly when one of its rows is fillable, and what it plans can be
written: no planned key meets the unique index.
-/

namespace Codemem

variable {tools : DedupTools} {db : MaintainedStore} {limit : Option ℕ}

/-- The row can get a key on its own. -/
def MaintainedStore.Fillable (tools : DedupTools) (db : MaintainedStore) (row : MemoryItem) : Prop :=
  ∃ key, tools.buildMemoryDedupKey row.title = some key ∧
    ¬ (row.active = some 1 ∧ db.hasActiveConflict row key = true)

/-- The rows without a key. -/
def MaintainedStore.unkeyedRows (db : MaintainedStore) : List MemoryItem :=
  db.store.memoryItems.filter fun row => (db.dedupKey row.id).isNone

lemma scanDedupKeyRow_cases (tools : DedupTools) (db : MaintainedStore) (limit : Option ℕ)
    (scan : DedupKeyScan) (row : MemoryItem) :
    ((∀ key, tools.buildMemoryDedupKey row.title = some key → row.active = some 1 ∧
        (buildDedupActiveScopeKey row key ∈ scan.seenActiveScopes ∨
          db.hasActiveConflict row key = true)) ∧
      db.scanDedupKeyRow tools limit scan row =
        { scan with checked := scan.checked + 1, skipped := scan.skipped + 1 }) ∨
    ∃ key, tools.buildMemoryDedupKey row.title = some key ∧
      ¬ (row.active = some 1 ∧ (buildDedupActiveScopeKey row key ∈ scan.seenActiveScopes ∨
        db.hasActiveConflict row key = true)) ∧
      db.scanDedupKeyRow tools limit scan row =
        { checked := scan.checked + 1
          updated := scan.updated + 1
          skipped := scan.skipped
          backfillable := scan.backfillable + 1
          updates :=
            if limit.all fun limit => limit == 0 || decide (scan.updates.length < limit) then
              scan.updates ++ [(row.id, key)]
            else scan.updates
          seenActiveScopes :=
            if row.active = some 1 then
              scan.seenActiveScopes ++ [buildDedupActiveScopeKey row key]
            else scan.seenActiveScopes } := by
  unfold MaintainedStore.scanDedupKeyRow
  rcases tools.buildMemoryDedupKey row.title with _ | key
  · exact Or.inl ⟨fun key hkey => (by cases hkey), rfl⟩
  · dsimp only
    by_cases hskip : row.active = some 1 ∧ (buildDedupActiveScopeKey row key ∈
        scan.seenActiveScopes ∨ db.hasActiveConflict row key = true)
    · rw [if_pos hskip]
      refine Or.inl ⟨fun key' hkey' => ?_, rfl⟩
      cases hkey'
      exact hskip
    · rw [if_neg hskip]
      exact Or.inr ⟨key, rfl, hskip, rfl⟩

lemma checked_foldl_scan (rows : List MemoryItem) (scan : DedupKeyScan) :
    (rows.foldl (db.scanDedupKeyRow tools limit) scan).checked = scan.checked + rows.length := by
  induction rows generalizing scan with
  | nil => rfl
  | cons row rows ih =>
    have hone : (db.scanDedupKeyRow tools limit scan row).checked = scan.checked + 1 := by
      rcases scanDedupKeyRow_cases tools db limit scan row with ⟨-, heq⟩ | ⟨key, -, -, heq⟩
      · rw [heq]
      · rw [heq]
    rw [List.foldl_cons, ih, hone, List.length_cons]
    omega

/-- A scan has found something to fill. -/
def DedupKeyScan.Found (scan : DedupKeyScan) : Prop :=
  0 < scan.backfillable ∧ scan.updates ≠ []

lemma DedupKeyScan.Found.next {scan : DedupKeyScan} (h : scan.Found) (row : MemoryItem) :
    (db.scanDedupKeyRow tools limit scan row).Found := by
  rcases scanDedupKeyRow_cases tools db limit scan row with ⟨-, heq⟩ | ⟨key, -, -, heq⟩
  · rw [heq]
    exact h
  · rw [heq]
    refine ⟨Nat.succ_pos _, ?_⟩
    dsimp only
    split_ifs
    · simp
    · exact h.2

lemma DedupKeyScan.Found.foldl {scan : DedupKeyScan} (h : scan.Found) (rows : List MemoryItem) :
    (rows.foldl (db.scanDedupKeyRow tools limit) scan).Found := by
  induction rows generalizing scan with
  | nil => exact h
  | cons row rows ih =>
    rw [List.foldl_cons]
    exact ih (h.next row)

/-- Nothing has been found. -/
structure DedupKeyScan.Fresh (scan : DedupKeyScan) : Prop where
  backfillable : scan.backfillable = 0
  updates : scan.updates = []
  seen : scan.seenActiveScopes = []

lemma DedupKeyScan.Fresh.found {scan : DedupKeyScan} (h : scan.Fresh) {row : MemoryItem}
    (hfillable : db.Fillable tools row) : (db.scanDedupKeyRow tools limit scan row).Found := by
  obtain ⟨key, hkey, hnot⟩ := hfillable
  rcases scanDedupKeyRow_cases tools db limit scan row with ⟨hskip, -⟩ | ⟨key', -, -, heq⟩
  · obtain ⟨hactive, hseen | hconflict⟩ := hskip key hkey
    · rw [h.seen] at hseen
      cases hseen
    · exact absurd ⟨hactive, hconflict⟩ hnot
  · rw [heq]
    refine ⟨Nat.succ_pos _, ?_⟩
    have hroom : (limit.all fun limit => limit == 0 ||
        decide (scan.updates.length < limit)) = true := by
      rw [Option.all_eq_true]
      intro n _
      rw [h.updates, Bool.or_eq_true, beq_iff_eq, decide_eq_true_eq]
      exact (Nat.eq_zero_or_pos n)
    dsimp only
    rw [if_pos hroom]
    simp

lemma DedupKeyScan.Fresh.next {scan : DedupKeyScan} (h : scan.Fresh) {row : MemoryItem}
    (hnot : ¬ db.Fillable tools row) : (db.scanDedupKeyRow tools limit scan row).Fresh := by
  rcases scanDedupKeyRow_cases tools db limit scan row with ⟨-, heq⟩ | ⟨key, hkey, htake, -⟩
  · rw [heq]
    exact ⟨h.backfillable, h.updates, h.seen⟩
  · exact absurd ⟨key, hkey, fun hconflict => htake ⟨hconflict.1, Or.inr hconflict.2⟩⟩ hnot

lemma DedupKeyScan.Fresh.found_foldl {scan : DedupKeyScan} (h : scan.Fresh)
    {rows : List MemoryItem} (hrows : ∃ row ∈ rows, db.Fillable tools row) :
    (rows.foldl (db.scanDedupKeyRow tools limit) scan).Found := by
  induction rows generalizing scan with
  | nil => simp at hrows
  | cons row rows ih =>
    rw [List.foldl_cons]
    by_cases hrow : db.Fillable tools row
    · exact (h.found hrow).foldl rows
    · refine ih (h.next hrow) ?_
      obtain ⟨other, hother, hfillable⟩ := hrows
      rcases List.mem_cons.mp hother with rfl | hother
      · exact absurd hfillable hrow
      · exact ⟨other, hother, hfillable⟩

lemma DedupKeyScan.Fresh.foldl {scan : DedupKeyScan} (h : scan.Fresh) {rows : List MemoryItem}
    (hrows : ∀ row ∈ rows, ¬ db.Fillable tools row) :
    (rows.foldl (db.scanDedupKeyRow tools limit) scan).Fresh := by
  induction rows generalizing scan with
  | nil => exact h
  | cons row rows ih =>
    rw [List.foldl_cons]
    exact ih (h.next (hrows row List.mem_cons_self))
      fun other hother => hrows other (List.mem_cons_of_mem _ hother)

lemma DedupKeyScan.fresh_empty : DedupKeyScan.empty.Fresh := ⟨rfl, rfl, rfl⟩

lemma mem_entriesAbove_zero (h : db.WellFormed) {row : MemoryItem} :
    row ∈ entriesAbove scanPosition (some (scanCursorPosition 0 none)) db.unkeyedRows ↔
      row ∈ db.unkeyedRows := by
  rw [mem_entriesAbove]
  refine and_iff_left_of_imp fun hrow c hc => ?_
  cases hc
  have hpositive := (h.positive row (List.mem_filter.mp hrow).1).1
  unfold scanCursorPosition scanPosition
  rw [if_neg (lt_irrefl 0), Prod.Lex.toLex_lt_toLex]
  rcases eq_or_ne row.createdAt "" with hempty | hne
  · exact Or.inr ⟨hempty.symm, hpositive⟩
  · refine Or.inl (String.lt_iff_toList_lt.mpr ?_)
    rcases hchars : row.createdAt.toList with _ | ⟨c, cs⟩
    · exact absurd (String.toList_eq_nil_iff.mp hchars) hne
    · exact List.nil_lt_cons c cs

lemma mem_selectDedupKeyCandidateRows_zero (h : db.WellFormed) {row : MemoryItem} :
    row ∈ db.selectDedupKeyCandidateRows none 0 none ↔ row ∈ db.unkeyedRows := by
  unfold MaintainedStore.selectDedupKeyCandidateRows takeLimit
  dsimp only
  rw [mem_sortByPos]
  exact mem_entriesAbove_zero h

lemma backfillableDedupKeys_pos_iff (h : db.WellFormed) :
    0 < db.backfillableDedupKeys tools ↔ ∃ row ∈ db.unkeyedRows, db.Fillable tools row := by
  unfold MaintainedStore.backfillableDedupKeys
  constructor
  · intro hpos
    by_contra hnone
    have hfresh : ((db.selectDedupKeyCandidateRows none 0 none).foldl
        (db.scanDedupKeyRow tools (some 1)) .empty).Fresh :=
      DedupKeyScan.fresh_empty.foldl fun row hrow hfillable =>
        hnone ⟨row, (mem_selectDedupKeyCandidateRows_zero h).mp hrow, hfillable⟩
    rw [hfresh.backfillable] at hpos
    exact absurd hpos (lt_irrefl 0)
  · rintro ⟨row, hrow, hfillable⟩
    exact (DedupKeyScan.fresh_empty.found_foldl
      ⟨row, (mem_selectDedupKeyCandidateRows_zero h).mpr hrow, hfillable⟩).1

/-! ### Writing a plan -/

/-- A write of nothing but `updated_at`. -/
def Touches (write : MemoryItem → MemoryItem) : Prop :=
  ∀ row, ∃ updatedAt, write row = { row with updatedAt := updatedAt }

/-- The keys a scan has planned so far can be written, and a key that is new belongs to a scope the
scan has seen. -/
structure DedupKeyScan.Writable (now : String) (s : BackfillStore) (scan : DedupKeyScan)
    (s' : BackfillStore) : Prop where
  written : s.applyMemoryDedupKeyUpdates now scan.updates = .ok s'
  touched : ∃ write, Touches write ∧
    s'.memories.store.memoryItems = s.memories.store.memoryItems.map write
  jobs : s'.dedupKeyJob = s.dedupKeyJob
  seen : ∀ row ∈ s.memories.store.memoryItems, ∀ key, s'.memories.dedupKey row.id = some key →
    s.memories.dedupKey row.id = some key ∨
      (row.active = some 1 → buildDedupActiveScopeKey row key ∈ scan.seenActiveScopes)
  kept : ∀ id, (s.memories.dedupKey id).isSome = true → (s'.memories.dedupKey id).isSome = true
  keyed : ∀ update ∈ scan.updates, (s'.memories.dedupKey update.1).isSome = true
  unkeyed : ∀ update ∈ scan.updates, ∃ row ∈ s.memories.unkeyedRows, row.id = update.1

section Writable

variable {now : String} {s s' : BackfillStore} {scan : DedupKeyScan} {row : MemoryItem}

/-- A row whose key is planned can be written. -/
lemma DedupKeyScan.Writable.setDedupKey (h : scan.Writable now s s')
    (hrow : row ∈ s.memories.store.memoryItems) {key : String}
    (htake : ¬ (row.active = some 1 ∧ (buildDedupActiveScopeKey row key ∈ scan.seenActiveScopes ∨
      s.memories.hasActiveConflict row key = true))) :
    ∃ s'', s'.setDedupKey now (row.id, key) = .ok s'' ∧
      s''.memories = s'.memories.setDedupKey now (row.id, key) ∧
      s''.dedupKeyJob = s'.dedupKeyJob := by
  obtain ⟨write, hwrite, hitems⟩ := h.touched
  obtain ⟨updatedAt, hwritten⟩ := hwrite row
  have hmem : write row ∈ s'.memories.store.memoryItems := by
    rw [hitems]
    exact List.mem_map_of_mem hrow
  have hlookup : s'.memories.store.memoryById row.id = some (write row) := by
    have hid : (write row).id = row.id := by rw [hwritten]
    rw [← hid]
    exact Store.UniqueIds.memoryById_of_mem s'.wellFormed.unique hmem
  have hallowed : s'.memories.violatesDedupIndex (write row) key = false := by
    rw [← Bool.not_eq_true]
    intro hviolates
    unfold MaintainedStore.violatesDedupIndex at hviolates
    simp only [Bool.and_eq_true, beq_iff_eq] at hviolates
    obtain ⟨⟨⟨hactive, -⟩, -⟩, hconflict⟩ := hviolates
    rw [hwritten] at hactive hconflict
    refine htake ⟨hactive, ?_⟩
    unfold MaintainedStore.hasActiveConflict at hconflict ⊢
    rw [hitems, List.any_map, List.any_eq_true] at hconflict
    obtain ⟨other, hother, hcolumns⟩ := hconflict
    obtain ⟨otherTime, hotherWritten⟩ := hwrite other
    rw [Function.comp_apply, hotherWritten] at hcolumns
    simp only [Bool.and_eq_true, bne_iff_ne, beq_iff_eq] at hcolumns
    obtain ⟨⟨⟨⟨⟨⟨hne, hotherActive⟩, hsession⟩, hkind⟩, hvisibility⟩, hworkspace⟩, hkey⟩ := hcolumns
    rcases h.seen other hother key hkey with hbefore | hseen
    · refine Or.inr (List.any_eq_true.mpr ⟨other, hother, ?_⟩)
      simp only [Bool.and_eq_true, bne_iff_ne, beq_iff_eq]
      exact ⟨⟨⟨⟨⟨⟨hne, hotherActive⟩, hsession⟩, hkind⟩, hvisibility⟩, hworkspace⟩, hbefore⟩
    · refine Or.inl ?_
      have hscope : buildDedupActiveScopeKey row key = buildDedupActiveScopeKey other key := by
        unfold buildDedupActiveScopeKey
        rw [hsession, hkind, hvisibility, hworkspace]
      rw [hscope]
      exact hseen hotherActive
  unfold BackfillStore.setDedupKey
  rw [hlookup]
  dsimp only
  rw [hallowed, if_neg Bool.false_ne_true]
  exact ⟨_, rfl, rfl, rfl⟩

/-- A scan that can be written can be written after another row. -/
lemma DedupKeyScan.Writable.next (h : scan.Writable now s s')
    (hunkeyed : row ∈ s.memories.unkeyedRows) :
    ∃ s'', (s.memories.scanDedupKeyRow tools limit scan row).Writable now s s'' := by
  have hrow : row ∈ s.memories.store.memoryItems := (List.mem_filter.mp hunkeyed).1
  rcases scanDedupKeyRow_cases tools s.memories limit scan row with ⟨-, heq⟩ | ⟨key, -, htake, heq⟩
  · rw [heq]
    exact ⟨s', h.written, h.touched, h.jobs, h.seen, h.kept, h.keyed, h.unkeyed⟩
  · rw [heq]
    have hgrow : ∀ scope ∈ scan.seenActiveScopes, scope ∈ (if row.active = some 1 then
        scan.seenActiveScopes ++ [buildDedupActiveScopeKey row key]
        else scan.seenActiveScopes) := by
      intro scope hscope
      split_ifs
      · exact List.mem_append_left _ hscope
      · exact hscope
    by_cases hroom : (limit.all fun limit => limit == 0 ||
        decide (scan.updates.length < limit)) = true
    · rw [if_pos hroom]
      obtain ⟨s'', hset, hmemories, hjob⟩ := h.setDedupKey hrow htake
      obtain ⟨write, hwrite, hitems⟩ := h.touched
      have hkeys : ∀ id, s''.memories.dedupKey id =
          if id = row.id then some key else s'.memories.dedupKey id := by
        intro id
        rw [hmemories]
        rfl
      refine ⟨s'', ?_, ⟨fun other => if (write other).id == row.id then
        { write other with updatedAt := now } else write other, fun other => ?_, ?_⟩,
        hjob.trans h.jobs, fun other hother key' hkey' => ?_, fun id hid => ?_, fun update hupdate => ?_,
        fun update hupdate => ?_⟩
      · have hwritten := h.written
        unfold BackfillStore.applyMemoryDedupKeyUpdates at hwritten ⊢
        rw [List.foldlM_append, hwritten]
        change List.foldlM (BackfillStore.setDedupKey now) s' [(row.id, key)] = .ok s''
        rw [List.foldlM_cons, hset]
        rfl
      · obtain ⟨updatedAt, hwritten⟩ := hwrite other
        dsimp only
        split_ifs
        · exact ⟨now, by rw [hwritten]⟩
        · exact ⟨updatedAt, hwritten⟩
      · rw [hmemories]
        unfold MaintainedStore.setDedupKey Store.updateMemories
        dsimp only
        rw [hitems, List.map_map]
        rfl
      · rw [hkeys] at hkey'
        by_cases hsame : other.id = row.id
        · rw [if_pos hsame] at hkey'
          cases hkey'
          refine Or.inr fun hactive => ?_
          have hother' : other = row := s.wellFormed.unique.eq_of_id hother hrow hsame
          subst hother'
          rw [if_pos hactive]
          exact List.mem_append_right _ List.mem_cons_self
        · rw [if_neg hsame] at hkey'
          exact (h.seen other hother key' hkey').imp_right fun hseen hactive =>
            hgrow _ (hseen hactive)
      · rw [hkeys]
        split_ifs
        · rfl
        · exact h.kept id hid
      · rw [hkeys]
        split_ifs with hsame
        · rfl
        · rcases List.mem_append.mp hupdate with hupdate | hupdate
          · exact h.keyed update hupdate
          · rw [List.mem_singleton.mp hupdate] at hsame
            exact absurd rfl hsame
      · rcases List.mem_append.mp hupdate with hupdate | hupdate
        · exact h.unkeyed update hupdate
        · rw [List.mem_singleton.mp hupdate]
          exact ⟨row, hunkeyed, rfl⟩
    · rw [if_neg hroom]
      exact ⟨s', h.written, h.touched, h.jobs, fun other hother key' hkey' =>
        (h.seen other hother key' hkey').imp_right fun hseen hactive => hgrow _ (hseen hactive),
        h.kept, h.keyed, h.unkeyed⟩

lemma exists_writable (tools : DedupTools) (limit : Option ℕ) (now : String) (s : BackfillStore)
    {rows : List MemoryItem} (hrows : rows ⊆ s.memories.unkeyedRows) :
    ∃ s', (rows.foldl (s.memories.scanDedupKeyRow tools limit) .empty).Writable now s s' := by
  have hempty : DedupKeyScan.empty.Writable now s s :=
    ⟨rfl, ⟨id, fun row => ⟨row.updatedAt, rfl⟩, by rw [List.map_id]⟩, rfl,
      fun _ _ _ h => Or.inl h, fun _ h => h, by simp [DedupKeyScan.empty],
      by simp [DedupKeyScan.empty]⟩
  have hall : ∀ (rows : List MemoryItem) (scan : DedupKeyScan) (s' : BackfillStore),
      rows ⊆ s.memories.unkeyedRows → scan.Writable now s s' →
      ∃ s'', (rows.foldl (s.memories.scanDedupKeyRow tools limit) scan).Writable now s s'' := by
    intro rows
    induction rows with
    | nil => exact fun scan s' _ h => ⟨s', h⟩
    | cons row rows ih =>
      intro scan s' hsub h
      obtain ⟨s'', hnext⟩ : ∃ s'', (s.memories.scanDedupKeyRow tools limit scan row).Writable
          now s s'' := h.next (hsub List.mem_cons_self)
      rw [List.foldl_cons]
      exact ih _ s'' (fun other hother => hsub (List.mem_cons_of_mem _ hother)) hnext
  exact hall rows .empty s hrows hempty

lemma DedupKeyScan.Writable.length_unkeyedRows_lt (h : scan.Writable now s s')
    (hupdates : scan.updates ≠ []) :
    s'.memories.unkeyedRows.length < s.memories.unkeyedRows.length := by
  obtain ⟨write, hwrite, hitems⟩ := h.touched
  have hid : ∀ row, (write row).id = row.id := by
    intro row
    obtain ⟨updatedAt, hwritten⟩ := hwrite row
    rw [hwritten]
  have hlength : s'.memories.unkeyedRows.length = (s.memories.unkeyedRows.filter fun row =>
      (s'.memories.dedupKey row.id).isNone).length := by
    unfold MaintainedStore.unkeyedRows
    rw [hitems, List.filter_map, List.length_map, List.filter_filter]
    congr 1
    refine List.filter_congr fun row _ => ?_
    rw [Function.comp_apply, hid]
    rcases hkey : s.memories.dedupKey row.id with _ | key
    · simp
    · have hkept := h.kept row.id (by rw [hkey]; rfl)
      rcases hkey' : s'.memories.dedupKey row.id with _ | key'
      · rw [hkey'] at hkept
        cases hkept
      · rfl
  rw [hlength]
  obtain ⟨update, hupdate⟩ := List.exists_mem_of_ne_nil _ hupdates
  obtain ⟨row, hrow, hrowId⟩ := h.unkeyed update hupdate
  refine List.length_filter_lt_length_iff_exists.mpr ⟨row, hrow, ?_⟩
  have hkeyed := h.keyed update hupdate
  rw [hrowId, Option.isNone_iff_eq_none]
  intro hnone
  rw [hnone] at hkeyed
  cases hkeyed

end Writable

end Codemem
