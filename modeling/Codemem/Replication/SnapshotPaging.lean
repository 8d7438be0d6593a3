import Codemem.Replication.SnapshotPage
import Codemem.Store.Identity

/-!
# Following the pages of a snapshot

A peer follows `nextPageToken` from the first page until a page has none.  The scan of a page sorts
rows by their stored import key, but it resumes from the trimmed key of the last row it scanned,
and it does not move over rows with a blank key at all.  Where trimmed keys stand at the same place
among the rows as the stored ones, the pages are exact as long as no full batch of the scan
consists of rows with blank keys; such a batch is read again and again.
-/

namespace Codemem

/-! ### Rows and positions -/

def snapshotRows (st : Store) (scopeId : String) : List SnapshotScanRow :=
  sortByPos snapshotPos (snapshotCandidates st scopeId none)

def isBlankKey (row : SnapshotScanRow) : Bool := (trim (row.1.importKey.getD "")).toList.isEmpty

def resumePos (row : SnapshotScanRow) : Lex (String × ℕ) :=
  toLex (trim (row.1.importKey.getD ""), row.1.id)

/-- Resuming after a row with a key, the scan goes on with the rows behind it. -/
def ResumesInPlace (rows : List SnapshotScanRow) : Prop :=
  ∀ row ∈ rows, isBlankKey row = false → ∀ other ∈ rows,
    (resumePos row < snapshotPos other ↔ snapshotPos row < snapshotPos other)

/-- Somewhere a number of rows in succession have blank keys. -/
def HasBlankBatch (batchSize : ℕ) (rows : List SnapshotScanRow) : Prop :=
  ∃ before batch after, rows = before ++ batch ++ after ∧ batch.length = batchSize ∧
    ∀ row ∈ batch, isBlankKey row = true

lemma resumesInPlace_of_trimmed {rows : List SnapshotScanRow}
    (h : ∀ row ∈ rows, isBlankKey row = false →
      trim (row.1.importKey.getD "") = row.1.importKey.getD "") : ResumesInPlace rows := by
  intro row hrow hkey other hother
  rw [resumePos, h row hrow hkey]
  rfl

section Candidates

variable {st : Store} {scopeId : String}

lemma aboveToken_iff (key : String) (id : ℕ) {row : MemoryItem} (project : Option String)
    (hkey : row.importKey.isSome = true) :
    (decide (key < row.importKey.getD "") ||
        (row.importKey == some key && decide ((id : ℚ) < row.id))) =
      decide (toLex (key, id) < snapshotPos (row, project)) := by
  obtain ⟨stored, hstored⟩ := Option.isSome_iff_exists.mp hkey
  rw [Bool.eq_iff_iff, Bool.or_eq_true, Bool.and_eq_true, decide_eq_true_eq, decide_eq_true_eq,
    decide_eq_true_eq, beq_iff_eq, snapshotPos, Prod.Lex.toLex_lt_toLex, hstored, Option.getD_some,
    Option.some.injEq, Nat.cast_lt]
  exact or_congr_right (and_congr_left fun _ => eq_comm)

lemma snapshotCandidates_token (key : String) (id : ℕ) :
    snapshotCandidates st scopeId (some (key, (id : ℚ))) =
      (snapshotCandidates st scopeId none).filter fun row =>
        toLex (key, id) < snapshotPos row := by
  unfold snapshotCandidates
  rw [List.filter_filterMap]
  refine List.filterMap_congr fun row _ => ?_
  rw [Option.all_some, Option.all_none, Bool.and_true]
  by_cases hscope : (row.importKey.isSome && scopeId != defaultSyncScopeId &&
      row.scopeId == some scopeId) = true
  · have hkey : row.importKey.isSome = true := by
      simp only [Bool.and_eq_true] at hscope
      exact hscope.1.1
    rw [hscope, Bool.true_and, if_pos rfl]
    rcases hsession : st.sessions.find? fun s => s.id == row.sessionId with _ | session
    · rw [hsession, Option.map_none, ite_self]
      rfl
    · rw [hsession, Option.map_some]
      dsimp only
      rw [aboveToken_iff key id session.project hkey]
      rfl
  · rw [Bool.eq_false_of_not_eq_true hscope, Bool.false_and]
    rfl

lemma snapshotCandidates_ids (token : Option (String × ℚ)) :
    ((snapshotCandidates st scopeId token).map fun row => row.1.id).Sublist
      (st.memoryItems.map MemoryItem.id) := by
  unfold snapshotCandidates
  induction st.memoryItems with
  | nil => exact List.Sublist.refl _
  | cons row rows ih =>
    rw [List.filterMap_cons]
    split
    · exact ih.cons _
    · rename_i scanned hscanned
      split_ifs at hscanned
      obtain ⟨session, -, rfl⟩ := Option.map_eq_some_iff.mp hscanned
      exact ih.cons_cons _

lemma nodup_snapshotPos (hids : st.UniqueIds) (token : Option (String × ℚ)) :
    ((snapshotCandidates st scopeId token).map snapshotPos).Nodup := by
  have hnodup : ((snapshotCandidates st scopeId token).map fun row => row.1.id).Nodup :=
    (snapshotCandidates_ids token).nodup hids
  have hid : (snapshotCandidates st scopeId token).map (fun row => row.1.id) =
      ((snapshotCandidates st scopeId token).map snapshotPos).map fun pos => (ofLex pos).2 := by
    rw [List.map_map]
    rfl
  rw [hid] at hnodup
  exact hnodup.of_map

end Candidates

/-! ### What is left to scan -/

section Scan

variable (ctx : SnapshotPageContext) (st : Store) (options : SnapshotPageOptions)
  (scopeId : String)

/-- Behind the token the scan reads these rows. -/
def ReadsFrom (token : Option (String × ℚ)) (rows : List SnapshotScanRow) : Prop :=
  ∀ batchLimit, rowsAfterToken st scopeId token batchLimit = rows.take batchLimit

/-- What a scanned row is sent as: rows with a blank key are passed over. -/
def servedItem (row : SnapshotScanRow) : Option SnapshotItem :=
  if isBlankKey row then none else snapshotItemForPeer ctx st options row

/-- The rows that are left were reached by scanning a row with a key within the next `n` rows. -/
def PassedKey (n : ℕ) (rows rest : List SnapshotScanRow) : Prop :=
  ∃ passed row, rows = passed ++ row :: rest ∧ isBlankKey row = false ∧ passed.length < n

/-- The accumulators fit the rows that are left: these are the last rows of the scope, the scan
reads them next, and with what is collected they make up `total`. -/
structure ScanAt (total : List SnapshotItem) (scan : SnapshotScan) (rest : List SnapshotScanRow) :
    Prop where
  suffix : rest <:+ snapshotRows st scopeId
  readsFrom : ReadsFrom st scopeId scan.nextScanToken rest
  total_eq : scan.items ++ rest.filterMap (servedItem ctx st options) = total
  token : scan.lastScannedToken.isSome = true →
    parseSnapshotPageToken ctx.runtime scan.lastScannedToken = scan.nextScanToken

variable {ctx st options scopeId}

lemma readsFrom_none : ReadsFrom st scopeId none (snapshotRows st scopeId) := fun _ => rfl

lemma readsFrom_of_split (hids : st.UniqueIds)
    (hresumes : ResumesInPlace (snapshotRows st scopeId)) {before rest : List SnapshotScanRow}
    {row : SnapshotScanRow} (hrows : snapshotRows st scopeId = before ++ row :: rest)
    (hkey : isBlankKey row = false) :
    ReadsFrom st scopeId (some (trim (row.1.importKey.getD ""), (row.1.id : ℚ))) rest := by
  intro batchLimit
  have hmem : row ∈ snapshotRows st scopeId := by
    rw [hrows]
    simp
  have hnodup : ((snapshotCandidates st scopeId none).map snapshotPos).Nodup :=
    nodup_snapshotPos hids none
  have hstrict := pairwise_lt_sortByPos hnodup
  have hrest : sortByPos snapshotPos (snapshotCandidates st scopeId
      (some (trim (row.1.importKey.getD ""), (row.1.id : ℚ)))) = rest := by
    rw [snapshotCandidates_token, ← filter_sortByPos]
    change (snapshotRows st scopeId).filter (fun other => resumePos row < snapshotPos other) = rest
    have hcongr : (snapshotRows st scopeId).filter
        (fun other => resumePos row < snapshotPos other) =
          (snapshotRows st scopeId).filter fun other => snapshotPos row < snapshotPos other :=
      List.filter_congr fun other hother => by
        rw [decide_eq_decide]
        exact hresumes row hmem hkey other hother
    change (snapshotRows st scopeId).Pairwise _ at hstrict
    rw [hcongr]
    rw [hrows] at hstrict ⊢
    exact filter_above_of_split hstrict
  rw [rowsAfterToken, page, hrest]

lemma filterMap_servedItem_of_blank {rows : List SnapshotScanRow}
    (h : ∀ row ∈ rows, isBlankKey row = true) : rows.filterMap (servedItem ctx st options) = [] := by
  rw [List.filterMap_eq_nil_iff]
  intro row hrow
  rw [servedItem, if_pos (h row hrow)]

lemma trim_eq_self_of_ends {first last : Char} {middle : List Char}
    (hfirst : isTrimSpace first = false) (hlast : isTrimSpace last = false) :
    trimChars (first :: middle ++ [last]) = first :: middle ++ [last] := by
  unfold trimChars
  rw [List.cons_append, List.dropWhile_cons_of_neg (by simp [hfirst]), ← List.cons_append,
    List.reverse_append, List.reverse_singleton, List.singleton_append,
    List.dropWhile_cons_of_neg (by simp [hlast])]
  simp

lemma exists_cons_of_trim {text : String} (h : (trim text).toList.isEmpty = false) :
    ∃ first rest, (trim text).toList = first :: rest ∧ isTrimSpace first = false := by
  rcases htext : (trim text).toList with _ | ⟨first, rest⟩
  · simp [htext] at h
  · refine ⟨first, rest, rfl, ?_⟩
    have htrim : trimChars (first :: rest) = first :: rest := by
      have hself := congrArg String.toList (trim_trim text)
      rw [trim, String.toList_ofList, htext] at hself
      exact hself
    by_contra hspace
    have hlength := congrArg List.length htrim
    rw [trimChars, List.dropWhile_cons_of_pos (by simpa using hspace), List.length_reverse] at hlength
    have h1 := ((rest.dropWhile isTrimSpace).reverse.dropWhile_suffix isTrimSpace).length_le
    have h2 := (rest.dropWhile_suffix isTrimSpace).length_le
    rw [List.length_reverse] at h1
    rw [List.length_cons] at hlength
    omega

/-- The token made from a row with a key is read back. -/
lemma parseSnapshotPageToken_make {rt : Runtime} {key : String} {id : ℕ}
    (hnumber : ∀ id : ℕ, rt.numberOf (toString id) = some (id : ℚ))
    (hkey : (trim key).toList.isEmpty = false) :
    parseSnapshotPageToken rt (some (makeSnapshotPageToken (trim key) id)) =
      some (trim key, (id : ℚ)) := by
  obtain ⟨first, rest, hchars, hfirst⟩ := exists_cons_of_trim hkey
  have hdigits : (toString id).toList = Nat.toDigits 10 id := by
    rw [Nat.toString_eq_ofList_toDigits, String.toList_ofList]
  have hdigit : ∀ c ∈ (toString id).toList, c.isDigit = true := by
    intro c hc
    rw [hdigits] at hc
    exact Nat.isDigit_of_mem_toDigits (by decide) (by decide) hc
  have hbar : ∀ c ∈ (toString id).toList.reverse, (c != '|') = true := by
    intro c hc
    refine bne_iff_ne.mpr fun hbar => ?_
    have := hdigit c (List.mem_reverse.mp hc)
    rw [hbar] at this
    exact absurd this (by decide)
  have htext : (makeSnapshotPageToken (trim key) id).toList =
      (trim key).toList ++ '|' :: (toString id).toList := by
    simp [makeSnapshotPageToken]
  -- the token has no white space at its ends, since its last character is a digit
  obtain ⟨init, last, hlast⟩ : ∃ init last, (toString id).toList = init ++ [last] := by
    rcases List.eq_nil_or_concat (toString id).toList with hnil | ⟨init, last, h⟩
    · exact absurd (hdigits.symm.trans hnil) Nat.toDigits_ne_nil
    · exact ⟨init, last, by simpa using h⟩
  have hlastDigit : last.isDigit = true := hdigit last (by rw [hlast]; exact List.mem_append_right _ (List.mem_singleton_self _))
  have hlastSpace : isTrimSpace last = false := by
    rw [Char.isDigit, Bool.and_eq_true, decide_eq_true_eq, decide_eq_true_eq] at hlastDigit
    have hlow : 48 ≤ last.toNat := hlastDigit.1
    have hhigh : last.toNat ≤ 57 := hlastDigit.2
    simp only [isTrimSpace, Bool.or_eq_false_iff, Bool.and_eq_false_iff, decide_eq_false_iff_not,
      beq_eq_false_iff_ne]
    omega
  have htrim : trim (makeSnapshotPageToken (trim key) id) = makeSnapshotPageToken (trim key) id := by
    have hself : (makeSnapshotPageToken (trim key) id).toList =
        first :: (rest ++ '|' :: init) ++ [last] := by
      rw [htext, hchars, hlast]
      simp
    rw [trim, hself, trim_eq_self_of_ends hfirst hlastSpace, ← hself, String.ofList_toList]
  have hclean : normalizeCursor (some (makeSnapshotPageToken (trim key) id)) =
      some (makeSnapshotPageToken (trim key) id) := by
    unfold normalizeCursor cleanText
    dsimp only
    rw [htrim, htext, hchars]
    rfl
  have hid : ((makeSnapshotPageToken (trim key) id).toList.reverse.takeWhile (· != '|')).reverse =
      (toString id).toList := by
    rw [htext, List.reverse_append, List.reverse_cons, List.append_assoc,
      List.takeWhile_append_of_pos hbar]
    simp
  have hlength : (makeSnapshotPageToken (trim key) id).toList.length - (toString id).toList.length
      - 1 = (trim key).toList.length := by
    rw [htext, List.length_append, List.length_cons]
    omega
  unfold parseSnapshotPageToken
  rw [hclean]
  dsimp only
  rw [hid, hlength, htext, List.take_left, String.ofList_toList, String.ofList_toList, hnumber,
    if_neg, Option.map_some]
  rw [List.length_append, List.length_cons, hkey]
  simp
  omega

/-! ### One batch -/

/-- How a batch ends: the page is full, or all its rows are scanned and only rows with blank keys
are left of them. -/
inductive BatchEnd (limit batchSize : ℕ) (scan out : SnapshotScan)
    (rows tail rest : List SnapshotScanRow) : Prop where
  | full (hitems : limit ≤ out.items.length) (hmore : out.hasMore = !rest.isEmpty)
      (htoken : out.lastScannedToken.isSome = true) (hpassed : PassedKey batchSize rows rest)
  | scanned (hitems : out.items.length < limit) (hmore : out.hasMore = scan.hasMore)
      (hpassed : (∀ row ∈ rows.take batchSize, isBlankKey row = true) ∧ rest = rows ∨
        PassedKey batchSize rows rest)
      (hrest : ∃ blanks, rest = blanks ++ tail ∧ ∀ row ∈ blanks, isBlankKey row = true)

lemma PassedKey.self {n : ℕ} {row : SnapshotScanRow} {blanks rows : List SnapshotScanRow}
    (hkey : isBlankKey row = false) : PassedKey (blanks.length + 1 + n) (blanks ++ row :: rows) rows :=
  ⟨blanks, row, rfl, hkey, by omega⟩

lemma PassedKey.behind {n : ℕ} {row : SnapshotScanRow} {blanks rows rest : List SnapshotScanRow}
    (h : PassedKey n rows rest) :
    PassedKey (blanks.length + 1 + n) (blanks ++ row :: rows) rest := by
  obtain ⟨passed, last, rfl, hlast, hlength⟩ := h
  refine ⟨blanks ++ row :: passed, last, by simp, hlast, ?_⟩
  rw [List.length_append, List.length_cons]
  omega

lemma BatchEnd.behind {limit n : ℕ} {scan scan' out : SnapshotScan} {row : SnapshotScanRow}
    {blanks rows tail rest : List SnapshotScanRow} (h : BatchEnd limit n scan' out rows tail rest)
    (hmore : scan'.hasMore = scan.hasMore) (hkey : isBlankKey row = false) :
    BatchEnd limit (blanks.length + 1 + n) scan out (blanks ++ row :: rows) tail rest := by
  rcases h with ⟨hitems, hfull, htoken, hpassed⟩ | ⟨hitems, hscanned, hpassed, hrest⟩
  · exact .full hitems hfull htoken hpassed.behind
  · refine .scanned hitems (hscanned.trans hmore) (Or.inr ?_) hrest
    rcases hpassed with ⟨-, rfl⟩ | hpassed
    · exact .self hkey
    · exact hpassed.behind

section Batch

variable {limit : ℕ} {total : List SnapshotItem}
  (hnumber : ∀ id : ℕ, ctx.runtime.numberOf (toString id) = some (id : ℚ))
  (hids : st.UniqueIds) (hresumes : ResumesInPlace (snapshotRows st scopeId))

include hnumber hids hresumes in
lemma ScanAt.pass {scan out : SnapshotScan} {blanks rest : List SnapshotScanRow}
    {row : SnapshotScanRow} (h : ScanAt ctx st options scopeId total scan (blanks ++ row :: rest))
    (hblanks : ∀ r ∈ blanks, isBlankKey r = true) (hkey : isBlankKey row = false)
    (htoken : out.nextScanToken = some (trim (row.1.importKey.getD ""), (row.1.id : ℚ)))
    (hlast : out.lastScannedToken =
      some (makeSnapshotPageToken (trim (row.1.importKey.getD "")) row.1.id))
    (hitems : out.items = scan.items ++ (snapshotItemForPeer ctx st options row).toList) :
    ScanAt ctx st options scopeId total out rest := by
  obtain ⟨before, hbefore⟩ := h.suffix
  refine ⟨⟨before ++ blanks ++ [row], ?_⟩, ?_, ?_, ?_⟩
  · rw [← hbefore]
    simp
  · rw [htoken]
    have hrows : snapshotRows st scopeId = before ++ blanks ++ row :: rest := by
      rw [← hbefore, List.append_assoc]
    exact readsFrom_of_split hids hresumes hrows hkey
  · rw [← h.total_eq, hitems, List.filterMap_append, filterMap_servedItem_of_blank hblanks,
      List.filterMap_cons, List.append_assoc]
    have hserved : servedItem ctx st options row = snapshotItemForPeer ctx st options row := by
      rw [servedItem, hkey]
      rfl
    rw [hserved]
    rcases snapshotItemForPeer ctx st options row with _ | item
    · rfl
    · rfl
  · intro _
    rw [hlast, htoken]
    exact parseSnapshotPageToken_make hnumber hkey

include hnumber hids hresumes in
/-- A batch keeps the accumulators in step with the rows that are left. -/
lemma scanRows_spec (rows tail blanks : List SnapshotScanRow) {scan : SnapshotScan}
    (h : ScanAt ctx st options scopeId total scan (blanks ++ (rows ++ tail)))
    (hblanks : ∀ row ∈ blanks, isBlankKey row = true) (hitems : scan.items.length < limit) :
    ∃ rest, ScanAt ctx st options scopeId total (scanRows ctx st options scopeId limit scan rows)
        rest ∧
      BatchEnd limit (blanks.length + rows.length) scan
        (scanRows ctx st options scopeId limit scan rows) (blanks ++ (rows ++ tail)) tail rest := by
  induction rows generalizing scan blanks with
  | nil =>
    refine ⟨_, h, .scanned hitems rfl (Or.inl ⟨?_, rfl⟩) ⟨blanks, rfl, hblanks⟩⟩
    rw [List.length_nil, Nat.add_zero, List.take_left]
    exact hblanks
  | cons row rows ih =>
    unfold scanRows
    dsimp only
    by_cases hkey : isBlankKey row = true
    · have hblank : (trim (row.1.importKey.getD "")).toList.isEmpty = true := hkey
      have hassoc : blanks ++ (row :: rows ++ tail) = blanks ++ [row] ++ (rows ++ tail) := by simp
      have hlength : blanks.length + (row :: rows).length = (blanks ++ [row]).length + rows.length := by
        simp only [List.length_append, List.length_cons, List.length_nil]
        omega
      rw [if_pos hblank, hlength]
      rw [hassoc] at h ⊢
      refine ih (blanks ++ [row]) h (fun r hr => ?_) hitems
      rcases List.mem_append.mp hr with hr | hr
      · exact hblanks r hr
      · rw [List.mem_singleton.mp hr]
        exact hkey
    · have hkey : isBlankKey row = false := Bool.eq_false_of_not_eq_true hkey
      have hblank : ¬ (trim (row.1.importKey.getD "")).toList.isEmpty = true := by
        change ¬ isBlankKey row = true
        rw [hkey]
        exact Bool.false_ne_true
      have hlength : blanks.length + (row :: rows).length =
          blanks.length + 1 + (List.length (α := SnapshotScanRow) [] + rows.length) := by
        simp only [List.length_cons, List.length_nil]
        omega
      rw [if_neg hblank, hlength]
      rcases hitem : snapshotItemForPeer ctx st options row with _ | item
      · dsimp only
        have hscan : ScanAt ctx st options scopeId total
            { scan with
              lastScannedToken := some (makeSnapshotPageToken (trim (row.1.importKey.getD ""))
                row.1.id)
              nextScanToken := some (trim (row.1.importKey.getD ""), (row.1.id : ℚ)) }
            (rows ++ tail) :=
          h.pass hnumber hids hresumes hblanks hkey rfl rfl (by simp [hitem])
        obtain ⟨rest, hrest, hend⟩ := ih [] hscan (by simp) hitems
        exact ⟨rest, hrest, hend.behind rfl hkey⟩
      · dsimp only
        have hscan : ScanAt ctx st options scopeId total
            { items := scan.items ++ [item]
              lastScannedToken := some (makeSnapshotPageToken (trim (row.1.importKey.getD ""))
                row.1.id)
              nextScanToken := some (trim (row.1.importKey.getD ""), (row.1.id : ℚ))
              hasMore := scan.hasMore } (rows ++ tail) :=
          h.pass hnumber hids hresumes hblanks hkey rfl rfl (by simp [hitem])
        split_ifs with hfull
        · refine ⟨rows ++ tail, ⟨hscan.suffix, hscan.readsFrom, hscan.total_eq, hscan.token⟩,
            .full hfull ?_ rfl (.self hkey)⟩
          dsimp only
          rw [hscan.readsFrom 1]
          rcases rows with _ | ⟨next, rows⟩
          · rcases tail with _ | ⟨next, tail⟩
            · rfl
            · rfl
          · rfl
        · obtain ⟨rest, hrest, hend⟩ := ih [] hscan (by simp) (not_le.mp hfull)
          exact ⟨rest, hrest, hend.behind rfl hkey⟩

/-! ### One page -/

lemma PassedKey.length_lt {n : ℕ} {rows rest : List SnapshotScanRow} (h : PassedKey n rows rest) :
    rest.length < rows.length := by
  obtain ⟨passed, row, rfl, -, -⟩ := h
  rw [List.length_append, List.length_cons]
  omega

lemma filterMap_servedItem_of_short {batchSize : ℕ} {rows rest : List SnapshotScanRow}
    (hshort : (rows.take batchSize).length < batchSize)
    (hrest : ∃ blanks, rest = blanks ++ rows.drop batchSize ∧ ∀ row ∈ blanks, isBlankKey row = true) :
    rest.filterMap (servedItem ctx st options) = [] := by
  obtain ⟨blanks, rfl, hblanks⟩ := hrest
  have htail : rows.drop batchSize = [] := by
    rw [List.drop_eq_nil_iff]
    rw [List.length_take] at hshort
    omega
  rw [htail, List.append_nil]
  exact filterMap_servedItem_of_blank hblanks

include hnumber hids hresumes

lemma scanBatches_succ (fuel : ℕ) {batchSize : ℕ} {scan : SnapshotScan} {rest : List SnapshotScanRow}
    (h : ScanAt ctx st options scopeId total scan rest) (hbatch : 0 < batchSize)
    (hitems : scan.items.length < limit) :
    rest = [] ∧ scanBatches ctx st options scopeId limit batchSize (fuel + 1) scan = some scan ∨
      ∃ scanned rest', ScanAt ctx st options scopeId total scanned rest' ∧
        BatchEnd limit (rest.take batchSize).length scan scanned rest (rest.drop batchSize) rest' ∧
        scanBatches ctx st options scopeId limit batchSize (fuel + 1) scan =
          if limit ≤ scanned.items.length ∨ (rest.take batchSize).length < batchSize then
            some scanned
          else scanBatches ctx st options scopeId limit batchSize fuel scanned := by
  obtain ⟨rest', hrest', hend⟩ := scanRows_spec hnumber hids hresumes
    (rest.take batchSize) (rest.drop batchSize) [] (by simpa using h) (by simp) hitems
  rw [List.nil_append, List.take_append_drop, List.length_nil, Nat.zero_add] at hend
  rw [scanBatches]
  dsimp only
  rw [if_neg (not_le.mpr hitems), h.readsFrom batchSize]
  by_cases hempty : (rest.take batchSize).isEmpty = true
  · left
    rw [if_pos hempty]
    refine ⟨?_, rfl⟩
    rcases List.take_eq_nil_iff.mp (List.isEmpty_iff.mp hempty) with hzero | hnil
    · omega
    · exact hnil
  · right
    rw [if_neg hempty]
    exact ⟨_, rest', hrest', hend, rfl⟩

/-- A returned scan sends what it passed; it either has more, with fewer rows left, or nothing that
is left is sent. -/
lemma scanBatches_spec {batchSize fuel : ℕ} {scan out : SnapshotScan}
    {rest : List SnapshotScanRow} (h : ScanAt ctx st options scopeId total scan rest)
    (hbatch : 0 < batchSize) (hitems : scan.items.length < limit) (hmore : scan.hasMore = false)
    (hout : scanBatches ctx st options scopeId limit batchSize fuel scan = some out) :
    ∃ rest', ScanAt ctx st options scopeId total out rest' ∧
      (out.hasMore = true → out.lastScannedToken.isSome = true ∧ rest'.length < rest.length) ∧
      (out.hasMore = false → rest'.filterMap (servedItem ctx st options) = []) := by
  induction fuel generalizing scan rest with
  | zero => cases hout
  | succ fuel ih =>
    rcases scanBatches_succ hnumber hids hresumes fuel h hbatch hitems with
      ⟨rfl, hscan⟩ | ⟨scanned, rest', hrest', hend, hscan⟩
    · rw [hscan] at hout
      obtain rfl := Option.some.inj hout
      refine ⟨[], h, fun hsome => ?_, fun _ => rfl⟩
      rw [hmore] at hsome
      cases hsome
    · rw [hscan] at hout
      rcases hend with ⟨hfull, hhas, htoken, hpassed⟩ | ⟨hnot, hhas, hpassed, hblanks⟩
      · rw [if_pos (Or.inl hfull)] at hout
        obtain rfl := Option.some.inj hout
        refine ⟨rest', hrest', fun _ => ⟨htoken, hpassed.length_lt⟩, fun hnone => ?_⟩
        rw [hhas] at hnone
        rcases rest' with _ | ⟨row, rest'⟩
        · rfl
        · cases hnone
      · rw [hmore] at hhas
        split_ifs at hout with hstop
        · obtain rfl := Option.some.inj hout
          have hshort := hstop.resolve_left (not_le.mpr hnot)
          refine ⟨rest', hrest', fun hsome => ?_, fun _ =>
            filterMap_servedItem_of_short hshort hblanks⟩
          rw [hhas] at hsome
          cases hsome
        · obtain ⟨last, hlast, hsome, hnone⟩ := ih hrest' hnot hhas hout
          refine ⟨last, hlast, fun hmore => ⟨(hsome hmore).1, ?_⟩, hnone⟩
          have hlength : rest'.length ≤ rest.length := by
            rcases hpassed with ⟨-, rfl⟩ | hpassed
            · exact le_rfl
            · exact hpassed.length_lt.le
          exact (hsome hmore).2.trans_le hlength

omit hnumber hids hresumes in
lemma HasBlankBatch.append_left {batchSize : ℕ} {rows : List SnapshotScanRow}
    (h : HasBlankBatch batchSize rows) (before : List SnapshotScanRow) :
    HasBlankBatch batchSize (before ++ rows) := by
  obtain ⟨first, batch, after, rfl, hlength, hblank⟩ := h
  exact ⟨before ++ first, batch, after, by simp, hlength, hblank⟩

omit hnumber hids hresumes in
lemma HasBlankBatch.of_passedKey {n batchSize : ℕ} {rows rest : List SnapshotScanRow}
    (h : HasBlankBatch batchSize rows) (hpassed : PassedKey n rows rest) (hn : n ≤ batchSize) :
    HasBlankBatch batchSize rest := by
  obtain ⟨before, batch, after, hrows, hlength, hblank⟩ := h
  obtain ⟨passed, row, rfl, hkey, hshort⟩ := hpassed
  have hnot : row ∉ batch := fun hmem => by
    rw [hblank row hmem] at hkey
    cases hkey
  rw [List.append_assoc] at hrows
  rcases List.append_eq_append_iff.mp hrows with ⟨skipped, rfl, hskip⟩ | ⟨skipped, rfl, hskip⟩
  · rcases skipped with _ | ⟨first, skipped⟩
    · rcases batch with _ | ⟨first, batch⟩
      · rw [List.length_nil] at hlength
        omega
      · obtain ⟨rfl, -⟩ := List.cons.inj hskip
        exact absurd List.mem_cons_self hnot
    · obtain ⟨-, rfl⟩ := List.cons.inj hskip
      exact ⟨skipped, batch, after, by simp, hlength, hblank⟩
  · -- the row would stand inside the batch
    rw [List.length_append] at hshort
    have hlt : skipped.length < batch.length := by omega
    have hget : batch[skipped.length]? = some row := by
      have hall : (batch ++ after)[skipped.length]? = some row := by
        rw [hskip, List.getElem?_append_right le_rfl, Nat.sub_self]
        rfl
      rwa [List.getElem?_append_left hlt] at hall
    exact absurd (List.mem_of_getElem? hget) hnot

lemma scanBatches_isSome {batchSize fuel : ℕ} {scan : SnapshotScan} {rest : List SnapshotScanRow}
    (h : ScanAt ctx st options scopeId total scan rest) (hbatch : 0 < batchSize)
    (hitems : scan.items.length < limit) (hno : ¬ HasBlankBatch batchSize rest)
    (hfuel : rest.length < fuel) :
    (scanBatches ctx st options scopeId limit batchSize fuel scan).isSome = true := by
  induction fuel generalizing scan rest with
  | zero => omega
  | succ fuel ih =>
    rcases scanBatches_succ hnumber hids hresumes fuel h hbatch hitems with
      ⟨rfl, hscan⟩ | ⟨scanned, rest', hrest', hend, hscan⟩
    · rw [hscan]
      rfl
    · rw [hscan]
      split_ifs with hstop
      · rfl
      · obtain ⟨hnot, hlong⟩ := not_or.mp hstop
        have hpassed : PassedKey (rest.take batchSize).length rest rest' := by
          rcases hend with ⟨hfull, -⟩ | ⟨-, -, ⟨hall, -⟩ | hpassed, -⟩
          · exact absurd hfull hnot
          · have htake : (rest.take batchSize).length = batchSize :=
              le_antisymm (List.length_take_le _ _) (not_lt.mp hlong)
            rw [htake] at hall
            exact absurd ⟨[], rest.take batchSize, rest.drop batchSize, by simp, htake, hall⟩ hno
          · exact hpassed
        refine ih hrest' (not_le.mp hnot) (fun hblank => hno ?_) ?_
        · obtain ⟨passed, row, rfl, -, -⟩ := hpassed
          exact (hblank.append_left [row]).append_left passed
        · have := hpassed.length_lt
          omega

/-- With a batch of rows with blank keys ahead, a returned scan is full and has it ahead still. -/
lemma scanBatches_of_hasBlankBatch {batchSize fuel : ℕ} {scan out : SnapshotScan}
    {rest : List SnapshotScanRow} (h : ScanAt ctx st options scopeId total scan rest)
    (hbatch : 0 < batchSize) (hitems : scan.items.length < limit)
    (hblank : HasBlankBatch batchSize rest)
    (hout : scanBatches ctx st options scopeId limit batchSize fuel scan = some out) :
    ∃ rest', ScanAt ctx st options scopeId total out rest' ∧ HasBlankBatch batchSize rest' ∧
      out.hasMore = true ∧ out.lastScannedToken.isSome = true := by
  induction fuel generalizing scan rest with
  | zero => cases hout
  | succ fuel ih =>
    have hlong : batchSize ≤ rest.length := by
      obtain ⟨before, batch, after, rfl, hlength, -⟩ := hblank
      rw [List.length_append, List.length_append]
      omega
    rcases scanBatches_succ hnumber hids hresumes fuel h hbatch hitems with
      ⟨rfl, -⟩ | ⟨scanned, rest', hrest', hend, hscan⟩
    · rw [List.length_nil] at hlong
      omega
    · rw [hscan] at hout
      have htake : (rest.take batchSize).length = batchSize := by
        rw [List.length_take]
        omega
      rw [htake] at hend hout
      rcases hend with ⟨hfull, hhas, htoken, hpassed⟩ | ⟨hnot, -, hpassed, -⟩
      · rw [if_pos (Or.inl hfull)] at hout
        obtain rfl := Option.some.inj hout
        have hahead := hblank.of_passedKey hpassed le_rfl
        refine ⟨rest', hrest', hahead, ?_, htoken⟩
        rw [hhas]
        obtain ⟨before, batch, after, rfl, hlength, -⟩ := hahead
        rcases before with _ | _
        · rcases batch with _ | _
          · rw [List.length_nil] at hlength
            omega
          · rfl
        · rfl
      · rw [if_neg (not_or.mpr ⟨not_le.mpr hnot, lt_irrefl _⟩)] at hout
        refine ih hrest' hnot ?_ hout
        rcases hpassed with ⟨-, rfl⟩ | hpassed
        · exact hblank
        · exact hblank.of_passedKey hpassed le_rfl

end Batch

end Scan

/-! ### The boundary of a static store -/

/-- Reading a boundary a second time gives the same boundary and writes nothing. -/
lemma getSyncResetState_again (snapshotId : String) (st : Store) (scopeId : Option String) :
    getSyncResetState snapshotId (getSyncResetState snapshotId st scopeId).2 scopeId =
      getSyncResetState snapshotId st scopeId := by
  -- what matters of a store: its boundary is stored, and the legacy row adds nothing
  have hstored : ∀ (st1 : Store) (row : SyncResetBoundary),
      lookupRow (normalizeSyncStateScopeId scopeId) st1.syncResetStateV2 = some row →
      getSyncResetState snapshotId st1 scopeId = (resetBoundaryFromRow row, st1) := by
    intro st1 row hrow
    have hseed : (if normalizeSyncStateScopeId scopeId = defaultSyncScopeId then
        seedDefaultSyncResetStateFromLegacy st1 else st1) = st1 := by
      split_ifs with hdefault
      · unfold seedDefaultSyncResetStateFromLegacy
        rcases hlegacy : st1.syncResetState with _ | legacy
        · rfl
        · dsimp only
          rw [insertIfAbsent, ← hdefault, hrow, ← hlegacy]
          rfl
      · rfl
    unfold getSyncResetState
    dsimp only
    rw [hseed, hrow]
  generalize hst1 : (if normalizeSyncStateScopeId scopeId = defaultSyncScopeId then
      seedDefaultSyncResetStateFromLegacy st else st) = st1
  rcases hrow : lookupRow (normalizeSyncStateScopeId scopeId) st1.syncResetStateV2 with _ | row
  · have hfirst : getSyncResetState snapshotId st scopeId =
        (⟨1, snapshotId, none, none⟩,
          writeSyncResetState st1 (normalizeSyncStateScopeId scopeId) ⟨1, snapshotId, none, none⟩) := by
      unfold getSyncResetState
      dsimp only
      rw [hst1, hrow]
    rw [hfirst]
    refine hstored _ ⟨1, snapshotId, none, none⟩ ?_
    rw [writeSyncResetState, lookupRow_upsertRow, if_pos rfl, hrow]
    rfl
  · have hfirst : getSyncResetState snapshotId st scopeId = (resetBoundaryFromRow row, st1) := by
      unfold getSyncResetState
      dsimp only
      rw [hst1, hrow]
    rw [hfirst]
    exact hstored st1 row hrow

/-! ### Following the pages -/

/-- The number of items at which a page is full. -/
def snapshotLimit (options : SnapshotPageOptions) : ℕ := max 1 (min (options.limit.getD 200) 5000)

/-- The number of rows a batch of the scan reads. -/
def snapshotScanBatchSize (options : SnapshotPageOptions) : ℕ :=
  max (snapshotLimit options) (min (snapshotLimit options * 3) 10000)

/-- The scope that is served. -/
def snapshotScopeId (options : SnapshotPageOptions) : String :=
  normalizeSyncStateScopeId (options.scopeId.getD none)

/-- The store that requests read and leave behind. -/
def boundaryStore (ctx : SnapshotPageContext) (st : Store) (options : SnapshotPageOptions) : Store :=
  (getSyncResetState ctx.snapshotId st (options.scopeId.getD none)).2

/-- The request is answered with an empty page: the scope is local, or denied to the peer. -/
def isWithheld (st : Store) (options : SnapshotPageOptions) : Bool :=
  options.scopeId.isSome &&
    ((st.scopeById (snapshotScopeId options)).any (fun s => s.authorityType == .local) ||
      (cleanText options.peerDeviceId).any fun peer =>
        st.denyOverlays.any fun o => o.scopeId == snapshotScopeId options && o.deviceId == peer)

/-- The request names the current boundary of its scope. -/
def NamesBoundary (ctx : SnapshotPageContext) (st : Store) (options : SnapshotPageOptions) : Prop :=
  let boundary := (getSyncResetState ctx.snapshotId st (options.scopeId.getD none)).1
  options.generation = boundary.generation ∧
    normalizeCursor options.snapshotId = some boundary.snapshotId ∧
    normalizeCursor options.baselineCursor = boundary.baselineCursor

/-- The memories the peer is to receive: those of rows with a key that it may see. -/
def eligibleItems (ctx : SnapshotPageContext) (st : Store) (options : SnapshotPageOptions) :
    List SnapshotItem :=
  if isWithheld st options then []
  else (snapshotCandidates st (snapshotScopeId options) none).filterMap (servedItem ctx st options)

/-- Requests that follow `nextPageToken` until a page has none; the items are those of all their
pages. -/
inductive SnapshotPageRun (ctx : SnapshotPageContext) (options : SnapshotPageOptions) :
    Store → Option String → List SnapshotItem → Prop
  | last {st st' : Store} {token : Option String} {fuel : ℕ} {result : SnapshotPage}
      (hload : loadMemorySnapshotPageForPeer ctx st { options with pageToken := token } fuel =
        (st', some (.ok result)))
      (hlast : result.nextPageToken = none) : SnapshotPageRun ctx options st token result.items
  | next {st st' : Store} {token : Option String} {nextToken : String} {fuel : ℕ}
      {result : SnapshotPage} {items : List SnapshotItem}
      (hload : loadMemorySnapshotPageForPeer ctx st { options with pageToken := token } fuel =
        (st', some (.ok result)))
      (hnext : result.nextPageToken = some nextToken)
      (hrest : SnapshotPageRun ctx options st' (some nextToken) items) :
      SnapshotPageRun ctx options st token (result.items ++ items)

/-- Following the pages from the first one ends, and gives every eligible memory exactly once and
nothing else. -/
def SnapshotPagesExact (ctx : SnapshotPageContext) (st : Store) (options : SnapshotPageOptions) :
    Prop :=
  (∃ items, SnapshotPageRun ctx options st none items) ∧
    ∀ items, SnapshotPageRun ctx options st none items →
      items.Perm (eligibleItems ctx st options)

section Pages

variable {ctx : SnapshotPageContext} {st : Store} {options : SnapshotPageOptions}

def startScan (ctx : SnapshotPageContext) (token : Option String) : SnapshotScan :=
  ⟨[], parseSnapshotPageToken ctx.runtime token, none, false⟩

lemma loadMemorySnapshotPageForPeer_of_isWithheld (hboundary : NamesBoundary ctx st options)
    (hwithheld : isWithheld (boundaryStore ctx st options) options = true) (token : Option String) (fuel : ℕ) :
    loadMemorySnapshotPageForPeer ctx st { options with pageToken := token } fuel =
      (boundaryStore ctx st options,
        some (.ok ⟨(getSyncResetState ctx.snapshotId st (options.scopeId.getD none)).1, [], none,
          false⟩)) := by
  obtain ⟨hgeneration, hsnapshot, hbaseline⟩ := hboundary
  unfold isWithheld snapshotScopeId boundaryStore at hwithheld
  rw [Bool.and_eq_true, Bool.or_eq_true] at hwithheld
  unfold loadMemorySnapshotPageForPeer
  dsimp only
  split_ifs with hlocal hgen hbound hdenied
  · rfl
  · exact absurd hgeneration hgen
  · rcases hbound with h | h
    · exact absurd hsnapshot h
    · exact absurd hbaseline h
  · rfl
  · rcases hwithheld with ⟨hscope, h | h⟩
    · exact absurd ⟨hscope, h⟩ hlocal
    · exact absurd ⟨hscope, h⟩ hdenied

lemma loadMemorySnapshotPageForPeer_of_served (hboundary : NamesBoundary ctx st options)
    (hserved : isWithheld (boundaryStore ctx st options) options = false) (token : Option String) (fuel : ℕ) :
    loadMemorySnapshotPageForPeer ctx st { options with pageToken := token } fuel =
      (boundaryStore ctx st options,
        (scanBatches ctx (boundaryStore ctx st options)
          { options with pageToken := token } (snapshotScopeId options) (snapshotLimit options)
          (snapshotScanBatchSize options) fuel (startScan ctx token)).map fun scan => .ok
            ⟨(getSyncResetState ctx.snapshotId st (options.scopeId.getD none)).1, scan.items,
              if scan.hasMore then scan.lastScannedToken else none,
              scan.hasMore && scan.lastScannedToken.isSome⟩) := by
  obtain ⟨hgeneration, hsnapshot, hbaseline⟩ := hboundary
  unfold isWithheld snapshotScopeId boundaryStore at hserved
  unfold loadMemorySnapshotPageForPeer
  dsimp only
  split_ifs with hlocal hgen hbound hdenied
  · simp [hlocal.1, hlocal.2] at hserved
  · exact absurd hgeneration hgen
  · rcases hbound with h | h
    · exact absurd hsnapshot h
    · exact absurd hbaseline h
  · rw [hdenied.1, hdenied.2] at hserved
    simp at hserved
  · rfl

lemma snapshotScanBatchSize_pos (options : SnapshotPageOptions) :
    0 < snapshotLimit options ∧ 0 < snapshotScanBatchSize options := by
  unfold snapshotScanBatchSize snapshotLimit
  omega

lemma NamesBoundary.again (h : NamesBoundary ctx st options) :
    NamesBoundary ctx (boundaryStore ctx st options) options ∧
      boundaryStore ctx (boundaryStore ctx st options) options = boundaryStore ctx st options := by
  unfold NamesBoundary boundaryStore at *
  rw [getSyncResetState_again]
  exact ⟨h, rfl⟩

section Served

variable (hnumber : ∀ id : ℕ, ctx.runtime.numberOf (toString id) = some (id : ℚ))
  (hids : (boundaryStore ctx st options).UniqueIds)
  (hresumes : ResumesInPlace (snapshotRows (boundaryStore ctx st options) (snapshotScopeId options)))
  (hboundary : NamesBoundary ctx st options)
  (hserved : isWithheld (boundaryStore ctx st options) options = false)

lemma startScan_scanAt {token : Option String} {rest : List SnapshotScanRow}
    (hsuffix : rest <:+ snapshotRows (boundaryStore ctx st options) (snapshotScopeId options))
    (hreads : ReadsFrom (boundaryStore ctx st options) (snapshotScopeId options)
      (parseSnapshotPageToken ctx.runtime token) rest) :
    ScanAt ctx (boundaryStore ctx st options) { options with pageToken := token }
      (snapshotScopeId options)
      (rest.filterMap (servedItem ctx (boundaryStore ctx st options) options))
      (startScan ctx token) rest :=
  ⟨hsuffix, hreads, rfl, fun h => by cases h⟩

include hnumber hids hresumes hboundary hserved

/-- What a page that is returned sends, and what it leaves for the next one. -/
lemma loadedPage_spec {st' : Store} {token : Option String} {fuel : ℕ} {result : SnapshotPage}
    {rest : List SnapshotScanRow}
    (hsuffix : rest <:+ snapshotRows (boundaryStore ctx st options) (snapshotScopeId options))
    (hreads : ReadsFrom (boundaryStore ctx st options) (snapshotScopeId options)
      (parseSnapshotPageToken ctx.runtime token) rest)
    (hload : loadMemorySnapshotPageForPeer ctx st { options with pageToken := token } fuel =
      (st', some (.ok result))) :
    st' = boundaryStore ctx st options ∧ ∃ rest',
      rest' <:+ snapshotRows (boundaryStore ctx st options) (snapshotScopeId options) ∧
      result.items ++ rest'.filterMap (servedItem ctx (boundaryStore ctx st options) options) =
        rest.filterMap (servedItem ctx (boundaryStore ctx st options) options) ∧
      (result.nextPageToken = none →
        rest'.filterMap (servedItem ctx (boundaryStore ctx st options) options) = []) ∧
      (∀ nextToken, result.nextPageToken = some nextToken → rest'.length < rest.length ∧
        ReadsFrom (boundaryStore ctx st options) (snapshotScopeId options)
          (parseSnapshotPageToken ctx.runtime (some nextToken)) rest') := by
  obtain ⟨hlimit, hbatch⟩ := snapshotScanBatchSize_pos options
  rw [loadMemorySnapshotPageForPeer_of_served hboundary hserved] at hload
  obtain ⟨rfl, hscan⟩ := Prod.mk.inj hload
  obtain ⟨out, hout, hresult⟩ := Option.map_eq_some_iff.mp hscan
  obtain rfl := Except.ok.inj hresult
  obtain ⟨rest', hrest', hmore, hdone⟩ := scanBatches_spec hnumber hids hresumes
    (startScan_scanAt hsuffix hreads) hbatch hlimit rfl hout
  refine ⟨rfl, rest', hrest'.suffix, hrest'.total_eq, fun hlast => ?_, fun nextToken hnext => ?_⟩
  · rcases hhas : out.hasMore
    · exact hdone hhas
    · dsimp only at hlast
      rw [hhas, if_pos rfl] at hlast
      have htoken := (hmore hhas).1
      rw [hlast] at htoken
      cases htoken
  · rcases hhas : out.hasMore
    · dsimp only at hnext
      rw [hhas, if_neg Bool.false_ne_true] at hnext
      cases hnext
    · dsimp only at hnext
      rw [hhas, if_pos rfl] at hnext
      refine ⟨(hmore hhas).2, ?_⟩
      rw [← hnext, hrest'.token (hmore hhas).1]
      exact hrest'.readsFrom

lemma SnapshotPageRun.items_eq {token : Option String} {items : List SnapshotItem}
    (h : SnapshotPageRun ctx options st token items) {rest : List SnapshotScanRow}
    (hsuffix : rest <:+ snapshotRows (boundaryStore ctx st options) (snapshotScopeId options))
    (hreads : ReadsFrom (boundaryStore ctx st options) (snapshotScopeId options)
      (parseSnapshotPageToken ctx.runtime token) rest) :
    items = rest.filterMap (servedItem ctx (boundaryStore ctx st options) options) := by
  induction h generalizing rest with
  | last hload hlast =>
    obtain ⟨-, rest', -, htotal, hnone, -⟩ :=
      loadedPage_spec hnumber hids hresumes hboundary hserved hsuffix hreads hload
    rw [hnone hlast, List.append_nil] at htotal
    exact htotal
  | next hload hnext hrun ih =>
    obtain ⟨rfl, rest', hsuffix', htotal, -, hsome⟩ :=
      loadedPage_spec hnumber hids hresumes hboundary hserved hsuffix hreads hload
    obtain ⟨hagain, hstore⟩ := hboundary.again
    have htail := @ih (by rwa [hstore]) (by rwa [hstore]) hagain (by rwa [hstore]) rest'
      (by rwa [hstore]) (by rw [hstore]; exact (hsome _ hnext).2)
    rw [hstore] at htail
    rw [htail, htotal]

lemma exists_snapshotPageRun {token : Option String} {rest : List SnapshotScanRow}
    (hsuffix : rest <:+ snapshotRows (boundaryStore ctx st options) (snapshotScopeId options))
    (hreads : ReadsFrom (boundaryStore ctx st options) (snapshotScopeId options)
      (parseSnapshotPageToken ctx.runtime token) rest)
    (hno : ¬ HasBlankBatch (snapshotScanBatchSize options)
      (snapshotRows (boundaryStore ctx st options) (snapshotScopeId options))) :
    ∃ items, SnapshotPageRun ctx options st token items := by
  obtain ⟨hlimit, hbatch⟩ := snapshotScanBatchSize_pos options
  induction hlength : rest.length using Nat.strong_induction_on generalizing st token rest with
  | _ n ih =>
    have hnoRest : ¬ HasBlankBatch (snapshotScanBatchSize options) rest := by
      obtain ⟨before, hbefore⟩ := hsuffix
      intro hblank
      rw [← hbefore] at hno
      exact hno (hblank.append_left before)
    obtain ⟨out, hout⟩ := Option.isSome_iff_exists.mp (scanBatches_isSome hnumber hids hresumes
      (startScan_scanAt hsuffix hreads) hbatch hlimit hnoRest (Nat.lt_succ_self _))
    have hload := loadMemorySnapshotPageForPeer_of_served hboundary hserved token
      rest.length.succ
    rw [hout, Option.map_some] at hload
    rcases hnext : (if out.hasMore then out.lastScannedToken else none) with _ | nextToken
    · exact ⟨_, .last hload hnext⟩
    · obtain ⟨-, rest', hsuffix', -, -, hsome⟩ :=
        loadedPage_spec hnumber hids hresumes hboundary hserved hsuffix hreads hload
      obtain ⟨hshort, hreads'⟩ := hsome nextToken hnext
      obtain ⟨hagain, hstore⟩ := hboundary.again
      have hlater := @ih rest'.length (hlength ▸ hshort) (boundaryStore ctx st options)
      rw [hstore] at hlater
      obtain ⟨items, hitems⟩ := hlater hids hresumes hagain hserved hsuffix' hreads' hno rfl
      exact ⟨_, .next hload hnext hitems⟩

lemma SnapshotPageRun.not_hasBlankBatch {token : Option String} {items : List SnapshotItem}
    (h : SnapshotPageRun ctx options st token items) {rest : List SnapshotScanRow}
    (hsuffix : rest <:+ snapshotRows (boundaryStore ctx st options) (snapshotScopeId options))
    (hreads : ReadsFrom (boundaryStore ctx st options) (snapshotScopeId options)
      (parseSnapshotPageToken ctx.runtime token) rest) :
    ¬ HasBlankBatch (snapshotScanBatchSize options) rest := by
  obtain ⟨hlimit, hbatch⟩ := snapshotScanBatchSize_pos options
  induction h generalizing rest with
  | last hload hlast =>
    intro hblank
    rw [loadMemorySnapshotPageForPeer_of_served hboundary hserved] at hload
    obtain ⟨-, hscan⟩ := Prod.mk.inj hload
    obtain ⟨out, hout, hresult⟩ := Option.map_eq_some_iff.mp hscan
    obtain rfl := Except.ok.inj hresult
    obtain ⟨-, -, -, hmore, htoken⟩ := scanBatches_of_hasBlankBatch hnumber hids hresumes
      (startScan_scanAt hsuffix hreads) hbatch hlimit hblank hout
    dsimp only at hlast
    rw [hmore, if_pos rfl] at hlast
    rw [hlast] at htoken
    cases htoken
  | next hload hnext hrun ih =>
    intro hblank
    rw [loadMemorySnapshotPageForPeer_of_served hboundary hserved] at hload
    obtain ⟨rfl, hscan⟩ := Prod.mk.inj hload
    obtain ⟨out, hout, hresult⟩ := Option.map_eq_some_iff.mp hscan
    obtain rfl := Except.ok.inj hresult
    obtain ⟨rest', hrest', hblank', hmore, htoken⟩ := scanBatches_of_hasBlankBatch hnumber hids
      hresumes (startScan_scanAt hsuffix hreads) hbatch hlimit hblank hout
    dsimp only at hnext
    rw [hmore, if_pos rfl] at hnext
    obtain ⟨hagain, hstore⟩ := hboundary.again
    refine @ih (by rwa [hstore]) (by rwa [hstore]) hagain (by rwa [hstore]) rest' ?_ ?_ hblank'
    · rw [hstore]
      exact hrest'.suffix
    · rw [hstore, ← hnext, hrest'.token htoken]
      exact hrest'.readsFrom

end Served

lemma eligibleItems_boundaryStore (hserved : isWithheld (boundaryStore ctx st options) options =
    false) :
    (eligibleItems ctx st options).Perm
      ((snapshotRows (boundaryStore ctx st options) (snapshotScopeId options)).filterMap
        (servedItem ctx (boundaryStore ctx st options) options)) := by
  obtain ⟨boundaries, legacyBoundary, cursors, legacyCursors, hframe⟩ :=
    getSyncResetState_frame ctx.snapshotId st (options.scopeId.getD none)
  change boundaryStore ctx st options = _ at hframe
  have hserved' : isWithheld st options = false := by
    rw [hframe] at hserved
    exact hserved
  rw [eligibleItems, hserved', if_neg Bool.false_ne_true, hframe]
  exact (perm_sortByPos snapshotPos _).symm.filterMap _

lemma isWithheld_boundaryStore :
    isWithheld (boundaryStore ctx st options) options = isWithheld st options := by
  obtain ⟨boundaries, legacyBoundary, cursors, legacyCursors, hframe⟩ :=
    getSyncResetState_frame ctx.snapshotId st (options.scopeId.getD none)
  change boundaryStore ctx st options = _ at hframe
  rw [hframe]
  rfl

lemma snapshotRows_boundaryStore (scopeId : String) :
    snapshotRows (boundaryStore ctx st options) scopeId = snapshotRows st scopeId := by
  obtain ⟨boundaries, legacyBoundary, cursors, legacyCursors, hframe⟩ :=
    getSyncResetState_frame ctx.snapshotId st (options.scopeId.getD none)
  change boundaryStore ctx st options = _ at hframe
  rw [hframe]
  rfl

lemma snapshotPagesExact_of_isWithheld (hboundary : NamesBoundary ctx st options)
    (hwithheld : isWithheld st options = true) : SnapshotPagesExact ctx st options := by
  have hload := loadMemorySnapshotPageForPeer_of_isWithheld hboundary
    (isWithheld_boundaryStore.trans hwithheld)
  have heligible : eligibleItems ctx st options = [] := by
    rw [eligibleItems, hwithheld, if_pos rfl]
  refine ⟨⟨_, .last (hload none 0) rfl⟩, fun items hrun => ?_⟩
  rw [heligible]
  rcases hrun with ⟨hloaded, -⟩ | ⟨hloaded, hnext, -⟩
  · rw [hload] at hloaded
    obtain ⟨-, hresult⟩ := Prod.mk.inj hloaded
    obtain rfl := Except.ok.inj (Option.some.inj hresult)
    exact .refl _
  · rw [hload] at hloaded
    obtain ⟨-, hresult⟩ := Prod.mk.inj hloaded
    obtain rfl := Except.ok.inj (Option.some.inj hresult)
    cases hnext

end Pages

/-! ### Padded keys -/

/-- `Number` on decimal digits. -/
def decimalNumber (text : String) : Option ℚ :=
  if text.toList.isEmpty || text.toList.any (fun c => !c.isDigit) then none
  else some (Nat.ofDigitChars 10 text.toList 0 : ℕ)

lemma decimalNumber_toString (id : ℕ) : decimalNumber (toString id) = some (id : ℚ) := by
  have hdigits : (toString id).toList = Nat.toDigits 10 id := by
    rw [Nat.toString_eq_ofList_toDigits, String.toList_ofList]
  have hall : (Nat.toDigits 10 id).any (fun c => !c.isDigit) = false := by
    rw [List.any_eq_false]
    intro c hc
    simp [Nat.isDigit_of_mem_toDigits (by decide) (by decide) hc]
  have hne : (Nat.toDigits 10 id).isEmpty = false := by
    rw [List.isEmpty_eq_false_iff]
    exact Nat.toDigits_ne_nil
  unfold decimalNumber
  rw [hdigits, hall, hne, Bool.or_false, if_neg Bool.false_ne_true,
    Nat.ofDigitChars_toDigits (by decide) (by decide)]

/-- A context whose runtime reads decimal numbers. -/
def samplePageContext : SnapshotPageContext where
  runtime := ⟨decimalNumber, fun _ => "", fun _ => "", toLowerCase⟩
  memorySourceNamespace := fun _ => none
  snapshotId := "snapshot"

/-- A request for pages of one memory. -/
def samplePageOptions : SnapshotPageOptions :=
  ⟨some (some "team"), none, 1, some "snapshot", none, some "peer", some 1, none⟩

def sampleSharedMemory (id : ℕ) (importKey : String) : MemoryItem where
  id := id
  sessionId := 1
  kind := "discovery"
  title := "title"
  bodyText := "body"
  active := some 1
  createdAt := "2026-01-01"
  updatedAt := "2026-01-01"
  metadataJson := none
  actorId := none
  visibility := some "shared"
  workspaceId := some "shared:team"
  workspaceKind := some "shared"
  originDeviceId := some "remote"
  deletedAt := none
  rev := some 1
  importKey := some importKey
  scopeId := some "team"
  project := none
  content := MemoryContent.empty

/-- A store with two memories of the team. -/
def samplePagedStore (firstKey secondKey : String) : Store :=
  { Store.empty with
    sessions := [⟨1, none, none⟩]
    memoryItems := [sampleSharedMemory 1 firstKey, sampleSharedMemory 2 secondKey] }

lemma samplePagedStore_resumesInPlace :
    ResumesInPlace (snapshotRows (samplePagedStore "a" "b") (snapshotScopeId samplePageOptions)) := by
  refine resumesInPlace_of_trimmed fun row hrow _ => ?_
  obtain ⟨stored, hstored, hscanned⟩ := List.mem_filterMap.mp (mem_sortByPos.mp hrow)
  split_ifs at hscanned
  obtain ⟨session, -, rfl⟩ := Option.map_eq_some_iff.mp hscanned
  rcases List.mem_pair.mp hstored with rfl | rfl
  · change trim "a" = "a"
    decide
  · change trim "b" = "b"
    decide

/-- The number of items and the next token of a returned page. -/
def pageSummary (loaded : Store × Option (Except String SnapshotPage)) :
    Option (ℕ × Option String) :=
  match loaded.2 with
  | some (.ok result) => some (result.items.length, result.nextPageToken)
  | _ => none

lemma exists_of_pageSummary {loaded : Store × Option (Except String SnapshotPage)} {length : ℕ}
    {token : Option String} (h : pageSummary loaded = some (length, token)) :
    ∃ result, loaded = (loaded.1, some (.ok result)) ∧ result.items.length = length ∧
      result.nextPageToken = token := by
  obtain ⟨st, _ | _ | result⟩ := loaded
  · cases h
  · cases h
  · obtain ⟨rfl, rfl⟩ := Prod.mk.inj (Option.some.inj h)
    exact ⟨result, rfl, rfl, rfl⟩

end Codemem
