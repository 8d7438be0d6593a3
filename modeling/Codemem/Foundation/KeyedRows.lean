import Mathlib

/-!
# Tables of rows with a key

A table is a list of rows, and a key is a function of a row.  `UPDATE … WHERE` rewrites the selected
rows in place, `INSERT … ON CONFLICT DO UPDATE` rewrites the rows of a key or appends one.  A table
evolves along a relation when every key that had a row still has one, related to the old one.
-/

namespace Codemem

variable {α κ : Type*} [DecidableEq κ] (key : α → κ)

def rowAt (k : κ) (rows : List α) : Option α := rows.find? fun row => key row == k

/-- `UPDATE … SET … WHERE`. -/
def updateRows (selects : α → Bool) (write : α → α) (rows : List α) : List α :=
  rows.map fun row => if selects row then write row else row

/-- `INSERT … ON CONFLICT(key) DO UPDATE SET … WHERE`: `write` is the update of a stored row. -/
def insertOrUpdate (row : α) (write : α → α) (rows : List α) : List α :=
  if rows.any fun stored => key stored == key row then
    rows.map fun stored => if key stored = key row then write stored else stored
  else rows ++ [row]

/-- Every key that has a row keeps one, and the relation leads from the old row to the new one. -/
def Evolves (R : α → α → Prop) (rows rows' : List α) : Prop :=
  ∀ k row, rowAt key k rows = some row → ∃ row', rowAt key k rows' = some row' ∧ R row row'

variable {key}

lemma rowAt_eq_some {k : κ} {rows : List α} {row : α} (h : rowAt key k rows = some row) :
    row ∈ rows ∧ key row = k :=
  ⟨List.mem_of_find?_eq_some h, by simpa using List.find?_some h⟩

lemma rowAt_cons {row : α} {rows : List α} {k : κ} :
    rowAt key k (row :: rows) = if key row = k then some row else rowAt key k rows := by
  unfold rowAt
  by_cases hkey : key row = k
  · simp [hkey]
  · simp [hkey]

lemma rowAt_eq_none {k : κ} {rows : List α} (h : rowAt key k rows = none) {row : α}
    (hrow : row ∈ rows) : key row ≠ k := by
  have hmiss := List.find?_eq_none.mp h row hrow
  simpa using hmiss

lemma exists_rowAt_of_mem {rows : List α} {row : α} (h : row ∈ rows) :
    ∃ stored, rowAt key (key row) rows = some stored := by
  rw [← Option.isSome_iff_exists, rowAt, List.find?_isSome]
  exact ⟨row, h, by simp⟩

lemma rowAt_map {write : α → α} (hkey : ∀ row, key (write row) = key row) (k : κ)
    (rows : List α) : rowAt key k (rows.map write) = (rowAt key k rows).map write := by
  have hcomp : (fun row => key row == k) ∘ write = fun row => key row == k := by
    funext row
    simp [hkey]
  rw [rowAt, List.find?_map, hcomp, rowAt]

lemma rowAt_eq_some_iff {rows : List α} (hnodup : (rows.map key).Nodup) {k : κ} {row : α} :
    rowAt key k rows = some row ↔ row ∈ rows ∧ key row = k := by
  constructor
  · exact rowAt_eq_some
  · rintro ⟨hmem, rfl⟩
    have hfound : ∃ stored, rowAt key (key row) rows = some stored := exists_rowAt_of_mem hmem
    obtain ⟨stored, hstored⟩ := hfound
    obtain ⟨hstoredMem, hkey⟩ := rowAt_eq_some hstored
    rw [hstored, List.inj_on_of_nodup_map hnodup hstoredMem hmem hkey]

lemma rowAt_perm {rows rows' : List α} (hperm : rows'.Perm rows) (hnodup : (rows.map key).Nodup)
    (k : κ) : rowAt key k rows' = rowAt key k rows := by
  have hnodup' : (rows'.map key).Nodup := (hperm.map key).nodup_iff.mpr hnodup
  refine Option.ext fun row => ?_
  rw [rowAt_eq_some_iff hnodup', rowAt_eq_some_iff hnodup, hperm.mem_iff]

lemma nodup_insertOrUpdate {row : α} {write : α → α}
    (hkey : ∀ stored, key stored = key row → key (write stored) = key stored) {rows : List α}
    (hnodup : (rows.map key).Nodup) : ((insertOrUpdate key row write rows).map key).Nodup := by
  unfold insertOrUpdate
  split_ifs with hstored
  · have hsame : (rows.map fun stored => if key stored = key row then write stored else stored).map
        key = rows.map key := by
      rw [List.map_map]
      refine List.map_congr_left fun stored _ => ?_
      rw [Function.comp_apply]
      split_ifs with hk
      · exact hkey stored hk
      · rfl
    rw [hsame]
    exact hnodup
  · rw [List.map_append, List.map_singleton]
    refine List.nodup_append.mpr ⟨hnodup, List.nodup_singleton _, fun k hk k' hk' => ?_⟩
    rw [List.mem_singleton.mp hk']
    rintro rfl
    obtain ⟨stored, hmem, hk⟩ := List.mem_map.mp hk
    exact hstored (List.any_eq_true.mpr ⟨stored, hmem, beq_iff_eq.mpr hk⟩)

/-- An insertion is read back at its key and leaves the other keys alone, when the update of a stored
row of the key keeps the key. -/
lemma rowAt_insertOrUpdate_of_key {row : α} {write : α → α}
    (hkey : ∀ stored, key stored = key row → key (write stored) = key stored) (k : κ)
    (rows : List α) :
    rowAt key k (insertOrUpdate key row write rows) =
      if k = key row then some (((rowAt key k rows).map write).getD row) else rowAt key k rows := by
  have hwrite : ∀ stored, key (if key stored = key row then write stored else stored) =
      key stored := by
    intro stored
    split_ifs with hsame
    · exact hkey stored hsame
    · rfl
  unfold insertOrUpdate
  by_cases hstored : (rows.any fun stored => key stored == key row) = true
  · rw [if_pos hstored, rowAt_map hwrite]
    cases hrow : rowAt key k rows with
    | none =>
      have hk : k ≠ key row := by
        rintro rfl
        obtain ⟨stored, hmem, hsame⟩ := List.any_eq_true.mp hstored
        have hhas : ∃ found, rowAt key (key stored) rows = some found := exists_rowAt_of_mem hmem
        obtain ⟨found, hfound⟩ := hhas
        rw [beq_iff_eq.mp hsame, hrow] at hfound
        cases hfound
      rw [if_neg hk, Option.map_none]
    | some stored =>
      obtain ⟨-, hk⟩ := rowAt_eq_some hrow
      by_cases hsame : k = key row
      · simp [hk, hsame]
      · simp [hk, hsame]
  · have happend : rowAt key k (rows ++ [row]) = (rowAt key k rows).or (rowAt key k [row]) :=
      List.find?_append
    rw [if_neg hstored, happend]
    by_cases hsame : k = key row
    · have hnone : rowAt key k rows = none := by
        rw [rowAt, List.find?_eq_none]
        intro stored hmem hk
        refine hstored (List.any_eq_true.mpr ⟨stored, hmem, ?_⟩)
        rw [← hsame]
        exact hk
      rw [if_pos hsame, hnone]
      simp [rowAt, hsame]
    · have hmiss : (key row == k) = false := beq_eq_false_iff_ne.mpr (Ne.symm hsame)
      simp [rowAt, hmiss, if_neg hsame]

lemma rowAt_insertOrUpdate {row : α} {write : α → α}
    (hkey : ∀ stored, key (write stored) = key stored) (k : κ) (rows : List α) :
    rowAt key k (insertOrUpdate key row write rows) =
      if k = key row then some (((rowAt key k rows).map write).getD row) else rowAt key k rows :=
  rowAt_insertOrUpdate_of_key (fun stored _ => hkey stored) k rows

lemma mem_keys_insertOrUpdate {row : α} {write : α → α}
    (hkey : ∀ stored, key stored = key row → key (write stored) = key stored) {rows : List α}
    {k : κ} : k ∈ (insertOrUpdate key row write rows).map key ↔ k ∈ rows.map key ∨ k = key row := by
  have hfound : ∀ rows : List α, k ∈ rows.map key ↔ (rowAt key k rows).isSome := by
    intro rows
    rw [rowAt, List.find?_isSome, List.mem_map]
    simp only [beq_iff_eq]
  rw [hfound, hfound, rowAt_insertOrUpdate_of_key hkey]
  split_ifs with hsame
  · simp [hsame]
  · simp [hsame]

lemma nodup_foldl_insertOrUpdate {β : Type*} {start : β → α} {extend : β → α → α}
    (hkey : ∀ b stored, key stored = key (start b) → key (extend b stored) = key stored)
    (entries : List β) {rows : List α} (hnodup : (rows.map key).Nodup) :
    ((entries.foldl (fun rows b => insertOrUpdate key (start b) (extend b) rows) rows).map
      key).Nodup := by
  induction entries generalizing rows with
  | nil => exact hnodup
  | cons b entries ih => exact ih (nodup_insertOrUpdate (hkey b) hnodup)

lemma mem_keys_foldl_insertOrUpdate {β : Type*} {start : β → α} {extend : β → α → α}
    (hkey : ∀ b stored, key stored = key (start b) → key (extend b stored) = key stored)
    (entries : List β) {rows : List α} {k : κ} :
    k ∈ (entries.foldl (fun rows b => insertOrUpdate key (start b) (extend b) rows) rows).map key ↔
      k ∈ rows.map key ∨ ∃ b ∈ entries, key (start b) = k := by
  induction entries generalizing rows with
  | nil => simp
  | cons b entries ih =>
    rw [List.foldl_cons, ih, mem_keys_insertOrUpdate (hkey b), List.exists_mem_cons_iff, or_assoc,
      eq_comm]

lemma rowAt_foldl_insertOrUpdate {β : Type*} {start : β → α} {extend : β → α → α}
    (hkey : ∀ b stored, key stored = key (start b) → key (extend b stored) = key stored) (k : κ)
    (entries : List β) (rows : List α) :
    rowAt key k (entries.foldl (fun rows b => insertOrUpdate key (start b) (extend b) rows) rows) =
      (entries.filter fun b => decide (key (start b) = k)).foldl
        (fun found b => some ((found.map (extend b)).getD (start b))) (rowAt key k rows) := by
  induction entries generalizing rows with
  | nil => rfl
  | cons b entries ih =>
    rw [List.foldl_cons, ih, rowAt_insertOrUpdate_of_key (hkey b)]
    by_cases hsame : k = key (start b)
    · rw [if_pos hsame, List.filter_cons, if_pos (decide_eq_true hsame.symm), List.foldl_cons]
    · have hmiss : ¬ decide (key (start b) = k) = true := fun h => hsame (of_decide_eq_true h).symm
      rw [if_neg hsame, List.filter_cons, if_neg hmiss]

lemma mem_foldl_insertOrUpdate {entries : List α}
    (hinj : ∀ a ∈ entries, ∀ b ∈ entries, key a = key b → a = b) {row : α} :
    row ∈ entries.foldl (fun rows a => insertOrUpdate key a (fun _ => a) rows) [] ↔
      row ∈ entries := by
  induction entries using List.reverseRecOn generalizing row with
  | nil => simp
  | append_singleton entries a ih =>
    have hrest := fun b hb c hc => hinj b (List.mem_append_left _ hb) c (List.mem_append_left _ hc)
    rw [List.foldl_append, List.foldl_cons, List.foldl_nil]
    generalize hrows : entries.foldl (fun rows b => insertOrUpdate key b (fun _ => b) rows) [] = rows
    have hmem : ∀ b, b ∈ rows ↔ b ∈ entries := by
      intro b
      rw [← hrows]
      exact ih hrest
    unfold insertOrUpdate
    split_ifs with hstored
    · -- the row of the key is the entry itself
      have hsame : ∀ b ∈ rows, (if key b = key a then a else b) = b := by
        intro b hb
        split_ifs with hkey
        · exact (hinj b (List.mem_append_left _ ((hmem b).mp hb)) a (by simp) hkey).symm
        · rfl
      obtain ⟨b, hb, hkey⟩ := List.any_eq_true.mp hstored
      have hba := hinj b (List.mem_append_left _ ((hmem b).mp hb)) a (by simp) (beq_iff_eq.mp hkey)
      have ha : a ∈ entries := hba ▸ (hmem b).mp hb
      rw [List.map_congr_left hsame, List.map_id', hmem, List.mem_append, List.mem_singleton]
      constructor
      · exact .inl
      · rintro (hrow | rfl)
        · exact hrow
        · exact ha
    · rw [List.mem_append, hmem, List.mem_append]

omit [DecidableEq κ] in
lemma eq_of_nodup_filterMap {key : α → Option κ} {rows : List α}
    (hnodup : (rows.filterMap key).Nodup) {row row' : α} (hrow : row ∈ rows)
    (hrow' : row' ∈ rows) {k : κ} (hk : key row = some k) (hk' : key row' = some k) :
    row = row' := by
  induction rows with
  | nil => cases hrow
  | cons first rows ih => grind

lemma column_comp_updateRows {β : Type*} {column : α → β} {selects : α → Bool} {write : α → α}
    (hcolumn : ∀ row, column (write row) = column row) :
    (column ∘ fun row => if selects row then write row else row) = column := by
  funext row
  rw [Function.comp_apply]
  split_ifs
  · exact hcolumn row
  · rfl

lemma rowAt_updateRows {selects : α → Bool} {write : α → α}
    (hkey : ∀ row, key (write row) = key row) (k : κ) (rows : List α) :
    rowAt key k (updateRows selects write rows) =
      (rowAt key k rows).map fun row => if selects row then write row else row := by
  refine rowAt_map (fun row => ?_) k rows
  split_ifs
  · exact hkey row
  · rfl

lemma mem_updateRows {selects : α → Bool} {write : α → α} {rows : List α} {row : α}
    (h : row ∈ updateRows selects write rows) :
    ∃ stored ∈ rows, (selects stored = true ∧ row = write stored) ∨
      (selects stored = false ∧ row = stored) := by
  obtain ⟨stored, hstored, rfl⟩ := List.mem_map.mp h
  refine ⟨stored, hstored, ?_⟩
  cases hsel : selects stored with
  | true => exact .inl ⟨rfl, by simp⟩
  | false => exact .inr ⟨rfl, by simp⟩

lemma mem_insertOrUpdate {row row' : α} {write : α → α} {rows : List α}
    (h : row' ∈ insertOrUpdate key row write rows) :
    (∃ stored ∈ rows, key stored ≠ key row ∧ row' = stored) ∨
      (∃ stored ∈ rows, key stored = key row ∧ row' = write stored) ∨ row' = row := by
  unfold insertOrUpdate at h
  split_ifs at h with hstored
  · obtain ⟨stored, hmem, rfl⟩ := List.mem_map.mp h
    by_cases hkey : key stored = key row
    · exact .inr (.inl ⟨stored, hmem, hkey, by rw [if_pos hkey]⟩)
    · exact .inl ⟨stored, hmem, hkey, by rw [if_neg hkey]⟩
  · rcases List.mem_append.mp h with hmem | hmem
    · refine .inl ⟨row', hmem, fun hkey => hstored ?_, rfl⟩
      exact List.any_eq_true.mpr ⟨row', hmem, by simpa using hkey⟩
    · exact .inr (.inr (List.mem_singleton.mp hmem))

/-! ### The rows of one key -/

variable (key) in
def RowsAt (k : κ) (P : α → Prop) (rows : List α) : Prop := ∀ row ∈ rows, key row = k → P row

namespace RowsAt

variable {k : κ} {P Q : α → Prop} {rows : List α}

omit [DecidableEq κ] in
lemma updateRows {selects : α → Bool} {write : α → α} (hkey : ∀ row, key (write row) = key row)
    (h : RowsAt key k P rows) (hwrite : ∀ row, key row = k → P row → selects row = true →
      Q (write row))
    (hkeep : ∀ row, key row = k → P row → selects row = false → Q row) :
    RowsAt key k Q (Codemem.updateRows selects write rows) := by
  intro row hrow hk
  obtain ⟨stored, hstored, ⟨hsel, rfl⟩ | ⟨hsel, rfl⟩⟩ := mem_updateRows hrow
  · have hk' : key stored = k := (hkey stored).symm.trans hk
    exact hwrite stored hk' (h stored hstored hk') hsel
  · exact hkeep row hk (h row hstored hk) hsel

lemma insertOrUpdate {row : α} {write : α → α} (hkey : ∀ stored, key (write stored) = key stored)
    (hne : key row ≠ k) (h : RowsAt key k P rows) :
    RowsAt key k P (Codemem.insertOrUpdate key row write rows) := by
  intro row' hrow' hk
  rcases mem_insertOrUpdate hrow' with ⟨stored, hstored, -, rfl⟩ | ⟨stored, -, hsame, rfl⟩ | rfl
  · exact h row' hstored hk
  · rw [hkey, hsame] at hk
    exact absurd hk hne
  · exact absurd hk hne

end RowsAt

/-! ### Evolution -/

namespace Evolves

variable {R : α → α → Prop} {rows rows' rows'' : List α}

lemma refl (hR : ∀ row, R row row) (rows : List α) : Evolves key R rows rows :=
  fun _ row h => ⟨row, h, hR row⟩

lemma trans (hR : ∀ a b c, R a b → R b c → R a c) (h : Evolves key R rows rows')
    (h' : Evolves key R rows' rows'') : Evolves key R rows rows'' := by
  intro k row hrow
  obtain ⟨row', hrow', hR'⟩ := h k row hrow
  obtain ⟨row'', hrow'', hR''⟩ := h' k row' hrow'
  exact ⟨row'', hrow'', hR _ _ _ hR' hR''⟩

lemma map {write : α → α} (hkey : ∀ row, key (write row) = key row)
    (hR : ∀ row ∈ rows, R row (write row)) : Evolves key R rows (rows.map write) := by
  intro k row hrow
  refine ⟨write row, ?_, hR row (rowAt_eq_some hrow).1⟩
  rw [rowAt_map hkey, hrow, Option.map_some]

lemma updateRows {selects : α → Bool} {write : α → α} (hrefl : ∀ row, R row row)
    (hkey : ∀ row, key (write row) = key row)
    (hR : ∀ row ∈ rows, selects row = true → R row (write row)) :
    Evolves key R rows (Codemem.updateRows selects write rows) := by
  refine map (fun row => ?_) fun row hrow => ?_
  · split_ifs
    · exact hkey row
    · rfl
  · split_ifs with hsel
    · exact hR row hrow hsel
    · exact hrefl row

lemma append (hrefl : ∀ row, R row row) (added : List α) :
    Evolves key R rows (rows ++ added) := by
  intro k row hrow
  refine ⟨row, ?_, hrefl row⟩
  rw [rowAt] at hrow ⊢
  rw [List.find?_append, hrow, Option.some_or]

lemma insertOrUpdate {row : α} {write : α → α} (hrefl : ∀ row, R row row)
    (hkey : ∀ stored, key (write stored) = key stored)
    (hR : ∀ stored ∈ rows, key stored = key row → R stored (write stored)) :
    Evolves key R rows (Codemem.insertOrUpdate key row write rows) := by
  unfold Codemem.insertOrUpdate
  split_ifs
  · refine map (fun stored => ?_) fun stored hstored => ?_
    · split_ifs
      · exact hkey stored
      · rfl
    · split_ifs with hsame
      · exact hR stored hstored hsame
      · exact hrefl stored
  · exact append hrefl _

end Evolves

end Codemem
