import Codemem.Recipients.EdgeRows

/-!
# What a commit writes

Each change rewrites the stored rows of its own edge or inserts one row, and leaves the rows of all
other edges alone.  After a commit, the rows of a changed edge are therefore the rows that the
preview read, rewritten once.
-/

namespace Codemem

/-- The stored identity of an edge that is written when it is added again. -/
def StoredEdge.reactivated (edge : StoredEdge) : String :=
  if edge.persistedProjectIdentities.contains edge.canonicalProjectIdentity then
    edge.canonicalProjectIdentity
  else edge.persistedProjectIdentities.headD ""

def rewriteRow (edges : List StoredEdge) (now : String) (change : EdgeChange)
    (row : ProjectRecipient) : ProjectRecipient :=
  match edgeOutcome edges change, edgeAt edges change.key with
  | .added, some current =>
    if row.canonicalProjectIdentity == current.reactivated &&
        row.recipientKind == current.recipientKind.text &&
        row.recipientId == current.recipientId then
      { row with status := "active", updatedAt := now }
    else row
  | .removed, some current =>
    if current.persistedProjectIdentities.contains row.canonicalProjectIdentity &&
        row.recipientKind == current.recipientKind.text &&
        row.recipientId == current.recipientId then
      { row with status := "revoked", updatedAt := now }
    else row
  | _, _ => row

def insertedEdgeRow (change : EdgeChange) (now : String) : ProjectRecipient :=
  ⟨change.canonicalProjectIdentity, change.recipientKind.text, change.recipientId, "active", now⟩

def insertedRows (edges : List StoredEdge) (now : String) (change : EdgeChange) :
    List ProjectRecipient :=
  match edgeOutcome edges change, edgeAt edges change.key with
  | .added, none => [insertedEdgeRow change now]
  | _, _ => []

section

variable {edges : List StoredEdge} {now : String} {change : EdgeChange}
variable {rows rows' : List ProjectRecipient}

lemma applyEdgeChange_eq_ok (h : applyEdgeChange edges now rows change = .ok rows') :
    rows' = rows.map (rewriteRow edges now change) ++ insertedRows edges now change := by
  unfold applyEdgeChange at h
  unfold rewriteRow insertedRows
  rcases houtcome : edgeOutcome edges change with _ | _ | _ | _
  · rw [houtcome] at h
    dsimp only at h ⊢
    rcases hcurrent : edgeAt edges change.key with _ | current
    · rw [hcurrent] at h
      unfold insertEdge at h
      dsimp only at h ⊢
      split_ifs at h
      cases h
      simp [insertedEdgeRow]
    · rw [hcurrent] at h
      cases h
      simp only [List.append_nil]
      rfl
  · rw [houtcome] at h
    dsimp only at h ⊢
    rcases hcurrent : edgeAt edges change.key with _ | current
    · rw [hcurrent] at h
      cases h
      simp
    · rw [hcurrent] at h
      cases h
      simp only [List.append_nil]
      rfl
  · rw [houtcome] at h
    cases h
    simp
  · rw [houtcome] at h
    cases h
    simp

lemma rewriteRow_fields (edges : List StoredEdge) (now : String) (change : EdgeChange)
    (row : ProjectRecipient) :
    (rewriteRow edges now change row).canonicalProjectIdentity = row.canonicalProjectIdentity ∧
      (rewriteRow edges now change row).recipientKind = row.recipientKind ∧
      (rewriteRow edges now change row).recipientId = row.recipientId := by
  unfold rewriteRow
  split
  · split_ifs
    · exact ⟨rfl, rfl, rfl⟩
    · exact ⟨rfl, rfl, rfl⟩
  · split_ifs
    · exact ⟨rfl, rfl, rfl⟩
    · exact ⟨rfl, rfl, rfl⟩
  · exact ⟨rfl, rfl, rfl⟩

end

/-- The edges are those of stored rows: each lists identities of its own project. -/
structure EdgesOfRows (db : PolicyTables) (edges : List StoredEdge) : Prop where
  key : ∀ key edge, edgeAt edges key = some edge →
    edge.canonicalProjectIdentity = key.1 ∧ edge.recipientKind = key.2.1 ∧ edge.recipientId = key.2.2
  canonical : ∀ key edge, edgeAt edges key = some edge →
    ∀ identity ∈ edge.persistedProjectIdentities, db.canonical identity = key.1
  stored : ∀ key edge, edgeAt edges key = some edge → edge.persistedProjectIdentities ≠ []

section

variable {db : PolicyTables} {edges : List StoredEdge} {now : String} {change : EdgeChange}
variable {rows rows' : List ProjectRecipient} {key : EdgeKey}

lemma edgesOfRows_loadEdges (db : PolicyTables) (projectIds : List String) :
    EdgesOfRows db (db.loadEdges projectIds) := by
  have hloaded : ∀ key edge, edgeAt (db.loadEdges projectIds) key = some edge →
      ∃ winner, (db.groupOf (db.edgeRows projectIds) key) ≠ [] ∧
        edge = (edgeOfWinner key (db.groupOf (db.edgeRows projectIds) key) winner).toStoredEdge := by
    intro key edge hedge
    rw [edgeAt_loadEdges, Option.map_map, Option.map_eq_some_iff] at hedge
    obtain ⟨winner, hwinner, rfl⟩ := hedge
    refine ⟨winner, ?_, rfl⟩
    intro hempty
    rw [hempty] at hwinner
    cases hwinner
  constructor
  · intro key edge hedge
    obtain ⟨winner, -, rfl⟩ := hloaded key edge hedge
    exact ⟨rfl, rfl, rfl⟩
  · intro key edge hedge identity hidentity
    obtain ⟨winner, -, rfl⟩ := hloaded key edge hedge
    obtain ⟨row, hrow, rfl⟩ := List.mem_map.mp hidentity
    exact congrArg Prod.fst (of_decide_eq_true (List.mem_filter.mp hrow).2)
  · intro key edge hedge
    obtain ⟨winner, hne, rfl⟩ := hloaded key edge hedge
    simpa [edgeOfWinner] using hne

lemma reactivated_mem {edge : StoredEdge} (h : edge.persistedProjectIdentities ≠ []) :
    edge.reactivated ∈ edge.persistedProjectIdentities := by
  unfold StoredEdge.reactivated
  split_ifs with hcanonical
  · exact List.contains_iff_mem.mp hcanonical
  · obtain ⟨first, rest, hcons⟩ := List.exists_cons_of_ne_nil h
    rw [hcons]
    exact List.mem_cons_self

lemma rewriteRow_of_ne (hedges : EdgesOfRows db edges) {row : ProjectRecipient}
    (hne : db.rowKey row ≠ change.key) : rewriteRow edges now change row = row := by
  have hselected : ∀ current, edgeAt edges change.key = some current →
      ∀ identity ∈ current.persistedProjectIdentities, row.canonicalProjectIdentity = identity →
      row.recipientKind = current.recipientKind.text → row.recipientId = current.recipientId →
      False := by
    intro current hcurrent identity hidentity hrow hkind hid
    obtain ⟨-, hkey⟩ := hedges.key _ _ hcurrent
    refine hne (Prod.ext ?_ (Prod.ext ?_ ?_))
    · change db.canonical row.canonicalProjectIdentity = change.key.1
      rw [hrow]
      exact hedges.canonical _ _ hcurrent identity hidentity
    · change recipientKindOf row.recipientKind = change.key.2.1
      rw [hkind, recipientKindOf_text]
      exact hkey.1
    · exact hid.trans hkey.2
  unfold rewriteRow
  split
  · rename_i current _ hcurrent
    split_ifs with hselect
    · exfalso
      simp only [Bool.and_eq_true, beq_iff_eq] at hselect
      exact hselected current hcurrent _ (reactivated_mem (hedges.stored _ _ hcurrent))
        hselect.1.1 hselect.1.2 hselect.2
    · rfl
  · rename_i current _ hcurrent
    split_ifs with hselect
    · exfalso
      simp only [Bool.and_eq_true, beq_iff_eq, List.contains_iff_mem] at hselect
      exact hselected current hcurrent _ hselect.1.1 rfl hselect.1.2 hselect.2
    · rfl
  · rfl

lemma groupOf_applyEdgeChange (hedges : EdgesOfRows db edges)
    (hsettled : db.canonical change.canonicalProjectIdentity = change.canonicalProjectIdentity)
    (h : applyEdgeChange edges now rows change = .ok rows') (key : EdgeKey) :
    db.groupOf rows' key =
      if key = change.key then
        (db.groupOf rows key).map (rewriteRow edges now change) ++ insertedRows edges now change
      else db.groupOf rows key := by
  rw [applyEdgeChange_eq_ok h]
  unfold PolicyTables.groupOf
  have hkeep : ∀ row, db.rowKey (rewriteRow edges now change row) = db.rowKey row := by
    intro row
    obtain ⟨hidentity, hkind, hid⟩ := rewriteRow_fields edges now change row
    simp only [PolicyTables.rowKey, hidentity, hkind, hid]
  have hinserted : ∀ row ∈ insertedRows edges now change, db.rowKey row = change.key := by
    intro row hrow
    unfold insertedRows at hrow
    split at hrow
    · rw [List.mem_singleton.mp hrow]
      simp [PolicyTables.rowKey, insertedEdgeRow, hsettled, EdgeChange.key]
    · exact absurd hrow List.not_mem_nil
  have hcomp : (fun row => decide (db.rowKey row = key)) ∘ rewriteRow edges now change =
      fun row => decide (db.rowKey row = key) := by
    funext row
    simp only [Function.comp_apply, hkeep]
  rw [List.filter_append, List.filter_map, hcomp]
  split_ifs with hkey
  · congr 1
    refine List.filter_eq_self.mpr fun row hrow => ?_
    exact decide_eq_true ((hinserted row hrow).trans hkey.symm)
  · have hnone : (insertedRows edges now change).filter
        (fun row => decide (db.rowKey row = key)) = [] := by
      refine List.filter_eq_nil_iff.mpr fun row hrow hsame => hkey ?_
      exact (of_decide_eq_true hsame).symm.trans (hinserted row hrow)
    rw [hnone, List.append_nil]
    refine (List.map_congr_left fun row hrow => ?_).trans (List.map_id _)
    refine rewriteRow_of_ne hedges fun hsame => hkey ?_
    exact (of_decide_eq_true (List.mem_filter.mp hrow).2).symm.trans hsame

/-- The rows of an edge after all changes: those of a changed edge are rewritten once. -/
theorem groupOf_foldlM_applyEdgeChange (hedges : EdgesOfRows db edges) {changes : List EdgeChange}
    (hsettled : ∀ change ∈ changes,
      db.canonical change.canonicalProjectIdentity = change.canonicalProjectIdentity)
    (hdistinct : (changes.map EdgeChange.key).Nodup)
    (h : changes.foldlM (applyEdgeChange edges now) rows = .ok rows') :
    (∀ key, key ∉ changes.map EdgeChange.key → db.groupOf rows' key = db.groupOf rows key) ∧
      ∀ change ∈ changes, db.groupOf rows' change.key =
        (db.groupOf rows change.key).map (rewriteRow edges now change) ++
          insertedRows edges now change := by
  induction changes generalizing rows with
  | nil =>
    cases h
    exact ⟨fun _ _ => rfl, fun _ hmem => absurd hmem List.not_mem_nil⟩
  | cons first changes ih =>
    rw [List.foldlM_cons] at h
    obtain ⟨rows₁, hfirst, hrest⟩ := exists_of_bind_eq_ok h
    rw [List.map_cons, List.nodup_cons] at hdistinct
    have hgroup := groupOf_applyEdgeChange hedges (hsettled first List.mem_cons_self) hfirst
    obtain ⟨hother, hchanged⟩ := ih (fun change hmem => hsettled change
      (List.mem_cons_of_mem _ hmem)) hdistinct.2 hrest
    constructor
    · intro key hkey
      rw [List.map_cons, List.mem_cons, not_or] at hkey
      rw [hother key hkey.2, hgroup key, if_neg hkey.1]
    · intro change hmem
      rcases List.mem_cons.mp hmem with rfl | hmem
      · rw [hother _ hdistinct.1, hgroup, if_pos rfl]
      · have hne : change.key ≠ first.key := fun hsame => hdistinct.1
          (hsame ▸ List.mem_map_of_mem hmem)
        rw [hchanged change hmem, hgroup, if_neg hne]

end

end Codemem
