import Codemem.Recipients.EdgeCommit

/-!
# The status of an edge after a commit

The preview predicts the status of every edge of a changed project.  The row that the enforcement
reads after the commit has this status: rows of unchanged edges stay, an added edge has its row
written last or under the canonical identity, and a removed edge has no active row left.
-/

namespace Codemem

def statusAfter (changes : List EdgeChange) (edges : List StoredEdge) (key : EdgeKey) :
    Option String :=
  match rowAt EdgeChange.key key changes with
  | none => (edgeAt edges key).map StoredEdge.status
  | some change =>
    match edgeOutcome edges change with
    | .added | .alreadyPresent => some "active"
    | .removed => some "revoked"
    | .alreadyAbsent => (edgeAt edges key).map StoredEdge.status

def PolicyTables.withRecipients (db : PolicyTables) (rows : List ProjectRecipient) : PolicyTables :=
  { db with projectRecipients := rows }

/-- The rows of a changed project can be judged, and were all written before the commit. -/
structure EdgesInForm (db : PolicyTables) (now projectId : String) : Prop extends
    RowsInForm db projectId where
  settled : db.canonical projectId = projectId
  later : ∀ row ∈ db.projectRecipients, db.canonical row.canonicalProjectIdentity = projectId →
    jsLt row.updatedAt now

/-- The changes were applied, one for each edge, to rows that can be judged. -/
structure Committed (db : KeyedPolicyTables) (changes : List EdgeChange) (now : String)
    (rows : List ProjectRecipient) : Prop where
  distinct : (changes.map EdgeChange.key).Nodup
  inForm : ∀ change ∈ changes, EdgesInForm db.toPolicyTables now change.canonicalProjectIdentity
  applied : changes.foldlM (applyEdgeChange (db.loadEdges (changedProjectIds changes)) now)
    db.projectRecipients = .ok rows

/-! ### The rows that both sides read -/

section Groups

variable {db : KeyedPolicyTables} {c : String} {kind : RecipientKind} {id : String}
variable {projectIds : List String}

lemma mem_groupOf_edgeRows (hform : RowsInForm db.toPolicyTables c) (hc : c ∈ projectIds)
    {row : ProjectRecipient} :
    row ∈ db.groupOf (db.edgeRows projectIds) (c, kind, id) ↔
      row ∈ db.groupOf db.projectRecipients (c, kind, id) := by
  unfold PolicyTables.groupOf PolicyTables.edgeRows
  simp only [List.mem_filter, mem_sortByPos, decide_eq_true_eq]
  constructor
  · rintro ⟨⟨hrow, -⟩, hkey⟩
    exact ⟨hrow, hkey⟩
  · rintro ⟨hrow, hkey⟩
    have hcanonical : db.canonical row.canonicalProjectIdentity = c := congrArg Prod.fst hkey
    refine ⟨⟨hrow, List.contains_iff_mem.mpr ?_⟩, hkey⟩
    exact mem_persistedProjectIds_of_canonical hc (hform.normal row hrow hcanonical) hcanonical

lemma edgeAt_loadEdges_of_nil (hform : RowsInForm db.toPolicyTables c) (hc : c ∈ projectIds)
    (hnil : db.groupOf db.projectRecipients (c, kind, id) = []) :
    edgeAt (db.loadEdges projectIds) (c, kind, id) = none := by
  have hempty : db.groupOf (db.edgeRows projectIds) (c, kind, id) = [] := by
    refine List.eq_nil_iff_forall_not_mem.mpr fun row hrow => ?_
    have hstored := (mem_groupOf_edgeRows hform hc).mp hrow
    rw [hnil] at hstored
    exact absurd hstored List.not_mem_nil
  rw [edgeAt_loadEdges, hempty]
  rfl

lemma exists_edgeAt_loadEdges (hform : RowsInForm db.toPolicyTables c) (hc : c ∈ projectIds)
    {winner : ProjectRecipient}
    (hwinner : IsWinner (Outranks c) (db.groupOf db.projectRecipients (c, kind, id)) winner) :
    ∃ edge, edgeAt (db.loadEdges projectIds) (c, kind, id) = some edge ∧
      edge.status = winner.status ∧
      ∀ identity, identity ∈ edge.persistedProjectIdentities ↔
        ∃ row ∈ db.groupOf db.projectRecipients (c, kind, id),
          row.canonicalProjectIdentity = identity := by
  have hread : IsWinner (Outranks c) (db.groupOf (db.edgeRows projectIds) (c, kind, id)) winner :=
    ⟨(mem_groupOf_edgeRows hform hc).mpr hwinner.mem,
      fun row hrow => hwinner.beats row ((mem_groupOf_edgeRows hform hc).mp hrow)⟩
  have hpicked := foldl_pick_eq_winner (respects_takesEdge c) hread
  rw [edgeAt_loadEdges, hpicked]
  refine ⟨_, rfl, rfl, fun identity => ?_⟩
  change identity ∈ List.map _ (db.groupOf (db.edgeRows projectIds) (c, kind, id)) ↔ _
  simp only [List.mem_map, mem_groupOf_edgeRows hform hc]

end Groups

/-! ### The rows after the commit -/

section Commit

variable {db : KeyedPolicyTables} {changes : List EdgeChange} {now c id : String}
variable {rows : List ProjectRecipient} {kind : RecipientKind}

lemma Committed.groupOf_eq (h : Committed db changes now rows) (key : EdgeKey) :
    db.groupOf rows key =
      match rowAt EdgeChange.key key changes with
      | none => db.groupOf db.projectRecipients key
      | some change => (db.groupOf db.projectRecipients key).map
          (rewriteRow (db.loadEdges (changedProjectIds changes)) now change) ++
            insertedRows (db.loadEdges (changedProjectIds changes)) now change := by
  obtain ⟨hother, hchanged⟩ := groupOf_foldlM_applyEdgeChange
    (edgesOfRows_loadEdges db.toPolicyTables _) (fun change hmem => (h.inForm change hmem).settled)
    h.distinct h.applied
  rcases hchange : rowAt EdgeChange.key key changes with _ | change
  · refine hother key fun hmem => ?_
    obtain ⟨change, hchanged', hkey⟩ := List.mem_map.mp hmem
    exact rowAt_eq_none hchange hchanged' hkey
  · obtain ⟨hmem, rfl⟩ := rowAt_eq_some hchange
    exact hchanged change hmem

/-- A row of a changed project is read by the enforcement, and its kind is known. -/
structure ReadRow (db : PolicyTables) (c : String) (row : ProjectRecipient) : Prop where
  kind : row.recipientKind = "identity" ∨ row.recipientKind = "team"
  alias_mem : row.canonicalProjectIdentity ∈ db.projectAliases (db.canonical c) c

lemma Committed.readRow (h : Committed db changes now rows)
    (hc : c ∈ changes.map EdgeChange.canonicalProjectIdentity) {row : ProjectRecipient}
    (hrow : row ∈ rows) (hcanonical : db.canonical row.canonicalProjectIdentity = c) :
    ReadRow db.toPolicyTables c row := by
  obtain ⟨changed, hchanged, rfl⟩ := List.mem_map.mp hc
  have hform := h.inForm changed hchanged
  have hstored : ∀ stored ∈ db.projectRecipients,
      db.canonical stored.canonicalProjectIdentity = changed.canonicalProjectIdentity →
      ReadRow db.toPolicyTables changed.canonicalProjectIdentity stored := by
    intro stored hmem hsame
    refine ⟨hform.kinds stored hmem hsame, ?_⟩
    exact mem_projectAliases_of_canonical hform.settled (hform.normal stored hmem hsame) hsame
  have hgroup : row ∈ db.groupOf rows (db.rowKey row) :=
    List.mem_filter.mpr ⟨hrow, decide_eq_true rfl⟩
  rw [h.groupOf_eq] at hgroup
  rcases hchange : rowAt EdgeChange.key (db.rowKey row) changes with _ | change
  · rw [hchange] at hgroup
    exact hstored row (List.mem_filter.mp hgroup).1 hcanonical
  · rw [hchange] at hgroup
    rcases List.mem_append.mp hgroup with hrewritten | hinserted
    · obtain ⟨stored, hmem, rfl⟩ := List.mem_map.mp hrewritten
      obtain ⟨hidentity, hkind, -⟩ := rewriteRow_fields
        (db.loadEdges (changedProjectIds changes)) now change stored
      rw [hidentity] at hcanonical
      have hread := hstored stored (List.mem_filter.mp hmem).1 hcanonical
      constructor
      · rw [hkind]
        exact hread.kind
      · rw [hidentity]
        exact hread.alias_mem
    · unfold insertedRows at hinserted
      split at hinserted
      · obtain ⟨hmem, -⟩ := rowAt_eq_some hchange
        rw [List.mem_singleton.mp hinserted] at hcanonical ⊢
        have hsame : change.canonicalProjectIdentity = changed.canonicalProjectIdentity :=
          ((h.inForm change hmem).settled).symm.trans hcanonical
        constructor
        · unfold insertedEdgeRow
          cases change.recipientKind
          · exact .inl rfl
          · exact .inr rfl
        · simp [insertedEdgeRow, PolicyTables.projectAliases, hsame]
      · exact absurd hinserted List.not_mem_nil

lemma Committed.rowAt_eq (h : Committed db changes now rows)
    (hc : c ∈ changes.map EdgeChange.canonicalProjectIdentity) (kind : RecipientKind) (id : String) :
    ∃ group : List ProjectRecipient, (∀ row, row ∈ group ↔ row ∈ db.groupOf rows (c, kind, id)) ∧
      rowAt recipientKeyOf (kind.text, id)
          ((db.withRecipients rows).canonicalProjectRecipientRows c) =
        (group.foldl (pick (replacesRecipient c)) none).map fun row =>
          { row with canonicalProjectIdentity := c } := by
  have hsettled : db.canonical c = c := by
    obtain ⟨changed, hchanged, rfl⟩ := List.mem_map.mp hc
    exact (h.inForm changed hchanged).settled
  have hcanonical : ∀ identity, (db.withRecipients rows).canonical identity = db.canonical identity :=
    fun identity => rfl
  unfold PolicyTables.canonicalProjectRecipientRows
  dsimp only
  have hkeep : ∀ row : ProjectRecipient,
      recipientKeyOf { row with canonicalProjectIdentity := c } = recipientKeyOf row :=
    fun row => rfl
  rw [hcanonical, hsettled, rowAt_map hkeep, rowAt_winningRecipients]
  refine ⟨_, fun row => ?_, rfl⟩
  unfold PolicyTables.groupOf
  simp only [List.mem_filter, mem_sortByPos, decide_eq_true_eq, beq_iff_eq, List.contains_iff_mem,
    hcanonical]
  change (((row ∈ rows ∧ _) ∧ _) ∧ _) ↔ _
  constructor
  · rintro ⟨⟨⟨hrow, -⟩, hproject⟩, hrecipient⟩
    refine ⟨hrow, ?_⟩
    simp only [recipientKeyOf, Prod.mk.injEq] at hrecipient
    simp only [PolicyTables.rowKey, hproject, hrecipient.1, hrecipient.2, recipientKindOf_text]
  · rintro ⟨hrow, hkey⟩
    simp only [PolicyTables.rowKey, Prod.mk.injEq] at hkey
    have hread := h.readRow hc hrow hkey.1
    refine ⟨⟨⟨hrow, ?_⟩, hkey.1⟩, ?_⟩
    · have hmem := hread.alias_mem
      rw [hsettled] at hmem
      exact hmem
    · have hkind : row.recipientKind = kind.text := by
        rw [← text_recipientKindOf hread.kind, hkey.2.1]
      exact Prod.ext hkind hkey.2.2

/-- The edge is added again: the row that is written outranks the others. -/
lemma isWinner_reactivated (hform : EdgesInForm db.toPolicyTables now c) {edge : StoredEdge}
    {change : EdgeChange} (hchange : change.key = (c, kind, id)) {edges : List StoredEdge}
    (hedges : EdgesOfRows db.toPolicyTables edges)
    (hedge : edgeAt edges (c, kind, id) = some edge) (houtcome : edgeOutcome edges change = .added)
    (hlists : ∀ identity, identity ∈ edge.persistedProjectIdentities ↔
      ∃ row ∈ db.groupOf db.projectRecipients (c, kind, id),
        row.canonicalProjectIdentity = identity)
    {stored : ProjectRecipient} (hstored : stored ∈ db.groupOf db.projectRecipients (c, kind, id))
    (hidentity : stored.canonicalProjectIdentity = edge.reactivated) :
    IsWinner (Outranks c) ((db.groupOf db.projectRecipients (c, kind, id)).map
      (rewriteRow edges now change)) { stored with status := "active", updatedAt := now } := by
  obtain ⟨hproject, hkind, hid⟩ := hedges.key _ _ hedge
  have hwrite : ∀ row ∈ db.groupOf db.projectRecipients (c, kind, id),
      rewriteRow edges now change row =
        if row.canonicalProjectIdentity = edge.reactivated then
          { row with status := "active", updatedAt := now } else row := by
    intro row hrow
    obtain ⟨hmem, hkey⟩ := List.mem_filter.mp hrow
    have hkey' := of_decide_eq_true hkey
    simp only [PolicyTables.rowKey, Prod.mk.injEq] at hkey'
    have hrowKind : row.recipientKind = edge.recipientKind.text := by
      rw [hkind, ← text_recipientKindOf (hform.kinds row hmem hkey'.1), hkey'.2.1]
    have hrowId : row.recipientId = edge.recipientId := hkey'.2.2.trans hid.symm
    unfold rewriteRow
    rw [houtcome, hchange, hedge]
    simp [hrowKind, hrowId]
  constructor
  · refine List.mem_map.mpr ⟨stored, hstored, ?_⟩
    rw [hwrite stored hstored, if_pos hidentity]
  · intro written hwritten hne
    obtain ⟨row, hrow, rfl⟩ := List.mem_map.mp hwritten
    obtain ⟨hmem, hkey⟩ := List.mem_filter.mp hrow
    obtain ⟨hmem', hkey'⟩ := List.mem_filter.mp hstored
    have hcanonical : db.canonical row.canonicalProjectIdentity = c :=
      congrArg Prod.fst (of_decide_eq_true hkey)
    rw [hwrite row hrow] at hne ⊢
    have hother : row.canonicalProjectIdentity ≠ edge.reactivated := by
      intro hsame
      have hrow' : row = stored := eq_of_rowKey_of_identity hform.toRowsInForm hmem hmem' hcanonical
        ((of_decide_eq_true hkey).trans (of_decide_eq_true hkey').symm) (hsame.trans hidentity.symm)
      rw [if_pos hsame, hrow'] at hne
      exact hne rfl
    rw [if_neg hother]
    -- the row of the canonical identity is the one that is written, wherever there is one
    have hnot : row.canonicalProjectIdentity ≠ c := by
      intro hsame
      have hlisted := (hlists _).mpr ⟨row, hrow, rfl⟩
      unfold StoredEdge.reactivated at hother
      rw [hproject, ← hsame, if_pos (List.contains_iff_mem.mpr hlisted)] at hother
      exact hother rfl
    exact ⟨hnot, .inr (hform.later row hmem hcanonical)⟩

lemma status_of_removed (hform : EdgesInForm db.toPolicyTables now c) {edge : StoredEdge}
    {change : EdgeChange} (hchange : change.key = (c, kind, id)) {edges : List StoredEdge}
    (hedges : EdgesOfRows db.toPolicyTables edges)
    (hedge : edgeAt edges (c, kind, id) = some edge) (houtcome : edgeOutcome edges change = .removed)
    (hlists : ∀ identity, identity ∈ edge.persistedProjectIdentities ↔
      ∃ row ∈ db.groupOf db.projectRecipients (c, kind, id),
        row.canonicalProjectIdentity = identity) :
    ∀ row ∈ (db.groupOf db.projectRecipients (c, kind, id)).map (rewriteRow edges now change),
      row.status = "revoked" := by
  obtain ⟨-, hkind, hid⟩ := hedges.key _ _ hedge
  intro written hwritten
  obtain ⟨row, hrow, rfl⟩ := List.mem_map.mp hwritten
  obtain ⟨hmem, hkey⟩ := List.mem_filter.mp hrow
  have hkey' := of_decide_eq_true hkey
  simp only [PolicyTables.rowKey, Prod.mk.injEq] at hkey'
  have hrowKind : row.recipientKind = edge.recipientKind.text := by
    rw [hkind, ← text_recipientKindOf (hform.kinds row hmem hkey'.1), hkey'.2.1]
  have hrowId : row.recipientId = edge.recipientId := hkey'.2.2.trans hid.symm
  have hlisted := (hlists _).mpr ⟨row, hrow, rfl⟩
  unfold rewriteRow
  rw [houtcome, hchange, hedge]
  simp [hrowKind, hrowId, hlisted]

lemma writes_of_unchanged {edges : List StoredEdge} {change : EdgeChange}
    (h : edgeOutcome edges change = .alreadyPresent ∨ edgeOutcome edges change = .alreadyAbsent)
    (group : List ProjectRecipient) :
    group.map (rewriteRow edges now change) ++ insertedRows edges now change = group := by
  have hwrite : ∀ row, rewriteRow edges now change row = row := by
    intro row
    unfold rewriteRow
    rcases h with h | h
    · rw [h]
    · rw [h]
  have hinsert : insertedRows edges now change = [] := by
    unfold insertedRows
    rcases h with h | h
    · rw [h]
    · rw [h]
  rw [hinsert, List.append_nil, List.map_congr_left fun row _ => hwrite row, List.map_id']

lemma edgeOutcome_active {edges : List StoredEdge} {change : EdgeChange} :
    (edgeOutcome edges change = .removed ∨ edgeOutcome edges change = .alreadyPresent) ↔
      (edgeAt edges change.key).map StoredEdge.status = some "active" := by
  have hactive : isActiveEdge edges change.key = true ↔
      (edgeAt edges change.key).map StoredEdge.status = some "active" := by
    unfold isActiveEdge
    rcases edgeAt edges change.key with _ | edge
    · simp
    · simp
  rw [← hactive]
  unfold edgeOutcome
  cases change.action <;> cases isActiveEdge edges change.key <;> simp

/-- The row that the enforcement reads for an edge has the status that the preview predicts. -/
theorem Committed.status_eq (h : Committed db changes now rows)
    (hc : c ∈ changes.map EdgeChange.canonicalProjectIdentity) (kind : RecipientKind) (id : String) :
    (rowAt recipientKeyOf (kind.text, id)
        ((db.withRecipients rows).canonicalProjectRecipientRows c)).map ProjectRecipient.status =
      statusAfter changes (db.loadEdges (changedProjectIds changes)) (c, kind, id) := by
  obtain ⟨changed, hchanged, rfl⟩ := List.mem_map.mp hc
  have hform := h.inForm changed hchanged
  have hids : changed.canonicalProjectIdentity ∈ changedProjectIds changes := by
    unfold changedProjectIds
    exact mem_sortByPos.mpr (List.mem_eraseDups.mpr hc)
  generalize changed.canonicalProjectIdentity = c at hform hids hc
  have hedges := edgesOfRows_loadEdges db.toPolicyTables (changedProjectIds changes)
  obtain ⟨group, hgroup, hread⟩ := h.rowAt_eq hc kind id
  rw [hread, Option.map_map]
  have hwins : ∀ winner, IsWinner (Outranks c) (db.groupOf rows (c, kind, id)) winner →
      (group.foldl (pick (replacesRecipient c)) none).map ProjectRecipient.status =
        some winner.status := by
    intro winner hwinner
    have hwinner' : IsWinner (Outranks c) group winner :=
      ⟨(hgroup winner).mpr hwinner.mem, fun row hrow => hwinner.beats row ((hgroup row).mp hrow)⟩
    rw [foldl_pick_eq_winner (respects_replacesRecipient c) hwinner']
    rfl
  have hmap : (ProjectRecipient.status ∘ fun row : ProjectRecipient =>
      { row with canonicalProjectIdentity := c }) = ProjectRecipient.status := rfl
  rw [hmap]
  have hrows := h.groupOf_eq (c, kind, id)
  -- an edge whose rows are untouched keeps its status
  have hkeep : db.groupOf rows (c, kind, id) = db.groupOf db.projectRecipients (c, kind, id) →
      (group.foldl (pick (replacesRecipient c)) none).map ProjectRecipient.status =
        (edgeAt (db.loadEdges (changedProjectIds changes)) (c, kind, id)).map StoredEdge.status := by
    intro hsame
    rw [hsame] at hwins hgroup
    by_cases hnil : db.groupOf db.projectRecipients (c, kind, id) = []
    · have hempty : group = [] := by
        refine List.eq_nil_iff_forall_not_mem.mpr fun row hrow => ?_
        have hmem := (hgroup row).mp hrow
        rw [hnil] at hmem
        exact absurd hmem List.not_mem_nil
      rw [hempty, edgeAt_loadEdges_of_nil hform.toRowsInForm hids hnil]
      rfl
    · obtain ⟨winner, hwinner⟩ := exists_winner hform.toRowsInForm hnil
      obtain ⟨edge, hedge, hstatus, -⟩ :=
        exists_edgeAt_loadEdges hform.toRowsInForm hids hwinner
      rw [hwins winner hwinner, hedge, Option.map_some, hstatus]
  unfold statusAfter
  rcases hchange : rowAt EdgeChange.key (c, kind, id) changes with _ | change
  · rw [hchange] at hrows
    exact hkeep hrows
  · rw [hchange] at hrows
    obtain ⟨-, hkey⟩ := rowAt_eq_some hchange
    dsimp only at hrows ⊢
    have hactive := @edgeOutcome_active (db.loadEdges (changedProjectIds changes)) change
    rw [hkey] at hactive
    rcases houtcome : edgeOutcome (db.loadEdges (changedProjectIds changes)) change with _ | _ | _ | _
    · by_cases hnil : db.groupOf db.projectRecipients (c, kind, id) = []
      · have hnone := edgeAt_loadEdges_of_nil hform.toRowsInForm hids hnil
        have hinsert : insertedRows (db.loadEdges (changedProjectIds changes)) now change =
            [insertedEdgeRow change now] := by
          unfold insertedRows
          rw [houtcome, hkey, hnone]
        rw [hnil, hinsert, List.map_nil, List.nil_append] at hrows
        refine hwins (insertedEdgeRow change now) ?_
        rw [hrows]
        exact ⟨List.mem_cons_self, fun row hrow hne => absurd (List.mem_singleton.mp hrow) hne⟩
      · obtain ⟨winner, hwinner⟩ := exists_winner hform.toRowsInForm hnil
        obtain ⟨edge, hedge, -, hlists⟩ :=
          exists_edgeAt_loadEdges hform.toRowsInForm hids hwinner
        have hinsert : insertedRows (db.loadEdges (changedProjectIds changes)) now change = [] := by
          unfold insertedRows
          rw [houtcome, hkey, hedge]
        obtain ⟨stored, hstored, hidentity⟩ :=
          (hlists _).mp (reactivated_mem (hedges.stored _ _ hedge))
        have hwritten := isWinner_reactivated hform hkey hedges hedge houtcome hlists hstored hidentity
        rw [hinsert, List.append_nil] at hrows
        rw [← hrows] at hwritten
        exact hwins _ hwritten
    · obtain ⟨edge, hedge, -⟩ := Option.map_eq_some_iff.mp (hactive.mp (.inl houtcome))
      have hnil : db.groupOf db.projectRecipients (c, kind, id) ≠ [] := by
        intro hnil
        rw [edgeAt_loadEdges_of_nil hform.toRowsInForm hids hnil] at hedge
        cases hedge
      obtain ⟨winner, hwinner⟩ := exists_winner hform.toRowsInForm hnil
      obtain ⟨edge', hedge', -, hlists⟩ :=
        exists_edgeAt_loadEdges hform.toRowsInForm hids hwinner
      have hinsert : insertedRows (db.loadEdges (changedProjectIds changes)) now change = [] := by
        unfold insertedRows
        rw [houtcome, hkey, hedge]
      have hrevoked := status_of_removed hform hkey hedges hedge' houtcome hlists
      rw [hinsert, List.append_nil] at hrows
      rw [← hrows] at hrevoked
      have hgroupNil : group ≠ [] := by
        intro hempty
        have hmem := (hgroup (rewriteRow (db.loadEdges (changedProjectIds changes)) now change
          winner)).mpr (hrows ▸ List.mem_map_of_mem hwinner.mem)
        rw [hempty] at hmem
        exact absurd hmem List.not_mem_nil
      have hsome : ∃ row, group.foldl (pick (replacesRecipient c)) none = some row :=
        foldl_pick_isSome hgroupNil
      obtain ⟨row, hrow⟩ := hsome
      have hmem : row ∈ group := by
        rcases foldl_pick_mem hrow with hnone | hmem
        · cases hnone
        · exact hmem
      rw [hrow, Option.map_some, hrevoked row ((hgroup row).mp hmem)]
    · rw [writes_of_unchanged (.inl houtcome)] at hrows
      rw [hkeep hrows]
      exact hactive.mp (.inr houtcome)
    · rw [writes_of_unchanged (.inr houtcome)] at hrows
      exact hkeep hrows

end Commit

end Codemem
