import Codemem.Recipients.Edges
import Codemem.Foundation.Winner

/-!
# The rows of an edge

An edge may be stored under several aliases of its project.  The preview and the enforcement both
let one row decide its status: the row of the canonical identity, or the one that was written last.
Both read the rows in an order of their own, and agree where one row beats all others.
-/

namespace Codemem

/-- The policy tables with the primary keys that the database enforces. -/
structure KeyedPolicyTables extends PolicyTables where
  identityKeys : (identities.map PolicyIdentity.identityId).Nodup
  teamKeys : (teams.map PolicyTeam.teamId).Nodup
  deviceKeys : (identityDevices.map IdentityDevice.deviceId).Nodup
  recipientKeys : (projectRecipients.map ProjectRecipient.key).Nodup

/-- The edge that a stored row belongs to. -/
def PolicyTables.rowKey (db : PolicyTables) (row : ProjectRecipient) : EdgeKey :=
  (db.canonical row.canonicalProjectIdentity, recipientKindOf row.recipientKind, row.recipientId)

/-- The stored rows of an edge. -/
def PolicyTables.groupOf (db : PolicyTables) (rows : List ProjectRecipient) (key : EdgeKey) :
    List ProjectRecipient :=
  rows.filter fun row => decide (db.rowKey row = key)

/-- A row decides against another one: the other one is not the canonical row, and the row is, or
was written later. -/
def Outranks (canonicalIdentity : String) (winner row : ProjectRecipient) : Prop :=
  row.canonicalProjectIdentity ≠ canonicalIdentity ∧
    (winner.canonicalProjectIdentity = canonicalIdentity ∨ jsLt row.updatedAt winner.updatedAt)

/-- The rows of a project can be judged: their kinds are known, they are stored under normal forms,
and no two alias rows of an edge were written at one time. -/
structure RowsInForm (db : PolicyTables) (projectId : String) : Prop where
  kinds : ∀ row ∈ db.projectRecipients, db.canonical row.canonicalProjectIdentity = projectId →
    row.recipientKind = "identity" ∨ row.recipientKind = "team"
  normal : ∀ row ∈ db.projectRecipients, db.canonical row.canonicalProjectIdentity = projectId →
    normalizeRepositoryWorkspaceIdentity (some row.canonicalProjectIdentity) =
      some row.canonicalProjectIdentity
  times : ∀ row ∈ db.projectRecipients, ∀ row' ∈ db.projectRecipients,
    db.canonical row.canonicalProjectIdentity = projectId → db.rowKey row = db.rowKey row' →
    row.canonicalProjectIdentity ≠ projectId → row'.canonicalProjectIdentity ≠ projectId →
    row.updatedAt = row'.updatedAt → row = row'

/-! ### Which row decides -/

section Outranks

variable {c : String} {a b d : ProjectRecipient}

lemma Outranks.trans (h : Outranks c a b) (h' : Outranks c b d) : Outranks c a d := by
  refine ⟨h'.1, ?_⟩
  rcases h.2 with hcanonical | hlater
  · exact .inl hcanonical
  · rcases h'.2 with hb | hlater'
    · exact absurd hb h.1
    · exact .inr (lt_trans hlater' hlater)

lemma respects_replacesRecipient (c : String) : Respects (replacesRecipient c) (Outranks c) := by
  rintro a b ⟨hb, ha⟩
  unfold replacesRecipient
  rw [beq_eq_false_iff_ne.mpr hb]
  rcases ha with ha | hlater
  · simp [ha, bne_iff_ne.mpr hb]
  · have hnot : ¬ jsLt a.updatedAt b.updatedAt := lt_asymm hlater
    by_cases ha : a.canonicalProjectIdentity = c
    · simp [ha, bne_iff_ne.mpr hb]
    · simp [ha, hlater, hnot]

/-- A row takes the place of another one in the edges of a preview. -/
def takesEdge (c : String) (row current : ProjectRecipient) : Bool :=
  if current.canonicalProjectIdentity == c then false
  else row.canonicalProjectIdentity == c || decide (jsLt current.updatedAt row.updatedAt)

lemma respects_takesEdge (c : String) : Respects (takesEdge c) (Outranks c) := by
  rintro a b ⟨hb, ha⟩
  unfold takesEdge
  rw [beq_eq_false_iff_ne.mpr hb]
  rcases ha with ha | hlater
  · simp [ha]
  · have hnot : ¬ jsLt a.updatedAt b.updatedAt := lt_asymm hlater
    simp [hlater, hnot]

end Outranks

/-! ### The rows that the enforcement reads -/

section Rows

variable {db : PolicyTables} {c : String}

lemma text_recipientKindOf {text : String} (h : text = "identity" ∨ text = "team") :
    (recipientKindOf text).text = text := by
  rcases h with rfl | rfl
  · decide
  · decide

@[simp] lemma recipientKindOf_text (kind : RecipientKind) : recipientKindOf kind.text = kind := by
  cases kind <;> decide

lemma mem_map_or_eq_of_canonical {identity : String}
    (hnormal : normalizeRepositoryWorkspaceIdentity (some identity) = some identity)
    (hcanonical : db.canonical identity = c) :
    (identity, c) ∈ db.repositoryIdentities ∨ identity = c := by
  unfold PolicyTables.canonical canonicalRepositoryProjectIdentity at hcanonical
  rw [hnormal] at hcanonical
  dsimp only at hcanonical
  rcases hentry : rowAt Prod.fst identity db.repositoryIdentities with _ | entry
  · rw [RepositoryIdentities.lookup, hentry] at hcanonical
    exact .inr hcanonical
  · rw [RepositoryIdentities.lookup, hentry] at hcanonical
    obtain ⟨hmem, hkey⟩ := rowAt_eq_some hentry
    have hvalue : entry.2 = c := hcanonical
    rw [← hkey, ← hvalue]
    exact .inl hmem

lemma mem_projectAliases_of_canonical (hsettled : db.canonical c = c) {identity : String}
    (hnormal : normalizeRepositoryWorkspaceIdentity (some identity) = some identity)
    (hcanonical : db.canonical identity = c) :
    identity ∈ db.projectAliases (db.canonical c) c := by
  rw [hsettled]
  unfold PolicyTables.projectAliases
  rcases mem_map_or_eq_of_canonical hnormal hcanonical with hentry | rfl
  · refine List.mem_append_right _ (List.mem_map.mpr ⟨(identity, c), ?_, rfl⟩)
    exact List.mem_filter.mpr ⟨hentry, beq_self_eq_true c⟩
  · simp

lemma mem_persistedProjectIds_of_canonical {projectIds : List String} (hc : c ∈ projectIds)
    {identity : String}
    (hnormal : normalizeRepositoryWorkspaceIdentity (some identity) = some identity)
    (hcanonical : db.canonical identity = c) : identity ∈ db.persistedProjectIds projectIds := by
  unfold PolicyTables.persistedProjectIds
  refine List.mem_filter.mpr ⟨?_, ?_⟩
  · rcases mem_map_or_eq_of_canonical hnormal hcanonical with hentry | rfl
    · exact List.mem_append_right _ (List.mem_map_of_mem hentry)
    · exact List.mem_append_left _ hc
  · rw [hcanonical]
    exact List.contains_iff_mem.mpr hc

/-- The key under which the enforcement keeps one row. -/
def recipientKeyOf (row : ProjectRecipient) : String × String :=
  (row.recipientKind, row.recipientId)

lemma rowAt_winningRecipients (c : String) (rows : List ProjectRecipient) (k : String × String) :
    rowAt recipientKeyOf k (winningRecipients c rows) =
      (rows.filter fun row => decide (recipientKeyOf row = k)).foldl (pick (replacesRecipient c)) none := by
  unfold winningRecipients
  have hread := @rowAt_foldl_insertOrUpdate ProjectRecipient (String × String) _ recipientKeyOf
    ProjectRecipient (fun row => row)
    (fun row current => if replacesRecipient c row current then row else current)
    (fun row stored hkey => by
      split_ifs
      · exact hkey.symm
      · rfl) k rows []
  have hpick : (fun found row => some ((Option.map (fun current =>
      if replacesRecipient c row current = true then row else current) found).getD row)) =
        pick (replacesRecipient c) := by
    funext found row
    rcases found with _ | current
    · rfl
    · rfl
  rw [hpick] at hread
  exact hread

lemma mem_of_mem_winningRecipients {rows : List ProjectRecipient} {row : ProjectRecipient}
    (h : row ∈ winningRecipients c rows) : row ∈ rows := by
  have hfold : ∀ (entries kept : List ProjectRecipient),
      row ∈ entries.foldl (fun kept row => insertOrUpdate
        (fun row => (row.recipientKind, row.recipientId)) row
        (fun current => if replacesRecipient c row current then row else current) kept) kept →
      row ∈ kept ∨ row ∈ entries := by
    intro entries
    induction entries with
    | nil => exact fun kept hmem => .inl hmem
    | cons entry entries ih =>
      intro kept hmem
      rcases ih _ hmem with hkept | hmem
      · rcases mem_insertOrUpdate hkept with ⟨stored, hstored, -, rfl⟩ | ⟨stored, hstored, -, rfl⟩ | rfl
        · exact .inl hstored
        · split_ifs
          · exact .inr List.mem_cons_self
          · exact .inl hstored
        · exact .inr List.mem_cons_self
      · exact .inr (List.mem_cons_of_mem _ hmem)
  rcases hfold rows [] h with hnone | hmem
  · exact absurd hnone List.not_mem_nil
  · exact hmem

lemma nodup_canonicalProjectRecipientRows (db : PolicyTables) (projectId : String) :
    ((db.canonicalProjectRecipientRows projectId).map recipientKeyOf).Nodup := by
  have hfold : ∀ (entries kept : List ProjectRecipient), (kept.map recipientKeyOf).Nodup →
      ((entries.foldl (fun kept row => insertOrUpdate
        (fun row => (row.recipientKind, row.recipientId)) row
        (fun current => if replacesRecipient (db.canonical projectId) row current then row
          else current) kept) kept).map recipientKeyOf).Nodup := by
    intro entries
    induction entries with
    | nil => exact fun kept h => h
    | cons entry entries ih =>
      intro kept h
      refine ih _ (nodup_insertOrUpdate (fun stored hsame => ?_) h)
      split_ifs
      · exact hsame.symm
      · rfl
  unfold PolicyTables.canonicalProjectRecipientRows winningRecipients
  rw [List.map_map]
  exact hfold _ [] List.nodup_nil

end Rows

/-! ### The edges that the preview loads -/

section Edges

variable {db : PolicyTables} {c : String} {kind : RecipientKind} {id : String}

/-- The edge of a group of rows whose status a winner decides. -/
def edgeOfWinner (key : EdgeKey) (group : List ProjectRecipient) (winner : ProjectRecipient) :
    LoadedEdge where
  canonicalProjectIdentity := key.1
  persistedProjectIdentities := group.map ProjectRecipient.canonicalProjectIdentity
  recipientKind := key.2.1
  recipientId := key.2.2
  status := winner.status
  winnerProjectIdentity := winner.canonicalProjectIdentity
  winnerUpdatedAt := winner.updatedAt

lemma foldl_addRow_eq {key : EdgeKey} {group : List ProjectRecipient}
    (hgroup : ∀ row ∈ group, db.rowKey row = key) :
    group.foldl (fun found row => some ((found.map (LoadedEdge.addRow row)).getD
        (db.edgeOfRow row))) none =
      (group.foldl (pick (takesEdge key.1)) none).map (edgeOfWinner key group) := by
  induction group using List.reverseRecOn with
  | nil => rfl
  | append_singleton group row ih =>
    have hrow := hgroup row (by simp)
    rw [List.foldl_append, List.foldl_append, List.foldl_cons, List.foldl_cons, List.foldl_nil,
      List.foldl_nil, ih fun r hr => hgroup r (List.mem_append_left _ hr)]
    rcases hkept : group.foldl (pick (takesEdge key.1)) none with _ | winner
    · have hempty : group = [] := by
        by_contra hne
        have hsome : ∃ a, group.foldl (pick (takesEdge key.1)) none = some a :=
          foldl_pick_isSome hne
        obtain ⟨a, ha⟩ := hsome
        rw [hkept] at ha
        cases ha
      subst hempty
      rw [← hrow]
      rfl
    · have hloses : (edgeOfWinner key group winner).losesTo row = takesEdge key.1 row winner := rfl
      rw [Option.map_some, Option.map_some, Option.getD_some]
      unfold pick LoadedEdge.addRow
      rw [hloses]
      dsimp only
      split_ifs
      · simp [edgeOfWinner]
      · simp [edgeOfWinner]

lemma edgeAt_loadEdges (projectIds : List String) (key : EdgeKey) :
    edgeAt (db.loadEdges projectIds) key =
      (((db.groupOf (db.edgeRows projectIds) key).foldl (pick (takesEdge key.1)) none).map
        (edgeOfWinner key (db.groupOf (db.edgeRows projectIds) key))).map
          LoadedEdge.toStoredEdge := by
  have hkey : ∀ (row : ProjectRecipient) (edge : LoadedEdge),
      (LoadedEdge.addRow row edge).toStoredEdge.key = edge.toStoredEdge.key := by
    intro row edge
    unfold LoadedEdge.addRow
    dsimp only
    split_ifs
    · rfl
    · rfl
  have hread := @rowAt_foldl_insertOrUpdate LoadedEdge EdgeKey _
    (fun edge => edge.toStoredEdge.key) ProjectRecipient db.edgeOfRow LoadedEdge.addRow
    (fun row edge _ => hkey row edge) key (db.edgeRows projectIds) []
  have hgroup : ∀ row ∈ db.groupOf (db.edgeRows projectIds) key, db.rowKey row = key :=
    fun row hrow => of_decide_eq_true (List.mem_filter.mp hrow).2
  rw [← foldl_addRow_eq hgroup]
  have hmap : edgeAt (db.loadEdges projectIds) key =
      (rowAt (fun edge : LoadedEdge => edge.toStoredEdge.key) key
        ((db.edgeRows projectIds).foldl (fun edges row =>
          insertOrUpdate (fun edge => edge.toStoredEdge.key) (db.edgeOfRow row)
            (LoadedEdge.addRow row) edges) [])).map LoadedEdge.toStoredEdge := by
    unfold edgeAt PolicyTables.loadEdges
    rw [rowAt, List.find?_map]
    rfl
  rw [hmap, hread]
  rfl

end Edges

/-! ### Winners of the stored rows -/

section Winners

variable {db : KeyedPolicyTables} {c : String}

lemma eq_of_rowKey_of_identity (hform : RowsInForm db.toPolicyTables c) {row row' : ProjectRecipient}
    (hrow : row ∈ db.projectRecipients) (hrow' : row' ∈ db.projectRecipients)
    (hcanonical : db.canonical row.canonicalProjectIdentity = c) (hkey : db.rowKey row = db.rowKey row')
    (hidentity : row.canonicalProjectIdentity = row'.canonicalProjectIdentity) : row = row' := by
  have hkinds := hform.kinds row hrow hcanonical
  have hkinds' := hform.kinds row' hrow' (hidentity ▸ hcanonical)
  simp only [PolicyTables.rowKey, Prod.mk.injEq] at hkey
  have htext : row.recipientKind = row'.recipientKind := by
    rw [← text_recipientKindOf hkinds, ← text_recipientKindOf hkinds', hkey.2.1]
  refine List.inj_on_of_nodup_map db.recipientKeys hrow hrow' ?_
  simp only [ProjectRecipient.key, hidentity, htext, hkey.2.2]

lemma exists_winner (hform : RowsInForm db.toPolicyTables c) {kind : RecipientKind} {id : String}
    (hne : db.groupOf db.projectRecipients (c, kind, id) ≠ []) :
    ∃ winner, IsWinner (Outranks c) (db.groupOf db.projectRecipients (c, kind, id)) winner := by
  refine exists_isWinner (fun _ _ _ => Outranks.trans) (fun row hrow row' hrow' hdistinct => ?_) hne
  obtain ⟨hmem, hkey⟩ := List.mem_filter.mp hrow
  obtain ⟨hmem', hkey'⟩ := List.mem_filter.mp hrow'
  have hsame : db.rowKey row = db.rowKey row' :=
    (of_decide_eq_true hkey).trans (of_decide_eq_true hkey').symm
  have hcanonical : db.canonical row.canonicalProjectIdentity = c :=
    congrArg Prod.fst (of_decide_eq_true hkey)
  by_cases hc : row.canonicalProjectIdentity = c
  · refine .inl ⟨fun hc' => hdistinct ?_, .inl hc⟩
    exact eq_of_rowKey_of_identity hform hmem hmem' hcanonical hsame (hc.trans hc'.symm)
  · by_cases hc' : row'.canonicalProjectIdentity = c
    · exact .inr ⟨hc, .inl hc'⟩
    · have htimes : utf16 row.updatedAt ≠ utf16 row'.updatedAt := fun heq => hdistinct
        (hform.times row hmem row' hmem' hcanonical hsame hc hc' (utf16_injective heq))
      rcases lt_or_gt_of_ne htimes with hlt | hgt
      · exact .inr ⟨hc, .inr hlt⟩
      · exact .inl ⟨hc', .inr hgt⟩

end Winners

end Codemem
