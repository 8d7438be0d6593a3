import Codemem.Recipients.EdgeStatus
import Codemem.Recipients.DerivationSpec

/-!
# What an accepted preview says

The changes of an accepted preview are about distinct edges.  The desired edges are those whose
status will be active, and the preview lists exactly the devices that these edges reach.
-/

namespace Codemem

/-! ### Changes without repetitions -/

lemma nodup_of_length_le_eraseDups {α : Type*} [BEq α] [LawfulBEq α] :
    ∀ as : List α, as.eraseDups.length ≤ as.length ∧
      (as.length ≤ as.eraseDups.length → as.Nodup) := by
  intro as
  induction hlength : as.length using Nat.strong_induction_on generalizing as with
  | _ n ih =>
    subst hlength
    rcases as with _ | ⟨a, as⟩
    · simp
    · have hle : (as.filter fun b => !b == a).length ≤ as.length := List.length_filter_le _ _
      obtain ⟨hshort, -⟩ := ih _ (by rw [List.length_cons]; omega)
        (as.filter fun b => !b == a) rfl
      rw [List.eraseDups_cons, List.length_cons, List.length_cons]
      refine ⟨by omega, fun hlong => ?_⟩
      have hfilter : as.filter (fun b => !b == a) = as :=
        List.filter_eq_self.mpr fun b hb => by
          by_contra hne
          have hlt : (as.filter fun b => !b == a).length < as.length :=
            List.length_filter_lt_length_iff_exists.mpr ⟨b, hb, hne⟩
          omega
      rw [hfilter] at hlong hshort
      obtain ⟨-, hnodup⟩ := ih as.length (by rw [List.length_cons]; omega) as rfl
      refine List.nodup_cons.mpr ⟨fun hmem => ?_, hnodup (by omega)⟩
      have hkept := List.filter_eq_self.mp hfilter a hmem
      simp at hkept

lemma nodup_of_canonicalizeEdgeChanges {db : PolicyTables} {requested changes : List EdgeChange}
    (h : db.canonicalizeEdgeChanges requested = .ok changes) :
    (changes.map EdgeChange.key).Nodup := by
  unfold PolicyTables.canonicalizeEdgeChanges at h
  dsimp only at h
  split_ifs at h with hdistinct
  cases h
  refine (((perm_sortByPos _ _).map _).nodup_iff).mpr ?_
  refine (nodup_of_length_le_eraseDups _).2 ?_
  rw [List.length_map]
  omega

/-- What the checks of an accepted preview leave. -/
structure Previewed (db : PolicyTables) (preview : EdgePreview) : Prop where
  distinct : (preview.changes.map EdgeChange.key).Nodup
  edges_eq : preview.edges = db.loadEdges (changedProjectIds preview.changes)
  teams_ok : ∀ edge ∈ desiredActiveEdges preview.changes preview.edges,
    checkDesiredTeam db edge = .ok ()
  devices_ok : ∀ device ∈ db.loadDeviceFacts,
    isInvalidDirectDevice (desiredActiveEdges preview.changes preview.edges) device = false
  devices_eq : preview.effectiveDevices =
    edgeEffectiveDevices db (desiredActiveEdges preview.changes preview.edges)

lemma previewed_of_ok {projectFacts : PolicyTables → List ProjectFact}
    {digest : EdgePreviewFacts → String} {db : PolicyTables} {requested : List EdgeChange}
    {preview : EdgePreview}
    (h : previewRecipientPolicyEdges projectFacts digest db requested = .ok preview) :
    Previewed db preview := by
  unfold previewRecipientPolicyEdges at h
  rcases hparsed : parseChanges requested with _ | parsed
  · rw [hparsed] at h
    cases h
  · rw [hparsed] at h
    dsimp only at h
    unfold buildPreview at h
    obtain ⟨changes, hchanges, h⟩ := exists_of_bind_eq_ok h
    obtain ⟨projects, -, h⟩ := exists_of_bind_eq_ok h
    obtain ⟨recipients, -, h⟩ := exists_of_bind_eq_ok h
    obtain ⟨checked, hchecked, h⟩ := exists_of_bind_eq_ok h
    split_ifs at h with hinvalid
    cases h
    constructor
    · exact nodup_of_canonicalizeEdgeChanges hchanges
    · rfl
    · intro edge hedge
      obtain ⟨u, hu⟩ := exists_of_mapM_eq_ok hchecked hedge
      exact hu
    · intro device hdevice
      rw [Bool.not_eq_true, List.any_eq_false] at hinvalid
      exact Bool.eq_false_iff.mpr (hinvalid device hdevice)
    · rfl

/-! ### Desired edges -/

section Desired

variable {db : PolicyTables} {changes : List EdgeChange} {edges desired : List StoredEdge}
variable {key : EdgeKey}

def desireChange (desired : List StoredEdge) (change : EdgeChange) : List StoredEdge :=
  match change.action with
  | .remove => desired.filter fun edge => edge.key != change.key
  | .add =>
    let edge : StoredEdge := ⟨change.canonicalProjectIdentity, [change.canonicalProjectIdentity],
      change.recipientKind, change.recipientId, "active"⟩
    insertOrUpdate StoredEdge.key edge (fun _ => edge) desired

/-- A change decides about its own edge. -/
lemma exists_desireChange (change : EdgeChange) :
    (∃ edge ∈ desireChange desired change, edge.key = key) ↔
      if change.key = key then change.action = .add else ∃ edge ∈ desired, edge.key = key := by
  unfold desireChange
  rcases change.action with _ | _
  · dsimp only
    have hkey : (⟨change.canonicalProjectIdentity, [change.canonicalProjectIdentity],
      change.recipientKind, change.recipientId, "active"⟩ : StoredEdge).key = change.key := rfl
    have hread : ∀ rows : List StoredEdge, (∃ edge ∈ rows, edge.key = key) ↔
        (rowAt StoredEdge.key key rows).isSome = true := by
      intro rows
      constructor
      · rintro ⟨edge, hedge, rfl⟩
        have hfound : ∃ stored, rowAt StoredEdge.key edge.key rows = some stored :=
          exists_rowAt_of_mem hedge
        obtain ⟨stored, hstored⟩ := hfound
        rw [hstored]
        rfl
      · intro hsome
        obtain ⟨edge, hedge⟩ := Option.isSome_iff_exists.mp hsome
        exact ⟨edge, rowAt_eq_some hedge⟩
    rw [hread, rowAt_insertOrUpdate_of_key (fun stored hstored => hstored.symm), hkey]
    split_ifs with hsame hsame' hsame'
    · simp
    · exact absurd hsame.symm hsame'
    · exact absurd hsame'.symm hsame
    · exact (hread desired).symm
  · simp only [List.mem_filter, bne_iff_ne, ne_eq]
    split_ifs with hsame
    · constructor
      · rintro ⟨edge, ⟨-, hne⟩, hkey⟩
        exact absurd (hkey.trans hsame.symm) hne
      · intro h
        cases h
    · constructor
      · rintro ⟨edge, ⟨hmem, -⟩, hkey⟩
        exact ⟨edge, hmem, hkey⟩
      · rintro ⟨edge, hmem, hkey⟩
        exact ⟨edge, ⟨hmem, fun h => hsame (h.symm.trans hkey)⟩, hkey⟩

lemma exists_foldl_desireChange (hdistinct : (changes.map EdgeChange.key).Nodup) :
    (∃ edge ∈ changes.foldl desireChange desired, edge.key = key) ↔
      match rowAt EdgeChange.key key changes with
      | some change => change.action = .add
      | none => ∃ edge ∈ desired, edge.key = key := by
  induction changes generalizing desired with
  | nil => rfl
  | cons first changes ih =>
    rw [List.map_cons, List.nodup_cons] at hdistinct
    rw [List.foldl_cons, ih hdistinct.2]
    by_cases hkey : first.key = key
    · have hrest : rowAt EdgeChange.key key changes = none := by
        rcases hchange : rowAt EdgeChange.key key changes with _ | change
        · rfl
        · obtain ⟨hmem, hsame⟩ := rowAt_eq_some hchange
          exact absurd (hkey.trans hsame.symm ▸ List.mem_map_of_mem hmem) hdistinct.1
      rw [hrest, rowAt_cons, if_pos hkey]
      dsimp only
      rw [exists_desireChange, if_pos hkey]
    · rw [rowAt_cons, if_neg hkey]
      rcases rowAt EdgeChange.key key changes with _ | change
      · dsimp only
        rw [exists_desireChange, if_neg hkey]
      · rfl

lemma nodup_loadEdges (db : PolicyTables) (projectIds : List String) :
    ((db.loadEdges projectIds).map StoredEdge.key).Nodup := by
  unfold PolicyTables.loadEdges
  have hkey : ∀ (row : ProjectRecipient) (edge : LoadedEdge),
      (LoadedEdge.addRow row edge).toStoredEdge.key = edge.toStoredEdge.key := by
    intro row edge
    unfold LoadedEdge.addRow
    dsimp only
    split_ifs
    · rfl
    · rfl
  have hfold : ∀ (rows : List ProjectRecipient) (loaded : List LoadedEdge),
      (loaded.map fun edge => edge.toStoredEdge.key).Nodup →
      ((rows.foldl (fun edges row => insertOrUpdate (fun edge => edge.toStoredEdge.key)
        (db.edgeOfRow row) (LoadedEdge.addRow row) edges) loaded).map
          fun edge => edge.toStoredEdge.key).Nodup := by
    intro rows
    induction rows with
    | nil => exact fun loaded h => h
    | cons row rows ih =>
      intro loaded h
      exact ih _ (nodup_insertOrUpdate (fun stored _ => hkey row stored) h)
  rw [List.map_map]
  exact hfold _ [] List.nodup_nil

/-- The desired edges are those whose status will be active. -/
theorem exists_desiredActiveEdges_iff (hdistinct : (changes.map EdgeChange.key).Nodup)
    (hedges : (edges.map StoredEdge.key).Nodup) :
    (∃ edge ∈ desiredActiveEdges changes edges, edge.key = key) ↔
      statusAfter changes edges key = some "active" := by
  have hactive : (∃ edge ∈ edges.filter fun edge => edge.status == "active", edge.key = key) ↔
      (edgeAt edges key).map StoredEdge.status = some "active" := by
    simp only [List.mem_filter, beq_iff_eq, Option.map_eq_some_iff, edgeAt, rowAt_eq_some_iff hedges]
    constructor
    · rintro ⟨edge, ⟨hmem, hstatus⟩, hkey⟩
      exact ⟨edge, ⟨hmem, hkey⟩, hstatus⟩
    · rintro ⟨edge, ⟨hmem, hkey⟩, hstatus⟩
      exact ⟨edge, ⟨hmem, hstatus⟩, hkey⟩
  have hdesired := @exists_foldl_desireChange changes
    (edges.filter fun edge => edge.status == "active") key hdistinct
  have hunfold : (∃ edge ∈ desiredActiveEdges changes edges, edge.key = key) ↔
      ∃ edge ∈ changes.foldl desireChange (edges.filter fun edge => edge.status == "active"),
        edge.key = key := by
    unfold desiredActiveEdges
    simp only [mem_sortByPos]
    rfl
  rw [hunfold, hdesired]
  unfold statusAfter
  rcases hchange : rowAt EdgeChange.key key changes with _ | change
  · exact hactive
  · obtain ⟨-, rfl⟩ := rowAt_eq_some hchange
    have houtcome := @edgeOutcome_active edges change
    dsimp only
    rcases haction : change.action with _ | _
    · have hadd : edgeOutcome edges change = .added ∨ edgeOutcome edges change = .alreadyPresent := by
        unfold edgeOutcome
        rw [haction]
        rcases isActiveEdge edges change.key with _ | _
        · exact .inl rfl
        · exact .inr rfl
      rcases hadd with hadd | hadd
      · rw [hadd]
        simp
      · rw [hadd]
        simp
    · have hremove : edgeOutcome edges change = .removed ∨
          edgeOutcome edges change = .alreadyAbsent := by
        unfold edgeOutcome
        rw [haction]
        rcases isActiveEdge edges change.key with _ | _
        · exact .inr rfl
        · exact .inl rfl
      rcases hremove with hremove | hremove
      · rw [hremove]
        simp
      · rw [hremove] at houtcome ⊢
        dsimp only
        rw [← houtcome]
        simp

end Desired

/-! ### Devices that an edge reaches -/

section Devices

variable {db : KeyedPolicyTables} {edge : StoredEdge} {identityId deviceId : String}

/-- The pair of an identity and a device is shown for an edge. -/
def Reaches (db : PolicyTables) (edge : StoredEdge) (identityId deviceId : String) : Prop :=
  ∃ displayName, (⟨edge.canonicalProjectIdentity, identityId, deviceId, displayName⟩ :
    EdgeEffectiveDevice) ∈ edgeDevices db edge

lemma exists_device_of_mem_edgeDevices {db : PolicyTables} {shown : EdgeEffectiveDevice}
    (h : shown ∈ edgeDevices db edge) :
    shown.canonicalProjectIdentity = edge.canonicalProjectIdentity ∧
      ∃ device ∈ db.identityDevices, device.status = "active" ∧
        device.identityId = shown.identityId ∧ device.deviceId = shown.deviceId ∧
          device.displayName = shown.displayName := by
  unfold edgeDevices at h
  obtain ⟨identityId, -, h⟩ := List.mem_flatMap.mp h
  obtain ⟨device, hdevice, rfl⟩ := List.mem_map.mp h
  obtain ⟨hfact, hselected⟩ := List.mem_filter.mp hdevice
  simp only [Bool.and_eq_true, beq_iff_eq] at hselected
  refine ⟨rfl, device, ?_, hselected.1.1, hselected.1.2, rfl, rfl⟩
  exact mem_sortByPos.mp (List.mem_filter.mp hfact).1

/-- The preview lists exactly the devices that its edges reach. -/
theorem mem_edgeEffectiveDevices_iff {edges : List StoredEdge} {shown : EdgeEffectiveDevice} :
    shown ∈ edgeEffectiveDevices db.toPolicyTables edges ↔
      ∃ edge ∈ edges, shown ∈ edgeDevices db.toPolicyTables edge := by
  unfold edgeEffectiveDevices
  rw [mem_sortByPos, mem_foldl_insertOrUpdate, List.mem_flatMap]
  intro a ha b hb hkey
  obtain ⟨edge, -, ha⟩ := List.mem_flatMap.mp ha
  obtain ⟨edge', -, hb⟩ := List.mem_flatMap.mp hb
  obtain ⟨-, device, hdevice, -, hidentity, hid, hname⟩ := exists_device_of_mem_edgeDevices ha
  obtain ⟨-, device', hdevice', -, hidentity', hid', hname'⟩ := exists_device_of_mem_edgeDevices hb
  have hsame : device = device' := by
    refine List.inj_on_of_nodup_map db.deviceKeys hdevice hdevice' ?_
    rw [hid, hid']
    exact congrArg Prod.snd hkey
  subst hsame
  obtain ⟨project, identityId, deviceId, name⟩ := a
  obtain ⟨project', identityId', deviceId', name'⟩ := b
  simp only [EdgeEffectiveDevice.mk.injEq]
  exact ⟨congrArg Prod.fst hkey, hidentity.symm.trans hidentity', congrArg Prod.snd hkey,
    hname.symm.trans hname'⟩

end Devices

end Codemem
