import Codemem.Coordinator.InviteRuns

/-!
# Revocations are final

`createDeviceRevocation` records a device id, and the canonical id of its key, in a ledger that
nothing deletes.  It leaves the enrollment as it is: every statement that admits a request or writes
an enrollment asks the ledger.  So no run of calls admits a revoked device or key again, and none
enrolls or enables it.
-/

namespace Codemem

/-! ### The ledger -/

/-- `CoordinatorCreateDeviceRevocationInput`. -/
structure DeviceRevocationInput where
  groupId : String
  deviceId : String
  publicKey : String
  fingerprint : String
  actorId : Option String

/-- `CoordinatorCreateDeviceRevocationResult`. -/
inductive DeviceRevocationResult where
  | revoked (records : List RevocationSubject)
  | rejected (error : String)
deriving DecidableEq

/-- `captureRevocation` accepts the input. -/
def DeviceRevocationInput.isCaptured (input : DeviceRevocationInput) : Bool :=
  isAuthControllerId input.groupId && isAuthControllerId input.deviceId &&
    exactText input.publicKey && exactText input.fingerprint &&
      input.actorId.all isAuthControllerId

/-- The device id, and the id of a canonical key. -/
def revocationSubjects (primitives : SignaturePrimitives) (input : DeviceRevocationInput) :
    List RevocationSubject :=
  .deviceId input.deviceId ::
    ((ed25519KeyIdForRevocation primitives input.publicKey).map .ed25519Key).toList

namespace AdmissionTables

/-- `CURRENT_TUPLE_SQL`. -/
def hasTuple (tables : AdmissionTables) (input : DeviceRevocationInput) : Bool :=
  tables.devices.enrolledDevices.any fun row =>
    decide (row.key = (input.groupId, input.deviceId)) && row.publicKey == input.publicKey &&
      row.fingerprint == input.fingerprint

/-- The ledger with the subjects that it lacks. -/
def withRevoked (tables : AdmissionTables) (subjects : List RevocationSubject) :
    AdmissionTables :=
  let stored := tables.devices.revocations
  { tables with
    scope := { tables.scope with
      devices := { tables.scope.devices with
        revocations := stored ++ subjects.filter fun subject => !stored.contains subject } } }

def createDeviceRevocation (primitives : SignaturePrimitives) (tables : AdmissionTables)
    (input : DeviceRevocationInput) : DeviceRevocationResult × AdmissionTables :=
  if !input.isCaptured then (.rejected "invalid_input", tables)
  else if !tables.hasTuple input then (.rejected "enrollment_mismatch", tables)
  else
    let subjects := revocationSubjects primitives input
    (.revoked subjects, tables.withRevoked subjects)

end AdmissionTables

/-! ### Calls -/

/-- A call that reads the ledger or writes what an admission reads. -/
inductive AdmissionAction where
  | enrollDevice (groupId : String) (input : EnrollDeviceInput) (now : String)
  | setDeviceEnabled (groupId deviceId : String) (enabled : Bool)
  | removeDevice (groupId deviceId : String)
  | createDeviceRevocation (input : DeviceRevocationInput)
  | createInvite (opts : CoordinatorCreateInviteInput) (now : String) (draw : InviteDraw)
  | consume (input : ConsumeInput) (draw : ConsumeDraw)
  | recordAuthorizedNonce (input : AuthorizedNonceInput)

/-- The tables after a call. -/
def AdmissionTables.act (tools : InviteTools) (classify : OwnerEvidence → OwnerSubject → Bool)
    (tables : AdmissionTables) : AdmissionAction → AdmissionTables
  | .enrollDevice groupId input now => (tables.enrollDevice tools.primitives groupId input now).2
  | .setDeviceEnabled groupId deviceId enabled =>
    (tables.setDeviceEnabled tools.primitives groupId deviceId enabled).2
  | .removeDevice groupId deviceId => (tables.removeDevice groupId deviceId).2
  | .createDeviceRevocation input => (tables.createDeviceRevocation tools.primitives input).2
  | .createInvite opts now draw => (createInvite tools tables opts now draw).2
  | .consume input draw => (input.run tools classify tables draw).2
  | .recordAuthorizedNonce input =>
    match recordAuthorizedNonce tools.primitives tables.devices tables.nonces input with
    | .ok (_, nonces) => { tables with nonces := nonces }
    | .error _ => tables

/-! ### What a call keeps -/

/-- The ledger keeps its subjects, and an enrollment was there under its key, enabled if it is now,
or is not revoked. -/
structure FenceKept (primitives : SignaturePrimitives) (before after : AdmissionTables) :
    Prop where
  revocations : before.devices.revocations ⊆ after.devices.revocations
  admitted : ∀ groupId deviceId row', after.enrollment groupId deviceId = some row' →
    before.AdmittedFrom primitives row'

lemma subjectRevoked_mono {before after : AdmissionTables}
    (h : before.devices.revocations ⊆ after.devices.revocations) {deviceId keyId : Option String}
    (hrevoked : before.subjectRevoked deviceId keyId = true) :
    after.subjectRevoked deviceId keyId = true := by
  simp only [AdmissionTables.subjectRevoked, Bool.or_eq_true, Option.any_eq_true,
    List.contains_iff_mem] at hrevoked ⊢
  rcases hrevoked with ⟨id, hid, hmem⟩ | ⟨id, hid, hmem⟩
  · exact .inl ⟨id, hid, h hmem⟩
  · exact .inr ⟨id, hid, h hmem⟩

namespace FenceKept

variable {primitives : SignaturePrimitives} {before after later : AdmissionTables}

lemma of_sameEnrolled (h : before.devices.revocations ⊆ after.devices.revocations)
    (hsame : after.devices.enrolledDevices = before.devices.enrolledDevices) :
    FenceKept primitives before after := by
  refine ⟨h, fun groupId deviceId row' hrow' => ?_⟩
  unfold AdmissionTables.enrollment at hrow'
  rw [hsame] at hrow'
  exact AdmissionAdvances.admittedFrom_stored groupId deviceId hrow'

lemma refl (primitives : SignaturePrimitives) (tables : AdmissionTables) :
    FenceKept primitives tables tables :=
  of_sameEnrolled (List.Subset.refl _) rfl

lemma trans (h : FenceKept primitives before after) (h' : FenceKept primitives after later) :
    FenceKept primitives before later := by
  refine ⟨List.Subset.trans h.revocations h'.revocations, fun groupId deviceId row' hrow' => ?_⟩
  rcases h'.admitted groupId deviceId row' hrow' with ⟨row, hrow, hkey, hon⟩ | hclean
  · have hsame := (rowAt_eq_some hrow).2
    have hgroup : row.groupId = row'.groupId := congrArg Prod.fst hsame
    have hdevice : row.deviceId = row'.deviceId := congrArg Prod.snd hsame
    rcases h.admitted _ _ row hrow with ⟨first, hfirst, hkey', hon'⟩ | hclean
    · rw [hgroup, hdevice] at hfirst
      exact .inl ⟨first, hfirst, hkey.trans hkey', fun hrow' => hon' (hon hrow')⟩
    · rw [← hkey, hdevice] at hclean
      exact .inr hclean
  · refine .inr (Bool.eq_false_of_not_eq_true fun hrevoked => ?_)
    rw [subjectRevoked_mono h.revocations hrevoked] at hclean
    cases hclean

end FenceKept

namespace AdmissionTables

variable {tools : InviteTools} {primitives : SignaturePrimitives} {tables : AdmissionTables}

lemma fenceKept_enrollDevice (groupId : String) (input : EnrollDeviceInput) (now : String) :
    FenceKept primitives tables (tables.enrollDevice primitives groupId input now).2 := by
  unfold enrollDevice inTransaction
  dsimp only
  cases hresult : tables.enrollDeviceSync primitives groupId input now with
  | error error => exact .refl _ _
  | ok tables' =>
    obtain ⟨_, hrevoked, h⟩ := exists_of_bind_eq_ok hresult
    obtain ⟨_, -, h⟩ := exists_of_bind_eq_ok h
    obtain ⟨_, -, h⟩ := exists_of_bind_eq_ok h
    cases h
    refine ⟨List.Subset.refl _, fun group device row' hrow' => ?_⟩
    refine admittedFrom_insertOrUpdate ?_ ?_ ?_ hrow'
    · exact fun _ => rfl
    · exact Bool.eq_false_of_not_eq_true (not_of_rejectIf_eq_ok hrevoked)
    · exact fun _ _ => rfl

/-- A row that is enabled anew is read from the table, and the ledger lacks its subjects. -/
lemma fenceKept_withEnabled {groupId deviceId : String} {enabled : Bool}
    (hclean : ∀ row, tables.enrollment groupId deviceId = some row → enabled = true →
      tables.subjectRevoked (some deviceId)
        (ed25519KeyIdForRevocation primitives row.publicKey) = false) :
    FenceKept primitives tables (tables.withEnabled groupId deviceId enabled) := by
  refine ⟨List.Subset.refl _, fun group device row' hrow' => ?_⟩
  unfold enrollment withEnabled at hrow'
  have hkeys : ∀ row : EnrolledDeviceRow, EnrolledDeviceRow.key { row with enabled := enabled } =
      row.key := fun _ => rfl
  rw [withEnrolled_enrolledDevices, rowAt_updateRows hkeys] at hrow'
  obtain ⟨row, hrow, rfl⟩ := Option.map_eq_some_iff.mp hrow'
  have hstored : tables.AdmittedFrom primitives row :=
    AdmissionAdvances.admittedFrom_stored group device hrow
  split_ifs with hselected
  · have hkey := of_decide_eq_true hselected
    have hsame := (rowAt_eq_some hrow).2.symm.trans hkey
    cases enabled with
    | false =>
      rcases hstored with ⟨first, hfirst, hsameKey, -⟩ | hunrevoked
      · exact .inl ⟨first, hfirst, hsameKey, fun hon => nomatch hon⟩
      · exact .inr hunrevoked
    | true =>
      rw [Prod.mk.injEq] at hsame
      obtain ⟨rfl, rfl⟩ := hsame
      have hdevice : row.deviceId = device := congrArg Prod.snd hkey
      refine .inr ?_
      dsimp only
      rw [hdevice]
      exact hclean row hrow rfl
  · exact hstored

lemma fenceKept_setDeviceEnabled (groupId deviceId : String) (enabled : Bool) :
    FenceKept primitives tables (tables.setDeviceEnabled primitives groupId deviceId enabled).2 := by
  unfold setDeviceEnabled
  split
  · split
    · exact .refl _ _
    · rename_i row hrow
      dsimp only
      split_ifs with hrevoked howned
      · exact .refl _ _
      · exact .refl _ _
      · refine fenceKept_withEnabled fun row' hrow' _ => ?_
        obtain rfl := Option.some.inj (hrow.symm.trans hrow')
        exact Bool.eq_false_of_not_eq_true hrevoked
  · exact fenceKept_withEnabled fun _ _ hon => nomatch hon

lemma fenceKept_removeDevice (groupId deviceId : String) :
    FenceKept primitives tables (tables.removeDevice groupId deviceId).2 := by
  refine ⟨List.Subset.refl _, fun group device row' hrow' => ?_⟩
  refine AdmissionAdvances.admittedFrom_stored group device ?_
  have hfound : rowAt EnrolledDeviceRow.key (group, device) (tables.devices.enrolledDevices.filter
      fun row => decide (row.key ≠ (groupId, deviceId))) = some row' := hrow'
  have hkept := of_decide_eq_true (List.mem_filter.mp (rowAt_eq_some hfound).1).2
  rw [(rowAt_eq_some hfound).2] at hkept
  rw [← hfound, enrollment, rowAt, rowAt, List.find?_filter]
  refine congrArg₂ _ (funext fun row => ?_) rfl
  by_cases hkey : row.key = (group, device)
  · simp [hkey, hkept]
  · simp [hkey]

lemma fenceKept_act (classify : OwnerEvidence → OwnerSubject → Bool) (action : AdmissionAction) :
    FenceKept tools.primitives tables (tables.act tools classify action) := by
  cases action with
  | enrollDevice groupId input now => exact fenceKept_enrollDevice groupId input now
  | setDeviceEnabled groupId deviceId enabled =>
    exact fenceKept_setDeviceEnabled groupId deviceId enabled
  | removeDevice groupId deviceId => exact fenceKept_removeDevice groupId deviceId
  | createDeviceRevocation input =>
    unfold act createDeviceRevocation
    dsimp only
    split_ifs
    · exact .refl _ _
    · exact .refl _ _
    · exact .of_sameEnrolled (List.subset_append_left _ _) rfl
  | createInvite opts now draw =>
    unfold act createInvite
    dsimp only
    split
    · exact .refl _ _
    · exact .of_sameEnrolled (List.Subset.refl _) rfl
  | consume input draw =>
    unfold act
    dsimp only
    rcases hresult : input.run tools classify tables draw with ⟨error | acceptance, after⟩
    · have hsame := ConsumeInput.run_failed (congrArg Prod.fst hresult)
      rw [hresult] at hsame
      exact hsame ▸ .refl _ _
    · have hadvances := (consumed_of_run hresult).advances
      exact ⟨hadvances.revocations ▸ List.Subset.refl _, hadvances.admitted⟩
  | recordAuthorizedNonce input =>
    unfold act
    dsimp only
    split
    · exact .of_sameEnrolled (List.Subset.refl _) rfl
    · exact .refl _ _

lemma fenceKept_run (classify : OwnerEvidence → OwnerSubject → Bool)
    (actions : List AdmissionAction) :
    FenceKept tools.primitives tables (actions.foldl (act tools classify) tables) := by
  induction actions generalizing tables with
  | nil => exact .refl _ _
  | cons action actions ih => exact (fenceKept_act classify action).trans ih

end AdmissionTables

/-! ### After a revocation -/

/-- The device or the canonical key is the one that is revoked. -/
def DeviceRevocationInput.Names (primitives : SignaturePrimitives) (input : DeviceRevocationInput)
    (deviceId publicKey : String) : Prop :=
  deviceId = input.deviceId ∨ ∃ keyId, ed25519KeyIdForRevocation primitives publicKey = some keyId ∧
    ed25519KeyIdForRevocation primitives input.publicKey = some keyId

lemma subjectRevoked_withRevoked {primitives : SignaturePrimitives} {tables : AdmissionTables}
    {input : DeviceRevocationInput} {deviceId publicKey : String}
    (hnames : input.Names primitives deviceId publicKey) :
    (tables.withRevoked (revocationSubjects primitives input)).subjectRevoked (some deviceId)
      (ed25519KeyIdForRevocation primitives publicKey) = true := by
  have hmem : ∀ subject ∈ revocationSubjects primitives input,
      subject ∈ (tables.withRevoked (revocationSubjects primitives input)).devices.revocations := by
    intro subject hsubject
    by_cases hstored : subject ∈ tables.devices.revocations
    · exact List.mem_append_left _ hstored
    · exact List.mem_append_right _ (List.mem_filter.mpr ⟨hsubject, by simpa using hstored⟩)
  simp only [AdmissionTables.subjectRevoked, Bool.or_eq_true, Option.any_eq_true,
    List.contains_iff_mem]
  rcases hnames with rfl | ⟨keyId, hkey, hinput⟩
  · exact .inl ⟨_, rfl, hmem _ List.mem_cons_self⟩
  · exact .inr ⟨keyId, hkey, hmem _ (by simp [revocationSubjects, hinput])⟩

lemma not_recorded_of_revoked {primitives : SignaturePrimitives} {tables : DeviceTables}
    {stored nonces : List RequestNonceRow} {request : AuthorizedNonceInput}
    (hrevoked : tables.revoked request.deviceId
      (ed25519KeyIdForRevocation primitives request.publicKey) = true) :
    recordAuthorizedNonce primitives tables stored request ≠ .ok (.recorded, nonces) := by
  intro h
  unfold ed25519KeyIdForRevocation at hrevoked
  unfold recordAuthorizedNonce at h
  dsimp only at h
  split_ifs at h with htext hparsed hadmit
  · simp at h
  · have hadmits := (Bool.and_eq_true_iff.mp hadmit).1
    unfold DeviceTables.admitsNonce at hadmits
    rw [Bool.and_eq_true, Bool.not_eq_true'] at hadmits
    exact Bool.false_ne_true (hadmits.2.symm.trans hrevoked)
  · have hclass := congrArg Prod.fst (Except.ok.inj h)
    unfold DeviceTables.classifyNonce at hclass
    dsimp only at hclass
    rw [if_pos hrevoked] at hclass
    cases hclass

/-- Once a revocation succeeds, whatever calls follow: an enrollment of the revoked device, or of its
canonical key on any device, is one that was stored under the same key and is not enabled anew, and no
request of that device or key is admitted. -/
theorem revocation_permanent {tools : InviteTools} {classify : OwnerEvidence → OwnerSubject → Bool}
    {tables : AdmissionTables} {input : DeviceRevocationInput} {records : List RevocationSubject}
    (hrevoked : (tables.createDeviceRevocation tools.primitives input).1 = .revoked records)
    (actions : List AdmissionAction) :
    let later := actions.foldl (AdmissionTables.act tools classify)
      (tables.createDeviceRevocation tools.primitives input).2
    (∀ groupId deviceId row', later.enrollment groupId deviceId = some row' →
      input.Names tools.primitives row'.deviceId row'.publicKey →
        ∃ row, tables.enrollment groupId deviceId = some row ∧ row'.publicKey = row.publicKey ∧
          (row'.enabled = true → row.enabled = true)) ∧
      ∀ request nonces, input.Names tools.primitives request.deviceId request.publicKey →
        recordAuthorizedNonce tools.primitives later.devices later.nonces request ≠
          .ok (.recorded, nonces) := by
  intro later
  have hledger : (tables.createDeviceRevocation tools.primitives input).2 =
      tables.withRevoked (revocationSubjects tools.primitives input) := by
    unfold AdmissionTables.createDeviceRevocation at hrevoked ⊢
    split_ifs at hrevoked ⊢
    rfl
  have hkept : FenceKept tools.primitives
      (tables.withRevoked (revocationSubjects tools.primitives input)) later := by
    rw [← hledger]
    exact AdmissionTables.fenceKept_run classify actions
  constructor
  · intro groupId deviceId row' hrow' hnames
    rcases hkept.admitted groupId deviceId row' hrow' with ⟨row, hrow, hkey, hon⟩ | hclean
    · have hsame := (rowAt_eq_some hrow').2
      rw [show row'.groupId = groupId from congrArg Prod.fst hsame,
        show row'.deviceId = deviceId from congrArg Prod.snd hsame] at hrow
      exact ⟨row, hrow, hkey, hon⟩
    · rw [subjectRevoked_withRevoked hnames] at hclean
      cases hclean
  · intro request nonces hnames
    exact not_recorded_of_revoked
      (subjectRevoked_mono hkept.revocations (subjectRevoked_withRevoked hnames))

/-- A group with one enrolled device. -/
def laptopTables : AdmissionTables :=
  groupOnlyTables.withEnrolled [⟨"G", "laptop", "key", "print", none, none, true, "2026-01-01"⟩]

def laptopRevocation : DeviceRevocationInput := ⟨"G", "laptop", "key", "print", none⟩

/-- The revoked device is enabled and enrolled under another key, in vain. -/
def laptopReturns : List AdmissionAction :=
  [.setDeviceEnabled "G" "laptop" true,
    .enrollDevice "G" ⟨"laptop", "other", "print", none, none⟩ "2026-02-01"]

theorem revocation_permanent_laptop :
    let later := laptopReturns.foldl (AdmissionTables.act inviteTools fun _ _ => true)
      (laptopTables.createDeviceRevocation inviteTools.primitives laptopRevocation).2
    recordAuthorizedNonce inviteTools.primitives later.devices later.nonces
        ⟨"G", "laptop", "other", "nonce", 0⟩ ≠ .ok (.recorded, [⟨"laptop", "nonce", 0⟩]) :=
  (@revocation_permanent inviteTools (fun _ _ => true) laptopTables laptopRevocation
    [.deviceId "laptop"] (by decide +kernel) laptopReturns).2 _ _ (.inl rfl)

end Codemem
