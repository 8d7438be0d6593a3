import Codemem.Coordinator.RecipientConsumption

/-!
# What a consumption changes

A consumed invite is final but for its bootstrap grant, an enrollment keeps its key, its identity and
its admission, and a device that is enrolled or enabled anew is not revoked.  Every stage of a
consumption advances the tables along these relations.
-/

namespace Codemem

/-! ### Invite tables -/

namespace InviteTable

variable {table table' : InviteTable}

lemma rows_of_write {rows : List CoordinatorInvite} (h : write rows = .ok table') :
    table'.rows = rows := by
  unfold write at h
  split_ifs at h
  cases h
  rfl

lemma byId_eq_some {inviteId : String} {row : CoordinatorInvite}
    (h : table.byId inviteId = some row) : row ∈ table.rows ∧ row.inviteId = inviteId :=
  rowAt_eq_some h

lemma byId_of_mem {row : CoordinatorInvite} (h : row ∈ table.rows) :
    table.byId row.inviteId = some row :=
  (rowAt_eq_some_iff table.unique.ids).mpr ⟨h, rfl⟩

lemma eq_of_tokenDigest {row row' : CoordinatorInvite} {digest : String} (h : row ∈ table.rows)
    (h' : row' ∈ table.rows) (hdigest : row.tokenDigest = some digest)
    (hdigest' : row'.tokenDigest = some digest) : row = row' :=
  eq_of_nodup_filterMap table.unique.digests h h' hdigest hdigest'

lemma byId_update {selects : CoordinatorInvite → Bool}
    {set : CoordinatorInvite → CoordinatorInvite}
    (h : table.update selects set = .ok table') (hid : ∀ row, (set row).inviteId = row.inviteId)
    (inviteId : String) : table'.byId inviteId =
      (table.byId inviteId).map fun row => if selects row then set row else row := by
  unfold byId
  rw [rows_of_write h]
  exact rowAt_updateRows hid inviteId table.rows

lemma exists_update {selects : CoordinatorInvite → Bool}
    {set : CoordinatorInvite → CoordinatorInvite}
    (hset : ∀ row, (set row).inviteId = row.inviteId ∧ (set row).token = row.token ∧
      (set row).tokenDigest = row.tokenDigest ∧ (set row).operationId = row.operationId) :
    ∃ table', table.update selects set = .ok table' := by
  have hunique : InvitesUnique (updateRows selects set table.rows) := by
    unfold updateRows
    constructor
    · rw [List.map_map, column_comp_updateRows fun row => (hset row).1]
      exact table.unique.ids
    · rw [List.map_map, column_comp_updateRows fun row => (hset row).2.1]
      exact table.unique.tokens
    · rw [List.filterMap_map, column_comp_updateRows fun row => (hset row).2.2.1]
      exact table.unique.digests
    · rw [List.filterMap_map, column_comp_updateRows fun row => (hset row).2.2.2]
      exact table.unique.operations
  exact ⟨⟨_, hunique⟩, dif_pos hunique⟩

end InviteTable

/-! ### Relations -/

/-- An invite from one state to a later one: it stays in its group, once it is consumed only its
bootstrap grant and its trust state change, and a recorded grant stays. -/
structure InviteAdvances (row row' : CoordinatorInvite) : Prop where
  groupId : row'.groupId = row.groupId
  final : row.consumedAt.isSome = true →
    row' = { row with bootstrapGrantId := row'.bootstrapGrantId, trustState := row'.trustState }
  granted : row.bootstrapGrantId.isSome = true → row'.bootstrapGrantId = row.bootstrapGrantId

lemma InviteAdvances.refl (row : CoordinatorInvite) : InviteAdvances row row :=
  ⟨rfl, fun _ => rfl, fun _ => rfl⟩

lemma InviteAdvances.trans (a b c : CoordinatorInvite) (h : InviteAdvances a b)
    (h' : InviteAdvances b c) : InviteAdvances a c where
  groupId := h'.groupId.trans h.groupId
  final hconsumed := by
    have hb := h.final hconsumed
    have hc := h'.final (by rw [hb]; exact hconsumed)
    rw [hb] at hc
    exact hc
  granted hgranted := by
    have hb := h.granted hgranted
    rw [h'.granted (by rw [hb]; exact hgranted), hb]

/-- An enrollment from one state to a later one. -/
structure EnrollmentKept (row row' : EnrolledDeviceRow) : Prop where
  publicKey : row'.publicKey = row.publicKey
  fingerprint : row'.fingerprint = row.fingerprint
  identityId : ∀ identityId, row.identityId = some identityId → row'.identityId = some identityId
  enabled : row.enabled = true → row'.enabled = true

lemma EnrollmentKept.refl (row : EnrolledDeviceRow) : EnrollmentKept row row :=
  ⟨rfl, rfl, fun _ h => h, fun h => h⟩

lemma EnrollmentKept.trans (a b c : EnrolledDeviceRow) (h : EnrollmentKept a b)
    (h' : EnrollmentKept b c) : EnrollmentKept a c :=
  ⟨h'.publicKey.trans h.publicKey, h'.fingerprint.trans h.fingerprint,
    fun id hid => h'.identityId id (h.identityId id hid), fun hon => h'.enabled (h.enabled hon)⟩

namespace AdmissionTables

/-- The row was enrolled under its key before, and enabled if it is now; or it is not revoked. -/
def AdmittedFrom (primitives : SignaturePrimitives) (tables : AdmissionTables)
    (row' : EnrolledDeviceRow) : Prop :=
  (∃ row, tables.enrollment row'.groupId row'.deviceId = some row ∧
      row'.publicKey = row.publicKey ∧ (row'.enabled = true → row.enabled = true)) ∨
    tables.subjectRevoked (some row'.deviceId)
      (ed25519KeyIdForRevocation primitives row'.publicKey) = false

end AdmissionTables

/-- The tables from one state to a later one, as consumptions change them. -/
structure AdmissionAdvances (primitives : SignaturePrimitives) (before after : AdmissionTables) :
    Prop where
  invites : Evolves CoordinatorInvite.inviteId InviteAdvances before.invites.rows
    after.invites.rows
  enrollments : Evolves EnrolledDeviceRow.key EnrollmentKept before.devices.enrolledDevices
    after.devices.enrolledDevices
  admitted : ∀ groupId deviceId row', after.enrollment groupId deviceId = some row' →
    before.AdmittedFrom primitives row'
  groups : after.devices.groups = before.devices.groups
  revocations : after.devices.revocations = before.devices.revocations
  bindings : after.ownershipBindings = before.ownershipBindings
  resolutions : after.ownerResolutions = before.ownerResolutions

namespace AdmissionAdvances

variable {primitives : SignaturePrimitives} {before after later : AdmissionTables}

lemma admittedFrom_stored (groupId deviceId : String) {row : EnrolledDeviceRow}
    (h : before.enrollment groupId deviceId = some row) : before.AdmittedFrom primitives row := by
  have hkey := (rowAt_eq_some h).2
  refine .inl ⟨row, ?_, rfl, fun hon => hon⟩
  rw [show row.groupId = groupId from congrArg Prod.fst hkey,
    show row.deviceId = deviceId from congrArg Prod.snd hkey]
  exact h

lemma subjectRevoked_eq (h : AdmissionAdvances primitives before after)
    (deviceId keyId : Option String) :
    after.subjectRevoked deviceId keyId = before.subjectRevoked deviceId keyId := by
  unfold AdmissionTables.subjectRevoked
  rw [h.revocations]

lemma subjectOwned_eq (h : AdmissionAdvances primitives before after) (deviceId : String)
    (keyId : Option String) :
    after.subjectOwned deviceId keyId = before.subjectOwned deviceId keyId := by
  unfold AdmissionTables.subjectOwned
  rw [h.bindings]

lemma refl (primitives : SignaturePrimitives) (tables : AdmissionTables) :
    AdmissionAdvances primitives tables tables :=
  ⟨.refl InviteAdvances.refl _, .refl EnrollmentKept.refl _, fun groupId deviceId _ => admittedFrom_stored groupId deviceId, rfl,
    rfl, rfl, rfl⟩

lemma trans (h : AdmissionAdvances primitives before after)
    (h' : AdmissionAdvances primitives after later) :
    AdmissionAdvances primitives before later where
  invites := Evolves.trans InviteAdvances.trans h.invites h'.invites
  enrollments := Evolves.trans EnrollmentKept.trans h.enrollments h'.enrollments
  admitted groupId deviceId row' hrow' := by
    rcases h'.admitted groupId deviceId row' hrow' with ⟨row, hrow, hkey, hon⟩ | hclean
    · rcases h.admitted _ _ row hrow with ⟨first, hfirst, hkey', hon'⟩ | hclean
      · have hsame := (rowAt_eq_some hrow).2
        refine .inl ⟨first, ?_, hkey.trans hkey', fun hrow' => hon' (hon hrow')⟩
        rw [← show row.groupId = row'.groupId from congrArg Prod.fst hsame,
          ← show row.deviceId = row'.deviceId from congrArg Prod.snd hsame]
        exact hfirst
      · refine .inr ?_
        rw [hkey, ← show row.deviceId = row'.deviceId from
          congrArg Prod.snd (rowAt_eq_some hrow).2]
        exact hclean
    · refine .inr ?_
      rw [← h.subjectRevoked_eq]
      exact hclean
  groups := h'.groups.trans h.groups
  revocations := h'.revocations.trans h.revocations
  bindings := h'.bindings.trans h.bindings
  resolutions := h'.resolutions.trans h.resolutions

lemma of_invites {invites : InviteTable} (h : Evolves CoordinatorInvite.inviteId InviteAdvances
    before.invites.rows invites.rows) :
    AdmissionAdvances primitives before { before with invites := invites } :=
  ⟨h, .refl EnrollmentKept.refl _, fun groupId deviceId _ => admittedFrom_stored groupId deviceId, rfl, rfl, rfl, rfl⟩

lemma of_update {selects : CoordinatorInvite → Bool} {set : CoordinatorInvite → CoordinatorInvite}
    {invites : InviteTable} (h : before.invites.update selects set = .ok invites)
    (hid : ∀ row, (set row).inviteId = row.inviteId)
    (hset : ∀ row, selects row = true → InviteAdvances row (set row)) :
    AdmissionAdvances primitives before { before with invites := invites } := by
  refine of_invites ?_
  rw [InviteTable.rows_of_write h]
  exact .updateRows InviteAdvances.refl hid fun row _ hselects => hset row hselects

lemma of_enrolled {rows : List EnrolledDeviceRow}
    (hkept : Evolves EnrolledDeviceRow.key EnrollmentKept before.devices.enrolledDevices rows)
    (hadmitted : ∀ groupId deviceId row', (before.withEnrolled rows).enrollment groupId deviceId =
      some row' → before.AdmittedFrom primitives row') :
    AdmissionAdvances primitives before (before.withEnrolled rows) :=
  ⟨.refl InviteAdvances.refl _, hkept, hadmitted, rfl, rfl, rfl, rfl⟩

lemma of_identity {selects : EnrolledDeviceRow → Bool} {identityId : String}
    (hselects : ∀ row, selects row = true → row.identityId = none) :
    AdmissionAdvances primitives before (before.withEnrolled (updateRows selects
      (fun row => { row with identityId := some identityId }) before.devices.enrolledDevices)) := by
  refine of_enrolled (.updateRows EnrollmentKept.refl (fun _ => rfl) fun row _ hrow => ?_)
    fun groupId deviceId row' hrow' => ?_
  · exact ⟨rfl, rfl, fun id hid => absurd hid (by rw [hselects row hrow]; simp), fun hon => hon⟩
  · unfold AdmissionTables.enrollment at hrow'
    rw [AdmissionTables.withEnrolled_enrolledDevices, rowAt_updateRows] at hrow'
    · obtain ⟨row, hrow, hwritten⟩ := Option.map_eq_some_iff.mp hrow'
      have hstored : before.AdmittedFrom primitives row :=
        admittedFrom_stored groupId deviceId hrow
      split_ifs at hwritten
      · rw [← hwritten]
        exact hstored
      · rw [← hwritten]
        exact hstored
    · exact fun _ => rfl

lemma of_grants (rows : List CoordinatorBootstrapGrant) :
    AdmissionAdvances primitives before { before with bootstrapGrants := rows } :=
  ⟨.refl InviteAdvances.refl _, .refl EnrollmentKept.refl _, fun groupId deviceId _ => admittedFrom_stored groupId deviceId, rfl,
    rfl, rfl, rfl⟩

end AdmissionAdvances

/-! ### Consumptions -/

/-- A consumption keeps the digest of an invite; its token stays, or gives way to the marker when the
invite is consumed. -/
structure TokenKept (row row' : CoordinatorInvite) : Prop where
  inviteId : row'.inviteId = row.inviteId
  tokenDigest : row'.tokenDigest = row.tokenDigest
  inviterDeviceId : row'.inviterDeviceId = row.inviterDeviceId
  token : (row'.token = row.token ∧ row'.consumedAt = row.consumedAt) ∨
    (row'.token = consumedMarker row.inviteId ∧ ∃ time, row'.consumedAt = some time ∧ time ≠ "")

lemma TokenKept.refl (row : CoordinatorInvite) : TokenKept row row :=
  ⟨rfl, rfl, rfl, .inl ⟨rfl, rfl⟩⟩

lemma TokenKept.trans {a b c : CoordinatorInvite} (h : TokenKept a b) (h' : TokenKept b c) :
    TokenKept a c where
  inviteId := h'.inviteId.trans h.inviteId
  tokenDigest := h'.tokenDigest.trans h.tokenDigest
  inviterDeviceId := h'.inviterDeviceId.trans h.inviterDeviceId
  token := by
    rcases h'.token with ⟨htoken, hconsumed⟩ | hmarked
    · rw [htoken, hconsumed]
      exact h.token
    · rw [← h.inviteId]
      exact .inr hmarked

/-- The tables from one state to a later one, as consumptions change them. -/
structure ConsumptionAdvances (primitives : SignaturePrimitives) (before after : AdmissionTables) :
    Prop extends AdmissionAdvances primitives before after where
  tokens : ∀ row' ∈ after.invites.rows, ∃ row ∈ before.invites.rows, TokenKept row row'

namespace ConsumptionAdvances

variable {primitives : SignaturePrimitives} {before after later : AdmissionTables}

lemma of_sameInvites (h : AdmissionAdvances primitives before after)
    (hsame : after.invites = before.invites) : ConsumptionAdvances primitives before after :=
  ⟨h, fun row' hrow' => ⟨row', hsame ▸ hrow', .refl row'⟩⟩

lemma refl (primitives : SignaturePrimitives) (tables : AdmissionTables) :
    ConsumptionAdvances primitives tables tables :=
  of_sameInvites (.refl primitives tables) rfl

lemma trans (h : ConsumptionAdvances primitives before after)
    (h' : ConsumptionAdvances primitives after later) :
    ConsumptionAdvances primitives before later where
  toAdmissionAdvances := h.toAdmissionAdvances.trans h'.toAdmissionAdvances
  tokens row'' hrow'' := by
    obtain ⟨row', hrow', hkept'⟩ := h'.tokens row'' hrow''
    obtain ⟨row, hrow, hkept⟩ := h.tokens row' hrow'
    exact ⟨row, hrow, hkept.trans hkept'⟩

lemma of_update {selects : CoordinatorInvite → Bool} {set : CoordinatorInvite → CoordinatorInvite}
    {invites : InviteTable} (h : before.invites.update selects set = .ok invites)
    (hset : ∀ row, selects row = true → InviteAdvances row (set row))
    (htoken : ∀ row, TokenKept row (set row)) :
    ConsumptionAdvances primitives before { before with invites := invites } where
  toAdmissionAdvances := .of_update h (fun row => (htoken row).inviteId) hset
  tokens row' hrow' := by
    have hrows := InviteTable.rows_of_write h
    dsimp only at hrow'
    rw [hrows] at hrow'
    obtain ⟨row, hrow, ⟨-, hwritten⟩ | ⟨-, hkept⟩⟩ := mem_updateRows hrow'
    · exact ⟨row, hrow, hwritten ▸ htoken row⟩
    · exact ⟨row, hrow, hkept ▸ .refl row⟩

end ConsumptionAdvances

end Codemem
