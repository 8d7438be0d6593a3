import Codemem.Foundation.Trace
import Codemem.Coordinator.InviteRepeats

/-!
# Runs of invites

Runs that create, look up and consume invites.  A run remembers the token it issued last for each
invite, the consumptions it accepted and the bootstrap grants it issued; the promises about invites
are stated about these.
-/

namespace Codemem

/-! ### Runs -/

/-- A run so far: the tables, the token last issued for each invite, the accepted consumptions with
the ids of their invites, and the number of grants issued for each invite. -/
structure InviteRun where
  tables : AdmissionTables
  issued : String → Option String
  accepted : List (ConsumeInput × String)
  grants : String → ℕ

/-- A call of a run. -/
inductive InviteAction where
  | createInvite (opts : CoordinatorCreateInviteInput) (now : String) (draw : InviteDraw)
  | getInviteByToken (token now : String)
  | getInviteByTokenForInspection (token : String)
  | consume (input : ConsumeInput) (draw : ConsumeDraw)

/-- The run before its first call. -/
def InviteRun.initial (tables : AdmissionTables) : InviteRun := ⟨tables, fun _ => none, [], fun _ => 0⟩

def InviteRun.created (run : InviteRun) (result : Except String CoordinatorInvite × AdmissionTables) :
    InviteRun :=
  match result.1 with
  | .error _ => { run with tables := result.2 }
  | .ok invite =>
    { run with
      tables := result.2
      issued := Function.update run.issued invite.inviteId (some invite.token) }

def InviteRun.consumed (run : InviteRun) (input : ConsumeInput)
    (result : Except String InviteAcceptance × AdmissionTables) : InviteRun :=
  match result.1 with
  | .error _ => { run with tables := result.2 }
  | .ok acceptance =>
    { run with
      tables := result.2
      accepted := if acceptance.accepted then (input, acceptance.invite.inviteId) :: run.accepted
        else run.accepted
      grants := Function.update run.grants acceptance.invite.inviteId
        (run.grants acceptance.invite.inviteId +
          (result.2.bootstrapGrants.length - run.tables.bootstrapGrants.length)) }

/-- One call. -/
def InviteRun.step (tools : InviteTools) (classify : OwnerEvidence → OwnerSubject → Bool)
    (run : InviteRun) : InviteAction → InviteRun
  | .createInvite opts now draw => run.created (createInvite tools run.tables opts now draw)
  | .getInviteByToken _ _ => run
  | .getInviteByTokenForInspection _ => run
  | .consume input draw => run.consumed input (input.run tools classify run.tables draw)

/-! ### Promises -/

/-- A consumed invite keeps the device it is bound to. -/
def KeepsBindings (run run' : InviteRun) : Prop :=
  ∀ row ∈ run.tables.invites.rows, row.consumedAt.isSome = true →
    ∃ row', run'.tables.invites.byId row.inviteId = some row' ∧
      row'.boundDeviceId = row.boundDeviceId ∧ row'.boundPublicKey = row.boundPublicKey ∧
      row'.boundFingerprint = row.boundFingerprint ∧
      row'.recipientActorId = row.recipientActorId ∧ row'.consumedAt = row.consumedAt

/-- What a call has to answer: a token resolves to an invite it was last issued for, a call that fails
leaves the tables unchanged, and an accepted consumption can be repeated. -/
def KeepsPromise (tools : InviteTools) (classify : OwnerEvidence → OwnerSubject → Bool)
    (run : InviteRun) : InviteAction → Prop
  | .createInvite opts now draw =>
    ∀ error, (createInvite tools run.tables opts now draw).1 = .error error →
      (createInvite tools run.tables opts now draw).2 = run.tables
  | .getInviteByToken token now =>
    ∀ row, getInviteByToken tools run.tables.invites token now = some row →
      run.issued row.inviteId = some token
  | .getInviteByTokenForInspection token =>
    ∀ row, getInviteByTokenForInspection tools run.tables.invites token = some row →
      run.issued row.inviteId = some token
  | .consume input draw =>
    (∀ error, (input.run tools classify run.tables draw).1 = .error error →
      (input.run tools classify run.tables draw).2 = run.tables) ∧
    (∀ acceptance, (input.run tools classify run.tables draw).1 = .ok acceptance →
      run.issued acceptance.invite.inviteId = some input.token) ∧
    ∀ inviteId, (input, inviteId) ∈ run.accepted →
      ∃ acceptance after, input.run tools classify run.tables draw = (.ok acceptance, after) ∧
        acceptance.accepted = false ∧ acceptance.invite.inviteId = inviteId ∧
        ∀ group device, after.enrollment group device = run.tables.enrollment group device

/-- The promises about all calls of a run. -/
structure InvitePromises (tools : InviteTools) (classify : OwnerEvidence → OwnerSubject → Bool)
    (run : InviteRun) (actions : List InviteAction) : Prop where
  answers : StepsMeet (InviteRun.step tools classify) (KeepsPromise tools classify) run actions
  bindings : (visited (InviteRun.step tools classify) run actions).Pairwise KeepsBindings
  grants : ∀ reached ∈ visited (InviteRun.step tools classify) run actions,
    ∀ inviteId, reached.grants inviteId ≤ 1

/-- The text is not the marker that a consumed invite has for a token. -/
def NoMarker (run : InviteRun) (token : String) : Prop :=
  ∀ row ∈ run.tables.invites.rows, row.consumedAt.isSome = true →
    token ≠ consumedMarker row.inviteId

instance (run : InviteRun) (token : String) : Decidable (NoMarker run token) :=
  inferInstanceAs (Decidable (∀ row ∈ run.tables.invites.rows, row.consumedAt.isSome = true →
    token ≠ consumedMarker row.inviteId))

/-- The condition on a call: the text that is presented is no marker, and a repeat can go through. -/
def Presentable (tools : InviteTools) (classify : OwnerEvidence → OwnerSubject → Bool)
    (run : InviteRun) : InviteAction → Prop
  | .createInvite _ _ _ => True
  | .getInviteByToken token _ => NoMarker run token
  | .getInviteByTokenForInspection token => NoMarker run token
  | .consume input draw => NoMarker run input.token ∧
    ∀ inviteId row, (input, inviteId) ∈ run.accepted →
      run.tables.invites.byId inviteId = some row →
        input.Repeatable tools classify run.tables draw row

/-! ### The invariant -/

/-- A stored invite has the digest of the token that was last issued for it, and until it is consumed
the token itself. -/
structure SecretSound (tools : InviteTools) (issued : String → Option String)
    (row : CoordinatorInvite) : Prop where
  secret : ∃ token : UrlToken, issued row.inviteId = some token.text ∧
    row.tokenDigest = some (tools.tokenDigest token.text) ∧
    ((row.consumedAt = none ∧ row.token = token.text) ∨
      (row.consumedAt.isSome = true ∧ row.token = consumedMarker row.inviteId))
  dated : row.consumedAt ≠ some ""
  inviter : row.inviterDeviceId ≠ some ""

/-- What holds in every state of a run. -/
structure InviteRun.Sound (tools : InviteTools) (run : InviteRun) : Prop where
  secrets : ∀ row ∈ run.tables.invites.rows, SecretSound tools run.issued row
  accepted : ∀ input inviteId, (input, inviteId) ∈ run.accepted →
    ∃ row, run.tables.invites.byId inviteId = some row ∧ RowAccepts tools input row ∧
      TablesAccept tools.primitives run.tables row input.device ∧
      row.tokenDigest = some (tools.tokenDigest input.token)
  grants : ∀ inviteId, run.grants inviteId = 0 ∨ run.grants inviteId = 1 ∧
    ∃ row, run.tables.invites.byId inviteId = some row ∧ row.bootstrapGrantId.isSome = true

lemma SecretSound.truthy_consumedAt {tools : InviteTools} {issued : String → Option String}
    {row : CoordinatorInvite} (h : SecretSound tools issued row) :
    truthy row.consumedAt = row.consumedAt.isSome := by
  rcases hvalue : row.consumedAt with _ | value
  · rfl
  · have hne : value ≠ "" := fun hempty => h.dated (by rw [hvalue, hempty])
    unfold truthy
    rw [Option.any_some, Option.isSome_some]
    simpa using hne

lemma SecretSound.issued_of_matches {tools : InviteTools}
    (hdigest : Function.Injective tools.tokenDigest) {issued : String → Option String}
    {row : CoordinatorInvite} {token : String} (h : SecretSound tools issued row)
    (hmatches : matchesToken tools token row = true)
    (hmarker : row.consumedAt.isSome = true → token ≠ consumedMarker row.inviteId) :
    issued row.inviteId = some token ∧ row.tokenDigest = some (tools.tokenDigest token) := by
  obtain ⟨secret, hissued, hstored, hcolumn⟩ := h.secret
  unfold matchesToken at hmatches
  rw [Bool.or_eq_true, beq_iff_eq, beq_iff_eq] at hmatches
  have hsame : secret.text = token := by
    rcases hmatches with hmatches | hmatches
    · exact hdigest (Option.some.inj (hstored.symm.trans hmatches))
    · rcases hcolumn with ⟨-, htoken⟩ | ⟨hconsumed, htoken⟩
      · exact htoken.symm.trans hmatches
      · exact absurd (hmatches.symm.trans htoken) (hmarker hconsumed)
  rw [← hsame]
  exact ⟨hissued, hstored⟩

/-! ### Creating -/

section Create

variable {tools : InviteTools} {plan : InvitePlan} {invites invites' : InviteTable}

/-- What the statements of `createInvite` do: nothing, an insertion, or the renewal of an invite that
is not consumed. -/
inductive CreateOutcome (tools : InviteTools) (plan : InvitePlan) (invites : InviteTable) :
    Except String CoordinatorInvite × InviteTable → Prop where
  | failed (error : String) : CreateOutcome tools plan invites (.error error, invites)
  | existing (row : CoordinatorInvite) (hrow : row ∈ invites.rows)
      (hunused : truthy row.consumedAt = false) : CreateOutcome tools plan invites (.ok row, invites)
  | inserted (invites' : InviteTable) (hinsert : invites.insert (plan.row tools) = .ok invites') :
      CreateOutcome tools plan invites (.ok (plan.row tools), invites')
  | renewed (row : CoordinatorInvite) (invites' : InviteTable) (hrow : row ∈ invites.rows)
      (hunused : truthy row.consumedAt = false) (hrenews : plan.renews row row = true)
      (hupdate : invites.update (plan.renews row) (plan.renewed tools) = .ok invites') :
      CreateOutcome tools plan invites (.ok (plan.renewed tools row), invites')

lemma readOperationInvite_eq_some {row : CoordinatorInvite}
    (h : plan.readOperationInvite tools invites = .ok (some row)) :
    row ∈ invites.rows ∧ truthy row.consumedAt = false ∧ plan.SameIntent tools row ∧
      ∃ operationId, plan.operationId = some operationId ∧
        invites.rows.find? (fun r => r.operationId == some operationId) = some row := by
  unfold InvitePlan.readOperationInvite at h
  rcases hoperation : plan.operationId with _ | operationId
  · rw [hoperation] at h
    cases h
  · rw [hoperation, Option.bind_some] at h
    rcases hfound : invites.rows.find? (fun r => r.operationId == some operationId) with _ | found
    · rw [hfound] at h
      cases h
    · rw [hfound] at h
      dsimp only at h
      obtain ⟨_, hunused, h⟩ := exists_of_bind_eq_ok h
      obtain ⟨_, hintent, h⟩ := exists_of_bind_eq_ok h
      obtain rfl := Option.some.inj (Except.ok.inj h)
      exact ⟨List.mem_of_find?_eq_some hfound,
        Bool.eq_false_of_not_eq_true (not_of_rejectIf_eq_ok hunused),
        not_not.mp (not_of_rejectIf_eq_ok hintent), operationId, rfl, hfound⟩

lemma renewOperationInvite_outcome {row : CoordinatorInvite}
    (h : plan.readOperationInvite tools invites = .ok (some row)) :
    CreateOutcome tools plan invites (plan.renewOperationInvite tools invites row) := by
  obtain ⟨hrow, hunused, hintent, operationId, hoperation, hfound⟩ := readOperationInvite_eq_some h
  unfold InvitePlan.renewOperationInvite
  split_ifs with hcurrent
  · exact .existing row hrow hunused
  · rcases hupdate : invites.update (plan.renews row) (plan.renewed tools) with error | invites'
    · exact .failed error
    · -- the renewed invite is the one that is read back
      have hrenews : plan.renews row row = true := by
        have hop : row.operationId = some operationId := by
          simpa using List.find?_some hfound
        have hdue : row.revokedAt.isSome = true ∨ row.expiresAt ≤ plan.now := by
          rw [not_and_or, Bool.not_eq_false, not_lt] at hcurrent
          refine hcurrent.imp_left fun htruthy => ?_
          rcases hrevoked : row.revokedAt with _ | value
          · rw [hrevoked] at htruthy
            cases htruthy
          · rfl
        unfold InvitePlan.renews
        rw [hoperation, hop]
        simpa using hdue
      have hread : plan.readOperationInvite tools invites' =
          .ok (some (plan.renewed tools row)) := by
        have hfound' : invites'.rows.find? (fun r => r.operationId == some operationId) =
            some (plan.renewed tools row) := by
          rw [InviteTable.rows_of_write hupdate]
          unfold updateRows
          have hcolumn : (fun r : CoordinatorInvite => r.operationId == some operationId) ∘
              (fun r => if plan.renews row r then plan.renewed tools r else r) =
              fun r => r.operationId == some operationId := by
            funext r
            rw [Function.comp_apply]
            split_ifs
            · rfl
            · rfl
          rw [List.find?_map, hcolumn, hfound, Option.map_some, if_pos hrenews]
        have hintent' : plan.SameIntent tools (plan.renewed tools row) := hintent
        have hunused' : truthy (plan.renewed tools row).consumedAt = false := hunused
        unfold InvitePlan.readOperationInvite
        rw [hoperation, Option.bind_some, hfound']
        dsimp only
        rw [rejectIf_of_not (by rw [hunused']; simp), bind_ok,
          rejectIf_of_not (not_not.mpr hintent'), bind_ok]
      dsimp only
      rw [hread]
      exact .renewed row invites' hrow hunused hrenews hupdate

/-- The statements of `createInvite` have one of these outcomes. -/
theorem InvitePlan.run_outcome (tools : InviteTools) (plan : InvitePlan) (invites : InviteTable) :
    CreateOutcome tools plan invites (plan.run tools invites) := by
  unfold InvitePlan.run
  rcases hread : plan.readOperationInvite tools invites with error | _ | row
  · exact .failed error
  · dsimp only
    unfold InvitePlan.insertInvite
    rcases hinsert : invites.insert (plan.row tools) with error | invites'
    · dsimp only
      rw [hread]
      exact .failed error
    · have hstored : invites'.byId (plan.row tools).inviteId = some (plan.row tools) := by
        refine InviteTable.byId_of_mem ?_
        rw [InviteTable.rows_of_write hinsert]
        exact List.mem_append_right _ (List.mem_singleton_self _)
      dsimp only
      rw [hstored]
      exact .inserted invites' hinsert
  · exact renewOperationInvite_outcome hread

end Create

/-! ### Steps of creation -/

section CreateSteps

variable {tools : InviteTools} {classify : OwnerEvidence → OwnerSubject → Bool} {run : InviteRun}

lemma InviteRun.Sound.advance {tables : AdmissionTables} (h : run.Sound tools)
    (hadvances : AdmissionAdvances tools.primitives run.tables tables) :
    (∀ input inviteId, (input, inviteId) ∈ run.accepted →
      ∃ row, tables.invites.byId inviteId = some row ∧ RowAccepts tools input row ∧
        TablesAccept tools.primitives tables row input.device ∧
        row.tokenDigest = some (tools.tokenDigest input.token)) ∧
    ∀ inviteId, run.grants inviteId = 0 ∨ run.grants inviteId = 1 ∧
      ∃ row, tables.invites.byId inviteId = some row ∧ row.bootstrapGrantId.isSome = true := by
  refine ⟨fun input inviteId hmem => ?_, fun inviteId => ?_⟩
  · obtain ⟨row, hrow, haccepts, htables, hdigest⟩ := h.accepted input inviteId hmem
    obtain ⟨row', hrow', hadv⟩ := hadvances.invites inviteId row hrow
    have hfinal := hadv.final haccepts.consumed
    refine ⟨row', hrow', haccepts.advance hadv, htables.advance hadvances hadv.groupId ?_, ?_⟩
    · rw [hfinal]
    · rw [hfinal]
      exact hdigest
  · rcases h.grants inviteId with hzero | ⟨hone, row, hrow, hgranted⟩
    · exact .inl hzero
    · obtain ⟨row', hrow', hadv⟩ := hadvances.invites inviteId row hrow
      refine .inr ⟨hone, row', hrow', ?_⟩
      rw [hadv.granted hgranted]
      exact hgranted

lemma SecretSound.consumedAt_eq_none {issued : String → Option String} {row : CoordinatorInvite}
    (h : SecretSound tools issued row) (hunused : truthy row.consumedAt = false) :
    row.consumedAt = none := by
  rw [h.truthy_consumedAt] at hunused
  exact Option.not_isSome_iff_eq_none.mp (by rw [hunused]; simp)

lemma cleanText_ne_empty (value : Option String) : cleanText value ≠ some "" := by
  intro h
  have htrim := trim_of_cleanText h
  rcases value with _ | s
  · cases h
  · unfold cleanText at h
    dsimp only at h
    split_ifs at h with hblank
    rw [Option.some.inj h] at hblank
    exact hblank rfl

lemma SecretSound.of_other {issued : String → Option String} {row : CoordinatorInvite}
    {inviteId : String} {token : Option String} (h : SecretSound tools issued row)
    (hne : row.inviteId ≠ inviteId) :
    SecretSound tools (Function.update issued inviteId token) row := by
  obtain ⟨secret, hissued, hrest⟩ := h.secret
  exact ⟨⟨secret, by rw [Function.update_of_ne hne]; exact hissued, hrest⟩, h.dated, h.inviter⟩

lemma InvitePlan.ne_of_inserted {plan : InvitePlan} {invites invites' : InviteTable}
    (hinsert : invites.insert (plan.row tools) = .ok invites') {row : CoordinatorInvite}
    (hrow : row ∈ invites.rows) : row.inviteId ≠ (plan.row tools).inviteId := by
  intro hsame
  have hnodup := invites'.unique.ids
  rw [InviteTable.rows_of_write hinsert, List.map_append, List.nodup_append] at hnodup
  exact hnodup.2.2 _ (List.mem_map_of_mem hrow) _ (List.mem_map_of_mem (List.mem_singleton_self _))
    hsame

lemma InvitePlan.eq_of_renews {plan : InvitePlan} {invites : InviteTable}
    {existing row : CoordinatorInvite} (hexisting : existing ∈ invites.rows)
    (hrow : row ∈ invites.rows) (h : plan.renews existing row = true) : row = existing := by
  unfold InvitePlan.renews at h
  rw [Bool.and_eq_true, Bool.and_eq_true, beq_iff_eq] at h
  exact List.inj_on_of_nodup_map invites.unique.tokens hrow hexisting h.1.2

lemma InviteRun.Sound.existing (h : run.Sound tools) {row : CoordinatorInvite}
    (hrow : row ∈ run.tables.invites.rows) (hunused : truthy row.consumedAt = false) :
    run.created (.ok row, run.tables) = run := by
  obtain ⟨secret, hissued, -, hcolumn⟩ := (h.secrets row hrow).secret
  have hnone := (h.secrets row hrow).consumedAt_eq_none hunused
  have htoken : row.token = secret.text := by
    rcases hcolumn with ⟨-, htoken⟩ | ⟨hconsumed, -⟩
    · exact htoken
    · rw [hnone] at hconsumed
      cases hconsumed
  have hsame : Function.update run.issued row.inviteId (some row.token) = run.issued := by
    rw [htoken, ← hissued]
    exact Function.update_eq_self _ _
  unfold created
  dsimp only
  rw [hsame]

lemma InvitePlan.advances_of_inserted {plan : InvitePlan} {tables : AdmissionTables}
    {invites' : InviteTable} (hinsert : tables.invites.insert (plan.row tools) = .ok invites') :
    AdmissionAdvances tools.primitives tables { tables with invites := invites' } := by
  refine .of_invites ?_
  rw [InviteTable.rows_of_write hinsert]
  exact .append InviteAdvances.refl _

lemma InviteRun.Sound.inserted (h : run.Sound tools) {plan : InvitePlan} {invites' : InviteTable}
    (hinsert : run.tables.invites.insert (plan.row tools) = .ok invites') :
    (run.created (.ok (plan.row tools), { run.tables with invites := invites' })).Sound tools := by
  obtain ⟨haccepted, hgrants⟩ := h.advance (plan.advances_of_inserted hinsert)
  refine ⟨fun row hrow => ?_, haccepted, hgrants⟩
  have hrow' : row ∈ invites'.rows := hrow
  rw [InviteTable.rows_of_write hinsert] at hrow'
  rcases List.mem_append.mp hrow' with hold | hnew
  · exact (h.secrets row hold).of_other (plan.ne_of_inserted hinsert hold)
  · obtain rfl := List.mem_singleton.mp hnew
    refine ⟨⟨plan.draw.token, Function.update_self _ _ _, rfl, .inl ⟨rfl, rfl⟩⟩, ?_, ?_⟩
    · intro hdated
      cases hdated
    · exact cleanText_ne_empty _

lemma InvitePlan.advances_of_renewed {plan : InvitePlan} {tables : AdmissionTables}
    {invites' : InviteTable} {row : CoordinatorInvite} (hrow : row ∈ tables.invites.rows)
    (hnone : row.consumedAt = none)
    (hupdate : tables.invites.update (plan.renews row) (plan.renewed tools) = .ok invites') :
    AdmissionAdvances tools.primitives tables { tables with invites := invites' } := by
  refine .of_invites ?_
  rw [InviteTable.rows_of_write hupdate]
  refine .updateRows InviteAdvances.refl (fun _ => rfl) fun other hother hselected => ?_
  have hsame := plan.eq_of_renews hrow hother hselected
  refine ⟨rfl, fun hconsumed => ?_, fun _ => rfl⟩
  rw [hsame, hnone] at hconsumed
  cases hconsumed

lemma InviteRun.Sound.renewed (h : run.Sound tools) {plan : InvitePlan} {invites' : InviteTable}
    {row : CoordinatorInvite} (hrow : row ∈ run.tables.invites.rows)
    (hnone : row.consumedAt = none) (hrenews : plan.renews row row = true)
    (hupdate : run.tables.invites.update (plan.renews row) (plan.renewed tools) = .ok invites') :
    (run.created (.ok (plan.renewed tools row), { run.tables with invites := invites' })).Sound
      tools := by
  obtain ⟨haccepted, hgrants⟩ := h.advance (plan.advances_of_renewed hrow hnone hupdate)
  refine ⟨fun other hother => ?_, haccepted, hgrants⟩
  have hother' : other ∈ invites'.rows := hother
  have hissued : Function.update run.issued row.inviteId (some plan.draw.token.text)
      row.inviteId = some plan.draw.token.text := Function.update_self _ _ _
  rw [InviteTable.rows_of_write hupdate] at hother'
  obtain ⟨before, hbefore, ⟨hselected, hwritten⟩ | ⟨hnot, hkept⟩⟩ := mem_updateRows hother'
  · have hsame := plan.eq_of_renews hrow hbefore hselected
    rw [hwritten, hsame]
    exact ⟨⟨plan.draw.token, hissued, rfl, .inl ⟨hnone, rfl⟩⟩, (h.secrets row hrow).dated,
      (h.secrets row hrow).inviter⟩
  · -- a row that is not selected is another invite, since the renewed row selects itself
    rw [hkept]
    refine (h.secrets before hbefore).of_other fun hid => ?_
    have hsame : before = row := List.inj_on_of_nodup_map run.tables.invites.unique.ids hbefore hrow hid
    rw [hsame, hrenews] at hnot
    cases hnot

/-- What a creation leaves: a sound run, advanced tables, and the same tables when it fails. -/
structure CreateSound (tools : InviteTools) (run : InviteRun)
    (result : Except String CoordinatorInvite × AdmissionTables) : Prop where
  sound : (run.created result).Sound tools
  advances : AdmissionAdvances tools.primitives run.tables result.2
  failed : ∀ error, result.1 = .error error → result.2 = run.tables

/-- Creating an invite keeps the run sound. -/
theorem InviteRun.Sound.create (h : run.Sound tools) (opts : CoordinatorCreateInviteInput)
    (now : String) (draw : InviteDraw) :
    CreateSound tools run (createInvite tools run.tables opts now draw) := by
  rcases hplan : planInvite tools opts now draw with error | plan
  · have hresult : createInvite tools run.tables opts now draw = (.error error, run.tables) := by
      unfold createInvite
      rw [hplan]
    rw [hresult]
    exact ⟨h, .refl _ _, fun _ _ => rfl⟩
  · have hresult : createInvite tools run.tables opts now draw =
        ((plan.run tools run.tables.invites).1,
          { run.tables with invites := (plan.run tools run.tables.invites).2 }) := by
      unfold createInvite
      rw [hplan]
    rw [hresult]
    have houtcome := InvitePlan.run_outcome tools plan run.tables.invites
    generalize plan.run tools run.tables.invites = result at houtcome ⊢
    rcases houtcome with error | ⟨row, hrow, hunused⟩ | ⟨invites', hinsert⟩ |
      ⟨row, invites', hrow, hunused, hrenews, hupdate⟩
    · exact ⟨h, .refl _ _, fun _ _ => rfl⟩
    · refine ⟨?_, .refl _ _, fun _ _ => rfl⟩
      rw [show run.created (.ok row, run.tables) = run from h.existing hrow hunused]
      exact h
    · exact ⟨h.inserted hinsert, plan.advances_of_inserted hinsert, fun _ herror => by cases herror⟩
    · have hnone := (h.secrets row hrow).consumedAt_eq_none hunused
      exact ⟨h.renewed hrow hnone hrenews hupdate, plan.advances_of_renewed hrow hnone hupdate,
        fun _ herror => by cases herror⟩

end CreateSteps

/-! ### Steps of consumption -/

section ConsumeSteps

variable {tools : InviteTools} {classify : OwnerEvidence → OwnerSubject → Bool} {run : InviteRun}

lemma ConsumeInput.run_failed {tables : AdmissionTables} {draw : ConsumeDraw}
    {input : ConsumeInput} {error : String}
    (h : (input.run tools classify tables draw).1 = .error error) :
    (input.run tools classify tables draw).2 = tables := by
  have htransaction (body : AdmissionTables → Except String (Stored InviteAcceptance))
      (hbody : (inTransaction tables body).1 = .error error) :
      (inTransaction tables body).2 = tables := by
    unfold inTransaction at hbody ⊢
    rcases hresult : body tables with error' | result
    · rfl
    · rw [hresult] at hbody
      cases hbody
  rcases input with opts | opts
  · unfold run AdmissionTables.consumeProjectInvite at h ⊢
    dsimp only at h ⊢
    rcases hnow : normalizeInviteExpiresAt tools opts.now with error' | consumedAt
    · rfl
    · rw [hnow] at h
      exact htransaction _ h
  · unfold run AdmissionTables.consumeRecipientInvite at h ⊢
    dsimp only at h ⊢
    rcases hpreflight : tables.recipientPreflight tools classify opts with error' | preflight
    · rfl
    · rw [hpreflight] at h
      exact htransaction _ h

lemma SecretSound.of_tokenKept {issued : String → Option String} {row row' : CoordinatorInvite}
    (h : SecretSound tools issued row) (hkept : TokenKept row row') :
    SecretSound tools issued row' := by
  obtain ⟨secret, hissued, hstored, hcolumn⟩ := h.secret
  have hissued' : issued row'.inviteId = some secret.text := by
    rw [hkept.inviteId]
    exact hissued
  have hstored' : row'.tokenDigest = some (tools.tokenDigest secret.text) := by
    rw [hkept.tokenDigest]
    exact hstored
  have hinviter : row'.inviterDeviceId ≠ some "" := by
    rw [hkept.inviterDeviceId]
    exact h.inviter
  rcases hkept.token with ⟨htoken, hconsumed⟩ | ⟨htoken, time, hconsumed, hne⟩
  · refine ⟨⟨secret, hissued', hstored', ?_⟩, ?_, hinviter⟩
    · rw [htoken, hconsumed, hkept.inviteId]
      exact hcolumn
    · rw [hconsumed]
      exact h.dated
  · refine ⟨⟨secret, hissued', hstored', .inr ⟨?_, ?_⟩⟩, ?_, hinviter⟩
    · rw [hconsumed]
      rfl
    · rw [htoken, hkept.inviteId]
    · rw [hconsumed]
      exact fun hblank => hne (Option.some.inj hblank)

lemma InviteRun.Sound.issued_of_found (h : run.Sound tools)
    (hdigest : Function.Injective tools.tokenDigest) {token : String} {row : CoordinatorInvite}
    (hmarker : NoMarker run token) (hrow : row ∈ run.tables.invites.rows)
    (hmatches : matchesToken tools token row = true) :
    run.issued row.inviteId = some token ∧ row.tokenDigest = some (tools.tokenDigest token) :=
  (h.secrets row hrow).issued_of_matches hdigest hmatches (hmarker row hrow)

lemma InviteRun.Sound.issued_of_inspected (h : run.Sound tools)
    (hdigest : Function.Injective tools.tokenDigest) {token : String} {row : CoordinatorInvite}
    (hmarker : NoMarker run token)
    (hfound : getInviteByTokenForInspection tools run.tables.invites token = some row) :
    run.issued row.inviteId = some token ∧ row.tokenDigest = some (tools.tokenDigest token) :=
  h.issued_of_found hdigest hmarker (List.mem_of_find?_eq_some hfound) (List.find?_some hfound)

lemma InviteRun.Sound.issued_of_got (h : run.Sound tools)
    (hdigest : Function.Injective tools.tokenDigest) {token now : String}
    {row : CoordinatorInvite} (hmarker : NoMarker run token)
    (hfound : getInviteByToken tools run.tables.invites token now = some row) :
    run.issued row.inviteId = some token := by
  have hselected := List.find?_some hfound
  rw [Bool.and_eq_true, Bool.and_eq_true] at hselected
  exact (h.issued_of_found hdigest hmarker (List.mem_of_find?_eq_some hfound) hselected.1.1).1

lemma AdmissionTables.GrantsAdded.count {inviteId : String} {input : BootstrapGrantInput}
    {before after : AdmissionTables} (h : AdmissionTables.GrantsAdded inviteId input before after) :
    after.bootstrapGrants.length - before.bootstrapGrants.length = 0 ∨
      after.bootstrapGrants.length - before.bootstrapGrants.length = 1 ∧
        (∃ row, before.invites.byId inviteId = some row ∧ row.bootstrapGrantId = Option.none) ∧
        ∃ row, after.invites.byId inviteId = some row ∧ row.bootstrapGrantId.isSome = true := by
  rcases h with h | ⟨grantId, createdAt, normalized, row, row', -, hrows, hrow, hnone, hrow',
    hsome⟩
  · left
    rw [h]
    omega
  · right
    rw [hrows, List.length_append, List.length_singleton]
    exact ⟨by omega, ⟨row, hrow, hnone⟩, row', hrow', hsome⟩

lemma InviteRun.Sound.consumed (h : run.Sound tools)
    (hdigest : Function.Injective tools.tokenDigest) {input : ConsumeInput}
    {acceptance : InviteAcceptance} {after : AdmissionTables}
    (hmarker : NoMarker run input.token)
    (hconsumed : Consumed tools run.tables after input acceptance) :
    (run.consumed input (.ok acceptance, after)).Sound tools ∧
      run.issued acceptance.invite.inviteId = some input.token := by
  obtain ⟨haccepted, hgrants⟩ := h.advance hconsumed.advances.toAdmissionAdvances
  obtain ⟨found, hfound, hid⟩ := hconsumed.resolved
  obtain ⟨hissued, hfoundDigest⟩ := h.issued_of_inspected hdigest hmarker hfound
  obtain ⟨grant, -, -, hadded⟩ := hconsumed.grants
  have hstored := hconsumed.stored
  have hsavedDigest : acceptance.invite.tokenDigest = some (tools.tokenDigest input.token) := by
    obtain ⟨before, hbefore, hkept⟩ :=
      hconsumed.advances.tokens _ (InviteTable.byId_eq_some hstored).1
    have hsame : before = found :=
      List.inj_on_of_nodup_map run.tables.invites.unique.ids hbefore
        (List.mem_of_find?_eq_some hfound) (hkept.inviteId.symm.trans hid.symm)
    rw [hkept.tokenDigest, hsame]
    exact hfoundDigest
  refine ⟨⟨fun row' hrow' => ?_, fun input' inviteId hmem => ?_, fun inviteId => ?_⟩, hid ▸ hissued⟩
  · obtain ⟨row, hrow, hkept⟩ := hconsumed.advances.tokens row' hrow'
    exact (h.secrets row hrow).of_tokenKept hkept
  · change (input', inviteId) ∈ (if acceptance.accepted then
      (input, acceptance.invite.inviteId) :: run.accepted else run.accepted) at hmem
    split_ifs at hmem with hnew
    · rcases List.mem_cons.mp hmem with hhead | hold
      · obtain ⟨rfl, rfl⟩ := Prod.mk.inj hhead
        obtain ⟨hrowAccepts, htablesAccept⟩ := hconsumed.accepted hnew
        exact ⟨acceptance.invite, hstored, hrowAccepts, htablesAccept, hsavedDigest⟩
      · exact haccepted input' inviteId hold
    · exact haccepted input' inviteId hmem
  · change Function.update run.grants acceptance.invite.inviteId
        (run.grants acceptance.invite.inviteId +
          (after.bootstrapGrants.length - run.tables.bootstrapGrants.length)) inviteId = 0 ∨
      Function.update run.grants acceptance.invite.inviteId
        (run.grants acceptance.invite.inviteId +
          (after.bootstrapGrants.length - run.tables.bootstrapGrants.length)) inviteId = 1 ∧
      ∃ row, after.invites.byId inviteId = some row ∧ row.bootstrapGrantId.isSome = true
    by_cases hsame : inviteId = acceptance.invite.inviteId
    · rw [hsame, Function.update_self]
      rcases hadded.count with hzero | ⟨hone, ⟨row, hrow, hnone⟩, hafter⟩
      · rw [hzero, Nat.add_zero]
        exact hgrants _
      · -- the grant is the first one: the invite had none
        rcases h.grants acceptance.invite.inviteId with hfirst | ⟨-, row', hrow', hgranted⟩
        · rw [hone, hfirst]
          exact .inr ⟨rfl, hafter⟩
        · rw [Option.some.inj (hrow'.symm.trans hrow), hnone] at hgranted
          cases hgranted
    · rw [Function.update_of_ne hsame]
      exact hgrants inviteId

lemma InviteRun.Sound.repeats (h : run.Sound tools)
    {input : ConsumeInput} {inviteId : String} {draw : ConsumeDraw} (hmarker : NoMarker run input.token)
    (hdigest : Function.Injective tools.tokenDigest)
    (haccepted : (input, inviteId) ∈ run.accepted)
    (hrepeatable : ∀ row, run.tables.invites.byId inviteId = some row →
      input.Repeatable tools classify run.tables draw row) :
    ∃ acceptance after, input.run tools classify run.tables draw = (.ok acceptance, after) ∧
      acceptance.accepted = false ∧ acceptance.invite.inviteId = inviteId ∧
      ∀ group device, after.enrollment group device = run.tables.enrollment group device := by
  obtain ⟨row, hrow, hrowAccepts, htablesAccept, hstored⟩ := h.accepted input inviteId haccepted
  obtain ⟨hmem, hid⟩ := InviteTable.byId_eq_some hrow
  have hfound : getInviteByTokenForInspection tools run.tables.invites input.token = some row := by
    have hmatches : matchesToken tools input.token row = true := by
      unfold matchesToken
      rw [hstored]
      simp
    have hsome := List.find?_isSome.mpr ⟨row, hmem, hmatches⟩
    obtain ⟨found, hfound⟩ := Option.isSome_iff_exists.mp hsome
    obtain ⟨-, hdigest'⟩ := h.issued_of_inspected hdigest hmarker hfound
    have hsame : found = row := InviteTable.eq_of_tokenDigest (List.mem_of_find?_eq_some hfound)
      hmem hdigest' hstored
    rw [← hsame]
    exact hfound
  have hsettled : Settled tools run.tables input row := by
    refine ⟨InviteTable.byId_of_mem hmem, hrowAccepts, htablesAccept, ?_, (h.secrets row hmem).inviter⟩
    rw [(h.secrets row hmem).truthy_consumedAt]
    exact hrowAccepts.consumed
  rw [← hid]
  exact hsettled.repeats hfound (hrepeatable row hrow)

end ConsumeSteps

/-! ### Runs -/

section InviteRuns

variable {tools : InviteTools} {classify : OwnerEvidence → OwnerSubject → Bool}

lemma KeepsBindings.of_advances {primitives : SignaturePrimitives} {run run' : InviteRun}
    (h : AdmissionAdvances primitives run.tables run'.tables) : KeepsBindings run run' := by
  intro row hrow hconsumed
  obtain ⟨row', hrow', hadvances⟩ := h.invites _ row (InviteTable.byId_of_mem hrow)
  have hfinal := hadvances.final hconsumed
  refine ⟨row', hrow', ?_⟩
  rw [hfinal]
  exact ⟨rfl, rfl, rfl, rfl, rfl⟩

/-- A presentable call keeps the run sound, advances its tables and keeps its promise. -/
theorem InviteRun.Sound.step {run : InviteRun} (h : run.Sound tools)
    (hdigest : Function.Injective tools.tokenDigest) (action : InviteAction)
    (hpresentable : Presentable tools classify run action) :
    (run.step tools classify action).Sound tools ∧
      AdmissionAdvances tools.primitives run.tables (run.step tools classify action).tables ∧
      KeepsPromise tools classify run action := by
  rcases action with ⟨opts, now, draw⟩ | ⟨token, now⟩ | token | ⟨input, draw⟩
  · have hcreate := h.create opts now draw
    refine ⟨hcreate.sound, ?_, hcreate.failed⟩
    have htables : (run.step tools classify (.createInvite opts now draw)).tables =
        (createInvite tools run.tables opts now draw).2 := by
      unfold InviteRun.step InviteRun.created
      dsimp only
      rcases (createInvite tools run.tables opts now draw).1 with error | invite
      · rfl
      · rfl
    rw [htables]
    exact hcreate.advances
  · exact ⟨h, .refl _ _, fun row hfound => h.issued_of_got hdigest hpresentable hfound⟩
  · exact ⟨h, .refl _ _, fun row hfound => (h.issued_of_inspected hdigest hpresentable hfound).1⟩
  · obtain ⟨hmarker, hrepeatable⟩ := hpresentable
    have hrepeats (inviteId : String) (haccepted : (input, inviteId) ∈ run.accepted) :=
      h.repeats hmarker hdigest haccepted (hrepeatable inviteId · haccepted)
    have hfailed := fun error => @ConsumeInput.run_failed tools classify run.tables draw input error
    have hok : ∀ acceptance after,
        input.run tools classify run.tables draw = (.ok acceptance, after) →
          Consumed tools run.tables after input acceptance :=
      fun _ _ => AdmissionTables.consumed_of_run
    rcases hresult : input.run tools classify run.tables draw with ⟨error | acceptance, after⟩
    · have hstep : run.step tools classify (.consume input draw) =
          { run with tables := after } := by
        unfold InviteRun.step
        dsimp only
        rw [hresult]
        rfl
      have hsame : after = run.tables := by
        have := hfailed error (by rw [hresult])
        rw [hresult] at this
        exact this
      rw [hstep, hsame]
      refine ⟨h, .refl _ _, hfailed, fun acceptance hacceptance => ?_, hrepeats⟩
      rw [hresult] at hacceptance
      cases hacceptance
    · have hstep : run.step tools classify (.consume input draw) =
          run.consumed input (.ok acceptance, after) := by
        unfold InviteRun.step
        dsimp only
        rw [hresult]
      have hconsumed := hok acceptance after hresult
      obtain ⟨hsound, hissued⟩ := h.consumed hdigest hmarker hconsumed
      rw [hstep]
      refine ⟨hsound, hconsumed.advances.toAdmissionAdvances, hfailed,
        fun acceptance' hacceptance => ?_, hrepeats⟩
      rw [hresult] at hacceptance
      rw [← Except.ok.inj hacceptance]
      exact hissued

lemma InviteRun.sound_initial {tables : AdmissionTables} (hempty : tables.invites.rows = []) :
    (InviteRun.initial tables).Sound tools := by
  refine ⟨fun row hrow => ?_, fun input inviteId hmem => ?_, fun _ => .inl rfl⟩
  · have hrow' : row ∈ tables.invites.rows := hrow
    rw [hempty] at hrow'
    cases hrow'
  · cases hmem

/-- In a run of presentable calls a token resolves only to the invite it was last issued for, bindings
are final, a call that fails leaves the tables unchanged, and an accepted consumption can be repeated:
the repeat enrolls nothing and an invite has at most one bootstrap grant. -/
theorem invitePromises_of_presentable (tools : InviteTools)
    (classify : OwnerEvidence → OwnerSubject → Bool)
    (hdigest : Function.Injective tools.tokenDigest) (tables : AdmissionTables)
    (hempty : tables.invites.rows = []) (actions : List InviteAction)
    (hpresentable : StepsMeet (InviteRun.step tools classify) (Presentable tools classify)
      (.initial tables) actions) :
    InvitePromises tools classify (.initial tables) actions := by
  have hsound : (InviteRun.initial tables).Sound tools := InviteRun.sound_initial hempty
  have hstep (run : InviteRun) (action : InviteAction)
      (hcondition : Presentable tools classify run action) (h : run.Sound tools) :=
    h.step hdigest action hcondition
  have hadvance := hpresentable.pairwise
    (R := fun run run' => AdmissionAdvances tools.primitives run.tables run'.tables) hsound
    (fun _ _ _ => AdmissionAdvances.trans)
    fun run action hcondition h => ⟨(hstep run action hcondition h).1,
      (hstep run action hcondition h).2.1⟩
  refine ⟨?_, hadvance.2.imp KeepsBindings.of_advances, fun reached hreached inviteId => ?_⟩
  · exact (hpresentable.and_always hsound fun run action hcondition h =>
      (hstep run action hcondition h).1).imp fun run action hboth =>
        (hstep run action hboth.1 hboth.2).2.2
  · rcases (hadvance.1 reached hreached).grants inviteId with hzero | ⟨hone, -⟩
    · omega
    · omega

/-! ### A run that presents a marker -/

/-- Tools whose digests are the texts themselves, behind the name of the hash. -/
def inviteTools : InviteTools where
  primitives := ⟨fun _ => "", fun _ => [], fun _ => "", fun _ _ _ => false⟩
  tokenDigest token := "sha256:" ++ token
  fingerprintPublicKey key := "SHA256:" ++ key
  dateMillis value := if value = "2026-01-01" then some 1 else if value = "2026-02-01" then some 2
    else none
  isoString millis := if millis = 1 then "2026-01-01" else "2026-02-01"
  isoString_ne millis := by
    split_ifs
    · decide
    · decide
  reviewedIntentJson _ _ _ := .error "recipient_invite_review_unavailable"
  parseReviewedIntent _ _ _ := .error "recipient_invite_review_unavailable"

lemma inviteTools_tokenDigest_injective : Function.Injective inviteTools.tokenDigest := by
  intro token token' h
  exact String.append_right_inj _ |>.mp h

/-- A coordinator with one group and nothing else. -/
def groupOnlyTables : AdmissionTables where
  scope := ⟨⟨[⟨"G", none⟩], [], []⟩, [], [], [], []⟩
  ownershipBindings := []
  ownerResolutions := .missing
  invites := .empty
  joinRequests := []
  bootstrapGrants := []
  nonces := []

def projectInviteCreated : InviteAction :=
  .createInvite
    ⟨"G", "auto_admit", "2026-02-01", none, some "op", some "digest", none, none, none, none, none,
      some "[]", none, none, none, none, none⟩
    "2026-01-01" ⟨⟨"i1", by decide⟩, ⟨"secret", by decide⟩, ⟨"id", by decide⟩⟩

/-- Device `D` consumes it. -/
def projectInviteConsumed : InviteAction :=
  .consume (.project ⟨"secret", "op", "D", "key", "SHA256:key", "A", "Ann", "Laptop", "2026-01-01"⟩)
    ⟨⟨"g1", by decide⟩, "2026-01-01"⟩

/-- Device `D` consumes the invite, repeats that, and looks the token up again. -/
theorem invitePromises_consumed_twice : InvitePromises inviteTools (fun _ _ => false)
    (.initial groupOnlyTables) [projectInviteCreated, projectInviteConsumed, projectInviteConsumed,
      .getInviteByToken "secret" "2026-01-01"] := by
  refine invitePromises_of_presentable inviteTools (fun _ _ => false)
    inviteTools_tokenDigest_injective groupOnlyTables rfl _ ⟨trivial, ⟨?_, ?_⟩, ⟨?_, ?_⟩, ?_, trivial⟩
  · decide +kernel
  · intro inviteId row haccepted
    cases haccepted
  · decide +kernel
  · intro inviteId row haccepted hrow seed hseed
    -- the invite names no inviter, so that no device seeds the new one
    have hnone : ∀ stored ∈ (([projectInviteCreated, projectInviteConsumed].foldl
        (InviteRun.step inviteTools fun _ _ => false)
        (.initial groupOnlyTables)).tables).invites.rows, stored.inviterDeviceId = none := by
      decide +kernel
    have hinviter := hnone row (InviteTable.byId_eq_some hrow).1
    unfold AdmissionTables.seedEnrollment AdmissionTables.inviterEnrollment at hseed
    rw [hinviter] at hseed
    cases hseed
  · change NoMarker _ _
    decide +kernel

/-- A stranger who presents the marker of a consumed invite finds it: the text was issued for no
invite. -/
theorem consumedMarker_resolves : ¬ InvitePromises inviteTools (fun _ _ => false)
    (.initial groupOnlyTables) [projectInviteCreated, projectInviteConsumed,
      .getInviteByTokenForInspection "consumed:i1"] := by
  intro h
  have hanswer := h.answers.2.2.1
  have hresolves : ∃ row ∈ getInviteByTokenForInspection inviteTools
      ([projectInviteCreated, projectInviteConsumed].foldl
        (InviteRun.step inviteTools fun _ _ => false)
        (.initial groupOnlyTables)).tables.invites "consumed:i1",
      ([projectInviteCreated, projectInviteConsumed].foldl
        (InviteRun.step inviteTools fun _ _ => false)
        (.initial groupOnlyTables)).issued row.inviteId ≠ some "consumed:i1" := by
    decide +kernel
  obtain ⟨row, hfound, hnot⟩ := hresolves
  exact hnot (hanswer row hfound)

end InviteRuns

end Codemem
