import Codemem.Foundation.Trace
import Codemem.Text
import Mathlib.Data.Sym.Sym2

/-!
# Reciprocal approvals

Two devices of a group approve each other: the first call stores a request, and the call in the
other direction completes it.  On D1 each statement of a call runs alone, and any other call may
run between two of them; a unique index keeps one pending request for a pair.  A stage names the
next statement of a call.
-/

namespace Codemem

/-- A row of `coordinator_reciprocal_approvals`. -/
structure ReciprocalApproval where
  requestId : String
  groupId : String
  requestingDeviceId : String
  requestedDeviceId : String
  pendingPair : String × String
  completed : Bool
  createdAt : String
  resolvedAt : Option String
  deriving DecidableEq, Repr

/-- `CoordinatorCreateReciprocalApprovalInput`. -/
structure ReciprocalApprovalInput where
  groupId : String
  requestingDeviceId : String
  requestedDeviceId : String
  expectedIncomingRequestId : Option String

/-- The statement that a call runs next. -/
inductive ApprovalStage where
  | completeExpected (requestId : String)
  | readExisting
  | readReverse
  | complete (requestId : String)
  | insert
  | readSameDirection
  | readReverseAfterConflict
  | readById (requestId : String)
  deriving DecidableEq, Repr

/-- A call of `createReciprocalApproval`, with its trimmed input. -/
inductive ApprovalCall where
  | running (input : ReciprocalApprovalInput) (stage : ApprovalStage)
  | returned (input : ReciprocalApprovalInput) (request : ReciprocalApproval)
  | thrown

/-- What a statement comes to. -/
inductive StatementResult where
  | next (stage : ApprovalStage)
  | returns (request : ReciprocalApproval)
  | throws

def reciprocalPendingPair (requestingDeviceId requestedDeviceId : String) : String × String :=
  if jsLt requestedDeviceId requestingDeviceId then (requestedDeviceId, requestingDeviceId)
  else (requestingDeviceId, requestedDeviceId)

/-- A row is a request of one device to another in a group. -/
def ReciprocalApproval.isFor (row : ReciprocalApproval) (groupId requesting requested : String) :
    Bool :=
  row.groupId == groupId && row.requestingDeviceId == requesting &&
    row.requestedDeviceId == requested

/-- `SELECT … WHERE group_id = ? AND requesting_device_id = ? AND requested_device_id = ? AND
status = 'pending' ORDER BY created_at DESC LIMIT 1`. -/
def latestPending (rows : List ReciprocalApproval) (groupId requesting requested : String) :
    Option ReciprocalApproval :=
  ((rows.filter fun row => !row.completed && row.isFor groupId requesting requested).insertionSort
    fun row row' => row'.createdAt ≤ row.createdAt).head?

/-- `UPDATE … SET status = 'completed', resolved_at = ? WHERE …`. -/
def completeWhere (now : String) (where' : ReciprocalApproval → Bool)
    (rows : List ReciprocalApproval) : List ReciprocalApproval :=
  rows.map fun row => if where' row then { row with completed := true, resolvedAt := some now }
    else row

/-- The primary key or the unique index of pending pairs refuses a row. -/
def violatesUnique (rows : List ReciprocalApproval) (new : ReciprocalApproval) : Bool :=
  rows.any fun row => row.requestId == new.requestId ||
    (!row.completed && row.groupId == new.groupId && row.pendingPair == new.pendingPair)

/-- One statement of a call, with the drawn request id and the time. -/
def runStatement (requestId now : String) (input : ReciprocalApprovalInput)
    (rows : List ReciprocalApproval) : ApprovalStage → List ReciprocalApproval × StatementResult
  | .completeExpected expected =>
    let isExpected (row : ReciprocalApproval) : Bool := row.requestId == expected &&
      !row.completed && row.isFor input.groupId input.requestedDeviceId input.requestingDeviceId
    (completeWhere now isExpected rows,
      if (rows.filter isExpected).length = 1 then .next (.readById expected) else .throws)
  | .readExisting =>
    (rows, match latestPending rows input.groupId input.requestingDeviceId
        input.requestedDeviceId with
      | some existing => .returns existing
      | none => .next .readReverse)
  | .readReverse =>
    (rows, match latestPending rows input.groupId input.requestedDeviceId
        input.requestingDeviceId with
      | some reverse => .next (.complete reverse.requestId)
      | none => .next .insert)
  | .complete reverseId =>
    (completeWhere now (fun row => row.requestId == reverseId) rows, .next (.readById reverseId))
  | .insert =>
    let new : ReciprocalApproval :=
      { requestId := requestId
        groupId := input.groupId
        requestingDeviceId := input.requestingDeviceId
        requestedDeviceId := input.requestedDeviceId
        pendingPair := reciprocalPendingPair input.requestingDeviceId input.requestedDeviceId
        completed := false
        createdAt := now
        resolvedAt := none }
    if violatesUnique rows new then (rows, .next .readSameDirection)
    else (rows ++ [new], .next (.readById requestId))
  | .readSameDirection =>
    (rows, match latestPending rows input.groupId input.requestingDeviceId
        input.requestedDeviceId with
      | some sameDirection => .returns sameDirection
      | none => .next .readReverseAfterConflict)
  | .readReverseAfterConflict =>
    (rows, match latestPending rows input.groupId input.requestedDeviceId
        input.requestingDeviceId with
      | some reverse => .next (.complete reverse.requestId)
      | none => .throws)
  | .readById id =>
    (rows, match rows.find? fun row => row.requestId == id with
      | some row => .returns row
      | none => .throws)

/-- A call up to its first statement. -/
def createReciprocalApproval (input : ReciprocalApprovalInput) : ApprovalCall :=
  let trimmed : ReciprocalApprovalInput :=
    { groupId := trim input.groupId
      requestingDeviceId := trim input.requestingDeviceId
      requestedDeviceId := trim input.requestedDeviceId
      expectedIncomingRequestId := input.expectedIncomingRequestId.map trim }
  if trimmed.groupId = "" ∨ trimmed.requestingDeviceId = "" ∨ trimmed.requestedDeviceId = "" then
    .thrown
  else if trimmed.requestingDeviceId = trimmed.requestedDeviceId then .thrown
  else
    match trimmed.expectedIncomingRequestId with
    | some expected => .running trimmed (.completeExpected expected)
    | none => .running trimmed .readExisting

/-- The table and the calls. -/
structure ApprovalSystem where
  rows : List ReciprocalApproval
  calls : ℕ → Option ApprovalCall

/-- A call begins, or runs its next statement. -/
inductive ApprovalAction where
  | start (call : ℕ) (input : ReciprocalApprovalInput)
  | run (call : ℕ) (requestId now : String)

def ApprovalCall.after (input : ReciprocalApprovalInput) : StatementResult → ApprovalCall
  | .next stage => .running input stage
  | .returns request => .returned input request
  | .throws => .thrown

def approvalStep (s : ApprovalSystem) : ApprovalAction → ApprovalSystem
  | .start call input =>
    if (s.calls call).isSome then s
    else { s with calls := Function.update s.calls call (some (createReciprocalApproval input)) }
  | .run call requestId now =>
    match s.calls call with
    | some (.running input stage) =>
      let ran := runStatement requestId now input s.rows stage
      { rows := ran.1
        calls := Function.update s.calls call (some (ApprovalCall.after input ran.2)) }
    | _ => s

/-- A table as the schema keeps it. -/
structure ValidApprovals (rows : List ReciprocalApproval) : Prop where
  ids_nodup : (rows.map ReciprocalApproval.requestId).Nodup
  pair_eq : ∀ row ∈ rows, row.completed = false →
    row.pendingPair = reciprocalPendingPair row.requestingDeviceId row.requestedDeviceId
  pending_unique : rows.Pairwise fun row row' => row.completed = false → row'.completed = false →
    row.groupId = row'.groupId → row.pendingPair ≠ row'.pendingPair

/-- A table and no calls. -/
def ApprovalSystem.start (table : { rows // ValidApprovals rows }) : ApprovalSystem :=
  ⟨table, fun _ => none⟩

/-! ### What is promised -/

/-- A row is the request of a call, or the completed request of the other device. -/
def IsAnswer (input : ReciprocalApprovalInput) (row : ReciprocalApproval) : Prop :=
  row.isFor input.groupId input.requestingDeviceId input.requestedDeviceId = true ∨
    row.isFor input.groupId input.requestedDeviceId input.requestingDeviceId = true ∧
      row.completed = true

/-- The rows stay, the completed ones completed. -/
def ApprovalsEvolve (rows rows' : List ReciprocalApproval) : Prop :=
  ∀ row ∈ rows, ∃ row' ∈ rows', row'.requestId = row.requestId ∧
    (∀ group requesting requested,
      row'.isFor group requesting requested = row.isFor group requesting requested) ∧
    (row.completed = true → row'.completed = true)

/-- What a call knows at a stage. -/
def StageOk (input : ReciprocalApprovalInput) (rows : List ReciprocalApproval) :
    ApprovalStage → Prop
  | .complete id => ∃ row ∈ rows, row.requestId = id ∧
      row.isFor input.groupId input.requestedDeviceId input.requestingDeviceId = true
  | .readById id => ∃ row ∈ rows, row.requestId = id ∧ IsAnswer input row
  | _ => True

/-- What a call returns is an answer, and in the table. -/
def ReturnOk (input : ReciprocalApprovalInput) (rows : List ReciprocalApproval)
    (request : ReciprocalApproval) : Prop :=
  IsAnswer input request ∧ ∃ row ∈ rows, row.requestId = request.requestId

/-- What holds of the result of a statement. -/
def ResultOk (input : ReciprocalApprovalInput) (rows : List ReciprocalApproval) :
    StatementResult → Prop
  | .next stage => StageOk input rows stage
  | .returns request => ReturnOk input rows request
  | .throws => True

structure StatementSpec (input : ReciprocalApprovalInput) (rows : List ReciprocalApproval)
    (ran : List ReciprocalApproval × StatementResult) : Prop where
  valid : ValidApprovals ran.1
  evolves : ApprovalsEvolve rows ran.1
  result : ResultOk input ran.1 ran.2
  completes : ∀ row ∈ rows, ∀ row' ∈ ran.1, row'.requestId = row.requestId →
    row.completed = false → row'.completed = true →
      row.isFor input.groupId input.requestedDeviceId input.requestingDeviceId = true
  creates : ∀ row' ∈ ran.1, (∀ row ∈ rows, row.requestId ≠ row'.requestId) →
    row'.completed = false ∧
      row'.isFor input.groupId input.requestingDeviceId input.requestedDeviceId = true

/-! ### The statements -/

section Statements

variable {rows : List ReciprocalApproval} {input : ReciprocalApprovalInput}

lemma ValidApprovals.eq_of_id (h : ValidApprovals rows) {row other : ReciprocalApproval}
    (hrow : row ∈ rows) (hother : other ∈ rows) (hid : row.requestId = other.requestId) :
    row = other :=
  List.inj_on_of_nodup_map h.ids_nodup hrow hother hid

lemma ApprovalsEvolve.refl (rows : List ReciprocalApproval) : ApprovalsEvolve rows rows :=
  fun row hrow => ⟨row, hrow, rfl, fun _ _ _ => rfl, id⟩

lemma of_latestPending {group requesting requested : String} {row : ReciprocalApproval}
    (h : latestPending rows group requesting requested = some row) :
    row ∈ rows ∧ row.completed = false ∧ row.isFor group requesting requested = true := by
  have hmem := (List.perm_insertionSort (fun row row' : ReciprocalApproval =>
    row'.createdAt ≤ row.createdAt) _).mem_iff.mp (List.mem_of_head? h)
  obtain ⟨hrow, hcondition⟩ := List.mem_filter.mp hmem
  obtain ⟨hpending, hfor⟩ := Bool.and_eq_true_iff.mp hcondition
  exact ⟨hrow, by simpa using hpending, hfor⟩

lemma statementSpec_read (h : ValidApprovals rows) {result : StatementResult}
    (hresult : ResultOk input rows result) : StatementSpec input rows (rows, result) where
  valid := h
  evolves := .refl rows
  result := hresult
  completes row hrow row' hrow' hid hpending hcompleted := by
    rw [h.eq_of_id hrow' hrow hid, hpending] at hcompleted
    cases hcompleted
  creates row' hrow' hfresh := absurd rfl (hfresh row' hrow')

lemma mem_completeWhere {now : String} {where' : ReciprocalApproval → Bool}
    {row' : ReciprocalApproval} :
    row' ∈ completeWhere now where' rows ↔ ∃ row ∈ rows, row' =
      if where' row then { row with completed := true, resolvedAt := some now } else row := by
  unfold completeWhere
  rw [List.mem_map]
  exact exists_congr fun row => and_congr_right fun _ => eq_comm

lemma completed_row (now : String) (where' : ReciprocalApproval → Bool) (row : ReciprocalApproval) :
    let row' := if where' row then { row with completed := true, resolvedAt := some now } else row
    row'.requestId = row.requestId ∧ row'.groupId = row.groupId ∧
      row'.pendingPair = row.pendingPair ∧ row'.requestingDeviceId = row.requestingDeviceId ∧
      row'.requestedDeviceId = row.requestedDeviceId ∧
      (row.completed = true → row'.completed = true) := by
  dsimp only
  split_ifs
  · exact ⟨rfl, rfl, rfl, rfl, rfl, fun _ => rfl⟩
  · exact ⟨rfl, rfl, rfl, rfl, rfl, id⟩

lemma ValidApprovals.completeWhere (h : ValidApprovals rows) (now : String)
    (where' : ReciprocalApproval → Bool) : ValidApprovals (completeWhere now where' rows) := by
  refine ⟨?_, fun row' hrow' hpending => ?_, ?_⟩
  · have hsame : (Codemem.completeWhere now where' rows).map ReciprocalApproval.requestId =
        rows.map ReciprocalApproval.requestId := by
      unfold Codemem.completeWhere
      rw [List.map_map]
      exact List.map_congr_left fun row _ => (completed_row now where' row).1
    rw [hsame]
    exact h.ids_nodup
  · obtain ⟨row, hrow, rfl⟩ := mem_completeWhere.mp hrow'
    obtain ⟨-, -, hpair, hrequesting, hrequested, hdone⟩ := completed_row now where' row
    rw [hpair, hrequesting, hrequested]
    refine h.pair_eq row hrow (Bool.eq_false_of_not_eq_true fun hcompleted => ?_)
    rw [hdone hcompleted] at hpending
    cases hpending
  · unfold Codemem.completeWhere
    rw [List.pairwise_map]
    refine h.pending_unique.imp fun {row other} hunique hpending hpending' hgroup hpair => ?_
    obtain ⟨-, hgroup1, hpair1, -, -, hdone1⟩ := completed_row now where' row
    obtain ⟨-, hgroup2, hpair2, -, -, hdone2⟩ := completed_row now where' other
    refine hunique ?_ ?_ (hgroup1.symm.trans (hgroup.trans hgroup2))
      (hpair1.symm.trans (hpair.trans hpair2))
    · exact Bool.eq_false_of_not_eq_true fun hdone => by
        rw [hdone1 hdone] at hpending
        cases hpending
    · exact Bool.eq_false_of_not_eq_true fun hdone => by
        rw [hdone2 hdone] at hpending'
        cases hpending'

lemma evolves_completeWhere (now : String) (where' : ReciprocalApproval → Bool) :
    ApprovalsEvolve rows (completeWhere now where' rows) := by
  intro row hrow
  obtain ⟨hid, hgroup, -, hrequesting, hrequested, hdone⟩ := completed_row now where' row
  refine ⟨_, mem_completeWhere.mpr ⟨row, hrow, rfl⟩, hid, fun _ _ _ => ?_, hdone⟩
  unfold ReciprocalApproval.isFor
  rw [hgroup, hrequesting, hrequested]

lemma statementSpec_complete (h : ValidApprovals rows) (now : String)
    {where' : ReciprocalApproval → Bool} {result : StatementResult}
    (hwhere : ∀ row ∈ rows, where' row = true →
      row.isFor input.groupId input.requestedDeviceId input.requestingDeviceId = true)
    (hresult : ResultOk input (completeWhere now where' rows) result) :
    StatementSpec input rows (completeWhere now where' rows, result) where
  valid := h.completeWhere now where'
  evolves := evolves_completeWhere now where'
  result := hresult
  completes row hrow row' hrow' hid hpending hcompleted := by
    obtain ⟨old, hold, rfl⟩ := mem_completeWhere.mp hrow'
    have hsame : old = row := h.eq_of_id hold hrow ((completed_row now where' old).1.symm.trans hid)
    subst hsame
    refine hwhere old hrow ?_
    by_contra hnot
    rw [if_neg hnot, hpending] at hcompleted
    cases hcompleted
  creates row' hrow' hfresh := by
    obtain ⟨old, hold, rfl⟩ := mem_completeWhere.mp hrow'
    exact absurd (completed_row now where' old).1.symm (hfresh old hold)

lemma stageOk_readById {now id : String} {where' : ReciprocalApproval → Bool}
    {row : ReciprocalApproval} (hrow : row ∈ rows) (hid : row.requestId = id)
    (hwhere : where' row = true)
    (hfor : row.isFor input.groupId input.requestedDeviceId input.requestingDeviceId = true) :
    StageOk input (completeWhere now where' rows) (.readById id) :=
  ⟨{ row with completed := true, resolvedAt := some now },
    mem_completeWhere.mpr ⟨row, hrow, (if_pos hwhere).symm⟩, hid, .inr ⟨hfor, rfl⟩⟩

lemma statementSpec_insert (h : ValidApprovals rows) {new : ReciprocalApproval}
    (hpending : new.completed = false)
    (hpair : new.pendingPair = reciprocalPendingPair new.requestingDeviceId new.requestedDeviceId)
    (hfor : new.isFor input.groupId input.requestingDeviceId input.requestedDeviceId = true)
    (hunique : ¬violatesUnique rows new = true) :
    StatementSpec input rows (rows ++ [new], .next (.readById new.requestId)) := by
  have hclear : ∀ row ∈ rows, row.requestId ≠ new.requestId ∧
      (row.completed = false → row.groupId = new.groupId → row.pendingPair ≠ new.pendingPair) := by
    simpa [violatesUnique] using hunique
  have hnew : new ∈ rows ++ [new] := by simp
  refine ⟨⟨?_, fun row hrow hopen => ?_, ?_⟩, fun row hrow => ?_, ?_, ?_, ?_⟩
  · rw [List.map_append, List.map_singleton, List.nodup_append]
    refine ⟨h.ids_nodup, List.nodup_singleton _, fun id hid id' hid' => ?_⟩
    obtain ⟨row, hrow, rfl⟩ := List.mem_map.mp hid
    rw [List.mem_singleton.mp hid']
    exact (hclear row hrow).1
  · rcases List.mem_append.mp hrow with hold | hlast
    · exact h.pair_eq row hold hopen
    · rw [List.mem_singleton.mp hlast]
      exact hpair
  · rw [List.pairwise_append]
    refine ⟨h.pending_unique, List.pairwise_singleton _ _, fun row hrow row' hrow' hopen _ => ?_⟩
    rw [List.mem_singleton.mp hrow']
    exact (hclear row hrow).2 hopen
  · exact ⟨row, List.mem_append_left _ hrow, rfl, fun _ _ _ => rfl, id⟩
  · exact ⟨new, hnew, rfl, .inl hfor⟩
  · intro row hrow row' hrow' hid hopen hcompleted
    rcases List.mem_append.mp hrow' with hold | hlast
    · rw [h.eq_of_id hold hrow hid, hopen] at hcompleted
      cases hcompleted
    · rw [List.mem_singleton.mp hlast, hpending] at hcompleted
      cases hcompleted
  · intro row' hrow' hfresh
    rcases List.mem_append.mp hrow' with hold | hlast
    · exact absurd rfl (hfresh row' hold)
    · rw [List.mem_singleton.mp hlast]
      exact ⟨hpending, hfor⟩

lemma statementSpec_runStatement (h : ValidApprovals rows) (requestId now : String)
    {stage : ApprovalStage} (hstage : StageOk input rows stage) :
    StatementSpec input rows (runStatement requestId now input rows stage) := by
  cases stage with
  | completeExpected expected =>
    refine statementSpec_complete h now (fun row _ hwhere => ?_) ?_
    · simp only [Bool.and_eq_true] at hwhere
      exact hwhere.2
    · split_ifs with hone
      · obtain ⟨row, hrow⟩ :=
          List.exists_mem_of_length_pos (Nat.lt_of_lt_of_eq Nat.one_pos hone.symm)
        obtain ⟨hmem, hwhere⟩ := List.mem_filter.mp hrow
        have hparts := hwhere
        simp only [Bool.and_eq_true, beq_iff_eq] at hparts
        exact stageOk_readById hmem hparts.1.1 hwhere hparts.2
      · trivial
  | readExisting =>
    refine statementSpec_read h ?_
    cases hfound : latestPending rows input.groupId input.requestingDeviceId
        input.requestedDeviceId with
    | none => trivial
    | some existing =>
      obtain ⟨hmem, -, hfor⟩ := of_latestPending hfound
      exact ⟨.inl hfor, existing, hmem, rfl⟩
  | readReverse =>
    refine statementSpec_read h ?_
    cases hfound : latestPending rows input.groupId input.requestedDeviceId
        input.requestingDeviceId with
    | none => trivial
    | some reverse =>
      obtain ⟨hmem, -, hfor⟩ := of_latestPending hfound
      exact ⟨reverse, hmem, rfl, hfor⟩
  | complete reverseId =>
    obtain ⟨row, hrow, hid, hfor⟩ := hstage
    refine statementSpec_complete h now (fun other hother hwhere => ?_)
      (stageOk_readById hrow hid (by simpa using hid) hfor)
    have hsame : other = row := h.eq_of_id hother hrow ((beq_iff_eq.mp hwhere).trans hid.symm)
    exact hsame ▸ hfor
  | insert =>
    rw [runStatement]
    split_ifs with hconflict
    · exact statementSpec_read h trivial
    · exact statementSpec_insert h rfl rfl (by simp [ReciprocalApproval.isFor]) hconflict
  | readSameDirection =>
    refine statementSpec_read h ?_
    cases hfound : latestPending rows input.groupId input.requestingDeviceId
        input.requestedDeviceId with
    | none => trivial
    | some existing =>
      obtain ⟨hmem, -, hfor⟩ := of_latestPending hfound
      exact ⟨.inl hfor, existing, hmem, rfl⟩
  | readReverseAfterConflict =>
    refine statementSpec_read h ?_
    cases hfound : latestPending rows input.groupId input.requestedDeviceId
        input.requestingDeviceId with
    | none => trivial
    | some reverse =>
      obtain ⟨hmem, -, hfor⟩ := of_latestPending hfound
      exact ⟨reverse, hmem, rfl, hfor⟩
  | readById id =>
    obtain ⟨row, hrow, hid, hanswer⟩ := hstage
    refine statementSpec_read h ?_
    cases hfound : rows.find? fun row => row.requestId == id with
    | none => trivial
    | some found =>
      have hfoundId : found.requestId = id := by simpa using List.find?_some hfound
      have hmem := List.mem_of_find?_eq_some hfound
      have hsame : found = row := h.eq_of_id hmem hrow (hfoundId.trans hid.symm)
      exact ⟨hsame ▸ hanswer, found, hmem, rfl⟩

/-! ### Later statements -/

lemma StageOk.evolves {rows' : List ReciprocalApproval} {stage : ApprovalStage}
    (h : StageOk input rows stage) (hrows : ApprovalsEvolve rows rows') : StageOk input rows' stage := by
  cases stage with
  | complete id =>
    obtain ⟨row, hrow, hid, hfor⟩ := h
    obtain ⟨row', hrow', hid', hsame, -⟩ := hrows row hrow
    exact ⟨row', hrow', hid'.trans hid, (hsame _ _ _).trans hfor⟩
  | readById id =>
    obtain ⟨row, hrow, hid, hanswer⟩ := h
    obtain ⟨row', hrow', hid', hsame, hdone⟩ := hrows row hrow
    refine ⟨row', hrow', hid'.trans hid, hanswer.imp (hsame _ _ _).trans ?_⟩
    exact fun ⟨hreverse, hcompleted⟩ => ⟨(hsame _ _ _).trans hreverse, hdone hcompleted⟩
  | completeExpected | readExisting | readReverse | insert | readSameDirection
  | readReverseAfterConflict => trivial

lemma ReturnOk.evolves {rows' : List ReciprocalApproval} {request : ReciprocalApproval}
    (h : ReturnOk input rows request) (hrows : ApprovalsEvolve rows rows') :
    ReturnOk input rows' request := by
  obtain ⟨hanswer, row, hrow, hid⟩ := h
  obtain ⟨row', hrow', hid', -⟩ := hrows row hrow
  exact ⟨hanswer, row', hrow', hid'.trans hid⟩

end Statements

/-! ### Runs -/

/-- What a call is at a table. -/
def CallOk (rows : List ReciprocalApproval) : ApprovalCall → Prop
  | .running input stage => StageOk input rows stage
  | .returned input request => ReturnOk input rows request
  | .thrown => True

/-- What holds in every state of a run. -/
structure ApprovalInvariant (s : ApprovalSystem) : Prop where
  valid : ValidApprovals s.rows
  calls : ∀ call known, s.calls call = some known → CallOk s.rows known

lemma callOk_createReciprocalApproval (rows : List ReciprocalApproval)
    (input : ReciprocalApprovalInput) : CallOk rows (createReciprocalApproval input) := by
  unfold createReciprocalApproval
  extract_lets trimmed
  split_ifs
  · trivial
  · trivial
  · cases trimmed.expectedIncomingRequestId with
    | none => trivial
    | some expected => trivial

lemma callOk_after {rows : List ReciprocalApproval} {input : ReciprocalApprovalInput}
    {result : StatementResult} (h : ResultOk input rows result) :
    CallOk rows (ApprovalCall.after input result) := by
  cases result with
  | next stage => exact h
  | returns request => exact h
  | throws => trivial

lemma CallOk.evolves {rows rows' : List ReciprocalApproval} {known : ApprovalCall}
    (h : CallOk rows known) (hrows : ApprovalsEvolve rows rows') : CallOk rows' known := by
  cases known with
  | running input stage => exact StageOk.evolves h hrows
  | returned input request => exact ReturnOk.evolves h hrows
  | thrown => trivial

def IsStepOf (s : ApprovalSystem) (action : ApprovalAction) (input : ReciprocalApprovalInput) :
    Prop :=
  ∃ call requestId now stage, action = .run call requestId now ∧
    s.calls call = some (.running input stage)

/-- What one step does to the table. -/
structure StepSpec (s : ApprovalSystem) (action : ApprovalAction) : Prop where
  evolves : ApprovalsEvolve s.rows (approvalStep s action).rows
  completes : ∀ row ∈ s.rows, ∀ row' ∈ (approvalStep s action).rows,
    row'.requestId = row.requestId → row.completed = false → row'.completed = true →
      ∃ input, IsStepOf s action input ∧
        row.isFor input.groupId input.requestedDeviceId input.requestingDeviceId = true
  creates : ∀ row' ∈ (approvalStep s action).rows,
    (∀ row ∈ s.rows, row.requestId ≠ row'.requestId) → row'.completed = false ∧
      ∃ input, IsStepOf s action input ∧
        row'.isFor input.groupId input.requestingDeviceId input.requestedDeviceId = true

lemma stepSpec_of_rows {s : ApprovalSystem} {action : ApprovalAction} (h : ValidApprovals s.rows)
    (hrows : (approvalStep s action).rows = s.rows) : StepSpec s action where
  evolves := hrows ▸ ApprovalsEvolve.refl s.rows
  completes row hrow row' hrow' hid hopen hcompleted := by
    rw [hrows] at hrow'
    rw [h.eq_of_id hrow' hrow hid, hopen] at hcompleted
    cases hcompleted
  creates row' hrow' hfresh := by
    rw [hrows] at hrow'
    exact absurd rfl (hfresh row' hrow')

lemma ApprovalInvariant.step {s : ApprovalSystem} (h : ApprovalInvariant s)
    (action : ApprovalAction) : ApprovalInvariant (approvalStep s action) ∧ StepSpec s action := by
  cases action with
  | start call input =>
    have hrows : (approvalStep s (.start call input)).rows = s.rows := by
      rw [approvalStep]
      split_ifs <;> rfl
    refine ⟨⟨hrows ▸ h.valid, fun other known hknown => ?_⟩, stepSpec_of_rows h.valid hrows⟩
    rw [hrows]
    rw [approvalStep] at hknown
    split_ifs at hknown with hsome
    · exact h.calls other known hknown
    · by_cases hsame : other = call
      · subst hsame
        have hsame : createReciprocalApproval input = known := by simpa using hknown
        exact hsame ▸ callOk_createReciprocalApproval s.rows input
      · exact h.calls other known ((Function.update_of_ne hsame ..).symm.trans hknown)
  | run call requestId now =>
    cases hcall : s.calls call with
    | none =>
      have hstep : approvalStep s (.run call requestId now) = s := by simp [approvalStep, hcall]
      exact ⟨hstep.symm ▸ h, stepSpec_of_rows h.valid (by rw [hstep])⟩
    | some known =>
      cases known with
      | returned input request =>
        have hstep : approvalStep s (.run call requestId now) = s := by simp [approvalStep, hcall]
        exact ⟨hstep.symm ▸ h, stepSpec_of_rows h.valid (by rw [hstep])⟩
      | thrown =>
        have hstep : approvalStep s (.run call requestId now) = s := by simp [approvalStep, hcall]
        exact ⟨hstep.symm ▸ h, stepSpec_of_rows h.valid (by rw [hstep])⟩
      | running input stage =>
        have hspec := statementSpec_runStatement h.valid requestId now (h.calls call _ hcall)
        have hmine : IsStepOf s (.run call requestId now) input :=
          ⟨call, requestId, now, stage, rfl, hcall⟩
        have hstep : approvalStep s (.run call requestId now) =
            { rows := (runStatement requestId now input s.rows stage).1
              calls := Function.update s.calls call (some (ApprovalCall.after input
                (runStatement requestId now input s.rows stage).2)) } := by
          simp only [approvalStep, hcall]
        refine ⟨⟨?_, fun other known hknown => ?_⟩, ⟨?_, ?_, ?_⟩⟩
        · rw [hstep]
          exact hspec.valid
        · rw [hstep] at hknown ⊢
          by_cases hsame : other = call
          · subst hsame
            have hafter : ApprovalCall.after input
                (runStatement requestId now input s.rows stage).2 = known := by simpa using hknown
            exact hafter ▸ callOk_after hspec.result
          · exact CallOk.evolves
              (h.calls other known ((Function.update_of_ne hsame ..).symm.trans hknown))
              hspec.evolves
        · rw [hstep]
          exact hspec.evolves
        · rw [hstep]
          exact fun row hrow row' hrow' hid hopen hcompleted =>
            ⟨input, hmine, hspec.completes row hrow row' hrow' hid hopen hcompleted⟩
        · rw [hstep]
          intro row' hrow' hfresh
          obtain ⟨hopen, hfor⟩ := hspec.creates row' hrow' hfresh
          exact ⟨hopen, input, hmine, hfor⟩

lemma approvalInvariant_start (table : { rows // ValidApprovals rows }) :
    ApprovalInvariant (.start table) where
  valid := table.2
  calls _ _ hknown := by cases hknown

lemma reciprocalPendingPair_comm (device device' : String) :
    reciprocalPendingPair device device' = reciprocalPendingPair device' device := by
  unfold reciprocalPendingPair
  split_ifs with hlt hgt hgt
  · exact absurd hgt (lt_asymm hlt)
  · rfl
  · rfl
  · have hsame : device = device' := utf16_injective (le_antisymm (not_lt.mp hlt) (not_lt.mp hgt))
    rw [hsame]

lemma reciprocalPendingPair_congr {first second first' second' : String}
    (h : s(first, second) = s(first', second')) :
    reciprocalPendingPair first second = reciprocalPendingPair first' second' := by
  rcases Sym2.eq_iff.mp h with ⟨rfl, rfl⟩ | ⟨rfl, rfl⟩
  · rfl
  · exact reciprocalPendingPair_comm first second

/-- In every state of a run the pending requests are of different pairs of devices, and every call
that returned has an answer; every next step completes and creates requests only as the two devices
ask for them. -/
theorem reciprocalApprovals_protocol (table : { rows // ValidApprovals rows })
    (actions : List ApprovalAction) :
    ∀ s ∈ visited approvalStep (.start table) actions,
      (s.rows.Pairwise fun row row' => row.completed = false → row'.completed = false →
        row.groupId = row'.groupId → s(row.requestingDeviceId, row.requestedDeviceId) ≠
          s(row'.requestingDeviceId, row'.requestedDeviceId)) ∧
      (∀ call input request, s.calls call = some (.returned input request) →
        ReturnOk input s.rows request) ∧
      ∀ action, StepSpec s action := by
  intro s hs
  have hinvariant : ApprovalInvariant s :=
    visited_invariant actions (approvalInvariant_start table)
      (fun _ action h => (h.step action).1) s hs
  refine ⟨?_, fun call input request hcall => hinvariant.calls call _ hcall,
    fun action => (hinvariant.step action).2⟩
  refine hinvariant.valid.pending_unique.imp_of_mem ?_
  intro row row' hrow hrow' hunique hopen hopen' hgroup hpair
  refine hunique hopen hopen' hgroup ?_
  rw [hinvariant.valid.pair_eq row hrow hopen, hinvariant.valid.pair_eq row' hrow' hopen']
  exact reciprocalPendingPair_congr hpair

/-- A table without requests. -/
def noApprovals : { rows // ValidApprovals rows } :=
  ⟨[], List.nodup_nil, fun _ hrow => absurd hrow List.not_mem_nil, .nil⟩

/-- A laptop asks a phone. -/
def laptopRequest : ReciprocalApprovalInput :=
  ⟨"home", "laptop", "phone", none⟩

def laptopCall : List ApprovalAction :=
  [.start 0 laptopRequest, .run 0 "r1" "2026-01-01", .run 0 "r1" "2026-01-01",
    .run 0 "r1" "2026-01-01", .run 0 "r1" "2026-01-01"]

/-- The call of the laptop returns its own request. -/
theorem reciprocalApprovals_protocol_laptop :
    ∃ request, (laptopCall.foldl approvalStep (.start noApprovals)).calls 0 =
        some (.returned laptopRequest request) ∧
      ReturnOk laptopRequest (laptopCall.foldl approvalStep (.start noApprovals)).rows request := by
  have hcall : (laptopCall.foldl approvalStep (.start noApprovals)).calls 0 =
      some (.returned laptopRequest ⟨"r1", "home", "laptop", "phone", ("laptop", "phone"), false,
        "2026-01-01", none⟩) := by
    rfl
  exact ⟨_, hcall, (reciprocalApprovals_protocol noApprovals laptopCall _
    (foldl_mem_visited _ _ _)).2.1 0 _ _ hcall⟩

end Codemem
