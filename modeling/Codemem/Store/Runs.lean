import Codemem.Foundation.Trace
import Codemem.Replication.Bootstrap
import Codemem.Store.Mutation

/-!
# Runs of the store

A call of the store is a list of atomic actions: one for each op of a batch, one for each item of
a snapshot, one for each local mutation.  Invariants are stated for every state between two
actions, so that what happens inside a batch counts too.
-/

namespace Codemem

/-- An atomic change of the store. -/
inductive StoreAction where
  /-- One op of a batch, in its savepoint. -/
  | applyOp (ctx : ApplyContext) (localDeviceId : String) (op : ReplicationOp)
  /-- The log entry of a rejected batch. -/
  | logRejections (rejections : List InboundScopeRejection)
  /-- The deletion a bootstrap starts with. -/
  | wipeScope (scopeId : String)
  /-- One item of a bootstrap. -/
  | bootstrapItem (scanner : SecretScanner) (bootstrapScopeId : Option String)
      (item : SnapshotItem)
  /-- One item of a merge. -/
  | mergeItem (scanner : SecretScanner) (bootstrapScopeId : Option String) (item : SnapshotItem)
  /-- The cursor and boundary updates a snapshot ends with. -/
  | advanceBoundary (ctx : SnapshotContext) (peerDeviceId : String) (resetInfo : ResetInfo)
  | remember (ms : MemoryStore) (input : RememberInput)
  | forget (ms : MemoryStore) (memoryId : ℕ)
  | updateMemoryVisibility (ms : MemoryStore) (memoryId : ℕ) (visibility : String)
  | reassignMemoryScope (ms : MemoryStore) (memoryId : ℕ) (newScopeId : String)
  | recordScopeReassignment (ctx : LocalContext) (opts : ReassignmentOptions)
  /-- Pruning drops some ops of the log. -/
  | pruneLog (keep : ReplicationOp → Bool)

/-- The store a fallible call leaves: an error rolls everything back. -/
def committed (st : Store) (outcome : Except String Store) : Store :=
  match outcome with
  | .ok st' => st'
  | .error _ => st

/-- The effect of an action. -/
def StoreAction.run (st : Store) : StoreAction → Store
  | .applyOp ctx localDeviceId op => (applyReplicationOp ctx localDeviceId st op).1
  | .logRejections rejections =>
    { st with syncScopeRejections := st.syncScopeRejections ++ rejections }
  | .wipeScope scopeId => deleteSyncedMemoriesInScope st scopeId
  | .bootstrapItem scanner scopeId item => Codemem.bootstrapItem scanner scopeId st item
  | .mergeItem scanner scopeId item => Codemem.mergeItem scanner scopeId st item
  | .advanceBoundary ctx peerDeviceId resetInfo =>
    advanceSnapshotBoundary ctx st peerDeviceId resetInfo
  | .remember ms input => committed st ((ms.remember st input).map Prod.snd)
  | .forget ms memoryId => committed st (ms.forget st memoryId)
  | .updateMemoryVisibility ms memoryId visibility =>
    committed st (ms.updateMemoryVisibility st memoryId visibility)
  | .reassignMemoryScope ms memoryId newScopeId =>
    committed st (ms.reassignMemoryScope st memoryId newScopeId)
  | .recordScopeReassignment ctx opts =>
    committed st ((Codemem.recordScopeReassignment ctx st opts).map Prod.fst)
  | .pruneLog keep => { st with replicationOps := st.replicationOps.filter keep }

inductive StoreCall where
  | applyReplicationOps (ctx : ApplyContext) (ops : List ReplicationOp) (localDeviceId : String)
      (validation : Option InboundScopeValidationOptions)
  | applyBootstrapSnapshot (ctx : SnapshotContext) (peerDeviceId : String)
      (items : List SnapshotItem) (resetInfo : ResetInfo)
  | mergeBootstrapSnapshot (ctx : SnapshotContext) (peerDeviceId : String)
      (items : List SnapshotItem) (resetInfo : ResetInfo) (preserveCursor : Bool)
  /-- A call that is one action. -/
  | single (action : StoreAction)

def StoreCall.run (st : Store) : StoreCall → Store
  | .applyReplicationOps ctx ops localDeviceId validation =>
    (Codemem.applyReplicationOps ctx st ops localDeviceId validation).1
  | .applyBootstrapSnapshot ctx peerDeviceId items resetInfo =>
    committed st
      ((Codemem.applyBootstrapSnapshot ctx st peerDeviceId items resetInfo).map Prod.fst)
  | .mergeBootstrapSnapshot ctx peerDeviceId items resetInfo preserveCursor =>
    committed st (Codemem.mergeBootstrapSnapshot ctx st peerDeviceId items resetInfo preserveCursor)
  | .single action => action.run st

/-- The actions of a batch: one for each op, or the log entry of its rejection. -/
def batchActions (ctx : ApplyContext) (st : Store) (ops : List ReplicationOp)
    (localDeviceId : String) (validation : Option InboundScopeValidationOptions) :
    List StoreAction :=
  match validation.bind (rejectUnretiredScopeFailures st ops localDeviceId) with
  | some (_, result) => [.logRejections result.rejections]
  | none => ops.map (.applyOp ctx localDeviceId)

def StoreCall.actions (st : Store) : StoreCall → List StoreAction
  | .applyReplicationOps ctx ops localDeviceId validation =>
    batchActions ctx st ops localDeviceId validation
  | .applyBootstrapSnapshot ctx peerDeviceId items resetInfo =>
    let scope := cleanText resetInfo.scopeId
    if validateSnapshotScopes items scope = false then []
    else
      let wipe := scope.toList.map StoreAction.wipeScope
      wipe ++ (retirementSnapshotItems (wipe.foldl StoreAction.run st) items scope).map
        (.bootstrapItem ctx.scanner scope) ++ [.advanceBoundary ctx peerDeviceId resetInfo]
  | .mergeBootstrapSnapshot ctx peerDeviceId items resetInfo preserveCursor =>
    let scope := cleanText resetInfo.scopeId
    if validateSnapshotScopes items scope = false then []
    else
      (retirementSnapshotItems st items scope).map (.mergeItem ctx.scanner scope) ++
        if preserveCursor then [] else [.advanceBoundary ctx peerDeviceId resetInfo]
  | .single action => [action]

def runActions (st : Store) : List StoreCall → List StoreAction
  | [] => []
  | call :: calls => call.actions st ++ runActions (call.run st) calls

lemma batchActions_run (ctx : ApplyContext) (st : Store) (ops : List ReplicationOp)
    (localDeviceId : String) (validation : Option InboundScopeValidationOptions) :
    (applyReplicationOps ctx st ops localDeviceId validation).1 =
      (batchActions ctx st ops localDeviceId validation).foldl StoreAction.run st := by
  unfold applyReplicationOps batchActions
  cases hrej : validation.bind (rejectUnretiredScopeFailures st ops localDeviceId) with
  | none =>
    simp only
    rw [applyAll_store, List.foldl_map]
    rfl
  | some rejected =>
    cases validation with
    | none => simp at hrej
    | some options =>
      simp only [Option.bind_some, rejectUnretiredScopeFailures, rejectInboundScopeFailures] at hrej
      split_ifs at hrej
      · cases hrej
      · cases hrej
        rfl

/-- A call does what its actions do. -/
theorem StoreCall.run_eq_foldl (st : Store) (call : StoreCall) :
    call.run st = (call.actions st).foldl StoreAction.run st := by
  cases call with
  | applyReplicationOps ctx ops localDeviceId validation =>
    exact batchActions_run ctx st ops localDeviceId validation
  | applyBootstrapSnapshot ctx peerDeviceId items resetInfo =>
    simp only [StoreCall.run, StoreCall.actions, Codemem.applyBootstrapSnapshot]
    split_ifs with hscope
    · rfl
    · rw [List.foldl_append, List.foldl_append, List.foldl_map]
      cases cleanText resetInfo.scopeId <;> rfl
  | mergeBootstrapSnapshot ctx peerDeviceId items resetInfo preserveCursor =>
    simp only [StoreCall.run, StoreCall.actions, Codemem.mergeBootstrapSnapshot]
    split_ifs with hscope
    · rfl
    · rw [List.foldl_append, List.foldl_map]
      rfl
    · rw [List.foldl_append, List.foldl_map]
      rfl
  | single action => rfl

end Codemem
