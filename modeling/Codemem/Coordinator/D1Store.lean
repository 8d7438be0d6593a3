import Codemem.Foundation.Trace
import Codemem.Coordinator.ScopeStores

/-!
# Interleavings of coordinator calls

Calls of the D1 store are begun at any time and resumed one statement at a time, in any order.  Calls
of the SQLite store run as a whole.  The enrollments, revocations and groups may change in between.
-/

namespace Codemem

/-- A call of the D1 store. -/
inductive D1Input where
  | grantScopeMembership (opts : CoordinatorGrantScopeMembershipInput)
  | revokeScopeMembership (opts : CoordinatorRevokeScopeMembershipInput)
  | createScope (opts : CoordinatorCreateScopeInput)
  | updateScope (opts : CoordinatorUpdateScopeInput)
  | getScopeAuthorization (groupId scopeId : String)

/-- The progress of a call of the D1 store. -/
inductive D1Progress where
  | membership (progress : MembershipProgress)
  | scope (progress : ScopeProgress)

/-- A call begins: it runs up to its first statement. -/
def D1Input.start : D1Input → D1Progress
  | grantScopeMembership opts =>
    .membership (.after (startGrant opts) fun call => .suspended (.grantLookup call))
  | revokeScopeMembership opts =>
    .membership (.after (startRevoke opts) fun call => .suspended (.revokeLookup call))
  | createScope opts => .scope (startCreateScope opts)
  | updateScope opts => .scope (startUpdateScope opts)
  | getScopeAuthorization groupId scopeId => .scope (startScopeAuthorization groupId scopeId)

/-- The tables, and the calls of the D1 store that have begun. -/
structure CoordinatorStore where
  tables : ScopeTables
  calls : ℕ → Option D1Progress

/-- What may happen next. -/
inductive CoordinatorStoreAction where
  | sqliteGrant (opts : CoordinatorGrantScopeMembershipInput) (now : String)
  | sqliteRevoke (opts : CoordinatorRevokeScopeMembershipInput) (now : String)
  | begin (call : ℕ) (input : D1Input)
  | resume (call : ℕ) (now : String)
  | editDevices (devices : DeviceTables)

namespace CoordinatorStore

/-- The tables a call of the SQLite store leaves: one that fails is rolled back. -/
def committed (store : CoordinatorStore)
    (result : Except String (MembershipOutcome × ScopeTables)) : CoordinatorStore :=
  match result with
  | .error _ => store
  | .ok (_, tables) => { store with tables := tables }

/-- A call goes on. -/
def resumed (store : CoordinatorStore) (call : ℕ) (tables : ScopeTables)
    (progress : D1Progress) : CoordinatorStore :=
  ⟨tables, Function.update store.calls call (some progress)⟩

variable (primitives : SignaturePrimitives)

def step (store : CoordinatorStore) : CoordinatorStoreAction → CoordinatorStore
  | .sqliteGrant opts now => store.committed (store.tables.grantScopeMembership opts now)
  | .sqliteRevoke opts now => store.committed (store.tables.revokeScopeMembership opts now)
  | .begin call input =>
    match store.calls call with
    | none => store.resumed call store.tables input.start
    | some _ => store
  | .resume call now =>
    match store.calls call with
    | some (.membership (.suspended stage)) =>
      store.resumed call (stage.next store.tables now).2
        (.membership (stage.next store.tables now).1)
    | some (.scope (.suspended stage)) =>
      store.resumed call (stage.next primitives store.tables now).2
        (.scope (stage.next primitives store.tables now).1)
    | _ => store
  | .editDevices devices => { store with tables := { store.tables with devices := devices } }

/-- The store before the first call. -/
def initial (tables : ScopeTables) : CoordinatorStore := ⟨tables, fun _ => none⟩

end CoordinatorStore

end Codemem
