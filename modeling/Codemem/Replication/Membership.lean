import Codemem.Replication.Retirement

/-!
# Cached scope authorization

`getCachedScopeAuthorization` decides whether a device may use a scope from the cached scope row,
the cached membership row and the recipient policy deny overlays.
-/

namespace Codemem

/-- `ScopeMembershipAuthorizationState`. -/
inductive AuthorizationState where
  | policyDenied
  | notAuthorized
  | revoked
  | scopeInactive
  | scopeUnknown
  | staleEpoch
  | authorized
  deriving DecidableEq, Repr

/-- The part of `CachedScopeAuthorization` that replication reads. -/
structure CachedScopeAuthorization where
  state : AuthorizationState
  scope : Option ReplicationScope
  deriving DecidableEq

/-- `authorized: state === "authorized"`. -/
def CachedScopeAuthorization.authorized (auth : CachedScopeAuthorization) : Bool :=
  auth.state == .authorized

/-- `auth.scope?.authority_type === "local"`. -/
def CachedScopeAuthorization.isLocalAuthority (auth : CachedScopeAuthorization) : Bool :=
  auth.scope.any fun s => s.authorityType == .local

/-- `SELECT … FROM replication_scopes WHERE scope_id = ?`. -/
def Store.scopeById (st : Store) (scopeId : String) : Option ReplicationScope :=
  st.replicationScopes.find? fun s => s.scopeId == scopeId

/-- `SELECT … FROM scope_memberships WHERE device_id = ? AND scope_id = ?`. -/
def Store.membershipOf (st : Store) (deviceId scopeId : String) : Option ScopeMembership :=
  st.scopeMemberships.find? fun m => m.deviceId == deviceId && m.scopeId == scopeId

def cachedScopeDecisionState (membership : Option ScopeMembership)
    (scope : Option ReplicationScope) (policyDenied : Bool) : AuthorizationState :=
  if policyDenied then .policyDenied
  else match membership with
    | none => .notAuthorized
    | some m =>
      if m.status = "revoked" then .revoked
      else match scope with
        | none => .scopeUnknown
        | some s =>
          if s.status ≠ "" ∧ s.status ≠ "active" then .scopeInactive
          else if m.membershipEpoch < s.membershipEpoch then .staleEpoch
          else if m.status = "active" then .authorized else .notAuthorized

def getCachedScopeAuthorization (st : Store) (deviceId scopeId : String) :
    CachedScopeAuthorization :=
  let deviceId := trim deviceId
  let scopeId := trim scopeId
  let scope := st.scopeById scopeId
  { state := cachedScopeDecisionState (st.membershipOf deviceId scopeId) scope
      (st.denyOverlays.any fun o => o.scopeId == scopeId && o.deviceId == deviceId)
    scope := scope }

/-- The membership tables of two stores agree. -/
structure SameMembership (st st' : Store) : Prop where
  scopes : st'.replicationScopes = st.replicationScopes
  memberships : st'.scopeMemberships = st.scopeMemberships
  overlays : st'.denyOverlays = st.denyOverlays

lemma getCachedScopeAuthorization_congr {st st' : Store} (h : SameMembership st st')
    (deviceId scopeId : String) :
    getCachedScopeAuthorization st' deviceId scopeId =
      getCachedScopeAuthorization st deviceId scopeId := by
  simp only [getCachedScopeAuthorization, Store.scopeById, Store.membershipOf, h.scopes,
    h.memberships, h.overlays]

lemma scope_isSome_of_authorized {st : Store} {deviceId scopeId : String}
    (h : (getCachedScopeAuthorization st deviceId scopeId).authorized = true) :
    (st.scopeById (trim scopeId)).isSome = true := by
  simp only [getCachedScopeAuthorization, CachedScopeAuthorization.authorized, beq_iff_eq] at h
  unfold cachedScopeDecisionState at h
  cases hs : st.scopeById (trim scopeId) with
  | some s => rfl
  | none =>
    rw [hs] at h
    split_ifs at h
    cases hm : st.membershipOf (trim deviceId) (trim scopeId) with
    | none => rw [hm] at h; simp at h
    | some m =>
      rw [hm] at h
      simp only at h
      split_ifs at h

end Codemem
