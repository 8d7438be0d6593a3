import Codemem.Recipients.Edges
import Codemem.Recipients.AuthorityTables

/-!
# Aliases of one project

Callers canonicalise the identity they are given once, and read the policy of a project under the
result.  All of them then agree on a project and its aliases exactly where canonicalising is
settled; a repository that is itself a workspace of another repository is not.
-/

namespace Codemem

namespace ReconcilerDb

variable (db : ReconcilerDb)

/-- The edges that a change of the project loads. -/
def projectEdges (projectId : String) : List StoredEdge :=
  db.policy.loadEdges [db.policy.canonical projectId]

/-- The boundary that a run for the project finds. -/
def projectBoundary (projectId : String) : Except String String :=
  db.policy.boundary (db.policy.canonical projectId)

/-- The authority row that a run for the project finds. -/
def projectAuthority (projectId : String) : Option AuthorityState :=
  db.authority (db.policy.canonical projectId)

/-- Everything that is read through an identity is what is read through its canonical identity. -/
structure AliasesAgree (projectId : String) : Prop where
  canonical : db.policy.canonical (db.policy.canonical projectId) = db.policy.canonical projectId
  devices : db.policy.deriveRecipientPolicyEffectiveDevicesFromDatabase projectId =
    db.policy.deriveRecipientPolicyEffectiveDevicesFromDatabase (db.policy.canonical projectId)
  edges : db.projectEdges projectId = db.projectEdges (db.policy.canonical projectId)
  boundary : db.projectBoundary projectId = db.projectBoundary (db.policy.canonical projectId)
  authority : db.projectAuthority projectId = db.projectAuthority (db.policy.canonical projectId)

/-- A worktree was recorded while its repository had no remote; the repository has one now. -/
def worktreeSessions : List SessionWorkspace :=
  [⟨some "/src/tree", some "/src/repo", none⟩,
    ⟨some "/src/repo", some "https://host/team/repo", none⟩]

/-- The repository is shared with one identity, which has one device. -/
def worktreeDb : ReconcilerDb where
  policy :=
    { resolveGitRepositoryIdentity := fun _ => none
      sessions := worktreeSessions
      identities := [⟨"ada", "Ada", "active", none⟩]
      teams := []
      teamMemberships := []
      teamDeviceDecisions := []
      identityDevices := [⟨"laptop", "ada", "Laptop", "active", 0⟩]
      projectRecipients := [⟨"https://host/team/repo", "identity", "ada", "active", "2026"⟩]
      projectScopeMappings := []
      replicationScopes := [] }
  authorityStates := []
  steps := []
  overlays := []
  now := 0

end ReconcilerDb

end Codemem
