import Codemem.Text
import Codemem.Json
import Codemem.Foundation.KeyedRows

/-!
# Repository identities of workspaces

Sessions record the workspace they ran in and the repository found there.  A workspace with one
recorded repository stands for it, a workspace without any may be discovered on disk to be a
checkout of a known one.  `canonicalRepositoryProjectIdentity` replaces a workspace by the
repository it stands for: one lookup, so that a repository which is itself a workspace of another
one is reached in two steps (`canonical_canonical_iff`).
-/

namespace Codemem

/-! ### Identity texts -/

/-- The text without its trailing slashes. -/
def stripTrailingSlashes (s : String) : String :=
  String.ofList (s.toList.reverse.dropWhile (· == '/')).reverse

def normalizeRepositoryWorkspaceIdentity (value : Option String) : Option String :=
  (cleanText value).map fun cleaned =>
    let stripped := stripTrailingSlashes
      (String.ofList (cleaned.toList.map fun c => if c == '\\' then '/' else c))
    if stripped.toList.isEmpty then cleaned else stripped

/-- The text holds a phrase that ends at the end of a word. -/
def containsPhrase (phrase s : String) : Bool :=
  s.toList.tails.any fun tail =>
    phrase.toList.isPrefixOf tail &&
      ((tail.drop phrase.toList.length).head?.all fun c => !isWordChar c)

/-- The text starts with a word that a character with the property follows. -/
def startsWithWord (word : String) (follows : Char → Bool) (s : String) : Bool :=
  hasPrefix word s && (s.toList.drop word.toList.length).head?.any follows

/-- `COMMAND_FAILURE_PREFIX` of a lower-case text. -/
def isCommandFailure (s : String) : Bool :=
  startsWithWord "command failed" (fun c => isTrimSpace c || c == ':') s ||
    startsWithWord "error:" isTrimSpace s || startsWithWord "fatal:" isTrimSpace s ||
    startsWithWord "git:" isTrimSpace s

/-- `WRAPPED_GIT_FAILURE` of a lower-case text. -/
def isWrappedGitFailure (s : String) : Bool :=
  ["giterror:", "git error:", "git command failed:"].any fun wrapper =>
    hasPrefix wrapper s &&
      ["not a git repository", "unknown revision or path", "no such remote"].any fun phrase =>
        containsPhrase phrase (sliceFrom wrapper.toList.length s)

/-- `isMalformedProjectIdentity`: the message of a failed discovery. -/
def isMalformedProjectIdentity (value : String) : Bool :=
  let cleaned := trim value
  if cleaned.toList.isEmpty then false
  else if cleaned.toList.any fun c => c == '\n' || c == '\r' then true
  else isCommandFailure (toLowerCase cleaned) || isWrappedGitFailure (toLowerCase cleaned)

def cleanProjectIdentity (value : Option String) : Option String :=
  (cleanText value).filter fun cleaned => !isMalformedProjectIdentity cleaned

/-- `REPOSITORY_IDENTITY_METADATA_KEY`. -/
def repositoryIdentityMetadataKey : String := "codemem_repository_identity"

def repositoryIdentityFromMetadata (metadataJson : Option JsonText) : Option String :=
  cleanText ((((metadataJson.filter fun text => !text.isFalsy).bind JsonText.parse).bind
    Json.asObject).bind fun metadata =>
      (metadata.get repositoryIdentityMetadataKey).bind Json.asText)

/-! ### Recorded repositories -/

/-- The columns of a session that tell its workspace and repository. -/
structure SessionWorkspace where
  cwd : Option String
  gitRemote : Option String
  metadataJson : Option JsonText

/-- What a session row says about its workspace. -/
structure RepositoryEvidence where
  cwd : String
  fromMetadata : Bool
  repositoryIdentity : String

/-- `value IS NOT NULL AND TRIM(value) <> ''`. -/
def sqlNonblank (value : Option String) : Bool :=
  value.any fun text => !text.toList.all (· == ' ')

/-- The rows that `recordedRepositoryIdentitySetsByWorkspace` selects. -/
def SessionWorkspace.recordsRepository (row : SessionWorkspace) : Bool :=
  sqlNonblank row.cwd &&
    (((((row.metadataJson.bind JsonText.parse).bind Json.asObject).bind fun metadata =>
      metadata.get repositoryIdentityMetadataKey).bind Json.asText).isSome ||
        sqlNonblank row.gitRemote)

def recordedRepositoryEvidence (row : SessionWorkspace) : Option RepositoryEvidence :=
  (normalizeRepositoryWorkspaceIdentity row.cwd).bind fun cwd =>
    let metadataIdentity := normalizeRepositoryWorkspaceIdentity
      (cleanProjectIdentity (repositoryIdentityFromMetadata row.metadataJson))
    (metadataIdentity <|>
      normalizeRepositoryWorkspaceIdentity (cleanProjectIdentity row.gitRemote)).map
        fun repositoryIdentity => ⟨cwd, metadataIdentity.isSome, repositoryIdentity⟩

/-- `recordedRepositoryIdentitySetsByWorkspace`: the distinct repositories of each workspace, those
of the metadata first. -/
def recordedRepositoryIdentitySetsByWorkspace (sessions : List SessionWorkspace) :
    List (String × List String) :=
  let evidence := (sessions.filter SessionWorkspace.recordsRepository).filterMap
    recordedRepositoryEvidence
  let ordered := (evidence.filter RepositoryEvidence.fromMetadata) ++
    evidence.filter fun item => !item.fromMetadata
  (ordered.map RepositoryEvidence.cwd).eraseDups.map fun cwd =>
    (cwd, ((ordered.filter fun item => item.cwd == cwd).map
      RepositoryEvidence.repositoryIdentity).eraseDups)

/-- The repository of a workspace with exactly one. -/
def soleIdentity (entry : String × List String) : Option (String × String) :=
  match entry.2 with
  | [repositoryIdentity] => some (entry.1, repositoryIdentity)
  | _ => none

/-! ### The identity map -/

/-- The map from workspaces to the repositories that they stand for. -/
abbrev RepositoryIdentities := List (String × String)

/-- `map.get(identity)`. -/
def RepositoryIdentities.lookup (identities : RepositoryIdentities) (identity : String) :
    Option String :=
  (rowAt Prod.fst identity identities).map Prod.snd

/-- `discoverKnownRepositoryIdentity`: what the file system says about an absolute path, when it is
a known repository. -/
def discoverKnownRepositoryIdentity (resolveGitRepositoryIdentity : String → Option String)
    (known : List String) (cwd : String) : Option String :=
  if hasPrefix "/" cwd then
    (normalizeRepositoryWorkspaceIdentity (resolveGitRepositoryIdentity cwd)).filter known.contains
  else none

/-- The map with the repository that is discovered for a workspace without any. -/
def addDiscovered (resolveGitRepositoryIdentity : String → Option String)
    (recordedWorkspaces known : List String) (identities : RepositoryIdentities) (row : String) :
    RepositoryIdentities :=
  match normalizeRepositoryWorkspaceIdentity (some row) with
  | none => identities
  | some cwd =>
    if (identities.lookup cwd).isSome || recordedWorkspaces.contains cwd then identities
    else
      match discoverKnownRepositoryIdentity resolveGitRepositoryIdentity known row with
      | none => identities
      | some repositoryIdentity => identities ++ [(cwd, repositoryIdentity)]

def repositoryIdentitiesByWorkspace (resolveGitRepositoryIdentity : String → Option String)
    (sessions : List SessionWorkspace) : RepositoryIdentities :=
  let sets := recordedRepositoryIdentitySetsByWorkspace sessions
  let cwds := ((sessions.map SessionWorkspace.cwd).filter sqlNonblank).filterMap id
  (cwds.eraseDups.insertionSort (· ≤ ·)).foldl
    (addDiscovered resolveGitRepositoryIdentity (sets.map Prod.fst) (sets.flatMap Prod.snd))
    (sets.filterMap soleIdentity)

def canonicalRepositoryProjectIdentity (identities : RepositoryIdentities) (value : String) :
    String :=
  match normalizeRepositoryWorkspaceIdentity (some value) with
  | none => value
  | some identity => (identities.lookup identity).getD identity

/-! ### Canonical identities -/

/-- Canonicalising leaves the identity alone: it is the repository of a workspace of its own
spelling, or it is a normal form and no workspace. -/
def IsSettledIdentity (identities : RepositoryIdentities) (identity : String) : Prop :=
  match normalizeRepositoryWorkspaceIdentity (some identity) with
  | none => True
  | some normal =>
    identities.lookup normal = some identity ∨ identities.lookup normal = none ∧ normal = identity

/-- What a value stands for is settled: it is not itself a workspace of another repository, and it
is a normal form. -/
def AliasSettled (identities : RepositoryIdentities) (value : String) : Prop :=
  match normalizeRepositoryWorkspaceIdentity (some value) with
  | none => True
  | some identity => IsSettledIdentity identities ((identities.lookup identity).getD identity)

variable {identities : RepositoryIdentities}

lemma canonical_eq_self_iff {identity : String} :
    canonicalRepositoryProjectIdentity identities identity = identity ↔
      IsSettledIdentity identities identity := by
  unfold canonicalRepositoryProjectIdentity IsSettledIdentity
  rcases normalizeRepositoryWorkspaceIdentity (some identity) with _ | normal
  · simp
  · dsimp only
    rcases hroot : identities.lookup normal with _ | root
    · simp
    · simp

lemma canonical_canonical_iff {value : String} :
    canonicalRepositoryProjectIdentity identities
        (canonicalRepositoryProjectIdentity identities value) =
      canonicalRepositoryProjectIdentity identities value ↔ AliasSettled identities value := by
  rw [canonical_eq_self_iff]
  unfold canonicalRepositoryProjectIdentity AliasSettled
  rcases hnormal : normalizeRepositoryWorkspaceIdentity (some value) with _ | identity
  · simp [IsSettledIdentity, hnormal]
  · rfl

end Codemem
