import Codemem.Foundation.SqlCondition
import Codemem.Replication.OutboundFilter

/-!
# The filter builder for memory queries

`buildFilterClausesWithContext` collects the conditions of a query and, in a second list, the
parameters for their placeholders.  `buildFilterBranchesWithContext` splits the central read
filter into branches for `UNION ALL`.  Conditions are kept with the number of their placeholders,
so a parameter that is missing, left over or out of order shows in the value of the filter.
-/

namespace Codemem

/-- A value bound to a placeholder. -/
inductive FilterParam where
  | text (value : String)
  | number (value : ℚ)
  /-- `JSON.stringify(ids)`. -/
  | json (ids : List String)

namespace FilterParam

def asText : FilterParam → Option String
  | .text value => some value
  | _ => none

def asNumber : FilterParam → Option ℚ
  | .number value => some value
  | _ => none

/-- `SELECT value FROM json_each(?)`. -/
def asIds : FilterParam → Option (List String)
  | .json ids => some ids
  | _ => none

end FilterParam

/-- A row of `memory_items`, joined with the project of its session. -/
structure FilterRow where
  item : MemoryItem
  sessionProject : Option String

/-- A condition on such a row. -/
abbrev FilterClause := SqlClause FilterParam FilterRow

namespace FilterClause

/-- A condition with one placeholder for a text. -/
def text (holds : String → FilterRow → SqlBool) : FilterClause where
  arity := 1
  holds params row := (params.head?.bind FilterParam.asText).bind fun value => holds value row

/-- A condition with one placeholder for a number. -/
def number (holds : ℚ → FilterRow → SqlBool) : FilterClause where
  arity := 1
  holds params row := (params.head?.bind FilterParam.asNumber).bind fun value => holds value row

/-- A condition with one placeholder for a JSON list. -/
def json (holds : List String → FilterRow → SqlBool) : FilterClause where
  arity := 1
  holds params row := (params.head?.bind FilterParam.asIds).bind fun ids => holds ids row

/-- A condition with `n` placeholders for texts. -/
def texts (n : ℕ) (holds : List String → FilterRow → SqlBool) : FilterClause where
  arity := n
  holds params row := holds (params.filterMap FilterParam.asText) row

end FilterClause

structure FilterResult extends SqlFilter FilterParam FilterRow where
  joinSessions : Bool

namespace FilterResult

/-- `{ clauses: [], params: [], joinSessions: false }`. -/
def empty : FilterResult := ⟨⟨[], []⟩, false⟩

/-- `clauses.push(clause)` and `params.push(...params)`. -/
def add (result : FilterResult) (clause : FilterClause) (params : List FilterParam) :
    FilterResult :=
  { result with clauses := result.clauses ++ [clause], params := result.params ++ params }

end FilterResult

/-! ### Filter values -/

/-- `normalizeFilterStrings`; a single string is a list of one. -/
def normalizeFilterStrings (value : Option (List String)) : List String :=
  (((value.getD []).map trim).filter fun item => !item.toList.isEmpty).eraseDups

/-- `normalizeVisibilityValues` and its siblings: the values that are one of the given words. -/
def normalizeWords (lowerCase : String → String) (words : List String)
    (value : Option (List String)) : List String :=
  (((normalizeFilterStrings value).map lowerCase).filter words.contains).eraseDups

def cleanUniqueStrings (value : List String) : List String :=
  ((value.map trim).filter fun item => !item.toList.isEmpty).eraseDups

/-- The fields of `MemoryFilters` that the builder reads. -/
structure MemoryFilters where
  kind : Option String
  sessionId : Option ℚ
  since : Option String
  project : Option String
  scopeId : Option (List String)
  includeScopeIds : Option (List String)
  excludeScopeIds : Option (List String)
  visibility : Option (List String)
  includeVisibility : Option (List String)
  excludeVisibility : Option (List String)
  includeWorkspaceIds : Option (List String)
  excludeWorkspaceIds : Option (List String)
  includeWorkspaceKinds : Option (List String)
  excludeWorkspaceKinds : Option (List String)
  includeActorIds : Option (List String)
  excludeActorIds : Option (List String)
  includeTrustStates : Option (List String)
  excludeTrustStates : Option (List String)
  ownershipScope : Option String

/-- What the builder asks the database of its context. -/
structure ScopeVisibilityDb where
  store : Store
  /-- `resolveVisibleScopeIds` for a device. -/
  resolveVisibleScopeIds : String → List String
  /-- `matchingLocalCreationClause`: an `EXISTS`, so it is true or false of every row. -/
  matchingLocalCreationClause : Option (MemoryItem → Bool)
  /-- The table `memory_source_bindings` exists. -/
  hasSourceBindings : Bool
  /-- `localCreationSourceIds` for a device. -/
  localCreationSourceIds : String → List String

structure OwnershipFilterContext where
  actorId : String
  deviceId : String
  claimedDeviceIds : List String
  legacyActorIds : List String
  enforceScopeVisibility : Bool
  visibleScopeIds : Option (List String)
  scopeVisibilityDb : Option ScopeVisibilityDb

/-- What the language and the database contribute: `toLowerCase`, and the text that SQLite makes of
a JSON value that is neither a string nor `null`. -/
structure FilterTools where
  lowerCase : String → String
  jsonText : Json → String

/-! ### Ownership -/

/-- `json_extract(metadata_json, '$.key')` as a text, or the empty text: the value of the first
field of that name. -/
def jsonExtractText (tools : FilterTools) (metadata : Option JsonText) (key : String) : String :=
  match metadata with
  | some (.encoded (.obj fields)) =>
    match JsonObject.get fields key with
    | none => ""
    | some .null => ""
    | some (.str value) => value
    | some value => tools.jsonText value
  | _ => ""

/-- `COALESCE(NULLIF(TRIM(column), ''), NULLIF(TRIM(fallback), ''), '')`. -/
def ownershipColumnSql (column : Option String) (fallback : String) : String :=
  if (sqlTrim (column.getD "")).toList.isEmpty then sqlTrim fallback else sqlTrim (column.getD "")

/-- `OWNERSHIP_ACTOR_SQL`. -/
def ownershipActorSql (tools : FilterTools) (item : MemoryItem) : String :=
  ownershipColumnSql item.actorId (jsonExtractText tools item.metadataJson "actor_id")

/-- `OWNERSHIP_ORIGIN_DEVICE_SQL`. -/
def ownershipOriginDeviceSql (tools : FilterTools) (item : MemoryItem) : String :=
  ownershipColumnSql item.originDeviceId
    (jsonExtractText tools item.metadataJson "origin_device_id")

/-- `<expression> = ?`. -/
def expressionIs (expression : MemoryItem → String) : FilterClause :=
  .text fun value row => some (expression row.item == value)

/-- `<expression> IN (?, …)`. -/
def expressionIn (expression : MemoryItem → String) (n : ℕ) : FilterClause :=
  .texts n fun values row => SqlBool.isIn (some (expression row.item)) values

/-- The alternatives of `ownershipPredicateSql`, each with its parameters. -/
def ownershipAlternatives (tools : FilterTools) (context : OwnershipFilterContext) :
    List (FilterClause × List FilterParam) :=
  let actorId := trim context.actorId
  let deviceId := trim context.deviceId
  let claimedDeviceIds := cleanUniqueStrings context.claimedDeviceIds
  let legacyActorIds := cleanUniqueStrings context.legacyActorIds
  -- a blank identity must not match every row without an owner
  (if actorId.toList.isEmpty then []
    else [(expressionIs (ownershipActorSql tools), [.text actorId])]) ++
  (if deviceId.toList.isEmpty then []
    else [(expressionIs (ownershipOriginDeviceSql tools), [.text deviceId])]) ++
  (if claimedDeviceIds.isEmpty then []
    else [(expressionIn (ownershipOriginDeviceSql tools) claimedDeviceIds.length,
      claimedDeviceIds.map .text)]) ++
  (if legacyActorIds.isEmpty then []
    else [(expressionIn (ownershipActorSql tools) legacyActorIds.length,
      legacyActorIds.map .text)])

/-- `alternatives.join(" OR ")`, or `0 = 1`. -/
def joinOr (alternatives : List FilterClause) : FilterClause :=
  match alternatives with
  | [] => .fact fun _ => some false
  | first :: rest => rest.foldl SqlClause.or first

def ownershipPredicateSql (tools : FilterTools) (context : OwnershipFilterContext) :
    FilterClause × List FilterParam :=
  let alternatives := ownershipAlternatives tools context
  (joinOr (alternatives.map Prod.fst), alternatives.flatMap Prod.snd)

/-! ### Scope visibility -/

/-- `MAX_SCOPE_IN_PARAMS`. -/
def maxScopeInParams : ℕ := 500

/-- `LEGACY_SHARED_REVIEW_SCOPE_ID`. -/
def legacySharedReviewScopeId : String := "legacy-shared-review"

/-- `authority_type IN ('local', 'manual', 'invite')`. -/
def AuthorityType.isUnmanaged : AuthorityType → Bool
  | .local => true
  | .coordinator => false
  | .other name => name == "manual" || name == "invite"

def localCreationSourcesForFilter (context : OwnershipFilterContext)
    (visibleScopeIds : Option (List String)) : List String :=
  match context.scopeVisibilityDb, visibleScopeIds with
  | some db, some ids =>
    match db.matchingLocalCreationClause with
    | none => []
    | some creation =>
      if db.hasSourceBindings = false then []
      else
        let candidate := db.store.memorySourceBindings.any fun binding =>
          binding.evidence == .localCreation && db.store.memoryItems.any fun row =>
            row.importKey == some binding.entityId && creation row &&
              !ids.contains (row.scopeId.getD "")
        if candidate then db.localCreationSourceIds (trim context.deviceId) else []
  | _, _ => []

/-- The creation evidence that the filter uses, if it has sources. -/
def creationEvidence (context : OwnershipFilterContext) (visibleScopeIds : Option (List String)) :
    Option (MemoryItem → Bool) :=
  if (localCreationSourcesForFilter context visibleScopeIds).isEmpty then none
  else context.scopeVisibilityDb.bind ScopeVisibilityDb.matchingLocalCreationClause

/-- The scopes a query sees: given with the context, or resolved by its database. -/
def visibleScopes (context : OwnershipFilterContext) : Option (List String) :=
  context.visibleScopeIds.or
    (context.scopeVisibilityDb.map fun db => db.resolveVisibleScopeIds (trim context.deviceId))

/-- `<origin device> = ? AND ? <> 'local'`. -/
def authoredHere (tools : FilterTools) : FilterClause :=
  (expressionIs (ownershipOriginDeviceSql tools)).and
    (FilterClause.text fun value _ => some (value != "local"))

/-- The legacy exception for rows of unmanaged scopes that this device wrote. -/
def unmanagedAuthored (tools : FilterTools) (st : Store) : FilterClause :=
  (SqlClause.fact fun row => SqlBool.isIn row.item.scopeId
    ((st.replicationScopes.filter fun scope => scope.authorityType.isUnmanaged).map
      ReplicationScope.scopeId)).and
    ((authoredHere tools).or (.fact fun row =>
      some (ownershipOriginDeviceSql tools row.item == "local" &&
        (sqlTrim (row.item.importKey.getD "")).toList.isEmpty)))

/-- `EXISTS (SELECT 1 FROM memory_source_bindings …)` for the creation evidence of a row. -/
def authoredByCreation (st : Store) (creation : MemoryItem → Bool) (n : ℕ) : FilterClause :=
  .texts n fun sourceIds row => some (st.memorySourceBindings.any fun binding =>
    row.item.importKey == some binding.entityId && binding.evidence == .localCreation &&
      sourceIds.contains binding.sourceDeviceId && creation row.item)

/-- `memory_items.id IN (SELECT id … WHERE import_key IN (…))`. -/
def createdRowIds (st : Store) (n : ℕ) : FilterClause :=
  .texts n fun sourceIds row => SqlBool.isIn (some row.item.id)
    ((st.memoryItems.filter fun item =>
      SqlBool.isIn item.importKey ((st.memorySourceBindings.filter fun binding =>
        binding.evidence == .localCreation && sourceIds.contains binding.sourceDeviceId).map
          MemorySourceBinding.entityId) == some true).map MemoryItem.id)

def resolvedScopeClause (visibleScopeIds : List String) : FilterClause × List FilterParam :=
  if maxScopeInParams < visibleScopeIds.length then
    (.json fun ids row => SqlBool.isIn row.item.scopeId ids, [.json visibleScopeIds])
  else if visibleScopeIds.isEmpty then (.fact fun _ => some false, [])
  else (.texts visibleScopeIds.length fun ids row => SqlBool.isIn row.item.scopeId ids,
    visibleScopeIds.map .text)

/-- The condition without a database: membership rows of unmanaged scopes only. -/
def unresolvedScopeClause (st : Store) : FilterClause :=
  (FilterClause.texts 3 fun values row =>
    SqlBool.isIn (some (sqlTrim (row.item.scopeId.getD ""))) values).or
  ((SqlClause.fact fun row => some (st.replicationScopes.any fun scope =>
    row.item.scopeId == some scope.scopeId && scope.status == "active" &&
      scope.authorityType == .local)).or
  (FilterClause.text fun deviceId row => some (st.scopeMemberships.any fun membership =>
    row.item.scopeId == some membership.scopeId && membership.deviceId == deviceId &&
      membership.status == "active" && st.replicationScopes.any fun scope =>
        scope.scopeId == membership.scopeId && scope.status == "active" &&
          scope.authorityType.isUnmanaged && scope.membershipEpoch ≤ membership.membershipEpoch)))

/-- The scope condition of a query with its parameters, and the branches that replace it.  The
second list is what the code pushes to `resolvedBranches`, when it is given. -/
def addScopeVisibilityFilter (tools : FilterTools) (st : Store)
    (context : Option OwnershipFilterContext) (resolvedBranches : Bool) :
    FilterResult × List FilterResult :=
  match context with
  | none => (.empty, [])
  | some context =>
    if context.enforceScopeVisibility = false then (.empty, [])
    else
      let deviceId := trim context.deviceId
      if deviceId.toList.isEmpty then (FilterResult.empty.add (.fact fun _ => some false) [], [])
      else
        let visibleScopeIds := visibleScopes context
        let sourceIds := localCreationSourcesForFilter context visibleScopeIds
        let unmanaged := unmanagedAuthored tools st
        let creation := creationEvidence context visibleScopeIds
        let authored := creation.elim unmanaged fun creation =>
          unmanaged.or (authoredByCreation st creation sourceIds.length)
        let authoredBranches : List FilterResult :=
          FilterResult.empty.add unmanaged [.text deviceId, .text deviceId] ::
            creation.elim [] fun creation =>
              [((FilterResult.empty.add (createdRowIds st sourceIds.length)
                (sourceIds.map .text)).add (.fact fun row => some (creation row.item)) []).add
                  unmanaged.coalesceFalse.not [.text deviceId, .text deviceId]]
        match visibleScopeIds with
        | some ids =>
          let (scopeClause, scopeParams) := resolvedScopeClause ids
          if resolvedBranches then
            (.empty,
              FilterResult.empty.add (.fact fun row => some row.item.scopeId.isNone) [] ::
              FilterResult.empty.add scopeClause scopeParams ::
              authoredBranches.map fun branch =>
                ⟨⟨[.fact fun row => some row.item.scopeId.isSome, scopeClause.not] ++
                  branch.clauses, scopeParams ++ branch.params⟩, false⟩)
          else
            (FilterResult.empty.add
              ((SqlClause.fact fun row => some row.item.scopeId.isNone).or
                (scopeClause.or authored))
              (scopeParams ++ [.text deviceId, .text deviceId] ++ sourceIds.map .text), [])
        | none =>
          (FilterResult.empty.add ((unresolvedScopeClause st).or authored)
            [.text "", .text defaultSyncScopeId, .text legacySharedReviewScopeId, .text deviceId,
              .text deviceId, .text deviceId], [])

/-! ### The filters of a request -/

def escapeSqlLikePattern (value : List Char) : List Char :=
  value.flatMap fun c => if c = '\\' ∨ c = '%' ∨ c = '_' then ['\\', c] else [c]

/-- `text LIKE pattern ESCAPE '\\'`, which ignores the case of ASCII letters. -/
def sqlLike : List Char → List Char → Bool
  | [], text => text.isEmpty
  | '%' :: pattern, text => text.tails.any fun rest => sqlLike pattern rest
  | '_' :: pattern, text => !text.isEmpty && sqlLike pattern text.tail
  | '\\' :: c :: pattern, text =>
    text.head?.any (fun d => d.toLower == c.toLower) && sqlLike pattern text.tail
  | c :: pattern, text =>
    text.head?.any (fun d => d.toLower == c.toLower) && sqlLike pattern text.tail

/-- The value that `projectColumnClause` compares with, unless the project is blank. -/
def projectValue (project : String) : Option (List Char) :=
  let trimmed := (trim project).toList
  let value := if trimmed.any (fun c => c == '\\' || c == '/') then (projectBasename (trim project)).toList
    else trimmed
  if value.isEmpty then none else some value

/-- `COALESCE(sessions.project, memory_items.project)`. -/
def FilterRow.project (row : FilterRow) : Option String := row.sessionProject.or row.item.project

/-- `<project> LIKE ? ESCAPE '\\'`. -/
def projectLike : FilterClause :=
  .text fun pattern row => row.project.map fun text => sqlLike pattern.toList text.toList

/-- `projectColumnClause` for a value that is not blank. -/
def projectColumnClause (value : List Char) : FilterClause × List FilterParam :=
  ((FilterClause.text fun value row => SqlBool.eq row.project (some value)).or
      (projectLike.or projectLike),
    [.text (String.ofList value),
      .text (String.ofList ('%' :: '/' :: escapeSqlLikePattern value)),
      .text (String.ofList ('%' :: '\\' :: escapeSqlLikePattern value))])

def addOptional {α : Type} (value : Option α) (step : α → FilterResult → FilterResult)
    (result : FilterResult) : FilterResult :=
  value.elim result fun v => step v result

def addProjectFilter (project : Option String) : FilterResult → FilterResult :=
  addOptional ((project.filter fun text => !text.toList.isEmpty).bind projectValue)
    fun value result =>
      { result.add (projectColumnClause value).1 (projectColumnClause value).2 with
        joinSessions := true }

def addMultiValueFilter (column : FilterRow → Option String) (include' exclude : List String)
    (result : FilterResult) : FilterResult :=
  let isOneOf (n : ℕ) : FilterClause := .texts n fun values row => SqlBool.isIn (column row) values
  let included := if include'.isEmpty then result
    else result.add (isOneOf include'.length) (include'.map .text)
  if exclude.isEmpty then included
  else included.add ((SqlClause.fact fun row => some (column row).isNone).or
    (isOneOf exclude.length).not) (exclude.map .text)

/-- The condition on the owner, for `ownership_scope` `mine` and `theirs`. -/
def addOwnershipFilter (tools : FilterTools) (context : Option OwnershipFilterContext)
    (ownershipScope : Option String) (result : FilterResult) : FilterResult :=
  let scope := tools.lowerCase (trim (ownershipScope.getD ""))
  match context with
  | none => result
  | some context =>
    let owned := ownershipPredicateSql tools context
    if scope = "mine" then result.add owned.1 owned.2
    else if scope = "theirs" then result.add owned.1.not owned.2
    else result

/-- `filters.kind`. -/
def addKindFilter (kind : Option String) : FilterResult → FilterResult :=
  addOptional (kind.filter fun kind => !kind.toList.isEmpty) fun kind result =>
    result.add (.text fun value row => some (row.item.kind == value)) [.text kind]

/-- `filters.session_id`. -/
def addSessionFilter (sessionId : Option ℚ) : FilterResult → FilterResult :=
  addOptional (sessionId.filter (· != 0)) fun sessionId result =>
    result.add (.number fun value row => some ((row.item.sessionId : ℚ) == value))
      [.number sessionId]

/-- `filters.since`. -/
def addSinceFilter (since : Option String) : FilterResult → FilterResult :=
  addOptional (since.filter fun since => !since.toList.isEmpty) fun since result =>
    result.add (.text fun value row => some (decide (value ≤ row.item.createdAt))) [.text since]

/-- The part of `buildFilterClausesWithContext` after the scope condition. -/
def addMemoryFilters (tools : FilterTools) (context : Option OwnershipFilterContext)
    (filters : MemoryFilters) (result : FilterResult) : FilterResult :=
  let visibilities := normalizeWords tools.lowerCase ["private", "shared"]
  let kinds := normalizeWords tools.lowerCase ["personal", "shared"]
  let trust := normalizeWords tools.lowerCase ["trusted", "legacy_unknown", "unreviewed"]
  let owned := addOwnershipFilter tools context filters.ownershipScope
    (addSinceFilter filters.since (addSessionFilter filters.sessionId
      (addKindFilter filters.kind result)))
  let project := addProjectFilter filters.project owned
  let visibility := addMultiValueFilter (fun row => row.item.visibility)
    (visibilities (filters.includeVisibility.or filters.visibility))
    (visibilities filters.excludeVisibility) project
  let scopes := addMultiValueFilter (fun row => row.item.scopeId)
    (normalizeFilterStrings (filters.includeScopeIds.or filters.scopeId))
    (normalizeFilterStrings filters.excludeScopeIds) visibility
  let workspaces := addMultiValueFilter (fun row => row.item.workspaceId)
    (normalizeFilterStrings filters.includeWorkspaceIds)
    (normalizeFilterStrings filters.excludeWorkspaceIds) scopes
  let workspaceKinds := addMultiValueFilter (fun row => row.item.workspaceKind)
    (kinds filters.includeWorkspaceKinds) (kinds filters.excludeWorkspaceKinds) workspaces
  let actors := addMultiValueFilter (fun row => row.item.actorId)
    (normalizeFilterStrings filters.includeActorIds)
    (normalizeFilterStrings filters.excludeActorIds) workspaceKinds
  addMultiValueFilter (fun row => row.item.content.trustState)
    (trust filters.includeTrustStates) (trust filters.excludeTrustStates) actors

def buildFilterClausesWithContext (tools : FilterTools) (st : Store)
    (filters : Option MemoryFilters) (ownership : Option OwnershipFilterContext) : FilterResult :=
  addOptional filters (addMemoryFilters tools ownership)
    (addScopeVisibilityFilter tools st ownership false).1

def buildFilterBranchesWithContext (tools : FilterTools) (st : Store)
    (filters : Option MemoryFilters) (ownership : Option OwnershipFilterContext) :
    List FilterResult :=
  if (ownership.bind OwnershipFilterContext.visibleScopeIds).isNone then
    [buildFilterClausesWithContext tools st filters ownership]
  else
    let (result, resolved) := addScopeVisibilityFilter tools st ownership true
    let common := buildFilterClausesWithContext tools st filters
      (ownership.map fun context => { context with enforceScopeVisibility := false })
    let branches := if resolved.isEmpty then [result] else resolved
    branches.map fun branch =>
      ⟨⟨branch.clauses ++ common.clauses, branch.params ++ common.params⟩, common.joinSessions⟩

end Codemem
