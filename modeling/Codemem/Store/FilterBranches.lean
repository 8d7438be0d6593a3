import Codemem.Store.FilterMeaning
import Codemem.Store.ClockMonotone

/-!
# The branches of the central read filter

`buildFilterBranchesWithContext` splits the read filter into branches whose counts are added up.
`ScopeReadable` and `MatchesFilters` say what the conditions of the filter mean.  The filter has that
meaning, and a row that satisfies it satisfies exactly one of the branches.
-/

namespace Codemem

/-! ### The filters of a request -/

/-- A project is the value, or ends with it behind a slash. -/
def ProjectMatches (value : List Char) (project : String) : Prop :=
  project = String.ofList value ∨
    sqlLike ('%' :: '/' :: escapeSqlLikePattern value) project.toList = true ∨
    sqlLike ('%' :: '\\' :: escapeSqlLikePattern value) project.toList = true

/-- What the filters of a request ask of a row, one after the other. -/
structure MatchesFilters (tools : FilterTools) (context : Option OwnershipFilterContext)
    (filters : MemoryFilters) (row : FilterRow) : Prop where
  kind : ∀ kind ∈ filters.kind.filter (fun kind => !kind.toList.isEmpty), row.item.kind = kind
  session : ∀ id ∈ filters.sessionId.filter (· != 0), (row.item.sessionId : ℚ) = id
  since : ∀ since ∈ filters.since.filter (fun since => !since.toList.isEmpty),
    since ≤ row.item.createdAt
  mine : ∀ ctx ∈ context, tools.lowerCase (trim (filters.ownershipScope.getD "")) = "mine" →
    OwnedInSql tools ctx row.item
  theirs : ∀ ctx ∈ context, tools.lowerCase (trim (filters.ownershipScope.getD "")) = "theirs" →
    ¬ OwnedInSql tools ctx row.item
  project : ∀ value ∈ (filters.project.filter fun text => !text.toList.isEmpty).bind projectValue,
    ∃ project, row.project = some project ∧ ProjectMatches value project
  visibility : OneOf row.item.visibility
    (normalizeWords tools.lowerCase ["private", "shared"]
      (filters.includeVisibility.or filters.visibility))
    (normalizeWords tools.lowerCase ["private", "shared"] filters.excludeVisibility)
  scope : OneOf row.item.scopeId
    (normalizeFilterStrings (filters.includeScopeIds.or filters.scopeId))
    (normalizeFilterStrings filters.excludeScopeIds)
  workspace : OneOf row.item.workspaceId (normalizeFilterStrings filters.includeWorkspaceIds)
    (normalizeFilterStrings filters.excludeWorkspaceIds)
  workspaceKind : OneOf row.item.workspaceKind
    (normalizeWords tools.lowerCase ["personal", "shared"] filters.includeWorkspaceKinds)
    (normalizeWords tools.lowerCase ["personal", "shared"] filters.excludeWorkspaceKinds)
  actor : OneOf row.item.actorId (normalizeFilterStrings filters.includeActorIds)
    (normalizeFilterStrings filters.excludeActorIds)
  trust : OneOf row.item.content.trustState
    (normalizeWords tools.lowerCase ["trusted", "legacy_unknown", "unreviewed"]
      filters.includeTrustStates)
    (normalizeWords tools.lowerCase ["trusted", "legacy_unknown", "unreviewed"]
      filters.excludeTrustStates)

lemma appends_addOptional {α : Type} (value : Option α)
    {step : α → FilterResult → FilterResult} {P : α → FilterRow → Prop}
    (h : ∀ v, Appends (step v) (P v)) :
    Appends (addOptional value step) fun row => ∀ v ∈ value, P v row := by
  rcases value with _ | v
  · exact appends_id.congr fun row => by simp
  · exact (h v).congr fun row => by simp

lemma appends_addProjectFilter (project : Option String) :
    Appends (addProjectFilter project) fun row =>
      ∀ value ∈ (project.filter fun text => !text.toList.isEmpty).bind projectValue,
        ∃ text, row.project = some text ∧ ProjectMatches value text := by
  refine appends_addOptional _ fun value => ?_
  let like (pattern : List Char) : BoundFilter :=
    .text (fun pattern row => row.project.map fun text => sqlLike pattern.toList text.toList)
      (String.ofList pattern)
  let exact' : BoundFilter :=
    .text (fun value row => SqlBool.eq row.project (some value)) (String.ofList value)
  refine appends_add_joined (exact'.or ((like ('%' :: '/' :: escapeSqlLikePattern value)).or
    (like ('%' :: '\\' :: escapeSqlLikePattern value)))) fun row => ?_
  rw [BoundClause.value_or, BoundClause.value_or, SqlBool.or_eq_true_iff, SqlBool.or_eq_true_iff]
  simp only [exact', like, BoundFilter.value_text, SqlBool.eq_eq_true_iff, String.toList_ofList]
  rcases row.project with _ | text
  · simp
  · simp [ProjectMatches]

lemma appends_addOwnershipFilter (tools : FilterTools) (context : Option OwnershipFilterContext)
    (ownershipScope : Option String) :
    Appends (addOwnershipFilter tools context ownershipScope) fun row =>
      (∀ ctx ∈ context, tools.lowerCase (trim (ownershipScope.getD "")) = "mine" →
        OwnedInSql tools ctx row.item) ∧
      ∀ ctx ∈ context, tools.lowerCase (trim (ownershipScope.getD "")) = "theirs" →
        ¬ OwnedInSql tools ctx row.item := by
  unfold addOwnershipFilter
  rcases context with _ | context
  · exact appends_id.congr fun row => by simp
  · dsimp only
    rw [ownershipPredicateSql_eq]
    dsimp only
    generalize tools.lowerCase (trim (ownershipScope.getD "")) = scope
    split_ifs with hmine htheirs
    · refine appends_add (joinOrBound (ownershipBounds tools context)) fun row => ?_
      obtain ⟨owned, hvalue, howned⟩ := value_ownership tools context row
      rw [hvalue, Option.some.injEq, howned]
      subst hmine
      simp
    · rw [← BoundClause.clause_not, ← BoundClause.params_not]
      refine appends_add (joinOrBound (ownershipBounds tools context)).not fun row => ?_
      obtain ⟨owned, hvalue, howned⟩ := value_ownership tools context row
      rw [BoundClause.value_not, hvalue, SqlBool.not_eq_true_iff, Option.some.injEq,
        ← Bool.not_eq_true, howned]
      subst htheirs
      simp
    · exact appends_id.congr fun row => by simp [hmine, htheirs]

lemma appends_addKindFilter (kind : Option String) :
    Appends (addKindFilter kind) fun row =>
      ∀ k ∈ kind.filter (fun kind => !kind.toList.isEmpty), row.item.kind = k :=
  appends_addOptional _ fun kind =>
    appends_add (.text (fun value row => some (row.item.kind == value)) kind) fun row => by simp

lemma appends_addSessionFilter (sessionId : Option ℚ) :
    Appends (addSessionFilter sessionId) fun row =>
      ∀ id ∈ sessionId.filter (· != 0), (row.item.sessionId : ℚ) = id :=
  appends_addOptional _ fun sessionId =>
    appends_add (.number (fun value row => some ((row.item.sessionId : ℚ) == value)) sessionId)
      fun row => by simp

lemma appends_addSinceFilter (since : Option String) :
    Appends (addSinceFilter since) fun row =>
      ∀ t ∈ since.filter (fun since => !since.toList.isEmpty), t ≤ row.item.createdAt :=
  appends_addOptional _ fun since =>
    appends_add (.text (fun value row => some (decide (value ≤ row.item.createdAt))) since)
      fun row => by rw [BoundFilter.value_text, Option.some.injEq, decide_eq_true_eq]

/-- The filters of a request append what they ask of a row. -/
lemma appends_addMemoryFilters (tools : FilterTools) (context : Option OwnershipFilterContext)
    (filters : MemoryFilters) :
    Appends (addMemoryFilters tools context filters) (MatchesFilters tools context filters) := by
  have hvisibility := appends_addMultiValueFilter (fun row => row.item.visibility)
    (normalizeWords tools.lowerCase ["private", "shared"]
      (filters.includeVisibility.or filters.visibility))
    (normalizeWords tools.lowerCase ["private", "shared"] filters.excludeVisibility)
  have hscope := appends_addMultiValueFilter (fun row => row.item.scopeId)
    (normalizeFilterStrings (filters.includeScopeIds.or filters.scopeId))
    (normalizeFilterStrings filters.excludeScopeIds)
  have hworkspace := appends_addMultiValueFilter (fun row => row.item.workspaceId)
    (normalizeFilterStrings filters.includeWorkspaceIds)
    (normalizeFilterStrings filters.excludeWorkspaceIds)
  have hkinds := appends_addMultiValueFilter (fun row => row.item.workspaceKind)
    (normalizeWords tools.lowerCase ["personal", "shared"] filters.includeWorkspaceKinds)
    (normalizeWords tools.lowerCase ["personal", "shared"] filters.excludeWorkspaceKinds)
  have hactor := appends_addMultiValueFilter (fun row => row.item.actorId)
    (normalizeFilterStrings filters.includeActorIds)
    (normalizeFilterStrings filters.excludeActorIds)
  have htrust := appends_addMultiValueFilter (fun row => row.item.content.trustState)
    (normalizeWords tools.lowerCase ["trusted", "legacy_unknown", "unreviewed"]
      filters.includeTrustStates)
    (normalizeWords tools.lowerCase ["trusted", "legacy_unknown", "unreviewed"]
      filters.excludeTrustStates)
  have hsingle := ((((appends_addKindFilter filters.kind).comp
    (appends_addSessionFilter filters.sessionId)).comp
    (appends_addSinceFilter filters.since)).comp
    (appends_addOwnershipFilter tools context filters.ownershipScope)).comp
    (appends_addProjectFilter filters.project)
  refine ((((((hsingle.comp hvisibility).comp hscope).comp hworkspace).comp hkinds).comp
    hactor).comp htrust).congr fun row => ?_
  constructor
  · rintro ⟨⟨⟨⟨⟨⟨⟨⟨⟨⟨hkind, hsession⟩, hsince⟩, hmine, htheirs⟩, hproject⟩, hvisibility⟩, hscope⟩,
      hworkspace⟩, hkinds⟩, hactor⟩, htrust⟩
    exact ⟨hkind, hsession, hsince, hmine, htheirs, hproject, hvisibility, hscope, hworkspace,
      hkinds, hactor, htrust⟩
  · rintro ⟨hkind, hsession, hsince, hmine, htheirs, hproject, hvisibility, hscope, hworkspace,
      hkinds, hactor, htrust⟩
    exact ⟨⟨⟨⟨⟨⟨⟨⟨⟨⟨hkind, hsession⟩, hsince⟩, hmine, htheirs⟩, hproject⟩, hvisibility⟩, hscope⟩,
      hworkspace⟩, hkinds⟩, hactor⟩, htrust⟩

/-! ### Scope visibility -/

/-- The row is in an unmanaged scope, and this device or the placeholder device `local` wrote it. -/
def UnmanagedAuthored (tools : FilterTools) (st : Store) (deviceId : String) (row : FilterRow) :
    Prop :=
  (∃ scope ∈ st.replicationScopes, scope.authorityType.isUnmanaged = true ∧
    row.item.scopeId = some scope.scopeId) ∧
  (ownershipOriginDeviceSql tools row.item = deviceId ∧ deviceId ≠ "local" ∨
    ownershipOriginDeviceSql tools row.item = "local" ∧
      (sqlTrim (row.item.importKey.getD "")).toList.isEmpty = true)

/-- A binding of one of the sources names the row. -/
def BoundToSource (st : Store) (sourceIds : List String) (row : FilterRow) : Prop :=
  ∃ binding ∈ st.memorySourceBindings, binding.evidence = .localCreation ∧
    binding.sourceDeviceId ∈ sourceIds ∧ row.item.importKey = some binding.entityId

/-- The row was written here, by its legacy origin or by its creation evidence. -/
def Authored (tools : FilterTools) (st : Store) (context : OwnershipFilterContext)
    (visibleScopeIds : Option (List String)) (row : FilterRow) : Prop :=
  UnmanagedAuthored tools st (trim context.deviceId) row ∨
    ∃ creation ∈ creationEvidence context visibleScopeIds, creation row.item = true ∧
      BoundToSource st (localCreationSourcesForFilter context visibleScopeIds) row

/-- Without a database: the local scopes, and unmanaged ones of which the device is a member. -/
def UnresolvedReadable (st : Store) (deviceId : String) (row : FilterRow) : Prop :=
  sqlTrim (row.item.scopeId.getD "") ∈ ["", defaultSyncScopeId, legacySharedReviewScopeId] ∨
  (st.replicationScopes.any fun scope => row.item.scopeId == some scope.scopeId &&
    scope.status == "active" && scope.authorityType == .local) = true ∨
  (st.scopeMemberships.any fun membership =>
    row.item.scopeId == some membership.scopeId && membership.deviceId == deviceId &&
      membership.status == "active" && st.replicationScopes.any fun scope =>
        scope.scopeId == membership.scopeId && scope.status == "active" &&
          scope.authorityType.isUnmanaged && scope.membershipEpoch ≤ membership.membershipEpoch) =
    true

/-- The read boundary of a query. -/
def ScopeReadable (tools : FilterTools) (st : Store) (context : OwnershipFilterContext)
    (row : FilterRow) : Prop :=
  context.enforceScopeVisibility = true →
    (trim context.deviceId).toList.isEmpty = false ∧
      ((visibleScopes context).elim (UnresolvedReadable st (trim context.deviceId) row)
          (fun ids => row.item.scopeId = none ∨ ∃ id ∈ ids, row.item.scopeId = some id) ∨
        Authored tools st context (visibleScopes context) row)

lemma creationEvidence_isSome {context : OwnershipFilterContext}
    {visibleScopeIds : Option (List String)}
    (h : localCreationSourcesForFilter context visibleScopeIds ≠ []) :
    ∃ creation, creationEvidence context visibleScopeIds = some creation := by
  have hne : ¬ (localCreationSourcesForFilter context visibleScopeIds).isEmpty = true :=
    fun hempty => h (List.isEmpty_iff.mp hempty)
  rw [creationEvidence, if_neg hne]
  unfold localCreationSourcesForFilter at h
  rcases hdb : context.scopeVisibilityDb with _ | db
  · rw [hdb] at h
    exact absurd rfl h
  · rcases visibleScopeIds with _ | ids
    · rw [hdb] at h
      exact absurd rfl h
    · rw [hdb] at h
      dsimp only at h
      rcases hclause : db.matchingLocalCreationClause with _ | creation
      · rw [hclause] at h
        exact absurd rfl h
      · exact ⟨creation, hclause⟩

lemma sources_eq_nil {context : OwnershipFilterContext} {visibleScopeIds : Option (List String)}
    (h : creationEvidence context visibleScopeIds = none) :
    localCreationSourcesForFilter context visibleScopeIds = [] := by
  by_contra hne
  obtain ⟨creation, hsome⟩ := creationEvidence_isSome hne
  rw [h] at hsome
  cases hsome

section Bounds

variable (tools : FilterTools) (st : Store)

/-- `unmanagedAuthored` with its parameters. -/
def unmanagedBound (deviceId : String) : BoundFilter :=
  (BoundClause.fact fun row => SqlBool.isIn row.item.scopeId
    ((st.replicationScopes.filter fun scope => scope.authorityType.isUnmanaged).map
      ReplicationScope.scopeId)).and
    (((BoundFilter.text (fun value row => some (ownershipOriginDeviceSql tools row.item == value))
        deviceId).and
      (BoundFilter.text (fun value _ => some (value != "local")) deviceId)).or
    (BoundClause.fact fun row =>
      some (ownershipOriginDeviceSql tools row.item == "local" &&
        (sqlTrim (row.item.importKey.getD "")).toList.isEmpty)))

lemma unmanagedBound_eq (deviceId : String) :
    (unmanagedBound tools st deviceId).clause = unmanagedAuthored tools st ∧
      (unmanagedBound tools st deviceId).params = [.text deviceId, .text deviceId] :=
  ⟨rfl, rfl⟩

lemma value_unmanagedBound (deviceId : String) (row : FilterRow) :
    (unmanagedBound tools st deviceId).value row = some true ↔
      UnmanagedAuthored tools st deviceId row := by
  unfold unmanagedBound UnmanagedAuthored
  rw [BoundClause.value_and, BoundClause.value_or, BoundClause.value_and, SqlBool.and_eq_true_iff,
    SqlBool.or_eq_true_iff, SqlBool.and_eq_true_iff, BoundClause.value_fact,
    BoundClause.value_fact, BoundFilter.value_text, BoundFilter.value_text,
    SqlBool.isIn_eq_true_iff]
  refine and_congr ?_ ?_
  · constructor
    · rintro ⟨id, hid, hscope⟩
      obtain ⟨scope, hmem, rfl⟩ := List.mem_map.mp hid
      obtain ⟨hmem, hunmanaged⟩ := List.mem_filter.mp hmem
      exact ⟨scope, hmem, hunmanaged, hscope⟩
    · rintro ⟨scope, hmem, hunmanaged, hscope⟩
      exact ⟨_, List.mem_map.mpr ⟨scope, List.mem_filter.mpr ⟨hmem, hunmanaged⟩, rfl⟩, hscope⟩
  · rw [Option.some.injEq, Option.some.injEq, Option.some.injEq, Bool.and_eq_true, beq_iff_eq,
      beq_iff_eq, bne_iff_ne]

/-- The scope condition with its parameters. -/
def scopeBound (ids : List String) : BoundFilter where
  clause := (resolvedScopeClause ids).1
  params := (resolvedScopeClause ids).2
  bound := by
    unfold resolvedScopeClause
    split_ifs
    · rfl
    · rfl
    · exact List.length_map _

@[simp] lemma value_scopeBound (ids : List String) (row : FilterRow) :
    (scopeBound ids).value row = SqlBool.isIn row.item.scopeId ids := by
  unfold BoundClause.value scopeBound resolvedScopeClause
  dsimp only
  split_ifs with hlong hempty
  · rfl
  · rw [List.isEmpty_iff.mp hempty]
    rfl
  · change SqlBool.isIn row.item.scopeId ((ids.map FilterParam.text).filterMap FilterParam.asText) =
      _
    rw [BoundFilter.filterMap_asText]

/-- `authoredByCreation` with its parameters. -/
def creationBound (creation : MemoryItem → Bool) (sourceIds : List String) : BoundFilter :=
  .texts (fun sourceIds row => some (st.memorySourceBindings.any fun binding =>
    row.item.importKey == some binding.entityId && binding.evidence == .localCreation &&
      sourceIds.contains binding.sourceDeviceId && creation row.item)) sourceIds

lemma value_creationBound (creation : MemoryItem → Bool) (sourceIds : List String)
    (row : FilterRow) :
    (creationBound st creation sourceIds).value row = some true ↔
      creation row.item = true ∧ BoundToSource st sourceIds row := by
  rw [creationBound, BoundFilter.value_texts, Option.some.injEq, List.any_eq_true]
  constructor
  · rintro ⟨binding, hmem, h⟩
    simp only [Bool.and_eq_true, beq_iff_eq, List.contains_iff_mem] at h
    exact ⟨h.2, binding, hmem, h.1.1.2, h.1.2, h.1.1.1⟩
  · rintro ⟨hcreation, binding, hmem, hevidence, hsource, hkey⟩
    refine ⟨binding, hmem, ?_⟩
    simp only [Bool.and_eq_true, beq_iff_eq, List.contains_iff_mem]
    exact ⟨⟨⟨hkey, hevidence⟩, hsource⟩, hcreation⟩

/-- `createdRowIds` with its parameters. -/
def createdRowBound (sourceIds : List String) : BoundFilter :=
  .texts (fun sourceIds row => SqlBool.isIn (some row.item.id)
    ((st.memoryItems.filter fun item =>
      SqlBool.isIn item.importKey ((st.memorySourceBindings.filter fun binding =>
        binding.evidence == .localCreation && sourceIds.contains binding.sourceDeviceId).map
          MemorySourceBinding.entityId) == some true).map MemoryItem.id)) sourceIds

lemma value_createdRowBound {st : Store} (hids : st.UniqueIds) (sourceIds : List String)
    {row : FilterRow} (hrow : row.item ∈ st.memoryItems) :
    (createdRowBound st sourceIds).value row = some true ↔ BoundToSource st sourceIds row := by
  have hkeys : ∀ item : MemoryItem, (SqlBool.isIn item.importKey
      ((st.memorySourceBindings.filter fun binding =>
        binding.evidence == .localCreation && sourceIds.contains binding.sourceDeviceId).map
          MemorySourceBinding.entityId) == some true) = true ↔
      BoundToSource st sourceIds ⟨item, none⟩ := by
    intro item
    rw [beq_iff_eq, SqlBool.isIn_eq_true_iff]
    constructor
    · rintro ⟨key, hkey, hitem⟩
      obtain ⟨binding, hmem, rfl⟩ := List.mem_map.mp hkey
      obtain ⟨hmem, hsource⟩ := List.mem_filter.mp hmem
      rw [Bool.and_eq_true, beq_iff_eq, List.contains_iff_mem] at hsource
      exact ⟨binding, hmem, hsource.1, hsource.2, hitem⟩
    · rintro ⟨binding, hmem, hevidence, hsource, hitem⟩
      refine ⟨_, List.mem_map.mpr ⟨binding, List.mem_filter.mpr ⟨hmem, ?_⟩, rfl⟩, hitem⟩
      rw [Bool.and_eq_true, beq_iff_eq, List.contains_iff_mem]
      exact ⟨hevidence, hsource⟩
  rw [createdRowBound, BoundFilter.value_texts, SqlBool.isIn_eq_true_iff]
  constructor
  · rintro ⟨id, hid, hrowId⟩
    obtain ⟨item, hitem, rfl⟩ := List.mem_map.mp hid
    obtain ⟨hmem, hkey⟩ := List.mem_filter.mp hitem
    obtain rfl : row.item = item :=
      List.inj_on_of_nodup_map hids hrow hmem (Option.some.inj hrowId)
    exact (hkeys _).mp hkey
  · intro hbound
    exact ⟨_, List.mem_map.mpr ⟨row.item, List.mem_filter.mpr ⟨hrow, (hkeys _).mpr hbound⟩, rfl⟩,
      rfl⟩

end Bounds

/-! ### The filter and its branches -/

section Branches

variable (tools : FilterTools) (st : Store) (context : OwnershipFilterContext)

/-- The exceptions for authors with their parameters. -/
def authoredBound (visibleScopeIds : Option (List String)) : BoundFilter :=
  (creationEvidence context visibleScopeIds).elim
    (unmanagedBound tools st (trim context.deviceId)) fun creation =>
      (unmanagedBound tools st (trim context.deviceId)).or
        (creationBound st creation (localCreationSourcesForFilter context visibleScopeIds))

lemma authoredBound_params (visibleScopeIds : Option (List String)) :
    (authoredBound tools st context visibleScopeIds).params =
      [.text (trim context.deviceId), .text (trim context.deviceId)] ++
        (localCreationSourcesForFilter context visibleScopeIds).map .text := by
  unfold authoredBound
  rcases hcreation : creationEvidence context visibleScopeIds with _ | creation
  · rw [sources_eq_nil hcreation]
    rfl
  · rfl

lemma value_authoredBound (visibleScopeIds : Option (List String)) (row : FilterRow) :
    (authoredBound tools st context visibleScopeIds).value row = some true ↔
      Authored tools st context visibleScopeIds row := by
  unfold authoredBound Authored
  rcases creationEvidence context visibleScopeIds with _ | creation
  · rw [Option.elim_none, value_unmanagedBound]
    simp
  · rw [Option.elim_some, BoundClause.value_or, SqlBool.or_eq_true_iff, value_unmanagedBound,
      value_creationBound]
    simp

/-- The condition without a database, with its parameters. -/
def unresolvedBound (deviceId : String) : BoundFilter :=
  (BoundFilter.texts (fun values row =>
    SqlBool.isIn (some (sqlTrim (row.item.scopeId.getD ""))) values)
      ["", defaultSyncScopeId, legacySharedReviewScopeId]).or
  ((BoundClause.fact fun row => some (st.replicationScopes.any fun scope =>
    row.item.scopeId == some scope.scopeId && scope.status == "active" &&
      scope.authorityType == .local)).or
  (BoundFilter.text (fun deviceId row => some (st.scopeMemberships.any fun membership =>
    row.item.scopeId == some membership.scopeId && membership.deviceId == deviceId &&
      membership.status == "active" && st.replicationScopes.any fun scope =>
        scope.scopeId == membership.scopeId && scope.status == "active" &&
          scope.authorityType.isUnmanaged && scope.membershipEpoch ≤ membership.membershipEpoch))
    deviceId))

lemma value_unresolvedBound (deviceId : String) (row : FilterRow) :
    (unresolvedBound st deviceId).value row = some true ↔ UnresolvedReadable st deviceId row := by
  unfold unresolvedBound UnresolvedReadable
  rw [BoundClause.value_or, BoundClause.value_or, SqlBool.or_eq_true_iff, SqlBool.or_eq_true_iff,
    BoundFilter.value_texts, BoundClause.value_fact, BoundFilter.value_text,
    SqlBool.isIn_eq_true_iff, Option.some.injEq, Option.some.injEq]
  refine or_congr ⟨?_, fun h => ⟨_, h, rfl⟩⟩ Iff.rfl
  rintro ⟨value, hmem, hvalue⟩
  rw [Option.some.inj hvalue]
  exact hmem

/-- The scope condition of the central filter with its parameters. -/
def centralBound : BoundFilter :=
  (visibleScopes context).elim
    ((unresolvedBound st (trim context.deviceId)).or
      (authoredBound tools st context (visibleScopes context)))
    fun ids => (BoundClause.fact fun row => some row.item.scopeId.isNone).or
      ((scopeBound ids).or (authoredBound tools st context (visibleScopes context)))

lemma addScopeVisibilityFilter_central (henforce : context.enforceScopeVisibility = true)
    (hdevice : (trim context.deviceId).toList.isEmpty = false) :
    (addScopeVisibilityFilter tools st (some context) false).1 =
      ⟨SqlFilter.ofBound [centralBound tools st context], false⟩ := by
  have hparams := authoredBound_params tools st context (visibleScopes context)
  have hclause : (authoredBound tools st context (visibleScopes context)).clause =
      (creationEvidence context (visibleScopes context)).elim (unmanagedAuthored tools st)
        fun creation => (unmanagedAuthored tools st).or (authoredByCreation st creation
          (localCreationSourcesForFilter context (visibleScopes context)).length) := by
    unfold authoredBound
    rcases creationEvidence context (visibleScopes context) with _ | creation
    · rfl
    · rfl
  unfold addScopeVisibilityFilter centralBound
  dsimp only
  rw [henforce, hdevice, if_neg (by decide), if_neg Bool.false_ne_true]
  rcases hvisible : visibleScopes context with _ | ids
  · have hnone : creationEvidence context none = none := by
      unfold creationEvidence localCreationSourcesForFilter
      rcases context.scopeVisibilityDb with _ | db
      · rfl
      · rfl
    dsimp only
    rw [hvisible] at hclause hparams
    rw [← hclause, Option.elim_none, SqlFilter.ofBound_singleton]
    change _ = (⟨⟨_, (unresolvedBound st (trim context.deviceId)).params ++
      (authoredBound tools st context none).params⟩, false⟩ : FilterResult)
    rw [hparams, sources_eq_nil hnone]
    rfl
  · dsimp only
    rw [hvisible] at hclause hparams
    rw [if_neg Bool.false_ne_true, ← hclause, Option.elim_some, SqlFilter.ofBound_singleton]
    change _ = (⟨⟨_, [] ++ ((resolvedScopeClause ids).2 ++
      (authoredBound tools st context (some ids)).params)⟩, false⟩ : FilterResult)
    rw [hparams, List.nil_append, ← List.append_assoc]
    rfl

lemma value_centralBound (henforce : context.enforceScopeVisibility = true)
    (hdevice : (trim context.deviceId).toList.isEmpty = false) (row : FilterRow) :
    (centralBound tools st context).value row = some true ↔
      ScopeReadable tools st context row := by
  unfold centralBound ScopeReadable
  rw [forall_prop_of_true henforce, and_iff_right hdevice]
  rcases visibleScopes context with _ | ids
  · rw [Option.elim_none, Option.elim_none, BoundClause.value_or, SqlBool.or_eq_true_iff,
      value_unresolvedBound, value_authoredBound]
  · rw [Option.elim_some, Option.elim_some, BoundClause.value_or, BoundClause.value_or,
      SqlBool.or_eq_true_iff, SqlBool.or_eq_true_iff, value_authoredBound, value_scopeBound,
      BoundClause.value_fact, SqlBool.isIn_eq_true_iff, Option.some.injEq, Option.isNone_iff_eq_none,
      or_assoc]

/-- The branches with their parameters. -/
def branchBounds (ids : List String) : List (List BoundFilter) :=
  [.fact fun row => some row.item.scopeId.isNone] :: [scopeBound ids] ::
    [.fact fun row => some row.item.scopeId.isSome, (scopeBound ids).not,
      unmanagedBound tools st (trim context.deviceId)] ::
    (creationEvidence context (some ids)).elim [] fun creation =>
      [[.fact fun row => some row.item.scopeId.isSome, (scopeBound ids).not,
        createdRowBound st (localCreationSourcesForFilter context (some ids)),
        .fact fun row => some (creation row.item),
        (unmanagedBound tools st (trim context.deviceId)).coalesceFalse.not]]

lemma addScopeVisibilityFilter_branches (henforce : context.enforceScopeVisibility = true)
    (hdevice : (trim context.deviceId).toList.isEmpty = false) {ids : List String}
    (hvisible : context.visibleScopeIds = some ids) :
    addScopeVisibilityFilter tools st (some context) true =
      (.empty, (branchBounds tools st context ids).map fun bounds =>
        ⟨SqlFilter.ofBound bounds, false⟩) := by
  have hscopes : visibleScopes context = some ids := by
    rw [visibleScopes, hvisible, Option.some_or]
  unfold addScopeVisibilityFilter branchBounds
  dsimp only
  rw [henforce, hdevice, hscopes, if_neg (by decide), if_neg Bool.false_ne_true]
  dsimp only
  rw [if_pos rfl]
  rcases creationEvidence context (some ids) with _ | creation
  · simp [SqlFilter.ofBound, FilterResult.add, FilterResult.empty, scopeBound, BoundClause.fact,
      unmanagedBound_eq]
  · simp [SqlFilter.ofBound, FilterResult.add, FilterResult.empty, scopeBound, BoundClause.fact,
      unmanagedBound_eq]
    exact ⟨⟨rfl, rfl⟩, rfl⟩

/-- A row is in one of the branches if the central condition is true of it, else in none. -/
lemma countP_branchBounds {st : Store} (hids : st.UniqueIds) {row : FilterRow}
    (hrow : row.item ∈ st.memoryItems) {ids : List String}
    (hvisible : context.visibleScopeIds = some ids) :
    ((branchBounds tools st context ids).countP fun bounds => bounds.all fun b => b.isTrue row) =
      if (centralBound tools st context).isTrue row then 1 else 0 := by
  have hscopes : visibleScopes context = some ids := by
    rw [visibleScopes, hvisible, Option.some_or]
  have hhidden : (row.item.scopeId.isSome && (scopeBound ids).not.isTrue row) =
      (!row.item.scopeId.isNone && !(scopeBound ids).isTrue row) := by
    unfold BoundClause.isTrue
    rw [BoundClause.value_not, value_scopeBound]
    rcases row.item.scopeId with _ | scopeId
    · rfl
    · rw [SqlBool.isIn_some]
      rcases ids.contains scopeId with _ | _
      · rfl
      · rfl
  have hexclusive : (row.item.scopeId.isNone && (scopeBound ids).isTrue row) = false := by
    unfold BoundClause.isTrue
    rw [value_scopeBound]
    rcases row.item.scopeId with _ | scopeId
    · rcases ids with _ | ⟨id, ids⟩
      · rfl
      · rfl
    · rfl
  unfold branchBounds centralBound authoredBound
  rw [hscopes, Option.elim_some]
  rcases creationEvidence context (some ids) with _ | creation
  · simp only [Option.elim_none, List.countP_cons, List.countP_nil, List.all_cons, List.all_nil,
      Bool.and_true, BoundClause.isTrue_fact, BoundClause.isTrue_or, ← Bool.and_assoc, hhidden]
    generalize row.item.scopeId.isNone = unscoped at hexclusive
    generalize (scopeBound ids).isTrue row = visible at hexclusive
    generalize (unmanagedBound tools st (trim context.deviceId)).isTrue row = unmanaged
    revert hexclusive
    revert unscoped visible unmanaged
    decide
  · have hcreated : (creationBound st creation
        (localCreationSourcesForFilter context (some ids))).isTrue row = (creation row.item &&
          (createdRowBound st (localCreationSourcesForFilter context (some ids))).isTrue row) := by
      rw [Bool.eq_iff_iff, Bool.and_eq_true, BoundClause.isTrue_iff, BoundClause.isTrue_iff,
        value_creationBound, value_createdRowBound hids _ hrow]
    simp only [Option.elim_some, List.countP_cons, List.countP_nil, List.all_cons, List.all_nil,
      Bool.and_true, BoundClause.isTrue_fact, BoundClause.isTrue_or,
      BoundClause.isTrue_not_coalesceFalse, ← Bool.and_assoc, hhidden, hcreated]
    generalize row.item.scopeId.isNone = unscoped at hexclusive
    generalize (scopeBound ids).isTrue row = visible at hexclusive
    generalize (unmanagedBound tools st (trim context.deviceId)).isTrue row = unmanaged
    generalize (createdRowBound st _).isTrue row = created
    generalize creation row.item = evident
    revert hexclusive
    revert unscoped visible unmanaged created evident
    decide

/-! ### The whole query -/

lemma addMemoryFilters_enforce (enforce : Bool) (filters : MemoryFilters) :
    addMemoryFilters tools (some { context with enforceScopeVisibility := enforce }) filters =
      addMemoryFilters tools (some context) filters := by
  have howned : ownershipPredicateSql tools { context with enforceScopeVisibility := enforce } =
      ownershipPredicateSql tools context := rfl
  unfold addMemoryFilters addOwnershipFilter
  dsimp only
  rw [howned]

end Branches

lemma exists_scopeBounds (tools : FilterTools) (st : Store)
    (ownership : Option OwnershipFilterContext) :
    ∃ bounds, (addScopeVisibilityFilter tools st ownership false).1 =
        ⟨SqlFilter.ofBound bounds, false⟩ ∧
      ∀ row, (∀ b ∈ bounds, b.value row = some true) ↔
        ∀ context ∈ ownership, ScopeReadable tools st context row := by
  rcases ownership with _ | context
  · exact ⟨[], rfl, fun row => by simp⟩
  · rcases henforce : context.enforceScopeVisibility
    · refine ⟨[], ?_, fun row => ?_⟩
      · unfold addScopeVisibilityFilter
        dsimp only
        rw [if_pos henforce]
        rfl
      · simp [ScopeReadable, henforce]
    · rcases hdevice : (trim context.deviceId).toList.isEmpty
      · refine ⟨_, addScopeVisibilityFilter_central tools st context henforce hdevice,
          fun row => ?_⟩
        rw [List.forall_mem_singleton, value_centralBound tools st context henforce hdevice]
        simp
      · refine ⟨[.fact fun _ => some false], ?_, fun row => ?_⟩
        · unfold addScopeVisibilityFilter
          dsimp only
          rw [henforce, if_neg (by decide), if_pos hdevice]
          rfl
        · rw [List.forall_mem_singleton, BoundClause.value_fact]
          constructor
          · intro h
            cases h
          · intro h
            have hnamed := (h context rfl henforce).1
            rw [hdevice] at hnamed
            cases hnamed

/-- The branches of a query: each has conditions with their own parameters, and their numbers add up
to the one of the scope condition. -/
lemma exists_branchBounds (tools : FilterTools) {st : Store}
    (ownership : Option OwnershipFilterContext) (hids : st.UniqueIds) {row : FilterRow}
    (hrow : row.item ∈ st.memoryItems) {ids : List String}
    (hvisible : ownership.bind OwnershipFilterContext.visibleScopeIds = some ids)
    {scope : List BoundFilter} (hscope : (addScopeVisibilityFilter tools st ownership false).1 =
      ⟨SqlFilter.ofBound scope, false⟩) :
    ∃ branches : List (List BoundFilter),
      (if (addScopeVisibilityFilter tools st ownership true).2.isEmpty then
          [(addScopeVisibilityFilter tools st ownership true).1]
        else (addScopeVisibilityFilter tools st ownership true).2) =
        branches.map (fun bounds => ⟨SqlFilter.ofBound bounds, false⟩) ∧
      (branches.countP fun bounds => bounds.all fun b => b.isTrue row) =
        if scope.all fun b => b.isTrue row then 1 else 0 := by
  obtain ⟨context, rfl, hids'⟩ := Option.bind_eq_some_iff.mp hvisible
  -- outside the resolved case the branches are the scope condition itself
  have hsame : addScopeVisibilityFilter tools st (some context) true =
      addScopeVisibilityFilter tools st (some context) false →
      (addScopeVisibilityFilter tools st (some context) false).2 = [] →
      ∃ branches : List (List BoundFilter),
        (if (addScopeVisibilityFilter tools st (some context) true).2.isEmpty then
            [(addScopeVisibilityFilter tools st (some context) true).1]
          else (addScopeVisibilityFilter tools st (some context) true).2) =
          branches.map (fun bounds => ⟨SqlFilter.ofBound bounds, false⟩) ∧
        (branches.countP fun bounds => bounds.all fun b => b.isTrue row) =
          if scope.all fun b => b.isTrue row then 1 else 0 := by
    intro heq hempty
    refine ⟨[scope], ?_, ?_⟩
    · rw [heq, hempty, hscope]
      rfl
    · rw [List.countP_cons, List.countP_nil, Nat.zero_add]
  rcases henforce : context.enforceScopeVisibility
  · have hnone : ∀ wanted, addScopeVisibilityFilter tools st (some context) wanted =
        (.empty, []) := by
      intro wanted
      unfold addScopeVisibilityFilter
      dsimp only
      rw [if_pos henforce]
    exact hsame (by rw [hnone, hnone]) (by rw [hnone])
  · rcases hdevice : (trim context.deviceId).toList.isEmpty
    · have hcentral := addScopeVisibilityFilter_central tools st context henforce hdevice
      have hbranches := addScopeVisibilityFilter_branches tools st context henforce hdevice hids'
      refine ⟨branchBounds tools st context ids, ?_, ?_⟩
      · rw [hbranches]
        rfl
      · have heq : SqlFilter.ofBound scope = SqlFilter.ofBound [centralBound tools st context] :=
          congrArg FilterResult.toSqlFilter (hscope.symm.trans hcentral)
        rw [countP_branchBounds tools context hids hrow hids',
          ← SqlFilter.decide_satisfies_ofBound scope row, heq, SqlFilter.decide_satisfies_ofBound,
          List.all_cons, List.all_nil, Bool.and_true]
    · have hblank : ∀ wanted, addScopeVisibilityFilter tools st (some context) wanted =
          (FilterResult.empty.add (.fact fun _ => some false) [], []) := by
        intro wanted
        unfold addScopeVisibilityFilter
        dsimp only
        rw [henforce, if_neg (by decide), if_pos hdevice]
      exact hsame (by rw [hblank, hblank]) (by rw [hblank])

/-- The read filter means what its parts mean, every row that satisfies it satisfies exactly one of
its branches, and no other row satisfies any.  No query has a placeholder without a parameter or a
parameter left over, and the branches join the same tables. -/
theorem filterBranches_exact (tools : FilterTools) (st : Store) (filters : Option MemoryFilters)
    (ownership : Option OwnershipFilterContext) (row : FilterRow) (hids : st.UniqueIds)
    (hrow : row.item ∈ st.memoryItems) :
    ((buildFilterClausesWithContext tools st filters ownership).Satisfies row ↔
      (∀ context ∈ ownership, ScopeReadable tools st context row) ∧
        ∀ request ∈ filters, MatchesFilters tools ownership request row) ∧
    ((buildFilterBranchesWithContext tools st filters ownership).countP fun branch =>
        decide (branch.Satisfies row)) =
      (if (buildFilterClausesWithContext tools st filters ownership).Satisfies row then 1 else 0) ∧
    ∀ result ∈ buildFilterClausesWithContext tools st filters ownership ::
        buildFilterBranchesWithContext tools st filters ownership,
      result.params.length = (SqlClause.conj result.clauses).arity ∧ result.joinSessions =
        (buildFilterClausesWithContext tools st filters ownership).joinSessions := by
  obtain ⟨scope, hscope, hreadable⟩ := exists_scopeBounds tools st ownership
  obtain ⟨request, joins, hstep, hmatches⟩ := appends_addOptional filters
    fun request => appends_addMemoryFilters tools ownership request
  have hcentral : buildFilterClausesWithContext tools st filters ownership =
      ⟨SqlFilter.ofBound (scope ++ request), joins⟩ := by
    rw [buildFilterClausesWithContext, hscope, hstep, SqlFilter.ofBound_append, Bool.false_or]
  -- the branches are conditions of their own followed by those of the request
  obtain ⟨branches, hbranches, hcount⟩ : ∃ branches : List (List BoundFilter),
      buildFilterBranchesWithContext tools st filters ownership =
        branches.map (fun bounds => ⟨SqlFilter.ofBound (bounds ++ request), joins⟩) ∧
      (branches.countP fun bounds => bounds.all fun b => b.isTrue row) =
        if scope.all fun b => b.isTrue row then 1 else 0 := by
    unfold buildFilterBranchesWithContext
    rcases hvisible : ownership.bind OwnershipFilterContext.visibleScopeIds with _ | ids
    · refine ⟨[scope], ?_, ?_⟩
      · rw [Option.isNone_none, if_pos rfl, hcentral]
        rfl
      · rw [List.countP_cons, List.countP_nil, Nat.zero_add]
    · obtain ⟨branches, hlist, hcount⟩ :=
        exists_branchBounds tools ownership hids hrow hvisible hscope
      refine ⟨branches, ?_, hcount⟩
      have hcommon : buildFilterClausesWithContext tools st filters
          (ownership.map fun context => { context with enforceScopeVisibility := false }) =
            ⟨SqlFilter.ofBound request, joins⟩ := by
        obtain ⟨context, rfl, -⟩ := Option.bind_eq_some_iff.mp hvisible
        have hfilters : addMemoryFilters tools (some { context with enforceScopeVisibility := false }) =
            addMemoryFilters tools (some context) :=
          funext fun request => addMemoryFilters_enforce tools context false request
        have hnone : (addScopeVisibilityFilter tools st
            (some { context with enforceScopeVisibility := false }) false).1 = .empty := by
          unfold addScopeVisibilityFilter
          dsimp only
          rw [if_pos rfl]
        rw [Option.map_some, buildFilterClausesWithContext, hfilters, hnone, hstep]
        rfl
      rw [if_neg (by simp)]
      dsimp only
      rw [hlist, hcommon, List.map_map]
      refine List.map_congr_left fun bounds _ => ?_
      rw [Function.comp_apply, SqlFilter.ofBound_append]
  refine ⟨?_, ?_, ?_⟩
  · rw [hcentral]
    dsimp only
    rw [SqlFilter.satisfies_ofBound_iff, List.forall_mem_append, hreadable, hmatches]
  · have hsplit : ∀ bounds : List BoundFilter,
        decide ((SqlFilter.ofBound (bounds ++ request)).Satisfies row) =
          ((bounds.all fun b => b.isTrue row) && request.all fun b => b.isTrue row) := by
      intro bounds
      rw [SqlFilter.decide_satisfies_ofBound, List.all_append]
    have hone : (if (buildFilterClausesWithContext tools st filters ownership).Satisfies row then 1
        else 0) = if ((scope.all fun b => b.isTrue row) && request.all fun b => b.isTrue row) then 1
          else 0 := by
      rw [hcentral, ← hsplit scope]
      simp
    rw [hone, hbranches, List.countP_map]
    have hpred : ((fun branch : FilterResult => decide (branch.Satisfies row)) ∘
        fun bounds : List BoundFilter => (⟨SqlFilter.ofBound (bounds ++ request), joins⟩ :
          FilterResult)) = fun bounds =>
          ((bounds.all fun b => b.isTrue row) && request.all fun b => b.isTrue row) :=
      funext hsplit
    rw [hpred]
    rcases request.all fun b => b.isTrue row with _ | _
    · simp
    · simpa using hcount
  · intro result hresult
    obtain ⟨bounds, rfl⟩ : ∃ bounds, result = ⟨SqlFilter.ofBound bounds, joins⟩ := by
      rcases List.mem_cons.mp hresult with rfl | hresult
      · exact ⟨_, hcentral⟩
      · rw [hbranches] at hresult
        obtain ⟨bounds, -, rfl⟩ := List.mem_map.mp hresult
        exact ⟨_, rfl⟩
    rw [hcentral]
    exact ⟨SqlFilter.ofBound_arity bounds, rfl⟩

/-- A row of an unmanaged scope that this device wrote and has left. -/
def leftScopeRow : FilterRow where
  sessionProject := none
  item :=
    { id := 1, sessionId := 1, kind := "discovery", title := "title", bodyText := "body"
      active := some 1, createdAt := "2026-01-01", updatedAt := "2026-01-01"
      metadataJson := none, actorId := none, visibility := none, workspaceId := none
      workspaceKind := none, originDeviceId := some "laptop", deletedAt := none, rev := some 1
      importKey := some "m1", scopeId := some "old-team", project := none
      content := MemoryContent.empty }

def leftScopeStore : Store :=
  { Store.empty with
    memoryItems := [leftScopeRow.item]
    replicationScopes := [⟨"old-team", .other "manual", 1, "archived"⟩] }

/-- The device that wrote the row sees the default scope only. -/
def leftScopeContext : OwnershipFilterContext where
  actorId := "ada"
  deviceId := "laptop"
  claimedDeviceIds := []
  legacyActorIds := []
  enforceScopeVisibility := true
  visibleScopeIds := some ["local-default"]
  scopeVisibilityDb := none

/-- The row is counted once, in the branch of its author. -/
theorem filterBranches_exact_left_scope :
    ((buildFilterBranchesWithContext ⟨toLowerCase, fun _ => "0"⟩ leftScopeStore none
      (some leftScopeContext)).countP fun branch => decide (branch.Satisfies leftScopeRow)) = 1 :=
  (filterBranches_exact ⟨toLowerCase, fun _ => "0"⟩ leftScopeStore none (some leftScopeContext)
    leftScopeRow (List.nodup_singleton _) List.mem_cons_self).2.1.trans
      (if_pos (by decide +kernel))

end Codemem
