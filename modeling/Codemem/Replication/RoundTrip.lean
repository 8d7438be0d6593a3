import Codemem.Foundation.SqlCondition
import Codemem.Replication.Record
import Codemem.Replication.Tombstones
import Codemem.Store.Maintenance

/-!
# An upsert op read back

`recordReplicationOp` writes the columns of a row into the payload of an upsert, and the receiver
reads them into a new row or over the rows it has.  A column the sender has set arrives as it is,
when it needs no redaction.  A column the sender has cleared is cleared only where the update
assigns it; the others go through `COALESCE` and keep what the receiver has.  `created_at` is taken
over by an insertion only, and `dedup_key` is not part of the payload.
-/

namespace Codemem

/-! ### Tags -/

/-- `text.split(/\s+/).filter(Boolean)`. -/
def splitWords (text : String) : List String :=
  ((text.toList.splitOnP isTrimSpace).filter fun word => !word.isEmpty).map String.ofList

/-- The part of `redactMemoryFields` for `tags_text`: words are scanned one by one and joined. -/
def redactTagsText (scanner : SecretScanner) (value : Option String) : Option String :=
  value.map fun text =>
    if text.toList.isEmpty then text else " ".intercalate ((splitWords text).map scanner.scan)

/-- `COALESCE(NULLIF(TRIM(incoming), ''), stored)`. -/
def overwriteTagsText (incoming stored : Option String) : Option String :=
  (incoming.bind fun text =>
    if (sqlTrim text).toList.isEmpty then none else some (sqlTrim text)).or stored

/-- `resolveReplicatedTags`: without tags of its own a new row gets derived ones. -/
def resolveReplicatedTags (deriveTags : MemoryPayload → List String) (payload : MemoryPayload)
    (incoming : Option String) : String :=
  if (trim (incoming.getD "")).toList.isEmpty then " ".intercalate (deriveTags payload)
  else trim (incoming.getD "")

/-! ### The op and its effect on all columns -/

/-- The upsert that `recordReplicationOp` logs for a memory, with the column `tags_text`. -/
def MaintainedStore.upsertOp (db : MaintainedStore) (ctx : LocalContext) (memoryId : ℕ)
    (deviceId : String) : ReplicationOp :=
  let op := loggedOp ctx db.store (.plain memoryId .upsert deviceId)
  { op with
    payloadJson := (parsePayload op.payloadJson).map fun payload =>
      toJson (("tags_text", jsonText (db.tagsText memoryId)) :: payload) }

def newSideReassignment (op : ReplicationOp) : Option ReassignScopePayload :=
  if op.opType = .reassignScope then (parseReassignScopePayload op).toOption else none

/-- The redacted payload and tags that an upsert writes, if it comes to a write. -/
def writtenPayload (ctx : ApplyContext) (localDeviceId : String) (st : Store)
    (op : ReplicationOp) : Option (MemoryPayload × Option String) :=
  let wins := (st.memoryByImportKey op.entityId).all fun memRow =>
    !reassignScopeMismatch (newSideReassignment op) memRow &&
      (isNewerClock op.clock memRow.clock ||
        sameReassignmentClock op (newSideReassignment op) memRow)
  if ctx.fault st op = none ∧ skipOwnRetiredOrAppliedOp st op localDeviceId = false ∧
      isUpsertSide op = true ∧ wins = true then
    (parseMemoryPayload ctx.runtime op).1.map fun payload =>
      (redactMemoryFields ctx.scanner payload, redactTagsText ctx.scanner
        (asStringOrNull ctx.runtime (((parsePayload op.payloadJson).getD []).get "tags_text")))
  else none

/-- `applyReplicationOp` on the store with its columns `tags_text` and `dedup_key`.  A new row has
no dedup key. -/
def MaintainedStore.applyReplicationOp (ctx : ApplyContext)
    (deriveTags : MemoryPayload → List String) (localDeviceId : String) (db : MaintainedStore)
    (op : ReplicationOp) : MaintainedStore :=
  let st := (Codemem.applyReplicationOp ctx localDeviceId db.store op).1
  match writtenPayload ctx localDeviceId db.store op with
  | none => { db with store := st }
  | some (payload, tagsText) =>
    if (db.store.memoryByImportKey op.entityId).isSome then
      { db with
        store := st
        tagsText := fun id =>
          if db.store.memoryItems.any fun row => row.id == id && row.importKey == some op.entityId
          then overwriteTagsText tagsText (db.tagsText id)
          else db.tagsText id }
    else
      { store := st
        tagsText := Function.update db.tagsText db.store.nextMemoryId
          (some (resolveReplicatedTags deriveTags payload tagsText))
        dedupKey := Function.update db.dedupKey db.store.nextMemoryId none }

/-! ### What arrives -/

structure NeedsNoRedaction (scanner : SecretScanner) (row : MemoryItem) (tagsText : Option String) :
    Prop where
  texts : ∀ text ∈ [some row.title, row.content.subtitle, some row.bodyText, row.content.narrative,
    row.content.actorDisplayName, row.content.originSource], ∀ s ∈ text, scanner.scan s = s
  items : ∀ column ∈ [row.content.facts, row.content.concepts, row.content.filesRead,
    row.content.filesModified], ∀ items, column = some (.encoded (.arr items)) →
      ∀ s, .str s ∈ items → scanner.scan s = s
  tags : ∀ word ∈ splitWords (tagsText.getD ""), scanner.scan word = word
  metadata : scanner.redactValue (fromJson row.metadataJson) = fromJson row.metadataJson

/-- A JSON column after the trip: the text of a value comes back, but `null` and the empty object
become `NULL`, and text that is no JSON comes back as a JSON string. -/
def replicatedColumn : Option JsonText → Option JsonText
  | none => none
  | some (.malformed raw) => some (.encoded (.str raw))
  | some (.encoded .null) => none
  | some (.encoded (.obj [])) => none
  | some (.encoded value) => some (.encoded value)

@[simp] lemma replicatedColumn_arr (items : List Json) :
    replicatedColumn (some (.encoded (.arr items))) = some (.encoded (.arr items)) := rfl

/-- Tags after the trip: the words, one blank between two of them. -/
def replicatedTags (tagsText : Option String) : Option String :=
  if splitWords (tagsText.getD "") = [] then none
  else some (" ".intercalate (splitWords (tagsText.getD "")))

/-- The received row against the sender's row and the row it replaces, if it replaces one.
`activeDefault` is what the receiver takes for a missing `active`. -/
structure ReceivedAs (sender received : MemoryItem) (old : Option MemoryItem) (activeDefault : ℚ) :
    Prop where
  kind : received.kind = sender.kind
  title : received.title = sender.title
  bodyText : received.bodyText = sender.bodyText
  confidence : received.content.confidence = sender.content.confidence.or
    (old.elim (some (1 / 2)) fun row => row.content.confidence)
  active : received.active = some (if old.isSome ∧ sender.deletedAt.isSome then 0
    else sender.active.getD activeDefault)
  createdAt : received.createdAt = (old.map MemoryItem.createdAt).getD sender.createdAt
  updatedAt : received.updatedAt = sender.updatedAt
  deletedAt : received.deletedAt = sender.deletedAt
  clock : cleanText (some (clockDeviceIdFromMetadataJson sender.metadataJson)) ≠ none →
    received.clock = sender.clock
  actorId : received.actorId = sender.actorId.or (old.bind MemoryItem.actorId)
  actorDisplayName : received.content.actorDisplayName = sender.content.actorDisplayName.or
    (old.bind fun row => row.content.actorDisplayName)
  visibility : received.visibility = sender.visibility.or (old.bind MemoryItem.visibility)
  workspaceId : received.workspaceId = sender.workspaceId.or (old.bind MemoryItem.workspaceId)
  workspaceKind : received.workspaceKind =
    sender.workspaceKind.or (old.bind MemoryItem.workspaceKind)
  originDeviceId : received.originDeviceId =
    sender.originDeviceId.or (old.bind MemoryItem.originDeviceId)
  originSource : received.content.originSource = sender.content.originSource.or
    (old.bind fun row => row.content.originSource)
  trustState : received.content.trustState = sender.content.trustState.or
    (old.bind fun row => row.content.trustState)
  subtitle : received.content.subtitle = sender.content.subtitle
  narrative : received.content.narrative = sender.content.narrative
  facts : received.content.facts = replicatedColumn sender.content.facts
  concepts : received.content.concepts = replicatedColumn sender.content.concepts
  filesRead : received.content.filesRead = replicatedColumn sender.content.filesRead
  filesModified : received.content.filesModified = replicatedColumn sender.content.filesModified
  userPromptId : received.content.userPromptId = sender.content.userPromptId
  promptNumber : received.content.promptNumber = sender.content.promptNumber
  scope : ∀ scopeId, cleanText sender.scopeId = some scopeId → received.scopeId = some scopeId

/-- `after` is `before` with one new row, the sender's row as it arrives. -/
def GainsRow (before after : MaintainedStore) (sender : MemoryItem) (tagsText : Option String)
    (derivedTags : String) : Prop :=
  ∃ received, after.store.memoryItems = before.store.memoryItems ++ [received] ∧
    ReceivedAs sender received none 1 ∧
    after.tagsText received.id = some ((replicatedTags tagsText).getD derivedTags) ∧
    after.dedupKey received.id = none

/-- `after` is `before` with the sender's row in place of the rows of the key. -/
def ReplacesRows (before after : MaintainedStore) (importKey : String) (sender : MemoryItem)
    (tagsText : Option String) (activeDefault : ℚ) : Prop :=
  ∃ write : MemoryItem → MemoryItem,
    after.store.memoryItems = (before.store.memoryItems.map fun old =>
      if old.importKey == some importKey then write old else old) ∧
    ∀ old ∈ before.store.rowsOf importKey,
      ReceivedAs sender (write old) (some old) activeDefault ∧ (write old).id = old.id ∧
      after.tagsText old.id = (replicatedTags tagsText).or (before.tagsText old.id) ∧
      after.dedupKey old.id = before.dedupKey old.id

/-! ### The payload -/

section Payload

variable (rt : Runtime)

@[simp] lemma asStringOrNull_jsonText (value : Option String) :
    asStringOrNull rt (some (jsonText value)) = value := by
  rcases value with _ | s
  · rfl
  · rfl

@[simp] lemma asNumberOrNull_jsonNum (value : Option ℚ) :
    asNumberOrNull rt (some (jsonNum value)) = value := by
  rcases value with _ | q
  · rfl
  · rfl

@[simp] lemma asStringOrNull_str (s : String) : asStringOrNull rt (some (.str s)) = some s := rfl

/-- The payload of a row as the receiver parses it. -/
def sentPayload (row : MemoryItem) (project : Option String) : MemoryPayload where
  kind := some row.kind
  title := some row.title
  bodyText := some row.bodyText
  active := row.active
  createdAt := some row.createdAt
  metadataJson := fromJson row.metadataJson
  actorId := row.actorId
  visibility := row.visibility
  workspaceId := row.workspaceId
  workspaceKind := row.workspaceKind
  originDeviceId := row.originDeviceId
  deletedAt := row.deletedAt
  hasDeletedAt := true
  project := project
  subtitle := row.content.subtitle
  confidence := row.content.confidence
  actorDisplayName := row.content.actorDisplayName
  originSource := row.content.originSource
  trustState := row.content.trustState
  narrative := row.content.narrative
  facts := nonNull (some (parseSqliteJson row.content.facts))
  concepts := nonNull (some (parseSqliteJson row.content.concepts))
  filesRead := nonNull (some (parseSqliteJson row.content.filesRead))
  filesModified := nonNull (some (parseSqliteJson row.content.filesModified))
  userPromptId := row.content.userPromptId
  promptNumber := row.content.promptNumber

lemma memoryPayloadOf_recordedPayload (row : MemoryItem) (tagsText project scopeId : Option String) :
    memoryPayloadOf rt (("tags_text", jsonText tagsText) :: recordedPayload row project scopeId) =
      sentPayload row project := by
  have hmetadata : (parseSqliteJson row.metadataJson).asObject.getD [] =
      fromJson row.metadataJson := by
    rcases row.metadataJson with _ | raw | value
    · rfl
    · rfl
    · rfl
  simp [memoryPayloadOf, recordedPayload, sentPayload, JsonObject.get, hmetadata]

lemma toJsonNullable_nonNull (column : Option JsonText) :
    toJsonNullable (nonNull (some (parseSqliteJson column))) = replicatedColumn column := by
  rcases column with _ | raw | value
  · rfl
  · rfl
  · rcases value with _ | _ | _ | _ | _ | _ | ⟨entry, fields⟩
    all_goals rfl

lemma redactText_eq_self {scanner : SecretScanner} {value : Option String}
    (h : ∀ s ∈ value, scanner.scan s = s) : redactText scanner value = value := by
  rcases value with _ | s
  · rfl
  · rw [redactText, Option.map_some, h s rfl, ite_self]

lemma redactItems_eq_self {scanner : SecretScanner} {column : Option JsonText}
    (h : ∀ items, column = some (.encoded (.arr items)) →
      ∀ s, .str s ∈ items → scanner.scan s = s) :
    redactItems scanner (nonNull (some (parseSqliteJson column))) =
      nonNull (some (parseSqliteJson column)) := by
  rcases column with _ | raw | value
  · rfl
  · rfl
  · rcases value with _ | _ | _ | _ | items | _
    case arr =>
      refine congrArg (fun l => some (Json.arr l)) ?_
      conv_rhs => rw [← List.map_id items]
      refine List.map_congr_left fun item hitem => ?_
      rcases item with _ | _ | _ | s | _ | _
      case str => exact congrArg Json.str (h items rfl s hitem)
      all_goals rfl
    all_goals rfl

lemma redactMemoryFields_sentPayload {scanner : SecretScanner} {row : MemoryItem}
    {tagsText : Option String} (h : NeedsNoRedaction scanner row tagsText)
    (project : Option String) :
    redactMemoryFields scanner (sentPayload row project) = sentPayload row project := by
  have htext : ∀ text ∈ [some row.title, row.content.subtitle, some row.bodyText,
      row.content.narrative, row.content.actorDisplayName, row.content.originSource],
      redactText scanner text = text := fun text htext => redactText_eq_self (h.texts text htext)
  have hitems : ∀ column ∈ [row.content.facts, row.content.concepts, row.content.filesRead,
      row.content.filesModified], redactItems scanner (nonNull (some (parseSqliteJson column))) =
        nonNull (some (parseSqliteJson column)) :=
    fun column hcolumn => redactItems_eq_self (h.items column hcolumn)
  simp only [List.forall_mem_cons, List.not_mem_nil, false_imp_iff, implies_true, and_true]
    at htext hitems
  obtain ⟨htitle, hsubtitle, hbody, hnarrative, hname, hsource⟩ := htext
  obtain ⟨hfacts, hconcepts, hread, hmodified⟩ := hitems
  simp only [redactMemoryFields, sentPayload, htitle, hsubtitle, hbody, hnarrative, hname, hsource,
    hfacts, hconcepts, hread, hmodified, h.metadata]

end Payload

/-! ### Words -/

lemma notMem_splitOnP {α : Type} (p : α → Bool) (xs : List α) :
    ∀ part ∈ xs.splitOnP p, ∀ x ∈ part, p x = false := by
  induction xs with
  | nil => simp
  | cons x xs ih =>
    rw [List.splitOnP_cons_eq_if_modifyHead]
    split_ifs with hx
    · rw [List.forall_mem_cons]
      exact ⟨by simp, ih⟩
    · rcases hparts : xs.splitOnP p with _ | ⟨part, parts⟩
      · simp
      · rw [hparts, List.forall_mem_cons] at ih
        rw [List.modifyHead_cons, List.forall_mem_cons, List.forall_mem_cons]
        exact ⟨⟨Bool.eq_false_of_not_eq_true hx, ih.1⟩, ih.2⟩

lemma mem_splitWords {text word : String} (h : word ∈ splitWords text) :
    word.toList ≠ [] ∧ ∀ c ∈ word.toList, isTrimSpace c = false := by
  obtain ⟨chars, hchars, rfl⟩ := List.mem_map.mp h
  obtain ⟨hsplit, hne⟩ := List.mem_filter.mp hchars
  rw [String.toList_ofList]
  exact ⟨by simpa using hne, notMem_splitOnP _ _ chars hsplit⟩

lemma dropEnds_eq_self {α : Type} {p : α → Bool} {xs : List α}
    (hhead : ∀ x ∈ xs.head?, p x = false) (hlast : ∀ x ∈ xs.getLast?, p x = false) :
    ((xs.dropWhile p).reverse.dropWhile p).reverse = xs := by
  have hkeep : ∀ ys : List α, (∀ y ∈ ys.head?, p y = false) → ys.dropWhile p = ys := by
    intro ys hys
    rcases ys with _ | ⟨y, ys⟩
    · rfl
    · exact List.dropWhile_cons_of_neg (by simp [hys y rfl])
  rw [hkeep xs hhead, hkeep xs.reverse (by rwa [List.head?_reverse]), List.reverse_reverse]

lemma joinedWords_ends {words : List (List Char)} (hne : words ≠ [])
    (hwords : ∀ word ∈ words, word ≠ [] ∧ ∀ c ∈ word, isTrimSpace c = false) :
    [' '].intercalate words ≠ [] ∧ (∀ c ∈ ([' '].intercalate words).head?, isTrimSpace c = false) ∧
      ∀ c ∈ ([' '].intercalate words).getLast?, isTrimSpace c = false := by
  induction words with
  | nil => exact absurd rfl hne
  | cons word words ih =>
    obtain ⟨⟨hchars, hspace⟩, hrest⟩ := List.forall_mem_cons.mp hwords
    rcases words with _ | ⟨next, words⟩
    · rw [List.intercalate_singleton]
      exact ⟨hchars, fun c hc => hspace c (List.mem_of_mem_head? hc),
        fun c hc => hspace c (List.mem_of_getLast? hc)⟩
    · obtain ⟨hjoined, -, hlast⟩ := ih (List.cons_ne_nil _ _) hrest
      have hsplit : [' '].intercalate (word :: next :: words) =
          word ++ (' ' :: [' '].intercalate (next :: words)) := by
        rw [List.intercalate_cons_cons]
        simp
      rw [hsplit]
      refine ⟨by simp [hchars], fun c hc => ?_, fun c hc => ?_⟩
      · rw [List.head?_append_of_ne_nil _ hchars] at hc
        exact hspace c (List.mem_of_mem_head? hc)
      · rw [List.getLast?_append_of_ne_nil _ (List.cons_ne_nil _ _), List.getLast?_cons_of_ne_nil
          hjoined] at hc
        exact hlast c hc

lemma trim_joinedWords {text : String} (h : splitWords text ≠ []) :
    (" ".intercalate (splitWords text)).toList ≠ [] ∧
      trim (" ".intercalate (splitWords text)) = " ".intercalate (splitWords text) ∧
      sqlTrim (" ".intercalate (splitWords text)) = " ".intercalate (splitWords text) := by
  have hchars : (" ".intercalate (splitWords text)).toList =
      [' '].intercalate ((splitWords text).map String.toList) := by
    rw [String.toList_intercalate]
    rfl
  have hne : (splitWords text).map String.toList ≠ [] := by simpa using h
  obtain ⟨hne, hhead, hlast⟩ := joinedWords_ends hne (by
    intro word hword
    obtain ⟨source, hsource, rfl⟩ := List.mem_map.mp hword
    exact mem_splitWords hsource)
  rw [← hchars] at hne hhead hlast
  have hblank : ∀ c, isTrimSpace c = false → (c == ' ') = false := by
    intro c hc
    refine beq_eq_false_iff_ne.mpr fun heq => ?_
    rw [heq] at hc
    exact absurd hc (by decide)
  refine ⟨hne, ?_, ?_⟩
  · rw [trim, trimChars, dropEnds_eq_self hhead hlast, String.ofList_toList]
  · rw [sqlTrim, dropEnds_eq_self (fun c hc => hblank c (hhead c hc))
      (fun c hc => hblank c (hlast c hc)), String.ofList_toList]

lemma redactTagsText_eq {scanner : SecretScanner} {tagsText : Option String}
    (h : ∀ word ∈ splitWords (tagsText.getD ""), scanner.scan word = word) :
    ∃ incoming, redactTagsText scanner tagsText = incoming ∧
      (incoming = replicatedTags tagsText ∨
        replicatedTags tagsText = none ∧ incoming.getD "" = "") := by
  refine ⟨_, rfl, ?_⟩
  rcases tagsText with _ | text
  · exact Or.inl rfl
  · have hscan : (splitWords text).map scanner.scan = splitWords text := by
      conv_rhs => rw [← List.map_id (splitWords text)]
      exact List.map_congr_left h
    rw [redactTagsText, Option.map_some, hscan, replicatedTags, Option.getD_some]
    by_cases hempty : text.toList.isEmpty = true
    · right
      have hchars : text.toList = [] := List.isEmpty_iff.mp hempty
      rw [if_pos hempty, splitWords, hchars]
      exact ⟨rfl, String.toList_eq_nil_iff.mp hchars⟩
    · rw [if_neg hempty]
      by_cases hwords : splitWords text = []
      · right
        rw [if_pos hwords, hwords]
        exact ⟨rfl, rfl⟩
      · left
        rw [if_neg hwords]

lemma overwriteTagsText_redacted {scanner : SecretScanner} {tagsText stored : Option String}
    (h : ∀ word ∈ splitWords (tagsText.getD ""), scanner.scan word = word) :
    overwriteTagsText (redactTagsText scanner tagsText) stored =
      (replicatedTags tagsText).or stored := by
  obtain ⟨incoming, hincoming, heq | ⟨hnone, hempty⟩⟩ := redactTagsText_eq h
  · rw [hincoming, heq]
    unfold replicatedTags
    split_ifs with hwords
    · rfl
    · obtain ⟨hne, -, hsql⟩ := trim_joinedWords hwords
      rw [overwriteTagsText, Option.bind_some, hsql, if_neg (by simpa using hne)]
  · rw [hincoming, hnone]
    rcases incoming with _ | text
    · rfl
    · obtain rfl : text = "" := hempty
      rfl

lemma resolveReplicatedTags_redacted {scanner : SecretScanner} {tagsText : Option String}
    (deriveTags : MemoryPayload → List String) (payload : MemoryPayload)
    (h : ∀ word ∈ splitWords (tagsText.getD ""), scanner.scan word = word) :
    resolveReplicatedTags deriveTags payload (redactTagsText scanner tagsText) =
      (replicatedTags tagsText).getD (" ".intercalate (deriveTags payload)) := by
  obtain ⟨incoming, hincoming, heq | ⟨hnone, hempty⟩⟩ := redactTagsText_eq h
  · rw [hincoming, heq]
    unfold replicatedTags
    split_ifs with hwords
    · rfl
    · obtain ⟨hne, htrim, -⟩ := trim_joinedWords hwords
      rw [resolveReplicatedTags, Option.getD_some, htrim, if_neg (by simpa using hne)]
      rfl
  · rw [hincoming, hnone, resolveReplicatedTags, hempty]
    rfl

/-! ### The trip -/

lemma applyReplicationOp_of_newer {ctx : ApplyContext} {localDeviceId : String} {st : Store}
    {op : ReplicationOp} {memRow : MemoryItem} {payload : MemoryPayload}
    (hfault : ctx.fault st op = none)
    (hskip : skipOwnRetiredOrAppliedOp st op localDeviceId = false) (hop : op.opType = .upsert)
    (hlookup : st.memoryByImportKey op.entityId = some memRow)
    (hnewer : isNewerClock op.clock memRow.clock = true)
    (hparse : (parseMemoryPayload ctx.runtime op).1 = some payload) :
    (applyReplicationOp ctx localDeviceId st op).1 =
      (applyUpsertUpdate ctx st op (redactMemoryFields ctx.scanner payload) memRow).1 := by
  unfold applyReplicationOp replicationOpBody
  rw [hfault, hskip, hop]
  dsimp only
  unfold applyUpsert
  rw [hlookup]
  dsimp only
  have hmismatch : reassignScopeMismatch none memRow = false := rfl
  have hstale : ¬(isNewerClock op.clock memRow.clock = false ∧
      sameReassignmentClock op none memRow = false) := by
    rw [hnewer]
    exact fun h => Bool.false_ne_true h.1.symm
  rw [hmismatch, if_neg Bool.false_ne_true, if_neg Bool.false_ne_true, if_neg hstale]
  rcases hresult : parseMemoryPayload ctx.runtime op with ⟨parsed, errors⟩
  rw [hresult] at hparse
  obtain rfl : parsed = some payload := hparse
  rfl

section Trip

variable {sender : MaintainedStore} {local' : LocalContext} {memoryId : ℕ} {deviceId : String}
  {row : MemoryItem}

/-- The scope the op is logged under. -/
def sentScopeId (local' : LocalContext) (sender : MaintainedStore) (memoryId : ℕ)
    (deviceId : String) : Option String :=
  (recordedScope local' sender.store (.plain memoryId .upsert deviceId)).1

lemma upsertOp_payloadJson (hrow : sender.store.memoryById memoryId = some row) :
    (sender.upsertOp local' memoryId deviceId).payloadJson =
      some (toJson (("tags_text", jsonText (sender.tagsText memoryId)) ::
        recordedPayload row (sessionProject sender.store row.sessionId)
          (sentScopeId local' sender memoryId deviceId))) := by
  simp only [MaintainedStore.upsertOp, loggedOp, recordedOp, RecordOptions.plain, hrow,
    recordedPayloadJson, if_true]
  rfl

lemma upsertOp_clock (hrow : sender.store.memoryById memoryId = some row) :
    (sender.upsertOp local' memoryId deviceId).clockRev = row.rev.getD 0 ∧
      (sender.upsertOp local' memoryId deviceId).clockUpdatedAt = row.updatedAt := by
  simp only [MaintainedStore.upsertOp, loggedOp, recordedOp, RecordOptions.plain, hrow]
  exact ⟨rfl, rfl⟩

lemma upsertOp_clockDeviceId (hrow : sender.store.memoryById memoryId = some row)
    (hdevice : cleanText (some (clockDeviceIdFromMetadataJson row.metadataJson)) ≠ none) :
    (sender.upsertOp local' memoryId deviceId).clockDeviceId =
      clockDeviceIdFromMetadataJson row.metadataJson := by
  simp only [MaintainedStore.upsertOp, loggedOp, recordedOp, RecordOptions.plain, hrow,
    recordedClockDevice, Option.bind_some]
  unfold clockDeviceIdFromMetadataJson at hdevice ⊢
  rcases htext : ((fromJson row.metadataJson).get "clock_device_id").bind Json.asText with
    _ | device
  · rw [htext] at hdevice
    exact absurd (by decide) hdevice
  · rw [htext, Option.getD_some] at hdevice
    dsimp only
    rw [if_pos (Option.isSome_iff_ne_none.mpr hdevice)]
    rfl

lemma parseMemoryPayload_upsertOp (rt : Runtime)
    (hrow : sender.store.memoryById memoryId = some row) :
    (parseMemoryPayload rt (sender.upsertOp local' memoryId deviceId)).1 =
      some (sentPayload row (sessionProject sender.store row.sessionId)) := by
  unfold parseMemoryPayload
  rw [upsertOp_payloadJson hrow]
  exact congrArg some (memoryPayloadOf_recordedPayload rt row _ _ _)

lemma parsePayload_upsertOp_tags (rt : Runtime)
    (hrow : sender.store.memoryById memoryId = some row) :
    asStringOrNull rt
        (((parsePayload (sender.upsertOp local' memoryId deviceId).payloadJson).getD []).get
          "tags_text") = sender.tagsText memoryId := by
  rw [upsertOp_payloadJson hrow, parsePayload_toJson]
  exact asStringOrNull_jsonText rt _

/-- The receiver may apply the op: no error is raised, and the op is foreign, not retired and new
to it. -/
def Receives (ctx : ApplyContext) (localDeviceId : String) (receiver : Store)
    (op : ReplicationOp) : Prop :=
  ctx.fault receiver op = none ∧ skipOwnRetiredOrAppliedOp receiver op localDeviceId = false

variable {ctx : ApplyContext} {deriveTags : MemoryPayload → List String} {localDeviceId : String}
  {receiver : MaintainedStore}

lemma writtenPayload_upsertOp (hrow : sender.store.memoryById memoryId = some row)
    (hclean : NeedsNoRedaction ctx.scanner row (sender.tagsText memoryId))
    (hreceives : Receives ctx localDeviceId receiver.store
      (sender.upsertOp local' memoryId deviceId))
    (holder : ∀ memRow ∈ receiver.store.memoryByImportKey
      (sender.upsertOp local' memoryId deviceId).entityId,
      isNewerClock (sender.upsertOp local' memoryId deviceId).clock memRow.clock = true) :
    writtenPayload ctx localDeviceId receiver.store (sender.upsertOp local' memoryId deviceId) =
      some (sentPayload row (sessionProject sender.store row.sessionId),
        redactTagsText ctx.scanner (sender.tagsText memoryId)) := by
  have hwins : (receiver.store.memoryByImportKey
      (sender.upsertOp local' memoryId deviceId).entityId).all (fun memRow =>
        !reassignScopeMismatch (newSideReassignment (sender.upsertOp local' memoryId deviceId))
          memRow &&
        (isNewerClock (sender.upsertOp local' memoryId deviceId).clock memRow.clock ||
          sameReassignmentClock (sender.upsertOp local' memoryId deviceId)
            (newSideReassignment (sender.upsertOp local' memoryId deviceId)) memRow)) = true := by
    rw [Option.all_eq_true]
    intro memRow hmem
    rw [holder memRow hmem]
    rfl
  unfold writtenPayload
  dsimp only
  rw [if_pos ⟨hreceives.1, hreceives.2, rfl, hwins⟩, parseMemoryPayload_upsertOp _ hrow,
    parsePayload_upsertOp_tags _ hrow, Option.map_some, redactMemoryFields_sentPayload hclean]

lemma sentScopeId_eq {scopeId : String} (hrow : sender.store.memoryById memoryId = some row)
    (hscope : cleanText row.scopeId = some scopeId) :
    opScopeId (sender.upsertOp local' memoryId deviceId) = some scopeId := by
  have hsent : (sender.upsertOp local' memoryId deviceId).scopeId = some scopeId := by
    change (recordedScope local' sender.store (.plain memoryId .upsert deviceId)).1 = some scopeId
    simp only [recordedScope, RecordOptions.plain, ensureMemoryScopeId, hrow, hscope]
  rw [opScopeId, hsent]
  exact cleanText_of_cleanText hscope

lemma upsertOp_clock_eq (hrow : sender.store.memoryById memoryId = some row)
    (hdevice : cleanText (some (clockDeviceIdFromMetadataJson row.metadataJson)) ≠ none) :
    (sender.upsertOp local' memoryId deviceId).clock = row.clock := by
  rw [ReplicationOp.clock, (upsertOp_clock hrow).1, (upsertOp_clock hrow).2,
    upsertOp_clockDeviceId hrow hdevice]
  rfl

lemma receivedAs_insertedRow (hrow : sender.store.memoryById memoryId = some row) (sessionId id : ℕ) :
    ReceivedAs row
      { insertedRow (sender.upsertOp local' memoryId deviceId)
          (sentPayload row (sessionProject sender.store row.sessionId)) sessionId with id := id }
      none 1 where
  kind := rfl
  title := rfl
  bodyText := rfl
  confidence := by
    change some (row.content.confidence.getD (1 / 2)) = _
    rcases row.content.confidence with _ | confidence
    · rfl
    · rfl
  active := rfl
  createdAt := rfl
  updatedAt := (upsertOp_clock hrow).2
  deletedAt := rfl
  clock := fun hdevice => (insertedRow_clock _ _ _ _).trans (upsertOp_clock_eq hrow hdevice)
  actorId := (Option.or_none).symm
  actorDisplayName := rfl
  visibility := (Option.or_none).symm
  workspaceId := (Option.or_none).symm
  workspaceKind := (Option.or_none).symm
  originDeviceId := (Option.or_none).symm
  originSource := rfl
  trustState := rfl
  subtitle := rfl
  narrative := rfl
  facts := toJsonNullable_nonNull _
  concepts := toJsonNullable_nonNull _
  filesRead := toJsonNullable_nonNull _
  filesModified := toJsonNullable_nonNull _
  userPromptId := rfl
  promptNumber := rfl
  scope := fun scopeId hscope => sentScopeId_eq hrow hscope

/-- The row an update makes of the payload and an older row. -/
lemma receivedAs_overwriteRow (hrow : sender.store.memoryById memoryId = some row)
    (memRow old : MemoryItem) :
    ReceivedAs row
      (overwriteRow (sender.upsertOp local' memoryId deviceId)
        (sentPayload row (sessionProject sender.store row.sessionId))
        (writtenActive (sentPayload row (sessionProject sender.store row.sessionId)) memRow)
        (nextDeletedAt (sentPayload row (sessionProject sender.store row.sessionId)) memRow) old)
      (some old) (memRow.active.getD 1) where
  kind := rfl
  title := rfl
  bodyText := rfl
  confidence := rfl
  active := by
    change some (writtenActive _ memRow) = _
    simp only [writtenActive, nextDeletedAt, sentPayload, Option.isSome_some, true_and, if_true]
  createdAt := rfl
  updatedAt := (upsertOp_clock hrow).2
  deletedAt := rfl
  clock := fun hdevice => (overwriteRow_clock _ _ _ _ _).trans (upsertOp_clock_eq hrow hdevice)
  actorId := rfl
  actorDisplayName := rfl
  visibility := rfl
  workspaceId := rfl
  workspaceKind := rfl
  originDeviceId := rfl
  originSource := rfl
  trustState := rfl
  subtitle := rfl
  narrative := rfl
  facts := toJsonNullable_nonNull _
  concepts := toJsonNullable_nonNull _
  filesRead := toJsonNullable_nonNull _
  filesModified := toJsonNullable_nonNull _
  userPromptId := rfl
  promptNumber := rfl
  scope := fun scopeId hscope => by
    change (opScopeId (sender.upsertOp local' memoryId deviceId)).or old.scopeId = some scopeId
    rw [sentScopeId_eq hrow hscope]
    rfl

lemma upsertOp_inserts (hrow : sender.store.memoryById memoryId = some row)
    (hclean : NeedsNoRedaction ctx.scanner row (sender.tagsText memoryId))
    (hreceives : Receives ctx localDeviceId receiver.store
      (sender.upsertOp local' memoryId deviceId))
    (hnew : receiver.store.memoryByImportKey
      (sender.upsertOp local' memoryId deviceId).entityId = none) :
    GainsRow receiver (receiver.applyReplicationOp ctx deriveTags localDeviceId
        (sender.upsertOp local' memoryId deviceId)) row (sender.tagsText memoryId)
      (" ".intercalate
        (deriveTags (sentPayload row (sessionProject sender.store row.sessionId)))) := by
  have hwritten := writtenPayload_upsertOp hrow hclean hreceives (by simp [hnew])
  have hstore : (applyReplicationOp ctx localDeviceId receiver.store
      (sender.upsertOp local' memoryId deviceId)).1.memoryItems = receiver.store.memoryItems ++
        [{ insertedRow (sender.upsertOp local' memoryId deviceId)
            (sentPayload row (sessionProject sender.store row.sessionId))
            receiver.store.nextSessionId with id := receiver.store.nextMemoryId }] := by
    rw [applyReplicationOp_of_isUpsertSide hreceives.1 hreceives.2 rfl hnew,
      parseMemoryPayload_upsertOp _ hrow, Option.elim_some, applyUpsertInsert_memoryItems,
      redactMemoryFields_sentPayload hclean]
  unfold MaintainedStore.applyReplicationOp
  rw [hwritten]
  dsimp only
  rw [hnew, Option.isSome_none, if_neg Bool.false_ne_true]
  refine ⟨_, hstore, receivedAs_insertedRow hrow _ _, ?_, ?_⟩
  · dsimp only
    rw [Function.update_self, resolveReplicatedTags_redacted deriveTags _ hclean.tags]
  · dsimp only
    rw [Function.update_self]

lemma upsertOp_overwrites (hrow : sender.store.memoryById memoryId = some row)
    (hclean : NeedsNoRedaction ctx.scanner row (sender.tagsText memoryId))
    (hreceives : Receives ctx localDeviceId receiver.store
      (sender.upsertOp local' memoryId deviceId)) {memRow : MemoryItem}
    (hold : receiver.store.memoryByImportKey
      (sender.upsertOp local' memoryId deviceId).entityId = some memRow)
    (hnewer : isNewerClock (sender.upsertOp local' memoryId deviceId).clock memRow.clock = true) :
    ReplacesRows receiver (receiver.applyReplicationOp ctx deriveTags localDeviceId
        (sender.upsertOp local' memoryId deviceId))
      (sender.upsertOp local' memoryId deviceId).entityId row (sender.tagsText memoryId)
      (memRow.active.getD 1) := by
  have hwritten := writtenPayload_upsertOp hrow hclean hreceives
    (by simpa [hold] using hnewer)
  have hstore := applyReplicationOp_of_newer hreceives.1 hreceives.2 rfl hold hnewer
    (parseMemoryPayload_upsertOp ctx.runtime hrow)
  rw [redactMemoryFields_sentPayload hclean] at hstore
  unfold MaintainedStore.applyReplicationOp
  rw [hwritten]
  dsimp only
  rw [hold, Option.isSome_some, if_pos rfl]
  refine ⟨overwriteRow (sender.upsertOp local' memoryId deviceId)
    (sentPayload row (sessionProject sender.store row.sessionId))
    (writtenActive (sentPayload row (sessionProject sender.store row.sessionId)) memRow)
    (nextDeletedAt (sentPayload row (sessionProject sender.store row.sessionId)) memRow), ?_,
    fun old hmem => ⟨receivedAs_overwriteRow hrow memRow old, rfl, ?_, rfl⟩⟩
  · dsimp only
    rw [hstore, applyUpsertUpdate_memoryItems]
  · obtain ⟨hstored, hkey⟩ := List.mem_filter.mp hmem
    have hany : (receiver.store.memoryItems.any fun r => r.id == old.id &&
        r.importKey == some (sender.upsertOp local' memoryId deviceId).entityId) = true :=
      List.any_eq_true.mpr ⟨old, hstored, by rw [hkey, beq_self_eq_true]; rfl⟩
    dsimp only
    rw [if_pos hany, overwriteTagsText_redacted hclean.tags]

/-- Without a row of its key the op makes one, in which every column the sender has set is the
sender's; over an older row it replaces the columns that the sender has set and those that the
update assigns. -/
theorem upsertOp_round_trip (hrow : sender.store.memoryById memoryId = some row)
    (hclean : NeedsNoRedaction ctx.scanner row (sender.tagsText memoryId))
    (hreceives : Receives ctx localDeviceId receiver.store
      (sender.upsertOp local' memoryId deviceId)) :
    (receiver.store.memoryByImportKey (sender.upsertOp local' memoryId deviceId).entityId = none →
      GainsRow receiver (receiver.applyReplicationOp ctx deriveTags localDeviceId
          (sender.upsertOp local' memoryId deviceId)) row (sender.tagsText memoryId)
        (" ".intercalate
          (deriveTags (sentPayload row (sessionProject sender.store row.sessionId))))) ∧
    ∀ memRow, receiver.store.memoryByImportKey
        (sender.upsertOp local' memoryId deviceId).entityId = some memRow →
      isNewerClock (sender.upsertOp local' memoryId deviceId).clock memRow.clock = true →
      ReplacesRows receiver (receiver.applyReplicationOp ctx deriveTags localDeviceId
          (sender.upsertOp local' memoryId deviceId))
        (sender.upsertOp local' memoryId deviceId).entityId row (sender.tagsText memoryId)
        (memRow.active.getD 1) :=
  ⟨upsertOp_inserts hrow hclean hreceives, fun _ => upsertOp_overwrites hrow hclean hreceives⟩

end Trip

/-! ### Two devices -/

/-- A version of the memory `m1` whose author has the given name. -/
def sampleVersion (rev : ℤ) (actorDisplayName : Option String) : MemoryItem where
  id := 1
  sessionId := 1
  kind := "discovery"
  title := "title"
  bodyText := "body"
  active := some 1
  createdAt := "2026-01-01"
  updatedAt := "2026-01-01"
  metadataJson := some (toJson [("clock_device_id", .str "laptop")])
  actorId := some "local"
  visibility := some "shared"
  workspaceId := none
  workspaceKind := none
  originDeviceId := some "laptop"
  deletedAt := none
  rev := some rev
  importKey := some "m1"
  scopeId := some "team"
  project := none
  content := { MemoryContent.empty with actorDisplayName := actorDisplayName }

/-- A store that holds one version, with tags and a dedup key. -/
def versionStore (version : MemoryItem) : MaintainedStore where
  store := { Store.empty with memoryItems := [version] }
  tagsText := fun _ => some "sync  replication"
  dedupKey := fun _ => some "digest"

/-- The device that sends. -/
def sampleLocalContext : LocalContext where
  deviceId := "laptop"
  now := "2026-01-02"
  randomUUID := "op-1"
  resolveProjectScope := fun _ _ => "local-default"
  reassignOpId := fun _ _ _ _ _ => ""

/-- The store that holds the older version, after the op of the newer one. -/
def sampleReceiver : MaintainedStore :=
  (versionStore (sampleVersion 1 (some "Ada"))).applyReplicationOp (plainContext "2026-01-02")
    (fun _ => []) "desktop"
    ((versionStore (sampleVersion 2 none)).upsertOp sampleLocalContext 1 "laptop")

lemma sampleVersion_needsNoRedaction (rev : ℤ) (name tagsText : Option String) :
    NeedsNoRedaction (plainContext "2026-01-02").scanner (sampleVersion rev name) tagsText where
  texts := fun _ _ _ _ => rfl
  items := fun _ _ _ _ _ _ => rfl
  tags := fun _ _ => rfl
  metadata := rfl

/-- The newer version replaces the older one. -/
theorem upsertOp_round_trip_sample :
    ReplacesRows (versionStore (sampleVersion 1 (some "Ada"))) sampleReceiver "m1"
      (sampleVersion 2 none) (some "sync  replication") 1 :=
  (upsertOp_round_trip rfl (sampleVersion_needsNoRedaction 2 none _) ⟨rfl, by decide⟩).2
    (sampleVersion 1 (some "Ada")) rfl (by decide)

/-- A name that the sender has cleared stays on the receiver, and the words of the tags are joined
anew; a receiver without the memory gets it without the dedup key. -/
theorem upsertOp_keeps_cleared_name :
    (sampleReceiver.store.memoryItems.map fun row => row.content.actorDisplayName) = [some "Ada"] ∧
      (sampleVersion 2 none).content.actorDisplayName = none ∧
      sampleReceiver.tagsText 1 = some "sync replication" ∧
      (MaintainedStore.applyReplicationOp (plainContext "2026-01-02") (fun _ => []) "desktop"
        ⟨Store.empty, fun _ => none, fun _ => none⟩
        ((versionStore (sampleVersion 2 none)).upsertOp sampleLocalContext 1 "laptop")).dedupKey 1 ≠
          some "digest" := by
  refine ⟨by decide, rfl, by decide, by decide⟩

end Codemem
