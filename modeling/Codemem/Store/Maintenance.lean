import Codemem.Replication.Apply

/-!
# Local maintenance jobs

The five jobs of `maintenance/` that rewrite rows of `memory_items` without recording a replication
op: `applyMemoryDedupKeyUpdates`, `backfillNarrativeFromBody`, `backfillTagsText`,
`aiBackfillStructuredContent` and `scanSecretsRetroactive`.  Each selects rows, derives some columns
of a selected row from that row, and sets `updated_at` to the wall clock.

What a job derives from the text of one row (tags, a narrative, the answer of a language model,
redacted JSON) is a parameter.  The columns `tags_text` and `dedup_key`, which only these jobs read
and write here, are kept beside the store.
-/

namespace Codemem

/-- The fields a language model fills in for one row. -/
structure StructuredBackfill where
  narrative : Option String
  facts : List String
  concepts : List String

/-- The text functions that the jobs apply to a row. -/
structure MaintenanceTools where
  scanner : SecretScanner
  /-- `scanner.redactValue(parsed)`: the value, and whether anything was detected. -/
  redactJson : Json → Json × Bool
  /-- `json.length`. -/
  jsonLength : JsonText → ℕ
  /-- `concept.trim().toLowerCase()`. -/
  runtime : Runtime
  /-- `extractNarrativeFromBody(body_text)`. -/
  extractNarrativeFromBody : String → Option String
  /-- `deriveTags` of the kind, title, concepts and files of a row. -/
  deriveTags : MemoryItem → List String
  /-- The condition of `projectColumnClause` on the project of a row or its session. -/
  projectMatches : String → MemoryItem → Bool
  /-- `isSummaryLikeMemory({ kind, metadata })`. -/
  isSummaryLikeMemory : MemoryItem → Bool
  /-- The observer's answer for a row after its validation, or `none` where either throws. -/
  observeStructured : MemoryItem → Option StructuredBackfill

/-- The store with the two columns that only maintenance uses, by row id. -/
structure MaintainedStore where
  store : Store
  tagsText : ℕ → Option String
  dedupKey : ℕ → Option String

/-- `LIMIT n`, where `n` is given and positive. -/
def takeLimit {α : Type} (limit : Option ℕ) (rows : List α) : List α :=
  match limit with
  | none => rows
  | some 0 => rows
  | some n => rows.take n

/-- `SELECT id … WHERE … ORDER BY … LIMIT`. -/
def Store.selectIds (st : Store) (selects : MemoryItem → Bool)
    (before : MemoryItem → MemoryItem → Bool) (limit : Option ℕ) : List ℕ :=
  (takeLimit limit ((st.memoryItems.filter selects).mergeSort before)).map MemoryItem.id

/-- `ORDER BY created_at ASC`. -/
def orderByCreatedAt (a b : MemoryItem) : Bool := decide (¬ b.createdAt < a.createdAt)

/-- `ORDER BY id ASC`. -/
def orderById (a b : MemoryItem) : Bool := decide (a.id ≤ b.id)

/-- The text of a column that is neither `NULL` nor empty. -/
def filledText (value : Option String) : Bool := value.any fun text => text != ""

/-! ### Dedup keys -/

/-- `UPDATE memory_items SET dedup_key = ?, updated_at = ? WHERE id = ?`. -/
def MaintainedStore.setDedupKey (db : MaintainedStore) (now : String) (update : ℕ × String) :
    MaintainedStore :=
  { db with
    store := db.store.updateMemories (fun row => row.id == update.1)
      fun row => { row with updatedAt := now }
    dedupKey := fun id => if id = update.1 then some update.2 else db.dedupKey id }

def applyMemoryDedupKeyUpdates (now : String) (updates : List (ℕ × String)) (db : MaintainedStore) :
    MaintainedStore :=
  updates.foldl (fun db update => db.setDedupKey now update) db

/-! ### Narratives and tags -/

/-- `BackfillNarrativeOptions`. -/
structure NarrativeOptions where
  limit : Option ℕ
  dryRun : Bool

/-- The rows that `backfillNarrativeFromBody` looks at. -/
def lacksNarrative (row : MemoryItem) : Bool :=
  row.kind == "session_summary" && row.active == some 1 && !filledText row.content.narrative &&
    row.bodyText != ""

def backfillNarrativeFromBody (tools : MaintenanceTools) (now : String) (opts : NarrativeOptions)
    (db : MaintainedStore) : MaintainedStore :=
  let ids := db.store.selectIds lacksNarrative orderByCreatedAt opts.limit
  if opts.dryRun then db
  else
    { db with
      store := db.store.updateMemories
        (fun row => ids.contains row.id &&
          filledText (tools.extractNarrativeFromBody row.bodyText))
        fun row =>
          { row with
            content :=
              { row.content with
                narrative := (tools.extractNarrativeFromBody row.bodyText).map tools.scanner.scan }
            updatedAt := now } }

/-- `BackfillTagsTextOptions`. -/
structure TagsOptions where
  limit : Option ℕ
  since : Option String
  project : Option String
  activeOnly : Bool
  dryRun : Bool
  memoryIds : Option (List ℕ)

/-- `safeTags.join(" ")` of a row. -/
def safeTagsText (tools : MaintenanceTools) (row : MemoryItem) : String :=
  String.intercalate " " ((tools.deriveTags row).map tools.scanner.scan)

/-- The rows that `backfillTagsText` looks at. -/
def MaintainedStore.lacksTags (tools : MaintenanceTools) (opts : TagsOptions) (db : MaintainedStore)
    (row : MemoryItem) : Bool :=
  (trim ((db.tagsText row.id).getD "") == "") &&
    (!opts.activeOnly || row.active == some 1) &&
    (opts.since.all fun since => since == "" || decide (¬ row.createdAt < since)) &&
    (opts.project.all fun project => project == "" || tools.projectMatches project row) &&
    (opts.memoryIds.all fun ids => ids.isEmpty || ids.contains row.id)

def backfillTagsText (tools : MaintenanceTools) (now : String) (opts : TagsOptions)
    (db : MaintainedStore) : MaintainedStore :=
  let ids := db.store.selectIds (db.lacksTags tools opts) orderByCreatedAt opts.limit
  let selects (row : MemoryItem) := ids.contains row.id && safeTagsText tools row != ""
  if opts.dryRun then db
  else
    { db with
      store := db.store.updateMemories selects fun row => { row with updatedAt := now }
      tagsText := fun id =>
        match db.store.memoryById id with
        | some row => if selects row then some (safeTagsText tools row) else db.tagsText id
        | none => db.tagsText id }

/-! ### Structured content -/

/-- `AI_BACKFILL_KINDS`. -/
def aiBackfillKinds : List String :=
  ["change", "discovery", "bugfix", "feature", "decision", "exploration", "refactor"]

/-- `AIBackfillStructuredContentOptions`. -/
structure StructuredOptions where
  limit : Option ℕ
  kinds : List String
  dryRun : Bool
  overwrite : Bool

def parseJsonArrayOfStrings (value : Option JsonText) : List String :=
  match value.bind JsonText.parse with
  | some (.arr items) => items.filterMap Json.asText
  | _ => []

def hasCompleteStructuredContent (row : MemoryItem) : Bool :=
  (trim (row.content.narrative.getD "") != "") &&
    !(parseJsonArrayOfStrings row.content.facts).isEmpty &&
    !(parseJsonArrayOfStrings row.content.concepts).isEmpty

/-- The structured filter of the query: a field is missing, or its text has at most two
characters. -/
def lacksStructuredContent (tools : MaintenanceTools) (row : MemoryItem) : Bool :=
  !filledText row.content.narrative ||
    (row.content.facts.all fun facts => decide (tools.jsonLength facts ≤ 2)) ||
    row.content.concepts.all fun concepts => decide (tools.jsonLength concepts ≤ 2)

/-- The rows that `aiBackfillStructuredContent` selects. -/
def selectsStructured (tools : MaintenanceTools) (opts : StructuredOptions) (row : MemoryItem) :
    Bool :=
  row.active == some 1 &&
    (if opts.kinds.isEmpty then aiBackfillKinds else opts.kinds).contains row.kind &&
    row.bodyText != "" && (opts.overwrite || lacksStructuredContent tools row)

/-- `JSON.stringify(strings)`. -/
def stringsJson (strings : List String) : JsonText := .encoded (.arr (strings.map Json.str))

/-- The fields a row gets from the observer's answer, after redaction: what it has is kept unless
`overwrite` is set. -/
def nextStructured (tools : MaintenanceTools) (opts : StructuredOptions) (row : MemoryItem)
    (answer : StructuredBackfill) : StructuredBackfill :=
  let existingFacts := parseJsonArrayOfStrings row.content.facts
  let existingConcepts := parseJsonArrayOfStrings row.content.concepts
  { narrative :=
      if trim (row.content.narrative.getD "") ≠ "" ∧ opts.overwrite = false then
        row.content.narrative
      else answer.narrative.map tools.scanner.scan
    facts :=
      if existingFacts.isEmpty = false ∧ opts.overwrite = false then existingFacts
      else answer.facts.map tools.scanner.scan
    concepts :=
      if existingConcepts.isEmpty = false ∧ opts.overwrite = false then existingConcepts
      else answer.concepts.map tools.scanner.scan }

/-- The answer changes a field of the row. -/
def structuredChanges (row : MemoryItem) (next : StructuredBackfill) : Bool :=
  decide (next.narrative ≠ row.content.narrative) ||
    decide (next.facts ≠ parseJsonArrayOfStrings row.content.facts) ||
    decide (next.concepts ≠ parseJsonArrayOfStrings row.content.concepts)

/-- `aiBackfillStructuredContent(db, opts)`; `now` is the wall clock when the answer for a row is
stored. -/
def aiBackfillStructuredContent (tools : MaintenanceTools) (now : ℕ → String)
    (opts : StructuredOptions) (db : MaintainedStore) : MaintainedStore :=
  let ids := db.store.selectIds (selectsStructured tools opts) orderByCreatedAt opts.limit
  let next (row : MemoryItem) := (tools.observeStructured row).map (nextStructured tools opts row)
  if opts.dryRun then db
  else
    { db with
      store := db.store.updateMemories
        (fun row => ids.contains row.id && !tools.isSummaryLikeMemory row &&
          (opts.overwrite || !hasCompleteStructuredContent row) &&
          (next row).any (structuredChanges row))
        fun row =>
          match next row with
          | none => row
          | some fields =>
            { row with
              content :=
                { row.content with
                  narrative := fields.narrative
                  facts := some (stringsJson fields.facts)
                  concepts := some (stringsJson fields.concepts) }
              updatedAt := now row.id } }

/-! ### Secrets -/

/-- `ScanSecretsRetroactiveOptions`. -/
structure ScanOptions where
  limit : Option ℕ
  dryRun : Bool
  maxRowBytes : ℕ

def scanString (tools : MaintenanceTools) (value : String) : String :=
  if value = "" then value else tools.scanner.scan value

/-- `scanArrayJson(json, scanner).json`: only an array with a text that the scan changes is
rewritten. -/
def scanArrayJson (tools : MaintenanceTools) (json : Option JsonText) : Option JsonText × Bool :=
  match json.bind JsonText.parse with
  | some (.arr items) =>
    let changed := (items.filterMap Json.asText).any fun text => tools.scanner.scan text != text
    let next := items.map fun item => match item with
      | .str text => .str (tools.scanner.scan text)
      | item => item
    if changed then (some (.encoded (.arr next)), true) else (json, false)
  | _ => (json, false)

/-- `scanMetadataJson(json, scanner).json`, and whether it changed. -/
def scanMetadataJson (tools : MaintenanceTools) (json : Option JsonText) : Option JsonText × Bool :=
  let scan (value : Json) :=
    let redacted := tools.redactJson value
    if redacted.2 then (some (JsonText.encoded redacted.1), true) else (json, false)
  match json.bind JsonText.parse with
  | some (.obj fields) => scan (.obj fields)
  | some (.arr items) => scan (.arr items)
  | _ => (json, false)

/-- `scanTagsText(text, scanner).text` of the tags, split at white space. -/
def scanTagsText (tools : MaintenanceTools) (text : Option String) : Option String × Bool :=
  match text with
  | none => (none, false)
  | some tags =>
    let parts := (tags.toList.splitOnP isTrimSpace).filter fun part => !part.isEmpty
    let texts := parts.map String.ofList
    if texts.any fun part => tools.scanner.scan part != part then
      (some (String.intercalate " " (texts.map tools.scanner.scan)), true)
    else (some tags, false)

/-- The columns of a row after the scan. -/
def scannedRow (tools : MaintenanceTools) (now : String) (row : MemoryItem) : MemoryItem :=
  { row with
    title := scanString tools row.title
    bodyText := scanString tools row.bodyText
    metadataJson := (scanMetadataJson tools row.metadataJson).1
    content :=
      { row.content with
        subtitle := row.content.subtitle.map (scanString tools)
        narrative := row.content.narrative.map (scanString tools)
        facts := (scanArrayJson tools row.content.facts).1
        concepts := (scanArrayJson tools row.content.concepts).1
        filesRead := (scanArrayJson tools row.content.filesRead).1
        filesModified := (scanArrayJson tools row.content.filesModified).1
        actorDisplayName := row.content.actorDisplayName.map (scanString tools)
        originSource := row.content.originSource.map (scanString tools) }
    updatedAt := now }

def MaintainedStore.rowBytes (tools : MaintenanceTools) (db : MaintainedStore) (row : MemoryItem) :
    ℕ :=
  let texts := [some row.title, row.content.subtitle, some row.bodyText, row.content.narrative,
    db.tagsText row.id, row.content.actorDisplayName, row.content.originSource]
  let jsons := [row.content.facts, row.content.concepts, row.content.filesRead,
    row.content.filesModified, row.metadataJson]
  (texts.map fun text => (utf16 (text.getD "")).length).sum +
    (jsons.map fun json => (json.map tools.jsonLength).getD 0).sum

/-- The scan changes a column of the row. -/
def MaintainedStore.scanChanges (tools : MaintenanceTools) (db : MaintainedStore)
    (row : MemoryItem) : Bool :=
  let texts := [some row.title, row.content.subtitle, some row.bodyText, row.content.narrative,
    row.content.actorDisplayName, row.content.originSource]
  (texts.any fun text => text.any fun value => scanString tools value != value) ||
    (scanTagsText tools (db.tagsText row.id)).2 || (scanArrayJson tools row.content.facts).2 ||
    (scanArrayJson tools row.content.concepts).2 || (scanArrayJson tools row.content.filesRead).2 ||
    (scanArrayJson tools row.content.filesModified).2 || (scanMetadataJson tools row.metadataJson).2

/-- The references of a scanned row, rebuilt where the columns they index changed. -/
def refreshScannedRefs (tools : MaintenanceTools) (row : MemoryItem) (st : Store) : Store :=
  let files (json : Option JsonText) := some (parseJsonArrayOfStrings (scanArrayJson tools json).1)
  let withConcepts : Store :=
    if (scanArrayJson tools row.content.concepts).2 then
      { st with
        memoryConceptRefs := insertConceptRefs tools.runtime row.id (files row.content.concepts)
          (st.memoryConceptRefs.filter fun ref => ref.memoryId != row.id) }
    else st
  if (scanArrayJson tools row.content.filesRead).2 ||
      (scanArrayJson tools row.content.filesModified).2 then
    { withConcepts with
      memoryFileRefs := insertFileRefs row.id "modified" (files row.content.filesModified)
        (insertFileRefs row.id "read" (files row.content.filesRead)
          (withConcepts.memoryFileRefs.filter fun ref => ref.memoryId != row.id)) }
  else withConcepts

/-- `scanSecretsRetroactive(db, opts)`: a row is rewritten where its id and revision are still those
that were read, which a row without a revision never satisfies; `now` is the wall clock at the
rewrite of a row. -/
def scanSecretsRetroactive (tools : MaintenanceTools) (now : ℕ → String) (opts : ScanOptions)
    (db : MaintainedStore) : MaintainedStore :=
  let ids := db.store.selectIds (fun _ => true) orderById opts.limit
  let selects (row : MemoryItem) := ids.contains row.id &&
    decide (db.rowBytes tools row ≤ opts.maxRowBytes) && db.scanChanges tools row &&
    row.rev.isSome
  if opts.dryRun then db
  else
    { db with
      store := (db.store.memoryItems.filter selects).foldl
        (fun st row => refreshScannedRefs tools row st)
        (db.store.updateMemories selects fun row => scannedRow tools (now row.id) row)
      tagsText := fun id =>
        match db.store.memoryById id with
        | some row =>
          if selects row then (scanTagsText tools (db.tagsText id)).1 else db.tagsText id
        | none => db.tagsText id }

/-! ### Runs of jobs -/

/-- A run of one job, with its options and the wall clock. -/
inductive MaintenanceJob
  | dedupKeys (now : String) (updates : List (ℕ × String))
  | narratives (now : String) (opts : NarrativeOptions)
  | tags (now : String) (opts : TagsOptions)
  | structured (now : ℕ → String) (opts : StructuredOptions)
  | secrets (now : ℕ → String) (opts : ScanOptions)

def MaintenanceJob.run (tools : MaintenanceTools) (db : MaintainedStore) :
    MaintenanceJob → MaintainedStore
  | .dedupKeys now updates => applyMemoryDedupKeyUpdates now updates db
  | .narratives now opts => backfillNarrativeFromBody tools now opts db
  | .tags now opts => backfillTagsText tools now opts db
  | .structured now opts => aiBackfillStructuredContent tools now opts db
  | .secrets now opts => scanSecretsRetroactive tools now opts db

def runMaintenance (tools : MaintenanceTools) (jobs : List MaintenanceJob) (db : MaintainedStore) :
    MaintainedStore :=
  jobs.foldl (MaintenanceJob.run tools) db

/-! ### What a job leaves alone -/

/-- A text is another one up to redaction: it was scanned some number of times. -/
def RedactedFrom (tools : MaintenanceTools) (text text' : String) : Prop :=
  ∃ n : ℕ, text' = (scanString tools)^[n] text

/-- A row after maintenance: its identity and its status are as before, its texts are as before up
to redaction. -/
structure MaintainedRow (tools : MaintenanceTools) (row row' : MemoryItem) : Prop where
  id : row'.id = row.id
  importKey : row'.importKey = row.importKey
  active : row'.active = row.active
  deletedAt : row'.deletedAt = row.deletedAt
  title : RedactedFrom tools row.title row'.title
  bodyText : RedactedFrom tools row.bodyText row'.bodyText

/-- A store after maintenance: every row was maintained in place, and of the other tables only the
references changed. -/
structure MaintainedFrom (tools : MaintenanceTools) (st st' : Store) : Prop where
  rows : List.Forall₂ (MaintainedRow tools) st.memoryItems st'.memoryItems
  rest : ∃ files concepts, st' = { st with
    memoryItems := st'.memoryItems, memoryFileRefs := files, memoryConceptRefs := concepts }

lemma RedactedFrom.refl (tools : MaintenanceTools) (text : String) :
    RedactedFrom tools text text := ⟨0, rfl⟩

lemma RedactedFrom.trans {tools : MaintenanceTools} {a b c : String} (h : RedactedFrom tools a b)
    (h' : RedactedFrom tools b c) : RedactedFrom tools a c := by
  obtain ⟨n, rfl⟩ := h
  obtain ⟨m, rfl⟩ := h'
  exact ⟨m + n, by rw [Function.iterate_add_apply]⟩

lemma MaintainedRow.refl (tools : MaintenanceTools) (row : MemoryItem) :
    MaintainedRow tools row row :=
  ⟨rfl, rfl, rfl, rfl, .refl tools _, .refl tools _⟩

lemma MaintainedRow.trans {tools : MaintenanceTools} {a b c : MemoryItem}
    (h : MaintainedRow tools a b) (h' : MaintainedRow tools b c) : MaintainedRow tools a c :=
  ⟨h'.id.trans h.id, h'.importKey.trans h.importKey, h'.active.trans h.active,
    h'.deletedAt.trans h.deletedAt, h.title.trans h'.title, h.bodyText.trans h'.bodyText⟩

lemma MaintainedFrom.refl (tools : MaintenanceTools) (st : Store) : MaintainedFrom tools st st where
  rows := List.forall₂_same.mpr fun row _ => .refl tools row
  rest := ⟨_, _, rfl⟩

lemma MaintainedFrom.trans {tools : MaintenanceTools} {a b c : Store}
    (h : MaintainedFrom tools a b) (h' : MaintainedFrom tools b c) : MaintainedFrom tools a c where
  rows := by
    have hrows := h.rows
    have hrows' := h'.rows
    generalize a.memoryItems = rows at hrows
    generalize b.memoryItems = rows' at hrows hrows'
    generalize c.memoryItems = rows'' at hrows'
    induction hrows generalizing rows'' with
    | nil =>
      cases hrows'
      exact .nil
    | cons hrow _ ih =>
      cases hrows' with
      | cons hrow' hrest' => exact .cons (hrow.trans hrow') (ih _ hrest')
  rest := by
    obtain ⟨files, concepts, hb⟩ := h.rest
    obtain ⟨files', concepts', hc⟩ := h'.rest
    refine ⟨files', concepts', ?_⟩
    rw [hc, hb]

lemma maintainedFrom_updateMemories {tools : MaintenanceTools} {st : Store}
    {selects : MemoryItem → Bool} {write : MemoryItem → MemoryItem}
    (hwrite : ∀ row, MaintainedRow tools row (write row)) :
    MaintainedFrom tools st (st.updateMemories selects write) where
  rows := by
    unfold Store.updateMemories
    rw [List.forall₂_map_right_iff, List.forall₂_same]
    intro row _
    split_ifs
    · exact hwrite row
    · exact .refl tools row
  rest := ⟨_, _, rfl⟩

lemma maintainedFrom_refreshScannedRefs {tools : MaintenanceTools} {st : Store}
    (row : MemoryItem) : MaintainedFrom tools st (refreshScannedRefs tools row st) := by
  unfold refreshScannedRefs
  dsimp only
  split_ifs
  · exact ⟨List.forall₂_same.mpr fun row _ => .refl tools row, _, _, rfl⟩
  · exact ⟨List.forall₂_same.mpr fun row _ => .refl tools row, _, _, rfl⟩
  · exact ⟨List.forall₂_same.mpr fun row _ => .refl tools row, _, _, rfl⟩
  · exact .refl tools st

lemma maintainedFrom_foldl {α β : Type} {tools : MaintenanceTools} (store : β → Store)
    (step : β → α → β) (hstep : ∀ b a, MaintainedFrom tools (store b) (store (step b a)))
    (actions : List α) (b : β) : MaintainedFrom tools (store b) (store (actions.foldl step b)) := by
  induction actions generalizing b with
  | nil => exact .refl tools _
  | cons a actions ih => exact (hstep b a).trans (ih (step b a))

lemma MaintenanceJob.maintainedFrom (tools : MaintenanceTools) (db : MaintainedStore)
    (job : MaintenanceJob) : MaintainedFrom tools db.store (job.run tools db).store := by
  rcases job with ⟨now, updates⟩ | ⟨now, opts⟩ | ⟨now, opts⟩ | ⟨now, opts⟩ | ⟨now, opts⟩
  · refine maintainedFrom_foldl MaintainedStore.store _ (fun db update => ?_) updates db
    exact maintainedFrom_updateMemories fun row => ⟨rfl, rfl, rfl, rfl, .refl _ _, .refl _ _⟩
  · change MaintainedFrom tools db.store (backfillNarrativeFromBody tools now opts db).store
    unfold backfillNarrativeFromBody
    dsimp only
    split_ifs
    · exact .refl tools _
    · exact maintainedFrom_updateMemories fun row => ⟨rfl, rfl, rfl, rfl, .refl _ _, .refl _ _⟩
  · change MaintainedFrom tools db.store (backfillTagsText tools now opts db).store
    unfold backfillTagsText
    dsimp only
    split_ifs
    · exact .refl tools _
    · exact maintainedFrom_updateMemories fun row => ⟨rfl, rfl, rfl, rfl, .refl _ _, .refl _ _⟩
  · change MaintainedFrom tools db.store (aiBackfillStructuredContent tools now opts db).store
    unfold aiBackfillStructuredContent
    dsimp only
    split_ifs
    · exact .refl tools _
    · refine maintainedFrom_updateMemories fun row => ?_
      split
      · exact .refl tools row
      · exact ⟨rfl, rfl, rfl, rfl, .refl _ _, .refl _ _⟩
  · change MaintainedFrom tools db.store (scanSecretsRetroactive tools now opts db).store
    unfold scanSecretsRetroactive
    dsimp only
    split_ifs
    · exact .refl tools _
    · have hscanned : ∀ row, MaintainedRow tools row (scannedRow tools (now row.id) row) :=
        fun row => ⟨rfl, rfl, rfl, rfl, ⟨1, rfl⟩, ⟨1, rfl⟩⟩
      exact (maintainedFrom_updateMemories hscanned).trans (maintainedFrom_foldl id _
        (fun st row => maintainedFrom_refreshScannedRefs row) _ _)

/-- Every run of jobs maintains the store. -/
theorem runMaintenance_maintainedFrom (tools : MaintenanceTools) (jobs : List MaintenanceJob)
    (db : MaintainedStore) :
    MaintainedFrom tools db.store (runMaintenance tools jobs db).store :=
  maintainedFrom_foldl MaintainedStore.store _ (fun db job => job.maintainedFrom tools db) jobs db

end Codemem
