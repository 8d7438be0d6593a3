import Codemem.Store.FenceRuns

/-!
# Duplicate memories

`remember` does not insert a memory whose title matches one the store already has: an active
memory of the same session, or a recent one of another session.  Titles are matched through a
normal form (`normalizeMemoryDedupTitle`), whose hash is kept in the column `dedup_key`.

The column is read by this search alone, so it stands beside the tables of the store.
-/

namespace Codemem

/-! ### Titles -/

/-- The rest of a text after a word, in any case. -/
def dropWord (word cs : List Char) : Option (List Char) :=
  if (cs.take word.length).map Char.toLower = word then some (cs.drop word.length) else none

/-- The rest of a text after `pull\s+request`. -/
def dropPullRequest (cs : List Char) : Option (List Char) :=
  match dropWord ['p', 'u', 'l', 'l'] cs with
  | some (c :: rest) =>
    if isTrimSpace c then
      dropWord ['r', 'e', 'q', 'u', 'e', 's', 't'] (rest.dropWhile isTrimSpace)
    else none
  | _ => none

/-- The rest of a text after `\s*#?\d+\b`. -/
def dropReferenceNumber (cs : List Char) : Option (List Char) :=
  let spaced := cs.dropWhile isTrimSpace
  let digits := if spaced.head? = some '#' then spaced.tail else spaced
  let rest := digits.dropWhile Char.isDigit
  if rest.length = digits.length ∨ rest.head?.any isWordChar then none else some rest

/-- The rest of a text after a reference to a pull request or an issue. -/
def dropReference (cs : List Char) : Option (List Char) :=
  (((dropWord ['p', 'r'] cs).or (dropPullRequest cs)).or
    (dropWord ['i', 's', 's', 'u', 'e'] cs)).bind dropReferenceNumber

/-- Every reference replaced by a blank.  The arguments are the character before the text and the
number of characters left of the reference in progress. -/
def replaceReferences : Option Char → ℕ → List Char → List Char
  | _, _, [] => []
  | _, skip + 1, c :: cs => replaceReferences (some c) skip cs
  | previous, 0, c :: cs =>
    -- `\b` before a letter asks for no word character in front of it
    match if previous.any isWordChar then none else dropReference (c :: cs) with
    | some rest => ' ' :: replaceReferences (some c) (cs.length - rest.length) cs
    | none => c :: replaceReferences (some c) 0 cs

/-- `text.replace(/^\s*#\d+\s*/g, " ")`. -/
def replaceLeadingNumber (cs : List Char) : List Char :=
  match cs.dropWhile isTrimSpace with
  | '#' :: digits =>
    let rest := digits.dropWhile Char.isDigit
    if rest.length = digits.length then cs else ' ' :: rest.dropWhile isTrimSpace
  | _ => cs

/-- `text.replace(/\s+/g, " ")`, given whether a blank was just written. -/
def collapseSpaces : Bool → List Char → List Char
  | _, [] => []
  | afterSpace, c :: cs =>
    if isTrimSpace c then
      if afterSpace then collapseSpaces true cs else ' ' :: collapseSpaces true cs
    else c :: collapseSpaces false cs

/-- What the search for duplicates takes from its surroundings. -/
structure DedupTools where
  /-- `text.toLowerCase()`, over all of Unicode. -/
  lowerCase : String → String
  /-- `\p{P}`. -/
  isPunctuation : Char → Bool
  /-- The hexadecimal SHA-256 digest of a text. -/
  sha256 : String → String
  /-- The start of the window for memories of other sessions, `crossSessionDedupWindowMs` before
  the given time; missing when the window is switched off. -/
  crossSessionSince : String → Option String

def DedupTools.normalizeMemoryDedupTitle (tools : DedupTools) (title : String) : String :=
  let lowered := (tools.lowerCase title).toList
  let numbered := replaceLeadingNumber (replaceReferences none 0 lowered)
  let edge (c : Char) : Bool := isTrimSpace c || tools.isPunctuation c
  let inner := (((numbered.dropWhile edge).reverse).dropWhile edge).reverse
  String.ofList (trimChars (collapseSpaces false inner))

def DedupTools.getMemoryDedupMatchText (tools : DedupTools) (title : String) : Option String :=
  let normalized := tools.normalizeMemoryDedupTitle title
  let fallback := String.ofList (trimChars (collapseSpaces false (tools.lowerCase title).toList))
  if !normalized.toList.isEmpty then some normalized
  else if !fallback.toList.isEmpty then some fallback
  else none

def DedupTools.buildMemoryDedupKey (tools : DedupTools) (title : String) : Option String :=
  (tools.getMemoryDedupMatchText title).map tools.sha256

/-! ### The search -/

/-- The store with the column `dedup_key` of its memories. -/
structure DedupStore where
  store : Store
  dedupKey : ℕ → Option String

/-- The arguments of `findExistingDuplicateMemory`. -/
structure DedupQuery where
  sessionId : ℕ
  kind : String
  title : String
  dedupKey : Option String
  scopeId : String
  visibility : String
  workspaceId : String
  now : String

/-- The columns both queries compare. -/
def DedupQuery.selects (query : DedupQuery) (ds : DedupStore) (row : MemoryItem) : Bool :=
  row.active == some 1 && row.kind == query.kind && row.visibility == some query.visibility &&
    row.workspaceId == some query.workspaceId &&
    ((ds.dedupKey row.id).isNone || ds.dedupKey row.id == query.dedupKey)

/-- The `WHERE` of the query for the same session. -/
def DedupQuery.selectsSameSession (query : DedupQuery) (ds : DedupStore) (row : MemoryItem) :
    Bool :=
  query.selects ds row && row.sessionId == query.sessionId &&
    (row.scopeId == some query.scopeId || sqlBlankScope row.scopeId)

/-- The `WHERE` of the query for other sessions. -/
def DedupQuery.selectsCrossSession (query : DedupQuery) (ds : DedupStore) (since : String)
    (row : MemoryItem) : Bool :=
  query.selects ds row && row.sessionId != query.sessionId && row.scopeId == some query.scopeId &&
    decide (¬ row.createdAt < since)

/-- `ORDER BY created_at DESC, id DESC`. -/
def newestFirst (a b : MemoryItem) : Prop :=
  b.createdAt < a.createdAt ∨ a.createdAt = b.createdAt ∧ b.id ≤ a.id

instance : DecidableRel newestFirst := fun _ _ => inferInstanceAs (Decidable (_ ∨ _))

/-- `ORDER BY confidence DESC, created_at DESC, id DESC`; a missing confidence comes last. -/
def surestFirst (a b : MemoryItem) : Prop :=
  match a.content.confidence, b.content.confidence with
  | some p, some q => q < p ∨ p = q ∧ newestFirst a b
  | some _, none => True
  | none, some _ => False
  | none, none => newestFirst a b

instance : DecidableRel surestFirst := fun a b => by
  unfold surestFirst
  split <;> infer_instance

def DedupTools.firstMatch (tools : DedupTools) (matchTitle : String) (rows : List MemoryItem) :
    Option MemoryItem :=
  rows.find? fun row => tools.getMemoryDedupMatchText row.title == some matchTitle

/-- The duplicate among the memories of the same session. -/
def DedupTools.sameSessionHit (tools : DedupTools) (ds : DedupStore) (query : DedupQuery)
    (matchTitle : String) : Option MemoryItem :=
  tools.firstMatch matchTitle
    ((ds.store.memoryItems.filter (query.selectsSameSession ds)).insertionSort newestFirst)

/-- The duplicate among the recent memories of other sessions. -/
def DedupTools.crossSessionHit (tools : DedupTools) (ds : DedupStore) (query : DedupQuery)
    (matchTitle : String) : Option MemoryItem :=
  (tools.crossSessionSince query.now).bind fun since =>
    tools.firstMatch matchTitle
      ((ds.store.memoryItems.filter (query.selectsCrossSession ds since)).insertionSort surestFirst)

/-- `findExistingDuplicateMemory`: the id of the memory that holds the content already. -/
def DedupTools.findExistingDuplicateMemory (tools : DedupTools) (ds : DedupStore)
    (query : DedupQuery) : Option ℕ :=
  if query.dedupKey.isNone then none
  else (tools.getMemoryDedupMatchText query.title).bind fun matchTitle =>
    ((tools.sameSessionHit ds query matchTitle).or
      (tools.crossSessionHit ds query matchTitle)).map MemoryItem.id

/-- A row that either query of the search finds. -/
def DedupTools.Duplicates (tools : DedupTools) (ds : DedupStore) (query : DedupQuery)
    (row : MemoryItem) : Prop :=
  query.dedupKey.isSome = true ∧
    tools.getMemoryDedupMatchText row.title = tools.getMemoryDedupMatchText query.title ∧
    (query.selectsSameSession ds row = true ∨
      ∃ since, tools.crossSessionSince query.now = some since ∧
        query.selectsCrossSession ds since row = true)

/-- The search finds nothing where no row duplicates the content. -/
theorem DedupTools.findExistingDuplicateMemory_eq_none {tools : DedupTools} {ds : DedupStore}
    {query : DedupQuery} (h : ∀ row ∈ ds.store.memoryItems, ¬ tools.Duplicates ds query row) :
    tools.findExistingDuplicateMemory ds query = none := by
  unfold findExistingDuplicateMemory
  split_ifs with hkey
  · rfl
  have hsome : query.dedupKey.isSome = true := by
    simpa [Option.isSome_iff_ne_none] using hkey
  cases htitle : tools.getMemoryDedupMatchText query.title with
  | none => rfl
  | some matchTitle =>
    have hmatch : ∀ row : MemoryItem, (tools.getMemoryDedupMatchText row.title == some matchTitle) = true →
        tools.getMemoryDedupMatchText row.title = tools.getMemoryDedupMatchText query.title := by
      intro row hrow
      rw [htitle]
      exact beq_iff_eq.mp hrow
    have hsame : tools.sameSessionHit ds query matchTitle = none := by
      refine List.find?_eq_none.mpr fun row hrow hrowTitle => ?_
      rw [List.mem_insertionSort, List.mem_filter] at hrow
      exact h row hrow.1 ⟨hsome, hmatch row hrowTitle, .inl hrow.2⟩
    have hcross : tools.crossSessionHit ds query matchTitle = none := by
      unfold crossSessionHit
      cases hsince : tools.crossSessionSince query.now with
      | none => rfl
      | some since =>
        refine List.find?_eq_none.mpr fun row hrow hrowTitle => ?_
        rw [List.mem_insertionSort, List.mem_filter] at hrow
        exact h row hrow.1 ⟨hsome, hmatch row hrowTitle, .inr ⟨since, hsince, hrow.2⟩⟩
    rw [Option.bind_some, hsame, hcross]
    rfl

/-! ### remember -/

/-- `idx_memory_items_same_session_dedup_unique`: an active memory of the session takes the key. -/
def DedupStore.keyTaken (ds : DedupStore) (query : DedupQuery) : Bool :=
  query.dedupKey.isSome && ds.store.memoryItems.any fun row =>
    row.active == some 1 && row.sessionId == query.sessionId && row.kind == query.kind &&
      row.visibility == some query.visibility && row.workspaceId == some query.workspaceId &&
      ds.dedupKey row.id == query.dedupKey

/-- The search of a call of `remember`. -/
def MemoryStore.dedupQuery (ms : MemoryStore) (tools : DedupTools) (input : RememberInput) :
    DedupQuery :=
  let provenance := ms.resolveProvenance (ms.newMemoryMetadata input)
  { sessionId := input.sessionId
    kind := input.kind
    title := ms.scanner.scan input.title
    dedupKey := tools.buildMemoryDedupKey (ms.scanner.scan input.title)
    scopeId := input.sessionScopeId
    visibility := provenance.visibility
    workspaceId := provenance.workspaceId
    now := ms.now }

/-- `remember` with its search: the id of the memory that holds the content, and the store. -/
def MemoryStore.rememberOnce (ms : MemoryStore) (tools : DedupTools) (ds : DedupStore)
    (input : RememberInput) : Except String (ℕ × DedupStore) :=
  let query := ms.dedupQuery tools input
  match tools.findExistingDuplicateMemory ds query with
  | some id => .ok (id, ds)
  | none => do
    let (id, st) ← ms.remember ds.store { input with existingDuplicate := none }
    -- the insertion is rolled back, and the second search sees what the first one saw
    rejectIf (ds.keyTaken query) "UNIQUE constraint failed: memory_items.session_id"
    pure (id, ⟨st, Function.update ds.dedupKey id query.dedupKey⟩)

end Codemem
