import Codemem.Pack.Accounting

/-!
# Rendering a pack

A pack is rendered from segments, some of which belong to an item; the position of every segment of
an item is kept as a span.  Positions count UTF-16 code units.  Budgeting renders one candidate after
the other and keeps those that fit.  The parse of the facts is a parameter.
-/

namespace Codemem

/-- `MemoryResult`, as far as a pack renders it. -/
structure MemoryResult extends PackMemory where
  facts : Option String
  deriving DecidableEq

/-- What the code uses of `JSON.parse`: the texts of a list of facts. -/
abbrev FactsParser := Option String → Option (List String)

def estimateTokens (text : String) : ℕ := ((utf16 text).length + 3) / 4

def relatedSuffix (item : MemoryResult) (clusterState : ClusterCompressionState)
    (includeIds : Bool) : String :=
  let related := clusterState.compressedUnder item.id
  if related.length = 0 then ""
  else if !includeIds then " (+" ++ toString related.length ++ " related)"
  else " (+" ++ toString related.length ++ " related: " ++
    ", ".intercalate ((sortByPos id related).map fun id => "[" ++ toString id ++ "]") ++ ")"

/-- The line that stands for an item. -/
def itemHeader (item : MemoryResult) (clusterState : ClusterCompressionState)
    (includeIds : Bool) : String :=
  "[" ++ toString item.id ++ "] (" ++ item.kind ++ ") " ++ item.title ++
    relatedSuffix item clusterState includeIds

def formatItem (parseFacts : FactsParser) (item : MemoryResult)
    (clusterState : ClusterCompressionState) (includeRelatedIds : Bool) : String :=
  let header := itemHeader item clusterState includeRelatedIds
  let narrative := item.narrative.filter (· ≠ "")
  let facts := parseFacts item.facts
  if narrative.isSome ∨ facts.isSome then
    header ++ (narrative.map fun narrative => "\n" ++ narrative).getD "" ++
      (facts.map fun facts =>
        "\n\n" ++ "\n".intercalate (facts.map fun fact => "- " ++ fact)).getD ""
  else if item.bodyText ≠ "" then header ++ " - " ++ item.bodyText
  else header

def formatIndexLine (item : MemoryResult) (clusterState : ClusterCompressionState) : String :=
  itemHeader item clusterState true

/-- A segment of a text, and the item it belongs to. -/
structure PackSegment where
  text : String
  item : Option MemoryResult

/-- A range of code units. -/
structure PackSpan where
  start : ℕ
  stop : ℕ
  deriving DecidableEq

/-- `RenderedPackItem` without its fingerprint. -/
structure RenderedPackItem where
  id : ℤ
  spans : List PackSpan
  deriving DecidableEq

/-- One round of the loop of `joinPackSegments`. -/
def joinPackSegment (acc : String × List RenderedPackItem) (segment : PackSegment) :
    String × List RenderedPackItem :=
  let text := acc.1 ++ segment.text
  let span : PackSpan := ⟨(utf16 acc.1).length, (utf16 text).length⟩
  (text, (segment.item.map fun item => insertOrUpdate RenderedPackItem.id ⟨item.id, [span]⟩
    (fun entry => { entry with spans := entry.spans ++ [span] }) acc.2).getD acc.2)

/-- `joinPackSegments`: the text and the rendered items. -/
def joinPackSegments (segments : List PackSegment) : String × List RenderedPackItem :=
  segments.foldl joinPackSegment ("", [])

def itemSegments (separator : String) (format : MemoryResult → String) :
    List MemoryResult → List PackSegment
  | [] => []
  | [item] => [⟨format item, some item⟩]
  | item :: items => ⟨format item, some item⟩ :: ⟨separator, none⟩ ::
      itemSegments separator format items

/-- The segments of `renderStandardPack`. -/
def standardSegments (parseFacts : FactsParser)
    (summary timelineItems observations : List MemoryResult)
    (clusterState : ClusterCompressionState) (includeRelatedIds : Bool) : List PackSegment :=
  let segmentsOf := fun items : List MemoryResult =>
    itemSegments "\n" (fun item => formatItem parseFacts item clusterState includeRelatedIds) items
  ⟨"## Summary\n", none⟩ :: segmentsOf summary ++
    ⟨"\n\n", none⟩ :: ⟨"## Timeline\n", none⟩ :: segmentsOf timelineItems ++
      ⟨"\n\n", none⟩ :: ⟨"## Observations\n", none⟩ :: segmentsOf observations

def renderStandardPack (parseFacts : FactsParser)
    (summary timelineItems observations : List MemoryResult)
    (clusterState : ClusterCompressionState) (includeRelatedIds : Bool) :
    String × List RenderedPackItem :=
  joinPackSegments
    (standardSegments parseFacts summary timelineItems observations clusterState includeRelatedIds)

/-- `COMPACT_FOOTER`. -/
def compactFooter : String :=
  "Use `memory_get` for one item, or `memory_get_observations(ids=[...])` for related IDs " ++
    "shown in the index."

/-- The segments of items, or of a text that says that there are none. -/
def itemSegmentsOrNone (separator : String) (format : MemoryResult → String)
    (items : List MemoryResult) : List PackSegment :=
  if items.isEmpty then [⟨"(no items)", none⟩] else itemSegments separator format items

/-- The segments of `renderCompactPack`. -/
def compactSegments (parseFacts : FactsParser) (items : List MemoryResult) (detailIds : List ℤ)
    (clusterState : ClusterCompressionState) : List PackSegment :=
  ⟨"## Index\n", none⟩ ::
    itemSegmentsOrNone "\n" (fun item => formatIndexLine item clusterState) items ++
      ⟨"\n\n## Detail\n", none⟩ ::
        itemSegmentsOrNone "\n\n" (fun item => formatItem parseFacts item clusterState true)
          (items.filter fun item => detailIds.contains item.id) ++
            [⟨"\n\n" ++ compactFooter, none⟩]

def renderCompactPack (parseFacts : FactsParser) (items : List MemoryResult) (detailIds : List ℤ)
    (clusterState : ClusterCompressionState) : String × List RenderedPackItem :=
  joinPackSegments (compactSegments parseFacts items detailIds clusterState)

/-! ### Budgets -/

def fitsTokenBudget (text : String) (tokenBudget : ℚ) : Bool :=
  decide ((estimateTokens text : ℚ) ≤ tokenBudget)

def enforceTokenBudget (text : String) (tokenBudget : Option ℚ) : String :=
  match tokenBudget with
  | none => text
  | some budget => if budget ≤ 0 ∨ fitsTokenBudget text budget then text else ""

/-- The loop of `budgetStandardPack` over one section: items are taken as long as they fit. -/
def takeWhileFits (fits : List MemoryResult → Bool) (taken : List MemoryResult) :
    List MemoryResult → List MemoryResult
  | [] => taken
  | item :: items => if fits (taken ++ [item]) then takeWhileFits fits (taken ++ [item]) items
      else taken

def budgetStandardPack (parseFacts : FactsParser)
    (summaryItems timelineItems observationItems : List MemoryResult)
    (clusterState : ClusterCompressionState) (tokenBudget : ℚ) (includeRelatedIds : Bool) :
    List MemoryResult × List MemoryResult × List MemoryResult :=
  let fits := fun summary timelineItems observations => fitsTokenBudget
    (renderStandardPack parseFacts summary timelineItems observations clusterState
      includeRelatedIds).1 tokenBudget
  let budgetedSummary := takeWhileFits (fun items => fits items [] []) [] summaryItems
  let budgetedTimeline := takeWhileFits (fun items => fits budgetedSummary items []) [] timelineItems
  let budgetedObservations :=
    takeWhileFits (fun items => fits budgetedSummary budgetedTimeline items) [] observationItems
  (budgetedSummary, budgetedTimeline, budgetedObservations)

/-- What the loop of `budgetCompactPack` carries. -/
structure CompactBudget where
  items : List MemoryResult
  detailIds : List ℤ
  detailSlots : ℤ

/-- One round of the loop of `budgetCompactPack`. -/
def budgetCompactItem (parseFacts : FactsParser) (clusterState : ClusterCompressionState)
    (tokenBudget : ℚ) (acc : CompactBudget) (item : MemoryResult) : CompactBudget :=
  let fits := fun detailIds => fitsTokenBudget
    (renderCompactPack parseFacts (acc.items ++ [item]) detailIds clusterState).1 tokenBudget
  if 0 < acc.detailSlots ∧ fits (addId item.id acc.detailIds) then
    ⟨acc.items ++ [item], addId item.id acc.detailIds, acc.detailSlots - 1⟩
  else if fits acc.detailIds then { acc with items := acc.items ++ [item] }
  else acc

/-- `Array.prototype.slice(0, count)`. -/
def sliceTo {α : Type*} (count : ℤ) (items : List α) : List α :=
  items.take (if count < 0 then items.length - (-count).toNat else count.toNat)

def budgetCompactPack (parseFacts : FactsParser) (candidates : List MemoryResult)
    (detailCount : ℤ) (clusterState : ClusterCompressionState) (tokenBudget : Option ℚ) :
    List MemoryResult × List ℤ :=
  match tokenBudget.filter (0 < ·) with
  | none => (candidates, ((sliceTo detailCount candidates).map fun item => item.id).dedup)
  | some budget =>
    let result := candidates.foldl (budgetCompactItem parseFacts clusterState budget)
      ⟨[], [], detailCount⟩
    (result.items, result.detailIds)

/-- `PackAssemblyStage`, as far as rendering reads it. -/
structure PackAssembly where
  summaryItems : List MemoryResult
  timelineItems : List MemoryResult
  observationItems : List MemoryResult
  dedupeState : DedupeState
  clusterState : ClusterCompressionState
  compact : Bool
  compactDetailCount : ℤ
  compressionMode : PackCompressionMode

/-- `PackRenderStage`. -/
structure PackRender where
  budgetedSummary : List MemoryResult
  budgetedTimeline : List MemoryResult
  budgetedObservations : List MemoryResult
  packText : String
  packTokens : ℕ
  renderedItems : List RenderedPackItem

def compactPackCandidates (assembly : PackAssembly) : List MemoryResult :=
  (assembly.summaryItems ++ assembly.timelineItems ++ assembly.observationItems).foldl
    (fun rows item => insertOrUpdate (fun item => item.id) item (fun _ => item) rows) []

def renderCompactPackSections (parseFacts : FactsParser) (assembly : PackAssembly)
    (tokenBudget : Option ℚ) : PackRender :=
  let budgeted := budgetCompactPack parseFacts (compactPackCandidates assembly)
    assembly.compactDetailCount assembly.clusterState tokenBudget
  let rendered := renderCompactPack parseFacts budgeted.1 budgeted.2 assembly.clusterState
  let packText := enforceTokenBudget rendered.1 tokenBudget
  ⟨[], budgeted.1, [], packText, estimateTokens packText, rendered.2⟩

def renderStandardPackSections (parseFacts : FactsParser) (assembly : PackAssembly)
    (tokenBudget : Option ℚ) : PackRender :=
  let includeRelatedIds := assembly.compressionMode == .ids
  let budgeted :=
    match tokenBudget.filter (0 < ·) with
    | none => (assembly.summaryItems, assembly.timelineItems, assembly.observationItems)
    | some budget => budgetStandardPack parseFacts assembly.summaryItems assembly.timelineItems
        assembly.observationItems assembly.clusterState budget includeRelatedIds
  let rendered := renderStandardPack parseFacts budgeted.1 budgeted.2.1 budgeted.2.2
    assembly.clusterState includeRelatedIds
  let packText := enforceTokenBudget rendered.1 tokenBudget
  ⟨budgeted.1, budgeted.2.1, budgeted.2.2, packText, estimateTokens packText, rendered.2⟩

def renderPackSections (parseFacts : FactsParser) (assembly : PackAssembly)
    (tokenBudget : Option ℚ) : PackRender :=
  if assembly.compact then renderCompactPackSections parseFacts assembly tokenBudget
  else renderStandardPackSections parseFacts assembly tokenBudget

/-! ### Selected items -/

/-- The items of all sections. -/
def PackRender.items (render : PackRender) : List MemoryResult :=
  render.budgetedSummary ++ render.budgetedTimeline ++ render.budgetedObservations

/-- `selectedPackItemsById` of a render stage. -/
def PackRender.selectedById (render : PackRender) : List MemoryResult :=
  render.items.foldl
    (fun rows item => insertOrUpdate (fun item => item.id) item id rows) []

/-- One round of the first loop of `orderSelectedPackItems`. -/
def selectResult (selectedById : List MemoryResult) (acc : List MemoryResult × List ℤ)
    (item : MemoryResult) : List MemoryResult × List ℤ :=
  if item.id ∈ acc.2 then
    match rowAt (fun item : MemoryResult => item.id) item.id selectedById with
    | none => acc
    | some selected => (acc.1 ++ [selected], acc.2.erase item.id)
  else acc

/-- One round of the second loop of `orderSelectedPackItems`. -/
def selectRendered (acc : List MemoryResult × List ℤ) (item : MemoryResult) :
    List MemoryResult × List ℤ :=
  if item.id ∈ acc.2 then (acc.1 ++ [item], acc.2.erase item.id) else acc

def orderSelectedPackItems (results renderedItems selectedById : List MemoryResult) :
    List MemoryResult :=
  (renderedItems.foldl selectRendered (results.foldl (selectResult selectedById)
    ([], selectedById.map fun item => item.id))).1

/-- The selected items of `selectPackItems`. -/
def selectPackItems (results : List MemoryResult) (render : PackRender) : List MemoryResult :=
  orderSelectedPackItems results render.items render.selectedById

end Codemem
