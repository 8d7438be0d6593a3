import Codemem.Foundation.KeyedRows
import Codemem.Foundation.LocaleCompare
import Codemem.Foundation.UnionFind
import Codemem.Text
import Codemem.Foundation.OrderedPage

/-!
# Compressing clusters of a pack

Items whose titles share words are joined, and of each cluster only one item is shown.
`compressClusters` joins the items by union-find, sorts each cluster to find its representative, and
records the other items under it.  The lower case of a text and `localeCompare` are parameters.
-/

namespace Codemem

/-- A memory of a pack, as far as deduplication and compression read it. -/
structure PackMemory where
  id : ℤ
  kind : String
  title : String
  bodyText : String
  narrative : Option String
  confidence : ℚ
  createdAt : String
  isSummaryLike : Bool
  deriving DecidableEq

inductive PackTraceMode where
  | default
  | task
  | recall
  deriving DecidableEq, Repr

inductive ClusterPattern where
  | relatedWork
  | sessionEcho
  | operationalRule
  | recurringFailure
  | thematicOverlap
  deriving DecidableEq, Repr

/-- A cluster as the trace shows it. -/
structure PackCluster where
  representativeId : ℤ
  compressedIds : List ℤ
  overlapWords : List String
  pattern : ClusterPattern

structure ClusterCompressionState where
  compressedByRepresentative : List (ℤ × List ℤ)
  representativeByCompressedId : List (ℤ × ℤ)
  clusters : List PackCluster

/-- What the code uses of the runtime: `toLowerCase` and `localeCompare`. -/
structure TextTools where
  toLowerCase : String → String
  localeCompare : String → String → ℤ

/-! ### Words of titles -/

/-- `CLUSTER_STOP_WORDS`. -/
def clusterStopWords : List String :=
  ["the", "a", "an", "and", "or", "to", "in", "for", "of", "on", "with", "is", "was", "are", "were",
    "from", "this", "that", "it", "not", "no"]

/-- The matches of `/\w+/g`. -/
def wordsOf (text : String) : List String :=
  ((text.toList.splitOnP fun c => !isWordChar c).filter fun word => !word.isEmpty).map
    String.ofList

/-- `significantWords`: a set, as a list of its elements; no caller sees their order. -/
def significantWords (tools : TextTools) (title : String) : List String :=
  ((wordsOf (tools.toLowerCase title)).filter fun word =>
    2 < word.length && !clusterStopWords.contains word).dedup

def overlapWords (a b : List String) : List String :=
  sortByPos utf16 (a.filter fun word => b.contains word)

/-! ### Representatives -/

/-- `item.narrative?.trim() ? 1 : 0`. -/
def PackMemory.hasNarrative (item : PackMemory) : ℤ :=
  if item.narrative.any fun narrative => !(trim narrative).toList.isEmpty then 1 else 0

/-- The comparison of `chooseRepresentative`. -/
def compareRepresentatives (tools : TextTools) (a b : PackMemory) : ℚ :=
  if b.confidence ≠ a.confidence then b.confidence - a.confidence
  else if b.createdAt ≠ a.createdAt then tools.localeCompare b.createdAt a.createdAt
  else if b.hasNarrative ≠ a.hasNarrative then b.hasNarrative - a.hasNarrative
  else a.id - b.id

def chooseRepresentative (tools : TextTools) (cluster : List PackMemory) : Option PackMemory :=
  (cluster.insertionSort fun a b => compareRepresentatives tools a b ≤ 0).head?

def clusterPattern (cluster : List PackMemory) : ClusterPattern :=
  if (cluster.any fun item => item.isSummaryLike) && cluster.any fun item => !item.isSummaryLike then
    .sessionEcho
  else if cluster.all fun item => item.kind == "bugfix" then .recurringFailure
  else if cluster.any fun item => item.kind == "decision" then .operationalRule
  else if cluster.any fun item =>
      ["change", "feature", "discovery", "refactor", "decision"].contains item.kind then .relatedWork
  else .thematicOverlap

/-! ### Clusters -/

/-- The pairs of items, the earlier one first. -/
def orderedPairs {α : Type*} : List α → List (α × α)
  | [] => []
  | a :: items => items.map (fun b => (a, b)) ++ orderedPairs items

/-- The pairs of ids that `compressClusters` joins. -/
def joinedPairs (tools : TextTools) (items : List PackMemory) : List (ℤ × ℤ) :=
  ((orderedPairs items).filter fun pair =>
    3 ≤ (overlapWords (significantWords tools pair.1.title)
      (significantWords tools pair.2.title)).length).map fun pair => (pair.1.id, pair.2.id)

/-- The loop that puts every item into the cluster of its root; a search compresses the forest. -/
def clustersByRoot (fuel : ℕ) (parent : ℤ → ℤ) (items : List PackMemory) :
    (ℤ → ℤ) × List (ℤ × List PackMemory) :=
  items.foldl (fun acc item =>
    let found := UnionFind.find fuel acc.1 item.id
    (found.2, insertOrUpdate Prod.fst (found.1, [item])
      (fun cluster => (cluster.1, cluster.2 ++ [item])) acc.2)) (parent, [])

/-- A cluster of at least two items is recorded under its representative. -/
def recordCluster (tools : TextTools) (state : ClusterCompressionState)
    (cluster : List PackMemory) : ClusterCompressionState :=
  if cluster.length < 2 then state
  else
    match chooseRepresentative tools cluster with
    | none => state
    | some representative =>
      let related := sortByPos id
        ((cluster.filter fun item => item.id ≠ representative.id).map PackMemory.id)
      let allWords := cluster.map fun item => significantWords tools item.title
      let sharedWords := sortByPos utf16 ((allWords.headD []).filter fun word =>
        allWords.all fun words => words.contains word)
      { compressedByRepresentative := insertOrUpdate Prod.fst (representative.id, related)
          (fun _ => (representative.id, related)) state.compressedByRepresentative
        representativeByCompressedId := related.foldl (fun entries id =>
          insertOrUpdate Prod.fst (id, representative.id) (fun _ => (id, representative.id))
            entries) state.representativeByCompressedId
        clusters := state.clusters ++
          [⟨representative.id, related, sharedWords, clusterPattern cluster⟩] }

/-- The ids that one call compresses away: those of all clusters but their representatives. -/
def compressedIdsOf (tools : TextTools) (clusters : List (List PackMemory)) : List ℤ :=
  clusters.flatMap fun cluster =>
    if cluster.length < 2 then []
    else
      match chooseRepresentative tools cluster with
      | none => []
      | some representative =>
        (cluster.filter fun item => item.id ≠ representative.id).map PackMemory.id

/-- `compressClusters`; a search in the forest takes no more steps than pairs were joined. -/
def compressClusters (tools : TextTools) (items : List PackMemory) (mode : PackTraceMode)
    (state : ClusterCompressionState) : List PackMemory × ClusterCompressionState :=
  if mode = .task ∨ items.length < 2 then (items, state)
  else
    let pairs := joinedPairs tools items
    let parent := UnionFind.unionAll pairs.length id pairs
    let clusters := ((clustersByRoot pairs.length parent items).2).map Prod.snd
    let compressedIds := compressedIdsOf tools clusters
    (items.filter fun item => !compressedIds.contains item.id,
      clusters.foldl (recordCluster tools) state)

def ClusterCompressionState.empty : ClusterCompressionState := ⟨[], [], []⟩

/-- `compressedByRepresentative.get(id)`, empty when it is missing. -/
def ClusterCompressionState.compressedUnder (state : ClusterCompressionState) (id : ℤ) : List ℤ :=
  ((rowAt Prod.fst id state.compressedByRepresentative).map Prod.snd).getD []

end Codemem
