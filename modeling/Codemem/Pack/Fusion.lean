import Codemem.Foundation.KeyedRows
import Codemem.Foundation.OrderedPage

/-!
# Fusing the candidates of a pack

A pack is filled from two rankings, one by keywords and one by meaning.  `fusePackCandidates` ranks
each list within its own scale, adds the reciprocals of the ranks of a candidate, and orders the
candidates by that sum.  A number is `none` when it is not finite, and a rational otherwise.
-/

namespace Codemem

/-- A search result, with what the secondary score reads of it. -/
structure PackCandidate (δ : Type) where
  id : Option ℚ
  score : Option ℚ
  data : δ
  deriving DecidableEq

/-- `Number.isSafeInteger(item.id) && item.id > 0 && Number.isFinite(item.score)`. -/
def PackCandidate.isValid {δ : Type} (item : PackCandidate δ) : Bool :=
  item.id.any (fun id => id.den == 1 && decide (0 < id) && decide (id < 2 ^ 53)) &&
    item.score.isSome

/-- The two lists. -/
inductive PackChannel where
  | fts
  | semantic
  deriving DecidableEq, Repr

/-- Why a candidate stands where it stands. -/
structure PackFusionEvidence where
  ftsScore : Option ℚ
  ftsRank : Option ℕ
  semanticScore : Option ℚ
  semanticRank : Option ℕ
  fusedScore : ℚ
  rankConstant : ℕ
  fusionRank : ℕ
  secondaryScore : ℚ
  deriving DecidableEq, Repr

/-- A candidate with its evidence. -/
structure FusedCandidate (δ : Type) where
  item : PackCandidate δ
  evidence : PackFusionEvidence

/-- `PACK_RRF_RANK_CONSTANT`. -/
def packRrfRankConstant : ℕ := 60

section Fusion

variable {δ : Type}

/-- The first result of each id, without the ids that were seen before. -/
def firstOfEachId (seen : List (Option ℚ)) : List (PackCandidate δ) → List (PackCandidate δ)
  | [] => []
  | item :: results =>
    if seen.contains item.id then firstOfEachId seen results
    else item :: firstOfEachId (item.id :: seen) results

/-- The order of a channel: the higher score first, and of equal scores the lower id. -/
def channelOrder (item : PackCandidate δ) : Lex (ℚᵒᵈ × ℚ) :=
  toLex (OrderDual.toDual (item.score.getD 0), item.id.getD 0)

def rankChannel (results : List (PackCandidate δ)) : List (PackCandidate δ) :=
  firstOfEachId [] (sortByPos channelOrder (results.filter PackCandidate.isValid))

/-- What a rank adds to the fused score. -/
def reciprocalRank (rank : ℕ) : ℚ := 1 / (packRrfRankConstant + rank)

/-- A channel writes its score and its rank. -/
def PackFusionEvidence.record (channel : PackChannel) (score : Option ℚ) (rank : ℕ)
    (evidence : PackFusionEvidence) : PackFusionEvidence :=
  let fusedScore := evidence.fusedScore + reciprocalRank rank
  match channel with
  | .fts => { evidence with ftsScore := score, ftsRank := some rank, fusedScore }
  | .semantic => { evidence with semanticScore := score, semanticRank := some rank, fusedScore }

variable (secondaryScore : PackCandidate δ → ℚ)

/-- A candidate that no channel has ranked. -/
def newCandidate (item : PackCandidate δ) : FusedCandidate δ :=
  ⟨item, ⟨none, none, none, none, 0, packRrfRankConstant, 0, secondaryScore item⟩⟩

/-- A ranked result enters the candidates. -/
def addRanked (channel : PackChannel) (candidates : List (FusedCandidate δ))
    (ranked : PackCandidate δ × ℕ) : List (FusedCandidate δ) :=
  let write (entry : FusedCandidate δ) : FusedCandidate δ :=
    { entry with evidence := entry.evidence.record channel ranked.1.score ranked.2 }
  insertOrUpdate (fun entry => entry.item.id) (write (newCandidate secondaryScore ranked.1)) write
    candidates

/-- The results of a channel enter the candidates. -/
def addChannel (channel : PackChannel) (candidates : List (FusedCandidate δ))
    (results : List (PackCandidate δ)) : List (FusedCandidate δ) :=
  ((rankChannel results).zipIdx 1).foldl (addRanked secondaryScore channel) candidates

/-- The order of the fusion: fused score, then secondary score, then id. -/
def fusionOrder (entry : FusedCandidate δ) : Lex (ℚᵒᵈ × Lex (ℚᵒᵈ × ℚ)) :=
  toLex (OrderDual.toDual entry.evidence.fusedScore,
    toLex (OrderDual.toDual entry.evidence.secondaryScore, entry.item.id.getD 0))

/-- The candidates of both channels, in the order they came up. -/
def fusionCandidates (fts semantic : List (PackCandidate δ)) : List (FusedCandidate δ) :=
  addChannel secondaryScore .semantic (addChannel secondaryScore .fts [] fts) semantic

def fusePackCandidates (fts semantic : List (PackCandidate δ)) : List (FusedCandidate δ) :=
  ((sortByPos fusionOrder (fusionCandidates secondaryScore fts semantic)).zipIdx 1).map
    fun ranked => { ranked.1 with evidence := { ranked.1.evidence with fusionRank := ranked.2 } }

end Fusion

/-! ### Numbered lists -/

section Numbering

variable {α : Type*} {entries : List α} {a b : α} {i j : ℕ}

lemma mem_iff_exists_zipIdx : a ∈ entries ↔ ∃ i, (a, i) ∈ entries.zipIdx 1 := by
  have hmap : a ∈ (entries.zipIdx 1).map Prod.fst ↔ ∃ i, (a, i) ∈ entries.zipIdx 1 := by
    simp only [List.mem_map, Prod.exists, exists_and_right, exists_eq_right]
  rwa [List.zipIdx_map_fst] at hmap

lemma eq_of_zipIdx (ha : (a, i) ∈ entries.zipIdx 1) (hb : (b, i) ∈ entries.zipIdx 1) : a = b := by
  have hnodup : ((entries.zipIdx 1).map Prod.snd).Nodup := by
    rw [List.zipIdx_map_snd]
    exact List.nodup_range'
  exact congrArg Prod.fst (List.inj_on_of_nodup_map hnodup ha hb rfl)

lemma lt_of_zipIdx {κ : Type*} [LinearOrder κ] {pos : α → κ}
    (hsorted : entries.Pairwise fun a b => pos a ≤ pos b) (ha : (a, i) ∈ entries.zipIdx 1)
    (hb : (b, j) ∈ entries.zipIdx 1) (hlt : pos a < pos b) : i < j := by
  obtain ⟨hi, hlenA, hgetA⟩ := List.mem_zipIdx ha
  obtain ⟨hj, hlenB, hgetB⟩ := List.mem_zipIdx hb
  by_contra hle
  rcases eq_or_lt_of_le (not_lt.mp hle) with heq | hji
  · subst heq
    rw [eq_of_zipIdx ha hb] at hlt
    exact lt_irrefl _ hlt
  · have hord := List.pairwise_iff_getElem.mp hsorted (j - 1) (i - 1) (by omega) (by omega)
      (by omega)
    rw [← hgetA, ← hgetB] at hord
    exact absurd hlt (not_lt.mpr hord)

end Numbering

/-! ### One channel -/

section Channel

variable {δ : Type} {results results' : List (PackCandidate δ)} {seen : List (Option ℚ)}

lemma firstOfEachId_sublist (seen : List (Option ℚ)) (results : List (PackCandidate δ)) :
    (firstOfEachId seen results).Sublist results := by
  induction results generalizing seen with
  | nil => exact List.Sublist.refl _
  | cons item results ih =>
    unfold firstOfEachId
    split_ifs
    · exact (ih seen).cons item
    · exact (ih (item.id :: seen)).cons_cons item

lemma mem_ids_firstOfEachId {id : Option ℚ} :
    id ∈ (firstOfEachId seen results).map PackCandidate.id ↔
      id ∈ results.map PackCandidate.id ∧ id ∉ seen := by
  induction results generalizing seen with
  | nil => simp [firstOfEachId]
  | cons item results ih =>
    unfold firstOfEachId
    split_ifs with hseen
    · have hmem := List.contains_iff_mem.mp hseen
      rw [ih, List.map_cons, List.mem_cons]
      refine and_congr_left fun hnot => ⟨.inr, fun h => h.resolve_left ?_⟩
      rintro rfl
      exact hnot hmem
    · have hnot : item.id ∉ seen := fun h => hseen (List.contains_iff_mem.mpr h)
      rw [List.map_cons, List.mem_cons, ih, List.map_cons, List.mem_cons, List.mem_cons]
      by_cases heq : id = item.id
      · simp [heq, hnot]
      · simp [heq]

lemma nodup_ids_firstOfEachId (seen : List (Option ℚ)) (results : List (PackCandidate δ)) :
    ((firstOfEachId seen results).map PackCandidate.id).Nodup := by
  induction results generalizing seen with
  | nil => exact List.nodup_nil
  | cons item results ih =>
    unfold firstOfEachId
    split_ifs
    · exact ih seen
    · rw [List.map_cons, List.nodup_cons]
      refine ⟨fun hmem => ?_, ih _⟩
      exact (mem_ids_firstOfEachId.mp hmem).2 List.mem_cons_self

lemma nodup_ids_rankChannel (results : List (PackCandidate δ)) :
    ((rankChannel results).map PackCandidate.id).Nodup := nodup_ids_firstOfEachId _ _

lemma mem_ids_rankChannel {id : Option ℚ} :
    id ∈ (rankChannel results).map PackCandidate.id ↔
      ∃ item ∈ results, item.isValid = true ∧ item.id = id := by
  rw [rankChannel, mem_ids_firstOfEachId, List.mem_map]
  simp [and_assoc]

lemma mem_of_mem_rankChannel {item : PackCandidate δ} (h : item ∈ rankChannel results) :
    item ∈ results ∧ item.isValid = true := by
  have hmem := mem_sortByPos.mp ((firstOfEachId_sublist _ _).subset h)
  exact List.mem_filter.mp hmem

def SameDataPerId (results : List (PackCandidate δ)) : Prop :=
  ∀ a ∈ results, ∀ b ∈ results, a.isValid = true → b.isValid = true → a.id = b.id → a = b

lemma PackCandidate.id_eq_some {item : PackCandidate δ} (h : item.isValid = true) :
    item.id = some (item.id.getD 0) := by
  unfold PackCandidate.isValid at h
  cases hid : item.id with
  | none => simp [hid] at h
  | some id => rfl

lemma rankChannel_perm (hsame : SameDataPerId results) (hperm : results'.Perm results) :
    rankChannel results' = rankChannel results := by
  have hsorted : sortByPos channelOrder (results'.filter PackCandidate.isValid) =
      sortByPos channelOrder (results.filter PackCandidate.isValid) := by
    refine List.Perm.eq_of_pairwise ?_ (pairwise_sortByPos _ _) (pairwise_sortByPos _ _)
      (((perm_sortByPos _ _).trans (hperm.filter _)).trans (perm_sortByPos _ _).symm)
    intro a b ha hb hle hge
    obtain ⟨hmemA, hvalidA⟩ := List.mem_filter.mp (mem_sortByPos.mp ha)
    obtain ⟨hmemB, hvalidB⟩ := List.mem_filter.mp (mem_sortByPos.mp hb)
    have heq : channelOrder a = channelOrder b := le_antisymm hle hge
    have hid : a.id.getD 0 = b.id.getD 0 := congrArg (fun key => (ofLex key).2) heq
    refine hsame a (hperm.subset hmemA) b hmemB hvalidA hvalidB ?_
    rw [PackCandidate.id_eq_some hvalidA, PackCandidate.id_eq_some hvalidB, hid]
  rw [rankChannel, rankChannel, hsorted]

def rankIn (results : List (PackCandidate δ)) (id : Option ℚ) : Option ℕ :=
  (rowAt (fun ranked => ranked.1.id) id ((rankChannel results).zipIdx 1)).map Prod.snd

lemma ids_zipIdx (entries : List (PackCandidate δ)) (n : ℕ) :
    (entries.zipIdx n).map (fun ranked => ranked.1.id) = entries.map PackCandidate.id := by
  have hcomp : (fun ranked : PackCandidate δ × ℕ => ranked.1.id) = PackCandidate.id ∘ Prod.fst :=
    rfl
  rw [hcomp, ← List.map_map, List.zipIdx_map_fst]

lemma rankIn_eq_some_iff {id : Option ℚ} {rank : ℕ} :
    rankIn results id = some rank ↔
      ∃ item, (item, rank) ∈ (rankChannel results).zipIdx 1 ∧ item.id = id := by
  have hnodup : (((rankChannel results).zipIdx 1).map fun r => r.1.id).Nodup := by
    rw [ids_zipIdx]
    exact nodup_ids_rankChannel results
  rw [rankIn, Option.map_eq_some_iff]
  constructor
  · rintro ⟨⟨item, _⟩, hfind, rfl⟩
    exact ⟨item, (rowAt_eq_some_iff hnodup).mp hfind⟩
  · rintro ⟨item, hmem, hid⟩
    exact ⟨(item, rank), (rowAt_eq_some_iff hnodup).mpr ⟨hmem, hid⟩, rfl⟩

lemma exists_rankIn_iff {id : Option ℚ} :
    (∃ rank, rankIn results id = some rank) ↔
      ∃ item ∈ results, item.isValid = true ∧ item.id = id := by
  rw [← mem_ids_rankChannel, List.mem_map]
  constructor
  · rintro ⟨rank, hrank⟩
    obtain ⟨item, hmem, hid⟩ := rankIn_eq_some_iff.mp hrank
    exact ⟨item, mem_iff_exists_zipIdx.mpr ⟨rank, hmem⟩, hid⟩
  · rintro ⟨item, hmem, hid⟩
    obtain ⟨rank, hmem⟩ := mem_iff_exists_zipIdx.mp hmem
    exact ⟨rank, rankIn_eq_some_iff.mpr ⟨item, hmem, hid⟩⟩

end Channel

/-! ### The candidates -/

section Candidates

variable {δ : Type} {secondaryScore : PackCandidate δ → ℚ} {channel : PackChannel}
  {fts semantic : List (PackCandidate δ)}

/-- A candidate after a channel has written its score and rank. -/
def FusedCandidate.write (channel : PackChannel) (ranked : PackCandidate δ × ℕ)
    (entry : FusedCandidate δ) : FusedCandidate δ :=
  { entry with evidence := entry.evidence.record channel ranked.1.score ranked.2 }

lemma rowAt_foldl_addRanked {ranked : List (PackCandidate δ × ℕ)}
    (hnodup : (ranked.map fun r => r.1.id).Nodup) (id : Option ℚ)
    (candidates : List (FusedCandidate δ)) :
    rowAt (fun entry => entry.item.id) id
        (ranked.foldl (addRanked secondaryScore channel) candidates) =
      (rowAt (fun r => r.1.id) id ranked).elim
        (rowAt (fun entry => entry.item.id) id candidates) fun r =>
          some (((rowAt (fun entry => entry.item.id) id candidates).getD
            (newCandidate secondaryScore r.1)).write channel r) := by
  induction ranked generalizing candidates with
  | nil => rfl
  | cons r ranked ih =>
    rw [List.map_cons, List.nodup_cons] at hnodup
    have hadd : rowAt (fun entry => entry.item.id) id
        (addRanked secondaryScore channel candidates r) =
          if id = r.1.id then some (((rowAt (fun entry => entry.item.id) id candidates).map
              (FusedCandidate.write channel r)).getD
                ((newCandidate secondaryScore r.1).write channel r))
          else rowAt (fun entry => entry.item.id) id candidates :=
      @rowAt_insertOrUpdate _ _ _ (fun entry : FusedCandidate δ => entry.item.id) _
        (FusedCandidate.write channel r) (fun _ => rfl) id candidates
    rw [List.foldl_cons, ih hnodup.2, hadd]
    by_cases hid : id = r.1.id
    · have hnone : rowAt (fun r => r.1.id) id ranked = none := by
        by_contra hsome
        obtain ⟨other, hother⟩ := Option.ne_none_iff_exists'.mp hsome
        obtain ⟨hmem, hother⟩ := rowAt_eq_some hother
        exact hnodup.1 (List.mem_map.mpr ⟨other, hmem, hother.trans hid⟩)
      rw [if_pos hid, hnone, Option.elim_none, rowAt_cons, if_pos hid.symm, Option.elim_some]
      cases rowAt (fun entry => entry.item.id) id candidates with
      | none => rfl
      | some entry => rfl
    · rw [if_neg hid, rowAt_cons, if_neg (Ne.symm hid)]

lemma nodup_foldl_addRanked (ranked : List (PackCandidate δ × ℕ))
    {candidates : List (FusedCandidate δ)}
    (h : (candidates.map fun entry => entry.item.id).Nodup) :
    ((ranked.foldl (addRanked secondaryScore channel) candidates).map
      fun entry => entry.item.id).Nodup := by
  induction ranked generalizing candidates with
  | nil => exact h
  | cons r ranked ih =>
    have hadd := @nodup_insertOrUpdate _ _ _ (fun entry : FusedCandidate δ => entry.item.id)
      ((newCandidate secondaryScore r.1).write channel r) (FusedCandidate.write channel r)
      (fun _ _ => rfl) candidates h
    exact ih hadd

lemma nodup_ids_fusionCandidates :
    ((fusionCandidates secondaryScore fts semantic).map fun entry => entry.item.id).Nodup :=
  nodup_foldl_addRanked _ (nodup_foldl_addRanked _ List.nodup_nil)

/-- What a rank adds to the fused score, if there is one. -/
def contribution (rank : Option ℕ) : ℚ := rank.elim 0 reciprocalRank

/-- The result that a channel has at an id. -/
def rankedAt (results : List (PackCandidate δ)) (id : Option ℚ) : Option (PackCandidate δ × ℕ) :=
  rowAt (fun ranked => ranked.1.id) id ((rankChannel results).zipIdx 1)

lemma rowAt_fusionCandidates (id : Option ℚ) :
    rowAt (fun entry => entry.item.id) id (fusionCandidates secondaryScore fts semantic) =
      let ranked := (rankedAt fts id).map fun r =>
        (newCandidate secondaryScore r.1).write .fts r
      (rankedAt semantic id).elim ranked fun r =>
        some ((ranked.getD (newCandidate secondaryScore r.1)).write .semantic r) := by
  have hnodup : ∀ results : List (PackCandidate δ),
      (((rankChannel results).zipIdx 1).map fun r => r.1.id).Nodup := by
    intro results
    rw [ids_zipIdx]
    exact nodup_ids_rankChannel results
  have hfirst : rowAt (fun entry : FusedCandidate δ => entry.item.id) id
      (addChannel secondaryScore .fts [] fts) =
        (rankedAt fts id).map fun r => (newCandidate secondaryScore r.1).write .fts r := by
    rw [addChannel, rowAt_foldl_addRanked (hnodup fts), ← rankedAt]
    cases rankedAt fts id with
    | none => rfl
    | some r => rfl
  dsimp only
  rw [fusionCandidates, addChannel, rowAt_foldl_addRanked (hnodup semantic), hfirst, ← rankedAt]

lemma evidence_of_mem {entry : FusedCandidate δ}
    (h : entry ∈ fusionCandidates secondaryScore fts semantic) :
    entry.evidence.ftsRank = rankIn fts entry.item.id ∧
      entry.evidence.semanticRank = rankIn semantic entry.item.id ∧
      entry.evidence.fusedScore = contribution entry.evidence.ftsRank +
        contribution entry.evidence.semanticRank := by
  have hrow := (rowAt_eq_some_iff nodup_ids_fusionCandidates).mpr ⟨h, rfl⟩
  rw [rowAt_fusionCandidates] at hrow
  have hfts : rankIn fts entry.item.id = (rankedAt fts entry.item.id).map Prod.snd := rfl
  have hsemantic : rankIn semantic entry.item.id =
      (rankedAt semantic entry.item.id).map Prod.snd := rfl
  rw [hfts, hsemantic]
  generalize rankedAt fts entry.item.id = f at hrow ⊢
  generalize rankedAt semantic entry.item.id = g at hrow ⊢
  cases f with
  | none =>
    cases g with
    | none => simp at hrow
    | some r =>
      simp only [Option.map_none, Option.elim_some, Option.getD_none, Option.some.injEq] at hrow
      rw [← hrow]
      simp [FusedCandidate.write, PackFusionEvidence.record, newCandidate, contribution]
  | some f =>
    cases g with
    | none =>
      simp only [Option.map_some, Option.elim_none, Option.some.injEq] at hrow
      rw [← hrow]
      simp [FusedCandidate.write, PackFusionEvidence.record, newCandidate, contribution]
    | some r =>
      simp only [Option.map_some, Option.elim_some, Option.getD_some, Option.some.injEq] at hrow
      rw [← hrow]
      simp [FusedCandidate.write, PackFusionEvidence.record, newCandidate, contribution]

lemma mem_ids_fusionCandidates {id : Option ℚ} :
    id ∈ (fusionCandidates secondaryScore fts semantic).map (fun entry => entry.item.id) ↔
      ∃ item ∈ fts ++ semantic, item.isValid = true ∧ item.id = id := by
  have hranked : ∀ results : List (PackCandidate δ), (∃ r, rankedAt results id = some r) ↔
      ∃ item ∈ results, item.isValid = true ∧ item.id = id := by
    intro results
    rw [← exists_rankIn_iff]
    simp only [rankIn, rankedAt, Option.map_eq_some_iff]
    constructor
    · rintro ⟨r, hr⟩
      exact ⟨r.2, r, hr, rfl⟩
    · rintro ⟨rank, r, hr, -⟩
      exact ⟨r, hr⟩
  have hrow : id ∈ (fusionCandidates secondaryScore fts semantic).map
      (fun entry => entry.item.id) ↔ ∃ entry, rowAt (fun entry => entry.item.id) id
        (fusionCandidates secondaryScore fts semantic) = some entry := by
    constructor
    · intro h
      obtain ⟨entry, hmem, rfl⟩ := List.mem_map.mp h
      exact exists_rowAt_of_mem hmem
    · rintro ⟨entry, h⟩
      obtain ⟨hmem, rfl⟩ := rowAt_eq_some h
      exact List.mem_map_of_mem hmem
  rw [hrow, rowAt_fusionCandidates]
  simp only [List.mem_append, or_and_right, exists_or, ← hranked]
  cases rankedAt fts id with
  | none => cases rankedAt semantic id <;> simp
  | some f => cases rankedAt semantic id <;> simp

end Candidates

/-! ### The fusion -/

section Result

variable {δ : Type} {secondaryScore : PackCandidate δ → ℚ} {fts semantic : List (PackCandidate δ)}

lemma exists_of_mem_fusePackCandidates {result : FusedCandidate δ}
    (h : result ∈ fusePackCandidates secondaryScore fts semantic) :
    ∃ entry, (entry, result.evidence.fusionRank) ∈
        (sortByPos fusionOrder (fusionCandidates secondaryScore fts semantic)).zipIdx 1 ∧
      result.item = entry.item ∧ result.evidence =
        { entry.evidence with fusionRank := result.evidence.fusionRank } := by
  obtain ⟨⟨entry, n⟩, hmem, rfl⟩ := List.mem_map.mp h
  exact ⟨entry, hmem, rfl, rfl⟩

lemma map_fusePackCandidates {β : Type} {f : FusedCandidate δ → β}
    (hf : ∀ (entry : FusedCandidate δ) (n : ℕ),
      f { entry with evidence := { entry.evidence with fusionRank := n } } = f entry) :
    ((fusePackCandidates secondaryScore fts semantic).map f).Perm
      ((fusionCandidates secondaryScore fts semantic).map f) := by
  have hcomp : (f ∘ fun ranked : FusedCandidate δ × ℕ =>
      { ranked.1 with evidence := { ranked.1.evidence with fusionRank := ranked.2 } }) =
        f ∘ Prod.fst := by
    funext ranked
    exact hf ranked.1 ranked.2
  rw [fusePackCandidates, List.map_map, hcomp, ← List.map_map, List.zipIdx_map_fst]
  exact (perm_sortByPos _ _).map f

lemma ids_fusePackCandidates :
    ((fusePackCandidates secondaryScore fts semantic).map fun entry => entry.item.id).Nodup ∧
      ∀ id, id ∈ (fusePackCandidates secondaryScore fts semantic).map
          (fun entry => entry.item.id) ↔
        ∃ item ∈ fts ++ semantic, item.isValid = true ∧ item.id = id := by
  have hperm : ((fusePackCandidates secondaryScore fts semantic).map
      fun entry => entry.item.id).Perm _ := map_fusePackCandidates fun _ _ => rfl
  exact ⟨hperm.nodup_iff.mpr nodup_ids_fusionCandidates,
    fun id => hperm.mem_iff.trans mem_ids_fusionCandidates⟩

lemma fusionRanks_fusePackCandidates :
    (fusePackCandidates secondaryScore fts semantic).map (fun entry => entry.evidence.fusionRank) =
      List.range' 1 (fusePackCandidates secondaryScore fts semantic).length := by
  have hcomp : ((fun entry : FusedCandidate δ => entry.evidence.fusionRank) ∘
      fun ranked : FusedCandidate δ × ℕ =>
        { ranked.1 with evidence := { ranked.1.evidence with fusionRank := ranked.2 } }) =
          Prod.snd := rfl
  rw [fusePackCandidates, List.map_map, hcomp, List.zipIdx_map_snd, List.length_map,
    List.length_zipIdx]

/-- Ranks that a column holds for the ids of a channel are the numbers from one on. -/
lemma ranks_contiguous {column : FusedCandidate δ → Option ℕ} {results : List (PackCandidate δ)}
    (hcolumn : ∀ entry ∈ fusionCandidates secondaryScore fts semantic,
      column entry = rankIn results entry.item.id)
    (hsub : ∀ item ∈ results, item.isValid = true →
      item.id ∈ (fusionCandidates secondaryScore fts semantic).map fun entry => entry.item.id) :
    ((fusionCandidates secondaryScore fts semantic).filterMap column).Perm
      (List.range' 1 (rankChannel results).length) := by
  refine (List.perm_ext_iff_of_nodup ?_ List.nodup_range').mpr fun rank => ?_
  · -- Two candidates with one rank are the candidates of one result.
    rw [List.Nodup, List.pairwise_filterMap]
    have hnodup : ((fusionCandidates secondaryScore fts semantic).map
        fun entry => entry.item.id).Nodup := nodup_ids_fusionCandidates
    have hpairwise := List.pairwise_map.mp hnodup
    refine hpairwise.imp_of_mem fun {a b} ha hb hne rank hrank rank' hrank' heq => hne ?_
    subst heq
    rw [hcolumn a ha] at hrank
    rw [hcolumn b hb] at hrank'
    obtain ⟨item, hitem, hidA⟩ := rankIn_eq_some_iff.mp hrank
    obtain ⟨item', hitem', hidB⟩ := rankIn_eq_some_iff.mp hrank'
    rw [← hidA, ← hidB, eq_of_zipIdx hitem hitem']
  · have hnumber : rank ∈ List.range' 1 (rankChannel results).length ↔
        ∃ item, (item, rank) ∈ (rankChannel results).zipIdx 1 := by
      rw [← List.zipIdx_map_snd, List.mem_map]
      constructor
      · rintro ⟨⟨item, _⟩, hmem, rfl⟩
        exact ⟨item, hmem⟩
      · rintro ⟨item, hmem⟩
        exact ⟨(item, rank), hmem, rfl⟩
    rw [hnumber, List.mem_filterMap]
    constructor
    · rintro ⟨entry, hmem, hrank⟩
      rw [hcolumn entry hmem] at hrank
      obtain ⟨item, hitem, -⟩ := rankIn_eq_some_iff.mp hrank
      exact ⟨item, hitem⟩
    · rintro ⟨item, hitem⟩
      obtain ⟨hmem, hvalid⟩ := mem_of_mem_rankChannel (mem_iff_exists_zipIdx.mpr ⟨rank, hitem⟩)
      obtain ⟨entry, hentry, hid⟩ := List.mem_map.mp (hsub item hmem hvalid)
      refine ⟨entry, hentry, ?_⟩
      rw [hcolumn entry hentry]
      exact rankIn_eq_some_iff.mpr ⟨item, hitem, hid.symm⟩

/-- A rank at least as high as another, where a missing one is the lowest. -/
def RankedAtLeast (rank other : Option ℕ) : Prop := ∀ n ∈ other, ∃ m ∈ rank, m ≤ n

/-- A rank higher than another, where a missing one is the lowest. -/
def RankedAbove (rank other : Option ℕ) : Prop := ∃ m ∈ rank, ∀ n ∈ other, m < n

/-- A candidate is ranked at least as high as another in both lists, and higher in one. -/
def PackFusionEvidence.Dominates (a b : PackFusionEvidence) : Prop :=
  RankedAtLeast a.ftsRank b.ftsRank ∧ RankedAtLeast a.semanticRank b.semanticRank ∧
    (RankedAbove a.ftsRank b.ftsRank ∨ RankedAbove a.semanticRank b.semanticRank)

lemma reciprocalRank_pos (rank : ℕ) : 0 < reciprocalRank rank := by
  unfold reciprocalRank packRrfRankConstant
  positivity

lemma reciprocalRank_le {m n : ℕ} (h : m ≤ n) : reciprocalRank n ≤ reciprocalRank m := by
  unfold reciprocalRank packRrfRankConstant
  gcongr

lemma reciprocalRank_lt {m n : ℕ} (h : m < n) : reciprocalRank n < reciprocalRank m := by
  unfold reciprocalRank packRrfRankConstant
  gcongr

lemma contribution_le {rank other : Option ℕ} (h : RankedAtLeast rank other) :
    contribution other ≤ contribution rank := by
  cases other with
  | none =>
    cases rank with
    | none => exact le_rfl
    | some m => exact (reciprocalRank_pos m).le
  | some n =>
    obtain ⟨m, hm, hle⟩ := h n rfl
    rw [Option.mem_def.mp hm]
    exact reciprocalRank_le hle

lemma contribution_lt {rank other : Option ℕ} (h : RankedAbove rank other) :
    contribution other < contribution rank := by
  obtain ⟨m, hm, habove⟩ := h
  rw [Option.mem_def.mp hm]
  cases other with
  | none => exact reciprocalRank_pos m
  | some n => exact reciprocalRank_lt (habove n rfl)

lemma fusedScore_lt {a b : FusedCandidate δ}
    (ha : a ∈ fusionCandidates secondaryScore fts semantic)
    (hb : b ∈ fusionCandidates secondaryScore fts semantic)
    (h : a.evidence.Dominates b.evidence) : b.evidence.fusedScore < a.evidence.fusedScore := by
  obtain ⟨-, -, hsumA⟩ := evidence_of_mem ha
  obtain ⟨-, -, hsumB⟩ := evidence_of_mem hb
  obtain ⟨hfts, hsemantic, habove⟩ := h
  have hfts := contribution_le hfts
  have hsemantic := contribution_le hsemantic
  rw [hsumA, hsumB]
  rcases habove with habove | habove
  · have hlt := contribution_lt habove
    linarith
  · have hlt := contribution_lt habove
    linarith

/-- Two keyword results, one of them twice, and one with an invalid id. -/
def sampleFts : List (PackCandidate Unit) :=
  [⟨some 1, some 10, ()⟩, ⟨some 2, some 9, ()⟩, ⟨some 1, some 10, ()⟩, ⟨none, some 8, ()⟩]

/-- Two semantic results, one of them with a score that is not finite. -/
def sampleSemantic : List (PackCandidate Unit) := [⟨some 3, some 4, ()⟩, ⟨some 2, none, ()⟩]

end Result

end Codemem
