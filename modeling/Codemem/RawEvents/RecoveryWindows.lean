import Codemem.Foundation.LocaleCompare
import Codemem.Foundation.Runs
import Mathlib.Data.List.Sort

/-!
# Recovery windows

`planRawEventRecoveryWindows` merges the missing ranges, takes the completed ones out and cuts what
is left into windows.  The ranges are sorted with `localeCompare`, which can call two different
streams equal; where it does not, the windows partition the missing events.
-/

namespace Codemem

structure RawEventRecoveryRange where
  source : String
  streamId : String
  startEventSeq : ℤ
  endEventSeq : ℤ
  deriving DecidableEq

namespace RawEventRecoveryRange

def sameStream (left right : RawEventRecoveryRange) : Bool :=
  left.source == right.source && left.streamId == right.streamId

/-- `Number.MAX_SAFE_INTEGER`. -/
def maxSafeInteger : ℤ := 9007199254740991

/-- A range that `mergeRanges` does not refuse. -/
def isValid (range : RawEventRecoveryRange) : Bool :=
  decide (range.source ≠ "" ∧ range.streamId ≠ "" ∧ range.startEventSeq ≤ maxSafeInteger ∧
    0 ≤ range.startEventSeq ∧ range.endEventSeq ≤ maxSafeInteger ∧
    range.startEventSeq ≤ range.endEventSeq)

def Covers (range : RawEventRecoveryRange) (source streamId : String) (seq : ℤ) : Prop :=
  range.source = source ∧ range.streamId = streamId ∧ range.startEventSeq ≤ seq ∧
    seq ≤ range.endEventSeq

end RawEventRecoveryRange

open RawEventRecoveryRange

/-- `a || b` of two numbers. -/
def orElseNumber (a b : ℤ) : ℤ := if a = 0 then b else a

def compareRanges (localeCompare : String → String → ℤ) (left right : RawEventRecoveryRange) : ℤ :=
  orElseNumber (localeCompare left.source right.source)
    (orElseNumber (localeCompare left.streamId right.streamId)
      (orElseNumber (left.startEventSeq - right.startEventSeq)
        (left.endEventSeq - right.endEventSeq)))

/-- The loop of `mergeRanges` with the last merged range. -/
def mergeInto (last : RawEventRecoveryRange) :
    List RawEventRecoveryRange → List RawEventRecoveryRange
  | [] => [last]
  | range :: ranges =>
    if sameStream last range ∧ range.startEventSeq ≤ last.endEventSeq + 1 then
      mergeInto { last with endEventSeq := max last.endEventSeq range.endEventSeq } ranges
    else last :: mergeInto range ranges

/-- The loop of `mergeRanges` over sorted ranges. -/
def mergeSorted : List RawEventRecoveryRange → List RawEventRecoveryRange
  | [] => []
  | range :: ranges => mergeInto range ranges

/-- `[...ranges].sort(compareRanges)`. -/
def sortRanges (localeCompare : String → String → ℤ) (ranges : List RawEventRecoveryRange) :
    List RawEventRecoveryRange :=
  ranges.insertionSort fun a b => compareRanges localeCompare a b ≤ 0

/-- `mergeRanges`: a range that is not valid ends the loop with an error. -/
def mergeRanges (localeCompare : String → String → ℤ) (ranges : List RawEventRecoveryRange) :
    Except String (List RawEventRecoveryRange) :=
  if ranges.all isValid then .ok (mergeSorted (sortRanges localeCompare ranges))
  else .error "invalid recovery range"

def remainingFrom (range : RawEventRecoveryRange) (cursor : ℤ) : List RawEventRecoveryRange :=
  if cursor ≤ range.endEventSeq then [{ range with startEventSeq := cursor }] else []

/-- What remains between a cursor and a completed range. -/
def gapBefore (range : RawEventRecoveryRange) (cursor : ℤ) (covered : RawEventRecoveryRange) :
    List RawEventRecoveryRange :=
  if cursor < covered.startEventSeq then
    [{ range with startEventSeq := cursor, endEventSeq := covered.startEventSeq - 1 }]
  else []

/-- The loop of `subtractCompleted` with its cursor. -/
def subtractFrom (range : RawEventRecoveryRange) (cursor : ℤ) :
    List RawEventRecoveryRange → List RawEventRecoveryRange
  | [] => remainingFrom range cursor
  | covered :: completed =>
    if ¬ sameStream range covered ∨ covered.endEventSeq < cursor then
      subtractFrom range cursor completed
    else if range.endEventSeq < covered.startEventSeq then remainingFrom range cursor
    else
      let next := max cursor (covered.endEventSeq + 1)
      gapBefore range cursor covered ++
        if range.endEventSeq < next then remainingFrom range next
        else subtractFrom range next completed

def subtractCompleted (range : RawEventRecoveryRange) (completed : List RawEventRecoveryRange) :
    List RawEventRecoveryRange :=
  subtractFrom range range.startEventSeq completed

/-- The loop that cuts a gap: one window for each multiple of `maxEvents` that lies in it.  Sums
beyond the safe integers are rounded, but end after the gap all the same. -/
def windowsOfGap (maxEvents : ℤ) (gap : RawEventRecoveryRange) : List RawEventRecoveryRange :=
  (List.range ((gap.endEventSeq - gap.startEventSeq) / maxEvents + 1).toNat).map fun i : ℕ =>
    let start := gap.startEventSeq + (i : ℤ) * maxEvents
    { gap with startEventSeq := start, endEventSeq := min gap.endEventSeq (start + maxEvents - 1) }

def planRawEventRecoveryWindows (localeCompare : String → String → ℤ)
    (missingAuth completed : List RawEventRecoveryRange) (maxEvents : ℤ) :
    Except String (List RawEventRecoveryRange) :=
  if maxEvents < 1 ∨ 100 < maxEvents then .error "invalid recovery limit"
  else do
    let covered ← mergeRanges localeCompare completed
    let missing ← mergeRanges localeCompare missingAuth
    return missing.flatMap fun range =>
      (subtractCompleted range covered).flatMap (windowsOfGap maxEvents)

/-! ### The order of ranges -/

section Sorting

variable {localeCompare : String → String → ℤ}

/-- No comparison of streams before the sequence numbers decides. -/
def TiedStreams (localeCompare : String → String → ℤ) (a b : RawEventRecoveryRange) : Prop :=
  localeCompare a.source b.source = 0 ∧ localeCompare a.streamId b.streamId = 0

/-- A stream comes before another. -/
def StreamBefore (localeCompare : String → String → ℤ) (a b : RawEventRecoveryRange) : Prop :=
  localeCompare a.source b.source < 0 ∨
    localeCompare a.source b.source = 0 ∧ localeCompare a.streamId b.streamId < 0

lemma compareRanges_nonpos_iff {a b : RawEventRecoveryRange} :
    compareRanges localeCompare a b ≤ 0 ↔ StreamBefore localeCompare a b ∨
      TiedStreams localeCompare a b ∧ (a.startEventSeq < b.startEventSeq ∨
        a.startEventSeq = b.startEventSeq ∧ a.endEventSeq ≤ b.endEventSeq) := by
  unfold compareRanges orElseNumber StreamBefore TiedStreams
  split_ifs
  · omega
  · omega
  · omega
  · omega

variable (hcompare : IsConsistentCompare localeCompare)
include hcompare

lemma TiedStreams.trans {a b c : RawEventRecoveryRange} (h : TiedStreams localeCompare a b)
    (h' : TiedStreams localeCompare b c) : TiedStreams localeCompare a c :=
  ⟨hcompare.eq_zero_trans h.1 h'.1, hcompare.eq_zero_trans h.2 h'.2⟩

lemma StreamBefore.of_steps {a b c : RawEventRecoveryRange}
    (h : StreamBefore localeCompare a b ∨ TiedStreams localeCompare a b)
    (h' : StreamBefore localeCompare b c ∨ TiedStreams localeCompare b c)
    (hne : ¬ (TiedStreams localeCompare a b ∧ TiedStreams localeCompare b c)) :
    StreamBefore localeCompare a c := by
  have hstep : ∀ x y z, localeCompare x y ≤ 0 → localeCompare y z ≤ 0 →
      localeCompare x z ≤ 0 ∧ (localeCompare x y < 0 → localeCompare x z < 0) ∧
        (localeCompare y z < 0 → localeCompare x z < 0) := fun x y z hxy hyz =>
    ⟨hcompare.trans x y z hxy hyz, fun h => hcompare.neg_of_neg_of_nonpos h hyz,
      fun h => hcompare.neg_of_nonpos_of_neg hxy h⟩
  have hsource := hstep a.source b.source c.source
  have hstream := hstep a.streamId b.streamId c.streamId
  unfold StreamBefore TiedStreams at *
  by_cases hsources : localeCompare a.source b.source = 0 ∧ localeCompare b.source c.source = 0
  · have hac := hcompare.eq_zero_trans hsources.1 hsources.2
    have hsteps := hstream (by omega) (by omega)
    exact .inr ⟨hac, by omega⟩
  · have hsteps := hsource (by omega) (by omega)
    exact .inl (by omega)

lemma compareRanges_trans {a b c : RawEventRecoveryRange}
    (hab : compareRanges localeCompare a b ≤ 0) (hbc : compareRanges localeCompare b c ≤ 0) :
    compareRanges localeCompare a c ≤ 0 := by
  rw [compareRanges_nonpos_iff] at hab hbc ⊢
  by_cases htied : TiedStreams localeCompare a b ∧ TiedStreams localeCompare b c
  · have hnotBefore : ∀ {x y}, TiedStreams localeCompare x y → ¬ StreamBefore localeCompare x y := by
      rintro x y ⟨hs, hi⟩ (h | ⟨-, h⟩)
      · omega
      · omega
    have hnumbers := hab.resolve_left (hnotBefore htied.1)
    have hnumbers' := hbc.resolve_left (hnotBefore htied.2)
    exact .inr ⟨htied.1.trans hcompare htied.2, by omega⟩
  · exact .inl (StreamBefore.of_steps hcompare (hab.imp id And.left) (hbc.imp id And.left) htied)

lemma compareRanges_total (a b : RawEventRecoveryRange) :
    compareRanges localeCompare a b ≤ 0 ∨ compareRanges localeCompare b a ≤ 0 := by
  rw [compareRanges_nonpos_iff, compareRanges_nonpos_iff]
  unfold StreamBefore TiedStreams
  have hsource := hcompare.swap a.source b.source
  have hsource' := hcompare.swap b.source a.source
  have hstream := hcompare.swap a.streamId b.streamId
  have hstream' := hcompare.swap b.streamId a.streamId
  omega

lemma pairwise_sortRanges (ranges : List RawEventRecoveryRange) :
    (sortRanges localeCompare ranges).Pairwise fun a b => compareRanges localeCompare a b ≤ 0 := by
  have htrans : IsTrans RawEventRecoveryRange fun a b => compareRanges localeCompare a b ≤ 0 :=
    ⟨fun _ _ _ => compareRanges_trans hcompare⟩
  have htotal : Std.Total fun a b : RawEventRecoveryRange => compareRanges localeCompare a b ≤ 0 :=
    ⟨compareRanges_total hcompare⟩
  exact List.pairwise_insertionSort _ _

end Sorting

/-! ### Merging -/

section Merging

variable {localeCompare : String → String → ℤ} {range last : RawEventRecoveryRange}
  {ranges : List RawEventRecoveryRange} {source streamId : String} {seq : ℤ}

lemma sameStream_iff {a b : RawEventRecoveryRange} :
    sameStream a b = true ↔ a.source = b.source ∧ a.streamId = b.streamId := by
  simp [sameStream]

def CoveredBy (ranges : List RawEventRecoveryRange) (source streamId : String) (seq : ℤ) : Prop :=
  ∃ range ∈ ranges, range.Covers source streamId seq

lemma coveredBy_cons : CoveredBy (range :: ranges) source streamId seq ↔
    range.Covers source streamId seq ∨ CoveredBy ranges source streamId seq := by
  unfold CoveredBy
  rw [List.exists_mem_cons_iff]

lemma coveredBy_perm {ranges' : List RawEventRecoveryRange} (hperm : ranges'.Perm ranges) :
    CoveredBy ranges' source streamId seq ↔ CoveredBy ranges source streamId seq := by
  simp only [CoveredBy, hperm.mem_iff]

/-- Ranges of one stream come in the order of their first events. -/
def StartsOrdered (ranges : List RawEventRecoveryRange) : Prop :=
  ranges.Pairwise fun a b => sameStream a b = true → a.startEventSeq ≤ b.startEventSeq

lemma exists_start_of_mem_mergeInto {merged : RawEventRecoveryRange}
    (h : merged ∈ mergeInto last ranges) : ∃ range ∈ last :: ranges,
      range.source = merged.source ∧ range.streamId = merged.streamId ∧
        range.startEventSeq = merged.startEventSeq := by
  induction ranges generalizing last with
  | nil =>
    obtain rfl := List.mem_singleton.mp h
    exact ⟨merged, List.mem_cons_self, rfl, rfl, rfl⟩
  | cons range ranges ih =>
    unfold mergeInto at h
    split_ifs at h with hmerge
    · obtain ⟨start, hmem, hspec⟩ := ih h
      rcases List.mem_cons.mp hmem with rfl | hmem
      · exact ⟨last, List.mem_cons_self, hspec⟩
      · exact ⟨start, List.mem_cons_of_mem _ (List.mem_cons_of_mem _ hmem), hspec⟩
    · rcases List.mem_cons.mp h with rfl | h
      · exact ⟨merged, List.mem_cons_self, rfl, rfl, rfl⟩
      · obtain ⟨start, hmem, hspec⟩ := ih h
        exact ⟨start, List.mem_cons_of_mem _ hmem, hspec⟩

lemma coveredBy_mergeInto (hordered : StartsOrdered (last :: ranges)) :
    CoveredBy (mergeInto last ranges) source streamId seq ↔
      CoveredBy (last :: ranges) source streamId seq := by
  induction ranges generalizing last with
  | nil => rfl
  | cons range ranges ih =>
    obtain ⟨hlast, hrest⟩ := List.pairwise_cons.mp hordered
    obtain ⟨hrange, hranges⟩ := List.pairwise_cons.mp hrest
    unfold mergeInto
    split_ifs with hmerge
    · obtain ⟨hsame, hstart⟩ := hmerge
      have horder := hlast range List.mem_cons_self hsame
      obtain ⟨hsource, hstream⟩ := sameStream_iff.mp hsame
      have hordered' : StartsOrdered
          ({ last with endEventSeq := max last.endEventSeq range.endEventSeq } :: ranges) :=
        List.pairwise_cons.mpr ⟨fun b hb => hlast b (List.mem_cons_of_mem _ hb), hranges⟩
      rw [ih hordered', coveredBy_cons, coveredBy_cons, coveredBy_cons, ← or_assoc]
      refine or_congr_left ?_
      unfold RawEventRecoveryRange.Covers
      rw [← hsource, ← hstream]
      dsimp only
      constructor
      · rintro ⟨hs, hi, hlo, hhi⟩
        by_cases hin : seq ≤ last.endEventSeq
        · exact .inl ⟨hs, hi, hlo, hin⟩
        · exact .inr ⟨hs, hi, by omega, by omega⟩
      · rintro (⟨hs, hi, hlo, hhi⟩ | ⟨hs, hi, hlo, hhi⟩)
        · exact ⟨hs, hi, hlo, hhi.trans (le_max_left _ _)⟩
        · exact ⟨hs, hi, horder.trans hlo, hhi.trans (le_max_right _ _)⟩
    · rw [coveredBy_cons, ih hrest, coveredBy_cons, coveredBy_cons, coveredBy_cons]

lemma nonempty_of_mem_mergeInto
    (hranges : ∀ range ∈ last :: ranges, range.startEventSeq ≤ range.endEventSeq)
    {merged : RawEventRecoveryRange} (h : merged ∈ mergeInto last ranges) :
    merged.startEventSeq ≤ merged.endEventSeq := by
  induction ranges generalizing last with
  | nil => exact hranges merged (List.mem_singleton.mp h ▸ List.mem_cons_self)
  | cons range ranges ih =>
    unfold mergeInto at h
    have hlast := hranges last List.mem_cons_self
    have hrest := fun r hr => hranges r (List.mem_cons_of_mem _ hr)
    split_ifs at h with hmerge
    · refine ih (fun r hr => ?_) h
      rcases List.mem_cons.mp hr with rfl | hr
      · exact hlast.trans (le_max_left _ _)
      · exact hrest r (List.mem_cons_of_mem _ hr)
    · rcases List.mem_cons.mp h with rfl | h
      · exact hlast
      · exact ih hrest h

lemma startsOrdered_mergeInto (hordered : StartsOrdered (last :: ranges)) :
    StartsOrdered (mergeInto last ranges) := by
  induction ranges generalizing last with
  | nil => exact List.pairwise_singleton _ _
  | cons range ranges ih =>
    obtain ⟨hlast, hrest⟩ := List.pairwise_cons.mp hordered
    obtain ⟨hrange, hranges⟩ := List.pairwise_cons.mp hrest
    unfold mergeInto
    split_ifs with hmerge
    · exact ih (List.pairwise_cons.mpr ⟨fun b hb => hlast b (List.mem_cons_of_mem _ hb), hranges⟩)
    · refine List.pairwise_cons.mpr ⟨fun merged hmerged hsame => ?_, ih hrest⟩
      obtain ⟨start, hmem, hsource, hstream, hstart⟩ := exists_start_of_mem_mergeInto hmerged
      rw [← hstart]
      obtain ⟨hs, hi⟩ := sameStream_iff.mp hsame
      exact hlast start hmem (sameStream_iff.mpr ⟨hs.trans hsource.symm, hi.trans hstream.symm⟩)

def SeparatesStreams (localeCompare : String → String → ℤ) (ranges : List RawEventRecoveryRange) :
    Prop :=
  ∀ a ∈ ranges, ∀ b ∈ ranges, TiedStreams localeCompare a b → sameStream a b = true

section Separated

variable (hcompare : IsConsistentCompare localeCompare)
include hcompare

lemma startsOrdered_of_pairwise
    (h : ranges.Pairwise fun a b => compareRanges localeCompare a b ≤ 0) :
    StartsOrdered ranges := by
  refine h.imp fun {a b} hle hsame => ?_
  obtain ⟨hsource, hstream⟩ := sameStream_iff.mp hsame
  rw [compareRanges_nonpos_iff, StreamBefore, hsource, hstream, hcompare.self, hcompare.self]
    at hle
  omega

/-- Merged ranges of one stream lie apart, when the order tells the streams apart. -/
lemma separated_mergeInto
    (hsorted : (last :: ranges).Pairwise fun a b =>
      (StreamBefore localeCompare a b ∨ TiedStreams localeCompare a b) ∧
        (sameStream a b = true → a.startEventSeq ≤ b.startEventSeq))
    (hseparates : SeparatesStreams localeCompare (last :: ranges)) :
    (mergeInto last ranges).Pairwise fun a b =>
      sameStream a b = true → a.endEventSeq + 1 < b.startEventSeq := by
  induction ranges generalizing last with
  | nil => exact List.pairwise_singleton _ _
  | cons range ranges ih =>
    obtain ⟨hlast, hrest⟩ := List.pairwise_cons.mp hsorted
    obtain ⟨hrange, hranges⟩ := List.pairwise_cons.mp hrest
    have hseparates' : SeparatesStreams localeCompare (range :: ranges) := fun a ha b hb =>
      hseparates a (List.mem_cons_of_mem _ ha) b (List.mem_cons_of_mem _ hb)
    unfold mergeInto
    split_ifs with hmerge
    · refine ih (List.pairwise_cons.mpr
        ⟨fun b hb => hlast b (List.mem_cons_of_mem _ hb), hranges⟩) fun a ha b hb => ?_
      have hmember : ∀ a ∈ { last with endEventSeq := max last.endEventSeq range.endEventSeq } ::
          ranges, ∃ a' ∈ last :: range :: ranges, a'.source = a.source ∧ a'.streamId = a.streamId := by
        intro a ha
        rcases List.mem_cons.mp ha with rfl | ha
        · exact ⟨last, List.mem_cons_self, rfl, rfl⟩
        · exact ⟨a, List.mem_cons_of_mem _ (List.mem_cons_of_mem _ ha), rfl, rfl⟩
      obtain ⟨a', ha', has, hai⟩ := hmember a ha
      obtain ⟨b', hb', hbs, hbi⟩ := hmember b hb
      have hab := hseparates a' ha' b' hb'
      unfold TiedStreams at hab ⊢
      rw [sameStream_iff, has, hai, hbs, hbi] at hab
      rw [sameStream_iff]
      exact hab
    · refine List.pairwise_cons.mpr ⟨fun merged hmerged hsame => ?_, ih hrest hseparates'⟩
      obtain ⟨start, hmem, hsource, hstream, hstart⟩ := exists_start_of_mem_mergeInto hmerged
      obtain ⟨hs, hi⟩ := sameStream_iff.mp hsame
      have hsameStart : sameStream last start = true :=
        sameStream_iff.mpr ⟨hs.trans hsource.symm, hi.trans hstream.symm⟩
      -- the range after `last` lies between two ranges of one stream, so it is of this stream
      have hbetween : sameStream last range = true := by
        rcases List.mem_cons.mp hmem with rfl | hlater
        · exact hsameStart
        · refine hseparates last List.mem_cons_self range
            (List.mem_cons_of_mem _ List.mem_cons_self) ?_
          by_contra hnot
          have hbefore := StreamBefore.of_steps hcompare (hlast range List.mem_cons_self).1
            (hrange start hlater).1 fun hties => hnot hties.1
          obtain ⟨hs', hi'⟩ := sameStream_iff.mp hsameStart
          rw [StreamBefore, hs', hi', hcompare.self, hcompare.self] at hbefore
          omega
      have hgap : last.endEventSeq + 1 < range.startEventSeq := by
        by_contra hle
        exact hmerge ⟨hbetween, not_lt.mp hle⟩
      have hle : range.startEventSeq ≤ start.startEventSeq := by
        rcases List.mem_cons.mp hmem with rfl | hlater
        · exact le_rfl
        · refine (hrange start hlater).2 (sameStream_iff.mpr ?_)
          obtain ⟨hs', hi'⟩ := sameStream_iff.mp hbetween
          exact ⟨hs'.symm.trans (hs.trans hsource.symm), hi'.symm.trans (hi.trans hstream.symm)⟩
      omega

end Separated

end Merging

/-! ### Taking completed ranges out -/

section Subtracting

variable {range : RawEventRecoveryRange} {completed : List RawEventRecoveryRange} {cursor seq : ℤ}

def CompletedOf (range : RawEventRecoveryRange) (completed : List RawEventRecoveryRange)
    (seq : ℤ) : Prop :=
  ∃ covered ∈ completed, sameStream range covered = true ∧ covered.startEventSeq ≤ seq ∧
    seq ≤ covered.endEventSeq

/-- The first and last events of ranges. -/
def runsOf (ranges : List RawEventRecoveryRange) : List (ℤ × ℤ) :=
  ranges.map fun range => (range.startEventSeq, range.endEventSeq)

/-- What remains after a cursor: gaps of the range in increasing order, which have the events that
no completed range has. -/
structure Remaining (range : RawEventRecoveryRange) (cursor : ℤ)
    (completed gaps : List RawEventRecoveryRange) : Prop where
  stream : ∀ gap ∈ gaps, gap.source = range.source ∧ gap.streamId = range.streamId
  runs : IsRuns (runsOf gaps)
  covers : ∀ seq, CoversInt (runsOf gaps) seq ↔
    cursor ≤ seq ∧ seq ≤ range.endEventSeq ∧ ¬ CompletedOf range completed seq

lemma IsRuns.cons_of_covers {lo hi : ℤ} {runs : List (ℤ × ℤ)} (h : IsRuns runs) (hle : lo ≤ hi)
    (hafter : ∀ n, CoversInt runs n → hi + 1 < n) : IsRuns ((lo, hi) :: runs) := by
  refine ⟨fun run hrun => ?_, List.pairwise_cons.mpr ⟨fun run hrun => ?_, h.separated⟩⟩
  · rcases List.mem_cons.mp hrun with rfl | hrun
    · exact hle
    · exact h.nonempty run hrun
  · exact hafter run.1 ⟨run, hrun, le_rfl, h.nonempty run hrun⟩

lemma remaining_remainingFrom
    (hfree : ∀ seq, cursor ≤ seq → seq ≤ range.endEventSeq → ¬ CompletedOf range completed seq) :
    Remaining range cursor completed (remainingFrom range cursor) := by
  unfold remainingFrom
  split_ifs with hle
  · refine ⟨fun gap hgap => ?_, ⟨fun run hrun => ?_, List.pairwise_singleton _ _⟩, fun seq => ?_⟩
    · rw [List.mem_singleton.mp hgap]
      exact ⟨rfl, rfl⟩
    · rw [List.mem_singleton.mp hrun]
      exact hle
    · constructor
      · rintro ⟨run, hrun, hlo, hhi⟩
        obtain rfl := List.mem_singleton.mp hrun
        exact ⟨hlo, hhi, hfree seq hlo hhi⟩
      · rintro ⟨hlo, hhi, -⟩
        exact ⟨_, List.mem_cons_self, hlo, hhi⟩
  · refine ⟨fun _ h => absurd h (List.not_mem_nil), ⟨fun _ h => absurd h (List.not_mem_nil),
      List.Pairwise.nil⟩, fun seq => ?_⟩
    constructor
    · rintro ⟨_, h, -⟩
      cases h
    · rintro ⟨hlo, hhi, -⟩
      omega

lemma completedOf_cons {covered : RawEventRecoveryRange} :
    CompletedOf range (covered :: completed) seq ↔
      (sameStream range covered = true ∧ covered.startEventSeq ≤ seq ∧
        seq ≤ covered.endEventSeq) ∨ CompletedOf range completed seq := by
  unfold CompletedOf
  rw [List.exists_mem_cons_iff]

/-- The gap before a completed range, and what remains after it. -/
lemma Remaining.prepend {covered : RawEventRecoveryRange} {rest : List RawEventRecoveryRange}
    (hrest : Remaining range (max cursor (covered.endEventSeq + 1)) completed rest)
    (hsame : sameStream range covered = true) (hcursor : cursor ≤ covered.endEventSeq)
    (hstart : covered.startEventSeq ≤ range.endEventSeq)
    (hvalid : covered.startEventSeq ≤ covered.endEventSeq)
    (hlater : ∀ seq, CompletedOf range completed seq → covered.startEventSeq ≤ seq) :
    Remaining range cursor (covered :: completed) (gapBefore range cursor covered ++ rest) := by
  have hrestCovers : ∀ seq, CoversInt (runsOf rest) seq ↔ covered.endEventSeq < seq ∧
      seq ≤ range.endEventSeq ∧ ¬ CompletedOf range completed seq := by
    intro seq
    rw [hrest.covers, max_eq_right (by omega)]
    exact and_congr_left fun _ => Int.add_one_le_iff
  unfold gapBefore
  split_ifs with hbefore
  · refine ⟨fun gap hgap => ?_, ?_, fun seq => ?_⟩
    · rcases List.mem_cons.mp hgap with rfl | hgap
      · exact ⟨rfl, rfl⟩
      · exact hrest.stream gap hgap
    · refine IsRuns.cons_of_covers hrest.runs (by dsimp only; omega) fun n hn => ?_
      have hafter := ((hrestCovers n).mp hn).1
      dsimp only
      omega
    · have hsplit : CoversInt (runsOf ({ range with
            startEventSeq := cursor, endEventSeq := covered.startEventSeq - 1 } :: rest)) seq ↔
          (cursor ≤ seq ∧ seq ≤ covered.startEventSeq - 1) ∨ CoversInt (runsOf rest) seq :=
        List.exists_mem_cons_iff _ _ _
      rw [List.singleton_append, hsplit, hrestCovers, completedOf_cons]
      constructor
      · rintro (⟨hlo, hhi⟩ | ⟨hlo, hhi, hfree⟩)
        · refine ⟨hlo, by omega, ?_⟩
          rintro (⟨-, hin, -⟩ | hcompleted)
          · omega
          · have hin := hlater seq hcompleted
            omega
        · refine ⟨by omega, hhi, ?_⟩
          rintro (⟨-, -, hin⟩ | hcompleted)
          · omega
          · exact hfree hcompleted
      · rintro ⟨hlo, hhi, hfree⟩
        by_cases hin : seq ≤ covered.startEventSeq - 1
        · exact .inl ⟨hlo, hin⟩
        · refine .inr ⟨?_, hhi, fun hcompleted => hfree (.inr hcompleted)⟩
          by_contra hend
          exact hfree (.inl ⟨hsame, by omega, by omega⟩)
  · refine ⟨hrest.stream, hrest.runs, fun seq => ?_⟩
    rw [List.nil_append, hrestCovers, completedOf_cons]
    constructor
    · rintro ⟨hlo, hhi, hfree⟩
      refine ⟨by omega, hhi, ?_⟩
      rintro (⟨-, -, hin⟩ | hcompleted)
      · omega
      · exact hfree hcompleted
    · rintro ⟨hlo, hhi, hfree⟩
      refine ⟨?_, hhi, fun hcompleted => hfree (.inr hcompleted)⟩
      by_contra hend
      exact hfree (.inl ⟨hsame, by omega, by omega⟩)

/-- The loop of `subtractCompleted`. -/
lemma remaining_subtractFrom
    (hordered : StartsOrdered completed)
    (hvalid : ∀ covered ∈ completed, covered.startEventSeq ≤ covered.endEventSeq) :
    Remaining range cursor completed (subtractFrom range cursor completed) := by
  induction completed generalizing cursor with
  | nil =>
    refine remaining_remainingFrom ?_
    rintro seq - - ⟨_, h, -⟩
    cases h
  | cons covered completed ih =>
    obtain ⟨hfirst, hordered'⟩ := List.pairwise_cons.mp hordered
    have hvalid' := fun c hc => hvalid c (List.mem_cons_of_mem _ hc)
    unfold subtractFrom
    split_ifs with hskip hbeyond
    · -- the range is of another stream, or ends before the cursor
      have hrest := @ih cursor hordered' hvalid'
      refine ⟨hrest.stream, hrest.runs, fun seq => (hrest.covers seq).trans ?_⟩
      rw [completedOf_cons]
      constructor
      · rintro ⟨hlo, hhi, hfree⟩
        refine ⟨hlo, hhi, ?_⟩
        rintro (⟨hsame, hstart, hend⟩ | hcompleted)
        · rcases hskip with hother | hbefore
          · exact hother hsame
          · omega
        · exact hfree hcompleted
      · rintro ⟨hlo, hhi, hfree⟩
        exact ⟨hlo, hhi, fun hcompleted => hfree (.inr hcompleted)⟩
    all_goals
      push Not at hskip
      obtain ⟨hsame, hcursor⟩ := hskip
      have hlater : ∀ seq, CompletedOf range completed seq → covered.startEventSeq ≤ seq := by
        rintro seq ⟨other, hother, hsameOther, hstart, -⟩
        refine le_trans (hfirst other hother ?_) hstart
        rw [sameStream_iff] at hsame hsameOther ⊢
        exact ⟨hsame.1.symm.trans hsameOther.1, hsame.2.symm.trans hsameOther.2⟩
    · -- it begins after the range, as do all later ones
      refine remaining_remainingFrom fun seq hlo hhi hcompleted => ?_
      rcases completedOf_cons.mp hcompleted with ⟨-, hstart, -⟩ | hcompleted
      · omega
      · have hstart := hlater seq hcompleted
        omega
    · refine Remaining.prepend ?_ hsame hcursor (not_lt.mp hbeyond)
        (hvalid covered List.mem_cons_self) hlater
      split_ifs with hlast
      · exact remaining_remainingFrom fun seq hlo hhi _ => by omega
      · exact ih hordered' hvalid'

end Subtracting

/-! ### Windows -/

section Windows

variable {gap : RawEventRecoveryRange} {maxEvents : ℤ}

lemma mem_windowNumbers_iff (hmax : 1 ≤ maxEvents) (hgap : gap.startEventSeq ≤ gap.endEventSeq)
    {i : ℕ} : i ∈ List.range ((gap.endEventSeq - gap.startEventSeq) / maxEvents + 1).toNat ↔
      gap.startEventSeq + i * maxEvents ≤ gap.endEventSeq := by
  have hdiv : (i : ℤ) ≤ (gap.endEventSeq - gap.startEventSeq) / maxEvents ↔
      i * maxEvents ≤ gap.endEventSeq - gap.startEventSeq :=
    Int.le_ediv_iff_mul_le (by omega)
  have hnonneg : 0 ≤ (gap.endEventSeq - gap.startEventSeq) / maxEvents :=
    Int.ediv_nonneg (by omega) (by omega)
  rw [List.mem_range]
  omega

lemma window_bounds (hmax : 1 ≤ maxEvents) (hgap : gap.startEventSeq ≤ gap.endEventSeq)
    {window : RawEventRecoveryRange} (h : window ∈ windowsOfGap maxEvents gap) :
    window.source = gap.source ∧ window.streamId = gap.streamId ∧
      gap.startEventSeq ≤ window.startEventSeq ∧ window.startEventSeq ≤ window.endEventSeq ∧
        window.endEventSeq ≤ gap.endEventSeq ∧
          window.endEventSeq < window.startEventSeq + maxEvents := by
  obtain ⟨i, hi, rfl⟩ := List.mem_map.mp h
  have hstart := (mem_windowNumbers_iff hmax hgap).mp hi
  have hnonneg : 0 ≤ (i : ℤ) * maxEvents := mul_nonneg (Int.natCast_nonneg i) (by omega)
  refine ⟨rfl, rfl, ?_⟩
  dsimp only
  omega

lemma coveredBy_windowsOfGap (hmax : 1 ≤ maxEvents) (hgap : gap.startEventSeq ≤ gap.endEventSeq)
    {source streamId : String} {seq : ℤ} :
    CoveredBy (windowsOfGap maxEvents gap) source streamId seq ↔ gap.Covers source streamId seq := by
  constructor
  · rintro ⟨window, hwindow, hsource, hstream, hlo, hhi⟩
    obtain ⟨hs, hi, hbounds⟩ := window_bounds hmax hgap hwindow
    exact ⟨hs ▸ hsource, hi ▸ hstream, by omega, by omega⟩
  · rintro ⟨hsource, hstream, hlo, hhi⟩
    -- the window that has the event is the quotient of its distance from the start
    have hquot : 0 ≤ (seq - gap.startEventSeq) / maxEvents :=
      Int.ediv_nonneg (by omega) (by omega)
    have hmul := Int.mul_ediv_add_emod (seq - gap.startEventSeq) maxEvents
    have hmod := Int.emod_nonneg (seq - gap.startEventSeq) (show maxEvents ≠ 0 by omega)
    have hlt := Int.emod_lt_of_pos (seq - gap.startEventSeq) (show 0 < maxEvents by omega)
    rw [mul_comm] at hmul
    have hcast : (((seq - gap.startEventSeq) / maxEvents).toNat : ℤ) =
        (seq - gap.startEventSeq) / maxEvents := Int.toNat_of_nonneg hquot
    have hmem : ((seq - gap.startEventSeq) / maxEvents).toNat ∈
        List.range ((gap.endEventSeq - gap.startEventSeq) / maxEvents + 1).toNat := by
      rw [mem_windowNumbers_iff hmax hgap, hcast]
      omega
    refine ⟨_, List.mem_map_of_mem hmem, hsource, hstream, ?_, ?_⟩
    · dsimp only
      rw [hcast]
      omega
    · dsimp only
      rw [hcast]
      omega

lemma pairwise_windowsOfGap (hmax : 1 ≤ maxEvents) :
    (windowsOfGap maxEvents gap).Pairwise fun a b => a.endEventSeq < b.startEventSeq := by
  unfold windowsOfGap
  rw [List.pairwise_map]
  refine List.pairwise_lt_range.imp fun {i j} hlt => ?_
  have hle : ((i : ℤ) + 1) * maxEvents ≤ j * maxEvents :=
    mul_le_mul_of_nonneg_right (by exact_mod_cast hlt) (by omega)
  rw [add_mul, one_mul] at hle
  dsimp only
  omega

structure PartitionsMissing (missing completed : List RawEventRecoveryRange) (maxEvents : ℤ)
    (windows : List RawEventRecoveryRange) : Prop where
  bounded : ∀ window ∈ windows, window.startEventSeq ≤ window.endEventSeq ∧
    window.endEventSeq < window.startEventSeq + maxEvents
  disjoint : windows.Pairwise fun a b => sameStream a b = true →
    a.endEventSeq < b.startEventSeq ∨ b.endEventSeq < a.startEventSeq
  union : ∀ source streamId seq, CoveredBy windows source streamId seq ↔
    CoveredBy missing source streamId seq ∧ ¬ CoveredBy completed source streamId seq

/-- The plan partitions the missing events, whatever the order of the ranges. -/
def PlansRecovery (localeCompare : String → String → ℤ)
    (missing completed : List RawEventRecoveryRange) (maxEvents : ℤ) : Prop :=
  ∃ windows, PartitionsMissing missing completed maxEvents windows ∧
    ∀ missing' completed', missing'.Perm missing → completed'.Perm completed →
      planRawEventRecoveryWindows localeCompare missing' completed' maxEvents = .ok windows

variable {localeCompare : String → String → ℤ} {missing completed : List RawEventRecoveryRange}

lemma start_le_end_of_isValid {range : RawEventRecoveryRange} (h : range.isValid = true) :
    range.startEventSeq ≤ range.endEventSeq :=
  (of_decide_eq_true h).2.2.2.2.2

/-- What merging valid ranges yields. -/
structure Merged (ranges merged : List RawEventRecoveryRange) : Prop where
  valid : ∀ range ∈ merged, range.startEventSeq ≤ range.endEventSeq
  ordered : StartsOrdered merged
  covers : ∀ source streamId seq,
    CoveredBy merged source streamId seq ↔ CoveredBy ranges source streamId seq

lemma merged_mergeSorted (hcompare : IsConsistentCompare localeCompare)
    {ranges : List RawEventRecoveryRange} (hvalid : ∀ range ∈ ranges, range.isValid = true) :
    Merged ranges (mergeSorted (sortRanges localeCompare ranges)) := by
  have hperm : (sortRanges localeCompare ranges).Perm ranges := List.perm_insertionSort _ _
  have hordered := startsOrdered_of_pairwise hcompare (pairwise_sortRanges hcompare ranges)
  have hnonempty : ∀ range ∈ sortRanges localeCompare ranges,
      range.startEventSeq ≤ range.endEventSeq :=
    fun range hrange => start_le_end_of_isValid (hvalid range (hperm.subset hrange))
  have hcovers := fun source streamId seq => @coveredBy_perm ranges source streamId seq _ hperm
  cases hsort : sortRanges localeCompare ranges with
  | nil =>
    rw [hsort] at hcovers
    exact ⟨fun _ h => absurd h (List.not_mem_nil), List.Pairwise.nil, hcovers⟩
  | cons range rest =>
    rw [hsort] at hcovers hordered hnonempty
    exact ⟨fun _ h => nonempty_of_mem_mergeInto hnonempty h, startsOrdered_mergeInto hordered,
      fun source streamId seq => (coveredBy_mergeInto hordered).trans (hcovers source streamId seq)⟩

lemma separated_mergeSorted (hcompare : IsConsistentCompare localeCompare)
    {ranges : List RawEventRecoveryRange} (hseparates : SeparatesStreams localeCompare ranges) :
    (mergeSorted (sortRanges localeCompare ranges)).Pairwise fun a b =>
      sameStream a b = true → a.endEventSeq + 1 < b.startEventSeq := by
  have hperm : (sortRanges localeCompare ranges).Perm ranges := List.perm_insertionSort _ _
  have hsorted := pairwise_sortRanges hcompare ranges
  have hordered := startsOrdered_of_pairwise hcompare hsorted
  have hseparates' : SeparatesStreams localeCompare (sortRanges localeCompare ranges) :=
    fun a ha b hb => hseparates a (hperm.subset ha) b (hperm.subset hb)
  cases hsort : sortRanges localeCompare ranges with
  | nil => exact List.Pairwise.nil
  | cons range rest =>
    rw [hsort] at hsorted hordered hseparates'
    refine separated_mergeInto hcompare ?_ hseparates'
    exact (hsorted.and hordered).imp fun {a b} h =>
      ⟨(compareRanges_nonpos_iff.mp h.1).imp id And.left, h.2⟩

lemma sortRanges_perm (hcompare : IsConsistentCompare localeCompare)
    {ranges ranges' : List RawEventRecoveryRange} (hperm : ranges'.Perm ranges)
    (hseparates : SeparatesStreams localeCompare ranges) :
    sortRanges localeCompare ranges' = sortRanges localeCompare ranges := by
  have hsorted : (sortRanges localeCompare ranges').Perm (sortRanges localeCompare ranges) :=
    (List.perm_insertionSort _ _).trans (hperm.trans (List.perm_insertionSort _ _).symm)
  refine hsorted.eq_of_pairwise (fun a b ha hb hab hba => ?_) (pairwise_sortRanges hcompare _)
    (pairwise_sortRanges hcompare _)
  have ha' := hperm.subset ((List.perm_insertionSort _ _).subset ha)
  have hb' := (List.perm_insertionSort _ _).subset hb
  rw [compareRanges_nonpos_iff] at hab hba
  have htied : TiedStreams localeCompare a b ∧ a.startEventSeq = b.startEventSeq ∧
      a.endEventSeq = b.endEventSeq := by
    unfold StreamBefore TiedStreams at *
    have hsource := hcompare.swap a.source b.source
    have hsource' := hcompare.swap b.source a.source
    have hstream := hcompare.swap a.streamId b.streamId
    have hstream' := hcompare.swap b.streamId a.streamId
    omega
  obtain ⟨hsource, hstream⟩ := sameStream_iff.mp (hseparates a ha' b hb' htied.1)
  cases a
  cases b
  dsimp only at hsource hstream htied
  rw [hsource, hstream, htied.2.1, htied.2.2]

lemma completedOf_iff {range : RawEventRecoveryRange} {ranges : List RawEventRecoveryRange}
    {seq : ℤ} : CompletedOf range ranges seq ↔ CoveredBy ranges range.source range.streamId seq := by
  refine exists_congr fun covered => and_congr_right fun _ => ?_
  rw [sameStream_iff, RawEventRecoveryRange.Covers, and_assoc, eq_comm, eq_comm (a := range.streamId)]

lemma eq_of_runsOf_eq {source streamId : String} {ranges ranges' : List RawEventRecoveryRange}
    (hranges : ∀ range ∈ ranges, range.source = source ∧ range.streamId = streamId)
    (hranges' : ∀ range ∈ ranges', range.source = source ∧ range.streamId = streamId)
    (hruns : runsOf ranges = runsOf ranges') : ranges = ranges' := by
  induction ranges generalizing ranges' with
  | nil => exact (List.map_eq_nil_iff.mp hruns.symm).symm
  | cons range ranges ih =>
    cases ranges' with
    | nil => cases hruns
    | cons range' ranges' =>
      obtain ⟨hhead, htail⟩ := List.cons.inj hruns
      obtain ⟨hsource, hstream⟩ := hranges range List.mem_cons_self
      obtain ⟨hsource', hstream'⟩ := hranges' range' List.mem_cons_self
      have hsame : range = range' := by
        cases range
        cases range'
        simp_all
      rw [hsame, ih (fun r hr => hranges r (List.mem_cons_of_mem _ hr))
        (fun r hr => hranges' r (List.mem_cons_of_mem _ hr)) htail]

lemma subtractCompleted_congr {range : RawEventRecoveryRange}
    {covered covered' : List RawEventRecoveryRange} (h : Merged completed covered)
    (h' : Merged completed covered') :
    subtractCompleted range covered = subtractCompleted range covered' := by
  have hremains := @remaining_subtractFrom range covered range.startEventSeq h.ordered h.valid
  have hremains' := @remaining_subtractFrom range covered' range.startEventSeq h'.ordered h'.valid
  refine eq_of_runsOf_eq hremains.stream hremains'.stream
    (hremains.runs.eq_of_covers hremains'.runs fun seq => ?_)
  refine (hremains.covers seq).trans (Iff.trans ?_ (hremains'.covers seq).symm)
  rw [completedOf_iff, completedOf_iff, h.covers, h'.covers]

lemma partitionsMissing_of_merged (hmax : 1 ≤ maxEvents) {merged covered : List RawEventRecoveryRange}
    (hmerged : Merged missing merged) (hcovered : Merged completed covered)
    (hseparated : merged.Pairwise fun a b =>
      sameStream a b = true → a.endEventSeq + 1 < b.startEventSeq) :
    PartitionsMissing missing completed maxEvents (merged.flatMap fun range =>
      (subtractCompleted range covered).flatMap (windowsOfGap maxEvents)) := by
  have hremains := fun range : RawEventRecoveryRange =>
    @remaining_subtractFrom range covered range.startEventSeq hcovered.ordered hcovered.valid
  have hgap : ∀ range, ∀ gap ∈ subtractCompleted range covered,
      gap.startEventSeq ≤ gap.endEventSeq :=
    fun range gap hgap => (hremains range).runs.nonempty _ (List.mem_map_of_mem hgap)
  -- a gap lies in its range
  have hinside : ∀ range, ∀ gap ∈ subtractCompleted range covered, ∀ seq,
      gap.startEventSeq ≤ seq → seq ≤ gap.endEventSeq →
        range.startEventSeq ≤ seq ∧ seq ≤ range.endEventSeq := by
    intro range gap hmem seq hlo hhi
    have hcovers := ((hremains range).covers seq).mp ⟨_, List.mem_map_of_mem hmem, hlo, hhi⟩
    exact ⟨hcovers.1, hcovers.2.1⟩
  have hwindow : ∀ range, ∀ window ∈ (subtractCompleted range covered).flatMap
      (windowsOfGap maxEvents), window.source = range.source ∧ window.streamId = range.streamId ∧
        range.startEventSeq ≤ window.startEventSeq ∧
          window.startEventSeq ≤ window.endEventSeq ∧ window.endEventSeq ≤ range.endEventSeq ∧
            window.endEventSeq < window.startEventSeq + maxEvents := by
    intro range window hmem
    obtain ⟨gap, hgapMem, hwindow⟩ := List.mem_flatMap.mp hmem
    obtain ⟨hsource, hstream, hbounds⟩ := window_bounds hmax (hgap range gap hgapMem) hwindow
    obtain ⟨hsource', hstream'⟩ := (hremains range).stream gap hgapMem
    have hlo := hinside range gap hgapMem window.startEventSeq (by omega) (by omega)
    have hhi := hinside range gap hgapMem window.endEventSeq (by omega) (by omega)
    exact ⟨hsource.trans hsource', hstream.trans hstream', by omega⟩
  have hcovers : ∀ range source streamId seq,
      CoveredBy ((subtractCompleted range covered).flatMap (windowsOfGap maxEvents)) source
        streamId seq ↔
      range.Covers source streamId seq ∧ ¬ CoveredBy completed source streamId seq := by
    intro range source streamId seq
    have hgaps : CoveredBy ((subtractCompleted range covered).flatMap (windowsOfGap maxEvents))
        source streamId seq ↔ range.source = source ∧ range.streamId = streamId ∧
          CoversInt (runsOf (subtractCompleted range covered)) seq := by
      constructor
      · rintro ⟨window, hmem, hevent⟩
        obtain ⟨gap, hgapMem, hwindow⟩ := List.mem_flatMap.mp hmem
        obtain ⟨hs, hi, hlo, hhi⟩ := (coveredBy_windowsOfGap hmax (hgap range gap hgapMem)).mp
          ⟨window, hwindow, hevent⟩
        obtain ⟨hsource, hstream⟩ := (hremains range).stream gap hgapMem
        exact ⟨hsource.symm.trans hs, hstream.symm.trans hi, _, List.mem_map_of_mem hgapMem, hlo,
          hhi⟩
      · rintro ⟨hs, hi, run, hrun, hlo, hhi⟩
        obtain ⟨gap, hgapMem, rfl⟩ := List.mem_map.mp hrun
        obtain ⟨hsource, hstream⟩ := (hremains range).stream gap hgapMem
        obtain ⟨window, hwindow, hevent⟩ :=
          (@coveredBy_windowsOfGap gap maxEvents hmax (hgap range gap hgapMem) source streamId
            seq).mpr ⟨hsource.trans hs, hstream.trans hi, hlo, hhi⟩
        exact ⟨window, List.mem_flatMap.mpr ⟨gap, hgapMem, hwindow⟩, hevent⟩
    rw [hgaps, subtractCompleted, (hremains range).covers, completedOf_iff, hcovered.covers]
    unfold RawEventRecoveryRange.Covers
    constructor
    · rintro ⟨rfl, rfl, hlo, hhi, hfree⟩
      exact ⟨⟨rfl, rfl, hlo, hhi⟩, hfree⟩
    · rintro ⟨⟨rfl, rfl, hlo, hhi⟩, hfree⟩
      exact ⟨rfl, rfl, hlo, hhi, hfree⟩
  refine ⟨fun window hmem => ?_, ?_, fun source streamId seq => ?_⟩
  · obtain ⟨range, -, hmem⟩ := List.mem_flatMap.mp hmem
    obtain ⟨-, -, -, hle, -, hlt⟩ := hwindow range window hmem
    exact ⟨hle, hlt⟩
  · refine List.pairwise_flatMap.mpr ⟨fun range _ => ?_, hseparated.imp fun {a b} hab => ?_⟩
    · refine List.pairwise_flatMap.mpr ⟨fun gap _ => ?_, ?_⟩
      · exact (pairwise_windowsOfGap hmax).imp fun hlt _ => .inl hlt
      · have hruns := (hremains range).runs.separated
        unfold runsOf at hruns
        rw [List.pairwise_map] at hruns
        refine hruns.imp_of_mem fun {gap gap'} hmem hmem' hlt => ?_
        intro window hw window' hw' _
        have hbounds := (window_bounds hmax (hgap range gap hmem) hw).2.2
        have hbounds' := (window_bounds hmax (hgap range gap' hmem') hw').2.2
        dsimp only at hlt
        exact .inl (by omega)
    · intro window hw window' hw' hsame
      obtain ⟨hs, hi, hbounds⟩ := hwindow a window hw
      obtain ⟨hs', hi', hbounds'⟩ := hwindow b window' hw'
      obtain ⟨hsource, hstream⟩ := sameStream_iff.mp hsame
      have hlt := hab (sameStream_iff.mpr
        ⟨hs.symm.trans (hsource.trans hs'), hi.symm.trans (hstream.trans hi')⟩)
      exact .inl (by omega)
  · rw [← hmerged.covers]
    constructor
    · rintro ⟨window, hmem, hevent⟩
      obtain ⟨range, hrange, hmem⟩ := List.mem_flatMap.mp hmem
      obtain ⟨hin, hfree⟩ := (hcovers range source streamId seq).mp ⟨window, hmem, hevent⟩
      exact ⟨⟨range, hrange, hin⟩, hfree⟩
    · rintro ⟨⟨range, hrange, hin⟩, hfree⟩
      obtain ⟨window, hmem, hevent⟩ := (hcovers range source streamId seq).mpr ⟨hin, hfree⟩
      exact ⟨window, List.mem_flatMap.mpr ⟨range, hrange, hmem⟩, hevent⟩

lemma plan_eq (hmax : 1 ≤ maxEvents ∧ maxEvents ≤ 100)
    (hmissing : ∀ range ∈ missing, range.isValid = true)
    (hcompleted : ∀ range ∈ completed, range.isValid = true) :
    planRawEventRecoveryWindows localeCompare missing completed maxEvents =
      .ok ((mergeSorted (sortRanges localeCompare missing)).flatMap fun range =>
        (subtractCompleted range (mergeSorted (sortRanges localeCompare completed))).flatMap
          (windowsOfGap maxEvents)) := by
  unfold planRawEventRecoveryWindows mergeRanges
  rw [if_neg (by omega), if_pos (List.all_eq_true.mpr hmissing),
    if_pos (List.all_eq_true.mpr hcompleted)]
  rfl

lemma plansRecovery_of_separates (hcompare : IsConsistentCompare localeCompare)
    (hmax : 1 ≤ maxEvents ∧ maxEvents ≤ 100)
    (hmissing : ∀ range ∈ missing, range.isValid = true)
    (hcompleted : ∀ range ∈ completed, range.isValid = true)
    (hseparates : SeparatesStreams localeCompare missing) :
    PlansRecovery localeCompare missing completed maxEvents := by
  have hcovered := merged_mergeSorted hcompare hcompleted
  refine ⟨_, partitionsMissing_of_merged hmax.1 (merged_mergeSorted hcompare hmissing) hcovered
    (separated_mergeSorted hcompare hseparates), fun missing' completed' hperm hperm' => ?_⟩
  have hmissing' := fun range hrange => hmissing range (hperm.subset hrange)
  have hcompleted' := fun range hrange => hcompleted range (hperm'.subset hrange)
  have hcovered' : Merged completed (mergeSorted (sortRanges localeCompare completed')) := by
    have hmerged := merged_mergeSorted hcompare hcompleted'
    exact ⟨hmerged.valid, hmerged.ordered, fun source streamId seq =>
      (hmerged.covers source streamId seq).trans (coveredBy_perm hperm')⟩
  rw [plan_eq hmax hmissing' hcompleted', sortRanges_perm hcompare hperm hseparates]
  have hsubtract := fun range : RawEventRecoveryRange =>
    @subtractCompleted_congr completed range _ _ hcovered' hcovered
  simp only [hsubtract]

/-- Three ranges of two streams: two of one stream overlap, and one of the other lies between. -/
def interleaved (a b : RawEventRecoveryRange) : List RawEventRecoveryRange :=
  [{ a with startEventSeq := 0, endEventSeq := 1 }, { b with startEventSeq := 1, endEventSeq := 1 },
    { a with startEventSeq := 1, endEventSeq := 2 }]

lemma not_plansRecovery_interleaved (hcompare : IsConsistentCompare localeCompare)
    {a b : RawEventRecoveryRange} (ha : a.isValid = true) (hb : b.isValid = true)
    (htied : TiedStreams localeCompare a b) (hdiffers : sameStream a b = false) :
    ¬ PlansRecovery localeCompare (interleaved a b) [] 100 := by
  rintro ⟨windows, hpartitions, hplan⟩
  obtain ⟨hasource, hastream, -⟩ := of_decide_eq_true ha
  obtain ⟨hbsource, hbstream, -⟩ := of_decide_eq_true hb
  have hvalid : ∀ range ∈ interleaved a b, range.isValid = true := by
    simp [interleaved, isValid, maxSafeInteger, hasource, hastream, hbsource, hbstream]
  have hsorted : sortRanges localeCompare (interleaved a b) = interleaved a b := by
    refine List.Pairwise.insertionSort_eq ?_
    have hself := hcompare.self
    have hback := And.intro (hcompare.eq_zero_comm.mp htied.1) (hcompare.eq_zero_comm.mp htied.2)
    simp [interleaved, compareRanges, orElseNumber, hself, htied.1, htied.2, hback.1, hback.2]
  have hdiffers' : sameStream b a = false := by
    rw [← Bool.not_eq_true, sameStream_iff] at hdiffers ⊢
    exact fun h => hdiffers ⟨h.1.symm, h.2.symm⟩
  have hresult := hplan _ _ (List.Perm.refl _) (List.Perm.refl _)
  rw [plan_eq (by omega) hvalid (fun _ h => absurd h (List.not_mem_nil)), hsorted] at hresult
  have hwindows : windows = interleaved a b := by
    rw [← Except.ok.inj hresult]
    have hother : ∀ x y x' y' : ℤ, sameStream { a with startEventSeq := x, endEventSeq := y }
        { b with startEventSeq := x', endEventSeq := y' } = false := fun _ _ _ _ => hdiffers
    have hother' : ∀ x y x' y' : ℤ, sameStream { b with startEventSeq := x, endEventSeq := y }
        { a with startEventSeq := x', endEventSeq := y' } = false := fun _ _ _ _ => hdiffers'
    simp [interleaved, mergeSorted, mergeInto, hother, hother', sortRanges, subtractCompleted,
      subtractFrom, remainingFrom, windowsOfGap]
  have hdisjoint := hpartitions.disjoint
  rw [hwindows] at hdisjoint
  have hpair := (List.pairwise_cons.mp hdisjoint).1 { a with startEventSeq := 1, endEventSeq := 2 }
    (by simp) (by simp [sameStream])
  dsimp only at hpair
  omega

/-- The plan partitions the missing events for all ranges of some streams exactly when no two of the
streams compare equal: where the order tells the streams of the missing ranges apart it does, and for
two streams that it does not tell apart there are ranges that are planned twice. -/
theorem plansRecovery_spec (hcompare : IsConsistentCompare localeCompare) :
    (∀ (missing completed : List RawEventRecoveryRange) (maxEvents : ℤ),
      1 ≤ maxEvents ∧ maxEvents ≤ 100 → (∀ range ∈ missing, range.isValid = true) →
        (∀ range ∈ completed, range.isValid = true) → SeparatesStreams localeCompare missing →
          PlansRecovery localeCompare missing completed maxEvents) ∧
    ∀ a b : RawEventRecoveryRange, a.isValid = true → b.isValid = true →
      TiedStreams localeCompare a b → sameStream a b = false →
        ¬ PlansRecovery localeCompare (interleaved a b) [] 100 :=
  ⟨fun _ _ _ hmax hmissing hcompleted hseparates =>
      plansRecovery_of_separates hcompare hmax hmissing hcompleted hseparates,
    fun _ _ ha hb htied hdiffers => not_plansRecovery_interleaved hcompare ha hb htied hdiffers⟩

end Windows

/-- A range of a Claude session. -/
def sampleRange (source : String) (startEventSeq endEventSeq : ℤ) : RawEventRecoveryRange :=
  ⟨source, "session-1", startEventSeq, endEventSeq⟩

theorem plansRecovery_sample :
    PlansRecovery compareIgnoringJoiner [sampleRange "claude" 5 9, sampleRange "claude" 0 6]
        [sampleRange "claude" 2 3] 4 ∧
      ¬ PlansRecovery compareIgnoringJoiner
        (interleaved (sampleRange "claude" 0 0) (sampleRange "claude\u200d" 0 0)) [] 100 := by
  have hspec := plansRecovery_spec (isConsistentCompare_byKey _ : IsConsistentCompare
    compareIgnoringJoiner)
  refine ⟨hspec.1 _ _ _ (by decide) (by decide +kernel) (by decide +kernel) ?_,
    hspec.2 _ _ (by decide +kernel) (by decide +kernel) ⟨by decide +kernel, by decide +kernel⟩
      (by decide +kernel)⟩
  intro a ha b hb _
  simp only [List.mem_cons, List.not_mem_nil, or_false] at ha hb
  rcases ha with rfl | rfl
  · rcases hb with rfl | rfl
    · rfl
    · rfl
  · rcases hb with rfl | rfl
    · rfl
    · rfl

/-- The streams of two sources that differ in a joiner alone are interleaved. -/
theorem interleaved_not_plansRecovery : ¬ PlansRecovery compareIgnoringJoiner
    (interleaved (sampleRange "claude" 0 0) (sampleRange "claude\u200d" 0 0)) [] 100 :=
  not_plansRecovery_interleaved (isConsistentCompare_byKey _) (by decide +kernel)
    (by decide +kernel) ⟨by decide +kernel, by decide +kernel⟩ (by decide +kernel)

end Codemem
