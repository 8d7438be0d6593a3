import Codemem.Pack.Render

/-!
# A pack agrees with its budget and its spans

Joining segments keeps, for every item, spans that cut its segments out of the text and do not
overlap.  Budgeting accepts a candidate only when it fits, and what is rendered at the end is the
last accepted candidate; when there is none, the guard may blank the text, and no item is rendered.
-/

namespace Codemem

/-! ### Spans -/

section Spans

variable {segments : List PackSegment} {acc : String × List RenderedPackItem}

def PackSpan.unitsIn (span : PackSpan) (text : String) : List ℕ :=
  ((utf16 text).drop span.start).take (span.stop - span.start)

/-- Two spans have no position in common. -/
def PackSpan.Disjoint (span span' : PackSpan) : Prop :=
  span.stop ≤ span'.start ∨ span'.stop ≤ span.start

def PackSegment.BelongsTo (segment : PackSegment) (id : ℤ) : Prop :=
  ∃ item, segment.item = some item ∧ item.id = id

/-- The rendered items have the segments of the items as spans. -/
structure RendersSegments (segments : List PackSegment)
    (result : String × List RenderedPackItem) : Prop where
  nodup : (result.2.map RenderedPackItem.id).Nodup
  mem_iff : ∀ id, id ∈ result.2.map RenderedPackItem.id ↔
    ∃ segment ∈ segments, segment.BelongsTo id
  inside : ∀ entry ∈ result.2, ∀ span ∈ entry.spans,
    span.start ≤ span.stop ∧ span.stop ≤ (utf16 result.1).length
  units : ∀ entry ∈ result.2, ∀ span ∈ entry.spans, ∃ segment ∈ segments,
    segment.BelongsTo entry.id ∧ span.unitsIn result.1 = utf16 segment.text
  nonempty : ∀ entry ∈ result.2, entry.spans ≠ []
  within : ∀ entry ∈ result.2, entry.spans.Pairwise PackSpan.Disjoint
  across : ∀ entry ∈ result.2, ∀ entry' ∈ result.2, entry.id ≠ entry'.id →
    ∀ span ∈ entry.spans, ∀ span' ∈ entry'.spans, span.Disjoint span'

lemma PackSpan.unitsIn_append {span : PackSpan} {text more : String}
    (hinside : span.start ≤ span.stop ∧ span.stop ≤ (utf16 text).length) :
    span.unitsIn (text ++ more) = span.unitsIn text := by
  unfold PackSpan.unitsIn
  rw [utf16_append, List.drop_append_of_le_length (by omega), List.take_append_of_le_length]
  rw [List.length_drop]
  omega

lemma PackSpan.unitsIn_last (text more : String) :
    PackSpan.unitsIn ⟨(utf16 text).length, (utf16 (text ++ more)).length⟩ (text ++ more) =
      utf16 more := by
  unfold PackSpan.unitsIn
  rw [utf16_append, List.drop_left, List.length_append, Nat.add_sub_cancel_left, List.take_length]

lemma RendersSegments.skip (h : RendersSegments segments acc) {segment : PackSegment}
    (hnone : segment.item = none) :
    RendersSegments (segments ++ [segment]) (acc.1 ++ segment.text, acc.2) where
  nodup := h.nodup
  mem_iff := fun id => by
    refine (h.mem_iff id).trans ⟨?_, ?_⟩
    · rintro ⟨other, hother, hbelongs⟩
      exact ⟨other, List.mem_append_left _ hother, hbelongs⟩
    · rintro ⟨other, hother, item, hitem, hid⟩
      rcases List.mem_append.mp hother with hother | hother
      · exact ⟨other, hother, item, hitem, hid⟩
      · rw [List.mem_singleton.mp hother, hnone] at hitem
        cases hitem
  inside := fun entry hentry span hspan => by
    have hinside := h.inside entry hentry span hspan
    rw [utf16_append, List.length_append]
    omega
  units := fun entry hentry span hspan => by
    obtain ⟨other, hother, hbelongs, hunits⟩ := h.units entry hentry span hspan
    exact ⟨other, List.mem_append_left _ hother, hbelongs,
      (PackSpan.unitsIn_append (h.inside entry hentry span hspan)).trans hunits⟩
  nonempty := h.nonempty
  within := h.within
  across := h.across

/-- A segment of an item adds a span. -/
lemma RendersSegments.add (h : RendersSegments segments acc) {segment : PackSegment}
    {item : MemoryResult} (hitem : segment.item = some item) :
    RendersSegments (segments ++ [segment]) (joinPackSegment acc segment) := by
  unfold joinPackSegment
  rw [hitem]
  dsimp only [Option.map_some, Option.getD_some]
  set text := acc.1 ++ segment.text
  set span : PackSpan := ⟨(utf16 acc.1).length, (utf16 text).length⟩
  have hlength : (utf16 text).length = (utf16 acc.1).length + (utf16 segment.text).length := by
    rw [utf16_append, List.length_append]
  -- every earlier span ends before the new one
  have hbefore : ∀ entry ∈ acc.2, ∀ other ∈ entry.spans, other.stop ≤ span.start :=
    fun entry hentry other hother => (h.inside entry hentry other hother).2
  -- an entry is an old one, an old one with the new span, or a new one
  have hentries : ∀ entry ∈ insertOrUpdate RenderedPackItem.id ⟨item.id, [span]⟩
      (fun entry => { entry with spans := entry.spans ++ [span] }) acc.2,
      (entry ∈ acc.2 ∧ entry.id ≠ item.id) ∨
        entry.id = item.id ∧ ∃ old, entry.spans = old ++ [span] ∧
          (old = [] ∨ ⟨item.id, old⟩ ∈ acc.2) := by
    intro entry hentry
    rcases mem_insertOrUpdate hentry with ⟨stored, hmem, hne, rfl⟩ | ⟨stored, hmem, hid, rfl⟩ | rfl
    · exact .inl ⟨hmem, hne⟩
    · refine .inr ⟨hid, stored.spans, rfl, .inr ?_⟩
      have hid' : stored.id = item.id := hid
      rw [← hid']
      exact hmem
    · exact .inr ⟨rfl, [], rfl, .inl rfl⟩
  have hold : ∀ old, (old = [] ∨ (⟨item.id, old⟩ : RenderedPackItem) ∈ acc.2) → ∀ other ∈ old,
      (⟨item.id, old⟩ : RenderedPackItem) ∈ acc.2 := by
    rintro old (rfl | hmem) other hother
    · cases hother
    · exact hmem
  have hself : span.start ≤ span.stop ∧ span.stop ≤ (utf16 text).length :=
    ⟨(Nat.le_add_right _ _).trans hlength.ge, le_rfl⟩
  have hgrows : ∀ entry ∈ acc.2, ∀ other ∈ entry.spans,
      other.start ≤ other.stop ∧ other.stop ≤ (utf16 text).length := by
    intro entry hentry other hother
    have hinside := h.inside entry hentry other hother
    omega
  have hkeeps : ∀ entry ∈ acc.2, ∀ other ∈ entry.spans, ∃ kept ∈ segments ++ [segment],
      kept.BelongsTo entry.id ∧ other.unitsIn text = utf16 kept.text := by
    intro entry hentry other hother
    obtain ⟨kept, hkept, hbelongs, hunits⟩ := h.units entry hentry other hother
    exact ⟨kept, List.mem_append_left _ hkept, hbelongs,
      (PackSpan.unitsIn_append (h.inside entry hentry other hother)).trans hunits⟩
  have hnodup := @nodup_insertOrUpdate _ _ _ RenderedPackItem.id ⟨item.id, [span]⟩
    (fun entry => { entry with spans := entry.spans ++ [span] }) (fun _ _ => rfl) _ h.nodup
  have hkeys := fun id => @mem_keys_insertOrUpdate _ _ _ RenderedPackItem.id ⟨item.id, [span]⟩
    (fun entry => { entry with spans := entry.spans ++ [span] }) (fun _ _ => rfl) acc.2 id
  refine ⟨hnodup, fun id => (hkeys id).trans ?_, ?_, ?_, ?_, ?_, ?_⟩
  · rw [h.mem_iff]
    constructor
    · rintro (⟨other, hother, hbelongs⟩ | rfl)
      · exact ⟨other, List.mem_append_left _ hother, hbelongs⟩
      · exact ⟨segment, List.mem_append_right _ List.mem_cons_self, item, hitem, rfl⟩
    · rintro ⟨other, hother, other', hother', hid⟩
      rcases List.mem_append.mp hother with hother | hother
      · exact .inl ⟨other, hother, other', hother', hid⟩
      · rw [List.mem_singleton.mp hother, hitem] at hother'
        obtain rfl := Option.some.inj hother'
        exact .inr hid.symm
  · intro entry hentry other hother
    rcases hentries entry hentry with ⟨hmem, -⟩ | ⟨-, old, hspans, hstored⟩
    · exact hgrows entry hmem other hother
    · rw [hspans] at hother
      rcases List.mem_append.mp hother with hother | hother
      · exact hgrows _ (hold old hstored other hother) other hother
      · rw [List.mem_singleton.mp hother]
        exact hself
  · intro entry hentry other hother
    rcases hentries entry hentry with ⟨hmem, -⟩ | ⟨hid, old, hspans, hstored⟩
    · exact hkeeps entry hmem other hother
    · rw [hspans] at hother
      rw [hid]
      rcases List.mem_append.mp hother with hother | hother
      · exact hkeeps _ (hold old hstored other hother) other hother
      · rw [List.mem_singleton.mp hother]
        exact ⟨segment, List.mem_append_right _ List.mem_cons_self, ⟨item, hitem, rfl⟩,
          PackSpan.unitsIn_last _ _⟩
  · intro entry hentry
    rcases hentries entry hentry with ⟨hmem, -⟩ | ⟨-, old, hspans, -⟩
    · exact h.nonempty entry hmem
    · rw [hspans]
      exact List.append_ne_nil_of_right_ne_nil _ (List.cons_ne_nil _ _)
  · intro entry hentry
    rcases hentries entry hentry with ⟨hmem, -⟩ | ⟨-, old, hspans, hstored⟩
    · exact h.within entry hmem
    · rw [hspans]
      refine List.pairwise_append.mpr ⟨?_, List.pairwise_singleton _ _, ?_⟩
      · rcases hstored with rfl | hmem
        · exact List.Pairwise.nil
        · exact h.within _ hmem
      · intro other hother other' hother'
        rw [List.mem_singleton.mp hother']
        exact .inl (hbefore _ (hold old hstored other hother) other hother)
  · intro entry hentry entry' hentry' hne other hother other' hother'
    rcases hentries entry hentry with ⟨hmem, -⟩ | ⟨hid, old, hspans, hstored⟩
    · rcases hentries entry' hentry' with ⟨hmem', -⟩ | ⟨hid', old', hspans', hstored'⟩
      · exact h.across entry hmem entry' hmem' hne other hother other' hother'
      · rw [hspans'] at hother'
        rcases List.mem_append.mp hother' with hother' | hother'
        · exact h.across entry hmem _ (hold old' hstored' other' hother') (hid' ▸ hne) other hother
            other' hother'
        · rw [List.mem_singleton.mp hother']
          exact .inl (hbefore entry hmem other hother)
    · rcases hentries entry' hentry' with ⟨hmem', -⟩ | ⟨hid', old', hspans', hstored'⟩
      · rw [hspans] at hother
        rcases List.mem_append.mp hother with hother | hother
        · exact h.across _ (hold old hstored other hother) entry' hmem' (hid ▸ hne) other hother
            other' hother'
        · rw [List.mem_singleton.mp hother]
          exact .inr (hbefore entry' hmem' other' hother')
      · exact absurd (hid.trans hid'.symm) hne

lemma rendersSegments_join (segments : List PackSegment) :
    RendersSegments segments (joinPackSegments segments) := by
  unfold joinPackSegments
  induction segments using List.reverseRecOn with
  | nil =>
    refine ⟨List.nodup_nil, fun id => ?_, ?_, ?_, ?_, ?_, ?_⟩
    · simp
    all_goals
      rintro entry hentry
      cases hentry
  | append_singleton segments segment ih =>
    rw [List.foldl_append, List.foldl_cons, List.foldl_nil]
    cases hitem : segment.item with
    | none =>
      have hskip := ih.skip hitem
      unfold joinPackSegment
      rw [hitem]
      exact hskip
    | some item => exact ih.add hitem

end Spans

/-! ### Segments of items -/

section Segments

variable {separator : String} {format : MemoryResult → String} {items : List MemoryResult}
  {segment : PackSegment}

lemma mem_itemSegments_iff {item : MemoryResult} (hitem : segment.item = some item) :
    segment ∈ itemSegments separator format items ↔ item ∈ items ∧ segment.text = format item := by
  induction items using itemSegments.induct with
  | case1 => simp [itemSegments]
  | case2 head =>
    rw [itemSegments, List.mem_singleton, List.mem_singleton]
    constructor
    · rintro rfl
      obtain rfl := Option.some.inj hitem
      exact ⟨rfl, rfl⟩
    · rintro ⟨rfl, htext⟩
      cases segment
      dsimp only at hitem htext
      rw [hitem, htext]
  | case3 head rest hrest ih =>
    have hcons : itemSegments separator format (head :: rest) =
        ⟨format head, some head⟩ :: ⟨separator, none⟩ :: itemSegments separator format rest := by
      cases rest with
      | nil => exact absurd rfl hrest
      | cons next rest => rfl
    rw [hcons, List.mem_cons, List.mem_cons, ih, List.mem_cons]
    constructor
    · rintro (rfl | rfl | h)
      · obtain rfl := Option.some.inj hitem
        exact ⟨.inl rfl, rfl⟩
      · cases hitem
      · exact ⟨.inr h.1, h.2⟩
    · rintro ⟨rfl | h, htext⟩
      · left
        cases segment
        dsimp only at hitem htext
        rw [hitem, htext]
      · exact .inr (.inr ⟨h, htext⟩)

lemma mem_itemSegmentsOrNone_iff {item : MemoryResult} (hitem : segment.item = some item) :
    segment ∈ itemSegmentsOrNone separator format items ↔
      item ∈ items ∧ segment.text = format item := by
  unfold itemSegmentsOrNone
  cases items with
  | nil =>
    rw [List.isEmpty_nil, if_pos rfl, List.mem_singleton]
    constructor
    · rintro rfl
      cases hitem
    · rintro ⟨h, -⟩
      cases h
  | cons head rest =>
    rw [List.isEmpty_cons, if_neg (by decide)]
    exact mem_itemSegments_iff hitem

lemma eq_mk_none_iff {text : String} {item : MemoryResult} (hitem : segment.item = some item) :
    segment = ⟨text, none⟩ ↔ False := by
  refine ⟨?_, False.elim⟩
  rintro rfl
  cases hitem

variable {parseFacts : FactsParser} {clusterState : ClusterCompressionState}
  {includeRelatedIds : Bool}

lemma mem_standardSegments_iff {summary timelineItems observations : List MemoryResult}
    {item : MemoryResult} (hitem : segment.item = some item) :
    segment ∈ standardSegments parseFacts summary timelineItems observations clusterState
        includeRelatedIds ↔
      item ∈ summary ++ timelineItems ++ observations ∧
        segment.text = formatItem parseFacts item clusterState includeRelatedIds := by
  unfold standardSegments
  simp only [List.mem_append, List.mem_cons, eq_mk_none_iff hitem, mem_itemSegments_iff hitem,
    false_or, ← or_and_right]

lemma mem_compactSegments_iff {detailIds : List ℤ} {item : MemoryResult}
    (hitem : segment.item = some item) :
    segment ∈ compactSegments parseFacts items detailIds clusterState ↔
      (item ∈ items ∧ segment.text = formatIndexLine item clusterState) ∨
        (item ∈ items ∧ item.id ∈ detailIds) ∧
          segment.text = formatItem parseFacts item clusterState true := by
  unfold compactSegments
  simp only [List.mem_append, List.mem_cons, eq_mk_none_iff hitem, mem_itemSegmentsOrNone_iff hitem,
    false_or, List.mem_filter, List.contains_iff_mem, List.not_mem_nil, or_false]

end Segments

/-! ### Budgets -/

section Budgets

variable {parseFacts : FactsParser} {budget : ℚ}

lemma takeWhileFits_or (fits : List MemoryResult → Bool) (taken items : List MemoryResult) :
    takeWhileFits fits taken items = taken ∨ fits (takeWhileFits fits taken items) = true := by
  induction items generalizing taken with
  | nil => exact .inl rfl
  | cons item items ih =>
    unfold takeWhileFits
    split_ifs with hfits
    · rcases ih (taken ++ [item]) with heq | hlater
      · refine .inr ?_
        rw [heq]
        exact hfits
      · exact .inr hlater
    · exact .inl rfl

lemma budgetStandardPack_fits {summaryItems timelineItems observationItems : List MemoryResult}
    {clusterState : ClusterCompressionState} {includeRelatedIds : Bool}
    {budgeted : List MemoryResult × List MemoryResult × List MemoryResult}
    (h : budgetStandardPack parseFacts summaryItems timelineItems observationItems clusterState
      budget includeRelatedIds = budgeted) :
    (budgeted.1 = [] ∧ budgeted.2.1 = [] ∧ budgeted.2.2 = []) ∨
      fitsTokenBudget (renderStandardPack parseFacts budgeted.1 budgeted.2.1 budgeted.2.2
        clusterState includeRelatedIds).1 budget = true := by
  subst h
  unfold budgetStandardPack
  dsimp only
  set fits := fun summary timelineItems observations => fitsTokenBudget
    (renderStandardPack parseFacts summary timelineItems observations clusterState
      includeRelatedIds).1 budget
  set summary := takeWhileFits (fun items => fits items [] []) [] summaryItems with hsummary
  set timeline := takeWhileFits (fun items => fits summary items []) [] timelineItems with htimeline
  -- each loop ends with a candidate that fits, or with nothing, and then the one before it decides
  rcases takeWhileFits_or (fun items => fits summary timeline items) [] observationItems with
    hnone | hfits
  · rw [hnone]
    rcases takeWhileFits_or (fun items => fits summary items []) [] timelineItems with
      hnone' | hfits
    · rw [← htimeline] at hnone'
      rw [hnone']
      rcases takeWhileFits_or (fun items => fits items [] []) [] summaryItems with hnone'' | hfits
      · exact .inl ⟨hnone'', rfl, rfl⟩
      · exact .inr hfits
    · exact .inr hfits
  · exact .inr hfits

lemma budgetCompactItem_fits {clusterState : ClusterCompressionState} {acc : CompactBudget}
    (item : MemoryResult)
    (h : acc.items = [] ∨ fitsTokenBudget (renderCompactPack parseFacts acc.items acc.detailIds
      clusterState).1 budget = true) :
    (budgetCompactItem parseFacts clusterState budget acc item).items = [] ∨
      fitsTokenBudget (renderCompactPack parseFacts
        (budgetCompactItem parseFacts clusterState budget acc item).items
        (budgetCompactItem parseFacts clusterState budget acc item).detailIds
        clusterState).1 budget = true := by
  unfold budgetCompactItem
  dsimp only
  split_ifs with hdetail hindex
  · exact .inr hdetail.2
  · exact .inr hindex
  · exact h

lemma budgetCompactPack_fits {candidates : List MemoryResult} {detailCount : ℤ}
    {clusterState : ClusterCompressionState} (hbudget : 0 < budget) :
    (budgetCompactPack parseFacts candidates detailCount clusterState (some budget)).1 = [] ∨
      fitsTokenBudget (renderCompactPack parseFacts
        (budgetCompactPack parseFacts candidates detailCount clusterState (some budget)).1
        (budgetCompactPack parseFacts candidates detailCount clusterState (some budget)).2
        clusterState).1 budget = true := by
  have hpositive : (some budget).filter (0 < ·) = some budget := by
    rw [Option.filter_some, if_pos (decide_eq_true hbudget)]
  have hrun : ∀ (candidates : List MemoryResult) (acc : CompactBudget),
      (acc.items = [] ∨ fitsTokenBudget (renderCompactPack parseFacts acc.items acc.detailIds
        clusterState).1 budget = true) →
      ((candidates.foldl (budgetCompactItem parseFacts clusterState budget) acc).items = [] ∨
        fitsTokenBudget (renderCompactPack parseFacts
          (candidates.foldl (budgetCompactItem parseFacts clusterState budget) acc).items
          (candidates.foldl (budgetCompactItem parseFacts clusterState budget) acc).detailIds
          clusterState).1 budget = true) := by
    intro candidates
    induction candidates with
    | nil => exact fun _ h => h
    | cons item candidates ih => exact fun acc h => ih _ (budgetCompactItem_fits item h)
  unfold budgetCompactPack
  rw [hpositive]
  exact hrun candidates _ (.inl rfl)

lemma enforceTokenBudget_of_fits {text : String} (hfits : fitsTokenBudget text budget = true) :
    enforceTokenBudget text (some budget) = text := by
  unfold enforceTokenBudget
  exact if_pos (.inr hfits)

lemma enforceTokenBudget_fits {text : String} (hbudget : 0 < budget) :
    (estimateTokens (enforceTokenBudget text (some budget)) : ℚ) ≤ budget := by
  unfold enforceTokenBudget
  dsimp only
  split_ifs with h
  · rcases h with hle | hfits
    · exact absurd hbudget (not_lt.mpr hle)
    · exact of_decide_eq_true hfits
  · have hempty : estimateTokens "" = 0 := by decide
    rw [hempty, Nat.cast_zero]
    exact hbudget.le

end Budgets

/-! ### Selected items -/

section Selected

variable {results renderedItems selectedById : List MemoryResult}

def SelectsFrom (ids : List ℤ) (acc : List MemoryResult × List ℤ) : Prop :=
  (acc.1.map (fun item => item.id) ++ acc.2).Perm ids

lemma SelectsFrom.take {ids : List ℤ} {acc : List MemoryResult × List ℤ} {item : MemoryResult}
    (h : SelectsFrom ids acc) (hmem : item.id ∈ acc.2) :
    SelectsFrom ids (acc.1 ++ [item], acc.2.erase item.id) := by
  unfold SelectsFrom at *
  rw [List.map_append, List.map_singleton, List.append_assoc, List.singleton_append]
  exact ((List.perm_cons_erase hmem).symm.append_left _).trans h

lemma selectsFrom_results {ids : List ℤ} {acc : List MemoryResult × List ℤ}
    (h : SelectsFrom ids acc) : SelectsFrom ids (results.foldl (selectResult selectedById) acc) := by
  induction results generalizing acc with
  | nil => exact h
  | cons item results ih =>
    refine ih ?_
    unfold selectResult
    split_ifs with hmem
    · cases hrow : rowAt (fun item : MemoryResult => item.id) item.id selectedById with
      | none => exact h
      | some selected =>
        have hid : selected.id = item.id := (rowAt_eq_some hrow).2
        rw [← hid] at hmem ⊢
        exact h.take hmem
    · exact h

lemma selectsFrom_rendered {ids : List ℤ} {acc : List MemoryResult × List ℤ}
    (h : SelectsFrom ids acc) : SelectsFrom ids (renderedItems.foldl selectRendered acc) := by
  induction renderedItems generalizing acc with
  | nil => exact h
  | cons item renderedItems ih =>
    refine ih ?_
    unfold selectRendered
    split_ifs with hmem
    · exact h.take hmem
    · exact h

lemma notMem_remaining {acc : List MemoryResult × List ℤ} (hnodup : acc.2.Nodup) :
    (renderedItems.foldl selectRendered acc).2 ⊆ acc.2 ∧
      ∀ item ∈ renderedItems, item.id ∉ (renderedItems.foldl selectRendered acc).2 := by
  induction renderedItems generalizing acc with
  | nil => exact ⟨fun _ h => h, fun _ h => absurd h List.not_mem_nil⟩
  | cons item renderedItems ih =>
    have hstep : (selectRendered acc item).2 ⊆ acc.2 ∧ (selectRendered acc item).2.Nodup ∧
        item.id ∉ (selectRendered acc item).2 := by
      unfold selectRendered
      split_ifs with hmem
      · exact ⟨List.erase_subset, hnodup.erase _, hnodup.not_mem_erase⟩
      · exact ⟨fun _ h => h, hnodup, hmem⟩
    obtain ⟨hsub, hrest⟩ := ih hstep.2.1
    refine ⟨fun x hx => hstep.1 (hsub hx), fun other hother => ?_⟩
    rcases List.mem_cons.mp hother with rfl | hother
    · exact fun hx => hstep.2.2 (hsub hx)
    · exact hrest other hother

lemma perm_orderSelectedPackItems (hnodup : (selectedById.map fun item => item.id).Nodup)
    (hrendered : ∀ item ∈ selectedById, ∃ other ∈ renderedItems, other.id = item.id) :
    ((orderSelectedPackItems results renderedItems selectedById).map fun item => item.id).Perm
      (selectedById.map fun item => item.id) := by
  set ids := selectedById.map fun item => item.id with hids
  have hfirst : SelectsFrom ids (results.foldl (selectResult selectedById) ([], ids)) :=
    selectsFrom_results (List.Perm.refl _)
  have hsecond : SelectsFrom ids (renderedItems.foldl selectRendered
      (results.foldl (selectResult selectedById) ([], ids))) := selectsFrom_rendered hfirst
  have hremainingNodup : (results.foldl (selectResult selectedById) ([], ids)).2.Nodup :=
    (List.nodup_append.mp (hfirst.nodup_iff.mpr hnodup)).2.1
  have hnone : (renderedItems.foldl selectRendered
      (results.foldl (selectResult selectedById) ([], ids))).2 = [] := by
    refine List.eq_nil_iff_forall_not_mem.mpr fun x hx => ?_
    have hxids : x ∈ ids := hsecond.subset (List.mem_append_right _ hx)
    obtain ⟨item, hitem, rfl⟩ := List.mem_map.mp hxids
    obtain ⟨other, hother, hid⟩ := hrendered item hitem
    have hgone := (@notMem_remaining renderedItems _ hremainingNodup).2 other hother
    rw [hid] at hgone
    exact hgone hx
  unfold SelectsFrom at hsecond
  rw [hnone, List.append_nil] at hsecond
  exact hsecond

lemma selectedById_ids (render : PackRender) :
    (render.selectedById.map fun item => item.id).Nodup ∧
      ∀ id, id ∈ render.selectedById.map (fun item => item.id) ↔
        ∃ item ∈ render.items, item.id = id := by
  refine ⟨nodup_foldl_insertOrUpdate (fun _ _ _ => rfl) _ List.nodup_nil, fun id => ?_⟩
  have hkeys := @mem_keys_foldl_insertOrUpdate _ _ _ (fun item : MemoryResult => item.id)
    MemoryResult (fun item => item) (fun _ item => item) (fun _ _ _ => rfl) render.items [] id
  refine hkeys.trans ?_
  rw [List.map_nil]
  exact ⟨fun h => h.resolve_left List.not_mem_nil, .inr⟩

end Selected

/-! ### Budget and rendering agree -/

/-- A text is how a render mode shows an item. -/
def IsFormatted (parseFacts : FactsParser) (assembly : PackAssembly) (item : MemoryResult)
    (text : String) : Prop :=
  if assembly.compact then
    text = formatIndexLine item assembly.clusterState ∨
      text = formatItem parseFacts item assembly.clusterState true
  else text = formatItem parseFacts item assembly.clusterState (assembly.compressionMode == .ids)

/-- Budget, selection and spans of a render stage agree. -/
structure RenderAgrees (parseFacts : FactsParser) (assembly : PackAssembly) (budget : ℚ)
    (render : PackRender) (selected : List MemoryResult) : Prop where
  fits : (estimateTokens render.packText : ℚ) ≤ budget
  nodup : (render.renderedItems.map RenderedPackItem.id).Nodup
  selected_perm : (selected.map fun item => item.id).Perm
    (render.renderedItems.map RenderedPackItem.id)
  empty : render.packText = "" → selected = []
  nonempty : ∀ entry ∈ render.renderedItems, entry.spans ≠ []
  inside : ∀ entry ∈ render.renderedItems, ∀ span ∈ entry.spans,
    span.start ≤ span.stop ∧ span.stop ≤ (utf16 render.packText).length
  within : ∀ entry ∈ render.renderedItems, entry.spans.Pairwise PackSpan.Disjoint
  across : ∀ entry ∈ render.renderedItems, ∀ entry' ∈ render.renderedItems, entry.id ≠ entry'.id →
    ∀ span ∈ entry.spans, ∀ span' ∈ entry'.spans, span.Disjoint span'
  formatted : ∀ entry ∈ render.renderedItems, ∀ span ∈ entry.spans, ∃ item ∈ render.items,
    item.id = entry.id ∧ ∃ text, IsFormatted parseFacts assembly item text ∧
      span.unitsIn render.packText = utf16 text

section Agreement

variable {parseFacts : FactsParser} {assembly : PackAssembly} {budget : ℚ}

lemma utf16_ne_nil_of_isFormatted {item : MemoryResult} {text : String}
    (h : IsFormatted parseFacts assembly item text) : utf16 text ≠ [] := by
  have hheader : ∀ includeIds,
      utf16 (itemHeader item assembly.clusterState includeIds) ≠ [] := by
    intro includeIds
    unfold itemHeader
    simp only [utf16_append, ne_eq, List.append_eq_nil_iff, and_assoc]
    rintro ⟨hempty, -⟩
    exact absurd hempty (by decide)
  have hitem : ∀ includeIds,
      utf16 (formatItem parseFacts item assembly.clusterState includeIds) ≠ [] := by
    intro includeIds
    unfold formatItem
    dsimp only
    split_ifs
    · simp only [utf16_append, ne_eq, List.append_eq_nil_iff, and_assoc]
      exact fun hempty => hheader includeIds hempty.1
    · simp only [utf16_append, ne_eq, List.append_eq_nil_iff, and_assoc]
      exact fun hempty => hheader includeIds hempty.1
    · exact hheader includeIds
  unfold IsFormatted at h
  split_ifs at h
  · rcases h with rfl | rfl
    · exact hheader true
    · exact hitem true
  · rw [h]
    exact hitem _

/-- A render stage agrees when it joins segments of its items, and the join fits unless there are no
items. -/
lemma renderAgrees_of_segments {segments : List PackSegment} {render : PackRender}
    (hbudget : 0 < budget)
    (htext : render.packText = enforceTokenBudget (joinPackSegments segments).1 (some budget))
    (hrendered : render.renderedItems = (joinPackSegments segments).2)
    (hfits : render.items = [] ∨ fitsTokenBudget (joinPackSegments segments).1 budget = true)
    (hbelongs : ∀ item ∈ render.items, ∃ segment ∈ segments, segment.item = some item)
    (hformatted : ∀ segment ∈ segments, ∀ item, segment.item = some item →
      item ∈ render.items ∧ IsFormatted parseFacts assembly item segment.text)
    (results : List MemoryResult) :
    RenderAgrees parseFacts assembly budget render (selectPackItems results render) := by
  have hmem : ∀ id, id ∈ render.renderedItems.map RenderedPackItem.id ↔
      ∃ item ∈ render.items, item.id = id := by
    intro id
    have hids := (rendersSegments_join segments).mem_iff id
    rw [← hrendered] at hids
    refine hids.trans ⟨?_, ?_⟩
    · rintro ⟨segment, hsegment, item, hitem, hid⟩
      exact ⟨item, (hformatted segment hsegment item hitem).1, hid⟩
    · rintro ⟨item, hitem, hid⟩
      obtain ⟨segment, hsegment, hitem⟩ := hbelongs item hitem
      exact ⟨segment, hsegment, item, hitem, hid⟩
  -- an item is rendered only where the text is kept
  have hkept : ∀ entry ∈ render.renderedItems, render.packText = (joinPackSegments segments).1 := by
    intro entry hentry
    obtain ⟨item, hitem, -⟩ := (hmem entry.id).mp (List.mem_map_of_mem hentry)
    rw [htext]
    exact enforceTokenBudget_of_fits (hfits.resolve_left (List.ne_nil_of_mem hitem))
  have hinside : ∀ entry ∈ render.renderedItems, ∀ span ∈ entry.spans,
      span.start ≤ span.stop ∧ span.stop ≤ (utf16 render.packText).length := by
    intro entry hentry span hspan
    rw [hkept entry hentry]
    rw [hrendered] at hentry
    exact (rendersSegments_join segments).inside entry hentry span hspan
  have hunits : ∀ entry ∈ render.renderedItems, ∀ span ∈ entry.spans, ∃ item ∈ render.items,
      item.id = entry.id ∧ ∃ text, IsFormatted parseFacts assembly item text ∧
        span.unitsIn render.packText = utf16 text := by
    intro entry hentry span hspan
    rw [hkept entry hentry]
    rw [hrendered] at hentry
    obtain ⟨segment, hsegment, ⟨item, hitem, hid⟩, hunits⟩ :=
      (rendersSegments_join segments).units entry hentry span hspan
    obtain ⟨hmember, hformat⟩ := hformatted segment hsegment item hitem
    exact ⟨item, hmember, hid, segment.text, hformat, hunits⟩
  have hnodup : (render.renderedItems.map RenderedPackItem.id).Nodup := by
    rw [hrendered]
    exact (rendersSegments_join segments).nodup
  have hnonempty : ∀ entry ∈ render.renderedItems, entry.spans ≠ [] := by
    rw [hrendered]
    exact (rendersSegments_join segments).nonempty
  obtain ⟨hselectedNodup, hselectedMem⟩ := selectedById_ids render
  have hperm : ((selectPackItems results render).map fun item => item.id).Perm
      (render.renderedItems.map RenderedPackItem.id) := by
    refine (perm_orderSelectedPackItems hselectedNodup fun item hitem => ?_).trans
      ((List.perm_ext_iff_of_nodup hselectedNodup hnodup).mpr fun id =>
        (hselectedMem id).trans (hmem id).symm)
    obtain ⟨other, hother, hid⟩ := (hselectedMem item.id).mp (List.mem_map_of_mem hitem)
    exact ⟨other, hother, hid⟩
  refine ⟨?_, hnodup, hperm, fun hempty => ?_, hnonempty, hinside, ?_, ?_, hunits⟩
  · rw [htext]
    exact enforceTokenBudget_fits hbudget
  · -- a rendered item would have a nonempty span in the text
    have hnone : render.renderedItems = [] := by
      refine List.eq_nil_iff_forall_not_mem.mpr fun entry hentry => ?_
      obtain ⟨span, hspan⟩ := List.exists_mem_of_ne_nil _ (hnonempty entry hentry)
      obtain ⟨item, -, -, text, hformat, hspanUnits⟩ := hunits entry hentry span hspan
      rw [hempty] at hspanUnits
      have hnil : span.unitsIn "" = [] := by
        unfold PackSpan.unitsIn
        have hutf16 : utf16 "" = [] := by decide
        rw [hutf16, List.drop_nil, List.take_nil]
      exact utf16_ne_nil_of_isFormatted hformat (hspanUnits.symm.trans hnil)
    rw [hnone, List.map_nil] at hperm
    exact List.map_eq_nil_iff.mp hperm.eq_nil
  · rw [hrendered]
    exact (rendersSegments_join segments).within
  · rw [hrendered]
    exact (rendersSegments_join segments).across

/-- For every assembled pack, both render modes and every positive budget, the text fits, the
selected items are the rendered ones, the text is empty only where none is selected, and the spans
lie in the text, do not overlap and have the texts of the items. -/
theorem renderPackSections_agrees (parseFacts : FactsParser) (assembly : PackAssembly)
    (results : List MemoryResult) (hbudget : 0 < budget) :
    RenderAgrees parseFacts assembly budget (renderPackSections parseFacts assembly (some budget))
      (selectPackItems results (renderPackSections parseFacts assembly (some budget))) := by
  have hpositive : (some budget).filter (0 < ·) = some budget := by
    rw [Option.filter_some, if_pos (decide_eq_true hbudget)]
  unfold renderPackSections
  by_cases hcompact : assembly.compact = true
  · rw [if_pos hcompact]
    unfold renderCompactPackSections
    generalize hbudgeted : budgetCompactPack parseFacts (compactPackCandidates assembly)
      assembly.compactDetailCount assembly.clusterState (some budget) = budgeted
    have hfits := @budgetCompactPack_fits parseFacts budget (compactPackCandidates assembly)
      assembly.compactDetailCount assembly.clusterState hbudget
    rw [hbudgeted] at hfits
    dsimp only
    refine @renderAgrees_of_segments parseFacts assembly budget
      (compactSegments parseFacts budgeted.1 budgeted.2 assembly.clusterState) _ hbudget rfl rfl ?_
        ?_ ?_ results
    · exact hfits.imp (fun hnone => by rw [PackRender.items, hnone]; rfl) fun h => h
    · intro item hitem
      rw [PackRender.items, List.nil_append, List.append_nil] at hitem
      exact ⟨⟨_, some item⟩, (mem_compactSegments_iff rfl).mpr (.inl ⟨hitem, rfl⟩), rfl⟩
    · intro segment hsegment item hitem
      rw [PackRender.items, List.nil_append, List.append_nil, IsFormatted, if_pos hcompact]
      rcases (mem_compactSegments_iff hitem).mp hsegment with ⟨hmem, htext⟩ | ⟨⟨hmem, -⟩, htext⟩
      · exact ⟨hmem, .inl htext⟩
      · exact ⟨hmem, .inr htext⟩
  · rw [if_neg hcompact]
    unfold renderStandardPackSections
    rw [hpositive]
    dsimp only
    generalize hbudgeted : budgetStandardPack parseFacts assembly.summaryItems
      assembly.timelineItems assembly.observationItems assembly.clusterState budget
        (assembly.compressionMode == .ids) = budgeted
    refine @renderAgrees_of_segments parseFacts assembly budget
      (standardSegments parseFacts budgeted.1 budgeted.2.1 budgeted.2.2 assembly.clusterState
        (assembly.compressionMode == .ids)) _ hbudget rfl rfl ?_ ?_ ?_ results
    · refine (budgetStandardPack_fits hbudgeted).imp (fun hnone => ?_) fun h => h
      rw [PackRender.items, hnone.1, hnone.2.1, hnone.2.2]
      rfl
    · intro item hitem
      exact ⟨⟨_, some item⟩, (mem_standardSegments_iff rfl).mpr ⟨hitem, rfl⟩, rfl⟩
    · intro segment hsegment item hitem
      rw [IsFormatted, if_neg hcompact]
      exact (mem_standardSegments_iff hitem).mp hsegment

end Agreement

/-- An assembly of one memory that is a summary and an observation. -/
def sampleAssembly : PackAssembly where
  summaryItems := [⟨sampleClusterMemory 1 "2026-01-01T00:00:00Z", none⟩]
  timelineItems := []
  observationItems := [⟨sampleClusterMemory 1 "2026-01-01T00:00:00Z", none⟩]
  dedupeState := .empty
  clusterState := .empty
  compact := false
  compactDetailCount := 3
  compressionMode := .compact

theorem renderPackSections_agrees_sample :
    RenderAgrees (fun _ => none) sampleAssembly 100
      (renderPackSections (fun _ => none) sampleAssembly (some 100))
      (selectPackItems [] (renderPackSections (fun _ => none) sampleAssembly (some 100))) :=
  renderPackSections_agrees (fun _ => none) sampleAssembly [] (by norm_num)

end Codemem
