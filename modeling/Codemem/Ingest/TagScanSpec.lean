import Codemem.Ingest.TagScan

/-!
# The scans agree with the plain searches

Each search of the scanner is stated without its caches: an opening is found at every place where
it stands, with the first bracket behind its name; the blocks are those that a search from the end
of the last block finds; and a quote-aware end is where a scan forward with a quote state ends.
-/

namespace Codemem

/-! ### Searches from a cursor -/

section Search

variable {marker text : List ℕ} {cursor i : ℕ}

lemma prefix_drop_of_indexOf (h : indexOf marker text = some i) : marker <+: text.drop i := by
  obtain ⟨rest, hrest, -⟩ := eq_of_indexOf (indexOf_drop h le_rfl)
  rw [Nat.sub_self, List.take_zero, List.nil_append] at hrest
  exact ⟨rest, hrest.symm⟩

lemma indexOfFrom_spec (h : indexOfFrom marker text cursor = some i) :
    cursor ≤ i ∧ marker <+: text.drop i ∧
      ∀ j, cursor ≤ j → j < i → ¬marker <+: text.drop j := by
  obtain ⟨k, hk, rfl⟩ := Option.map_eq_some_iff.mp h
  refine ⟨Nat.le_add_right _ _, ?_, fun j hcursor hj hstart => ?_⟩
  · rw [← List.drop_drop]
    exact prefix_drop_of_indexOf hk
  · -- the marker would be found no later than `j`
    have hlater := indexOf_drop hk (n := j - cursor) (by omega)
    rw [List.drop_drop, Nat.add_sub_cancel' hcursor] at hlater
    obtain ⟨rest, hrest⟩ := hstart
    rw [← hrest, indexOf_append_self] at hlater
    have hzero := Option.some.inj hlater
    omega

lemma indexOfFrom_eq_none_iff :
    indexOfFrom marker text cursor = none ↔ ∀ j, cursor ≤ j → ¬marker <+: text.drop j := by
  unfold indexOfFrom
  rw [Option.map_eq_none_iff, indexOf_eq_none_iff]
  constructor
  · intro h j hj hstart
    rw [← Nat.add_sub_cancel' hj, ← List.drop_drop] at hstart
    exact h (hstart.isInfix.trans (List.drop_suffix _ _).isInfix)
  · rintro h ⟨before, rest, hsplit⟩
    refine h (cursor + before.length) (Nat.le_add_right _ _) ⟨rest, ?_⟩
    rw [← List.drop_drop, ← hsplit, List.append_assoc, List.drop_left]

lemma indexOfFrom_eq_some_iff : indexOfFrom marker text cursor = some i ↔
    cursor ≤ i ∧ marker <+: text.drop i ∧
      ∀ j, cursor ≤ j → j < i → ¬marker <+: text.drop j := by
  refine ⟨indexOfFrom_spec, fun ⟨hcursor, hstart, hfirst⟩ => ?_⟩
  cases hfound : indexOfFrom marker text cursor with
  | none => exact absurd hstart (indexOfFrom_eq_none_iff.mp hfound i hcursor)
  | some k =>
    obtain ⟨hk, hkstart, hkfirst⟩ := indexOfFrom_spec hfound
    rcases lt_trichotomy k i with hlt | rfl | hgt
    · exact absurd hkstart (hfirst k hk hlt)
    · rfl
    · exact absurd hstart (hkfirst i hcursor hgt)

lemma indexOfFrom_of_le {cursor' : ℕ} (h : indexOfFrom marker text cursor = some i)
    (hle : cursor ≤ cursor') (hi : cursor' ≤ i) : indexOfFrom marker text cursor' = some i := by
  obtain ⟨-, hstart, hfirst⟩ := indexOfFrom_spec h
  exact indexOfFrom_eq_some_iff.mpr ⟨hi, hstart, fun j hj => hfirst j (hle.trans hj)⟩

end Search

/-! ### Openings -/

section Openings

variable {source needle : List ℕ} {anySuffix : Bool}

/-- An opening: the needle stands at its index, its name ends there, and it stops behind the first
bracket after the name. -/
def IsOpening (source needle : List ℕ) (anySuffix : Bool) (opening : XmlOpening) : Prop :=
  needle <+: source.drop opening.index ∧
    (anySuffix = true ∨ endsTagName source[opening.index + needle.length]? = true) ∧
      ∃ bracket, indexOfFrom [62] source (opening.index + needle.length) = some bracket ∧
        opening.stop = bracket + 1

lemma IsOpening.index_lt {tag : List ℕ} {opening : XmlOpening}
    (h : IsOpening source (60 :: tag) anySuffix opening) : opening.index < source.length := by
  by_contra hge
  have hstart := h.1
  rw [List.drop_eq_nil_of_le (not_lt.mp hge), List.prefix_nil] at hstart
  cases hstart

lemma le_of_needle_twice {tag : List ℕ} (htag : 60 ∉ tag) {i j : ℕ}
    (hi : 60 :: tag <+: source.drop i) (hj : 60 :: tag <+: source.drop j) (hlt : i < j) :
    i + (60 :: tag).length ≤ j := by
  by_contra hinside
  obtain ⟨rest, hrest⟩ := hi
  obtain ⟨rest', hrest'⟩ := hj
  have hunit : source[j]? = some 60 := by
    have hget := congrArg (fun l => l[0]?) hrest'
    simpa [List.getElem?_drop] using hget.symm
  have hget := congrArg (fun l => l[j - i]?) hrest
  rw [List.length_cons] at hinside
  obtain ⟨k, rfl⟩ : ∃ k, j = i + (k + 1) := ⟨j - i - 1, by omega⟩
  have hk : k < tag.length := by omega
  simp only [Nat.add_sub_cancel_left, List.getElem?_drop, List.cons_append, List.getElem?_cons_succ,
    List.getElem?_append_left hk, hunit] at hget
  exact htag (List.mem_of_getElem? hget)

lemma kept_bracket {bracket : Option ℕ} {cursor : ℕ}
    (hbracket : ∀ b ∈ bracket, ∃ c ≤ cursor, indexOfFrom [62] source c = some b) :
    (bracket.filter (cursor ≤ ·)).or (indexOfFrom [62] source cursor) =
      indexOfFrom [62] source cursor := by
  cases bracket with
  | none => rfl
  | some b =>
    by_cases hle : cursor ≤ b
    · obtain ⟨c, hc, hfound⟩ := hbracket b rfl
      rw [indexOfFrom_of_le hfound hc hle]
      simp [Option.filter, hle]
    · simp [Option.filter, hle]

lemma openingsLoop_spec {tag : List ℕ} (htag : 60 ∉ tag) {fuel cursor : ℕ} {bracket : Option ℕ}
    (hfuel : source.length ≤ fuel + cursor)
    (hbracket : ∀ b ∈ bracket, ∃ c ≤ cursor, indexOfFrom [62] source c = some b) :
    (openingsLoop source (60 :: tag) anySuffix fuel cursor bracket).Pairwise
        (fun a b => a.index < b.index) ∧
      ∀ opening, opening ∈ openingsLoop source (60 :: tag) anySuffix fuel cursor bracket ↔
        cursor ≤ opening.index ∧ IsOpening source (60 :: tag) anySuffix opening := by
  have hempty : ∀ {P : XmlOpening → Prop}, (∀ opening, ¬P opening) →
      ([] : List XmlOpening).Pairwise (fun a b => a.index < b.index) ∧
        ∀ opening, opening ∈ ([] : List XmlOpening) ↔ P opening :=
    fun hnone => ⟨.nil, fun opening => iff_of_false List.not_mem_nil (hnone opening)⟩
  induction fuel generalizing cursor bracket with
  | zero =>
    refine hempty fun opening ⟨hle, hopening⟩ => ?_
    have hlt := hopening.index_lt
    omega
  | succ fuel ih =>
    unfold openingsLoop
    split_ifs with hend
    · refine hempty fun opening ⟨hle, hopening⟩ => ?_
      have hlt := hopening.index_lt
      omega
    cases hfound : indexOfFrom (60 :: tag) source cursor with
    | none =>
      refine hempty fun opening ⟨hle, hopening⟩ => ?_
      exact indexOfFrom_eq_none_iff.mp hfound _ hle hopening.1
    | some index =>
      obtain ⟨hcursor, hstart, hfirst⟩ := indexOfFrom_spec hfound
      dsimp only
      have hnext : ∀ opening, IsOpening source (60 :: tag) anySuffix opening →
          (cursor ≤ opening.index ↔
            opening.index = index ∨ index + (60 :: tag).length ≤ opening.index) := by
        intro opening hopening
        constructor
        · intro hle
          rcases lt_trichotomy opening.index index with hlt | heq | hgt
          · exact absurd hopening.1 (hfirst _ hle hlt)
          · exact .inl heq
          · exact .inr (le_of_needle_twice htag hstart hopening.1 hgt)
        · rintro (heq | hle)
          · exact heq ▸ hcursor
          · omega
      have hfuel' : source.length ≤ fuel + (index + (60 :: tag).length) := by
        rw [List.length_cons]
        omega
      have hkept : ∀ b ∈ bracket, ∃ c ≤ index + (60 :: tag).length,
          indexOfFrom [62] source c = some b := by
        intro b hb
        obtain ⟨c, hc, hfound⟩ := hbracket b hb
        exact ⟨c, by omega, hfound⟩
      split_ifs with hname
      · -- the name goes on, so no opening stands at this place
        obtain ⟨hpairwise, hmem⟩ := ih hfuel' hkept
        refine ⟨hpairwise, fun opening => (hmem opening).trans ?_⟩
        refine and_congr_left fun hopening => ?_
        rw [hnext opening hopening]
        refine (or_iff_right fun heq => ?_).symm
        have hends := hopening.2.1
        rw [heq] at hends
        simp only [Bool.and_eq_true, Bool.not_eq_true'] at hname
        rcases hends with hany | hends
        · rw [hname.1] at hany
          cases hany
        · rw [hname.2] at hends
          cases hends
      · rw [kept_bracket hkept]
        cases hclose : indexOfFrom [62] source (index + (60 :: tag).length) with
        | none =>
          refine hempty fun opening ⟨hle, hopening⟩ => ?_
          obtain ⟨bracket', hbracket', -⟩ := hopening.2.2
          obtain ⟨hle', hstart', -⟩ := indexOfFrom_spec hbracket'
          refine indexOfFrom_eq_none_iff.mp hclose bracket' ?_ hstart'
          rcases (hnext opening hopening).mp hle with heq | hbehind
          · exact heq ▸ hle'
          · omega
        | some b =>
          obtain ⟨hpairwise, hmem⟩ := ih hfuel' fun b' hb' => ⟨_, le_rfl, hb' ▸ hclose⟩
          dsimp only
          refine ⟨List.pairwise_cons.mpr ⟨fun opening hopening => ?_, hpairwise⟩, fun opening => ?_⟩
          · have hle := ((hmem opening).mp hopening).1
            rw [List.length_cons] at hle
            dsimp only
            omega
          · rw [List.mem_cons, hmem]
            have hhead : IsOpening source (60 :: tag) anySuffix ⟨index, b + 1⟩ := by
              refine ⟨hstart, ?_, b, hclose, rfl⟩
              cases anySuffix with
              | true => exact .inl rfl
              | false => exact .inr (by simpa using hname)
            constructor
            · rintro (rfl | ⟨hle, hopening⟩)
              · exact ⟨hcursor, hhead⟩
              · exact ⟨(hnext opening hopening).mpr (.inr hle), hopening⟩
            · rintro ⟨hle, hopening⟩
              rcases (hnext opening hopening).mp hle with heq | hbehind
              · obtain ⟨b', hb', hstop⟩ := hopening.2.2
                rw [heq, hclose] at hb'
                obtain rfl := Option.some.inj hb'
                left
                cases opening
                cases heq
                cases hstop
                rfl
              · exact .inr ⟨hbehind, hopening⟩

lemma IsOpening.stop_le {opening opening' : XmlOpening}
    (h : IsOpening source needle anySuffix opening)
    (h' : IsOpening source needle anySuffix opening') (hlt : opening.index < opening'.index) :
    opening.stop ≤ opening'.stop := by
  obtain ⟨-, -, b, hb, hstop⟩ := h
  obtain ⟨-, -, b', hb', hstop'⟩ := h'
  rw [hstop, hstop']
  obtain ⟨hle', hstart', -⟩ := indexOfFrom_spec hb'
  by_contra hgt
  exact (indexOfFrom_spec hb).2.2 b' (by omega) (by omega) hstart'

lemma IsOpening.index_lt_stop {opening : XmlOpening}
    (h : IsOpening source needle anySuffix opening) : opening.index < opening.stop := by
  obtain ⟨-, -, b, hb, hstop⟩ := h
  have hle := (indexOfFrom_spec hb).1
  omega

end Openings

/-- The openings of a tag are found at every place where one stands, each once and in order: the
bracket that is kept between two turns is the one that a search would find. -/
theorem tagOpenings_exact (raw tag : List ℕ) (options : TagOptions) (htag : 60 ∉ tag) :
    (tagOpenings raw tag options).Pairwise (fun a b => a.index < b.index) ∧
      ∀ opening, opening ∈ tagOpenings raw tag options ↔
        IsOpening (options.source raw) (60 :: tag) options.anySuffix opening := by
  obtain ⟨hpairwise, hmem⟩ := @openingsLoop_spec (options.source raw) options.anySuffix tag htag
    (options.source raw).length 0 none le_rfl fun b hb => by cases hb
  exact ⟨hpairwise, fun opening => (hmem opening).trans (and_iff_right (Nat.zero_le _))⟩

/-- An opening that is cut off has no bracket. -/
theorem tagOpenings_exact_sample :
    (tagOpenings (unitsOf "<fact>a</fact><FACT b>c<facts><fact") (unitsOf "fact")
      ⟨false, false⟩).Pairwise (fun a b => a.index < b.index) ∧
      tagOpenings (unitsOf "<fact>a</fact><FACT b>c<facts><fact") (unitsOf "fact") ⟨false, false⟩ =
        [⟨0, 6⟩, ⟨14, 22⟩] :=
  ⟨(tagOpenings_exact _ _ _ (by decide)).1, by decide⟩

/-! ### Blocks -/

section Blocks

variable {raw source closing : List ℕ}

def IsBlockOf (raw source closing : List ℕ) (opening : XmlOpening) (block : TagBlock) : Prop :=
  ∃ stop, indexOfFrom closing source opening.stop = some stop ∧
    block = ⟨opening.index, (raw.take (stop + closing.length)).drop opening.index⟩

def TagBlock.Covers (block : TagBlock) (i : ℕ) : Prop :=
  block.index ≤ i ∧ i < block.index + block.value.length

lemma IsBlockOf.end_eq {opening : XmlOpening} {block : TagBlock}
    (h : IsBlockOf raw source closing opening block) (hlength : source.length = raw.length)
    (hclosing : 0 < closing.length) (hlt : opening.index < opening.stop) :
    ∃ stop, opening.stop ≤ stop ∧ indexOfFrom closing source opening.stop = some stop ∧
      block.index + block.value.length = stop + closing.length := by
  obtain ⟨stop, hstop, rfl⟩ := h
  obtain ⟨hle, hstart, -⟩ := indexOfFrom_spec hstop
  have hfits := hstart.length_le
  rw [List.length_drop, hlength] at hfits
  refine ⟨stop, hle, hstop, ?_⟩
  dsimp only
  rw [List.length_drop, List.length_take]
  omega

/-- From a cursor on, the loop takes blocks that lie apart, and leaves an opening out only where a
block covers it or no closing tag follows it. -/
lemma blocksLoop_spec {openings : List XmlOpening} (hlength : source.length = raw.length)
    (hclosing : 0 < closing.length)
    (hsorted : openings.Pairwise fun a b => a.index < b.index ∧ a.stop ≤ b.stop)
    (hstops : ∀ opening ∈ openings, opening.index < opening.stop) (cursor : ℕ) :
    (∀ block ∈ blocksLoop raw source closing cursor openings, cursor ≤ block.index ∧
        ∃ opening ∈ openings, IsBlockOf raw source closing opening block) ∧
      (blocksLoop raw source closing cursor openings).Pairwise
        (fun a b => a.index + a.value.length ≤ b.index) ∧
      ∀ opening ∈ openings, opening.index < cursor ∨
        indexOfFrom closing source opening.stop = none ∨
          ∃ block ∈ blocksLoop raw source closing cursor openings, block.Covers opening.index := by
  induction openings generalizing cursor with
  | nil =>
    refine ⟨fun block hblock => ?_, .nil, fun opening hopening => ?_⟩
    · cases hblock
    · cases hopening
  | cons first openings ih =>
    obtain ⟨hfirst, hsorted'⟩ := List.pairwise_cons.mp hsorted
    obtain ⟨hfirstStop, hstops'⟩ := List.forall_mem_cons.mp hstops
    unfold blocksLoop
    split_ifs with hbehind
    · obtain ⟨hblocks, hapart, hleft⟩ := ih hsorted' hstops' cursor
      refine ⟨fun block hblock => ?_, hapart, List.forall_mem_cons.mpr ⟨.inl hbehind, hleft⟩⟩
      obtain ⟨hle, opening, hopening, his⟩ := hblocks block hblock
      exact ⟨hle, opening, List.mem_cons_of_mem _ hopening, his⟩
    · cases hfound : indexOfFrom closing source first.stop with
      | none =>
        refine ⟨fun _ hblock => (List.not_mem_nil hblock).elim, .nil,
          fun opening hopening => .inr (.inl ?_)⟩
        -- no later opening can succeed without a closing tag either
        rcases List.mem_cons.mp hopening with rfl | hopening
        · exact hfound
        · exact indexOfFrom_eq_none_iff.mpr fun j hj =>
            indexOfFrom_eq_none_iff.mp hfound j ((hfirst opening hopening).2.trans hj)
      | some stop =>
        dsimp only
        obtain ⟨hblocks, hapart, hleft⟩ := ih hsorted' hstops' (stop + closing.length)
        have hblock : IsBlockOf raw source closing first
            ⟨first.index, (raw.take (stop + closing.length)).drop first.index⟩ :=
          ⟨stop, hfound, rfl⟩
        obtain ⟨stop', hstop', hfound', hend⟩ := hblock.end_eq hlength hclosing hfirstStop
        rw [hfound] at hfound'
        obtain rfl := Option.some.inj hfound'
        dsimp only at hend
        refine ⟨List.forall_mem_cons.mpr ⟨⟨not_lt.mp hbehind, first, List.mem_cons_self, hblock⟩,
          fun block hmem => ?_⟩, List.pairwise_cons.mpr ⟨fun block hmem => ?_, hapart⟩,
          List.forall_mem_cons.mpr ⟨.inr (.inr ⟨_, List.mem_cons_self, le_rfl, ?_⟩),
            fun opening hopening => ?_⟩⟩
        · obtain ⟨hle, opening, hopening, his⟩ := hblocks block hmem
          exact ⟨by omega, opening, List.mem_cons_of_mem _ hopening, his⟩
        · dsimp only
          rw [hend]
          exact (hblocks block hmem).1
        · dsimp only
          omega
        · rcases hleft opening hopening with hbefore | hnone | ⟨block, hmem, hcovers⟩
          · refine .inr (.inr ⟨_, List.mem_cons_self, (hfirst opening hopening).1.le, ?_⟩)
            dsimp only
            omega
          · exact .inr (.inl hnone)
          · exact .inr (.inr ⟨block, List.mem_cons_of_mem _ hmem, hcovers⟩)

end Blocks

lemma TagOptions.length_source (options : TagOptions) (raw : List ℕ) :
    (options.source raw).length = raw.length := by
  unfold TagOptions.source foldTagCase
  split_ifs
  · rfl
  · exact List.length_map _

/-- The blocks of a tag lie apart and in order, each runs from an opening of the tag to the first
closing tag behind it, and an opening that is in no block has no closing tag behind it. -/
theorem completeTagBlocks_exact (raw tag : List ℕ) (options : TagOptions) (htag : 60 ∉ tag) :
    (completeTagBlocks raw tag options).Pairwise (fun a b => a.index + a.value.length ≤ b.index) ∧
      (∀ block ∈ completeTagBlocks raw tag options, ∃ opening,
        IsOpening (options.source raw) (60 :: tag) options.anySuffix opening ∧
          IsBlockOf raw (options.source raw) (closingTag tag) opening block) ∧
      ∀ opening, IsOpening (options.source raw) (60 :: tag) options.anySuffix opening →
        indexOfFrom (closingTag tag) (options.source raw) opening.stop = none ∨
          ∃ block ∈ completeTagBlocks raw tag options, block.Covers opening.index := by
  obtain ⟨hpairwise, hmem⟩ := @openingsLoop_spec (options.source raw) options.anySuffix tag htag
    (options.source raw).length 0 none le_rfl fun b hb => by cases hb
  have hopenings : ∀ opening ∈ tagOpenings raw tag options,
      IsOpening (options.source raw) (60 :: tag) options.anySuffix opening :=
    fun opening hopening => ((hmem opening).mp hopening).2
  have hsorted : (tagOpenings raw tag options).Pairwise
      fun a b => a.index < b.index ∧ a.stop ≤ b.stop :=
    hpairwise.imp_of_mem fun ha hb hlt =>
      ⟨hlt, (hopenings _ ha).stop_le (hopenings _ hb) hlt⟩
  have hclosing : 0 < (closingTag tag).length := Nat.succ_pos _
  obtain ⟨hblocks, hapart, hleft⟩ := blocksLoop_spec (options.length_source raw) hclosing hsorted
    (fun opening hopening => (hopenings opening hopening).index_lt_stop) 0
  refine ⟨hapart, fun block hblock => ?_, fun opening hopening => ?_⟩
  · obtain ⟨-, opening, hopening, his⟩ := hblocks block hblock
    exact ⟨opening, hopenings opening hopening, his⟩
  · exact (hleft opening ((hmem opening).mpr ⟨Nat.zero_le _, hopening⟩)).resolve_left
      (Nat.not_lt_zero _)

/-- A block ends at the first closing tag, and an opening inside it starts none. -/
theorem completeTagBlocks_exact_sample :
    (completeTagBlocks (unitsOf "<f>a<f>b</f><f>") (unitsOf "f") ⟨false, false⟩).Pairwise
        (fun a b => a.index + a.value.length ≤ b.index) ∧
      completeTagBlocks (unitsOf "<f>a<f>b</f><f>") (unitsOf "f") ⟨false, false⟩ =
        [⟨0, unitsOf "<f>a<f>b</f>"⟩] :=
  ⟨(completeTagBlocks_exact _ _ _ (by decide)).1, by decide⟩

/-! ### Quote-aware ends -/

/-- Where a scan stands: outside quotes, inside single or inside double quotes. -/
inductive QuoteState where
  | unquoted
  | singleQuoted
  | doubleQuoted
  deriving DecidableEq, Repr

/-- The state behind a unit. -/
def QuoteState.next : QuoteState → ℕ → QuoteState
  | .unquoted, unit => if unit = 39 then .singleQuoted else if unit = 34 then .doubleQuoted
      else .unquoted
  | .singleQuoted, unit => if unit = 39 then .unquoted else .singleQuoted
  | .doubleQuoted, unit => if unit = 34 then .unquoted else .doubleQuoted

/-- The first bracket outside quotes, from a state and a place on. -/
def quotedEnd : QuoteState → ℕ → List ℕ → Option ℕ
  | _, _, [] => none
  | state, index, unit :: text =>
    if state = .unquoted ∧ unit = 62 then some index
    else quotedEnd (state.next unit) (index + 1) text

lemma map_indexOf_cons (unit index : ℕ) (text : List ℕ) :
    (indexOf [62] (unit :: text)).map (index + ·) =
      if unit = 62 then some index else (indexOf [62] text).map (index + 1 + ·) := by
  by_cases hunit : unit = 62
  · subst hunit
    rw [if_pos rfl, show (62 :: text) = [62] ++ text from rfl, indexOf_append_self]
    rfl
  · rw [if_neg hunit, indexOf_cons_of_not fun h => hunit (List.cons_prefix_cons.mp h).1.symm,
      Option.map_map]
    exact congrArg (fun f => (indexOf [62] text).map f) (funext fun i => by simp; omega)

lemma endsLoop_scan (requested text : List ℕ) (index : ℕ) :
    (endsLoop requested index text).1 = ⟨quotedEnd .unquoted index text,
      quotedEnd .singleQuoted index text, quotedEnd .doubleQuoted index text,
      (indexOf [62] text).map (index + ·)⟩ := by
  induction text generalizing index with
  | nil => rfl
  | cons unit text ih =>
    unfold endsLoop
    dsimp only
    rw [ih, map_indexOf_cons]
    unfold QuoteScan.step
    simp only [quotedEnd, QuoteState.next]
    split_ifs <;> simp_all

/-- The end that a scan from a place finds; a quote that stays open is ignored. -/
def plainEnd (index : ℕ) (text : List ℕ) : Option ℕ :=
  (quotedEnd .unquoted index text).or ((indexOf [62] text).map (index + ·))

lemma mem_endsLoop_iff {requested text : List ℕ} {index i : ℕ} {e : Option ℕ} :
    (i, e) ∈ (endsLoop requested index text).2 ↔ i ∈ requested ∧ index ≤ i ∧
      i < index + text.length ∧ e = plainEnd i (text.drop (i - index)) := by
  induction text generalizing index with
  | nil =>
    refine iff_of_false List.not_mem_nil ?_
    rintro ⟨-, hle, hlt, -⟩
    rw [List.length_nil] at hlt
    omega
  | cons unit text ih =>
    have hend : ((endsLoop requested index (unit :: text)).1.unquoted).or
        (endsLoop requested index (unit :: text)).1.bracket = plainEnd index (unit :: text) := by
      rw [endsLoop_scan]
      rfl
    have hlater : (i, e) ∈ (endsLoop requested (index + 1) text).2 ↔ i ≠ index ∧
        i ∈ requested ∧ index ≤ i ∧ i < index + (unit :: text).length ∧
          e = plainEnd i ((unit :: text).drop (i - index)) := by
      rw [ih, List.length_cons]
      constructor
      · rintro ⟨hrequested, hle, hlt, he⟩
        refine ⟨by omega, hrequested, by omega, by omega, ?_⟩
        rwa [show i - index = (i - (index + 1)) + 1 by omega, List.drop_succ_cons]
      · rintro ⟨hne, hrequested, hle, hlt, he⟩
        refine ⟨hrequested, by omega, by omega, ?_⟩
        rwa [show i - index = (i - (index + 1)) + 1 by omega, List.drop_succ_cons] at he
    have hsplit : (endsLoop requested index (unit :: text)).2 =
        if requested.contains index then
          (endsLoop requested (index + 1) text).2 ++ [(index, plainEnd index (unit :: text))]
        else (endsLoop requested (index + 1) text).2 := by
      rw [← hend]
      rfl
    rw [hsplit]
    split_ifs with hrequested
    · rw [List.mem_append, List.mem_singleton, hlater]
      constructor
      · rintro (⟨-, hi⟩ | heq)
        · exact hi
        · cases heq
          rw [Nat.sub_self]
          exact ⟨List.contains_iff_mem.mp hrequested, le_rfl, by rw [List.length_cons]; omega, rfl⟩
      · intro hi
        by_cases heq : i = index
        · subst heq
          right
          rw [hi.2.2.2, Nat.sub_self]
          rfl
        · exact .inl ⟨heq, hi⟩
    · rw [hlater]
      apply and_iff_right_of_imp
      rintro hi rfl
      exact hrequested (List.contains_iff_mem.mpr hi.1)

/-- The ends that one pass backward computes are those of a scan forward from each requested place:
the first bracket outside quotes, and the first bracket at all where a quote stays open. -/
theorem openingTagEnds_exact (raw starts : List ℕ) (start : ℕ) (e : Option ℕ) :
    (start, e) ∈ openingTagEnds raw starts ↔ start ∈ starts ∧ start < raw.length ∧
      e = (quotedEnd .unquoted start (raw.drop start)).or (indexOfFrom [62] raw start) := by
  unfold openingTagEnds
  rw [mem_endsLoop_iff, Nat.zero_add, Nat.sub_zero]
  exact and_congr_right fun _ => and_iff_right (Nat.zero_le _)

end Codemem
