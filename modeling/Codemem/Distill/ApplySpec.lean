import Codemem.Distill.Lines

/-!
# When a rule is applied once

A second application finds the rule it has written exactly when the block it wrote into is the block it
reads: the rule must not hold the end marker, and no end marker may stand before the first begin marker.
What stands outside of the block is kept by every application, and so are the bullets inside.
-/

namespace Codemem

/-! ### The markers -/

lemma newline_notMem_end : newlineUnit ∉ distillBlockEnd := by decide

lemma distillBlockEnd_ne_nil : distillBlockEnd ≠ [] := by decide

lemma end_notInfix_begin : ¬distillBlockEnd <:+: distillBlockBegin := by decide

lemma end_notInfix_heading : ¬distillBlockEnd <:+: distillLessonsHeading := by decide

lemma begin_getElem_ne : ∀ k < distillBlockBegin.length, 1 ≤ k →
    distillBlockBegin[k]? ≠ distillBlockEnd[0]? := by decide

lemma begin_length_le {text : List ℕ} {beginIdx endIdx : ℕ}
    (hbegin : indexOf distillBlockBegin text = some beginIdx)
    (hend : indexOf distillBlockEnd text = some endIdx) (hlt : beginIdx < endIdx) :
    beginIdx + distillBlockBegin.length ≤ endIdx := by
  by_contra hgt
  obtain ⟨rest, htext, -⟩ := eq_of_indexOf hbegin
  obtain ⟨rest', htext', hle'⟩ := eq_of_indexOf hend
  have hlengthEnd : (text.take endIdx).length = endIdx := by
    rw [List.length_take]
    omega
  have hlengthBegin : (text.take beginIdx).length = beginIdx := by
    rw [List.length_take]
    omega
  -- the unit at the start of the end marker, read twice
  have hfirst : text[endIdx]? = distillBlockEnd[0]? := by
    rw [htext', List.append_assoc, List.getElem?_append_right (by omega), hlengthEnd, Nat.sub_self,
      List.getElem?_append_left (by decide)]
  have hinside : text[endIdx]? = distillBlockBegin[endIdx - beginIdx]? := by
    rw [htext, List.append_assoc, List.getElem?_append_right (by omega), hlengthBegin,
      List.getElem?_append_left (by omega)]
  exact begin_getElem_ne (endIdx - beginIdx) (by omega) (by omega) (hinside.symm.trans hfirst)

/-! ### The block that is found -/

/-- What is known of a block that is found. -/
structure IsLocated (text before inner after : List ℕ) : Prop where
  split : text = before ++ inner ++ after
  begins : ∃ start, before = start ++ distillBlockBegin ∧
    indexOf distillBlockBegin text = some start.length
  ends : ∃ rest, after = distillBlockEnd ++ rest
  endIdx : indexOf distillBlockEnd text = some (before.length + inner.length)

/-- A block that is found is one. -/
lemma isLocated_of_locateBlock {text before inner after : List ℕ}
    (h : locateBlock text = some (before, inner, after)) : IsLocated text before inner after := by
  unfold locateBlock at h
  cases hbegin : indexOf distillBlockBegin text with
  | none =>
    rw [hbegin] at h
    cases h
  | some beginIdx =>
    cases hend : indexOf distillBlockEnd text with
    | none =>
      rw [hbegin, hend] at h
      cases h
    | some endIdx =>
      rw [hbegin, hend] at h
      dsimp only at h
      split_ifs at h with hlt
      obtain ⟨rfl, hrest⟩ := Prod.mk.inj (Option.some.inj h)
      obtain ⟨rfl, rfl⟩ := Prod.mk.inj hrest
      have hle := begin_length_le hbegin hend hlt
      obtain ⟨rest, htext, hbound⟩ := eq_of_indexOf hbegin
      obtain ⟨rest', htext', hbound'⟩ := eq_of_indexOf hend
      have hstart : (text.take beginIdx).length = beginIdx := by
        rw [List.length_take]
        omega
      refine ⟨?_, ⟨text.take beginIdx, ?_, ?_⟩, ⟨rest', ?_⟩, ?_⟩
      · have hinner : text.take (beginIdx + distillBlockBegin.length) ++
            (text.take endIdx).drop (beginIdx + distillBlockBegin.length) = text.take endIdx := by
          have htake := List.take_append_drop (beginIdx + distillBlockBegin.length)
            (text.take endIdx)
          rwa [List.take_take, min_eq_left hle] at htake
        rw [hinner, List.take_append_drop]
      · conv_lhs => rw [htext]
        rw [List.append_assoc, List.take_append, hstart, List.take_of_length_le (by omega),
          Nat.add_sub_cancel_left, List.take_left']
        rfl
      · rw [hstart]
        exact hbegin
      · conv_lhs => rw [htext']
        rw [List.append_assoc, List.drop_left']
        rw [List.length_take]
        omega
      · rw [hend, List.length_drop, List.length_take, List.length_take]
        congr 1
        omega

lemma locateBlock_eq {start inner rest : List ℕ}
    (hbegin : indexOf distillBlockBegin
      (start ++ distillBlockBegin ++ inner ++ (distillBlockEnd ++ rest)) = some start.length)
    (hend : indexOf distillBlockEnd
      (start ++ distillBlockBegin ++ inner ++ (distillBlockEnd ++ rest)) =
        some ((start ++ distillBlockBegin).length + inner.length)) :
    locateBlock (start ++ distillBlockBegin ++ inner ++ (distillBlockEnd ++ rest)) =
      some (start ++ distillBlockBegin, inner, distillBlockEnd ++ rest) := by
  have hpos : 0 < distillBlockBegin.length := by decide
  have hlt : start.length < (start ++ distillBlockBegin).length + inner.length := by
    rw [List.length_append]
    omega
  have hbefore : (start ++ distillBlockBegin ++ inner ++ (distillBlockEnd ++ rest)).take
      (start.length + distillBlockBegin.length) = start ++ distillBlockBegin := by
    rw [← List.length_append, List.append_assoc (start ++ distillBlockBegin), List.take_left]
  have hupTo : (start ++ distillBlockBegin ++ inner ++ (distillBlockEnd ++ rest)).take
      ((start ++ distillBlockBegin).length + inner.length) = start ++ distillBlockBegin ++ inner := by
    rw [← List.length_append, List.take_left]
  have hafter : (start ++ distillBlockBegin ++ inner ++ (distillBlockEnd ++ rest)).drop
      ((start ++ distillBlockBegin).length + inner.length) = distillBlockEnd ++ rest := by
    rw [← List.length_append, List.drop_left]
  unfold locateBlock
  rw [hbegin, hend]
  dsimp only
  rw [if_pos hlt, hbefore, hupTo, hafter, ← List.length_append, List.drop_left]

lemma IsLocated.end_notInfix {text before inner after : List ℕ}
    (h : IsLocated text before inner after) : ¬distillBlockEnd <:+: before ++ inner := by
  rintro ⟨left, right, hsplit⟩
  obtain ⟨i, hle, hi⟩ := @exists_indexOf_le _ _ distillBlockEnd left (right ++ after)
  rw [← List.append_assoc, hsplit, ← h.split, h.endIdx] at hi
  have hlength := congrArg List.length hsplit
  rw [List.length_append, List.length_append, List.length_append] at hlength
  have hpos : 0 < distillBlockEnd.length := by decide
  have heq := Option.some.inj hi
  omega

lemma end_notInfix_joinUnits {lines : List (List ℕ)} (h : ∀ line ∈ lines, ¬distillBlockEnd <:+: line) :
    ¬distillBlockEnd <:+: joinUnits [newlineUnit] lines := by
  induction lines with
  | nil => exact fun hpart => distillBlockEnd_ne_nil (List.infix_nil.mp hpart)
  | cons line lines ih =>
    obtain ⟨hline, hlines⟩ := List.forall_mem_cons.mp h
    cases lines with
    | nil => exact hline
    | cons next lines =>
      rw [joinUnits_cons_cons, List.append_assoc, List.singleton_append,
        infix_append_cons_iff newline_notMem_end distillBlockEnd_ne_nil, not_or]
      exact ⟨hline, ih hlines⟩

def blockOf (lines : List (List ℕ)) : List ℕ :=
  newlineUnit :: joinUnits [newlineUnit] lines ++ [newlineUnit]

lemma trimmedLines_blockOf {lines : List (List ℕ)} (h : ∀ line ∈ lines, IsLine line) :
    trimmedLines (blockOf lines) = lines := by
  have hfirst := trimmedLines_append [] (joinUnits [newlineUnit] lines ++ [newlineUnit])
  rw [List.nil_append, trimmedLines_append, trimmedLines_joinUnits h] at hfirst
  unfold blockOf
  rw [List.cons_append, hfirst]
  exact List.append_nil lines

lemma IsLocated.rewrite {text before inner after : List ℕ} (h : IsLocated text before inner after)
    {lines : List (List ℕ)} (hlines : ∀ line ∈ lines, ¬distillBlockEnd <:+: line) :
    locateBlock (before ++ blockOf lines ++ after) = some (before, blockOf lines, after) := by
  have hnone := h.end_notInfix
  obtain ⟨start, rfl, hbegin⟩ := h.begins
  obtain ⟨rest, rfl⟩ := h.ends
  refine locateBlock_eq ?_ ?_
  · rw [h.split, List.append_assoc] at hbegin
    rw [List.append_assoc]
    exact indexOf_append_congr _ _ hbegin
  · have hbefore : ¬distillBlockEnd <:+: start ++ distillBlockBegin := fun hpart =>
      hnone (hpart.trans (List.prefix_append _ _).isInfix)
    have hshape : start ++ distillBlockBegin ++ blockOf lines ++ (distillBlockEnd ++ rest) =
        (start ++ distillBlockBegin) ++ newlineUnit :: (joinUnits [newlineUnit] lines ++
          newlineUnit :: (distillBlockEnd ++ rest)) := by
      simp [blockOf]
    rw [hshape, indexOf_append_cons newline_notMem_end distillBlockEnd_ne_nil hbefore,
      indexOf_append_cons newline_notMem_end distillBlockEnd_ne_nil (end_notInfix_joinUnits hlines),
      indexOf_append_self]
    simp only [Option.map_some, blockOf, List.length_append, List.length_cons, List.length_nil]
    congr 1
    omega

/-! ### Counting blocks -/

/-- The blocks of a text: a begin marker and the next end marker, over and over. -/
def countBlocks : ℕ → List ℕ → ℕ
  | 0, _ => 0
  | fuel + 1, text =>
    match indexOf distillBlockBegin text with
    | none => 0
    | some beginIdx =>
      let rest := text.drop (beginIdx + distillBlockBegin.length)
      match indexOf distillBlockEnd rest with
      | none => 0
      | some endIdx => 1 + countBlocks fuel (rest.drop (endIdx + distillBlockEnd.length))

def managedBlocks (text : List ℕ) : ℕ := countBlocks text.length text

lemma countBlocks_eq {fuel fuel' : ℕ} {text : List ℕ} (h : text.length ≤ fuel)
    (h' : text.length ≤ fuel') : countBlocks fuel text = countBlocks fuel' text := by
  induction fuel generalizing fuel' text with
  | zero =>
    obtain rfl := List.length_eq_zero_iff.mp (Nat.le_zero.mp h)
    cases fuel' with
    | zero => rfl
    | succ fuel' => rfl
  | succ fuel ih =>
    cases fuel' with
    | zero =>
      obtain rfl := List.length_eq_zero_iff.mp (Nat.le_zero.mp h')
      rfl
    | succ fuel' =>
      unfold countBlocks
      cases indexOf distillBlockBegin text with
      | none => rfl
      | some beginIdx =>
        dsimp only
        cases indexOf distillBlockEnd (text.drop (beginIdx + distillBlockBegin.length)) with
        | none => rfl
        | some endIdx =>
          dsimp only
          have hpos : 0 < distillBlockEnd.length := by decide
          have hshort : ((text.drop (beginIdx + distillBlockBegin.length)).drop
              (endIdx + distillBlockEnd.length)).length ≤ text.length - 1 := by
            rw [List.length_drop, List.length_drop]
            omega
          exact congrArg _ (ih (hshort.trans (by omega)) (hshort.trans (by omega)))

lemma IsLocated.managedBlocks_eq {text before inner rest : List ℕ}
    (h : IsLocated text before inner (distillBlockEnd ++ rest)) :
    managedBlocks text = 1 + managedBlocks rest := by
  obtain ⟨start, rfl, hbegin⟩ := h.begins
  have hdrop : text.drop (start.length + distillBlockBegin.length) =
      inner ++ (distillBlockEnd ++ rest) := by
    rw [h.split, ← List.length_append, List.append_assoc, List.drop_left]
  have hend := indexOf_drop h.endIdx (Nat.le_add_right (start ++ distillBlockBegin).length inner.length)
  rw [List.length_append, hdrop, Nat.add_sub_cancel_left] at hend
  have hrest : (inner ++ (distillBlockEnd ++ rest)).drop (inner.length + distillBlockEnd.length) =
      rest := by
    rw [← List.append_assoc, ← List.length_append, List.drop_left]
  have hlength : 0 < text.length := by
    have hpos : 0 < distillBlockBegin.length := by decide
    rw [h.split]
    simp only [List.length_append]
    omega
  unfold managedBlocks
  obtain ⟨fuel, hfuel⟩ := Nat.exists_eq_succ_of_ne_zero hlength.ne'
  rw [hfuel]
  conv_lhs => unfold countBlocks
  rw [hbegin]
  dsimp only
  rw [hdrop, hend]
  dsimp only
  rw [hrest]
  congr 1
  refine countBlocks_eq ?_ le_rfl
  have htotal := congrArg List.length h.split
  have hpos : 0 < distillBlockEnd.length := by decide
  simp only [List.length_append] at htotal
  omega

lemma managedBlocks_newline : managedBlocks [newlineUnit] = 0 := by decide

/-! ### A changed text differs -/

section Laws

variable {text rule : List ℕ}

lemma applyDistillRule_of_located {before inner after : List ℕ}
    (h : locateBlock text = some (before, inner, after)) :
    applyDistillRule text rule = if (trimmedLines inner).contains (ruleBullet rule) then ⟨text, false⟩
      else ⟨before ++ blockOf (trimmedLines inner ++ [ruleBullet rule]) ++ after, true⟩ := by
  unfold applyDistillRule
  rw [h]
  rfl

/-- What stands before a new block. -/
def leadOf (text : List ℕ) : List ℕ :=
  if (text.rdropWhile isSpaceUnit).isEmpty then []
  else text.rdropWhile isSpaceUnit ++ [newlineUnit, newlineUnit]

lemma applyDistillRule_of_none (h : locateBlock text = none) :
    applyDistillRule text rule = ⟨leadOf text ++ managedBlock rule, true⟩ := by
  unfold applyDistillRule leadOf
  rw [h]
  dsimp only
  split_ifs with hempty
  · rfl
  · rfl

lemma text_ne_of_changed (hrule : IsLine rule) (h : (applyDistillRule text rule).changed = true) :
    (applyDistillRule text rule).text ≠ text := by
  intro hsame
  cases hloc : locateBlock text with
  | none =>
    rw [applyDistillRule_of_none hloc] at hsame
    -- the heading would be white space at the end of the text
    have hsharp : (35 : ℕ) ∈ managedBlock rule := by
      unfold managedBlock
      simp only [List.append_assoc]
      exact List.mem_append_left _ (by decide)
    have hspaces : managedBlock rule <:+ text.rtakeWhile isSpaceUnit := by
      have hsplit := @List.rdropWhile_append_rtakeWhile _ isSpaceUnit text
      unfold leadOf at hsame
      split_ifs at hsame with hempty
      · rw [List.isEmpty_iff.mp hempty, List.nil_append] at hsplit
        rw [hsplit, ← hsame]
        exact List.suffix_append _ _
      · have htail := hsplit.trans hsame.symm
        dsimp only at htail
        rw [List.append_assoc] at htail
        rw [List.append_cancel_left htail]
        exact List.suffix_append _ _
    have hspace := List.mem_rtakeWhile_imp (hspaces.subset hsharp)
    exact absurd hspace (by decide)
  | some block =>
    obtain ⟨before, inner, after⟩ := block
    have hlocated := isLocated_of_locateBlock hloc
    rw [applyDistillRule_of_located hloc] at h hsame
    by_cases hcontains : (trimmedLines inner).contains (ruleBullet rule) = true
    · rw [if_pos hcontains] at h
      cases h
    · rw [if_neg hcontains] at hsame
      have hsplit := hsame.trans hlocated.split
      rw [List.append_assoc, List.append_assoc] at hsplit
      have hinner := List.append_cancel_right (List.append_cancel_left hsplit)
      have hlines := @trimmedLines_blockOf (trimmedLines inner ++ [ruleBullet rule])
        (fun line hline => by
          rcases List.mem_append.mp hline with hmem | hmem
          · exact (of_mem_trimmedLines hmem).1
          · rw [List.mem_singleton.mp hmem]
            exact hrule.ruleBullet)
      rw [hinner] at hlines
      refine hcontains (List.contains_iff_mem.mpr ?_)
      rw [hlines]
      exact List.mem_append_right _ List.mem_cons_self

/-! ### Laws of an application -/

/-- The laws of an application. -/
structure LawfulApply (text rule : List ℕ) : Prop where
  /-- A second application changes nothing. -/
  idempotent : (applyDistillRule (applyDistillRule text rule).text rule).text =
    (applyDistillRule text rule).text
  /-- At most one block is added. -/
  oneBlock : managedBlocks (applyDistillRule text rule).text ≤ managedBlocks text + 1
  /-- What stands outside of the block is kept, and the lines inside as well. -/
  kept : ∀ before inner after, locateBlock text = some (before, inner, after) →
    ∃ inner', (applyDistillRule text rule).text = before ++ inner' ++ after ∧
      ∀ line ∈ trimmedLines inner, line ∈ trimmedLines inner'
  /-- Without a block the text is kept up to white space at its end. -/
  appended : locateBlock text = none →
    text.rdropWhile isSpaceUnit <+: (applyDistillRule text rule).text

lemma end_infix_ruleBullet_iff : distillBlockEnd <:+: ruleBullet rule ↔ distillBlockEnd <:+: rule := by
  have hhead : ∀ unit rest, distillBlockEnd <+: unit :: rest → unit = 60 := by
    rintro unit rest ⟨tail, htail⟩
    exact (List.cons.inj htail).1.symm
  unfold ruleBullet
  rw [List.infix_cons_iff, List.infix_cons_iff]
  constructor
  · rintro (h | h | h)
    · exact absurd (hhead _ _ h) (by decide)
    · exact absurd (hhead _ _ h) (by decide)
    · exact h
  · exact fun h => .inr (.inr h)

lemma changed_of_end_inside (h : distillBlockEnd <:+: rule) (text : List ℕ) :
    (applyDistillRule text rule).changed = true := by
  cases hloc : locateBlock text with
  | none => rw [applyDistillRule_of_none hloc]
  | some block =>
    obtain ⟨before, inner, after⟩ := block
    have hnone := (isLocated_of_locateBlock hloc).end_notInfix
    rw [applyDistillRule_of_located hloc, if_neg]
    intro hcontains
    -- no line of the block holds the marker
    have hline := (of_mem_trimmedLines (List.contains_iff_mem.mp hcontains)).2
    exact hnone ((end_infix_ruleBullet_iff.mpr h).trans
      (hline.trans (List.suffix_append before inner).isInfix))

lemma prefix_rdropWhile {start : List ℕ} {unit : ℕ} (hunit : isSpaceUnit unit = false)
    (rest : List ℕ) : start ++ [unit] <+: (start ++ [unit] ++ rest).rdropWhile isSpaceUnit := by
  induction rest using List.reverseRecOn with
  | nil =>
    rw [List.append_nil, List.rdropWhile_concat_neg _ _ _ (by simp [hunit])]
  | append_singleton rest last ih =>
    rw [← List.append_assoc, List.rdropWhile_concat]
    split_ifs with hspace
    · exact ih
    · exact ⟨rest ++ [last], by simp⟩

/-- An end marker before every begin marker stays there. -/
lemma locateBlock_appended (hnone : locateBlock text = none) (hend : distillBlockEnd <:+: text)
    (block : List ℕ) : locateBlock (leadOf text ++ block) = none := by
  cases hidx : indexOf distillBlockEnd text with
  | none => exact absurd hend (indexOf_eq_none_iff.mp hidx)
  | some endIdx =>
    obtain ⟨rest, htext, hle⟩ := eq_of_indexOf hidx
    have hlength : (text.take endIdx).length = endIdx := by
      rw [List.length_take]
      omega
    -- the text up to the marker is not trimmed
    have hlast : distillBlockEnd = distillBlockEnd.dropLast ++ [62] := by decide
    have hkept : text.take endIdx ++ distillBlockEnd <+: text.rdropWhile isSpaceUnit := by
      have hpart := @prefix_rdropWhile (text.take endIdx ++ distillBlockEnd.dropLast) 62 (by decide)
        rest
      rwa [List.append_assoc (text.take endIdx), ← hlast, ← htext] at hpart
    have hne : (text.rdropWhile isSpaceUnit).isEmpty = false := by
      cases hempty : text.rdropWhile isSpaceUnit with
      | nil =>
        rw [hempty, List.prefix_nil, List.append_eq_nil_iff] at hkept
        exact absurd hkept.2 distillBlockEnd_ne_nil
      | cons unit tail => rfl
    have hwhole : text.take endIdx ++ distillBlockEnd <+: leadOf text ++ block := by
      unfold leadOf
      rw [if_neg (by simp [hne]), List.append_assoc]
      exact hkept.trans (List.prefix_append _ _)
    obtain ⟨rest', hrest'⟩ := hwhole
    have hend' : indexOf distillBlockEnd (leadOf text ++ block) = some endIdx := by
      rw [htext] at hidx
      have hcongr := @indexOf_append_congr _ _ distillBlockEnd (text.take endIdx) rest rest'
        (by rw [hlength]; exact hidx)
      rwa [hrest', hlength] at hcongr
    have hstart : (leadOf text ++ block).take endIdx = text.take endIdx := by
      rw [← hrest', List.append_assoc, List.take_left' hlength]
    unfold locateBlock at hnone ⊢
    rw [hend']
    rw [hidx] at hnone
    cases hbegin : indexOf distillBlockBegin (leadOf text ++ block) with
    | none => rfl
    | some beginIdx =>
      dsimp only
      refine if_neg fun hlt => ?_
      -- a begin marker before the end marker would be one of the old text
      have hbefore := begin_length_le hbegin hend' hlt
      obtain ⟨tail, htail, -⟩ := eq_of_indexOf hbegin
      have hinside : ∃ middle, text.take endIdx =
          (leadOf text ++ block).take beginIdx ++ distillBlockBegin ++ middle := by
        have htake := congrArg (List.take endIdx) htail
        have hshort : ((leadOf text ++ block).take beginIdx ++ distillBlockBegin).length ≤ endIdx := by
          rw [List.length_append, List.length_take]
          omega
        rw [hstart, List.take_append, List.take_of_length_le hshort] at htake
        exact ⟨_, htake⟩
      obtain ⟨middle, hmiddle⟩ := hinside
      obtain ⟨first, hfirst, hfound⟩ := @exists_indexOf_le _ _ distillBlockBegin
        ((leadOf text ++ block).take beginIdx) (middle ++ (distillBlockEnd ++ rest))
      rw [← List.append_assoc, ← List.append_assoc, ← hmiddle, ← htext] at hfound
      rw [hfound] at hnone
      dsimp only at hnone
      rw [if_pos] at hnone
      · cases hnone
      · rw [List.length_take] at hfirst
        omega

/-- A new block behind a text without an end marker is found, with its rule in it. -/
lemma located_appended (hrule : IsLine rule) (hnotRule : ¬distillBlockEnd <:+: rule)
    (hnotText : ¬distillBlockEnd <:+: text) :
    ∃ before inner, locateBlock (leadOf text ++ managedBlock rule) =
      some (before, inner, distillBlockEnd ++ [newlineUnit]) ∧
        ruleBullet rule ∈ trimmedLines inner := by
  let head := leadOf text ++ distillLessonsHeading ++ [newlineUnit, newlineUnit]
  have hshape : leadOf text ++ managedBlock rule = head ++ distillBlockBegin ++
      (newlineUnit :: (ruleBullet rule ++ newlineUnit :: (distillBlockEnd ++ [newlineUnit]))) := by
    simp [head, managedBlock]
  have hlead : ¬distillBlockEnd <:+: leadOf text ++ distillLessonsHeading := by
    unfold leadOf
    split_ifs
    · exact end_notInfix_heading
    · have hsplit : text.rdropWhile isSpaceUnit ++ [newlineUnit, newlineUnit] ++
          distillLessonsHeading = text.rdropWhile isSpaceUnit ++ newlineUnit ::
            ([] ++ newlineUnit :: distillLessonsHeading) := by simp
      rw [hsplit, infix_append_cons_iff newline_notMem_end distillBlockEnd_ne_nil,
        infix_append_cons_iff newline_notMem_end distillBlockEnd_ne_nil]
      rintro (h | h | h)
      · exact hnotText (h.trans (List.rdropWhile_prefix _ _).isInfix)
      · exact distillBlockEnd_ne_nil (List.infix_nil.mp h)
      · exact end_notInfix_heading h
  have hhead : ¬distillBlockEnd <:+: head ++ distillBlockBegin := by
    have hsplit : head ++ distillBlockBegin = (leadOf text ++ distillLessonsHeading) ++
        newlineUnit :: ([] ++ newlineUnit :: distillBlockBegin) := by simp [head]
    rw [hsplit, infix_append_cons_iff newline_notMem_end distillBlockEnd_ne_nil,
      infix_append_cons_iff newline_notMem_end distillBlockEnd_ne_nil]
    rintro (h | h | h)
    · exact hlead h
    · exact distillBlockEnd_ne_nil (List.infix_nil.mp h)
    · exact end_notInfix_begin h
  have hbullet : ¬distillBlockEnd <:+: ruleBullet rule :=
    fun h => hnotRule (end_infix_ruleBullet_iff.mp h)
  obtain ⟨beginIdx, hbeginLe, hbegin⟩ := @exists_indexOf_le _ _ distillBlockBegin head
    (newlineUnit :: (ruleBullet rule ++ newlineUnit :: (distillBlockEnd ++ [newlineUnit])))
  have hend : indexOf distillBlockEnd (head ++ distillBlockBegin ++
      (newlineUnit :: (ruleBullet rule ++ newlineUnit :: (distillBlockEnd ++ [newlineUnit])))) =
        some (head ++ distillBlockBegin ++ newlineUnit :: (ruleBullet rule ++ [newlineUnit])).length := by
    rw [indexOf_append_cons newline_notMem_end distillBlockEnd_ne_nil hhead,
      indexOf_append_cons newline_notMem_end distillBlockEnd_ne_nil hbullet, indexOf_append_self]
    simp only [Option.map_some, List.length_append, List.length_cons, List.length_nil]
    congr 1
    omega
  have hwhole : head ++ distillBlockBegin ++
      (newlineUnit :: (ruleBullet rule ++ newlineUnit :: (distillBlockEnd ++ [newlineUnit]))) =
        (head ++ distillBlockBegin ++ newlineUnit :: (ruleBullet rule ++ [newlineUnit])) ++
          (distillBlockEnd ++ [newlineUnit]) := by simp
  rw [hshape]
  unfold locateBlock
  rw [hbegin, hend]
  dsimp only
  rw [if_pos]
  · refine ⟨_, _, congrArg some (Prod.ext rfl (Prod.ext rfl ?_)), ?_⟩
    · rw [hwhole, List.drop_left]
    · -- the block ends with the bullet on a line of its own
      rw [hwhole, List.take_left, List.drop_append_of_le_length, trimmedLines_append]
      · have hline := trimmedLines_append (ruleBullet rule) []
        rw [hline, hrule.ruleBullet.trimmedLines_eq]
        exact List.mem_append_right _ List.mem_cons_self
      · rw [List.length_append]
        omega
  · rw [List.length_append, List.length_append, List.length_cons]
    omega

/-- The laws hold exactly when the rule has no end marker and either the text has none or the block
is found. -/
theorem lawfulApply_iff (hrule : IsLine rule) :
    LawfulApply text rule ↔ ¬distillBlockEnd <:+: rule ∧
      (¬distillBlockEnd <:+: text ∨ locateBlock text ≠ none) := by
  constructor
  · intro h
    have hunchanged : ¬(applyDistillRule (applyDistillRule text rule).text rule).changed = true :=
      fun hchanged => text_ne_of_changed hrule hchanged h.idempotent
    refine ⟨fun hpart => hunchanged (changed_of_end_inside hpart _), ?_⟩
    by_contra hnot
    rw [not_or, not_not, not_not] at hnot
    rw [applyDistillRule_of_none hnot.2,
      applyDistillRule_of_none (locateBlock_appended hnot.2 hnot.1 _)] at hunchanged
    exact hunchanged rfl
  · rintro ⟨hnotRule, hcases⟩
    have hbullet : ¬distillBlockEnd <:+: ruleBullet rule :=
      fun h => hnotRule (end_infix_ruleBullet_iff.mp h)
    cases hloc : locateBlock text with
    | none =>
      have hnotText := hcases.resolve_right fun h => h hloc
      obtain ⟨before, inner, hblock, hmem⟩ := located_appended hrule hnotRule hnotText
      have hsecond := @applyDistillRule_of_located _ rule _ _ _ hblock
      rw [if_pos (List.contains_iff_mem.mpr hmem)] at hsecond
      have hfirst := @applyDistillRule_of_none text rule hloc
      refine ⟨?_, ?_, fun before inner after h => ?_, fun _ => ?_⟩
      · rw [hfirst, hsecond]
      · rw [hfirst, (isLocated_of_locateBlock hblock).managedBlocks_eq, managedBlocks_newline]
        omega
      · rw [hloc] at h
        cases h
      · rw [hfirst]
        unfold leadOf
        split_ifs with hempty
        · rw [List.isEmpty_iff.mp hempty]
          exact List.nil_prefix
        · rw [List.append_assoc]
          exact List.prefix_append _ _
    | some block =>
      obtain ⟨before, inner, after⟩ := block
      have hlocated := isLocated_of_locateBlock hloc
      have hfirst := @applyDistillRule_of_located _ rule _ _ _ hloc
      by_cases hcontains : (trimmedLines inner).contains (ruleBullet rule) = true
      · rw [if_pos hcontains] at hfirst
        refine ⟨?_, ?_, fun before' inner' after' h => ?_, fun h => ?_⟩
        · rw [hfirst, hfirst]
        · rw [hfirst]
          exact Nat.le_succ _
        · rw [hfirst]
          exact ⟨inner', (isLocated_of_locateBlock h).split, fun _ h => h⟩
        · rw [hloc] at h
          cases h
      · rw [if_neg hcontains] at hfirst
        have hlines : ∀ line ∈ trimmedLines inner ++ [ruleBullet rule],
            IsLine line ∧ ¬distillBlockEnd <:+: line := by
          intro line hline
          rcases List.mem_append.mp hline with hmem | hmem
          · obtain ⟨hisLine, hpart⟩ := of_mem_trimmedLines hmem
            exact ⟨hisLine, fun h => hlocated.end_notInfix
              (h.trans (hpart.trans (List.suffix_append before inner).isInfix))⟩
          · rw [List.mem_singleton.mp hmem]
            exact ⟨hrule.ruleBullet, hbullet⟩
        have hrewrite := hlocated.rewrite fun line hline => (hlines line hline).2
        have hread := trimmedLines_blockOf fun line hline => (hlines line hline).1
        have hsecond := @applyDistillRule_of_located _ rule _ _ _ hrewrite
        rw [hread, if_pos (List.contains_iff_mem.mpr
          (List.mem_append_right _ List.mem_cons_self))] at hsecond
        refine ⟨?_, ?_, fun before' inner' after' h => ?_, fun h => ?_⟩
        · rw [hfirst, hsecond]
        · obtain ⟨rest, rfl⟩ := hlocated.ends
          rw [hfirst, (isLocated_of_locateBlock hrewrite).managedBlocks_eq, hlocated.managedBlocks_eq]
          exact Nat.le_succ _
        · rw [hloc] at h
          obtain ⟨rfl, hrest⟩ := Prod.mk.inj (Option.some.inj h)
          obtain ⟨rfl, rfl⟩ := Prod.mk.inj hrest
          refine ⟨_, congrArg DistillApplyResult.text hfirst, fun line hline => ?_⟩
          rw [hread]
          exact List.mem_append_left _ hline
        · rw [hloc] at h
          cases h

end Laws

end Codemem
