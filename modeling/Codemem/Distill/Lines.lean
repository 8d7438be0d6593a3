import Codemem.Distill.Apply

/-!
# Lines of a block

The lines that `applyDistillRule` reads from a block are trimmed, not blank and without breaks.
Splitting at a line break separates the lines before it from those after it, so joined lines are read
back as they were; and a sanitized rule is one line.
-/

namespace Codemem

/-- A line: no break, and neither its first nor its last unit is whitespace. -/
structure IsLine (line : List ℕ) : Prop where
  noBreak : newlineUnit ∉ line
  head : ∃ unit rest, line = unit :: rest ∧ isSpaceUnit unit = false
  last : ∃ start unit, line = start ++ [unit] ∧ isSpaceUnit unit = false

lemma IsLine.ne_nil {line : List ℕ} (h : IsLine line) : line ≠ [] := by
  obtain ⟨unit, rest, rfl, -⟩ := h.head
  exact List.cons_ne_nil _ _

lemma IsLine.trimUnits_eq {line : List ℕ} (h : IsLine line) : trimUnits line = line := by
  obtain ⟨unit, rest, hline, hunit⟩ := h.head
  obtain ⟨start, last, hline', hlast⟩ := h.last
  have hdrop : line.dropWhile isSpaceUnit = line := by
    rw [hline, List.dropWhile_cons_of_neg (by simp [hunit])]
  unfold trimUnits
  rw [hdrop, hline', List.rdropWhile_concat_neg _ _ _ (by simp [hlast])]

lemma head_dropWhile {p : ℕ → Bool} {text rest : List ℕ} {unit : ℕ}
    (h : text.dropWhile p = unit :: rest) : p unit = false := by
  induction text with
  | nil => cases h
  | cons first text ih =>
    by_cases hfirst : p first = true
    · rw [List.dropWhile_cons_of_pos hfirst] at h
      exact ih h
    · rw [List.dropWhile_cons_of_neg hfirst] at h
      obtain ⟨rfl, -⟩ := List.cons.inj h
      simpa using hfirst

lemma exists_last_rdropWhile {p : ℕ → Bool} {text : List ℕ} (h : text.rdropWhile p ≠ []) :
    ∃ start unit, text.rdropWhile p = start ++ [unit] ∧ p unit = false :=
  ⟨_, _, (List.dropLast_append_getLast h).symm, by simpa using List.rdropWhile_last_not p text h⟩

lemma trimUnits_isPart (text : List ℕ) : trimUnits text <:+: text :=
  (List.rdropWhile_prefix _ _).isInfix.trans (List.dropWhile_suffix _).isInfix

lemma isLine_trimUnits {text : List ℕ} (hbreak : newlineUnit ∉ text) (hne : trimUnits text ≠ []) :
    IsLine (trimUnits text) := by
  refine ⟨fun hmem => hbreak ((trimUnits_isPart text).subset hmem), ?_, exists_last_rdropWhile hne⟩
  obtain ⟨rest, hrest⟩ := List.rdropWhile_prefix isSpaceUnit (text.dropWhile isSpaceUnit)
  cases htrim : trimUnits text with
  | nil => exact absurd htrim hne
  | cons unit tail =>
    refine ⟨unit, tail, rfl, ?_⟩
    unfold trimUnits at htrim
    rw [htrim] at hrest
    exact head_dropWhile hrest.symm

/-! ### Splitting into lines -/

lemma of_mem_splitLines {current text line : List ℕ} (hcurrent : newlineUnit ∉ current)
    (h : line ∈ splitLines current text) : newlineUnit ∉ line ∧ line <:+: current ++ text := by
  induction current, text using splitLines.induct with
  | case1 current =>
    rw [splitLines, List.mem_singleton] at h
    rw [h, List.append_nil]
    exact ⟨hcurrent, List.infix_refl _⟩
  | case2 current rest ih =>
    rw [splitLines, List.mem_cons] at h
    rcases h with rfl | h
    · exact ⟨hcurrent, (List.prefix_append _ _).isInfix⟩
    · obtain ⟨hbreak, hpart⟩ := ih List.not_mem_nil h
      refine ⟨hbreak, hpart.trans ?_⟩
      rw [List.nil_append]
      exact ((List.suffix_append [13, 10] rest).trans (List.suffix_append current _)).isInfix
  | case3 current rest hno ih =>
    rw [splitLines.eq_3 _ _ _ hno, if_pos rfl, List.mem_cons] at h
    rcases h with rfl | h
    · exact ⟨hcurrent, (List.prefix_append _ _).isInfix⟩
    · obtain ⟨hbreak, hpart⟩ := ih List.not_mem_nil h
      refine ⟨hbreak, hpart.trans ?_⟩
      rw [List.nil_append]
      exact ((List.suffix_cons newlineUnit rest).trans (List.suffix_append current _)).isInfix
  | case4 current unit rest hno hne ih =>
    rw [splitLines.eq_3 _ _ _ hno, if_neg hne] at h
    have hcurrent' : newlineUnit ∉ current ++ [unit] := by
      rw [List.mem_append, List.mem_singleton, not_or]
      exact ⟨hcurrent, fun heq => hne heq.symm⟩
    obtain ⟨hbreak, hpart⟩ := ih hcurrent' h
    rw [List.append_assoc, List.singleton_append] at hpart
    exact ⟨hbreak, hpart⟩

lemma of_mem_trimmedLines {text line : List ℕ} (h : line ∈ trimmedLines text) :
    IsLine line ∧ line <:+: text := by
  obtain ⟨hmem, hne⟩ := List.mem_filter.mp h
  obtain ⟨part, hpart, rfl⟩ := List.mem_map.mp hmem
  obtain ⟨hbreak, hpart⟩ := of_mem_splitLines List.not_mem_nil hpart
  exact ⟨isLine_trimUnits hbreak (by simpa using hne), (trimUnits_isPart part).trans hpart⟩

lemma splitLines_of_noBreak {current text : List ℕ} (h : newlineUnit ∉ text) :
    splitLines current text = [current ++ text] := by
  induction current, text using splitLines.induct with
  | case1 current => rw [splitLines, List.append_nil]
  | case2 current rest ih => exact absurd (by simp [newlineUnit]) h
  | case3 current rest hno ih => exact absurd List.mem_cons_self h
  | case4 current unit rest hno hne ih =>
    rw [splitLines.eq_3 _ _ _ hno, if_neg hne, ih fun hmem => h (List.mem_cons_of_mem _ hmem),
      List.append_assoc, List.singleton_append]

lemma trimUnits_append_return (text : List ℕ) : trimUnits (text ++ [13]) = trimUnits text := by
  unfold trimUnits
  rw [List.dropWhile_append]
  split_ifs with hblank
  · rw [List.isEmpty_iff.mp hblank]
    rfl
  · exact List.rdropWhile_concat_pos _ _ _ (by decide)

lemma trimmedParts_append (parts parts' : List (List ℕ)) :
    trimmedParts (parts ++ parts') = trimmedParts parts ++ trimmedParts parts' := by
  unfold trimmedParts
  rw [List.map_append, List.filter_append]

lemma trimmedParts_cons (part : List ℕ) (parts : List (List ℕ)) :
    trimmedParts (part :: parts) = trimmedParts [part] ++ trimmedParts parts :=
  trimmedParts_append [part] parts

lemma trimmedParts_splitLines_append (current text rest : List ℕ) :
    trimmedParts (splitLines current (text ++ newlineUnit :: rest)) =
      trimmedParts (splitLines current text) ++ trimmedLines rest := by
  have hbreak : ∀ current, splitLines current (newlineUnit :: rest) = current :: splitLines [] rest :=
    fun current => by
      rw [splitLines.eq_3 _ _ _ (by simp [newlineUnit]), if_pos rfl]
  induction current, text using splitLines.induct with
  | case1 current =>
    rw [List.nil_append, hbreak, splitLines, trimmedParts_cons]
    rfl
  | case2 current tail ih =>
    rw [List.cons_append, List.cons_append, splitLines, splitLines, trimmedParts_cons, ih,
      trimmedParts_cons current (splitLines [] tail), List.append_assoc]
  | case3 current tail hno ih =>
    rw [splitLines.eq_3 _ _ _ hno, if_pos rfl, List.cons_append,
      splitLines.eq_3 _ _ _ (by simp [newlineUnit]), if_pos rfl, trimmedParts_cons, ih,
      trimmedParts_cons current (splitLines [] tail), List.append_assoc]
  | case4 current unit tail hno hne ih =>
    rw [splitLines.eq_3 _ _ _ hno, if_neg hne, List.cons_append]
    by_cases hreturn : unit = 13 ∧ tail = []
    · -- the carriage return belongs to the break
      obtain ⟨rfl, rfl⟩ := hreturn
      rw [List.nil_append]
      have hsplit : splitLines current (13 :: newlineUnit :: rest) = current :: splitLines [] rest := by
        rw [newlineUnit, splitLines]
      rw [hsplit, splitLines, trimmedParts_cons]
      unfold trimmedParts
      rw [List.map_singleton, List.map_singleton, trimUnits_append_return]
      rfl
    · have hno' : ∀ rest', unit = 13 → tail ++ newlineUnit :: rest = 10 :: rest' → False := by
        intro rest' hunit htail
        cases tail with
        | nil => exact hreturn ⟨hunit, rfl⟩
        | cons first tail =>
          obtain ⟨rfl, -⟩ := List.cons.inj htail
          exact hno tail hunit rfl
      rw [splitLines.eq_3 _ _ _ hno', if_neg hne, ih]

lemma trimmedLines_append (text rest : List ℕ) :
    trimmedLines (text ++ newlineUnit :: rest) = trimmedLines text ++ trimmedLines rest :=
  trimmedParts_splitLines_append [] text rest

lemma IsLine.trimmedLines_eq {line : List ℕ} (h : IsLine line) : trimmedLines line = [line] := by
  unfold trimmedLines
  rw [splitLines_of_noBreak h.noBreak, List.nil_append]
  unfold trimmedParts
  rw [List.map_singleton, h.trimUnits_eq, List.filter_cons_of_pos (by simp [h.ne_nil]),
    List.filter_nil]

lemma trimmedLines_joinUnits {lines : List (List ℕ)} (h : ∀ line ∈ lines, IsLine line) :
    trimmedLines (joinUnits [newlineUnit] lines) = lines := by
  induction lines with
  | nil => rfl
  | cons line lines ih =>
    obtain ⟨hline, hlines⟩ := List.forall_mem_cons.mp h
    cases lines with
    | nil => exact hline.trimmedLines_eq
    | cons next lines =>
      rw [joinUnits_cons_cons, List.append_assoc, List.singleton_append, trimmedLines_append,
        hline.trimmedLines_eq, ih hlines, List.singleton_append]

/-! ### Sanitized rules -/

lemma newline_notMem_collapseSpaceUnits (afterSpace : Bool) (text : List ℕ) :
    newlineUnit ∉ collapseSpaceUnits afterSpace text := by
  induction text generalizing afterSpace with
  | nil => exact List.not_mem_nil
  | cons unit text ih =>
    unfold collapseSpaceUnits
    split_ifs with hspace hafter
    · exact ih true
    · rw [List.mem_cons, not_or]
      exact ⟨by decide, ih true⟩
    · rw [List.mem_cons, not_or]
      refine ⟨fun heq => hspace (heq ▸ by decide), ih false⟩

lemma isLine_of_sanitizeRuleLine {text rule : List ℕ} (h : sanitizeRuleLine text = some rule) :
    IsLine rule := by
  unfold sanitizeRuleLine at h
  cases hfirst : (trimmedLines text).head? with
  | none =>
    rw [hfirst] at h
    cases h
  | some firstLine =>
    simp only [hfirst] at h
    have hbreak := newline_notMem_collapseSpaceUnits false
      (stripQuotes (stripNumber (stripBullet firstLine)))
    generalize collapseSpaceUnits false (stripQuotes (stripNumber (stripBullet firstLine))) = collapsed
      at h hbreak
    split_ifs at h with hnone hlong
    · -- a long rule is cut and ends with an ellipsis
      obtain rfl := Option.some.inj h
      have hne : trimUnits collapsed ≠ [] := by
        intro hnil
        rw [hnil] at hnone
        exact hnone rfl
      have hline := isLine_trimUnits hbreak hne
      have hpart : ((trimUnits collapsed).take 199).rdropWhile isSpaceUnit <+: trimUnits collapsed :=
        (List.rdropWhile_prefix _ _).trans (List.take_prefix _ _)
      refine ⟨?_, ?_, ⟨_, 0x2026, rfl, by decide⟩⟩
      · rw [List.mem_append, not_or]
        exact ⟨fun hmem => hline.noBreak (hpart.subset hmem), by decide⟩
      · obtain ⟨unit, rest, hunit, hspace⟩ := hline.head
        cases hcut : ((trimUnits collapsed).take 199).rdropWhile isSpaceUnit with
        | nil => exact ⟨0x2026, [], rfl, by decide⟩
        | cons first tail =>
          rw [hcut, hunit] at hpart
          obtain ⟨rest', hrest'⟩ := hpart
          obtain ⟨rfl, -⟩ := List.cons.inj hrest'
          exact ⟨first, tail ++ [0x2026], rfl, hspace⟩
    · obtain rfl := Option.some.inj h
      refine isLine_trimUnits hbreak fun hnil => ?_
      rw [hnil] at hnone
      exact hnone rfl

lemma IsLine.ruleBullet {rule : List ℕ} (h : IsLine rule) : IsLine (ruleBullet rule) := by
  obtain ⟨start, unit, hrule, hunit⟩ := h.last
  refine ⟨?_, ⟨45, 32 :: rule, rfl, by decide⟩, ⟨45 :: 32 :: start, unit, ?_, hunit⟩⟩
  · unfold Codemem.ruleBullet
    rw [List.mem_cons, List.mem_cons, not_or, not_or]
    exact ⟨by decide, by decide, h.noBreak⟩
  · unfold Codemem.ruleBullet
    rw [hrule]
    rfl

end Codemem
