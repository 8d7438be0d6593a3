import Codemem.Distill.ApplySpec
import Mathlib.Data.Nat.Digits.Defs

/-!
# The unified diff of an edit

`renderUnifiedDiff` prints one hunk: what the two texts have in common at the start and at the end is
left out but for three lines of context, and the suffix is only looked for behind the prefix.  Applying
the printed hunk to the old lines gives the new lines.
-/

namespace Codemem

/-! ### Rendering -/

/-- `text === "" ? [] : text.replace(/\n$/, "").split("\n")`. -/
def textLines (text : List ℕ) : List (List ℕ) :=
  if text.isEmpty then []
  else (if text.getLast? = some newlineUnit then text.dropLast else text).splitOn newlineUnit

/-- The loop of both searches: how many lines agree, up to a bound. -/
def commonRun : ℕ → List (List ℕ) → List (List ℕ) → ℕ
  | bound + 1, a :: as, b :: bs => if a = b then commonRun bound as bs + 1 else 0
  | _, _, _ => 0

def commonPrefix (a b : List (List ℕ)) : ℕ := commonRun (min a.length b.length) a b

/-- `commonSuffix`: the loop reads both lists from their end. -/
def commonSuffix (a b : List (List ℕ)) (used : ℕ) : ℕ :=
  commonRun (min a.length b.length - used) a.reverse b.reverse

def decimalUnits (n : ℕ) : List ℕ :=
  if n = 0 then [48] else ((Nat.digits 10 n).map fun digit => digit + 48).reverse

/-- The part of the edit that a hunk shows. -/
structure DiffHunk where
  oldStart : ℕ
  oldCount : ℕ
  newStart : ℕ
  newCount : ℕ
  deriving DecidableEq

def hunkHeader (hunk : DiffHunk) : List ℕ :=
  asciiUnits "@@ -" ++ (decimalUnits hunk.oldStart ++ (asciiUnits "," ++ (decimalUnits hunk.oldCount ++
    (asciiUnits " +" ++ (decimalUnits hunk.newStart ++ (asciiUnits "," ++
      (decimalUnits hunk.newCount ++ asciiUnits " @@")))))))

/-- The lines of an edit: context, removed, added, and context. -/
structure DiffBody where
  pre : List (List ℕ)
  removed : List (List ℕ)
  added : List (List ℕ)
  post : List (List ℕ)

/-- The printed lines of an edit. -/
def DiffBody.lines (body : DiffBody) : List (List ℕ) :=
  body.pre.map (List.cons 32) ++ (body.removed.map (List.cons 45) ++
    (body.added.map (List.cons 43) ++ body.post.map (List.cons 32)))

/-- The edit that is shown, with the number of lines before it. -/
def diffBody (oldLines newLines : List (List ℕ)) (context : ℕ) : ℕ × DiffBody :=
  let common := commonPrefix oldLines newLines
  let suffix := commonSuffix oldLines newLines common
  let preStart := common - context
  let postEnd := min oldLines.length (oldLines.length - suffix + context)
  (preStart,
    { pre := (oldLines.take common).drop preStart
      removed := (oldLines.take (oldLines.length - suffix)).drop common
      added := (newLines.take (newLines.length - suffix)).drop common
      post := (oldLines.take postEnd).drop (oldLines.length - suffix) })

/-- The header of an edit. -/
def diffHunk (oldLines newLines : List (List ℕ)) (edit : ℕ × DiffBody) : DiffHunk where
  oldStart := if oldLines.length = 0 then 0 else edit.1 + 1
  oldCount := edit.2.pre.length + edit.2.removed.length + edit.2.post.length
  newStart := if newLines.length = 0 then 0 else edit.1 + 1
  newCount := edit.2.pre.length + edit.2.added.length + edit.2.post.length

def renderUnifiedDiff (displayPath oldText newText : List ℕ) (context : ℕ) : List ℕ :=
  if oldText = newText then []
  else
    let oldLines := textLines oldText
    let newLines := textLines newText
    let edit := diffBody oldLines newLines context
    [newlineUnit].intercalate
      ((asciiUnits "--- " ++
          if oldText.isEmpty then asciiUnits "/dev/null" else asciiUnits "a/" ++ displayPath) ::
        (asciiUnits "+++ b/" ++ displayPath) :: hunkHeader (diffHunk oldLines newLines edit) ::
          edit.2.lines)

/-! ### Applying -/

def isDigitUnit (unit : ℕ) : Bool := decide (48 ≤ unit ∧ unit ≤ 57)

/-- The number a text starts with, and what follows it. -/
def readNumber (text : List ℕ) : Option (ℕ × List ℕ) :=
  let digits := text.takeWhile isDigitUnit
  if digits.isEmpty then none
  else some (Nat.ofDigits 10 ((digits.map fun unit => unit - 48).reverse),
    text.dropWhile isDigitUnit)

def readWord (word text : List ℕ) : Option (List ℕ) :=
  if word.isPrefixOf text then some (text.drop word.length) else none

def readHunkHeader (line : List ℕ) : Option DiffHunk := do
  let rest ← readWord (asciiUnits "@@ -") line
  let (oldStart, rest) ← readNumber rest
  let rest ← readWord (asciiUnits ",") rest
  let (oldCount, rest) ← readNumber rest
  let rest ← readWord (asciiUnits " +") rest
  let (newStart, rest) ← readNumber rest
  let rest ← readWord (asciiUnits ",") rest
  let (newCount, rest) ← readNumber rest
  let rest ← readWord (asciiUnits " @@") rest
  if rest.isEmpty then some ⟨oldStart, oldCount, newStart, newCount⟩ else none

/-- Applies the lines of a hunk: the lines it produces, and the old lines behind it. -/
def applyBody : List (List ℕ) → List (List ℕ) → Option (List (List ℕ) × List (List ℕ))
  | oldLines, [] => some ([], oldLines)
  | line :: oldLines, (32 :: text) :: body =>
    if line = text then (applyBody oldLines body).map fun r => (text :: r.1, r.2) else none
  | line :: oldLines, (45 :: text) :: body =>
    if line = text then applyBody oldLines body else none
  | oldLines, (43 :: text) :: body => (applyBody oldLines body).map fun r => (text :: r.1, r.2)
  | _, _ => none

/-- How many lines stand before a hunk; an empty range starts behind its line. -/
def linesBefore (start count : ℕ) : ℕ := if count = 0 then start else start - 1

def applyUnifiedDiff (diff : List ℕ) (oldLines : List (List ℕ)) : Option (List (List ℕ)) :=
  if diff.isEmpty then some oldLines
  else
    match diff.splitOn newlineUnit with
    | first :: second :: header :: body =>
      if (asciiUnits "--- ").isPrefixOf first ∧ (asciiUnits "+++ ").isPrefixOf second then
        (readHunkHeader header).bind fun hunk =>
          let before := linesBefore hunk.oldStart hunk.oldCount
          (applyBody (oldLines.drop before) body).bind fun result =>
            if before ≤ oldLines.length ∧ linesBefore hunk.newStart hunk.newCount = before ∧
                result.2.length + hunk.oldCount = (oldLines.drop before).length ∧
                  result.1.length = hunk.newCount then
              some (oldLines.take before ++ result.1 ++ result.2)
            else none
      else none
    | _ => none

/-! ### Reading the header back -/

lemma decimalUnits_digits (n : ℕ) :
    decimalUnits n ≠ [] ∧ ∀ unit ∈ decimalUnits n, isDigitUnit unit = true := by
  unfold decimalUnits
  split_ifs with hzero
  · exact ⟨List.cons_ne_nil _ _, by simp [isDigitUnit]⟩
  · refine ⟨?_, fun unit hunit => ?_⟩
    · simp [Nat.digits_eq_nil_iff_eq_zero, hzero]
    · rw [List.mem_reverse, List.mem_map] at hunit
      obtain ⟨digit, hdigit, rfl⟩ := hunit
      have hlt := @Nat.digits_lt_base 10 n digit (by decide) hdigit
      exact decide_eq_true ⟨Nat.le_add_left 48 digit, by omega⟩

lemma readNumber_decimalUnits (n : ℕ) {rest : List ℕ}
    (hrest : ∀ unit tail, rest = unit :: tail → isDigitUnit unit = false) :
    readNumber (decimalUnits n ++ rest) = some (n, rest) := by
  obtain ⟨hne, hdigits⟩ := decimalUnits_digits n
  have htake : rest.takeWhile isDigitUnit = [] := by
    cases rest with
    | nil => rfl
    | cons unit tail => rw [List.takeWhile_cons_of_neg (by simp [hrest unit tail rfl])]
  have hdrop : rest.dropWhile isDigitUnit = rest := by
    cases rest with
    | nil => rfl
    | cons unit tail => rw [List.dropWhile_cons_of_neg (by simp [hrest unit tail rfl])]
  have hvalue : Nat.ofDigits 10 (((decimalUnits n).map fun unit => unit - 48).reverse) = n := by
    unfold decimalUnits
    split_ifs with hzero
    · rw [hzero]
      rfl
    · rw [List.map_reverse, List.reverse_reverse, List.map_map]
      have hid : ((fun unit => unit - 48) ∘ fun digit => digit + 48) = (id : ℕ → ℕ) := by
        funext digit
        exact Nat.add_sub_cancel digit 48
      rw [hid, List.map_id, Nat.ofDigits_digits]
  unfold readNumber
  rw [List.takeWhile_append_of_pos hdigits, List.dropWhile_append_of_pos hdigits, htake, hdrop,
    List.append_nil]
  dsimp only
  rw [if_neg (by simpa using hne), hvalue]

lemma readWord_append (word rest : List ℕ) : readWord word (word ++ rest) = some rest := by
  unfold readWord
  rw [if_pos (List.isPrefixOf_iff_prefix.mpr (List.prefix_append _ _)), List.drop_left]

lemma readHunkHeader_hunkHeader (hunk : DiffHunk) : readHunkHeader (hunkHeader hunk) = some hunk := by
  have hcomma : ∀ text unit tail, asciiUnits "," ++ text = unit :: tail →
      isDigitUnit unit = false := by
    rintro text unit tail h
    obtain ⟨rfl, -⟩ := List.cons.inj h
    decide
  have hplus : ∀ text unit tail, asciiUnits " +" ++ text = unit :: tail →
      isDigitUnit unit = false := by
    rintro text unit tail h
    obtain ⟨rfl, -⟩ := List.cons.inj h
    decide
  have hclose : ∀ unit tail, asciiUnits " @@" = unit :: tail → isDigitUnit unit = false := by
    rintro unit tail h
    obtain ⟨rfl, -⟩ := List.cons.inj h
    decide
  have hend : readWord (asciiUnits " @@") (asciiUnits " @@") = some [] := by decide
  unfold readHunkHeader hunkHeader
  simp only [readWord_append, Option.bind_eq_bind, Option.bind_some, hend,
    readNumber_decimalUnits _ (hcomma _), readNumber_decimalUnits _ (hplus _),
    readNumber_decimalUnits _ hclose]
  rfl

/-! ### The lines of an edit -/

lemma commonRun_le (bound : ℕ) (a b : List (List ℕ)) : commonRun bound a b ≤ bound := by
  induction bound generalizing a b with
  | zero => simp [commonRun]
  | succ bound ih =>
    cases a with
    | nil => simp [commonRun]
    | cons first a =>
      cases b with
      | nil => simp [commonRun]
      | cons second b =>
        unfold commonRun
        split_ifs
        · exact Nat.succ_le_succ (ih a b)
        · exact Nat.zero_le _

lemma take_commonRun (bound : ℕ) (a b : List (List ℕ)) :
    a.take (commonRun bound a b) = b.take (commonRun bound a b) := by
  induction bound generalizing a b with
  | zero => simp [commonRun]
  | succ bound ih =>
    cases a with
    | nil => simp [commonRun]
    | cons first a =>
      cases b with
      | nil => simp [commonRun]
      | cons second b =>
        unfold commonRun
        split_ifs with hsame
        · rw [List.take_succ_cons, List.take_succ_cons, ih a b, hsame]
        · rfl

lemma applyBody_context (lines rest body : List (List ℕ)) :
    applyBody (lines ++ rest) (lines.map (List.cons 32) ++ body) =
      (applyBody rest body).map fun r => (lines ++ r.1, r.2) := by
  induction lines with
  | nil =>
    rw [List.nil_append, List.map_nil, List.nil_append]
    exact Option.map_id'.symm
  | cons line lines ih =>
    rw [List.cons_append, List.map_cons, List.cons_append]
    rw [applyBody, if_pos rfl, ih, Option.map_map]
    rfl

lemma applyBody_removed (lines rest body : List (List ℕ)) :
    applyBody (lines ++ rest) (lines.map (List.cons 45) ++ body) = applyBody rest body := by
  induction lines with
  | nil => rfl
  | cons line lines ih =>
    rw [List.cons_append, List.map_cons, List.cons_append]
    rw [applyBody, if_pos rfl, ih]

lemma applyBody_added (lines rest body : List (List ℕ)) :
    applyBody rest (lines.map (List.cons 43) ++ body) =
      (applyBody rest body).map fun r => (lines ++ r.1, r.2) := by
  induction lines with
  | nil =>
    rw [List.map_nil, List.nil_append]
    exact Option.map_id'.symm
  | cons line lines ih =>
    rw [List.map_cons, List.cons_append]
    have hstep : applyBody rest ((43 :: line) :: (lines.map (List.cons 43) ++ body)) =
        (applyBody rest (lines.map (List.cons 43) ++ body)).map fun r => (line :: r.1, r.2) := by
      cases rest with
      | nil => rfl
      | cons first rest => rfl
    rw [hstep, ih, Option.map_map]
    rfl

lemma applyBody_lines (body : DiffBody) (tail : List (List ℕ)) :
    applyBody (body.pre ++ (body.removed ++ (body.post ++ tail))) body.lines =
      some (body.pre ++ (body.added ++ body.post), tail) := by
  have hend : applyBody tail [] = some ([], tail) := by
    cases tail with
    | nil => rfl
    | cons first tail => rfl
  have hpost := applyBody_context body.post tail []
  rw [List.append_nil, hend, Option.map_some, List.append_nil] at hpost
  unfold DiffBody.lines
  rw [applyBody_context, applyBody_removed, applyBody_added, hpost]
  rfl

/-! ### The edit of two texts -/

lemma take_drop_append_drop (lines : List (List ℕ)) {start stop : ℕ} (h : start ≤ stop) :
    (lines.take stop).drop start ++ lines.drop stop = lines.drop start := by
  have hsplit := List.take_append_drop (stop - start) (lines.drop start)
  rwa [List.drop_drop, Nat.add_sub_cancel' h, ← List.drop_take] at hsplit

/-- What is known of the edit of two lists of lines. -/
structure IsEdit (oldLines newLines : List (List ℕ)) (edit : ℕ × DiffBody) : Prop where
  le : edit.1 ≤ oldLines.length
  split : ∃ tail, oldLines.drop edit.1 =
      edit.2.pre ++ (edit.2.removed ++ (edit.2.post ++ tail)) ∧
    newLines = oldLines.take edit.1 ++ (edit.2.pre ++ (edit.2.added ++ (edit.2.post ++ tail)))
  oldCount : edit.2.pre.length + edit.2.removed.length + edit.2.post.length = 0 →
    oldLines.length = 0
  newCount : edit.2.pre.length + edit.2.added.length + edit.2.post.length = 0 →
    newLines.length = 0

lemma isEdit_diffBody (oldLines newLines : List (List ℕ)) {context : ℕ} (hcontext : 0 < context) :
    IsEdit oldLines newLines (diffBody oldLines newLines context) := by
  have hcommon : commonPrefix oldLines newLines ≤ min oldLines.length newLines.length :=
    commonRun_le _ _ _
  have htake : oldLines.take (commonPrefix oldLines newLines) =
      newLines.take (commonPrefix oldLines newLines) := take_commonRun _ _ _
  have hsuffix : commonSuffix oldLines newLines (commonPrefix oldLines newLines) ≤
      min oldLines.length newLines.length - commonPrefix oldLines newLines := commonRun_le _ _ _
  have hdrop := take_commonRun
    (min oldLines.length newLines.length - commonPrefix oldLines newLines) oldLines.reverse
      newLines.reverse
  rw [List.take_reverse, List.take_reverse, List.reverse_inj] at hdrop
  change oldLines.drop (oldLines.length - commonSuffix oldLines newLines _) =
    newLines.drop (newLines.length - commonSuffix oldLines newLines _) at hdrop
  unfold diffBody
  dsimp only
  generalize commonPrefix oldLines newLines = common at hcommon htake hsuffix hdrop ⊢
  generalize commonSuffix oldLines newLines common = suffix at hsuffix hdrop ⊢
  have hle : common ≤ oldLines.length := hcommon.trans (min_le_left _ _)
  have hle' : common ≤ newLines.length := hcommon.trans (min_le_right _ _)
  have hsum : common + suffix ≤ oldLines.length := by omega
  have hsum' : common + suffix ≤ newLines.length := by omega
  refine ⟨(Nat.sub_le _ _).trans hle, ⟨oldLines.drop (min oldLines.length
    (oldLines.length - suffix + context)), ?_, ?_⟩, fun hzero => ?_, fun hzero => ?_⟩
  · -- the old lines behind the start: context, removed lines, context, and the rest
    dsimp only
    have hpost : (oldLines.take (min oldLines.length (oldLines.length - suffix + context))).drop
        (oldLines.length - suffix) ++ oldLines.drop (min oldLines.length
          (oldLines.length - suffix + context)) = oldLines.drop (oldLines.length - suffix) :=
      take_drop_append_drop _ (by omega)
    have hremoved : (oldLines.take (oldLines.length - suffix)).drop common ++
        oldLines.drop (oldLines.length - suffix) = oldLines.drop common :=
      take_drop_append_drop _ (by omega)
    rw [hpost, hremoved]
    exact (take_drop_append_drop _ (Nat.sub_le _ _)).symm
  · dsimp only
    have hpost : (oldLines.take (min oldLines.length (oldLines.length - suffix + context))).drop
        (oldLines.length - suffix) ++ oldLines.drop (min oldLines.length
          (oldLines.length - suffix + context)) = newLines.drop (newLines.length - suffix) := by
      rw [← hdrop]
      exact take_drop_append_drop _ (by omega)
    have hadded : (newLines.take (newLines.length - suffix)).drop common ++
        newLines.drop (newLines.length - suffix) = newLines.drop common :=
      take_drop_append_drop _ (by omega)
    have hpre : oldLines.take (common - context) ++ (oldLines.take common).drop (common - context) =
        newLines.take common := by
      have hsplit := List.take_append_drop (common - context) (oldLines.take common)
      rw [List.take_take, min_eq_left (Nat.sub_le _ _)] at hsplit
      rw [hsplit, htake]
    rw [hpost, hadded, ← List.append_assoc, hpre, List.take_append_drop]
  · simp only [List.length_drop, List.length_take] at hzero
    omega
  · simp only [List.length_drop, List.length_take] at hzero
    omega

lemma IsEdit.linesBefore {oldLines newLines : List (List ℕ)} {edit : ℕ × DiffBody}
    (h : IsEdit oldLines newLines edit) :
    linesBefore (diffHunk oldLines newLines edit).oldStart (diffHunk oldLines newLines edit).oldCount =
        edit.1 ∧
      linesBefore (diffHunk oldLines newLines edit).newStart
        (diffHunk oldLines newLines edit).newCount = edit.1 := by
  have hle := h.le
  obtain ⟨tail, hold, hnew⟩ := h.split
  have hlength := congrArg List.length hold
  have hlength' := congrArg List.length hnew
  have hcount := h.oldCount
  have hcount' := h.newCount
  simp only [List.length_append, List.length_drop, List.length_take] at hlength hlength'
  unfold diffHunk Codemem.linesBefore
  dsimp only
  constructor
  · split_ifs with hzero hempty hempty'
    · omega
    · exact absurd (hcount hzero) hempty
    · omega
    · omega
  · split_ifs with hzero hempty hempty'
    · omega
    · exact absurd (hcount' hzero) hempty
    · omega
    · omega

/-! ### Printing and applying -/

lemma newline_notMem_of_mem_splitOn {text line : List ℕ} (h : line ∈ text.splitOn newlineUnit) :
    newlineUnit ∉ line := by
  rw [List.splitOn_eq_splitOnP] at h
  induction text generalizing line with
  | nil =>
    rw [List.splitOnP_nil, List.mem_singleton] at h
    rw [h]
    exact List.not_mem_nil
  | cons unit text ih =>
    rw [List.splitOnP_cons_eq_if_modifyHead] at h
    split_ifs at h with hbreak
    · rcases List.mem_cons.mp h with rfl | h
      · exact List.not_mem_nil
      · exact ih h
    · cases hparts : text.splitOnP fun unit => unit == newlineUnit with
      | nil => exact absurd hparts (List.splitOnP_ne_nil _ _)
      | cons first rest =>
        rw [hparts, List.modifyHead_cons, List.mem_cons] at h
        rcases h with rfl | h
        · rw [List.mem_cons, not_or]
          exact ⟨fun heq => hbreak (by simp [heq]), ih (hparts ▸ List.mem_cons_self)⟩
        · exact ih (hparts ▸ List.mem_cons_of_mem first h)

lemma newline_notMem_of_mem_textLines {text line : List ℕ} (h : line ∈ textLines text) :
    newlineUnit ∉ line := by
  unfold textLines at h
  split_ifs at h
  · cases h
  · exact newline_notMem_of_mem_splitOn h
  · exact newline_notMem_of_mem_splitOn h

lemma newline_notMem_decimalUnits (n : ℕ) : newlineUnit ∉ decimalUnits n :=
  fun hmem => absurd ((decimalUnits_digits n).2 newlineUnit hmem) (by decide)

lemma newline_notMem_hunkHeader (hunk : DiffHunk) : newlineUnit ∉ hunkHeader hunk := by
  have hwords : newlineUnit ∉ asciiUnits "@@ -" ∧ newlineUnit ∉ asciiUnits "," ∧
      newlineUnit ∉ asciiUnits " +" ∧ newlineUnit ∉ asciiUnits " @@" := by decide
  unfold hunkHeader
  simp only [List.mem_append, not_or, newline_notMem_decimalUnits, not_false_eq_true,
    hwords, and_self]

lemma newline_notMem_diffBody_lines {oldLines newLines : List (List ℕ)} {context : ℕ}
    (hold : ∀ line ∈ oldLines, newlineUnit ∉ line) (hnew : ∀ line ∈ newLines, newlineUnit ∉ line) :
    ∀ line ∈ (diffBody oldLines newLines context).2.lines, newlineUnit ∉ line := by
  have hcons : ∀ {mark : ℕ} {lines source : List (List ℕ)}, newlineUnit ≠ mark → lines ⊆ source →
      (∀ line ∈ source, newlineUnit ∉ line) → ∀ line ∈ lines.map (List.cons mark),
        newlineUnit ∉ line := by
    intro mark lines source hmark hsub hsource line hline
    obtain ⟨text, htext, rfl⟩ := List.mem_map.mp hline
    rw [List.mem_cons, not_or]
    exact ⟨hmark, hsource text (hsub htext)⟩
  have hpart : ∀ (lines : List (List ℕ)) (start stop : ℕ), (lines.take stop).drop start ⊆ lines :=
    fun lines start stop line hline => List.mem_of_mem_take (List.mem_of_mem_drop hline)
  intro line hline
  unfold DiffBody.lines at hline
  rw [List.mem_append, List.mem_append, List.mem_append] at hline
  rcases hline with h | h | h | h
  · exact hcons (by decide) (hpart _ _ _) hold line h
  · exact hcons (by decide) (hpart _ _ _) hold line h
  · exact hcons (by decide) (hpart _ _ _) hnew line h
  · exact hcons (by decide) (hpart _ _ _) hold line h

/-- Applying the printed diff of two texts to the old lines gives the new ones. -/
lemma applyUnifiedDiff_renderUnifiedDiff {displayPath : List ℕ} (hpath : newlineUnit ∉ displayPath)
    (oldText newText : List ℕ) {context : ℕ} (hcontext : 0 < context) :
    applyUnifiedDiff (renderUnifiedDiff displayPath oldText newText context) (textLines oldText) =
      some (textLines newText) := by
  unfold renderUnifiedDiff
  by_cases hsame : oldText = newText
  · rw [if_pos hsame, hsame]
    rfl
  · rw [if_neg hsame]
    dsimp only
    have hlines := @newline_notMem_diffBody_lines (textLines oldText) (textLines newText) context
      (fun _ h => newline_notMem_of_mem_textLines h) fun _ h => newline_notMem_of_mem_textLines h
    have hedit := isEdit_diffBody (textLines oldText) (textLines newText) hcontext
    generalize diffBody (textLines oldText) (textLines newText) context = edit at hlines hedit ⊢
    have hfirst : newlineUnit ∉ asciiUnits "--- " ++
        (if oldText.isEmpty then asciiUnits "/dev/null" else asciiUnits "a/" ++ displayPath) := by
      rw [List.mem_append, not_or]
      refine ⟨by decide, ?_⟩
      split_ifs
      · decide
      · rw [List.mem_append, not_or]
        exact ⟨by decide, hpath⟩
    have hsecond : newlineUnit ∉ asciiUnits "+++ b/" ++ displayPath := by
      rw [List.mem_append, not_or]
      exact ⟨by decide, hpath⟩
    have hstart : (asciiUnits "--- ").isPrefixOf (asciiUnits "--- " ++
          (if oldText.isEmpty then asciiUnits "/dev/null" else asciiUnits "a/" ++ displayPath)) = true ∧
        (asciiUnits "+++ ").isPrefixOf (asciiUnits "+++ b/" ++ displayPath) = true := by
      refine ⟨List.isPrefixOf_iff_prefix.mpr (List.prefix_append _ _),
        List.isPrefixOf_iff_prefix.mpr ⟨asciiUnits "b/" ++ displayPath, ?_⟩⟩
      exact (List.append_assoc _ _ _).symm
    generalize asciiUnits "--- " ++ (if oldText.isEmpty then asciiUnits "/dev/null"
      else asciiUnits "a/" ++ displayPath) = first at hfirst hstart
    generalize asciiUnits "+++ b/" ++ displayPath = second at hsecond hstart
    have hall : ∀ line ∈ first :: second ::
        hunkHeader (diffHunk (textLines oldText) (textLines newText) edit) :: edit.2.lines,
        newlineUnit ∉ line := by
      simp only [List.forall_mem_cons]
      exact ⟨hfirst, hsecond, newline_notMem_hunkHeader _, hlines⟩
    have hsplit := List.splitOn_intercalate newlineUnit hall (List.cons_ne_nil _ _)
    obtain ⟨tail, hold, hnew⟩ := hedit.split
    obtain ⟨hbefore, hbefore'⟩ := hedit.linesBefore
    unfold applyUnifiedDiff
    rw [if_neg (by simp), hsplit]
    dsimp only
    rw [if_pos hstart, readHunkHeader_hunkHeader, Option.bind_some, hbefore, hbefore', hold,
      applyBody_lines, Option.bind_some]
    dsimp only
    rw [if_pos, hnew]
    · simp only [List.append_assoc]
    · refine ⟨hedit.le, rfl, ?_, ?_⟩
      · unfold diffHunk
        simp only [List.length_append]
        omega
      · unfold diffHunk
        simp only [List.length_append]
        omega

/-! ### The laws of distilled edits -/

/-- For a sanitized rule the laws of an application hold exactly when the rule has no end marker and
the text either has none or has its first begin marker before it; the printed diff of any two texts
turns the old lines into the new ones. -/
theorem distilledEdits_lawful {source rule : List ℕ} (hrule : sanitizeRuleLine source = some rule)
    (text : List ℕ) :
    (LawfulApply text rule ↔ ¬distillBlockEnd <:+: rule ∧
      (¬distillBlockEnd <:+: text ∨ ∃ beginIdx endIdx,
        indexOf distillBlockBegin text = some beginIdx ∧
          indexOf distillBlockEnd text = some endIdx ∧ beginIdx < endIdx)) ∧
    ∀ displayPath oldText newText, newlineUnit ∉ displayPath →
      applyUnifiedDiff (renderUnifiedDiff displayPath oldText newText 3) (textLines oldText) =
        some (textLines newText) := by
  refine ⟨?_, fun displayPath oldText newText hpath =>
    applyUnifiedDiff_renderUnifiedDiff hpath oldText newText (by decide)⟩
  rw [lawfulApply_iff (isLine_of_sanitizeRuleLine hrule)]
  refine and_congr_right fun _ => or_congr_right ?_
  unfold locateBlock
  cases hbegin : indexOf distillBlockBegin text with
  | none => simp
  | some beginIdx =>
    cases hend : indexOf distillBlockEnd text with
    | none => simp
    | some endIdx => simp

/-- A file whose end marker has lost its begin marker. -/
def strayEndMarker : List ℕ := asciiUnits "# Notes" ++ [newlineUnit] ++ distillBlockEnd

/-- Every application appends the rule again. -/
theorem strayEndMarker_repeats :
    sanitizeRuleLine (asciiUnits "- Pin Node") = some (asciiUnits "Pin Node") ∧
    (applyDistillRule (applyDistillRule strayEndMarker (asciiUnits "Pin Node")).text
      (asciiUnits "Pin Node")).changed = true ∧
    ¬LawfulApply strayEndMarker (asciiUnits "Pin Node") := by
  have hsanitized : sanitizeRuleLine (asciiUnits "- Pin Node") = some (asciiUnits "Pin Node") := by
    decide
  have hchanged : (applyDistillRule (applyDistillRule strayEndMarker (asciiUnits "Pin Node")).text
      (asciiUnits "Pin Node")).changed = true := by decide
  refine ⟨hsanitized, hchanged, fun h => ?_⟩
  exact text_ne_of_changed (isLine_of_sanitizeRuleLine hsanitized) hchanged h.idempotent

/-- A file without markers gets the rule once. -/
theorem distilledEdits_lawful_plain : LawfulApply (asciiUnits "# Notes") (asciiUnits "Pin Node") := by
  refine (@distilledEdits_lawful (asciiUnits "- Pin Node") _ (by decide)
    (asciiUnits "# Notes")).1.mpr ⟨by decide, .inl (by decide)⟩

end Codemem
