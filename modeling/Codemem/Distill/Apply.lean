import Codemem.Embeddings.Chunks
import Codemem.Foundation.Occurrence

/-!
# Distilled rules in a context file

`sanitizeRuleLine` makes one line of a model's answer, and `applyDistillRule` puts it into the managed
block of a context file.  The block is what stands between the first begin marker and the first end
marker of the file, when they stand in that order; otherwise a new block is appended.
-/

namespace Codemem

def asciiUnits (text : String) : List ℕ := text.toList.map Char.toNat

/-- `DISTILL_BLOCK_BEGIN`. -/
def distillBlockBegin : List ℕ := asciiUnits "<!-- codemem:distilled:begin -->"

/-- `DISTILL_BLOCK_END`. -/
def distillBlockEnd : List ℕ := asciiUnits "<!-- codemem:distilled:end -->"

/-- `DISTILL_LESSONS_HEADING`. -/
def distillLessonsHeading : List ℕ := asciiUnits "## Distilled lessons"

/-- The scan of `text.split(/\r?\n/)`. -/
def splitLines (current : List ℕ) : List ℕ → List (List ℕ)
  | [] => [current]
  | 13 :: 10 :: rest => current :: splitLines [] rest
  | unit :: rest =>
    if unit = newlineUnit then current :: splitLines [] rest
    else splitLines (current ++ [unit]) rest

/-- `text.split(/\r?\n/).map((line) => line.trim()).filter((line) => line.length > 0)`. -/
def trimmedLines (text : List ℕ) : List (List ℕ) := trimmedParts (splitLines [] text)

/-! ### The rule -/

/-- `text.replace(/\s+/g, " ")`, given whether a blank was just written. -/
def collapseSpaceUnits (afterSpace : Bool) : List ℕ → List ℕ
  | [] => []
  | unit :: rest =>
    if isSpaceUnit unit then
      if afterSpace then collapseSpaceUnits true rest else 32 :: collapseSpaceUnits true rest
    else unit :: collapseSpaceUnits false rest

/-- `text.replace(/^[-*+]\s+/, "")`. -/
def stripBullet (text : List ℕ) : List ℕ :=
  match text with
  | 42 :: rest | 43 :: rest | 45 :: rest =>
    if rest.head?.any isSpaceUnit then rest.dropWhile isSpaceUnit else text
  | _ => text

/-- `text.replace(/^\d+[.)]\s+/, "")`. -/
def stripNumber (text : List ℕ) : List ℕ :=
  let isDigit := fun unit => decide (48 ≤ unit ∧ unit ≤ 57)
  match text.dropWhile isDigit with
  | 46 :: rest | 41 :: rest =>
    if text.head?.any isDigit && rest.head?.any isSpaceUnit then rest.dropWhile isSpaceUnit else text
  | _ => text

/-- `text.replace(/^["'`]+|["'`]+$/g, "")`. -/
def stripQuotes (text : List ℕ) : List ℕ :=
  let isQuote := fun unit => unit == 34 || unit == 39 || unit == 96
  (text.dropWhile isQuote).rdropWhile isQuote

/-- `rule.toUpperCase() === "SKIP"`: the letters whose capital is one of these. -/
def isSkip (rule : List ℕ) : Bool :=
  match rule with
  | [s, k, i, p] => (s == 83 || s == 115 || s == 0x17f) && (k == 75 || k == 107) &&
      (i == 73 || i == 105 || i == 0x131) && (p == 80 || p == 112)
  | _ => false

def sanitizeRuleLine (text : List ℕ) : Option (List ℕ) :=
  match (trimmedLines text).head? with
  | none => none
  | some firstLine =>
    let rule := trimUnits (collapseSpaceUnits false (stripQuotes (stripNumber (stripBullet firstLine))))
    if rule.isEmpty || isSkip rule then none
    else if 200 < rule.length then some ((rule.take 199).rdropWhile isSpaceUnit ++ [0x2026])
    else some rule

/-! ### The block -/

/-- The text up to the end of the begin marker, inside the block, and from the end marker on. -/
def locateBlock (text : List ℕ) : Option (List ℕ × List ℕ × List ℕ) :=
  match indexOf distillBlockBegin text, indexOf distillBlockEnd text with
  | some beginIdx, some endIdx =>
    if beginIdx < endIdx then
      some (text.take (beginIdx + distillBlockBegin.length),
        (text.take endIdx).drop (beginIdx + distillBlockBegin.length), text.drop endIdx)
    else none
  | _, _ => none

structure DistillApplyResult where
  text : List ℕ
  changed : Bool
  deriving DecidableEq

def ruleBullet (rule : List ℕ) : List ℕ := 45 :: 32 :: rule

def managedBlock (rule : List ℕ) : List ℕ :=
  distillLessonsHeading ++ [newlineUnit, newlineUnit] ++ distillBlockBegin ++ [newlineUnit] ++
    ruleBullet rule ++ [newlineUnit] ++ distillBlockEnd ++ [newlineUnit]

def applyDistillRule (existing rule : List ℕ) : DistillApplyResult :=
  match locateBlock existing with
  | some (before, inner, after) =>
    let bullets := trimmedLines inner
    if bullets.contains (ruleBullet rule) then ⟨existing, false⟩
    else
      let rebuilt := newlineUnit :: joinUnits [newlineUnit] (bullets ++ [ruleBullet rule]) ++
        [newlineUnit]
      ⟨before ++ rebuilt ++ after, true⟩
  | none =>
    let trimmed := existing.rdropWhile isSpaceUnit
    if trimmed.isEmpty then ⟨managedBlock rule, true⟩
    else ⟨trimmed ++ [newlineUnit, newlineUnit] ++ managedBlock rule, true⟩

end Codemem
