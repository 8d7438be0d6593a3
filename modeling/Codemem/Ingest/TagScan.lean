import Codemem.Foundation.Occurrence
import Codemem.Foundation.Units

/-!
# Scanning observer output for tags

The scanner of observer responses reads a text forward once.  It searches an opening tag behind the
last one and keeps the last bracket it found, it takes a block up to the first closing tag and goes
on behind it, and it computes the quote-aware ends of all requested tags in one pass backward.

Texts are lists of UTF-16 code units.
-/

namespace Codemem

/-- `source.indexOf(marker, cursor)`. -/
def indexOfFrom (marker text : List ℕ) (cursor : ℕ) : Option ℕ :=
  (indexOf marker (text.drop cursor)).map (cursor + ·)

/-- The units of an ASCII text. -/
def unitsOf (s : String) : List ℕ := s.toList.map Char.toNat

structure XmlOpening where
  index : ℕ
  stop : ℕ
  deriving DecidableEq, Repr

structure TagOptions where
  caseSensitive : Bool
  anySuffix : Bool

structure TagBlock where
  index : ℕ
  value : List ℕ
  deriving DecidableEq, Repr

/-- `foldTagCase`: ASCII letters in lower case, which keeps the offsets. -/
def foldTagCase (raw : List ℕ) : List ℕ :=
  raw.map fun unit => if 65 ≤ unit ∧ unit ≤ 90 then unit + 32 else unit

/-- The text that tags are searched in. -/
def TagOptions.source (options : TagOptions) (raw : List ℕ) : List ℕ :=
  if options.caseSensitive then raw else foldTagCase raw

/-! ### Openings -/

/-- `/[\s/>]/.test(source[cursor] ?? "")`. -/
def endsTagName (unit : Option ℕ) : Bool := unit.any fun u => isSpaceUnit u || u == 47 || u == 62

/-- The loop of `tagOpenings` from a cursor on, with the last bracket. -/
def openingsLoop (source needle : List ℕ) (anySuffix : Bool) : ℕ → ℕ → Option ℕ → List XmlOpening
  | 0, _, _ => []
  | fuel + 1, cursor, bracket =>
    if source.length ≤ cursor then []
    else
      match indexOfFrom needle source cursor with
      | none => []
      | some index =>
        let cursor := index + needle.length
        if !anySuffix && !endsTagName source[cursor]? then
          openingsLoop source needle anySuffix fuel cursor bracket
        else
          match (bracket.filter (cursor ≤ ·)).or (indexOfFrom [62] source cursor) with
          | none => []
          | some bracket =>
            ⟨index, bracket + 1⟩ :: openingsLoop source needle anySuffix fuel cursor (some bracket)

/-- `tagOpenings(raw, tag, options)`; the cursor moves in every turn. -/
def tagOpenings (raw tag : List ℕ) (options : TagOptions) : List XmlOpening :=
  let source := options.source raw
  openingsLoop source (60 :: tag) options.anySuffix source.length 0 none

/-! ### Blocks -/

/-- `</tag>`. -/
def closingTag (tag : List ℕ) : List ℕ := 60 :: 47 :: (tag ++ [62])

/-- The loop of `completeTagBlocks` over the openings that are left. -/
def blocksLoop (raw source closing : List ℕ) : ℕ → List XmlOpening → List TagBlock
  | _, [] => []
  | cursor, opening :: openings =>
    if opening.index < cursor then blocksLoop raw source closing cursor openings
    else
      match indexOfFrom closing source opening.stop with
      | none => []
      | some stop =>
        let cursor := stop + closing.length
        ⟨opening.index, (raw.take cursor).drop opening.index⟩ ::
          blocksLoop raw source closing cursor openings

def completeTagBlocks (raw tag : List ℕ) (options : TagOptions) : List TagBlock :=
  blocksLoop raw (options.source raw) (closingTag tag) 0 (tagOpenings raw tag options)

/-! ### Quote-aware ends -/

/-- The ends that a scan from the current index would find outside quotes, inside single and inside
double quotes, and the first bracket. -/
structure QuoteScan where
  unquoted : Option ℕ
  singleQuoted : Option ℕ
  doubleQuoted : Option ℕ
  bracket : Option ℕ

/-- One turn of the loop of `openingTagEnds`. -/
def QuoteScan.step (scan : QuoteScan) (index character : ℕ) : QuoteScan :=
  if character = 62 then { scan with bracket := some index, unquoted := some index }
  else if character = 39 then
    { scan with unquoted := scan.singleQuoted, singleQuoted := scan.unquoted }
  else if character = 34 then
    { scan with unquoted := scan.doubleQuoted, doubleQuoted := scan.unquoted }
  else scan

/-- The loop of `openingTagEnds` over the text behind an index, from its end backward. -/
def endsLoop (requested : List ℕ) : ℕ → List ℕ → QuoteScan × List (ℕ × Option ℕ)
  | _, [] => (⟨none, none, none, none⟩, [])
  | index, character :: text =>
    let (scan, ends) := endsLoop requested (index + 1) text
    let scan := scan.step index character
    (scan, if requested.contains index then ends ++ [(index, scan.unquoted.or scan.bracket)]
      else ends)

/-- `openingTagEnds(raw, starts)`: the entries of the map in the order they are set. -/
def openingTagEnds (raw starts : List ℕ) : List (ℕ × Option ℕ) := (endsLoop starts 0 raw).2

end Codemem
