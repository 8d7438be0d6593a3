import Codemem.Foundation.Utf16

/-!
# Text operations of the source

The string operations the replication code uses: `trim`, `cleanText`, the ASCII part of
`toLowerCase` (the code only compares the result with ASCII words), `startsWith`, and the cursor
text `created_at|op_id`.

Texts are sequences of Unicode characters.  JavaScript compares them by UTF-16 code units
(`jsLt`), SQLite with its `BINARY` collation by code points, which is the order of `String`.
-/

namespace Codemem

/-- The white space that `String.prototype.trim` removes. -/
def isTrimSpace (c : Char) : Bool :=
  let n := c.toNat
  (9 ≤ n && n ≤ 13) || n == 0x20 || n == 0xA0 || n == 0x1680 || (0x2000 ≤ n && n ≤ 0x200A) ||
    n == 0x2028 || n == 0x2029 || n == 0x202F || n == 0x205F || n == 0x3000 || n == 0xFEFF

/-- `value.trim()` on the characters of a text. -/
def trimChars (cs : List Char) : List Char :=
  ((cs.dropWhile isTrimSpace).reverse.dropWhile isTrimSpace).reverse

def trim (s : String) : String := String.ofList (trimChars s.toList)

/-- `cleanText`: the trimmed text, unless it is missing or blank. -/
def cleanText : Option String → Option String
  | none => none
  | some s => if (trim s).toList.isEmpty then none else some (trim s)

/-- JavaScript truthiness of an optional text. -/
def truthy (value : Option String) : Bool := value.any fun s => !s.toList.isEmpty

/-- `value.toLowerCase()`, as far as a comparison with an ASCII word can see it. -/
def toLowerCase (s : String) : String := String.ofList (s.toList.map Char.toLower)

/-- A character that a `\b` of the source takes for a part of a word. -/
def isWordChar (c : Char) : Bool := c.isAlphanum || c == '_'

/-- `value.startsWith(prefix)`. -/
def hasPrefix (start s : String) : Bool := start.toList.isPrefixOf s.toList

/-- `value.slice(n)`. -/
def sliceFrom (n : ℕ) (s : String) : String := String.ofList (s.toList.drop n)

/-- `a < b` on JavaScript strings. -/
abbrev jsLt (a b : String) : Prop := utf16Lt a b

/-! ### Trimming -/

lemma dropWhile_dropWhile {α : Type*} (p : α → Bool) (l : List α) :
    (l.dropWhile p).dropWhile p = l.dropWhile p := by
  induction l with
  | nil => rfl
  | cons a l ih =>
    by_cases h : p a
    · simp [h, ih]
    · simp [h]

lemma dropWhile_reverse_dropWhile {α : Type*} (p : α → Bool) (l : List α)
    (h : l.dropWhile p = l) :
    ((l.reverse.dropWhile p).reverse).dropWhile p = (l.reverse.dropWhile p).reverse := by
  cases l with
  | nil => rfl
  | cons a l =>
    by_cases ha : p a
    · -- the first element would have been dropped
      have hlen : (List.dropWhile p (a :: l)).length ≤ l.length := by
        simpa [ha] using (List.dropWhile_suffix (l := l) p).length_le
      rw [h] at hlen
      simp at hlen
    · have hne : (l.reverse ++ [a]).dropWhile p ≠ [] := by
        simp [List.dropWhile_eq_nil_iff, ha]
      rw [List.reverse_cons, List.dropWhile_append]
      by_cases hl : (l.reverse.dropWhile p).isEmpty = true
      · simp [hl, ha]
      · simp [hl, ha]

lemma trimChars_trimChars (cs : List Char) : trimChars (trimChars cs) = trimChars cs := by
  have h := dropWhile_reverse_dropWhile isTrimSpace (cs.dropWhile isTrimSpace)
    (dropWhile_dropWhile _ _)
  unfold trimChars
  rw [h, List.reverse_reverse, dropWhile_dropWhile]

@[simp] lemma trim_trim (s : String) : trim (trim s) = trim s := by
  simp [trim, trimChars_trimChars]

lemma trim_eq_of_cleanText {s t : String} (h : cleanText (some s) = some t) : trim s = t := by
  unfold cleanText at h
  dsimp only at h
  split_ifs at h
  exact Option.some.inj h

lemma trim_of_cleanText {v : Option String} {s : String} (h : cleanText v = some s) :
    trim s = s := by
  cases v with
  | none => simp [cleanText] at h
  | some t =>
    simp only [cleanText] at h
    split_ifs at h
    cases h
    exact trim_trim t

lemma cleanText_of_cleanText {v : Option String} {s : String} (h : cleanText v = some s) :
    cleanText (some s) = some s := by
  cases v with
  | none => simp [cleanText] at h
  | some t =>
    simp only [cleanText] at h ⊢
    split_ifs at h with ht
    cases h
    simpa using ht

@[simp] lemma cleanText_cleanText (v : Option String) : cleanText (cleanText v) = cleanText v := by
  cases h : cleanText v with
  | none => rfl
  | some s => exact cleanText_of_cleanText h

/-! ### Cursors -/

/-- `computeCursor`: the cursor text of a log position. -/
def computeCursor (createdAt opId : String) : String := createdAt ++ "|" ++ opId

/-- `parseCursor`: split a cursor text at its first bar. -/
def parseCursor (cursor : String) : Option (String × String) :=
  match cursor.toList.dropWhile (· != '|') with
  | [] => none
  | _ :: rest => some (String.ofList (cursor.toList.takeWhile (· != '|')), String.ofList rest)

/-- `normalizeCursor`: a trimmed cursor, or nothing when it is blank. -/
def normalizeCursor (value : Option String) : Option String := cleanText value

/-- Reading a cursor back gives its two parts, since no bar stands in the time stamp. -/
theorem parseCursor_computeCursor {createdAt : String} (h : '|' ∉ createdAt.toList)
    (opId : String) : parseCursor (computeCursor createdAt opId) = some (createdAt, opId) := by
  have hall : ∀ c ∈ createdAt.toList, (c != '|') = true := by
    intro c hc
    exact bne_iff_ne.mpr fun hb => h (hb ▸ hc)
  have htext : (computeCursor createdAt opId).toList = createdAt.toList ++ '|' :: opId.toList := by
    simp [computeCursor]
  have hdrop : (computeCursor createdAt opId).toList.dropWhile (· != '|') =
      '|' :: opId.toList := by
    rw [htext, List.dropWhile_append_of_pos hall]
    rfl
  have htake : (computeCursor createdAt opId).toList.takeWhile (· != '|') = createdAt.toList := by
    rw [htext, List.takeWhile_append_of_pos hall]
    simp
  unfold parseCursor
  rw [hdrop, htake]
  simp

lemma append_lt_append_iff {as bs : List Char} (h : as.length = bs.length) (xs ys : List Char) :
    as ++ xs < bs ++ ys ↔ as < bs ∨ as = bs ∧ xs < ys := by
  induction as generalizing bs with
  | nil =>
    obtain rfl := List.length_eq_zero_iff.mp h.symm
    simp
  | cons a as ih =>
    cases bs with
    | nil => cases h
    | cons b bs =>
      rw [List.cons_append, List.cons_append, List.cons_lt_cons_iff, List.cons_lt_cons_iff,
        ih (Nat.succ.inj h), List.cons.injEq]
      tauto

/-- A regular log position: the time stamp has the given width and no bar, all characters lie in
the basic plane, and no white space surrounds the cursor text. -/
structure RegularPosition (width : ℕ) (createdAt opId : String) : Prop where
  length_createdAt : createdAt.toList.length = width
  bar_notMem : '|' ∉ createdAt.toList
  basicPlane_createdAt : IsBasicPlane createdAt
  basicPlane_opId : IsBasicPlane opId
  trim_cursor : trim (computeCursor createdAt opId) = computeCursor createdAt opId

lemma RegularPosition.basicPlane_cursor {width : ℕ} {createdAt opId : String}
    (h : RegularPosition width createdAt opId) : IsBasicPlane (computeCursor createdAt opId) := by
  intro c hc
  have hbar : '|'.toNat < 0x10000 := by decide
  simp only [computeCursor, String.toList_append, List.mem_append, List.append_assoc] at hc
  rcases hc with hc | hc | hc
  · exact h.basicPlane_createdAt c hc
  · have heq : c = '|' := by simpa using hc
    exact heq ▸ hbar
  · exact h.basicPlane_opId c hc

/-- Cursor texts of regular positions of one width compare as the positions do. -/
theorem jsLt_computeCursor_iff {width : ℕ} {createdAt opId createdAt' opId' : String}
    (h : RegularPosition width createdAt opId) (h' : RegularPosition width createdAt' opId') :
    jsLt (computeCursor createdAt opId) (computeCursor createdAt' opId') ↔
      toLex (createdAt, opId) < toLex (createdAt', opId') := by
  rw [jsLt, utf16Lt_iff_lt h.basicPlane_cursor h'.basicPlane_cursor, Prod.Lex.toLex_lt_toLex]
  have hlength : createdAt.toList.length = createdAt'.toList.length :=
    h.length_createdAt.trans h'.length_createdAt.symm
  simp only [String.lt_iff_toList_lt, computeCursor, String.toList_append, List.append_assoc]
  rw [append_lt_append_iff hlength, append_lt_append_iff rfl, String.toList_inj]
  simp

lemma normalizeCursor_computeCursor {width : ℕ} {createdAt opId : String}
    (h : RegularPosition width createdAt opId) :
    normalizeCursor (some (computeCursor createdAt opId)) = some (computeCursor createdAt opId) := by
  have hne : (computeCursor createdAt opId).toList.isEmpty = false := by simp [computeCursor]
  simp [normalizeCursor, cleanText, h.trim_cursor, hne]

end Codemem
