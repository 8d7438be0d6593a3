import Codemem.Foundation.Units

/-!
# Chunks of a text

`chunkText` packs paragraphs into chunks, splits a paragraph that is too long into sentences and cuts
a sentence that is too long into slices.  Its two buffers carry a length that is an upper bound of
what they are joined to, so no chunk is too long; and splitting, trimming and joining touch nothing
but whitespace, so the chunks have the visible units of the text in order.
-/

namespace Codemem

/-- The code unit of a line break. -/
def newlineUnit : ℕ := 10

/-- The code units of `[.!?]`. -/
def isStopUnit (unit : ℕ) : Bool := unit == 46 || unit == 33 || unit == 63

/-- The scan of `text.split(/\n{2,}/)`: a run of at least two line breaks ends a part. -/
def splitBlankLines (inBreak : Bool) (current : List ℕ) : List ℕ → List (List ℕ)
  | [] => [current]
  | unit :: rest =>
    if unit = newlineUnit ∧ inBreak then splitBlankLines true current rest
    else if unit = newlineUnit ∧ rest.head? = some newlineUnit then
      current :: splitBlankLines true [] rest
    else splitBlankLines false (current ++ [unit]) rest

/-- The scan of `text.split(/(?<=[.!?])\s+/)`: a run of whitespace after a stop ends a part. -/
def splitSentences (afterStop inGap : Bool) (current : List ℕ) : List ℕ → List (List ℕ)
  | [] => [current]
  | unit :: rest =>
    if isSpaceUnit unit ∧ inGap then splitSentences false true current rest
    else if isSpaceUnit unit ∧ afterStop then current :: splitSentences false true [] rest
    else splitSentences (isStopUnit unit) false (current ++ [unit]) rest

/-- `.map((part) => part.trim()).filter(Boolean)`. -/
def trimmedParts (parts : List (List ℕ)) : List (List ℕ) :=
  (parts.map trimUnits).filter fun part => !part.isEmpty

/-- A buffer that is not empty becomes a chunk. -/
def flushBuffer (separator : List ℕ) (buffer : List (List ℕ)) : List (List ℕ) :=
  if buffer.isEmpty then [] else [joinUnits separator buffer]

/-- The loop over the sentences of a long paragraph, with its buffer. -/
def chunkSentences (maxChars : ℕ) (sentBuf : List (List ℕ)) (sentLen : ℕ) :
    List (List ℕ) → List (List ℕ)
  | [] => flushBuffer [32] sentBuf
  | sentence :: sentences =>
    if maxChars < sentence.length then
      flushBuffer [32] sentBuf ++ slicesOf maxChars sentence ++
        chunkSentences maxChars [] 0 sentences
    else if sentLen + sentence.length + 1 ≤ maxChars then
      chunkSentences maxChars (sentBuf ++ [sentence]) (sentLen + sentence.length + 1) sentences
    else flushBuffer [32] sentBuf ++ chunkSentences maxChars [sentence] sentence.length sentences

/-- The loop over the paragraphs, with its buffer. -/
def chunkParagraphs (maxChars : ℕ) (buffer : List (List ℕ)) (bufferLen : ℕ) :
    List (List ℕ) → List (List ℕ)
  | [] => flushBuffer [newlineUnit, newlineUnit] buffer
  | paragraph :: paragraphs =>
    if bufferLen + paragraph.length + 2 ≤ maxChars then
      chunkParagraphs maxChars (buffer ++ [paragraph]) (bufferLen + (paragraph.length + 2))
        paragraphs
    else
      flushBuffer [newlineUnit, newlineUnit] buffer ++
        (if paragraph.length ≤ maxChars then [paragraph]
        else chunkSentences maxChars [] 0 (trimmedParts (splitSentences false false [] paragraph)))
          ++ chunkParagraphs maxChars [] 0 paragraphs

def chunkText (text : List ℕ) (maxChars : ℕ) : List (List ℕ) :=
  let cleaned := trimUnits text
  if cleaned.isEmpty then []
  else if cleaned.length ≤ maxChars then [cleaned]
  else chunkParagraphs maxChars [] 0 (trimmedParts (splitBlankLines false [] cleaned))

/-! ### Splitting -/

section Splitting

lemma visible_splitBlankLines (inBreak : Bool) (current text : List ℕ) :
    visible (splitBlankLines inBreak current text).flatten = visible (current ++ text) := by
  have hnewline : visible [newlineUnit] = [] := rfl
  induction text generalizing inBreak current with
  | nil => simp [splitBlankLines]
  | cons unit rest ih =>
    have hcons : visible (unit :: rest) = visible [unit] ++ visible rest := visible_append [unit] rest
    unfold splitBlankLines
    split_ifs with hbreak hstart
    · rw [ih, visible_append, visible_append, hcons, hbreak.1, hnewline, List.nil_append]
    · rw [List.flatten_cons, visible_append, ih, List.nil_append, visible_append, hcons, hstart.1,
        hnewline, List.nil_append]
    · rw [ih, visible_append, visible_append, visible_append, hcons, List.append_assoc]

lemma visible_splitSentences (afterStop inGap : Bool) (current text : List ℕ) :
    visible (splitSentences afterStop inGap current text).flatten = visible (current ++ text) := by
  induction text generalizing afterStop inGap current with
  | nil => simp [splitSentences]
  | cons unit rest ih =>
    have hcons : visible (unit :: rest) = visible [unit] ++ visible rest := visible_append [unit] rest
    have hspace : isSpaceUnit unit = true → visible [unit] = [] := fun h =>
      visible_eq_nil fun other hother => List.mem_singleton.mp hother ▸ h
    unfold splitSentences
    split_ifs with hgap hstart
    · rw [ih, visible_append, visible_append, hcons, hspace hgap.1, List.nil_append]
    · rw [List.flatten_cons, visible_append, ih, List.nil_append, visible_append, hcons,
        hspace hstart.1, List.nil_append]
    · rw [ih, visible_append, visible_append, visible_append, hcons, List.append_assoc]

lemma visible_trimmedParts (parts : List (List ℕ)) :
    visible (trimmedParts parts).flatten = visible parts.flatten := by
  induction parts with
  | nil => rfl
  | cons part parts ih =>
    unfold trimmedParts at ih ⊢
    rw [List.map_cons, List.filter_cons, List.flatten_cons, visible_append, ← visible_trimUnits part,
      ← ih]
    split_ifs with hpart
    · rw [List.flatten_cons, visible_append]
    · have hempty : trimUnits part = [] := by simpa using hpart
      rw [hempty]
      rfl

lemma ne_nil_of_mem_trimmedParts {parts : List (List ℕ)} {part : List ℕ}
    (h : part ∈ trimmedParts parts) : part ≠ [] := by
  have hpart := (List.mem_filter.mp h).2
  simpa using hpart

end Splitting

/-! ### Buffers -/

section Buffers

variable {maxChars : ℕ}

/-- A buffer has texts and a length that bounds their join. -/
structure BufferWithin (separator : List ℕ) (maxChars : ℕ) (buffer : List (List ℕ))
    (length : ℕ) : Prop where
  nonempty : ∀ text ∈ buffer, text ≠ []
  join_le : (joinUnits separator buffer).length ≤ length
  length_le : length ≤ maxChars

lemma BufferWithin.empty (separator : List ℕ) (maxChars : ℕ) :
    BufferWithin separator maxChars [] 0 :=
  ⟨fun _ h => absurd h List.not_mem_nil, le_rfl, Nat.zero_le _⟩

lemma BufferWithin.add {separator : List ℕ} {buffer : List (List ℕ)} {length : ℕ}
    (h : BufferWithin separator maxChars buffer length) {text : List ℕ} (hne : text ≠ [])
    (hfits : length + separator.length + text.length ≤ maxChars) :
    BufferWithin separator maxChars (buffer ++ [text])
      (length + separator.length + text.length) where
  nonempty := fun other hother => by
    rcases List.mem_append.mp hother with hother | hother
    · exact h.nonempty other hother
    · rw [List.mem_singleton.mp hother]
      exact hne
  join_le := by
    have hjoin := length_joinUnits_append_le separator buffer text
    have hle := h.join_le
    omega
  length_le := hfits

lemma BufferWithin.single (separator : List ℕ) {text : List ℕ} (hne : text ≠ [])
    (hle : text.length ≤ maxChars) : BufferWithin separator maxChars [text] text.length where
  nonempty := fun other hother => by
    rw [List.mem_singleton.mp hother]
    exact hne
  join_le := le_rfl
  length_le := hle

lemma BufferWithin.flush_bounds {separator : List ℕ} {buffer : List (List ℕ)} {length : ℕ}
    (h : BufferWithin separator maxChars buffer length) {chunk : List ℕ}
    (hchunk : chunk ∈ flushBuffer separator buffer) : chunk ≠ [] ∧ chunk.length ≤ maxChars := by
  unfold flushBuffer at hchunk
  split_ifs at hchunk with hempty
  · cases hchunk
  · rw [List.mem_singleton.mp hchunk]
    exact ⟨joinUnits_ne_nil (fun hnil => hempty (List.isEmpty_iff.mpr hnil)) h.nonempty,
      h.join_le.trans h.length_le⟩

lemma visible_flushBuffer {separator : List ℕ} (hseparator : visible separator = [])
    (buffer : List (List ℕ)) :
    visible (flushBuffer separator buffer).flatten = visible buffer.flatten := by
  unfold flushBuffer
  split_ifs with hempty
  · rw [List.isEmpty_iff.mp hempty]
  · rw [List.flatten_singleton, visible_joinUnits hseparator]

/-! ### The loops -/

lemma chunkSentences_bounds (hmax : 0 < maxChars) {sentences sentBuf : List (List ℕ)} {sentLen : ℕ}
    (hbuffer : BufferWithin [32] maxChars sentBuf sentLen)
    (hsentences : ∀ sentence ∈ sentences, sentence ≠ []) {chunk : List ℕ}
    (hchunk : chunk ∈ chunkSentences maxChars sentBuf sentLen sentences) :
    chunk ≠ [] ∧ chunk.length ≤ maxChars := by
  induction sentences generalizing sentBuf sentLen with
  | nil => exact hbuffer.flush_bounds hchunk
  | cons sentence sentences ih =>
    have hsentence := hsentences sentence List.mem_cons_self
    have hrest := fun s hs => hsentences s (List.mem_cons_of_mem _ hs)
    unfold chunkSentences at hchunk
    split_ifs at hchunk with hlong hfits
    · rcases List.mem_append.mp hchunk with hchunk | hchunk
      · rcases List.mem_append.mp hchunk with hchunk | hchunk
        · exact hbuffer.flush_bounds hchunk
        · exact slicesFrom_bounds hmax hchunk
      · exact ih (.empty _ _) hrest hchunk
    · have hadd := hbuffer.add hsentence (show sentLen + 1 + sentence.length ≤ maxChars by omega)
      rw [Nat.add_right_comm] at hchunk
      exact ih hadd hrest hchunk
    · rcases List.mem_append.mp hchunk with hchunk | hchunk
      · exact hbuffer.flush_bounds hchunk
      · exact ih (.single _ hsentence (not_lt.mp hlong)) hrest hchunk

lemma visible_chunkSentences (hmax : 0 < maxChars) (sentences sentBuf : List (List ℕ))
    (sentLen : ℕ) :
    visible (chunkSentences maxChars sentBuf sentLen sentences).flatten =
      visible sentBuf.flatten ++ visible sentences.flatten := by
  have hspace : visible [32] = [] := rfl
  induction sentences generalizing sentBuf sentLen with
  | nil =>
    rw [chunkSentences, visible_flushBuffer hspace]
    exact (List.append_nil _).symm
  | cons sentence sentences ih =>
    unfold chunkSentences
    split_ifs with hlong hfits
    · rw [List.flatten_append, List.flatten_append, visible_append, visible_append, ih,
        visible_flushBuffer hspace, slicesOf, flatten_slicesFrom hmax le_rfl, List.flatten_cons,
        visible_append, List.flatten_nil, visible_nil, List.nil_append, List.append_assoc]
    · rw [ih, List.flatten_append, List.flatten_singleton, visible_append, List.flatten_cons,
        visible_append, List.append_assoc]
    · rw [List.flatten_append, visible_append, ih, visible_flushBuffer hspace,
        List.flatten_singleton, List.flatten_cons, visible_append]

lemma chunkParagraphs_bounds (hmax : 0 < maxChars) {paragraphs buffer : List (List ℕ)}
    {bufferLen : ℕ} (hbuffer : BufferWithin [newlineUnit, newlineUnit] maxChars buffer bufferLen)
    (hparagraphs : ∀ paragraph ∈ paragraphs, paragraph ≠ []) {chunk : List ℕ}
    (hchunk : chunk ∈ chunkParagraphs maxChars buffer bufferLen paragraphs) :
    chunk ≠ [] ∧ chunk.length ≤ maxChars := by
  induction paragraphs generalizing buffer bufferLen with
  | nil => exact hbuffer.flush_bounds hchunk
  | cons paragraph paragraphs ih =>
    have hparagraph := hparagraphs paragraph List.mem_cons_self
    have hrest := fun p hp => hparagraphs p (List.mem_cons_of_mem _ hp)
    unfold chunkParagraphs at hchunk
    split_ifs at hchunk with hfits hshort
    · have hadd := hbuffer.add hparagraph
        (show bufferLen + 2 + paragraph.length ≤ maxChars by omega)
      rw [Nat.add_comm paragraph.length 2, ← Nat.add_assoc] at hchunk
      exact ih hadd hrest hchunk
    all_goals
      rcases List.mem_append.mp hchunk with hchunk | hchunk
      · rcases List.mem_append.mp hchunk with hchunk | hchunk
        · exact hbuffer.flush_bounds hchunk
        · first
          | exact List.mem_singleton.mp hchunk ▸ ⟨hparagraph, hshort⟩
          | exact chunkSentences_bounds hmax (.empty _ _)
              (fun _ h => ne_nil_of_mem_trimmedParts h) hchunk
      · exact ih (.empty _ _) hrest hchunk

lemma visible_chunkParagraphs (hmax : 0 < maxChars) (paragraphs buffer : List (List ℕ))
    (bufferLen : ℕ) :
    visible (chunkParagraphs maxChars buffer bufferLen paragraphs).flatten =
      visible buffer.flatten ++ visible paragraphs.flatten := by
  have hspace : visible [newlineUnit, newlineUnit] = [] := rfl
  induction paragraphs generalizing buffer bufferLen with
  | nil =>
    rw [chunkParagraphs, visible_flushBuffer hspace]
    exact (List.append_nil _).symm
  | cons paragraph paragraphs ih =>
    unfold chunkParagraphs
    split_ifs with hfits hshort
    · rw [ih, List.flatten_append, List.flatten_singleton, visible_append, List.flatten_cons,
        visible_append, List.append_assoc]
    · rw [List.flatten_append, List.flatten_append, visible_append, visible_append, ih,
        visible_flushBuffer hspace, List.flatten_singleton, List.flatten_cons, visible_append,
        List.flatten_nil, visible_nil, List.nil_append, List.append_assoc]
    · rw [List.flatten_append, List.flatten_append, visible_append, visible_append, ih,
        visible_flushBuffer hspace, visible_chunkSentences hmax, visible_trimmedParts,
        visible_splitSentences, List.flatten_cons, visible_append paragraph]
      simp only [List.flatten_nil, visible_nil, List.nil_append, List.append_assoc]

/-- Chunks are not empty, not too long, and have the visible units of the text in order. -/
structure ChunksCover (text : List ℕ) (maxChars : ℕ) (chunks : List (List ℕ)) : Prop where
  bounded : ∀ chunk ∈ chunks, chunk ≠ [] ∧ chunk.length ≤ maxChars
  covers : visible chunks.flatten = visible text

/-- The chunks of every text cover it, for every positive size. -/
theorem chunkText_covers (text : List ℕ) (hmax : 0 < maxChars) :
    ChunksCover text maxChars (chunkText text maxChars) := by
  have hvisible := visible_trimUnits text
  unfold chunkText
  dsimp only
  split_ifs with hempty hshort
  · rw [List.isEmpty_iff.mp hempty] at hvisible
    exact ⟨fun _ h => absurd h List.not_mem_nil, hvisible⟩
  · refine ⟨fun chunk hchunk => ?_, ?_⟩
    · rw [List.mem_singleton.mp hchunk]
      exact ⟨fun hnil => hempty (List.isEmpty_iff.mpr hnil), hshort⟩
    · rw [List.flatten_singleton, hvisible]
  · refine ⟨fun chunk hchunk => chunkParagraphs_bounds hmax (.empty _ _)
      (fun _ h => ne_nil_of_mem_trimmedParts h) hchunk, ?_⟩
    rw [visible_chunkParagraphs hmax, visible_trimmedParts, visible_splitBlankLines,
      List.nil_append, hvisible]
    rfl

/-- A text of two sentences, cut at twelve units. -/
theorem chunkText_covers_sample :
    ChunksCover [65, 98, 99, 46, 32, 68, 101, 102, 32, 103, 104, 105, 46] 9
      (chunkText [65, 98, 99, 46, 32, 68, 101, 102, 32, 103, 104, 105, 46] 9) :=
  chunkText_covers _ (by decide)

end Buffers

end Codemem
