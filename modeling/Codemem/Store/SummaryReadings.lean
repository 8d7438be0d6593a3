import Codemem.Store.ProjectReadings

/-!
# Two readings of a summary

`summaryLikeSqlPredicate` says in SQL which rows are summaries, `isSummaryLikeMemory` in JavaScript:
by the kind, by a flag of the metadata or by its source.  SQL trims blanks only, reads the first
field of a repeated name and takes the text of a list with its brackets; JavaScript trims all white
space, reads the last field, and makes of a list of one element the text of that element.
-/

namespace Codemem

/-- What the database and the language make of values that are no texts.  A number has a digit, and
SQLite writes `true` and `false` as numbers and lists and objects with their brackets. -/
structure SummaryTools extends FilterTools where
  /-- `String(value)` of a number. -/
  numberText : ℚ → String
  numberText_digit : ∀ value, ∃ c ∈ (numberText value).toList, c.isDigit = true
  jsonText_mark : ∀ value, value ≠ .null → (∀ text, value ≠ .str text) →
    ∃ c ∈ (jsonText value).toList, c.isDigit = true ∨ c = '[' ∨ c = '\x7b'

variable (tools : SummaryTools)

/-! ### SQL -/

/-- `LOWER(text)`, which knows the letters of ASCII only. -/
def sqlLower (text : String) : String := String.ofList (text.toList.map Char.toLower)

/-- `json_type(metadata_json, '$.key') = 'true'`, where the text is valid; `NULL` without a field. -/
def jsonTypeIsTrue (metadata : Option JsonText) (key : String) : SqlBool :=
  match metadata with
  | some (.encoded (.obj fields)) => (JsonObject.get fields key).map fun value =>
    match value with
    | .bool true => true
    | _ => false
  | _ => none

/-- `json_valid(COALESCE(metadata_json, '')) = 1`. -/
def jsonValid (metadata : Option JsonText) : Bool := (metadata.bind JsonText.parse).isSome

def summaryLikeSqlPredicate (kind : Option String) (metadata : Option JsonText) : SqlBool :=
  SqlBool.or (SqlBool.eq (some (sqlLower (sqlTrim (kind.getD "")))) (some "session_summary"))
    (if jsonValid metadata then
      SqlBool.or (some ((jsonTypeIsTrue metadata "is_summary").getD false))
        (SqlBool.eq (some (sqlLower (sqlTrim (jsonExtractText tools.toFilterTools metadata "source"))))
          (some "observer_summary"))
    else some false)

/-! ### JavaScript -/

mutual

/-- `String(value)`. -/
def jsText : Json → String
  | .null => "null"
  | .bool true => "true"
  | .bool false => "false"
  | .num value => tools.numberText value
  | .str text => text
  | .arr items => String.ofList ([','].intercalate ((jsElements items).map String.toList))
  | .obj _ => "[object Object]"

/-- The texts that `join` puts together: `null` has none. -/
def jsElements : List Json → List String
  | [] => []
  | .null :: items => "" :: jsElements items
  | item :: items => jsText item :: jsElements items

end

def isSummaryLikeMemory (kind : Option String) (metadata : Option JsonText) : Bool :=
  if toLowerCase (trim (kind.getD "")) == "session_summary" then true
  else
    let metadata := fromJson (metadata.map JsonText.parsed)
    if (match metadata.get "is_summary" with
      | some (.bool true) => true
      | _ => false) then true
    else
      toLowerCase (trim (((nonNull (metadata.get "source")).map (jsText tools)).getD "")) ==
        "observer_summary"

/-! ### When they agree -/

/-- The text is the word, up to case and the blanks at its ends. -/
def SpellsInSql (word text : String) : Prop := sqlLower (sqlTrim text) = word

/-- The text is the word, up to case and the white space at its ends. -/
def Spells (word text : String) : Prop := toLowerCase (trim text) = word

/-- The text in a list of one element, in a list of one such list, and so on. -/
def wrappedText : Json → Option String
  | .str text => some text
  | .arr [item] => wrappedText item
  | _ => none

/-- The fields of the metadata in the order in which they are written. -/
def writtenFields : Option JsonText → JsonObject
  | some (.encoded (.obj fields)) => fields
  | _ => []

/-- The first field that is named `is_summary` is true, or the first that is named `source` is the
source of the observer's summaries. -/
def MarkedFirst (fields : JsonObject) : Prop :=
  fields.get "is_summary" = some (.bool true) ∨
    ∃ text, fields.get "source" = some (.str text) ∧ SpellsInSql "observer_summary" text

/-- The last field that is named `is_summary` is true, or the last that is named `source` is the
source of the observer's summaries, perhaps in a list. -/
def MarkedLast (fields : JsonObject) : Prop :=
  JsonObject.get (lastFields fields) "is_summary" = some (.bool true) ∨
    ∃ value text, JsonObject.get (lastFields fields) "source" = some value ∧
      wrappedText value = some text ∧ Spells "observer_summary" text

/-- The kind is a summary's up to blanks; or it is one with other white space and the first fields
mark a summary; or it is none and the first and the last fields mark a summary alike. -/
def SummaryReadsAlike (kind : Option String) (metadata : Option JsonText) : Prop :=
  SpellsInSql "session_summary" (kind.getD "") ∨
    (Spells "session_summary" (kind.getD "") ∧ MarkedFirst (writtenFields metadata)) ∨
    (¬Spells "session_summary" (kind.getD "") ∧
      (MarkedFirst (writtenFields metadata) ↔ MarkedLast (writtenFields metadata)))

/-! ### Words -/

lemma mem_dropWhile_of_not {α : Type} {p : α → Bool} {x : α} {xs : List α} (hmem : x ∈ xs)
    (hx : p x = false) : x ∈ xs.dropWhile p := by
  rw [← List.takeWhile_append_dropWhile (p := p) (l := xs)] at hmem
  refine (List.mem_append.mp hmem).resolve_left fun htake => ?_
  rw [List.mem_takeWhile_imp htake] at hx
  cases hx

lemma mem_trim {c : Char} {text : String} (hmem : c ∈ text.toList) (hc : isTrimSpace c = false) :
    c ∈ (trim text).toList := by
  rw [trim, String.toList_ofList, trimChars, List.mem_reverse]
  exact mem_dropWhile_of_not (List.mem_reverse.mpr (mem_dropWhile_of_not hmem hc)) hc

def summaryWords : List String := ["session_summary", "observer_summary"]

lemma isLower_of_mem_summaryWords {word : String} (hword : word ∈ summaryWords) {c : Char}
    (hc : c ∈ word.toList) : c.isLower = true ∨ c = '_' := by
  have hall : ∀ chars ∈ summaryWords.map String.toList, ∀ c ∈ chars, c.isLower = true ∨ c = '_' := by
    simp [summaryWords]
  exact hall _ (List.mem_map_of_mem hword) c hc

lemma toLower_mem_of_spells {word text : String} (h : Spells word text) {c : Char}
    (hmem : c ∈ text.toList) (hc : isTrimSpace c = false) : c.toLower ∈ word.toList := by
  rw [← h, toLowerCase, String.toList_ofList]
  exact List.mem_map_of_mem (mem_trim hmem hc)

lemma isTrimSpace_of_letter {c : Char} (h : c.isLower = true ∨ c.isUpper = true) :
    isTrimSpace c = false := by
  have hrange : 65 ≤ c.toNat ∧ c.toNat ≤ 122 := by
    have hA : ('A'.val).toNat = 65 := rfl
    have hZ : ('Z'.val).toNat = 90 := rfl
    have ha : ('a'.val).toNat = 97 := rfl
    have hz : ('z'.val).toNat = 122 := rfl
    have hnat : c.toNat = c.val.toNat := rfl
    rcases h with h | h
    · rw [Char.isLower, Bool.and_eq_true, decide_eq_true_iff, decide_eq_true_iff, ge_iff_le,
        UInt32.le_iff_toNat_le, UInt32.le_iff_toNat_le] at h
      omega
    · rw [Char.isUpper, decide_eq_true_iff, ge_iff_le, UInt32.le_iff_toNat_le,
        UInt32.le_iff_toNat_le] at h
      omega
  unfold isTrimSpace
  simp only [Bool.or_eq_false_iff, Bool.and_eq_false_iff, decide_eq_false_iff_not,
    beq_eq_false_iff_ne]
  omega

lemma toLower_of_isTrimSpace {c : Char} (h : isTrimSpace c = true) : c.toLower = c := by
  refine (toLower_eq_iff ?_ ?_ c).mpr rfl
  · refine Bool.eq_false_of_not_eq_true fun hletter => ?_
    rw [isTrimSpace_of_letter (.inl hletter)] at h
    cases h
  · refine Bool.eq_false_of_not_eq_true fun hletter => ?_
    rw [isTrimSpace_of_letter (.inr hletter)] at h
    cases h

lemma trim_eq_self {text : String} (h : ∀ c ∈ text.toList, isTrimSpace c = false) :
    trim text = text := by
  have hdrop : ∀ cs : List Char, (∀ c ∈ cs, isTrimSpace c = false) →
      cs.dropWhile isTrimSpace = cs := by
    rintro (_ | ⟨c, cs⟩) hcs
    · rfl
    · exact List.dropWhile_cons_of_neg (Bool.eq_false_iff.mp (hcs c List.mem_cons_self))
  rw [trim, trimChars, hdrop _ h, hdrop _ fun c hc => h c (List.mem_reverse.mp hc),
    List.reverse_reverse, String.ofList_toList]

lemma spells_of_spellsInSql {word text : String} (hword : word ∈ summaryWords)
    (h : SpellsInSql word text) : Spells word text := by
  have hnone : ∀ c ∈ (sqlTrim text).toList, isTrimSpace c = false := by
    intro c hc
    refine Bool.eq_false_of_not_eq_true fun hspace => ?_
    have hmem : c.toLower ∈ word.toList := by
      rw [← h, sqlLower, String.toList_ofList]
      exact List.mem_map_of_mem hc
    rw [toLower_of_isTrimSpace hspace] at hmem
    rcases isLower_of_mem_summaryWords hword hmem with hlower | rfl
    · rw [isTrimSpace_of_letter (.inl hlower)] at hspace
      cases hspace
    · cases hspace
  rw [Spells, ← trim_sqlTrim, trim_eq_self hnone]
  exact h

lemma not_spells_of_mem {word text : String} (hword : word ∈ summaryWords) {c : Char}
    (hmem : c ∈ text.toList) (hlower : c.isLower = false) (hupper : c.isUpper = false)
    (hne : c ≠ '_') (hspace : isTrimSpace c = false) : ¬Spells word text := by
  intro h
  have hin := toLower_mem_of_spells h hmem hspace
  rw [(toLower_eq_iff hlower hupper c).mpr rfl] at hin
  rcases isLower_of_mem_summaryWords hword hin with htrue | heq
  · rw [htrue] at hlower
    cases hlower
  · exact hne heq

lemma not_spells_of_mark {word text : String} (hword : word ∈ summaryWords) {c : Char}
    (hmem : c ∈ text.toList) (hc : c.isDigit = true ∨ c = '[' ∨ c = '\x7b') :
    ¬Spells word text := by
  rcases hc with hdigit | rfl | rfl
  · have hrange : 48 ≤ c.toNat ∧ c.toNat ≤ 57 := by
      have h0 : ('0'.val).toNat = 48 := rfl
      have h9 : ('9'.val).toNat = 57 := rfl
      have hnat : c.toNat = c.val.toNat := rfl
      rw [Char.isDigit, Bool.and_eq_true, decide_eq_true_iff, decide_eq_true_iff, ge_iff_le,
        UInt32.le_iff_toNat_le, UInt32.le_iff_toNat_le] at hdigit
      omega
    have hcode : ∀ d : Char, d.toNat < 48 ∨ 57 < d.toNat → c ≠ d := by
      rintro d hd rfl
      omega
    have hletter : ∀ p : Prop, (p → 65 ≤ c.toNat) → ¬p := fun p hp h => by
      have hle := hp h
      omega
    refine not_spells_of_mem hword hmem ?_ ?_ (hcode '_' (by decide)) ?_
    · refine Bool.eq_false_of_not_eq_true (hletter _ fun hlower => ?_)
      rw [Char.isLower, Bool.and_eq_true, decide_eq_true_iff, ge_iff_le,
        UInt32.le_iff_toNat_le] at hlower
      exact le_trans (by decide) hlower.1
    · refine Bool.eq_false_of_not_eq_true (hletter _ fun hupper => ?_)
      rw [Char.isUpper, decide_eq_true_iff, ge_iff_le, UInt32.le_iff_toNat_le] at hupper
      exact le_trans (by decide) hupper.1
    · unfold isTrimSpace
      simp only [Bool.or_eq_false_iff, Bool.and_eq_false_iff, decide_eq_false_iff_not,
        beq_eq_false_iff_ne]
      omega
  · exact not_spells_of_mem hword hmem (by decide) (by decide) (by decide) (by decide)
  · exact not_spells_of_mem hword hmem (by decide) (by decide) (by decide) (by decide)

lemma not_spells_of_eq {word text : String} (hword : word ∈ summaryWords)
    (htext : toLowerCase (trim text) = text) (hne : text ∉ summaryWords) : ¬Spells word text :=
  fun h => hne ((htext.symm.trans h) ▸ hword)

/-! ### The source of the metadata -/

lemma not_spells_empty {word : String} (hword : word ∈ summaryWords) : ¬Spells word "" := by
  intro h
  rw [Spells, show toLowerCase (trim "") = "" by decide +kernel] at h
  rcases List.mem_pair.mp hword with rfl | rfl
  · exact absurd h (by decide)
  · exact absurd h (by decide)

lemma comma_mem_intercalate (first second : List Char) (rest : List (List Char)) :
    ',' ∈ [','].intercalate (first :: second :: rest) := by
  rw [List.intercalate, List.intersperse_cons_cons, List.flatten_cons, List.flatten_cons]
  exact List.mem_append_right _ (List.mem_append_left _ List.mem_cons_self)

lemma exists_jsElements_cons (item : Json) (items : List Json) :
    ∃ text, jsElements tools (item :: items) = text :: jsElements tools items := by
  cases item with
  | null => exact ⟨_, jsElements.eq_2 tools items⟩
  | _ => exact ⟨_, by rw [jsElements]; exact fun h => by cases h⟩

lemma not_spells_jsElements {word : String} (hword : word ∈ summaryWords) {items : List Json}
    (h : ∀ item, items ≠ [item]) :
    ¬Spells word (String.ofList ([','].intercalate ((jsElements tools items).map String.toList))) := by
  rcases items with _ | ⟨first, _ | ⟨second, rest⟩⟩
  · rw [jsElements]
    exact not_spells_empty hword
  · exact absurd rfl (h first)
  · obtain ⟨text, htext⟩ := exists_jsElements_cons tools first (second :: rest)
    obtain ⟨text', htext'⟩ := exists_jsElements_cons tools second rest
    refine not_spells_of_mem (c := ',') hword ?_ (by decide) (by decide) (by decide) (by decide)
    rw [String.toList_ofList, htext, htext', List.map_cons, List.map_cons]
    exact comma_mem_intercalate _ _ _

lemma spells_jsText_iff {word : String} (hword : word ∈ summaryWords) (value : Json) :
    Spells word (jsText tools value) ↔
      ∃ text, wrappedText value = some text ∧ Spells word text := by
  induction value using wrappedText.induct with
  | case1 text =>
    rw [jsText, wrappedText]
    simp
  | case2 item ih =>
    have hone : Spells word (jsText tools (.arr [item])) ↔
        item ≠ .null ∧ Spells word (jsText tools item) := by
      rw [jsText]
      by_cases hnull : item = .null
      · subst hnull
        refine ⟨fun h => absurd h (not_spells_empty hword), fun h => absurd rfl h.1⟩
      · rw [jsElements.eq_3 tools item [] hnull, jsElements, List.map_cons, List.map_nil,
          and_iff_right hnull]
        have htext : String.ofList ([','].intercalate [(jsText tools item).toList]) =
            jsText tools item := by
          rw [List.intercalate, List.intersperse_singleton, List.flatten_singleton,
            String.ofList_toList]
        rw [htext]
    rw [hone, wrappedText, ih]
    refine and_iff_right_of_imp ?_
    rintro ⟨text, htext, -⟩ rfl
    rw [wrappedText] at htext
    · cases htext
    · exact fun _ h => by cases h
    · exact fun _ h => by cases h
  | case3 value hstr harr =>
    have hnone : wrappedText value = none := by
      rw [wrappedText]
      · exact hstr
      · exact harr
    rw [hnone]
    refine iff_of_false ?_ (fun ⟨text, htext, _⟩ => by cases htext)
    cases value with
    | null =>
      rw [jsText]
      exact not_spells_of_eq hword (by decide +kernel) (by decide)
    | bool value =>
      cases value with
      | false =>
        rw [jsText]
        exact not_spells_of_eq hword (by decide +kernel) (by decide)
      | true =>
        rw [jsText]
        exact not_spells_of_eq hword (by decide +kernel) (by decide)
    | num value =>
      obtain ⟨c, hmem, hdigit⟩ := tools.numberText_digit value
      rw [jsText]
      exact not_spells_of_mark hword hmem (.inl hdigit)
    | str text => exact absurd rfl (hstr text)
    | arr items =>
      rw [jsText]
      exact not_spells_jsElements tools hword fun item hitem => harr item (hitem ▸ rfl)
    | obj fields =>
      rw [jsText]
      exact not_spells_of_mark (c := '[') hword (by decide +kernel) (.inr (.inl rfl))

lemma writtenFields_cases (metadata : Option JsonText) :
    (∃ fields, metadata = some (.encoded (.obj fields))) ∨
      writtenFields metadata = [] ∧ (∀ filterTools, jsonExtractText filterTools metadata "source" = "") ∧
        jsonTypeIsTrue metadata "is_summary" = none ∧
        fromJson (metadata.map JsonText.parsed) = [] := by
  rcases metadata with _ | ⟨raw⟩ | ⟨value⟩
  · exact .inr ⟨rfl, fun _ => rfl, rfl, rfl⟩
  · exact .inr ⟨rfl, fun _ => rfl, rfl, rfl⟩
  · cases value with
    | obj fields => exact .inl ⟨fields, rfl⟩
    | _ => exact .inr ⟨rfl, fun _ => rfl, rfl, rfl⟩

lemma not_spellsInSql_jsonText {value : Json} (hnull : value ≠ .null)
    (hstr : ∀ text, value ≠ .str text) :
    SpellsInSql "observer_summary" (tools.jsonText value) ↔
      ∃ text, some value = some (Json.str text) ∧ SpellsInSql "observer_summary" text := by
  obtain ⟨c, hmem, hc⟩ := tools.jsonText_mark value hnull hstr
  refine iff_of_false (fun h => ?_) fun ⟨text, htext, _⟩ => hstr text (Option.some.inj htext)
  exact @not_spells_of_mark "observer_summary" _ (by decide) _ hmem hc
    (spells_of_spellsInSql (by decide) h)

/-- What SQL asks of a row. -/
lemma summaryLikeSqlPredicate_iff (kind : Option String) (metadata : Option JsonText) :
    summaryLikeSqlPredicate tools kind metadata = some true ↔
      SpellsInSql "session_summary" (kind.getD "") ∨ MarkedFirst (writtenFields metadata) := by
  have hempty : ¬SpellsInSql "observer_summary" "" := fun h =>
    @not_spells_empty "observer_summary" (by decide) (spells_of_spellsInSql (by decide) h)
  have hsource : SpellsInSql "observer_summary"
        (jsonExtractText tools.toFilterTools metadata "source") ↔
      ∃ text, (writtenFields metadata).get "source" = some (.str text) ∧
        SpellsInSql "observer_summary" text := by
    rcases writtenFields_cases metadata with ⟨fields, rfl⟩ | ⟨hnil, hextract, -⟩
    · rw [writtenFields, jsonExtractText]
      rcases JsonObject.get fields "source" with _ | value
      · refine iff_of_false hempty ?_
        rintro ⟨text, htext, -⟩
        cases htext
      · cases value with
        | null =>
          refine iff_of_false hempty ?_
          rintro ⟨text, htext, -⟩
          cases htext
        | str text => simp
        | bool flag => exact not_spellsInSql_jsonText tools (by simp) (by simp)
        | num value => exact not_spellsInSql_jsonText tools (by simp) (by simp)
        | arr items => exact not_spellsInSql_jsonText tools (by simp) (by simp)
        | obj fields => exact not_spellsInSql_jsonText tools (by simp) (by simp)
    · rw [hnil, hextract tools.toFilterTools]
      refine iff_of_false hempty ?_
      rintro ⟨text, htext, -⟩
      cases htext
  have hflag : (jsonTypeIsTrue metadata "is_summary").getD false = true ↔
      (writtenFields metadata).get "is_summary" = some (.bool true) := by
    rcases writtenFields_cases metadata with ⟨fields, rfl⟩ | ⟨hnil, -, htype, -⟩
    · rw [writtenFields, jsonTypeIsTrue]
      rcases JsonObject.get fields "is_summary" with _ | value
      · simp
      · cases value with
        | bool flag => cases flag <;> simp
        | _ => simp
    · rw [hnil, htype]
      simp [JsonObject.get]
  have hmalformed : jsonValid metadata = false → ¬MarkedFirst (writtenFields metadata) := by
    rcases metadata with _ | ⟨raw⟩ | ⟨value⟩
    · simp [writtenFields, MarkedFirst, JsonObject.get]
    · simp [writtenFields, MarkedFirst, JsonObject.get]
    · exact fun h => by cases h
  rw [summaryLikeSqlPredicate, SqlBool.or_eq_true_iff, SqlBool.eq_eq_true_iff, Option.some.injEq]
  refine or_congr Iff.rfl ?_
  split_ifs with hvalid
  · rw [SqlBool.or_eq_true_iff, SqlBool.eq_eq_true_iff, Option.some.injEq, Option.some.injEq, hflag]
    exact or_congr Iff.rfl hsource
  · exact iff_of_false (by simp) (hmalformed (Bool.eq_false_of_not_eq_true hvalid))

/-- What JavaScript asks of a row. -/
lemma isSummaryLikeMemory_iff (kind : Option String) (metadata : Option JsonText) :
    isSummaryLikeMemory tools kind metadata = true ↔
      Spells "session_summary" (kind.getD "") ∨ MarkedLast (writtenFields metadata) := by
  have hfields : fromJson (metadata.map JsonText.parsed) = lastFields (writtenFields metadata) := by
    rcases writtenFields_cases metadata with ⟨fields, rfl⟩ | ⟨hnil, -, -, hjson⟩
    · rfl
    · rw [hnil, hjson]
      rfl
  have hsource : ∀ value : Option Json,
      Spells "observer_summary" (((nonNull value).map (jsText tools)).getD "") ↔
        ∃ field text, value = some field ∧ wrappedText field = some text ∧
          Spells "observer_summary" text := by
    intro value
    have hempty : ¬Spells "observer_summary" "" := not_spells_empty (by decide)
    rcases value with _ | field
    · exact iff_of_false hempty fun ⟨_, _, h, _⟩ => by cases h
    · have hfield := @spells_jsText_iff tools "observer_summary" (by decide) field
      by_cases hnull : field = .null
      · subst hnull
        refine iff_of_false hempty ?_
        rintro ⟨field, text, hfield', htext, -⟩
        obtain rfl := Option.some.inj hfield'
        rw [wrappedText] at htext
        · cases htext
        · exact fun _ h => by cases h
        · exact fun _ h => by cases h
      · rw [show nonNull (some field) = some field by cases field <;> first | rfl | simp at hnull]
        exact hfield.trans ⟨fun ⟨text, h⟩ => ⟨field, text, rfl, h⟩,
          fun ⟨_, text, heq, h⟩ => ⟨text, Option.some.inj heq ▸ h⟩⟩
  have hflag : ∀ value : Option Json,
      ((match value with
        | some (.bool true) => true
        | _ => false) = true) ↔ value = some (.bool true) := by
    rintro (_ | value)
    · simp
    · cases value with
      | bool flag => cases flag <;> simp
      | _ => simp
  unfold isSummaryLikeMemory MarkedLast
  dsimp only
  rw [hfields, ← hsource]
  generalize lastFields (writtenFields metadata) = fields
  rw [← hflag]
  simp only [Bool.if_true_left, Bool.or_eq_true, decide_eq_true_iff, beq_iff_eq, Spells]

lemma summaryReadsAlike_iff (kind : Option String) (metadata : Option JsonText) :
    (summaryLikeSqlPredicate tools kind metadata = some true ↔
      isSummaryLikeMemory tools kind metadata = true) ↔ SummaryReadsAlike kind metadata := by
  have himp := @spells_of_spellsInSql "session_summary" (kind.getD "") (by decide)
  rw [summaryLikeSqlPredicate_iff, isSummaryLikeMemory_iff, SummaryReadsAlike]
  generalize SpellsInSql "session_summary" (kind.getD "") = inSql at himp ⊢
  generalize Spells "session_summary" (kind.getD "") = inJs at himp ⊢
  generalize MarkedFirst (writtenFields metadata) = first
  generalize MarkedLast (writtenFields metadata) = last
  by_cases hsql : inSql
  · simp [hsql, himp hsql]
  · by_cases hjs : inJs
    · simp [hsql, hjs]
    · simp [hsql, hjs]

/-- SQL and JavaScript decide alike whether a row is a summary exactly when it reads alike, and
whether its project passes a filter exactly when the project reads alike. -/
theorem summaryAndProject_agree_iff (kind : Option String) (metadata : Option JsonText)
    (filter : String) (row : FilterRow) :
    ((summaryLikeSqlPredicate tools kind metadata = some true ↔
        isSummaryLikeMemory tools kind metadata = true) ↔ SummaryReadsAlike kind metadata) ∧
    ((projectFilterValue filter row = some true ↔
        projectMatchesFilter (some filter) row.project = true) ↔
      ProjectReadsAlike filter row.project) :=
  ⟨summaryReadsAlike_iff tools kind metadata, projectReadsAlike_iff filter row⟩

/-- Tools that write every number as zero. -/
def plainSummaryTools : SummaryTools where
  lowerCase := toLowerCase
  jsonText := fun _ => "[]"
  numberText := fun _ => "0"
  numberText_digit := fun _ => ⟨'0', by decide +kernel, by decide⟩
  jsonText_mark := fun _ _ _ => ⟨'[', by decide +kernel, .inr (.inl rfl)⟩

/-- A kind with a tab before it is a summary for JavaScript only, and the filter `mem` finds the
project `codemem` in SQL only. -/
theorem tabbedKind_and_suffix_disagree :
    ¬(summaryLikeSqlPredicate plainSummaryTools (some "\tsession_summary") none = some true ↔
      isSummaryLikeMemory plainSummaryTools (some "\tsession_summary") none = true) ∧
    ¬(projectFilterValue "mem" ⟨ownedItem none, some "codemem"⟩ = some true ↔
      projectMatchesFilter (some "mem")
        (FilterRow.project ⟨ownedItem none, some "codemem"⟩) = true) := by
  refine ⟨?_, ?_⟩
  · decide +kernel
  · decide +kernel

end Codemem
