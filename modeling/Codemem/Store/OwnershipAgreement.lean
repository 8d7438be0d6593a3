import Codemem.Store.FilterMeaning
import Codemem.Store.Mutation

/-!
# Two readings of who owns a memory

`buildOwnershipPredicate` decides ownership in JavaScript, the condition for
`ownership_scope = 'mine'` decides it in SQL.  Both take a name from a column or else from the
metadata and look it up among the names of the owner.  They differ in what they trim, in which JSON
values are names and in which field of a repeated key they see.  `ReadsAlike` says when a column and
its metadata field give both the same name.
-/

namespace Codemem

/-! ### JavaScript -/

/-- The fields that `JSON.parse` makes of an object: of a repeated key the last value stays. -/
def lastFields (fields : List (String × Json)) : JsonObject :=
  fields.foldl (fun record entry => record.set entry.1 entry.2) []

/-- `JSON.parse` on a text whose top-level keys may be repeated. -/
def JsonText.parsed : JsonText → JsonText
  | .encoded (.obj fields) => .encoded (.obj (lastFields fields))
  | text => text

def MemoryStore.buildOwnershipPredicate (ms : MemoryStore) (row : MemoryItem) : Bool :=
  ms.memoryOwnedBySelf { row with metadataJson := row.metadataJson.map JsonText.parsed }

/-- The text of a metadata field in JavaScript; only a string has one. -/
def metadataText (row : MemoryItem) (key : String) : String :=
  (((fromJson (row.metadataJson.map JsonText.parsed)).get key).bind Json.asText).getD ""

/-- `cleanStr(column) ?? cleanStr(field)`. -/
def ownerName (column : Option String) (field : String) : Option String :=
  (cleanText column).or (cleanText (some field))

/-- The names that make an actor the owner. -/
def MemoryStore.ownerActors (ms : MemoryStore) : List String :=
  ms.actorId :: ms.sameActorPeerIds.map ("legacy-sync:" ++ ·)

/-- The names that make a device the owner. -/
def MemoryStore.ownerDevices (ms : MemoryStore) : List String :=
  ms.deviceId :: ms.sameActorPeerIds

/-! ### SQL -/

def MemoryStore.ownershipFilterContext (ms : MemoryStore) (db : ScopeVisibilityDb) :
    OwnershipFilterContext where
  actorId := ms.actorId
  deviceId := ms.deviceId
  claimedDeviceIds := ms.sameActorPeerIds
  legacyActorIds := ms.sameActorPeerIds.map ("legacy-sync:" ++ ·)
  enforceScopeVisibility := true
  visibleScopeIds := some (db.resolveVisibleScopeIds ms.deviceId)
  scopeVisibilityDb := some db

/-- The value of the condition that the filter adds for `mine`. -/
def mineValue (tools : FilterTools) (context : OwnershipFilterContext) (row : FilterRow) :
    SqlBool :=
  (ownershipPredicateSql tools context).1.holds (ownershipPredicateSql tools context).2 row

/-- The value of the condition that the filter adds for `theirs`. -/
def theirsValue (tools : FilterTools) (context : OwnershipFilterContext) (row : FilterRow) :
    SqlBool :=
  (ownershipPredicateSql tools context).1.not.holds (ownershipPredicateSql tools context).2 row

/-- Both decide a row alike: as owned with `mine`, or as not owned with `theirs`. -/
def AgreesOn (tools : FilterTools) (db : ScopeVisibilityDb) (ms : MemoryStore) (row : FilterRow) :
    Prop :=
  mineValue tools (ms.ownershipFilterContext db) row =
      some (ms.buildOwnershipPredicate row.item) ∧
    theirsValue tools (ms.ownershipFilterContext db) row =
      some (!ms.buildOwnershipPredicate row.item)

/-! ### When they agree -/

/-- Only blanks stand at the ends of the text, no other white space. -/
def TrimsAlike (text : String) : Prop := trim text = sqlTrim text

/-- A column that holds more than blanks trims alike, or it is all white space and the metadata
names nobody.  Behind a column of blanks the metadata field is a string that trims to the text SQL
extracts, or it names nobody and that text has other white space at its ends. -/
def ReadsAlike (column : Option String) (extracted field : String) : Prop :=
  if (sqlTrim (column.getD "")).toList.isEmpty then
    (TrimsAlike extracted ∧ trim field = trim extracted) ∨ (¬ TrimsAlike extracted ∧ trim field = "")
  else TrimsAlike (column.getD "") ∨ (trim (column.getD "") = "" ∧ trim field = "")

/-- Both columns of a row read alike. -/
def RowReadsAlike (tools : FilterTools) (row : MemoryItem) : Prop :=
  ReadsAlike row.actorId (jsonExtractText tools row.metadataJson "actor_id")
      (metadataText row "actor_id") ∧
    ReadsAlike row.originDeviceId (jsonExtractText tools row.metadataJson "origin_device_id")
      (metadataText row "origin_device_id")

/-- The names without the white space at their ends are names too. -/
def NamesClosed (names : List String) : Prop :=
  ∀ name ∈ names, ∀ clean, cleanText (some name) = some clean → clean ∈ names

/-- The identity names its owner without white space, at least besides other spellings. -/
def MemoryStore.TrimClosed (ms : MemoryStore) : Prop :=
  NamesClosed ms.ownerActors ∧ NamesClosed ms.ownerDevices

/-! ### Two ways of trimming -/

section Trimming

variable {α : Type} {p q : α → Bool}

lemma dropWhile_dropWhile_of_imp (himp : ∀ x, p x = true → q x = true) (xs : List α) :
    (xs.dropWhile p).dropWhile q = xs.dropWhile q := by
  induction xs with
  | nil => rfl
  | cons x xs ih =>
    by_cases hp : p x = true
    · rw [List.dropWhile_cons_of_pos hp, List.dropWhile_cons_of_pos (himp x hp), ih]
    · rw [List.dropWhile_cons_of_neg hp]

lemma dropWhile_reverse_dropWhile_of_imp (himp : ∀ x, p x = true → q x = true) (xs : List α) :
    (((xs.reverse.dropWhile p).reverse).dropWhile q).reverse.dropWhile q =
      (xs.dropWhile q).reverse.dropWhile q := by
  have hsplit : xs = (xs.reverse.dropWhile p).reverse ++ (xs.reverse.takeWhile p).reverse := by
    rw [← List.reverse_append, List.takeWhile_append_dropWhile, List.reverse_reverse]
  have htail : ∀ x ∈ (xs.reverse.takeWhile p).reverse, q x = true := fun x hx =>
    himp x (List.mem_takeWhile_imp (List.mem_reverse.mp hx))
  generalize (xs.reverse.dropWhile p).reverse = kept at hsplit ⊢
  generalize (xs.reverse.takeWhile p).reverse = tail at hsplit htail
  subst hsplit
  have hdropped : tail.reverse.dropWhile q = [] :=
    List.dropWhile_eq_nil_iff.mpr fun x hx => htail x (List.mem_reverse.mp hx)
  rw [List.dropWhile_append]
  split_ifs with hkept
  · rw [List.isEmpty_iff.mp hkept, List.dropWhile_eq_nil_iff.mpr htail]
  · rw [List.reverse_append, List.dropWhile_append, hdropped, List.isEmpty_nil, if_pos rfl]

lemma dropWhile_eq_self_of_imp (himp : ∀ x, p x = true → q x = true) {xs : List α}
    (h : xs.dropWhile q = xs) : xs.dropWhile p = xs := by
  rcases xs with _ | ⟨x, xs⟩
  · rfl
  · refine List.dropWhile_cons_of_neg fun hp => ?_
    rw [List.dropWhile_cons_of_pos (himp x hp)] at h
    have hle := (List.dropWhile_suffix (l := xs) q).length_le
    rw [h, List.length_cons] at hle
    omega

end Trimming

lemma isTrimSpace_of_blank (c : Char) (h : (c == ' ') = true) : isTrimSpace c = true := by
  rw [beq_iff_eq.mp h]
  rfl

@[simp] lemma trim_sqlTrim (text : String) : trim (sqlTrim text) = trim text := by
  rw [trim, trim, sqlTrim, String.toList_ofList, trimChars, trimChars,
    dropWhile_reverse_dropWhile_of_imp isTrimSpace_of_blank,
    dropWhile_dropWhile_of_imp isTrimSpace_of_blank]

lemma sqlTrim_of_trim {text : String} (h : trim text = text) : sqlTrim text = text := by
  have hchars : trimChars text.toList = text.toList := by
    conv_rhs => rw [← h, trim, String.toList_ofList]
  have hsuffix := List.dropWhile_suffix (l := text.toList) isTrimSpace
  have hback := (List.dropWhile_suffix (l := (text.toList.dropWhile isTrimSpace).reverse)
    isTrimSpace).length_le
  have hlength := congrArg List.length hchars
  rw [trimChars, List.length_reverse] at hlength
  rw [List.length_reverse] at hback
  have hfront : text.toList.dropWhile isTrimSpace = text.toList :=
    hsuffix.eq_of_length (le_antisymm hsuffix.length_le (by omega))
  have hend : text.toList.reverse.dropWhile isTrimSpace = text.toList.reverse := by
    rw [trimChars, hfront] at hchars
    rw [← List.reverse_reverse (List.dropWhile isTrimSpace _), hchars]
  rw [sqlTrim, dropWhile_eq_self_of_imp isTrimSpace_of_blank hfront,
    dropWhile_eq_self_of_imp isTrimSpace_of_blank hend, List.reverse_reverse, String.ofList_toList]

lemma cleanText_some_iff {text name : String} :
    cleanText (some text) = some name ↔ trim text = name ∧ name ≠ "" := by
  rw [cleanText]
  split_ifs with hempty
  · have htrim : trim text = "" := String.toList_eq_nil_iff.mp (List.isEmpty_iff.mp hempty)
    rw [htrim]
    exact ⟨fun h => (by cases h), fun h => absurd h.1.symm h.2⟩
  · rw [Option.some.injEq]
    refine ⟨fun h => ⟨h, fun hname => hempty ?_⟩, fun h => h.1⟩
    rw [h, hname]
    rfl

lemma sqlTrim_eq_iff {text name : String} (hname : cleanText (some name) = some name) :
    sqlTrim text = name ↔ TrimsAlike text ∧ trim text = name := by
  have hclean : trim name = name := (cleanText_some_iff.mp hname).1
  constructor
  · intro h
    have htrim : trim text = name := by rw [← trim_sqlTrim, h, hclean]
    exact ⟨htrim.trans h.symm, htrim⟩
  · rintro ⟨halike, htrim⟩
    exact halike.symm.trans htrim

/-! ### The two names -/

lemma cleanText_of_ownerName {column : Option String} {field name : String}
    (h : ownerName column field = some name) : cleanText (some name) = some name := by
  rcases Option.or_eq_some_iff.mp h with h | ⟨-, h⟩
  · exact cleanText_of_cleanText h
  · exact cleanText_of_cleanText h

lemma ownerName_of_blank {column : Option String} {field : String}
    (hblank : (sqlTrim (column.getD "")).toList.isEmpty = true) :
    ownerName column field = cleanText (some field) := by
  have hempty : sqlTrim (column.getD "") = "" :=
    String.toList_eq_nil_iff.mp (List.isEmpty_iff.mp hblank)
  have htrim : trim (column.getD "") = "" := by
    rw [← trim_sqlTrim, hempty]
    rfl
  rcases column with _ | text
  · rfl
  · have hnone : cleanText (some text) = none := by
      rw [cleanText, show trim text = "" from htrim]
      rfl
    rw [ownerName, hnone, Option.none_or]

/-- JavaScript reads the clean names that SQL reads exactly when the texts read alike. -/
lemma readsAlike_iff (column : Option String) (extracted field : String) :
    ReadsAlike column extracted field ↔ ∀ name, cleanText (some name) = some name →
      (ownerName column field = some name ↔ ownershipColumnSql column extracted = name) := by
  unfold ReadsAlike ownershipColumnSql
  split_ifs with hblank
  · rw [ownerName_of_blank hblank]
    constructor
    · rintro (⟨halike, htrim⟩ | ⟨hnot, htrim⟩) name hname
      · rw [cleanText_some_iff, sqlTrim_eq_iff hname, htrim,
          and_iff_left (cleanText_some_iff.mp hname).2, and_iff_right halike]
      · rw [cleanText_some_iff, sqlTrim_eq_iff hname, htrim]
        exact ⟨fun h => absurd h.1.symm h.2, fun h => absurd h.1 hnot⟩
    · intro h
      by_cases halike : TrimsAlike extracted
      · refine Or.inl ⟨halike, ?_⟩
        by_cases hfield : trim field = ""
        · by_contra hne
          have hname : cleanText (some (trim extracted)) = some (trim extracted) :=
            cleanText_some_iff.mpr ⟨trim_trim _, fun h => hne (hfield.trans h.symm)⟩
          have hsql := (h _ hname).mpr ((sqlTrim_eq_iff hname).mpr ⟨halike, rfl⟩)
          exact hne (cleanText_some_iff.mp hsql).1
        · have hname : cleanText (some (trim field)) = some (trim field) :=
            cleanText_some_iff.mpr ⟨trim_trim _, hfield⟩
          have hsql := (h _ hname).mp (cleanText_some_iff.mpr ⟨rfl, hfield⟩)
          exact ((sqlTrim_eq_iff hname).mp hsql).2.symm
      · refine Or.inr ⟨halike, ?_⟩
        by_contra hfield
        have hname : cleanText (some (trim field)) = some (trim field) :=
          cleanText_some_iff.mpr ⟨trim_trim _, hfield⟩
        have hsql := (h _ hname).mp (cleanText_some_iff.mpr ⟨rfl, hfield⟩)
        exact halike ((sqlTrim_eq_iff hname).mp hsql).1
  · obtain ⟨text, rfl⟩ : ∃ text, column = some text := by
      rcases column with _ | text
      · exact absurd rfl hblank
      · exact ⟨text, rfl⟩
    rw [Option.getD_some]
    constructor
    · rintro (halike | ⟨htext, hfield⟩) name hname
      · have hne : trim text ≠ "" := by
          rw [halike]
          exact fun h => hblank (by rw [Option.getD_some, h]; rfl)
        have howner : ownerName (some text) field = some (trim text) := by
          rw [ownerName, cleanText_some_iff.mpr ⟨rfl, hne⟩, Option.some_or]
        rw [howner, Option.some.injEq, sqlTrim_eq_iff hname, and_iff_right halike]
      · have howner : ownerName (some text) field = none := by
          rw [ownerName, cleanText, cleanText, htext, hfield]
          rfl
        rw [howner, sqlTrim_eq_iff hname, htext]
        exact ⟨fun h => (by cases h), fun h => absurd h.2.symm (cleanText_some_iff.mp hname).2⟩
    · intro h
      by_cases halike : TrimsAlike text
      · exact Or.inl halike
      · right
        have hnone : ownerName (some text) field = none := by
          refine Option.eq_none_iff_forall_ne_some.mpr fun name hname => ?_
          have hclean := cleanText_of_ownerName hname
          exact halike ((sqlTrim_eq_iff hclean).mp ((h name hclean).mp hname)).1
        obtain ⟨htext, hfield⟩ := Option.or_eq_none_iff.mp hnone
        constructor
        · by_contra hne
          rw [cleanText_some_iff.mpr ⟨rfl, hne⟩] at htext
          cases htext
        · by_contra hne
          rw [cleanText_some_iff.mpr ⟨rfl, hne⟩] at hfield
          cases hfield

/-! ### The owner -/

/-- JavaScript looks the two names up among the names of the owner. -/
lemma buildOwnershipPredicate_iff (ms : MemoryStore) (row : MemoryItem) :
    ms.buildOwnershipPredicate row = true ↔
      (∃ name ∈ ms.ownerActors, ownerName row.actorId (metadataText row "actor_id") = some name) ∨
      ∃ name ∈ ms.ownerDevices,
        ownerName row.originDeviceId (metadataText row "origin_device_id") = some name := by
  have hclean : ∀ key, cleanJson ((fromJson (row.metadataJson.map JsonText.parsed)).get key) =
      cleanText (some (metadataText row key)) := by
    intro key
    unfold cleanJson metadataText
    rcases ((fromJson (row.metadataJson.map JsonText.parsed)).get key).bind Json.asText with _ | text
    · rfl
    · rfl
  unfold MemoryStore.buildOwnershipPredicate MemoryStore.memoryOwnedBySelf
  dsimp only
  rw [hclean, hclean]
  change ((ownerName row.actorId (metadataText row "actor_id") == some ms.actorId ||
    ownerName row.originDeviceId (metadataText row "origin_device_id") == some ms.deviceId ||
    (ownerName row.originDeviceId (metadataText row "origin_device_id")).any
      (fun d => ms.sameActorPeerIds.contains d) ||
    (ownerName row.actorId (metadataText row "actor_id")).any
      fun a => (ms.sameActorPeerIds.map ("legacy-sync:" ++ ·)).contains a) = true) ↔ _
  generalize ownerName row.actorId (metadataText row "actor_id") = actor
  generalize ownerName row.originDeviceId (metadataText row "origin_device_id") = device
  have hlookup : ∀ (name : Option String) (first : String) (rest : List String),
      (∃ n ∈ first :: rest, name = some n) ↔
        (name == some first) = true ∨ name.any (fun n => rest.contains n) = true := by
    intro name first rest
    rcases name with _ | name
    · simp
    · simp
  rw [MemoryStore.ownerActors, MemoryStore.ownerDevices, hlookup, hlookup, Bool.or_eq_true,
    Bool.or_eq_true, Bool.or_eq_true]
  constructor
  · rintro (((h | h) | h) | h)
    · exact Or.inl (Or.inl h)
    · exact Or.inr (Or.inl h)
    · exact Or.inr (Or.inr h)
    · exact Or.inl (Or.inr h)
  · rintro ((h | h) | (h | h))
    · exact Or.inl (Or.inl (Or.inl h))
    · exact Or.inr h
    · exact Or.inl (Or.inl (Or.inr h))
    · exact Or.inl (Or.inr h)

lemma mineValue_eq (tools : FilterTools) (context : OwnershipFilterContext) (row : FilterRow) :
    ∃ owned : Bool, mineValue tools context row = some owned ∧
      theirsValue tools context row = some (!owned) ∧
      (owned = true ↔ OwnedInSql tools context row.item) := by
  obtain ⟨owned, hvalue, howned⟩ := value_ownership tools context row
  have hmine : mineValue tools context row = some owned := by
    unfold mineValue
    rw [ownershipPredicateSql_eq]
    unfold BoundClause.value at hvalue
    dsimp only
    exact hvalue
  refine ⟨owned, hmine, ?_, howned⟩
  have htheirs : theirsValue tools context row = SqlBool.not (mineValue tools context row) := by
    unfold theirsValue mineValue SqlClause.not
    dsimp only
  rw [htheirs, hmine]
  rfl

lemma agreesOn_iff (tools : FilterTools) (db : ScopeVisibilityDb) (ms : MemoryStore)
    (row : FilterRow) :
    AgreesOn tools db ms row ↔ (ms.buildOwnershipPredicate row.item = true ↔
      OwnedInSql tools (ms.ownershipFilterContext db) row.item) := by
  obtain ⟨owned, hmine, htheirs, howned⟩ :=
    mineValue_eq tools (ms.ownershipFilterContext db) row
  rw [AgreesOn, hmine, htheirs, ← howned]
  rcases owned with _ | _ <;> rcases ms.buildOwnershipPredicate row.item with _ | _ <;> simp

lemma isNameOf_iff_mem {names : List String} (hclosed : NamesClosed names) {name : String}
    (hname : cleanText (some name) = some name) : IsNameOf name names ↔ name ∈ names :=
  ⟨fun ⟨listed, hlisted, hclean⟩ => hclosed listed hlisted name hclean,
    fun h => ⟨name, h, hname⟩⟩

lemma exists_ownerName_iff {column : Option String} {extracted field : String}
    (halike : ReadsAlike column extracted field) {names : List String}
    (hclosed : NamesClosed names) :
    (∃ name ∈ names, ownerName column field = some name) ↔
      IsNameOf (ownershipColumnSql column extracted) names := by
  have hsame := (readsAlike_iff column extracted field).mp halike
  constructor
  · rintro ⟨name, hmem, hname⟩
    have hclean := cleanText_of_ownerName hname
    rw [(hsame name hclean).mp hname]
    exact (isNameOf_iff_mem hclosed hclean).mpr hmem
  · rintro ⟨listed, hlisted, hclean⟩
    have hname := cleanText_of_cleanText hclean
    exact ⟨_, hclosed listed hlisted _ hclean, (hsame _ hname).mpr rfl⟩

/-- An identity with the given names. -/
def MemoryStore.withNames (ms : MemoryStore) (actorId deviceId : String) : MemoryStore :=
  { ms with actorId := actorId, deviceId := deviceId, sameActorPeerIds := [] }

lemma namesClosed_singleton {name : String}
    (hname : cleanText (some name) = some name ∨ cleanText (some name) = none) :
    NamesClosed [name] := by
  rintro listed hlisted clean hclean
  obtain rfl := List.mem_singleton.mp hlisted
  rcases hname with hname | hname
  · rw [hname] at hclean
    obtain rfl := Option.some.inj hclean
    exact List.mem_singleton_self _
  · rw [hname] at hclean
    cases hclean

lemma isNameOf_singleton {name other : String} (hname : cleanText (some name) = some name) :
    IsNameOf other [name] ↔ other = name := by
  constructor
  · rintro ⟨listed, hlisted, hclean⟩
    obtain rfl := List.mem_singleton.mp hlisted
    exact Option.some.inj (hclean.symm.trans hname)
  · rintro rfl
    exact ⟨other, List.mem_singleton_self _, hname⟩

lemma not_isNameOf_blank (other : String) : ¬ IsNameOf other [""] := by
  rintro ⟨listed, hlisted, hclean⟩
  obtain rfl := List.mem_singleton.mp hlisted
  exact absurd hclean.symm (Option.some_ne_none other)

lemma ownerName_ne_blank (column : Option String) (field : String) :
    ownerName column field ≠ some "" :=
  fun h => (cleanText_some_iff.mp (cleanText_of_ownerName h)).2 rfl

section Agreement

variable (tools : FilterTools) (db : ScopeVisibilityDb)

lemma agreesOn_of_alike {ms : MemoryStore} {row : FilterRow} (hclosed : ms.TrimClosed)
    (halike : RowReadsAlike tools row.item) : AgreesOn tools db ms row := by
  rw [agreesOn_iff, buildOwnershipPredicate_iff]
  exact or_congr (exists_ownerName_iff halike.1 hclosed.1) (exists_ownerName_iff halike.2 hclosed.2)

lemma alike_of_agreesOn (ms : MemoryStore) {row : FilterRow}
    (h : ∀ ms : MemoryStore, ms.TrimClosed → AgreesOn tools db ms row) :
    RowReadsAlike tools row.item := by
  have hblank : NamesClosed [""] := namesClosed_singleton (Or.inr rfl)
  constructor
  · rw [readsAlike_iff]
    intro name hname
    have hagrees := h (ms.withNames name "") ⟨namesClosed_singleton (Or.inl hname), hblank⟩
    rw [agreesOn_iff, buildOwnershipPredicate_iff] at hagrees
    unfold OwnedInSql at hagrees
    simp only [MemoryStore.withNames, MemoryStore.ownerActors, MemoryStore.ownerDevices,
      MemoryStore.ownershipFilterContext, List.map_nil, List.mem_singleton, exists_eq_left,
      isNameOf_singleton hname, not_isNameOf_blank, ownerName_ne_blank, or_false] at hagrees
    exact hagrees
  · rw [readsAlike_iff]
    intro name hname
    have hagrees := h (ms.withNames "" name) ⟨hblank, namesClosed_singleton (Or.inl hname)⟩
    rw [agreesOn_iff, buildOwnershipPredicate_iff] at hagrees
    unfold OwnedInSql at hagrees
    simp only [MemoryStore.withNames, MemoryStore.ownerActors, MemoryStore.ownerDevices,
      MemoryStore.ownershipFilterContext, List.map_nil, List.mem_singleton, exists_eq_left,
      isNameOf_singleton hname, not_isNameOf_blank, ownerName_ne_blank, false_or] at hagrees
    exact hagrees

/-- A row that names an actor and a device in its columns, or nobody. -/
def MemoryItem.ownedBy (item : MemoryItem) (actorId deviceId : Option String) : MemoryItem :=
  { item with actorId := actorId, originDeviceId := deviceId, metadataJson := none }

lemma readsAlike_of_clean {column : Option String}
    (hcolumn : ∀ name ∈ column, cleanText (some name) = some name) : ReadsAlike column "" "" := by
  rcases column with _ | name
  · exact (if_pos rfl).mpr (Or.inl ⟨rfl, rfl⟩)
  · have htrim := (cleanText_some_iff.mp (hcolumn name rfl)).1
    have halike : TrimsAlike name := by
      rw [TrimsAlike, htrim, sqlTrim_of_trim htrim]
    unfold ReadsAlike
    split_ifs
    · exact Or.inl ⟨rfl, rfl⟩
    · exact Or.inl halike

lemma rowReadsAlike_ownedBy (item : MemoryItem) {actorId deviceId : Option String}
    (hactor : ∀ name ∈ actorId, cleanText (some name) = some name)
    (hdevice : ∀ name ∈ deviceId, cleanText (some name) = some name) :
    RowReadsAlike tools (item.ownedBy actorId deviceId) :=
  ⟨readsAlike_of_clean hactor, readsAlike_of_clean hdevice⟩

lemma ownerName_clean {name : String} (hname : cleanText (some name) = some name) (field : String) :
    ownerName (some name) field = some name := by
  rw [ownerName, hname, Option.some_or]

lemma ownershipColumnSql_clean {name : String} (hname : cleanText (some name) = some name) :
    ownershipColumnSql (some name) "" = name := by
  have htrim := (cleanText_some_iff.mp hname).1
  have hne := (cleanText_some_iff.mp hname).2
  have hsql : sqlTrim name = name := sqlTrim_of_trim htrim
  rw [ownershipColumnSql, Option.getD_some, hsql,
    if_neg fun h => hne (String.toList_eq_nil_iff.mp (List.isEmpty_iff.mp h))]

lemma trimClosed_of_agreesOn (item : MemoryItem) {ms : MemoryStore}
    (h : ∀ row, RowReadsAlike tools row.item → AgreesOn tools db ms row) : ms.TrimClosed := by
  have hsome : ∀ {name : String}, cleanText (some name) = some name →
      ∀ other ∈ some name, cleanText (some other) = some other := by
    intro name hname other hother
    obtain rfl := Option.some.inj hother
    exact hname
  have hnone : ∀ other ∈ (none : Option String), cleanText (some other) = some other := by
    intro other hother
    cases hother
  constructor
  · intro listed hlisted name hclean
    have hname := cleanText_of_cleanText hclean
    have hagrees := h ⟨item.ownedBy (some name) none, none⟩
      (rowReadsAlike_ownedBy tools item (hsome hname) hnone)
    rw [agreesOn_iff, buildOwnershipPredicate_iff] at hagrees
    have howned : IsNameOf (ownershipColumnSql (some name) "") ms.ownerActors := by
      rw [ownershipColumnSql_clean hname]
      exact ⟨listed, hlisted, hclean⟩
    rcases hagrees.mpr (Or.inl howned) with ⟨other, hmem, hother⟩ | ⟨other, -, hother⟩
    · obtain rfl := Option.some.inj ((ownerName_clean hname "").symm.trans hother)
      exact hmem
    · cases hother
  · intro listed hlisted name hclean
    have hname := cleanText_of_cleanText hclean
    have hagrees := h ⟨item.ownedBy none (some name), none⟩
      (rowReadsAlike_ownedBy tools item hnone (hsome hname))
    rw [agreesOn_iff, buildOwnershipPredicate_iff] at hagrees
    have howned : IsNameOf (ownershipColumnSql (some name) "") ms.ownerDevices := by
      rw [ownershipColumnSql_clean hname]
      exact ⟨listed, hlisted, hclean⟩
    rcases hagrees.mpr (Or.inr howned) with ⟨other, -, hother⟩ | ⟨other, hmem, hother⟩
    · cases hother
    · obtain rfl := Option.some.inj ((ownerName_clean hname "").symm.trans hother)
      exact hmem

end Agreement

/-! ### The agreement -/

/-- The identity `ada` on the device `laptop`, with one claimed peer. -/
def adaStore : MemoryStore where
  deviceId := "laptop"
  now := "2026-01-01"
  randomUUID := "op-1"
  resolveProjectScope := fun _ _ => "local-default"
  reassignOpId := fun _ _ _ _ _ => ""
  actorId := "ada"
  actorDisplayName := "Ada"
  sameActorPeerIds := ["phone"]
  scanner := ⟨id, id⟩
  runtime := ⟨fun _ => none, fun _ => "", fun _ => "", toLowerCase⟩
  needsAttention := false
  finds := fun _ _ => true

/-- A row of the given actor. -/
def ownedItem (actorId : Option String) : MemoryItem where
  id := 1
  sessionId := 1
  kind := "discovery"
  title := "title"
  bodyText := "body"
  active := some 1
  createdAt := "2026-01-01"
  updatedAt := "2026-01-01"
  metadataJson := none
  actorId := actorId
  visibility := none
  workspaceId := none
  workspaceKind := none
  originDeviceId := none
  deletedAt := none
  rev := some 1
  importKey := some "m1"
  scopeId := none
  project := none
  content := MemoryContent.empty

/-- `theirs` is always the complement of `mine`.  A row is decided alike for every identity with
closed names exactly when its columns read alike, and an identity decides all such rows alike
exactly when its names are closed. -/
theorem ownership_agrees_iff (tools : FilterTools) (db : ScopeVisibilityDb) :
    (∀ (ms : MemoryStore) (row : FilterRow),
      theirsValue tools (ms.ownershipFilterContext db) row = some true ↔
        ¬ mineValue tools (ms.ownershipFilterContext db) row = some true) ∧
    (∀ row : FilterRow, (∀ ms : MemoryStore, ms.TrimClosed → AgreesOn tools db ms row) ↔
      RowReadsAlike tools row.item) ∧
    ∀ ms : MemoryStore, (∀ row : FilterRow, RowReadsAlike tools row.item →
      AgreesOn tools db ms row) ↔ ms.TrimClosed := by
  refine ⟨fun ms row => ?_, fun row => ?_, fun ms => ?_⟩
  · obtain ⟨owned, hmine, htheirs, -⟩ := mineValue_eq tools (ms.ownershipFilterContext db) row
    rw [hmine, htheirs]
    rcases owned with _ | _
    · decide
    · decide
  · exact ⟨alike_of_agreesOn tools db adaStore,
      fun halike ms hclosed => agreesOn_of_alike tools db hclosed halike⟩
  · exact ⟨trimClosed_of_agreesOn tools db (ownedItem none),
      fun hclosed row halike => agreesOn_of_alike tools db hclosed halike⟩

/-- Tools for rows whose metadata holds strings only. -/
def plainFilterTools : FilterTools := ⟨toLowerCase, fun _ => "0"⟩

/-- A database without scopes and creation evidence. -/
def plainVisibilityDb : ScopeVisibilityDb where
  store := Store.empty
  resolveVisibleScopeIds := fun _ => ["local-default"]
  matchingLocalCreationClause := none
  hasSourceBindings := false
  localCreationSourceIds := fun _ => []

/-- The actor `"ada\n"` owns the row in JavaScript, where the line feed is trimmed, but not in
SQL. -/
theorem trailing_newline_splits_ownership :
    adaStore.buildOwnershipPredicate (ownedItem (some "ada\n")) = true ∧
      mineValue plainFilterTools (adaStore.ownershipFilterContext plainVisibilityDb)
        ⟨ownedItem (some "ada\n"), none⟩ = some false ∧
      theirsValue plainFilterTools (adaStore.ownershipFilterContext plainVisibilityDb)
        ⟨ownedItem (some "ada\n"), none⟩ = some true := by
  refine ⟨by decide, by decide +kernel, by decide +kernel⟩

end Codemem
