import Codemem.Store.MemoryFilters

/-!
# What the conditions of a memory query mean

Each step of the builder appends conditions with the parameters meant for them.  `Appends step P`
says so, and that a row satisfies the appended conditions exactly when `P` holds of it.  The steps
compose, so the whole builder has the meaning that its filters have one by one.
-/

namespace Codemem

/-- A condition with parameters on the rows of a memory query. -/
abbrev BoundFilter := BoundClause FilterParam FilterRow

namespace BoundFilter

/-- A condition with one text. -/
def text (holds : String → FilterRow → SqlBool) (value : String) : BoundFilter :=
  ⟨FilterClause.text holds, [.text value], rfl⟩

/-- A condition with one number. -/
def number (holds : ℚ → FilterRow → SqlBool) (value : ℚ) : BoundFilter :=
  ⟨FilterClause.number holds, [.number value], rfl⟩

def texts (holds : List String → FilterRow → SqlBool) (values : List String) : BoundFilter :=
  ⟨FilterClause.texts values.length holds, values.map .text, List.length_map _⟩

@[simp] lemma value_text (holds : String → FilterRow → SqlBool) (value : String) (row : FilterRow) :
    (text holds value).value row = holds value row := rfl

@[simp] lemma value_number (holds : ℚ → FilterRow → SqlBool) (value : ℚ) (row : FilterRow) :
    (number holds value).value row = holds value row := rfl

lemma filterMap_asText (values : List String) :
    (values.map FilterParam.text).filterMap FilterParam.asText = values := by
  rw [List.filterMap_map]
  exact List.filterMap_some

@[simp] lemma value_texts (holds : List String → FilterRow → SqlBool) (values : List String)
    (row : FilterRow) : (texts holds values).value row = holds values row := by
  change holds ((values.map FilterParam.text).filterMap FilterParam.asText) row = _
  rw [filterMap_asText]

end BoundFilter

/-! ### Steps of the builder -/

/-- The step appends conditions with their own parameters, which hold of a row when `P` does. -/
def Appends (step : FilterResult → FilterResult) (P : FilterRow → Prop) : Prop :=
  ∃ (bounds : List BoundFilter) (joins : Bool),
    (∀ result, step result =
      ⟨⟨result.clauses ++ (SqlFilter.ofBound bounds).clauses,
        result.params ++ (SqlFilter.ofBound bounds).params⟩, result.joinSessions || joins⟩) ∧
    ∀ row, (∀ b ∈ bounds, b.value row = some true) ↔ P row

lemma appends_id : Appends (fun result => result) fun _ => True :=
  ⟨[], false, fun result => by simp, fun row => by simp⟩

lemma appends_add (b : BoundFilter) {P : FilterRow → Prop}
    (h : ∀ row, b.value row = some true ↔ P row) :
    Appends (fun result => result.add b.clause b.params) P :=
  ⟨[b], false, fun result => by simp [FilterResult.add, SqlFilter.ofBound], fun row => by simp [h]⟩

lemma appends_add_joined (b : BoundFilter) {P : FilterRow → Prop}
    (h : ∀ row, b.value row = some true ↔ P row) :
    Appends (fun result => { result.add b.clause b.params with joinSessions := true }) P :=
  ⟨[b], true, fun result => by simp [FilterResult.add, SqlFilter.ofBound], fun row => by simp [h]⟩

lemma Appends.comp {first second : FilterResult → FilterResult} {P Q : FilterRow → Prop}
    (hfirst : Appends first P) (hsecond : Appends second Q) :
    Appends (fun result => second (first result)) fun row => P row ∧ Q row := by
  obtain ⟨bounds, joins, hadd, hmeans⟩ := hfirst
  obtain ⟨bounds', joins', hadd', hmeans'⟩ := hsecond
  refine ⟨bounds ++ bounds', joins || joins', fun result => ?_, fun row => ?_⟩
  · simp [hadd, hadd', SqlFilter.ofBound, Bool.or_assoc]
  · rw [List.forall_mem_append, hmeans, hmeans']

lemma Appends.congr {step : FilterResult → FilterResult} {P Q : FilterRow → Prop}
    (h : Appends step P) (hPQ : ∀ row, P row ↔ Q row) : Appends step Q := by
  obtain ⟨bounds, joins, hadd, hmeans⟩ := h
  exact ⟨bounds, joins, hadd, fun row => (hmeans row).trans (hPQ row)⟩

/-- A column is one of the included values, if there are any, and none of the excluded ones. -/
def OneOf (column : Option String) (included excluded : List String) : Prop :=
  (included ≠ [] → ∃ value ∈ included, column = some value) ∧
    ∀ value ∈ excluded, column ≠ some value

lemma appends_addMultiValueFilter (column : FilterRow → Option String)
    (included excluded : List String) :
    Appends (addMultiValueFilter column included excluded)
      fun row => OneOf (column row) included excluded := by
  let isOneOf (values : List String) : BoundFilter :=
    .texts (fun values row => SqlBool.isIn (column row) values) values
  have hincluded : Appends (fun result => if included.isEmpty then result
      else result.add (isOneOf included).clause (isOneOf included).params)
      fun row => included ≠ [] → ∃ value ∈ included, column row = some value := by
    rcases included with _ | ⟨first, included⟩
    · exact appends_id.congr fun row => by simp
    · exact appends_add _ fun row => by simp [isOneOf]
  have hexcluded : Appends (fun result => if excluded.isEmpty then result
      else result.add ((BoundClause.fact fun row => some (column row).isNone).or
        (isOneOf excluded).not).clause
        ((BoundClause.fact fun row => some (column row).isNone).or (isOneOf excluded).not).params)
      fun row => ∀ value ∈ excluded, column row ≠ some value := by
    rcases excluded with _ | ⟨first, excluded⟩
    · exact appends_id.congr fun row => by simp
    · refine appends_add _ fun row => ?_
      rcases hcolumn : column row with _ | value
      · simp [hcolumn]
      · have hnot : (first :: excluded).contains value = false ↔ value ∉ first :: excluded := by
          rw [← Bool.not_eq_true, List.contains_iff_mem]
        simp only [isOneOf, hcolumn, BoundClause.value_or, BoundClause.value_fact,
          BoundClause.value_not, BoundFilter.value_texts, SqlBool.isIn_some,
          SqlBool.or_eq_true_iff, SqlBool.not_eq_true_iff, Option.some.injEq, Option.isNone_some,
          Bool.false_eq_true, false_or, hnot, ne_eq]
        exact ⟨fun h other hother heq => h (heq ▸ hother), fun h hmem => h value hmem rfl⟩
  exact hincluded.comp hexcluded

/-! ### The owner -/

/-- `<expression> = ?` for a name, unless it is blank. -/
def namedBound (expression : MemoryItem → String) (name : String) : List BoundFilter :=
  if (trim name).toList.isEmpty then []
  else [.text (fun value row => some (expression row.item == value)) (trim name)]

/-- `<expression> IN (?, …)` for a list of names, unless it has none. -/
def listedBound (expression : MemoryItem → String) (names : List String) : List BoundFilter :=
  if (cleanUniqueStrings names).isEmpty then []
  else [.texts (fun values row => SqlBool.isIn (some (expression row.item)) values)
    (cleanUniqueStrings names)]

/-- The alternatives as conditions with their parameters. -/
def ownershipBounds (tools : FilterTools) (context : OwnershipFilterContext) : List BoundFilter :=
  namedBound (ownershipActorSql tools) context.actorId ++
    namedBound (ownershipOriginDeviceSql tools) context.deviceId ++
    listedBound (ownershipOriginDeviceSql tools) context.claimedDeviceIds ++
    listedBound (ownershipActorSql tools) context.legacyActorIds

/-- Joining conditions by `OR`, on the side of the conditions with parameters. -/
def joinOrBound (alternatives : List BoundFilter) : BoundFilter :=
  match alternatives with
  | [] => .fact fun _ => some false
  | first :: rest => rest.foldl BoundClause.or first

lemma joinOrBound_eq (alternatives : List BoundFilter) :
    (joinOrBound alternatives).clause = joinOr (alternatives.map BoundClause.clause) ∧
      (joinOrBound alternatives).params = alternatives.flatMap BoundClause.params := by
  have hfold : ∀ (rest : List BoundFilter) (first : BoundFilter),
      (rest.foldl BoundClause.or first).clause =
        (rest.map BoundClause.clause).foldl SqlClause.or first.clause ∧
      (rest.foldl BoundClause.or first).params =
        first.params ++ rest.flatMap BoundClause.params := by
    intro rest
    induction rest with
    | nil => exact fun first => ⟨rfl, (List.append_nil _).symm⟩
    | cons next rest ih =>
      intro first
      obtain ⟨hclause, hparams⟩ := ih (first.or next)
      exact ⟨hclause, hparams.trans (List.append_assoc _ _ _)⟩
  rcases alternatives with _ | ⟨first, rest⟩
  · exact ⟨rfl, rfl⟩
  · exact hfold rest first

lemma value_joinOrBound (alternatives : List BoundFilter) (row : FilterRow)
    (hvalues : ∀ b ∈ alternatives, (b.value row).isSome = true) :
    (joinOrBound alternatives).value row =
      some (alternatives.any fun b => b.value row == some true) := by
  have hor : ∀ x y : SqlBool, x.isSome = true → y.isSome = true →
      x.or y = some (x == some true || y == some true) := by
    intro x y hx hy
    obtain ⟨x, rfl⟩ := Option.isSome_iff_exists.mp hx
    obtain ⟨y, rfl⟩ := Option.isSome_iff_exists.mp hy
    rcases x with _ | _ <;> rcases y with _ | _ <;> rfl
  have hfold : ∀ (rest : List BoundFilter) (first : BoundFilter),
      (∀ b ∈ first :: rest, (b.value row).isSome = true) →
      (rest.foldl BoundClause.or first).value row =
        some ((first :: rest).any fun b => b.value row == some true) := by
    intro rest
    induction rest with
    | nil =>
      intro first h
      obtain ⟨x, hx⟩ := Option.isSome_iff_exists.mp (h first List.mem_cons_self)
      rcases x with _ | _ <;> simp [hx]
    | cons next rest ih =>
      intro first h
      rw [List.forall_mem_cons, List.forall_mem_cons] at h
      have hvalue : (first.or next).value row =
          some (first.value row == some true || next.value row == some true) := by
        rw [BoundClause.value_or, hor _ _ h.1 h.2.1]
      rw [List.foldl_cons, ih (first.or next) (List.forall_mem_cons.mpr ⟨by rw [hvalue]; rfl, h.2.2⟩),
        List.any_cons, List.any_cons, List.any_cons, hvalue, ← Bool.or_assoc]
      simp
  rcases alternatives with _ | ⟨first, rest⟩
  · rfl
  · exact hfold rest first hvalues

lemma ownershipPredicateSql_eq (tools : FilterTools) (context : OwnershipFilterContext) :
    ownershipPredicateSql tools context =
      ((joinOrBound (ownershipBounds tools context)).clause,
        (joinOrBound (ownershipBounds tools context)).params) := by
  obtain ⟨hclause, hparams⟩ := joinOrBound_eq (ownershipBounds tools context)
  have hpairs : ownershipAlternatives tools context =
      (ownershipBounds tools context).map fun b => (b.clause, b.params) := by
    unfold ownershipAlternatives ownershipBounds namedBound listedBound
    dsimp only
    split_ifs <;> rfl
  rw [hclause, hparams, ownershipPredicateSql, hpairs, List.map_map, List.flatMap_map]
  rfl

/-- A name is among the clean ones of a list. -/
def IsNameOf (name : String) (names : List String) : Prop :=
  ∃ listed ∈ names, cleanText (some listed) = some name

/-- The row is owned as the query sees it. -/
def OwnedInSql (tools : FilterTools) (context : OwnershipFilterContext) (item : MemoryItem) : Prop :=
  IsNameOf (ownershipActorSql tools item) (context.actorId :: context.legacyActorIds) ∨
    IsNameOf (ownershipOriginDeviceSql tools item) (context.deviceId :: context.claimedDeviceIds)

lemma mem_cleanUniqueStrings {name : String} {names : List String} :
    name ∈ cleanUniqueStrings names ↔ IsNameOf name names := by
  unfold cleanUniqueStrings IsNameOf
  rw [List.mem_eraseDups, List.mem_filter, List.mem_map]
  constructor
  · rintro ⟨⟨listed, hlisted, rfl⟩, hne⟩
    refine ⟨listed, hlisted, ?_⟩
    rw [cleanText, if_neg (by simpa using hne)]
  · rintro ⟨listed, hlisted, hclean⟩
    have htrim : trim listed = name := trim_eq_of_cleanText hclean
    refine ⟨⟨listed, hlisted, htrim⟩, ?_⟩
    rw [cleanText, htrim] at hclean
    split_ifs at hclean with hempty
    simpa using hempty

lemma any_namedBound (expression : MemoryItem → String) (name : String) (row : FilterRow) :
    ((namedBound expression name).any fun b => b.value row == some true) = true ↔
      cleanText (some name) = some (expression row.item) := by
  rw [namedBound, cleanText]
  split_ifs with hblank
  · simp
  · simp only [List.any_cons, List.any_nil, Bool.or_false, BoundFilter.value_text, beq_iff_eq,
      Option.some.injEq]
    exact eq_comm

lemma any_listedBound (expression : MemoryItem → String) (names : List String) (row : FilterRow) :
    ((listedBound expression names).any fun b => b.value row == some true) = true ↔
      IsNameOf (expression row.item) names := by
  rw [← mem_cleanUniqueStrings, listedBound]
  rcases cleanUniqueStrings names with _ | ⟨name, rest⟩
  · simp
  · simp only [List.isEmpty_cons, Bool.false_eq_true, if_false, List.any_cons, List.any_nil,
      Bool.or_false, BoundFilter.value_texts, SqlBool.isIn_some, beq_iff_eq, Option.some.injEq,
      List.contains_iff_mem]

lemma isSome_ownershipBounds {tools : FilterTools} {context : OwnershipFilterContext}
    {b : BoundFilter} (hb : b ∈ ownershipBounds tools context) (row : FilterRow) :
    (b.value row).isSome = true := by
  have hnamed : ∀ expression name, b ∈ namedBound expression name →
      (b.value row).isSome = true := by
    intro expression name hb
    rw [namedBound] at hb
    split_ifs at hb
    · cases hb
    · obtain rfl := List.mem_singleton.mp hb
      rfl
  have hlisted : ∀ expression names, b ∈ listedBound expression names →
      (b.value row).isSome = true := by
    intro expression names hb
    rw [listedBound] at hb
    split_ifs at hb
    · cases hb
    · obtain rfl := List.mem_singleton.mp hb
      rw [BoundFilter.value_texts, SqlBool.isIn_some]
      rfl
  rw [ownershipBounds, List.mem_append, List.mem_append, List.mem_append] at hb
  rcases hb with ((hb | hb) | hb) | hb
  · exact hnamed _ _ hb
  · exact hnamed _ _ hb
  · exact hlisted _ _ hb
  · exact hlisted _ _ hb

lemma value_ownership (tools : FilterTools) (context : OwnershipFilterContext) (row : FilterRow) :
    ∃ owned : Bool, (joinOrBound (ownershipBounds tools context)).value row = some owned ∧
      (owned = true ↔ OwnedInSql tools context row.item) := by
  refine ⟨_, value_joinOrBound _ row fun b hb => isSome_ownershipBounds hb row, ?_⟩
  rw [ownershipBounds, List.any_append, List.any_append, List.any_append, Bool.or_eq_true,
    Bool.or_eq_true, Bool.or_eq_true, any_namedBound, any_namedBound, any_listedBound,
    any_listedBound]
  unfold OwnedInSql IsNameOf
  rw [List.exists_mem_cons_iff, List.exists_mem_cons_iff]
  constructor
  · rintro (((h | h) | h) | h)
    · exact Or.inl (Or.inl h)
    · exact Or.inr (Or.inl h)
    · exact Or.inr (Or.inr h)
    · exact Or.inl (Or.inr h)
  · rintro ((h | h) | (h | h))
    · exact Or.inl (Or.inl (Or.inl h))
    · exact Or.inr h
    · exact Or.inl (Or.inl (Or.inr h))
    · exact Or.inl (Or.inr h)

end Codemem
