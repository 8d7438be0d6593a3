import Codemem.Store.OwnershipAgreement

/-!
# Two readings of a project filter

`projectColumnClause` selects the rows of a project in SQL, `projectMatchesFilter` decides in
JavaScript.  Both compare the project with the value of the filter, or with what stands behind a
slash at its end.  In the last pattern of the SQL condition the backslash escapes the first
character of the value, so that the separator is lost; and `LIKE` ignores the case of ASCII letters.
-/

namespace Codemem

def projectMatchesFilter (projectFilter itemProject : Option String) : Bool :=
  match projectFilter.filter fun text => !text.toList.isEmpty with
  | none => true
  | some filter =>
    match itemProject.filter fun text => !text.toList.isEmpty with
    | none => false
    | some project =>
      let normalizedFilter := slashed (trim filter)
      if normalizedFilter.isEmpty then true
      else
        let filterValue :=
          if normalizedFilter.contains '/' then
            (projectBasename (String.ofList normalizedFilter)).toList
          else normalizedFilter
        let normalizedProject := slashed project
        normalizedProject == filterValue || ('/' :: filterValue).isSuffixOf normalizedProject

/-- The value of the condition that the project filter adds; without a clause nothing is asked. -/
def projectFilterValue (filter : String) (row : FilterRow) : SqlBool :=
  match projectValue filter with
  | none => some true
  | some value => (projectColumnClause value).1.holds (projectColumnClause value).2 row

/-! ### When they agree -/

/-- Two texts are equal up to the case of ASCII letters. -/
def SameLetters (text text' : List Char) : Prop := text.map Char.toLower = text'.map Char.toLower

instance (text text' : List Char) : Decidable (SameLetters text text') := by
  unfold SameLetters
  infer_instance

/-- The project is the value, or ends with it behind a slash or a backslash. -/
def IsProjectOf (value project : List Char) : Prop :=
  project = value ∨ ∃ separator ∈ ['/', '\\'], separator :: value <:+ project

/-- The project ends with the value up to the case of letters, behind anything or nothing.  Where
the value begins with a wildcard, a backslash must stand before the rest. -/
def EndsLoosely (value project : List Char) : Prop :=
  match value with
  | '%' :: rest =>
    ∃ between back, SameLetters back rest ∧ '\\' :: (between ++ back) <:+ project
  | '_' :: rest => ∃ between back, SameLetters back rest ∧ '\\' :: between :: back <:+ project
  | _ => ∃ back, SameLetters back value ∧ back <:+ project

/-- The project passes a pattern of the SQL condition. -/
def LooksLikeProject (value project : List Char) : Prop :=
  EndsLoosely value project ∨ ∃ back, SameLetters back value ∧ '/' :: back <:+ project

/-- A project that looks like one of the filter is one.  A filter of white space asks for any project
and a filter of slashes for one that ends with a slash or a backslash. -/
def ProjectReadsAlike (filter : String) (project : Option String) : Prop :=
  match projectValue filter with
  | some value => ∀ text ∈ project, LooksLikeProject value text.toList →
      IsProjectOf value text.toList
  | none => filter = "" ∨ ∃ text ∈ project, text ≠ "" ∧
      (trim filter = "" ∨ ∃ separator ∈ ['/', '\\'], [separator] <:+ text.toList)

/-! ### `LIKE` -/

lemma sqlLike_percent_iff (pattern text : List Char) :
    sqlLike ('%' :: pattern) text = true ↔ ∃ back, back <:+ text ∧ sqlLike pattern back = true := by
  rw [sqlLike, List.any_eq_true]
  simp only [List.mem_tails]

lemma head_any_toLower_iff (c : Char) (pattern text : List Char) :
    (text.head?.any (fun d => d.toLower == c.toLower) && sqlLike pattern text.tail) = true ↔
      ∃ d rest, text = d :: rest ∧ d.toLower = c.toLower ∧ sqlLike pattern rest = true := by
  rcases text with _ | ⟨d, rest⟩
  · simp
  · simp

lemma sqlLike_escaped_iff (c : Char) (pattern text : List Char) :
    sqlLike ('\\' :: c :: pattern) text = true ↔
      ∃ d rest, text = d :: rest ∧ d.toLower = c.toLower ∧ sqlLike pattern rest = true := by
  rw [sqlLike, head_any_toLower_iff]

lemma sqlLike_plain_iff {c : Char} (h : c ≠ '%' ∧ c ≠ '_' ∧ c ≠ '\\') (pattern text : List Char) :
    sqlLike (c :: pattern) text = true ↔
      ∃ d rest, text = d :: rest ∧ d.toLower = c.toLower ∧ sqlLike pattern rest = true := by
  rw [sqlLike, head_any_toLower_iff]
  · exact fun heq => h.1 heq
  · exact fun heq => h.2.1 heq
  · exact fun d pattern' heq _ => h.2.2 heq

lemma sqlLike_escape_iff (value text : List Char) :
    sqlLike (escapeSqlLikePattern value) text = true ↔ SameLetters text value := by
  induction value generalizing text with
  | nil =>
    rw [escapeSqlLikePattern, List.flatMap_nil, sqlLike, SameLetters, List.map_nil,
      List.map_eq_nil_iff, List.isEmpty_iff]
  | cons c value ih =>
    have hcons : (∃ d rest, text = d :: rest ∧ d.toLower = c.toLower ∧
        sqlLike (escapeSqlLikePattern value) rest = true) ↔ SameLetters text (c :: value) := by
      rcases text with _ | ⟨d, rest⟩
      · simp [SameLetters]
      · simp [SameLetters, ih]
    have hflat : escapeSqlLikePattern (c :: value) =
        (if c = '\\' ∨ c = '%' ∨ c = '_' then ['\\', c] else [c]) ++ escapeSqlLikePattern value := by
      rw [escapeSqlLikePattern, List.flatMap_cons]
      rfl
    rw [hflat]
    split_ifs with hspecial
    · exact (sqlLike_escaped_iff c _ text).trans hcons
    · simp only [not_or] at hspecial
      exact (sqlLike_plain_iff ⟨hspecial.2.1, hspecial.2.2, hspecial.1⟩ _ text).trans hcons

lemma toLower_eq_iff {c : Char} (hlower : c.isLower = false) (hupper : c.isUpper = false)
    (d : Char) : d.toLower = c ↔ d = c := by
  unfold Char.toLower
  split_ifs with hd
  · constructor
    · intro heq
      have hletter : c.isLower = true := by
        rw [← heq, Char.isLower, Bool.and_eq_true, decide_eq_true_iff, decide_eq_true_iff]
        simp only [ge_iff_le, UInt32.le_iff_toNat_le, UInt32.toNat_add, UInt32.toNat_sub] at hd ⊢
        have hA : ('A'.val).toNat = 65 := rfl
        have hZ : ('Z'.val).toNat = 90 := rfl
        have ha : ('a'.val).toNat = 97 := rfl
        have hz : ('z'.val).toNat = 122 := rfl
        omega
      rw [hletter] at hlower
      cases hlower
    · intro heq
      have hletter : c.isUpper = true := by
        rw [← heq, Char.isUpper, decide_eq_true_iff]
        exact hd
      rw [hletter] at hupper
      cases hupper
  · rfl

lemma sqlLike_slash_iff (value text : List Char) :
    sqlLike ('%' :: '/' :: escapeSqlLikePattern value) text = true ↔
      ∃ back, SameLetters back value ∧ '/' :: back <:+ text := by
  rw [sqlLike_percent_iff]
  constructor
  · rintro ⟨rest, hrest, hlike⟩
    obtain ⟨d, back, rfl, hd, hback⟩ := (sqlLike_plain_iff (by decide) _ _).mp hlike
    obtain rfl := (toLower_eq_iff (by decide) (by decide) d).mp hd
    exact ⟨back, (sqlLike_escape_iff _ _).mp hback, hrest⟩
  · rintro ⟨back, hback, hrest⟩
    exact ⟨_, hrest, (sqlLike_plain_iff (by decide) _ _).mpr
      ⟨_, back, rfl, rfl, (sqlLike_escape_iff _ _).mpr hback⟩⟩

lemma sqlLike_backslash_iff (pattern text : List Char) :
    sqlLike ('\\' :: '\\' :: pattern) text = true ↔
      ∃ back, text = '\\' :: back ∧ sqlLike pattern back = true := by
  rw [sqlLike_escaped_iff]
  constructor
  · rintro ⟨d, back, rfl, hd, hback⟩
    obtain rfl := (toLower_eq_iff (by decide) (by decide) d).mp hd
    exact ⟨back, rfl, hback⟩
  · rintro ⟨back, rfl, hback⟩
    exact ⟨_, back, rfl, rfl, hback⟩

/-- In the pattern with a backslash the backslash escapes what follows it. -/
lemma sqlLike_endsLoosely_iff {value : List Char} (hne : value ≠ []) (hslash : '\\' ∉ value)
    (text : List Char) :
    sqlLike ('%' :: '\\' :: escapeSqlLikePattern value) text = true ↔ EndsLoosely value text := by
  obtain ⟨c, rest, rfl⟩ := List.exists_cons_of_ne_nil hne
  have hc : c ≠ '\\' := fun heq => hslash (heq ▸ List.mem_cons_self)
  have hflat : escapeSqlLikePattern (c :: rest) =
      (if c = '\\' ∨ c = '%' ∨ c = '_' then ['\\', c] else [c]) ++ escapeSqlLikePattern rest := by
    rw [escapeSqlLikePattern, List.flatMap_cons]
    rfl
  rw [sqlLike_percent_iff, hflat]
  by_cases hpercent : c = '%'
  · subst hpercent
    rw [if_pos (by decide), EndsLoosely]
    constructor
    · rintro ⟨whole, hwhole, hlike⟩
      obtain ⟨tail, rfl, htail⟩ := (sqlLike_backslash_iff _ _).mp hlike
      obtain ⟨back, ⟨between, rfl⟩, hback⟩ := (sqlLike_percent_iff _ _).mp htail
      exact ⟨between, back, (sqlLike_escape_iff _ _).mp hback, hwhole⟩
    · rintro ⟨between, back, hback, hwhole⟩
      refine ⟨_, hwhole, (sqlLike_backslash_iff _ _).mpr ⟨_, rfl, ?_⟩⟩
      exact (sqlLike_percent_iff _ _).mpr
        ⟨back, List.suffix_append _ _, (sqlLike_escape_iff _ _).mpr hback⟩
  · by_cases hunderscore : c = '_'
    · subst hunderscore
      have hany : ∀ tail, sqlLike ('_' :: escapeSqlLikePattern rest) tail = true ↔
          ∃ between back, tail = between :: back ∧ SameLetters back rest := by
        intro tail
        rw [sqlLike]
        rcases tail with _ | ⟨between, back⟩
        · simp
        · simp [sqlLike_escape_iff]
      rw [if_pos (by decide), EndsLoosely]
      constructor
      · rintro ⟨whole, hwhole, hlike⟩
        obtain ⟨tail, rfl, htail⟩ := (sqlLike_backslash_iff _ _).mp hlike
        obtain ⟨between, back, rfl, hback⟩ := (hany tail).mp htail
        exact ⟨between, back, hback, hwhole⟩
      · rintro ⟨between, back, hback, hwhole⟩
        exact ⟨_, hwhole, (sqlLike_backslash_iff _ _).mpr
          ⟨_, rfl, (hany _).mpr ⟨between, back, rfl, hback⟩⟩⟩
    · rw [if_neg (by tauto), List.singleton_append, EndsLoosely]
      · have hplain : ∀ whole, sqlLike ('\\' :: c :: escapeSqlLikePattern rest) whole = true ↔
            SameLetters whole (c :: rest) := by
          intro whole
          rw [← sqlLike_escape_iff, hflat, if_neg (by tauto), List.singleton_append,
            sqlLike_escaped_iff, sqlLike_plain_iff ⟨hpercent, hunderscore, hc⟩]
        simp only [hplain, and_comm]
      · exact fun _ heq => hpercent (List.cons.inj heq).1
      · exact fun _ heq => hunderscore (List.cons.inj heq).1

/-! ### The value of a filter -/

lemma separator_notMem_projectValue {filter : String} {value : List Char}
    (h : projectValue filter = some value) : value ≠ [] ∧ '/' ∉ value ∧ '\\' ∉ value := by
  unfold projectValue at h
  dsimp only at h
  split_ifs at h with hany hempty hempty
  · obtain rfl := Option.some.inj h
    refine ⟨fun hnil => hempty (List.isEmpty_iff.mpr hnil), fun hmem => ?_, fun hmem => ?_⟩
    · rw [projectBasename, String.toList_ofList, List.mem_reverse] at hmem
      simpa using List.mem_takeWhile_imp hmem
    · rw [projectBasename, String.toList_ofList, List.mem_reverse] at hmem
      have hslashed := List.mem_reverse.mp
        ((List.dropWhile_suffix _).subset ((List.takeWhile_prefix _).subset hmem))
      obtain ⟨c, -, hc⟩ := List.mem_map.mp hslashed
      split_ifs at hc with hback
      · exact absurd hc (by decide)
      · exact hback hc
  · obtain rfl := Option.some.inj h
    have hnone : ∀ c ∈ (trim filter).toList, c ≠ '\\' ∧ c ≠ '/' := by simpa using hany
    exact ⟨fun hnil => hempty (List.isEmpty_iff.mpr hnil), fun hmem => (hnone _ hmem).2 rfl,
      fun hmem => (hnone _ hmem).1 rfl⟩

lemma map_slash_eq_self {cs : List Char} (h : '\\' ∉ cs) :
    cs.map (fun c => if c = '\\' then '/' else c) = cs := by
  have hid : ∀ c ∈ cs, (if c = '\\' then '/' else c) = id c := by
    intro c hc
    exact if_neg (ne_of_mem_of_not_mem hc h)
  rw [List.map_congr_left hid, List.map_id]

lemma slashed_ofList_slashed (text : String) :
    slashed (String.ofList (slashed text)) = slashed text := by
  rw [slashed, String.toList_ofList]
  refine map_slash_eq_self ?_
  rw [slashed, List.mem_map]
  rintro ⟨c, -, hc⟩
  split_ifs at hc with hback
  · exact absurd hc (by decide)
  · exact hback hc

lemma projectValue_eq (filter : String) :
    projectValue filter =
      if (if (slashed (trim filter)).contains '/' then
          (projectBasename (String.ofList (slashed (trim filter)))).toList
        else slashed (trim filter)).isEmpty then none
      else some (if (slashed (trim filter)).contains '/' then
          (projectBasename (String.ofList (slashed (trim filter)))).toList
        else slashed (trim filter)) := by
  have hcontains : (slashed (trim filter)).contains '/' =
      (trim filter).toList.any fun c => c == '\\' || c == '/' := by
    rw [Bool.eq_iff_iff, List.contains_iff_mem, slashed, List.mem_map, List.any_eq_true]
    refine exists_congr fun c => and_congr_right fun _ => ?_
    by_cases hback : c = '\\'
    · simp [hback]
    · simp [hback]
  have hbase : projectBasename (String.ofList (slashed (trim filter))) =
      projectBasename (trim filter) := by
    rw [projectBasename, projectBasename, slashed_ofList_slashed]
  have hplain : ((trim filter).toList.any fun c => c == '\\' || c == '/') = false →
      slashed (trim filter) = (trim filter).toList := by
    intro hany
    refine map_slash_eq_self fun hmem => ?_
    have htrue : ((trim filter).toList.any fun c => c == '\\' || c == '/') = true :=
      List.any_eq_true.mpr ⟨_, hmem, rfl⟩
    rw [hany] at htrue
    cases htrue
  unfold projectValue
  rw [hcontains, hbase]
  dsimp only
  by_cases hany : ((trim filter).toList.any fun c => c == '\\' || c == '/') = true
  · simp only [if_pos hany]
  · simp only [if_neg hany, hplain (Bool.eq_false_of_not_eq_true hany)]

lemma isSuffixOf_slashed_iff {value : List Char} (hback : '\\' ∉ value) (hslash : '/' ∉ value)
    (text : String) :
    ('/' :: value).isSuffixOf (slashed text) = true ↔
      ∃ separator ∈ ['/', '\\'], separator :: value <:+ text.toList := by
  rw [List.isSuffixOf_iff_suffix]
  constructor
  · rintro ⟨front, hfront⟩
    obtain ⟨before, after, htext, -, hafter⟩ := List.map_eq_append_iff.mp hfront.symm
    obtain ⟨separator, rest, rfl, hseparator, hrest⟩ := List.map_eq_cons_iff.mp hafter
    have hnone : '\\' ∉ rest := fun hmem => hslash (hrest ▸ List.mem_map.mpr ⟨_, hmem, rfl⟩)
    have hsame : rest = value := (map_slash_eq_self hnone).symm.trans hrest
    refine ⟨separator, ?_, before, by rw [htext, hsame]⟩
    split_ifs at hseparator with hsep
    · exact List.mem_pair.mpr (.inr hsep)
    · exact List.mem_pair.mpr (.inl hseparator)
  · rintro ⟨separator, hmem, front, hfront⟩
    refine ⟨front.map fun c => if c = '\\' then '/' else c, ?_⟩
    rw [slashed, ← hfront, List.map_append, List.map_cons, map_slash_eq_self hback]
    rcases List.mem_pair.mp hmem with rfl | rfl
    · rfl
    · rfl

lemma projectMatchesFilter_some {filter text : String} (hfilter : filter ≠ "") (htext : text ≠ "") :
    projectMatchesFilter (some filter) (some text) =
      ((slashed (trim filter)).isEmpty ||
        (slashed text == (if (slashed (trim filter)).contains '/' then
            (projectBasename (String.ofList (slashed (trim filter)))).toList
          else slashed (trim filter)) ||
        ('/' :: (if (slashed (trim filter)).contains '/' then
            (projectBasename (String.ofList (slashed (trim filter)))).toList
          else slashed (trim filter))).isSuffixOf (slashed text))) := by
  have hkeep : ∀ {text : String}, text ≠ "" →
      (some text).filter (fun text => !text.toList.isEmpty) = some text := by
    intro text hne
    refine Option.filter_eq_some_iff.mpr ⟨rfl, ?_⟩
    rw [Bool.not_eq_true', List.isEmpty_eq_false_iff]
    exact fun hnil => hne (String.toList_eq_nil_iff.mp hnil)
  unfold projectMatchesFilter
  rw [hkeep hfilter, hkeep htext]
  dsimp only
  generalize slashed (trim filter) = normalized
  by_cases hempty : normalized.isEmpty = true
  · rw [if_pos hempty, hempty, Bool.true_or]
  · rw [if_neg hempty, Bool.eq_false_of_not_eq_true hempty, Bool.false_or]

lemma projectMatchesFilter_empty {filter : String} (hfilter : filter ≠ "") {project : Option String}
    (h : ∀ text ∈ project, text = "") : projectMatchesFilter (some filter) project = false := by
  have hnone : project.filter (fun text => !text.toList.isEmpty) = none := by
    rw [Option.filter_eq_none_iff]
    intro text htext
    rw [h text htext]
    decide
  have hkeep : (some filter).filter (fun text => !text.toList.isEmpty) = some filter := by
    refine Option.filter_eq_some_iff.mpr ⟨rfl, ?_⟩
    rw [Bool.not_eq_true', List.isEmpty_eq_false_iff]
    exact fun hnil => hfilter (String.toList_eq_nil_iff.mp hnil)
  unfold projectMatchesFilter
  rw [hkeep, hnone]

/-! ### Agreement -/

lemma projectFilterValue_iff {filter : String} {value : List Char}
    (h : projectValue filter = some value) (row : FilterRow) :
    projectFilterValue filter row = some true ↔ ∃ text, row.project = some text ∧
      (text.toList = value ∨ LooksLikeProject value text.toList) := by
  obtain ⟨hne, -, hback⟩ := separator_notMem_projectValue h
  unfold projectFilterValue
  rw [h]
  rcases hproject : row.project with _ | text
  · simp [projectColumnClause, SqlClause.or, FilterClause.text, projectLike, FilterParam.asText,
      hproject, SqlBool.eq]
  · simp only [projectColumnClause, SqlClause.or, FilterClause.text, projectLike, FilterParam.asText,
      hproject, SqlBool.or_eq_true_iff, List.take, List.drop, List.head?, Option.bind_some,
      Option.map_some, SqlBool.eq_eq_true_iff, Option.some.injEq, String.toList_ofList,
      sqlLike_slash_iff, sqlLike_endsLoosely_iff hne hback, exists_eq_left', LooksLikeProject]
    rw [or_comm (a := EndsLoosely _ _), ← String.toList_inj, String.toList_ofList]

/-- What `projectMatchesFilter` asks for. -/
lemma projectMatchesFilter_iff {filter : String} {value : List Char}
    (h : projectValue filter = some value) (project : Option String) :
    projectMatchesFilter (some filter) project = true ↔ ∃ text, project = some text ∧
      IsProjectOf value text.toList := by
  obtain ⟨hne, hslash, hback⟩ := separator_notMem_projectValue h
  have hfilter : filter ≠ "" := by
    rintro rfl
    rw [show projectValue "" = none by decide] at h
    cases h
  have hequal := (projectValue_eq filter).symm.trans h
  by_cases hblank : ∀ text ∈ project, text = ""
  · rw [projectMatchesFilter_empty hfilter hblank]
    refine ⟨fun hfalse => (by cases hfalse), ?_⟩
    rintro ⟨text, htext, heq | ⟨separator, -, hsuffix⟩⟩
    · rw [hblank text htext, String.toList_empty] at heq
      exact absurd heq.symm hne
    · rw [hblank text htext, String.toList_empty, List.suffix_nil] at hsuffix
      cases hsuffix
  · obtain ⟨text, rfl, htext⟩ : ∃ text, project = some text ∧ text ≠ "" := by
      simpa only [not_forall, exists_prop, Option.mem_def] using hblank
    have hnormal : slashed (trim filter) ≠ [] := by
      intro hnil
      rw [hnil] at hequal
      cases hequal
    have hsame : slashed text = value ↔ text.toList = value := by
      constructor
      · rintro rfl
        refine (map_slash_eq_self fun hmem => hslash ?_).symm
        exact List.mem_map.mpr ⟨_, hmem, rfl⟩
      · rintro rfl
        exact map_slash_eq_self hback
    rw [projectMatchesFilter_some hfilter htext]
    split_ifs at hequal with hcontains hempty hempty
    · rw [if_pos hcontains, Option.some.inj hequal, Bool.or_eq_true, Bool.or_eq_true, beq_iff_eq,
        isSuffixOf_slashed_iff hback hslash, hsame, List.isEmpty_iff, or_iff_right hnormal]
      exact ⟨fun hproject => ⟨text, rfl, hproject⟩,
        fun ⟨other, hother, hproject⟩ => Option.some.inj hother ▸ hproject⟩
    · rw [if_neg hcontains, Option.some.inj hequal, Bool.or_eq_true, Bool.or_eq_true, beq_iff_eq,
        isSuffixOf_slashed_iff hback hslash, hsame, List.isEmpty_iff, or_iff_right]
      · exact ⟨fun hproject => ⟨text, rfl, hproject⟩,
          fun ⟨other, hother, hproject⟩ => Option.some.inj hother ▸ hproject⟩
      · exact fun hnil => hne hnil

lemma projectMatchesFilter_of_blank {filter : String} (h : projectValue filter = none)
    (project : Option String) :
    projectMatchesFilter (some filter) project = true ↔
      filter = "" ∨ ∃ text ∈ project, text ≠ "" ∧
        (trim filter = "" ∨ ∃ separator ∈ ['/', '\\'], [separator] <:+ text.toList) := by
  by_cases hfilter : filter = ""
  · subst hfilter
    exact ⟨fun _ => .inl rfl, fun _ => rfl⟩
  · rw [or_iff_right hfilter]
    by_cases hblank : ∀ text ∈ project, text = ""
    · rw [projectMatchesFilter_empty hfilter hblank]
      refine ⟨fun hfalse => (by cases hfalse), ?_⟩
      exact fun ⟨text, htext, hne, _⟩ => absurd (hblank text htext) hne
    · obtain ⟨text, rfl, htext⟩ : ∃ text, project = some text ∧ text ≠ "" := by
        simpa only [not_forall, exists_prop, Option.mem_def] using hblank
      have hempty := (projectValue_eq filter).symm.trans h
      have hslashed : slashed text ≠ [] := fun hnil =>
        htext (String.toList_eq_nil_iff.mp (List.map_eq_nil_iff.mp hnil))
      have htrim : slashed (trim filter) = [] ↔ trim filter = "" :=
        List.map_eq_nil_iff.trans String.toList_eq_nil_iff
      rw [projectMatchesFilter_some hfilter htext]
      split_ifs at hempty with hcontains hnil hnil
      · rw [if_pos hcontains, List.isEmpty_iff.mp hnil, Bool.or_eq_true, Bool.or_eq_true, beq_iff_eq,
          isSuffixOf_slashed_iff List.not_mem_nil List.not_mem_nil, List.isEmpty_iff, htrim,
          or_iff_right hslashed]
        exact ⟨fun hends => ⟨text, rfl, htext, hends⟩,
          fun ⟨other, hother, _, hends⟩ => Option.some.inj hother ▸ hends⟩
      · rw [if_neg hcontains, hnil, Bool.true_or, iff_true_left rfl]
        exact ⟨text, rfl, htext, .inl (htrim.mp (List.isEmpty_iff.mp hnil))⟩

lemma looksLikeProject_of_isProjectOf {value project : List Char} (h : IsProjectOf value project) :
    project = value ∨ LooksLikeProject value project := by
  refine h.imp_right fun ⟨separator, hmem, hsuffix⟩ => ?_
  rcases List.mem_pair.mp hmem with rfl | rfl
  · exact .inr ⟨value, rfl, hsuffix⟩
  · refine .inl ?_
    unfold EndsLoosely
    split
    · exact ⟨['%'], _, rfl, hsuffix⟩
    · exact ⟨'_', _, rfl, hsuffix⟩
    · exact ⟨value, rfl, (List.suffix_cons _ _).trans hsuffix⟩

lemma projectReadsAlike_iff (filter : String) (row : FilterRow) :
    (projectFilterValue filter row = some true ↔
      projectMatchesFilter (some filter) row.project = true) ↔
    ProjectReadsAlike filter row.project := by
  unfold ProjectReadsAlike
  rcases hvalue : projectValue filter with _ | value
  · have hsql : projectFilterValue filter row = some true := by
      unfold projectFilterValue
      rw [hvalue]
    rw [iff_true_left hsql]
    exact projectMatchesFilter_of_blank hvalue row.project
  · rw [projectFilterValue_iff hvalue, projectMatchesFilter_iff hvalue]
    constructor
    · intro h text htext hlooks
      obtain ⟨other, hother, hproject⟩ := h.mp ⟨text, htext, .inr hlooks⟩
      exact Option.some.inj (htext.symm.trans hother) ▸ hproject
    · intro h
      constructor
      · rintro ⟨text, htext, heq | hlooks⟩
        · exact ⟨text, htext, .inl heq⟩
        · exact ⟨text, htext, h text htext hlooks⟩
      · exact fun ⟨text, htext, hproject⟩ =>
          ⟨text, htext, looksLikeProject_of_isProjectOf hproject⟩

end Codemem
