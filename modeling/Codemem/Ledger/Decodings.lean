import Codemem.Ledger.Encodings

/-!
# What the encoders write is what the decoders read

The decoders check a text with the rules of the encoders.  Filter summaries, scores and reason codes
are read back as they were written.  A path is normalized before it is written, and the rules are
applied to the normal form when it is read: they fail for `./`, of which nothing is left, and for a
path whose first name is a drive.
-/

namespace Codemem

variable {byteLength : ByteLength}

/-! ### Texts -/

lemma parsePersistedJson_of_boundedJson {value : Json} {name : String} {text : JsonText}
    (h : boundedJson byteLength value name = .ok text) :
    text = .encoded value ∧ parsePersistedJson byteLength (some text) = some value := by
  unfold boundedJson at h
  obtain ⟨_, hbound, htext⟩ := exists_of_bind_eq_ok h
  obtain rfl := Except.ok.inj htext
  refine ⟨rfl, ?_⟩
  unfold parsePersistedJson
  rw [Option.bind_some, if_neg (not_of_rejectIf_eq_ok hbound)]
  rfl

lemma mem_of_mem_definedEntries {keys : List String} {fields : List (String × RawValue)}
    {entry : String × Json} (h : entry ∈ definedEntries keys fields) :
    (entry.1, RawValue.value entry.2) ∈ fields := by
  obtain ⟨key, -, hentry⟩ := List.mem_filterMap.mp h
  cases hfind : fields.find? fun field => field.1 == key with
  | none =>
    rw [hfind] at hentry
    cases hentry
  | some field =>
    rw [hfind] at hentry
    obtain ⟨fieldKey, value⟩ := field
    have hkey : fieldKey = key := by simpa using List.find?_some hfind
    have hmem := List.mem_of_find?_eq_some hfind
    cases value with
    | undefined | nonFinite => cases hentry
    | value json =>
      obtain rfl := Option.some_inj.mp hentry
      rw [← hkey]
      exact hmem

/-- A filter summary is read back. -/
theorem decodeFilterSummary_serializeFilterSummary {input : List (String × RawValue)}
    {stored : Option JsonText} (h : serializeFilterSummary byteLength (some input) = .ok stored) :
    decodeFilterSummary byteLength stored =
      some (.obj (definedEntries FILTER_KEY_ORDER input)) := by
  unfold serializeFilterSummary at h
  obtain ⟨_, -, h⟩ := exists_of_bind_eq_ok h
  obtain ⟨_, hshape, h⟩ := exists_of_bind_eq_ok h
  obtain ⟨json, hjson, h⟩ := exists_of_bind_eq_ok h
  obtain rfl := Except.ok.inj h
  have hall : ∀ field ∈ input, isFilterField field = true :=
    List.all_eq_true.mp (by simpa using not_of_rejectIf_eq_ok hshape)
  unfold decodeFilterSummary
  rw [(parsePersistedJson_of_boundedJson hjson).2, Option.filter_some, if_pos]
  refine List.all_eq_true.mpr fun entry hentry => ?_
  have hfield := hall _ (mem_of_mem_definedEntries hentry)
  exact (Bool.and_eq_true_iff.mp hfield).2

/-- Scores are read back, flattened. -/
theorem decodeScoreSummary_serializeScoreSummary {input : RetrievalScoreSummary}
    {stored : Option JsonText} (h : serializeScoreSummary byteLength (some input) = .ok stored) :
    ∃ fields, flattenScoreSummary input = .ok fields ∧
      decodeScoreSummary byteLength stored =
        some (.obj (definedEntries SCORE_KEY_ORDER fields)) := by
  unfold serializeScoreSummary at h
  obtain ⟨fields, hflat, h⟩ := exists_of_bind_eq_ok h
  obtain ⟨_, hshape, h⟩ := exists_of_bind_eq_ok h
  obtain ⟨json, hjson, h⟩ := exists_of_bind_eq_ok h
  obtain rfl := Except.ok.inj h
  have hall : ∀ field ∈ fields, isScoreField field = true :=
    List.all_eq_true.mp (by simpa using not_of_rejectIf_eq_ok hshape)
  refine ⟨fields, hflat, ?_⟩
  unfold decodeScoreSummary
  rw [(parsePersistedJson_of_boundedJson hjson).2, Option.filter_some, if_pos]
  exact List.all_eq_true.mpr fun entry hentry => hall _ (mem_of_mem_definedEntries hentry)

lemma mapM_asText (texts : List String) : (texts.map Json.str).mapM Json.asText = some texts := by
  induction texts with
  | nil => rfl
  | cons text texts ih =>
    rw [List.map_cons, List.mapM_cons, ih]
    rfl

lemma decodeStringArray_of_boundedJson {texts : List String} {name : String} {text : JsonText}
    {maximum : ℕ} (h : boundedJson byteLength (.arr (texts.map Json.str)) name = .ok text)
    (hlength : texts.length ≤ maximum) :
    decodeStringArray byteLength (some text) maximum = some texts := by
  unfold decodeStringArray
  rw [(parsePersistedJson_of_boundedJson h).2]
  dsimp only
  rw [List.length_map, if_pos hlength, mapM_asText]

/-- Reason codes are read back. -/
theorem decodeReasonCodes_serializeReasonCodes {input : List String} {stored : Option JsonText}
    (h : serializeReasonCodes byteLength (some input) = .ok stored) :
    decodeReasonCodes byteLength stored = some input := by
  have hserialized := h
  unfold serializeReasonCodes at h
  obtain ⟨_, hlength, h⟩ := exists_of_bind_eq_ok h
  obtain ⟨_, -, h⟩ := exists_of_bind_eq_ok h
  obtain ⟨json, hjson, h⟩ := exists_of_bind_eq_ok h
  obtain rfl := Except.ok.inj h
  unfold decodeReasonCodes
  rw [decodeStringArray_of_boundedJson hjson (not_lt.mp (not_of_rejectIf_eq_ok hlength)),
    Option.filter_some, if_pos]
  rw [hserialized]
  rfl

/-! ### Paths -/

/-- Something is left of a path, and it is not on a drive. -/
def RereadablePath (path : String) : Prop :=
  repositoryPath path ≠ "" ∧ isAbsolutePath (repositoryPath path) = false

lemma length_utf16_le_of_sublist {cs ds : List Char} (h : cs.Sublist ds) :
    (utf16 (String.ofList cs)).length ≤ (utf16 (String.ofList ds)).length := by
  unfold utf16
  rw [String.toList_ofList, String.toList_ofList]
  exact (h.flatMap _).length_le

structure AcceptedPath (path : String) : Prop where
  relative : IsRelative (forwardSlashes path).toList
  length_le : (utf16 (forwardSlashes path)).length ≤ 1024
  ne_up : posixNormalize (forwardSlashes path) ≠ ".."
  climbs : hasPrefix "../" (posixNormalize (forwardSlashes path)) = false

lemma of_workingSetFile {path file : String} (h : workingSetFile path = .ok file) :
    AcceptedPath path ∧ file = repositoryPath path := by
  unfold workingSetFile at h
  obtain ⟨replaced, hrequired, h⟩ := exists_of_bind_eq_ok h
  unfold requiredString at hrequired
  obtain ⟨_, hbounds, hreplaced⟩ := exists_of_bind_eq_ok hrequired
  obtain rfl := Except.ok.inj hreplaced
  obtain ⟨_, hchecks, hfile⟩ := exists_of_bind_eq_ok h
  obtain ⟨hne, hlength⟩ := not_or.mp (not_of_rejectIf_eq_ok hbounds)
  obtain ⟨habsolute, hrest⟩ := not_or.mp (not_of_rejectIf_eq_ok hchecks)
  obtain ⟨hup, hclimbs⟩ := not_or.mp hrest
  refine ⟨⟨⟨fun hnil => hne ?_, fun hhead => habsolute ?_⟩, not_lt.mp hlength, hup,
    by simpa using hclimbs⟩, (Except.ok.inj hfile).symm⟩
  · exact String.toList_eq_nil_iff.mp hnil
  · unfold forwardSlashes at hhead
    rw [String.toList_ofList] at hhead
    unfold isAbsolutePath
    cases hchars : path.toList with
    | nil =>
      rw [hchars] at hhead
      cases hhead
    | cons first rest =>
      rw [hchars, List.map_cons, List.head?_cons, Option.some_inj] at hhead
      have hfirst : isPathSeparator first = true := by
        unfold isPathSeparator
        split_ifs at hhead with hback
        · simp [hback]
        · simp [hhead]
      simp [hfirst]

lemma not_dotSlash_prefix_names {names : List (List Char)} {more : List Char} (hne : names ≠ [])
    (hnames : ∀ name ∈ names, IsPathName name) :
    ¬['.', '/'] <+: joinSegments names ++ more := by
  cases names with
  | nil => exact absurd rfl hne
  | cons name names =>
    have hname := hnames name List.mem_cons_self
    match name, hname with
    | [], hname => exact absurd rfl hname.ne_nil
    | [first], hname =>
      have hjoin : ∃ rest, joinSegments ([first] :: names) = first :: rest := by
        cases names <;> exact ⟨_, by simp [joinSegments]; rfl⟩
      obtain ⟨rest, hrest⟩ := hjoin
      rw [hrest, List.cons_append, List.cons_prefix_cons]
      exact fun hstarts => hname.ne_dot (by rw [hstarts.1])
    | first :: second :: rest, hname =>
      have hjoin : joinSegments ((first :: second :: rest) :: names) =
          first :: second :: joinSegments (rest :: names) := by
        simp [joinSegments]
      rw [hjoin, List.cons_append, List.cons_append, List.cons_prefix_cons, List.cons_prefix_cons]
      rintro ⟨-, hslash, -⟩
      exact hname.no_slash (by rw [← hslash]; simp)

lemma names_of_acceptedPath {path : String} (h : AcceptedPath path)
    (hform : repositoryPath path ≠ "") :
    repositoryPath path = "." ∨ repositoryPath path = posixNormalize (forwardSlashes path) ∧
      ∃ names trailing, names ≠ [] ∧ (∀ name ∈ names, IsPathName name) ∧
      (repositoryPath path).toList = joinSegments names ++ slashIf trailing ∧
      (repositoryPath path).toList.Sublist (forwardSlashes path).toList := by
  have hchars : (posixNormalize (forwardSlashes path)).toList =
      posixNormalizeChars (forwardSlashes path).toList := String.toList_ofList
  have hup : posixNormalizeChars (forwardSlashes path).toList ≠ dotdot := fun heq =>
    h.ne_up (String.toList_inj.mp (hchars.trans heq))
  have hclimbs : ¬(dotdot ++ ['/']) <+: posixNormalizeChars (forwardSlashes path).toList := by
    rw [← hchars]
    intro hstarts
    have hchars' : "../".toList = dotdot ++ ['/'] := by decide
    have htrue := h.climbs
    rw [hasPrefix, hchars', List.isPrefixOf_iff_prefix.mpr hstarts] at htrue
    cases htrue
  unfold repositoryPath at hform ⊢
  rcases posixNormalizeChars_names h.relative hup hclimbs with hdot | hslash | hnames
  · have hnormal : posixNormalize (forwardSlashes path) = "." :=
      String.toList_inj.mp (hchars.trans hdot)
    rw [hnormal]
    exact .inl (by decide)
  · have hnormal : posixNormalize (forwardSlashes path) = "./" :=
      String.toList_inj.mp (hchars.trans hslash)
    rw [hnormal] at hform
    exact absurd (by decide) hform
  · obtain ⟨names, trailing, hne, hall, hjoin, hsub⟩ := hnames
    have hkept : withoutDotSlash (posixNormalize (forwardSlashes path)) =
        posixNormalize (forwardSlashes path) := by
      unfold withoutDotSlash
      refine if_neg fun hstarts => ?_
      rw [hasPrefix, List.isPrefixOf_iff_prefix, hchars, hjoin] at hstarts
      exact not_dotSlash_prefix_names hne hall hstarts
    rw [hkept, hchars]
    exact .inr ⟨rfl, names, trailing, hne, hall, hjoin, hsub⟩

lemma forwardSlashes_of_sublist {path text : String}
    (h : text.toList.Sublist (forwardSlashes path).toList) : forwardSlashes text = text := by
  have hkeep : text.toList.map (fun c => if c = '\\' then '/' else c) = text.toList := by
    refine (List.map_congr_left fun c hc => if_neg fun hback => ?_).trans (List.map_id _)
    have hmem := h.subset hc
    unfold forwardSlashes at hmem
    rw [String.toList_ofList] at hmem
    obtain ⟨d, -, hd⟩ := List.mem_map.mp hmem
    split_ifs at hd with hslash
    · rw [hback] at hd
      exact absurd hd (by decide)
    · exact hslash (hd.trans hback)
  unfold forwardSlashes
  rw [hkeep, String.ofList_toList]

lemma workingSetFile_repositoryPath {path : String} (h : AcceptedPath path)
    (hform : RereadablePath path) : workingSetFile (repositoryPath path) = .ok (repositoryPath path) := by
  obtain ⟨hne, habsolute⟩ := hform
  rcases names_of_acceptedPath h hne with
    hdot | ⟨hsame, names, trailing, hnames, hall, hchars, hsub⟩
  · rw [hdot]
    decide
  · have hslashes : forwardSlashes (repositoryPath path) = repositoryPath path :=
      forwardSlashes_of_sublist hsub
    have hnormal : posixNormalize (repositoryPath path) = repositoryPath path := by
      rw [posixNormalize, hchars, posixNormalizeChars_joinSegments hnames hall, ← hchars,
        String.ofList_toList]
    have hlength : (utf16 (repositoryPath path)).length ≤ 1024 := by
      have hle := length_utf16_le_of_sublist hsub
      rw [String.ofList_toList, String.ofList_toList] at hle
      exact hle.trans h.length_le
    have hstarts : hasPrefix "./" (repositoryPath path) = false := by
      refine Bool.eq_false_of_not_eq_true fun hstarts => ?_
      rw [hasPrefix, List.isPrefixOf_iff_prefix, hchars] at hstarts
      exact not_dotSlash_prefix_names hnames hall hstarts
    have hrequired : requiredString (repositoryPath path) "workingSetFiles" 1024 =
        .ok (repositoryPath path) := by
      unfold requiredString
      rw [rejectIf_of_not (not_or.mpr ⟨hne, not_lt.mpr hlength⟩)]
      rfl
    have hclimbs : hasPrefix "../" (repositoryPath path) = false := hsame ▸ h.climbs
    have hkept : withoutDotSlash (repositoryPath path) = repositoryPath path :=
      if_neg (by rw [hstarts]; exact Bool.false_ne_true)
    have hchecks : ¬(isAbsolutePath (repositoryPath path) = true ∨ repositoryPath path = ".." ∨
        hasPrefix "../" (repositoryPath path) = true) := by
      rw [habsolute, hclimbs]
      simpa using hsame ▸ h.ne_up
    unfold workingSetFile
    rw [hslashes, hrequired, bind_ok]
    dsimp only
    rw [hnormal, rejectIf_of_not hchecks, bind_ok, hkept]

lemma workingSetFile_repositoryPath_ne_ok {path : String} (hform : ¬RereadablePath path)
    (file : String) : workingSetFile (repositoryPath path) ≠ .ok file := by
  intro hok
  have haccepted := (of_workingSetFile hok).1
  refine hform ⟨fun hempty => ?_, ?_⟩
  · rw [hempty] at haccepted
    exact haccepted.relative.ne_nil (by decide)
  · unfold workingSetFile at hok
    obtain ⟨_, -, hok⟩ := exists_of_bind_eq_ok hok
    obtain ⟨_, hchecks, -⟩ := exists_of_bind_eq_ok hok
    exact Bool.eq_false_of_not_eq_true (not_or.mp (not_of_rejectIf_eq_ok hchecks)).1

lemma mapM_eq_ok {α β : Type} {f : α → Except String β} {g : α → β} {as : List α}
    (h : ∀ a ∈ as, f a = .ok (g a)) : as.mapM f = .ok (as.map g) := by
  induction as with
  | nil => rfl
  | cons a as ih =>
    rw [List.mapM_cons, h a List.mem_cons_self, bind_ok,
      ih fun b hb => h b (List.mem_cons_of_mem _ hb)]
    rfl

lemma serializeWorkingSetFiles_some (input : List String) :
    serializeWorkingSetFiles byteLength (some input) =
      (rejectIf (50 < input.length) "workingSetFiles exceeds 50 paths" >>= fun _ =>
        input.mapM workingSetFile >>= fun paths =>
          boundedJson byteLength (.arr (paths.map Json.str)) "workingSetFiles" >>= fun json =>
            .ok (some json)) := rfl

/-- The files of a working set are read back exactly when each path keeps its form. -/
theorem decodeWorkingSetFiles_serializeWorkingSetFiles {input : List String}
    {stored : Option JsonText}
    (h : serializeWorkingSetFiles byteLength (some input) = .ok stored) :
    decodeWorkingSetFiles byteLength stored = some (input.map repositoryPath) ↔
      ∀ path ∈ input, RereadablePath path := by
  rw [serializeWorkingSetFiles_some] at h
  obtain ⟨_, hlength, h⟩ := exists_of_bind_eq_ok h
  obtain ⟨paths, hpaths, h⟩ := exists_of_bind_eq_ok h
  obtain ⟨json, hjson, h⟩ := exists_of_bind_eq_ok h
  obtain rfl := Except.ok.inj h
  have haccepted : ∀ path ∈ input, AcceptedPath path ∧
      workingSetFile path = .ok (repositoryPath path) := by
    intro path hpath
    obtain ⟨file, hfile⟩ := exists_of_mapM_eq_ok hpaths hpath
    obtain ⟨hok, hsame⟩ := of_workingSetFile hfile
    exact ⟨hok, hsame ▸ hfile⟩
  have hmapped : paths = input.map repositoryPath :=
    Except.ok.inj (hpaths.symm.trans (mapM_eq_ok fun path hpath => (haccepted path hpath).2))
  subst hmapped
  have hbound : (input.map repositoryPath).length ≤ 50 := by
    rw [List.length_map]
    exact not_lt.mp (not_of_rejectIf_eq_ok hlength)
  have hdecoded : decodeWorkingSetFiles byteLength (some json) =
      if (serializeWorkingSetFiles byteLength (some (input.map repositoryPath))).isOk = true then
        some (input.map repositoryPath) else none := by
    unfold decodeWorkingSetFiles
    rw [decodeStringArray_of_boundedJson hjson hbound, Option.filter_some]
  have hagain : (serializeWorkingSetFiles byteLength (some (input.map repositoryPath))).isOk = true ↔
      ∀ path ∈ input, RereadablePath path := by
    constructor
    · intro hok path hpath
      by_contra hform
      obtain ⟨text, htext⟩ := exists_of_isOk hok
      rw [serializeWorkingSetFiles_some] at htext
      obtain ⟨_, -, htext⟩ := exists_of_bind_eq_ok htext
      obtain ⟨files, hfiles, -⟩ := exists_of_bind_eq_ok htext
      obtain ⟨file, hfile⟩ := exists_of_mapM_eq_ok hfiles (List.mem_map_of_mem hpath)
      exact workingSetFile_repositoryPath_ne_ok hform file hfile
    · intro hforms
      have hfiles : (input.map repositoryPath).mapM workingSetFile =
          .ok (input.map repositoryPath) := by
        refine (mapM_eq_ok (g := fun file => file) fun file hfile => ?_).trans (by rw [List.map_id'])
        obtain ⟨path, hpath, rfl⟩ := List.mem_map.mp hfile
        exact workingSetFile_repositoryPath (haccepted path hpath).1 (hforms path hpath)
      have hagain : serializeWorkingSetFiles byteLength (some (input.map repositoryPath)) =
          .ok (some json) := by
        rw [serializeWorkingSetFiles_some, rejectIf_of_not (not_lt.mpr hbound), bind_ok, hfiles,
          bind_ok, hjson, bind_ok]
      rw [hagain]
      rfl
  rw [hdecoded, ← hagain]
  by_cases hok : (serializeWorkingSetFiles byteLength (some (input.map repositoryPath))).isOk = true
  · rw [if_pos hok]
    exact iff_of_true rfl hok
  · rw [if_neg hok]
    exact iff_of_false (fun hnone => by cases hnone) hok

end Codemem
