import Mathlib.Data.List.Basic
import Mathlib.Tactic.SplitIfs

/-!
# POSIX paths

`posix.normalize` resolves the segments `.` and `..` of a path and drops empty ones; a trailing
slash stays.  A relative path that does not climb out of its directory normalizes to `.`, to `./`
or to names joined by slashes, and the last are fixed.  What is left of a path is a part of its
characters.
-/

namespace Codemem

/-- The segment `..`. -/
def dotdot : List Char := ['.', '.']

def stepUp (allowAboveRoot : Bool) : List (List Char) → List (List Char)
  | [] => if allowAboveRoot then [dotdot] else []
  | last :: rest => if last = dotdot then dotdot :: last :: rest else rest

/-- One segment of a path, on the segments before it, the last first. -/
def resolveSegment (allowAboveRoot : Bool) (before : List (List Char)) (segment : List Char) :
    List (List Char) :=
  if segment = [] ∨ segment = ['.'] then before
  else if segment = dotdot then stepUp allowAboveRoot before
  else segment :: before

/-- `normalizeString`, as segments. -/
def resolveSegments (allowAboveRoot : Bool) (segments : List (List Char)) : List (List Char) :=
  (segments.foldl (resolveSegment allowAboveRoot) []).reverse

def joinSegments (segments : List (List Char)) : List Char := ['/'].intercalate segments

def slashIf (condition : Bool) : List Char := if condition then ['/'] else []

/-- `posix.normalize`, on characters. -/
def posixNormalizeChars (path : List Char) : List Char :=
  if path = [] then ['.']
  else
    let isAbsolute := path.head? == some '/'
    let trailingSeparator := path.getLast? == some '/'
    let segments := resolveSegments (!isAbsolute) (path.splitOn '/')
    if segments = [] then
      if isAbsolute then ['/'] else '.' :: slashIf trailingSeparator
    else slashIf isAbsolute ++ joinSegments segments ++ slashIf trailingSeparator

/-- `posix.normalize`. -/
def posixNormalize (path : String) : String := String.ofList (posixNormalizeChars path.toList)

/-! ### Segments -/

/-- A segment that names a file or a directory. -/
structure IsPathName (segment : List Char) : Prop where
  ne_nil : segment ≠ []
  ne_dot : segment ≠ ['.']
  ne_dotdot : segment ≠ dotdot
  no_slash : '/' ∉ segment

lemma slash_not_mem_splitOn {path segment : List Char} (h : segment ∈ path.splitOn '/') :
    '/' ∉ segment := by
  induction path generalizing segment with
  | nil =>
    rw [List.splitOn_nil, List.mem_singleton] at h
    rw [h]
    exact List.not_mem_nil
  | cons c path ih =>
    rw [List.splitOn_cons_eq_if_modifyHead] at h
    split_ifs at h with hslash
    · rcases List.mem_cons.mp h with rfl | hmem
      · exact List.not_mem_nil
      · exact ih hmem
    · cases hsplit : path.splitOn '/' with
      | nil =>
        rw [hsplit] at h
        cases h
      | cons first rest =>
        rw [hsplit, List.modifyHead_cons] at h
        rcases List.mem_cons.mp h with rfl | hmem
        · intro hmem
          rcases List.mem_cons.mp hmem with hc | hfirst
          · exact hslash (by simp [← hc])
          · exact ih (hsplit ▸ List.mem_cons_self) hfirst
        · exact ih (hsplit ▸ List.mem_cons_of_mem _ hmem)

/-- Names after steps up. -/
def IsResolved (segments : List (List Char)) : Prop :=
  ∃ (names : List (List Char)) (ups : ℕ), segments = names ++ List.replicate ups dotdot ∧
    ∀ name ∈ names, IsPathName name

lemma isResolved_resolveSegment {before : List (List Char)} {segment : List Char}
    (h : IsResolved before) (hslash : '/' ∉ segment) :
    IsResolved (resolveSegment true before segment) := by
  obtain ⟨names, ups, rfl, hnames⟩ := h
  unfold resolveSegment
  split_ifs with hskip hup
  · exact ⟨names, ups, rfl, hnames⟩
  · cases names with
    | nil =>
      refine ⟨[], ups + 1, ?_, by simp⟩
      cases ups with
      | zero => rfl
      | succ ups => simp [stepUp, List.replicate_succ]
    | cons name names =>
      have hname := hnames name List.mem_cons_self
      refine ⟨names, ups, ?_, fun other hother => hnames other (List.mem_cons_of_mem _ hother)⟩
      simp [stepUp, hname.ne_dotdot]
  · obtain ⟨hnil, hdot⟩ := not_or.mp hskip
    refine ⟨segment :: names, ups, rfl, fun name hname => ?_⟩
    rcases List.mem_cons.mp hname with rfl | hmem
    · exact ⟨hnil, hdot, hup, hslash⟩
    · exact hnames name hmem

lemma isResolved_foldl {segments before : List (List Char)} (h : IsResolved before)
    (hslash : ∀ segment ∈ segments, '/' ∉ segment) :
    IsResolved (segments.foldl (resolveSegment true) before) := by
  induction segments generalizing before with
  | nil => exact h
  | cons segment segments ih =>
    exact ih (isResolved_resolveSegment h (hslash segment List.mem_cons_self))
      fun other hother => hslash other (List.mem_cons_of_mem _ hother)

lemma foldl_resolveSegment_names (allowAboveRoot : Bool) {names before : List (List Char)}
    (h : ∀ name ∈ names, IsPathName name) :
    names.foldl (resolveSegment allowAboveRoot) before = names.reverse ++ before := by
  induction names generalizing before with
  | nil => rfl
  | cons name names ih =>
    have hname := h name List.mem_cons_self
    have hstep : resolveSegment allowAboveRoot before name = name :: before := by
      unfold resolveSegment
      rw [if_neg (not_or.mpr ⟨hname.ne_nil, hname.ne_dot⟩), if_neg hname.ne_dotdot]
    rw [List.foldl_cons, hstep, ih fun other hother => h other (List.mem_cons_of_mem _ hother)]
    simp

lemma sublist_foldl_resolveSegment (allowAboveRoot : Bool) (segments before : List (List Char)) :
    (segments.foldl (resolveSegment allowAboveRoot) before).reverse.Sublist
      (before.reverse ++ segments) := by
  induction segments generalizing before with
  | nil => simp
  | cons segment segments ih =>
    refine (ih _).trans ?_
    have hstep : (resolveSegment allowAboveRoot before segment).reverse.Sublist
        (before.reverse ++ [segment]) := by
      unfold resolveSegment
      split_ifs with hskip hup
      · exact List.sublist_append_left _ _
      · subst hup
        cases before with
        | nil =>
          cases allowAboveRoot
          · exact List.nil_sublist _
          · exact .refl _
        | cons last rest =>
          rw [stepUp]
          split_ifs
          · rw [List.reverse_cons]
          · rw [List.reverse_cons, List.append_assoc]
            exact List.sublist_append_left _ _
      · rw [List.reverse_cons]
    calc (resolveSegment allowAboveRoot before segment).reverse ++ segments
      _ |>.Sublist _ := hstep.append (.refl segments)
      _ = before.reverse ++ segment :: segments := by simp

/-! ### Joining -/

lemma sublist_joinSegments {segments segments' : List (List Char)}
    (h : segments.Sublist segments') :
    (joinSegments segments).Sublist (joinSegments segments') := by
  induction h with
  | slnil => exact .refl _
  | @cons left right segment hsub ih =>
    by_cases hright : right = []
    · subst hright
      rw [List.sublist_nil.mp hsub]
      exact List.nil_sublist _
    · unfold joinSegments at ih ⊢
      rw [List.intercalate_cons_of_ne_nil hright]
      exact ih.trans (List.sublist_append_right _ _)
  | @cons_cons left right segment hsub ih =>
    unfold joinSegments at ih ⊢
    by_cases hleft : left = []
    · subst hleft
      rw [List.intercalate_singleton]
      by_cases hright : right = []
      · rw [hright, List.intercalate_singleton]
      · rw [List.intercalate_cons_of_ne_nil hright, List.append_assoc]
        exact List.sublist_append_left _ _
    · have hright : right ≠ [] := fun hnil => hleft (List.sublist_nil.mp (hnil ▸ hsub))
      rw [List.intercalate_cons_of_ne_nil hleft, List.intercalate_cons_of_ne_nil hright]
      exact (List.Sublist.refl _).append ih

lemma splitOn_append_slash (path : List Char) :
    (path ++ ['/']).splitOn '/' = path.splitOn '/' ++ [[]] := by
  rw [List.splitOn_append_cons_self, List.splitOn_nil]

lemma resolveSegments_append_slash (allowAboveRoot : Bool) (path : List Char) :
    resolveSegments allowAboveRoot ((path ++ ['/']).splitOn '/') =
      resolveSegments allowAboveRoot (path.splitOn '/') := by
  unfold resolveSegments
  rw [splitOn_append_slash, List.foldl_append, List.foldl_cons, List.foldl_nil]
  simp [resolveSegment]

lemma sublist_resolveSegments (allowAboveRoot : Bool) (path : List Char) :
    (joinSegments (resolveSegments allowAboveRoot (path.splitOn '/'))).Sublist path := by
  have hsub := sublist_joinSegments
    (sublist_foldl_resolveSegment allowAboveRoot (path.splitOn '/') [])
  rw [List.reverse_nil, List.nil_append, joinSegments, joinSegments, List.intercalate_splitOn]
    at hsub
  exact hsub

/-! ### Relative paths -/

/-- A path that is not empty and does not begin with a slash. -/
structure IsRelative (path : List Char) : Prop where
  ne_nil : path ≠ []
  head : path.head? ≠ some '/'

lemma posixNormalizeChars_of_isRelative {path : List Char} (h : IsRelative path) :
    posixNormalizeChars path =
      if resolveSegments true (path.splitOn '/') = [] then
        '.' :: slashIf (path.getLast? == some '/')
      else joinSegments (resolveSegments true (path.splitOn '/')) ++
        slashIf (path.getLast? == some '/') := by
  have hrelative : (path.head? == some '/') = false := by simpa using h.head
  unfold posixNormalizeChars
  rw [if_neg h.ne_nil, hrelative]
  simp [slashIf]

lemma sublist_resolved (path : List Char) :
    (joinSegments (resolveSegments true (path.splitOn '/')) ++
      slashIf (path.getLast? == some '/')).Sublist path := by
  cases hlast : path.getLast? == some '/' with
  | false =>
    rw [slashIf, if_neg Bool.false_ne_true, List.append_nil]
    exact sublist_resolveSegments true path
  | true =>
    obtain ⟨front, rfl⟩ := List.getLast?_eq_some_iff.mp (beq_iff_eq.mp hlast)
    rw [resolveSegments_append_slash]
    exact (sublist_resolveSegments true front).append (.refl _)

/-- A relative path that does not climb normalizes to `.`, to `./` or to names, which are a part of
the path. -/
lemma posixNormalizeChars_names {path : List Char} (h : IsRelative path)
    (hup : posixNormalizeChars path ≠ dotdot)
    (hclimbs : ¬(dotdot ++ ['/']) <+: posixNormalizeChars path) :
    posixNormalizeChars path = ['.'] ∨ posixNormalizeChars path = ['.', '/'] ∨
      ∃ names trailing, names ≠ [] ∧ (∀ name ∈ names, IsPathName name) ∧
        posixNormalizeChars path = joinSegments names ++ slashIf trailing ∧
        (posixNormalizeChars path).Sublist path := by
  have hsub := sublist_resolved path
  rw [posixNormalizeChars_of_isRelative h] at hup hclimbs ⊢
  split_ifs at hup hclimbs ⊢ with hnil
  · cases path.getLast? == some '/' with
    | false => exact .inl rfl
    | true => exact .inr (.inl rfl)
  · refine .inr (.inr ?_)
    obtain ⟨names, ups, hstack, hnames⟩ := isResolved_foldl (show IsResolved [] from
      ⟨[], 0, rfl, by simp⟩) fun segment (h : segment ∈ path.splitOn '/') => slash_not_mem_splitOn h
    have hsegments : resolveSegments true (path.splitOn '/') =
        List.replicate ups dotdot ++ names.reverse := by
      rw [resolveSegments, hstack, List.reverse_append, List.reverse_replicate]
    rw [hsegments] at hup hclimbs hnil hsub ⊢
    cases ups with
    | zero =>
      refine ⟨names.reverse, path.getLast? == some '/', by simpa using hnil,
        fun name hname => hnames name (List.mem_reverse.mp hname), rfl, hsub⟩
    | succ ups =>
      rw [List.replicate_succ, List.cons_append] at hup hclimbs
      cases hrest : List.replicate ups dotdot ++ names.reverse with
      | nil =>
        rw [hrest] at hup hclimbs
        cases hlast : path.getLast? == some '/' with
        | false =>
          rw [hlast] at hup
          exact absurd (by simp [joinSegments, slashIf]) hup
        | true =>
          rw [hlast] at hclimbs
          exact absurd (by simp [joinSegments, slashIf]) hclimbs
      | cons next rest =>
        rw [hrest] at hclimbs
        refine absurd ?_ hclimbs
        rw [joinSegments, List.intercalate_cons_cons, List.append_assoc]
        exact List.prefix_append _ _

lemma isRelative_names {names : List (List Char)} (hne : names ≠ [])
    (hnames : ∀ name ∈ names, IsPathName name) (more : List Char) :
    IsRelative (joinSegments names ++ more) := by
  cases names with
  | nil => exact absurd rfl hne
  | cons name names =>
    have hname := hnames name List.mem_cons_self
    cases name with
    | nil => exact absurd rfl hname.ne_nil
    | cons c name =>
      have hjoin : joinSegments ((c :: name) :: names) = c :: joinSegments (name :: names) := by
        simp [joinSegments]
      rw [hjoin]
      refine ⟨List.cons_ne_nil _ _, fun hhead => ?_⟩
      rw [List.cons_append, List.head?_cons, Option.some_inj] at hhead
      exact hname.no_slash (hhead ▸ List.mem_cons_self)

lemma getLast?_joinSegments {names : List (List Char)}
    (hnames : ∀ name ∈ names, IsPathName name) :
    (joinSegments names).getLast? ≠ some '/' := by
  induction names with
  | nil => simp [joinSegments]
  | cons name names ih =>
    have hname := hnames name List.mem_cons_self
    have hrest := ih fun other hother => hnames other (List.mem_cons_of_mem _ hother)
    cases names with
    | nil =>
      rw [joinSegments, List.intercalate_singleton]
      exact fun hlast => hname.no_slash (List.mem_of_getLast? hlast)
    | cons next names =>
      have hne : joinSegments (next :: names) ≠ [] :=
        (List.append_nil (joinSegments (next :: names)) ▸ isRelative_names (List.cons_ne_nil _ _)
          (fun other hother => hnames other (List.mem_cons_of_mem _ hother)) []).ne_nil
      rw [joinSegments, List.intercalate_cons_cons]
      unfold joinSegments at hrest hne
      rw [List.getLast?_append_of_ne_nil _ hne]
      exact hrest

lemma resolveSegments_names {names : List (List Char)} (hne : names ≠ [])
    (hnames : ∀ name ∈ names, IsPathName name) :
    resolveSegments true ((joinSegments names).splitOn '/') = names := by
  rw [joinSegments, List.splitOn_intercalate '/' (fun name hname => (hnames name hname).no_slash)
    hne, resolveSegments, foldl_resolveSegment_names true hnames, List.append_nil,
    List.reverse_reverse]

lemma posixNormalizeChars_joinSegments {names : List (List Char)} (hne : names ≠ [])
    (hnames : ∀ name ∈ names, IsPathName name) (trailing : Bool) :
    posixNormalizeChars (joinSegments names ++ slashIf trailing) =
      joinSegments names ++ slashIf trailing := by
  rw [posixNormalizeChars_of_isRelative (isRelative_names hne hnames _)]
  cases trailing with
  | false =>
    have hlast : ((joinSegments names ++ slashIf false).getLast? == some '/') = false := by
      rw [slashIf, if_neg Bool.false_ne_true, List.append_nil]
      exact beq_eq_false_iff_ne.mpr (getLast?_joinSegments hnames)
    rw [hlast, slashIf, if_neg Bool.false_ne_true, List.append_nil,
      resolveSegments_names hne hnames, if_neg hne, List.append_nil]
  | true =>
    have hlast : ((joinSegments names ++ slashIf true).getLast? == some '/') = true := by
      simp [slashIf]
    rw [hlast, slashIf, if_pos rfl, resolveSegments_append_slash,
      resolveSegments_names hne hnames, if_neg hne]

end Codemem
