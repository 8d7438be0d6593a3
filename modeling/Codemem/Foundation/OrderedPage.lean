import Mathlib

/-!
# Pages of an ordered log

A log is a list of entries with positions in a linear order.  A page holds the first `limit`
entries above a cursor, in order of position, and its last position is the cursor of the next
page.  When positions are distinct, a page contains every entry between its cursor and the next
one, so that following the cursor until a page is empty visits every entry.
-/

namespace Codemem

variable {α κ : Type*} [LinearOrder κ] (pos : α → κ)

/-- The entries in order of position. -/
def sortByPos (entries : List α) : List α := entries.insertionSort fun a b => pos a ≤ pos b

/-- The first `limit` entries in order of position. -/
def page (limit : ℕ) (entries : List α) : List α := (sortByPos pos entries).take limit

def entriesAbove (cursor : Option κ) (entries : List α) : List α :=
  entries.filter fun a => cursor.all fun c => c < pos a

/-- The position of the last entry of a page. -/
def lastPos (entries : List α) : Option κ := entries.getLast?.map pos

variable {pos} {entries : List α} {limit : ℕ} {cursor : Option κ}

@[simp] lemma mem_sortByPos {a : α} : a ∈ sortByPos pos entries ↔ a ∈ entries := by
  simp [sortByPos]

lemma perm_sortByPos (pos : α → κ) (entries : List α) : (sortByPos pos entries).Perm entries :=
  List.perm_insertionSort _ _

@[simp] lemma sortByPos_eq_nil_iff : sortByPos pos entries = [] ↔ entries = [] := by
  rw [← List.length_eq_zero_iff, (perm_sortByPos pos entries).length_eq, List.length_eq_zero_iff]

lemma pairwise_sortByPos (pos : α → κ) (entries : List α) :
    (sortByPos pos entries).Pairwise fun a b => pos a ≤ pos b := by
  have htotal : Std.Total fun a b : α => pos a ≤ pos b := ⟨fun a b => le_total _ _⟩
  have htrans : IsTrans α fun a b => pos a ≤ pos b := ⟨fun _ _ _ => le_trans⟩
  exact List.pairwise_insertionSort _ _

lemma mem_of_mem_page {a : α} (h : a ∈ page pos limit entries) : a ∈ entries :=
  mem_sortByPos.mp (List.mem_of_mem_take h)

lemma pairwise_page (pos : α → κ) (limit : ℕ) (entries : List α) :
    (page pos limit entries).Pairwise fun a b => pos a ≤ pos b :=
  (pairwise_sortByPos pos entries).sublist (List.take_sublist _ _)

lemma length_page : (page pos limit entries).length = min limit entries.length := by
  simp [page, sortByPos, List.length_insertionSort]

lemma page_eq_nil_iff (hlimit : 0 < limit) : page pos limit entries = [] ↔ entries = [] := by
  rw [← List.length_eq_zero_iff, length_page, ← List.length_eq_zero_iff]
  omega

lemma pos_le_of_mem_page {a b : α} (ha : a ∈ page pos limit entries) (hb : b ∈ entries)
    (hnot : b ∉ page pos limit entries) : pos a ≤ pos b := by
  have hsorted := pairwise_sortByPos pos entries
  have hdrop : b ∈ (sortByPos pos entries).drop limit := by
    have hmem : b ∈ (sortByPos pos entries).take limit ++ (sortByPos pos entries).drop limit := by
      rw [List.take_append_drop]
      exact mem_sortByPos.mpr hb
    exact (List.mem_append.mp hmem).resolve_left hnot
  rw [← List.take_append_drop limit (sortByPos pos entries), List.pairwise_append] at hsorted
  exact hsorted.2.2 a ha b hdrop

lemma pos_le_lastPos {a : α} {c : κ} (hlast : lastPos pos (page pos limit entries) = some c)
    (ha : a ∈ page pos limit entries) : pos a ≤ c := by
  simp only [lastPos, Option.map_eq_some_iff] at hlast
  obtain ⟨l, hl, rfl⟩ := hlast
  obtain ⟨init, hinit⟩ := List.getLast?_eq_some_iff.mp hl
  have hsorted := pairwise_page pos limit entries
  rw [hinit] at ha hsorted
  rw [List.pairwise_append] at hsorted
  rcases List.mem_append.mp ha with ha | ha
  · exact hsorted.2.2 a ha l (List.mem_singleton_self l)
  · rw [List.mem_singleton.mp ha]

omit [LinearOrder κ] in
lemma exists_of_lastPos {entries : List α} {c : κ} (h : lastPos pos entries = some c) :
    ∃ a ∈ entries, pos a = c := by
  simp only [lastPos, Option.map_eq_some_iff] at h
  obtain ⟨l, hl, rfl⟩ := h
  exact ⟨l, List.mem_of_getLast? hl, rfl⟩

omit [LinearOrder κ] in
lemma lastPos_eq_none_iff {entries : List α} : lastPos pos entries = none ↔ entries = [] := by
  simp [lastPos]

lemma mem_entriesAbove {a : α} :
    a ∈ entriesAbove pos cursor entries ↔ a ∈ entries ∧ ∀ c ∈ cursor, c < pos a := by
  simp [entriesAbove, Option.all_eq_true]

/-- With distinct positions, a page contains every entry up to its last position. -/
theorem mem_page_of_le_lastPos (hinj : ∀ a ∈ entries, ∀ b ∈ entries, pos a = pos b → a = b)
    {a : α} {c : κ} (ha : a ∈ entries) (hlast : lastPos pos (page pos limit entries) = some c)
    (hle : pos a ≤ c) : a ∈ page pos limit entries := by
  by_contra hnot
  obtain ⟨l, hl, rfl⟩ := exists_of_lastPos hlast
  have heq : pos a = pos l := le_antisymm hle (pos_le_of_mem_page hl ha hnot)
  exact hnot (hinj a ha l (mem_of_mem_page hl) heq ▸ hl)

lemma lt_lastPos_page {c c' : κ}
    (hlast : lastPos pos (page pos limit (entriesAbove pos (some c) entries)) = some c') :
    c < c' := by
  obtain ⟨l, hl, rfl⟩ := exists_of_lastPos hlast
  exact (mem_entriesAbove.mp (mem_of_mem_page hl)).2 c rfl

lemma length_entriesAbove_lt_of_mem {a : α} {c : κ} (ha : a ∈ entriesAbove pos cursor entries)
    (hle : pos a ≤ c) :
    (entriesAbove pos (some c) entries).length < (entriesAbove pos cursor entries).length := by
  have heq : entriesAbove pos (some c) entries =
      (entriesAbove pos cursor entries).filter fun b => c < pos b := by
    rw [entriesAbove, entriesAbove, List.filter_filter]
    refine List.filter_congr fun b _ => ?_
    rw [Option.all_some, Bool.eq_iff_iff, Bool.and_eq_true, Option.all_eq_true]
    simp only [decide_eq_true_eq]
    exact ⟨fun h => ⟨h, fun c' hc' => ((mem_entriesAbove.mp ha).2 c' hc').trans
      (lt_of_le_of_lt hle h)⟩, And.left⟩
  rw [heq]
  exact List.length_filter_lt_length_iff_exists.mpr ⟨a, ha, by simpa using hle⟩

lemma length_entriesAbove_lt {c : κ}
    (hlast : lastPos pos (page pos limit (entriesAbove pos cursor entries)) = some c) :
    (entriesAbove pos (some c) entries).length < (entriesAbove pos cursor entries).length := by
  obtain ⟨l, hl, rfl⟩ := exists_of_lastPos hlast
  exact length_entriesAbove_lt_of_mem (mem_of_mem_page hl) le_rfl

/-- What lies above the old cursor and not on the page lies above the new one. -/
theorem mem_page_or_above (hinj : ∀ a ∈ entries, ∀ b ∈ entries, pos a = pos b → a = b) {a : α}
    {c : κ} (ha : a ∈ entriesAbove pos cursor entries)
    (hlast : lastPos pos (page pos limit (entriesAbove pos cursor entries)) = some c) :
    a ∈ page pos limit (entriesAbove pos cursor entries) ∨
      a ∈ entriesAbove pos (some c) entries := by
  by_cases hle : pos a ≤ c
  · refine Or.inl (mem_page_of_le_lastPos (fun x hx y hy => ?_) ha hlast hle)
    exact hinj x (mem_entriesAbove.mp hx).1 y (mem_entriesAbove.mp hy).1
  · refine Or.inr (mem_entriesAbove.mpr ⟨(mem_entriesAbove.mp ha).1, fun c' hc' => ?_⟩)
    cases hc'
    exact not_le.mp hle

/-! ### Sorting and filtering -/

section Sorted

variable (pos)

lemma filter_orderedInsert (p : α → Bool) (a : α) {l : List α}
    (h : l.Pairwise fun a b => pos a ≤ pos b) :
    (l.orderedInsert (fun a b => pos a ≤ pos b) a).filter p =
      if p a then (l.filter p).orderedInsert (fun a b => pos a ≤ pos b) a else l.filter p := by
  induction l with
  | nil =>
    by_cases ha : p a = true
    · simp [ha]
    · simp [ha]
  | cons b l ih =>
    obtain ⟨hb, hl⟩ := List.pairwise_cons.mp h
    rw [List.orderedInsert_cons]
    by_cases hle : pos a ≤ pos b
    · -- everything behind `b` is at least `a`
      have hhead : ∀ c ∈ (b :: l).filter p, pos a ≤ pos c := by
        intro c hc
        rcases List.mem_cons.mp (List.mem_filter.mp hc).1 with rfl | hc'
        · exact hle
        · exact hle.trans (hb c hc')
      rw [if_pos hle]
      by_cases ha : p a = true
      · rw [List.filter_cons_of_pos ha, if_pos ha]
        rcases hrest : (b :: l).filter p with _ | ⟨c, rest⟩
        · rfl
        · rw [List.orderedInsert_cons, if_pos (hhead c (by rw [hrest]; exact List.mem_cons_self))]
      · rw [List.filter_cons_of_neg ha, if_neg ha]
    · rw [if_neg hle]
      by_cases hkeep : p b = true
      · rw [List.filter_cons_of_pos hkeep, List.filter_cons_of_pos hkeep, ih hl]
        split_ifs
        · rw [List.orderedInsert_cons, if_neg hle]
        · rfl
      · rw [List.filter_cons_of_neg hkeep, List.filter_cons_of_neg hkeep, ih hl]

lemma filter_sortByPos (p : α → Bool) (l : List α) :
    (sortByPos pos l).filter p = sortByPos pos (l.filter p) := by
  induction l with
  | nil => rfl
  | cons a l ih =>
    have hstep : sortByPos pos (a :: l) =
        (sortByPos pos l).orderedInsert (fun a b => pos a ≤ pos b) a := rfl
    rw [hstep, filter_orderedInsert pos p a (pairwise_sortByPos pos l), ih]
    by_cases ha : p a = true
    · rw [if_pos ha, List.filter_cons_of_pos ha]
      rfl
    · rw [if_neg ha, List.filter_cons_of_neg ha]

lemma map_sortByPos {write : α → α} (hwrite : ∀ a, pos (write a) = pos a) (l : List α) :
    (sortByPos pos l).map write = sortByPos pos (l.map write) := by
  unfold sortByPos
  exact List.map_insertionSort _ _ _ _ fun a _ b _ => by rw [hwrite, hwrite]

end Sorted

lemma filter_above_of_split {before after : List α} {a : α}
    (h : (before ++ a :: after).Pairwise fun x y => pos x < pos y) :
    (before ++ a :: after).filter (fun x => pos a < pos x) = after := by
  obtain ⟨-, hafter, hbefore⟩ := List.pairwise_append.mp h
  have hlow : before.filter (fun x => decide (pos a < pos x)) = [] := by
    rw [List.filter_eq_nil_iff]
    intro x hx
    simpa using (hbefore x hx a List.mem_cons_self).le
  have hhigh : after.filter (fun x => decide (pos a < pos x)) = after := by
    rw [List.filter_eq_self]
    intro x hx
    simpa using (List.pairwise_cons.mp hafter).1 x hx
  rw [List.filter_append, hlow, List.filter_cons_of_neg (by simp), hhigh, List.nil_append]

lemma pairwise_lt_sortByPos (h : (entries.map pos).Nodup) :
    (sortByPos pos entries).Pairwise fun a b => pos a < pos b := by
  have hne : (sortByPos pos entries).Pairwise fun a b => pos a ≠ pos b := by
    have hnodup : ((sortByPos pos entries).map pos).Nodup :=
      (((perm_sortByPos pos entries).map pos).nodup_iff).mpr h
    exact List.pairwise_map.mp hnodup
  exact (pairwise_sortByPos pos entries).imp₂ (fun _ _ hle hne => lt_of_le_of_ne hle hne) hne

/-- The entries of a first page: `limit` entries, or all there are, in order, with no other entry
before one of them. -/
structure IsFirstPage (pos : α → κ) (limit : ℕ) (entries rows : List α) : Prop where
  subperm : rows.Subperm entries
  sorted : rows.Pairwise fun a b => pos a ≤ pos b
  length_eq : rows.length = min limit entries.length
  pos_le : ∀ a ∈ rows, ∀ b ∈ entries, b ∉ rows → pos a ≤ pos b

/-- A page is a first page of its entries. -/
theorem page_isFirstPage (pos : α → κ) (limit : ℕ) (entries : List α) :
    IsFirstPage pos limit entries (page pos limit entries) where
  subperm := (List.take_sublist _ _).subperm.trans (List.perm_insertionSort _ _).subperm
  sorted := pairwise_page pos limit entries
  length_eq := length_page
  pos_le := fun _ ha _ hb hnot => pos_le_of_mem_page ha hb hnot

end Codemem
