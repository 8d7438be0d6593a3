import Codemem.Foundation.OrderedPage

/-!
# Reading a table page by page

A loop reads the entries above a cursor in order of their position, a page at a time, and moves the
cursor to the last entry it has read.  Over entries with distinct positions it reads every entry above
the first cursor once, in order.
-/

namespace Codemem

variable {α κ : Type*} [LinearOrder κ] (pos : α → κ) (limit : ℕ)

/-- The pages above a cursor; a loop may take a short page for the last one. -/
def pagesAbove (shortIsLast : Bool) : ℕ → κ → List α → List (List α)
  | 0, _, _ => []
  | fuel + 1, cursor, entries =>
    let rows := page pos limit (entriesAbove pos (some cursor) entries)
    match lastPos pos rows with
    | none => []
    | some last =>
      rows :: if shortIsLast ∧ rows.length < limit then [] else pagesAbove shortIsLast fuel last entries

variable {pos} {limit}

lemma filter_above_lastPos {l : List α} (h : l.Pairwise fun a b => pos a < pos b) {n : ℕ} {last : κ}
    (hlast : lastPos pos (l.take n) = some last) :
    l.filter (fun a => decide (last < pos a)) = l.drop n := by
  obtain ⟨entry, hentry, rfl⟩ := Option.map_eq_some_iff.mp hlast
  obtain ⟨before, hbefore⟩ := List.getLast?_eq_some_iff.mp hentry
  have hsplit : l = before ++ entry :: l.drop n := by
    rw [← List.singleton_append, ← List.append_assoc, ← hbefore, List.take_append_drop]
  rw [hsplit] at h
  have habove := filter_above_of_split h
  rw [← hsplit] at habove
  exact habove

lemma entriesAbove_filter {cursor last : κ} (hlt : cursor < last) (entries : List α) :
    (entriesAbove pos (some cursor) entries).filter (fun a => decide (last < pos a)) =
      entriesAbove pos (some last) entries := by
  unfold entriesAbove
  rw [List.filter_filter]
  refine List.filter_congr fun a _ => ?_
  by_cases ha : last < pos a
  · simp [ha, hlt.trans ha]
  · simp [ha]

lemma sortByPos_entriesAbove_eq {entries : List α} (hnodup : (entries.map pos).Nodup) {cursor last : κ}
    (hlast : lastPos pos (page pos limit (entriesAbove pos (some cursor) entries)) = some last) :
    sortByPos pos (entriesAbove pos (some cursor) entries) =
      page pos limit (entriesAbove pos (some cursor) entries) ++
        sortByPos pos (entriesAbove pos (some last) entries) := by
  have hsorted : (sortByPos pos (entriesAbove pos (some cursor) entries)).Pairwise
      fun a b => pos a < pos b :=
    pairwise_lt_sortByPos (hnodup.sublist (List.filter_sublist.map pos))
  rw [← entriesAbove_filter (lt_lastPos_page hlast), ← filter_sortByPos,
    filter_above_lastPos hsorted hlast]
  exact (List.take_append_drop limit _).symm

/-- With enough fuel the pages hold the entries above the cursor in order. -/
theorem flatten_pagesAbove (hlimit : 0 < limit) {entries : List α} (hnodup : (entries.map pos).Nodup)
    (shortIsLast : Bool) (fuel : ℕ) (cursor : κ)
    (hfuel : (entriesAbove pos (some cursor) entries).length < fuel) :
    (pagesAbove pos limit shortIsLast fuel cursor entries).flatten =
      sortByPos pos (entriesAbove pos (some cursor) entries) := by
  induction fuel generalizing cursor with
  | zero => exact absurd hfuel (Nat.not_lt_zero _)
  | succ fuel ih =>
    unfold pagesAbove
    cases hlast : lastPos pos (page pos limit (entriesAbove pos (some cursor) entries)) with
    | none =>
      rw [lastPos_eq_none_iff, page_eq_nil_iff hlimit] at hlast
      simp [hlast, page, lastPos, sortByPos]
    | some last =>
      have hless := length_entriesAbove_lt hlast
      simp only [hlast, List.flatten_cons]
      rw [sortByPos_entriesAbove_eq hnodup hlast]
      split_ifs with hshort
      · -- a page that is not full has read everything
        have hfull := hshort.2
        rw [length_page] at hfull
        have hsplit := congrArg List.length (sortByPos_entriesAbove_eq hnodup hlast)
        rw [List.length_append, length_page, (perm_sortByPos pos _).length_eq,
          (perm_sortByPos pos _).length_eq] at hsplit
        have hnil : entriesAbove pos (some last) entries = [] := by
          rw [← List.length_eq_zero_iff]
          omega
        rw [hnil]
        rfl
      · rw [ih last (by omega)]

end Codemem
