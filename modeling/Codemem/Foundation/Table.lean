import Mathlib

/-!
# Keyed tables

A table with a primary key is a list of key-value rows.  An insertion that meets its key either
replaces the value in place (`upsertRow`) or is ignored (`insertIfAbsent`).
-/

namespace Codemem

variable {κ β : Type*} [DecidableEq κ]

/-- The value stored under a key. -/
def lookupRow (key : κ) (rows : List (κ × β)) : Option β :=
  (rows.find? fun row => row.1 == key).map Prod.snd

/-- `INSERT … ON CONFLICT DO UPDATE`: `merge` combines the stored value with the new one. -/
def upsertRow (merge : β → β → β) (key : κ) (value : β) (rows : List (κ × β)) : List (κ × β) :=
  if (lookupRow key rows).isSome then
    rows.map fun row => if row.1 = key then (row.1, merge row.2 value) else row
  else rows ++ [(key, value)]

/-- `INSERT OR IGNORE`. -/
def insertIfAbsent (key : κ) (value : β) (rows : List (κ × β)) : List (κ × β) :=
  if (lookupRow key rows).isSome then rows else rows ++ [(key, value)]

lemma lookupRow_append (key : κ) (rows rows' : List (κ × β)) :
    lookupRow key (rows ++ rows') = (lookupRow key rows).or (lookupRow key rows') := by
  unfold lookupRow
  rw [List.find?_append]
  cases rows.find? fun row => row.1 == key with
  | none => rfl
  | some row => rfl

lemma lookupRow_singleton (key key' : κ) (value : β) :
    lookupRow key [(key', value)] = if key' = key then some value else none := by
  by_cases h : key' = key
  · simp [lookupRow, h]
  · simp [lookupRow, h]

lemma lookupRow_map_update (f : β → β) (key key' : κ) (rows : List (κ × β)) :
    lookupRow key' (rows.map fun row => if row.1 = key then (row.1, f row.2) else row) =
      if key' = key then (lookupRow key' rows).map f else lookupRow key' rows := by
  induction rows with
  | nil => simp [lookupRow]
  | cons row rows ih =>
    simp only [lookupRow] at ih ⊢
    rw [List.map_cons, List.find?_cons, List.find?_cons]
    by_cases hrow : row.1 = key'
    · by_cases hkey : key' = key
      · simp [hrow, hkey]
      · simp [hrow, hkey]
    · have hne : (row.1 == key') = false := beq_eq_false_iff_ne.mpr hrow
      by_cases hkey : row.1 = key
      · simpa [hkey, hkey ▸ hne] using ih
      · simpa [hkey, hne] using ih

/-- An upsert is read back at its key and leaves the other keys alone. -/
theorem lookupRow_upsertRow (merge : β → β → β) (key key' : κ) (value : β)
    (rows : List (κ × β)) :
    lookupRow key' (upsertRow merge key value rows) =
      if key' = key then some (((lookupRow key rows).map fun old => merge old value).getD value)
      else lookupRow key' rows := by
  unfold upsertRow
  split_ifs with hsome hkey hkey
  · obtain ⟨old, hold⟩ := Option.isSome_iff_exists.mp hsome
    rw [lookupRow_map_update (fun old => merge old value), if_pos hkey, hkey, hold]
    rfl
  · rw [lookupRow_map_update (fun old => merge old value), if_neg hkey]
  · rw [Option.not_isSome_iff_eq_none] at hsome
    rw [lookupRow_append, lookupRow_singleton, hkey, hsome]
    simp
  · rw [lookupRow_append, lookupRow_singleton, if_neg (Ne.symm hkey), Option.or_none]

/-- An ignored insertion keeps the stored value. -/
theorem lookupRow_insertIfAbsent (key key' : κ) (value : β) (rows : List (κ × β)) :
    lookupRow key' (insertIfAbsent key value rows) =
      if key' = key then some ((lookupRow key rows).getD value) else lookupRow key' rows := by
  unfold insertIfAbsent
  split_ifs with hsome hkey hkey
  · obtain ⟨old, hold⟩ := Option.isSome_iff_exists.mp hsome
    rw [hkey, hold]
    rfl
  · rfl
  · rw [Option.not_isSome_iff_eq_none] at hsome
    rw [lookupRow_append, lookupRow_singleton, hkey, hsome]
    simp
  · rw [lookupRow_append, lookupRow_singleton, if_neg (Ne.symm hkey), Option.or_none]

end Codemem
