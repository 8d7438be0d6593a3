import Mathlib

/-!
# Last-writer-wins registers

A write carries a clock from a linear order and either a value or an erasure.  The register keeps
the write with the greatest clock it has seen (`Write.newest`), so the result of a run is the
greatest write, whatever the order.

A register without tombstones (`Write.lossy`) forgets an erasure that meets an empty register.  A
run of it is a run of the register from its first value on, so the order matters exactly when an
erasure can come before every value.
-/

namespace Codemem

/-- A write of a register: a clock, and the value written or `none` for an erasure. -/
structure Write (κ β : Type*) where
  clock : κ
  value : Option β

namespace Write

variable {κ β : Type*} [LinearOrder κ]

/-- Keep the newer of the stored write and the incoming one. -/
def newest : Option (Write κ β) → Write κ β → Option (Write κ β)
  | none, w => some w
  | some c, w => if c.clock < w.clock then some w else some c

/-- The register without tombstones: an empty register forgets erasures. -/
def lossy : Option (Write κ β) → Write κ β → Option (Write κ β)
  | none, w => if w.value.isSome then some w else none
  | some c, w => newest (some c) w

lemma foldl_newest_some (ws : List (Write κ β)) (c : Write κ β) :
    ∃ m, ws.foldl newest (some c) = some m ∧ (m = c ∨ m ∈ ws) ∧
      c.clock ≤ m.clock ∧ ∀ w ∈ ws, w.clock ≤ m.clock := by
  induction ws generalizing c with
  | nil => exact ⟨c, rfl, Or.inl rfl, le_rfl, by simp⟩
  | cons w ws ih =>
    rw [List.foldl_cons, newest]
    split_ifs with h
    · obtain ⟨m, hm, hmem, hle, hall⟩ := ih w
      refine ⟨m, hm, Or.inr ?_, h.le.trans hle, ?_⟩
      · rcases hmem with rfl | hmem
        · exact List.mem_cons_self
        · exact List.mem_cons_of_mem _ hmem
      · intro v hv
        rcases List.mem_cons.mp hv with rfl | hv
        · exact hle
        · exact hall v hv
    · obtain ⟨m, hm, hmem, hle, hall⟩ := ih c
      refine ⟨m, hm, hmem.imp_right (List.mem_cons_of_mem _), hle, ?_⟩
      intro v hv
      rcases List.mem_cons.mp hv with rfl | hv
      · exact (not_lt.mp h).trans hle
      · exact hall v hv

lemma foldl_newest_of_ne_nil {ws : List (Write κ β)} (h : ws ≠ []) :
    ∃ m ∈ ws, ws.foldl newest none = some m ∧ ∀ w ∈ ws, w.clock ≤ m.clock := by
  cases ws with
  | nil => exact absurd rfl h
  | cons w ws =>
    obtain ⟨m, hm, hmem, hle, hall⟩ := foldl_newest_some ws w
    refine ⟨m, ?_, hm, ?_⟩
    · rcases hmem with rfl | hmem
      · exact List.mem_cons_self
      · exact List.mem_cons_of_mem _ hmem
    · intro v hv
      rcases List.mem_cons.mp hv with rfl | hv
      · exact hle
      · exact hall v hv

/-- The register ends with the greatest write when that is the only write at its clock. -/
theorem foldl_newest_eq {ws : List (Write κ β)} {m : Write κ β} (hm : m ∈ ws)
    (hmax : ∀ w ∈ ws, w ≠ m → w.clock < m.clock) : ws.foldl newest none = some m := by
  obtain ⟨m', hm', heq, hall⟩ := foldl_newest_of_ne_nil (List.ne_nil_of_mem hm)
  rw [heq]
  by_contra hne
  exact absurd (hall m hm) (not_le.mpr (hmax m' hm' fun h => hne (by rw [h])))

lemma newest_some (c w : Write κ β) : ∃ c', newest (some c) w = some c' := by
  by_cases h : c.clock < w.clock
  · exact ⟨w, if_pos h⟩
  · exact ⟨c, if_neg h⟩

lemma foldl_lossy_some (ws : List (Write κ β)) (c : Write κ β) :
    ws.foldl lossy (some c) = ws.foldl newest (some c) := by
  induction ws generalizing c with
  | nil => rfl
  | cons w ws ih =>
    obtain ⟨c', hc'⟩ := newest_some c w
    rw [List.foldl_cons, List.foldl_cons, lossy, hc', ih c']

/-- Erasures before the first value leave the lossy register empty. -/
theorem foldl_lossy_eq (ws : List (Write κ β)) :
    ws.foldl lossy none = (ws.dropWhile fun w => w.value.isNone).foldl newest none := by
  induction ws with
  | nil => rfl
  | cons w ws ih =>
    cases hw : w.value with
    | none => simpa [lossy, hw] using ih
    | some v =>
      rw [List.foldl_cons, List.dropWhile_cons]
      simp [lossy, hw, newest, foldl_lossy_some]

lemma foldl_lossy_eq_none {ws : List (Write κ β)} (h : ∀ w ∈ ws, w.value = none) :
    ws.foldl lossy none = none := by
  rw [foldl_lossy_eq, List.dropWhile_eq_nil_iff.mpr fun w hw => by simp [h w hw]]
  rfl

/-- A value with the greatest clock survives every lossy run. -/
theorem foldl_lossy_eq_of_value {ws : List (Write κ β)} {m : Write κ β} (hm : m ∈ ws)
    (hvalue : m.value.isSome) (hmax : ∀ w ∈ ws, w ≠ m → w.clock < m.clock) :
    ws.foldl lossy none = some m := by
  rw [foldl_lossy_eq]
  refine foldl_newest_eq ?_ fun w hw => hmax w ((List.dropWhile_sublist _).subset hw)
  -- the writes dropped at the front are erasures, so the value is not among them
  rw [← List.takeWhile_append_dropWhile (p := fun w => w.value.isNone) (l := ws)] at hm
  rcases List.mem_append.mp hm with hm | hm
  · have := List.mem_takeWhile_imp hm
    simp [Option.isSome_iff_ne_none.mp hvalue] at this
  · exact hm

lemma mem_of_foldl_lossy {ws : List (Write κ β)} {m : Write κ β}
    (h : ws.foldl lossy none = some m) : m ∈ ws := by
  rw [foldl_lossy_eq] at h
  have hne : (ws.dropWhile fun w => w.value.isNone) ≠ [] := by
    intro hnil
    rw [hnil] at h
    simp at h
  obtain ⟨m', hm', heq, -⟩ := foldl_newest_of_ne_nil hne
  rw [heq] at h
  cases h
  exact (List.dropWhile_sublist _).subset hm'

/-- An erasure that comes first is forgotten: the run ends with one of the later writes. -/
theorem foldl_lossy_cons_erasure {w : Write κ β} {ws : List (Write κ β)} (hw : w.value = none)
    {m : Write κ β} (h : (w :: ws).foldl lossy none = some m) : m ∈ ws := by
  have htail : (w :: ws).foldl lossy none = ws.foldl lossy none := by
    simp [lossy, hw]
  exact mem_of_foldl_lossy (htail ▸ h)

/-- A run that contains a value does not end empty. -/
theorem foldl_lossy_ne_none {ws : List (Write κ β)} {v : Write κ β} (hv : v ∈ ws)
    (hvalue : v.value.isSome) : ws.foldl lossy none ≠ none := by
  have hne : (ws.dropWhile fun w => w.value.isNone) ≠ [] := by
    intro hnil
    have := List.dropWhile_eq_nil_iff.mp hnil v hv
    simp [Option.isSome_iff_ne_none.mp hvalue] at this
  obtain ⟨m, -, heq, -⟩ := foldl_newest_of_ne_nil hne
  rw [foldl_lossy_eq, heq]
  simp

end Write

end Codemem
