import Codemem.Text

/-!
# Revision clocks

A revision of a memory carries the clock `(rev, updated_at, device_id)`.  `isNewerClock` compares
clocks lexicographically, the two texts by their UTF-16 code units.  The comparison is a strict
linear order, so that the newest of several revisions is well defined.
-/

namespace Codemem

/-- The clock tuple of a revision. -/
structure Clock where
  rev : ℤ
  updatedAt : String
  deviceId : String
  deriving DecidableEq, Repr

def clockTuple (rev : ℤ) (updatedAt deviceId : String) : Clock := ⟨rev, updatedAt, deviceId⟩

/-- `isNewerClock(candidate, existing)`: the candidate is strictly newer. -/
def isNewerClock (candidate existing : Clock) : Bool :=
  if candidate.rev ≠ existing.rev then decide (existing.rev < candidate.rev)
  else if candidate.updatedAt ≠ existing.updatedAt then
    decide (jsLt existing.updatedAt candidate.updatedAt)
  else decide (jsLt existing.deviceId candidate.deviceId)

/-- The position of a clock in the lexicographic order of its three parts. -/
def Clock.key (c : Clock) : ℤ ×ₗ List ℕ ×ₗ List ℕ :=
  toLex (c.rev, toLex (utf16 c.updatedAt, utf16 c.deviceId))

lemma Clock.key_injective : Function.Injective Clock.key := by
  rintro ⟨r, u, d⟩ ⟨r', u', d'⟩ h
  have h1 : (r, toLex (utf16 u, utf16 d)) = (r', toLex (utf16 u', utf16 d')) :=
    toLex.injective h
  obtain ⟨hr, h2⟩ := Prod.mk.inj h1
  obtain ⟨hu, hd⟩ := Prod.mk.inj (toLex.injective h2)
  rw [hr, utf16_injective hu, utf16_injective hd]

/-- Clocks are linearly ordered by their position. -/
noncomputable instance : LinearOrder Clock := LinearOrder.lift' Clock.key Clock.key_injective

lemma Clock.lt_iff (a b : Clock) : a < b ↔ a.key < b.key := Iff.rfl

/-- `isNewerClock` decides the strict order of clocks. -/
theorem isNewerClock_iff (candidate existing : Clock) :
    isNewerClock candidate existing = true ↔ existing < candidate := by
  rw [Clock.lt_iff]
  unfold isNewerClock Clock.key
  rw [Prod.Lex.toLex_lt_toLex]
  by_cases hr : candidate.rev = existing.rev
  · by_cases hu : candidate.updatedAt = existing.updatedAt
    · simp [hr, hu, Prod.Lex.toLex_lt_toLex, utf16Lt]
    · have hne : utf16 existing.updatedAt ≠ utf16 candidate.updatedAt :=
        fun h => hu (utf16_injective h).symm
      simp [hr, hu, Prod.Lex.toLex_lt_toLex, utf16Lt, hne]
  · simp [hr, Ne.symm hr]

lemma isNewerClock_eq_false_iff (candidate existing : Clock) :
    isNewerClock candidate existing = false ↔ candidate ≤ existing := by
  rw [← not_lt, ← isNewerClock_iff, Bool.not_eq_true]

lemma Clock.lt_of_rev_lt {a b : Clock} (h : a.rev < b.rev) : a < b := by
  rw [← isNewerClock_iff]
  simp [isNewerClock, h.ne', h]

example : isNewerClock (clockTuple 2 "2026-01-01" "a") (clockTuple 1 "2026-02-01" "b") = true := by
  decide

end Codemem
