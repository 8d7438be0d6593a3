import Codemem.RawEvents.Sweeper
import Codemem.Foundation.Trace

/-!
# Wake-ups of the sweeper

A marked session (`autoFlushPending`) must have a flush to come: one that runs, a boundary flush
that waits, or a timer.  A session without any of these is stranded.  All actions but two leave no
new session stranded: `flushNow` spends the marker when it gives the lock back, a tick does not,
and a timer that fires inside the auth back-off is lost.  A run strands no session exactly when no
step of these two kinds hits a marked session that nothing else will wake
(`wakeUps_scheduled_iff`).
-/

namespace Codemem

namespace Sweeper

/-- Every marked session of a sweeper that does not stop has a flush that runs, one that waits, or
a timer. -/
def WakeUpScheduled (s : Sweeper) : Prop :=
  ∀ key, s.autoFlushPending key = true → s.stopping = false →
    s.sessionFlushPromises key = none → s.sessionBoundaryWaiters key = 0 →
      s.autoFlushTimers key = true

/-- A marked session that nothing will wake. -/
structure Stranded (s : Sweeper) (key : String) : Prop where
  marked : s.autoFlushPending key = true
  unlocked : s.sessionFlushPromises key = none
  unawaited : s.sessionBoundaryWaiters key = 0
  untimed : s.autoFlushTimers key = false

/-- A stopping sweeper has no markers. -/
def StopCleared (s : Sweeper) : Prop :=
  s.stopping = true → ∀ key, s.autoFlushPending key = false

lemma StopCleared.wakeUpScheduled_iff {s : Sweeper} (h : s.StopCleared) :
    s.WakeUpScheduled ↔ ∀ key, ¬ s.Stranded key := by
  constructor
  · rintro hw key ⟨marked, unlocked, unawaited, untimed⟩
    have hrunning : s.stopping = false := by
      by_contra hstop
      simp [h (by simpa using hstop) key] at marked
    simp [hw key marked hrunning unlocked unawaited] at untimed
  · intro hs key marked _ unlocked unawaited
    by_contra untimed
    exact hs key ⟨marked, unlocked, unawaited, by simpa using untimed⟩

variable {s : Sweeper} {key k : String}

lemma Stranded.of_agree {s' : Sweeper} (h : s'.Stranded k)
    (hpending : s'.autoFlushPending k = s.autoFlushPending k)
    (hlock : s'.sessionFlushPromises k = s.sessionFlushPromises k)
    (hwaiters : s'.sessionBoundaryWaiters k = s.sessionBoundaryWaiters k)
    (htimer : s'.autoFlushTimers k = s.autoFlushTimers k) : s.Stranded k :=
  ⟨hpending ▸ h.marked, hlock ▸ h.unlocked, hwaiters ▸ h.unawaited, htimer ▸ h.untimed⟩

lemma not_stranded_of_busy
    (h : s.sessionFlushPromises key ≠ none ∨ s.sessionBoundaryWaiters key ≠ 0) :
    ¬ s.Stranded key := by
  rintro ⟨-, unlocked, unawaited, -⟩
  rcases h with h | h
  · exact h unlocked
  · exact h unawaited

/-! ### What each action strands -/

lemma acquireSessionFlush_eq_some_iff {holder : FlushHolder} {s' : Sweeper} :
    s.acquireSessionFlush key holder = some s' ↔
      s.sessionFlushPromises key = none ∧ s.sessionBoundaryWaiters key = 0 ∧
        s' = s.setLock key (some holder) := by
  unfold acquireSessionFlush
  split
  · rename_i h
    simp only [reduceCtorEq, false_iff, not_and]
    intro hnone
    simp [hnone] at h
  · rename_i h
    split
    · rename_i hwait
      simp only [reduceCtorEq, false_iff, not_and]
      intro _ hzero
      omega
    · rename_i hwait
      simp only [Option.some.injEq, Option.not_isSome_iff_eq_none] at h ⊢
      exact ⟨fun heq => ⟨h, by omega, heq.symm⟩, fun heq => heq.2.2.symm⟩

lemma acquireSessionFlush_eq_none {holder : FlushHolder}
    (h : s.acquireSessionFlush key holder = none) :
    s.sessionFlushPromises key ≠ none ∨ s.sessionBoundaryWaiters key ≠ 0 := by
  unfold acquireSessionFlush at h
  split at h
  · rename_i hlock
    left
    intro hnone
    simp [hnone] at hlock
  · split at h
    · rename_i hwait
      right
      omega
    · cases h

lemma Stranded.of_setPending (h : (s.setPending key true).Stranded k)
    (hbusy : s.sessionFlushPromises key ≠ none ∨ s.sessionBoundaryWaiters key ≠ 0) :
    s.Stranded k := by
  rcases eq_or_ne k key with rfl | hne
  · exact absurd h (not_stranded_of_busy hbusy)
  · exact h.of_agree (by simp [setPending, hne]) rfl rfl rfl

lemma Stranded.of_setTimer (h : (s.setTimer key true).Stranded k) : s.Stranded k := by
  rcases eq_or_ne k key with rfl | hne
  · simpa [setTimer] using h.untimed
  · exact h.of_agree rfl rfl rfl (by simp [setTimer, hne])

lemma Stranded.of_locked {holder : FlushHolder}
    (h : ((s.setLock key (some holder)).setTimer key false).Stranded k) : s.Stranded k := by
  rcases eq_or_ne k key with rfl | hne
  · simpa [setLock, setTimer] using h.unlocked
  · exact h.of_agree rfl (by simp [setLock, setTimer, hne]) rfl (by simp [setLock, setTimer, hne])

lemma Stranded.of_flushNow {now : ℕ} (h : (s.flushNow key now).Stranded k) :
    s.Stranded k ∧ (k = key → s.shouldDeferFlush now false = true) := by
  unfold flushNow at h
  split at h
  · rename_i hdefer
    exact ⟨h, fun _ => hdefer⟩
  · rename_i hnow
    suffices hk : k ≠ key ∧ s.Stranded k from ⟨hk.2, fun heq => absurd heq hk.1⟩
    cases hacquire : s.acquireSessionFlush key .flushNow with
    | none =>
      rw [hacquire] at h
      have hbusy := acquireSessionFlush_eq_none hacquire
      have hbefore : s.Stranded k := h.of_setPending hbusy
      refine ⟨?_, hbefore⟩
      rintro rfl
      exact not_stranded_of_busy hbusy hbefore
    | some acquired =>
      rw [hacquire] at h
      obtain ⟨-, -, rfl⟩ := acquireSessionFlush_eq_some_iff.mp hacquire
      refine ⟨?_, h.of_locked⟩
      rintro rfl
      simpa [setLock, setTimer] using h.unlocked

lemma Stranded.of_scheduleAutoFlush {now : ℕ} {debounceMs : ℤ}
    (h : (s.scheduleAutoFlush key now debounceMs).Stranded k) : s.Stranded k := by
  unfold scheduleAutoFlush at h
  split_ifs at h with _ hlock
  · exact h
  · exact h.of_setPending (.inl fun hnone => by simp [hnone] at hlock)
  · exact h.of_flushNow.1
  · exact h.of_setTimer

lemma Stranded.of_nudge {lowerCase : String → String} {id source : String} {now : ℕ}
    {enabled : Bool} {debounceMs : ℤ}
    (h : (s.nudge lowerCase id source now enabled debounceMs).Stranded k) : s.Stranded k := by
  unfold nudge at h
  dsimp only at h
  split_ifs at h with _ _ _ _ hlock
  · exact h
  · exact h
  · exact h
  · exact h
  · exact h.of_setPending (.inl fun hnone => by simp [hnone] at hlock)
  · exact h.of_flushNow.1
  · exact h.of_setTimer

lemma Stranded.of_flushBoundary {lowerCase : String → String} {id source : String}
    (h : (s.flushBoundary lowerCase id source).Stranded k) : s.Stranded k := by
  unfold flushBoundary at h
  dsimp only at h
  split_ifs at h with _ _ hlock
  · exact h
  · exact h
  · rcases eq_or_ne k (sessionKey (sourceNorm lowerCase source) (trim id)) with rfl | hne
    · simpa [setWaiters] using h.unawaited
    · exact h.of_agree rfl rfl (by simp [setWaiters, hne]) rfl
  · exact h.of_locked

lemma Stranded.of_boundaryResumes (h : (s.boundaryResumes key).Stranded k) : s.Stranded k := by
  unfold boundaryResumes at h
  split_ifs at h
  · exact h
  · exact h
  · have hwait := h.of_locked
    rcases eq_or_ne k key with rfl | hne
    · simpa [setLock, setTimer] using h.unlocked
    · exact hwait.of_agree rfl rfl (by simp [setWaiters, hne]) rfl

lemma Stranded.of_resumePending {now : ℕ} {debounceMs : ℤ}
    (h : (s.resumePending key now debounceMs).Stranded k) : k ≠ key ∧ s.Stranded k := by
  unfold resumePending at h
  split_ifs at h with hspend
  · have hspent := h.of_scheduleAutoFlush
    rcases eq_or_ne k key with rfl | hne
    · simpa [setPending] using hspent.marked
    · exact ⟨hne, hspent.of_agree (by simp [setPending, hne]) rfl rfl rfl⟩
  · refine ⟨?_, h⟩
    rintro rfl
    simp [h.marked, h.unawaited] at hspend

lemma Stranded.of_flushEnds {outcome : FlushOutcome} {now : ℕ} {debounceMs : ℤ}
    (h : (s.flushEnds key outcome now debounceMs).Stranded k) : s.Stranded k := by
  unfold flushEnds at h
  dsimp only at h
  split at h
  · obtain ⟨hne, hreleased⟩ := h.of_resumePending
    refine hreleased.of_agree ?_ ?_ ?_ ?_
    all_goals split <;> simp [setLock, handleAuthError, hne]
  · exact h

lemma Stranded.of_tickStarts {enabled : Bool} {now : ℕ} {queued : List (String × String)}
    (h : (s.tickStarts enabled now queued).Stranded k) : s.Stranded k := by
  unfold tickStarts at h
  split_ifs at h
  · exact h
  · exact h
  · exact h
  · exact h.of_agree rfl rfl rfl rfl

lemma Stranded.of_tickVisits {tick : SweeperTick} {source streamId : String}
    {rest : List (String × String)} (h : (s.tickVisits tick source streamId rest).Stranded k) :
    s.Stranded k := by
  unfold tickVisits at h
  dsimp only at h
  split at h
  · exact h.of_agree rfl rfl rfl rfl
  split at h
  · exact h.of_agree rfl rfl rfl rfl
  split at h
  · exact h.of_agree rfl rfl rfl rfl
  · rename_i acquired hacquire
    obtain ⟨-, -, rfl⟩ := acquireSessionFlush_eq_some_iff.mp hacquire
    rcases eq_or_ne k (sessionKey source streamId) with rfl | hne
    · simpa [setLock] using h.unlocked
    · exact h.of_agree rfl (by simp [setLock, hne]) rfl rfl

lemma Stranded.of_tickAdvances {pending : List (String × String)}
    (h : (s.tickAdvances pending).Stranded k) : s.Stranded k := by
  unfold tickAdvances at h
  split at h
  · exact h
  split at h
  · exact h
  split at h
  · exact h
  · exact h.of_agree rfl rfl rfl rfl
  · split at h
    · exact h.of_agree rfl rfl rfl rfl
    · exact h.of_agree rfl rfl rfl rfl
  · exact h.of_tickVisits

lemma Stranded.of_tickRecovers {outcome : FlushOutcome} {now : ℕ}
    (h : (s.tickRecovers outcome now).Stranded k) : s.Stranded k := by
  unfold tickRecovers at h
  dsimp only at h
  split at h
  · exact h
  split at h
  · refine h.of_agree ?_ ?_ ?_ ?_
    all_goals split <;> rfl
  · exact h

lemma not_stranded_stop : ¬ s.stop.Stranded k := fun h => by simpa [stop] using h.marked

/-! ### The two actions that can strand a session -/

lemma stranded_setLock_none_iff (hbefore : ¬ s.Stranded k) :
    (s.setLock key none).Stranded k ↔
      key = k ∧ s.autoFlushPending k = true ∧ s.sessionBoundaryWaiters k = 0 ∧
        s.autoFlushTimers k = false := by
  constructor
  · intro h
    rcases eq_or_ne key k with rfl | hne
    · exact ⟨rfl, h.marked, h.unawaited, h.untimed⟩
    · exact (hbefore (h.of_agree rfl (by simp [setLock, hne.symm]) rfl rfl)).elim
  · rintro ⟨rfl, marked, unawaited, untimed⟩
    exact ⟨marked, by simp [setLock], unawaited, untimed⟩

lemma stranded_tickFlushEnds_iff {outcome : FlushOutcome} {now : ℕ} (hbefore : ¬ s.Stranded k) :
    (s.tickFlushEnds outcome now).Stranded k ↔
      ∃ tick, s.currentTick = some tick ∧ tick.held = some k ∧ s.autoFlushPending k = true ∧
        s.sessionBoundaryWaiters k = 0 ∧ s.autoFlushTimers k = false := by
  unfold tickFlushEnds
  split
  case h_1 hnone => simp [hnone, hbefore]
  case h_2 tick htick =>
    split
    case h_1 hfree => simp [htick, hfree, hbefore]
    case h_2 key hheld =>
      simp only [htick, Option.some.injEq, exists_eq_left', hheld]
      rw [← stranded_setLock_none_iff hbefore]
      cases outcome with
      | flushed =>
        exact ⟨fun h => h.of_agree rfl rfl rfl rfl, fun h => h.of_agree rfl rfl rfl rfl⟩
      | authError =>
        exact ⟨fun h => h.of_agree rfl rfl rfl rfl, fun h => h.of_agree rfl rfl rfl rfl⟩
      | otherError =>
        exact ⟨fun h => h.of_agree rfl rfl rfl rfl, fun h => h.of_agree rfl rfl rfl rfl⟩

lemma stranded_timerFires_iff {now : ℕ} (hbefore : ¬ s.Stranded k) :
    (s.timerFires key now).Stranded k ↔
      key = k ∧ s.autoFlushTimers k = true ∧ s.shouldDeferFlush now false = true ∧
        s.autoFlushPending k = true ∧ s.sessionFlushPromises k = none ∧
          s.sessionBoundaryWaiters k = 0 := by
  unfold timerFires
  split
  case isFalse htimer =>
    refine iff_of_false hbefore ?_
    rintro ⟨rfl, hrunning, -⟩
    exact htimer hrunning
  case isTrue htimer =>
    constructor
    · intro h
      obtain ⟨hcleared, hdefer⟩ := h.of_flushNow
      rcases eq_or_ne key k with rfl | hne
      · exact ⟨rfl, htimer, hdefer rfl, hcleared.marked, hcleared.unlocked, hcleared.unawaited⟩
      · exact (hbefore (hcleared.of_agree rfl rfl rfl (by simp [setTimer, hne.symm]))).elim
    · rintro ⟨rfl, -, hdefer, marked, unlocked, unawaited⟩
      have hdeferred : (s.setTimer key false).shouldDeferFlush now false = true := hdefer
      rw [flushNow, if_pos hdeferred]
      exact ⟨marked, unlocked, unawaited, by simp [setTimer]⟩

/-! ### Runs -/

/-- The condition on a step: the flush of a tick does not give back the lock of a marked session
for which no boundary flush waits and no timer runs, and the timer of a marked session that has no
other flush to come does not fire inside the auth back-off. -/
def KeepsWakeUps (s : Sweeper) : SweeperAction → Prop
  | .tickFlushEnds _ _ => ∀ tick key, s.currentTick = some tick → tick.held = some key →
      s.autoFlushPending key = true →
        s.sessionBoundaryWaiters key ≠ 0 ∨ s.autoFlushTimers key = true
  | .timerFires key now => s.autoFlushTimers key = true → s.autoFlushPending key = true →
      now < s.authBackoffUntil →
        s.sessionFlushPromises key ≠ none ∨ s.sessionBoundaryWaiters key ≠ 0
  | _ => True

/-- A sweeper that stops and has the session marked. -/
def MarkedStopping (s : Sweeper) (key : String) : Prop :=
  s.stopping = true ∧ s.autoFlushPending key = true

lemma MarkedStopping.of_flushNow {now : ℕ} (h : (s.flushNow key now).MarkedStopping k) :
    s.MarkedStopping k := by
  unfold MarkedStopping at *
  grind [flushNow, shouldDeferFlush, acquireSessionFlush, setPending, setTimer, setLock]

lemma MarkedStopping.of_scheduleAutoFlush {now : ℕ} {debounceMs : ℤ}
    (h : (s.scheduleAutoFlush key now debounceMs).MarkedStopping k) : s.MarkedStopping k := by
  have hflush := @MarkedStopping.of_flushNow s key k now
  unfold MarkedStopping at *
  grind [scheduleAutoFlush, setPending, setTimer]

lemma MarkedStopping.of_resumePending {now : ℕ} {debounceMs : ℤ}
    (h : (s.resumePending key now debounceMs).MarkedStopping k) : s.MarkedStopping k := by
  unfold resumePending at h
  split_ifs at h
  · have hspent := h.of_scheduleAutoFlush
    rcases eq_or_ne k key with rfl | hne
    · simpa [setPending] using hspent.2
    · exact ⟨hspent.1, by simpa [setPending, hne] using hspent.2⟩
  · exact h

lemma MarkedStopping.of_flushEnds {outcome : FlushOutcome} {now : ℕ} {debounceMs : ℤ}
    (h : (s.flushEnds key outcome now debounceMs).MarkedStopping k) : s.MarkedStopping k := by
  unfold flushEnds at h
  dsimp only at h
  split_ifs at h
  · exact h.of_resumePending
  · exact h.of_resumePending
  · exact h

lemma MarkedStopping.of_tickAdvances {pending : List (String × String)}
    (h : (s.tickAdvances pending).MarkedStopping k) : s.MarkedStopping k := by
  have hvisit : ∀ tick source streamId rest,
      (s.tickVisits tick source streamId rest).MarkedStopping k → s.MarkedStopping k := by
    intro tick source streamId rest h
    unfold tickVisits at h
    dsimp only at h
    split at h
    · exact h
    split at h
    · exact h
    split at h
    · exact h
    · rename_i acquired hacquire
      obtain ⟨-, -, rfl⟩ := acquireSessionFlush_eq_some_iff.mp hacquire
      exact h
  unfold tickAdvances at h
  split at h
  · exact h
  split at h
  · exact h
  split at h
  · exact h
  · exact h
  · split at h
    · exact h
    · exact h
  · exact hvisit _ _ _ _ h

/-- A step that leaves the sweeper stopping with a session marked started from such a state. -/
lemma MarkedStopping.of_step {lowerCase : String → String} {action : SweeperAction}
    (h : (s.step lowerCase action).MarkedStopping k) : s.MarkedStopping k := by
  cases action with
  | nudge id source now enabled debounceMs =>
    change (s.nudge lowerCase id source now enabled debounceMs).MarkedStopping k at h
    unfold nudge at h
    dsimp only at h
    split_ifs at h with hstop
    · exact h
    · exact h
    · exact h
    · exact h
    · exact absurd h.1 hstop
    · exact h.of_flushNow
    · exact absurd h.1 hstop
  | flushBoundary id source =>
    change (s.flushBoundary lowerCase id source).MarkedStopping k at h
    unfold flushBoundary at h
    dsimp only at h
    split_ifs at h
    · exact h
    · exact h
    · exact h
    · exact h
  | boundaryResumes key =>
    change (s.boundaryResumes key).MarkedStopping k at h
    unfold boundaryResumes at h
    split_ifs at h
    · exact h
    · exact h
    · exact h
  | timerFires key now =>
    change (s.timerFires key now).MarkedStopping k at h
    unfold timerFires at h
    split_ifs at h
    · exact h.of_flushNow
    · exact h
  | flushEnds key outcome now debounceMs => exact h.of_flushEnds
  | tickStarts enabled now queued =>
    change (s.tickStarts enabled now queued).MarkedStopping k at h
    unfold tickStarts at h
    split_ifs at h
    · exact h
    · exact h
    · exact h
    · exact h
  | tickAdvances pending => exact h.of_tickAdvances
  | tickFlushEnds outcome now =>
    unfold MarkedStopping at *
    grind [step, tickFlushEnds, setLock, handleAuthError]
  | tickRecovers outcome now =>
    unfold MarkedStopping at *
    grind [step, tickRecovers, handleAuthError]
  | stop => exact absurd h.2 (by simp [step, stop])
  | start => exact absurd h.1 (by simp [step, start])
  | resetAuthBackoff => exact h

lemma StopCleared.step (h : s.StopCleared) (lowerCase : String → String) (action : SweeperAction) :
    (s.step lowerCase action).StopCleared := by
  intro hstop key
  by_contra hmarked
  obtain ⟨hbefore, hpending⟩ :=
    MarkedStopping.of_step (k := key) ⟨hstop, by simpa using hmarked⟩
  simp [h hbefore key] at hpending

/-- The invariant of a run: a stopping sweeper has no markers, and no session is stranded. -/
def StrandsNone (s : Sweeper) : Prop := s.StopCleared ∧ ∀ key, ¬ s.Stranded key

/-- A step from a state in which no session is stranded strands none exactly under the condition. -/
lemma step_strands_none_iff {lowerCase : String → String} (hclear : s.StopCleared)
    (h : ∀ key, ¬ s.Stranded key) (action : SweeperAction) :
    (∀ key, ¬ (s.step lowerCase action).Stranded key) ↔ s.KeepsWakeUps action := by
  cases action with
  | nudge id source now enabled debounceMs =>
    exact iff_of_true (fun key hs => h key hs.of_nudge) trivial
  | flushBoundary id source => exact iff_of_true (fun key hs => h key hs.of_flushBoundary) trivial
  | boundaryResumes key => exact iff_of_true (fun k hs => h k hs.of_boundaryResumes) trivial
  | timerFires key now =>
    change (∀ k, ¬ (s.timerFires key now).Stranded k) ↔ _
    simp only [stranded_timerFires_iff (h _)]
    constructor
    · intro hall htimer marked hbackoff
      by_contra hidle
      push Not at hidle
      exact hall key ⟨rfl, htimer, by simp [shouldDeferFlush, hbackoff], marked, hidle.1, hidle.2⟩
    · rintro hkeep k ⟨rfl, htimer, hdefer, marked, unlocked, unawaited⟩
      have hrunning : s.stopping = false := by
        by_contra hstop
        simp [hclear (by simpa using hstop) key] at marked
      have hbackoff : now < s.authBackoffUntil := by
        simpa [shouldDeferFlush, hrunning] using hdefer
      rcases hkeep htimer marked hbackoff with hlock | hwait
      · exact hlock unlocked
      · exact hwait unawaited
  | flushEnds key outcome now debounceMs =>
    exact iff_of_true (fun k hs => h k hs.of_flushEnds) trivial
  | tickStarts enabled now queued => exact iff_of_true (fun k hs => h k hs.of_tickStarts) trivial
  | tickAdvances pending => exact iff_of_true (fun k hs => h k hs.of_tickAdvances) trivial
  | tickFlushEnds outcome now =>
    change (∀ k, ¬ (s.tickFlushEnds outcome now).Stranded k) ↔ _
    simp only [stranded_tickFlushEnds_iff (h _)]
    constructor
    · intro hall tick key htick hheld marked
      by_contra hidle
      push Not at hidle
      exact hall key ⟨tick, htick, hheld, marked, hidle.1, by simpa using hidle.2⟩
    · rintro hkeep k ⟨tick, htick, hheld, marked, unawaited, untimed⟩
      rcases hkeep tick k htick hheld marked with hwait | htimer
      · exact hwait unawaited
      · simp [untimed] at htimer
  | tickRecovers outcome now => exact iff_of_true (fun k hs => h k hs.of_tickRecovers) trivial
  | stop => exact iff_of_true (fun k => not_stranded_stop) trivial
  | start =>
    exact iff_of_true (fun k hs => h k (hs.of_agree rfl rfl rfl rfl)) trivial
  | resetAuthBackoff =>
    exact iff_of_true (fun k hs => h k (hs.of_agree rfl rfl rfl rfl)) trivial

lemma setPending_true_pending (h : s.autoFlushPending k = true) :
    (s.setPending key true).autoFlushPending k = true := by
  rcases eq_or_ne k key with rfl | hne
  · simp [setPending]
  · simpa [setPending, hne] using h

lemma flushNow_pending {now : ℕ} (h : s.autoFlushPending k = true) :
    (s.flushNow key now).autoFlushPending k = true := by
  unfold flushNow
  split
  · exact h
  split
  · exact setPending_true_pending h
  · rename_i acquired hacquire
    obtain ⟨-, -, rfl⟩ := acquireSessionFlush_eq_some_iff.mp hacquire
    exact h

lemma scheduleAutoFlush_pending {now : ℕ} {debounceMs : ℤ} (h : s.autoFlushPending k = true) :
    (s.scheduleAutoFlush key now debounceMs).autoFlushPending k = true := by
  unfold scheduleAutoFlush
  split_ifs
  · exact h
  · exact setPending_true_pending h
  · exact flushNow_pending h
  · exact h

lemma tickAdvances_pending {pending : List (String × String)} :
    (s.tickAdvances pending).autoFlushPending = s.autoFlushPending := by
  have hvisit : ∀ tick source streamId rest,
      (s.tickVisits tick source streamId rest).autoFlushPending = s.autoFlushPending := by
    intro tick source streamId rest
    unfold tickVisits
    dsimp only
    split
    · rfl
    split
    · rfl
    split
    · rfl
    · rename_i acquired hacquire
      obtain ⟨-, -, rfl⟩ := acquireSessionFlush_eq_some_iff.mp hacquire
      rfl
  unfold tickAdvances
  split
  · rfl
  split
  · rfl
  split
  · rfl
  · rfl
  · split <;> rfl
  · exact hvisit _ _ _ _

/-- A session has a flush to come or is left alone: it is marked or locked or has a timer, or the
sweeper stops or backs off. -/
def Scheduled (s : Sweeper) (key : String) (now : ℕ) : Prop :=
  s.autoFlushPending key = true ∨ s.stopping = true ∨ s.sessionFlushPromises key ≠ none ∨
    s.autoFlushTimers key = true ∨ now < s.authBackoffUntil

lemma flushNow_scheduled (s : Sweeper) (key : String) (now : ℕ) :
    (s.flushNow key now).Scheduled key now := by
  unfold flushNow
  split
  case isTrue hdefer =>
    simp only [shouldDeferFlush, Bool.not_false, Bool.true_and, Bool.or_eq_true,
      decide_eq_true_eq] at hdefer
    rcases hdefer with hstop | hbackoff
    · exact .inr (.inl hstop)
    · exact .inr (.inr (.inr (.inr hbackoff)))
  case isFalse =>
    split
    · exact .inl (by simp [setPending])
    · rename_i acquired hacquire
      obtain ⟨-, -, rfl⟩ := acquireSessionFlush_eq_some_iff.mp hacquire
      exact .inr (.inr (.inl (by simp [setLock, setTimer])))

lemma scheduleAutoFlush_scheduled (s : Sweeper) (key : String) (now : ℕ) (debounceMs : ℤ) :
    (s.scheduleAutoFlush key now debounceMs).Scheduled key now := by
  unfold scheduleAutoFlush
  split_ifs with hstop
  · exact .inr (.inl hstop)
  · exact .inl (by simp [setPending])
  · exact flushNow_scheduled s key now
  · exact .inr (.inr (.inr (.inl (by simp [setTimer]))))

lemma resumePending_scheduled {now : ℕ} {debounceMs : ℤ} (h : s.autoFlushPending k = true) :
    (s.resumePending key now debounceMs).autoFlushPending k = true ∨
      k = key ∧ (s.resumePending key now debounceMs).Scheduled key now := by
  unfold resumePending
  split_ifs
  · rcases eq_or_ne k key with rfl | hne
    · exact .inr ⟨rfl, scheduleAutoFlush_scheduled _ _ _ _⟩
    · exact .inl (scheduleAutoFlush_pending (by simpa [setPending, hne] using h))
  · exact .inl h

/-- A marker that a step takes away is spent: the sweeper stops, or a flush of the session ended and
the next one is scheduled. -/
def SpendsMarkers (lowerCase : String → String) (s : Sweeper) (action : SweeperAction) : Prop :=
  ∀ key, s.autoFlushPending key = true →
    (s.step lowerCase action).autoFlushPending key = true ∨
      (s.step lowerCase action).stopping = true ∨
      ∃ outcome now debounceMs, action = .flushEnds key outcome now debounceMs ∧
        (s.step lowerCase action).Scheduled key now

lemma step_spendsMarkers (lowerCase : String → String) (s : Sweeper) (action : SweeperAction) :
    s.SpendsMarkers lowerCase action := by
  intro k h
  cases action with
  | nudge id source now enabled debounceMs =>
    left
    change (s.nudge lowerCase id source now enabled debounceMs).autoFlushPending k = true
    unfold nudge
    dsimp only
    split_ifs
    · exact h
    · exact h
    · exact h
    · exact h
    · exact setPending_true_pending h
    · exact flushNow_pending h
    · exact h
  | flushBoundary id source =>
    left
    change (s.flushBoundary lowerCase id source).autoFlushPending k = true
    unfold flushBoundary
    dsimp only
    split_ifs <;> exact h
  | boundaryResumes key =>
    left
    change (s.boundaryResumes key).autoFlushPending k = true
    unfold boundaryResumes
    split_ifs <;> exact h
  | timerFires key now =>
    left
    change (s.timerFires key now).autoFlushPending k = true
    unfold timerFires
    split_ifs
    · exact flushNow_pending h
    · exact h
  | flushEnds key outcome now debounceMs =>
    have hends : (s.flushEnds key outcome now debounceMs).autoFlushPending k = true ∨
        k = key ∧ (s.flushEnds key outcome now debounceMs).Scheduled key now := by
      unfold flushEnds
      dsimp only
      split_ifs
      · exact resumePending_scheduled h
      · exact resumePending_scheduled h
      · exact .inl h
    rcases hends with hkept | ⟨rfl, hscheduled⟩
    · exact .inl hkept
    · exact .inr (.inr ⟨outcome, now, debounceMs, rfl, hscheduled⟩)
  | tickStarts enabled now queued =>
    left
    change (s.tickStarts enabled now queued).autoFlushPending k = true
    unfold tickStarts
    split_ifs <;> exact h
  | tickAdvances pending =>
    left
    change (s.tickAdvances pending).autoFlushPending k = true
    rw [tickAdvances_pending]
    exact h
  | tickFlushEnds outcome now =>
    left
    change (s.tickFlushEnds outcome now).autoFlushPending k = true
    grind [tickFlushEnds, setLock, handleAuthError]
  | tickRecovers outcome now =>
    left
    change (s.tickRecovers outcome now).autoFlushPending k = true
    grind [tickRecovers, handleAuthError]
  | stop => exact .inr (.inl rfl)
  | start => exact .inl h
  | resetAuthBackoff => exact .inl h

/-- In every run of a new sweeper, every marked session of every state in which the sweeper does
not stop has a flush that runs, one that waits or a timer, exactly when every step of the run meets
the condition; and every step spends the markers that it takes away. -/
theorem wakeUps_scheduled_iff (lowerCase : String → String) (actions : List SweeperAction) :
    ((∀ s ∈ visited (step lowerCase) initial actions, s.WakeUpScheduled) ↔
      StepsMeet (step lowerCase) KeepsWakeUps initial actions) ∧
    StepsMeet (step lowerCase) (SpendsMarkers lowerCase) initial actions := by
  have hclear : ∀ s ∈ visited (step lowerCase) initial actions, s.StopCleared := by
    have hsteps : StepsMeet (step lowerCase) (fun _ _ => True) initial actions :=
      stepsMeet_of_forall fun _ _ _ => trivial
    exact hsteps.always (fun hstop => by simp [initial] at hstop)
      fun s action _ h => h.step lowerCase action
  have hstep : ∀ s action, StrandsNone s →
      (StrandsNone (step lowerCase s action) ↔ KeepsWakeUps s action) := by
    intro s action h
    rw [StrandsNone, and_iff_right (h.1.step lowerCase action), step_strands_none_iff h.1 h.2]
  have hinitial : StrandsNone initial :=
    ⟨fun hstop => by simp [initial] at hstop, fun key h => by simpa [initial] using h.marked⟩
  refine ⟨?_, stepsMeet_of_forall fun action _ s => step_spendsMarkers lowerCase s action⟩
  rw [← visited_invariant_iff actions hinitial hstep]
  refine forall₂_congr fun s hs => ?_
  rw [(hclear s hs).wakeUpScheduled_iff, StrandsNone, and_iff_right (hclear s hs)]

/-- A nudge that comes while a tick flushes its session is forgotten when that flush ends. -/
theorem wakeUp_lost_by_tick :
    ¬ ∀ s ∈ visited (step id) initial
        [.tickStarts true 1 [("opencode", "s")], .tickAdvances [],
          .nudge "s" "opencode" 2 true 60000, .tickFlushEnds .flushed 3], s.WakeUpScheduled := by
  intro h
  have hlast := h _ (foldl_mem_visited (step id) _ _) "opencode:s"
  exact absurd hlast (by decide)

end Sweeper

end Codemem
