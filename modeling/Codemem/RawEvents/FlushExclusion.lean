import Codemem.RawEvents.SweeperCalls
import Codemem.RawEvents.WakeUps

/-!
# One flush for each session

The lock of a session is taken exactly while one call holds it, and the waiter count of a session
is the number of boundary flushes that wait for it (`Consistent`).  Both are kept by every action,
since each changes one call and the lock and the count of its key together (`Consistent.addCall`,
`Consistent.setCall`).  Exclusion, priority of the boundary flushes and the accounting of every
lock follow for every run (`flushes_exclusive`).
-/

namespace Codemem

/-- What a call has counted fits its stage, and only a boundary flush waits or overtakes one that
waits. -/
structure FlushCall.Accounted (c : FlushCall) : Prop where
  unanswered : c.stage = .waiting ∨ c.stage = .refused → c.acquisitions = 0 ∧ c.releases = 0
  held : c.stage.holds = true → c.acquisitions = 1 ∧ c.releases = 0
  ended : c.stage = .ended → c.acquisitions ≤ 1 ∧ c.releases = c.acquisitions
  polite : c.caller ≠ .boundary → c.overtaken = 0
  patient : c.stage = .waiting → c.caller = .boundary

lemma FlushCall.Accounted.balanced {c : FlushCall} (h : c.Accounted) :
    c.acquisitions ≤ 1 ∧ c.acquisitions = c.releases + if c.stage.holds then 1 else 0 := by
  cases hstage : c.stage with
  | waiting =>
    obtain ⟨ha, hr⟩ := h.unanswered (.inl hstage)
    simp [ha, hr, FlushStage.holds]
  | refused =>
    obtain ⟨ha, hr⟩ := h.unanswered (.inr hstage)
    simp [ha, hr, FlushStage.holds]
  | acquired =>
    obtain ⟨ha, hr⟩ := h.held (by simp [hstage, FlushStage.holds])
    simp [ha, hr, FlushStage.holds]
  | flushing =>
    obtain ⟨ha, hr⟩ := h.held (by simp [hstage, FlushStage.holds])
    simp [ha, hr, FlushStage.holds]
  | ended =>
    obtain ⟨ha, hr⟩ := h.ended hstage
    simp [ha, hr, FlushStage.holds]

/-- One for a call that waits. -/
def FlushStage.waitCount (stage : FlushStage) : ℕ := if stage = .waiting then 1 else 0

/-- One for a call that holds its lock. -/
def FlushStage.holdCount (stage : FlushStage) : ℕ := if stage.holds then 1 else 0

namespace SweeperCalls

/-- One for a lock that is taken. -/
def lockCount (s : Sweeper) (key : String) : ℕ :=
  if (s.sessionFlushPromises key).isSome then 1 else 0

/-- Two sweepers have the same waiter count and the same lock at a key. -/
def AgreesAt (s' s : Sweeper) (key : String) : Prop :=
  s'.sessionBoundaryWaiters key = s.sessionBoundaryWaiters key ∧
    s'.sessionFlushPromises key = s.sessionFlushPromises key

lemma lockCount_congr {s' s : Sweeper} {key : String}
    (h : s'.sessionFlushPromises key = s.sessionFlushPromises key) :
    lockCount s' key = lockCount s key := by
  rw [lockCount, h, lockCount]

/-- The lock and the waiter count of every key agree with the calls, and every call with what it
has counted. -/
structure Consistent (w : SweeperCalls) : Prop where
  waiters : ∀ key, w.sweeper.sessionBoundaryWaiters key = w.waiting key
  locks : ∀ key, w.holding key = lockCount w.sweeper key
  accounted : ∀ c ∈ w.calls, c.Accounted

variable {w : SweeperCalls} {s' : Sweeper} {c c' : FlushCall} {i : ℕ}

/-! ### Changes of one call -/

lemma countP_concat (p : FlushCall → Bool) (calls : List FlushCall) :
    (calls ++ [c]).countP p = calls.countP p + if p c then 1 else 0 := by
  rw [List.countP_append, List.countP_singleton]

lemma countP_set_add (p : FlushCall → Bool) (c' : FlushCall) {calls : List FlushCall}
    (h : calls[i]? = some c) :
    (calls.set i c').countP p + (if p c then 1 else 0) =
      calls.countP p + if p c' then 1 else 0 := by
  obtain ⟨hlt, hget⟩ := List.getElem?_eq_some_iff.mp h
  rw [List.countP_set hlt, hget]
  have hpos : (if p c then 1 else 0) ≤ calls.countP p := by
    split_ifs with hp
    · exact List.countP_pos_iff.mpr ⟨c, List.mem_of_getElem? h, hp⟩
    · exact Nat.zero_le _
  omega

lemma Consistent.of_agree (h : w.Consistent)
    (hlock : s'.sessionFlushPromises = w.sweeper.sessionFlushPromises)
    (hwaiters : s'.sessionBoundaryWaiters = w.sweeper.sessionBoundaryWaiters) :
    Consistent ⟨s', w.calls⟩ where
  waiters := fun key => by rw [hwaiters]; exact h.waiters key
  locks := fun key => by rw [lockCount, hlock]; exact h.locks key
  accounted := h.accounted

lemma Consistent.addCall (h : w.Consistent) (hc : c.Accounted)
    (hframe : ∀ key, key ≠ c.key → AgreesAt s' w.sweeper key)
    (hwaiters : s'.sessionBoundaryWaiters c.key =
      w.sweeper.sessionBoundaryWaiters c.key + c.stage.waitCount)
    (hlock : lockCount s' c.key = lockCount w.sweeper c.key + c.stage.holdCount) :
    Consistent ⟨s', w.calls ++ [c]⟩ where
  waiters := fun key => by
    rw [waiting, countP_concat]
    rcases eq_or_ne key c.key with rfl | hne
    · rw [hwaiters, h.waiters, waiting]
      simp [FlushStage.waitCount]
    · rw [(hframe key hne).1, h.waiters, waiting]
      simp [hne.symm]
  locks := fun key => by
    rw [holding, countP_concat]
    rcases eq_or_ne key c.key with rfl | hne
    · rw [hlock, ← h.locks, holding]
      simp [FlushStage.holdCount]
    · rw [lockCount_congr (hframe key hne).2, ← h.locks, holding]
      simp [hne.symm]
  accounted := fun d hd => by
    rcases List.mem_append.mp hd with hd | hd
    · exact h.accounted d hd
    · exact List.mem_singleton.mp hd ▸ hc

lemma Consistent.setCall (h : w.Consistent) (hget : w.calls[i]? = some c) (hc : c'.Accounted)
    (hkey : c'.key = c.key) (hframe : ∀ key, key ≠ c.key → AgreesAt s' w.sweeper key)
    (hwaiters : s'.sessionBoundaryWaiters c.key + c.stage.waitCount =
      w.sweeper.sessionBoundaryWaiters c.key + c'.stage.waitCount)
    (hlock : lockCount s' c.key + c.stage.holdCount =
      lockCount w.sweeper c.key + c'.stage.holdCount) :
    Consistent ⟨s', w.calls.set i c'⟩ where
  waiters := fun key => by
    have hcount := countP_set_add (fun d => d.key = key && d.stage = .waiting) c' hget
    have hbefore := h.waiters key
    simp only [waiting] at hbefore ⊢
    rcases eq_or_ne key c.key with rfl | hne
    · simp only [hkey, decide_true, Bool.true_and, decide_eq_true_eq] at hcount
      simp only [FlushStage.waitCount] at hwaiters
      omega
    · simp only [hkey, hne.symm, decide_false, Bool.false_and, Bool.false_eq_true,
        if_false] at hcount
      rw [(hframe key hne).1]
      omega
  locks := fun key => by
    have hcount := countP_set_add (fun d => d.key = key && d.stage.holds) c' hget
    have hbefore := h.locks key
    simp only [holding] at hbefore ⊢
    rcases eq_or_ne key c.key with rfl | hne
    · simp only [hkey, decide_true, Bool.true_and] at hcount
      simp only [FlushStage.holdCount] at hlock
      omega
    · simp only [hkey, hne.symm, decide_false, Bool.false_and, Bool.false_eq_true,
        if_false] at hcount
      rw [lockCount_congr (hframe key hne).2]
      omega
  accounted := fun d hd => by
    rcases List.mem_or_eq_of_mem_set hd with hd | rfl
    · exact h.accounted d hd
    · exact hc

/-! ### The locks and the counts after a write -/

lemma lockCount_setLock_some (s : Sweeper) (key : String) (holder : FlushHolder) :
    lockCount (s.setLock key (some holder)) key = 1 := by
  simp [lockCount, Sweeper.setLock]

lemma lockCount_eq_zero {s : Sweeper} {key : String}
    (h : ¬ (s.sessionFlushPromises key).isSome = true) : lockCount s key = 0 := by
  rw [lockCount, if_neg h]

lemma agreesAt_setLock (s : Sweeper) (holder : Option FlushHolder) {key k : String} (h : k ≠ key) :
    AgreesAt (s.setLock key holder) s k :=
  ⟨rfl, by simp [Sweeper.setLock, h]⟩

lemma agreesAt_setWaiters (s : Sweeper) (count : ℕ) {key k : String} (h : k ≠ key) :
    AgreesAt (s.setWaiters key count) s k :=
  ⟨by simp [Sweeper.setWaiters, h], rfl⟩

lemma Consistent.locked_of_holds (h : w.Consistent) (hget : w.calls[i]? = some c)
    (hholds : c.stage.holds = true) : lockCount w.sweeper c.key = 1 := by
  have hpos : 0 < w.holding c.key :=
    List.countP_pos_iff.mpr ⟨c, List.mem_of_getElem? hget, by simp [hholds]⟩
  have hlock := h.locks c.key
  unfold lockCount at hlock ⊢
  split_ifs at hlock ⊢ with hsome
  · rfl
  · omega

lemma Consistent.awaited_of_waiting (h : w.Consistent) (hget : w.calls[i]? = some c)
    (hwaiting : c.stage = .waiting) : 0 < w.sweeper.sessionBoundaryWaiters c.key := by
  rw [h.waiters]
  exact List.countP_pos_iff.mpr ⟨c, List.mem_of_getElem? hget, by simp [hwaiting]⟩

/-! ### What each action keeps -/

lemma Consistent.acquires (h : w.Consistent) (caller : FlushCaller) (source streamId : String) :
    (w.acquires caller source streamId).Consistent := by
  unfold SweeperCalls.acquires
  dsimp only
  cases hacquire : w.sweeper.acquireSessionFlush (Sweeper.sessionKey source streamId)
      caller.holder with
  | none =>
    exact h.addCall ⟨fun _ => ⟨rfl, rfl⟩, by simp [FlushStage.holds], by simp, fun _ => rfl,
      by simp⟩ (fun _ _ => ⟨rfl, rfl⟩) rfl rfl
  | some acquired =>
    obtain ⟨hfree, hzero, rfl⟩ := Sweeper.acquireSessionFlush_eq_some_iff.mp hacquire
    have hnobody : w.waiting (Sweeper.sessionKey source streamId) = 0 := by
      rw [← h.waiters]
      exact hzero
    refine h.addCall ⟨by simp, fun _ => ⟨rfl, rfl⟩, by simp, fun _ => hnobody, by simp⟩
      (fun key hne => agreesAt_setLock _ _ hne) rfl ?_
    have hkey : (⟨caller, source, streamId, .acquired, 1, 0,
        w.waiting (Sweeper.sessionKey source streamId)⟩ : FlushCall).key =
          Sweeper.sessionKey source streamId := rfl
    exact (lockCount_setLock_some _ _ _).trans
      (congrArg (· + 1) (lockCount_eq_zero (by rw [hkey, hfree]; simp))).symm

lemma Consistent.boundaryAcquires (h : w.Consistent) (source streamId : String) :
    (w.boundaryAcquires source streamId).Consistent := by
  unfold SweeperCalls.boundaryAcquires
  dsimp only
  split_ifs with hlocked
  · refine h.addCall ⟨fun _ => ⟨rfl, rfl⟩, by simp [FlushStage.holds], by simp, fun _ => rfl,
      fun _ => rfl⟩ (fun key hne => agreesAt_setWaiters _ _ hne) ?_ rfl
    simp [Sweeper.setWaiters, FlushCall.key, FlushStage.waitCount]
  · refine h.addCall ⟨by simp, fun _ => ⟨rfl, rfl⟩, by simp, by simp, by simp⟩
      (fun key hne => agreesAt_setLock _ _ hne) rfl ?_
    exact (lockCount_setLock_some _ _ _).trans
      (congrArg (· + 1) (lockCount_eq_zero hlocked)).symm

lemma Consistent.flushNow (h : w.Consistent) (source streamId : String) (now : ℕ) :
    (w.flushNow source streamId now).Consistent := by
  unfold SweeperCalls.flushNow
  split_ifs
  · exact h
  · exact h.acquires .autoFlush source streamId

lemma Consistent.scheduleAutoFlush (h : w.Consistent) (source streamId : String) (now : ℕ)
    (debounceMs : ℤ) : (w.scheduleAutoFlush source streamId now debounceMs).Consistent := by
  unfold SweeperCalls.scheduleAutoFlush
  dsimp only
  split_ifs
  · exact h
  · exact h.of_agree rfl rfl
  · exact h.flushNow source streamId now
  · exact h.of_agree rfl rfl

lemma Consistent.nudge (h : w.Consistent) (lowerCase : String → String) (id source : String)
    (now : ℕ) (enabled : Bool) (debounceMs : ℤ) :
    (w.nudge lowerCase id source now enabled debounceMs).Consistent := by
  unfold SweeperCalls.nudge
  dsimp only
  split_ifs
  · exact h
  · exact h
  · exact h
  · exact h
  · exact h.of_agree rfl rfl
  · exact h.flushNow _ _ now
  · exact h.of_agree rfl rfl

lemma Consistent.flushBoundary (h : w.Consistent) (lowerCase : String → String)
    (id source : String) : (w.flushBoundary lowerCase id source).Consistent := by
  unfold SweeperCalls.flushBoundary
  split_ifs
  · exact h
  · exact h
  · exact h.boundaryAcquires _ _

lemma Consistent.timerFires (h : w.Consistent) (source streamId : String) (now : ℕ) :
    (w.timerFires source streamId now).Consistent := by
  unfold SweeperCalls.timerFires
  dsimp only
  split_ifs
  · have hcleared : Consistent
        ⟨w.sweeper.setTimer (Sweeper.sessionKey source streamId) false, w.calls⟩ :=
      h.of_agree rfl rfl
    exact hcleared.flushNow source streamId now
  · exact h

lemma Consistent.tickVisits (h : w.Consistent) (source streamId : String) :
    (w.tickVisits source streamId).Consistent := by
  unfold SweeperCalls.tickVisits
  split_ifs
  · exact h
  · exact h
  · exact h.acquires .tick source streamId

lemma Consistent.wakes (h : w.Consistent) (hget : w.calls[i]? = some c)
    (hstage : c.stage = .waiting) : (w.wakes i c).Consistent := by
  unfold SweeperCalls.wakes
  split_ifs with hlocked
  · exact h
  have hc := h.accounted c (List.mem_of_getElem? hget)
  obtain ⟨hacquisitions, hreleases⟩ := hc.unanswered (.inl hstage)
  have hboundary := hc.patient hstage
  refine h.setCall hget ⟨by simp, fun _ => ⟨by simp [hacquisitions], hreleases⟩, by simp,
    fun hne => absurd hboundary hne, by simp⟩ rfl (fun key hne => ?_) ?_ ?_
  · have hlock := agreesAt_setLock (w.sweeper.setWaiters c.key
      (w.sweeper.sessionBoundaryWaiters c.key - 1)) (some .flushNow) hne
    have hwaiters := agreesAt_setWaiters w.sweeper (w.sweeper.sessionBoundaryWaiters c.key - 1) hne
    exact ⟨hlock.1.trans hwaiters.1, hlock.2.trans hwaiters.2⟩
  · have hpos := h.awaited_of_waiting hget hstage
    simp only [hstage, Sweeper.setLock, Sweeper.setWaiters, Function.update_self,
      FlushStage.waitCount]
    simpa using Nat.sub_add_cancel hpos
  · rw [lockCount_setLock_some, lockCount_eq_zero hlocked, hstage]
    rfl

lemma Consistent.finishSessionFlush (h : w.Consistent) (hget : w.calls[i]? = some c)
    (hholds : c.stage.holds = true) : (w.finishSessionFlush i c).Consistent := by
  have hc := h.accounted c (List.mem_of_getElem? hget)
  obtain ⟨hacquisitions, hreleases⟩ := hc.held hholds
  have hnotwaiting : c.stage ≠ .waiting := by
    intro hwaiting
    simp [hwaiting, FlushStage.holds] at hholds
  refine h.setCall hget ⟨by simp, by simp [FlushStage.holds], fun _ => ⟨hacquisitions.le, ?_⟩,
    hc.polite, by simp⟩ rfl (fun key hne => agreesAt_setLock _ _ hne) ?_ ?_
  · change c.releases + 1 = c.acquisitions
    omega
  · simp [FlushStage.waitCount, Sweeper.setLock, hnotwaiting]
  · rw [h.locked_of_holds hget hholds]
    simp [lockCount, Sweeper.setLock, FlushStage.holdCount, hholds]
    rfl

lemma Consistent.seesRefusal (h : w.Consistent) (hget : w.calls[i]? = some c)
    (hstage : c.stage = .refused) : (w.seesRefusal i c).Consistent := by
  have hc := h.accounted c (List.mem_of_getElem? hget)
  obtain ⟨hacquisitions, hreleases⟩ := hc.unanswered (.inr hstage)
  have hsame : ∀ s' : Sweeper, s'.sessionFlushPromises = w.sweeper.sessionFlushPromises →
      s'.sessionBoundaryWaiters = w.sweeper.sessionBoundaryWaiters →
        Consistent ⟨s', w.calls.set i { c with stage := .ended }⟩ := by
    intro s' hlock hwaiters
    refine h.setCall hget ⟨by simp, by simp [FlushStage.holds],
      fun _ => ⟨hacquisitions.le.trans (Nat.zero_le 1), hreleases.trans hacquisitions.symm⟩,
      hc.polite, by simp⟩ rfl (fun key _ => ⟨by rw [hwaiters], by rw [hlock]⟩) ?_ ?_
    · rw [hwaiters, hstage]
      rfl
    · rw [lockCount_congr (congrFun hlock c.key), hstage]
      rfl
  unfold SweeperCalls.seesRefusal
  split_ifs
  · exact hsame _ rfl rfl
  · exact hsame _ rfl rfl

lemma Consistent.seesLock (h : w.Consistent) (hget : w.calls[i]? = some c)
    (hstage : c.stage = .acquired) : (w.seesLock i c).Consistent := by
  have hholds : c.stage.holds = true := by simp [hstage, FlushStage.holds]
  have hc := h.accounted c (List.mem_of_getElem? hget)
  have hflushing : ({ c with stage := .flushing } : FlushCall).Accounted :=
    ⟨by simp, fun _ => hc.held hholds, by simp, hc.polite, by simp⟩
  have hsame : ∀ s' : Sweeper, s'.sessionFlushPromises = w.sweeper.sessionFlushPromises →
      s'.sessionBoundaryWaiters = w.sweeper.sessionBoundaryWaiters →
        Consistent ⟨s', w.calls.set i { c with stage := .flushing }⟩ := by
    intro s' hlock hwaiters
    refine h.setCall hget hflushing rfl (fun key _ => ⟨by rw [hwaiters], by rw [hlock]⟩) ?_ ?_
    · rw [hwaiters, hstage]
      rfl
    · rw [lockCount_congr (congrFun hlock c.key), hstage]
      rfl
  unfold SweeperCalls.seesLock
  split_ifs
  · exact h.finishSessionFlush hget hholds
  · exact hsame _ rfl rfl
  · exact hsame _ rfl rfl

lemma Consistent.resumePending (h : w.Consistent) (source streamId : String) (now : ℕ)
    (debounceMs : ℤ) : (w.resumePending source streamId now debounceMs).Consistent := by
  unfold SweeperCalls.resumePending
  dsimp only
  split_ifs
  · have hspent : Consistent
        ⟨w.sweeper.setPending (Sweeper.sessionKey source streamId) false, w.calls⟩ :=
      h.of_agree rfl rfl
    exact hspent.scheduleAutoFlush source streamId now debounceMs
  · exact h

lemma Consistent.flushAnswers (h : w.Consistent) (hget : w.calls[i]? = some c)
    (hstage : c.stage = .flushing) (outcome : FlushOutcome) (more : Bool) (now : ℕ)
    (debounceMs : ℤ) : (w.flushAnswers i c outcome more now debounceMs).Consistent := by
  have hholds : c.stage.holds = true := by simp [hstage, FlushStage.holds]
  have hcaught : Consistent
      (if outcome = .authError then ⟨w.sweeper.handleAuthError now, w.calls⟩ else w) ∧
      (if outcome = .authError then (⟨w.sweeper.handleAuthError now, w.calls⟩ : SweeperCalls)
        else w).calls[i]? = some c := by
    split_ifs
    · exact ⟨h.of_agree rfl rfl, hget⟩
    · exact ⟨h, hget⟩
  have hreleased := hcaught.1.finishSessionFlush hcaught.2 hholds
  unfold SweeperCalls.flushAnswers
  split
  · exact h
  · dsimp only
    split
    · exact hreleased
    · exact hreleased.resumePending _ _ now debounceMs

lemma Consistent.step (h : w.Consistent) (lowerCase : String → String) (action : CallAction) :
    (w.step lowerCase action).Consistent := by
  cases action with
  | nudge id source now enabled debounceMs =>
    exact h.nudge lowerCase id source now enabled debounceMs
  | flushBoundary id source => exact h.flushBoundary lowerCase id source
  | timerFires source streamId now => exact h.timerFires source streamId now
  | tickVisits source streamId => exact h.tickVisits source streamId
  | wakes i =>
    simp only [SweeperCalls.step]
    split
    · exact h
    · rename_i c hget
      split_ifs with hstage
      · exact h.wakes hget hstage
      · exact h
  | resumes i =>
    simp only [SweeperCalls.step]
    split
    · exact h
    · rename_i c hget
      split_ifs with hrefused hacquired
      · exact h.seesRefusal hget hrefused
      · exact h.seesLock hget hacquired
      · exact h
  | flushAnswers i outcome more now debounceMs =>
    simp only [SweeperCalls.step]
    split
    · exact h
    · rename_i c hget
      split_ifs with hstage
      · exact h.flushAnswers hget hstage outcome more now debounceMs
      · exact h
  | stop => exact h.of_agree rfl rfl
  | start => exact h.of_agree rfl rfl
  | resetAuthBackoff => exact h.of_agree rfl rfl

lemma consistent_initial : initial.Consistent where
  waiters := fun _ => rfl
  locks := fun _ => rfl
  accounted := fun _ hc => by simp [initial] at hc

/-! ### What a consistent state says -/

lemma Consistent.inFlight_le_one (h : w.Consistent) (key : String) : w.inFlight key ≤ 1 := by
  have hle : w.inFlight key ≤ w.holding key := by
    refine List.countP_mono_left fun c _ hc => ?_
    simp only [Bool.and_eq_true, decide_eq_true_eq] at hc ⊢
    exact ⟨hc.1, by simp [hc.2, FlushStage.holds]⟩
  have hlock := h.locks key
  unfold lockCount at hlock
  split_ifs at hlock <;> omega

/-! ### The calls that a release leaves alone -/

lemma acquires_calls (caller : FlushCaller) (source streamId : String) :
    ∃ c, (w.acquires caller source streamId).calls = w.calls ++ [c] := by
  unfold acquires
  dsimp only
  split
  · exact ⟨_, rfl⟩
  · exact ⟨_, rfl⟩

lemma resumePending_getElem? (source streamId : String) (now : ℕ) (debounceMs : ℤ)
    (hget : w.calls[i]? = some c) :
    (w.resumePending source streamId now debounceMs).calls[i]? = some c := by
  have happend : ∀ d, (w.calls ++ [d])[i]? = some c := by
    intro d
    rw [List.getElem?_append_left (List.getElem?_eq_some_iff.mp hget).1]
    exact hget
  unfold resumePending scheduleAutoFlush flushNow
  dsimp only
  split_ifs
  · exact hget
  · exact hget
  · exact hget
  · obtain ⟨d, hd⟩ := acquires_calls (w := ⟨w.sweeper.setPending
      (Sweeper.sessionKey source streamId) false, w.calls⟩) .autoFlush source streamId
    rw [hd]
    exact happend d
  · exact hget
  · exact hget

lemma Consistent.flushAnswers_ends (h : w.Consistent) (hget : w.calls[i]? = some c)
    (hstage : c.stage = .flushing) (outcome : FlushOutcome) (now : ℕ) (debounceMs : ℤ) :
    ∃ c', (w.flushAnswers i c outcome false now debounceMs).calls[i]? = some c' ∧
      c'.stage = .ended ∧ c'.releases = 1 := by
  obtain ⟨-, hreleases⟩ := (h.accounted c (List.mem_of_getElem? hget)).held
    (by simp [hstage, FlushStage.holds])
  refine ⟨{ c with stage := .ended, releases := c.releases + 1 }, ?_, rfl, by simp [hreleases]⟩
  have hlt := (List.getElem?_eq_some_iff.mp hget).1
  have hset : ∀ w' : SweeperCalls, w'.calls = w.calls →
      (w'.finishSessionFlush i c).calls[i]? =
        some { c with stage := .ended, releases := c.releases + 1 } := by
    intro w' hcalls
    simp [SweeperCalls.finishSessionFlush, hcalls, hlt]
  unfold SweeperCalls.flushAnswers
  dsimp only
  have hcaught : (if outcome = .authError then
      (⟨w.sweeper.handleAuthError now, w.calls⟩ : SweeperCalls) else w).calls = w.calls := by
    split_ifs <;> rfl
  simp only [Bool.and_false, Bool.false_and, Bool.false_eq_true, if_false]
  split
  · exact hset _ hcaught
  · exact resumePending_getElem? _ _ now debounceMs (hset _ hcaught)

/-- In every state of every run: at most one flush of a session is in flight; a call that is not a
boundary flush took its lock when no boundary flush waited for it; a call takes its lock at most
once and has given it back as often as it took it, unless it holds it; a flush that answers gives
its lock back, however it ended; and the waiter count of a session is the number of boundary flushes
that wait for it. -/
theorem flushes_exclusive (lowerCase : String → String) (actions : List CallAction) :
    ∀ w ∈ visited (step lowerCase) initial actions,
      (∀ key, w.inFlight key ≤ 1) ∧
      (∀ c ∈ w.calls, c.caller ≠ .boundary → c.overtaken = 0) ∧
      (∀ c ∈ w.calls, c.acquisitions ≤ 1 ∧
        c.acquisitions = c.releases + if c.stage.holds then 1 else 0) ∧
      (∀ i c outcome now debounceMs, w.calls[i]? = some c → c.stage = .flushing →
        ∃ c', (w.step lowerCase (.flushAnswers i outcome false now debounceMs)).calls[i]? = some c' ∧
          c'.stage = .ended ∧ c'.releases = 1) ∧
      ∀ key, w.sweeper.sessionBoundaryWaiters key = w.waiting key := by
  intro w hw
  have h : w.Consistent :=
    visited_invariant actions consistent_initial (fun _ action h => h.step lowerCase action) w hw
  refine ⟨h.inFlight_le_one, fun c hc => (h.accounted c hc).polite,
    fun c hc => (h.accounted c hc).balanced, fun i c outcome now debounceMs hget hstage => ?_,
    h.waiters⟩
  have hstep : w.step lowerCase (.flushAnswers i outcome false now debounceMs) =
      w.flushAnswers i c outcome false now debounceMs := by
    simp [SweeperCalls.step, hget, hstage]
  rw [hstep]
  exact h.flushAnswers_ends hget hstage outcome now debounceMs

/-- A boundary flush that waits behind an ordinary flush. -/
theorem flushes_exclusive_sample :
    let actions : List CallAction :=
      [.nudge "s" "opencode" 1 true 0, .resumes 0, .flushBoundary "s" "opencode"]
    let w := actions.foldl (step id) initial
    w.sweeper.sessionBoundaryWaiters "opencode:s" = 1 ∧ w.waiting "opencode:s" = 1 ∧
      w.inFlight "opencode:s" ≤ 1 ∧ ∀ c ∈ w.calls, c.caller ≠ .boundary → c.overtaken = 0 := by
  intro actions w
  obtain ⟨hflights, hpolite, -, -, hwaiters⟩ :=
    flushes_exclusive id actions w (foldl_mem_visited (step id) initial actions)
  have hone : w.waiting "opencode:s" = 1 := by decide +kernel
  exact ⟨(hwaiters _).trans hone, hone, hflights _, hpolite⟩

end SweeperCalls

end Codemem
