import EventHandler.QueueSystem

/-!
# The vsync policy and the lazy flag

`vsyncPolicy_`, `vsyncOriginPolicy_`, `isLazyMode_` and the end of the force-enable window are
written by the policy setters and by `CheckBarrierMode` alone.

* `SamePolicy`, `step_policy` — every other operation leaves the four fields alone.
* `DisabledLazy` — a disabled policy has its lazy flag set.
* `losesLazy` — the steps that clear the flag of a disabled policy: `CheckBarrierMode` in an open
  window, and `SetVsyncLazyMode(false)` while the window holds another policy in force.
* `disabled_stays_lazy` — without them a disabled policy stays disabled, and each of them breaks it.
* `disabled_comes_back` — after an expired window a disabled queue enters barrier mode.
-/

set_option autoImplicit false

namespace AppExecFwk

open Transition EventQueueBase

variable {P : SystemParameters} {s t : Sys}

/-! ## What leaves the policy alone -/

structure SamePolicy (q q' : EventQueueBase) : Prop where
  isLazyMode : q'.isLazyMode = q.isLazyMode
  policy : q'.vsyncPolicy = q.vsyncPolicy
  origin : q'.vsyncOriginPolicy = q.vsyncOriginPolicy
  endTime : q'.vsyncFirstForceEnableEndTime = q.vsyncFirstForceEnableEndTime

theorem SamePolicy.refl (q : EventQueueBase) : SamePolicy q q := ⟨rfl, rfl, rfl, rfl⟩

theorem SamePolicy.trans {q q' q'' : EventQueueBase} (h : SamePolicy q q')
    (h' : SamePolicy q' q'') : SamePolicy q q'' :=
  ⟨h'.isLazyMode.trans h.isLazyMode, h'.policy.trans h.policy, h'.origin.trans h.origin,
    h'.endTime.trans h.endTime⟩

theorem EventQueueBase.SameControl.samePolicy {q q' : EventQueueBase} (h : SameControl q q') : SamePolicy q q' :=
  ⟨h.isLazyMode, h.vsyncPolicy, h.vsyncOriginPolicy, by rw [h]⟩

theorem insert_samePolicy (p : Process) (now recv : ClockTime) (q : EventQueueBase)
    (event : Option InnerEvent) (priority : Priority) (ty : EventInsertType)
    (option : VsyncBarrierOption) :
    SamePolicy q (q.insert p now recv event priority ty option).queue := by
  rw [insert_queue_eq]
  exact ⟨rfl, rfl, rfl, rfl⟩

theorem removeOrphan_samePolicy (p : Process) (q : EventQueueBase) :
    SamePolicy q (q.removeOrphan p) := by
  rw [removeOrphan_eq]
  exact ⟨rfl, rfl, rfl, rfl⟩

theorem afterPoll_samePolicy (need : Bool) (q : EventQueueBase) :
    SamePolicy q (q.afterPoll need) := by
  rw [afterPoll_eq]
  exact ⟨rfl, rfl, rfl, rfl⟩

/-- A turn changes the policy in `CheckBarrierMode` only. -/
theorem pass_samePolicy {clk : PassClock} {q : EventQueueBase} (hf : q.finished = false) :
    SamePolicy (q.checkBarrierMode P clk.check clk.enter) (q.getEventPass P clk).queue := by
  have hexp : SamePolicy (q.checkBarrierMode P clk.check clk.enter) (q.expired P clk).queue :=
    (getExpiredEventLocked_sameControl _ clk.now clk.next TimePoint.max).samePolicy
  have hx := q.getEventPass_cases P clk
  generalize q.getEventPass P clk = o at hx
  cases hx with
  | finished h => rw [hf] at h; cases h
  | expired e _ _ => exact hexp
  | lastVsync e _ _ _ _ => exact hexp.trans (pickFirstVsync_frame _).sameControl.samePolicy
  | reset _ _ _ _ =>
    exact (hexp.trans (pickFirstVsync_frame _).sameControl.samePolicy).trans ⟨rfl, rfl, rfl, rfl⟩
  | wait _ _ _ => exact hexp.trans (beforeWaiting_sameControl _ _ _).samePolicy

/-- The setters of the policy. -/
def FlagOp.setsPolicy : FlagOp → Bool
  | .setVsyncPolicy _ => true
  | .setVsyncLazyMode _ => true
  | .setVsyncFirstForceEnableTime _ _ _ => true
  | _ => false

theorem applyFlag_samePolicy {q : EventQueueBase} {op : FlagOp} (h : op.setsPolicy = false) :
    SamePolicy q (q.applyFlag op) := by
  have hx := applyFlag_writes q op
  generalize q.applyFlag op = q' at hx
  cases hx with
  | setVsyncPolicy _ _ => cases h
  | setVsyncLazyMode _ _ => cases h
  | setVsyncFirstForceEnableTime _ _ _ _ _ => cases h
  | _ => exact ⟨rfl, rfl, rfl, rfl⟩

/-- What a step does to the policy. -/
inductive PolicyEffect (P : SystemParameters) (s : Sys) : Op → Sys → Prop
  | same {a : Op} {t : Sys} (ha : ∀ op, a = .flag op → op.setsPolicy = false)
      (hp : ∀ clk, a = .pass clk → s.queue.finished = true)
      (h : SamePolicy s.queue t.queue) : PolicyEffect P s a t
  | check (clk : PassClock) {t : Sys} (hf : s.queue.finished = false)
      (h : SamePolicy (s.queue.checkBarrierMode P clk.check clk.enter) t.queue) :
      PolicyEffect P s (.pass clk) t
  | set (op : FlagOp) {t : Sys} (hs : op.setsPolicy = true) (h : t.queue = s.queue.applyFlag op) :
      PolicyEffect P s (.flag op) t

/-- **A step changes the policy by a setter or by `CheckBarrierMode`.** -/
theorem step_policy {a : Op} (h : s.step P a = some t) : PolicyEffect P s a t := by
  cases step_cases h with
  | insert p now recv event priority ty option _ =>
    exact .same (fun _ h => by cases h) (fun _ h => by cases h)
      (insert_samePolicy p now recv s.queue _ priority ty option)
  | remove selector _ =>
    exact .same (fun _ h => by cases h) (fun _ h => by cases h)
      (remove_onlyLists selector s.queue).sameControl.samePolicy
  | removeOrphan p _ =>
    exact .same (fun _ h => by cases h) (fun _ h => by cases h) (removeOrphan_samePolicy p s.queue)
  | removeAll _ =>
    exact .same (fun _ h => by cases h) (fun _ h => by cases h)
      (removeFilter_onlyLists _ s.queue).sameControl.samePolicy
  | expiredEvent now next e _ _ =>
    exact .same (fun _ h => by cases h) (fun _ h => by cases h)
      (getExpiredEventLocked_sameControl s.queue now next _).samePolicy
  | expiredNone now next _ _ =>
    exact .same (fun _ h => by cases h) (fun _ h => by cases h)
      (getExpiredEventLocked_sameControl s.queue now next _).samePolicy
  | getEvent _ =>
    exact .same (fun _ h => by cases h) (fun _ h => by cases h) (SamePolicy.refl _)
  | pass clk n _ =>
    cases hf : s.queue.finished with
    | true =>
      refine .same (fun _ h => by cases h) (fun _ _ => hf) ?_
      rw [afterPass_queue]
      simp only [getEventPass, hf, if_true]
      exact SamePolicy.refl _
    | false =>
      apply PolicyEffect.check clk hf
      rw [afterPass_queue]
      exact pass_samePolicy hf
  | wakeUp _ _ => exact .same (fun _ h => by cases h) (fun _ h => by cases h) ⟨rfl, rfl, rfl, rfl⟩
  | pollReturn e need _ =>
    exact .same (fun _ h => by cases h) (fun _ h => by cases h) (afterPoll_samePolicy need s.queue)
  | execute e _ =>
    refine .same (fun _ h => by cases h) (fun _ h => by cases h) ?_
    unfold Sys.runTask
    split <;> exact ⟨rfl, rfl, rfl, rfl⟩
  | release _ _ =>
    exact .same (fun _ h => by cases h) (fun _ h => by cases h) (SamePolicy.refl _)
  | flag op =>
    cases hs : op.setsPolicy with
    | true => exact .set op hs rfl
    | false =>
      exact .same (fun _ h => by cases h; exact hs) (fun _ h => by cases h)
        (applyFlag_samePolicy hs)

/-! ## A disabled policy -/

/-- A disabled policy has its lazy flag set. -/
def DisabledLazy (q : EventQueueBase) : Prop :=
  q.vsyncOriginPolicy = .DISABLE_VSYNC_FIRST → q.isLazyMode = true

/-- The force-enable window is open. -/
def EventQueueBase.windowOpen (q : EventQueueBase) (now : ClockTime) : Bool :=
  decide (q.vsyncFirstForceEnableEndTime > now.ns)

/-- `CheckBarrierMode` leaves barrier mode on its timeout, which sets the lazy flag. -/
def EventQueueBase.barrierTimesOut (P : SystemParameters) (q : EventQueueBase) (now : ClockTime) :
    Bool :=
  q.isBarrierMode && q.needEpoll &&
    decide (q.enterBarrierTime + P.vsyncBarrierTimeout * MILLISECONDS_TO_NANOSECONDS_RATIO < now.ns)

/-- The step clears the lazy flag of a disabled policy. -/
def Sys.losesLazy (P : SystemParameters) (s : Sys) (a : Op) : Bool :=
  decide (s.queue.vsyncOriginPolicy = .DISABLE_VSYNC_FIRST) &&
  match a with
  | .pass clk =>
    !s.queue.finished && s.queue.windowOpen clk.check && !s.queue.barrierTimesOut P clk.check
  | .flag (.setVsyncLazyMode isLazy) =>
    !isLazy && decide (s.queue.vsyncPolicy ≠ .DISABLE_VSYNC_FIRST)
  | _ => false

/-- **The lazy flag after `CheckBarrierMode`.** -/
theorem checkBarrierMode_lazy (P : SystemParameters) (now enter : ClockTime) (q : EventQueueBase) :
    (q.checkBarrierMode P now enter).isLazyMode =
      ((q.isLazyMode && !q.windowOpen now) || q.barrierTimesOut P now) := by
  have hb : (q.applyVsyncPolicy now).isBarrierMode = q.isBarrierMode ∧
      (q.applyVsyncPolicy now).needEpoll = q.needEpoll ∧
      (q.applyVsyncPolicy now).enterBarrierTime = q.enterBarrierTime ∧
      (q.applyVsyncPolicy now).isLazyMode = (q.isLazyMode && !q.windowOpen now) := by
    unfold applyVsyncPolicy windowOpen
    split
    · rename_i h
      simp [h]
    · rename_i h
      simp [h]
  obtain ⟨h₁, h₂, h₃, h₄⟩ := hb
  rw [← h₄]
  unfold checkBarrierMode switchBarrierMode barrierTimesOut
  rw [h₁, h₂, h₃]
  split
  · rename_i h
    split <;> simp [enterBarrierMode, h]
  · split
    · rename_i h
      simp [h]
    · rename_i h
      cases hbar : q.isBarrierMode with
      | false => simp
      | true =>
        cases hep : q.needEpoll with
        | false => simp
        | true =>
          simp only [hbar, hep, true_and] at h
          simp [h]

/-- A lazy queue does not enter barrier mode. -/
theorem checkBarrierMode_of_lazy {now enter : ClockTime} {q : EventQueueBase}
    (hl : q.isLazyMode = true) (hw : q.windowOpen now = false) (hb : q.isBarrierMode = false) :
    (q.checkBarrierMode P now enter).isBarrierMode = false := by
  have hq : (q.applyVsyncPolicy now).isLazyMode = true ∧
      (q.applyVsyncPolicy now).isBarrierMode = false := by
    simp only [windowOpen, decide_eq_false_iff_not] at hw
    unfold applyVsyncPolicy
    rw [if_neg hw]
    exact ⟨hl, hb⟩
  unfold checkBarrierMode switchBarrierMode
  simp [hq.1, hq.2]

/-- **A step out of a state where a disabled policy is lazy keeps it so iff it does not lose the
    flag.** -/
theorem step_disabledLazy_iff {a : Op} (hs : DisabledLazy s.queue) (h : s.step P a = some t) :
    DisabledLazy t.queue ↔ s.losesLazy P a = false := by
  cases step_policy h with
  | same ha hp hsame =>
    refine iff_of_true (fun ho => ?_) ?_
    · rw [hsame.isLazyMode]
      exact hs (hsame.origin ▸ ho)
    · unfold Sys.losesLazy
      cases a with
      | pass clk => simp [hp clk rfl]
      | flag op =>
        have := ha op rfl
        cases op with
        | setVsyncLazyMode _ => cases this
        | _ => simp
      | _ => simp
  | check clk hf hsame =>
    unfold DisabledLazy Sys.losesLazy
    rw [hsame.origin, hsame.isLazyMode, checkBarrierMode_origin, checkBarrierMode_lazy]
    by_cases ho : s.queue.vsyncOriginPolicy = .DISABLE_VSYNC_FIRST
    · have hl := hs ho
      cases hw : s.queue.windowOpen clk.check <;>
        cases hb : s.queue.barrierTimesOut P clk.check <;> simp [ho, hl, hf, hw, hb]
    · simp [ho]
  | set op hset hq =>
    unfold DisabledLazy Sys.losesLazy at *
    rw [hq]
    cases op with
    | setVsyncPolicy policy =>
      simp only [applyFlag, setVsyncPolicy, Bool.and_false, iff_true]
      intro ho
      simp [ho]
    | setVsyncLazyMode isLazy =>
      simp only [applyFlag, setVsyncLazyMode]
      split
      · rename_i hp
        simpa [hp] using hs
      · rename_i hp
        cases isLazy <;> simp [hp]
    | setVsyncFirstForceEnableTime now enable timeout =>
      simp only [applyFlag, setVsyncFirstForceEnableTime, Bool.and_false, iff_true]
      split <;> exact hs
    | _ => cases hset

/-- **A disabled policy stays disabled in every run whose steps do not lose its lazy flag**: whenever
    the window is closed, `CheckBarrierMode` leaves the flag set and does not enter barrier mode.
    Each other step clears the flag of a disabled policy. -/
theorem disabled_stays_lazy (P : SystemParameters) (start : ClockTime) {s : Sys}
    (h : (queueSystem P start).Reachable (fun s a => s.losesLazy P a = false) s) :
    (∀ now enter : ClockTime, s.queue.vsyncOriginPolicy = .DISABLE_VSYNC_FIRST →
      s.queue.vsyncFirstForceEnableEndTime ≤ now.ns →
      (s.queue.checkBarrierMode P now enter).isLazyMode = true ∧
        (s.queue.isBarrierMode = false →
          (s.queue.checkBarrierMode P now enter).isBarrierMode = false)) ∧
    ∀ a t, s.step P a = some t → (DisabledLazy t.queue ↔ s.losesLazy P a = false) := by
  have hs : DisabledLazy s.queue := by
    apply h.invariant (I := fun s => DisabledLazy s.queue) (fun ho => by cases ho)
    exact fun s a t hs hok hst => (step_disabledLazy_iff hs hst).2 hok
  refine ⟨fun now enter ho hw => ?_, fun a t hst => step_disabledLazy_iff hs hst⟩
  have hw' : s.queue.windowOpen now = false := by
    simp only [windowOpen, decide_eq_false_iff_not]
    omega
  refine ⟨?_, checkBarrierMode_of_lazy (hs ho) hw'⟩
  rw [checkBarrierMode_lazy, hs ho, hw']
  rfl

/-- The policy is disabled and a window opens and closes without a turn of the loop in it. -/
theorem disabled_stays_lazy_run : ∃ s : Sys, s.queue.vsyncOriginPolicy = .DISABLE_VSYNC_FIRST ∧
    s.queue.sumOfPendingVsync = 1 ∧
    (s.queue.checkBarrierMode {} (atMs 200) (atMs 200)).isLazyMode = true := by
  obtain ⟨s, hs, hp⟩ := System.run_of_exec (queueSystem {} (atMs 0))
    (fun s a => s.losesLazy {} a = false)
    (fun s => s.queue.vsyncOriginPolicy = .DISABLE_VSYNC_FIRST ∧ s.queue.sumOfPendingVsync = 1 ∧
      s.queue.vsyncFirstForceEnableEndTime ≤ (atMs 200).ns)
    [.flag (.setVsyncPolicy .DISABLE_VSYNC_FIRST),
      .flag (.setVsyncFirstForceEnableTime (atMs 1) true 5000000),
      insertAt (atMs 2) (vsyncEvent (atMs 2)) .VIP] (by decide)
  exact ⟨s, hp.1, hp.2.1,
    ((disabled_stays_lazy {} (atMs 0) ⟨_, hs⟩).1 (atMs 200) (atMs 200) hp.1 hp.2.2).1⟩

/-- A turn in the window clears the flag; after the window the disabled queue enters barrier
    mode. -/
theorem disabled_comes_back : ¬ ∀ as s (clk : PassClock),
    (defaultModeLoop {} (atMs 0)).Run System.always (defaultModeLoop {} (atMs 0)).init as s →
    MonotoneClock (as ++ [.pass clk]) → s.queue.vsyncOriginPolicy = .DISABLE_VSYNC_FIRST →
    s.queue.vsyncFirstForceEnableEndTime ≤ clk.check.ns → s.queue.isBarrierMode = false →
    (s.queue.checkBarrierMode {} clk.check clk.enter).isLazyMode = true ∧
      (s.queue.checkBarrierMode {} clk.check clk.enter).isBarrierMode = false := by
  intro h
  obtain ⟨s, hs, hp⟩ := System.run_of_exec (defaultModeLoop {} (atMs 0)) System.always
    (fun s => (s.queue.vsyncOriginPolicy = .DISABLE_VSYNC_FIRST ∧
      s.queue.vsyncFirstForceEnableEndTime ≤ (atMs 200).ns ∧ s.queue.isBarrierMode = false) ∧
      (s.queue.checkBarrierMode {} (atMs 200) (atMs 200)).isBarrierMode = true)
    [.flag (.setVsyncPolicy .DISABLE_VSYNC_FIRST),
      .flag (.setVsyncFirstForceEnableTime (atMs 1) true 5000000), .flag .prepare, .getEvent,
      passAt (atMs 2), insertAt (atMs 10) (vsyncEvent (atMs 10)) .VIP] (by decide)
  have := (h _ s (turnAt (atMs 200)) hs (by decide) hp.1.1 hp.1.2.1 hp.1.2.2).2
  rw [show (turnAt (atMs 200)).check = atMs 200 from rfl,
    show (turnAt (atMs 200)).enter = atMs 200 from rfl, hp.2] at this
  cases this

end AppExecFwk
