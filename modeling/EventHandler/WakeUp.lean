import EventHandler.WaitSystem

/-!
# No lost wake-up

While the loop thread is blocked in `WaitFor` with the deadline `d`, every event of the sub-queues
is due at `d` or later, or a wake-up is on its way: the waiter it sleeps on holds one, or the thread
that holds `queueLock_` is about to notify that waiter.

* `AllLate` — no event of the sub-queues is due before `d`.
* `insert_late`, `step_late` — an operation that leaves an earlier event notifies.
* `pass_late` — a turn that waits has `d` as `wakeUpTime_`, and nothing is due before.
* `WakeInv` — the invariant, with what it needs: `queueLock_` is held by one thread at most, an
  `EpollIoWaiter` counts the thread that waits on it, and an object that is no longer `ioWaiter_`
  was notified.
* `no_lost_wakeup` — the result.
-/

set_option autoImplicit false

namespace AppExecFwk

open Transition EventQueueBase

variable {P : SystemParameters}

/-! ## The operations and the wake-up time -/

/-- No event of the sub-queues is due before `d`. -/
def AllLate (q : EventQueueBase) (d : Int) : Prop :=
  ∀ i, ∀ e ∈ q.events (some i), d ≤ e.handleTime

/-- What an operation other than a turn leaves: `wakeUpTime_`, and all events late unless it
    notifies. -/
structure KeepsLate (q q' : EventQueueBase) (notifies : Bool) : Prop where
  wakeUpTime : q'.wakeUpTime = q.wakeUpTime
  late : notifies = false → AllLate q q.wakeUpTime → AllLate q' q.wakeUpTime

theorem KeepsLate.of_sameLists {q q' : EventQueueBase} {b : Bool} (h : SameLists q q')
    (hw : q'.wakeUpTime = q.wakeUpTime) : KeepsLate q q' b := by
  refine ⟨hw, fun _ hq i e he => hq i e ?_⟩
  rw [← h.events (some i)]
  exact he

theorem KeepsLate.of_discards {q q' : EventQueueBase} {b : Bool} {filter : InnerEvent → Bool}
    (h : Discards filter q q') (hw : q'.wakeUpTime = q.wakeUpTime) : KeepsLate q q' b := by
  refine ⟨hw, fun _ hq i e he => hq i e ?_⟩
  rw [h.events (some i)] at he
  exact List.mem_of_mem_filter he

/-- The stored event is due when it was, or when the head of its list is. -/
theorem storedEvent_handleTime (events : List InnerEvent) (event : InnerEvent)
    (ty : EventInsertType) :
    (storedEvent events event ty).handleTime = event.handleTime ∨
      ∃ head ∈ events, (storedEvent events event ty).handleTime = head.handleTime := by
  cases ty with
  | AT_FRONT => exact frontEvent_handleTime events event
  | AT_END => exact Or.inl rfl

/-- **`Insert` notifies if it stores an event that is due before `wakeUpTime_`**, also when
    `AT_FRONT` lowers the handle time after the decision: then it is that of the head. -/
theorem insert_late (p : Process) (now recv : ClockTime) (q : EventQueueBase)
    (event : Option InnerEvent) (priority : Priority) (ty : EventInsertType)
    (option : VsyncBarrierOption) :
    KeepsLate q (q.insert p now recv event priority ty option).queue
      (q.insert p now recv event priority ty option).needNotify := by
  have hx := insert_cases p now recv q event priority ty option
  generalize q.insert p now recv event priority ty option = o at hx
  cases hx with
  | rejected _ _ => exact ⟨rfl, fun _ => id⟩
  | unnamed _ _ _ _ => exact ⟨rfl, fun _ => id⟩
  | idle event _ _ => exact ⟨rfl, fun _ => id⟩
  | sub event i _ _ q' hq' =>
    have hs := sameLists_dispatchIf event.isVsync recv q
    have hw : q'.wakeUpTime = q.wakeUpTime := by
      rw [hq']
      split <;> rfl
    rw [← hq'] at hs
    refine ⟨hw, fun hn hq j e he => ?_⟩
    simp only [needNotify, Bool.or_eq_false_iff, decide_eq_false_iff_not] at hn
    have hlate : q.wakeUpTime ≤ (preparedEvent p q event priority option).handleTime := by
      have := hn.1.1
      omega
    by_cases hj : j = i
    · subst hj
      rw [(q'.setSub_events j _).1, mem_insertEventsLocked] at he
      rcases he with rfl | he
      · rcases storedEvent_handleTime (q.subEventQueues j).queue
          (preparedEvent p q event priority option) ty with h | ⟨x, hx, h⟩
        · rw [h]
          exact hlate
        · rw [h]
          exact hq j x hx
      · exact hq j e he
    · rw [(q'.setSub_events i _).2 (some j) (fun h => hj (Option.some.inj h)), hs.events] at he
      exact hq j e he

theorem removeOrphan_wakeUpTime (p : Process) (q : EventQueueBase) :
    (q.removeOrphan p).wakeUpTime = q.wakeUpTime := by
  rw [removeOrphan_eq]

theorem applyFlag_wakeUpTime (q : EventQueueBase) (op : FlagOp) :
    (q.applyFlag op).wakeUpTime = q.wakeUpTime := by
  have hx := applyFlag_writes q op
  generalize q.applyFlag op = q' at hx
  cases hx <;> rfl

/-- **An operation other than a turn keeps `wakeUpTime_`, and notifies if it leaves an event that is
    due before.**  It moves the loop thread into `GetEvent` only. -/
theorem step_late {s t : Sys} {op : Op} (hd : inDefaultMode s op = true)
    (he : op.endsWait = false) (h : s.step P op = some t) :
    (∃ clk n, op = .pass clk ∧ s.pc = .looping n ∧ t = s.afterPass n (s.queue.getEventPass P clk)) ∨
      (KeepsLate s.queue t.queue (op.notifies s) ∧
        (t.pc = s.pc ∨ (op = .getEvent ∧ s.pc = .outside ∧ t.pc = .looping 0))) := by
  cases step_cases h with
  | insert p now recv event priority ty option _ =>
    exact Or.inr ⟨insert_late p now recv s.queue _ priority ty option, Or.inl rfl⟩
  | remove selector _ =>
    exact Or.inr ⟨.of_discards (remove_discards selector s.queue)
      (remove_onlyLists selector s.queue).wakeUpTime, Or.inl rfl⟩
  | removeOrphan p _ =>
    exact Or.inr ⟨.of_discards (removeOrphan_discards p s.queue)
      (removeOrphan_wakeUpTime p s.queue), Or.inl rfl⟩
  | removeAll _ =>
    exact Or.inr ⟨.of_discards (removeAll_discards s.queue)
      (removeFilter_onlyLists _ s.queue).wakeUpTime, Or.inl rfl⟩
  | expiredEvent _ _ _ _ _ => cases hd
  | expiredNone _ _ _ _ => cases hd
  | getEvent hpc => exact Or.inr ⟨.of_sameLists (SameLists.refl _) rfl, Or.inr ⟨rfl, hpc, rfl⟩⟩
  | pass clk n hpc => exact Or.inl ⟨clk, n, rfl, hpc, rfl⟩
  | wakeUp _ _ => cases he
  | pollReturn _ _ _ => cases he
  | execute e _ =>
    refine Or.inr ⟨.of_sameLists (runTask_sameLists s e) ?_, Or.inl ?_⟩ <;>
      · unfold Sys.runTask
        split <;> rfl
  | release _ _ => exact Or.inr ⟨.of_sameLists (SameLists.refl _) rfl, Or.inl rfl⟩
  | flag op =>
    exact Or.inr ⟨.of_sameLists (applyFlag_sameLists _ op) (applyFlag_wakeUpTime _ op), Or.inl rfl⟩

/-- **A turn that waits** does so until `wakeUpTime_`, and nothing is due before. -/
theorem pass_late {clk : PassClock} {q : EventQueueBase} {d : Int}
    (hs : ∀ i, SortedByHandleTime (q.events (some i)))
    (hob : q.observer.subscribes STAGE_BEFORE_WAITING = false)
    (h : (q.getEventPass P clk).pass = .wait d) :
    (q.getEventPass P clk).queue.wakeUpTime = d ∧ AllLate (q.getEventPass P clk).queue d := by
  have hx := q.getEventPass_cases P clk
  generalize q.getEventPass P clk = o at h hx
  cases hx with
  | finished _ => cases h
  | expired e _ _ =>
    simp only at h
    split at h <;> cases h
  | lastVsync _ _ _ _ _ => cases h
  | reset _ _ _ _ => cases h
  | wait hf hn h0 =>
    obtain ⟨-, -, -, -, hnext⟩ := getExpiredEventLocked_none hn
    have hsum : (q.checkBarrierMode P clk.check clk.enter).sumOfPendingVsync = 0 := by
      rw [checkBarrierMode_sum, ← q.expired_sum P clk]
      exact h0
    have hob' : (q.expired P clk).queue.observer.subscribes STAGE_BEFORE_WAITING = false := by
      have hctl := getExpiredEventLocked_sameControl (q.checkBarrierMode P clk.check clk.enter)
        clk.now clk.next TimePoint.max
      unfold expired
      rw [hctl.observer, checkBarrierMode_observer]
      exact hob
    have hbw : (q.expired P clk).queue.beforeWaiting clk.consumer (q.expired P clk).nextExpiredTime =
        ((q.expired P clk).queue, (q.expired P clk).nextExpiredTime) := by
      unfold beforeWaiting
      rw [if_neg]
      rw [hob']
      simp
    simp only [hbw] at h ⊢
    cases h
    have hwake := hnext hsum
    refine ⟨hwake.symm, fun i e he => ?_⟩
    rw [expired_none_same hn (some i)] at he
    have hle := expired_none_wakeUpTime_le hn (hs i) e he
    show (q.expired P clk).nextExpiredTime ≤ e.handleTime
    unfold expired at *
    omega

/-! ## The invariant -/

namespace WaitSys

/-- The loop thread is counted in `waitingCount_` of the waiter `w`. -/
def counts (x : WaitSys) (w : Nat) : Bool :=
  match x.waitFor with
  | some (v, stage) => decide (v = w) && stage.counted
  | none => false

/-- The loop thread has not left its wait on the waiter `w`. -/
def AsleepOn (x : WaitSys) (w : Nat) : Prop :=
  ∃ stage, x.waitFor = some (w, stage) ∧ stage.asleep = true

/-- The thread that holds `queueLock_` has not done its notification of `ioWaiter_`. -/
def notifying (x : WaitSys) : Bool := x.notifier.any fun n => n.stage != .done

/-- The thread that holds `queueLock_` has done its notification of `ioWaiter_`. -/
def notified (x : WaitSys) : Bool := x.notifier.any fun n => n.stage == .done

end WaitSys

structure WakeInv (x : WaitSys) : Prop where
  sorted : SortedLists x.sys
  /-- A thread that notifies holds `queueLock_`, so the loop thread does not. -/
  exclusive : x.notifier ≠ none → x.sys.lockFree = true
  inWait : x.waitFor.isSome = x.sys.pc.inWait
  ioWaiter_made : x.ioWaiter < x.made
  waitFor_made : ∀ w stage, x.waitFor = some (w, stage) → w < x.made
  counted : ∀ w, (x.waiters w).CountRight (x.counts w)
  /-- A waiter that is no longer `ioWaiter_` was notified, and so was `ioWaiter_` at the end. -/
  notified : ∀ w, x.AsleepOn w → w ≠ x.ioWaiter ∨ x.notified = true →
    (x.waiters w).wakePending = true
  covered : ∀ w d, x.AsleepOn w → x.sys.pc = .waiting d → x.sys.queue.wakeUpTime = d ∧
    ((x.waiters w).wakePending = true ∨ x.notifying = true ∨ AllLate x.sys.queue d)

variable {start : ClockTime} {x y : WaitSys}

theorem counts_of_asleep {w : Nat} (h : x.AsleepOn w) : x.counts w = true := by
  obtain ⟨stage, hw, hs⟩ := h
  unfold WaitSys.counts
  rw [hw]
  cases stage with
  | returned _ _ => cases hs
  | handling _ _ => cases hs
  | woken _ => cases hs
  | _ => simp [WaitStage.counted, WaitStage.asleep]

theorem not_asleep_of_none {w : Nat} (h : x.waitFor = none) : ¬ x.AsleepOn w := by
  rintro ⟨stage, hw, -⟩
  rw [h] at hw
  cases hw

theorem afterPass_wait {s : Sys} {n : Nat} {o : PassOutcome} {d : Int}
    (h : (s.afterPass n o).pc = .waiting d) : o.pass = .wait d := by
  unfold Sys.afterPass at h
  split at h
  · cases h
  · cases h
  · cases h
  · cases h
  · rename_i hp
    cases h
    exact hp

theorem notifies_takesLock {s : Sys} {op : Op} (h : op.notifies s = true) :
    op.takesLock = true := by
  cases op with
  | flag op => cases op <;> first | rfl | cases h
  | insert _ _ _ _ _ _ _ => rfl
  | _ => cases h

/-- The loop thread starts its wait on `ioWaiter_` with `queueLock_` in its hand. -/
theorem wakeInv_startWait {sys : Sys} (hx : WakeInv x) (hn : x.notifier = none)
    (hw : x.waitFor = none) (hs : SortedLists sys) (hpc : sys.pc.inWait = true)
    (hlate : ∀ d, sys.pc = .waiting d → sys.queue.wakeUpTime = d ∧ AllLate sys.queue d) :
    WakeInv ({ x with sys := sys }.startWait) := by
  refine ⟨hs, fun h => absurd hn h, hpc.symm, hx.ioWaiter_made, ?_, fun v => ?_, ?_, ?_⟩
  · intro w stage h
    cases h
    exact hx.ioWaiter_made
  · have hc := hx.counted v
    have hcv : x.counts v = false := by
      unfold WaitSys.counts
      rw [hw]
    rw [hcv] at hc
    unfold WaitSys.startWait WaitSys.counts
    simp only
    by_cases hv : x.ioWaiter = v
    · subst hv
      rw [Function.update_self]
      simpa [WaitStage.counted, WaitStage.asleep] using IoWaiter.enter_count hc
    · rw [Function.update_of_ne (Ne.symm hv), decide_eq_false hv]
      exact hc
  · rintro w ⟨stage, h, -⟩ hor
    cases h
    rcases hor with h | h
    · exact absurd rfl h
    · simp [WaitSys.notified, WaitSys.startWait, hn] at h
  · rintro w d ⟨stage, h, -⟩ hd
    exact ⟨(hlate d hd).1, Or.inr (Or.inr (hlate d hd).2)⟩

/-- The operations of the queue keep the invariant. -/
theorem wakeInv_queue {op : Op} {sys : Sys} (hx : WakeInv x)
    (hob : x.sys.queue.observer.subscribes STAGE_BEFORE_WAITING = false)
    (he : op.endsWait = false) (hl : op.takesLock = true → x.lockFree = true)
    (h : (defaultModeLoop P start).step x.sys op = some sys) :
    WakeInv (x.afterOp (op.notifies x.sys) sys) := by
  obtain ⟨hd, hst⟩ := System.restrict_step.1 h
  have hsort : SortedLists sys := sorted_step hx.sorted (step_listEffect hst)
  rcases step_late hd he hst with ⟨clk, n, rfl, hpc, rfl⟩ | ⟨hk, hpc⟩
  · -- a turn: the loop thread holds `queueLock_`, so nobody notifies and it is not in a wait
    have hn : x.notifier = none := by
      by_contra hne
      have := hx.exclusive hne
      simp [Sys.lockFree, hpc] at this
    have hw : x.waitFor = none := by
      have := hx.inWait
      rw [hpc] at this
      exact Option.isNone_iff_eq_none.1 (by simpa [Pc.inWait] using this)
    have hx' : x.afterOp false (x.sys.afterPass n (x.sys.queue.getEventPass P clk)) =
        if (x.sys.afterPass n (x.sys.queue.getEventPass P clk)).pc.inWait then
          { x with sys := x.sys.afterPass n (x.sys.queue.getEventPass P clk) }.startWait
        else { x with sys := x.sys.afterPass n (x.sys.queue.getEventPass P clk) } := by
      have hin : x.sys.pc.inWait = false := by
        rw [hpc]
        rfl
      unfold WaitSys.afterOp
      simp [hin]
    show WakeInv (x.afterOp false _)
    rw [hx']
    split
    · rename_i hin
      refine wakeInv_startWait hx hn hw hsort hin fun d hd => ?_
      rw [afterPass_queue]
      exact pass_late (fun i => hx.sorted (some i)) hob (afterPass_wait hd)
    · rename_i hin
      refine ⟨hsort, fun h => absurd hn h, ?_, hx.ioWaiter_made, hx.waitFor_made, hx.counted, ?_, ?_⟩
      · simp only
        rw [hw]
        simpa using hin
      · exact fun w hw' => absurd hw' (not_asleep_of_none hw)
      · exact fun w d hw' => absurd hw' (not_asleep_of_none hw)
  · have hin : sys.pc.inWait = x.sys.pc.inWait := by
      rcases hpc with h | ⟨-, h, h'⟩
      · rw [h]
      · rw [h, h']
        rfl
    have hx' : x.afterOp (op.notifies x.sys) sys = { x with
        sys := sys
        notifier := if op.notifies x.sys then some ⟨.calling, false⟩ else x.notifier } := by
      unfold WaitSys.afterOp
      simp [hin]
    rw [hx']
    refine ⟨hsort, fun hne => ?_, by rw [hin]; exact hx.inWait, hx.ioWaiter_made, hx.waitFor_made,
      hx.counted, fun w hw hor => hx.notified w hw ?_, fun w d hw hd => ?_⟩
    · have hfree : x.sys.lockFree = true := by
        cases hnot : op.notifies x.sys with
        | true =>
          have := hl (notifies_takesLock hnot)
          simp only [WaitSys.lockFree, Bool.and_eq_true] at this
          exact this.2
        | false =>
          simp only [hnot, Bool.false_eq_true, if_false] at hne
          exact hx.exclusive hne
      rcases hpc with h | ⟨rfl, -, -⟩
      · simpa [Sys.lockFree, h] using hfree
      · have := hl rfl
        simp only [WaitSys.lockFree, Bool.and_eq_true, Option.isNone_iff_eq_none] at this
        exact absurd this.1 hne
    · refine hor.imp id fun h => ?_
      cases hnot : op.notifies x.sys with
      | true => simp [WaitSys.notified, hnot] at h
      | false =>
        simp only [WaitSys.notified, hnot, Bool.false_eq_true, if_false] at h
        exact h
    · have hpc' : x.sys.pc = .waiting d := by
        rcases hpc with h | ⟨-, -, h⟩
        · rw [← h]
          exact hd
        · rw [h] at hd
          cases hd
      obtain ⟨hwake, hcov⟩ := hx.covered w d hw hpc'
      subst hwake
      refine ⟨hk.wakeUpTime, ?_⟩
      cases hnot : op.notifies x.sys with
      | true => exact Or.inr (Or.inl (by simp [WaitSys.notifying]))
      | false => exact hcov.imp id (Or.imp id (hk.late hnot))

/-- A notification moves on. -/
theorem wakeInv_notify {n : Notifier} {waiter : IoWaiter} {stage : NotifyStage} (hx : WakeInv x)
    (hn : x.notifier = some n)
    (h : (x.waiters x.ioWaiter).notifyStep n.stage = some (waiter, stage)) :
    WakeInv { x with
      waiters := Function.update x.waiters x.ioWaiter waiter
      notifier := some { n with stage := stage } } := by
  obtain ⟨hkeep, hcount⟩ := IoWaiter.notifyStep_keeps h
  obtain ⟨hne, hstage⟩ := IoWaiter.notifyStep_stage h
  have hdone : x.AsleepOn x.ioWaiter → stage = .done → waiter.wakePending = true := by
    rintro hw rfl
    refine IoWaiter.notifyStep_done ?_ h
    rw [← counts_of_asleep hw]
    exact hx.counted x.ioWaiter
  refine ⟨hx.sorted, fun _ => hx.exclusive (by rw [hn]; simp), hx.inWait, hx.ioWaiter_made,
    hx.waitFor_made, fun v => ?_, fun w hw hor => ?_, fun w d hw hd => ?_⟩
  · show (Function.update x.waiters x.ioWaiter waiter v).CountRight (x.counts v)
    by_cases hv : v = x.ioWaiter
    · subst hv
      rw [Function.update_self]
      exact hcount _ (hx.counted _)
    · rw [Function.update_of_ne hv]
      exact hx.counted v
  · show (Function.update x.waiters x.ioWaiter waiter w).wakePending = true
    by_cases hv : w = x.ioWaiter
    · subst hv
      rw [Function.update_self]
      apply hdone hw
      rcases hor with h | h
      · exact absurd rfl h
      · simpa [WaitSys.notified] using h
    · rw [Function.update_of_ne hv]
      exact hx.notified w hw (Or.inl hv)
  · obtain ⟨hwake, hcov⟩ := hx.covered w d hw hd
    refine ⟨hwake, ?_⟩
    by_cases hv : w = x.ioWaiter
    · subst hv
      simp only [Function.update_self]
      rcases hstage with rfl | rfl
      · exact Or.inr (Or.inl rfl)
      · exact Or.inl (hdone hw rfl)
    · simp only [Function.update_of_ne hv]
      exact Or.inl (hx.notified w hw (Or.inl hv))

/-- The thread that notified releases `queueLock_`; every waiter the loop thread may sleep on holds
    a wake-up then. -/
theorem wakeInv_unlock {b : Bool} (hx : WakeInv x) (hn : x.notifier = some ⟨.done, b⟩) :
    (∀ w, x.AsleepOn w → (x.waiters w).wakePending = true) ∧ WakeInv { x with notifier := none } := by
  have hpend : ∀ w, x.AsleepOn w → (x.waiters w).wakePending = true := fun w hw =>
    hx.notified w hw (Or.inr (by simp [WaitSys.notified, hn]))
  refine ⟨hpend, hx.sorted, fun h => absurd rfl h, hx.inWait, hx.ioWaiter_made, hx.waitFor_made,
    hx.counted, fun w hw _ => hpend w hw, fun w d hw hd => ?_⟩
  exact ⟨(hx.covered w d hw hd).1, Or.inl (hpend w hw)⟩

/-- A new object becomes `ioWaiter_` when a wake-up is pending wherever the loop thread sleeps. -/
theorem wakeInv_replace {waiter : IoWaiter} (hx : WakeInv x) (hn : x.notifier = none)
    (hc : waiter.CountRight false)
    (hpend : ∀ w, x.AsleepOn w → (x.waiters w).wakePending = true) :
    WakeInv (x.replaceWaiter waiter) := by
  have hold : ∀ w, x.AsleepOn w → ((x.replaceWaiter waiter).waiters w).wakePending = true := by
    intro w hw
    obtain ⟨stage, h, -⟩ := id hw
    have := hx.waitFor_made w stage h
    unfold WaitSys.replaceWaiter
    simp only
    rw [Function.update_of_ne (by omega)]
    exact hpend w hw
  refine ⟨hx.sorted, fun h => absurd hn h, hx.inWait, Nat.lt_succ_self _, fun w stage h => ?_,
    fun v => ?_, fun w hw _ => hold w hw, fun w d hw hd => ?_⟩
  · exact Nat.lt_succ_of_lt (hx.waitFor_made w stage h)
  · show (Function.update x.waiters x.made waiter v).CountRight (x.counts v)
    by_cases hv : v = x.made
    · subst hv
      have hcv : x.counts x.made = false := by
        unfold WaitSys.counts
        split
        · rename_i w stage hw
          have := hx.waitFor_made w stage hw
          rw [decide_eq_false (by omega), Bool.false_and]
        · rfl
      rw [Function.update_self, hcv]
      exact hc
    · rw [Function.update_of_ne hv]
      exact hx.counted v
  · exact ⟨(hx.covered w d hw hd).1, Or.inl (hold w hw)⟩

/-- The loop thread moves on in `WaitFor`. -/
theorem wakeInv_wait {w : Nat} {stage stage' : WaitStage} {waiter : IoWaiter} {move : WaitMove}
    (hx : WakeInv x) (hw : x.waitFor = some (w, stage))
    (h : (x.waiters w).waitStep stage move = some (waiter, stage')) :
    WakeInv { x with
      waiters := Function.update x.waiters w waiter
      waitFor := some (w, stage') } := by
  have hback : ∀ v, ({ x with
      waiters := Function.update x.waiters w waiter
      waitFor := some (w, stage') } : WaitSys).AsleepOn v →
      x.AsleepOn v ∧ (Function.update x.waiters w waiter v).wakePending =
        (x.waiters v).wakePending := by
    rintro v ⟨st, hv, hs⟩
    cases hv
    obtain ⟨hs', hp⟩ := IoWaiter.waitStep_asleep h hs
    exact ⟨⟨stage, hw, hs'⟩, by rw [Function.update_self, hp]⟩
  refine ⟨hx.sorted, hx.exclusive, ?_, hx.ioWaiter_made, ?_, fun v => ?_, fun v hv hor => ?_,
    fun v d hv hd => ?_⟩
  · rw [← hx.inWait, hw]
    rfl
  · intro v st hv
    cases hv
    exact hx.waitFor_made w stage hw
  · have hc := hx.counted v
    unfold WaitSys.counts at hc ⊢
    rw [hw] at hc
    simp only at hc ⊢
    by_cases hv : w = v
    · subst hv
      rw [Function.update_self]
      simp only [decide_true, Bool.true_and] at hc ⊢
      exact IoWaiter.waitStep_count h hc
    · rw [Function.update_of_ne (Ne.symm hv)]
      simpa [hv] using hc
  · obtain ⟨hv', hp⟩ := hback v hv
    rw [hp]
    exact hx.notified v hv' hor
  · obtain ⟨hv', hp⟩ := hback v hv
    rw [hp]
    exact hx.covered v d hv' hd

/-- The loop thread holds `queueLock_` again and is in no wait. -/
theorem wakeInv_relock {w : Nat} {result : Bool} {sys : Sys} (hx : WakeInv x)
    (hw : x.waitFor = some (w, .woken result)) (hl : x.lockFree = true)
    (h : (defaultModeLoop P start).step x.sys x.wakeOp = some sys) :
    WakeInv (x.afterWait w result sys) := by
  have hst : x.sys.step P x.wakeOp = some sys := (System.restrict_step.1 h).2
  have hn : x.notifier = none := by
    simp only [WaitSys.lockFree, Bool.and_eq_true, Option.isNone_iff_eq_none] at hl
    exact hl.1
  have hpc : sys.pc.inWait = false := by
    unfold WaitSys.wakeOp at hst
    split at hst
    · cases step_cases hst with
      | pollReturn _ _ _ => rfl
    · cases step_cases hst with
      | wakeUp _ _ => rfl
  have hbase : WakeInv { x with
      sys := sys
      waiters := Function.update x.waiters w (x.waiters w).relock
      waitFor := none } := by
    refine ⟨sorted_step hx.sorted (step_listEffect hst), fun hne => absurd hn hne, hpc.symm,
      hx.ioWaiter_made, ?_, fun v => ?_, ?_, ?_⟩
    · exact fun v stage hv => by cases hv
    · have hc := hx.counted v
      unfold WaitSys.counts at hc ⊢
      rw [hw] at hc
      simp only [WaitStage.counted, WaitStage.asleep, Bool.and_false] at hc
      show (Function.update x.waiters w (x.waiters w).relock v).CountRight false
      by_cases hv : v = w
      · subst hv
        rw [Function.update_self]
        exact IoWaiter.relock_count hc
      · rw [Function.update_of_ne hv]
        exact hc
    · exact fun v hv => absurd hv (not_asleep_of_none rfl)
    · exact fun v d hv => absurd hv (not_asleep_of_none rfl)
  unfold WaitSys.afterWait
  simp only
  split
  · exact hbase
  · exact wakeInv_replace hbase hn trivial fun v hv => absurd hv (not_asleep_of_none rfl)

/-- **Every step keeps the invariant** while no observer is called before a wait. -/
theorem wakeInv_step {a : WaitOp} (hx : WakeInv x)
    (hob : x.sys.queue.observer.subscribes STAGE_BEFORE_WAITING = false)
    (h : x.step P start a = some y) : WakeInv y := by
  cases wait_cases h with
  | queue op sys he hl hs => exact wakeInv_queue hx hob he hl hs
  | listening _ _ => exact hx
  | replacing _ _ hl =>
    have hfree : x.sys.lockFree = true := by
      simp only [WaitSys.lockFree, Bool.and_eq_true] at hl
      exact hl.2
    refine ⟨hx.sorted, fun _ => hfree, hx.inWait, hx.ioWaiter_made, hx.waitFor_made, hx.counted,
      fun w hw hor => hx.notified w hw (Or.inl ?_), fun w d hw hd => ?_⟩
    · rcases hor with h | h
      · exact h
      · cases h
    · exact ⟨(hx.covered w d hw hd).1, Or.inr (Or.inl rfl)⟩
  | notify n waiter stage hn hs => exact wakeInv_notify hx hn hs
  | unlock hn => exact (wakeInv_unlock hx hn).2
  | replace hn =>
    obtain ⟨hpend, hinv⟩ := wakeInv_unlock hx hn
    exact wakeInv_replace hinv rfl rfl hpend
  | wait w stage stage' waiter move hw hs => exact wakeInv_wait hx hw hs
  | relock w result sys hw hl hs => exact wakeInv_relock hx hw hl hs

theorem reachable_wakeInv
    (h : (waitSystem P start).Reachable
      (fun x _ => x.sys.queue.observer.subscribes STAGE_BEFORE_WAITING = false) x) :
    WakeInv x := by
  refine h.invariant ?_ fun x a y hx hob hst => wakeInv_step hx hob hst
  refine ⟨fun k => ?_, fun h => absurd rfl h, rfl, Nat.zero_lt_one, fun w stage h => ?_,
    fun _ => trivial, fun w hw => ?_, fun w d hw => ?_⟩
  · cases k <;> exact List.Pairwise.nil
  · cases h
  · exact absurd hw (not_asleep_of_none rfl)
  · exact absurd hw (not_asleep_of_none rfl)

/-! ## The result -/

/-- **No lost wake-up.** When the loop thread is blocked with the deadline `d` and its waiter holds
    no wake-up, every event of the sub-queues is due at `d` or later, except while the thread that
    holds `queueLock_` is on its way to notify that waiter. -/
theorem no_lost_wakeup (P : SystemParameters) (start : ClockTime) {x : WaitSys} {w : Nat} {d : Int}
    (h : (waitSystem P start).Reachable
      (fun x _ => x.sys.queue.observer.subscribes STAGE_BEFORE_WAITING = false) x)
    (hw : x.waitFor = some (w, .blocked)) (hd : x.sys.pc = .waiting d)
    (hp : (x.waiters w).wakePending = false) :
    AllLate x.sys.queue d ∨ (x.notifying = true ∧ w = x.ioWaiter) := by
  have hx := reachable_wakeInv h
  have hasleep : x.AsleepOn w := ⟨.blocked, hw, rfl⟩
  have hio : w = x.ioWaiter := by
    by_contra hne
    rw [hx.notified w hasleep (Or.inl hne)] at hp
    cases hp
  rcases (hx.covered w d hasleep hd).2 with hpend | hnot | hlate
  · rw [hpend] at hp
    cases hp
  · exact Or.inr ⟨hnot, hio⟩
  · exact Or.inl hlate

/-- An event at 10 ms is inserted; `GetEvent` sees the wake-up of the insertion, looks again, and
    blocks in `NoneIoWaiter::WaitFor`. -/
def blockedOnNone : List WaitOp :=
  [.queue (.flag .prepare), .queue (insertAt (atMs 1) (plainEvent (atMs 10)) .HIGH), .notify,
    .notify, .unlock, .queue .getEvent, .queue (passAt (atMs 1)), .wait .lock, .wait .check,
    .relock, .queue (passAt (atMs 2)), .wait .lock, .wait .check]

/-- The loop thread waits for an event at 10 ms, first on a `NoneIoWaiter` and, when a listener was
    added, on an `EpollIoWaiter`; then an event comes that is due later. -/
theorem no_lost_wakeup_run : ∃ x : WaitSys, x.waitFor = some (1, .blocked) ∧
    x.sys.pc = .waiting (atMs 10).ns ∧ x.sys.accepted = [0, 1] ∧ x.notifying = false ∧
    (AllLate x.sys.queue (atMs 10).ns ∨ (x.notifying = true ∧ 1 = x.ioWaiter)) := by
  obtain ⟨x, hx, hp⟩ := System.run_of_exec (waitSystem {} (atMs 0))
    (fun x _ => x.sys.queue.observer.subscribes STAGE_BEFORE_WAITING = false)
    (fun x => x.waitFor = some (1, .blocked) ∧ x.sys.pc = .waiting (atMs 10).ns ∧
      x.sys.accepted = [0, 1] ∧ x.notifying = false ∧ (x.waiters 1).wakePending = false)
    (blockedOnNone ++ [.addFileDescriptorListener false true, .notify, .notify, .unlock,
      .wait (.wake false), .wait .check, .relock, .queue (passAt (atMs 3)), .wait .epollWait,
      .queue (insertAt (atMs 4) (plainEvent (atMs 20)) .LOW)]) (by decide +kernel)
  exact ⟨x, hp.1, hp.2.1, hp.2.2.1, hp.2.2.2.1,
    no_lost_wakeup {} (atMs 0) ⟨_, hx⟩ hp.1 hp.2.1 hp.2.2.2.2⟩

/-- Between the insertion of an event and `NotifyOne` the loop thread sleeps past the event: `pred_`
    is set in a later critical section. -/
theorem wakeup_on_its_way : ¬ ∀ (x : WaitSys) (w : Nat) (d : Int),
    (waitSystem {} (atMs 0)).Reachable
      (fun x _ => x.sys.queue.observer.subscribes STAGE_BEFORE_WAITING = false) x →
    x.waitFor = some (w, .blocked) → x.sys.pc = .waiting d → (x.waiters w).wakePending = false →
    AllLate x.sys.queue d := by
  intro h
  obtain ⟨x, hx, hp⟩ := System.run_of_exec (waitSystem {} (atMs 0))
    (fun x _ => x.sys.queue.observer.subscribes STAGE_BEFORE_WAITING = false)
    (fun x => (x.waitFor = some (0, .blocked) ∧ x.sys.pc = .waiting (atMs 10).ns ∧
      (x.waiters 0).wakePending = false) ∧
      ¬ ∀ e ∈ x.sys.queue.events (some 2), (atMs 10).ns ≤ e.handleTime)
    (blockedOnNone ++ [.queue (insertAt (atMs 3) (plainEvent (atMs 5)) .HIGH)]) (by decide)
  exact hp.2 (h x 0 _ ⟨_, hx⟩ hp.1.1 hp.1.2.1 hp.1.2.2 2)

end AppExecFwk
