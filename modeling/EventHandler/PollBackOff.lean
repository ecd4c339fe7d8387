import EventHandler.PreemptHint

/-!
# The back-off of the vsync poll

`TryEpollFd` decides to poll, waits with `queueLock_` released, and acts on its decision when it holds
the lock again: without a vsync event in between it moves `vsyncCheckTime_` on by `vsyncPeriod_` and
doubles the period, and from 69 ms on it stops polling.

* `Op.inPoll`, `Op.arrives` — what other threads and the epoll callback do in that window, and which of
  it is the arrival of a vsync event.
* `window_checkTime` — an arrival leaves `vsyncCheckTime_` at its maximum; the rest leaves it alone.
* `Sys.backsOff` — control reaches the back-off branch.
* `BackOffs` — runs by their back-off steps, up to the one that stops polling.
* `backOff_iff` — the sum overflows exactly when a vsync event has come and gone in the window.
-/

set_option autoImplicit false

namespace AppExecFwk

open Transition EventQueueBase

variable {P : SystemParameters} {start : ClockTime} {s t : Sys}

/-! ## The window -/

/-- The operations that come in while `TryEpollFd` has the lock released. -/
def Op.inPoll : Op → Bool
  | .insert _ _ _ _ _ _ _ => true
  | .remove _ => true
  | .removeOrphan _ => true
  | .removeAll => true
  | .flag (.dispatchVsyncTaskNotify _) => true
  | _ => false

/-- `Insert` reaches `DispatchVsyncTaskNotify`. -/
def insertArrives (q : EventQueueBase) (event : Option InnerEvent) (priority : Priority) : Bool :=
  q.usable && event.any InnerEvent.isVsync && priority.subIndex.isSome

/-- The operation is the arrival of a vsync event. -/
def Op.arrives (q : EventQueueBase) : Op → Bool
  | .insert _ _ _ event priority _ _ => insertArrives q event priority
  | .flag (.dispatchVsyncTaskNotify _) => true
  | _ => false

/-- What the window leaves alone, and what it does to the check time. -/
structure WindowEffect (q : EventQueueBase) (arrived : Bool) (q' : EventQueueBase) : Prop where
  usable : q'.usable = q.usable
  period : q'.vsyncPeriod = q.vsyncPeriod
  check : q'.vsyncCheckTime = if arrived then INT64_MAX else q.vsyncCheckTime

theorem EventQueueBase.SameControl.windowEffect {q q' : EventQueueBase} (h : SameControl q q') :
    WindowEffect q false q' := by
  unfold SameControl at h
  rw [h]
  exact ⟨rfl, rfl, rfl⟩

theorem insert_windowEffect (p : Process) (now recv : ClockTime) (q : EventQueueBase)
    (event : Option InnerEvent) (priority : Priority) (ty : EventInsertType)
    (option : VsyncBarrierOption) :
    WindowEffect q (insertArrives q event priority)
      (q.insert p now recv event priority ty option).queue := by
  have hx := insert_cases p now recv q event priority ty option
  generalize q.insert p now recv event priority ty option = o at hx
  unfold insertArrives
  cases hx with
  | rejected _ h =>
    rcases h with rfl | hu
    · exact ⟨rfl, rfl, by simp⟩
    · exact ⟨rfl, rfl, by simp [hu]⟩
  | unnamed _ _ hi _ => exact ⟨rfl, rfl, by simp [hi]⟩
  | idle _ _ hp => exact ⟨rfl, rfl, by simp [hp, Priority.subIndex]⟩
  | sub event i hu hi q' hq' =>
    subst hq'
    cases hv : event.isVsync with
    | true => exact ⟨rfl, rfl, by simp [hu, hi, hv, dispatchVsyncTaskNotify, setSub]⟩
    | false => exact ⟨rfl, rfl, by simp [hv, setSub]⟩

/-- **A step of the window.** -/
theorem step_windowEffect {a : Op} (ha : a.inPoll = true) (h : s.step P a = some t) :
    WindowEffect s.queue (a.arrives s.queue) t.queue := by
  cases step_cases h with
  | insert p now recv event priority ty option _ =>
    have heffect := insert_windowEffect p now recv s.queue (event.map s.stamp) priority ty option
    have hsame : insertArrives s.queue (event.map s.stamp) priority =
        insertArrives s.queue event priority := by
      cases event <;> rfl
    rw [hsame] at heffect
    exact heffect
  | remove selector _ => exact (remove_onlyLists selector s.queue).sameControl.windowEffect
  | removeOrphan p _ =>
    show WindowEffect s.queue false (s.queue.removeOrphan p)
    rw [removeOrphan_eq]
    exact ⟨rfl, rfl, rfl⟩
  | removeAll _ => exact (removeFilter_onlyLists _ s.queue).sameControl.windowEffect
  | flag op =>
    cases op with
    | dispatchVsyncTaskNotify now => exact ⟨rfl, rfl, rfl⟩
    | _ => cases ha
  | _ => cases ha

/-- **A window**: an arrival leaves the check time at its maximum, which nothing in the window undoes;
    without one it stays. -/
theorem window_checkTime {as : List Op}
    (h : (queueSystem P start).Run (fun _ a => a.inPoll = true) s as t) :
    WindowEffect s.queue (as.any fun a => a.arrives s.queue) t.queue := by
  induction h with
  | nil s => exact ⟨rfl, rfl, rfl⟩
  | @cons s u v a as ha hst _ ih =>
    obtain ⟨husable, hperiod, hcheck⟩ := step_windowEffect ha hst
    have hsame : (as.any fun a => a.arrives u.queue) = as.any fun a => a.arrives s.queue := by
      apply List.any_congr rfl
      intro b
      unfold Op.arrives insertArrives
      rw [husable]
    rw [hsame] at ih
    refine ⟨ih.usable.trans husable, ih.period.trans hperiod, ?_⟩
    rw [ih.check, hcheck, List.any_cons]
    cases a.arrives s.queue <;> cases as.any fun a => a.arrives s.queue <;> rfl

/-- In the window the loop thread is in `TryEpollFd`. -/
theorem window_pc {as : List Op}
    (h : (queueSystem P start).Run (fun _ a => a.inPoll = true) s as t) : t.pc = s.pc := by
  apply h.invariant (I := fun t => t.pc = s.pc)
  · intro u a v hu ha hst
    have hst' : u.step P a = some v := hst
    cases step_cases hst' with
    | insert _ _ _ _ _ _ _ _ => exact hu
    | remove _ _ => exact hu
    | removeOrphan _ _ => exact hu
    | removeAll _ => exact hu
    | flag _ => exact hu
    | _ => cases ha
  · rfl

/-! ## The decision -/

/-- A poll without `needEpoll_` is made when the check time has passed. -/
theorem poll_after_check {clk : PassClock} {e : InnerEvent} (h : s.step P (.pass clk) = some t)
    (hpc : t.pc = .polling e false) : t.queue.vsyncCheckTime < clk.poll.ns := by
  cases step_cases h with
  | pass clk n _ =>
    have hx := s.queue.getEventPass_cases P clk
    generalize s.queue.getEventPass P clk = o at hx hpc
    cases hx with
    | expired x _ _ =>
      unfold Sys.afterPass at hpc ⊢
      simp only at hpc ⊢
      cases hneeds : (s.queue.expired P clk).queue.needsPoll clk.poll with
      | false =>
        rw [hneeds] at hpc
        cases hpc
      | true =>
        rw [hneeds] at hpc
        have hepoll : (s.queue.expired P clk).queue.needEpoll = false := by
          simp only [if_true, Pc.polling.injEq] at hpc
          exact hpc.2
        unfold needsPoll at hneeds
        simp only [hepoll, Bool.false_or, Bool.and_eq_true, decide_eq_true_eq] at hneeds
        exact hneeds.2
    | _ => cases hpc

/-- Control reaches the back-off branch of `TryEpollFd`. -/
def Sys.backsOff (s : Sys) : Op → Bool
  | .pollReturn =>
    match s.pc with
    | .polling _ need => !need && decide (s.queue.sumOfPendingVsync = 0)
    | _ => false
  | _ => false

theorem Sys.backsOff_pc (h : s.backsOff .pollReturn = true) : ∃ e, s.pc = .polling e false := by
  unfold Sys.backsOff at h
  cases hpc : s.pc with
  | polling e need =>
    simp only [hpc, Bool.and_eq_true, Bool.not_eq_true'] at h
    exact ⟨e, by rw [h.1]⟩
  | _ => simp [hpc] at h

/-! ## Counting the back-off steps -/

/-- A call of `UpdateVsyncCheckTime`. -/
def Op.updatesCheckTime : Op → Bool
  | .flag (.updateVsyncCheckTime _ _ _) => true
  | _ => false

/-- Runs without `UpdateVsyncCheckTime` and with `n` back-off steps, none of which brings
    `vsyncCheckTime_` to its maximum. -/
inductive BackOffs (P : SystemParameters) : Sys → Nat → Sys → Prop
  | nil (s : Sys) : BackOffs P s 0 s
  | other {s t u : Sys} {a : Op} {n : Nat} (ha : a.updatesCheckTime = false)
      (hb : s.backsOff a = false) (h : s.step P a = some t) (hn : BackOffs P t n u) :
      BackOffs P s n u
  | backOff {s t u : Sys} {a : Op} {n : Nat} (hb : s.backsOff a = true) (h : s.step P a = some t)
      (hmax : t.queue.vsyncCheckTime ≠ INT64_MAX) (hn : BackOffs P t n u) :
      BackOffs P s (n + 1) u

theorem applyFlag_period {q : EventQueueBase} {op : FlagOp}
    (h : (Op.flag op).updatesCheckTime = false) : (q.applyFlag op).vsyncPeriod = q.vsyncPeriod := by
  have hx := applyFlag_writes q op
  generalize q.applyFlag op = q' at hx
  cases hx with
  | updateVsyncCheckTime _ _ _ _ _ => cases h
  | _ => rfl

/-- Any other step leaves the period alone. -/
theorem step_period {a : Op} (ha : a.updatesCheckTime = false) (hb : s.backsOff a = false)
    (h : s.step P a = some t) : t.queue.vsyncPeriod = s.queue.vsyncPeriod := by
  cases step_cases h with
  | insert p now recv event priority ty option _ =>
    exact (insert_windowEffect p now recv s.queue (event.map s.stamp) priority ty option).period
  | remove selector _ => exact (remove_onlyLists selector s.queue).sameControl.windowEffect.period
  | removeOrphan p _ => exact (removeOrphan_sameVsyncTimes p s.queue).period
  | removeAll _ => exact (removeFilter_onlyLists _ s.queue).sameControl.windowEffect.period
  | expiredEvent now next e _ _ =>
    exact (getExpiredEventLocked_sameControl s.queue now next _).windowEffect.period
  | expiredNone now next _ _ =>
    exact (getExpiredEventLocked_sameControl s.queue now next _).windowEffect.period
  | getEvent _ => rfl
  | pass clk n _ =>
    rw [afterPass_queue]
    exact (pass_sameVsyncTimes clk s.queue).period
  | wakeUp _ _ => rfl
  | pollReturn e need hpc =>
    simp only [Sys.backsOff, hpc, Bool.and_eq_false_iff, Bool.not_eq_false', decide_eq_false_iff_not]
      at hb
    simp only [afterPoll]
    split
    · rfl
    · rename_i hsum
      rw [if_pos (hb.resolve_right hsum)]
  | execute e _ =>
    unfold Sys.runTask
    split <;> rfl
  | release _ _ => rfl
  | flag op => exact applyFlag_period ha

/-- A back-off step that goes on polling doubles the period. -/
theorem backOff_period {a : Op} (hb : s.backsOff a = true) (h : s.step P a = some t)
    (hmax : t.queue.vsyncCheckTime ≠ INT64_MAX) :
    t.queue.vsyncPeriod = s.queue.vsyncPeriod * 2 := by
  cases step_cases h with
  | pollReturn e need hpc =>
    simp only [Sys.backsOff, hpc, Bool.and_eq_true, Bool.not_eq_true', decide_eq_true_eq] at hb
    obtain ⟨hneed, hsum⟩ := hb
    subst hneed
    simp only [afterPoll, hsum, ne_eq, not_true_eq_false, if_false, Bool.false_eq_true] at hmax ⊢
    split
    · rfl
    · rename_i hstop
      rw [if_neg hstop] at hmax
      exact absurd rfl hmax
  | _ => cases hb

/-- **Each back-off step doubles the period.** -/
theorem BackOffs.period {n : Nat} (h : BackOffs P s n t) :
    s.queue.vsyncPeriod * 2 ^ n = t.queue.vsyncPeriod := by
  induction h with
  | nil s => simp
  | other ha hb hst _ ih =>
    rw [step_period ha hb hst] at ih
    exact ih
  | @backOff s t u a n hb hst hmax _ ih =>
    rw [backOff_period hb hst hmax] at ih
    rw [← ih, pow_succ]
    ring

theorem BackOffs.reachable {n : Nat} (h : BackOffs P s n t)
    (hs : (queueSystem P start).Reachable System.always s) :
    (queueSystem P start).Reachable System.always t := by
  induction h with
  | nil s => exact hs
  | other _ _ hst _ ih => exact ih (hs.step trivial hst)
  | backOff _ hst _ _ ih => exact ih (hs.step trivial hst)

/-- **At most 27 back-off steps go on polling.** -/
theorem BackOffs.le {n : Nat} (h : BackOffs P s n t)
    (hs : (queueSystem P start).Reachable System.always s) : n ≤ 27 := by
  have hpos := (reachable_vsyncTimes hs).period_pos
  have hle := (reachable_vsyncTimes (h.reachable hs)).period_le
  rw [← h.period] at hle
  unfold MAX_CHECK_VSYNC_PERIOD_NS at hle
  by_contra hn
  have hpow : (2 : Int) ^ 28 ≤ 2 ^ n := pow_le_pow_right₀ (by decide) (by omega)
  have hmul : (1 : Int) * 2 ^ n ≤ s.queue.vsyncPeriod * 2 ^ n :=
    mul_le_mul_of_nonneg_right (by omega) (by positivity)
  norm_num at hpow
  omega

/-! ## The overflow -/

/-- **When control reaches the back-off branch, the sum of `vsyncCheckTime_` and `vsyncPeriod_` is held
    in 64 bits exactly when no vsync event has arrived in the window** (and the sum was held when the
    poll was decided on, as it is up to 138 ms before the end of the clock).  The period never
    exceeds its bound, and at most 27 back-off steps go on polling. -/
theorem backOff_iff (P : SystemParameters) (start : ClockTime) {s₀ s₁ s₂ : Sys} {clk : PassClock}
    {as : List Op} (hs : (queueSystem P start).Reachable System.always s₀)
    (hpass : s₀.step P (.pass clk) = some s₁)
    (hwindow : (queueSystem P start).Run (fun _ a => a.inPoll = true) s₁ as s₂)
    (hback : s₂.backsOff .pollReturn = true) :
    (s₂.queue.vsyncCheckTime + s₂.queue.vsyncPeriod ≤ INT64_MAX ↔
      (∀ a ∈ as, a.arrives s₁.queue = false) ∧
        s₁.queue.vsyncCheckTime + s₁.queue.vsyncPeriod ≤ INT64_MAX) ∧
    (clk.poll.ns + 2 * MAX_CHECK_VSYNC_PERIOD_NS ≤ INT64_MAX →
      s₁.queue.vsyncCheckTime + s₁.queue.vsyncPeriod ≤ INT64_MAX) ∧
    (∀ u, (queueSystem P start).Reachable System.always u →
      u.queue.vsyncPeriod ≤ 2 * MAX_CHECK_VSYNC_PERIOD_NS) ∧
    ∀ u n v, (queueSystem P start).Reachable System.always u → BackOffs P u n v → n ≤ 27 := by
  have hs₁ : (queueSystem P start).Reachable System.always s₁ := hs.run (Sys.run_one hpass)
  have htimes := reachable_vsyncTimes hs₁
  refine ⟨?_, fun hclock => ?_, fun u hu => (reachable_vsyncTimes hu).period_le,
    fun u n v hu h => h.le hu⟩
  · obtain ⟨-, hperiod, hcheck⟩ := window_checkTime hwindow
    rw [hperiod, hcheck]
    cases harrived : as.any fun a => a.arrives s₁.queue with
    | true =>
      obtain ⟨a, ha, hav⟩ := List.any_eq_true.1 harrived
      refine iff_of_false (fun hle => ?_) fun h => ?_
      · have hpos := htimes.period_pos
        simp only [if_true] at hle
        omega
      · rw [h.1 a ha] at hav
        cases hav
    | false =>
      rw [List.any_eq_false] at harrived
      have hnone : ∀ a ∈ as, a.arrives s₁.queue = false := fun a ha => by simpa using harrived a ha
      rw [if_neg Bool.false_ne_true, and_iff_right hnone]
  · obtain ⟨e, hpc⟩ := Sys.backsOff_pc hback
    rw [window_pc hwindow] at hpc
    have hlt := poll_after_check hpass hpc
    have hle := htimes.period_le
    omega

/-- An event is due at 20 ms, behind the check time of 11 ms. -/
def beforePoll : List Op :=
  [.flag (.setVsyncLazyMode false), .flag (.updateVsyncCheckTime (atMs 1) 0 10000000),
    insertAt (atMs 2) (plainEvent (atMs 2)) .LOW, .flag .prepare, .getEvent]

/-- A poll that nothing comes in between. -/
theorem backOff_iff_quiet : ∃ s : Sys, s.backsOff .pollReturn = true ∧
    s.queue.vsyncCheckTime + s.queue.vsyncPeriod ≤ INT64_MAX := by
  obtain ⟨s, hrun, hs⟩ := System.run_of_exec (queueSystem {} (atMs 0)) System.always
    (fun s => (s.step {} (passAt (atMs 20))).any (fun t => t.backsOff .pollReturn) = true)
    beforePoll (by decide)
  cases hst : s.step {} (passAt (atMs 20)) with
  | none =>
    rw [hst] at hs
    cases hs
  | some t =>
    rw [hst] at hs
    have hiff := backOff_iff {} (atMs 0) ⟨_, hrun⟩ hst (.nil _) hs
    exact ⟨t, hs, hiff.1.2 ⟨by simp, hiff.2.1 (by decide)⟩⟩

/-- A vsync task comes in during the poll, and its handler goes. -/
def orphanedInPoll : List Op :=
  [insertAt (atMs 20) (vsyncEvent (atMs 20)) .VIP,
    .removeOrphan { oneRunner with alive := fun _ => false }]

/-- The back-off adds the period to the largest time. -/
theorem backOff_overflows : ¬ ∀ (P : SystemParameters) (start : ClockTime) (s₀ s₁ s₂ : Sys)
    (clk : PassClock) (as : List Op), (queueSystem P start).Reachable System.always s₀ →
    s₀.step P (.pass clk) = some s₁ →
    (queueSystem P start).Run (fun _ a => a.inPoll = true) s₁ as s₂ →
    s₂.backsOff .pollReturn = true →
    s₂.queue.vsyncCheckTime + s₂.queue.vsyncPeriod ≤ INT64_MAX := by
  intro h
  obtain ⟨s, hrun, hs⟩ := System.run_of_exec (queueSystem {} (atMs 0)) System.always
    (fun s => (s.step {} (passAt (atMs 20))).any (fun t =>
      ((queueSystem {} (atMs 0)).execIf (fun _ a => a.inPoll) t orphanedInPoll).any fun u =>
        u.backsOff .pollReturn &&
          decide (INT64_MAX < u.queue.vsyncCheckTime + u.queue.vsyncPeriod)) = true)
    beforePoll (by decide)
  cases hst : s.step {} (passAt (atMs 20)) with
  | none =>
    rw [hst] at hs
    cases hs
  | some t =>
    rw [hst, Option.any_some] at hs
    cases hex : (queueSystem {} (atMs 0)).execIf (fun _ a => a.inPoll) t orphanedInPoll with
    | none =>
      rw [hex] at hs
      cases hs
    | some u =>
      rw [hex, Option.any_some, Bool.and_eq_true, decide_eq_true_eq] at hs
      have hle := h {} (atMs 0) s t u _ _ ⟨_, hrun⟩ hst (System.run_of_execIf hex) hs.1
      omega

end AppExecFwk
