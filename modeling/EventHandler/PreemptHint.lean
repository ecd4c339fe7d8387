import EventHandler.QueueSystem

/-!
# The preemption hint

Model of `EventHandler::HasPendingHigherEvent` and `EventQueueBase::GetQueueFirstEventHandleTime`.
A task asks between its pieces whether something more urgent is due; asked for vsync only, the hint
says that the pending vsync task is overdue, which is what `CheckBarrierMode` tests before it enters
barrier mode.

The hint computes in `uint64_t`, the test in `int64_t`.

* `getQueueFirstEventHandleTime`, `hasPendingHigherEvent` — the functions; an index outside
  `PENDING_JOB_TIMEOUT` or `subEventQueues_` has no result.
* `VsyncTimes` — what every run keeps of the vsync fields: none of them is negative.
* `vsyncHint_iff`, `VsyncFirst.hint_iff` — the hint, in wrapped sums and in the sums before their
  conversion.
* `HintHonoured` — the hint at one time means barrier mode at any later one.
* `hintHonoured_iff` — so it is exactly when the end of the vsync interval is not negative, or the
  wrapped sum gives no early hint.
-/

set_option autoImplicit false

namespace AppExecFwk

open Transition EventQueueBase

/-- The system parameters read once by `event_handler.cpp`, in milliseconds. -/
structure PendingHigherEvent where
  vip : Int32 := 4
  immediate : Int32 := 40
  high : Int32 := 400
  deriving DecidableEq

/-- `PENDING_JOB_TIMEOUT`, an array of `uint64_t`. -/
def PendingHigherEvent.PENDING_JOB_TIMEOUT (T : PendingHigherEvent) : List Nat :=
  [toUInt64 T.vip.toInt, toUInt64 T.immediate.toInt, toUInt64 T.high.toInt]

/-! ## The functions -/

namespace EventQueueBase

/-- The `invalidation` of `GetQueueFirstEventHandleTime`. -/
def hintInvalid (q : EventQueueBase) (onlyCheckVsync : Bool) : Bool :=
  if onlyCheckVsync then
    decide (q.vsyncPolicy ≠ .VSYNC_FIRST_WITHOUT_DEFAULT_BARRIER) || q.isLazyMode || q.isBarrierMode
  else q.isBarrierMode

/-- The end of the interval that `CheckBarrierMode` keeps between vsync tasks. -/
def vsyncIntervalEnd (P : SystemParameters) (q : EventQueueBase) : Int :=
  q.vsyncCompleteTime + P.vsyncTaskIntervalMs * MILLISECONDS_TO_NANOSECONDS_RATIO

/-- `GetQueueFirstEventHandleTime`; the times are `uint64_t`. -/
def getQueueFirstEventHandleTime (P : SystemParameters) (q : EventQueueBase) (now : Nat)
    (priority : Int) (onlyCheckVsync : Bool) : Option Nat :=
  if q.hintInvalid onlyCheckVsync then some UINT64_MAX
  else
    (if onlyCheckVsync then some UINT64_MAX
      else (priorityToIndex priority).map fun i => (q.subEventQueues i).frontEventHandleTime).map
    fun time =>
      if priority = Priority.toInt32 .VIP then
        let vsyncCheckTime := toUInt64 q.vsyncCheckTime
        if q.sumOfPendingVsync ≠ 0 then
          let vsyncDelayTime := toUInt64 (q.getVsyncTaskDelayTime P)
          let vsyncIntervalTime := toUInt64 (q.vsyncIntervalEnd P)
          let vsyncTime :=
            if vsyncDelayTime < vsyncIntervalTime then vsyncIntervalTime else vsyncDelayTime
          if time < vsyncTime then time else vsyncTime
        else if vsyncCheckTime < now then
          if time < vsyncCheckTime then time else vsyncCheckTime
        else time
      else time

end EventQueueBase

/-- The loop of `HasPendingHigherEvent` over the indices below `n`. -/
def pendingHigherLoop (P : SystemParameters) (T : PendingHigherEvent) (q : EventQueueBase)
    (priority : Int) (onlyCheckVsync : Bool) (now : Nat) : Nat → Option Bool
  | 0 => some false
  | i + 1 =>
    (q.getQueueFirstEventHandleTime P now i onlyCheckVsync).bind fun eventHandleTime =>
      if eventHandleTime = UINT64_MAX then pendingHigherLoop P T q priority onlyCheckVsync now i
      else if priority = Priority.toInt32 .IDLE then some true
      else
        (T.PENDING_JOB_TIMEOUT[i]?).bind fun timeout =>
          if (eventHandleTime + timeout * 1000000) % 18446744073709551616 ≤ now then some true
          else pendingHigherLoop P T q priority onlyCheckVsync now i

/-- `HasPendingHigherEvent`; `currentEventPriority` is the thread's, and `queue` is `none` without a
    runner. -/
def hasPendingHigherEvent (P : SystemParameters) (T : PendingHigherEvent)
    (currentEventPriority : Int) (queue : Option EventQueueBase) (now : ClockTime) (priority : Int)
    (onlyCheckVsync : Bool) : Option Bool :=
  match queue with
  | none => some false
  | some q =>
    let priority :=
      if priority < Priority.toInt32 .VIP ∨ priority > Priority.toInt32 .IDLE then
        currentEventPriority
      else priority
    if priority ≤ Priority.toInt32 .VIP then some false
    else pendingHigherLoop P T q priority onlyCheckVsync (toUInt64 now.ns) priority.toNat

/-! ## The vsync times -/

/-- The fields that hold vsync times. -/
structure SameVsyncTimes (q q' : EventQueueBase) : Prop where
  period : q'.vsyncPeriod = q.vsyncPeriod
  check : q'.vsyncCheckTime = q.vsyncCheckTime
  recv : q'.vsyncRecvTime = q.vsyncRecvTime
  complete : q'.vsyncCompleteTime = q.vsyncCompleteTime

/-- The vsync times of every run: none is negative, and what is added to a time is small. -/
structure VsyncTimes (q : EventQueueBase) : Prop where
  period_pos : 0 < q.vsyncPeriod
  period_le : q.vsyncPeriod ≤ 2 * MAX_CHECK_VSYNC_PERIOD_NS
  check_pos : 0 < q.vsyncCheckTime
  recv_nonneg : 0 ≤ q.vsyncRecvTime
  recv_le : q.vsyncRecvTime ≤ INT64_MAX
  complete_nonneg : 0 ≤ q.vsyncCompleteTime
  complete_le : q.vsyncCompleteTime ≤ INT64_MAX

theorem EventQueueBase.SameControl.sameVsyncTimes {q q' : EventQueueBase} (h : SameControl q q') :
    SameVsyncTimes q q' := by
  unfold SameControl at h
  rw [h]
  exact ⟨rfl, rfl, rfl, rfl⟩

theorem VsyncTimes.of_same {q q' : EventQueueBase} (h : VsyncTimes q) (hs : SameVsyncTimes q q') :
    VsyncTimes q' := by
  obtain ⟨h₁, h₂, h₃, h₄, h₅, h₆, h₇⟩ := h
  rw [← hs.period] at h₁ h₂
  rw [← hs.check] at h₃
  rw [← hs.recv] at h₄ h₅
  rw [← hs.complete] at h₆ h₇
  exact ⟨h₁, h₂, h₃, h₄, h₅, h₆, h₇⟩

theorem INT64_MAX_pos : 0 < INT64_MAX := by decide

theorem VsyncTimes.dispatch {q : EventQueueBase} (h : VsyncTimes q) (now : ClockTime) :
    VsyncTimes (q.dispatchVsyncTaskNotify now) := by
  have hcheck := h.check_pos
  have h0 := now.nonneg
  have hmax := now.lt_max
  rw [TimePoint.max] at hmax
  refine ⟨h.period_pos, h.period_le, INT64_MAX_pos, ?_, ?_, h.complete_nonneg, h.complete_le⟩ <;>
    · unfold dispatchVsyncTaskNotify
      simp only
      split <;> omega

/-- `vsyncCheckTime_` lies behind the clock, since a remainder is smaller than the period. -/
theorem VsyncTimes.updateVsyncCheckTime {q : EventQueueBase} (h : VsyncTimes q) (now : ClockTime)
    (lastFrameTime period : Int) :
    VsyncTimes (q.updateVsyncCheckTime now lastFrameTime period) := by
  have h0 := now.nonneg
  unfold EventQueueBase.updateVsyncCheckTime
  by_cases hp : period > 0
  · rw [if_pos hp]
    refine ⟨?_, ?_, ?_, h.recv_nonneg, h.recv_le, h.complete_nonneg, h.complete_le⟩
    · simp only
      split
      · decide
      · exact hp
    · simp only
      unfold MAX_CHECK_VSYNC_PERIOD_NS MAX_INIT_VSYNC_PERIOD_NS
      split <;> omega
    · simp only
      unfold CHECK_VSYNC_DELAY_NS
      split
      · rename_i hlast
        have hrem := Int.tmod_nonneg period (a := lastFrameTime - now.ns) (by omega)
        omega
      · rename_i hlast
        have hrem := Int.tmod_lt_of_pos (now.ns - lastFrameTime) hp
        omega
  · rw [if_neg hp]
    exact h

theorem VsyncTimes.afterPoll {q : EventQueueBase} (h : VsyncTimes q) (need : Bool) :
    VsyncTimes (q.afterPoll need) := by
  have hpos := h.period_pos
  have hcheck := h.check_pos
  unfold EventQueueBase.afterPoll
  split
  · exact h
  · split
    · exact h.of_same ⟨rfl, rfl, rfl, rfl⟩
    · split
      · rename_i hlt
        refine ⟨?_, ?_, ?_, h.recv_nonneg, h.recv_le, h.complete_nonneg, h.complete_le⟩ <;> simp only
        · omega
        · omega
        · omega
      · exact ⟨hpos, h.period_le, INT64_MAX_pos, h.recv_nonneg, h.recv_le, h.complete_nonneg,
          h.complete_le⟩

theorem VsyncTimes.insert {q : EventQueueBase} (h : VsyncTimes q) (p : Process)
    (now recv : ClockTime) (event : Option InnerEvent) (priority : Priority) (ty : EventInsertType)
    (option : VsyncBarrierOption) : VsyncTimes (q.insert p now recv event priority ty option).queue := by
  have hx := insert_cases p now recv q event priority ty option
  generalize q.insert p now recv event priority ty option = o at hx
  cases hx with
  | rejected _ _ => exact h
  | unnamed _ _ _ _ => exact h
  | idle _ _ _ => exact h.of_same ⟨rfl, rfl, rfl, rfl⟩
  | sub event i _ _ q' hq' =>
    have hq : VsyncTimes q' := by
      rw [hq']
      split
      · exact h.dispatch recv
      · exact h
    exact hq.of_same ⟨rfl, rfl, rfl, rfl⟩

theorem removeOrphan_sameVsyncTimes (p : Process) (q : EventQueueBase) :
    SameVsyncTimes q (q.removeOrphan p) := by
  rw [removeOrphan_eq]
  exact ⟨rfl, rfl, rfl, rfl⟩

theorem pass_sameVsyncTimes {P : SystemParameters} (clk : PassClock) (q : EventQueueBase) :
    SameVsyncTimes q (q.getEventPass P clk).queue :=
  have h := q.getEventPass_frame P clk
  ⟨h.period, h.check, h.recv, h.complete⟩

theorem VsyncTimes.applyFlag {q : EventQueueBase} (h : VsyncTimes q) (op : FlagOp) :
    VsyncTimes (q.applyFlag op) := by
  cases op with
  | updateVsyncCheckTime now l p => exact h.updateVsyncCheckTime now l p
  | dispatchVsyncTaskNotify now => exact h.dispatch now
  | handleVsyncTaskCompletely now =>
    have hmax := now.lt_max
    exact ⟨h.period_pos, h.period_le, h.check_pos, h.recv_nonneg, h.recv_le, now.nonneg, hmax.le⟩
  | setVsyncLazyMode isLazy =>
    refine h.of_same ?_
    simp only [EventQueueBase.applyFlag, setVsyncLazyMode]
    split <;> exact ⟨rfl, rfl, rfl, rfl⟩
  | setVsyncFirstForceEnableTime now enable timeout =>
    refine h.of_same ?_
    simp only [EventQueueBase.applyFlag, setVsyncFirstForceEnableTime]
    split <;> exact ⟨rfl, rfl, rfl, rfl⟩
  | prepare =>
    refine h.of_same ?_
    simp only [EventQueueBase.applyFlag, prepare]
    split <;> exact ⟨rfl, rfl, rfl, rfl⟩
  | finish =>
    refine h.of_same ?_
    simp only [EventQueueBase.applyFlag, finish]
    split <;> exact ⟨rfl, rfl, rfl, rfl⟩
  | _ => exact h.of_same ⟨rfl, rfl, rfl, rfl⟩

/-- **Every step keeps the vsync times.** -/
theorem vsyncTimes_step {P : SystemParameters} {s t : Sys} {a : Op} (h : VsyncTimes s.queue)
    (hst : s.step P a = some t) : VsyncTimes t.queue := by
  cases step_cases hst with
  | insert p now recv event priority ty option _ => exact h.insert p now recv _ priority ty option
  | remove selector _ =>
    exact h.of_same (remove_onlyLists selector s.queue).sameControl.sameVsyncTimes
  | removeOrphan p _ => exact h.of_same (removeOrphan_sameVsyncTimes p s.queue)
  | removeAll _ => exact h.of_same (removeFilter_onlyLists _ s.queue).sameControl.sameVsyncTimes
  | expiredEvent now next e _ _ =>
    exact h.of_same (getExpiredEventLocked_sameControl s.queue now next _).sameVsyncTimes
  | expiredNone now next _ _ =>
    exact h.of_same (getExpiredEventLocked_sameControl s.queue now next _).sameVsyncTimes
  | getEvent _ => exact h
  | pass clk n _ =>
    rw [afterPass_queue]
    exact h.of_same (pass_sameVsyncTimes clk s.queue)
  | wakeUp _ _ => exact h.of_same ⟨rfl, rfl, rfl, rfl⟩
  | pollReturn e need _ => exact h.afterPoll need
  | execute e _ =>
    refine h.of_same ?_
    unfold Sys.runTask
    split <;> exact ⟨rfl, rfl, rfl, rfl⟩
  | release _ _ => exact h
  | flag op => exact h.applyFlag op

theorem create_vsyncTimes (now : Int) : VsyncTimes (EventQueueBase.create now) where
  period_pos := show 0 < MAX_INIT_VSYNC_PERIOD_NS by decide
  period_le := show MAX_INIT_VSYNC_PERIOD_NS ≤ 2 * MAX_CHECK_VSYNC_PERIOD_NS by decide
  check_pos := INT64_MAX_pos
  recv_nonneg := INT64_MAX_pos.le
  recv_le := le_rfl
  complete_nonneg := le_rfl
  complete_le := INT64_MAX_pos.le

theorem reachable_vsyncTimes {P : SystemParameters} {start : ClockTime} {s : Sys}
    (h : (queueSystem P start).Reachable System.always s) : VsyncTimes s.queue := by
  apply h.invariant (I := fun s => VsyncTimes s.queue)
  · exact create_vsyncTimes start.ns
  · exact fun s a t hs _ hst => vsyncTimes_step hs hst

/-! ## The hint for vsync -/

variable {P : SystemParameters} {T : PendingHigherEvent} {q : EventQueueBase}

/-- The time that `GetQueueFirstEventHandleTime` has for a pending vsync task. -/
def EventQueueBase.vsyncHintTime (P : SystemParameters) (q : EventQueueBase) : Nat :=
  max (toUInt64 (q.getVsyncTaskDelayTime P)) (toUInt64 (q.vsyncIntervalEnd P))

theorem toUInt64_le (x : Int) : toUInt64 x ≤ UINT64_MAX := by
  unfold toUInt64 UINT64_MAX
  omega

theorem vsyncHintTime_le : q.vsyncHintTime P ≤ UINT64_MAX :=
  max_le (toUInt64_le _) (toUInt64_le _)

/-- Asked for vsync only, every sub-queue but VIP is skipped. -/
theorem getQueueFirst_vsync (now : Nat) (i : Nat) (hsum : q.sumOfPendingVsync ≠ 0) :
    q.getQueueFirstEventHandleTime P now i true =
      some (if q.hintInvalid true = false ∧ i = 0 then q.vsyncHintTime P else UINT64_MAX) := by
  unfold getQueueFirstEventHandleTime
  cases hinv : q.hintInvalid true with
  | true => simp
  | false =>
    have hvip : ((i : Int) = Priority.toInt32 .VIP) ↔ i = 0 := Int.natCast_eq_zero
    have hle := @vsyncHintTime_le P q
    simp only [Bool.false_eq_true, if_false, if_true, Option.map_some, hvip, hsum, ne_eq,
      not_false_eq_true, true_and]
    split
    · have hmax : (if toUInt64 (q.getVsyncTaskDelayTime P) < toUInt64 (q.vsyncIntervalEnd P)
          then toUInt64 (q.vsyncIntervalEnd P) else toUInt64 (q.getVsyncTaskDelayTime P)) =
          q.vsyncHintTime P := (max_def_lt _ _).symm
      rw [hmax, if_neg hle.not_gt]
    · rfl

/-- So the loop comes to VIP. -/
theorem pendingHigherLoop_vsync (now : Nat) (hsum : q.sumOfPendingVsync ≠ 0) {priority : Int}
    (n : Nat) : pendingHigherLoop P T q priority true now (n + 1) =
      pendingHigherLoop P T q priority true now 1 := by
  induction n with
  | zero => rfl
  | succ n ih =>
    rw [← ih]
    conv_lhs => unfold pendingHigherLoop
    rw [getQueueFirst_vsync now (n + 1) hsum, if_neg (by simp), Option.bind_some, if_pos rfl]

/-- **The hint for vsync**: it is the sum of the later of the two times and the VIP timeout, wrapped,
    that the clock has passed. -/
theorem vsyncHint_iff {current p : Int} {now : ClockTime} (hsum : q.sumOfPendingVsync ≠ 0)
    (hp : Priority.toInt32 .IMMEDIATE ≤ p ∧ p ≤ Priority.toInt32 .LOW) :
    hasPendingHigherEvent P T current (some q) now p true = some true ↔
      q.hintInvalid true = false ∧ q.vsyncHintTime P ≠ UINT64_MAX ∧
        (q.vsyncHintTime P + toUInt64 T.vip.toInt * 1000000) % 18446744073709551616 ≤
          toUInt64 now.ns := by
  obtain ⟨hlow, hhigh⟩ := hp
  change 1 ≤ p at hlow
  change p ≤ 3 at hhigh
  obtain ⟨n, hn⟩ : ∃ n, p.toNat = n + 1 := ⟨p.toNat - 1, by omega⟩
  have hrange : ¬ (p < Priority.toInt32 .VIP ∨ p > Priority.toInt32 .IDLE) := by
    change ¬ (p < 0 ∨ p > 4)
    omega
  have hvip : ¬ p ≤ Priority.toInt32 .VIP := by
    change ¬ p ≤ 0
    omega
  have hidle : p ≠ Priority.toInt32 .IDLE := by
    change p ≠ 4
    omega
  have hcall : hasPendingHigherEvent P T current (some q) now p true =
      pendingHigherLoop P T q p true (toUInt64 now.ns) 1 := by
    unfold hasPendingHigherEvent
    simp only [if_neg hrange, if_neg hvip]
    rw [hn, pendingHigherLoop_vsync _ hsum]
  have htimeout : T.PENDING_JOB_TIMEOUT[0]? = some (toUInt64 T.vip.toInt) := rfl
  rw [hcall, pendingHigherLoop, getQueueFirst_vsync _ 0 hsum, Option.bind_some, htimeout,
    Option.bind_some, if_neg hidle, pendingHigherLoop]
  cases hinv : q.hintInvalid true with
  | true => simp
  | false =>
    simp only [true_and, if_true]
    by_cases hmax : q.vsyncHintTime P = UINT64_MAX
    · simp [hmax]
    · simp [hmax]

/-! ## The hint and the barrier mode -/

/-- Where the hint is true, a later `CheckBarrierMode` enters barrier mode. -/
def HintHonoured (P : SystemParameters) (T : PendingHigherEvent) (q : EventQueueBase) : Prop :=
  ∀ (current p : Int) (t t' enter : ClockTime),
    Priority.toInt32 .IMMEDIATE ≤ p ∧ p ≤ Priority.toInt32 .LOW → t.ns ≤ t'.ns →
      hasPendingHigherEvent P T current (some q) t p true = some true →
        (q.checkBarrierMode P t' enter).isBarrierMode = true

/-- There is no hint, or the end of the interval is not negative, or the sum that wraps to it gives no
    hint that is too early. -/
def NoEarlyHint (P : SystemParameters) (T : PendingHigherEvent) (q : EventQueueBase) : Prop :=
  let vipTimeout := T.vip.toInt * MILLISECONDS_TO_NANOSECONDS_RATIO
  q.hintInvalid true = true ∨ -1 ≤ q.vsyncIntervalEnd P ∨ q.vsyncIntervalEnd P + vipTimeout < 0 ∨
    q.getVsyncTaskDelayTime P < q.vsyncIntervalEnd P + vipTimeout

/-- The bounds of the two times, and of the timeout. -/
structure HintBounds (d i v : Int) : Prop where
  delay_nonneg : 0 ≤ d
  delay_lt : d < 9300000000000000000
  interval_gt : -3000000000000000 < i
  interval_lt : i < 9300000000000000000
  timeout_pos : 0 < v
  timeout_lt : v < 3000000000000000

theorem HintBounds.of_nonneg {d i v now : Int} (h : HintBounds d i v) (hi : 0 ≤ i) (hnow : 0 ≤ now)
    (hnow' : now < TimePoint.max) :
    (max (toUInt64 d) (toUInt64 i) ≠ UINT64_MAX ∧
      (max (toUInt64 d) (toUInt64 i) + toUInt64 v) % 18446744073709551616 ≤ toUInt64 now) ↔
      d + v ≤ now ∧ i + v ≤ now := by
  obtain ⟨h₁, h₂, h₃, h₄, h₅, h₆⟩ := h
  unfold toUInt64 UINT64_MAX
  unfold TimePoint.max INT64_MAX at hnow'
  omega

theorem HintBounds.of_neg {d i v now : Int} (h : HintBounds d i v) (hi : i < 0) (hnow : 0 ≤ now)
    (hnow' : now < TimePoint.max) :
    (max (toUInt64 d) (toUInt64 i) ≠ UINT64_MAX ∧
      (max (toUInt64 d) (toUInt64 i) + toUInt64 v) % 18446744073709551616 ≤ toUInt64 now) ↔
      i ≠ -1 ∧ 0 ≤ i + v ∧ i + v ≤ now := by
  obtain ⟨h₁, h₂, h₃, h₄, h₅, h₆⟩ := h
  unfold toUInt64 UINT64_MAX
  unfold TimePoint.max INT64_MAX at hnow'
  omega

/-- The policy is in force, a vsync task is pending, and the times have their bounds. -/
structure VsyncFirst (P : SystemParameters) (T : PendingHigherEvent) (q : EventQueueBase) : Prop where
  policy : q.vsyncPolicy = .VSYNC_FIRST_WITHOUT_DEFAULT_BARRIER
  origin : q.vsyncOriginPolicy = .VSYNC_FIRST_WITHOUT_DEFAULT_BARRIER
  pending : q.sumOfPendingVsync ≠ 0
  timeout : 1 ≤ T.vip.toInt
  bounds : HintBounds (q.getVsyncTaskDelayTime P) (q.vsyncIntervalEnd P)
    (T.vip.toInt * MILLISECONDS_TO_NANOSECONDS_RATIO)

/-- `CheckBarrierMode` enters barrier mode when both times have passed. -/
theorem VsyncFirst.enters_iff (hq : VsyncFirst P T q) {now enter : ClockTime}
    (hvalid : q.hintInvalid true = false) :
    (q.checkBarrierMode P now enter).isBarrierMode = true ↔
      q.getVsyncTaskDelayTime P < now.ns ∧ q.vsyncIntervalEnd P < now.ns := by
  obtain ⟨hpolicy, horigin, hsum, -, -⟩ := hq
  unfold hintInvalid at hvalid
  simp only [if_true, hpolicy, ne_eq, not_true_eq_false, decide_false, Bool.false_or,
    Bool.or_eq_false_iff] at hvalid
  obtain ⟨hlazy, hbarrier⟩ := hvalid
  have happly : q.applyVsyncPolicy now = q := by
    unfold applyVsyncPolicy
    split
    · rw [← hpolicy, ← hlazy]
    · exact congrArg (fun policy => { q with vsyncPolicy := policy }) (horigin.trans hpolicy.symm)
  unfold checkBarrierMode switchBarrierMode
  rw [happly, if_pos ⟨hlazy, hbarrier, hsum⟩]
  split
  · rename_i h
    exact iff_of_true rfl h
  · rename_i h
    rw [hbarrier]
    exact iff_of_false Bool.false_ne_true h

/-- The bounds hold in every run, for 32-bit parameters. -/
theorem VsyncTimes.bounds (h : VsyncTimes q)
    (hpolicy : q.vsyncPolicy = .VSYNC_FIRST_WITHOUT_DEFAULT_BARRIER)
    (hP : -2147483648 ≤ P.vsyncTaskIntervalMs ∧ P.vsyncTaskIntervalMs ≤ 2147483647)
    (hvip : 1 ≤ T.vip.toInt) :
    HintBounds (q.getVsyncTaskDelayTime P) (q.vsyncIntervalEnd P)
      (T.vip.toInt * MILLISECONDS_TO_NANOSECONDS_RATIO) := by
  obtain ⟨hpos, hle, -, hrecv, hrecv', hcomplete, hcomplete'⟩ := h
  have hlt := T.vip.toInt_lt
  unfold MAX_CHECK_VSYNC_PERIOD_NS at hle
  unfold INT64_MAX at hrecv' hcomplete'
  unfold getVsyncTaskDelayTime vsyncIntervalEnd MILLISECONDS_TO_NANOSECONDS_RATIO
  rw [if_pos hpolicy]
  constructor <;> omega

theorem vipTimeout_toUInt64 (hvip : 1 ≤ T.vip.toInt) :
    toUInt64 T.vip.toInt * 1000000 = toUInt64 (T.vip.toInt * MILLISECONDS_TO_NANOSECONDS_RATIO) := by
  have hlt := T.vip.toInt_lt
  generalize T.vip.toInt = v at *
  unfold toUInt64 MILLISECONDS_TO_NANOSECONDS_RATIO
  rw [Int.emod_eq_of_lt (by omega) (by omega), Int.emod_eq_of_lt (by omega) (by omega)]
  omega

/-- **When the hint is true**: both times and the timeout have passed, or, where the end of the
    interval is negative, the sum that wraps to it. -/
theorem VsyncFirst.hint_iff (hq : VsyncFirst P T q) {current p : Int} {t : ClockTime}
    (hp : Priority.toInt32 .IMMEDIATE ≤ p ∧ p ≤ Priority.toInt32 .LOW) :
    let vipTimeout := T.vip.toInt * MILLISECONDS_TO_NANOSECONDS_RATIO
    hasPendingHigherEvent P T current (some q) t p true = some true ↔
      q.hintInvalid true = false ∧
        if 0 ≤ q.vsyncIntervalEnd P then
          q.getVsyncTaskDelayTime P + vipTimeout ≤ t.ns ∧ q.vsyncIntervalEnd P + vipTimeout ≤ t.ns
        else
          q.vsyncIntervalEnd P ≠ -1 ∧ 0 ≤ q.vsyncIntervalEnd P + vipTimeout ∧
            q.vsyncIntervalEnd P + vipTimeout ≤ t.ns := by
  intro vipTimeout
  rw [vsyncHint_iff hq.pending hp, vipTimeout_toUInt64 hq.timeout]
  refine and_congr_right fun _ => ?_
  split
  · rename_i hi
    exact hq.bounds.of_nonneg hi t.nonneg t.lt_max
  · rename_i hi
    exact hq.bounds.of_neg (not_le.1 hi) t.nonneg t.lt_max

/-- Where the hint can be early, it is: at the wrapped sum, when the delay has not passed. -/
theorem VsyncFirst.noEarlyHint (hq : VsyncFirst P T q) (h : HintHonoured P T q) :
    NoEarlyHint P T q := by
  by_contra hearly
  simp only [NoEarlyHint, not_or, Bool.not_eq_true, not_le, not_lt] at hearly
  obtain ⟨hvalid, hneg, hwraps, hlate⟩ := hearly
  have hv := hq.bounds.timeout_lt
  have hmax : q.vsyncIntervalEnd P + T.vip.toInt * MILLISECONDS_TO_NANOSECONDS_RATIO <
      TimePoint.max := by
    unfold TimePoint.max INT64_MAX
    omega
  obtain ⟨t, ht⟩ : ∃ t : ClockTime, t.ns = q.vsyncIntervalEnd P +
      T.vip.toInt * MILLISECONDS_TO_NANOSECONDS_RATIO := ⟨⟨_, hwraps, hmax⟩, rfl⟩
  have hhint : hasPendingHigherEvent P T 0 (some q) t 1 true = some true := by
    refine (hq.hint_iff (by decide)).2 ⟨hvalid, ?_⟩
    rw [if_neg (by omega)]
    exact ⟨by omega, hwraps, ht.ge⟩
  have henters := (hq.enters_iff hvalid).1 (h 0 1 t t t (by decide) le_rfl hhint)
  omega

theorem VsyncFirst.hintHonoured (hq : VsyncFirst P T q) (h : NoEarlyHint P T q) :
    HintHonoured P T q := by
  intro current p t t' enter hp hle hhint
  obtain ⟨hvalid, hhint⟩ := (hq.hint_iff hp).1 hhint
  rw [hq.enters_iff hvalid]
  have hv := hq.bounds.timeout_pos
  split at hhint
  · omega
  · rcases h with h | h | h | h
    · rw [hvalid] at h
      cases h
    · omega
    · omega
    · omega

/-- **The hint is honoured exactly when it is never early**, in every reachable state with the policy
    in force and a vsync task pending. -/
theorem hintHonoured_iff (P : SystemParameters) (T : PendingHigherEvent) (start : ClockTime) {s : Sys}
    (hs : (queueSystem P start).Reachable System.always s)
    (hpolicy : s.queue.vsyncPolicy = .VSYNC_FIRST_WITHOUT_DEFAULT_BARRIER)
    (horigin : s.queue.vsyncOriginPolicy = .VSYNC_FIRST_WITHOUT_DEFAULT_BARRIER)
    (hsum : 0 < s.queue.sumOfPendingVsync)
    (hP : -2147483648 ≤ P.vsyncTaskIntervalMs ∧ P.vsyncTaskIntervalMs ≤ 2147483647)
    (hvip : 1 ≤ T.vip.toInt) :
    HintHonoured P T s.queue ↔ NoEarlyHint P T s.queue := by
  have hq : VsyncFirst P T s.queue :=
    ⟨hpolicy, horigin, hsum.ne', hvip, (reachable_vsyncTimes hs).bounds hpolicy hP hvip⟩
  exact ⟨hq.noEarlyHint, hq.hintHonoured⟩

/-! ## Runs -/

/-- A queue with the policy in force and a vsync task sent at 1 ms. -/
def oneVsync : List Op :=
  [.flag (.setVsyncPolicy .VSYNC_FIRST_WITHOUT_DEFAULT_BARRIER), .flag (.setVsyncLazyMode false),
    insertAt (atMs 1) (vsyncEvent (atMs 1)) .VIP]

/-- With the default parameters the hint comes at 39 ms, and so does barrier mode. -/
theorem hintHonoured_iff_default : ∃ s : Sys,
    hasPendingHigherEvent {} {} 0 (some s.queue) (atMs 39) 2 true = some true ∧
      (s.queue.checkBarrierMode {} (atMs 39) (atMs 39)).isBarrierMode = true := by
  obtain ⟨s, hs, hpolicy, horigin, hsum, hend, hhint⟩ := System.run_of_exec (queueSystem {} (atMs 0))
    System.always
    (fun s => s.queue.vsyncPolicy = .VSYNC_FIRST_WITHOUT_DEFAULT_BARRIER ∧
      s.queue.vsyncOriginPolicy = .VSYNC_FIRST_WITHOUT_DEFAULT_BARRIER ∧
      0 < s.queue.sumOfPendingVsync ∧ -1 ≤ s.queue.vsyncIntervalEnd {} ∧
      hasPendingHigherEvent {} {} 0 (some s.queue) (atMs 39) 2 true = some true)
    oneVsync (by decide)
  have hhonoured := (hintHonoured_iff {} {} (atMs 0) ⟨_, hs⟩ hpolicy horigin hsum (by decide)
    (by decide)).2 (Or.inr (Or.inl hend))
  exact ⟨s, hhint, hhonoured 0 2 (atMs 39) (atMs 39) (atMs 39) (by decide) le_rfl hhint⟩

/-- With a vsync interval of -5 ms and a VIP timeout of 10 ms the hint comes at 5 ms, when the vsync
    task is not overdue. -/
theorem hint_early : ¬ ∀ (P : SystemParameters) (T : PendingHigherEvent) (s : Sys),
    (queueSystem P (atMs 0)).Reachable System.always s →
    s.queue.vsyncPolicy = .VSYNC_FIRST_WITHOUT_DEFAULT_BARRIER →
    s.queue.vsyncOriginPolicy = .VSYNC_FIRST_WITHOUT_DEFAULT_BARRIER →
    0 < s.queue.sumOfPendingVsync →
    -2147483648 ≤ P.vsyncTaskIntervalMs ∧ P.vsyncTaskIntervalMs ≤ 2147483647 →
    1 ≤ T.vip.toInt → HintHonoured P T s.queue := by
  intro h
  obtain ⟨s, hs, hpolicy, horigin, hsum, hhint, hbarrier⟩ := System.run_of_exec
    (queueSystem { vsyncTaskIntervalMs := -5 } (atMs 0)) System.always
    (fun s => s.queue.vsyncPolicy = .VSYNC_FIRST_WITHOUT_DEFAULT_BARRIER ∧
      s.queue.vsyncOriginPolicy = .VSYNC_FIRST_WITHOUT_DEFAULT_BARRIER ∧
      0 < s.queue.sumOfPendingVsync ∧
      hasPendingHigherEvent { vsyncTaskIntervalMs := -5 } { vip := 10 } 0 (some s.queue) (atMs 5) 2
        true = some true ∧
      (s.queue.checkBarrierMode { vsyncTaskIntervalMs := -5 } (atMs 5) (atMs 5)).isBarrierMode =
        false)
    oneVsync (by decide)
  have henters := h _ { vip := 10 } s ⟨_, hs⟩ hpolicy horigin hsum (by decide) (by decide) 0 2
    (atMs 5) (atMs 5) (atMs 5) (by decide) le_rfl hhint
  rw [hbarrier] at henters
  cases henters

end AppExecFwk
