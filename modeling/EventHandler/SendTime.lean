import EventHandler.Lib.Checked
import EventHandler.Insert

/-!
# The times a handler sends with

Model of `EventHandler::SendEvent` and `SendTimingEvent`, up to the call of `Insert`.  All sums are
`int64_t` sums, of nanoseconds or of milliseconds; the model has no result where one overflows.

* `SendOutcome` — the event is refused, or handed to the queue; `DelayedEvent` is the event with the
  field that only `EventQueueFFRT` reads.
* `SendsAfter` — the handle time is the clock plus the delay, not earlier than the clock.
* `SendsAtTaskTime` — a task time in the past means now; any other is met within a millisecond and
  the advance of the clock.
* `sendTimes_iff` — the handle times are these exactly when the times are held in 64 bits.
* `sendEvent_stored` — the queue stores the event with its handle time.
-/

set_option autoImplicit false

namespace AppExecFwk

open Checked

/-- `int64_t`. -/
def INT64 : IntRange where
  lo := -INT64_MAX - 1
  hi := INT64_MAX
  lo_nonpos := by decide
  hi_nonneg := by decide

theorem INT64_holds {x : Int} : INT64.Holds x ↔ -INT64_MAX - 1 ≤ x ∧ x ≤ INT64_MAX := Iff.rfl

theorem INT64_toInt (x : Int64) : INT64.Holds x.toInt := by
  have hlo := x.le_toInt
  have hhi := x.toInt_lt
  rw [INT64_holds, INT64_MAX]
  omega

/-! ## The functions -/

/-- `t + std::chrono::milliseconds(ms)`: the milliseconds are converted to nanoseconds and added. -/
def plusMilliseconds (t ms : Int) : Option Int :=
  (INT64.mul ms MILLISECONDS_TO_NANOSECONDS_RATIO).bind fun ns => INT64.add t ns

/-- An event with its `delayTime_`. -/
structure DelayedEvent where
  event : InnerEvent
  delayTime : Int
  deriving DecidableEq, Repr

inductive SendOutcome where
  | refused
  | inserted (event : DelayedEvent) (priority : Priority)
  deriving DecidableEq, Repr

namespace EventHandler

/-- The handle time that `SendEvent` sets. -/
def handleTimeAfter (now : ClockTime) (delayTime : Int) : Option Int :=
  if delayTime > 0 then plusMilliseconds now.ns delayTime else some now.ns

/-- The event after the setters of `SendEvent`. -/
def sentEvent (h : EventHandler) (kernelThreadId : Nat) (now : ClockTime)
    (handleTime delayTime : Int) (event : InnerEvent) : DelayedEvent where
  event :=
    { event with
      sendTime := now.ns
      senderKernelThreadId := kernelThreadId
      handleTime := handleTime
      ownerId := h.handlerId
      owner := some h.object }
  delayTime := delayTime

/-- `SendEvent`, up to the call of `Insert`. -/
def sendEvent (h : EventHandler) (eventRunner : Bool) (kernelThreadId : Nat) (now : ClockTime)
    (event : Option InnerEvent) (delayTime : Int) (priority : Priority) : Option SendOutcome :=
  match event with
  | none => some .refused
  | some event =>
    if eventRunner = false then some .refused
    else (handleTimeAfter now delayTime).map fun handleTime =>
      .inserted (h.sentEvent kernelThreadId now handleTime delayTime event) priority

/-- `SendTimingEvent`: `nowSys` is its own reading of the clock, `now` the one in `SendEvent`; `long`
    has 64 bits. -/
def sendTimingEvent (h : EventHandler) (eventRunner : Bool) (kernelThreadId : Nat)
    (nowSys now : ClockTime) (event : Option InnerEvent) (taskTime : Int) (priority : Priority) :
    Option SendOutcome :=
  let nowSysTime := nowSys.ns.tdiv MILLISECONDS_TO_NANOSECONDS_RATIO
  (INT64.sub taskTime nowSysTime).bind fun delayTime =>
    if delayTime < 0 then h.sendEvent eventRunner kernelThreadId now event 0 priority
    else h.sendEvent eventRunner kernelThreadId now event delayTime priority

end EventHandler

/-! ## What the times should be -/

/-- The two readings of one call. -/
structure TwoReadings where
  nowSys : ClockTime
  now : ClockTime
  steady : nowSys.ns ≤ now.ns

/-- The event is handed to the queue with a handle time of which `p` holds. -/
def HandedWith (r : Option SendOutcome) (p : Int → Prop) : Prop :=
  ∃ e priority, r = some (.inserted e priority) ∧ p e.event.handleTime

/-- The clock plus the delay, if it is positive. -/
def SendsAfter (now : ClockTime) (delayTime : Int) (r : Option SendOutcome) : Prop :=
  HandedWith r fun handleTime =>
    handleTime = now.ns + max delayTime 0 * MILLISECONDS_TO_NANOSECONDS_RATIO ∧ now.ns ≤ handleTime

/-- Now, when the task time is in the past; else from the task time on, less than a millisecond and
    the advance of the clock later. -/
def SendsAtTaskTime (t : TwoReadings) (taskTime : Int) (r : Option SendOutcome) : Prop :=
  HandedWith r fun handleTime =>
    if taskTime * MILLISECONDS_TO_NANOSECONDS_RATIO < t.nowSys.ns then handleTime = t.now.ns
    else taskTime * MILLISECONDS_TO_NANOSECONDS_RATIO ≤ handleTime ∧
      handleTime < (taskTime + 1) * MILLISECONDS_TO_NANOSECONDS_RATIO + (t.now.ns - t.nowSys.ns)

/-- The clock plus the delay is a time of 64 bits. -/
def DelayHeld (now : ClockTime) (delayTime : Int) : Prop :=
  delayTime ≤ 0 ∨ now.ns + delayTime * MILLISECONDS_TO_NANOSECONDS_RATIO ≤ INT64_MAX

/-- So are the difference between the task time and the clock, and the clock plus it. -/
def TaskTimeHeld (t : TwoReadings) (taskTime : Int) : Prop :=
  let delayTime := taskTime - t.nowSys.ns / MILLISECONDS_TO_NANOSECONDS_RATIO
  INT64.Holds delayTime ∧ DelayHeld t.now delayTime

/-! ## The sums -/

theorem plusMilliseconds_eq_some {t ms z : Int} (ht : 0 ≤ t) (hms : 0 < ms) :
    plusMilliseconds t ms = some z ↔
      t + ms * MILLISECONDS_TO_NANOSECONDS_RATIO ≤ INT64_MAX ∧
        z = t + ms * MILLISECONDS_TO_NANOSECONDS_RATIO := by
  unfold plusMilliseconds
  rw [IntRange.mul_bind, IntRange.add_eq_some, INT64_holds, INT64_holds]
  unfold MILLISECONDS_TO_NANOSECONDS_RATIO INT64_MAX
  omega

theorem handleTimeAfter_eq_some {now : ClockTime} {delayTime z : Int} :
    EventHandler.handleTimeAfter now delayTime = some z ↔
      DelayHeld now delayTime ∧
        z = now.ns + max delayTime 0 * MILLISECONDS_TO_NANOSECONDS_RATIO := by
  unfold EventHandler.handleTimeAfter DelayHeld
  by_cases hd : delayTime > 0
  · rw [if_pos hd, plusMilliseconds_eq_some now.nonneg hd, max_eq_left hd.le, or_iff_right hd.not_ge]
  · rw [if_neg hd, max_eq_right (not_lt.1 hd), zero_mul, add_zero, Option.some.injEq, eq_comm]
    exact (and_iff_right (Or.inl (not_lt.1 hd))).symm

variable {h : EventHandler} {kernelThreadId : Nat} {event : InnerEvent} {priority : Priority}
  {now : ClockTime} {delayTime taskTime : Int}

/-- **`SendEvent` hands over the clock plus the delay, when that is a time of 64 bits.** -/
theorem sendEvent_handedWith {p : Int → Prop} :
    HandedWith (h.sendEvent true kernelThreadId now (some event) delayTime priority) p ↔
      DelayHeld now delayTime ∧
        p (now.ns + max delayTime 0 * MILLISECONDS_TO_NANOSECONDS_RATIO) := by
  unfold HandedWith EventHandler.sendEvent
  simp only [Bool.true_eq_false, if_false, Option.map_eq_some_iff, handleTimeAfter_eq_some]
  constructor
  · rintro ⟨e, prio, ⟨z, ⟨hheld, rfl⟩, he⟩, hp⟩
    cases he
    exact ⟨hheld, hp⟩
  · rintro ⟨hheld, hp⟩
    exact ⟨_, _, ⟨_, ⟨hheld, rfl⟩, rfl⟩, hp⟩

theorem sendsAfter_iff :
    SendsAfter now delayTime (h.sendEvent true kernelThreadId now (some event) delayTime priority) ↔
      DelayHeld now delayTime := by
  unfold SendsAfter
  rw [sendEvent_handedWith]
  refine and_iff_left ⟨rfl, ?_⟩
  have hmax : 0 ≤ max delayTime 0 := le_max_right delayTime 0
  unfold MILLISECONDS_TO_NANOSECONDS_RATIO
  omega

theorem handedWith_sub_bind {x y : Int} {f : Int → Option SendOutcome} {p : Int → Prop} :
    HandedWith ((INT64.sub x y).bind f) p ↔ INT64.Holds (x - y) ∧ HandedWith (f (x - y)) p := by
  unfold HandedWith
  simp only [IntRange.sub_bind, and_assoc, exists_and_left]

/-- A task time with a negative difference is in the past, and one in the past has no positive
    difference. -/
theorem taskTime_past {t : TwoReadings} {taskTime : Int} :
    let delayTime := taskTime - t.nowSys.ns / MILLISECONDS_TO_NANOSECONDS_RATIO
    (delayTime < 0 → taskTime * MILLISECONDS_TO_NANOSECONDS_RATIO < t.nowSys.ns) ∧
      (taskTime * MILLISECONDS_TO_NANOSECONDS_RATIO < t.nowSys.ns → delayTime ≤ 0) := by
  intro delayTime
  unfold delayTime MILLISECONDS_TO_NANOSECONDS_RATIO
  constructor <;> intro hlt <;> omega

/-- The handle time of a task time that is held is the right one. -/
theorem taskTime_handleTime {t : TwoReadings} {taskTime : Int} :
    let handleTime := t.now.ns + max (taskTime - t.nowSys.ns / MILLISECONDS_TO_NANOSECONDS_RATIO) 0 *
      MILLISECONDS_TO_NANOSECONDS_RATIO
    if taskTime * MILLISECONDS_TO_NANOSECONDS_RATIO < t.nowSys.ns then handleTime = t.now.ns
    else taskTime * MILLISECONDS_TO_NANOSECONDS_RATIO ≤ handleTime ∧
      handleTime < (taskTime + 1) * MILLISECONDS_TO_NANOSECONDS_RATIO +
        (t.now.ns - t.nowSys.ns) := by
  intro handleTime
  obtain ⟨hneg, hpast⟩ := @taskTime_past t taskTime
  have hsteady := t.steady
  split
  · rename_i hlt
    unfold handleTime
    rw [max_eq_right (hpast hlt), zero_mul, add_zero]
  · rename_i hlt
    have hpos := not_lt.1 (mt hneg hlt)
    unfold handleTime
    rw [max_eq_left hpos]
    unfold MILLISECONDS_TO_NANOSECONDS_RATIO
    omega

/-- A negative delay and no delay are the same. -/
theorem sendEvent_clamped {p : Int → Prop} :
    HandedWith (if delayTime < 0
      then h.sendEvent true kernelThreadId now (some event) 0 priority
      else h.sendEvent true kernelThreadId now (some event) delayTime priority) p ↔
      DelayHeld now delayTime ∧
        p (now.ns + max delayTime 0 * MILLISECONDS_TO_NANOSECONDS_RATIO) := by
  split
  · rename_i hneg
    rw [sendEvent_handedWith, max_self, max_eq_right hneg.le]
    exact and_congr_left fun _ => iff_of_true (Or.inl le_rfl) (Or.inl hneg.le)
  · exact sendEvent_handedWith

theorem sendsAtTaskTime_iff {t : TwoReadings} :
    SendsAtTaskTime t taskTime
        (h.sendTimingEvent true kernelThreadId t.nowSys t.now (some event) taskTime priority) ↔
      TaskTimeHeld t taskTime := by
  unfold SendsAtTaskTime EventHandler.sendTimingEvent
  rw [handedWith_sub_bind, sendEvent_clamped, Int.tdiv_eq_ediv_of_nonneg t.nowSys.nonneg]
  exact and_congr_right fun _ => and_iff_left taskTime_handleTime

/-! ## The send times -/

/-- **`SendEvent` and `SendTimingEvent` hand over the right handle time exactly when the times are
    held in 64 bits**: for `SendEvent` the clock plus a positive delay, for `SendTimingEvent` the
    difference between the task time and the clock in milliseconds, and the clock plus it. -/
theorem sendTimes_iff (h : EventHandler) (kernelThreadId : Nat) (event : InnerEvent)
    (priority : Priority) (t : TwoReadings) (delayTime taskTime : Int64) :
    (SendsAfter t.now delayTime.toInt
        (h.sendEvent true kernelThreadId t.now (some event) delayTime.toInt priority) ↔
      DelayHeld t.now delayTime.toInt) ∧
    (SendsAtTaskTime t taskTime.toInt
        (h.sendTimingEvent true kernelThreadId t.nowSys t.now (some event) taskTime.toInt priority) ↔
      TaskTimeHeld t taskTime.toInt) :=
  ⟨sendsAfter_iff, sendsAtTaskTime_iff⟩

/-- The clock plus the largest delay is no time of 64 bits. -/
theorem sendTimes_overflow : ¬ ∀ (h : EventHandler) (kernelThreadId : Nat) (event : InnerEvent)
    (priority : Priority) (t : TwoReadings) (delayTime taskTime : Int64),
    SendsAfter t.now delayTime.toInt
        (h.sendEvent true kernelThreadId t.now (some event) delayTime.toInt priority) ∧
      SendsAtTaskTime t taskTime.toInt
        (h.sendTimingEvent true kernelThreadId t.nowSys t.now (some event) taskTime.toInt
          priority) := by
  intro hall
  obtain ⟨⟨e, priority, he, -⟩, -⟩ := hall ⟨1, "1"⟩ 0 { handleTime := 0, sendTime := 0 } .LOW
    ⟨⟨1000000, by decide, by decide⟩, ⟨1000000, by decide, by decide⟩, le_rfl⟩ Int64.maxValue 0
  have hnone : EventHandler.handleTimeAfter ⟨1000000, by decide, by decide⟩ Int64.maxValue.toInt =
      none := by decide
  simp only [EventHandler.sendEvent, Bool.true_eq_false, if_false, hnone, Option.map_none] at he
  cases he

/-- The queue stores what it is handed with its handle time, in the list of the priority. -/
theorem sendEvent_stored {p : Process} {recv : ClockTime} {q : EventQueueBase} {e : DelayedEvent}
    {priority : Priority} {option : VsyncBarrierOption} {k : Option SubIndex}
    (hu : q.usable = true) (hk : priority.slot = some k) :
    ∃ x ∈ (q.insert p now recv (some e.event) priority .AT_END option).queue.events k,
      x.handleTime = e.event.handleTime ∧ x.ticket = e.event.ticket := by
  obtain ⟨-, hstored, -⟩ := @insert_slot p now recv q e.event priority .AT_END option k hu hk
  rw [hstored]
  refine ⟨preparedEvent p q e.event priority option, ?_, ?_, preparedEvent_ticket _ _ _ _ _⟩
  · exact (insertEventsLocked_perm _ _ .AT_END).mem_iff.2 List.mem_cons_self
  · unfold preparedEvent
    rw [markBarrierTaskIfNeed_eq]

end AppExecFwk
