import EventHandler.SendTime
import EventHandler.FfrtQueue

/-!
# The delay given to FFRT

Model of `EventQueueFFRT::InsertEvent` with its two submit functions, up to the call of FFRT.  The
delay is `delayTime_`, which `SendEvent` sets as it was given; it is read as a `uint64_t` of
milliseconds and scaled to microseconds in `uint64_t`.

* `FfrtSubmission` — what FFRT is given.
* `SubmittedAfter` — the delay is the given one in microseconds, or zero when that is not positive.
* `scaled_toNat_iff` — the scaled value is right exactly when it does not wrap; a negative delay
  wraps to zero when it is a multiple of 2 to the 61.
* `ffrtDelay_iff` — both insert types give the right delay exactly for such delays.
* `submitted_like_stored` — such a delay is the one that the plain queue puts into the handle time.
-/

set_option autoImplicit false

namespace AppExecFwk

def MILLI_TO_MICRO : UInt32 := 1000

/-- `ffrt_inner_queue_priority_t`. -/
inductive FfrtInnerPriority where
  | vip
  | immediate
  | high
  | low
  | idle
  deriving DecidableEq, Repr

/-- `TransferInnerPriority`. -/
def transferInnerPriority : Priority → FfrtInnerPriority
  | .VIP => .vip
  | .IMMEDIATE => .immediate
  | .HIGH => .high
  | .LOW => .low
  | .IDLE => .idle
  | .unnamed _ _ => .low

/-- A task as FFRT is given it: its attributes, whether it goes to the head of its queue, and whether
    the caller waits for it. -/
structure FfrtSubmission where
  name : List UInt8
  delay : UInt64
  queuePriority : FfrtInnerPriority
  atHead : Bool
  wait : Bool
  deriving DecidableEq, Repr

/-- `uint64_t time = event->GetDelayTime()`. -/
def DelayedEvent.time (event : DelayedEvent) : UInt64 := UInt64.ofNat (toUInt64 event.delayTime)

/-- `SubmitEventAtEnd`. -/
def submitEventAtEnd (event : DelayedEvent) (priority : Priority) (syncWait : Bool)
    (taskName : String) : Option FfrtSubmission :=
  some
    { name := cStr taskName
      delay := event.time * MILLI_TO_MICRO.toUInt64
      queuePriority := transferInnerPriority priority
      atHead := false
      wait := syncWait }

/-- `SubmitEventAtFront`; only this one looks whether there is a queue. -/
def submitEventAtFront (ffrtQueue : Bool) (event : DelayedEvent) (priority : Priority)
    (syncWait : Bool) (taskName : String) : Option FfrtSubmission :=
  if ffrtQueue = false then none
  else some
    { name := cStr taskName
      delay := event.time * MILLI_TO_MICRO.toUInt64
      queuePriority := transferInnerPriority priority
      atHead := true
      wait := syncWait }

/-- `InsertEvent`; `none` when it returns false. -/
def ffrtInsertEvent (usable ffrtQueue : Bool) (event : Option DelayedEvent) (priority : Priority)
    (syncWait : Bool) (insertType : EventInsertType) : Option FfrtSubmission :=
  match event with
  | none => none
  | some event =>
    if usable = false then none
    else
      match insertType with
      | .AT_FRONT => submitEventAtFront ffrtQueue event priority syncWait (submittedName event.event)
      | .AT_END => submitEventAtEnd event priority syncWait (submittedName event.event)

/-! ## What the delay should be -/

/-- FFRT is given the task with the delay in microseconds; a delay that is not positive is none. -/
def SubmittedAfter (delayTime : Int) (r : Option FfrtSubmission) : Prop :=
  ∃ s, r = some s ∧ (s.delay.toNat : Int) = 1000 * max delayTime 0

/-- The delay survives the conversion and the scaling. -/
def DelayScales (delayTime : Int) : Prop :=
  (0 ≤ delayTime ∧ 1000 * delayTime < 2 ^ 64) ∨ (delayTime < 0 ∧ (2 ^ 61 : Int) ∣ delayTime)

/-! ## The scaling -/

theorem scaled_toNat (event : DelayedEvent) :
    ((event.time * MILLI_TO_MICRO.toUInt64).toNat : Int) = (1000 * event.delayTime) % 2 ^ 64 := by
  have hpos : 0 ≤ event.delayTime % 18446744073709551616 := Int.emod_nonneg _ (by decide)
  have htime : event.time.toNat = (event.delayTime % 18446744073709551616).toNat := by
    unfold DelayedEvent.time toUInt64
    rw [UInt64.toNat_ofNat']
    omega
  have hscale : MILLI_TO_MICRO.toUInt64.toNat = 1000 := by decide
  rw [UInt64.toNat_mul, htime, hscale]
  omega

/-- 1000 is 8 times an odd number, so only the multiples of 2 to the 61 are scaled to zero. -/
theorem scales_to_zero {d : Int} : (1000 * d) % 2 ^ 64 = 0 ↔ (2 ^ 61 : Int) ∣ d := by
  have hsplit : (2 ^ 64 : Int) = 8 * 2 ^ 61 := by norm_num
  have hmul : 1000 * d = 8 * (125 * d) := by ring
  have hcop : IsCoprime (2 ^ 61 : Int) 125 := by
    rw [Int.isCoprime_iff_gcd_eq_one]
    decide
  rw [← Int.dvd_iff_emod_eq_zero, hsplit, hmul, mul_dvd_mul_iff_left (by norm_num)]
  exact ⟨hcop.dvd_of_dvd_mul_left, fun h => h.mul_left 125⟩

/-- **The scaled delay is right exactly when the delay scales.** -/
theorem scaled_toNat_iff {event : DelayedEvent} :
    ((event.time * MILLI_TO_MICRO.toUInt64).toNat : Int) = 1000 * max event.delayTime 0 ↔
      DelayScales event.delayTime := by
  rw [scaled_toNat]
  unfold DelayScales
  by_cases hneg : event.delayTime < 0
  · rw [max_eq_right hneg.le, mul_zero, scales_to_zero, or_iff_right fun h => h.1.not_gt hneg,
      and_iff_right hneg]
  · have hpos := not_lt.1 hneg
    rw [max_eq_left hpos, or_iff_left fun h => hneg h.1, and_iff_right hpos,
      Int.emod_eq_iff (by norm_num)]
    omega

/-- An event that is submitted is submitted with the scaled delay, whatever the insert type. -/
theorem ffrtInsertEvent_delay {event : DelayedEvent} {priority : Priority} {syncWait : Bool}
    {insertType : EventInsertType} :
    ∃ s, ffrtInsertEvent true true (some event) priority syncWait insertType = some s ∧
      s.delay = event.time * MILLI_TO_MICRO.toUInt64 := by
  cases insertType with
  | AT_FRONT => exact ⟨_, rfl, rfl⟩
  | AT_END => exact ⟨_, rfl, rfl⟩

/-- **For both insert types FFRT is given the delay that `SendEvent` was given, in microseconds and
    not below zero, exactly when that delay scales**; the handle time plays no part. -/
theorem ffrtDelay_iff (h : EventHandler) (kernelThreadId : Nat) (now : ClockTime) (handleTime : Int)
    (event : InnerEvent) (delayTime : Int64) (priority : Priority) (syncWait : Bool)
    (insertType : EventInsertType) :
    SubmittedAfter delayTime.toInt (ffrtInsertEvent true true
        (some (h.sentEvent kernelThreadId now handleTime delayTime.toInt event)) priority syncWait
        insertType) ↔
      DelayScales delayTime.toInt := by
  obtain ⟨s, hs, hdelay⟩ := @ffrtInsertEvent_delay
    (h.sentEvent kernelThreadId now handleTime delayTime.toInt event) priority syncWait insertType
  have hscaled := @scaled_toNat_iff (h.sentEvent kernelThreadId now handleTime delayTime.toInt event)
  unfold SubmittedAfter
  rw [hs]
  simp only [Option.some.injEq, exists_eq_left']
  rw [hdelay]
  exact hscaled

/-- A delay of -1 millisecond is given as 18446744073709550616 microseconds. -/
theorem ffrtDelay_wraps : ¬ ∀ (h : EventHandler) (kernelThreadId : Nat) (now : ClockTime)
    (handleTime : Int) (event : InnerEvent) (delayTime : Int64) (priority : Priority)
    (syncWait : Bool) (insertType : EventInsertType),
    SubmittedAfter delayTime.toInt (ffrtInsertEvent true true
      (some (h.sentEvent kernelThreadId now handleTime delayTime.toInt event)) priority syncWait
      insertType) := by
  intro hall
  obtain ⟨s, hs, hdelay⟩ := hall ⟨1, "1"⟩ 0 ⟨1000000, by decide, by decide⟩ 1000000
    { handleTime := 0, sendTime := 0 } (-1) .LOW false .AT_END
  obtain rfl := Option.some.inj hs
  exact absurd hdelay (by decide)

/-- What FFRT is given for a delay that scales is the delay that `SendEvent` puts into the handle
    time for the plain queue. -/
theorem submitted_like_stored {h : EventHandler} {kernelThreadId : Nat} {now : ClockTime}
    {event : InnerEvent} {delayTime : Int} {priority priority' : Priority} {e : DelayedEvent}
    {r : Option FfrtSubmission}
    (hs : h.sendEvent true kernelThreadId now (some event) delayTime priority =
      some (.inserted e priority')) (hr : SubmittedAfter delayTime r) :
    ∃ s, r = some s ∧ e.event.handleTime = now.ns + 1000 * s.delay.toNat := by
  obtain ⟨s, hs', hdelay⟩ := hr
  have hheld : HandedWith (h.sendEvent true kernelThreadId now (some event) delayTime priority)
      (· = e.event.handleTime) := ⟨e, priority', hs, rfl⟩
  refine ⟨s, hs', ?_⟩
  rw [← (sendEvent_handedWith.1 hheld).2, hdelay]
  unfold MILLISECONDS_TO_NANOSECONDS_RATIO
  omega

end AppExecFwk
