import EventHandler.SendTime
import EventHandler.EventQueue

/-!
# The vsync check time

`UpdateVsyncCheckTime` computes when the queue polls for the next vsync: a millisecond behind the
next frame boundary.  `RequestVsyncNotification` passes the frame time and the period unchecked.

* `nextVsyncCheckTime`, `updateVsyncCheckTimeChecked` — the function with its `int64_t` sums; there
  is no result where one overflows, and otherwise it is that of `updateVsyncCheckTime`.
* `future_eq_toIcoMod`, `past_eq_toIocMod` — the sums of the two branches are the frame boundary from
  the clock on, and the one behind the clock.
* `PollsAtFrame` — the poll is at a boundary, within a period of the clock.
* `vsyncCheckTime_iff` — it is exactly when the sums are held in 64 bits.
-/

set_option autoImplicit false

namespace AppExecFwk

open Checked

/-! ## The function -/

/-- The expression for `vsyncCheckTime_`. -/
def nextVsyncCheckTime (now : ClockTime) (lastFrameTime period : Int) : Option Int :=
  if lastFrameTime > now.ns then
    (INT64.add now.ns CHECK_VSYNC_DELAY_NS).bind fun delayed =>
      (INT64.sub lastFrameTime now.ns).bind fun ahead =>
        (INT64.mod ahead period).bind fun rest => INT64.add delayed rest
  else
    (INT64.add now.ns period).bind fun next =>
      (INT64.add next CHECK_VSYNC_DELAY_NS).bind fun delayed =>
        (INT64.sub now.ns lastFrameTime).bind fun behind =>
          (INT64.mod behind period).bind fun rest => INT64.sub delayed rest

/-- `UpdateVsyncCheckTime`, checked. -/
def EventQueueBase.updateVsyncCheckTimeChecked (now : ClockTime) (lastFrameTime period : Int)
    (q : EventQueueBase) : Option EventQueueBase :=
  if period > 0 then
    (nextVsyncCheckTime now lastFrameTime period).map fun vsyncCheckTime =>
      { q with
        vsyncPeriod := if period > MAX_INIT_VSYNC_PERIOD_NS then MAX_INIT_VSYNC_PERIOD_NS else period
        vsyncCheckTime := vsyncCheckTime }
  else some q

/-! ## What it should compute -/

/-- The poll is `CHECK_VSYNC_DELAY_NS` behind a frame boundary that the clock reaches within a period,
    and the period is kept up to its maximum. -/
def PollsAtFrame (now : ClockTime) (lastFrameTime period : Int) (r : Option EventQueueBase) : Prop :=
  ∃ v, r = some v ∧ v.vsyncPeriod = min period MAX_INIT_VSYNC_PERIOD_NS ∧
    ∃ t, v.vsyncCheckTime = t + CHECK_VSYNC_DELAY_NS ∧ now.ns ≤ t ∧ t ≤ now.ns + period ∧
      t ≡ lastFrameTime [ZMOD period]

/-- The sums are numbers of 64 bits. -/
def FrameSumsHeld (now : ClockTime) (lastFrameTime period : Int) : Prop :=
  if lastFrameTime > now.ns then
    now.ns + CHECK_VSYNC_DELAY_NS + (lastFrameTime - now.ns) % period ≤ INT64_MAX
  else now.ns + period + CHECK_VSYNC_DELAY_NS ≤ INT64_MAX ∧ now.ns - lastFrameTime ≤ INT64_MAX

/-! ## Frame boundaries -/

/-- The first branch: the boundary from the clock on. -/
theorem future_eq_toIcoMod {period : Int} (hp : 0 < period) (now lastFrameTime : Int) :
    now + (lastFrameTime - now) % period = toIcoMod hp now lastFrameTime := by
  have hlow := Int.emod_nonneg (lastFrameTime - now) hp.ne'
  have hhigh := Int.emod_lt_of_pos (lastFrameTime - now) hp
  have hrest := Int.emod_add_mul_ediv (lastFrameTime - now) period
  refine ((toIcoMod_eq_iff hp).2 ⟨⟨by omega, by omega⟩, (lastFrameTime - now) / period, ?_⟩).symm
  rw [smul_eq_mul, mul_comm]
  omega

/-- The second branch: the boundary behind the clock. -/
theorem past_eq_toIocMod {period : Int} (hp : 0 < period) (now lastFrameTime : Int) :
    now + period - (now - lastFrameTime) % period = toIocMod hp now lastFrameTime := by
  have hlow := Int.emod_nonneg (now - lastFrameTime) hp.ne'
  have hhigh := Int.emod_lt_of_pos (now - lastFrameTime) hp
  have hrest := Int.emod_add_mul_ediv (now - lastFrameTime) period
  refine ((toIocMod_eq_iff hp).2
    ⟨⟨by omega, by omega⟩, -((now - lastFrameTime) / period) - 1, ?_⟩).symm
  rw [smul_eq_mul, sub_mul, neg_mul, mul_comm, one_mul]
  omega

theorem toIcoMod_modEq {period : Int} (hp : 0 < period) (now lastFrameTime : Int) :
    toIcoMod hp now lastFrameTime ≡ lastFrameTime [ZMOD period] := by
  rw [Int.modEq_iff_dvd, self_sub_toIcoMod, smul_eq_mul]
  exact dvd_mul_left _ _

theorem toIocMod_modEq {period : Int} (hp : 0 < period) (now lastFrameTime : Int) :
    toIocMod hp now lastFrameTime ≡ lastFrameTime [ZMOD period] := by
  rw [Int.modEq_iff_dvd, self_sub_toIocMod, smul_eq_mul]
  exact dvd_mul_left _ _

/-! ## The sums -/

variable {now : ClockTime} {lastFrameTime period z : Int}

/-- **The checked expression is the unchecked one, when its sums are held.** -/
theorem nextVsyncCheckTime_eq_some (hlast : INT64.Holds lastFrameTime) (hperiod : INT64.Holds period)
    (hp : 0 < period) :
    nextVsyncCheckTime now lastFrameTime period = some z ↔
      FrameSumsHeld now lastFrameTime period ∧
        z = if lastFrameTime > now.ns then
            now.ns + CHECK_VSYNC_DELAY_NS + (lastFrameTime - now.ns) % period
          else now.ns + period + CHECK_VSYNC_DELAY_NS - (now.ns - lastFrameTime) % period := by
  have hnow := now.nonneg
  have hmax := now.lt_max
  rw [TimePoint.max, INT64_MAX] at hmax
  rw [INT64_holds, INT64_MAX] at hlast hperiod
  unfold nextVsyncCheckTime FrameSumsHeld CHECK_VSYNC_DELAY_NS
  by_cases hfuture : lastFrameTime > now.ns
  · have hahead : INT64.Holds (lastFrameTime - now.ns) := by
      rw [INT64_holds, INT64_MAX]
      omega
    have hrest := Int.emod_nonneg (lastFrameTime - now.ns) hp.ne'
    have hmod := IntRange.mod_of_nonneg hahead (by omega) hp
    simp only [if_pos hfuture, IntRange.add_bind, IntRange.sub_bind, hmod, Option.bind_some,
      IntRange.add_eq_some, INT64_holds, INT64_MAX]
    omega
  · simp only [if_neg hfuture, IntRange.add_bind, IntRange.sub_bind]
    by_cases hheld : now.ns - lastFrameTime ≤ INT64_MAX
    · have hbehind : INT64.Holds (now.ns - lastFrameTime) := by
        rw [INT64_holds]
        unfold INT64_MAX at *
        omega
      have hrest := Int.emod_nonneg (now.ns - lastFrameTime) hp.ne'
      have hrest' := Int.emod_lt_of_pos (now.ns - lastFrameTime) hp
      have hmod := IntRange.mod_of_nonneg hbehind (by omega) hp
      simp only [hmod, Option.bind_some, IntRange.sub_eq_some, INT64_holds, INT64_MAX]
      unfold INT64_MAX at hheld
      omega
    · exact iff_of_false (fun h => hheld h.2.2.1.2) (fun h => hheld h.1.2)

/-- The unchecked expression is a millisecond behind a frame boundary. -/
theorem checkTime_at_frame (hp : 0 < period) :
    ∃ t, (if lastFrameTime > now.ns then
          now.ns + CHECK_VSYNC_DELAY_NS + (lastFrameTime - now.ns) % period
        else now.ns + period + CHECK_VSYNC_DELAY_NS - (now.ns - lastFrameTime) % period) =
        t + CHECK_VSYNC_DELAY_NS ∧
      now.ns ≤ t ∧ t ≤ now.ns + period ∧ t ≡ lastFrameTime [ZMOD period] := by
  split
  · refine ⟨toIcoMod hp now.ns lastFrameTime, ?_, left_le_toIcoMod hp _ _,
      (toIcoMod_lt_right hp _ _).le, toIcoMod_modEq hp _ _⟩
    rw [← future_eq_toIcoMod]
    ring
  · refine ⟨toIocMod hp now.ns lastFrameTime, ?_, (left_lt_toIocMod hp _ _).le,
      toIocMod_le_right hp _ _, toIocMod_modEq hp _ _⟩
    rw [← past_eq_toIocMod]
    ring

/-- What the checked function returns is what the queue's function does. -/
theorem updateVsyncCheckTimeChecked_eq {q v : EventQueueBase} (hlast : INT64.Holds lastFrameTime)
    (hperiod : INT64.Holds period)
    (h : q.updateVsyncCheckTimeChecked now lastFrameTime period = some v) :
    v = q.updateVsyncCheckTime now lastFrameTime period := by
  unfold EventQueueBase.updateVsyncCheckTimeChecked at h
  unfold EventQueueBase.updateVsyncCheckTime
  by_cases hp : period > 0
  · rw [if_pos hp, Option.map_eq_some_iff] at h
    obtain ⟨z, hz, rfl⟩ := h
    rw [if_pos hp, ((nextVsyncCheckTime_eq_some hlast hperiod hp).1 hz).2]
    by_cases hfuture : lastFrameTime > now.ns
    · rw [if_pos hfuture, if_pos hfuture, Int.tmod_eq_emod_of_nonneg (by omega)]
    · rw [if_neg hfuture, if_neg hfuture, Int.tmod_eq_emod_of_nonneg (by omega)]
  · rw [if_neg hp, Option.some.injEq] at h
    rw [if_neg hp, h]

/-- **The poll is at a frame boundary within a period of the clock exactly when the sums are held in
    64 bits.** -/
theorem vsyncCheckTime_iff (now : ClockTime) (lastFrameTime period : Int64) (q : EventQueueBase)
    (hp : 0 < period.toInt) :
    PollsAtFrame now lastFrameTime.toInt period.toInt
        (q.updateVsyncCheckTimeChecked now lastFrameTime.toInt period.toInt) ↔
      FrameSumsHeld now lastFrameTime.toInt period.toInt := by
  have hsome := fun z => @nextVsyncCheckTime_eq_some now lastFrameTime.toInt period.toInt z
    (INT64_toInt lastFrameTime) (INT64_toInt period) hp
  have hmin : min period.toInt MAX_INIT_VSYNC_PERIOD_NS =
      if period.toInt > MAX_INIT_VSYNC_PERIOD_NS then MAX_INIT_VSYNC_PERIOD_NS
      else period.toInt := by
    split <;> omega
  unfold PollsAtFrame EventQueueBase.updateVsyncCheckTimeChecked
  simp only [if_pos hp, Option.map_eq_some_iff, hsome]
  constructor
  · rintro ⟨v, ⟨z, ⟨hheld, -⟩, -⟩, -⟩
    exact hheld
  · intro hheld
    exact ⟨_, ⟨_, ⟨hheld, rfl⟩, rfl⟩, hmin.symm, checkTime_at_frame hp⟩

/-- A period of 16 ms, a frame at 3 ms, the clock at 20 ms. -/
theorem vsyncCheckTime_iff_frame : PollsAtFrame ⟨20000000, by decide, by decide⟩
    (3000000 : Int64).toInt (16000000 : Int64).toInt
    ((EventQueueBase.create 0).updateVsyncCheckTimeChecked ⟨20000000, by decide, by decide⟩
      (3000000 : Int64).toInt (16000000 : Int64).toInt) := by
  apply (vsyncCheckTime_iff _ 3000000 16000000 _ (by decide)).2
  unfold FrameSumsHeld
  decide

/-- A period that the clock cannot be advanced by. -/
theorem vsyncCheckTime_overflow : ¬ ∀ (now : ClockTime) (lastFrameTime period : Int64)
    (q : EventQueueBase), 0 < period.toInt →
    PollsAtFrame now lastFrameTime.toInt period.toInt
      (q.updateVsyncCheckTimeChecked now lastFrameTime.toInt period.toInt) := by
  intro h
  obtain ⟨v, hv, -⟩ := h ⟨1000000, by decide, by decide⟩ 0 Int64.maxValue (EventQueueBase.create 0)
    (by decide)
  have hnone : nextVsyncCheckTime ⟨1000000, by decide, by decide⟩ (0 : Int64).toInt
      Int64.maxValue.toInt = none := by decide
  unfold EventQueueBase.updateVsyncCheckTimeChecked at hv
  rw [hnone, Option.map_none, if_pos (by decide)] at hv
  cases hv

end AppExecFwk
