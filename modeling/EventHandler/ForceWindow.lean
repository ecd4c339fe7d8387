import EventHandler.VsyncPolicy

/-!
# The force-enable window

`SetVsyncFirstForceEnableTime(true, timeout)` puts a policy in force until the clock has passed the
call by `timeout` nanoseconds.  The end of the window is a sum in `uint64_t` stored in an `int64_t`.

* `windowEnd_held`, `windowEnd_wrapped` — the stored end: the sum, or a time before the call.
* `SameWindow`, `run_sameWindow` — what a run without setter calls keeps.
* `WindowKept` — `CheckBarrierMode` applies the policy in the window, and the original one behind it.
* `forceWindow_iff` — it does exactly when the sum is held in 64 bits, or the original policy is the
  forced one, and the same call does not time barrier mode out.
-/

set_option autoImplicit false

namespace AppExecFwk

open Transition EventQueueBase

variable {P : SystemParameters} {start : ClockTime} {s t : Sys}

/-! ## The end of the window -/

/-- A sum that is held is stored as it is. -/
theorem windowEnd_held {x : Int} (h : 0 ≤ x) (h' : x ≤ INT64_MAX) : toInt64 x = x := by
  unfold toInt64
  unfold INT64_MAX at h'
  rw [Int.bmod_def]
  split <;> omega

/-- A sum that is not held is stored as a time before the call. -/
theorem windowEnd_wrapped {t₀ : ClockTime} {timeout : UInt64}
    (h : INT64_MAX < t₀.ns + timeout.toNat) : toInt64 (t₀.ns + timeout.toNat) < t₀.ns := by
  have h0 := t₀.nonneg
  have hmax := t₀.lt_max
  have hlt := timeout.toNat_lt
  unfold TimePoint.max INT64_MAX at *
  unfold toInt64
  rw [Int.bmod_def]
  split <;> omega

/-! ## Runs without setter calls -/

/-- The operation is a call of one of the policy setters. -/
def Op.setsPolicy : Op → Bool
  | .flag op => op.setsPolicy
  | _ => false

structure SameWindow (q q' : EventQueueBase) : Prop where
  origin : q'.vsyncOriginPolicy = q.vsyncOriginPolicy
  endTime : q'.vsyncFirstForceEnableEndTime = q.vsyncFirstForceEnableEndTime

theorem SameWindow.trans {q q' q'' : EventQueueBase} (h : SameWindow q q') (h' : SameWindow q' q'') :
    SameWindow q q'' :=
  ⟨h'.origin.trans h.origin, h'.endTime.trans h.endTime⟩

theorem SamePolicy.sameWindow {q q' : EventQueueBase} (h : SamePolicy q q') : SameWindow q q' :=
  ⟨h.origin, h.endTime⟩

theorem checkBarrierMode_sameWindow (now enter : ClockTime) (q : EventQueueBase) :
    SameWindow q (q.checkBarrierMode P now enter) := by
  rw [checkBarrierMode_eq]
  exact ⟨rfl, rfl⟩

theorem step_sameWindow {a : Op} (ha : a.setsPolicy = false) (h : s.step P a = some t) :
    SameWindow s.queue t.queue := by
  cases step_policy h with
  | same _ _ hsame => exact hsame.sameWindow
  | check clk _ hsame =>
    exact (checkBarrierMode_sameWindow clk.check clk.enter s.queue).trans hsame.sameWindow
  | set op hset _ =>
    have hop : op.setsPolicy = false := ha
    rw [hset] at hop
    cases hop

theorem run_sameWindow {as : List Op}
    (h : (queueSystem P start).Run (fun _ a => a.setsPolicy = false) s as t) :
    SameWindow s.queue t.queue := by
  apply h.invariant (I := fun t => SameWindow s.queue t.queue)
  · exact fun u a v hu ha hst => hu.trans (step_sameWindow ha hst)
  · exact ⟨rfl, rfl⟩

/-! ## CheckBarrierMode -/

/-- The policy after `CheckBarrierMode`. -/
theorem checkBarrierMode_policy (now enter : ClockTime) (q : EventQueueBase) :
    (q.checkBarrierMode P now enter).vsyncPolicy =
      if q.windowOpen now then .VSYNC_FIRST_WITHOUT_DEFAULT_BARRIER else q.vsyncOriginPolicy := by
  have hswitch : (q.checkBarrierMode P now enter).vsyncPolicy = (q.applyVsyncPolicy now).vsyncPolicy := by
    unfold checkBarrierMode switchBarrierMode
    repeat' split
    all_goals rfl
  rw [hswitch]
  unfold applyVsyncPolicy windowOpen
  split
  · rename_i h
    simp [h]
  · rename_i h
    simp [h]

/-- The call at `now` applies the forced policy within `timeout` of `t₀`, and from then on the
    original one. -/
structure WindowKept (P : SystemParameters) (t₀ : ClockTime) (timeout : UInt64) (q : EventQueueBase)
    (now enter : ClockTime) : Prop where
  inside : t₀.ns ≤ now.ns → now.ns - t₀.ns < timeout.toNat →
    (q.checkBarrierMode P now enter).vsyncPolicy = .VSYNC_FIRST_WITHOUT_DEFAULT_BARRIER ∧
      (q.checkBarrierMode P now enter).isLazyMode = false
  behind : timeout.toNat ≤ now.ns - t₀.ns →
    (q.checkBarrierMode P now enter).vsyncPolicy =
      (q.checkBarrierMode P now enter).vsyncOriginPolicy

/-- Within `timeout` of `t₀` the end of the window is held in 64 bits, or the original policy is the
    forced one and not lazy; and barrier mode does not time out. -/
def WindowHeld (P : SystemParameters) (t₀ : ClockTime) (timeout : UInt64) (q : EventQueueBase)
    (now : ClockTime) : Prop :=
  t₀.ns ≤ now.ns → now.ns - t₀.ns < timeout.toNat →
    (t₀.ns + timeout.toNat ≤ INT64_MAX ∨
      q.vsyncOriginPolicy = .VSYNC_FIRST_WITHOUT_DEFAULT_BARRIER ∧ q.isLazyMode = false) ∧
      q.barrierTimesOut P now = false

/-- **`CheckBarrierMode` keeps the window exactly when it is held.** -/
theorem windowKept_iff {t₀ now : ClockTime} {timeout : UInt64} {q : EventQueueBase}
    (hend : q.vsyncFirstForceEnableEndTime = toInt64 (t₀.ns + timeout.toNat)) (enter : ClockTime) :
    WindowKept P t₀ timeout q now enter ↔ WindowHeld P t₀ timeout q now := by
  have h0 := t₀.nonneg
  have hmax := now.lt_max
  rw [TimePoint.max] at hmax
  have hpolicy := checkBarrierMode_policy (P := P) now enter q
  have hlazy := checkBarrierMode_lazy P now enter q
  by_cases hheld : t₀.ns + timeout.toNat ≤ INT64_MAX
  · have hopen : q.windowOpen now = decide (t₀.ns + timeout.toNat > now.ns) := by
      unfold windowOpen
      rw [hend, windowEnd_held (by omega) hheld]
    rw [hopen] at hpolicy hlazy
    constructor
    · intro h hle hin
      have hlazy' := (h.inside hle hin).2
      rw [hlazy, decide_eq_true (by omega)] at hlazy'
      simpa [hheld] using hlazy'
    · intro h
      refine ⟨fun hle hin => ?_, fun hout => ?_⟩
      · rw [hpolicy, hlazy, decide_eq_true (by omega), (h hle hin).2]
        simp
      · rw [hpolicy, checkBarrierMode_origin, decide_eq_false (by omega)]
        simp
  · have hopen : ∀ _ : t₀.ns ≤ now.ns, q.windowOpen now = false := by
      intro hle
      have hlate : INT64_MAX < t₀.ns + timeout.toNat := by omega
      have hwrapped := windowEnd_wrapped hlate
      unfold windowOpen
      rw [hend, decide_eq_false (by omega)]
    constructor
    · intro h hle hin
      obtain ⟨hp, hl⟩ := h.inside hle hin
      rw [hpolicy, hopen hle] at hp
      rw [hlazy, hopen hle] at hl
      simp only [Bool.not_false, Bool.and_true, Bool.or_eq_false_iff] at hl
      exact ⟨Or.inr ⟨by simpa using hp, hl.1⟩, hl.2⟩
    · intro h
      refine ⟨fun hle hin => ?_, fun hout => ?_⟩
      · obtain ⟨hor, hbar⟩ := h hle hin
        obtain ⟨horigin, hl⟩ := hor.resolve_left hheld
        rw [hpolicy, hlazy, hopen hle, hbar, hl]
        simp [horigin]
      · omega

/-- **In every run without setter calls after `SetVsyncFirstForceEnableTime(true, timeout)` each call of
    `CheckBarrierMode` keeps the window exactly when it is held.** -/
theorem forceWindow_iff (P : SystemParameters) (start : ClockTime) {s v : Sys} {as : List Op}
    (t₀ : ClockTime) (timeout : UInt64)
    (hv : (queueSystem P start).Run (fun _ a => a.setsPolicy = false)
      { s with queue := s.queue.setVsyncFirstForceEnableTime t₀ true timeout } as v)
    (now enter : ClockTime) :
    WindowKept P t₀ timeout v.queue now enter ↔ WindowHeld P t₀ timeout v.queue now :=
  windowKept_iff (run_sameWindow hv).endTime enter

/-- A window of 5 ms is kept at its end. -/
theorem forceWindow_iff_run : WindowKept {} (atMs 1) 5000000
    ((EventQueueBase.create 0).setVsyncFirstForceEnableTime (atMs 1) true 5000000) (atMs 5) (atMs 5) :=
  (forceWindow_iff {} (atMs 0) (s := (queueSystem {} (atMs 0)).init) (atMs 1) 5000000 (.nil _) (atMs 5)
    (atMs 5)).2 fun _ _ => ⟨Or.inl (by decide), by decide⟩

/-- A window without end is closed at once. -/
theorem forceWindow_closed : ¬ ∀ (P : SystemParameters) (start : ClockTime) (s v : Sys)
    (as : List Op) (t₀ now enter : ClockTime) (timeout : UInt64),
    (queueSystem P start).Reachable System.always s →
    (queueSystem P start).Run (fun _ a => a.setsPolicy = false)
      { s with queue := s.queue.setVsyncFirstForceEnableTime t₀ true timeout } as v →
    WindowKept P t₀ timeout v.queue now enter := by
  intro h
  have hkept := h {} (atMs 0) _ _ [] (atMs 1) (atMs 2) (atMs 2) 18446744073709551615 .init (.nil _)
  exact absurd (hkept.inside (by decide) (by decide)).1 (by decide)

end AppExecFwk
