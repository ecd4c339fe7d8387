import EventHandler.Runner

/-!
# Stopping and releasing a runner

`Run` clears `finished_` in `Prepare`; `Stop`, the exit callback and `~EventRunner` set it.

* `StopKept`, `stop_kept_iff` — a `Finish` that comes after `Prepare` stays; one that comes between
  the start and `Prepare` is undone by `Prepare`.
* `stop_lost` — runs in which the loop goes to sleep after a `Stop`, or after the exit callback.
* `ReleaseKept`, `released_runner_ends` — when `~EventRunner` has called `Finish`, a thread that has
  found its runner alive sees `finished_` set: the runner was alive after `Prepare`.
-/

set_option autoImplicit false

namespace AppExecFwk

open Transition EventQueueBase

variable {P : SystemParameters} {deposit : Bool} {s t : RunnerSys}

theorem finish_finished {q : EventQueueBase} (h : q.usable = true) : q.finish.finished = true := by
  unfold EventQueueBase.finish
  rw [if_pos h]

theorem prepare_finished {q : EventQueueBase} (h : q.usable = true) : q.prepare.finished = false := by
  unfold EventQueueBase.prepare
  rw [if_pos h]

theorem finish_usable (q : EventQueueBase) : q.finish.usable = q.usable := by
  unfold EventQueueBase.finish
  split <;> rfl

theorem prepare_usable (q : EventQueueBase) : q.prepare.usable = q.usable := by
  unfold EventQueueBase.prepare
  split <;> rfl

@[simp] theorem released_sys (s : RunnerSys) (b : Bool) : (s.released b).sys = s.sys := by
  unfold RunnerSys.released
  split <;> rfl

@[simp] theorem released_pc (s : RunnerSys) (b : Bool) : (s.released b).pc = s.pc := by
  unfold RunnerSys.released
  split <;> rfl

@[simp] theorem released_count (s : RunnerSys) (b : Bool) : (s.released b).count = s.count := by
  unfold RunnerSys.released
  split <;> rfl

@[simp] theorem released_running (s : RunnerSys) (b : Bool) :
    (s.released b).running = s.running := by
  unfold RunnerSys.released
  split <;> rfl

@[simp] theorem released_requests (s : RunnerSys) (b : Bool) :
    (s.released b).requests = s.requests := by
  unfold RunnerSys.released
  split <;> rfl

@[simp] theorem released_finishes (s : RunnerSys) (b : Bool) :
    (s.released b).finishes = s.finishes := by
  unfold RunnerSys.released
  split <;> rfl

/-- When `finished_` is set, the next turn of `GetEvent` gives the null event. -/
theorem returnsNull_of_finished (h : s.sys.queue.finished = true) (clk : PassClock) :
    s.returnsNull P (.pass clk) = true := by
  unfold RunnerSys.returnsNull getEventPass
  simp only [h, if_true, decide_true]

theorem runner_usable {a : RunnerOp} (h : RunnerEffect P deposit s a t) :
    t.sys.queue.usable = s.sys.queue.usable := by
  cases h with
  | user op sys hop hs => exact (queueStep_life (setsLife_of_byUsers hop) hs).usable
  | loop op sys hpc hop hs => exact (queueStep_life (setsLife_of_byLoop hop) hs).usable
  | prepare _ => exact prepare_usable _
  | stop _ => exact finish_usable _
  | exitCallback _ _ => exact finish_usable _
  | destroy _ _ _ => exact finish_usable _
  | compared _ _ => rw [released_sys]
  | dropRef _ _ => rw [released_sys]
  | loopDropRef _ _ _ => rw [released_sys]
  | _ => rfl

/-- Nothing but `Prepare` clears `finished_`. -/
theorem runner_finished {a : RunnerOp} (h : RunnerEffect P deposit s a t) (ha : s.pc ≠ .starting)
    (hu : s.sys.queue.usable = true) (hf : s.sys.queue.finished = true) :
    t.sys.queue.finished = true := by
  cases h with
  | user op sys hop hs => exact (queueStep_life (setsLife_of_byUsers hop) hs).finished.trans hf
  | loop op sys hpc hop hs => exact (queueStep_life (setsLife_of_byLoop hop) hs).finished.trans hf
  | prepare hpc => exact absurd hpc ha
  | stop _ => exact finish_finished hu
  | exitCallback _ _ => exact finish_finished hu
  | destroy _ _ _ => exact finish_finished hu
  | compared _ _ => rwa [released_sys]
  | dropRef _ _ => rwa [released_sys]
  | loopDropRef _ _ _ => rwa [released_sys]
  | _ => exact hf

/-! ## Stop requests -/

/-- The operations by which another thread asks the loop to end. -/
def RunnerOp.asksToEnd : RunnerOp → Bool
  | .stop => true
  | .exitCallback => true
  | _ => false

/-- The thread is not asked to end between its start and `Prepare`. -/
def RunnerSys.notEarly (s : RunnerSys) (a : RunnerOp) : Prop :=
  a.asksToEnd = true → s.pc.beforePrepare = false

instance notEarlyDecidable (s : RunnerSys) (a : RunnerOp) : Decidable (s.notEarly a) :=
  inferInstanceAs (Decidable (_ → _))

/-- The thread has not come to `Prepare`. -/
def RunPc.unprepared (pc : RunPc) : Bool := pc = .idle || pc.beforePrepare

/-- A stop request is kept. -/
structure StopKept (s : RunnerSys) : Prop where
  usable : s.sys.queue.usable = true
  idle : s.pc = .idle → s.running = false ∧ s.requests = 0
  early : s.pc.unprepared = true → s.finishes = 0
  kept : s.finishes ≠ 0 → s.sys.queue.finished = true

/-- Once `Prepare` is done, only `finished_` matters. -/
theorem StopKept.prepared (hu : s.sys.queue.usable = true) (hpc : s.pc.unprepared = false)
    (hk : s.finishes ≠ 0 → s.sys.queue.finished = true) : StopKept s where
  usable := hu
  idle hi := by
    rw [hi] at hpc
    cases hpc
  early he := by
    rw [hpc] at he
    cases he
  kept := hk

/-- Before `Prepare`, nobody has asked yet. -/
theorem StopKept.unasked (hu : s.sys.queue.usable = true) (hpc : s.pc ≠ .idle)
    (h0 : s.finishes = 0) : StopKept s where
  usable := hu
  idle hi := absurd hi hpc
  early _ := h0
  kept hf := absurd h0 hf

theorem stopKept_step {a : RunnerOp} (h : StopKept s) (hok : s.notEarly a)
    (hs : s.step P deposit a = some t) : StopKept t := by
  have heff := runnerStep_cases hs
  have hu := (runner_usable heff).trans h.usable
  have hkept : s.pc ≠ .starting → s.finishes ≠ 0 → t.sys.queue.finished = true :=
    fun hpc hf => runner_finished heff hpc h.usable (h.kept hf)
  cases heff with
  | user op sys hop hst =>
    have hlife := queueStep_life (setsLife_of_byUsers hop) hst
    exact ⟨hu, h.idle, h.early, fun hf => hlife.finished.trans (h.kept hf)⟩
  | loop op sys hpc hop hst =>
    refine .prepared hu ?_ (hkept (by simp [hpc]))
    show RunPc.unprepared (if s.returnsNull P op then .ended else .looping) = false
    split <;> rfl
  | startThread hpc _ =>
    exact .unasked hu (by simp) (h.early (by rw [hpc]; rfl))
  | startRun hpc _ =>
    exact .unasked hu (by simp) (h.early (by rw [hpc]; rfl))
  | lockInner hpc =>
    exact .unasked hu (by simp) (h.early (by rw [hpc]; rfl))
  | innerReleased hpc _ => exact .prepared hu rfl (hkept (by simp [hpc]))
  | prepare hpc =>
    -- no request has been made yet
    have h0 : s.finishes = 0 := h.early (by rw [hpc]; rfl)
    exact .prepared hu rfl fun hf => absurd h0 hf
  | expired hpc _ => exact .prepared hu rfl (hkept (by simp [hpc]))
  | notExpired hpc _ => exact .prepared hu rfl (hkept (by simp [hpc]))
  | lockNull hpc _ => exact .prepared hu rfl (hkept (by simp [hpc]))
  | lockOwner hpc _ => exact .prepared hu rfl (hkept (by simp [hpc]))
  | compared hpc _ =>
    refine .prepared hu (by rw [released_pc]; rfl) ?_
    rw [released_finishes]
    exact hkept (by simp [hpc])
  | leaveRun hpc _ =>
    apply StopKept.prepared hu
    · simp only [hpc]
      rfl
    · exact hkept (by simp [hpc])
  | loadRunning _ =>
    refine ⟨hu, fun hi => ⟨(h.idle hi).1, ?_⟩, h.early, h.kept⟩
    obtain ⟨hr, hq⟩ := h.idle hi
    show (if s.running then s.requests + 1 else s.requests) = 0
    simp [hr, hq]
  | stop hr =>
    have hpc : s.pc.unprepared = false := by
      have hidle : s.pc ≠ .idle := fun hi => hr (h.idle hi).2
      simp [RunPc.unprepared, hidle, hok rfl]
    exact .prepared hu hpc fun _ => finish_finished h.usable
  | exitCallback _ hidle =>
    have hpc : s.pc.unprepared = false := by simp [RunPc.unprepared, hidle, hok rfl]
    exact .prepared hu hpc fun _ => finish_finished h.usable
  | addRef _ _ => exact ⟨hu, h.idle, h.early, h.kept⟩
  | dropRef _ _ =>
    refine ⟨hu, ?_, ?_, ?_⟩
    · simpa using h.idle
    · simpa using h.early
    · simpa using h.kept
  | loopAddRef _ hpc _ =>
    apply StopKept.prepared hu
    · simp only [hpc]
      rfl
    · exact hkept (by simp [hpc])
  | loopDropRef _ hpc _ =>
    apply StopKept.prepared hu
    · rw [released_pc]
      simp only [hpc]
      rfl
    · rw [released_finishes]
      exact hkept (by simp [hpc])
  | destroy _ _ _ => exact ⟨hu, h.idle, h.early, fun _ => finish_finished h.usable⟩
  | destroyPlain _ _ _ => exact ⟨hu, h.idle, h.early, h.kept⟩

theorem stopKept_init (start : ClockTime) : StopKept (runnerSystem P deposit start).init :=
  ⟨rfl, fun _ => ⟨rfl, rfl⟩, fun _ => rfl, fun hf => absurd rfl hf⟩

theorem reachable_usable {start : ClockTime}
    (h : (runnerSystem P deposit start).Reachable System.always s) : s.sys.queue.usable = true := by
  apply h.invariant (I := fun s => s.sys.queue.usable = true) rfl
  intro s a t hu _ hs
  exact (runner_usable (runnerStep_cases hs)).trans hu

/-- **A stop request is not lost** when it does not come between the start and `Prepare`: the loop
    sees `finished_` set in its next turn.  `Prepare` keeps the requests made before it iff there are
    none. -/
theorem stop_kept_iff (P : SystemParameters) (deposit : Bool) (start : ClockTime) :
    (∀ s, (runnerSystem P deposit start).Reachable RunnerSys.notEarly s → s.finishes ≠ 0 →
      s.sys.queue.finished = true ∧ ∀ clk, s.returnsNull P (.pass clk) = true) ∧
    (∀ s t, (runnerSystem P deposit start).Reachable System.always s →
      s.step P deposit .prepare = some t →
        ((t.finishes ≠ 0 → t.sys.queue.finished = true) ↔ s.finishes = 0)) := by
  constructor
  · intro s h hf
    have hk : StopKept s :=
      h.invariant (stopKept_init start) fun s a t hk hok hs => stopKept_step hk hok hs
    exact ⟨hk.kept hf, returnsNull_of_finished (hk.kept hf)⟩
  · intro s t h hs
    have hu := reachable_usable h
    cases runnerStep_cases hs with
    | prepare hpc =>
      have hclear : s.sys.queue.prepare.finished = false := prepare_finished hu
      show (s.finishes ≠ 0 → s.sys.queue.prepare.finished = true) ↔ s.finishes = 0
      rw [hclear]
      simp

/-- The runner stops in the turn after `Stop`. -/
theorem stop_kept_iff_run : ∃ s : RunnerSys, s.finishes = 1 ∧ s.pc = .prepared ∧
    s.sys.queue.finished = true ∧ ∀ clk, s.returnsNull {} (.pass clk) = true := by
  obtain ⟨s, hs, hp⟩ := System.run_of_exec (runnerSystem {} false (atMs 0)) RunnerSys.notEarly
    (fun s => s.finishes = 1 ∧ s.pc = .prepared) [.start, .prepare, .loadRunning, .stop] (by decide)
  have h0 : s.finishes ≠ 0 := by
    rw [hp.1]
    decide
  exact ⟨s, hp.1, hp.2, (stop_kept_iff {} false (atMs 0)).1 s ⟨_, hs⟩ h0⟩

/-- The loop of a prepared runner comes to its first wait. -/
def firstWait : List RunnerOp :=
  [.prepare, .checkExpired, .lockOwner, .compared, .loop .getEvent, .loop (passAt (atMs 1))]

/-- `Stop` before `Prepare`, and the exit callback before `Prepare`: the loop sleeps without an end. -/
theorem stop_lost : ¬ ((∀ s, (runnerSystem {} false (atMs 0)).Reachable System.always s →
      s.finishes ≠ 0 → s.sys.queue.finished = true) ∨
    (∀ s, (runnerSystem {} true (atMs 0)).Reachable System.always s →
      s.finishes ≠ 0 → s.sys.queue.finished = true)) := by
  rintro (h | h)
  · obtain ⟨s, hs, hp⟩ := System.run_of_exec (runnerSystem {} false (atMs 0)) System.always
      (fun s => s.finishes ≠ 0 ∧ s.sys.queue.finished = false ∧ s.sys.pc = .waiting TimePoint.max)
      ([.start, .loadRunning, .stop] ++ firstWait) (by decide)
    have hf := h s ⟨_, hs⟩ hp.1
    rw [hp.2.1] at hf
    cases hf
  · obtain ⟨s, hs, hp⟩ := System.run_of_exec (runnerSystem {} true (atMs 0)) System.always
      (fun s => s.finishes ≠ 0 ∧ s.sys.queue.finished = false ∧ s.sys.pc = .waiting TimePoint.max)
      ([.start, .exitCallback, .lockInner false] ++ firstWait) (by decide)
    have hf := h s ⟨_, hs⟩ hp.1
    rw [hp.2.1] at hf
    cases hf

/-! ## Releasing a deposited runner -/

/-- A destroyed runner has ended its thread's loop, or the thread has not looked for it yet. -/
structure ReleaseKept (s : RunnerSys) : Prop where
  usable : s.sys.queue.usable = true
  referenced : s.count ≠ 0 → s.destruction = .alive
  kept : s.destruction = .done → s.pc.pastExpiredCheck = true → s.sys.queue.finished = true

/-- Dropping a reference. -/
theorem released_referenced {b : Bool} (h : s.destruction = .alive) :
    (s.released b).count ≠ 0 → (s.released b).destruction = .alive := by
  intro hc
  rw [released_count] at hc
  unfold RunnerSys.released
  rw [if_neg hc]
  exact h

theorem released_not_done {b : Bool} (h : s.destruction = .alive) :
    (s.released b).destruction ≠ .done := by
  unfold RunnerSys.released
  split
  · simp
  · rw [h]
    simp

theorem releaseKept_step {a : RunnerOp} (h : ReleaseKept s) (hs : s.step P true a = some t) :
    ReleaseKept t := by
  have heff := runnerStep_cases hs
  have hu := (runner_usable heff).trans h.usable
  have hkept : s.pc.pastExpiredCheck = true → s.destruction = .done →
      t.sys.queue.finished = true := by
    intro hpc hd
    apply runner_finished heff _ h.usable (h.kept hd hpc)
    intro hst
    rw [hst] at hpc
    cases hpc
  have hdrop : ∀ u : RunnerSys, ∀ b, u.destruction = s.destruction → s.count ≠ 0 →
      u.sys.queue.usable = true → ReleaseKept (u.released b) := by
    intro u b hd hc huse
    have ha : u.destruction = .alive := hd.trans (h.referenced hc)
    refine ⟨?_, released_referenced ha, fun hdone => absurd hdone (released_not_done ha)⟩
    rwa [released_sys]
  have hcount : s.loopRefs ≠ 0 ∨ s.refs ≠ 0 → s.count ≠ 0 := by
    unfold RunnerSys.count
    omega
  cases heff with
  | user op sys hop hst => exact ⟨hu, h.referenced, fun hd hpc => hkept hpc hd⟩
  | loop op sys hpc hop hst =>
    exact ⟨hu, h.referenced, fun hd _ => hkept (by rw [hpc]; rfl) hd⟩
  | startThread _ _ => exact ⟨hu, h.referenced, fun _ hpc => by cases hpc⟩
  | startRun _ hd => cases hd
  | lockInner _ => exact ⟨hu, h.referenced, fun _ hpc => by cases hpc⟩
  | innerReleased _ _ => exact ⟨hu, h.referenced, fun _ hpc => by cases hpc⟩
  | prepare _ => exact ⟨hu, h.referenced, fun _ hpc => by cases hpc⟩
  | expired _ _ => exact ⟨hu, h.referenced, fun _ hpc => by cases hpc⟩
  | notExpired _ hc =>
    -- `Prepare` is done and the runner is alive
    refine ⟨hu, h.referenced, fun hd _ => ?_⟩
    have hd : s.destruction = .done := hd
    rw [h.referenced hc] at hd
    cases hd
  | lockNull hpc _ => exact ⟨hu, h.referenced, fun hd _ => hkept (by rw [hpc]; rfl) hd⟩
  | lockOwner hpc hc =>
    exact ⟨hu, fun _ => h.referenced hc, fun hd _ => hkept (by rw [hpc]; rfl) hd⟩
  | compared _ hr => exact hdrop _ _ rfl (hcount (Or.inl hr)) h.usable
  | leaveRun _ hd => cases hd
  | loadRunning hd => cases hd
  | stop _ => exact ⟨hu, h.referenced, fun _ _ => finish_finished h.usable⟩
  | exitCallback _ _ => exact ⟨hu, h.referenced, fun _ _ => finish_finished h.usable⟩
  | addRef _ hc => exact ⟨hu, fun _ => h.referenced hc, fun hd hpc => hkept hpc hd⟩
  | dropRef _ hr => exact hdrop _ _ rfl (hcount (Or.inr hr)) h.usable
  | loopAddRef _ _ hc => exact ⟨hu, fun _ => h.referenced hc, fun hd hpc => hkept hpc hd⟩
  | loopDropRef _ _ hr => exact hdrop _ _ rfl (hcount (Or.inl hr)) h.usable
  | destroy b _ hf =>
    refine ⟨hu, fun hc => ?_, fun _ _ => finish_finished h.usable⟩
    have ha := h.referenced hc
    rw [hf] at ha
    cases ha
  | destroyPlain _ hd _ => cases hd

/-- **Destroying a deposited runner ends its thread's loop.** -/
theorem released_runner_ends (P : SystemParameters) (start : ClockTime) (s : RunnerSys)
    (h : (runnerSystem P true start).Reachable System.always s) :
    ¬ (s.destruction = .done ∧ s.pc.pastExpiredCheck = true ∧ s.sys.queue.finished = false) := by
  rintro ⟨hd, hpc, hf⟩
  have hk : ReleaseKept s := by
    apply h.invariant (I := ReleaseKept) ⟨rfl, fun _ => rfl, fun hd => by cases hd⟩
    exact fun s a t hk _ hs => releaseKept_step hk hs
  have ht := hk.kept hd hpc
  rw [hf] at ht
  cases ht

/-- The thread itself drops the last reference, while it compares its runner with the main runner. -/
theorem released_runner_ends_run : ∃ s : RunnerSys, s.destruction = .done ∧ s.pc = .looping ∧
    ¬ (s.destruction = .done ∧ s.pc.pastExpiredCheck = true ∧ s.sys.queue.finished = false) := by
  obtain ⟨s, hs, hp⟩ := System.run_of_exec (runnerSystem {} true (atMs 0)) System.always
    (fun s => s.destruction = .done ∧ s.pc = .looping)
    [.start, .lockInner false, .prepare, .checkExpired, .lockOwner, .dropRef, .compared, .destroy]
    (by decide)
  exact ⟨s, hp.1, hp.2, released_runner_ends {} (atMs 0) s ⟨_, hs⟩⟩

end AppExecFwk
