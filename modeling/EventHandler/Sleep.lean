import EventHandler.PendingVsync

/-!
# GetEvent sleeps only when nothing is due

What a turn of the loop of `GetEvent` promises: it waits only with nothing due, no vsync task in
`VIP` and barrier mode off; it hands out an ordinary event only when the event is due; and a second
turn without a wait between ends the loop.

* `LoopContract` — the promise, for a turn in a state.
* `Awake` — the invariant behind it: the account of pending vsync tasks, barrier mode only while a
  task is counted, and no count after a turn that reset it.
* `loop_contract` — the promise is kept in every run that accepts no vsync task while the counter is
  one before its wrap to zero.
* `loop_sleeps` — a wrapped counter lets the loop sleep on a vsync task.
-/

set_option autoImplicit false

namespace AppExecFwk

open Transition EventQueueBase

variable {P : SystemParameters} {s t : Sys}

/-! ## The contract of a turn -/

/-- What a turn with the clock readings `clk` promises in the state `s`. -/
structure LoopContract (P : SystemParameters) (s : Sys) (clk : PassClock) : Prop where
  /-- At `WaitUntilLocked` nothing is due, no vsync task is in `VIP` and barrier mode is off. -/
  wait : ∀ d, (s.queue.getEventPass P clk).pass = .wait d →
    (∀ i, ∀ e ∈ (s.queue.getEventPass P clk).queue.events (some i), clk.now.ns < e.handleTime) ∧
    (∀ e ∈ (s.queue.getEventPass P clk).queue.events (some 0), e.isVsync = false) ∧
    (s.queue.getEventPass P clk).queue.isBarrierMode = false
  /-- An ordinary event is handed out when it is due. -/
  due : ∀ e, (s.queue.getEventPass P clk).pass.event = some e → e.isVsync = false →
    e.handleTime ≤ clk.now.ns
  /-- At most one turn since the last wait did not end the loop. -/
  turns : ∀ n, s.pc = .looping n → n < 2

/-- Barrier mode is on only while a vsync task is counted. -/
def BarrierCounted (q : EventQueueBase) : Prop :=
  q.isBarrierMode = true → q.sumOfPendingVsync ≠ 0

/-- A turn that did not end the loop left the counter at zero. -/
def TurnsBounded (s : Sys) : Prop :=
  ∀ n, s.pc = .looping n → n = 0 ∨ (n = 1 ∧ s.queue.sumOfPendingVsync = 0)

structure Awake (s : Sys) : Prop where
  sorted : SortedLists s
  accounted : Accounted false 255 s
  barrier : BarrierCounted s.queue
  turns : TurnsBounded s

/-! ## The steps -/

theorem insert_barrier {p : Process} {now recv : ClockTime} {q : EventQueueBase}
    {event : Option InnerEvent} {priority : Priority} {ty : EventInsertType}
    {option : VsyncBarrierOption} :
    (q.insert p now recv event priority ty option).queue.isBarrierMode = q.isBarrierMode := by
  rw [insert_queue_eq]

/-- A counter at zero means that no vsync task is held. -/
theorem Accounted.none_held {strict : Bool} {bound : Nat} (hs : Accounted strict bound s)
    (hb : bound ≤ 255) (h0 : s.queue.sumOfPendingVsync = 0) : s.queue.allVsync = 0 := by
  obtain ⟨c, hc, hsc, hle, -⟩ := hs.count
  have hc0 : c = 0 := toInt8_eq_zero (by omega) (by rw [← hsc]; exact h0)
  omega

/-- `RemoveOrphan` leaves barrier mode if it touches the counter. -/
theorem foldl_noteOrphan_barrier (p : Process) : ∀ (es : List InnerEvent) (q : EventQueueBase),
    (es.foldl (noteOrphan p) q).isBarrierMode = true → q.isBarrierMode = true ∧
      (es.foldl (noteOrphan p) q).sumOfPendingVsync = q.sumOfPendingVsync := by
  intro es
  induction es with
  | nil => exact fun q h => ⟨h, rfl⟩
  | cons e es ih =>
    intro q h
    rw [List.foldl_cons] at h ⊢
    obtain ⟨hb, hsum⟩ := ih (q.noteOrphan p e) h
    rw [hsum]
    unfold noteOrphan at hb ⊢
    split at hb
    · cases hb
    · rename_i hn
      rw [if_neg hn]
      exact ⟨hb, rfl⟩

theorem removeOrphan_barrier {p : Process} {q : EventQueueBase} (hq : BarrierCounted q) :
    BarrierCounted (q.removeOrphan p) := by
  unfold removeOrphan
  split
  · intro hb
    obtain ⟨hb', hsum⟩ := foldl_noteOrphan_barrier p q.allEvents q hb
    show (q.allEvents.foldl (noteOrphan p) q).sumOfPendingVsync ≠ 0
    rw [hsum]
    exact hq hb'
  · exact hq

/-- A turn keeps barrier mode counted: `CheckBarrierMode` enters it only with a task pending, and
    the reset of the counter leaves it. -/
theorem pass_barrier {clk : PassClock} {q : EventQueueBase} (hq : BarrierCounted q) :
    BarrierCounted (q.getEventPass P clk).queue := by
  have hcheck : BarrierCounted (q.expired P clk).queue := by
    intro hb
    rw [q.expired_sum P clk]
    have hctl := getExpiredEventLocked_sameControl (q.checkBarrierMode P clk.check clk.enter)
      clk.now clk.next TimePoint.max
    rcases checkBarrierMode_barrier (hctl.isBarrierMode ▸ hb) with h | h
    · exact hq h
    · exact h
  have hx := q.getEventPass_cases P clk
  generalize q.getEventPass P clk = o at hx
  cases hx with
  | finished _ => exact hq
  | expired e _ _ => exact hcheck
  | lastVsync e _ _ _ _ => exact hcheck
  | reset _ _ _ _ => exact fun hb => by cases hb
  | wait _ _ _ =>
    have hctl := (q.expired P clk).queue.beforeWaiting_sameControl clk.consumer
      (q.expired P clk).nextExpiredTime
    intro hb
    simp only [hctl.isBarrierMode, hctl.sum] at hb ⊢
    exact hcheck hb

theorem BarrierCounted.of_sameControl {q q' : EventQueueBase} (hq : BarrierCounted q)
    (h : SameControl q q') : BarrierCounted q' := by
  intro hb
  rw [h.sum]
  exact hq (h.isBarrierMode ▸ hb)

theorem barrier_step {a : Op} (hs : Awake s) (ht : Accounted false 255 t)
    (hd : inDefaultMode s a = true) (hok : CountGuard false 255 s a) (h : s.step P a = some t) :
    BarrierCounted t.queue := by
  have hb := hs.barrier
  cases step_cases h with
  | insert p now recv event priority ty option _ =>
    have hvip : ∀ e, event.map s.stamp = some e → e.isVsync = true → priority = .VIP := by
      intro e he hv
      cases event with
      | none => cases he
      | some x => cases he; exact vip_of_vsyncAsVip hok.vip hv
    intro hbt
    rcases insert_count (p := p) hvip with ⟨-, hsum⟩ | ⟨-, -, hall, -⟩
    · show (s.insertOutcome p now recv event priority ty option).queue.sumOfPendingVsync ≠ 0
      rw [Sys.insertOutcome, hsum]
      exact hb (by rw [← insert_barrier]; exact hbt)
    · intro h0
      have hnone := ht.none_held (le_refl _) h0
      simp only [Sys.insertOutcome] at hnone
      omega
  | remove selector _ => exact hb.of_sameControl (remove_onlyLists selector s.queue).sameControl
  | removeOrphan p _ => exact removeOrphan_barrier hb
  | removeAll _ => exact hb.of_sameControl (removeFilter_onlyLists _ s.queue).sameControl
  | expiredEvent _ _ _ _ _ => cases hd
  | expiredNone _ _ _ _ => cases hd
  | getEvent _ => exact hb
  | pass clk n _ =>
    rw [afterPass_queue]
    exact pass_barrier hb
  | wakeUp _ _ => exact hb
  | pollReturn e need _ =>
    show BarrierCounted (s.queue.afterPoll need)
    rw [afterPoll_eq]
    exact hb
  | execute e _ =>
    unfold Sys.runTask
    split
    · exact fun h => by cases h
    · exact hb
  | release _ _ => exact hb
  | flag op =>
    have hop : op.isNotification = false := by simpa [inDefaultMode] using hd
    obtain ⟨hsum, hbar⟩ := applyFlag_control (q := s.queue) hop
    intro hbt
    show (s.queue.applyFlag op).sumOfPendingVsync ≠ 0
    rw [hsum]
    exact hb (hbar ▸ hbt)

/-- While the loop thread is in its loop only flags other than the notifications change. -/
theorem turns_step {a : Op} (hs : Awake s) (hd : inDefaultMode s a = true)
    (h : s.step P a = some t) : TurnsBounded t := by
  have hfree : ∀ {n}, s.lockFree = true → s.pc ≠ .looping n := by
    intro n hl hpc
    simp [Sys.lockFree, hpc] at hl
  cases step_cases h with
  | insert _ _ _ _ _ _ _ hl => exact fun n hpc => absurd hpc (hfree hl)
  | remove _ hl => exact fun n hpc => absurd hpc (hfree hl)
  | removeOrphan _ hl => exact fun n hpc => absurd hpc (hfree hl)
  | removeAll hl => exact fun n hpc => absurd hpc (hfree hl)
  | expiredEvent _ _ _ _ _ => cases hd
  | expiredNone _ _ _ _ => cases hd
  | getEvent _ => exact fun n hpc => Or.inl (by cases hpc; rfl)
  | pass clk n hpc =>
    have hsum := pass_sum P clk s.queue
    generalize s.queue.getEventPass P clk = o at hsum
    intro m hm
    unfold Sys.afterPass at hm
    split at hm
    · cases hm
    · cases hm
    · cases hm
    · rename_i hagain
      rcases hsum with ⟨hne, -⟩ | ⟨-, h0, hs0, -⟩
      · exact absurd hagain hne
      · cases hm
        -- the counter was not zero, so no earlier turn had reset it
        rcases hs.turns n hpc with rfl | ⟨-, h1⟩
        · exact Or.inr ⟨rfl, by rw [afterPass_queue]; exact h0⟩
        · exact absurd h1 hs0
    · cases hm
  | wakeUp _ _ => exact fun n hpc => Or.inl (by cases hpc; rfl)
  | pollReturn _ _ _ => exact fun n hpc => by cases hpc
  | execute e hc =>
    intro n hpc
    have hpc' : s.pc = .looping n := by
      unfold Sys.runTask at hpc
      split at hpc <;> exact hpc
    rw [hs.accounted.hands (by rw [hpc']; simp)] at hc
    cases hc
  | release e hc => exact hs.turns
  | flag op =>
    have hop : op.isNotification = false := by simpa [inDefaultMode] using hd
    intro n hpc
    show n = 0 ∨ (n = 1 ∧ (s.queue.applyFlag op).sumOfPendingVsync = 0)
    rw [(applyFlag_control hop).1]
    exact hs.turns n hpc

theorem awake_step {a : Op} (hs : Awake s) (hok : CountGuard false 255 s a)
    (hd : inDefaultMode s a = true) (h : s.step P a = some t) : Awake t := by
  have ht := accounted_step hs.accounted hok hd h
  exact ⟨sorted_step hs.sorted (step_listEffect h), ht, barrier_step hs ht hd hok h,
    turns_step hs hd h⟩

theorem reachable_awake {start : ClockTime}
    (h : (defaultModeLoop P start).Reachable (CountGuard false 255) s) : Awake s := by
  have hinit : (defaultModeLoop P start).Reachable (CountGuard false 255)
      (defaultModeLoop P start).init := .init
  apply h.invariant
  · refine ⟨fun k => ?_, reachable_accounted hinit, ?_, ?_⟩
    · cases k <;> exact List.Pairwise.nil
    · exact fun hb => by cases hb
    · exact fun n hpc => by cases hpc
  · intro s a t hs hok hst
    obtain ⟨hd, hst⟩ := System.restrict_step.1 hst
    exact awake_step hs hok hd hst

/-! ## The contract -/

/-- **The invariant gives the contract of every turn.** -/
theorem Awake.contract (hs : Awake s) (clk : PassClock) : LoopContract P s clk := by
  refine ⟨?_, ?_, ?_⟩
  · have hx := s.queue.getEventPass_cases P clk
    have hnone := @getEventPass_none P clk s.queue
    generalize s.queue.getEventPass P clk = o at hx hnone
    intro d hd
    cases hx with
    | finished _ => cases hd
    | expired e _ _ =>
      simp only at hd
      split at hd <;> cases hd
    | lastVsync _ _ _ _ _ => cases hd
    | reset _ _ _ _ => cases hd
    | wait hf hn h0 =>
      have hsame := hnone rfl
      have h0' : s.queue.sumOfPendingVsync = 0 := by rw [← s.queue.expired_sum P clk]; exact h0
      -- a zero counter rules barrier mode out, also after `CheckBarrierMode`
      have hbc : (s.queue.checkBarrierMode P clk.check clk.enter).isBarrierMode = false := by
        rw [← Bool.not_eq_true]
        intro hb
        rcases checkBarrierMode_barrier hb with h | h
        · exact hs.barrier h h0'
        · exact h h0'
      obtain ⟨-, -, -, hlt, -⟩ := getExpiredEventLocked_none hn
      refine ⟨fun i e he => ?_, fun e he => ?_, ?_⟩
      · rw [hsame (some i)] at he
        exact lt_of_lt_of_le (hlt hbc) (expired_none_wakeUpTime_le hn (hs.sorted (some i)) e he)
      · rw [hsame (some 0)] at he
        exact vip_of_allVsync_zero (hs.accounted.none_held (le_refl _) h0') e he
      · simp only
        rw [(beforeWaiting_sameControl _ _ _).isBarrierMode]
        exact (getExpiredEventLocked_sameControl _ clk.now clk.next _).isBarrierMode.trans hbc
  · intro e he hv
    obtain ⟨p, k, hrule, htk⟩ := getEventPass_some he
    rcases hrule.due htk.pred with h | h
    · exact h
    · rw [hv] at h
      cases h
  · intro n hpc
    rcases hs.turns n hpc with h | ⟨h, -⟩ <;> omega

/-- **The loop never sleeps on due work and never hands out work early** in any run in which no
    vsync task is accepted while the counter is one before its wrap to zero. -/
theorem loop_contract (P : SystemParameters) (start : ClockTime) {s : Sys}
    (h : (defaultModeLoop P start).Reachable (CountGuard false 255) s) (clk : PassClock) :
    LoopContract P s clk :=
  (reachable_awake h).contract clk

/-! ## A counter that wrapped -/

/-- A vsync task comes and its owner's events are removed, `n` times. -/
def insertedAndRemoved (n : Nat) : List Op :=
  (List.replicate n
    [insertAt (atMs 1) (vsyncEvent (atMs 1)) .VIP, .remove (.owner (some ⟨1, "1"⟩))]).flatten

/-- The counter has gone once around; one more vsync task comes and `GetEvent` is called. -/
def wrappedCounter : List Op :=
  insertedAndRemoved 255 ++
    [insertAt (atMs 1) (vsyncEvent (atMs 1)) .VIP, .flag .prepare, .getEvent]

/-- Vsync tasks are inserted as `VIP`, with fewer than 128 of them in the queue or handed out. -/
def FewPending (s : Sys) (a : Op) : Prop :=
  vsyncAsVip a = true ∧ s.queue.heldVsync + s.unexecuted < 128

instance (s : Sys) (a : Op) : Decidable (FewPending s a) := inferInstanceAs (Decidable (_ ∧ _))

/-- After 256 insertions and 255 removals the counter is zero with a vsync task in `VIP`: the loop
    waits. -/
theorem loop_sleeps : ¬ ∀ as s clk,
    (defaultModeLoop {} (atMs 0)).Run FewPending (defaultModeLoop {} (atMs 0)).init as s →
    MonotoneClock (as ++ [.pass clk]) → LoopContract {} s clk := by
  intro h
  obtain ⟨s, hs, hp⟩ := System.run_of_exec (defaultModeLoop {} (atMs 0)) FewPending
    (fun s =>
      (s.queue.getEventPass {} (turnAt (atMs 2))).pass =
        .wait ((atMs 1).ns + 4294967295 * MILLISECONDS_TO_NANOSECONDS_RATIO) ∧
      ¬ ∀ e ∈ (s.queue.getEventPass {} (turnAt (atMs 2))).queue.events (some 0), e.isVsync = false)
    wrappedCounter (by decide +kernel)
  have hclock : MonotoneClock (wrappedCounter ++ [.pass (turnAt (atMs 2))]) := by decide +kernel
  exact hp.2 ((h _ s _ hs hclock).wait _ hp.1).2.1

/-- Work comes while the loop thread waits; it wakes up and the turn hands the work out. -/
theorem loop_contract_run : ∃ s : Sys, s.pc = .looping 0 ∧ s.accepted = [0, 1] ∧
    s.queue.sumOfPendingVsync = 1 ∧ LoopContract {} s (turnAt (atMs 3)) := by
  obtain ⟨s, hs, hp⟩ := System.run_of_exec (defaultModeLoop {} (atMs 0)) (CountGuard false 255)
    (fun s => s.pc = .looping 0 ∧ s.accepted = [0, 1] ∧ s.queue.sumOfPendingVsync = 1)
    [.flag .prepare, .getEvent, passAt (atMs 1), insertAt (atMs 2) (plainEvent (atMs 2)) .HIGH,
      insertAt (atMs 2) (vsyncEvent (atMs 2)) .VIP, .wakeUp] (by decide)
  exact ⟨s, hp.1, hp.2.1, hp.2.2, loop_contract {} (atMs 0) ⟨_, hs⟩ (turnAt (atMs 3))⟩

end AppExecFwk
