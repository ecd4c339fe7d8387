import EventHandler.SyncWaiter
import EventHandler.Order

/-!
# A runner works off its queue

A loop thread whose runner is not stopped comes to every event that waits in a sub-queue and is due:
each turn of `GetEvent` takes an event or corrects a pending counter without a vsync task, and after
the correction it takes one.

* `Serving` — the queue is not finished, and it is not in barrier mode without a pending vsync task.
* `Awaited` — the event with the given ticket is accepted, and where it still waits, it waits in a
  sub-queue for a time before "never".
* `distance` — what is left to do until all lists are empty.
* `work_step` — as long as the waiter of an awaited event is not notified, a step of the loop thread is enabled and
  brings the state closer.
* `work_off` — so the steps of the loop thread alone notify it.
-/

set_option autoImplicit false

namespace AppExecFwk

open Transition EventQueueBase

/-- The operations that the loop thread makes, in `DefaultModeLoop` and in `NoWaitModeLoop`. -/
def Op.ofLoopThread : Op → Bool
  | .getExpiredEvent _ _ => true
  | .getEvent => true
  | .pass _ => true
  | .wakeUp => true
  | .pollReturn => true
  | .execute => true
  | .release => true
  | _ => false

def SyncOp.ofLoopThread : SyncOp → Bool
  | .queue a => a.ofLoopThread
  | _ => false

/-- The queue hands out due events: it is not finished, and barrier mode has its vsync task. -/
structure Serving (q : EventQueueBase) : Prop where
  running : q.finished = false
  barrier : q.isBarrierMode = true → q.sumOfPendingVsync ≠ 0

/-- Ticket `k` is accepted, and in the lists only a sub-queue has it, with a time that comes. -/
structure Awaited (s : Sys) (k : Nat) : Prop where
  accepted : k ∈ s.accepted
  home : ∀ l, ∀ y ∈ s.queue.events l, y.ticket = k → l ≠ none ∧ y.handleTime < TimePoint.max

/-- What the loop thread relies on while it works the queue off. -/
structure WorkInv (x : SyncState) (k : Nat) : Prop where
  inv : SyncInv x
  sorted : SortedLists x.sys
  serving : Serving x.sys.queue
  awaited : Awaited x.sys k

/-- The last reading of the clock. -/
def ClockTime.latest : ClockTime where
  ns := TimePoint.max - 1
  nonneg := by unfold TimePoint.max INT64_MAX; omega
  lt_max := by omega

/-- How far the loop thread is from its next event. -/
def Sys.phase (s : Sys) : Nat :=
  match s.pc with
  | .outside => if s.current.isSome then 4 else 3
  | .looping _ => if s.queue.sumOfPendingVsync = 0 then 1 else 2
  | .waiting _ => 3
  | .polling _ _ => 5

/-- What is left to do until all lists are empty. -/
def Sys.distance (s : Sys) : Nat := 8 * s.queue.allEvents.length + s.phase

variable {P : SystemParameters}

theorem phase_looping_le {s : Sys} {n : Nat} (h : s.pc = .looping n) : s.phase ≤ 2 := by
  unfold Sys.phase
  rw [h]
  simp only
  split <;> omega

theorem phase_le (s : Sys) : s.phase ≤ 5 := by
  unfold Sys.phase
  split
  · split <;> omega
  · split <;> omega
  · omega
  · omega

/-! ## What the steps of the loop thread keep -/

theorem Awaited.step {s t : Sys} {a : Op} {k : Nat} (h : Awaited s k) (hl : Ledger s)
    (he : ListEffect s a t) : Awaited t k := by
  have hk := hl.below k h.accepted
  refine ⟨?_, fun l y hy hyk => ?_⟩
  · cases he with
    | same _ ha => rw [ha]; exact h.accepted
    | unstored _ _ ha => rw [ha]; exact List.mem_append_left _ h.accepted
    | inserted _ _ _ _ _ _ ha => rw [ha]; exact List.mem_append_left _ h.accepted
    | discarded _ _ _ ha => rw [ha]; exact h.accepted
    | taken _ _ _ _ _ _ _ ha => rw [ha]; exact h.accepted
  · rcases he.mem hy with hy | ⟨hy, -, -⟩
    · exact h.home l y hy hyk
    · omega

/-- `CheckBarrierMode` keeps the queue serving. -/
theorem Serving.check {q q' : EventQueueBase} (h : Serving q) {now enter : ClockTime}
    (hf : q'.finished = q.finished) (hc : SameControl (q.checkBarrierMode P now enter) q') :
    Serving q' := by
  refine ⟨by rw [hf]; exact h.running, fun hb => ?_⟩
  rw [hc.isBarrierMode] at hb
  rw [hc.sum, checkBarrierMode_sum]
  exact (checkBarrierMode_barrier hb).elim h.barrier id

theorem Serving.pass {q : EventQueueBase} (h : Serving q) (clk : PassClock) :
    Serving (q.getEventPass P clk).queue := by
  have hf := (q.getEventPass_frame P clk).finished
  have hexp : SameControl (q.checkBarrierMode P clk.check clk.enter) (q.expired P clk).queue :=
    getExpiredEventLocked_sameControl _ clk.now clk.next TimePoint.max
  have hx := q.getEventPass_cases P clk
  generalize q.getEventPass P clk = o at hf hx
  cases hx with
  | finished _ => exact h
  | expired e _ _ => exact h.check hf hexp
  | lastVsync e _ _ _ _ => exact h.check hf (hexp.trans (pickFirstVsync_frame _).sameControl)
  | reset _ _ _ _ => exact ⟨by rw [hf]; exact h.running, fun hb => by cases hb⟩
  | wait _ _ _ => exact h.check hf (hexp.trans (beforeWaiting_sameControl _ _ _))

/-- **The steps of the loop thread keep the queue serving.** -/
theorem Serving.step {s t : Sys} {a : Op} (h : Serving s.queue) (ha : a.ofLoopThread = true)
    (hst : s.step P a = some t) : Serving t.queue := by
  have expired : ∀ now next, Serving (s.queue.getExpiredEventLocked now next TimePoint.max).queue := by
    intro now next
    have hc := getExpiredEventLocked_sameControl s.queue now next TimePoint.max
    refine ⟨?_, fun hb => ?_⟩
    · unfold SameControl at hc
      rw [hc]
      exact h.running
    · rw [hc.sum]
      exact h.barrier (hc.isBarrierMode ▸ hb)
  cases step_cases hst with
  | expiredEvent now next e _ _ => exact expired now next
  | expiredNone now next _ _ => exact expired now next
  | getEvent _ => exact h
  | pass clk n _ =>
    rw [afterPass_queue]
    exact h.pass clk
  | wakeUp d _ => exact ⟨h.running, h.barrier⟩
  | pollReturn e need _ =>
    show Serving (s.queue.afterPoll need)
    rw [afterPoll_eq]
    exact ⟨h.running, h.barrier⟩
  | execute e _ =>
    unfold Sys.runTask
    split
    · exact ⟨h.running, fun hb => by cases hb⟩
    · exact h
  | release e _ => exact h
  | _ => cases ha

/-- The steps of the loop thread keep what it relies on. -/
theorem WorkInv.step {x : SyncState} {k : Nat} {a : Op} {t : Sys} (h : WorkInv x k)
    (ha : a.ofLoopThread = true) (hg : asksWhenDone x.sys a = true) (hst : x.sys.step P a = some t) :
    WorkInv { x with sys := t, waiters := x.waiters.drop (dropped x.sys a) } k := by
  have he := step_listEffect hst
  refine ⟨syncInv_queue h.inv ?_ hg hst, sorted_step h.sorted he, h.serving.step ha hst,
    h.awaited.step h.inv.ledger he⟩
  intro hs
  cases a with
  | insert => cases ha
  | _ => exact hs

/-! ## One step closer -/

/-- An awaited event that is neither in hand nor notified stands in a sub-queue. -/
theorem WorkInv.queued {x : SyncState} {k : Nat} (h : WorkInv x k)
    (hf : ¬ x.waiters.notified k = true) (hh : ¬ InHand x.sys k) :
    ∃ i, ∃ y ∈ x.sys.queue.events (some i), y.ticket = k ∧ y.handleTime < TimePoint.max := by
  have hr : k ∉ x.sys.returned := fun hr => (h.inv.handed k hr).elim hh hf
  have hd : k ∉ x.sys.discarded := fun hd => hf (h.inv.removed k hd)
  have hone := h.inv.ledger.account k
  rw [List.count_eq_zero.2 hr, List.count_eq_zero.2 hd,
    List.count_eq_one_of_mem h.inv.ledger.nodup h.awaited.accepted] at hone
  have hmem : k ∈ x.sys.queue.tickets := List.count_pos_iff.1 (by omega)
  obtain ⟨y, hy, hyk⟩ := List.mem_map.1 hmem
  rw [allEvents_eq, List.mem_flatMap] at hy
  obtain ⟨l, -, hy⟩ := hy
  obtain ⟨hl, hlt⟩ := h.awaited.home l y hy hyk
  cases l with
  | none => exact absurd rfl hl
  | some i => exact ⟨i, y, hy, hyk, hlt⟩

/-- An event taken from the lists is one event less in them. -/
theorem allEvents_length_take {q q' : EventQueueBase} {p : InnerEvent → Bool}
    {l : Option SubIndex} {e : InnerEvent} (h : Takes p l e q q') :
    q.allEvents.length = q'.allEvents.length + 1 := by
  rw [(allEvents_take h).length_eq, List.length_cons]

/-- **A turn of the loop, with an event due, takes an event or corrects the counter.** -/
theorem pass_closer {s : Sys} {n : Nat} (hpc : s.pc = .looping n) (hs : SortedLists s)
    (hserve : Serving s.queue) {i : SubIndex} {y : InnerEvent}
    (hy : y ∈ s.queue.events (some i)) (hlt : y.handleTime < TimePoint.max) :
    (s.afterPass n (s.queue.getEventPass P (turnAt .latest))).distance < s.distance := by
  have hphase := phase_looping_le hpc
  have hsome := @getEventPass_some P (turnAt .latest) s.queue
  have hnone := @getEventPass_none P (turnAt .latest) s.queue
  have hsum := s.queue.expired_sum P (turnAt .latest)
  have hx := s.queue.getEventPass_cases P (turnAt .latest)
  generalize s.queue.getEventPass P (turnAt .latest) = o at hsome hnone hx
  -- A turn that takes an event shortens the lists by one, which outweighs the phase.
  have taken : ∀ (u : Sys) (e : InnerEvent), o.pass.event = some e → u.queue = o.queue →
      u.distance < s.distance := by
    intro u e he hu
    obtain ⟨p, l, -, htk⟩ := hsome he
    have hlen := allEvents_length_take htk
    have hu5 := phase_le u
    unfold Sys.distance
    rw [hu]
    omega
  cases hx with
  | finished hf =>
    rw [hserve.running] at hf
    cases hf
  | expired e _ he =>
    refine taken _ e ?_ (afterPass_queue s n _)
    simp only
    split <;> rfl
  | lastVsync e _ _ _ _ => exact taken _ e rfl (afterPass_queue s n _)
  | reset _ hn hp _ =>
    have hlen := congrArg List.length (allEvents_same (hnone rfl))
    have h2 : s.phase = 2 := by
      unfold Sys.phase
      rw [hpc]
      simp only
      rw [if_neg (by rw [← hsum]; exact hp)]
    show 8 * List.length _ + 1 < _
    unfold Sys.distance
    rw [afterPass_queue, hlen, h2]
    omega
  | wait _ hn hp =>
    -- Nothing expired although `y` is due: only barrier mode without a vsync task does that.
    have hle := expired_none_wakeUpTime_le hn (hs (some i)) y hy
    have hb : (s.queue.checkBarrierMode P (turnAt .latest).check
        (turnAt .latest).enter).isBarrierMode = false := by
      rw [← Bool.not_eq_true]
      intro hb
      rw [hsum] at hp
      exact (checkBarrierMode_barrier hb).elim (fun h => hserve.barrier h hp) (fun h => h hp)
    have hnow := (getExpiredEventLocked_none hn).2.2.2.1 hb
    have hlast : (turnAt .latest).now.ns = TimePoint.max - 1 := rfl
    rw [hlast] at hnow
    unfold EventQueueBase.expired at hle
    omega

/-- **Until the waiter of an awaited event is notified, a step of the loop thread brings the state
    closer.** -/
theorem work_step {x : SyncState} {k : Nat} (h : WorkInv x k)
    (hf : ¬ x.waiters.notified k = true) :
    ∃ a t, a.ofLoopThread = true ∧ asksWhenDone x.sys a = true ∧ x.sys.step P a = some t ∧
      t.distance < x.sys.distance := by
  cases hpc : x.sys.pc with
  | outside =>
    cases hc : x.sys.current with
    | some e =>
      refine ⟨.execute, x.sys.runTask e, rfl, rfl, by simp only [Sys.step, hc], ?_⟩
      have hl : (x.sys.runTask e).queue.allEvents = x.sys.queue.allEvents :=
        allEvents_same (runTask_sameLists x.sys e).sameEvents
      have hp : (x.sys.runTask e).phase = 3 := by
        have hpc' : (x.sys.runTask e).pc = .outside := by
          unfold Sys.runTask
          split <;> exact hpc
        have hc' : (x.sys.runTask e).current = none := by
          unfold Sys.runTask
          split <;> rfl
        unfold Sys.phase
        rw [hpc', hc']
        rfl
      have hp' : x.sys.phase = 4 := by
        unfold Sys.phase
        rw [hpc, hc]
        rfl
      unfold Sys.distance
      rw [hl, hp, hp']
      omega
    | none =>
      refine ⟨.getEvent, { x.sys with pc := .looping 0 }, rfl, by simp [asksWhenDone, hc],
        by simp only [Sys.step, hpc], ?_⟩
      have hp : x.sys.phase = 3 := by
        unfold Sys.phase
        rw [hpc, hc]
        rfl
      have hp' := phase_looping_le (s := { x.sys with pc := .looping 0 }) rfl
      unfold Sys.distance
      rw [hp]
      simp only at hp' ⊢
      omega
  | looping n =>
    have hc : x.sys.current = none := h.inv.quiet (by rw [hpc]; simp)
    have hh : ¬ InHand x.sys k := by
      rintro (⟨e, he, -⟩ | ⟨e, need, he, -⟩)
      · rw [hc] at he
        cases he
      · rw [hpc] at he
        cases he
    obtain ⟨i, y, hy, -, hlt⟩ := h.queued hf hh
    exact ⟨.pass (turnAt .latest), x.sys.afterPass n (x.sys.queue.getEventPass P (turnAt .latest)),
      rfl, rfl, by simp only [Sys.step, hpc], pass_closer hpc h.sorted h.serving hy hlt⟩
  | waiting d =>
    refine ⟨.wakeUp, { x.sys with queue := x.sys.queue.afterWait, pc := .looping 0 }, rfl, rfl,
      by simp only [Sys.step, hpc], ?_⟩
    have hl : x.sys.queue.afterWait.allEvents = x.sys.queue.allEvents :=
      allEvents_same (afterWait_sameLists x.sys.queue).sameEvents
    have hp : x.sys.phase = 3 := by
      unfold Sys.phase
      rw [hpc]
    have hp' := phase_looping_le
      (s := { x.sys with queue := x.sys.queue.afterWait, pc := .looping 0 }) rfl
    unfold Sys.distance
    simp only at hp' ⊢
    rw [hl, hp]
    omega
  | polling e need =>
    refine ⟨.pollReturn, { x.sys with
      queue := x.sys.queue.afterPoll need, pc := .outside, current := some e }, rfl, rfl,
      by simp only [Sys.step, hpc], ?_⟩
    have hl : (x.sys.queue.afterPoll need).allEvents = x.sys.queue.allEvents :=
      allEvents_same (afterPoll_sameLists need x.sys.queue).sameEvents
    have hp : x.sys.phase = 5 := by
      unfold Sys.phase
      rw [hpc]
    unfold Sys.distance
    simp only
    rw [hl, hp]
    show 8 * _ + 4 < _
    omega

/-- **The steps of the loop thread alone notify the waiter of an awaited event.** -/
theorem work_off (start : ClockTime) {k : Nat} : ∀ (n : Nat) (x : SyncState), WorkInv x k →
    x.sys.distance ≤ n →
    ∃ as y, (syncSystem P start).Run (fun _ a => a.ofLoopThread = true) x as y ∧ WorkInv y k ∧
      y.waiters.notified k = true := by
  intro n
  induction n with
  | zero =>
    intro x h hn
    by_cases hf : x.waiters.notified k = true
    · exact ⟨[], x, .nil x, h, hf⟩
    · obtain ⟨a, t, -, -, -, hlt⟩ := work_step (P := P) h hf
      omega
  | succ n ih =>
    intro x h hn
    by_cases hf : x.waiters.notified k = true
    · exact ⟨[], x, .nil x, h, hf⟩
    · obtain ⟨a, t, ha, hg, hst, hlt⟩ := work_step (P := P) h hf
      obtain ⟨as, y, hrun, hy, hfy⟩ := ih _ (h.step ha hg hst) (by simp only; omega)
      refine ⟨.queue a :: as, y, .cons ha ?_ hrun, hy, hfy⟩
      show SyncState.step P x (.queue a) = _
      simp only [SyncState.step, hg, hst, if_true, Option.map_some]

end AppExecFwk
