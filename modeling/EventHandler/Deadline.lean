import EventHandler.Order

/-!
# The deadline of a wait

`GetExpiredEventLocked` computes the earliest handle time of the four sub-queues, whatever the mode;
`TryExecuteObserverCallback` then moves the deadline and `wakeUpTime_` by the time the observer took.

* `earliestHandleTime` — the smallest handle time of the sub-queues, "never" when they are empty.
* `expired_wakeUpTime` — without an event to hand out, `wakeUpTime_` is exactly that time.
* `wait_deadline_iff` — the deadline handed to `WaitUntilLocked` is at most the earliest handle time
  unless the observer took a millisecond or more; `wakeUpTime_` is the deadline in any case.
* `wait_outlasts` — a run in which the observer takes 40 ms and the wait ends 40 ms late.
-/

set_option autoImplicit false

namespace AppExecFwk

open Transition StableList

variable {P : SystemParameters}

namespace EventQueueBase

/-! ## The earliest handle time -/

/-- The handle times in the four sub-queues. -/
def subHandleTimes (q : EventQueueBase) : List Int :=
  subIndices.flatMap fun i => (q.subEventQueues i).queue.map InnerEvent.handleTime

/-- The smallest handle time of the sub-queues, `TimePoint::max()` when they are empty. -/
def earliestHandleTime (q : EventQueueBase) : Int := q.subHandleTimes.foldr min TimePoint.max

theorem le_foldr_min {d m : Int} {ts : List Int} :
    d ≤ ts.foldr min m ↔ d ≤ m ∧ ∀ t ∈ ts, d ≤ t := by
  induction ts with
  | nil => simp
  | cons t ts ih =>
    rw [List.foldr_cons, le_min_iff, ih, List.forall_mem_cons]
    tauto

theorem le_earliest {q : EventQueueBase} {d : Int} :
    d ≤ q.earliestHandleTime ↔
      d ≤ TimePoint.max ∧ ∀ i, ∀ e ∈ q.events (some i), d ≤ e.handleTime := by
  have hmem : ∀ i : SubIndex, i ∈ subIndices := by decide
  unfold earliestHandleTime
  rw [le_foldr_min]
  refine and_congr_right fun _ => ⟨fun h i e he => ?_, fun h t ht => ?_⟩
  · apply h
    exact List.mem_flatMap.2 ⟨i, hmem i, List.mem_map_of_mem he⟩
  · obtain ⟨i, -, ht⟩ := List.mem_flatMap.1 ht
    obtain ⟨e, he, rfl⟩ := List.mem_map.1 ht
    exact h i e he

theorem earliest_congr {q q' : EventQueueBase} (h : SameEvents q q') :
    q'.earliestHandleTime = q.earliestHandleTime := by
  have hle : ∀ d, d ≤ q'.earliestHandleTime ↔ d ≤ q.earliestHandleTime := by
    intro d
    rw [le_earliest, le_earliest]
    simp only [h (some _)]
  exact le_antisymm ((hle _).1 (le_refl _)) ((hle _).2 (le_refl _))

end EventQueueBase

open EventQueueBase

/-! ## The scan does not go below the earliest handle time -/

theorem checkBarrier_lower {now d : Int} : ∀ {events : List InnerEvent} {t : Int},
    d ≤ t → (∀ e ∈ events, d ≤ e.handleTime) →
      d ≤ (checkBarrierTaskInListLocked now events t).2 := by
  intro events
  induction events with
  | nil => exact fun ht _ => ht
  | cons e es ih =>
    intro t ht he
    have hd : d ≤ e.handleTime := he e List.mem_cons_self
    have hnext : d ≤ (if e.handleTime < t then e.handleTime else t) := by
      split <;> omega
    unfold checkBarrierTaskInListLocked
    simp only
    split
    · exact hnext
    · split
      · exact hnext
      · exact ih hnext fun x hx => he x (List.mem_cons_of_mem _ hx)

theorem checkList_lower {b : Bool} {now d t : Int} {events : List InnerEvent} (ht : d ≤ t)
    (he : ∀ e ∈ events, d ≤ e.handleTime) : d ≤ (checkList b events now t).2 := by
  unfold checkList
  split
  · exact checkBarrier_lower ht he
  · unfold checkEventInListLocked
    split
    · exact ht
    · split
      · exact he _ List.mem_cons_self
      · exact ht

theorem pickLoop_lower {b : Bool} {now d : Int} : ∀ {is : List SubIndex} {st : PickLoop},
    d ≤ st.nextWakeUpTime → (∀ i, ∀ e ∈ (st.queue.subEventQueues i).queue, d ≤ e.handleTime) →
      d ≤ (pickLoop b now is st).nextWakeUpTime := by
  intro is
  induction is with
  | nil => exact fun ht _ => ht
  | cons i is ih =>
    intro st ht he
    have hnext : d ≤ (checkList b (st.queue.subEventQueues i).queue now st.nextWakeUpTime).2 :=
      checkList_lower ht (he i)
    rcases pickLoop_cons b now i is st with ⟨-, hl⟩ | ⟨-, p, -, -, hl⟩ | ⟨-, -, hl⟩
    · rw [hl]
      exact ih hnext he
    · rw [hl]
      exact hnext
    · rw [hl]
      exact ih hnext he

namespace EventQueueBase

theorem pickEventLocked_next (q : EventQueueBase) (now next : Int) :
    (q.pickEventLocked now next).nextWakeUpTime = (q.afterLoop now next).nextWakeUpTime := by
  rcases q.pickEventLocked_cases now next with ⟨x, -, -, hp⟩ | ⟨-, -, hp⟩ | ⟨-, r, -, -, hp⟩ <;>
    rw [hp]

/-- With no event to hand out, `wakeUpTime_` is what `PickEventLocked` computed. -/
theorem getExpiredEventLocked_none_next {q : EventQueueBase} {now next : ClockTime} {t : Int}
    (h : (q.getExpiredEventLocked now next t).event = none) :
    (q.getExpiredEventLocked now next t).queue.wakeUpTime =
      (q.afterLoop now.ns TimePoint.max).nextWakeUpTime := by
  rcases q.getExpiredEventLocked_cases now next t with ⟨x, -, hr⟩ | ⟨-, x, -, hr⟩ | ⟨-, -, hr⟩
  · rw [hr] at h
    cases h
  · rw [hr] at h
    cases h
  · rw [hr, ← pickEventLocked_next]
    exact enterIdle_wakeUpTime _ now

/-- **Without an event to hand out `wakeUpTime_` is the earliest handle time.** -/
theorem expired_wakeUpTime {clk : PassClock} {q : EventQueueBase}
    (hs : ∀ i, SortedByHandleTime (q.events (some i))) (h : (q.expired P clk).event = none) :
    (q.expired P clk).queue.wakeUpTime = q.earliestHandleTime := by
  have hnext := getExpiredEventLocked_none_next h
  have hmax : (q.expired P clk).queue.wakeUpTime ≤ TimePoint.max := by
    have hle := (pickEventLocked_none (getExpiredEventLocked_none h).1).2.1
    rw [pickEventLocked_next] at hle
    exact hnext.trans_le hle
  apply le_antisymm
  · exact le_earliest.2 ⟨hmax, fun i => expired_none_wakeUpTime_le h (hs i)⟩
  · obtain ⟨hd, he⟩ := le_earliest.1 (le_refl q.earliestHandleTime)
    have hlower : q.earliestHandleTime ≤
        ((q.checkBarrierMode P clk.check clk.enter).afterLoop clk.now.ns
          TimePoint.max).nextWakeUpTime := by
      apply pickLoop_lower hd
      intro i e hm
      rw [← events_some, q.expired_sameEvents_check P clk (some i)] at hm
      exact he i e hm
    exact hlower.trans_eq hnext.symm

/-! ## The observer -/

/-- The deadline and `wakeUpTime_` after `STAGE_BEFORE_WAITING`. -/
theorem beforeWaiting_deadline (q : EventQueueBase) (consumer : Nat) :
    (q.beforeWaiting consumer q.wakeUpTime).1.wakeUpTime =
        (q.beforeWaiting consumer q.wakeUpTime).2 ∧
      (q.beforeWaiting consumer q.wakeUpTime).2 =
        if q.observer.subscribes STAGE_BEFORE_WAITING = true ∧ q.wakeUpTime < TimePoint.max then
          q.wakeUpTime + consumer * MILLISECONDS_TO_NANOSECONDS_RATIO
        else q.wakeUpTime := by
  unfold beforeWaiting
  split
  · exact ⟨rfl, rfl⟩
  · exact ⟨rfl, rfl⟩

theorem expired_observer (P : SystemParameters) (clk : PassClock) (q : EventQueueBase) :
    (q.expired P clk).queue.observer = q.observer :=
  (getExpiredEventLocked_sameControl _ clk.now clk.next TimePoint.max).observer.trans
    (q.checkBarrierMode_observer P clk.check clk.enter)

/-- A turn that waits: the deadline, `wakeUpTime_` and the lists it leaves. -/
theorem pass_deadline {clk : PassClock} {q : EventQueueBase} {d : Int}
    (hs : ∀ i, SortedByHandleTime (q.events (some i)))
    (h : (q.getEventPass P clk).pass = .wait d) :
    (q.getEventPass P clk).queue.wakeUpTime = d ∧
      SameEvents q (q.getEventPass P clk).queue ∧
      d = if q.observer.subscribes STAGE_BEFORE_WAITING = true ∧
          q.earliestHandleTime < TimePoint.max then
        q.earliestHandleTime + clk.consumer * MILLISECONDS_TO_NANOSECONDS_RATIO
      else q.earliestHandleTime := by
  have hsame : SameEvents q (q.getEventPass P clk).queue := getEventPass_none (by rw [h]; rfl)
  have hx := q.getEventPass_cases P clk
  generalize q.getEventPass P clk = o at h hx hsame
  cases hx with
  | finished _ => cases h
  | expired e _ _ =>
    simp only at h
    split at h <;> cases h
  | lastVsync _ _ _ _ _ => cases h
  | reset _ _ _ _ => cases h
  | wait hf hn h0 =>
    have hsum : (q.checkBarrierMode P clk.check clk.enter).sumOfPendingVsync = 0 := by
      rw [checkBarrierMode_sum, ← q.expired_sum P clk]
      exact h0
    have hnext : (q.expired P clk).nextExpiredTime = (q.expired P clk).queue.wakeUpTime :=
      (getExpiredEventLocked_none hn).2.2.2.2 hsum
    have hwake := expired_wakeUpTime hs hn
    obtain ⟨heq, hd⟩ := (q.expired P clk).queue.beforeWaiting_deadline clk.consumer
    rw [expired_observer, hwake] at hd
    simp only [hnext, hwake] at h heq hsame ⊢
    cases h
    exact ⟨heq, hsame, hd⟩

end EventQueueBase

/-- **A wait never outlasts the earliest event** iff the observer of `STAGE_BEFORE_WAITING`, if there
    is one, took less than a millisecond or the sub-queues hold no event; `wakeUpTime_` equals the
    deadline. -/
theorem wait_deadline_iff (P : SystemParameters) (start : ClockTime) {s : Sys}
    (h : (queueSystem P start).Reachable System.always s) (clk : PassClock) {d : Int}
    (hw : (s.queue.getEventPass P clk).pass = .wait d) :
    (d ≤ (s.queue.getEventPass P clk).queue.earliestHandleTime ∧
        (s.queue.getEventPass P clk).queue.wakeUpTime = d) ↔
      (s.queue.observer.subscribes STAGE_BEFORE_WAITING = false ∨ clk.consumer = 0 ∨
        s.queue.earliestHandleTime = TimePoint.max) := by
  obtain ⟨hwake, hsame, hd⟩ := pass_deadline (fun i => reachable_sorted h (some i)) hw
  have hmax : s.queue.earliestHandleTime ≤ TimePoint.max := (le_earliest.1 (le_refl _)).1
  rw [earliest_congr hsame]
  unfold MILLISECONDS_TO_NANOSECONDS_RATIO at hd
  cases hob : s.queue.observer.subscribes STAGE_BEFORE_WAITING with
  | false =>
    rw [hob, if_neg (by simp)] at hd
    exact iff_of_true ⟨hd.le, hwake⟩ (Or.inl rfl)
  | true =>
    by_cases hlt : s.queue.earliestHandleTime < TimePoint.max
    · rw [hob, if_pos ⟨rfl, hlt⟩] at hd
      constructor
      · rintro ⟨hle, -⟩
        exact Or.inr (Or.inl (by omega))
      · rintro (hn | h0 | h0)
        · cases hn
        · exact ⟨by omega, hwake⟩
        · omega
    · rw [if_neg (fun hc => hlt hc.2)] at hd
      exact iff_of_true ⟨hd.le, hwake⟩ (Or.inr (Or.inr (by omega)))

/-- An event due at 10 ms and an observer of `STAGE_BEFORE_WAITING`; `GetEvent` is called. -/
def observedWait : List Op :=
  [.flag .prepare, .flag (.addObserver ⟨STAGE_BEFORE_WAITING, true⟩),
    insertAt (atMs 1) (plainEvent (atMs 10)) .HIGH, .getEvent]

/-- The observer takes no measurable time. -/
theorem wait_deadline_iff_run : ∃ s : Sys, s.pc = .looping 0 ∧
    s.queue.observer.subscribes STAGE_BEFORE_WAITING = true ∧
    (s.queue.getEventPass {} (turnAt (atMs 2))).pass = .wait (atMs 10).ns ∧
    (atMs 10).ns ≤ (s.queue.getEventPass {} (turnAt (atMs 2))).queue.earliestHandleTime := by
  obtain ⟨s, hs, hp⟩ := System.run_of_exec (queueSystem {} (atMs 0)) System.always
    (fun s => s.pc = .looping 0 ∧ s.queue.observer.subscribes STAGE_BEFORE_WAITING = true ∧
      (s.queue.getEventPass {} (turnAt (atMs 2))).pass = .wait (atMs 10).ns) observedWait (by decide)
  exact ⟨s, hp.1, hp.2.1, hp.2.2,
    ((wait_deadline_iff {} (atMs 0) ⟨_, hs⟩ (turnAt (atMs 2)) hp.2.2).2 (Or.inr (Or.inl rfl))).1⟩

/-- The observer takes 40 ms: the wait for the event at 10 ms ends at 50 ms. -/
theorem wait_outlasts : ¬ ∀ (s : Sys) (clk : PassClock) (d : Int),
    (queueSystem {} (atMs 0)).Reachable System.always s →
    (s.queue.getEventPass {} clk).pass = .wait d →
    d ≤ (s.queue.getEventPass {} clk).queue.earliestHandleTime ∧
      (s.queue.getEventPass {} clk).queue.wakeUpTime = d := by
  intro h
  obtain ⟨s, hs, hp⟩ := System.run_of_exec (queueSystem {} (atMs 0)) System.always
    (fun s => (s.queue.getEventPass {} { turnAt (atMs 2) with consumer := 40 }).pass =
        .wait (atMs 50).ns ∧
      (s.queue.getEventPass {} { turnAt (atMs 2) with consumer := 40 }).queue.earliestHandleTime =
        (atMs 10).ns) observedWait (by decide)
  have hle := (h s { turnAt (atMs 2) with consumer := 40 } _ ⟨_, hs⟩ hp.1).1
  rw [hp.2] at hle
  exact absurd hle (by decide)

end AppExecFwk
