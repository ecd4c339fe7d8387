import EventHandler.PreemptHint
import EventHandler.FrontCache

/-!
# Priorities as indices

`subEventQueues_` has four entries and `PENDING_JOB_TIMEOUT` three.  `HasPendingHigherEvent` and
`HasPreferEvent` index them with their arguments, or with the priority of the event the thread is
handling; `GetExpiredEventLocked` indexes with the priority of the event it takes.

* `hasPreferEvent` — the loop of `HasPreferEvent`; an index outside `subEventQueues_` has no result.
* `pendingPriority`, `IndexesPending` — the priority that `HasPendingHigherEvent` judges by, and when
  its loop stays inside both tables.
* `PicksHome` — the priority of an event that is taken names the sub-queue it is taken from.
* `priorityIndices_iff` — which calls keep to the tables, in every state; and every reachable queue
  picks home.
-/

set_option autoImplicit false

namespace AppExecFwk

open Transition EventQueueBase

variable {P : SystemParameters} {T : PendingHigherEvent} {q : EventQueueBase}

/-! ## HasPreferEvent -/

namespace EventQueueBase

/-- The loop of `HasPreferEvent` with `n` rounds left. -/
def preferLoop (q : EventQueueBase) (prio : Nat) : Nat → Option Bool
  | 0 => some false
  | n + 1 =>
    (priorityToIndex prio).bind fun i =>
      if 0 < (q.subEventQueues i).queue.length then some true else preferLoop q (prio + 1) n

/-- `HasPreferEvent`. -/
def hasPreferEvent (q : EventQueueBase) (basePrio : Int) : Option Bool :=
  q.preferLoop 0 basePrio.toNat

end EventQueueBase

theorem priorityToIndex_some {n : Nat} (h : n < 4) : priorityToIndex n = some ⟨n, h⟩ :=
  priorityToIndex_val ⟨n, h⟩

theorem priorityToIndex_none {n : Int} (h : 4 ≤ n) : priorityToIndex n = none := by
  unfold priorityToIndex
  rw [dif_neg]
  omega

/-- Rounds that end inside the table. -/
theorem preferLoop_inside : ∀ {n prio : Nat}, prio + n ≤ 4 → (q.preferLoop prio n).isSome = true := by
  intro n
  induction n with
  | zero => exact fun _ => rfl
  | succ n ih =>
    intro prio h
    unfold preferLoop
    rw [priorityToIndex_some (by omega), Option.bind_some]
    split
    · rfl
    · exact ih (by omega)

/-- Rounds that would leave the table are stopped by a list with an event only. -/
theorem preferLoop_outside : ∀ {n prio : Nat}, prio ≤ 4 → 4 < prio + n →
    ((q.preferLoop prio n).isSome = true ↔
      ∃ i : SubIndex, prio ≤ i.val ∧ (q.subEventQueues i).queue ≠ []) := by
  intro n
  induction n with
  | zero => intro prio h h'; omega
  | succ n ih =>
    intro prio h h'
    unfold preferLoop
    by_cases hp : prio < 4
    · rw [priorityToIndex_some hp, Option.bind_some]
      split
      · rename_i hlen
        exact iff_of_true rfl ⟨⟨prio, hp⟩, le_rfl, List.ne_nil_of_length_pos hlen⟩
      · rename_i hlen
        have hnil : (q.subEventQueues ⟨prio, hp⟩).queue = [] := List.length_eq_zero_iff.1 (by omega)
        rw [ih (by omega) (by omega)]
        constructor
        · rintro ⟨i, hi, hne⟩
          exact ⟨i, by omega, hne⟩
        · rintro ⟨i, hi, hne⟩
          have hik : i ≠ ⟨prio, hp⟩ := fun heq => hne (heq ▸ hnil)
          have hval : i.val ≠ prio := fun heq => hik (Fin.ext heq)
          exact ⟨i, by omega, hne⟩
    · rw [priorityToIndex_none (by omega), Option.bind_none]
      refine iff_of_false (by simp) ?_
      rintro ⟨i, hi, -⟩
      omega

/-- **`HasPreferEvent` keeps to the table for a priority up to `IDLE`, and otherwise exactly when a
    sub-queue holds an event.** -/
theorem hasPreferEvent_isSome (basePrio : Int) : (q.hasPreferEvent basePrio).isSome = true ↔
    basePrio ≤ Priority.toInt32 .IDLE ∨ ∃ i, (q.subEventQueues i).queue ≠ [] := by
  have hidle : Priority.toInt32 .IDLE = 4 := rfl
  unfold EventQueueBase.hasPreferEvent
  rw [hidle]
  by_cases hb : basePrio ≤ 4
  · exact iff_of_true (preferLoop_inside (by omega)) (Or.inl hb)
  · rw [preferLoop_outside (by omega) (by omega)]
    simp [hb]

/-! ## HasPendingHigherEvent -/

/-- The priority that `HasPendingHigherEvent` judges by. -/
def pendingPriority (currentEventPriority priority : Int) : Int :=
  if priority < Priority.toInt32 .VIP ∨ priority > Priority.toInt32 .IDLE then currentEventPriority
  else priority

/-- The loop reads no sub-queue, or reads below the priority of idle events. -/
def IndexesPending (q : EventQueueBase) (priority : Int) (onlyCheckVsync : Bool) : Prop :=
  priority ≤ Priority.toInt32 .IDLE ∨ onlyCheckVsync = true ∨ q.isBarrierMode = true

/-- The sub-queue is read unless the call asks for vsync only or the queue is in barrier mode. -/
theorem getQueueFirst_isSome (now : Nat) (i : Nat) (onlyCheckVsync : Bool) :
    (q.getQueueFirstEventHandleTime P now i onlyCheckVsync).isSome = true ↔
      i < 4 ∨ onlyCheckVsync = true ∨ q.isBarrierMode = true := by
  unfold getQueueFirstEventHandleTime hintInvalid
  cases onlyCheckVsync with
  | true =>
    simp only [if_true, Option.map_some, or_true, true_or, iff_true]
    split <;> rfl
  | false =>
    cases hb : q.isBarrierMode with
    | true => simp
    | false =>
      simp only [Bool.false_eq_true, if_false, Option.isSome_map, or_false]
      by_cases hi : i < 4
      · rw [priorityToIndex_some hi]
        exact iff_of_true rfl hi
      · rw [priorityToIndex_none (by omega)]
        exact iff_of_false Bool.false_ne_true hi

/-- Without reading a sub-queue only the VIP index can have a time. -/
theorem getQueueFirst_unread (P : SystemParameters) (now : Nat) {i : Nat} {onlyCheckVsync : Bool}
    (h : onlyCheckVsync = true ∨ q.isBarrierMode = true) (hi : i ≠ 0) :
    q.getQueueFirstEventHandleTime P now i onlyCheckVsync = some UINT64_MAX := by
  have hvip : ¬ ((i : Int) = Priority.toInt32 .VIP) := fun heq => hi (Int.natCast_eq_zero.1 heq)
  unfold getQueueFirstEventHandleTime hintInvalid
  rcases h with rfl | hb
  · simp only [if_true, Option.map_some, if_neg hvip, ite_self]
  · simp [hb]

/-- Below the priority of idle events each round keeps to both tables; above it a round reads no
    sub-queue, and gets to the table of timeouts for VIP only. -/
theorem pendingHigherLoop_inside {priority : Int} {onlyCheckVsync : Bool} {now : Nat} :
    ∀ {n : Nat}, (n : Int) ≤ priority → IndexesPending q priority onlyCheckVsync →
      (pendingHigherLoop P T q priority onlyCheckVsync now n).isSome = true := by
  have hidle : Priority.toInt32 .IDLE = 4 := rfl
  intro n
  induction n with
  | zero => exact fun _ _ => rfl
  | succ i ih =>
    intro hn hin
    unfold IndexesPending at hin
    rw [hidle] at hin
    have hread : (q.getQueueFirstEventHandleTime P now i onlyCheckVsync).isSome = true := by
      rw [getQueueFirst_isSome]
      exact hin.imp_left fun hle => by omega
    obtain ⟨time, htime⟩ := Option.isSome_iff_exists.1 hread
    unfold pendingHigherLoop
    rw [htime, Option.bind_some]
    split
    · exact ih (by omega) hin
    · rename_i hmax
      split
      · rfl
      · rename_i hprio
        have hi : i < T.PENDING_JOB_TIMEOUT.length := by
          have hlen : T.PENDING_JOB_TIMEOUT.length = 3 := rfl
          rw [hlen]
          by_contra hge
          rcases hin with hle | hunread
          · omega
          · have hne : i ≠ 0 := by omega
            have hnone := getQueueFirst_unread P now hunread hne
            rw [htime] at hnone
            exact hmax (Option.some.inj hnone)
        rw [List.getElem?_eq_getElem hi, Option.bind_some]
        split
        · rfl
        · exact ih (by omega) hin

/-- The first round above the priority of idle events leaves the sub-queues. -/
theorem pendingHigherLoop_outside {priority : Int} {onlyCheckVsync : Bool} {now n : Nat} (hn : 4 < n)
    (h : ¬ (onlyCheckVsync = true ∨ q.isBarrierMode = true)) :
    pendingHigherLoop P T q priority onlyCheckVsync now n = none := by
  obtain ⟨i, rfl⟩ : ∃ i, n = i + 1 := ⟨n - 1, by omega⟩
  have hread : q.getQueueFirstEventHandleTime P now i onlyCheckVsync = none := by
    rw [← Option.not_isSome_iff_eq_none, getQueueFirst_isSome]
    rintro (hi | hunread)
    · omega
    · exact h hunread
  unfold pendingHigherLoop
  rw [hread, Option.bind_none]

/-- **`HasPendingHigherEvent` keeps to both tables exactly for a priority up to `IDLE`, asked for vsync
    only, or in barrier mode.** -/
theorem hasPendingHigherEvent_isSome (currentEventPriority priority : Int) (now : ClockTime)
    (onlyCheckVsync : Bool) :
    (hasPendingHigherEvent P T currentEventPriority (some q) now priority onlyCheckVsync).isSome =
        true ↔
      IndexesPending q (pendingPriority currentEventPriority priority) onlyCheckVsync := by
  have hvip : Priority.toInt32 .VIP = 0 := rfl
  have hidle : Priority.toInt32 .IDLE = 4 := rfl
  have hcall : hasPendingHigherEvent P T currentEventPriority (some q) now priority onlyCheckVsync =
      if pendingPriority currentEventPriority priority ≤ Priority.toInt32 .VIP then some false
      else pendingHigherLoop P T q (pendingPriority currentEventPriority priority) onlyCheckVsync
        (toUInt64 now.ns) (pendingPriority currentEventPriority priority).toNat := rfl
  rw [hcall]
  generalize pendingPriority currentEventPriority priority = p
  by_cases hp : p ≤ Priority.toInt32 .VIP
  · rw [if_pos hp]
    exact iff_of_true rfl (Or.inl (by omega))
  · rw [if_neg hp]
    by_cases hin : IndexesPending q p onlyCheckVsync
    · exact iff_of_true (pendingHigherLoop_inside (by omega) hin) hin
    · refine iff_of_false ?_ hin
      unfold IndexesPending at hin
      rw [not_or] at hin
      rw [pendingHigherLoop_outside (by omega) hin.2]
      exact Bool.false_ne_true

/-! ## GetExpiredEventLocked -/

/-- An event that `PickEventLocked` takes comes from the sub-queue its priority names. -/
def PicksHome (q : EventQueueBase) : Prop :=
  ∀ now next e, (q.pickEventLocked now next).event = some e →
    ∃ i p, Takes p (some i) e q (q.pickEventLocked now next).queue ∧
      priorityToIndex e.priority = some i

theorem PriorityHome.picksHome (h : PriorityHome q) : PicksHome q := by
  intro now next e he
  obtain ⟨p, i, -, htk⟩ := pickEventLocked_some he
  refine ⟨i, p, htk, ?_⟩
  rw [h i e htk.mem]
  exact priorityToIndex_val i

theorem PriorityHome.of_sameLists {q' : EventQueueBase} (h : PriorityHome q) (hs : SameLists q q') :
    PriorityHome q' := by
  intro i e he
  rw [hs.events] at he
  exact h i e he

theorem reachable_priorityHome {start : ClockTime} {s : Sys}
    (h : (queueSystem P start).Reachable System.always s) : PriorityHome s.queue := by
  apply h.invariant (I := fun s => PriorityHome s.queue)
  · intro i e he
    cases he
  · exact fun s a t hs _ hst => priorityHome_step hs (step_listEffect hst)

/-! ## The indices -/

/-- **Every call of `HasPendingHigherEvent` and `HasPreferEvent` keeps to the tables exactly under its
    condition, in every state of the queue; and in every reachable one the events of a sub-queue carry
    its priority**, so that an event is taken from the sub-queue its priority names, by
    `GetExpiredEvent` and, behind `CheckBarrierMode`, by `GetEvent`. -/
theorem priorityIndices_iff (P : SystemParameters) (T : PendingHigherEvent) (start : ClockTime)
    {s : Sys} (hs : (queueSystem P start).Reachable System.always s) (q : EventQueueBase)
    (currentEventPriority priority basePrio : Int32) (now : ClockTime) (onlyCheckVsync : Bool) :
    ((hasPendingHigherEvent P T currentEventPriority.toInt (some q) now priority.toInt
        onlyCheckVsync).isSome = true ↔
      IndexesPending q (pendingPriority currentEventPriority.toInt priority.toInt) onlyCheckVsync) ∧
    ((q.hasPreferEvent basePrio.toInt).isSome = true ↔
      basePrio.toInt ≤ Priority.toInt32 .IDLE ∨ ∃ i, (q.subEventQueues i).queue ≠ []) ∧
    PriorityHome s.queue ∧ PicksHome s.queue ∧
      ∀ check enter, PicksHome (s.queue.checkBarrierMode P check enter) := by
  have hhome := reachable_priorityHome hs
  refine ⟨hasPendingHigherEvent_isSome _ _ now onlyCheckVsync, hasPreferEvent_isSome _, hhome,
    hhome.picksHome, fun check enter => ?_⟩
  exact (hhome.of_sameLists (s.queue.sameLists_checkBarrierMode P check enter)).picksHome

/-- An event of priority `HIGH` is in the sub-queue of that index. -/
theorem priorityIndices_iff_run : ∃ s : Sys,
    (∃ e ∈ s.queue.events (some 2), e.priority = 2) ∧ PriorityHome s.queue := by
  obtain ⟨s, hrun, hs⟩ := System.run_of_exec (queueSystem {} (atMs 0)) System.always
    (fun s => (s.queue.events (some 2)).map InnerEvent.priority = [2])
    [insertAt (atMs 1) (plainEvent (atMs 1)) .HIGH] (by decide)
  have hhome := (priorityIndices_iff {} {} (atMs 0) ⟨_, hrun⟩ s.queue 0 0 0 (atMs 1) false).2.2.1
  have hmem : 2 ∈ (s.queue.events (some 2)).map InnerEvent.priority := by
    rw [hs]
    exact List.mem_singleton_self 2
  obtain ⟨e, he, hp⟩ := List.mem_map.1 hmem
  exact ⟨s, ⟨e, he, hp⟩, hhome⟩

/-- An empty queue is asked for events above a priority of 5. -/
theorem preferEvent_outside : ¬ ∀ (P : SystemParameters) (T : PendingHigherEvent) (q : EventQueueBase)
    (currentEventPriority priority basePrio : Int32) (now : ClockTime) (onlyCheckVsync : Bool),
    (hasPendingHigherEvent P T currentEventPriority.toInt (some q) now priority.toInt
        onlyCheckVsync).isSome = true ∧
      (q.hasPreferEvent basePrio.toInt).isSome = true := by
  intro h
  have hq := (h {} {} (EventQueueBase.create 0) 0 0 5 (atMs 1) false).2
  exact absurd hq (by decide)

end AppExecFwk
