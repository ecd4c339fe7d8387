import EventHandler.Order
import EventHandler.Ready
import EventHandler.FrontCache

/-!
# The choice of the idle event

Outside barrier mode `GetExpiredEventLocked` looks at the front of `idleEvents_` only.  The list is
in the order of handle times, while an idle event also has to be sent by the time idle mode was
entered, so a front event that was sent later hides the ones behind it.

* `idleEligible` — sent by the time stamp and due.
* `reachable_idleHome` — the events of `idleEvents_` carry the priority `IDLE`, and no others do.
* `expired_idle` — what a call returns from `idleEvents_`.
* `idle_choice_iff` — the call returns the first eligible event if and only if no event sent after the
  time stamp stands in front of it; `idle_choice_hidden` — one that does.
-/

set_option autoImplicit false

namespace AppExecFwk

open Transition EventQueueBase StableList

variable {P : SystemParameters} {s t : Sys}

/-- The condition `GetExpiredEventLocked` puts on an idle event. -/
def idleEligible (stamp now : Int) (e : InnerEvent) : Bool :=
  decide (e.sendTime ≤ stamp) && decide (e.handleTime ≤ now)

/-- An event with the priority `IDLE` is returned. -/
def ReturnsIdle (r : ExpiredOutcome) (e : InnerEvent) : Prop :=
  r.event = some e ∧ e.priority = Priority.IDLE.toInt32

/-! ## Priorities -/

/-- The events of `idleEvents_` have the priority `IDLE`. -/
def IdleHome (q : EventQueueBase) : Prop :=
  ∀ e ∈ q.events none, e.priority = Priority.IDLE.toInt32

theorem StoredBy.idle {a : Op} {e : InnerEvent} {ty : EventInsertType}
    (h : StoredBy s a none e ty) : e.priority = Priority.IDLE.toInt32 := by
  obtain ⟨p, now, recv, event, priority, option, -, hk, -, rfl⟩ := h
  have hidle : priority = .IDLE := by
    unfold Priority.slot at hk
    split at hk
    · cases hk
    · split at hk
      · assumption
      · cases hk
  rw [hidle]
  rfl

theorem idleHome_step {a : Op} (hs : IdleHome s.queue) (h : ListEffect s a t) : IdleHome t.queue := by
  intro e he
  cases h with
  | same h =>
    rw [h none] at he
    exact hs e he
  | unstored _ h =>
    rw [h none] at he
    exact hs e he
  | inserted k x ty hsrc hk hl =>
    by_cases hn : k = none
    · subst hn
      rw [hk] at he
      rcases mem_insertEventsLocked.1 he with rfl | he
      · obtain ⟨u, -, hu⟩ := storedEvent_eq (s.queue.events none) x ty
        rw [hu]
        exact hsrc.idle
      · exact hs e he
    · rw [hl none (Ne.symm hn)] at he
      exact hs e he
  | discarded filter _ h =>
    rw [h.events none] at he
    exact hs e (List.mem_of_mem_filter he)
  | taken q now x p k hrule h => exact hs e ((h.sublist none).subset he)

theorem reachable_idleHome {start : ClockTime} {ok : Sys → Op → Prop}
    (h : (queueSystem P start).Reachable ok s) : IdleHome s.queue := by
  apply h.invariant (I := fun s => IdleHome s.queue)
  · exact fun e he => absurd he List.not_mem_nil
  · intro s a t hs _ hst
    exact idleHome_step hs (step_listEffect hst)

/-- The priority of an event says whether it lies in `idleEvents_`. -/
structure Homes (q : EventQueueBase) : Prop where
  sub : PriorityHome q
  idle : IdleHome q
  sorted : SortedByHandleTime (q.events none)

theorem reachable_homes {start : ClockTime} {ok : Sys → Op → Prop}
    (h : (queueSystem P start).Reachable ok s) : Homes s.queue := by
  refine ⟨?_, reachable_idleHome h, reachable_sorted h none⟩
  apply h.invariant (I := fun s => PriorityHome s.queue)
  · exact fun i e he => absurd he List.not_mem_nil
  · intro s a t hs _ hst
    exact priorityHome_step hs (step_listEffect hst)

theorem Homes.congr {q q' : EventQueueBase} (h : Homes q) (hs : SameEvents q q') : Homes q' where
  sub i e he := h.sub i e (hs (some i) ▸ he)
  idle e he := h.idle e (hs none ▸ he)
  sorted := by
    rw [hs none]
    exact h.sorted

namespace EventQueueBase

/-! ## The idle pick outside barrier mode -/

/-- The front event, if it is eligible. -/
theorem pickIdle_front {q : EventQueueBase} (hb : q.isBarrierMode = false) (now : ClockTime) :
    (q.pickIdle now).1 = q.idleEvents.head?.filter (idleEligible q.idleTimeStamp now.ns) := by
  unfold pickIdle
  rw [hb]
  cases q.idleEvents with
  | nil => rfl
  | cons e es =>
    have hfilter : Option.filter (idleEligible q.idleTimeStamp now.ns) (some e) =
        if e.sendTime ≤ q.idleTimeStamp ∧ e.handleTime ≤ now.ns then some e else none := by
      rw [Option.filter_some]
      simp [idleEligible]
    rw [List.head?_cons, hfilter]
    by_cases he : e.sendTime ≤ q.idleTimeStamp ∧ e.handleTime ≤ now.ns
    · simp [he, popFrontEventFromListLocked]
    · simp [he]

/-- The time stamp after a call that picked nothing from the sub-queues. -/
theorem expired_idleTimeStamp {q : EventQueueBase} {now : ClockTime}
    (hn : (q.pickEventLocked now.ns TimePoint.max).event = none) (next : ClockTime) (t : Int) :
    (q.getExpiredEventLocked now next t).queue.idleTimeStamp = q.idleStamp now := by
  have ht := (q.afterPick_idle now).2.2
  rcases q.getExpiredEventLocked_cases now next t with ⟨e, he, -⟩ | ⟨-, e, -, hr⟩ | ⟨-, -, hr⟩
  · rw [hn] at he
    cases he
  · rw [hr]
    simp only
    rw [pickIdle_eq]
    exact ht
  · rw [hr]
    exact ht

/-- **What a call returns from `idleEvents_`.** -/
theorem expired_idle {q : EventQueueBase} (hq : Homes q) (hb : q.isBarrierMode = false)
    (now next : ClockTime) (t : Int) (e : InnerEvent) :
    ReturnsIdle (q.getExpiredEventLocked now next t) e ↔
      (q.pickEventLocked now.ns TimePoint.max).event = none ∧
        q.idleEvents.head?.filter (idleEligible (q.idleStamp now) now.ns) = some e := by
  obtain ⟨hl, hmode, ht⟩ := q.afterPick_idle now
  have hfront := pickIdle_front (hmode.trans hb) now
  rw [hl, ht] at hfront
  unfold ReturnsIdle
  rcases q.getExpiredEventLocked_cases now next t with ⟨x, hx, hr⟩ | ⟨hn, x, hx, hr⟩ | ⟨hn, hx, hr⟩
  · -- an event of a sub-queue has another priority
    obtain ⟨p, i, -, htk⟩ := pickEventLocked_some hx
    have hp := hq.sub i x htk.mem
    have hi := i.isLt
    rw [hr, hx]
    constructor
    · rintro ⟨h, he⟩
      obtain rfl := Option.some.inj h
      have hidle : Priority.IDLE.toInt32 = 4 := rfl
      omega
    · rintro ⟨h, -⟩
      cases h
  · rw [hr, ← hfront, hx]
    constructor
    · rintro ⟨h, -⟩
      exact ⟨hn, h⟩
    · rintro ⟨-, h⟩
      obtain rfl := Option.some.inj h
      rw [hfront, Option.filter_eq_some_iff] at hx
      exact ⟨rfl, hq.idle x (List.mem_of_mem_head? hx.1)⟩
  · rw [hr, ← hfront, hx]
    constructor
    · rintro ⟨h, -⟩
      cases h
    · rintro ⟨-, h⟩
      cases h

/-- In a sorted list the first eligible event is at the front, unless the front event was sent after
    the time stamp. -/
theorem find_idle_iff {events : List InnerEvent} (hs : SortedByHandleTime events) (stamp now : Int) :
    events.find? (idleEligible stamp now) = events.head?.filter (idleEligible stamp now) ↔
      (∀ e, events.head? = some e → e.sendTime ≤ stamp) ∨
        ∀ e ∈ events, idleEligible stamp now e = false := by
  cases events with
  | nil => simp
  | cons e es =>
    by_cases he : idleEligible stamp now e = true
    · have hsent : e.sendTime ≤ stamp := by
        simp only [idleEligible, Bool.and_eq_true, decide_eq_true_eq] at he
        exact he.1
      simp [he, hsent, Option.filter_some]
    · have hfront : (some e).filter (idleEligible stamp now) = none := by
        rw [Option.filter_some, if_neg he]
      rw [List.head?_cons, hfront, List.find?_eq_none]
      simp only [Bool.not_eq_true]
      constructor
      · exact .inr
      · rintro (hsent | hnone)
        · -- the front event is not due, and the events behind it are not either
          have hdue : ¬ e.handleTime ≤ now := by
            intro hdue
            apply he
            simp [idleEligible, hsent e rfl, hdue]
          intro x hx
          have hle := hs.le_of_head (d := e.handleTime) (by simp) x hx
          have hlate : ¬ x.handleTime ≤ now := by omega
          simp [idleEligible, hlate]
        · exact hnone

/-- The front event answers for the whole list exactly when the search finds the same. -/
theorem front_answers_iff {p : InnerEvent → Bool} {events : List InnerEvent} :
    ((∃ e, events.head?.filter p = some e) ↔ ∃ e ∈ events, p e = true) ∧
        (∀ e, events.head?.filter p = some e → events.find? p = some e) ↔
      events.find? p = events.head?.filter p := by
  constructor
  · rintro ⟨hiff, hfirst⟩
    cases hf : events.head?.filter p with
    | some e => exact hfirst e hf
    | none =>
      rw [List.find?_eq_none]
      intro e he hp
      obtain ⟨x, hx⟩ := hiff.2 ⟨e, he, hp⟩
      rw [hf] at hx
      cases hx
  · intro h
    rw [← h]
    refine ⟨?_, fun e he => he⟩
    rw [← Option.isSome_iff_exists, List.find?_isSome]

end EventQueueBase

/-- **The choice of the idle event.**  Outside barrier mode a call returns an idle event exactly when
    `PickEventLocked` finds nothing and some idle event is eligible, and then the first one, if and
    only if no event sent after the time stamp stands in front of an eligible one (or there was an
    event to pick). -/
theorem idle_choice_iff (P : SystemParameters) (start : ClockTime) {s : Sys}
    (h : (queueSystem P start).Reachable System.always s) {q : EventQueueBase}
    (hq : q = s.queue ∨ ∃ check enter, q = s.queue.checkBarrierMode P check enter)
    (hb : q.isBarrierMode = false) (now next : ClockTime) (t : Int) :
    (((∃ e, ReturnsIdle (q.getExpiredEventLocked now next t) e) ↔
        (q.pickEventLocked now.ns TimePoint.max).event = none ∧
          ∃ e ∈ q.idleEvents, idleEligible
            (q.getExpiredEventLocked now next t).queue.idleTimeStamp now.ns e = true) ∧
      ∀ e, ReturnsIdle (q.getExpiredEventLocked now next t) e →
        q.idleEvents.find? (idleEligible
          (q.getExpiredEventLocked now next t).queue.idleTimeStamp now.ns) = some e) ↔
      ((q.pickEventLocked now.ns TimePoint.max).event ≠ none ∨
        (∀ e, q.idleEvents.head? = some e → e.sendTime ≤ q.idleStamp now) ∨
        ∀ e ∈ q.idleEvents, idleEligible (q.idleStamp now) now.ns e = false) := by
  have hhomes : Homes q := by
    rcases hq with rfl | ⟨check, enter, rfl⟩
    · exact reachable_homes h
    · exact (reachable_homes h).congr (s.queue.sameLists_checkBarrierMode P check enter).sameEvents
  simp only [expired_idle hhomes hb]
  by_cases hn : (q.pickEventLocked now.ns TimePoint.max).event = none
  · rw [expired_idleTimeStamp hn]
    simp only [hn, true_and, ne_eq, not_true_eq_false, false_or]
    have hsorted : SortedByHandleTime q.idleEvents := hhomes.sorted
    rw [front_answers_iff, find_idle_iff hsorted]
  · simp [hn]

/-- An idle event is sent at 1 ms for 30 ms, idle mode is entered at 3 ms after another event, and
    a second idle event is sent at 10 ms. -/
def idleInFront : List Op :=
  [.flag .prepare, insertAt (atMs 1) { plainEvent (atMs 1) with handleTime := (atMs 30).ns } .IDLE,
    insertAt (atMs 1) (plainEvent (atMs 1)) .LOW, .getEvent, passAt (atMs 2), .getEvent,
    passAt (atMs 3), insertAt (atMs 10) (plainEvent (atMs 10)) .IDLE]

/-- At 20 ms no idle event is eligible, and none is returned. -/
theorem idle_choice_waits : ∃ s : Sys, s.queue.idleEvents.length = 2 ∧
    ¬ ∃ e, ReturnsIdle (s.queue.getExpiredEventLocked (atMs 20) (atMs 20) 0) e := by
  obtain ⟨s, hs, hp⟩ := System.run_of_exec (queueSystem {} (atMs 0)) System.always
    (fun s => s.queue.idleEvents.length = 2 ∧ s.queue.isBarrierMode = false ∧
      (s.queue.getExpiredEventLocked (atMs 20) (atMs 20) 0).queue.idleTimeStamp =
        s.queue.idleStamp (atMs 20) ∧
      ∀ e ∈ s.queue.idleEvents, idleEligible (s.queue.idleStamp (atMs 20)) (atMs 20).ns e = false)
    idleInFront (by decide)
  obtain ⟨hlen, hb, hstamp, hnone⟩ := hp
  have hiff := ((idle_choice_iff {} (atMs 0) ⟨_, hs⟩ (.inl rfl) hb (atMs 20) (atMs 20) 0).2
    (.inr (.inr hnone))).1
  refine ⟨s, hlen, fun hex => ?_⟩
  obtain ⟨-, e, he, hok⟩ := hiff.1 hex
  rw [hstamp, hnone e he] at hok
  cases hok

/-- At 30 ms the event sent at 1 ms is eligible, and the one in front of it hides it. -/
theorem idle_choice_hidden : ¬ ∀ (s : Sys) (now next : ClockTime) (t : Int),
    (queueSystem {} (atMs 0)).Reachable System.always s → s.queue.isBarrierMode = false →
    ((∃ e, ReturnsIdle (s.queue.getExpiredEventLocked now next t) e) ↔
      (s.queue.pickEventLocked now.ns TimePoint.max).event = none ∧
        ∃ e ∈ s.queue.idleEvents, idleEligible
          (s.queue.getExpiredEventLocked now next t).queue.idleTimeStamp now.ns e = true) := by
  intro h
  obtain ⟨s, hs, hp⟩ := System.run_of_exec (queueSystem {} (atMs 0)) System.always
    (fun s => s.queue.isBarrierMode = false ∧
      (s.queue.getExpiredEventLocked (atMs 30) (atMs 30) 0).event = none ∧
      (s.queue.pickEventLocked (atMs 30).ns TimePoint.max).event = none ∧
      ∃ e ∈ s.queue.idleEvents, idleEligible
        (s.queue.getExpiredEventLocked (atMs 30) (atMs 30) 0).queue.idleTimeStamp (atMs 30).ns e =
          true) idleInFront (by decide)
  obtain ⟨hb, hno, hpick, hex⟩ := hp
  obtain ⟨e, he, -⟩ := (h s (atMs 30) (atMs 30) 0 ⟨_, hs⟩ hb).2 ⟨hpick, hex⟩
  rw [hno] at he
  cases he

end AppExecFwk
