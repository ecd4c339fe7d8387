import EventHandler.EventQueue
import EventHandler.Lib.StableList

/-!
# Inserting events

Model of `InsertEventsLocked`, `MarkBarrierTaskIfNeed` and `EventQueueBase::Insert`.

* `Insert` marks the event before it takes the lock and before it writes the priority into it, so
  `markBarrierTaskIfNeed` sees the priority the event object arrived with.
* `insertEventsLocked_split` — where the event goes: at the front, with its handle time lowered to
  the head's if needed, or behind the last event with handle time at most its own.  A sorted list
  stays sorted (`insertEventsLocked_sorted`).
* `insert_cases` — everything a call can do: reject and change nothing, store one event in one
  slot, or (a priority without a slot) accept and store nothing.
-/

set_option autoImplicit false

namespace AppExecFwk

open StableList

/-- Non-decreasing in handle time. -/
abbrev SortedByHandleTime (events : List InnerEvent) : Prop := Sorted InnerEvent.handleTime events

/-- The event as `AT_FRONT` stores it: `SetHandleTime` lowers its handle time to the head's. -/
def frontEvent (events : List InnerEvent) (event : InnerEvent) : InnerEvent :=
  match events with
  | [] => event
  | head :: _ =>
    if head.handleTime < event.handleTime then { event with handleTime := head.handleTime }
    else event

/-- The event as it is stored. -/
def storedEvent (events : List InnerEvent) (event : InnerEvent) : EventInsertType → InnerEvent
  | .AT_FRONT => frontEvent events event
  | .AT_END => event

/-- `InsertEventsLocked`. -/
def insertEventsLocked (events : List InnerEvent) (event : InnerEvent) :
    EventInsertType → List InnerEvent
  | .AT_FRONT => frontEvent events event :: events
  | .AT_END => insertBack InnerEvent.handleTime event events

/-- The event with everything but the handle time as it arrived. -/
theorem storedEvent_eq (events : List InnerEvent) (event : InnerEvent) (ty : EventInsertType) :
    ∃ t, t ≤ event.handleTime ∧ storedEvent events event ty = { event with handleTime := t } := by
  cases ty with
  | AT_END => exact ⟨event.handleTime, le_refl _, rfl⟩
  | AT_FRONT =>
    unfold storedEvent frontEvent
    cases events with
    | nil => exact ⟨event.handleTime, le_refl _, rfl⟩
    | cons head tl =>
      simp only
      split
      · rename_i h; exact ⟨head.handleTime, le_of_lt h, rfl⟩
      · exact ⟨event.handleTime, le_refl _, rfl⟩

/-- A lowered handle time is that of the head. -/
theorem frontEvent_handleTime (events : List InnerEvent) (event : InnerEvent) :
    (frontEvent events event).handleTime = event.handleTime ∨
      ∃ head ∈ events, (frontEvent events event).handleTime = head.handleTime := by
  unfold frontEvent
  cases events with
  | nil => exact Or.inl rfl
  | cons head tl =>
    simp only
    split
    · exact Or.inr ⟨head, List.mem_cons_self, rfl⟩
    · exact Or.inl rfl

theorem frontEvent_le_head {head : InnerEvent} {events : List InnerEvent} (event : InnerEvent)
    (h : events.head? = some head) : (frontEvent events event).handleTime ≤ head.handleTime := by
  cases events with
  | nil => cases h
  | cons x xs =>
    cases h
    unfold frontEvent
    simp only
    split
    · exact le_refl _
    · rename_i hlt; exact le_of_not_gt hlt

/-- One stored event, the others in their order. -/
theorem insertEventsLocked_split (events : List InnerEvent) (event : InnerEvent)
    (ty : EventInsertType) :
    ∃ a b, events = a ++ b ∧
      insertEventsLocked events event ty = a ++ storedEvent events event ty :: b := by
  cases ty with
  | AT_FRONT => exact ⟨[], events, rfl, rfl⟩
  | AT_END =>
    obtain ⟨a, b, hxs, hi, -, -⟩ := insertBack_split InnerEvent.handleTime event events
    exact ⟨a, b, hxs, hi⟩

theorem mem_insertEventsLocked {events : List InnerEvent} {event : InnerEvent}
    {ty : EventInsertType} {x : InnerEvent} :
    x ∈ insertEventsLocked events event ty ↔ x = storedEvent events event ty ∨ x ∈ events := by
  obtain ⟨a, b, hxs, hi⟩ := insertEventsLocked_split events event ty
  rw [hi]
  generalize storedEvent events event ty = e
  subst hxs
  simp only [List.mem_append, List.mem_cons]
  constructor
  · rintro (h | h | h)
    · exact Or.inr (Or.inl h)
    · exact Or.inl h
    · exact Or.inr (Or.inr h)
  · rintro (h | h | h)
    · exact Or.inr (Or.inl h)
    · exact Or.inl h
    · exact Or.inr (Or.inr h)

theorem insertEventsLocked_perm (events : List InnerEvent) (event : InnerEvent)
    (ty : EventInsertType) :
    (insertEventsLocked events event ty).Perm (storedEvent events event ty :: events) := by
  obtain ⟨a, b, hxs, hi⟩ := insertEventsLocked_split events event ty
  rw [hi]
  generalize storedEvent events event ty = e
  subst hxs
  exact List.perm_middle

/-- **Insertion keeps the order of handle times.** -/
theorem insertEventsLocked_sorted {events : List InnerEvent} (h : SortedByHandleTime events)
    (event : InnerEvent) (ty : EventInsertType) :
    SortedByHandleTime (insertEventsLocked events event ty) := by
  cases ty with
  | AT_FRONT => exact h.cons_of_le (fun y hy => frontEvent_le_head event hy)
  | AT_END => exact insertBack_sorted h

/-- A relation that holds around the stored event holds after the insertion. -/
theorem insertEventsLocked_pairwise {R : InnerEvent → InnerEvent → Prop} {events : List InnerEvent}
    (h : events.Pairwise R) (event : InnerEvent) (ty : EventInsertType)
    (hl : ∀ y ∈ events, R y (storedEvent events event ty))
    (hr : ∀ y ∈ events, R (storedEvent events event ty) y) :
    (insertEventsLocked events event ty).Pairwise R := by
  obtain ⟨a, b, hxs, hi⟩ := insertEventsLocked_split events event ty
  rw [hi]
  generalize storedEvent events event ty = e at hl hr
  subst hxs
  exact pairwise_insert h (fun y hy => hl y (List.mem_append_left _ hy))
    (fun y hy => hr y (List.mem_append_right _ hy))

/-! ## Marking barrier tasks -/

/-- The `NEED_BARRIER` conditions: sent on the main thread, not delayed, owned by the main
    runner. -/
def sentAtOnceByMain (p : Process) (event : InnerEvent) : Bool :=
  p.isAppMainThread && decide (event.handleTime = event.sendTime) && event.isOwnerMainRunner p

/-- The condition under which `MarkBarrierTaskIfNeed` marks. -/
def needMarkBarrier (p : Process) (event : InnerEvent) (option : VsyncBarrierOption) :
    VsyncPolicy → Bool
  | .VSYNC_FIRST_WITHOUT_DEFAULT_BARRIER =>
    (decide (option = .FORCE_BARRIER) || decide (event.priority = Priority.toInt32 .VIP) ||
      (decide (option = .NEED_BARRIER) && sentAtOnceByMain p event)) && !event.isVsync
  | .VSYNC_FIRST_WITH_DEFAULT_BARRIER => sentAtOnceByMain p event && !event.isVsync
  | .DISABLE_VSYNC_FIRST => false

/-- `MarkBarrierTaskIfNeed`. -/
def markBarrierTaskIfNeed (p : Process) (event : InnerEvent) (option : VsyncBarrierOption)
    (vsyncPolicy : VsyncPolicy) : InnerEvent :=
  if needMarkBarrier p event option vsyncPolicy then { event with isBarrier := true } else event

/-- Marking changes the barrier mark only. -/
theorem markBarrierTaskIfNeed_eq (p : Process) (event : InnerEvent) (option : VsyncBarrierOption)
    (policy : VsyncPolicy) :
    markBarrierTaskIfNeed p event option policy =
      { event with isBarrier := event.isBarrier || needMarkBarrier p event option policy } := by
  unfold markBarrierTaskIfNeed
  split
  · rename_i h; rw [h, Bool.or_true]
  · rename_i h; rw [Bool.not_eq_true] at h; rw [h, Bool.or_false]

/-! ## Insert -/

/-- What a call of `Insert` returns and does: the queue, the result, and whether it calls
    `ioWaiter_->NotifyOne()` before it releases the lock. -/
structure InsertOutcome where
  queue : EventQueueBase
  result : Bool
  needNotify : Bool

/-- The event as the switch of `Insert` sees it: marked, then given the priority. -/
def preparedEvent (p : Process) (q : EventQueueBase) (event : InnerEvent) (priority : Priority)
    (option : VsyncBarrierOption) : InnerEvent :=
  { markBarrierTaskIfNeed p event option q.vsyncPolicy with priority := priority.toInt32 }

/-- `needNotify` for an event bound for a sub-queue; `now` is the clock read in it. -/
def needNotify (q : EventQueueBase) (event : InnerEvent) (now : ClockTime) : Bool :=
  decide (event.handleTime < q.wakeUpTime) || decide (q.wakeUpTime < now.ns) || event.isVsync

/-- `EventQueueBase::Insert`.  `now` is the clock read for `needNotify`, `recv` the one read by
    `DispatchVsyncTaskNotify`. -/
def EventQueueBase.insert (p : Process) (now recv : ClockTime) (q : EventQueueBase)
    (event : Option InnerEvent) (priority : Priority) (insertType : EventInsertType)
    (option : VsyncBarrierOption) : InsertOutcome :=
  match event with
  | none => ⟨q, false, false⟩
  | some event =>
    let event := preparedEvent p q event priority option
    if q.usable = false then ⟨q, false, false⟩
    else match priority.subIndex with
    | some i =>
      let q' := if event.isVsync then q.dispatchVsyncTaskNotify recv else q
      let sub := q'.subEventQueues i
      let events := insertEventsLocked sub.queue event insertType
      ⟨q'.setSub i { sub with queue := events, frontEventHandleTime := frontHandleTime events },
        true, needNotify q event now⟩
    | none =>
      if priority = .IDLE then
        ⟨{ q with idleEvents := insertEventsLocked q.idleEvents event insertType }, true, false⟩
      else ⟨q, true, false⟩

/-- What a call of `Insert` can do. -/
inductive InsertEffect (p : Process) (now recv : ClockTime) (q : EventQueueBase)
    (priority : Priority) (insertType : EventInsertType) (option : VsyncBarrierOption) :
    Option InnerEvent → InsertOutcome → Prop
  | rejected (event : Option InnerEvent) (h : event = none ∨ q.usable = false) :
      InsertEffect p now recv q priority insertType option event ⟨q, false, false⟩
  | sub (event : InnerEvent) (i : SubIndex) (hu : q.usable = true) (hi : priority.subIndex = some i)
      (q' : EventQueueBase)
      (hq' : q' = if event.isVsync then q.dispatchVsyncTaskNotify recv else q) :
      InsertEffect p now recv q priority insertType option (some event)
        ⟨q'.setSub i { q.subEventQueues i with
            queue := insertEventsLocked (q.subEventQueues i).queue
              (preparedEvent p q event priority option) insertType
            frontEventHandleTime := frontHandleTime (insertEventsLocked (q.subEventQueues i).queue
              (preparedEvent p q event priority option) insertType) },
          true, needNotify q (preparedEvent p q event priority option) now⟩
  | idle (event : InnerEvent) (hu : q.usable = true) (hp : priority = .IDLE) :
      InsertEffect p now recv q priority insertType option (some event)
        ⟨{ q with
            idleEvents := insertEventsLocked q.idleEvents
              (preparedEvent p q event priority option) insertType },
          true, false⟩
  | unnamed (event : InnerEvent) (hu : q.usable = true) (hi : priority.subIndex = none)
      (hp : priority ≠ .IDLE) :
      InsertEffect p now recv q priority insertType option (some event) ⟨q, true, false⟩

theorem preparedEvent_isVsync (p : Process) (q : EventQueueBase) (event : InnerEvent)
    (priority : Priority) (option : VsyncBarrierOption) :
    (preparedEvent p q event priority option).isVsync = event.isVsync := by
  unfold preparedEvent
  rw [markBarrierTaskIfNeed_eq]

theorem preparedEvent_ticket (p : Process) (q : EventQueueBase) (event : InnerEvent)
    (priority : Priority) (option : VsyncBarrierOption) :
    (preparedEvent p q event priority option).ticket = event.ticket := by
  unfold preparedEvent
  rw [markBarrierTaskIfNeed_eq]

theorem preparedEvent_isBarrier (p : Process) (q : EventQueueBase) (event : InnerEvent)
    (priority : Priority) (option : VsyncBarrierOption) :
    (preparedEvent p q event priority option).isBarrier =
      (event.isBarrier || needMarkBarrier p event option q.vsyncPolicy) := by
  unfold preparedEvent
  rw [markBarrierTaskIfNeed_eq]

/-- **Inversion of `Insert`.** -/
theorem insert_cases (p : Process) (now recv : ClockTime) (q : EventQueueBase)
    (event : Option InnerEvent) (priority : Priority) (insertType : EventInsertType)
    (option : VsyncBarrierOption) :
    InsertEffect p now recv q priority insertType option event
      (q.insert p now recv event priority insertType option) := by
  unfold EventQueueBase.insert
  cases event with
  | none => exact .rejected none (Or.inl rfl)
  | some event =>
    simp only
    split
    · rename_i hu
      exact .rejected _ (Or.inr hu)
    · rename_i hu
      rw [Bool.not_eq_false] at hu
      split
      · rename_i i hi
        rw [preparedEvent_isVsync]
        have hsub : (if event.isVsync = true then q.dispatchVsyncTaskNotify recv
            else q).subEventQueues i = q.subEventQueues i := by
          split <;> rfl
        rw [hsub]
        exact .sub event i hu hi _ rfl
      · rename_i hi
        split
        · rename_i hp
          exact .idle event hu hp
        · rename_i hp
          exact .unnamed event hu hi hp

/-- `Insert` writes the lists and what `DispatchVsyncTaskNotify` writes. -/
theorem insert_queue_eq (p : Process) (now recv : ClockTime) (q : EventQueueBase)
    (event : Option InnerEvent) (priority : Priority) (ty : EventInsertType)
    (option : VsyncBarrierOption) :
    (q.insert p now recv event priority ty option).queue = { q with
      subEventQueues := (q.insert p now recv event priority ty option).queue.subEventQueues
      idleEvents := (q.insert p now recv event priority ty option).queue.idleEvents
      sumOfPendingVsync := (q.insert p now recv event priority ty option).queue.sumOfPendingVsync
      needEpoll := (q.insert p now recv event priority ty option).queue.needEpoll
      vsyncCheckTime := (q.insert p now recv event priority ty option).queue.vsyncCheckTime
      vsyncRecvTime := (q.insert p now recv event priority ty option).queue.vsyncRecvTime } := by
  have hx := insert_cases p now recv q event priority ty option
  generalize q.insert p now recv event priority ty option = o at hx
  cases hx with
  | rejected _ _ => rfl
  | unnamed _ _ _ _ => rfl
  | idle _ _ _ => rfl
  | sub event i _ _ q' hq' =>
    subst hq'
    split <;> rfl

theorem sameLists_dispatchIf (b : Bool) (recv : ClockTime) (q : EventQueueBase) :
    EventQueueBase.SameLists q (if b then q.dispatchVsyncTaskNotify recv else q) := by
  split
  · exact q.sameLists_dispatch recv
  · exact EventQueueBase.SameLists.refl q

/-- An accepted call stores the prepared event in the list of its priority and nothing elsewhere. -/
theorem insert_slot {p : Process} {now recv : ClockTime} {q : EventQueueBase} {event : InnerEvent}
    {priority : Priority} {ty : EventInsertType} {option : VsyncBarrierOption}
    {k : Option SubIndex} (hu : q.usable = true) (hk : priority.slot = some k) :
    let o := q.insert p now recv (some event) priority ty option
    o.result = true ∧
      o.queue.events k = insertEventsLocked (q.events k) (preparedEvent p q event priority option) ty ∧
      ∀ l, l ≠ k → o.queue.events l = q.events l := by
  intro o
  have hx : InsertEffect p now recv q priority ty option (some event) o :=
    insert_cases p now recv q (some event) priority ty option
  generalize o = o at hx
  unfold Priority.slot at hk
  cases hx with
  | rejected _ h =>
    rcases h with h | h
    · cases h
    · rw [hu] at h
      cases h
  | sub _ i _ hi q' hq' =>
    rw [hi] at hk
    cases hk
    have hs := sameLists_dispatchIf event.isVsync recv q
    rw [← hq'] at hs
    obtain ⟨hk, hl⟩ := q'.setSub_events i { q.subEventQueues i with
      queue := insertEventsLocked (q.subEventQueues i).queue
        (preparedEvent p q event priority option) ty
      frontEventHandleTime := frontHandleTime (insertEventsLocked (q.subEventQueues i).queue
        (preparedEvent p q event priority option) ty) }
    exact ⟨rfl, hk, fun l h => (hl l h).trans (hs.events l)⟩
  | idle _ _ hp =>
    subst hp
    cases hk
    refine ⟨rfl, rfl, fun l hl => ?_⟩
    cases l with
    | none => exact absurd rfl hl
    | some i => rfl
  | unnamed _ _ hi hp =>
    rw [hi] at hk
    simp only [if_neg hp] at hk
    cases hk

end AppExecFwk
