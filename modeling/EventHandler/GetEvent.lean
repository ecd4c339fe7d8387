import EventHandler.Pick

/-!
# GetExpiredEvent and GetEvent

Model of `GetExpiredEventLocked`, of one turn of the `while` loop of `GetEvent`, and of what
`GetEvent` and `TryEpollFd` do when they hold the lock again after a wait.

* `getEventPass` — one turn.  It ends with the loop's exit, with an event, with the zero-timeout
  poll of `TryEpollFd`, with another turn after the counter was reset, or with `WaitUntilLocked`.
* `TakeRule` — the ways an event is taken: a pick of `PickEventLocked`, one of the two idle picks,
  or the vsync pick of `GetEvent`.
* `getExpiredEventLocked_cases`, `getEventPass_cases` — the inversions all invariants go through.

The clock is read several times in one turn; `PassClock` holds the readings.
-/

set_option autoImplicit false

namespace AppExecFwk

/-- The clock readings of one turn: in `CheckBarrierMode`, in `SetBarrierMode(true)`, `now` and the
    second reading of `GetExpiredEventLocked`, `now` of `GetEvent`; and the milliseconds the
    observer took. -/
structure PassClock where
  check : ClockTime
  enter : ClockTime
  now : ClockTime
  next : ClockTime
  poll : ClockTime
  consumer : Nat := 0
  deriving DecidableEq, Repr

/-- What `GetExpiredEventLocked` returns: the event, the queue, and `nextExpiredTime`. -/
structure ExpiredOutcome where
  event : Option InnerEvent
  queue : EventQueueBase
  nextExpiredTime : Int

/-- How a turn of the loop ends. -/
inductive LoopPass where
  | finished
  | returned (event : InnerEvent)
  | poll (event : InnerEvent) (need : Bool)
  | again
  | wait (deadline : Int)
  deriving DecidableEq, Repr

/-- The event a turn takes from the queue. -/
def LoopPass.event : LoopPass → Option InnerEvent
  | .returned e => some e
  | .poll e _ => some e
  | .finished => none
  | .again => none
  | .wait _ => none

structure PassOutcome where
  queue : EventQueueBase
  pass : LoopPass

/-- The index `subEventQueues_[prio]` means. -/
def priorityToIndex (prio : Int) : Option SubIndex :=
  if h : 0 ≤ prio ∧ prio < 4 then some ⟨prio.toNat, by omega⟩ else none

theorem priorityToIndex_val (i : SubIndex) : priorityToIndex i.val = some i := by
  have hi := i.isLt
  unfold priorityToIndex
  rw [dif_pos ⟨by omega, by omega⟩]
  rfl

namespace EventQueueBase

/-! ## GetExpiredEventLocked -/

/-- The refresh of `frontEventHandleTime` after a pick. -/
def refreshFront (q : EventQueueBase) (prio : Int) : EventQueueBase :=
  match priorityToIndex prio with
  | some i =>
    let sub := q.subEventQueues i
    q.setSub i { sub with frontEventHandleTime := frontHandleTime sub.queue }
  | none => q

/-- Enter idle mode and make a time stamp. -/
def enterIdle (q : EventQueueBase) (now : ClockTime) : EventQueueBase :=
  if q.isIdle then q else { q with idleTimeStamp := now.ns, isIdle := true }

/-- The pick from `idleEvents_`. -/
def pickIdle (q : EventQueueBase) (now : ClockTime) : Option InnerEvent × EventQueueBase :=
  if q.isBarrierMode then
    let r := popFrontBarrierEventFromListWithTimeLocked q.idleEvents q.idleTimeStamp now.ns
    (r.1, { q with idleEvents := r.2 })
  else match q.idleEvents with
    | [] => (none, q)
    | idleEvent :: _ =>
      if idleEvent.sendTime ≤ q.idleTimeStamp ∧ idleEvent.handleTime ≤ now.ns then
        let r := popFrontEventFromListLocked q.idleEvents
        (r.1, { q with idleEvents := r.2 })
      else (none, q)

/-- `GetExpiredEventLocked`; `next` is the clock read for `nextExpiredTime`. -/
def getExpiredEventLocked (q : EventQueueBase) (now next : ClockTime) (nextExpiredTime : Int) :
    ExpiredOutcome :=
  let r := q.pickEventLocked now.ns TimePoint.max
  let q := { r.queue with wakeUpTime := r.nextWakeUpTime }
  match r.event with
  | some event =>
    ⟨some event, { q.refreshFront event.priority with
      isIdle := false, currentRunningEvent := .ofEvent now.ns event }, nextExpiredTime⟩
  | none =>
    let q := q.enterIdle now
    let idle := q.pickIdle now
    match idle.1 with
    | some event =>
      ⟨some event, { idle.2 with currentRunningEvent := .ofEvent now.ns event }, nextExpiredTime⟩
    | none =>
      ⟨none, { q with currentRunningEvent := {} },
        if q.sumOfPendingVsync ≠ 0 then next.ns else q.wakeUpTime⟩

/-! ## GetEvent -/

/-- `TryExecuteObserverCallback` for `STAGE_BEFORE_WAITING`: the queue and `nextWakeUpTime`. -/
def beforeWaiting (q : EventQueueBase) (consumer : Nat) (nextWakeUpTime : Int) :
    EventQueueBase × Int :=
  if q.observer.subscribes STAGE_BEFORE_WAITING ∧ nextWakeUpTime < TimePoint.max then
    let next := nextWakeUpTime + consumer * MILLISECONDS_TO_NANOSECONDS_RATIO
    ({ q with wakeUpTime := next }, next)
  else (q, nextWakeUpTime)

/-- The condition of the call of `TryEpollFd`. -/
def needsPoll (q : EventQueueBase) (now : ClockTime) : Bool :=
  !q.isLazyMode && decide (q.sumOfPendingVsync = 0) &&
    (q.needEpoll || decide (q.vsyncCheckTime < now.ns))

/-- The correction after a pending counter without a vsync task. -/
def resetPending (q : EventQueueBase) : EventQueueBase :=
  { q with sumOfPendingVsync := 0 }.leaveBarrierMode

/-- What a turn does with the answer of `GetExpiredEventLocked`. -/
def afterExpired (clk : PassClock) (r : ExpiredOutcome) : PassOutcome :=
  match r.event with
  | some event =>
    ⟨r.queue, if r.queue.needsPoll clk.poll then .poll event r.queue.needEpoll else .returned event⟩
  | none =>
    if r.queue.sumOfPendingVsync ≠ 0 then
      match r.queue.pickFirstVsyncEventLocked with
      | (some event, q) => ⟨q, .returned event⟩
      | (none, q) => ⟨q.resetPending, .again⟩
    else
      let w := r.queue.beforeWaiting clk.consumer r.nextExpiredTime
      ⟨w.1, .wait w.2⟩

/-- One turn of the loop of `GetEvent`. -/
def getEventPass (P : SystemParameters) (clk : PassClock) (q : EventQueueBase) : PassOutcome :=
  if q.finished then ⟨q, .finished⟩
  else
    afterExpired clk ((q.checkBarrierMode P clk.check clk.enter).getExpiredEventLocked clk.now clk.next
      TimePoint.max)

/-- After `WaitUntilLocked` in `GetEvent`. -/
def afterWait (q : EventQueueBase) : EventQueueBase := { q with needEpoll := false }

/-- After `WaitUntilLocked` in `TryEpollFd`. -/
def afterPoll (need : Bool) (q : EventQueueBase) : EventQueueBase :=
  if q.sumOfPendingVsync ≠ 0 then q
  else if need then { q with needEpoll := false }
  else if q.vsyncPeriod < MAX_CHECK_VSYNC_PERIOD_NS then
    { q with vsyncCheckTime := q.vsyncCheckTime + q.vsyncPeriod, vsyncPeriod := q.vsyncPeriod * 2 }
  else { q with vsyncCheckTime := INT64_MAX }

/-! ## What GetExpiredEventLocked does -/

/-- The queue after the call of `PickEventLocked`, which also sets `wakeUpTime_`. -/
def afterPick (q : EventQueueBase) (now : ClockTime) : EventQueueBase :=
  { (q.pickEventLocked now.ns TimePoint.max).queue with
    wakeUpTime := (q.pickEventLocked now.ns TimePoint.max).nextWakeUpTime }

/-- The three ways a call of `GetExpiredEventLocked` ends. -/
theorem getExpiredEventLocked_cases (q : EventQueueBase) (now next : ClockTime) (t : Int) :
    let r := q.getExpiredEventLocked now next t
    (∃ e, (q.pickEventLocked now.ns TimePoint.max).event = some e ∧
      r = ⟨some e, { (q.afterPick now).refreshFront e.priority with
        isIdle := false, currentRunningEvent := .ofEvent now.ns e }, t⟩) ∨
    ((q.pickEventLocked now.ns TimePoint.max).event = none ∧
      ∃ e, (((q.afterPick now).enterIdle now).pickIdle now).1 = some e ∧
        r = ⟨some e, { (((q.afterPick now).enterIdle now).pickIdle now).2 with
          currentRunningEvent := .ofEvent now.ns e }, t⟩) ∨
    ((q.pickEventLocked now.ns TimePoint.max).event = none ∧
      (((q.afterPick now).enterIdle now).pickIdle now).1 = none ∧
      r = ⟨none, { (q.afterPick now).enterIdle now with currentRunningEvent := {} },
        if ((q.afterPick now).enterIdle now).sumOfPendingVsync ≠ 0 then next.ns
        else ((q.afterPick now).enterIdle now).wakeUpTime⟩) := by
  intro r
  have hr : r =
      match (q.pickEventLocked now.ns TimePoint.max).event with
      | some e => ⟨some e, { (q.afterPick now).refreshFront e.priority with
          isIdle := false, currentRunningEvent := .ofEvent now.ns e }, t⟩
      | none =>
        match (((q.afterPick now).enterIdle now).pickIdle now).1 with
        | some e => ⟨some e, { (((q.afterPick now).enterIdle now).pickIdle now).2 with
            currentRunningEvent := .ofEvent now.ns e }, t⟩
        | none => ⟨none, { (q.afterPick now).enterIdle now with currentRunningEvent := {} },
            if ((q.afterPick now).enterIdle now).sumOfPendingVsync ≠ 0 then next.ns
            else ((q.afterPick now).enterIdle now).wakeUpTime⟩ := rfl
  split at hr
  · rename_i e hp
    exact Or.inl ⟨e, hp, hr⟩
  · rename_i hp
    split at hr
    · rename_i e hi
      exact Or.inr (Or.inl ⟨hp, e, hi, hr⟩)
    · rename_i hi
      exact Or.inr (Or.inr ⟨hp, hi, hr⟩)

theorem afterPick_frame (q : EventQueueBase) (now : ClockTime) : SameControl q (q.afterPick now) := by
  have h := (q.pickEventLocked_frame now.ns TimePoint.max).sameControl
  unfold SameControl at h
  unfold SameControl afterPick
  rw [h]

theorem enterIdle_sameControl (q : EventQueueBase) (now : ClockTime) :
    SameControl q (q.enterIdle now) := by
  unfold enterIdle
  split <;> rfl

theorem enterIdle_sameLists (q : EventQueueBase) (now : ClockTime) :
    SameLists q (q.enterIdle now) := by
  unfold enterIdle
  split <;> exact ⟨rfl, rfl⟩

theorem enterIdle_wakeUpTime (q : EventQueueBase) (now : ClockTime) :
    (q.enterIdle now).wakeUpTime = q.wakeUpTime := by
  unfold enterIdle
  split <;> rfl

theorem pickIdle_eq (q : EventQueueBase) (now : ClockTime) :
    (q.pickIdle now).2 = { q with idleEvents := (q.pickIdle now).2.idleEvents } := by
  unfold pickIdle
  split
  · rfl
  · split
    · rfl
    · split <;> rfl

theorem refreshFront_sameControl (q : EventQueueBase) (prio : Int) :
    SameControl q (q.refreshFront prio) := by
  unfold refreshFront
  split <;> rfl

/-- The refresh touches one cached head time only. -/
theorem refreshFront_sub (q : EventQueueBase) (prio : Int) (i : SubIndex) :
    (q.refreshFront prio).subEventQueues i =
      if priorityToIndex prio = some i then
        { q.subEventQueues i with
          frontEventHandleTime := frontHandleTime (q.subEventQueues i).queue }
      else q.subEventQueues i := by
  unfold refreshFront
  split
  · rename_i k hk
    by_cases h : i = k
    · subst h
      rw [if_pos hk, setSub_self]
    · rw [setSub_ne q _ h, if_neg]
      intro hi
      rw [hk] at hi
      exact h (Option.some.inj hi).symm
  · rename_i hk
    rw [if_neg]
    rw [hk]
    exact fun h => by cases h

theorem refreshFront_same (q : EventQueueBase) (prio : Int) :
    SameEvents q (q.refreshFront prio) := by
  intro k
  cases k with
  | none => unfold refreshFront; split <;> rfl
  | some i =>
    rw [events_some, events_some, refreshFront_sub]
    split <;> rfl

/-- The ways an event is taken from the queue. -/
inductive TakeRule (q : EventQueueBase) (now : ClockTime) (e : InnerEvent) :
    (InnerEvent → Bool) → Option SubIndex → Prop
  | pick {p : InnerEvent → Bool} {i : SubIndex} (h : PickRule q now.ns e p i) :
      TakeRule q now e p (some i)
  | idleHead (hb : q.isBarrierMode = false) (hdue : e.handleTime ≤ now.ns) :
      TakeRule q now e (fun _ => true) none
  | idleBarrier (stamp : Int) (hb : q.isBarrierMode = true) (hdue : e.handleTime ≤ now.ns) :
      TakeRule q now e (barrierWithTime stamp now.ns) none
  | lastVsync (hs : q.sumOfPendingVsync ≠ 0) : TakeRule q now e InnerEvent.isVsync (some 0)

/-- An event is taken when it is due, or because it is a vsync task. -/
theorem TakeRule.due {q : EventQueueBase} {now : ClockTime} {e : InnerEvent}
    {p : InnerEvent → Bool} {k : Option SubIndex} (h : TakeRule q now e p k) (hp : p e = true) :
    e.handleTime ≤ now.ns ∨ e.isVsync = true := by
  cases h with
  | pick h =>
    cases h with
    | head _ _ hdue => exact Or.inl hdue
    | barrier _ _ hdue => exact Or.inl hdue
    | vsync => exact Or.inr hp
  | idleHead _ hdue => exact Or.inl hdue
  | idleBarrier _ _ hdue => exact Or.inl hdue
  | lastVsync => exact Or.inr hp

theorem pickIdle_some {q : EventQueueBase} {now : ClockTime} {e : InnerEvent}
    (h : (q.pickIdle now).1 = some e) :
    ∃ p, TakeRule q now e p none ∧ Takes p none e q (q.pickIdle now).2 := by
  unfold pickIdle at h ⊢
  split at h
  · rename_i hb
    rw [if_pos hb]
    have hp := List.find?_some h
    simp only [barrierWithTime, Bool.and_eq_true, decide_eq_true_eq] at hp
    exact ⟨_, .idleBarrier _ hb hp.2, ⟨h, rfl, fun l hl => by cases l <;> [exact absurd rfl hl; rfl]⟩⟩
  · rename_i hb
    rw [Bool.not_eq_true] at hb
    rw [if_neg (by rw [hb]; decide)]
    split at h
    · cases h
    · rename_i x xs hx
      split at h
      · rename_i hdue
        rw [hx] at h ⊢
        simp only [popFrontEventFromListLocked, List.head?_cons, Option.some.injEq] at h
        subst h
        rw [if_pos hdue]
        refine ⟨fun _ => true, .idleHead hb hdue.2, ⟨?_, ?_, fun l hl => ?_⟩⟩
        · rw [events_none, hx]; rfl
        · rw [events_none, events_none, hx]; rfl
        · cases l with
          | none => exact absurd rfl hl
          | some i => rfl
      · cases h

theorem afterPick_same {q : EventQueueBase} {now : ClockTime}
    (h : (q.pickEventLocked now.ns TimePoint.max).event = none) :
    SameEvents q ((q.afterPick now).enterIdle now) := by
  intro k
  rw [(enterIdle_sameLists _ now).events k, ← (pickEventLocked_none h).1 k]
  cases k <;> rfl

/-- The rules read the barrier mode and the counter only. -/
theorem TakeRule.congr {q q' : EventQueueBase} {now : ClockTime} {e : InnerEvent}
    {p : InnerEvent → Bool} {k : Option SubIndex} (hc : SameControl q q')
    (h : TakeRule q' now e p k) : TakeRule q now e p k := by
  cases h with
  | pick h =>
    cases h with
    | head _ hb hdue => exact .pick (.head _ (by rw [← hc.isBarrierMode]; exact hb) hdue)
    | barrier _ hb hdue => exact .pick (.barrier _ (by rw [← hc.isBarrierMode]; exact hb) hdue)
    | vsync hs hn => exact .pick (.vsync (by rw [← hc.sum]; exact hs) (by rw [← hc.needEpoll]; exact hn))
  | idleHead hb hdue => exact .idleHead (by rw [← hc.isBarrierMode]; exact hb) hdue
  | idleBarrier stamp hb hdue => exact .idleBarrier stamp (by rw [← hc.isBarrierMode]; exact hb) hdue
  | lastVsync hs => exact .lastVsync (by rw [← hc.sum]; exact hs)

theorem getExpiredEventLocked_sameControl (q : EventQueueBase) (now next : ClockTime) (t : Int) :
    SameControl q (q.getExpiredEventLocked now next t).queue := by
  have hp := q.afterPick_frame now
  have hi := hp.trans (enterIdle_sameControl _ now)
  rcases q.getExpiredEventLocked_cases now next t with ⟨e, -, h⟩ | ⟨-, e, -, h⟩ | ⟨-, -, h⟩
  · rw [h]
    have hr := hp.trans (refreshFront_sameControl _ e.priority)
    unfold SameControl at hr ⊢
    simp only
    rw [hr]
  · rw [h]
    unfold SameControl at hi ⊢
    simp only
    rw [pickIdle_eq, hi]
  · rw [h]
    unfold SameControl at hi ⊢
    simp only
    rw [hi]

/-- **An event `GetExpiredEventLocked` returns is taken by one of the rules.** -/
theorem getExpiredEventLocked_some {q : EventQueueBase} {now next : ClockTime} {t : Int}
    {e : InnerEvent} (h : (q.getExpiredEventLocked now next t).event = some e) :
    ∃ p k, TakeRule q now e p k ∧ Takes p k e q (q.getExpiredEventLocked now next t).queue := by
  rcases q.getExpiredEventLocked_cases now next t with ⟨x, hx, hr⟩ | ⟨hn, x, hx, hr⟩ | ⟨-, -, hr⟩
  · rw [hr] at h ⊢
    cases h
    obtain ⟨p, i, hrule, htk⟩ := pickEventLocked_some hx
    refine ⟨p, some i, .pick hrule, ⟨htk.found, ?_, fun l hl => ?_⟩⟩
    · rw [← htk.rest]
      exact refreshFront_same (q.afterPick now) e.priority (some i)
    · rw [← htk.other l hl]
      have hs := refreshFront_same (q.afterPick now) e.priority l
      cases l <;> exact hs
  · rw [hr] at h ⊢
    cases h
    obtain ⟨p, hrule, htk⟩ := pickIdle_some hx
    have hc := (q.afterPick_frame now).trans (enterIdle_sameControl _ now)
    refine ⟨p, none, hrule.congr hc, ?_⟩
    have htk' := htk.of_same (afterPick_same hn)
    refine ⟨htk'.found, htk'.rest, fun l hl => ?_⟩
    rw [← htk'.other l hl]
    cases l <;> rfl
  · rw [hr] at h
    cases h

/-- **Nothing expired**: the lists are unchanged; the wake-up time is at most every head, and
    outside barrier mode later than `now`; it is also the next expiry unless a vsync task is
    pending. -/
theorem getExpiredEventLocked_none {q : EventQueueBase} {now next : ClockTime} {t : Int}
    (h : (q.getExpiredEventLocked now next t).event = none) :
    (q.pickEventLocked now.ns TimePoint.max).event = none ∧
      SameEvents q (q.getExpiredEventLocked now next t).queue ∧
      (∀ i e, (q.subEventQueues i).queue.head? = some e →
        (q.getExpiredEventLocked now next t).queue.wakeUpTime ≤ e.handleTime) ∧
      (q.isBarrierMode = false →
        now.ns < (q.getExpiredEventLocked now next t).queue.wakeUpTime) ∧
      (q.sumOfPendingVsync = 0 → (q.getExpiredEventLocked now next t).nextExpiredTime =
        (q.getExpiredEventLocked now next t).queue.wakeUpTime) := by
  rcases q.getExpiredEventLocked_cases now next t with ⟨x, -, hr⟩ | ⟨-, x, -, hr⟩ | ⟨hn, -, hr⟩
  · rw [hr] at h
    cases h
  · rw [hr] at h
    cases h
  · have hpick := pickEventLocked_none hn
    have hs := afterPick_same hn
    have hw : ((q.afterPick now).enterIdle now).wakeUpTime =
        (q.pickEventLocked now.ns TimePoint.max).nextWakeUpTime := enterIdle_wakeUpTime _ now
    have hsum := ((q.afterPick_frame now).trans (enterIdle_sameControl _ now)).sum
    rw [hr]
    refine ⟨hn, ?_, ?_, ?_, ?_⟩
    · intro k
      rw [← hs k]
      cases k <;> rfl
    · intro i e he
      simp only
      rw [hw]
      exact hpick.2.2.2.1 i e he
    · intro hb
      simp only
      rw [hw]
      exact hpick.2.2.2.2 hb now.lt_max
    · intro h0
      simp only
      rw [hsum, h0]
      rfl

/-- The counters and their bounds after the call are those `PickEventLocked` left. -/
theorem getExpiredEventLocked_count (q : EventQueueBase) (now next : ClockTime) (t : Int)
    (i : SubIndex) :
    ((q.getExpiredEventLocked now next t).queue.subEventQueues i).handledEventsCount =
        ((q.pickEventLocked now.ns TimePoint.max).queue.subEventQueues i).handledEventsCount ∧
      ((q.getExpiredEventLocked now next t).queue.subEventQueues i).maxHandledEventsCount =
        (q.subEventQueues i).maxHandledEventsCount := by
  have hmax := (q.pickEventLocked_frame now.ns TimePoint.max).max i
  have hidle : ((q.afterPick now).enterIdle now).subEventQueues =
      (q.pickEventLocked now.ns TimePoint.max).queue.subEventQueues := (enterIdle_sameLists _ now).sub
  rcases q.getExpiredEventLocked_cases now next t with ⟨e, -, h⟩ | ⟨-, e, -, h⟩ | ⟨-, -, h⟩
  · rw [h]
    simp only [refreshFront_sub]
    split
    · exact ⟨rfl, hmax⟩
    · exact ⟨rfl, hmax⟩
  · rw [h]
    simp only
    rw [pickIdle_eq]
    simp only
    rw [hidle]
    exact ⟨rfl, hmax⟩
  · rw [h]
    simp only
    rw [hidle]
    exact ⟨rfl, hmax⟩

/-! ## What a turn of GetEvent does -/

/-- The queue as a turn sees it after `CheckBarrierMode`, and the answer it gets then. -/
def expired (P : SystemParameters) (clk : PassClock) (q : EventQueueBase) : ExpiredOutcome :=
  (q.checkBarrierMode P clk.check clk.enter).getExpiredEventLocked clk.now clk.next TimePoint.max

/-- The five ways a turn ends. -/
inductive PassEffect (P : SystemParameters) (clk : PassClock) (q : EventQueueBase) :
    PassOutcome → Prop
  | finished (hf : q.finished = true) : PassEffect P clk q ⟨q, .finished⟩
  | expired (e : InnerEvent) (hf : q.finished = false) (he : (q.expired P clk).event = some e) :
      PassEffect P clk q ⟨(q.expired P clk).queue,
        if (q.expired P clk).queue.needsPoll clk.poll then .poll e (q.expired P clk).queue.needEpoll
        else .returned e⟩
  | lastVsync (e : InnerEvent) (hf : q.finished = false) (hn : (q.expired P clk).event = none)
      (hs : (q.expired P clk).queue.sumOfPendingVsync ≠ 0)
      (he : (q.expired P clk).queue.pickFirstVsyncEventLocked.1 = some e) :
      PassEffect P clk q ⟨(q.expired P clk).queue.pickFirstVsyncEventLocked.2, .returned e⟩
  | reset (hf : q.finished = false) (hn : (q.expired P clk).event = none)
      (hs : (q.expired P clk).queue.sumOfPendingVsync ≠ 0)
      (he : (q.expired P clk).queue.pickFirstVsyncEventLocked.1 = none) :
      PassEffect P clk q
        ⟨(q.expired P clk).queue.pickFirstVsyncEventLocked.2.resetPending, .again⟩
  | wait (hf : q.finished = false) (hn : (q.expired P clk).event = none)
      (hs : (q.expired P clk).queue.sumOfPendingVsync = 0) :
      PassEffect P clk q
        ⟨((q.expired P clk).queue.beforeWaiting clk.consumer (q.expired P clk).nextExpiredTime).1,
          .wait ((q.expired P clk).queue.beforeWaiting clk.consumer
            (q.expired P clk).nextExpiredTime).2⟩

/-- **Inversion of a turn.** -/
theorem getEventPass_cases (P : SystemParameters) (clk : PassClock) (q : EventQueueBase) :
    PassEffect P clk q (q.getEventPass P clk) := by
  have hq : q.getEventPass P clk =
      if q.finished then ⟨q, .finished⟩ else afterExpired clk (q.expired P clk) := rfl
  rw [hq]
  split
  · rename_i hf
    exact .finished hf
  · rename_i hf
    rw [Bool.not_eq_true] at hf
    unfold afterExpired
    split
    · rename_i e he
      exact .expired e hf he
    · rename_i hn
      split
      · rename_i hs
        split
        · rename_i e q' hp
          have h : PassEffect P clk q _ := .lastVsync e hf hn hs (by rw [hp])
          rw [hp] at h
          exact h
        · rename_i q' hp
          have h : PassEffect P clk q _ := .reset hf hn hs (by rw [hp])
          rw [hp] at h
          exact h
      · rename_i hs
        rw [ne_eq, not_not] at hs
        exact .wait hf hn hs

theorem beforeWaiting_sameLists (q : EventQueueBase) (consumer : Nat) (t : Int) :
    SameLists q (q.beforeWaiting consumer t).1 := by
  unfold beforeWaiting
  split <;> exact ⟨rfl, rfl⟩

theorem beforeWaiting_sameControl (q : EventQueueBase) (consumer : Nat) (t : Int) :
    SameControl q (q.beforeWaiting consumer t).1 := by
  unfold beforeWaiting
  split <;> rfl

theorem resetPending_sameLists (q : EventQueueBase) : SameLists q q.resetPending := ⟨rfl, rfl⟩

theorem afterWait_sameLists (q : EventQueueBase) : SameLists q q.afterWait := ⟨rfl, rfl⟩

/-- What a turn leaves alone: neither `CheckBarrierMode` nor the search for an event writes it. -/
structure SamePassFrame (q q' : EventQueueBase) : Prop where
  usable : q'.usable = q.usable
  finished : q'.finished = q.finished
  needEpoll : q'.needEpoll = q.needEpoll
  period : q'.vsyncPeriod = q.vsyncPeriod
  check : q'.vsyncCheckTime = q.vsyncCheckTime
  recv : q'.vsyncRecvTime = q.vsyncRecvTime
  complete : q'.vsyncCompleteTime = q.vsyncCompleteTime

theorem SameControl.passFrame {P : SystemParameters} {now enter : ClockTime}
    {q q' : EventQueueBase} (h : SameControl (q.checkBarrierMode P now enter) q') :
    SamePassFrame q q' := by
  unfold SameControl at h
  rw [h, checkBarrierMode_eq]
  exact ⟨rfl, rfl, rfl, rfl, rfl, rfl, rfl⟩

theorem getEventPass_frame (P : SystemParameters) (clk : PassClock) (q : EventQueueBase) :
    SamePassFrame q (q.getEventPass P clk).queue := by
  have hexp : SameControl (q.checkBarrierMode P clk.check clk.enter) (q.expired P clk).queue :=
    getExpiredEventLocked_sameControl _ clk.now clk.next TimePoint.max
  have hx := q.getEventPass_cases P clk
  generalize q.getEventPass P clk = o at hx
  cases hx with
  | finished _ => exact ⟨rfl, rfl, rfl, rfl, rfl, rfl, rfl⟩
  | expired e _ _ => exact hexp.passFrame
  | lastVsync e _ _ _ _ => exact (hexp.trans (pickFirstVsync_frame _).sameControl).passFrame
  | reset _ _ _ _ =>
    obtain ⟨h₁, h₂, h₃, h₄, h₅, h₆, h₇⟩ :=
      (hexp.trans (pickFirstVsync_frame _).sameControl).passFrame
    exact ⟨h₁, h₂, h₃, h₄, h₅, h₆, h₇⟩
  | wait _ _ _ => exact (hexp.trans (beforeWaiting_sameControl _ _ _)).passFrame

/-- `TryEpollFd` writes three fields when it holds the lock again. -/
theorem afterPoll_eq (need : Bool) (q : EventQueueBase) :
    q.afterPoll need = { q with
      needEpoll := (q.afterPoll need).needEpoll
      vsyncPeriod := (q.afterPoll need).vsyncPeriod
      vsyncCheckTime := (q.afterPoll need).vsyncCheckTime } := by
  unfold afterPoll
  repeat' split
  all_goals rfl

theorem afterPoll_sameLists (need : Bool) (q : EventQueueBase) : SameLists q (q.afterPoll need) := by
  rw [afterPoll_eq]
  exact ⟨rfl, rfl⟩

theorem pickFirstVsync_none_same {q : EventQueueBase} (h : q.pickFirstVsyncEventLocked.1 = none) :
    SameEvents q q.pickFirstVsyncEventLocked.2 := by
  intro k
  cases k with
  | none => rfl
  | some i =>
    by_cases hi : i = 0
    · subst hi
      simp only [pickFirstVsyncEventLocked, popFirst, setQueue, events_some, setSub_self]
      rw [List.eraseP_of_forall_not]
      intro e he
      rw [pickFirstVsync_none h e he]
      decide
    · simp [pickFirstVsyncEventLocked, setQueue, setSub_ne q _ hi]

theorem expired_sameEvents_check (P : SystemParameters) (clk : PassClock) (q : EventQueueBase) :
    SameEvents q (q.checkBarrierMode P clk.check clk.enter) :=
  (q.sameLists_checkBarrierMode P clk.check clk.enter).sameEvents

theorem expired_sum (P : SystemParameters) (clk : PassClock) (q : EventQueueBase) :
    (q.expired P clk).queue.sumOfPendingVsync = q.sumOfPendingVsync :=
  (getExpiredEventLocked_sameControl _ clk.now clk.next TimePoint.max).sum.trans
    (q.checkBarrierMode_sum P clk.check clk.enter)

theorem expired_none_same {P : SystemParameters} {clk : PassClock} {q : EventQueueBase}
    (h : (q.expired P clk).event = none) : SameEvents q (q.expired P clk).queue := fun k =>
  ((getExpiredEventLocked_none h).2.1 k).trans (q.expired_sameEvents_check P clk k)

/-- In sorted lists every event of a sub-queue is bounded by the wake-up time found. -/
theorem expired_none_wakeUpTime_le {P : SystemParameters} {clk : PassClock} {q : EventQueueBase}
    (h : (q.expired P clk).event = none) {i : SubIndex}
    (hs : SortedByHandleTime (q.events (some i))) :
    ∀ e ∈ q.events (some i), (q.expired P clk).queue.wakeUpTime ≤ e.handleTime := by
  refine hs.le_of_head fun x hx => ?_
  rw [← q.expired_sameEvents_check P clk (some i)] at hx
  exact (getExpiredEventLocked_none h).2.2.1 i x hx

/-- **A turn that yields an event takes it by one of the rules.** -/
theorem getEventPass_some {P : SystemParameters} {clk : PassClock} {q : EventQueueBase}
    {e : InnerEvent} (h : (q.getEventPass P clk).pass.event = some e) :
    ∃ p k, TakeRule (q.checkBarrierMode P clk.check clk.enter) clk.now e p k ∧
      Takes p k e q (q.getEventPass P clk).queue := by
  have hc := q.expired_sameEvents_check P clk
  have hx := q.getEventPass_cases P clk
  generalize q.getEventPass P clk = o at h hx
  cases hx with
  | finished hf => cases h
  | expired x hf he =>
    have hxe : x = e := by
      simp only at h
      split at h <;> exact Option.some.inj h
    subst hxe
    obtain ⟨p, k, hrule, htk⟩ := getExpiredEventLocked_some he
    exact ⟨p, k, hrule, htk.of_same hc⟩
  | lastVsync x hf hn hs he =>
    cases h
    refine ⟨_, _, .lastVsync ?_, (pickFirstVsync_some he).of_same (expired_none_same hn)⟩
    rw [q.expired_sum P clk] at hs
    rw [q.checkBarrierMode_sum P clk.check clk.enter]
    exact hs
  | reset hf hn hs he => cases h
  | wait hf hn hs => cases h

/-- A turn that yields no event leaves the lists as they are. -/
theorem getEventPass_none {P : SystemParameters} {clk : PassClock} {q : EventQueueBase}
    (h : (q.getEventPass P clk).pass.event = none) : SameEvents q (q.getEventPass P clk).queue := by
  have hx := q.getEventPass_cases P clk
  generalize q.getEventPass P clk = o at h hx
  cases hx with
  | finished hf => exact fun _ => rfl
  | expired x hf he =>
    simp only at h
    split at h <;> cases h
  | lastVsync x hf hn hs he => cases h
  | reset hf hn hs he =>
    intro k
    rw [(resetPending_sameLists _).events k, pickFirstVsync_none_same he k, expired_none_same hn k]
  | wait hf hn hs =>
    intro k
    rw [(beforeWaiting_sameLists _ _ _).events k, expired_none_same hn k]

/-- The counters after a turn are those `PickEventLocked` left in it. -/
theorem getEventPass_count {P : SystemParameters} {clk : PassClock} {q : EventQueueBase}
    (hf : q.finished = false) (i : SubIndex) :
    ((q.getEventPass P clk).queue.subEventQueues i).handledEventsCount =
        (((q.checkBarrierMode P clk.check clk.enter).pickEventLocked clk.now.ns
          TimePoint.max).queue.subEventQueues i).handledEventsCount ∧
      ((q.getEventPass P clk).queue.subEventQueues i).maxHandledEventsCount =
        (q.subEventQueues i).maxHandledEventsCount := by
  have hc := getExpiredEventLocked_count (q.checkBarrierMode P clk.check clk.enter) clk.now clk.next
    TimePoint.max i
  have hq : (q.checkBarrierMode P clk.check clk.enter).subEventQueues = q.subEventQueues :=
    (q.sameLists_checkBarrierMode P clk.check clk.enter).sub
  rw [hq] at hc
  have hv : ∀ r : EventQueueBase,
      (r.pickFirstVsyncEventLocked.2.subEventQueues i).handledEventsCount =
        (r.subEventQueues i).handledEventsCount := fun r => setQueue_count r 0 i _
  have hm : ∀ r : EventQueueBase,
      (r.pickFirstVsyncEventLocked.2.subEventQueues i).maxHandledEventsCount =
        (r.subEventQueues i).maxHandledEventsCount := fun r => (pickFirstVsync_frame r).max i
  have hx := q.getEventPass_cases P clk
  generalize q.getEventPass P clk = o at hx
  cases hx with
  | finished h => rw [hf] at h; cases h
  | expired x _ he => exact hc
  | lastVsync x _ hn hs he => exact ⟨(hv _).trans hc.1, (hm _).trans hc.2⟩
  | reset _ hn hs he => exact ⟨(hv _).trans hc.1, (hm _).trans hc.2⟩
  | wait _ hn hs =>
    simp only [(beforeWaiting_sameLists _ _ _).sub]
    exact hc

end EventQueueBase

end AppExecFwk
