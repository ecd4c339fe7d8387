import EventHandler.PickLoop

/-!
# Picking an event

Model of `PickFirstVsyncEventLocked` and `PickEventLocked`.

* `Takes p k e q q'` — `q'` is `q` without `e`, the first event of slot `k` that satisfies `p`.
* `PickRule` — the three picks of `PickEventLocked`: the head of a due sub-queue, the first barrier
  task of one, the first vsync task of `VIP`.
* `pickEventLocked_some`, `pickEventLocked_none` — what its answer says about the lists.
* `pickEventLocked_frame` — what it leaves alone.
* `pickEventLocked_bypass` — the counters it moves when it passes over a due sub-queue.
-/

set_option autoImplicit false

namespace AppExecFwk

open StableList

/-- What a pick returns: the event, the queue, and `nextWakeUpTime`. -/
structure PickOutcome where
  event : Option InnerEvent
  queue : EventQueueBase
  nextWakeUpTime : Int

namespace EventQueueBase

/-- The queue with another list in sub-queue `i`. -/
def setQueue (q : EventQueueBase) (i : SubIndex) (events : List InnerEvent) : EventQueueBase :=
  q.setSub i { q.subEventQueues i with queue := events }

/-- `PickFirstVsyncEventLocked`. -/
def pickFirstVsyncEventLocked (q : EventQueueBase) : Option InnerEvent × EventQueueBase :=
  let r := popFirst InnerEvent.isVsync (q.subEventQueues 0).queue
  (r.1, q.setQueue 0 r.2)

/-- The indices of `subEventQueues_`, in order. -/
def subIndices : List SubIndex := [0, 1, 2, 3]

/-- `handledEventsCount = 0` for the sub-queues above `r`. -/
def resetHandled (q : EventQueueBase) (r : SubIndex) : EventQueueBase :=
  { q with
    subEventQueues := fun i =>
      if i < r then { q.subEventQueues i with handledEventsCount := 0 } else q.subEventQueues i }

/-- The condition of the vsync pick: the loop ended at `HIGH` or later, or nowhere. -/
def vsyncTurn (q : EventQueueBase) (priorityIndex : Option SubIndex) : Bool :=
  (match priorityIndex with
    | some r => decide (2 ≤ r.val)
    | none => true) && decide (q.sumOfPendingVsync ≠ 0) && !q.needEpoll

/-- The pop at the end of `PickEventLocked`. -/
def popChosen (q : EventQueueBase) (isBarrierMode : Bool) (r : SubIndex) :
    Option InnerEvent × EventQueueBase :=
  let popped :=
    if isBarrierMode then popFrontBarrierEventFromListLocked (q.subEventQueues r).queue
    else popFrontEventFromListLocked (q.subEventQueues r).queue
  (popped.1, q.setQueue r popped.2)

/-- `PickEventLocked`. -/
def pickEventLocked (q : EventQueueBase) (now nextWakeUpTime : Int) : PickOutcome :=
  let st := pickLoop q.isBarrierMode now subIndices ⟨q, none, nextWakeUpTime⟩
  let vsync := st.queue.pickFirstVsyncEventLocked
  if q.vsyncTurn st.priorityIndex && vsync.1.isSome then ⟨vsync.1, vsync.2, st.nextWakeUpTime⟩
  else match st.priorityIndex with
    | none => ⟨none, st.queue, st.nextWakeUpTime⟩
    | some r =>
      let popped := (st.queue.resetHandled r).popChosen q.isBarrierMode r
      ⟨popped.1, popped.2, st.nextWakeUpTime⟩

/-! ## Taking one event -/

/-- `q'` is `q` without `e`, the first event of slot `k` that satisfies `p`. -/
structure Takes (p : InnerEvent → Bool) (k : Option SubIndex) (e : InnerEvent)
    (q q' : EventQueueBase) : Prop where
  found : (q.events k).find? p = some e
  rest : q'.events k = (q.events k).eraseP p
  other : ∀ l, l ≠ k → q'.events l = q.events l

/-- Lists equal slot by slot. -/
def SameEvents (q q' : EventQueueBase) : Prop := ∀ k, q'.events k = q.events k

theorem SameLists.sameEvents {q q' : EventQueueBase} (h : SameLists q q') : SameEvents q q' :=
  h.events

theorem Takes.of_same {p : InnerEvent → Bool} {k : Option SubIndex} {e : InnerEvent}
    {q q₁ q' : EventQueueBase} (h : SameEvents q q₁) (ht : Takes p k e q₁ q') : Takes p k e q q' :=
  ⟨by rw [← h k]; exact ht.found, by rw [ht.rest, h k], fun l hl => by rw [ht.other l hl, h l]⟩

theorem Takes.mem {p : InnerEvent → Bool} {k : Option SubIndex} {e : InnerEvent}
    {q q' : EventQueueBase} (h : Takes p k e q q') : e ∈ q.events k :=
  List.mem_of_find?_eq_some h.found

theorem Takes.pred {p : InnerEvent → Bool} {k : Option SubIndex} {e : InnerEvent}
    {q q' : EventQueueBase} (h : Takes p k e q q') : p e = true :=
  List.find?_some h.found

/-- What is left in a slot was there before. -/
theorem Takes.sublist {p : InnerEvent → Bool} {k : Option SubIndex} {e : InnerEvent}
    {q q' : EventQueueBase} (h : Takes p k e q q') (l : Option SubIndex) :
    (q'.events l).Sublist (q.events l) := by
  by_cases hl : l = k
  · subst hl
    rw [h.rest]
    exact List.eraseP_sublist
  · rw [h.other l hl]

theorem setQueue_takes {q : EventQueueBase} {p : InnerEvent → Bool} {r : SubIndex} {e : InnerEvent}
    (h : (q.subEventQueues r).queue.find? p = some e) :
    Takes p (some r) e q (q.setQueue r ((q.subEventQueues r).queue.eraseP p)) := by
  refine ⟨h, ?_, fun l hl => ?_⟩
  · simp [setQueue]
  · cases l with
    | none => rfl
    | some i =>
      have hi : i ≠ r := fun hi => hl (by rw [hi])
      simp [setQueue, setSub_ne q _ hi]

/-! ## The frame -/

/-- What a pick leaves alone: everything but the lists and the counters of handled events. -/
structure PickFrame (q q' : EventQueueBase) : Prop where
  rest : q' = { q with subEventQueues := q'.subEventQueues }
  max : ∀ i,
    (q'.subEventQueues i).maxHandledEventsCount = (q.subEventQueues i).maxHandledEventsCount
  front : ∀ i,
    (q'.subEventQueues i).frontEventHandleTime = (q.subEventQueues i).frontEventHandleTime

theorem PickFrame.refl (q : EventQueueBase) : PickFrame q q := ⟨rfl, fun _ => rfl, fun _ => rfl⟩

theorem PickFrame.trans {q q' q'' : EventQueueBase} (h : PickFrame q q') (h' : PickFrame q' q'') :
    PickFrame q q'' := by
  refine ⟨?_, fun i => (h'.max i).trans (h.max i), fun i => (h'.front i).trans (h.front i)⟩
  have h₁ := h'.rest
  rw [h.rest] at h₁
  exact h₁

theorem PickFrame.sameControl {q q' : EventQueueBase} (h : PickFrame q q') : SameControl q q' := by
  unfold SameControl
  rw [h.rest]

theorem countHandled_frame (q : EventQueueBase) (r : SubIndex) : PickFrame q (q.countHandled r) := by
  refine ⟨rfl, fun i => ?_, fun i => ?_⟩
  · by_cases h : i = r
    · subst h; simp [countHandled]
    · simp [countHandled, setSub_ne q _ h]
  · by_cases h : i = r
    · subst h; simp [countHandled]
    · simp [countHandled, setSub_ne q _ h]

theorem countHandled_same (q : EventQueueBase) (r : SubIndex) : SameEvents q (q.countHandled r) := by
  intro k
  cases k with
  | none => rfl
  | some i =>
    by_cases h : i = r
    · subst h; simp [countHandled]
    · simp [countHandled, setSub_ne q _ h]

theorem resetHandled_frame (q : EventQueueBase) (r : SubIndex) : PickFrame q (q.resetHandled r) := by
  refine ⟨rfl, fun i => ?_, fun i => ?_⟩ <;> · unfold resetHandled; simp only; split <;> rfl

theorem resetHandled_same (q : EventQueueBase) (r : SubIndex) : SameEvents q (q.resetHandled r) := by
  intro k
  cases k with
  | none => rfl
  | some i => simp only [events_some, resetHandled]; split <;> rfl

theorem setQueue_frame (q : EventQueueBase) (r : SubIndex) (events : List InnerEvent) :
    PickFrame q (q.setQueue r events) := by
  refine ⟨rfl, fun i => ?_, fun i => ?_⟩
  · by_cases h : i = r
    · subst h; simp [setQueue]
    · simp [setQueue, setSub_ne q _ h]
  · by_cases h : i = r
    · subst h; simp [setQueue]
    · simp [setQueue, setSub_ne q _ h]

/-- The loop leaves the lists as they are. -/
theorem pickLoop_frame (b : Bool) (now : Int) (is : List SubIndex) (st : PickLoop) :
    PickFrame st.queue (pickLoop b now is st).queue ∧
      SameEvents st.queue (pickLoop b now is st).queue := by
  rcases pickLoop_queue b now is st with h | ⟨p, -, -, h⟩
  · rw [h]
    exact ⟨PickFrame.refl _, fun _ => rfl⟩
  · rw [h]
    exact ⟨countHandled_frame _ p, countHandled_same _ p⟩

/-! ## What a pick does -/

theorem pickFirstVsync_some {q : EventQueueBase} {e : InnerEvent}
    (h : q.pickFirstVsyncEventLocked.1 = some e) :
    Takes InnerEvent.isVsync (some 0) e q q.pickFirstVsyncEventLocked.2 := setQueue_takes h

theorem pickFirstVsync_none {q : EventQueueBase} (h : q.pickFirstVsyncEventLocked.1 = none) :
    ∀ e ∈ q.events (some 0), e.isVsync = false := by
  intro e he
  simpa using List.find?_eq_none.1 h e he

theorem pickFirstVsync_frame (q : EventQueueBase) : PickFrame q q.pickFirstVsyncEventLocked.2 :=
  setQueue_frame q 0 _

/-- The three picks of `PickEventLocked`, with the filter and the slot they take from. -/
inductive PickRule (q : EventQueueBase) (now : Int) (e : InnerEvent) :
    (InnerEvent → Bool) → SubIndex → Prop
  | head (r : SubIndex) (hb : q.isBarrierMode = false) (hdue : e.handleTime ≤ now) :
      PickRule q now e (fun _ => true) r
  | barrier (r : SubIndex) (hb : q.isBarrierMode = true) (hdue : e.handleTime ≤ now) :
      PickRule q now e InnerEvent.isBarrier r
  | vsync (hs : q.sumOfPendingVsync ≠ 0) (hn : q.needEpoll = false) :
      PickRule q now e InnerEvent.isVsync 0

theorem popChosen_takes {q : EventQueueBase} {b : Bool} {r : SubIndex} {now : Int}
    (h : Competes b (q.subEventQueues r).queue now) :
    ∃ e p, (q.popChosen b r).1 = some e ∧ Takes p (some r) e q (q.popChosen b r).2 ∧
      e.handleTime ≤ now ∧
      ((b = false ∧ p = fun _ => true) ∨ (b = true ∧ p = InnerEvent.isBarrier)) := by
  cases b with
  | true =>
    obtain ⟨e, he, hd⟩ := h
    exact ⟨e, InnerEvent.isBarrier, he, setQueue_takes he, hd, Or.inr ⟨rfl, rfl⟩⟩
  | false =>
    obtain ⟨e, he, hd⟩ := h
    have hf : (q.subEventQueues r).queue.find? (fun _ => true) = some e := by
      cases hl : (q.subEventQueues r).queue with
      | nil => rw [hl] at he; cases he
      | cons x xs => rw [hl] at he; exact he
    have hpop : q.popChosen false r =
        (some e, q.setQueue r ((q.subEventQueues r).queue.eraseP (fun _ => true))) := by
      simp only [popChosen, Bool.false_eq_true, if_false, popFront_eq, popFirst, hf]
    rw [hpop]
    exact ⟨e, fun _ => true, rfl, setQueue_takes hf, hd, Or.inl ⟨rfl, rfl⟩⟩

theorem popChosen_frame (q : EventQueueBase) (b : Bool) (r : SubIndex) :
    PickFrame q (q.popChosen b r).2 := setQueue_frame q r _

/-- The queue the loop of a call leaves. -/
def afterLoop (q : EventQueueBase) (now next : Int) : PickLoop :=
  pickLoop q.isBarrierMode now subIndices ⟨q, none, next⟩

theorem afterLoop_frame (q : EventQueueBase) (now next : Int) :
    PickFrame q (q.afterLoop now next).queue ∧ SameEvents q (q.afterLoop now next).queue :=
  pickLoop_frame q.isBarrierMode now subIndices ⟨q, none, next⟩

/-- The three ways a call of `PickEventLocked` ends. -/
theorem pickEventLocked_cases (q : EventQueueBase) (now next : Int) :
    let st := q.afterLoop now next
    let vsync := st.queue.pickFirstVsyncEventLocked
    (∃ e, vsync.1 = some e ∧ q.vsyncTurn st.priorityIndex = true ∧
      q.pickEventLocked now next = ⟨some e, vsync.2, st.nextWakeUpTime⟩) ∨
    ((q.vsyncTurn st.priorityIndex = true → vsync.1 = none) ∧ st.priorityIndex = none ∧
      q.pickEventLocked now next = ⟨none, st.queue, st.nextWakeUpTime⟩) ∨
    ((q.vsyncTurn st.priorityIndex = true → vsync.1 = none) ∧ ∃ r, st.priorityIndex = some r ∧
      Competes q.isBarrierMode (q.subEventQueues r).queue now ∧
      q.pickEventLocked now next =
        ⟨((st.queue.resetHandled r).popChosen q.isBarrierMode r).1,
          ((st.queue.resetHandled r).popChosen q.isBarrierMode r).2, st.nextWakeUpTime⟩) := by
  intro st vsync
  have hpick : q.pickEventLocked now next =
      if (q.vsyncTurn st.priorityIndex && vsync.1.isSome) = true then
        ⟨vsync.1, vsync.2, st.nextWakeUpTime⟩
      else match st.priorityIndex with
        | none => ⟨none, st.queue, st.nextWakeUpTime⟩
        | some r => ⟨((st.queue.resetHandled r).popChosen q.isBarrierMode r).1,
            ((st.queue.resetHandled r).popChosen q.isBarrierMode r).2, st.nextWakeUpTime⟩ := rfl
  rw [hpick]
  split
  · rename_i hv
    rw [Bool.and_eq_true, Option.isSome_iff_exists] at hv
    obtain ⟨ht, e, he⟩ := hv
    exact Or.inl ⟨e, he, ht, by rw [he]⟩
  · rename_i hv
    have hnv : q.vsyncTurn st.priorityIndex = true → vsync.1 = none := by
      intro ht
      rw [ht, Bool.true_and, Bool.not_eq_true] at hv
      exact Option.isSome_eq_false_iff.1 hv |> Option.isNone_iff_eq_none.1
    split
    · rename_i hp
      exact Or.inr (Or.inl ⟨hnv, hp, rfl⟩)
    · rename_i r hp
      refine Or.inr (Or.inr ⟨hnv, r, hp, ?_, rfl⟩)
      rcases pickLoop_some q.isBarrierMode now subIndices ⟨q, none, next⟩ r hp with h | ⟨-, h⟩
      · cases h
      · exact h

theorem pickEventLocked_frame (q : EventQueueBase) (now next : Int) :
    PickFrame q (q.pickEventLocked now next).queue := by
  have hl := (q.afterLoop_frame now next).1
  rcases q.pickEventLocked_cases now next with ⟨e, -, -, h⟩ | ⟨-, -, h⟩ | ⟨-, r, -, -, h⟩
  · rw [h]
    exact hl.trans (pickFirstVsync_frame _)
  · rw [h]
    exact hl
  · rw [h]
    exact (hl.trans (resetHandled_frame _ r)).trans (popChosen_frame _ _ r)

/-- **A picked event is taken by one of the three rules.** -/
theorem pickEventLocked_some {q : EventQueueBase} {now next : Int} {e : InnerEvent}
    (h : (q.pickEventLocked now next).event = some e) :
    ∃ p i, PickRule q now e p i ∧ Takes p (some i) e q (q.pickEventLocked now next).queue := by
  have hl := (q.afterLoop_frame now next).2
  rcases q.pickEventLocked_cases now next with ⟨e', he, ht, hp⟩ | ⟨-, -, hp⟩ | ⟨-, r, -, hc, hp⟩
  · rw [hp] at h ⊢
    cases h
    simp only [vsyncTurn, Bool.and_eq_true, decide_eq_true_eq, Bool.not_eq_true'] at ht
    exact ⟨_, _, .vsync ht.1.2 ht.2, (pickFirstVsync_some he).of_same hl⟩
  · rw [hp] at h
    cases h
  · rw [hp] at h ⊢
    have hs : SameEvents q ((q.afterLoop now next).queue.resetHandled r) := fun k =>
      (resetHandled_same _ r k).trans (hl k)
    have hc' : Competes q.isBarrierMode
        (((q.afterLoop now next).queue.resetHandled r).subEventQueues r).queue now := by
      have hr := hs (some r)
      rw [events_some, events_some] at hr
      rw [hr]
      exact hc
    obtain ⟨x, p, hx, htk, hd, hrule⟩ := popChosen_takes hc'
    rw [hx] at h
    cases h
    rcases hrule with ⟨hb, rfl⟩ | ⟨hb, rfl⟩
    · exact ⟨_, _, .head r hb hd, htk.of_same hs⟩
    · exact ⟨_, _, .barrier r hb hd, htk.of_same hs⟩

theorem popChosen_some_of_competes {q : EventQueueBase} {b : Bool} {r : SubIndex} {now : Int}
    (h : Competes b (q.subEventQueues r).queue now) : (q.popChosen b r).1 ≠ none := by
  obtain ⟨e, p, he, -⟩ := popChosen_takes h
  rw [he]
  simp

/-- **Nothing picked**: the lists are unchanged, the wake-up time is at most every head; outside
    barrier mode it is later than `now`. -/
theorem pickEventLocked_none {q : EventQueueBase} {now next : Int}
    (h : (q.pickEventLocked now next).event = none) :
    SameEvents q (q.pickEventLocked now next).queue ∧
      (q.pickEventLocked now next).nextWakeUpTime ≤ next ∧
      (∀ i, ∃ t, (checkList q.isBarrierMode (q.subEventQueues i).queue now t).1 = false) ∧
      (∀ i e, (q.subEventQueues i).queue.head? = some e →
        (q.pickEventLocked now next).nextWakeUpTime ≤ e.handleTime) ∧
      (q.isBarrierMode = false → now < next →
        now < (q.pickEventLocked now next).nextWakeUpTime) := by
  have hl := (q.afterLoop_frame now next).2
  have hmem : ∀ i : SubIndex, i ∈ subIndices := by decide
  rcases q.pickEventLocked_cases now next with ⟨e', he, ht, hp⟩ | ⟨-, hn, hp⟩ | ⟨-, r, -, hc, hp⟩
  · rw [hp] at h
    cases h
  · obtain ⟨-, hle, hno, hh, hlt⟩ :=
      pickLoop_none q.isBarrierMode now subIndices ⟨q, none, next⟩ (by decide) hn
    rw [hp]
    exact ⟨hl, hle, fun i => hno i (hmem i), fun i => hh i (hmem i), hlt⟩
  · rw [hp] at h
    have hr : (((q.afterLoop now next).queue.resetHandled r).subEventQueues r).queue =
        (q.subEventQueues r).queue := (resetHandled_same _ r (some r)).trans (hl (some r))
    rw [← hr] at hc
    exact absurd h (popChosen_some_of_competes hc)

/-! ## The counters of handled events -/

/-- No counter is above its maximum. -/
def CountsBounded (q : EventQueueBase) : Prop :=
  ∀ i, (q.subEventQueues i).handledEventsCount ≤ (q.subEventQueues i).maxHandledEventsCount

theorem countHandled_count (q : EventQueueBase) (r i : SubIndex) :
    ((q.countHandled r).subEventQueues i).handledEventsCount =
      if i = r then (q.subEventQueues r).handledEventsCount + 1
      else (q.subEventQueues i).handledEventsCount := by
  split
  · rename_i h; subst h; simp [countHandled]
  · rename_i h; simp [countHandled, setSub_ne q _ h]

theorem resetHandled_count (q : EventQueueBase) (r i : SubIndex) :
    ((q.resetHandled r).subEventQueues i).handledEventsCount =
      if i < r then 0 else (q.subEventQueues i).handledEventsCount := by
  unfold resetHandled
  simp only
  split <;> rfl

theorem setQueue_count (q : EventQueueBase) (r i : SubIndex) (events : List InnerEvent) :
    ((q.setQueue r events).subEventQueues i).handledEventsCount =
      (q.subEventQueues i).handledEventsCount := by
  by_cases h : i = r
  · subst h; simp [setQueue]
  · simp [setQueue, setSub_ne q _ h]

theorem afterLoop_counts {q : EventQueueBase} (h : q.CountsBounded) (now next : Int) :
    (q.afterLoop now next).queue.CountsBounded := by
  rcases pickLoop_queue q.isBarrierMode now subIndices ⟨q, none, next⟩ with hq | ⟨p, -, hp, hq⟩
  · unfold afterLoop
    rw [hq]
    exact h
  · unfold afterLoop
    rw [hq]
    intro i
    rw [(countHandled_frame q p).max i, countHandled_count]
    split
    · rename_i hi; subst hi; exact hp
    · exact h i

/-- A pick keeps the counters within their bounds. -/
theorem pickEventLocked_counts {q : EventQueueBase} (h : q.CountsBounded) (now next : Int) :
    (q.pickEventLocked now next).queue.CountsBounded := by
  have ha := afterLoop_counts h now next
  rcases q.pickEventLocked_cases now next with ⟨e, -, -, hp⟩ | ⟨-, -, hp⟩ | ⟨-, r, -, -, hp⟩
  · rw [hp]
    intro i
    rw [(pickFirstVsync_frame _).max i]
    unfold pickFirstVsyncEventLocked
    rw [setQueue_count]
    exact ha i
  · rw [hp]
    exact ha
  · rw [hp]
    intro i
    rw [(popChosen_frame _ _ r).max i, (resetHandled_frame _ r).max i]
    unfold popChosen
    rw [setQueue_count, resetHandled_count]
    split
    · exact Nat.zero_le _
    · exact ha i

/-- **A due sub-queue is passed over only by moving a counter above it**: outside barrier mode and
    with no vsync pending, if the head of `j` is due and earlier than every head above `j`, the call
    returns the head of some sub-queue `r`; if `r` is above `j`, its counter goes up by one within
    its quota, those above it go to zero, and the others stay. -/
theorem pickEventLocked_bypass {q : EventQueueBase} {now next : Int} {j : SubIndex} {e : InnerEvent}
    (hb : q.isBarrierMode = false) (hs : q.sumOfPendingVsync = 0)
    (he : (q.subEventQueues j).queue.head? = some e) (hdue : e.handleTime ≤ now)
    (hup : ∀ i < j, ∀ x, (q.subEventQueues i).queue.head? = some x → e.handleTime < x.handleTime)
    (hnext : e.handleTime < next) :
    ∃ r x, (q.pickEventLocked now next).event = some x ∧ (q.subEventQueues r).queue.head? = some x ∧
      (j ≤ r ∨ (r < j ∧ q.hasQuota r ∧ ∀ i,
        ((q.pickEventLocked now next).queue.subEventQueues i).handledEventsCount =
          if i < r then 0
          else if i = r then (q.subEventQueues r).handledEventsCount + 1
          else (q.subEventQueues i).handledEventsCount)) := by
  have hmem : j ∈ subIndices := by
    have : ∀ i : SubIndex, i ∈ subIndices := by decide
    exact this j
  obtain ⟨r, hr, hbp⟩ := pickLoop_bypass hdue subIndices ⟨q, none, next⟩ (by decide) hmem he hup hnext
    (fun p h => by cases h)
  rw [← hb] at hr hbp
  have hturn : ∀ o, q.vsyncTurn o = false := by
    intro o
    simp [vsyncTurn, hs]
  have hl := (q.afterLoop_frame now next).2
  rcases q.pickEventLocked_cases now next with ⟨_, -, ht, -⟩ | ⟨-, hn, -⟩ | ⟨-, r', hr', hc, hp⟩
  · rw [hturn] at ht
    cases ht
  · rw [afterLoop, hr] at hn
    cases hn
  · have hrr : r' = r := by
      rw [afterLoop, hr] at hr'
      exact (Option.some.inj hr').symm
    subst hrr
    have hq : (((q.afterLoop now next).queue.resetHandled r').subEventQueues r').queue =
        (q.subEventQueues r').queue := (resetHandled_same _ r' (some r')).trans (hl (some r'))
    rw [hb] at hc hp
    obtain ⟨x, hx, -⟩ := hc
    refine ⟨r', x, ?_, hx, ?_⟩
    · rw [hp]
      simp only [popChosen, Bool.false_eq_true, if_false, popFrontEventFromListLocked]
      rw [hq]
      exact hx
    · rcases hbp with h | ⟨hlt, hquota, hcount⟩
      · exact Or.inl h
      · refine Or.inr ⟨hlt, hquota, fun i => ?_⟩
        rw [hp]
        unfold popChosen
        rw [setQueue_count, resetHandled_count, afterLoop, hcount, countHandled_count]

end EventQueueBase

end AppExecFwk
