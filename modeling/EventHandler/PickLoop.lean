import EventHandler.Insert

/-!
# The loop that chooses a sub-queue

Model of the list helpers of `event_queue_base.cpp` and of the `for` loop of `PickEventLocked`: it
looks at the sub-queues from `VIP` to `LOW`, remembers the last one that competes, and stops at the
first one whose quota of handled events is not used up while a lower one competes.
`priorityIndex = none` stands for `SUB_EVENT_QUEUE_NUM`.

* `pickLoop_cons` — what one turn of the loop can do; the other results are inductions over it.
* `pickLoop_some` — the index it ends with competes: its head, or a barrier task of it, is due.
* `pickLoop_none` — without an index, no list competes and the wake-up time is at most every head.
* `pickLoop_bypass` — a due head earlier than all heads above it is passed over only by raising a
  counter above it.
-/

set_option autoImplicit false

namespace AppExecFwk

open StableList

/-! ## Helpers on one list -/

/-- `CheckEventInListLocked`: the result and the new `nextWakeUpTime`. -/
def checkEventInListLocked (events : List InnerEvent) (now nextWakeUpTime : Int) :
    Bool × Int :=
  match events with
  | [] => (false, nextWakeUpTime)
  | front :: _ =>
    if front.handleTime < nextWakeUpTime then (decide (front.handleTime ≤ now), front.handleTime)
    else (false, nextWakeUpTime)

/-- `CheckBarrierTaskInListLocked`: the result and the new `nextWakeUpTime`. -/
def checkBarrierTaskInListLocked (now : Int) : List InnerEvent → Int → Bool × Int
  | [], nextWakeUpTime => (false, nextWakeUpTime)
  | e :: es, nextWakeUpTime =>
    let next := if e.handleTime < nextWakeUpTime then e.handleTime else nextWakeUpTime
    if e.handleTime > now then (false, next)
    else if e.isBarrier then (true, next)
    else checkBarrierTaskInListLocked now es next

/-- `find_if`, `splice` and `pop_front`: the first match and the list without it. -/
def popFirst (filter : InnerEvent → Bool) (events : List InnerEvent) :
    Option InnerEvent × List InnerEvent :=
  (events.find? filter, events.eraseP filter)

/-- `PopFrontEventFromListLocked`. -/
def popFrontEventFromListLocked (events : List InnerEvent) : Option InnerEvent × List InnerEvent :=
  (events.head?, events.tail)

/-- `PopFrontBarrierEventFromListLocked`. -/
def popFrontBarrierEventFromListLocked (events : List InnerEvent) :
    Option InnerEvent × List InnerEvent :=
  popFirst InnerEvent.isBarrier events

/-- The filter of `PopFrontBarrierEventFromListWithTimeLocked`. -/
def barrierWithTime (sendTime handleTime : Int) (p : InnerEvent) : Bool :=
  p.isBarrier && decide (p.sendTime ≤ sendTime) && decide (p.handleTime ≤ handleTime)

/-- `PopFrontBarrierEventFromListWithTimeLocked`. -/
def popFrontBarrierEventFromListWithTimeLocked (events : List InnerEvent)
    (sendTime handleTime : Int) : Option InnerEvent × List InnerEvent :=
  popFirst (barrierWithTime sendTime handleTime) events

theorem popFront_eq (events : List InnerEvent) :
    popFrontEventFromListLocked events = popFirst (fun _ => true) events := by
  cases events <;> rfl

/-- The wake-up time does not rise, and is at most the first handle time. -/
theorem checkBarrier_snd (now : Int) : ∀ (events : List InnerEvent) (t : Int),
    (checkBarrierTaskInListLocked now events t).2 ≤ t ∧
      ∀ e, events.head? = some e → (checkBarrierTaskInListLocked now events t).2 ≤ e.handleTime := by
  intro events
  induction events with
  | nil => exact fun t => ⟨le_refl t, fun _ h => by cases h⟩
  | cons e es ih =>
    intro t
    have hnext : (if e.handleTime < t then e.handleTime else t) ≤ t ∧
        (if e.handleTime < t then e.handleTime else t) ≤ e.handleTime := by
      split <;> omega
    have hes := (ih (if e.handleTime < t then e.handleTime else t)).1
    have hle : (checkBarrierTaskInListLocked now (e :: es) t).2 ≤
        (if e.handleTime < t then e.handleTime else t) := by
      unfold checkBarrierTaskInListLocked
      simp only
      split
      · exact le_refl _
      · split
        · exact le_refl _
        · exact hes
    refine ⟨by omega, ?_⟩
    intro x hx
    cases hx
    omega

/-- Found: the first barrier task of the list is due. -/
theorem checkBarrier_true {now : Int} : ∀ {events : List InnerEvent} {t : Int},
    (checkBarrierTaskInListLocked now events t).1 = true →
      ∃ e, events.find? InnerEvent.isBarrier = some e ∧ e.handleTime ≤ now := by
  intro events
  induction events with
  | nil => exact fun h => by cases h
  | cons e es ih =>
    intro t h
    unfold checkBarrierTaskInListLocked at h
    simp only at h
    split at h
    · cases h
    · rename_i hdue
      split at h
      · rename_i hb
        exact ⟨e, by rw [List.find?_cons_of_pos hb], by omega⟩
      · rename_i hb
        obtain ⟨x, hx, hxn⟩ := ih h
        exact ⟨x, by rw [List.find?_cons_of_neg hb]; exact hx, hxn⟩

/-- Not found in a sorted list: no barrier task of the list is due. -/
theorem checkBarrier_false {now : Int} : ∀ {events : List InnerEvent} {t : Int},
    SortedByHandleTime events → (checkBarrierTaskInListLocked now events t).1 = false →
      ∀ e ∈ events, e.isBarrier = true → now < e.handleTime := by
  intro events
  induction events with
  | nil => exact fun _ _ _ he _ => (List.not_mem_nil he).elim
  | cons x xs ih =>
    intro t hs h e he hb
    unfold checkBarrierTaskInListLocked at h
    simp only at h
    split at h
    · rename_i hlate
      have := Sorted.head_le hs e he
      omega
    · split at h
      · cases h
      · rename_i hxb
        rcases List.mem_cons.1 he with rfl | he
        · exact absurd hb hxb
        · exact ih (List.pairwise_cons.1 hs).2 h e he hb

/-! ## The loop of PickEventLocked -/

/-- The test the loop makes on each list. -/
def checkList (isBarrierMode : Bool) (events : List InnerEvent) (now nextWakeUpTime : Int) :
    Bool × Int :=
  if isBarrierMode then checkBarrierTaskInListLocked now events nextWakeUpTime
  else checkEventInListLocked events now nextWakeUpTime

/-- The variables of the loop. -/
structure PickLoop where
  queue : EventQueueBase
  priorityIndex : Option SubIndex
  nextWakeUpTime : Int

namespace EventQueueBase

/-- `handledEventsCount++`. -/
def countHandled (q : EventQueueBase) (p : SubIndex) : EventQueueBase :=
  q.setSub p { q.subEventQueues p with
    handledEventsCount := (q.subEventQueues p).handledEventsCount + 1 }

/-- `subQueue.handledEventsCount < subQueue.maxHandledEventsCount`. -/
def hasQuota (q : EventQueueBase) (p : SubIndex) : Prop :=
  (q.subEventQueues p).handledEventsCount < (q.subEventQueues p).maxHandledEventsCount

instance (q : EventQueueBase) (p : SubIndex) : Decidable (q.hasQuota p) :=
  inferInstanceAs (Decidable (_ < _))

end EventQueueBase

/-- The `for` loop, over the indices still to look at. -/
def pickLoop (isBarrierMode : Bool) (now : Int) : List SubIndex → PickLoop → PickLoop
  | [], st => st
  | i :: is, st =>
    let r := checkList isBarrierMode (st.queue.subEventQueues i).queue now st.nextWakeUpTime
    if r.1 = false then pickLoop isBarrierMode now is { st with nextWakeUpTime := r.2 }
    else match st.priorityIndex with
      | some p =>
        if st.queue.hasQuota p then
          { st with queue := st.queue.countHandled p, nextWakeUpTime := r.2 }
        else
          pickLoop isBarrierMode now is { st with priorityIndex := some i, nextWakeUpTime := r.2 }
      | none =>
        pickLoop isBarrierMode now is { st with priorityIndex := some i, nextWakeUpTime := r.2 }

/-- The head of a list is due before `t`, or a barrier task of it is due: what `checkList` reports
    when it answers yes. -/
def Competes (isBarrierMode : Bool) (events : List InnerEvent) (now : Int) : Prop :=
  if isBarrierMode then ∃ e, events.find? InnerEvent.isBarrier = some e ∧ e.handleTime ≤ now
  else ∃ e, events.head? = some e ∧ e.handleTime ≤ now

theorem checkList_true {b : Bool} {events : List InnerEvent} {now t : Int}
    (h : (checkList b events now t).1 = true) : Competes b events now := by
  unfold checkList at h
  unfold Competes
  split
  · rename_i hb
    rw [if_pos hb] at h
    exact checkBarrier_true h
  · rename_i hb
    rw [if_neg hb] at h
    unfold checkEventInListLocked at h
    split at h
    · cases h
    · rename_i e es
      split at h
      · exact ⟨e, rfl, by simpa using h⟩
      · cases h

theorem checkList_snd (b : Bool) (events : List InnerEvent) (now t : Int) :
    (checkList b events now t).2 ≤ t ∧
      ∀ e, events.head? = some e → (checkList b events now t).2 ≤ e.handleTime := by
  unfold checkList
  split
  · exact checkBarrier_snd now events t
  · unfold checkEventInListLocked
    split
    · exact ⟨le_refl _, fun _ h => by cases h⟩
    · rename_i e es
      split
      · refine ⟨by omega, fun x hx => ?_⟩
        cases hx
        exact le_refl _
      · refine ⟨le_refl _, fun x hx => ?_⟩
        cases hx
        omega

/-- Outside barrier mode, a "no" keeps the wake-up time later than `now`. -/
theorem checkEvent_false_lt {events : List InnerEvent} {now t : Int} (hn : now < t)
    (h : (checkList false events now t).1 = false) : now < (checkList false events now t).2 := by
  unfold checkList checkEventInListLocked at *
  simp only [Bool.false_eq_true, if_false] at *
  split
  · exact hn
  · rename_i e es
    split
    · rename_i hlt
      simp only [hlt, if_true, decide_eq_false_iff_not] at h
      omega
    · exact hn

/-- What one turn of the loop does: skip the list, stop at the remembered index and count, or
    remember this one. -/
theorem pickLoop_cons (b : Bool) (now : Int) (i : SubIndex) (is : List SubIndex) (st : PickLoop) :
    let r := checkList b (st.queue.subEventQueues i).queue now st.nextWakeUpTime
    (r.1 = false ∧ pickLoop b now (i :: is) st = pickLoop b now is ⟨st.queue, st.priorityIndex, r.2⟩) ∨
    (r.1 = true ∧ ∃ p, st.priorityIndex = some p ∧ st.queue.hasQuota p ∧
      pickLoop b now (i :: is) st = ⟨st.queue.countHandled p, some p, r.2⟩) ∨
    (r.1 = true ∧ (∀ p, st.priorityIndex = some p → ¬ st.queue.hasQuota p) ∧
      pickLoop b now (i :: is) st = pickLoop b now is ⟨st.queue, some i, r.2⟩) := by
  intro r
  have hl : pickLoop b now (i :: is) st =
      if r.1 = false then pickLoop b now is ⟨st.queue, st.priorityIndex, r.2⟩
      else match st.priorityIndex with
        | some p =>
          if st.queue.hasQuota p then ⟨st.queue.countHandled p, st.priorityIndex, r.2⟩
          else pickLoop b now is ⟨st.queue, some i, r.2⟩
        | none => pickLoop b now is ⟨st.queue, some i, r.2⟩ := rfl
  rw [hl]
  split
  · rename_i hr
    exact Or.inl ⟨hr, rfl⟩
  · rename_i hr
    rw [Bool.not_eq_false] at hr
    split
    · rename_i p hp
      split
      · rename_i hq
        exact Or.inr (Or.inl ⟨hr, p, hp, hq, by rw [hp]⟩)
      · rename_i hq
        refine Or.inr (Or.inr ⟨hr, fun p' h => ?_, rfl⟩)
        rw [hp] at h
        cases h
        exact hq
    · rename_i hp
      refine Or.inr (Or.inr ⟨hr, fun p' h => ?_, rfl⟩)
      rw [hp] at h
      cases h

/-- The loop touches the counter of one sub-queue at most: it either runs to its end, or stops at
    an index with quota and counts. -/
theorem pickLoop_queue (b : Bool) (now : Int) : ∀ (is : List SubIndex) (st : PickLoop),
    (pickLoop b now is st).queue = st.queue ∨
      ∃ p, (pickLoop b now is st).priorityIndex = some p ∧ st.queue.hasQuota p ∧
        (pickLoop b now is st).queue = st.queue.countHandled p := by
  intro is
  induction is with
  | nil => exact fun st => Or.inl rfl
  | cons i is ih =>
    intro st
    rcases pickLoop_cons b now i is st with ⟨-, h⟩ | ⟨-, p, -, hq, h⟩ | ⟨-, -, h⟩
    · rw [h]
      exact ih _
    · rw [h]
      exact Or.inr ⟨p, rfl, hq, rfl⟩
    · rw [h]
      exact ih _

/-- Once an index is found, the loop ends with an index at least as large. -/
theorem pickLoop_index_mono (b : Bool) (now : Int) : ∀ (is : List SubIndex) (st : PickLoop)
    (r : SubIndex), st.priorityIndex = some r → (∀ i ∈ is, r < i) → is.Pairwise (· < ·) →
    ∃ r', (pickLoop b now is st).priorityIndex = some r' ∧ r ≤ r' := by
  intro is
  induction is with
  | nil => exact fun st r hr _ _ => ⟨r, hr, le_refl r⟩
  | cons i is ih =>
    intro st r hr hlt hs
    have hi : r < i := hlt i List.mem_cons_self
    have hs' := List.pairwise_cons.1 hs
    rcases pickLoop_cons b now i is st with ⟨-, h⟩ | ⟨-, p, hp, -, h⟩ | ⟨-, -, h⟩
    · rw [h]
      exact ih _ r hr (fun k hk => hlt k (List.mem_cons_of_mem _ hk)) hs'.2
    · rw [h]
      rw [hr] at hp
      exact ⟨p, rfl, le_of_eq (Option.some.inj hp)⟩
    · rw [h]
      obtain ⟨r', hr', hle⟩ := ih ⟨st.queue, some i, _⟩ i rfl hs'.1 hs'.2
      exact ⟨r', hr', le_trans (le_of_lt hi) hle⟩

/-- An index the loop ends with was there before or competes. -/
theorem pickLoop_some (b : Bool) (now : Int) : ∀ (is : List SubIndex) (st : PickLoop)
    (r : SubIndex), (pickLoop b now is st).priorityIndex = some r →
    st.priorityIndex = some r ∨ (r ∈ is ∧ Competes b (st.queue.subEventQueues r).queue now) := by
  intro is
  induction is with
  | nil => exact fun _ _ h => Or.inl h
  | cons i is ih =>
    intro st r h
    rcases pickLoop_cons b now i is st with ⟨-, hl⟩ | ⟨-, p, hp, -, hl⟩ | ⟨hc, -, hl⟩
    · rw [hl] at h
      rcases ih _ r h with h | ⟨hm, hc⟩
      · exact Or.inl h
      · exact Or.inr ⟨List.mem_cons_of_mem _ hm, hc⟩
    · rw [hl] at h
      exact Or.inl (hp.trans h)
    · rw [hl] at h
      rcases ih _ r h with h | ⟨hm, hc'⟩
      · cases h
        exact Or.inr ⟨List.mem_cons_self, checkList_true hc⟩
      · exact Or.inr ⟨List.mem_cons_of_mem _ hm, hc'⟩

/-- The loop ends without an index: no list competed, the wake-up time is at most every head, and
    outside barrier mode it is still later than `now`. -/
theorem pickLoop_none (b : Bool) (now : Int) : ∀ (is : List SubIndex) (st : PickLoop),
    is.Pairwise (· < ·) → (pickLoop b now is st).priorityIndex = none →
    (pickLoop b now is st).queue = st.queue ∧
      (pickLoop b now is st).nextWakeUpTime ≤ st.nextWakeUpTime ∧
      (∀ i ∈ is, ∃ t, (checkList b (st.queue.subEventQueues i).queue now t).1 = false) ∧
      (∀ i ∈ is, ∀ e, (st.queue.subEventQueues i).queue.head? = some e →
        (pickLoop b now is st).nextWakeUpTime ≤ e.handleTime) ∧
      (b = false → now < st.nextWakeUpTime → now < (pickLoop b now is st).nextWakeUpTime) := by
  intro is
  induction is with
  | nil =>
    intro st _ _
    exact ⟨rfl, le_refl _, fun _ h => (List.not_mem_nil h).elim,
      fun _ h => (List.not_mem_nil h).elim, fun _ h => h⟩
  | cons i is ih =>
    intro st hs h
    have hs' := List.pairwise_cons.1 hs
    rcases pickLoop_cons b now i is st with ⟨hf, hl⟩ | ⟨-, p, -, -, hl⟩ | ⟨-, -, hl⟩
    · rw [hl] at h ⊢
      obtain ⟨hq, hle, hc, hh, hlt⟩ := ih _ hs'.2 h
      have hsnd := checkList_snd b (st.queue.subEventQueues i).queue now st.nextWakeUpTime
      refine ⟨hq, le_trans hle hsnd.1, ?_, ?_, ?_⟩
      · intro k hk
        rcases List.mem_cons.1 hk with rfl | hk
        · exact ⟨_, hf⟩
        · exact hc k hk
      · intro k hk e he
        rcases List.mem_cons.1 hk with rfl | hk
        · exact le_trans hle (hsnd.2 e he)
        · exact hh k hk e he
      · intro hb hn
        subst hb
        exact hlt rfl (checkEvent_false_lt hn hf)
    · rw [hl] at h
      cases h
    · rw [hl] at h
      obtain ⟨r, hr, -⟩ := pickLoop_index_mono b now is ⟨st.queue, some i, _⟩ i rfl hs'.1 hs'.2
      rw [hr] at h
      cases h

/-- A due head that is strictly earlier than every head above it is not passed over for free: the
    loop ends at its index or below, or stops above it and counts there. -/
theorem pickLoop_bypass {now : Int} {j : SubIndex} {e : InnerEvent} (hdue : e.handleTime ≤ now) :
    ∀ (is : List SubIndex) (st : PickLoop), is.Pairwise (· < ·) → j ∈ is →
      (st.queue.subEventQueues j).queue.head? = some e →
      (∀ i < j, ∀ x, (st.queue.subEventQueues i).queue.head? = some x →
        e.handleTime < x.handleTime) →
      e.handleTime < st.nextWakeUpTime → (∀ p, st.priorityIndex = some p → p < j) →
      ∃ r, (pickLoop false now is st).priorityIndex = some r ∧ (j ≤ r ∨ (r < j ∧
        st.queue.hasQuota r ∧ (pickLoop false now is st).queue = st.queue.countHandled r)) := by
  intro is
  induction is with
  | nil => exact fun _ _ hj _ _ _ _ => (List.not_mem_nil hj).elim
  | cons i is ih =>
    intro st hs hj he hup hnext hp
    have hs' := List.pairwise_cons.1 hs
    by_cases hij : i = j
    · subst hij
      have hyes : (checkList false (st.queue.subEventQueues i).queue now st.nextWakeUpTime).1
          = true := by
        cases hl : (st.queue.subEventQueues i).queue with
        | nil => rw [hl] at he; cases he
        | cons x xs =>
          rw [hl] at he
          cases he
          simp [checkList, checkEventInListLocked, hnext, hdue]
      rcases pickLoop_cons false now i is st with ⟨hf, -⟩ | ⟨-, p, hpi, hq, hl⟩ | ⟨-, -, hl⟩
      · rw [hf] at hyes
        cases hyes
      · rw [hl]
        exact ⟨p, rfl, Or.inr ⟨hp p hpi, hq, rfl⟩⟩
      · rw [hl]
        obtain ⟨r, hr, hle⟩ := pickLoop_index_mono false now is ⟨st.queue, some i, _⟩ i rfl hs'.1 hs'.2
        exact ⟨r, hr, Or.inl hle⟩
    · have hj' : j ∈ is := (List.mem_cons.1 hj).resolve_left (fun h => hij h.symm)
      have hlt : i < j := hs'.1 j hj'
      have hnext' : e.handleTime <
          (checkList false (st.queue.subEventQueues i).queue now st.nextWakeUpTime).2 := by
        cases hl : (st.queue.subEventQueues i).queue with
        | nil => simpa [checkList, checkEventInListLocked] using hnext
        | cons x xs =>
          have hx := hup i hlt x (by rw [hl]; rfl)
          simp only [checkList, checkEventInListLocked, Bool.false_eq_true, if_false]
          split
          · exact hx
          · exact hnext
      rcases pickLoop_cons false now i is st with ⟨-, hl⟩ | ⟨-, p, hpi, hq, hl⟩ | ⟨-, -, hl⟩
      · rw [hl]
        exact ih ⟨st.queue, st.priorityIndex, _⟩ hs'.2 hj' he hup hnext' hp
      · rw [hl]
        exact ⟨p, rfl, Or.inr ⟨hp p hpi, hq, rfl⟩⟩
      · rw [hl]
        apply ih ⟨st.queue, some i, _⟩ hs'.2 hj' he hup hnext'
        intro p h
        cases h
        exact hlt

end AppExecFwk
