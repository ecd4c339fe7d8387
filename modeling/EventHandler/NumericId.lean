import EventHandler.FfrtQueue
import EventHandler.Ledger

/-!
# Removing and asking by a numeric id

`Remove(owner, id)` and `HasInnerEvent(owner, id)` of `EventQueueBase`, with events whose id is a
number or a string, and with tasks.  Both read the id through `GetInnerEventId`, which is 0 for a
string; they tell owners apart by `handlerId_` and by the handler object.

* `SentBy` — what `SendEvent` and `PostTask` leave in an event; `reachable_sentBy` — in a queue that
  is filled with such events, all pending events are such.
* `Meant` — the events the two calls are about.
* `NumericIdExact` — the removal takes exactly these, the query says whether it would take any, and
  says no right after it.
* `numericId_iff` — this holds exactly when nothing else is selected: no event with a string id is
  pending for id 0, and no event of a handler that shares its `handlerId_`.
-/

set_option autoImplicit false

namespace AppExecFwk

open Transition EventQueueBase

/-- The handler object `n`, when `handlerId` gives the ids of the handlers. -/
def handlerOf (handlerId : Nat → String) (n : Nat) : EventHandler := ⟨n, handlerId n⟩

/-- The owner fields `SendEvent` and `PostTask` set. -/
def SentBy (handlerId : Nat → String) (e : InnerEvent) : Prop :=
  ∃ n, e.owner = some n ∧ e.ownerId = handlerId n

/-- A non-task event of handler `n` whose id is the number `id`. -/
def Meant (n : Nat) (id : UInt32) (e : InnerEvent) : Prop :=
  e.hasTask = false ∧ e.owner = some n ∧ e.innerEventId = .u32 id

instance (n : Nat) (id : UInt32) (e : InnerEvent) : Decidable (Meant n id e) :=
  inferInstanceAs (Decidable (_ ∧ _ ∧ _))

/-- A non-task event that the filter takes for one of handler `n` with the number `id`: its id is a
    string and the number is 0, or its owner is another handler with the same `handlerId_`. -/
def Mistaken (handlerId : Nat → String) (n : Nat) (id : UInt32) (e : InnerEvent) : Prop :=
  e.hasTask = false ∧ e.ownerId = handlerId n ∧ e.getInnerEventId = id ∧
    ((∃ s, e.innerEventId = .str s) ∨ e.owner ≠ some n)

/-- What the two calls promise for a queue. -/
structure NumericIdExact (handlerId : Nat → String) (n : Nat) (id : UInt32) (q : EventQueueBase) :
    Prop where
  removes : ∀ k, (q.removeById (some (handlerOf handlerId n)) id).events k =
    (q.events k).filter (fun e => !decide (Meant n id e))
  asks : q.hasInnerEvent (hasIdFilter id) (some (handlerOf handlerId n)) = true ↔
    ∃ k, ∃ e ∈ q.events k, e ∉ (q.removeById (some (handlerOf handlerId n)) id).events k
  gone : (q.removeById (some (handlerOf handlerId n)) id).hasInnerEvent (hasIdFilter id)
    (some (handlerOf handlerId n)) = false

/-! ## The two filters -/

variable {handlerId : Nat → String} {n : Nat} {id : UInt32} {e : InnerEvent} {q : EventQueueBase}

theorem idFilter_iff : idFilter id (handlerOf handlerId n) e = true ↔
    e.hasTask = false ∧ e.ownerId = handlerId n ∧ e.getInnerEventId = id := by
  simp [idFilter, handlerOf, and_assoc]

theorem hasIdFilter_iff : hasIdFilter id (handlerOf handlerId n) e = true ↔
    e.hasTask = false ∧ e.owner = some n ∧ e.getInnerEventId = id := by
  unfold hasIdFilter handlerOf
  rw [Bool.and_eq_true, Bool.and_eq_true, Bool.not_eq_true', decide_eq_true_iff, beq_iff_eq, and_assoc]

theorem getInnerEventId_eq_iff :
    e.getInnerEventId = id ↔ e.innerEventId = .u32 id ∨ (id = 0 ∧ ∃ s, e.innerEventId = .str s) := by
  unfold InnerEvent.getInnerEventId
  cases e.innerEventId with
  | u32 i => simp
  | str s => simp [eq_comm]

/-- The owner object and its id say the same about a sent event, one way. -/
theorem SentBy.ownerId (h : SentBy handlerId e) (hn : e.owner = some n) : e.ownerId = handlerId n := by
  obtain ⟨m, hm, hid⟩ := h
  rw [hm] at hn
  cases hn
  exact hid

/-- **The filter of `Remove` selects what is meant and what is mistaken.** -/
theorem idFilter_eq (h : SentBy handlerId e) :
    idFilter id (handlerOf handlerId n) e = true ↔ Meant n id e ∨ Mistaken handlerId n id e := by
  rw [idFilter_iff]
  constructor
  · rintro ⟨ht, ho, hi⟩
    by_cases hn : e.owner = some n
    · rcases getInnerEventId_eq_iff.1 hi with hu | ⟨-, hs⟩
      · exact Or.inl ⟨ht, hn, hu⟩
      · exact Or.inr ⟨ht, ho, hi, Or.inl hs⟩
    · exact Or.inr ⟨ht, ho, hi, Or.inr hn⟩
  · rintro (⟨ht, hn, hu⟩ | ⟨ht, ho, hi, -⟩)
    · exact ⟨ht, h.ownerId hn, getInnerEventId_eq_iff.2 (Or.inl hu)⟩
    · exact ⟨ht, ho, hi⟩

theorem Mistaken.not_meant (h : Mistaken handlerId n id e) : ¬ Meant n id e := by
  obtain ⟨-, -, -, ⟨s, hs⟩ | hn⟩ := h
  · rintro ⟨-, -, hu⟩
    rw [hs] at hu
    cases hu
  · exact fun hm => hn hm.2.1

/-! ## The two calls -/

/-- The test `Remove(owner, id)` makes on each pending event. -/
def removeTest (handlerId : Nat → String) (n : Nat) (id : UInt32) (q : EventQueueBase)
    (e : InnerEvent) : Bool := q.usable && idFilter id (handlerOf handlerId n) e

theorem removeById_events (q : EventQueueBase) (k : Option SubIndex) :
    (q.removeById (some (handlerOf handlerId n)) id).events k =
      (q.events k).filter (fun e => !removeTest handlerId n id q e) := by
  exact (removeOwned_discards (idFilter id) (some (handlerOf handlerId n)) q).events k

theorem hasInnerEvent_iff : q.hasInnerEvent (hasIdFilter id) (some (handlerOf handlerId n)) = true ↔
    q.usable = true ∧ ∃ k, ∃ e ∈ q.events k, hasIdFilter id (handlerOf handlerId n) e = true := by
  unfold EventQueueBase.hasInnerEvent
  simp only [Bool.and_eq_true, List.any_eq_true, mem_allEvents]
  constructor
  · rintro ⟨hu, e, ⟨k, hk⟩, hf⟩
    exact ⟨hu, k, e, hk, hf⟩
  · rintro ⟨hu, k, e, hk, hf⟩
    exact ⟨hu, e, ⟨k, hk⟩, hf⟩

/-- The queue is usable and no pending event is mistaken; or it is not usable and holds none that is
    meant. -/
def NothingMistaken (handlerId : Nat → String) (n : Nat) (id : UInt32) (q : EventQueueBase) : Prop :=
  if q.usable then ∀ k, ∀ e ∈ q.events k, ¬ Mistaken handlerId n id e
  else ∀ k, ∀ e ∈ q.events k, ¬ Meant n id e

theorem removeTest_iff (h : SentBy handlerId e) :
    removeTest handlerId n id q e = true ↔
      q.usable = true ∧ (Meant n id e ∨ Mistaken handlerId n id e) := by
  unfold removeTest
  rw [Bool.and_eq_true, idFilter_eq h]

/-- The removal takes exactly what is meant iff its test says so of every pending event. -/
theorem removes_iff : (∀ k, (q.removeById (some (handlerOf handlerId n)) id).events k =
      (q.events k).filter (fun e => !decide (Meant n id e))) ↔
    ∀ k, ∀ e ∈ q.events k, (removeTest handlerId n id q e = true ↔ Meant n id e) := by
  refine forall_congr' fun k => ?_
  rw [removeById_events]
  constructor
  · intro h e he
    have hm : e ∈ (q.events k).filter (fun e => !removeTest handlerId n id q e) ↔
        e ∈ (q.events k).filter (fun e => !decide (Meant n id e)) := by rw [h]
    simp only [List.mem_filter, he, true_and, Bool.not_eq_true', decide_eq_false_iff_not] at hm
    rw [← not_iff_not, Bool.not_eq_true, hm]
  · intro h
    refine List.filter_congr fun e he => congrArg not ?_
    rw [Bool.eq_iff_iff, decide_eq_true_iff]
    exact h e he

/-- The test of the removal is exact iff nothing is mistaken. -/
theorem nothingMistaken_iff (hq : ∀ k, ∀ e ∈ q.events k, SentBy handlerId e) :
    (∀ k, ∀ e ∈ q.events k, (removeTest handlerId n id q e = true ↔ Meant n id e)) ↔
      NothingMistaken handlerId n id q := by
  unfold NothingMistaken
  cases hu : q.usable with
  | true =>
    rw [if_pos rfl]
    refine forall_congr' fun k => forall₂_congr fun e he => ?_
    rw [removeTest_iff (hq k e he), hu]
    constructor
    · exact fun h hm => hm.not_meant (h.1 ⟨rfl, Or.inr hm⟩)
    · exact fun h => ⟨fun hs => hs.2.resolve_right h, fun hm => ⟨rfl, Or.inl hm⟩⟩
  | false =>
    rw [if_neg (by decide)]
    refine forall_congr' fun k => forall₂_congr fun e he => ?_
    rw [removeTest_iff (hq k e he), hu]
    constructor
    · exact fun h hm => Bool.false_ne_true (h.2 hm).1
    · exact fun h => ⟨fun hs => absurd hs.1 Bool.false_ne_true, fun hm => absurd hm h⟩

/-- What is meant, `HasInnerEvent` finds. -/
theorem Meant.asked (h : Meant n id e) : hasIdFilter id (handlerOf handlerId n) e = true :=
  hasIdFilter_iff.2 ⟨h.1, h.2.1, getInnerEventId_eq_iff.2 (Or.inl h.2.2)⟩

/-- What `HasInnerEvent` finds in a usable queue, the removal takes. -/
theorem asked_removed (hs : SentBy handlerId e) (hu : q.usable = true)
    (h : hasIdFilter id (handlerOf handlerId n) e = true) : removeTest handlerId n id q e = true := by
  obtain ⟨ht, hn, hi⟩ := hasIdFilter_iff.1 h
  unfold removeTest
  rw [Bool.and_eq_true, idFilter_iff]
  exact ⟨hu, ht, hs.ownerId hn, hi⟩

/-- **The removal takes exactly the non-task events of the owner with that number, the query says
    whether there are any, and says no right after the removal, exactly when nothing is mistaken**:
    in a usable queue, no event of the owner with a string id is pending while the number is 0, and
    no event of another handler with the same `handlerId_` and the number. -/
theorem numericId_iff (handlerId : Nat → String) (n : Nat) (id : UInt32) (q : EventQueueBase)
    (hq : ∀ k, ∀ e ∈ q.events k, SentBy handlerId e) :
    NumericIdExact handlerId n id q ↔ NothingMistaken handlerId n id q := by
  rw [← nothingMistaken_iff hq]
  constructor
  · exact fun h => removes_iff.1 h.removes
  · intro h
    refine ⟨removes_iff.2 h, ?_, ?_⟩
    · rw [hasInnerEvent_iff]
      constructor
      · rintro ⟨hu, k, e, he, hf⟩
        refine ⟨k, e, he, fun hm => ?_⟩
        rw [removeById_events, List.mem_filter, asked_removed (hq k e he) hu hf] at hm
        exact Bool.false_ne_true hm.2
      · rintro ⟨k, e, he, hm⟩
        rw [removeById_events, List.mem_filter, not_and] at hm
        have htest : removeTest handlerId n id q e = true := by simpa using hm he
        have hu := ((removeTest_iff (hq k e he)).1 htest).1
        exact ⟨hu, k, e, he, ((h k e he).1 htest).asked⟩
    · rw [← Bool.not_eq_true, hasInnerEvent_iff]
      rintro ⟨hu, k, e, he, hf⟩
      rw [removeById_events, List.mem_filter] at he
      have husable : q.usable = true := by
        unfold removeById removeOwned removeFilter at hu
        simp only at hu
        split at hu
        · assumption
        · exact hu
      rw [asked_removed (hq k e he.1) husable hf] at he
      exact Bool.false_ne_true he.2

/-! ## Queues filled through handlers -/

/-- Every event handed to `Insert` comes from `SendEvent` or `PostTask`. -/
def insertsSent (handlerId : Nat → String) (_ : Sys) : Op → Prop
  | .insert _ _ _ event _ _ _ => ∀ e ∈ event, SentBy handlerId e
  | _ => True

theorem sentBy_congr {e e' : InnerEvent} (ho : e'.owner = e.owner) (hi : e'.ownerId = e.ownerId)
    (h : SentBy handlerId e) : SentBy handlerId e' := by
  obtain ⟨n, h₁, h₂⟩ := h
  exact ⟨n, ho.trans h₁, hi.trans h₂⟩

/-- **In a queue filled through handlers, every pending event has the owner fields they set.** -/
theorem reachable_sentBy {P : SystemParameters} {start : ClockTime} {s : Sys}
    (h : (queueSystem P start).Reachable (insertsSent handlerId) s) :
    ∀ k, ∀ e ∈ s.queue.events k, SentBy handlerId e := by
  apply h.invariant
  · intro k e he
    cases k <;> cases he
  · intro s a t hs hok hst k e he
    cases step_listEffect hst with
    | same h => rw [h k] at he; exact hs k e he
    | unstored _ h => rw [h k] at he; exact hs k e he
    | inserted l x ty hsrc hk hl =>
      by_cases hkl : k = l
      · subst hkl
        rw [hk, mem_insertEventsLocked] at he
        rcases he with rfl | he
        · obtain ⟨p, now, recv, event, priority, option, rfl, -, -, rfl⟩ := hsrc
          obtain ⟨u, -, hu⟩ := storedEvent_eq (s.queue.events k)
            (preparedEvent p s.queue (s.stamp event) priority option) ty
          rw [hu]
          unfold preparedEvent
          rw [markBarrierTaskIfNeed_eq]
          exact sentBy_congr rfl rfl (hok event rfl)
        · exact hs k e he
      · rw [hl k hkl] at he
        exact hs k e he
    | discarded filter _ h =>
      rw [h.events k] at he
      exact hs k e (List.mem_of_mem_filter he)
    | taken q now x p l hrule h => exact hs k e ((h.sublist k).mem he)

/-! ## Concrete queues -/

/-- An event of handler 1, and a queue with it in `LOW`. -/
def eventWith (id : EventId) : InnerEvent :=
  { owner := some 1, ownerId := "1", handleTime := 5, sendTime := 5, innerEventId := id }

def queueWith (id : EventId) : EventQueueBase :=
  (EventQueueBase.create 0).setSub 3 { queue := [eventWith id] }

theorem queueWith_mem {id : EventId} {k : Option SubIndex} {e : InnerEvent}
    (h : e ∈ (queueWith id).events k) : e = eventWith id := by
  have hl := (EventQueueBase.create 0).setSub_events 3 { queue := [eventWith id] }
  by_cases hk : k = some 3
  · subst hk
    rw [queueWith, hl.1] at h
    exact List.mem_singleton.1 h
  · rw [queueWith, hl.2 k hk] at h
    cases k <;> cases h

theorem queueWith_sent (id : EventId) :
    ∀ k, ∀ e ∈ (queueWith id).events k, SentBy toString e := by
  intro k e he
  rw [queueWith_mem he]
  exact ⟨1, rfl, rfl⟩

/-- `Remove(owner, 0)` takes an event whose id is a string. -/
theorem numericId_takes_string : ¬ ∀ handlerId n id q,
    (∀ k, ∀ e ∈ q.events k, SentBy handlerId e) → NumericIdExact handlerId n id q := by
  intro h
  have hex := (h toString 1 0 (queueWith (.str "progress")) (queueWith_sent _)).removes (some 3)
  exact absurd hex (by decide)

/-- `SendEvent` of handler 1 with the number 7. -/
def sendSeven : Op :=
  insertAt (atMs 1) { plainEvent (atMs 1) with innerEventId := .u32 7 } .LOW

theorem sendSeven_sent (s : Sys) : insertsSent toString s sendSeven := by
  intro e he
  cases he
  exact ⟨1, rfl, rfl⟩

/-- `Remove(owner, 7)` takes the event with the number 7 out of the queue it was sent to. -/
theorem numericId_iff_number : ∃ s, (queueSystem {} (atMs 0)).Reachable (insertsSent toString) s ∧
    (∃ e ∈ s.queue.events (some 3), Meant 1 7 e) ∧ NumericIdExact toString 1 7 s.queue := by
  obtain ⟨s, hrun, hu, hm, hall⟩ := System.run_of_exec (queueSystem {} (atMs 0)) System.always
    (fun s => s.queue.usable = true ∧ (∃ e ∈ s.queue.events (some 3), Meant 1 7 e) ∧
      ∀ e ∈ s.queue.allEvents, e.innerEventId = .u32 7 ∧ e.owner = some 1) [sendSeven] (by decide)
  have hs : (queueSystem {} (atMs 0)).Reachable (insertsSent toString) s := by
    cases hrun with
    | cons _ hst hnil =>
      cases hnil
      exact System.Reachable.init.step (sendSeven_sent _) hst
  refine ⟨s, hs, hm, (numericId_iff toString 1 7 s.queue (reachable_sentBy hs)).2 ?_⟩
  unfold NothingMistaken
  rw [if_pos hu]
  rintro k e he ⟨-, -, -, hmis⟩
  obtain ⟨hid, ho⟩ := hall e (mem_allEvents.2 ⟨k, he⟩)
  rcases hmis with ⟨x, hx⟩ | hn
  · rw [hid] at hx
    cases hx
  · exact hn ho

end AppExecFwk
