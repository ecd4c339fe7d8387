import EventHandler.EventQueue

/-!
# Removing events

Model of the four `Remove` overloads, `RemoveOrphan` and `RemoveAll` of `EventQueueBase`.

* All of them drop, from each of the five lists, the events a filter selects, keep the others in
  their order and refresh `frontEventHandleTime` (`Discards`).
* The filter of `RemoveOrphan` also writes: for an orphaned vsync task it takes one off the pending
  counter, leaves barrier mode and clears `needEpoll_` (`noteOrphan`).  The other removals do not
  touch the vsync fields.
-/

set_option autoImplicit false

namespace AppExecFwk

/-! ## The filters -/

def ownerFilter (owner : EventHandler) (p : InnerEvent) : Bool := p.ownerId == owner.handlerId

def idFilter (innerEventId : UInt32) (owner : EventHandler) (p : InnerEvent) : Bool :=
  !p.hasTask && p.ownerId == owner.handlerId && p.getInnerEventId == innerEventId

def paramFilter (innerEventId : UInt32) (param : Int) (owner : EventHandler) (p : InnerEvent) :
    Bool :=
  !p.hasTask && p.ownerId == owner.handlerId && p.getInnerEventId == innerEventId &&
    p.param == param

def nameFilter (name : String) (owner : EventHandler) (p : InnerEvent) : Bool :=
  p.hasTask && p.ownerId == owner.handlerId && p.taskName == name

namespace EventQueueBase

/-- The events of all five lists, sub-queues first. -/
def allEvents (q : EventQueueBase) : List InnerEvent :=
  q.events (some 0) ++ q.events (some 1) ++ q.events (some 2) ++ q.events (some 3) ++ q.events none

theorem mem_allEvents {q : EventQueueBase} {e : InnerEvent} :
    e ∈ q.allEvents ↔ ∃ k, e ∈ q.events k := by
  unfold allEvents
  simp only [List.mem_append]
  constructor
  · rintro ((((h | h) | h) | h) | h)
    · exact ⟨_, h⟩
    · exact ⟨_, h⟩
    · exact ⟨_, h⟩
    · exact ⟨_, h⟩
    · exact ⟨_, h⟩
  · rintro ⟨k, h⟩
    match k, h with
    | some 0, h => exact Or.inl (Or.inl (Or.inl (Or.inl h)))
    | some 1, h => exact Or.inl (Or.inl (Or.inl (Or.inr h)))
    | some 2, h => exact Or.inl (Or.inl (Or.inr h))
    | some 3, h => exact Or.inl (Or.inr h)
    | none, h => exact Or.inr h

/-! ## The removals -/

/-- Drop what `filter` selects from the five lists and refresh the cached head times. -/
def dropMatching (filter : InnerEvent → Bool) (q : EventQueueBase) : EventQueueBase :=
  { q with
    subEventQueues := fun i =>
      { q.subEventQueues i with
        queue := (q.subEventQueues i).queue.filter (fun e => !filter e)
        frontEventHandleTime :=
          frontHandleTime ((q.subEventQueues i).queue.filter (fun e => !filter e)) }
    idleEvents := q.idleEvents.filter (fun e => !filter e) }

/-- `Remove(const RemoveFilter &)`. -/
def removeFilter (filter : InnerEvent → Bool) (q : EventQueueBase) : EventQueueBase :=
  if q.usable then q.dropMatching filter else q

/-- A `Remove` overload with a non-null owner. -/
def removeOwned (filter : EventHandler → InnerEvent → Bool) (owner : Option EventHandler)
    (q : EventQueueBase) : EventQueueBase :=
  match owner with
  | some owner => q.removeFilter (filter owner)
  | none => q

/-- `Remove(owner)`. -/
def removeByOwner (owner : Option EventHandler) (q : EventQueueBase) : EventQueueBase :=
  q.removeOwned ownerFilter owner

/-- `Remove(owner, innerEventId)`. -/
def removeById (owner : Option EventHandler) (innerEventId : UInt32) (q : EventQueueBase) :
    EventQueueBase :=
  q.removeOwned (idFilter innerEventId) owner

/-- `Remove(owner, innerEventId, param)`. -/
def removeByParam (owner : Option EventHandler) (innerEventId : UInt32) (param : Int)
    (q : EventQueueBase) : EventQueueBase :=
  q.removeOwned (paramFilter innerEventId param) owner

/-- `Remove(owner, name)`: the queue, and `removed`, which the filter sets at its first match. -/
def removeByName (owner : Option EventHandler) (name : String) (q : EventQueueBase) :
    EventQueueBase × Bool :=
  match owner with
  | none => (q, false)
  | some h =>
    if name.isEmpty then (q, false)
    else (q.removeOwned (nameFilter name) owner,
      q.usable && q.allEvents.any (nameFilter name h))

/-- `RemoveAll`. -/
def removeAll (q : EventQueueBase) : EventQueueBase := q.removeFilter (fun _ => true)

/-- What the filter of `RemoveOrphan` writes when it is applied to an event. -/
def noteOrphan (p : Process) (q : EventQueueBase) (e : InnerEvent) : EventQueueBase :=
  if e.ownerExpired p && e.isVsync then
    { q.handleVsyncTaskNotify.leaveBarrierMode with needEpoll := false }
  else q

/-- The first critical section of `RemoveOrphan`; the second one only touches the listeners. -/
def removeOrphan (p : Process) (q : EventQueueBase) : EventQueueBase :=
  if q.usable then
    (q.allEvents.foldl (noteOrphan p) q).dropMatching (InnerEvent.ownerExpired p)
  else q

/-! ## What they do to the lists -/

/-- `q'` is `q` without the events that `filter` selects. -/
structure Discards (filter : InnerEvent → Bool) (q q' : EventQueueBase) : Prop where
  events : ∀ k, q'.events k = (q.events k).filter (fun e => !filter e)
  count : ∀ i, (q'.subEventQueues i).handledEventsCount = (q.subEventQueues i).handledEventsCount
  max : ∀ i,
    (q'.subEventQueues i).maxHandledEventsCount = (q.subEventQueues i).maxHandledEventsCount

theorem dropMatching_discards (filter : InnerEvent → Bool) (q : EventQueueBase) :
    Discards filter q (q.dropMatching filter) := by
  refine ⟨fun k => ?_, fun _ => rfl, fun _ => rfl⟩
  cases k <;> rfl

/-- Discarding nothing. -/
theorem Discards.none (q : EventQueueBase) : Discards (fun _ => false) q q := by
  exact ⟨fun k => (List.filter_eq_self.2 (fun _ _ => rfl)).symm, fun _ => rfl, fun _ => rfl⟩

theorem SameLists.discards {q q' q'' : EventQueueBase} {filter : InnerEvent → Bool}
    (h : SameLists q q') (h' : Discards filter q' q'') : Discards filter q q'' := by
  refine ⟨fun k => ?_, fun i => ?_, fun i => ?_⟩
  · rw [h'.events, h.events]
  · rw [h'.count, h.sub]
  · rw [h'.max, h.sub]

theorem removeFilter_discards (filter : InnerEvent → Bool) (q : EventQueueBase) :
    Discards (fun e => q.usable && filter e) q (q.removeFilter filter) := by
  unfold removeFilter
  split
  · rename_i hu
    rw [hu]
    exact dropMatching_discards filter q
  · rename_i hu
    rw [Bool.not_eq_true] at hu
    rw [hu]
    exact Discards.none q

/-- The filter a `Remove` overload uses once its arguments are checked; `none`: nothing is
    done. -/
inductive Selector where
  | owner (owner : Option EventHandler)
  | id (owner : Option EventHandler) (innerEventId : UInt32)
  | param (owner : Option EventHandler) (innerEventId : UInt32) (param : Int)
  | name (owner : Option EventHandler) (name : String)
  deriving DecidableEq, Repr

/-- The events a `Remove` call selects. -/
def Selector.selects : Selector → InnerEvent → Bool
  | .owner o, e => o.any (fun h => ownerFilter h e)
  | .id o i, e => o.any (fun h => idFilter i h e)
  | .param o i x, e => o.any (fun h => paramFilter i x h e)
  | .name o n, e => !n.isEmpty && o.any (fun h => nameFilter n h e)

/-- The overload a selector stands for. -/
def remove (q : EventQueueBase) : Selector → EventQueueBase
  | .owner o => q.removeByOwner o
  | .id o i => q.removeById o i
  | .param o i x => q.removeByParam o i x
  | .name o n => (q.removeByName o n).1

theorem removeOwned_discards (filter : EventHandler → InnerEvent → Bool)
    (owner : Option EventHandler) (q : EventQueueBase) :
    Discards (fun e => q.usable && owner.any (fun h => filter h e)) q
      (q.removeOwned filter owner) := by
  cases owner with
  | none =>
    have h := Discards.none q
    simpa [removeOwned] using h
  | some h => exact removeFilter_discards (filter h) q

/-- **Each `Remove` discards exactly what its selector selects, in all five lists.** -/
theorem remove_discards (s : Selector) (q : EventQueueBase) :
    Discards (fun e => q.usable && s.selects e) q (q.remove s) := by
  cases s with
  | owner o => exact removeOwned_discards ownerFilter o q
  | id o i => exact removeOwned_discards (idFilter i) o q
  | param o i x => exact removeOwned_discards (paramFilter i x) o q
  | name o n =>
    have hn := Discards.none q
    unfold remove removeByName Selector.selects
    cases o with
    | none => simpa using hn
    | some h =>
      simp only
      split
      · rename_i he; simpa [he] using hn
      · rename_i he
        have hd := removeOwned_discards (nameFilter n) (some h) q
        rw [Bool.not_eq_true] at he
        simpa [he] using hd

theorem removeAll_discards (q : EventQueueBase) :
    Discards (fun _ => q.usable) q q.removeAll := by
  have h := removeFilter_discards (fun _ => true) q
  simpa [removeAll] using h

/-- Nothing but the lists differs. -/
def OnlyLists (q q' : EventQueueBase) : Prop :=
  q' = { q with subEventQueues := q'.subEventQueues, idleEvents := q'.idleEvents }

theorem OnlyLists.sameControl {q q' : EventQueueBase} (h : OnlyLists q q') : SameControl q q' := by
  unfold OnlyLists at h
  unfold SameControl
  rw [h]

theorem OnlyLists.wakeUpTime {q q' : EventQueueBase} (h : OnlyLists q q') :
    q'.wakeUpTime = q.wakeUpTime := by rw [h]

theorem removeFilter_onlyLists (filter : InnerEvent → Bool) (q : EventQueueBase) :
    OnlyLists q (q.removeFilter filter) := by
  unfold removeFilter
  split <;> rfl

theorem removeOwned_onlyLists (filter : EventHandler → InnerEvent → Bool)
    (owner : Option EventHandler) (q : EventQueueBase) : OnlyLists q (q.removeOwned filter owner) := by
  cases owner with
  | none => rfl
  | some owner => exact removeFilter_onlyLists (filter owner) q

/-- The `Remove` overloads touch the lists only: the pending counter stays. -/
theorem remove_onlyLists (s : Selector) (q : EventQueueBase) : OnlyLists q (q.remove s) := by
  cases s with
  | owner o => exact removeOwned_onlyLists ownerFilter o q
  | id o i => exact removeOwned_onlyLists (idFilter i) o q
  | param o i x => exact removeOwned_onlyLists (paramFilter i x) o q
  | name o n =>
    show OnlyLists q (q.removeByName o n).1
    unfold removeByName
    split
    · rfl
    · split
      · rfl
      · rename_i h _
        exact removeOwned_onlyLists (nameFilter n) (some h) q

theorem noteOrphan_eq (p : Process) (q : EventQueueBase) (e : InnerEvent) :
    q.noteOrphan p e = { q with
      sumOfPendingVsync := (q.noteOrphan p e).sumOfPendingVsync
      isBarrierMode := (q.noteOrphan p e).isBarrierMode
      enterBarrierTime := (q.noteOrphan p e).enterBarrierTime
      needEpoll := (q.noteOrphan p e).needEpoll } := by
  unfold noteOrphan
  split <;> rfl

/-- The filter of `RemoveOrphan` writes four fields. -/
theorem foldl_noteOrphan_eq (p : Process) : ∀ (es : List InnerEvent) (q : EventQueueBase),
    es.foldl (noteOrphan p) q = { q with
      sumOfPendingVsync := (es.foldl (noteOrphan p) q).sumOfPendingVsync
      isBarrierMode := (es.foldl (noteOrphan p) q).isBarrierMode
      enterBarrierTime := (es.foldl (noteOrphan p) q).enterBarrierTime
      needEpoll := (es.foldl (noteOrphan p) q).needEpoll } := by
  intro es
  induction es with
  | nil => exact fun _ => rfl
  | cons e es ih =>
    intro q
    rw [List.foldl_cons, ih (q.noteOrphan p e)]
    generalize es.foldl (noteOrphan p) (q.noteOrphan p e) = q'
    rw [noteOrphan_eq]

/-- `RemoveOrphan` writes the lists and what its filter writes. -/
theorem removeOrphan_eq (p : Process) (q : EventQueueBase) :
    q.removeOrphan p = { q with
      subEventQueues := (q.removeOrphan p).subEventQueues
      idleEvents := (q.removeOrphan p).idleEvents
      sumOfPendingVsync := (q.removeOrphan p).sumOfPendingVsync
      isBarrierMode := (q.removeOrphan p).isBarrierMode
      enterBarrierTime := (q.removeOrphan p).enterBarrierTime
      needEpoll := (q.removeOrphan p).needEpoll } := by
  unfold removeOrphan
  split
  · rw [foldl_noteOrphan_eq]
    rfl
  · rfl

theorem foldl_noteOrphan_sameLists (p : Process) (es : List InnerEvent) (q : EventQueueBase) :
    SameLists q (es.foldl (noteOrphan p) q) := by
  rw [foldl_noteOrphan_eq]
  exact ⟨rfl, rfl⟩

theorem removeOrphan_discards (p : Process) (q : EventQueueBase) :
    Discards (fun e => q.usable && e.ownerExpired p) q (q.removeOrphan p) := by
  unfold removeOrphan
  split
  · rename_i hu
    rw [hu]
    exact (foldl_noteOrphan_sameLists p _ q).discards (dropMatching_discards _ _)
  · rename_i hu
    rw [Bool.not_eq_true] at hu
    rw [hu]
    exact Discards.none q

/-- `Remove(owner, name)` reports whether it discarded an event. -/
theorem removeByName_result (owner : Option EventHandler) (name : String) (q : EventQueueBase) :
    (q.removeByName owner name).2 = true ↔
      ∃ e ∈ q.allEvents, (q.usable && (Selector.name owner name).selects e) = true := by
  unfold removeByName Selector.selects
  cases owner with
  | none => simp
  | some h =>
    simp only
    split
    · rename_i he; simp [he]
    · rename_i he
      simp only [Bool.and_eq_true, List.any_eq_true, Option.any_some, Bool.not_eq_true] at he ⊢
      rw [he]
      constructor
      · rintro ⟨hu, e, hm, hf⟩
        exact ⟨e, hm, hu, rfl, hf⟩
      · rintro ⟨e, hm, hu, -, hf⟩
        exact ⟨hu, e, hm, hf⟩

end EventQueueBase

end AppExecFwk
