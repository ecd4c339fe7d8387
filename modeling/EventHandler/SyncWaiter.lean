import EventHandler.Ledger
import EventHandler.EmitPriority

/-!
# Accepted events and blocked senders

`SendSyncEvent` on another thread creates a waiter for its event, sends the event and waits.  When
the loop thread is done with the event, or a removal drops it from a list, the event object is
destroyed: `InnerEventPool::Drop` clears it, and `ClearEvent` notifies its waiter.

* `WaiterImp` — the waiter, with the thread asleep on its condition.
* `clearEvent`, `drop` — what the end of event objects does to their waiters.
* `SyncState` — the queue system with the waiters, and the senders in `waiter->Wait()`.
* `dropped` — the event objects an operation destroys.
* `EventsKept` — every accepted event is in one list once, or handed out, or removed; the event of a
  blocked sender is in a list once or in the hands of the loop thread, or its waiter is finished and
  nobody is asleep on it.
* `strands` — an accepted `Insert` with a value that is no enumerator of `Priority`: the switch of
  `Insert` has no list for it, and `Insert` still returns true.
* `accepted_kept_iff` — in every run without such a call all is kept, and such a call is what breaks
  it; an accepted event is stored once exactly when its priority is an enumerator.
-/

set_option autoImplicit false

namespace AppExecFwk

open Transition EventQueueBase

/-- The loop thread, in `DefaultModeLoop` or `NoWaitRun`, asks for an event when it is done with the
    last one. -/
def asksWhenDone (s : Sys) : Op → Bool
  | .getExpiredEvent _ _ => s.current.isNone && decide (s.pc = .outside)
  | .getEvent => s.current.isNone
  | _ => true

/-- The event objects an operation destroys: what a removal takes out of the lists, and the event the
    loop thread is done with. -/
def dropped (s : Sys) (a : Op) : List Nat :=
  match a.selected s.queue, a with
  | some filter, _ => (s.queue.allEvents.filter filter).map InnerEvent.ticket
  | none, .execute => s.current.toList.map InnerEvent.ticket
  | none, .release => s.current.toList.map InnerEvent.ticket
  | none, _ => []

/-! ## Waiters -/

/-- `WaiterImp`, with the number of threads asleep on `condition_`. -/
structure WaiterImp where
  waitingCount : Nat
  finished : Bool
  asleep : Nat
  asleep_le : asleep ≤ waitingCount
  awake : finished = true → asleep = 0

namespace WaiterImp

def create : WaiterImp := ⟨0, false, 0, Nat.le_refl _, fun _ => rfl⟩

def notify (w : WaiterImp) : WaiterImp where
  waitingCount := w.waitingCount
  finished := true
  -- `notify_all` wakes those that are asleep.
  asleep := if w.waitingCount > 0 then 0 else w.asleep
  asleep_le := by
    split
    · exact Nat.zero_le _
    · exact w.asleep_le
  awake _ := by
    have := w.asleep_le
    split <;> omega

/-- The test of `Wait`, up to `condition_.wait`; `none` when `Wait` returns. -/
def wait (w : WaiterImp) : Option WaiterImp :=
  if h : w.finished = true then none
  else some
    { waitingCount := w.waitingCount + 1
      finished := w.finished
      asleep := w.asleep + 1
      asleep_le := Nat.succ_le_succ w.asleep_le
      awake := fun hf => absurd hf h }

/-- A thread returns from `condition_.wait`, also if nobody has notified it. -/
def wakeUp (w : WaiterImp) : WaiterImp where
  waitingCount := w.waitingCount - 1
  finished := w.finished
  asleep := min w.asleep (w.waitingCount - 1)
  asleep_le := Nat.min_le_right _ _
  awake hf := by rw [w.awake hf, Nat.zero_min]

end WaiterImp

/-- The waiters of the event objects; the sender holds its one too, behind `waiter_.reset()`. -/
abbrev Waiters := Nat → Option WaiterImp

namespace Waiters

def createWaiter (waiters : Waiters) (k : Nat) : Waiters := Function.update waiters k (some .create)

/-- `ClearEvent`, of which the other members are not looked at here. -/
def clearEvent (waiters : Waiters) (k : Nat) : Waiters :=
  Function.update waiters k ((waiters k).map WaiterImp.notify)

/-- `InnerEventPool::Drop` of these events. -/
def drop (waiters : Waiters) (ks : List Nat) : Waiters := ks.foldl clearEvent waiters

/-- Nobody has to wait for the event any more. -/
def notified (waiters : Waiters) (k : Nat) : Bool := (waiters k).all WaiterImp.finished

variable {waiters : Waiters} {ks : List Nat} {k : Nat}

theorem clearEvent_self : (clearEvent waiters k).notified k = true := by
  unfold notified clearEvent
  rw [Function.update_self]
  cases waiters k <;> rfl

theorem clearEvent_of_ne {m : Nat} (h : k ≠ m) : clearEvent waiters m k = waiters k :=
  Function.update_of_ne h _ _

theorem notified_drop (h : waiters.notified k = true ∨ k ∈ ks) :
    (waiters.drop ks).notified k = true := by
  induction ks generalizing waiters with
  | nil => exact h.resolve_right List.not_mem_nil
  | cons m ks ih =>
    apply ih
    by_cases hm : k = m
    · subst hm
      exact Or.inl clearEvent_self
    · refine h.imp (fun h => ?_) fun h => (List.mem_cons.1 h).resolve_left hm
      unfold notified at h ⊢
      rw [clearEvent_of_ne hm]
      exact h

theorem isSome_drop : (waiters.drop ks k).isSome = (waiters k).isSome := by
  induction ks generalizing waiters with
  | nil => rfl
  | cons m ks ih =>
    refine ih.trans ?_
    by_cases hm : k = m
    · subst hm
      unfold clearEvent
      rw [Function.update_self, Option.isSome_map]
    · rw [clearEvent_of_ne hm]

theorem createWaiter_self : createWaiter waiters k k = some .create := Function.update_self _ _ _

theorem createWaiter_of_ne {m : Nat} (h : k ≠ m) : createWaiter waiters m k = waiters k :=
  Function.update_of_ne h _ _

end Waiters

/-! ## The queue with its senders -/

structure SyncState where
  sys : Sys
  /-- The events whose senders are in `waiter->Wait()`. -/
  blocked : List Nat
  waiters : Waiters

inductive SyncOp where
  | queue (a : Op)
  /-- `SendSyncEvent` on another thread, up to `Wait`. -/
  | sendSync (p : Process) (now recv : ClockTime) (event : InnerEvent) (priority : Priority)
  /-- A sender in `Wait` tests `finished_`. -/
  | wait (ticket : Nat)
  /-- A sender returns from `condition_.wait`. -/
  | wake (ticket : Nat)

namespace SyncState

def createWaiter (s : SyncState) : SyncState :=
  { s with waiters := s.waiters.createWaiter s.sys.nextTicket }

def step (P : SystemParameters) (s : SyncState) : SyncOp → Option SyncState
  | .queue a =>
    if asksWhenDone s.sys a then
      (s.sys.step P a).map fun t =>
        { s with sys := t, waiters := s.waiters.drop (dropped s.sys a) }
    else none
  | .sendSync p now recv event priority =>
    if priority = .IDLE then none
    else
      (s.sys.step P (.insert p now recv (some event) priority .AT_END .NO_BARRIER)).map fun t =>
        { s.createWaiter with
          sys := t
          blocked :=
            if (s.sys.insertOutcome p now recv (some event) priority .AT_END .NO_BARRIER).result then
              s.blocked ++ [s.sys.nextTicket]
            else s.blocked }
  | .wait ticket =>
    match s.waiters ticket with
    | none => none
    | some w =>
      if ticket ∈ s.blocked ∧ w.waitingCount = 0 then
        match w.wait with
        | none => some { s with blocked := s.blocked.erase ticket }
        | some w => some { s with waiters := Function.update s.waiters ticket (some w) }
      else none
  | .wake ticket =>
    match s.waiters ticket with
    | none => none
    | some w =>
      if ticket ∈ s.blocked ∧ 0 < w.waitingCount then
        some { s with waiters := Function.update s.waiters ticket (some w.wakeUp) }
      else none

/-- The operation is an `Insert` that is accepted with a value that is no enumerator. -/
def strands (s : SyncState) : SyncOp → Prop
  | .queue (.insert _ _ _ event priority _ _) =>
    s.sys.queue.usable = true ∧ event.isSome = true ∧ priority.slot = none
  | .sendSync _ _ _ _ priority => s.sys.queue.usable = true ∧ priority.slot = none
  | _ => False

end SyncState

def SyncOp.namedPriority : SyncOp → Bool
  | .queue a => a.namedPriority
  | .sendSync _ _ _ _ priority => priority.slot.isSome
  | .wait _ => true
  | .wake _ => true

/-- Calls with an enumerator strand nothing. -/
theorem SyncState.not_strands_of_named {s : SyncState} {a : SyncOp}
    (h : a.namedPriority = true) : ¬ s.strands a := by
  intro hs
  cases a with
  | queue a =>
    cases a with
    | insert p now recv event priority ty option =>
      have hp : priority.slot.isSome = true := h
      rw [hs.2.2] at hp
      cases hp
    | _ => exact hs
  | sendSync p now recv event priority =>
    have hp : priority.slot.isSome = true := h
    rw [hs.2] at hp
    cases hp
  | wait ticket => exact hs
  | wake ticket => exact hs

def syncSystem (P : SystemParameters) (start : ClockTime) : System SyncState SyncOp where
  init := ⟨(queueSystem P start).init, [], fun _ => none⟩
  step := SyncState.step P

/-- The event is in the hands of the loop thread. -/
def InHand (s : Sys) (k : Nat) : Prop :=
  (∃ e, s.current = some e ∧ e.ticket = k) ∨ ∃ e need, s.pc = .polling e need ∧ e.ticket = k

/-- No accepted event is lost, and no sender is blocked without its event. -/
structure EventsKept (s : SyncState) : Prop where
  stored : ∀ k ∈ s.sys.accepted,
    s.sys.queue.tickets.count k + s.sys.returned.count k + s.sys.discarded.count k = 1
  waits : ∀ k ∈ s.blocked, s.sys.queue.tickets.count k = 1 ∨ InHand s.sys k ∨
    ∃ w, s.waiters k = some w ∧ w.finished = true ∧ w.asleep = 0

/-! ## The steps -/

variable {P : SystemParameters}

def SyncOp.ofWait : SyncOp → Bool
  | .wait _ => true
  | .wake _ => true
  | _ => false

/-- What a step does, the two steps of `Wait` taken together. -/
inductive SyncEffect (P : SystemParameters) (s : SyncState) : SyncOp → SyncState → Prop
  | queue (a : Op) (t : Sys) (hg : asksWhenDone s.sys a = true) (ht : s.sys.step P a = some t) :
      SyncEffect P s (.queue a) { s with sys := t, waiters := s.waiters.drop (dropped s.sys a) }
  | sendSync (p : Process) (now recv : ClockTime) (event : InnerEvent) (priority : Priority) (t : Sys)
      (ht : s.sys.step P (.insert p now recv (some event) priority .AT_END .NO_BARRIER) = some t) :
      SyncEffect P s (.sendSync p now recv event priority)
        { s.createWaiter with
          sys := t
          blocked :=
            if (s.sys.insertOutcome p now recv (some event) priority .AT_END .NO_BARRIER).result then
              s.blocked ++ [s.sys.nextTicket]
            else s.blocked }
  | waiting (a : SyncOp) (blocked : List Nat) (waiters : Waiters) (ha : a.ofWait = true)
      (hb : ∀ k ∈ blocked, k ∈ s.blocked)
      (hw : ∀ k, (waiters k).map WaiterImp.finished = (s.waiters k).map WaiterImp.finished) :
      SyncEffect P s a { s with blocked := blocked, waiters := waiters }

theorem update_finished {waiters : Waiters} {k : Nat} {w v : WaiterImp} (h : waiters k = some w)
    (hf : v.finished = w.finished) (m : Nat) :
    (Function.update waiters k (some v) m).map WaiterImp.finished =
      (waiters m).map WaiterImp.finished := by
  by_cases hm : m = k
  · subst hm
    rw [Function.update_self, h, Option.map_some, Option.map_some, hf]
  · rw [Function.update_of_ne hm]

theorem sync_cases {s t : SyncState} {a : SyncOp} (h : s.step P a = some t) : SyncEffect P s a t := by
  cases a with
  | queue a =>
    simp only [SyncState.step, Option.ite_none_right_eq_some, Option.map_eq_some_iff] at h
    obtain ⟨hg, u, hu, rfl⟩ := h
    exact .queue a u hg hu
  | sendSync p now recv event priority =>
    simp only [SyncState.step, Option.ite_none_left_eq_some, Option.map_eq_some_iff] at h
    obtain ⟨-, u, hu, rfl⟩ := h
    exact .sendSync p now recv event priority u hu
  | wait ticket =>
    simp only [SyncState.step] at h
    split at h
    · cases h
    · rename_i w hw
      rw [Option.ite_none_right_eq_some] at h
      obtain ⟨-, h⟩ := h
      split at h
      · cases h
        exact .waiting _ _ _ rfl (fun k hk => List.mem_of_mem_erase hk) fun _ => rfl
      · rename_i v hv
        cases h
        refine .waiting _ _ _ rfl (fun _ hk => hk) (update_finished hw ?_)
        unfold WaiterImp.wait at hv
        split at hv
        · cases hv
        · cases hv
          rfl
  | wake ticket =>
    simp only [SyncState.step] at h
    split at h
    · cases h
    · rename_i w hw
      rw [Option.ite_none_right_eq_some] at h
      obtain ⟨-, h⟩ := h
      cases h
      exact .waiting _ _ _ rfl (fun _ hk => hk) (update_finished hw rfl)

/-- `Wait` notifies nobody. -/
theorem notified_congr {v w : Waiters} {k : Nat}
    (h : (v k).map WaiterImp.finished = (w k).map WaiterImp.finished) :
    v.notified k = w.notified k := by
  have hall : ∀ o : Option WaiterImp,
      o.all WaiterImp.finished = (o.map WaiterImp.finished).all id := by
    rintro (_ | w) <;> rfl
  unfold Waiters.notified
  rw [hall, hall, h]

/-! ## The invariant -/

/-- What runs keep: the ledger; what was handed out is in hand or notified, what was removed is
    notified; blocked senders have accepted events with waiters; inside `GetEvent` the loop thread has
    no event but the one it polls with. -/
structure SyncInv (s : SyncState) : Prop where
  ledger : Ledger s.sys
  handed : ∀ k ∈ s.sys.returned, InHand s.sys k ∨ s.waiters.notified k = true
  removed : ∀ k ∈ s.sys.discarded, s.waiters.notified k = true
  sent : ∀ k ∈ s.blocked, k ∈ s.sys.accepted ∧ (s.waiters k).isSome = true
  quiet : s.sys.pc ≠ .outside → s.sys.current = none

theorem SyncInv.kept {s : SyncState} (h : SyncInv s) : EventsKept s := by
  have hone : ∀ k ∈ s.sys.accepted,
      s.sys.queue.tickets.count k + s.sys.returned.count k + s.sys.discarded.count k = 1 := by
    intro k hk
    rw [h.ledger.account k]
    exact List.count_eq_one_of_mem h.ledger.nodup hk
  refine ⟨hone, fun k hk => ?_⟩
  have hk1 := hone k (h.sent k hk).1
  obtain ⟨w, hw⟩ := Option.isSome_iff_exists.1 (h.sent k hk).2
  have released : s.waiters.notified k = true →
      ∃ w, s.waiters k = some w ∧ w.finished = true ∧ w.asleep = 0 := by
    intro hn
    unfold Waiters.notified at hn
    rw [hw, Option.all_some] at hn
    exact ⟨w, hw, hn, w.awake hn⟩
  by_cases hr : k ∈ s.sys.returned
  · exact Or.inr ((h.handed k hr).imp_right released)
  · by_cases hd : k ∈ s.sys.discarded
    · exact Or.inr (Or.inr (released (h.removed k hd)))
    · rw [List.count_eq_zero.2 hr, List.count_eq_zero.2 hd] at hk1
      exact Or.inl hk1

/-- The ticket of the next event is in no list and in no log. -/
theorem Ledger.fresh {s : Sys} (h : Ledger s) : s.queue.tickets.count s.nextTicket = 0 ∧
    s.returned.count s.nextTicket = 0 ∧ s.discarded.count s.nextTicket = 0 := by
  have hacc : s.accepted.count s.nextTicket = 0 :=
    List.count_eq_zero.2 fun hk => lt_irrefl _ (h.below _ hk)
  have ha := h.account s.nextTicket
  omega

/-- An insertion that is not accepted with an unnamed value keeps the ledger. -/
theorem insert_ledger {s t : Sys} {p : Process} {now recv : ClockTime} {event : Option InnerEvent}
    {priority : Priority} {ty : EventInsertType} {option : VsyncBarrierOption} (hl : Ledger s)
    (hok : ¬ (s.queue.usable = true ∧ event.isSome = true ∧ priority.slot = none))
    (h : s.step P (.insert p now recv event priority ty option) = some t) : Ledger t := by
  cases hp : priority.slot with
  | some k =>
    have hnamed : (Op.insert p now recv event priority ty option).namedPriority = true := by
      show priority.slot.isSome = true
      rw [hp]
      rfl
    exact hl.step hnamed (step_listEffect h)
  | none =>
    have hsame : ListEffect s .getEvent t := by
      cases step_cases h with
      | insert =>
        have hx := insert_cases p now recv s.queue (event.map s.stamp) priority ty option
        have hout : s.insertOutcome p now recv event priority ty option =
            s.queue.insert p now recv (event.map s.stamp) priority ty option := rfl
        rw [hout]
        generalize s.queue.insert p now recv (event.map s.stamp) priority ty option = o at hx
        have husable : s.queue.usable = true → event.map s.stamp = none := by
          intro hu
          cases event with
          | none => rfl
          | some e => exact absurd ⟨hu, rfl, hp⟩ hok
        generalize event.map s.stamp = ev at hx husable
        cases hx with
        | rejected _ _ => exact .same (fun _ => rfl) rfl rfl rfl (Nat.le_succ _)
        | sub _ _ hu => cases husable hu
        | idle _ hu => cases husable hu
        | unnamed _ hu => cases husable hu
    exact hl.step rfl hsame

/-- Nothing but the queue, the accepted and the removed events changes: what was handed out stays in
    hand or notified. -/
theorem SyncInv.of_still {s : SyncState} {t : Sys} {waiters : Waiters} {blocked : List Nat}
    (h : SyncInv s) (hl : Ledger t) (hc : t.current = s.sys.current) (hpc : t.pc = s.sys.pc)
    (hr : t.returned = s.sys.returned)
    (hf : ∀ k ∈ s.sys.returned, s.waiters.notified k = true → waiters.notified k = true)
    (hd : ∀ k ∈ t.discarded, waiters.notified k = true)
    (hs : ∀ k ∈ blocked, k ∈ t.accepted ∧ (waiters k).isSome = true) :
    SyncInv ⟨t, blocked, waiters⟩ := by
  refine ⟨hl, fun k hk => ?_, hd, hs, fun hne => ?_⟩
  · rw [hr] at hk
    rcases h.handed k hk with hin | hfin
    · refine Or.inl ?_
      unfold InHand at hin ⊢
      rw [hc, hpc]
      exact hin
    · exact Or.inr (hf k hk hfin)
  · show t.current = none
    rw [hc]
    exact h.quiet (by rw [← hpc]; exact hne)

/-- A blocked sender's waiter stays. -/
theorem SyncInv.sent_drop {s : SyncState} (h : SyncInv s) (ks : List Nat) :
    ∀ k ∈ s.blocked, k ∈ s.sys.accepted ∧ (s.waiters.drop ks k).isSome = true := by
  intro k hk
  rw [Waiters.isSome_drop]
  exact h.sent k hk

/-- A removal notifies the waiters of what it removes. -/
theorem SyncInv.of_discard {s : SyncState} {a : Op} {filter : InnerEvent → Bool}
    {queue : EventQueueBase} (h : SyncInv s) (hl : Ledger (s.sys.discard filter queue))
    (hdrop : dropped s.sys a = (s.sys.queue.allEvents.filter filter).map InnerEvent.ticket) :
    SyncInv { s with
      sys := s.sys.discard filter queue
      waiters := s.waiters.drop (dropped s.sys a) } := by
  refine h.of_still hl rfl rfl rfl (fun k _ hk => Waiters.notified_drop (Or.inl hk)) (fun k hk => ?_)
    (h.sent_drop _)
  rw [hdrop]
  rcases List.mem_append.1 hk with hk | hk
  · exact Waiters.notified_drop (Or.inl (h.removed k hk))
  · exact Waiters.notified_drop (Or.inr hk)

/-- The loop thread had no event in hand: all that was handed out is notified. -/
theorem SyncInv.handed_finished {s : SyncState} (h : SyncInv s) (hc : s.sys.current = none)
    (hpc : ∀ e need, s.sys.pc ≠ .polling e need) :
    ∀ k ∈ s.sys.returned, s.waiters.notified k = true := by
  intro k hk
  refine (h.handed k hk).resolve_left ?_
  rintro (⟨e, he, -⟩ | ⟨e, need, he, -⟩)
  · rw [hc] at he
    cases he
  · exact hpc e need he

/-- What was handed out is notified, and the loop thread takes at most one event. -/
theorem SyncInv.of_turn {s : SyncState} {t : Sys} (ks : List Nat) (h : SyncInv s)
    (hl : Ledger t) (hfin : ∀ k ∈ s.sys.returned, s.waiters.notified k = true)
    (hr : t.returned = s.sys.returned ∨
      ∃ e : InnerEvent, t.returned = s.sys.returned ++ [e.ticket] ∧ InHand t e.ticket)
    (hd : t.discarded = s.sys.discarded) (hacc : t.accepted = s.sys.accepted)
    (hq : t.pc ≠ .outside → t.current = none) :
    SyncInv ⟨t, s.blocked, s.waiters.drop ks⟩ := by
  refine ⟨hl, fun k hk => ?_, fun k hk => ?_, fun k hk => ?_, hq⟩
  · rcases hr with hr | ⟨e, hr, hin⟩
    · rw [hr] at hk
      exact Or.inr (Waiters.notified_drop (Or.inl (hfin k hk)))
    · rw [hr, List.mem_append, List.mem_singleton] at hk
      rcases hk with hk | rfl
      · exact Or.inr (Waiters.notified_drop (Or.inl (hfin k hk)))
      · exact Or.inl hin
  · rw [hd] at hk
    exact Waiters.notified_drop (Or.inl (h.removed k hk))
  · rw [hacc]
    exact h.sent_drop ks k hk

/-- The loop thread is done with its event: the event is dropped. -/
theorem SyncInv.of_done {s : SyncState} {t : Sys} {e : InnerEvent} {a : Op} (h : SyncInv s)
    (hl : Ledger t) (he : s.sys.current = some e) (hc : t.current = none)
    (hr : t.returned = s.sys.returned) (hd : t.discarded = s.sys.discarded)
    (hacc : t.accepted = s.sys.accepted) (hdrop : dropped s.sys a = [e.ticket]) :
    SyncInv { s with sys := t, waiters := s.waiters.drop (dropped s.sys a) } := by
  refine ⟨hl, fun k hk => Or.inr ?_, fun k hk => ?_, fun k hk => ?_, fun _ => hc⟩
  · rw [hr] at hk
    rcases h.handed k hk with (⟨x, hx, hk⟩ | ⟨x, need, hx, -⟩) | hf
    · rw [he] at hx
      cases hx
      rw [hdrop, hk]
      exact Waiters.notified_drop (Or.inr (List.mem_singleton_self k))
    · rw [h.quiet (by rw [hx]; simp)] at he
      cases he
    · exact Waiters.notified_drop (Or.inl hf)
  · rw [hd] at hk
    exact Waiters.notified_drop (Or.inl (h.removed k hk))
  · rw [hacc]
    exact h.sent_drop _ k hk

/-- **An operation of the queue keeps the invariant**, unless it strands an event. -/
theorem syncInv_queue {s : SyncState} {a : Op} {t : Sys} (h : SyncInv s)
    (hok : ¬ s.strands (.queue a)) (hg : asksWhenDone s.sys a = true)
    (hst : s.sys.step P a = some t) :
    SyncInv { s with sys := t, waiters := s.waiters.drop (dropped s.sys a) } := by
  have hleft : ∀ k ∈ s.sys.returned, s.waiters.notified k = true →
      (s.waiters.drop (dropped s.sys a)).notified k = true := fun k _ hk =>
    Waiters.notified_drop (Or.inl hk)
  have hgone : ∀ k ∈ s.sys.discarded, (s.waiters.drop (dropped s.sys a)).notified k = true :=
    fun k hk => Waiters.notified_drop (Or.inl (h.removed k hk))
  have hledger : Ledger t := by
    by_cases hins : ∃ p now recv event priority ty option, a = .insert p now recv event priority ty option
    · obtain ⟨p, now, recv, event, priority, ty, option, rfl⟩ := hins
      exact insert_ledger h.ledger hok hst
    · refine h.ledger.step ?_ (step_listEffect hst)
      cases a with
      | insert p now recv event priority ty option =>
        exact absurd ⟨p, now, recv, event, priority, ty, option, rfl⟩ hins
      | _ => rfl
  cases step_cases hst with
  | insert p now recv event priority ty option _ =>
    refine h.of_still hledger rfl rfl rfl hleft hgone fun k hk => ?_
    refine ⟨?_, (h.sent_drop _ k hk).2⟩
    split
    · exact List.mem_append_left _ (h.sent k hk).1
    · exact (h.sent k hk).1
  | remove selector _ => exact h.of_discard hledger rfl
  | removeOrphan p _ => exact h.of_discard hledger rfl
  | removeAll _ => exact h.of_discard hledger rfl
  | expiredEvent now next e _ _ =>
    rw [asksWhenDone, Bool.and_eq_true, Option.isNone_iff_eq_none, decide_eq_true_iff] at hg
    have hfin := h.handed_finished hg.1 fun e need => by rw [hg.2]; simp
    exact h.of_turn _ hledger hfin (Or.inr ⟨e, rfl, Or.inl ⟨e, rfl, rfl⟩⟩) rfl rfl
      fun hne => absurd hg.2 hne
  | expiredNone now next _ _ =>
    exact h.of_still hledger rfl rfl rfl hleft hgone (h.sent_drop _)
  | getEvent hpc =>
    have hc : s.sys.current = none := Option.isNone_iff_eq_none.1 hg
    have hfin := h.handed_finished hc fun e need => by rw [hpc]; simp
    exact h.of_turn _ hledger hfin (Or.inl rfl) rfl rfl fun _ => hc
  | pass clk n hpc =>
    have hc : s.sys.current = none := h.quiet (by rw [hpc]; simp)
    have hfin := h.handed_finished hc fun e need => by rw [hpc]; simp
    generalize s.sys.queue.getEventPass P clk = o at hledger
    obtain ⟨queue, pass⟩ := o
    cases pass with
    | finished => exact h.of_turn _ hledger hfin (Or.inl rfl) rfl rfl fun _ => hc
    | returned e =>
      exact h.of_turn _ hledger hfin (Or.inr ⟨e, rfl, Or.inl ⟨e, rfl, rfl⟩⟩) rfl rfl
        fun hne => absurd rfl hne
    | poll e need =>
      exact h.of_turn _ hledger hfin (Or.inr ⟨e, rfl, Or.inr ⟨e, need, rfl, rfl⟩⟩) rfl rfl
        fun _ => hc
    | again => exact h.of_turn _ hledger hfin (Or.inl rfl) rfl rfl fun _ => hc
    | wait d => exact h.of_turn _ hledger hfin (Or.inl rfl) rfl rfl fun _ => hc
  | wakeUp d hpc =>
    have hc : s.sys.current = none := h.quiet (by rw [hpc]; simp)
    have hfin := h.handed_finished hc fun e need => by rw [hpc]; simp
    exact h.of_turn _ hledger hfin (Or.inl rfl) rfl rfl fun _ => hc
  | pollReturn e need hpc =>
    have hc : s.sys.current = none := h.quiet (by rw [hpc]; simp)
    refine ⟨hledger, fun k hk => ?_, hgone, h.sent_drop _, fun hne => absurd rfl hne⟩
    rcases h.handed k hk with (⟨x, hx, -⟩ | ⟨x, need', hx, hk⟩) | hf
    · rw [hc] at hx
      cases hx
    · rw [hpc] at hx
      cases hx
      exact Or.inl (Or.inl ⟨e, rfl, hk⟩)
    · exact Or.inr (hleft k hk hf)
  | execute e hc =>
    have hdrop : dropped s.sys .execute = [e.ticket] := by
      show s.sys.current.toList.map InnerEvent.ticket = _
      rw [hc]
      rfl
    refine h.of_done hledger hc ?_ ?_ ?_ ?_ hdrop <;>
      · unfold Sys.runTask
        split <;> rfl
  | release e hc =>
    have hdrop : dropped s.sys .release = [e.ticket] := by
      show s.sys.current.toList.map InnerEvent.ticket = _
      rw [hc]
      rfl
    exact h.of_done hledger hc rfl rfl rfl rfl hdrop
  | flag op =>
    exact h.of_still hledger rfl rfl rfl hleft hgone (h.sent_drop _)

/-- The new waiter is of an event that was neither handed out nor removed. -/
theorem SyncInv.createWaiter {s : SyncState} (h : SyncInv s) : SyncInv s.createWaiter := by
  obtain ⟨-, hret, hdis⟩ := h.ledger.fresh
  have old : ∀ k, k ≠ s.sys.nextTicket → s.createWaiter.waiters k = s.waiters k := fun k hk =>
    Waiters.createWaiter_of_ne hk
  have keep : ∀ k, k ≠ s.sys.nextTicket → s.waiters.notified k = true →
      s.createWaiter.waiters.notified k = true := by
    intro k hk hn
    unfold Waiters.notified at hn ⊢
    rw [old k hk]
    exact hn
  have new : ∀ {l : List Nat}, l.count s.sys.nextTicket = 0 → ∀ k ∈ l, k ≠ s.sys.nextTicket := by
    rintro l hl k hk rfl
    exact List.count_eq_zero.1 hl hk
  refine ⟨h.ledger, fun k hk => (h.handed k hk).imp_right (keep k (new hret k hk)),
    fun k hk => keep k (new hdis k hk) (h.removed k hk), fun k hk => ⟨(h.sent k hk).1, ?_⟩, h.quiet⟩
  have hlt := h.ledger.below k (h.sent k hk).1
  rw [old k (by omega)]
  exact (h.sent k hk).2

/-- **Every step keeps the invariant**, unless it strands an event. -/
theorem syncInv_step {s t : SyncState} {a : SyncOp} (h : SyncInv s) (hok : ¬ s.strands a)
    (hst : s.step P a = some t) : SyncInv t := by
  cases sync_cases hst with
  | queue a u hg hu => exact syncInv_queue h hok hg hu
  | sendSync p now recv event priority u hu =>
    have hok' : ¬ (s.sys.queue.usable = true ∧ (some event).isSome = true ∧ priority.slot = none) :=
      fun hs => hok ⟨hs.1, hs.2.2⟩
    have hledger := insert_ledger h.ledger hok' hu
    have hnew := h.createWaiter
    cases step_cases hu with
    | insert =>
      refine hnew.of_still hledger rfl rfl rfl (fun _ _ hn => hn) hnew.removed fun k hk => ?_
      by_cases hres :
          (s.sys.insertOutcome p now recv (some event) priority .AT_END .NO_BARRIER).result = true
      · simp only [if_pos hres] at hk ⊢
        rcases List.mem_append.1 hk with hk | hk
        · exact ⟨List.mem_append_left _ (hnew.sent k hk).1, (hnew.sent k hk).2⟩
        · refine ⟨List.mem_append_right _ hk, ?_⟩
          rw [List.mem_singleton.1 hk]
          exact congrArg Option.isSome Waiters.createWaiter_self
      · simp only [if_neg hres] at hk ⊢
        exact hnew.sent k hk
  | waiting a blocked waiters _ hb hw =>
    refine ⟨h.ledger, fun k hk => ?_, fun k hk => ?_, fun k hk => ?_, h.quiet⟩
    · rw [notified_congr (hw k)]
      exact h.handed k hk
    · rw [notified_congr (hw k)]
      exact h.removed k hk
    · have hsome := (h.sent k (hb k hk)).2
      rw [← Option.isSome_map (f := WaiterImp.finished), ← hw k, Option.isSome_map] at hsome
      exact ⟨(h.sent k (hb k hk)).1, hsome⟩

theorem reachable_syncInv {start : ClockTime} {s : SyncState}
    (h : (syncSystem P start).Reachable (fun s a => ¬ s.strands a) s) : SyncInv s := by
  apply h.invariant
  · refine ⟨⟨fun _ => rfl, List.nodup_nil, fun _ hk => (List.not_mem_nil hk).elim⟩, ?_, ?_, ?_, ?_⟩
    · exact fun _ hk => (List.not_mem_nil hk).elim
    · exact fun _ hk => (List.not_mem_nil hk).elim
    · exact fun _ hk => (List.not_mem_nil hk).elim
    · exact fun _ => rfl
  · exact fun s a t hs hok hst => syncInv_step hs hok hst

/-! ## The calls that strand an event -/

/-- `Insert` of an event with a value that is no enumerator: true, and the queue as before. -/
theorem insertOutcome_unnamed {s : Sys} {p : Process} {now recv : ClockTime} {event : InnerEvent}
    {priority : Priority} {ty : EventInsertType} {option : VsyncBarrierOption}
    (hu : s.queue.usable = true) (hp : priority.slot = none) :
    (s.insertOutcome p now recv (some event) priority ty option).result = true ∧
      (s.insertOutcome p now recv (some event) priority ty option).queue = s.queue := by
  have hx := insert_cases p now recv s.queue (some (s.stamp event)) priority ty option
  have hout : s.insertOutcome p now recv (some event) priority ty option =
      s.queue.insert p now recv (some (s.stamp event)) priority ty option := rfl
  rw [hout]
  generalize s.queue.insert p now recv (some (s.stamp event)) priority ty option = o at hx
  cases hx with
  | rejected _ h =>
    rcases h with h | h
    · cases h
    · rw [hu] at h
      cases h
  | sub _ i _ hi => rw [Priority.slot_of_subIndex hi] at hp; cases hp
  | idle _ _ hi => subst hi; cases hp
  | unnamed _ _ _ _ => exact ⟨rfl, rfl⟩

/-- A stranded event is accepted and nowhere. -/
theorem insert_stranded {s t : Sys} {p : Process} {now recv : ClockTime} {event : InnerEvent}
    {priority : Priority} {ty : EventInsertType} {option : VsyncBarrierOption} (hl : Ledger s)
    (hu : s.queue.usable = true) (hp : priority.slot = none)
    (h : s.step P (.insert p now recv (some event) priority ty option) = some t) :
    s.nextTicket ∈ t.accepted ∧ t.queue.tickets.count s.nextTicket + t.returned.count s.nextTicket +
      t.discarded.count s.nextTicket = 0 := by
  obtain ⟨hres, hq⟩ := @insertOutcome_unnamed s p now recv event priority ty option hu hp
  cases step_cases h with
  | insert =>
    simp only [hres, hq, if_true]
    obtain ⟨h₁, h₂, h₃⟩ := hl.fresh
    exact ⟨List.mem_append_right _ (List.mem_singleton_self _), by omega⟩

/-- **A step breaks what is kept exactly when it strands an event.** -/
theorem kept_step_iff {s t : SyncState} {a : SyncOp} (h : SyncInv s) (hst : s.step P a = some t) :
    EventsKept t ↔ ¬ s.strands a := by
  refine ⟨fun hk hs => ?_, fun hok => (syncInv_step h hok hst).kept⟩
  have lost : s.sys.nextTicket ∈ t.sys.accepted ∧ t.sys.queue.tickets.count s.sys.nextTicket +
      t.sys.returned.count s.sys.nextTicket + t.sys.discarded.count s.sys.nextTicket = 0 := by
    cases sync_cases hst with
    | queue a u _ hu =>
      cases a with
      | insert p now recv event priority ty option =>
        obtain ⟨husable, hsome, hp⟩ := hs
        obtain ⟨e, rfl⟩ := Option.isSome_iff_exists.1 hsome
        exact insert_stranded h.ledger husable hp hu
      | _ => exact hs.elim
    | sendSync p now recv event priority u hu => exact insert_stranded h.ledger hs.1 hs.2 hu
    | waiting a _ _ ha _ _ =>
      cases a with
      | queue op => cases ha
      | sendSync => cases ha
      | wait ticket => exact hs.elim
      | wake ticket => exact hs.elim
  have hone := hk.stored _ lost.1
  omega

/-- An accepted event is stored once exactly when its priority is an enumerator. -/
theorem insert_stored_iff {s : Sys} (hl : Ledger s) {p : Process} {now recv : ClockTime}
    {event : Option InnerEvent} {priority : Priority} {ty : EventInsertType}
    {option : VsyncBarrierOption}
    (h : (s.insertOutcome p now recv event priority ty option).result = true) :
    (s.insertOutcome p now recv event priority ty option).queue.tickets.count s.nextTicket = 1 ↔
      priority.slot.isSome = true := by
  have hfresh := hl.fresh.1
  cases event with
  | none => cases h
  | some event =>
    have hu : s.queue.usable = true := by
      by_contra hu
      rw [Bool.not_eq_true] at hu
      have hrej : (s.insertOutcome p now recv (some event) priority ty option).result = false := by
        show (s.queue.insert p now recv (some (s.stamp event)) priority ty option).result = false
        simp only [EventQueueBase.insert, hu, if_true]
      rw [hrej] at h
      cases h
    cases hp : priority.slot with
    | none =>
      rw [(insertOutcome_unnamed hu hp).2, hfresh]
      simp
    | some k =>
      refine iff_of_true ?_ rfl
      have hslot := @insert_slot p now recv s.queue (s.stamp event) priority ty option k hu hp
      obtain ⟨-, hk, hl⟩ := hslot
      have hperm := ((allEvents_insert hk hl).map InnerEvent.ticket).count_eq s.nextTicket
      rw [List.map_cons, storedEvent_ticket, preparedEvent_ticket] at hperm
      show (s.queue.insert p now recv (some (s.stamp event)) priority ty option).queue.tickets.count
        s.nextTicket = 1
      unfold tickets at hfresh ⊢
      rw [hperm]
      have hstamp : (s.stamp event).ticket = s.nextTicket := rfl
      rw [hstamp, List.count_cons_self, hfresh]

/-- **In every run without a stranding call every accepted event is kept and every blocked sender's
    event is held, in hand or its waiter is finished**; a step breaks that exactly when it strands an
    event; and an event that `Insert` accepts is stored once exactly when its priority is an
    enumerator. -/
theorem accepted_kept_iff (P : SystemParameters) (start : ClockTime) {s : SyncState}
    (h : (syncSystem P start).Reachable (fun s a => ¬ s.strands a) s) :
    EventsKept s ∧
      (∀ a t, (syncSystem P start).step s a = some t → (EventsKept t ↔ ¬ s.strands a)) ∧
      ∀ p now recv event priority ty option,
        (s.sys.insertOutcome p now recv event priority ty option).result = true →
          ((s.sys.insertOutcome p now recv event priority ty option).queue.tickets.count
              s.sys.nextTicket = 1 ↔ priority.slot.isSome = true) := by
  have hinv := reachable_syncInv h
  exact ⟨hinv.kept, fun a t hst => kept_step_iff hinv hst,
    fun p now recv event priority ty option hres => insert_stored_iff hinv.ledger hres⟩

/-- A sender on another thread is asleep while the loop thread runs its event. -/
theorem accepted_kept_iff_inHand : ∃ s : SyncState, s.blocked = [0] ∧
    (s.waiters 0).map WaiterImp.asleep = some 1 ∧ s.sys.queue.tickets = [] ∧ EventsKept s ∧
    InHand s.sys 0 := by
  obtain ⟨s, hs, hb, ha, ht⟩ := System.run_of_exec (syncSystem {} (atMs 0))
    (fun _ a => a.namedPriority = true)
    (fun s => s.blocked = [0] ∧ (s.waiters 0).map WaiterImp.asleep = some 1 ∧
      s.sys.queue.tickets = [])
    [.sendSync oneRunner (atMs 1) (atMs 1) (plainEvent (atMs 1)) .HIGH, .wait 0,
      .queue (.flag .prepare), .queue .getEvent, .queue (.pass (turnAt (atMs 2)))] (by decide)
  have hreach : (syncSystem {} (atMs 0)).Reachable (fun s a => ¬ s.strands a) s :=
    System.Reachable.mono ⟨_, hs⟩ fun _ _ => SyncState.not_strands_of_named
  have hkept := (accepted_kept_iff {} (atMs 0) hreach).1
  refine ⟨s, hb, ha, ht, hkept, ?_⟩
  rcases hkept.waits 0 (by rw [hb]; simp) with h | h | ⟨w, hw, -, h⟩
  · rw [ht] at h
    cases h
  · exact h
  · rw [hw, Option.map_some, h] at ha
    cases ha

/-- `SendSyncEvent` with the value 7: `Insert` returns true, and the sender sleeps for an event that
    nobody has. -/
theorem accepted_lost : ¬ ∀ s, (syncSystem {} (atMs 0)).Reachable System.always s → EventsKept s := by
  intro h
  obtain ⟨s, hs, hb, ha, ht, hr⟩ := System.run_of_exec (syncSystem {} (atMs 0)) System.always
    (fun s => s.blocked = [0] ∧ (s.waiters 0).map WaiterImp.asleep = some 1 ∧
      s.sys.queue.tickets = [] ∧ s.sys.current = none ∧ s.sys.pc = .outside)
    [.sendSync oneRunner (atMs 1) (atMs 1) (plainEvent (atMs 1)) (Priority.ofUInt32 7), .wait 0]
    (by decide)
  rcases (h s ⟨_, hs⟩).waits 0 (by rw [hb]; simp) with hk | (⟨e, he, -⟩ | ⟨e, need, he, -⟩) |
    ⟨w, hw, -, hz⟩
  · rw [ht] at hk
    cases hk
  · rw [hr.1] at he
    cases he
  · rw [hr.2] at he
    cases he
  · rw [hw, Option.map_some, hz] at ha
    cases ha

end AppExecFwk
