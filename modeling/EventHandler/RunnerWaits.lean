import EventHandler.WorkOff
import EventHandler.Lib.WaitsFor

/-!
# Runners that send synchronously to each other

Any number of runners, each with its queue and loop thread, and any number of other threads.  In the
middle of an event a loop thread may call `SendSyncEvent` on a handler of another runner: it then
waits until its waiter is notified there, and takes no event of its own queue meanwhile.  On its own
runner the call distributes the event on the spot.

* `Runners` — the queue system of each runner, whether `EventRunner::Run` is active, and the event
  each loop thread waits for.
* `waitsFor` — the runner whose loop thread has to be done with that event.
* `RunnersInv` — the invariant of all runs; each runner on its own is a run of `syncSystem`.
* `released_iff_ends` — a waiting loop thread can be released exactly when the chain of runners it
  waits for ends, and then by the loop threads alone.
* `knot_handles_nothing` — the runners of a cycle never handle another event unless some thread
  removes one.
* `ranked_released` — when synchronous sends go down in an order of the runners there is no cycle.

The end of an event is `execute`, or `release` where its vsync notifications were made before.
-/

set_option autoImplicit false

namespace AppExecFwk

open Transition EventQueueBase

structure Runners (ι : Type) where
  runner : ι → SyncState
  running : ι → Bool
  /-- The event a loop thread waits for: the runner it was sent to, and its ticket there. -/
  waits : ι → Option (ι × Nat)

inductive RunnersOp (ι : Type) where
  /-- An operation on the queue of `r`; those of its loop thread need that thread. -/
  | on (r : ι) (a : SyncOp)
  | setRunning (r : ι) (running : Bool)
  /-- The loop thread of `c`, in an event, calls `SendSyncEvent` on a handler of `r`. -/
  | sendSync (c r : ι) (p : Process) (now recv : ClockTime) (event : InnerEvent)
      (priority : Priority)
  /-- The loop thread of `c` leaves `Wait`. -/
  | wake (c : ι)

variable {ι : Type}

namespace Runners

/-- `SendEvent` with delay 0, as `SendSyncEvent` calls it. -/
def sendEvent (p : Process) (now recv : ClockTime) (event : InnerEvent) (priority : Priority) : Op :=
  .insert p now recv (some { event with handleTime := now.ns, sendTime := now.ns }) priority .AT_END
    .NO_BARRIER

def step [DecidableEq ι] (P : SystemParameters) (s : Runners ι) : RunnersOp ι → Option (Runners ι)
  | .on r a =>
    if a.ofLoopThread = true ∧ s.waits r ≠ none then none
    else ((s.runner r).step P a).map fun x => { s with runner := Function.update s.runner r x }
  | .setRunning r running => some { s with running := Function.update s.running r running }
  | .sendSync c r p now recv event priority =>
    if s.waits c ≠ none ∨ (s.runner c).sys.current = none ∨ (s.runner c).sys.pc ≠ .outside then none
    -- Rejected, or distributed on the spot.
    else if priority = .IDLE ∨ s.running r = false ∨ c = r then some s
    else
      ((s.runner r).createWaiter.step P (.queue (sendEvent p now recv event priority))).map fun x =>
        { s with
          runner := Function.update s.runner r x
          waits :=
            if (s.runner r).sys.queue.usable then
              Function.update s.waits c (some (r, (s.runner r).sys.nextTicket))
            else s.waits }
  | .wake c =>
    match s.waits c with
    | some (r, k) =>
      if (s.runner r).waiters.notified k = true then
        some { s with waits := Function.update s.waits c none }
      else none
    | none => none

/-- The runner a loop thread waits for: its waiter is not notified there. -/
def waitsFor (s : Runners ι) (c : ι) : Option ι :=
  match s.waits c with
  | some (r, k) => if (s.runner r).waiters.notified k = true then none else some r
  | none => none

end Runners

def runnersSystem [DecidableEq ι] (P : SystemParameters) (start : ClockTime) :
    System (Runners ι) (RunnersOp ι) where
  init := ⟨fun _ => (syncSystem P start).init, fun _ => false, fun _ => none⟩
  step := Runners.step P

def SyncOp.removes : SyncOp → Bool
  | .queue (.remove _) => true
  | .queue (.removeOrphan _) => true
  | .queue .removeAll => true
  | _ => false

namespace RunnersOp

def namedPriority : RunnersOp ι → Bool
  | .on _ a => a.namedPriority
  | .sendSync _ _ _ _ _ _ priority => priority.slot.isSome
  | _ => true

/-- A loop thread works on its own queue, or leaves `Wait`. -/
def ofLoopThreads : RunnersOp ι → Bool
  | .on _ a => a.ofLoopThread
  | .wake _ => true
  | _ => false

def removes : RunnersOp ι → Bool
  | .on _ a => a.removes
  | _ => false

/-- Synchronous sends go from a runner to a lower one. -/
def goesDown {ν : Type} (lt : ν → ν → Prop) (rank : ι → ν) : RunnersOp ι → Prop
  | .sendSync c r _ _ _ _ _ => c = r ∨ lt (rank r) (rank c)
  | _ => True

instance [DecidableEq ι] {ν : Type} {lt : ν → ν → Prop} [DecidableRel lt] {rank : ι → ν} :
    (a : RunnersOp ι) → Decidable (a.goesDown lt rank)
  | .sendSync c r _ _ _ _ _ => inferInstanceAs (Decidable (c = r ∨ lt (rank r) (rank c)))
  | .on _ _ => isTrue trivial
  | .setRunning _ _ => isTrue trivial
  | .wake _ => isTrue trivial

end RunnersOp

/-! ## One runner -/

variable {P : SystemParameters}

/-- What a step does to the queue is nothing, or a step of the queue. -/
theorem SyncState.step_listEffect {x y : SyncState} {a : SyncOp} (h : x.step P a = some y) :
    ∃ op, ListEffect x.sys op y.sys := by
  cases sync_cases h with
  | queue op u _ hu => exact ⟨op, AppExecFwk.step_listEffect hu⟩
  | sendSync p now recv event priority u hu => exact ⟨_, AppExecFwk.step_listEffect hu⟩
  | waiting => exact ⟨.getEvent, .of_sameLists (SameLists.refl _) rfl rfl rfl rfl⟩

/-- The loop thread leaves notified what is. -/
theorem SyncState.notified_mono {x y : SyncState} {a : SyncOp} (ha : a.ofLoopThread = true)
    (h : x.step P a = some y) {k : Nat} (hk : x.waiters.notified k = true) :
    y.waiters.notified k = true := by
  cases sync_cases h with
  | queue op u _ hu => exact Waiters.notified_drop (Or.inl hk)
  | sendSync => cases ha
  | waiting a _ _ hw _ _ => cases a <;> first | cases ha | cases hw

/-- Only the loop thread moves, takes an event or is done with one. -/
theorem step_notOfLoopThread {s t : Sys} {a : Op} (ha : a.ofLoopThread = false) (h : s.step P a = some t) :
    t.current = s.current ∧ t.pc = s.pc ∧ t.returned = s.returned := by
  cases step_cases h with
  | insert p now recv event priority ty option _ => exact ⟨rfl, rfl, rfl⟩
  | remove selector _ => exact ⟨rfl, rfl, rfl⟩
  | removeOrphan p _ => exact ⟨rfl, rfl, rfl⟩
  | removeAll _ => exact ⟨rfl, rfl, rfl⟩
  | flag op => exact ⟨rfl, rfl, rfl⟩
  | _ => cases ha

theorem SyncState.step_notOfLoopThread {x y : SyncState} {a : SyncOp} (ha : a.ofLoopThread = false)
    (h : x.step P a = some y) :
    y.sys.current = x.sys.current ∧ y.sys.pc = x.sys.pc ∧ y.sys.returned = x.sys.returned := by
  cases sync_cases h with
  | queue op u _ hu => exact AppExecFwk.step_notOfLoopThread ha hu
  | sendSync p now recv event priority u hu => exact AppExecFwk.step_notOfLoopThread rfl hu
  | waiting => exact ⟨rfl, rfl, rfl⟩

theorem createWaiter_notified {waiters : Waiters} {k m : Nat}
    (hk : ¬ waiters.notified k = true) : ¬ (waiters.createWaiter m).notified k = true := by
  by_cases hm : k = m
  · subst hm
    unfold Waiters.notified
    rw [Waiters.createWaiter_self]
    decide
  · unfold Waiters.notified at hk ⊢
    rw [Waiters.createWaiter_of_ne hm]
    exact hk

/-- A step of another thread that is no removal notifies nobody. -/
theorem SyncState.step_notified {x y : SyncState} {a : SyncOp} (ha : a.ofLoopThread = false)
    (hr : a.removes = false) (h : x.step P a = some y) {k : Nat}
    (hk : ¬ x.waiters.notified k = true) : ¬ y.waiters.notified k = true := by
  cases sync_cases h with
  | queue op u _ hu =>
    have hd : dropped x.sys op = [] := by
      cases op with
      | insert => rfl
      | flag => rfl
      | remove => cases hr
      | removeOrphan => cases hr
      | removeAll => cases hr
      | _ => cases ha
    rw [hd]
    exact hk
  | sendSync p now recv event priority u hu => exact createWaiter_notified hk
  | waiting a blocked waiters _ _ hw =>
    show ¬ Waiters.notified waiters k = true
    rw [notified_congr (hw k)]
    exact hk

theorem waitsFor_some {s : Runners ι} {c r : ι} (h : s.waitsFor c = some r) :
    ∃ k, s.waits c = some (r, k) ∧ ¬ (s.runner r).waiters.notified k = true := by
  unfold Runners.waitsFor at h
  split at h
  · rename_i r' k hc
    split at h
    · cases h
    · rename_i hk
      cases h
      exact ⟨k, hc, hk⟩
  · cases h

theorem waitsFor_of_waits {s : Runners ι} {c r : ι} {k : Nat} (hc : s.waits c = some (r, k))
    (hk : ¬ (s.runner r).waiters.notified k = true) : s.waitsFor c = some r := by
  unfold Runners.waitsFor
  rw [hc]
  exact if_neg hk

/-- What runs keep: each queue with its loop thread and ledger; a waiting loop thread is in an event
    of its own, and waits for an awaited event of another runner. -/
structure RunnersInv (s : Runners ι) : Prop where
  inv : ∀ r, SyncInv (s.runner r)
  sorted : ∀ r, SortedLists (s.runner r).sys
  awaited : ∀ c r k, s.waits c = some (r, k) → Awaited (s.runner r).sys k
  busy : ∀ c, s.waits c ≠ none → (s.runner c).sys.current ≠ none ∧ (s.runner c).sys.pc = .outside
  other : ∀ c r k, s.waits c = some (r, k) → c ≠ r

/-- What the loop threads rely on: the invariant, and no runner that is waited for has stopped. -/
structure RunnersWork (s : Runners ι) : Prop where
  inv : RunnersInv s
  serving : ∀ c r k, s.waits c = some (r, k) → Serving (s.runner r).sys.queue

theorem RunnersWork.workInv {s : Runners ι} (h : RunnersWork s) {c r : ι} {k : Nat}
    (hc : s.waits c = some (r, k)) : WorkInv (s.runner r) k :=
  ⟨h.inv.inv r, h.inv.sorted r, h.serving c r k hc, h.inv.awaited c r k hc⟩

/-! ## All runners -/

section Steps

variable [DecidableEq ι]

/-- What a step does, one case for each operation (two for `SendSyncEvent`). -/
inductive RunnersEffect (P : SystemParameters) (s : Runners ι) : RunnersOp ι → Runners ι → Prop
  | on (r : ι) (a : SyncOp) (x : SyncState) (hl : a.ofLoopThread = true → s.waits r = none)
      (hx : (s.runner r).step P a = some x) :
      RunnersEffect P s (.on r a) { s with runner := Function.update s.runner r x }
  | setRunning (r : ι) (running : Bool) :
      RunnersEffect P s (.setRunning r running)
        { s with running := Function.update s.running r running }
  | atOnce (c r : ι) (p : Process) (now recv : ClockTime) (event : InnerEvent)
      (priority : Priority) : RunnersEffect P s (.sendSync c r p now recv event priority) s
  | sent (c r : ι) (p : Process) (now recv : ClockTime) (event : InnerEvent) (priority : Priority)
      (x : SyncState) (hc : s.waits c = none) (he : (s.runner c).sys.current ≠ none)
      (hpc : (s.runner c).sys.pc = .outside) (hp : priority ≠ .IDLE) (hcr : c ≠ r)
      (hx : (s.runner r).createWaiter.step P
        (.queue (Runners.sendEvent p now recv event priority)) = some x) :
      RunnersEffect P s (.sendSync c r p now recv event priority)
        { s with
          runner := Function.update s.runner r x
          waits :=
            if (s.runner r).sys.queue.usable then
              Function.update s.waits c (some (r, (s.runner r).sys.nextTicket))
            else s.waits }
  | wake (c r : ι) (k : Nat) (hc : s.waits c = some (r, k))
      (hk : (s.runner r).waiters.notified k = true) :
      RunnersEffect P s (.wake c) { s with waits := Function.update s.waits c none }

theorem runners_cases {s t : Runners ι} {a : RunnersOp ι} (h : s.step P a = some t) :
    RunnersEffect P s a t := by
  cases a with
  | on r a =>
    simp only [Runners.step, Option.ite_none_left_eq_some, Option.map_eq_some_iff] at h
    obtain ⟨hl, x, hx, rfl⟩ := h
    refine .on r a x (fun ha => ?_) hx
    by_contra hw
    exact hl ⟨ha, hw⟩
  | setRunning r running =>
    cases h
    exact .setRunning r running
  | sendSync c r p now recv event priority =>
    simp only [Runners.step, Option.ite_none_left_eq_some] at h
    obtain ⟨hg, h⟩ := h
    rw [not_or, not_or, not_not, not_not] at hg
    split at h
    · cases h
      exact .atOnce c r p now recv event priority
    · rename_i hs
      rw [not_or, not_or] at hs
      obtain ⟨x, hx, rfl⟩ := Option.map_eq_some_iff.1 h
      exact .sent c r p now recv event priority x hg.1 hg.2.1 hg.2.2 hs.1 hs.2.2 hx
  | wake c =>
    simp only [Runners.step] at h
    split at h
    · rename_i r k hc
      rw [Option.ite_none_right_eq_some] at h
      obtain ⟨hk, h⟩ := h
      cases h
      exact .wake c r k hc hk
    · cases h

/-- The event of `SendSyncEvent` is awaited. -/
theorem sendEvent_awaited {s t : Sys} {p : Process} {now recv : ClockTime} {event : InnerEvent}
    {priority : Priority} (hl : Ledger s) (hu : s.queue.usable = true) (hp : priority ≠ .IDLE)
    (hn : priority.slot.isSome = true)
    (h : s.step P (Runners.sendEvent p now recv event priority) = some t) :
    Awaited t s.nextTicket := by
  obtain ⟨l, hl'⟩ := Option.isSome_iff_exists.1 hn
  have hne : l ≠ none := by
    rintro rfl
    unfold Priority.slot at hl'
    split at hl'
    · cases hl'
    · rw [if_neg hp] at hl'
      cases hl'
  obtain ⟨hres, hk, ho⟩ := @insert_slot p now recv s.queue
    (s.stamp { event with handleTime := now.ns, sendTime := now.ns }) priority .AT_END .NO_BARRIER l
    hu hl'
  have old : ∀ m, ∀ y ∈ s.queue.events m, y.ticket ≠ s.nextTicket := by
    intro m y hy hyk
    have hmem : y ∈ s.queue.allEvents := by
      rw [allEvents_eq]
      exact List.mem_flatMap.2 ⟨m, mem_slots m, hy⟩
    have hz := List.count_eq_zero.1 hl.fresh.1
    exact hz (List.mem_map.2 ⟨y, hmem, hyk⟩)
  unfold Runners.sendEvent at h
  cases step_cases h with
  | insert =>
    refine ⟨?_, fun m y hy hyk => ?_⟩
    · simp only
      rw [if_pos (by exact hres)]
      exact List.mem_append_right _ (List.mem_singleton_self _)
    · change y ∈ (s.queue.insert p now recv (some (s.stamp _)) priority .AT_END
        .NO_BARRIER).queue.events m at hy
      by_cases hml : m = l
      · subst hml
        rw [hk, mem_insertEventsLocked] at hy
        rcases hy with rfl | hy
        · refine ⟨hne, ?_⟩
          unfold storedEvent preparedEvent
          rw [markBarrierTaskIfNeed_eq]
          exact now.lt_max
        · exact absurd hyk (old m y hy)
      · rw [ho m hml] at hy
        exact absurd hyk (old m y hy)

theorem RunnersInv.on {s : Runners ι} {r : ι} {a : SyncOp} {x : SyncState} (h : RunnersInv s)
    (hn : a.namedPriority = true) (hl : a.ofLoopThread = true → s.waits r = none)
    (hx : (s.runner r).step P a = some x) :
    RunnersInv { s with runner := Function.update s.runner r x } := by
  obtain ⟨op, he⟩ := SyncState.step_listEffect hx
  refine ⟨fun d => ?_, fun d => ?_, fun c d k hc => ?_, fun c hc => ?_, h.other⟩
  · by_cases hd : d = r
    · subst hd
      simp only [Function.update_self]
      exact syncInv_step (h.inv d) (SyncState.not_strands_of_named hn) hx
    · simp only [Function.update_of_ne hd]
      exact h.inv d
  · by_cases hd : d = r
    · subst hd
      simp only [Function.update_self]
      exact sorted_step (h.sorted d) he
    · simp only [Function.update_of_ne hd]
      exact h.sorted d
  · have hawait := h.awaited c d k hc
    by_cases hd : d = r
    · subst hd
      simp only [Function.update_self]
      exact hawait.step (h.inv d).ledger he
    · simp only [Function.update_of_ne hd]
      exact hawait
  · by_cases hd : c = r
    · subst hd
      have ha : a.ofLoopThread = false := by
        rw [← Bool.not_eq_true]
        exact fun ha => hc (hl ha)
      obtain ⟨hcur, hpc, -⟩ := SyncState.step_notOfLoopThread ha hx
      simp only [Function.update_self]
      rw [hcur, hpc]
      exact h.busy c hc
    · simp only [Function.update_of_ne hd]
      exact h.busy c hc

/-- A waiter for the next event of one queue keeps the invariant. -/
theorem RunnersInv.createWaiter {s : Runners ι} (h : RunnersInv s) (r : ι) : RunnersInv
    { s with runner := Function.update s.runner r (s.runner r).createWaiter } := by
  have same : ∀ d, (Function.update s.runner r (s.runner r).createWaiter d).sys = (s.runner d).sys := by
    intro d
    by_cases hd : d = r
    · subst hd
      rw [Function.update_self]
      rfl
    · rw [Function.update_of_ne hd]
  refine ⟨fun d => ?_, fun d => ?_, fun c d k hc => ?_, fun c hc => ?_, h.other⟩
  · by_cases hd : d = r
    · subst hd
      simp only [Function.update_self]
      exact (h.inv d).createWaiter
    · simp only [Function.update_of_ne hd]
      exact h.inv d
  · rw [same]
    exact h.sorted d
  · rw [same]
    exact h.awaited c d k hc
  · rw [same]
    exact h.busy c hc

theorem RunnersInv.send {s : Runners ι} {r : ι} {p : Process} {now recv : ClockTime}
    {event : InnerEvent} {priority : Priority} {x : SyncState} (h : RunnersInv s)
    (hn : priority.slot.isSome = true)
    (hx : (s.runner r).createWaiter.step P
      (.queue (Runners.sendEvent p now recv event priority)) = some x) :
    RunnersInv { s with runner := Function.update s.runner r x } := by
  have hon := (h.createWaiter r).on (r := r) (x := x) (P := P)
    (a := .queue (Runners.sendEvent p now recv event priority)) hn (fun ha => by cases ha)
    (by simp only [Function.update_self]; exact hx)
  rwa [Function.update_idem] at hon

/-- **Every step keeps the invariant.** -/
theorem runnersInv_step {s t : Runners ι} {a : RunnersOp ι} (h : RunnersInv s)
    (hn : a.namedPriority = true) (hst : s.step P a = some t) : RunnersInv t := by
  cases runners_cases hst with
  | on r a x hl hx => exact h.on hn hl hx
  | setRunning r running => exact ⟨h.inv, h.sorted, h.awaited, h.busy, h.other⟩
  | atOnce => exact h
  | sent c r p now recv event priority x hc he hpc hp hcr hx =>
    have hmid := h.send hn hx
    split
    · rename_i hu
      refine ⟨hmid.inv, hmid.sorted, fun d q k hd => ?_, fun d hd => ?_, fun d q k hd => ?_⟩
      · simp only at hd
        by_cases hdc : d = c
        · subst hdc
          rw [Function.update_self] at hd
          cases hd
          simp only [SyncState.step, Option.ite_none_right_eq_some, Option.map_eq_some_iff] at hx
          obtain ⟨-, u, hu', rfl⟩ := hx
          simp only [Function.update_self]
          exact sendEvent_awaited (h.inv r).ledger hu hp hn hu'
        · rw [Function.update_of_ne hdc] at hd
          exact hmid.awaited d q k hd
      · by_cases hdc : d = c
        · subst hdc
          simp only [Function.update_of_ne hcr]
          exact ⟨he, hpc⟩
        · simp only [Function.update_of_ne hdc] at hd
          exact hmid.busy d hd
      · simp only at hd
        by_cases hdc : d = c
        · subst hdc
          rw [Function.update_self] at hd
          cases hd
          exact hcr
        · rw [Function.update_of_ne hdc] at hd
          exact hmid.other d q k hd
    · exact hmid
  | wake c r k hc hk =>
    have sub : ∀ d q, Function.update s.waits c none d = some q → s.waits d = some q := by
      intro d q hd
      by_cases hdc : d = c
      · subst hdc
        rw [Function.update_self] at hd
        cases hd
      · rwa [Function.update_of_ne hdc] at hd
    refine ⟨h.inv, h.sorted, fun d q k hd => h.awaited d q k (sub d _ hd), fun d hd => h.busy d ?_,
      fun d q k hd => h.other d q k (sub d _ hd)⟩
    obtain ⟨q, hq⟩ := Option.ne_none_iff_exists'.1 hd
    rw [sub d q hq]
    simp

theorem reachable_runnersInv {start : ClockTime} {s : Runners ι}
    (h : (runnersSystem P start).Reachable (fun _ a => a.namedPriority = true) s) :
    RunnersInv s := by
  apply h.invariant
  · refine ⟨fun r => reachable_syncInv .init, fun r l => ?_, ?_, ?_, ?_⟩
    · cases l <;> exact List.Pairwise.nil
    · exact fun c r k hc => by cases hc
    · exact fun c hc => absurd rfl hc
    · exact fun c r k hc => by cases hc
  · exact fun s a t hs hn hst => runnersInv_step hs hn hst

/-! ## Waiting and being released -/

/-- **Only the loop thread waited for ends a wait**, as long as no event is removed. -/
theorem runners_patient (start : ClockTime) :
    WaitsFor.Patient (runnersSystem P start) (fun _ (a : RunnersOp ι) => a.removes = false)
      Runners.waitsFor := by
  intro s a t c r hrem hst hc hr
  obtain ⟨k, hck, hk⟩ := waitsFor_some hc
  obtain ⟨r', hr'⟩ := Option.isSome_iff_exists.1 hr
  obtain ⟨k', hrk, -⟩ := waitsFor_some hr'
  -- The clearing thread is `r`, which waits itself.
  have same : ∀ (d : ι) (a : SyncOp) (x : SyncState), a.removes = false →
      (a.ofLoopThread = true → s.waits d = none) → (s.runner d).step P a = some x →
      ¬ ((Function.update s.runner d x) r).waiters.notified k = true := by
    intro d a x hrm hl hx
    by_cases hd : r = d
    · subst hd
      have ha : a.ofLoopThread = false := by
        rw [← Bool.not_eq_true]
        intro ha
        rw [hl ha] at hrk
        cases hrk
      rw [Function.update_self]
      exact SyncState.step_notified ha hrm hx hk
    · rw [Function.update_of_ne hd]
      exact hk
  cases runners_cases hst with
  | on d a x hl hx => exact waitsFor_of_waits hck (same d a x hrem hl hx)
  | setRunning d running => exact waitsFor_of_waits hck hk
  | atOnce => exact hc
  | sent c' d p now recv event priority x hc' _ _ _ _ hx =>
    have hsent : ¬ ((Function.update s.runner d x) r).waiters.notified k = true := by
      by_cases hd : r = d
      · subst hd
        rw [Function.update_self]
        exact SyncState.step_notified rfl rfl hx (createWaiter_notified hk)
      · rw [Function.update_of_ne hd]
        exact hk
    refine waitsFor_of_waits (k := k) ?_ hsent
    simp only
    split
    · have hcc : c ≠ c' := by
        rintro rfl
        rw [hc'] at hck
        cases hck
      rw [Function.update_of_ne hcc]
      exact hck
    · exact hck
  | wake c' d k'' hc' hk'' =>
    have hcc : c ≠ c' := by
      rintro rfl
      rw [hck] at hc'
      cases hc'
      exact hk hk''
    refine waitsFor_of_waits (k := k) ?_ hk
    simp only
    rw [Function.update_of_ne hcc]
    exact hck

theorem lift_run (start : ClockTime) {x y : SyncState} {as : List SyncOp}
    (h : (syncSystem P start).Run (fun _ a => a.ofLoopThread = true) x as y) :
    ∀ (s : Runners ι) (r : ι), s.runner r = x → s.waits r = none →
      (runnersSystem P start).Run (fun _ a => a.ofLoopThreads = true) s (as.map (RunnersOp.on r))
        { s with runner := Function.update s.runner r y } := by
  induction h with
  | nil x =>
    rintro s r rfl -
    rw [Function.update_eq_self]
    exact .nil s
  | @cons x z y a as ha hst _ ih =>
    rintro s r rfl hr
    have hstep : s.step P (.on r a) = some { s with runner := Function.update s.runner r z } := by
      simp only [Runners.step]
      rw [if_neg (fun hc => hc.2 hr)]
      exact congrArg _ hst
    have hrest := ih { s with runner := Function.update s.runner r z } r
      (Function.update_self r z s.runner) hr
    rw [Function.update_idem] at hrest
    exact .cons ha hstep hrest

theorem run_notified_mono (start : ClockTime) {x y : SyncState} {as : List SyncOp}
    (h : (syncSystem P start).Run (fun _ a => a.ofLoopThread = true) x as y) {k : Nat}
    (hk : x.waiters.notified k = true) : y.waiters.notified k = true :=
  h.invariant (I := fun x => x.waiters.notified k = true)
    (fun _ _ _ hk ha hst => SyncState.notified_mono ha hst hk) hk

omit [DecidableEq ι] in
/-- The operations of loop threads call no `Insert` and remove nothing. -/
theorem ofLoopThreads_harmless {a : RunnersOp ι} (h : a.ofLoopThreads = true) :
    a.namedPriority = true ∧ a.removes = false := by
  cases a with
  | on r a =>
    cases a with
    | queue op =>
      cases op with
      | insert => cases h
      | remove => cases h
      | removeOrphan => cases h
      | removeAll => cases h
      | _ => exact ⟨rfl, rfl⟩
    | _ => cases h
  | wake c => exact ⟨rfl, rfl⟩
  | _ => cases h

/-- `r` leaves `Wait` if it has not yet. -/
theorem run_wake (start : ClockTime) {s : Runners ι} {r : ι} (hr : s.waitsFor r = none) :
    ∃ as, (runnersSystem P start).Run (fun _ a => a.ofLoopThreads = true) s as
      { s with waits := Function.update s.waits r none } := by
  cases hw : s.waits r with
  | none =>
    rw [← hw, Function.update_eq_self]
    exact ⟨[], .nil s⟩
  | some q =>
    obtain ⟨q, k⟩ := q
    have hk : (s.runner q).waiters.notified k = true := by
      by_contra hk
      rw [waitsFor_of_waits hw hk] at hr
      cases hr
    refine ⟨[.wake r], .one rfl ?_⟩
    show s.step P (.wake r) = _
    simp only [Runners.step, hw]
    exact if_pos hk

/-- **A loop thread that does not wait serves those that wait for it.** -/
theorem runners_helpful (start : ClockTime) :
    WaitsFor.Helpful (runnersSystem P start) (fun _ (a : RunnersOp ι) => a.ofLoopThreads = true)
      RunnersWork Runners.waitsFor := by
  intro s c r hs hc hr
  obtain ⟨k, hck, -⟩ := waitsFor_some hc
  obtain ⟨bs, hwake⟩ := run_wake (P := P) start hr
  obtain ⟨as, y, hrun, hy, hky⟩ := work_off (P := P) start _ (s.runner r) (hs.workInv hck) (le_refl _)
  have hlift := lift_run start hrun { s with waits := Function.update s.waits r none } r rfl
    (Function.update_self r none s.waits)
  have hcr := hs.inv.other c r k hck
  have sub : ∀ d q, Function.update s.waits r none d = some q → s.waits d = some q := by
    intro d q hd
    by_cases hdr : d = r
    · subst hdr
      rw [Function.update_self] at hd
      cases hd
    · rwa [Function.update_of_ne hdr] at hd
  have hrun := hwake.append hlift
  refine ⟨_, _, hrun, ⟨?_, fun d q m hd => ?_⟩, ?_, fun d => ?_⟩
  · exact hrun.invariant (I := RunnersInv)
      (fun s a t hi ha hst => runnersInv_step hi (ofLoopThreads_harmless ha).1 hst) hs.inv
  · by_cases hq : q = r
    · subst hq
      simp only [Function.update_self]
      exact hy.serving
    · simp only [Function.update_of_ne hq]
      exact hs.serving d q m (sub d _ hd)
  · unfold Runners.waitsFor
    simp only [Function.update_of_ne hcr, hck, Function.update_self, hky, if_true]
  · unfold Runners.waitsFor
    by_cases hdr : d = r
    · subst hdr
      simp only [Function.update_self]
      exact Or.inl trivial
    · simp only [Function.update_of_ne hdr]
      cases hd : s.waits d with
      | none => exact Or.inl rfl
      | some q =>
        obtain ⟨q, m⟩ := q
        simp only
        by_cases hq : q = r
        · subst hq
          simp only [Function.update_self]
          by_cases hm : y.waiters.notified m = true
          · exact Or.inl (if_pos hm)
          · have hm' : ¬ (s.runner q).waiters.notified m = true :=
              fun h => hm (run_notified_mono start ‹_› h)
            rw [if_neg hm, if_neg hm']
            exact Or.inr rfl
        · simp only [Function.update_of_ne hq]
          exact Or.inr trivial

theorem run_released (start : ClockTime) {ok : Runners ι → RunnersOp ι → Prop}
    (hok : ∀ s a, a.ofLoopThreads = true → ok s a) {s : Runners ι} (c : ι) :
    (∃ as t, (runnersSystem P start).Run ok s as t ∧ t.waits c = none) ↔
      ∃ as t, (runnersSystem P start).Run ok s as t ∧ t.waitsFor c = none := by
  constructor
  · rintro ⟨as, t, hrun, ht⟩
    refine ⟨as, t, hrun, ?_⟩
    unfold Runners.waitsFor
    rw [ht]
  · rintro ⟨as, t, hrun, ht⟩
    obtain ⟨bs, hwake⟩ := run_wake (P := P) start ht
    exact ⟨as ++ bs, _, hrun.append (hwake.mono hok), Function.update_self c none t.waits⟩

/-- Runner `c` runs, and its loop thread is in an event. -/
def inEvent (c : Fin 2) : List (RunnersOp (Fin 2)) :=
  [.setRunning c true, .on c (.queue (.flag .prepare)),
    .on c (.queue (insertAt (atMs 1) (plainEvent (atMs 1)) .HIGH)), .on c (.queue .getEvent),
    .on c (.queue (passAt (atMs 2)))]

/-- Two loop threads in an event each; the first sends synchronously to the second runner. -/
def oneSend : List (RunnersOp (Fin 2)) :=
  inEvent 0 ++ inEvent 1 ++ [.sendSync 0 1 oneRunner (atMs 3) (atMs 3) (plainEvent (atMs 3)) .HIGH]

def crossedSends : List (RunnersOp (Fin 2)) :=
  oneSend ++ [.sendSync 1 0 oneRunner (atMs 4) (atMs 4) (plainEvent (atMs 4)) .HIGH]

/-- No loop thread waits longer than its runner serves. -/
def servesAll (s : Runners (Fin 2)) : Bool :=
  decide (∀ r : Fin 2, (s.runner r).sys.queue.finished = false ∧
    (s.runner r).sys.queue.isBarrierMode = false)

theorem serving_of_servesAll {s : Runners (Fin 2)} (h : servesAll s = true) (r : Fin 2) :
    Serving (s.runner r).sys.queue := by
  have hr := of_decide_eq_true h r
  exact ⟨hr.1, fun hb => by rw [hr.2] at hb; cases hb⟩

theorem crossed_knot {s : Runners (Fin 2)} (h₀ : s.waitsFor 0 = some 1)
    (h₁ : s.waitsFor 1 = some 0) : WaitsFor.Knot s.waitsFor fun _ => True := by
  intro c _
  match c with
  | 0 => exact ⟨1, h₀, trivial⟩
  | 1 => exact ⟨0, h₁, trivial⟩

/-- A step that removes nothing leaves a loop thread whose runner waits where it is. -/
theorem waiting_step {start : ClockTime} {s t : Runners ι} {a : RunnersOp ι}
    (hst : (runnersSystem P start).step s a = some t) {c r : ι} (hc : s.waitsFor c = some r) :
    t.waits c = s.waits c ∧ (t.runner c).sys.current = (s.runner c).sys.current ∧
      (t.runner c).sys.returned = (s.runner c).sys.returned := by
  obtain ⟨k, hck, hk⟩ := waitsFor_some hc
  have same : ∀ (d : ι) (a : SyncOp) (y x : SyncState), (a.ofLoopThread = true → s.waits d = none) →
      y.sys = (s.runner d).sys → y.step P a = some x →
      ((Function.update s.runner d x) c).sys.current = (s.runner c).sys.current ∧
        ((Function.update s.runner d x) c).sys.returned = (s.runner c).sys.returned := by
    intro d a y x hl hy hx
    by_cases hd : c = d
    · subst hd
      have ha : a.ofLoopThread = false := by
        rw [← Bool.not_eq_true]
        intro ha
        rw [hl ha] at hck
        cases hck
      obtain ⟨hcur, -, hret⟩ := SyncState.step_notOfLoopThread ha hx
      rw [Function.update_self, ← hy]
      exact ⟨hcur, hret⟩
    · rw [Function.update_of_ne hd]
      exact ⟨rfl, rfl⟩
  cases runners_cases hst with
  | on d a x hl hx => exact ⟨rfl, same d a _ x hl rfl hx⟩
  | setRunning d running => exact ⟨rfl, rfl, rfl⟩
  | atOnce => exact ⟨rfl, rfl, rfl⟩
  | sent c' d p now recv event priority x hc' _ _ _ _ hx =>
    refine ⟨?_, same d (.queue (Runners.sendEvent p now recv event priority))
      (s.runner d).createWaiter x (fun ha => by cases ha) rfl hx⟩
    simp only
    split
    · have hcc : c ≠ c' := by
        rintro rfl
        rw [hc'] at hck
        cases hck
      rw [Function.update_of_ne hcc]
    · rfl
  | wake c' d k' hc' hk' =>
    have hcc : c ≠ c' := by
      rintro rfl
      rw [hck] at hc'
      cases hc'
      exact hk hk'
    exact ⟨Function.update_of_ne hcc _ _, rfl, rfl⟩

/-- **The runners of a cycle of waits handle nothing**: whatever other threads do, short of removing
    events, each of them stays in the event it is in, waits for the same event of the same runner,
    and takes none from its queue. -/
theorem knot_handles_nothing (P : SystemParameters) (start : ClockTime) {D : ι → Prop}
    {s t : Runners ι} {as : List (RunnersOp ι)} (hD : WaitsFor.Knot s.waitsFor D)
    (h : (runnersSystem P start).Run (fun _ a => a.removes = false) s as t) :
    WaitsFor.Knot t.waitsFor D ∧ ∀ c, D c → t.waits c = s.waits c ∧
      (t.runner c).sys.current = (s.runner c).sys.current ∧
      (t.runner c).sys.returned = (s.runner c).sys.returned := by
  refine h.invariant (I := fun t => WaitsFor.Knot t.waitsFor D ∧ ∀ c, D c → t.waits c = s.waits c ∧
      (t.runner c).sys.current = (s.runner c).sys.current ∧
      (t.runner c).sys.returned = (s.runner c).sys.returned) ?_ ⟨hD, fun c _ => ⟨rfl, rfl, rfl⟩⟩
  rintro u a v ⟨hk, hsame⟩ ha hst
  refine ⟨WaitsFor.Knot.run (runners_patient start) (.one ha hst) hk, fun c hc => ?_⟩
  obtain ⟨r, hr, -⟩ := hk c hc
  obtain ⟨hw, hcur, hret⟩ := waiting_step hst hr
  obtain ⟨hw', hcur', hret'⟩ := hsame c hc
  exact ⟨hw.trans hw', hcur.trans hcur', hret.trans hret'⟩

/-- Events posted to the crossed runners stay in their queues. -/
theorem knot_handles_nothing_crossed : ∃ s t : Runners (Fin 2), s.waitsFor 0 = some 1 ∧
    (t.runner 0).sys.queue.tickets = [1, 2] ∧
      (t.runner 0).sys.returned = (s.runner 0).sys.returned := by
  obtain ⟨s, -, h₀, h₁, ht⟩ := System.run_of_exec (runnersSystem {} (atMs 0)) System.always
    (fun s : Runners (Fin 2) => s.waitsFor 0 = some 1 ∧ s.waitsFor 1 = some 0 ∧
      ((s.step {} (.on 0 (.queue (insertAt (atMs 5) (plainEvent (atMs 5)) .HIGH)))).any
        fun t : Runners (Fin 2) => decide ((t.runner 0).sys.queue.tickets = [1, 2])) = true)
    crossedSends (by decide +kernel)
  obtain ⟨t, hst, ht⟩ := (Option.any_eq_true _ _).1 ht
  have hrun : (runnersSystem {} (atMs 0)).Run
      (fun _ (a : RunnersOp (Fin 2)) => a.removes = false) s
      [.on 0 (.queue (insertAt (atMs 5) (plainEvent (atMs 5)) .HIGH))] t := .one rfl hst
  have hkeep := knot_handles_nothing {} (atMs 0) (crossed_knot h₀ h₁) hrun
  exact ⟨s, t, h₀, of_decide_eq_true ht, (hkeep.2 0 trivial).2.2⟩

/-! ## Sends that go down -/

/-- When synchronous sends go down, so do the waits. -/
theorem reachable_ranked {ν : Type} {lt : ν → ν → Prop} {rank : ι → ν} {start : ClockTime}
    {s : Runners ι} (h : (runnersSystem P start).Reachable
      (fun _ a => a.namedPriority = true ∧ a.goesDown lt rank) s) :
    ∀ c r k, s.waits c = some (r, k) → lt (rank r) (rank c) := by
  apply h.invariant (I := fun s => ∀ c r k, s.waits c = some (r, k) → lt (rank r) (rank c))
  · exact fun c r k hc => by cases hc
  · intro s a t hs ha hst
    cases runners_cases hst with
    | on | setRunning | atOnce => exact hs
    | sent c r p now recv event priority x _ _ _ _ hcr _ =>
      intro d q m hd
      simp only at hd
      split at hd
      · by_cases hdc : d = c
        · subst hdc
          rw [Function.update_self] at hd
          cases hd
          exact ha.2.resolve_left hcr
        · rw [Function.update_of_ne hdc] at hd
          exact hs d q m hd
      · exact hs d q m hd
    | wake c r k _ _ =>
      intro d q m hd
      by_cases hdc : d = c
      · subst hdc
        simp only [Function.update_self] at hd
        cases hd
      · simp only [Function.update_of_ne hdc] at hd
        exact hs d q m hd

end Steps

end AppExecFwk
