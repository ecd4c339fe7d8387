import EventHandler.QueueSystem
import EventHandler.Order
import EventHandler.Ready

/-!
# What GetEvent notes about the event it returns

`currentRunningEvent_` and `isIdle_` are written by `GetExpiredEventLocked`.  Four of the five ways
an event leaves `GetEvent` go through it; the vsync pick of `GetEvent` itself does not.

* `Describes` — the fields of `currentRunningEvent_` are those of an event.
* `TakenFromSub` — a turn took its event from one of the four sub-queues.
* `ReturnsFrom` — a turn takes an event and the call of `GetEvent` ends with it, after the poll of
  `TryEpollFd` if there is one; other threads work on the queue during that poll.
* `SameRunning` — what those threads do leaves both fields alone.
* `bookkeeping_iff` — the fields are right exactly when something was ready in that turn.
-/

set_option autoImplicit false

namespace AppExecFwk

open Transition EventQueueBase

/-- The record describes `e`: its owner, times and param, and its task name or id. -/
structure Describes (c : CurrentRunningEvent) (e : InnerEvent) : Prop where
  owner : c.owner = e.owner
  sendTime : c.sendTime = e.sendTime
  handleTime : c.handleTime = e.handleTime
  param : c.param = e.param
  hasTask : c.hasTask = e.hasTask
  taskName : e.hasTask = true → c.taskName = e.taskName
  innerEventId : e.hasTask = false → c.innerEventId = e.innerEventId

/-- `CurrentRunningEvent(time, event)` describes the event. -/
theorem describes_ofEvent (time : Int) (e : InnerEvent) : Describes (.ofEvent time e) e := by
  refine ⟨rfl, rfl, rfl, rfl, rfl, fun h => ?_, fun h => ?_⟩
  · simp [CurrentRunningEvent.ofEvent, h]
  · simp [CurrentRunningEvent.ofEvent, h]

/-- `q'` is `q` without `e`, which a filter found in one of the four sub-queues. -/
def TakenFromSub (q q' : EventQueueBase) (e : InnerEvent) : Prop :=
  ∃ p i, Takes p (some i) e q q'

/-- An event is taken from one slot only. -/
theorem EventQueueBase.Takes.slot_unique {p p' : InnerEvent → Bool} {k k' : Option SubIndex} {e e' : InnerEvent}
    {q q' : EventQueueBase} (h : Takes p k e q q') (h' : Takes p' k' e' q q') : k = k' := by
  by_contra hk
  have hsame : (q.events k).eraseP p = q.events k := by
    rw [← h.rest]
    exact h'.other k hk
  have hlen := List.length_eraseP_of_mem h.mem h.pred
  rw [hsame] at hlen
  have hpos := List.length_pos_of_mem h.mem
  omega

/-! ## The two fields under the other operations -/

/-- The running event and the idle flag are those of `q`. -/
def SameRunning (q q' : EventQueueBase) : Prop :=
  q'.currentRunningEvent = q.currentRunningEvent ∧ q'.isIdle = q.isIdle

theorem SameRunning.refl (q : EventQueueBase) : SameRunning q q := ⟨rfl, rfl⟩

theorem SameRunning.trans {q q' q'' : EventQueueBase} (h : SameRunning q q')
    (h' : SameRunning q' q'') : SameRunning q q'' := ⟨h'.1.trans h.1, h'.2.trans h.2⟩

theorem insert_sameRunning (p : Process) (now recv : ClockTime) (q : EventQueueBase)
    (event : Option InnerEvent) (priority : Priority) (ty : EventInsertType)
    (option : VsyncBarrierOption) :
    SameRunning q (q.insert p now recv event priority ty option).queue := by
  rw [insert_queue_eq]
  exact ⟨rfl, rfl⟩

theorem EventQueueBase.OnlyLists.sameRunning {q q' : EventQueueBase} (h : OnlyLists q q') : SameRunning q q' := by
  rw [h]
  exact ⟨rfl, rfl⟩

theorem removeOrphan_sameRunning (p : Process) (q : EventQueueBase) :
    SameRunning q (q.removeOrphan p) := by
  rw [removeOrphan_eq]
  exact ⟨rfl, rfl⟩

theorem applyFlag_sameRunning (q : EventQueueBase) (op : FlagOp) :
    SameRunning q (q.applyFlag op) := by
  have hx := applyFlag_writes q op
  generalize q.applyFlag op = q' at hx
  cases hx <;> exact ⟨rfl, rfl⟩

theorem afterPoll_sameRunning (need : Bool) (q : EventQueueBase) :
    SameRunning q (q.afterPoll need) := by
  rw [afterPoll_eq]
  exact ⟨rfl, rfl⟩

theorem runTask_sameRunning (s : Sys) (e : InnerEvent) :
    SameRunning s.queue (s.runTask e).queue := by
  unfold Sys.runTask
  split <;> exact ⟨rfl, rfl⟩

/-! ## The end of a call of GetEvent -/

/-- What happens until a call of `GetEvent` that polls ends: the loop thread is inside, and the
    other threads do not take events. -/
def insideGetEvent (s : Sys) (a : Op) : Prop :=
  s.pc ≠ .outside ∧ ∀ now next, a ≠ .getExpiredEvent now next

/-- The turn at `s` takes `e`, and the call of `GetEvent` ends in `v`. -/
structure ReturnsFrom (P : SystemParameters) (start : ClockTime) (s : Sys) (clk : PassClock)
    (e : InnerEvent) (v : Sys) : Prop where
  taken : (s.queue.getEventPass P clk).pass.event = some e
  left : v.pc = .outside
  call : ∃ t as, s.step P (.pass clk) = some t ∧
    (queueSystem P start).Run insideGetEvent t as v

/-- While the loop thread polls with `e`: its place, and the two fields as the turn left them. -/
structure Polling (q : EventQueueBase) (e : InnerEvent) (s : Sys) : Prop where
  place : (∃ need, s.pc = .polling e need) ∨ (s.pc = .outside ∧ s.current = some e)
  same : SameRunning q s.queue

variable {P : SystemParameters} {s t : Sys}

theorem polling_step {q : EventQueueBase} {e : InnerEvent} {a : Op} (hs : Polling q e s)
    (hok : insideGetEvent s a) (h : s.step P a = some t) : Polling q e t := by
  obtain ⟨hpc, htake⟩ := hok
  have hp : ∃ need, s.pc = .polling e need := hs.place.resolve_right fun h => hpc h.1
  obtain ⟨need, hp⟩ := hp
  have keep : ∀ u : Sys, u.pc = s.pc → SameRunning s.queue u.queue → Polling q e u := fun u hu hr =>
    ⟨Or.inl ⟨need, hu.trans hp⟩, hs.same.trans hr⟩
  cases step_cases h with
  | insert p now recv event priority ty option _ =>
    exact keep _ rfl (insert_sameRunning p now recv s.queue _ priority ty option)
  | remove selector _ => exact keep _ rfl (OnlyLists.sameRunning (remove_onlyLists selector s.queue))
  | removeOrphan p _ => exact keep _ rfl (removeOrphan_sameRunning p s.queue)
  | removeAll _ => exact keep _ rfl (OnlyLists.sameRunning (removeFilter_onlyLists _ s.queue))
  | expiredEvent now next _ _ _ => exact absurd rfl (htake now next)
  | expiredNone now next _ _ => exact absurd rfl (htake now next)
  | getEvent ho => exact absurd ho hpc
  | pass clk n hl => rw [hp] at hl; cases hl
  | wakeUp d hw => rw [hp] at hw; cases hw
  | pollReturn x need' hx =>
    rw [hp] at hx
    cases hx
    exact ⟨Or.inr ⟨rfl, rfl⟩, hs.same.trans (afterPoll_sameRunning need s.queue)⟩
  | execute x _ =>
    refine keep _ ?_ (runTask_sameRunning s x)
    unfold Sys.runTask
    split <;> rfl
  | release x _ => exact keep _ rfl (.refl _)
  | flag op => exact keep _ rfl (applyFlag_sameRunning s.queue op)

/-- **A call ends with the event its last turn took, and with the two fields that turn left.** -/
theorem ReturnsFrom.result {start : ClockTime} {clk : PassClock} {e : InnerEvent} {v : Sys}
    (h : ReturnsFrom P start s clk e v) :
    v.current = some e ∧ SameRunning (s.queue.getEventPass P clk).queue v.queue := by
  obtain ⟨t, as, hst, hrun⟩ := h.call
  have htaken := h.taken
  have ht : Polling (s.queue.getEventPass P clk).queue e t := by
    cases step_cases hst with
    | pass clk n hpc =>
      generalize s.queue.getEventPass P clk = o at htaken
      obtain ⟨queue, pass⟩ := o
      cases pass with
      | returned x =>
        cases htaken
        exact ⟨Or.inr ⟨rfl, rfl⟩, .refl _⟩
      | poll x need =>
        cases htaken
        exact ⟨Or.inl ⟨need, rfl⟩, .refl _⟩
      | finished => cases htaken
      | again => cases htaken
      | wait d => cases htaken
  have hv := hrun.invariant (I := Polling (s.queue.getEventPass P clk).queue e)
    (fun s a t hI hok hst => polling_step hI hok hst) ht
  obtain ⟨need, hp⟩ | ⟨-, hc⟩ := hv.place
  · rw [h.left] at hp
    cases hp
  · exact ⟨hc, hv.same⟩

/-! ## What a turn notes -/

/-- The bookkeeping of a turn from `q` to `q'` that took `e`, as `r` holds it. -/
def Bookkept (q q' : EventQueueBase) (e : InnerEvent) (r : EventQueueBase) : Prop :=
  Describes r.currentRunningEvent e ∧ (TakenFromSub q q' e → r.isIdle = false)

/-- `GetExpiredEventLocked` notes what it returns. -/
theorem expired_bookkept {q : EventQueueBase} {now next : ClockTime} {u : Int} {e : InnerEvent}
    (h : (q.getExpiredEventLocked now next u).event = some e) :
    let r := (q.getExpiredEventLocked now next u).queue
    Bookkept q r e r := by
  have htk := getExpiredEventLocked_some h
  rcases q.getExpiredEventLocked_cases now next u with ⟨x, -, hr⟩ | ⟨hn, x, hx, hr⟩ | ⟨-, -, hr⟩
  · rw [hr] at h ⊢
    cases h
    exact ⟨describes_ofEvent now.ns _, fun _ => rfl⟩
  · have hsame := afterPick_same hn
    obtain ⟨p, -, hidle⟩ := pickIdle_some hx
    have hidle := hidle.of_same hsame
    have hnone : Takes p none x q (q.getExpiredEventLocked now next u).queue := by
      refine ⟨hidle.found, ?_, fun l hl => ?_⟩
      · rw [hr, ← hidle.rest]; rfl
      · rw [hr, ← hidle.other l hl]
        cases l <;> rfl
    refine ⟨?_, fun ⟨p', i, hsub⟩ => ?_⟩
    · rw [hr] at h ⊢
      cases h
      exact describes_ofEvent now.ns _
    · cases hnone.slot_unique hsub
  · rw [hr] at h
    cases h

/-- A call of `GetExpiredEventLocked` without an event ends in idle mode. -/
theorem expired_none_isIdle {q : EventQueueBase} {now next : ClockTime} {u : Int}
    (h : (q.getExpiredEventLocked now next u).event = none) :
    (q.getExpiredEventLocked now next u).queue.isIdle = true := by
  rcases q.getExpiredEventLocked_cases now next u with ⟨x, -, hr⟩ | ⟨-, x, -, hr⟩ | ⟨-, -, hr⟩
  · rw [hr] at h
    cases h
  · rw [hr] at h
    cases h
  · rw [hr]
    show ((q.afterPick now).enterIdle now).isIdle = true
    unfold enterIdle
    split
    · assumption
    · rfl

theorem TakenFromSub.of_same {q q₁ q' : EventQueueBase} {e : InnerEvent} (h : SameEvents q q₁) :
    TakenFromSub q q' e ↔ TakenFromSub q₁ q' e := by
  have hsym : SameEvents q₁ q := fun k => (h k).symm
  constructor
  · rintro ⟨p, i, ht⟩
    exact ⟨p, i, ht.of_same hsym⟩
  · rintro ⟨p, i, ht⟩
    exact ⟨p, i, ht.of_same h⟩

/-- **A turn notes the event it takes exactly when something was ready in it.** -/
theorem pass_bookkept_iff {q : EventQueueBase} {clk : PassClock} {e : InnerEvent}
    (hs : ∀ i, SortedByHandleTime (q.events (some i)))
    (h : (q.getEventPass P clk).pass.event = some e) :
    Bookkept q (q.getEventPass P clk).queue e (q.getEventPass P clk).queue ↔
      ¬ (q.checkBarrierMode P clk.check clk.enter).NothingReady clk.now := by
  have hcl := q.expired_sameEvents_check P clk
  have hready : (q.expired P clk).event = none ↔
      (q.checkBarrierMode P clk.check clk.enter).NothingReady clk.now := by
    refine expired_none_iff fun i => ?_
    rw [hcl (some i)]
    exact hs i
  have hx := q.getEventPass_cases P clk
  generalize q.getEventPass P clk = o at h hx
  cases hx with
  | finished hf => cases h
  | expired x hf he =>
    have hxe : x = e := by
      simp only at h
      split at h <;> exact Option.some.inj h
    subst hxe
    obtain ⟨hd, hi⟩ := expired_bookkept he
    refine iff_of_true ⟨hd, fun ht => hi ((TakenFromSub.of_same hcl).1 ht)⟩ fun hn => ?_
    rw [hready.2 hn] at he
    cases he
  | lastVsync x hf hn hsum he =>
    cases h
    refine iff_of_false (fun hb => ?_) (not_not_intro (hready.1 hn))
    have hidle : (q.expired P clk).queue.pickFirstVsyncEventLocked.2.isIdle = true :=
      expired_none_isIdle hn
    rw [hb.2 ⟨_, 0, (pickFirstVsync_some he).of_same (expired_none_same hn)⟩] at hidle
    cases hidle
  | reset hf hn hsum he => cases h
  | wait hf hn hsum => cases h

/-- **A call of `GetEvent` ends with bookkeeping that describes the event it returns, and outside
    idle mode if the event came from a sub-queue, exactly when something was ready in the turn that
    took the event**: otherwise the event was taken by the vsync pick of `GetEvent`. -/
theorem bookkeeping_iff (P : SystemParameters) (start : ClockTime) {s v : Sys} {clk : PassClock}
    {e : InnerEvent} (hs : (queueSystem P start).Reachable System.always s)
    (h : ReturnsFrom P start s clk e v) :
    v.current = some e ∧
      ((Describes v.queue.currentRunningEvent e ∧
          (TakenFromSub s.queue (s.queue.getEventPass P clk).queue e → v.queue.isIdle = false)) ↔
        ¬ (s.queue.checkBarrierMode P clk.check clk.enter).NothingReady clk.now) := by
  obtain ⟨hc, hrun, hidle⟩ := h.result
  refine ⟨hc, ?_⟩
  rw [hrun, hidle]
  exact pass_bookkept_iff (fun i => reachable_sorted hs (some i)) h.taken

/-! ## Concrete calls -/

/-- A turn that hands out its event at once ends the call. -/
theorem returnsFrom_of_returned {start : ClockTime} {clk : PassClock} {e : InnerEvent} {n : Nat}
    (hpc : s.pc = .looping n) (h : (s.queue.getEventPass P clk).pass = .returned e) :
    ReturnsFrom P start s clk e (s.afterPass n (s.queue.getEventPass P clk)) := by
  refine ⟨by rw [h]; rfl, ?_, _, [], ?_, .nil _⟩
  · unfold Sys.afterPass
    rw [h]
  · simp only [Sys.step, hpc]

/-- A pending vsync task, and the call of `GetEvent` that finds nothing else. -/
def vsyncPending : List Op :=
  [insertAt (atMs 1) (vsyncEvent (atMs 1)) .VIP, .flag .prepare, .getEvent]

/-- `GetEvent` hands the task out in idle mode and notes nothing. -/
theorem bookkeeping_missing : ¬ ∀ s v clk e,
    (queueSystem {} (atMs 0)).Reachable System.always s → ReturnsFrom {} (atMs 0) s clk e v →
      Describes v.queue.currentRunningEvent e ∧
        (TakenFromSub s.queue (s.queue.getEventPass {} clk).queue e → v.queue.isIdle = false) := by
  intro h
  obtain ⟨s, hs, hpc, hpass, hrun⟩ := System.run_of_exec (queueSystem {} (atMs 0)) System.always
    (fun s => s.pc = .looping 0 ∧
      (s.queue.getEventPass {} (turnAt (atMs 2))).pass =
        .returned { vsyncEvent (atMs 1) with priority := 0 } ∧
      (s.queue.getEventPass {} (turnAt (atMs 2))).queue.currentRunningEvent = {})
    vsyncPending (by decide)
  have hd := (h s _ (turnAt (atMs 2)) _ ⟨_, hs⟩ (returnsFrom_of_returned hpc hpass)).1.hasTask
  rw [afterPass_queue, hrun] at hd
  cases hd

/-- An event that is due is handed out and noted. -/
theorem bookkeeping_iff_run : ∃ (v : Sys) (e : InnerEvent), v.current = some e ∧
    e.sendTime = 1000000 ∧ Describes v.queue.currentRunningEvent e ∧ v.queue.isIdle = false := by
  obtain ⟨s, hs, hpc, hpass, hidle, hb, hhead⟩ := System.run_of_exec (queueSystem {} (atMs 0))
    System.always
    (fun s => s.pc = .looping 0 ∧
      (s.queue.getEventPass {} (turnAt (atMs 2))).pass =
        .returned { plainEvent (atMs 1) with priority := 1 } ∧
      (s.queue.getEventPass {} (turnAt (atMs 2))).queue.isIdle = false ∧
      (s.queue.checkBarrierMode {} (atMs 2) (atMs 2)).isBarrierMode = false ∧
      ((s.queue.checkBarrierMode {} (atMs 2) (atMs 2)).subEventQueues 1).queue.head? =
        some { plainEvent (atMs 1) with priority := 1 })
    [insertAt (atMs 1) (plainEvent (atMs 1)) .IMMEDIATE, .flag .prepare, .getEvent] (by decide)
  have hready : ¬ (s.queue.checkBarrierMode {} (atMs 2) (atMs 2)).NothingReady (atMs 2) := by
    intro hn
    apply hn.sub 1
    rw [hb]
    exact ⟨_, hhead, by decide⟩
  obtain ⟨hc, hiff⟩ := bookkeeping_iff {} (atMs 0) ⟨_, hs⟩ (returnsFrom_of_returned hpc hpass)
  refine ⟨_, _, hc, rfl, (hiff.2 hready).1, ?_⟩
  rw [afterPass_queue]
  exact hidle

end AppExecFwk
