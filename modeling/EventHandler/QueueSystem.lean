import EventHandler.GetEvent
import EventHandler.Remove
import EventHandler.Lib.Transition

/-!
# The event queue as a transition system

One loop thread and any number of other threads work on an event queue.  Every operation that takes
`queueLock_` is one step, except `GetEvent`: each turn of its loop is a step (`pass`), and while it
waits or polls the lock is free, so other operations come in between.

* `Sys` — the queue, where the loop thread is (`Pc`), the event it was last handed, and the logs:
  each accepted `Insert` gets a fresh ticket, and the tickets returned and discarded are recorded.
* `queueSystem` — all operations, in any order.
* `defaultModeLoop` — the loop thread as `DefaultModeLoop` runs it: it asks for the next event when
  it is done with the last one, and the vsync notifications are made by the tasks only.
* `FlagWrites`, `applyFlag_writes` — the fields that each setter writes.
* `step_cases` — the inversion of a step, one case for each operation.
* `ListEffect`, `step_listEffect` — what a step can do to the five lists and the logs: nothing,
  insert one event, discard what a filter selects, or take one event.
-/

set_option autoImplicit false

namespace AppExecFwk

open Transition

/-- The operations that write vsync flags, settings and the life cycle only. -/
inductive FlagOp where
  | setVsyncPolicy (policy : VsyncPolicy)
  | setVsyncLazyMode (isLazy : Bool)
  | setVsyncFirstForceEnableTime (now : ClockTime) (enable : Bool) (timeout : UInt64)
  | updateVsyncCheckTime (now : ClockTime) (lastFrameTime period : Int)
  | handleVsyncTaskCompletely (now : ClockTime)
  | prepare
  | finish
  | setUsable (usable : Bool)
  | addObserver (observer : EventRunnerObserver)
  | dispatchVsyncTaskNotify (now : ClockTime)
  | handleVsyncTaskNotify
  | enterBarrierMode (now : ClockTime)
  | leaveBarrierMode
  deriving DecidableEq, Repr

/-- The notifications that `Insert`, `GetEvent` and the vsync tasks make themselves. -/
def FlagOp.isNotification : FlagOp → Bool
  | .dispatchVsyncTaskNotify _ => true
  | .handleVsyncTaskNotify => true
  | .enterBarrierMode _ => true
  | .leaveBarrierMode => true
  | _ => false

namespace EventQueueBase

/-- `PrepareBase`. -/
def prepare (q : EventQueueBase) : EventQueueBase :=
  if q.usable then { q with finished := false } else q

/-- `FinishBase`. -/
def finish (q : EventQueueBase) : EventQueueBase :=
  if q.usable then { q with finished := true } else q

/-- `SetUsable`. -/
def setUsable (usable : Bool) (q : EventQueueBase) : EventQueueBase := { q with usable := usable }

/-- `AddObserver`. -/
def addObserver (observer : EventRunnerObserver) (q : EventQueueBase) : EventQueueBase :=
  { q with observer := observer }

/-- The function a `FlagOp` calls. -/
def applyFlag (q : EventQueueBase) : FlagOp → EventQueueBase
  | .setVsyncPolicy policy => q.setVsyncPolicy policy
  | .setVsyncLazyMode isLazy => q.setVsyncLazyMode isLazy
  | .setVsyncFirstForceEnableTime now enable timeout =>
    q.setVsyncFirstForceEnableTime now enable timeout
  | .updateVsyncCheckTime now lastFrameTime period => q.updateVsyncCheckTime now lastFrameTime period
  | .handleVsyncTaskCompletely now => q.handleVsyncTaskCompletely now
  | .prepare => q.prepare
  | .finish => q.finish
  | .setUsable usable => q.setUsable usable
  | .addObserver observer => q.addObserver observer
  | .dispatchVsyncTaskNotify now => q.dispatchVsyncTaskNotify now
  | .handleVsyncTaskNotify => q.handleVsyncTaskNotify
  | .enterBarrierMode now => q.enterBarrierMode now
  | .leaveBarrierMode => q.leaveBarrierMode

/-- The fields each function writes, whatever it writes there. -/
inductive FlagWrites (q : EventQueueBase) : FlagOp → EventQueueBase → Prop
  | setVsyncPolicy (policy : VsyncPolicy) (isLazy : Bool) :
      FlagWrites q (.setVsyncPolicy policy)
        { q with vsyncPolicy := policy, vsyncOriginPolicy := policy, isLazyMode := isLazy }
  | setVsyncLazyMode (isLazy written : Bool) :
      FlagWrites q (.setVsyncLazyMode isLazy) { q with isLazyMode := written }
  | setVsyncFirstForceEnableTime (now : ClockTime) (enable : Bool) (timeout : UInt64)
      (policy : VsyncPolicy) (endTime : Int) :
      FlagWrites q (.setVsyncFirstForceEnableTime now enable timeout)
        { q with vsyncPolicy := policy, vsyncFirstForceEnableEndTime := endTime }
  | updateVsyncCheckTime (now : ClockTime) (lastFrameTime period written checkTime : Int) :
      FlagWrites q (.updateVsyncCheckTime now lastFrameTime period)
        { q with vsyncPeriod := written, vsyncCheckTime := checkTime }
  | handleVsyncTaskCompletely (now : ClockTime) :
      FlagWrites q (.handleVsyncTaskCompletely now) { q with vsyncCompleteTime := now.ns }
  | prepare (finished : Bool) : FlagWrites q .prepare { q with finished := finished }
  | finish (finished : Bool) : FlagWrites q .finish { q with finished := finished }
  | setUsable (usable : Bool) : FlagWrites q (.setUsable usable) { q with usable := usable }
  | addObserver (observer : EventRunnerObserver) :
      FlagWrites q (.addObserver observer) { q with observer := observer }
  | dispatchVsyncTaskNotify (now : ClockTime) (sum recvTime : Int) :
      FlagWrites q (.dispatchVsyncTaskNotify now)
        { q with
          sumOfPendingVsync := sum
          vsyncRecvTime := recvTime
          needEpoll := true
          vsyncCheckTime := INT64_MAX }
  | handleVsyncTaskNotify (sum : Int) :
      FlagWrites q .handleVsyncTaskNotify { q with sumOfPendingVsync := sum }
  | enterBarrierMode (now : ClockTime) :
      FlagWrites q (.enterBarrierMode now)
        { q with isBarrierMode := true, enterBarrierTime := now.ns }
  | leaveBarrierMode :
      FlagWrites q .leaveBarrierMode { q with isBarrierMode := false, enterBarrierTime := INT64_MAX }

theorem applyFlag_writes (q : EventQueueBase) (op : FlagOp) : FlagWrites q op (q.applyFlag op) := by
  cases op with
  | setVsyncPolicy policy => exact .setVsyncPolicy policy _
  | setVsyncLazyMode isLazy =>
    simp only [applyFlag, setVsyncLazyMode]
    split
    · exact .setVsyncLazyMode isLazy q.isLazyMode
    · exact .setVsyncLazyMode isLazy isLazy
  | setVsyncFirstForceEnableTime now enable timeout =>
    simp only [applyFlag, setVsyncFirstForceEnableTime]
    split
    · exact .setVsyncFirstForceEnableTime now enable timeout _ _
    · exact .setVsyncFirstForceEnableTime now enable timeout _ _
  | updateVsyncCheckTime now lastFrameTime period =>
    simp only [applyFlag, updateVsyncCheckTime]
    split
    · exact .updateVsyncCheckTime now lastFrameTime period _ _
    · exact .updateVsyncCheckTime now lastFrameTime period q.vsyncPeriod q.vsyncCheckTime
  | handleVsyncTaskCompletely now => exact .handleVsyncTaskCompletely now
  | prepare =>
    simp only [applyFlag, prepare]
    split
    · exact .prepare false
    · exact .prepare q.finished
  | finish =>
    simp only [applyFlag, finish]
    split
    · exact .finish true
    · exact .finish q.finished
  | setUsable usable => exact .setUsable usable
  | addObserver observer => exact .addObserver observer
  | dispatchVsyncTaskNotify now => exact .dispatchVsyncTaskNotify now _ _
  | handleVsyncTaskNotify => exact .handleVsyncTaskNotify _
  | enterBarrierMode now => exact .enterBarrierMode now
  | leaveBarrierMode => exact .leaveBarrierMode

theorem applyFlag_sameLists (q : EventQueueBase) (op : FlagOp) : SameLists q (q.applyFlag op) := by
  have hx := applyFlag_writes q op
  generalize q.applyFlag op = q' at hx
  cases hx <;> exact ⟨rfl, rfl⟩

end EventQueueBase

/-! ## States and operations -/

/-- Where the loop thread is: outside `GetEvent`, in its loop with the lock held (with the turns
    since it last waited or entered), in `WaitUntilLocked`, or in `TryEpollFd`. -/
inductive Pc where
  | outside
  | looping (passes : Nat)
  | waiting (deadline : Int)
  | polling (event : InnerEvent) (need : Bool)
  deriving DecidableEq, Repr

structure Sys where
  queue : EventQueueBase
  pc : Pc
  /-- The event the loop thread was handed and has not executed or released. -/
  current : Option InnerEvent
  /-- The vsync events taken from the queue whose task has not run. -/
  unexecuted : Nat
  nextTicket : Nat
  accepted : List Nat
  returned : List Nat
  discarded : List Nat

inductive Op where
  | insert (p : Process) (now recv : ClockTime) (event : Option InnerEvent) (priority : Priority)
      (insertType : EventInsertType) (option : VsyncBarrierOption)
  | remove (selector : EventQueueBase.Selector)
  | removeOrphan (p : Process)
  | removeAll
  | getExpiredEvent (now next : ClockTime)
  | getEvent
  | pass (clk : PassClock)
  | wakeUp
  | pollReturn
  | execute
  | release
  | flag (op : FlagOp)

namespace Sys

/-- `queueLock_` is free. -/
def lockFree (s : Sys) : Bool :=
  match s.pc with
  | .looping _ => false
  | _ => true

/-- The event object as the queue's ledger knows it. -/
def stamp (s : Sys) (event : InnerEvent) : InnerEvent := { event with ticket := s.nextTicket }

/-- The call of `Insert` on the stamped event. -/
def insertOutcome (s : Sys) (p : Process) (now recv : ClockTime) (event : Option InnerEvent)
    (priority : Priority) (insertType : EventInsertType) (option : VsyncBarrierOption) :
    InsertOutcome :=
  s.queue.insert p now recv (event.map s.stamp) priority insertType option

/-- Log the events that a removal drops. -/
def discard (s : Sys) (filter : InnerEvent → Bool) (queue : EventQueueBase) : Sys :=
  { s with
    queue := queue
    discarded := s.discarded ++ (s.queue.allEvents.filter filter).map InnerEvent.ticket }

/-- Log an event that is taken from the queue. -/
def take (s : Sys) (event : InnerEvent) (queue : EventQueueBase) : Sys :=
  { s with
    queue := queue
    returned := s.returned ++ [event.ticket]
    unexecuted := if event.isVsync then s.unexecuted + 1 else s.unexecuted }

/-- What a turn of the loop does to the state. -/
def afterPass (s : Sys) (passes : Nat) (o : PassOutcome) : Sys :=
  match o.pass with
  | .finished => { s with queue := o.queue, pc := .outside }
  | .returned event => { s.take event o.queue with pc := .outside, current := some event }
  | .poll event need => { s.take event o.queue with pc := .polling event need }
  | .again => { s with queue := o.queue, pc := .looping (passes + 1) }
  | .wait deadline => { s with queue := o.queue, pc := .waiting deadline }

/-- The loop thread runs the task of its event; the task of a vsync event starts with
    `HandleVsyncTaskNotify` and `SetBarrierMode(false)`. -/
def runTask (s : Sys) (event : InnerEvent) : Sys :=
  if event.isVsync then
    { s with
      queue := s.queue.handleVsyncTaskNotify.leaveBarrierMode
      unexecuted := s.unexecuted - 1
      current := none }
  else { s with current := none }

/-- One step; `none` when the operation is not enabled. -/
def step (P : SystemParameters) (s : Sys) : Op → Option Sys
  | .insert p now recv event priority insertType option =>
    if s.lockFree then
      let o := s.insertOutcome p now recv event priority insertType option
      some { s with
        queue := o.queue
        nextTicket := s.nextTicket + 1
        accepted := if o.result then s.accepted ++ [s.nextTicket] else s.accepted }
    else none
  | .remove selector =>
    if s.lockFree then
      some (s.discard (fun e => s.queue.usable && selector.selects e) (s.queue.remove selector))
    else none
  | .removeOrphan p =>
    if s.lockFree then
      some (s.discard (fun e => s.queue.usable && e.ownerExpired p) (s.queue.removeOrphan p))
    else none
  | .removeAll =>
    if s.lockFree then some (s.discard (fun _ => s.queue.usable) s.queue.removeAll) else none
  | .getExpiredEvent now next =>
    if s.lockFree then
      let r := s.queue.getExpiredEventLocked now next TimePoint.max
      match r.event with
      | some event => some { s.take event r.queue with current := some event }
      | none => some { s with queue := r.queue }
    else none
  | .getEvent =>
    match s.pc with
    | .outside => some { s with pc := .looping 0 }
    | _ => none
  | .pass clk =>
    match s.pc with
    | .looping passes => some (s.afterPass passes (s.queue.getEventPass P clk))
    | _ => none
  | .wakeUp =>
    match s.pc with
    | .waiting _ => some { s with queue := s.queue.afterWait, pc := .looping 0 }
    | _ => none
  | .pollReturn =>
    match s.pc with
    | .polling event need =>
      some { s with queue := s.queue.afterPoll need, pc := .outside, current := some event }
    | _ => none
  | .execute =>
    match s.current with
    | some event => some (s.runTask event)
    | none => none
  | .release =>
    match s.current with
    | some _ => some { s with current := none }
    | none => none
  | .flag op => some { s with queue := s.queue.applyFlag op }

end Sys

/-- The queue, empty and usable, with all operations in any order. -/
def queueSystem (P : SystemParameters) (start : ClockTime) : System Sys Op where
  init :=
    { queue := EventQueueBase.create start.ns
      pc := .outside
      current := none
      unexecuted := 0
      nextTicket := 0
      accepted := []
      returned := []
      discarded := [] }
  step := Sys.step P

/-- What `DefaultModeLoop` adds: `GetEvent` is called when the last event is done with, nothing else
    takes events, and the vsync notifications come from `Insert`, `GetEvent` and the tasks. -/
def inDefaultMode (s : Sys) : Op → Bool
  | .getExpiredEvent _ _ => false
  | .getEvent => s.current.isNone
  | .flag op => !op.isNotification
  | _ => true

def defaultModeLoop (P : SystemParameters) (start : ClockTime) : System Sys Op :=
  (queueSystem P start).restrict inDefaultMode

/-- The clock readings an operation makes, in the order it makes them. -/
def Op.readings : Op → List ClockTime
  | .insert _ now recv _ _ _ _ => [now, recv]
  | .getExpiredEvent now next => [now, next]
  | .pass clk => [clk.check, clk.enter, clk.now, clk.next, clk.poll]
  | .flag (.setVsyncFirstForceEnableTime now _ _) => [now]
  | .flag (.updateVsyncCheckTime now _ _) => [now]
  | .flag (.handleVsyncTaskCompletely now) => [now]
  | .flag (.dispatchVsyncTaskNotify now) => [now]
  | .flag (.enterBarrierMode now) => [now]
  | _ => []

/-- The clock does not go back during a run. -/
def MonotoneClock (ops : List Op) : Prop :=
  (ops.flatMap Op.readings).Pairwise (fun t t' => t.ns ≤ t'.ns)

instance (ops : List Op) : Decidable (MonotoneClock ops) :=
  inferInstanceAs (Decidable (List.Pairwise _ _))

/-- `Insert` is called with one of the five enumerators. -/
def Op.namedPriority : Op → Bool
  | .insert _ _ _ _ priority _ _ => priority.slot.isSome
  | _ => true

/-! ## Inputs of concrete runs -/

theorem Sys.step_next {P : SystemParameters} {start : ClockTime} {s : Sys} {a : Op}
    (h : (s.step P a).isSome = true) : s.step P a = some ((queueSystem P start).next s a) :=
  System.step_next (S := queueSystem P start) h

theorem Sys.run_one {P : SystemParameters} {start : ClockTime} {s t : Sys} {a : Op}
    (h : s.step P a = some t) : (queueSystem P start).Run System.always s [a] t :=
  System.Run.one trivial h

instance atMsNeZero : NeZero 1000000 := ⟨by decide⟩

/-- A clock reading in milliseconds. -/
def atMs (n : Fin 1000000) : ClockTime where
  ns := n.val * MILLISECONDS_TO_NANOSECONDS_RATIO
  nonneg := by unfold MILLISECONDS_TO_NANOSECONDS_RATIO; omega
  lt_max := by
    have hn := n.isLt
    unfold MILLISECONDS_TO_NANOSECONDS_RATIO TimePoint.max INT64_MAX
    omega

/-- A process with one runner, called from another thread. -/
def oneRunner : Process where
  alive := fun _ => true
  eventRunner := fun _ => some 0
  mainEventRunner := some 0
  isAppMainThread := false

/-- An event of handler 1, sent and due at `t`, as `InnerEvent::Get` makes it. -/
def plainEvent (t : ClockTime) : InnerEvent :=
  { owner := some 1, ownerId := "1", handleTime := t.ns, sendTime := t.ns }

/-- A vsync task of handler 1 as `PostTaskForVsync` sends it, with a delay of `UINT32_MAX`
    milliseconds. -/
def vsyncEvent (t : ClockTime) : InnerEvent :=
  { plainEvent t with
    handleTime := t.ns + 4294967295 * MILLISECONDS_TO_NANOSECONDS_RATIO
    hasTask := true
    isVsync := true }

/-- `Insert` at `t`, at the end of the list and without a barrier option. -/
def insertAt (t : ClockTime) (event : InnerEvent) (priority : Priority) : Op :=
  .insert oneRunner t t (some event) priority .AT_END .NO_BARRIER

/-- The readings of a turn at `t`. -/
def turnAt (t : ClockTime) : PassClock := { check := t, enter := t, now := t, next := t, poll := t }

/-- A turn of the loop at `t`. -/
def passAt (t : ClockTime) : Op := .pass (turnAt t)

/-! ## What a step does to the lists and the logs -/

/-- The tickets of the events in the five lists. -/
def EventQueueBase.tickets (q : EventQueueBase) : List Nat := q.allEvents.map InnerEvent.ticket

/-- The events a removal selects; `none` for the other operations. -/
def Op.selected (q : EventQueueBase) : Op → Option (InnerEvent → Bool)
  | .remove selector => some (fun e => q.usable && selector.selects e)
  | .removeOrphan p => some (fun e => q.usable && e.ownerExpired p)
  | .removeAll => some (fun _ => q.usable)
  | _ => none

/-- The operation is a call of `Insert` that stores the prepared event `e` in slot `k`. -/
def StoredBy (s : Sys) (a : Op) (k : Option SubIndex) (e : InnerEvent) (ty : EventInsertType) :
    Prop :=
  ∃ p now recv event priority option, a = .insert p now recv (some event) priority ty option ∧
    priority.slot = some k ∧ s.queue.usable = true ∧
    e = preparedEvent p s.queue (s.stamp event) priority option

theorem StoredBy.ticket {s : Sys} {a : Op} {k : Option SubIndex} {e : InnerEvent}
    {ty : EventInsertType} (h : StoredBy s a k e ty) : e.ticket = s.nextTicket := by
  obtain ⟨p, now, recv, event, priority, option, -, -, -, rfl⟩ := h
  rw [preparedEvent_ticket]
  rfl

theorem StoredBy.priority {s : Sys} {a : Op} {i : SubIndex} {e : InnerEvent}
    {ty : EventInsertType} (h : StoredBy s a (some i) e ty) : e.priority = i.val := by
  obtain ⟨p, now, recv, event, priority, option, -, hk, -, rfl⟩ := h
  exact Priority.toInt32_of_subIndex (Priority.subIndex_of_slot hk)

/-- The effect of a step on the lists and the logs. -/
inductive ListEffect (s : Sys) (a : Op) (t : Sys) : Prop
  | same (h : EventQueueBase.SameEvents s.queue t.queue) (ha : t.accepted = s.accepted)
      (hr : t.returned = s.returned) (hd : t.discarded = s.discarded)
      (hn : s.nextTicket ≤ t.nextTicket)
  | unstored (hp : a.namedPriority = false) (h : EventQueueBase.SameEvents s.queue t.queue)
      (ha : t.accepted = s.accepted ++ [s.nextTicket]) (hr : t.returned = s.returned)
      (hd : t.discarded = s.discarded) (hn : t.nextTicket = s.nextTicket + 1)
  | inserted (k : Option SubIndex) (e : InnerEvent) (ty : EventInsertType)
      (hsrc : StoredBy s a k e ty)
      (hk : t.queue.events k = insertEventsLocked (s.queue.events k) e ty)
      (hl : ∀ l, l ≠ k → t.queue.events l = s.queue.events l)
      (ha : t.accepted = s.accepted ++ [s.nextTicket]) (hr : t.returned = s.returned)
      (hd : t.discarded = s.discarded) (hn : t.nextTicket = s.nextTicket + 1)
  | discarded (filter : InnerEvent → Bool) (hsel : a.selected s.queue = some filter)
      (h : EventQueueBase.Discards filter s.queue t.queue) (ha : t.accepted = s.accepted) (hr : t.returned = s.returned)
      (hd : t.discarded = s.discarded ++ (s.queue.allEvents.filter filter).map InnerEvent.ticket)
      (hn : t.nextTicket = s.nextTicket)
  | taken (q : EventQueueBase) (now : ClockTime) (e : InnerEvent) (p : InnerEvent → Bool)
      (k : Option SubIndex) (hrule : EventQueueBase.TakeRule q now e p k)
      (h : EventQueueBase.Takes p k e s.queue t.queue) (ha : t.accepted = s.accepted)
      (hr : t.returned = s.returned ++ [e.ticket]) (hd : t.discarded = s.discarded)
      (hn : t.nextTicket = s.nextTicket)

section Steps

open EventQueueBase

variable {P : SystemParameters} {s t : Sys}

/-- A step that changes neither lists nor logs. -/
theorem ListEffect.of_sameLists {a : Op} (h : SameLists s.queue t.queue)
    (ha : t.accepted = s.accepted) (hr : t.returned = s.returned) (hd : t.discarded = s.discarded)
    (hn : t.nextTicket = s.nextTicket) : ListEffect s a t :=
  .same h.sameEvents ha hr hd (le_of_eq hn.symm)

/-- What a step does, one case for each operation (two for `GetExpiredEvent`). -/
inductive StepEffect (P : SystemParameters) (s : Sys) : Op → Sys → Prop
  | insert (p : Process) (now recv : ClockTime) (event : Option InnerEvent) (priority : Priority)
      (ty : EventInsertType) (option : VsyncBarrierOption) (hl : s.lockFree = true) :
      StepEffect P s (.insert p now recv event priority ty option)
        { s with
          queue := (s.insertOutcome p now recv event priority ty option).queue
          nextTicket := s.nextTicket + 1
          accepted :=
            if (s.insertOutcome p now recv event priority ty option).result then
              s.accepted ++ [s.nextTicket]
            else s.accepted }
  | remove (selector : Selector) (hl : s.lockFree = true) :
      StepEffect P s (.remove selector)
        (s.discard (fun e => s.queue.usable && selector.selects e) (s.queue.remove selector))
  | removeOrphan (p : Process) (hl : s.lockFree = true) :
      StepEffect P s (.removeOrphan p)
        (s.discard (fun e => s.queue.usable && e.ownerExpired p) (s.queue.removeOrphan p))
  | removeAll (hl : s.lockFree = true) :
      StepEffect P s .removeAll (s.discard (fun _ => s.queue.usable) s.queue.removeAll)
  | expiredEvent (now next : ClockTime) (e : InnerEvent) (hl : s.lockFree = true)
      (he : (s.queue.getExpiredEventLocked now next TimePoint.max).event = some e) :
      StepEffect P s (.getExpiredEvent now next)
        { s.take e (s.queue.getExpiredEventLocked now next TimePoint.max).queue with
          current := some e }
  | expiredNone (now next : ClockTime) (hl : s.lockFree = true)
      (hn : (s.queue.getExpiredEventLocked now next TimePoint.max).event = none) :
      StepEffect P s (.getExpiredEvent now next)
        { s with queue := (s.queue.getExpiredEventLocked now next TimePoint.max).queue }
  | getEvent (hpc : s.pc = .outside) : StepEffect P s .getEvent { s with pc := .looping 0 }
  | pass (clk : PassClock) (n : Nat) (hpc : s.pc = .looping n) :
      StepEffect P s (.pass clk) (s.afterPass n (s.queue.getEventPass P clk))
  | wakeUp (d : Int) (hpc : s.pc = .waiting d) :
      StepEffect P s .wakeUp { s with queue := s.queue.afterWait, pc := .looping 0 }
  | pollReturn (e : InnerEvent) (need : Bool) (hpc : s.pc = .polling e need) :
      StepEffect P s .pollReturn
        { s with queue := s.queue.afterPoll need, pc := .outside, current := some e }
  | execute (e : InnerEvent) (hc : s.current = some e) : StepEffect P s .execute (s.runTask e)
  | release (e : InnerEvent) (hc : s.current = some e) :
      StepEffect P s .release { s with current := none }
  | flag (op : FlagOp) : StepEffect P s (.flag op) { s with queue := s.queue.applyFlag op }

/-- **Inversion of a step.** -/
theorem step_cases {a : Op} (h : s.step P a = some t) : StepEffect P s a t := by
  cases a with
  | insert p now recv event priority ty option =>
    simp only [Sys.step, Option.ite_none_right_eq_some, Option.some.injEq] at h
    obtain ⟨hl, rfl⟩ := h
    exact .insert p now recv event priority ty option hl
  | remove selector =>
    simp only [Sys.step, Option.ite_none_right_eq_some, Option.some.injEq] at h
    obtain ⟨hl, rfl⟩ := h
    exact .remove selector hl
  | removeOrphan p =>
    simp only [Sys.step, Option.ite_none_right_eq_some, Option.some.injEq] at h
    obtain ⟨hl, rfl⟩ := h
    exact .removeOrphan p hl
  | removeAll =>
    simp only [Sys.step, Option.ite_none_right_eq_some, Option.some.injEq] at h
    obtain ⟨hl, rfl⟩ := h
    exact .removeAll hl
  | getExpiredEvent now next =>
    simp only [Sys.step] at h
    split at h
    · rename_i hl
      split at h
      · rename_i e he
        cases h
        exact .expiredEvent now next e hl he
      · rename_i hn
        cases h
        exact .expiredNone now next hl hn
    · cases h
  | getEvent =>
    simp only [Sys.step] at h
    split at h
    · rename_i hpc
      cases h
      exact .getEvent hpc
    · cases h
  | pass clk =>
    simp only [Sys.step] at h
    split at h
    · rename_i n hpc
      cases h
      exact .pass clk n hpc
    · cases h
  | wakeUp =>
    simp only [Sys.step] at h
    split at h
    · rename_i d hpc
      cases h
      exact .wakeUp d hpc
    · cases h
  | pollReturn =>
    simp only [Sys.step] at h
    split at h
    · rename_i e need hpc
      cases h
      exact .pollReturn e need hpc
    · cases h
  | execute =>
    simp only [Sys.step] at h
    split at h
    · rename_i e hc
      cases h
      exact .execute e hc
    · cases h
  | release =>
    simp only [Sys.step] at h
    split at h
    · rename_i e hc
      cases h
      exact .release e hc
    · cases h
  | flag op =>
    cases h
    exact .flag op

@[simp] theorem afterPass_queue (s : Sys) (n : Nat) (o : PassOutcome) :
    (s.afterPass n o).queue = o.queue := by
  unfold Sys.afterPass
  split <;> rfl

theorem runTask_sameLists (s : Sys) (e : InnerEvent) : SameLists s.queue (s.runTask e).queue := by
  unfold Sys.runTask
  split <;> exact ⟨rfl, rfl⟩

theorem insert_listEffect (s : Sys) (p : Process) (now recv : ClockTime) (event : Option InnerEvent)
    (priority : Priority) (ty : EventInsertType) (option : VsyncBarrierOption) :
    let o := s.insertOutcome p now recv event priority ty option
    ListEffect s (.insert p now recv event priority ty option)
      { s with
        queue := o.queue
        nextTicket := s.nextTicket + 1
        accepted := if o.result then s.accepted ++ [s.nextTicket] else s.accepted } := by
  unfold Sys.insertOutcome
  cases event with
  | none => exact .same (fun _ => rfl) rfl rfl rfl (Nat.le_succ _)
  | some event =>
    rw [Option.map_some]
    have hslot := @insert_slot p now recv s.queue (s.stamp event) priority ty option
    have hx := insert_cases p now recv s.queue (some (s.stamp event)) priority ty option
    generalize s.queue.insert p now recv (some (s.stamp event)) priority ty option = o at hslot hx
    cases hx with
    | rejected _ _ => exact .same (fun _ => rfl) rfl rfl rfl (Nat.le_succ _)
    | unnamed _ hu hi hp =>
      refine .unstored ?_ (fun _ => rfl) rfl rfl rfl rfl
      simp [Op.namedPriority, Priority.slot, hi, hp]
    | sub _ i hu hi q' hq' =>
      have hk := Priority.slot_of_subIndex hi
      obtain ⟨-, hq, hl⟩ := hslot hu hk
      exact .inserted (some i) _ ty ⟨p, now, recv, event, priority, option, rfl, hk, hu, rfl⟩ hq hl
        rfl rfl rfl rfl
    | idle _ hu hp =>
      subst hp
      obtain ⟨-, hq, hl⟩ := hslot hu rfl
      exact .inserted none _ ty ⟨p, now, recv, event, .IDLE, option, rfl, rfl, hu, rfl⟩ hq hl
        rfl rfl rfl rfl

theorem pass_listEffect (P : SystemParameters) (s : Sys) (n : Nat) (clk : PassClock) :
    ListEffect s (.pass clk) (s.afterPass n (s.queue.getEventPass P clk)) := by
  have hsome := @getEventPass_some P clk s.queue
  have hnone := @getEventPass_none P clk s.queue
  generalize s.queue.getEventPass P clk = o at hsome hnone
  obtain ⟨queue, pass⟩ := o
  cases pass with
  | finished => exact .same (hnone rfl) rfl rfl rfl (le_refl _)
  | returned e =>
    obtain ⟨p, k, hrule, htk⟩ := hsome rfl
    exact .taken _ clk.now e p k hrule htk rfl rfl rfl rfl
  | poll e need =>
    obtain ⟨p, k, hrule, htk⟩ := hsome rfl
    exact .taken _ clk.now e p k hrule htk rfl rfl rfl rfl
  | again => exact .same (hnone rfl) rfl rfl rfl (le_refl _)
  | wait d => exact .same (hnone rfl) rfl rfl rfl (le_refl _)

/-- **Every step has one of the effects.** -/
theorem step_listEffect {a : Op} (h : s.step P a = some t) : ListEffect s a t := by
  cases step_cases h with
  | insert p now recv event priority ty option _ =>
    exact insert_listEffect s p now recv event priority ty option
  | remove selector _ =>
    exact .discarded _ rfl (remove_discards selector s.queue) rfl rfl rfl rfl
  | removeOrphan p _ => exact .discarded _ rfl (removeOrphan_discards p s.queue) rfl rfl rfl rfl
  | removeAll _ => exact .discarded _ rfl (removeAll_discards s.queue) rfl rfl rfl rfl
  | expiredEvent now next e _ he =>
    obtain ⟨p, k, hrule, htk⟩ := getExpiredEventLocked_some he
    exact .taken _ now e p k hrule htk rfl rfl rfl rfl
  | expiredNone now next _ hn =>
    exact .same (getExpiredEventLocked_none hn).2.1 rfl rfl rfl (le_refl _)
  | getEvent _ => exact .of_sameLists (SameLists.refl _) rfl rfl rfl rfl
  | pass clk n _ => exact pass_listEffect P s n clk
  | wakeUp d _ => exact .of_sameLists (afterWait_sameLists _) rfl rfl rfl rfl
  | pollReturn e need _ => exact .of_sameLists (afterPoll_sameLists _ _) rfl rfl rfl rfl
  | execute e _ =>
    refine .of_sameLists (runTask_sameLists s e) ?_ ?_ ?_ ?_ <;>
      · unfold Sys.runTask
        split <;> rfl
  | release e _ => exact .of_sameLists (SameLists.refl _) rfl rfl rfl rfl
  | flag op => exact .of_sameLists (applyFlag_sameLists _ op) rfl rfl rfl rfl

/-- What a step leaves in a slot was there before, or is the event just stored. -/
theorem ListEffect.mem {a : Op} (h : ListEffect s a t) {k : Option SubIndex} {y : InnerEvent}
    (hy : y ∈ t.queue.events k) :
    y ∈ s.queue.events k ∨ (y.ticket = s.nextTicket ∧ t.nextTicket = s.nextTicket + 1 ∧
      ∀ i, k = some i → y.priority = i.val) := by
  cases h with
  | same h => rw [h k] at hy; exact Or.inl hy
  | unstored _ h => rw [h k] at hy; exact Or.inl hy
  | inserted l e ty hsrc hk hl ha hr hd hn =>
    by_cases hkl : k = l
    · subst hkl
      rw [hk, mem_insertEventsLocked] at hy
      rcases hy with rfl | hy
      · obtain ⟨u, -, hu⟩ := storedEvent_eq (s.queue.events k) e ty
        rw [hu]
        refine Or.inr ⟨hsrc.ticket, hn, fun i hk => ?_⟩
        subst hk
        exact hsrc.priority
      · exact Or.inl hy
    · rw [hl k hkl] at hy
      exact Or.inl hy
  | discarded filter _ h =>
    rw [h.events k] at hy
    exact Or.inl (List.mem_of_mem_filter hy)
  | taken q now e p l hrule h => exact Or.inl ((h.sublist k).mem hy)

end Steps

end AppExecFwk
