import EventHandler.DescriptorService

/-!
# From a report of the kernel to the calls of a listener

`EpollIoWaiter::WaitFor` and `DeamonIoWaiter::HandleEpollEvents` take what `epoll_wait` returned one
entry at a time: they look the descriptor up, find its listener and post a task to the listener's
handler; the task calls the listener if it still exists.  Each of these is a step of its own, and
the listener table changes in between.

* `listenerEvents`, `callbacks` — which callbacks a report means.
* `FdDelivery` — the table, what the two waiters hold, the tasks posted and not yet run, and the
  logs of the reports, the registrations and the calls.
* `pending`, `onTheirWay` — the callbacks that may still come of what was reported, and those for
  which the listener is in hand or a task is posted.
* `called_at_most_reported` — a listener is only called for descriptors it was registered for, and a
  callback is made no more often than the kernel reported its event.
* `removed_calls_le` — after a descriptor is removed only what is on its way is delivered.

Entries of the awakening descriptor are drained and have no effect here.
-/

set_option autoImplicit false

namespace AppExecFwk

open Transition

def FILE_DESCRIPTOR_SHUTDOWN_EVENT : UInt32 := 4
def FILE_DESCRIPTOR_EXCEPTION_EVENT : UInt32 := 8
def EPOLLERR : UInt32 := 0x008
def EPOLLHUP : UInt32 := 0x010

def MAX_EPOLL_EVENTS_SIZE : Nat := 8

/-- The callbacks of a listener. -/
inductive FdCall where
  | OnReadable
  | OnWritable
  | OnShutdown
  | OnException
  deriving DecidableEq, Repr

namespace FdCall

def epollEvent : FdCall → UInt32
  | .OnReadable => EPOLLIN
  | .OnWritable => EPOLLOUT
  | .OnShutdown => EPOLLHUP
  | .OnException => EPOLLERR

def listenerEvent : FdCall → UInt32
  | .OnReadable => FILE_DESCRIPTOR_INPUT_EVENT
  | .OnWritable => FILE_DESCRIPTOR_OUTPUT_EVENT
  | .OnShutdown => FILE_DESCRIPTOR_SHUTDOWN_EVENT
  | .OnException => FILE_DESCRIPTOR_EXCEPTION_EVENT

end FdCall

/-- The listener events for what is set of `EPOLLIN`, `EPOLLOUT`, `EPOLLHUP` and `EPOLLERR`. -/
def eventsOf (readable writable hangup error : Bool) : UInt32 :=
  (if readable then FILE_DESCRIPTOR_INPUT_EVENT else 0) |||
    (if writable then FILE_DESCRIPTOR_OUTPUT_EVENT else 0) |||
    (if hangup then FILE_DESCRIPTOR_SHUTDOWN_EVENT else 0) |||
    (if error then FILE_DESCRIPTOR_EXCEPTION_EVENT else 0)

/-- Transform epoll events into file descriptor listener events. -/
def listenerEvents (mask : UInt32) : UInt32 :=
  eventsOf (mask &&& EPOLLIN != 0) (mask &&& EPOLLOUT != 0) (mask &&& EPOLLHUP != 0)
    (mask &&& EPOLLERR != 0)

/-- The callbacks a task makes, in its order. -/
def callbacks (events : UInt32) : List FdCall :=
  [.OnReadable, .OnWritable, .OnShutdown, .OnException].filter fun c =>
    events &&& c.listenerEvent != 0

def reportsCall (c : FdCall) (mask : UInt32) : Bool := mask &&& c.epollEvent != 0

/-- **A task makes a callback exactly when its epoll event was reported**, and each at most once. -/
theorem callbacks_count (mask : UInt32) (c : FdCall) :
    (callbacks (listenerEvents mask)).count c = if reportsCall c mask then 1 else 0 := by
  have bits : ∀ r w h e : Bool, ∀ c : FdCall, (callbacks (eventsOf r w h e)).count c =
      if (match c with | .OnReadable => r | .OnWritable => w | .OnShutdown => h | .OnException => e)
      then 1 else 0 := by
    intro r w h e c
    cases r <;> cases w <;> cases h <;> cases e <;> cases c <;> decide
  unfold listenerEvents
  rw [bits]
  cases c <;> rfl

/-! ## The system -/

/-- What `epoll_wait` returned for one descriptor. -/
structure EpollEvent where
  fd : Int
  events : UInt32
  deriving DecidableEq, Repr

/-- The task that `HandleFileDescriptorEvent` posts; `listener` is a weak reference. -/
structure FdTask where
  fd : Int
  events : UInt32
  listener : Nat
  handler : Nat
  isVsyncTask : Bool
  taskName : String
  priority : Priority
  deriving DecidableEq, Repr

inductive FdAction where
  | HandleVsyncTaskNotify
  | LeaveBarrierMode
  | call (c : FdCall)
  | HandleVsyncTaskCompletely
  deriving DecidableEq, Repr

/-- The body of the task; `alive` is whether the listener still exists. -/
def FdTask.run (task : FdTask) (alive : Bool) : List FdAction :=
  (if task.isVsyncTask then [.HandleVsyncTaskNotify, .LeaveBarrierMode] else []) ++
    (if alive then (callbacks task.events).map .call ++
      (if task.isVsyncTask then [.HandleVsyncTaskCompletely] else [])
    else [])

/-- Where the queue's waiter is with one report: `callback_` was called with it, or
    `GetListenerByfd` has returned the listener. -/
inductive IoStage where
  | idle
  | called (fd : Int) (events : UInt32) (taskName : String) (priority : Priority)
  | holding (fd : Int) (events : UInt32) (taskName : String) (priority : Priority) (listener : Nat)
  deriving DecidableEq, Repr

structure FdDelivery where
  table : ListenerTable
  /-- The references to listener objects outside the tables. -/
  held : Nat → Bool
  /-- The entries `WaitFor` has not come to yet, and its `vsyncOnly`. -/
  ioBatch : List EpollEvent
  vsyncOnly : Bool
  ioStage : IoStage
  deamonBatch : List EpollEvent
  /-- The report the daemon holds the descriptor information for. -/
  deamonStage : Option (EpollEvent × FileDescriptorInfo)
  tasks : List FdTask
  reports : List EpollEvent
  registered : List (Int × Nat)
  /-- What tasks did, with their listener and descriptor. -/
  actions : List (Nat × Int × FdAction)

inductive DeliveryOp where
  | table (p : Process) (op : ListenerOp)
  /-- A reference to a listener object is taken or dropped. -/
  | hold (listener : Nat) (held : Bool)
  | ioReturn (vsyncOnly : Bool) (entries : List EpollEvent)
  /-- The loop of `WaitFor` comes to its next entry. -/
  | ioNext
  | ioListener
  /-- The rest of `HandleFileDescriptorEvent`; `accepted` is the answer of `Insert`. -/
  | ioPost (p : Process) (accepted : Bool)
  /-- `epoll_wait` fails, and `WaitUntilLocked` gives the waiter up. -/
  | ioFailed
  | deamonReturn (entries : List EpollEvent)
  | deamonNext
  | deamonPost (p : Process) (accepted : Bool)
  /-- The handler's loop thread comes to a task. -/
  | run (p : Process) (i : Nat)
  /-- A task is removed from the handler's queue. -/
  | removeTask (i : Nat)

/-- The task for a listener, and whether its handler can be given it. -/
def fdTask (p : Process) (t : ListenerTable) (fd : Int) (events : UInt32) (taskName : String)
    (priority : Priority) (listener : Nat) (fromDeamon : Bool) : Option FdTask :=
  match (t.object listener).getOwner p with
  | none => none
  | some handler =>
    if (p.eventRunner handler).isNone then none
    else
      some ⟨fd, events, listener, handler, !fromDeamon && (t.object listener).isVsyncListener,
        taskName, priority⟩

namespace FdDelivery

/-- The listener object that a waiter holds while it handles a report. -/
def inHand (s : FdDelivery) (listener : Nat) : Bool :=
  (match s.ioStage with
    | .holding _ _ _ _ l => decide (l = listener)
    | _ => false) ||
  (match s.deamonStage with
    | some (_, info) => decide (info.listener = listener)
    | none => false)

/-- The object behind a listener pointer exists: something refers to it. -/
def alive (s : FdDelivery) (listener : Nat) : Bool :=
  s.held listener || s.inHand listener ||
    s.table.listeners.entries.any (fun e => decide (e.2 = listener)) ||
    s.table.deamonIoWaiter.fileDescriptorMap.entries.any (fun e => decide (e.2.listener = listener)) ||
    s.table.ioWaiter.any (fun w => w.fileDescriptorMap.entries.any
      fun e => decide (e.2.listener = listener))

/-- The kernel reports descriptors that the epoll instance holds, as many as the buffer takes. -/
def reportable (w : EpollSet) (entries : List EpollEvent) : Bool :=
  decide (entries.length ≤ MAX_EPOLL_EVENTS_SIZE) && entries.all fun e => decide (e.fd ∈ w.interest)

def ioEntry (s : FdDelivery) (e : EpollEvent) : IoStage :=
  match s.table.ioInfo e.fd with
  | none => .idle
  | some info =>
    if !s.vsyncOnly || (s.table.object info.listener).isVsyncListener then
      .called e.fd (listenerEvents e.events) info.taskName info.priority
    else .idle

/-- `GetListenerByfd`, and what the waiter then holds. -/
def withListener (s : FdDelivery) (fd : Int) (events : UInt32) (taskName : String)
    (priority : Priority) : IoStage :=
  if s.table.usable = false then .idle
  else
    match s.table.listeners.lookup fd with
    | none => .idle
    | some listener => .holding fd events taskName priority listener

def step (MONITOR_FLAG : Bool) (s : FdDelivery) : DeliveryOp → Option FdDelivery
  | .table p op =>
    some { s with
      table := s.table.step MONITOR_FLAG p op
      registered := s.registered ++ (s.table.registers MONITOR_FLAG p op).toList }
  | .hold listener held => some { s with held := Function.update s.held listener held }
  | .ioReturn vsyncOnly entries =>
    if s.ioBatch = [] ∧ s.ioStage = .idle ∧ s.table.ioWaiter.any (fun w => reportable w entries) then
      some { s with ioBatch := entries, vsyncOnly := vsyncOnly, reports := s.reports ++ entries }
    else none
  | .ioNext =>
    match s.ioStage, s.ioBatch with
    | .idle, e :: rest => some { s with ioBatch := rest, ioStage := s.ioEntry e }
    | _, _ => none
  | .ioListener =>
    match s.ioStage with
    | .called fd events taskName priority =>
      some { s with ioStage := s.withListener fd events taskName priority }
    | _ => none
  | .ioPost p accepted =>
    match s.ioStage with
    | .holding fd events taskName priority listener =>
      some { s with
        ioStage := .idle
        tasks := s.tasks ++ (if accepted then
          (fdTask p s.table fd events taskName priority listener false).toList else []) }
    | _ => none
  | .ioFailed =>
    if s.ioBatch = [] ∧ s.ioStage = .idle then
      some { s with table := { s.table with ioWaiter := none, listeners := ∅ } }
    else none
  | .deamonReturn entries =>
    if s.deamonBatch = [] ∧ s.deamonStage = none ∧ reportable s.table.deamonIoWaiter entries then
      some { s with deamonBatch := entries, reports := s.reports ++ entries }
    else none
  | .deamonNext =>
    match s.deamonStage, s.deamonBatch with
    | none, e :: rest =>
      some { s with
        deamonBatch := rest
        deamonStage := (s.table.deamonInfo e.fd).map (e, ·) }
    | _, _ => none
  | .deamonPost p accepted =>
    match s.deamonStage with
    | some (e, info) =>
      some { s with
        deamonStage := none
        -- The vsync task is reported to the scheduler; nothing is posted.
        tasks := s.tasks ++ (if accepted && info.taskName != "vSyncTask" then
          (fdTask p s.table e.fd (listenerEvents e.events) info.taskName info.priority info.listener
            true).toList else []) }
    | none => none
  | .run p i =>
    match s.tasks[i]? with
    | some task =>
      -- `ExecuteEventHandler` drops an event whose owner is gone.
      some { s with
        tasks := s.tasks.eraseIdx i
        actions := s.actions ++ (if p.alive task.handler then
          (task.run (s.alive task.listener)).map fun a => (task.listener, task.fd, a) else []) }
    | none => none
  | .removeTask i =>
    if i < s.tasks.length then some { s with tasks := s.tasks.eraseIdx i } else none

end FdDelivery

def deliverySystem (MONITOR_FLAG : Bool) (start : ListenerStart) : System FdDelivery DeliveryOp where
  init :=
    { table := ListenerTable.initial start
      held := fun _ => true
      ioBatch := []
      vsyncOnly := false
      ioStage := .idle
      deamonBatch := []
      deamonStage := none
      tasks := []
      reports := []
      registered := []
      actions := [] }
  step := FdDelivery.step MONITOR_FLAG

/-! ## Calls and reports -/

/-- How often events of `fd'` make callback `c` on `fd`. -/
def weight (c : FdCall) (fd fd' : Int) (events : UInt32) : Nat :=
  if fd' = fd then (callbacks events).count c else 0

def EpollEvent.weight (c : FdCall) (fd : Int) (e : EpollEvent) : Nat :=
  AppExecFwk.weight c fd e.fd (listenerEvents e.events)

def FdTask.weight (c : FdCall) (fd : Int) (task : FdTask) : Nat :=
  AppExecFwk.weight c fd task.fd task.events

def IoStage.weight (c : FdCall) (fd : Int) : IoStage → Nat
  | .idle => 0
  | .called fd' events _ _ => AppExecFwk.weight c fd fd' events
  | .holding fd' events _ _ _ => AppExecFwk.weight c fd fd' events

/-- The report for which the queue's waiter holds the listener. -/
def IoStage.heldWeight (c : FdCall) (fd : Int) : IoStage → Nat
  | .holding fd' events _ _ _ => AppExecFwk.weight c fd fd' events
  | _ => 0

/-- The report the daemon holds; a `vSyncTask` is only passed on to the scheduler. -/
def deamonWeight (c : FdCall) (fd : Int) : Option (EpollEvent × FileDescriptorInfo) → Nat
  | none => 0
  | some (e, info) => if info.taskName = "vSyncTask" then 0 else e.weight c fd

namespace FdDelivery

/-- How often callback `c` was made on `fd`. -/
def calls (s : FdDelivery) (c : FdCall) (fd : Int) : Nat :=
  s.actions.countP fun a => decide (a.2.1 = fd) && decide (a.2.2 = .call c)

/-- How often the kernel reported the event of callback `c` for `fd`. -/
def reported (s : FdDelivery) (c : FdCall) (fd : Int) : Nat :=
  s.reports.countP fun e => decide (e.fd = fd) && reportsCall c e.events

/-- The callbacks that are on their way to the listener: a listener in hand, or a task posted. -/
def onTheirWay (s : FdDelivery) (c : FdCall) (fd : Int) : Nat :=
  s.ioStage.heldWeight c fd + deamonWeight c fd s.deamonStage +
    (s.tasks.map (FdTask.weight c fd)).sum

/-- The callbacks that may still come of what was reported. -/
def pending (s : FdDelivery) (c : FdCall) (fd : Int) : Nat :=
  (s.ioBatch.map (EpollEvent.weight c fd)).sum + s.ioStage.weight c fd +
    (s.deamonBatch.map (EpollEvent.weight c fd)).sum + deamonWeight c fd s.deamonStage +
    (s.tasks.map (FdTask.weight c fd)).sum

end FdDelivery

variable {MONITOR_FLAG : Bool} {c : FdCall} {fd : Int}

theorem reports_weight (c : FdCall) (fd : Int) (es : List EpollEvent) :
    (es.map (EpollEvent.weight c fd)).sum =
      es.countP fun e => decide (e.fd = fd) && reportsCall c e.events := by
  induction es with
  | nil => rfl
  | cons e es ih =>
    rw [List.map_cons, List.sum_cons, ih, List.countP_cons, Nat.add_comm]
    congr 1
    unfold EpollEvent.weight weight
    rw [callbacks_count]
    by_cases h : e.fd = fd <;> simp [h]

theorem run_count (c : FdCall) (task : FdTask) (alive : Bool) :
    (task.run alive).count (.call c) ≤ (callbacks task.events).count c := by
  have hmap : ((callbacks task.events).map FdAction.call).count (.call c) =
      (callbacks task.events).count c :=
    List.count_map_of_injective _ _ (fun a b h => by cases h; rfl) c
  unfold FdTask.run
  rw [List.count_append]
  cases task.isVsyncTask <;> cases alive <;> simp [hmap]

/-- The callbacks a task makes, as the log counts them. -/
theorem run_calls (c : FdCall) (fd : Int) (task : FdTask) (alive : Bool) :
    ((task.run alive).map fun a => (task.listener, task.fd, a)).countP
        (fun a => decide (a.2.1 = fd) && decide (a.2.2 = .call c)) ≤ task.weight c fd := by
  rw [List.countP_map]
  unfold FdTask.weight weight
  split
  · rename_i h
    refine le_trans (le_of_eq ?_) (run_count c task alive)
    rw [List.count_eq_countP]
    refine List.countP_congr fun a _ => ?_
    simp [h]
  · rename_i h
    refine le_of_eq (List.countP_eq_zero.2 fun a _ => ?_)
    simp [h]

theorem sum_eraseIdx (f : FdTask → Nat) {ts : List FdTask} {i : Nat} {task : FdTask}
    (h : ts[i]? = some task) : ((ts.eraseIdx i).map f).sum + f task = (ts.map f).sum := by
  obtain ⟨hi, rfl⟩ := List.getElem?_eq_some_iff.1 h
  have hp := ((List.getElem_cons_eraseIdx_perm hi).map f).sum_eq
  rw [List.map_cons, List.sum_cons] at hp
  omega

/-- The task for a listener carries the events of the report. -/
theorem fdTask_some {p : Process} {t : ListenerTable} {fd : Int} {events : UInt32}
    {taskName : String} {priority : Priority} {listener : Nat} {fromDeamon : Bool} {task : FdTask}
    (h : fdTask p t fd events taskName priority listener fromDeamon = some task) :
    task.fd = fd ∧ task.events = events ∧ task.listener = listener := by
  unfold fdTask at h
  split at h
  · cases h
  · split at h
    · cases h
    · cases h
      exact ⟨rfl, rfl, rfl⟩

/-- What is posted weighs at most what was in hand. -/
theorem posted_weight (c : FdCall) (fd : Int) (p : Process) (t : ListenerTable) (fd' : Int)
    (events : UInt32) (taskName : String) (priority : Priority) (listener : Nat) (fromDeamon : Bool) :
    ((fdTask p t fd' events taskName priority listener fromDeamon).toList.map
      (FdTask.weight c fd)).sum ≤ weight c fd fd' events := by
  cases h : fdTask p t fd' events taskName priority listener fromDeamon with
  | none => exact Nat.zero_le _
  | some task =>
    obtain ⟨hf, he, -⟩ := fdTask_some h
    simp [FdTask.weight, hf, he]

/-! ## What a step does -/

inductive DeliveryEffect (MONITOR_FLAG : Bool) (s : FdDelivery) : DeliveryOp → FdDelivery → Prop
  | table (p : Process) (op : ListenerOp) :
      DeliveryEffect MONITOR_FLAG s (.table p op) { s with
        table := s.table.step MONITOR_FLAG p op
        registered := s.registered ++ (s.table.registers MONITOR_FLAG p op).toList }
  | hold (listener : Nat) (held : Bool) :
      DeliveryEffect MONITOR_FLAG s (.hold listener held)
        { s with held := Function.update s.held listener held }
  | ioReturn (vsyncOnly : Bool) (entries : List EpollEvent) (hb : s.ioBatch = [])
      (hs : s.ioStage = .idle) :
      DeliveryEffect MONITOR_FLAG s (.ioReturn vsyncOnly entries)
        { s with ioBatch := entries, vsyncOnly := vsyncOnly, reports := s.reports ++ entries }
  | ioNext (e : EpollEvent) (rest : List EpollEvent) (hb : s.ioBatch = e :: rest)
      (hs : s.ioStage = .idle) :
      DeliveryEffect MONITOR_FLAG s .ioNext { s with ioBatch := rest, ioStage := s.ioEntry e }
  | ioListener (fd : Int) (events : UInt32) (taskName : String) (priority : Priority)
      (hs : s.ioStage = .called fd events taskName priority) :
      DeliveryEffect MONITOR_FLAG s .ioListener
        { s with ioStage := s.withListener fd events taskName priority }
  | ioPost (p : Process) (accepted : Bool) (fd : Int) (events : UInt32) (taskName : String)
      (priority : Priority) (listener : Nat)
      (hs : s.ioStage = .holding fd events taskName priority listener) :
      DeliveryEffect MONITOR_FLAG s (.ioPost p accepted) { s with
        ioStage := .idle
        tasks := s.tasks ++ (if accepted then
          (fdTask p s.table fd events taskName priority listener false).toList else []) }
  | ioFailed (hb : s.ioBatch = []) (hs : s.ioStage = .idle) :
      DeliveryEffect MONITOR_FLAG s .ioFailed
        { s with table := { s.table with ioWaiter := none, listeners := ∅ } }
  | deamonReturn (entries : List EpollEvent) (hb : s.deamonBatch = []) (hs : s.deamonStage = none) :
      DeliveryEffect MONITOR_FLAG s (.deamonReturn entries)
        { s with deamonBatch := entries, reports := s.reports ++ entries }
  | deamonNext (e : EpollEvent) (rest : List EpollEvent) (hb : s.deamonBatch = e :: rest)
      (hs : s.deamonStage = none) :
      DeliveryEffect MONITOR_FLAG s .deamonNext { s with
        deamonBatch := rest
        deamonStage := (s.table.deamonInfo e.fd).map (e, ·) }
  | deamonPost (p : Process) (accepted : Bool) (e : EpollEvent) (info : FileDescriptorInfo)
      (hs : s.deamonStage = some (e, info)) :
      DeliveryEffect MONITOR_FLAG s (.deamonPost p accepted) { s with
        deamonStage := none
        tasks := s.tasks ++ (if accepted && info.taskName != "vSyncTask" then
          (fdTask p s.table e.fd (listenerEvents e.events) info.taskName info.priority info.listener
            true).toList else []) }
  | run (p : Process) (i : Nat) (task : FdTask) (hi : s.tasks[i]? = some task) :
      DeliveryEffect MONITOR_FLAG s (.run p i) { s with
        tasks := s.tasks.eraseIdx i
        actions := s.actions ++ (if p.alive task.handler then
          (task.run (s.alive task.listener)).map fun a => (task.listener, task.fd, a) else []) }
  | removeTask (i : Nat) (task : FdTask) (hi : s.tasks[i]? = some task) :
      DeliveryEffect MONITOR_FLAG s (.removeTask i) { s with tasks := s.tasks.eraseIdx i }

theorem delivery_cases {s t : FdDelivery} {a : DeliveryOp} (h : s.step MONITOR_FLAG a = some t) :
    DeliveryEffect MONITOR_FLAG s a t := by
  cases a with
  | table p op => cases h; exact .table p op
  | hold l b => cases h; exact .hold l b
  | ioReturn vsyncOnly entries =>
    simp only [FdDelivery.step, Option.ite_none_right_eq_some, Option.some.injEq] at h
    obtain ⟨⟨hb, hs, -⟩, rfl⟩ := h
    exact .ioReturn vsyncOnly entries hb hs
  | ioNext =>
    simp only [FdDelivery.step] at h
    split at h
    · rename_i e rest hs hb
      cases h
      exact .ioNext e rest hb hs
    · cases h
  | ioListener =>
    simp only [FdDelivery.step] at h
    split at h
    · rename_i fd events taskName priority hs
      cases h
      exact .ioListener fd events taskName priority hs
    · cases h
  | ioPost p accepted =>
    simp only [FdDelivery.step] at h
    split at h
    · rename_i fd events taskName priority listener hs
      cases h
      exact .ioPost p accepted fd events taskName priority listener hs
    · cases h
  | ioFailed =>
    simp only [FdDelivery.step, Option.ite_none_right_eq_some, Option.some.injEq] at h
    obtain ⟨⟨hb, hs⟩, rfl⟩ := h
    exact .ioFailed hb hs
  | deamonReturn entries =>
    simp only [FdDelivery.step, Option.ite_none_right_eq_some, Option.some.injEq] at h
    obtain ⟨⟨hb, hs, -⟩, rfl⟩ := h
    exact .deamonReturn entries hb hs
  | deamonNext =>
    simp only [FdDelivery.step] at h
    split at h
    · rename_i e rest hs hb
      cases h
      exact .deamonNext e rest hb hs
    · cases h
  | deamonPost p accepted =>
    simp only [FdDelivery.step] at h
    split at h
    · rename_i e info hs
      cases h
      exact .deamonPost p accepted e info hs
    · cases h
  | run p i =>
    simp only [FdDelivery.step] at h
    split at h
    · rename_i task hi
      cases h
      exact .run p i task hi
    · cases h
  | removeTask i =>
    simp only [FdDelivery.step, Option.ite_none_right_eq_some, Option.some.injEq] at h
    obtain ⟨hi, rfl⟩ := h
    exact .removeTask i s.tasks[i] (List.getElem?_eq_getElem hi)

/-! ## No callback without a report -/

/-- A report on its way weighs no more behind `GetFileDescriptorMap`. -/
theorem ioEntry_weight (c : FdCall) (fd : Int) (s : FdDelivery) (e : EpollEvent) :
    (s.ioEntry e).weight c fd ≤ e.weight c fd := by
  unfold FdDelivery.ioEntry
  split
  · exact Nat.zero_le _
  · split
    · exact le_refl _
    · exact Nat.zero_le _

theorem withListener_weight (c : FdCall) (fd : Int) (s : FdDelivery) (fd' : Int) (events : UInt32)
    (taskName : String) (priority : Priority) :
    (s.withListener fd' events taskName priority).weight c fd ≤ weight c fd fd' events := by
  unfold FdDelivery.withListener
  split
  · exact Nat.zero_le _
  · split
    · exact Nat.zero_le _
    · exact le_refl _

theorem deamonWeight_le (c : FdCall) (fd : Int) (e : EpollEvent)
    (info : Option FileDescriptorInfo) :
    deamonWeight c fd (info.map (e, ·)) ≤ e.weight c fd := by
  cases info with
  | none => exact Nat.zero_le _
  | some info =>
    show (if info.taskName = "vSyncTask" then 0 else e.weight c fd) ≤ _
    split
    · exact Nat.zero_le _
    · exact le_refl _

theorem deamonPost_weight (c : FdCall) (fd : Int) (p : Process) (t : ListenerTable)
    (accepted : Bool) (e : EpollEvent) (info : FileDescriptorInfo) :
    ((if accepted && info.taskName != "vSyncTask" then
        (fdTask p t e.fd (listenerEvents e.events) info.taskName info.priority info.listener
          true).toList else []).map (FdTask.weight c fd)).sum ≤ deamonWeight c fd (some (e, info)) := by
  show _ ≤ if info.taskName = "vSyncTask" then 0 else e.weight c fd
  by_cases hname : info.taskName = "vSyncTask"
  · rw [if_neg (by simp [hname])]
    exact Nat.zero_le _
  · rw [if_neg hname]
    split
    · exact posted_weight c fd p t e.fd _ _ _ _ true
    · exact Nat.zero_le _

theorem run_weight (c : FdCall) (fd : Int) (s : FdDelivery) (p : Process) (task : FdTask) :
    (if p.alive task.handler then
        (task.run (s.alive task.listener)).map fun a => (task.listener, task.fd, a)
      else []).countP (fun a => decide (a.2.1 = fd) && decide (a.2.2 = .call c)) ≤
      task.weight c fd := by
  split
  · exact run_calls c fd task _
  · exact Nat.zero_le _

/-- **A step makes no more callbacks, made or still to come, than the kernel reports.** -/
theorem balance_step {s t : FdDelivery} {a : DeliveryOp}
    (hst : s.step MONITOR_FLAG a = some t) (c : FdCall) (fd : Int)
    (h : s.calls c fd + s.pending c fd ≤ s.reported c fd) :
    t.calls c fd + t.pending c fd ≤ t.reported c fd := by
  cases delivery_cases hst with
  | table p op => exact h
  | hold l b => exact h
  | ioReturn vsyncOnly entries hb hs =>
    unfold FdDelivery.pending FdDelivery.reported at h ⊢
    simp only [hb, List.map_nil, List.sum_nil] at h
    simp only [List.countP_append, ← reports_weight c fd entries]
    show s.calls c fd + _ ≤ _
    omega
  | ioNext e rest hb hs =>
    have hle := ioEntry_weight c fd s e
    unfold FdDelivery.pending FdDelivery.reported at h ⊢
    simp only [hb, hs, List.map_cons, List.sum_cons, IoStage.weight] at h
    show s.calls c fd + _ ≤ _
    simp only
    omega
  | ioListener fd' events taskName priority hs =>
    have hle := withListener_weight c fd s fd' events taskName priority
    unfold FdDelivery.pending FdDelivery.reported at h ⊢
    simp only [hs, IoStage.weight] at h
    show s.calls c fd + _ ≤ _
    simp only
    omega
  | ioPost p accepted fd' events taskName priority listener hs =>
    have hle := posted_weight c fd p s.table fd' events taskName priority listener false
    unfold FdDelivery.pending FdDelivery.reported at h ⊢
    simp only [hs, IoStage.weight] at h
    show s.calls c fd + _ ≤ _
    simp only [IoStage.weight, List.map_append, List.sum_append]
    split
    · omega
    · simp only [List.map_nil, List.sum_nil]
      omega
  | ioFailed => exact h
  | deamonReturn entries hb hs =>
    unfold FdDelivery.pending FdDelivery.reported at h ⊢
    simp only [hb, List.map_nil, List.sum_nil] at h
    simp only [List.countP_append, ← reports_weight c fd entries]
    show s.calls c fd + _ ≤ _
    omega
  | deamonNext e rest hb hs =>
    have hle := deamonWeight_le c fd e (s.table.deamonInfo e.fd)
    unfold FdDelivery.pending FdDelivery.reported at h ⊢
    simp only [hb, hs, List.map_cons, List.sum_cons, deamonWeight] at h
    show s.calls c fd + _ ≤ _
    simp only
    omega
  | deamonPost p accepted e info hs =>
    have hle := deamonPost_weight c fd p s.table accepted e info
    unfold FdDelivery.pending FdDelivery.reported at h ⊢
    simp only [hs] at h
    show s.calls c fd + _ ≤ _
    simp only [deamonWeight, List.map_append, List.sum_append] at h hle ⊢
    omega
  | run p i task hi =>
    have hle := run_weight c fd s p task
    have hsum := sum_eraseIdx (FdTask.weight c fd) hi
    unfold FdDelivery.pending FdDelivery.reported FdDelivery.calls at h ⊢
    simp only [List.countP_append]
    omega
  | removeTask i task hi =>
    have hsum := sum_eraseIdx (FdTask.weight c fd) hi
    unfold FdDelivery.pending FdDelivery.reported FdDelivery.calls at h ⊢
    simp only
    omega

/-! ## Only registered listeners -/

/-- Where a listener is named beside a descriptor, it was registered for it. -/
structure Recorded (s : FdDelivery) : Prop where
  listed : ∀ fd l, s.table.listeners.lookup fd = some l → (fd, l) ∈ s.registered
  deamon : ∀ fd info, s.table.deamonInfo fd = some info → info.taskName ≠ "vSyncTask" →
    (fd, info.listener) ∈ s.registered
  holding : ∀ fd events taskName priority l, s.ioStage = .holding fd events taskName priority l →
    (fd, l) ∈ s.registered
  inDeamon : ∀ e info, s.deamonStage = some (e, info) → info.taskName ≠ "vSyncTask" →
    (e.fd, info.listener) ∈ s.registered
  tasks : ∀ task ∈ s.tasks, (task.fd, task.listener) ∈ s.registered
  actions : ∀ a ∈ s.actions, (a.2.1, a.1) ∈ s.registered

/-- What an operation leaves in the tables was registered before, or by the operation. -/
theorem table_recorded (MONITOR_FLAG : Bool) (p : Process) {t : ListenerTable} (op : ListenerOp)
    {registered : List (Int × Nat)}
    (hl : ∀ fd l, t.listeners.lookup fd = some l → (fd, l) ∈ registered)
    (hd : ∀ fd info, t.deamonInfo fd = some info → info.taskName ≠ "vSyncTask" →
      (fd, info.listener) ∈ registered) :
    let u := t.step MONITOR_FLAG p op
    let r := registered ++ (t.registers MONITOR_FLAG p op).toList
    (∀ fd l, u.listeners.lookup fd = some l → (fd, l) ∈ r) ∧
      ∀ fd info, u.deamonInfo fd = some info → info.taskName ≠ "vSyncTask" →
        (fd, info.listener) ∈ r := by
  intro u r
  have keep : ∀ x, x ∈ registered → x ∈ r := fun x hx => List.mem_append_left _ hx
  have view : ∀ fd, ListenerTable.SameView t u fd →
      (∀ l, u.listeners.lookup fd = some l → (fd, l) ∈ r) ∧
        ∀ info, u.deamonInfo fd = some info → info.taskName ≠ "vSyncTask" →
          (fd, info.listener) ∈ r := by
    intro fd hs
    refine ⟨fun l h => keep _ (hl fd l (hs.listeners ▸ h)), fun info h hname => ?_⟩
    exact keep _ (hd fd info (hs.deamon ▸ h) hname)
  -- One descriptor at a time.
  suffices h : ∀ fd, (∀ l, u.listeners.lookup fd = some l → (fd, l) ∈ r) ∧
      ∀ info, u.deamonInfo fd = some info → info.taskName ≠ "vSyncTask" →
        (fd, info.listener) ∈ r from ⟨fun fd => (h fd).1, fun fd => (h fd).2⟩
  intro fd
  cases ListenerTable.step_effect MONITOR_FLAG p t op with
  | same _ _ hs => exact view fd (hs fd)
  | removed rs _ _ _ hdrop =>
    by_cases hin : ∃ q ∈ rs, fd = q.1
    · obtain ⟨q, hq, rfl⟩ := hin
      refine ⟨fun l h => ?_, fun info h hname => ?_⟩
      · rw [(hdrop.gone q hq).1] at h
        cases h
      · rcases hdrop.deamon q.1 with hsame | hnone
        · exact keep _ (hd _ info (hsame ▸ h) hname)
        · rw [hnone] at h
          cases h
    · exact view fd (hdrop.other fd fun q hq heq => hin ⟨q, hq, heq⟩)
  | added fd' l ok _ hr hadd =>
    by_cases hne : fd = fd'
    · subst hne
      rcases hadd.this with ⟨-, hs⟩ | ⟨-, hv, hlook⟩
      · exact view fd hs
      · have new : ok = true → (fd, l) ∈ r := by
          intro hok
          refine List.mem_append_right _ ?_
          rw [hr, hok]
          exact List.mem_singleton_self _
        have left : (u.deamonInfo fd = t.deamonInfo fd ∨ u.deamonInfo fd = none ∨
            ∃ info, u.deamonInfo fd = some info ∧ info.taskName = "vSyncTask") →
            ∀ info, u.deamonInfo fd = some info → info.taskName ≠ "vSyncTask" →
              (fd, info.listener) ∈ r := by
          rintro (h | h | ⟨i, h, hi⟩) info hu hname
          · exact keep _ (hd fd info (h ▸ hu) hname)
          · rw [h] at hu
            cases hu
          · rw [h] at hu
            cases hu
            exact absurd hi hname
        refine ⟨fun l' h => ?_, ?_⟩
        · rw [hlook] at h
          split at h
          · rename_i hok
            cases h
            exact new hok
          · cases h
        · cases hv with
          | deamon info hil _ _ hd' =>
            intro info' hi _
            rw [hd'] at hi
            cases hi
            rw [hil]
            exact new rfl
          | io info _ hd' => exact left hd'
          | refused _ hd' => exact left hd'
    · exact view fd (hadd.other fd hne)

theorem recorded_step {s t : FdDelivery} {a : DeliveryOp} (h : Recorded s)
    (hst : s.step MONITOR_FLAG a = some t) : Recorded t := by
  have posted : ∀ {p : Process} {fd : Int} {events : UInt32} {taskName : String}
      {priority : Priority} {l : Nat} {fromDeamon : Bool}, (fd, l) ∈ s.registered →
      ∀ task ∈ (fdTask p s.table fd events taskName priority l fromDeamon).toList,
        (task.fd, task.listener) ∈ s.registered := by
    intro p fd events taskName priority l fromDeamon hl task htask
    obtain ⟨hf, -, hlist⟩ := fdTask_some (Option.mem_toList.1 htask)
    rw [hf, hlist]
    exact hl
  cases delivery_cases hst with
  | table p op =>
    obtain ⟨hl, hd⟩ := table_recorded MONITOR_FLAG p op h.listed h.deamon
    exact ⟨hl, hd, fun fd e n q l hs => List.mem_append_left _ (h.holding fd e n q l hs),
      fun e info hs hname => List.mem_append_left _ (h.inDeamon e info hs hname),
      fun task ht => List.mem_append_left _ (h.tasks task ht),
      fun x hx => List.mem_append_left _ (h.actions x hx)⟩
  | hold l b => exact ⟨h.listed, h.deamon, h.holding, h.inDeamon, h.tasks, h.actions⟩
  | ioReturn => exact ⟨h.listed, h.deamon, h.holding, h.inDeamon, h.tasks, h.actions⟩
  | ioNext e rest =>
    refine ⟨h.listed, h.deamon, fun fd ev n q l hs => ?_, h.inDeamon, h.tasks, h.actions⟩
    simp only [FdDelivery.ioEntry] at hs
    repeat' split at hs
    all_goals cases hs
  | ioListener fd events taskName priority hs =>
    refine ⟨h.listed, h.deamon, fun fd' ev n q l hw => ?_, h.inDeamon, h.tasks, h.actions⟩
    simp only [FdDelivery.withListener] at hw
    split at hw
    · cases hw
    · split at hw
      · cases hw
      · rename_i hl
        cases hw
        exact h.listed fd l hl
  | ioPost p accepted fd events taskName priority listener hs =>
    refine ⟨h.listed, h.deamon, (fun _ _ _ _ _ hw => by cases hw), h.inDeamon, fun task ht => ?_,
      h.actions⟩
    rcases List.mem_append.1 ht with ht | ht
    · exact h.tasks task ht
    · split at ht
      · exact posted (h.holding _ _ _ _ _ hs) task ht
      · cases ht
  | ioFailed =>
    exact ⟨(fun fd l hl => by cases hl), h.deamon, h.holding, h.inDeamon, h.tasks, h.actions⟩
  | deamonReturn => exact ⟨h.listed, h.deamon, h.holding, h.inDeamon, h.tasks, h.actions⟩
  | deamonNext e rest =>
    refine ⟨h.listed, h.deamon, h.holding, fun e' info hs hname => ?_, h.tasks, h.actions⟩
    obtain ⟨info', hi, heq⟩ := Option.map_eq_some_iff.1 hs
    cases heq
    exact h.deamon _ _ hi hname
  | deamonPost p accepted e info hs =>
    refine ⟨h.listed, h.deamon, h.holding, (fun _ _ hw => by cases hw), fun task ht => ?_,
      h.actions⟩
    rcases List.mem_append.1 ht with ht | ht
    · exact h.tasks task ht
    · split at ht
      · rename_i hc
        rw [Bool.and_eq_true, bne_iff_ne] at hc
        exact posted (h.inDeamon e info hs hc.2) task ht
      · cases ht
  | run p i task hi =>
    refine ⟨h.listed, h.deamon, h.holding, h.inDeamon,
      fun task' ht => h.tasks task' (List.mem_of_mem_eraseIdx ht), fun x hx => ?_⟩
    rcases List.mem_append.1 hx with hx | hx
    · exact h.actions x hx
    · split at hx
      · obtain ⟨a, -, rfl⟩ := List.mem_map.1 hx
        exact h.tasks task (List.mem_of_getElem? hi)
      · cases hx
  | removeTask i task hi =>
    exact ⟨h.listed, h.deamon, h.holding, h.inDeamon,
      fun task' ht => h.tasks task' (List.mem_of_mem_eraseIdx ht), h.actions⟩

/-- **No callback without a registration and a report**: in every run a listener is called only for a
    descriptor it was registered for, and each callback is made on a descriptor no more often than
    the kernel reported its event for that descriptor. -/
theorem called_at_most_reported (MONITOR_FLAG : Bool) (start : ListenerStart) {s : FdDelivery}
    (h : (deliverySystem MONITOR_FLAG start).Reachable System.always s) :
    (∀ l fd a, (l, fd, a) ∈ s.actions → (fd, l) ∈ s.registered) ∧
      ∀ c fd, s.calls c fd + s.pending c fd ≤ s.reported c fd := by
  have hinv : Recorded s ∧ ∀ c fd, s.calls c fd + s.pending c fd ≤ s.reported c fd := by
    apply h.invariant (I := fun s => Recorded s ∧
      ∀ c fd, s.calls c fd + s.pending c fd ≤ s.reported c fd)
    · refine ⟨⟨?_, ?_, ?_, ?_, ?_, ?_⟩, fun c fd => le_refl 0⟩
      · exact fun fd l hl => by cases hl
      · exact fun fd info hd => by cases hd
      · exact fun _ _ _ _ _ hs => by cases hs
      · exact fun _ _ hs => by cases hs
      · exact fun _ ht => by cases ht
      · exact fun _ hx => by cases hx
    · exact fun s a t hs _ hst => ⟨recorded_step hs.1 hst, fun c fd => balance_step hst c fd (hs.2 c fd)⟩
  exact ⟨fun l fd a ha => hinv.1.actions (l, fd, a) ha, hinv.2⟩

/-- Handler 7 listens to descriptor 5 with the object 0, and input is reported and delivered. -/
def deliverInput : List DeliveryOp :=
  [.table mainProcess (.addByHandler 7 5 FILE_DESCRIPTOR_INPUT_EVENT (some 0) "task" .HIGH),
    .ioReturn false [⟨5, EPOLLIN⟩], .ioNext, .ioListener, .ioPost mainProcess true,
    .run mainProcess 0]

theorem called_at_most_reported_input : ∃ s : FdDelivery,
    (0, 5, .call .OnReadable) ∈ s.actions ∧ ((5, 0) : Int × Nat) ∈ s.registered ∧
      1 + s.pending .OnReadable 5 ≤ s.reported .OnReadable 5 := by
  obtain ⟨s, hs, ha, hc⟩ := System.run_of_exec (deliverySystem false {}) System.always
    (fun s => ((0, 5, .call .OnReadable) : Nat × Int × FdAction) ∈ s.actions ∧
      s.calls .OnReadable 5 = 1) deliverInput (by decide +kernel)
  have h := called_at_most_reported false {} ⟨_, hs⟩
  exact ⟨s, ha, h.1 0 5 _ ha, hc ▸ h.2 .OnReadable 5⟩

/-! ## After a removal -/

/-- Nothing that comes for the descriptor finds a listener. -/
structure Unserved (t : ListenerTable) (fd : Int) : Prop where
  unlisted : t.listeners.lookup fd = none
  deamon : ∀ info, t.deamonInfo fd = some info → info.taskName = "vSyncTask"

def DeliveryOp.adds (fd : Int) : DeliveryOp → Bool
  | .table _ op => decide (op.adds = some fd)
  | _ => false

/-- Nothing but an addition makes an unserved descriptor served. -/
theorem Unserved.step {p : Process} {t : ListenerTable} {op : ListenerOp} (h : Unserved t fd)
    (hop : op.adds ≠ some fd) : Unserved (t.step MONITOR_FLAG p op) fd := by
  have view : ∀ u, ListenerTable.SameView t u fd → Unserved u fd := fun u hs =>
    ⟨hs.listeners.trans h.unlisted, fun info hd => h.deamon info (hs.deamon ▸ hd)⟩
  cases ListenerTable.step_effect MONITOR_FLAG p t op with
  | same _ _ hs => exact view _ (hs fd)
  | added fd' l ok hop' _ hadd =>
    refine view _ (hadd.other fd ?_)
    rintro rfl
    exact hop hop'
  | removed rs _ _ _ hdrop =>
    by_cases hin : ∃ q ∈ rs, fd = q.1
    · obtain ⟨q, hq, rfl⟩ := hin
      refine ⟨(hdrop.gone q hq).1, fun info hd => ?_⟩
      rcases hdrop.deamon q.1 with hsame | hnone
      · exact h.deamon info (hsame ▸ hd)
      · rw [hnone] at hd
        cases hd
    · exact view _ (hdrop.other fd fun q hq heq => hin ⟨q, hq, heq⟩)

theorem ioEntry_held (s : FdDelivery) (e : EpollEvent) : (s.ioEntry e).heldWeight c fd = 0 := by
  unfold FdDelivery.ioEntry
  split
  · rfl
  · split <;> rfl

/-- `GetListenerByfd` finds no listener for an unserved descriptor. -/
theorem withListener_held {s : FdDelivery} (h : Unserved s.table fd) (fd' : Int) (events : UInt32)
    (taskName : String) (priority : Priority) :
    (s.withListener fd' events taskName priority).heldWeight c fd = 0 := by
  unfold FdDelivery.withListener
  split
  · rfl
  · split
    · rfl
    · rename_i l hl
      refine if_neg ?_
      rintro rfl
      rw [h.unlisted] at hl
      cases hl

/-- **While a descriptor is unserved nothing sets out to its listener.** -/
theorem onTheirWay_step {s t : FdDelivery} {a : DeliveryOp} (hst : s.step MONITOR_FLAG a = some t)
    (hu : Unserved s.table fd) (ha : a.adds fd = false) :
    Unserved t.table fd ∧
      t.calls c fd + t.onTheirWay c fd ≤ s.calls c fd + s.onTheirWay c fd := by
  cases delivery_cases hst with
  | table p op => exact ⟨hu.step (of_decide_eq_false ha), le_refl _⟩
  | hold l b => exact ⟨hu, le_refl _⟩
  | ioReturn vsyncOnly entries hb hs => exact ⟨hu, le_refl _⟩
  | ioNext e rest hb hs =>
    refine ⟨hu, Nat.add_le_add_left ?_ _⟩
    unfold FdDelivery.onTheirWay
    simp only [hs, ioEntry_held]
    exact le_refl _
  | ioListener fd' events taskName priority hs =>
    refine ⟨hu, Nat.add_le_add_left ?_ _⟩
    unfold FdDelivery.onTheirWay
    simp only [hs, withListener_held hu]
    exact le_refl _
  | ioPost p accepted fd' events taskName priority listener hs =>
    have hle := posted_weight c fd p s.table fd' events taskName priority listener false
    refine ⟨hu, Nat.add_le_add_left ?_ _⟩
    unfold FdDelivery.onTheirWay
    simp only [hs, IoStage.heldWeight, List.map_append, List.sum_append]
    split
    · omega
    · simp only [List.map_nil, List.sum_nil]
      omega
  | ioFailed => exact ⟨⟨rfl, hu.deamon⟩, le_refl _⟩
  | deamonReturn entries hb hs => exact ⟨hu, le_refl _⟩
  | deamonNext e rest hb hs =>
    refine ⟨hu, Nat.add_le_add_left ?_ _⟩
    have hzero : deamonWeight c fd ((s.table.deamonInfo e.fd).map (e, ·)) = 0 := by
      cases hi : s.table.deamonInfo e.fd with
      | none => rfl
      | some info =>
        show (if info.taskName = "vSyncTask" then 0 else e.weight c fd) = 0
        by_cases hfd : e.fd = fd
        · rw [if_pos (hu.deamon info (hfd ▸ hi))]
        · rw [show e.weight c fd = 0 from if_neg hfd, ite_self]
    unfold FdDelivery.onTheirWay
    simp only [hs, hzero]
    exact le_refl _
  | deamonPost p accepted e info hs =>
    have hle := deamonPost_weight c fd p s.table accepted e info
    refine ⟨hu, Nat.add_le_add_left ?_ _⟩
    unfold FdDelivery.onTheirWay
    simp only [hs, List.map_append, List.sum_append]
    simp only [deamonWeight] at hle ⊢
    omega
  | run p i task hi =>
    have hle := run_weight c fd s p task
    have hsum := sum_eraseIdx (FdTask.weight c fd) hi
    refine ⟨hu, ?_⟩
    unfold FdDelivery.onTheirWay FdDelivery.calls
    simp only [List.countP_append]
    omega
  | removeTask i task hi =>
    have hsum := sum_eraseIdx (FdTask.weight c fd) hi
    refine ⟨hu, Nat.add_le_add_left ?_ _⟩
    unfold FdDelivery.onTheirWay
    simp only
    omega

def DeliveryOp.works : DeliveryOp → Bool
  | .ioFailed => false
  | _ => true

theorem reachable_tidy {start : ListenerStart} {s : FdDelivery}
    (h : (deliverySystem MONITOR_FLAG start).Reachable (fun _ a => a.works = true) s) :
    s.table.Tidy MONITOR_FLAG := by
  apply h.invariant (I := fun s => s.table.Tidy MONITOR_FLAG) (ListenerTable.initial_tidy start)
  intro s a t hs ha hst
  cases delivery_cases hst with
  | table p op => exact ListenerTable.step_tidy hs
  | ioFailed => cases ha
  | _ => exact hs

/-- **After a removal only what is on its way is delivered**: when an operation takes a descriptor out
    of `listeners_`, then whatever follows, as long as the descriptor is not added again, its
    listener gets at most the callbacks of the tasks posted by then and of the report in hand. -/
theorem removed_calls_le (MONITOR_FLAG : Bool) (start : ListenerStart) {s u t : FdDelivery}
    {p : Process} {op : ListenerOp} {fd : Int} {b : Bool} {as : List DeliveryOp}
    (h : (deliverySystem MONITOR_FLAG start).Reachable (fun _ a => a.works = true) s)
    (hr : (fd, b) ∈ s.table.removals MONITOR_FLAG p op)
    (hst : s.step MONITOR_FLAG (.table p op) = some u)
    (hrun : (deliverySystem MONITOR_FLAG start).Run (fun _ a => a.adds fd = false) u as t)
    (c : FdCall) : t.calls c fd ≤ s.calls c fd + s.onTheirWay c fd := by
  have hst' : (deliverySystem MONITOR_FLAG start).step s (.table p op) = some u := hst
  have hreach := h.step rfl hst'
  cases hst
  have hdrop := ListenerTable.dropAll_effect (s.table.removals MONITOR_FLAG p op) s.table
  rw [← ListenerTable.step_dropAll (List.ne_nil_of_mem hr)] at hdrop
  have hu : Unserved (s.table.step MONITOR_FLAG p op) fd := by
    have hnone := (hdrop.gone _ hr).1
    refine ⟨hnone, fun info hd => ?_⟩
    by_contra hname
    rw [((reachable_tidy hreach).deamon fd info hd hname).1] at hnone
    cases hnone
  have hinv := hrun.invariant (I := fun t => Unserved t.table fd ∧
      t.calls c fd + t.onTheirWay c fd ≤ s.calls c fd + s.onTheirWay c fd)
    (fun v a w hv ha hst => by
      obtain ⟨hw, hle⟩ := onTheirWay_step (c := c) hst hv.1 ha
      exact ⟨hw, hle.trans hv.2⟩)
    ⟨hu, le_refl _⟩
  omega

/-- A report is in the kernel's answer when its descriptor is removed: it is not delivered. -/
theorem removed_calls_le_reported : ∃ t : FdDelivery,
    t.reported .OnReadable 5 = 1 ∧ t.calls .OnReadable 5 ≤ 0 := by
  obtain ⟨s, hs, hr, hw, ht⟩ := System.run_of_exec (deliverySystem false {})
    (fun _ a => a.works = true)
    (fun s => ((5, false) : Int × Bool) ∈ s.table.removals false mainProcess (.removeByFd 5) ∧
      s.calls .OnReadable 5 + s.onTheirWay .OnReadable 5 = 0 ∧
      (((s.step false (.table mainProcess (.removeByFd 5))).bind (·.step false .ioNext)).any
        fun t => decide (t.reported .OnReadable 5 = 1)) = true)
    [.table mainProcess (.addByHandler 7 5 FILE_DESCRIPTOR_INPUT_EVENT (some 0) "task" .HIGH),
      .ioReturn false [⟨5, EPOLLIN⟩]] (by decide +kernel)
  obtain ⟨t, ht, hrep⟩ := (Option.any_eq_true _ _).1 ht
  obtain ⟨u, hu, ht⟩ := Option.bind_eq_some_iff.1 ht
  have hrun : (deliverySystem false {}).Run (fun _ a => a.adds 5 = false) u [.ioNext] t := .one rfl ht
  have hle := removed_calls_le false {} ⟨_, hs⟩ hr hu hrun .OnReadable
  exact ⟨t, of_decide_eq_true hrep, hw ▸ hle⟩

end AppExecFwk
