import Mathlib
import EventHandler.Lib.Transition
import EventHandler.Lib.OrderedMap
import EventHandler.Emitter

/-!
# The ANI listeners and their worker

Model of `ani_async_callback_manager.cpp`.  Listeners are registered and taken away by the ANI
functions; an event is dispatched on the emitter's queue, which pushes a task for each listener and
starts a worker thread when none runs; a worker pops the tasks and sends each to the thread of its
listener, where the work function calls the callback.

* `CompositeEventId.lt` — the comparison the container is ordered by, and `separates_lt`.
* `AniManager` — the container, the task queue with its flags, the phase of every worker thread, and
  the tasks that were sent.
* `AniManager.step` — one critical section, or one step of a thread, at a time.  A thread that waits
  on a condition variable may wake up without a notification.
* `Retires`, `ContainerEffect` — what an operation of the container does to it.
* `WorkerEffect`, `worker_cases` — what a step does that no ANI function makes.
* `aniStep_cases` — an operation of the container, a dispatch, or such a step.
* `TasksMoved`, `task_cases` — such a step pushes a task, or tasks are handed on, dropped or become
  calls.
* `Placed`, `placed_step` — a listener is only in the set of its own event.

Which of several equal callbacks a walk over an `unordered_set` meets first is a choice of the run
where it matters.  The virtual machine of a listener is not null once it is in a set.
-/

set_option autoImplicit false

namespace AppExecFwk

open Transition

/-! ## The order of the keys -/

namespace EventId

/-- `std::variant::index`. -/
def index : EventId → Nat
  | .u32 _ => 0
  | .str _ => 1

end EventId

namespace CompositeEventId

/-- `operator<`. -/
def lt (a b : CompositeEventId) : Bool :=
  if a.emitterId ≠ b.emitterId then decide (a.emitterId < b.emitterId)
  else if a.eventId.index ≠ b.eventId.index then decide (a.eventId.index < b.eventId.index)
  else
    match a.eventId, b.eventId with
    | .u32 m, .u32 n => decide (m < n)
    | .str m, .str n => decide (m < n)
    | _, _ => false

/-- `operator!=`. -/
def ne (a b : CompositeEventId) : Bool :=
  decide (a.emitterId ≠ b.emitterId) || decide (a.eventId ≠ b.eventId)

/-- The key in the lexicographic order of emitters, then numbers before texts. -/
def rank (a : CompositeEventId) : Nat ×ₗ (Nat ⊕ₗ String) :=
  toLex (a.emitterId, match a.eventId with
    | .u32 n => Sum.inlₗ n.toNat
    | .str n => Sum.inrₗ n)

theorem rank_injective {a b : CompositeEventId} (h : a.rank = b.rank) : a = b := by
  obtain ⟨a, m⟩ := a
  obtain ⟨b, n⟩ := b
  cases a <;> cases b <;> simp_all [rank, UInt32.toNat_inj]

theorem lt_iff (a b : CompositeEventId) : a.lt b = true ↔ a.rank < b.rank := by
  obtain ⟨a, m⟩ := a
  obtain ⟨b, n⟩ := b
  unfold lt rank
  rw [Prod.Lex.toLex_lt_toLex]
  by_cases hmn : m = n
  · subst hmn
    cases a <;> cases b <;> simp [EventId.index, UInt32.lt_iff_toNat_lt]
  · simp [hmn]

theorem lt_irrefl (a : CompositeEventId) : a.lt a = false := by
  rw [Bool.eq_false_iff, Ne, lt_iff]
  exact (lt_self_iff_false a.rank).1

theorem lt_trans {a b c : CompositeEventId} (hab : a.lt b = true) (hbc : b.lt c = true) :
    a.lt c = true := by
  rw [lt_iff] at *
  exact hab.trans hbc

theorem lt_total (a b : CompositeEventId) (h : a ≠ b) : a.lt b = true ∨ b.lt a = true := by
  rw [lt_iff, lt_iff]
  exact lt_or_gt_of_ne fun hr => h (rank_injective hr)

/-- **No two keys are the same for the container.** -/
theorem separates_lt : OrderedMap.Separates lt :=
  OrderedMap.separates_of_total lt_irrefl lt_total

end CompositeEventId

/-! ## The manager -/

structure AniAsyncCallbackInfo where
  once : Bool
  isDeleted : Bool
  /-- The function object behind the reference. -/
  callback : Nat
  eventId : EventId
  emitterId : Nat
  deriving DecidableEq, Repr

def AniAsyncCallbackInfo.compositeId (info : AniAsyncCallbackInfo) : CompositeEventId :=
  ⟨info.eventId, info.emitterId⟩

/-- Where a thread is in `WorkTheadFunction`. -/
inductive WorkerPhase where
  | absent
  /-- Started, and not yet attached to the virtual machine. -/
  | starting
  /-- At the test of `taskRunning_`. -/
  | test
  /-- Before it locks `taskMutex_` in `PopTaskData`. -/
  | pop
  /-- In `taskCond_.wait`. -/
  | waiting (notified : Bool)
  /-- It has popped a task and not sent it. -/
  | popped
  /-- Before it locks `g_taskMutex`. -/
  | sent
  /-- In `g_taskCond.wait`. -/
  | awaiting
  | left
  deriving DecidableEq, Repr

structure AniManager where
  infos : Nat → AniAsyncCallbackInfo
  /-- The number of listeners created so far. -/
  created : Nat
  aniAsyncCallbackContainer : List (CompositeEventId × List Nat)
  /-- What is left of `aniCallbackInfos` in `AniDoCallback`. -/
  aniCallbackInfos : List Nat
  /-- `AniDoCallback` has pushed a task and not yet tested `taskRunning_`. -/
  pushed : Bool
  /-- The tasks, by their listener. -/
  taskData : List Nat
  needNotify : Bool
  taskRunning : Bool
  /-- The number of worker threads started so far. -/
  threads : Nat
  worker : Nat → WorkerPhase
  /-- The tasks popped and not sent, with the thread that holds each. -/
  held : List (Nat × Nat)
  /-- The tasks sent whose work function has not begun. -/
  sent : List Nat
  /-- The task whose work function runs, under `g_taskMutex`. -/
  running : Option Nat
  g_taskRunning : Bool
  /-- How often the callback of a listener was called. -/
  invocations : Nat → Nat
  /-- Taken away by one of the two `off` functions. -/
  removed : Nat → Bool

inductive AniOp where
  /-- `made` is false when the listener cannot be allocated. -/
  | insertCallbackInfo (id : CompositeEventId) (once : Bool) (callback : Nat) (made : Bool)
  /-- `found` is the listener the walk over the set meets first. -/
  | deleteCallbackInfo (id : CompositeEventId) (callback found : Nat)
  | deleteCallbackInfoByEventId (id : CompositeEventId)
  | cleanCallbackInfo (emitterId : Nat)
  | getListenerCount (id : CompositeEventId)
  /-- `AniDoCallback` up to the copy of the set. -/
  | doCallback (id : CompositeEventId)
  /-- A round of its loop up to the end of `PushTaskData`, which may notify the thread `woken`. -/
  | pushTaskData (info woken : Nat)
  /-- The rest of the round. -/
  | startWorker
  | attach (thread : Nat) (attached : Bool)
  | testRunning (thread : Nat)
  /-- `PopTaskData`, or its next wake-up. -/
  | popTaskData (thread : Nat)
  /-- `callbackInfo` cannot be allocated. -/
  | newFailed (thread : Nat)
  | sendEventData (thread : Nat)
  /-- `g_taskCond.wait`, or its next wake-up. -/
  | awaitTask (thread : Nat)
  /-- The work function; `called` is false on its early returns. -/
  | beginWork (info : Nat) (called : Bool)
  | endWork
  deriving DecidableEq, Repr

/-- The steps that no ANI function makes. -/
def AniOp.internal : AniOp → Bool
  | .insertCallbackInfo .. => false
  | .deleteCallbackInfo .. => false
  | .deleteCallbackInfoByEventId .. => false
  | .cleanCallbackInfo .. => false
  | .getListenerCount .. => false
  | .doCallback .. => false
  | _ => true

namespace AniManager

def find (s : AniManager) (id : CompositeEventId) : Option (List Nat) :=
  OrderedMap.find CompositeEventId.lt s.aniAsyncCallbackContainer id

/-- The set of an event, empty when the container has none. -/
def listeners (s : AniManager) (id : CompositeEventId) : List Nat := (s.find id).getD []

def assign (s : AniManager) (id : CompositeEventId) (infos : List Nat) : AniManager :=
  { s with
    aniAsyncCallbackContainer :=
      OrderedMap.assign CompositeEventId.lt s.aniAsyncCallbackContainer id infos }

/-- `isDeleted = true` for the listeners that pass the test. -/
def markDeleted (s : AniManager) (p : Nat → Bool) : AniManager :=
  { s with
    infos := fun info =>
      if p info then { s.infos info with isDeleted := true } else s.infos info }

/-- `callbackInfo->once = once`. -/
def updateOnce (s : AniManager) (info : Nat) (once : Bool) : AniManager :=
  { s with
    infos := Function.update s.infos info { s.infos info with once := once } }

/-- The listener `AniInsertCallbackInfo` creates when it finds none. -/
def insert (s : AniManager) (id : CompositeEventId) (once : Bool) (callback : Nat) : AniManager :=
  { s.assign id (s.listeners id ++ [s.created]) with
    infos := Function.update s.infos s.created
      { once := once, isDeleted := false, callback := callback, eventId := id.eventId,
        emitterId := id.emitterId }
    created := s.created + 1 }

def insertCallbackInfo (s : AniManager) (id : CompositeEventId) (once : Bool) (callback : Nat)
    (made : Bool) : AniManager :=
  match (s.listeners id).find? fun info =>
      !(s.infos info).isDeleted && decide ((s.infos info).callback = callback) with
  | some info => s.updateOnce info once
  | none => if made then s.insert id once callback else s

def deleteCallbackInfo (s : AniManager) (id : CompositeEventId) (found : Nat) : AniManager :=
  { (s.markDeleted fun info => info == found).assign id ((s.listeners id).erase found) with
    removed := Function.update s.removed found true }

def deleteCallbackInfoByEventId (s : AniManager) (id : CompositeEventId) : AniManager :=
  let rest := OrderedMap.erase CompositeEventId.lt s.aniAsyncCallbackContainer id
  { s.markDeleted fun info => decide (info ∈ s.listeners id) with
    aniAsyncCallbackContainer := rest
    taskRunning := if rest.isEmpty then false else s.taskRunning
    removed := fun info => s.removed info || decide (info ∈ s.listeners id) }

def cleanCallbackInfo (s : AniManager) (emitterId : Nat) : AniManager :=
  { s.markDeleted fun info =>
      s.aniAsyncCallbackContainer.any fun e =>
        decide (e.1.emitterId = emitterId) && decide (info ∈ e.2) with
    aniAsyncCallbackContainer :=
      OrderedMap.eraseIf s.aniAsyncCallbackContainer fun id => decide (id.emitterId = emitterId) }

/-- The loop over a set that erases the deleted listeners. -/
def prune (s : AniManager) (id : CompositeEventId) : AniManager :=
  match s.find id with
  | some infos => s.assign id (infos.filter fun info => !(s.infos info).isDeleted)
  | none => s

/-- `cnt` is a `uint32_t`. -/
def getListenerCountByEventId (s : AniManager) (id : CompositeEventId) : AniManager × UInt32 :=
  (s.prune id, UInt32.ofNat ((s.prune id).listeners id).length)

def isExistValidCallback (s : AniManager) (id : CompositeEventId) : Bool :=
  !(s.listeners id).isEmpty

/-- `AniDoCallback`, with the copy that `AniGetAsyncCallbackInfo` returns. -/
def doCallback (s : AniManager) (id : CompositeEventId) : AniManager :=
  { s.prune id with aniCallbackInfos := (s.prune id).listeners id }

def setWorker (s : AniManager) (thread : Nat) (phase : WorkerPhase) : AniManager :=
  { s with worker := Function.update s.worker thread phase }

/-- A thread waits on `taskCond_` and has not been notified. -/
def unnotified (s : AniManager) (thread : Nat) : Bool :=
  decide (s.worker thread = .waiting false)

/-- `taskCond_.notify_one` can wake this thread, or there is none to wake. -/
def wakes (s : AniManager) (woken : Nat) : Bool :=
  s.unnotified woken || (List.range s.threads).all fun thread => !s.unnotified thread

/-- `if ((*it)->once) (*it)->isDeleted = true`, and `PushTaskData`. -/
def pushTaskData (s : AniManager) (info woken : Nat) : AniManager :=
  { s.markDeleted fun i => i == info && (s.infos i).once with
    aniCallbackInfos := s.aniCallbackInfos.erase info
    pushed := true
    taskData := s.taskData ++ [info]
    worker :=
      if s.needNotify && s.unnotified woken then Function.update s.worker woken (.waiting true)
      else s.worker }

def startWorker (s : AniManager) : AniManager :=
  if s.taskRunning then { s with pushed := false }
  else
    { s with
      pushed := false
      taskRunning := true
      threads := s.threads + 1
      worker := Function.update s.worker s.threads .starting }

/-- `PopTaskData`, by a thread that holds `taskMutex_`; a thread that wakes up to an empty queue waits
    again. -/
def popTaskData (s : AniManager) (thread : Nat) : AniManager :=
  match s.taskData with
  | [] =>
    { s.setWorker thread (.waiting false) with
      needNotify := if s.worker thread = .pop then true else s.needNotify }
  | info :: rest =>
    { s.setWorker thread .popped with
      needNotify := false
      taskData := rest
      held := (thread, info) :: s.held }

/-- The task a thread holds is gone. -/
def release (s : AniManager) (thread : Nat) (phase : WorkerPhase) (task : Nat × Nat) : AniManager :=
  { s.setWorker thread phase with held := s.held.erase task }

/-- The `data` of a thread. -/
def heldBy (s : AniManager) (thread : Nat) : Option (Nat × Nat) :=
  s.held.find? fun task => decide (task.1 = thread)

def sendEventData (s : AniManager) (thread : Nat) (task : Nat × Nat) : AniManager :=
  { s.release thread .sent task with sent := s.sent ++ [task.2] }

def beginWork (s : AniManager) (info : Nat) (called : Bool) : AniManager :=
  { s with
    sent := s.sent.erase info
    running := some info
    g_taskRunning := true
    invocations :=
      if called then Function.update s.invocations info (s.invocations info + 1)
      else s.invocations }

def step (s : AniManager) : AniOp → Option AniManager
  | .insertCallbackInfo id once callback made => some (s.insertCallbackInfo id once callback made)
  | .deleteCallbackInfo id callback found =>
    if found ∈ s.listeners id ∧ (s.infos found).callback = callback then
      some (s.deleteCallbackInfo id found)
    else if (s.listeners id).any fun info => decide ((s.infos info).callback = callback) then none
    else some s
  | .deleteCallbackInfoByEventId id => some (s.deleteCallbackInfoByEventId id)
  | .cleanCallbackInfo emitterId => if emitterId ≠ 0 then some (s.cleanCallbackInfo emitterId) else none
  | .getListenerCount id => some (s.getListenerCountByEventId id).1
  | .doCallback id =>
    if s.aniCallbackInfos = [] ∧ s.pushed = false then some (s.doCallback id) else none
  | .pushTaskData info woken =>
    if info ∈ s.aniCallbackInfos ∧ s.pushed = false ∧ (s.needNotify → s.wakes woken) then
      some (s.pushTaskData info woken)
    else none
  | .startWorker => if s.pushed then some s.startWorker else none
  | .attach thread attached =>
    if s.worker thread = .starting then
      some (s.setWorker thread (if attached then .test else .left))
    else none
  | .testRunning thread =>
    if s.worker thread = .test then
      some (s.setWorker thread (if s.taskRunning then .pop else .left))
    else none
  | .popTaskData thread =>
    if s.worker thread = .pop ∨ s.worker thread = .waiting true ∨ s.worker thread = .waiting false then
      some (s.popTaskData thread)
    else none
  | .newFailed thread =>
    match s.worker thread, s.heldBy thread with
    | .popped, some task => some (s.release thread .left task)
    | _, _ => none
  | .sendEventData thread =>
    match s.worker thread, s.heldBy thread with
    | .popped, some task => some (s.sendEventData thread task)
    | _, _ => none
  | .awaitTask thread =>
    if (s.worker thread = .sent ∨ s.worker thread = .awaiting) ∧ s.running = none then
      some (s.setWorker thread (if s.g_taskRunning then .test else .awaiting))
    else none
  | .beginWork info called =>
    if info ∈ s.sent ∧ s.running = none then some (s.beginWork info called) else none
  | .endWork => if s.running.isSome then some { s with running := none } else none

end AniManager

/-- No listener was ever created, and no thread started. -/
def aniSystem : System AniManager AniOp where
  init :=
    { infos := fun _ =>
        { once := false, isDeleted := false, callback := 0, eventId := .u32 0, emitterId := 0 }
      created := 0
      aniAsyncCallbackContainer := []
      aniCallbackInfos := []
      pushed := false
      taskData := []
      needNotify := false
      taskRunning := false
      threads := 0
      worker := fun _ => .absent
      held := []
      sent := []
      running := none
      g_taskRunning := false
      invocations := fun _ => 0
      removed := fun _ => false }
  step := AniManager.step

namespace AniManager

/-! ## The container as sets -/

variable {s t : AniManager}

theorem find_assign (s : AniManager) (id : CompositeEventId) (infos : List Nat)
    (id' : CompositeEventId) :
    (s.assign id infos).find id' = if id' = id then some infos else s.find id' :=
  OrderedMap.find_assign CompositeEventId.separates_lt

theorem listeners_assign (s : AniManager) (id : CompositeEventId) (infos : List Nat)
    (id' : CompositeEventId) :
    (s.assign id infos).listeners id' = if id' = id then infos else s.listeners id' := by
  unfold listeners
  rw [find_assign]
  split <;> rfl

theorem listeners_insert (s : AniManager) (id : CompositeEventId) (once : Bool) (callback : Nat)
    (id' : CompositeEventId) :
    (s.insert id once callback).listeners id' =
      if id' = id then s.listeners id ++ [s.created] else s.listeners id' :=
  listeners_assign s id _ id'

theorem listeners_deleteCallbackInfo (s : AniManager) (id : CompositeEventId) (found : Nat)
    (id' : CompositeEventId) :
    (s.deleteCallbackInfo id found).listeners id' =
      if id' = id then (s.listeners id).erase found else s.listeners id' :=
  listeners_assign (s.markDeleted fun info => info == found) id _ id'

theorem listeners_deleteCallbackInfoByEventId (s : AniManager) (id id' : CompositeEventId) :
    (s.deleteCallbackInfoByEventId id).listeners id' = if id' = id then [] else s.listeners id' := by
  have hfind : (s.deleteCallbackInfoByEventId id).find id' =
      if id' = id then none else s.find id' :=
    OrderedMap.find_erase CompositeEventId.separates_lt
  unfold listeners
  rw [hfind]
  split <;> rfl

theorem listeners_cleanCallbackInfo (s : AniManager) (emitterId : Nat) (id : CompositeEventId) :
    (s.cleanCallbackInfo emitterId).listeners id =
      if id.emitterId = emitterId then [] else s.listeners id := by
  have hfind : (s.cleanCallbackInfo emitterId).find id =
      if decide (id.emitterId = emitterId) then none else s.find id :=
    OrderedMap.find_eraseIf CompositeEventId.separates_lt
      fun id : CompositeEventId => decide (id.emitterId = emitterId)
  unfold listeners
  rw [hfind]
  by_cases h : id.emitterId = emitterId <;> simp [h]

theorem listeners_prune (s : AniManager) (id id' : CompositeEventId) :
    (s.prune id).listeners id' =
      if id' = id then (s.listeners id).filter fun info => !(s.infos info).isDeleted
      else s.listeners id' := by
  unfold prune
  split
  · rename_i infos hf
    rw [listeners_assign]
    unfold listeners
    rw [hf]
    rfl
  · rename_i hf
    split
    · rename_i he
      subst he
      simp [listeners, hf]
    · rfl

/-! ## What the container operations leave alone -/

/-- Nothing is dispatched, and no thread moves. -/
structure Frame (s t : AniManager) : Prop where
  aniCallbackInfos : t.aniCallbackInfos = s.aniCallbackInfos
  pushed : t.pushed = s.pushed
  taskData : t.taskData = s.taskData
  needNotify : t.needNotify = s.needNotify
  threads : t.threads = s.threads
  worker : t.worker = s.worker
  held : t.held = s.held
  sent : t.sent = s.sent
  running : t.running = s.running
  g_taskRunning : t.g_taskRunning = s.g_taskRunning
  invocations : t.invocations = s.invocations

theorem Frame.refl (s : AniManager) : Frame s s :=
  ⟨rfl, rfl, rfl, rfl, rfl, rfl, rfl, rfl, rfl, rfl, rfl⟩

theorem frame_insertCallbackInfo (s : AniManager) (id : CompositeEventId) (once : Bool)
    (callback : Nat) (made : Bool) : Frame s (s.insertCallbackInfo id once callback made) := by
  unfold insertCallbackInfo
  split
  · exact ⟨rfl, rfl, rfl, rfl, rfl, rfl, rfl, rfl, rfl, rfl, rfl⟩
  · split
    · exact ⟨rfl, rfl, rfl, rfl, rfl, rfl, rfl, rfl, rfl, rfl, rfl⟩
    · exact .refl s

theorem frame_deleteCallbackInfo (s : AniManager) (id : CompositeEventId) (found : Nat) :
    Frame s (s.deleteCallbackInfo id found) :=
  ⟨rfl, rfl, rfl, rfl, rfl, rfl, rfl, rfl, rfl, rfl, rfl⟩

theorem frame_deleteCallbackInfoByEventId (s : AniManager) (id : CompositeEventId) :
    Frame s (s.deleteCallbackInfoByEventId id) :=
  ⟨rfl, rfl, rfl, rfl, rfl, rfl, rfl, rfl, rfl, rfl, rfl⟩

theorem frame_cleanCallbackInfo (s : AniManager) (emitterId : Nat) :
    Frame s (s.cleanCallbackInfo emitterId) :=
  ⟨rfl, rfl, rfl, rfl, rfl, rfl, rfl, rfl, rfl, rfl, rfl⟩

theorem frame_prune (s : AniManager) (id : CompositeEventId) : Frame s (s.prune id) := by
  unfold prune
  split
  · exact ⟨rfl, rfl, rfl, rfl, rfl, rfl, rfl, rfl, rfl, rfl, rfl⟩
  · exact .refl s

theorem taskRunning_prune (s : AniManager) (id : CompositeEventId) :
    (s.prune id).taskRunning = s.taskRunning := by
  unfold prune
  split <;> rfl

theorem taskRunning_insertCallbackInfo (s : AniManager) (id : CompositeEventId) (once : Bool)
    (callback : Nat) (made : Bool) :
    (s.insertCallbackInfo id once callback made).taskRunning = s.taskRunning := by
  unfold insertCallbackInfo
  split
  · rfl
  · split <;> rfl

/-! ## What the container operations do -/

/-- Listeners may be marked and leave their sets, and nothing else happens to them. -/
structure Retires (s t : AniManager) : Prop where
  frame : Frame s t
  created : t.created = s.created
  once : ∀ info, (t.infos info).once = (s.infos info).once
  compositeId : ∀ info, (t.infos info).compositeId = (s.infos info).compositeId
  isDeleted : ∀ info, (s.infos info).isDeleted = true → (t.infos info).isDeleted = true
  listeners : ∀ id, (t.listeners id).Sublist (s.listeners id)

theorem Retires.refl (s : AniManager) : Retires s s :=
  ⟨.refl s, rfl, fun _ => rfl, fun _ => rfl, fun _ h => h, fun _ => .refl _⟩

theorem markDeleted_infos (s : AniManager) (p : Nat → Bool) (info : Nat) :
    ((s.markDeleted p).infos info).once = (s.infos info).once ∧
      ((s.markDeleted p).infos info).compositeId = (s.infos info).compositeId ∧
      ((s.markDeleted p).infos info).isDeleted = ((s.infos info).isDeleted || p info) := by
  unfold markDeleted
  dsimp only
  split
  · rename_i h
    simp [h, AniAsyncCallbackInfo.compositeId]
  · rename_i h
    simp [h]

/-- An operation that marks the listeners that pass a test, and shortens sets. -/
theorem retires_of_marked {p : Nat → Bool} (hframe : Frame s t)
    (hcreated : t.created = s.created) (hinfos : t.infos = (s.markDeleted p).infos)
    (hlisteners : ∀ id, (t.listeners id).Sublist (s.listeners id)) : Retires s t := by
  refine ⟨hframe, hcreated, ?_, ?_, ?_, hlisteners⟩
  · intro info
    rw [hinfos]
    exact (markDeleted_infos s p info).1
  · intro info
    rw [hinfos]
    exact (markDeleted_infos s p info).2.1
  · intro info hd
    rw [hinfos, (markDeleted_infos s p info).2.2, hd]
    rfl

theorem retires_deleteCallbackInfo (s : AniManager) (id : CompositeEventId) (found : Nat) :
    Retires s (s.deleteCallbackInfo id found) := by
  refine retires_of_marked (frame_deleteCallbackInfo s id found) rfl rfl ?_
  intro id'
  rw [listeners_deleteCallbackInfo]
  split
  · rename_i h
    rw [h]
    exact List.erase_sublist
  · exact .refl _

theorem retires_deleteCallbackInfoByEventId (s : AniManager) (id : CompositeEventId) :
    Retires s (s.deleteCallbackInfoByEventId id) := by
  refine retires_of_marked (frame_deleteCallbackInfoByEventId s id) rfl rfl ?_
  intro id'
  rw [listeners_deleteCallbackInfoByEventId]
  split
  · exact List.nil_sublist _
  · exact .refl _

theorem retires_cleanCallbackInfo (s : AniManager) (emitterId : Nat) :
    Retires s (s.cleanCallbackInfo emitterId) := by
  refine retires_of_marked (frame_cleanCallbackInfo s emitterId) rfl rfl ?_
  intro id
  rw [listeners_cleanCallbackInfo]
  split
  · exact List.nil_sublist _
  · exact .refl _

theorem infos_prune (s : AniManager) (id : CompositeEventId) : (s.prune id).infos = s.infos := by
  unfold prune
  split <;> rfl

theorem removed_prune (s : AniManager) (id : CompositeEventId) :
    (s.prune id).removed = s.removed := by
  unfold prune
  split <;> rfl

theorem retires_prune (s : AniManager) (id : CompositeEventId) : Retires s (s.prune id) := by
  have hcreated : (s.prune id).created = s.created := by
    unfold prune
    split <;> rfl
  refine ⟨frame_prune s id, hcreated, ?_, ?_, ?_, ?_⟩
  · intro info
    rw [infos_prune]
  · intro info
    rw [infos_prune]
  · intro info hd
    rw [infos_prune]
    exact hd
  · intro id'
    rw [listeners_prune]
    split
    · rename_i h
      rw [h]
      exact List.filter_sublist
    · exact .refl _

/-- What an operation of the container does, one case for each kind of change. -/
inductive ContainerEffect (s : AniManager) : AniManager → Prop
  | updated (id : CompositeEventId) (info : Nat) (once : Bool) (hm : info ∈ s.listeners id)
      (hd : (s.infos info).isDeleted = false) : ContainerEffect s (s.updateOnce info once)
  | inserted (id : CompositeEventId) (once : Bool) (callback : Nat) :
      ContainerEffect s (s.insert id once callback)
  | retired (t : AniManager) (h : Retires s t) : ContainerEffect s t

theorem insertCallbackInfo_effect (s : AniManager) (id : CompositeEventId) (once : Bool)
    (callback : Nat) (made : Bool) :
    ContainerEffect s (s.insertCallbackInfo id once callback made) := by
  unfold insertCallbackInfo
  split
  · rename_i info hf
    have hp := List.find?_some hf
    refine .updated id info once (List.mem_of_find?_eq_some hf) ?_
    simp only [Bool.and_eq_true, Bool.not_eq_true'] at hp
    exact hp.1
  · split
    · exact .inserted id once callback
    · exact .retired s (.refl s)

theorem infos_updateOnce (s : AniManager) (info : Nat) (once : Bool) (i : Nat) :
    ((s.updateOnce info once).infos i).compositeId = (s.infos i).compositeId ∧
      ((s.updateOnce info once).infos i).isDeleted = (s.infos i).isDeleted := by
  unfold updateOnce
  by_cases hi : i = info
  · subst hi
    simp [AniAsyncCallbackInfo.compositeId]
  · simp [hi]

/-- The listeners that were there are not changed by a new one. -/
theorem infos_insert {i : Nat} (h : i ≠ s.created) (id : CompositeEventId) (once : Bool)
    (callback : Nat) : (s.insert id once callback).infos i = s.infos i :=
  Function.update_of_ne h _ _

/-- What a step does that no ANI function makes. -/
inductive WorkerEffect (s : AniManager) : AniOp → AniManager → Prop
  | pushed (info woken : Nat) (hm : info ∈ s.aniCallbackInfos) (hp : s.pushed = false)
      (hw : s.needNotify = true → s.wakes woken = true) :
      WorkerEffect s (.pushTaskData info woken) (s.pushTaskData info woken)
  | started (hp : s.pushed = true) : WorkerEffect s .startWorker s.startWorker
  | attached (thread : Nat) (ok : Bool) (hw : s.worker thread = .starting) :
      WorkerEffect s (.attach thread ok) (s.setWorker thread (if ok then .test else .left))
  | tested (thread : Nat) (hw : s.worker thread = .test) :
      WorkerEffect s (.testRunning thread)
        (s.setWorker thread (if s.taskRunning then .pop else .left))
  | popped (thread : Nat)
      (hw : s.worker thread = .pop ∨ s.worker thread = .waiting true ∨
        s.worker thread = .waiting false) :
      WorkerEffect s (.popTaskData thread) (s.popTaskData thread)
  | failed (thread : Nat) (task : Nat × Nat) (hw : s.worker thread = .popped)
      (hheld : s.heldBy thread = some task) :
      WorkerEffect s (.newFailed thread) (s.release thread .left task)
  | sent (thread : Nat) (task : Nat × Nat) (hw : s.worker thread = .popped)
      (hheld : s.heldBy thread = some task) :
      WorkerEffect s (.sendEventData thread) (s.sendEventData thread task)
  | awaited (thread : Nat) (hw : s.worker thread = .sent ∨ s.worker thread = .awaiting)
      (hr : s.running = none) :
      WorkerEffect s (.awaitTask thread)
        (s.setWorker thread (if s.g_taskRunning then .test else .awaiting))
  | began (info : Nat) (called : Bool) (hm : info ∈ s.sent) (hr : s.running = none) :
      WorkerEffect s (.beginWork info called) (s.beginWork info called)
  | ended : WorkerEffect s .endWork { s with running := none }

theorem worker_cases {op : AniOp} (hop : op.internal = true) (hst : s.step op = some t) :
    WorkerEffect s op t := by
  cases op <;> simp only [AniManager.step, Option.ite_none_right_eq_some, Option.some.injEq] at hst
  case pushTaskData info woken =>
    obtain ⟨⟨hm, hp, hw⟩, rfl⟩ := hst
    exact .pushed info woken hm hp hw
  case startWorker =>
    obtain ⟨hp, rfl⟩ := hst
    exact .started hp
  case attach w ok =>
    obtain ⟨hw, rfl⟩ := hst
    exact .attached w ok hw
  case testRunning w =>
    obtain ⟨hw, rfl⟩ := hst
    exact .tested w hw
  case popTaskData w =>
    obtain ⟨hw, rfl⟩ := hst
    exact .popped w hw
  case newFailed w =>
    split at hst
    · rename_i task hw hheld
      cases hst
      exact .failed w task hw hheld
    · cases hst
  case sendEventData w =>
    split at hst
    · rename_i task hw hheld
      cases hst
      exact .sent w task hw hheld
    · cases hst
  case awaitTask w =>
    obtain ⟨⟨hw, hr⟩, rfl⟩ := hst
    exact .awaited w hw hr
  case beginWork info called =>
    obtain ⟨⟨hm, hr⟩, rfl⟩ := hst
    exact .began info called hm hr
  case endWork =>
    obtain ⟨-, rfl⟩ := hst
    exact .ended
  -- the others are made by the ANI functions and the dispatch
  all_goals cases hop

/-- Such a step leaves the container and the keys alone. -/
theorem worker_container {op : AniOp} (he : WorkerEffect s op t) :
    t.created = s.created ∧ t.listeners = s.listeners ∧
      ∀ info, (t.infos info).compositeId = (s.infos info).compositeId := by
  cases he with
  | pushed info woken hm hp hw =>
    exact ⟨rfl, rfl, fun i => (markDeleted_infos s (fun i => i == info && (s.infos i).once) i).2.1⟩
  | started hp =>
    unfold AniManager.startWorker
    split <;> exact ⟨rfl, rfl, fun _ => rfl⟩
  | popped w hw =>
    unfold AniManager.popTaskData
    split <;> exact ⟨rfl, rfl, fun _ => rfl⟩
  | _ => exact ⟨rfl, rfl, fun _ => rfl⟩

/-- An operation on the container keeps the keys of the listeners that were there. -/
theorem effect_compositeId (he : ContainerEffect s t) :
    s.created ≤ t.created ∧
      ∀ info < s.created, (t.infos info).compositeId = (s.infos info).compositeId := by
  cases he with
  | updated id found once hm hd =>
    exact ⟨Nat.le_refl _, fun info _ => (infos_updateOnce s found once info).1⟩
  | inserted id once callback =>
    refine ⟨Nat.le_succ _, ?_⟩
    intro info hlt
    rw [infos_insert (by omega)]
  | retired t hr => exact ⟨hr.created.ge, fun info _ => hr.compositeId info⟩

/-- A step is an operation of the container, a dispatch, or one that no ANI function makes. -/
theorem aniStep_cases {op : AniOp} (hst : s.step op = some t) :
    (Frame s t ∧ ContainerEffect s t) ∨ (∃ id, op = .doCallback id ∧ t = s.doCallback id) ∨
      WorkerEffect s op t := by
  have hstep := hst
  cases op <;> simp only [AniManager.step, Option.ite_none_right_eq_some, Option.some.injEq] at hst
  case insertCallbackInfo id once callback made =>
    subst hst
    exact .inl ⟨frame_insertCallbackInfo s id once callback made,
      insertCallbackInfo_effect s id once callback made⟩
  case deleteCallbackInfo id callback found =>
    left
    split at hst
    · cases hst
      exact ⟨frame_deleteCallbackInfo s id found, .retired _ (retires_deleteCallbackInfo s id found)⟩
    · split at hst
      · cases hst
      · cases hst
        exact ⟨.refl s, .retired s (.refl s)⟩
  case deleteCallbackInfoByEventId id =>
    subst hst
    exact .inl ⟨frame_deleteCallbackInfoByEventId s id,
      .retired _ (retires_deleteCallbackInfoByEventId s id)⟩
  case cleanCallbackInfo emitterId =>
    obtain ⟨-, rfl⟩ := hst
    exact .inl ⟨frame_cleanCallbackInfo s emitterId, .retired _ (retires_cleanCallbackInfo s emitterId)⟩
  case getListenerCount id =>
    subst hst
    exact .inl ⟨frame_prune s id, .retired _ (retires_prune s id)⟩
  case doCallback id =>
    obtain ⟨-, rfl⟩ := hst
    exact .inr (.inl ⟨id, rfl, rfl⟩)
  all_goals exact .inr (.inr (worker_cases rfl hstep))

theorem created_le_step {op : AniOp} (hst : s.step op = some t) : s.created ≤ t.created := by
  rcases aniStep_cases hst with ⟨-, he⟩ | ⟨id, rfl, rfl⟩ | hw
  · exact (effect_compositeId he).1
  · exact (retires_prune s id).created.ge
  · exact (worker_container hw).1.ge

/-! ## The tasks -/

/-- The tasks of a listener whose work function has not begun. -/
def tasksOf (s : AniManager) (info : Nat) : Nat :=
  s.taskData.count info + (s.held.map Prod.snd).count info + s.sent.count info

theorem tasksOf_pos {info : Nat} :
    0 < s.tasksOf info ↔ info ∈ s.taskData ∨ info ∈ s.held.map Prod.snd ∨ info ∈ s.sent := by
  unfold tasksOf
  rw [← List.count_pos_iff, ← List.count_pos_iff, ← List.count_pos_iff]
  omega

/-- A task that leaves the hands of its thread. -/
theorem count_held_erase {held : List (Nat × Nat)} {task : Nat × Nat} (hm : task ∈ held) (info : Nat) :
    (held.map Prod.snd).count info =
      ((held.erase task).map Prod.snd).count info + [task.2].count info := by
  have hp := ((List.perm_cons_erase hm).map Prod.snd).count_eq info
  rw [hp, List.map_cons, List.count_cons, List.count_singleton]

theorem heldBy_mem {thread : Nat} {task : Nat × Nat} (h : s.heldBy thread = some task) :
    task ∈ s.held := List.mem_of_find?_eq_some h

/-- Tasks are handed on, dropped, or become calls. -/
structure TasksMoved (s t : AniManager) : Prop where
  infos : t.infos = s.infos
  created : t.created = s.created
  removed : t.removed = s.removed
  aniCallbackInfos : t.aniCallbackInfos = s.aniCallbackInfos
  fewer : ∀ info, t.tasksOf info ≤ s.tasksOf info
  called : ∀ info, s.invocations info ≤ t.invocations info
  conserved : ∀ info, t.tasksOf info + t.invocations info ≤ s.tasksOf info + s.invocations info

/-- Only a thread has moved. -/
theorem TasksMoved.of_eq (hinfos : t.infos = s.infos) (hcreated : t.created = s.created)
    (hremoved : t.removed = s.removed) (hc : t.aniCallbackInfos = s.aniCallbackInfos)
    (htasks : ∀ info, t.tasksOf info ≤ s.tasksOf info) (hinv : t.invocations = s.invocations) :
    TasksMoved s t := by
  refine ⟨hinfos, hcreated, hremoved, hc, htasks, fun info => by rw [hinv], ?_⟩
  intro info
  rw [hinv]
  exact Nat.add_le_add_right (htasks info) _

theorem tasksMoved_popTaskData (s : AniManager) (thread : Nat) :
    TasksMoved s (s.popTaskData thread) := by
  unfold popTaskData
  split
  · exact .of_eq rfl rfl rfl rfl (fun _ => le_refl _) rfl
  · rename_i i rest htasks
    refine .of_eq rfl rfl rfl rfl ?_ rfl
    intro info
    unfold tasksOf setWorker
    simp only [htasks, List.map_cons, List.count_cons]
    omega

theorem tasksMoved_release {task : Nat × Nat} (hm : task ∈ s.held) (thread : Nat)
    (phase : WorkerPhase) : TasksMoved s (s.release thread phase task) := by
  refine .of_eq rfl rfl rfl rfl ?_ rfl
  intro info
  have hcount := count_held_erase hm info
  unfold tasksOf release setWorker
  simp only
  omega

theorem tasksMoved_sendEventData {task : Nat × Nat} (hm : task ∈ s.held) (thread : Nat) :
    TasksMoved s (s.sendEventData thread task) := by
  refine .of_eq rfl rfl rfl rfl ?_ rfl
  intro info
  have hcount := count_held_erase hm info
  unfold tasksOf sendEventData release setWorker
  simp only [List.count_append]
  omega

theorem tasksMoved_beginWork {i : Nat} (hm : i ∈ s.sent) (called : Bool) :
    TasksMoved s (s.beginWork i called) := by
  have hpos : 0 < s.sent.count i := List.count_pos_iff.2 hm
  refine ⟨rfl, rfl, rfl, rfl, ?_, ?_, ?_⟩
  all_goals
    intro info
    unfold beginWork
    simp only [tasksOf]
    by_cases hi : info = i
    · subst hi
      cases called <;> simp [List.count_erase_self] <;> omega
    · cases called <;> simp [List.count_erase_of_ne hi, hi]

/-- A step that no ANI function makes pushes a task, or moves the tasks on. -/
theorem task_cases {op : AniOp} (he : WorkerEffect s op t) :
    (∃ i woken, op = .pushTaskData i woken ∧ i ∈ s.aniCallbackInfos ∧ t = s.pushTaskData i woken) ∨
      TasksMoved s t := by
  cases he with
  | pushed i woken hm hp hw => exact .inl ⟨i, woken, rfl, hm, rfl⟩
  | started hp =>
    right
    unfold startWorker
    split <;> exact .of_eq rfl rfl rfl rfl (fun _ => le_refl _) rfl
  | popped w hw => exact .inr (tasksMoved_popTaskData s w)
  | failed w task hw hheld => exact .inr (tasksMoved_release (heldBy_mem hheld) w .left)
  | sent w task hw hheld => exact .inr (tasksMoved_sendEventData (heldBy_mem hheld) w)
  | began i called hm hr => exact .inr (tasksMoved_beginWork hm called)
  | _ => exact .inr (.of_eq rfl rfl rfl rfl (fun _ => le_refl _) rfl)

/-! ## Where a listener is -/

/-- A listener is in the set of its own event only, and once; and nothing is known of a listener before
    its creation. -/
structure Placed (s : AniManager) : Prop where
  own : ∀ id info, info ∈ s.listeners id → (s.infos info).compositeId = id
  nodup : ∀ id, (s.listeners id).Nodup
  listeners_lt : ∀ id info, info ∈ s.listeners id → info < s.created
  dispatched_lt : ∀ info ∈ s.aniCallbackInfos, info < s.created
  tasks_lt : ∀ info ∈ s.taskData, info < s.created
  held_lt : ∀ task ∈ s.held, task.2 < s.created
  sent_lt : ∀ info ∈ s.sent, info < s.created

theorem Placed.retires (h : Placed s) (hr : Retires s t) : Placed t where
  own id info hm := (hr.compositeId info).trans (h.own id info ((hr.listeners id).subset hm))
  nodup id := (h.nodup id).sublist (hr.listeners id)
  listeners_lt id info hm := by
    rw [hr.created]
    exact h.listeners_lt id info ((hr.listeners id).subset hm)
  dispatched_lt := by
    rw [hr.frame.aniCallbackInfos, hr.created]
    exact h.dispatched_lt
  tasks_lt := by
    rw [hr.frame.taskData, hr.created]
    exact h.tasks_lt
  held_lt := by
    rw [hr.frame.held, hr.created]
    exact h.held_lt
  sent_lt := by
    rw [hr.frame.sent, hr.created]
    exact h.sent_lt

theorem Placed.updated (h : Placed s) (info : Nat) (once : Bool) :
    Placed (s.updateOnce info once) := by
  refine ⟨?_, h.nodup, h.listeners_lt, h.dispatched_lt, h.tasks_lt, h.held_lt, h.sent_lt⟩
  intro id i hm
  rw [(infos_updateOnce s info once i).1]
  exact h.own id i hm

/-- The new listener is in the set of its id only. -/
theorem mem_listeners_insert {id id' : CompositeEventId} {once : Bool} {callback i : Nat}
    (h : i ∈ (s.insert id once callback).listeners id') :
    i ∈ s.listeners id' ∨ (i = s.created ∧ id' = id) := by
  rw [listeners_insert] at h
  split at h
  · rename_i hid
    subst hid
    simpa using h
  · exact .inl h

theorem Placed.inserted (h : Placed s) (id : CompositeEventId) (once : Bool) (callback : Nat) :
    Placed (s.insert id once callback) := by
  refine ⟨?_, ?_, ?_, ?_, ?_, ?_, ?_⟩
  · intro id' i hm
    rcases mem_listeners_insert hm with hm | ⟨rfl, rfl⟩
    · have hlt := h.listeners_lt id' i hm
      rw [infos_insert (by omega)]
      exact h.own id' i hm
    · simp [insert, AniAsyncCallbackInfo.compositeId]
  · intro id'
    rw [listeners_insert]
    split
    · refine List.nodup_append.2 ⟨h.nodup id, by simp, ?_⟩
      intro a ha b hb
      have hlt := h.listeners_lt id a ha
      have hb : b = s.created := by simpa using hb
      omega
    · exact h.nodup id'
  · intro id' i hm
    have hc : (s.insert id once callback).created = s.created + 1 := rfl
    rcases mem_listeners_insert hm with hm | ⟨rfl, -⟩
    · have hlt := h.listeners_lt id' i hm
      omega
    · omega
  · intro i hm
    exact Nat.lt_succ_of_lt (h.dispatched_lt i hm)
  · intro i hm
    exact Nat.lt_succ_of_lt (h.tasks_lt i hm)
  · intro i hm
    exact Nat.lt_succ_of_lt (h.held_lt i hm)
  · intro i hm
    exact Nat.lt_succ_of_lt (h.sent_lt i hm)

theorem Placed.effect (h : Placed s) (he : ContainerEffect s t) : Placed t := by
  cases he with
  | updated id info once hm hd => exact h.updated info once
  | inserted id once callback => exact h.inserted id once callback
  | retired t hr => exact h.retires hr

/-- The invariant reads nothing of the state but the container, the tasks and their places. -/
theorem Placed.moved (h : Placed s) (hinfos : ∀ info, (t.infos info).compositeId = (s.infos info).compositeId)
    (hcreated : t.created = s.created) (hlisteners : t.listeners = s.listeners)
    (hdispatched : ∀ info ∈ t.aniCallbackInfos, info < s.created)
    (htasks : ∀ info ∈ t.taskData, info < s.created) (hheld : ∀ task ∈ t.held, task.2 < s.created)
    (hsent : ∀ info ∈ t.sent, info < s.created) : Placed t := by
  constructor
  · intro id info hm
    rw [hlisteners] at hm
    rw [hinfos]
    exact h.own id info hm
  · rw [hlisteners]
    exact h.nodup
  · rw [hlisteners, hcreated]
    exact h.listeners_lt
  · rw [hcreated]
    exact hdispatched
  · rw [hcreated]
    exact htasks
  · rw [hcreated]
    exact hheld
  · rw [hcreated]
    exact hsent

theorem Placed.task_lt (h : Placed s) {info : Nat} (hpos : 0 < s.tasksOf info) :
    info < s.created := by
  rcases tasksOf_pos.1 hpos with hm | hm | hm
  · exact h.tasks_lt info hm
  · obtain ⟨task, htask, rfl⟩ := List.mem_map.1 hm
    exact h.held_lt task htask
  · exact h.sent_lt info hm

theorem Placed.pushTaskData (h : Placed s) {info : Nat} (hm : info ∈ s.aniCallbackInfos)
    (woken : Nat) : Placed (s.pushTaskData info woken) := by
  have hinfos : ∀ i, ((s.pushTaskData info woken).infos i).compositeId = (s.infos i).compositeId :=
    fun i => (markDeleted_infos s (fun i => i == info && (s.infos i).once) i).2.1
  refine h.moved hinfos rfl rfl ?_ ?_ h.held_lt h.sent_lt
  · intro i hi
    exact h.dispatched_lt i (List.mem_of_mem_erase hi)
  · intro i hi
    rcases List.mem_append.1 hi with hi | hi
    · exact h.tasks_lt i hi
    · rw [List.mem_singleton.1 hi]
      exact h.dispatched_lt info hm

theorem Placed.worker (h : Placed s) {op : AniOp} (he : WorkerEffect s op t) : Placed t := by
  rcases task_cases he with ⟨i, woken, rfl, hm, rfl⟩ | hmoved
  · exact h.pushTaskData hm woken
  · obtain ⟨hcreated, hlisteners, hid⟩ := worker_container he
    have hlt : ∀ info, 0 < t.tasksOf info → info < s.created :=
      fun info hpos => h.task_lt (Nat.lt_of_lt_of_le hpos (hmoved.fewer info))
    refine h.moved hid hcreated hlisteners ?_ ?_ ?_ ?_
    · rw [hmoved.aniCallbackInfos]
      exact h.dispatched_lt
    · exact fun info hm => hlt info (tasksOf_pos.2 (.inl hm))
    · exact fun task hm => hlt task.2 (tasksOf_pos.2 (.inr (.inl (List.mem_map_of_mem hm))))
    · exact fun info hm => hlt info (tasksOf_pos.2 (.inr (.inr hm)))

theorem placed_step (h : Placed s) {op : AniOp} (hst : s.step op = some t) : Placed t := by
  rcases aniStep_cases hst with ⟨-, he⟩ | ⟨id, rfl, rfl⟩ | hw
  · exact h.effect he
  · have h' := h.retires (retires_prune s id)
    exact ⟨h'.own, h'.nodup, h'.listeners_lt, h'.listeners_lt id, h'.tasks_lt, h'.held_lt, h'.sent_lt⟩
  · exact h.worker hw

theorem placed_init : Placed aniSystem.init :=
  ⟨nofun, fun _ => List.nodup_nil, nofun, nofun, nofun, nofun, nofun⟩

end AniManager

end AppExecFwk
