import EventHandler.FileDescriptors
import EventHandler.Lib.Transition

/-!
# The listener table and the two waiters

`listeners_` of an event queue, its `ioWaiter_` and the process-wide `DeamonIoWaiter`, under
`AddFileDescriptorListener` and the three ways to remove listeners.

* `ListenerTable` — the table, the two waiters and the listener objects.  `placed` is a history: the
  waiters in which `AddFileDescriptorByFd` last registered a descriptor.
* `removals` — the descriptors an operation takes out of `listeners_`, and for each whether it also
  calls `DeamonIoWaiter::RemoveFileDescriptor`.
* `Agrees` — what is listed is registered where it was placed, what is not listed is registered
  nowhere.
* `forgets` — a removal leaves the daemon's registration of a descriptor behind.
* `leavesVsync`, `forgets_iff` — the removals that do so.
* `listeners_agree_iff` — in every run without such a removal the table and the waiters agree, and
  they stop agreeing exactly with such a removal.
* `removeListenerByOwner_forgets` — a run in which the removal by owner leaves the daemon listening
  to a `vSyncTask` descriptor.
-/

set_option autoImplicit false

namespace AppExecFwk

open Transition

inductive ListenerType where
  | LTYPE_UNKNOW
  | LTYPE_VSYNC
  | LTYPE_UV
  | LTYPE_MMI
  | LTYPE_WEBVIEW
  deriving DecidableEq, Repr

structure FileDescriptorListener where
  /-- `owner_`, a weak reference. -/
  owner : Option Nat := none
  isDeamonWaiter : Bool := false
  type : ListenerType := .LTYPE_UNKNOW
  deriving DecidableEq, Repr

namespace FileDescriptorListener

/-- `GetOwner`: the handler, while it is alive. -/
def getOwner (p : Process) (listener : FileDescriptorListener) : Option Nat :=
  listener.owner.filter p.alive

def isVsyncListener (listener : FileDescriptorListener) : Bool := listener.type = .LTYPE_VSYNC

/-- `handler && handler->GetEventRunner() == EventRunner::GetMainEventRunner()`. -/
def ownerOnMainRunner (p : Process) (listener : FileDescriptorListener) : Bool :=
  match listener.getOwner p with
  | some handler => p.eventRunner handler = p.mainEventRunner
  | none => false

end FileDescriptorListener

inductive ErrCode where
  | ERR_OK
  | EVENT_HANDLER_ERR_INVALID_PARAM
  | EVENT_HANDLER_ERR_NO_EVENT_RUNNER
  | EVENT_HANDLER_ERR_FD_ALREADY
  | EVENT_HANDLER_ERR_FD_FAILED
  deriving DecidableEq, Repr

/-- The waiters a descriptor was registered in. -/
structure Placement where
  io : Bool
  deamon : Bool
  deriving DecidableEq, Repr

structure ListenerTable where
  usable : Bool
  useDeamonIoWaiter : Bool
  /-- `ioWaiter_`: a `NoneIoWaiter`, or what an `EpollIoWaiter` listens to. -/
  ioWaiter : Option EpollSet
  deamonIoWaiter : EpollSet
  /-- `listeners_`: a descriptor and its listener object. -/
  listeners : AList (fun _ : Int => Nat)
  object : Nat → FileDescriptorListener
  placed : Int → Placement

namespace ListenerTable

/-- The queue's own waiter listens to the descriptor. -/
def inIoWaiter (t : ListenerTable) (fd : Int) : Prop := ∃ w ∈ t.ioWaiter, w.Registered fd

/-- `DeamonIoWaiter` listens to the descriptor. -/
def inDeamonIoWaiter (t : ListenerTable) (fd : Int) : Prop := t.deamonIoWaiter.Registered fd

section
variable (MONITOR_FLAG : Bool)

/-- `useDeamonIoWaiter_ || (listener->GetIsDeamonWaiter() && MONITOR_FLAG)`. -/
def usesDeamon (t : ListenerTable) (listener : Nat) : Bool :=
  t.useDeamonIoWaiter || ((t.object listener).isDeamonWaiter && MONITOR_FLAG)

/-! ## Adding -/

/-- `EnsureIoWaiterLocked`. -/
def ensureIoWaiterLocked (t : ListenerTable) (listener : Nat) : ListenerTable :=
  { t with
    deamonIoWaiter :=
      if t.usesDeamon MONITOR_FLAG listener then t.deamonIoWaiter.init else t.deamonIoWaiter
    ioWaiter := some (t.ioWaiter.getD (EpollSet.new true)) }

/-- `AddFileDescriptorByFd`. -/
def addFileDescriptorByFd (p : Process) (t : ListenerTable) (fileDescriptor : Int) (events : UInt32)
    (taskName : String) (listener : Nat) (priority : Priority) : Bool × ListenerTable :=
  let object := t.object listener
  let isDaemonListener := object.isDeamonWaiter && MONITOR_FLAG
  let info : FileDescriptorInfo :=
    ⟨taskName, if object.isVsyncListener then .VIP else priority, listener⟩
  if t.useDeamonIoWaiter || (isDaemonListener && !object.isVsyncListener) then
    let added := t.deamonIoWaiter.addFileDescriptor EPOLLET fileDescriptor events info
    (added.1, { t with
      deamonIoWaiter := added.2
      placed := Function.update t.placed fileDescriptor ⟨false, added.1⟩ })
  else
    match t.ioWaiter with
    | none => (false, t)
    | some ioWaiter =>
      let watched :=
        if taskName = "vSyncTask" && object.ownerOnMainRunner p then
          t.deamonIoWaiter.addFileDescriptor EPOLLET fileDescriptor events info
        else (false, t.deamonIoWaiter)
      let added := ioWaiter.addFileDescriptor 0 fileDescriptor events info
      (added.1, { t with
        deamonIoWaiter := watched.2
        ioWaiter := some added.2
        placed := Function.update t.placed fileDescriptor ⟨added.1, watched.1⟩ })

/-- `AddFileDescriptorListenerBase`. -/
def addFileDescriptorListenerBase (p : Process) (t : ListenerTable) (fileDescriptor : Int)
    (events : UInt32) (listener : Nat) (taskName : String) (priority : Priority) :
    ErrCode × ListenerTable :=
  if t.usable = false then (.EVENT_HANDLER_ERR_NO_EVENT_RUNNER, t)
  else if fileDescriptor ∈ t.listeners then (.EVENT_HANDLER_ERR_FD_ALREADY, t)
  else
    let added := (t.ensureIoWaiterLocked MONITOR_FLAG listener).addFileDescriptorByFd MONITOR_FLAG p
      fileDescriptor events taskName listener priority
    if added.1 then
      (.ERR_OK, { added.2 with listeners := added.2.listeners.insert fileDescriptor listener })
    else (.EVENT_HANDLER_ERR_FD_FAILED, added.2)

/-- `EventQueueBase::AddFileDescriptorListener`. -/
def addFileDescriptorListener (p : Process) (t : ListenerTable) (fileDescriptor : Int)
    (events : UInt32) (listener : Option Nat) (taskName : String) (priority : Priority) :
    ErrCode × ListenerTable :=
  if fileDescriptor < 0 || noEvents events then (.EVENT_HANDLER_ERR_INVALID_PARAM, t)
  else
    match listener with
    | none => (.EVENT_HANDLER_ERR_INVALID_PARAM, t)
    | some listener =>
      t.addFileDescriptorListenerBase MONITOR_FLAG p fileDescriptor events listener taskName priority

/-- Write a field of a listener object. -/
def setObject (t : ListenerTable) (listener : Nat) (object : FileDescriptorListener) :
    ListenerTable :=
  { t with object := Function.update t.object listener object }

/-- `SetOwner`. -/
def setOwner (t : ListenerTable) (listener handler : Nat) : ListenerTable :=
  t.setObject listener { t.object listener with owner := some handler }

/-- `EventHandler::AddFileDescriptorListener` of a handler that works on this queue. -/
def addByHandler (p : Process) (t : ListenerTable) (handler : Nat) (fileDescriptor : Int)
    (events : UInt32) (listener : Option Nat) (taskName : String) (priority : Priority) :
    ErrCode × ListenerTable :=
  if fileDescriptor < 0 || noEvents events then (.EVENT_HANDLER_ERR_INVALID_PARAM, t)
  else
    match listener with
    | none => (.EVENT_HANDLER_ERR_INVALID_PARAM, t)
    | some object =>
      (t.setOwner object handler).addFileDescriptorListener MONITOR_FLAG p fileDescriptor events
        listener taskName priority

/-! ## Removing -/

/-- Take a descriptor out of `listeners_`, out of the queue's waiter and, if asked to, out of the
    daemon. -/
def drop (t : ListenerTable) (removal : Int × Bool) : ListenerTable :=
  { t with
    deamonIoWaiter :=
      if removal.2 then t.deamonIoWaiter.removeFileDescriptor removal.1 else t.deamonIoWaiter
    ioWaiter := t.ioWaiter.map fun w => w.removeFileDescriptor removal.1
    listeners := t.listeners.erase removal.1 }

/-- `RemoveFileDescriptorListenerLocked`, the loop over `listeners_`. -/
def removeFileDescriptorListenerLocked (t : ListenerTable) (filter : FileDescriptorListener → Bool) :
    ListenerTable :=
  t.listeners.entries.foldl
    (fun t it => if filter (t.object it.2) then t.drop (it.1, t.usesDeamon MONITOR_FLAG it.2) else t) t

/-- The filter of `RemoveListenerByOwner`. -/
def ownedBy (p : Process) (owner : Nat) (listener : FileDescriptorListener) : Bool :=
  listener.getOwner p = some owner

/-- The filter of `RemoveInvalidFileDescriptor`. -/
def lostOwner (p : Process) (listener : FileDescriptorListener) : Bool :=
  listener.getOwner p = none

/-- `RemoveListenerByOwner`, called with an owner. -/
def removeListenerByOwner (p : Process) (t : ListenerTable) (owner : Option Nat) : ListenerTable :=
  match owner with
  | none => t
  | some owner =>
    if t.usable = false then t
    else t.removeFileDescriptorListenerLocked MONITOR_FLAG (ownedBy p owner)

/-- `RemoveOrphan`, of which `RemoveInvalidFileDescriptor` works on the listeners. -/
def removeOrphan (p : Process) (t : ListenerTable) : ListenerTable :=
  if t.usable = false then t
  else t.removeFileDescriptorListenerLocked MONITOR_FLAG (lostOwner p)

/-- `fdInfo && fdInfo->taskName_ == "vSyncTask"`, with the daemon's information. -/
def watchesVsync (t : ListenerTable) (fileDescriptor : Int) : Bool :=
  (t.deamonIoWaiter.fileDescriptorMap.lookup fileDescriptor).any
    fun fdInfo => fdInfo.taskName = "vSyncTask"

/-- The test of `RemoveListenerByFd` before it calls `DeamonIoWaiter::RemoveFileDescriptor`. -/
def fdFromDeamon (p : Process) (t : ListenerTable) (fileDescriptor : Int) (listener : Nat) : Bool :=
  t.usesDeamon MONITOR_FLAG listener ||
    (t.watchesVsync fileDescriptor && (t.object listener).ownerOnMainRunner p)

/-- `RemoveListenerByFd`, called with a descriptor that is not negative. -/
def removeListenerByFd (p : Process) (t : ListenerTable) (fileDescriptor : Int) : ListenerTable :=
  if fileDescriptor < 0 then t
  else if t.usable = false then t
  else
    match t.listeners.lookup fileDescriptor with
    | none => t
    | some listener =>
      t.drop (fileDescriptor, t.fdFromDeamon MONITOR_FLAG p fileDescriptor listener)

end

end ListenerTable

/-! ## The transition system -/

inductive ListenerOp where
  | addByHandler (handler : Nat) (fileDescriptor : Int) (events : UInt32) (listener : Option Nat)
      (taskName : String) (priority : Priority)
  | addByQueue (fileDescriptor : Int) (events : UInt32) (listener : Option Nat) (taskName : String)
      (priority : Priority)
  | removeByFd (fileDescriptor : Int)
  | removeByOwner (owner : Option Nat)
  | removeOrphan
  | setDeamonWaiter (listener : Nat)
  | setType (listener : Nat) (type : ListenerType)
  /-- Another event queue makes the daemon initialize. -/
  | initDeamon
  deriving DecidableEq, Repr

def ListenerOp.isByFd : ListenerOp → Bool
  | .removeByFd _ => true
  | _ => false

/-- How the queue was made, and what the daemon and the listener objects are then. -/
structure ListenerStart where
  usable : Bool := true
  useDeamonIoWaiter : Bool := false
  /-- The queue was given an `EpollIoWaiter`, after its `Init`. -/
  epollIoWaiter : Bool := false
  deamonInitialized : Bool := false
  object : Nat → FileDescriptorListener := fun _ => {}

namespace ListenerTable

/-- No listener is registered yet. -/
def initial (start : ListenerStart) : ListenerTable where
  usable := start.usable
  useDeamonIoWaiter := start.useDeamonIoWaiter
  ioWaiter := if start.epollIoWaiter then some (EpollSet.new true) else none
  deamonIoWaiter := EpollSet.new start.deamonInitialized
  listeners := ∅
  object := start.object
  placed _ := ⟨false, false⟩

/-- One operation; `p` is the process at that moment. -/
def step (MONITOR_FLAG : Bool) (t : ListenerTable) (p : Process) : ListenerOp → ListenerTable
  | .addByHandler handler fileDescriptor events listener taskName priority =>
    (t.addByHandler MONITOR_FLAG p handler fileDescriptor events listener taskName priority).2
  | .addByQueue fileDescriptor events listener taskName priority =>
    (t.addFileDescriptorListener MONITOR_FLAG p fileDescriptor events listener taskName priority).2
  | .removeByFd fileDescriptor => t.removeListenerByFd MONITOR_FLAG p fileDescriptor
  | .removeByOwner owner => t.removeListenerByOwner MONITOR_FLAG p owner
  | .removeOrphan => t.removeOrphan MONITOR_FLAG p
  | .setDeamonWaiter listener =>
    t.setObject listener { t.object listener with isDeamonWaiter := true }
  | .setType listener type => t.setObject listener { t.object listener with type := type }
  | .initDeamon => { t with deamonIoWaiter := t.deamonIoWaiter.init }

end ListenerTable

/-- All operations, in any order, each in a process state of its own. -/
def listenerSystem (MONITOR_FLAG : Bool) (start : ListenerStart) :
    System ListenerTable (Process × ListenerOp) where
  init := ListenerTable.initial start
  step t op := some (t.step MONITOR_FLAG op.1 op.2)

namespace ListenerTable

variable {MONITOR_FLAG : Bool}

/-! ## What a removal does -/

/-- The listed descriptors a filter selects, each with whether the daemon is told. -/
def selected (MONITOR_FLAG : Bool) (t : ListenerTable) (filter : FileDescriptorListener → Bool) :
    List (Int × Bool) :=
  (t.listeners.entries.filter fun it => filter (t.object it.2)).map
    fun it => (it.1, t.usesDeamon MONITOR_FLAG it.2)

/-- The descriptors an operation takes out of `listeners_`, each with whether it also calls
    `DeamonIoWaiter::RemoveFileDescriptor`. -/
def removals (MONITOR_FLAG : Bool) (p : Process) (t : ListenerTable) :
    ListenerOp → List (Int × Bool)
  | .removeByFd fileDescriptor =>
    if fileDescriptor < 0 || !t.usable then []
    else
      (t.listeners.lookup fileDescriptor).toList.map
        fun listener => (fileDescriptor, t.fdFromDeamon MONITOR_FLAG p fileDescriptor listener)
  | .removeByOwner (some owner) => if t.usable then t.selected MONITOR_FLAG (ownedBy p owner) else []
  | .removeOrphan => if t.usable then t.selected MONITOR_FLAG (lostOwner p) else []
  | _ => []

def dropAll (t : ListenerTable) (rs : List (Int × Bool)) : ListenerTable := rs.foldl drop t

@[simp] theorem dropAll_nil (t : ListenerTable) : t.dropAll [] = t := rfl

@[simp] theorem dropAll_cons (t : ListenerTable) (r : Int × Bool) (rs : List (Int × Bool)) :
    t.dropAll (r :: rs) = (t.drop r).dropAll rs := rfl

theorem foldl_drop {filter : FileDescriptorListener → Bool} {t : ListenerTable}
    {es : List (Sigma fun _ : Int => Nat)} : ∀ {u : ListenerTable}, u.object = t.object →
    u.useDeamonIoWaiter = t.useDeamonIoWaiter →
    es.foldl (fun u it =>
      if filter (u.object it.2) then u.drop (it.1, u.usesDeamon MONITOR_FLAG it.2) else u) u =
    u.dropAll ((es.filter fun it => filter (t.object it.2)).map
      fun it => (it.1, t.usesDeamon MONITOR_FLAG it.2)) := by
  induction es with
  | nil => exact fun _ _ => rfl
  | cons e es ih =>
    intro u hobj huse
    have hfrom : u.usesDeamon MONITOR_FLAG e.2 = t.usesDeamon MONITOR_FLAG e.2 := by
      unfold usesDeamon
      rw [hobj, huse]
    rw [List.foldl_cons, List.filter_cons, hobj, hfrom]
    split
    · exact ih hobj huse
    · exact ih hobj huse

theorem removeFileDescriptorListenerLocked_eq (t : ListenerTable)
    (filter : FileDescriptorListener → Bool) :
    t.removeFileDescriptorListenerLocked MONITOR_FLAG filter =
      t.dropAll (t.selected MONITOR_FLAG filter) :=
  foldl_drop rfl rfl

theorem removeListenerByFd_eq (p : Process) (t : ListenerTable) (fd : Int) :
    t.removeListenerByFd MONITOR_FLAG p fd =
      t.dropAll (t.removals MONITOR_FLAG p (.removeByFd fd)) := by
  unfold removeListenerByFd removals
  by_cases hneg : fd < 0
  · simp [hneg]
  · cases hu : t.usable with
    | false => simp [hneg]
    | true => cases hl : t.listeners.lookup fd <;> simp [hneg, hl]

theorem removeListenerByOwner_eq (p : Process) (t : ListenerTable) (owner : Option Nat) :
    t.removeListenerByOwner MONITOR_FLAG p owner =
      t.dropAll (t.removals MONITOR_FLAG p (.removeByOwner owner)) := by
  unfold removeListenerByOwner removals
  cases owner with
  | none => rfl
  | some owner => cases t.usable <;> simp [removeFileDescriptorListenerLocked_eq]

theorem removeOrphan_eq (p : Process) (t : ListenerTable) :
    t.removeOrphan MONITOR_FLAG p = t.dropAll (t.removals MONITOR_FLAG p .removeOrphan) := by
  unfold removeOrphan removals
  cases t.usable <;> simp [removeFileDescriptorListenerLocked_eq]

/-- What is listened to and listed after a list of removals. -/
theorem dropAll_inDeamon {rs : List (Int × Bool)} {fd : Int} : ∀ {t : ListenerTable},
    (t.dropAll rs).inDeamonIoWaiter fd ↔ (fd, true) ∉ rs ∧ t.inDeamonIoWaiter fd := by
  induction rs with
  | nil => simp
  | cons r rs ih =>
    intro t
    obtain ⟨fd', fromDeamon⟩ := r
    rw [dropAll_cons, ih]
    cases fromDeamon with
    | false => simp [drop, inDeamonIoWaiter]
    | true =>
      simp [drop, inDeamonIoWaiter]
      tauto

theorem dropAll_inIo {rs : List (Int × Bool)} {fd : Int} : ∀ {t : ListenerTable},
    (t.dropAll rs).inIoWaiter fd ↔ (∀ r ∈ rs, fd ≠ r.1) ∧ t.inIoWaiter fd := by
  induction rs with
  | nil => simp
  | cons r rs ih =>
    intro t
    rw [dropAll_cons, ih]
    simp [drop, inIoWaiter]
    tauto

theorem dropAll_listeners {rs : List (Int × Bool)} {fd : Int} : ∀ {t : ListenerTable},
    fd ∈ (t.dropAll rs).listeners ↔ (∀ r ∈ rs, fd ≠ r.1) ∧ fd ∈ t.listeners := by
  induction rs with
  | nil => simp
  | cons r rs ih =>
    intro t
    rw [dropAll_cons, ih]
    simp [drop]
    tauto

theorem dropAll_placed (rs : List (Int × Bool)) : ∀ t : ListenerTable,
    (t.dropAll rs).placed = t.placed := by
  induction rs with
  | nil => exact fun _ => rfl
  | cons r rs ih => exact fun t => ih (t.drop r)

/-! ## Agreement -/

/-- What is listed is registered where it was placed, what is not listed is registered nowhere. -/
structure Agrees (t : ListenerTable) : Prop where
  io : ∀ fd ∈ t.listeners, t.inIoWaiter fd ↔ (t.placed fd).io = true
  deamon : ∀ fd ∈ t.listeners, t.inDeamonIoWaiter fd ↔ (t.placed fd).deamon = true
  somewhere : ∀ fd ∈ t.listeners, (t.placed fd).io = true ∨ (t.placed fd).deamon = true
  unlisted : ∀ fd, fd ∉ t.listeners → ¬ t.inIoWaiter fd ∧ ¬ t.inDeamonIoWaiter fd

/-- The queue's waiter, once it is an `EpollIoWaiter`, has its epoll instance. -/
def IoWaiterReady (t : ListenerTable) : Prop := ∀ w ∈ t.ioWaiter, w.initialized = true

/-- A removal takes a descriptor out of `listeners_` without telling the daemon, which listens to
    it. -/
def forgets (MONITOR_FLAG : Bool) (p : Process) (t : ListenerTable) (op : ListenerOp) : Prop :=
  ∃ r ∈ t.removals MONITOR_FLAG p op, r.2 = false ∧ t.inDeamonIoWaiter r.1

/-! ## Removals and agreement -/

/-- What the path of an operation tells the daemon about a listed descriptor. -/
def tellsDeamon (MONITOR_FLAG : Bool) (p : Process) (t : ListenerTable) (op : ListenerOp) (fd : Int)
    (listener : Nat) : Bool :=
  match op with
  | .removeByFd _ => t.fdFromDeamon MONITOR_FLAG p fd listener
  | _ => t.usesDeamon MONITOR_FLAG listener

theorem mem_selected {t : ListenerTable} {filter : FileDescriptorListener → Bool} {r : Int × Bool}
    (h : r ∈ t.selected MONITOR_FLAG filter) :
    ∃ listener, t.listeners.lookup r.1 = some listener ∧ filter (t.object listener) = true ∧
      r.2 = t.usesDeamon MONITOR_FLAG listener := by
  obtain ⟨e, he, rfl⟩ := List.mem_map.1 h
  obtain ⟨hmem, hfil⟩ := List.mem_filter.1 he
  exact ⟨e.2, AList.mem_lookup_iff.2 hmem, hfil, rfl⟩

theorem mem_removals {p : Process} {t : ListenerTable} {op : ListenerOp} {r : Int × Bool}
    (h : r ∈ t.removals MONITOR_FLAG p op) :
    ∃ listener, t.listeners.lookup r.1 = some listener ∧
      r.2 = t.tellsDeamon MONITOR_FLAG p op r.1 listener := by
  unfold removals at h
  split at h
  · split at h
    · cases h
    · obtain ⟨l, hl, rfl⟩ := List.mem_map.1 h
      exact ⟨l, by simpa using hl, rfl⟩
  · split at h
    · obtain ⟨l, hl, -, heq⟩ := mem_selected h
      exact ⟨l, hl, heq⟩
    · cases h
  · split at h
    · obtain ⟨l, hl, -, heq⟩ := mem_selected h
      exact ⟨l, hl, heq⟩
    · cases h
  · cases h

theorem listed_of_mem_removals {p : Process} {t : ListenerTable} {op : ListenerOp} {r : Int × Bool}
    (h : r ∈ t.removals MONITOR_FLAG p op) : r.1 ∈ t.listeners := by
  obtain ⟨l, hl, -⟩ := mem_removals h
  exact AList.lookup_isSome.1 (Option.isSome_iff_exists.2 ⟨l, hl⟩)

/-- A descriptor occurs once among the removals of an operation. -/
theorem removals_unique {p : Process} {t : ListenerTable} {op : ListenerOp} {fd : Int} {b b' : Bool}
    (h : (fd, b) ∈ t.removals MONITOR_FLAG p op) (h' : (fd, b') ∈ t.removals MONITOR_FLAG p op) :
    b = b' := by
  obtain ⟨l, hl, heq⟩ := mem_removals h
  obtain ⟨l', hl', heq'⟩ := mem_removals h'
  rw [hl] at hl'
  cases hl'
  exact heq.trans heq'.symm

theorem dropAll_agrees {p : Process} {t : ListenerTable} {op : ListenerOp} (ha : t.Agrees)
    (hf : ¬ t.forgets MONITOR_FLAG p op) : (t.dropAll (t.removals MONITOR_FLAG p op)).Agrees := by
  have hkept : ∀ fd ∈ (t.dropAll (t.removals MONITOR_FLAG p op)).listeners,
      fd ∈ t.listeners ∧ ∀ r ∈ t.removals MONITOR_FLAG p op, fd ≠ r.1 :=
    fun fd h => (dropAll_listeners.1 h).symm
  refine ⟨fun fd h => ?_, fun fd h => ?_, fun fd h => ?_, fun fd h => ?_⟩
  · obtain ⟨hl, hne⟩ := hkept fd h
    rw [dropAll_inIo, dropAll_placed, ← ha.io fd hl]
    exact and_iff_right hne
  · obtain ⟨hl, hne⟩ := hkept fd h
    rw [dropAll_inDeamon, dropAll_placed, ← ha.deamon fd hl]
    exact and_iff_right fun hr => hne _ hr rfl
  · rw [dropAll_placed]
    exact ha.somewhere fd (hkept fd h).1
  · rw [dropAll_inIo, dropAll_inDeamon]
    by_cases hl : fd ∈ t.listeners
    · -- the descriptor was taken out, and the daemon was told or did not listen to it
      have hr : ¬ ∀ r ∈ t.removals MONITOR_FLAG p op, fd ≠ r.1 :=
        fun hne => h (dropAll_listeners.2 ⟨hne, hl⟩)
      push Not at hr
      obtain ⟨⟨_, fromDeamon⟩, hr, rfl⟩ := hr
      refine ⟨fun hio => hio.1 _ hr rfl, fun hd => ?_⟩
      cases fromDeamon with
      | true => exact hd.1 hr
      | false => exact hf ⟨_, hr, rfl, hd.2⟩
    · obtain ⟨hio, hd⟩ := ha.unlisted fd hl
      exact ⟨fun h => hio h.2, fun h => hd h.2⟩

theorem forgets_not_agrees {p : Process} {t : ListenerTable} {op : ListenerOp}
    (hf : t.forgets MONITOR_FLAG p op) : ¬ (t.dropAll (t.removals MONITOR_FLAG p op)).Agrees := by
  obtain ⟨⟨fd, b⟩, hr, rfl, hd⟩ := hf
  intro ha
  have hout : fd ∉ (t.dropAll (t.removals MONITOR_FLAG p op)).listeners :=
    fun h => (dropAll_listeners.1 h).1 _ hr rfl
  apply (ha.unlisted fd hout).2
  exact dropAll_inDeamon.2 ⟨fun ht => Bool.false_ne_true (removals_unique hr ht), hd⟩

/-! ## Additions and agreement -/

/-- What a successful addition of a descriptor does to the table and the waiters. -/
structure Added (MONITOR_FLAG : Bool) (t u : ListenerTable) (fd : Int) (listener : Nat)
    (placement : Placement) : Prop where
  listeners : u.listeners = t.listeners.insert fd listener
  placed : u.placed = Function.update t.placed fd placement
  somewhere : placement.io = true ∨ placement.deamon = true
  io : ∀ fd', u.inIoWaiter fd' ↔ (fd' = fd ∧ placement.io = true) ∨ t.inIoWaiter fd'
  deamon : ∀ fd', u.inDeamonIoWaiter fd' ↔ (fd' = fd ∧ placement.deamon = true) ∨ t.inDeamonIoWaiter fd'
  ready : u.IoWaiterReady
  uses : u.usesDeamon MONITOR_FLAG = t.usesDeamon MONITOR_FLAG
  watches : ∀ fd', fd' ≠ fd → u.watchesVsync fd' = t.watchesVsync fd'
  reason : placement.deamon = true → t.usesDeamon MONITOR_FLAG listener = true ∨
    (placement.io = true ∧ u.watchesVsync fd = true)

theorem Added.agrees {t u : ListenerTable} {fd : Int} {l : Nat} {pl : Placement}
    (h : Added MONITOR_FLAG t u fd l pl) (ha : t.Agrees) (hn : fd ∉ t.listeners) : u.Agrees := by
  have hmem : ∀ fd', fd' ∈ u.listeners ↔ fd' = fd ∨ fd' ∈ t.listeners := by
    intro fd'
    rw [h.listeners]
    exact AList.mem_insert _
  obtain ⟨hio, hd⟩ := ha.unlisted fd hn
  refine ⟨fun fd' hl => ?_, fun fd' hl => ?_, fun fd' hl => ?_, fun fd' hl => ?_⟩
  · rw [h.io, h.placed]
    obtain rfl | hne := eq_or_ne fd' fd
    · simp [hio]
    · rw [Function.update_of_ne hne, ← ha.io fd' (((hmem fd').1 hl).resolve_left hne)]
      simp [hne]
  · rw [h.deamon, h.placed]
    obtain rfl | hne := eq_or_ne fd' fd
    · simp [hd]
    · rw [Function.update_of_ne hne, ← ha.deamon fd' (((hmem fd').1 hl).resolve_left hne)]
      simp [hne]
  · rw [h.placed]
    obtain rfl | hne := eq_or_ne fd' fd
    · rw [Function.update_self]
      exact h.somewhere
    · rw [Function.update_of_ne hne]
      exact ha.somewhere fd' (((hmem fd').1 hl).resolve_left hne)
  · have hne : fd' ≠ fd ∧ fd' ∉ t.listeners := by
      rw [← not_or, ← hmem]
      exact hl
    rw [h.io, h.deamon]
    simp [hne.1, ha.unlisted fd' hne.2]

theorem ensureIoWaiterLocked_inIo (t : ListenerTable) (l : Nat) (fd : Int) :
    (t.ensureIoWaiterLocked MONITOR_FLAG l).inIoWaiter fd ↔ t.inIoWaiter fd := by
  unfold ensureIoWaiterLocked inIoWaiter
  cases t.ioWaiter <;> simp

theorem ensureIoWaiterLocked_inDeamon (t : ListenerTable) (l : Nat) (fd : Int) :
    (t.ensureIoWaiterLocked MONITOR_FLAG l).inDeamonIoWaiter fd ↔ t.inDeamonIoWaiter fd := by
  unfold ensureIoWaiterLocked inDeamonIoWaiter
  simp only
  split <;> simp

theorem ensureIoWaiterLocked_watches (t : ListenerTable) (l : Nat) (fd : Int) :
    (t.ensureIoWaiterLocked MONITOR_FLAG l).watchesVsync fd = t.watchesVsync fd := by
  unfold ensureIoWaiterLocked watchesVsync
  simp only
  split <;> simp

theorem ensureIoWaiterLocked_ready (MONITOR_FLAG : Bool) {t : ListenerTable} (hr : t.IoWaiterReady)
    (l : Nat) :
    ∃ w, (t.ensureIoWaiterLocked MONITOR_FLAG l).ioWaiter = some w ∧ w.initialized = true := by
  refine ⟨_, rfl, ?_⟩
  cases hw : t.ioWaiter with
  | none => rfl
  | some w => exact hr w hw

/-- `AddFileDescriptorByFd` after `EnsureIoWaiterLocked`, of a descriptor that is registered
    nowhere, succeeds. -/
theorem addFileDescriptorByFd_added (p : Process) {t : ListenerTable} {fd : Int} {events : UInt32}
    (taskName : String) {l : Nat} (priority : Priority) {w : EpollSet} (h0 : 0 ≤ fd)
    (he : noEvents events = false) (hw : t.ioWaiter = some w) (hwi : w.initialized = true)
    (hdi : t.usesDeamon MONITOR_FLAG l = true → t.deamonIoWaiter.initialized = true)
    (hio : ¬ t.inIoWaiter fd) (hd : ¬ t.inDeamonIoWaiter fd) :
    ∃ u pl, t.addFileDescriptorByFd MONITOR_FLAG p fd events taskName l priority = (true, u) ∧
      Added MONITOR_FLAG t { u with listeners := u.listeners.insert fd l } fd l pl := by
  have hioReg : ∀ fd', t.inIoWaiter fd' ↔ w.Registered fd' := by
    intro fd'
    unfold inIoWaiter
    simp [hw]
  unfold addFileDescriptorByFd
  simp only
  split
  · rename_i hcond
    have huses : t.usesDeamon MONITOR_FLAG l = true := by
      unfold usesDeamon
      simp only [Bool.or_eq_true, Bool.and_eq_true] at hcond ⊢
      tauto
    rw [EpollSet.addFileDescriptor_eq hd h0 he (hdi huses)]
    refine ⟨_, ⟨false, true⟩, rfl, rfl, rfl, Or.inr rfl, fun fd' => ?_, fun fd' => ?_, fun v hv => ?_,
      rfl, fun fd' hne => ?_, fun _ => Or.inl huses⟩
    · simp [inIoWaiter]
    · simp only [and_true]
      exact AList.mem_insert _
    · have hv : t.ioWaiter = some v := hv
      rw [hw] at hv
      cases hv
      exact hwi
    · unfold watchesVsync
      simp only
      rw [EpollSet.insert_lookup_ne _ hne]
  · simp only [hw]
    have hnw : ¬ w.Registered fd := fun h => hio ((hioReg fd).2 h)
    rw [EpollSet.addFileDescriptor_eq hnw h0 he hwi]
    refine ⟨_, _, rfl, rfl, rfl, Or.inl rfl, fun fd' => ?_, fun fd' => ?_, fun v hv => ?_, rfl,
      fun fd' hne => ?_, fun hpl => Or.inr ⟨rfl, ?_⟩⟩
    · rw [hioReg]
      simp only [inIoWaiter, Option.mem_some_iff, exists_eq_left', and_true]
      exact AList.mem_insert _
    · unfold inDeamonIoWaiter
      simp only
      split
      · exact EpollSet.addFileDescriptor_registered hd fd'
      · simp
    · cases Option.mem_some_iff.1 hv
      exact hwi
    · unfold watchesVsync
      simp only
      split
      · rw [EpollSet.addFileDescriptor_lookup_ne hd hne]
      · rfl
    · simp only at hpl
      split at hpl
      · rename_i hcond
        unfold watchesVsync
        simp only [hcond, if_true]
        rw [EpollSet.addFileDescriptor_lookup hd hpl]
        simp only [Bool.and_eq_true, decide_eq_true_eq] at hcond
        simp [hcond.1]
      · cases hpl

/-- `AddFileDescriptorListenerBase` adds the descriptor, or leaves the table as it was. -/
theorem addFileDescriptorListenerBase_cases (p : Process) {t : ListenerTable} {fd : Int}
    {events : UInt32} (l : Nat) (taskName : String) (priority : Priority) (h0 : 0 ≤ fd)
    (he : noEvents events = false) (ha : t.Agrees) (hr : t.IoWaiterReady) :
    (t.addFileDescriptorListenerBase MONITOR_FLAG p fd events l taskName priority).2 = t ∨
    (fd ∉ t.listeners ∧ ∃ u pl, Added MONITOR_FLAG t u fd l pl ∧
      t.addFileDescriptorListenerBase MONITOR_FLAG p fd events l taskName priority = (.ERR_OK, u)) := by
  unfold addFileDescriptorListenerBase
  split
  · exact Or.inl rfl
  · split
    · exact Or.inl rfl
    · rename_i hn
      obtain ⟨hio, hd⟩ := ha.unlisted fd hn
      obtain ⟨w, hw, hwi⟩ := ensureIoWaiterLocked_ready MONITOR_FLAG hr l
      have hdi : (t.ensureIoWaiterLocked MONITOR_FLAG l).usesDeamon MONITOR_FLAG l = true →
          (t.ensureIoWaiterLocked MONITOR_FLAG l).deamonIoWaiter.initialized = true := by
        intro h
        have h : t.usesDeamon MONITOR_FLAG l = true := h
        unfold ensureIoWaiterLocked
        simp only [h, if_true]
        rfl
      obtain ⟨u, pl, heq, hadd⟩ := addFileDescriptorByFd_added p taskName priority h0 he hw hwi hdi
        (by rwa [ensureIoWaiterLocked_inIo]) (by rwa [ensureIoWaiterLocked_inDeamon])
      refine Or.inr ⟨hn, { u with listeners := u.listeners.insert fd l }, pl, ?_, ?_⟩
      · refine ⟨hadd.listeners, hadd.placed, hadd.somewhere, fun fd' => ?_, fun fd' => ?_, hadd.ready,
          ?_, fun fd' hne => ?_, ?_⟩
        · rw [hadd.io, ensureIoWaiterLocked_inIo]
        · rw [hadd.deamon, ensureIoWaiterLocked_inDeamon]
        · exact hadd.uses
        · rw [hadd.watches fd' hne, ensureIoWaiterLocked_watches]
        · exact hadd.reason
      · simp only [heq, if_true]

/-! ## Why the daemon listens -/

/-- The daemon listens to a listed descriptor because the queue or the listener uses the daemon, or
    because it watches a `vSyncTask` that the queue's own waiter serves. -/
def DeamonReason (MONITOR_FLAG : Bool) (t : ListenerTable) : Prop :=
  ∀ fd l, t.listeners.lookup fd = some l → (t.placed fd).deamon = true →
    t.usesDeamon MONITOR_FLAG l = true ∨ ((t.placed fd).io = true ∧ t.watchesVsync fd = true)

theorem Added.deamonReason {t u : ListenerTable} {fd : Int} {l : Nat} {pl : Placement}
    (h : Added MONITOR_FLAG t u fd l pl) (hd : t.DeamonReason MONITOR_FLAG) :
    u.DeamonReason MONITOR_FLAG := by
  intro fd' l' hl hpl
  rw [h.listeners] at hl
  rw [h.placed] at hpl ⊢
  rw [h.uses]
  obtain rfl | hne := eq_or_ne fd' fd
  · rw [AList.lookup_insert] at hl
    cases hl
    rw [Function.update_self] at hpl ⊢
    exact h.reason hpl
  · rw [AList.lookup_insert_ne hne] at hl
    rw [Function.update_of_ne hne] at hpl ⊢
    rw [h.watches fd' hne]
    exact hd fd' l' hl hpl

theorem dropAll_lookup {rs : List (Int × Bool)} {fd : Int} (hne : ∀ r ∈ rs, fd ≠ r.1) :
    ∀ t : ListenerTable, (t.dropAll rs).listeners.lookup fd = t.listeners.lookup fd ∧
      (t.dropAll rs).watchesVsync fd = t.watchesVsync fd := by
  induction rs with
  | nil => exact fun _ => ⟨rfl, rfl⟩
  | cons r rs ih =>
    intro t
    have hr : fd ≠ r.1 := hne r List.mem_cons_self
    obtain ⟨hl, hw⟩ := ih (fun r hr => hne r (List.mem_cons_of_mem _ hr)) (t.drop r)
    rw [dropAll_cons, hl, hw]
    refine ⟨AList.lookup_erase_ne hr, ?_⟩
    unfold watchesVsync drop
    simp only
    split
    · rw [EpollSet.removeFileDescriptor_lookup_ne _ hr]
    · rfl

theorem dropAll_uses (rs : List (Int × Bool)) : ∀ t : ListenerTable,
    (t.dropAll rs).usesDeamon MONITOR_FLAG = t.usesDeamon MONITOR_FLAG := by
  induction rs with
  | nil => exact fun _ => rfl
  | cons r rs ih => exact fun t => ih (t.drop r)

theorem dropAll_deamonReason {t : ListenerTable} (rs : List (Int × Bool))
    (hd : t.DeamonReason MONITOR_FLAG) : (t.dropAll rs).DeamonReason MONITOR_FLAG := by
  intro fd l hl hpl
  have hmem : fd ∈ (t.dropAll rs).listeners := AList.lookup_isSome.1 (by simp [hl])
  obtain ⟨hlook, hwatch⟩ := dropAll_lookup (dropAll_listeners.1 hmem).1 t
  rw [hlook] at hl
  rw [dropAll_placed] at hpl ⊢
  rw [hwatch, dropAll_uses]
  exact hd fd l hl hpl

theorem dropAll_ready {rs : List (Int × Bool)} : ∀ {t : ListenerTable},
    t.IoWaiterReady → (t.dropAll rs).IoWaiterReady := by
  induction rs with
  | nil => exact fun h => h
  | cons r rs ih =>
    intro t h
    apply ih
    intro w hw
    obtain ⟨v, hv, rfl⟩ := Option.mem_map.1 hw
    rw [EpollSet.removeFileDescriptor_initialized]
    exact h v hv

/-! ## Every step -/

/-- A removal by owner or by `RemoveOrphan`, or by descriptor when the handler is gone or no longer on
    the main runner, takes out a descriptor that was registered in both waiters and whose listener
    does not use the daemon. -/
@[reducible] def leavesVsync (MONITOR_FLAG : Bool) (p : Process) (t : ListenerTable)
    (op : ListenerOp) : Prop :=
  ∃ r ∈ t.removals MONITOR_FLAG p op, t.placed r.1 = ⟨true, true⟩ ∧
    ∃ l ∈ t.listeners.lookup r.1, t.usesDeamon MONITOR_FLAG l = false ∧
      (op.isByFd = true → (t.object l).ownerOnMainRunner p = false)

/-- Those removals are the ones that leave a registration in the daemon. -/
theorem forgets_iff {p : Process} {t : ListenerTable} {op : ListenerOp} (ha : t.Agrees)
    (hd : t.DeamonReason MONITOR_FLAG) :
    t.forgets MONITOR_FLAG p op ↔ t.leavesVsync MONITOR_FLAG p op := by
  constructor
  · rintro ⟨r, hr, htell, hin⟩
    obtain ⟨l, hl, heq⟩ := mem_removals hr
    have hpl : (t.placed r.1).deamon = true := (ha.deamon r.1 (listed_of_mem_removals hr)).1 hin
    have hfalse : t.tellsDeamon MONITOR_FLAG p op r.1 l = false := heq.symm.trans htell
    have huses : t.usesDeamon MONITOR_FLAG l = false := by
      unfold tellsDeamon fdFromDeamon at hfalse
      split at hfalse <;> simp_all
    obtain hu | ⟨hio, hwatch⟩ := hd r.1 l hl hpl
    · rw [huses] at hu
      cases hu
    · refine ⟨r, hr, ?_, l, hl, huses, ?_⟩
      · calc t.placed r.1 = ⟨(t.placed r.1).io, (t.placed r.1).deamon⟩ := rfl
          _ = ⟨true, true⟩ := by rw [hio, hpl]
      · intro hfd
        cases op with
        | removeByFd fd => simpa [tellsDeamon, fdFromDeamon, huses, hwatch] using hfalse
        | _ => cases hfd
  · rintro ⟨r, hr, hpl, l, hl, huses, hmain⟩
    obtain ⟨l', hl', heq⟩ := mem_removals hr
    rw [Option.mem_def.1 hl] at hl'
    cases hl'
    refine ⟨r, hr, ?_, (ha.deamon r.1 (listed_of_mem_removals hr)).2 (by rw [hpl])⟩
    rw [heq]
    unfold tellsDeamon
    split
    · simp [fdFromDeamon, huses, hmain rfl]
    · exact huses

/-- The invariant of the listener table. -/
structure Sound (MONITOR_FLAG : Bool) (t : ListenerTable) : Prop where
  agrees : t.Agrees
  ready : t.IoWaiterReady
  reason : t.DeamonReason MONITOR_FLAG

theorem initial_sound (start : ListenerStart) : (initial start).Sound MONITOR_FLAG := by
  have hnone : ∀ fd, fd ∉ (initial start).listeners := AList.notMem_empty
  refine ⟨⟨fun fd h => absurd h (hnone fd), fun fd h => absurd h (hnone fd),
    fun fd h => absurd h (hnone fd), fun fd _ => ?_⟩, ?_, ?_⟩
  · unfold initial inIoWaiter inDeamonIoWaiter
    cases start.epollIoWaiter <;> simp
  · intro w hw
    unfold initial at hw
    simp only at hw
    split at hw
    · cases hw
      rfl
    · cases hw
  · intro fd l hl
    cases hl

/-- A write of a listener object that keeps `isDeamonWaiter_`, or sets it. -/
theorem setObject_sound {t : ListenerTable} {l : Nat} {object : FileDescriptorListener}
    (hkeep : (t.object l).isDeamonWaiter = true → object.isDeamonWaiter = true)
    (h : t.Sound MONITOR_FLAG) : (t.setObject l object).Sound MONITOR_FLAG := by
  refine ⟨⟨h.agrees.io, h.agrees.deamon, h.agrees.somewhere, h.agrees.unlisted⟩, h.ready, ?_⟩
  intro fd l' hl hpl
  refine (h.reason fd l' hl hpl).imp_left fun hu => ?_
  unfold usesDeamon setObject at *
  simp only [Bool.or_eq_true, Bool.and_eq_true] at hu ⊢
  refine hu.imp_right fun ⟨hw, hf⟩ => ⟨?_, hf⟩
  obtain rfl | hne := eq_or_ne l' l
  · rw [Function.update_self]
    exact hkeep hw
  · rw [Function.update_of_ne hne]
    exact hw

theorem addFileDescriptorListener_sound {p : Process} {t : ListenerTable} {fd : Int} {events : UInt32}
    {listener : Option Nat} {taskName : String} {priority : Priority} (h : t.Sound MONITOR_FLAG) :
    (t.addFileDescriptorListener MONITOR_FLAG p fd events listener taskName priority).2.Sound
      MONITOR_FLAG := by
  unfold addFileDescriptorListener
  split
  · exact h
  · rename_i hok
    obtain ⟨h0, he⟩ : 0 ≤ fd ∧ noEvents events = false := by simpa using hok
    cases listener with
    | none => exact h
    | some l =>
      obtain heq | ⟨hn, u, pl, hadd, heq⟩ :=
        addFileDescriptorListenerBase_cases p l taskName priority h0 he h.agrees h.ready
      · show (t.addFileDescriptorListenerBase MONITOR_FLAG p fd events l taskName priority).2.Sound _
        rw [heq]
        exact h
      · show (t.addFileDescriptorListenerBase MONITOR_FLAG p fd events l taskName priority).2.Sound _
        rw [heq]
        exact ⟨hadd.agrees h.agrees hn, hadd.ready, hadd.deamonReason h.reason⟩

/-- The removals of a step, for an operation that removes. -/
theorem step_dropAll {p : Process} {t : ListenerTable} {op : ListenerOp}
    (h : t.removals MONITOR_FLAG p op ≠ []) :
    t.step MONITOR_FLAG p op = t.dropAll (t.removals MONITOR_FLAG p op) := by
  cases op with
  | removeByFd fd => exact removeListenerByFd_eq p t fd
  | removeByOwner owner => exact removeListenerByOwner_eq p t owner
  | removeOrphan => exact removeOrphan_eq p t
  | _ => exact absurd rfl h

theorem step_sound {p : Process} {t : ListenerTable} {op : ListenerOp} (h : t.Sound MONITOR_FLAG)
    (hv : ¬ t.leavesVsync MONITOR_FLAG p op) : (t.step MONITOR_FLAG p op).Sound MONITOR_FLAG := by
  have hf : ¬ t.forgets MONITOR_FLAG p op := fun hf => hv ((forgets_iff h.agrees h.reason).1 hf)
  have hdrop : (t.dropAll (t.removals MONITOR_FLAG p op)).Sound MONITOR_FLAG :=
    ⟨dropAll_agrees h.agrees hf, dropAll_ready h.ready, dropAll_deamonReason _ h.reason⟩
  cases op with
  | addByHandler handler fd events listener taskName priority =>
    show (t.addByHandler MONITOR_FLAG p handler fd events listener taskName priority).2.Sound _
    unfold addByHandler
    split
    · exact h
    · cases listener with
      | none => exact h
      | some l =>
        apply addFileDescriptorListener_sound
        exact setObject_sound id h
  | addByQueue fd events listener taskName priority => exact addFileDescriptorListener_sound h
  | removeByFd fd =>
    show (t.removeListenerByFd MONITOR_FLAG p fd).Sound _
    rw [removeListenerByFd_eq]
    exact hdrop
  | removeByOwner owner =>
    show (t.removeListenerByOwner MONITOR_FLAG p owner).Sound _
    rw [removeListenerByOwner_eq]
    exact hdrop
  | removeOrphan =>
    show (t.removeOrphan MONITOR_FLAG p).Sound _
    rw [removeOrphan_eq]
    exact hdrop
  | setDeamonWaiter l => exact setObject_sound (fun _ => rfl) h
  | setType l type => exact setObject_sound id h
  | initDeamon => exact ⟨⟨h.agrees.io, h.agrees.deamon, h.agrees.somewhere, h.agrees.unlisted⟩, h.ready,
      h.reason⟩

theorem step_agrees_iff {p : Process} {t : ListenerTable} {op : ListenerOp} (h : t.Sound MONITOR_FLAG) :
    (t.step MONITOR_FLAG p op).Agrees ↔ ¬ t.leavesVsync MONITOR_FLAG p op := by
  constructor
  · intro ha hv
    have hf : t.forgets MONITOR_FLAG p op := (forgets_iff h.agrees h.reason).2 hv
    obtain ⟨r, hr, -⟩ := hv
    rw [step_dropAll (List.ne_nil_of_mem hr)] at ha
    exact forgets_not_agrees hf ha
  · exact fun hv => (step_sound h hv).agrees

/-- What an operation removes is registered in neither waiter afterwards. -/
theorem step_removed {p : Process} {t : ListenerTable} {op : ListenerOp} (h : t.Sound MONITOR_FLAG)
    (hv : ¬ t.leavesVsync MONITOR_FLAG p op) {r : Int × Bool} (hr : r ∈ t.removals MONITOR_FLAG p op) :
    r.1 ∉ (t.step MONITOR_FLAG p op).listeners ∧
      ¬ (t.step MONITOR_FLAG p op).inIoWaiter r.1 ∧
      ¬ (t.step MONITOR_FLAG p op).inDeamonIoWaiter r.1 := by
  have hout : r.1 ∉ (t.step MONITOR_FLAG p op).listeners := by
    rw [step_dropAll (List.ne_nil_of_mem hr)]
    exact fun hl => (dropAll_listeners.1 hl).1 r hr rfl
  exact ⟨hout, (step_sound h hv).agrees.unlisted r.1 hout⟩

end ListenerTable

open ListenerTable

/-- **The listener table and the waiters agree** as long as no removal leaves a `vSyncTask`
    registration in the daemon, and such a removal ends the agreement. -/
theorem listeners_agree_iff (MONITOR_FLAG : Bool) (start : ListenerStart) {t : ListenerTable}
    (h : (listenerSystem MONITOR_FLAG start).Reachable
      (fun t op => ¬ t.leavesVsync MONITOR_FLAG op.1 op.2) t) :
    t.Agrees ∧ ∀ p op,
      ((t.step MONITOR_FLAG p op).Agrees ↔ ¬ t.leavesVsync MONITOR_FLAG p op) ∧
      (¬ t.leavesVsync MONITOR_FLAG p op → ∀ r ∈ t.removals MONITOR_FLAG p op,
        r.1 ∉ (t.step MONITOR_FLAG p op).listeners ∧
          ¬ (t.step MONITOR_FLAG p op).inIoWaiter r.1 ∧
          ¬ (t.step MONITOR_FLAG p op).inDeamonIoWaiter r.1) := by
  have hs : t.Sound MONITOR_FLAG := by
    apply h.invariant (I := Sound MONITOR_FLAG) (initial_sound start)
    intro t op u ht hok hst
    cases hst
    exact step_sound ht hok
  exact ⟨hs.agrees, fun p op => ⟨step_agrees_iff hs, fun hv r hr => step_removed hs hv hr⟩⟩

/-- Handler 7 on the main runner. -/
def mainProcess : Process where
  alive _ := true
  eventRunner _ := some 0
  mainEventRunner := some 0
  isAppMainThread := true

/-- The daemon runs, and handler 7 listens to the vsync descriptor 5. -/
def listenToVsync : List (Process × ListenerOp) :=
  [(mainProcess, .initDeamon), (mainProcess, .setType 0 .LTYPE_VSYNC),
    (mainProcess, .addByHandler 7 5 FILE_DESCRIPTOR_INPUT_EVENT (some 0) "vSyncTask" .VIP)]

/-- Removed by descriptor, it is registered in neither waiter. -/
theorem listeners_agree_iff_run : ∃ t : ListenerTable, t.Agrees ∧
    t.placed 5 = ⟨true, true⟩ ∧ t.inDeamonIoWaiter 5 ∧
    ¬ (t.step false mainProcess (.removeByFd 5)).inIoWaiter 5 ∧
    ¬ (t.step false mainProcess (.removeByFd 5)).inDeamonIoWaiter 5 := by
  obtain ⟨t, ht, hp⟩ := System.run_of_exec (listenerSystem false {})
    (fun t op => ¬ t.leavesVsync false op.1 op.2)
    (fun t => t.placed 5 = ⟨true, true⟩ ∧ t.deamonIoWaiter.Registered 5 ∧
      ¬ t.leavesVsync false mainProcess (.removeByFd 5) ∧
      (5, true) ∈ t.removals false mainProcess (.removeByFd 5)) listenToVsync (by decide +kernel)
  obtain ⟨ha, hstep⟩ := listeners_agree_iff false {} ⟨_, ht⟩
  exact ⟨t, ha, hp.1, hp.2.1,
    ((hstep mainProcess (.removeByFd 5)).2 hp.2.2.1 _ hp.2.2.2).2⟩

/-- Removed by owner, it stays registered in the daemon. -/
theorem removeListenerByOwner_forgets : ¬ ∀ t : ListenerTable,
    (listenerSystem false {}).Reachable System.always t → t.Agrees := by
  intro h
  obtain ⟨t, ht, hp⟩ := System.run_of_exec (listenerSystem false {}) System.always
    (fun t => 5 ∉ t.listeners ∧ t.deamonIoWaiter.Registered 5)
    (listenToVsync ++ [(mainProcess, .removeByOwner (some 7))]) (by decide +kernel)
  exact ((h t ⟨_, ht⟩).unlisted 5 hp.1).2 hp.2

end AppExecFwk
