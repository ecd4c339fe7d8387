import EventHandler.Listeners
import EventHandler.WaiterTables

/-!
# A refused listener registration

`EventHandler::AddFileDescriptorListener` with every way it can fail: the checks of its arguments,
a handler without a runner, a queue that is not usable, a descriptor that is listed, a waiter that
cannot be initialized, a kernel that refuses the descriptor.

* `ListenerQueue` — the listener objects, `listeners_` and the tables of the two waiters, in any
  state; `SystemCalls` holds the answers of the kernel.
* `RegistrationKept` — owners, `listeners_` and the registrations of the descriptor are as before.
* `Registers` — the states in which the call succeeds; `RefusesClean` — those in which a refusal
  leaves both waiters alone.
* `refused_unchanged_iff` — an error leaves everything as it was exactly when the call registers, or
  the handler already owns the listener and the refusal is clean.
* `addByHandler_ofTable` — where system calls succeed and the tables agree, this is `ListenerTable`.
-/

set_option autoImplicit false

namespace AppExecFwk

/-- The codes of `AddFileDescriptorListener`: those of `ErrCode`, and the one for a waiter that
    cannot be initialized. -/
inductive RegisterCode where
  | code (c : ErrCode)
  | EVENT_HANDLER_ERR_FD_NOT_SUPPORT
  deriving DecidableEq, Repr

/-- The answers of the kernel during one call: `Init` of the two waiters, and whether it takes a
    descriptor that the instance does not hold. -/
structure SystemCalls where
  deamonInit : Bool
  epollInit : Bool
  deamonAccepts : Int → Bool
  ioAccepts : Int → Bool

structure ListenerQueue where
  usable : Bool
  useDeamonIoWaiter : Bool
  /-- `ioWaiter_`: a `NoneIoWaiter`, or the tables of an `EpollIoWaiter`. -/
  ioWaiter : Option WaiterTables
  deamonIoWaiter : WaiterTables
  listeners : AList (fun _ : Int => Nat)
  object : Nat → FileDescriptorListener

/-! ## Registrations of one descriptor -/

namespace WaiterTables

/-- What a waiter holds for a descriptor: its epoll events and its map entry. -/
def registration (w : WaiterTables) (fd : Int) : Option UInt32 × Option FileDescriptorInfo :=
  (w.interest.lookup fd, w.fileDescriptorMap.lookup fd)

/-- The waiter takes the descriptor. -/
def Takes (accepts : Int → Bool) (w : WaiterTables) (fd : Int) (events : UInt32) : Prop :=
  w.Reaches fd events ∧ fd ∉ w.interest ∧ accepts fd = true

/-- The waiter is left as it is: the call does not reach its tables, or the kernel refuses a
    descriptor that has a map entry and is not in the interest set. -/
def LeftAlone (accepts : Int → Bool) (w : WaiterTables) (fd : Int) (events : UInt32) : Prop :=
  w.Reaches fd events → fd ∉ w.interest ∧ accepts fd = false ∧ fd ∈ w.fileDescriptorMap

variable {edge : UInt32} {accepts : Int → Bool} {w : WaiterTables} {fd : Int} {events : UInt32}
  {info : FileDescriptorInfo}

theorem addFileDescriptor_true_iff :
    (w.addFileDescriptor edge accepts fd events info).1 = true ↔ w.Takes accepts fd events := by
  by_cases hr : w.Reaches fd events
  · rw [addFileDescriptor_reaches hr]
    by_cases hin : fd ∈ w.interest
    · simp [hin, Takes]
    · cases hacc : accepts fd <;> simp [hin, hacc, hr, Takes]
  · rw [addFileDescriptor_invalid hr]
    simp [hr, Takes]

/-- **What a waiter holds for the descriptor stays exactly when the waiter is left alone.** -/
theorem addFileDescriptor_registration_iff :
    (w.addFileDescriptor edge accepts fd events info).2.registration fd = w.registration fd ↔
      w.LeftAlone accepts fd events := by
  by_cases hr : w.Reaches fd events
  · rw [addFileDescriptor_reaches hr]
    by_cases hin : fd ∈ w.interest
    · rw [if_pos hin]
      refine iff_of_false (fun h => ?_) (fun h => (h hr).1 hin)
      have hlook := congrArg Prod.fst h
      simp only [registration, AList.lookup_erase] at hlook
      exact AList.lookup_eq_none.1 hlook.symm hin
    · rw [if_neg hin]
      cases hacc : accepts fd with
      | true =>
        rw [if_pos rfl]
        refine iff_of_false (fun h => ?_) (fun h => (by have := (h hr).2.1; rw [hacc] at this; cases this))
        have hlook := congrArg Prod.fst h
        simp only [registration, AList.lookup_insert] at hlook
        rw [AList.lookup_eq_none.2 hin] at hlook
        cases hlook
      | false =>
        rw [if_neg (by decide)]
        constructor
        · intro h
          have hlook := congrArg Prod.snd h
          simp only [registration, insertFileDescriptorMap_lookup] at hlook
          exact fun _ => ⟨hin, hacc, AList.lookup_isSome.1 (by rw [← hlook]; rfl)⟩
        · intro h
          unfold insertFileDescriptorMap
          rw [if_pos (h hr).2.2]
  · rw [addFileDescriptor_invalid hr]
    exact iff_of_true rfl (fun h => absurd h hr)

end WaiterTables

namespace ListenerQueue

section
variable (MONITOR_FLAG : Bool) (calls : SystemCalls)

/-- `useDeamonIoWaiter_ || (listener->GetIsDeamonWaiter() && MONITOR_FLAG)`. -/
def usesDeamon (t : ListenerQueue) (listener : Nat) : Bool :=
  t.useDeamonIoWaiter || ((t.object listener).isDeamonWaiter && MONITOR_FLAG)

/-- `DeamonIoWaiter::Init`, which keeps an epoll instance that exists. -/
def initDeamon (w : WaiterTables) : Option WaiterTables :=
  if w.initialized then some w
  else if calls.deamonInit then some { w with initialized := true }
  else none

/-- The second part of `EnsureIoWaiterLocked`: a waiter that can listen. -/
def ensureEpoll (t : ListenerQueue) : Option ListenerQueue :=
  match t.ioWaiter with
  | some _ => some t
  | none => if calls.epollInit then some { t with ioWaiter := some ⟨true, ∅, ∅⟩ } else none

/-- `EnsureIoWaiterLocked`: the result, and the queue it leaves. -/
def ensureIoWaiterLocked (t : ListenerQueue) (listener : Nat) : Bool × ListenerQueue :=
  if t.usesDeamon MONITOR_FLAG listener then
    match initDeamon calls t.deamonIoWaiter with
    | none => (false, t)
    | some w =>
      let t := { t with deamonIoWaiter := w }
      match t.ensureEpoll calls with
      | none => (false, t)
      | some t => (true, t)
  else
    match t.ensureEpoll calls with
    | none => (false, t)
    | some t => (true, t)

/-- `AddFileDescriptorByFd`. -/
def addFileDescriptorByFd (p : Process) (t : ListenerQueue) (fileDescriptor : Int) (events : UInt32)
    (taskName : String) (listener : Nat) (priority : Priority) : Bool × ListenerQueue :=
  let object := t.object listener
  let isDaemonListener := object.isDeamonWaiter && MONITOR_FLAG
  let info : FileDescriptorInfo :=
    ⟨taskName, if object.isVsyncListener then .VIP else priority, listener⟩
  if t.useDeamonIoWaiter || (isDaemonListener && !object.isVsyncListener) then
    let added := DeamonIoWaiter.addFileDescriptor calls.deamonAccepts t.deamonIoWaiter
      fileDescriptor events info
    (added.1, { t with deamonIoWaiter := added.2 })
  else
    match t.ioWaiter with
    | none => (false, t)
    | some ioWaiter =>
      let deamonIoWaiter :=
        if taskName = "vSyncTask" && object.ownerOnMainRunner p then
          (DeamonIoWaiter.addFileDescriptor calls.deamonAccepts t.deamonIoWaiter fileDescriptor
            events info).2
        else t.deamonIoWaiter
      let added := EpollIoWaiter.addFileDescriptor calls.ioAccepts ioWaiter fileDescriptor events info
      (added.1, { t with deamonIoWaiter := deamonIoWaiter, ioWaiter := some added.2 })

/-- `AddFileDescriptorListenerBase`. -/
def addFileDescriptorListenerBase (p : Process) (t : ListenerQueue) (fileDescriptor : Int)
    (events : UInt32) (listener : Nat) (taskName : String) (priority : Priority) :
    RegisterCode × ListenerQueue :=
  if t.usable = false then (.code .EVENT_HANDLER_ERR_NO_EVENT_RUNNER, t)
  else if fileDescriptor ∈ t.listeners then (.code .EVENT_HANDLER_ERR_FD_ALREADY, t)
  else
    let ready := t.ensureIoWaiterLocked MONITOR_FLAG calls listener
    if ready.1 = false then (.EVENT_HANDLER_ERR_FD_NOT_SUPPORT, ready.2)
    else
      let added := ready.2.addFileDescriptorByFd MONITOR_FLAG calls p fileDescriptor events taskName
        listener priority
      if added.1 then
        (.code .ERR_OK,
          { added.2 with listeners := added.2.listeners.insert fileDescriptor listener })
      else (.code .EVENT_HANDLER_ERR_FD_FAILED, added.2)

/-- `AddFileDescriptorListener` of `EventQueueBase` and of `EventQueueFFRT`. -/
def addFileDescriptorListener (p : Process) (t : ListenerQueue) (fileDescriptor : Int)
    (events : UInt32) (listener : Option Nat) (taskName : String) (priority : Priority) :
    RegisterCode × ListenerQueue :=
  if fileDescriptor < 0 || noEvents events then (.code .EVENT_HANDLER_ERR_INVALID_PARAM, t)
  else
    match listener with
    | none => (.code .EVENT_HANDLER_ERR_INVALID_PARAM, t)
    | some listener =>
      t.addFileDescriptorListenerBase MONITOR_FLAG calls p fileDescriptor events listener taskName
        priority

/-- `SetOwner`. -/
def setOwner (t : ListenerQueue) (listener handler : Nat) : ListenerQueue :=
  { t with
    object := Function.update t.object listener { t.object listener with owner := some handler } }

/-- `EventHandler::AddFileDescriptorListener`; `eventRunner` is whether the handler has a runner,
    whose queue is `t`. -/
def addByHandler (p : Process) (t : ListenerQueue) (handler : Nat) (eventRunner : Bool)
    (fileDescriptor : Int) (events : UInt32) (listener : Option Nat) (taskName : String)
    (priority : Priority) : RegisterCode × ListenerQueue :=
  if fileDescriptor < 0 || noEvents events then (.code .EVENT_HANDLER_ERR_INVALID_PARAM, t)
  else
    match listener with
    | none => (.code .EVENT_HANDLER_ERR_INVALID_PARAM, t)
    | some object =>
      if eventRunner = false then (.code .EVENT_HANDLER_ERR_NO_EVENT_RUNNER, t)
      else
        (t.setOwner object handler).addFileDescriptorListener MONITOR_FLAG calls p fileDescriptor
          events listener taskName priority

end

/-! ## When a call registers, and when a refusal is clean -/

section
variable (MONITOR_FLAG : Bool) (calls : SystemCalls)

/-- What the queue's own waiter holds for a descriptor; a `NoneIoWaiter` holds nothing. -/
def ioRegistration (t : ListenerQueue) (fd : Int) : Option UInt32 × Option FileDescriptorInfo :=
  match t.ioWaiter with
  | some w => w.registration fd
  | none => (none, none)

/-- The owners of all listener objects, `listeners_` and the registrations of the descriptor in the
    two waiters are as in `t`. -/
structure RegistrationKept (fd : Int) (t t' : ListenerQueue) : Prop where
  owners : ∀ l, (t'.object l).owner = (t.object l).owner
  listeners : t'.listeners = t.listeners
  io : t'.ioRegistration fd = t.ioRegistration fd
  deamon : t'.deamonIoWaiter.registration fd = t.deamonIoWaiter.registration fd

/-- `EnsureIoWaiterLocked` succeeds. -/
def Ready (t : ListenerQueue) (listener : Nat) : Prop :=
  (t.usesDeamon MONITOR_FLAG listener = true →
      t.deamonIoWaiter.initialized = true ∨ calls.deamonInit = true) ∧
    (t.ioWaiter.isSome = true ∨ calls.epollInit = true)

/-- The daemon behind a successful `EnsureIoWaiterLocked`. -/
def readyDeamon (t : ListenerQueue) (listener : Nat) : WaiterTables :=
  if t.usesDeamon MONITOR_FLAG listener then { t.deamonIoWaiter with initialized := true }
  else t.deamonIoWaiter

/-- The queue's waiter behind a successful `EnsureIoWaiterLocked`. -/
def readyIo (t : ListenerQueue) : WaiterTables := t.ioWaiter.getD ⟨true, ∅, ∅⟩

/-- The descriptor goes to the daemon alone. -/
def onDeamon (t : ListenerQueue) (listener : Nat) : Bool :=
  t.useDeamonIoWaiter || (((t.object listener).isDeamonWaiter && MONITOR_FLAG) &&
    !(t.object listener).isVsyncListener)

/-- The descriptor of a vsync task of the main runner goes to both waiters. -/
def onBoth (p : Process) (t : ListenerQueue) (listener : Nat) (taskName : String) : Bool :=
  taskName = "vSyncTask" && (t.object listener).ownerOnMainRunner p

/-- The queue takes the listener: it is usable, the descriptor is not listed, the waiters can be
    initialized, and the waiter that decides takes the descriptor. -/
structure Registers (t : ListenerQueue) (fd : Int) (events : UInt32) (listener : Nat) : Prop where
  usable : t.usable = true
  free : fd ∉ t.listeners
  ready : t.Ready MONITOR_FLAG calls listener
  taken : if t.onDeamon MONITOR_FLAG listener
    then (t.readyDeamon MONITOR_FLAG listener).Takes calls.deamonAccepts fd events
    else t.readyIo.Takes calls.ioAccepts fd events

/-- No waiter is tried, or those that are tried are left alone. -/
def RefusesClean (p : Process) (t : ListenerQueue) (fd : Int) (events : UInt32) (listener : Nat)
    (taskName : String) : Prop :=
  t.usable = true → fd ∉ t.listeners → t.Ready MONITOR_FLAG calls listener →
    if t.onDeamon MONITOR_FLAG listener
    then (t.readyDeamon MONITOR_FLAG listener).LeftAlone calls.deamonAccepts fd events
    else (t.onBoth p listener taskName = true →
        (t.readyDeamon MONITOR_FLAG listener).LeftAlone calls.deamonAccepts fd events) ∧
      t.readyIo.LeftAlone calls.ioAccepts fd events

end

/-! ## What a call of the queue does -/

variable {MONITOR_FLAG : Bool} {calls : SystemCalls} {p : Process} {t : ListenerQueue} {fd : Int}
  {events : UInt32} {listener : Nat} {taskName : String} {priority : Priority}

theorem initDeamon_some {w : WaiterTables} (h : w.initialized = true ∨ calls.deamonInit = true) :
    initDeamon calls w = some { w with initialized := true } := by
  unfold initDeamon
  cases hi : w.initialized with
  | true =>
    obtain ⟨initialized, interest, map⟩ := w
    cases hi
    rfl
  | false =>
    rw [hi] at h
    rw [if_neg (by decide), if_pos (h.resolve_left (by decide))]

/-- `EnsureIoWaiterLocked` that succeeds. -/
theorem ensure_ready (h : t.Ready MONITOR_FLAG calls listener) :
    t.ensureIoWaiterLocked MONITOR_FLAG calls listener =
      (true, { t with
        deamonIoWaiter := t.readyDeamon MONITOR_FLAG listener, ioWaiter := some t.readyIo }) := by
  obtain ⟨hd, hio⟩ := h
  have hepoll : ∀ u : ListenerQueue, u.ioWaiter = t.ioWaiter →
      u.ensureEpoll calls = some { u with ioWaiter := some t.readyIo } := by
    rintro ⟨usable, use, io, deamon, listeners, object⟩ rfl
    unfold ensureEpoll readyIo
    cases hw : t.ioWaiter with
    | some w => rfl
    | none =>
      rw [hw] at hio
      simp only [if_pos (hio.resolve_left (by decide)), Option.getD_none]
  unfold ensureIoWaiterLocked readyDeamon
  cases hu : t.usesDeamon MONITOR_FLAG listener with
  | true =>
    rw [if_pos rfl, if_pos rfl, initDeamon_some (hd hu)]
    simp only [hepoll { t with deamonIoWaiter := { t.deamonIoWaiter with initialized := true } } rfl]
  | false =>
    rw [if_neg (by decide), if_neg (by decide)]
    simp only [hepoll t rfl]

/-- `EnsureIoWaiterLocked` that fails: at most the daemon was initialized. -/
theorem ensure_unready (h : ¬ t.Ready MONITOR_FLAG calls listener) (fd : Int) :
    (t.ensureIoWaiterLocked MONITOR_FLAG calls listener).1 = false ∧
      RegistrationKept fd t (t.ensureIoWaiterLocked MONITOR_FLAG calls listener).2 := by
  have hepoll : ∀ u : ListenerQueue, u.ioWaiter = t.ioWaiter →
      ¬ (t.ioWaiter.isSome = true ∨ calls.epollInit = true) → u.ensureEpoll calls = none := by
    rintro ⟨usable, use, io, deamon, listeners, object⟩ rfl hno
    unfold ensureEpoll
    cases hw : t.ioWaiter with
    | some w => exact absurd (Or.inl (by rw [hw]; rfl)) hno
    | none =>
      simp only
      rw [if_neg fun he => hno (Or.inr he)]
  unfold ensureIoWaiterLocked
  cases hu : t.usesDeamon MONITOR_FLAG listener with
  | true =>
    rw [if_pos rfl]
    by_cases hd : t.deamonIoWaiter.initialized = true ∨ calls.deamonInit = true
    · have hio : ¬ (t.ioWaiter.isSome = true ∨ calls.epollInit = true) := fun hio =>
        h ⟨fun _ => hd, hio⟩
      rw [initDeamon_some hd]
      simp only [hepoll { t with deamonIoWaiter := { t.deamonIoWaiter with initialized := true } } rfl
        hio]
      exact ⟨trivial, fun _ => rfl, rfl, rfl, rfl⟩
    · rw [not_or, Bool.not_eq_true, Bool.not_eq_true] at hd
      unfold initDeamon
      simp only [hd.1, hd.2, Bool.false_eq_true, if_false]
      exact ⟨trivial, fun _ => rfl, rfl, rfl, rfl⟩
  | false =>
    rw [if_neg (by decide)]
    have hio : ¬ (t.ioWaiter.isSome = true ∨ calls.epollInit = true) := fun hio =>
      h ⟨fun hd => (by rw [hu] at hd; cases hd), hio⟩
    simp only [hepoll t rfl hio]
    exact ⟨trivial, fun _ => rfl, rfl, rfl, rfl⟩

theorem readyDeamon_registration (t : ListenerQueue) (listener : Nat) (fd : Int) :
    (t.readyDeamon MONITOR_FLAG listener).registration fd = t.deamonIoWaiter.registration fd := by
  unfold readyDeamon
  split <;> rfl

theorem readyIo_registration (t : ListenerQueue) (fd : Int) :
    t.readyIo.registration fd = t.ioRegistration fd := by
  unfold readyIo ioRegistration
  cases t.ioWaiter <;> rfl

/-- `AddFileDescriptorByFd` with a waiter that can listen: what decides its answer, and when both
    waiters keep what they hold for the descriptor. -/
theorem addByFd_spec {io : WaiterTables} (hio : t.ioWaiter = some io) :
    let r := t.addFileDescriptorByFd MONITOR_FLAG calls p fd events taskName listener priority
    r.2.listeners = t.listeners ∧ r.2.object = t.object ∧
      (r.1 = true ↔ if t.onDeamon MONITOR_FLAG listener
        then t.deamonIoWaiter.Takes calls.deamonAccepts fd events
        else io.Takes calls.ioAccepts fd events) ∧
      ((r.2.ioRegistration fd = io.registration fd ∧
          r.2.deamonIoWaiter.registration fd = t.deamonIoWaiter.registration fd) ↔
        if t.onDeamon MONITOR_FLAG listener
        then t.deamonIoWaiter.LeftAlone calls.deamonAccepts fd events
        else (t.onBoth p listener taskName = true →
            t.deamonIoWaiter.LeftAlone calls.deamonAccepts fd events) ∧
          io.LeftAlone calls.ioAccepts fd events) := by
  intro r
  have hr : r = t.addFileDescriptorByFd MONITOR_FLAG calls p fd events taskName listener priority :=
    rfl
  unfold addFileDescriptorByFd at hr
  cases hon : t.onDeamon MONITOR_FLAG listener with
  | true =>
    unfold onDeamon at hon
    simp only [hon, if_true] at hr
    rw [if_pos rfl, if_pos rfl, hr]
    refine ⟨rfl, rfl, WaiterTables.addFileDescriptor_true_iff, ?_⟩
    have hsame : ∀ u : ListenerQueue, u.ioWaiter = t.ioWaiter →
        u.ioRegistration fd = io.registration fd := by
      intro u hu
      unfold ioRegistration
      rw [hu, hio]
    rw [← @WaiterTables.addFileDescriptor_registration_iff EPOLLET]
    exact and_iff_right (hsame _ rfl)
  | false =>
    unfold onDeamon at hon
    simp only [hon, Bool.false_eq_true, if_false, hio] at hr
    rw [if_neg (by decide), if_neg (by decide), hr]
    refine ⟨rfl, rfl, WaiterTables.addFileDescriptor_true_iff, ?_⟩
    rw [and_comm]
    refine and_congr ?_ WaiterTables.addFileDescriptor_registration_iff
    unfold onBoth
    by_cases hb : (decide (taskName = "vSyncTask") && (t.object listener).ownerOnMainRunner p) = true
    · rw [if_pos hb, forall_prop_of_true hb]
      exact WaiterTables.addFileDescriptor_registration_iff
    · rw [if_neg hb]
      exact iff_of_true rfl (fun h => absurd h hb)

/-- The same behind a successful `EnsureIoWaiterLocked`. -/
theorem addByFd_ready (hready : t.Ready MONITOR_FLAG calls listener) :
    let r := (t.ensureIoWaiterLocked MONITOR_FLAG calls listener).2.addFileDescriptorByFd MONITOR_FLAG
      calls p fd events taskName listener priority
    r.2.listeners = t.listeners ∧ r.2.object = t.object ∧
      (r.1 = true ↔ if t.onDeamon MONITOR_FLAG listener
        then (t.readyDeamon MONITOR_FLAG listener).Takes calls.deamonAccepts fd events
        else t.readyIo.Takes calls.ioAccepts fd events) ∧
      ((r.2.ioRegistration fd = t.ioRegistration fd ∧
          r.2.deamonIoWaiter.registration fd = t.deamonIoWaiter.registration fd) ↔
        if t.onDeamon MONITOR_FLAG listener
        then (t.readyDeamon MONITOR_FLAG listener).LeftAlone calls.deamonAccepts fd events
        else (t.onBoth p listener taskName = true →
            (t.readyDeamon MONITOR_FLAG listener).LeftAlone calls.deamonAccepts fd events) ∧
          t.readyIo.LeftAlone calls.ioAccepts fd events) := by
  rw [ensure_ready hready, ← @readyDeamon_registration MONITOR_FLAG t listener fd,
    ← t.readyIo_registration fd]
  exact addByFd_spec rfl

/-- A call that registers. -/
theorem addBase_registers (h : t.Registers MONITOR_FLAG calls fd events listener) :
    (t.addFileDescriptorListenerBase MONITOR_FLAG calls p fd events listener taskName priority).1 =
      .code .ERR_OK := by
  unfold addFileDescriptorListenerBase
  have hens := ensure_ready h.ready
  have hby := @addByFd_ready _ _ p _ fd events _ taskName priority h.ready
  rw [if_neg (by rw [h.usable]; decide), if_neg h.free, if_neg (by rw [hens]; simp),
    if_pos (hby.2.2.1.2 h.taken)]

/-- **A call that does not register** fails and leaves the listener objects and `listeners_` alone;
    it keeps the registrations of the descriptor exactly when the refusal is clean. -/
theorem addBase_refuses (h : ¬ t.Registers MONITOR_FLAG calls fd events listener) :
    let r := t.addFileDescriptorListenerBase MONITOR_FLAG calls p fd events listener taskName priority
    r.1 ≠ .code .ERR_OK ∧ r.2.listeners = t.listeners ∧ (∀ l, (r.2.object l).owner = (t.object l).owner) ∧
      ((r.2.ioRegistration fd = t.ioRegistration fd ∧
          r.2.deamonIoWaiter.registration fd = t.deamonIoWaiter.registration fd) ↔
        t.RefusesClean MONITOR_FLAG calls p fd events listener taskName) := by
  intro r
  have hr : r = t.addFileDescriptorListenerBase MONITOR_FLAG calls p fd events listener taskName
    priority := rfl
  unfold addFileDescriptorListenerBase at hr
  by_cases hu : t.usable = false
  · rw [if_pos hu] at hr
    rw [hr]
    refine ⟨by simp, rfl, fun _ => rfl, iff_of_true ⟨rfl, rfl⟩ fun hu' => ?_⟩
    rw [hu] at hu'
    cases hu'
  · rw [if_neg hu] at hr
    rw [Bool.not_eq_false] at hu
    by_cases hl : fd ∈ t.listeners
    · rw [if_pos hl] at hr
      rw [hr]
      exact ⟨by simp, rfl, fun _ => rfl, iff_of_true ⟨rfl, rfl⟩ fun _ hl' => absurd hl hl'⟩
    · rw [if_neg hl] at hr
      by_cases hready : t.Ready MONITOR_FLAG calls listener
      · obtain ⟨hlist, hobj, htaken, hreg⟩ := @addByFd_ready _ _ p _ fd events _ taskName
          priority hready
        have hfail := mt htaken.1 fun ht => h ⟨hu, hl, hready, ht⟩
        have hens := ensure_ready hready
        rw [if_neg (by rw [hens]; simp), if_neg hfail] at hr
        rw [hr]
        refine ⟨by simp, hlist, fun l => by rw [hobj], hreg.trans ?_⟩
        unfold RefusesClean
        rw [forall_prop_of_true hu, forall_prop_of_true hl, forall_prop_of_true hready]
      · obtain ⟨hfail, hkept⟩ := ensure_unready hready fd
        rw [if_pos hfail] at hr
        rw [hr]
        exact ⟨by simp, hkept.listeners, hkept.owners,
          iff_of_true ⟨hkept.io, hkept.deamon⟩ fun _ _ hready' => absurd hready' hready⟩

/-! ## The call of the handler -/

/-- The owner is set before the queue decides, so the listener keeps its owner when it already is the
    handler, or when the queue registers. -/
theorem addBase_kept_iff {l handler : Nat} :
    let r := (t.setOwner l handler).addFileDescriptorListenerBase MONITOR_FLAG calls p fd events l
      taskName priority
    (r.1 ≠ .code .ERR_OK → RegistrationKept fd t r.2) ↔
      ((t.setOwner l handler).Registers MONITOR_FLAG calls fd events l ∨
        ((t.object l).owner = some handler ∧
          (t.setOwner l handler).RefusesClean MONITOR_FLAG calls p fd events l taskName)) := by
  intro r
  by_cases hreg : (t.setOwner l handler).Registers MONITOR_FLAG calls fd events l
  · exact iff_of_true (fun h => absurd (addBase_registers hreg) h) (Or.inl hreg)
  · obtain ⟨herr, hlist, howner, htab⟩ := @addBase_refuses _ _ p _ _ _ _ taskName priority hreg
    constructor
    · intro h
      have hkept := h herr
      have hown := (howner l).symm.trans (hkept.owners l)
      refine Or.inr ⟨?_, htab.1 ⟨hkept.io, hkept.deamon⟩⟩
      rw [← hown]
      simp [setOwner]
    · intro h
      obtain ⟨hown, hclean⟩ := h.resolve_left hreg
      obtain ⟨hio, hdeamon⟩ := htab.2 hclean
      refine fun _ => ⟨fun k => ?_, hlist, hio, hdeamon⟩
      rw [howner k]
      by_cases hk : k = l
      · subst hk
        rw [hown]
        simp [setOwner]
      · simp [setOwner, hk]

/-- **A refused registration changes nothing** — no owner, not `listeners_`, neither waiter's
    registration of the descriptor — exactly when the arguments are invalid, the handler has no
    runner, the call registers, or the handler already owns the listener and the refusal is
    clean. -/
theorem refused_unchanged_iff (MONITOR_FLAG : Bool) (calls : SystemCalls) (p : Process)
    (t : ListenerQueue) (handler : Nat) (eventRunner : Bool) (fd : Int) (events : UInt32)
    (listener : Option Nat) (taskName : String) (priority : Priority) :
    let r := t.addByHandler MONITOR_FLAG calls p handler eventRunner fd events listener taskName
      priority
    (r.1 ≠ .code .ERR_OK → RegistrationKept fd t r.2) ↔
      (fd < 0 ∨ noEvents events = true ∨ listener = none ∨ eventRunner = false ∨
        ∃ l, listener = some l ∧
          ((t.setOwner l handler).Registers MONITOR_FLAG calls fd events l ∨
            ((t.object l).owner = some handler ∧
              (t.setOwner l handler).RefusesClean MONITOR_FLAG calls p fd events l taskName))) := by
  intro r
  have hr : r = t.addByHandler MONITOR_FLAG calls p handler eventRunner fd events listener taskName
    priority := rfl
  have hrefl : RegistrationKept fd t t := ⟨fun _ => rfl, rfl, rfl, rfl⟩
  unfold addByHandler at hr
  by_cases hv : (fd < 0 || noEvents events) = true
  · rw [if_pos hv] at hr
    simp only [Bool.or_eq_true, decide_eq_true_eq] at hv
    rw [hr]
    exact iff_of_true (fun _ => hrefl) (hv.elim Or.inl fun h => Or.inr (Or.inl h))
  · rw [if_neg hv] at hr
    cases listener with
    | none =>
      rw [hr]
      exact iff_of_true (fun _ => hrefl) (Or.inr (Or.inr (Or.inl rfl)))
    | some l =>
      cases eventRunner with
      | false =>
        rw [hr]
        exact iff_of_true (fun _ => hrefl) (Or.inr (Or.inr (Or.inr (Or.inl rfl))))
      | true =>
        have hq : r = (t.setOwner l handler).addFileDescriptorListenerBase MONITOR_FLAG calls p fd
            events l taskName priority := by
          rw [hr]
          exact if_neg hv
        simp only [Bool.or_eq_true, decide_eq_true_eq, not_or, Bool.not_eq_true] at hv
        simp only [hv.1, hv.2, Option.some.injEq, exists_eq_left', Bool.false_eq_true, Bool.true_eq_false,
          reduceCtorEq, false_or]
        rw [hq]
        exact addBase_kept_iff

/-- A queue on its own waiter, with listener 0 registered for descriptor 5 by handler 1. -/
def listedByFirst : ListenerQueue :=
  (addByHandler false ⟨true, true, fun _ => true, fun _ => true⟩ mainProcess
    ⟨true, false, none, ⟨false, ∅, ∅⟩, ∅, fun _ => {}⟩ 1 true 5 FILE_DESCRIPTOR_INPUT_EVENT (some 0) "task"
    .HIGH).2

/-- Handler 2 is refused the descriptor of handler 1, and owns the listener afterwards. -/
theorem refused_takes_owner : ¬ ∀ MONITOR_FLAG calls p t handler eventRunner fd events listener
    taskName priority,
    (addByHandler MONITOR_FLAG calls p t handler eventRunner fd events listener taskName priority).1 ≠
        .code .ERR_OK →
      RegistrationKept fd t (addByHandler MONITOR_FLAG calls p t handler eventRunner fd events listener
        taskName priority).2 := by
  intro h
  have hkept := h false ⟨true, true, fun _ => true, fun _ => true⟩ mainProcess listedByFirst 2 true 5
    FILE_DESCRIPTOR_INPUT_EVENT (some 0) "task" .HIGH (by decide)
  have howner : ((addByHandler false ⟨true, true, fun _ => true, fun _ => true⟩ mainProcess
      listedByFirst 2 true 5 FILE_DESCRIPTOR_INPUT_EVENT (some 0) "task" .HIGH).2.object 0).owner ≠
      (listedByFirst.object 0).owner := by decide
  exact howner (hkept.owners 0)

/-! ## Where system calls succeed -/

/-- The queue whose tables are those of a `ListenerTable`. -/
def ofTable (t : ListenerTable) : ListenerQueue where
  usable := t.usable
  useDeamonIoWaiter := t.useDeamonIoWaiter
  ioWaiter := t.ioWaiter.map WaiterTables.ofSet
  deamonIoWaiter := WaiterTables.ofSet t.deamonIoWaiter
  listeners := t.listeners
  object := t.object

/-- Every system call succeeds. -/
def allSucceed : SystemCalls := ⟨true, true, fun _ => true, fun _ => true⟩

theorem ensureIoWaiterLocked_ofTable (t : ListenerTable) (listener : Nat) :
    (ofTable t).ensureIoWaiterLocked MONITOR_FLAG allSucceed listener =
      (true, ofTable (t.ensureIoWaiterLocked MONITOR_FLAG listener)) := by
  have hready : (ofTable t).Ready MONITOR_FLAG allSucceed listener :=
    ⟨fun _ => Or.inr rfl, Or.inr rfl⟩
  rw [ensure_ready hready]
  have hio : some (ofTable t).readyIo =
      (t.ensureIoWaiterLocked MONITOR_FLAG listener).ioWaiter.map WaiterTables.ofSet := by
    unfold readyIo ofTable ListenerTable.ensureIoWaiterLocked
    cases t.ioWaiter <;> rfl
  have hdeamon : (ofTable t).readyDeamon MONITOR_FLAG listener =
      WaiterTables.ofSet (t.ensureIoWaiterLocked MONITOR_FLAG listener).deamonIoWaiter := by
    have hu : (ofTable t).usesDeamon MONITOR_FLAG listener = t.usesDeamon MONITOR_FLAG listener := rfl
    unfold readyDeamon ListenerTable.ensureIoWaiterLocked
    rw [hu]
    simp only
    split <;> rfl
  rw [hio, hdeamon]
  rfl

theorem addFileDescriptorByFd_ofTable (t : ListenerTable) :
    (ofTable t).addFileDescriptorByFd MONITOR_FLAG allSucceed p fd events taskName listener priority =
      ((t.addFileDescriptorByFd MONITOR_FLAG p fd events taskName listener priority).1,
        ofTable (t.addFileDescriptorByFd MONITOR_FLAG p fd events taskName listener priority).2) := by
  have hadd : ∀ (edge : UInt32) (w : EpollSet) (info : FileDescriptorInfo),
      (WaiterTables.ofSet w).addFileDescriptor edge (fun _ => true) fd events info = _ :=
    fun edge w info => WaiterTables.addFileDescriptor_ofSet rfl w events info
  unfold addFileDescriptorByFd ListenerTable.addFileDescriptorByFd
  unfold DeamonIoWaiter.addFileDescriptor EpollIoWaiter.addFileDescriptor
  have hobj : (ofTable t).object = t.object := rfl
  have huse : (ofTable t).useDeamonIoWaiter = t.useDeamonIoWaiter := rfl
  have hdeamon : (ofTable t).deamonIoWaiter = WaiterTables.ofSet t.deamonIoWaiter := rfl
  have hio : (ofTable t).ioWaiter = t.ioWaiter.map WaiterTables.ofSet := rfl
  simp only [hobj, huse, hdeamon, hio, allSucceed, hadd]
  split
  · rfl
  · cases hw : t.ioWaiter with
    | none => rfl
    | some w =>
      simp only [Option.map_some, hadd]
      by_cases hb : (decide (taskName = "vSyncTask") && (t.object listener).ownerOnMainRunner p) = true
      · simp only [if_pos hb]
        rfl
      · simp only [if_neg hb]
        rfl

/-- **Where system calls succeed and the tables agree, this is the call of `ListenerTable`.** -/
theorem addByHandler_ofTable (t : ListenerTable) (handler : Nat) (listener : Option Nat) :
    (ofTable t).addByHandler MONITOR_FLAG allSucceed p handler true fd events listener taskName
        priority =
      (.code (t.addByHandler MONITOR_FLAG p handler fd events listener taskName priority).1,
        ofTable (t.addByHandler MONITOR_FLAG p handler fd events listener taskName priority).2) := by
  unfold addByHandler ListenerTable.addByHandler
  by_cases hv : (fd < 0 || noEvents events) = true
  · rw [if_pos hv, if_pos hv]
  · rw [if_neg hv, if_neg hv]
    cases listener with
    | none => rfl
    | some l =>
      have howner : (ofTable t).setOwner l handler = ofTable (t.setOwner l handler) := rfl
      simp only [Bool.true_eq_false, if_false, howner]
      unfold addFileDescriptorListener ListenerTable.addFileDescriptorListener
      rw [if_neg hv, if_neg hv]
      simp only
      generalize t.setOwner l handler = t
      unfold addFileDescriptorListenerBase ListenerTable.addFileDescriptorListenerBase
      rw [ensureIoWaiterLocked_ofTable]
      simp only [addFileDescriptorByFd_ofTable, Bool.true_eq_false, if_false]
      have husable : (ofTable t).usable = t.usable := rfl
      have hlist : (ofTable t).listeners = t.listeners := rfl
      rw [husable, hlist]
      by_cases hu : t.usable = false
      · rw [if_pos hu, if_pos hu]
      · rw [if_neg hu, if_neg hu]
        by_cases hl : fd ∈ t.listeners
        · rw [if_pos hl, if_pos hl]
        · rw [if_neg hl, if_neg hl]
          split <;> rfl

end ListenerQueue

end AppExecFwk
