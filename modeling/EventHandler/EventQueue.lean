import EventHandler.InnerEvent

/-!
# The state of an event queue

`EventQueueBase` holds the protected fields of `EventQueue` and the private ones of
`EventQueueBase` that the queue operations read or write, with their initial values, and the
inline functions of `event_queue.h` that work on the vsync fields.

* `events q k` — the list in slot `k`: `some i` is sub-queue `i`, `none` is `idleEvents_`.  What an
  operation does to the five lists is stated through it.
* `SameLists` — the lists and the pick counters are untouched; the flag operations satisfy it.

`sumOfPendingVsync_` is an `int8_t`: `++` and `--` wrap (`toInt8`).
-/

set_option autoImplicit false

namespace AppExecFwk

def MAX_INIT_VSYNC_PERIOD_NS : Int := 34000000
def MAX_CHECK_VSYNC_PERIOD_NS : Int := 69000000
def CHECK_VSYNC_DELAY_NS : Int := 1000000
def MILLISECONDS_TO_NANOSECONDS_RATIO : Int := 1000000
def DEFAULT_MAX_HANDLED_EVENT_COUNT : Nat := 5

/-- The system parameters read once by `event_queue_base.cpp`, in milliseconds. -/
structure SystemParameters where
  vsyncTaskIntervalMs : Int := 4
  vsyncTaskDelayMsDefaultBarrier : Int := 50
  vsyncBarrierTimeout : Int := 100
  deriving DecidableEq, Repr

structure SubEventQueue where
  queue : List InnerEvent := []
  handledEventsCount : Nat := 0
  maxHandledEventsCount : Nat := DEFAULT_MAX_HANDLED_EVENT_COUNT
  frontEventHandleTime : Nat := UINT64_MAX
  deriving DecidableEq, Repr

structure CurrentRunningEvent where
  beginTime : Int := TimePoint.max
  owner : Option Nat := none
  senderKernelThreadId : Nat := 0
  sendTime : Int := 0
  handleTime : Int := 0
  triggerTime : Int := 0
  param : Int := 0
  hasTask : Bool := false
  taskName : String := ""
  callerInfo : String := ""
  innerEventId : EventId := .u32 0
  deriving DecidableEq, Repr

/-- `CurrentRunningEvent(time, event)`. -/
def CurrentRunningEvent.ofEvent (time : Int) (event : InnerEvent) : CurrentRunningEvent :=
  { beginTime := time
    owner := event.owner
    senderKernelThreadId := event.senderKernelThreadId
    sendTime := event.sendTime
    handleTime := event.handleTime
    param := event.param
    callerInfo := event.caller.toString
    hasTask := event.hasTask
    taskName := if event.hasTask then event.taskName else ""
    innerEventId := if event.hasTask then .u32 0 else event.innerEventId }

/-- `EventRunnerObserver`: the subscribed stages, and whether `notifyCb` is set. -/
structure EventRunnerObserver where
  stages : Nat := 0
  notifyCb : Bool := false
  deriving DecidableEq, Repr

def STAGE_BEFORE_WAITING : Nat := 4

/-- The observer is called for `stage`. -/
def EventRunnerObserver.subscribes (o : EventRunnerObserver) (stage : Nat) : Bool :=
  decide (stage &&& o.stages = stage) && o.notifyCb

structure EventQueueBase where
  subEventQueues : SubIndex → SubEventQueue
  idleEvents : List InnerEvent
  wakeUpTime : Int
  idleTimeStamp : Int
  isIdle : Bool
  currentRunningEvent : CurrentRunningEvent
  usable : Bool
  finished : Bool
  observer : EventRunnerObserver
  sumOfPendingVsync : Int
  needEpoll : Bool
  isLazyMode : Bool
  isBarrierMode : Bool
  vsyncPolicy : VsyncPolicy
  vsyncOriginPolicy : VsyncPolicy
  enterBarrierTime : Int
  vsyncPeriod : Int
  vsyncCheckTime : Int
  vsyncRecvTime : Int
  vsyncCompleteTime : Int
  vsyncFirstForceEnableEndTime : Int

/-- The state the constructors leave; `now` initialises `idleTimeStamp_`. -/
def EventQueueBase.create (now : Int) : EventQueueBase :=
  { subEventQueues := fun _ => {}
    idleEvents := []
    wakeUpTime := TimePoint.max
    idleTimeStamp := now
    isIdle := true
    currentRunningEvent := {}
    usable := true
    finished := true
    observer := {}
    sumOfPendingVsync := 0
    needEpoll := false
    isLazyMode := true
    isBarrierMode := false
    vsyncPolicy := .VSYNC_FIRST_WITH_DEFAULT_BARRIER
    vsyncOriginPolicy := .VSYNC_FIRST_WITH_DEFAULT_BARRIER
    enterBarrierTime := INT64_MAX
    vsyncPeriod := MAX_INIT_VSYNC_PERIOD_NS
    vsyncCheckTime := INT64_MAX
    vsyncRecvTime := INT64_MAX
    vsyncCompleteTime := 0
    vsyncFirstForceEnableEndTime := 0 }

/-- The value written to `frontEventHandleTime`: the first handle time, or `UINT64_MAX`. -/
def frontHandleTime : List InnerEvent → Nat
  | [] => UINT64_MAX
  | e :: _ => toUInt64 e.handleTime

namespace EventQueueBase

/-! ## The five lists -/

/-- The list in slot `k`. -/
def events (q : EventQueueBase) : Option SubIndex → List InnerEvent
  | some i => (q.subEventQueues i).queue
  | none => q.idleEvents

@[simp] theorem events_some (q : EventQueueBase) (i : SubIndex) :
    q.events (some i) = (q.subEventQueues i).queue := rfl

@[simp] theorem events_none (q : EventQueueBase) : q.events none = q.idleEvents := rfl

def setSub (q : EventQueueBase) (i : SubIndex) (sub : SubEventQueue) : EventQueueBase :=
  { q with subEventQueues := fun k => if k = i then sub else q.subEventQueues k }

@[simp] theorem setSub_self (q : EventQueueBase) (i : SubIndex) (sub : SubEventQueue) :
    (q.setSub i sub).subEventQueues i = sub := by simp [setSub]

theorem setSub_ne (q : EventQueueBase) {i k : SubIndex} (sub : SubEventQueue) (h : k ≠ i) :
    (q.setSub i sub).subEventQueues k = q.subEventQueues k := by simp [setSub, h]

theorem setSub_events (q : EventQueueBase) (i : SubIndex) (sub : SubEventQueue) :
    (q.setSub i sub).events (some i) = sub.queue ∧
      ∀ l, l ≠ some i → (q.setSub i sub).events l = q.events l := by
  refine ⟨by simp, fun l hl => ?_⟩
  cases l with
  | none => rfl
  | some k =>
    have hk : k ≠ i := fun h => hl (by rw [h])
    simp [setSub_ne q sub hk]

/-- The sub-queues and the idle list are untouched. -/
structure SameLists (q q' : EventQueueBase) : Prop where
  sub : q'.subEventQueues = q.subEventQueues
  idle : q'.idleEvents = q.idleEvents

theorem SameLists.refl (q : EventQueueBase) : SameLists q q := ⟨rfl, rfl⟩

theorem SameLists.trans {q q' q'' : EventQueueBase} (h : SameLists q q') (h' : SameLists q' q'') :
    SameLists q q'' := ⟨h'.sub.trans h.sub, h'.idle.trans h.idle⟩

theorem SameLists.events {q q' : EventQueueBase} (h : SameLists q q') (k : Option SubIndex) :
    q'.events k = q.events k := by
  cases k with
  | none => exact h.idle
  | some i => simp [h.sub]

/-- Only the lists, the wake-up time and the idle and running bookkeeping may differ: the vsync
    fields, `usable_`, `finished_` and the observer are those of `q`. -/
def SameControl (q q' : EventQueueBase) : Prop :=
  q' = { q with
    subEventQueues := q'.subEventQueues
    idleEvents := q'.idleEvents
    wakeUpTime := q'.wakeUpTime
    idleTimeStamp := q'.idleTimeStamp
    isIdle := q'.isIdle
    currentRunningEvent := q'.currentRunningEvent }

theorem SameControl.trans {q q' q'' : EventQueueBase} (h : SameControl q q')
    (h' : SameControl q' q'') : SameControl q q'' := by
  unfold SameControl at *
  rw [h', h]

theorem SameControl.sum {q q' : EventQueueBase} (h : SameControl q q') :
    q'.sumOfPendingVsync = q.sumOfPendingVsync := by rw [h]

theorem SameControl.needEpoll {q q' : EventQueueBase} (h : SameControl q q') :
    q'.needEpoll = q.needEpoll := by rw [h]

theorem SameControl.isBarrierMode {q q' : EventQueueBase} (h : SameControl q q') :
    q'.isBarrierMode = q.isBarrierMode := by rw [h]

theorem SameControl.isLazyMode {q q' : EventQueueBase} (h : SameControl q q') :
    q'.isLazyMode = q.isLazyMode := by rw [h]

theorem SameControl.vsyncPolicy {q q' : EventQueueBase} (h : SameControl q q') :
    q'.vsyncPolicy = q.vsyncPolicy := by rw [h]

theorem SameControl.vsyncOriginPolicy {q q' : EventQueueBase} (h : SameControl q q') :
    q'.vsyncOriginPolicy = q.vsyncOriginPolicy := by rw [h]

theorem SameControl.observer {q q' : EventQueueBase} (h : SameControl q q') :
    q'.observer = q.observer := by rw [h]

/-! ## The vsync notifications -/

/-- `DispatchVsyncTaskNotify`. -/
def dispatchVsyncTaskNotify (now : ClockTime) (q : EventQueueBase) : EventQueueBase :=
  { q with
    sumOfPendingVsync := toInt8 (q.sumOfPendingVsync + 1)
    vsyncRecvTime := if now.ns > q.vsyncCheckTime then q.vsyncCheckTime else now.ns
    needEpoll := true
    vsyncCheckTime := INT64_MAX }

/-- `HandleVsyncTaskCompletely`. -/
def handleVsyncTaskCompletely (now : ClockTime) (q : EventQueueBase) : EventQueueBase :=
  { q with vsyncCompleteTime := now.ns }

/-- `HandleVsyncTaskNotify`. -/
def handleVsyncTaskNotify (q : EventQueueBase) : EventQueueBase :=
  { q with sumOfPendingVsync := toInt8 (q.sumOfPendingVsync - 1) }

/-- `SetBarrierMode(true)`, with the clock read in it. -/
def enterBarrierMode (now : ClockTime) (q : EventQueueBase) : EventQueueBase :=
  { q with isBarrierMode := true, enterBarrierTime := now.ns }

/-- `SetBarrierMode(false)`. -/
def leaveBarrierMode (q : EventQueueBase) : EventQueueBase :=
  { q with isBarrierMode := false, enterBarrierTime := INT64_MAX }

/-- `UpdateVsyncCheckTime`; `%` of C++ truncates towards zero. -/
def updateVsyncCheckTime (now : ClockTime) (lastFrameTime period : Int) (q : EventQueueBase) :
    EventQueueBase :=
  if period > 0 then
    { q with
      vsyncPeriod := if period > MAX_INIT_VSYNC_PERIOD_NS then MAX_INIT_VSYNC_PERIOD_NS else period
      vsyncCheckTime :=
        if lastFrameTime > now.ns then
          now.ns + CHECK_VSYNC_DELAY_NS + (lastFrameTime - now.ns).tmod period
        else now.ns + period + CHECK_VSYNC_DELAY_NS - (now.ns - lastFrameTime).tmod period }
  else q

/-! ## The vsync policy -/

/-- `SetVsyncLazyMode`. -/
def setVsyncLazyMode (isLazy : Bool) (q : EventQueueBase) : EventQueueBase :=
  if q.vsyncPolicy = .DISABLE_VSYNC_FIRST then q else { q with isLazyMode := isLazy }

/-- `SetVsyncFirstForceEnableTime`; the sum is computed in `uint64_t` and stored in `int64_t`. -/
def setVsyncFirstForceEnableTime (now : ClockTime) (enable : Bool) (timeout : UInt64)
    (q : EventQueueBase) : EventQueueBase :=
  if enable then
    { q with
      vsyncPolicy := .VSYNC_FIRST_WITHOUT_DEFAULT_BARRIER
      vsyncFirstForceEnableEndTime := toInt64 (now.ns + timeout.toNat) }
  else { q with vsyncPolicy := q.vsyncOriginPolicy, vsyncFirstForceEnableEndTime := 0 }

/-- `SetVsyncPolicy`. -/
def setVsyncPolicy (policy : VsyncPolicy) (q : EventQueueBase) : EventQueueBase :=
  { q with
    vsyncPolicy := policy
    vsyncOriginPolicy := policy
    isLazyMode := if policy = .DISABLE_VSYNC_FIRST then true else q.isLazyMode }

/-- `GetVsyncTaskDelayTime`. -/
def getVsyncTaskDelayTime (P : SystemParameters) (q : EventQueueBase) : Int :=
  if q.vsyncPolicy = .VSYNC_FIRST_WITHOUT_DEFAULT_BARRIER then q.vsyncRecvTime + q.vsyncPeriod
  else q.vsyncRecvTime + P.vsyncTaskDelayMsDefaultBarrier * MILLISECONDS_TO_NANOSECONDS_RATIO

/-- The first branch of `CheckBarrierMode`: the policy in force at `now`. -/
def applyVsyncPolicy (now : ClockTime) (q : EventQueueBase) : EventQueueBase :=
  if q.vsyncFirstForceEnableEndTime > now.ns then
    { q with vsyncPolicy := .VSYNC_FIRST_WITHOUT_DEFAULT_BARRIER, isLazyMode := false }
  else { q with vsyncPolicy := q.vsyncOriginPolicy }

/-- The second branch of `CheckBarrierMode`; `enter` is the clock read by `SetBarrierMode(true)`. -/
def switchBarrierMode (P : SystemParameters) (now enter : ClockTime) (q : EventQueueBase) :
    EventQueueBase :=
  if q.isLazyMode = false ∧ q.isBarrierMode = false ∧ q.sumOfPendingVsync ≠ 0 then
    if q.getVsyncTaskDelayTime P < now.ns ∧
        q.vsyncCompleteTime + P.vsyncTaskIntervalMs * MILLISECONDS_TO_NANOSECONDS_RATIO < now.ns then
      q.enterBarrierMode enter
    else q
  else if q.isBarrierMode = true ∧ q.needEpoll = true ∧
      q.enterBarrierTime + P.vsyncBarrierTimeout * MILLISECONDS_TO_NANOSECONDS_RATIO < now.ns then
    { q.leaveBarrierMode with isLazyMode := true }
  else q

/-- `CheckBarrierMode`. -/
def checkBarrierMode (P : SystemParameters) (now enter : ClockTime) (q : EventQueueBase) :
    EventQueueBase :=
  (q.applyVsyncPolicy now).switchBarrierMode P now enter

/-! ## What the vsync operations leave alone -/

theorem sameLists_dispatch (now : ClockTime) (q : EventQueueBase) :
    SameLists q (q.dispatchVsyncTaskNotify now) := ⟨rfl, rfl⟩

theorem sameLists_applyVsyncPolicy (now : ClockTime) (q : EventQueueBase) :
    SameLists q (q.applyVsyncPolicy now) := by
  unfold applyVsyncPolicy
  split <;> exact ⟨rfl, rfl⟩

theorem sameLists_switchBarrierMode (P : SystemParameters) (now enter : ClockTime)
    (q : EventQueueBase) : SameLists q (q.switchBarrierMode P now enter) := by
  unfold switchBarrierMode
  split
  · split <;> exact ⟨rfl, rfl⟩
  · split <;> exact ⟨rfl, rfl⟩

theorem sameLists_checkBarrierMode (P : SystemParameters) (now enter : ClockTime)
    (q : EventQueueBase) : SameLists q (q.checkBarrierMode P now enter) :=
  (q.sameLists_applyVsyncPolicy now).trans ((q.applyVsyncPolicy now).sameLists_switchBarrierMode P now enter)

/-- `CheckBarrierMode` writes four fields. -/
theorem checkBarrierMode_eq (P : SystemParameters) (now enter : ClockTime) (q : EventQueueBase) :
    q.checkBarrierMode P now enter = { q with
      vsyncPolicy := (q.checkBarrierMode P now enter).vsyncPolicy
      isLazyMode := (q.checkBarrierMode P now enter).isLazyMode
      isBarrierMode := (q.checkBarrierMode P now enter).isBarrierMode
      enterBarrierTime := (q.checkBarrierMode P now enter).enterBarrierTime } := by
  unfold checkBarrierMode switchBarrierMode applyVsyncPolicy
  repeat' split
  all_goals rfl

theorem checkBarrierMode_sum (P : SystemParameters) (now enter : ClockTime) (q : EventQueueBase) :
    (q.checkBarrierMode P now enter).sumOfPendingVsync = q.sumOfPendingVsync := by
  rw [checkBarrierMode_eq]

theorem checkBarrierMode_needEpoll (P : SystemParameters) (now enter : ClockTime)
    (q : EventQueueBase) : (q.checkBarrierMode P now enter).needEpoll = q.needEpoll := by
  rw [checkBarrierMode_eq]

theorem checkBarrierMode_origin (P : SystemParameters) (now enter : ClockTime)
    (q : EventQueueBase) :
    (q.checkBarrierMode P now enter).vsyncOriginPolicy = q.vsyncOriginPolicy := by
  rw [checkBarrierMode_eq]

theorem checkBarrierMode_observer (P : SystemParameters) (now enter : ClockTime)
    (q : EventQueueBase) : (q.checkBarrierMode P now enter).observer = q.observer := by
  rw [checkBarrierMode_eq]

/-- `CheckBarrierMode` enters barrier mode only while a vsync task is pending. -/
theorem checkBarrierMode_barrier {P : SystemParameters} {now enter : ClockTime}
    {q : EventQueueBase} (h : (q.checkBarrierMode P now enter).isBarrierMode = true) :
    q.isBarrierMode = true ∨ q.sumOfPendingVsync ≠ 0 := by
  have hb : (q.applyVsyncPolicy now).isBarrierMode = q.isBarrierMode := by
    unfold applyVsyncPolicy; split <;> rfl
  have hs : (q.applyVsyncPolicy now).sumOfPendingVsync = q.sumOfPendingVsync := by
    unfold applyVsyncPolicy; split <;> rfl
  unfold checkBarrierMode switchBarrierMode at h
  split at h
  · rename_i hc
    exact Or.inr (hs ▸ hc.2.2)
  · split at h
    · simp [leaveBarrierMode] at h
    · exact Or.inl (hb ▸ h)

end EventQueueBase

end AppExecFwk
