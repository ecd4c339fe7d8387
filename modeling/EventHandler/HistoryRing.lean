import EventHandler.EventQueue
import EventHandler.Lib.SlotRing

/-!
# The history of dispatched events

Model of `PushHistoryQueueBeforeDistribute`, `PushHistoryQueueAfterDistribute` and
`HistoryQueueDump`.  The history is a ring of 32 slots; one dispatch fills the slot at
`historyEventIndex_` field by field and moves on (`dispatch_ring`).

* `HistoryTrue` — the slots describe the last 32 dispatches (or all, when there are fewer), the
  other slots are as constructed, and the text printed for a slot names its event.
* `slotOf_dispatchAll` — every field of a slot after a list of dispatches.  `hasTask` is the one that is never
  cleared: it tells whether any event of that slot had a task.
* `historyRing_iff` — so the history is true exactly when no id event among the last 32 comes into
  a slot that a task event has been in.

The conversion of a time point to text is a parameter: it reads the system clock and the time zone.
-/

set_option autoImplicit false

namespace AppExecFwk

open SlotRing

def HISTORY_EVENT_NUM_POWER : Nat := 32
def LINE_SEPARATOR : String := "\n"

structure HistoryEvent where
  senderKernelThreadId : Nat := 0
  taskName : String := ""
  innerEventId : EventId := .u32 0
  hasTask : Bool := false
  sendTime : Int := 0
  handleTime : Int := 0
  triggerTime : Int := 0
  completeTime : Int := 0
  priority : Int := -1
  callerInfo : String := ""
  deriving DecidableEq, Repr

/-- The history fields of `EventQueueBase`, with `currentRunningEvent_`, which is written along. -/
structure HistoryQueue where
  historyEvents : Vector HistoryEvent HISTORY_EVENT_NUM_POWER
  historyEventIndex : Nat
  index_lt : historyEventIndex < HISTORY_EVENT_NUM_POWER
  currentRunningEvent : CurrentRunningEvent

namespace HistoryQueue

def create : HistoryQueue where
  historyEvents := Vector.replicate HISTORY_EVENT_NUM_POWER {}
  historyEventIndex := 0
  index_lt := by decide
  currentRunningEvent := {}

/-- `historyEvents_[historyEventIndex_]`. -/
def slot (h : HistoryQueue) : HistoryEvent := h.historyEvents.get ⟨h.historyEventIndex, h.index_lt⟩

def setSlot (h : HistoryQueue) (e : HistoryEvent) : HistoryQueue :=
  { h with historyEvents := h.historyEvents.set h.historyEventIndex e h.index_lt }

/-- The writes of `PushHistoryQueueBeforeDistribute` to a slot. -/
def fillSlot (event : InnerEvent) (trigger : ClockTime) (slot : HistoryEvent) : HistoryEvent :=
  let slot := { slot with
    senderKernelThreadId := event.senderKernelThreadId
    sendTime := event.sendTime
    handleTime := event.handleTime
    triggerTime := trigger.ns
    priority := event.priority
    completeTime := TimePoint.max
    callerInfo := event.caller.toString }
  if event.hasTask then { slot with hasTask := true, taskName := event.taskName }
  else { slot with innerEventId := event.innerEventId }

/-- `PushHistoryQueueBeforeDistribute`; the clock is read for the slot and for
    `currentRunningEvent_`. -/
def pushHistoryQueueBeforeDistribute (event : Option InnerEvent) (trigger running : ClockTime)
    (h : HistoryQueue) : HistoryQueue :=
  match event with
  | none => h
  | some event =>
    { h.setSlot (fillSlot event trigger h.slot) with
      currentRunningEvent := { h.currentRunningEvent with triggerTime := running.ns } }

/-- `historyEventIndex_++` of a `uint8_t`, then the mask. -/
def nextIndex (i : Nat) : Nat := ((i + 1) % 256) &&& (HISTORY_EVENT_NUM_POWER - 1)

theorem nextIndex_eq (i : Nat) : nextIndex i = (i + 1) % HISTORY_EVENT_NUM_POWER := by
  have h : ((i + 1) % 256) &&& (2 ^ 5 - 1) = ((i + 1) % 256) % 2 ^ 5 :=
    Nat.and_two_pow_sub_one_eq_mod _ 5
  exact h.trans (Nat.mod_mod_of_dvd _ (by decide))

theorem nextIndex_lt (i : Nat) : nextIndex i < HISTORY_EVENT_NUM_POWER := by
  rw [nextIndex_eq]
  exact Nat.mod_lt _ (by decide)

/-- `PushHistoryQueueAfterDistribute`. -/
def pushHistoryQueueAfterDistribute (complete : ClockTime) (h : HistoryQueue) : HistoryQueue :=
  let h := h.setSlot { h.slot with completeTime := complete.ns }
  { h with historyEventIndex := nextIndex h.historyEventIndex, index_lt := nextIndex_lt _ }

/-! ## The text of a slot -/

def prioritys : List String := ["VIP", "Immediate", "High", "Low", "IDEL"]

/-- `DumpCurrentRunningEventId`. -/
def dumpCurrentRunningEventId : EventId → String
  | .u32 id => ", id = " ++ toString id.toNat
  | .str id => ", id = " ++ id

/-- The text in front of the task name or id. -/
def dumpHead (dumpTimeToString : Int → String) (e : HistoryEvent) : String :=
  "Event \x7b " ++ ("send thread = " ++ toString e.senderKernelThreadId) ++
    (", send time = " ++ dumpTimeToString e.sendTime) ++
    (", handle time = " ++ dumpTimeToString e.handleTime) ++
    (", trigger time = " ++ dumpTimeToString e.triggerTime) ++
    (if e.completeTime = TimePoint.max then ", completeTime time = "
      else ", completeTime time = " ++ dumpTimeToString e.completeTime) ++
    (if 0 ≤ e.priority ∧ e.priority < prioritys.length then
      ", priority = " ++ prioritys.getD e.priority.toNat "" else ", priority = ")

/-- The text for a task name or id. -/
def dumpName (hasTask : Bool) (taskName : String) (innerEventId : EventId) : String :=
  if hasTask then ", task name = " ++ taskName else dumpCurrentRunningEventId innerEventId

/-- The text behind the task name or id. -/
def dumpTail (e : HistoryEvent) : String := ", caller = " ++ e.callerInfo ++ (" \x7d" ++ LINE_SEPARATOR)

/-- `HistoryQueueDump`. -/
def historyQueueDump (dumpTimeToString : Int → String) (e : HistoryEvent) : String :=
  dumpHead dumpTimeToString e ++ dumpName e.hasTask e.taskName e.innerEventId ++ dumpTail e

end HistoryQueue

open HistoryQueue

/-! ## Dispatches -/

/-- One dispatch: the event and the three readings of the clock. -/
structure Dispatch where
  event : InnerEvent
  trigger : ClockTime
  running : ClockTime
  complete : ClockTime

/-- `PushHistoryQueueBeforeDistribute`, then `PushHistoryQueueAfterDistribute`. -/
def HistoryQueue.dispatch (h : HistoryQueue) (d : Dispatch) : HistoryQueue :=
  (h.pushHistoryQueueBeforeDistribute (some d.event) d.trigger d.running).pushHistoryQueueAfterDistribute
    d.complete

/-- The history of a new queue after the dispatches of a list. -/
def HistoryQueue.dispatchAll (ds : List Dispatch) : HistoryQueue :=
  ds.foldl HistoryQueue.dispatch .create

/-- The slots with the position, as a ring. -/
def HistoryQueue.ring (h : HistoryQueue) : SlotRing HistoryEvent HISTORY_EVENT_NUM_POWER :=
  ⟨h.historyEvents, h.historyEventIndex, h.index_lt⟩

/-- What a dispatch does to its slot. -/
def Dispatch.writeInto (d : Dispatch) (slot : HistoryEvent) : HistoryEvent :=
  { fillSlot d.event d.trigger slot with completeTime := d.complete.ns }

theorem slot_setSlot (h : HistoryQueue) (e : HistoryEvent) : (h.setSlot e).slot = e := by
  have hcur := SlotRing.current_eq (r := (h.setSlot e).ring) h.index_lt rfl
  exact hcur.trans (Vector.getElem_set_self h.index_lt)

/-- **A dispatch is one write of the ring.** -/
theorem dispatch_ring (h : HistoryQueue) (d : Dispatch) :
    (h.dispatch d).ring = h.ring.write d.writeInto := by
  have hslots : (h.dispatch d).historyEvents =
      (h.setSlot (d.writeInto h.slot)).historyEvents := by
    show (h.historyEvents.set _ _ h.index_lt).set _
      { (h.setSlot (fillSlot d.event d.trigger h.slot)).slot with
        completeTime := d.complete.ns } h.index_lt = _
    rw [Vector.set_set, slot_setSlot]
    rfl
  unfold HistoryQueue.ring SlotRing.write
  congr 1
  exact nextIndex_eq _

theorem dispatchAll_ring (ds : List Dispatch) :
    (dispatchAll ds).ring = HistoryQueue.create.ring.writeAll Dispatch.writeInto ds := by
  induction ds using List.reverseRecOn with
  | nil => rfl
  | append_singleton ds d ih =>
    rw [writeAll_append_singleton, ← ih, ← dispatch_ring]
    simp [dispatchAll]

/-- The slot of the `k`-th dispatch. -/
def HistoryQueue.slotOf (h : HistoryQueue) (k : Nat) : HistoryEvent :=
  h.historyEvents.get ⟨k % HISTORY_EVENT_NUM_POWER, Nat.mod_lt _ (by decide)⟩

/-- A slot holds what the dispatches of its lane wrote. -/
theorem slotOf_dispatchAll (ds : List Dispatch) (k : Nat) :
    (dispatchAll ds).slotOf k =
      (lane HISTORY_EVENT_NUM_POWER (k % HISTORY_EVENT_NUM_POWER) ds).foldl
        (fun s d => d.writeInto s) {} := by
  have hk : k % HISTORY_EVENT_NUM_POWER < HISTORY_EVENT_NUM_POWER := Nat.mod_lt _ (by decide)
  have h := writeAll_slots Dispatch.writeInto HistoryQueue.create.ring rfl ds hk
  rw [← dispatchAll_ring] at h
  refine h.trans ?_
  congr 1
  simp [HistoryQueue.ring, HistoryQueue.create]

/-! ## The fields of a slot -/

/-- The writes of a lane to a slot. -/
def writeLane (ds : List Dispatch) : HistoryEvent :=
  ds.foldl (fun s d => d.writeInto s) {}

theorem writeLane_append_singleton (ds : List Dispatch) (d : Dispatch) :
    writeLane (ds ++ [d]) = d.writeInto (writeLane ds) := by
  simp [writeLane]

/-- The fields every dispatch writes are those of the last dispatch. -/
theorem writeLane_last {ds : List Dispatch} {d : Dispatch} (h : ds.getLast? = some d) :
    ∃ s, writeLane ds = d.writeInto s := by
  obtain ⟨ys, rfl⟩ := List.getLast?_eq_some_iff.1 h
  exact ⟨_, writeLane_append_singleton ys d⟩

theorem writeInto_hasTask (d : Dispatch) (s : HistoryEvent) :
    (d.writeInto s).hasTask = (s.hasTask || d.event.hasTask) := by
  unfold Dispatch.writeInto fillSlot
  cases d.event.hasTask <;> simp

/-- `hasTask` is never cleared. -/
theorem writeLane_hasTask (ds : List Dispatch) :
    (writeLane ds).hasTask = ds.any (fun d => d.event.hasTask) := by
  induction ds using List.reverseRecOn with
  | nil => rfl
  | append_singleton ds d ih =>
    rw [writeLane_append_singleton, writeInto_hasTask, ih, List.any_append]
    simp

/-- The slot has the times, the priority and the caller of the event, and the time it was done. -/
structure RecordsDispatch (s : HistoryEvent) (d : Dispatch) : Prop where
  sender : s.senderKernelThreadId = d.event.senderKernelThreadId
  sendTime : s.sendTime = d.event.sendTime
  handleTime : s.handleTime = d.event.handleTime
  triggerTime : s.triggerTime = d.trigger.ns
  priority : s.priority = d.event.priority
  caller : s.callerInfo = d.event.caller.toString
  complete : s.completeTime = d.complete.ns
  completed : s.completeTime ≠ TimePoint.max

theorem writeInto_records (d : Dispatch) (s : HistoryEvent) : RecordsDispatch (d.writeInto s) d := by
  unfold Dispatch.writeInto fillSlot
  have hmax : d.complete.ns ≠ TimePoint.max := ne_of_lt d.complete.lt_max
  split <;> exact ⟨rfl, rfl, rfl, rfl, rfl, rfl, rfl, hmax⟩

theorem writeInto_name (d : Dispatch) (s : HistoryEvent) :
    (d.event.hasTask = true → (d.writeInto s).taskName = d.event.taskName) ∧
      (d.event.hasTask = false → (d.writeInto s).innerEventId = d.event.innerEventId) := by
  unfold Dispatch.writeInto fillSlot
  constructor
  · intro h
    simp [h]
  · intro h
    simp [h]

/-- The slot of one of the last 32 dispatches was written by it last. -/
theorem slotOf_recent {ds : List Dispatch} {k : Nat} {d : Dispatch} (h : ds[k]? = some d)
    (hk : ds.length ≤ k + HISTORY_EVENT_NUM_POWER) :
    (∃ s, (dispatchAll ds).slotOf k = d.writeInto s) ∧
      ((dispatchAll ds).slotOf k).hasTask =
        (lane HISTORY_EVENT_NUM_POWER (k % HISTORY_EVENT_NUM_POWER) ds).any
          (fun d => d.event.hasTask) := by
  have hslot := slotOf_dispatchAll ds k
  obtain ⟨s, hs⟩ := writeLane_last (lane_getLast h hk)
  exact ⟨⟨s, hslot.trans hs⟩, (congrArg HistoryEvent.hasTask hslot).trans (writeLane_hasTask _)⟩

/-- The slots beyond the number of dispatches are as constructed. -/
theorem slotOf_unused {ds : List Dispatch} {i : Nat} (hi : i < HISTORY_EVENT_NUM_POWER)
    (h : ds.length ≤ i) : (dispatchAll ds).slotOf i = {} := by
  rw [slotOf_dispatchAll, Nat.mod_eq_of_lt hi, lane_eq_nil h]
  rfl

/-! ## What the dump says -/

/-- The text of a task name is not that of an id. -/
theorem dumpName_ne (name : String) (id : EventId) :
    ", task name = " ++ name ≠ dumpCurrentRunningEventId id := by
  intro h
  have hc := congrArg (fun s : String => s.toList.drop 2 |>.head?) h
  cases id <;> simp [dumpCurrentRunningEventId] at hc

/-- The text printed for a slot names the event: the task name iff it has a task, its own id
    otherwise. -/
def NamesEvent (dumpTimeToString : Int → String) (s : HistoryEvent) (e : InnerEvent) : Prop :=
  historyQueueDump dumpTimeToString s =
    dumpHead dumpTimeToString s ++
      (if e.hasTask then ", task name = " ++ e.taskName else dumpCurrentRunningEventId e.innerEventId) ++
      dumpTail s

/-- The slot of one of the last 32 dispatches names its event iff it has the event's `hasTask`. -/
theorem namesEvent_iff (dumpTimeToString : Int → String) (d : Dispatch) (s : HistoryEvent) :
    NamesEvent dumpTimeToString (d.writeInto s) d.event ↔
      (d.writeInto s).hasTask = d.event.hasTask := by
  obtain ⟨hname, hid⟩ := writeInto_name d s
  unfold NamesEvent historyQueueDump
  rw [String.append_left_inj, String.append_right_inj]
  unfold dumpName
  cases htask : d.event.hasTask with
  | true =>
    rw [hname htask, if_pos rfl]
    cases (d.writeInto s).hasTask with
    | true => simp
    | false => simpa using (dumpName_ne _ _).symm
  | false =>
    rw [hid htask]
    simp only [Bool.false_eq_true, if_false]
    cases (d.writeInto s).hasTask with
    | true => simpa using dumpName_ne _ _
    | false => simp

/-- The history tells the truth about a list of dispatches: the last 32 are in the slots of their
    positions, the other slots are as constructed, and the texts name the events. -/
structure HistoryTrue (dumpTimeToString : Int → String) (ds : List Dispatch) (h : HistoryQueue) :
    Prop where
  records : ∀ k d, ds[k]? = some d → ds.length ≤ k + HISTORY_EVENT_NUM_POWER →
    RecordsDispatch (h.slotOf k) d
  unused : ∀ i, i < HISTORY_EVENT_NUM_POWER → ds.length ≤ i → h.slotOf i = {}
  names : ∀ k d, ds[k]? = some d → ds.length ≤ k + HISTORY_EVENT_NUM_POWER →
    NamesEvent dumpTimeToString (h.slotOf k) d.event

/-- An id event among the last 32 dispatches comes into a slot that a task event has been in. -/
def FollowsTask (ds : List Dispatch) : Prop :=
  ∃ (k : Nat) (d : Dispatch) (j : Nat) (d' : Dispatch),
    ds[k]? = some d ∧ ds.length ≤ k + HISTORY_EVENT_NUM_POWER ∧ d.event.hasTask = false ∧
      j < k ∧ j % HISTORY_EVENT_NUM_POWER = k % HISTORY_EVENT_NUM_POWER ∧ ds[j]? = some d' ∧
      d'.event.hasTask = true

/-- Behind a task event an id event of the same slot is printed as a task. -/
theorem FollowsTask.untrue {ds : List Dispatch} (h : FollowsTask ds)
    (dumpTimeToString : Int → String) : ¬ HistoryTrue dumpTimeToString ds (dispatchAll ds) := by
  obtain ⟨k, d, j, d', hd, hk, htask, -, hmod, hd', htask'⟩ := h
  obtain ⟨⟨s, hs⟩, hany⟩ := slotOf_recent hd hk
  intro htrue
  have hname := htrue.names k d hd hk
  rw [hs, namesEvent_iff, ← hs, hany, htask, List.any_eq_false] at hname
  exact hname d' (mem_lane.2 ⟨j, hd', hmod⟩) htask'

/-- **The history of a list of dispatches is true exactly when no id event among the last 32 comes
    into a slot that a task event has been in.** -/
theorem historyRing_iff (dumpTimeToString : Int → String) (ds : List Dispatch) :
    HistoryTrue dumpTimeToString ds (dispatchAll ds) ↔ ¬ FollowsTask ds := by
  constructor
  · exact fun htrue h => h.untrue dumpTimeToString htrue
  · intro h
    refine ⟨fun k d hd hk => ?_, fun i hi hle => slotOf_unused hi hle, fun k d hd hk => ?_⟩
    · obtain ⟨⟨s, hs⟩, -⟩ := slotOf_recent hd hk
      rw [hs]
      exact writeInto_records d s
    · obtain ⟨⟨s, hs⟩, hany⟩ := slotOf_recent hd hk
      rw [hs, namesEvent_iff, ← hs, hany]
      cases htask : d.event.hasTask with
      | true =>
        rw [List.any_eq_true]
        exact ⟨d, List.mem_of_getLast? (lane_getLast hd hk), htask⟩
      | false =>
        rw [List.any_eq_false]
        intro d' hd'
        obtain ⟨j, hj, hmod⟩ := mem_lane.1 hd'
        have hjlt := (List.getElem?_eq_some_iff.1 hj).1
        by_cases hjk : j = k
        · subst hjk
          rw [hd] at hj
          rw [← Option.some.inj hj, htask]
          decide
        · have hlt : j < k := by
            by_contra hge
            have hdvd : HISTORY_EVENT_NUM_POWER ∣ j - k :=
              (Nat.modEq_iff_dvd' (by omega)).1 hmod.symm
            have hle := Nat.le_of_dvd (by omega) hdvd
            omega
          intro htask'
          exact h ⟨k, d, j, d', hd, hk, htask, hlt, hmod, hj, htask'⟩

/-- A dispatch of an id event, and one of a task. -/
def idDispatch (id : UInt32) : Dispatch :=
  let t : ClockTime := ⟨1, by decide, by decide⟩
  ⟨{ handleTime := 1, sendTime := 1, innerEventId := .u32 id }, t, t, t⟩

def taskDispatch (name : String) : Dispatch :=
  { idDispatch 0 with event := { (idDispatch 0).event with hasTask := true, taskName := name } }

/-- A task, then 32 id events: the last one is printed under the name of the task. -/
theorem historyRing_stale : ¬ ∀ (dumpTimeToString : Int → String) (ds : List Dispatch),
    HistoryTrue dumpTimeToString ds (dispatchAll ds) := by
  intro h
  have hf : FollowsTask (taskDispatch "t" :: List.replicate 32 (idDispatch 7)) :=
    ⟨32, idDispatch 7, 0, taskDispatch "t", rfl, by decide, rfl, by decide, rfl, rfl, rfl⟩
  exact hf.untrue (fun _ => "") (h _ _)

end AppExecFwk
