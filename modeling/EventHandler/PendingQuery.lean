import EventHandler.ListenerAtomicity
import EventHandler.QueueSystem

/-!
# The pending-task query

`QueryPendingTaskInfo` looks up the task name that a descriptor is registered with, and goes through
the VIP sub-queue for the events of that name: how many there are, and for how long the longest of
them has been due.

* `notePending`, `queryPendingTaskInfo` — the loop and the call: what it logs and what it returns.
* `ReportsPending` — a report has the number of the events, and the maximum of their delays.
* `queryPendingTaskInfo_logged` — the loop counts right, and the call logs what it counted.
* `pendingQuery_iff` — what the call returns is right exactly when there is nothing to report.
-/

set_option autoImplicit false

namespace AppExecFwk

def INT32_MAX : Int := 2147483647

/-- Conversion to `int32_t`. -/
def toInt32 (x : Int) : Int := Int.bmod x 4294967296

structure PendingTaskInfo where
  maxPendingTime : Int := 0
  taskCount : Int := 0
  deriving DecidableEq, Repr

/-- What a call does: the report it logs, and the one it returns. -/
structure PendingQuery where
  logged : Option PendingTaskInfo
  result : PendingTaskInfo
  deriving DecidableEq, Repr

/-! ## The query -/

/-- The whole milliseconds between the handle time and `now`. -/
def pendingDuration (now : Int) (event : InnerEvent) : Int :=
  (now - event.handleTime).tdiv MILLISECONDS_TO_NANOSECONDS_RATIO

/-- One round of the loop of `QueryPendingTaskInfo`. -/
def notePending (now : Int) (taskName : String) (pendingTaskInfo : PendingTaskInfo)
    (event : InnerEvent) : PendingTaskInfo :=
  if event.taskName = taskName then
    let counted := { pendingTaskInfo with taskCount := pendingTaskInfo.taskCount + 1 }
    if event.handleTime ≥ now then counted
    else if pendingDuration now event > counted.maxPendingTime then
      { counted with maxPendingTime := toInt32 (pendingDuration now event) }
    else counted
  else pendingTaskInfo

/-- The `fileDescriptorInfo` of `QueryPendingTaskInfo`; a `NoneIoWaiter` has none. -/
def ListenerQueue.fileDescriptorInfo (t : ListenerQueue) (fileDescriptor : Int) :
    Option FileDescriptorInfo :=
  if t.useDeamonIoWaiter then t.deamonIoWaiter.fileDescriptorMap.lookup fileDescriptor
  else t.ioWaiter.bind fun w => w.fileDescriptorMap.lookup fileDescriptor

/-- `QueryPendingTaskInfo`. -/
def ListenerQueue.queryPendingTaskInfo (t : ListenerQueue) (q : EventQueueBase) (now : ClockTime)
    (fileDescriptor : Int) : PendingQuery :=
  match t.fileDescriptorInfo fileDescriptor with
  | none => ⟨none, {}⟩
  | some info =>
    if q.usable = false then ⟨none, {}⟩
    else
      let pendingTaskInfo :=
        (q.subEventQueues 0).queue.foldl (notePending now.ns info.taskName) {}
      -- the source returns `PendingTaskInfo()`, not the report it has made
      ⟨some pendingTaskInfo, {}⟩

/-! ## What it should report -/

/-- The descriptor has a map entry in one of the two waiters. -/
def ListenerQueue.RegisteredAs (t : ListenerQueue) (fd : Int) (info : FileDescriptorInfo) : Prop :=
  t.deamonIoWaiter.fileDescriptorMap.lookup fd = some info ∨
    ∃ w, t.ioWaiter = some w ∧ w.fileDescriptorMap.lookup fd = some info

/-- For how many whole milliseconds an event has been due; 0 for one that is not due. -/
def overdueMs (now : Int) (event : InnerEvent) : Int :=
  max 0 ((now - event.handleTime) / MILLISECONDS_TO_NANOSECONDS_RATIO)

/-- The delays of the events with the name, and 0. -/
def pendingTimes (now : Int) (taskName : String) (events : List InnerEvent) : Set Int :=
  {d | d = 0 ∨ ∃ e ∈ events, e.taskName = taskName ∧ d = overdueMs now e}

structure ReportsPending (now : Int) (taskName : String) (events : List InnerEvent)
    (r : PendingTaskInfo) : Prop where
  count : r.taskCount = events.countP fun e => e.taskName = taskName
  greatest : IsGreatest (pendingTimes now taskName events) r.maxPendingTime

/-- The delays of the events with the name are held in 32 bits. -/
def PendingFits (now : Int) (taskName : String) (events : List InnerEvent) : Prop :=
  ∀ e ∈ events, e.taskName = taskName → overdueMs now e ≤ INT32_MAX

/-! ## The loop -/

variable {now : Int} {taskName : String} {events : List InnerEvent} {e : InnerEvent}
  {r : PendingTaskInfo}

theorem toInt32_of_range {x : Int} (h : 0 ≤ x) (h' : x ≤ INT32_MAX) : toInt32 x = x := by
  unfold toInt32
  unfold INT32_MAX at h'
  rw [Int.bmod_def]
  split <;> omega

theorem overdueMs_of_due (h : e.handleTime < now) : pendingDuration now e = overdueMs now e := by
  unfold pendingDuration overdueMs MILLISECONDS_TO_NANOSECONDS_RATIO
  rw [Int.tdiv_eq_ediv_of_nonneg (by omega)]
  omega

theorem overdueMs_of_early (h : now ≤ e.handleTime) : overdueMs now e = 0 := by
  unfold overdueMs MILLISECONDS_TO_NANOSECONDS_RATIO
  omega

/-- A round adds the event to the count, and its delay to the maximum. -/
theorem notePending_named (h : e.taskName = taskName) (hr : 0 ≤ r.maxPendingTime)
    (hfits : overdueMs now e ≤ INT32_MAX) :
    notePending now taskName r e = ⟨max r.maxPendingTime (overdueMs now e), r.taskCount + 1⟩ := by
  unfold notePending
  rw [if_pos h]
  by_cases hdue : e.handleTime < now
  · have hnonneg : 0 ≤ overdueMs now e := le_max_left 0 _
    rw [if_neg (by omega), overdueMs_of_due hdue, toInt32_of_range hnonneg hfits]
    simp only
    split
    · rename_i hgt
      rw [max_eq_right hgt.le]
    · rename_i hle
      rw [max_eq_left (by omega)]
  · rw [if_pos (by omega), overdueMs_of_early (by omega), max_eq_left hr]

theorem notePending_other (h : e.taskName ≠ taskName) : notePending now taskName r e = r := by
  unfold notePending
  rw [if_neg h]

theorem pendingTimes_cons_named (h : e.taskName = taskName) :
    pendingTimes now taskName (e :: events) =
      insert (overdueMs now e) (pendingTimes now taskName events) := by
  ext d
  simp only [pendingTimes, Set.mem_ofPred_eq, Set.mem_insert_iff, List.mem_cons]
  constructor
  · rintro (h0 | ⟨x, rfl | hx, hname, hd⟩)
    · exact Or.inr (Or.inl h0)
    · exact Or.inl hd
    · exact Or.inr (Or.inr ⟨x, hx, hname, hd⟩)
  · rintro (hd | h0 | ⟨x, hx, hname, hd⟩)
    · exact Or.inr ⟨e, Or.inl rfl, h, hd⟩
    · exact Or.inl h0
    · exact Or.inr ⟨x, Or.inr hx, hname, hd⟩

theorem pendingTimes_cons_other (h : e.taskName ≠ taskName) :
    pendingTimes now taskName (e :: events) = pendingTimes now taskName events := by
  ext d
  simp only [pendingTimes, Set.mem_ofPred_eq, List.mem_cons]
  constructor
  · rintro (h0 | ⟨x, rfl | hx, hname, hd⟩)
    · exact Or.inl h0
    · exact absurd hname h
    · exact Or.inr ⟨x, hx, hname, hd⟩
  · rintro (h0 | ⟨x, hx, hname, hd⟩)
    · exact Or.inl h0
    · exact Or.inr ⟨x, Or.inr hx, hname, hd⟩

/-- The report of no events. -/
theorem reportsPending_nil : ReportsPending now taskName [] {} := by
  refine ⟨rfl, Or.inl rfl, ?_⟩
  rintro d (rfl | ⟨x, hx, -⟩)
  · exact le_rfl
  · cases hx

/-- What the loop adds to a report that it starts from. -/
theorem foldl_notePending (hfits : PendingFits now taskName events) :
    ∀ r : PendingTaskInfo, 0 ≤ r.maxPendingTime →
      ∃ m, IsGreatest (pendingTimes now taskName events) m ∧
        events.foldl (notePending now taskName) r =
          ⟨max r.maxPendingTime m, r.taskCount + events.countP fun e => e.taskName = taskName⟩ := by
  induction events with
  | nil =>
    intro r hr
    exact ⟨0, reportsPending_nil.greatest, by simp [hr]⟩
  | cons e es ih =>
    intro r hr
    have hes : PendingFits now taskName es := fun x hx => hfits x (List.mem_cons_of_mem e hx)
    rw [List.foldl_cons]
    by_cases hname : e.taskName = taskName
    · rw [notePending_named hname hr (hfits e List.mem_cons_self hname)]
      obtain ⟨m, hm, hfold⟩ := ih hes ⟨max r.maxPendingTime (overdueMs now e), r.taskCount + 1⟩
        (hr.trans (le_max_left _ _))
      refine ⟨max (overdueMs now e) m, ?_, ?_⟩
      · rw [pendingTimes_cons_named hname]
        exact hm.insert (overdueMs now e)
      · rw [hfold, List.countP_cons_of_pos (by simpa using hname), max_assoc]
        simp only [Nat.cast_add, Nat.cast_one, PendingTaskInfo.mk.injEq, true_and]
        omega
    · rw [notePending_other hname]
      obtain ⟨m, hm, hfold⟩ := ih hes r hr
      refine ⟨m, ?_, ?_⟩
      · rw [pendingTimes_cons_other hname]
        exact hm
      · rw [hfold, List.countP_cons_of_neg (by simpa using hname)]

/-- **The loop makes the report.** -/
theorem foldl_notePending_reports (hfits : PendingFits now taskName events) :
    ReportsPending now taskName events (events.foldl (notePending now taskName) {}) := by
  obtain ⟨m, hm, hfold⟩ := foldl_notePending hfits {} le_rfl
  have hnonneg : 0 ≤ m := hm.2 (Or.inl rfl)
  rw [hfold]
  refine ⟨by simp, ?_⟩
  rwa [max_eq_right hnonneg]

/-- **A call that finds the name in a usable queue logs a right report.** -/
theorem queryPendingTaskInfo_logged {t : ListenerQueue} {q : EventQueueBase} {now : ClockTime}
    {fd : Int} {info : FileDescriptorInfo} (h : t.fileDescriptorInfo fd = some info)
    (hu : q.usable = true) (hfits : PendingFits now.ns info.taskName (q.events (some 0))) :
    ∃ r, (t.queryPendingTaskInfo q now fd).logged = some r ∧
      ReportsPending now.ns info.taskName (q.events (some 0)) r := by
  refine ⟨_, ?_, foldl_notePending_reports hfits⟩
  unfold ListenerQueue.queryPendingTaskInfo
  rw [h]
  simp [hu]

/-! ## The result -/

/-- Every exit returns the report of no events. -/
theorem queryPendingTaskInfo_result (t : ListenerQueue) (q : EventQueueBase) (now : ClockTime)
    (fd : Int) : (t.queryPendingTaskInfo q now fd).result = {} := by
  unfold ListenerQueue.queryPendingTaskInfo
  split
  · rfl
  · split <;> rfl

/-- The report of no events is right when there are none. -/
theorem reportsPending_empty_iff :
    ReportsPending now taskName events {} ↔ ∀ e ∈ events, e.taskName ≠ taskName := by
  constructor
  · intro h e he hname
    have hzero : events.countP (fun e => e.taskName = taskName) = 0 := by
      have hcount := h.count
      simp only at hcount
      omega
    rw [List.countP_eq_zero] at hzero
    exact hzero e he (by simpa using hname)
  · intro h
    refine ⟨?_, Or.inl rfl, ?_⟩
    · have hzero : events.countP (fun e => e.taskName = taskName) = 0 := by
        rw [List.countP_eq_zero]
        intro e he
        simpa using h e he
      rw [hzero]
      rfl
    · rintro d (rfl | ⟨e, he, hname, -⟩)
      · exact le_rfl
      · exact absurd hname (h e he)

/-- What the query returns for a registered descriptor is the report of its task name. -/
def QueryReports (t : ListenerQueue) (q : EventQueueBase) (now : ClockTime) (fd : Int) : Prop :=
  ∀ info, t.RegisteredAs fd info →
    ReportsPending now.ns info.taskName (q.events (some 0)) (t.queryPendingTaskInfo q now fd).result

/-- **The query returns the right report exactly when no VIP event has the task name that the
    descriptor is registered with**, for every content of the queue and at every time. -/
theorem pendingQuery_iff (t : ListenerQueue) (q : EventQueueBase) (now : ClockTime) (fd : Int) :
    QueryReports t q now fd ↔
      ∀ info, t.RegisteredAs fd info → ∀ e ∈ q.events (some 0), e.taskName ≠ info.taskName := by
  unfold QueryReports
  rw [queryPendingTaskInfo_result]
  exact forall₂_congr fun info _ => reportsPending_empty_iff

/-- A queue with one VIP task for the descriptor 5, due since 2 ms. -/
def queueWithPending : ListenerQueue × EventQueueBase :=
  ({ usable := true
     useDeamonIoWaiter := false
     ioWaiter := some ⟨true, ∅, (∅ : AList fun _ : Int => FileDescriptorInfo).insert 5 ⟨"t", .VIP, 0⟩⟩
     deamonIoWaiter := ⟨false, ∅, ∅⟩
     listeners := ∅
     object := fun _ => { owner := none } },
   (EventQueueBase.create 0).setSub 0
    { queue := [{ plainEvent (atMs 1) with hasTask := true, taskName := "t" }] })

/-- The query of a descriptor with a pending task reports none. -/
theorem pendingQuery_forgets : ¬ ∀ t q now fd, QueryReports t q now fd := by
  intro h
  have hreg : queueWithPending.1.RegisteredAs 5 ⟨"t", .VIP, 0⟩ := Or.inr ⟨_, rfl, by decide⟩
  have hcount := (h queueWithPending.1 queueWithPending.2 (atMs 3) 5 _ hreg).count
  exact absurd hcount (by decide)

end AppExecFwk
