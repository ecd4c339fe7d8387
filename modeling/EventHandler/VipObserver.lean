import EventHandler.VipBarrier
import EventHandler.PriorityIndex
import EventHandler.Runner
import EventHandler.Deadline

/-!
# The observer of VIP events

Model of the notifications that `event_queue_base.cpp` and `event_runner.cpp` make when they are
compiled with `NOTIFICATIONG_SMART_GC`.  `Insert` notifies `STAGE_VIP_EXISTED` and sets
`isExistVipTask_`; the removals and the end of a dispatch notify `STAGE_VIP_NONE` when they find the
`VIP` sub-queue empty, and reset the flag.

* `VipSys` — the queue with the events taken from it and not yet finished, the flag and the stages
  notified; `vipSystem` — its operations in any order.
* `VipMatches` — with no `VIP` event queued or unfinished, the flag is off and `STAGE_VIP_EXISTED`
  was not the last stage.
* `missesVipDone` — the steps that take the last `VIP` event away and notify nothing.
* `vipObserver_iff` — runs without such a step keep `VipMatches`, and each such step breaks it.
-/

set_option autoImplicit false

namespace AppExecFwk

open Transition EventQueueBase

/-- The two `EventRunnerStage`s about `VIP` events. -/
inductive VipStage where
  | STAGE_VIP_EXISTED
  | STAGE_VIP_NONE
  deriving DecidableEq, Repr

def VipStage.value : VipStage → Nat
  | .STAGE_VIP_EXISTED => 16
  | .STAGE_VIP_NONE => 32

/-- The observer is called for both stages. -/
def EventRunnerObserver.subscribesVip (o : EventRunnerObserver) : Bool :=
  o.subscribes VipStage.STAGE_VIP_EXISTED.value && o.subscribes VipStage.STAGE_VIP_NONE.value

structure VipSys where
  sys : Sys
  /-- The events taken from the queue whose dispatch has not ended. -/
  unfinished : List InnerEvent
  isExistVipTask : Bool
  /-- The two stages, as the observer was called for them. -/
  notified : List VipStage

inductive VipOp where
  | queue (op : Op)
  | executeEventHandler (p : Process) (event : InnerEvent)

/-- What a run may contain: the dispatch of an event is `executeEventHandler`, and the observer
    stays subscribed. -/
def Op.observed : Op → Bool
  | .execute => false
  | .release => false
  | .flag (.addObserver o) => o.subscribesVip
  | _ => true

/-- The event that `GetEvent` or `GetExpiredEvent` takes from the queue. -/
def Sys.takenEvent (P : SystemParameters) (s : Sys) : Op → Option InnerEvent
  | .getExpiredEvent now next => (s.queue.getExpiredEventLocked now next TimePoint.max).event
  | .pass clk => (s.queue.getEventPass P clk).pass.event
  | _ => none

/-- The event has been returned: `GetEvent` is not polling with it in hand. -/
def Sys.handedOut (s : Sys) (event : InnerEvent) : Bool :=
  match s.pc with
  | .polling e _ => decide (event ≠ e)
  | _ => true

namespace VipSys

def vipEvents (s : VipSys) : List InnerEvent := s.sys.queue.events (some 0)

/-- `HasVipTask`. -/
def hasVipTask (s : VipSys) : Bool := !s.vipEvents.isEmpty

/-- `TryExecuteObserverCallback`. -/
def tryExecuteObserverCallback (s : VipSys) (stage : VipStage) : VipSys :=
  if s.sys.queue.observer.subscribes stage.value then { s with notified := s.notified ++ [stage] }
  else s

def notifyObserverVipDoneBase (s : VipSys) : VipSys :=
  if s.vipEvents.isEmpty then
    { s.tryExecuteObserverCallback .STAGE_VIP_NONE with isExistVipTask := false }
  else s

def notifyObserverVipDone (s : VipSys) (event : InnerEvent) : VipSys :=
  if event.priority ≠ Priority.toInt32 .VIP then s else s.notifyObserverVipDoneBase

/-- The end of `Insert`. -/
def notifyVipExisted (s : VipSys) (priority : Priority) : VipSys :=
  if priority = .VIP ∧ s.isExistVipTask = false then
    { s with isExistVipTask := true }.tryExecuteObserverCallback .STAGE_VIP_EXISTED
  else s

/-- The queue operation, without the notifications. -/
def afterQueue (P : SystemParameters) (s : VipSys) (op : Op) (t : Sys) : VipSys :=
  { s with sys := t, unfinished := s.unfinished ++ (s.sys.takenEvent P op).toList }

/-- The notifications of a queue operation; `RemoveAll` has none. -/
def afterOp (P : SystemParameters) (s : VipSys) (op : Op) (t : Sys) : VipSys :=
  match op with
  | .insert p now recv event priority ty option =>
    if (s.sys.insertOutcome p now recv event priority ty option).result then
      (s.afterQueue P op t).notifyVipExisted priority
    else s.afterQueue P op t
  | .remove _ =>
    if s.sys.queue.usable && s.hasVipTask then (s.afterQueue P op t).notifyObserverVipDoneBase
    else s.afterQueue P op t
  | .removeOrphan _ =>
    if s.sys.queue.usable && s.hasVipTask then (s.afterQueue P op t).notifyObserverVipDoneBase
    else s.afterQueue P op t
  | _ => s.afterQueue P op t

/-- `ExecuteEventHandler`: an event whose owner has expired is released without a notification. -/
def executeEventHandler (s : VipSys) (p : Process) (event : InnerEvent) : VipSys :=
  let s := { s with unfinished := s.unfinished.erase event }
  if event.ownerExpired p then s else s.notifyObserverVipDone event

def step (P : SystemParameters) (s : VipSys) : VipOp → Option VipSys
  | .queue op => if op.observed then (s.sys.step P op).map (s.afterOp P op) else none
  | .executeEventHandler p event =>
    if event ∈ s.unfinished ∧ s.sys.handedOut event = true then some (s.executeEventHandler p event)
    else none

/-- No `VIP` event is taken and unfinished. -/
def noVipUnfinished (events : List InnerEvent) : Bool :=
  events.all fun e => decide (e.priority ≠ Priority.toInt32 .VIP)

/-- The step takes the last `VIP` event away and notifies nothing. -/
def missesVipDone (s : VipSys) : VipOp → Bool
  | .queue .removeAll => s.sys.queue.usable && s.hasVipTask && noVipUnfinished s.unfinished
  | .queue _ => false
  | .executeEventHandler p event =>
    event.ownerExpired p && decide (event.priority = Priority.toInt32 .VIP) && !s.hasVipTask &&
      noVipUnfinished (s.unfinished.erase event) && s.isExistVipTask

end VipSys

/-- The observer is added before anything else happens. -/
def vipSystem (P : SystemParameters) (start : ClockTime) (observer : EventRunnerObserver) :
    System VipSys VipOp where
  init :=
    { sys := (queueSystem P start).next (queueSystem P start).init (.flag (.addObserver observer))
      unfinished := []
      isExistVipTask := false
      notified := [] }
  step := VipSys.step P

/-- With no `VIP` event queued or unfinished, the flag is off and the last of the two stages is not
    `STAGE_VIP_EXISTED`. -/
def VipMatches (s : VipSys) : Prop :=
  s.vipEvents = [] → VipSys.noVipUnfinished s.unfinished = true →
    s.isExistVipTask = false ∧ s.notified.getLast? ≠ some .STAGE_VIP_EXISTED

/-- Between any two notifications of `STAGE_VIP_EXISTED` there is one of `STAGE_VIP_NONE`. -/
def NoneBetween (notified : List VipStage) : Prop :=
  ∀ before between after : List VipStage,
    notified = before ++ [.STAGE_VIP_EXISTED] ++ between ++ [.STAGE_VIP_EXISTED] ++ after →
      .STAGE_VIP_NONE ∈ between

/-! ## The observer stays -/

section

variable {P : SystemParameters}

theorem pass_observer (clk : PassClock) (q : EventQueueBase) :
    (q.getEventPass P clk).queue.observer = q.observer := by
  have hexp := expired_observer P clk q
  have hx := q.getEventPass_cases P clk
  generalize q.getEventPass P clk = o at hx
  cases hx with
  | finished _ => rfl
  | expired e _ _ => exact hexp
  | lastVsync e _ _ _ _ => exact (pickFirstVsync_frame _).sameControl.observer.trans hexp
  | reset _ _ _ _ => exact (pickFirstVsync_frame _).sameControl.observer.trans hexp
  | wait _ _ _ => exact (beforeWaiting_sameControl _ _ _).observer.trans hexp

theorem queueStep_observer {s t : Sys} {a : Op} (ha : a.observed = true) (h : s.step P a = some t)
    (ho : s.queue.observer.subscribesVip = true) : t.queue.observer.subscribesVip = true := by
  have hsame : t.queue.observer = s.queue.observer → t.queue.observer.subscribesVip = true := by
    intro h
    rw [h]
    exact ho
  cases step_cases h with
  | insert p now recv event priority ty option _ =>
    refine hsame ?_
    unfold Sys.insertOutcome
    rw [insert_queue_eq]
  | remove selector _ => exact hsame (remove_onlyLists selector s.queue).sameControl.observer
  | removeOrphan p _ =>
    refine hsame ?_
    show (s.queue.removeOrphan p).observer = _
    rw [removeOrphan_eq]
  | removeAll _ => exact hsame (removeFilter_onlyLists _ s.queue).sameControl.observer
  | expiredEvent now next e _ _ =>
    exact hsame (getExpiredEventLocked_sameControl s.queue now next _).observer
  | expiredNone now next _ _ =>
    exact hsame (getExpiredEventLocked_sameControl s.queue now next _).observer
  | getEvent _ => exact ho
  | pass clk n _ =>
    refine hsame ?_
    rw [afterPass_queue]
    exact pass_observer clk s.queue
  | wakeUp _ _ => exact ho
  | pollReturn e need _ =>
    refine hsame ?_
    show (s.queue.afterPoll need).observer = _
    rw [afterPoll_eq]
  | execute e _ => cases ha
  | release _ _ => exact ho
  | flag op =>
    have hx := applyFlag_writes s.queue op
    generalize s.queue.applyFlag op = q' at hx
    cases hx with
    | addObserver o => exact ha
    | _ => exact ho

/-! ## The VIP sub-queue -/

/-- Only an accepted insertion as `VIP` adds to the sub-queue. -/
theorem insert_vip_cases (s : Sys) (p : Process) (now recv : ClockTime) (event : Option InnerEvent)
    (priority : Priority) (ty : EventInsertType) (option : VsyncBarrierOption) :
    ((s.insertOutcome p now recv event priority ty option).result = true ∧ priority = .VIP ∧
      (s.insertOutcome p now recv event priority ty option).queue.events (some 0) ≠ []) ∨
    (((s.insertOutcome p now recv event priority ty option).result = false ∨ priority ≠ .VIP) ∧
      (s.insertOutcome p now recv event priority ty option).queue.events (some 0) =
        s.queue.events (some 0)) := by
  unfold Sys.insertOutcome
  by_cases hstore : priority ≠ .VIP ∨ s.queue.usable = false ∨ event.map s.stamp = none
  · refine Or.inr ⟨?_, insert_vip_other hstore⟩
    rcases hstore with hp | hrejected
    · exact Or.inr hp
    · generalize event.map s.stamp = event at hrejected
      have hx := insert_cases p now recv s.queue event priority ty option
      generalize s.queue.insert p now recv event priority ty option = o at hx
      cases hx with
      | rejected _ _ => exact Or.inl rfl
      | sub _ i hu _ _ _ => simp [hu] at hrejected
      | idle _ hu _ => simp [hu] at hrejected
      | unnamed _ hu _ _ => simp [hu] at hrejected
  · simp only [not_or, not_not, Bool.not_eq_false] at hstore
    obtain ⟨rfl, hu, hne⟩ := hstore
    obtain ⟨event', hevent⟩ := Option.ne_none_iff_exists'.1 hne
    rw [hevent]
    obtain ⟨hresult, hlist, -⟩ := @insert_slot p now recv s.queue event' .VIP ty option _ hu rfl
    refine Or.inl ⟨hresult, rfl, ?_⟩
    rw [hlist]
    exact List.ne_nil_of_mem (mem_insertEventsLocked.2 (Or.inl rfl))

/-- An event taken from the sub-queue has its priority; another one leaves the sub-queue alone. -/
theorem taken_vip {q q' : EventQueueBase} {p : InnerEvent → Bool} {k : Option SubIndex}
    {e : InnerEvent} (hhome : PriorityHome q) (h : Takes p k e q q') :
    (q'.events (some 0)).Sublist (q.events (some 0)) ∧
      (q'.events (some 0) = q.events (some 0) ∨ e.priority = Priority.toInt32 .VIP) := by
  refine ⟨h.sublist (some 0), ?_⟩
  by_cases hk : k = some 0
  · subst hk
    exact Or.inr (hhome 0 e h.mem)
  · exact Or.inl (h.other (some 0) (Ne.symm hk))

/-! ## The notifications -/

/-- The flag says which of the two stages was the last, and `STAGE_VIP_EXISTED` is followed by
    `STAGE_VIP_NONE`. -/
structure VipFlagged (s : VipSys) : Prop where
  observer : s.sys.queue.observer.subscribesVip = true
  flag : s.isExistVipTask = true ↔ s.notified.getLast? = some .STAGE_VIP_EXISTED
  chain : s.notified.IsChain fun stage next =>
    stage = .STAGE_VIP_EXISTED → next = .STAGE_VIP_NONE

/-- Every `VIP` event in the queue is announced. -/
structure VipTracked (s : VipSys) : Prop extends VipFlagged s where
  vip : s.vipEvents ≠ [] → s.isExistVipTask = true

variable {s : VipSys}

theorem VipFlagged.matches_iff (h : VipFlagged s) :
    VipMatches s ↔
      (s.vipEvents = [] → VipSys.noVipUnfinished s.unfinished = true →
        s.isExistVipTask = false) := by
  unfold VipMatches
  rw [ne_eq, ← h.flag, Bool.not_eq_true]
  simp only [and_self]

theorem tryExecuteObserverCallback_eq (ho : s.sys.queue.observer.subscribesVip = true)
    (stage : VipStage) :
    s.tryExecuteObserverCallback stage = { s with notified := s.notified ++ [stage] } := by
  unfold EventRunnerObserver.subscribesVip at ho
  rw [Bool.and_eq_true] at ho
  unfold VipSys.tryExecuteObserverCallback
  cases stage with
  | STAGE_VIP_EXISTED => rw [if_pos ho.1]
  | STAGE_VIP_NONE => rw [if_pos ho.2]

/-- `Insert` announces the first `VIP` event. -/
theorem VipFlagged.notifyVipExisted (h : VipFlagged s) :
    VipFlagged (s.notifyVipExisted .VIP) ∧ (s.notifyVipExisted .VIP).isExistVipTask = true := by
  unfold VipSys.notifyVipExisted
  by_cases hflag : s.isExistVipTask = false
  · rw [if_pos ⟨rfl, hflag⟩]
    have hlast : s.notified.getLast? ≠ some .STAGE_VIP_EXISTED := by
      rw [ne_eq, ← h.flag, hflag]
      simp
    have hnotifies := tryExecuteObserverCallback_eq (s := { s with isExistVipTask := true })
      h.observer .STAGE_VIP_EXISTED
    rw [hnotifies]
    refine ⟨⟨h.observer, by simp, ?_⟩, rfl⟩
    refine h.chain.append (.singleton _) ?_
    intro stage hstage next _ hexisted
    subst hexisted
    exact absurd hstage hlast
  · rw [if_neg (fun hand => hflag hand.2)]
    exact ⟨h, by simpa using hflag⟩

/-- Without a `VIP` event in the queue the flag is reset, and `STAGE_VIP_NONE` is notified. -/
theorem VipFlagged.notifyObserverVipDoneBase (h : VipFlagged s) :
    VipFlagged s.notifyObserverVipDoneBase ∧
      s.notifyObserverVipDoneBase.isExistVipTask =
        (if s.vipEvents = [] then false else s.isExistVipTask) := by
  unfold VipSys.notifyObserverVipDoneBase
  by_cases hnil : s.vipEvents = []
  · rw [if_pos (by simp [hnil]), if_pos hnil, tryExecuteObserverCallback_eq h.observer]
    refine ⟨⟨h.observer, by simp, ?_⟩, rfl⟩
    refine h.chain.append (.singleton _) ?_
    intro stage _ next hnext _
    simpa using hnext.symm
  · rw [if_neg (by simpa using hnil), if_neg hnil]
    exact ⟨h, rfl⟩

theorem notifyVipExisted_sys (s : VipSys) (priority : Priority) :
    (s.notifyVipExisted priority).sys = s.sys := by
  unfold VipSys.notifyVipExisted VipSys.tryExecuteObserverCallback
  split
  · split <;> rfl
  · rfl

theorem notifyObserverVipDoneBase_sys (s : VipSys) : s.notifyObserverVipDoneBase.sys = s.sys := by
  unfold VipSys.notifyObserverVipDoneBase VipSys.tryExecuteObserverCallback
  split
  · split <;> rfl
  · rfl

/-- `NotifyObserverVipDoneBase` mends whatever came before it. -/
theorem VipFlagged.done (h : VipFlagged s) (hvip : s.vipEvents ≠ [] → s.isExistVipTask = true) :
    VipTracked s.notifyObserverVipDoneBase ∧ VipMatches s.notifyObserverVipDoneBase := by
  obtain ⟨hflagged, hflag⟩ := h.notifyObserverVipDoneBase
  have hevents : s.notifyObserverVipDoneBase.vipEvents = s.vipEvents :=
    congrArg (fun s : Sys => s.queue.events (some 0)) (notifyObserverVipDoneBase_sys s)
  refine ⟨⟨hflagged, fun hne => ?_⟩, hflagged.matches_iff.2 fun hnil _ => ?_⟩
  · rw [hevents] at hne
    rw [hflag, if_neg hne]
    exact hvip hne
  · rw [hevents] at hnil
    rw [hflag, if_pos hnil]

/-! ## A step -/

theorem noVipUnfinished_append (events : List InnerEvent) (event : Option InnerEvent) :
    VipSys.noVipUnfinished (events ++ event.toList) = true ↔
      VipSys.noVipUnfinished events = true ∧
        ∀ e, event = some e → e.priority ≠ Priority.toInt32 .VIP := by
  unfold VipSys.noVipUnfinished
  cases event <;> simp

/-- An operation that adds no `VIP` event. -/
theorem VipTracked.afterQueue (P : SystemParameters) (op : Op) {u : Sys} (h : VipTracked s)
    (hobs : u.queue.observer.subscribesVip = true)
    (hsub : (u.queue.events (some 0)).Sublist (s.sys.queue.events (some 0))) :
    VipTracked (s.afterQueue P op u) := by
  refine ⟨⟨hobs, h.flag, h.chain⟩, fun hne => h.vip ?_⟩
  intro hnil
  have hsub' : (u.queue.events (some 0)).Sublist [] := hnil ▸ hsub
  exact hne (List.sublist_nil.1 hsub')

/-- An operation that takes a `VIP` event, or leaves the sub-queue alone. -/
theorem VipMatches.afterQueue {op : Op} {u : Sys} (h : VipMatches s)
    (hvip : u.queue.events (some 0) = s.sys.queue.events (some 0) ∨
      ∃ e, s.sys.takenEvent P op = some e ∧ e.priority = Priority.toInt32 .VIP) :
    VipMatches (s.afterQueue P op u) := by
  intro hnil hno
  obtain ⟨hno, htaken⟩ := (noVipUnfinished_append _ _).1 hno
  rcases hvip with hsame | ⟨e, he, hprio⟩
  · exact h (hsame.symm.trans hnil) hno
  · exact absurd hprio (htaken e he)

/-- `Remove` and `RemoveOrphan`, which notify if there was a `VIP` event. -/
theorem removed_matches (P : SystemParameters) (op : Op) {u : Sys} {filter : InnerEvent → Bool}
    (h : VipTracked s) (hobs : u.queue.observer.subscribesVip = true)
    (hd : Discards (fun e => s.sys.queue.usable && filter e) s.sys.queue u.queue) :
    let t := if s.sys.queue.usable && s.hasVipTask then
        (s.afterQueue P op u).notifyObserverVipDoneBase
      else s.afterQueue P op u
    VipTracked t ∧ (VipMatches s → VipMatches t) := by
  have hsub : (u.queue.events (some 0)).Sublist (s.sys.queue.events (some 0)) := by
    rw [hd.events (some 0)]
    exact List.filter_sublist
  have htracked := h.afterQueue P op hobs hsub
  dsimp only
  split
  · have hdone := htracked.toVipFlagged.done htracked.vip
    exact ⟨hdone.1, fun _ => hdone.2⟩
  · rename_i hquiet
    refine ⟨htracked, fun hm => hm.afterQueue (Or.inl ?_)⟩
    rw [hd.events (some 0)]
    cases hu : s.sys.queue.usable with
    | false => simp
    | true =>
      have hnil : s.vipEvents = [] := by simpa [hu, VipSys.hasVipTask] using hquiet
      show _ = s.vipEvents
      rw [hnil]
      have hnil' : s.sys.queue.events (some 0) = [] := hnil
      rw [hnil']
      rfl

/-- An accepted insertion as `VIP`. -/
theorem inserted_matches {op : Op} {u : Sys} (h : VipTracked s)
    (hobs : u.queue.observer.subscribesVip = true) (hvip : u.queue.events (some 0) ≠ []) :
    VipTracked ((s.afterQueue P op u).notifyVipExisted .VIP) ∧
      VipMatches ((s.afterQueue P op u).notifyVipExisted .VIP) := by
  have hflagged : VipFlagged (s.afterQueue P op u) := ⟨hobs, h.flag, h.chain⟩
  obtain ⟨hexisted, hflag⟩ := hflagged.notifyVipExisted
  have hevents : ((s.afterQueue P op u).notifyVipExisted .VIP).vipEvents =
      u.queue.events (some 0) :=
    congrArg (fun s : Sys => s.queue.events (some 0)) (notifyVipExisted_sys _ .VIP)
  refine ⟨⟨hexisted, fun _ => hflag⟩, fun hnil => ?_⟩
  rw [hevents] at hnil
  exact absurd hnil hvip

/-- `RemoveAll`. -/
theorem removedAll_matches {u : Sys} (h : VipTracked s)
    (hobs : u.queue.observer.subscribesVip = true)
    (hd : Discards (fun _ => s.sys.queue.usable) s.sys.queue u.queue) :
    VipTracked (s.afterQueue P .removeAll u) ∧
      (VipMatches s → (VipMatches (s.afterQueue P .removeAll u) ↔
        s.missesVipDone (.queue .removeAll) = false)) := by
  have hlist := hd.events (some 0)
  have htracked := h.afterQueue P .removeAll hobs (hlist ▸ List.filter_sublist)
  refine ⟨htracked, fun hm => ?_⟩
  have hunfinished : (s.afterQueue P .removeAll u).unfinished = s.unfinished :=
    List.append_nil s.unfinished
  unfold VipSys.missesVipDone
  by_cases hlost : s.sys.queue.usable = true ∧ s.vipEvents ≠ []
  · -- the flag stays on, and nothing but an unfinished event accounts for it
    obtain ⟨hu, hne⟩ := hlost
    have hnil : (s.afterQueue P .removeAll u).vipEvents = [] := by
      show u.queue.events (some 0) = []
      rw [hlist, hu]
      simp
    have hflag : (s.afterQueue P .removeAll u).isExistVipTask = true := h.vip hne
    have hhas : s.hasVipTask = true := by simpa [VipSys.hasVipTask] using hne
    rw [htracked.matches_iff, hunfinished, hflag, hu, hhas]
    simp [hnil]
  · have hsame : u.queue.events (some 0) = s.sys.queue.events (some 0) := by
      rw [hlist]
      cases hu : s.sys.queue.usable with
      | false => simp
      | true =>
        have hnil : s.sys.queue.events (some 0) = [] := by
          by_contra hne
          exact hlost ⟨hu, hne⟩
        rw [hnil]
        rfl
    refine iff_of_true (hm.afterQueue (Or.inl hsame)) ?_
    cases hu : s.sys.queue.usable with
    | false => rfl
    | true =>
      have hnil : s.vipEvents = [] := by
        by_contra hne
        exact hlost ⟨hu, hne⟩
      simp [VipSys.hasVipTask, hnil]

theorem afterOp_insert (s : VipSys) (p : Process) (now recv : ClockTime) (event : Option InnerEvent)
    (priority : Priority) (ty : EventInsertType) (option : VsyncBarrierOption) (u : Sys) :
    s.afterOp P (.insert p now recv event priority ty option) u =
      if (s.sys.insertOutcome p now recv event priority ty option).result = true then
        (s.afterQueue P (.insert p now recv event priority ty option) u).notifyVipExisted priority
      else s.afterQueue P (.insert p now recv event priority ty option) u := rfl

/-- A call that is refused, or of another priority, notifies nothing. -/
theorem afterOp_insert_quiet {p : Process} {now recv : ClockTime} {event : Option InnerEvent}
    {priority : Priority} {ty : EventInsertType} {option : VsyncBarrierOption} {u : Sys}
    (h : (s.sys.insertOutcome p now recv event priority ty option).result = false ∨
      priority ≠ .VIP) :
    s.afterOp P (.insert p now recv event priority ty option) u =
      s.afterQueue P (.insert p now recv event priority ty option) u := by
  rw [afterOp_insert]
  rcases h with hrefused | hp
  · rw [if_neg (by simp [hrefused])]
  · have hsame : (s.afterQueue P (.insert p now recv event priority ty option) u).notifyVipExisted
        priority = s.afterQueue P (.insert p now recv event priority ty option) u :=
      if_neg (fun hand => hp hand.1)
    rw [hsame, ite_self]

/-- **What a queue operation does**: `RemoveAll` alone may break `VipMatches`. -/
theorem queueOp_vip {op : Op} {u : Sys} (h : VipTracked s) (hhome : PriorityHome s.sys.queue)
    (hop : op.observed = true) (hu : s.sys.step P op = some u) :
    VipTracked (s.afterOp P op u) ∧
      (VipMatches s → (VipMatches (s.afterOp P op u) ↔ s.missesVipDone (.queue op) = false)) := by
  have hobs := queueStep_observer hop hu h.observer
  -- an operation that notifies nothing, other than `RemoveAll`
  have hkept : ∀ {op : Op} {u : Sys}, u.queue.observer.subscribesVip = true →
      (u.queue.events (some 0)).Sublist (s.sys.queue.events (some 0)) →
      (u.queue.events (some 0) = s.sys.queue.events (some 0) ∨
        ∃ e, s.sys.takenEvent P op = some e ∧ e.priority = Priority.toInt32 .VIP) →
      VipTracked (s.afterQueue P op u) ∧
        (VipMatches s → (VipMatches (s.afterQueue P op u) ↔ false = false)) := by
    intro op u hobs hsub hvip
    exact ⟨h.afterQueue P op hobs hsub, fun hm => iff_of_true (hm.afterQueue hvip) rfl⟩
  cases step_cases hu with
  | insert p now recv event priority ty option _ =>
    rcases insert_vip_cases s.sys p now recv event priority ty option with
      ⟨hresult, rfl, hvip⟩ | ⟨hnot, hsame⟩
    · rw [afterOp_insert, if_pos hresult]
      obtain ⟨htracked, hm⟩ := inserted_matches h hobs hvip
      exact ⟨htracked, fun _ => iff_of_true hm rfl⟩
    · rw [afterOp_insert_quiet hnot]
      exact hkept hobs (hsame ▸ List.Sublist.refl _) (Or.inl hsame)
  | remove selector _ =>
    have hr := removed_matches P (.remove selector) h hobs
      (remove_discards selector s.sys.queue)
    exact ⟨hr.1, fun hm => iff_of_true (hr.2 hm) rfl⟩
  | removeOrphan p _ =>
    have hr := removed_matches P (.removeOrphan p) h hobs
      (removeOrphan_discards p s.sys.queue)
    exact ⟨hr.1, fun hm => iff_of_true (hr.2 hm) rfl⟩
  | removeAll _ => exact removedAll_matches h hobs (removeAll_discards s.sys.queue)
  | expiredEvent now next e _ he =>
    obtain ⟨p, k, -, htk⟩ := getExpiredEventLocked_some he
    obtain ⟨hsub, hvip⟩ := taken_vip hhome htk
    exact hkept hobs hsub (hvip.imp_right fun hp => ⟨e, he, hp⟩)
  | expiredNone now next _ hn =>
    have hsame := (getExpiredEventLocked_none hn).2.1 (some 0)
    exact hkept hobs (hsame ▸ List.Sublist.refl _) (Or.inl hsame)
  | getEvent _ => exact hkept hobs (List.Sublist.refl _) (Or.inl rfl)
  | pass clk n _ =>
    have hqueue := afterPass_queue s.sys n (s.sys.queue.getEventPass P clk)
    cases he : (s.sys.queue.getEventPass P clk).pass.event with
    | some e =>
      obtain ⟨p, k, -, htk⟩ := getEventPass_some he
      rw [← hqueue] at htk
      obtain ⟨hsub, hvip⟩ := taken_vip hhome htk
      exact hkept hobs hsub (hvip.imp_right fun hp => ⟨e, he, hp⟩)
    | none =>
      have hsame := getEventPass_none he (some 0)
      rw [← hqueue] at hsame
      exact hkept hobs (hsame ▸ List.Sublist.refl _) (Or.inl hsame)
  | wakeUp _ _ => exact hkept hobs (List.Sublist.refl _) (Or.inl rfl)
  | pollReturn e need _ =>
    have hsame := (afterPoll_sameLists need s.sys.queue).events (some 0)
    exact hkept hobs (hsame ▸ List.Sublist.refl _) (Or.inl hsame)
  | execute e _ => cases hop
  | release _ _ => cases hop
  | flag op =>
    have hsame := (applyFlag_sameLists s.sys.queue op).events (some 0)
    exact hkept hobs (hsame ▸ List.Sublist.refl _) (Or.inl hsame)

theorem noVipUnfinished_erase {events : List InnerEvent} {event : InnerEvent}
    (hmem : event ∈ events) :
    VipSys.noVipUnfinished events = true ↔
      event.priority ≠ Priority.toInt32 .VIP ∧
        VipSys.noVipUnfinished (events.erase event) = true := by
  unfold VipSys.noVipUnfinished
  rw [(List.perm_cons_erase hmem).all_eq, List.all_cons, Bool.and_eq_true, decide_eq_true_eq]

/-- The event without its notification. -/
def VipSys.afterEvent (s : VipSys) (event : InnerEvent) : VipSys :=
  { s with unfinished := s.unfinished.erase event }

theorem executeEventHandler_eq (s : VipSys) (p : Process) (event : InnerEvent) :
    s.executeEventHandler p event =
      if event.ownerExpired p = false ∧ event.priority = Priority.toInt32 .VIP then
        (s.afterEvent event).notifyObserverVipDoneBase
      else s.afterEvent event := by
  unfold VipSys.executeEventHandler VipSys.notifyObserverVipDone VipSys.afterEvent
  dsimp only
  cases hexp : event.ownerExpired p with
  | true => rfl
  | false =>
    by_cases hprio : event.priority = Priority.toInt32 .VIP
    · rw [if_neg (by simp), if_neg (not_not.2 hprio), if_pos ⟨rfl, hprio⟩]
    · rw [if_neg (by simp), if_pos hprio, if_neg (fun hand => hprio hand.2)]

theorem missesVipDone_executeEventHandler {p : Process} {event : InnerEvent} :
    s.missesVipDone (.executeEventHandler p event) = false ↔
      (event.ownerExpired p = true → event.priority = Priority.toInt32 .VIP → s.vipEvents = [] →
        VipSys.noVipUnfinished (s.unfinished.erase event) = true → s.isExistVipTask = false) := by
  rw [← Bool.not_eq_true]
  simp only [VipSys.missesVipDone, VipSys.hasVipTask, Bool.and_eq_true, decide_eq_true_eq,
    Bool.not_not, List.isEmpty_iff, not_and, Bool.not_eq_true, and_imp]

/-- **What the end of a dispatch does**: an event whose owner has expired may break `VipMatches`. -/
theorem executeEventHandler_vip (h : VipTracked s) (p : Process) (event : InnerEvent)
    (hmem : event ∈ s.unfinished) :
    VipTracked (s.executeEventHandler p event) ∧
      (VipMatches s → (VipMatches (s.executeEventHandler p event) ↔
        s.missesVipDone (.executeEventHandler p event) = false)) := by
  have hafter : VipTracked (s.afterEvent event) := ⟨⟨h.observer, h.flag, h.chain⟩, h.vip⟩
  rw [executeEventHandler_eq, missesVipDone_executeEventHandler]
  by_cases hprio : event.priority = Priority.toInt32 .VIP
  · cases hexp : event.ownerExpired p with
    | true =>
      -- the event is dropped and the flag stays as it is
      rw [if_neg (by simp)]
      refine ⟨hafter, fun _ => ?_⟩
      rw [hafter.matches_iff]
      exact ⟨fun hm _ _ => hm, fun hquiet => hquiet rfl hprio⟩
    | false =>
      rw [if_pos ⟨rfl, hprio⟩]
      have hdone := hafter.toVipFlagged.done hafter.vip
      exact ⟨hdone.1, fun _ => iff_of_true hdone.2 fun hexp => by cases hexp⟩
  · -- the end of another event changes nothing for the `VIP` events
    rw [if_neg (fun hand => hprio hand.2)]
    refine ⟨hafter, fun hm => iff_of_true (fun hnil hno => ?_) fun _ hvip => absurd hvip hprio⟩
    exact hm hnil ((noVipUnfinished_erase hmem).2 ⟨hprio, hno⟩)

end

/-! ## Runs -/

section

variable {P : SystemParameters} {start : ClockTime} {observer : EventRunnerObserver} {s t : VipSys}

theorem vipAfterOp_sys (s : VipSys) (op : Op) (u : Sys) : (s.afterOp P op u).sys = u := by
  cases op with
  | insert p now recv event priority ty option =>
    rw [afterOp_insert]
    split
    · exact notifyVipExisted_sys _ priority
    · rfl
  | remove selector =>
    unfold VipSys.afterOp
    dsimp only
    split
    · exact notifyObserverVipDoneBase_sys _
    · rfl
  | removeOrphan p =>
    unfold VipSys.afterOp
    dsimp only
    split
    · exact notifyObserverVipDoneBase_sys _
    · rfl
  | _ => rfl

theorem executeEventHandler_sys (s : VipSys) (p : Process) (event : InnerEvent) :
    (s.executeEventHandler p event).sys = s.sys := by
  rw [executeEventHandler_eq]
  split
  · exact notifyObserverVipDoneBase_sys _
  · rfl

/-- Without the notifications a run is one of the queue. -/
theorem vip_reachable_queue {ok : VipSys → VipOp → Prop}
    (h : (vipSystem P start observer).Reachable ok s) :
    (queueSystem P start).Reachable System.always s.sys := by
  apply h.invariant (I := fun s => (queueSystem P start).Reachable System.always s.sys)
  · exact ⟨[.flag (.addObserver observer)], .one trivial rfl⟩
  · intro s op t hs _ hst
    cases op with
    | queue op =>
      simp only [vipSystem, VipSys.step, Option.ite_none_right_eq_some,
        Option.map_eq_some_iff] at hst
      obtain ⟨-, u, hu, rfl⟩ := hst
      rw [vipAfterOp_sys]
      exact hs.step trivial hu
    | executeEventHandler p event =>
      simp only [vipSystem, VipSys.step, Option.ite_none_right_eq_some, Option.some.injEq] at hst
      obtain ⟨-, rfl⟩ := hst
      rw [executeEventHandler_sys]
      exact hs

theorem vipStep (h : VipTracked s) (hhome : PriorityHome s.sys.queue) {op : VipOp}
    (hst : s.step P op = some t) :
    VipTracked t ∧ (VipMatches s → (VipMatches t ↔ s.missesVipDone op = false)) := by
  cases op with
  | queue op =>
    simp only [VipSys.step, Option.ite_none_right_eq_some, Option.map_eq_some_iff] at hst
    obtain ⟨hop, u, hu, rfl⟩ := hst
    exact queueOp_vip h hhome hop hu
  | executeEventHandler p event =>
    simp only [VipSys.step, Option.ite_none_right_eq_some, Option.some.injEq] at hst
    obtain ⟨⟨hmem, -⟩, rfl⟩ := hst
    exact executeEventHandler_vip h p event hmem

theorem reachable_vipTracked (hobs : observer.subscribesVip = true) {ok : VipSys → VipOp → Prop}
    (h : (vipSystem P start observer).Reachable ok s) : VipTracked s := by
  have both : (vipSystem P start observer).Reachable ok s ∧ VipTracked s := by
    refine h.invariant
      (I := fun s => (vipSystem P start observer).Reachable ok s ∧ VipTracked s)
      ⟨.init, ⟨⟨hobs, by simp [vipSystem], .nil⟩, fun hne => absurd rfl hne⟩⟩ ?_
    intro s op t hs hok hst
    have hhome := reachable_priorityHome (vip_reachable_queue hs.1)
    exact ⟨hs.1.step hok hst, (vipStep hs.2 hhome hst).1⟩
  exact both.2

/-- While no step takes the last `VIP` event away unannounced, the notifications match the queue. -/
theorem reachable_vipMatches (hobs : observer.subscribesVip = true)
    (h : (vipSystem P start observer).Reachable (fun s op => s.missesVipDone op = false) s) :
    VipMatches s := by
  have both : (vipSystem P start observer).Reachable System.always s ∧ VipMatches s := by
    refine h.invariant
      (I := fun s => (vipSystem P start observer).Reachable System.always s ∧ VipMatches s)
      ⟨.init, fun _ _ => ⟨rfl, by simp [vipSystem]⟩⟩ ?_
    intro s op t hs hquiet hst
    have hhome := reachable_priorityHome (vip_reachable_queue hs.1)
    have htracked := reachable_vipTracked hobs hs.1
    exact ⟨hs.1.step trivial hst, ((vipStep htracked hhome hst).2 hs.2).2 hquiet⟩
  exact both.2

/-- After `STAGE_VIP_EXISTED` comes `STAGE_VIP_NONE`. -/
theorem noneBetween_of_chain {notified : List VipStage}
    (h : notified.IsChain fun stage next => stage = .STAGE_VIP_EXISTED → next = .STAGE_VIP_NONE) :
    NoneBetween notified := by
  intro before between after heq
  have hrel : ∀ {b : VipStage} {l : List VipStage},
      notified = before ++ .STAGE_VIP_EXISTED :: b :: l →
      VipStage.STAGE_VIP_EXISTED = .STAGE_VIP_EXISTED → b = .STAGE_VIP_NONE := by
    intro b l heq
    exact List.isChain_iff_forall_rel_of_append_cons_cons.1 h heq
  subst heq
  cases between with
  | nil =>
    have hnext : VipStage.STAGE_VIP_EXISTED = .STAGE_VIP_NONE := hrel (l := after) (by simp) rfl
    cases hnext
  | cons next between =>
    have hnext : next = .STAGE_VIP_NONE :=
      hrel (l := between ++ [.STAGE_VIP_EXISTED] ++ after) (by simp) rfl
    rw [hnext]
    exact List.mem_cons_self

/-! ## The notifications and the queue -/

/-- **Runs without a `VIP` event taken away unannounced keep the notifications matched to the queue,
    and each step that takes one away so breaks it**; two `STAGE_VIP_EXISTED` always have a
    `STAGE_VIP_NONE` between them. -/
theorem vipObserver_iff (P : SystemParameters) (start : ClockTime) (observer : EventRunnerObserver)
    (hobs : observer.subscribesVip = true) :
    (∀ s, (vipSystem P start observer).Reachable (fun s op => s.missesVipDone op = false) s →
      VipMatches s) ∧
    ∀ s, (vipSystem P start observer).Reachable System.always s →
      NoneBetween s.notified ∧
        (VipMatches s → ∀ op t, s.step P op = some t →
          (VipMatches t ↔ s.missesVipDone op = false)) := by
  refine ⟨fun s hs => reachable_vipMatches hobs hs, fun s hs => ?_⟩
  have htracked := reachable_vipTracked hobs hs
  have hhome := reachable_priorityHome (vip_reachable_queue hs)
  exact ⟨noneBetween_of_chain htracked.chain, fun hm op t hst => (vipStep htracked hhome hst).2 hm⟩

end

/-- An observer of the two stages. -/
def vipStages : EventRunnerObserver := { stages := 48, notifyCb := true }

/-- A `VIP` event is inserted and `GetEvent` hands it out. -/
def vipHandedOut : List VipOp :=
  [.queue (insertAt (atMs 1) (plainEvent (atMs 1)) .VIP), .queue (.flag .prepare), .queue .getEvent,
    .queue (passAt (atMs 2))]

/-- The event handed out. -/
def handedOutVip : InnerEvent :=
  { plainEvent (atMs 1) with priority := Priority.toInt32 .VIP }

/-- The event is run, and the observer hears of it. -/
theorem vipObserver_iff_run : ∃ s : VipSys,
    s.notified = [.STAGE_VIP_EXISTED, .STAGE_VIP_NONE] ∧ VipMatches s ∧ NoneBetween s.notified := by
  obtain ⟨s, hrun, hs⟩ := System.run_of_exec (vipSystem {} (atMs 0) vipStages)
    (fun s op => s.missesVipDone op = false)
    (fun s => s.notified = [.STAGE_VIP_EXISTED, .STAGE_VIP_NONE])
    (vipHandedOut ++ [.executeEventHandler oneRunner handedOutVip]) (by decide)
  have hiff := vipObserver_iff {} (atMs 0) vipStages (by decide)
  have halways := System.Reachable.mono ⟨_, hrun⟩ fun _ _ _ => trivial
  exact ⟨s, hs, hiff.1 s ⟨_, hrun⟩, (hiff.2 s halways).1⟩

/-- The handler is destroyed between the two: the event is dropped, the flag stays on and
    `STAGE_VIP_EXISTED` is the last stage. -/
theorem vipObserver_dropped : ¬ ∀ s, (vipSystem {} (atMs 0) vipStages).Reachable System.always s →
    VipMatches s ∧ NoneBetween s.notified := by
  intro h
  obtain ⟨s, hrun, hs⟩ := System.run_of_exec (vipSystem {} (atMs 0) vipStages) System.always
    (fun s => s.vipEvents = [] ∧ s.unfinished = [] ∧ s.isExistVipTask = true)
    (vipHandedOut ++
      [.executeEventHandler { oneRunner with alive := fun _ => false } handedOutVip]) (by decide)
  have hmatches := (h s ⟨_, hrun⟩).1 hs.1 (by rw [hs.2.1]; rfl)
  rw [hs.2.2] at hmatches
  cases hmatches.1

end AppExecFwk
