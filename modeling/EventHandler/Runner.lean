import EventHandler.QueueSystem

/-!
# The life of an event runner

One `EventRunner` with its event queue: the thread that runs it, the threads that stop or release
it, and the threads that use its queue.  A step is one access to `running_` or to the reference
counts, or one critical section of `queueLock_`.

* `RunPc` — the thread of the runner: `EventRunner::Run` of a runner that is not deposited, or
  `ThreadMain` of a deposited one, through `EventRunnerImpl::Run` up to the end of
  `DefaultModeLoop`.
* `Destruction` — `~EventRunner`, entered by the thread that drops the last strong reference; of a
  deposited runner it calls `Finish`.
* `runnerSystem` — all threads.  `requests` counts the calls of `Stop` that have seen `running_` and
  not yet called `Finish`; `finishes` counts, for the record, the calls of `Finish` that `Stop` and
  the exit callbacks have made.
* `SameLife`, `queueStep_life` — only `Prepare`, `Finish` and `SetUsable` write `finished_` and
  `usable_`.
* `runnerStep_cases` — what a step does to `finished_`.

`SetUsable` is never called.  Whoever calls `Run` and `Stop` of a runner that is not deposited holds
a reference to it meanwhile.
-/

set_option autoImplicit false

namespace AppExecFwk

open Transition EventQueueBase

/-- Where the thread of the runner is.  `created` is before `wp.lock()` of `ThreadMain`, `starting`
    before `Prepare`, `prepared` before `owner_.expired()`, `locking` before `owner_.lock()`,
    `comparing` while the locked reference is compared with the main runner. -/
inductive RunPc where
  | idle
  | created
  | starting
  | prepared
  | locking
  | comparing
  | looping
  | ended
  deriving DecidableEq, Repr

/-- The thread has been started and has not come to `Prepare`. -/
def RunPc.beforePrepare : RunPc → Bool
  | .created => true
  | .starting => true
  | _ => false

/-- The thread has found its runner alive, and has not left the loop. -/
def RunPc.pastExpiredCheck : RunPc → Bool
  | .locking => true
  | .comparing => true
  | .looping => true
  | _ => false

/-- `~EventRunner`; `byLoop` when the runner's own thread runs it. -/
inductive Destruction where
  | alive
  | finishing (byLoop : Bool)
  | done
  deriving DecidableEq, Repr

structure RunnerSys where
  sys : Sys
  running : Bool
  pc : RunPc
  /-- The strong references that other threads hold. -/
  refs : Nat
  /-- The strong references that the thread of the runner holds. -/
  loopRefs : Nat
  destruction : Destruction
  requests : Nat
  finishes : Nat

/-- An operation of the queue's users; `Prepare`, `Finish` and what the loop thread does are apart. -/
def Op.byUsers : Op → Bool
  | .insert _ _ _ _ _ _ _ => true
  | .remove _ => true
  | .removeOrphan _ => true
  | .removeAll => true
  | .flag .prepare => false
  | .flag .finish => false
  | .flag (.setUsable _) => false
  | .flag op => !op.isNotification
  | _ => false

/-- An operation of `DefaultModeLoop`. -/
def Op.byLoop (s : Sys) : Op → Bool
  | .getEvent => s.current.isNone
  | .pass _ => true
  | .wakeUp => true
  | .pollReturn => true
  | .execute => true
  | .release => true
  | _ => false

inductive RunnerOp where
  | user (op : Op)
  | loop (op : Op)
  /-- `running_.exchange(true)`, or the start of the thread. -/
  | start
  /-- `wp.lock()`; `released` when the implementation object is gone. -/
  | lockInner (released : Bool)
  | prepare
  | checkExpired
  | lockOwner
  | compared
  /-- `running_.store(false)`. -/
  | leaveRun
  /-- `running_.load()` of `Stop`. -/
  | loadRunning
  /-- `Finish` of `Stop`. -/
  | stop
  /-- The exit callback, or the `Stop` of a failed `Attach`. -/
  | exitCallback
  | addRef
  | dropRef
  | loopAddRef
  | loopDropRef
  /-- The body of `~EventRunner`. -/
  | destroy

namespace RunnerSys

def count (s : RunnerSys) : Nat := s.refs + s.loopRefs

def mapQueue (s : RunnerSys) (f : EventQueueBase → EventQueueBase) : RunnerSys :=
  { s with sys := { s.sys with queue := f s.sys.queue } }

/-- A critical section of `queueLock_`. -/
def locked (s : RunnerSys) (f : EventQueueBase → EventQueueBase) : Option RunnerSys :=
  if s.sys.lockFree then some (s.mapQueue f) else none

/-- The thread of the runner executes code of the runner, not `~EventRunner`. -/
def loopFree (s : RunnerSys) : Bool := s.destruction != .finishing true

/-- The last reference is gone: the thread that dropped it enters `~EventRunner`. -/
def released (s : RunnerSys) (byLoop : Bool) : RunnerSys :=
  if s.count = 0 then { s with destruction := .finishing byLoop } else s

/-- `GetEvent` gives the null event in this turn. -/
def returnsNull (P : SystemParameters) (s : RunnerSys) : Op → Bool
  | .pass clk => (s.sys.queue.getEventPass P clk).pass = .finished
  | _ => false

def step (P : SystemParameters) (deposit : Bool) (s : RunnerSys) : RunnerOp → Option RunnerSys
  | .user op => if op.byUsers then (s.sys.step P op).map fun sys => { s with sys := sys } else none
  | .loop op =>
    if s.pc = .looping && s.loopFree && op.byLoop s.sys then
      (s.sys.step P op).map fun sys =>
        { s with sys := sys, pc := if s.returnsNull P op then .ended else .looping }
    else none
  | .start =>
    if s.pc = .idle then
      some (if deposit then { s with pc := .created } else { s with pc := .starting, running := true })
    else none
  | .lockInner released =>
    if s.pc = .created then
      if released then if s.destruction = .done then some { s with pc := .ended } else none
      else some { s with pc := .starting }
    else none
  | .prepare =>
    if s.pc = .starting then
      (s.locked EventQueueBase.prepare).map fun t => { t with pc := .prepared }
    else none
  | .checkExpired =>
    if s.pc = .prepared then some { s with pc := if s.count = 0 then .ended else .locking } else none
  | .lockOwner =>
    if s.pc = .locking then
      if s.count = 0 then some { s with pc := .looping }
      else some { s with pc := .comparing, loopRefs := s.loopRefs + 1 }
    else none
  | .compared =>
    if s.pc = .comparing && s.loopRefs != 0 then
      some ({ s with pc := .looping, loopRefs := s.loopRefs - 1 }.released true)
    else none
  | .leaveRun => if s.pc = .ended && !deposit then some { s with running := false } else none
  | .loadRunning =>
    if deposit then none
    else some { s with requests := if s.running then s.requests + 1 else s.requests }
  | .stop =>
    if s.requests = 0 then none
    else
      (s.locked EventQueueBase.finish).map fun t =>
        { t with requests := s.requests - 1, finishes := s.finishes + 1 }
  | .exitCallback =>
    if deposit && s.pc ≠ .idle then
      (s.locked EventQueueBase.finish).map fun t => { t with finishes := s.finishes + 1 }
    else none
  | .addRef => if deposit && s.count ≠ 0 then some { s with refs := s.refs + 1 } else none
  | .dropRef =>
    if deposit && s.refs ≠ 0 then some ({ s with refs := s.refs - 1 }.released false) else none
  | .loopAddRef =>
    if deposit && s.pc = .looping && s.loopFree && s.sys.pc = .outside && s.count ≠ 0 then
      some { s with loopRefs := s.loopRefs + 1 }
    else none
  | .loopDropRef =>
    if deposit && s.pc = .looping && s.loopFree && s.sys.pc = .outside && s.loopRefs ≠ 0 then
      some ({ s with loopRefs := s.loopRefs - 1 }.released true)
    else none
  | .destroy =>
    match s.destruction with
    | .finishing _ =>
      if deposit then
        (s.locked EventQueueBase.finish).map fun t => { t with destruction := .done }
      else some { s with destruction := .done }
    | _ => none

end RunnerSys

/-- A runner with a fresh queue, which its creator holds. -/
def runnerSystem (P : SystemParameters) (deposit : Bool) (start : ClockTime) :
    System RunnerSys RunnerOp where
  init :=
    { sys := (queueSystem P start).init
      running := false
      pc := .idle
      refs := 1
      loopRefs := 0
      destruction := .alive
      requests := 0
      finishes := 0 }
  step := RunnerSys.step P deposit

/-! ## Who writes `finished_` -/

/-- `usable_` and `finished_` are those of `q`. -/
structure SameLife (q q' : EventQueueBase) : Prop where
  usable : q'.usable = q.usable
  finished : q'.finished = q.finished

theorem SameLife.refl (q : EventQueueBase) : SameLife q q := ⟨rfl, rfl⟩

theorem EventQueueBase.SameControl.sameLife {q q' : EventQueueBase} (h : SameControl q q') :
    SameLife q q' := ⟨by rw [h], by rw [h]⟩

section Life

variable {P : SystemParameters} {s t : Sys}

theorem insert_sameLife (p : Process) (now recv : ClockTime) (q : EventQueueBase)
    (event : Option InnerEvent) (priority : Priority) (ty : EventInsertType)
    (option : VsyncBarrierOption) :
    SameLife q (q.insert p now recv event priority ty option).queue := by
  rw [insert_queue_eq]
  exact ⟨rfl, rfl⟩

theorem removeOrphan_sameLife (p : Process) (q : EventQueueBase) : SameLife q (q.removeOrphan p) := by
  rw [removeOrphan_eq]
  exact ⟨rfl, rfl⟩

theorem pass_sameLife (P : SystemParameters) (clk : PassClock) (q : EventQueueBase) :
    SameLife q (q.getEventPass P clk).queue :=
  ⟨(q.getEventPass_frame P clk).usable, (q.getEventPass_frame P clk).finished⟩

/-- `Prepare`, `Finish` and `SetUsable`. -/
def Op.setsLife : Op → Bool
  | .flag .prepare => true
  | .flag .finish => true
  | .flag (.setUsable _) => true
  | _ => false

theorem setsLife_of_byUsers {a : Op} (h : a.byUsers = true) : a.setsLife = false := by
  cases a with
  | flag op =>
    cases op with
    | prepare => cases h
    | finish => cases h
    | setUsable _ => cases h
    | _ => rfl
  | _ => rfl

theorem setsLife_of_byLoop {a : Op} (h : a.byLoop s = true) : a.setsLife = false := by
  cases a with
  | flag op => cases h
  | _ => rfl

/-- **A step of the queue writes `finished_` and `usable_` in `Prepare`, `Finish` and `SetUsable`
    only.** -/
theorem queueStep_life {a : Op} (ha : a.setsLife = false) (h : s.step P a = some t) :
    SameLife s.queue t.queue := by
  cases step_cases h with
  | insert p now recv event priority ty option _ =>
    exact insert_sameLife p now recv s.queue _ priority ty option
  | remove selector _ => exact (remove_onlyLists selector s.queue).sameControl.sameLife
  | removeOrphan p _ => exact removeOrphan_sameLife p s.queue
  | removeAll _ => exact (removeFilter_onlyLists _ s.queue).sameControl.sameLife
  | expiredEvent now next e _ _ => exact (getExpiredEventLocked_sameControl s.queue now next _).sameLife
  | expiredNone now next _ _ => exact (getExpiredEventLocked_sameControl s.queue now next _).sameLife
  | getEvent _ => exact SameLife.refl _
  | pass clk n _ =>
    rw [afterPass_queue]
    exact pass_sameLife P clk s.queue
  | wakeUp _ _ => exact ⟨rfl, rfl⟩
  | pollReturn e need _ =>
    rw [afterPoll_eq]
    exact ⟨rfl, rfl⟩
  | execute e _ =>
    unfold Sys.runTask
    split <;> exact ⟨rfl, rfl⟩
  | release _ _ => exact SameLife.refl _
  | flag op =>
    have hx := applyFlag_writes s.queue op
    generalize s.queue.applyFlag op = q' at hx
    cases hx with
    | prepare _ => cases ha
    | finish _ => cases ha
    | setUsable _ => cases ha
    | _ => exact ⟨rfl, rfl⟩

end Life

/-! ## What a step does -/

/-- What a step of a runner does, one case for each operation and branch. -/
inductive RunnerEffect (P : SystemParameters) (deposit : Bool) (s : RunnerSys) :
    RunnerOp → RunnerSys → Prop
  | user (op : Op) (sys : Sys) (hop : op.byUsers = true) (hs : s.sys.step P op = some sys) :
      RunnerEffect P deposit s (.user op) { s with sys := sys }
  | loop (op : Op) (sys : Sys) (hpc : s.pc = .looping) (hop : op.byLoop s.sys = true)
      (hs : s.sys.step P op = some sys) :
      RunnerEffect P deposit s (.loop op)
        { s with sys := sys, pc := if s.returnsNull P op then .ended else .looping }
  | startThread (hpc : s.pc = .idle) (hd : deposit = true) :
      RunnerEffect P deposit s .start { s with pc := .created }
  | startRun (hpc : s.pc = .idle) (hd : deposit = false) :
      RunnerEffect P deposit s .start { s with pc := .starting, running := true }
  | lockInner (hpc : s.pc = .created) :
      RunnerEffect P deposit s (.lockInner false) { s with pc := .starting }
  | innerReleased (hpc : s.pc = .created) (hd : s.destruction = .done) :
      RunnerEffect P deposit s (.lockInner true) { s with pc := .ended }
  | prepare (hpc : s.pc = .starting) :
      RunnerEffect P deposit s .prepare { s.mapQueue EventQueueBase.prepare with pc := .prepared }
  | expired (hpc : s.pc = .prepared) (hc : s.count = 0) :
      RunnerEffect P deposit s .checkExpired { s with pc := .ended }
  | notExpired (hpc : s.pc = .prepared) (hc : s.count ≠ 0) :
      RunnerEffect P deposit s .checkExpired { s with pc := .locking }
  | lockNull (hpc : s.pc = .locking) (hc : s.count = 0) :
      RunnerEffect P deposit s .lockOwner { s with pc := .looping }
  | lockOwner (hpc : s.pc = .locking) (hc : s.count ≠ 0) :
      RunnerEffect P deposit s .lockOwner { s with pc := .comparing, loopRefs := s.loopRefs + 1 }
  | compared (hpc : s.pc = .comparing) (hr : s.loopRefs ≠ 0) :
      RunnerEffect P deposit s .compared
        ({ s with pc := .looping, loopRefs := s.loopRefs - 1 }.released true)
  | leaveRun (hpc : s.pc = .ended) (hd : deposit = false) :
      RunnerEffect P deposit s .leaveRun { s with running := false }
  | loadRunning (hd : deposit = false) :
      RunnerEffect P deposit s .loadRunning
        { s with requests := if s.running then s.requests + 1 else s.requests }
  | stop (hr : s.requests ≠ 0) :
      RunnerEffect P deposit s .stop
        { s.mapQueue EventQueueBase.finish with
          requests := s.requests - 1
          finishes := s.finishes + 1 }
  | exitCallback (hd : deposit = true) (hpc : s.pc ≠ .idle) :
      RunnerEffect P deposit s .exitCallback
        { s.mapQueue EventQueueBase.finish with finishes := s.finishes + 1 }
  | addRef (hd : deposit = true) (hc : s.count ≠ 0) :
      RunnerEffect P deposit s .addRef { s with refs := s.refs + 1 }
  | dropRef (hd : deposit = true) (hr : s.refs ≠ 0) :
      RunnerEffect P deposit s .dropRef ({ s with refs := s.refs - 1 }.released false)
  | loopAddRef (hd : deposit = true) (hpc : s.pc = .looping) (hc : s.count ≠ 0) :
      RunnerEffect P deposit s .loopAddRef { s with loopRefs := s.loopRefs + 1 }
  | loopDropRef (hd : deposit = true) (hpc : s.pc = .looping) (hr : s.loopRefs ≠ 0) :
      RunnerEffect P deposit s .loopDropRef ({ s with loopRefs := s.loopRefs - 1 }.released true)
  | destroy (byLoop : Bool) (hd : deposit = true) (hf : s.destruction = .finishing byLoop) :
      RunnerEffect P deposit s .destroy
        { s.mapQueue EventQueueBase.finish with destruction := .done }
  | destroyPlain (byLoop : Bool) (hd : deposit = false) (hf : s.destruction = .finishing byLoop) :
      RunnerEffect P deposit s .destroy { s with destruction := .done }

section Steps

variable {P : SystemParameters} {deposit : Bool} {s t : RunnerSys}

theorem locked_some {f : EventQueueBase → EventQueueBase} {g : RunnerSys → RunnerSys}
    (h : (s.locked f).map g = some t) : t = g (s.mapQueue f) := by
  obtain ⟨u, hu, rfl⟩ := Option.map_eq_some_iff.1 h
  unfold RunnerSys.locked at hu
  split at hu
  · cases hu
    rfl
  · cases hu

/-- **Inversion of a step of a runner.** -/
theorem runnerStep_cases {a : RunnerOp} (h : s.step P deposit a = some t) :
    RunnerEffect P deposit s a t := by
  cases a with
  | user op =>
    simp only [RunnerSys.step, Option.ite_none_right_eq_some, Option.map_eq_some_iff] at h
    obtain ⟨hop, sys, hs, rfl⟩ := h
    exact .user op sys hop hs
  | loop op =>
    simp only [RunnerSys.step, Option.ite_none_right_eq_some, Option.map_eq_some_iff,
      Bool.and_eq_true, decide_eq_true_eq] at h
    obtain ⟨⟨⟨hpc, -⟩, hop⟩, sys, hs, rfl⟩ := h
    exact .loop op sys hpc hop hs
  | start =>
    simp only [RunnerSys.step, Option.ite_none_right_eq_some, Option.some.injEq] at h
    obtain ⟨hpc, rfl⟩ := h
    cases deposit with
    | true => exact .startThread hpc rfl
    | false => exact .startRun hpc rfl
  | lockInner released =>
    simp only [RunnerSys.step, Option.ite_none_right_eq_some] at h
    obtain ⟨hpc, h⟩ := h
    cases released with
    | true =>
      simp only [if_true, Option.ite_none_right_eq_some, Option.some.injEq] at h
      obtain ⟨hd, rfl⟩ := h
      exact .innerReleased hpc hd
    | false =>
      cases h
      exact .lockInner hpc
  | prepare =>
    simp only [RunnerSys.step, Option.ite_none_right_eq_some] at h
    obtain ⟨hpc, h⟩ := h
    rw [locked_some h]
    exact .prepare hpc
  | checkExpired =>
    simp only [RunnerSys.step, Option.ite_none_right_eq_some, Option.some.injEq] at h
    obtain ⟨hpc, rfl⟩ := h
    split
    · rename_i hc
      exact .expired hpc hc
    · rename_i hc
      exact .notExpired hpc hc
  | lockOwner =>
    simp only [RunnerSys.step, Option.ite_none_right_eq_some] at h
    obtain ⟨hpc, h⟩ := h
    split at h
    · rename_i hc
      cases h
      exact .lockNull hpc hc
    · rename_i hc
      cases h
      exact .lockOwner hpc hc
  | compared =>
    simp only [RunnerSys.step, Option.ite_none_right_eq_some, Bool.and_eq_true, decide_eq_true_eq,
      bne_iff_ne, Option.some.injEq] at h
    obtain ⟨⟨hpc, hr⟩, rfl⟩ := h
    exact .compared hpc hr
  | leaveRun =>
    simp only [RunnerSys.step, Option.ite_none_right_eq_some, Bool.and_eq_true, decide_eq_true_eq,
      Bool.not_eq_true', Option.some.injEq] at h
    obtain ⟨⟨hpc, hd⟩, rfl⟩ := h
    exact .leaveRun hpc hd
  | loadRunning =>
    simp only [RunnerSys.step, Option.ite_none_left_eq_some, Bool.not_eq_true, Option.some.injEq] at h
    obtain ⟨hd, rfl⟩ := h
    exact .loadRunning hd
  | stop =>
    simp only [RunnerSys.step, Option.ite_none_left_eq_some] at h
    obtain ⟨hr, h⟩ := h
    rw [locked_some h]
    exact .stop hr
  | exitCallback =>
    simp only [RunnerSys.step, Option.ite_none_right_eq_some, Bool.and_eq_true,
      decide_eq_true_eq] at h
    obtain ⟨⟨hd, hpc⟩, h⟩ := h
    rw [locked_some h]
    exact .exitCallback hd hpc
  | addRef =>
    simp only [RunnerSys.step, Option.ite_none_right_eq_some, Bool.and_eq_true, decide_eq_true_eq,
      Option.some.injEq] at h
    obtain ⟨⟨hd, hc⟩, rfl⟩ := h
    exact .addRef hd hc
  | dropRef =>
    simp only [RunnerSys.step, Option.ite_none_right_eq_some, Bool.and_eq_true, decide_eq_true_eq,
      Option.some.injEq] at h
    obtain ⟨⟨hd, hr⟩, rfl⟩ := h
    exact .dropRef hd hr
  | loopAddRef =>
    simp only [RunnerSys.step, Option.ite_none_right_eq_some, Bool.and_eq_true, decide_eq_true_eq,
      Option.some.injEq] at h
    obtain ⟨⟨⟨⟨⟨hd, hpc⟩, -⟩, -⟩, hc⟩, rfl⟩ := h
    exact .loopAddRef hd hpc hc
  | loopDropRef =>
    simp only [RunnerSys.step, Option.ite_none_right_eq_some, Bool.and_eq_true, decide_eq_true_eq,
      Option.some.injEq] at h
    obtain ⟨⟨⟨⟨⟨hd, hpc⟩, -⟩, -⟩, hr⟩, rfl⟩ := h
    exact .loopDropRef hd hpc hr
  | destroy =>
    simp only [RunnerSys.step] at h
    split at h
    · rename_i byLoop hf
      cases hd : deposit with
      | true =>
        rw [hd, if_pos rfl] at h
        rw [locked_some h]
        exact .destroy byLoop rfl hf
      | false =>
        rw [hd, if_neg (by simp)] at h
        cases h
        exact .destroyPlain byLoop rfl hf
    · cases h

end Steps

end AppExecFwk
