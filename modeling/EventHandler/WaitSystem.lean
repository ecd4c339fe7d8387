import EventHandler.Order
import EventHandler.IoWaiter

/-!
# The loop thread and its I/O waiter

The system of `QueueSystem` with `WaitUntilLocked` opened up: the loop thread releases `queueLock_`
and goes through `WaitFor` of the waiter object it took, other threads notify the object that is
`ioWaiter_` at that time, and `AddFileDescriptorListener` puts another object in its place.

* `WaitSys` — the queue system, the waiter objects, the thread in the middle of a critical section
  of `queueLock_` because it notifies, and where the loop thread is in `WaitFor`.
* `waitSystem` — the steps: the operations of the queue, a notification step by step, the way
  through `WaitFor`, and taking `queueLock_` again.
* `waitSystem_simulation` — every run is a run of the queue system.
-/

set_option autoImplicit false

namespace AppExecFwk

open Transition EventQueueBase

/-- A thread that holds `queueLock_` and notifies `ioWaiter_`: `Insert`, `Finish`, or
    `EnsureIoWaiterLocked` before it puts a new waiter in place. -/
structure Notifier where
  stage : NotifyStage
  replaces : Bool
  deriving DecidableEq, Repr

structure WaitSys where
  sys : Sys
  waiters : Nat → IoWaiter
  /-- The waiter object `ioWaiter_` points to. -/
  ioWaiter : Nat
  /-- The objects made so far. -/
  made : Nat
  notifier : Option Notifier
  /-- The waiter the loop thread holds in `WaitUntilLocked`, and where it is in `WaitFor`. -/
  waitFor : Option (Nat × WaitStage)

inductive WaitOp where
  | queue (op : Op)
  | addFileDescriptorListener (listening initialized : Bool)
  | notify
  | unlock
  | wait (move : WaitMove)
  | relock

/-- The loop thread is in `WaitUntilLocked`. -/
def Pc.inWait : Pc → Bool
  | .waiting _ => true
  | .polling _ _ => true
  | _ => false

/-- The operation takes `queueLock_`; a turn of the loop has it already. -/
def Op.takesLock : Op → Bool
  | .pass _ => false
  | .execute => false
  | .release => false
  | .flag .prepare => true
  | .flag .finish => true
  | .flag _ => false
  | _ => true

/-- The operations the loop thread is at when it holds `queueLock_` again after a wait. -/
def Op.endsWait : Op → Bool
  | .wakeUp => true
  | .pollReturn => true
  | _ => false

/-- The operation calls `NotifyOne` or `NotifyAll` before it releases `queueLock_`. -/
def Op.notifies (s : Sys) : Op → Bool
  | .insert p now recv event priority insertType option =>
    (s.insertOutcome p now recv event priority insertType option).needNotify
  | .flag .finish => s.queue.usable
  | _ => false

namespace WaitSys

/-- No thread holds `queueLock_`. -/
def lockFree (x : WaitSys) : Bool := x.notifier.isNone && x.sys.lockFree

/-- `ioWaiter_` points to a new object. -/
def replaceWaiter (x : WaitSys) (waiter : IoWaiter) : WaitSys :=
  { x with
    waiters := Function.update x.waiters x.made waiter
    ioWaiter := x.made
    made := x.made + 1 }

/-- The loop thread calls `WaitFor` of `ioWaiter_` and releases `queueLock_`. -/
def startWait (x : WaitSys) : WaitSys :=
  { x with
    waiters := Function.update x.waiters x.ioWaiter (x.waiters x.ioWaiter).enter
    waitFor := some (x.ioWaiter, .unlocked) }

/-- After an operation: the loop thread starts to wait if its turn ended so, and a thread that
    notifies is at its call. -/
def afterOp (x : WaitSys) (notifies : Bool) (sys : Sys) : WaitSys :=
  let x' := { x with
    sys := sys
    notifier := if notifies then some ⟨.calling, false⟩ else x.notifier }
  if sys.pc.inWait && !x.sys.pc.inWait then x'.startWait else x'

/-- The loop thread holds `queueLock_` again; if `WaitFor` failed, `ioWaiter_` is a new
    `NoneIoWaiter`. -/
def afterWait (x : WaitSys) (w : Nat) (result : Bool) (sys : Sys) : WaitSys :=
  let x' := { x with
    sys := sys
    waiters := Function.update x.waiters w (x.waiters w).relock
    waitFor := none }
  if result then x' else x'.replaceWaiter (.noneIo {})

/-- The operation that ends the wait. -/
def wakeOp (x : WaitSys) : Op :=
  match x.sys.pc with
  | .polling _ _ => .pollReturn
  | _ => .wakeUp

/-- One step; `none` when it cannot be taken. -/
def step (P : SystemParameters) (start : ClockTime) (x : WaitSys) : WaitOp → Option WaitSys
  | .queue op =>
    if op.endsWait || (op.takesLock && !x.lockFree) then none
    else match (defaultModeLoop P start).step x.sys op with
      | some sys => some (x.afterOp (op.notifies x.sys) sys)
      | none => none
  | .addFileDescriptorListener listening initialized =>
    if x.lockFree then
      if !x.sys.queue.usable || listening ||
          (x.waiters x.ioWaiter).supportListeningFileDescriptor || !initialized then some x
      else some { x with notifier := some ⟨.calling, true⟩ }
    else none
  | .notify =>
    match x.notifier with
    | some n =>
      match (x.waiters x.ioWaiter).notifyStep n.stage with
      | some (waiter, stage) =>
        some { x with
          waiters := Function.update x.waiters x.ioWaiter waiter
          notifier := some { n with stage := stage } }
      | none => none
    | none => none
  | .unlock =>
    match x.notifier with
    | some ⟨.done, replaces⟩ =>
      some (if replaces then { x with notifier := none }.replaceWaiter (.epollIo {})
        else { x with notifier := none })
    | _ => none
  | .wait move =>
    match x.waitFor with
    | some (w, stage) =>
      match (x.waiters w).waitStep stage move with
      | some (waiter, stage') =>
        some { x with
          waiters := Function.update x.waiters w waiter
          waitFor := some (w, stage') }
      | none => none
    | none => none
  | .relock =>
    match x.waitFor with
    | some (w, .woken result) =>
      if x.lockFree then
        match (defaultModeLoop P start).step x.sys x.wakeOp with
        | some sys => some (x.afterWait w result sys)
        | none => none
      else none
    | _ => none

end WaitSys

/-- The queue with a new `NoneIoWaiter`. -/
def waitSystem (P : SystemParameters) (start : ClockTime) : System WaitSys WaitOp where
  init :=
    { sys := (defaultModeLoop P start).init
      waiters := fun _ => .noneIo {}
      ioWaiter := 0
      made := 1
      notifier := none
      waitFor := none }
  step := WaitSys.step P start

section Steps

variable {P : SystemParameters} {start : ClockTime} {x y : WaitSys}

/-- What a step does. -/
inductive WaitEffect (P : SystemParameters) (start : ClockTime) (x : WaitSys) :
    WaitOp → WaitSys → Prop
  | queue (op : Op) (sys : Sys) (he : op.endsWait = false)
      (hl : op.takesLock = true → x.lockFree = true)
      (h : (defaultModeLoop P start).step x.sys op = some sys) :
      WaitEffect P start x (.queue op) (x.afterOp (op.notifies x.sys) sys)
  | listening (listening initialized : Bool) :
      WaitEffect P start x (.addFileDescriptorListener listening initialized) x
  | replacing (listening initialized : Bool) (hl : x.lockFree = true) :
      WaitEffect P start x (.addFileDescriptorListener listening initialized)
        { x with notifier := some ⟨.calling, true⟩ }
  | notify (n : Notifier) (waiter : IoWaiter) (stage : NotifyStage) (hn : x.notifier = some n)
      (h : (x.waiters x.ioWaiter).notifyStep n.stage = some (waiter, stage)) :
      WaitEffect P start x .notify { x with
        waiters := Function.update x.waiters x.ioWaiter waiter
        notifier := some { n with stage := stage } }
  | unlock (hn : x.notifier = some ⟨.done, false⟩) :
      WaitEffect P start x .unlock { x with notifier := none }
  | replace (hn : x.notifier = some ⟨.done, true⟩) :
      WaitEffect P start x .unlock ({ x with notifier := none }.replaceWaiter (.epollIo {}))
  | wait (w : Nat) (stage stage' : WaitStage) (waiter : IoWaiter) (move : WaitMove)
      (hw : x.waitFor = some (w, stage))
      (h : (x.waiters w).waitStep stage move = some (waiter, stage')) :
      WaitEffect P start x (.wait move) { x with
        waiters := Function.update x.waiters w waiter
        waitFor := some (w, stage') }
  | relock (w : Nat) (result : Bool) (sys : Sys) (hw : x.waitFor = some (w, .woken result))
      (hl : x.lockFree = true) (h : (defaultModeLoop P start).step x.sys x.wakeOp = some sys) :
      WaitEffect P start x .relock (x.afterWait w result sys)

/-- **Inversion of a step.** -/
theorem wait_cases {a : WaitOp} (h : x.step P start a = some y) : WaitEffect P start x a y := by
  cases a with
  | queue op =>
    simp only [WaitSys.step] at h
    split at h
    · cases h
    · rename_i hg
      simp only [Bool.or_eq_true, Bool.and_eq_true, Bool.not_eq_true', not_or, not_and,
        Bool.not_eq_true, Bool.not_eq_false] at hg
      split at h
      · rename_i sys hs
        cases h
        exact .queue op sys hg.1 hg.2 hs
      · cases h
  | addFileDescriptorListener listening initialized =>
    simp only [WaitSys.step] at h
    split at h
    · rename_i hl
      split at h
      · cases h
        exact .listening listening initialized
      · cases h
        exact .replacing listening initialized hl
    · cases h
  | notify =>
    simp only [WaitSys.step] at h
    split at h
    · rename_i n hn
      split at h
      · rename_i waiter stage hs
        cases h
        exact .notify n waiter stage hn hs
      · cases h
    · cases h
  | unlock =>
    simp only [WaitSys.step] at h
    split at h
    · rename_i replaces hn
      cases replaces with
      | true => cases h; exact .replace hn
      | false => cases h; exact .unlock hn
    · cases h
  | wait move =>
    simp only [WaitSys.step] at h
    split at h
    · rename_i w stage hw
      split at h
      · rename_i waiter stage' hs
        cases h
        exact .wait w stage stage' waiter move hw hs
      · cases h
    · cases h
  | relock =>
    simp only [WaitSys.step] at h
    split at h
    · rename_i w result hw
      split at h
      · rename_i hl
        split at h
        · rename_i sys hs
          cases h
          exact .relock w result sys hw hl hs
        · cases h
      · cases h
    · cases h

@[simp] theorem afterOp_sys (x : WaitSys) (n : Bool) (sys : Sys) : (x.afterOp n sys).sys = sys := by
  unfold WaitSys.afterOp
  simp only
  split <;> rfl

@[simp] theorem afterWait_sys (x : WaitSys) (w : Nat) (result : Bool) (sys : Sys) :
    (x.afterWait w result sys).sys = sys := by
  unfold WaitSys.afterWait
  simp only
  split <;> rfl

/-- **Every run with the waiters opened up is a run of the loop**: a step is one operation of the
    queue or none. -/
theorem waitSystem_simulation (P : SystemParameters) (start : ClockTime)
    (ok : WaitSys → WaitOp → Prop) :
    System.Simulation (waitSystem P start) ok (defaultModeLoop P start) System.always
      WaitSys.sys := by
  refine ⟨rfl, fun x a y _ _ h => ?_⟩
  cases wait_cases h with
  | queue op sys _ _ hs =>
    rw [afterOp_sys]
    exact ⟨[op], System.Run.one trivial hs⟩
  | relock w result sys _ _ hs =>
    rw [afterWait_sys]
    exact ⟨[x.wakeOp], System.Run.one trivial hs⟩
  | listening _ _ => exact ⟨[], .nil _⟩
  | replacing _ _ _ => exact ⟨[], .nil _⟩
  | notify _ _ _ _ _ => exact ⟨[], .nil _⟩
  | unlock _ => exact ⟨[], .nil _⟩
  | replace _ => exact ⟨[], .nil _⟩
  | wait _ _ _ _ _ _ _ => exact ⟨[], .nil _⟩

end Steps

end AppExecFwk
