/-!
# I/O waiters

Model of `NoneIoWaiter` and `EpollIoWaiter`: what a waiter object holds, how `NotifyOne` and
`NotifyAll` go, and how the loop thread goes through `WaitFor`.  A step is one operation on
`waitLock_`, `waitingCount_`, `awakenFd_` or the kernel, so other threads come in between.

* `IoWaiter.wakePending` — a wake-up the waiter holds for its thread: `pred_`, or a count in
  `awakenFd_`.
* `IoWaiter.notifyStep` — a notification, from its call to its end.
* `IoWaiter.waitStep` — the loop thread in `WaitFor`, between the two operations on `queueLock_`.
  The condition variable and `epoll_wait` may also return without a reason, or on a timeout.
-/

set_option autoImplicit false

namespace AppExecFwk

structure NoneIoWaiter where
  pred : Bool := false
  /-- `waitLock_` is held. -/
  waitLock : Bool := false
  deriving DecidableEq, Repr

structure EpollIoWaiter where
  waitingCount : Int := 0
  /-- The counter of the event descriptor. -/
  awakenFd : Nat := 0
  deriving DecidableEq, Repr

inductive IoWaiter where
  | noneIo (w : NoneIoWaiter)
  | epollIo (w : EpollIoWaiter)
  deriving DecidableEq, Repr

/-- Where a notification is: called, past the test of `waitingCount_` or holding `waitLock_`, or
    done. -/
inductive NotifyStage where
  | calling
  | inside
  | done
  deriving DecidableEq, Repr

/-- Where the loop thread is in `WaitFor`.  `unlocked` is after the release of `queueLock_`, `woken`
    before it is taken again; `checking` holds `waitLock_`. -/
inductive WaitStage where
  | unlocked
  | checking (timedOut : Bool)
  | blocked
  | returned (awaken failed : Bool)
  | handling (awaken failed : Bool)
  | woken (result : Bool)
  deriving DecidableEq, Repr

/-- The thread has not left the wait. -/
def WaitStage.asleep : WaitStage → Bool
  | .unlocked => true
  | .checking _ => true
  | .blocked => true
  | .returned _ _ => false
  | .handling _ _ => false
  | .woken _ => false

/-- The thread is counted in `waitingCount_`. -/
def WaitStage.counted : WaitStage → Bool
  | .returned _ _ => true
  | stage => stage.asleep

/-- The moves of `WaitFor`. -/
inductive WaitMove where
  | lock
  | check
  | wake (timedOut : Bool)
  | epollWait
  | epollReturn (awaken failed : Bool)
  | decrement
  | drain
  deriving DecidableEq, Repr

namespace IoWaiter

/-- `SupportListeningFileDescriptor`. -/
def supportListeningFileDescriptor : IoWaiter → Bool
  | .noneIo _ => false
  | .epollIo _ => true

/-- A wake-up is pending: `pred_` is set, or `awakenFd_` is readable. -/
def wakePending : IoWaiter → Bool
  | .noneIo w => w.pred
  | .epollIo w => w.awakenFd != 0

/-- One step of `NotifyOne` or `NotifyAll`; `none` when `waitLock_` is held by another thread. -/
def notifyStep : IoWaiter → NotifyStage → Option (IoWaiter × NotifyStage)
  | .noneIo w, .calling =>
    if w.waitLock then none else some (.noneIo { w with waitLock := true }, .inside)
  | .noneIo w, .inside => some (.noneIo { w with pred := true, waitLock := false }, .done)
  | .epollIo w, .calling =>
    if w.waitingCount = 0 then some (.epollIo w, .done) else some (.epollIo w, .inside)
  | .epollIo w, .inside => some (.epollIo { w with awakenFd := w.awakenFd + 1 }, .done)
  | _, .done => none

/-- The call of `WaitFor`: an `EpollIoWaiter` counts the thread before it releases `queueLock_`. -/
def enter : IoWaiter → IoWaiter
  | .noneIo w => .noneIo w
  | .epollIo w => .epollIo { w with waitingCount := w.waitingCount + 1 }

/-- One step of the loop thread in `WaitFor`; `none` when it cannot be taken. -/
def waitStep : IoWaiter → WaitStage → WaitMove → Option (IoWaiter × WaitStage)
  | .noneIo w, .unlocked, .lock =>
    if w.waitLock then none else some (.noneIo { w with waitLock := true }, .checking false)
  | .noneIo w, .checking timedOut, .check =>
    some (.noneIo { w with waitLock := false },
      if w.pred || timedOut then .woken true else .blocked)
  | .noneIo w, .blocked, .wake timedOut =>
    if w.waitLock then none else some (.noneIo { w with waitLock := true }, .checking timedOut)
  | .epollIo w, .unlocked, .epollWait => some (.epollIo w, .blocked)
  | .epollIo w, .blocked, .epollReturn awaken failed =>
    if awaken && w.awakenFd == 0 then none else some (.epollIo w, .returned awaken failed)
  | .epollIo w, .returned awaken failed, .decrement =>
    some (.epollIo { w with waitingCount := w.waitingCount - 1 }, .handling awaken failed)
  | .epollIo w, .handling awaken failed, .drain =>
    some (.epollIo (if awaken && !failed then { w with awakenFd := 0 } else w), .woken !failed)
  | _, _, _ => none

/-- `WaitFor` when it holds `queueLock_` again. -/
def relock : IoWaiter → IoWaiter
  | .noneIo w => .noneIo { w with pred := false }
  | .epollIo w => .epollIo w

/-- The thread count is right when `counted` tells whether the loop thread is counted. -/
def CountRight (counted : Bool) : IoWaiter → Prop
  | .noneIo _ => True
  | .epollIo w => w.waitingCount = if counted then 1 else 0

theorem enter_count {w : IoWaiter} (h : CountRight false w) : CountRight true w.enter := by
  cases w with
  | noneIo w => trivial
  | epollIo w =>
    simp only [CountRight, enter, Bool.false_eq_true, if_false] at h ⊢
    simp [h]

theorem relock_count {w : IoWaiter} {c : Bool} (h : CountRight c w) : CountRight c w.relock := by
  cases w <;> exact h

/-- A notification never takes a wake-up away, and does not touch the thread count. -/
theorem notifyStep_keeps {w w' : IoWaiter} {stage stage' : NotifyStage}
    (h : w.notifyStep stage = some (w', stage')) :
    (w.wakePending = true → w'.wakePending = true) ∧
      (∀ c, CountRight c w → CountRight c w') := by
  cases w with
  | noneIo w =>
    cases stage with
    | calling =>
      simp only [notifyStep, Option.ite_none_left_eq_some, Option.some.injEq, Prod.mk.injEq] at h
      obtain ⟨-, rfl, rfl⟩ := h
      exact ⟨id, fun _ => id⟩
    | inside => cases h; exact ⟨fun _ => rfl, fun _ => id⟩
    | done => cases h
  | epollIo w =>
    cases stage with
    | calling =>
      simp only [notifyStep] at h
      split at h <;> (cases h; exact ⟨id, fun _ => id⟩)
    | inside =>
      cases h
      refine ⟨fun _ => ?_, fun _ => id⟩
      simp [wakePending]
    | done => cases h

/-- **A notification that ends while the thread is counted leaves a wake-up for it.** -/
theorem notifyStep_done {w w' : IoWaiter} {stage : NotifyStage} (hc : CountRight true w)
    (h : w.notifyStep stage = some (w', .done)) : w'.wakePending = true := by
  cases w with
  | noneIo w =>
    cases stage with
    | calling => simp [notifyStep] at h
    | inside => cases h; rfl
    | done => cases h
  | epollIo w =>
    cases stage with
    | calling =>
      -- the thread is counted, so the test of `waitingCount_` does not end the call
      have hne : w.waitingCount ≠ 0 := by
        simp only [CountRight, if_true] at hc
        omega
      simp [notifyStep, hne] at h
    | inside =>
      cases h
      simp [wakePending]
    | done => cases h

/-- A notification that is not done goes on from `calling` to `inside`. -/
theorem notifyStep_stage {w w' : IoWaiter} {stage stage' : NotifyStage}
    (h : w.notifyStep stage = some (w', stage')) :
    stage ≠ .done ∧ (stage' = .inside ∨ stage' = .done) := by
  cases w with
  | noneIo w =>
    cases stage with
    | calling =>
      simp only [notifyStep, Option.ite_none_left_eq_some, Option.some.injEq, Prod.mk.injEq] at h
      exact ⟨by simp, Or.inl h.2.2.symm⟩
    | inside => cases h; exact ⟨by simp, Or.inr rfl⟩
    | done => cases h
  | epollIo w =>
    cases stage with
    | calling =>
      simp only [notifyStep] at h
      split at h
      · cases h; exact ⟨by simp, Or.inr rfl⟩
      · cases h; exact ⟨by simp, Or.inl rfl⟩
    | inside => cases h; exact ⟨by simp, Or.inr rfl⟩
    | done => cases h

/-- **A thread that stays in the wait was in it, and its wake-up is not lost.** -/
theorem waitStep_asleep {w w' : IoWaiter} {stage stage' : WaitStage} {m : WaitMove}
    (h : w.waitStep stage m = some (w', stage')) (hs : stage'.asleep = true) :
    stage.asleep = true ∧ w'.wakePending = w.wakePending := by
  unfold waitStep at h
  split at h
  · simp only [Option.ite_none_left_eq_some, Option.some.injEq, Prod.mk.injEq] at h
    obtain ⟨-, rfl, rfl⟩ := h
    exact ⟨rfl, rfl⟩
  · cases h
    exact ⟨rfl, rfl⟩
  · simp only [Option.ite_none_left_eq_some, Option.some.injEq, Prod.mk.injEq] at h
    obtain ⟨-, rfl, rfl⟩ := h
    exact ⟨rfl, rfl⟩
  · cases h
    exact ⟨rfl, rfl⟩
  · simp only [Option.ite_none_left_eq_some, Option.some.injEq, Prod.mk.injEq] at h
    obtain ⟨-, rfl, rfl⟩ := h
    cases hs
  · cases h
    cases hs
  · cases h
    cases hs
  · cases h

/-- The thread count follows the stage. -/
theorem waitStep_count {w w' : IoWaiter} {stage stage' : WaitStage} {m : WaitMove}
    (h : w.waitStep stage m = some (w', stage')) (hc : CountRight stage.counted w) :
    CountRight stage'.counted w' := by
  unfold waitStep at h
  split at h
  · simp only [Option.ite_none_left_eq_some, Option.some.injEq, Prod.mk.injEq] at h
    obtain ⟨-, rfl, rfl⟩ := h
    trivial
  · cases h
    trivial
  · simp only [Option.ite_none_left_eq_some, Option.some.injEq, Prod.mk.injEq] at h
    obtain ⟨-, rfl, rfl⟩ := h
    trivial
  · cases h
    exact hc
  · simp only [Option.ite_none_left_eq_some, Option.some.injEq, Prod.mk.injEq] at h
    obtain ⟨-, rfl, rfl⟩ := h
    exact hc
  · cases h
    simp only [CountRight, WaitStage.counted, if_true] at hc
    simp [CountRight, WaitStage.counted, WaitStage.asleep, hc]
  · cases h
    simp only [CountRight, WaitStage.counted, WaitStage.asleep] at hc ⊢
    split <;> exact hc
  · cases h

end IoWaiter

end AppExecFwk
