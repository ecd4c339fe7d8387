import Mathlib
import EventHandler.Lib.Completion
import EventHandler.FdDelivery

/-!
# The end of the deamon's thread

`StopEpollIoWaiter` sets `isFinished_`, calls `NotifyAll` and joins the thread of `EpollWaitFor`.
`NotifyAll` writes into the event descriptor only if `waitingCount_` is not zero, and the thread
increments it behind the test of `isFinished_`, without a lock.

* `DeamonPc`, `StopWaiterPc`, `DeamonSys` — the two threads, the atomic fields, and what `epoll_wait`
  has to report.
* `DeamonSys.step` — one atomic operation or system call each; descriptors become ready and are
  drained or closed, and `epoll_wait` may be interrupted.
* `Counted` — `waitingCount_` counts the thread in `epoll_wait`, and only `StopEpollIoWaiter` writes.
* `Noticed`, `Missed` — the thread will notice that it is to end, or it sleeps until a descriptor
  becomes ready.
* `stop_returns_iff` — `StopEpollIoWaiter` returns, whatever comes between, exactly if `NotifyAll` has
  not read the count between the test and the increment.
-/

set_option autoImplicit false

namespace AppExecFwk

open Transition

/-- The thread of `EpollWaitFor`: before the test of `isFinished_`, before `++waitingCount_`, in
    `epoll_wait`, before `--waitingCount_`, in `HandleEpollEvents`; `awaken` when the event descriptor is
    among the events reported. -/
inductive DeamonPc where
  | idle
  | testing
  | counting
  | waiting
  | returned (awaken : Bool)
  | handling (awaken : Bool)
  | ended
  deriving DecidableEq, Repr

/-- `StopEpollIoWaiter` with its `NotifyAll`. -/
inductive StopWaiterPc where
  | uncalled
  | loading
  | writing
  | joining
  | done
  deriving DecidableEq, Repr

structure DeamonSys where
  initialized : Bool
  isFinished : Bool
  waitingCount : Int
  awakenCounter : Nat
  /-- `epoll_wait` has `awakenFd_` to report. -/
  awakenReady : Bool
  /-- The other descriptors that it has to report. -/
  readyFds : Nat
  deamon : DeamonPc
  stop : StopWaiterPc
  deriving DecidableEq, Repr

inductive DeamonOp where
  | init
  | start
  | testFinished
  | incrementCount
  | epollWait (awaken : Bool) (fds : Nat)
  | interrupt
  | decrementCount
  | handleEvents
  | fdReady
  /-- A ready descriptor is drained, closed or removed from the set. -/
  | fdDrained
  /-- `StopEpollIoWaiter` sets `isFinished_`. -/
  | finish
  | loadCount
  | write
  | join
  deriving DecidableEq, Repr

namespace DeamonSys

def ready (s : DeamonSys) : Nat := s.awakenReady.toNat + s.readyFds

def step (s : DeamonSys) : DeamonOp → Option DeamonSys
  | .init => if s.stop = .uncalled then some { s with initialized := true } else none
  | .start =>
    if s.initialized = true ∧ s.stop = .uncalled then
      -- `running_` lets one call through.
      if s.deamon = .idle then some { s with deamon := .testing } else some s
    else none
  | .testFinished =>
    if s.deamon = .testing then
      some { s with deamon := if s.isFinished then .ended else .counting }
    else none
  | .incrementCount =>
    if s.deamon = .counting then
      some { s with waitingCount := s.waitingCount + 1, deamon := .waiting }
    else none
  | .epollWait awaken fds =>
    if s.deamon = .waiting ∧ (awaken = true → s.awakenReady = true) ∧ fds ≤ s.readyFds ∧
        0 < awaken.toNat + fds ∧ awaken.toNat + fds = min MAX_EPOLL_EVENTS_SIZE s.ready then
      some { s with
        awakenReady := s.awakenReady && !awaken
        readyFds := s.readyFds - fds
        deamon := .returned awaken }
    else none
  | .interrupt => if s.deamon = .waiting then some { s with deamon := .returned false } else none
  | .decrementCount =>
    match s.deamon with
    | .returned awaken =>
      some { s with waitingCount := s.waitingCount - 1, deamon := .handling awaken }
    | _ => none
  | .handleEvents =>
    match s.deamon with
    | .handling awaken =>
      -- `DrainAwakenPipe`.
      some { s with awakenCounter := if awaken then 0 else s.awakenCounter, deamon := .testing }
    | _ => none
  | .fdReady => some { s with readyFds := s.readyFds + 1 }
  | .fdDrained => if 0 < s.readyFds then some { s with readyFds := s.readyFds - 1 } else none
  | .finish =>
    if s.stop = .uncalled then some { s with isFinished := true, stop := .loading } else none
  | .loadCount =>
    if s.stop = .loading then
      some { s with stop := if s.initialized = true ∧ s.waitingCount ≠ 0 then .writing else .joining }
    else none
  | .write =>
    if s.stop = .writing then
      some { s with awakenCounter := s.awakenCounter + 1, awakenReady := true, stop := .joining }
    else none
  | .join =>
    if s.stop = .joining ∧ (s.deamon = .idle ∨ s.deamon = .ended) then
      some { s with stop := .done }
    else none

end DeamonSys

def deamonSystem : System DeamonSys DeamonOp where
  init :=
    { initialized := false
      isFinished := false
      waitingCount := 0
      awakenCounter := 0
      awakenReady := false
      readyFds := 0
      deamon := .idle
      stop := .uncalled }
  step := DeamonSys.step

def DeamonOp.ofThreads : DeamonOp → Bool
  | .fdReady => false
  | .fdDrained => false
  | .interrupt => false
  | _ => true

/-! ## What a step does -/

inductive DeamonEffect (s : DeamonSys) : DeamonOp → DeamonSys → Prop
  | init (hs : s.stop = .uncalled) : DeamonEffect s .init { s with initialized := true }
  | started (hi : s.initialized = true) (hs : s.stop = .uncalled) (hd : s.deamon = .idle) :
      DeamonEffect s .start { s with deamon := .testing }
  | restarted (hi : s.initialized = true) (hs : s.stop = .uncalled) (hd : s.deamon ≠ .idle) :
      DeamonEffect s .start s
  | testFinished (hd : s.deamon = .testing) :
      DeamonEffect s .testFinished { s with deamon := if s.isFinished then .ended else .counting }
  | incrementCount (hd : s.deamon = .counting) :
      DeamonEffect s .incrementCount
        { s with waitingCount := s.waitingCount + 1, deamon := .waiting }
  | epollWait (awaken : Bool) (fds : Nat) (hd : s.deamon = .waiting)
      (hawaken : awaken = true → s.awakenReady = true) (hfds : fds ≤ s.readyFds)
      (hpos : 0 < awaken.toNat + fds)
      (hmax : awaken.toNat + fds = min MAX_EPOLL_EVENTS_SIZE s.ready) :
      DeamonEffect s (.epollWait awaken fds) { s with
        awakenReady := s.awakenReady && !awaken
        readyFds := s.readyFds - fds
        deamon := .returned awaken }
  | interrupt (hd : s.deamon = .waiting) :
      DeamonEffect s .interrupt { s with deamon := .returned false }
  | decrementCount (awaken : Bool) (hd : s.deamon = .returned awaken) :
      DeamonEffect s .decrementCount
        { s with waitingCount := s.waitingCount - 1, deamon := .handling awaken }
  | handleEvents (awaken : Bool) (hd : s.deamon = .handling awaken) :
      DeamonEffect s .handleEvents
        { s with awakenCounter := if awaken then 0 else s.awakenCounter, deamon := .testing }
  | fdReady : DeamonEffect s .fdReady { s with readyFds := s.readyFds + 1 }
  | fdDrained (hf : 0 < s.readyFds) :
      DeamonEffect s .fdDrained { s with readyFds := s.readyFds - 1 }
  | finish (hs : s.stop = .uncalled) :
      DeamonEffect s .finish { s with isFinished := true, stop := .loading }
  | loadCount (hs : s.stop = .loading) :
      DeamonEffect s .loadCount { s with
        stop := if s.initialized = true ∧ s.waitingCount ≠ 0 then .writing else .joining }
  | write (hs : s.stop = .writing) :
      DeamonEffect s .write { s with
        awakenCounter := s.awakenCounter + 1
        awakenReady := true
        stop := .joining }
  | join (hs : s.stop = .joining) (hd : s.deamon = .idle ∨ s.deamon = .ended) :
      DeamonEffect s .join { s with stop := .done }

theorem deamon_cases {s t : DeamonSys} {a : DeamonOp} (h : s.step a = some t) :
    DeamonEffect s a t := by
  cases a with
  | start =>
    simp only [DeamonSys.step, Option.ite_none_right_eq_some] at h
    obtain ⟨⟨hi, hs⟩, h⟩ := h
    split at h
    · rename_i hd
      cases h
      exact .started hi hs hd
    · rename_i hd
      cases h
      exact .restarted hi hs hd
  | decrementCount =>
    simp only [DeamonSys.step] at h
    split at h
    · rename_i awaken hd
      cases h
      exact .decrementCount awaken hd
    · cases h
  | handleEvents =>
    simp only [DeamonSys.step] at h
    split at h
    · rename_i awaken hd
      cases h
      exact .handleEvents awaken hd
    · cases h
  | fdReady =>
    cases h
    exact .fdReady
  | epollWait awaken fds =>
    simp only [DeamonSys.step, Option.ite_none_right_eq_some, Option.some.injEq] at h
    obtain ⟨⟨hd, hawaken, hfds, hpos, hmax⟩, rfl⟩ := h
    exact .epollWait awaken fds hd hawaken hfds hpos hmax
  | join =>
    simp only [DeamonSys.step, Option.ite_none_right_eq_some, Option.some.injEq] at h
    obtain ⟨⟨hs, hd⟩, rfl⟩ := h
    exact .join hs hd
  | _ =>
    simp only [DeamonSys.step, Option.ite_none_right_eq_some, Option.some.injEq] at h
    obtain ⟨hguard, rfl⟩ := h
    constructor
    exact hguard

/-! ## The count -/

structure Counted (s : DeamonSys) : Prop where
  count : s.waitingCount = match s.deamon with
    | .waiting => 1
    | .returned _ => 1
    | _ => 0
  started : s.deamon ≠ .idle → s.initialized = true
  finished : s.isFinished = true ↔ s.stop ≠ .uncalled
  unwritten : s.stop = .uncalled ∨ s.stop = .loading ∨ s.stop = .writing → s.awakenReady = false

/-- **The count tells whether the thread is in `epoll_wait`.** -/
theorem counted_step {s t : DeamonSys} {a : DeamonOp} (h : Counted s) (hst : s.step a = some t) :
    Counted t := by
  obtain ⟨hcount, hstarted, hfin, hun⟩ := h
  have called : ∀ {pc : StopWaiterPc}, s.stop = pc → pc ≠ .uncalled → s.isFinished = true := by
    rintro _ rfl hpc
    exact hfin.2 hpc
  have running : ∀ {pc : DeamonPc}, s.deamon = pc → pc ≠ .idle → s.initialized = true := by
    rintro _ rfl hpc
    exact hstarted hpc
  cases deamon_cases hst with
  | init => exact ⟨hcount, fun _ => rfl, hfin, hun⟩
  | started hi hs hd =>
    rw [hd] at hcount
    exact ⟨hcount, fun _ => hi, hfin, hun⟩
  | restarted => exact ⟨hcount, hstarted, hfin, hun⟩
  | testFinished hd =>
    rw [hd] at hcount
    refine ⟨?_, fun _ => running hd (by decide), hfin, hun⟩
    rw [hcount]
    cases s.isFinished <;> rfl
  | incrementCount hd =>
    rw [hd] at hcount
    exact ⟨by simp [hcount], fun _ => running hd (by decide), hfin, hun⟩
  | epollWait awaken fds hd =>
    rw [hd] at hcount
    refine ⟨hcount, fun _ => running hd (by decide), hfin, fun h => ?_⟩
    show (s.awakenReady && !awaken) = false
    rw [hun h]
    rfl
  | interrupt hd =>
    rw [hd] at hcount
    exact ⟨hcount, fun _ => running hd (by decide), hfin, hun⟩
  | decrementCount awaken hd =>
    rw [hd] at hcount
    exact ⟨by simp [hcount], fun _ => running hd nofun, hfin, hun⟩
  | handleEvents awaken hd =>
    rw [hd] at hcount
    exact ⟨hcount, fun _ => running hd nofun, hfin, hun⟩
  | fdReady => exact ⟨hcount, hstarted, hfin, hun⟩
  | fdDrained => exact ⟨hcount, hstarted, hfin, hun⟩
  | finish hs => exact ⟨hcount, hstarted, by simp, fun _ => hun (Or.inl hs)⟩
  | loadCount hs =>
    have hf := called hs (by decide)
    refine ⟨hcount, hstarted, ⟨fun _ => ?_, fun _ => hf⟩, fun _ => hun (Or.inr (Or.inl hs))⟩
    dsimp only
    split <;> simp
  | write hs => exact ⟨hcount, hstarted, by simp [called hs (by decide)], by simp⟩
  | join hs => exact ⟨hcount, hstarted, by simp [called hs (by decide)], by simp⟩

theorem counted_run {s : DeamonSys} (h : deamonSystem.Reachable System.always s) : Counted s := by
  refine System.Reachable.invariant ?_
    (fun s a _ hi _ hst => counted_step (s := s) (a := a) hi hst) h
  exact ⟨rfl, fun h => absurd rfl h, by decide, fun _ => rfl⟩

/-! ## The steps that are left -/

def DeamonPc.left : DeamonPc → Nat
  | .idle => 0
  | .testing => 1
  | .counting => 5
  | .waiting => 4
  | .returned _ => 3
  | .handling _ => 2
  | .ended => 0

def StopWaiterPc.left : StopWaiterPc → Nat
  | .uncalled => 4
  | .loading => 3
  | .writing => 2
  | .joining => 1
  | .done => 0

/-- The steps that the threads can make once `isFinished_` is set. -/
def DeamonSys.left (s : DeamonSys) : Nat := s.deamon.left + s.stop.left

/-- Between the test and `epoll_wait`, or in it. -/
def DeamonPc.pastTest : DeamonPc → Bool
  | .counting => true
  | .waiting => true
  | _ => false

/-- `NotifyAll` is past its test, and the event descriptor is ready or will be written. -/
structure Noticed (s : DeamonSys) : Prop where
  finished : s.isFinished = true
  tested : s.stop ≠ .uncalled ∧ s.stop ≠ .loading
  woken : s.deamon.pastTest = true → s.awakenReady = true ∨ s.stop = .writing

/-- What a step does once `NotifyAll` is past its test. -/
structure Winds (s : DeamonSys) (a : DeamonOp) (t : DeamonSys) : Prop where
  finished : t.isFinished = true
  tested : t.stop ≠ .uncalled ∧ t.stop ≠ .loading
  left : if a.ofThreads then t.left < s.left else t.left ≤ s.left
  /-- The thread does not come back behind the test. -/
  past : t.deamon.pastTest = true → s.deamon.pastTest = true
  ready : t.deamon.pastTest = true → s.awakenReady = true → t.awakenReady = true
  written : s.stop = .writing →
    t.stop = .writing ∨ t.awakenReady = true ∨ t.deamon.pastTest = false

theorem Winds.returns {s t : DeamonSys} {a : DeamonOp} (hf : t.isFinished = true)
    (hs : t.stop = s.stop) (htest : s.stop ≠ .uncalled ∧ s.stop ≠ .loading)
    (hleft : t.deamon.left < s.deamon.left) (hp : t.deamon.pastTest = false) : Winds s a t := by
  have hlt : t.left < s.left := by
    unfold DeamonSys.left
    rw [hs]
    omega
  have hnot : t.deamon.pastTest ≠ true := by
    rw [hp]
    decide
  refine ⟨hf, hs ▸ htest, ?_, fun h => absurd h hnot, fun h => absurd h hnot,
    fun h => Or.inl (hs ▸ h)⟩
  split
  · exact hlt
  · exact le_of_lt hlt

theorem winds_step {s t : DeamonSys} {a : DeamonOp} (hf : s.isFinished = true)
    (htest : s.stop ≠ .uncalled ∧ s.stop ≠ .loading) (hst : s.step a = some t) : Winds s a t := by
  cases deamon_cases hst with
  | init hs => exact absurd hs htest.1
  | started _ hs _ => exact absurd hs htest.1
  | restarted _ hs _ => exact absurd hs htest.1
  | finish hs => exact absurd hs htest.1
  | loadCount hs => exact absurd hs htest.2
  | testFinished hd =>
    refine .returns hf rfl htest ?_ ?_
    · simp [hd, hf, DeamonPc.left]
    · simp [hf, DeamonPc.pastTest]
  | incrementCount hd =>
    refine ⟨hf, htest, ?_, fun _ => ?_, fun _ => id, fun h => Or.inl h⟩
    · simp [DeamonOp.ofThreads, DeamonSys.left, hd, DeamonPc.left]
    · rw [hd]
      rfl
  | epollWait awaken fds hd => exact .returns hf rfl htest (by simp [hd, DeamonPc.left]) rfl
  | interrupt hd => exact .returns hf rfl htest (by simp [hd, DeamonPc.left]) rfl
  | decrementCount awaken hd => exact .returns hf rfl htest (by simp [hd, DeamonPc.left]) rfl
  | handleEvents awaken hd => exact .returns hf rfl htest (by simp [hd, DeamonPc.left]) rfl
  | fdReady => exact ⟨hf, htest, le_refl _, id, fun _ => id, fun h => Or.inl h⟩
  | fdDrained => exact ⟨hf, htest, le_refl _, id, fun _ => id, fun h => Or.inl h⟩
  | write hs =>
    refine ⟨hf, by simp, ?_, id, fun _ _ => rfl, fun _ => Or.inr (Or.inl rfl)⟩
    simp [DeamonOp.ofThreads, DeamonSys.left, hs, StopWaiterPc.left]
  | join hs =>
    refine ⟨hf, by simp, ?_, id, fun _ => id, fun h => ?_⟩
    · simp [DeamonOp.ofThreads, DeamonSys.left, hs, StopWaiterPc.left]
    · rw [hs] at h
      cases h

theorem noticed_step {s t : DeamonSys} {a : DeamonOp} (h : Noticed s) (hst : s.step a = some t) :
    Noticed t := by
  have hw := winds_step h.finished h.tested hst
  refine ⟨hw.finished, hw.tested, fun hp => ?_⟩
  rcases h.woken (hw.past hp) with hr | hs
  · exact Or.inl (hw.ready hp hr)
  · rcases hw.written hs with hs | hr | hp'
    · exact Or.inr hs
    · exact Or.inl hr
    · rw [hp] at hp'
      cases hp'

theorem noticed_lowers :
    Lowers deamonSystem DeamonOp.ofThreads Noticed DeamonSys.left where
  keeps _ _ _ h hst := noticed_step h hst
  lowers s a t h hst ho := by
    have := (winds_step h.finished h.tested hst).left
    rwa [if_pos ho] at this
  stays s a t h hst ho := by
    have := (winds_step h.finished h.tested hst).left
    rwa [if_neg (by rw [ho]; decide)] at this

/-- **As long as the call has not returned, one of the threads goes on.** -/
theorem noticed_enabled {s : DeamonSys} (h : Noticed s) (hd : s.stop ≠ .done) :
    ∃ a t, a.ofThreads = true ∧ deamonSystem.step s a = some t := by
  have go : ∀ {a : DeamonOp} {t : DeamonSys}, a.ofThreads = true → s.step a = some t →
      ∃ a t, a.ofThreads = true ∧ deamonSystem.step s a = some t := fun ho ht => ⟨_, _, ho, ht⟩
  cases hs : s.stop with
  | uncalled => exact absurd hs h.tested.1
  | loading => exact absurd hs h.tested.2
  | done => exact absurd hs hd
  | writing => exact @go .write _ rfl (if_pos hs)
  | joining =>
    cases hp : s.deamon with
    | idle => exact @go .join _ rfl (if_pos ⟨hs, Or.inl hp⟩)
    | ended => exact @go .join _ rfl (if_pos ⟨hs, Or.inr hp⟩)
    | testing => exact @go .testFinished _ rfl (if_pos hp)
    | counting => exact @go .incrementCount _ rfl (if_pos hp)
    | returned b => exact @go .decrementCount _ rfl (by simp only [DeamonSys.step, hp]; rfl)
    | handling b => exact @go .handleEvents _ rfl (by simp only [DeamonSys.step, hp]; rfl)
    | waiting =>
      have hready : 0 < s.ready := by
        rcases h.woken (by rw [hp]; rfl) with hr | hw
        · unfold DeamonSys.ready
          rw [hr]
          exact Nat.succ_le_iff.1 (Nat.le_add_right 1 _)
        · rw [hs] at hw
          cases hw
      have hone := Bool.toNat_le s.awakenReady
      have hmax : 0 < MAX_EPOLL_EVENTS_SIZE := by decide
      refine @go (.epollWait s.awakenReady
        (min MAX_EPOLL_EVENTS_SIZE s.ready - s.awakenReady.toNat)) _ rfl
        (if_pos ⟨hp, id, ?_, ?_, ?_⟩)
      · unfold DeamonSys.ready
        omega
      · unfold DeamonSys.ready at hready ⊢
        omega
      · unfold DeamonSys.ready at hready ⊢
        omega

/-- A step of the two threads, or of others that take ready descriptors away. -/
def DeamonOp.quiet (a : DeamonOp) : Bool := a.ofThreads || a == .fdDrained

/-- The thread is past the test, nothing is there to report, and nobody will write. -/
structure Missed (s : DeamonSys) : Prop where
  joining : s.stop = .joining
  past : s.deamon.pastTest = true
  silent : s.ready = 0

theorem missed_step {s t : DeamonSys} {a : DeamonOp} (h : Missed s) (ha : a.quiet = true)
    (hst : s.step a = some t) : Missed t := by
  obtain ⟨hj, hp, hq⟩ := h
  have other : ∀ {pc : StopWaiterPc}, s.stop = pc → pc ≠ .joining → Missed t :=
    fun hs hpc => absurd (hs.symm.trans hj) hpc
  have past : ∀ {pc : DeamonPc}, s.deamon = pc → pc.pastTest = false → Missed t := by
    rintro _ rfl hpc
    rw [hpc] at hp
    cases hp
  cases deamon_cases hst with
  | init hs => exact other hs (by decide)
  | started _ hs _ => exact other hs (by decide)
  | restarted _ hs _ => exact other hs (by decide)
  | finish hs => exact other hs (by decide)
  | loadCount hs => exact other hs (by decide)
  | write hs => exact other hs (by decide)
  | testFinished hd => exact past hd rfl
  | incrementCount => exact ⟨hj, rfl, hq⟩
  | epollWait awaken fds hd _ _ hpos hmax =>
    rw [hq] at hmax
    omega
  | decrementCount awaken hd => exact past hd rfl
  | handleEvents awaken hd => exact past hd rfl
  | join hs hd => exact hd.elim (fun hd => past hd rfl) fun hd => past hd rfl
  | fdDrained hf =>
    have hnone : s.readyFds = 0 := (Nat.add_eq_zero_iff.1 hq).2
    omega
  | interrupt => cases ha
  | fdReady => cases ha

/-- With the thread in `epoll_wait`, neither of the two can go on. -/
theorem missed_stuck {s : DeamonSys} (h : Missed s) (hw : s.deamon = .waiting) {a : DeamonOp}
    (ha : a.ofThreads = true) : s.step a = none := by
  obtain ⟨hj, -, hq⟩ := h
  cases a with
  | epollWait awaken fds =>
    refine if_neg ?_
    rintro ⟨-, -, -, hpos, heq⟩
    rw [hq] at heq
    omega
  | interrupt => cases ha
  | fdReady => cases ha
  | fdDrained => cases ha
  | _ => simp [DeamonSys.step, hj, hw]

theorem drain_run (s : DeamonSys) :
    ∃ as, deamonSystem.Run (fun _ a => a.quiet = true) s as { s with readyFds := 0 } := by
  obtain ⟨k, hk⟩ : ∃ k, s.readyFds = k := ⟨_, rfl⟩
  induction k generalizing s with
  | zero =>
    refine ⟨[], ?_⟩
    have hs : { s with readyFds := 0 } = s := by rw [← hk]
    rw [hs]
    exact .nil s
  | succ k ih =>
    obtain ⟨as, hrun⟩ := ih { s with readyFds := k } rfl
    refine ⟨.fdDrained :: as, .cons rfl ?_ hrun⟩
    show (if 0 < s.readyFds then some { s with readyFds := s.readyFds - 1 } else none) = _
    rw [if_pos (by omega), hk]
    rfl

/-! ## What the load decides -/

/-- `NotifyAll` loads the count while the thread is between the test and the increment. -/
def DeamonSys.InGap (s : DeamonSys) : Prop := s.deamon = .counting

theorem load_missed {s t : DeamonSys} (h : Counted s) (hst : s.step .loadCount = some t)
    (hgap : s.InGap) : t.stop = .joining ∧ t.deamon = .counting ∧ t.ready = s.readyFds ∧
      t.readyFds = s.readyFds := by
  simp only [DeamonSys.step, Option.ite_none_right_eq_some, Option.some.injEq] at hst
  obtain ⟨hs, rfl⟩ := hst
  have hquiet := h.unwritten (Or.inr (Or.inl hs))
  have hcount := h.count
  rw [hgap] at hcount
  refine ⟨if_neg fun hc => hc.2 hcount, hgap, ?_, rfl⟩
  show s.awakenReady.toNat + s.readyFds = s.readyFds
  rw [hquiet]
  exact Nat.zero_add _

theorem load_noticed {s t : DeamonSys} (h : Counted s) (hst : s.step .loadCount = some t)
    (hgap : ¬ s.InGap) : Noticed t := by
  simp only [DeamonSys.step, Option.ite_none_right_eq_some, Option.some.injEq] at hst
  obtain ⟨hs, rfl⟩ := hst
  have hcount := h.count
  refine ⟨h.finished.2 (by rw [hs]; simp), ?_, fun hp => ?_⟩
  · dsimp only
    split <;> simp
  · have hp' : s.deamon.pastTest = true := hp
    cases hd : s.deamon with
    | counting => exact absurd hd hgap
    | waiting =>
      rw [hd] at hcount
      refine Or.inr (if_pos ⟨h.started (by rw [hd]; simp), ?_⟩)
      rw [hcount]
      decide
    | _ =>
      rw [hd] at hp'
      cases hp'

/-- In the gap, the ready descriptors can be drained, and then the two threads wait for each other. -/
theorem gap_stuck {s t : DeamonSys} (h : Counted s) (hst : s.step .loadCount = some t)
    (hgap : s.InGap) : ∃ as u, deamonSystem.Run (fun _ a => a.quiet = true) t as u ∧
      u.stop = .joining ∧ u.deamon = .waiting ∧ ∀ a, a.ofThreads = true → u.step a = none := by
  obtain ⟨hj, hd, hready, hfds⟩ := load_missed h hst hgap
  obtain ⟨as, hdrain⟩ := drain_run t
  have hawaken : t.awakenReady.toNat = 0 := by
    unfold DeamonSys.ready at hready
    omega
  have hinc : deamonSystem.step { t with readyFds := 0 } .incrementCount =
      some { t with readyFds := 0, waitingCount := t.waitingCount + 1, deamon := .waiting } :=
    if_pos hd
  have hm : Missed
      { t with readyFds := 0, waitingCount := t.waitingCount + 1, deamon := .waiting } := by
    refine ⟨hj, rfl, ?_⟩
    show t.awakenReady.toNat + 0 = 0
    rw [hawaken]
  exact ⟨_, _, hdrain.append (.cons rfl hinc (.nil _)), hj, rfl, fun a ha => missed_stuck hm rfl ha⟩

/-- In the gap with no descriptor ready, the call does not return until one is. -/
theorem gap_missed {s t : DeamonSys} (h : Counted s) (hst : s.step .loadCount = some t)
    (hgap : s.InGap) (hf : s.readyFds = 0) {as : List DeamonOp} {u : DeamonSys}
    (hrun : deamonSystem.Run (fun _ a => a.quiet = true) t as u) : Missed u := by
  obtain ⟨hj, hd, hready, -⟩ := load_missed h hst hgap
  have ht : Missed t := ⟨hj, by rw [hd]; rfl, by rw [hready, hf]⟩
  exact hrun.invariant (fun s a _ hi ha hs => missed_step (s := s) (a := a) hi ha hs) ht

theorem gap_returns {s t : DeamonSys} (h : Counted s) (hst : s.step .loadCount = some t)
    (hgap : s.InGap) (hf : 0 < s.readyFds) :
    ∃ as u, deamonSystem.Run (fun _ a => a.ofThreads = true) t as u ∧ u.stop = .done := by
  have hfin : t.isFinished = true := by
    have hs : s.stop = .loading := (Option.ite_none_right_eq_some.1 hst).1
    have := h.finished.2 (by rw [hs]; simp)
    simp only [DeamonSys.step, Option.ite_none_right_eq_some, Option.some.injEq] at hst
    rw [← hst.2]
    exact this
  obtain ⟨hj, hd, hready, hfds⟩ := load_missed h hst hgap
  have hinc : deamonSystem.step t .incrementCount =
      some { t with waitingCount := t.waitingCount + 1, deamon := .waiting } := if_pos hd
  have hmax : 0 < MAX_EPOLL_EVENTS_SIZE := by decide
  have hreport : deamonSystem.step { t with waitingCount := t.waitingCount + 1, deamon := .waiting }
      (.epollWait false (min MAX_EPOLL_EVENTS_SIZE t.readyFds)) = some
        { t with
          waitingCount := t.waitingCount + 1
          awakenReady := t.awakenReady && !false
          readyFds := t.readyFds - min MAX_EPOLL_EVENTS_SIZE t.readyFds
          deamon := .returned false } := by
    have hfalse : false = true → t.awakenReady = true := fun h => absurd h (by decide)
    refine if_pos ⟨rfl, hfalse, Nat.min_le_right _ _, ?_, ?_⟩
    · simp only [Bool.toNat_false]
      omega
    · show false.toNat + min MAX_EPOLL_EVENTS_SIZE t.readyFds = min MAX_EPOLL_EVENTS_SIZE t.ready
      rw [hready, hfds]
      exact Nat.zero_add _
  have hn : Noticed { t with
      waitingCount := t.waitingCount + 1
      awakenReady := t.awakenReady && !false
      readyFds := t.readyFds - min MAX_EPOLL_EVENTS_SIZE t.readyFds
      deamon := .returned false } := by
    refine ⟨hfin, ?_, fun hp => by cases hp⟩
    dsimp only
    rw [hj]
    decide
  obtain ⟨as, u, hrun, hu⟩ := noticed_lowers.completes (D := fun u => u.stop = .done)
    (fun u hu hd => noticed_enabled hu hd) _ _ hn (le_refl _)
  exact ⟨_, u, .cons rfl hinc (.cons rfl hreport hrun), hu⟩

theorem noticed_returns {t : DeamonSys} (hn : Noticed t) {as : List DeamonOp} {u : DeamonSys}
    (hrun : deamonSystem.Run System.always t as u) : as.countP DeamonOp.ofThreads ≤ 7 ∧
      ∃ bs v, deamonSystem.Run (fun _ a => a.ofThreads = true) u bs v ∧ v.stop = .done := by
  obtain ⟨hu, hle⟩ := noticed_lowers.run hrun hn
  have hleft : t.left ≤ 7 := by
    obtain ⟨h1, h2⟩ := hn.tested
    have hd : t.deamon.left ≤ 5 := by cases t.deamon <;> simp [DeamonPc.left]
    have hs : t.stop.left ≤ 2 := by
      cases hs : t.stop with
      | uncalled => exact absurd hs h1
      | loading => exact absurd hs h2
      | _ => simp [StopWaiterPc.left]
    unfold DeamonSys.left
    omega
  refine ⟨by omega, ?_⟩
  exact noticed_lowers.completes (D := fun u => u.stop = .done)
    (fun u hu hd => noticed_enabled hu hd) u.left u hu (le_refl _)

/-- **`StopEpollIoWaiter` returns, whatever comes between, exactly if its `NotifyAll` has not read the
    count in the gap.**  The two threads then make at most seven steps, and from every state on the way
    they get to the end by themselves.  If it has read the count in the gap, they get there by
    themselves exactly if a descriptor is ready; ready descriptors can be drained, and once none is
    ready, the join and `epoll_wait` wait for each other until one is. -/
theorem stop_returns_iff {s t : DeamonSys} (hr : deamonSystem.Reachable System.always s)
    (hst : s.step .loadCount = some t) :
    ((∀ as u, deamonSystem.Run System.always t as u → as.countP DeamonOp.ofThreads ≤ 7 ∧
      ∃ bs v, deamonSystem.Run (fun _ a => a.ofThreads = true) u bs v ∧ v.stop = .done) ↔
        ¬ s.InGap) ∧
    ((∃ as u, deamonSystem.Run (fun _ a => a.ofThreads = true) t as u ∧ u.stop = .done) ↔
      (s.InGap → 0 < s.readyFds)) ∧
    (s.InGap → ∃ as u, deamonSystem.Run (fun _ a => a.quiet = true) t as u ∧
      u.stop = .joining ∧ u.deamon = .waiting ∧ ∀ a, a.ofThreads = true → u.step a = none) ∧
    (s.InGap → s.readyFds = 0 → ∀ as u, deamonSystem.Run (fun _ a => a.quiet = true) t as u →
      u.stop = .joining ∧ (u.deamon = .counting ∨ u.deamon = .waiting)) := by
  have h := counted_run hr
  have hquiet : ∀ a : DeamonOp, a.ofThreads = true → a.quiet = true := fun a ha => by
    unfold DeamonOp.quiet
    rw [ha]
    rfl
  refine ⟨⟨fun hall hgap => ?_, fun hgap as u hrun => noticed_returns (load_noticed h hst hgap) hrun⟩,
    ⟨fun ⟨as, u, hrun, hu⟩ hgap => ?_, fun hf => ?_⟩, fun hgap => gap_stuck h hst hgap,
    fun hgap hf as u hrun => ?_⟩
  · obtain ⟨as, u, hrun, hj, -, hstuck⟩ := gap_stuck h hst hgap
    obtain ⟨-, bs, v, hown, hv⟩ := hall as u (hrun.mono fun _ _ _ => trivial)
    cases hown with
    | nil =>
      rw [hj] at hv
      cases hv
    | cons ha hstep _ =>
      have hnone := hstuck _ ha
      cases hnone.symm.trans hstep
  · refine Nat.pos_of_ne_zero fun hf => ?_
    have hm := gap_missed h hst hgap hf (hrun.mono fun _ a ha => hquiet a ha)
    rw [hm.joining] at hu
    cases hu
  · by_cases hgap : s.InGap
    · exact gap_returns h hst hgap (hf hgap)
    · exact (noticed_returns (load_noticed h hst hgap) (.nil t)).2
  · have hm := gap_missed h hst hgap hf hrun
    refine ⟨hm.joining, ?_⟩
    have hp := hm.past
    cases hd : u.deamon with
    | counting => exact Or.inl rfl
    | waiting => exact Or.inr rfl
    | _ =>
      rw [hd] at hp
      cases hp

/-- The thread has found `isFinished_` false when `StopEpollIoWaiter` sets it; a descriptor that is
    ready may be drained before `epoll_wait`. -/
theorem stop_returns_iff_gap : ∃ s t, deamonSystem.Reachable System.always s ∧
    s.step .loadCount = some t ∧ 0 < s.readyFds ∧
    ∃ as u, deamonSystem.Run (fun _ a => a.quiet = true) t as u ∧ u.stop = .joining ∧
      u.deamon = .waiting ∧ ∀ a, a.ofThreads = true → u.step a = none := by
  obtain ⟨s, hs, hd, hf, hl⟩ := System.run_of_exec deamonSystem System.always
    (fun s => s.deamon = .counting ∧ 0 < s.readyFds ∧ (s.step .loadCount).isSome = true)
    [.init, .start, .fdReady, .testFinished, .finish] (by decide)
  obtain ⟨t, hst⟩ := Option.isSome_iff_exists.1 hl
  exact ⟨s, t, ⟨_, hs⟩, hst, hf, (stop_returns_iff ⟨_, hs⟩ hst).2.2.1 hd⟩

end AppExecFwk
