import Mathlib.Data.List.Basic
import Mathlib.Data.List.Nodup
import Mathlib.Data.List.Perm.Basic
import EventHandler.Lib.Transition

/-!
# The thread collector

`ThreadCollector` joins the threads of deposited runners.  A runner's thread asks to be reclaimed at
its end (`ReclaimCurrentThread`), its creator deposits it (`Deposit`), the collector's own thread
works through the requests (`Run`), and `Stop` ends the collector and reclaims what is left.

* `Thread` — one `std::thread` of a runner: its id, how far it has come and whether it was deposited.
  An id is given to a new thread when the last one with it has been joined.
* `CollectorPc`, `StopPc` — where the collector's thread and the one call of `Stop` are.  The pcs that
  hold `collectorLock_` are `outer`, `inner` and `reclaiming`; `threadLock_` is held by
  `joiningCollector` beyond a step.
* `collectorSystem` — all threads, one critical section or one blocking call a step.
* `ledger` — the deposited threads by where their handle is: in `depositMap_`, in the hands of the
  collector or of `Stop`, or joined.
* `collectorStep_cases` — the inversion of a step.
* `Custody`, `custody_step` — the deposited threads are those of the ledger, each once, and threads
  that are not joined have different ids.

`condition_.wait` may return at any time, so a notification changes nothing that is modelled.
-/

set_option autoImplicit false

namespace AppExecFwk

open Transition

/-- How far the thread is: `requested` is between the two locks of `ReclaimCurrentThread`,
    `finishing` after its return. -/
inductive ThreadPhase where
  | notStarted
  | running
  | requested
  | finishing
  | ended
  deriving DecidableEq, Repr

/-- What `Deposit` said of the thread. -/
inductive DepositState where
  | notYet
  | deposited
  | refused
  deriving DecidableEq, Repr

structure Thread where
  phase : ThreadPhase := .notStarted
  id : Nat := 0
  deposit : DepositState := .notYet
  deriving DecidableEq, Repr

/-- The collector's thread; `none` before it is created. -/
inductive CollectorPc where
  | none
  | starting
  | outer
  | inner
  | joining (thread : Nat)
  | relocking
  | waiting
  | stopped
  deriving DecidableEq, Repr

inductive StopPc where
  | notCalled
  | destroying
  | joiningCollector
  | locking
  | reclaiming
  | exiting (thread : Nat)
  | joining (thread : Nat)
  | returned
  deriving DecidableEq, Repr

structure CollectorSys where
  threads : Nat → Thread
  /-- The threads started so far. -/
  started : List Nat
  destroying : Bool
  /-- `reclaims_`, its last element first. -/
  reclaims : List Nat
  /-- The threads in `depositMap_`, which finds them by their id. -/
  depositMap : List Nat
  collector : CollectorPc
  needCreateThread : Bool
  stopper : StopPc
  /-- The joins made by the collector and by `Stop`. -/
  joins : List Nat
  /-- The joins made by creators whose `Attach` failed. -/
  creatorJoins : List Nat

inductive CollectorOp where
  /-- A thread is started with an id that no unjoined thread has. -/
  | start (thread id : Nat)
  | deposit (thread : Nat)
  /-- The first critical section of `ReclaimCurrentThread`. -/
  | reclaim (thread : Nat)
  /-- `threadLock_.try_lock()`, which may fail, and what follows. -/
  | tryLock (thread : Nat) (acquired : Bool)
  /-- The thread function returns. -/
  | finish (thread : Nat)
  /-- `thread->join()` after a failed `Attach`. -/
  | creatorJoin (thread : Nat)
  /-- The next step of `Run`. -/
  | collect
  /-- The next step of `Stop`; `first` is the thread at `depositMap_.begin()`. -/
  | stop (first : Nat)
  deriving DecidableEq, Repr

namespace CollectorPc

/-- The thread whose handle the collector has taken. -/
def holds : CollectorPc → List Nat
  | .joining thread => [thread]
  | _ => []

def holdsLock : CollectorPc → Bool
  | .outer => true
  | .inner => true
  | _ => false

/-- There is no collector thread, or it has returned. -/
def gone : CollectorPc → Bool
  | .none => true
  | .stopped => true
  | _ => false

end CollectorPc

namespace StopPc

def holds : StopPc → List Nat
  | .exiting thread => [thread]
  | .joining thread => [thread]
  | _ => []

/-- `Stop` has joined the collector's thread. -/
def pastCollector : StopPc → Bool
  | .notCalled => false
  | .destroying => false
  | .joiningCollector => false
  | _ => true

end StopPc

namespace CollectorSys

def lockFree (s : CollectorSys) : Bool := !s.collector.holdsLock && s.stopper != .reclaiming

def threadLockFree (s : CollectorSys) : Bool := s.stopper != .joiningCollector

def joined (s : CollectorSys) (thread : Nat) : Prop :=
  thread ∈ s.joins ∨ thread ∈ s.creatorJoins

instance joinedDecidable (s : CollectorSys) (thread : Nat) : Decidable (s.joined thread) :=
  inferInstanceAs (Decidable (_ ∨ _))

/-- The id may be given to a new thread. -/
def idFree (s : CollectorSys) (id : Nat) : Prop :=
  ∀ thread ∈ s.started, (s.threads thread).id = id → s.joined thread

instance idFreeDecidable (s : CollectorSys) (id : Nat) : Decidable (s.idFree id) :=
  inferInstanceAs (Decidable (∀ thread ∈ s.started, _ → _))

def setThread (s : CollectorSys) (thread : Nat) (state : Thread) : CollectorSys :=
  { s with threads := Function.update s.threads thread state }

def setPhase (s : CollectorSys) (thread : Nat) (phase : ThreadPhase) : CollectorSys :=
  s.setThread thread { s.threads thread with phase := phase }

/-- `depositMap_.find(threadId)`. -/
def find (s : CollectorSys) (id : Nat) : Option Nat :=
  s.depositMap.find? fun thread => (s.threads thread).id == id

/-- `Deposit`; `emplace` keeps an entry that is there. -/
def depositThread (s : CollectorSys) (thread : Nat) : CollectorSys :=
  if s.destroying then s.setThread thread { s.threads thread with deposit := .refused }
  else
    { s.setThread thread { s.threads thread with deposit := .deposited } with
      depositMap :=
        if (s.find (s.threads thread).id).isSome then s.depositMap else s.depositMap ++ [thread] }

/-- The first critical section of `ReclaimCurrentThread`; it returns at once when the collector is
    destroyed. -/
def reclaimThread (s : CollectorSys) (thread : Nat) : CollectorSys :=
  if s.destroying then s.setPhase thread .finishing
  else { s.setPhase thread .requested with reclaims := (s.threads thread).id :: s.reclaims }

/-- The end of `ReclaimCurrentThread`. -/
def createCollector (s : CollectorSys) (thread : Nat) (acquired : Bool) : CollectorSys :=
  let s := s.setPhase thread .finishing
  if acquired && s.collector = .none && s.needCreateThread then { s with collector := .starting } else s

/-- The inner loop of `Run`, with `DoReclaimLocked` up to the release of the lock. -/
def collectInner (s : CollectorSys) : CollectorSys :=
  match s.reclaims with
  | [] => { s with collector := if s.destroying then .stopped else .waiting }
  | id :: reclaims =>
    match s.find id with
    | none => { s with reclaims := reclaims }
    | some thread =>
      { s with
        reclaims := reclaims
        depositMap := s.depositMap.erase thread
        collector := .joining thread }

/-- `Run`. -/
def collectStep (s : CollectorSys) : Option CollectorSys :=
  match s.collector with
  | .none => none
  | .starting => if s.lockFree then some { s with collector := .outer } else none
  | .outer => some { s with collector := if s.destroying then .stopped else .inner }
  | .inner => some s.collectInner
  | .joining thread =>
    if (s.threads thread).phase = .ended then
      some { s with joins := s.joins ++ [thread], collector := .relocking }
    else none
  | .relocking => if s.lockFree then some { s with collector := .inner } else none
  | .waiting => if s.lockFree then some { s with collector := .outer } else none
  | .stopped => none

/-- `Stop`, with `ReclaimAll`. -/
def stopStep (s : CollectorSys) (first : Nat) : Option CollectorSys :=
  match s.stopper with
  | .notCalled =>
    if s.lockFree then some { s with destroying := true, stopper := .destroying } else none
  | .destroying => some { s with stopper := .joiningCollector }
  | .joiningCollector =>
    if s.collector.gone then some { s with needCreateThread := false, stopper := .locking } else none
  | .locking => if s.lockFree then some { s with stopper := .reclaiming } else none
  | .reclaiming =>
    if s.depositMap = [] then some { s with stopper := .returned }
    else if first ∈ s.depositMap then
      some { s with depositMap := s.depositMap.erase first, stopper := .exiting first }
    else none
  | .exiting thread => some { s with stopper := .joining thread }
  | .joining thread =>
    if (s.threads thread).phase = .ended then
      some { s with joins := s.joins ++ [thread], stopper := .locking }
    else none
  | .returned => none

def step (s : CollectorSys) : CollectorOp → Option CollectorSys
  | .start thread id =>
    if thread ∉ s.started ∧ s.idFree id then
      some { s.setThread thread { phase := .running, id := id } with started := thread :: s.started }
    else none
  | .deposit thread =>
    if thread ∈ s.started ∧ (s.threads thread).deposit = .notYet ∧ s.lockFree then
      some (s.depositThread thread)
    else none
  | .reclaim thread =>
    if (s.threads thread).phase = .running ∧ s.lockFree then some (s.reclaimThread thread) else none
  | .tryLock thread acquired =>
    if (s.threads thread).phase = .requested ∧ (acquired = true → s.threadLockFree = true) then
      some (s.createCollector thread acquired)
    else none
  | .finish thread =>
    if (s.threads thread).phase = .finishing then some (s.setPhase thread .ended) else none
  | .creatorJoin thread =>
    if (s.threads thread).deposit = .refused ∧ (s.threads thread).phase = .ended ∧
        thread ∉ s.creatorJoins then
      some { s with creatorJoins := s.creatorJoins ++ [thread] }
    else none
  | .collect => s.collectStep
  | .stop first => s.stopStep first

end CollectorSys

/-- No thread has been started. -/
def collectorSystem : System CollectorSys CollectorOp where
  init :=
    { threads := fun _ => {}
      started := []
      destroying := false
      reclaims := []
      depositMap := []
      collector := .none
      needCreateThread := true
      stopper := .notCalled
      joins := []
      creatorJoins := [] }
  step := CollectorSys.step

/-! ## What a step does -/

/-- What a step does, one case for each operation and branch. -/
inductive CollectorEffect (s : CollectorSys) : CollectorOp → CollectorSys → Prop
  | start (thread id : Nat) (hn : thread ∉ s.started) (hid : s.idFree id) :
      CollectorEffect s (.start thread id)
        { s.setThread thread { phase := .running, id := id } with started := thread :: s.started }
  | refused (thread : Nat) (hs : thread ∈ s.started) (hd : (s.threads thread).deposit = .notYet)
      (hx : s.destroying = true) :
      CollectorEffect s (.deposit thread)
        (s.setThread thread { s.threads thread with deposit := .refused })
  | deposited (thread : Nat) (hs : thread ∈ s.started) (hd : (s.threads thread).deposit = .notYet)
      (hl : s.lockFree = true) (hx : s.destroying = false) :
      CollectorEffect s (.deposit thread)
        { s.setThread thread { s.threads thread with deposit := .deposited } with
          depositMap :=
            if (s.find (s.threads thread).id).isSome then s.depositMap else s.depositMap ++ [thread] }
  | reclaimLate (thread : Nat) (hp : (s.threads thread).phase = .running) (hx : s.destroying = true) :
      CollectorEffect s (.reclaim thread) (s.setPhase thread .finishing)
  | reclaim (thread : Nat) (hp : (s.threads thread).phase = .running) (hl : s.lockFree = true)
      (hx : s.destroying = false) :
      CollectorEffect s (.reclaim thread)
        { s.setPhase thread .requested with reclaims := (s.threads thread).id :: s.reclaims }
  | create (thread : Nat) (hp : (s.threads thread).phase = .requested) (hl : s.threadLockFree = true)
      (hc : s.collector = .none) (hn : s.needCreateThread = true) :
      CollectorEffect s (.tryLock thread true)
        { s.setPhase thread .finishing with collector := .starting }
  | noCreate (thread : Nat) (acquired : Bool) (hp : (s.threads thread).phase = .requested) :
      CollectorEffect s (.tryLock thread acquired) (s.setPhase thread .finishing)
  | finish (thread : Nat) (hp : (s.threads thread).phase = .finishing) :
      CollectorEffect s (.finish thread) (s.setPhase thread .ended)
  | creatorJoin (thread : Nat) (hd : (s.threads thread).deposit = .refused)
      (hp : (s.threads thread).phase = .ended) :
      CollectorEffect s (.creatorJoin thread) { s with creatorJoins := s.creatorJoins ++ [thread] }
  | moved (pc : CollectorPc) (hold : s.collector.holds = []) (hnew : pc.holds = [])
      (hc : s.collector ≠ .none ∧ s.collector ≠ .stopped)
      (hw : pc = .waiting → s.reclaims = []) :
      CollectorEffect s .collect { s with collector := pc }
  | unknown (id : Nat) (reclaims : List Nat) (hc : s.collector = .inner)
      (hr : s.reclaims = id :: reclaims) (hf : s.find id = none) :
      CollectorEffect s .collect { s with reclaims := reclaims }
  | took (id : Nat) (reclaims : List Nat) (thread : Nat) (hc : s.collector = .inner)
      (hr : s.reclaims = id :: reclaims) (hf : s.find id = some thread) :
      CollectorEffect s .collect
        { s with
          reclaims := reclaims
          depositMap := s.depositMap.erase thread
          collector := .joining thread }
  | joined (thread : Nat) (hc : s.collector = .joining thread)
      (hp : (s.threads thread).phase = .ended) :
      CollectorEffect s .collect
        { s with joins := s.joins ++ [thread], collector := .relocking }
  | setDestroying (first : Nat) (hst : s.stopper = .notCalled) :
      CollectorEffect s (.stop first) { s with destroying := true, stopper := .destroying }
  | lockThread (first : Nat) (hst : s.stopper = .destroying) :
      CollectorEffect s (.stop first) { s with stopper := .joiningCollector }
  | joinedCollector (first : Nat) (hst : s.stopper = .joiningCollector)
      (hg : s.collector.gone = true) :
      CollectorEffect s (.stop first) { s with needCreateThread := false, stopper := .locking }
  | lockMap (first : Nat) (hst : s.stopper = .locking) :
      CollectorEffect s (.stop first) { s with stopper := .reclaiming }
  | returned (first : Nat) (hst : s.stopper = .reclaiming) (hm : s.depositMap = []) :
      CollectorEffect s (.stop first) { s with stopper := .returned }
  | stopTook (first : Nat) (hst : s.stopper = .reclaiming) (hm : first ∈ s.depositMap) :
      CollectorEffect s (.stop first)
        { s with depositMap := s.depositMap.erase first, stopper := .exiting first }
  | exited (first thread : Nat) (hst : s.stopper = .exiting thread) :
      CollectorEffect s (.stop first) { s with stopper := .joining thread }
  | stopJoined (first thread : Nat) (hst : s.stopper = .joining thread)
      (hp : (s.threads thread).phase = .ended) :
      CollectorEffect s (.stop first) { s with joins := s.joins ++ [thread], stopper := .locking }

theorem collectStep_cases {s t : CollectorSys} (h : s.collectStep = some t) :
    CollectorEffect s .collect t := by
  unfold CollectorSys.collectStep at h
  split at h
  · cases h
  · rename_i hc
    rw [Option.ite_none_right_eq_some, Option.some.injEq] at h
    obtain ⟨-, rfl⟩ := h
    exact .moved _ (by rw [hc]; rfl) rfl (by simp [hc]) (by simp)
  · rename_i hc
    cases h
    refine .moved _ (by rw [hc]; rfl) ?_ (by simp [hc]) ?_
    · split <;> rfl
    · split <;> simp
  · rename_i hc
    cases h
    unfold CollectorSys.collectInner
    split
    · rename_i hr
      refine .moved _ (by rw [hc]; rfl) ?_ (by simp [hc]) fun _ => hr
      split <;> rfl
    · rename_i id reclaims hr
      split
      · rename_i hf
        exact .unknown id reclaims hc hr hf
      · rename_i thread hf
        exact .took id reclaims thread hc hr hf
  · rename_i thread hc
    rw [Option.ite_none_right_eq_some, Option.some.injEq] at h
    obtain ⟨hp, rfl⟩ := h
    exact .joined thread hc hp
  · rename_i hc
    rw [Option.ite_none_right_eq_some, Option.some.injEq] at h
    obtain ⟨-, rfl⟩ := h
    exact .moved _ (by rw [hc]; rfl) rfl (by simp [hc]) (by simp)
  · rename_i hc
    rw [Option.ite_none_right_eq_some, Option.some.injEq] at h
    obtain ⟨-, rfl⟩ := h
    exact .moved _ (by rw [hc]; rfl) rfl (by simp [hc]) (by simp)
  · cases h

theorem stopStep_cases {s t : CollectorSys} {first : Nat} (h : s.stopStep first = some t) :
    CollectorEffect s (.stop first) t := by
  unfold CollectorSys.stopStep at h
  split at h
  · rename_i hst
    rw [Option.ite_none_right_eq_some, Option.some.injEq] at h
    obtain ⟨-, rfl⟩ := h
    exact .setDestroying first hst
  · rename_i hst
    cases h
    exact .lockThread first hst
  · rename_i hst
    rw [Option.ite_none_right_eq_some, Option.some.injEq] at h
    obtain ⟨hg, rfl⟩ := h
    exact .joinedCollector first hst hg
  · rename_i hst
    rw [Option.ite_none_right_eq_some, Option.some.injEq] at h
    obtain ⟨-, rfl⟩ := h
    exact .lockMap first hst
  · rename_i hst
    split at h
    · rename_i hm
      cases h
      exact .returned first hst hm
    · rw [Option.ite_none_right_eq_some, Option.some.injEq] at h
      obtain ⟨hm, rfl⟩ := h
      exact .stopTook first hst hm
  · rename_i thread hst
    cases h
    exact .exited first thread hst
  · rename_i thread hst
    rw [Option.ite_none_right_eq_some, Option.some.injEq] at h
    obtain ⟨hp, rfl⟩ := h
    exact .stopJoined first thread hst hp
  · cases h

/-- **Inversion of a step.** -/
theorem collectorStep_cases {s t : CollectorSys} {a : CollectorOp} (h : s.step a = some t) :
    CollectorEffect s a t := by
  cases a with
  | start thread id =>
    simp only [CollectorSys.step, Option.ite_none_right_eq_some, Option.some.injEq] at h
    obtain ⟨⟨hn, hid⟩, rfl⟩ := h
    exact .start thread id hn hid
  | deposit thread =>
    simp only [CollectorSys.step, Option.ite_none_right_eq_some, Option.some.injEq] at h
    obtain ⟨⟨hs, hd, hl⟩, rfl⟩ := h
    unfold CollectorSys.depositThread
    split
    · rename_i hx
      exact .refused thread hs hd hx
    · rename_i hx
      exact .deposited thread hs hd hl (by simpa using hx)
  | reclaim thread =>
    simp only [CollectorSys.step, Option.ite_none_right_eq_some, Option.some.injEq] at h
    obtain ⟨⟨hp, hl⟩, rfl⟩ := h
    unfold CollectorSys.reclaimThread
    split
    · rename_i hx
      exact .reclaimLate thread hp hx
    · rename_i hx
      exact .reclaim thread hp hl (by simpa using hx)
  | tryLock thread acquired =>
    simp only [CollectorSys.step, Option.ite_none_right_eq_some, Option.some.injEq] at h
    obtain ⟨⟨hp, hl⟩, rfl⟩ := h
    unfold CollectorSys.createCollector
    simp only
    split
    · rename_i hc
      simp only [Bool.and_eq_true, decide_eq_true_eq] at hc
      obtain ⟨⟨rfl, hcol⟩, hneed⟩ := hc
      exact .create thread hp (hl rfl) hcol hneed
    · exact .noCreate thread acquired hp
  | finish thread =>
    simp only [CollectorSys.step, Option.ite_none_right_eq_some, Option.some.injEq] at h
    obtain ⟨hp, rfl⟩ := h
    exact .finish thread hp
  | creatorJoin thread =>
    simp only [CollectorSys.step, Option.ite_none_right_eq_some, Option.some.injEq] at h
    obtain ⟨⟨hd, hp, -⟩, rfl⟩ := h
    exact .creatorJoin thread hd hp
  | collect => exact collectStep_cases h
  | stop first => exact stopStep_cases h

/-! ## Custody of the deposited threads -/

namespace CollectorSys

/-- The deposited threads, by where their handle is. -/
def ledger (s : CollectorSys) : List Nat :=
  s.depositMap ++ (s.collector.holds ++ (s.stopper.holds ++ s.joins))

theorem find_some {s : CollectorSys} {id thread : Nat} (h : s.find id = some thread) :
    thread ∈ s.depositMap ∧ (s.threads thread).id = id :=
  ⟨List.mem_of_find?_eq_some h, by simpa using List.find?_some h⟩

theorem find_none {s : CollectorSys} {id thread : Nat} (h : s.find id = none)
    (ht : thread ∈ s.depositMap) : (s.threads thread).id ≠ id := by
  simpa using List.find?_eq_none.1 h thread ht

@[simp] theorem setThread_self (s : CollectorSys) (thread : Nat) (state : Thread) :
    (s.setThread thread state).threads thread = state := by
  unfold setThread
  exact Function.update_self thread state s.threads

theorem setThread_ne {s : CollectorSys} {thread x : Nat} {state : Thread} (h : x ≠ thread) :
    (s.setThread thread state).threads x = s.threads x := by
  unfold setThread
  exact Function.update_of_ne h state s.threads

/-- A write of the phase alone. -/
theorem setPhase_threads (s : CollectorSys) (thread : Nat) (phase : ThreadPhase) (x : Nat) :
    ((s.setPhase thread phase).threads x).id = (s.threads x).id ∧
      ((s.setPhase thread phase).threads x).deposit = (s.threads x).deposit := by
  unfold setPhase
  obtain rfl | hne := eq_or_ne x thread
  · rw [setThread_self]
    exact ⟨rfl, rfl⟩
  · rw [setThread_ne hne]
    exact ⟨rfl, rfl⟩

/-- A write of what `Deposit` said alone. -/
theorem setDeposit_threads (s : CollectorSys) (thread : Nat) (deposit : DepositState) (x : Nat) :
    ((s.setThread thread { s.threads thread with deposit := deposit }).threads x).id =
        (s.threads x).id ∧
      ((s.setThread thread { s.threads thread with deposit := deposit }).threads x).phase =
        (s.threads x).phase := by
  obtain rfl | hne := eq_or_ne x thread
  · rw [setThread_self]
    exact ⟨rfl, rfl⟩
  · rw [setThread_ne hne]
    exact ⟨rfl, rfl⟩

theorem setPhase_self (s : CollectorSys) (thread : Nat) (phase : ThreadPhase) :
    ((s.setPhase thread phase).threads thread).phase = phase := by
  unfold setPhase
  rw [setThread_self]

theorem setPhase_ne {s : CollectorSys} {thread x : Nat} {phase : ThreadPhase} (h : x ≠ thread) :
    (s.setPhase thread phase).threads x = s.threads x := setThread_ne h

end CollectorSys

open CollectorSys

/-- The deposited threads are those of the ledger, each once; only ended threads are joined, and
    threads that are not joined have different ids. -/
structure Custody (s : CollectorSys) : Prop where
  nodup : s.ledger.Nodup
  mem : ∀ x, x ∈ s.ledger ↔ (s.threads x).deposit = .deposited
  started : ∀ x, (s.threads x).phase ≠ .notStarted ∨ (s.threads x).deposit ≠ .notYet → x ∈ s.started
  creator : ∀ x ∈ s.creatorJoins, (s.threads x).deposit = .refused
  ended : ∀ x, s.joined x → (s.threads x).phase = .ended
  ids : ∀ x y, x ∈ s.started → y ∈ s.started → ¬ s.joined x → ¬ s.joined y →
    (s.threads x).id = (s.threads y).id → x = y

theorem Custody.joined_started {s : CollectorSys} (h : Custody s) {x : Nat} (hx : s.joined x) :
    x ∈ s.started := by
  apply h.started
  rw [h.ended x hx]
  exact Or.inl (by decide)

/-- A thread that runs was started and is not joined. -/
theorem Custody.of_running {s : CollectorSys} (h : Custody s) {x : Nat}
    (hp : (s.threads x).phase = .running) : x ∈ s.started ∧ ¬ s.joined x := by
  refine ⟨h.started x (Or.inl (by simp [hp])), fun hj => ?_⟩
  have he := h.ended x hj
  rw [hp] at he
  cases he

/-- A thread whose handle is in the map or in somebody's hands is not joined. -/
theorem Custody.not_joined {s : CollectorSys} (h : Custody s) {x : Nat}
    (hx : x ∈ s.depositMap ∨ x ∈ s.collector.holds ∨ x ∈ s.stopper.holds) : ¬ s.joined x := by
  rintro (hj | hj)
  · have hnd := h.nodup
    unfold ledger at hnd
    simp only [List.nodup_append', List.disjoint_left, List.mem_append] at hnd
    obtain ⟨-, ⟨-, ⟨-, -, hstop⟩, hcol⟩, hmap⟩ := hnd
    obtain hx | hx | hx := hx
    · exact hmap hx (Or.inr (Or.inr hj))
    · exact hcol hx (Or.inr hj)
    · exact hstop hx hj
  · have hd : (s.threads x).deposit = .deposited := by
      rw [← h.mem]
      unfold ledger
      simp only [List.mem_append]
      tauto
    rw [h.creator x hj] at hd
    cases hd

theorem Custody.mem_started {s : CollectorSys} (h : Custody s) {x : Nat} (hx : x ∈ s.depositMap) :
    x ∈ s.started := by
  have hd : (s.threads x).deposit = .deposited := (h.mem x).1 (List.mem_append_left _ hx)
  apply h.started
  rw [hd]
  exact Or.inr (by decide)

/-- A step that moves handles along the ledger, or joins ended threads. -/
theorem Custody.move {s t : CollectorSys} (h : Custody s) (hl : t.ledger.Perm s.ledger)
    (hth : ∀ x, (t.threads x).id = (s.threads x).id ∧ (t.threads x).deposit = (s.threads x).deposit)
    (hst : t.started = s.started)
    (hp : ∀ x, (t.threads x).phase ≠ .notStarted → (s.threads x).phase ≠ .notStarted)
    (hj : ∀ x, s.joined x → t.joined x)
    (hc : ∀ x ∈ t.creatorJoins, (s.threads x).deposit = .refused)
    (he : ∀ x, t.joined x → (t.threads x).phase = .ended) : Custody t where
  nodup := hl.nodup_iff.2 h.nodup
  mem x := by rw [hl.mem_iff, h.mem, (hth x).2]
  started x hx := by
    rw [hst]
    rw [(hth x).2] at hx
    exact h.started x (hx.imp_left (hp x))
  creator x hx := (hth x).2.trans (hc x hx)
  ended := he
  ids x y hx hy hjx hjy hid := by
    rw [hst] at hx hy
    rw [(hth x).1, (hth y).1] at hid
    exact h.ids x y hx hy (fun hj' => hjx (hj x hj')) (fun hj' => hjy (hj y hj')) hid

/-- A write of the phase of a thread that is not joined. -/
theorem Custody.setPhase {s : CollectorSys} (h : Custody s) {thread : Nat} {phase : ThreadPhase}
    (hp : (s.threads thread).phase ≠ .notStarted) (he : (s.threads thread).phase ≠ .ended) :
    Custody (s.setPhase thread phase) := by
  refine h.move (List.Perm.refl _) (setPhase_threads s thread phase) rfl (fun x hx => ?_)
    (fun x hx => hx) h.creator (fun x hx => ?_)
  · obtain rfl | hne := eq_or_ne x thread
    · exact hp
    · rwa [setPhase_ne hne] at hx
  · have hx : s.joined x := hx
    have hne : x ≠ thread := by
      rintro rfl
      exact he (h.ended x hx)
    rw [setPhase_ne hne]
    exact h.ended x hx

/-! ### The steps that change the ledger -/

/-- A free id is that of no thread that is not joined. -/
theorem Custody.ids_start {s : CollectorSys} (h : Custody s) {thread id : Nat} (hid : s.idFree id)
    {x y : Nat} (hx : x ∈ thread :: s.started) (hy : y ∈ thread :: s.started) (hjx : ¬ s.joined x)
    (hjy : ¬ s.joined y)
    (hxy : ((s.setThread thread { phase := .running, id := id }).threads x).id =
      ((s.setThread thread { phase := .running, id := id }).threads y).id) : x = y := by
  rw [List.mem_cons] at hx hy
  by_cases hxt : x = thread
  · by_cases hyt : y = thread
    · exact hxt.trans hyt.symm
    · rw [hxt, setThread_self, setThread_ne hyt] at hxy
      exact absurd (hid y (hy.resolve_left hyt) hxy.symm) hjy
  · by_cases hyt : y = thread
    · rw [hyt, setThread_self, setThread_ne hxt] at hxy
      exact absurd (hid x (hx.resolve_left hxt) hxy) hjx
    · rw [setThread_ne hxt, setThread_ne hyt] at hxy
      exact h.ids x y (hx.resolve_left hxt) (hy.resolve_left hyt) hjx hjy hxy

theorem custody_start {s : CollectorSys} {thread id : Nat} (h : Custody s) (hn : thread ∉ s.started)
    (hid : s.idFree id) :
    Custody { s.setThread thread { phase := .running, id := id } with
      started := thread :: s.started } := by
  have hdep : (s.threads thread).deposit = .notYet := by
    by_contra hd
    exact hn (h.started thread (Or.inr hd))
  have hunjoined : ¬ s.joined thread := fun hj => hn (h.joined_started hj)
  have hold : ∀ x, x ≠ thread →
      (s.setThread thread { phase := .running, id := id }).threads x = s.threads x :=
    fun x hx => setThread_ne hx
  have hnew : (s.setThread thread { phase := .running, id := id }).threads thread =
      { phase := .running, id := id } := setThread_self s thread _
  refine ⟨h.nodup, fun x => ?_, fun x hx => ?_, fun x hx => ?_, fun x hx => ?_, ?_⟩
  · show x ∈ s.ledger ↔ _
    rw [h.mem]
    obtain rfl | hne := eq_or_ne x thread
    · show _ ↔ ((s.setThread x _).threads x).deposit = _
      rw [hnew, hdep]
    · show _ ↔ ((s.setThread thread _).threads x).deposit = _
      rw [hold x hne]
  · obtain rfl | hne := eq_or_ne x thread
    · exact List.mem_cons_self
    · apply List.mem_cons_of_mem
      apply h.started
      rw [← hold x hne]
      exact hx
  · have hx : x ∈ s.creatorJoins := hx
    have hne : x ≠ thread := by
      rintro rfl
      exact hunjoined (Or.inr hx)
    show ((s.setThread thread _).threads x).deposit = _
    rw [hold x hne]
    exact h.creator x hx
  · have hx : s.joined x := hx
    have hne : x ≠ thread := by
      rintro rfl
      exact hunjoined hx
    show ((s.setThread thread _).threads x).phase = _
    rw [hold x hne]
    exact h.ended x hx
  · exact fun x y hx hy hjx hjy hxy => h.ids_start hid hx hy hjx hjy hxy

/-- A thread that was not deposited yet is in nobody's ledger and not joined. -/
theorem Custody.fresh {s : CollectorSys} (h : Custody s) {thread : Nat}
    (hd : (s.threads thread).deposit = .notYet) : thread ∉ s.ledger ∧ ¬ s.joined thread := by
  have hout : thread ∉ s.ledger := by
    rw [h.mem, hd]
    decide
  refine ⟨hout, ?_⟩
  rintro (hj | hj)
  · apply hout
    unfold ledger
    simp only [List.mem_append]
    exact Or.inr (Or.inr (Or.inr hj))
  · have hr := h.creator thread hj
    rw [hd] at hr
    cases hr

/-- The map has no entry for the id of a thread that was not deposited yet. -/
theorem Custody.find_fresh {s : CollectorSys} (h : Custody s) {thread : Nat}
    (hs : thread ∈ s.started) (hd : (s.threads thread).deposit = .notYet) :
    s.find (s.threads thread).id = none := by
  cases hf : s.find (s.threads thread).id with
  | none => rfl
  | some x =>
    obtain ⟨hx, hid⟩ := find_some hf
    obtain ⟨hout, hj⟩ := h.fresh hd
    have heq : x = thread := h.ids x thread (h.mem_started hx) hs (h.not_joined (Or.inl hx)) hj hid
    exact absurd (List.mem_append_left _ (heq ▸ hx)) hout

/-- `Deposit` gives its answer. -/
theorem Custody.record {s u : CollectorSys} {thread : Nat} {d : DepositState} (h : Custody s)
    (hs : thread ∈ s.started) (hd : (s.threads thread).deposit = .notYet)
    (hu : u.threads = (s.setThread thread { s.threads thread with deposit := d }).threads)
    (hst : u.started = s.started) (hj : ∀ x, u.joined x ↔ s.joined x)
    (hc : u.creatorJoins = s.creatorJoins) (hnd : u.ledger.Nodup)
    (hmem : ∀ x, x ∈ u.ledger ↔ x ∈ s.ledger ∨ (x = thread ∧ d = .deposited)) : Custody u := by
  obtain ⟨hout, hunjoined⟩ := h.fresh hd
  have hold : ∀ x, x ≠ thread → u.threads x = s.threads x := by
    intro x hx
    rw [hu]
    exact setThread_ne hx
  have hnew : u.threads thread = { s.threads thread with deposit := d } := by
    rw [hu]
    exact setThread_self s thread _
  have hphase : ∀ x, (u.threads x).phase = (s.threads x).phase ∧ (u.threads x).id = (s.threads x).id := by
    intro x
    obtain rfl | hne := eq_or_ne x thread
    · rw [hnew]
      exact ⟨rfl, rfl⟩
    · rw [hold x hne]
      exact ⟨rfl, rfl⟩
  refine ⟨hnd, fun x => ?_, fun x hx => ?_, fun x hx => ?_, fun x hx => ?_, ?_⟩
  · rw [hmem]
    obtain rfl | hne := eq_or_ne x thread
    · rw [hnew]
      simp [hout]
    · rw [hold x hne, h.mem]
      simp [hne]
  · rw [hst]
    obtain rfl | hne := eq_or_ne x thread
    · exact hs
    · rw [hold x hne] at hx
      exact h.started x hx
  · rw [hc] at hx
    have hne : x ≠ thread := by
      rintro rfl
      exact hunjoined (Or.inr hx)
    rw [hold x hne]
    exact h.creator x hx
  · rw [(hphase x).1]
    exact h.ended x ((hj x).1 hx)
  · intro x y hx hy hjx hjy hid
    rw [hst] at hx hy
    rw [(hphase x).2, (hphase y).2] at hid
    exact h.ids x y hx hy (fun hj' => hjx ((hj x).2 hj')) (fun hj' => hjy ((hj y).2 hj')) hid

theorem custody_refused {s : CollectorSys} {thread : Nat} (h : Custody s) (hs : thread ∈ s.started)
    (hd : (s.threads thread).deposit = .notYet) :
    Custody (s.setThread thread { s.threads thread with deposit := .refused }) := by
  apply h.record hs hd rfl rfl (fun _ => Iff.rfl) rfl h.nodup
  intro x
  show x ∈ s.ledger ↔ _
  simp

theorem custody_deposited {s : CollectorSys} {thread : Nat} (h : Custody s) (hs : thread ∈ s.started)
    (hd : (s.threads thread).deposit = .notYet) :
    Custody { s.setThread thread { s.threads thread with deposit := .deposited } with
      depositMap :=
        if (s.find (s.threads thread).id).isSome then s.depositMap else s.depositMap ++ [thread] } := by
  rw [h.find_fresh hs hd]
  have hperm : (s.depositMap ++ [thread] ++ (s.collector.holds ++ (s.stopper.holds ++ s.joins))).Perm
      (thread :: s.ledger) := by
    rw [List.append_assoc]
    exact List.perm_middle
  refine h.record (d := .deposited) hs hd rfl rfl (fun _ => Iff.rfl) rfl ?_ ?_
  · exact hperm.nodup_iff.2 (List.nodup_cons.2 ⟨(h.fresh hd).1, h.nodup⟩)
  · intro x
    show x ∈ s.depositMap ++ [thread] ++ (s.collector.holds ++ (s.stopper.holds ++ s.joins)) ↔ _
    rw [hperm.mem_iff, List.mem_cons]
    simp only [and_true]
    exact or_comm

theorem custody_init : Custody collectorSystem.init := by
  refine ⟨List.nodup_nil, fun x => ?_, fun x hx => ?_, fun x hx => ?_, fun x hx => ?_, ?_⟩
  · show x ∈ [] ↔ _
    simp [collectorSystem]
  · obtain hx | hx := hx <;> exact absurd rfl hx
  · cases hx
  · obtain hx | hx := hx <;> cases hx
  · intro x _ hx
    cases hx

/-- A step that writes pcs, flags and requests only. -/
theorem Custody.frame {s t : CollectorSys} (h : Custody s) (hl : t.ledger.Perm s.ledger)
    (hth : t.threads = s.threads) (hst : t.started = s.started) (hj : t.joins = s.joins)
    (hc : t.creatorJoins = s.creatorJoins) : Custody t := by
  have hjoined : ∀ x, t.joined x ↔ s.joined x := by
    intro x
    unfold joined
    rw [hj, hc]
  refine h.move hl (fun x => ?_) hst (fun x hx => ?_) (fun x => (hjoined x).2) ?_ (fun x hx => ?_)
  · rw [hth]
    exact ⟨rfl, rfl⟩
  · rwa [hth] at hx
  · rw [hc]
    exact h.creator
  · rw [hth]
    exact h.ended x ((hjoined x).1 hx)

theorem ledger_congr {s t : CollectorSys} (hm : t.depositMap = s.depositMap)
    (hc : t.collector.holds = s.collector.holds) (hs : t.stopper.holds = s.stopper.holds)
    (hj : t.joins = s.joins) : t.ledger.Perm s.ledger := by
  unfold ledger
  rw [hm, hc, hs, hj]

/-- A join of an ended thread that somebody holds. -/
theorem Custody.join {s t : CollectorSys} {thread : Nat} (h : Custody s)
    (hp : (s.threads thread).phase = .ended) (hl : t.ledger.Perm s.ledger)
    (hth : t.threads = s.threads) (hst : t.started = s.started) (hj : t.joins = s.joins ++ [thread])
    (hc : t.creatorJoins = s.creatorJoins) : Custody t := by
  have hjoined : ∀ x, t.joined x ↔ s.joined x ∨ x = thread := by
    intro x
    unfold joined
    rw [hj, hc, List.mem_append, List.mem_singleton]
    tauto
  refine h.move hl (fun x => ?_) hst (fun x hx => ?_) (fun x hx => (hjoined x).2 (Or.inl hx)) ?_
    (fun x hx => ?_)
  · rw [hth]
    exact ⟨rfl, rfl⟩
  · rwa [hth] at hx
  · rw [hc]
    exact h.creator
  · rw [hth]
    obtain hx | rfl := (hjoined x).1 hx
    · exact h.ended x hx
    · exact hp

/-- **Every step keeps the custody of the threads.** -/
theorem custody_step {s t : CollectorSys} {a : CollectorOp} (h : Custody s) (hstep : s.step a = some t) :
    Custody t := by
  have hrefl : s.ledger.Perm s.ledger := List.Perm.refl _
  cases collectorStep_cases hstep with
  | start thread id hn hid => exact custody_start h hn hid
  | refused thread hs hd _ => exact custody_refused h hs hd
  | deposited thread hs hd _ _ => exact custody_deposited h hs hd
  | reclaimLate thread hp _ => exact h.setPhase (by simp [hp]) (by simp [hp])
  | reclaim thread hp _ _ =>
    have hph : Custody (s.setPhase thread .requested) := h.setPhase (by simp [hp]) (by simp [hp])
    exact hph.frame (List.Perm.refl _) rfl rfl rfl rfl
  | create thread hp _ hc _ =>
    have hph : Custody (s.setPhase thread .finishing) := h.setPhase (by simp [hp]) (by simp [hp])
    refine hph.frame (ledger_congr rfl ?_ rfl rfl) rfl rfl rfl rfl
    show _ = s.collector.holds
    rw [hc]
    rfl
  | noCreate thread _ hp => exact h.setPhase (by simp [hp]) (by simp [hp])
  | finish thread hp => exact h.setPhase (by simp [hp]) (by simp [hp])
  | creatorJoin thread hd hp =>
    refine h.move hrefl (fun _ => ⟨rfl, rfl⟩) rfl (fun _ hx => hx) (fun x hx => ?_) (fun x hx => ?_)
      (fun x hx => ?_)
    · exact hx.imp_right (List.mem_append_left _)
    · obtain hx | hx := List.mem_append.1 hx
      · exact h.creator x hx
      · rwa [List.mem_singleton.1 hx]
    · obtain hx | hx := hx
      · exact h.ended x (Or.inl hx)
      · obtain hx | hx := List.mem_append.1 hx
        · exact h.ended x (Or.inr hx)
        · rwa [List.mem_singleton.1 hx]
  | moved pc hold hnew _ _ =>
    exact h.frame (ledger_congr rfl (hnew.trans hold.symm) rfl rfl) rfl rfl rfl rfl
  | unknown id reclaims _ _ _ => exact h.frame hrefl rfl rfl rfl rfl
  | took id reclaims thread hc _ hf =>
    refine h.frame ?_ rfl rfl rfl rfl
    show (s.depositMap.erase thread ++ ([thread] ++ _)).Perm (s.depositMap ++ (s.collector.holds ++ _))
    rw [hc]
    exact List.perm_middle.trans ((List.perm_cons_erase (find_some hf).1).symm.append_right _)
  | joined thread hc hp =>
    refine h.join hp ?_ rfl rfl rfl rfl
    show (s.depositMap ++ ([] ++ (s.stopper.holds ++ (s.joins ++ [thread])))).Perm
      (s.depositMap ++ (s.collector.holds ++ (s.stopper.holds ++ s.joins)))
    rw [hc, List.nil_append, ← List.append_assoc s.stopper.holds]
    exact List.perm_append_comm.append_left _
  | setDestroying first hst =>
    exact h.frame (ledger_congr rfl rfl (by rw [hst]; rfl) rfl) rfl rfl rfl rfl
  | lockThread first hst =>
    exact h.frame (ledger_congr rfl rfl (by rw [hst]; rfl) rfl) rfl rfl rfl rfl
  | joinedCollector first hst _ =>
    exact h.frame (ledger_congr rfl rfl (by rw [hst]; rfl) rfl) rfl rfl rfl rfl
  | lockMap first hst =>
    exact h.frame (ledger_congr rfl rfl (by rw [hst]; rfl) rfl) rfl rfl rfl rfl
  | returned first hst _ =>
    exact h.frame (ledger_congr rfl rfl (by rw [hst]; rfl) rfl) rfl rfl rfl rfl
  | stopTook first hst hm =>
    refine h.frame ?_ rfl rfl rfl rfl
    show (s.depositMap.erase first ++ (s.collector.holds ++ ([first] ++ s.joins))).Perm
      (s.depositMap ++ (s.collector.holds ++ (s.stopper.holds ++ s.joins)))
    rw [hst]
    have hout : (s.depositMap.erase first ++ (s.collector.holds ++ first :: s.joins)).Perm
        (s.depositMap.erase first ++ first :: (s.collector.holds ++ s.joins)) :=
      List.perm_middle.append_left _
    have hback : (first :: s.depositMap.erase first ++ (s.collector.holds ++ s.joins)).Perm
        (s.depositMap ++ (s.collector.holds ++ s.joins)) :=
      (List.perm_cons_erase hm).symm.append_right _
    exact (hout.trans List.perm_middle).trans hback
  | exited first thread hst =>
    exact h.frame (ledger_congr rfl rfl (by rw [hst]; rfl) rfl) rfl rfl rfl rfl
  | stopJoined first thread hst hp =>
    refine h.join hp ?_ rfl rfl rfl rfl
    show (s.depositMap ++ (s.collector.holds ++ ([] ++ (s.joins ++ [thread])))).Perm
      (s.depositMap ++ (s.collector.holds ++ (s.stopper.holds ++ s.joins)))
    rw [hst]
    show (s.depositMap ++ (s.collector.holds ++ (s.joins ++ [thread]))).Perm
      (s.depositMap ++ (s.collector.holds ++ ([thread] ++ s.joins)))
    exact (List.perm_append_comm.append_left _).append_left _

theorem reachable_custody {ok : CollectorSys → CollectorOp → Prop} {s : CollectorSys}
    (h : collectorSystem.Reachable ok s) : Custody s :=
  h.invariant custody_init fun _ _ _ hc _ hs => custody_step hc hs

end AppExecFwk
