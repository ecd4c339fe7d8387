import EventHandler.WorkOff
import EventHandler.Sleep
import EventHandler.Lib.Completion

/-!
# Runners in `NO_WAIT` mode

`NoWaitModeLoop` takes events until nothing is ready, lets the io waiter report what is there, and
takes events again.  A deposited runner starts a thread for every call of `Run`; `running_` is true
only until that thread is started.

* `NoWaitPc`, `NoWaitThread`, `NoWaitSys` — the threads in `Run` and in the loop, and one queue with
  its logs.
* `NoWaitSys.step` — the calls of `Run`, each step of a loop, and what other threads and callbacks
  do to the queue.
* `NoWaitEffect`, `no_wait_cases` — the inversion of a step.
* `Plain` — the queue never enters barrier mode.
* `poll_leaves_none_due` — a loop that returns leaves nothing behind that was due when it came in or
  while it went on, and it returns if nothing comes in.
* `Unpolled`, `taken_when_due` — the vsync pick stays shut, so a vsync task waits for its own time.
* `loops_overlap` — how many threads are in the loop at once.
-/

set_option autoImplicit false

namespace AppExecFwk

open Transition EventQueueBase

inductive NoWaitPc where
  | out
  /-- Behind `running_.exchange(true)`, on a deposited runner. -/
  | entered
  /-- Before `Prepare`. -/
  | preparing
  /-- Before `GetExpiredEvent`, in the second `for` loop or the first. -/
  | fetching (second : Bool)
  | executing (second : Bool) (event : InnerEvent)
  /-- Before `CheckFileDescriptorEvent`. -/
  | checking
  /-- In `WaitFor`. -/
  | waiting
  /-- `EventRunnerImpl::Run` has returned, or the new thread is started. -/
  | left
  deriving DecidableEq, Repr

/-- In `NoWaitModeLoop`. -/
def NoWaitPc.inLoop : NoWaitPc → Bool
  | .fetching _ => true
  | .executing _ _ => true
  | .checking => true
  | .waiting => true
  | _ => false

structure NoWaitThread where
  pc : NoWaitPc := .out
  /-- Started by `StartRunningForNoWait`. -/
  started : Bool := false
  deriving DecidableEq, Repr

structure NoWaitSys where
  /-- `deposit_`. -/
  deposit : Bool
  /-- The queue and its logs; no thread is in `GetEvent`. -/
  shared : Sys
  running : Bool
  thread : Nat → NoWaitThread

inductive NoWaitOp where
  /-- `Run`, up to `running_.exchange(true)`. -/
  | run (k : Nat)
  /-- `StartRunningForNoWait`; the new thread is `m`. -/
  | startRunningForNoWait (k m : Nat)
  /-- `Prepare`, and whether the `EventRunner` is there. -/
  | prepare (k : Nat) (alive : Bool)
  | getExpiredEvent (k : Nat) (now next : ClockTime)
  /-- `ExecuteEventHandler` with a handler. -/
  | execute (k : Nat)
  /-- `ExecuteEventHandler` without one. -/
  | release (k : Nat)
  | checkFileDescriptorEvent (k : Nat)
  | waitReturn (k : Nat)
  /-- `running_.store(false)`, or the end of the thread. -/
  | finish (k : Nat)
  /-- What other threads, callbacks and the io waiter do to the queue. -/
  | other (op : Op)

/-- Neither the loop nor a vsync task does it. -/
def Op.fromOutside : Op → Bool
  | .insert .. => true
  | .remove _ => true
  | .removeOrphan _ => true
  | .removeAll => true
  | .flag op => !op.isNotification
  | _ => false

namespace NoWaitSys

def pc (s : NoWaitSys) (k : Nat) : NoWaitPc := (s.thread k).pc

def setThread (s : NoWaitSys) (k : Nat) (thread : NoWaitThread) : NoWaitSys :=
  { s with thread := Function.update s.thread k thread }

def setPc (s : NoWaitSys) (k : Nat) (pc : NoWaitPc) : NoWaitSys :=
  s.setThread k { s.thread k with pc := pc }

/-- The answer of `GetExpiredEvent`. -/
def expired (s : NoWaitSys) (now next : ClockTime) : ExpiredOutcome :=
  s.shared.queue.getExpiredEventLocked now next TimePoint.max

def step (P : SystemParameters) (s : NoWaitSys) : NoWaitOp → Option NoWaitSys
  | .run k =>
    if s.pc k = .out then
      if s.running then some s
      else
        some ({ s with running := true }.setPc k (if s.deposit then .entered else .preparing))
    else none
  | .startRunningForNoWait k m =>
    if s.pc k = .entered ∧ s.pc m = .out then
      some ((s.setPc k .left).setThread m { pc := .preparing, started := true })
    else none
  | .prepare k alive =>
    if s.pc k = .preparing then
      some ({ s with shared := { s.shared with queue := s.shared.queue.prepare } }.setPc k
        (if alive then .fetching false else .left))
    else none
  | .getExpiredEvent k now next =>
    match s.pc k with
    | .fetching second =>
      let r := s.expired now next
      match r.event with
      | some event =>
        some ({ s with shared := s.shared.take event r.queue }.setPc k (.executing second event))
      | none =>
        some ({ s with shared := { s.shared with queue := r.queue } }.setPc k
          (if second then .left else .checking))
    | _ => none
  | .execute k =>
    match s.pc k with
    | .executing second event =>
      some ({ s with shared := s.shared.runTask event }.setPc k (.fetching second))
    | _ => none
  | .release k =>
    match s.pc k with
    | .executing second _ => some (s.setPc k (.fetching second))
    | _ => none
  | .checkFileDescriptorEvent k => if s.pc k = .checking then some (s.setPc k .waiting) else none
  | .waitReturn k => if s.pc k = .waiting then some (s.setPc k (.fetching true)) else none
  | .finish k =>
    if s.pc k = .left then
      if (s.thread k).started then some (s.setThread k {})
      else some ({ s with running := false }.setPc k .out)
    else none
  | .other op =>
    if op.fromOutside then
      (s.shared.step P op).map fun shared => { s with shared := shared }
    else none

theorem setThread_pc (s : NoWaitSys) (k j : Nat) (thread : NoWaitThread) :
    (s.setThread k thread).pc j = if j = k then thread.pc else s.pc j := by
  unfold NoWaitSys.pc setThread
  by_cases h : j = k
  · subst h
    simp
  · simp [h]

theorem setPc_pc (s : NoWaitSys) (k j : Nat) (pc : NoWaitPc) :
    (s.setPc k pc).pc j = if j = k then pc else s.pc j := setThread_pc s k j _

end NoWaitSys

/-- A runner that has not run, with an empty queue. -/
def noWaitSystem (P : SystemParameters) (start : ClockTime) (deposit : Bool) :
    System NoWaitSys NoWaitOp where
  init :=
    { deposit := deposit
      shared := (queueSystem P start).init
      running := false
      thread := fun _ => {} }
  step := NoWaitSys.step P

def NoWaitOp.namedPriority : NoWaitOp → Bool
  | .other op => op.namedPriority
  | _ => true

/-! ## What a step does -/

/-- What a step does, two cases for `Run`, `GetExpiredEvent` and the end. -/
inductive NoWaitEffect (P : SystemParameters) (s : NoWaitSys) : NoWaitOp → NoWaitSys → Prop
  | refused (k : Nat) (hpc : s.pc k = .out) (hr : s.running = true) : NoWaitEffect P s (.run k) s
  | ran (k : Nat) (hpc : s.pc k = .out) (hr : s.running = false) :
      NoWaitEffect P s (.run k)
        ({ s with running := true }.setPc k (if s.deposit then .entered else .preparing))
  | started (k m : Nat) (hpc : s.pc k = .entered) (hm : s.pc m = .out) :
      NoWaitEffect P s (.startRunningForNoWait k m)
        ((s.setPc k .left).setThread m { pc := .preparing, started := true })
  | prepared (k : Nat) (alive : Bool) (hpc : s.pc k = .preparing) :
      NoWaitEffect P s (.prepare k alive)
        ({ s with shared := { s.shared with queue := s.shared.queue.prepare } }.setPc k
          (if alive then .fetching false else .left))
  | taken (k : Nat) (second : Bool) (now next : ClockTime) (e : InnerEvent)
      (hpc : s.pc k = .fetching second) (he : (s.expired now next).event = some e) :
      NoWaitEffect P s (.getExpiredEvent k now next)
        ({ s with shared := s.shared.take e (s.expired now next).queue }.setPc k
          (.executing second e))
  | exhausted (k : Nat) (second : Bool) (now next : ClockTime) (hpc : s.pc k = .fetching second)
      (hn : (s.expired now next).event = none) :
      NoWaitEffect P s (.getExpiredEvent k now next)
        ({ s with shared := { s.shared with queue := (s.expired now next).queue } }.setPc k
          (if second then .left else .checking))
  | executed (k : Nat) (second : Bool) (e : InnerEvent) (hpc : s.pc k = .executing second e) :
      NoWaitEffect P s (.execute k)
        ({ s with shared := s.shared.runTask e }.setPc k (.fetching second))
  | released (k : Nat) (second : Bool) (e : InnerEvent) (hpc : s.pc k = .executing second e) :
      NoWaitEffect P s (.release k) (s.setPc k (.fetching second))
  | checked (k : Nat) (hpc : s.pc k = .checking) :
      NoWaitEffect P s (.checkFileDescriptorEvent k) (s.setPc k .waiting)
  | waited (k : Nat) (hpc : s.pc k = .waiting) :
      NoWaitEffect P s (.waitReturn k) (s.setPc k (.fetching true))
  | ended (k : Nat) (hpc : s.pc k = .left) (hs : (s.thread k).started = true) :
      NoWaitEffect P s (.finish k) (s.setThread k {})
  | finished (k : Nat) (hpc : s.pc k = .left) (hs : (s.thread k).started = false) :
      NoWaitEffect P s (.finish k) ({ s with running := false }.setPc k .out)
  | other (op : Op) (y : Sys) (hop : op.fromOutside = true) (hy : s.shared.step P op = some y) :
      NoWaitEffect P s (.other op) { s with shared := y }

/-- **Inversion of a step.** -/
theorem no_wait_cases {P : SystemParameters} {s t : NoWaitSys} {a : NoWaitOp}
    (h : s.step P a = some t) : NoWaitEffect P s a t := by
  cases a with
  | run k =>
    simp only [NoWaitSys.step, Option.ite_none_right_eq_some] at h
    obtain ⟨hpc, h⟩ := h
    split at h
    · rename_i hr
      cases h
      exact .refused k hpc hr
    · rename_i hr
      cases h
      exact .ran k hpc (Bool.not_eq_true _ ▸ hr)
  | startRunningForNoWait k m =>
    simp only [NoWaitSys.step, Option.ite_none_right_eq_some, Option.some.injEq] at h
    obtain ⟨⟨hpc, hm⟩, rfl⟩ := h
    exact .started k m hpc hm
  | prepare k alive =>
    simp only [NoWaitSys.step, Option.ite_none_right_eq_some, Option.some.injEq] at h
    obtain ⟨hpc, rfl⟩ := h
    exact .prepared k alive hpc
  | getExpiredEvent k now next =>
    simp only [NoWaitSys.step] at h
    split at h
    · rename_i second hpc
      split at h
      · rename_i e he
        cases h
        exact .taken k second now next e hpc he
      · rename_i hn
        cases h
        exact .exhausted k second now next hpc hn
    · cases h
  | execute k =>
    simp only [NoWaitSys.step] at h
    split at h
    · rename_i second e hpc
      cases h
      exact .executed k second e hpc
    · cases h
  | release k =>
    simp only [NoWaitSys.step] at h
    split at h
    · rename_i second e hpc
      cases h
      exact .released k second e hpc
    · cases h
  | checkFileDescriptorEvent k =>
    simp only [NoWaitSys.step, Option.ite_none_right_eq_some, Option.some.injEq] at h
    obtain ⟨hpc, rfl⟩ := h
    exact .checked k hpc
  | waitReturn k =>
    simp only [NoWaitSys.step, Option.ite_none_right_eq_some, Option.some.injEq] at h
    obtain ⟨hpc, rfl⟩ := h
    exact .waited k hpc
  | finish k =>
    simp only [NoWaitSys.step, Option.ite_none_right_eq_some] at h
    obtain ⟨hpc, h⟩ := h
    split at h
    · rename_i hs
      cases h
      exact .ended k hpc hs
    · rename_i hs
      cases h
      exact .finished k hpc (Bool.not_eq_true _ ▸ hs)
  | other op =>
    simp only [NoWaitSys.step, Option.ite_none_right_eq_some, Option.map_eq_some_iff] at h
    obtain ⟨hop, y, hy, rfl⟩ := h
    exact .other op y hop hy

/-- **A step does to the queue and its logs what an operation on the queue can do.** -/
theorem no_wait_listEffect {P : SystemParameters} {s t : NoWaitSys} {a : NoWaitOp}
    (h : s.step P a = some t) :
    ∃ op, ListEffect s.shared op t.shared ∧ (op = .getEvent ∨ a = .other op) := by
  have same : ∀ {y : Sys}, SameLists s.shared.queue y.queue → y.accepted = s.shared.accepted →
      y.returned = s.shared.returned → y.discarded = s.shared.discarded →
      y.nextTicket = s.shared.nextTicket →
      ∃ op, ListEffect s.shared op y ∧ (op = .getEvent ∨ a = .other op) :=
    fun h ha hr hd hn => ⟨.getEvent, .of_sameLists h ha hr hd hn, Or.inl rfl⟩
  cases no_wait_cases h with
  | refused => exact same (SameLists.refl _) rfl rfl rfl rfl
  | ran => exact same (SameLists.refl _) rfl rfl rfl rfl
  | started => exact same (SameLists.refl _) rfl rfl rfl rfl
  | prepared => exact same (applyFlag_sameLists _ .prepare) rfl rfl rfl rfl
  | taken k second now next e hpc he =>
    obtain ⟨p, l, hrule, htk⟩ := getExpiredEventLocked_some he
    exact ⟨.getEvent, .taken _ now e p l hrule htk rfl rfl rfl rfl, Or.inl rfl⟩
  | exhausted k second now next hpc hn =>
    exact ⟨.getEvent, .same (getExpiredEventLocked_none hn).2.1 rfl rfl rfl (le_refl _),
      Or.inl rfl⟩
  | executed k second e hpc =>
    refine same (runTask_sameLists _ e) ?_ ?_ ?_ ?_ <;>
      · show _ = _
        simp only [NoWaitSys.setPc, NoWaitSys.setThread]
        unfold Sys.runTask
        split <;> rfl
  | released => exact same (SameLists.refl _) rfl rfl rfl rfl
  | checked => exact same (SameLists.refl _) rfl rfl rfl rfl
  | waited => exact same (SameLists.refl _) rfl rfl rfl rfl
  | ended => exact same (SameLists.refl _) rfl rfl rfl rfl
  | finished => exact same (SameLists.refl _) rfl rfl rfl rfl
  | other op y hop hy => exact ⟨op, step_listEffect hy, Or.inr rfl⟩

/-! ## Nothing due is left behind -/

/-- Only `GetEvent` enters barrier mode. -/
theorem fromOutside_barrier {P : SystemParameters} {s t : Sys} {op : Op}
    (hop : op.fromOutside = true) (h : s.step P op = some t) (hb : s.queue.isBarrierMode = false) :
    t.queue.isBarrierMode = false := by
  cases step_cases h with
  | insert p now recv event priority ty option hl => exact insert_barrier.trans hb
  | remove selector hl =>
    exact (remove_onlyLists selector s.queue).sameControl.isBarrierMode.trans hb
  | removeOrphan p hl =>
    show (s.queue.removeOrphan p).isBarrierMode = false
    unfold removeOrphan
    split
    · rw [← Bool.not_eq_true]
      intro hc
      rw [(foldl_noteOrphan_barrier p s.queue.allEvents s.queue hc).1] at hb
      cases hb
    · exact hb
  | removeAll hl => exact (removeFilter_onlyLists _ s.queue).sameControl.isBarrierMode.trans hb
  | flag op =>
    have hn : op.isNotification = false := by simpa [Op.fromOutside] using hop
    exact (applyFlag_control hn).2.trans hb
  | expiredEvent => cases hop
  | expiredNone => cases hop
  | getEvent => cases hop
  | pass => cases hop
  | wakeUp => cases hop
  | pollReturn => cases hop
  | execute => cases hop
  | release => cases hop

/-- The lists are sorted, the log is right, and barrier mode is off. -/
structure Plain (s : NoWaitSys) : Prop where
  sorted : SortedLists s.shared
  issued : Issued s.shared
  ledger : Ledger s.shared
  barrier : s.shared.queue.isBarrierMode = false

theorem plain_step {P : SystemParameters} {s t : NoWaitSys} {a : NoWaitOp} (h : Plain s)
    (hp : a.namedPriority = true) (hst : s.step P a = some t) : Plain t := by
  obtain ⟨op, hl, hsrc⟩ := no_wait_listEffect hst
  have hn : op.namedPriority = true := by
    rcases hsrc with rfl | rfl
    · rfl
    · exact hp
  refine ⟨sorted_step h.sorted hl, issued_step h.issued hl, h.ledger.step hn hl, ?_⟩
  have hb := h.barrier
  cases no_wait_cases hst with
  | prepared => exact (@applyFlag_control _ .prepare rfl).2.trans hb
  | taken k second now next e hpc he =>
    exact (getExpiredEventLocked_sameControl _ now next _).isBarrierMode.trans hb
  | exhausted k second now next hpc hn =>
    exact (getExpiredEventLocked_sameControl _ now next _).isBarrierMode.trans hb
  | executed k second e hpc =>
    show (s.shared.runTask e).queue.isBarrierMode = false
    unfold Sys.runTask
    split
    · rfl
    · exact hb
  | other op y hop hy => exact fromOutside_barrier hop hy hb
  | refused => exact hb
  | ran => exact hb
  | started => exact hb
  | released => exact hb
  | checked => exact hb
  | waited => exact hb
  | ended => exact hb
  | finished => exact hb

theorem plain_run {P : SystemParameters} {start : ClockTime} {deposit : Bool} {s : NoWaitSys}
    (h : (noWaitSystem P start deposit).Reachable (fun _ a => a.namedPriority = true) s) :
    Plain s := by
  refine System.Reachable.invariant ?_
    (fun s a _ hi hok hst => plain_step (s := s) (a := a) hi hok hst) h
  have hinit : (queueSystem P start).Reachable (fun _ a => a.namedPriority = true)
      (queueSystem P start).init := .init
  exact ⟨reachable_sorted hinit, reachable_issued hinit, reachable_ledger hinit, rfl⟩

/-- The events that had been accepted before ticket `bound` and are not idle are due after `r`. -/
def NoneDue (bound : Nat) (r : Int) (s : Sys) : Prop :=
  ∀ i, ∀ e ∈ s.queue.events (some i), e.ticket < bound → r < e.handleTime

theorem NoneDue.step {bound : Nat} {r : Int} {s t : Sys} {op : Op} (h : NoneDue bound r s)
    (hb : bound ≤ s.nextTicket) (hl : ListEffect s op t) : NoneDue bound r t := by
  intro i e he hlt
  rcases hl.mem he with he | ⟨he, -, -⟩
  · exact h i e he hlt
  · omega

/-- Outside barrier mode a call that finds nothing has found every sub-queue without a due event. -/
theorem none_due_of_exhausted {q : EventQueueBase} {now next : ClockTime} {u : Int}
    (hs : ∀ i, SortedByHandleTime (q.events (some i))) (hb : q.isBarrierMode = false)
    (hn : (q.getExpiredEventLocked now next u).event = none) :
    ∀ i, ∀ e ∈ (q.getExpiredEventLocked now next u).queue.events (some i),
      now.ns < e.handleTime := by
  intro i e he
  obtain ⟨-, hsame, hhead, hlt, -⟩ := getExpiredEventLocked_none hn
  rw [hsame (some i)] at he
  exact lt_of_lt_of_le (hlt hb) ((hs i).le_of_head (fun x hx => hhead i x hx) e he)

/-- The clock of the thread does not go back behind `r`. -/
def NoWaitOp.readsFrom (k : Nat) (r : Int) : NoWaitOp → Prop
  | .getExpiredEvent j now _ => j = k → r ≤ now.ns
  | _ => True

instance (k : Nat) (r : Int) (a : NoWaitOp) : Decidable (a.readsFrom k r) := by
  cases a <;> unfold NoWaitOp.readsFrom <;> infer_instance

/-- A thread is in its loop until a call of `GetExpiredEvent` behind `CheckFileDescriptorEvent`
    finds nothing. -/
theorem poll_loop_step {P : SystemParameters} {s t : NoWaitSys} {a : NoWaitOp} {k : Nat} {r : Int}
    (h : Plain s) (hr : a.readsFrom k r) (hst : s.step P a = some t)
    (hk : (s.pc k).inLoop = true) : (t.pc k).inLoop = true ∨ ∀ bound, NoneDue bound r t.shared := by
  have keep : ∀ {x : NoWaitSys} {j : Nat} {pc : NoWaitPc}, x.pc k = s.pc k →
      pc.inLoop = true → ((x.setPc j pc).pc k).inLoop = true := by
    intro x j pc hx hpc
    rw [NoWaitSys.setPc_pc]
    split
    · exact hpc
    · rw [hx]
      exact hk
  have leave : ∀ {x : NoWaitSys} {j : Nat} {pc : NoWaitPc}, x.pc k = s.pc k →
      (s.pc j).inLoop = false → ((x.setPc j pc).pc k).inLoop = true := by
    intro x j pc hx hj
    rw [NoWaitSys.setPc_pc, if_neg, hx]
    · exact hk
    · rintro rfl
      rw [hk] at hj
      cases hj
  cases no_wait_cases hst with
  | refused => exact Or.inl hk
  | ran j hpc => exact Or.inl (leave rfl (by rw [hpc]; rfl))
  | started j m hpc hm =>
    left
    rw [NoWaitSys.setThread_pc, if_neg]
    · exact leave (x := s) rfl (by rw [hpc]; rfl)
    · rintro rfl
      rw [hm] at hk
      cases hk
  | prepared j alive hpc => exact Or.inl (leave rfl (by rw [hpc]; rfl))
  | taken => exact Or.inl (keep rfl rfl)
  | exhausted j second now next hpc hn =>
    cases second with
    | false => exact Or.inl (keep rfl rfl)
    | true =>
      by_cases hj : k = j
      · right
        intro bound i e he _
        have := none_due_of_exhausted (fun i => h.sorted (some i)) h.barrier hn i e he
        have := hr hj.symm
        omega
      · left
        rw [NoWaitSys.setPc_pc, if_neg hj]
        exact hk
  | executed => exact Or.inl (keep rfl rfl)
  | released => exact Or.inl (keep rfl rfl)
  | checked => exact Or.inl (keep rfl rfl)
  | waited => exact Or.inl (keep rfl rfl)
  | ended j hpc hs =>
    left
    rw [NoWaitSys.setThread_pc, if_neg]
    · exact hk
    · rintro rfl
      rw [hpc] at hk
      cases hk
  | finished j hpc hs => exact Or.inl (leave rfl (by rw [hpc]; rfl))
  | other => exact Or.inl hk

/-- What a run does, for a thread that is in its loop when the run begins. -/
structure Polled (u : NoWaitSys) (k : Nat) (r : Int) (s : NoWaitSys) : Prop where
  plain : Plain s
  issued : u.shared.nextTicket ≤ s.shared.nextTicket
  accepted : ∀ x ∈ u.shared.accepted, x ∈ s.shared.accepted
  loop : (s.pc k).inLoop = true ∨ NoneDue u.shared.nextTicket r s.shared

theorem ListEffect.mem_accepted {s t : Sys} {op : Op} (h : ListEffect s op t) {x : Nat}
    (hx : x ∈ s.accepted) : x ∈ t.accepted := by
  cases h with
  | same h ha => rwa [ha]
  | unstored hp h ha =>
    rw [ha]
    exact List.mem_append_left _ hx
  | inserted l e ty hsrc hk hl ha =>
    rw [ha]
    exact List.mem_append_left _ hx
  | discarded filter hsel h ha => rwa [ha]
  | taken q now e p l hrule h ha => rwa [ha]

theorem polled_step {P : SystemParameters} {u s t : NoWaitSys} {a : NoWaitOp} {k : Nat} {r : Int}
    (h : Polled u k r s) (hp : a.namedPriority = true) (hr : a.readsFrom k r)
    (hst : s.step P a = some t) : Polled u k r t := by
  obtain ⟨op, hl, -⟩ := no_wait_listEffect hst
  refine ⟨plain_step h.plain hp hst, le_trans h.issued hl.nextTicket_le,
    fun x hx => hl.mem_accepted (h.accepted x hx), ?_⟩
  rcases h.loop with hk | hd
  · rcases poll_loop_step h.plain hr hst hk with hk | hd
    · exact Or.inl hk
    · exact Or.inr (hd _)
  · exact Or.inr (hd.step h.issued hl)

/-! ## The loop returns -/

/-- A step of the loop of thread `k`. -/
def NoWaitOp.byLoop (k : Nat) : NoWaitOp → Bool
  | .getExpiredEvent j _ _ => j == k
  | .execute j => j == k
  | .release j => j == k
  | .checkFileDescriptorEvent j => j == k
  | .waitReturn j => j == k
  | _ => false

/-- Nothing comes in, and thread `k` stays where its loop has ended. -/
def NoWaitOp.quiet (k : Nat) : NoWaitOp → Bool
  | .other (.insert ..) => false
  | .finish j => j != k
  | _ => true

/-- The steps of a loop beside those that an event pays for. -/
def NoWaitPc.steps : NoWaitPc → Nat
  | .fetching false => 4
  | .executing false _ => 5
  | .checking => 3
  | .waiting => 2
  | .fetching true => 1
  | .executing true _ => 2
  | _ => 0

/-- The steps that the loop of thread `k` can make if nothing comes in. -/
def NoWaitSys.steps (k : Nat) (s : NoWaitSys) : Nat :=
  2 * s.shared.queue.allEvents.length + (s.pc k).steps

/-- Without a call of `Insert` the lists do not grow. -/
theorem ListEffect.length_le {s t : Sys} {op : Op} (h : ListEffect s op t)
    (hop : ∀ k e ty, ¬ StoredBy s op k e ty) :
    t.queue.allEvents.length ≤ s.queue.allEvents.length := by
  cases h with
  | same h => exact le_of_eq (congrArg List.length (allEvents_same h))
  | unstored hp h => exact le_of_eq (congrArg List.length (allEvents_same h))
  | inserted l e ty hsrc => exact absurd hsrc (hop l e ty)
  | discarded filter hsel h =>
    rw [allEvents_discard h]
    exact List.length_filter_le ..
  | taken q now e p l hrule h =>
    rw [allEvents_length_take h]
    exact Nat.le_succ _

theorem quiet_length_le {P : SystemParameters} {s t : NoWaitSys} {a : NoWaitOp} {k : Nat}
    (hq : a.quiet k = true) (hst : s.step P a = some t) :
    t.shared.queue.allEvents.length ≤ s.shared.queue.allEvents.length := by
  obtain ⟨op, hl, hop⟩ := no_wait_listEffect hst
  refine hl.length_le fun l e ty hsrc => ?_
  obtain ⟨p, now, recv, event, priority, option, rfl, -⟩ := hsrc
  rcases hop with hop | rfl
  · cases hop
  · cases hq

/-- A step of another thread leaves the thread where it is. -/
theorem loop_stays {P : SystemParameters} {s t : NoWaitSys} {a : NoWaitOp} {k : Nat}
    (hq : a.quiet k = true) (hk : (s.pc k).inLoop = true ∨ s.pc k = .left)
    (ha : a.byLoop k = false) (hst : s.step P a = some t) : t.pc k = s.pc k := by
  have other : ∀ {x : NoWaitSys} {j : Nat} {pc : NoWaitPc}, x.pc k = s.pc k → k ≠ j →
      (x.setPc j pc).pc k = s.pc k := by
    intro x j pc hx hj
    rw [NoWaitSys.setPc_pc, if_neg hj, hx]
  have away : ∀ {j : Nat}, (s.pc j).inLoop = false → s.pc j ≠ .left → k ≠ j := by
    rintro j h1 h2 rfl
    rcases hk with hk | hk
    · rw [hk] at h1
      cases h1
    · exact h2 hk
  have hne : ∀ {j : Nat}, (j == k) = false → k ≠ j := by
    rintro j h rfl
    simp at h
  have unfinished : ∀ {j : Nat}, (j != k) = true → k ≠ j := by
    rintro j h rfl
    simp at h
  cases no_wait_cases hst with
  | refused => rfl
  | ran j hpc => exact other rfl (away (by rw [hpc]; rfl) (by rw [hpc]; decide))
  | started j m hpc hm =>
    rw [NoWaitSys.setThread_pc, if_neg (away (by rw [hm]; rfl) (by rw [hm]; decide))]
    exact other rfl (away (by rw [hpc]; rfl) (by rw [hpc]; decide))
  | prepared j alive hpc => exact other rfl (away (by rw [hpc]; rfl) (by rw [hpc]; decide))
  | taken j => exact other rfl (hne ha)
  | exhausted j => exact other rfl (hne ha)
  | executed j => exact other rfl (hne ha)
  | released j => exact other rfl (hne ha)
  | checked j => exact other rfl (hne ha)
  | waited j => exact other rfl (hne ha)
  | ended j => rw [NoWaitSys.setThread_pc, if_neg (unfinished hq)]
  | finished j => exact other rfl (unfinished hq)
  | other => rfl

/-- A step of the loop leads on and lowers the count. -/
theorem loop_goes_on {P : SystemParameters} {s t : NoWaitSys} {a : NoWaitOp} {k : Nat}
    (ha : a.byLoop k = true) (hst : s.step P a = some t) :
    ((t.pc k).inLoop = true ∨ t.pc k = .left) ∧ t.steps k < s.steps k := by
  have at_k : ∀ {x : NoWaitSys} {pc : NoWaitPc}, (x.setPc k pc).pc k = pc := by
    intro x pc
    rw [NoWaitSys.setPc_pc, if_pos rfl]
  unfold NoWaitSys.steps
  cases no_wait_cases hst with
  | taken j second now next e hpc he =>
    obtain rfl := beq_iff_eq.1 ha
    obtain ⟨p, l, -, htk⟩ := getExpiredEventLocked_some he
    have hlen : s.shared.queue.allEvents.length =
        (s.expired now next).queue.allEvents.length + 1 := allEvents_length_take htk
    rw [at_k, hpc]
    refine ⟨Or.inl rfl, ?_⟩
    show 2 * (s.expired now next).queue.allEvents.length + _ < _
    cases second <;> simp only [NoWaitPc.steps] <;> omega
  | exhausted j second now next hpc hn =>
    obtain rfl := beq_iff_eq.1 ha
    have hlen : (s.expired now next).queue.allEvents.length =
        s.shared.queue.allEvents.length :=
      congrArg List.length (allEvents_same (getExpiredEventLocked_none hn).2.1)
    rw [at_k, hpc]
    constructor
    · cases second
      · exact Or.inl rfl
      · exact Or.inr rfl
    · show 2 * (s.expired now next).queue.allEvents.length + _ < _
      rw [hlen]
      cases second <;> simp [NoWaitPc.steps]
  | executed j second e hpc =>
    obtain rfl := beq_iff_eq.1 ha
    have hlen : (s.shared.runTask e).queue.allEvents.length =
        s.shared.queue.allEvents.length :=
      congrArg List.length (allEvents_same (runTask_sameLists s.shared e).sameEvents)
    rw [at_k, hpc]
    refine ⟨Or.inl rfl, ?_⟩
    show 2 * (s.shared.runTask e).queue.allEvents.length + _ < _
    rw [hlen]
    cases second <;> simp [NoWaitPc.steps]
  | released j second e hpc =>
    obtain rfl := beq_iff_eq.1 ha
    rw [at_k, hpc]
    refine ⟨Or.inl rfl, ?_⟩
    show 2 * s.shared.queue.allEvents.length + _ < _
    cases second <;> simp [NoWaitPc.steps]
  | checked j hpc =>
    obtain rfl := beq_iff_eq.1 ha
    rw [at_k, hpc]
    exact ⟨Or.inl rfl, Nat.lt_succ_self _⟩
  | waited j hpc =>
    obtain rfl := beq_iff_eq.1 ha
    rw [at_k, hpc]
    exact ⟨Or.inl rfl, Nat.lt_succ_self _⟩
  | refused => cases ha
  | ran => cases ha
  | started => cases ha
  | prepared => cases ha
  | ended => cases ha
  | finished => cases ha
  | other => cases ha

/-- The runner while nothing comes in. -/
def quietSystem (P : SystemParameters) (start : ClockTime) (deposit : Bool) (k : Nat) :
    System NoWaitSys NoWaitOp :=
  (noWaitSystem P start deposit).restrict fun _ a => a.quiet k

theorem quiet_lowers (P : SystemParameters) (start : ClockTime) (deposit : Bool) (k : Nat) :
    Lowers (quietSystem P start deposit k) (NoWaitOp.byLoop k)
      (fun s => (s.pc k).inLoop = true ∨ s.pc k = .left) (NoWaitSys.steps k) where
  keeps s a t h hst := by
    obtain ⟨hq, hst⟩ := System.restrict_step.1 hst
    cases ha : a.byLoop k with
    | true => exact (loop_goes_on ha hst).1
    | false =>
      rw [loop_stays hq h ha hst]
      exact h
  lowers s a t h hst ha := (loop_goes_on ha (System.restrict_step.1 hst).2).2
  stays s a t h hst ha := by
    obtain ⟨hq, hst⟩ := System.restrict_step.1 hst
    unfold NoWaitSys.steps
    rw [loop_stays hq h ha hst]
    have := quiet_length_le hq hst
    omega

theorem loop_enabled {P : SystemParameters} {start : ClockTime} {deposit : Bool} {k : Nat}
    {s : NoWaitSys} (hk : (s.pc k).inLoop = true) :
    ∃ a t, a.byLoop k = true ∧ (quietSystem P start deposit k).step s a = some t := by
  have go : ∀ {a : NoWaitOp}, a.byLoop k = true → a.quiet k = true → (s.step P a).isSome = true →
      ∃ a t, a.byLoop k = true ∧ (quietSystem P start deposit k).step s a = some t := by
    intro a ha hq hst
    obtain ⟨t, ht⟩ := Option.isSome_iff_exists.1 hst
    exact ⟨a, t, ha, System.restrict_step.2 ⟨hq, ht⟩⟩
  cases hpc : s.pc k with
  | fetching second =>
    refine go (a := .getExpiredEvent k .latest .latest) (beq_self_eq_true k) rfl ?_
    simp only [NoWaitSys.step, hpc]
    split <;> rfl
  | executing second e =>
    exact go (a := .execute k) (beq_self_eq_true k) rfl (by simp only [NoWaitSys.step, hpc]; rfl)
  | checking =>
    exact go (a := .checkFileDescriptorEvent k) (beq_self_eq_true k) rfl
      (by simp only [NoWaitSys.step, hpc, if_true]; rfl)
  | waiting =>
    exact go (a := .waitReturn k) (beq_self_eq_true k) rfl
      (by simp only [NoWaitSys.step, hpc, if_true]; rfl)
  | _ =>
    rw [hpc] at hk
    cases hk

/-- **A poll leaves nothing due behind, and it ends.** A thread is in `NoWaitModeLoop`, and its
    clock does not go back behind `r`.  When its loop has returned, every event accepted by then has
    been handed out or removed, or it is an idle event, or its time comes after `r`, whatever other
    threads do meanwhile; that goes for the events that the io waiter brings in before the second
    `for` loop.  While nothing comes in, the loop makes at most two steps for an event and five more,
    and it returns by itself. -/
theorem poll_leaves_none_due (P : SystemParameters) (start : ClockTime) (deposit : Bool)
    {u : NoWaitSys}
    (hu : (noWaitSystem P start deposit).Reachable (fun _ a => a.namedPriority = true) u) {k : Nat}
    (hk : (u.pc k).inLoop = true) :
    (∀ r as t, (noWaitSystem P start deposit).Run
      (fun _ a => a.namedPriority = true ∧ a.readsFrom k r) u as t → t.pc k = .left →
      ∀ x ∈ u.shared.accepted, x ∈ t.shared.returned ∨ x ∈ t.shared.discarded ∨
        ∃ e ∈ t.shared.queue.allEvents, e.ticket = x ∧
          (e ∈ t.shared.queue.idleEvents ∨ r < e.handleTime)) ∧
    (∀ as t, (quietSystem P start deposit k).Run System.always u as t →
      as.countP (NoWaitOp.byLoop k) ≤ 2 * u.shared.queue.allEvents.length + 5 ∧
      ∃ bs v, (quietSystem P start deposit k).Run (fun _ a => a.byLoop k = true) t bs v ∧
        v.pc k = .left) := by
  have hplain := plain_run hu
  constructor
  · intro r as t hrun hleft x hx
    have hpoll : Polled u k r t := by
      refine hrun.invariant
        (fun s a t hs hok hst => polled_step (s := s) (a := a) hs hok.1 hok.2 hst) ?_
      exact ⟨hplain, le_refl _, fun _ h => h, Or.inl hk⟩
    have hdue : NoneDue u.shared.nextTicket r t.shared := by
      rcases hpoll.loop with h | h
      · rw [hleft] at h
        cases h
      · exact h
    have hacc := hpoll.plain.ledger.account x
    have hone := List.count_eq_one_of_mem hpoll.plain.ledger.nodup (hpoll.accepted x hx)
    by_cases hr : x ∈ t.shared.returned
    · exact Or.inl hr
    by_cases hd : x ∈ t.shared.discarded
    · exact Or.inr (Or.inl hd)
    rw [List.count_eq_zero.2 hr, List.count_eq_zero.2 hd, hone] at hacc
    have hin : x ∈ t.shared.queue.tickets := List.count_pos_iff.1 (by omega)
    obtain ⟨e, he, rfl⟩ := List.mem_map.1 hin
    refine Or.inr (Or.inr ⟨e, he, rfl, ?_⟩)
    obtain ⟨l, hl⟩ := mem_allEvents.1 he
    cases l with
    | none => exact Or.inl hl
    | some i => exact Or.inr (hdue i e hl (hplain.ledger.below _ hx))
  · intro as t hrun
    obtain ⟨ht, hle⟩ := (quiet_lowers P start deposit k).run hrun (Or.inl hk)
    have hsteps : (u.pc k).steps ≤ 5 := by
      cases u.pc k with
      | fetching second => cases second <;> simp [NoWaitPc.steps]
      | executing second e => cases second <;> simp [NoWaitPc.steps]
      | _ => simp [NoWaitPc.steps]
    refine ⟨by unfold NoWaitSys.steps at hle; omega, ?_⟩
    refine (quiet_lowers P start deposit k).completes (D := fun v => v.pc k = .left)
      (fun v hv hd => loop_enabled (hv.resolve_right hd)) (t.steps k) t ht (le_refl _)

/-- An event that is due, one that is not, and a runner of the caller's thread that is run. -/
def polledOnce : List NoWaitOp :=
  [.other (insertAt (atMs 1) (plainEvent (atMs 2)) .HIGH),
    .other (insertAt (atMs 1) (plainEvent (atMs 9)) .LOW), .run 0, .prepare 0 true]

/-- The loop, with an event that comes in while the thread waits. -/
def pollLoop : List NoWaitOp :=
  [.getExpiredEvent 0 (atMs 5) (atMs 5), .execute 0, .getExpiredEvent 0 (atMs 5) (atMs 5),
    .checkFileDescriptorEvent 0, .other (insertAt (atMs 5) (plainEvent (atMs 5)) .VIP),
    .waitReturn 0, .getExpiredEvent 0 (atMs 6) (atMs 6), .execute 0,
    .getExpiredEvent 0 (atMs 6) (atMs 6)]

/-- A call that hands out two events and leaves one for later. -/
theorem poll_leaves_none_due_later :
    ∃ u t : NoWaitSys,
      (noWaitSystem {} (atMs 0) false).Reachable (fun _ a => a.namedPriority = true) u ∧
      u.shared.accepted = [0, 1] ∧ t.shared.returned = [0, 2] ∧
      ∀ x ∈ u.shared.accepted, x ∈ t.shared.returned ∨ x ∈ t.shared.discarded ∨
        ∃ e ∈ t.shared.queue.allEvents, e.ticket = x ∧
          (e ∈ t.shared.queue.idleEvents ∨ (atMs 5).ns < e.handleTime) := by
  obtain ⟨u, hu, hk, hacc, hany⟩ := System.run_of_exec (noWaitSystem {} (atMs 0) false)
    (fun _ a => a.namedPriority = true)
    (fun u => (u.pc 0).inLoop = true ∧ u.shared.accepted = [0, 1] ∧
      ((noWaitSystem {} (atMs 0) false).execIf
        (fun _ a => decide (a.namedPriority = true ∧ a.readsFrom 0 (atMs 5).ns)) u pollLoop).any
        (fun t => decide (t.pc 0 = .left ∧ t.shared.returned = [0, 2])) = true)
    polledOnce (by decide +kernel)
  obtain ⟨t, ht, hlast⟩ := (Option.any_eq_true _ _).1 hany
  obtain ⟨hleft, hret⟩ := of_decide_eq_true hlast
  have hrun := (System.run_of_execIf ht).mono fun _ _ h => of_decide_eq_true h
  exact ⟨u, t, ⟨_, hu⟩, hacc, hret,
    (poll_leaves_none_due {} (atMs 0) false ⟨_, hu⟩ hk).1 _ _ _ hrun hleft⟩

/-! ## The vsync pick stays shut -/

/-- An accepted vsync task sets `needEpoll_`; the other calls leave the vsync account as it is. -/
theorem insert_polls {p : Process} {now recv : ClockTime} {q : EventQueueBase}
    {event : Option InnerEvent} {priority : Priority} {ty : EventInsertType}
    {option : VsyncBarrierOption} (hv : ∀ e, event = some e → e.isVsync = true → priority = .VIP) :
    let o := q.insert p now recv event priority ty option
    o.queue.needEpoll = true ∨ (o.queue.needEpoll = q.needEpoll ∧
      o.queue.sumOfPendingVsync = q.sumOfPendingVsync ∧ o.queue.allVsync = q.allVsync) := by
  have hcount := @insert_count p now recv q event priority ty option hv
  have hx := insert_cases p now recv q event priority ty option
  generalize q.insert p now recv event priority ty option = o at hcount hx
  cases hx with
  | rejected _ _ => exact Or.inr ⟨rfl, rfl, rfl⟩
  | unnamed _ _ _ _ => exact Or.inr ⟨rfl, rfl, rfl⟩
  | idle e hu hp =>
    rcases hcount with ⟨hall, hsum⟩ | ⟨-, ⟨x, hx, hxv⟩, -⟩
    · exact Or.inr ⟨rfl, hsum, hall⟩
    · rw [hp] at hv
      cases hv x hx hxv
  | sub e i hu hi q' hq' =>
    cases hev : e.isVsync with
    | true =>
      rw [hev] at hq'
      subst hq'
      exact Or.inl rfl
    | false =>
      rw [hev] at hq'
      subst hq'
      rcases hcount with ⟨hall, hsum⟩ | ⟨-, ⟨x, hx, hxv⟩, -⟩
      · exact Or.inr ⟨rfl, hsum, hall⟩
      · cases hx
        rw [hev] at hxv
        cases hxv

/-- `RemoveOrphan` writes the lists only, unless it drops a vsync task. -/
theorem foldl_noteOrphan_of_none {p : Process} : ∀ {es : List InnerEvent} {q : EventQueueBase},
    orphanVsync p es = 0 → es.foldl (noteOrphan p) q = q := by
  intro es
  induction es with
  | nil => exact fun _ => rfl
  | cons e es ih =>
    intro q h
    unfold orphanVsync at h
    rw [List.countP_cons] at h
    have he : (e.ownerExpired p && e.isVsync) = false := by
      rw [← Bool.not_eq_true]
      intro he
      rw [if_pos he] at h
      omega
    have hq : q.noteOrphan p e = q := by simp [noteOrphan, he]
    rw [List.foldl_cons, hq]
    exact ih (by unfold orphanVsync; omega)

theorem removeOrphan_onlyLists {p : Process} {q : EventQueueBase}
    (h : orphanVsync p q.allEvents = 0) : OnlyLists q (q.removeOrphan p) := by
  unfold removeOrphan
  rw [foldl_noteOrphan_of_none h]
  split <;> rfl

theorem applyFlag_needEpoll {q : EventQueueBase} {op : FlagOp} (h : op.isNotification = false) :
    (q.applyFlag op).needEpoll = q.needEpoll := by
  have hx := applyFlag_writes q op
  generalize q.applyFlag op = q' at hx
  cases hx with
  | dispatchVsyncTaskNotify _ _ _ => cases h
  | handleVsyncTaskNotify _ => cases h
  | enterBarrierMode _ => cases h
  | leaveBarrierMode => cases h
  | _ => rfl

/-- Vsync tasks are inserted as `VIP`, and none is dropped as an orphan. -/
def NoWaitOp.keepsVsync (s : NoWaitSys) : NoWaitOp → Prop
  | .other (.removeOrphan p) => orphanVsync p s.shared.queue.allEvents = 0
  | .other op => vsyncAsVip op = true
  | _ => True

instance (s : NoWaitSys) (a : NoWaitOp) : Decidable (a.keepsVsync s) := by
  unfold NoWaitOp.keepsVsync
  split <;> infer_instance

/-- What an operation from outside does to the vsync account. -/
theorem fromOutside_vsync {P : SystemParameters} {s : NoWaitSys} {t : Sys} {op : Op}
    (hop : op.fromOutside = true) (hok : NoWaitOp.keepsVsync s (.other op))
    (h : s.shared.step P op = some t) :
    t.queue.needEpoll = true ∨ (t.queue.needEpoll = s.shared.queue.needEpoll ∧
      t.queue.sumOfPendingVsync = s.shared.queue.sumOfPendingVsync ∧
      t.queue.allVsync ≤ s.shared.queue.allVsync) := by
  have lists : ∀ {q : EventQueueBase} {filter : InnerEvent → Bool}, OnlyLists s.shared.queue q →
      Discards filter s.shared.queue q → q.needEpoll = s.shared.queue.needEpoll ∧
        q.sumOfPendingVsync = s.shared.queue.sumOfPendingVsync ∧
        q.allVsync ≤ s.shared.queue.allVsync := by
    intro q filter ho hd
    have := allVsync_discard hd
    exact ⟨ho.sameControl.needEpoll, ho.sameControl.sum, by omega⟩
  cases step_cases h with
  | insert p now recv event priority ty option hl =>
    have hvip : ∀ e, event.map s.shared.stamp = some e → e.isVsync = true → priority = .VIP := by
      intro e he hv
      cases event with
      | none => cases he
      | some x => cases he; exact vip_of_vsyncAsVip hok hv
    rcases insert_polls (p := p) hvip with hn | ⟨hn, hsum, hall⟩
    · exact Or.inl hn
    · exact Or.inr ⟨hn, hsum, le_of_eq hall⟩
  | remove selector hl => exact Or.inr (lists (remove_onlyLists _ _) (remove_discards _ _))
  | removeOrphan p hl =>
    exact Or.inr (lists (removeOrphan_onlyLists hok) (removeOrphan_discards _ _))
  | removeAll hl => exact Or.inr (lists (removeFilter_onlyLists _ _) (removeAll_discards _))
  | flag op =>
    have hn : op.isNotification = false := by simpa [Op.fromOutside] using hop
    exact Or.inr ⟨applyFlag_needEpoll hn, (applyFlag_control hn).1,
      le_of_eq (allVsync_same (applyFlag_sameLists s.shared.queue op).sameEvents)⟩
  | expiredEvent => cases hop
  | expiredNone => cases hop
  | getEvent => cases hop
  | pass => cases hop
  | wakeUp => cases hop
  | pollReturn => cases hop
  | execute => cases hop
  | release => cases hop

/-- No thread is in a vsync task. -/
def NoWaitSys.noVsyncInHand (s : NoWaitSys) : Prop :=
  ∀ k second e, s.pc k = .executing second e → e.isVsync = false

theorem noVsyncInHand_setPc {s x : NoWaitSys} {j : Nat} {pc : NoWaitPc} (h : s.noVsyncInHand)
    (hx : ∀ k, x.pc k = s.pc k) (hpc : ∀ second e, pc = .executing second e → e.isVsync = false) :
    (x.setPc j pc).noVsyncInHand := by
  intro k second e hk
  rw [NoWaitSys.setPc_pc] at hk
  split at hk
  · exact hpc second e hk
  · rw [hx] at hk
    exact h k second e hk

/-- The vsync pick of `PickEventLocked` is shut: nothing clears `needEpoll_`, which `GetEvent` would
    do. -/
def Unpolled (s : NoWaitSys) : Prop :=
  s.shared.queue.needEpoll = true ∨
    (s.shared.queue.sumOfPendingVsync = 0 ∧ s.shared.queue.allVsync = 0 ∧ s.noVsyncInHand)

theorem unpolled_step {P : SystemParameters} {s t : NoWaitSys} {a : NoWaitOp} (h : Unpolled s)
    (hok : a.keepsVsync s) (hst : s.step P a = some t) : Unpolled t := by
  -- A step that leaves the account, and puts no vsync task into the hands of a thread.
  have keep : ∀ {q : EventQueueBase}, t.shared.queue = q →
      q.needEpoll = s.shared.queue.needEpoll →
      q.sumOfPendingVsync = s.shared.queue.sumOfPendingVsync →
      q.allVsync ≤ s.shared.queue.allVsync →
      (s.shared.queue.allVsync = 0 → s.noVsyncInHand → t.noVsyncInHand) → Unpolled t := by
    intro q hq hn hsum hall hhand
    unfold Unpolled
    rw [hq, hn, hsum]
    rcases h with h | ⟨h0, h1, h2⟩
    · exact Or.inl h
    · exact Or.inr ⟨h0, by omega, hhand h1 h2⟩
  cases no_wait_cases hst with
  | refused => exact h
  | ran k => exact keep rfl rfl rfl (le_refl _) fun _ hh =>
      noVsyncInHand_setPc hh (fun _ => rfl) (by split <;> simp)
  | started k m hpc hm =>
    refine keep rfl rfl rfl (le_refl _) fun _ hh j second e hj => ?_
    have hh' : (s.setPc k .left).noVsyncInHand :=
      noVsyncInHand_setPc hh (fun _ => rfl) (by simp)
    rw [NoWaitSys.setThread_pc] at hj
    split at hj
    · cases hj
    · exact hh' j second e hj
  | prepared k alive =>
    refine keep rfl (@applyFlag_needEpoll _ .prepare rfl)
      (@applyFlag_control _ .prepare rfl).1
      (le_of_eq (allVsync_same (applyFlag_sameLists _ .prepare).sameEvents)) fun _ hh => ?_
    exact noVsyncInHand_setPc hh (fun _ => rfl) (by split <;> simp)
  | taken k second now next e hpc he =>
    have hctl := getExpiredEventLocked_sameControl s.shared.queue now next TimePoint.max
    obtain ⟨p, l, -, htk⟩ := getExpiredEventLocked_some he
    have hall : s.shared.queue.allVsync =
        vsyncUnit e + (s.expired now next).queue.allVsync := allVsync_take htk
    have hle : (s.expired now next).queue.allVsync ≤ s.shared.queue.allVsync := by omega
    refine keep rfl hctl.needEpoll hctl.sum hle fun h0 hh => ?_
    refine noVsyncInHand_setPc hh (fun _ => rfl) fun second' e' he' => ?_
    cases he'
    unfold vsyncUnit at hall
    rw [← Bool.not_eq_true]
    intro hv
    rw [if_pos hv] at hall
    omega
  | exhausted k second now next hpc hn =>
    have hctl := getExpiredEventLocked_sameControl s.shared.queue now next TimePoint.max
    refine keep rfl hctl.needEpoll hctl.sum
      (le_of_eq (allVsync_same (getExpiredEventLocked_none hn).2.1)) fun _ hh => ?_
    exact noVsyncInHand_setPc hh (fun _ => rfl) (by split <;> simp)
  | executed k second e hpc =>
    rcases h with h | ⟨h0, h1, h2⟩
    · left
      show (s.shared.runTask e).queue.needEpoll = true
      unfold Sys.runTask
      split <;> exact h
    · have hrun : s.shared.runTask e = { s.shared with current := none } := by
        simp [Sys.runTask, h2 k second e hpc]
      right
      show (s.shared.runTask e).queue.sumOfPendingVsync = 0 ∧
        (s.shared.runTask e).queue.allVsync = 0 ∧ _
      rw [hrun]
      exact ⟨h0, h1, noVsyncInHand_setPc h2 (fun _ => rfl) (by simp)⟩
  | released k => exact keep rfl rfl rfl (le_refl _) fun _ hh =>
      noVsyncInHand_setPc hh (fun _ => rfl) (by simp)
  | checked k => exact keep rfl rfl rfl (le_refl _) fun _ hh =>
      noVsyncInHand_setPc hh (fun _ => rfl) (by simp)
  | waited k => exact keep rfl rfl rfl (le_refl _) fun _ hh =>
      noVsyncInHand_setPc hh (fun _ => rfl) (by simp)
  | ended k =>
    refine keep rfl rfl rfl (le_refl _) fun _ hh j second e hj => ?_
    rw [NoWaitSys.setThread_pc] at hj
    split at hj
    · cases hj
    · exact hh j second e hj
  | finished k => exact keep rfl rfl rfl (le_refl _) fun _ hh =>
      noVsyncInHand_setPc hh (fun _ => rfl) (by simp)
  | other op y hop hy =>
    rcases fromOutside_vsync hop hok hy with hn | ⟨hn, hsum, hall⟩
    · exact Or.inl hn
    · exact keep rfl hn hsum hall fun _ hh => hh

/-- With the vsync pick shut a call hands out what is due. -/
theorem due_of_unpolled {q : EventQueueBase} {now next : ClockTime} {u : Int} {e : InnerEvent}
    (hq : q.needEpoll = true ∨ q.sumOfPendingVsync = 0)
    (h : (q.getExpiredEventLocked now next u).event = some e) : e.handleTime ≤ now.ns := by
  rcases q.getExpiredEventLocked_cases now next u with ⟨x, hx, hr⟩ | ⟨hn, x, hx, hr⟩ | ⟨-, -, hr⟩
  · rw [hr] at h
    cases h
    obtain ⟨p, i, hrule, -⟩ := pickEventLocked_some hx
    cases hrule with
    | head _ _ hdue => exact hdue
    | barrier _ _ hdue => exact hdue
    | vsync hs hn =>
      rcases hq with hq | hq
      · rw [hn] at hq
        cases hq
      · exact absurd hq hs
  · rw [hr] at h
    cases h
    obtain ⟨p, hrule, -⟩ := pickIdle_some hx
    cases hrule with
    | idleHead _ hdue => exact hdue
    | idleBarrier _ _ hdue => exact hdue
  · rw [hr] at h
    cases h

/-- **A `NO_WAIT` runner hands out an event when its time has come, a vsync task as well.** A vsync
    task is sent with a delay of `UINT32_MAX` milliseconds and counts on the picks that `GetEvent`
    opens; here they stay shut.  In every run whose vsync tasks are sent as `VIP` and that drops none
    as an orphan, no thread takes an event before its time. -/
theorem taken_when_due (P : SystemParameters) (start : ClockTime) (deposit : Bool) {s t : NoWaitSys}
    (h : (noWaitSystem P start deposit).Reachable (fun s a => a.keepsVsync s) s) {k : Nat}
    {now next : ClockTime} (hst : s.step P (.getExpiredEvent k now next) = some t) {second : Bool}
    {e : InnerEvent} (hk : t.pc k = .executing second e) :
    e.handleTime ≤ now.ns ∧ e ∈ s.shared.queue.allEvents ∧
      s.shared.queue.allEvents.Perm (e :: t.shared.queue.allEvents) := by
  have hun : Unpolled s := by
    refine System.Reachable.invariant ?_
      (fun s a _ hi hok hst => unpolled_step (s := s) (a := a) hi hok hst) h
    exact Or.inr ⟨rfl, rfl, fun k second e he => by cases he⟩
  cases no_wait_cases hst with
  | taken _ second' _ _ x hpc hx =>
    rw [NoWaitSys.setPc_pc, if_pos rfl] at hk
    cases hk
    obtain ⟨p, l, -, htk⟩ := getExpiredEventLocked_some hx
    have hperm := allEvents_take htk
    refine ⟨due_of_unpolled ?_ hx, hperm.mem_iff.2 (List.mem_cons_self ..), hperm⟩
    exact hun.imp id And.left
  | exhausted _ second' _ _ hpc hn =>
    rw [NoWaitSys.setPc_pc, if_pos rfl] at hk
    cases second' <;> cases hk

/-- A vsync task and an event that is due. -/
theorem taken_when_due_second : ∃ (s t : NoWaitSys) (e : InnerEvent),
    (noWaitSystem {} (atMs 0) false).Reachable (fun s a => a.keepsVsync s) s ∧
      t.pc 0 = .executing false e ∧ e.isVsync = false ∧ e.handleTime ≤ (atMs 5).ns ∧
      s.shared.queue.sumOfPendingVsync = 1 := by
  obtain ⟨s, hs, hsum, hany⟩ := System.run_of_exec (noWaitSystem {} (atMs 0) false)
    (fun s a => a.keepsVsync s)
    (fun s => s.shared.queue.sumOfPendingVsync = 1 ∧
      (s.step {} (.getExpiredEvent 0 (atMs 5) (atMs 5))).any (fun t =>
        s.shared.queue.allEvents.any fun e =>
          !e.isVsync && decide (t.pc 0 = .executing false e)) = true)
    [.other (insertAt (atMs 1) (vsyncEvent (atMs 1)) .VIP),
      .other (insertAt (atMs 1) (plainEvent (atMs 2)) .LOW), .run 0, .prepare 0 true]
    (by decide +kernel)
  obtain ⟨t, hst, ht⟩ := (Option.any_eq_true _ _).1 hany
  obtain ⟨e, -, he⟩ := List.any_eq_true.1 ht
  rw [Bool.and_eq_true, Bool.not_eq_true', decide_eq_true_iff] at he
  obtain ⟨hv, hpc⟩ := he
  exact ⟨s, t, e, ⟨_, hs⟩, hpc, hv, (taken_when_due {} (atMs 0) false ⟨_, hs⟩ hst hpc).1, hsum⟩

/-! ## The threads in the loop -/

/-- A runner that is not deposited: `running_` lets one call through. -/
structure Alone (s : NoWaitSys) : Prop where
  deposit : s.deposit = false
  started : ∀ k, (s.thread k).started = false
  entered : ∀ k, s.pc k ≠ .entered
  one : ∀ j k, s.pc j ≠ .out → s.pc k ≠ .out → j = k
  running : ∀ k, s.pc k ≠ .out → s.running = true

theorem setPc_started (s : NoWaitSys) (k j : Nat) (pc : NoWaitPc) :
    ((s.setPc k pc).thread j).started = (s.thread j).started := by
  unfold NoWaitSys.setPc NoWaitSys.setThread
  by_cases h : j = k
  · subst h
    simp
  · simp [h]

theorem setThread_started (s : NoWaitSys) (k : Nat) (thread : NoWaitThread) :
    ((s.setThread k thread).thread k).started = thread.started := by
  unfold NoWaitSys.setThread
  simp only [Function.update_self]

/-- The one thread in `Run` moves. -/
theorem Alone.move {s x : NoWaitSys} {k : Nat} {pc : NoWaitPc} (h : Alone s)
    (hd : x.deposit = s.deposit) (ht : x.thread = s.thread) (hr : x.running = s.running)
    (hk : s.pc k ≠ .out) (hpc : pc ≠ .entered) : Alone (x.setPc k pc) := by
  have hx : ∀ j, x.pc j = s.pc j := fun j => by unfold NoWaitSys.pc; rw [ht]
  have was : ∀ {j : Nat}, (x.setPc k pc).pc j ≠ .out → s.pc j ≠ .out := by
    intro j hj
    rw [NoWaitSys.setPc_pc] at hj
    split at hj
    · rename_i he
      rw [he]
      exact hk
    · rwa [hx] at hj
  refine ⟨hd.trans h.deposit, fun j => ?_, fun j => ?_,
    fun i j hi hj => h.one i j (was hi) (was hj), fun j hj => hr.trans (h.running j (was hj))⟩
  · rw [setPc_started, ht]
    exact h.started j
  · rw [NoWaitSys.setPc_pc]
    split
    · exact hpc
    · rw [hx]
      exact h.entered j

theorem alone_step {P : SystemParameters} {s t : NoWaitSys} {a : NoWaitOp} (h : Alone s)
    (hst : s.step P a = some t) : Alone t := by
  have busy : ∀ {k : Nat} {pc : NoWaitPc}, s.pc k = pc → pc ≠ .out → s.pc k ≠ .out :=
    fun hk hne => by rw [hk]; exact hne
  cases no_wait_cases hst with
  | refused => exact h
  | ran k hpc hr =>
    have hout : ∀ j, s.pc j = .out := by
      intro j
      by_contra hj
      rw [h.running j hj] at hr
      cases hr
    have hnew : ∀ j, (({ s with running := true } : NoWaitSys).setPc k .preparing).pc j ≠ .out →
        j = k := by
      intro j hj
      by_contra hne
      rw [NoWaitSys.setPc_pc, if_neg hne] at hj
      exact hj (hout j)
    rw [if_neg (by rw [h.deposit]; decide)]
    refine ⟨h.deposit, fun j => ?_, fun j => ?_,
      fun i j hi hj => (hnew i hi).trans (hnew j hj).symm, fun _ _ => rfl⟩
    · rw [setPc_started]
      exact h.started j
    · rw [NoWaitSys.setPc_pc]
      split
      · decide
      · exact h.entered j
  | started k m hpc hm => exact absurd hpc (h.entered k)
  | prepared k alive hpc =>
    exact h.move rfl rfl rfl (busy hpc (by decide)) (by split <;> simp)
  | taken k second now next e hpc =>
    exact h.move rfl rfl rfl (busy hpc (by simp)) (by simp)
  | exhausted k second now next hpc =>
    exact h.move rfl rfl rfl (busy hpc (by simp)) (by split <;> simp)
  | executed k second e hpc => exact h.move rfl rfl rfl (busy hpc (by simp)) (by simp)
  | released k second e hpc => exact h.move rfl rfl rfl (busy hpc (by simp)) (by simp)
  | checked k hpc => exact h.move rfl rfl rfl (busy hpc (by decide)) (by decide)
  | waited k hpc => exact h.move rfl rfl rfl (busy hpc (by decide)) (by simp)
  | ended k hpc hs =>
    rw [h.started k] at hs
    cases hs
  | finished k hpc hs =>
    have hout : ∀ j, (({ s with running := false } : NoWaitSys).setPc k .out).pc j = .out := by
      intro j
      rw [NoWaitSys.setPc_pc]
      split
      · rfl
      · rename_i hne
        by_contra hj
        exact hne (h.one j k hj (busy hpc (by decide)))
    refine ⟨h.deposit, fun j => ?_, fun j => ?_, fun i j hi => absurd (hout i) hi,
      fun j hj => absurd (hout j) hj⟩
    · rw [setPc_started]
      exact h.started j
    · rw [hout j]
      decide
  | other op y hop hy => exact ⟨h.deposit, h.started, h.entered, h.one, h.running⟩

/-- The threads `1`, ..., `n` of a deposited runner are in an event each, and thread `n + 1` is the
    next that thread `0` starts. -/
structure Stage (n : Nat) (caller next : NoWaitPc) (running : Bool) (s : NoWaitSys) : Prop where
  deposit : s.deposit = true
  running : s.running = running
  caller : s.pc 0 = caller
  unstarted : (s.thread 0).started = false
  next : s.pc (n + 1) = next
  free : ∀ k, n + 1 < k → s.pc k = .out
  executing : ∀ k, 1 ≤ k → k ≤ n →
    (s.thread k).started = true ∧ ∃ e, s.pc k = .executing false e

section Stages

variable {n : Nat} {caller next : NoWaitPc} {running : Bool} {s x : NoWaitSys}

theorem Stage.congr {running' : Bool} (h : Stage n caller next running s)
    (hd : x.deposit = s.deposit) (hr : x.running = running') (ht : x.thread = s.thread) :
    Stage n caller next running' x := by
  have hx : ∀ k, x.pc k = s.pc k := fun k => by unfold NoWaitSys.pc; rw [ht]
  refine ⟨hd.trans h.deposit, hr, (hx 0).trans h.caller, ?_, (hx _).trans h.next,
    fun k hk => (hx k).trans (h.free k hk), fun k h1 hk => ?_⟩
  · rw [ht]
    exact h.unstarted
  · rw [hx, ht]
    exact h.executing k h1 hk

theorem Stage.setCaller (h : Stage n caller next running s) (pc : NoWaitPc) :
    Stage n pc next running (s.setPc 0 pc) := by
  have hx : ∀ {k}, k ≠ 0 → (s.setPc 0 pc).pc k = s.pc k := fun hk => by
    rw [NoWaitSys.setPc_pc, if_neg hk]
  refine ⟨h.deposit, h.running, ?_, ?_, (hx (Nat.succ_ne_zero n)).trans h.next, fun k hk => ?_,
    fun k h1 hk => ?_⟩
  · rw [NoWaitSys.setPc_pc, if_pos rfl]
  · rw [setPc_started]
    exact h.unstarted
  · exact (hx (by omega)).trans (h.free k hk)
  · rw [hx (by omega), setPc_started]
    exact h.executing k h1 hk

theorem Stage.setNext (h : Stage n caller next running s) (thread : NoWaitThread) :
    Stage n caller thread.pc running (s.setThread (n + 1) thread) := by
  have hx : ∀ {k}, k ≠ n + 1 → (s.setThread (n + 1) thread).pc k = s.pc k := fun hk => by
    rw [NoWaitSys.setThread_pc, if_neg hk]
  refine ⟨h.deposit, h.running, (hx (Nat.succ_ne_zero n).symm).trans h.caller, ?_, ?_,
    fun k hk => ?_, fun k h1 hk => ?_⟩
  · show (Function.update s.thread (n + 1) thread 0).started = false
    rw [Function.update_of_ne (Nat.succ_ne_zero n).symm]
    exact h.unstarted
  · rw [NoWaitSys.setThread_pc, if_pos rfl]
  · exact (hx (by omega)).trans (h.free k hk)
  · have hthread : (s.setThread (n + 1) thread).thread k = s.thread k :=
      Function.update_of_ne (by omega) ..
    rw [hx (by omega), hthread]
    exact h.executing k h1 hk

/-- The next thread is in an event as well. -/
theorem Stage.advance {e : InnerEvent} (h : Stage n .out (.executing false e) running s)
    (hs : (s.thread (n + 1)).started = true) : Stage (n + 1) .out .out running s := by
  refine ⟨h.deposit, h.running, h.caller, h.unstarted, h.free _ (by omega),
    fun k hk => h.free k (by omega), fun k h1 hk => ?_⟩
  rcases Nat.lt_or_ge n k with hlt | hge
  · obtain rfl : k = n + 1 := by omega
    exact ⟨hs, e, h.next⟩
  · exact h.executing k h1 hge

/-- Thread `0` calls `Run`, which starts the next thread. -/
theorem stage_started (P : SystemParameters) (h : Stage n .out .out false s) :
    ∃ t, Stage n .out (.fetching false) false t ∧ (t.thread (n + 1)).started = true ∧
      SameLists s.shared.queue t.shared.queue ∧
      t.shared.queue.usable = s.shared.queue.usable ∧ t.shared.lockFree = s.shared.lockFree ∧
      ∀ start, (noWaitSystem P start true).Run (fun _ a => a.namedPriority = true) s
        [.run 0, .startRunningForNoWait 0 (n + 1), .finish 0, .prepare (n + 1) true] t := by
  -- `Run`, up to the exchange.
  have h1 : s.step P (.run 0) =
      some (({ s with running := true } : NoWaitSys).setPc 0 .entered) := by
    simp [NoWaitSys.step, h.caller, h.running, h.deposit]
  have g1 := (h.congr (x := { s with running := true }) rfl rfl rfl).setCaller .entered
  generalize hs1 : ({ s with running := true } : NoWaitSys).setPc 0 .entered = s1 at h1 g1
  have q1 : s1.shared = s.shared := by rw [← hs1]; rfl
  -- The new thread.
  have h2 : s1.step P (.startRunningForNoWait 0 (n + 1)) =
      some ((s1.setPc 0 .left).setThread (n + 1) { pc := .preparing, started := true }) :=
    if_pos ⟨g1.caller, g1.next⟩
  have g2 := (g1.setCaller .left).setNext { pc := .preparing, started := true }
  have e2 : (((s1.setPc 0 .left).setThread (n + 1) { pc := .preparing, started := true }).thread
      (n + 1)).started = true := setThread_started _ _ _
  generalize hs2 : (s1.setPc 0 .left).setThread (n + 1) { pc := .preparing, started := true } = s2
    at h2 g2 e2
  have q2 : s2.shared = s1.shared := by rw [← hs2]; rfl
  -- The end of `Run`.
  have h3 : s2.step P (.finish 0) =
      some (({ s2 with running := false } : NoWaitSys).setPc 0 .out) := by
    simp [NoWaitSys.step, g2.caller, g2.unstarted]
  have g3 := (g2.congr (x := { s2 with running := false }) rfl rfl rfl).setCaller .out
  generalize hs3 : ({ s2 with running := false } : NoWaitSys).setPc 0 .out = s3 at h3 g3
  have q3 : s3.shared = s2.shared := by rw [← hs3]; rfl
  -- The new thread comes to its loop.
  have h4 : s3.step P (.prepare (n + 1) true) =
      some (({ s3 with shared := { s3.shared with queue := s3.shared.queue.prepare } } :
        NoWaitSys).setPc (n + 1) (.fetching false)) := if_pos g3.next
  have g4 := (g3.congr (x :=
    { s3 with shared := { s3.shared with queue := s3.shared.queue.prepare } }) rfl g3.running
    rfl).setNext
    { s3.thread (n + 1) with pc := .fetching false }
  have q4 : s3.shared = s.shared := (q3.trans q2).trans q1
  have e3 : (s3.thread (n + 1)).started = true := by
    rw [← hs3, setPc_started]
    exact e2
  refine ⟨_, g4, ?_, ?_, ?_, ?_, fun start =>
    .cons rfl h1 (.cons rfl h2 (.cons rfl h3 (.cons rfl h4 (.nil _))))⟩
  · exact (setThread_started _ _ _).trans e3
  · rw [← q4]
    exact applyFlag_sameLists s3.shared.queue .prepare
  · show s3.shared.queue.prepare.usable = _
    rw [q4]
    unfold prepare
    split <;> rfl
  · show s3.shared.lockFree = _
    rw [q4]

end Stages

/-- `Insert` on a usable queue puts a due event into `VIP`. -/
theorem insertAt_due {P : SystemParameters} {s : Sys} (hu : s.queue.usable = true)
    (hl : s.lockFree = true) :
    ∃ y, s.step P (insertAt (atMs 1) (plainEvent (atMs 1)) .VIP) = some y ∧
      y.queue.usable = true ∧ y.lockFree = true ∧
      ∃ e ∈ y.queue.events (some 0), e.handleTime ≤ (atMs 1).ns := by
  refine ⟨_, if_pos hl, ?_, hl, ?_⟩
  · show (s.queue.insert _ _ _ _ _ _ _).queue.usable = true
    rw [insert_queue_eq]
    exact hu
  · obtain ⟨-, hq, -⟩ := @insert_slot oneRunner (atMs 1) (atMs 1) s.queue
      (s.stamp (plainEvent (atMs 1))) .VIP .AT_END .NO_BARRIER (some 0) hu rfl
    refine ⟨preparedEvent oneRunner s.queue (s.stamp (plainEvent (atMs 1))) .VIP .NO_BARRIER,
      ?_, ?_⟩
    · show _ ∈ (s.queue.insert _ _ _ _ _ _ _).queue.events (some 0)
      rw [Option.map_some, hq, mem_insertEventsLocked]
      exact Or.inl rfl
    · unfold preparedEvent
      rw [markBarrierTaskIfNeed_eq]
      exact le_refl _

/-- **One more thread.** -/
theorem busy_round (P : SystemParameters) {start : ClockTime} {n : Nat} {s : NoWaitSys}
    (h : Stage n .out .out false s) (hu : s.shared.queue.usable = true)
    (hl : s.shared.lockFree = true)
    (hr : (noWaitSystem P start true).Reachable (fun _ a => a.namedPriority = true) s) :
    ∃ t, Stage (n + 1) .out .out false t ∧ t.shared.queue.usable = true ∧
      t.shared.lockFree = true ∧
      (noWaitSystem P start true).Reachable (fun _ a => a.namedPriority = true) t := by
  obtain ⟨y, hy, hyu, hyl, e, he, hdue⟩ := insertAt_due (P := P) hu hl
  have hins : (noWaitSystem P start true).step s
      (.other (insertAt (atMs 1) (plainEvent (atMs 1)) .VIP)) = some { s with shared := y } := by
    show s.step P (.other (insertAt (atMs 1) (plainEvent (atMs 1)) .VIP)) = _
    simp only [NoWaitSys.step, hy]
    rfl
  have hy1 : Stage n .out .out false ({ s with shared := y } : NoWaitSys) :=
    h.congr rfl h.running rfl
  obtain ⟨u, hstage, hstarted, hlists, husable, hlock, hrun⟩ := stage_started P hy1
  have hreach := (hr.step rfl hins).run (hrun start)
  have hplain := plain_run hreach
  have hsome : (u.expired (atMs 1) (atMs 1)).event ≠ none := by
    intro hn
    have hlate := none_due_of_exhausted (fun i => hplain.sorted (some i)) hplain.barrier hn 0 e
    rw [(getExpiredEventLocked_none hn).2.1 (some 0), hlists.events (some 0)] at hlate
    have := hlate he
    omega
  obtain ⟨x, hx⟩ := Option.ne_none_iff_exists'.1 hsome
  have htake : (noWaitSystem P start true).step u
      (.getExpiredEvent (n + 1) (atMs 1) (atMs 1)) =
      some (({ u with shared := u.shared.take x (u.expired (atMs 1) (atMs 1)).queue } :
        NoWaitSys).setPc (n + 1) (.executing false x)) := by
    show u.step P (.getExpiredEvent (n + 1) (atMs 1) (atMs 1)) = _
    simp only [NoWaitSys.step, hstage.next, hx]
  have hnext := ((hstage.congr (x :=
    { u with shared := u.shared.take x (u.expired (atMs 1) (atMs 1)).queue }) rfl hstage.running
    rfl).setNext { u.thread (n + 1) with pc := .executing false x }).advance
    ((setThread_started _ _ _).trans hstarted)
  refine ⟨_, hnext, ?_, hlock.trans hyl, hreach.step rfl htake⟩
  have hctl := getExpiredEventLocked_sameControl u.shared.queue (atMs 1) (atMs 1) TimePoint.max
  show (u.expired (atMs 1) (atMs 1)).queue.usable = true
  rw [show (u.expired (atMs 1) (atMs 1)).queue.usable = u.shared.queue.usable by
    unfold NoWaitSys.expired; rw [hctl]]
  exact husable.trans hyu

/-- **`running_` keeps other threads out only if the runner is not deposited.** Then at most one
    thread is in `Run`, and `running_` is true for as long.  Of a deposited runner any number of
    threads can be in an event at once, each started by a call of `Run`, while no thread is in a call
    of `Run` and `running_` is false. -/
theorem loops_overlap (P : SystemParameters) (start : ClockTime) :
    (∀ s, (noWaitSystem P start false).Reachable System.always s →
      ∀ j k, s.pc j ≠ .out → s.pc k ≠ .out → j = k ∧ s.running = true) ∧
    (∀ n, ∃ s, (noWaitSystem P start true).Reachable System.always s ∧ s.running = false ∧
      (∀ k, s.pc k ≠ .out → (s.thread k).started = true) ∧
      ∀ k, 1 ≤ k → k ≤ n → (s.thread k).started = true ∧ ∃ e, s.pc k = .executing false e) := by
  constructor
  · intro s hs j k hj hk
    have h : Alone s := by
      refine System.Reachable.invariant ?_
        (fun s a _ hi _ hst => alone_step (s := s) (a := a) hi hst) hs
      exact ⟨rfl, fun _ => rfl, (fun _ h => by cases h), fun j _ hj => absurd rfl hj,
        fun k hk => absurd rfl hk⟩
    exact ⟨h.one j k hj hk, h.running j hj⟩
  · intro n
    have hbusy : ∃ s, Stage n .out .out false s ∧ s.shared.queue.usable = true ∧
        s.shared.lockFree = true ∧
        (noWaitSystem P start true).Reachable (fun _ a => a.namedPriority = true) s := by
      induction n with
      | zero =>
        exact ⟨(noWaitSystem P start true).init, ⟨rfl, rfl, rfl, rfl, rfl, fun _ _ => rfl,
          fun k h1 hk => absurd hk (by omega)⟩, rfl, rfl, .init⟩
      | succ n ih =>
        obtain ⟨s, hs, hu, hl, hr⟩ := ih
        exact busy_round P hs hu hl hr
    obtain ⟨s, hs, -, -, hr⟩ := hbusy
    refine ⟨s, hr.mono fun _ _ _ => trivial, hs.running, fun k hk => ?_, hs.executing⟩
    rcases Nat.eq_zero_or_pos k with rfl | hpos
    · exact absurd hs.caller hk
    · rcases Nat.lt_trichotomy k (n + 1) with hlt | rfl | hgt
      · exact (hs.executing k hpos (by omega)).1
      · exact absurd hs.next hk
      · exact absurd (hs.free k hgt) hk

/-- Two threads of a deposited runner, and one of a runner that is not. -/
theorem loops_overlap_two :
    (∃ s e e', (noWaitSystem {} (atMs 0) true).Reachable System.always s ∧ s.running = false ∧
      s.pc 1 = .executing false e ∧ s.pc 2 = .executing false e') ∧
    ∃ s, (noWaitSystem {} (atMs 0) false).Reachable System.always s ∧ s.pc 0 = .preparing ∧
      ∀ k, s.pc k ≠ .out → k = 0 := by
  obtain ⟨halone, hmany⟩ := loops_overlap {} (atMs 0)
  constructor
  · obtain ⟨s, hs, hr, -, hk⟩ := hmany 2
    obtain ⟨-, e, he⟩ := hk 1 (by decide) (by decide)
    obtain ⟨-, e', he'⟩ := hk 2 (by decide) (by decide)
    exact ⟨s, e, e', hs, hr, he, he'⟩
  · obtain ⟨s, hs, hpc⟩ := System.run_of_exec (noWaitSystem {} (atMs 0) false) System.always
      (fun s => s.pc 0 = .preparing) [.run 0] (by decide)
    exact ⟨s, ⟨_, hs⟩, hpc, fun k hk => (halone s ⟨_, hs⟩ k 0 hk (by rw [hpc]; decide)).1⟩

end AppExecFwk
