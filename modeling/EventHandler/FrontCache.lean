import EventHandler.QueueSystem
import EventHandler.Order
import EventHandler.Ready

/-!
# The cached head time

`frontEventHandleTime` of a sub-queue should be the handle time of its first event.  Every operation
that changes a list refreshes it, except one: the vsync pick of `GetEvent` itself.

* `FrontRight` — all four cached head times are right.
* `StaleTake` — that pick is made, and the first handle time of `VIP` changes with it.
* `pass_frontRight_iff` — a turn of `GetEvent` keeps the cache right iff it makes no stale take.
* `frontCache_exact` — without stale takes the cache is right in every reachable state; a stale take
  makes it wrong.
* `frontCache_wrong` — one vsync task, inserted and handed out, leaves the cache wrong.
-/

set_option autoImplicit false

namespace AppExecFwk

open Transition EventQueueBase

variable {P : SystemParameters} {s t : Sys}

/-- The cached head times are those of the lists. -/
def FrontRight (q : EventQueueBase) : Prop :=
  ∀ i, (q.subEventQueues i).frontEventHandleTime = frontHandleTime (q.subEventQueues i).queue

instance (q : EventQueueBase) : Decidable (FrontRight q) :=
  inferInstanceAs (Decidable (∀ _, _))

/-- An event of a sub-queue carries that sub-queue's priority. -/
def PriorityHome (q : EventQueueBase) : Prop :=
  ∀ i, ∀ e ∈ q.events (some i), e.priority = i.val

theorem priorityHome_step {a : Op} (hs : PriorityHome s.queue) (h : ListEffect s a t) :
    PriorityHome t.queue := by
  intro i e he
  rcases h.mem he with he | ⟨-, -, hp⟩
  · exact hs i e he
  · exact hp i rfl

/-! ## The operations that refresh -/

theorem FrontRight.of_sameLists {q q' : EventQueueBase} (hq : FrontRight q) (h : SameLists q q') :
    FrontRight q' := by
  intro i
  rw [h.sub]
  exact hq i

theorem FrontRight.of_pickFrame {q q' : EventQueueBase} (hq : FrontRight q) (h : PickFrame q q')
    (hs : SameEvents q q') : FrontRight q' := by
  intro i
  have hi := hs (some i)
  rw [events_some, events_some] at hi
  rw [h.front i, hi]
  exact hq i

theorem insert_frontRight {q : EventQueueBase} (hq : FrontRight q) (p : Process)
    (now recv : ClockTime) (event : Option InnerEvent) (priority : Priority) (ty : EventInsertType)
    (option : VsyncBarrierOption) :
    FrontRight (q.insert p now recv event priority ty option).queue := by
  have hx := insert_cases p now recv q event priority ty option
  generalize q.insert p now recv event priority ty option = o at hx
  cases hx with
  | rejected _ _ => exact hq
  | idle _ _ _ => exact hq
  | unnamed _ _ _ _ => exact hq
  | sub e i _ _ q' hq' =>
    have hs := sameLists_dispatchIf e.isVsync recv q
    rw [← hq'] at hs
    intro k
    by_cases hk : k = i
    · subst hk
      simp
    · simp only [setSub_ne q' _ hk]
      exact hq.of_sameLists hs k

theorem dropMatching_frontRight (filter : InnerEvent → Bool) (q : EventQueueBase) :
    FrontRight (q.dropMatching filter) := fun _ => rfl

theorem removeFilter_frontRight {q : EventQueueBase} (hq : FrontRight q)
    (filter : InnerEvent → Bool) : FrontRight (q.removeFilter filter) := by
  unfold removeFilter
  split
  · exact dropMatching_frontRight filter q
  · exact hq

theorem removeOwned_frontRight {q : EventQueueBase} (hq : FrontRight q)
    (filter : EventHandler → InnerEvent → Bool) (owner : Option EventHandler) :
    FrontRight (q.removeOwned filter owner) := by
  cases owner with
  | none => exact hq
  | some owner => exact removeFilter_frontRight hq (filter owner)

theorem remove_frontRight {q : EventQueueBase} (hq : FrontRight q) (selector : Selector) :
    FrontRight (q.remove selector) := by
  cases selector with
  | owner o => exact removeOwned_frontRight hq ownerFilter o
  | id o i => exact removeOwned_frontRight hq (idFilter i) o
  | param o i x => exact removeOwned_frontRight hq (paramFilter i x) o
  | name o n =>
    rw [show q.remove (.name o n) = (q.removeByName o n).1 from rfl]
    unfold removeByName
    split
    · exact hq
    · split
      · exact hq
      · exact removeOwned_frontRight hq (nameFilter n) _

theorem removeOrphan_frontRight {q : EventQueueBase} (hq : FrontRight q) (p : Process) :
    FrontRight (q.removeOrphan p) := by
  unfold removeOrphan
  split
  · exact dropMatching_frontRight _ _
  · exact hq

/-- `GetExpiredEventLocked` refreshes the cache of the sub-queue it takes from. -/
theorem expired_frontRight {q : EventQueueBase} (hq : FrontRight q) (hp : PriorityHome q)
    (now next : ClockTime) (u : Int) : FrontRight (q.getExpiredEventLocked now next u).queue := by
  have hf := q.pickEventLocked_frame now.ns TimePoint.max
  have idle : (q.pickEventLocked now.ns TimePoint.max).event = none →
      FrontRight ((q.afterPick now).enterIdle now) := by
    intro hn
    have h : FrontRight (q.afterPick now) := fun i =>
      hq.of_pickFrame hf (pickEventLocked_none hn).1 i
    exact h.of_sameLists (enterIdle_sameLists _ now)
  rcases q.getExpiredEventLocked_cases now next u with ⟨e, he, hr⟩ | ⟨hn, e, -, hr⟩ | ⟨hn, -, hr⟩
  · obtain ⟨f, k, -, htk⟩ := pickEventLocked_some he
    have hprio : priorityToIndex e.priority = some k := by
      rw [hp k e htk.mem]
      exact priorityToIndex_val k
    rw [hr]
    intro i
    simp only [refreshFront_sub, hprio, Option.some.injEq]
    by_cases hik : k = i
    · subst hik
      rw [if_pos rfl]
    · rw [if_neg hik]
      have hother := htk.other (some i) (fun h => hik (Option.some.inj h).symm)
      rw [events_some, events_some] at hother
      have hsub : (q.afterPick now).subEventQueues =
        (q.pickEventLocked now.ns TimePoint.max).queue.subEventQueues := rfl
      rw [hsub, hf.front i, hother]
      exact hq i
  · rw [hr]
    intro i
    simp only
    rw [pickIdle_eq]
    exact idle hn i
  · rw [hr]
    exact idle hn

/-! ## The pick that does not -/

/-- Nothing is ready, a vsync task is counted as pending, and taking the first one out of `VIP`
    changes the first handle time. -/
structure StaleTake (q : EventQueueBase) (now : ClockTime) : Prop where
  nothing : q.NothingReady now
  pending : q.sumOfPendingVsync ≠ 0
  front : frontHandleTime ((q.subEventQueues 0).queue.eraseP InnerEvent.isVsync) ≠
    frontHandleTime (q.subEventQueues 0).queue

/-- The operation is a turn of `GetEvent` that makes a stale take. -/
def Sys.takesStale (P : SystemParameters) (s : Sys) : Op → Prop
  | .pass clk => s.queue.finished = false ∧
      StaleTake (s.queue.checkBarrierMode P clk.check clk.enter) clk.now
  | _ => False

theorem pickFirstVsync_frontRight_iff {q : EventQueueBase} (hq : FrontRight q) :
    FrontRight q.pickFirstVsyncEventLocked.2 ↔
      frontHandleTime ((q.subEventQueues 0).queue.eraseP InnerEvent.isVsync) =
        frontHandleTime (q.subEventQueues 0).queue := by
  have hzero : (q.pickFirstVsyncEventLocked.2.subEventQueues 0).queue =
      (q.subEventQueues 0).queue.eraseP InnerEvent.isVsync := by
    simp [pickFirstVsyncEventLocked, setQueue, popFirst]
  have hfront := (pickFirstVsync_frame q).front
  constructor
  · intro h
    rw [← hzero, ← h 0, hfront 0]
    exact hq 0
  · intro h i
    rw [hfront i]
    by_cases hi : i = 0
    · subst hi
      rw [hzero, h]
      exact hq 0
    · have hqi : (q.pickFirstVsyncEventLocked.2.subEventQueues i).queue =
          (q.subEventQueues i).queue := by
        simp [pickFirstVsyncEventLocked, setQueue, setSub_ne q _ hi]
      rw [hqi]
      exact hq i

/-- **A turn of `GetEvent` keeps the cache right iff it makes no stale take.** -/
theorem pass_frontRight_iff {q : EventQueueBase} {clk : PassClock} (hq : FrontRight q)
    (hp : PriorityHome q) (hs : ∀ i, SortedByHandleTime (q.events (some i))) :
    FrontRight (q.getEventPass P clk).queue ↔
      ¬ (q.finished = false ∧ StaleTake (q.checkBarrierMode P clk.check clk.enter) clk.now) := by
  have hcl := q.sameLists_checkBarrierMode P clk.check clk.enter
  have hready : (q.expired P clk).event = none ↔
      (q.checkBarrierMode P clk.check clk.enter).NothingReady clk.now := by
    refine expired_none_iff fun i => ?_
    rw [hcl.events (some i)]
    exact hs i
  have hexp : FrontRight (q.expired P clk).queue := by
    refine expired_frontRight (hq.of_sameLists hcl) (fun i e he => ?_) clk.now clk.next TimePoint.max
    rw [hcl.events (some i)] at he
    exact hp i e he
  have hsum := q.checkBarrierMode_sum P clk.check clk.enter
  have hvip : (q.expired P clk).event = none → ((q.expired P clk).queue.subEventQueues 0).queue =
      ((q.checkBarrierMode P clk.check clk.enter).subEventQueues 0).queue := fun hn =>
    (getExpiredEventLocked_none hn).2.1 (some 0)
  have hx := q.getEventPass_cases P clk
  generalize q.getEventPass P clk = o at hx
  cases hx with
  | finished hf =>
    apply iff_of_true hq
    rw [hf]
    exact fun h => by cases h.1
  | expired e hf he =>
    apply iff_of_true hexp
    rintro ⟨-, hstale⟩
    rw [hready.2 hstale.nothing] at he
    cases he
  | lastVsync e hf hn hsum' he =>
    rw [pickFirstVsync_frontRight_iff hexp, hvip hn]
    constructor
    · rintro heq ⟨-, hstale⟩
      exact hstale.front heq
    · intro h
      by_cases heq : frontHandleTime (((q.checkBarrierMode P clk.check
          clk.enter).subEventQueues 0).queue.eraseP InnerEvent.isVsync) =
          frontHandleTime ((q.checkBarrierMode P clk.check clk.enter).subEventQueues 0).queue
      · exact heq
      · refine absurd ⟨hf, hready.1 hn, ?_, heq⟩ h
        rw [hsum, ← q.expired_sum P clk]
        exact hsum'
  | reset hf hn hsum' he =>
    refine iff_of_true ?_ ?_
    · have h := hexp.of_pickFrame (pickFirstVsync_frame _) (pickFirstVsync_none_same he)
      exact h.of_sameLists (resetPending_sameLists _)
    · rintro ⟨-, hstale⟩
      have hnone := pickFirstVsync_none he
      rw [events_some, hvip hn] at hnone
      refine hstale.front (congrArg frontHandleTime (List.eraseP_of_forall_not fun e hm => ?_))
      rw [hnone e hm]
      decide
  | wait hf hn hsum' =>
    apply iff_of_true (hexp.of_sameLists (beforeWaiting_sameLists _ _ _))
    rintro ⟨-, hstale⟩
    rw [q.expired_sum P clk, ← hsum] at hsum'
    exact hstale.pending hsum'

/-- A step keeps the cache right iff it is no stale take. -/
theorem step_frontRight_iff {a : Op} (hq : FrontRight s.queue) (hp : PriorityHome s.queue)
    (hs : SortedLists s) (h : s.step P a = some t) :
    FrontRight t.queue ↔ ¬ s.takesStale P a := by
  cases step_cases h with
  | pass clk n hpc =>
    rw [afterPass_queue]
    exact pass_frontRight_iff hq hp (fun i => hs (some i))
  | insert p now recv event priority ty option _ =>
    exact iff_of_true (insert_frontRight hq p now recv _ priority ty option) id
  | remove selector _ => exact iff_of_true (remove_frontRight hq selector) id
  | removeOrphan p _ => exact iff_of_true (removeOrphan_frontRight hq p) id
  | removeAll _ => exact iff_of_true (removeFilter_frontRight hq _) id
  | expiredEvent now next e _ _ => exact iff_of_true (expired_frontRight hq hp now next _) id
  | expiredNone now next _ _ => exact iff_of_true (expired_frontRight hq hp now next _) id
  | getEvent _ => exact iff_of_true hq id
  | wakeUp d _ => exact iff_of_true (hq.of_sameLists (afterWait_sameLists _)) id
  | pollReturn e need _ => exact iff_of_true (hq.of_sameLists (afterPoll_sameLists _ _)) id
  | execute e _ => exact iff_of_true (hq.of_sameLists (runTask_sameLists s e)) id
  | release e _ => exact iff_of_true hq id
  | flag op => exact iff_of_true (hq.of_sameLists (applyFlag_sameLists _ op)) id

/-- **In every run without stale takes the cached head times are right in every state reached**, and
    there a step makes them wrong exactly when it is a stale take. -/
theorem frontCache_exact (P : SystemParameters) (start : ClockTime) {s : Sys}
    (h : (queueSystem P start).Reachable (fun s a => ¬ s.takesStale P a) s) :
    FrontRight s.queue ∧
      ∀ a t, s.step P a = some t → (FrontRight t.queue ↔ ¬ s.takesStale P a) := by
  have hinv : FrontRight s.queue ∧ PriorityHome s.queue ∧ SortedLists s := by
    refine h.invariant (I := fun s => FrontRight s.queue ∧ PriorityHome s.queue ∧ SortedLists s)
      ?_ ?_
    · refine ⟨fun _ => rfl, fun i e he => ?_, fun k => ?_⟩
      · cases he
      · cases k <;> exact List.Pairwise.nil
    · rintro s a t ⟨hq, hp, hs⟩ hok hst
      have he := step_listEffect hst
      exact ⟨(step_frontRight_iff hq hp hs hst).2 hok, priorityHome_step hp he, sorted_step hs he⟩
  exact ⟨hinv.1, fun a t hst => step_frontRight_iff hinv.1 hinv.2.1 hinv.2.2 hst⟩

/-- A vsync task is inserted and `GetEvent` hands it out. -/
def vsyncHandedOut : List Op :=
  [insertAt (atMs 1) (vsyncEvent (atMs 1)) .VIP, .flag .prepare, .getEvent, passAt (atMs 2)]

/-- The cache is wrong after it. -/
theorem frontCache_wrong : ¬ ∀ s, (defaultModeLoop {} (atMs 0)).Reachable System.always s →
    s.lockFree = true → FrontRight s.queue := by
  intro h
  obtain ⟨s, hs, hp⟩ := System.run_of_exec (defaultModeLoop {} (atMs 0)) System.always
    (fun s => s.lockFree = true ∧ ¬ FrontRight s.queue) vsyncHandedOut (by decide)
  exact hp.2 (h s ⟨_, hs⟩ hp.1)

/-- Two events come and one goes: the cache holds the time of the other. -/
theorem frontCache_exact_run : ∃ s : Sys, s.returned = [0] ∧
    (s.queue.subEventQueues 0).frontEventHandleTime = 5000000 ∧ FrontRight s.queue := by
  obtain ⟨s, hs, hp⟩ := System.run_of_exec (queueSystem {} (atMs 0))
    (fun _ a => (match a with | .pass _ => false | _ => true) = true)
    (fun s => s.returned = [0] ∧ (s.queue.subEventQueues 0).frontEventHandleTime = 5000000)
    [insertAt (atMs 1) (plainEvent (atMs 1)) .VIP, insertAt (atMs 2) (plainEvent (atMs 5)) .VIP,
      .getExpiredEvent (atMs 3) (atMs 3)] (by decide)
  refine ⟨s, hp.1, hp.2, (frontCache_exact {} (atMs 0) ⟨_, hs.mono fun s a h => ?_⟩).1⟩
  cases a with
  | pass clk => cases h
  | _ => exact id

end AppExecFwk
