import Mathlib
import EventHandler.AniManager

/-!
# One worker, one task at a time

The worker threads of the ANI listeners.

* `OneWorker`, `Served` — at most one thread is inside the loop of `WorkTheadFunction`, and a task in
  the queue has a thread that will pop it.  Between the push of a task and the test of `taskRunning_`
  in the same round of `AniDoCallback` that thread may be the one which the round is about to start.
* `keepsWorker` — the steps after which `taskRunning_` still says whether a thread is in the loop.
* `solo_worker` — in every run of such steps both properties hold.
* `takesTurn` — the steps in which a thread waits for the task it has sent, although `g_taskRunning`
  was set by an earlier task and never reset.
* `sent_in_turn` — in every run of such steps of a single worker, a task is sent only when the work
  functions of all earlier ones have finished.
-/

set_option autoImplicit false

namespace AppExecFwk

open Transition

namespace WorkerPhase

/-- Inside the loop of `WorkTheadFunction`. -/
def inLoop : WorkerPhase → Bool
  | .absent => false
  | .starting => false
  | .left => false
  | _ => true

/-- Not at its end, and not blocked in `PopTaskData` without a notification. -/
def serves : WorkerPhase → Bool
  | .absent => false
  | .left => false
  | .waiting notified => notified
  | _ => true

/-- Not waiting for a task it has sent, and not at its end. -/
def settled : WorkerPhase → Bool
  | .sent => false
  | .awaiting => false
  | .left => false
  | _ => true

end WorkerPhase

namespace AniManager

variable {s t : AniManager}

def OneWorker (s : AniManager) : Prop :=
  ∀ v w, (s.worker v).inLoop = true → (s.worker w).inLoop = true → v = w

def Served (s : AniManager) : Prop :=
  s.taskData ≠ [] →
    (s.taskRunning = false ∧ s.pushed = true) ∨
      (s.taskRunning = true ∧ ∃ w, (s.worker w).serves = true)

/-- No removal leaves the container empty while a worker runs, and no worker fails. -/
def keepsWorker (s : AniManager) : AniOp → Bool
  | .deleteCallbackInfoByEventId id =>
    !s.taskRunning || !(s.deleteCallbackInfoByEventId id).aniAsyncCallbackContainer.isEmpty
  | .attach _ attached => attached
  | .newFailed _ => false
  | _ => true

/-- `taskRunning_` is true exactly when a thread runs, and that thread is the only one. -/
structure Solo (s : AniManager) : Prop where
  idle : s.taskRunning = false → s.threads = 0 ∧ (s.taskData = [] ∨ s.pushed = true)
  runs : s.taskRunning = true → s.threads = 1 ∧ s.worker 0 ≠ .absent ∧ s.worker 0 ≠ .left
  absent : ∀ w, s.threads ≤ w → s.worker w = .absent
  blocked : ∀ w notified, s.worker w = .waiting notified →
    s.needNotify = true ∧ (notified = false → s.taskData = [])

theorem Solo.thread (h : Solo s) {w : Nat} (hw : s.worker w ≠ .absent) :
    w = 0 ∧ s.taskRunning = true := by
  have hlt : w < s.threads := by
    by_contra hge
    exact hw (h.absent w (by omega))
  cases hr : s.taskRunning with
  | false =>
    have := (h.idle hr).1
    omega
  | true =>
    have := (h.runs hr).1
    exact ⟨by omega, rfl⟩

theorem Solo.oneWorker (h : Solo s) : OneWorker s := by
  have hpresent : ∀ w, (s.worker w).inLoop = true → s.worker w ≠ .absent := by
    intro w hw he
    rw [he] at hw
    cases hw
  intro v w hv hw
  rw [(h.thread (hpresent v hv)).1, (h.thread (hpresent w hw)).1]

theorem Solo.served (h : Solo s) : Served s := by
  intro hne
  cases hr : s.taskRunning with
  | false => exact .inl ⟨rfl, (h.idle hr).2.resolve_left hne⟩
  | true =>
    obtain ⟨-, ha, hl⟩ := h.runs hr
    refine .inr ⟨rfl, 0, ?_⟩
    cases hw : s.worker 0 with
    | absent => exact absurd hw ha
    | left => exact absurd hw hl
    | waiting notified =>
      cases notified with
      | false => exact absurd ((h.blocked 0 false hw).2 rfl) hne
      | true => rfl
    | _ => rfl

/-- A container operation that does not touch `taskRunning_`. -/
theorem Solo.frame (h : Solo s) (hf : Frame s t) (hr : t.taskRunning = s.taskRunning) : Solo t := by
  constructor
  · rw [hr, hf.threads, hf.taskData, hf.pushed]
    exact h.idle
  · rw [hr, hf.threads, hf.worker]
    exact h.runs
  · rw [hf.threads, hf.worker]
    exact h.absent
  · rw [hf.worker, hf.taskData, hf.needNotify]
    exact h.blocked

/-- The worker moves on, and does not leave. -/
theorem Solo.moved (h : Solo s) {w : Nat} (hw : s.worker w ≠ .absent) (phase : WorkerPhase)
    (ha : phase ≠ .absent) (hl : phase ≠ .left) (hworker : t.worker = Function.update s.worker w phase)
    (hrun : t.taskRunning = s.taskRunning) (hthreads : t.threads = s.threads)
    (hblocked : ∀ notified, phase = .waiting notified →
      t.needNotify = true ∧ (notified = false → t.taskData = [])) : Solo t := by
  obtain ⟨rfl, hr⟩ := h.thread hw
  obtain ⟨hone, -⟩ := h.runs hr
  constructor
  · intro hr'
    rw [hrun, hr] at hr'
    cases hr'
  · intro _
    rw [hthreads, hworker, Function.update_self]
    exact ⟨hone, ha, hl⟩
  · intro v hv
    have hne : v ≠ 0 := by omega
    rw [hworker, Function.update_of_ne hne]
    exact h.absent v (by omega)
  · intro v notified hv
    by_cases hv0 : v = 0
    · subst hv0
      rw [hworker, Function.update_self] at hv
      exact hblocked notified hv
    · rw [hworker, Function.update_of_ne hv0] at hv
      rw [h.absent v (by omega)] at hv
      cases hv

theorem unnotified_iff {w : Nat} : s.unnotified w = true ↔ s.worker w = .waiting false := by
  simp [unnotified]

theorem Solo.unnotified_eq (h : Solo s) {w : Nat} (hw : s.unnotified w = true) : w = 0 := by
  refine (h.thread ?_).1
  rw [unnotified_iff.1 hw]
  decide

theorem worker_pushTaskData (s : AniManager) (info woken w : Nat) :
    (s.pushTaskData info woken).worker w =
      if s.needNotify && s.unnotified woken then Function.update s.worker woken (.waiting true) w
      else s.worker w := by
  unfold AniManager.pushTaskData
  dsimp only
  split <;> rfl

/-- The worker is notified if it waits. -/
theorem Solo.notified (h : Solo s) (hr : s.taskRunning = true) (info : Nat) {woken : Nat}
    (hwakes : s.needNotify = true → s.wakes woken = true) :
    (s.pushTaskData info woken).worker 0 ≠ .absent ∧ (s.pushTaskData info woken).worker 0 ≠ .left ∧
      ∀ notified, (s.pushTaskData info woken).worker 0 = .waiting notified →
        notified = true ∧ s.needNotify = true := by
  obtain ⟨hone, ha, hl⟩ := h.runs hr
  rw [worker_pushTaskData]
  by_cases hb : s.worker 0 = .waiting false
  · have hn := (h.blocked 0 false hb).1
    have hun : s.unnotified woken = true := by
      have hw := hwakes hn
      unfold wakes at hw
      rw [hone] at hw
      simpa [unnotified, hb] using hw
    have hw0 := h.unnotified_eq hun
    subst hw0
    rw [hn, hun, Bool.and_self, if_pos rfl, Function.update_self]
    refine ⟨by decide, by decide, ?_⟩
    intro notified he
    cases he
    exact ⟨rfl, rfl⟩
  · split
    · rename_i hc
      rw [Bool.and_eq_true] at hc
      have hw0 := h.unnotified_eq hc.2
      subst hw0
      exact absurd (unnotified_iff.1 hc.2) hb
    · refine ⟨ha, hl, ?_⟩
      intro notified hw
      cases notified with
      | false => exact absurd hw hb
      | true => exact ⟨rfl, (h.blocked 0 true hw).1⟩

/-- There is still no other thread. -/
theorem Solo.pushed_absent (h : Solo s) {info woken w : Nat} (hle : s.threads ≤ w) :
    (s.pushTaskData info woken).worker w = .absent := by
  rw [worker_pushTaskData]
  split
  · rename_i hc
    rw [Bool.and_eq_true] at hc
    have hne : w ≠ woken := by
      rintro rfl
      have hab := h.absent w hle
      rw [unnotified_iff.1 hc.2] at hab
      cases hab
    rw [Function.update_of_ne hne]
    exact h.absent w hle
  · exact h.absent w hle

theorem Solo.pushTaskData (h : Solo s) {info woken : Nat}
    (hwakes : s.needNotify = true → s.wakes woken = true) : Solo (s.pushTaskData info woken) := by
  cases hr : s.taskRunning with
  | false =>
    -- there is no thread to notify
    obtain ⟨hthreads, -⟩ := h.idle hr
    have habsent : ∀ w, (s.pushTaskData info woken).worker w = .absent :=
      fun w => h.pushed_absent (by omega)
    refine ⟨fun _ => ⟨hthreads, .inr rfl⟩, ?_, fun w _ => habsent w, ?_⟩
    · intro hr'
      exact absurd (hr.symm.trans hr') (by decide)
    · intro w notified hw
      rw [habsent w] at hw
      cases hw
  | true =>
    have hone := (h.runs hr).1
    obtain ⟨ha, hl, hwait⟩ := h.notified hr info hwakes
    refine ⟨?_, fun _ => ⟨hone, ha, hl⟩, ?_, ?_⟩
    · intro hr'
      exact absurd (hr.symm.trans hr') (by decide)
    · intro w hw
      have hthreads : (s.pushTaskData info woken).threads = s.threads := rfl
      exact h.pushed_absent (by omega)
    · intro w notified hw
      by_cases hw0 : w = 0
      · subst hw0
        obtain ⟨rfl, hn⟩ := hwait notified hw
        exact ⟨hn, nofun⟩
      · rw [h.pushed_absent (by omega)] at hw
        cases hw

theorem Solo.startWorker (h : Solo s) : Solo s.startWorker := by
  unfold AniManager.startWorker
  split
  · rename_i hr
    refine ⟨?_, h.runs, h.absent, h.blocked⟩
    intro hr'
    exact absurd (hr.symm.trans hr') (by decide)
  · rename_i hr
    have hr : s.taskRunning = false := by simpa using hr
    obtain ⟨hthreads, -⟩ := h.idle hr
    have hworker : ∀ w, w ≠ 0 → Function.update s.worker s.threads .starting w = .absent := by
      intro w hw
      rw [hthreads, Function.update_of_ne hw]
      exact h.absent w (by omega)
    refine ⟨nofun, ?_, ?_, ?_⟩
    · intro _
      simp [hthreads]
    · intro w hw
      have hle : s.threads + 1 ≤ w := hw
      exact hworker w (by omega)
    · intro w notified hw
      by_cases hw0 : w = 0
      · subst hw0
        simp [hthreads] at hw
      · have hw' : Function.update s.worker s.threads .starting w = .waiting notified := hw
        rw [hworker w hw0] at hw'
        cases hw'

theorem Solo.popTaskData (h : Solo s) {w : Nat}
    (hw : s.worker w = .pop ∨ s.worker w = .waiting true ∨ s.worker w = .waiting false) :
    Solo (s.popTaskData w) := by
  have hpresent : s.worker w ≠ .absent := by
    rcases hw with hw | hw | hw <;> rw [hw] <;> decide
  unfold AniManager.popTaskData
  split
  · rename_i hempty
    refine h.moved hpresent (.waiting false) (by decide) (by decide) rfl rfl rfl ?_
    intro notified he
    cases he
    refine ⟨?_, fun _ => hempty⟩
    -- a thread that waits has set `needNotify_` before
    dsimp only
    split
    · rfl
    · rename_i hpop
      rcases hw with hw | hw | hw
      · exact absurd hw hpop
      · exact (h.blocked w true hw).1
      · exact (h.blocked w false hw).1
  · exact h.moved hpresent .popped (by decide) (by decide) rfl rfl rfl (by simp)

theorem solo_init : Solo aniSystem.init := by
  refine ⟨fun _ => ⟨rfl, .inl rfl⟩, nofun, fun _ _ => rfl, nofun⟩

/-- A step that no ANI function makes, and that keeps the worker. -/
theorem Solo.worker (h : Solo s) {op : AniOp} (hk : s.keepsWorker op = true)
    (he : WorkerEffect s op t) : Solo t := by
  cases he with
  | pushed info woken hm hp hw => exact h.pushTaskData hw
  | started hp => exact h.startWorker
  | attached w ok hw =>
    have hok : ok = true := hk
    subst hok
    exact h.moved (by rw [hw]; decide) .test (by decide) (by decide) rfl rfl rfl (by simp)
  | tested w hw =>
    have hpresent : s.worker w ≠ .absent := by rw [hw]; decide
    rw [(h.thread hpresent).2, if_pos rfl]
    exact h.moved hpresent .pop (by decide) (by decide) rfl rfl rfl (by simp)
  | popped w hw => exact h.popTaskData hw
  | failed w task hw hheld => cases hk
  | sent w task hw hheld =>
    exact h.moved (by rw [hw]; decide) .sent (by decide) (by decide) rfl rfl rfl (by simp)
  | awaited w hw hr =>
    have hpresent : s.worker w ≠ .absent := by
      rcases hw with hw | hw <;> rw [hw] <;> decide
    split
    · exact h.moved hpresent .test (by decide) (by decide) rfl rfl rfl (by simp)
    · exact h.moved hpresent .awaiting (by decide) (by decide) rfl rfl rfl (by simp)
  | began info called hm hr => exact ⟨h.idle, h.runs, h.absent, h.blocked⟩
  | ended => exact ⟨h.idle, h.runs, h.absent, h.blocked⟩

/-- **A step that keeps the worker keeps `taskRunning_` in line with it.** -/
theorem solo_step (h : Solo s) {op : AniOp} (hk : s.keepsWorker op = true) (hst : s.step op = some t) :
    Solo t := by
  have hstep := hst
  cases op <;> simp only [AniManager.step, Option.ite_none_right_eq_some, Option.some.injEq] at hst
  case insertCallbackInfo id once callback made =>
    subst hst
    exact h.frame (frame_insertCallbackInfo s id once callback made)
      (taskRunning_insertCallbackInfo s id once callback made)
  case deleteCallbackInfo id callback found =>
    split at hst
    · cases hst
      exact h.frame (frame_deleteCallbackInfo s id found) rfl
    · split at hst
      · cases hst
      · cases hst
        exact h
  case deleteCallbackInfoByEventId id =>
    subst hst
    refine h.frame (frame_deleteCallbackInfoByEventId s id) ?_
    unfold AniManager.deleteCallbackInfoByEventId
    dsimp only
    have hk' : s.taskRunning = false ∨
        (s.deleteCallbackInfoByEventId id).aniAsyncCallbackContainer.isEmpty = false := by
      simpa [keepsWorker] using hk
    rcases hk' with hr | hne
    · rw [hr]
      split <;> rfl
    · rw [if_neg]
      rw [Bool.not_eq_true]
      exact hne
  case cleanCallbackInfo emitterId =>
    obtain ⟨-, rfl⟩ := hst
    exact h.frame (frame_cleanCallbackInfo s emitterId) rfl
  case getListenerCount id =>
    subst hst
    exact h.frame (frame_prune s id) (taskRunning_prune s id)
  case doCallback id =>
    obtain ⟨-, rfl⟩ := hst
    have h' := h.frame (frame_prune s id) (taskRunning_prune s id)
    exact ⟨h'.idle, h'.runs, h'.absent, h'.blocked⟩
  all_goals exact h.worker hk (worker_cases rfl hstep)

end AniManager

/-- **In every run in which no removal leaves the container empty while a worker runs, and no worker
    fails, at most one thread is in the loop, and every task in the queue has a thread to pop it.** -/
theorem solo_worker {s : AniManager}
    (h : aniSystem.Reachable (fun s op => s.keepsWorker op = true) s) : s.OneWorker ∧ s.Served := by
  have hsolo : s.Solo :=
    h.invariant AniManager.solo_init fun _ _ _ hs hk hst => AniManager.solo_step hs hk hst
  exact ⟨hsolo.oneWorker, hsolo.served⟩

/-- A second event, while the worker waits on the empty queue. -/
theorem solo_worker_notified :
    ∃ s : AniManager, s.OneWorker ∧ s.Served ∧ s.taskData = [0] ∧ s.worker 0 = .waiting true := by
  obtain ⟨s, hr, hd, hw⟩ := System.run_of_exec aniSystem (fun s op => s.keepsWorker op = true)
    (fun s => s.taskData = [0] ∧ s.worker 0 = .waiting true)
    [.insertCallbackInfo ⟨.u32 1, 0⟩ false 7 true, .doCallback ⟨.u32 1, 0⟩, .pushTaskData 0 0,
      .startWorker, .attach 0 true, .testRunning 0, .popTaskData 0, .sendEventData 0,
      .beginWork 0 true, .endWork, .awaitTask 0, .testRunning 0, .popTaskData 0,
      .doCallback ⟨.u32 1, 0⟩, .pushTaskData 0 0]
    (by decide)
  exact ⟨s, (solo_worker ⟨_, hr⟩).1, (solo_worker ⟨_, hr⟩).2, hd, hw⟩

/-- The last listener is taken away between two events: the second event starts a second thread, and a
    thread that tests `taskRunning_` before the second event leaves its task behind. -/
theorem solo_worker_off :
    (∃ s, aniSystem.Reachable System.always s ∧ ¬ s.OneWorker) ∧
      ∃ s, aniSystem.Reachable System.always s ∧ ¬ s.Served := by
  constructor
  · obtain ⟨s, hr, h0, h1⟩ := System.run_of_exec aniSystem System.always
      (fun s => (s.worker 0).inLoop = true ∧ (s.worker 1).inLoop = true)
      [.insertCallbackInfo ⟨.u32 1, 0⟩ false 7 true, .doCallback ⟨.u32 1, 0⟩, .pushTaskData 0 0,
        .startWorker, .attach 0 true, .testRunning 0, .deleteCallbackInfoByEventId ⟨.u32 1, 0⟩,
        .insertCallbackInfo ⟨.u32 1, 0⟩ false 8 true, .doCallback ⟨.u32 1, 0⟩, .pushTaskData 1 0,
        .startWorker, .attach 1 true, .testRunning 1]
      (by decide)
    exact ⟨s, ⟨_, hr⟩, fun h => absurd (h 0 1 h0 h1) (by decide)⟩
  · obtain ⟨s, hr, hd, hrun, hp⟩ := System.run_of_exec aniSystem System.always
      (fun s => s.taskData = [0] ∧ s.taskRunning = false ∧ s.pushed = false)
      [.insertCallbackInfo ⟨.u32 1, 0⟩ false 7 true, .doCallback ⟨.u32 1, 0⟩, .pushTaskData 0 0,
        .startWorker, .attach 0 true, .deleteCallbackInfoByEventId ⟨.u32 1, 0⟩, .testRunning 0]
      (by decide)
    refine ⟨s, ⟨_, hr⟩, ?_⟩
    intro h
    rcases h (by rw [hd]; decide) with ⟨-, hp'⟩ | ⟨hrun', -⟩
    · exact absurd (hp.symm.trans hp') (by decide)
    · exact absurd (hrun.symm.trans hrun') (by decide)

/-! ## One task at a time -/

namespace AniManager

variable {s t : AniManager}

/-- A thread that locks `g_taskMutex` after it has sent a task finds `g_taskRunning` still false, or
    the work function of the task done. -/
def takesTurn (s : AniManager) : AniOp → Bool
  | .awaitTask thread =>
    !decide (s.worker thread = .sent) || !s.g_taskRunning || s.sent.isEmpty
  | _ => true

/-- The number of tasks sent whose work function has not finished. -/
def unfinished (s : AniManager) : Nat := s.sent.length + s.running.toList.length

/-- What a single worker knows of the tasks it has sent. -/
structure Turn (s : AniManager) : Prop where
  absent : ∀ w, s.threads ≤ w → s.worker w = .absent
  fresh : s.g_taskRunning = false → s.running = none
  settled : s.threads ≤ 1 → (s.worker 0).settled = true → s.unfinished = 0
  sent : s.threads ≤ 1 → s.worker 0 = .sent → s.unfinished ≤ 1
  awaiting : s.threads ≤ 1 → s.worker 0 = .awaiting →
    s.unfinished ≤ 1 ∧ (s.g_taskRunning = true → s.sent = [])

theorem unfinished_eq_zero : s.unfinished = 0 ↔ s.sent = [] ∧ s.running = none := by
  unfold unfinished
  rw [Nat.add_eq_zero_iff, List.length_eq_zero_iff]
  cases s.running <;> simp

theorem Turn.frame (h : Turn s) (hf : Frame s t) : Turn t := by
  have hu : t.unfinished = s.unfinished := by
    unfold unfinished
    rw [hf.sent, hf.running]
  constructor
  · rw [hf.threads, hf.worker]
    exact h.absent
  · rw [hf.g_taskRunning, hf.running]
    exact h.fresh
  · rw [hf.threads, hf.worker, hu]
    exact h.settled
  · rw [hf.threads, hf.worker, hu]
    exact h.sent
  · rw [hf.threads, hf.worker, hu, hf.g_taskRunning, hf.sent]
    exact h.awaiting

/-- The only thread there is. -/
theorem Turn.thread (h : Turn s) (hone : s.threads ≤ 1) {w : Nat} (hw : s.worker w ≠ .absent) :
    w = 0 := by
  by_contra hne
  exact hw (h.absent w (by omega))

/-- A thread moves on, which concerns no task but its own. -/
theorem Turn.moved (h : Turn s) {w : Nat} (hw : s.worker w ≠ .absent) (phase : WorkerPhase)
    (hworker : t.worker = Function.update s.worker w phase) (hthreads : t.threads = s.threads)
    (hfresh : t.g_taskRunning = false → t.running = none)
    (hsettled : w = 0 → s.threads ≤ 1 → phase.settled = true → t.unfinished = 0)
    (hsent : w = 0 → s.threads ≤ 1 → phase = .sent → t.unfinished ≤ 1)
    (hawaiting : w = 0 → s.threads ≤ 1 → phase = .awaiting →
      t.unfinished ≤ 1 ∧ (t.g_taskRunning = true → t.sent = [])) : Turn t := by
  have hlt : w < s.threads := by
    by_contra hge
    exact hw (h.absent w (by omega))
  have h0 : s.threads ≤ 1 → w = 0 ∧ t.worker 0 = phase := by
    intro hone
    have hw0 := h.thread hone hw
    subst hw0
    rw [hworker, Function.update_self]
    exact ⟨rfl, rfl⟩
  refine ⟨?_, hfresh, ?_, ?_, ?_⟩
  · intro v hv
    have hne : v ≠ w := by omega
    rw [hworker, Function.update_of_ne hne]
    exact h.absent v (by omega)
  · intro hone hph
    rw [hthreads] at hone
    obtain ⟨hw0, he⟩ := h0 hone
    rw [he] at hph
    exact hsettled hw0 hone hph
  · intro hone hph
    rw [hthreads] at hone
    obtain ⟨hw0, he⟩ := h0 hone
    exact hsent hw0 hone (he.symm.trans hph)
  · intro hone hph
    rw [hthreads] at hone
    obtain ⟨hw0, he⟩ := h0 hone
    exact hawaiting hw0 hone (he.symm.trans hph)

/-- A thread that had nothing to wait for still has nothing. -/
theorem Turn.stays (h : Turn s) {w : Nat} (hw : s.worker w ≠ .absent)
    (hsettled : (s.worker w).settled = true) (phase : WorkerPhase)
    (hphase : phase.settled = true ∨ phase = .left)
    (hworker : t.worker = Function.update s.worker w phase) (hthreads : t.threads = s.threads)
    (hg : t.g_taskRunning = s.g_taskRunning) (hr : t.running = s.running) (hs : t.sent = s.sent) :
    Turn t := by
  have hu : t.unfinished = s.unfinished := by
    unfold unfinished
    rw [hr, hs]
  refine h.moved hw phase hworker hthreads ?_ ?_ ?_ ?_
  · rw [hg, hr]
    exact h.fresh
  · intro hw0 hone _
    subst hw0
    rw [hu]
    exact h.settled hone hsettled
  · rintro - - rfl
    rcases hphase with hphase | hphase <;> cases hphase
  · rintro - - rfl
    rcases hphase with hphase | hphase <;> cases hphase

theorem Turn.pushTaskData (h : Turn s) (info woken : Nat) : Turn (s.pushTaskData info woken) := by
  by_cases hc : (s.needNotify && s.unnotified woken) = true
  · have hwb : s.worker woken = .waiting false := by
      rw [Bool.and_eq_true] at hc
      exact unnotified_iff.1 hc.2
    have hworker : (s.pushTaskData info woken).worker =
        Function.update s.worker woken (.waiting true) := if_pos hc
    exact h.stays (by rw [hwb]; decide) (by rw [hwb]; rfl) (.waiting true) (.inl rfl) hworker
      rfl rfl rfl rfl
  · have hworker : (s.pushTaskData info woken).worker = s.worker := if_neg hc
    refine ⟨?_, h.fresh, ?_, ?_, ?_⟩
    · rw [hworker]
      exact h.absent
    · rw [hworker]
      exact h.settled
    · rw [hworker]
      exact h.sent
    · rw [hworker]
      exact h.awaiting

theorem Turn.startWorker (h : Turn s) : Turn s.startWorker := by
  unfold AniManager.startWorker
  split
  · exact ⟨h.absent, h.fresh, h.settled, h.sent, h.awaiting⟩
  · have hone : s.threads + 1 ≤ 1 → s.threads = 0 := by omega
    refine ⟨?_, h.fresh, ?_, ?_, ?_⟩
    · intro w hw
      have hle : s.threads + 1 ≤ w := hw
      have hne : w ≠ s.threads := by omega
      simp only [Function.update_of_ne hne]
      exact h.absent w (by omega)
    · intro hthreads _
      have h0 := hone hthreads
      -- there was no thread before
      refine h.settled (by omega) ?_
      rw [h.absent 0 (by omega)]
      rfl
    · intro hthreads hph
      have h0 := hone hthreads
      simp [h0] at hph
    · intro hthreads hph
      have h0 := hone hthreads
      simp [h0] at hph

theorem Turn.beginWork (h : Turn s) {info : Nat} (hm : info ∈ s.sent) (hr : s.running = none)
    (called : Bool) : Turn (s.beginWork info called) := by
  have hu : (s.beginWork info called).unfinished = s.unfinished := by
    have hlen : (s.sent.erase info).length = s.sent.length - 1 := List.length_erase_of_mem hm
    have hpos : 0 < s.sent.length := List.length_pos_of_mem hm
    unfold unfinished AniManager.beginWork
    simp [hr, hlen]
    omega
  refine ⟨h.absent, nofun, ?_, ?_, ?_⟩
  · intro hone hph
    rw [hu]
    exact h.settled hone hph
  · intro hone hph
    rw [hu]
    exact h.sent hone hph
  · intro hone hph
    have hle := (h.awaiting hone hph).1
    refine ⟨by rw [hu]; exact hle, fun _ => ?_⟩
    -- the task was the only one
    unfold unfinished at hle
    have hlen : (s.beginWork info called).sent.length = s.sent.length - 1 :=
      List.length_erase_of_mem hm
    exact List.length_eq_zero_iff.1 (by omega)

theorem Turn.endWork (h : Turn s) : Turn { s with running := none } := by
  have hu : unfinished { s with running := none } ≤ s.unfinished := by
    unfold unfinished
    simp
  refine ⟨h.absent, fun _ => rfl, ?_, ?_, ?_⟩
  · intro hone hph
    have := h.settled hone hph
    omega
  · intro hone hph
    have := h.sent hone hph
    omega
  · intro hone hph
    have := h.awaiting hone hph
    exact ⟨by omega, this.2⟩

theorem turn_init : Turn aniSystem.init :=
  ⟨fun _ _ => rfl, fun _ => rfl, fun _ _ => rfl, nofun, nofun⟩

theorem Turn.popTaskData (h : Turn s) {w : Nat}
    (hw : s.worker w = .pop ∨ s.worker w = .waiting true ∨ s.worker w = .waiting false) :
    Turn (s.popTaskData w) := by
  have hpresent : s.worker w ≠ .absent := by
    rcases hw with hw | hw | hw <;> rw [hw] <;> decide
  have hsettled : (s.worker w).settled = true := by
    rcases hw with hw | hw | hw <;> rw [hw] <;> rfl
  unfold AniManager.popTaskData
  split
  · exact h.stays hpresent hsettled (.waiting false) (.inl rfl) rfl rfl rfl rfl rfl
  · exact h.stays hpresent hsettled .popped (.inl rfl) rfl rfl rfl rfl rfl

theorem Turn.sendEventData (h : Turn s) {w : Nat} (hw : s.worker w = .popped) (task : Nat × Nat) :
    Turn (s.sendEventData w task) := by
  refine h.moved (by rw [hw]; decide) .sent rfl rfl h.fresh (by simp [WorkerPhase.settled]) ?_
    (by simp)
  intro hw0 hone _
  subst hw0
  have hzero := unfinished_eq_zero.1 (h.settled hone (by rw [hw]; rfl))
  simp [unfinished, AniManager.sendEventData, release, setWorker, hzero.1, hzero.2]

theorem Turn.awaitTask (h : Turn s) {w : Nat} (hk : s.takesTurn (.awaitTask w) = true)
    (hw : s.worker w = .sent ∨ s.worker w = .awaiting) (hr : s.running = none) :
    Turn (s.setWorker w (if s.g_taskRunning then .test else .awaiting)) := by
  have hpresent : s.worker w ≠ .absent := by
    rcases hw with hw | hw <;> rw [hw] <;> decide
  cases hg : s.g_taskRunning with
  | true =>
    refine h.moved hpresent .test rfl rfl h.fresh ?_ (by simp) (by simp)
    intro hw0 hone _
    subst hw0
    have hsent : s.sent = [] := by
      rcases hw with hw | hw
      · simpa [takesTurn, hw, hg] using hk
      · exact (h.awaiting hone hw).2 hg
    exact unfinished_eq_zero.2 ⟨hsent, hr⟩
  | false =>
    refine h.moved hpresent .awaiting rfl rfl h.fresh (by simp [WorkerPhase.settled]) (by simp) ?_
    intro hw0 hone _
    subst hw0
    refine ⟨?_, fun hg' => absurd (hg.symm.trans hg') (by decide)⟩
    rcases hw with hw | hw
    · exact h.sent hone hw
    · exact (h.awaiting hone hw).1

theorem turn_step (h : Turn s) {op : AniOp} (hk : s.takesTurn op = true) (hst : s.step op = some t) :
    Turn t := by
  rcases aniStep_cases hst with ⟨hf, -⟩ | ⟨id, rfl, rfl⟩ | he
  · exact h.frame hf
  · have h' := h.frame (frame_prune s id)
    exact ⟨h'.absent, h'.fresh, h'.settled, h'.sent, h'.awaiting⟩
  · cases he with
    | pushed info woken hm hp hw => exact h.pushTaskData info woken
    | started hp => exact h.startWorker
    | attached w ok hw =>
      refine h.stays (by rw [hw]; decide) (by rw [hw]; rfl) _ ?_ rfl rfl rfl rfl rfl
      cases ok with
      | true => exact .inl rfl
      | false => exact .inr rfl
    | tested w hw =>
      refine h.stays (by rw [hw]; decide) (by rw [hw]; rfl) _ ?_ rfl rfl rfl rfl rfl
      cases s.taskRunning with
      | true => exact .inl rfl
      | false => exact .inr rfl
    | popped w hw => exact h.popTaskData hw
    | failed w task hw hheld =>
      exact h.stays (by rw [hw]; decide) (by rw [hw]; rfl) .left (.inr rfl) rfl rfl rfl rfl rfl
    | sent w task hw hheld => exact h.sendEventData hw task
    | awaited w hw hr => exact h.awaitTask hk hw hr
    | began info called hm hr => exact h.beginWork hm hr called
    | ended => exact h.endWork

end AniManager

/-- **In every run of a single worker in which it waits for no task on a `g_taskRunning` that an
    earlier task has set, a task is sent only when the work functions of all earlier ones are done.** -/
theorem sent_in_turn {s t : AniManager}
    (h : aniSystem.Reachable (fun s op => s.takesTurn op = true) s) (hone : s.threads ≤ 1)
    {thread : Nat} (hst : s.step (.sendEventData thread) = some t) :
    s.sent = [] ∧ s.running = none := by
  have hturn : s.Turn :=
    h.invariant AniManager.turn_init fun _ _ _ hs hk hst => AniManager.turn_step hs hk hst
  simp only [AniManager.step] at hst
  split at hst
  · rename_i task hw hheld
    have hw0 := hturn.thread hone (by rw [hw]; decide)
    subst hw0
    exact AniManager.unfinished_eq_zero.1 (hturn.settled hone (by rw [hw]; rfl))
  · cases hst

/-- The second task is sent when the first is done. -/
theorem sent_in_turn_second :
    ∃ s t : AniManager, s.step (.sendEventData 0) = some t ∧ t.sent = [0] ∧ s.sent = [] ∧
      s.running = none := by
  obtain ⟨s, hr, hone, hst⟩ := System.run_of_exec aniSystem (fun s op => s.takesTurn op = true)
    (fun s => s.threads ≤ 1 ∧ ((s.step (.sendEventData 0)).any fun t => t.sent = [0]) = true)
    [.insertCallbackInfo ⟨.u32 1, 0⟩ false 7 true, .doCallback ⟨.u32 1, 0⟩, .pushTaskData 0 0,
      .startWorker, .attach 0 true, .testRunning 0, .popTaskData 0, .sendEventData 0, .awaitTask 0,
      .beginWork 0 true, .endWork, .doCallback ⟨.u32 1, 0⟩, .pushTaskData 0 0, .startWorker,
      .awaitTask 0, .testRunning 0, .popTaskData 0]
    (by decide)
  obtain ⟨t, ht, hsent⟩ := (Option.any_eq_true _ _).1 hst
  have hturn := sent_in_turn ⟨_, hr⟩ hone ht
  exact ⟨s, t, ht, by simpa using hsent, hturn⟩

/-- The third task is sent while the second waits on its thread. -/
theorem sent_out_of_turn :
    ∃ s : AniManager, aniSystem.Reachable System.always s ∧ s.threads = 1 ∧
      (s.step (.sendEventData 0)).isSome = true ∧ s.sent = [0] := by
  obtain ⟨s, hr, hs⟩ := System.run_of_exec aniSystem System.always
    (fun s => s.threads = 1 ∧ (s.step (.sendEventData 0)).isSome = true ∧ s.sent = [0])
    [.insertCallbackInfo ⟨.u32 1, 0⟩ false 7 true, .doCallback ⟨.u32 1, 0⟩, .pushTaskData 0 0,
      .startWorker, .doCallback ⟨.u32 1, 0⟩, .pushTaskData 0 0, .startWorker,
      .doCallback ⟨.u32 1, 0⟩, .pushTaskData 0 0, .startWorker, .attach 0 true, .testRunning 0,
      .popTaskData 0, .sendEventData 0, .beginWork 0 true, .endWork, .awaitTask 0, .testRunning 0,
      .popTaskData 0, .sendEventData 0, .awaitTask 0, .testRunning 0, .popTaskData 0]
    (by decide)
  exact ⟨s, ⟨_, hr⟩, hs⟩

end AppExecFwk
