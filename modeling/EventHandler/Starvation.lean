import EventHandler.QueueSystem
import EventHandler.Lib.Odometer

/-!
# A due sub-queue is not starved

A sub-queue whose head is due, and earlier than the heads of all higher ones, is passed over by
`PickEventLocked` only by raising the counter of a higher sub-queue and clearing those above that
one.  The counters above it are then an odometer in base `maxHandledEventsCount + 1`, and it can be
passed over only as often as that odometer can tick.

* `PickCall`, `Calls` — the calls of `PickEventLocked` that a run makes, in order.
* `reachable_countsOk` — every counter is at most its maximum, which is never changed.
* `Calls.ticks` — a run of calls that pass over sub-queue `j` is a run of ticks below `j`.
* `bounded_bypass` — so among any `6 ^ j` consecutive calls one returns the head of a sub-queue
  with index at least `j`.
-/

set_option autoImplicit false

namespace AppExecFwk

open Transition EventQueueBase

/-- A call of `PickEventLocked`: the queue it works on, and `now`. -/
structure PickCall where
  queue : EventQueueBase
  now : ClockTime

/-- The answer of the call in `GetExpiredEventLocked`. -/
def PickCall.outcome (c : PickCall) : PickOutcome :=
  c.queue.pickEventLocked c.now.ns TimePoint.max

/-- The call of `PickEventLocked` that an operation makes. -/
def pickCall (P : SystemParameters) (s : Sys) : Op → Option PickCall
  | .getExpiredEvent now _ => some ⟨s.queue, now⟩
  | .pass clk =>
    if s.queue.finished then none
    else some ⟨s.queue.checkBarrierMode P clk.check clk.enter, clk.now⟩
  | _ => none

/-- A run from `s` to `t` that makes the calls `cs`, with other operations in between. -/
inductive Calls (P : SystemParameters) : Sys → List PickCall → Sys → Prop
  | nil (s : Sys) : Calls P s [] s
  | other {s t u : Sys} {a : Op} {cs : List PickCall} : s.step P a = some t →
      pickCall P s a = none → Calls P t cs u → Calls P s cs u
  | pick {s t u : Sys} {a : Op} {c : PickCall} {cs : List PickCall} : s.step P a = some t →
      pickCall P s a = some c → Calls P t cs u → Calls P s (c :: cs) u

/-- Outside barrier mode and with no vsync pending, the head of `j` is due and earlier than every
    head above `j`. -/
structure Waits (j : SubIndex) (c : PickCall) : Prop where
  barrier : c.queue.isBarrierMode = false
  pending : c.queue.sumOfPendingVsync = 0
  due : ∃ e, (c.queue.subEventQueues j).queue.head? = some e ∧ e.handleTime ≤ c.now.ns ∧
    ∀ i < j, ∀ x, (c.queue.subEventQueues i).queue.head? = some x → e.handleTime < x.handleTime

/-- The call returns the head of a sub-queue with index at least `j`. -/
def Serves (j : SubIndex) (c : PickCall) : Prop :=
  ∃ i e, j ≤ i ∧ c.outcome.event = some e ∧ (c.queue.subEventQueues i).queue.head? = some e

/-! ## The counters -/

/-- The counters and their maxima are the same. -/
def SameCounts (q q' : EventQueueBase) : Prop :=
  ∀ i, (q'.subEventQueues i).handledEventsCount = (q.subEventQueues i).handledEventsCount ∧
    (q'.subEventQueues i).maxHandledEventsCount = (q.subEventQueues i).maxHandledEventsCount

theorem SameCounts.of_sameLists {q q' : EventQueueBase} (h : SameLists q q') : SameCounts q q' := by
  intro i
  rw [h.sub]
  exact ⟨rfl, rfl⟩

theorem SameCounts.of_discards {q q' : EventQueueBase} {filter : InnerEvent → Bool}
    (h : Discards filter q q') : SameCounts q q' := fun i => ⟨h.count i, h.max i⟩

theorem insert_sameCounts (p : Process) (now recv : ClockTime) (q : EventQueueBase)
    (event : Option InnerEvent) (priority : Priority) (ty : EventInsertType)
    (option : VsyncBarrierOption) :
    SameCounts q (q.insert p now recv event priority ty option).queue := by
  have hx := insert_cases p now recv q event priority ty option
  generalize q.insert p now recv event priority ty option = o at hx
  cases hx with
  | rejected _ _ => exact fun _ => ⟨rfl, rfl⟩
  | idle _ _ _ => exact fun _ => ⟨rfl, rfl⟩
  | unnamed _ _ _ _ => exact fun _ => ⟨rfl, rfl⟩
  | sub e i _ _ q' hq' =>
    have hs := sameLists_dispatchIf e.isVsync recv q
    rw [← hq'] at hs
    intro k
    by_cases hk : k = i
    · subst hk
      simp
    · simp only [setSub_ne q' _ hk, hs.sub]
      exact ⟨trivial, trivial⟩

variable {P : SystemParameters} {s t : Sys}

/-- An operation without a call keeps the counters. -/
theorem step_sameCounts {a : Op} (h : s.step P a = some t) (hc : pickCall P s a = none) :
    SameCounts s.queue t.queue := by
  cases step_cases h with
  | insert p now recv event priority ty option _ =>
    exact insert_sameCounts p now recv s.queue _ priority ty option
  | remove selector _ => exact .of_discards (remove_discards selector s.queue)
  | removeOrphan p _ => exact .of_discards (removeOrphan_discards p s.queue)
  | removeAll _ => exact .of_discards (removeAll_discards s.queue)
  | expiredEvent _ _ _ _ _ => cases hc
  | expiredNone _ _ _ _ => cases hc
  | pass clk n _ =>
    simp only [pickCall] at hc
    split at hc
    · rename_i hf
      rw [afterPass_queue]
      simp only [getEventPass, hf, if_true]
      exact fun _ => ⟨rfl, rfl⟩
    · cases hc
  | getEvent _ => exact fun _ => ⟨rfl, rfl⟩
  | wakeUp d _ => exact .of_sameLists (afterWait_sameLists _)
  | pollReturn e need _ => exact .of_sameLists (afterPoll_sameLists _ _)
  | execute e _ => exact .of_sameLists (runTask_sameLists s _)
  | release e _ => exact fun _ => ⟨rfl, rfl⟩
  | flag op => exact .of_sameLists (applyFlag_sameLists _ op)

/-- An operation with a call works on the counters of the state, and leaves them as the call
    did. -/
theorem step_pickCounts {a : Op} {c : PickCall} (h : s.step P a = some t)
    (hc : pickCall P s a = some c) :
    SameCounts s.queue c.queue ∧ SameCounts c.outcome.queue t.queue := by
  cases step_cases h with
  | expiredEvent now next e _ _ =>
    cases hc
    refine ⟨fun _ => ⟨rfl, rfl⟩, fun i => ?_⟩
    have hn := getExpiredEventLocked_count s.queue now next TimePoint.max i
    exact ⟨hn.1, hn.2.trans ((s.queue.pickEventLocked_frame now.ns TimePoint.max).max i).symm⟩
  | expiredNone now next _ _ =>
    cases hc
    refine ⟨fun _ => ⟨rfl, rfl⟩, fun i => ?_⟩
    have hn := getExpiredEventLocked_count s.queue now next TimePoint.max i
    exact ⟨hn.1, hn.2.trans ((s.queue.pickEventLocked_frame now.ns TimePoint.max).max i).symm⟩
  | pass clk n _ =>
    simp only [pickCall] at hc
    split at hc
    · cases hc
    · rename_i hf
      cases hc
      rw [Bool.not_eq_true] at hf
      have hs := s.queue.sameLists_checkBarrierMode P clk.check clk.enter
      refine ⟨.of_sameLists hs, fun i => ?_⟩
      have hn := @getEventPass_count P clk s.queue hf i
      have hm := ((s.queue.checkBarrierMode P clk.check clk.enter).pickEventLocked_frame clk.now.ns
        TimePoint.max).max i
      rw [hs.sub] at hm
      rw [afterPass_queue]
      exact ⟨hn.1, hn.2.trans hm.symm⟩
  | _ => cases hc

/-- Every counter is at most its maximum, the default. -/
def CountsOk (q : EventQueueBase) : Prop :=
  q.CountsBounded ∧ ∀ i, (q.subEventQueues i).maxHandledEventsCount = DEFAULT_MAX_HANDLED_EVENT_COUNT

theorem CountsOk.of_same {q q' : EventQueueBase} (hq : CountsOk q) (h : SameCounts q q') :
    CountsOk q' := by
  refine ⟨fun i => ?_, fun i => ?_⟩
  · rw [(h i).1, (h i).2]
    exact hq.1 i
  · rw [(h i).2]
    exact hq.2 i

theorem countsOk_step {a : Op} (hs : CountsOk s.queue) (h : s.step P a = some t) :
    CountsOk t.queue := by
  cases hc : pickCall P s a with
  | none => exact hs.of_same (step_sameCounts h hc)
  | some c =>
    obtain ⟨hsame, hafter⟩ := step_pickCounts h hc
    have hq := hs.of_same hsame
    refine CountsOk.of_same ⟨pickEventLocked_counts hq.1 _ _, fun i => ?_⟩ hafter
    exact ((c.queue.pickEventLocked_frame c.now.ns TimePoint.max).max i).trans (hq.2 i)

/-- **The counters never exceed their maximum.** -/
theorem reachable_countsOk {start : ClockTime} {ok : Sys → Op → Prop}
    (h : (queueSystem P start).Reachable ok s) : CountsOk s.queue := by
  apply h.invariant (I := fun s => CountsOk s.queue)
  · exact ⟨fun _ => Nat.zero_le _, fun _ => rfl⟩
  · intro s a t hs _ hst
    exact countsOk_step hs hst

/-! ## The odometer -/

/-- The counters as digits. -/
def digits (q : EventQueueBase) (i : Nat) : Nat :=
  if h : i < 4 then (q.subEventQueues ⟨i, h⟩).handledEventsCount else 0

theorem digits_congr {q q' : EventQueueBase} (h : SameCounts q q') : digits q' = digits q := by
  funext i
  unfold digits
  split
  · exact (h _).1
  · rfl

theorem digits_lt {q : EventQueueBase} (h : CountsOk q) (i : Nat) : digits q i < 6 := by
  unfold digits
  split
  · rename_i hi
    have hb := h.1 ⟨i, hi⟩
    rw [h.2 ⟨i, hi⟩] at hb
    unfold DEFAULT_MAX_HANDLED_EVENT_COUNT at hb
    omega
  · omega

/-- A call that passes over `j` is a tick below `j`. -/
theorem tick_of_waits {j : SubIndex} {c : PickCall} (h : Waits j c) :
    Serves j c ∨ ∃ p, Odometer.Tick j.val p (digits c.queue) (digits c.outcome.queue) := by
  obtain ⟨hb, hp, e, he, hdue, hup⟩ := h
  obtain ⟨r, x, hx, hhead, hr⟩ :=
    pickEventLocked_bypass hb hp he hdue hup (lt_of_le_of_lt hdue c.now.lt_max)
  rcases hr with hjr | ⟨hrj, -, hcount⟩
  · exact Or.inl ⟨r, x, hjr, hx, hhead⟩
  · have hdigit : ∀ i, digits c.outcome.queue i =
        if i < r.val then 0 else if i = r.val then digits c.queue r.val + 1 else digits c.queue i := by
      intro i
      unfold digits
      rw [dif_pos r.isLt]
      split
      · rename_i hi
        rw [show c.outcome = c.queue.pickEventLocked c.now.ns TimePoint.max from rfl, hcount]
        simp only [Fin.lt_def, Fin.ext_iff]
      · rename_i hi
        have := r.isLt
        split
        · rfl
        · rw [if_neg (by omega)]
    refine Or.inr ⟨r.val, hrj, fun i hi => ?_, ?_, fun i hi _ => ?_⟩
    · rw [hdigit, if_pos hi]
    · rw [hdigit, if_neg (by omega), if_pos rfl]
    · rw [hdigit, if_neg (by omega), if_neg (by omega)]

/-- **Calls that all pass over `j` are ticks below `j`.** -/
theorem Calls.ticks {j : SubIndex} {cs : List PickCall} (h : Calls P s cs t)
    (hs : CountsOk s.queue) (hw : ∀ c ∈ cs, Waits j c) (hn : ∀ c ∈ cs, ¬ Serves j c) :
    Odometer.Ticks 6 j.val cs.length (digits s.queue) (digits t.queue) := by
  induction h with
  | nil s => exact .nil (fun i _ => digits_lt hs i)
  | other hst hc _ ih =>
    have h := ih (countsOk_step hs hst) hw hn
    rw [digits_congr (step_sameCounts hst hc)] at h
    exact h
  | @pick s t u a c cs hst hc _ ih =>
    obtain ⟨hsame, hafter⟩ := step_pickCounts hst hc
    have h := ih (countsOk_step hs hst) (fun c hc => hw c (List.mem_cons_of_mem _ hc))
      (fun c hc => hn c (List.mem_cons_of_mem _ hc))
    rcases tick_of_waits (hw c List.mem_cons_self) with hserve | ⟨p, htick⟩
    · exact absurd hserve (hn c List.mem_cons_self)
    · rw [digits_congr hsame, ← digits_congr hafter] at htick
      exact .cons (fun i _ => digits_lt hs i) htick h

/-- **Bounded bypass.** From any reachable state, among `6 ^ j` consecutive calls at each of which
    sub-queue `j` waits, one returns the head of a sub-queue with index at least `j`; and the
    counters never exceed their maximum. -/
theorem bounded_bypass (P : SystemParameters) (start : ClockTime) {s : Sys}
    (hs : (queueSystem P start).Reachable System.always s) :
    (∀ (j : SubIndex) (cs : List PickCall) (t : Sys), Calls P s cs t → (∀ c ∈ cs, Waits j c) →
      6 ^ j.val ≤ cs.length → ∃ c ∈ cs, Serves j c) ∧
    ∀ i, (s.queue.subEventQueues i).handledEventsCount ≤
      (s.queue.subEventQueues i).maxHandledEventsCount := by
  have hok := reachable_countsOk hs
  refine ⟨fun j cs t hcalls hw hlen => ?_, hok.1⟩
  by_cases hserve : ∃ c ∈ cs, Serves j c
  · exact hserve
  · have hn : ∀ c ∈ cs, ¬ Serves j c := fun c hc h => hserve ⟨c, hc, h⟩
    have hlt := (hcalls.ticks hok hw hn).length_lt
    omega

/-! ## Concrete calls -/

/-- The calls that a list of operations makes. -/
def runCalls (P : SystemParameters) : Sys → List Op → Option (List PickCall × Sys)
  | s, [] => some ([], s)
  | s, a :: as =>
    match s.step P a with
    | none => none
    | some t =>
      match runCalls P t as with
      | none => none
      | some (cs, u) => some ((pickCall P s a).toList ++ cs, u)

theorem calls_of_runCalls : ∀ {as : List Op} {s u : Sys} {cs : List PickCall},
    runCalls P s as = some (cs, u) → Calls P s cs u := by
  intro as
  induction as with
  | nil =>
    intro s u cs h
    cases h
    exact .nil s
  | cons a as ih =>
    intro s u cs h
    unfold runCalls at h
    split at h
    · cases h
    · rename_i t hst
      split at h
      · cases h
      · rename_i cs' u' hrun
        cases h
        have hcalls := ih hrun
        cases hc : pickCall P s a with
        | none => exact .other hst hc hcalls
        | some c => exact .pick hst hc hcalls

instance (j : SubIndex) (c : PickCall) : Decidable (Waits j c) :=
  decidable_of_iff (c.queue.isBarrierMode = false ∧ c.queue.sumOfPendingVsync = 0 ∧
      ((c.queue.subEventQueues j).queue.head?.any fun e => decide (e.handleTime ≤ c.now.ns ∧
        ∀ i < j, (c.queue.subEventQueues i).queue.head?.all
          fun x => decide (e.handleTime < x.handleTime))) = true) <| by
    constructor
    · rintro ⟨hb, hp, hdue⟩
      obtain ⟨e, he, hd⟩ := (Option.any_eq_true _ _).1 hdue
      have hd := of_decide_eq_true hd
      refine ⟨hb, hp, e, he, hd.1, fun i hi x hx => ?_⟩
      have hall := hd.2 i hi
      rw [hx] at hall
      simpa using hall
    · rintro ⟨hb, hp, e, he, hd, hup⟩
      refine ⟨hb, hp, ?_⟩
      rw [he]
      simp only [Option.any_some, decide_eq_true_eq]
      refine ⟨hd, fun i hi => ?_⟩
      cases hx : (c.queue.subEventQueues i).queue.head? with
      | none => rfl
      | some x => simpa using hup i hi x hx

/-- Seven `VIP` events due after one `IMMEDIATE` event, and six calls. -/
def bypassRun : List Op :=
  insertAt (atMs 1) (plainEvent (atMs 1)) .IMMEDIATE ::
    (List.replicate 7 (insertAt (atMs 2) (plainEvent (atMs 2)) .VIP) ++
      List.replicate 6 (.getExpiredEvent (atMs 3) (atMs 3)))

theorem bounded_bypass_run : ∃ cs t, Calls {} (queueSystem {} (atMs 0)).init cs t ∧
    cs.length = 6 ∧ ∃ c ∈ cs, Serves 1 c := by
  have hrun : (runCalls {} (queueSystem {} (atMs 0)).init bypassRun).any
      (fun r => decide (r.1.length = 6) && r.1.all (fun c => decide (Waits 1 c))) = true := by
    decide
  obtain ⟨⟨cs, t⟩, hr, hcs⟩ := (Option.any_eq_true _ _).1 hrun
  simp only [Bool.and_eq_true, decide_eq_true_eq, List.all_eq_true] at hcs
  have hcalls := calls_of_runCalls hr
  exact ⟨cs, t, hcalls, hcs.1,
    (bounded_bypass {} (atMs 0) .init).1 1 cs t hcalls hcs.2 (by rw [hcs.1]; decide)⟩

end AppExecFwk
