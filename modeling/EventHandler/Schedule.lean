import EventHandler.Starvation
import EventHandler.Lib.Ruler

/-!
# Which sub-queue a call of `PickEventLocked` chooses

Outside barrier mode and with no vsync pending, the sub-queues whose head is due and earlier than the
heads of all higher ones compete.  The loop passes over a competing sub-queue when its quota is used
up and a lower one competes, and behind it the counters above the chosen one are cleared: that is a
turn of `Ruler`, in base `maxHandledEventsCount + 1`.

* `PickCall.contenders`, `PickCall.priorityIndex` — who competes for a call, and whom the loop ends
  with.
* `competing`, `competing_eq` — the sub-queues on which the test of the loop answers yes.
* `pickLoop_turn`, `turn_of_call` — a call is a turn of the contenders.
* `nth_pick` — as long as the same sub-queues compete, the choices are the ruler sequence that the
  counters of the first state start.
* `pick_shares` — and among `6 ^ k` calls in a row each sub-queue is chosen as often as its rank
  says.
-/

set_option autoImplicit false

namespace AppExecFwk

open Transition EventQueueBase

/-- The counters `handledEventsCount`. -/
def EventQueueBase.handled (q : EventQueueBase) (i : SubIndex) : Nat :=
  (q.subEventQueues i).handledEventsCount

/-- The sub-queues that compete for the call, from `VIP` to `LOW`. -/
def PickCall.contenders (c : PickCall) : List SubIndex :=
  subIndices.filter fun j => decide (Waits j c)

/-- `priorityIndex` when the loop of the call ends. -/
def PickCall.priorityIndex (c : PickCall) : Option SubIndex :=
  (c.queue.afterLoop c.now.ns TimePoint.max).priorityIndex

/-- The sub-queues on which `CheckEventInListLocked` answers yes when the loop comes to them. -/
def competing (q : EventQueueBase) (now : Int) : List SubIndex → Int → List SubIndex
  | [], _ => []
  | i :: is, next =>
    let r := checkEventInListLocked (q.subEventQueues i).queue now next
    if r.1 then i :: competing q now is r.2 else competing q now is r.2

theorem competing_sublist (q : EventQueueBase) (now : Int) : ∀ (is : List SubIndex) (next : Int),
    (competing q now is next).Sublist is := by
  intro is
  induction is with
  | nil => exact fun _ => List.Sublist.refl _
  | cons i is ih =>
    intro next
    unfold competing
    simp only
    split
    · exact (ih _).cons_cons i
    · exact (ih _).cons i

/-! ## The contenders -/

/-- Behind the indices `done` the wake-up time tells whether a due time is earlier than the heads seen
    so far. -/
def Seen (q : EventQueueBase) (now : Int) (done : List SubIndex) (next : Int) : Prop :=
  ∀ t ≤ now, t < next ↔ ∀ i ∈ done, ∀ x, (q.subEventQueues i).queue.head? = some x →
    t < x.handleTime

/-- One test of the loop: it answers yes exactly on a due head earlier than those seen before. -/
theorem checkEvent_seen {q : EventQueueBase} {now next : Int} {done : List SubIndex} (j : SubIndex)
    (h : Seen q now done next) :
    let r := checkEventInListLocked (q.subEventQueues j).queue now next
    (r.1 = true ↔ ∃ e, (q.subEventQueues j).queue.head? = some e ∧ e.handleTime ≤ now ∧
      ∀ i ∈ done, ∀ x, (q.subEventQueues i).queue.head? = some x → e.handleTime < x.handleTime) ∧
    Seen q now (done ++ [j]) r.2 := by
  have seen_snoc : ∀ t, (∀ i ∈ done ++ [j], ∀ x, (q.subEventQueues i).queue.head? = some x →
      t < x.handleTime) ↔ (∀ i ∈ done, ∀ x, (q.subEventQueues i).queue.head? = some x →
      t < x.handleTime) ∧ ∀ x, (q.subEventQueues j).queue.head? = some x → t < x.handleTime := by
    intro t
    simp only [List.mem_append, List.mem_singleton, or_imp, forall_and, forall_eq]
  unfold Seen at h ⊢
  simp only [seen_snoc]
  cases hl : (q.subEventQueues j).queue with
  | nil =>
    refine ⟨iff_of_false (by simp [checkEventInListLocked]) (by simp), fun t ht => ?_⟩
    simpa [checkEventInListLocked] using h t ht
  | cons x xs =>
    simp only [checkEventInListLocked, List.head?_cons, Option.some.injEq, forall_eq',
      exists_eq_left']
    by_cases hlt : x.handleTime < next
    · simp only [hlt, if_true, decide_eq_true_eq]
      refine ⟨⟨fun hd => ⟨hd, (h _ hd).1 hlt⟩, And.left⟩, fun t ht => ?_⟩
      rw [← h t ht]
      omega
    · simp only [hlt, if_false, Bool.false_eq_true, false_iff]
      constructor
      · rintro ⟨hd, hup⟩
        exact hlt ((h _ hd).2 hup)
      · intro t ht
        rw [← h t ht]
        omega

/-- The indices before `j` in `subIndices` are those above it. -/
theorem mem_done {done is : List SubIndex} {j : SubIndex} (h : done ++ j :: is = subIndices)
    (i : SubIndex) : i ∈ done ↔ i < j := by
  have hs : (done ++ j :: is).Pairwise (· < ·) := by
    rw [h]
    decide
  obtain ⟨-, hj, hlt⟩ := List.pairwise_append.1 hs
  refine ⟨fun hi => hlt i hi j List.mem_cons_self, fun hi => ?_⟩
  have hmem : i ∈ done ++ j :: is := by
    rw [h]
    have : ∀ i : SubIndex, i ∈ subIndices := by decide
    exact this i
  rcases List.mem_append.1 hmem with hd | hd
  · exact hd
  · rcases List.mem_cons.1 hd with rfl | hd
    · exact absurd hi (lt_irrefl _)
    · exact absurd hi (lt_asymm ((List.pairwise_cons.1 hj).1 i hd))

theorem competing_filter {c : PickCall} (hb : c.queue.isBarrierMode = false)
    (hp : c.queue.sumOfPendingVsync = 0) : ∀ (is done : List SubIndex) (next : Int),
    done ++ is = subIndices → Seen c.queue c.now.ns done next →
    competing c.queue c.now.ns is next = is.filter fun j => decide (Waits j c) := by
  intro is
  induction is with
  | nil => exact fun _ _ _ _ => rfl
  | cons j is ih =>
    intro done next hd hs
    obtain ⟨hyes, hseen⟩ := checkEvent_seen j hs
    have hwaits : Waits j c ↔
        (checkEventInListLocked (c.queue.subEventQueues j).queue c.now.ns next).1 = true := by
      rw [hyes]
      simp only [mem_done hd]
      exact ⟨Waits.due, fun h => ⟨hb, hp, h⟩⟩
    have hrest := ih (done ++ [j]) _ (by simpa using hd) hseen
    unfold competing
    simp only [List.filter_cons, hwaits, decide_eq_true_eq, hrest]

/-- **Who competes**: the loop answers yes on the contenders. -/
theorem competing_eq {c : PickCall} (hb : c.queue.isBarrierMode = false)
    (hp : c.queue.sumOfPendingVsync = 0) :
    competing c.queue c.now.ns subIndices TimePoint.max = c.contenders := by
  apply competing_filter hb hp subIndices [] TimePoint.max rfl
  intro t ht
  exact iff_of_true (lt_of_le_of_lt ht c.now.lt_max) fun i hi => (List.not_mem_nil hi).elim

/-! ## A call is a turn -/

theorem hasQuota_iff {q : EventQueueBase} (hq : CountsOk q) (p : SubIndex) :
    q.hasQuota p ↔ q.handled p + 1 < 6 := by
  unfold hasQuota
  rw [hq.2 p]
  unfold DEFAULT_MAX_HANDLED_EVENT_COUNT handled
  omega

theorem handled_lt {q : EventQueueBase} (hq : CountsOk q) (p : SubIndex) : q.handled p < 6 := by
  have hb := hq.1 p
  rw [hq.2 p] at hb
  unfold DEFAULT_MAX_HANDLED_EVENT_COUNT at hb
  unfold handled
  omega

/-- From an index on the loop is a turn of this index and of those that compete behind it. -/
theorem pickLoop_turn {q : EventQueueBase} (hq : CountsOk q) (now : Int) :
    ∀ (is : List SubIndex) (p : SubIndex) (next : Int), (p :: is).Pairwise (· < ·) →
    let st := pickLoop false now is ⟨q, some p, next⟩
    ∃ r, st.priorityIndex = some r ∧ p ≤ r ∧
      Ruler.Turn 6 q.handled (st.queue.resetHandled r).handled (p :: competing q now is next) r := by
  intro is
  induction is with
  | nil => exact fun p next _ => ⟨p, rfl, le_refl p, .last p⟩
  | cons i is ih =>
    intro p next hs
    obtain ⟨hp, hi⟩ := List.pairwise_cons.1 hs
    have hlist : checkList false (q.subEventQueues i).queue now next =
        checkEventInListLocked (q.subEventQueues i).queue now next := if_neg Bool.false_ne_true
    unfold competing
    rw [← hlist]
    rcases pickLoop_cons false now i is ⟨q, some p, next⟩ with ⟨hf, hl⟩ | ⟨ht, p', hp', hquota, hl⟩ |
      ⟨ht, hquota, hl⟩
    · simp only at hf hl
      simp only [hl, hf, Bool.false_eq_true, if_false]
      exact ih p _ (hs.sublist (List.sublist_cons_self i is |>.cons_cons p))
    · cases hp'
      simp only at ht hl hquota
      simp only [hl, ht, if_true]
      refine ⟨p, rfl, le_refl p, .stays ((hasQuota_iff hq p).1 hquota) ?_ fun x hx => ?_⟩
      · show ((resetHandled _ p).subEventQueues p).handledEventsCount = _
        rw [resetHandled_count, if_neg (lt_irrefl p), countHandled_count, if_pos rfl]
        rfl
      · have hlt : p < x := by
          rcases List.mem_cons.1 hx with rfl | hx
          · exact hp x List.mem_cons_self
          · exact hp x (List.mem_cons_of_mem _ ((competing_sublist q now is _).subset hx))
        show ((resetHandled _ p).subEventQueues x).handledEventsCount = _
        rw [resetHandled_count, if_neg (lt_asymm hlt), countHandled_count, if_neg (ne_of_gt hlt)]
        rfl
    · simp only at ht hl hquota
      simp only [hl, ht, if_true]
      obtain ⟨r, hr, hir, hturn⟩ := ih i (checkList false (q.subEventQueues i).queue now next).2 hi
      have hpr : p < r := lt_of_lt_of_le (hp i List.mem_cons_self) hir
      refine ⟨r, hr, hpr.le, .passes ?_ ?_ hturn⟩
      · have hno := hquota p rfl
        rw [hasQuota_iff hq] at hno
        have := handled_lt hq p
        omega
      · show ((resetHandled _ r).subEventQueues p).handledEventsCount = _
        rw [resetHandled_count, if_pos hpr]

/-- The first index the loop finds is the first that competes. -/
theorem pickLoop_first (q : EventQueueBase) (now : Int) {p : SubIndex} {C : List SubIndex} :
    ∀ (is : List SubIndex) (next : Int), is.Pairwise (· < ·) → competing q now is next = p :: C →
    ∃ is' next', (p :: is').Pairwise (· < ·) ∧ competing q now is' next' = C ∧
      pickLoop false now is ⟨q, none, next⟩ = pickLoop false now is' ⟨q, some p, next'⟩ := by
  intro is
  induction is with
  | nil => exact fun _ _ h => by cases h
  | cons i is ih =>
    intro next hs h
    have hlist : checkList false (q.subEventQueues i).queue now next =
        checkEventInListLocked (q.subEventQueues i).queue now next := if_neg Bool.false_ne_true
    unfold competing at h
    rw [← hlist] at h
    rcases pickLoop_cons false now i is ⟨q, none, next⟩ with ⟨hf, hl⟩ | ⟨-, p', hp', -, -⟩ |
      ⟨ht, -, hl⟩
    · simp only at hf hl
      simp only [hf, Bool.false_eq_true, if_false] at h
      rw [hl]
      exact ih _ (List.pairwise_cons.1 hs).2 h
    · cases hp'
    · simp only at ht hl
      simp only [ht, if_true, List.cons.injEq] at h
      obtain ⟨rfl, hC⟩ := h
      exact ⟨is, _, hs, hC, hl⟩

/-- **A call is a turn of its contenders**, and it returns the head of the chosen sub-queue. -/
theorem turn_of_call {c : PickCall} (hq : CountsOk c.queue) (hne : c.contenders ≠ []) :
    ∃ r e, c.priorityIndex = some r ∧ c.outcome.event = some e ∧
      (c.queue.subEventQueues r).queue.head? = some e ∧
      Ruler.Turn 6 c.queue.handled c.outcome.queue.handled c.contenders r := by
  obtain ⟨j, hj⟩ := List.exists_mem_of_ne_nil _ hne
  have hw : Waits j c := of_decide_eq_true (List.mem_filter.1 hj).2
  obtain ⟨p, C, hC⟩ := List.exists_cons_of_ne_nil hne
  rw [← competing_eq hw.barrier hw.pending] at hC
  obtain ⟨is, next, hs, hC', hl⟩ := pickLoop_first c.queue c.now.ns subIndices TimePoint.max
    (by decide) hC
  obtain ⟨r, hr, -, hturn⟩ := pickLoop_turn hq c.now.ns is p next hs
  rw [← hl] at hr hturn
  rw [hC', ← hC, competing_eq hw.barrier hw.pending] at hturn
  have hloop : c.queue.afterLoop c.now.ns TimePoint.max =
      pickLoop false c.now.ns subIndices ⟨c.queue, none, TimePoint.max⟩ := by
    rw [afterLoop, hw.barrier]
  have hindex : c.priorityIndex = some r := by rw [PickCall.priorityIndex, hloop, hr]
  have hnovsync : ∀ o, c.queue.vsyncTurn o = false := by simp [vsyncTurn, hw.pending]
  rcases c.queue.pickEventLocked_cases c.now.ns TimePoint.max with ⟨_, -, ht, -⟩ | ⟨-, hn, -⟩ |
    ⟨-, r', hr', hcomp, hp⟩
  · rw [hnovsync] at ht
    cases ht
  · rw [show (c.queue.afterLoop c.now.ns TimePoint.max).priorityIndex = some r from hindex] at hn
    cases hn
  · rw [show (c.queue.afterLoop c.now.ns TimePoint.max).priorityIndex = some r from hindex] at hr'
    cases hr'
    rw [hw.barrier] at hcomp hp
    obtain ⟨e, he, -⟩ := hcomp
    have hsame : (((c.queue.afterLoop c.now.ns TimePoint.max).queue.resetHandled r).subEventQueues
        r).queue = (c.queue.subEventQueues r).queue :=
      (resetHandled_same _ r (some r)).trans
        ((c.queue.afterLoop_frame c.now.ns TimePoint.max).2 (some r))
    refine ⟨r, e, hindex, ?_, he, ?_⟩
    · rw [show c.outcome = c.queue.pickEventLocked c.now.ns TimePoint.max from rfl, hp]
      simp only [popChosen, Bool.false_eq_true, if_false, popFrontEventFromListLocked]
      rw [hsame]
      exact he
    · rw [hloop] at hp
      convert hturn using 1
      funext i
      rw [show c.outcome = c.queue.pickEventLocked c.now.ns TimePoint.max from rfl, hp]
      exact setQueue_count _ r i _

/-! ## The schedule -/

variable {P : SystemParameters} {s t : Sys}

theorem handled_congr {q q' : EventQueueBase} (h : SameCounts q q') : q'.handled = q.handled :=
  funext fun i => (h i).1

/-- **Calls with the same contenders are turns in a row.** -/
theorem Calls.turns {R : List SubIndex} {cs : List PickCall} (h : Calls P s cs t)
    (hs : CountsOk s.queue) (hne : R ≠ []) (hR : ∀ c ∈ cs, c.contenders = R) :
    ∃ rs, cs.map PickCall.priorityIndex = rs.map some ∧
      Ruler.Turns 6 R s.queue.handled rs t.queue.handled ∧
      ∀ c ∈ cs, ∃ r e, c.priorityIndex = some r ∧ c.outcome.event = some e ∧
        (c.queue.subEventQueues r).queue.head? = some e := by
  induction h with
  | nil s => exact ⟨[], rfl, .nil _, fun _ hc => (List.not_mem_nil hc).elim⟩
  | other hst hc _ ih =>
    have h := ih (countsOk_step hs hst) hR
    rw [handled_congr (step_sameCounts hst hc)] at h
    exact h
  | @pick s t u a c cs hst hc _ ih =>
    obtain ⟨hsame, hafter⟩ := step_pickCounts hst hc
    obtain ⟨rs, hrs, hturns, hheads⟩ :=
      ih (countsOk_step hs hst) fun c hc => hR c (List.mem_cons_of_mem _ hc)
    have hRc := hR c List.mem_cons_self
    obtain ⟨r, e, hr, he, hhead, hturn⟩ := turn_of_call (hs.of_same hsame) (by rw [hRc]; exact hne)
    rw [handled_congr hsame, ← handled_congr hafter, hRc] at hturn
    refine ⟨r :: rs, by rw [List.map_cons, List.map_cons, hr, hrs],
      .cons (fun x _ => handled_lt hs x) hturn hturns, fun c' hc' => ?_⟩
    rcases List.mem_cons.1 hc' with rfl | hc'
    · exact ⟨r, e, hr, he, hhead⟩
    · exact hheads c' hc'

/-- **The schedule.** From a reachable state, as long as the same sub-queues compete, call `n` returns
    the head of the sub-queue whose rank among them is the number of times that 6 divides `v + n + 1`,
    or of the last one; `v` is read off the counters of the first state. -/
theorem nth_pick (P : SystemParameters) (start : ClockTime) {s t : Sys}
    (hs : (queueSystem P start).Reachable System.always s) {R : List SubIndex} (hne : R ≠ [])
    {cs : List PickCall} (hc : Calls P s cs t) (hR : ∀ c ∈ cs, c.contenders = R) {n : Nat}
    {c : PickCall} (hn : cs[n]? = some c) :
    ∃ r e, R[Ruler.ruler 6 (R.length - 1) (Ruler.value 6 s.queue.handled R + n)]? = some r ∧
      c.outcome.event = some e ∧ (c.queue.subEventQueues r).queue.head? = some e := by
  obtain ⟨rs, hrs, hturns, hheads⟩ := hc.turns (reachable_countsOk hs) hne hR
  obtain ⟨r, e, hr, he, hhead⟩ := hheads c (List.mem_of_getElem? hn)
  have hrn : rs[n]? = some r := by
    have h := congrArg (·[n]?) hrs
    simp only [List.getElem?_map, hn, Option.map_some, hr] at h
    cases hx : rs[n]? with
    | none => rw [hx] at h; cases h
    | some x => rw [hx] at h; exact congrArg some (Option.some.inj (Option.some.inj h)).symm
  exact ⟨r, e, hturns.nth (by decide) hrn, he, hhead⟩

/-- **The shares.** From a reachable state, when `k + 1` sub-queues compete for `6 ^ k` calls in a row,
    the one of rank `m` is chosen for `5 * 6 ^ (k - 1 - m)` of them and the last one for one; and each
    call returns the head of the sub-queue it chose. -/
theorem pick_shares (P : SystemParameters) (start : ClockTime) {s t : Sys}
    (hs : (queueSystem P start).Reachable System.always s) {R : List SubIndex} (hne : R ≠ [])
    {cs : List PickCall} (hc : Calls P s cs t) (hR : ∀ c ∈ cs, c.contenders = R)
    (hlen : cs.length = 6 ^ (R.length - 1)) :
    (∀ m r, R[m]? = some r → cs.countP (fun c => decide (c.priorityIndex = some r)) =
      if m + 1 = R.length then 1 else 5 * 6 ^ (R.length - 2 - m)) ∧
    ∀ c ∈ cs, ∃ r e, c.priorityIndex = some r ∧ c.outcome.event = some e ∧
      (c.queue.subEventQueues r).queue.head? = some e := by
  obtain ⟨rs, hrs, hturns, hheads⟩ := hc.turns (reachable_countsOk hs) hne hR
  have hlen' : rs.length = 6 ^ (R.length - 1) := by
    rw [← hlen, ← List.length_map some, ← hrs, List.length_map]
  refine ⟨fun m r hm => ?_, hheads⟩
  have hnodup : R.Nodup := by
    obtain ⟨c, hmem⟩ := List.exists_mem_of_length_pos (hlen ▸ pow_pos (by decide) _)
    rw [← hR c hmem]
    exact List.Nodup.filter _ (by decide)
  rw [← hturns.share (by decide) hnodup hlen' hm, List.count_eq_countP]
  have hcount := congrArg (List.countP (fun o => decide (o = some r))) hrs
  rw [List.countP_map, List.countP_map] at hcount
  refine Eq.trans hcount (List.countP_congr fun x _ => ?_)
  simp

/-- Seven `VIP` events and an earlier `IMMEDIATE` one compete in each of six calls. -/
theorem bypassRun_contenders : ∃ cs t, Calls {} (queueSystem {} (atMs 0)).init cs t ∧
    cs.length = 6 ∧ ∀ c ∈ cs, c.contenders = [0, 1] := by
  obtain ⟨⟨cs, t⟩, hr, hcs⟩ := (Option.any_eq_true _ _).1
    (show (runCalls {} (queueSystem {} (atMs 0)).init bypassRun).any
      (fun r => decide (r.1.length = 6) && r.1.all (fun c => decide (c.contenders = [0, 1]))) = true
      by decide)
  simp only [Bool.and_eq_true, decide_eq_true_eq, List.all_eq_true] at hcs
  exact ⟨cs, t, calls_of_runCalls hr, hcs⟩

/-- The sixth call is for `IMMEDIATE`. -/
theorem nth_pick_run : ∃ cs t c e, Calls {} (queueSystem {} (atMs 0)).init cs t ∧
    cs[5]? = some c ∧ c.outcome.event = some e ∧
    (c.queue.subEventQueues 1).queue.head? = some e := by
  obtain ⟨cs, t, hcalls, hlen, hR⟩ := bypassRun_contenders
  have hc := List.getElem?_eq_getElem (show 5 < cs.length by omega)
  obtain ⟨r, e, hr, he, hhead⟩ := nth_pick {} (atMs 0) .init (by decide) hcalls hR hc
  cases hr
  exact ⟨cs, t, _, e, hcalls, hc, he, hhead⟩

/-- Five of the six calls are for `VIP`. -/
theorem pick_shares_run : ∃ cs t, Calls {} (queueSystem {} (atMs 0)).init cs t ∧
    cs.countP (fun c => decide (c.priorityIndex = some 0)) = 5 := by
  obtain ⟨cs, t, hcalls, hlen, hR⟩ := bypassRun_contenders
  exact ⟨cs, t, hcalls, (pick_shares {} (atMs 0) .init (by decide) hcalls hR hlen).1 0 0 rfl⟩

end AppExecFwk
