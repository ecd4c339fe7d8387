import EventHandler.Order
import EventHandler.Ready

/-!
# Barrier tasks and vsync tasks

In barrier mode `PickEventLocked` scans the sub-queues for due barrier tasks and takes one from the
sub-queue whose turn it is; but when that is `HIGH` or `LOW` it looks for a vsync task first.

* `DueBarrier`, `BarrierTurn` — a due barrier task of a list, and the sub-queue whose turn it is: the
  first one with a due barrier task that has quota left or none with a due barrier task below it.
* `afterLoop_barrier` — the loop of `PickEventLocked` ends at that sub-queue.
* `VsyncOvertakes`, `MarkedOvertakes` — the two ways a vsync task goes before a due barrier task.
* `barrier_before_vsync_iff` — in barrier mode a vsync task is returned with a due barrier task left
  exactly then.
* `vsync_before_barrier` — a run in which a `FORCE_BARRIER` task in `HIGH` is overtaken.
-/

set_option autoImplicit false

namespace AppExecFwk

open Transition EventQueueBase

/-! ## The sub-queue whose turn it is -/

/-- A barrier task of the list is due. -/
def DueBarrier (events : List InnerEvent) (now : Int) : Prop :=
  ∃ b ∈ events, b.isBarrier = true ∧ b.handleTime ≤ now

instance (events : List InnerEvent) (now : Int) : Decidable (DueBarrier events now) :=
  inferInstanceAs (Decidable (∃ b ∈ events, _ ∧ _))

/-- In a sorted list the first barrier task is due iff one of them is. -/
theorem competes_iff_dueBarrier {events : List InnerEvent} {now : Int}
    (hs : SortedByHandleTime events) : Competes true events now ↔ DueBarrier events now := by
  constructor
  · rintro ⟨e, he, hdue⟩
    exact ⟨e, List.mem_of_find?_eq_some he, List.find?_some he, hdue⟩
  · rintro ⟨b, hb, hbar, hdue⟩
    by_contra hc
    have hf : (checkBarrierTaskInListLocked now events TimePoint.max).1 = false := by
      rw [← Bool.not_eq_true]
      exact fun h => hc (checkBarrier_true h)
    have := checkBarrier_false hs hf b hb hbar
    omega

theorem checkList_barrier {events : List InnerEvent} {now t : Int}
    (hs : SortedByHandleTime events) :
    (checkList true events now t).1 = true ↔ DueBarrier events now := by
  constructor
  · exact fun h => (competes_iff_dueBarrier hs).1 (checkList_true h)
  · rintro ⟨b, hb, hbar, hdue⟩
    by_contra hf
    rw [Bool.not_eq_true] at hf
    have := checkBarrier_false hs hf b hb hbar
    omega

/-- The sub-queue whose turn it is in barrier mode. -/
structure BarrierTurn (q : EventQueueBase) (now : Int) (r : SubIndex) : Prop where
  due : DueBarrier (q.subEventQueues r).queue now
  above : ∀ i < r, DueBarrier (q.subEventQueues i).queue now → ¬ q.hasQuota i
  stop : q.hasQuota r ∨ ∀ i, r < i → ¬ DueBarrier (q.subEventQueues i).queue now

theorem BarrierTurn.unique {q : EventQueueBase} {now : Int} {r r' : SubIndex}
    (h : BarrierTurn q now r) (h' : BarrierTurn q now r') : r = r' := by
  have no_later : ∀ {a b : SubIndex}, BarrierTurn q now a → BarrierTurn q now b → ¬ a < b := by
    intro a b ha hb hab
    rcases ha.stop with hq | hq
    · exact hb.above a hab ha.due hq
    · exact hq b hab hb.due
  rcases lt_trichotomy r r' with hlt | heq | hlt
  · exact absurd hlt (no_later h h')
  · exact heq
  · exact absurd hlt (no_later h' h)

/-- The loop in barrier mode ends at the index it came with, or at the sub-queue whose turn it is
    among those it still looks at. -/
theorem pickLoop_barrier (now : Int) : ∀ (is : List SubIndex) (st : PickLoop) (r : SubIndex),
    is.Pairwise (· < ·) →
    (∀ i ∈ is, SortedByHandleTime (st.queue.subEventQueues i).queue) →
    (pickLoop true now is st).priorityIndex = some r →
    (st.priorityIndex = some r ∧ (st.queue.hasQuota r ∨
      ∀ i ∈ is, ¬ DueBarrier (st.queue.subEventQueues i).queue now)) ∨
    (r ∈ is ∧ DueBarrier (st.queue.subEventQueues r).queue now ∧
      (∀ p, st.priorityIndex = some p → ¬ st.queue.hasQuota p) ∧
      (∀ i ∈ is, i < r → DueBarrier (st.queue.subEventQueues i).queue now →
        ¬ st.queue.hasQuota i) ∧
      (st.queue.hasQuota r ∨
        ∀ i ∈ is, r < i → ¬ DueBarrier (st.queue.subEventQueues i).queue now)) := by
  intro is
  induction is with
  | nil => exact fun st r _ _ h => Or.inl ⟨h, Or.inr fun _ hi => (List.not_mem_nil hi).elim⟩
  | cons i is ih =>
    intro st r hlt hs h
    obtain ⟨hi, hlt'⟩ := List.pairwise_cons.1 hlt
    have hsi := hs i List.mem_cons_self
    have hs' : ∀ k ∈ is, SortedByHandleTime (st.queue.subEventQueues k).queue :=
      fun k hk => hs k (List.mem_cons_of_mem _ hk)
    rcases pickLoop_cons true now i is st with ⟨hc, hl⟩ | ⟨-, p, hp, hq, hl⟩ | ⟨hc, hnq, hl⟩
    · -- no due barrier task in list `i`
      have hnot : ¬ DueBarrier (st.queue.subEventQueues i).queue now := by
        rw [← checkList_barrier hsi, hc]
        decide
      rw [hl] at h
      rcases ih ⟨st.queue, st.priorityIndex,
          (checkList true (st.queue.subEventQueues i).queue now st.nextWakeUpTime).2⟩ r hlt' hs' h with
        ⟨hr, hstop⟩ | ⟨hm, hd, hp, hab, hstop⟩
      · refine Or.inl ⟨hr, hstop.imp id fun hno k hk => ?_⟩
        rcases List.mem_cons.1 hk with rfl | hk
        · exact hnot
        · exact hno k hk
      · refine Or.inr ⟨List.mem_cons_of_mem _ hm, hd, hp, fun k hk hkr hkd => ?_,
          hstop.imp id fun hno k hk hkr => ?_⟩
        · rcases List.mem_cons.1 hk with rfl | hk
          · exact absurd hkd hnot
          · exact hab k hk hkr hkd
        · rcases List.mem_cons.1 hk with rfl | hk
          · exact hnot
          · exact hno k hk hkr
    · -- the remembered index has quota left
      rw [hl] at h
      cases h
      exact Or.inl ⟨hp, Or.inl hq⟩
    · -- list `i` is remembered
      have hdue : DueBarrier (st.queue.subEventQueues i).queue now := (checkList_barrier hsi).1 hc
      rw [hl] at h
      rcases ih ⟨st.queue, some i, _⟩ r hlt' hs' h with
        ⟨hr, hstop⟩ | ⟨hm, hd, hp, hab, hstop⟩
      · cases hr
        refine Or.inr ⟨List.mem_cons_self, hdue, hnq, fun k hk hkr => ?_,
          hstop.imp id fun hno k hk hkr => ?_⟩
        · rcases List.mem_cons.1 hk with rfl | hk
          · exact absurd hkr (lt_irrefl _)
          · exact absurd (hi k hk) (not_lt_of_gt hkr)
        · rcases List.mem_cons.1 hk with rfl | hk
          · exact absurd hkr (lt_irrefl _)
          · exact hno k hk
      · refine Or.inr ⟨List.mem_cons_of_mem _ hm, hd, hnq, fun k hk hkr hkd => ?_,
          hstop.imp id fun hno k hk hkr => ?_⟩
        · rcases List.mem_cons.1 hk with rfl | hk
          · exact hp k rfl
          · exact hab k hk hkr hkd
        · rcases List.mem_cons.1 hk with rfl | hk
          · exact absurd (hi r hm) (not_lt_of_gt hkr)
          · exact hno k hk hkr

/-- **In barrier mode the loop of `PickEventLocked` ends at the sub-queue whose turn it is.** -/
theorem afterLoop_barrier {q : EventQueueBase} {now next : Int} {r : SubIndex}
    (hs : ∀ i, SortedByHandleTime (q.events (some i))) (hb : q.isBarrierMode = true)
    (h : (q.afterLoop now next).priorityIndex = some r) : BarrierTurn q now r := by
  unfold afterLoop at h
  rw [hb] at h
  have hmem : ∀ i : SubIndex, i ∈ subIndices := by decide
  rcases pickLoop_barrier now subIndices ⟨q, none, next⟩ r (by decide) (fun i _ => hs i) h with
    ⟨hr, -⟩ | ⟨-, hd, -, hab, hstop⟩
  · cases hr
  · exact ⟨hd, fun i => hab i (hmem i), hstop.imp id fun hno i => hno i (hmem i)⟩

/-- The loop in barrier mode finds no index: no barrier task is due. -/
theorem no_dueBarrier_of_none {q : EventQueueBase} {now next : Int}
    (hs : ∀ i, SortedByHandleTime (q.events (some i))) (hb : q.isBarrierMode = true)
    (h : (q.afterLoop now next).priorityIndex = none) (i : SubIndex) :
    ¬ DueBarrier (q.events (some i)) now := by
  intro hd
  obtain ⟨-, -, hcheck, -, -⟩ :=
    pickLoop_none q.isBarrierMode now subIndices ⟨q, none, next⟩ (by decide) h
  have hmem : ∀ i : SubIndex, i ∈ subIndices := by decide
  obtain ⟨t, hf⟩ := hcheck i (hmem i)
  rw [hb] at hf
  have hyes : (checkList true (q.subEventQueues i).queue now t).1 = true :=
    (checkList_barrier (hs i)).2 hd
  exact absurd (hyes.symm.trans hf) (by decide)

theorem afterLoop_barrier_iff {q : EventQueueBase} {now next : Int} {r : SubIndex}
    (hs : ∀ i, SortedByHandleTime (q.events (some i))) (hb : q.isBarrierMode = true) :
    (q.afterLoop now next).priorityIndex = some r ↔ BarrierTurn q now r := by
  refine ⟨afterLoop_barrier hs hb, fun ht => ?_⟩
  cases hpi : (q.afterLoop now next).priorityIndex with
  | some r' => rw [(afterLoop_barrier hs hb hpi).unique ht]
  | none => exact absurd ht.due (no_dueBarrier_of_none hs hb hpi r)

/-! ## Overtaking -/

/-- No barrier task of the sub-queues is due. -/
def SparesBarrier (q : EventQueueBase) (now : Int) : Prop :=
  ∀ i, ¬ DueBarrier (q.events (some i)) now

/-- The vsync pick of `PickEventLocked` is open, finds a task, and it is the turn of `HIGH` or `LOW`
    to give a barrier task. -/
structure VsyncOvertakes (q : EventQueueBase) (now : Int) : Prop where
  ready : q.VsyncReady
  turn : ∃ r : SubIndex, 2 ≤ r.val ∧ BarrierTurn q now r

/-- The barrier task whose turn it is carries the vsync mark too, and another one is due. -/
structure MarkedOvertakes (q : EventQueueBase) (now : Int) : Prop where
  marked : ∃ r v, BarrierTurn q now r ∧
    (q.subEventQueues r).queue.find? InnerEvent.isBarrier = some v ∧ v.isVsync = true ∧
    (DueBarrier ((q.subEventQueues r).queue.eraseP InnerEvent.isBarrier) now ∨
      ∃ i, i ≠ r ∧ DueBarrier (q.subEventQueues i).queue now)

def Overtakes (q : EventQueueBase) (now : Int) : Prop := VsyncOvertakes q now ∨ MarkedOvertakes q now

theorem Overtakes.due {q : EventQueueBase} {now : Int} (h : Overtakes q now) :
    ∃ i, DueBarrier (q.subEventQueues i).queue now := by
  rcases h with ⟨-, r, -, ht⟩ | ⟨r, v, ht, -⟩
  · exact ⟨r, ht.due⟩
  · exact ⟨r, ht.due⟩

/-- What a pick from sub-queue `r` has to leave. -/
theorem sparesBarrier_iff_of_takes {q q' : EventQueueBase} {p : InnerEvent → Bool} {r : SubIndex}
    {e : InnerEvent} {now : Int} (h : Takes p (some r) e q q') :
    SparesBarrier q' now ↔
      ¬ (DueBarrier ((q.subEventQueues r).queue.eraseP p) now ∨
        ∃ i, i ≠ r ∧ DueBarrier (q.subEventQueues i).queue now) := by
  have hother : ∀ {i : SubIndex}, i ≠ r → q'.events (some i) = q.events (some i) :=
    fun hi => h.other (some _) (fun heq => hi (Option.some.inj heq))
  constructor
  · rintro hsp (hd | ⟨i, hi, hd⟩)
    · apply hsp r
      rw [h.rest]
      exact hd
    · apply hsp i
      rw [hother hi]
      exact hd
  · intro hno i hd
    by_cases hi : i = r
    · subst hi
      rw [h.rest] at hd
      exact hno (Or.inl hd)
    · rw [hother hi] at hd
      exact hno (Or.inr ⟨i, hi, hd⟩)

/-- A pick in barrier mode that takes a vsync task leaves no due barrier task iff nothing is
    overtaken. -/
theorem pick_spares_iff {q : EventQueueBase} {now next : Int} {e : InnerEvent}
    (hs : ∀ i, SortedByHandleTime (q.events (some i))) (hb : q.isBarrierMode = true)
    (h : (q.pickEventLocked now next).event = some e) (hv : e.isVsync = true) :
    SparesBarrier (q.pickEventLocked now next).queue now ↔ ¬ Overtakes q now := by
  have hsame := (q.afterLoop_frame now next).2
  rcases q.pickEventLocked_cases now next with ⟨x, hx, ht, hp⟩ | ⟨-, -, hp⟩ | ⟨hnv, r, hr, hc, hp⟩
  · -- the vsync pick
    rw [hp] at h ⊢
    have htk := (pickFirstVsync_some hx).of_same hsame
    simp only [vsyncTurn, Bool.and_eq_true, decide_eq_true_eq, Bool.not_eq_true'] at ht
    cases hpi : (q.afterLoop now next).priorityIndex with
    | none =>
      -- no sub-queue competes, so no barrier task is due
      have hno := no_dueBarrier_of_none hs hb hpi
      refine iff_of_true (fun i hd => ?_) fun hov => ?_
      · obtain ⟨b, hbm, hbb, hbd⟩ := hd
        exact hno i ⟨b, (htk.sublist (some i)).mem hbm, hbb, hbd⟩
      · obtain ⟨i, hd⟩ := hov.due
        exact hno i hd
    | some r =>
      rw [hpi] at ht
      simp only [decide_eq_true_eq] at ht
      have hturn := afterLoop_barrier hs hb hpi
      refine iff_of_false (fun hsp => hsp r ?_) fun hov => ?_
      · have hr0 : (some r : Option SubIndex) ≠ some 0 := by
          intro h0
          cases h0
          exact absurd ht.1.1 (by decide)
        rw [htk.other (some r) hr0]
        exact hturn.due
      · exact hov (Or.inl ⟨⟨ht.1.2, ht.2, x, htk.mem, htk.pred⟩, r, ht.1.1, hturn⟩)
  · rw [hp] at h
    cases h
  · -- the barrier pick of sub-queue `r`
    have hturn := afterLoop_barrier hs hb hr
    have hq : SameEvents q ((q.afterLoop now next).queue.resetHandled r) := fun k =>
      (resetHandled_same _ r k).trans (hsame k)
    have hc' : Competes true
        (((q.afterLoop now next).queue.resetHandled r).subEventQueues r).queue now := by
      have := hq (some r)
      rw [events_some, events_some] at this
      rw [this, ← hb]
      exact hc
    obtain ⟨x, p, hx, htk, -, hrule⟩ := popChosen_takes hc'
    obtain rfl : p = InnerEvent.isBarrier := by
      rcases hrule with ⟨h0, -⟩ | ⟨-, h1⟩
      · cases h0
      · exact h1
    rw [hp, hb] at h ⊢
    rw [hx] at h
    cases h
    have htk' := htk.of_same hq
    rw [sparesBarrier_iff_of_takes htk', not_iff_not]
    constructor
    · exact fun hd => Or.inr ⟨r, e, hturn, htk'.found, hv, hd⟩
    · rintro (⟨⟨hsum, hep, v, hvm, hvv⟩, r', hr', hturn'⟩ | ⟨r', v, hturn', -, -, hd⟩)
      · -- the vsync pick would have been open
        obtain rfl := hturn.unique hturn'
        have hopen : q.vsyncTurn (q.afterLoop now next).priorityIndex = true := by
          rw [hr]
          simp [vsyncTurn, hr', hsum, hep]
        rw [(pickFirstVsync_none_iff hsame).1 (hnv hopen) v hvm] at hvv
        cases hvv
      · obtain rfl := hturn.unique hturn'
        exact hd

/-- A pick in barrier mode takes a vsync task if one overtakes. -/
theorem pick_of_overtakes {q : EventQueueBase} {now next : Int}
    (hs : ∀ i, SortedByHandleTime (q.events (some i))) (hb : q.isBarrierMode = true)
    (h : Overtakes q now) :
    ∃ e, (q.pickEventLocked now next).event = some e ∧ e.isVsync = true := by
  have hsame := (q.afterLoop_frame now next).2
  obtain ⟨r, ht⟩ : ∃ r, BarrierTurn q now r := by
    rcases h with ⟨-, r, -, ht⟩ | ⟨r, -, ht, -⟩ <;> exact ⟨r, ht⟩
  have hpi : (q.afterLoop now next).priorityIndex = some r := (afterLoop_barrier_iff hs hb).2 ht
  rcases q.pickEventLocked_cases now next with ⟨x, hx, -, hp⟩ | ⟨-, hn, -⟩ | ⟨hnv, r', hr', -, hp⟩
  · exact ⟨x, by rw [hp], (pickFirstVsync_some hx).pred⟩
  · rw [hpi] at hn
    cases hn
  · rw [hpi] at hr'
    cases hr'
    rcases h with ⟨⟨hsum, hep, v, hvm, hvv⟩, r', hr', hturn'⟩ | ⟨r', v, hturn', hv, hvv, -⟩
    · -- the vsync pick is open
      obtain rfl := ht.unique hturn'
      have hopen : q.vsyncTurn (q.afterLoop now next).priorityIndex = true := by
        rw [hpi]
        simp [vsyncTurn, hr', hsum, hep]
      rw [(pickFirstVsync_none_iff hsame).1 (hnv hopen) v hvm] at hvv
      cases hvv
    · obtain rfl := ht.unique hturn'
      refine ⟨v, ?_, hvv⟩
      have hq : (((q.afterLoop now next).queue.resetHandled r).subEventQueues r).queue =
          (q.subEventQueues r).queue := (resetHandled_same _ r (some r)).trans (hsame (some r))
      rw [hp, hb]
      simp only [popChosen, if_true, popFrontBarrierEventFromListLocked, popFirst, hq]
      exact hv

/-! ## Turns of GetEvent -/

theorem BarrierTurn.of_sub {q q' : EventQueueBase} {now : Int} {r : SubIndex}
    (hsub : q'.subEventQueues = q.subEventQueues) (h : BarrierTurn q now r) :
    BarrierTurn q' now r := by
  refine ⟨?_, fun i hi hd => ?_, h.stop.imp (fun hq => ?_) fun hno i hi => ?_⟩
  · rw [hsub]
    exact h.due
  · rw [hsub] at hd
    unfold hasQuota
    rw [hsub]
    exact h.above i hi hd
  · unfold hasQuota
    rw [hsub]
    exact hq
  · rw [hsub]
    exact hno i hi

/-- Overtaking is a matter of the sub-queues, the counter and `needEpoll_`. -/
theorem Overtakes.of_sub {q q' : EventQueueBase} {now : Int}
    (hsub : q'.subEventQueues = q.subEventQueues)
    (hsum : q'.sumOfPendingVsync = q.sumOfPendingVsync) (hep : q'.needEpoll = q.needEpoll)
    (h : Overtakes q now) : Overtakes q' now := by
  rcases h with ⟨⟨hs, hn, v, hv, hvv⟩, r, hr, ht⟩ | ⟨r, v, ht, hv, hvv, hd⟩
  · refine Or.inl ⟨⟨by rw [hsum]; exact hs, by rw [hep]; exact hn, v, ?_, hvv⟩, r, hr, ht.of_sub hsub⟩
    rw [events_some, hsub]
    exact hv
  · refine Or.inr ⟨r, v, ht.of_sub hsub, by rw [hsub]; exact hv, hvv, ?_⟩
    rw [hsub]
    exact hd

/-- `GetExpiredEventLocked` hands on what `PickEventLocked` picks, and leaves the lists so. -/
theorem expired_of_pick {q : EventQueueBase} {now next : ClockTime} {t : Int} {e : InnerEvent}
    (h : (q.pickEventLocked now.ns TimePoint.max).event = some e) :
    (q.getExpiredEventLocked now next t).event = some e ∧
      SameEvents (q.pickEventLocked now.ns TimePoint.max).queue
        (q.getExpiredEventLocked now next t).queue := by
  rcases q.getExpiredEventLocked_cases now next t with ⟨x, hx, hr⟩ | ⟨hn, -⟩ | ⟨hn, -⟩
  · rw [h] at hx
    cases hx
    rw [hr]
    refine ⟨rfl, fun k => ?_⟩
    have hs := refreshFront_same (q.afterPick now) e.priority k
    cases k <;> exact hs
  · rw [h] at hn
    cases hn
  · rw [h] at hn
    cases hn

/-- A turn that yields an event is in the mode `CheckBarrierMode` left. -/
theorem pass_barrierMode {P : SystemParameters} {clk : PassClock} {q : EventQueueBase}
    {e : InnerEvent} (he : (q.getEventPass P clk).pass.event = some e) :
    q.finished = false ∧ (q.getEventPass P clk).queue.isBarrierMode =
      (q.checkBarrierMode P clk.check clk.enter).isBarrierMode := by
  have hctl := getExpiredEventLocked_sameControl (q.checkBarrierMode P clk.check clk.enter)
    clk.now clk.next TimePoint.max
  have hx := q.getEventPass_cases P clk
  generalize q.getEventPass P clk = o at he hx
  cases hx with
  | finished _ => cases he
  | expired x hf _ => exact ⟨hf, hctl.isBarrierMode⟩
  | lastVsync x hf _ _ _ =>
    exact ⟨hf, ((pickFirstVsync_frame _).sameControl.isBarrierMode).trans hctl.isBarrierMode⟩
  | reset _ _ _ _ => cases he
  | wait _ _ _ => cases he

theorem pass_of_expired {P : SystemParameters} {clk : PassClock} {q : EventQueueBase}
    {e : InnerEvent} (hf : q.finished = false) (he : (q.expired P clk).event = some e) :
    (q.getEventPass P clk).pass.event = some e ∧
      (q.getEventPass P clk).queue = (q.expired P clk).queue := by
  have hx := q.getEventPass_cases P clk
  generalize q.getEventPass P clk = o at hx
  cases hx with
  | finished h => rw [hf] at h; cases h
  | expired x _ hx =>
    rw [he] at hx
    cases hx
    refine ⟨?_, rfl⟩
    simp only
    split <;> rfl
  | lastVsync _ _ hn _ _ => rw [he] at hn; cases hn
  | reset _ hn _ _ => rw [he] at hn; cases hn
  | wait _ hn _ => rw [he] at hn; cases hn

/-- A turn in barrier mode that yields a vsync task leaves no due barrier task iff nothing is
    overtaken. -/
theorem pass_spares_iff {P : SystemParameters} {clk : PassClock} {q : EventQueueBase}
    {e : InnerEvent} (hs : ∀ i, SortedByHandleTime (q.events (some i)))
    (he : (q.getEventPass P clk).pass.event = some e)
    (hb : (q.getEventPass P clk).queue.isBarrierMode = true) (hv : e.isVsync = true) :
    SparesBarrier (q.getEventPass P clk).queue clk.now.ns ↔ ¬ Overtakes q clk.now.ns := by
  have hc := q.expired_sameEvents_check P clk
  have hsub := (q.sameLists_checkBarrierMode P clk.check clk.enter).sub
  have hsum := q.checkBarrierMode_sum P clk.check clk.enter
  have hep := checkBarrierMode_needEpoll P clk.check clk.enter q
  obtain ⟨hf, hmode⟩ := pass_barrierMode he
  rw [hmode] at hb
  have hs' : ∀ i, SortedByHandleTime
      ((q.checkBarrierMode P clk.check clk.enter).events (some i)) := by
    intro i
    rw [hc (some i)]
    exact hs i
  have hov : Overtakes (q.checkBarrierMode P clk.check clk.enter) clk.now.ns ↔
      Overtakes q clk.now.ns :=
    ⟨Overtakes.of_sub hsub.symm hsum.symm hep.symm, Overtakes.of_sub hsub hsum hep⟩
  rw [← hov]
  cases hpick : ((q.checkBarrierMode P clk.check clk.enter).pickEventLocked clk.now.ns
      TimePoint.max).event with
  | some x =>
    obtain ⟨hx, hsame⟩ := @expired_of_pick _ clk.now clk.next TimePoint.max x hpick
    obtain ⟨hpe, hpq⟩ := @pass_of_expired P clk q x hf hx
    rw [hpe] at he
    cases he
    rw [← pick_spares_iff hs' hb hpick hv, hpq]
    unfold SparesBarrier
    constructor
    · intro h i hd
      apply h i
      rw [show (q.expired P clk).queue.events (some i) = _ from hsame (some i)]
      exact hd
    · intro h i hd
      rw [show (q.expired P clk).queue.events (some i) = _ from hsame (some i)] at hd
      exact h i hd
  | none =>
    -- an idle event or the last vsync task: no sub-queue competes
    have hno : ∀ i, ¬ DueBarrier (q.events (some i)) clk.now.ns := by
      intro i hd
      have hcomp := ((pickEventLocked_none_iff clk.now.lt_max hs').1 hpick).1 i
      rw [hb] at hcomp
      refine hcomp ((competes_iff_dueBarrier (hs' i)).2 ?_)
      rw [hc (some i)]
      exact hd
    obtain ⟨p, k, -, htk⟩ := getEventPass_some he
    refine iff_of_true (fun i hd => ?_) fun hov' => ?_
    · obtain ⟨b, hbm, hbb, hbd⟩ := hd
      exact hno i ⟨b, (htk.sublist (some i)).mem hbm, hbb, hbd⟩
    · obtain ⟨i, hd⟩ := (hov.1 hov').due
      exact hno i hd

/-- A turn in barrier mode yields a vsync task if one overtakes. -/
theorem pass_of_overtakes {P : SystemParameters} {clk : PassClock} {q : EventQueueBase}
    (hs : ∀ i, SortedByHandleTime (q.events (some i))) (hf : q.finished = false)
    (hb : (q.checkBarrierMode P clk.check clk.enter).isBarrierMode = true)
    (hov : Overtakes q clk.now.ns) :
    ∃ e, (q.getEventPass P clk).pass.event = some e ∧ e.isVsync = true := by
  have hc := q.expired_sameEvents_check P clk
  have hs' : ∀ i, SortedByHandleTime
      ((q.checkBarrierMode P clk.check clk.enter).events (some i)) := by
    intro i
    rw [hc (some i)]
    exact hs i
  have hov' : Overtakes (q.checkBarrierMode P clk.check clk.enter) clk.now.ns :=
    hov.of_sub (q.sameLists_checkBarrierMode P clk.check clk.enter).sub
      (q.checkBarrierMode_sum P clk.check clk.enter)
      (checkBarrierMode_needEpoll P clk.check clk.enter q)
  obtain ⟨e, he, hv⟩ := @pick_of_overtakes _ clk.now.ns TimePoint.max hs' hb hov'
  have hx := (@expired_of_pick _ clk.now clk.next TimePoint.max e he).1
  exact ⟨e, (@pass_of_expired P clk q e hf hx).1, hv⟩

/-- **A turn in barrier mode returns a vsync task with a due barrier task left exactly when a vsync
    task overtakes**: the vsync pick is open and it is the turn of `HIGH` or `LOW`, or the barrier
    task whose turn it is is a vsync task itself and not the only one due. -/
theorem barrier_before_vsync_iff (P : SystemParameters) (start : ClockTime) {s : Sys}
    (h : (queueSystem P start).Reachable System.always s) (clk : PassClock) :
    (∀ e, (s.queue.getEventPass P clk).pass.event = some e →
      (s.queue.getEventPass P clk).queue.isBarrierMode = true → e.isVsync = true →
      SparesBarrier (s.queue.getEventPass P clk).queue clk.now.ns) ↔
    ¬ (s.queue.finished = false ∧
      (s.queue.checkBarrierMode P clk.check clk.enter).isBarrierMode = true ∧
      Overtakes s.queue clk.now.ns) := by
  have hs : ∀ i, SortedByHandleTime (s.queue.events (some i)) := fun i =>
    reachable_sorted h (some i)
  constructor
  · rintro hsp ⟨hf, hb, hov⟩
    obtain ⟨e, he, hv⟩ := pass_of_overtakes hs hf hb hov
    have hb' : (s.queue.getEventPass P clk).queue.isBarrierMode = true := by
      rw [(pass_barrierMode he).2]
      exact hb
    exact (pass_spares_iff hs he hb' hv).1 (hsp e he hb' hv) hov
  · intro hno e he hb hv
    obtain ⟨hf, hmode⟩ := pass_barrierMode he
    refine (pass_spares_iff hs he hb hv).2 fun hov => hno ⟨hf, ?_, hov⟩
    rw [← hmode]
    exact hb

instance (q : EventQueueBase) (now : Int) : Decidable (SparesBarrier q now) :=
  inferInstanceAs (Decidable (∀ i : SubIndex, ¬ DueBarrier (q.events (some i)) now))

/-- A vsync task waits while the loop thread does; it wakes up when the task is late. -/
def lateVsync (barrier : List Op) : List Op :=
  [.flag (.setVsyncPolicy .VSYNC_FIRST_WITHOUT_DEFAULT_BARRIER), .flag (.setVsyncLazyMode false),
    .flag .prepare, .getEvent, passAt (atMs 1), insertAt (atMs 2) (vsyncEvent (atMs 2)) .VIP] ++
    barrier ++ [.wakeUp]

/-- The late vsync task is returned in barrier mode, with no barrier task queued. -/
theorem barrier_before_vsync_iff_run : ∃ s : Sys,
    (s.queue.getEventPass {} (turnAt (atMs 100))).pass.event.any InnerEvent.isVsync = true ∧
    (s.queue.getEventPass {} (turnAt (atMs 100))).queue.isBarrierMode = true ∧
    ¬ (s.queue.finished = false ∧
      (s.queue.checkBarrierMode {} (turnAt (atMs 100)).check (turnAt (atMs 100)).enter).isBarrierMode =
        true ∧ Overtakes s.queue (turnAt (atMs 100)).now.ns) := by
  obtain ⟨s, hs, hp⟩ := System.run_of_exec (queueSystem {} (atMs 0)) System.always
    (fun s => (s.queue.getEventPass {} (turnAt (atMs 100))).pass.event.any InnerEvent.isVsync = true ∧
      (s.queue.getEventPass {} (turnAt (atMs 100))).queue.isBarrierMode = true ∧
      SparesBarrier (s.queue.getEventPass {} (turnAt (atMs 100))).queue (turnAt (atMs 100)).now.ns)
    (lateVsync []) (by decide +kernel)
  exact ⟨s, hp.1, hp.2.1,
    (barrier_before_vsync_iff {} (atMs 0) ⟨_, hs⟩ (turnAt (atMs 100))).1 fun _ _ _ _ => hp.2.2⟩

/-- A `FORCE_BARRIER` task in `HIGH` is due, and the vsync task goes first. -/
theorem vsync_before_barrier : ¬ ∀ s clk e, (defaultModeLoop {} (atMs 0)).Reachable System.always s →
    (s.queue.getEventPass {} clk).pass.event = some e →
    (s.queue.getEventPass {} clk).queue.isBarrierMode = true → e.isVsync = true →
    SparesBarrier (s.queue.getEventPass {} clk).queue clk.now.ns := by
  intro h
  obtain ⟨s, hs, hp⟩ := System.run_of_exec (defaultModeLoop {} (atMs 0)) System.always
    (fun s => (s.queue.getEventPass {} (turnAt (atMs 100))).pass.event.any InnerEvent.isVsync = true ∧
      (s.queue.getEventPass {} (turnAt (atMs 100))).queue.isBarrierMode = true ∧
      ¬ SparesBarrier (s.queue.getEventPass {} (turnAt (atMs 100))).queue (atMs 100).ns)
    (lateVsync [.insert oneRunner (atMs 3) (atMs 3) (some (plainEvent (atMs 3))) .HIGH .AT_END
      .FORCE_BARRIER]) (by decide +kernel)
  obtain ⟨e, he, hv⟩ := (Option.any_eq_true _ _).1 hp.1
  exact hp.2.2 (h s (turnAt (atMs 100)) e ⟨_, hs⟩ he hp.2.1 hv)

end AppExecFwk
