import EventHandler.BarrierMode

/-!
# VIP events and barrier mode

Under `VSYNC_FIRST_WITHOUT_DEFAULT_BARRIER` an ordinary `VIP` event is meant to be a barrier task.
`MarkBarrierTaskIfNeed` asks for the priority the event object carries, and it runs before `Insert`
writes the priority into it.

* `VipMarked` — every ordinary event in `VIP` is a barrier task.
* `marksVip` — what an insertion must bring for the event to be marked.
* `vip_passes_barrier` — in a run whose insertions bring it, `VipMarked` holds, each other insertion
  breaks it, and a turn in barrier mode returns a vsync task with a due ordinary `VIP` event queued
  exactly when a vsync task overtakes it.
* `vip_unmarked` — a fresh event inserted as `VIP` is not marked and is overtaken.
-/

set_option autoImplicit false

namespace AppExecFwk

open Transition StableList EventQueueBase

variable {P : SystemParameters} {s t : Sys}

/-- Every ordinary event in `VIP` is a barrier task. -/
def VipMarked (q : EventQueueBase) : Prop :=
  ∀ e ∈ q.events (some 0), e.isVsync = false → e.isBarrier = true

instance (q : EventQueueBase) : Decidable (VipMarked q) :=
  inferInstanceAs (Decidable (∀ e ∈ q.events (some 0), _))

/-- Insertions come while `vsyncPolicy_` is `VSYNC_FIRST_WITHOUT_DEFAULT_BARRIER`. -/
def Sys.policyHeld (s : Sys) : Op → Bool
  | .insert _ _ _ _ _ _ _ =>
    decide (s.queue.vsyncPolicy = .VSYNC_FIRST_WITHOUT_DEFAULT_BARRIER)
  | _ => true

/-- An accepted insertion of an ordinary event as `VIP` brings a marked event, one that carries the
    priority already, or an option that marks it. -/
def Sys.marksVip (s : Sys) : Op → Bool
  | .insert p _ _ (some event) .VIP _ option =>
    !s.queue.usable || event.isVsync || event.isBarrier ||
      decide (event.priority = Priority.toInt32 .VIP) || decide (option = .FORCE_BARRIER) ||
      (decide (option = .NEED_BARRIER) && sentAtOnceByMain p event)
  | _ => true

/-- The event an insertion stores is a barrier task or a vsync task iff the insertion marks it. -/
theorem stored_marked_iff {p : Process} {now recv : ClockTime} {event : InnerEvent}
    {ty : EventInsertType} {option : VsyncBarrierOption} {es : List InnerEvent}
    (hu : s.queue.usable = true)
    (hpol : s.policyHeld (.insert p now recv (some event) .VIP ty option) = true) :
    let e := storedEvent es (preparedEvent p s.queue (s.stamp event) .VIP option) ty
    (e.isVsync = false → e.isBarrier = true) ↔
      s.marksVip (.insert p now recv (some event) .VIP ty option) = true := by
  intro e
  obtain ⟨u, -, hu'⟩ := storedEvent_eq es (preparedEvent p s.queue (s.stamp event) .VIP option) ty
  have hv : e.isVsync = event.isVsync := by
    show (storedEvent es _ ty).isVsync = event.isVsync
    rw [hu']
    exact preparedEvent_isVsync p s.queue (s.stamp event) .VIP option
  have hb : e.isBarrier = (event.isBarrier ||
      needMarkBarrier p (s.stamp event) option s.queue.vsyncPolicy) := by
    show (storedEvent es _ ty).isBarrier = _
    rw [hu']
    exact preparedEvent_isBarrier p s.queue (s.stamp event) .VIP option
  have hp : s.queue.vsyncPolicy = .VSYNC_FIRST_WITHOUT_DEFAULT_BARRIER := by
    simpa [Sys.policyHeld] using hpol
  have hmain : sentAtOnceByMain p (s.stamp event) = sentAtOnceByMain p event := rfl
  have hprio : (s.stamp event).priority = event.priority := rfl
  have hvs : (s.stamp event).isVsync = event.isVsync := rfl
  rw [hv, hb, hp]
  simp only [needMarkBarrier, Sys.marksVip, hmain, hprio, hvs, hu]
  cases event.isVsync with
  | true => simp
  | false => simp [or_left_comm, or_comm]

/-- A call that stores nothing in `VIP` leaves its list alone. -/
theorem insert_vip_other {p : Process} {now recv : ClockTime} {q : EventQueueBase}
    {event : Option InnerEvent} {priority : Priority} {ty : EventInsertType}
    {option : VsyncBarrierOption} (h : priority ≠ .VIP ∨ q.usable = false ∨ event = none) :
    (q.insert p now recv event priority ty option).queue.events (some 0) = q.events (some 0) := by
  have hx := insert_cases p now recv q event priority ty option
  generalize q.insert p now recv event priority ty option = o at hx
  cases hx with
  | rejected _ _ => rfl
  | unnamed _ _ _ _ => rfl
  | idle _ _ _ => rfl
  | sub event i hu hi q' hq' =>
    have hi0 : (some 0 : Option SubIndex) ≠ some i := by
      intro h0
      cases h0
      rcases h with h | h | h
      · exact h (Priority.eq_vip_of_subIndex hi)
      · rw [hu] at h
        cases h
      · cases h
    have hs := sameLists_dispatchIf event.isVsync recv q
    rw [← hq'] at hs
    rw [(q'.setSub_events i _).2 (some 0) hi0]
    exact hs.events (some 0)

theorem VipMarked.of_sublist {q q' : EventQueueBase} (hq : VipMarked q)
    (h : (q'.events (some 0)).Sublist (q.events (some 0))) : VipMarked q' :=
  fun e he => hq e (h.mem he)

theorem insert_vipMarked_iff {p : Process} {now recv : ClockTime} {event : Option InnerEvent}
    {priority : Priority} {ty : EventInsertType} {option : VsyncBarrierOption}
    (hs : VipMarked s.queue)
    (hpol : s.policyHeld (.insert p now recv event priority ty option) = true) :
    VipMarked (s.insertOutcome p now recv event priority ty option).queue ↔
      s.marksVip (.insert p now recv event priority ty option) = true := by
  unfold Sys.insertOutcome
  by_cases hstore : priority = .VIP ∧ s.queue.usable = true ∧ event ≠ none
  · obtain ⟨rfl, hu, hne⟩ := hstore
    obtain ⟨event, rfl⟩ := Option.ne_none_iff_exists'.1 hne
    have hstored := @stored_marked_iff s p now recv event ty option (s.queue.events (some 0)) hu hpol
    simp only at hstored
    rw [← hstored]
    obtain ⟨-, hk, -⟩ := @insert_slot p now recv s.queue (s.stamp event) .VIP ty option (some 0) hu rfl
    unfold VipMarked
    rw [Option.map_some, hk]
    constructor
    · exact fun h => h _ (mem_insertEventsLocked.2 (Or.inl rfl))
    · intro h e he
      rcases mem_insertEventsLocked.1 he with rfl | he
      · exact h
      · exact hs e he
  · have hno : priority ≠ .VIP ∨ s.queue.usable = false ∨ event = none := by
      by_cases hp : priority = .VIP
      · cases hu : s.queue.usable with
        | false => exact Or.inr (Or.inl rfl)
        | true =>
          refine Or.inr (Or.inr ?_)
          by_contra hne
          exact hstore ⟨hp, hu, hne⟩
      · exact Or.inl hp
    refine iff_of_true (hs.of_sublist ?_) ?_
    · rw [insert_vip_other]
      rcases hno with h | h | h
      · exact Or.inl h
      · exact Or.inr (Or.inl h)
      · rw [h]
        exact Or.inr (Or.inr rfl)
    · unfold Sys.marksVip
      split
      · rename_i heq
        cases heq
        rcases hno with h | h | h
        · exact absurd rfl h
        · simp [h]
        · cases h
      · rfl

/-- **A step keeps the ordinary `VIP` events marked iff it marks the one it stores.** -/
theorem step_vipMarked_iff {a : Op} (hs : VipMarked s.queue) (hpol : s.policyHeld a = true)
    (h : s.step P a = some t) : VipMarked t.queue ↔ s.marksVip a = true := by
  have he := step_listEffect h
  have hkeep : (∀ p now recv event priority ty option,
      a ≠ .insert p now recv event priority ty option) → VipMarked t.queue := by
    intro hna
    apply hs.of_sublist
    cases he with
    | same h => rw [h (some 0)]
    | unstored _ h => rw [h (some 0)]
    | inserted k e ty hsrc =>
      obtain ⟨p, now, recv, event, priority, option, ha, -⟩ := hsrc
      exact absurd ha (hna p now recv (some event) priority ty option)
    | discarded filter _ h =>
      rw [h.events (some 0)]
      exact List.filter_sublist
    | taken q now e p k _ h => exact h.sublist (some 0)
  cases a with
  | insert p now recv event priority ty option =>
    cases step_cases h with
    | insert _ _ _ _ _ _ _ _ => exact insert_vipMarked_iff hs hpol
  | _ => exact iff_of_true (hkeep fun _ _ _ _ _ _ _ h => by cases h) rfl

/-! ## Turns in barrier mode -/

/-- No ordinary event in `VIP` is due. -/
def SparesVip (q : EventQueueBase) (now : Int) : Prop :=
  ∀ b ∈ q.events (some 0), b.isVsync = false → now < b.handleTime

instance (q : EventQueueBase) (now : Int) : Decidable (SparesVip q now) :=
  inferInstanceAs (Decidable (∀ b ∈ q.events (some 0), _))

/-- A turn that takes a vsync task leaves the ordinary `VIP` events. -/
theorem pass_sparesVip_iff {clk : PassClock} {q : EventQueueBase} {e : InnerEvent}
    (he : (q.getEventPass P clk).pass.event = some e) (hv : e.isVsync = true) :
    SparesVip (q.getEventPass P clk).queue clk.now.ns ↔ SparesVip q clk.now.ns := by
  obtain ⟨p, k, -, htk⟩ := getEventPass_some he
  constructor
  · intro h b hb hbv
    refine h b ?_ hbv
    by_cases hk : some 0 = k
    · subst hk
      -- `e` is a vsync task, so it is not `b`
      obtain ⟨l, r, hl, hr, -, -⟩ := find?_eraseP htk.found
      rw [htk.rest, hr]
      rw [hl, List.mem_append, List.mem_cons] at hb
      rcases hb with hb | rfl | hb
      · exact List.mem_append_left r hb
      · rw [hv] at hbv
        cases hbv
      · exact List.mem_append_right l hb
    · rw [htk.other (some 0) hk]
      exact hb
  · intro h b hb hbv
    exact h b ((htk.sublist (some 0)).mem hb) hbv

/-- **Ordinary `VIP` events pass the barrier in every run whose insertions mark them**: they are
    barrier tasks in every state reached, and an insertion that does not mark its event breaks it;
    then a turn in barrier mode returns a vsync task with a due ordinary `VIP` event queued exactly
    when a vsync task overtakes. -/
theorem vip_passes_barrier (P : SystemParameters) (start : ClockTime) {s : Sys}
    (h : (queueSystem P start).Reachable
      (fun s a => s.policyHeld a = true ∧ s.marksVip a = true) s) :
    VipMarked s.queue ∧
    (∀ a t, s.policyHeld a = true → s.step P a = some t →
      (VipMarked t.queue ↔ s.marksVip a = true)) ∧
    ∀ clk, (∀ e, (s.queue.getEventPass P clk).pass.event = some e →
        (s.queue.getEventPass P clk).queue.isBarrierMode = true → e.isVsync = true →
        SparesVip (s.queue.getEventPass P clk).queue clk.now.ns) ↔
      ¬ (s.queue.finished = false ∧
        (s.queue.checkBarrierMode P clk.check clk.enter).isBarrierMode = true ∧
        Overtakes s.queue clk.now.ns ∧ ¬ SparesVip s.queue clk.now.ns) := by
  have hm : VipMarked s.queue := by
    apply h.invariant (I := fun s => VipMarked s.queue) (fun e he => by cases he)
    exact fun s a t hs hok hst => (step_vipMarked_iff hs hok.1 hst).2 hok.2
  refine ⟨hm, fun a t hpol hst => step_vipMarked_iff hm hpol hst, fun clk => ?_⟩
  have hs : ∀ i, SortedByHandleTime (s.queue.events (some i)) := fun i =>
    reachable_sorted h (some i)
  constructor
  · rintro hsp ⟨hf, hb, hov, hdue⟩
    obtain ⟨e, he, hv⟩ := pass_of_overtakes hs hf hb hov
    refine hdue ((pass_sparesVip_iff he hv).1 (hsp e he ?_ hv))
    rw [(pass_barrierMode he).2]
    exact hb
  · intro hno e he hb hv
    obtain ⟨hf, hmode⟩ := pass_barrierMode he
    by_contra hdue
    have hdue' : ¬ SparesVip s.queue clk.now.ns := fun h => hdue ((pass_sparesVip_iff he hv).2 h)
    refine hno ⟨hf, by rw [← hmode]; exact hb, ?_, hdue'⟩
    -- the due `VIP` event left is a barrier task
    by_contra hov
    have hsp := (pass_spares_iff hs he hb hv).2 hov
    refine hdue fun b hbm hbv => ?_
    by_contra hlate
    refine hsp 0 ⟨b, hbm, ?_, by omega⟩
    obtain ⟨p, k, -, htk⟩ := getEventPass_some he
    exact hm b ((htk.sublist (some 0)).mem hbm) hbv

/-- An ordinary event that carries the priority `VIP` is inserted as `VIP` and goes first. -/
theorem vip_passes_barrier_run : ∃ s : Sys,
    (s.queue.getEventPass {} (turnAt (atMs 100))).queue.isBarrierMode = true ∧
    s.accepted = [0, 1] ∧ VipMarked s.queue := by
  obtain ⟨s, hs, hp⟩ := System.run_of_exec (queueSystem {} (atMs 0))
    (fun s a => s.policyHeld a = true ∧ s.marksVip a = true)
    (fun s => (s.queue.getEventPass {} (turnAt (atMs 100))).queue.isBarrierMode = true ∧
      s.accepted = [0, 1])
    (lateVsync [insertAt (atMs 3) { plainEvent (atMs 3) with priority := 0 } .VIP])
    (by decide +kernel)
  exact ⟨s, hp.1, hp.2, (vip_passes_barrier {} (atMs 0) ⟨_, hs⟩).1⟩

/-- A fresh event carries the priority -1: inserted as `VIP` it is not marked, and in barrier mode a
    vsync task goes first. -/
theorem vip_unmarked :
    (¬ ∀ s, (defaultModeLoop {} (atMs 0)).Reachable (fun s a => s.policyHeld a = true) s →
      VipMarked s.queue) ∧
    ¬ ∀ s clk e, (defaultModeLoop {} (atMs 0)).Reachable (fun s a => s.policyHeld a = true) s →
      (s.queue.getEventPass {} clk).pass.event = some e →
      (s.queue.getEventPass {} clk).queue.isBarrierMode = true → e.isVsync = true →
      SparesVip (s.queue.getEventPass {} clk).queue clk.now.ns := by
  obtain ⟨s, hs, hp⟩ := System.run_of_exec (defaultModeLoop {} (atMs 0))
    (fun s a => s.policyHeld a = true)
    (fun s => (s.queue.getEventPass {} (turnAt (atMs 100))).pass.event.any InnerEvent.isVsync = true ∧
      (s.queue.getEventPass {} (turnAt (atMs 100))).queue.isBarrierMode = true ∧
      ¬ VipMarked s.queue ∧
      ¬ SparesVip (s.queue.getEventPass {} (turnAt (atMs 100))).queue (atMs 100).ns)
    (lateVsync [insertAt (atMs 3) (plainEvent (atMs 3)) .VIP]) (by decide +kernel)
  obtain ⟨e, he, hv⟩ := (Option.any_eq_true _ _).1 hp.1
  exact ⟨fun h => hp.2.2.1 (h s ⟨_, hs⟩),
    fun h => hp.2.2.2 (h s (turnAt (atMs 100)) e ⟨_, hs⟩ he hp.2.1 hv)⟩

end AppExecFwk
