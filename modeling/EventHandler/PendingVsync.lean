import EventHandler.Order
import EventHandler.Ledger

/-!
# The account of pending vsync tasks

`sumOfPendingVsync_` counts the vsync tasks that were accepted and have neither run nor been
orphaned, in eight bits, apart from the lists.  It is compared here with the tasks held in the lists
and the one in flight between the queue and its handler.

* `Accounted` — the counter is the eight-bit image of a count that covers the held and the
  in-flight tasks; under `strict` it is exactly their number unless a task was dropped unexecuted.
* `accounted_step` — every step of the loop keeps it, as long as no vsync task is inserted on top of
  the largest count allowed, and, under `strict`, no removal discards one.
* `pending_exact` — the counter is the number of held tasks when none is out for execution.
* `pending_drifts` — one insertion and one removal make it wrong.
-/

set_option autoImplicit false

namespace AppExecFwk

open Transition EventQueueBase

variable {P : SystemParameters} {s t : Sys}

/-! ## The vsync tasks of a state -/

/-- The vsync tasks in the four sub-queues. -/
def EventQueueBase.heldVsync (q : EventQueueBase) : Nat :=
  (subIndices.flatMap fun i => (q.subEventQueues i).queue).countP InnerEvent.isVsync

/-- The vsync tasks in all five lists. -/
def EventQueueBase.allVsync (q : EventQueueBase) : Nat := q.allEvents.countP InnerEvent.isVsync

/-- One if the event is a vsync task. -/
def vsyncUnit (e : InnerEvent) : Nat := if e.isVsync then 1 else 0

/-- The vsync task that is out of the queue and not yet executed or released. -/
def Sys.inFlight (s : Sys) : Nat :=
  (match s.current with
    | some e => vsyncUnit e
    | none => 0) +
  match s.pc with
    | .polling e _ => vsyncUnit e
    | _ => 0

/-- Vsync tasks lie in `VIP` only. -/
def VsyncAtHome (q : EventQueueBase) : Prop :=
  ∀ k, ∀ e ∈ q.events k, e.isVsync = true → k = some 0

/-- The loop thread holds no event while it is in `GetEvent`. -/
def HandsFree (s : Sys) : Prop := s.pc ≠ .outside → s.current = none

/-- Vsync tasks are inserted as `VIP`. -/
def vsyncAsVip : Op → Bool
  | .insert _ _ _ (some event) priority _ _ => !event.isVsync || decide (priority = .VIP)
  | _ => true

theorem vip_of_vsyncAsVip {p : Process} {now recv : ClockTime} {event : InnerEvent}
    {priority : Priority} {ty : EventInsertType} {option : VsyncBarrierOption}
    (h : vsyncAsVip (.insert p now recv (some event) priority ty option) = true)
    (hv : event.isVsync = true) : priority = .VIP := by
  simpa [vsyncAsVip, hv] using h

theorem heldVsync_eq {q : EventQueueBase} (h : VsyncAtHome q) : q.heldVsync = q.allVsync := by
  have hidle : q.idleEvents.countP InnerEvent.isVsync = 0 := by
    rw [List.countP_eq_zero]
    intro e he hv
    cases h none e he hv
  unfold heldVsync allVsync allEvents subIndices
  simp only [List.flatMap_cons, List.flatMap_nil, List.countP_append, List.countP_nil, events_none,
    events_some, hidle]
  omega

/-- No vsync task in `VIP` means none at all. -/
theorem allVsync_zero {q : EventQueueBase} (h : VsyncAtHome q)
    (hvip : ∀ e ∈ q.events (some 0), e.isVsync = false) : q.allVsync = 0 := by
  unfold allVsync
  rw [List.countP_eq_zero]
  intro e he hv
  obtain ⟨k, hk⟩ := mem_allEvents.1 he
  have := h k e hk hv
  subst this
  rw [hvip e hk] at hv
  cases hv

theorem vip_of_allVsync_zero {q : EventQueueBase} (h : q.allVsync = 0) :
    ∀ e ∈ q.events (some 0), e.isVsync = false := by
  intro e he
  unfold allVsync at h
  rw [List.countP_eq_zero] at h
  simpa using h e (mem_allEvents.2 ⟨_, he⟩)

theorem allVsync_same {q q' : EventQueueBase} (h : SameEvents q q') : q'.allVsync = q.allVsync := by
  unfold allVsync
  rw [allEvents_same h]

theorem allVsync_take {q q' : EventQueueBase} {p : InnerEvent → Bool} {k : Option SubIndex}
    {e : InnerEvent} (h : Takes p k e q q') : q.allVsync = vsyncUnit e + q'.allVsync := by
  unfold allVsync vsyncUnit
  rw [(allEvents_take h).countP_eq, List.countP_cons]
  omega

theorem allVsync_insert {q q' : EventQueueBase} {k : Option SubIndex} {e : InnerEvent}
    {ty : EventInsertType} (hk : q'.events k = insertEventsLocked (q.events k) e ty)
    (hl : ∀ l, l ≠ k → q'.events l = q.events l) : q'.allVsync = vsyncUnit e + q.allVsync := by
  obtain ⟨u, -, hu⟩ := storedEvent_eq (q.events k) e ty
  have hv : (storedEvent (q.events k) e ty).isVsync = e.isVsync := by rw [hu]
  unfold allVsync vsyncUnit
  rw [(allEvents_insert hk hl).countP_eq, List.countP_cons, hv]
  omega

/-- A removal leaves at most the vsync tasks there were, and the same number if it selects none. -/
theorem allVsync_discard {q q' : EventQueueBase} {filter : InnerEvent → Bool}
    (h : Discards filter q q') :
    q'.allVsync + (q.allEvents.filter filter).countP InnerEvent.isVsync = q.allVsync := by
  unfold allVsync
  rw [allEvents_discard h]
  have := (List.filter_append_perm filter q.allEvents).countP_eq InnerEvent.isVsync
  rw [List.countP_append] at this
  omega

/-! ## The counter -/

/-- What an accepted vsync insertion does to the count, and what every other insertion leaves. -/
theorem insert_count {p : Process} {now recv : ClockTime} {q : EventQueueBase}
    {event : Option InnerEvent} {priority : Priority} {ty : EventInsertType}
    {option : VsyncBarrierOption} (hv : ∀ e, event = some e → e.isVsync = true → priority = .VIP) :
    let o := q.insert p now recv event priority ty option
    (o.queue.allVsync = q.allVsync ∧ o.queue.sumOfPendingVsync = q.sumOfPendingVsync) ∨
    (q.usable = true ∧ (∃ e, event = some e ∧ e.isVsync = true) ∧
      o.queue.allVsync = q.allVsync + 1 ∧
      o.queue.sumOfPendingVsync = toInt8 (q.sumOfPendingVsync + 1)) := by
  intro o
  cases event with
  | none => exact Or.inl ⟨rfl, rfl⟩
  | some event =>
    have hslot := @insert_slot p now recv q event priority ty option
    have hx : InsertEffect p now recv q priority ty option (some event) o :=
      insert_cases p now recv q (some event) priority ty option
    have ho : o = q.insert p now recv (some event) priority ty option := rfl
    rw [← ho] at hslot
    clear_value o
    have hunit : vsyncUnit (preparedEvent p q event priority option) = vsyncUnit event := by
      unfold vsyncUnit
      rw [preparedEvent_isVsync]
    cases hx with
    | rejected _ _ => exact Or.inl ⟨rfl, rfl⟩
    | unnamed _ _ _ _ => exact Or.inl ⟨rfl, rfl⟩
    | idle _ hu hp =>
      subst hp
      obtain ⟨-, hq, hl⟩ := hslot hu rfl
      have hn : event.isVsync = false := by
        cases hev : event.isVsync with
        | false => rfl
        | true => cases hv event rfl hev
      refine Or.inl ⟨?_, rfl⟩
      rw [allVsync_insert hq hl, hunit, vsyncUnit, hn]
      simp
    | sub _ i hu hi q' hq' =>
      obtain ⟨-, hq, hl⟩ := hslot hu (Priority.slot_of_subIndex hi)
      have hall := allVsync_insert hq hl
      rw [hunit] at hall
      cases hev : event.isVsync with
      | false =>
        rw [vsyncUnit, hev] at hall
        rw [hev] at hq'
        subst hq'
        refine Or.inl ⟨?_, rfl⟩
        rw [hall]
        simp
      | true =>
        rw [vsyncUnit, hev] at hall
        rw [hev] at hq'
        subst hq'
        refine Or.inr ⟨hu, ⟨event, rfl, hev⟩, ?_, rfl⟩
        rw [hall]
        simp only [if_true]
        omega

/-- The orphaned vsync tasks of a list. -/
def orphanVsync (p : Process) (es : List InnerEvent) : Nat :=
  es.countP fun e => e.ownerExpired p && e.isVsync

/-- The filter of `RemoveOrphan` takes one off the counter for each orphaned vsync task. -/
theorem foldl_noteOrphan_sum (p : Process) : ∀ (es : List InnerEvent) (q : EventQueueBase) (c : Int),
    q.sumOfPendingVsync = toInt8 c →
    (es.foldl (noteOrphan p) q).sumOfPendingVsync = toInt8 (c - orphanVsync p es) := by
  intro es
  induction es with
  | nil =>
    intro q c h
    simpa [orphanVsync] using h
  | cons e es ih =>
    intro q c h
    rw [List.foldl_cons]
    cases he : e.ownerExpired p && e.isVsync with
    | false =>
      have hq : q.noteOrphan p e = q := by simp [noteOrphan, he]
      have hn : orphanVsync p (e :: es) = orphanVsync p es := by
        unfold orphanVsync
        rw [List.countP_cons, he]
        simp
      rw [hq, hn]
      exact ih q c h
    | true =>
      have hq : (q.noteOrphan p e).sumOfPendingVsync = toInt8 (c - 1) := by
        simp only [noteOrphan, he, if_true, handleVsyncTaskNotify, leaveBarrierMode]
        rw [h, toInt8_pred]
      have hn : orphanVsync p (e :: es) = orphanVsync p es + 1 := by
        unfold orphanVsync
        rw [List.countP_cons, he]
        simp
      rw [ih _ (c - 1) hq, hn]
      congr 1
      omega

/-- `RemoveOrphan` takes the orphaned vsync tasks off the counter and out of the lists. -/
theorem removeOrphan_count {p : Process} {q : EventQueueBase} {c : Nat}
    (h : q.sumOfPendingVsync = toInt8 c) (hle : q.allVsync ≤ c) :
    ∃ n ≤ q.allVsync, (q.removeOrphan p).sumOfPendingVsync = toInt8 ((c - n : Nat) : Int) ∧
      (q.removeOrphan p).allVsync = q.allVsync - n := by
  have hd := allVsync_discard (removeOrphan_discards p q)
  cases hu : q.usable with
  | false =>
    refine ⟨0, Nat.zero_le _, ?_, ?_⟩
    · simpa [removeOrphan, hu] using h
    · simp [removeOrphan, hu]
  | true =>
    rw [hu, List.countP_filter] at hd
    simp only [Bool.true_and] at hd
    have hn : orphanVsync p q.allEvents =
        q.allEvents.countP (fun e => e.isVsync && e.ownerExpired p) := by
      unfold orphanVsync
      exact List.countP_congr fun e _ => by rw [Bool.and_comm]
    rw [← hn] at hd
    refine ⟨orphanVsync p q.allEvents, by omega, ?_, by omega⟩
    have hs : (q.removeOrphan p).sumOfPendingVsync =
        (q.allEvents.foldl (noteOrphan p) q).sumOfPendingVsync := by
      simp [removeOrphan, hu, dropMatching]
    rw [hs, foldl_noteOrphan_sum p _ q c h]
    congr 1
    omega

/-- What a turn of `GetEvent` does to the counter. -/
theorem pass_sum (P : SystemParameters) (clk : PassClock) (q : EventQueueBase) :
    let o := q.getEventPass P clk
    (o.pass ≠ .again ∧ o.queue.sumOfPendingVsync = q.sumOfPendingVsync) ∨
    (o.pass = .again ∧ o.queue.sumOfPendingVsync = 0 ∧ q.sumOfPendingVsync ≠ 0 ∧
      o.queue.isBarrierMode = false ∧ ∀ e ∈ q.events (some 0), e.isVsync = false) := by
  have hsum := q.expired_sum P clk
  have hx := q.getEventPass_cases P clk
  generalize q.getEventPass P clk = o at hx
  cases hx with
  | finished hf => exact Or.inl ⟨by simp, rfl⟩
  | expired e hf he =>
    refine Or.inl ⟨?_, hsum⟩
    simp only
    split <;> simp
  | lastVsync e hf hn hs he =>
    refine Or.inl ⟨by simp, ?_⟩
    rw [(pickFirstVsync_frame _).sameControl.sum]
    exact hsum
  | reset hf hn hs he =>
    refine Or.inr ⟨rfl, rfl, by rw [← hsum]; exact hs, rfl, fun e hm => ?_⟩
    rw [← expired_none_same hn (some 0)] at hm
    exact pickFirstVsync_none he e hm
  | wait hf hn hs =>
    refine Or.inl ⟨by simp, ?_⟩
    rw [(beforeWaiting_sameControl _ _ _).sum]
    exact hsum

/-- Flags other than the notifications leave the counter and barrier mode alone. -/
theorem applyFlag_control {q : EventQueueBase} {op : FlagOp} (h : op.isNotification = false) :
    (q.applyFlag op).sumOfPendingVsync = q.sumOfPendingVsync ∧
      (q.applyFlag op).isBarrierMode = q.isBarrierMode := by
  have hx := applyFlag_writes q op
  generalize q.applyFlag op = q' at hx
  cases hx with
  | dispatchVsyncTaskNotify _ _ _ => cases h
  | handleVsyncTaskNotify _ => cases h
  | enterBarrierMode _ => cases h
  | leaveBarrierMode => cases h
  | _ => exact ⟨rfl, rfl⟩

/-! ## The account -/

/-- The operation hands a vsync task to `Insert`. -/
def Op.insertsVsync : Op → Bool
  | .insert _ _ _ (some event) _ _ _ => event.isVsync
  | _ => false

/-- The operation is a `Remove` or `RemoveAll` that selects a vsync task: these do not touch the
    counter. -/
def Op.discardsVsync (q : EventQueueBase) : Op → Bool
  | .remove selector => q.allEvents.any fun e => (q.usable && selector.selects e) && e.isVsync
  | .removeAll => q.allEvents.any fun e => q.usable && e.isVsync
  | _ => false

/-- What a step must meet: vsync tasks go to `VIP`, none is accepted while the counter shows the
    image of `bound`, and, under `strict`, no removal discards one. -/
structure CountGuard (strict : Bool) (bound : Nat) (s : Sys) (a : Op) : Prop where
  vip : vsyncAsVip a = true
  room : a.insertsVsync = true → s.queue.usable = true →
    s.queue.sumOfPendingVsync ≠ toInt8 bound
  keeps : strict = true → a.discardsVsync s.queue = false

instance (strict : Bool) (bound : Nat) (s : Sys) (a : Op) :
    Decidable (CountGuard strict bound s a) :=
  decidable_of_iff (vsyncAsVip a = true ∧
      (a.insertsVsync = true → s.queue.usable = true →
        s.queue.sumOfPendingVsync ≠ toInt8 bound) ∧
      (strict = true → a.discardsVsync s.queue = false))
    ⟨fun h => ⟨h.1, h.2.1, h.2.2⟩, fun h => ⟨h.vip, h.room, h.keeps⟩⟩

/-- The counter is the image of a count, at most `bound`, that covers the held and the in-flight
    tasks; under `strict` it is their number if no task was dropped unexecuted. -/
structure Accounted (strict : Bool) (bound : Nat) (s : Sys) : Prop where
  home : VsyncAtHome s.queue
  hands : HandsFree s
  inFlight_le : s.inFlight ≤ s.unexecuted
  count : ∃ c : Nat, c ≤ bound ∧ s.queue.sumOfPendingVsync = toInt8 c ∧
    s.queue.allVsync + s.inFlight ≤ c ∧
    (strict = true → s.unexecuted = s.inFlight → c = s.queue.allVsync + s.inFlight)

theorem home_step {a : Op} (hs : VsyncAtHome s.queue) (hok : vsyncAsVip a = true) (h : ListEffect s a t) :
    VsyncAtHome t.queue := by
  intro k y hy hv
  cases h with
  | same h => rw [h k] at hy; exact hs k y hy hv
  | unstored _ h => rw [h k] at hy; exact hs k y hy hv
  | inserted l e ty hsrc hk hl =>
    by_cases hkl : k = l
    · subst hkl
      rw [hk, mem_insertEventsLocked] at hy
      rcases hy with rfl | hy
      · obtain ⟨p, now, recv, event, priority, option, rfl, hslot, -, he⟩ := hsrc
        obtain ⟨u, -, hu⟩ := storedEvent_eq (s.queue.events k) e ty
        rw [hu] at hv
        have hev : event.isVsync = true := by
          simp only [he, preparedEvent_isVsync] at hv
          exact hv
        have hp : priority = .VIP := vip_of_vsyncAsVip hok hev
        subst hp
        exact (Option.some.inj hslot).symm
      · exact hs k y hy hv
    · rw [hl k hkl] at hy
      exact hs k y hy hv
  | discarded filter _ h =>
    rw [h.events k] at hy
    exact hs k y (List.mem_of_mem_filter hy) hv
  | taken q now e p l hrule h => exact hs k y ((h.sublist k).mem hy) hv

theorem afterPass_take {o : PassOutcome} {n : Nat} {e : InnerEvent} (h : o.pass.event = some e) :
    (s.afterPass n o).unexecuted = s.unexecuted + vsyncUnit e ∧
      ((s.afterPass n o).current = some e ∧ (s.afterPass n o).pc = .outside ∨
        (s.afterPass n o).current = s.current ∧ ∃ need, (s.afterPass n o).pc = .polling e need) := by
  unfold Sys.afterPass Sys.take vsyncUnit
  cases hp : o.pass with
  | returned x =>
    rw [hp] at h
    cases h
    refine ⟨?_, Or.inl ⟨rfl, rfl⟩⟩
    simp only
    split <;> rfl
  | poll x need =>
    rw [hp] at h
    cases h
    refine ⟨?_, Or.inr ⟨rfl, need, rfl⟩⟩
    simp only
    split <;> rfl
  | finished => rw [hp] at h; cases h
  | again => rw [hp] at h; cases h
  | wait d => rw [hp] at h; cases h

theorem afterPass_keep {o : PassOutcome} {n : Nat} (h : o.pass.event = none) :
    (s.afterPass n o).unexecuted = s.unexecuted ∧ (s.afterPass n o).current = s.current ∧
      ∀ e need, (s.afterPass n o).pc ≠ .polling e need := by
  unfold Sys.afterPass
  cases hp : o.pass with
  | returned x => rw [hp] at h; cases h
  | poll x need => rw [hp] at h; cases h
  | finished => exact ⟨rfl, rfl, fun _ _ h => by cases h⟩
  | again => exact ⟨rfl, rfl, fun _ _ h => by cases h⟩
  | wait d => exact ⟨rfl, rfl, fun _ _ h => by cases h⟩

theorem hands_step {a : Op} (hs : HandsFree s) (hd : inDefaultMode s a = true)
    (h : s.step P a = some t) : HandsFree t := by
  cases step_cases h with
  | insert _ _ _ _ _ _ _ _ => exact hs
  | remove _ _ => exact hs
  | removeOrphan _ _ => exact hs
  | removeAll _ => exact hs
  | expiredEvent _ _ _ _ _ => cases hd
  | expiredNone _ _ _ _ => cases hd
  | getEvent hpc => exact fun _ => by simpa [inDefaultMode] using hd
  | pass clk n hpc =>
    have hcur : s.current = none := hs (by rw [hpc]; simp)
    intro hpc'
    cases he : (s.queue.getEventPass P clk).pass.event with
    | none => exact ((afterPass_keep he).2.1).trans hcur
    | some e =>
      rcases (afterPass_take (s := s) (n := n) he).2 with ⟨-, ho⟩ | ⟨hc, -⟩
      · exact absurd ho hpc'
      · exact hc.trans hcur
  | wakeUp d hpc => exact fun _ => hs (by rw [hpc]; simp)
  | pollReturn e need hpc => exact fun h => absurd rfl h
  | execute e hc =>
    intro _
    unfold Sys.runTask
    split <;> rfl
  | release e hc => exact fun _ => rfl
  | flag op => exact hs

/-- Same lists, same counter, same tasks out: the account stands. -/
theorem Accounted.of_same {strict : Bool} {bound : Nat} (hs : Accounted strict bound s)
    (hhome : VsyncAtHome t.queue) (hhands : HandsFree t)
    (hsum : t.queue.sumOfPendingVsync = s.queue.sumOfPendingVsync)
    (hall : t.queue.allVsync = s.queue.allVsync) (hfl : t.inFlight = s.inFlight)
    (hun : t.unexecuted = s.unexecuted) : Accounted strict bound t := by
  refine ⟨hhome, hhands, by rw [hfl, hun]; exact hs.inFlight_le, ?_⟩
  rw [hsum, hall, hfl, hun]
  exact hs.count

theorem accounted_insert {strict : Bool} {bound : Nat} {p : Process} {now recv : ClockTime}
    {event : Option InnerEvent} {priority : Priority} {ty : EventInsertType}
    {option : VsyncBarrierOption} (hs : Accounted strict bound s)
    (hok : CountGuard strict bound s (.insert p now recv event priority ty option))
    (hhome : VsyncAtHome t.queue)
    (hq : t.queue = (s.insertOutcome p now recv event priority ty option).queue)
    (hpc : t.pc = s.pc) (hcur : t.current = s.current) (hun : t.unexecuted = s.unexecuted) :
    Accounted strict bound t := by
  have hhands : HandsFree t := by
    unfold HandsFree
    rw [hpc, hcur]
    exact hs.hands
  have hfl : t.inFlight = s.inFlight := by
    unfold Sys.inFlight
    rw [hpc, hcur]
  have hvip : ∀ e, event.map s.stamp = some e → e.isVsync = true → priority = .VIP := by
    intro e he hv
    cases event with
    | none => cases he
    | some x => cases he; exact vip_of_vsyncAsVip hok.vip hv
  rcases insert_count (p := p) hvip with ⟨hall, hsum⟩ | ⟨hu, ⟨e, he, hv⟩, hall, hsum⟩
  · exact hs.of_same hhome hhands (by rw [hq]; exact hsum) (by rw [hq]; exact hall) hfl hun
  · have hins : Op.insertsVsync (.insert p now recv event priority ty option) = true := by
      cases event with
      | none => cases he
      | some x => cases he; exact hv
    obtain ⟨c, hc, hsc, hle, hex⟩ := hs.count
    have hroom := hok.room hins hu
    have hne : c ≠ bound := by
      rintro rfl
      exact hroom hsc
    refine ⟨hhome, hhands, by rw [hfl, hun]; exact hs.inFlight_le, c + 1, by omega, ?_, ?_, ?_⟩
    · rw [hq, Sys.insertOutcome, hsum, hsc, toInt8_succ]
      rfl
    · rw [hq, Sys.insertOutcome, hall, hfl]
      omega
    · intro hst hx
      rw [hq, Sys.insertOutcome, hall, hfl]
      rw [hun, hfl] at hx
      have := hex hst hx
      omega

theorem accounted_discard {strict : Bool} {bound : Nat} {filter : InnerEvent → Bool}
    (hs : Accounted strict bound s) (hhome : VsyncAtHome t.queue)
    (hd : Discards filter s.queue t.queue)
    (hkeep : strict = true → (s.queue.allEvents.filter filter).countP InnerEvent.isVsync = 0)
    (hsum : t.queue.sumOfPendingVsync = s.queue.sumOfPendingVsync) (hpc : t.pc = s.pc)
    (hcur : t.current = s.current) (hun : t.unexecuted = s.unexecuted) :
    Accounted strict bound t := by
  have hall := allVsync_discard hd
  have hhands : HandsFree t := by
    unfold HandsFree
    rw [hpc, hcur]
    exact hs.hands
  have hfl : t.inFlight = s.inFlight := by
    unfold Sys.inFlight
    rw [hpc, hcur]
  obtain ⟨c, hc, hsc, hle, hex⟩ := hs.count
  refine ⟨hhome, hhands, by rw [hfl, hun]; exact hs.inFlight_le, c, hc, by rw [hsum]; exact hsc,
    by omega, ?_⟩
  intro hst hx
  rw [hun, hfl] at hx
  have h₁ := hex hst hx
  have h₂ := hkeep hst
  omega

theorem accounted_pass {strict : Bool} {bound : Nat} {clk : PassClock} {n : Nat}
    (hs : Accounted strict bound s) (hpc : s.pc = .looping n)
    (hhome : VsyncAtHome (s.queue.getEventPass P clk).queue)
    (hhands : HandsFree (s.afterPass n (s.queue.getEventPass P clk))) :
    Accounted strict bound (s.afterPass n (s.queue.getEventPass P clk)) := by
  have hcur : s.current = none := hs.hands (by rw [hpc]; simp)
  have hfl : s.inFlight = 0 := by simp [Sys.inFlight, hcur, hpc]
  have hsum := pass_sum P clk s.queue
  have hsome := @getEventPass_some P clk s.queue
  have hnone := @getEventPass_none P clk s.queue
  generalize s.queue.getEventPass P clk = o at hhome hhands hsum hsome hnone
  obtain ⟨c, hc, hsc, hle, hex⟩ := hs.count
  cases he : o.pass.event with
  | some e =>
    obtain ⟨f, k, -, htk⟩ := hsome he
    have hall := allVsync_take htk
    obtain ⟨hun, hout⟩ := afterPass_take (s := s) (n := n) he
    have hfl' : (s.afterPass n o).inFlight = vsyncUnit e := by
      unfold Sys.inFlight
      rcases hout with ⟨h₁, h₂⟩ | ⟨h₁, need, h₂⟩
      · rw [h₁, h₂]
        rfl
      · rw [h₁, h₂, hcur]
        simp
    have hsum' : o.queue.sumOfPendingVsync = s.queue.sumOfPendingVsync := by
      rcases hsum with ⟨-, h⟩ | ⟨h, -⟩
      · exact h
      · rw [h] at he
        cases he
    refine ⟨by rw [afterPass_queue]; exact hhome, hhands, by omega, c, hc, ?_, ?_, ?_⟩
    · rw [afterPass_queue, hsum']
      exact hsc
    · rw [afterPass_queue, hfl']
      omega
    · intro hst hx
      rw [afterPass_queue, hfl']
      have := hex hst (by omega)
      omega
  | none =>
    have hall := allVsync_same (hnone he)
    obtain ⟨hun, hcur', hnp⟩ := afterPass_keep (s := s) (n := n) he
    have hfl' : (s.afterPass n o).inFlight = 0 := by
      unfold Sys.inFlight
      rw [hcur', hcur]
      cases hp : (s.afterPass n o).pc with
      | polling e need => exact absurd hp (hnp e need)
      | _ => rfl
    rcases hsum with ⟨-, h⟩ | ⟨-, h, -, -, hvip⟩
    · refine hs.of_same (by rw [afterPass_queue]; exact hhome) hhands ?_ ?_ ?_ hun
      · rw [afterPass_queue]
        exact h
      · rw [afterPass_queue]
        exact hall
      · omega
    · have hzero := allVsync_zero hs.home hvip
      refine ⟨by rw [afterPass_queue]; exact hhome, hhands, by omega, 0, Nat.zero_le _, ?_, ?_, ?_⟩
      · rw [afterPass_queue]
        exact h
      · rw [afterPass_queue]
        omega
      · intro _ _
        rw [afterPass_queue]
        omega

/-- The task of an event takes its unit off the counter. -/
theorem accounted_runTask {strict : Bool} {bound : Nat} {e : InnerEvent}
    (hs : Accounted strict bound s) (hc : s.current = some e)
    (hhome : VsyncAtHome (s.runTask e).queue) (hhands : HandsFree (s.runTask e)) :
    Accounted strict bound (s.runTask e) := by
  have hpc : s.pc = .outside := by
    by_cases h : s.pc = .outside
    · exact h
    · rw [hs.hands h] at hc
      cases hc
  have hfl : s.inFlight = vsyncUnit e := by
    unfold Sys.inFlight
    rw [hc, hpc]
    rfl
  have hall := allVsync_same (runTask_sameLists s e).sameEvents
  have hle := hs.inFlight_le
  obtain ⟨c, hcb, hsc, hcle, hex⟩ := hs.count
  cases hv : e.isVsync with
  | false =>
    have hrun : s.runTask e = { s with current := none } := by simp [Sys.runTask, hv]
    have hunit : vsyncUnit e = 0 := by simp [vsyncUnit, hv]
    rw [hrun] at hhome hhands ⊢
    refine hs.of_same hhome hhands rfl rfl ?_ rfl
    rw [hfl, hunit]
    unfold Sys.inFlight
    simp only [hpc]
  | true =>
    have hrun : s.runTask e = { s with
        queue := s.queue.handleVsyncTaskNotify.leaveBarrierMode
        unexecuted := s.unexecuted - 1
        current := none } := by simp [Sys.runTask, hv]
    have hunit : vsyncUnit e = 1 := by simp [vsyncUnit, hv]
    rw [hunit] at hfl
    have hfl' : (s.runTask e).inFlight = 0 := by
      rw [hrun]
      unfold Sys.inFlight
      simp only [hpc]
    have hun : (s.runTask e).unexecuted = s.unexecuted - 1 := by rw [hrun]
    have hsum : (s.runTask e).queue.sumOfPendingVsync = toInt8 ((c - 1 : Nat) : Int) := by
      rw [hrun]
      simp only [leaveBarrierMode, handleVsyncTaskNotify]
      rw [hsc, toInt8_pred]
      congr 1
      omega
    refine ⟨hhome, hhands, by omega, c - 1, by omega, hsum, by omega, ?_⟩
    intro hst hx
    have := hex hst (by omega)
    omega

/-- **Every step of the loop that meets the guard keeps the account.** -/
theorem accounted_step {strict : Bool} {bound : Nat} {a : Op} (hs : Accounted strict bound s)
    (hok : CountGuard strict bound s a) (hd : inDefaultMode s a = true) (h : s.step P a = some t) :
    Accounted strict bound t := by
  have hhome := home_step hs.home hok.vip (step_listEffect h)
  have hhands := hands_step hs.hands hd h
  cases step_cases h with
  | insert p now recv event priority ty option _ =>
    exact accounted_insert hs hok hhome rfl rfl rfl rfl
  | remove selector _ =>
    refine accounted_discard hs hhome (remove_discards selector s.queue) (fun hst => ?_)
      (remove_onlyLists selector s.queue).sameControl.sum rfl rfl rfl
    have := hok.keeps hst
    simp only [Op.discardsVsync, List.any_eq_false] at this
    rw [List.countP_eq_zero]
    intro e he hv
    rw [List.mem_filter] at he
    exact this e he.1 (by rw [he.2, hv]; rfl)
  | removeAll _ =>
    refine accounted_discard hs hhome (removeAll_discards s.queue) (fun hst => ?_)
      (removeFilter_onlyLists _ s.queue).sameControl.sum rfl rfl rfl
    have := hok.keeps hst
    simp only [Op.discardsVsync, List.any_eq_false] at this
    rw [List.countP_eq_zero]
    intro e he hv
    rw [List.mem_filter] at he
    exact this e he.1 (by rw [he.2, hv]; rfl)
  | removeOrphan p _ =>
    obtain ⟨c, hc, hsc, hle, hex⟩ := hs.count
    obtain ⟨n, hn, hsum, hall⟩ := removeOrphan_count (p := p) hsc (by omega)
    refine ⟨hhome, hhands, hs.inFlight_le, c - n, by omega, hsum, ?_, fun hst hx => ?_⟩
    · have hfl : s.inFlight = s.inFlight := rfl
      simp only [Sys.discard, Sys.inFlight] at *
      omega
    · have := hex hst hx
      simp only [Sys.discard, Sys.inFlight] at *
      omega
  | expiredEvent _ _ _ _ _ => cases hd
  | expiredNone _ _ _ _ => cases hd
  | getEvent hpc =>
    refine hs.of_same hhome hhands rfl rfl ?_ rfl
    unfold Sys.inFlight
    simp only [hpc]
  | pass clk n hpc =>
    rw [afterPass_queue] at hhome
    exact accounted_pass hs hpc hhome hhands
  | wakeUp d hpc =>
    refine hs.of_same hhome hhands rfl (allVsync_same (afterWait_sameLists _).sameEvents) ?_ rfl
    unfold Sys.inFlight
    simp only [hpc]
  | pollReturn e need hpc =>
    have hcur : s.current = none := hs.hands (by rw [hpc]; simp)
    refine hs.of_same hhome hhands ?_ (allVsync_same (afterPoll_sameLists _ _).sameEvents) ?_ rfl
    · show (s.queue.afterPoll need).sumOfPendingVsync = _
      rw [afterPoll_eq]
    · unfold Sys.inFlight
      simp only [hpc, hcur]
      omega
  | execute e hc => exact accounted_runTask hs hc hhome hhands
  | release e hc =>
    obtain ⟨c, hcb, hsc, hle, hex⟩ := hs.count
    have hfl : s.inFlight = vsyncUnit e + ({ s with current := none } : Sys).inFlight := by
      unfold Sys.inFlight
      simp only [hc]
      omega
    have hun := hs.inFlight_le
    refine ⟨hhome, hhands, ?_, c, hcb, hsc, ?_, fun hst hx => ?_⟩
    · show ({ s with current := none } : Sys).inFlight ≤ s.unexecuted
      omega
    · show s.queue.allVsync + ({ s with current := none } : Sys).inFlight ≤ c
      omega
    · have hx' : s.unexecuted = ({ s with current := none } : Sys).inFlight := hx
      have := hex hst (by omega)
      show c = s.queue.allVsync + ({ s with current := none } : Sys).inFlight
      omega
  | flag op =>
    have hop : op.isNotification = false := by simpa [inDefaultMode] using hd
    exact hs.of_same hhome hhands (applyFlag_control hop).1
      (allVsync_same (applyFlag_sameLists _ op).sameEvents) rfl rfl

theorem reachable_accounted {start : ClockTime} {strict : Bool} {bound : Nat}
    (h : (defaultModeLoop P start).Reachable (CountGuard strict bound) s) :
    Accounted strict bound s := by
  apply h.invariant
  · refine ⟨fun k e he => ?_, fun h => absurd rfl h, Nat.zero_le _, 0, Nat.zero_le _, rfl,
      Nat.zero_le _, fun _ _ => rfl⟩
    cases k <;> cases he
  · intro s a t hs hok hst
    obtain ⟨hd, hst⟩ := System.restrict_step.1 hst
    exact accounted_step hs hok hd hst

/-- **The counter is right while no vsync task is lost behind its back.** In every run of the loop
    in which no `Remove` or `RemoveAll` discards a vsync task and none is accepted at 127, the
    counter is the number of vsync tasks in the sub-queues whenever none is out for execution, it is
    never negative and never wraps. -/
theorem pending_exact (P : SystemParameters) (start : ClockTime) {s : Sys}
    (h : (defaultModeLoop P start).Reachable (CountGuard true 127) s) :
    (s.unexecuted = 0 → s.queue.sumOfPendingVsync = s.queue.heldVsync) ∧
      0 ≤ s.queue.sumOfPendingVsync ∧ s.queue.sumOfPendingVsync ≤ 127 := by
  have hs := reachable_accounted h
  obtain ⟨c, hc, hsc, hle, hex⟩ := hs.count
  have hsum : s.queue.sumOfPendingVsync = c := by
    rw [hsc]
    exact toInt8_of_range (by omega) (by omega)
  refine ⟨fun hun => ?_, by omega, by omega⟩
  have hfl := hs.inFlight_le
  have := hex rfl (by omega)
  rw [hsum, heldVsync_eq hs.home]
  omega

/-- Two vsync tasks come, `GetEvent` hands one out and it runs. -/
theorem pending_exact_run : ∃ s : Sys, s.unexecuted = 0 ∧ s.returned = [0] ∧
    s.queue.sumOfPendingVsync = 1 ∧ s.queue.sumOfPendingVsync = s.queue.heldVsync := by
  obtain ⟨s, hs, hp⟩ := System.run_of_exec (defaultModeLoop {} (atMs 0)) (CountGuard true 127)
    (fun s => s.unexecuted = 0 ∧ s.returned = [0] ∧ s.queue.sumOfPendingVsync = 1)
    [insertAt (atMs 1) (vsyncEvent (atMs 1)) .VIP, insertAt (atMs 2) (vsyncEvent (atMs 2)) .VIP,
      .flag .prepare, .getEvent, passAt (atMs 3), .execute] (by decide)
  exact ⟨s, hp.1, hp.2.1, hp.2.2, (pending_exact {} (atMs 0) ⟨_, hs⟩).1 hp.1⟩

/-- A vsync task is inserted and its owner's events are removed: the counter stays at one. -/
theorem pending_drifts : ¬ ∀ s, (defaultModeLoop {} (atMs 0)).Reachable
    (fun _ a => vsyncAsVip a = true) s →
    s.unexecuted = 0 → s.queue.sumOfPendingVsync = s.queue.heldVsync := by
  intro h
  obtain ⟨s, hs, hp⟩ := System.run_of_exec (defaultModeLoop {} (atMs 0))
    (fun _ a => vsyncAsVip a = true)
    (fun s => s.unexecuted = 0 ∧ s.queue.sumOfPendingVsync ≠ s.queue.heldVsync)
    [insertAt (atMs 1) (vsyncEvent (atMs 1)) .VIP, .remove (.owner (some ⟨1, "1"⟩))] (by decide)
  exact hp.2 (h s ⟨_, hs⟩ hp.1)

end AppExecFwk
