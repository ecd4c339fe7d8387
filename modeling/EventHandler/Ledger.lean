import EventHandler.QueueSystem

/-!
# No event is lost and none is handed out twice

The ledger of a run: the tickets in the five lists, the tickets returned and the tickets discarded
are together the accepted tickets, each once (`Ledger`).  Every list effect keeps it
(`Ledger.step`), so it holds in every reachable state (`reachable_ledger`).

* `allEvents_insert`, `allEvents_take`, `allEvents_discard` — what each list effect does to the
  events of all five lists together, whichever slot it works on.
* `no_loss_no_duplication` — the account of every accepted event, and what removals and rejected
  insertions do.
-/

set_option autoImplicit false

namespace AppExecFwk

open Transition

namespace EventQueueBase

/-! ## The events of all lists together -/

/-- The five slots. -/
def slots : List (Option SubIndex) := [some 0, some 1, some 2, some 3, none]

theorem mem_slots (k : Option SubIndex) : k ∈ slots := by
  have hsub : ∀ i : SubIndex, some i ∈ slots := by decide
  cases k with
  | none => decide
  | some i => exact hsub i

theorem slots_nodup : slots.Nodup := by decide

theorem allEvents_eq (q : EventQueueBase) : q.allEvents = slots.flatMap q.events := by
  simp [allEvents, slots]

/-- The events of the slots other than `k`. -/
def otherEvents (q : EventQueueBase) (k : Option SubIndex) : List InnerEvent :=
  (slots.erase k).flatMap q.events

theorem allEvents_perm (q : EventQueueBase) (k : Option SubIndex) :
    q.allEvents.Perm (q.events k ++ q.otherEvents k) := by
  rw [allEvents_eq]
  exact (List.perm_cons_erase (mem_slots k)).flatMap_right q.events

theorem otherEvents_congr {q q' : EventQueueBase} {k : Option SubIndex}
    (h : ∀ l, l ≠ k → q'.events l = q.events l) : q'.otherEvents k = q.otherEvents k := by
  unfold otherEvents
  refine List.flatMap_congr fun l hl => h l ?_
  exact ((slots_nodup.mem_erase_iff).1 hl).1

theorem allEvents_same {q q' : EventQueueBase} (h : SameEvents q q') :
    q'.allEvents = q.allEvents := by
  rw [allEvents_eq, allEvents_eq]
  exact List.flatMap_congr fun l _ => h l

theorem allEvents_insert {q q' : EventQueueBase} {k : Option SubIndex} {e : InnerEvent}
    {ty : EventInsertType} (hk : q'.events k = insertEventsLocked (q.events k) e ty)
    (hl : ∀ l, l ≠ k → q'.events l = q.events l) :
    q'.allEvents.Perm (storedEvent (q.events k) e ty :: q.allEvents) := by
  have h := (q'.allEvents_perm k)
  rw [hk, otherEvents_congr hl] at h
  have hi := (insertEventsLocked_perm (q.events k) e ty).append_right (q.otherEvents k)
  exact h.trans (hi.trans ((q.allEvents_perm k).symm.cons _))

theorem allEvents_take {q q' : EventQueueBase} {p : InnerEvent → Bool} {k : Option SubIndex}
    {e : InnerEvent} (h : Takes p k e q q') : q.allEvents.Perm (e :: q'.allEvents) := by
  obtain ⟨a, b, hq, hr, -, -⟩ := StableList.find?_eraseP h.found
  have h₁ := q.allEvents_perm k
  have h₂ := q'.allEvents_perm k
  rw [h.rest, hr, otherEvents_congr h.other] at h₂
  rw [hq] at h₁
  have hm : (a ++ e :: b ++ q.otherEvents k).Perm (e :: (a ++ b ++ q.otherEvents k)) :=
    List.perm_middle.append_right _
  exact h₁.trans (hm.trans (h₂.symm.cons e))

theorem allEvents_discard {q q' : EventQueueBase} {filter : InnerEvent → Bool}
    (h : Discards filter q q') : q'.allEvents = q.allEvents.filter (fun e => !filter e) := by
  rw [allEvents_eq, allEvents_eq, List.filter_flatMap]
  exact List.flatMap_congr fun l _ => h.events l

end EventQueueBase

/-! ## The ledger -/

open EventQueueBase

/-- Every ticket is accounted for: in the lists, returned and discarded together as often as it was
    accepted, which is at most once; a ticket not yet issued is not accepted. -/
structure Ledger (s : Sys) : Prop where
  account : ∀ k, s.queue.tickets.count k + s.returned.count k + s.discarded.count k =
    s.accepted.count k
  nodup : s.accepted.Nodup
  below : ∀ k ∈ s.accepted, k < s.nextTicket

theorem storedEvent_ticket (events : List InnerEvent) (e : InnerEvent) (ty : EventInsertType) :
    (storedEvent events e ty).ticket = e.ticket := by
  obtain ⟨u, -, h⟩ := storedEvent_eq events e ty
  rw [h]

/-- **Every step of a call with a named priority keeps the ledger.** -/
theorem Ledger.step {s t : Sys} {a : Op} (hl : Ledger s) (hp : a.namedPriority = true)
    (h : ListEffect s a t) : Ledger t := by
  obtain ⟨haccount, hnodup, hbelow⟩ := hl
  cases h with
  | same h ha hr hd hn =>
    refine ⟨fun k => ?_, by rw [ha]; exact hnodup, fun k hk => ?_⟩
    · unfold tickets at *
      rw [allEvents_same h, ha, hr, hd]
      exact haccount k
    · rw [ha] at hk
      exact lt_of_lt_of_le (hbelow k hk) hn
  | unstored hp' => rw [hp] at hp'; cases hp'
  | inserted l e ty hsrc hk hl ha hr hd hn =>
    have hfresh : s.nextTicket ∉ s.accepted := fun hm => lt_irrefl _ (hbelow _ hm)
    refine ⟨fun k => ?_, ?_, fun k hk => ?_⟩
    · have hins := ((allEvents_insert hk hl).map InnerEvent.ticket).count_eq k
      have hs := haccount k
      unfold tickets at *
      rw [List.map_cons, storedEvent_ticket, hsrc.ticket] at hins
      rw [ha, hr, hd, hins, List.count_append, List.count_cons, List.count_singleton]
      omega
    · rw [ha, ← List.concat_eq_append]
      exact hnodup.concat hfresh
    · rw [ha, List.mem_append, List.mem_singleton] at hk
      rw [hn]
      rcases hk with hk | rfl
      · exact Nat.lt_succ_of_lt (hbelow k hk)
      · exact Nat.lt_succ_self _
  | discarded filter hsel h ha hr hd hn =>
    refine ⟨fun k => ?_, by rw [ha]; exact hnodup, by rw [ha, hn]; exact hbelow⟩
    have hf := ((List.filter_append_perm filter s.queue.allEvents).map InnerEvent.ticket).count_eq k
    have hs := haccount k
    unfold tickets at *
    rw [List.map_append, List.count_append] at hf
    rw [allEvents_discard h, ha, hr, hd, List.count_append]
    omega
  | taken q now e p l hrule h ha hr hd hn =>
    refine ⟨fun k => ?_, by rw [ha]; exact hnodup, by rw [ha, hn]; exact hbelow⟩
    have ht := ((allEvents_take h).map InnerEvent.ticket).count_eq k
    have hs := haccount k
    unfold tickets at *
    rw [List.map_cons, List.count_cons] at ht
    rw [ha, hr, hd, List.count_append, List.count_singleton]
    omega

theorem reachable_ledger {P : SystemParameters} {start : ClockTime} {s : Sys}
    (h : (queueSystem P start).Reachable (fun _ a => a.namedPriority = true) s) : Ledger s := by
  apply h.invariant
  · exact ⟨fun _ => rfl, List.nodup_nil, fun _ hk => (List.not_mem_nil hk).elim⟩
  · intro s a t hs hp hst
    exact hs.step hp (step_listEffect hst)

/-! ## Removals -/

/-- A removal discards what it selects and nothing else. -/
theorem step_selected {P : SystemParameters} {s t : Sys} {a : Op} {filter : InnerEvent → Bool}
    (h : s.step P a = some t) (ha : a.selected s.queue = some filter) :
    Discards filter s.queue t.queue ∧
      t.discarded = s.discarded ++ (s.queue.allEvents.filter filter).map InnerEvent.ticket := by
  cases a with
  | remove selector =>
    simp only [Sys.step, Option.ite_none_right_eq_some, Option.some.injEq] at h
    obtain ⟨-, rfl⟩ := h
    cases ha
    exact ⟨remove_discards selector s.queue, rfl⟩
  | removeOrphan p =>
    simp only [Sys.step, Option.ite_none_right_eq_some, Option.some.injEq] at h
    obtain ⟨-, rfl⟩ := h
    cases ha
    exact ⟨removeOrphan_discards p s.queue, rfl⟩
  | removeAll =>
    simp only [Sys.step, Option.ite_none_right_eq_some, Option.some.injEq] at h
    obtain ⟨-, rfl⟩ := h
    cases ha
    exact ⟨removeAll_discards s.queue, rfl⟩
  | _ => cases ha

/-- `Remove(owner, name)` reports whether an event is gone. -/
theorem removeByName_gone (owner : Option EventHandler) (name : String) (q : EventQueueBase) :
    (q.removeByName owner name).2 = true ↔
      ∃ e ∈ q.allEvents, e ∉ (q.removeByName owner name).1.allEvents := by
  have hd : Discards (fun e => q.usable && (Selector.name owner name).selects e) q
      (q.removeByName owner name).1 := remove_discards (.name owner name) q
  rw [removeByName_result, allEvents_discard hd]
  constructor
  · rintro ⟨e, he, hf⟩
    refine ⟨e, he, fun hm => ?_⟩
    rw [List.mem_filter, hf] at hm
    exact absurd hm.2 (by decide)
  · rintro ⟨e, he, hf⟩
    refine ⟨e, he, ?_⟩
    rw [List.mem_filter, not_and] at hf
    simpa using hf he

/-- A rejected call of `Insert` changes nothing. -/
theorem insert_rejected {p : Process} {now recv : ClockTime} {q : EventQueueBase}
    {event : Option InnerEvent} {priority : Priority} {ty : EventInsertType}
    {option : VsyncBarrierOption}
    (h : (q.insert p now recv event priority ty option).result = false) :
    (q.insert p now recv event priority ty option).queue = q := by
  have hx := insert_cases p now recv q event priority ty option
  generalize q.insert p now recv event priority ty option = o at h hx
  cases hx with
  | rejected _ _ => rfl
  | sub e i hu hi q' hq' => cases h
  | idle e hu hp => cases h
  | unnamed e hu hi hp => cases h

/-- **Every accepted event is at each point in one list once, returned once or discarded once.**
    Each removal discards what its selector selects in all five lists and keeps the others in their
    order; `Remove(owner, name)` reports whether it discarded an event; a rejected `Insert` leaves
    the queue unchanged; a step returns at most one event, out of the lists. -/
theorem no_loss_no_duplication (P : SystemParameters) (start : ClockTime) {s : Sys}
    (h : (queueSystem P start).Reachable (fun _ a => a.namedPriority = true) s) :
    (∀ k ∈ s.accepted,
      s.queue.tickets.count k + s.returned.count k + s.discarded.count k = 1) ∧
    (∀ a t filter, s.step P a = some t → a.selected s.queue = some filter →
      (∀ k, t.queue.events k = (s.queue.events k).filter (fun e => !filter e)) ∧
      t.discarded = s.discarded ++ (s.queue.allEvents.filter filter).map InnerEvent.ticket) ∧
    (∀ a t, s.step P a = some t →
      (a.selected s.queue = none → t.discarded = s.discarded) ∧
      (t.returned = s.returned ∨ ∃ e ∈ s.queue.allEvents, t.returned = s.returned ++ [e.ticket])) ∧
    (∀ owner name, (s.queue.removeByName owner name).2 = true ↔
      ∃ e ∈ s.queue.allEvents, e ∉ (s.queue.removeByName owner name).1.allEvents) ∧
    (∀ p now recv event priority ty option t,
      s.step P (.insert p now recv event priority ty option) = some t →
      if (s.insertOutcome p now recv event priority ty option).result then
        t.accepted = s.accepted ++ [s.nextTicket]
      else t.accepted = s.accepted ∧ t.queue = s.queue) := by
  have hl := reachable_ledger h
  refine ⟨fun k hk => ?_, ?_, ?_, fun owner name => removeByName_gone owner name s.queue, ?_⟩
  · rw [hl.account k]
    exact List.count_eq_one_of_mem hl.nodup hk
  · intro a t filter hst ha
    obtain ⟨hd, hlog⟩ := step_selected hst ha
    exact ⟨hd.events, hlog⟩
  · intro a t hst
    cases step_listEffect hst with
    | taken q now e p k hrule htk ha hr hd hn =>
      exact ⟨fun _ => hd, Or.inr ⟨e, mem_allEvents.2 ⟨k, htk.mem⟩, hr⟩⟩
    | same _ _ hr hd => exact ⟨fun _ => hd, Or.inl hr⟩
    | unstored _ _ _ hr hd => exact ⟨fun _ => hd, Or.inl hr⟩
    | inserted _ _ _ _ _ _ _ hr hd => exact ⟨fun _ => hd, Or.inl hr⟩
    | discarded filter hsel _ _ hr =>
      refine ⟨fun ha => ?_, Or.inl hr⟩
      rw [ha] at hsel
      cases hsel
  · intro p now recv event priority ty option t hst
    simp only [Sys.step, Option.ite_none_right_eq_some, Option.some.injEq] at hst
    obtain ⟨-, rfl⟩ := hst
    split
    · rfl
    · rename_i hr
      rw [Bool.not_eq_true] at hr
      exact ⟨rfl, insert_rejected hr⟩

/-- A run that returns one event, discards one and keeps one. -/
theorem no_loss_no_duplication_run :
    ∃ s, (queueSystem {} (atMs 0)).Reachable (fun _ a => a.namedPriority = true) s ∧
      (s.accepted = [0, 1, 2] ∧ s.returned = [1] ∧ s.discarded = [2]) ∧
      ∀ k ∈ s.accepted,
        s.queue.tickets.count k + s.returned.count k + s.discarded.count k = 1 := by
  obtain ⟨s, hs, hlog⟩ := System.run_of_exec (queueSystem {} (atMs 0))
    (fun _ a => a.namedPriority = true)
    (fun s => s.accepted = [0, 1, 2] ∧ s.returned = [1] ∧ s.discarded = [2])
    [insertAt (atMs 1) (plainEvent (atMs 9)) .LOW, insertAt (atMs 2) (plainEvent (atMs 2)) .HIGH,
      insertAt (atMs 3) { plainEvent (atMs 3) with innerEventId := .u32 7 } .IDLE,
      .getExpiredEvent (atMs 4) (atMs 4), .remove (.id (some ⟨1, "1"⟩) 7)] (by decide)
  exact ⟨s, ⟨_, hs⟩, hlog, (no_loss_no_duplication {} (atMs 0) ⟨_, hs⟩).1⟩

end AppExecFwk
