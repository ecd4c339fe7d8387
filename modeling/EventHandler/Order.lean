import EventHandler.QueueSystem

/-!
# Events of one priority leave in order

* `reachable_sorted` — each of the five lists is non-decreasing in handle time, in every reachable
  state.
* `AtHome x i s` — an event with the ticket of `x` is `x` itself and lies in sub-queue `i`.
* `Before x₁ x₂ i s` — in sub-queue `i`, nothing with the ticket of `x₁` stands behind something
  with the ticket of `x₂`.  Storing `x₂` at the end, with a handle time not below that of `x₁`,
  establishes it, and every step keeps it.
* `priority_order` — so a step that returns `x₂` finds `x₁` gone.
-/

set_option autoImplicit false

namespace AppExecFwk

open Transition EventQueueBase

variable {P : SystemParameters} {s t : Sys}

/-! ## Sorted lists -/

/-- All five lists are in the order of handle times. -/
def SortedLists (s : Sys) : Prop := ∀ k, SortedByHandleTime (s.queue.events k)

theorem sorted_step {a : Op} (hs : SortedLists s) (h : ListEffect s a t) : SortedLists t := by
  intro k
  cases h with
  | same h => rw [h k]; exact hs k
  | unstored _ h => rw [h k]; exact hs k
  | inserted l e ty hsrc hk hl =>
    by_cases hkl : k = l
    · subst hkl
      rw [hk]
      exact insertEventsLocked_sorted (hs k) e ty
    · rw [hl k hkl]
      exact hs k
  | discarded filter _ h =>
    rw [h.events k]
    exact (hs k).sublist List.filter_sublist
  | taken q now e p l hrule h => exact (hs k).sublist (h.sublist k)

theorem reachable_sorted {start : ClockTime} {ok : Sys → Op → Prop}
    (h : (queueSystem P start).Reachable ok s) : SortedLists s := by
  apply h.invariant
  · intro k
    cases k <;> exact List.Pairwise.nil
  · intro s a t hs _ hst
    exact sorted_step hs (step_listEffect hst)

/-! ## Tickets -/

/-- The tickets in the lists were issued. -/
def Issued (s : Sys) : Prop := ∀ k, ∀ e ∈ s.queue.events k, e.ticket < s.nextTicket

theorem ListEffect.nextTicket_le {a : Op} (h : ListEffect s a t) : s.nextTicket ≤ t.nextTicket := by
  cases h with
  | same _ _ _ _ hn => exact hn
  | unstored _ _ _ _ _ hn => omega
  | inserted _ _ _ _ _ _ _ _ _ hn => omega
  | discarded _ _ _ _ _ _ hn => omega
  | taken _ _ _ _ _ _ _ _ _ _ hn => omega

theorem issued_step {a : Op} (hs : Issued s) (h : ListEffect s a t) : Issued t := by
  intro k y hy
  have hle := h.nextTicket_le
  rcases h.mem hy with hy | ⟨hy, hn, -⟩
  · have := hs k y hy
    omega
  · omega

theorem reachable_issued {start : ClockTime} {ok : Sys → Op → Prop}
    (h : (queueSystem P start).Reachable ok s) : Issued s := by
  apply h.invariant
  · intro k y hy
    cases k <;> cases hy
  · intro s a t hs _ hst
    exact issued_step hs (step_listEffect hst)

/-- The ticket of `x` belongs to `x`, in sub-queue `i`. -/
structure AtHome (x : InnerEvent) (i : SubIndex) (s : Sys) : Prop where
  issued : x.ticket < s.nextTicket
  unique : ∀ k, ∀ y ∈ s.queue.events k, y.ticket = x.ticket → y = x ∧ k = some i

theorem atHome_step {x : InnerEvent} {i : SubIndex} {a : Op} (hs : AtHome x i s)
    (h : ListEffect s a t) : AtHome x i t := by
  have hle := h.nextTicket_le
  have hi := hs.issued
  refine ⟨by omega, fun k y hy hxy => ?_⟩
  rcases h.mem hy with hy | ⟨hy, -, -⟩
  · exact hs.unique k y hy hxy
  · omega

/-! ## The order of two events -/

/-- In sub-queue `i` the ticket of `x₁` does not stand behind that of `x₂`. -/
def Before (x₁ x₂ : InnerEvent) (i : SubIndex) (s : Sys) : Prop :=
  (s.queue.events (some i)).Pairwise (fun y z => y.ticket = x₂.ticket → z.ticket ≠ x₁.ticket)

theorem before_step {x₁ x₂ : InnerEvent} {i : SubIndex} {a : Op} (h₁ : x₁.ticket < s.nextTicket)
    (h₂ : x₂.ticket < s.nextTicket) (hs : Before x₁ x₂ i s) (h : ListEffect s a t) :
    Before x₁ x₂ i t := by
  unfold Before at *
  cases h with
  | same h => rw [h (some i)]; exact hs
  | unstored _ h => rw [h (some i)]; exact hs
  | inserted l e ty hsrc hk hl =>
    by_cases hil : some i = l
    · subst hil
      rw [hk]
      obtain ⟨u, -, hu⟩ := storedEvent_eq (s.queue.events (some i)) e ty
      have ht : (storedEvent (s.queue.events (some i)) e ty).ticket = s.nextTicket := by
        rw [hu]
        exact hsrc.ticket
      refine insertEventsLocked_pairwise hs e ty (fun y _ _ => ?_) (fun y _ hx => ?_)
      · omega
      · omega
    · rw [hl _ hil]
      exact hs
  | discarded filter _ h =>
    rw [h.events (some i)]
    exact hs.sublist List.filter_sublist
  | taken q now e p l hrule h => exact hs.sublist (h.sublist (some i))

/-- A call of `Insert` that stores `x` in slot `k`, at the end. -/
def StoresAtEnd (P : SystemParameters) (s : Sys) (k : Option SubIndex) (x : InnerEvent) (t : Sys) :
    Prop :=
  ∃ p now recv e priority option, priority.slot = some k ∧ s.queue.usable = true ∧
    s.step P (.insert p now recv (some e) priority .AT_END option) = some t ∧
    x = preparedEvent p s.queue (s.stamp e) priority option

theorem StoresAtEnd.step {k : Option SubIndex} {x : InnerEvent} (h : StoresAtEnd P s k x t) :
    ∃ a, s.step P a = some t := by
  obtain ⟨p, now, recv, e, priority, option, -, -, hst, -⟩ := h
  exact ⟨_, hst⟩

theorem StoresAtEnd.events {k : Option SubIndex} {x : InnerEvent} (h : StoresAtEnd P s k x t) :
    t.queue.events k = insertEventsLocked (s.queue.events k) x .AT_END ∧
      (∀ l, l ≠ k → t.queue.events l = s.queue.events l) ∧ x.ticket = s.nextTicket ∧
      t.nextTicket = s.nextTicket + 1 := by
  obtain ⟨p, now, recv, e, priority, option, hk, hu, hst, rfl⟩ := h
  simp only [Sys.step, Option.ite_none_right_eq_some, Option.some.injEq] at hst
  obtain ⟨-, rfl⟩ := hst
  obtain ⟨-, hk, hl⟩ := insert_slot (p := p) hu hk
  exact ⟨hk, hl, by rw [preparedEvent_ticket]; rfl, rfl⟩

/-- The place of an event stored at the end: behind all with handle time at most its own. -/
theorem StoresAtEnd.behind {k : Option SubIndex} {x : InnerEvent} (h : StoresAtEnd P s k x t)
    (hs : SortedLists s) :
    ∃ a b, s.queue.events k = a ++ b ∧ t.queue.events k = a ++ x :: b ∧
      (∀ y ∈ a, y.handleTime ≤ x.handleTime) ∧ ∀ y ∈ b, x.handleTime < y.handleTime := by
  rw [h.events.1]
  exact StableList.insertBack_behind (hs k)

/-- The event just stored is at home. -/
theorem StoresAtEnd.atHome {i : SubIndex} {x : InnerEvent} (h : StoresAtEnd P s (some i) x t)
    (hs : Issued s) : AtHome x i t := by
  obtain ⟨hk, hl, hx, hn⟩ := h.events
  refine ⟨by omega, fun l y hy hxy => ?_⟩
  by_cases hli : l = some i
  · subst hli
    rw [hk, mem_insertEventsLocked] at hy
    rcases hy with rfl | hy
    · exact ⟨rfl, rfl⟩
    · have := hs _ y hy
      omega
  · rw [hl l hli] at hy
    have := hs l y hy
    omega

/-- Storing `x₂` at the end leaves an `x₁` that is not later before it. -/
theorem StoresAtEnd.before {i : SubIndex} {x₁ x₂ : InnerEvent}
    (h : StoresAtEnd P s (some i) x₂ t) (hsorted : SortedLists s) (hs : Issued s)
    (h₁ : AtHome x₁ i s) (hle : x₁.handleTime ≤ x₂.handleTime) : Before x₁ x₂ i t := by
  obtain ⟨a, b, hsq, htq, -, hb⟩ := h.behind hsorted
  have hx := h.events.2.2.1
  have hissued := hs (some i)
  rw [hsq] at hissued
  unfold Before
  rw [htq]
  have old : ∀ y ∈ a ++ b, y.ticket ≠ x₂.ticket := by
    intro y hy
    have := hissued y hy
    omega
  refine StableList.pairwise_insert ?_ (fun y hy hyx => ?_) (fun y hy _ hyx => ?_)
  · refine List.Pairwise.imp_of_mem (R := fun _ _ => True) ?_ (List.pairwise_of_forall fun _ _ => trivial)
    intro y z hy _ _ hyx
    exact absurd hyx (old y hy)
  · exact absurd hyx (old y (List.mem_append_left b hy))
  · have hy' : y ∈ s.queue.events (some i) := by
      rw [hsq]
      exact List.mem_append_right a hy
    obtain ⟨rfl, -⟩ := h₁.unique _ y hy' hyx
    have := hb y hy
    omega

/-! ## Leaving in order -/

/-- The rules that take from a sub-queue do not tell apart two ordinary events with the same barrier
    mark. -/
theorem TakeRule.agree {q : EventQueueBase} {now : ClockTime} {e x y : InnerEvent}
    {p : InnerEvent → Bool} {i : SubIndex} (h : TakeRule q now e p (some i))
    (hx : x.isVsync = false) (hb : x.isBarrier = y.isBarrier) (hpx : p x = true) : p y = true := by
  cases h with
  | pick h =>
    cases h with
    | head _ _ _ => rfl
    | barrier _ _ _ => rw [← hb]; exact hpx
    | vsync _ _ => rw [hx] at hpx; cases hpx
  | lastVsync _ => rw [hx] at hpx; cases hpx

/-- A step does not return `x₂` while `x₁` stands before it. -/
theorem not_returned_before {x₁ x₂ : InnerEvent} {i : SubIndex} {a : Op} (h₁ : AtHome x₁ i s)
    (h₂ : AtHome x₂ i s) (hbefore : Before x₁ x₂ i s) (hne : x₁.ticket ≠ x₂.ticket)
    (hv : x₂.isVsync = false) (hb : x₂.isBarrier = x₁.isBarrier) (h : ListEffect s a t)
    (hret : t.returned = s.returned ++ [x₂.ticket]) : x₁.ticket ∉ s.queue.tickets := by
  have grew : t.returned ≠ s.returned := by
    rw [hret]
    intro hr
    simpa using congrArg List.length hr
  cases h with
  | same _ _ hr => exact absurd hr grew
  | unstored _ _ _ hr => exact absurd hr grew
  | inserted _ _ _ _ _ _ _ hr => exact absurd hr grew
  | discarded _ _ _ _ hr => exact absurd hr grew
  | taken q now e p k hrule htk ha hr =>
    have he : e.ticket = x₂.ticket := by
      rw [hret] at hr
      simpa using (List.append_cancel_left hr).symm
    obtain ⟨rfl, rfl⟩ := h₂.unique k e htk.mem he
    intro hin
    obtain ⟨y, hy, hyx⟩ := List.mem_map.1 hin
    obtain ⟨l, hl⟩ := mem_allEvents.1 hy
    obtain ⟨rfl, rfl⟩ := h₁.unique l y hl hyx
    obtain ⟨u, v, hq, -, hpe, hu⟩ := StableList.find?_eraseP htk.found
    unfold Before at hbefore
    rw [hq] at hl hbefore
    rcases List.mem_append.1 hl with hl | hl
    · have hpy := hu y hl
      rw [TakeRule.agree hrule hv hb hpe] at hpy
      cases hpy
    · rcases List.mem_cons.1 hl with rfl | hl
      · exact hne rfl
      · have hpw := (List.pairwise_append.1 hbefore).2.1
        exact (List.pairwise_cons.1 hpw).1 y hl rfl rfl

/-- **Per-priority order.** In every reachable state all five lists are non-decreasing in handle
    time, an insertion at the end goes behind every event with handle time at most its own, and of
    two ordinary events stored at the end of one sub-queue, with the same barrier mark and handle
    times in the order of storing, no step returns the second while the first is queued. -/
theorem priority_order (P : SystemParameters) (start : ClockTime) :
    (∀ s, (queueSystem P start).Reachable System.always s →
      ∀ k, SortedByHandleTime (s.queue.events k)) ∧
    (∀ s t k x, (queueSystem P start).Reachable System.always s → StoresAtEnd P s k x t →
      ∃ a b, s.queue.events k = a ++ b ∧ t.queue.events k = a ++ x :: b ∧
        (∀ y ∈ a, y.handleTime ≤ x.handleTime) ∧ ∀ y ∈ b, x.handleTime < y.handleTime) ∧
    (∀ s₀ s₁ s₂ s₃ s₄ s₅ as bs a i x₁ x₂, (queueSystem P start).Reachable System.always s₀ →
      StoresAtEnd P s₀ (some i) x₁ s₁ → (queueSystem P start).Run System.always s₁ as s₂ →
      StoresAtEnd P s₂ (some i) x₂ s₃ → (queueSystem P start).Run System.always s₃ bs s₄ →
      s₄.step P a = some s₅ → x₁.isVsync = false → x₂.isVsync = false →
      x₁.isBarrier = x₂.isBarrier → x₁.handleTime ≤ x₂.handleTime →
      s₅.returned = s₄.returned ++ [x₂.ticket] → x₁.ticket ∉ s₄.queue.tickets) := by
  refine ⟨fun s h => reachable_sorted h, fun s t k x h hst => hst.behind (reachable_sorted h), ?_⟩
  intro s₀ s₁ s₂ s₃ s₄ s₅ as bs a i x₁ x₂ h₀ hx₁ has hx₂ hbs hst _ hv hb hle hret
  obtain ⟨op₁, hst₁⟩ := hx₁.step
  have h₂ : (queueSystem P start).Reachable System.always s₂ := (h₀.step trivial hst₁).run has
  have home₁ : AtHome x₁ i s₂ := by
    refine has.invariant (I := AtHome x₁ i) ?_ (hx₁.atHome (reachable_issued h₀))
    intro s a t hs _ hst
    exact atHome_step hs (step_listEffect hst)
  have home₂ : AtHome x₂ i s₃ := hx₂.atHome (reachable_issued h₂)
  have hbefore : Before x₁ x₂ i s₃ :=
    hx₂.before (reachable_sorted h₂) (reachable_issued h₂) home₁ hle
  have hne : x₁.ticket ≠ x₂.ticket := by
    have h₁ := home₁.issued
    have h₂ := hx₂.events.2.2.1
    omega
  obtain ⟨op₂, hst₂⟩ := hx₂.step
  have hI : AtHome x₁ i s₄ ∧ AtHome x₂ i s₄ ∧ Before x₁ x₂ i s₄ := by
    refine hbs.invariant (I := fun s => AtHome x₁ i s ∧ AtHome x₂ i s ∧ Before x₁ x₂ i s) ?_
      ⟨atHome_step home₁ (step_listEffect hst₂), home₂, hbefore⟩
    rintro s a t ⟨h₁, h₂, hb⟩ - hst
    have he := step_listEffect hst
    exact ⟨atHome_step h₁ he, atHome_step h₂ he, before_step h₁.issued h₂.issued hb he⟩
  exact not_returned_before hI.1 hI.2.1 hI.2.2 hne hv hb.symm (step_listEffect hst) hret

/-- Two events for `LOW`, returned one after the other. -/
theorem priority_order_run :
    let S := queueSystem {} (atMs 0)
    let s₁ := S.next S.init (insertAt (atMs 1) (plainEvent (atMs 1)) .LOW)
    let s₂ := S.next s₁ (insertAt (atMs 2) (plainEvent (atMs 2)) .LOW)
    let s₃ := S.next s₂ (.getExpiredEvent (atMs 3) (atMs 3))
    let s₄ := S.next s₃ (.getExpiredEvent (atMs 4) (atMs 4))
    s₄.returned = s₃.returned ++ [1] ∧ 0 ∉ s₃.queue.tickets := by
  intro S s₁ s₂ s₃ s₄
  have hret : s₄.returned = s₃.returned ++ [1] := by decide
  have hst₁ : S.init.step {} (insertAt (atMs 1) (plainEvent (atMs 1)) .LOW) = some s₁ :=
    Sys.step_next (by decide)
  have hst₂ : s₁.step {} (insertAt (atMs 2) (plainEvent (atMs 2)) .LOW) = some s₂ :=
    Sys.step_next (by decide)
  have hst₃ : s₂.step {} (.getExpiredEvent (atMs 3) (atMs 3)) = some s₃ :=
    Sys.step_next (by decide)
  have hst₄ : s₃.step {} (.getExpiredEvent (atMs 4) (atMs 4)) = some s₄ :=
    Sys.step_next (by decide)
  have hx₁ : StoresAtEnd {} S.init (some 3)
      { plainEvent (atMs 1) with ticket := 0, priority := 3 } s₁ :=
    ⟨oneRunner, atMs 1, atMs 1, plainEvent (atMs 1), .LOW, .NO_BARRIER, rfl, rfl, hst₁, by decide⟩
  have hx₂ : StoresAtEnd {} s₁ (some 3)
      { plainEvent (atMs 2) with ticket := 1, priority := 3 } s₂ :=
    ⟨oneRunner, atMs 2, atMs 2, plainEvent (atMs 2), .LOW, .NO_BARRIER, rfl, rfl, hst₂, by decide⟩
  exact ⟨hret, (priority_order {} (atMs 0)).2.2 S.init s₁ s₁ s₂ s₃ s₄ [] _ _ 3 _ _ .init hx₁
    (.nil s₁) hx₂ (Sys.run_one hst₃) hst₄ rfl rfl rfl (by decide) hret⟩

end AppExecFwk
