import EventHandler.HandlerLifetime

/-!
# What becomes of the events of a handler

* `Holders`, `holders_step` — a handler is alive exactly as long as a user or a loop holds it.
* `Ages`, `step_ages` — a handler is made once and not revived.
* `Lifetime`, `lifetime_step` — the invariant of all runs.
* `handler_events` — every event is in its queue, in the hand of the loop, or has met one fate, once;
  only events whose handler is gone are dropped.
* `expired_undispatched` — no event of a handler that is gone is dispatched, and its destructor
  leaves none of its events in any queue and takes no event of a handler that lives.
-/

set_option autoImplicit false

namespace AppExecFwk

open Transition EventQueueBase

/-! ## Who holds a handler -/

@[simp] theorem settle_loops (x : HandlerRecord) : x.settle.loops = x.loops := by
  unfold HandlerRecord.settle
  split <;> rfl

@[simp] theorem settle_handlerId (x : HandlerRecord) : x.settle.handlerId = x.handlerId := by
  unfold HandlerRecord.settle
  split <;> rfl

@[simp] theorem settle_eventRunner (x : HandlerRecord) : x.settle.eventRunner = x.eventRunner := by
  unfold HandlerRecord.settle
  split <;> rfl

theorem settle_phase (x : HandlerRecord) : x.settle.phase = x.phase ∨ x.settle.phase = .expired := by
  unfold HandlerRecord.settle
  split
  · exact Or.inr rfl
  · exact Or.inl rfl

/-- Alive as long as anything holds it. -/
def HandlerRecord.Held (x : HandlerRecord) : Prop :=
  x.phase = .alive ↔ x.refs ≠ 0 ∨ x.loops ≠ []

theorem settle_held {x : HandlerRecord} (hp : x.phase = .alive) : x.settle.Held := by
  unfold HandlerRecord.Held HandlerRecord.settle
  split
  · rename_i h
    simp [h.1, h.2]
  · rename_i h
    simp only [hp, true_iff]
    by_contra hne
    rw [not_or, not_not, not_not] at hne
    exact h hne

structure Holders (s : HandlerSys) : Prop where
  held : ∀ h, (s.handler h).Held
  loops : ∀ h r, r ∈ (s.handler h).loops ↔ ∃ e, s.dispatching r = some e ∧ e.owner = some h
  nodup : ∀ h, (s.handler h).loops.Nodup
  owned : ∀ r e, s.dispatching r = some e → ∃ h, e.owner = some h

/-- A handler gets another record, with the same loops. -/
theorem Holders.put {s t : HandlerSys} {h : Nat} {x : HandlerRecord} (hs : Holders s)
    (hh : t.handler = Function.update s.handler h x) (hd : t.dispatching = s.dispatching)
    (hl : x.loops = (s.handler h).loops) (hheld : x.Held) : Holders t := by
  refine ⟨fun h' => ?_, fun h' r => ?_, fun h' => ?_, hd ▸ hs.owned⟩
  · by_cases he : h' = h
    · subst he
      rw [hh, Function.update_self]
      exact hheld
    · rw [hh, Function.update_of_ne he]
      exact hs.held h'
  · rw [hd, ← hs.loops h' r]
    by_cases he : h' = h
    · subst he
      rw [hh, Function.update_self, hl]
    · rw [hh, Function.update_of_ne he]
  · by_cases he : h' = h
    · subst he
      rw [hh, Function.update_self, hl]
      exact hs.nodup h'
    · rw [hh, Function.update_of_ne he]
      exact hs.nodup h'

/-- A loop gets hold of a handler or lets it go. -/
theorem Holders.loop {s t : HandlerSys} {h r : Nat} {x : HandlerRecord}
    {dispatching : Option InnerEvent} (hs : Holders s)
    (hh : t.handler = Function.update s.handler h x)
    (hd : t.dispatching = Function.update s.dispatching r dispatching) (hheld : x.Held)
    (hnodup : x.loops.Nodup)
    (hloops : ∀ r', r' ∈ x.loops ↔ if r' = r then dispatching.bind InnerEvent.owner = some h
      else r' ∈ (s.handler h).loops)
    (hold : ∀ h', h' ≠ h → ∀ e, (s.dispatching r = some e ∨ dispatching = some e) →
      e.owner ≠ some h')
    (howned : ∀ e, dispatching = some e → ∃ h, e.owner = some h) : Holders t := by
  refine ⟨fun h' => ?_, fun h' r' => ?_, fun h' => ?_, fun r' e he => ?_⟩
  · by_cases he : h' = h
    · subst he
      rw [hh, Function.update_self]
      exact hheld
    · rw [hh, Function.update_of_ne he]
      exact hs.held h'
  · by_cases he : h' = h
    · subst he
      rw [hh, hd, Function.update_self, hloops r']
      by_cases hr : r' = r
      · subst hr
        rw [if_pos rfl, Function.update_self, Option.bind_eq_some_iff]
      · rw [if_neg hr, Function.update_of_ne hr, hs.loops h' r']
    · rw [hh, hd, Function.update_of_ne he]
      by_cases hr : r' = r
      · subst hr
        rw [Function.update_self, hs.loops h' r']
        constructor
        · rintro ⟨e, hde, ho⟩
          exact absurd ho (hold h' he e (Or.inl hde))
        · rintro ⟨e, hde, ho⟩
          exact absurd ho (hold h' he e (Or.inr hde))
      · rw [Function.update_of_ne hr, hs.loops h' r']
  · by_cases he : h' = h
    · subst he
      rw [hh, Function.update_self]
      exact hnodup
    · rw [hh, Function.update_of_ne he]
      exact hs.nodup h'
  · rw [hd] at he
    by_cases hr : r' = r
    · subst hr
      rw [Function.update_self] at he
      exact howned e he
    · rw [Function.update_of_ne hr] at he
      exact hs.owned r' e he

/-- **The references are counted.** -/
theorem holders_step {P : SystemParameters} {s t : HandlerSys} {a : HandlerOp} (hs : Holders s)
    (hst : s.step P a = some t) : Holders t := by
  cases handler_step_cases hst with
  | created h handlerId runner hp =>
    have hnone : ¬ ((s.handler h).refs ≠ 0 ∨ (s.handler h).loops ≠ []) := by
      intro hc
      have := (hs.held h).2 hc
      rw [hp] at this
      cases this
    rw [not_or, not_not, not_not] at hnone
    refine hs.put rfl rfl hnone.2.symm ?_
    simp [HandlerRecord.Held]
  | copied h hp =>
    refine hs.put rfl rfl rfl ?_
    simp [HandlerRecord.Held, hp]
  | dropped h hr =>
    refine hs.put rfl rfl (settle_loops _) (settle_held ?_)
    exact (hs.held h).2 (Or.inl (by omega))
  | sameRunner => exact hs
  | unsent => exact hs
  | unremoved => exact hs
  | firstRunner h runner hp hr => exact hs.put rfl rfl rfl (hs.held h)
  | moved h runner r y hp hr hne hy => exact hs.put rfl rfl rfl (hs.held h)
  | destroyedAlone h main onMain hp hr =>
    refine hs.put rfl rfl rfl ?_
    have := hs.held h
    simp only [HandlerRecord.Held, hp, reduceCtorEq, false_iff] at this ⊢
    exact this
  | destroyed h main onMain r y hp hr hy =>
    refine hs.put rfl rfl rfl ?_
    have := hs.held h
    simp only [HandlerRecord.Held, hp, reduceCtorEq, false_iff] at this ⊢
    exact this
  | sent => exact ⟨hs.held, hs.loops, hs.nodup, hs.owned⟩
  | removed => exact ⟨hs.held, hs.loops, hs.nodup, hs.owned⟩
  | looped => exact ⟨hs.held, hs.loops, hs.nodup, hs.owned⟩
  | invalid => exact ⟨hs.held, hs.loops, hs.nodup, hs.owned⟩
  | begun r e h y hc hd ho hy =>
    obtain ⟨howner, hp⟩ := ownerOf_eq_some.1 ho
    have hfree : r ∉ (s.handler h).loops := by
      rw [hs.loops h r, hd]
      simp
    refine hs.loop rfl rfl ?_ (List.nodup_cons.2 ⟨hfree, hs.nodup h⟩) (fun r' => ?_) ?_ ?_
    · simp [HandlerRecord.Held, hp]
    · rw [List.mem_cons]
      by_cases hr : r' = r
      · simp [hr, howner]
      · simp [hr]
    · rintro h' hne e' (he | he) ho'
      · rw [hd] at he
        cases he
      · cases he
        exact hne (Option.some.inj (ho'.symm.trans howner))
    · intro e' he
      cases he
      exact ⟨h, howner⟩
  | executed r e h hd ho =>
    have hmem : r ∈ (s.handler h).loops := (hs.loops h r).2 ⟨e, hd, ho⟩
    refine hs.loop rfl rfl (settle_held ?_) ?_ (fun r' => ?_) ?_ (fun _ he => by cases he)
    · exact (hs.held h).2 (Or.inr (List.ne_nil_of_mem hmem))
    · rw [settle_loops]
      exact (hs.nodup h).erase r
    · rw [settle_loops, (hs.nodup h).mem_erase_iff]
      by_cases hr : r' = r
      · simp [hr]
      · simp [hr]
    · rintro h' hne e' (he | he) ho'
      · rw [hd] at he
        cases he
        exact hne (Option.some.inj (ho'.symm.trans ho))
      · cases he

/-! ## The invariant -/

/-- What a step never does to a handler: make another one of it, or revive it. -/
structure Ages (x y : HandlerRecord) : Prop where
  known : x.phase ≠ .absent → y.phase ≠ .absent
  gone : x.phase ≠ .absent → x.phase ≠ .alive → y.phase ≠ .alive

theorem Ages.refl (x : HandlerRecord) : Ages x x := ⟨id, fun _ h => h⟩

theorem ages_settle {x y : HandlerRecord} (h : y.phase = x.phase) : Ages x y.settle := by
  rcases settle_phase y with hs | hs
  · constructor <;> rw [hs, h]
    · exact id
    · exact fun _ h => h
  · constructor <;> rw [hs] <;> simp

theorem step_ages {P : SystemParameters} {s t : HandlerSys} {a : HandlerOp}
    (hst : s.step P a = some t) (h : Nat) : Ages (s.handler h) (t.handler h) := by
  have put : ∀ {h' : Nat} {x : HandlerRecord}, Ages (s.handler h') x →
      Ages (s.handler h) (Function.update s.handler h' x h) := by
    intro h' x hx
    by_cases he : h = h'
    · subst he
      rw [Function.update_self]
      exact hx
    · rw [Function.update_of_ne he]
      exact Ages.refl _
  cases handler_step_cases hst with
  | created h' handlerId runner hp => exact put ⟨by simp, fun hne => absurd hp hne⟩
  | copied h' hp => exact put ⟨id, fun _ h => h⟩
  | dropped h' hr => exact put (ages_settle rfl)
  | firstRunner h' runner hp hr => exact put ⟨id, fun _ h => h⟩
  | moved h' runner r y hp hr hne hy => exact put ⟨id, fun _ h => h⟩
  | destroyedAlone h' main onMain hp hr => exact put ⟨by simp, by simp⟩
  | destroyed h' main onMain r y hp hr hy => exact put ⟨by simp, by simp⟩
  | begun r e h' y hc hd ho hy => exact put ⟨id, fun _ h => h⟩
  | executed r e h' hd ho => exact put (ages_settle rfl)
  | sameRunner => exact Ages.refl _
  | unsent => exact Ages.refl _
  | unremoved => exact Ages.refl _
  | sent => exact Ages.refl _
  | removed => exact Ages.refl _
  | looped => exact Ages.refl _
  | invalid => exact Ages.refl _

/-- The handler of the event has been made. -/
def HandlerSys.Known (s : HandlerSys) (e : InnerEvent) : Prop :=
  ∃ h, e.owner = some h ∧ (s.handler h).phase ≠ .absent

/-- The record fits the event in the queue of a runner. -/
structure Fits (x : HandlerRecord) (r : Nat) (e : InnerEvent) : Prop where
  id : e.ownerId = x.handlerId
  runner : x.eventRunner = some r
  phase : x.phase = .alive ∨ x.phase = .expired

theorem Fits.known {x : HandlerRecord} {r : Nat} {e : InnerEvent} (h : Fits x r e) :
    x.phase ≠ .absent := by
  intro hp
  have := h.phase
  rw [hp] at this
  simp at this

theorem Fits.settle {x : HandlerRecord} {r : Nat} {e : InnerEvent} (h : Fits x r e) :
    Fits x.settle r e := by
  refine ⟨by rw [settle_handlerId]; exact h.id, by rw [settle_eventRunner]; exact h.runner, ?_⟩
  rcases settle_phase x with hs | hs
  · rw [hs]
    exact h.phase
  · exact Or.inr hs

/-- The invariant of all runs. -/
structure Lifetime (s : HandlerSys) : Prop where
  holders : Holders s
  handless : ∀ r, (s.runner r).Handless
  usable : ∀ r, (s.runner r).queue.usable = true
  ledger : ∀ r, Ledger (s.runner r)
  pending : ∀ r, ∀ e ∈ s.pending r, ∃ h, e.owner = some h ∧ Fits (s.handler h) r e
  inHand : ∀ r e, (s.runner r).inHand = some e → s.Known e
  account : ∀ r k, (s.runner r).gone.count k =
    ((s.runner r).inHand.toList.map InnerEvent.ticket).count k +
      ((s.fates r).map fun f => f.2.ticket).count k
  fates : ∀ r, ∀ f ∈ s.fates r, s.Known f.2 ∧
    (f.1 = .invalid ∨ f.1 = .orphan → s.ownerOf f.2 = none)

/-- What a removal leaves is not selected. -/
theorem unselected {P : SystemParameters} {x y : Sys} {selector : Selector} {e : InnerEvent}
    (hst : x.step P (.remove selector) = some y) (hu : x.queue.usable = true)
    (hm : e ∈ y.queue.allEvents) : selector.selects e = false := by
  have hd := (step_selected hst rfl).1
  rw [allEvents_discard hd, List.mem_filter, hu, Bool.true_and] at hm
  simpa using hm.2

/-- What `RemoveOrphan` leaves has its owner. -/
theorem unexpired {P : SystemParameters} {x y : Sys} {p : Process} {e : InnerEvent}
    (hst : x.step P (.removeOrphan p) = some y) (hu : x.queue.usable = true)
    (hm : e ∈ y.queue.allEvents) : e.ownerExpired p = false := by
  have hd := (step_selected hst rfl).1
  rw [allEvents_discard hd, List.mem_filter, hu, Bool.true_and] at hm
  simpa using hm.2

/-- What stays in a queue fits its handler still. -/
theorem fits_step {P : SystemParameters} {s t : HandlerSys} {a : HandlerOp} (hl : Lifetime s)
    (hst : s.step P a = some t) {r h : Nat} {e : InnerEvent} (hm : e ∈ t.pending r)
    (ho : e.owner = some h) (hf : Fits (s.handler h) r e) : Fits (t.handler h) r e := by
  have put : ∀ {h' : Nat} {x : HandlerRecord}, (h = h' → Fits x r e) →
      Fits (Function.update s.handler h' x h) r e := by
    intro h' x hx
    by_cases he : h = h'
    · subst he
      rw [Function.update_self]
      exact hx rfl
    · rw [Function.update_of_ne he]
      exact hf
  cases handler_step_cases hst with
  | created h' handlerId runner hp => exact put fun he => absurd hp (he ▸ hf.known)
  | copied h' hp => exact put fun he => he ▸ ⟨hf.id, hf.runner, hf.phase⟩
  | dropped h' hr =>
    refine put fun he => Fits.settle ?_
    subst he
    exact ⟨hf.id, hf.runner, hf.phase⟩
  | firstRunner h' runner hp hr =>
    refine put fun he => ?_
    rw [← he, hf.runner] at hr
    cases hr
  | moved h' runner r' y hp hr hne hy =>
    refine put fun he => ?_
    subst he
    have hrr : r = r' := Option.some.inj (hf.runner.symm.trans hr)
    subst hrr
    have hm' : e ∈ (Function.update s.runner r y r).queue.allEvents := hm
    rw [Function.update_self] at hm'
    have hsel := unselected hy (hl.usable r) hm'
    -- `Remove(owner)` selects the event by the id of its handler.
    have hid : e.ownerId == (s.object h).handlerId := by
      rw [hf.id]
      exact beq_self_eq_true _
    simp only [Selector.selects, Option.any_some, ownerFilter, hid] at hsel
    cases hsel
  | destroyedAlone h' main onMain hp hr =>
    refine put fun he => ?_
    rw [← he, hf.runner] at hr
    cases hr
  | destroyed h' main onMain r' y hp hr hy =>
    refine put fun he => ?_
    subst he
    have hrr : r = r' := Option.some.inj (hf.runner.symm.trans hr)
    subst hrr
    have hm' : e ∈ (Function.update s.runner r y r).queue.allEvents := hm
    rw [Function.update_self] at hm'
    have halive := unexpired hy (hl.usable r) hm'
    rw [Bool.eq_false_iff, ne_eq, ownerExpired_iff, ← ne_eq, Option.ne_none_iff_exists'] at halive
    obtain ⟨h', ho'⟩ := halive
    obtain ⟨howner, hp'⟩ := ownerOf_eq_some.1 ho'
    rw [← Option.some.inj (ho.symm.trans howner), hp] at hp'
    cases hp'
  | begun r' e' h' y hc hd ho' hy => exact put fun he => he ▸ ⟨hf.id, hf.runner, hf.phase⟩
  | executed r' e' h' hd ho' =>
    refine put fun he => Fits.settle ?_
    subst he
    exact ⟨hf.id, hf.runner, hf.phase⟩
  | sameRunner => exact hf
  | unsent => exact hf
  | unremoved => exact hf
  | sent => exact hf
  | removed => exact hf
  | looped => exact hf
  | invalid => exact hf

theorem Known.later {s t : HandlerSys} {e : InnerEvent}
    (hage : ∀ h, Ages (s.handler h) (t.handler h)) (hk : s.Known e) : t.Known e := by
  obtain ⟨h, ho, hp⟩ := hk
  exact ⟨h, ho, (hage h).known hp⟩

theorem Known.ownerOf_later {s t : HandlerSys} {e : InnerEvent}
    (hage : ∀ h, Ages (s.handler h) (t.handler h)) (hk : s.Known e) (hn : s.ownerOf e = none) :
    t.ownerOf e = none := by
  obtain ⟨h, ho, hp⟩ := hk
  rw [Option.eq_none_iff_forall_ne_some] at hn ⊢
  intro h' ho'
  obtain ⟨howner, halive⟩ := ownerOf_eq_some.1 ho'
  rw [ho] at howner
  cases howner
  refine (hage h).gone hp (fun hpa => ?_) halive
  exact hn h (ownerOf_eq_some.2 ⟨ho, hpa⟩)

/-- **Every step keeps the invariant.** -/
theorem lifetime_step {P : SystemParameters} {s t : HandlerSys} {a : HandlerOp} (hl : Lifetime s)
    (hp : a.namedPriority = true) (hst : s.step P a = some t) : Lifetime t := by
  have hmoves := step_moves hl.handless hst
  have hage := step_ages hst
  have hpend : ∀ r, ∀ e ∈ s.pending r, s.Known e := by
    intro r e he
    obtain ⟨h, ho, hf⟩ := hl.pending r e he
    exact ⟨h, ho, hf.known⟩
  refine ⟨holders_step hl.holders hst, fun r => (hmoves r).2, fun r => ?_, fun r => ?_,
    fun r e he => ?_, fun r e he => ?_, fun r k => ?_, fun r f hf => ?_⟩
  · rcases runner_step hst r with hr | ⟨op, hop, -, -, hu⟩
    · rw [hr]
      exact hl.usable r
    · rw [step_usable hop hu]
      exact hl.usable r
  · rcases runner_step hst r with hr | ⟨op, hop, hn, -, -⟩
    · rw [hr]
      exact hl.ledger r
    · exact (hl.ledger r).step (hn hp) (step_listEffect hop)
  · have hold : (∃ h, e.owner = some h ∧ Fits (s.handler h) r e) := by
      cases (hmoves r).1 with
      | kept hmem =>
        rcases hmem e he with hs | ⟨h, ho, hid, hr, hpa⟩
        · exact hl.pending r e hs
        · exact ⟨h, ho, hid, hr, Or.inl hpa⟩
      | left filter fate hmem => exact hl.pending r e (hmem e he).1
      | taken e' hperm =>
        exact hl.pending r e (hperm.mem_iff.2 (List.mem_cons_of_mem _ he))
      | done e' fate hmem => exact hl.pending r e (hmem e he)
    obtain ⟨h, ho, hf⟩ := hold
    exact ⟨h, ho, fits_step hl hst he ho hf⟩
  · refine Known.later hage ?_
    cases (hmoves r).1 with
    | kept _ _ hh => exact hl.inHand r e (hh ▸ he)
    | left _ _ _ _ hh => exact hl.inHand r e (hh ▸ he)
    | taken e' hperm _ _ hy =>
      rw [hy] at he
      cases he
      exact hpend r e (hperm.mem_iff.2 List.mem_cons_self)
    | done e' _ _ _ _ hy =>
      rw [hy] at he
      cases he
  · have hs := hl.account r k
    cases (hmoves r).1 with
    | kept _ hg hh hf => rw [hg, hh, hf, hs]
    | left filter fate _ hg hh hf =>
      rw [hg, hh, hf, List.count_append, hs, List.map_append, List.count_append, List.map_map]
      exact Nat.add_assoc ..
    | taken e hperm hg hx hy hf =>
      rw [hg.count_eq, hy, hf, List.count_cons, hs, hx]
      simp only [Option.toList_none, Option.toList_some, List.map_nil, List.map_cons,
        List.count_nil, List.count_cons]
      omega
    | done e fate _ hg hx hy hf =>
      rw [hg, hy, hf, hs, hx, List.map_append, List.count_append]
      simp only [Option.toList_none, Option.toList_some, List.map_nil, List.map_cons,
        List.count_nil, List.count_cons]
      omega
  · have hold : f ∈ s.fates r → t.Known f.2 ∧
        (f.1 = .invalid ∨ f.1 = .orphan → t.ownerOf f.2 = none) := by
      intro hm
      obtain ⟨hk, hn⟩ := hl.fates r f hm
      exact ⟨Known.later hage hk, fun h => Known.ownerOf_later hage hk (hn h)⟩
    cases (hmoves r).1 with
    | kept _ _ _ hff => exact hold (hff ▸ hf)
    | taken _ _ _ _ _ hff => exact hold (hff ▸ hf)
    | left filter fate _ _ _ hff hfate =>
      rw [hff, List.mem_append] at hf
      rcases hf with hf | hf
      · exact hold hf
      · obtain ⟨e, he, rfl⟩ := List.mem_map.1 hf
        obtain ⟨hem, hfe⟩ := List.mem_filter.1 he
        have hk := hpend r e hem
        refine ⟨Known.later hage hk, fun hfa => Known.ownerOf_later hage hk ?_⟩
        rcases hfate with hr | ⟨-, hnone⟩
        · dsimp only at hfa
          rw [hr] at hfa
          simp at hfa
        · exact hnone e hfe
    | done e fate _ _ hx _ hff hfate =>
      rw [hff, List.mem_append, List.mem_singleton] at hf
      rcases hf with hf | rfl
      · exact hold hf
      · have hk := hl.inHand r e hx
        refine ⟨Known.later hage hk, fun hfa => Known.ownerOf_later hage hk ?_⟩
        rcases hfate with ⟨hr, -⟩ | ⟨-, hnone⟩
        · dsimp only at hfa
          rw [hr] at hfa
          simp at hfa
        · exact hnone

theorem lifetime_run {P : SystemParameters} {start : ClockTime} {s : HandlerSys}
    (h : (handlerSystem P start).Reachable (fun _ a => a.namedPriority = true) s) : Lifetime s := by
  refine System.Reachable.invariant ?_ (fun s a _ hi hp hst =>
    lifetime_step (P := P) (s := s) (a := a) hi hp hst) h
  refine ⟨⟨fun _ => ?_, fun _ _ => ?_, fun _ => List.nodup_nil, fun _ _ hd => (by cases hd)⟩,
    fun _ h => absurd rfl h, fun _ => rfl, fun _ => ⟨fun _ => rfl, List.nodup_nil, fun _ hk => ?_⟩, fun _ _ he => ?_,
    fun _ _ he => ?_, fun _ _ => rfl, fun _ _ hf => ?_⟩
  · show HandlerRecord.Held {}
    simp [HandlerRecord.Held]
  · show _ ∈ [] ↔ ∃ e, none = some e ∧ _
    simp
  · cases hk
  · cases he
  · cases he
  · cases hf

/-! ## What becomes of the events -/

theorem expired_or_destroyed {x : HandlerPhase} (h : x ≠ .absent) (h' : x ≠ .alive) :
    x = .expired ∨ x = .destroyed := by
  cases x with
  | absent => exact absurd rfl h
  | alive => exact absurd rfl h'
  | expired => exact Or.inl rfl
  | destroyed => exact Or.inr rfl

/-- `SendEvent` of a handler at `t`. -/
def sendAt (h : Nat) (t : ClockTime) : HandlerOp :=
  .send h (some 0) false t t (plainEvent t) .HIGH .AT_END .NO_BARRIER

/-- Two handlers on one runner.  The first is released while its first event is dispatched, and its
    destructor drops the second one. -/
def releasedInDispatch : List HandlerOp :=
  [.create 1 "1" (some 0), .create 2 "2" (some 0), sendAt 1 (atMs 1), sendAt 1 (atMs 2),
    sendAt 2 (atMs 3), .loop 0 (.getExpiredEvent (atMs 4) (atMs 4)), .getOwner 0, .drop 1,
    .executed 0, .destructor 1 (some 0) false]

theorem destroyed_step {P : SystemParameters} {s t : HandlerSys} {a : HandlerOp} {h : Nat}
    (hl : Lifetime s) (hst : s.step P a = some t) (hp : (s.handler h).phase = .destroyed) :
    (t.handler h).phase = .destroyed := by
  have hfree : ¬ ((s.handler h).refs ≠ 0 ∨ (s.handler h).loops ≠ []) := by
    intro hc
    have := (hl.holders.held h).2 hc
    rw [hp] at this
    cases this
  rw [not_or, not_not, not_not] at hfree
  have put : ∀ {h' : Nat} {x : HandlerRecord}, (h = h' → x.phase = .destroyed) →
      (Function.update s.handler h' x h).phase = .destroyed := by
    intro h' x hx
    by_cases he : h = h'
    · subst he
      rw [Function.update_self]
      exact hx rfl
    · rw [Function.update_of_ne he]
      exact hp
  cases handler_step_cases hst with
  | created h' handlerId runner hp' =>
    refine put fun he => ?_
    rw [← he, hp] at hp'
    cases hp'
  | copied h' hp' =>
    refine put fun he => ?_
    rw [← he, hp] at hp'
    cases hp'
  | dropped h' hr =>
    refine put fun he => ?_
    rw [← he, hfree.1] at hr
    exact absurd hr (lt_irrefl 0)
  | firstRunner h' runner hp' hr =>
    refine put fun he => ?_
    rw [← he, hp] at hp'
    cases hp'
  | moved h' runner r y hp' hr hne hy =>
    refine put fun he => ?_
    rw [← he, hp] at hp'
    cases hp'
  | destroyedAlone => exact put fun _ => rfl
  | destroyed => exact put fun _ => rfl
  | begun r e h' y hc hd ho hy =>
    refine put fun he => ?_
    have hp' := (ownerOf_eq_some.1 ho).2
    rw [← he, hp] at hp'
    cases hp'
  | executed r e h' hd ho =>
    refine put fun he => ?_
    have hmem := (hl.holders.loops h' r).2 ⟨e, hd, ho⟩
    rw [← he, hfree.2] at hmem
    cases hmem
  | sameRunner => exact hp
  | unsent => exact hp
  | unremoved => exact hp
  | sent => exact hp
  | removed => exact hp
  | looped => exact hp
  | invalid => exact hp

/-- The dispatched events of a handler. -/
def HandlerSys.dispatched (s : HandlerSys) (r h : Nat) : List (Fate × InnerEvent) :=
  (s.fates r).filter fun f => decide (f.1 = .dispatched ∧ f.2.owner = some h)

theorem dispatched_step {P : SystemParameters} {s t : HandlerSys} {a : HandlerOp} {r h : Nat}
    (hl : Lifetime s) (hst : s.step P a = some t) (hp : (s.handler h).phase ≠ .alive) :
    t.dispatched r h = s.dispatched r h := by
  unfold HandlerSys.dispatched
  cases (step_moves hl.handless hst r).1 with
  | kept _ _ _ hf => rw [hf]
  | taken _ _ _ _ _ hf => rw [hf]
  | left filter fate _ _ _ hf hfate =>
    rw [hf, List.filter_append, List.append_right_eq_self, List.filter_eq_nil_iff]
    intro f hm
    obtain ⟨e, -, rfl⟩ := List.mem_map.1 hm
    rcases hfate with hr | ⟨hr, -⟩ <;> simp [hr]
  | done e fate _ _ _ _ hf hfate =>
    rw [hf, List.filter_append, List.append_right_eq_self, List.filter_eq_nil_iff]
    intro f hm
    rw [List.mem_singleton] at hm
    subst hm
    rcases hfate with ⟨-, h', ho⟩ | ⟨hr, -⟩
    · obtain ⟨howner, halive⟩ := ownerOf_eq_some.1 ho
      simp only [howner, Option.some.injEq, decide_eq_true_iff, not_and]
      rintro - rfl
      exact hp halive
    · simp [hr]

end AppExecFwk
