import Mathlib
import EventHandler.Lib.Transition
import EventHandler.Emitter

/-!
# Listeners registered by `once`

A once listener leaves its set after its callback has returned, and its `isDeleted` flag stays as it
is, so a dispatch that copies the set before that queues another worker, which calls the callback
again.

* `outstanding` — the listener has a worker: still to be queued, queued, or with its callback running.
* `NoOverlap` — the condition: no event is dispatched to a once listener that has one.
* `FiresOnce`, `firesOnce_step` — what such a run keeps: the workers and the calls of a once listener
  add up to at most one, and a listener that was called is running or in no set.
* `once_fires_once_iff` — under the condition no once listener is called twice, and from every state
  reached under it exactly the dispatches that break the condition can be followed by a second call.
* `once_fires_twice` — two events dispatched before the first worker runs.
-/

set_option autoImplicit false

namespace AppExecFwk

open Transition Transition.System

namespace EmitterSys

/-- The callback of the listener is running. -/
def executing (s : EmitterSys) (info : Nat) : Prop := s.running (s.infos info).tsfn = some info

instance executingDecidable (s : EmitterSys) (info : Nat) : Decidable (s.executing info) :=
  inferInstanceAs (Decidable (_ = _))

/-- The listener has a worker. -/
def outstanding (s : EmitterSys) (info : Nat) : Prop :=
  info ∈ s.callbackInfos ∨ info ∈ s.workers ∨ s.executing info

instance outstandingDecidable (s : EmitterSys) (info : Nat) : Decidable (s.outstanding info) :=
  inferInstanceAs (Decidable (_ ∨ _ ∨ _))

/-- The workers of the listener that have not started. -/
def waiting (s : EmitterSys) (info : Nat) : Nat := s.callbackInfos.count info + s.workers.count info

/-- No once listener was called more than once. -/
def AtMostOnce (s : EmitterSys) : Prop :=
  ∀ info, s.onlyOnce info = true → s.invocations info ≤ 1

end EmitterSys

/-- No event is dispatched to a once listener that still has a worker of an earlier dispatch. -/
def NoOverlap (s : EmitterSys) : EmitterOp → Prop
  | .processEvent id =>
    ∀ info ∈ s.emitterInstances id,
      (s.infos info).valid = true → s.onlyOnce info = true → ¬s.outstanding info
  | _ => True

instance noOverlapDecidable (s : EmitterSys) (op : EmitterOp) : Decidable (NoOverlap s op) := by
  cases op <;> unfold NoOverlap <;> infer_instance

/-! ## The invariant -/

/-- A listener has at most one worker or one call, and one that was called is running or retired. -/
structure FiresOnce (s : EmitterSys) (info : Nat) : Prop where
  atMost : s.waiting info + s.invocations info ≤ 1
  called : s.executing info → 0 < s.invocations info
  retired : 0 < s.invocations info → s.executing info ∨ ∀ id, info ∉ s.emitterInstances id

theorem FiresOnce.of_le {s t : EmitterSys} {info : Nat} (h : FiresOnce s info)
    (hw : t.waiting info ≤ s.waiting info) (hi : t.invocations info = s.invocations info)
    (he : t.executing info ↔ s.executing info)
    (hm : ∀ id, info ∈ t.emitterInstances id → info ∈ s.emitterInstances id) :
    FiresOnce t info where
  atMost := by
    have := h.atMost
    omega
  called hx := by
    rw [hi]
    exact h.called (he.1 hx)
  retired hc := by
    rw [hi] at hc
    rcases h.retired hc with hx | hn
    · exact .inl (he.2 hx)
    · exact .inr fun id hid => hn id (hm id hid)

/-- A listener without a worker and without a call. -/
theorem FiresOnce.fresh {s : EmitterSys} {info : Nat} (hw : s.waiting info ≤ 1)
    (hi : s.invocations info = 0) (he : ¬s.executing info) : FiresOnce s info where
  atMost := by omega
  called hx := absurd hx he
  retired hc := by omega

theorem waiting_eq_zero {s : EmitterSys} {info : Nat} (hc : info ∉ s.callbackInfos)
    (hw : info ∉ s.workers) : s.waiting info = 0 := by
  unfold EmitterSys.waiting
  rw [List.count_eq_zero_of_not_mem hc, List.count_eq_zero_of_not_mem hw]

section Steps

variable {s : EmitterSys} {info : Nat}

theorem FiresOnce.retires {t : EmitterSys} (h : FiresOnce s info) (hr : Retires s t) :
    FiresOnce t info := by
  refine h.of_le ?_ ?_ ?_ fun id hm => (hr.instances id).subset hm
  · unfold EmitterSys.waiting
    rw [hr.callbackInfos, hr.workers]
  · rw [hr.invocations]
  · unfold EmitterSys.executing
    rw [hr.running, hr.tsfn]

theorem FiresOnce.updated (h : FiresOnce s info) (i : Nat) (once : Bool) :
    FiresOnce (s.updateOnceFlag i once) info := by
  refine h.of_le (le_refl _) rfl ?_ fun _ hm => hm
  unfold EmitterSys.executing EmitterSys.updateOnceFlag
  by_cases hi : info = i
  · subst hi
    simp
  · simp [Function.update_of_ne hi]

/-- A listener that was there before another one is created. -/
theorem FiresOnce.inserted (h : FiresOnce s info) (hlt : info < s.created) (env : Nat)
    (id : CompositeEventId) (callback : Nat) (once wrapped : Bool) :
    FiresOnce (s.insertCallbackInfo env id callback once wrapped) info := by
  have hne : info ≠ s.created := by omega
  refine h.of_le (le_refl _) rfl ?_ ?_
  · unfold EmitterSys.executing
    rw [insertCallbackInfo_infos hne]
    exact Iff.rfl
  · intro id' hm
    exact (mem_insertCallbackInfo hm).resolve_right fun hx => hne hx.1

theorem FiresOnce.created (hl : Listed s) (env : Nat) (id : CompositeEventId) (callback : Nat)
    (once wrapped : Bool) :
    FiresOnce (s.insertCallbackInfo env id callback once wrapped) s.created := by
  refine .fresh ?_ (hl.uncalled _ (le_refl _)) ?_
  · have hc : s.created ∉ s.callbackInfos := fun hm => absurd (hl.callbackInfos_lt _ hm) (by omega)
    have hw : s.created ∉ s.workers := fun hm => absurd (hl.workers_lt _ hm) (by omega)
    have h0 : (s.insertCallbackInfo env id callback once wrapped).waiting s.created = 0 :=
      waiting_eq_zero hc hw
    omega
  · intro hx
    have := (hl.running_own _ _ hx).1
    omega

/-- The dispatch copies the listener at most once, and only when it has no worker. -/
theorem FiresOnce.processed (h : FiresOnce s info) (hl : Listed s) {id : CompositeEventId}
    (hok : info ∈ s.emitterInstances id → (s.infos info).valid = true → ¬s.outstanding info) :
    FiresOnce (s.processEvent id) info := by
  have hcopy : (s.processEvent id).callbackInfos =
      (s.emitterInstances id).filter fun i => (s.infos i).valid := by
    simp [EmitterSys.processEvent, EmitterSys.prune, EmitterSys.setInstances]
  have hsub : ∀ id', info ∈ (s.processEvent id).emitterInstances id' →
      info ∈ s.emitterInstances id' := fun id' hm => ((retires_prune s id).instances id').subset hm
  by_cases hm : info ∈ (s.processEvent id).callbackInfos
  · rw [hcopy, List.mem_filter] at hm
    have hfree := hok hm.1 hm.2
    have hw : info ∉ s.workers := fun hw => hfree (.inr (.inl hw))
    have hx : ¬s.executing info := fun hx => hfree (.inr (.inr hx))
    refine .fresh ?_ ?_ hx
    · have hnd : ((s.processEvent id).callbackInfos).Nodup := by
        rw [hcopy]
        exact (hl.nodup id).filter _
      have h1 := List.nodup_iff_count_le_one.1 hnd info
      have h0 : (s.processEvent id).workers.count info = 0 := List.count_eq_zero_of_not_mem hw
      unfold EmitterSys.waiting
      omega
    · show s.invocations info = 0
      by_contra hne
      rcases h.retired (by omega) with hx' | hn
      · exact hx hx'
      · exact hn id hm.1
  · refine h.of_le ?_ rfl Iff.rfl hsub
    have h0 : (s.processEvent id).callbackInfos.count info = 0 := List.count_eq_zero_of_not_mem hm
    have hw : (s.processEvent id).workers.count info = s.workers.count info := rfl
    unfold EmitterSys.waiting
    omega

theorem FiresOnce.calledWorker (h : FiresOnce s info) {i : Nat} (hm : i ∈ s.callbackInfos)
    (called : Bool) : FiresOnce (s.callWorker i called) info := by
  refine h.of_le ?_ rfl Iff.rfl fun _ hm => hm
  have hpos : 0 < s.callbackInfos.count i := List.count_pos_iff.2 hm
  unfold EmitterSys.waiting EmitterSys.callWorker
  simp only
  by_cases hi : info = i
  · subst hi
    rw [List.count_erase_self]
    split
    · rw [List.count_append, List.count_singleton_self]
      omega
    · omega
  · rw [List.count_erase_of_ne hi]
    split
    · rw [List.count_append, List.count_singleton]
      simp [Ne.symm hi]
    · exact le_refl _

theorem FiresOnce.dropped (h : FiresOnce s info) (i : Nat) :
    FiresOnce { s with workers := s.workers.erase i } info := by
  refine h.of_le ?_ rfl Iff.rfl fun _ hm => hm
  have := (List.erase_sublist (a := i) (l := s.workers)).count_le info
  unfold EmitterSys.waiting
  simp only
  omega

theorem FiresOnce.invoked (h : FiresOnce s info) {i : Nat} (hm : i ∈ s.workers)
    (hr : s.running (s.infos i).tsfn = none) :
    FiresOnce
      { s with
        workers := s.workers.erase i
        running := Function.update s.running (s.infos i).tsfn (some i)
        invocations := Function.update s.invocations i (s.invocations i + 1) } info := by
  by_cases hi : info = i
  · subst hi
    have hpos : 0 < s.workers.count info := List.count_pos_iff.2 hm
    have hat := h.atMost
    refine ⟨?_, ?_, ?_⟩
    · unfold EmitterSys.waiting at hat ⊢
      simp only [List.count_erase_self, Function.update_self]
      omega
    · intro _
      simp
    · intro _
      left
      unfold EmitterSys.executing
      simp
  · refine h.of_le ?_ ?_ ?_ fun _ hm => hm
    · have := (List.erase_sublist (a := i) (l := s.workers)).count_le info
      unfold EmitterSys.waiting
      simp only
      omega
    · simp only [Function.update_of_ne hi]
    · unfold EmitterSys.executing
      simp only
      by_cases ht : (s.infos info).tsfn = (s.infos i).tsfn
      · rw [ht, hr, Function.update_self]
        simp [Ne.symm hi]
      · rw [Function.update_of_ne ht]

/-- When its callback has returned, a once listener is in no set. -/
theorem FiresOnce.returned (h : FiresOnce s info) (hl : Listed s) {env i : Nat}
    (hr : s.running env = some i) (ho : s.onlyOnce info = true) :
    FiresOnce (s.callbackReturned env i) info := by
  have hsame : (s.callbackReturned env i).callbackInfos = s.callbackInfos ∧
      (s.callbackReturned env i).workers = s.workers ∧
      (s.callbackReturned env i).invocations = s.invocations ∧
      (s.callbackReturned env i).infos = s.infos ∧
      (s.callbackReturned env i).running = Function.update s.running env none := by
    unfold EmitterSys.callbackReturned
    split <;> exact ⟨rfl, rfl, rfl, rfl, rfl⟩
  obtain ⟨hc, hw, hinv, hinfos, hrun⟩ := hsame
  have hwait : (s.callbackReturned env i).waiting info = s.waiting info := by
    unfold EmitterSys.waiting
    rw [hc, hw]
  by_cases hi : info = i
  · subst hi
    have htsfn := (hl.running_own env info hr).2
    refine ⟨?_, ?_, ?_⟩
    · rw [hwait, hinv]
      exact h.atMost
    · intro hx
      unfold EmitterSys.executing at hx
      rw [hrun, hinfos, htsfn, Function.update_self] at hx
      cases hx
    · intro _
      right
      intro id hm
      unfold EmitterSys.callbackReturned EmitterSys.setInstances at hm
      rw [if_pos (hl.once info ho).2] at hm
      by_cases hid : id = (s.infos info).compositeId
      · subst hid
        simp only [Function.update_self] at hm
        exact (hl.nodup _).not_mem_erase hm
      · simp only [Function.update_of_ne hid] at hm
        exact hid (hl.own id info hm).symm
  · refine h.of_le (le_of_eq hwait) (congrFun hinv info) ?_ ?_
    · unfold EmitterSys.executing
      rw [hrun, hinfos]
      by_cases ht : (s.infos info).tsfn = env
      · rw [ht, hr, Function.update_self]
        simp [Ne.symm hi]
      · rw [Function.update_of_ne ht]
    · intro id hm
      unfold EmitterSys.callbackReturned at hm
      split at hm
      · exact ((retires_setInstances List.erase_sublist).instances id).subset hm
      · exact hm

end Steps

/-- **What a step keeps** of the listeners that stay once listeners. -/
theorem firesOnce_step {s t : EmitterSys} {op : EmitterOp} (hl : Listed s)
    (h : ∀ info, s.onlyOnce info = true → FiresOnce s info) (hok : NoOverlap s op)
    (he : EmitterEffect s op t) : ∀ info, t.onlyOnce info = true → FiresOnce t info := by
  intro info ho
  cases he with
  | updated env id callback once wrapped i =>
    by_cases hi : info = i
    · subst hi
      simp [EmitterSys.updateOnceFlag] at ho
    · have ho' : s.onlyOnce info = true := by
        simpa [EmitterSys.updateOnceFlag, Function.update_of_ne hi] using ho
      exact (h info ho').updated i once
  | inserted env id callback once wrapped =>
    by_cases hi : info = s.created
    · subst hi
      exact .created hl env id callback once wrapped
    · have ho' : s.onlyOnce info = true := by
        simpa [EmitterSys.insertCallbackInfo, Function.update_of_ne hi] using ho
      exact (h info ho').inserted (hl.once info ho').1 env id callback once wrapped
  | retired op t hr => exact (h info (hr.onlyOnce ▸ ho)).retires hr
  | processed id hp hc =>
    have ho' : s.onlyOnce info = true := ho
    exact (h info ho').processed hl fun hm hv => hok info hm hv ho'
  | called i called hm => exact (h info ho).calledWorker hm called
  | dropped i ready hm => exact (h info ho).dropped i
  | invoked i ready hm hr => exact (h info ho).invoked hm hr
  | returned env i hr =>
    have ho' : s.onlyOnce info = true := by
      unfold EmitterSys.callbackReturned at ho
      split at ho <;> exact ho
    exact (h info ho').returned hl hr ho'

theorem reachable_firesOnce {s : EmitterSys} (h : emitterSystem.Reachable NoOverlap s) :
    Listed s ∧ ∀ info, s.onlyOnce info = true → FiresOnce s info := by
  have hstart : emitterSystem.Reachable always emitterSystem.init := .init
  have hinit : Listed emitterSystem.init := reachable_listed hstart
  refine h.invariant (I := fun s => Listed s ∧ ∀ info, s.onlyOnce info = true → FiresOnce s info)
    ⟨hinit, by simp [emitterSystem]⟩ ?_
  rintro s op t ⟨hl, hf⟩ hok hst
  have he := emitterStep_cases hst
  exact ⟨listed_step hl he, firesOnce_step hl hf hok he⟩

theorem reachable_atMostOnce {s : EmitterSys} (h : emitterSystem.Reachable NoOverlap s) :
    s.AtMostOnce := by
  intro info ho
  have := ((reachable_firesOnce h).2 info ho).atMost
  omega

/-! ## What an overlapping dispatch leads to -/

/-- The callback that runs on a JS thread returns. -/
theorem thread_freed (s : EmitterSys) (thread : Nat) :
    ∃ ops t, emitterSystem.Run NoOverlap s ops t ∧ t.running thread = none ∧ t.infos = s.infos ∧
      t.onlyOnce = s.onlyOnce ∧ t.workers = s.workers ∧ t.invocations = s.invocations := by
  cases hr : s.running thread with
  | none => exact ⟨[], s, .nil s, hr, rfl, rfl, rfl, rfl⟩
  | some i =>
    have hst : emitterSystem.step s (.callbackReturned thread) =
        some (s.callbackReturned thread i) := by
      simp [emitterSystem, EmitterSys.step, hr]
    have hok : NoOverlap s (.callbackReturned thread) := trivial
    refine ⟨_, _, .one hok hst, ?_⟩
    unfold EmitterSys.callbackReturned
    split <;> exact ⟨by simp, rfl, rfl, rfl, rfl⟩

/-- A queued worker of a listener that is not deleted can call its callback. -/
theorem worker_invokes {s : EmitterSys} {info : Nat} (hm : info ∈ s.workers)
    (hd : (s.infos info).isDeleted = false) :
    ∃ ops t, emitterSystem.Run NoOverlap s ops t ∧ t.infos = s.infos ∧ t.onlyOnce = s.onlyOnce ∧
      t.workers = s.workers.erase info ∧ t.invocations info = s.invocations info + 1 := by
  obtain ⟨ops, t, hrun, hfree, hinfos, honce, hworkers, hinv⟩ :=
    thread_freed s (s.infos info).tsfn
  have hst : emitterSystem.step t (.threadSafeCallback info true) =
      some (t.threadSafeCallback info true) :=
    if_pos ⟨hworkers ▸ hm, by rw [hinfos]; exact hfree⟩
  have hcalled : t.threadSafeCallback info true =
      { t with
        workers := t.workers.erase info
        running := Function.update t.running (t.infos info).tsfn (some info)
        invocations := Function.update t.invocations info (t.invocations info + 1) } := by
    unfold EmitterSys.threadSafeCallback
    rw [hinfos, hd]
    rfl
  have hok : NoOverlap t (.threadSafeCallback info true) := trivial
  refine ⟨_, _, hrun.append (.one hok hst), ?_⟩
  rw [hcalled]
  refine ⟨hinfos, honce, ?_, ?_⟩
  · show t.workers.erase info = _
    rw [hworkers]
  · show Function.update t.invocations info (t.invocations info + 1) info = _
    rw [Function.update_self, hinv]

/-- A dispatch to a once listener that still has a worker can be followed by a second call. -/
theorem overlap_invokes_twice {s : EmitterSys} (hs : emitterSystem.Reachable NoOverlap s)
    {id : CompositeEventId} (hc : s.callbackInfos = []) {info : Nat}
    (hm : info ∈ s.emitterInstances id) (hv : (s.infos info).valid = true)
    (ho : s.onlyOnce info = true) (hw : s.outstanding info) :
    ∃ ops t, emitterSystem.Run NoOverlap (s.processEvent id) ops t ∧ t.onlyOnce info = true ∧
      2 ≤ t.invocations info := by
  have hcopy : info ∈ (s.processEvent id).callbackInfos := by
    have : info ∈ (s.emitterInstances id).filter fun i => (s.infos i).valid :=
      List.mem_filter.2 ⟨hm, hv⟩
    simpa [EmitterSys.processEvent, EmitterSys.prune, EmitterSys.setInstances] using this
  have hd : (s.infos info).isDeleted = false := by
    unfold AsyncCallbackInfo.valid at hv
    simp only [Bool.and_eq_true, Bool.not_eq_true'] at hv
    exact hv.1
  -- the dispatch queues another worker
  obtain ⟨u, hu⟩ : ∃ u, u = (s.processEvent id).callWorker info true := ⟨_, rfl⟩
  have hstep : emitterSystem.step (s.processEvent id) (.callWorker info true) = some u := by
    rw [hu]
    exact if_pos hcopy
  have hok : NoOverlap (s.processEvent id) (.callWorker info true) := trivial
  have hworkers : u.workers = s.workers ++ [info] := by
    have hv' : ((s.processEvent id).infos info).valid = true := hv
    rw [hu]
    unfold EmitterSys.callWorker
    rw [hv']
    rfl
  have hinfos : u.infos = s.infos := by rw [hu]; rfl
  have honce : u.onlyOnce = s.onlyOnce := by rw [hu]; rfl
  have hinv : u.invocations = s.invocations := by rw [hu]; rfl
  have hmem : info ∈ u.workers := by simp [hworkers]
  obtain ⟨ops, t, hrun, hinfos', honce', hworkers', hinv'⟩ :=
    worker_invokes hmem (by rw [hinfos]; exact hd)
  have hrun' := (Run.one hok hstep).append hrun
  rcases hw with hw | hw | hx
  · rw [hc] at hw
    cases hw
  · -- the worker of the earlier dispatch is still queued
    have hm' : info ∈ t.workers := by
      rw [hworkers', hworkers, List.erase_append_left _ hw]
      simp
    obtain ⟨ops', t', hrun'', -, honce'', -, hinv''⟩ :=
      worker_invokes (s := t) hm' (by rw [hinfos', hinfos]; exact hd)
    refine ⟨_, t', hrun'.append hrun'', ?_, by omega⟩
    rw [honce'', honce', honce]
    exact ho
  · -- its callback is running, so it was called before
    have hcalled := ((reachable_firesOnce hs).2 info ho).called hx
    refine ⟨_, t, hrun', ?_, by rw [hinv', hinv]; omega⟩
    rw [honce', honce]
    exact ho

/-- **A once listener fires at most once** in every state of a run whose dispatches never overlap a
    worker of the listener; and the next step keeps this for every run that goes on without an
    overlap if and only if it is not itself an overlapping dispatch. -/
theorem once_fires_once_iff {s : EmitterSys} (hs : emitterSystem.Reachable NoOverlap s) :
    s.AtMostOnce ∧
    ∀ op t, emitterSystem.step s op = some t →
      (NoOverlap s op ↔ ∀ ops u, emitterSystem.Run NoOverlap t ops u → u.AtMostOnce) := by
  refine ⟨reachable_atMostOnce hs, ?_⟩
  intro op t hst
  constructor
  · intro hok ops u hrun
    exact reachable_atMostOnce ((hs.step hok hst).run hrun)
  · intro hall
    by_contra hno
    cases op with
    | processEvent id =>
      change s.step (.processEvent id) = some t at hst
      simp only [EmitterSys.step, Option.ite_none_right_eq_some, Option.some.injEq] at hst
      obtain ⟨⟨-, hc⟩, rfl⟩ := hst
      unfold NoOverlap at hno
      push Not at hno
      obtain ⟨info, hm, hv, ho, hw⟩ := hno
      obtain ⟨ops, u, hrun, ho', htwo⟩ := overlap_invokes_twice hs hc hm hv ho hw
      have := hall ops u hrun info ho'
      omega
    | _ => exact hno trivial

/-- A once listener whose event is emitted, dispatched and handled: it is called once, and while its
    callback runs another dispatch of the event would break the condition. -/
theorem once_fires_once_handled :
    ∃ s t, emitterSystem.Reachable NoOverlap s ∧ s.onlyOnce 0 = true ∧ s.invocations 0 = 1 ∧
      s.AtMostOnce ∧ emitterSystem.step s (.processEvent ⟨.u32 1, 0⟩) = some t ∧
      ¬∀ ops u, emitterSystem.Run NoOverlap t ops u → u.AtMostOnce := by
  obtain ⟨s, hrun, ho, hi, hno, hst⟩ := run_of_exec emitterSystem NoOverlap
    (fun s => s.onlyOnce 0 = true ∧ s.invocations 0 = 1 ∧
      ¬NoOverlap s (.processEvent ⟨.u32 1, 0⟩) ∧
      (s.step (.processEvent ⟨.u32 1, 0⟩)).isSome = true)
    [.onOrOnce 0 ⟨.u32 1, 0⟩ 7 true true, .emit ⟨.u32 1, 0⟩, .emit ⟨.u32 1, 0⟩,
      .processEvent ⟨.u32 1, 0⟩, .callWorker 0 true, .threadSafeCallback 0 true]
    (by decide)
  obtain ⟨t, ht⟩ := Option.isSome_iff_exists.1 hst
  have hs : emitterSystem.Reachable NoOverlap s := ⟨_, hrun⟩
  obtain ⟨hatMost, hexact⟩ := once_fires_once_iff hs
  exact ⟨s, t, hs, ho, hi, hatMost, ht,
    fun hall => hno ((hexact (.processEvent ⟨.u32 1, 0⟩) t ht).2 hall)⟩

/-- Two events are dispatched before the first worker runs: the listener is called twice. -/
theorem once_fires_twice : ¬∀ s, emitterSystem.Reachable always s → s.AtMostOnce := by
  intro hall
  obtain ⟨s, hrun, ho, hi⟩ := run_of_exec emitterSystem always
    (fun s => s.onlyOnce 0 = true ∧ s.invocations 0 = 2)
    [.onOrOnce 0 ⟨.u32 1, 0⟩ 7 true true, .emit ⟨.u32 1, 0⟩, .emit ⟨.u32 1, 0⟩,
      .processEvent ⟨.u32 1, 0⟩, .callWorker 0 true, .processEvent ⟨.u32 1, 0⟩, .callWorker 0 true,
      .threadSafeCallback 0 true, .callbackReturned 0, .threadSafeCallback 0 true]
    (by decide)
  have := hall s ⟨_, hrun⟩ 0 ho
  omega

end AppExecFwk
