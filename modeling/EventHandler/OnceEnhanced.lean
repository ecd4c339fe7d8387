import Mathlib
import EventHandler.Lib.Transition
import EventHandler.EnhancedSystem

/-!
# Once listeners of the enhanced emitter

A once listener of the N-API runtime is marked when its callback has returned, before another worker
can run on its thread; one of the ANI runtime is marked by the dispatch that pushes its task, and the
next dispatch passes it over.

* `OnceFires`, `onceFires_step` — an N-API listener that was called once is marked, or its callback is
  running.
* `TaskOnce`, `taskOnce_step` — the tasks and the calls of an ANI listener add up to at most one, and it
  is marked from its first task on.
* `enhanced_fires_once` — in both runtimes a listener whose once flag stays set is called at most once.
-/

set_option autoImplicit false

namespace AppExecFwk

open Transition Transition.System

/-! ## The N-API listeners -/

/-- A listener that was called is marked, or its callback is running. -/
structure OnceFires (s : EmitterSys) (info : Nat) : Prop where
  atMost : s.invocations info ≤ 1
  called : 0 < s.invocations info →
    (s.infos info).isDeleted = true ∨ s.running (s.infos info).tsfn = some info

theorem OnceFires.of_uncalled {s : EmitterSys} {info : Nat} (h : s.invocations info = 0) :
    OnceFires s info :=
  ⟨by omega, fun hc => by omega⟩

section Napi

variable {s t : EmitterSys} {info : Nat}

/-- The callback of another listener starts, or of one that was never called. -/
theorem OnceFires.invoked (h : OnceFires s info) {i : Nat} (hd : (s.infos i).isDeleted = false)
    (hr : s.running (s.infos i).tsfn = none) :
    OnceFires
      { s with
        workers := s.workers.erase i
        running := Function.update s.running (s.infos i).tsfn (some i)
        invocations := Function.update s.invocations i (s.invocations i + 1) } info := by
  by_cases hi : info = i
  · subst hi
    have hzero : s.invocations info = 0 := by
      by_contra hne
      rcases h.called (by omega) with hd' | hr'
      · rw [hd] at hd'
        cases hd'
      · rw [hr] at hr'
        cases hr'
    exact ⟨by simp [hzero], fun _ => .inr (by simp)⟩
  · refine ⟨?_, ?_⟩
    · simpa [hi] using h.atMost
    · intro hc
      simp only [Function.update_of_ne hi] at hc
      rcases h.called hc with hd' | hr'
      · exact .inl hd'
      · right
        have ht : (s.infos info).tsfn ≠ (s.infos i).tsfn := by
          intro ht
          rw [ht, hr] at hr'
          cases hr'
        simp only [Function.update_of_ne ht]
        exact hr'

theorem OnceFires.returned (h : OnceFires s info) (hl : Listed s) (hk : Kept s) (hret : Retired s)
    (ho : (s.infos info).once = true) {env i : Nat}
    (hr : s.running env = some i) : OnceFires (s.callbackReturnedEnhanced env i) info := by
  obtain ⟨u, hm, -, hu⟩ := callbackReturnedEnhanced_registry hl env i
  by_cases hi : info = i
  · subst hi
    have hd := marked_of_returned hl hk hret hr ho
    rw [hu] at hd ⊢
    refine ⟨?_, fun _ => .inl hd⟩
    show u.invocations info ≤ 1
    rw [hm.retires.invocations]
    exact h.atMost
  · rw [hu]
    refine ⟨?_, ?_⟩
    · show u.invocations info ≤ 1
      rw [hm.retires.invocations]
      exact h.atMost
    · intro hc
      have hc' : 0 < s.invocations info := by
        rw [← hm.retires.invocations]
        exact hc
      rcases h.called hc' with hd | hx
      · exact .inl (hm.isDeleted info hd)
      · right
        show Function.update s.running env none (u.infos info).tsfn = some info
        rw [hm.retires.tsfn]
        have ht : (s.infos info).tsfn ≠ env := by
          intro ht
          rw [ht, hr] at hx
          exact hi (Option.some.inj hx).symm
        rw [Function.update_of_ne ht]
        exact hx

/-- **What a step keeps of a listener whose once flag is set.** -/
theorem onceFires_step (h : OnceFires s info) (hl : Listed s) (hk : Kept s) (hret : Retired s)
    (hlt : info < s.created) (ho : (s.infos info).once = true) {op : EmitterOp}
    (hst : s.stepEnhanced op = some t) : OnceFires t info := by
  have hst' := hst
  rcases stepEnhanced_cases hst with ⟨env, i, rfl, hr, rfl⟩ | ⟨hop, hst⟩
  · exact h.returned hl hk hret ho hr
  · rcases invoked_cases hop hst with ⟨hrun, hinv, htsfn⟩ | ⟨i, ready, rfl, -, hd, hr, rfl⟩
    · refine ⟨by rw [hinv]; exact h.atMost, ?_⟩
      intro hc
      rw [hinv] at hc
      rw [hrun, htsfn info hlt]
      rcases h.called hc with hd | hx
      · exact .inl (isDeleted_stepEnhanced hl hst' hlt hd)
      · exact .inr hx
    · exact h.invoked hd hr

end Napi

/-! ## The ANI listeners -/

/-- The tasks and the calls of a listener add up to at most one, and a listener that has a task or was
    called is marked. -/
structure TaskOnce (s : AniManager) (info : Nat) : Prop where
  atMost : s.aniCallbackInfos.count info + s.tasksOf info + s.invocations info ≤ 1
  unmarked : (s.infos info).isDeleted = false ∨ s.created ≤ info →
    s.tasksOf info + s.invocations info = 0

section Ani

variable {s t : AniManager} {info : Nat}

theorem TaskOnce.of_le (h : TaskOnce s info)
    (hc : t.aniCallbackInfos.count info ≤ s.aniCallbackInfos.count info)
    (ht : t.tasksOf info + t.invocations info ≤ s.tasksOf info + s.invocations info)
    (hd : (t.infos info).isDeleted = false ∨ t.created ≤ info →
      (s.infos info).isDeleted = false ∨ s.created ≤ info) : TaskOnce t info where
  atMost := by
    have := h.atMost
    omega
  unmarked hd' := by
    have := h.unmarked (hd hd')
    omega

/-- Nothing is dispatched, and the marks that are missing were missing before. -/
theorem TaskOnce.frame (h : TaskOnce s info) (hf : s.Frame t)
    (hd : (t.infos info).isDeleted = false ∨ t.created ≤ info →
      (s.infos info).isDeleted = false ∨ s.created ≤ info) : TaskOnce t info := by
  refine h.of_le ?_ ?_ hd
  · rw [hf.aniCallbackInfos]
  · unfold AniManager.tasksOf
    rw [hf.taskData, hf.held, hf.sent, hf.invocations]

theorem TaskOnce.retires (h : TaskOnce s info) (hr : s.Retires t) : TaskOnce t info := by
  refine h.frame hr.frame ?_
  rintro (hd | hlt)
  · left
    by_contra hd'
    rw [Bool.not_eq_false] at hd'
    rw [hr.isDeleted info hd'] at hd
    cases hd
  · right
    rw [← hr.created]
    exact hlt

/-- An operation of the container. -/
theorem TaskOnce.effect (h : TaskOnce s info) (hf : s.Frame t) (he : s.ContainerEffect t) :
    TaskOnce t info := by
  cases he with
  | updated id i once hm hd =>
    refine h.frame hf ?_
    rw [(AniManager.infos_updateOnce s i once info).2]
    exact fun hd => hd
  | inserted id once callback =>
    refine h.frame hf ?_
    by_cases hi : info = s.created
    · exact fun _ => .inr (by omega)
    · rw [AniManager.infos_insert hi]
      have hc : (s.insert id once callback).created = s.created + 1 := rfl
      rintro (hd | hlt)
      · exact .inl hd
      · exact .inr (by omega)
  | retired t hr => exact h.retires hr

/-- A dispatch copies a listener that is not marked, which has no task. -/
theorem TaskOnce.dispatched (h : TaskOnce s info) (hp : s.Placed)
    (id : CompositeEventId) : TaskOnce (s.doCallback id) info := by
  have hr := AniManager.retires_prune s id
  have h' := h.retires hr
  have hlisteners := AniManager.listeners_prune s id id
  rw [if_pos rfl] at hlisteners
  have htasks : (s.doCallback id).tasksOf info + (s.doCallback id).invocations info =
      (s.prune id).tasksOf info + (s.prune id).invocations info := rfl
  by_cases hm : info ∈ (s.prune id).listeners id
  · have hd : ((s.prune id).infos info).isDeleted = false := by
      rw [hlisteners] at hm
      rw [AniManager.infos_prune]
      simpa using (List.mem_filter.1 hm).2
    have hzero := h'.unmarked (.inl hd)
    have hnodup : ((s.prune id).listeners id).Nodup := (hp.retires hr).nodup id
    have hone := List.nodup_iff_count_le_one.1 hnodup info
    have hcopy : (s.doCallback id).aniCallbackInfos = (s.prune id).listeners id := rfl
    refine ⟨?_, fun _ => by omega⟩
    rw [hcopy]
    omega
  · refine h'.of_le ?_ (le_of_eq htasks) fun hd => hd
    have hcopy : (s.doCallback id).aniCallbackInfos.count info = 0 :=
      List.count_eq_zero_of_not_mem hm
    omega

/-- The listener is marked before its task is pushed. -/
theorem TaskOnce.pushed (h : TaskOnce s info) (hp : s.Placed)
    (ho : info < s.created → (s.infos info).once = true) {i : Nat} (hm : i ∈ s.aniCallbackInfos)
    (woken : Nat) : TaskOnce (s.pushTaskData i woken) info := by
  have hpos : 0 < s.aniCallbackInfos.count i := List.count_pos_iff.2 hm
  have hcopy : (s.pushTaskData i woken).aniCallbackInfos = s.aniCallbackInfos.erase i := rfl
  have htasks : (s.pushTaskData i woken).tasksOf info =
      (s.taskData ++ [i]).count info + (s.held.map Prod.snd).count info + s.sent.count info := rfl
  have hinv : (s.pushTaskData i woken).invocations = s.invocations := rfl
  by_cases hi : info = i
  · subst hi
    have hlt := hp.dispatched_lt info hm
    have hat := h.atMost
    refine ⟨?_, ?_⟩
    · unfold AniManager.tasksOf at hat
      rw [hcopy, htasks, hinv, List.count_erase_self, List.count_append, List.count_singleton_self]
      omega
    · have hd : ((s.pushTaskData info woken).infos info).isDeleted = true := by
        have hd := (AniManager.markDeleted_infos s (fun i => i == info && (s.infos i).once) info).2.2
        simp only [ho hlt, beq_self_eq_true, Bool.and_true, Bool.or_true] at hd
        exact hd
      rintro (hd' | hc)
      · rw [hd] at hd'
        cases hd'
      · exact absurd hlt (Nat.not_lt.2 hc)
  · have hne : i ≠ info := fun he => hi he.symm
    refine h.of_le ?_ ?_ ?_
    · rw [hcopy, List.count_erase_of_ne hi]
    · rw [htasks, hinv, List.count_append, List.count_singleton]
      simp [AniManager.tasksOf, hne]
    · have hd := (AniManager.markDeleted_infos s (fun j => j == i && (s.infos j).once) info).2.2
      have hb : (info == i) = false := by simpa using hi
      simp only [hb, Bool.false_and, Bool.or_false] at hd
      rintro (hd' | hc)
      · exact .inl (hd.symm.trans hd')
      · exact .inr hc

/-- **What a step keeps of a listener whose once flag is set.** -/
theorem taskOnce_step (h : TaskOnce s info) (hp : s.Placed)
    (ho : info < s.created → (s.infos info).once = true) {op : AniOp} (hst : s.step op = some t) :
    TaskOnce t info := by
  rcases AniManager.aniStep_cases hst with ⟨hf, he⟩ | ⟨id, rfl, rfl⟩ | hw
  · exact h.effect hf he
  · exact h.dispatched hp id
  · rcases AniManager.task_cases hw with ⟨i, woken, rfl, hm, rfl⟩ | hmoved
    · exact h.pushed hp ho hm woken
    · refine h.of_le (le_of_eq (by rw [hmoved.aniCallbackInfos])) (hmoved.conserved info) ?_
      rw [hmoved.infos, hmoved.created]
      exact fun hd => hd

theorem taskOnce_init (info : Nat) : TaskOnce aniSystem.init info := ⟨Nat.zero_le _, fun _ => rfl⟩

end Ani

/-! ## Both runtimes -/

/-- What every run keeps of the N-API manager, and of its listeners whose once flag stays set. -/
structure NapiOnce (s : EnhancedSys) : Prop where
  listed : Listed s.napi
  kept : Kept s.napi
  retired : Retired s.napi
  flag : ∀ info, s.napiOnce info = true → (s.napi.infos info).once = true
  fires : ∀ info, s.napiOnce info = true ∨ s.napi.created ≤ info → OnceFires s.napi info

/-- The same of the ANI manager. -/
structure AniOnce (s : EnhancedSys) : Prop where
  placed : s.ani.Placed
  flag : ∀ info, s.aniOnce info = true → (s.ani.infos info).once = true
  fires : ∀ info, s.aniOnce info = true ∨ s.ani.created ≤ info → TaskOnce s.ani info

section Both

variable {s t : EnhancedSys} {op : EnhancedOp}

theorem NapiOnce.of_registry (hst : s.step op = some t) (hl : Listed t.napi)
    (hk : Kept t.napi) (hret : Retired t.napi)
    (hfires : ∀ info < s.napi.created, s.napiOnce info = true → OnceFires t.napi info)
    (hnew : ∀ info, s.napi.created ≤ info → t.napi.invocations info = 0) : NapiOnce t := by
  refine ⟨hl, hk, hret, fun info ho => (napiOnce_step hst ho).1, ?_⟩
  rintro info (ho | hlt)
  · by_cases hlt : info < s.napi.created
    · rcases (napiOnce_step hst ho).2 with ho' | hge
      · exact hfires info hlt ho'
      · omega
    · exact .of_uncalled (hnew info (by omega))
  · exact .of_uncalled (hl.uncalled info hlt)

/-- No callback of a listener starts before it is created. -/
theorem uncalled_stepEnhanced {s t : EmitterSys} (hl : Listed s) {op : EmitterOp}
    (hst : s.stepEnhanced op = some t) {info : Nat} (hge : s.created ≤ info) :
    t.invocations info = 0 := by
  have hzero := hl.uncalled info hge
  rcases stepEnhanced_cases hst with ⟨env, i, rfl, hr, rfl⟩ | ⟨hop, hst⟩
  · obtain ⟨u, hm, -, hu⟩ := callbackReturnedEnhanced_registry hl env i
    rw [hu]
    show u.invocations info = 0
    rw [hm.retires.invocations]
    exact hzero
  · rcases invoked_cases hop hst with ⟨-, hinv, -⟩ | ⟨i, ready, rfl, hm, -, -, rfl⟩
    · rw [hinv]
      exact hzero
    · have hlt := hl.workers_lt i hm
      have hne : info ≠ i := by omega
      simpa [hne] using hzero

theorem napiOnce_kept (h : NapiOnce s) (hst : s.step op = some t) : NapiOnce t := by
  rcases enhanced_cases hst with ⟨hm, -⟩ | ⟨hn, -⟩
  · generalize hnapi : t.napi = napi at hm
    cases hm with
    | sent pending =>
      have hm := marks_pending s.napi pending
      rw [← hnapi] at hm
      refine NapiOnce.of_registry hst (h.listed.retires hm.retires) (h.kept.marks hm)
        (h.retired.marks h.kept hm) ?_ ?_
      · intro info _ ho
        have hf := h.fires info (.inl ho)
        rw [hnapi]
        exact ⟨hf.atMost, hf.called⟩
      · intro info hge
        rw [hm.retires.invocations]
        exact h.listed.uncalled info hge
    | stepped hn =>
      rw [← hnapi] at hn
      exact NapiOnce.of_registry hst (listed_stepEnhanced h.listed hn) (kept_stepEnhanced h.kept h.listed hn)
        (retired_stepEnhanced h.retired h.kept h.listed hn)
        (fun info hlt ho => onceFires_step (h.fires info (.inl ho)) h.listed h.kept h.retired hlt
          (h.flag info ho) hn)
        fun info hge => uncalled_stepEnhanced h.listed hn hge
  · refine NapiOnce.of_registry hst ?_ ?_ ?_ ?_ ?_ <;> rw [hn]
    · exact h.listed
    · exact h.kept
    · exact h.retired
    · exact fun info _ ho => h.fires info (.inl ho)
    · exact h.listed.uncalled

theorem aniOnce_kept (h : AniOnce s) (hst : s.step op = some t) : AniOnce t := by
  have hfires : ∀ info, t.aniOnce info = true ∨ t.ani.created ≤ info →
      s.ani.created ≤ t.ani.created → TaskOnce s.ani info := by
    rintro info (ho | hge) hle
    · exact h.fires info (aniOnce_step hst ho).2
    · exact h.fires info (.inr (by omega))
  have hstep : ∀ {aop : AniOp}, s.ani.step aop = some t.ani → AniOnce t := by
    intro aop ha
    refine ⟨AniManager.placed_step h.placed ha, fun info ho => (aniOnce_step hst ho).1, ?_⟩
    intro info ho
    have hle := AniManager.created_le_step ha
    refine taskOnce_step (hfires info ho hle) h.placed ?_ ha
    intro hlt
    rcases ho with ho | hge
    · rcases (aniOnce_step hst ho).2 with ho' | hge
      · exact h.flag info ho'
      · omega
    · omega
  rcases enhanced_cases hst with ⟨-, ha⟩ | ⟨-, hm⟩
  · refine ⟨ha ▸ h.placed, fun info ho => (aniOnce_step hst ho).1, ?_⟩
    intro info ho
    rw [ha]
    exact hfires info ho (by rw [ha])
  · generalize hani : t.ani = ani at hm
    cases hm with
    | stepped hm => exact hstep (hani ▸ hm)
    | dispatched hm => exact hstep (hani ▸ hm)

end Both

theorem reachable_onceKept {s : EnhancedSys} (h : enhancedSystem.Reachable always s) :
    NapiOnce s ∧ AniOnce s := by
  refine h.invariant (I := fun s => NapiOnce s ∧ AniOnce s) ⟨?_, ?_⟩ ?_
  · have hstart : emitterSystem.Reachable always emitterSystem.init := .init
    refine ⟨reachable_listed hstart, kept_init, retired_init, nofun, ?_⟩
    exact fun info _ => .of_uncalled rfl
  · exact ⟨AniManager.placed_init, nofun, fun info _ => taskOnce_init info⟩
  · rintro s op t ⟨hn, ha⟩ - hst
    exact ⟨napiOnce_kept hn hst, aniOnce_kept ha hst⟩

/-- **A listener whose once flag stays set is called at most once**, in both runtimes and in every run
    of emits, dispatches, workers, tasks and registrations. -/
theorem enhanced_fires_once {s : EnhancedSys} (h : enhancedSystem.Reachable always s) :
    (∀ info, s.napiOnce info = true → s.napi.invocations info ≤ 1) ∧
      ∀ info, s.aniOnce info = true → s.ani.invocations info ≤ 1 := by
  obtain ⟨hn, ha⟩ := reachable_onceKept h
  refine ⟨fun info ho => (hn.fires info (.inl ho)).atMost, ?_⟩
  intro info ho
  have := (ha.fires info (.inl ho)).atMost
  omega

/-- Two events for a once listener in each runtime, both dispatched before the first worker runs: each
    of the two is called once. -/
theorem enhanced_fires_once_both :
    ∃ s, enhancedSystem.Reachable always s ∧ s.napiOnce 0 = true ∧ s.aniOnce 0 = true ∧
      s.napi.invocations 0 = 1 ∧ s.ani.invocations 0 = 1 ∧
      (∀ info, s.napiOnce info = true → s.napi.invocations info ≤ 1) ∧
      ∀ info, s.aniOnce info = true → s.ani.invocations info ≤ 1 := by
  obtain ⟨s, hrun, hn, ha, hi, hj⟩ := run_of_exec enhancedSystem always
    (fun s => s.napiOnce 0 = true ∧ s.aniOnce 0 = true ∧ s.napi.invocations 0 = 1 ∧
      s.ani.invocations 0 = 1)
    [.napi (.onOrOnce 0 ⟨.u32 1, 0⟩ 7 true true), .ani (.insertCallbackInfo ⟨.u32 1, 0⟩ true 9 true),
      .emit ⟨.u32 1, 0⟩, .emit ⟨.u32 1, 0⟩, .doCallback ⟨.u32 1, 0⟩, .napi (.callWorker 0 true),
      .aniDoCallback, .ani (.pushTaskData 0 0), .ani .startWorker, .doCallback ⟨.u32 1, 0⟩,
      .napi (.callWorker 0 true), .aniDoCallback, .napi (.threadSafeCallback 0 true),
      .napi (.callbackReturned 0), .napi (.threadSafeCallback 0 true), .ani (.attach 0 true),
      .ani (.testRunning 0), .ani (.popTaskData 0), .ani (.sendEventData 0), .ani (.beginWork 0 true)]
    (by decide)
  have hs : enhancedSystem.Reachable always s := ⟨_, hrun⟩
  exact ⟨s, hs, hn, ha, hi, hj, enhanced_fires_once hs⟩

end AppExecFwk
