import Mathlib
import EventHandler.Lib.Transition
import EventHandler.EnhancedSystem

/-!
# Invocations of listeners taken away by `off`

The worker of an N-API listener tests the mark of the listener before it calls the callback.  The task
of an ANI listener carries the callback, and neither the worker thread nor the work function looks at
the listener again.

* `NoCallAfterOff` — a step calls no listener that `off` has taken away.
* `napi_no_call` — no step ever calls an N-API listener that is marked.
* `AniManager.queued`, `OffIdle` — an invocation of the listener has not begun; the condition: `off`
  takes away no ANI listener that has one.
* `Gone`, `gone_step` — under it a listener that was taken away has no invocation left.
* `no_call_after_off` — a run that meets the condition calls no listener after `off`.
-/

set_option autoImplicit false

namespace AppExecFwk

open Transition Transition.System

/-- The step calls no listener that `off` has taken away. -/
def NoCallAfterOff (s t : EnhancedSys) : Prop :=
  (∀ info, (s.napi.infos info).isDeleted = true →
    t.napi.invocations info = s.napi.invocations info) ∧
  ∀ info, s.ani.removed info = true → t.ani.invocations info = s.ani.invocations info

/-- **A marked N-API listener is not called.** -/
theorem napi_no_call {s t : EmitterSys} {op : EmitterOp} (hl : Listed s)
    (hst : s.stepEnhanced op = some t) {info : Nat} (hd : (s.infos info).isDeleted = true) :
    t.invocations info = s.invocations info := by
  rcases stepEnhanced_cases hst with ⟨env, i, rfl, hr, rfl⟩ | ⟨hop, hst⟩
  · obtain ⟨u, hm, -, hu⟩ := callbackReturnedEnhanced_registry hl env i
    rw [hu]
    exact congrFun hm.retires.invocations info
  · rcases invoked_cases hop hst with ⟨-, hinv, -⟩ | ⟨i, ready, rfl, -, hd', -, rfl⟩
    · rw [hinv]
    · have hne : info ≠ i := by
        rintro rfl
        rw [hd] at hd'
        cases hd'
      simp [hne]

namespace AniManager

/-! ## The ANI tasks -/

/-- An invocation of the listener has not begun. -/
def queued (s : AniManager) (info : Nat) : Prop :=
  info ∈ s.aniCallbackInfos ∨ 0 < s.tasksOf info

instance queuedDecidable (s : AniManager) (info : Nat) : Decidable (s.queued info) :=
  inferInstanceAs (Decidable (_ ∨ _))

/-- `off` takes away no listener with an invocation that has not begun. -/
def OffIdle (s : AniManager) : AniOp → Prop
  | .deleteCallbackInfo id callback found =>
    found ∈ s.listeners id → (s.infos found).callback = callback → ¬s.queued found
  | .deleteCallbackInfoByEventId id => ∀ info ∈ s.listeners id, ¬s.queued info
  | _ => True

instance offIdleDecidable (s : AniManager) (op : AniOp) : Decidable (s.OffIdle op) := by
  cases op <;> unfold OffIdle <;> infer_instance

/-- A listener that was taken away is in no set and has no invocation left. -/
structure Gone (s : AniManager) : Prop where
  placed : Placed s
  lt : ∀ info, s.removed info = true → info < s.created
  unlisted : ∀ info, s.removed info = true → ∀ id, info ∉ s.listeners id
  idle : ∀ info, s.removed info = true → ¬s.queued info

section Steps

variable {s t : AniManager}

theorem queued_frame (hf : Frame s t) (info : Nat) : t.queued info ↔ s.queued info := by
  unfold queued tasksOf
  rw [hf.aniCallbackInfos, hf.taskData, hf.held, hf.sent]

/-- A step that takes nothing away, and gives invocations to listeners in the sets only. -/
theorem Gone.kept (h : Gone s) (hplaced : Placed t) (hremoved : t.removed = s.removed)
    (hcreated : s.created ≤ t.created)
    (hlisteners : ∀ id, ∀ info ∈ t.listeners id, info ∈ s.listeners id ∨ s.created ≤ info)
    (hqueued : ∀ info, t.queued info → s.queued info ∨ ∃ id, info ∈ s.listeners id) : Gone t := by
  refine ⟨hplaced, ?_, ?_, ?_⟩
  · intro info hr
    rw [hremoved] at hr
    exact Nat.lt_of_lt_of_le (h.lt info hr) hcreated
  · intro info hr id hm
    rw [hremoved] at hr
    rcases hlisteners id info hm with hm | hge
    · exact h.unlisted info hr id hm
    · have := h.lt info hr
      omega
  · intro info hr hq
    rw [hremoved] at hr
    rcases hqueued info hq with hq | ⟨id, hm⟩
    · exact h.idle info hr hq
    · exact h.unlisted info hr id hm

/-- `off` takes listeners without an invocation out of the set of an event. -/
theorem Gone.off (h : Gone s) (id : CompositeEventId) (hr : Retires s t)
    (hremoved : ∀ info, t.removed info = true → s.removed info = true ∨
      (info ∈ s.listeners id ∧ ¬s.queued info ∧ info ∉ t.listeners id)) : Gone t := by
  refine ⟨h.placed.retires hr, ?_, ?_, ?_⟩
  · intro info hi
    rw [hr.created]
    rcases hremoved info hi with hi | ⟨hm, -⟩
    · exact h.lt info hi
    · exact h.placed.listeners_lt id info hm
  · intro info hi id' hm'
    have hs := (hr.listeners id').subset hm'
    rcases hremoved info hi with hi | ⟨hm, -, hn⟩
    · exact h.unlisted info hi id' hs
    · have hid : id' = id := (h.placed.own id' info hs).symm.trans (h.placed.own id info hm)
      subst hid
      exact hn hm'
  · intro info hi hq
    rw [queued_frame hr.frame] at hq
    rcases hremoved info hi with hi | ⟨-, hn, -⟩
    · exact h.idle info hi hq
    · exact hn hq

theorem Gone.deleteCallbackInfo (h : Gone s) {id : CompositeEventId} {found : Nat}
    (hm : found ∈ s.listeners id) (hq : ¬s.queued found) : Gone (s.deleteCallbackInfo id found) := by
  refine h.off id (retires_deleteCallbackInfo s id found) ?_
  intro info hr
  by_cases hi : info = found
  · subst hi
    refine .inr ⟨hm, hq, ?_⟩
    rw [listeners_deleteCallbackInfo, if_pos rfl]
    exact (h.placed.nodup id).not_mem_erase
  · left
    simpa [AniManager.deleteCallbackInfo, hi] using hr

theorem Gone.deleteCallbackInfoByEventId (h : Gone s) {id : CompositeEventId}
    (hq : ∀ info ∈ s.listeners id, ¬s.queued info) : Gone (s.deleteCallbackInfoByEventId id) := by
  refine h.off id (retires_deleteCallbackInfoByEventId s id) ?_
  intro info hr
  have hr' : s.removed info = true ∨ info ∈ s.listeners id := by
    simpa [AniManager.deleteCallbackInfoByEventId] using hr
  rcases hr' with hr' | hm
  · exact .inl hr'
  · refine .inr ⟨hm, hq info hm, ?_⟩
    rw [listeners_deleteCallbackInfoByEventId, if_pos rfl]
    exact List.not_mem_nil

/-- An operation of the container that is not one of the two `off` functions. -/
theorem Gone.effect (h : Gone s) (hf : Frame s t) (he : ContainerEffect s t)
    (hremoved : t.removed = s.removed) : Gone t := by
  refine h.kept (h.placed.effect he) hremoved (effect_compositeId he).1 ?_
    fun info hq => .inl ((queued_frame hf info).1 hq)
  intro id info hm
  cases he with
  | updated id' i once hm' hd => exact .inl hm
  | inserted id' once callback =>
    rcases mem_listeners_insert hm with hm | ⟨hi, -⟩
    · exact .inl hm
    · exact .inr (by omega)
  | retired t hr => exact .inl ((hr.listeners id).subset hm)

/-- A step that no ANI function makes. -/
theorem Gone.worker (h : Gone s) {op : AniOp} (he : WorkerEffect s op t) : Gone t := by
  obtain ⟨hcreated, hlisteners, -⟩ := worker_container he
  have hplaced := h.placed.worker he
  rcases task_cases he with ⟨i, woken, rfl, hm, rfl⟩ | hmoved
  · refine h.kept hplaced rfl hcreated.ge (fun id info hm => .inl (hlisteners ▸ hm)) ?_
    intro info hq
    left
    rcases hq with hq | hq
    · exact .inl (List.mem_of_mem_erase hq)
    · by_cases hi : info = i
      · subst hi
        exact .inl hm
      · right
        have htasks : (s.pushTaskData i woken).tasksOf info = (s.taskData ++ [i]).count info +
            (s.held.map Prod.snd).count info + s.sent.count info := rfl
        rw [htasks, List.count_append, List.count_singleton] at hq
        have hne : (i == info) = false := by simpa using fun he => hi (Eq.symm he)
        rw [hne] at hq
        simpa [tasksOf] using hq
  · refine h.kept hplaced hmoved.removed hcreated.ge (fun id info hm => .inl (hlisteners ▸ hm)) ?_
    intro info hq
    left
    rcases hq with hq | hq
    · rw [hmoved.aniCallbackInfos] at hq
      exact .inl hq
    · exact .inr (Nat.lt_of_lt_of_le hq (hmoved.fewer info))

theorem Gone.dispatched (h : Gone s) (id : CompositeEventId) : Gone (s.doCallback id) := by
  have hr := retires_prune s id
  have h' := h.effect hr.frame (.retired _ hr) (removed_prune s id)
  have hplaced : Placed (s.doCallback id) :=
    ⟨h'.placed.own, h'.placed.nodup, h'.placed.listeners_lt, h'.placed.listeners_lt id,
      h'.placed.tasks_lt, h'.placed.held_lt, h'.placed.sent_lt⟩
  refine h'.kept hplaced rfl (Nat.le_refl _) (fun _ _ hm => .inl hm) ?_
  rintro info (hm | hq)
  · exact .inr ⟨id, hm⟩
  · exact .inl (.inr hq)

/-- **What a step keeps where `off` takes away no listener with an invocation.** -/
theorem gone_step (h : Gone s) {op : AniOp} (hok : s.OffIdle op) (hst : s.step op = some t) :
    Gone t := by
  have hstep := hst
  cases op <;> simp only [AniManager.step, Option.ite_none_right_eq_some, Option.some.injEq] at hst
  case insertCallbackInfo id once callback made =>
    subst hst
    refine h.effect (frame_insertCallbackInfo s id once callback made)
      (insertCallbackInfo_effect s id once callback made) ?_
    unfold AniManager.insertCallbackInfo
    split
    · rfl
    · split <;> rfl
  case deleteCallbackInfo id callback found =>
    split at hst
    · rename_i hf
      cases hst
      exact h.deleteCallbackInfo hf.1 (hok hf.1 hf.2)
    · split at hst
      · cases hst
      · cases hst
        exact h
  case deleteCallbackInfoByEventId id =>
    subst hst
    exact h.deleteCallbackInfoByEventId hok
  case cleanCallbackInfo emitterId =>
    obtain ⟨-, rfl⟩ := hst
    exact h.effect (frame_cleanCallbackInfo s emitterId)
      (.retired _ (retires_cleanCallbackInfo s emitterId)) rfl
  case getListenerCount id =>
    subst hst
    exact h.effect (frame_prune s id) (.retired _ (retires_prune s id)) (removed_prune s id)
  case doCallback id =>
    obtain ⟨-, rfl⟩ := hst
    exact h.dispatched id
  all_goals exact h.worker (worker_cases rfl hstep)

theorem gone_init : Gone aniSystem.init := ⟨placed_init, nofun, nofun, nofun⟩

/-- Only a listener with an invocation that has not begun is called. -/
theorem invocations_step {op : AniOp} (hst : s.step op = some t) {info : Nat} (hq : ¬s.queued info) :
    t.invocations info = s.invocations info := by
  rcases aniStep_cases hst with ⟨hf, -⟩ | ⟨id, rfl, rfl⟩ | hw
  · exact congrFun hf.invocations info
  · exact congrFun (frame_prune s id).invocations info
  · rcases task_cases hw with ⟨i, woken, rfl, -, rfl⟩ | hmoved
    · rfl
    · have hzero : s.tasksOf info = 0 := by
        by_contra hne
        exact hq (.inr (Nat.pos_of_ne_zero hne))
      have hle := hmoved.conserved info
      have hge := hmoved.called info
      omega

end Steps

end AniManager

/-! ## Runs -/

/-- `off` takes away no ANI listener with an invocation that has not begun. -/
def OffIdle (s : EnhancedSys) : EnhancedOp → Prop
  | .ani op => s.ani.OffIdle op
  | _ => True

instance offIdleDecidable (s : EnhancedSys) (op : EnhancedOp) : Decidable (OffIdle s op) := by
  cases op <;> unfold OffIdle <;> infer_instance

theorem listed_enhanced {s t : EnhancedSys} {op : EnhancedOp} (h : Listed s.napi)
    (hst : s.step op = some t) : Listed t.napi := by
  rcases enhanced_cases hst with ⟨hm, -⟩ | ⟨hn, -⟩
  · generalize t.napi = napi at hm
    cases hm with
    | sent pending => exact h.retires (marks_pending s.napi pending).retires
    | stepped hn => exact listed_stepEnhanced h hn
  · rw [hn]
    exact h

theorem gone_enhanced {s t : EnhancedSys} {op : EnhancedOp} (h : s.ani.Gone) (hok : OffIdle s op)
    (hst : s.step op = some t) : t.ani.Gone := by
  rcases enhanced_cases hst with ⟨-, ha⟩ | ⟨-, hm⟩
  · rw [ha]
    exact h
  · generalize t.ani = ani at hm
    cases hm with
    | stepped ha => exact AniManager.gone_step h hok ha
    | @dispatched id _ ha =>
      have hid : s.ani.OffIdle (.doCallback id) := trivial
      exact AniManager.gone_step h hid ha

theorem reachable_gone {s : EnhancedSys} (h : enhancedSystem.Reachable OffIdle s) :
    Listed s.napi ∧ s.ani.Gone := by
  have hstart : emitterSystem.Reachable always emitterSystem.init := .init
  refine h.invariant (I := fun s => Listed s.napi ∧ s.ani.Gone)
    ⟨reachable_listed hstart, AniManager.gone_init⟩ ?_
  rintro s op t ⟨hl, hg⟩ hok hst
  exact ⟨listed_enhanced hl hst, gone_enhanced hg hok hst⟩

/-- **After `off`, no call**: in a run where `off` takes away no ANI listener with an invocation that
    has not begun, no step calls a listener that was taken away. -/
theorem no_call_after_off {s t : EnhancedSys} {op : EnhancedOp}
    (hs : enhancedSystem.Reachable OffIdle s) (hst : enhancedSystem.step s op = some t) :
    NoCallAfterOff s t := by
  obtain ⟨hl, hg⟩ := reachable_gone hs
  change s.step op = some t at hst
  rcases enhanced_cases hst with ⟨hm, ha⟩ | ⟨hn, hm⟩
  · refine ⟨?_, fun info _ => by rw [ha]⟩
    intro info hd
    generalize t.napi = napi at hm
    cases hm with
    | sent pending => rfl
    | stepped hn => exact napi_no_call hl hn hd
  · refine ⟨fun info _ => by rw [hn], ?_⟩
    intro info hr
    generalize t.ani = ani at hm
    cases hm with
    | stepped ha => exact AniManager.invocations_step ha (hg.idle info hr)
    | dispatched ha => exact AniManager.invocations_step ha (hg.idle info hr)

/-- A listener in each runtime, the ANI one called before `off` and the N-API one with its worker still
    queued: the worker does not call it. -/
theorem no_call_after_off_worker :
    ∃ s t, enhancedSystem.Reachable OffIdle s ∧ 0 ∈ s.napi.workers ∧
      (s.napi.infos 0).isDeleted = true ∧ s.ani.removed 0 = true ∧ s.ani.invocations 0 = 1 ∧
      enhancedSystem.step s (.napi (.threadSafeCallback 0 true)) = some t ∧ NoCallAfterOff s t := by
  obtain ⟨s, hrun, hw, hd, hr, hi, hst⟩ := run_of_exec enhancedSystem OffIdle
    (fun s => 0 ∈ s.napi.workers ∧ (s.napi.infos 0).isDeleted = true ∧ s.ani.removed 0 = true ∧
      s.ani.invocations 0 = 1 ∧ (s.step (.napi (.threadSafeCallback 0 true))).isSome = true)
    [.napi (.onOrOnce 0 ⟨.u32 1, 0⟩ 7 false true), .ani (.insertCallbackInfo ⟨.u32 1, 0⟩ false 9 true),
      .emit ⟨.u32 1, 0⟩, .doCallback ⟨.u32 1, 0⟩, .napi (.callWorker 0 true), .aniDoCallback,
      .ani (.pushTaskData 0 0), .ani .startWorker, .ani (.attach 0 true), .ani (.testRunning 0),
      .ani (.popTaskData 0), .ani (.sendEventData 0), .ani (.beginWork 0 true),
      .ani (.deleteCallbackInfoByEventId ⟨.u32 1, 0⟩), .napi (.off ⟨.u32 1, 0⟩)]
    (by decide)
  obtain ⟨t, ht⟩ := Option.isSome_iff_exists.1 hst
  have hs : enhancedSystem.Reachable OffIdle s := ⟨_, hrun⟩
  exact ⟨s, t, hs, hw, hd, hr, hi, ht, no_call_after_off hs ht⟩

/-- The task is pushed, `off` takes the listener away, and the work function calls it. -/
theorem called_after_off :
    ¬∀ s op t, enhancedSystem.Reachable always s → enhancedSystem.step s op = some t →
      NoCallAfterOff s t := by
  intro hall
  obtain ⟨s, hrun, hr, hi, hst⟩ := run_of_exec enhancedSystem always
    (fun s => s.ani.removed 0 = true ∧ s.ani.invocations 0 = 0 ∧
      (s.step (.ani (.beginWork 0 true))).any fun t => decide (t.ani.invocations 0 = 1))
    [.ani (.insertCallbackInfo ⟨.u32 1, 0⟩ false 9 true), .emit ⟨.u32 1, 0⟩, .doCallback ⟨.u32 1, 0⟩,
      .aniDoCallback, .ani (.pushTaskData 0 0), .ani .startWorker, .ani (.attach 0 true),
      .ani (.testRunning 0), .ani (.deleteCallbackInfo ⟨.u32 1, 0⟩ 9 0), .ani (.popTaskData 0),
      .ani (.sendEventData 0)]
    (by decide)
  obtain ⟨t, ht, hone⟩ := (Option.any_eq_true _ _).1 hst
  have hsame := (hall s _ t ⟨_, hrun⟩ ht).2 0 hr
  rw [of_decide_eq_true hone, hi] at hsame
  cases hsame

end AppExecFwk
