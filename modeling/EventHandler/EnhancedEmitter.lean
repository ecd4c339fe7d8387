import Mathlib
import EventHandler.Lib.Transition
import EventHandler.Emitter

/-!
# The N-API listeners under the enhanced API

With the enhanced API the N-API listeners stay in the container of `events_emitter.cpp`, and are
dispatched and taken away by `napi_async_callback_manager.cpp`, which has the same loops.  Only the end
of a callback differs: `ProcessCallbackEnhanced` takes a once listener away with a lookup of its
callback, which marks what it finds.

* `callbackReturnedEnhanced`, `stepEnhanced` — that end, and the steps of the listeners.
* `Marks` — what an operation that registers and invokes nothing does to the marks of the listeners.
* `registry_cases`, `invoked_cases` — a step before the end of a callback registers a listener or
  marks, and starts the callback only of a listener that is not marked.
* `Kept` — two listeners in a set have different callbacks, and a listener in a set is marked only if
  its environment is gone.
* `Retired` — a listener that is in no set is marked.
* `kept_step`, `kept_stepEnhanced`, `retired_stepEnhanced` — every step keeps them, the last one only
  under the enhanced API.
-/

set_option autoImplicit false

namespace AppExecFwk

open Transition

namespace EmitterSys

/-- The end of `ProcessCallbackEnhanced`: `DeleteCallbackInfo(callbackInner->env, compositeId, callback)`
    for a once listener; without an environment no callback compares equal. -/
def callbackReturnedEnhanced (s : EmitterSys) (env info : Nat) : EmitterSys :=
  { match (s.infos info).once, (s.infos info).env with
    | true, some e => s.deleteCallbackInfo e (s.infos info).compositeId (s.infos info).callback
    | _, _ => s with
    running := Function.update s.running env none }

def stepEnhanced (s : EmitterSys) : EmitterOp → Option EmitterSys
  | .callbackReturned env =>
    match s.running env with
    | some info => some (s.callbackReturnedEnhanced env info)
    | none => none
  | op => s.step op

end EmitterSys

/-! ## Marks -/

/-- Listeners may be marked and leave their sets; one that leaves is marked or has lost its
    environment, and one that is marked and stays has lost its environment. -/
structure Marks (s t : EmitterSys) : Prop where
  retires : Retires s t
  callback : ∀ info, (t.infos info).callback = (s.infos info).callback
  isDeleted : ∀ info, (s.infos info).isDeleted = true → (t.infos info).isDeleted = true
  env : ∀ info, (t.infos info).env = (s.infos info).env ∨
    (t.infos info).env = none ∧ (t.infos info).isDeleted = true
  left : ∀ id, ∀ info ∈ s.emitterInstances id, info ∉ t.emitterInstances id →
    (t.infos info).isDeleted = true ∨ (s.infos info).env = none
  stayed : ∀ id, ∀ info ∈ t.emitterInstances id, (t.infos info).isDeleted = true →
    (s.infos info).isDeleted = true ∨ (t.infos info).env = none

theorem Marks.refl (s : EmitterSys) : Marks s s :=
  ⟨.refl s, fun _ => rfl, fun _ h => h, fun _ => .inl rfl, fun _ _ h h' => absurd h h',
    fun _ _ _ h => .inl h⟩

/-- Nothing but the events that wait has changed. -/
theorem marks_pending (s : EmitterSys) (pending : List CompositeEventId) :
    Marks s { s with pending := pending } :=
  ⟨⟨rfl, rfl, rfl, rfl, rfl, rfl, fun _ => rfl, fun _ => rfl, fun _ => rfl, fun _ => .refl _⟩,
    fun _ => rfl, fun _ h => h, fun _ => .inl rfl, fun _ _ h h' => absurd h h',
    fun _ _ _ h => .inl h⟩

section Steps

variable {s t : EmitterSys}

/-- An operation that marks the listeners that pass a test and takes them out of the sets. -/
theorem marks_of_marked {p : Nat → Bool} (hr : Retires s t) (hinfos : t.infos = (s.markDeleted p).infos)
    (hleft : ∀ id, ∀ info ∈ s.emitterInstances id, info ∉ t.emitterInstances id → p info = true)
    (hstayed : ∀ id, ∀ info ∈ t.emitterInstances id, p info = false) : Marks s t := by
  have hmark : ∀ info, (t.infos info).callback = (s.infos info).callback ∧
      (t.infos info).env = (s.infos info).env ∧
      (t.infos info).isDeleted = ((s.infos info).isDeleted || p info) := by
    intro info
    rw [hinfos]
    unfold EmitterSys.markDeleted
    dsimp only
    split
    · rename_i h
      simp [h]
    · rename_i h
      simp [h]
  refine ⟨hr, fun info => (hmark info).1, ?_, fun info => .inl (hmark info).2.1, ?_, ?_⟩
  · intro info hd
    rw [(hmark info).2.2, hd]
    rfl
  · intro id info hm hn
    left
    rw [(hmark info).2.2, hleft id info hm hn]
    exact Bool.or_true _
  · intro id info hm hd
    rw [(hmark info).2.2, hstayed id info hm, Bool.or_false] at hd
    exact .inl hd

theorem marks_deleteCallbackInfo (h : Listed s) (env : Nat) (id : CompositeEventId) (callback : Nat) :
    Marks s (s.deleteCallbackInfo env id callback) := by
  have hr := retires_deleteCallbackInfo s env id callback
  unfold EmitterSys.deleteCallbackInfo at hr ⊢
  split at hr
  · rename_i found hf
    have hfound : found ∈ s.emitterInstances id := List.mem_of_find?_eq_some hf
    refine marks_of_marked (p := fun i => i == found) hr rfl ?_ ?_
    · intro id' info hm hn
      by_cases hid : id' = id
      · subst hid
        simp only [EmitterSys.setInstances, Function.update_self] at hn
        by_contra hne
        exact hn ((List.mem_erase_of_ne (by simpa using hne)).2 hm)
      · simp only [EmitterSys.setInstances, Function.update_of_ne hid] at hn
        exact absurd hm hn
    · intro id' info hm
      have hne : info ≠ found := by
        rintro rfl
        by_cases hid : id' = id
        · subst hid
          simp only [EmitterSys.setInstances, Function.update_self] at hm
          exact (h.nodup id').not_mem_erase hm
        · simp only [EmitterSys.setInstances, Function.update_of_ne hid] at hm
          exact hid ((h.own id' info hm).symm.trans (h.own id info hfound))
      simpa using hne
  · exact .refl s

theorem marks_off (h : Listed s) (id : CompositeEventId) : Marks s (s.off id) := by
  refine marks_of_marked (p := fun i => decide (i ∈ s.emitterInstances id)) (retires_off s id) rfl ?_ ?_
  · intro id' info hm hn
    by_cases hid : id' = id
    · subst hid
      simpa using hm
    · simp only [EmitterSys.off, EmitterSys.setInstances, Function.update_of_ne hid] at hn
      exact absurd hm hn
  · intro id' info hm
    by_cases hid : id' = id
    · subst hid
      simp [EmitterSys.off, EmitterSys.setInstances] at hm
    · simp only [EmitterSys.off, EmitterSys.setInstances, Function.update_of_ne hid] at hm
      have hne : info ∉ s.emitterInstances id := by
        intro hm'
        exact hid ((h.own id' info hm).symm.trans (h.own id info hm'))
      simpa using hne

theorem marks_deleteEmitterInstance (h : Listed s) (emitterId : Nat) :
    Marks s (s.deleteEmitterInstance emitterId) := by
  refine marks_of_marked (retires_deleteEmitterInstance s emitterId) rfl ?_ ?_
  · intro id info hm hn
    have hown := h.own id info hm
    have hid : id.emitterId = emitterId := by
      by_contra hne
      simp only [EmitterSys.deleteEmitterInstance, if_neg hne] at hn
      exact hn hm
    subst hown
    have hid' : (s.infos info).emitterId = emitterId := hid
    simp [hm, hid']
  · intro id info hm
    have hid : id.emitterId ≠ emitterId := by
      rintro rfl
      simp [EmitterSys.deleteEmitterInstance] at hm
    have hm' : info ∈ s.emitterInstances id := by
      simpa [EmitterSys.deleteEmitterInstance, hid] using hm
    have hown := h.own id info hm'
    subst hown
    simpa using fun he : (s.infos info).emitterId = emitterId => absurd he hid

theorem marks_finalize (s : EmitterSys) (info : Nat) : Marks s (s.finalize info) := by
  have hsame : ∀ i, i ≠ info → (s.finalize info).infos i = s.infos i := by
    intro i hi
    simp [EmitterSys.finalize, hi]
  have hself : (s.finalize info).infos info =
      { s.infos info with isDeleted := true, env := none } := by
    simp [EmitterSys.finalize]
  refine ⟨retires_finalize s info, ?_, ?_, ?_, fun _ _ h h' => absurd h h', ?_⟩
  all_goals intro i
  · by_cases hi : i = info
    · rw [hi, hself]
    · rw [hsame i hi]
  · intro hd
    by_cases hi : i = info
    · rw [hi, hself]
    · rw [hsame i hi]
      exact hd
  · by_cases hi : i = info
    · rw [hi, hself]
      exact .inr ⟨rfl, rfl⟩
    · rw [hsame i hi]
      exact .inl rfl
  · intro j hj hd
    by_cases hi : j = info
    · rw [hi, hself]
      exact .inr rfl
    · rw [hsame j hi] at hd
      exact .inl hd

theorem marks_prune (s : EmitterSys) (id : CompositeEventId) : Marks s (s.prune id) := by
  refine ⟨retires_prune s id, fun _ => rfl, fun _ h => h, fun _ => .inl rfl, ?_, fun _ _ _ h => .inl h⟩
  intro id' info hm hn
  by_cases hid : id' = id
  · subst hid
    have hv : (s.infos info).valid = false := by
      rw [Bool.eq_false_iff]
      intro hv
      apply hn
      simp [EmitterSys.prune, EmitterSys.setInstances, hm, hv]
    cases hd : (s.infos info).isDeleted with
    | true => exact .inl hd
    | false =>
      right
      simpa [AsyncCallbackInfo.valid, hd] using hv
  · simp only [EmitterSys.prune, EmitterSys.setInstances, Function.update_of_ne hid] at hn
    exact absurd hm hn

/-- The listeners and their sets are the same. -/
structure SameRegistry (s t : EmitterSys) : Prop where
  infos : t.infos = s.infos
  created : t.created = s.created
  instances : t.emitterInstances = s.emitterInstances

/-- A step before the end of a callback registers a listener, or marks. -/
theorem registry_cases (hl : Listed s) {op : EmitterOp} (hop : ∀ env, op ≠ .callbackReturned env)
    (hst : s.step op = some t) :
    (∃ env id callback once wrapped, t = s.onOrOnce env id callback once wrapped) ∨
      ∃ u, Marks s u ∧ SameRegistry u t := by
  cases op <;> simp only [EmitterSys.step, Option.ite_none_right_eq_some, Option.some.injEq] at hst
  case onOrOnce env id callback once wrapped =>
    exact .inl ⟨env, id, callback, once, wrapped, hst.symm⟩
  all_goals right
  case deleteCallbackInfo env id callback =>
    subst hst
    exact ⟨_, marks_deleteCallbackInfo hl env id callback, rfl, rfl, rfl⟩
  case off id =>
    subst hst
    exact ⟨_, marks_off hl id, rfl, rfl, rfl⟩
  case deleteEmitterInstance emitterId =>
    obtain ⟨-, rfl⟩ := hst
    exact ⟨_, marks_deleteEmitterInstance hl emitterId, rfl, rfl, rfl⟩
  case finalize info =>
    obtain ⟨-, rfl⟩ := hst
    exact ⟨_, marks_finalize s info, rfl, rfl, rfl⟩
  case getListenerCount id =>
    subst hst
    exact ⟨_, marks_prune s id, rfl, rfl, rfl⟩
  case emit id =>
    subst hst
    refine ⟨s, .refl s, ?_⟩
    split <;> exact ⟨rfl, rfl, rfl⟩
  case processEvent id =>
    obtain ⟨-, rfl⟩ := hst
    exact ⟨_, marks_prune s id, rfl, rfl, rfl⟩
  case callWorker info called =>
    obtain ⟨-, rfl⟩ := hst
    exact ⟨s, .refl s, rfl, rfl, rfl⟩
  case threadSafeCallback info ready =>
    obtain ⟨-, rfl⟩ := hst
    refine ⟨s, .refl s, ?_⟩
    unfold EmitterSys.threadSafeCallback
    split <;> exact ⟨rfl, rfl, rfl⟩
  case callbackReturned env => exact absurd rfl (hop env)

/-- The end of a callback takes a once listener out of its set, and marks nothing. -/
theorem callbackReturned_registry (s : EmitterSys) (env info : Nat) :
    (s.callbackReturned env info).infos = s.infos ∧
      (s.callbackReturned env info).created = s.created ∧
      ∀ id, ((s.callbackReturned env info).emitterInstances id).Sublist (s.emitterInstances id) := by
  unfold EmitterSys.callbackReturned
  split
  · exact ⟨rfl, rfl, (retires_setInstances List.erase_sublist).instances⟩
  · exact ⟨rfl, rfl, fun _ => .refl _⟩

/-- The end of a callback under the enhanced API marks what the lookup finds. -/
theorem callbackReturnedEnhanced_registry (hl : Listed s) (env info : Nat) :
    ∃ u, Marks s u ∧ SameRegistry u (s.callbackReturnedEnhanced env info) ∧
      s.callbackReturnedEnhanced env info =
        { u with running := Function.update s.running env none } := by
  unfold EmitterSys.callbackReturnedEnhanced
  split
  · exact ⟨_, marks_deleteCallbackInfo hl _ _ _, ⟨rfl, rfl, rfl⟩, rfl⟩
  · exact ⟨s, .refl s, ⟨rfl, rfl, rfl⟩, rfl⟩

theorem stepEnhanced_of_ne {op : EmitterOp} (hop : ∀ env, op ≠ .callbackReturned env) :
    s.stepEnhanced op = s.step op := by
  cases op
  case callbackReturned env => exact absurd rfl (hop env)
  all_goals rfl

/-- The end of a callback, or a step that does not differ. -/
theorem stepEnhanced_cases {op : EmitterOp} (hst : s.stepEnhanced op = some t) :
    (∃ env info, op = .callbackReturned env ∧ s.running env = some info ∧
        t = s.callbackReturnedEnhanced env info) ∨
      (∀ env, op ≠ .callbackReturned env) ∧ s.step op = some t := by
  by_cases hop : ∃ env, op = .callbackReturned env
  · obtain ⟨env, rfl⟩ := hop
    left
    unfold EmitterSys.stepEnhanced at hst
    split at hst
    · rename_i env' he
      cases he
      split at hst
      · rename_i info hr
        cases hst
        exact ⟨env, info, rfl, hr, rfl⟩
      · cases hst
    · rename_i hne
      exact absurd rfl (hne env)
  · push Not at hop
    rw [stepEnhanced_of_ne hop] at hst
    exact .inr ⟨hop, hst⟩

theorem listed_stepEnhanced (h : Listed s) {op : EmitterOp} (hst : s.stepEnhanced op = some t) :
    Listed t := by
  rcases stepEnhanced_cases hst with ⟨env, info, rfl, hr, rfl⟩ | ⟨-, hst⟩
  · obtain ⟨u, hm, -, hu⟩ := callbackReturnedEnhanced_registry h env info
    have hl := h.retires hm.retires
    rw [hu]
    refine ⟨hl.own, hl.nodup, hl.instances_lt, hl.callbackInfos_lt, hl.workers_lt, ?_, hl.uncalled,
      hl.once⟩
    intro env' i hrun
    by_cases he : env' = env
    · subst he
      simp at hrun
    · simp only [Function.update_of_ne he, ← hm.retires.running] at hrun
      exact hl.running_own env' i hrun
  · exact listed_step h (emitterStep_cases hst)

/-- Nothing but the once flag of the listener has changed. -/
theorem updateOnceFlag_infos (s : EmitterSys) (info : Nat) (once : Bool) (i : Nat) :
    ((s.updateOnceFlag info once).infos i).env = (s.infos i).env ∧
      ((s.updateOnceFlag info once).infos i).callback = (s.infos i).callback ∧
      ((s.updateOnceFlag info once).infos i).isDeleted = (s.infos i).isDeleted ∧
      ((s.updateOnceFlag info once).infos i).compositeId = (s.infos i).compositeId ∧
      ((s.updateOnceFlag info once).infos i).tsfn = (s.infos i).tsfn := by
  unfold EmitterSys.updateOnceFlag
  by_cases hi : i = info
  · subst hi
    simp [AsyncCallbackInfo.compositeId]
  · simp [hi]

/-- A step before the end of a callback starts the callback of a listener that is not marked, or
    starts none. -/
theorem invoked_cases {op : EmitterOp} (hop : ∀ env, op ≠ .callbackReturned env)
    (hst : s.step op = some t) :
    (t.running = s.running ∧ t.invocations = s.invocations ∧
        ∀ info < s.created, (t.infos info).tsfn = (s.infos info).tsfn) ∨
      ∃ info ready, op = .threadSafeCallback info ready ∧ info ∈ s.workers ∧
        (s.infos info).isDeleted = false ∧ s.running (s.infos info).tsfn = none ∧
        t = { s with
          workers := s.workers.erase info
          running := Function.update s.running (s.infos info).tsfn (some info)
          invocations := Function.update s.invocations info (s.invocations info + 1) } := by
  by_cases htsf : ∃ info ready, op = .threadSafeCallback info ready
  · obtain ⟨info, ready, rfl⟩ := htsf
    simp only [EmitterSys.step, Option.ite_none_right_eq_some, Option.some.injEq] at hst
    obtain ⟨⟨hm, hr⟩, rfl⟩ := hst
    unfold EmitterSys.threadSafeCallback
    split
    · exact .inl ⟨rfl, rfl, fun _ _ => rfl⟩
    · rename_i hd
      simp only [Bool.or_eq_true, not_or, Bool.not_eq_true] at hd
      exact .inr ⟨info, ready, rfl, hm, hd.1, hr, rfl⟩
  · left
    cases emitterStep_cases hst with
    | updated env id callback once wrapped info =>
      exact ⟨rfl, rfl, fun i _ => (updateOnceFlag_infos s info once i).2.2.2.2⟩
    | inserted env id callback once wrapped =>
      refine ⟨rfl, rfl, ?_⟩
      intro i hlt
      rw [insertCallbackInfo_infos (by omega)]
    | retired op t hr => exact ⟨hr.running, hr.invocations, fun info _ => hr.tsfn info⟩
    | processed id hp hc => exact ⟨rfl, rfl, fun _ _ => rfl⟩
    | called info called hm => exact ⟨rfl, rfl, fun _ _ => rfl⟩
    | dropped info ready hm => exact absurd ⟨info, ready, rfl⟩ htsf
    | invoked info ready hm hr => exact absurd ⟨info, ready, rfl⟩ htsf
    | returned env info hr => exact absurd rfl (hop env)

/-- A mark stays. -/
theorem isDeleted_stepEnhanced (hl : Listed s) {op : EmitterOp} (hst : s.stepEnhanced op = some t)
    {info : Nat} (hlt : info < s.created) (hd : (s.infos info).isDeleted = true) :
    (t.infos info).isDeleted = true := by
  rcases stepEnhanced_cases hst with ⟨env, i, rfl, hr, rfl⟩ | ⟨hop, hst⟩
  · obtain ⟨u, hm, hu, -⟩ := callbackReturnedEnhanced_registry hl env i
    rw [hu.infos]
    exact hm.isDeleted info hd
  · rcases registry_cases hl hop hst with ⟨env, id, callback, once, wrapped, rfl⟩ | ⟨u, hm, hu⟩
    · unfold EmitterSys.onOrOnce
      split
      · rename_i found hf
        rw [(updateOnceFlag_infos s found once info).2.2.1]
        exact hd
      · rw [insertCallbackInfo_infos (by omega)]
        exact hd
    · rw [hu.infos]
      exact hm.isDeleted info hd

/-! ## Distinct callbacks -/

/-- Two listeners in a set have different callbacks, a listener in a set is marked only if its
    environment is gone, and one whose environment is gone is marked. -/
structure Kept (s : EmitterSys) : Prop where
  marked : ∀ id, ∀ info ∈ s.emitterInstances id, (s.infos info).isDeleted = true →
    (s.infos info).env = none
  noEnv : ∀ info < s.created, (s.infos info).env = none → (s.infos info).isDeleted = true
  distinct : ∀ id, ∀ i ∈ s.emitterInstances id, ∀ j ∈ s.emitterInstances id, ∀ env callback,
    (s.infos i).isOf env callback = true → (s.infos j).isOf env callback = true → i = j

theorem isOf_iff {info : AsyncCallbackInfo} {env callback : Nat} :
    info.isOf env callback = true ↔ info.env = some env ∧ info.callback = callback := by
  simp [AsyncCallbackInfo.isOf]

/-- A listener that marks its way from `s` to `t` had the same callback in `s`. -/
theorem Marks.isOf (h : Marks s t) {info env callback : Nat}
    (hof : (t.infos info).isOf env callback = true) : (s.infos info).isOf env callback = true := by
  rw [isOf_iff] at hof ⊢
  rw [h.callback] at hof
  rcases h.env info with he | ⟨he, -⟩
  · rw [← he]
    exact hof
  · rw [he] at hof
    cases hof.1

theorem Kept.marks (h : Kept s) (hm : Marks s t) : Kept t := by
  refine ⟨?_, ?_, ?_⟩
  · intro id info hmem hd
    rcases hm.stayed id info hmem hd with hd | he
    · have he := h.marked id info ((hm.retires.instances id).subset hmem) hd
      rcases hm.env info with he' | ⟨he', -⟩
      · rw [he', he]
      · exact he'
    · exact he
  · intro info hlt he
    rw [hm.retires.created] at hlt
    rcases hm.env info with he' | ⟨-, hd⟩
    · exact hm.isDeleted info (h.noEnv info hlt (he'.symm.trans he))
    · exact hd
  · intro id i hi j hj env callback hofi hofj
    exact h.distinct id i ((hm.retires.instances id).subset hi) j ((hm.retires.instances id).subset hj)
      env callback (hm.isOf hofi) (hm.isOf hofj)

/-- Sets that lose listeners, and nothing else that `Kept` reads. -/
theorem Kept.sublist (h : Kept s) (hinfos : t.infos = s.infos) (hcreated : t.created = s.created)
    (hsub : ∀ id, (t.emitterInstances id).Sublist (s.emitterInstances id)) : Kept t := by
  refine ⟨?_, ?_, ?_⟩
  · intro id info hm
    rw [hinfos]
    exact h.marked id info ((hsub id).subset hm)
  · rw [hinfos, hcreated]
    exact h.noEnv
  · rw [hinfos]
    intro id i hi j hj
    exact h.distinct id i ((hsub id).subset hi) j ((hsub id).subset hj)

theorem Kept.same (h : Kept s) (hr : SameRegistry s t) : Kept t :=
  h.sublist hr.infos hr.created fun id => by rw [hr.instances]

theorem Kept.updated (h : Kept s) (info : Nat) (once : Bool) : Kept (s.updateOnceFlag info once) := by
  have hsame := updateOnceFlag_infos s info once
  have hof : ∀ i env callback, ((s.updateOnceFlag info once).infos i).isOf env callback =
      (s.infos i).isOf env callback := by
    intro i env callback
    unfold AsyncCallbackInfo.isOf
    rw [(hsame i).1, (hsame i).2.1]
  refine ⟨?_, ?_, ?_⟩
  · intro id i hm hd
    rw [(hsame i).2.2.1] at hd
    rw [(hsame i).1]
    exact h.marked id i hm hd
  · intro i hlt he
    rw [(hsame i).1] at he
    rw [(hsame i).2.2.1]
    exact h.noEnv i hlt he
  · intro id i hi j hj env callback hofi hofj
    rw [hof] at hofi hofj
    exact h.distinct id i hi j hj env callback hofi hofj

/-- The search passes no listener that compares equal: a marked one has no environment. -/
theorem Kept.not_isOf (h : Kept s) {env : Nat} {id : CompositeEventId} {callback : Nat}
    (hnone : s.searchCallbackInfo env id callback = none) :
    ∀ i ∈ s.emitterInstances id, (s.infos i).isOf env callback = false := by
  intro i hi
  unfold EmitterSys.searchCallbackInfo at hnone
  rw [List.find?_eq_none] at hnone
  have hp := hnone i hi
  by_contra hof
  rw [Bool.not_eq_false] at hof
  rw [hof] at hp
  have hd : (s.infos i).isDeleted = true := by simpa using hp
  rw [isOf_iff, h.marked id i hi hd] at hof
  cases hof.1

/-- The new listener has a callback that no other listener in the set has. -/
theorem Kept.inserted (h : Kept s) (hl : Listed s) {env : Nat} {id : CompositeEventId} {callback : Nat}
    (hnone : s.searchCallbackInfo env id callback = none) (once wrapped : Bool) :
    Kept (s.insertCallbackInfo env id callback once wrapped) := by
  have hold : ∀ i, i < s.created →
      (s.insertCallbackInfo env id callback once wrapped).infos i = s.infos i :=
    fun i hi => insertCallbackInfo_infos (by omega) env id callback once wrapped
  have hself : (s.insertCallbackInfo env id callback once wrapped).infos s.created =
      { env := some env, once := once, isDeleted := false, callback := callback, tsfn := env,
        eventId := id.eventId, emitterId := id.emitterId, wrapped := wrapped } :=
    Function.update_self ..
  have hother := h.not_isOf hnone
  refine ⟨?_, ?_, ?_⟩
  · intro id' i hm hd
    rcases mem_insertCallbackInfo hm with hm | ⟨rfl, rfl⟩
    · rw [hold i (hl.instances_lt id' i hm)] at hd ⊢
      exact h.marked id' i hm hd
    · rw [hself] at hd
      cases hd
  · intro i hlt he
    have hlt' : i < s.created + 1 := hlt
    by_cases hi : i = s.created
    · subst hi
      rw [hself] at he
      cases he
    · rw [hold i (by omega)] at he ⊢
      exact h.noEnv i (by omega) he
  · intro id' i hi j hj env' callback' hofi hofj
    have hnew : ∀ k, k ∈ s.emitterInstances id → (s.infos k).isOf env' callback' = true →
        ((s.insertCallbackInfo env id callback once wrapped).infos s.created).isOf env' callback' = true →
        False := by
      intro k hk hof hof'
      rw [hself, isOf_iff] at hof'
      obtain ⟨he, rfl⟩ := hof'
      cases he
      rw [hother k hk] at hof
      cases hof
    rcases mem_insertCallbackInfo hi with hi' | ⟨hi', hid⟩ <;>
      rcases mem_insertCallbackInfo hj with hj' | ⟨hj', hid'⟩
    · rw [hold i (hl.instances_lt id' i hi')] at hofi
      rw [hold j (hl.instances_lt id' j hj')] at hofj
      exact h.distinct id' i hi' j hj' env' callback' hofi hofj
    · subst hid' hj'
      rw [hold i (hl.instances_lt _ i hi')] at hofi
      exact (hnew i hi' hofi hofj).elim
    · subst hid hi'
      rw [hold j (hl.instances_lt _ j hj')] at hofj
      exact (hnew j hj' hofj hofi).elim
    · rw [hi', hj']

theorem Kept.registered (h : Kept s) (hl : Listed s) (env : Nat) (id : CompositeEventId)
    (callback : Nat) (once wrapped : Bool) : Kept (s.onOrOnce env id callback once wrapped) := by
  unfold EmitterSys.onOrOnce
  split
  · exact h.updated _ once
  · rename_i hnone
    exact h.inserted hl hnone once wrapped

/-- A step before the end of a callback. -/
theorem Kept.early (h : Kept s) (hl : Listed s) {op : EmitterOp}
    (hop : ∀ env, op ≠ .callbackReturned env) (hst : s.step op = some t) : Kept t := by
  rcases registry_cases hl hop hst with ⟨env, id, callback, once, wrapped, rfl⟩ | ⟨u, hm, hu⟩
  · exact h.registered hl env id callback once wrapped
  · exact (h.marks hm).same hu

theorem kept_step (h : Kept s) (hl : Listed s) {op : EmitterOp} (hst : s.step op = some t) :
    Kept t := by
  by_cases hop : ∃ env, op = .callbackReturned env
  · obtain ⟨env, rfl⟩ := hop
    simp only [EmitterSys.step] at hst
    split at hst
    · rename_i info hr
      cases hst
      obtain ⟨hinfos, hcreated, hsub⟩ := callbackReturned_registry s env info
      exact h.sublist hinfos hcreated hsub
    · cases hst
  · push Not at hop
    exact h.early hl hop hst

theorem kept_stepEnhanced (h : Kept s) (hl : Listed s) {op : EmitterOp}
    (hst : s.stepEnhanced op = some t) : Kept t := by
  rcases stepEnhanced_cases hst with ⟨env, info, rfl, hr, rfl⟩ | ⟨hop, hst⟩
  · obtain ⟨u, hm, hu, -⟩ := callbackReturnedEnhanced_registry hl env info
    exact (h.marks hm).same hu
  · exact h.early hl hop hst

theorem kept_init : Kept emitterSystem.init :=
  ⟨nofun, nofun, nofun⟩

/-- The lookup finds the listener in the set that has the callback. -/
theorem Kept.deleteCallbackInfo_eq (h : Kept s) {id : CompositeEventId} {info env callback : Nat}
    (hm : info ∈ s.emitterInstances id) (hof : (s.infos info).isOf env callback = true) :
    s.deleteCallbackInfo env id callback =
      (s.markDeleted fun i => i == info).setInstances id ((s.emitterInstances id).erase info) := by
  unfold EmitterSys.deleteCallbackInfo
  split
  · rename_i found hf
    have hp : (s.infos found).isOf env callback = true := by simpa using List.find?_some hf
    have hfound := h.distinct id found (List.mem_of_find?_eq_some hf) info hm env callback hp hof
    rw [hfound]
  · rename_i hf
    rw [List.find?_eq_none] at hf
    exact absurd hof (hf info hm)

/-! ## Listeners in no set -/

/-- A listener that is in no set is marked. -/
def Retired (s : EmitterSys) : Prop :=
  ∀ info < s.created, info ∉ s.emitterInstances (s.infos info).compositeId →
    (s.infos info).isDeleted = true

theorem Retired.marks (h : Retired s) (hk : Kept s) (hm : Marks s t) : Retired t := by
  intro info hlt hn
  rw [hm.retires.created] at hlt
  rw [hm.retires.compositeId] at hn
  by_cases hmem : info ∈ s.emitterInstances (s.infos info).compositeId
  · rcases hm.left _ info hmem hn with hd | he
    · exact hd
    · exact hm.isDeleted info (hk.noEnv info hlt he)
  · exact hm.isDeleted info (h info hlt hmem)

theorem Retired.same (h : Retired s) (hr : SameRegistry s t) : Retired t := by
  unfold Retired
  rw [hr.infos, hr.created, hr.instances]
  exact h

theorem Retired.registered (h : Retired s) (env : Nat) (id : CompositeEventId) (callback : Nat)
    (once wrapped : Bool) : Retired (s.onOrOnce env id callback once wrapped) := by
  unfold EmitterSys.onOrOnce
  split
  · rename_i found hf
    intro info hlt hn
    have hsame := updateOnceFlag_infos s found once info
    rw [hsame.2.2.2.1] at hn
    rw [hsame.2.2.1]
    exact h info hlt hn
  · intro info hlt hn
    have hlt' : info < s.created + 1 := hlt
    by_cases hi : info = s.created
    · subst hi
      simp [EmitterSys.insertCallbackInfo, AsyncCallbackInfo.compositeId] at hn
    · rw [insertCallbackInfo_infos hi] at hn ⊢
      apply h info (by omega)
      intro hm
      apply hn
      unfold EmitterSys.insertCallbackInfo
      by_cases hid : (s.infos info).compositeId = id
      · simp only [hid, Function.update_self]
        rw [hid] at hm
        exact List.mem_append_left _ hm
      · simp only [Function.update_of_ne hid]
        exact hm

theorem retired_stepEnhanced (h : Retired s) (hk : Kept s) (hl : Listed s) {op : EmitterOp}
    (hst : s.stepEnhanced op = some t) : Retired t := by
  rcases stepEnhanced_cases hst with ⟨env, info, rfl, hr, rfl⟩ | ⟨hop, hst⟩
  · obtain ⟨u, hm, hu, -⟩ := callbackReturnedEnhanced_registry hl env info
    exact (h.marks hk hm).same hu
  · rcases registry_cases hl hop hst with ⟨env, id, callback, once, wrapped, rfl⟩ | ⟨u, hm, hu⟩
    · exact h.registered env id callback once wrapped
    · exact (h.marks hk hm).same hu

theorem retired_init : Retired emitterSystem.init := nofun

/-- **A once listener is marked when its callback has returned**: it is found by its callback, or it has
    left its set before. -/
theorem marked_of_returned (hl : Listed s) (hk : Kept s) (hret : Retired s) {env info : Nat}
    (hr : s.running env = some info) (ho : (s.infos info).once = true) :
    ((s.callbackReturnedEnhanced env info).infos info).isDeleted = true := by
  have hlt := (hl.running_own env info hr).1
  unfold EmitterSys.callbackReturnedEnhanced
  rw [ho]
  cases he : (s.infos info).env with
  | none => exact hk.noEnv info hlt he
  | some e =>
    show ((s.deleteCallbackInfo e (s.infos info).compositeId (s.infos info).callback).infos
      info).isDeleted = true
    by_cases hm : info ∈ s.emitterInstances (s.infos info).compositeId
    · rw [hk.deleteCallbackInfo_eq hm (isOf_iff.2 ⟨he, rfl⟩)]
      simp [EmitterSys.setInstances, EmitterSys.markDeleted]
    · exact (marks_deleteCallbackInfo hl _ _ _).isDeleted info (hret info hlt hm)

end Steps

end AppExecFwk
