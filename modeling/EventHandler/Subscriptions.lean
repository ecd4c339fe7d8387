import Mathlib
import EventHandler.Lib.Transition
import EventHandler.EnhancedEmitter

/-!
# What a subscription is owed

A call of `on` or `once` keeps the callback registered until an `off` that covers it, and a call of
`once` only until the next time the callback is called for the event.  The end of a callback takes a
once listener away, and does not see that the handler has subscribed again: the plain emitter erases
the listener, which `once` has left in its set, and the enhanced one whatever the lookup of the
callback finds.

* `Subscriber`, `Owed` — thread, event and callback of a call, and what the latest call is owed.
* `SubscriptionSys`, `SubscriptionSys.owe` — the listeners with the history of the calls, in the plain
  and in the enhanced emitter.
* `SubscriptionSys.Law` — who is owed a registration has one.
* `NotRenewed` — the condition: no callback of a once listener returns while its subscriber is owed a
  registration; in the plain emitter, while the listener is in its set.
* `subscription_kept_iff` — the law holds in every state of a run that meets the condition, and the next
  step keeps it if and only if it meets it too.
-/

set_option autoImplicit false

namespace AppExecFwk

open Transition Transition.System

/-! ## Subscribers -/

/-- The arguments of `on` and `once`, with the JS thread of the call. -/
structure Subscriber where
  env : Nat
  id : CompositeEventId
  callback : Nat
  deriving DecidableEq, Repr

def AsyncCallbackInfo.subscriber (info : AsyncCallbackInfo) : Option Subscriber :=
  info.env.map fun env => ⟨env, info.compositeId, info.callback⟩

theorem subscriber_iff {info : AsyncCallbackInfo} {k : Subscriber} :
    info.subscriber = some k ↔ info.isOf k.env k.callback = true ∧ info.compositeId = k.id := by
  rw [isOf_iff]
  unfold AsyncCallbackInfo.subscriber
  rw [Option.map_eq_some_iff]
  constructor
  · rintro ⟨env, he, rfl⟩
    exact ⟨⟨he, rfl⟩, rfl⟩
  · rintro ⟨⟨he, hc⟩, hid⟩
    exact ⟨k.env, he, by rw [hid, hc]⟩

/-- What the latest call of `on` or `once` is owed. -/
inductive Owed where
  | nothing
  | untilOff
  /-- Until `off`, or the next call of the callback for the event. -/
  | untilCalled
  deriving DecidableEq, Repr

structure SubscriptionSys where
  emitter : EmitterSys
  owed : Subscriber → Owed

inductive SubscriptionOp where
  | emitter (op : EmitterOp)
  /-- The enhanced emitter sends an event for its listeners of the other runtime. -/
  | sent (id : CompositeEventId)
  deriving DecidableEq, Repr

namespace SubscriptionSys

def owe (s : SubscriptionSys) : EmitterOp → Subscriber → Owed
  | .onOrOnce env id callback once _ =>
    Function.update s.owed ⟨env, id, callback⟩ (if once then .untilCalled else .untilOff)
  | .deleteCallbackInfo env id callback => Function.update s.owed ⟨env, id, callback⟩ .nothing
  | .off id => fun k => if k.id = id then .nothing else s.owed k
  | .deleteEmitterInstance emitterId => fun k =>
    if k.id.emitterId = emitterId then .nothing else s.owed k
  | .finalize info => fun k =>
    if (s.emitter.infos info).subscriber = some k then .nothing else s.owed k
  -- the callback of the listener starts
  | .threadSafeCallback info ready => fun k =>
    if s.owed k = .untilCalled ∧ (s.emitter.infos info).isDeleted = false ∧ ready = true ∧
        (s.emitter.infos info).subscriber = some k then .nothing
    else s.owed k
  | _ => s.owed

def step (enhanced : Bool) (s : SubscriptionSys) : SubscriptionOp → Option SubscriptionSys
  | .emitter op =>
    (if enhanced then s.emitter.stepEnhanced op else s.emitter.step op).map fun emitter =>
      { emitter := emitter, owed := s.owe op }
  | .sent id =>
    if enhanced then
      some { s with emitter := { s.emitter with pending := s.emitter.pending ++ [id] } }
    else none

end SubscriptionSys

def subscriptionSystem (enhanced : Bool) : System SubscriptionSys SubscriptionOp where
  init := { emitter := emitterSystem.init, owed := fun _ => .nothing }
  step := SubscriptionSys.step enhanced

/-- The listener is in the set of the event, has the callback and is not deleted. -/
def EmitterSys.Listens (s : EmitterSys) (k : Subscriber) (info : Nat) : Prop :=
  info ∈ s.emitterInstances k.id ∧ (s.infos info).subscriber = some k ∧
    (s.infos info).isDeleted = false

/-- Who is owed a registration has one. -/
def SubscriptionSys.Law (s : SubscriptionSys) : Prop :=
  ∀ k, s.owed k ≠ .nothing → ∃ info, s.emitter.Listens k info

/-- The JS thread whose callback returns. -/
def SubscriptionOp.returns : SubscriptionOp → Option Nat
  | .emitter (.callbackReturned env) => some env
  | _ => none

/-- The callback of a once listener does not return while its subscriber is owed a registration. -/
def NotRenewed (enhanced : Bool) (s : SubscriptionSys) (op : SubscriptionOp) : Prop :=
  ∀ env ∈ op.returns, ∀ info ∈ s.emitter.running env, (s.emitter.infos info).once = true →
    (enhanced = true ∨ info ∈ s.emitter.emitterInstances (s.emitter.infos info).compositeId) →
    ∀ k ∈ (s.emitter.infos info).subscriber, s.owed k = .nothing

instance notRenewedDecidable (enhanced : Bool) (s : SubscriptionSys) (op : SubscriptionOp) :
    Decidable (NotRenewed enhanced s op) := by
  unfold NotRenewed
  infer_instance

/-! ## Listeners that stay -/

section Listens

variable {s t : EmitterSys} {k : Subscriber} {i : Nat}

theorem listens_of_same (h : s.Listens k i) (hm : i ∈ t.emitterInstances k.id)
    (hi : t.infos i = s.infos i) : t.Listens k i := by
  refine ⟨hm, ?_, ?_⟩
  · rw [hi]
    exact h.2.1
  · rw [hi]
    exact h.2.2

/-- Another listener leaves its set. -/
theorem mem_erased {f : Nat} {id id' : CompositeEventId} (hm : i ∈ s.emitterInstances id')
    (hne : i ≠ f) :
    i ∈ (s.setInstances id ((s.emitterInstances id).erase f)).emitterInstances id' := by
  unfold EmitterSys.setInstances
  by_cases hid : id' = id
  · subst hid
    simp only [Function.update_self]
    exact (List.mem_erase_of_ne hne).2 hm
  · simp only [Function.update_of_ne hid]
    exact hm

theorem infos_markDeleted {p : Nat → Bool} (hp : p i = false) :
    (s.markDeleted p).infos i = s.infos i := by
  unfold EmitterSys.markDeleted
  simp [hp]

theorem listens_updated (h : s.Listens k i) (info : Nat) (once : Bool) :
    (s.updateOnceFlag info once).Listens k i := by
  obtain ⟨he, hc, hd, hid, -⟩ := updateOnceFlag_infos s info once i
  refine ⟨h.1, ?_, hd.trans h.2.2⟩
  have hsub := h.2.1
  unfold AsyncCallbackInfo.subscriber at hsub ⊢
  rw [he, hc, hid]
  exact hsub

theorem listens_inserted (hl : Listed s) (h : s.Listens k i) (env : Nat) (id : CompositeEventId)
    (callback : Nat) (once wrapped : Bool) :
    (s.insertCallbackInfo env id callback once wrapped).Listens k i := by
  have hlt := hl.instances_lt _ _ h.1
  refine listens_of_same h ?_ (insertCallbackInfo_infos (by omega) env id callback once wrapped)
  unfold EmitterSys.insertCallbackInfo
  by_cases hid : k.id = id
  · subst hid
    simp only [Function.update_self]
    exact List.mem_append_left _ h.1
  · simp only [Function.update_of_ne hid]
    exact h.1

/-- The subscriber of a call is registered after it. -/
theorem listens_onOrOnce (hl : Listed s) (env : Nat) (id : CompositeEventId) (callback : Nat)
    (once wrapped : Bool) :
    ∃ info, (s.onOrOnce env id callback once wrapped).Listens ⟨env, id, callback⟩ info := by
  unfold EmitterSys.onOrOnce
  split
  · rename_i info hf
    have hm := List.mem_of_find?_eq_some hf
    have hp : (s.infos info).isDeleted = false ∧ (s.infos info).isOf env callback = true := by
      simpa using List.find?_some hf
    have hs : s.Listens ⟨env, id, callback⟩ info :=
      ⟨hm, subscriber_iff.2 ⟨hp.2, hl.own id info hm⟩, hp.1⟩
    exact ⟨info, listens_updated hs info once⟩
  · refine ⟨s.created, ?_, ?_, ?_⟩
    · simp [EmitterSys.insertCallbackInfo]
    · simp [EmitterSys.insertCallbackInfo, AsyncCallbackInfo.subscriber,
        AsyncCallbackInfo.compositeId]
    · simp [EmitterSys.insertCallbackInfo]

/-- `DeleteCallbackInfo` takes away a listener of its own subscriber only. -/
theorem listens_deleteCallbackInfo (hl : Listed s) (h : s.Listens k i) {env : Nat}
    {id : CompositeEventId} {callback : Nat} (hk : k ≠ ⟨env, id, callback⟩) :
    (s.deleteCallbackInfo env id callback).Listens k i := by
  unfold EmitterSys.deleteCallbackInfo
  split
  · rename_i f hf
    have hne : i ≠ f := by
      rintro rfl
      have hof : (s.infos i).isOf env callback = true := by simpa using List.find?_some hf
      have hsub : (s.infos i).subscriber = some ⟨env, id, callback⟩ :=
        subscriber_iff.2 ⟨hof, hl.own id i (List.mem_of_find?_eq_some hf)⟩
      exact hk (Option.some.inj (h.2.1.symm.trans hsub))
    have hinfos : (s.markDeleted fun j => j == f).infos i = s.infos i :=
      infos_markDeleted (by simpa using hne)
    exact listens_of_same h (mem_erased (s := s.markDeleted fun j => j == f) h.1 hne) hinfos
  · exact h

theorem listens_off (hl : Listed s) (h : s.Listens k i) {id : CompositeEventId} (hk : k.id ≠ id) :
    (s.off id).Listens k i := by
  have hn : i ∉ s.emitterInstances id := by
    intro hm
    exact hk ((hl.own k.id i h.1).symm.trans (hl.own id i hm))
  have hinfos : (s.off id).infos i = s.infos i :=
    infos_markDeleted (p := fun j => decide (j ∈ s.emitterInstances id)) (by simpa using hn)
  refine listens_of_same h ?_ hinfos
  unfold EmitterSys.off EmitterSys.setInstances
  simp only [Function.update_of_ne hk]
  exact h.1

theorem listens_deleteEmitterInstance (hl : Listed s) (h : s.Listens k i) {emitterId : Nat}
    (hk : k.id.emitterId ≠ emitterId) : (s.deleteEmitterInstance emitterId).Listens k i := by
  have hown : (s.infos i).emitterId = k.id.emitterId :=
    congrArg CompositeEventId.emitterId (hl.own k.id i h.1)
  have hinfos : (s.deleteEmitterInstance emitterId).infos i = s.infos i :=
    infos_markDeleted
      (p := fun j => decide ((s.infos j).emitterId = emitterId ∧
        j ∈ s.emitterInstances (s.infos j).compositeId)) (by simp [hown, hk])
  refine listens_of_same h ?_ hinfos
  unfold EmitterSys.deleteEmitterInstance
  simp only [if_neg hk]
  exact h.1

theorem listens_finalize (h : s.Listens k i) {info : Nat} (hk : (s.infos info).subscriber ≠ some k) :
    (s.finalize info).Listens k i := by
  have hne : i ≠ info := by
    rintro rfl
    exact hk h.2.1
  exact listens_of_same h h.1 (Function.update_of_ne hne _ _)

theorem listens_prune (h : s.Listens k i) (id : CompositeEventId) : (s.prune id).Listens k i := by
  refine listens_of_same h ?_ rfl
  unfold EmitterSys.prune EmitterSys.setInstances
  by_cases hid : k.id = id
  · subst hid
    have he : (s.infos i).env = some k.env := (isOf_iff.1 (subscriber_iff.1 h.2.1).1).1
    have hv : (s.infos i).valid = true := by
      unfold AsyncCallbackInfo.valid
      rw [h.2.2, he]
      rfl
    simp only [Function.update_self]
    exact List.mem_filter.2 ⟨h.1, hv⟩
  · simp only [Function.update_of_ne hid]
    exact h.1

end Listens

/-! ## The law, step by step -/

section Steps

variable {s : SubscriptionSys}

/-- Who is owed a registration was owed it before, and keeps the listener. -/
theorem SubscriptionSys.Law.keeps (h : s.Law) {t : SubscriptionSys}
    (hkeep : ∀ k, t.owed k ≠ .nothing →
      s.owed k ≠ .nothing ∧ ∀ i, s.emitter.Listens k i → t.emitter.Listens k i) : t.Law := by
  intro k ho
  obtain ⟨ho', hi⟩ := hkeep k ho
  obtain ⟨i, hs⟩ := h k ho'
  exact ⟨i, hi i hs⟩

theorem law_onOrOnce (h : s.Law) (hl : Listed s.emitter) (env : Nat) (id : CompositeEventId)
    (callback : Nat) (once wrapped : Bool) :
    SubscriptionSys.Law
      { emitter := s.emitter.onOrOnce env id callback once wrapped
        owed := s.owe (.onOrOnce env id callback once wrapped) } := by
  intro k ho
  by_cases hk : k = ⟨env, id, callback⟩
  · subst hk
    exact listens_onOrOnce hl env id callback once wrapped
  · simp only [SubscriptionSys.owe, Function.update_of_ne hk] at ho
    obtain ⟨i, hi⟩ := h k ho
    refine ⟨i, ?_⟩
    unfold EmitterSys.onOrOnce
    split
    · exact listens_updated hi _ once
    · exact listens_inserted hl hi env id callback once wrapped

/-- A step before the end of a callback keeps the law. -/
theorem law_early (h : s.Law) (hl : Listed s.emitter) {op : EmitterOp}
    (hop : ∀ env, op ≠ .callbackReturned env) {u : EmitterSys} (hst : s.emitter.step op = some u) :
    SubscriptionSys.Law { emitter := u, owed := s.owe op } := by
  cases op <;> simp only [EmitterSys.step, Option.ite_none_right_eq_some, Option.some.injEq] at hst
  case onOrOnce env id callback once wrapped =>
    subst hst
    exact law_onOrOnce h hl env id callback once wrapped
  all_goals
    apply h.keeps
    intro k ho
    simp only [SubscriptionSys.owe] at ho
  case deleteCallbackInfo env id callback =>
    subst hst
    by_cases hk : k = ⟨env, id, callback⟩
    · subst hk
      simp at ho
    · rw [Function.update_of_ne hk] at ho
      exact ⟨ho, fun i hi => listens_deleteCallbackInfo hl hi hk⟩
  case off id =>
    subst hst
    split at ho
    · exact absurd rfl ho
    · rename_i hk
      exact ⟨ho, fun i hi => listens_off hl hi hk⟩
  case deleteEmitterInstance emitterId =>
    obtain ⟨-, rfl⟩ := hst
    split at ho
    · exact absurd rfl ho
    · rename_i hk
      exact ⟨ho, fun i hi => listens_deleteEmitterInstance hl hi hk⟩
  case finalize info =>
    obtain ⟨-, rfl⟩ := hst
    split at ho
    · exact absurd rfl ho
    · rename_i hk
      exact ⟨ho, fun i hi => listens_finalize hi hk⟩
  case getListenerCount id =>
    subst hst
    exact ⟨ho, fun i hi => listens_prune hi id⟩
  case emit id =>
    subst hst
    refine ⟨ho, fun i hi => ?_⟩
    split <;> exact hi
  case processEvent id =>
    obtain ⟨-, rfl⟩ := hst
    exact ⟨ho, fun i hi => listens_prune hi id⟩
  case callWorker info called =>
    obtain ⟨-, rfl⟩ := hst
    exact ⟨ho, fun i hi => hi⟩
  case threadSafeCallback info ready =>
    obtain ⟨-, rfl⟩ := hst
    have ho' : s.owed k ≠ .nothing := by
      split at ho
      · exact absurd rfl ho
      · exact ho
    refine ⟨ho', fun i hi => ?_⟩
    unfold EmitterSys.threadSafeCallback
    split <;> exact hi
  case callbackReturned env => exact absurd rfl (hop env)

theorem notRenewed_returned (enhanced : Bool) {env info : Nat}
    (hr : s.emitter.running env = some info) :
    NotRenewed enhanced s (.emitter (.callbackReturned env)) ↔
      ((s.emitter.infos info).once = true →
        (enhanced = true ∨
          info ∈ s.emitter.emitterInstances (s.emitter.infos info).compositeId) →
        ∀ k, (s.emitter.infos info).subscriber = some k → s.owed k = .nothing) := by
  simp [NotRenewed, SubscriptionOp.returns, hr]

theorem notRenewed_early (enhanced : Bool) {op : EmitterOp}
    (hop : ∀ env, op ≠ .callbackReturned env) : NotRenewed enhanced s (.emitter op) := by
  intro env he
  unfold SubscriptionOp.returns at he
  split at he
  · rename_i env' hop'
    cases hop'
    exact absurd rfl (hop env')
  · cases he

/-- No other listener of its subscriber is left in the set of a listener that was erased. -/
theorem not_mem_erased {s : EmitterSys} (hl : Listed s) (hk : Kept s) {info j : Nat} {k : Subscriber}
    (hm : info ∈ s.emitterInstances (s.infos info).compositeId)
    (hsub : (s.infos info).subscriber = some k) (hj : (s.infos j).subscriber = some k) :
    j ∉ (s.setInstances (s.infos info).compositeId
      ((s.emitterInstances (s.infos info).compositeId).erase info)).emitterInstances k.id := by
  obtain ⟨hof, hid⟩ := subscriber_iff.1 hsub
  rw [← hid]
  simp only [EmitterSys.setInstances, Function.update_self]
  intro hmem
  have heq := hk.distinct _ j (List.mem_of_mem_erase hmem) info hm k.env k.callback
    (subscriber_iff.1 hj).1 hof
  subst heq
  exact (hl.nodup _).not_mem_erase hmem

/-- The end of a callback that takes no listener away. -/
theorem law_unchanged_iff (h : s.Law) (enhanced : Bool) {env info : Nat}
    (hr : s.emitter.running env = some info)
    (hnone : (s.emitter.infos info).once = true → (s.emitter.infos info).subscriber = none) :
    SubscriptionSys.Law
        { emitter := { s.emitter with running := Function.update s.emitter.running env none }
          owed := s.owed } ↔
      NotRenewed enhanced s (.emitter (.callbackReturned env)) := by
  rw [notRenewed_returned enhanced hr]
  constructor
  · intro _ ho _ k hsub
    rw [hnone ho] at hsub
    cases hsub
  · exact fun _ => h

/-- **The end of a callback keeps the law exactly when the subscriber of a once listener that is in its
    set is owed nothing.** -/
theorem law_returned_iff (h : s.Law) (hl : Listed s.emitter) (hk : Kept s.emitter) {env info : Nat}
    (hr : s.emitter.running env = some info) :
    SubscriptionSys.Law { emitter := s.emitter.callbackReturned env info, owed := s.owed } ↔
      NotRenewed false s (.emitter (.callbackReturned env)) := by
  cases ho : (s.emitter.infos info).once with
  | false =>
    have hsame : s.emitter.callbackReturned env info =
        { s.emitter with running := Function.update s.emitter.running env none } := by
      unfold EmitterSys.callbackReturned
      rw [ho]
      rfl
    rw [hsame]
    exact law_unchanged_iff h false hr fun ho' => absurd (ho.symm.trans ho') Bool.false_ne_true
  | true =>
    have hinfos := (callbackReturned_registry s.emitter env info).1
    have hsets : (s.emitter.callbackReturned env info).emitterInstances =
        (s.emitter.setInstances (s.emitter.infos info).compositeId
          ((s.emitter.emitterInstances (s.emitter.infos info).compositeId).erase info)).emitterInstances := by
      unfold EmitterSys.callbackReturned
      rw [ho]
      rfl
    rw [notRenewed_returned false hr]
    constructor
    · intro hlaw _ hm k hsub
      by_contra howed
      obtain ⟨j, hj, hjsub, -⟩ := hlaw k howed
      rw [hinfos] at hjsub
      rw [hsets] at hj
      exact not_mem_erased hl hk (hm.resolve_left Bool.false_ne_true) hsub hjsub hj
    · intro hok
      apply h.keeps
      intro k howed
      refine ⟨howed, fun i hi => ?_⟩
      have hne : i ≠ info := by
        rintro rfl
        have hid := (subscriber_iff.1 hi.2.1).2
        have hm : i ∈ s.emitter.emitterInstances (s.emitter.infos i).compositeId := by
          rw [hid]
          exact hi.1
        exact howed (hok ho (.inr hm) k hi.2.1)
      refine listens_of_same hi ?_ (congrFun hinfos i)
      show i ∈ (s.emitter.callbackReturned env info).emitterInstances k.id
      rw [hsets]
      exact mem_erased hi.1 hne

/-- `DeleteCallbackInfo` leaves no listener of its subscriber. -/
theorem not_listens_deleteCallbackInfo {s : EmitterSys} (hl : Listed s) (hk : Kept s) (k : Subscriber)
    (j : Nat) : ¬(s.deleteCallbackInfo k.env k.id k.callback).Listens k j := by
  rintro ⟨hj, hsub, -⟩
  have hm := marks_deleteCallbackInfo hl k.env k.id k.callback
  have hj' : j ∈ s.emitterInstances k.id := (hm.retires.instances k.id).subset hj
  rw [hk.deleteCallbackInfo_eq hj' (hm.isOf (subscriber_iff.1 hsub).1)] at hj
  simp only [EmitterSys.setInstances, Function.update_self] at hj
  exact (hl.nodup k.id).not_mem_erase hj

/-- **The same of the enhanced emitter, whether the listener is in its set or not.** -/
theorem law_returnedEnhanced_iff (h : s.Law) (hl : Listed s.emitter) (hk : Kept s.emitter)
    {env info : Nat} (hr : s.emitter.running env = some info) :
    SubscriptionSys.Law { emitter := s.emitter.callbackReturnedEnhanced env info, owed := s.owed } ↔
      NotRenewed true s (.emitter (.callbackReturned env)) := by
  by_cases hnone : (s.emitter.infos info).once = true → (s.emitter.infos info).subscriber = none
  · have hsame : s.emitter.callbackReturnedEnhanced env info =
        { s.emitter with running := Function.update s.emitter.running env none } := by
      unfold EmitterSys.callbackReturnedEnhanced
      cases ho : (s.emitter.infos info).once with
      | false => rfl
      | true =>
        have he : (s.emitter.infos info).env = none := by
          simpa [AsyncCallbackInfo.subscriber] using hnone ho
        rw [he]
    rw [hsame]
    exact law_unchanged_iff h true hr hnone
  · push Not at hnone
    obtain ⟨ho, hsome⟩ := hnone
    obtain ⟨k₀, hsub⟩ := Option.ne_none_iff_exists'.1 hsome
    obtain ⟨hof, hid⟩ := subscriber_iff.1 hsub
    obtain ⟨he, hc⟩ := isOf_iff.1 hof
    have hdel : s.emitter.callbackReturnedEnhanced env info =
        { s.emitter.deleteCallbackInfo k₀.env k₀.id k₀.callback with
          running := Function.update s.emitter.running env none } := by
      unfold EmitterSys.callbackReturnedEnhanced
      rw [ho, he, hid, hc]
    rw [hdel, notRenewed_returned true hr]
    constructor
    · intro hlaw _ _ k hsub'
      rw [hsub, Option.some.injEq] at hsub'
      subst hsub'
      by_contra howed
      obtain ⟨j, hj⟩ := hlaw k₀ howed
      exact not_listens_deleteCallbackInfo hl hk k₀ j hj
    · intro hok
      apply h.keeps
      intro k howed
      refine ⟨howed, fun i hi => ?_⟩
      have hne : k ≠ k₀ := by
        rintro rfl
        exact howed (hok ho (.inl rfl) k hsub)
      exact listens_deleteCallbackInfo hl hi hne

end Steps

/-! ## Runs -/

/-- What every run keeps of the listeners. -/
structure Registry (s : EmitterSys) : Prop where
  listed : Listed s
  kept : Kept s

section Runs

variable {enhanced : Bool} {s t : SubscriptionSys} {op : SubscriptionOp}

theorem registry_step (h : Registry s.emitter) (hst : s.step enhanced op = some t) :
    Registry t.emitter := by
  cases op with
  | sent id =>
    simp only [SubscriptionSys.step, Option.ite_none_right_eq_some, Option.some.injEq] at hst
    obtain ⟨-, rfl⟩ := hst
    have hm := marks_pending s.emitter (s.emitter.pending ++ [id])
    exact ⟨h.listed.retires hm.retires, h.kept.marks hm⟩
  | emitter op =>
    obtain ⟨u, hu, rfl⟩ := Option.map_eq_some_iff.1 hst
    cases enhanced with
    | false => exact ⟨listed_step h.listed (emitterStep_cases hu), kept_step h.kept h.listed hu⟩
    | true => exact ⟨listed_stepEnhanced h.listed hu, kept_stepEnhanced h.kept h.listed hu⟩

/-- **A step keeps the law exactly when it meets the condition.** -/
theorem law_step_iff (h : s.Law) (hreg : Registry s.emitter) (hst : s.step enhanced op = some t) :
    t.Law ↔ NotRenewed enhanced s op := by
  cases op with
  | sent id =>
    simp only [SubscriptionSys.step, Option.ite_none_right_eq_some, Option.some.injEq] at hst
    obtain ⟨-, rfl⟩ := hst
    refine ⟨fun _ env he => ?_, fun _ => h⟩
    cases he
  | emitter op =>
    obtain ⟨u, hu, rfl⟩ := Option.map_eq_some_iff.1 hst
    by_cases hop : ∃ env, op = .callbackReturned env
    · obtain ⟨env, rfl⟩ := hop
      cases enhanced with
      | false =>
        simp only [Bool.false_eq_true, if_false, EmitterSys.step] at hu
        split at hu
        · rename_i info hr
          cases hu
          exact law_returned_iff h hreg.listed hreg.kept hr
        · cases hu
      | true =>
        simp only [if_true, EmitterSys.stepEnhanced] at hu
        split at hu
        · rename_i info hr
          cases hu
          exact law_returnedEnhanced_iff h hreg.listed hreg.kept hr
        · cases hu
    · push Not at hop
      have hstep : s.emitter.step op = some u := by
        cases enhanced with
        | false => exact hu
        | true =>
          rw [← stepEnhanced_of_ne hop]
          exact hu
      exact ⟨fun _ => notRenewed_early enhanced hop, fun _ => law_early h hreg.listed hop hstep⟩

theorem reachable_law (h : (subscriptionSystem enhanced).Reachable (NotRenewed enhanced) s) :
    Registry s.emitter ∧ s.Law := by
  have hstart : emitterSystem.Reachable always emitterSystem.init := .init
  refine h.invariant (I := fun s => Registry s.emitter ∧ s.Law)
    ⟨⟨reachable_listed hstart, kept_init⟩, fun k ho => absurd rfl ho⟩ ?_
  rintro s op t ⟨hreg, hlaw⟩ hok hst
  exact ⟨registry_step hreg hst, (law_step_iff hlaw hreg hst).2 hok⟩

/-- **No subscription is lost** in a run of the plain or the enhanced emitter in which no callback of a
    once listener returns while its subscriber is owed a registration; and the next step keeps this
    exactly when it meets the condition. -/
theorem subscription_kept_iff
    (hs : (subscriptionSystem enhanced).Reachable (NotRenewed enhanced) s) :
    s.Law ∧ ∀ op t, (subscriptionSystem enhanced).step s op = some t →
      (t.Law ↔ NotRenewed enhanced s op) := by
  obtain ⟨hreg, hlaw⟩ := reachable_law hs
  exact ⟨hlaw, fun op t hst => law_step_iff hlaw hreg hst⟩

end Runs

/-- A handler registered by `once` calls `once` again: it is still registered while it runs, and the
    end of its callback breaks the law. -/
theorem subscription_kept_renewed :
    ∃ s t, (subscriptionSystem false).Reachable (NotRenewed false) s ∧
      s.owed ⟨0, ⟨.u32 1, 0⟩, 7⟩ = .untilCalled ∧ s.emitter.running 0 = some 0 ∧ s.Law ∧
      (subscriptionSystem false).step s (.emitter (.callbackReturned 0)) = some t ∧ ¬t.Law := by
  obtain ⟨s, hrun, ho, hr, hno, hst⟩ := run_of_exec (subscriptionSystem false) (NotRenewed false)
    (fun s => s.owed ⟨0, ⟨.u32 1, 0⟩, 7⟩ = .untilCalled ∧ s.emitter.running 0 = some 0 ∧
      ¬NotRenewed false s (.emitter (.callbackReturned 0)) ∧
      (s.step false (.emitter (.callbackReturned 0))).isSome = true)
    [.emitter (.onOrOnce 0 ⟨.u32 1, 0⟩ 7 true true), .emitter (.emit ⟨.u32 1, 0⟩),
      .emitter (.processEvent ⟨.u32 1, 0⟩), .emitter (.callWorker 0 true),
      .emitter (.threadSafeCallback 0 true), .emitter (.onOrOnce 0 ⟨.u32 1, 0⟩ 7 true true)]
    (by decide)
  obtain ⟨t, ht⟩ := Option.isSome_iff_exists.1 hst
  have ht' : (subscriptionSystem false).step s (.emitter (.callbackReturned 0)) = some t := ht
  have hs : (subscriptionSystem false).Reachable (NotRenewed false) s := ⟨_, hrun⟩
  obtain ⟨hlaw, hexact⟩ := subscription_kept_iff hs
  exact ⟨s, t, hs, ho, hr, hlaw, ht', fun hlaw' => hno ((hexact _ t ht').1 hlaw')⟩

/-- The same handler in the plain emitter; and in the enhanced one a handler registered by `once` that
    calls `off` and `on`. -/
theorem subscription_lost :
    (¬∀ s, (subscriptionSystem false).Reachable always s → s.Law) ∧
      ¬∀ s, (subscriptionSystem true).Reachable always s → s.Law := by
  constructor
  · intro hall
    obtain ⟨s, hrun, ho, hnil⟩ := run_of_exec (subscriptionSystem false) always
      (fun s => s.owed ⟨0, ⟨.u32 1, 0⟩, 7⟩ ≠ .nothing ∧ s.emitter.emitterInstances ⟨.u32 1, 0⟩ = [])
      [.emitter (.onOrOnce 0 ⟨.u32 1, 0⟩ 7 true true), .emitter (.emit ⟨.u32 1, 0⟩),
        .emitter (.processEvent ⟨.u32 1, 0⟩), .emitter (.callWorker 0 true),
        .emitter (.threadSafeCallback 0 true), .emitter (.onOrOnce 0 ⟨.u32 1, 0⟩ 7 true true),
        .emitter (.callbackReturned 0)]
      (by decide)
    obtain ⟨i, hi, -⟩ := hall s ⟨_, hrun⟩ _ ho
    rw [hnil] at hi
    cases hi
  · intro hall
    obtain ⟨s, hrun, ho, hnil⟩ := run_of_exec (subscriptionSystem true) always
      (fun s => s.owed ⟨0, ⟨.u32 1, 0⟩, 7⟩ = .untilOff ∧ s.emitter.emitterInstances ⟨.u32 1, 0⟩ = [])
      [.emitter (.onOrOnce 0 ⟨.u32 1, 0⟩ 7 true true), .emitter (.emit ⟨.u32 1, 0⟩),
        .emitter (.processEvent ⟨.u32 1, 0⟩), .emitter (.callWorker 0 true),
        .emitter (.threadSafeCallback 0 true), .emitter (.deleteCallbackInfo 0 ⟨.u32 1, 0⟩ 7),
        .emitter (.onOrOnce 0 ⟨.u32 1, 0⟩ 7 false true), .emitter (.callbackReturned 0)]
      (by decide)
    obtain ⟨i, hi, -⟩ := hall s ⟨_, hrun⟩ ⟨0, ⟨.u32 1, 0⟩, 7⟩ (by rw [ho]; decide)
    rw [hnil] at hi
    cases hi

end AppExecFwk
