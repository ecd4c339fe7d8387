import Mathlib
import EventHandler.Lib.Transition
import EventHandler.InnerEvent

/-!
# The event emitter of the N-API module

Model of `events_emitter.cpp` without the enhanced API.  Listeners are registered and taken away on
the JS threads, events are dispatched on the emitter's thread, and the workers a dispatch queues run
on the JS thread the listener belongs to.

* `AsyncCallbackInfo` — a listener object; listeners are numbered in the order of their creation.
* `EmitterSys` — the listener sets of `emitterInstances`, the events that wait for their dispatch, what
  the dispatch on the emitter's thread has still to queue, the queued workers, and which worker runs
  on each JS thread.
* `EmitterSys.step` — one critical section, or one call from outside, a step.
* `Retires`, `EmitterEffect`, `emitterStep_cases` — the inversion of a step.
* `Listed`, `reachable_listed` — a listener is only in the set of its own event.

The data of an event is what the emitting caller put there; the dispatch hands it on, and a worker
whose data cannot be deserialized is the choice `ready = false`.
-/

set_option autoImplicit false

namespace AppExecFwk

open Transition

structure CompositeEventId where
  eventId : EventId
  emitterId : Nat := 0
  deriving DecidableEq, Repr

structure AsyncCallbackInfo where
  env : Option Nat
  once : Bool
  isDeleted : Bool
  /-- The JS function behind the reference. -/
  callback : Nat
  /-- The JS thread `tsfn` was created on, which runs its workers. -/
  tsfn : Nat
  eventId : EventId
  emitterId : Nat
  /-- A finalizer of the JS function knows the listener. -/
  wrapped : Bool
  deriving DecidableEq, Repr

namespace AsyncCallbackInfo

def compositeId (info : AsyncCallbackInfo) : CompositeEventId := ⟨info.eventId, info.emitterId⟩

/-- `(*it)->isDeleted == true || (*it)->env == nullptr`, negated. -/
def valid (info : AsyncCallbackInfo) : Bool := !info.isDeleted && info.env.isSome

/-- `napi_strict_equals` on the callback, of a listener of `env`. -/
def isOf (info : AsyncCallbackInfo) (env callback : Nat) : Bool :=
  decide (info.env = some env) && decide (info.callback = callback)

end AsyncCallbackInfo

structure EmitterSys where
  infos : Nat → AsyncCallbackInfo
  /-- The number of listeners created so far. -/
  created : Nat
  emitterInstances : CompositeEventId → List Nat
  /-- The events sent and not yet dispatched. -/
  pending : List CompositeEventId
  /-- What is left of `callbackInfos` in `ProcessEventCallbacks`. -/
  callbackInfos : List Nat
  /-- The workers in the queues of the thread-safe functions, by their listener. -/
  workers : List Nat
  /-- The listener whose callback runs on a JS thread. -/
  running : Nat → Option Nat
  /-- How often the callback of a listener was called. -/
  invocations : Nat → Nat
  /-- Registered by `once` and neither changed nor registered again. -/
  onlyOnce : Nat → Bool

inductive EmitterOp where
  /-- `OnOrOnce` and `EmitterOnOrOnce`; only the first wraps the function, and may fail to. -/
  | onOrOnce (env : Nat) (id : CompositeEventId) (callback : Nat) (once wrapped : Bool)
  /-- `JS_Off` with a callback. -/
  | deleteCallbackInfo (env : Nat) (id : CompositeEventId) (callback : Nat)
  /-- `JS_Off` without one. -/
  | off (id : CompositeEventId)
  | deleteEmitterInstance (emitterId : Nat)
  /-- The JS function of the listener is collected. -/
  | finalize (info : Nat)
  | getListenerCount (id : CompositeEventId)
  | emit (id : CompositeEventId)
  /-- `ProcessEvent` up to the copy of the set. -/
  | processEvent (id : CompositeEventId)
  /-- One round of `ProcessEventCallbacks`; `called` is false when the allocation or
      `napi_call_threadsafe_function` fails. -/
  | callWorker (info : Nat) (called : Bool)
  /-- `ThreadSafeCallback` up to `napi_call_function`; `ready` is false when there is no scope or the
      data cannot be deserialized. -/
  | threadSafeCallback (info : Nat) (ready : Bool)
  /-- The callback returns to `ProcessCallback`. -/
  | callbackReturned (env : Nat)
  deriving DecidableEq, Repr

namespace EmitterSys

/-- `SearchCallbackInfo`. -/
def searchCallbackInfo (s : EmitterSys) (env : Nat) (id : CompositeEventId) (callback : Nat) :
    Option Nat :=
  (s.emitterInstances id).find? fun info =>
    !(s.infos info).isDeleted && (s.infos info).isOf env callback

def setInstances (s : EmitterSys) (id : CompositeEventId) (infos : List Nat) : EmitterSys :=
  { s with emitterInstances := Function.update s.emitterInstances id infos }

/-- `isDeleted = true` for the listeners that pass the test. -/
def markDeleted (s : EmitterSys) (p : Nat → Bool) : EmitterSys :=
  { s with
    infos := fun info =>
      if p info then { s.infos info with isDeleted := true } else s.infos info }

/-- `UpdateOnceFlag`; all its branches leave `once` in the flag. -/
def updateOnceFlag (s : EmitterSys) (info : Nat) (once : Bool) : EmitterSys :=
  { s with
    infos := Function.update s.infos info { s.infos info with once := once }
    onlyOnce := Function.update s.onlyOnce info false }

/-- The listener `OnOrOnce` creates when it finds none. -/
def insertCallbackInfo (s : EmitterSys) (env : Nat) (id : CompositeEventId) (callback : Nat)
    (once wrapped : Bool) : EmitterSys :=
  { s with
    infos := Function.update s.infos s.created
      { env := some env, once := once, isDeleted := false, callback := callback, tsfn := env,
        eventId := id.eventId, emitterId := id.emitterId, wrapped := wrapped }
    created := s.created + 1
    emitterInstances :=
      Function.update s.emitterInstances id (s.emitterInstances id ++ [s.created])
    onlyOnce := Function.update s.onlyOnce s.created once }

def onOrOnce (s : EmitterSys) (env : Nat) (id : CompositeEventId) (callback : Nat)
    (once wrapped : Bool) : EmitterSys :=
  match s.searchCallbackInfo env id callback with
  | some info => s.updateOnceFlag info once
  | none => s.insertCallbackInfo env id callback once wrapped

/-- `DeleteCallbackInfo`. -/
def deleteCallbackInfo (s : EmitterSys) (env : Nat) (id : CompositeEventId) (callback : Nat) :
    EmitterSys :=
  match (s.emitterInstances id).find? fun info => (s.infos info).isOf env callback with
  | some info =>
    (s.markDeleted fun i => i == info).setInstances id ((s.emitterInstances id).erase info)
  | none => s

def off (s : EmitterSys) (id : CompositeEventId) : EmitterSys :=
  (s.markDeleted fun i => decide (i ∈ s.emitterInstances id)).setInstances id []

/-- `DeleteEmitterInstance` drops the keys of the emitter and marks the listeners in their sets; a
    listener is in no set but that of its own event. -/
def deleteEmitterInstance (s : EmitterSys) (emitterId : Nat) : EmitterSys :=
  { s.markDeleted fun i =>
      decide ((s.infos i).emitterId = emitterId ∧ i ∈ s.emitterInstances (s.infos i).compositeId) with
    emitterInstances := fun id => if id.emitterId = emitterId then [] else s.emitterInstances id }

/-- The finalizer that `OnOrOnce` gives to `napi_wrap`. -/
def finalize (s : EmitterSys) (info : Nat) : EmitterSys :=
  { s with
    infos := Function.update s.infos info { s.infos info with isDeleted := true, env := none } }

/-- The loop over a set that erases the listeners that are no longer valid. -/
def prune (s : EmitterSys) (id : CompositeEventId) : EmitterSys :=
  s.setInstances id ((s.emitterInstances id).filter fun info => (s.infos info).valid)

/-- `ProcessEvent`, with the copy that `GetAsyncCallbackInfo` returns. -/
def processEvent (s : EmitterSys) (id : CompositeEventId) : EmitterSys :=
  { s.prune id with
    pending := s.pending.erase id
    callbackInfos := (s.prune id).emitterInstances id }

/-- One round of the loop in `ProcessEventCallbacks`. -/
def callWorker (s : EmitterSys) (info : Nat) (called : Bool) : EmitterSys :=
  { s with
    callbackInfos := s.callbackInfos.erase info
    workers := if (s.infos info).valid && called then s.workers ++ [info] else s.workers }

def threadSafeCallback (s : EmitterSys) (info : Nat) (ready : Bool) : EmitterSys :=
  if (s.infos info).isDeleted || !ready then { s with workers := s.workers.erase info }
  else
    { s with
      workers := s.workers.erase info
      running := Function.update s.running (s.infos info).tsfn (some info)
      invocations := Function.update s.invocations info (s.invocations info + 1) }

/-- The end of `ProcessCallback`: `iter->second.erase(callback)` for a once listener. -/
def callbackReturned (s : EmitterSys) (env info : Nat) : EmitterSys :=
  if (s.infos info).once then
    { s.setInstances (s.infos info).compositeId
        ((s.emitterInstances (s.infos info).compositeId).erase info) with
      running := Function.update s.running env none }
  else { s with running := Function.update s.running env none }

def step (s : EmitterSys) : EmitterOp → Option EmitterSys
  | .onOrOnce env id callback once wrapped => some (s.onOrOnce env id callback once wrapped)
  | .deleteCallbackInfo env id callback => some (s.deleteCallbackInfo env id callback)
  | .off id => some (s.off id)
  | .deleteEmitterInstance emitterId =>
    if emitterId ≠ 0 then some (s.deleteEmitterInstance emitterId) else none
  | .finalize info => if (s.infos info).wrapped then some (s.finalize info) else none
  | .getListenerCount id => some (s.prune id)
  -- `IsExistValidCallback` lets the event through
  | .emit id =>
    some (if s.emitterInstances id = [] then s else { s with pending := s.pending ++ [id] })
  | .processEvent id =>
    if id ∈ s.pending ∧ s.callbackInfos = [] then some (s.processEvent id) else none
  | .callWorker info called =>
    if info ∈ s.callbackInfos then some (s.callWorker info called) else none
  | .threadSafeCallback info ready =>
    if info ∈ s.workers ∧ s.running (s.infos info).tsfn = none then
      some (s.threadSafeCallback info ready)
    else none
  | .callbackReturned env =>
    match s.running env with
    | some info => some (s.callbackReturned env info)
    | none => none

end EmitterSys

/-- No listener was ever created. -/
def emitterSystem : System EmitterSys EmitterOp where
  init :=
    { infos := fun _ =>
        { env := none, once := false, isDeleted := false, callback := 0, tsfn := 0,
          eventId := .u32 0, emitterId := 0, wrapped := false }
      created := 0
      emitterInstances := fun _ => []
      pending := []
      callbackInfos := []
      workers := []
      running := fun _ => none
      invocations := fun _ => 0
      onlyOnce := fun _ => false }
  step := EmitterSys.step

/-! ## What a step does -/

/-- Listeners may be marked and leave their sets, and nothing is dispatched or run. -/
structure Retires (s t : EmitterSys) : Prop where
  created : t.created = s.created
  callbackInfos : t.callbackInfos = s.callbackInfos
  workers : t.workers = s.workers
  running : t.running = s.running
  invocations : t.invocations = s.invocations
  onlyOnce : t.onlyOnce = s.onlyOnce
  once : ∀ info, (t.infos info).once = (s.infos info).once
  tsfn : ∀ info, (t.infos info).tsfn = (s.infos info).tsfn
  compositeId : ∀ info, (t.infos info).compositeId = (s.infos info).compositeId
  instances : ∀ id, ((t.emitterInstances id).Sublist (s.emitterInstances id))

theorem Retires.refl (s : EmitterSys) : Retires s s :=
  ⟨rfl, rfl, rfl, rfl, rfl, rfl, fun _ => rfl, fun _ => rfl, fun _ => rfl, fun _ => .refl _⟩

theorem Retires.trans {s t u : EmitterSys} (h : Retires s t) (h' : Retires t u) : Retires s u where
  created := h'.created.trans h.created
  callbackInfos := h'.callbackInfos.trans h.callbackInfos
  workers := h'.workers.trans h.workers
  running := h'.running.trans h.running
  invocations := h'.invocations.trans h.invocations
  onlyOnce := h'.onlyOnce.trans h.onlyOnce
  once info := (h'.once info).trans (h.once info)
  tsfn info := (h'.tsfn info).trans (h.tsfn info)
  compositeId info := (h'.compositeId info).trans (h.compositeId info)
  instances id := (h'.instances id).trans (h.instances id)

/-- Sets that lose listeners. -/
theorem retires_instances {s : EmitterSys} {instances : CompositeEventId → List Nat}
    (h : ∀ id, (instances id).Sublist (s.emitterInstances id)) :
    Retires s { s with emitterInstances := instances } :=
  ⟨rfl, rfl, rfl, rfl, rfl, rfl, fun _ => rfl, fun _ => rfl, fun _ => rfl, h⟩

/-- Listeners whose marks change. -/
theorem retires_infos {s : EmitterSys} {infos : Nat → AsyncCallbackInfo}
    (h : ∀ info, (infos info).once = (s.infos info).once ∧
      (infos info).tsfn = (s.infos info).tsfn ∧
      (infos info).compositeId = (s.infos info).compositeId) :
    Retires s { s with infos := infos } :=
  ⟨rfl, rfl, rfl, rfl, rfl, rfl, fun info => (h info).1, fun info => (h info).2.1,
    fun info => (h info).2.2, fun _ => .refl _⟩

theorem retires_setInstances {s : EmitterSys} {id : CompositeEventId} {infos : List Nat}
    (h : infos.Sublist (s.emitterInstances id)) : Retires s (s.setInstances id infos) := by
  apply retires_instances
  intro id'
  by_cases hid : id' = id
  · subst hid
    simpa using h
  · simp [Function.update_of_ne hid]

theorem retires_markDeleted (s : EmitterSys) (p : Nat → Bool) : Retires s (s.markDeleted p) := by
  apply retires_infos
  intro info
  split <;> exact ⟨rfl, rfl, rfl⟩

theorem retires_deleteCallbackInfo (s : EmitterSys) (env : Nat) (id : CompositeEventId)
    (callback : Nat) : Retires s (s.deleteCallbackInfo env id callback) := by
  unfold EmitterSys.deleteCallbackInfo
  split
  · exact (retires_markDeleted s _).trans (retires_setInstances List.erase_sublist)
  · exact .refl s

theorem retires_off (s : EmitterSys) (id : CompositeEventId) : Retires s (s.off id) :=
  (retires_markDeleted s _).trans (retires_setInstances (List.nil_sublist _))

theorem retires_deleteEmitterInstance (s : EmitterSys) (emitterId : Nat) :
    Retires s (s.deleteEmitterInstance emitterId) := by
  refine (retires_markDeleted s _).trans (retires_instances ?_)
  intro id
  show (if id.emitterId = emitterId then [] else s.emitterInstances id).Sublist _
  split
  · exact List.nil_sublist _
  · exact .refl _

theorem retires_finalize (s : EmitterSys) (info : Nat) : Retires s (s.finalize info) := by
  apply retires_infos
  intro i
  by_cases h : i = info
  · subst h
    simp [AsyncCallbackInfo.compositeId]
  · simp [Function.update_of_ne h]

theorem retires_prune (s : EmitterSys) (id : CompositeEventId) : Retires s (s.prune id) :=
  retires_setInstances List.filter_sublist

/-- What a step does, one case for each kind of change. -/
inductive EmitterEffect (s : EmitterSys) : EmitterOp → EmitterSys → Prop
  | updated (env : Nat) (id : CompositeEventId) (callback : Nat) (once wrapped : Bool) (info : Nat) :
      EmitterEffect s (.onOrOnce env id callback once wrapped) (s.updateOnceFlag info once)
  | inserted (env : Nat) (id : CompositeEventId) (callback : Nat) (once wrapped : Bool) :
      EmitterEffect s (.onOrOnce env id callback once wrapped)
        (s.insertCallbackInfo env id callback once wrapped)
  | retired (op : EmitterOp) (t : EmitterSys) (h : Retires s t) : EmitterEffect s op t
  | processed (id : CompositeEventId) (hp : id ∈ s.pending) (hc : s.callbackInfos = []) :
      EmitterEffect s (.processEvent id) (s.processEvent id)
  | called (info : Nat) (called : Bool) (hm : info ∈ s.callbackInfos) :
      EmitterEffect s (.callWorker info called) (s.callWorker info called)
  | dropped (info : Nat) (ready : Bool) (hm : info ∈ s.workers) :
      EmitterEffect s (.threadSafeCallback info ready) { s with workers := s.workers.erase info }
  | invoked (info : Nat) (ready : Bool) (hm : info ∈ s.workers)
      (hr : s.running (s.infos info).tsfn = none) :
      EmitterEffect s (.threadSafeCallback info ready)
        { s with
          workers := s.workers.erase info
          running := Function.update s.running (s.infos info).tsfn (some info)
          invocations := Function.update s.invocations info (s.invocations info + 1) }
  | returned (env info : Nat) (hr : s.running env = some info) :
      EmitterEffect s (.callbackReturned env) (s.callbackReturned env info)

theorem emitterStep_cases {s t : EmitterSys} {op : EmitterOp} (h : s.step op = some t) :
    EmitterEffect s op t := by
  cases op <;> simp only [EmitterSys.step, Option.ite_none_right_eq_some, Option.some.injEq] at h
  case onOrOnce env id callback once wrapped =>
    subst h
    unfold EmitterSys.onOrOnce
    split
    · exact .updated env id callback once wrapped _
    · exact .inserted env id callback once wrapped
  case deleteCallbackInfo env id callback =>
    subst h
    exact .retired _ _ (retires_deleteCallbackInfo s env id callback)
  case off id =>
    subst h
    exact .retired _ _ (retires_off s id)
  case deleteEmitterInstance emitterId =>
    obtain ⟨-, rfl⟩ := h
    exact .retired _ _ (retires_deleteEmitterInstance s emitterId)
  case finalize info =>
    obtain ⟨-, rfl⟩ := h
    exact .retired _ _ (retires_finalize s info)
  case getListenerCount id =>
    subst h
    exact .retired _ _ (retires_prune s id)
  case emit id =>
    subst h
    refine .retired _ _ ?_
    split
    · exact .refl s
    · exact ⟨rfl, rfl, rfl, rfl, rfl, rfl, fun _ => rfl, fun _ => rfl, fun _ => rfl, fun _ => .refl _⟩
  case processEvent id =>
    obtain ⟨⟨hp, hc⟩, rfl⟩ := h
    exact .processed id hp hc
  case callWorker info called =>
    obtain ⟨hm, rfl⟩ := h
    exact .called info called hm
  case threadSafeCallback info ready =>
    obtain ⟨⟨hm, hr⟩, rfl⟩ := h
    unfold EmitterSys.threadSafeCallback
    split
    · exact .dropped info ready hm
    · exact .invoked info ready hm hr
  case callbackReturned env =>
    split at h
    · rename_i info hr
      cases h
      exact .returned env info hr
    · cases h

/-! ## Where a listener is -/

/-- A listener is in the set of its own event only, and once; its workers run on its own thread; and
    nothing is known of a listener before its creation. -/
structure Listed (s : EmitterSys) : Prop where
  own : ∀ id info, info ∈ s.emitterInstances id → (s.infos info).compositeId = id
  nodup : ∀ id, (s.emitterInstances id).Nodup
  instances_lt : ∀ id info, info ∈ s.emitterInstances id → info < s.created
  callbackInfos_lt : ∀ info ∈ s.callbackInfos, info < s.created
  workers_lt : ∀ info ∈ s.workers, info < s.created
  running_own : ∀ env info, s.running env = some info →
    info < s.created ∧ (s.infos info).tsfn = env
  uncalled : ∀ info, s.created ≤ info → s.invocations info = 0
  once : ∀ info, s.onlyOnce info = true → info < s.created ∧ (s.infos info).once = true

theorem Listed.retires {s t : EmitterSys} (h : Listed s) (hr : Retires s t) : Listed t where
  own id info hm := (hr.compositeId info).trans (h.own id info ((hr.instances id).subset hm))
  nodup id := (h.nodup id).sublist (hr.instances id)
  instances_lt id info hm := by
    rw [hr.created]
    exact h.instances_lt id info ((hr.instances id).subset hm)
  callbackInfos_lt := by
    rw [hr.callbackInfos, hr.created]
    exact h.callbackInfos_lt
  workers_lt := by
    rw [hr.workers, hr.created]
    exact h.workers_lt
  running_own env info hrun := by
    rw [hr.running] at hrun
    rw [hr.created, hr.tsfn]
    exact h.running_own env info hrun
  uncalled := by
    rw [hr.created, hr.invocations]
    exact h.uncalled
  once info ho := by
    rw [hr.onlyOnce] at ho
    rw [hr.created, hr.once]
    exact h.once info ho

theorem Listed.updated {s : EmitterSys} (h : Listed s) (info : Nat) (once : Bool) :
    Listed (s.updateOnceFlag info once) := by
  have hsame : ∀ i, ((s.updateOnceFlag info once).infos i).tsfn = (s.infos i).tsfn ∧
      ((s.updateOnceFlag info once).infos i).compositeId = (s.infos i).compositeId := by
    intro i
    unfold EmitterSys.updateOnceFlag
    by_cases hi : i = info
    · subst hi
      simp [AsyncCallbackInfo.compositeId]
    · simp [Function.update_of_ne hi]
  refine ⟨?_, h.nodup, h.instances_lt, h.callbackInfos_lt, h.workers_lt, ?_, h.uncalled, ?_⟩
  · intro id i hm
    rw [(hsame i).2]
    exact h.own id i hm
  · intro env i hrun
    rw [(hsame i).1]
    exact h.running_own env i hrun
  · intro i ho
    unfold EmitterSys.updateOnceFlag at ho ⊢
    by_cases hi : i = info
    · subst hi
      simp at ho
    · simp only [Function.update_of_ne hi] at ho ⊢
      exact h.once i ho

/-- The listeners that were there are not changed by a new one. -/
theorem insertCallbackInfo_infos {s : EmitterSys} {i : Nat} (h : i ≠ s.created) (env : Nat)
    (id : CompositeEventId) (callback : Nat) (once wrapped : Bool) :
    (s.insertCallbackInfo env id callback once wrapped).infos i = s.infos i :=
  Function.update_of_ne h _ _

/-- The new listener is in the set of its id only. -/
theorem mem_insertCallbackInfo {s : EmitterSys} {env callback : Nat} {id id' : CompositeEventId}
    {once wrapped : Bool} {i : Nat}
    (h : i ∈ (s.insertCallbackInfo env id callback once wrapped).emitterInstances id') :
    i ∈ s.emitterInstances id' ∨ (i = s.created ∧ id' = id) := by
  unfold EmitterSys.insertCallbackInfo at h
  by_cases hid : id' = id
  · subst hid
    simpa using h
  · simp only [Function.update_of_ne hid] at h
    exact .inl h

theorem Listed.inserted {s : EmitterSys} (h : Listed s) (env : Nat) (id : CompositeEventId)
    (callback : Nat) (once wrapped : Bool) :
    Listed (s.insertCallbackInfo env id callback once wrapped) := by
  have hold : ∀ i, i < s.created →
      (s.insertCallbackInfo env id callback once wrapped).infos i = s.infos i :=
    fun i hi => insertCallbackInfo_infos (by omega) env id callback once wrapped
  have hnew : s.created ∉ s.emitterInstances id := by
    intro hm
    have := h.instances_lt id _ hm
    omega
  refine ⟨?_, ?_, ?_, ?_, ?_, ?_, ?_, ?_⟩
  · intro id' i hm
    rcases mem_insertCallbackInfo hm with hm | ⟨rfl, rfl⟩
    · rw [hold i (h.instances_lt id' i hm)]
      exact h.own id' i hm
    · simp [EmitterSys.insertCallbackInfo, AsyncCallbackInfo.compositeId]
  · intro id'
    unfold EmitterSys.insertCallbackInfo
    by_cases hid : id' = id
    · subst hid
      simp only [Function.update_self]
      exact List.nodup_append.2 ⟨h.nodup id', by simp, by
        intro a ha b hb
        have : b = s.created := by simpa using hb
        rintro rfl
        exact hnew (this ▸ ha)⟩
    · simp only [Function.update_of_ne hid]
      exact h.nodup id'
  · intro id' i hm
    show i < s.created + 1
    rcases mem_insertCallbackInfo hm with hm | ⟨rfl, -⟩
    · have := h.instances_lt id' i hm
      omega
    · omega
  · intro i hm
    exact Nat.lt_succ_of_lt (h.callbackInfos_lt i hm)
  · intro i hm
    exact Nat.lt_succ_of_lt (h.workers_lt i hm)
  · intro env' i hrun
    obtain ⟨hlt, hown⟩ := h.running_own env' i hrun
    rw [hold i hlt]
    exact ⟨Nat.lt_succ_of_lt hlt, hown⟩
  · intro i hi
    exact h.uncalled i (Nat.le_of_succ_le hi)
  · intro i ho
    unfold EmitterSys.insertCallbackInfo at ho ⊢
    by_cases hi : i = s.created
    · subst hi
      simpa using ho
    · simp only [Function.update_of_ne hi] at ho ⊢
      exact ⟨Nat.lt_succ_of_lt (h.once i ho).1, (h.once i ho).2⟩

theorem Listed.returned {s : EmitterSys} (h : Listed s) (env info : Nat) :
    Listed (s.callbackReturned env info) := by
  have hrun : ∀ env' i, Function.update s.running env none env' = some i →
      i < s.created ∧ (s.infos i).tsfn = env' := by
    intro env' i hrun
    by_cases he : env' = env
    · subst he
      simp at hrun
    · rw [Function.update_of_ne he] at hrun
      exact h.running_own env' i hrun
  unfold EmitterSys.callbackReturned
  split
  · have hsub : ((s.emitterInstances (s.infos info).compositeId).erase info).Sublist
        (s.emitterInstances (s.infos info).compositeId) := List.erase_sublist
    have h' := h.retires (retires_setInstances hsub)
    exact ⟨h'.own, h'.nodup, h'.instances_lt, h.callbackInfos_lt, h.workers_lt, hrun, h.uncalled,
      h.once⟩
  · exact ⟨h.own, h.nodup, h.instances_lt, h.callbackInfos_lt, h.workers_lt, hrun, h.uncalled, h.once⟩

theorem listed_step {s t : EmitterSys} {op : EmitterOp} (h : Listed s) (he : EmitterEffect s op t) :
    Listed t := by
  cases he with
  | updated env id callback once wrapped info => exact h.updated info once
  | inserted env id callback once wrapped => exact h.inserted env id callback once wrapped
  | retired op t hr => exact h.retires hr
  | processed id hp hc =>
    have h' := h.retires (retires_prune s id)
    exact ⟨h'.own, h'.nodup, h'.instances_lt, fun i hm => h'.instances_lt id i hm, h.workers_lt,
      h.running_own, h.uncalled, h.once⟩
  | called info called hm =>
    refine ⟨h.own, h.nodup, h.instances_lt, ?_, ?_, h.running_own, h.uncalled, h.once⟩
    · intro i hi
      exact h.callbackInfos_lt i (List.mem_of_mem_erase hi)
    · intro i hi
      unfold EmitterSys.callWorker at hi
      simp only at hi
      split at hi
      · rcases List.mem_append.1 hi with hi | hi
        · exact h.workers_lt i hi
        · rw [List.mem_singleton] at hi
          subst hi
          exact h.callbackInfos_lt i hm
      · exact h.workers_lt i hi
  | dropped info ready hm =>
    exact ⟨h.own, h.nodup, h.instances_lt, h.callbackInfos_lt,
      fun i hi => h.workers_lt i (List.mem_of_mem_erase hi), h.running_own, h.uncalled, h.once⟩
  | invoked info ready hm hr =>
    refine ⟨h.own, h.nodup, h.instances_lt, h.callbackInfos_lt,
      fun i hi => h.workers_lt i (List.mem_of_mem_erase hi), ?_, ?_, h.once⟩
    · intro env i hrun
      by_cases henv : env = (s.infos info).tsfn
      · subst henv
        simp only [Function.update_self, Option.some.injEq] at hrun
        subst hrun
        exact ⟨h.workers_lt info hm, rfl⟩
      · simp only [Function.update_of_ne henv] at hrun
        exact h.running_own env i hrun
    · intro i hi
      have hlt : info < s.created := h.workers_lt info hm
      have hne : i ≠ info := by
        rintro rfl
        exact absurd hi (by simpa using hlt)
      simp only [Function.update_of_ne hne]
      exact h.uncalled i hi
  | returned env info hr => exact h.returned env info

theorem reachable_listed {ok : EmitterSys → EmitterOp → Prop} {s : EmitterSys}
    (h : emitterSystem.Reachable ok s) : Listed s := by
  refine h.invariant ?_ ?_
  · exact ⟨by simp [emitterSystem], by simp [emitterSystem], by simp [emitterSystem],
      by simp [emitterSystem], by simp [emitterSystem], by simp [emitterSystem],
      by simp [emitterSystem], by simp [emitterSystem]⟩
  · intro s op t hs _ hst
    exact listed_step hs (emitterStep_cases hst)

end AppExecFwk
