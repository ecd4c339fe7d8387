import EventHandler.Lib.Ownership
import EventHandler.Emitter
import EventHandler.FfrtDelay

/-!
# The data of an emitted event

Model of the way the serialized data of an event goes in `events_emitter.cpp`: `EmitWithEventData`
puts it into the event, `ProcessEvent` hands it to a `shared_ptr` whose deleter releases it, and every
worker holds a copy of that pointer until it is deleted.

* `EventDataWorker` — a worker with its listener and its copy of the pointer.
* `PayloadSys` — the emitter with the data of the waiting events, of the dispatch and of the workers;
  the data of all events are numbered in the order of their serialization.
* `PayloadSys.dropData` — a `shared_ptr` is destroyed; the last one calls the deleter.
* `PayloadSys.step` — one critical section, or one call from outside, a step.
* `PayloadSys.account` — who owns one piece of data, as an `Ownership.Account`.
* `PayloadSys.lostData` — the data that a step loses, from the state before it and the operation.
* `PayloadEffect`, `payloadStep_cases` — the inversion of a step.
* `payloadStep_moves` — what a step does to each account.
* `InStep`, `payload_simulates` — the data follow the emitter, and without them its runs are left.
* `payloads_settled_iff` — runs that lose nothing release all data exactly once.
-/

set_option autoImplicit false

namespace AppExecFwk

open Transition Ownership

/-- `EventDataWorker`; an event emitted without data has a null pointer. -/
structure EventDataWorker where
  callbackInfo : Nat
  data : Option Nat
  deriving DecidableEq, Repr

structure PayloadSys where
  emitter : EmitterSys
  /-- The data of the events sent and not yet dispatched. -/
  events : List (CompositeEventId × Option Nat)
  /-- `eventData` of the `ProcessEvent` that is in its loop. -/
  eventData : Option (Option Nat)
  /-- The workers in the queues of the thread-safe functions. -/
  workers : List EventDataWorker
  /-- The workers whose callback runs, with the JS thread it runs on. -/
  running : List (Nat × EventDataWorker)
  /-- The workers that nothing will delete. -/
  abandoned : List EventDataWorker
  /-- How many data were serialized so far. -/
  serialized : Nat
  deleteEnv : Option Nat
  /-- How often the data were passed to `napi_delete_serialization_data`. -/
  released : Nat → Nat

/-- What becomes of a worker in `ProcessEventCallbacks`. -/
inductive WorkerOutcome where
  /-- `new (std::nothrow)` returns null. -/
  | notAllocated
  | called
  /-- `napi_call_threadsafe_function` does not take it. -/
  | refused
  deriving DecidableEq, Repr

inductive PayloadOp where
  /-- The operations of the emitter on its listeners. -/
  | listeners (op : EmitterOp)
  /-- `JS_Emit`; `hasData` when there are data and they can be serialized, `usable` is the queue's. -/
  | emit (id : CompositeEventId) (hasData : Bool) (priority : Priority) (usable : Bool)
  /-- `ProcessEvent` up to its loop. -/
  | processEvent (id : CompositeEventId) (data : Option Nat)
  /-- One round of `ProcessEventCallbacks`; `collected` when the finalizer of the listener runs
      between the test of `env` and its use. -/
  | callWorker (info : Nat) (outcome : WorkerOutcome) (collected : Bool)
  /-- `ProcessEvent` returns. -/
  | processEnd
  /-- `ThreadSafeCallback` up to `napi_call_function`, or up to its end. -/
  | threadSafeCallback (worker : EventDataWorker) (scope deserialized : Bool)
  /-- The callback returns, and with it `ThreadSafeCallback`. -/
  | callbackReturned (env : Nat) (worker : EventDataWorker)
  deriving DecidableEq, Repr

/-- An operation on the listeners alone. -/
def EmitterOp.onListeners : EmitterOp → Bool
  | .onOrOnce .. => true
  | .deleteCallbackInfo .. => true
  | .off _ => true
  | .deleteEmitterInstance _ => true
  | .finalize _ => true
  | .getListenerCount _ => true
  | _ => false

/-- The queue takes the event out of the caller's pointer.  The emitter's runner is an FFRT one; in a
    build without FFRT its queue is a plain one, which has no list for some priorities. -/
def queueTakes (ffrtUsage usable : Bool) (priority : Priority) : Bool :=
  if ffrtUsage then
    (ffrtInsertEvent usable true (some ⟨{ handleTime := 0, sendTime := 0 }, 0⟩) priority false
      .AT_END).isSome
  else usable && priority.slot.isSome

namespace PayloadSys

/-! ## The operations -/

/-- `use_count` of the pointers to the data. -/
def useCount (s : PayloadSys) (n : Nat) : Nat :=
  (if s.eventData = some (some n) then 1 else 0) + s.workers.countP (fun w => w.data == some n) +
    s.running.countP (fun r => r.2.data == some n) + s.abandoned.countP (fun w => w.data == some n)

/-- A pointer to the data was destroyed: without another, its deleter runs. -/
def dropData (s : PayloadSys) (data : Option Nat) : PayloadSys :=
  match data with
  | none => s
  | some n =>
    if s.useCount n = 0 ∧ s.deleteEnv.isSome = true then
      { s with released := Function.update s.released n (s.released n + 1) }
    else s

/-- `JS_Emit` behind `IsExistValidCallback`, with `EmitWithEventData`. -/
def emit (s : PayloadSys) (emitter : EmitterSys) (id : CompositeEventId) (hasData taken : Bool) :
    PayloadSys :=
  let data := if hasData then some s.serialized else none
  let s := if hasData then { s with serialized := s.serialized + 1 } else s
  -- the event that was not taken is destroyed with its plain pointer
  if taken then { s with emitter := emitter, events := s.events ++ [(id, data)] } else s

/-- `ProcessEvent`: without a valid listener it returns before it takes the data out of the event. -/
def processEvent (s : PayloadSys) (emitter : EmitterSys) (id : CompositeEventId)
    (data : Option Nat) : PayloadSys :=
  { s with
    emitter := emitter
    events := s.events.erase (id, data)
    eventData := if emitter.callbackInfos = [] then none else some data }

/-- One round of the loop, with the listener as it is tested. -/
def callWorker (s : PayloadSys) (emitter : EmitterSys) (info : Nat) (data : Option Nat)
    (outcome : WorkerOutcome) (collected : Bool) : PayloadSys :=
  match outcome with
  | .notAllocated => { s with emitter := emitter }
  | .called =>
    if (s.emitter.infos info).valid then
      { s with
        emitter := emitter
        deleteEnv := if collected then none else (s.emitter.infos info).env
        workers := s.workers ++ [⟨info, data⟩] }
    else { s with emitter := emitter }
  | .refused =>
    if (s.emitter.infos info).valid then
      { s with
        emitter := emitter
        deleteEnv := if collected then none else (s.emitter.infos info).env
        abandoned := s.abandoned ++ [⟨info, data⟩] }
    else { s with emitter := emitter }

/-- `ThreadSafeCallback`: a worker of a listener that is no longer registered is deleted, and without
    a scope it is not. -/
def threadSafeCallback (s : PayloadSys) (emitter : EmitterSys) (worker : EventDataWorker)
    (scope deserialized : Bool) : PayloadSys :=
  let info := s.emitter.infos worker.callbackInfo
  let s := { s with emitter := emitter, workers := s.workers.erase worker }
  if info.isDeleted then s.dropData worker.data
  else if !scope then { s with abandoned := s.abandoned ++ [worker] }
  else if !deserialized then s.dropData worker.data
  else { s with running := s.running ++ [(info.tsfn, worker)] }

def step (ffrtUsage : Bool) (s : PayloadSys) : PayloadOp → Option PayloadSys
  | .listeners op =>
    if op.onListeners then (s.emitter.step op).map fun e => { s with emitter := e } else none
  | .emit id hasData priority usable =>
    if s.emitter.emitterInstances id = [] then some s
    else (s.emitter.step (.emit id)).map fun e =>
      s.emit e id hasData (queueTakes ffrtUsage usable priority)
  | .processEvent id data =>
    if (id, data) ∈ s.events ∧ s.eventData = none then
      (s.emitter.step (.processEvent id)).map fun e => s.processEvent e id data
    else none
  | .callWorker info outcome collected =>
    match s.eventData with
    | none => none
    | some data =>
      if collected = true ∧ ((s.emitter.infos info).valid = false ∨ outcome = .notAllocated) then none
      else
        (s.emitter.step (.callWorker info (decide (outcome = .called)))).bind fun e =>
          (if collected then e.step (.finalize info) else some e).map fun e =>
            s.callWorker e info data outcome collected
  | .processEnd =>
    match s.eventData with
    | none => none
    | some data =>
      if s.emitter.callbackInfos = [] then some ({ s with eventData := none }.dropData data) else none
  | .threadSafeCallback worker scope deserialized =>
    if worker ∈ s.workers then
      (s.emitter.step (.threadSafeCallback worker.callbackInfo (scope && deserialized))).map fun e =>
        s.threadSafeCallback e worker scope deserialized
    else none
  | .callbackReturned env worker =>
    if (env, worker) ∈ s.running then
      (s.emitter.step (.callbackReturned env)).map fun e =>
        { s with emitter := e, running := s.running.erase (env, worker) }.dropData worker.data
    else none

end PayloadSys

/-- No event was ever emitted. -/
def payloadSystem (ffrtUsage : Bool) : System PayloadSys PayloadOp where
  init :=
    { emitter := emitterSystem.init
      events := []
      eventData := none
      workers := []
      running := []
      abandoned := []
      serialized := 0
      deleteEnv := none
      released := fun _ => 0 }
  step := PayloadSys.step ffrtUsage

/-! ## What a step does -/

/-- A step, with what the emitter did in it. -/
inductive PayloadEffect (ffrtUsage : Bool) (s : PayloadSys) : PayloadOp → PayloadSys → Prop
  | listeners (op : EmitterOp) (e : EmitterSys) (hop : op.onListeners = true)
      (he : s.emitter.step op = some e) :
      PayloadEffect ffrtUsage s (.listeners op) { s with emitter := e }
  | unheard (id : CompositeEventId) (hasData : Bool) (priority : Priority) (usable : Bool)
      (hnone : s.emitter.emitterInstances id = []) :
      PayloadEffect ffrtUsage s (.emit id hasData priority usable) s
  | emit (id : CompositeEventId) (hasData : Bool) (priority : Priority) (usable : Bool)
      (e : EmitterSys) (hsome : s.emitter.emitterInstances id ≠ [])
      (he : s.emitter.step (.emit id) = some e) :
      PayloadEffect ffrtUsage s (.emit id hasData priority usable)
        (s.emit e id hasData (queueTakes ffrtUsage usable priority))
  | processEvent (id : CompositeEventId) (data : Option Nat) (e : EmitterSys)
      (hmem : (id, data) ∈ s.events) (hnone : s.eventData = none)
      (he : s.emitter.step (.processEvent id) = some e) :
      PayloadEffect ffrtUsage s (.processEvent id data) (s.processEvent e id data)
  | callWorker (info : Nat) (outcome : WorkerOutcome) (collected : Bool) (data : Option Nat)
      (e e' : EmitterSys) (hdata : s.eventData = some data)
      (he : s.emitter.step (.callWorker info (decide (outcome = .called))) = some e)
      (he' : (if collected then e.step (.finalize info) else some e) = some e') :
      PayloadEffect ffrtUsage s (.callWorker info outcome collected)
        (s.callWorker e' info data outcome collected)
  | processEnd (data : Option Nat) (hdata : s.eventData = some data)
      (hrounds : s.emitter.callbackInfos = []) :
      PayloadEffect ffrtUsage s .processEnd ({ s with eventData := none }.dropData data)
  | threadSafeCallback (worker : EventDataWorker) (scope deserialized : Bool) (e : EmitterSys)
      (hmem : worker ∈ s.workers)
      (he : s.emitter.step (.threadSafeCallback worker.callbackInfo (scope && deserialized)) =
        some e) :
      PayloadEffect ffrtUsage s (.threadSafeCallback worker scope deserialized)
        (s.threadSafeCallback e worker scope deserialized)
  | callbackReturned (env : Nat) (worker : EventDataWorker) (e : EmitterSys)
      (hmem : (env, worker) ∈ s.running)
      (he : s.emitter.step (.callbackReturned env) = some e) :
      PayloadEffect ffrtUsage s (.callbackReturned env worker)
        ({ s with emitter := e, running := s.running.erase (env, worker) }.dropData worker.data)

theorem payloadStep_cases {ffrtUsage : Bool} {s t : PayloadSys} {op : PayloadOp}
    (h : s.step ffrtUsage op = some t) : PayloadEffect ffrtUsage s op t := by
  cases op with
  | listeners op =>
    simp only [PayloadSys.step, Option.ite_none_right_eq_some, Option.map_eq_some_iff] at h
    obtain ⟨hop, e, he, rfl⟩ := h
    exact .listeners op e hop he
  | emit id hasData priority usable =>
    simp only [PayloadSys.step] at h
    split at h
    · rename_i hnone
      cases h
      exact .unheard id hasData priority usable hnone
    · rename_i hsome
      obtain ⟨e, he, rfl⟩ := Option.map_eq_some_iff.1 h
      exact .emit id hasData priority usable e hsome he
  | processEvent id data =>
    simp only [PayloadSys.step, Option.ite_none_right_eq_some, Option.map_eq_some_iff] at h
    obtain ⟨⟨hmem, hnone⟩, e, he, rfl⟩ := h
    exact .processEvent id data e hmem hnone he
  | callWorker info outcome collected =>
    simp only [PayloadSys.step] at h
    split at h
    · cases h
    · rename_i data hdata
      split at h
      · cases h
      · obtain ⟨e, he, h⟩ := Option.bind_eq_some_iff.1 h
        obtain ⟨e', he', rfl⟩ := Option.map_eq_some_iff.1 h
        exact .callWorker info outcome collected data e e' hdata he he'
  | processEnd =>
    simp only [PayloadSys.step] at h
    split at h
    · cases h
    · rename_i data hdata
      obtain ⟨hrounds, h⟩ := Option.ite_none_right_eq_some.1 h
      cases h
      exact .processEnd data hdata hrounds
  | threadSafeCallback worker scope deserialized =>
    simp only [PayloadSys.step, Option.ite_none_right_eq_some, Option.map_eq_some_iff] at h
    obtain ⟨hmem, e, he, rfl⟩ := h
    exact .threadSafeCallback worker scope deserialized e hmem he
  | callbackReturned env worker =>
    simp only [PayloadSys.step, Option.ite_none_right_eq_some, Option.map_eq_some_iff] at h
    obtain ⟨hmem, e, he, rfl⟩ := h
    exact .callbackReturned env worker e hmem he

/-! ## The owners of one piece of data -/

namespace PayloadSys

variable {ffrtUsage : Bool} {s t : PayloadSys}

/-- A waiting event owns its data alone; the dispatch and the workers share them. -/
def account (s : PayloadSys) (n : Nat) : Account where
  made := decide (n < s.serialized)
  waits := s.events.countP (fun e => e.2 == some n)
  shared := (if s.eventData = some (some n) then 1 else 0) +
    s.workers.countP (fun w => w.data == some n) + s.running.countP (fun r => r.2.data == some n)
  stuck := s.abandoned.countP (fun w => w.data == some n)
  released := s.released n

theorem useCount_eq (s : PayloadSys) (n : Nat) :
    s.useCount n = (s.account n).shared + (s.account n).stuck := rfl

/-- The data whose last pointer is destroyed without an environment for the deleter. -/
def forgets (s : PayloadSys) (data : Option Nat) : Option Nat :=
  data.filter fun n => decide (s.useCount n = 1 ∧ s.deleteEnv = none)

/-- The data that the step loses. -/
def lostData (ffrtUsage : Bool) (s : PayloadSys) : PayloadOp → Option Nat
  | .listeners _ => none
  | .emit id hasData priority usable =>
    if s.emitter.emitterInstances id ≠ [] ∧ hasData = true ∧
        queueTakes ffrtUsage usable priority = false then
      some s.serialized
    else none
  | .processEvent id data =>
    if ∀ info ∈ s.emitter.emitterInstances id, (s.emitter.infos info).valid = false then data else none
  | .callWorker info outcome _ =>
    if outcome = .refused ∧ (s.emitter.infos info).valid = true then s.eventData.join else none
  | .processEnd => s.forgets s.eventData.join
  | .threadSafeCallback worker scope deserialized =>
    if (s.emitter.infos worker.callbackInfo).isDeleted then s.forgets worker.data
    else if !scope then worker.data
    else if !deserialized then s.forgets worker.data
    else none
  | .callbackReturned _ worker => s.forgets worker.data

theorem forgets_eq_some {data : Option Nat} {n : Nat} :
    s.forgets data = some n ↔ data = some n ∧ s.useCount n = 1 ∧ s.deleteEnv = none := by
  unfold forgets
  rw [Option.filter_eq_some_iff, decide_eq_true_eq]

/-- What a step does to the account of `n`, when it is lost exactly under `loses`. -/
def Moves (s t : PayloadSys) (n : Nat) (loses : Prop) : Prop :=
  ∃ lost, Move (s.account n) lost (t.account n) ∧ (lost = true ↔ loses)

theorem Moves.kept {n : Nat} {loses : Prop} (h : t.account n = s.account n) (hl : ¬ loses) :
    s.Moves t n loses := by
  refine ⟨false, ?_, by simpa using hl⟩
  rw [h]
  exact .kept

theorem Moves.congr {n : Nat} {loses loses' : Prop} (h : s.Moves t n loses)
    (hl : loses' ↔ loses) : s.Moves t n loses' := by
  rw [show loses' = loses from propext hl]
  exact h

theorem Moves.found {n : Nat} {loses : Prop} (h : Move (s.account n) false (t.account n))
    (hl : ¬ loses) : s.Moves t n loses :=
  ⟨false, h, by simpa using hl⟩

theorem Moves.lost {n : Nat} {loses : Prop} (h : Move (s.account n) true (t.account n))
    (hl : loses) : s.Moves t n loses :=
  ⟨true, h, by simpa using hl⟩

theorem dropData_some (s : PayloadSys) (n : Nat) :
    s.dropData (some n) =
      if s.useCount n = 0 ∧ s.deleteEnv.isSome = true then
        { s with released := Function.update s.released n (s.released n + 1) }
      else s := rfl

theorem dropData_account (s : PayloadSys) (data : Option Nat) (n : Nat) :
    (s.dropData data).account n =
      if data = some n ∧ s.useCount n = 0 ∧ s.deleteEnv.isSome = true then
        { s.account n with released := s.released n + 1 }
      else s.account n := by
  cases data with
  | none => simp [dropData]
  | some m =>
    rw [dropData_some]
    by_cases hm : m = n
    · subst hm
      simp only [true_and]
      split
      · simp [account]
      · rfl
    · have hne : some m ≠ some n := by simpa using hm
      simp only [hne, false_and, if_false]
      split
      · simp [account, Function.update_of_ne (Ne.symm hm)]
      · rfl

/-- A pointer is destroyed: `s'` is the state without it. -/
theorem Moves.drop {s' : PayloadSys} {data : Option Nat} {n : Nat}
    (hkept : data ≠ some n → s'.account n = s.account n)
    (hpos : data = some n → 0 < (s.account n).shared)
    (hdrop : data = some n →
      s'.account n = { s.account n with shared := (s.account n).shared - 1 })
    (henv : s'.deleteEnv = s.deleteEnv) :
    s.Moves (s'.dropData data) n (s.forgets data = some n) := by
  rw [forgets_eq_some]
  by_cases hdata : data = some n
  · have hone := hpos hdata
    have hafter := hdrop hdata
    have hcount : s'.useCount n + 1 = s.useCount n := by
      rw [useCount_eq, useCount_eq, hafter]
      dsimp only
      omega
    have hrel : s'.released n = s.released n := congrArg Account.released hafter
    by_cases hlast : s.useCount n = 1
    · have hcounts : (s.account n).shared = 1 ∧ (s.account n).stuck = 0 := by
        rw [useCount_eq] at hlast
        omega
      cases hnone : s.deleteEnv with
      | none =>
        refine .lost ?_ ⟨hdata, hlast, rfl⟩
        rw [dropData_account, if_neg (by simp [henv, hnone]), hafter, hcounts.1]
        exact .forgotten hcounts.1 hcounts.2
      | some env =>
        refine .found ?_ (by simp)
        have hzero : s'.useCount n = 0 := by omega
        rw [dropData_account, if_pos ⟨hdata, hzero, by rw [henv, hnone]; rfl⟩, hafter, hrel,
          hcounts.1]
        exact .released hcounts.1 hcounts.2
    · refine .found ?_ (fun h => hlast h.2.1)
      rw [dropData_account, if_neg (by omega), hafter]
      exact .dropped hone (by rw [← useCount_eq]; exact hlast)
  · refine .kept ?_ (fun h => hdata h.1)
    rw [dropData_account, if_neg (fun h => hdata h.1)]
    exact hkept hdata

/-! ## The operations -/

/-- What is left of a count when one entry goes. -/
theorem countP_of_mem {α : Type} [BEq α] [LawfulBEq α] (p : α → Bool) {l : List α} {a : α}
    (h : a ∈ l) : l.countP p = (l.erase a).countP p + if p a = true then 1 else 0 := by
  rw [(List.perm_cons_erase h).countP_eq p, List.countP_cons]

theorem emit_moves {e : EmitterSys} {id : CompositeEventId} (n : Nat) (hasData taken : Bool) :
    s.Moves (s.emit e id hasData taken) n (hasData = true ∧ n = s.serialized ∧ taken = false) := by
  unfold emit
  cases hasData with
  | false =>
    refine .kept ?_ (by simp)
    cases taken <;> simp [account]
  | true =>
    by_cases hn : n = s.serialized
    · have hfresh : (s.account n).made = false := by simp [account, hn]
      cases taken with
      | false =>
        refine .lost ?_ ⟨rfl, hn, rfl⟩
        have hafter : ({ s with serialized := s.serialized + 1 } : PayloadSys).account n =
            { s.account n with made := true } := by simp [account, hn]
        simp only [if_true, Bool.false_eq_true, if_false, hafter]
        exact .unowned hfresh
      | true =>
        refine .found ?_ (by simp)
        have hafter : ({ s with
            serialized := s.serialized + 1, emitter := e,
            events := s.events ++ [(id, some s.serialized)] } : PayloadSys).account n =
            { s.account n with made := true, waits := (s.account n).waits + 1 } := by
          simp [account, hn]
        simp only [if_true, hafter]
        exact .made hfresh
    · refine .kept ?_ (fun h => hn h.2.1)
      have hlt : (n < s.serialized + 1) = (n < s.serialized) := by
        apply propext
        omega
      have hne : (s.serialized == n) = false := by
        rw [beq_eq_false_iff_ne]
        exact fun h => hn h.symm
      cases taken <;> simp [account, hlt, hne]

/-- The event leaves the queue, and its data are shared unless there is no listener. -/
theorem processEvent_moves {e : EmitterSys} {id : CompositeEventId} {data : Option Nat} (n : Nat)
    (hmem : (id, data) ∈ s.events) (hnone : s.eventData = none) :
    s.Moves (s.processEvent e id data) n (data = some n ∧ e.callbackInfos = []) := by
  have hcount := countP_of_mem (fun e : CompositeEventId × Option Nat => e.2 == some n) hmem
  by_cases hdata : data = some n
  · subst hdata
    rw [if_pos (by simp)] at hcount
    have hpos : 0 < (s.account n).waits := by
      simp only [account]
      omega
    by_cases he : e.callbackInfos = []
    · refine .lost ?_ ⟨rfl, he⟩
      have hafter : (s.processEvent e id (some n)).account n =
          { s.account n with waits := (s.account n).waits - 1 } := by
        simp [account, processEvent, hcount, he, hnone]
      rw [hafter]
      exact .abandoned hpos
    · refine .found ?_ (fun h => he h.2)
      have hafter : (s.processEvent e id (some n)).account n =
          { s.account n with
            waits := (s.account n).waits - 1, shared := (s.account n).shared + 1 } := by
        simp [account, processEvent, hcount, he, hnone]
        omega
      rw [hafter]
      exact .handed hpos
  · refine .kept ?_ (fun h => hdata h.1)
    rw [if_neg (by simp [hdata])] at hcount
    unfold processEvent
    split <;> simp [account, hcount, hnone, hdata]

theorem callWorker_moves {e : EmitterSys} {data : Option Nat} (n info : Nat)
    (outcome : WorkerOutcome) (collected : Bool) (hdata : s.eventData = some data) :
    s.Moves (s.callWorker e info data outcome collected) n
      (outcome = .refused ∧ (s.emitter.infos info).valid = true ∧ s.eventData = some (some n)) := by
  unfold callWorker
  cases outcome with
  | notAllocated => exact .kept rfl (by simp)
  | called =>
    refine .found ?_ (by simp)
    by_cases hvalid : (s.emitter.infos info).valid = true
    · simp only [hvalid, if_true]
      by_cases hn : data = some n
      · have hpos : 0 < (s.account n).shared := by simp [account, hdata, hn]
        have hafter : ({ s with
            emitter := e, deleteEnv := if collected then none else (s.emitter.infos info).env,
            workers := s.workers ++ [⟨info, data⟩] } : PayloadSys).account n =
            { s.account n with shared := (s.account n).shared + 1 } := by
          simp [account, hn]
          omega
        rw [hafter]
        exact .copied hpos
      · have hafter : ({ s with
            emitter := e, deleteEnv := if collected then none else (s.emitter.infos info).env,
            workers := s.workers ++ [⟨info, data⟩] } : PayloadSys).account n = s.account n := by
          simp [account, hn]
        rw [hafter]
        exact .kept
    · simp only [hvalid]
      exact .kept
  | refused =>
    by_cases hvalid : (s.emitter.infos info).valid = true
    · simp only [hvalid, if_true]
      by_cases hn : data = some n
      · have hpos : 0 < (s.account n).shared := by simp [account, hdata, hn]
        refine .lost ?_ ⟨trivial, trivial, by rw [hdata, hn]⟩
        have hafter : ({ s with
            emitter := e, deleteEnv := if collected then none else (s.emitter.infos info).env,
            abandoned := s.abandoned ++ [⟨info, data⟩] } : PayloadSys).account n =
            { s.account n with stuck := (s.account n).stuck + 1 } := by
          simp [account, hn]
        rw [hafter]
        exact .copiedStuck hpos
      · refine .kept (by simp [account, hn]) ?_
        rintro ⟨-, -, h⟩
        rw [hdata] at h
        exact hn (Option.some.inj h)
    · simp only [hvalid]
      exact .kept rfl (by simp)

theorem threadSafeCallback_moves {e : EmitterSys} {worker : EventDataWorker} (n : Nat)
    (scope deserialized : Bool) (hmem : worker ∈ s.workers) :
    s.Moves (s.threadSafeCallback e worker scope deserialized) n
      ((if (s.emitter.infos worker.callbackInfo).isDeleted then s.forgets worker.data
        else if !scope then worker.data
        else if !deserialized then s.forgets worker.data
        else none) = some n) := by
  have hcount := countP_of_mem (fun w : EventDataWorker => w.data == some n) hmem
  -- the worker is deleted
  have hdeleted : s.Moves
      (({ s with emitter := e, workers := s.workers.erase worker } : PayloadSys).dropData worker.data)
      n (s.forgets worker.data = some n) := by
    refine .drop (fun h => ?_) (fun h => ?_) (fun h => ?_) rfl
    · rw [if_neg (by simp [h])] at hcount
      simp [account, hcount]
    · rw [if_pos (by simp [h])] at hcount
      simp only [account]
      omega
    · rw [if_pos (by simp [h])] at hcount
      simp [account, hcount]
      omega
  unfold threadSafeCallback
  by_cases hdel : (s.emitter.infos worker.callbackInfo).isDeleted = true
  · simpa only [hdel, if_true] using hdeleted
  · simp only [hdel]
    by_cases hn : worker.data = some n
    · rw [if_pos (by simp [hn])] at hcount
      have hshared : 0 < (s.account n).shared := by
        simp only [account]
        omega
      cases scope with
      | false =>
        refine .lost ?_ (by simp [hn])
        have hafter : ({ s with
            emitter := e, workers := s.workers.erase worker,
            abandoned := s.abandoned ++ [worker] } : PayloadSys).account n =
            { s.account n with
              shared := (s.account n).shared - 1, stuck := (s.account n).stuck + 1 } := by
          simp [account, hcount, hn]
          omega
        simp only [Bool.false_eq_true, if_false, Bool.not_false, if_true, hafter]
        exact .getsStuck hshared
      | true =>
        cases deserialized with
        | false => simpa using hdeleted
        | true =>
          refine .kept ?_ (by simp)
          simp [account, hcount, hn]
          omega
    · rw [if_neg (by simp [hn])] at hcount
      cases scope with
      | false =>
        refine .kept ?_ (by simp [hn])
        simp [account, hcount, hn]
      | true =>
        cases deserialized with
        | false => simpa using hdeleted
        | true =>
          refine .kept ?_ (by simp)
          simp [account, hcount, hn]

/-- The loop of a dispatch has no round when no listener is valid. -/
theorem processEvent_callbackInfos {e e' : EmitterSys} {id : CompositeEventId}
    (h : e.step (.processEvent id) = some e') :
    e'.callbackInfos = [] ↔ ∀ info ∈ e.emitterInstances id, (e.infos info).valid = false := by
  simp only [EmitterSys.step, Option.ite_none_right_eq_some, Option.some.injEq] at h
  obtain ⟨-, rfl⟩ := h
  have hinfos : (e.processEvent id).callbackInfos =
      (e.emitterInstances id).filter fun info => (e.infos info).valid := by
    simp [EmitterSys.processEvent, EmitterSys.prune, EmitterSys.setInstances]
  rw [hinfos, List.filter_eq_nil_iff]
  simp

/-- **What a step does to each piece of data**; it loses the data that `lostData` names. -/
theorem payloadStep_moves {op : PayloadOp} (h : s.step ffrtUsage op = some t) (n : Nat) :
    s.Moves t n (s.lostData ffrtUsage op = some n) := by
  cases payloadStep_cases h with
  | listeners op e _ _ => exact .kept rfl (by simp [lostData])
  | unheard id hasData priority usable hnone => exact .kept rfl (by simp [lostData, hnone])
  | emit id hasData priority usable e hsome _ =>
    refine (emit_moves n hasData (queueTakes ffrtUsage usable priority)).congr ?_
    unfold lostData
    rw [Option.ite_none_right_eq_some, Option.some.injEq]
    constructor
    · rintro ⟨⟨-, hdata, hrefused⟩, rfl⟩
      exact ⟨hdata, rfl, hrefused⟩
    · rintro ⟨hdata, rfl, hrefused⟩
      exact ⟨⟨hsome, hdata, hrefused⟩, rfl⟩
  | processEvent id data e hmem hnone he =>
    refine (processEvent_moves n hmem hnone).congr ?_
    unfold lostData
    rw [Option.ite_none_right_eq_some, processEvent_callbackInfos he, and_comm]
  | callWorker info outcome collected data e e' hdata _ _ =>
    refine (callWorker_moves n info outcome collected hdata).congr ?_
    unfold lostData
    rw [Option.ite_none_right_eq_some, hdata, Option.join_some, and_assoc, Option.some.injEq]
  | processEnd data hdata _ =>
    unfold lostData
    rw [hdata, Option.join_some]
    refine .drop (fun hn => ?_) (fun hn => ?_) (fun hn => ?_) rfl
    · simp [account, hdata, hn]
    · simp [account, hdata, hn]
    · simp [account, hdata, hn]
      omega
  | threadSafeCallback worker scope deserialized e hmem _ =>
    exact threadSafeCallback_moves n scope deserialized hmem
  | callbackReturned env worker e hmem _ =>
    have hcount := countP_of_mem (fun r : Nat × EventDataWorker => r.2.data == some n) hmem
    refine .drop (fun hn => ?_) (fun hn => ?_) (fun hn => ?_) rfl
    · rw [if_neg (by simp [hn])] at hcount
      simp [account, hcount]
    · rw [if_pos (by simp [hn])] at hcount
      simp only [account]
      omega
    · rw [if_pos (by simp [hn])] at hcount
      simp [account, hcount]

/-! ## The data follow the emitter -/

theorem dropData_emitter (s : PayloadSys) (data : Option Nat) :
    (s.dropData data).emitter = s.emitter := by
  cases data with
  | none => rfl
  | some n =>
    rw [dropData_some]
    split <;> rfl

theorem callWorker_emitter (e : EmitterSys) (info : Nat) (data : Option Nat)
    (outcome : WorkerOutcome) (collected : Bool) :
    (s.callWorker e info data outcome collected).emitter = e := by
  unfold callWorker
  cases outcome with
  | notAllocated => rfl
  | called => cases (s.emitter.infos info).valid <;> rfl
  | refused => cases (s.emitter.infos info).valid <;> rfl

theorem threadSafeCallback_emitter (e : EmitterSys) (worker : EventDataWorker)
    (scope deserialized : Bool) :
    (s.threadSafeCallback e worker scope deserialized).emitter = e := by
  unfold threadSafeCallback
  dsimp only
  split
  · exact dropData_emitter _ _
  · split
    · rfl
    · split
      · exact dropData_emitter _ _
      · rfl

/-- The lists of the emitter and those with the data have the same entries. -/
structure InStep (s : PayloadSys) : Prop where
  events : s.emitter.pending.Perm (s.events.map Prod.fst)
  workers : s.emitter.workers.Perm (s.workers.map EventDataWorker.callbackInfo)
  running : ∀ env info, s.emitter.running env = some info ↔
    ∃ data, (env, EventDataWorker.mk info data) ∈ s.running
  threads : (s.running.map Prod.fst).Nodup
  dispatch : s.eventData = none → s.emitter.callbackInfos = []

/-- The operations on the listeners leave events, dispatch and workers alone. -/
theorem onListeners_keeps {e e' : EmitterSys} {op : EmitterOp} (hop : op.onListeners = true)
    (h : e.step op = some e') :
    e'.pending = e.pending ∧ e'.workers = e.workers ∧ e'.running = e.running ∧
      e'.callbackInfos = e.callbackInfos := by
  cases op <;> simp only [EmitterOp.onListeners, Bool.false_eq_true] at hop <;>
    simp only [EmitterSys.step, Option.ite_none_right_eq_some, Option.some.injEq] at h
  case onOrOnce env id callback once wrapped =>
    subst h
    unfold EmitterSys.onOrOnce
    split <;> exact ⟨rfl, rfl, rfl, rfl⟩
  case deleteCallbackInfo env id callback =>
    subst h
    unfold EmitterSys.deleteCallbackInfo
    split <;> exact ⟨rfl, rfl, rfl, rfl⟩
  case off id =>
    subst h
    exact ⟨rfl, rfl, rfl, rfl⟩
  case deleteEmitterInstance emitterId =>
    obtain ⟨-, rfl⟩ := h
    exact ⟨rfl, rfl, rfl, rfl⟩
  case finalize info =>
    obtain ⟨-, rfl⟩ := h
    exact ⟨rfl, rfl, rfl, rfl⟩
  case getListenerCount id =>
    subst h
    exact ⟨rfl, rfl, rfl, rfl⟩

theorem InStep.listeners {e : EmitterSys} {op : EmitterOp} (h : InStep s)
    (hop : op.onListeners = true) (he : s.emitter.step op = some e) :
    InStep { s with emitter := e } := by
  obtain ⟨hpending, hworkers, hrunning, hinfos⟩ := onListeners_keeps hop he
  refine ⟨?_, ?_, fun env info => ?_, h.threads, fun hnone => hinfos.trans (h.dispatch hnone)⟩
  · exact hpending ▸ h.events
  · exact hworkers ▸ h.workers
  · show e.running env = some info ↔ _
    rw [hrunning]
    exact h.running env info

theorem InStep.dropData (h : InStep s) (data : Option Nat) : InStep (s.dropData data) := by
  cases data with
  | none => exact h
  | some n =>
    rw [dropData_some]
    split
    · exact ⟨h.events, h.workers, h.running, h.threads, h.dispatch⟩
    · exact h

/-- An entry leaves both lists. -/
theorem perm_erase_map {α β : Type} [BEq α] [LawfulBEq α] [BEq β] [LawfulBEq β] {f : α → β}
    {l : List α} {m : List β} {a : α} (h : m.Perm (l.map f)) (ha : a ∈ l) :
    (m.erase (f a)).Perm ((l.erase a).map f) := by
  have hcons : (l.map f).Perm (f a :: (l.erase a).map f) := (List.perm_cons_erase ha).map f
  have herase := (h.trans hcons).erase (f a)
  rwa [List.erase_cons_head] at herase

theorem InStep.callWorker {e : EmitterSys} {info : Nat} {data : Option Nat}
    {outcome : WorkerOutcome} (collected : Bool) (h : InStep s) (hdata : s.eventData = some data)
    (hworkers : e.workers =
      if (s.emitter.infos info).valid && decide (outcome = .called) then s.emitter.workers ++ [info]
      else s.emitter.workers)
    (hpending : e.pending = s.emitter.pending) (hrunning : e.running = s.emitter.running) :
    InStep (s.callWorker e info data outcome collected) := by
  have hevents : e.pending.Perm (s.events.map Prod.fst) := hpending ▸ h.events
  have hrun : ∀ env info, e.running env = some info ↔
      ∃ data, (env, EventDataWorker.mk info data) ∈ s.running := by
    rw [hrunning]
    exact h.running
  have hsome : s.eventData = none → e.callbackInfos = [] := by
    rw [hdata]
    intro hnone
    cases hnone
  unfold PayloadSys.callWorker
  cases outcome with
  | notAllocated =>
    have hsame : e.workers = s.emitter.workers := by simpa using hworkers
    exact ⟨hevents, hsame ▸ h.workers, hrun, h.threads, hsome⟩
  | called =>
    by_cases hvalid : (s.emitter.infos info).valid = true
    · simp only [hvalid, if_true]
      have hmore : e.workers = s.emitter.workers ++ [info] := by simpa [hvalid] using hworkers
      refine ⟨hevents, ?_, hrun, h.threads, hsome⟩
      rw [hmore, List.map_append]
      exact h.workers.append_right [info]
    · simp only [hvalid]
      have hsame : e.workers = s.emitter.workers := by simpa [hvalid] using hworkers
      exact ⟨hevents, hsame ▸ h.workers, hrun, h.threads, hsome⟩
  | refused =>
    have hsame : e.workers = s.emitter.workers := by simpa using hworkers
    by_cases hvalid : (s.emitter.infos info).valid = true
    · simp only [hvalid, if_true]
      exact ⟨hevents, hsame ▸ h.workers, hrun, h.threads, hsome⟩
    · simp only [hvalid]
      exact ⟨hevents, hsame ▸ h.workers, hrun, h.threads, hsome⟩

theorem InStep.threadSafeCallback {e : EmitterSys} {worker : EventDataWorker}
    {scope deserialized : Bool} (h : InStep s) (hmem : worker ∈ s.workers)
    (he : s.emitter.step (.threadSafeCallback worker.callbackInfo (scope && deserialized)) = some e) :
    InStep (s.threadSafeCallback e worker scope deserialized) := by
  simp only [EmitterSys.step, Option.ite_none_right_eq_some, Option.some.injEq] at he
  obtain ⟨⟨-, hidle⟩, he⟩ := he
  have hworkers := perm_erase_map (f := EventDataWorker.callbackInfo) h.workers hmem
  -- the worker is not run
  have herased : InStep
      { s with
        emitter := { s.emitter with workers := s.emitter.workers.erase worker.callbackInfo }
        workers := s.workers.erase worker } :=
    ⟨h.events, hworkers, h.running, h.threads, h.dispatch⟩
  unfold EmitterSys.threadSafeCallback at he
  unfold PayloadSys.threadSafeCallback
  by_cases hdel : (s.emitter.infos worker.callbackInfo).isDeleted = true
  · rw [if_pos (by simp [hdel])] at he
    subst he
    simp only [hdel, if_true]
    exact herased.dropData worker.data
  · simp only [hdel, Bool.false_or] at he ⊢
    cases scope with
    | false =>
      rw [if_pos (by simp)] at he
      subst he
      exact ⟨h.events, hworkers, h.running, h.threads, h.dispatch⟩
    | true =>
      cases deserialized with
      | false =>
        rw [if_pos (by simp)] at he
        subst he
        exact herased.dropData worker.data
      | true =>
        rw [if_neg (by simp)] at he
        subst he
        have hfree : ∀ w, ((s.emitter.infos worker.callbackInfo).tsfn, w) ∉ s.running := by
          rintro ⟨info, data⟩ hw
          have hrun := (h.running _ info).2 ⟨data, hw⟩
          rw [hidle] at hrun
          cases hrun
        refine ⟨h.events, hworkers, fun env info => ?_, ?_, h.dispatch⟩
        · by_cases henv : env = (s.emitter.infos worker.callbackInfo).tsfn
          · subst henv
            simp only [Function.update_self, Option.some.injEq, Bool.false_eq_true, if_false,
              Bool.not_true, List.mem_append, List.mem_singleton, hfree, false_or]
            constructor
            · rintro rfl
              exact ⟨worker.data, rfl⟩
            · rintro ⟨data, hdata⟩
              simpa using (congrArg (fun r => r.2.callbackInfo) hdata).symm
          · simp only [Function.update_of_ne henv, Bool.false_eq_true, if_false, Bool.not_true,
              List.mem_append, List.mem_singleton, Prod.mk.injEq, henv, false_and, or_false]
            exact h.running env info
        · simp only [Bool.false_eq_true, if_false, Bool.not_true, List.map_append, List.map_cons,
            List.map_nil]
          refine List.nodup_append.2 ⟨h.threads, by simp, ?_⟩
          rintro env henv env' henv' rfl
          obtain ⟨⟨env'', w⟩, hw, rfl⟩ := List.mem_map.1 henv
          rw [List.mem_singleton] at henv'
          exact hfree w (henv' ▸ hw)

theorem InStep.callbackReturned {e : EmitterSys} {env : Nat} {worker : EventDataWorker}
    (h : InStep s) (hmem : (env, worker) ∈ s.running)
    (he : s.emitter.step (.callbackReturned env) = some e) :
    InStep { s with emitter := e, running := s.running.erase (env, worker) } := by
  simp only [EmitterSys.step] at he
  split at he
  · rename_i info hrun
    cases he
    have hlists : (s.emitter.callbackReturned env info).pending = s.emitter.pending ∧
        (s.emitter.callbackReturned env info).workers = s.emitter.workers ∧
        (s.emitter.callbackReturned env info).running =
          Function.update s.emitter.running env none ∧
        (s.emitter.callbackReturned env info).callbackInfos = s.emitter.callbackInfos := by
      unfold EmitterSys.callbackReturned
      split <;> exact ⟨rfl, rfl, rfl, rfl⟩
    obtain ⟨hpending, hworkers, hrunning, hinfos⟩ := hlists
    have hperm : (s.running.map Prod.fst).Perm
        (env :: (s.running.erase (env, worker)).map Prod.fst) :=
      (List.perm_cons_erase hmem).map Prod.fst
    obtain ⟨hgone, hrest⟩ := List.nodup_cons.1 (hperm.nodup_iff.1 h.threads)
    refine ⟨hpending ▸ h.events, hworkers ▸ h.workers, fun env' info' => ?_, hrest,
      fun hnone => hinfos.trans (h.dispatch hnone)⟩
    simp only [hrunning]
    by_cases henv : env' = env
    · subst henv
      simp only [Function.update_self, reduceCtorEq, false_iff, not_exists]
      intro data hdata
      exact hgone (List.mem_map.2 ⟨_, hdata, rfl⟩)
    · rw [Function.update_of_ne henv, h.running env' info']
      refine exists_congr fun data => (List.mem_erase_of_ne ?_).symm
      intro heq
      exact henv (congrArg Prod.fst heq)
  · cases he

theorem InStep.step {op : PayloadOp} (h : InStep s) (hst : s.step ffrtUsage op = some t) :
    InStep t := by
  cases payloadStep_cases hst with
  | listeners op e hop he => exact h.listeners hop he
  | unheard _ _ _ _ _ => exact h
  | emit id hasData priority usable e hsome he =>
    simp only [EmitterSys.step, hsome, if_false, Option.some.injEq] at he
    subst he
    unfold PayloadSys.emit
    cases queueTakes ffrtUsage usable priority with
    | false => cases hasData <;> exact ⟨h.events, h.workers, h.running, h.threads, h.dispatch⟩
    | true =>
      have hmore : ∀ data : Option Nat, (s.emitter.pending ++ [id]).Perm
          ((s.events ++ [(id, data)]).map Prod.fst) := by
        intro data
        rw [List.map_append]
        exact h.events.append_right [id]
      cases hasData <;> exact ⟨hmore _, h.workers, h.running, h.threads, h.dispatch⟩
  | processEvent id data e hmem hnone he =>
    simp only [EmitterSys.step, Option.ite_none_right_eq_some, Option.some.injEq] at he
    obtain ⟨-, rfl⟩ := he
    have hevents : (s.emitter.pending.erase id).Perm ((s.events.erase (id, data)).map Prod.fst) :=
      perm_erase_map h.events hmem
    refine ⟨hevents, h.workers, h.running, h.threads, ?_⟩
    intro hend
    simpa [PayloadSys.processEvent] using hend
  | callWorker info outcome collected data e e' hdata he he' =>
    simp only [EmitterSys.step, Option.ite_none_right_eq_some, Option.some.injEq] at he
    obtain ⟨-, rfl⟩ := he
    have hkeeps : e'.pending = s.emitter.pending ∧
        e'.workers =
          (s.emitter.callWorker info (decide (outcome = WorkerOutcome.called))).workers ∧
        e'.running = s.emitter.running := by
      cases collected with
      | false =>
        cases he'
        exact ⟨rfl, rfl, rfl⟩
      | true =>
        rw [if_pos rfl] at he'
        obtain ⟨hpending, hworkers, hrunning, -⟩ := onListeners_keeps rfl he'
        exact ⟨hpending, hworkers, hrunning⟩
    exact h.callWorker collected hdata hkeeps.2.1 hkeeps.1 hkeeps.2.2
  | processEnd data hdata hrounds =>
    have hended : InStep { s with eventData := none } :=
      ⟨h.events, h.workers, h.running, h.threads, fun _ => hrounds⟩
    exact hended.dropData data
  | threadSafeCallback worker scope deserialized e hmem he => exact h.threadSafeCallback hmem he
  | callbackReturned env worker e hmem he => exact (h.callbackReturned hmem he).dropData worker.data

/-- The operations of the dispatch and of the workers. -/
def delivers : PayloadOp → Bool
  | .listeners _ => false
  | .emit .. => false
  | _ => true

theorem dispatch_moves {data : Option Nat} (hdata : s.eventData = some data) :
    ∃ op t, delivers op = true ∧ s.step ffrtUsage op = some t := by
  cases hinfos : s.emitter.callbackInfos with
  | nil => exact ⟨.processEnd, _, rfl, by simp [PayloadSys.step, hdata, hinfos]; rfl⟩
  | cons info rest =>
    exact ⟨.callWorker info .called false, _, rfl,
      by simp [PayloadSys.step, EmitterSys.step, hdata, hinfos]; rfl⟩

theorem InStep.running_moves {env : Nat} {worker : EventDataWorker} (h : InStep s)
    (hmem : (env, worker) ∈ s.running) :
    ∃ op t, delivers op = true ∧ s.step ffrtUsage op = some t := by
  have hrun := (h.running env worker.callbackInfo).2 ⟨worker.data, hmem⟩
  exact ⟨.callbackReturned env worker, _, rfl,
    by simp [PayloadSys.step, EmitterSys.step, hmem, hrun]; rfl⟩

/-- **While data have an owner that will drop them, the dispatch or a worker can move.** -/
theorem InStep.owner_moves {n : Nat} (h : InStep s)
    (hn : 0 < (s.account n).waits + (s.account n).shared) :
    ∃ op t, delivers op = true ∧ s.step ffrtUsage op = some t := by
  cases hdata : s.eventData with
  | some data => exact dispatch_moves hdata
  | none =>
    have howner : 0 < s.events.countP (fun e => e.2 == some n) ∨
        0 < s.workers.countP (fun w => w.data == some n) ∨
        0 < s.running.countP (fun r => r.2.data == some n) := by
      simp only [account, hdata, reduceCtorEq, if_false] at hn
      omega
    rcases howner with hwaits | hworker | hrunning
    · obtain ⟨⟨id, data⟩, hmem, -⟩ := List.countP_pos_iff.1 hwaits
      have hpending : id ∈ s.emitter.pending :=
        h.events.mem_iff.2 (List.mem_map.2 ⟨_, hmem, rfl⟩)
      exact ⟨.processEvent id data, _, rfl,
        by simp [PayloadSys.step, EmitterSys.step, hmem, hdata, hpending, h.dispatch hdata]; rfl⟩
    · obtain ⟨worker, hmem, -⟩ := List.countP_pos_iff.1 hworker
      have hqueued : worker.callbackInfo ∈ s.emitter.workers :=
        h.workers.mem_iff.2 (List.mem_map.2 ⟨_, hmem, rfl⟩)
      cases hrun : s.emitter.running (s.emitter.infos worker.callbackInfo).tsfn with
      | none =>
        exact ⟨.threadSafeCallback worker true true, _, rfl,
          by simp [PayloadSys.step, EmitterSys.step, hmem, hqueued, hrun]; rfl⟩
      | some info =>
        obtain ⟨data, hother⟩ := (h.running _ info).1 hrun
        exact h.running_moves hother
    · obtain ⟨⟨env, worker⟩, hmem, -⟩ := List.countP_pos_iff.1 hrunning
      exact h.running_moves hmem

end PayloadSys

/-! ## Runs -/

section

variable {ffrtUsage : Bool} {s t : PayloadSys}

theorem reachable_inStep {ok : PayloadSys → PayloadOp → Prop}
    (h : (payloadSystem ffrtUsage).Reachable ok s) : s.InStep := by
  apply h.invariant (I := PayloadSys.InStep)
  · refine ⟨.nil, .nil, fun env info => ?_, .nil, fun _ => rfl⟩
    simp [payloadSystem, emitterSystem]
  · exact fun s op t hs _ hst => hs.step hst

/-- **Without its data, a step is none, one or two steps of the emitter.** -/
theorem payload_simulates (ffrtUsage : Bool) :
    System.Simulation (payloadSystem ffrtUsage) System.always emitterSystem System.always
      PayloadSys.emitter where
  init := rfl
  step s op t _ _ hst := by
    have hrun : ∀ {e e' : EmitterSys} {op : EmitterOp}, e.step op = some e' →
        emitterSystem.Run System.always e [op] e' := fun he => .one trivial he
    have hone : ∀ {op : EmitterOp} {e : EmitterSys}, s.emitter.step op = some e →
        ∃ ops, emitterSystem.Run System.always s.emitter ops e := fun he => ⟨_, hrun he⟩
    cases payloadStep_cases hst with
    | listeners op e _ he => exact hone he
    | unheard _ _ _ _ _ => exact ⟨[], .nil _⟩
    | emit id hasData priority usable e _ he =>
      unfold PayloadSys.emit
      cases queueTakes ffrtUsage usable priority with
      | false => cases hasData <;> exact ⟨[], .nil _⟩
      | true => cases hasData <;> exact hone he
    | processEvent id data e _ _ he => exact hone he
    | callWorker info outcome collected data e e' _ he he' =>
      rw [PayloadSys.callWorker_emitter]
      cases collected with
      | false =>
        cases he'
        exact hone he
      | true =>
        rw [if_pos rfl] at he'
        exact ⟨_, (hrun he).append (hrun he')⟩
    | processEnd data _ _ =>
      rw [PayloadSys.dropData_emitter]
      exact ⟨[], .nil _⟩
    | threadSafeCallback worker scope deserialized e _ he =>
      rw [PayloadSys.threadSafeCallback_emitter]
      exact hone he
    | callbackReturned env worker e _ he =>
      rw [PayloadSys.dropData_emitter]
      exact hone he

/-- In every reachable state the data of an event are released at most once, and never while an event,
    a dispatch or a worker has them. -/
theorem reachable_sound {ok : PayloadSys → PayloadOp → Prop}
    (h : (payloadSystem ffrtUsage).Reachable ok s) (n : Nat) : Sound (s.account n) := by
  apply h.invariant (I := fun s => Sound (s.account n))
  · exact Sound.unmade
  · intro s op t hs _ hst
    obtain ⟨lost, hm, -⟩ := PayloadSys.payloadStep_moves hst n
    exact hs.move hm

/-- No step of the run loses data. -/
def losesNothing (ffrtUsage : Bool) (s : PayloadSys) (op : PayloadOp) : Prop :=
  s.lostData ffrtUsage op = none

instance (s : PayloadSys) (op : PayloadOp) : Decidable (losesNothing ffrtUsage s op) :=
  inferInstanceAs (Decidable (_ = _))

/-- Every piece of data is owned and not released, or released exactly once and no longer owned. -/
def PayloadsSettled (s : PayloadSys) : Prop := ∀ n, Settled (s.account n)

theorem payloadsSettled_step_iff (hs : ∀ n, Sound (s.account n)) (h : PayloadsSettled s)
    {op : PayloadOp} (hst : s.step ffrtUsage op = some t) :
    PayloadsSettled t ↔ losesNothing ffrtUsage s op := by
  unfold losesNothing
  rw [Option.eq_none_iff_forall_ne_some]
  refine forall_congr' fun n => ?_
  obtain ⟨lost, hm, hlost⟩ := PayloadSys.payloadStep_moves hst n
  rw [settled_iff (hs n) (h n) hm, ne_eq, ← hlost, Bool.not_eq_true]

theorem reachable_settled (h : (payloadSystem ffrtUsage).Reachable (losesNothing ffrtUsage) s) :
    PayloadsSettled s := by
  have hboth : (∀ n, Sound (s.account n)) ∧ PayloadsSettled s := by
    apply h.invariant (I := fun s => (∀ n, Sound (s.account n)) ∧ PayloadsSettled s)
    · exact ⟨fun _ => Sound.unmade, fun _ => Settled.unmade⟩
    · intro s op t hs hok hst
      refine ⟨fun n => ?_, (payloadsSettled_step_iff hs.1 hs.2 hst).2 hok⟩
      obtain ⟨lost, hm, -⟩ := PayloadSys.payloadStep_moves hst n
      exact (hs.1 n).move hm
  exact hboth.2

/-- **In every run that loses nothing, every piece of data is released exactly once, when nothing owns
    it any more; and a step from such a state loses data exactly under the condition.**  In any run
    no data are released twice, or while an event, a dispatch or a worker has them; and while they
    have an owner that will drop them, the dispatch or a worker can move. -/
theorem payloads_settled_iff (ffrtUsage : Bool) {s : PayloadSys}
    (hs : (payloadSystem ffrtUsage).Reachable System.always s) :
    ((payloadSystem ffrtUsage).Reachable (losesNothing ffrtUsage) s → PayloadsSettled s) ∧
    (PayloadsSettled s → ∀ op t, s.step ffrtUsage op = some t →
      (PayloadsSettled t ↔ losesNothing ffrtUsage s op)) ∧
    (∀ n, Sound (s.account n)) ∧
    (∀ n, 0 < (s.account n).waits + (s.account n).shared →
      ∃ op t, PayloadSys.delivers op = true ∧ s.step ffrtUsage op = some t) :=
  ⟨reachable_settled,
    fun hset _ _ hst => payloadsSettled_step_iff (reachable_sound hs) hset hst,
    reachable_sound hs,
    fun _ hn => (reachable_inStep hs).owner_moves hn⟩

end

/-- A listener on event 5, and an event with data for it. -/
def emitToListener : List PayloadOp :=
  [.listeners (.onOrOnce 1 ⟨.u32 5, 0⟩ 9 false true), .emit ⟨.u32 5, 0⟩ true .LOW true]

/-- The data are released when the callback of the listener has returned. -/
theorem payloads_settled_iff_delivered : ∃ s : PayloadSys,
    (s.serialized = 1 ∧ s.released 0 = 1) ∧ PayloadsSettled s := by
  obtain ⟨s, hrun, hs⟩ := System.run_of_exec (payloadSystem true) (losesNothing true)
    (fun s => s.serialized = 1 ∧ s.released 0 = 1)
    (emitToListener ++
      [.processEvent ⟨.u32 5, 0⟩ (some 0), .callWorker 0 .called false, .processEnd,
        .threadSafeCallback ⟨0, some 0⟩ true true, .callbackReturned 1 ⟨0, some 0⟩]) (by decide)
  have hreach : (payloadSystem true).Reachable (losesNothing true) s := ⟨_, hrun⟩
  exact ⟨s, hs, (payloads_settled_iff true (hreach.mono fun _ _ _ => trivial)).1 hreach⟩

/-- The listener is taken away between the emit and the dispatch. -/
theorem payload_lost : ¬ ∀ s : PayloadSys, (payloadSystem true).Reachable System.always s →
    PayloadsSettled s := by
  intro h
  obtain ⟨s, hrun, hs⟩ := System.run_of_exec (payloadSystem true) System.always
    (fun s => s.account 0 = { made := true, waits := 0, shared := 0, stuck := 0, released := 0 })
    (emitToListener ++ [.listeners (.off ⟨.u32 5, 0⟩), .processEvent ⟨.u32 5, 0⟩ (some 0)])
    (by decide)
  have hset := h s ⟨_, hrun⟩ 0
  rw [hs] at hset
  exact absurd (hset rfl) (by decide)

end AppExecFwk
