import EventHandler.PriorityIndex

/-!
# Nested `DistributeEvent` calls of one thread

A callback that runs in `DistributeEvent` may call `SendSyncEvent`, which distributes the event on
the same thread when the handler's runner is the current one (or, in an FFRT task, an FFRT runner).

* `SyncSend` is one such call with what it reads and with the calls its own callback makes: a
  nesting is a tree of them.  `sendSyncEvent` is the decision of the source.
* `distributeBegin` and `distributeEnd` are `DistributeEvent` before and behind the callback.  It
  writes `currentEventHandler`, `currentEventPriority` and the trace id, and restores the last.
* `distributeCalls` yields what every inner call left on the thread beside what it found.
-/

set_option autoImplicit false

namespace AppExecFwk

inductive ThreadMode where
  | NEW_THREAD
  | FFRT
  deriving DecidableEq, Repr

/-- An `EventRunner`, as `SendSyncEvent` compares it. -/
structure RunnerRef where
  object : Nat
  threadMode : ThreadMode
  deriving DecidableEq, Repr

/-- The trace chain of a thread, which the tracing library keeps: `GetId` returns what `SetId` set
    last, an id without effect behind `ClearId`, and one such id only. -/
structure HiTraceChain (Chain Id : Type) where
  getId : Chain → Id
  setId : Id → Chain → Chain
  clearId : Chain → Chain
  isValid : Id → Bool
  /-- `IsFlagEnabled(HITRACE_FLAG_INCLUDE_ASYNC)`. -/
  includesAsync : Id → Bool
  noId : Id
  getId_setId : ∀ id c, isValid id = true → getId (setId id c) = id
  getId_clearId : ∀ c, getId (clearId c) = noId
  getId_invalid : ∀ c, isValid (getId c) = false → getId c = noId

structure TracedEvent (Id : Type) extends InnerEvent where
  hiTraceId : Option Id := none
  hasWaiter : Bool := false

/-- What one call of `SendSyncEvent` reads beside its event: `eventRunner_`, `IsRunning`,
    `EventRunner::Current()` and its last argument. -/
structure SendSite where
  eventRunner : Option RunnerRef
  isRunning : Bool := true
  currentRunner : Option RunnerRef
  sameRunnerOnly : Bool := false
  deriving DecidableEq, Repr

/-- The condition of `SendSyncEvent` for distributing here. -/
def SendSite.distributesHere (inFfrtTask : Bool) (s : SendSite) : Bool :=
  match s.eventRunner with
  | none => false
  | some runner =>
    s.isRunning &&
      (if s.sameRunnerOnly then decide (s.currentRunner = some runner)
       else (inFfrtTask && decide (runner.threadMode = .FFRT)) ||
         decide (s.currentRunner = some runner))

/-- A call of `SendSyncEvent` on `handler`, the handlers that have no owner left when its
    `DistributeEvent` is called and when it returns, and the calls that the callback makes. -/
inductive SyncSend (Id : Type) where
  | mk (handler : Nat) (event : Option (TracedEvent Id)) (priority : Priority) (site : SendSite)
      (expiredBefore expiredAfter : List Nat) (body : List (SyncSend Id))

/-- `SendSyncEvent`, up to `DistributeEvent`: the event that it distributes on this thread. -/
def sendSyncEvent {Id : Type} (inFfrtTask : Bool) (event : Option (TracedEvent Id))
    (priority : Priority) (site : SendSite) : Option (TracedEvent Id) :=
  match event with
  | none => none
  | some event =>
    if priority = .IDLE then none
    else if site.distributesHere inFfrtTask then some event else none

/-- The thread's state that `DistributeEvent` writes; `currentEventHandler` is a weak reference. -/
structure ThreadLocals (Chain : Type) where
  currentEventHandler : Option Nat := none
  currentEventPriority : Int := -1
  chain : Chain

/-- What callers see of it. -/
structure DispatchView (Id : Type) where
  current : Option Nat
  currentEventPriority : Int
  traceId : Id
  deriving DecidableEq, Repr

/-- One inner call: the thread before it and behind it, and the priority of the event whose callback
    made it. -/
structure InnerReturn (Id : Type) where
  before : DispatchView Id
  after : DispatchView Id
  outerPriority : Int
  deriving DecidableEq, Repr

/-- The call restored `Current()` and `GetCurrentEventPriority()`, and `HasPendingHigherEvent` without
    arguments judges by the outer event's priority. -/
def InnerReturn.Restored {Id : Type} (r : InnerReturn Id) : Prop :=
  r.after.current = r.before.current ∧
    r.after.currentEventPriority = r.before.currentEventPriority ∧
    pendingPriority r.after.currentEventPriority (-1) = r.outerPriority

instance {Id : Type} (r : InnerReturn Id) : Decidable r.Restored :=
  inferInstanceAs (Decidable (_ ∧ _ ∧ _))

section

variable {Chain Id : Type} (H : HiTraceChain Chain Id)

/-- `AllowHiTraceOutPut`. -/
def HiTraceChain.allowHiTraceOutPut (traceId : Option Id) (isSyncEvent : Bool) : Bool :=
  match traceId with
  | none => false
  | some traceId =>
    if !H.isValid traceId then false
    else if !isSyncEvent && !H.includesAsync traceId then false
    else true

/-- `EventHandler::Current`; `ffrtTask` is the handler of the current FFRT queue when an FFRT task
    runs. -/
def ThreadLocals.current (ffrtTask : Option (Option Nat)) (expired : List Nat)
    (t : ThreadLocals Chain) : Option Nat :=
  match ffrtTask with
  | some handler => handler
  | none => t.currentEventHandler.filter (fun h => decide (h ∉ expired))

def ThreadLocals.view (ffrtTask : Option (Option Nat)) (expired : List Nat)
    (t : ThreadLocals Chain) : DispatchView Id :=
  ⟨t.current ffrtTask expired, t.currentEventPriority, H.getId t.chain⟩

/-- `DistributeEvent` up to the callback. -/
def distributeBegin (this : Nat) (event : TracedEvent Id) (t : ThreadLocals Chain) :
    ThreadLocals Chain :=
  let t := { t with currentEventHandler := some this }
  let t :=
    match event.hiTraceId with
    | some spanId =>
      if H.allowHiTraceOutPut event.hiTraceId event.hasWaiter then
        { t with chain := H.setId spanId t.chain }
      else t
    | none => t
  { t with currentEventPriority := event.priority }

/-- `DistributeEvent` behind the callback; `traceId` is the id it read on entry. -/
def distributeEnd (event : TracedEvent Id) (traceId : Id) (t : ThreadLocals Chain) :
    ThreadLocals Chain :=
  if H.allowHiTraceOutPut event.hiTraceId event.hasWaiter then
    let t := { t with chain := H.clearId t.chain }
    if H.isValid traceId then { t with chain := H.setId traceId t.chain } else t
  else t

mutual

/-- One call of `SendSyncEvent` by the callback of an event of priority `outerPriority`. -/
def runCall (ffrtTask : Option (Option Nat)) (outerPriority : Int) :
    SyncSend Id → ThreadLocals Chain → ThreadLocals Chain × List (InnerReturn Id)
  | .mk this event priority site expiredBefore expiredAfter body, t =>
    match sendSyncEvent ffrtTask.isSome event priority site with
    | none => (t, [])
    | some event =>
      let inner := distributeCalls ffrtTask event.priority body (distributeBegin H this event t)
      let after := distributeEnd H event (H.getId t.chain) inner.1
      (after, inner.2 ++
        [⟨t.view H ffrtTask expiredBefore, after.view H ffrtTask expiredAfter, outerPriority⟩])

/-- The calls that a callback makes, in order. -/
def distributeCalls (ffrtTask : Option (Option Nat)) (outerPriority : Int) :
    List (SyncSend Id) → ThreadLocals Chain → ThreadLocals Chain × List (InnerReturn Id)
  | [], t => (t, [])
  | call :: rest, t =>
    let first := runCall ffrtTask outerPriority call t
    let others := distributeCalls ffrtTask outerPriority rest first.1
    (others.1, first.2 ++ others.2)

end

/-- `DistributeEvent` of `this` with a callback that makes the calls of `body`, and what the calls
    inside it leave. -/
def distributeEvent (ffrtTask : Option (Option Nat)) (this : Nat) (event : TracedEvent Id)
    (body : List (SyncSend Id)) (t : ThreadLocals Chain) :
    ThreadLocals Chain × List (InnerReturn Id) :=
  let inner := distributeCalls H ffrtTask event.priority body (distributeBegin H this event t)
  (distributeEnd H event (H.getId t.chain) inner.1, inner.2)

/-! ## One call -/

/-- The thread shows `outer` and the priority of its event. -/
def Shows (ffrtTask : Option (Option Nat)) (outer : Nat) (outerPriority : Int)
    (t : ThreadLocals Chain) : Prop :=
  t.currentEventPriority = outerPriority ∧
    (ffrtTask.isSome = true ∨ t.currentEventHandler = some outer)

variable {H} {ffrtTask : Option (Option Nat)}

@[simp] theorem distributeBegin_handler (this : Nat) (event : TracedEvent Id)
    (t : ThreadLocals Chain) :
    (distributeBegin H this event t).currentEventHandler = some this := by
  unfold distributeBegin
  cases event.hiTraceId with
  | none => rfl
  | some spanId => by_cases h : H.allowHiTraceOutPut (some spanId) event.hasWaiter <;> simp [h]

/-- Without the permission to trace, the chain is left alone. -/
theorem distributeBegin_chain {this : Nat} {event : TracedEvent Id} {t : ThreadLocals Chain}
    (h : H.allowHiTraceOutPut event.hiTraceId event.hasWaiter = false) :
    (distributeBegin H this event t).chain = t.chain := by
  unfold distributeBegin
  cases hid : event.hiTraceId with
  | none => rfl
  | some spanId =>
    rw [hid] at h
    simp [h]

@[simp] theorem distributeEnd_handler (event : TracedEvent Id) (traceId : Id)
    (t : ThreadLocals Chain) :
    (distributeEnd H event traceId t).currentEventHandler = t.currentEventHandler := by
  unfold distributeEnd
  split
  · split <;> rfl
  · rfl

@[simp] theorem distributeEnd_priority (event : TracedEvent Id) (traceId : Id)
    (t : ThreadLocals Chain) :
    (distributeEnd H event traceId t).currentEventPriority = t.currentEventPriority := by
  unfold distributeEnd
  split
  · split <;> rfl
  · rfl

/-- **The trace id is restored**: behind the callback the thread has the id read on entry, if the
    callback left the chain as it found it. -/
theorem distributeEnd_traceId {this : Nat} {event : TracedEvent Id} {t inner : ThreadLocals Chain}
    (h : H.getId inner.chain = H.getId (distributeBegin H this event t).chain) :
    H.getId (distributeEnd H event (H.getId t.chain) inner).chain = H.getId t.chain := by
  unfold distributeEnd
  by_cases hallow : H.allowHiTraceOutPut event.hiTraceId event.hasWaiter = true
  · rw [if_pos hallow]
    by_cases hvalid : H.isValid (H.getId t.chain) = true
    · rw [if_pos hvalid]
      exact H.getId_setId _ _ hvalid
    · rw [if_neg hvalid]
      have hnone := H.getId_invalid t.chain (Bool.eq_false_iff.2 hvalid)
      rw [hnone]
      exact H.getId_clearId _
  · rw [if_neg hallow, h, distributeBegin_chain (Bool.eq_false_iff.2 hallow)]

theorem shows_distributeBegin (this : Nat) (event : TracedEvent Id) (t : ThreadLocals Chain) :
    Shows ffrtTask this event.priority (distributeBegin H this event t) :=
  ⟨rfl, Or.inr (distributeBegin_handler this event t)⟩

theorem Shows.distributeEnd {this : Nat} {p : Int} {t : ThreadLocals Chain}
    (h : Shows ffrtTask this p t) (event : TracedEvent Id) (traceId : Id) :
    Shows ffrtTask this p (distributeEnd H event traceId t) := by
  unfold Shows
  rw [distributeEnd_priority, distributeEnd_handler]
  exact h

/-- What `Current()` returns while the handler that the thread shows has an owner. -/
theorem Shows.current {outer : Nat} {p : Int} {t : ThreadLocals Chain}
    (h : Shows ffrtTask outer p t) {expired : List Nat} (hlive : outer ∉ expired) :
    t.current ffrtTask expired = (ffrtTask.getD (some outer)) := by
  unfold ThreadLocals.current
  cases ffrtTask with
  | some handler => rfl
  | none =>
    have houter : t.currentEventHandler = some outer := by simpa using h.2
    rw [houter]
    simp [hlive]

/-- **A call that is behind its callback restored the thread's state exactly if it went to the handler
    it was called from, or in an FFRT task, with an event of the same priority.** -/
theorem restored_iff {outer this : Nat} {outerPriority p : Int} {t after : ThreadLocals Chain}
    {before' after' : List Nat} (ht : Shows ffrtTask outer outerPriority t)
    (hafter : Shows ffrtTask this p after) (houter : outer ∉ before') (hthis : this ∉ after') :
    (InnerReturn.mk (t.view H ffrtTask before') (after.view H ffrtTask after')
        outerPriority).Restored ↔
      (ffrtTask.isSome = true ∨ this = outer) ∧ p = outerPriority := by
  have hjudged : ∀ current : Int, pendingPriority current (-1) = current := fun _ => rfl
  unfold InnerReturn.Restored ThreadLocals.view
  rw [hafter.current hthis, ht.current houter, hafter.1, ht.1, hjudged]
  cases ffrtTask with
  | some handler => simp
  | none => simp

/-! ## Any nesting -/

mutual

/-- Every handler whose `DistributeEvent` runs has an owner: the runner or the caller holds it. -/
def CallHeld (ffrtTask : Option (Option Nat)) (running : List Nat) : SyncSend Id → Prop
  | .mk this event priority site expiredBefore expiredAfter body =>
    match sendSyncEvent ffrtTask.isSome event priority site with
    | none => True
    | some _ =>
      (∀ h ∈ this :: running, h ∉ expiredBefore ∧ h ∉ expiredAfter) ∧
        CallsHeld ffrtTask (this :: running) body

def CallsHeld (ffrtTask : Option (Option Nat)) (running : List Nat) : List (SyncSend Id) → Prop
  | [] => True
  | call :: rest => CallHeld ffrtTask running call ∧ CallsHeld ffrtTask running rest

end

mutual

/-- Every call that is distributed here, at any depth, goes to the handler that makes it, or the
    thread is in an FFRT task, and its event has the priority of the event that is being handled. -/
def CallStays (ffrtTask : Option (Option Nat)) (outer : Nat) (outerPriority : Int) :
    SyncSend Id → Prop
  | .mk this event priority site _ _ body =>
    match sendSyncEvent ffrtTask.isSome event priority site with
    | none => True
    | some event =>
      ((ffrtTask.isSome = true ∨ this = outer) ∧ event.priority = outerPriority) ∧
        CallsStay ffrtTask this event.priority body

def CallsStay (ffrtTask : Option (Option Nat)) (outer : Nat) (outerPriority : Int) :
    List (SyncSend Id) → Prop
  | [] => True
  | call :: rest =>
    CallStays ffrtTask outer outerPriority call ∧ CallsStay ffrtTask outer outerPriority rest

end

/-- What a list of calls, or one, leaves: everything is restored exactly if `stays`, and then the
    thread shows the same handler. -/
def Leaves (ffrtTask : Option (Option Nat)) (outer : Nat) (outerPriority : Int) (stays : Prop)
    (result : ThreadLocals Chain × List (InnerReturn Id)) : Prop :=
  ((∀ r ∈ result.2, r.Restored) ↔ stays) ∧ (stays → Shows ffrtTask outer outerPriority result.1)

/-- `DistributeEvent` inside a callback, for what its own callback leaves. -/
theorem Leaves.call {outer this : Nat} {outerPriority : Int} {event : TracedEvent Id}
    {t : ThreadLocals Chain} {before' after' : List Nat} {stays : Prop}
    {inner : ThreadLocals Chain × List (InnerReturn Id)} (traceId : Id)
    (hinner : Leaves ffrtTask this event.priority stays inner)
    (ht : Shows ffrtTask outer outerPriority t) (houter : outer ∉ before') (hthis : this ∉ after') :
    Leaves ffrtTask outer outerPriority
      (((ffrtTask.isSome = true ∨ this = outer) ∧ event.priority = outerPriority) ∧ stays)
      (distributeEnd H event traceId inner.1, inner.2 ++
        [⟨t.view H ffrtTask before',
          (distributeEnd H event traceId inner.1).view H ffrtTask after', outerPriority⟩]) := by
  obtain ⟨hiff, hshows⟩ := hinner
  refine ⟨?_, ?_⟩
  · rw [List.forall_mem_append, hiff, List.forall_mem_singleton, and_comm]
    constructor
    · rintro ⟨hlast, hstays⟩
      have hafter := (hshows hstays).distributeEnd (H := H) event traceId
      exact ⟨(restored_iff ht hafter houter hthis).1 hlast, hstays⟩
    · rintro ⟨hsame, hstays⟩
      have hafter := (hshows hstays).distributeEnd (H := H) event traceId
      exact ⟨(restored_iff ht hafter houter hthis).2 hsame, hstays⟩
  · rintro ⟨⟨hhandler, hpriority⟩, hstays⟩
    have hafter := (hshows hstays).distributeEnd (H := H) event traceId
    refine ⟨hafter.1.trans hpriority, ?_⟩
    rcases hhandler with hffrt | hsame
    · exact Or.inl hffrt
    · rw [← hsame]
      exact hafter.2

mutual

/-- One call, by recursion on the nesting. -/
theorem runCall_leaves {outer : Nat} {outerPriority : Int} {running : List Nat} :
    ∀ (call : SyncSend Id) (t : ThreadLocals Chain), CallHeld ffrtTask (outer :: running) call →
      Shows ffrtTask outer outerPriority t →
      Leaves ffrtTask outer outerPriority (CallStays ffrtTask outer outerPriority call)
        (runCall H ffrtTask outerPriority call t)
  | .mk this event priority site expiredBefore expiredAfter body, t, hheld, ht => by
    unfold CallHeld at hheld
    unfold CallStays runCall
    cases hsend : sendSyncEvent ffrtTask.isSome event priority site with
    | none => exact ⟨by simp, fun _ => ht⟩
    | some event =>
      rw [hsend] at hheld
      obtain ⟨hlive, hbody⟩ := hheld
      have hinner := distributeCalls_leaves body (distributeBegin H this event t) hbody
        (shows_distributeBegin this event t)
      exact hinner.call (H.getId t.chain) ht (hlive outer (by simp)).1 (hlive this (by simp)).2

/-- The calls of a callback. -/
theorem distributeCalls_leaves {outer : Nat} {outerPriority : Int} {running : List Nat} :
    ∀ (calls : List (SyncSend Id)) (t : ThreadLocals Chain),
      CallsHeld ffrtTask (outer :: running) calls → Shows ffrtTask outer outerPriority t →
      Leaves ffrtTask outer outerPriority (CallsStay ffrtTask outer outerPriority calls)
        (distributeCalls H ffrtTask outerPriority calls t)
  | [], t, _, ht => ⟨by simp [distributeCalls, CallsStay], fun _ => ht⟩
  | call :: rest, t, hheld, ht => by
    unfold CallsHeld at hheld
    unfold CallsStay distributeCalls
    have hfirst := runCall_leaves call t hheld.1 ht
    by_cases hcall : CallStays ffrtTask outer outerPriority call
    · have hrest := distributeCalls_leaves rest _ hheld.2 (hfirst.2 hcall)
      refine ⟨?_, fun hstay => hrest.2 hstay.2⟩
      rw [List.forall_mem_append, hfirst.1, hrest.1]
    · refine ⟨?_, fun hstay => absurd hstay.1 hcall⟩
      rw [List.forall_mem_append, hfirst.1]
      simp [hcall]

end

mutual

/-- The trace id behind a call is the one before it. -/
theorem runCall_traceId (H : HiTraceChain Chain Id) (ffrtTask : Option (Option Nat))
    (outerPriority : Int) :
    ∀ (call : SyncSend Id) (t : ThreadLocals Chain),
      H.getId (runCall H ffrtTask outerPriority call t).1.chain = H.getId t.chain ∧
        ∀ r ∈ (runCall H ffrtTask outerPriority call t).2, r.after.traceId = r.before.traceId
  | .mk this event priority site expiredBefore expiredAfter body, t => by
    unfold runCall
    cases hsend : sendSyncEvent ffrtTask.isSome event priority site with
    | none => simp
    | some event =>
      have hbody := distributeCalls_traceId H ffrtTask event.priority body
        (distributeBegin H this event t)
      have hend := distributeEnd_traceId hbody.1
      refine ⟨hend, ?_⟩
      rw [List.forall_mem_append, List.forall_mem_singleton]
      exact ⟨hbody.2, hend⟩

theorem distributeCalls_traceId (H : HiTraceChain Chain Id) (ffrtTask : Option (Option Nat))
    (outerPriority : Int) :
    ∀ (calls : List (SyncSend Id)) (t : ThreadLocals Chain),
      H.getId (distributeCalls H ffrtTask outerPriority calls t).1.chain = H.getId t.chain ∧
        ∀ r ∈ (distributeCalls H ffrtTask outerPriority calls t).2,
          r.after.traceId = r.before.traceId
  | [], t => by simp [distributeCalls]
  | call :: rest, t => by
    unfold distributeCalls
    have hcall := runCall_traceId H ffrtTask outerPriority call t
    have hrest := distributeCalls_traceId H ffrtTask outerPriority rest
      (runCall H ffrtTask outerPriority call t).1
    refine ⟨hrest.1.trans hcall.1, ?_⟩
    rw [List.forall_mem_append]
    exact ⟨hcall.2, hrest.2⟩

end

/-- **In every nesting of `DistributeEvent` calls on a thread, every inner call restores `Current()` and
    `GetCurrentEventPriority()` exactly if every call distributed here, at any depth, goes to the
    handler that makes it (or the thread is in an FFRT task) with an event of the priority that is
    being handled.**  The trace id is restored by every call. -/
theorem nestedDispatch_iff (H : HiTraceChain Chain Id) (ffrtTask : Option (Option Nat)) (this : Nat)
    (event : TracedEvent Id) (body : List (SyncSend Id)) (t : ThreadLocals Chain)
    (hheld : CallsHeld ffrtTask [this] body) :
    ((∀ r ∈ (distributeEvent H ffrtTask this event body t).2, r.Restored) ↔
      CallsStay ffrtTask this event.priority body) ∧
    (∀ r ∈ (distributeEvent H ffrtTask this event body t).2, r.after.traceId = r.before.traceId) ∧
    H.getId (distributeEvent H ffrtTask this event body t).1.chain = H.getId t.chain := by
  have hleaves := distributeCalls_leaves (H := H) body (distributeBegin H this event t) hheld
    (shows_distributeBegin this event t)
  have htrace := distributeCalls_traceId H ffrtTask event.priority body
    (distributeBegin H this event t)
  exact ⟨hleaves.1, htrace.2, distributeEnd_traceId htrace.1⟩

end

/-- A chain that keeps the id set last; 0 is no id. -/
def plainChain : HiTraceChain Nat Nat where
  getId := id
  setId := fun id _ => id
  clearId := fun _ => 0
  isValid := fun id => id != 0
  includesAsync := fun _ => true
  noId := 0
  getId_setId := fun _ _ _ => rfl
  getId_clearId := fun _ => rfl
  getId_invalid := fun c h => by simpa using h

/-- `PostSyncTask` on `handler` from the thread of its runner. -/
def postSyncTaskHere (handler : Nat) (body : List (SyncSend Nat)) : SyncSend Nat :=
  .mk handler (some { toInnerEvent := { handleTime := 0, sendTime := 0, hasTask := true } }) .LOW
    { eventRunner := some ⟨1, .NEW_THREAD⟩, currentRunner := some ⟨1, .NEW_THREAD⟩ } [] [] body

/-- A task that posted itself synchronously posts two more to its own handler, one in the other. -/
theorem nestedDispatch_iff_own :
    (distributeEvent plainChain none 1
        { toInnerEvent := { handleTime := 0, sendTime := 0, hasTask := true } }
        [postSyncTaskHere 1 [postSyncTaskHere 1 []]] { chain := 7 }).2.length = 2 ∧
      ∀ r ∈ (distributeEvent plainChain none 1
        { toInnerEvent := { handleTime := 0, sendTime := 0, hasTask := true } }
        [postSyncTaskHere 1 [postSyncTaskHere 1 []]] { chain := 7 }).2, r.Restored := by
  refine ⟨by decide, ?_⟩
  have hheld : CallsHeld none [1] [postSyncTaskHere 1 [postSyncTaskHere 1 []]] := by
    simp [CallsHeld, CallHeld, postSyncTaskHere, sendSyncEvent, SendSite.distributesHere]
  refine (nestedDispatch_iff plainChain none 1 _ _ _ hheld).1.2 ?_
  simp [CallsStay, CallStays, postSyncTaskHere, sendSyncEvent, SendSite.distributesHere]

/-- An event of priority `HIGH` on handler 1 posts a task to handler 2 of the same runner. -/
theorem nestedDispatch_overwrites : ¬ ∀ (H : HiTraceChain Nat Nat) (ffrtTask : Option (Option Nat))
    (this : Nat) (event : TracedEvent Nat) (body : List (SyncSend Nat)) (t : ThreadLocals Nat),
    CallsHeld ffrtTask [this] body →
      ∀ r ∈ (distributeEvent H ffrtTask this event body t).2, r.Restored := by
  intro h
  have hheld : CallsHeld none [1] [postSyncTaskHere 2 []] := by
    simp [CallsHeld, CallHeld, postSyncTaskHere, sendSyncEvent, SendSite.distributesHere]
  have hrun := h plainChain none 1
    { toInnerEvent := { handleTime := 0, sendTime := 0, priority := 2 } } [postSyncTaskHere 2 []]
    { chain := 7 } hheld
  revert hrun
  decide

end AppExecFwk
