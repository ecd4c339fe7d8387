import EventHandler.Payload

/-!
# Emitted events on their way to one listener

`JS_Emit` sends an event, the emitter's thread dispatches it and puts a worker into the queue of the
thread-safe function of every valid listener, and the JS thread of a listener takes its workers out
in their order.  Meanwhile listeners are registered and taken away on other threads.

* `EmittedEvent`, `DeliverySys` — the emitter with the events that wait, the one being dispatched, the
  worker queue of each listener, and the log of the calls.
* `DeliverySys.line` — the events of one priority on their way to a listener, the called ones first.
* `line_step` — a step takes events out of a line and puts a new one at its end; while a listener
  stays registered nothing is taken out.
* `calls_in_order` — a listener is called for the events of one priority in the order of their
  emission, and at most once for each.
* `delivered_exactly` — while it stays registered it is called for every one of them.

The queue is assumed to hand out the events of one priority in the order they were sent.
-/

set_option autoImplicit false

namespace AppExecFwk

open Transition

/-- An event that the queue keeps, numbered in the order of emission. -/
structure EmittedEvent where
  number : Nat
  id : CompositeEventId
  priority : Priority
  deriving DecidableEq, Repr

structure DeliverySys where
  emitter : EmitterSys
  /-- All events the queue has kept. -/
  emitted : List EmittedEvent
  /-- The events not yet dispatched. -/
  queue : List EmittedEvent
  /-- The event of the last `ProcessEvent`. -/
  dispatched : Option EmittedEvent
  /-- The workers in the queue of the thread-safe function of a listener. -/
  workers : Nat → List EmittedEvent
  /-- The calls of the listeners. -/
  calls : List (Nat × EmittedEvent)

inductive EmitOp where
  /-- The operations of the emitter on its listeners. -/
  | listeners (op : EmitterOp)
  | emit (id : CompositeEventId) (priority : Priority) (usable : Bool)
  /-- The emitter's thread comes to the next event of a priority. -/
  | processEvent (priority : Priority)
  | callWorker (info : Nat) (called : Bool)
  | threadSafeCallback (info : Nat) (ready : Bool)
  | callbackReturned (env : Nat)
  deriving DecidableEq, Repr

namespace DeliverySys

/-- `ThreadSafeCallback` calls the listener. -/
def callsListener (s : DeliverySys) (info : Nat) (ready : Bool) : Bool :=
  !(s.emitter.infos info).isDeleted && ready

def step (ffrtUsage : Bool) (s : DeliverySys) : EmitOp → Option DeliverySys
  | .listeners op =>
    if op.onListeners then (s.emitter.step op).map fun e => { s with emitter := e } else none
  | .emit id priority usable =>
    if s.emitter.emitterInstances id = [] ∨ queueTakes ffrtUsage usable priority = false then some s
    else (s.emitter.step (.emit id)).map fun e =>
      let event : EmittedEvent := ⟨s.emitted.length, id, priority⟩
      { s with emitter := e, emitted := s.emitted ++ [event], queue := s.queue ++ [event] }
  | .processEvent priority =>
    match s.queue.find? (fun e => decide (e.priority = priority)) with
    | none => none
    | some event => (s.emitter.step (.processEvent event.id)).map fun e =>
      { s with emitter := e, queue := s.queue.erase event, dispatched := some event }
  | .callWorker info called =>
    match s.dispatched with
    | none => none
    | some event => (s.emitter.step (.callWorker info called)).map fun e =>
      { s with
        emitter := e
        workers := if (s.emitter.infos info).valid && called then
          Function.update s.workers info (s.workers info ++ [event]) else s.workers }
  | .threadSafeCallback info ready =>
    match s.workers info with
    | [] => none
    | event :: rest => (s.emitter.step (.threadSafeCallback info ready)).map fun e =>
      { s with
        emitter := e
        workers := Function.update s.workers info rest
        calls := if s.callsListener info ready then s.calls ++ [(info, event)] else s.calls }
  | .callbackReturned env =>
    (s.emitter.step (.callbackReturned env)).map fun e => { s with emitter := e }

/-! ## The line of a listener -/

/-- The events of a priority for which the listener was called, in the order of the calls. -/
def called (s : DeliverySys) (i : Nat) (p : Priority) : List EmittedEvent :=
  (s.calls.filter fun c => decide (c.1 = i ∧ c.2.priority = p)).map Prod.snd

/-- The events of a priority that are for the listener. -/
def meant (s : DeliverySys) (i : Nat) (p : Priority) (es : List EmittedEvent) :
    List EmittedEvent :=
  es.filter fun e => decide (e.priority = p ∧ e.id = (s.emitter.infos i).compositeId)

/-- The event being dispatched, while the listener's turn in the loop is still to come. -/
def inLoop (s : DeliverySys) (i : Nat) : List EmittedEvent :=
  if i ∈ s.emitter.callbackInfos then s.dispatched.toList else []

/-- The events of a priority that are on their way to the listener. -/
def outstanding (s : DeliverySys) (i : Nat) (p : Priority) : List EmittedEvent :=
  s.meant i p (s.workers i ++ s.inLoop i ++ s.queue)

def line (s : DeliverySys) (i : Nat) (p : Priority) : List EmittedEvent :=
  s.called i p ++ s.outstanding i p

/-- The listener is registered and valid. -/
def Stays (s : DeliverySys) (i : Nat) : Prop :=
  i ∈ s.emitter.emitterInstances (s.emitter.infos i).compositeId ∧
    (s.emitter.infos i).valid = true

instance (s : DeliverySys) (i : Nat) : Decidable (s.Stays i) := inferInstanceAs (Decidable (_ ∧ _))

end DeliverySys

/-- The calls of the runtime for the listener succeed. -/
def EmitOp.works (i : Nat) : EmitOp → Bool
  | .callWorker info called => decide (info ≠ i) || called
  | .threadSafeCallback info ready => decide (info ≠ i) || ready
  | _ => true

/-- No event was ever emitted. -/
def emitSystem (ffrtUsage : Bool) : System DeliverySys EmitOp where
  init :=
    { emitter := emitterSystem.init
      emitted := []
      queue := []
      dispatched := none
      workers := fun _ => []
      calls := [] }
  step := DeliverySys.step ffrtUsage

variable {ffrtUsage : Bool}

/-! ## What a step does -/

/-- A step, with what the emitter did in it. -/
inductive EmitEffect (s : DeliverySys) : EmitOp → DeliverySys → Prop
  | listeners (op : EmitterOp) (e : EmitterSys) (hop : op.onListeners = true)
      (he : s.emitter.step op = some e) : EmitEffect s (.listeners op) { s with emitter := e }
  | unsent (id : CompositeEventId) (priority : Priority) (usable : Bool) :
      EmitEffect s (.emit id priority usable) s
  | sent (id : CompositeEventId) (priority : Priority) (usable : Bool)
      (event : EmittedEvent) (hev : event = ⟨s.emitted.length, id, priority⟩) :
      EmitEffect s (.emit id priority usable) { s with
        emitter := { s.emitter with pending := s.emitter.pending ++ [id] }
        emitted := s.emitted ++ [event]
        queue := s.queue ++ [event] }
  | processed (priority : Priority) (event : EmittedEvent)
      (hf : s.queue.find? (fun e => decide (e.priority = priority)) = some event)
      (hc : s.emitter.callbackInfos = []) :
      EmitEffect s (.processEvent priority) { s with
        emitter := s.emitter.processEvent event.id
        queue := s.queue.erase event
        dispatched := some event }
  | worker (info : Nat) (called : Bool) (event : EmittedEvent) (hd : s.dispatched = some event)
      (hm : info ∈ s.emitter.callbackInfos) :
      EmitEffect s (.callWorker info called) { s with
        emitter := s.emitter.callWorker info called
        workers := if (s.emitter.infos info).valid && called then
          Function.update s.workers info (s.workers info ++ [event]) else s.workers }
  | callback (info : Nat) (ready : Bool) (event : EmittedEvent) (rest : List EmittedEvent)
      (hw : s.workers info = event :: rest) (hm : info ∈ s.emitter.workers) :
      EmitEffect s (.threadSafeCallback info ready) { s with
        emitter := s.emitter.threadSafeCallback info ready
        workers := Function.update s.workers info rest
        calls := if s.callsListener info ready then s.calls ++ [(info, event)] else s.calls }
  | returned (env info : Nat) :
      EmitEffect s (.callbackReturned env) { s with emitter := s.emitter.callbackReturned env info }

theorem emitStep_cases {s t : DeliverySys} {a : EmitOp} (h : s.step ffrtUsage a = some t) :
    EmitEffect s a t := by
  cases a with
  | listeners op =>
    simp only [DeliverySys.step, Option.ite_none_right_eq_some, Option.map_eq_some_iff] at h
    obtain ⟨hop, e, he, rfl⟩ := h
    exact .listeners op e hop he
  | emit id priority usable =>
    simp only [DeliverySys.step] at h
    split at h
    · cases h
      exact .unsent id priority usable
    · rename_i hn
      obtain ⟨e, he, rfl⟩ := Option.map_eq_some_iff.1 h
      simp only [EmitterSys.step, if_neg (fun h => hn (.inl h)), Option.some.injEq] at he
      subst he
      exact .sent id priority usable _ rfl
  | processEvent priority =>
    simp only [DeliverySys.step] at h
    split at h
    · cases h
    · rename_i event hf
      obtain ⟨e, he, rfl⟩ := Option.map_eq_some_iff.1 h
      simp only [EmitterSys.step, Option.ite_none_right_eq_some, Option.some.injEq] at he
      obtain ⟨⟨-, hc⟩, rfl⟩ := he
      exact .processed priority event hf hc
  | callWorker info called =>
    simp only [DeliverySys.step] at h
    split at h
    · cases h
    · rename_i event hd
      obtain ⟨e, he, rfl⟩ := Option.map_eq_some_iff.1 h
      simp only [EmitterSys.step, Option.ite_none_right_eq_some, Option.some.injEq] at he
      obtain ⟨hm, rfl⟩ := he
      exact .worker info called event hd hm
  | threadSafeCallback info ready =>
    simp only [DeliverySys.step] at h
    split at h
    · cases h
    · rename_i event rest hw
      obtain ⟨e, he, rfl⟩ := Option.map_eq_some_iff.1 h
      simp only [EmitterSys.step, Option.ite_none_right_eq_some, Option.some.injEq] at he
      obtain ⟨⟨hm, -⟩, rfl⟩ := he
      exact .callback info ready event rest hw hm
  | callbackReturned env =>
    obtain ⟨e, he, rfl⟩ := Option.map_eq_some_iff.1 h
    simp only [EmitterSys.step] at he
    split at he
    · cases he
      exact .returned env _
    · cases he

/-- No step forgets a listener or changes the event it is for. -/
theorem emitterStep_grows {s t : EmitterSys} {op : EmitterOp} (h : s.step op = some t) :
    s.created ≤ t.created ∧
      ∀ i < s.created, (t.infos i).compositeId = (s.infos i).compositeId := by
  cases emitterStep_cases h with
  | updated env id callback once wrapped info =>
    refine ⟨le_refl _, fun i _ => ?_⟩
    unfold EmitterSys.updateOnceFlag
    by_cases hi : i = info
    · subst hi
      simp [AsyncCallbackInfo.compositeId]
    · simp [Function.update_of_ne hi]
  | inserted env id callback once wrapped =>
    refine ⟨Nat.le_succ _, fun i hi => ?_⟩
    rw [insertCallbackInfo_infos (by omega)]
  | retired _ _ hr => exact ⟨hr.created.ge, fun i _ => hr.compositeId i⟩
  | returned env info hr =>
    unfold EmitterSys.callbackReturned
    split <;> exact ⟨le_refl _, fun _ _ => rfl⟩
  | _ => exact ⟨le_refl _, fun _ _ => rfl⟩

/-- The worker leaves the listeners and the loop alone. -/
theorem threadSafeCallback_same (e : EmitterSys) (info : Nat) (ready : Bool) :
    let t := e.threadSafeCallback info ready
    t.infos = e.infos ∧ t.callbackInfos = e.callbackInfos ∧ t.created = e.created := by
  unfold EmitterSys.threadSafeCallback
  split <;> exact ⟨rfl, rfl, rfl⟩

theorem callbackReturned_same (e : EmitterSys) (env info : Nat) :
    let t := e.callbackReturned env info
    t.infos = e.infos ∧ t.callbackInfos = e.callbackInfos ∧ t.created = e.created := by
  unfold EmitterSys.callbackReturned
  split <;> exact ⟨rfl, rfl, rfl⟩

/-- The emitter takes a step of its own, or none. -/
theorem emitStep_emitter {s t : DeliverySys} {a : EmitOp} (h : s.step ffrtUsage a = some t) :
    t.emitter = s.emitter ∨ ∃ op, s.emitter.step op = some t.emitter := by
  cases a with
  | listeners op =>
    simp only [DeliverySys.step, Option.ite_none_right_eq_some, Option.map_eq_some_iff] at h
    obtain ⟨-, e, he, rfl⟩ := h
    exact .inr ⟨_, he⟩
  | emit id priority usable =>
    simp only [DeliverySys.step] at h
    split at h
    · cases h
      exact .inl rfl
    · obtain ⟨e, he, rfl⟩ := Option.map_eq_some_iff.1 h
      exact .inr ⟨_, he⟩
  | callbackReturned env =>
    obtain ⟨e, he, rfl⟩ := Option.map_eq_some_iff.1 h
    exact .inr ⟨_, he⟩
  | _ =>
    simp only [DeliverySys.step] at h
    split at h
    · cases h
    · obtain ⟨e, he, rfl⟩ := Option.map_eq_some_iff.1 h
      exact .inr ⟨_, he⟩

/-! ## The invariant -/

/-- Of the first event with `f`, what a filter for some of these keeps. -/
theorem filter_erase_first {f g : EmittedEvent → Bool} {event : EmittedEvent}
    (hg : ∀ x, g x = true → f x = true) : ∀ {es : List EmittedEvent}, es.find? f = some event →
    es.filter g = (if g event then [event] else []) ++ (es.erase event).filter g
  | x :: xs, h => by
    by_cases hx : f x = true
    · rw [List.find?_cons_of_pos hx] at h
      cases h
      rw [List.erase_cons_head, List.filter_cons]
      split <;> rfl
    · rw [List.find?_cons_of_neg hx] at h
      have hne : x ≠ event := fun he => hx (he ▸ List.find?_some h)
      have hgx : ¬ g x = true := fun h => hx (hg x h)
      rw [List.erase_cons_tail (by simpa using hne), List.filter_cons_of_neg hgx,
        List.filter_cons_of_neg hgx]
      exact filter_erase_first hg h

theorem filter_erase_other {g : EmittedEvent → Bool} {event : EmittedEvent}
    (hg : g event = false) (es : List EmittedEvent) :
    (es.erase event).filter g = es.filter g := by
  induction es with
  | nil => rfl
  | cons x xs ih =>
    by_cases hx : x = event
    · subst hx
      rw [List.erase_cons_head, List.filter_cons_of_neg (by simp [hg])]
    · rw [List.erase_cons_tail (by simpa using hx), List.filter_cons, List.filter_cons, ih]

/-- Workers and loop are for listeners of the event; a listener not yet created has nothing; the
    events that wait are numbered in their order. -/
structure InLine (s : DeliverySys) : Prop where
  listed : Listed s.emitter
  loop_nodup : s.emitter.callbackInfos.Nodup
  loop_own : ∀ i ∈ s.emitter.callbackInfos, ∀ e, s.dispatched = some e →
    e.id = (s.emitter.infos i).compositeId
  workers_own : ∀ i, ∀ e ∈ s.workers i, e.id = (s.emitter.infos i).compositeId
  calls_own : ∀ c ∈ s.calls, c.2.id = (s.emitter.infos c.1).compositeId
  fresh : ∀ i, s.emitter.created ≤ i → s.workers i = [] ∧ ∀ c ∈ s.calls, c.1 ≠ i
  sorted : s.queue.Pairwise fun e e' => e.number < e'.number
  queue_lt : ∀ e ∈ s.queue, e.number < s.emitted.length

theorem InLine.lt_of_call {s : DeliverySys} (h : InLine s) {c : Nat × EmittedEvent}
    (hc : c ∈ s.calls) : c.1 < s.emitter.created := by
  by_contra hi
  exact (h.fresh c.1 (by omega)).2 c hc rfl

theorem InLine.lt_of_worker {s : DeliverySys} (h : InLine s) {i : Nat} {e : EmittedEvent}
    (he : e ∈ s.workers i) : i < s.emitter.created := by
  by_contra hi
  rw [(h.fresh i (by omega)).1] at he
  cases he

/-- **Every step keeps the invariant.** -/
theorem inLine_step {s t : DeliverySys} {a : EmitOp} (h : InLine s) (hst : s.step ffrtUsage a = some t) :
    InLine t := by
  have hlisted : Listed t.emitter := by
    rcases emitStep_emitter hst with he | ⟨op, he⟩
    · rw [he]
      exact h.listed
    · exact listed_step h.listed (emitterStep_cases he)
  cases emitStep_cases hst with
  | listeners op e hop he =>
    obtain ⟨-, -, -, hloop⟩ := PayloadSys.onListeners_keeps hop he
    obtain ⟨hcreated, hid⟩ := emitterStep_grows he
    refine ⟨hlisted, ?_, fun i hi ev hd => ?_, fun i ev hev => ?_, fun c hc => ?_, fun i hi => ?_,
      h.sorted, h.queue_lt⟩
    · show e.callbackInfos.Nodup
      rw [hloop]
      exact h.loop_nodup
    · have hi : i ∈ s.emitter.callbackInfos := hloop ▸ hi
      exact (h.loop_own i hi ev hd).trans (hid i (h.listed.callbackInfos_lt i hi)).symm
    · exact (h.workers_own i ev hev).trans (hid i (h.lt_of_worker hev)).symm
    · exact (h.calls_own c hc).trans (hid c.1 (h.lt_of_call hc)).symm
    · exact h.fresh i (hcreated.trans hi)
  | unsent => exact h
  | sent id priority usable event hev =>
    have hnumber : event.number = s.emitted.length := by rw [hev]
    refine ⟨hlisted, h.loop_nodup, h.loop_own, h.workers_own, h.calls_own, h.fresh, ?_,
      fun e he => ?_⟩
    · refine List.pairwise_append.2 ⟨h.sorted, List.pairwise_singleton _ _, fun e he e' he' => ?_⟩
      rw [List.mem_singleton.1 he', hnumber]
      exact h.queue_lt e he
    · show e.number < (s.emitted ++ [event]).length
      rw [List.length_append, List.length_singleton]
      rcases List.mem_append.1 he with he | he
      · exact Nat.lt_succ_of_lt (h.queue_lt e he)
      · rw [List.mem_singleton.1 he, hnumber]
        exact Nat.lt_succ_self _
  | processed priority event hf hc =>
    have hsub : (s.queue.erase event).Sublist s.queue := List.erase_sublist
    have hloop : (s.emitter.processEvent event.id).callbackInfos.Sublist
        (s.emitter.emitterInstances event.id) := by
      simp only [EmitterSys.processEvent, EmitterSys.prune, EmitterSys.setInstances,
        Function.update_self]
      exact List.filter_sublist
    refine ⟨hlisted, (h.listed.nodup event.id).sublist hloop, fun i hi e hd => ?_, h.workers_own,
      h.calls_own, h.fresh, h.sorted.sublist hsub, fun e he => h.queue_lt e (hsub.subset he)⟩
    cases hd
    exact (h.listed.own event.id i (hloop.subset hi)).symm
  | worker info called event hd hm =>
    have hown := h.loop_own info hm event hd
    have hlt := h.listed.callbackInfos_lt info hm
    refine ⟨hlisted, h.loop_nodup.erase info,
      fun i hi => h.loop_own i (List.mem_of_mem_erase hi), fun i e he => ?_, h.calls_own,
      fun i hi => ?_, h.sorted, h.queue_lt⟩
    · simp only at he
      split at he
      · by_cases hii : i = info
        · subst hii
          rw [Function.update_self] at he
          rcases List.mem_append.1 he with he | he
          · exact h.workers_own i e he
          · rw [List.mem_singleton.1 he]
            exact hown
        · rw [Function.update_of_ne hii] at he
          exact h.workers_own i e he
      · exact h.workers_own i e he
    · have hne : i ≠ info := by
        rintro rfl
        exact absurd hi (by simpa [EmitterSys.callWorker] using hlt)
      refine ⟨?_, (h.fresh i hi).2⟩
      simp only
      split
      · rw [Function.update_of_ne hne]
        exact (h.fresh i hi).1
      · exact (h.fresh i hi).1
  | callback info ready event rest hw hm =>
    have hlt := h.listed.workers_lt info hm
    obtain ⟨hsame, hloop, hcreated⟩ := threadSafeCallback_same s.emitter info ready
    refine ⟨hlisted, ?_, fun i hi e hd => ?_, fun i e he => ?_, fun c hc => ?_, fun i hi => ?_,
      h.sorted, h.queue_lt⟩
    · show (s.emitter.threadSafeCallback info ready).callbackInfos.Nodup
      rw [hloop]
      exact h.loop_nodup
    · simp only [hsame, hloop] at hi ⊢
      exact h.loop_own i hi e hd
    · simp only [hsame] at he ⊢
      by_cases hii : i = info
      · subst hii
        rw [Function.update_self] at he
        exact h.workers_own i e (hw ▸ List.mem_cons_of_mem _ he)
      · rw [Function.update_of_ne hii] at he
        exact h.workers_own i e he
    · simp only [hsame] at hc ⊢
      split at hc
      · rcases List.mem_append.1 hc with hc | hc
        · exact h.calls_own c hc
        · rw [List.mem_singleton.1 hc]
          exact h.workers_own info event (hw ▸ List.mem_cons_self)
      · exact h.calls_own c hc
    · simp only [hcreated] at hi ⊢
      have hne : i ≠ info := by omega
      refine ⟨?_, fun c hc => ?_⟩
      · rw [Function.update_of_ne hne]
        exact (h.fresh i hi).1
      · split at hc
        · rcases List.mem_append.1 hc with hc | hc
          · exact (h.fresh i hi).2 c hc
          · rw [List.mem_singleton.1 hc]
            exact hne.symm
        · exact (h.fresh i hi).2 c hc
  | returned env info =>
    obtain ⟨hsame, hloop, hcreated⟩ := callbackReturned_same s.emitter env info
    refine ⟨hlisted, ?_, fun i hi e hd => ?_, fun i e he => ?_, fun c hc => ?_, fun i hi => ?_,
      h.sorted, h.queue_lt⟩
    · show (s.emitter.callbackReturned env info).callbackInfos.Nodup
      rw [hloop]
      exact h.loop_nodup
    · simp only [hsame, hloop] at hi ⊢
      exact h.loop_own i hi e hd
    · simp only [hsame]
      exact h.workers_own i e he
    · simp only [hsame]
      exact h.calls_own c hc
    · simp only [hcreated] at hi
      exact h.fresh i hi

/-! ## What a step does to a line -/

theorem meant_congr {s t : DeliverySys} {i : Nat}
    (h : (t.emitter.infos i).compositeId = (s.emitter.infos i).compositeId) (p : Priority)
    (es : List EmittedEvent) : t.meant i p es = s.meant i p es := by
  unfold DeliverySys.meant
  rw [h]

theorem meant_append (s : DeliverySys) (i : Nat) (p : Priority) (es es' : List EmittedEvent) :
    s.meant i p (es ++ es') = s.meant i p es ++ s.meant i p es' :=
  List.filter_append ..

theorem line_of {s t : DeliverySys} {i : Nat}
    (h : (t.emitter.infos i).compositeId = (s.emitter.infos i).compositeId) (p : Priority) :
    t.line i p = t.called i p ++ (s.meant i p (t.workers i) ++ (s.meant i p (t.inLoop i) ++
      s.meant i p t.queue)) := by
  unfold DeliverySys.line DeliverySys.outstanding
  simp only [meant_append, List.append_assoc, meant_congr h]

theorem called_append (calls : List (Nat × EmittedEvent)) (info : Nat) (event : EmittedEvent)
    (i : Nat) (p : Priority) :
    ((calls ++ [(info, event)]).filter fun c => decide (c.1 = i ∧ c.2.priority = p)).map Prod.snd =
      (calls.filter fun c => decide (c.1 = i ∧ c.2.priority = p)).map Prod.snd ++
        if info = i ∧ event.priority = p then [event] else [] := by
  rw [List.filter_append, List.map_append, List.filter_cons]
  simp only [decide_eq_true_eq]
  split <;> rfl

/-- The next event of a priority leaves the queue. -/
theorem meant_erase (s : DeliverySys) (i : Nat) (p : Priority) {priority : Priority}
    {event : EmittedEvent}
    (hf : s.queue.find? (fun e => decide (e.priority = priority)) = some event) :
    s.meant i p s.queue = s.meant i p [event] ++ s.meant i p (s.queue.erase event) := by
  have hpri : decide (event.priority = priority) = true := by
    have h := List.find?_some hf
    exact h
  have hpri := of_decide_eq_true hpri
  unfold DeliverySys.meant
  by_cases hm : event.priority = p ∧ event.id = (s.emitter.infos i).compositeId
  · have hfirst := @filter_erase_first _
      (fun e => decide (e.priority = p ∧ e.id = (s.emitter.infos i).compositeId)) event
      (fun x hx => decide_eq_true ((of_decide_eq_true hx).1.trans (hm.1.symm.trans hpri))) _ hf
    rw [hfirst, List.filter_cons]
    rfl
  · rw [filter_erase_other (by simpa using hm), List.filter_cons_of_neg (by simpa using hm)]
    rfl

/-- What a step does to the line of a listener. -/
def LineMoves (s t : DeliverySys) (a : EmitOp) (i : Nat) (p : Priority) : Prop :=
  ∃ es, t.emitted = s.emitted ++ es ∧ (t.line i p).Sublist (s.line i p ++ s.meant i p es) ∧
    (s.Stays i → a.works i = true → t.line i p = s.line i p ++ s.meant i p es)

theorem LineMoves.keep {s t : DeliverySys} {a : EmitOp} {i : Nat} {p : Priority}
    (es : List EmittedEvent) (he : t.emitted = s.emitted ++ es)
    (hl : t.line i p = s.line i p ++ s.meant i p es) : LineMoves s t a i p :=
  ⟨es, he, by rw [hl], fun _ _ => hl⟩

/-- A step that emits nothing. -/
theorem LineMoves.quiet {s t : DeliverySys} {a : EmitOp} {i : Nat} {p : Priority}
    (he : t.emitted = s.emitted) (hl : (t.line i p).Sublist (s.line i p))
    (hs : s.Stays i → a.works i = true → t.line i p = s.line i p) : LineMoves s t a i p := by
  have hnil : s.line i p ++ s.meant i p [] = s.line i p := List.append_nil _
  refine ⟨[], he.trans (List.append_nil _).symm, ?_, ?_⟩
  · rw [hnil]
    exact hl
  · rw [hnil]
    exact hs

theorem LineMoves.same {s t : DeliverySys} {a : EmitOp} {i : Nat} {p : Priority}
    (he : t.emitted = s.emitted) (hl : t.line i p = s.line i p) : LineMoves s t a i p :=
  .quiet he (by rw [hl]) fun _ _ => hl

/-- A listener that stays registered is in the copy of the set that the dispatch of its event
    makes. -/
theorem stays_in_loop {s : DeliverySys} {i : Nat} (h : s.Stays i) {id : CompositeEventId}
    (hid : id = (s.emitter.infos i).compositeId) :
    i ∈ (s.emitter.processEvent id).callbackInfos := by
  simp only [EmitterSys.processEvent, EmitterSys.prune, EmitterSys.setInstances,
    Function.update_self]
  exact List.mem_filter.2 ⟨hid ▸ h.1, h.2⟩

/-- **A step takes events out of a line and puts a new one at its end**; while the listener stays
    registered, and the runtime works for it, nothing is taken out. -/
theorem line_step {s t : DeliverySys} {a : EmitOp} {i : Nat} (h : InLine s)
    (hi : i < s.emitter.created) (hst : s.step ffrtUsage a = some t) (p : Priority) :
    LineMoves s t a i p := by
  have hs := line_of (s := s) (t := s) (i := i) rfl p
  cases emitStep_cases hst with
  | listeners op e hop he =>
    obtain ⟨-, -, -, hloop⟩ := PayloadSys.onListeners_keeps hop he
    refine .same rfl (Eq.trans (line_of ((emitterStep_grows he).2 i hi) p) (Eq.trans ?_ hs.symm))
    unfold DeliverySys.inLoop
    simp only [hloop]
    rfl
  | unsent => exact .same rfl rfl
  | sent id priority usable event hev =>
    refine .keep [event] rfl (Eq.trans (line_of (s := s) ?_ p) ?_)
    · rfl
    rw [hs]
    simp only [meant_append, List.append_assoc]
    rfl
  | processed priority event hf hc =>
    rw [show s.inLoop i = [] from if_neg (by simp [hc]), meant_erase s i p hf] at hs
    by_cases hin : i ∈ (s.emitter.processEvent event.id).callbackInfos
    · refine .same rfl (Eq.trans (line_of (s := s) ?_ p) (Eq.trans ?_ hs.symm))
      · rfl
      unfold DeliverySys.inLoop
      rw [if_pos hin]
      rfl
    · have ht := line_of (s := s) (i := i) (t := { s with
        emitter := s.emitter.processEvent event.id
        queue := s.queue.erase event
        dispatched := some event }) rfl p
      unfold DeliverySys.inLoop at ht
      rw [if_neg hin] at ht
      refine .quiet rfl ?_ fun hstays _ => ?_
      · rw [ht, hs]
        exact (((List.sublist_append_right _ _).append_left _).append_left _).append_left _
      · have hne : ¬ event.id = (s.emitter.infos i).compositeId := fun hid =>
          hin (stays_in_loop hstays hid)
        rw [ht, hs, show s.meant i p [event] = [] from
          List.filter_cons_of_neg (by simp [hne])]
        rfl
  | worker info called event hd hm =>
    have ht := line_of (s := s) (i := i) (t := { s with
      emitter := s.emitter.callWorker info called
      workers := if (s.emitter.infos info).valid && called then
        Function.update s.workers info (s.workers info ++ [event]) else s.workers }) rfl p
    have hloop : (s.emitter.callWorker info called).callbackInfos =
        s.emitter.callbackInfos.erase info := rfl
    unfold DeliverySys.inLoop at hs ht
    simp only [hloop] at ht
    by_cases hii : i = info
    · subst hii
      rw [if_pos hm, hd] at hs
      rw [if_neg h.loop_nodup.not_mem_erase] at ht
      by_cases hv : ((s.emitter.infos i).valid && called) = true
      · refine .same rfl (ht.trans (Eq.trans ?_ hs.symm))
        simp only [if_pos hv, Function.update_self, meant_append, List.append_assoc]
        rfl
      · refine .quiet rfl ?_ fun hstays hw => ?_
        · rw [ht, hs, if_neg hv]
          exact ((List.sublist_append_right _ _).append_left _).append_left _
        · refine absurd ?_ hv
          simpa [EmitOp.works, hstays.2] using hw
    · have hin : i ∈ s.emitter.callbackInfos.erase info ↔ i ∈ s.emitter.callbackInfos :=
        List.mem_erase_of_ne hii
      refine .same rfl (ht.trans (Eq.trans ?_ hs.symm))
      simp only [hin]
      split
      · rw [Function.update_of_ne hii]
        rfl
      · rfl
  | callback info ready event rest hw hm =>
    obtain ⟨hsame, hloop, -⟩ := threadSafeCallback_same s.emitter info ready
    have ht := line_of (s := s) (i := i) (t := { s with
      emitter := s.emitter.threadSafeCallback info ready
      workers := Function.update s.workers info rest
      calls := if s.callsListener info ready then s.calls ++ [(info, event)] else s.calls })
      (by simp only [hsame]) p
    unfold DeliverySys.called DeliverySys.inLoop at hs ht
    simp only [hloop] at ht
    by_cases hii : i = info
    · subst hii
      have hown := h.workers_own i event (hw ▸ List.mem_cons_self)
      have hmeant : s.meant i p [event] = if i = i ∧ event.priority = p then [event] else [] := by
        unfold DeliverySys.meant
        rw [List.filter_cons]
        simp only [hown, and_true, true_and, decide_eq_true_eq]
        rfl
      rw [hw, ← List.singleton_append, meant_append, hmeant] at hs
      rw [Function.update_self] at ht
      by_cases hcall : s.callsListener i ready = true
      · refine .same rfl (ht.trans (Eq.trans ?_ hs.symm))
        simp only [if_pos hcall, called_append, List.append_assoc]
      · refine .quiet rfl ?_ fun hstays hworks => ?_
        · rw [ht, hs, if_neg hcall]
          exact (((List.sublist_append_right _ _).append_right _)).append_left _
        · refine absurd ?_ hcall
          have hvalid := hstays.2
          simp only [AsyncCallbackInfo.valid, Bool.and_eq_true] at hvalid
          simpa [DeliverySys.callsListener, EmitOp.works, hvalid.1] using hworks
    · refine .same rfl (ht.trans (Eq.trans ?_ hs.symm))
      rw [Function.update_of_ne hii]
      split
      · rw [called_append, if_neg (fun h => hii h.1.symm), List.append_nil]
      · rfl
  | returned env info =>
    obtain ⟨hsame, hloop, -⟩ := callbackReturned_same s.emitter env info
    refine .same rfl (Eq.trans (line_of (s := s) ?_ p) (Eq.trans ?_ hs.symm))
    · simp only [hsame]
    unfold DeliverySys.inLoop
    simp only [hloop]
    rfl

/-- The lines of the listeners are in the order of emission. -/
structure Ordered (s : DeliverySys) : Prop extends InLine s where
  line_sorted : ∀ i < s.emitter.created, ∀ p, (s.line i p).Pairwise fun e e' => e.number < e'.number
  line_lt : ∀ i < s.emitter.created, ∀ p, ∀ e ∈ s.line i p, e.number < s.emitted.length

/-- A new event is numbered behind all others. -/
theorem emitStep_numbers {s t : DeliverySys} {a : EmitOp} (h : s.step ffrtUsage a = some t) :
    ∀ es, t.emitted = s.emitted ++ es → es.Pairwise (fun e e' => e.number < e'.number) ∧
      ∀ e ∈ es, s.emitted.length ≤ e.number ∧ e.number < t.emitted.length := by
  have none_new : t.emitted = s.emitted → ∀ es, t.emitted = s.emitted ++ es → es = [] := by
    intro he es h
    rw [he] at h
    exact List.self_eq_append_right.1 h
  have done : t.emitted = s.emitted → ∀ es, t.emitted = s.emitted ++ es →
      es.Pairwise (fun e e' => e.number < e'.number) ∧
        ∀ e ∈ es, s.emitted.length ≤ e.number ∧ e.number < t.emitted.length := by
    intro he es h
    rw [none_new he es h]
    exact ⟨.nil, fun _ h => (List.not_mem_nil h).elim⟩
  cases emitStep_cases h with
  | sent id priority usable event hev =>
    intro es hes
    have heq : es = [event] := (List.append_cancel_left hes).symm
    subst heq
    refine ⟨List.pairwise_singleton _ _, fun e he => ?_⟩
    rw [List.mem_singleton.1 he, hev]
    simp
  | _ => exact done rfl

/-- A listener that a step creates waits for the events of the queue. -/
theorem line_created {s t : DeliverySys} {a : EmitOp} {i : Nat} (h : InLine s)
    (hst : s.step ffrtUsage a = some t) (hi : s.emitter.created ≤ i) (hit : i < t.emitter.created)
    (p : Priority) : t.line i p = t.meant i p s.queue ∧ t.emitted = s.emitted := by
  have ht := line_of (s := t) (t := t) (i := i) rfl p
  cases emitStep_cases hst with
  | listeners op e hop he =>
    refine ⟨ht.trans ?_, rfl⟩
    obtain ⟨hw, hc⟩ := h.fresh i hi
    obtain ⟨-, -, -, hloop⟩ := PayloadSys.onListeners_keeps hop he
    have hnot : i ∉ e.callbackInfos := by
      rw [hloop]
      exact fun hm => absurd (h.listed.callbackInfos_lt i hm) (by omega)
    unfold DeliverySys.called DeliverySys.inLoop
    simp only [hw, if_neg hnot]
    rw [List.filter_eq_nil_iff.2 fun c hm => by simp [hc c hm]]
    rfl
  | unsent => exact absurd hit (by omega)
  | sent => exact absurd hi (not_le.2 hit)
  | processed => exact absurd hi (not_le.2 hit)
  | worker => exact absurd hi (not_le.2 hit)
  | callback info ready =>
    obtain ⟨-, -, hcreated⟩ := threadSafeCallback_same s.emitter info ready
    exact absurd (hcreated ▸ hit) (not_lt.2 hi)
  | returned env info =>
    obtain ⟨-, -, hcreated⟩ := callbackReturned_same s.emitter env info
    exact absurd (hcreated ▸ hit) (not_lt.2 hi)

/-- **Every step keeps the order.** -/
theorem ordered_step {s t : DeliverySys} {a : EmitOp} (h : Ordered s) (hst : s.step ffrtUsage a = some t) :
    Ordered t := by
  have hline := inLine_step h.toInLine hst
  have both : ∀ i < t.emitter.created, ∀ p,
      (t.line i p).Pairwise (fun e e' => e.number < e'.number) ∧
        ∀ e ∈ t.line i p, e.number < t.emitted.length := by
    intro i hit p
    by_cases hi : i < s.emitter.created
    · obtain ⟨es, he, hsub, -⟩ := line_step h.toInLine hi hst p
      obtain ⟨hes, hlt⟩ := emitStep_numbers hst es he
      have hlen : s.emitted.length ≤ t.emitted.length := by
        rw [he, List.length_append]
        omega
      have hmem : ∀ e ∈ s.meant i p es, e ∈ es := fun e he => (List.mem_filter.1 he).1
      refine ⟨List.Pairwise.sublist hsub ?_, fun e he => ?_⟩
      · refine List.pairwise_append.2 ⟨h.line_sorted i hi p, hes.sublist List.filter_sublist, ?_⟩
        intro e he e' he'
        exact lt_of_lt_of_le (h.line_lt i hi p e he) (hlt e' (hmem e' he')).1
      · rcases List.mem_append.1 (hsub.subset he) with he | he
        · exact lt_of_lt_of_le (h.line_lt i hi p e he) hlen
        · exact (hlt e (hmem e he)).2
    · obtain ⟨hl, he⟩ := line_created h.toInLine hst (not_lt.1 hi) hit p
      rw [hl, he]
      exact ⟨h.sorted.sublist List.filter_sublist,
        fun e he => h.queue_lt e (List.mem_filter.1 he).1⟩
  exact ⟨hline, fun i hi p => (both i hi p).1, fun i hi p => (both i hi p).2⟩

theorem reachable_ordered {ok : DeliverySys → EmitOp → Prop} {s : DeliverySys}
    (h : (emitSystem ffrtUsage).Reachable ok s) : Ordered s := by
  apply h.invariant (I := Ordered)
  · have hlisted : Listed emitterSystem.init :=
      @reachable_listed System.always _ System.Reachable.init
    exact ⟨⟨hlisted, .nil, fun _ hi => (List.not_mem_nil hi).elim,
      fun _ _ he => (List.not_mem_nil he).elim, fun _ hc => (List.not_mem_nil hc).elim,
      fun _ _ => ⟨rfl, fun _ hc => (List.not_mem_nil hc).elim⟩, .nil,
      fun _ he => (List.not_mem_nil he).elim⟩,
      fun i hi => absurd hi (Nat.not_lt_zero i), fun i hi => absurd hi (Nat.not_lt_zero i)⟩
  · intro s a t hs _ hst
    exact ordered_step hs hst

/-- **Calls in order.** In every run, with any registrations and removals in between, a listener is
    called for the events of one priority in the order of their emission, so at most once for each,
    and only for events of its own id. -/
theorem calls_in_order {s : DeliverySys} (h : (emitSystem ffrtUsage).Reachable System.always s) (i : Nat)
    (p : Priority) : (s.called i p).Pairwise (fun e e' => e.number < e'.number) ∧
      ∀ e ∈ s.called i p, e.priority = p ∧ e.id = (s.emitter.infos i).compositeId := by
  have hs := reachable_ordered h
  have hmem : ∀ e ∈ s.called i p, (i, e) ∈ s.calls ∧ e.priority = p := by
    intro e he
    obtain ⟨c, hc, rfl⟩ := List.mem_map.1 he
    obtain ⟨hmem, hcp⟩ := List.mem_filter.1 hc
    obtain ⟨rfl, hp⟩ := of_decide_eq_true hcp
    exact ⟨hmem, hp⟩
  refine ⟨?_, fun e he => ⟨(hmem e he).2, hs.calls_own _ (hmem e he).1⟩⟩
  by_cases hi : i < s.emitter.created
  · exact (hs.line_sorted i hi p).sublist (List.sublist_append_left _ _)
  · rw [List.eq_nil_iff_forall_not_mem.2 fun e he => hi (hs.lt_of_call (hmem e he).1)]
    exact .nil

/-- Two events are emitted before the first one is dispatched, and both are handled. -/
def twoEmits : List EmitOp :=
  [.emit ⟨.u32 1, 0⟩ .HIGH true, .emit ⟨.u32 1, 0⟩ .HIGH true, .processEvent .HIGH,
    .callWorker 0 true, .threadSafeCallback 0 true, .callbackReturned 0, .processEvent .HIGH,
    .callWorker 0 true, .threadSafeCallback 0 true, .callbackReturned 0]

/-- Two calls in order, of a listener of the thread 0. -/
theorem calls_in_order_two : ∃ s : DeliverySys, (s.called 0 .HIGH).length = 2 ∧
    (s.called 0 .HIGH).Pairwise fun e e' => e.number < e'.number := by
  obtain ⟨s, hs, hl⟩ := System.run_of_exec (emitSystem true) System.always
    (fun s => (s.called 0 .HIGH).length = 2)
    (.listeners (.onOrOnce 0 ⟨.u32 1, 0⟩ 7 false true) :: twoEmits) (by decide)
  exact ⟨s, hl, (calls_in_order ⟨_, hs⟩ 0 .HIGH).1⟩

/-- The listener is registered and valid, and the runtime works for it. -/
def EmitOp.keeps (i : Nat) (s : DeliverySys) (a : EmitOp) : Prop := s.Stays i ∧ a.works i = true

instance (i : Nat) (s : DeliverySys) (a : EmitOp) : Decidable (EmitOp.keeps i s a) :=
  inferInstanceAs (Decidable (_ ∧ _))

/-- **Every event exactly once.** While a listener stays registered, whatever else is registered,
    removed, emitted and dispatched, its calls for a priority followed by what is outstanding are
    those of before followed by the events of its id that the queue has kept since; so once nothing is
    outstanding it was called exactly once for each of them, in the order of their emission. -/
theorem delivered_exactly {s t : DeliverySys} {as : List EmitOp} {i : Nat}
    (h : (emitSystem ffrtUsage).Reachable System.always s) (hrun : (emitSystem ffrtUsage).Run (EmitOp.keeps i) s as t)
    (ht : t.Stays i) (p : Priority) :
    t.called i p ++ t.outstanding i p =
      s.called i p ++ s.outstanding i p ++ t.meant i p (t.emitted.drop s.emitted.length) := by
  have hi : i < s.emitter.created := by
    cases hrun with
    | nil => exact (reachable_ordered h).listed.instances_lt _ i ht.1
    | cons hok _ _ => exact (reachable_ordered h).listed.instances_lt _ i hok.1.1
  have hinv := hrun.invariant (I := fun u => InLine u ∧ i < u.emitter.created ∧
      (u.emitter.infos i).compositeId = (s.emitter.infos i).compositeId ∧
      ∃ es, u.emitted = s.emitted ++ es ∧ u.line i p = s.line i p ++ s.meant i p es)
    (fun u a w hu ha hst => by
      obtain ⟨hline, hiu, hid, es, hes, hl⟩ := hu
      obtain ⟨es', hes', -, hkeep⟩ := line_step hline hiu hst p
      have hgrow : u.emitter.created ≤ w.emitter.created ∧
          (w.emitter.infos i).compositeId = (u.emitter.infos i).compositeId := by
        rcases emitStep_emitter hst with he | ⟨op, he⟩
        · rw [he]
          exact ⟨le_refl _, rfl⟩
        · exact ⟨(emitterStep_grows he).1, (emitterStep_grows he).2 i hiu⟩
      refine ⟨inLine_step hline hst, lt_of_lt_of_le hiu hgrow.1, hgrow.2.trans hid, es ++ es', ?_, ?_⟩
      · rw [hes', hes, List.append_assoc]
      · rw [hkeep ha.1 ha.2, hl, meant_append, meant_congr hid, List.append_assoc])
    ⟨(reachable_ordered h).toInLine, hi, rfl, [], (List.append_nil _).symm,
      (List.append_nil _).symm⟩
  obtain ⟨-, -, hid, es, hes, hl⟩ := hinv
  rw [hes, List.drop_left, meant_congr hid]
  exact hl

/-- Of two emitted events both are called. -/
theorem delivered_exactly_two : ∃ t : DeliverySys, t.emitted.length = 2 ∧
    t.called 0 .HIGH = t.meant 0 .HIGH t.emitted := by
  let s := (emitSystem true).next (emitSystem true).init (.listeners (.onOrOnce 0 ⟨.u32 1, 0⟩ 7 false true))
  have hs : (emitSystem true).Reachable System.always s :=
    System.Reachable.init.step trivial (System.step_next rfl)
  obtain ⟨t, hex, ht⟩ := (Option.any_eq_true _ _).1
    (show ((emitSystem true).execIf (fun s a => decide (EmitOp.keeps 0 s a)) s twoEmits).any
      (fun t => decide (t.Stays 0 ∧ t.outstanding 0 .HIGH = [] ∧ t.emitted.length = 2)) = true
      by decide)
  obtain ⟨hstays, hout, hlen⟩ := of_decide_eq_true ht
  have hrun := (System.run_of_execIf hex).mono fun s a h => of_decide_eq_true h
  have h := delivered_exactly hs hrun hstays .HIGH
  rw [hout, List.append_nil] at h
  exact ⟨t, hlen, h⟩

end AppExecFwk
