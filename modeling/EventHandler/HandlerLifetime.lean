import EventHandler.Ledger
import EventHandler.Runner

/-!
# The life of the handlers

Any number of handlers over any number of runners.  An event holds a weak reference to its handler;
the users of a handler and the loop that dispatches one of its events hold strong ones.  When the
last of these goes the handler is expired, and `~EventHandler` runs some time later.

* `HandlerRecord`, `HandlerSys` — the handlers, and the queue and the loop of each runner, with what
  has become of each event that left its queue (`Fate`).
* `HandlerSys.step` — the constructor and the destructor, `SendEvent`, the removals,
  `SetEventRunner`, and the loops: `GetEvent`, `GetOwner` in `ExecuteEventHandler`, its return.
* `HandlerEffect`, `handler_step_cases` — the inversion of a step.
* `Moves`, `step_moves` — what a step does to the events of one runner.
* `HandlerSys.projected`, `projected_step` — what a step asks of the queue and the loop of a runner.
* `runner_step`, `runner_refines` — each runner makes a step of `queueSystem`, or none, and with loops
  in the default mode a run of the handlers is a run of `defaultModeLoop` in each runner.

`SetEventRunner` is not called while another thread sends an event of the handler or removes one:
the source does not guard `eventRunner_`.
-/

set_option autoImplicit false

namespace AppExecFwk

open Transition EventQueueBase

inductive HandlerPhase where
  | absent
  | alive
  /-- No strong reference is left; `~EventHandler` has not removed the orphans. -/
  | expired
  | destroyed
  deriving DecidableEq, Repr

structure HandlerRecord where
  phase : HandlerPhase := .absent
  handlerId : String := ""
  eventRunner : Option Nat := none
  /-- The strong references of the users. -/
  refs : Nat := 0
  /-- The runners whose loops are in `DistributeEvent` of the handler. -/
  loops : List Nat := []
  deriving DecidableEq, Repr

/-- Why an event has left its runner. -/
inductive Fate where
  | dispatched
  /-- `GetOwner` has returned null. -/
  | invalid
  /-- `RemoveOrphan` has dropped it. -/
  | orphan
  | removed
  deriving DecidableEq, Repr

structure HandlerSys where
  handler : Nat → HandlerRecord
  /-- The queue and the loop of each runner. -/
  runner : Nat → Sys
  /-- The event whose handler the loop holds. -/
  dispatching : Nat → Option InnerEvent
  fates : Nat → List (Fate × InnerEvent)

/-- The removals of `EventHandler`. -/
inductive HandlerRemoval where
  | allEvents
  | byId (innerEventId : UInt32)
  | byParam (innerEventId : UInt32) (param : Int)
  | byName (name : String)
  deriving DecidableEq, Repr

def HandlerRemoval.selector (owner : EventHandler) : HandlerRemoval → Selector
  | .allEvents => .owner (some owner)
  | .byId innerEventId => .id (some owner) innerEventId
  | .byParam innerEventId param => .param (some owner) innerEventId param
  | .byName name => .name (some owner) name

inductive HandlerOp where
  | create (h : Nat) (handlerId : String) (runner : Option Nat)
  | copy (h : Nat)
  | drop (h : Nat)
  | setEventRunner (h : Nat) (runner : Option Nat)
  /-- `~EventHandler`. -/
  | destructor (h : Nat) (main : Option Nat) (onMain : Bool)
  | send (h : Nat) (main : Option Nat) (onMain : Bool) (now recv : ClockTime) (event : InnerEvent)
      (priority : Priority) (insertType : EventInsertType) (option : VsyncBarrierOption)
  | remove (h : Nat) (removal : HandlerRemoval)
  /-- A step of the loop in `GetEvent` or `GetExpiredEvent`, or one that writes no event. -/
  | loop (r : Nat) (op : Op)
  /-- `event->GetOwner()` in `ExecuteEventHandler`. -/
  | getOwner (r : Nat)
  /-- The end of `ExecuteEventHandler`. -/
  | executed (r : Nat)

/-- The loop asks for an event. -/
def Op.asks : Op → Bool
  | .getEvent => true
  | .getExpiredEvent _ _ => true
  | _ => false

/-- What a loop does by itself; `SetUsable` is never called. -/
def Op.ofLoop : Op → Bool
  | .getEvent => true
  | .getExpiredEvent _ _ => true
  | .pass _ => true
  | .wakeUp => true
  | .pollReturn => true
  | .flag (.setUsable _) => false
  | .flag _ => true
  | _ => false

/-- A strong reference is gone. -/
def HandlerRecord.settle (x : HandlerRecord) : HandlerRecord :=
  if x.refs = 0 ∧ x.loops = [] then { x with phase := .expired } else x

namespace HandlerSys

def setHandler (s : HandlerSys) (h : Nat) (x : HandlerRecord) : HandlerSys :=
  { s with handler := Function.update s.handler h x }

def setRunner (s : HandlerSys) (r : Nat) (t : Sys) : HandlerSys :=
  { s with runner := Function.update s.runner r t }

def log (s : HandlerSys) (r : Nat) (fate : Fate) (events : List InnerEvent) : HandlerSys :=
  { s with fates := Function.update s.fates r (s.fates r ++ events.map fun e => (fate, e)) }

/-- The handlers as the queues see them. -/
def process (s : HandlerSys) (main : Option Nat) (onMain : Bool) : Process where
  alive := fun h => decide ((s.handler h).phase = .alive)
  eventRunner := fun h => (s.handler h).eventRunner
  mainEventRunner := main
  isAppMainThread := onMain

/-- `GetOwner`: the weak reference is locked. -/
def ownerOf (s : HandlerSys) (e : InnerEvent) : Option Nat :=
  e.owner.filter fun h => decide ((s.handler h).phase = .alive)

/-- The object with its id. -/
def object (s : HandlerSys) (h : Nat) : EventHandler := ⟨h, (s.handler h).handlerId⟩

/-- `SetOwner` and `SetOwnerId` of `SendEvent`. -/
def addressed (s : HandlerSys) (h : Nat) (event : InnerEvent) : InnerEvent :=
  { event with owner := some h, ownerId := (s.handler h).handlerId }

/-- A call of `Remove` for the queue of a runner. -/
def removeEvents (P : SystemParameters) (s : HandlerSys) (r : Nat) (selector : Selector) :
    Option HandlerSys :=
  match (s.runner r).step P (.remove selector) with
  | some t => some ((s.setRunner r t).log r .removed
      ((s.runner r).queue.allEvents.filter fun e =>
        (s.runner r).queue.usable && selector.selects e))
  | none => none

/-- The loop is not in `GetEvent`, and has no event. -/
def idle (s : HandlerSys) (r : Nat) : Bool :=
  decide ((s.runner r).pc = .outside) && (s.runner r).current.isNone && (s.dispatching r).isNone

def step (P : SystemParameters) (s : HandlerSys) : HandlerOp → Option HandlerSys
  | .create h handlerId runner =>
    if (s.handler h).phase = .absent then
      some (s.setHandler h
        { phase := .alive, handlerId := handlerId, eventRunner := runner, refs := 1 })
    else none
  | .copy h =>
    if (s.handler h).phase = .alive then
      some (s.setHandler h { s.handler h with refs := (s.handler h).refs + 1 })
    else none
  | .drop h =>
    if 0 < (s.handler h).refs then
      some (s.setHandler h { s.handler h with refs := (s.handler h).refs - 1 }.settle)
    else none
  | .setEventRunner h runner =>
    if (s.handler h).phase = .alive then
      if (s.handler h).eventRunner = runner then some s
      else
        match (s.handler h).eventRunner with
        | none => some (s.setHandler h { s.handler h with eventRunner := runner })
        | some r =>
          -- All events of the handler leave the old runner.
          match s.removeEvents P r (HandlerRemoval.allEvents.selector (s.object h)) with
          | some t => some (t.setHandler h { s.handler h with eventRunner := runner })
          | none => none
    else none
  | .destructor h main onMain =>
    if (s.handler h).phase = .expired then
      match (s.handler h).eventRunner with
      | none => some (s.setHandler h { s.handler h with phase := .destroyed })
      | some r =>
        match (s.runner r).step P (.removeOrphan (s.process main onMain)) with
        | some t => some (((s.setRunner r t).log r .orphan
            ((s.runner r).queue.allEvents.filter fun e =>
              (s.runner r).queue.usable && e.ownerExpired (s.process main onMain))).setHandler h
            { s.handler h with phase := .destroyed })
        | none => none
    else none
  | .send h main onMain now recv event priority insertType option =>
    if (s.handler h).phase = .alive then
      match (s.handler h).eventRunner with
      | none => some s
      | some r =>
        match (s.runner r).step P (.insert (s.process main onMain) now recv
          (some (s.addressed h event)) priority insertType option) with
        | some t => some (s.setRunner r t)
        | none => none
    else none
  | .remove h removal =>
    if (s.handler h).phase = .alive then
      match (s.handler h).eventRunner with
      | none => some s
      | some r => s.removeEvents P r (removal.selector (s.object h))
    else none
  | .loop r op =>
    if op.ofLoop ∧ (op.asks → s.idle r) then
      match (s.runner r).step P op with
      | some t => some (s.setRunner r t)
      | none => none
    else none
  | .getOwner r =>
    match (s.runner r).current, s.dispatching r with
    | some e, none =>
      match s.ownerOf e with
      | some h =>
        match (s.runner r).step P .execute with
        | some t => some { ((s.setRunner r t).log r .dispatched [e]).setHandler h
              { s.handler h with loops := r :: (s.handler h).loops } with
            dispatching := Function.update s.dispatching r (some e) }
        | none => none
      | none =>
        match (s.runner r).step P .release with
        | some t => some ((s.setRunner r t).log r .invalid [e])
        | none => none
    | _, _ => none
  | .executed r =>
    match s.dispatching r with
    | some e =>
      match e.owner with
      | some h => some { s.setHandler h
            { s.handler h with loops := (s.handler h).loops.erase r }.settle with
          dispatching := Function.update s.dispatching r none }
      | none => none
    | none => none

end HandlerSys

/-- No handler, and every queue empty. -/
def handlerSystem (P : SystemParameters) (start : ClockTime) : System HandlerSys HandlerOp where
  init :=
    { handler := fun _ => {}
      runner := fun _ => (queueSystem P start).init
      dispatching := fun _ => none
      fates := fun _ => [] }
  step := HandlerSys.step P

/-- `SendEvent` is called with one of the five enumerators. -/
def HandlerOp.namedPriority : HandlerOp → Bool
  | .send _ _ _ _ _ _ priority _ _ => priority.slot.isSome
  | _ => true

/-! ## Inversion of a step -/

/-- What a step does, one case for each branch. -/
inductive HandlerEffect (P : SystemParameters) (s : HandlerSys) : HandlerOp → HandlerSys → Prop
  | created (h : Nat) (handlerId : String) (runner : Option Nat)
      (hp : (s.handler h).phase = .absent) :
      HandlerEffect P s (.create h handlerId runner) (s.setHandler h
        { phase := .alive, handlerId := handlerId, eventRunner := runner, refs := 1 })
  | copied (h : Nat) (hp : (s.handler h).phase = .alive) :
      HandlerEffect P s (.copy h)
        (s.setHandler h { s.handler h with refs := (s.handler h).refs + 1 })
  | dropped (h : Nat) (hr : 0 < (s.handler h).refs) :
      HandlerEffect P s (.drop h)
        (s.setHandler h { s.handler h with refs := (s.handler h).refs - 1 }.settle)
  | sameRunner (h : Nat) (runner : Option Nat) (hr : (s.handler h).eventRunner = runner) :
      HandlerEffect P s (.setEventRunner h runner) s
  | firstRunner (h : Nat) (runner : Option Nat) (hp : (s.handler h).phase = .alive)
      (hr : (s.handler h).eventRunner = none) :
      HandlerEffect P s (.setEventRunner h runner)
        (s.setHandler h { s.handler h with eventRunner := runner })
  | moved (h : Nat) (runner : Option Nat) (r : Nat) (t : Sys)
      (hp : (s.handler h).phase = .alive) (hr : (s.handler h).eventRunner = some r)
      (hne : runner ≠ some r)
      (hst : (s.runner r).step P (.remove (.owner (some (s.object h)))) = some t) :
      HandlerEffect P s (.setEventRunner h runner) (((s.setRunner r t).log r .removed
        ((s.runner r).queue.allEvents.filter fun e => (s.runner r).queue.usable &&
          (Selector.owner (some (s.object h))).selects e)).setHandler h
        { s.handler h with eventRunner := runner })
  | destroyedAlone (h : Nat) (main : Option Nat) (onMain : Bool)
      (hp : (s.handler h).phase = .expired) (hr : (s.handler h).eventRunner = none) :
      HandlerEffect P s (.destructor h main onMain)
        (s.setHandler h { s.handler h with phase := .destroyed })
  | destroyed (h : Nat) (main : Option Nat) (onMain : Bool) (r : Nat) (t : Sys)
      (hp : (s.handler h).phase = .expired) (hr : (s.handler h).eventRunner = some r)
      (hst : (s.runner r).step P (.removeOrphan (s.process main onMain)) = some t) :
      HandlerEffect P s (.destructor h main onMain) (((s.setRunner r t).log r .orphan
        ((s.runner r).queue.allEvents.filter fun e =>
          (s.runner r).queue.usable && e.ownerExpired (s.process main onMain))).setHandler h
        { s.handler h with phase := .destroyed })
  | unsent (h : Nat) (main : Option Nat) (onMain : Bool) (now recv : ClockTime)
      (event : InnerEvent) (priority : Priority) (insertType : EventInsertType)
      (option : VsyncBarrierOption) (hr : (s.handler h).eventRunner = none) :
      HandlerEffect P s (.send h main onMain now recv event priority insertType option) s
  | sent (h : Nat) (main : Option Nat) (onMain : Bool) (now recv : ClockTime) (event : InnerEvent)
      (priority : Priority) (insertType : EventInsertType) (option : VsyncBarrierOption) (r : Nat)
      (t : Sys) (hp : (s.handler h).phase = .alive) (hr : (s.handler h).eventRunner = some r)
      (hst : (s.runner r).step P (.insert (s.process main onMain) now recv
        (some (s.addressed h event)) priority insertType option) = some t) :
      HandlerEffect P s (.send h main onMain now recv event priority insertType option)
        (s.setRunner r t)
  | unremoved (h : Nat) (removal : HandlerRemoval) (hr : (s.handler h).eventRunner = none) :
      HandlerEffect P s (.remove h removal) s
  | removed (h : Nat) (removal : HandlerRemoval) (r : Nat) (t : Sys)
      (hr : (s.handler h).eventRunner = some r)
      (hst : (s.runner r).step P (.remove (removal.selector (s.object h))) = some t) :
      HandlerEffect P s (.remove h removal) ((s.setRunner r t).log r .removed
        ((s.runner r).queue.allEvents.filter fun e =>
          (s.runner r).queue.usable && (removal.selector (s.object h)).selects e))
  | looped (r : Nat) (op : Op) (t : Sys) (hop : op.ofLoop = true)
      (hask : op.asks = true → s.idle r = true) (hst : (s.runner r).step P op = some t) :
      HandlerEffect P s (.loop r op) (s.setRunner r t)
  | begun (r : Nat) (e : InnerEvent) (h : Nat) (t : Sys) (hc : (s.runner r).current = some e)
      (hd : s.dispatching r = none) (ho : s.ownerOf e = some h)
      (hst : (s.runner r).step P .execute = some t) :
      HandlerEffect P s (.getOwner r)
        { ((s.setRunner r t).log r .dispatched [e]).setHandler h
            { s.handler h with loops := r :: (s.handler h).loops } with
          dispatching := Function.update s.dispatching r (some e) }
  | invalid (r : Nat) (e : InnerEvent) (t : Sys) (hc : (s.runner r).current = some e)
      (ho : s.ownerOf e = none) (hst : (s.runner r).step P .release = some t) :
      HandlerEffect P s (.getOwner r) ((s.setRunner r t).log r .invalid [e])
  | executed (r : Nat) (e : InnerEvent) (h : Nat) (hd : s.dispatching r = some e)
      (ho : e.owner = some h) :
      HandlerEffect P s (.executed r) { s.setHandler h
          { s.handler h with loops := (s.handler h).loops.erase r }.settle with
        dispatching := Function.update s.dispatching r none }

theorem removeEvents_some {P : SystemParameters} {s t : HandlerSys} {r : Nat} {selector : Selector}
    (h : s.removeEvents P r selector = some t) :
    ∃ x, (s.runner r).step P (.remove selector) = some x ∧
      t = (s.setRunner r x).log r .removed ((s.runner r).queue.allEvents.filter fun e =>
        (s.runner r).queue.usable && selector.selects e) := by
  unfold HandlerSys.removeEvents at h
  split at h
  · rename_i x hx
    cases h
    exact ⟨x, hx, rfl⟩
  · cases h

/-- **Inversion of a step.** -/
theorem handler_step_cases {P : SystemParameters} {s t : HandlerSys} {a : HandlerOp}
    (hst : s.step P a = some t) : HandlerEffect P s a t := by
  cases a with
  | create h handlerId runner =>
    simp only [HandlerSys.step, Option.ite_none_right_eq_some, Option.some.injEq] at hst
    obtain ⟨hp, rfl⟩ := hst
    exact .created h handlerId runner hp
  | copy h =>
    simp only [HandlerSys.step, Option.ite_none_right_eq_some, Option.some.injEq] at hst
    obtain ⟨hp, rfl⟩ := hst
    exact .copied h hp
  | drop h =>
    simp only [HandlerSys.step, Option.ite_none_right_eq_some, Option.some.injEq] at hst
    obtain ⟨hr, rfl⟩ := hst
    exact .dropped h hr
  | setEventRunner h runner =>
    simp only [HandlerSys.step, Option.ite_none_right_eq_some] at hst
    obtain ⟨hp, hst⟩ := hst
    split at hst
    · rename_i hr
      cases hst
      exact .sameRunner h runner hr
    · rename_i hne
      split at hst
      · rename_i hr
        cases hst
        exact .firstRunner h runner hp hr
      · rename_i r hr
        split at hst
        · rename_i x hx
          cases hst
          obtain ⟨y, hy, rfl⟩ := removeEvents_some hx
          exact .moved h runner r y hp hr (fun hc => hne (hr.trans hc.symm)) hy
        · cases hst
  | destructor h main onMain =>
    simp only [HandlerSys.step, Option.ite_none_right_eq_some] at hst
    obtain ⟨hp, hst⟩ := hst
    split at hst
    · rename_i hr
      cases hst
      exact .destroyedAlone h main onMain hp hr
    · rename_i r hr
      split at hst
      · rename_i x hx
        cases hst
        exact .destroyed h main onMain r x hp hr hx
      · cases hst
  | send h main onMain now recv event priority insertType option =>
    simp only [HandlerSys.step, Option.ite_none_right_eq_some] at hst
    obtain ⟨hp, hst⟩ := hst
    split at hst
    · rename_i hr
      cases hst
      exact .unsent h main onMain now recv event priority insertType option hr
    · rename_i r hr
      split at hst
      · rename_i x hx
        cases hst
        exact .sent h main onMain now recv event priority insertType option r x hp hr hx
      · cases hst
  | remove h removal =>
    simp only [HandlerSys.step, Option.ite_none_right_eq_some] at hst
    obtain ⟨hp, hst⟩ := hst
    split at hst
    · rename_i hr
      cases hst
      exact .unremoved h removal hr
    · rename_i r hr
      obtain ⟨y, hy, rfl⟩ := removeEvents_some hst
      exact .removed h removal r y hr hy
  | loop r op =>
    simp only [HandlerSys.step, Option.ite_none_right_eq_some] at hst
    obtain ⟨⟨hop, hask⟩, hst⟩ := hst
    split at hst
    · rename_i x hx
      cases hst
      exact .looped r op x hop hask hx
    · cases hst
  | getOwner r =>
    simp only [HandlerSys.step] at hst
    split at hst
    · rename_i e hc hd
      split at hst
      · rename_i h ho
        split at hst
        · rename_i x hx
          cases hst
          exact .begun r e h x hc hd ho hx
        · cases hst
      · rename_i ho
        split at hst
        · rename_i x hx
          cases hst
          exact .invalid r e x hc ho hx
        · cases hst
    · cases hst
  | executed r =>
    simp only [HandlerSys.step] at hst
    split at hst
    · rename_i e hd
      split at hst
      · rename_i h ho
        cases hst
        exact .executed r e h hd ho
      · cases hst
    · cases hst

/-! ## The hand of a loop -/

/-- The event that a loop has taken and not executed. -/
def Sys.inHand (x : Sys) : Option InnerEvent :=
  match x.pc with
  | .polling e _ => some e
  | _ => x.current

/-- What the loop has been given, and what removals have dropped. -/
def Sys.gone (x : Sys) : List Nat := x.returned ++ x.discarded

/-- The loop holds no event while it is in `GetEvent`. -/
def Sys.Handless (x : Sys) : Prop := x.pc ≠ .outside → x.current = none

theorem Sys.inHand_of_outside {x : Sys} (h : x.pc = .outside) : x.inHand = x.current := by
  unfold Sys.inHand
  rw [h]

/-- What a loop does by itself to its events. -/
inductive LoopMove (x y : Sys) : Prop
  | kept (hl : SameEvents x.queue y.queue) (hg : y.gone = x.gone) (hh : y.inHand = x.inHand)
  | taken (e : InnerEvent) (hl : x.queue.allEvents.Perm (e :: y.queue.allEvents))
      (hg : y.gone.Perm (e.ticket :: x.gone)) (hx : x.inHand = none) (hy : y.inHand = some e)

theorem gone_take {x y : Sys} {e : InnerEvent} (hr : y.returned = x.returned ++ [e.ticket])
    (hd : y.discarded = x.discarded) : y.gone.Perm (e.ticket :: x.gone) := by
  unfold Sys.gone
  rw [hr, hd, List.append_assoc]
  exact List.perm_middle

theorem loop_move {P : SystemParameters} {x y : Sys} {op : Op} (hst : x.step P op = some y)
    (hop : op.ofLoop = true) (hask : op.asks = true → x.pc = .outside ∧ x.current = none)
    (hx : x.Handless) : LoopMove x y ∧ y.Handless := by
  cases step_cases hst with
  | expiredEvent now next e hl he =>
    obtain ⟨hpc, hc⟩ := hask rfl
    obtain ⟨p, k, -, htk⟩ := getExpiredEventLocked_some he
    refine ⟨.taken e (allEvents_take htk) (gone_take rfl rfl) ?_ ?_, fun hne => absurd hpc hne⟩
    · rw [Sys.inHand_of_outside hpc, hc]
    · exact Sys.inHand_of_outside (x := { x.take e _ with current := some e }) hpc
  | expiredNone now next hl hn =>
    exact ⟨.kept (getExpiredEventLocked_none hn).2.1 rfl rfl, hx⟩
  | getEvent hpc =>
    obtain ⟨-, hc⟩ := hask rfl
    refine ⟨.kept (SameLists.refl _).sameEvents rfl ?_, fun _ => hc⟩
    rw [Sys.inHand_of_outside hpc]
    rfl
  | pass clk n hpc =>
    have hc : x.current = none := hx (by rw [hpc]; simp)
    have hhand : x.inHand = none := by
      unfold Sys.inHand
      rw [hpc]
      exact hc
    have hsome := @getEventPass_some P clk x.queue
    have hnone := @getEventPass_none P clk x.queue
    generalize x.queue.getEventPass P clk = o at hsome hnone
    obtain ⟨queue, pass⟩ := o
    cases pass with
    | finished => exact ⟨.kept (hnone rfl) rfl (hc.trans hhand.symm), fun _ => hc⟩
    | returned e =>
      obtain ⟨p, k, -, htk⟩ := hsome rfl
      exact ⟨.taken e (allEvents_take htk) (gone_take rfl rfl) hhand rfl,
        fun hne => absurd rfl hne⟩
    | poll e need =>
      obtain ⟨p, k, -, htk⟩ := hsome rfl
      exact ⟨.taken e (allEvents_take htk) (gone_take rfl rfl) hhand rfl, fun _ => hc⟩
    | again => exact ⟨.kept (hnone rfl) rfl (hc.trans hhand.symm), fun _ => hc⟩
    | wait d => exact ⟨.kept (hnone rfl) rfl (hc.trans hhand.symm), fun _ => hc⟩
  | wakeUp d hpc =>
    have hc : x.current = none := hx (by rw [hpc]; simp)
    refine ⟨.kept (afterWait_sameLists _).sameEvents rfl ?_, fun _ => hc⟩
    unfold Sys.inHand
    rw [hpc]
  | pollReturn e need hpc =>
    refine ⟨.kept (afterPoll_sameLists _ _).sameEvents rfl ?_, fun hne => absurd rfl hne⟩
    unfold Sys.inHand
    rw [hpc]
  | flag f => exact ⟨.kept (applyFlag_sameLists _ f).sameEvents rfl rfl, hx⟩
  | insert => cases hop
  | remove => cases hop
  | removeOrphan => cases hop
  | removeAll => cases hop
  | execute => cases hop
  | release => cases hop

/-- `usable_` is written by `SetUsable` only. -/
theorem step_usable {P : SystemParameters} {x y : Sys} {op : Op} (hst : x.step P op = some y)
    (hop : ∀ b, op ≠ .flag (.setUsable b)) : y.queue.usable = x.queue.usable := by
  cases hl : op.setsLife with
  | false => exact (queueStep_life hl hst).usable
  | true =>
    cases step_cases hst with
    | flag f =>
      have hw := applyFlag_writes x.queue f
      show (x.queue.applyFlag f).usable = x.queue.usable
      generalize x.queue.applyFlag f = q at hw
      cases hw with
      | setUsable b => exact absurd rfl (hop b)
      | _ => rfl
    | _ => cases hl

/-! ## What a step does to the events of a runner -/

/-- The events in the queue of a runner. -/
def HandlerSys.pending (s : HandlerSys) (r : Nat) : List InnerEvent :=
  (s.runner r).queue.allEvents

/-- An event as `SendEvent` puts it into the queue of a runner. -/
def HandlerSys.Sent (s : HandlerSys) (r : Nat) (e : InnerEvent) : Prop :=
  ∃ h, e.owner = some h ∧ e.ownerId = (s.handler h).handlerId ∧
    (s.handler h).eventRunner = some r ∧ (s.handler h).phase = .alive

inductive Moves (s : HandlerSys) (r : Nat) (t : HandlerSys) : Prop
  | kept (hl : ∀ e ∈ t.pending r, e ∈ s.pending r ∨ s.Sent r e)
      (hg : (t.runner r).gone = (s.runner r).gone)
      (hh : (t.runner r).inHand = (s.runner r).inHand) (hf : t.fates r = s.fates r)
  | left (filter : InnerEvent → Bool) (fate : Fate)
      (hl : ∀ e ∈ t.pending r, e ∈ s.pending r ∧ filter e = false)
      (hg : (t.runner r).gone
        = (s.runner r).gone ++ ((s.pending r).filter filter).map InnerEvent.ticket)
      (hh : (t.runner r).inHand = (s.runner r).inHand)
      (hf : t.fates r = s.fates r ++ ((s.pending r).filter filter).map fun e => (fate, e))
      (hfate : fate = .removed ∨ fate = .orphan ∧ ∀ e, filter e = true → s.ownerOf e = none)
  | taken (e : InnerEvent) (hl : (s.pending r).Perm (e :: t.pending r))
      (hg : (t.runner r).gone.Perm (e.ticket :: (s.runner r).gone))
      (hx : (s.runner r).inHand = none) (hy : (t.runner r).inHand = some e)
      (hf : t.fates r = s.fates r)
  | done (e : InnerEvent) (fate : Fate) (hl : ∀ e ∈ t.pending r, e ∈ s.pending r)
      (hg : (t.runner r).gone = (s.runner r).gone) (hx : (s.runner r).inHand = some e)
      (hy : (t.runner r).inHand = none) (hf : t.fates r = s.fates r ++ [(fate, e)])
      (hfate : (fate = .dispatched ∧ ∃ h, s.ownerOf e = some h) ∨
        (fate = .invalid ∧ s.ownerOf e = none))

theorem ownerExpired_iff (s : HandlerSys) (main : Option Nat) (onMain : Bool) (e : InnerEvent) :
    e.ownerExpired (s.process main onMain) = true ↔ s.ownerOf e = none := by
  unfold InnerEvent.ownerExpired HandlerSys.ownerOf HandlerSys.process
  cases e.owner with
  | none => simp
  | some h => simp [Option.filter]

theorem ownerOf_eq_some {s : HandlerSys} {e : InnerEvent} {h : Nat} :
    s.ownerOf e = some h ↔ e.owner = some h ∧ (s.handler h).phase = .alive := by
  unfold HandlerSys.ownerOf
  rw [Option.filter_eq_some_iff, decide_eq_true_iff]

/-- The runner is not touched. -/
theorem Moves.of_same {s t : HandlerSys} {r : Nat} (hr : t.runner r = s.runner r)
    (hf : t.fates r = s.fates r) : Moves s r t := by
  refine .kept (fun e he => Or.inl ?_) (by rw [hr]) (by rw [hr]) hf
  unfold HandlerSys.pending at *
  rwa [hr] at he

/-- A removal, seen from the runner. -/
theorem Moves.of_discards {s t : HandlerSys} {r : Nat} {filter : InnerEvent → Bool} {fate : Fate}
    {q : EventQueueBase} (hd : Discards filter (s.runner r).queue q)
    (hr : t.runner r = (s.runner r).discard filter q)
    (hf : t.fates r = s.fates r ++ ((s.pending r).filter filter).map fun e => (fate, e))
    (hfate : fate = .removed ∨ fate = .orphan ∧ ∀ e, filter e = true → s.ownerOf e = none) :
    Moves s r t := by
  refine .left filter fate (fun e he => ?_) ?_ ?_ hf hfate
  · unfold HandlerSys.pending at he ⊢
    rw [hr] at he
    have he' : e ∈ q.allEvents := he
    rw [allEvents_discard hd, List.mem_filter] at he'
    exact ⟨he'.1, by simpa using he'.2⟩
  · rw [hr]
    exact (List.append_assoc ..).symm
  · rw [hr]
    rfl

theorem preparedEvent_owner (p : Process) (q : EventQueueBase) (event : InnerEvent)
    (priority : Priority) (option : VsyncBarrierOption) :
    (preparedEvent p q event priority option).owner = event.owner ∧
      (preparedEvent p q event priority option).ownerId = event.ownerId := by
  unfold preparedEvent
  rw [markBarrierTaskIfNeed_eq]
  exact ⟨rfl, rfl⟩

/-- `Insert`, seen from the runner. -/
theorem Moves.of_insert {P : SystemParameters} {s t : HandlerSys} {r h : Nat} {y : Sys}
    {p : Process} {now recv : ClockTime} {event : InnerEvent} {priority : Priority}
    {ty : EventInsertType} {option : VsyncBarrierOption}
    (hst : (s.runner r).step P (.insert p now recv (some (s.addressed h event)) priority ty option)
      = some y) (hr : t.runner r = y) (hf : t.fates r = s.fates r)
    (hp : (s.handler h).phase = .alive) (he : (s.handler h).eventRunner = some r) :
    Moves s r t := by
  have hlogs : y.gone = (s.runner r).gone ∧ y.inHand = (s.runner r).inHand := by
    cases step_cases hst with
    | insert => exact ⟨rfl, rfl⟩
  refine .kept (fun e hm => ?_) (by rw [hr]; exact hlogs.1) (by rw [hr]; exact hlogs.2) hf
  unfold HandlerSys.pending at hm ⊢
  rw [hr] at hm
  cases step_listEffect hst with
  | same hl => exact Or.inl (allEvents_same hl ▸ hm)
  | unstored _ hl => exact Or.inl (allEvents_same hl ▸ hm)
  | inserted k e' ty' hsrc hk hl =>
    rcases List.mem_cons.1 ((allEvents_insert hk hl).mem_iff.1 hm) with rfl | hm
    · obtain ⟨u, -, hu⟩ := storedEvent_eq ((s.runner r).queue.events k) e' ty'
      obtain ⟨p', now', recv', event', priority', option', hop, -, -, rfl⟩ := hsrc
      cases hop
      obtain ⟨ho, hid⟩ := preparedEvent_owner p (s.runner r).queue
        ((s.runner r).stamp (s.addressed h event)) priority option
      rw [hu]
      exact Or.inr ⟨h, ho, hid, he, hp⟩
    · exact Or.inl hm
  | discarded _ hsel => cases hsel
  | taken _ _ e' _ _ _ _ _ hret =>
    have hsame : y.returned = (s.runner r).returned := by
      cases step_cases hst with
      | insert => rfl
    rw [hsame] at hret
    simp at hret

/-- The end of `GetOwner`, seen from the runner. -/
theorem Moves.of_done {s t : HandlerSys} {r : Nat} {e : InnerEvent} {fate : Fate} {y : Sys}
    (hs : (s.runner r).Handless) (hc : (s.runner r).current = some e) (hr : t.runner r = y)
    (hl : SameEvents (s.runner r).queue y.queue) (hg : y.gone = (s.runner r).gone)
    (hpc : y.pc = (s.runner r).pc) (hy : y.current = none)
    (hf : t.fates r = s.fates r ++ [(fate, e)])
    (hfate : (fate = .dispatched ∧ ∃ h, s.ownerOf e = some h) ∨
      (fate = .invalid ∧ s.ownerOf e = none)) : Moves s r t := by
  have hout : (s.runner r).pc = .outside := by
    by_contra hne
    rw [hs hne] at hc
    cases hc
  refine .done e fate (fun x hx => ?_) (by rw [hr]; exact hg) ?_ ?_ hf hfate
  · unfold HandlerSys.pending at hx ⊢
    rw [hr, allEvents_same hl] at hx
    exact hx
  · rw [Sys.inHand_of_outside hout, hc]
  · rw [hr, Sys.inHand_of_outside (hpc.trans hout), hy]

/-- **What a step does to the events of each runner.** -/
theorem step_moves {P : SystemParameters} {s t : HandlerSys} {a : HandlerOp}
    (hs : ∀ r, (s.runner r).Handless) (hst : s.step P a = some t) (r : Nat) :
    Moves s r t ∧ (t.runner r).Handless := by
  have other : ∀ {t : HandlerSys}, t.runner r = s.runner r → t.fates r = s.fates r →
      Moves s r t ∧ (t.runner r).Handless := by
    intro t hr hf
    exact ⟨.of_same hr hf, hr ▸ hs r⟩
  have hand : ∀ {t : HandlerSys} {y : Sys}, t.runner r = y → y.Handless →
      (t.runner r).Handless := by
    intro t y hr hy
    exact hr ▸ hy
  have removal : ∀ {t : HandlerSys} {y : Sys} {selector : Selector}, t.runner r = y →
      (s.runner r).step P (.remove selector) = some y →
      t.fates r = s.fates r ++ ((s.pending r).filter fun e =>
        (s.runner r).queue.usable && selector.selects e).map (fun e => (Fate.removed, e)) →
      Moves s r t ∧ (t.runner r).Handless := by
    intro t y selector hr hy hf
    cases step_cases hy with
    | remove selector hl =>
      exact ⟨.of_discards (remove_discards selector _) hr hf (Or.inl rfl), hr ▸ hs r⟩
  cases handler_step_cases hst with
  | created => exact other rfl rfl
  | copied => exact other rfl rfl
  | dropped => exact other rfl rfl
  | sameRunner => exact other rfl rfl
  | firstRunner => exact other rfl rfl
  | destroyedAlone => exact other rfl rfl
  | unsent => exact other rfl rfl
  | unremoved => exact other rfl rfl
  | executed => exact other rfl rfl
  | moved h runner r' y hp hr hne hy =>
    by_cases he : r = r'
    · subst he
      exact removal (Function.update_self ..) hy (Function.update_self ..)
    · exact other (Function.update_of_ne he ..) (Function.update_of_ne he ..)
  | removed h removal' r' y hr hy =>
    by_cases he : r = r'
    · subst he
      exact removal (Function.update_self ..) hy (Function.update_self ..)
    · exact other (Function.update_of_ne he ..) (Function.update_of_ne he ..)
  | destroyed h main onMain r' y hp hr hy =>
    by_cases he : r = r'
    · subst he
      cases step_cases hy with
      | removeOrphan p hl =>
        have hd := removeOrphan_discards (s.process main onMain) (s.runner r).queue
        refine ⟨.of_discards hd (Function.update_self ..) (Function.update_self ..)
          (Or.inr ⟨rfl, fun e hf => ?_⟩), ?_⟩
        · exact (ownerExpired_iff s main onMain e).1 (Bool.and_eq_true_iff.1 hf).2
        · exact hand (Function.update_self ..) (hs r)
    · exact other (Function.update_of_ne he ..) (Function.update_of_ne he ..)
  | sent h main onMain now recv event priority ty option r' y hp hr hy =>
    by_cases he : r = r'
    · subst he
      refine ⟨.of_insert hy (Function.update_self ..) rfl hp hr, ?_⟩
      have hself : (s.setRunner r y).runner r = y := Function.update_self ..
      rw [hself]
      cases step_cases hy with
      | insert => exact hs r
    · exact other (Function.update_of_ne he ..) rfl
  | looped r' op y hop hask hy =>
    by_cases he : r = r'
    · subst he
      have hself : (s.setRunner r y).runner r = y := Function.update_self ..
      have hidle : op.asks = true → (s.runner r).pc = .outside ∧ (s.runner r).current = none := by
        intro h
        have hi := hask h
        unfold HandlerSys.idle at hi
        simp only [Bool.and_eq_true, decide_eq_true_iff, Option.isNone_iff_eq_none] at hi
        exact hi.1
      obtain ⟨hm, hh⟩ := loop_move hy hop hidle (hs r)
      rw [hself]
      refine ⟨?_, hh⟩
      cases hm with
      | kept hl hg hi =>
        refine .kept (fun e hmem => Or.inl ?_) (by rw [hself, hg]) (by rw [hself, hi]) rfl
        unfold HandlerSys.pending at hmem ⊢
        rw [hself, allEvents_same hl] at hmem
        exact hmem
      | taken e hl hg hx hy' =>
        refine .taken e ?_ (by rw [hself]; exact hg) hx (by rw [hself, hy']) rfl
        unfold HandlerSys.pending
        rw [hself]
        exact hl
    · exact other (Function.update_of_ne he ..) rfl
  | begun r' e h y hc hd ho hy =>
    by_cases he : r = r'
    · subst he
      cases step_cases hy with
      | execute e' hc' =>
        have hpc : ((s.runner r).runTask e').pc = (s.runner r).pc ∧
            ((s.runner r).runTask e').current = none ∧
            ((s.runner r).runTask e').gone = (s.runner r).gone := by
          unfold Sys.runTask
          split <;> exact ⟨rfl, rfl, rfl⟩
        refine ⟨.of_done (hs r) hc (Function.update_self ..) (runTask_sameLists _ e').sameEvents
          hpc.2.2 hpc.1 hpc.2.1 (Function.update_self ..) (Or.inl ⟨rfl, h, ho⟩), ?_⟩
        exact hand (Function.update_self ..) fun _ => hpc.2.1
    · exact other (Function.update_of_ne he ..) (Function.update_of_ne he ..)
  | invalid r' e y hc ho hy =>
    by_cases he : r = r'
    · subst he
      cases step_cases hy with
      | release e' hc' =>
        refine ⟨.of_done (hs r) hc (Function.update_self ..) (SameLists.refl _).sameEvents
          rfl rfl rfl (Function.update_self ..) (Or.inr ⟨rfl, ho⟩), ?_⟩
        exact hand (Function.update_self ..) fun _ => rfl
    · exact other (Function.update_of_ne he ..) (Function.update_of_ne he ..)

/-! ## The runners by themselves -/

/-- What an operation does to the queue or the loop of a runner. -/
def HandlerSys.projected (s : HandlerSys) (r : Nat) : HandlerOp → Option Op
  | .setEventRunner h runner =>
    if (s.handler h).eventRunner = some r ∧ runner ≠ some r then
      some (.remove (.owner (some (s.object h))))
    else none
  | .destructor h main onMain =>
    if (s.handler h).eventRunner = some r then some (.removeOrphan (s.process main onMain))
    else none
  | .send h main onMain now recv event priority insertType option =>
    if (s.handler h).eventRunner = some r then
      some (.insert (s.process main onMain) now recv (some (s.addressed h event)) priority
        insertType option)
    else none
  | .remove h removal =>
    if (s.handler h).eventRunner = some r then some (.remove (removal.selector (s.object h)))
    else none
  | .loop r' op => if r' = r then some op else none
  | .getOwner r' =>
    if r' = r then
      match (s.runner r).current with
      | some e => some (if (s.ownerOf e).isSome then .execute else .release)
      | none => none
    else none
  | _ => none

/-- The runner makes the step that the operation asks of it. -/
def HandlerSys.Follows (P : SystemParameters) (s : HandlerSys) (r : Nat) (a : HandlerOp)
    (t : HandlerSys) : Prop :=
  match s.projected r a with
  | some op => (s.runner r).step P op = some (t.runner r)
  | none => t.runner r = s.runner r

theorem HandlerSys.Follows.of_none {P : SystemParameters} {s t : HandlerSys} {r : Nat} {a : HandlerOp}
    (hp : s.projected r a = none) (hr : t.runner r = s.runner r) : s.Follows P r a t := by
  unfold HandlerSys.Follows
  rw [hp]
  exact hr

theorem HandlerSys.Follows.of_some {P : SystemParameters} {s t : HandlerSys} {r r' : Nat} {a : HandlerOp}
    {op : Op} {y : Sys} (hy : (s.runner r').step P op = some y)
    (ht : t.runner = Function.update s.runner r' y)
    (hp : s.projected r a = if r' = r then some op else none) : s.Follows P r a t := by
  unfold HandlerSys.Follows
  rw [hp, ht]
  by_cases he : r' = r
  · subst he
    rw [if_pos rfl, Function.update_self]
    exact hy
  · rw [if_neg he]
    exact Function.update_of_ne (Ne.symm he) ..

/-- **A step of the system is a step of each runner, or none.** -/
theorem projected_step {P : SystemParameters} {s t : HandlerSys} {a : HandlerOp}
    (hst : s.step P a = some t) (r : Nat) : s.Follows P r a t := by
  cases handler_step_cases hst with
  | created => exact .of_none rfl rfl
  | copied => exact .of_none rfl rfl
  | dropped => exact .of_none rfl rfl
  | executed => exact .of_none rfl rfl
  | sameRunner h runner hr =>
    refine .of_none (if_neg ?_) rfl
    rintro ⟨he, hne⟩
    exact hne (hr.symm.trans he)
  | firstRunner h runner hp hr => exact .of_none (if_neg (by simp [hr])) rfl
  | destroyedAlone h main onMain hp hr => exact .of_none (if_neg (by simp [hr])) rfl
  | unsent h main onMain now recv event priority ty option hr =>
    exact .of_none (if_neg (by simp [hr])) rfl
  | unremoved h removal hr => exact .of_none (if_neg (by simp [hr])) rfl
  | moved h runner r' y hp hr hne hy =>
    refine .of_some hy rfl ?_
    have hc : ((s.handler h).eventRunner = some r ∧ runner ≠ some r) ↔ r' = r := by
      rw [hr, Option.some.injEq]
      refine ⟨And.left, ?_⟩
      rintro rfl
      exact ⟨rfl, hne⟩
    simp only [HandlerSys.projected, hc]
  | destroyed h main onMain r' y hp hr hy =>
    exact .of_some hy rfl (by simp only [HandlerSys.projected, hr, Option.some.injEq])
  | sent h main onMain now recv event priority ty option r' y hp hr hy =>
    exact .of_some hy rfl (by simp only [HandlerSys.projected, hr, Option.some.injEq])
  | removed h removal r' y hr hy =>
    exact .of_some hy rfl (by simp only [HandlerSys.projected, hr, Option.some.injEq])
  | looped r' op y hop hask hy => exact .of_some hy rfl rfl
  | begun r' e h y hc hd ho hy =>
    refine .of_some hy rfl ?_
    by_cases he : r' = r
    · subst he
      simp only [HandlerSys.projected, if_true, hc, ho, Option.isSome_some]
    · simp only [HandlerSys.projected, if_neg he]
  | invalid r' e y hc ho hy =>
    refine .of_some hy rfl ?_
    by_cases he : r' = r
    · subst he
      simp only [HandlerSys.projected, if_true, hc, ho, Option.isSome_none, Bool.false_eq_true,
        if_false]
    · simp only [HandlerSys.projected, if_neg he]

/-- The loops are `DefaultModeLoop`s, and the vsync notifications come from the queue and the tasks. -/
def HandlerOp.inDefaultMode : HandlerOp → Bool
  | .loop _ (.getExpiredEvent _ _) => false
  | .loop _ (.flag op) => !op.isNotification
  | _ => true

/-- The operations that the handlers and `ExecuteEventHandler` ask of a runner beside `Insert`. -/
def Op.plain : Op → Bool
  | .remove _ => true
  | .removeOrphan _ => true
  | .execute => true
  | .release => true
  | _ => false

theorem projected_cases {s : HandlerSys} {r : Nat} {a : HandlerOp} {op : Op}
    (hp : s.projected r a = some op) : op.plain = true ∨ a = .loop r op ∨
      ∃ p now recv event priority ty option, op = .insert p now recv event priority ty option ∧
        (a.namedPriority = true → priority.slot.isSome = true) := by
  cases a with
  | setEventRunner h runner =>
    simp only [HandlerSys.projected, Option.ite_none_right_eq_some, Option.some.injEq] at hp
    obtain ⟨-, rfl⟩ := hp
    exact Or.inl rfl
  | destructor h main onMain =>
    simp only [HandlerSys.projected, Option.ite_none_right_eq_some, Option.some.injEq] at hp
    obtain ⟨-, rfl⟩ := hp
    exact Or.inl rfl
  | send h main onMain now recv event priority ty option =>
    simp only [HandlerSys.projected, Option.ite_none_right_eq_some, Option.some.injEq] at hp
    obtain ⟨-, rfl⟩ := hp
    exact Or.inr (Or.inr ⟨_, _, _, _, _, _, _, rfl, id⟩)
  | remove h removal =>
    simp only [HandlerSys.projected, Option.ite_none_right_eq_some, Option.some.injEq] at hp
    obtain ⟨-, rfl⟩ := hp
    exact Or.inl rfl
  | loop r' op' =>
    simp only [HandlerSys.projected, Option.ite_none_right_eq_some, Option.some.injEq] at hp
    obtain ⟨rfl, rfl⟩ := hp
    exact Or.inr (Or.inl rfl)
  | getOwner r' =>
    simp only [HandlerSys.projected, Option.ite_none_right_eq_some] at hp
    obtain ⟨-, hp⟩ := hp
    split at hp
    · cases hp
      left
      split <;> rfl
    · cases hp
  | create => cases hp
  | copy => cases hp
  | drop => cases hp
  | executed => cases hp

/-- What a loop does by itself is one of the operations of `Op.ofLoop`, and it asks for an event only
    when it has none. -/
theorem loop_step {P : SystemParameters} {s t : HandlerSys} {r : Nat} {op : Op}
    (hst : s.step P (.loop r op) = some t) :
    op.ofLoop = true ∧ (op.asks = true → (s.runner r).current = none) := by
  simp only [HandlerSys.step, Option.ite_none_right_eq_some] at hst
  obtain ⟨⟨hop, hask⟩, -⟩ := hst
  refine ⟨hop, fun h => ?_⟩
  have hi := hask h
  unfold HandlerSys.idle at hi
  simp only [Bool.and_eq_true, Option.isNone_iff_eq_none] at hi
  exact hi.1.2

/-- A runner makes a step of its own system, or none. -/
theorem runner_step {P : SystemParameters} {s t : HandlerSys} {a : HandlerOp}
    (hst : s.step P a = some t) (r : Nat) : t.runner r = s.runner r ∨
      ∃ op, (s.runner r).step P op = some (t.runner r) ∧
        (a.namedPriority = true → op.namedPriority = true) ∧
        (a.inDefaultMode = true → inDefaultMode (s.runner r) op = true) ∧
        ∀ b, op ≠ .flag (.setUsable b) := by
  have hf := projected_step hst r
  unfold HandlerSys.Follows at hf
  split at hf
  · rename_i op hp
    refine Or.inr ⟨op, hf, ?_⟩
    rcases projected_cases hp with hplain | rfl | ⟨p, now, recv, event, priority, ty, option, rfl, hn⟩
    · cases op with
      | remove => exact ⟨fun _ => rfl, fun _ => rfl, fun _ h => by cases h⟩
      | removeOrphan => exact ⟨fun _ => rfl, fun _ => rfl, fun _ h => by cases h⟩
      | execute => exact ⟨fun _ => rfl, fun _ => rfl, fun _ h => by cases h⟩
      | release => exact ⟨fun _ => rfl, fun _ => rfl, fun _ h => by cases h⟩
      | _ => cases hplain
    · obtain ⟨hop, hask⟩ := loop_step hst
      refine ⟨fun _ => ?_, fun hd => ?_, fun b h => ?_⟩
      · cases op with
        | insert => cases hop
        | _ => rfl
      · cases op with
        | getExpiredEvent => cases hd
        | getEvent => exact Option.isNone_iff_eq_none.2 (hask rfl)
        | flag f => exact hd
        | _ => rfl
      · rw [h] at hop
        cases hop
    · exact ⟨hn, fun _ => rfl, fun _ h => by cases h⟩
  · exact Or.inl hf

/-- **The system refines the queue of each runner.** In every run of the handlers with loops in the
    default mode each runner goes through a run of `defaultModeLoop`, whatever is created, moved,
    released and destroyed. -/
theorem runner_refines (P : SystemParameters) (start : ClockTime) {s t : HandlerSys}
    {as : List HandlerOp} (hrun : (handlerSystem P start).Run
      (fun _ a => a.namedPriority = true ∧ a.inDefaultMode = true) s as t) (r : Nat) :
    ∃ bs, (defaultModeLoop P start).Run (fun _ b => b.namedPriority = true) (s.runner r) bs
      (t.runner r) ∧ bs.length ≤ as.length := by
  induction hrun with
  | nil s => exact ⟨[], .nil _, le_refl _⟩
  | @cons s u t a as hok hst _ ih =>
    obtain ⟨bs, hbs, hlen⟩ := ih
    rcases runner_step (P := P) (a := a) hst r with hr | ⟨op, hop, hn, hd, -⟩
    · rw [hr] at hbs
      exact ⟨bs, hbs, Nat.le_succ_of_le hlen⟩
    · exact ⟨op :: bs, .cons (hn hok.1) (System.restrict_step.2 ⟨hd hok.2, hop⟩) hbs,
        Nat.succ_le_succ hlen⟩

end AppExecFwk
