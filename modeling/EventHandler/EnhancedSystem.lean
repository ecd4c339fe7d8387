import Mathlib
import EventHandler.Lib.Transition
import EventHandler.AniManager
import EventHandler.EnhancedEmitter

/-!
# The enhanced emitter

`AsyncCallbackManager` of `async_callback_manager.cpp` holds the N-API and the ANI listeners side by
side.  An event that has a listener in one of the two runtimes is sent to the emitter's queue, which
hands one event after the other to `NapiDoCallback` and then to `AniDoCallback`.

* `EnhancedSys`, `EnhancedOp`, `EnhancedSys.step` — the two managers and the dispatch between them.
* `napiOnce`, `aniOnce` — the listeners whose once flag was set in every state since their creation.
* `enhanced_cases` — a step is a step of one of the two managers, or sends an event.

`off` without a callback is two steps, the ANI manager first; so is `GetListenerCountByEventId`.
-/

set_option autoImplicit false

namespace AppExecFwk

open Transition Transition.System

/-! ## The two managers -/

/-- The steps that the dispatch and the emitting functions make. -/
def EmitterOp.byManager : EmitterOp → Bool
  | .emit _ => true
  | .processEvent _ => true
  | _ => false

def AniOp.byManager : AniOp → Bool
  | .doCallback _ => true
  | _ => false

structure EnhancedSys where
  napi : EmitterSys
  ani : AniManager
  /-- The event that `NapiDoCallback` has and `AniDoCallback` has not yet got. -/
  event : Option CompositeEventId
  /-- The once flag of the N-API listener was set ever since it was created. -/
  napiOnce : Nat → Bool
  /-- The same of the ANI listener. -/
  aniOnce : Nat → Bool

inductive EnhancedOp where
  | emit (id : CompositeEventId)
  /-- `DoCallback`, with `NapiDoCallback` up to the copy of the set. -/
  | doCallback (id : CompositeEventId)
  /-- `AniDoCallback` up to the copy of the set. -/
  | aniDoCallback
  | napi (op : EmitterOp)
  | ani (op : AniOp)
  deriving DecidableEq, Repr

namespace EnhancedSys

def isExistValidCallback (s : EnhancedSys) (id : CompositeEventId) : Bool :=
  !(s.napi.emitterInstances id).isEmpty || s.ani.isExistValidCallback id

def move (s : EnhancedSys) : EnhancedOp → Option EnhancedSys
  | .emit id =>
    some
      (if s.isExistValidCallback id then
        { s with napi := { s.napi with pending := s.napi.pending ++ [id] } }
      else s)
  | .doCallback id =>
    -- the dispatch of the event before has ended
    if s.event = none ∧ s.ani.aniCallbackInfos = [] ∧ s.ani.pushed = false then
      (s.napi.stepEnhanced (.processEvent id)).map fun napi =>
        { s with napi := napi, event := some id }
    else none
  | .aniDoCallback =>
    match s.event with
    | some id =>
      if s.napi.callbackInfos = [] then
        (s.ani.step (.doCallback id)).map fun ani => { s with ani := ani, event := none }
      else none
    | none => none
  | .napi op =>
    if op.byManager then none else (s.napi.stepEnhanced op).map fun napi => { s with napi := napi }
  | .ani op => if op.byManager then none else (s.ani.step op).map fun ani => { s with ani := ani }

def step (s : EnhancedSys) (op : EnhancedOp) : Option EnhancedSys :=
  (s.move op).map fun t =>
    { t with
      napiOnce := fun info =>
        (t.napi.infos info).once && (s.napiOnce info || decide (s.napi.created ≤ info))
      aniOnce := fun info =>
        (t.ani.infos info).once && (s.aniOnce info || decide (s.ani.created ≤ info)) }

end EnhancedSys

def enhancedSystem : System EnhancedSys EnhancedOp where
  init :=
    { napi := emitterSystem.init
      ani := aniSystem.init
      event := none
      napiOnce := fun _ => false
      aniOnce := fun _ => false }
  step := EnhancedSys.step

/-! ## A step of one manager -/

/-- A step of the N-API listeners, or an event is sent. -/
inductive NapiMove (s : EmitterSys) : EmitterSys → Prop
  | sent (pending : List CompositeEventId) : NapiMove s { s with pending := pending }
  | stepped {op : EmitterOp} {t : EmitterSys} (h : s.stepEnhanced op = some t) : NapiMove s t

/-- A step of the ANI listeners, which an ANI function, a thread or the dispatch makes. -/
inductive AniMove (s : AniManager) : EnhancedOp → AniManager → Prop
  | stepped {op : AniOp} {t : AniManager} (h : s.step op = some t) : AniMove s (.ani op) t
  | dispatched {id : CompositeEventId} {t : AniManager} (h : s.step (.doCallback id) = some t) :
      AniMove s .aniDoCallback t

section Steps

variable {s t : EnhancedSys} {op : EnhancedOp}

theorem enhanced_cases (hst : s.step op = some t) :
    (NapiMove s.napi t.napi ∧ t.ani = s.ani) ∨ (t.napi = s.napi ∧ AniMove s.ani op t.ani) := by
  obtain ⟨u, hu, rfl⟩ := Option.map_eq_some_iff.1 hst
  cases op <;> simp only [EnhancedSys.move] at hu
  case emit id =>
    simp only [Option.some.injEq] at hu
    subst hu
    left
    split
    · exact ⟨.sent _, rfl⟩
    · exact ⟨.sent _, rfl⟩
  case doCallback id =>
    simp only [Option.ite_none_right_eq_some, Option.map_eq_some_iff] at hu
    obtain ⟨-, napi, hn, rfl⟩ := hu
    exact .inl ⟨.stepped hn, rfl⟩
  case aniDoCallback =>
    split at hu
    · simp only [Option.ite_none_right_eq_some, Option.map_eq_some_iff] at hu
      obtain ⟨-, ani, ha, rfl⟩ := hu
      exact .inr ⟨rfl, .dispatched ha⟩
    · cases hu
  case napi op =>
    simp only [Option.ite_none_left_eq_some, Option.map_eq_some_iff] at hu
    obtain ⟨-, napi, hn, rfl⟩ := hu
    exact .inl ⟨.stepped hn, rfl⟩
  case ani op =>
    simp only [Option.ite_none_left_eq_some, Option.map_eq_some_iff] at hu
    obtain ⟨-, ani, ha, rfl⟩ := hu
    exact .inr ⟨rfl, .stepped ha⟩

/-- A listener whose once flag was set up to now has it set, and had it before if it was there. -/
theorem napiOnce_step (hst : s.step op = some t) {info : Nat} (ho : t.napiOnce info = true) :
    (t.napi.infos info).once = true ∧ (s.napiOnce info = true ∨ s.napi.created ≤ info) := by
  obtain ⟨u, hu, rfl⟩ := Option.map_eq_some_iff.1 hst
  simpa using ho

theorem aniOnce_step (hst : s.step op = some t) {info : Nat} (ho : t.aniOnce info = true) :
    (t.ani.infos info).once = true ∧ (s.aniOnce info = true ∨ s.ani.created ≤ info) := by
  obtain ⟨u, hu, rfl⟩ := Option.map_eq_some_iff.1 hst
  simpa using ho

end Steps

end AppExecFwk
