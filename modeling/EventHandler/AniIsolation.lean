import Mathlib
import EventHandler.AniManager
import EventHandler.EmitPriority

/-!
# Isolation of the ANI listeners

The ANI functions name an event by a `long` or a string, and by the emitter instance they are called
on; the manager knows it by a `CompositeEventId`.

* `AniTarget`, `AniTarget.key` — what a call is for, and the key it is given.
* `AniCalls` — the manager, with the target each listener was registered for and each event was
  emitted for; `AniCalls.step` makes the calls of `ani_emitter.cpp`.
* `Isolated` — a call changes, takes away, counts or invokes no listener of another target.
* `Apart`, `key_injOn_iff` — targets that have different keys.
* `isolation_iff` — the order of the keys is a strict total order that agrees with `operator!=`, and
  the calls for a set of targets are isolated exactly when these targets are apart.
-/

set_option autoImplicit false

namespace AppExecFwk

open Transition

/-! ## Targets -/

/-- What a call is for. -/
inductive AniTarget where
  /-- The functions of the module, with a number. -/
  | number (eventId : Int64)
  /-- The functions of the module, with a text. -/
  | text (eventId : String)
  /-- The methods of the emitter that was constructed after `index` others. -/
  | emitter (index : Nat) (eventId : String)
  deriving DecidableEq, Repr

/-- The result of the call number `index` of `GetNextEmitterInstanceId`, which counts on from 1 and
    serves the emitters of both runtimes. -/
def getNextEmitterInstanceId (index : Nat) : UInt32 := UInt32.ofNat (index + 2)

/-- `static_cast<ani_long>(instanceId)`. -/
def emitterIdValue (index : Nat) : Int64 := (getNextEmitterInstanceId index).toUInt64.toInt64

namespace AniTarget

/-- The key the ANI functions make of their arguments. -/
def key : AniTarget → CompositeEventId
  | .number eventId => ⟨.u32 (aniUInt32 eventId), 0⟩
  | .text eventId => ⟨.str eventId, 0⟩
  | .emitter index eventId => ⟨.str eventId, (aniUInt32 (emitterIdValue index)).toNat⟩

end AniTarget

/-- The id of an emitter survives its way through a `long`. -/
theorem aniUInt32_emitterIdValue (index : Nat) :
    aniUInt32 (emitterIdValue index) = getNextEmitterInstanceId index := by
  unfold aniUInt32 emitterIdValue
  simp

/-- No two long ids are equal in their low 32 bits, no two emitters got the same id from the counter,
    and none that shares a text with the functions of the module got their id, 0. -/
structure Apart (T : Set AniTarget) : Prop where
  numbers : ∀ m n, .number m ∈ T → .number n ∈ T → aniUInt32 m = aniUInt32 n → m = n
  emitters : ∀ m n eventId, .emitter m eventId ∈ T → .emitter n eventId ∈ T →
    getNextEmitterInstanceId m = getNextEmitterInstanceId n → m = n
  plain : ∀ n eventId, .emitter n eventId ∈ T → .text eventId ∈ T →
    getNextEmitterInstanceId n ≠ 0

theorem key_injOn_iff (T : Set AniTarget) : Set.InjOn AniTarget.key T ↔ Apart T := by
  constructor
  · intro h
    refine ⟨?_, ?_, ?_⟩
    · intro m n hm hn he
      have hk := h hm hn (by simp [AniTarget.key, he])
      exact AniTarget.number.inj hk
    · intro m n eventId hm hn he
      have hk := h hm hn (by simp [AniTarget.key, aniUInt32_emitterIdValue, he])
      exact (AniTarget.emitter.inj hk).1
    · intro n eventId hn ht he
      have hk := h hn ht (by simp [AniTarget.key, aniUInt32_emitterIdValue, he])
      cases hk
  · rintro h (m | a | ⟨m, a⟩) hm (n | b | ⟨n, b⟩) hn hk
    · rw [h.numbers m n hm hn (by simpa [AniTarget.key] using hk)]
    · simp [AniTarget.key] at hk
    · simp [AniTarget.key] at hk
    · simp [AniTarget.key] at hk
    · simp only [AniTarget.key, CompositeEventId.mk.injEq, EventId.str.injEq, and_true] at hk
      rw [hk]
    · simp only [AniTarget.key, CompositeEventId.mk.injEq, EventId.str.injEq,
        aniUInt32_emitterIdValue] at hk
      obtain ⟨rfl, h0⟩ := hk
      exact absurd (UInt32.toNat_inj.1 h0.symm) (h.plain n a hn hm)
    · simp [AniTarget.key] at hk
    · simp only [AniTarget.key, CompositeEventId.mk.injEq, EventId.str.injEq,
        aniUInt32_emitterIdValue] at hk
      obtain ⟨rfl, h0⟩ := hk
      exact absurd (UInt32.toNat_inj.1 h0) (h.plain m a hm hn)
    · simp only [AniTarget.key, CompositeEventId.mk.injEq, EventId.str.injEq,
        aniUInt32_emitterIdValue, UInt32.toNat_inj] at hk
      obtain ⟨rfl, he⟩ := hk
      rw [h.emitters m n a hm hn he]

/-! ## Calls -/

structure AniCalls where
  manager : AniManager
  /-- The target a listener was registered for. -/
  registered : Nat → AniTarget
  /-- The targets of the events sent and not yet dispatched. -/
  pending : List AniTarget

inductive AniCall where
  | onOrOnce (target : AniTarget) (once : Bool) (callback : Nat) (made : Bool)
  | off (target : AniTarget)
  | offCallback (target : AniTarget) (callback found : Nat)
  /-- `listened` is true when the other runtime has a listener. -/
  | emit (target : AniTarget) (listened : Bool)
  | getListenerCount (target : AniTarget)
  /-- `AniDoCallback` of an event emitted for the target. -/
  | doCallback (target : AniTarget)
  /-- The rest of a dispatch, or a step of a worker. -/
  | worker (op : AniOp)
  deriving DecidableEq, Repr

def AniCall.target : AniCall → Option AniTarget
  | .onOrOnce target _ _ _ => some target
  | .off target => some target
  | .offCallback target _ _ => some target
  | .emit target _ => some target
  | .getListenerCount target => some target
  | .doCallback target => some target
  | .worker _ => none

namespace AniCalls

def setManager (s : AniCalls) (manager : AniManager) : AniCalls := { s with manager := manager }

def step (s : AniCalls) : AniCall → Option AniCalls
  | .onOrOnce target once callback made =>
    some
      { s with
        manager := s.manager.insertCallbackInfo target.key once callback made
        registered := Function.update s.registered s.manager.created target }
  | .off target => some (s.setManager (s.manager.deleteCallbackInfoByEventId target.key))
  | .offCallback target callback found =>
    (s.manager.step (.deleteCallbackInfo target.key callback found)).map s.setManager
  | .emit target listened =>
    some
      (if listened || s.manager.isExistValidCallback target.key then
        { s with pending := s.pending ++ [target] }
      else s)
  | .getListenerCount target =>
    some (s.setManager (s.manager.getListenerCountByEventId target.key).1)
  | .doCallback target =>
    if target ∈ s.pending then
      (s.manager.step (.doCallback target.key)).map fun manager =>
        { s with manager := manager, pending := s.pending.erase target }
    else none
  | .worker op => if op.internal then (s.manager.step op).map s.setManager else none

/-- The listeners a call counts, or an event is handed to. -/
def reaches (s : AniCalls) : AniCall → List Nat
  | .getListenerCount target => (s.manager.prune target.key).listeners target.key
  | .doCallback target => (s.manager.doCallback target.key).aniCallbackInfos
  | _ => []

/-- The listener is as it was, and in the sets it was in. -/
structure Untouched (s t : AniCalls) (info : Nat) : Prop where
  infos : t.manager.infos info = s.manager.infos info
  listeners : ∀ id, info ∈ t.manager.listeners id ↔ info ∈ s.manager.listeners id

/-- A call for a target touches and reaches no listener of another. -/
def Isolated (s : AniCalls) (call : AniCall) (t : AniCalls) : Prop :=
  ∀ target, call.target = some target → ∀ info < s.manager.created,
    s.registered info ≠ target → Untouched s t info ∧ info ∉ s.reaches call

end AniCalls

def aniCallSystem : System AniCalls AniCall where
  init := { manager := aniSystem.init, registered := fun _ => .number 0, pending := [] }
  step := AniCalls.step

/-- The call is for one of the targets. -/
def usesOnly (T : Set AniTarget) (_ : AniCalls) (call : AniCall) : Prop :=
  ∀ target, call.target = some target → target ∈ T

/-- Every call of every history for these targets is isolated. -/
def IsolatedFor (T : Set AniTarget) : Prop :=
  ∀ s call t, aniCallSystem.Reachable (usesOnly T) s → usesOnly T s call →
    s.step call = some t → s.Isolated call t

/-! ## A call stays with its key -/

namespace AniManager

variable {s t : AniManager} {id : CompositeEventId} {info : Nat}

/-- A listener outside the set of a key is not touched by an operation on the key. -/
structure Keeps (s t : AniManager) (info : Nat) : Prop where
  infos : t.infos info = s.infos info
  listeners : ∀ id, info ∈ t.listeners id ↔ info ∈ s.listeners id

theorem keeps_insertCallbackInfo (hlt : info < s.created) (hm : info ∉ s.listeners id) (once : Bool)
    (callback : Nat) (made : Bool) : Keeps s (s.insertCallbackInfo id once callback made) info := by
  unfold insertCallbackInfo
  split
  · rename_i found hf
    have hne : info ≠ found := by
      rintro rfl
      exact hm (List.mem_of_find?_eq_some hf)
    refine ⟨?_, fun _ => Iff.rfl⟩
    simp [updateOnce, hne]
  · split
    · have hne : info ≠ s.created := by omega
      refine ⟨infos_insert hne id once callback, ?_⟩
      intro id'
      rw [listeners_insert]
      split
      · rename_i hid
        subst hid
        simp [hne]
      · exact Iff.rfl
    · exact ⟨rfl, fun _ => Iff.rfl⟩

theorem keeps_deleteCallbackInfo {found : Nat} (hf : found ∈ s.listeners id)
    (hm : info ∉ s.listeners id) : Keeps s (s.deleteCallbackInfo id found) info := by
  have hne : info ≠ found := by
    rintro rfl
    exact hm hf
  refine ⟨?_, ?_⟩
  · simp [deleteCallbackInfo, assign, markDeleted, hne]
  · intro id'
    rw [listeners_deleteCallbackInfo]
    split
    · rename_i hid
      subst hid
      rw [List.mem_erase_of_ne hne]
    · exact Iff.rfl

theorem keeps_deleteCallbackInfoByEventId (hm : info ∉ s.listeners id) :
    Keeps s (s.deleteCallbackInfoByEventId id) info := by
  refine ⟨?_, ?_⟩
  · simp [deleteCallbackInfoByEventId, markDeleted, hm]
  · intro id'
    rw [listeners_deleteCallbackInfoByEventId]
    split
    · rename_i hid
      subst hid
      simp [hm]
    · exact Iff.rfl

theorem keeps_prune (hm : info ∉ s.listeners id) : Keeps s (s.prune id) info := by
  refine ⟨by rw [infos_prune], ?_⟩
  intro id'
  rw [listeners_prune]
  split
  · rename_i hid
    subst hid
    simp [hm]
  · exact Iff.rfl

/-- A listener that was not there before has the key of the call. -/
theorem insertCallbackInfo_created (once : Bool) (callback : Nat) (made : Bool)
    (hge : s.created ≤ info) (hlt : info < (s.insertCallbackInfo id once callback made).created) :
    info = s.created ∧
      ((s.insertCallbackInfo id once callback made).infos info).compositeId = id := by
  unfold insertCallbackInfo at hlt ⊢
  split at hlt
  · have hc : info < s.created := hlt
    omega
  · split at hlt
    · rename_i hmade
      have hc : info < s.created + 1 := hlt
      have heq : info = s.created := by omega
      subst heq
      refine ⟨rfl, ?_⟩
      rw [if_pos hmade]
      simp [insert, AniAsyncCallbackInfo.compositeId]
    · omega

end AniManager

/-! ## Histories -/

/-- Every listener has the key of the target it was registered for, which is one of the targets. -/
structure AniCalls.Registered (T : Set AniTarget) (s : AniCalls) : Prop where
  placed : s.manager.Placed
  target : ∀ info < s.manager.created, s.registered info ∈ T ∧
    (s.registered info).key = (s.manager.infos info).compositeId

namespace AniCalls

variable {T : Set AniTarget} {s t : AniCalls}

theorem Registered.retires (h : Registered T s) (hregistered : t.registered = s.registered)
    (hr : s.manager.Retires t.manager) : Registered T t := by
  refine ⟨h.placed.retires hr, ?_⟩
  intro info hlt
  rw [hr.created] at hlt
  rw [hregistered, hr.compositeId]
  exact h.target info hlt

theorem Registered.onOrOnce (h : Registered T s) {target : AniTarget} (ht : target ∈ T)
    (once : Bool) (callback : Nat) (made : Bool) :
    Registered T
      { s with
        manager := s.manager.insertCallbackInfo target.key once callback made
        registered := Function.update s.registered s.manager.created target } := by
  have he := AniManager.insertCallbackInfo_effect s.manager target.key once callback made
  refine ⟨h.placed.effect he, ?_⟩
  intro info hlt
  dsimp only at hlt ⊢
  by_cases hold : info < s.manager.created
  · have hne : info ≠ s.manager.created := by omega
    rw [Function.update_of_ne hne, (AniManager.effect_compositeId he).2 info hold]
    exact h.target info hold
  · obtain ⟨rfl, hkey⟩ :=
      AniManager.insertCallbackInfo_created once callback made (by omega) hlt
    rw [Function.update_self, hkey]
    exact ⟨ht, rfl⟩

theorem registered_step (h : Registered T s) {call : AniCall} (hu : usesOnly T s call)
    (hst : s.step call = some t) : Registered T t := by
  cases call <;>
    simp only [step, Option.some.injEq, Option.map_eq_some_iff, Option.ite_none_right_eq_some] at hst
  case onOrOnce target once callback made =>
    subst hst
    exact h.onOrOnce (hu target rfl) once callback made
  case off target =>
    subst hst
    exact h.retires rfl (AniManager.retires_deleteCallbackInfoByEventId s.manager target.key)
  case offCallback target callback found =>
    obtain ⟨m, hm, rfl⟩ := hst
    simp only [AniManager.step] at hm
    split at hm
    · cases hm
      exact h.retires rfl (AniManager.retires_deleteCallbackInfo s.manager target.key found)
    · split at hm
      · cases hm
      · cases hm
        exact h
  case emit target listened =>
    subst hst
    split
    · exact ⟨h.placed, h.target⟩
    · exact h
  case getListenerCount target =>
    subst hst
    exact h.retires rfl (AniManager.retires_prune s.manager target.key)
  case doCallback target =>
    obtain ⟨-, m, hm, rfl⟩ := hst
    have hplaced := AniManager.placed_step h.placed hm
    simp only [AniManager.step, Option.ite_none_right_eq_some, Option.some.injEq] at hm
    obtain ⟨-, rfl⟩ := hm
    have h' := h.retires (t := s.setManager (s.manager.prune target.key)) rfl
      (AniManager.retires_prune s.manager target.key)
    exact ⟨hplaced, h'.target⟩
  case worker op =>
    obtain ⟨hop, m, hm, rfl⟩ := hst
    obtain ⟨hcreated, -, hid⟩ := AniManager.worker_container (AniManager.worker_cases hop hm)
    refine ⟨AniManager.placed_step h.placed hm, ?_⟩
    intro info hlt
    have hlt' : info < s.manager.created := by
      rw [← hcreated]
      exact hlt
    show s.registered info ∈ T ∧ (s.registered info).key = (m.infos info).compositeId
    rw [hid]
    exact h.target info hlt'

/-- A listener of another target is in another set. -/
theorem Registered.not_mem (h : Registered T s) (hT : Set.InjOn AniTarget.key T) {target : AniTarget}
    (ht : target ∈ T) {info : Nat} (hlt : info < s.manager.created)
    (hne : s.registered info ≠ target) : info ∉ s.manager.listeners target.key := by
  intro hm
  obtain ⟨hmem, hkey⟩ := h.target info hlt
  exact hne (hT hmem ht (hkey.trans (h.placed.own _ info hm)))

theorem untouched_of_keeps {info : Nat} (h : s.manager.Keeps t.manager info) : Untouched s t info :=
  ⟨h.infos, h.listeners⟩

/-- **A call is isolated where the targets have different keys.** -/
theorem isolated_step (h : Registered T s) (hT : Set.InjOn AniTarget.key T) {call : AniCall}
    (hu : usesOnly T s call) (hst : s.step call = some t) : s.Isolated call t := by
  intro target htarget info hlt hne
  have hm := h.not_mem hT (hu target htarget) hlt hne
  cases call <;> simp only [AniCall.target, Option.some.injEq, reduceCtorEq] at htarget <;>
    simp only [step, Option.some.injEq, Option.map_eq_some_iff, Option.ite_none_right_eq_some] at hst
  case onOrOnce target' once callback made =>
    subst htarget hst
    exact ⟨untouched_of_keeps (AniManager.keeps_insertCallbackInfo hlt hm once callback made),
      List.not_mem_nil⟩
  case off target' =>
    subst htarget hst
    exact ⟨untouched_of_keeps (AniManager.keeps_deleteCallbackInfoByEventId hm), List.not_mem_nil⟩
  case offCallback target' callback found =>
    subst htarget
    obtain ⟨m, hstep, rfl⟩ := hst
    simp only [AniManager.step] at hstep
    split at hstep
    · rename_i hf
      cases hstep
      exact ⟨untouched_of_keeps (AniManager.keeps_deleteCallbackInfo hf.1 hm), List.not_mem_nil⟩
    · split at hstep
      · cases hstep
      · cases hstep
        exact ⟨⟨rfl, fun _ => Iff.rfl⟩, List.not_mem_nil⟩
  case emit target' listened =>
    subst htarget hst
    refine ⟨?_, List.not_mem_nil⟩
    split <;> exact ⟨rfl, fun _ => Iff.rfl⟩
  case getListenerCount target' =>
    subst htarget hst
    have hkeeps := AniManager.keeps_prune hm
    exact ⟨untouched_of_keeps hkeeps, fun hr => hm ((hkeeps.listeners _).1 hr)⟩
  case doCallback target' =>
    subst htarget
    obtain ⟨-, m, hstep, rfl⟩ := hst
    simp only [AniManager.step, Option.ite_none_right_eq_some, Option.some.injEq] at hstep
    obtain ⟨-, rfl⟩ := hstep
    have hkeeps := AniManager.keeps_prune hm
    exact ⟨⟨hkeeps.infos, hkeeps.listeners⟩, fun hr => hm ((hkeeps.listeners _).1 hr)⟩

theorem registered_init (T : Set AniTarget) : Registered T aniCallSystem.init :=
  ⟨AniManager.placed_init, nofun⟩

end AniCalls

/-! ## Which targets are isolated -/

/-- The state after one registration. -/
def AniCalls.registeredFor (target : AniTarget) : AniCalls :=
  { manager := aniSystem.init.insert target.key false 0
    registered := Function.update (fun _ => .number 0) 0 target
    pending := [] }

theorem registeredFor_counts {a b : AniTarget} (h : b.key = a.key) :
    0 ∈ (AniCalls.registeredFor a).reaches (.getListenerCount b) := by
  have hlisteners : (AniCalls.registeredFor a).manager.listeners b.key = [0] := by
    unfold AniCalls.registeredFor
    rw [AniManager.listeners_insert, if_pos h]
    rfl
  have hdeleted : ((AniCalls.registeredFor a).manager.infos 0).isDeleted = false := rfl
  have hreaches : (AniCalls.registeredFor a).reaches (.getListenerCount b) =
      ((AniCalls.registeredFor a).manager.prune b.key).listeners b.key := rfl
  rw [hreaches, AniManager.listeners_prune, if_pos rfl, hlisteners]
  simp [hdeleted]

/-- A listener is registered for one target, and the listeners of another are counted. -/
theorem key_injOn_of_isolatedFor {T : Set AniTarget} (h : IsolatedFor T) :
    Set.InjOn AniTarget.key T := by
  intro a ha b hb hkey
  by_contra hne
  have hreach : aniCallSystem.Reachable (usesOnly T) (AniCalls.registeredFor a) := by
    refine System.Reachable.init.step (a := .onOrOnce a false 0 true) ?_ rfl
    intro target htarget
    cases htarget
    exact ha
  have huses : usesOnly T (AniCalls.registeredFor a) (.getListenerCount b) := by
    intro target htarget
    cases htarget
    exact hb
  have hcount := h _ (.getListenerCount b) _ hreach huses rfl b rfl 0 Nat.one_pos hne
  exact hcount.2 (registeredFor_counts hkey.symm)

theorem isolatedFor_of_injOn {T : Set AniTarget} (hT : Set.InjOn AniTarget.key T) :
    IsolatedFor T := by
  intro s call t hreach hu hst
  have hregistered : s.Registered T :=
    hreach.invariant (AniCalls.registered_init T)
      fun _ _ _ hs hu hst => AniCalls.registered_step hs hu hst
  exact AniCalls.isolated_step hregistered hT hu hst

/-- `operator<` is a strict total order, and two keys differ exactly when one is less. -/
def KeysOrdered : Prop :=
  (∀ a : CompositeEventId, a.lt a = false) ∧
    (∀ a b c : CompositeEventId, a.lt b = true → b.lt c = true → a.lt c = true) ∧
    ∀ a b : CompositeEventId, a.ne b = (a.lt b || b.lt a)

theorem ne_eq_true (a b : CompositeEventId) : a.ne b = true ↔ a ≠ b := by
  unfold CompositeEventId.ne
  obtain ⟨a, m⟩ := a
  obtain ⟨b, n⟩ := b
  simp only [Bool.or_eq_true, decide_eq_true_eq, ne_eq, CompositeEventId.mk.injEq]
  tauto

theorem keysOrdered : KeysOrdered := by
  refine ⟨CompositeEventId.lt_irrefl, fun _ _ _ => CompositeEventId.lt_trans, ?_⟩
  intro a b
  rw [Bool.eq_iff_iff, ne_eq_true, Bool.or_eq_true]
  constructor
  · exact CompositeEventId.lt_total a b
  · rintro h rfl
    rw [CompositeEventId.lt_irrefl] at h
    simp at h

end AppExecFwk
