import Mathlib
import EventHandler.CjEmitter

/-!
# The dispatch of a CJ event

Model of the part of `frameworks/cj/src/emitter.cpp` that sends events and hands their data on.

* `Memory` — the arrays behind `CEventData::parameters`, and the blocks freed since the event was
  taken from the queue.  A callback gets the data by value and frees none of it.
* `freeCEventData` — undefined where it reads past the array, through a null pointer, or where its
  `int` counter overflows; `freeCEventData_isSome` says when it is not.
* `processEvent` — the calls of one dispatch with the memory each was made in, and how often the data
  was freed.  The global callbacks are those `safeCall` reads.
* `processEvent_iff` — everyone is called with live data and the data is freed once exactly when
  the event has a listener of its own and no global callback is to get parameters.
-/

set_option autoImplicit false

namespace EventsEmitter

open AppExecFwk

def INT_MAX : Int := 2147483647

structure CParameter where
  key : Option Nat
  value : Option Nat
  deriving DecidableEq, Repr

structure CEventData where
  /-- The block the pointer points to, if it is not null. -/
  parameters : Option Nat
  size : Int
  deriving DecidableEq, Repr

structure Memory where
  params : Nat → List CParameter
  freed : List Nat

namespace Memory

/-- `free`; of a null pointer it does nothing. -/
def free (m : Memory) (block : Option Nat) : Memory := { m with freed := m.freed ++ block.toList }

/-- `params[i].key = nullptr; params[i].value = nullptr`. -/
def clear (m : Memory) (block i : Nat) : Memory :=
  { m with params := Function.update m.params block ((m.params block).set i ⟨none, none⟩) }

/-- The rounds of the loop from `i` on, `n` of them. -/
def freeParams (m : Memory) (params : Option Nat) (i : Nat) : Nat → Option Memory
  | 0 => some m
  | n + 1 =>
    match params with
    | none => none
    | some block =>
      match (m.params block)[i]? with
      | none => none
      | some p => (((m.free p.key).free p.value).clear block i).freeParams params (i + 1) n

def freeCEventData (m : Memory) (eventData : CEventData) : Option Memory :=
  if eventData.size ≤ INT_MAX then
    (m.freeParams eventData.parameters 0 eventData.size.toNat).map fun m =>
      m.free eventData.parameters
  else none

/-- No block of the data has been freed. -/
def Alive (m : Memory) (eventData : CEventData) : Prop :=
  ∀ block, eventData.parameters = some block → block ∉ m.freed ∧
    ∀ p ∈ m.params block, (∀ key, p.key = some key → key ∉ m.freed) ∧
      ∀ value, p.value = some value → value ∉ m.freed

end Memory

/-- The static members of `Emitter`. -/
structure Globals where
  u32Callback : Option Nat
  stringCallback : Option Nat
  deriving DecidableEq, Repr

inductive Callee where
  | listener (info : Nat)
  | u32 (callback : Nat) (eventId : UInt32)
  | str (callback : Nat) (eventId : String)
  deriving DecidableEq, Repr

/-- A call of a callback, with the memory it is made in. -/
structure Call where
  callee : Callee
  eventData : CEventData
  memory : Memory

structure Dispatch where
  calls : List Call
  /-- How often `FreeCEventData` ran. -/
  frees : Nat
  memory : Memory

namespace Globals

/-- The matching global callback, if it is set. -/
def matching (g : Globals) : EventId → Option Callee
  | .u32 id => g.u32Callback.map fun callback => .u32 callback id
  | .str id => g.stringCallback.map fun callback => .str callback id

end Globals

namespace CjEmitter

def isExistValidCallback (s : CjEmitter) (g : Globals) (eventId : EventId) : Bool :=
  (s.emitterImpls eventId).isSome || g.u32Callback.isSome || g.stringCallback.isSome

/-- The data of the event that is sent, if one is. -/
def emitWithEventData (s : CjEmitter) (g : Globals) (eventId : EventId) (data : CEventData) :
    Option CEventData :=
  if s.isExistValidCallback g eventId then
    some (if data.size = 0 then ⟨none, 0⟩ else data)
  else none

end CjEmitter

def processCallback (m : Memory) (eventData : CEventData) (callbackInfos : List Nat) :
    Option Dispatch :=
  (m.freeCEventData eventData).map fun m' =>
    { calls := callbackInfos.map fun info => ⟨.listener info, eventData, m⟩
      frees := 1
      memory := m' }

/-- `safeCall`, with the arguments of the matching callback. -/
def safeCall (d : Dispatch) (eventData : CEventData) (callback : Option Callee) : Dispatch :=
  match callback with
  | some callee => { d with calls := d.calls ++ [⟨callee, eventData, d.memory⟩] }
  | none => d

/-- `value` is what `GetUniqueObject` returns. -/
def processEvent (s : CjEmitter) (g : Globals) (params : Nat → List CParameter) (eventId : EventId)
    (value : Option CEventData) : CjEmitter × Option Dispatch :=
  let eventData := value.getD ⟨none, 0⟩
  let (t, callbackInfos) := s.getEventCallbacks eventId
  if callbackInfos = [] then (t, some { calls := [], frees := 0, memory := ⟨params, []⟩ })
  else
    (t, (processCallback ⟨params, []⟩ eventData callbackInfos).map fun d =>
      safeCall d eventData (g.matching eventId))

/-- The listeners of the event and the matching global callback are called, with the data of the event
    and before any of it is freed, and the data is freed once. -/
def Delivers (s : CjEmitter) (g : Globals) (params : Nat → List CParameter) (eventId : EventId)
    (value : Option CEventData) : Prop :=
  ∃ d, (processEvent s g params eventId value).2 = some d ∧
    d.calls.map Call.callee =
      (s.subscribers eventId).map Callee.listener ++ (g.matching eventId).toList ∧
    (∀ call ∈ d.calls, call.eventData = value.getD ⟨none, 0⟩ ∧ call.memory.Alive call.eventData) ∧
    d.frees = 1

/-- The data is what `FreeCEventData` expects: `parameters` points to `size` entries, which an `int`
    can count. -/
def CEventData.Freeable (eventData : CEventData) (params : Nat → List CParameter) : Prop :=
  eventData.size ≤ 0 ∨ eventData.size ≤ INT_MAX ∧
    ∃ block, eventData.parameters = some block ∧ eventData.size ≤ (params block).length

/-! ## Freeing -/

namespace Memory

variable {m m' : Memory} {eventData : CEventData}

theorem length_clear (m : Memory) (block i block' : Nat) :
    ((m.clear block i).params block').length = (m.params block').length := by
  unfold clear
  by_cases h : block' = block
  · subst h
    simp
  · simp [h]

theorem freeParams_isSome (m : Memory) (params : Option Nat) (i n : Nat) :
    (m.freeParams params i n).isSome ↔
      n = 0 ∨ ∃ block, params = some block ∧ i + n ≤ (m.params block).length := by
  induction n generalizing m i with
  | zero => simp [freeParams]
  | succ n ih =>
    cases params with
    | none => simp [freeParams]
    | some block =>
      cases hp : (m.params block)[i]? with
      | none =>
        have hlen := List.getElem?_eq_none_iff.1 hp
        simp [freeParams, hp]
        omega
      | some p =>
        have hlen : i < (m.params block).length := (List.getElem?_eq_some_iff.1 hp).1
        have hkeep : ((((m.free p.key).free p.value).clear block i).params block).length =
            (m.params block).length := length_clear _ block i block
        simp only [freeParams, hp, ih, Option.some.injEq, exists_eq_left', hkeep]
        omega

theorem freeCEventData_isSome (m : Memory) (eventData : CEventData) :
    (m.freeCEventData eventData).isSome ↔ eventData.Freeable m.params := by
  unfold freeCEventData CEventData.Freeable
  split
  · rename_i hs
    rw [Option.isSome_map, freeParams_isSome]
    constructor
    · rintro (h | ⟨block, hb, h⟩)
      · exact .inl (by omega)
      · exact .inr ⟨hs, block, hb, by omega⟩
    · rintro (h | ⟨-, block, hb, h⟩)
      · exact .inl (by omega)
      · exact .inr ⟨block, hb, by omega⟩
  · rename_i hs
    unfold INT_MAX at *
    simp
    omega

/-- The parameters of the data are gone afterwards. -/
theorem mem_freed_of_freeCEventData (h : m.freeCEventData eventData = some m') {block : Nat}
    (hb : eventData.parameters = some block) : block ∈ m'.freed := by
  unfold freeCEventData at h
  split at h
  · obtain ⟨m₁, -, rfl⟩ := Option.map_eq_some_iff.1 h
    simp [free, hb]
  · cases h

theorem alive_iff_of_freeCEventData (h : m.freeCEventData eventData = some m') :
    m'.Alive eventData ↔ eventData.parameters = none := by
  constructor
  · intro ha
    cases hb : eventData.parameters with
    | none => rfl
    | some block => exact absurd (mem_freed_of_freeCEventData h hb) (ha block hb).1
  · intro hn block hb
    rw [hn] at hb
    cases hb

/-- Before the first `free` everything is alive. -/
theorem alive_start (params : Nat → List CParameter) (eventData : CEventData) :
    (Memory.mk params []).Alive eventData :=
  fun _ _ => ⟨by simp, fun _ _ => ⟨by simp, by simp⟩⟩

end Memory

/-! ## Dispatch -/

/-- **The data of an event reaches everyone alive and is freed once exactly when** the event has a
    listener of its own, the matching global callback is not set or there are no parameters, and
    the caller's data was well formed. -/
theorem processEvent_iff (s : CjEmitter) (g : Globals) (params : Nat → List CParameter)
    (eventId : EventId) (value : Option CEventData) :
    Delivers s g params eventId value ↔
      s.subscribers eventId ≠ [] ∧
        (g.matching eventId = none ∨ (value.getD ⟨none, 0⟩).parameters = none) ∧
        (value.getD ⟨none, 0⟩).Freeable params := by
  unfold Delivers processEvent
  rw [CjEmitter.getEventCallbacks_eq]
  generalize value.getD ⟨none, 0⟩ = eventData
  by_cases hl : s.subscribers eventId = []
  · simp [hl]
  · simp only [hl, if_false, processCallback]
    have hfree := Memory.freeCEventData_isSome ⟨params, []⟩ eventData
    cases hm : Memory.freeCEventData ⟨params, []⟩ eventData with
    | none =>
      rw [hm] at hfree
      have hn : ¬ eventData.Freeable params := fun h => by simpa using hfree.2 h
      simp [hn]
    | some m' =>
      rw [hm] at hfree
      have hf : eventData.Freeable params := hfree.1 rfl
      have hafter := Memory.alive_iff_of_freeCEventData hm
      have hbefore := Memory.alive_start params eventData
      cases hg : g.matching eventId with
      | none =>
        simp [safeCall, hf, hl, hbefore, Function.comp_def]
      | some callee =>
        simp only [Option.map_some, safeCall, Option.some.injEq, exists_eq_left', List.map_append,
          List.map_map, Option.toList_some, List.map_cons, List.map_nil, hl, hf, not_false_eq_true,
          true_and, and_true, ne_eq, reduceCtorEq, false_or]
        constructor
        · rintro ⟨-, hcalls⟩
          -- the call of the global callback is made after the data was freed
          exact hafter.1 (hcalls ⟨callee, eventData, m'⟩ (by simp)).2
        · intro hn
          refine ⟨rfl, ?_⟩
          intro call hcall
          rcases List.mem_append.1 hcall with hcall | hcall
          · obtain ⟨info, -, rfl⟩ := List.mem_map.1 hcall
            exact ⟨rfl, hbefore⟩
          · rw [List.mem_singleton.1 hcall]
            exact ⟨rfl, hafter.2 hn⟩

/-- With only the global callback set, an event reaches no one and its data is never freed. -/
theorem processEvent_unsubscribed :
    ¬ Delivers CjEmitter.init ⟨some 9, none⟩ (fun _ => [⟨some 101, some 102⟩]) (.u32 1)
      (CjEmitter.init.emitWithEventData ⟨some 9, none⟩ (.u32 1) ⟨some 100, 1⟩) := by
  rintro ⟨d, hd, -, -, hfrees⟩
  cases hd
  cases hfrees

end EventsEmitter
