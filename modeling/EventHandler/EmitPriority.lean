import Mathlib
import EventHandler.Emitter

/-!
# The priority of an emitted event

Model of the emit functions of `ani_emitter.cpp`, `napi_emitter.cpp` and `events_emitter.cpp`, up to
their call of `SendEvent`.

* `EventPriority` — the four names, which ArkTS numbers from 0 and the native queue from 1.
* `SentEvent` — what is handed to `SendEvent`; an emit that is dropped on its way sends nothing.
* `EmitCall.send` — the emit functions; what the manager and the runtimes answer is in `EmitContext`
  and in the arguments.
* `send_priority` — the priority sent depends on the priority given and on nothing else.
* `emit_order_iff` — the priorities sent have the names that were given, and emits of one name are
  delivered in their order, exactly when no emit gives ArkTS an explicit priority and none gives JS a
  priority property without a value.
-/

set_option autoImplicit false

namespace AppExecFwk

/-- The names of the priorities an emit can have, in ArkTS as in JS. -/
inductive EventPriority where
  | IMMEDIATE
  | HIGH
  | LOW
  | IDLE
  deriving DecidableEq, Repr

namespace Priority

def toUInt32 : Priority → UInt32
  | .VIP => 0
  | .IMMEDIATE => 1
  | .HIGH => 2
  | .LOW => 3
  | .IDLE => 4
  | .unnamed raw _ => raw

/-- `static_cast<Priority>`. -/
def ofUInt32 (raw : UInt32) : Priority :=
  if raw = 0 then .VIP
  else if raw = 1 then .IMMEDIATE
  else if raw = 2 then .HIGH
  else if raw = 3 then .LOW
  else if h : 5 ≤ raw then .unnamed raw h
  else .IDLE

/-- A cast there and back changes nothing. -/
theorem ofUInt32_toUInt32 (p : Priority) : ofUInt32 p.toUInt32 = p := by
  cases p with
  | unnamed raw h =>
    have h' : 5 ≤ raw.toNat := h
    have h0 : raw ≠ 0 := by rintro rfl; exact absurd h' (by decide)
    have h1 : raw ≠ 1 := by rintro rfl; exact absurd h' (by decide)
    have h2 : raw ≠ 2 := by rintro rfl; exact absurd h' (by decide)
    have h3 : raw ≠ 3 := by rintro rfl; exact absurd h' (by decide)
    simp [ofUInt32, toUInt32, h0, h1, h2, h3, h]
  | _ => rfl

end Priority

namespace EventPriority

/-- `EventPriority` of `@ohos.events.emitter.ets`. -/
def etsValue : EventPriority → UInt32
  | .IMMEDIATE => 0
  | .HIGH => 1
  | .LOW => 2
  | .IDLE => 3

/-- What `CreateEnumEventPriority` exports, in both N-API modules. -/
def napiValue : EventPriority → UInt32
  | .IMMEDIATE => Priority.IMMEDIATE.toUInt32
  | .HIGH => Priority.HIGH.toUInt32
  | .LOW => Priority.LOW.toUInt32
  | .IDLE => Priority.IDLE.toUInt32

/-- The native priority of the name. -/
def native : EventPriority → Priority
  | .IMMEDIATE => .IMMEDIATE
  | .HIGH => .HIGH
  | .LOW => .LOW
  | .IDLE => .IDLE

theorem ofUInt32_napiValue (p : EventPriority) : Priority.ofUInt32 p.napiValue = p.native := by
  have h : p.napiValue = p.native.toUInt32 := by cases p <;> rfl
  rw [h]
  exact Priority.ofUInt32_toUInt32 _

/-- The numbers of ArkTS are one too small. -/
theorem ofUInt32_etsValue_ne (p : EventPriority) : Priority.ofUInt32 p.etsValue ≠ p.native := by
  cases p <;> decide

end EventPriority

/-! ## Arguments -/

/-- The `priority` property of an ArkTS object: it cannot be read, is undefined, or is an item. -/
inductive AniProperty where
  | failed
  | undefined
  | item (p : EventPriority)
  deriving DecidableEq, Repr

/-- The `priority` property of a JS object: there is none, or it has no value, or a value. -/
inductive JsProperty where
  | absent
  | undefined
  | value (p : EventPriority)
  deriving DecidableEq, Repr

/-- Which steps of the serialization of an event's data succeed in ANI. -/
structure AniData where
  sharedSerializeData : Bool
  peerSerialize : Bool
  crossSerialize : Bool
  deriving DecidableEq, Repr

/-- An argument of a JS emit behind the first. -/
structure JsArg where
  priority : JsProperty
  /-- What `EmitWithEventData` answers for it. -/
  emitWithEventData : Bool
  deriving DecidableEq, Repr

/-- What the manager and the handler answer during an emit. -/
structure EmitContext where
  isExistValidCallback : CompositeEventId → Bool
  isCrossRuntime : CompositeEventId → Bool
  /-- `EventHandlerInstance::GetInstance() != nullptr`; the plain module does not ask. -/
  eventHandler : Bool

structure SentEvent where
  compositeId : CompositeEventId
  isEnhanced : Bool
  /-- The event carries the data of the caller. -/
  withData : Bool
  priority : Priority
  deriving DecidableEq, Repr

/-! ## ANI -/

/-- `Priority priority = Priority::LOW`, and the cast of the enum item over it. -/
def AniProperty.priority : AniProperty → Priority
  | .item p => Priority.ofUInt32 p.etsValue
  | _ => .LOW

/-- The same for an enum item that may be the null pointer. -/
def enumPriority : Option EventPriority → Priority
  | some p => Priority.ofUInt32 p.etsValue
  | none => .LOW

/-- `static_cast<uint32_t>` of an `ani_long`. -/
def aniUInt32 (n : Int64) : UInt32 := n.toUInt64.toUInt32

/-- The serialization of the data, which both ANI functions do before they send. -/
def AniData.serialized (data : AniData) (crossRuntime : Bool) : Bool :=
  data.sharedSerializeData && data.peerSerialize && (!crossRuntime || data.crossSerialize)

/-- `EmitWithEventId`; `eventId` is `none` when the property cannot be read. -/
def aniEmitWithEventId (c : EmitContext) (eventId : Option Int64) (priority : AniProperty)
    (data : AniData) : Option SentEvent :=
  match eventId with
  | none => none
  | some eventId =>
    let id : CompositeEventId := { eventId := .u32 (aniUInt32 eventId) }
    if !c.isExistValidCallback id then none
    else if !data.serialized (c.isCrossRuntime id) then none
    else if !c.eventHandler then none
    else some ⟨id, true, true, priority.priority⟩

/-- `EmitWithEventIdString`; `enumItem` is `none` for the null pointer. -/
def aniEmitWithEventIdString (c : EmitContext) (eventId : String) (data : AniData)
    (enumItem : Option EventPriority) (emitterId : Nat) : Option SentEvent :=
  let id : CompositeEventId := { eventId := .str eventId, emitterId := emitterId }
  if !c.isExistValidCallback id then none
  else
    if !data.serialized (c.isCrossRuntime id) then none
    else if !c.eventHandler then none
    else some ⟨id, true, true, enumPriority enumItem⟩

/-- `GetPriority`, whose result is the null pointer unless the property is an item. -/
def AniProperty.getPriority : AniProperty → Option EventPriority
  | .item p => some p
  | _ => none

/-- `EmitStringSync` and its siblings, and `EmitterEmit`; `options` is `none` in the forms without
    options. -/
def aniEmitString (c : EmitContext) (eventId : String) (data : AniData)
    (options : Option AniProperty) (emitterId : Nat) : Option SentEvent :=
  aniEmitWithEventIdString c eventId data (options.bind AniProperty.getPriority) emitterId

/-! ## N-API -/

/-- `uint32_t priorityValue = 0u`, which `napi_get_value_uint32` leaves alone when there is no
    number. -/
def JsProperty.priority : JsProperty → Priority
  | .absent => .LOW
  | .undefined => Priority.ofUInt32 0
  | .value p => Priority.ofUInt32 p.napiValue

/-- `EmitWithEventIdUint32` of the two modules; `eventId` is `none` when there is no such property,
    `argv` holds the arguments behind the first. -/
def napiEmitWithEventIdUint32 (enhanced : Bool) (c : EmitContext) (eventId : Option UInt32)
    (priority : JsProperty) (argv : List JsArg) : Option SentEvent :=
  match eventId with
  | none => none
  | some id =>
    let compositeId : CompositeEventId := { eventId := .u32 id }
    if !c.isExistValidCallback compositeId then none
    else if enhanced && !c.eventHandler then none
    else
      let withData := match argv with
        | [data] => data.emitWithEventData
        | _ => false
      some ⟨compositeId, enhanced, withData, priority.priority⟩

/-- `EmitWithEventIdString` of the two modules. -/
def napiEmitWithEventIdString (enhanced : Bool) (c : EmitContext) (eventId : String)
    (emitterId : Nat) (argv : List JsArg) : Option SentEvent :=
  let compositeId : CompositeEventId := { eventId := .str eventId, emitterId := emitterId }
  if eventId.isEmpty then none
  else if !c.isExistValidCallback compositeId then none
  else if enhanced && !c.eventHandler then none
  else
    match argv with
    | [] => some ⟨compositeId, enhanced, false, .LOW⟩
    | options :: rest =>
      match options.priority with
      -- without a priority the second argument is the data
      | .absent => some ⟨compositeId, enhanced, options.emitWithEventData, .LOW⟩
      | property =>
        let withData := match rest with
          | data :: _ => data.emitWithEventData
          | [] => false
        some ⟨compositeId, enhanced, withData, property.priority⟩

/-! ## Emits from either runtime -/

inductive EmitCall where
  | aniInnerEvent (eventId : Option Int64) (priority : AniProperty) (data : AniData)
  | aniString (eventId : String) (emitterId : Nat) (options : Option AniProperty) (data : AniData)
  | napiInnerEvent (enhanced : Bool) (eventId : Option UInt32) (priority : JsProperty)
      (argv : List JsArg)
  | napiString (enhanced : Bool) (eventId : String) (emitterId : Nat) (argv : List JsArg)
  deriving DecidableEq, Repr

def JsProperty.named : JsProperty → Option EventPriority
  | .value p => some p
  | _ => none

/-- The `priority` property of a JS string emit; with one argument there are no options. -/
def jsOptions : List JsArg → JsProperty
  | [] => .absent
  | options :: _ => options.priority

namespace EmitCall

def send (c : EmitContext) : EmitCall → Option SentEvent
  | .aniInnerEvent eventId priority data => aniEmitWithEventId c eventId priority data
  | .aniString eventId emitterId options data => aniEmitString c eventId data options emitterId
  | .napiInnerEvent enhanced eventId priority argv =>
    napiEmitWithEventIdUint32 enhanced c eventId priority argv
  | .napiString enhanced eventId emitterId argv =>
    napiEmitWithEventIdString enhanced c eventId emitterId argv

/-- The priority the caller names, if any. -/
def explicit : EmitCall → Option EventPriority
  | .aniInnerEvent _ priority _ => priority.getPriority
  | .aniString _ _ options _ => options.bind AniProperty.getPriority
  | .napiInnerEvent _ _ priority _ => priority.named
  | .napiString _ _ _ argv => (jsOptions argv).named

/-- No priority means `LOW`. -/
def named (call : EmitCall) : EventPriority := call.explicit.getD .LOW

def isAni : EmitCall → Bool
  | .aniInnerEvent .. => true
  | .aniString .. => true
  | _ => false

/-- A JS priority property is there and has no value. -/
def undefinedProperty : EmitCall → Prop
  | .napiInnerEvent _ _ priority _ => priority = .undefined
  | .napiString _ _ _ argv => jsOptions argv = .undefined
  | _ => False

/-- The checks on the way to `SendEvent`. -/
def accepted (c : EmitContext) : EmitCall → Prop
  | .aniInnerEvent eventId _ data => ∃ n, eventId = some n ∧
      c.isExistValidCallback { eventId := .u32 (aniUInt32 n) } = true ∧
      data.serialized (c.isCrossRuntime { eventId := .u32 (aniUInt32 n) }) = true ∧
      c.eventHandler = true
  | .aniString eventId emitterId _ data =>
      c.isExistValidCallback { eventId := .str eventId, emitterId := emitterId } = true ∧
      data.serialized (c.isCrossRuntime { eventId := .str eventId, emitterId := emitterId }) = true ∧
      c.eventHandler = true
  | .napiInnerEvent enhanced eventId _ _ => ∃ n, eventId = some n ∧
      c.isExistValidCallback { eventId := .u32 n } = true ∧
      (enhanced = true → c.eventHandler = true)
  | .napiString enhanced eventId emitterId _ =>
      eventId.isEmpty = false ∧
      c.isExistValidCallback { eventId := .str eventId, emitterId := emitterId } = true ∧
      (enhanced = true → c.eventHandler = true)

end EmitCall

/-! ## What is sent -/

namespace EmitCall

/-- The priority of the event, if one is sent. -/
def priority : EmitCall → Priority
  | .aniInnerEvent _ priority _ => priority.priority
  | .aniString _ _ options _ => enumPriority (options.bind AniProperty.getPriority)
  | .napiInnerEvent _ _ priority _ => priority.priority
  | .napiString _ _ _ argv => (jsOptions argv).priority

theorem aniInnerEvent_send (c : EmitContext) (eventId : Option Int64) (p : AniProperty)
    (data : AniData) :
    ((EmitCall.aniInnerEvent eventId p data).accepted c ∧
      ∃ e, aniEmitWithEventId c eventId p data = some e ∧ e.priority = p.priority) ∨
    (¬ (EmitCall.aniInnerEvent eventId p data).accepted c ∧
      aniEmitWithEventId c eventId p data = none) := by
  unfold aniEmitWithEventId accepted
  cases eventId with
  | none => simp
  | some n =>
    dsimp only
    split_ifs with h₁ h₂ h₃
    all_goals simp_all

theorem aniString_send (c : EmitContext) (eventId : String) (emitterId : Nat)
    (options : Option AniProperty) (data : AniData) :
    ((EmitCall.aniString eventId emitterId options data).accepted c ∧
      ∃ e, aniEmitString c eventId data options emitterId = some e ∧
        e.priority = (EmitCall.aniString eventId emitterId options data).priority) ∨
    (¬ (EmitCall.aniString eventId emitterId options data).accepted c ∧
      aniEmitString c eventId data options emitterId = none) := by
  unfold aniEmitString aniEmitWithEventIdString accepted priority
  dsimp only
  split_ifs with h₁ h₂ h₃
  all_goals simp_all

theorem napiInnerEvent_send (enhanced : Bool) (c : EmitContext) (eventId : Option UInt32)
    (p : JsProperty) (argv : List JsArg) :
    ((EmitCall.napiInnerEvent enhanced eventId p argv).accepted c ∧
      ∃ e, napiEmitWithEventIdUint32 enhanced c eventId p argv = some e ∧
        e.priority = p.priority) ∨
    (¬ (EmitCall.napiInnerEvent enhanced eventId p argv).accepted c ∧
      napiEmitWithEventIdUint32 enhanced c eventId p argv = none) := by
  unfold napiEmitWithEventIdUint32 accepted
  cases eventId with
  | none => simp
  | some n =>
    dsimp only
    split_ifs with h₁ h₂
    all_goals simp_all

theorem napiString_send (enhanced : Bool) (c : EmitContext) (eventId : String) (emitterId : Nat)
    (argv : List JsArg) :
    ((EmitCall.napiString enhanced eventId emitterId argv).accepted c ∧
      ∃ e, napiEmitWithEventIdString enhanced c eventId emitterId argv = some e ∧
        e.priority = (jsOptions argv).priority) ∨
    (¬ (EmitCall.napiString enhanced eventId emitterId argv).accepted c ∧
      napiEmitWithEventIdString enhanced c eventId emitterId argv = none) := by
  unfold napiEmitWithEventIdString accepted
  dsimp only
  split_ifs with h₁ h₂ h₃
  · simp_all
  · simp_all
  · simp_all
  · refine .inl ⟨by simp_all, ?_⟩
    cases argv with
    | nil => exact ⟨_, rfl, rfl⟩
    | cons options rest =>
      cases hp : options.priority with
      | absent => simp [jsOptions, hp, JsProperty.priority]
      | undefined => simp [jsOptions, hp]
      | value p => simp [jsOptions, hp]

/-- **An emit that passes the checks sends one event, of a priority that depends on the priority given
    and on nothing else; any other sends nothing.** -/
theorem send_priority (c : EmitContext) (call : EmitCall) :
    (call.accepted c ∧ ∃ e, call.send c = some e ∧ e.priority = call.priority) ∨
      (¬ call.accepted c ∧ call.send c = none) := by
  cases call with
  | aniInnerEvent eventId p data => exact aniInnerEvent_send c eventId p data
  | aniString eventId emitterId options data => exact aniString_send c eventId emitterId options data
  | napiInnerEvent enhanced eventId p argv => exact napiInnerEvent_send enhanced c eventId p argv
  | napiString enhanced eventId emitterId argv =>
    exact napiString_send enhanced c eventId emitterId argv

/-- No explicit priority from ArkTS, and no priority property of JS without a value. -/
def KeepsName (call : EmitCall) : Prop :=
  (call.isAni = true → call.explicit = none) ∧ ¬ call.undefinedProperty

theorem jsPriority_iff (p : JsProperty) :
    p.priority = (p.named.getD .LOW).native ↔ p ≠ .undefined := by
  cases p with
  | absent => simp [JsProperty.priority, JsProperty.named, EventPriority.native]
  | undefined => decide
  | value p => simp [JsProperty.priority, JsProperty.named, EventPriority.ofUInt32_napiValue]

theorem aniPriority_iff (p : Option EventPriority) :
    enumPriority p = (p.getD .LOW).native ↔ p = none := by
  cases p with
  | none => simp [enumPriority, EventPriority.native]
  | some p => simp [enumPriority, EventPriority.ofUInt32_etsValue_ne]

theorem aniProperty_priority (p : AniProperty) : p.priority = enumPriority p.getPriority := by
  cases p <;> rfl

theorem priority_iff (call : EmitCall) :
    call.priority = call.named.native ↔ call.KeepsName := by
  unfold KeepsName named
  cases call with
  | aniInnerEvent eventId p data =>
    simp only [priority, explicit, isAni, undefinedProperty, forall_const, not_false_eq_true,
      and_true]
    rw [aniProperty_priority]
    exact aniPriority_iff _
  | aniString eventId emitterId options data =>
    simp only [priority, explicit, isAni, undefinedProperty, forall_const, not_false_eq_true,
      and_true]
    exact aniPriority_iff _
  | napiInnerEvent enhanced eventId p argv =>
    simp only [priority, explicit, isAni, undefinedProperty, Bool.false_eq_true, false_implies,
      true_and]
    exact jsPriority_iff p
  | napiString enhanced eventId emitterId argv =>
    simp only [priority, explicit, isAni, undefinedProperty, Bool.false_eq_true, false_implies,
      true_and]
    exact jsPriority_iff _

end EmitCall

/-! ## Sequences of emits -/

/-- An emit, with what the rest of the system answers during it. -/
structure Emit where
  context : EmitContext
  call : EmitCall

namespace Emit

def sent (emit : Emit) : Option Priority := (emit.call.send emit.context).map SentEvent.priority

theorem sent_eq_some (emit : Emit) (p : Priority) :
    emit.sent = some p ↔ emit.call.accepted emit.context ∧ p = emit.call.priority := by
  unfold sent
  rcases emit.call.send_priority emit.context with ⟨ha, e, he, hp⟩ | ⟨hna, he⟩
  · rw [he, Option.map_some, hp, Option.some.injEq]
    exact ⟨fun h => ⟨ha, h.symm⟩, fun h => h.2.symm⟩
  · rw [he]
    exact ⟨nofun, fun h => absurd h.1 hna⟩

end Emit

/-- What is assumed of the queue, of the events sent and the positions they are delivered at: no event
    overtakes an earlier one of its own or of a higher priority. -/
def QueueOrder (sent : List (Option Priority)) (position : Nat → Nat) : Prop :=
  ∀ i j p q, i < j → sent[i]? = some (some p) → sent[j]? = some (some q) →
    p.toInt32 ≤ q.toInt32 → position i < position j

/-- Every native priority has the name that was given, and whatever the queue does within
    `QueueOrder`, emits of one name are delivered in their order. -/
def FollowsNames (emits : List Emit) : Prop :=
  (∀ emit ∈ emits, ∀ p, emit.sent = some p → p = emit.call.named.native) ∧
  ∀ position, QueueOrder (emits.map Emit.sent) position → ∀ i j a b, i < j →
    emits[i]? = some a → emits[j]? = some b → a.sent.isSome → b.sent.isSome →
    a.call.named = b.call.named → position i < position j

/-- **Emits follow the named priority exactly when none that is sent has an explicit ArkTS priority or
    a JS priority property without a value.** -/
theorem emit_order_iff (emits : List Emit) :
    FollowsNames emits ↔
      ∀ emit ∈ emits, emit.call.accepted emit.context → emit.call.KeepsName := by
  constructor
  · rintro ⟨hname, -⟩ emit hmem hacc
    rw [← EmitCall.priority_iff]
    exact hname emit hmem _ ((emit.sent_eq_some _).2 ⟨hacc, rfl⟩)
  · intro hkeep
    have hname : ∀ emit ∈ emits, ∀ p, emit.sent = some p → p = emit.call.named.native := by
      intro emit hmem p hp
      obtain ⟨hacc, rfl⟩ := (emit.sent_eq_some p).1 hp
      exact (EmitCall.priority_iff _).2 (hkeep emit hmem hacc)
    refine ⟨hname, ?_⟩
    intro position hq i j a b hij ha hb hsa hsb hab
    obtain ⟨p, hp⟩ := Option.isSome_iff_exists.1 hsa
    obtain ⟨q, hq'⟩ := Option.isSome_iff_exists.1 hsb
    have hpn := hname a (List.mem_of_getElem? ha) p hp
    have hqn := hname b (List.mem_of_getElem? hb) q hq'
    have hpq : p = q := by rw [hpn, hqn, hab]
    apply hq i j p q hij
    · rw [List.getElem?_map, ha, Option.map_some, hp]
    · rw [List.getElem?_map, hb, Option.map_some, hq']
    · rw [hpq]

/-- Every event has a listener, and no step fails. -/
def EmitContext.permissive : EmitContext := ⟨fun _ => true, fun _ => false, true⟩

/-- JS emits with `LOW`, then ArkTS does, and the second event goes to the queue of `HIGH`. -/
theorem emit_order_mixed :
    ¬ FollowsNames
      [⟨.permissive, .napiInnerEvent true (some 1) (.value .LOW) []⟩,
        ⟨.permissive, .aniInnerEvent (some 1) (.item .LOW) ⟨true, true, true⟩⟩] := by
  rintro ⟨-, horder⟩
  -- the second event is delivered first
  have hq := horder (fun i => 1 - i) ?_ 0 1 _ _ (by decide) rfl rfl rfl rfl rfl
  · exact absurd hq (by decide)
  · intro i j p q hij hp hqj hle
    match i, j with
    | 0, 1 =>
      cases hp
      cases hqj
      exact absurd hle (by decide)
    | i, j + 2 => cases hqj
    | i + 1, 1 => omega
    | i, 0 => omega

end AppExecFwk
