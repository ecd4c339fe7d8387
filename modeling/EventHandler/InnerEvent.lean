import Mathlib

/-!
# Inner events, priorities and the clock

Model of `inner_event.h` and of the enumerations of `event_queue.h`, as far as the event queue
reads them.

* Times are `steady_clock` nanoseconds (`int64_t`, here `Int`); `ClockTime` is one reading of the
  clock.  `TimePoint.max` is the value the queue uses for "never", so a reading lies below it.
* `InnerEvent` keeps the fields the queue, its selectors and its bookkeeping use.  `ticket` is the
  identity of the object behind the `unique_ptr`; no function of the source reads it.
* `Priority` is `enum class Priority : uint32_t`: the five enumerators, and the other values a
  cast can produce.
-/

set_option autoImplicit false

namespace AppExecFwk

def INT64_MAX : Int := 9223372036854775807
def UINT64_MAX : Nat := 18446744073709551615

/-- `static_cast<uint64_t>` of an `int64_t`. -/
def toUInt64 (x : Int) : Nat := (x % 18446744073709551616).toNat

/-- Conversion to `int8_t`. -/
def toInt8 (x : Int) : Int := Int.bmod x 256

/-- Conversion to `int64_t`. -/
def toInt64 (x : Int) : Int := Int.bmod x 18446744073709551616

theorem toInt8_of_range {x : Int} (h : -128 ≤ x) (h' : x < 128) : toInt8 x = x := by
  unfold toInt8
  rw [Int.bmod_def]
  split <;> omega

theorem toInt8_succ (x : Int) : toInt8 (toInt8 x + 1) = toInt8 (x + 1) := by
  unfold toInt8
  exact Int.bmod_add_bmod

theorem toInt8_pred (x : Int) : toInt8 (toInt8 x - 1) = toInt8 (x - 1) := by
  unfold toInt8
  exact Int.bmod_sub_bmod

theorem toInt8_eq_zero {c : Nat} (h : c ≤ 255) (h0 : toInt8 c = 0) : c = 0 := by
  unfold toInt8 at h0
  rw [Int.bmod_def] at h0
  split at h0 <;> omega

/-- `InnerEvent::TimePoint::max()`; time points are `Int` nanoseconds since the clock's epoch. -/
def TimePoint.max : Int := INT64_MAX

/-- A reading of `InnerEvent::Clock`: not negative, and earlier than "never". -/
structure ClockTime where
  ns : Int
  nonneg : 0 ≤ ns
  lt_max : ns < TimePoint.max
  deriving DecidableEq, Repr

/-- `EventHandler` as the queue sees it: the object, and its `handlerId_`. -/
structure EventHandler where
  object : Nat
  handlerId : String
  deriving DecidableEq, Repr

/-- What the queue asks the process about: which handlers are alive, the runner of each, the main
    runner, and whether the calling thread is the application's main thread. -/
structure Process where
  alive : Nat → Bool
  eventRunner : Nat → Option Nat
  mainEventRunner : Option Nat
  isAppMainThread : Bool

/-- `std::variant<uint32_t, std::string>`. -/
inductive EventId where
  | u32 (id : UInt32)
  | str (id : String)
  deriving DecidableEq, Repr

structure Caller where
  file : String := ""
  line : Int := 0
  func : String := ""
  dfxName : String := ""
  deriving DecidableEq, Repr

/-- The part of a path behind its last `/` or `\`. -/
def baseName (file : String) : String :=
  String.ofList (file.toList.reverse.takeWhile (fun c => c != '/' && c != '\\')).reverse

/-- `file_.substr(split + 1)` with `split = 0` when there is no separator: the source then drops
    the first character. -/
def Caller.shortFile (c : Caller) : String :=
  if c.file.toList.any (fun c => c == '/' || c == '\\') then baseName c.file
  else String.ofList (c.file.toList.drop 1)

/-- `Caller::ToString`. -/
def Caller.toString (c : Caller) : String :=
  if c.file.isEmpty then "[ ]"
  else "[" ++ c.shortFile ++ "(" ++ c.func ++ ":" ++ ToString.toString c.line ++ c.dfxName ++ ")]"

structure InnerEvent where
  ticket : Nat := 0
  /-- `owner_`, a weak reference; `none` before `SetOwner`. -/
  owner : Option Nat := none
  ownerId : String := ""
  handleTime : Int
  sendTime : Int
  senderKernelThreadId : Nat := 0
  innerEventId : EventId := .u32 0
  param : Int := 0
  hasTask : Bool := false
  taskName : String := ""
  caller : Caller := {}
  priority : Int := -1
  isVsync : Bool := false
  isBarrier : Bool := false
  deriving DecidableEq, Repr

namespace InnerEvent

def getInnerEventId (e : InnerEvent) : UInt32 :=
  match e.innerEventId with
  | .u32 id => id
  | .str _ => 0

/-- `GetWeakOwner().expired()`. -/
def ownerExpired (p : Process) (e : InnerEvent) : Bool :=
  match e.owner with
  | some h => !p.alive h
  | none => true

/-- `IsOwnerMainRunner`. -/
def isOwnerMainRunner (p : Process) (e : InnerEvent) : Bool :=
  match e.owner with
  | some h => p.alive h && decide (p.mainEventRunner = p.eventRunner h)
  | none => false

end InnerEvent

/-- An index into `subEventQueues_`: `SUB_EVENT_QUEUE_NUM` is the value of `Priority::IDLE`. -/
abbrev SubIndex := Fin 4

instance subIndexNeZero : NeZero 4 := ⟨by decide⟩

inductive Priority where
  | VIP
  | IMMEDIATE
  | HIGH
  | LOW
  | IDLE
  | unnamed (raw : UInt32) (h : 5 ≤ raw)
  deriving DecidableEq, Repr

namespace Priority

/-- `static_cast<int32_t>(priority)`. -/
def toInt32 : Priority → Int
  | .VIP => 0
  | .IMMEDIATE => 1
  | .HIGH => 2
  | .LOW => 3
  | .IDLE => 4
  | .unnamed raw _ => Int.bmod raw.toNat 4294967296

/-- The sub-queue of a priority; `IDLE` and the unnamed values have none. -/
def subIndex : Priority → Option SubIndex
  | .VIP => some 0
  | .IMMEDIATE => some 1
  | .HIGH => some 2
  | .LOW => some 3
  | .IDLE => none
  | .unnamed _ _ => none

/-- The list `Insert` puts an event in: a sub-queue, or `none` for `idleEvents_`; the unnamed values
    have no list. -/
def slot (p : Priority) : Option (Option SubIndex) :=
  match p.subIndex with
  | some i => some (some i)
  | none => if p = .IDLE then some none else none

theorem slot_of_subIndex {p : Priority} {i : SubIndex} (h : p.subIndex = some i) :
    p.slot = some (some i) := by
  unfold slot
  rw [h]

theorem subIndex_of_slot {p : Priority} {i : SubIndex} (h : p.slot = some (some i)) :
    p.subIndex = some i := by
  unfold slot at h
  split at h
  · rename_i j hj
    rw [hj]
    exact Option.some.inj h
  · split at h <;> cases h

theorem toInt32_of_subIndex {p : Priority} {i : SubIndex} (h : p.subIndex = some i) :
    p.toInt32 = i.val := by
  cases p <;> simp [subIndex] at h <;> subst h <;> rfl

theorem eq_vip_of_subIndex {p : Priority} (h : p.subIndex = some 0) : p = .VIP := by
  cases p with
  | VIP => rfl
  | _ => simp [subIndex] at h

end Priority

inductive EventInsertType where
  | AT_END
  | AT_FRONT
  deriving DecidableEq, Repr

inductive VsyncBarrierOption where
  | NO_BARRIER
  | NEED_BARRIER
  | FORCE_BARRIER
  deriving DecidableEq, Repr

inductive VsyncPolicy where
  | DISABLE_VSYNC_FIRST
  | VSYNC_FIRST_WITH_DEFAULT_BARRIER
  | VSYNC_FIRST_WITHOUT_DEFAULT_BARRIER
  deriving DecidableEq, Repr

end AppExecFwk
