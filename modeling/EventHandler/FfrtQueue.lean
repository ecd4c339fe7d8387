import Mathlib
import EventHandler.Lib.Pattern
import EventHandler.InnerEvent
import EventHandler.EventQueue
import EventHandler.Remove

/-!
# The FFRT queue

Model of `EventQueueFFRT`.  The queue hands every event to FFRT under a name, five fields joined by
`|`, and selects among the pending tasks by patterns over these names.  FFRT is given the bytes of both.

* `RegexEngine` stands for the matching inside FFRT: `ffrt_queue_cancel_by_name` and
  `ffrt_queue_has_task` select the pending tasks whose name the pattern describes as a whole, and none
  if the pattern is not an expression.
* `Handlers` — the handlers of the process with what their ids are made of.
* `cStr` — the bytes up to the first NUL, which is what a `const char *` shows of a text.
* `FfrtTask`, `EventQueueFFRT` — a pending task, and the queue; every task carries the name its event
  was submitted under.
* `idPattern`, `paramPattern`, `namePattern`, `hasParamPattern` — the patterns, as the source joins
  them.
* `name_bytes` — the name of a task, field by field; `IsField` — what its first four fields are made
  of.
* `hasIdFilter`, `hasParamFilter` — the filters of `EventQueueBase::HasInnerEvent`.

FFRT schedules the tasks; their delays, priorities and order play no part in the selection.
-/

set_option autoImplicit false

namespace AppExecFwk

open Pattern

/-- The handlers of a process.  The constructor of a handler joins the count it reads and a reading of
    the clock; two handlers can agree in both. -/
structure Handlers where
  count : Nat → Nat
  timestamp : Nat → Int

namespace Handlers

/-- The handler object with its `handlerId_`. -/
def handler (H : Handlers) (n : Nat) : EventHandler where
  object := n
  handlerId := toString (H.count n) ++ "_" ++ toString (H.timestamp n)

/-- Handlers constructed one after the other, `handlerCount` starting from 1. -/
def constructed (timestamp : Nat → Int) : Handlers where
  count n := n + 1
  timestamp := timestamp

end Handlers

/-- `s.c_str()`. -/
def cStr (s : String) : List UInt8 := (bytes s).takeWhile (· != 0)

/-- The name an event is submitted under: handler id, has task, inner event id, param, task name. -/
def submittedName (event : InnerEvent) : String :=
  event.ownerId ++ "|" ++ (if event.hasTask then "1" else "0") ++ "|" ++
    toString event.getInnerEventId.toNat ++ "|" ++ toString event.param ++ "|" ++ event.taskName

/-- What a handler sends: it sets `owner_` and `ownerId_`, and only an event made from a callback has
    a task name. -/
structure Handlers.Sent (H : Handlers) (event : InnerEvent) : Prop where
  owner : ∃ n, event.owner = some n ∧ event.ownerId = (H.handler n).handlerId
  nameless : event.hasTask = false → event.taskName = ""

/-- `SendEvent` of an event made from an id and a param. -/
def Handlers.sendEvent (H : Handlers) (n : Nat) (now : Int) (innerEventId : EventId) (param : Int) :
    InnerEvent :=
  { owner := some n, ownerId := (H.handler n).handlerId, handleTime := now, sendTime := now,
    innerEventId := innerEventId, param := param }

/-- `PostTask`. -/
def Handlers.postTask (H : Handlers) (n : Nat) (now : Int) (name : String) : InnerEvent :=
  { owner := some n, ownerId := (H.handler n).handlerId, handleTime := now, sendTime := now,
    hasTask := true, taskName := name }

theorem sent_sendEvent (H : Handlers) (n : Nat) (now : Int) (innerEventId : EventId) (param : Int) :
    H.Sent (H.sendEvent n now innerEventId param) :=
  ⟨⟨n, rfl, rfl⟩, fun _ => rfl⟩

theorem sent_postTask (H : Handlers) (n : Nat) (now : Int) (name : String) :
    H.Sent (H.postTask n now name) :=
  ⟨⟨n, rfl, rfl⟩, fun h => by cases h⟩

/-- A task of the FFRT queue with the event it will distribute. -/
structure FfrtTask where
  event : InnerEvent
  name : List UInt8
  deriving DecidableEq, Repr

structure EventQueueFFRT (H : Handlers) where
  usable : Bool
  tasks : List FfrtTask
  sent : ∀ t ∈ tasks, H.Sent t.event
  named : ∀ t ∈ tasks, t.name = cStr (submittedName t.event)

/-! ## The patterns -/

def ownerPattern (handlerId : String) : String := handlerId ++ "\\|.*"

def idPattern (innerEventId : UInt32) (owner : EventHandler) : String :=
  owner.handlerId ++ "\\|0\\|" ++ toString innerEventId.toNat ++ "\\|.*"

def paramPattern (innerEventId : UInt32) (param : Int) (owner : EventHandler) : String :=
  owner.handlerId ++ "\\|0\\|" ++ toString innerEventId.toNat ++ "\\|" ++ toString param ++ "\\|.*"

def namePattern (name : String) (owner : EventHandler) : String :=
  owner.handlerId ++ "\\|1\\|" ++ ".*\\|" ++ name

def hasParamPattern (param : Int) (owner : EventHandler) : String :=
  owner.handlerId ++ "\\|0\\|.*" ++ toString param ++ "\\|.*"

namespace EventQueueFFRT

variable {H : Handlers}

/-! ## The operations -/

/-- The pending tasks are those that pass the test. -/
def keep (q : EventQueueFFRT H) (p : FfrtTask → Bool) : EventQueueFFRT H where
  usable := q.usable
  tasks := q.tasks.filter p
  sent t ht := q.sent t (List.mem_of_mem_filter ht)
  named t ht := q.named t (List.mem_of_mem_filter ht)

/-- The queue of a new runner. -/
def create : EventQueueFFRT H where
  usable := true
  tasks := []
  sent t ht := by cases ht
  named t ht := by cases ht

/-- `InsertEvent`, `AT_FRONT` and `AT_END`. -/
def insertEvent (q : EventQueueFFRT H) (event : InnerEvent) (h : H.Sent event)
    (insertType : EventInsertType) : EventQueueFFRT H × Bool :=
  if q.usable then
    ({ usable := q.usable
       tasks :=
        if insertType = .AT_FRONT then ⟨event, cStr (submittedName event)⟩ :: q.tasks
        else q.tasks ++ [⟨event, cStr (submittedName event)⟩]
       sent := by
        intro t ht
        split at ht
        · rcases List.mem_cons.1 ht with rfl | ht
          · exact h
          · exact q.sent t ht
        · rcases List.mem_append.1 ht with ht | ht
          · exact q.sent t ht
          · rw [List.mem_singleton] at ht
            subst ht
            exact h
       named := by
        intro t ht
        split at ht
        · rcases List.mem_cons.1 ht with rfl | ht
          · rfl
          · exact q.named t ht
        · rcases List.mem_append.1 ht with ht | ht
          · exact q.named t ht
          · rw [List.mem_singleton] at ht
            subst ht
            rfl }, true)
  else (q, false)

/-- `ffrt_queue_cancel_by_name`. -/
def cancelByName (E : RegexEngine) (regular : String) (q : EventQueueFFRT H) : EventQueueFFRT H :=
  q.keep fun t => !E.regexMatch (cStr regular) t.name

/-- `ffrt_queue_has_task`. -/
def hasTask (E : RegexEngine) (regular : String) (q : EventQueueFFRT H) : Bool :=
  q.tasks.any fun t => E.regexMatch (cStr regular) t.name

/-- A `Remove` overload with the pattern it builds for a non-null owner. -/
def removeMatching (E : RegexEngine) (pattern : EventHandler → String) (owner : Option EventHandler)
    (q : EventQueueFFRT H) : EventQueueFFRT H :=
  match owner with
  | none => q
  | some owner => if q.usable then q.cancelByName E (pattern owner) else q

/-- A `HasInnerEvent` overload. -/
def hasMatching (E : RegexEngine) (pattern : EventHandler → String) (owner : Option EventHandler)
    (q : EventQueueFFRT H) : Bool :=
  match owner with
  | none => false
  | some owner => q.usable && q.hasTask E (pattern owner)

/-- The tasks a `HasInnerEvent` overload asks for. -/
def matching (E : RegexEngine) (pattern : EventHandler → String) (owner : Option EventHandler)
    (q : EventQueueFFRT H) : List FfrtTask :=
  match owner with
  | none => []
  | some owner =>
    q.tasks.filter fun t => q.usable && E.regexMatch (cStr (pattern owner)) t.name

/-- `RemoveOrphanByHandlerId`; what follows it under the lock touches the listeners. -/
def removeOrphanByHandlerId (E : RegexEngine) (handlerId : String) (q : EventQueueFFRT H) :
    EventQueueFFRT H :=
  q.cancelByName E (ownerPattern handlerId)

def removeAll (q : EventQueueFFRT H) : EventQueueFFRT H :=
  if q.usable then q.keep fun _ => false else q

/-- `Remove(owner)`. -/
def removeByOwner (E : RegexEngine) (owner : Option EventHandler) (q : EventQueueFFRT H) :
    EventQueueFFRT H :=
  q.removeMatching E (fun owner => ownerPattern owner.handlerId) owner

/-- `Remove(owner, innerEventId)`. -/
def removeById (E : RegexEngine) (owner : Option EventHandler) (innerEventId : UInt32)
    (q : EventQueueFFRT H) : EventQueueFFRT H :=
  q.removeMatching E (idPattern innerEventId) owner

/-- `Remove(owner, innerEventId, param)`. -/
def removeByParam (E : RegexEngine) (owner : Option EventHandler) (innerEventId : UInt32)
    (param : Int) (q : EventQueueFFRT H) : EventQueueFFRT H :=
  q.removeMatching E (paramPattern innerEventId param) owner

/-- `Remove(owner, name)`. -/
def removeByName (E : RegexEngine) (owner : Option EventHandler) (name : String)
    (q : EventQueueFFRT H) : EventQueueFFRT H :=
  q.removeMatching E (namePattern name) owner

/-- `HasInnerEvent(owner, innerEventId)`. -/
def hasInnerEventById (E : RegexEngine) (owner : Option EventHandler) (innerEventId : UInt32)
    (q : EventQueueFFRT H) : Bool :=
  q.hasMatching E (idPattern innerEventId) owner

/-- `HasInnerEvent(owner, param)`. -/
def hasInnerEventByParam (E : RegexEngine) (owner : Option EventHandler) (param : Int)
    (q : EventQueueFFRT H) : Bool :=
  q.hasMatching E (hasParamPattern param) owner

end EventQueueFFRT

/-! ## What `EventQueueBase` asks -/

/-- The filter of `HasInnerEvent(owner, innerEventId)`, which compares the owner itself. -/
def hasIdFilter (innerEventId : UInt32) (owner : EventHandler) (p : InnerEvent) : Bool :=
  !p.hasTask && decide (p.owner = some owner.object) && p.getInnerEventId == innerEventId

/-- The filter of `HasInnerEvent(owner, param)`. -/
def hasParamFilter (param : Int) (owner : EventHandler) (p : InnerEvent) : Bool :=
  !p.hasTask && decide (p.owner = some owner.object) && p.param == param

/-- A `HasInnerEvent` overload of `EventQueueBase`. -/
def EventQueueBase.hasInnerEvent (filter : EventHandler → InnerEvent → Bool)
    (owner : Option EventHandler) (q : EventQueueBase) : Bool :=
  match owner with
  | none => false
  | some owner => q.usable && q.allEvents.any (filter owner)

/-! ## The fields of a name -/

/-- The separator of the fields. -/
def sep : UInt8 := ascii '|'

/-- The bytes of numbers and handler ids. -/
def fieldBytes : List UInt8 := ['0', '1', '2', '3', '4', '5', '6', '7', '8', '9', '-', '_'].map ascii

def IsField (s : List UInt8) : Prop := ∀ c ∈ s, c ∈ fieldBytes

instance isFieldDecidable (s : List UInt8) : Decidable (IsField s) :=
  inferInstanceAs (Decidable (∀ c ∈ s, _))

theorem IsField.append {s t : List UInt8} (hs : IsField s) (ht : IsField t) : IsField (s ++ t) := by
  intro c hc
  rcases List.mem_append.1 hc with hc | hc
  · exact hs c hc
  · exact ht c hc

theorem IsField.not_mem {s : List UInt8} (hs : IsField s) {c : UInt8} (h : c ∉ fieldBytes) : c ∉ s :=
  fun hc => h (hs c hc)

theorem IsField.sep {s : List UInt8} (hs : IsField s) : sep ∉ s := hs.not_mem (by decide)

theorem IsField.null {s : List UInt8} (hs : IsField s) : 0 ∉ s := hs.not_mem (by decide)

theorem IsField.plain {s : List UInt8} (hs : IsField s) : Plain s := by
  intro c hc
  have : ∀ c ∈ fieldBytes, c ∉ syntaxCharacters := by decide +kernel
  exact this c (hs c hc)

theorem IsField.not_lineTerminator {s : List UInt8} (hs : IsField s) :
    ∀ c ∈ s, lineTerminator c = false := by
  intro c hc
  have : ∀ c ∈ fieldBytes, lineTerminator c = false := by decide +kernel
  exact this c (hs c hc)

theorem ascii_digit {c : Char} (h : c.isDigit = true) : c.toNat ≤ 127 ∧ ascii c ∈ fieldBytes := by
  have hlo : 48 ≤ c.toNat ∧ c.toNat ≤ 57 := by
    simpa [Char.isDigit, UInt32.le_iff_toNat_le] using h
  have hall : ∀ k < 10, UInt8.ofNat (48 + k) ∈ fieldBytes := by decide
  refine ⟨by omega, ?_⟩
  unfold ascii
  rw [show c.toNat = 48 + (c.toNat - 48) by omega]
  exact hall _ (by omega)

/-- A text of digits is a field. -/
theorem isField_digits {s : String} (h : ∀ c ∈ s.toList, c.isDigit = true) : IsField (bytes s) := by
  rw [bytes_of_ascii fun c hc => (ascii_digit (h c hc)).1]
  intro b hb
  obtain ⟨c, hc, rfl⟩ := List.mem_map.1 hb
  exact (ascii_digit (h c hc)).2

theorem isField_nat (n : Nat) : IsField (bytes (toString n)) := by
  apply isField_digits
  intro c hc
  rw [Nat.toString_eq_repr, Nat.toList_repr] at hc
  exact Nat.isDigit_of_mem_toDigits (by decide) (by decide) hc

theorem isField_int (x : Int) : IsField (bytes (toString x)) := by
  rw [Int.toString_eq_repr, Int.repr_eq_if]
  split
  · exact isField_nat x.toNat
  · rw [bytes_append]
    have hminus : IsField (bytes "-") := by decide +kernel
    exact hminus.append (isField_nat (-x).toNat)

theorem isField_handlerId (H : Handlers) (n : Nat) : IsField (bytes (H.handler n).handlerId) := by
  have hunder : IsField (bytes "_") := by decide +kernel
  unfold Handlers.handler
  simp only [bytes_append]
  exact ((isField_nat _).append hunder).append (isField_int _)

/-- A handler id tells the count and the time it is made of. -/
theorem countStamp_inj {c c' : Nat} {t t' : Int}
    (h : toString c ++ "_" ++ toString t = toString c' ++ "_" ++ toString t') : c = c' ∧ t = t' := by
  have hlist := congrArg String.toList h
  simp only [String.toList_append, List.append_assoc] at hlist
  have hdigits : ∀ k : Nat, '_' ∉ (toString k).toList := by
    intro k hk
    rw [Nat.toString_eq_repr, Nat.toList_repr] at hk
    exact Nat.underscore_not_in_toDigits hk
  obtain ⟨hc, ht⟩ := (append_sep_inj (hdigits _) (hdigits _)).1 hlist
  exact ⟨Nat.repr_injective (String.toList_injective hc),
    Int.repr_injective (String.toList_injective ht)⟩

/-! ## The name of a task -/

/-- Behind a field the text is cut as before. -/
theorem cStr_append {s t : String} (h : 0 ∉ bytes s) : cStr (s ++ t) = bytes s ++ cStr t := by
  unfold cStr
  rw [bytes_append, List.takeWhile_append_of_pos]
  intro c hc
  have hne : c ≠ 0 := by
    rintro rfl
    exact h hc
  simpa using hne

/-- `event->HasTask() ? "1" : "0"`. -/
def taskField (hasTask : Bool) : List UInt8 := if hasTask then [ascii '1'] else [ascii '0']

theorem bytes_taskField (hasTask : Bool) :
    bytes (if hasTask then "1" else "0") = taskField hasTask := by
  cases hasTask <;> decide

/-- The name of a submitted event, field by field. -/
theorem name_bytes {H : Handlers} {event : InnerEvent} (h : H.Sent event) :
    cStr (submittedName event) =
      bytes event.ownerId ++ sep :: (taskField event.hasTask ++ sep ::
        (bytes (toString event.getInnerEventId.toNat) ++ sep ::
          (bytes (toString event.param) ++ sep :: cStr event.taskName))) := by
  obtain ⟨n, -, hid⟩ := h.owner
  have hbar : bytes "|" = [sep] := by decide
  have hnull : 0 ∉ bytes (event.ownerId ++ "|" ++ (if event.hasTask then "1" else "0") ++ "|" ++
      toString event.getInnerEventId.toNat ++ "|" ++ toString event.param ++ "|") := by
    have ho : 0 ∉ bytes event.ownerId := by
      rw [hid]
      exact (isField_handlerId H n).null
    have hi := (isField_nat event.getInnerEventId.toNat).null
    have hp := (isField_int event.param).null
    have ht : 0 ∉ taskField event.hasTask := by
      cases event.hasTask <;> decide
    simp only [bytes_append, bytes_taskField, hbar, List.mem_append, not_or]
    exact ⟨⟨⟨⟨⟨⟨⟨ho, by decide⟩, ht⟩, by decide⟩, hi⟩, by decide⟩, hp⟩, by decide⟩
  unfold submittedName
  rw [cStr_append hnull]
  simp only [bytes_append, bytes_taskField, hbar, List.append_assoc, List.cons_append,
    List.nil_append]

end AppExecFwk
