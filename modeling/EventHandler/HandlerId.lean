import EventHandler.FfrtQueue
import EventHandler.Lib.Transition

/-!
# The ids of the handlers

The constructor of `EventHandler` makes `handlerId_` of the value of `handlerCount` and a reading of the
clock, and then adds one to the counter: a load, a reading and an increment, with other constructors
in between.

* `Construction`, `constructorSystem` — the constructor calls of a process, one atomic operation or
  clock reading a step; the two operands of the id are evaluated in either order.
* `incrementsBeforeLoad`, `readingOf` — what a call reads, off the order of the operations.
* `constructorStep_cases`, `step_loads`, `step_readings` — what a step does to them.
* `run_handlerId` — every run reads that.
* `HandlersApart` — two handlers have different ids, and `Remove(owner)` of the one leaves the events
  of the other.
* `handlersApart_iff` — so it is unless both loads see the same counter and both readings are equal.
-/

set_option autoImplicit false

namespace AppExecFwk

open Transition

/-! ## The constructors -/

/-- One call of the constructor. -/
structure Construction where
  /-- `handlerCount.load()`. -/
  loaded : Option UInt64 := none
  /-- `GetTimeStamp()`. -/
  timeStamp : Option ClockTime := none
  /-- `fetch_add` is done. -/
  counted : Bool := false
  deriving DecidableEq, Repr

/-- `handlerId_`, once both operands are there. -/
def Construction.handlerId (c : Construction) : Option String :=
  match c.loaded, c.timeStamp with
  | some count, some now => some (toString count.toNat ++ "_" ++ toString now.ns)
  | _, _ => none

structure ConstructorSys where
  handlerCount : UInt64
  /-- The last reading: the clock does not go back. -/
  lastReading : Int
  /-- The constructor calls by their number. -/
  handler : Nat → Construction

inductive ConstructorOp where
  | load (n : Nat)
  | getTimeStamp (n : Nat) (now : ClockTime)
  | fetchAdd (n : Nat)
  deriving DecidableEq, Repr

namespace ConstructorSys

def setHandler (s : ConstructorSys) (n : Nat) (c : Construction) : ConstructorSys :=
  { s with handler := Function.update s.handler n c }

def step (s : ConstructorSys) : ConstructorOp → Option ConstructorSys
  | .load n =>
    if (s.handler n).loaded = none then
      some (s.setHandler n { s.handler n with loaded := some s.handlerCount })
    else none
  | .getTimeStamp n now =>
    if (s.handler n).timeStamp = none ∧ s.lastReading ≤ now.ns then
      some { s.setHandler n { s.handler n with timeStamp := some now } with lastReading := now.ns }
    else none
  | .fetchAdd n =>
    if (s.handler n).handlerId.isSome ∧ (s.handler n).counted = false then
      some { s.setHandler n { s.handler n with counted := true } with
        handlerCount := s.handlerCount + 1 }
    else none

end ConstructorSys

def constructorSystem : System ConstructorSys ConstructorOp where
  init := { handlerCount := 1, lastReading := 0, handler := fun _ => {} }
  step := ConstructorSys.step

/-! ## What a call reads -/

/-- How often the counter is incremented before call `n` loads it. -/
def incrementsBeforeLoad (n : Nat) : List ConstructorOp → Option Nat
  | [] => none
  | .load m :: as => if m = n then some 0 else incrementsBeforeLoad n as
  | .getTimeStamp _ _ :: as => incrementsBeforeLoad n as
  | .fetchAdd _ :: as => (incrementsBeforeLoad n as).map (· + 1)

/-- The reading that call `n` makes. -/
def readingOf (n : Nat) : List ConstructorOp → Option ClockTime
  | [] => none
  | .getTimeStamp m now :: as => if m = n then some now else readingOf n as
  | _ :: as => readingOf n as

variable {s t : ConstructorSys} {as : List ConstructorOp} {m n : Nat}

@[simp] theorem setHandler_self (s : ConstructorSys) (n : Nat) (c : Construction) :
    (s.setHandler n c).handler n = c := by
  simp [ConstructorSys.setHandler]

@[simp] theorem setHandler_ne (s : ConstructorSys) {m n : Nat} (c : Construction) (h : n ≠ m) :
    (s.setHandler m c).handler n = s.handler n := by
  simp [ConstructorSys.setHandler, h]

/-- A step, one case for each operation. -/
inductive ConstructorEffect (s : ConstructorSys) : ConstructorOp → ConstructorSys → Prop
  | load (k : Nat) (hnone : (s.handler k).loaded = none) :
      ConstructorEffect s (.load k)
        (s.setHandler k { s.handler k with loaded := some s.handlerCount })
  | getTimeStamp (k : Nat) (now : ClockTime) (hnone : (s.handler k).timeStamp = none) :
      ConstructorEffect s (.getTimeStamp k now)
        { s.setHandler k { s.handler k with timeStamp := some now } with lastReading := now.ns }
  | fetchAdd (k : Nat) :
      ConstructorEffect s (.fetchAdd k)
        { s.setHandler k { s.handler k with counted := true } with
          handlerCount := s.handlerCount + 1 }

theorem constructorStep_cases {a : ConstructorOp} (h : s.step a = some t) :
    ConstructorEffect s a t := by
  cases a with
  | load k =>
    simp only [ConstructorSys.step, Option.ite_none_right_eq_some, Option.some.injEq] at h
    obtain ⟨hnone, rfl⟩ := h
    exact .load k hnone
  | getTimeStamp k now =>
    simp only [ConstructorSys.step, Option.ite_none_right_eq_some, Option.some.injEq] at h
    obtain ⟨⟨hnone, -⟩, rfl⟩ := h
    exact .getTimeStamp k now hnone
  | fetchAdd k =>
    simp only [ConstructorSys.step, Option.ite_none_right_eq_some, Option.some.injEq] at h
    obtain ⟨-, rfl⟩ := h
    exact .fetchAdd k

/-- What call `n` has loaded or loads in the operations `as`. -/
def loads (s : ConstructorSys) (n : Nat) (as : List ConstructorOp) : Option UInt64 :=
  ((s.handler n).loaded).or
    ((incrementsBeforeLoad n as).map fun k => s.handlerCount + UInt64.ofNat k)

theorem step_loads {a : ConstructorOp} (h : s.step a = some t) :
    loads t n as = loads s n (a :: as) := by
  unfold loads
  cases constructorStep_cases h with
  | load k hnone =>
    by_cases hkn : n = k
    · subst hkn
      rw [setHandler_self, hnone]
      simp [incrementsBeforeLoad]
    · rw [setHandler_ne s _ hkn, incrementsBeforeLoad, if_neg (Ne.symm hkn)]
      rfl
  | getTimeStamp k now _ =>
    by_cases hkn : n = k
    · subst hkn
      rw [incrementsBeforeLoad, setHandler_self]
      rfl
    · rw [incrementsBeforeLoad, setHandler_ne s _ hkn]
      rfl
  | fetchAdd k =>
    have hmap : (incrementsBeforeLoad n as).map (fun j => s.handlerCount + 1 + UInt64.ofNat j) =
        (incrementsBeforeLoad n (.fetchAdd k :: as)).map
          fun j => s.handlerCount + UInt64.ofNat j := by
      rw [incrementsBeforeLoad, Option.map_map]
      refine Option.map_congr fun j _ => ?_
      show s.handlerCount + 1 + UInt64.ofNat j = s.handlerCount + UInt64.ofNat (j + 1)
      rw [UInt64.ofNat_add, add_assoc, add_comm 1]
      rfl
    rw [hmap]
    by_cases hkn : n = k
    · subst hkn
      rw [setHandler_self]
    · rw [setHandler_ne s _ hkn]

theorem run_loaded (h : constructorSystem.Run System.always s as t) :
    (t.handler n).loaded = loads s n as := by
  induction h with
  | nil s => simp [loads, incrementsBeforeLoad]
  | cons _ hst _ ih => exact ih.trans (step_loads hst)

theorem step_readings {a : ConstructorOp} (h : s.step a = some t) :
    ((t.handler n).timeStamp).or (readingOf n as) =
      ((s.handler n).timeStamp).or (readingOf n (a :: as)) := by
  cases constructorStep_cases h with
  | load k _ =>
    by_cases hkn : n = k
    · subst hkn
      rw [setHandler_self]
      rfl
    · rw [setHandler_ne s _ hkn]
      rfl
  | getTimeStamp k now hnone =>
    by_cases hkn : n = k
    · subst hkn
      rw [setHandler_self, hnone]
      simp [readingOf]
    · rw [setHandler_ne s _ hkn, readingOf, if_neg (Ne.symm hkn)]
  | fetchAdd k =>
    by_cases hkn : n = k
    · subst hkn
      rw [setHandler_self]
      rfl
    · rw [setHandler_ne s _ hkn]
      rfl

theorem run_timeStamp (h : constructorSystem.Run System.always s as t) :
    (t.handler n).timeStamp = ((s.handler n).timeStamp).or (readingOf n as) := by
  induction h with
  | nil s => simp [readingOf]
  | cons _ hst _ ih => exact ih.trans (step_readings hst)

/-- **What every run reads.** -/
theorem run_handlerId (h : constructorSystem.Run System.always constructorSystem.init as t)
    {id : String} : (t.handler n).handlerId = some id ↔
      ∃ k now, incrementsBeforeLoad n as = some k ∧ readingOf n as = some now ∧
        id = toString (1 + UInt64.ofNat k).toNat ++ "_" ++ toString now.ns := by
  have hloaded := run_loaded (n := n) h
  have hstamp := run_timeStamp (n := n) h
  simp only [loads, constructorSystem, Option.none_or] at hloaded hstamp
  unfold Construction.handlerId
  rw [hloaded, hstamp]
  cases incrementsBeforeLoad n as with
  | none => simp
  | some k =>
    cases readingOf n as with
    | none => simp
    | some now => simp [eq_comm]

/-! ## Handlers apart -/

/-- The two calls have made different ids, and `Remove(owner)` of one handler leaves the events that
    carry the id of the other. -/
structure HandlersApart (s : ConstructorSys) (m n : Nat) : Prop where
  ids : ∀ id id', (s.handler m).handlerId = some id → (s.handler n).handlerId = some id' → id ≠ id'
  removes : ∀ id id', (s.handler m).handlerId = some id → (s.handler n).handlerId = some id' →
    ∀ (q : EventQueueBase) (k : Option SubIndex) (e : InnerEvent), e ∈ q.events k →
      e.ownerId = id' → e ∈ (q.removeByOwner (some ⟨m, id⟩)).events k

/-- The counter is incremented a multiple of 2^64 times, as a rule not at all, between the two loads,
    and the two readings are equal. -/
def ReadAlike (as : List ConstructorOp) (m n : Nat) : Prop :=
  ∃ i j now, incrementsBeforeLoad m as = some i ∧ incrementsBeforeLoad n as = some j ∧
    i ≡ j [MOD 18446744073709551616] ∧ readingOf m as = some now ∧ readingOf n as = some now

theorem counter_eq_iff {i j : Nat} :
    1 + UInt64.ofNat i = 1 + UInt64.ofNat j ↔ i ≡ j [MOD 18446744073709551616] := by
  rw [add_right_inj, ← UInt64.toNat_inj, UInt64.toNat_ofNat', UInt64.toNat_ofNat']
  rfl

theorem clockTime_ext {t t' : ClockTime} (h : t.ns = t'.ns) : t = t' := by
  cases t
  cases t'
  cases h
  rfl

theorem removeByOwner_keeps {q : EventQueueBase} {k : Option SubIndex} {e : InnerEvent}
    {owner : EventHandler} (he : e ∈ q.events k) (hid : e.ownerId ≠ owner.handlerId) :
    e ∈ (q.removeByOwner (some owner)).events k := by
  have hd := EventQueueBase.removeOwned_discards ownerFilter (some owner) q
  unfold EventQueueBase.removeByOwner
  rw [hd.events, List.mem_filter]
  refine ⟨he, ?_⟩
  simp [ownerFilter, hid]

/-- **Two handlers are apart, in every run of constructor calls, exactly when they do not read
    alike.** -/
theorem handlersApart_iff {as : List ConstructorOp} {s : ConstructorSys}
    (h : constructorSystem.Run System.always constructorSystem.init as s) (m n : Nat) :
    HandlersApart s m n ↔ ¬ ReadAlike as m n := by
  constructor
  · rintro hapart ⟨i, j, now, hi, hj, hij, hm, hn⟩
    refine hapart.ids _ _ ((run_handlerId h).2 ⟨i, now, hi, hm, rfl⟩)
      ((run_handlerId h).2 ⟨j, now, hj, hn, rfl⟩) ?_
    rw [counter_eq_iff.2 hij]
  · intro hread
    have hids : ∀ id id', (s.handler m).handlerId = some id → (s.handler n).handlerId = some id' →
        id ≠ id' := by
      intro id id' hid hid' heq
      obtain ⟨i, now, hi, hm, rfl⟩ := (run_handlerId h).1 hid
      obtain ⟨j, now', hj, hn, rfl⟩ := (run_handlerId h).1 hid'
      obtain ⟨hcount, htime⟩ := countStamp_inj heq
      cases clockTime_ext htime
      exact hread ⟨i, j, now, hi, hj, counter_eq_iff.1 (UInt64.toNat_inj.1 hcount), hm, hn⟩
    refine ⟨hids, fun id id' hid hid' q k e he hown => removeByOwner_keeps he ?_⟩
    rw [hown]
    exact (hids id id' hid hid').symm

/-- A constructor call on its own. -/
def constructAt (n : Nat) (now : ClockTime) : List ConstructorOp :=
  [.load n, .getTimeStamp n now, .fetchAdd n]

/-- Two handlers constructed one after the other, within a nanosecond. -/
theorem handlersApart_iff_sequential : ∃ s : ConstructorSys,
    (s.handler 1).counted = true ∧ (s.handler 2).counted = true ∧ HandlersApart s 1 2 := by
  obtain ⟨s, hrun, hs⟩ := System.run_of_exec constructorSystem System.always
    (fun s => (s.handler 1).counted = true ∧ (s.handler 2).counted = true)
    (constructAt 1 ⟨5, by decide, by decide⟩ ++ constructAt 2 ⟨5, by decide, by decide⟩) (by decide)
  refine ⟨s, hs.1, hs.2, (handlersApart_iff hrun 1 2).2 ?_⟩
  rintro ⟨i, j, now, hi, hj, hij, -⟩
  cases hi
  cases hj
  exact absurd hij (by decide)

/-- Two constructors load the counter before either has incremented it, and read the clock in the same
    nanosecond. -/
theorem handlers_share_id : ¬ ∀ (as : List ConstructorOp) (s : ConstructorSys) (m n : Nat),
    constructorSystem.Run System.always constructorSystem.init as s → m ≠ n → HandlersApart s m n := by
  intro h
  obtain ⟨s, hrun, hs⟩ := System.run_of_exec constructorSystem System.always
    (fun s => (s.handler 1).handlerId.isSome = true ∧ (s.handler 1).handlerId = (s.handler 2).handlerId)
    [.load 1, .load 2, .getTimeStamp 1 ⟨5, by decide, by decide⟩,
      .getTimeStamp 2 ⟨5, by decide, by decide⟩, .fetchAdd 1, .fetchAdd 2] (by decide)
  obtain ⟨id, hid⟩ := Option.isSome_iff_exists.1 hs.1
  exact (h _ s 1 2 hrun (by decide)).ids id id hid (hs.2 ▸ hid) rfl

end AppExecFwk
