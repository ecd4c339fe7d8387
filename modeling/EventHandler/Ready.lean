import EventHandler.GetEvent

/-!
# What is ready

`GetExpiredEventLocked` answers with an event exactly when something is ready, and readiness is a
property of the lists, the mode and the time alone: a sub-queue competes (its head, or in barrier
mode a barrier task of it, is due), the vsync pick of `PickEventLocked` is open and finds a task, or
an idle event may go.

* `pickEventLocked_none_iff`, `expired_none_iff` — nothing is returned iff nothing is ready.
-/

set_option autoImplicit false

namespace AppExecFwk

namespace EventQueueBase

/-- The time stamp an idle pick at `now` compares with. -/
def idleStamp (q : EventQueueBase) (now : ClockTime) : Int :=
  if q.isIdle then q.idleTimeStamp else now.ns

/-- An idle event may be picked. -/
def IdleReady (q : EventQueueBase) (now : ClockTime) : Prop :=
  if q.isBarrierMode then ∃ e ∈ q.idleEvents, barrierWithTime (q.idleStamp now) now.ns e = true
  else ∃ e, q.idleEvents.head? = some e ∧ e.sendTime ≤ q.idleStamp now ∧ e.handleTime ≤ now.ns

/-- The vsync pick of `PickEventLocked` is open and finds a task. -/
def VsyncReady (q : EventQueueBase) : Prop :=
  q.sumOfPendingVsync ≠ 0 ∧ q.needEpoll = false ∧ ∃ e ∈ q.events (some 0), e.isVsync = true

/-- Nothing is ready at `now`. -/
structure NothingReady (q : EventQueueBase) (now : ClockTime) : Prop where
  sub : ∀ i, ¬ Competes q.isBarrierMode (q.subEventQueues i).queue now.ns
  vsync : ¬ q.VsyncReady
  idle : ¬ q.IdleReady now

/-- The loop finds no index iff no list competes. -/
theorem afterLoop_none {q : EventQueueBase} {now next : Int}
    (h : ∀ i, ¬ Competes q.isBarrierMode (q.subEventQueues i).queue now) :
    (q.afterLoop now next).priorityIndex = none := by
  cases hp : (q.afterLoop now next).priorityIndex with
  | none => rfl
  | some r =>
    rcases pickLoop_some q.isBarrierMode now subIndices ⟨q, none, next⟩ r hp with hr | ⟨-, hr⟩
    · cases hr
    · exact absurd hr (h r)

theorem pickFirstVsync_none_iff {q q' : EventQueueBase} (h : SameEvents q q') :
    q'.pickFirstVsyncEventLocked.1 = none ↔ ∀ e ∈ q.events (some 0), e.isVsync = false := by
  unfold pickFirstVsyncEventLocked popFirst
  rw [List.find?_eq_none, ← h (some 0)]
  simp

/-- `PickEventLocked` returns nothing iff no list competes and no vsync task can be picked. -/
theorem pickEventLocked_none_iff {q : EventQueueBase} {now next : Int} (hnow : now < next)
    (hs : ∀ i, SortedByHandleTime (q.events (some i))) :
    (q.pickEventLocked now next).event = none ↔
      (∀ i, ¬ Competes q.isBarrierMode (q.subEventQueues i).queue now) ∧ ¬ q.VsyncReady := by
  have hsame := (q.afterLoop_frame now next).2
  constructor
  · intro h
    obtain ⟨-, -, hno, hhead, hlt⟩ := pickEventLocked_none h
    have hcomp : ∀ i, ¬ Competes q.isBarrierMode (q.subEventQueues i).queue now := by
      intro i hc
      cases hb : q.isBarrierMode with
      | true =>
        rw [hb] at hc
        obtain ⟨e, he, hdue⟩ := hc
        obtain ⟨t, ht⟩ := hno i
        rw [hb] at ht
        have := checkBarrier_false (hs i) ht e (List.mem_of_find?_eq_some he) (List.find?_some he)
        omega
      | false =>
        rw [hb] at hc
        obtain ⟨e, he, hdue⟩ := hc
        have h₁ := hhead i e he
        have h₂ := hlt hb hnow
        omega
    refine ⟨hcomp, ?_⟩
    rintro ⟨hsum, hepoll, e, he, hv⟩
    have hturn : q.vsyncTurn (q.afterLoop now next).priorityIndex = true := by
      rw [afterLoop_none hcomp]
      simp [vsyncTurn, hsum, hepoll]
    rcases q.pickEventLocked_cases now next with ⟨x, -, -, hp⟩ | ⟨hv', -, -⟩ | ⟨-, r, hr, -, -⟩
    · rw [hp] at h
      cases h
    · rw [(pickFirstVsync_none_iff hsame).1 (hv' hturn) e he] at hv
      cases hv
    · rw [afterLoop_none hcomp] at hr
      cases hr
  · rintro ⟨hcomp, hv⟩
    rcases q.pickEventLocked_cases now next with ⟨e, he, ht, -⟩ | ⟨-, -, hp⟩ | ⟨-, r, hr, -, -⟩
    · rw [afterLoop_none hcomp] at ht
      simp only [vsyncTurn, Bool.true_and, Bool.and_eq_true, decide_eq_true_eq,
        Bool.not_eq_true'] at ht
      have htk := (pickFirstVsync_some he).of_same hsame
      exact absurd ⟨ht.1, ht.2, e, htk.mem, htk.pred⟩ hv
    · rw [hp]
    · rw [afterLoop_none hcomp] at hr
      cases hr

/-- The idle pick finds nothing iff no idle event is ready. -/
theorem pickIdle_none_iff {q q' : EventQueueBase} (now : ClockTime) (hl : q'.idleEvents = q.idleEvents)
    (hb : q'.isBarrierMode = q.isBarrierMode) (ht : q'.idleTimeStamp = q.idleStamp now) :
    (q'.pickIdle now).1 = none ↔ ¬ q.IdleReady now := by
  unfold pickIdle IdleReady
  rw [hl, hb, ht]
  split
  · simp [popFrontBarrierEventFromListWithTimeLocked, popFirst, List.find?_eq_none]
  · cases q.idleEvents with
    | nil => simp
    | cons e es =>
      simp only [List.head?_cons, Option.some.injEq, exists_eq_left']
      split
      · rename_i h
        simp [popFrontEventFromListLocked, h]
      · rename_i h
        simp [h]

theorem afterPick_idle (q : EventQueueBase) (now : ClockTime) :
    ((q.afterPick now).enterIdle now).idleEvents = q.idleEvents ∧
      ((q.afterPick now).enterIdle now).isBarrierMode = q.isBarrierMode ∧
      ((q.afterPick now).enterIdle now).idleTimeStamp = q.idleStamp now := by
  have hr := (q.pickEventLocked_frame now.ns TimePoint.max).rest
  have h₁ : (q.afterPick now).idleEvents = q.idleEvents := by unfold afterPick; rw [hr]
  have h₂ : (q.afterPick now).isIdle = q.isIdle := by unfold afterPick; rw [hr]
  have h₃ : (q.afterPick now).idleTimeStamp = q.idleTimeStamp := by unfold afterPick; rw [hr]
  refine ⟨?_, ?_, ?_⟩
  · rw [(enterIdle_sameLists _ now).idle, h₁]
  · exact ((q.afterPick_frame now).trans (enterIdle_sameControl _ now)).isBarrierMode
  · unfold enterIdle idleStamp
    rw [h₂]
    split
    · exact h₃
    · rfl

/-- **`GetExpiredEventLocked` returns nothing iff nothing is ready.** -/
theorem expired_none_iff {q : EventQueueBase} {now next : ClockTime} {t : Int}
    (hs : ∀ i, SortedByHandleTime (q.events (some i))) :
    (q.getExpiredEventLocked now next t).event = none ↔ q.NothingReady now := by
  obtain ⟨hl, hb, ht⟩ := q.afterPick_idle now
  have hpick := pickEventLocked_none_iff now.lt_max hs
  have hidle := pickIdle_none_iff now hl hb ht
  constructor
  · intro h
    rcases q.getExpiredEventLocked_cases now next t with ⟨e, -, hr⟩ | ⟨-, e, -, hr⟩ | ⟨hn, hi, -⟩
    · rw [hr] at h
      cases h
    · rw [hr] at h
      cases h
    · exact ⟨(hpick.1 hn).1, (hpick.1 hn).2, hidle.1 hi⟩
  · rintro ⟨hsub, hv, hi⟩
    have hn := hpick.2 ⟨hsub, hv⟩
    rcases q.getExpiredEventLocked_cases now next t with ⟨e, he, -⟩ | ⟨-, e, he, -⟩ | ⟨-, -, hr⟩
    · rw [hn] at he
      cases he
    · rw [hidle.2 hi] at he
      cases he
    · rw [hr]

end EventQueueBase

end AppExecFwk
