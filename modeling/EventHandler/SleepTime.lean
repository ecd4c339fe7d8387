import EventHandler.Deadline
import EventHandler.IoWaiter
import EventHandler.PendingQuery
import EventHandler.Sleep

/-!
# How long the loop sleeps

`WaitUntilLocked` turns the deadline into a duration, `EpollIoWaiter::WaitFor` the duration into
milliseconds for `epoll_wait`, rounded up and at most `INT32_MAX`; `NoneIoWaiter::WaitFor` waits for
at most a year.

* `timePointToTimeOut`, `nanosecondsToTimeout`, `IoWaiter.timeout` — the conversions.
* `timeout_bounds` — a wait lasts until its deadline or as long as the waiter can wait.
* `Nap`, `napSystem` — the loop thread by itself: a wait that times out, and the turn behind it.
* `OnTime` — the kernel does not come back early, and it is late by at most `late`.
* `Asleep`, `nap_step` — the invariant between two waits, and what one wait does to it.
* `Slept`, `Woken` — the account of a sleep that goes on, and of one that is over.
* `handed_out_in_time` — every wait but the last is the longest one, and the event is handed out
  within a millisecond of its time and the delays of the kernel.
-/

set_option autoImplicit false

namespace AppExecFwk

open Transition EventQueueBase

/-! ## The conversions -/

def NANOSECONDS_PER_ONE_MILLISECOND : Int := 1000000

def INFINITE_TIMEOUT : Int := -1

/-- `std::chrono::hours(HOURS_PER_YEAR)` in nanoseconds. -/
def oneYear : Int := 24 * 365 * 3600 * 1000000000

/-- `TimePointToTimeOut` at the clock reading `now`. -/
def timePointToTimeOut (now time : Int) : Int := if time ≤ now then 0 else time - now

def nanosecondsToTimeout (nanoseconds : Int) : Int :=
  if nanoseconds < 0 then INFINITE_TIMEOUT
  else
    let milliseconds := nanoseconds / NANOSECONDS_PER_ONE_MILLISECOND
    let milliseconds :=
      if nanoseconds % NANOSECONDS_PER_ONE_MILLISECOND > 0 then milliseconds + 1 else milliseconds
    if milliseconds > INT32_MAX then INT32_MAX else milliseconds

/-- The nanoseconds that `WaitFor` asks for; `none` without a limit. -/
def IoWaiter.timeout : IoWaiter → Int → Option Int
  | .epollIo _, nanoseconds =>
    let milliseconds := nanosecondsToTimeout nanoseconds
    if milliseconds < 0 then none else some (milliseconds * NANOSECONDS_PER_ONE_MILLISECOND)
  | .noneIo _, nanoseconds =>
    if nanoseconds < 0 then none else some (if nanoseconds > oneYear then oneYear else nanoseconds)

/-- The longest wait. -/
def IoWaiter.longest : IoWaiter → Int
  | .epollIo _ => INT32_MAX * NANOSECONDS_PER_ONE_MILLISECOND
  | .noneIo _ => oneYear

/-- **A wait lasts until its deadline, up to a millisecond, or as long as the waiter can wait.** -/
theorem timeout_bounds (w : IoWaiter) (now d : Int) :
    ∃ x, w.timeout (timePointToTimeOut now d) = some x ∧ 0 ≤ x ∧
      (d ≤ now + x ∨ x = w.longest) ∧ now + x < max now d + NANOSECONDS_PER_ONE_MILLISECOND := by
  have hns : 0 ≤ timePointToTimeOut now d := by
    unfold timePointToTimeOut
    split <;> omega
  have hd : now + timePointToTimeOut now d = max now d := by
    unfold timePointToTimeOut
    split <;> omega
  generalize timePointToTimeOut now d = ns at hns hd
  cases w with
  | noneIo w =>
    refine ⟨_, if_neg (by omega), ?_⟩
    simp only [IoWaiter.longest]
    unfold oneYear NANOSECONDS_PER_ONE_MILLISECOND
    split <;> omega
  | epollIo w =>
    have hms : nanosecondsToTimeout ns =
        min INT32_MAX (if ns % 1000000 > 0 then ns / 1000000 + 1 else ns / 1000000) := by
      unfold nanosecondsToTimeout NANOSECONDS_PER_ONE_MILLISECOND
      rw [if_neg (by omega)]
      simp only
      omega
    have hpos : 0 ≤ nanosecondsToTimeout ns := by
      rw [hms]
      unfold INT32_MAX
      omega
    refine ⟨_, if_neg (by omega), ?_⟩
    simp only [IoWaiter.longest]
    unfold NANOSECONDS_PER_ONE_MILLISECOND
    rw [hms]
    unfold INT32_MAX
    split <;> omega

/-! ## The loop by itself -/

/-- A wait that times out, with the clock reading in it, and the turn of `GetEvent` behind it. -/
structure Nap where
  asked : ClockTime
  clk : PassClock

structure Napping where
  sys : Sys
  /-- The last reading of the clock. -/
  last : Int

def Napping.step (P : SystemParameters) (s : Napping) (a : Nap) : Option Napping :=
  match s.sys.pc with
  | .waiting _ =>
    ((s.sys.step P .wakeUp).bind fun t => t.step P (.pass a.clk)).map fun t => ⟨t, a.clk.now.ns⟩
  | _ => none

/-- The loop from a state in which it waits, with nobody else at work. -/
def napSystem (P : SystemParameters) (s : Napping) : System Napping Nap where
  init := s
  step := Napping.step P

/-- The clock does not go back; the kernel lets the thread go behind the time-out, and at most `late`
    nanoseconds pass before the clock is read. -/
structure OnTime (w : IoWaiter) (late : Int) (s : Napping) (a : Nap) : Prop where
  asked : s.last ≤ a.asked.ns ∧ a.asked.ns ≤ s.last + late
  woken : ∀ d x, s.sys.pc = .waiting d → w.timeout (timePointToTimeOut a.asked.ns d) = some x →
    a.asked.ns + x ≤ a.clk.now.ns ∧ a.clk.now.ns ≤ a.asked.ns + x + late

/-! ## Between two waits -/

/-- What stays as it is while the loop sleeps on the deadline `d`. -/
structure Dozing (d : Int) (idle : List InnerEvent) (q : EventQueueBase) : Prop where
  idle : q.idleEvents = idle
  sorted : ∀ i, SortedByHandleTime (q.events (some i))
  earliest : q.earliestHandleTime = d
  sum : q.sumOfPendingVsync = 0
  barrier : q.isBarrierMode = false
  finished : q.finished = false
  observer : q.observer.subscribes STAGE_BEFORE_WAITING = false

/-- The loop waits for `d`. -/
structure Asleep (d : Int) (idle : List InnerEvent) (s : Sys) : Prop where
  pc : s.pc = .waiting d
  dozing : Dozing d idle s.queue

/-- A turn hands out a due event, one of the sub-queues not before `d`, or it waits for `d` again
    with `d` to come. -/
theorem dozing_pass {P : SystemParameters} {d : Int} {idle : List InnerEvent}
    {q : EventQueueBase} (h : Dozing d idle q) (clk : PassClock) :
    ((q.getEventPass P clk).pass = .wait d ∧ clk.now.ns < d ∧
      Dozing d idle (q.getEventPass P clk).queue) ∨
    ∃ e, (q.getEventPass P clk).pass.event = some e ∧ e.handleTime ≤ clk.now.ns ∧
      (e ∈ idle ∨ d ≤ e.handleTime) := by
  have hbc : (q.checkBarrierMode P clk.check clk.enter).isBarrierMode = false := by
    rw [← Bool.not_eq_true]
    intro hb
    rcases checkBarrierMode_barrier hb with hb | hs
    · rw [h.barrier] at hb
      cases hb
    · exact hs h.sum
  have hsum := q.expired_sum P clk
  have hcases := q.getEventPass_cases P clk
  have hdeadline := @pass_deadline P clk q
  have hsome := @getEventPass_some P clk q
  have hframe := getEventPass_frame P clk q
  generalize q.getEventPass P clk = o at hcases hdeadline hsome hframe
  cases hcases with
  | finished hf =>
    rw [h.finished] at hf
    cases hf
  | lastVsync e hf hn hs he => exact absurd (hsum.trans h.sum) hs
  | reset hf hn hs he => exact absurd (hsum.trans h.sum) hs
  | expired e hf he =>
    right
    have hev : (if (q.expired P clk).queue.needsPoll clk.poll then
        LoopPass.poll e (q.expired P clk).queue.needEpoll else .returned e).event = some e := by
      split <;> rfl
    obtain ⟨p, k, hrule, htk⟩ := hsome hev
    have hsc : (q.checkBarrierMode P clk.check clk.enter).sumOfPendingVsync = 0 :=
      (q.checkBarrierMode_sum P clk.check clk.enter).trans h.sum
    refine ⟨e, hev, ?_⟩
    cases hrule with
    | pick hr =>
      cases hr with
      | head _ _ hdue =>
        exact ⟨hdue, Or.inr ((le_earliest.1 (ge_of_eq h.earliest)).2 _ e htk.mem)⟩
      | barrier _ hb _ =>
        rw [hbc] at hb
        cases hb
      | vsync hs _ => exact absurd hsc hs
    | idleHead _ hdue => exact ⟨hdue, Or.inl (h.idle ▸ htk.mem)⟩
    | idleBarrier _ hb _ =>
      rw [hbc] at hb
      cases hb
    | lastVsync hs => exact absurd hsc hs
  | wait hf hn hs =>
    left
    obtain ⟨-, hsame, hd⟩ := hdeadline h.sorted rfl
    rw [h.observer, if_neg (by simp), h.earliest] at hd
    have hlt := (getExpiredEventLocked_none hn).2.2.2.1 hbc
    have hctl := (q.expired P clk).queue.beforeWaiting_sameControl clk.consumer
      (q.expired P clk).nextExpiredTime
    have hectl := getExpiredEventLocked_sameControl (q.checkBarrierMode P clk.check clk.enter)
      clk.now clk.next TimePoint.max
    refine ⟨congrArg LoopPass.wait hd, ?_, ?_, fun i => ?_, ?_, ?_, ?_,
      hframe.finished.trans h.finished, ?_⟩
    · exact hlt.trans_eq ((expired_wakeUpTime h.sorted hn).trans h.earliest)
    · exact (hsame none).trans h.idle
    · rw [hsame (some i)]
      exact h.sorted i
    · exact (earliest_congr hsame).trans h.earliest
    · exact hctl.sum.trans (hsum.trans h.sum)
    · exact hctl.isBarrierMode.trans (hectl.isBarrierMode.trans hbc)
    · show EventRunnerObserver.subscribes _ _ = false
      rw [hctl.observer, expired_observer]
      exact h.observer

/-- The loop has handed out `e`, which is due; if it is no idle event, it was not due before `d`. -/
structure HandedOut (d : Int) (idle : List InnerEvent) (e : InnerEvent) (s : Napping) : Prop where
  pc : (s.sys.pc = .outside ∧ s.sys.current = some e) ∨ ∃ need, s.sys.pc = .polling e need
  due : e.handleTime ≤ s.last
  time : e ∈ idle ∨ d ≤ e.handleTime

/-- **A wait that is not the last one is the longest there is.** -/
theorem nap_step {P : SystemParameters} {w : IoWaiter} {late d : Int} {idle : List InnerEvent}
    {s t : Napping} {a : Nap} (h : Asleep d idle s.sys) (hok : OnTime w late s a)
    (hst : s.step P a = some t) :
    (Asleep d idle t.sys ∧ t.last < d ∧ s.last + w.longest ≤ t.last) ∨
    (t.last < max (s.last + late) d + NANOSECONDS_PER_ONE_MILLISECOND + late ∧
      ∃ e, HandedOut d idle e t) := by
  have hdoze : Dozing d idle s.sys.queue.afterWait :=
    ⟨h.dozing.idle, h.dozing.sorted, h.dozing.earliest, h.dozing.sum, h.dozing.barrier, h.dozing.finished,
      h.dozing.observer⟩
  have hpass := dozing_pass (P := P) hdoze a.clk
  obtain ⟨x, hx, hx0, hlong, hlt⟩ := timeout_bounds w a.asked.ns d
  obtain ⟨hearly, hlate⟩ := hok.woken d x h.pc hx
  obtain ⟨hasked, hasked'⟩ := hok.asked
  simp only [Napping.step, h.pc, Sys.step, Option.bind_some, Option.map_some,
    Option.some.injEq] at hst
  subst hst
  rcases hpass with ⟨hw, hnow, hd⟩ | ⟨e, he, hdue, hor⟩
  · left
    refine ⟨⟨?_, ?_⟩, hnow, ?_⟩
    · unfold Sys.afterPass
      rw [hw]
    · rw [afterPass_queue]
      exact hd
    · show s.last + w.longest ≤ a.clk.now.ns
      omega
  · right
    constructor
    · show a.clk.now.ns < _
      omega
    · refine ⟨e, ?_, hdue, hor⟩
      unfold Sys.afterPass
      generalize s.sys.queue.afterWait.getEventPass P a.clk = o at he
      obtain ⟨queue, pass⟩ := o
      cases pass with
      | returned e' =>
        cases he
        exact Or.inl ⟨rfl, rfl⟩
      | poll e' need =>
        cases he
        exact Or.inr ⟨need, rfl⟩
      | finished => cases he
      | again => cases he
      | wait d' => cases he

/-- Between two waits the clock is before the deadline, and every wait so far was the longest. -/
structure Slept (w : IoWaiter) (d : Int) (idle : List InnerEvent) (since : Int) (n : Nat)
    (s : Napping) : Prop where
  asleep : Asleep d idle s.sys
  early : s.last < d
  spent : since + n * w.longest ≤ s.last

/-- The end of the sleep: an event is handed out in time, and all waits but the last one were the
    longest. -/
structure Woken (w : IoWaiter) (late d : Int) (idle : List InnerEvent) (since : Int) (n : Nat)
    (s : Napping) : Prop where
  handed : ∃ e, HandedOut d idle e s
  inTime : s.last < d + NANOSECONDS_PER_ONE_MILLISECOND + 2 * late
  spent : since + n * w.longest < d + w.longest

theorem HandedOut.step_none {P : SystemParameters} {d : Int} {idle : List InnerEvent}
    {e : InnerEvent} {s : Napping} (h : HandedOut d idle e s) (a : Nap) : s.step P a = none := by
  unfold Napping.step
  rcases h.pc with ⟨hpc, -⟩ | ⟨need, hpc⟩
  · rw [hpc]
  · rw [hpc]

/-- What the loop slept before it sleeps on. -/
theorem slept_run {P : SystemParameters} {w : IoWaiter} {late d since : Int}
    {idle : List InnerEvent} (hlate : 0 ≤ late) {init s u : Napping} {as : List Nap}
    (hrun : (napSystem P init).Run (OnTime w late) s as u) {n : Nat}
    (h : Slept w d idle since n s) :
    Slept w d idle since (n + as.length) u ∨ Woken w late d idle since (n + as.length) u := by
  induction hrun generalizing n with
  | nil s => exact Or.inl h
  | cons hok hst hrest ih =>
    rename_i s t u a as
    rw [List.length_cons, ← Nat.add_assoc, Nat.add_right_comm]
    rcases nap_step h.asleep hok hst with ⟨hasleep, hearly, hspent⟩ | ⟨hlast, e, he⟩
    · refine ih ⟨hasleep, hearly, ?_⟩
      have := h.spent
      push_cast
      linarith
    · right
      -- no wait follows once an event is handed out
      cases hrest with
      | cons _ hst' _ =>
        rw [show (napSystem P init).step t _ = none from he.step_none _] at hst'
        cases hst'
      | nil =>
        have hs := h.spent
        have he' := h.early
        refine ⟨⟨e, he⟩, ?_, ?_⟩
        · omega
        · simp only [List.length_nil, Nat.add_zero]
          push_cast
          linarith

/-- A turn that waits leaves the loop asleep on the deadline, which is still to come. -/
theorem pass_asleep {P : SystemParameters} {start : ClockTime} {d : Int} {s t : Sys}
    {clk : PassClock} (hs : (defaultModeLoop P start).Reachable (CountGuard false 255) s)
    (hobs : s.queue.observer.subscribes STAGE_BEFORE_WAITING = false)
    (hst : s.step P (.pass clk) = some t) (hpc : t.pc = .waiting d) :
    Asleep d t.queue.idleEvents t ∧ clk.now.ns < d := by
  have hawake := reachable_awake hs
  cases step_cases hst with
  | pass clk n hpc' =>
    have hw : (s.queue.getEventPass P clk).pass = .wait d := by
      unfold Sys.afterPass at hpc
      split at hpc
      · cases hpc
      · cases hpc
      · cases hpc
      · cases hpc
      · rename_i d' hw
        cases hpc
        exact hw
    obtain ⟨-, hsame, hd⟩ := pass_deadline (fun i => hawake.sorted (some i)) hw
    rw [hobs, if_neg (by simp)] at hd
    have hflags : s.queue.finished = false ∧ s.queue.sumOfPendingVsync = 0 := by
      have hx := s.queue.getEventPass_cases P clk
      have hsum := s.queue.expired_sum P clk
      generalize s.queue.getEventPass P clk = o at hx hw
      cases hx with
      | finished _ => cases hw
      | expired e _ _ =>
        simp only at hw
        split at hw <;> cases hw
      | lastVsync _ _ _ _ _ => cases hw
      | reset _ _ _ _ => cases hw
      | wait hf hn h0 => exact ⟨hf, hsum.symm.trans h0⟩
    have hbarrier : s.queue.isBarrierMode = false := by
      rw [← Bool.not_eq_true]
      exact fun hb => hawake.barrier hb hflags.2
    have hdoze : Dozing d s.queue.idleEvents s.queue :=
      ⟨rfl, fun i => hawake.sorted (some i), hd.symm, hflags.2, hbarrier, hflags.1, hobs⟩
    rcases dozing_pass (P := P) hdoze clk with ⟨-, hearly, hdoze'⟩ | ⟨e, he, -⟩
    · refine ⟨⟨hpc, ?_⟩, hearly⟩
      rw [afterPass_queue]
      exact { hdoze' with idle := rfl }
    · rw [hw] at he
      cases he

/-- **No wait but the last is shorter than the longest one, and what is due is handed out within a
    millisecond and the delays of the kernel**, when nobody else is at work. -/
theorem handed_out_in_time (P : SystemParameters) {start : ClockTime} {w : IoWaiter}
    {late d : Int} {s t : Sys} {clk : PassClock}
    (hs : (defaultModeLoop P start).Reachable (CountGuard false 255) s)
    (hobs : s.queue.observer.subscribes STAGE_BEFORE_WAITING = false) (hlate : 0 ≤ late)
    (hst : s.step P (.pass clk) = some t) (hpc : t.pc = .waiting d) {as : List Nap} {u : Napping}
    (hrun : (napSystem P ⟨t, clk.now.ns⟩).Run (OnTime w late) ⟨t, clk.now.ns⟩ as u) :
    (Slept w d t.queue.idleEvents clk.now.ns as.length u ∧ ∀ a, (u.step P a).isSome = true) ∨
      Woken w late d t.queue.idleEvents clk.now.ns as.length u := by
  obtain ⟨hasleep, hearly⟩ := pass_asleep hs hobs hst hpc
  have hinit : Slept w d t.queue.idleEvents clk.now.ns 0 ⟨t, clk.now.ns⟩ :=
    ⟨hasleep, hearly, by simp⟩
  have hend := slept_run hlate hrun hinit
  rw [Nat.zero_add] at hend
  rcases hend with h | h
  · refine Or.inl ⟨h, fun a => ?_⟩
    unfold Napping.step
    rw [h.asleep.pc]
    simp only [Sys.step, h.asleep.pc, Option.bind_some, Option.map_some, Option.isSome_some]
  · exact Or.inr h

/-- An event due at 10 ms is sent at 1 ms; the loop waits at 2 ms. -/
def sleepBefore : List Op :=
  [.flag .prepare, insertAt (atMs 1) (plainEvent (atMs 10)) .HIGH, .getEvent]

/-- `epoll_wait` with a limit of 8 ms times out at 10 ms. -/
def napOverTen : Nap := ⟨atMs 2, turnAt (atMs 10)⟩

theorem handed_out_in_time_ten : ∃ u : Napping, u.sys.pc = .outside ∧ u.last = (atMs 10).ns ∧
    Woken (.epollIo {}) 0 (atMs 10).ns [] (atMs 2).ns 1 u := by
  obtain ⟨s, hs, hobs, hp⟩ := System.run_of_exec (defaultModeLoop {} (atMs 0))
    (CountGuard false 255)
    (fun s => s.queue.observer.subscribes STAGE_BEFORE_WAITING = false ∧
      (s.step {} (.pass (turnAt (atMs 2)))).any (fun t =>
        decide (t.pc = .waiting (atMs 10).ns ∧ t.queue.idleEvents = []) &&
          (Napping.step {} ⟨t, (atMs 2).ns⟩ napOverTen).any fun u =>
            decide (u.sys.pc = .outside ∧ u.last = (atMs 10).ns)) = true) sleepBefore (by decide)
  obtain ⟨t, hst, ht⟩ := (Option.any_eq_true _ _).1 hp
  rw [Bool.and_eq_true, decide_eq_true_iff] at ht
  obtain ⟨⟨hpc, hidle⟩, hnap⟩ := ht
  obtain ⟨u, hu, hlast⟩ := (Option.any_eq_true _ _).1 hnap
  rw [decide_eq_true_iff] at hlast
  have hok : OnTime (.epollIo {}) 0 ⟨t, (atMs 2).ns⟩ napOverTen := by
    refine ⟨⟨le_refl _, le_of_eq (add_zero _).symm⟩, fun d x hd hx => ?_⟩
    rw [hpc] at hd
    cases hd
    cases (show some 8000000 = some x from hx)
    decide
  have hend := handed_out_in_time {} ⟨_, hs⟩ hobs (le_refl _) hst hpc (System.Run.one hok hu)
  rw [hidle] at hend
  rcases hend with ⟨hslept, -⟩ | hwoken
  · have := hslept.asleep.pc
    rw [hlast.1] at this
    cases this
  · exact ⟨u, hlast.1, hlast.2, hwoken⟩

end AppExecFwk
