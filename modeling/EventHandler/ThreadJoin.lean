import EventHandler.ThreadCollector

/-!
# Joining the deposited threads

* `StopOrder` — how far `Stop` is: `destroying_` is set, the collector's thread has returned and no
  new one is created, `depositMap_` is empty.
* `joined_exactly_once` — no deposited thread is joined twice, after `Stop` all of them are joined,
  and a `Deposit` after `Stop` set `destroying_` is refused.
* `Pending` — a finished thread that is not joined has its id in `reclaims_`, as long as the collector
  finds the thread of every request it takes.
* `finished_reclaimed`, `finished_thread_kept` — a thread whose request was taken before its `Deposit`
  stays in `depositMap_`.
-/

set_option autoImplicit false

namespace AppExecFwk

open Transition CollectorSys

variable {s t : CollectorSys}

/-! ## Stop -/

/-- What `Stop` has achieved where it is. -/
structure StopOrder (s : CollectorSys) : Prop where
  destroying : s.stopper ≠ .notCalled → s.destroying = true
  past : s.stopper.pastCollector = true → s.collector.gone = true ∧ s.needCreateThread = false
  empty : s.stopper = .returned → s.depositMap = []

/-- The steps of the collector's thread are over once `Stop` has joined it. -/
theorem StopOrder.running (h : StopOrder s) (hc : s.collector.gone = false) :
    s.stopper.pastCollector = false := by
  cases hp : s.stopper.pastCollector with
  | false => rfl
  | true =>
    rw [(h.past hp).1] at hc
    cases hc

/-- A step of the collector's thread. -/
theorem StopOrder.collect (h : StopOrder s) (hc : s.collector.gone = false)
    (hst : t.stopper = s.stopper) (hd : t.destroying = s.destroying) : StopOrder t := by
  have hp := h.running hc
  refine ⟨fun hn => ?_, fun hp' => ?_, fun hr => ?_⟩
  · rw [hd]
    rw [hst] at hn
    exact h.destroying hn
  · rw [hst, hp] at hp'
    cases hp'
  · rw [hst] at hr
    rw [hr] at hp
    cases hp

/-- A step of another thread. -/
theorem StopOrder.other (h : StopOrder s) (hst : t.stopper = s.stopper)
    (hd : t.destroying = s.destroying) (hc : t.collector = s.collector)
    (hn : t.needCreateThread = s.needCreateThread)
    (hm : s.destroying = true → t.depositMap = s.depositMap) : StopOrder t := by
  refine ⟨?_, ?_, fun hr => ?_⟩
  · rw [hst, hd]
    exact h.destroying
  · rw [hst, hc, hn]
    exact h.past
  · rw [hst] at hr
    rw [hm (h.destroying (by simp [hr]))]
    exact h.empty hr

theorem stopOrder_step {a : CollectorOp} (h : StopOrder s) (hstep : s.step a = some t) :
    StopOrder t := by
  cases collectorStep_cases hstep with
  | start thread id _ _ => exact h.other rfl rfl rfl rfl fun _ => rfl
  | refused thread _ _ _ => exact h.other rfl rfl rfl rfl fun _ => rfl
  | deposited thread _ _ _ hx =>
    refine h.other rfl rfl rfl rfl fun hd => ?_
    rw [hx] at hd
    cases hd
  | reclaimLate thread _ _ => exact h.other rfl rfl rfl rfl fun _ => rfl
  | reclaim thread _ _ _ => exact h.other rfl rfl rfl rfl fun _ => rfl
  | create thread _ hl _ hn =>
    -- `Stop` does not hold `threadLock_`, and has not cleared `needCreateThread_`
    refine ⟨h.destroying, fun hp => ?_, h.empty⟩
    have hp : s.stopper.pastCollector = true := hp
    rw [(h.past hp).2] at hn
    cases hn
  | noCreate thread _ _ => exact h.other rfl rfl rfl rfl fun _ => rfl
  | finish thread _ => exact h.other rfl rfl rfl rfl fun _ => rfl
  | creatorJoin thread _ _ => exact h.other rfl rfl rfl rfl fun _ => rfl
  | moved pc hold _ hc _ =>
    refine h.collect ?_ rfl rfl
    cases hcol : s.collector with
    | none => exact absurd hcol hc.1
    | stopped => exact absurd hcol hc.2
    | _ => rfl
  | unknown id reclaims hc _ _ => exact h.collect (by rw [hc]; rfl) rfl rfl
  | took id reclaims thread hc _ _ => exact h.collect (by rw [hc]; rfl) rfl rfl
  | joined thread hc _ => exact h.collect (by rw [hc]; rfl) rfl rfl
  | setDestroying first _ => exact ⟨fun _ => rfl, fun hp => (by cases hp), fun hr => by cases hr⟩
  | lockThread first hst =>
    exact ⟨fun _ => h.destroying (by simp [hst]), fun hp => (by cases hp), fun hr => by cases hr⟩
  | joinedCollector first hst hg =>
    exact ⟨fun _ => h.destroying (by simp [hst]), fun _ => ⟨hg, rfl⟩, fun hr => by cases hr⟩
  | lockMap first hst =>
    exact ⟨fun _ => h.destroying (by simp [hst]), fun _ => h.past (by rw [hst]; rfl),
      fun hr => by cases hr⟩
  | returned first hst hm =>
    exact ⟨fun _ => h.destroying (by simp [hst]), fun _ => h.past (by rw [hst]; rfl), fun _ => hm⟩
  | stopTook first hst _ =>
    exact ⟨fun _ => h.destroying (by simp [hst]), fun _ => h.past (by rw [hst]; rfl),
      fun hr => by cases hr⟩
  | exited first thread hst =>
    exact ⟨fun _ => h.destroying (by simp [hst]), fun _ => h.past (by rw [hst]; rfl),
      fun hr => by cases hr⟩
  | stopJoined first thread hst _ =>
    exact ⟨fun _ => h.destroying (by simp [hst]), fun _ => h.past (by rw [hst]; rfl),
      fun hr => by cases hr⟩

theorem reachable_stopOrder {ok : CollectorSys → CollectorOp → Prop}
    (h : collectorSystem.Reachable ok s) : StopOrder s := by
  apply h.invariant (I := StopOrder)
  · exact ⟨fun hn => absurd rfl hn, fun hp => (by cases hp), fun hr => by cases hr⟩
  · exact fun _ _ _ ho _ hs => stopOrder_step ho hs

/-- After `Stop` the collector's thread holds nothing. -/
theorem holds_of_gone {pc : CollectorPc} (h : pc.gone = true) : pc.holds = [] := by
  cases pc with
  | joining thread => cases h
  | _ => rfl

/-- **Every deposited thread is joined exactly once.** -/
theorem joined_exactly_once (h : collectorSystem.Reachable System.always s) :
    (∀ x, (s.threads x).deposit = .deposited → (s.joins ++ s.creatorJoins).count x ≤ 1) ∧
    (s.stopper = .returned → s.depositMap = [] ∧
      ∀ x, (s.threads x).deposit = .deposited → x ∈ s.joins) ∧
    (∀ x t, s.destroying = true → s.step (.deposit x) = some t →
      (t.threads x).deposit = .refused ∧ t.depositMap = s.depositMap) := by
  have hc := reachable_custody h
  have ho := reachable_stopOrder h
  refine ⟨fun x hx => ?_, fun hr => ⟨ho.empty hr, fun x hx => ?_⟩, fun x t hx hs => ?_⟩
  · have hnd : s.joins.Nodup := by
      have hl : (s.depositMap ++ (s.collector.holds ++ (s.stopper.holds ++ s.joins))).Nodup := hc.nodup
      exact ((hl.of_append_right).of_append_right).of_append_right
    have hout : x ∉ s.creatorJoins := by
      intro hj
      have hd := hc.creator x hj
      rw [hx] at hd
      cases hd
    rw [List.count_append, List.count_eq_zero_of_not_mem hout]
    exact List.nodup_iff_count_le_one.1 hnd x
  · have hmem := (hc.mem x).2 hx
    unfold ledger at hmem
    rw [ho.empty hr, hr, holds_of_gone (ho.past (by rw [hr]; rfl)).1] at hmem
    exact hmem
  · cases collectorStep_cases hs with
    | refused _ _ _ _ => exact ⟨by rw [setThread_self], rfl⟩
    | deposited _ _ _ _ hd =>
      rw [hd] at hx
      cases hx

/-- A thread is reclaimed by the collector, the next one by `Stop`, and a third one comes too late. -/
theorem joined_exactly_once_run : ∃ s : CollectorSys, s.stopper = .returned ∧ s.joins = [0, 1] ∧
    (s.threads 2).deposit = .refused ∧ s.depositMap = [] ∧
    ∀ x, (s.threads x).deposit = .deposited → x ∈ s.joins := by
  obtain ⟨s, hs, hp⟩ := System.run_of_exec collectorSystem System.always
    (fun s => s.stopper = .returned ∧ s.joins = [0, 1] ∧ (s.threads 2).deposit = .refused)
    [.start 0 7, .deposit 0, .start 1 8, .deposit 1, .reclaim 0, .tryLock 0 true, .collect, .collect,
      .collect, .finish 0, .collect, .collect, .collect, .stop 0, .start 2 7, .deposit 2, .stop 0,
      .collect, .collect, .stop 0, .stop 0, .stop 1, .stop 0, .reclaim 1, .finish 1, .stop 0, .stop 0,
      .stop 0] (by decide)
  exact ⟨s, hp.1, hp.2.1, hp.2.2, (joined_exactly_once ⟨_, hs⟩).2.1 hp.1⟩

/-! ## Reclaiming while the process runs -/

/-- The thread has executed the first critical section of `ReclaimCurrentThread`. -/
def ThreadPhase.asked : ThreadPhase → Bool
  | .requested => true
  | .finishing => true
  | .ended => true
  | _ => false

/-- The thread has executed `ReclaimCurrentThread`. -/
def ThreadPhase.reclaimed : ThreadPhase → Bool
  | .finishing => true
  | .ended => true
  | _ => false

theorem asked_of_reclaimed {phase : ThreadPhase} (h : phase.reclaimed = true) :
    phase.asked = true := by
  cases phase with
  | notStarted => cases h
  | running => cases h
  | requested => rfl
  | finishing => rfl
  | ended => rfl

def CollectorOp.isStop : CollectorOp → Bool
  | .stop _ => true
  | _ => false

/-- `Stop` is not called. -/
def noStop (_ : CollectorSys) (a : CollectorOp) : Prop := a.isStop = false

/-- The collector takes a request whose thread is not in `depositMap_` yet. -/
def CollectorSys.takesEarly (s : CollectorSys) (a : CollectorOp) : Bool :=
  match a, s.collector, s.reclaims with
  | .collect, .inner, id :: _ => (s.find id).isNone
  | _, _, _ => false

/-- Without `Stop`, and no request is taken before the thread's `Deposit`. -/
def inOrder (s : CollectorSys) (a : CollectorOp) : Prop :=
  a.isStop = false ∧ s.takesEarly a = false

instance inOrderDecidable (s : CollectorSys) (a : CollectorOp) : Decidable (inOrder s a) :=
  inferInstanceAs (Decidable (_ ∧ _))

instance noStopDecidable (s : CollectorSys) (a : CollectorOp) : Decidable (noStop s a) :=
  inferInstanceAs (Decidable (_ = _))

/-- A thread that asked and is not joined has its id in `reclaims_`, unless the collector is joining
    it. -/
def Pending (s : CollectorSys) : Prop :=
  ∀ x ∈ s.started, (s.threads x).phase.asked = true → ¬ s.joined x → x ∉ s.collector.holds →
    (s.threads x).id ∈ s.reclaims

/-- A write of a phase that has asked before, too. -/
theorem Pending.setPhase {thread : Nat} {phase : ThreadPhase} (h : Pending s)
    (hp : (s.threads thread).phase.asked = true) : Pending (s.setPhase thread phase) := by
  intro x hx ha hj hc
  rw [(setPhase_threads s thread phase x).1]
  apply h x hx _ hj hc
  obtain rfl | hne := eq_or_ne x thread
  · exact hp
  · rwa [setPhase_ne hne] at ha

theorem pending_step {a : CollectorOp} (hc : Custody s) (h : Pending s)
    (hx : s.destroying = false) (hok : inOrder s a) (hstep : s.step a = some t) : Pending t := by
  cases collectorStep_cases hstep with
  | start thread id hn _ =>
    intro x hx ha hj hh
    obtain rfl | hne := eq_or_ne x thread
    · rw [setThread_self] at ha
      cases ha
    · have hx : x ∈ thread :: s.started := hx
      rw [setThread_ne hne] at ha ⊢
      exact h x ((List.mem_cons.1 hx).resolve_left hne) ha hj hh
  | refused thread _ _ hd =>
    rw [hx] at hd
    cases hd
  | deposited thread hs hd _ _ =>
    intro x hx ha hj hh
    obtain ⟨hid, hphase⟩ := setDeposit_threads s thread .deposited x
    rw [hphase] at ha
    rw [hid]
    exact h x hx ha hj hh
  | reclaimLate thread _ hd =>
    rw [hx] at hd
    cases hd
  | reclaim thread _ _ _ =>
    intro x hx ha hj hh
    obtain rfl | hne := eq_or_ne x thread
    · rw [(setPhase_threads s x .requested x).1]
      exact List.mem_cons_self
    · rw [setPhase_ne hne] at ha ⊢
      exact List.mem_cons_of_mem _ (h x hx ha hj hh)
  | create thread hp _ hcol _ =>
    have hph : Pending (s.setPhase thread .finishing) := h.setPhase (by rw [hp]; rfl)
    intro x hx ha hj _
    apply hph x hx ha hj
    show x ∉ s.collector.holds
    rw [hcol]
    exact List.not_mem_nil
  | noCreate thread _ hp => exact h.setPhase (by rw [hp]; rfl)
  | finish thread hp => exact h.setPhase (by rw [hp]; rfl)
  | creatorJoin thread _ _ =>
    intro x hx ha hj hh
    exact h x hx ha (fun hj' => hj (hj'.imp_right (List.mem_append_left _))) hh
  | moved pc hold _ _ _ =>
    intro x hx ha hj _
    apply h x hx ha hj
    rw [hold]
    exact List.not_mem_nil
  | unknown id reclaims hcol hr hf =>
    have hearly := hok.2
    unfold takesEarly at hearly
    rw [hcol, hr] at hearly
    simp [hf] at hearly
  | took id reclaims thread hcol hr hf =>
    obtain ⟨hmem, hid⟩ := find_some hf
    intro x hx ha hj hh
    have hne : x ≠ thread := fun he => hh (he ▸ List.mem_cons_self)
    have hold : (s.threads x).id ∈ s.reclaims := by
      apply h x hx ha hj
      rw [hcol]
      exact List.not_mem_nil
    rw [hr, List.mem_cons] at hold
    refine hold.resolve_left fun hxid => hne ?_
    exact hc.ids x thread hx (hc.mem_started hmem) hj (hc.not_joined (Or.inl hmem))
      (hxid.trans hid.symm)
  | joined thread hcol _ =>
    intro x hx ha hj _
    have hne : x ≠ thread := by
      rintro rfl
      exact hj (Or.inl (List.mem_append_right _ List.mem_cons_self))
    apply h x hx ha
    · exact fun hj' => hj (hj'.imp_left (List.mem_append_left _))
    · rw [hcol]
      simpa [CollectorPc.holds] using hne
  | _ => cases hok.1

/-- `Stop` has not been called. -/
structure Quiet (s : CollectorSys) : Prop where
  stopper : s.stopper = .notCalled
  destroying : s.destroying = false
  accepting : ∀ x, (s.threads x).deposit ≠ .refused

theorem quiet_step {a : CollectorOp} (h : Quiet s) (hok : a.isStop = false)
    (hstep : s.step a = some t) : Quiet t := by
  have hset : ∀ thread (state : Thread), state.deposit ≠ .refused →
      ∀ x, ((s.setThread thread state).threads x).deposit ≠ .refused := by
    intro thread state hd x
    obtain rfl | hne := eq_or_ne x thread
    · rwa [setThread_self]
    · rw [setThread_ne hne]
      exact h.accepting x
  have hphase : ∀ thread phase x, ((s.setPhase thread phase).threads x).deposit ≠ .refused := by
    intro thread phase x
    rw [(setPhase_threads s thread phase x).2]
    exact h.accepting x
  cases collectorStep_cases hstep with
  | start thread id _ _ => exact ⟨h.stopper, h.destroying, hset thread _ (by simp)⟩
  | refused thread _ _ hd =>
    rw [h.destroying] at hd
    cases hd
  | deposited thread _ _ _ _ => exact ⟨h.stopper, h.destroying, hset thread _ (by simp)⟩
  | reclaimLate thread _ _ => exact ⟨h.stopper, h.destroying, hphase thread .finishing⟩
  | reclaim thread _ _ _ => exact ⟨h.stopper, h.destroying, hphase thread .requested⟩
  | create thread _ _ _ _ => exact ⟨h.stopper, h.destroying, hphase thread .finishing⟩
  | noCreate thread _ _ => exact ⟨h.stopper, h.destroying, hphase thread .finishing⟩
  | finish thread _ => exact ⟨h.stopper, h.destroying, hphase thread .ended⟩
  | setDestroying _ _ => cases hok
  | lockThread _ _ => cases hok
  | joinedCollector _ _ _ => cases hok
  | lockMap _ _ => cases hok
  | returned _ _ _ => cases hok
  | stopTook _ _ _ => cases hok
  | exited _ _ _ => cases hok
  | stopJoined _ _ _ _ => cases hok
  | _ => exact ⟨h.stopper, h.destroying, h.accepting⟩

theorem quiet_init : Quiet collectorSystem.init := ⟨rfl, rfl, fun _ => by simp [collectorSystem]⟩

/-- The thread asked, its request was taken, and it is in `depositMap_`. -/
def Forgotten (x : Nat) (s : CollectorSys) : Prop :=
  x ∈ s.depositMap ∧ (s.threads x).phase.reclaimed = true ∧ (s.threads x).id ∉ s.reclaims

theorem forgotten_setPhase {x thread : Nat} {phase : ThreadPhase} (h : Forgotten x s)
    (hp : x = thread → phase.reclaimed = true) : Forgotten x (s.setPhase thread phase) := by
  refine ⟨h.1, ?_, ?_⟩
  · obtain rfl | hne := eq_or_ne x thread
    · rw [setPhase_self]
      exact hp rfl
    · rw [setPhase_ne hne]
      exact h.2.1
  · rw [(setPhase_threads s thread phase x).1]
    exact h.2.2

/-- `emplace` takes nothing out of `depositMap_`. -/
theorem mem_emplaced {x thread : Nat} {p : Prop} [Decidable p] (h : x ∈ s.depositMap) :
    x ∈ if p then s.depositMap else s.depositMap ++ [thread] := by
  split
  · exact h
  · exact List.mem_append_left _ h

theorem forgotten_step {x : Nat} {a : CollectorOp} (hc : Custody s) (h : Forgotten x s)
    (hok : a.isStop = false) (hstep : s.step a = some t) : Forgotten x t := by
  obtain ⟨hmem, hre, hout⟩ := h
  have hxs := hc.mem_started hmem
  have hxj := hc.not_joined (Or.inl hmem)
  cases collectorStep_cases hstep with
  | start thread id hn _ =>
    have hne : x ≠ thread := fun he => hn (he ▸ hxs)
    refine ⟨hmem, ?_, ?_⟩ <;> rw [setThread_ne hne]
    · exact hre
    · exact hout
  | refused thread _ hd _ =>
    have hne : x ≠ thread := by
      rintro rfl
      exact (hc.fresh hd).1 (List.mem_append_left _ hmem)
    refine ⟨hmem, ?_, ?_⟩ <;> rw [setThread_ne hne]
    · exact hre
    · exact hout
  | deposited thread _ hd _ _ =>
    have hne : x ≠ thread := by
      rintro rfl
      exact (hc.fresh hd).1 (List.mem_append_left _ hmem)
    refine ⟨mem_emplaced hmem, ?_, ?_⟩
    · rw [setThread_ne hne]
      exact hre
    · rw [setThread_ne hne]
      exact hout
  | reclaimLate thread hp _ =>
    exact forgotten_setPhase ⟨hmem, hre, hout⟩ fun _ => rfl
  | reclaim thread hp _ _ =>
    have hne : x ≠ thread := by
      rintro rfl
      rw [hp] at hre
      cases hre
    obtain ⟨hts, htj⟩ := hc.of_running hp
    refine ⟨hmem, ?_, ?_⟩
    · rw [setPhase_ne hne]
      exact hre
    · rw [setPhase_ne hne]
      show (s.threads x).id ∉ (s.threads thread).id :: s.reclaims
      rw [List.mem_cons]
      rintro (hid | hr)
      · exact hne (hc.ids x thread hxs hts hxj htj hid)
      · exact hout hr
  | create thread _ _ _ _ =>
    exact forgotten_setPhase (s := s) ⟨hmem, hre, hout⟩ fun _ => rfl
  | noCreate thread _ _ => exact forgotten_setPhase ⟨hmem, hre, hout⟩ fun _ => rfl
  | finish thread _ => exact forgotten_setPhase ⟨hmem, hre, hout⟩ fun _ => rfl
  | creatorJoin thread _ _ => exact ⟨hmem, hre, hout⟩
  | moved pc _ _ _ _ => exact ⟨hmem, hre, hout⟩
  | unknown id reclaims _ hr _ =>
    refine ⟨hmem, hre, fun hm => hout ?_⟩
    rw [hr]
    exact List.mem_cons_of_mem _ hm
  | took id reclaims thread _ hr hf =>
    rw [hr, List.mem_cons, not_or] at hout
    have hne : x ≠ thread := by
      rintro rfl
      exact hout.1 (find_some hf).2
    exact ⟨(List.mem_erase_of_ne hne).2 hmem, hre, hout.2⟩
  | joined thread _ _ => exact ⟨hmem, hre, hout⟩
  | _ => cases hok

/-- A thread whose request was taken before its `Deposit` stays in `depositMap_`. -/
theorem finished_thread_kept {x : Nat} {u : CollectorSys} {as : List CollectorOp}
    (h : collectorSystem.Reachable noStop s) (hd : (s.threads x).deposit = .notYet)
    (hre : (s.threads x).phase.reclaimed = true) (hout : (s.threads x).id ∉ s.reclaims)
    (hs : s.step (.deposit x) = some t) (hr : collectorSystem.Run noStop t as u) :
    x ∈ u.depositMap ∧ (u.threads x).phase.reclaimed = true := by
  have hq : Quiet s := h.invariant quiet_init fun _ _ _ hq hok hs => quiet_step hq hok hs
  have hc : Custody s := reachable_custody h
  have hct : Custody t := custody_step hc hs
  have hforgot : Forgotten x t := by
    cases collectorStep_cases hs with
    | refused _ _ _ hx =>
      rw [hq.destroying] at hx
      cases hx
    | deposited _ hxs _ _ _ =>
      refine ⟨?_, ?_, ?_⟩
      · rw [hc.find_fresh hxs hd]
        exact List.mem_append_right _ List.mem_cons_self
      · rw [setThread_self]
        exact hre
      · rw [setThread_self]
        exact hout
  have hkept := hr.invariant (I := fun s => Custody s ∧ Forgotten x s)
    (fun s a t hi hok hs => ⟨custody_step hi.1 hs, forgotten_step hi.1 hi.2 hok hs⟩) ⟨hct, hforgot⟩
  exact ⟨hkept.2.1, hkept.2.2.1⟩

/-- Without `Stop`, and a thread asks to be reclaimed only after its `Deposit`. -/
def asksDeposited (s : CollectorSys) (a : CollectorOp) : Prop :=
  a.isStop = false ∧ ∀ x, a = .reclaim x → (s.threads x).deposit ≠ .notYet

/-- Every request has its thread in `depositMap_`. -/
structure Answered (s : CollectorSys) : Prop where
  found : ∀ id ∈ s.reclaims, ∃ x ∈ s.depositMap,
    (s.threads x).id = id ∧ (s.threads x).phase.asked = true
  nodup : s.reclaims.Nodup
  held : ∀ x ∈ s.collector.holds, (s.threads x).phase.asked = true

theorem Answered.not_takesEarly (h : Answered s) (a : CollectorOp) : s.takesEarly a = false := by
  unfold takesEarly
  split
  · rename_i id rest hcol hr
    cases hf : s.find id with
    | some x => rfl
    | none =>
      obtain ⟨x, hx, hid, -⟩ := h.found id (by rw [hr]; exact List.mem_cons_self)
      exact absurd hid (find_none hf hx)
  · rfl

/-- A step after which the same threads are in the map and have asked. -/
theorem Answered.frame (h : Answered s) (hr : t.reclaims = s.reclaims)
    (hm : ∀ x ∈ s.depositMap, x ∈ t.depositMap ∧ (t.threads x).id = (s.threads x).id)
    (hp : ∀ x, x ∈ s.started → (s.threads x).phase.asked = true → (t.threads x).phase.asked = true)
    (hc : Custody s) (hh : ∀ x ∈ t.collector.holds, x ∈ s.collector.holds) : Answered t := by
  refine ⟨fun id hid => ?_, hr ▸ h.nodup, fun x hx => ?_⟩
  · rw [hr] at hid
    obtain ⟨x, hx, hxid, hask⟩ := h.found id hid
    obtain ⟨hxt, hidt⟩ := hm x hx
    exact ⟨x, hxt, hidt.trans hxid, hp x (hc.mem_started hx) hask⟩
  · have hx := hh x hx
    have hd : (s.threads x).deposit = .deposited := by
      rw [← hc.mem]
      exact List.mem_append_right _ (List.mem_append_left _ hx)
    exact hp x (hc.started x (Or.inr (by simp [hd]))) (h.held x hx)

theorem asked_setPhase {thread : Nat} {phase : ThreadPhase} (hp : phase.asked = true) {x : Nat}
    (h : (s.threads x).phase.asked = true) :
    ((s.setPhase thread phase).threads x).phase.asked = true := by
  obtain rfl | hne := eq_or_ne x thread
  · rwa [setPhase_self]
  · rwa [setPhase_ne hne]

theorem Answered.setPhase {thread : Nat} {phase : ThreadPhase} (h : Answered s) (hc : Custody s)
    (hp : phase.asked = true) : Answered (s.setPhase thread phase) :=
  h.frame rfl (fun x hx => ⟨hx, (setPhase_threads s thread phase x).1⟩)
    (fun _ _ ha => asked_setPhase hp ha) hc fun _ hx => hx

/-- A thread asks: it was deposited and is still in `depositMap_`. -/
theorem Answered.reclaim {thread : Nat} (h : Answered s) (hc : Custody s) (hq : Quiet s)
    (hp : (s.threads thread).phase = .running) (hyet : (s.threads thread).deposit ≠ .notYet) :
    Answered { s.setPhase thread .requested with reclaims := (s.threads thread).id :: s.reclaims } := by
  obtain ⟨hts, htj⟩ := hc.of_running hp
  have hnotasked : (s.threads thread).phase.asked = false := by rw [hp]; rfl
  have hdep : (s.threads thread).deposit = .deposited := by
    have hacc := hq.accepting thread
    cases hd : (s.threads thread).deposit with
    | notYet => exact absurd hd hyet
    | refused => exact absurd hd hacc
    | deposited => rfl
  -- the thread is deposited, not joined and in nobody's hands
  have htm : thread ∈ s.depositMap := by
    have hl := (hc.mem thread).2 hdep
    unfold ledger at hl
    rw [hq.stopper] at hl
    simp only [List.mem_append] at hl
    obtain hl | hl | hl | hl := hl
    · exact hl
    · rw [h.held thread hl] at hnotasked
      cases hnotasked
    · cases hl
    · exact absurd (Or.inl hl) htj
  have hnew : (s.threads thread).id ∉ s.reclaims := by
    intro hin
    obtain ⟨x, hx, hid, hask⟩ := h.found _ hin
    rw [hc.ids x thread (hc.mem_started hx) hts (hc.not_joined (Or.inl hx)) htj hid,
      hnotasked] at hask
    cases hask
  have hph : Answered (s.setPhase thread .requested) := h.setPhase hc rfl
  refine ⟨fun id hid => ?_, List.nodup_cons.2 ⟨hnew, h.nodup⟩, hph.held⟩
  obtain rfl | hid := List.mem_cons.1 hid
  · refine ⟨thread, htm, (setPhase_threads s thread .requested thread).1, ?_⟩
    show ((s.setPhase thread .requested).threads thread).phase.asked = true
    rw [setPhase_self]
    rfl
  · exact hph.found id hid

/-- The collector takes the thread of the first request, which has asked. -/
theorem Answered.took {id thread : Nat} {reclaims : List Nat} (h : Answered s) (hc : Custody s)
    (hr : s.reclaims = id :: reclaims) (hf : s.find id = some thread) :
    Answered { s with
      reclaims := reclaims
      depositMap := s.depositMap.erase thread
      collector := .joining thread } := by
  obtain ⟨hmem, hid⟩ := find_some hf
  obtain ⟨hout, hnd⟩ := List.nodup_cons.1 (hr ▸ h.nodup)
  refine ⟨fun id' hid' => ?_, hnd, fun x hx => ?_⟩
  · obtain ⟨x, hx, hxid, hask⟩ := h.found id' (by rw [hr]; exact List.mem_cons_of_mem _ hid')
    have hne : x ≠ thread := by
      rintro rfl
      exact hout (by rwa [← hid, hxid])
    exact ⟨x, (List.mem_erase_of_ne hne).2 hx, hxid, hask⟩
  · have hx : x ∈ [thread] := hx
    rw [List.mem_singleton.1 hx]
    obtain ⟨y, hy, hyid, hask⟩ := h.found id (by rw [hr]; exact List.mem_cons_self)
    rwa [← hc.ids y thread (hc.mem_started hy) (hc.mem_started hmem) (hc.not_joined (Or.inl hy))
      (hc.not_joined (Or.inl hmem)) (hyid.trans hid.symm)]

theorem answered_step {a : CollectorOp} (hc : Custody s) (hq : Quiet s) (h : Answered s)
    (hok : asksDeposited s a) (hstep : s.step a = some t) : Answered t := by
  cases collectorStep_cases hstep with
  | start thread id hn _ =>
    have hne : ∀ x ∈ s.started, x ≠ thread := fun x hxs he => hn (he ▸ hxs)
    refine h.frame rfl (fun x hx => ⟨hx, ?_⟩) (fun x hxs ha => ?_) hc fun _ hx => hx
    · rw [setThread_ne (hne x (hc.mem_started hx))]
    · rwa [setThread_ne (hne x hxs)]
  | refused thread _ _ hd =>
    rw [hq.destroying] at hd
    cases hd
  | deposited thread _ _ _ _ =>
    have hth := setDeposit_threads s thread .deposited
    refine h.frame rfl (fun x hx => ⟨mem_emplaced hx, (hth x).1⟩) (fun x _ ha => ?_) hc
      fun _ hx => hx
    rwa [(hth x).2]
  | reclaimLate thread _ hd =>
    rw [hq.destroying] at hd
    cases hd
  | reclaim thread hp _ _ => exact h.reclaim hc hq hp (hok.2 thread rfl)
  | create thread hp _ hcol _ =>
    have hph : Answered (s.setPhase thread .finishing) := h.setPhase hc rfl
    exact ⟨hph.found, hph.nodup, fun x hx => by cases hx⟩
  | noCreate thread _ _ => exact h.setPhase hc rfl
  | finish thread _ => exact h.setPhase hc rfl
  | creatorJoin thread _ _ =>
    exact h.frame rfl (fun x hx => ⟨hx, rfl⟩) (fun x _ ha => ha) hc fun _ hx => hx
  | moved pc _ hnew _ _ =>
    refine h.frame rfl (fun x hx => ⟨hx, rfl⟩) (fun x _ ha => ha) hc fun x hx => ?_
    have hx : x ∈ pc.holds := hx
    rw [hnew] at hx
    cases hx
  | unknown id reclaims _ hr _ =>
    have hsub : ∀ id' ∈ reclaims, id' ∈ s.reclaims := by
      intro id' hid
      rw [hr]
      exact List.mem_cons_of_mem _ hid
    exact ⟨fun id' hid => h.found id' (hsub id' hid), (List.nodup_cons.1 (hr ▸ h.nodup)).2, h.held⟩
  | took id reclaims thread hcol hr hf => exact h.took hc hr hf
  | joined thread _ _ =>
    refine h.frame rfl (fun x hx => ⟨hx, rfl⟩) (fun x _ ha => ha) hc fun x hx => ?_
    cases hx
  | _ => cases hok.1

/-- The collector waits with no request open. -/
def AllReclaimed (s : CollectorSys) : Prop :=
  s.collector = .waiting → s.reclaims = [] →
    ∀ x ∈ s.depositMap, (s.threads x).phase.reclaimed = false

theorem allReclaimed_of_pending (hc : Custody s) (hp : Pending s) : AllReclaimed s := by
  intro hw hr x hx
  cases hre : (s.threads x).phase.reclaimed with
  | false => rfl
  | true =>
    have hin : (s.threads x).id ∈ s.reclaims := by
      apply hp x (hc.mem_started hx) (asked_of_reclaimed hre) (hc.not_joined (Or.inl hx))
      rw [hw]
      exact List.not_mem_nil
    rw [hr] at hin
    cases hin

theorem reachable_pending (h : collectorSystem.Reachable inOrder s) : Pending s := by
  have hall : Custody s ∧ Quiet s ∧ Pending s := by
    apply h.invariant (I := fun s => Custody s ∧ Quiet s ∧ Pending s)
    · exact ⟨custody_init, quiet_init, fun x hx => by cases hx⟩
    · rintro s a t ⟨hc, hq, hp⟩ hok hs
      exact ⟨custody_step hc hs, quiet_step hq hok.1 hs, pending_step hc hp hq.destroying hok hs⟩
  exact hall.2.2

/-- A run in which threads ask after their `Deposit` takes no request early. -/
theorem reachable_inOrder (h : collectorSystem.Reachable asksDeposited s) :
    collectorSystem.Reachable inOrder s ∧ Custody s ∧ Quiet s ∧ Answered s := by
  apply h.invariant (I := fun s => collectorSystem.Reachable inOrder s ∧ Custody s ∧ Quiet s ∧ Answered s)
  · exact ⟨.init, custody_init, quiet_init, fun id hid => (by cases hid), List.nodup_nil,
      fun x hx => by cases hx⟩
  · rintro s a t ⟨hr, hc, hq, ha⟩ hok hs
    exact ⟨hr.step ⟨hok.1, ha.not_takesEarly a⟩ hs, custody_step hc hs, quiet_step hq hok.1 hs,
      answered_step hc hq ha hok hs⟩

/-- **The collector reclaims every finished thread**, when it takes no request before the thread's
    `Deposit`: for one when threads ask after their `Deposit`.  A request taken early is lost for
    good. -/
theorem finished_reclaimed (s : CollectorSys) :
    (collectorSystem.Reachable inOrder s → AllReclaimed s) ∧
    (collectorSystem.Reachable asksDeposited s → AllReclaimed s) ∧
    (∀ t u as x, collectorSystem.Reachable noStop s → (s.threads x).deposit = .notYet →
      (s.threads x).phase.reclaimed = true → (s.threads x).id ∉ s.reclaims →
      s.step (.deposit x) = some t → collectorSystem.Run noStop t as u →
      u.collector = .waiting → u.reclaims = [] → ¬ AllReclaimed u) := by
  refine ⟨fun h => ?_, fun h => ?_, fun t u as x h hd hre hout hs hr hw hn hall => ?_⟩
  · exact allReclaimed_of_pending (reachable_custody h) (reachable_pending h)
  · obtain ⟨hin, hc, -⟩ := reachable_inOrder h
    exact allReclaimed_of_pending hc (reachable_pending hin)
  · obtain ⟨hmem, hreclaimed⟩ := finished_thread_kept h hd hre hout hs hr
    have hfalse := hall hw hn x hmem
    rw [hreclaimed] at hfalse
    cases hfalse

/-- A thread that asks after its `Deposit` is joined; the one that runs stays in the map. -/
theorem finished_reclaimed_run : ∃ s : CollectorSys, s.collector = .waiting ∧ s.depositMap = [1] ∧
    s.joins = [0] ∧ ∀ x ∈ s.depositMap, (s.threads x).phase.reclaimed = false := by
  obtain ⟨s, hs, hp⟩ := System.run_of_exec collectorSystem inOrder
    (fun s => s.collector = .waiting ∧ s.depositMap = [1] ∧ s.joins = [0] ∧ s.reclaims = [])
    [.start 0 7, .deposit 0, .start 1 8, .deposit 1, .reclaim 0, .tryLock 0 true, .collect, .collect,
      .collect, .finish 0, .collect, .collect, .collect] (by decide)
  exact ⟨s, hp.1, hp.2.1, hp.2.2.1, (finished_reclaimed s).1 ⟨_, hs⟩ hp.1 hp.2.2.2⟩

/-- A thread asks and ends before its `Deposit`: the collector waits, and the thread stays in the
    map. -/
theorem finished_thread_leaks :
    ¬ ∀ s, collectorSystem.Reachable noStop s → AllReclaimed s := by
  intro h
  obtain ⟨s, hs, hp⟩ := System.run_of_exec collectorSystem noStop
    (fun s => s.collector = .waiting ∧ s.reclaims = [] ∧ s.depositMap = [0] ∧
      (s.threads 0).phase = .ended)
    [.start 0 7, .reclaim 0, .tryLock 0 true, .finish 0, .collect, .collect, .collect, .collect,
      .deposit 0] (by decide)
  have hfalse := h s ⟨_, hs⟩ hp.1 hp.2.1 0 (by rw [hp.2.2.1]; exact List.mem_cons_self)
  rw [hp.2.2.2] at hfalse
  cases hfalse

end AppExecFwk
