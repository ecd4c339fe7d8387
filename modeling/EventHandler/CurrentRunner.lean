import Mathlib
import EventHandler.Lib.Transition

/-!
# The current runner of a thread

`EventRunnerImpl::Run` saves what `ThreadLocalData` holds for its thread, puts its own runner there
and restores the old value when the loop is over.  The data are a map from thread ids: a value stays
behind when a thread ends, and an id is used again.  A callback may run another runner on its thread.

* `LoopFrame`, `LoopThread`, `LoopThreads` — the calls of `Run` on a thread, the threads, the map.
* `LoopThreads.innermost` — the runner of the innermost loop of a thread.
* `LoopThreads.sendSyncEvent` — a sync send from a callback: it is dispatched on the spot, or the
  thread waits for the loop of the runner.
* `Stacked`, `stacked_step` — every call of `Run` has saved the runner of the loop around it, and the
  map holds the innermost one.
* `current_is_innermost` — `EventRunner::Current()` is the runner of the innermost loop, on every
  thread, also one with a used id.
* `nested_send_stuck` — a sync event for a runner whose loop is suspended on the same thread is never
  handled.

Of a deposited runner in the mode `NO_WAIT` every `Run` starts a thread, and in a task of FFRT
`Current` asks the handler of the queue; both are not modelled here.
-/

set_option autoImplicit false

namespace AppExecFwk

open Transition

/-- How far a call of `Run` is; `oldRunner` is the weak reference it has saved. -/
inductive FramePc where
  | entered
  | saved (oldRunner : Option Nat)
  | looping (oldRunner : Option Nat)
  deriving DecidableEq, Repr

/-- A call of `EventRunnerImpl::Run` behind the test of `owner_`. -/
structure LoopFrame where
  runner : Nat
  pc : FramePc
  deriving DecidableEq, Repr

/-- A thread, with its calls of `Run`, the innermost first. -/
structure LoopThread where
  id : Nat := 0
  live : Bool := false
  frames : List LoopFrame := []
  /-- The runner of the event that a `SendSyncEvent` of the thread waits for. -/
  waiting : Option Nat := none
  deriving DecidableEq, Repr

structure LoopThreads where
  threads : Nat → LoopThread
  /-- The thread that has an id. -/
  thread : Nat → Option Nat
  /-- `dataMap_` of `currentEventRunner`. -/
  currentEventRunner : Nat → Option (Option Nat)
  expired : Nat → Bool
  /-- A call of `Run` for the runner has begun and not ended. -/
  inRun : Nat → Bool
  /-- `threadId_`. -/
  threadId : Nat → Option Nat

inductive LoopThreadsOp where
  | start (k id : Nat)
  | finish (k : Nat)
  /-- `Run` up to `kernelThreadId_`. -/
  | run (k runner : Nat)
  | saveOld (k : Nat)
  | setCurrent (k : Nat)
  /-- The loop ends: `currentEventRunner = oldRunner`. -/
  | leave (k : Nat)
  | destroy (runner : Nat)
  | sendSync (k runner : Nat)
  /-- The loop of the runner on thread `k` handles the event that `sender` waits for. -/
  | handle (k sender : Nat)
  | remove (sender : Nat)
  deriving DecidableEq, Repr

namespace LoopThreads

/-- `ThreadLocalData::Current`. -/
def savedRunner (s : LoopThreads) (id : Nat) : Option Nat := (s.currentEventRunner id).getD none

/-- `EventInnerRunner::GetCurrentEventRunner` on thread `k`: the weak reference is locked. -/
def getCurrentEventRunner (s : LoopThreads) (k : Nat) : Option Nat :=
  (s.savedRunner (s.threads k).id).filter fun r => !s.expired r

def isCurrentRunnerThread (s : LoopThreads) (k runner : Nat) : Bool :=
  decide (s.threadId runner = some (s.threads k).id)

def setThread (s : LoopThreads) (k : Nat) (thread : LoopThread) : LoopThreads :=
  { s with threads := Function.update s.threads k thread }

/-- The thread is in a callback, or in no loop at all. -/
def inCallback (s : LoopThreads) (k : Nat) : Bool :=
  (s.threads k).live && (s.threads k).waiting.isNone &&
    match (s.threads k).frames with
    | [] => true
    | f :: _ => match f.pc with
      | .looping _ => true
      | _ => false

/-- `SendSyncEvent`: the event is refused, dispatched on the spot, or the thread waits for it. -/
def sendSyncEvent (s : LoopThreads) (k runner : Nat) : LoopThreads :=
  if s.inRun runner = false then s
  else if s.getCurrentEventRunner k = some runner then s
  else s.setThread k { s.threads k with waiting := some runner }

def step (s : LoopThreads) : LoopThreadsOp → Option LoopThreads
  | .start k id =>
    -- An id is given to one thread at a time.
    if (s.threads k).live = false ∧ s.thread id = none then
      some { s.setThread k { id := id, live := true } with
        thread := Function.update s.thread id (some k) }
    else none
  | .finish k =>
    if (s.threads k).live ∧ (s.threads k).frames = [] ∧ (s.threads k).waiting = none then
      some { s.setThread k { s.threads k with live := false } with
        thread := Function.update s.thread (s.threads k).id none }
    else none
  | .run k runner =>
    if s.inCallback k then
      -- `running_` is set, or `owner_` has expired.
      if s.inRun runner ∨ s.expired runner then some s
      else some { s.setThread k
          { s.threads k with frames := ⟨runner, .entered⟩ :: (s.threads k).frames } with
        inRun := Function.update s.inRun runner true
        threadId := Function.update s.threadId runner (some (s.threads k).id) }
    else none
  | .saveOld k =>
    match (s.threads k).frames with
    | ⟨runner, .entered⟩ :: fs =>
      some (s.setThread k { s.threads k with
        frames := ⟨runner, .saved (s.savedRunner (s.threads k).id)⟩ :: fs })
    | _ => none
  | .setCurrent k =>
    match (s.threads k).frames with
    | ⟨runner, .saved old⟩ :: fs =>
      some { s.setThread k { s.threads k with frames := ⟨runner, .looping old⟩ :: fs } with
        currentEventRunner :=
          Function.update s.currentEventRunner (s.threads k).id (some (some runner)) }
    | _ => none
  | .leave k =>
    if (s.threads k).waiting = none then
      match (s.threads k).frames with
      | ⟨runner, .looping old⟩ :: fs =>
        some { s.setThread k { s.threads k with frames := fs } with
          inRun := Function.update s.inRun runner false
          currentEventRunner :=
            Function.update s.currentEventRunner (s.threads k).id (some old) }
      | _ => none
    else none
  | .destroy runner => some { s with expired := Function.update s.expired runner true }
  | .sendSync k runner =>
    if s.inCallback k ∧ s.expired runner = false then some (s.sendSyncEvent k runner) else none
  | .handle k sender =>
    match (s.threads k).frames with
    | ⟨runner, .looping _⟩ :: _ =>
      if (s.threads k).waiting = none ∧ (s.threads sender).waiting = some runner then
        some (s.setThread sender { s.threads sender with waiting := none })
      else none
    | _ => none
  | .remove sender => some (s.setThread sender { s.threads sender with waiting := none })

end LoopThreads

def loopThreadsSystem : System LoopThreads LoopThreadsOp where
  init :=
    { threads := fun _ => {}
      thread := fun _ => none
      currentEventRunner := fun _ => none
      expired := fun _ => false
      inRun := fun _ => false
      threadId := fun _ => none }
  step := LoopThreads.step

/-! ## The stack of a thread -/

def FramePc.isLooping : FramePc → Bool
  | .looping _ => true
  | _ => false

def FramePc.oldRunner : FramePc → Option (Option Nat)
  | .entered => none
  | .saved old => some old
  | .looping old => some old

/-- The runner of the innermost loop. -/
def innermost (fs : List LoopFrame) : Option Nat :=
  (fs.find? fun f => f.pc.isLooping).map LoopFrame.runner

/-- Every call has saved the runner of the loop around it, and only the innermost call may be
    outside its loop. -/
def Chained : List LoopFrame → Prop
  | [] => True
  | f :: fs => (∀ old, f.pc.oldRunner = some old → old = innermost fs) ∧
      (∀ g ∈ fs, g.pc.isLooping = true) ∧ Chained fs

/-- The invariant of all runs. -/
structure Stacked (s : LoopThreads) : Prop where
  chained : ∀ k, Chained (s.threads k).frames
  dead : ∀ k, (s.threads k).live = false →
    (s.threads k).frames = [] ∧ (s.threads k).waiting = none
  ids : ∀ k, (s.threads k).live = true → s.thread (s.threads k).id = some k
  map : ∀ k, (s.threads k).live = true →
    s.savedRunner (s.threads k).id = innermost (s.threads k).frames
  free : ∀ id, s.thread id = none → s.savedRunner id = none
  runs : ∀ k, ∀ f ∈ (s.threads k).frames, s.inRun f.runner = true ∧
    s.threadId f.runner = some (s.threads k).id
  nodup : ∀ k, ((s.threads k).frames.map LoopFrame.runner).Nodup
  home : ∀ k k' f f', f ∈ (s.threads k).frames → f' ∈ (s.threads k').frames →
    f.runner = f'.runner → k = k'
  waits : ∀ k, (s.threads k).waiting ≠ none →
    ∀ f ∈ (s.threads k).frames, f.pc.isLooping = true

theorem Stacked.replace {s : LoopThreads} (h : Stacked s) {k : Nat} {thread : LoopThread}
    {current : Nat → Option (Option Nat)} {inRun : Nat → Bool} {threadId : Nat → Option Nat}
    (hk : (s.threads k).live = true) (hl : thread.live = true)
    (hid : thread.id = (s.threads k).id) (hchain : Chained thread.frames)
    (hcur : ∀ id, id ≠ (s.threads k).id → current id = s.currentEventRunner id)
    (hmap : (current (s.threads k).id).getD none = innermost thread.frames)
    (hnew : ∀ f ∈ thread.frames, inRun f.runner = true ∧
      threadId f.runner = some (s.threads k).id)
    (hold : ∀ k', k' ≠ k → ∀ f ∈ (s.threads k').frames, inRun f.runner = s.inRun f.runner ∧
      threadId f.runner = s.threadId f.runner)
    (hnodup : (thread.frames.map LoopFrame.runner).Nodup)
    (hhome : ∀ f ∈ thread.frames, ∀ k' f', f' ∈ (s.threads k').frames → f.runner = f'.runner → k' = k)
    (hwait : thread.waiting ≠ none → ∀ f ∈ thread.frames, f.pc.isLooping = true) :
    Stacked { s with
      threads := Function.update s.threads k thread
      currentEventRunner := current
      inRun := inRun
      threadId := threadId } := by
  have self : Function.update s.threads k thread k = thread := Function.update_self ..
  have other : ∀ k', k' ≠ k → Function.update s.threads k thread k' = s.threads k' :=
    fun k' hne => Function.update_of_ne hne ..
  refine ⟨fun k' => ?_, fun k' => ?_, fun k' => ?_, fun k' => ?_, fun id hfree => ?_, fun k' => ?_,
    fun k' => ?_, fun k₁ k₂ f f' hf hf' hrun => ?_, fun k' => ?_⟩
  · by_cases hne : k' = k
    · subst hne
      simpa only [self] using hchain
    · simpa only [other k' hne] using h.chained k'
  · by_cases hne : k' = k
    · subst hne
      simp only [self, hl]
      exact fun h => by cases h
    · simpa only [other k' hne] using h.dead k'
  · by_cases hne : k' = k
    · subst hne
      simp only [self, hid]
      exact fun _ => h.ids k' hk
    · simpa only [other k' hne] using h.ids k'
  · by_cases hne : k' = k
    · subst hne
      simp only [self, hid]
      exact fun _ => hmap
    · simp only [other k' hne]
      intro hlive
      have hids : (s.threads k').id ≠ (s.threads k).id := by
        intro he
        have h₁ := h.ids k' hlive
        rw [he, h.ids k hk] at h₁
        exact hne (Option.some.inj h₁).symm
      have hm := h.map k' hlive
      unfold LoopThreads.savedRunner at hm ⊢
      simpa only [hcur _ hids] using hm
  · have hne : id ≠ (s.threads k).id := by
      rintro rfl
      rw [h.ids k hk] at hfree
      cases hfree
    have hm := h.free id hfree
    unfold LoopThreads.savedRunner at hm ⊢
    simpa only [hcur id hne] using hm
  · by_cases hne : k' = k
    · subst hne
      simp only [self, hid]
      exact hnew
    · simp only [other k' hne]
      intro f hf
      obtain ⟨h₁, h₂⟩ := hold k' hne f hf
      rw [h₁, h₂]
      exact h.runs k' f hf
  · by_cases hne : k' = k
    · subst hne
      simpa only [self] using hnodup
    · simpa only [other k' hne] using h.nodup k'
  · by_cases h₁ : k₁ = k
    · subst h₁
      simp only [self] at hf
      by_cases h₂ : k₂ = k₁
      · exact h₂.symm
      · simp only [other k₂ h₂] at hf'
        exact (hhome f hf k₂ f' hf' hrun).symm
    · simp only [other k₁ h₁] at hf
      by_cases h₂ : k₂ = k
      · subst h₂
        simp only [self] at hf'
        exact hhome f' hf' k₁ f hf hrun.symm
      · simp only [other k₂ h₂] at hf'
        exact h.home k₁ k₂ f f' hf hf' hrun
  · by_cases hne : k' = k
    · subst hne
      simpa only [self] using hwait
    · simpa only [other k' hne] using h.waits k'

theorem Stacked.live_of_frames {s : LoopThreads} (h : Stacked s) {k : Nat}
    (hf : (s.threads k).frames ≠ []) : (s.threads k).live = true := by
  cases hl : (s.threads k).live with
  | true => rfl
  | false => exact absurd (h.dead k hl).1 hf

theorem Stacked.top {s : LoopThreads} (h : Stacked s) {k : Nat} {runner : Nat} {pc pc' : FramePc}
    {fs : List LoopFrame} {current : Nat → Option (Option Nat)}
    (hf : (s.threads k).frames = ⟨runner, pc⟩ :: fs) (hpc : pc.isLooping = false)
    (hcur : ∀ id, id ≠ (s.threads k).id → current id = s.currentEventRunner id)
    (hmap : (current (s.threads k).id).getD none = innermost (⟨runner, pc'⟩ :: fs))
    (hold : ∀ old, pc'.oldRunner = some old → old = innermost fs) :
    Stacked { s.setThread k { s.threads k with frames := ⟨runner, pc'⟩ :: fs } with
      currentEventRunner := current } := by
  have hlive := h.live_of_frames (k := k) (by rw [hf]; exact List.cons_ne_nil _ _)
  have hchain := h.chained k
  rw [hf] at hchain
  have hruns := h.runs k
  have hnodup := h.nodup k
  rw [hf] at hruns hnodup
  refine h.replace hlive hlive rfl ⟨hold, hchain.2.1, hchain.2.2⟩ hcur hmap ?_
    (fun _ _ _ _ => ⟨rfl, rfl⟩) hnodup ?_ ?_
  · intro f hm
    rcases List.mem_cons.1 hm with rfl | hm
    · exact hruns ⟨runner, pc⟩ List.mem_cons_self
    · exact hruns f (List.mem_cons_of_mem _ hm)
  · intro f hm k' f' hf' hrun
    rcases List.mem_cons.1 hm with rfl | hm
    · exact h.home k' k f' ⟨runner, pc⟩ hf' (hf ▸ List.mem_cons_self) hrun.symm
    · exact h.home k' k f' f hf' (hf ▸ List.mem_cons_of_mem _ hm) hrun.symm
  · intro hw
    have := h.waits k hw ⟨runner, pc⟩ (hf ▸ List.mem_cons_self)
    rw [hpc] at this
    cases this

theorem Stacked.wait {s : LoopThreads} (h : Stacked s) (k : Nat) (waiting : Option Nat)
    (hlive : waiting ≠ none → (s.threads k).live = true)
    (hloop : waiting ≠ none → ∀ f ∈ (s.threads k).frames, f.pc.isLooping = true) :
    Stacked (s.setThread k { s.threads k with waiting := waiting }) := by
  cases hl : (s.threads k).live with
  | false =>
    have hnone : waiting = none := by
      by_contra hne
      rw [hlive hne] at hl
      cases hl
    have hsame : s.setThread k { s.threads k with waiting := waiting } = s := by
      have hdead := (h.dead k hl).2
      unfold LoopThreads.setThread
      rw [hnone, show ({ s.threads k with waiting := none } : LoopThread) = s.threads k by
        rw [← hdead], Function.update_eq_self]
    rw [hsame]
    exact h
  | true =>
    exact h.replace hl hl rfl (h.chained k) (fun _ _ => rfl) (h.map k hl) (h.runs k)
      (fun _ _ _ _ => ⟨rfl, rfl⟩) (h.nodup k)
      (fun f hf k' f' hf' hrun => h.home k' k f' f hf' hf hrun.symm) hloop

theorem Stacked.id_ne {s : LoopThreads} (h : Stacked s) {k k' : Nat}
    (hl' : (s.threads k').live = true) (hl : (s.threads k).live = true) (hne : k' ≠ k) :
    (s.threads k').id ≠ (s.threads k).id := by
  intro he
  have h₁ := h.ids k' hl'
  rw [he, h.ids k hl] at h₁
  exact hne (Option.some.inj h₁).symm

theorem Stacked.looping {s : LoopThreads} (h : Stacked s) {k : Nat}
    (hcall : s.inCallback k = true) : (s.threads k).live = true ∧ (s.threads k).waiting = none ∧
      ∀ f ∈ (s.threads k).frames, f.pc.isLooping = true := by
  unfold LoopThreads.inCallback at hcall
  simp only [Bool.and_eq_true, Option.isNone_iff_eq_none] at hcall
  obtain ⟨⟨hl, hw⟩, hcase⟩ := hcall
  refine ⟨hl, hw, fun f hf => ?_⟩
  have hchain := h.chained k
  cases hfs : (s.threads k).frames with
  | nil =>
    rw [hfs] at hf
    cases hf
  | cons g fs =>
    rw [hfs] at hf hcase hchain
    rcases List.mem_cons.1 hf with rfl | hf
    · cases hpc : f.pc with
      | looping old => rfl
      | entered => simp [hpc] at hcase
      | saved old => simp [hpc] at hcase
    · exact hchain.2.1 f hf

/-- A thread outside of every loop starts or ends. -/
theorem Stacked.idle {s : LoopThreads} (h : Stacked s) {k : Nat} {new : LoopThread}
    {thread : Nat → Option Nat} (hf : (s.threads k).frames = [])
    (hw : (s.threads k).waiting = none) (hf' : new.frames = []) (hw' : new.waiting = none)
    (hids : ∀ k', (Function.update s.threads k new k').live = true →
      thread (Function.update s.threads k new k').id = some k')
    (hmap : new.live = true → s.savedRunner new.id = none)
    (hfree : ∀ id, thread id = none → s.savedRunner id = none) :
    Stacked { s.setThread k new with thread := thread } := by
  have hframes : ∀ k', (Function.update s.threads k new k').frames = (s.threads k').frames := by
    intro k'
    by_cases hk : k' = k
    · subst hk
      rw [Function.update_self, hf, hf']
    · rw [Function.update_of_ne hk]
  have hwaits : ∀ k', (Function.update s.threads k new k').waiting = (s.threads k').waiting := by
    intro k'
    by_cases hk : k' = k
    · subst hk
      rw [Function.update_self, hw, hw']
    · rw [Function.update_of_ne hk]
  have hfree' : ∀ k', k' ≠ k → Function.update s.threads k new k' = s.threads k' :=
    fun k' hk => Function.update_of_ne hk ..
  refine ⟨fun k' => ?_, fun k' hl => ?_, hids, fun k' hl => ?_, hfree, fun k' f hm => ?_,
    fun k' => ?_, fun k₁ k₂ f f' hm hm' he => ?_, fun k' hwait f hm => ?_⟩
  · exact (hframes k').symm ▸ h.chained k'
  · by_cases hk : k' = k
    · subst hk
      exact ⟨(hframes k').trans hf, (hwaits k').trans hw⟩
    · have hl' : (s.threads k').live = false := hfree' k' hk ▸ hl
      exact ⟨(hframes k').trans (h.dead k' hl').1, (hwaits k').trans (h.dead k' hl').2⟩
  · by_cases hk : k' = k
    · subst hk
      have hself : Function.update s.threads k' new k' = new := Function.update_self ..
      show s.savedRunner (Function.update s.threads k' new k').id
        = innermost (Function.update s.threads k' new k').frames
      rw [hself, hf']
      exact hmap (hself ▸ hl)
    · show s.savedRunner (Function.update s.threads k new k').id
        = innermost (Function.update s.threads k new k').frames
      rw [hfree' k' hk]
      exact h.map k' (hfree' k' hk ▸ hl)
  · have hm' : f ∈ (s.threads k').frames := hframes k' ▸ hm
    have hk : k' ≠ k := by
      rintro rfl
      rw [hf] at hm'
      cases hm'
    show s.inRun f.runner = true ∧
      s.threadId f.runner = some (Function.update s.threads k new k').id
    rw [hfree' k' hk]
    exact h.runs k' f hm'
  · exact (hframes k').symm ▸ h.nodup k'
  · exact h.home k₁ k₂ f f' (hframes k₁ ▸ hm) (hframes k₂ ▸ hm') he
  · exact h.waits k' ((hwaits k') ▸ hwait) f (hframes k' ▸ hm)

/-- **Every step keeps the stacks.** -/
theorem stacked_step {s t : LoopThreads} {a : LoopThreadsOp} (h : Stacked s)
    (hst : s.step a = some t) : Stacked t := by
  cases a with
  | saveOld k =>
    simp only [LoopThreads.step] at hst
    split at hst
    · rename_i runner fs hf
      cases hst
      have hlive := h.live_of_frames (k := k) (by rw [hf]; exact List.cons_ne_nil _ _)
      have hmap := h.map k hlive
      rw [hf] at hmap
      exact h.top hf rfl (fun _ _ => rfl) hmap fun old ho => by
        cases ho
        exact hmap
    · cases hst
  | setCurrent k =>
    simp only [LoopThreads.step] at hst
    split at hst
    · rename_i runner old fs hf
      cases hst
      have hchain := h.chained k
      rw [hf] at hchain
      refine h.top hf rfl (fun id hne => Function.update_of_ne hne ..) ?_ fun o ho => ?_
      · rw [Function.update_self]
        rfl
      · cases ho
        exact hchain.1 old rfl
    · cases hst
  | start k id =>
    simp only [LoopThreads.step] at hst
    split at hst
    · rename_i hg
      cases hst
      have hdead := h.dead k hg.1
      refine h.idle hdead.1 hdead.2 rfl rfl (fun k' hlive => ?_) (fun _ => h.free id hg.2)
        fun id' hfree => ?_
      · by_cases hk : k' = k
        · subst hk
          rw [Function.update_self, Function.update_self]
        · rw [Function.update_of_ne hk] at hlive ⊢
          rw [Function.update_of_ne, h.ids k' hlive]
          intro he
          rw [← he, h.ids k' hlive] at hg
          cases hg.2
      · by_cases hid : id' = id
        · rw [hid, Function.update_self] at hfree
          cases hfree
        · rw [Function.update_of_ne hid] at hfree
          exact h.free id' hfree
    · cases hst
  | finish k =>
    simp only [LoopThreads.step] at hst
    split at hst
    · rename_i hg
      cases hst
      refine h.idle hg.2.1 hg.2.2 hg.2.1 hg.2.2 (fun k' hlive => ?_) (fun hl => by cases hl)
        fun id' hfree => ?_
      · by_cases hk : k' = k
        · subst hk
          rw [Function.update_self] at hlive
          cases hlive
        · rw [Function.update_of_ne hk] at hlive ⊢
          rw [Function.update_of_ne (h.id_ne hlive hg.1 hk), h.ids k' hlive]
      · by_cases hid : id' = (s.threads k).id
        · rw [hid, h.map k hg.1, hg.2.1]
          rfl
        · rw [Function.update_of_ne hid] at hfree
          exact h.free id' hfree
    · cases hst
  | run k runner =>
    simp only [LoopThreads.step] at hst
    split at hst
    · rename_i hcall
      split at hst
      · cases hst
        exact h
      · rename_i hg
        cases hst
        have hrun : s.inRun runner = false := by
          simpa using fun hr => hg (Or.inl hr)
        have hne : ∀ k' f, f ∈ (s.threads k').frames → f.runner ≠ runner := by
          intro k' f hf he
          rw [← he, (h.runs k' f hf).1] at hrun
          cases hrun
        have hloop := h.looping hcall
        refine h.replace hloop.1 hloop.1 rfl ⟨fun _ ho => (by cases ho), hloop.2.2, h.chained k⟩
          (fun _ _ => rfl) (h.map k hloop.1) ?_ ?_ ?_ ?_ fun hw => absurd hloop.2.1 hw
        · intro f hf
          rcases List.mem_cons.1 hf with rfl | hf
          · rw [Function.update_self, Function.update_self]
            exact ⟨rfl, rfl⟩
          · rw [Function.update_of_ne (hne k f hf), Function.update_of_ne (hne k f hf)]
            exact h.runs k f hf
        · intro k' _ f hf
          rw [Function.update_of_ne (hne k' f hf), Function.update_of_ne (hne k' f hf)]
          exact ⟨rfl, rfl⟩
        · refine List.nodup_cons.2 ⟨fun hm => ?_, h.nodup k⟩
          obtain ⟨f, hf, he⟩ := List.mem_map.1 hm
          exact hne k f hf he
        · intro f hf k' f' hf' he
          rcases List.mem_cons.1 hf with rfl | hf
          · exact absurd he.symm (hne k' f' hf')
          · exact h.home k' k f' f hf' hf he.symm
    · cases hst
  | leave k =>
    simp only [LoopThreads.step] at hst
    split at hst
    · rename_i hwait
      split at hst
      · rename_i runner old fs hf
        cases hst
        have hlive := h.live_of_frames (k := k) (by rw [hf]; exact List.cons_ne_nil _ _)
        have hmem : ∀ f ∈ fs, f ∈ (s.threads k).frames :=
          fun f hm => hf ▸ List.mem_cons_of_mem _ hm
        have hchain := h.chained k
        have hnodup := h.nodup k
        rw [hf] at hchain hnodup
        rw [List.map_cons, List.nodup_cons] at hnodup
        refine h.replace hlive hlive rfl hchain.2.2 (fun id hne => Function.update_of_ne hne ..)
          ?_ ?_ ?_ hnodup.2 ?_ fun hw => absurd hwait hw
        · rw [Function.update_self]
          exact hchain.1 old rfl
        · intro f hm
          have hne : f.runner ≠ runner := by
            rintro rfl
            exact hnodup.1 (List.mem_map.2 ⟨f, hm, rfl⟩)
          rw [Function.update_of_ne hne]
          exact h.runs k f (hmem f hm)
        · intro k' hk f hm
          have hne : f.runner ≠ runner := fun he =>
            hk (h.home k' k f ⟨runner, .looping old⟩ hm (hf ▸ List.mem_cons_self) he)
          rw [Function.update_of_ne hne]
          exact ⟨rfl, rfl⟩
        · exact fun f hm k' f' hf' he => h.home k' k f' f hf' (hmem f hm) he.symm
      · cases hst
    · cases hst
  | destroy runner =>
    cases hst
    exact ⟨h.chained, h.dead, h.ids, h.map, h.free, h.runs, h.nodup, h.home, h.waits⟩
  | sendSync k runner =>
    simp only [LoopThreads.step] at hst
    split at hst
    · rename_i hg
      cases hst
      have hloop := h.looping hg.1
      unfold LoopThreads.sendSyncEvent
      split
      · exact h
      · split
        · exact h
        · exact h.wait k (some runner) (fun _ => hloop.1) fun _ => hloop.2.2
    · cases hst
  | handle k sender =>
    simp only [LoopThreads.step] at hst
    split at hst
    · split at hst
      · cases hst
        exact h.wait sender none (fun hw => absurd rfl hw) fun hw => absurd rfl hw
      · cases hst
    · cases hst
  | remove sender =>
    cases hst
    exact h.wait sender none (fun hw => absurd rfl hw) fun hw => absurd rfl hw

theorem stacked_run {s : LoopThreads} (h : loopThreadsSystem.Reachable System.always s) : Stacked s := by
  refine System.Reachable.invariant ?_ (fun s a _ hi _ hst => stacked_step (s := s) (a := a) hi hst) h
  refine ⟨fun _ => trivial, fun _ _ => ⟨rfl, rfl⟩, fun _ hl => ?_, fun _ hl => ?_, fun _ _ => rfl,
    fun _ _ hf => ?_, fun _ => List.nodup_nil, fun _ _ _ _ hf => ?_, fun _ hw => absurd rfl hw⟩
  · cases hl
  · cases hl
  · cases hf
  · cases hf

/-- The current runner of every live thread is the runner of its innermost loop unless it is
    destroyed; a running runner is on its own thread only; an id in no use holds no runner. -/
theorem current_is_innermost {s : LoopThreads}
    (hr : loopThreadsSystem.Reachable System.always s) :
    (∀ k, (s.threads k).live = true → s.getCurrentEventRunner k
      = (innermost (s.threads k).frames).filter fun r => !s.expired r) ∧
    (∀ k k' f, (s.threads k).live = true → f ∈ (s.threads k').frames →
      (s.isCurrentRunnerThread k f.runner = true ↔ k = k')) ∧
    ∀ id, s.thread id = none → s.savedRunner id = none := by
  have h := stacked_run hr
  refine ⟨fun k hl => ?_, fun k k' f hl hf => ?_, h.free⟩
  · unfold LoopThreads.getCurrentEventRunner
    rw [h.map k hl]
  · have hl' := h.live_of_frames (k := k') (List.ne_nil_of_mem hf)
    unfold LoopThreads.isCurrentRunnerThread
    rw [(h.runs k' f hf).2, decide_eq_true_iff, Option.some.injEq]
    constructor
    · intro he
      by_contra hne
      exact h.id_ne hl' hl (Ne.symm hne) he
    · rintro rfl
      rfl

/-- A thread runs a runner and ends; another one with its id runs the runner and one inside. -/
def nestedRuns : List LoopThreadsOp :=
  [.start 0 7, .run 0 1, .saveOld 0, .setCurrent 0, .leave 0, .finish 0,
    .start 1 7, .run 1 1, .saveOld 1, .setCurrent 1, .run 1 2, .saveOld 1, .setCurrent 1]

theorem current_is_innermost_nested : ∃ s, loopThreadsSystem.Reachable System.always s ∧
    s.getCurrentEventRunner 1 = some 2 ∧ s.isCurrentRunnerThread 1 1 = true := by
  obtain ⟨s, hs, hl, hf, he⟩ := System.run_of_exec loopThreadsSystem System.always
    (fun s => (s.threads 1).live = true ∧
      (s.threads 1).frames = [⟨2, .looping (some 1)⟩, ⟨1, .looping none⟩] ∧ s.expired 2 = false)
    nestedRuns (by decide)
  obtain ⟨hcur, hon, -⟩ := current_is_innermost ⟨_, hs⟩
  refine ⟨s, ⟨_, hs⟩, ?_, (hon 1 1 ⟨1, .looping none⟩ hl (by rw [hf]; decide)).2 rfl⟩
  rw [hcur 1 hl, hf]
  simp [innermost, FramePc.isLooping, he]

/-! ## A sync event for a runner on the same thread -/

structure BlockedIn (k runner : Nat) (fs : List LoopFrame) (s : LoopThreads) : Prop where
  stacked : Stacked s
  frames : (s.threads k).frames = fs
  waiting : (s.threads k).waiting = some runner

/-- No loop of a blocked thread handles an event. -/
theorem BlockedIn.unhandled {k runner k' sender : Nat} {fs : List LoopFrame} {s : LoopThreads}
    {g : LoopFrame} (h : BlockedIn k runner fs s) (hg : g ∈ fs)
    (hw : (s.threads sender).waiting = some g.runner) : s.step (.handle k' sender) = none := by
  simp only [LoopThreads.step]
  split
  · rename_i runner' old gs hf
    refine if_neg fun ⟨hnone, hsend⟩ => ?_
    have he : runner' = g.runner := Option.some.inj (hsend.symm.trans hw)
    have hk : k' = k := h.stacked.home k' k ⟨runner', .looping old⟩ g (hf ▸ List.mem_cons_self)
      (h.frames ▸ hg) he
    rw [hk, h.waiting] at hnone
    cases hnone
  · rfl

theorem BlockedIn.of_thread {k runner : Nat} {fs : List LoopFrame} {s t : LoopThreads}
    (h : BlockedIn k runner fs s) (ht : Stacked t) (hk : t.threads k = s.threads k) :
    BlockedIn k runner fs t :=
  ⟨ht, hk ▸ h.frames, hk ▸ h.waiting⟩

/-- **A blocked thread stays blocked** unless its event is removed. -/
theorem blockedIn_step {k runner : Nat} {fs : List LoopFrame} {s t : LoopThreads}
    {a : LoopThreadsOp} {f : LoopFrame} (h : BlockedIn k runner fs s) (hf : f ∈ fs)
    (hrun : f.runner = runner) (hloop : ∀ g ∈ fs, g.pc.isLooping = true) (ha : a ≠ .remove k)
    (hst : s.step a = some t) : BlockedIn k runner fs t := by
  have ht := stacked_step h.stacked hst
  have hne : (s.threads k).frames ≠ [] := h.frames ▸ List.ne_nil_of_mem hf
  have hlive := h.stacked.live_of_frames hne
  have hcall : s.inCallback k = false := by
    unfold LoopThreads.inCallback
    rw [h.waiting]
    simp
  have other : ∀ {k' : Nat} {new : LoopThread}, k' ≠ k →
      Function.update s.threads k' new k = s.threads k :=
    fun hk => Function.update_of_ne hk.symm ..
  cases a with
  | start k' id =>
    simp only [LoopThreads.step] at hst
    split at hst
    · rename_i hg
      cases hst
      refine h.of_thread ht (other fun hk => ?_)
      rw [hk, hlive] at hg
      cases hg.1
    · cases hst
  | finish k' =>
    simp only [LoopThreads.step] at hst
    split at hst
    · rename_i hg
      cases hst
      exact h.of_thread ht (other fun hk => hne (hk ▸ hg.2.1))
    · cases hst
  | run k' runner' =>
    simp only [LoopThreads.step] at hst
    split at hst
    · rename_i hg
      split at hst
      · cases hst
        exact h
      · cases hst
        refine h.of_thread ht (other fun hk => ?_)
        rw [hk, hcall] at hg
        cases hg
    · cases hst
  | saveOld k' =>
    simp only [LoopThreads.step] at hst
    split at hst
    · rename_i runner' gs hgs
      cases hst
      refine h.of_thread ht (other fun hk => ?_)
      have := hloop ⟨runner', .entered⟩ (by rw [← h.frames, ← hk, hgs]; exact List.mem_cons_self)
      cases this
    · cases hst
  | setCurrent k' =>
    simp only [LoopThreads.step] at hst
    split at hst
    · rename_i runner' old gs hgs
      cases hst
      refine h.of_thread ht (other fun hk => ?_)
      have := hloop ⟨runner', .saved old⟩ (by rw [← h.frames, ← hk, hgs]; exact List.mem_cons_self)
      cases this
    · cases hst
  | leave k' =>
    simp only [LoopThreads.step] at hst
    split at hst
    · rename_i hw
      split at hst
      · cases hst
        refine h.of_thread ht (other fun hk => ?_)
        rw [hk, h.waiting] at hw
        cases hw
      · cases hst
    · cases hst
  | destroy runner' =>
    cases hst
    exact h.of_thread ht rfl
  | sendSync k' runner' =>
    simp only [LoopThreads.step] at hst
    split at hst
    · rename_i hg
      cases hst
      refine h.of_thread ht ?_
      unfold LoopThreads.sendSyncEvent
      split
      · rfl
      · split
        · rfl
        · refine other fun hk => ?_
          rw [hk, hcall] at hg
          cases hg.1
    · cases hst
  | handle k' sender =>
    by_cases hk : sender = k
    · subst hk
      rw [h.unhandled hf (hrun.symm ▸ h.waiting)] at hst
      cases hst
    · simp only [LoopThreads.step] at hst
      split at hst
      · split at hst
        · cases hst
          exact h.of_thread ht (other hk)
        · cases hst
      · cases hst
  | remove sender =>
    cases hst
    exact h.of_thread ht (other fun hk => ha (hk ▸ rfl))

/-- A callback sends a sync event to a runner that runs on its own thread.  The runner of the
    innermost loop gets it on the spot.  For every other one the thread waits for ever, unless the
    event is removed, and no event of any sender is handled by a runner of the thread. -/
theorem nested_send_stuck {s : LoopThreads} {k : Nat} {f : LoopFrame}
    (hr : loopThreadsSystem.Reachable System.always s) (hcall : s.inCallback k = true)
    (hf : f ∈ (s.threads k).frames) (hexp : s.expired f.runner = false) :
    ∃ t, s.step (.sendSync k f.runner) = some t ∧
      if innermost (s.threads k).frames = some f.runner then t = s
      else ∀ as u, loopThreadsSystem.Run (fun _ a => a ≠ .remove k) t as u →
        (u.threads k).waiting = some f.runner ∧ (u.threads k).frames = (s.threads k).frames ∧
        ∀ g ∈ (s.threads k).frames, ∀ k' sender, (u.threads sender).waiting = some g.runner →
          u.step (.handle k' sender) = none := by
  have h := stacked_run hr
  obtain ⟨hlive, -, hloop⟩ := h.looping hcall
  have hrun : s.inRun f.runner = true := (h.runs k f hf).1
  have hcur := (current_is_innermost hr).1 k hlive
  have hst : s.step (.sendSync k f.runner) = some (s.sendSyncEvent k f.runner) :=
    if_pos ⟨hcall, hexp⟩
  refine ⟨s.sendSyncEvent k f.runner, hst, ?_⟩
  have hsend : s.sendSyncEvent k f.runner
      = if innermost (s.threads k).frames = some f.runner then s
        else s.setThread k { s.threads k with waiting := some f.runner } := by
    unfold LoopThreads.sendSyncEvent
    rw [hrun, if_neg (by simp), hcur]
    congr 1
    rw [Option.filter_eq_some_iff]
    simp [hexp]
  split
  · rename_i hin
    rw [hsend, if_pos hin]
  · rename_i hin
    rw [hsend, if_neg hin] at hst ⊢
    intro as u hru
    have hself : (s.setThread k { s.threads k with waiting := some f.runner }).threads k
        = { s.threads k with waiting := some f.runner } := Function.update_self ..
    have hb : BlockedIn k f.runner (s.threads k).frames
        (s.setThread k { s.threads k with waiting := some f.runner }) :=
      ⟨stacked_step h hst, by rw [hself], by rw [hself]⟩
    have hu : BlockedIn k f.runner (s.threads k).frames u :=
      hru.invariant (fun s' a _ hi ha hs =>
        blockedIn_step (s := s') (a := a) hi hf rfl hloop ha hs) hb
    exact ⟨hu.waiting, hu.frames, fun g hg k' sender hw => hu.unhandled hg hw⟩

/-- The runner of the outer loop is stuck behind the inner one. -/
theorem nested_send_stuck_outer : ∃ s t, loopThreadsSystem.Reachable System.always s ∧
    s.step (.sendSync 1 1) = some t ∧
    ∀ as u, loopThreadsSystem.Run (fun _ a => a ≠ .remove 1) t as u →
      (u.threads 1).waiting = some 1 := by
  obtain ⟨s, hs, hcall, hf, he⟩ := System.run_of_exec loopThreadsSystem System.always
    (fun s => s.inCallback 1 = true ∧
      (s.threads 1).frames = [⟨2, .looping (some 1)⟩, ⟨1, .looping none⟩] ∧ s.expired 1 = false)
    nestedRuns (by decide)
  have hmem : (⟨1, .looping none⟩ : LoopFrame) ∈ (s.threads 1).frames := by
    rw [hf]
    decide
  obtain ⟨t, hst, ht⟩ := nested_send_stuck ⟨_, hs⟩ hcall hmem he
  rw [hf, if_neg (by decide)] at ht
  exact ⟨s, t, ⟨_, hs⟩, hst, fun as u hrun => (ht as u hrun).1⟩

end AppExecFwk
