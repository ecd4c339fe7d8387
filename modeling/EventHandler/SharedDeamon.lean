import EventHandler.DescriptorService

/-!
# Queues that share the deamon

Every event queue has its own `listeners_` and `ioWaiter_`; the `DeamonIoWaiter` and the listener
objects belong to the process.  The kernel refuses a descriptor that the deamon has already, and
`AddFileDescriptor` then removes the registration that was there, whoever made it.  An operation is one
step, for the other queues too.

* `toDeamon` — the descriptor that an operation hands to `DeamonIoWaiter::AddFileDescriptor`.
* `EffectAt` — what an operation does to what a table says about one descriptor.
* `deamonInfo_kept`, `deamonInfo_taken` — what an operation does to the deamon's entry of a descriptor.
* `SharedDeamon`, `sharedDeamonSystem` — any number of queues, each operation one of `listenerSystem`
  on the table that the queue sees.
* `Owned` — the invariant of all runs: what the deamon calls a listener for is listed in a queue that
  uses the deamon for that listener.
* `Clashes` — an operation takes the entry that another queue relies on.
* `covered_iff_no_clash` — every listed descriptor keeps an entry exactly as long as there is no clash;
  `noClash_of_apart` — there is none while no descriptor is listed in two queues.
-/

set_option autoImplicit false

namespace AppExecFwk

open Transition

/-! ## What reaches the deamon -/

namespace ListenerTable

variable {MONITOR_FLAG : Bool} {p : Process} {t : ListenerTable}

/-- `AddFileDescriptorListener` gets to `DeamonIoWaiter::AddFileDescriptor`. -/
def reachesDeamon (MONITOR_FLAG : Bool) (p : Process) (t : ListenerTable) (fd : Int)
    (events : UInt32) (listener : Nat) (taskName : String) : Bool :=
  !(fd < 0 || noEvents events) && t.usable && decide (fd ∉ t.listeners) &&
    ((t.useDeamonIoWaiter || ((t.object listener).isDeamonWaiter && MONITOR_FLAG &&
        !(t.object listener).isVsyncListener)) ||
      (decide (taskName = "vSyncTask") && (t.object listener).ownerOnMainRunner p))

/-- The descriptor that an operation hands to `DeamonIoWaiter::AddFileDescriptor`. -/
def toDeamon (MONITOR_FLAG : Bool) (p : Process) (t : ListenerTable) : ListenerOp → Option Int
  | .addByHandler handler fd events (some listener) taskName _ =>
    if (t.setOwner listener handler).reachesDeamon MONITOR_FLAG p fd events listener taskName then
      some fd
    else none
  | .addByQueue fd events (some listener) taskName _ =>
    if t.reachesDeamon MONITOR_FLAG p fd events listener taskName then some fd else none
  | _ => none

end ListenerTable

/-- A second `AddFileDescriptor` of a descriptor takes it out. -/
theorem EpollSet.addFileDescriptor_again {edge : UInt32} {w : EpollSet} {fd : Int}
    {events : UInt32} {info : FileDescriptorInfo} (hv : (fd < 0 || noEvents events) = false)
    (hw : w.fileDescriptorMap.lookup fd ≠ none) :
    (w.addFileDescriptor edge fd events info).2.fileDescriptorMap.lookup fd = none := by
  have hin : fd ∈ w.interest := by
    rw [w.same, ← AList.lookup_isSome]
    exact Option.isSome_iff_ne_none.2 hw
  have heq : w.addFileDescriptor edge fd events info = (false, w.removeFileDescriptor fd) := by
    unfold addFileDescriptor
    rw [hv, if_neg Bool.false_ne_true, dif_pos (w.valid fd hin), if_pos hin]
  rw [heq, AList.lookup_eq_none, ← (w.removeFileDescriptor fd).same]
  exact fun h => ((removeFileDescriptor_registered w fd fd).1 h).1 rfl

namespace ListenerTable

variable {MONITOR_FLAG : Bool} {p : Process} {t : ListenerTable}

theorem ensureIoWaiterLocked_some (t : ListenerTable) (l : Nat) :
    ∃ w, (t.ensureIoWaiterLocked MONITOR_FLAG l).ioWaiter = some w := ⟨_, rfl⟩

/-- **What `AddFileDescriptorByFd` does to the deamon's entry.** -/
theorem addFileDescriptorByFd_deamon {fd : Int} {events : UInt32} {taskName : String} {l : Nat}
    {priority : Priority} (hv : (fd < 0 || noEvents events) = false) {w : EpollSet}
    (hw : t.ioWaiter = some w) :
    let r := t.addFileDescriptorByFd MONITOR_FLAG p fd events taskName l priority
    let alone := t.useDeamonIoWaiter || ((t.object l).isDeamonWaiter && MONITOR_FLAG &&
      !(t.object l).isVsyncListener)
    let watched := decide (taskName = "vSyncTask") && (t.object l).ownerOnMainRunner p
    ((alone || watched) = false → r.2.deamonInfo fd = t.deamonInfo fd) ∧
      ((alone || watched) = true → t.deamonInfo fd ≠ none → r.2.deamonInfo fd = none) ∧
      (alone = false → r.1 = true → r.2.ioInfo fd ≠ none) := by
  intro r alone watched
  have hr : r = t.addFileDescriptorByFd MONITOR_FLAG p fd events taskName l priority := rfl
  unfold addFileDescriptorByFd at hr
  simp only at hr
  cases ha : alone with
  | true =>
    rw [if_pos ha] at hr
    rw [hr]
    refine ⟨fun h => by simp at h, fun _ hd => ?_, fun h => by cases h⟩
    exact EpollSet.addFileDescriptor_again hv hd
  | false =>
    have ha' : ¬ (t.useDeamonIoWaiter || ((t.object l).isDeamonWaiter && MONITOR_FLAG &&
        !(t.object l).isVsyncListener)) = true := by
      rw [show (t.useDeamonIoWaiter || _) = alone from rfl, ha]
      exact Bool.false_ne_true
    rw [if_neg ha', hw] at hr
    simp only at hr
    rw [hr, Bool.false_or]
    refine ⟨fun hn => ?_, fun hy hd => ?_, fun _ hok => ?_⟩
    · show (if watched = true then _ else (false, t.deamonIoWaiter)).2.fileDescriptorMap.lookup fd = _
      rw [hn, if_neg Bool.false_ne_true]
      rfl
    · show (if watched = true then _ else (false, t.deamonIoWaiter)).2.fileDescriptorMap.lookup fd = _
      rw [if_pos hy]
      exact EpollSet.addFileDescriptor_again hv hd
    · have := (EpollSet.addFileDescriptor_lookup_cases w 0 fd events
        ⟨taskName, if (t.object l).isVsyncListener then .VIP else priority, l⟩).2.1 hok
      show ¬ (w.addFileDescriptor 0 fd events _).2.fileDescriptorMap.lookup fd = none
      rw [this]
      exact Option.some_ne_none _

/-- **What `AddFileDescriptorListener` does to the deamon's entry**, and without the deamon it lists a
    descriptor only with an entry in the queue's own waiter. -/
theorem addFileDescriptorListener_deamon {fd : Int} {events : UInt32} {taskName : String} {l : Nat}
    {priority : Priority} :
    let r := t.addFileDescriptorListener MONITOR_FLAG p fd events (some l) taskName priority
    let reaches := t.reachesDeamon MONITOR_FLAG p fd events l taskName
    (reaches = false → r.2.deamonInfo fd = t.deamonInfo fd ∧
      (r.2.listeners.lookup fd = t.listeners.lookup fd ∨ r.2.ioInfo fd ≠ none)) ∧
      (reaches = true → t.deamonInfo fd ≠ none → r.2.deamonInfo fd = none) := by
  intro r reaches
  have hr : r = t.addFileDescriptorListener MONITOR_FLAG p fd events (some l) taskName priority := rfl
  have hreach : reaches = t.reachesDeamon MONITOR_FLAG p fd events l taskName := rfl
  have nothing : ∀ c : ErrCode, r = (c, t) → reaches = false →
      (reaches = false → r.2.deamonInfo fd = t.deamonInfo fd ∧
        (r.2.listeners.lookup fd = t.listeners.lookup fd ∨ r.2.ioInfo fd ≠ none)) ∧
      (reaches = true → t.deamonInfo fd ≠ none → r.2.deamonInfo fd = none) := by
    intro c h hf
    rw [h]
    exact ⟨fun _ => ⟨rfl, Or.inl rfl⟩, fun ht => by rw [hf] at ht; cases ht⟩
  unfold addFileDescriptorListener addFileDescriptorListenerBase at hr
  unfold reachesDeamon at hreach
  cases hv : (fd < 0 || noEvents events) with
  | true =>
    rw [if_pos hv] at hr
    exact nothing _ hr (by rw [hreach, hv]; rfl)
  | false =>
    simp only [hv, Bool.false_eq_true, if_false] at hr
    split at hr
    · rename_i hu
      exact nothing _ hr (by rw [hreach, hu]; simp)
    · rename_i hu
      split at hr
      · rename_i hl
        exact nothing _ hr (by rw [hreach]; simp [hl])
      · rename_i hl
        simp only [hv, hu, hl, not_false_eq_true, decide_true, Bool.not_false,
          Bool.true_and] at hreach
        obtain ⟨w, hw⟩ := @ensureIoWaiterLocked_some MONITOR_FLAG t l
        have hens := ensureIoWaiterLocked_view MONITOR_FLAG t l fd
        obtain ⟨hkeep, htake, hio⟩ := @addFileDescriptorByFd_deamon MONITOR_FLAG p _ fd events
          taskName l priority hv w hw
        obtain ⟨-, hlisten, -, -⟩ := addFileDescriptorByFd_view MONITOR_FLAG p
          (t.ensureIoWaiterLocked MONITOR_FLAG l) fd events taskName l priority
        generalize (t.ensureIoWaiterLocked MONITOR_FLAG l).addFileDescriptorByFd MONITOR_FLAG p fd
          events taskName l priority = a at hr hkeep htake hio hlisten
        obtain ⟨ok, u⟩ := a
        rw [hens.deamon] at hkeep htake
        have hd : r.2.deamonInfo fd = u.deamonInfo fd := by
          rw [hr]
          cases ok <;> rfl
        rw [hd, hreach]
        refine ⟨fun hf => ⟨hkeep hf, ?_⟩, htake⟩
        cases ok with
        | false =>
          left
          rw [hr]
          exact congrArg (fun a => AList.lookup fd a) hlisten
        | true =>
          right
          rw [hr]
          exact hio (Bool.or_eq_false_iff.1 hf).1 rfl

/-! ## One operation and one descriptor -/

theorem adds_of_toDeamon {op : ListenerOp} {fd : Int}
    (h : t.toDeamon MONITOR_FLAG p op = some fd) : op.adds = some fd := by
  unfold toDeamon at h
  split at h
  · split at h
    · exact h
    · cases h
  · split at h
    · exact h
    · cases h
  · cases h

/-- What the addition of a descriptor does to the deamon's entry of it. -/
theorem step_adds_deamon {op : ListenerOp} {fd : Int} (hop : op.adds = some fd) :
    let u := t.step MONITOR_FLAG p op
    (t.toDeamon MONITOR_FLAG p op ≠ some fd → u.deamonInfo fd = t.deamonInfo fd ∧
      (u.listeners.lookup fd = t.listeners.lookup fd ∨ u.ioInfo fd ≠ none)) ∧
      (t.toDeamon MONITOR_FLAG p op = some fd → t.deamonInfo fd ≠ none → u.deamonInfo fd = none) := by
  have nothing : ∀ u : ListenerTable, SameView t u fd → t.toDeamon MONITOR_FLAG p op = none →
      (t.toDeamon MONITOR_FLAG p op ≠ some fd → u.deamonInfo fd = t.deamonInfo fd ∧
        (u.listeners.lookup fd = t.listeners.lookup fd ∨ u.ioInfo fd ≠ none)) ∧
      (t.toDeamon MONITOR_FLAG p op = some fd → t.deamonInfo fd ≠ none →
        u.deamonInfo fd = none) :=
    fun u hs hn => ⟨fun _ => ⟨hs.deamon, Or.inl hs.listeners⟩, fun h => by rw [hn] at h; cases h⟩
  have adds : ∀ (v : ListenerTable) (events : UInt32) (l : Nat) (taskName : String)
      (priority : Priority), SameView t v fd → t.toDeamon MONITOR_FLAG p op =
        (if v.reachesDeamon MONITOR_FLAG p fd events l taskName then some fd else none) →
      let u := (v.addFileDescriptorListener MONITOR_FLAG p fd events (some l) taskName priority).2
      (t.toDeamon MONITOR_FLAG p op ≠ some fd → u.deamonInfo fd = t.deamonInfo fd ∧
        (u.listeners.lookup fd = t.listeners.lookup fd ∨ u.ioInfo fd ≠ none)) ∧
      (t.toDeamon MONITOR_FLAG p op = some fd → t.deamonInfo fd ≠ none →
        u.deamonInfo fd = none) := by
    intro v events l taskName priority hs hd
    obtain ⟨hkeep, htake⟩ := @addFileDescriptorListener_deamon MONITOR_FLAG p v fd events taskName l
      priority
    rw [hd, ← hs.deamon, ← hs.listeners]
    cases hr : v.reachesDeamon MONITOR_FLAG p fd events l taskName with
    | true => exact ⟨fun h => absurd rfl h, fun _ => htake hr⟩
    | false => exact ⟨fun _ => hkeep hr, fun h => by cases h⟩
  cases op with
  | addByHandler handler fd' events listener taskName priority =>
    cases hop
    cases listener with
    | none =>
      refine nothing _ ?_ rfl
      simp only [step, addByHandler]
      split <;> exact .refl t fd
    | some l =>
      simp only [step, addByHandler]
      cases hv : (fd < 0 || noEvents events) with
      | true =>
        refine nothing t (.refl t fd) ?_
        simp only [toDeamon, reachesDeamon, hv]
        rfl
      | false => exact adds (t.setOwner l handler) events l taskName priority ⟨rfl, rfl, rfl⟩ rfl
  | addByQueue fd' events listener taskName priority =>
    cases hop
    cases listener with
    | none =>
      refine nothing _ ?_ rfl
      simp only [step, addFileDescriptorListener]
      split <;> exact .refl t fd
    | some l => exact adds t events l taskName priority (.refl t fd) rfl
  | _ => cases hop

theorem step_of_removals {op : ListenerOp} {r : Int × Bool}
    (h : r ∈ t.removals MONITOR_FLAG p op) :
    t.step MONITOR_FLAG p op = t.dropAll (t.removals MONITOR_FLAG p op) := by
  cases op with
  | removeByFd fd => exact removeListenerByFd_eq p t fd
  | removeByOwner owner => exact removeListenerByOwner_eq p t owner
  | removeOrphan => exact removeOrphan_eq p t
  | _ => cases h

theorem inDeamon_iff {fd : Int} : t.inDeamonIoWaiter fd ↔ t.deamonInfo fd ≠ none := by
  unfold inDeamonIoWaiter deamonInfo EpollSet.Registered
  rw [t.deamonIoWaiter.same, ← AList.lookup_isSome, Option.isSome_iff_ne_none]

/-- What an operation does to what a table says about one descriptor. -/
inductive EffectAt (MONITOR_FLAG : Bool) (p : Process) (t u : ListenerTable) (op : ListenerOp)
    (fd : Int) : Prop
  | same (h : SameView t u fd)
  | added (l : Nat) (ok : Bool) (hop : op.adds = some fd) (hn : t.listeners.lookup fd = none)
      (huse : SameUse MONITOR_FLAG t u) (hv : AddedView MONITOR_FLAG t u fd l ok)
      (hlook : u.listeners.lookup fd = if ok then some l else none)
  | dropped (told : Bool) (hmem : (fd, told) ∈ t.removals MONITOR_FLAG p op)
      (hl : u.listeners.lookup fd = none) (hio : u.ioInfo fd = none)
      (htold : told = true → u.deamonInfo fd = none)
      (hd : u.deamonInfo fd = t.deamonInfo fd ∨ u.deamonInfo fd = none)

theorem step_effectAt (MONITOR_FLAG : Bool) (p : Process) (t : ListenerTable) (op : ListenerOp)
    (fd : Int) : EffectAt MONITOR_FLAG p t (t.step MONITOR_FLAG p op) op fd := by
  cases step_effect MONITOR_FLAG p t op with
  | added fd' l ok hop _ hadd =>
    by_cases hne : fd = fd'
    · subst hne
      rcases hadd.this with ⟨-, hs⟩ | ⟨hn, hv, hlook⟩
      · exact .same hs
      · exact .added l ok hop (AList.lookup_eq_none.2 hn) hadd.use hv hlook
    · exact .same (hadd.other fd hne)
  | removed rs hrs _ _ hdrop =>
    by_cases hin : ∃ r ∈ rs, fd = r.1
    · obtain ⟨⟨_, told⟩, hmem, rfl⟩ := hin
      obtain ⟨hl, hio⟩ := hdrop.gone _ hmem
      refine .dropped told (hrs ▸ hmem) hl hio (fun htold => ?_) (hdrop.deamon _)
      subst htold
      exact hdrop.told _ hmem
    · exact .same (hdrop.other fd fun r hmem heq => hin ⟨r, hmem, heq⟩)
  | same _ _ h => exact .same (h fd)

/-- **An operation that does not hand the descriptor to the deamon keeps its entry.** -/
theorem deamonInfo_kept {op : ListenerOp} {fd : Int}
    (hd : t.toDeamon MONITOR_FLAG p op ≠ some fd)
    (hr : (fd, true) ∉ t.removals MONITOR_FLAG p op) :
    (t.step MONITOR_FLAG p op).deamonInfo fd = t.deamonInfo fd := by
  cases step_effectAt MONITOR_FLAG p t op fd with
  | same h => exact h.deamon
  | added l ok hop => exact ((step_adds_deamon hop).1 hd).1
  | dropped told hmem _ _ _ hsame =>
    rcases hsame with h | h
    · exact h
    · -- it is out of the deamon, so it was not in it
      have hout : ¬ (t.step MONITOR_FLAG p op).inDeamonIoWaiter fd :=
        fun hi => (inDeamon_iff.1 hi) h
      rw [step_of_removals hmem, dropAll_inDeamon] at hout
      rw [h, eq_comm]
      by_contra hne
      exact hout ⟨hr, inDeamon_iff.2 hne⟩

/-- **An operation that hands over or removes a descriptor of the deamon takes its entry.** -/
theorem deamonInfo_taken {op : ListenerOp} {fd : Int} (hd : t.deamonInfo fd ≠ none)
    (h : t.toDeamon MONITOR_FLAG p op = some fd ∨ (fd, true) ∈ t.removals MONITOR_FLAG p op) :
    (t.step MONITOR_FLAG p op).deamonInfo fd = none := by
  rcases h with h | h
  · exact (step_adds_deamon (adds_of_toDeamon h)).2 h hd
  · rw [step_of_removals h]
    exact (dropAll_effect _ t).told fd h

/-- A descriptor that is listed and not in the queue's own waiter was so before, or it has just been
    handed to the deamon. -/
theorem relies_step {op : ListenerOp} {fd : Int} {l : Nat}
    (hl : (t.step MONITOR_FLAG p op).listeners.lookup fd = some l)
    (hio : (t.step MONITOR_FLAG p op).ioInfo fd = none) :
    (t.listeners.lookup fd = some l ∧ t.ioInfo fd = none ∧
      (t.step MONITOR_FLAG p op).deamonInfo fd = t.deamonInfo fd) ∨
    (t.listeners.lookup fd = none ∧ t.toDeamon MONITOR_FLAG p op = some fd ∧
      ∃ info, (t.step MONITOR_FLAG p op).deamonInfo fd = some info ∧ info.listener = l) := by
  cases step_effectAt MONITOR_FLAG p t op fd with
  | same h => exact Or.inl ⟨h.listeners.symm.trans hl, h.io.symm.trans hio, h.deamon⟩
  | added l' ok hop hn _ hv hlook =>
    rw [hlook] at hl
    refine Or.inr ⟨hn, ?_, ?_⟩
    · by_contra hd
      rcases ((step_adds_deamon hop).1 hd).2 with h | h
      · rw [hlook, hn] at h
        rw [h] at hl
        cases hl
      · exact h hio
    · cases hv with
      | deamon info hil _ _ hd =>
        refine ⟨info, hd, ?_⟩
        rw [hil]
        exact Option.some.inj hl
      | io info hio' _ =>
        rw [hio] at hio'
        cases hio'
      | refused _ _ => cases hl
  | dropped _ _ hnone =>
    rw [hnone] at hl
    cases hl

/-- What the queue's own waiter has stays listed. -/
theorem io_listed_step {op : ListenerOp} {fd : Int}
    (h : t.ioInfo fd ≠ none → t.listeners.lookup fd ≠ none)
    (hio : (t.step MONITOR_FLAG p op).ioInfo fd ≠ none) :
    (t.step MONITOR_FLAG p op).listeners.lookup fd ≠ none := by
  cases step_effectAt MONITOR_FLAG p t op fd with
  | same hs =>
    rw [hs.listeners]
    exact h (hs.io ▸ hio)
  | added l ok hop hn _ hv hlook =>
    have hnone : t.ioInfo fd = none := by
      by_contra hi
      exact h hi hn
    rw [hlook]
    cases hv with
    | deamon | io => exact Option.some_ne_none _
    | refused hio' _ => exact absurd (hio'.elim (fun h => h.trans hnone) id) hio
  | dropped _ _ _ hnone => exact absurd hnone hio

/-- An entry with which the deamon calls a listener was there before, or it is of the queue, which
    uses the deamon for the listener. -/
theorem owned_step {op : ListenerOp} {fd : Int} {info : FileDescriptorInfo}
    (h : t.ioInfo fd ≠ none → t.listeners.lookup fd ≠ none)
    (hd : (t.step MONITOR_FLAG p op).deamonInfo fd = some info)
    (hname : info.taskName ≠ "vSyncTask") :
    t.deamonInfo fd = some info ∨
      ((t.step MONITOR_FLAG p op).listeners.lookup fd = some info.listener ∧
        (t.step MONITOR_FLAG p op).ioInfo fd = none ∧
        (t.step MONITOR_FLAG p op).usesDeamon MONITOR_FLAG info.listener = true) := by
  have left : ((t.step MONITOR_FLAG p op).deamonInfo fd = t.deamonInfo fd ∨
      (t.step MONITOR_FLAG p op).deamonInfo fd = none ∨
      ∃ info, (t.step MONITOR_FLAG p op).deamonInfo fd = some info ∧
        info.taskName = "vSyncTask") → t.deamonInfo fd = some info := by
    rintro (hs | hn | ⟨i, hi, hv⟩)
    · exact hs ▸ hd
    · rw [hn] at hd
      cases hd
    · rw [hi] at hd
      cases hd
      exact absurd hv hname
  cases step_effectAt MONITOR_FLAG p t op fd with
  | same hs => exact Or.inl (left (Or.inl hs.deamon))
  | added l ok hop hn hsame hv hlook =>
    have hnone : t.ioInfo fd = none := by
      by_contra hi
      exact h hi hn
    cases hv with
    | deamon info' hil huse hio hd' =>
      rw [hd] at hd'
      cases hd'
      right
      rw [hlook, hil]
      exact ⟨rfl, hio.trans hnone, hsame ▸ huse⟩
    | io _ _ hd' => exact Or.inl (left hd')
    | refused _ hd' => exact Or.inl (left hd')
  | dropped _ _ _ _ _ hsame => exact Or.inl (left (hsame.imp_right Or.inl))

/-- The queue that uses the deamon for a descriptor keeps it listed as long as the deamon has it. -/
theorem owner_kept {op : ListenerOp} {fd : Int} {l : Nat} (hl : t.listeners.lookup fd = some l)
    (hio : t.ioInfo fd = none) (huse : t.usesDeamon MONITOR_FLAG l = true)
    (hd : (t.step MONITOR_FLAG p op).deamonInfo fd ≠ none) :
    (t.step MONITOR_FLAG p op).listeners.lookup fd = some l ∧
      (t.step MONITOR_FLAG p op).ioInfo fd = none := by
  cases step_effectAt MONITOR_FLAG p t op fd with
  | same hs => exact ⟨hs.listeners.trans hl, hs.io.trans hio⟩
  | added _ _ _ hn =>
    rw [hn] at hl
    cases hl
  | dropped told hmem _ _ htold =>
    -- a queue that uses the deamon for a listener also tells it
    obtain ⟨l', hl', hb⟩ := mem_removals hmem
    rw [hl] at hl'
    cases hl'
    refine absurd (htold ?_) hd
    simp only at hb
    rw [hb]
    unfold tellsDeamon fdFromDeamon
    split
    · simp [huse]
    · exact huse

/-- A descriptor that is listed was so before, or the operation adds it. -/
theorem listed_step {op : ListenerOp} {fd : Int}
    (h : (t.step MONITOR_FLAG p op).listeners.lookup fd ≠ none) :
    t.listeners.lookup fd ≠ none ∨ op.adds = some fd := by
  cases step_effectAt MONITOR_FLAG p t op fd with
  | same hs => exact Or.inl (hs.listeners ▸ h)
  | added _ _ hop => exact Or.inr hop
  | dropped _ _ hnone => exact absurd hnone h

/-! ## The listener objects -/

theorem dropAll_object (rs : List (Int × Bool)) : ∀ t : ListenerTable,
    (t.dropAll rs).object = t.object := by
  induction rs with
  | nil => exact fun _ => rfl
  | cons r rs ih => exact fun t => ih (t.drop r)

theorem addFileDescriptorByFd_object {fd : Int} {events : UInt32} {taskName : String} {l : Nat}
    {priority : Priority} :
    (t.addFileDescriptorByFd MONITOR_FLAG p fd events taskName l priority).2.object = t.object := by
  unfold addFileDescriptorByFd
  simp only
  split
  · rfl
  · cases t.ioWaiter <;> rfl

theorem addFileDescriptorListener_object {fd : Int} {events : UInt32} {l : Option Nat}
    {taskName : String} {priority : Priority} :
    (t.addFileDescriptorListener MONITOR_FLAG p fd events l taskName priority).2.object =
      t.object := by
  unfold addFileDescriptorListener
  split
  · rfl
  · cases l with
    | none => rfl
    | some l =>
      simp only
      unfold addFileDescriptorListenerBase
      split
      · rfl
      · split
        · rfl
        · have h := @addFileDescriptorByFd_object MONITOR_FLAG p
            (t.ensureIoWaiterLocked MONITOR_FLAG l) fd events taskName l priority
          simp only
          split
          · exact h
          · exact h

/-- No operation takes `SetDeamonWaiter` back. -/
theorem step_isDeamonWaiter {op : ListenerOp} {l : Nat} (h : (t.object l).isDeamonWaiter = true) :
    ((t.step MONITOR_FLAG p op).object l).isDeamonWaiter = true := by
  have written : ∀ (l' : Nat) (o : FileDescriptorListener),
      ((t.object l').isDeamonWaiter = true → o.isDeamonWaiter = true) →
      ((t.setObject l' o).object l).isDeamonWaiter = true := by
    intro l' o ho
    show (Function.update t.object l' o l).isDeamonWaiter = true
    by_cases hl : l = l'
    · subst hl
      rw [Function.update_self]
      exact ho h
    · rw [Function.update_of_ne hl]
      exact h
  have dropped : ∀ rs : List (Int × Bool), ((t.dropAll rs).object l).isDeamonWaiter = true := by
    intro rs
    rw [dropAll_object]
    exact h
  cases op with
  | addByHandler handler fd events listener taskName priority =>
    simp only [step, addByHandler]
    split
    · exact h
    · cases listener with
      | none => exact h
      | some l' =>
        simp only
        rw [addFileDescriptorListener_object]
        exact written l' _ id
  | addByQueue fd events listener taskName priority =>
    simp only [step]
    rw [addFileDescriptorListener_object]
    exact h
  | removeByFd fd =>
    rw [show t.step MONITOR_FLAG p (.removeByFd fd) = _ from removeListenerByFd_eq p t fd]
    exact dropped _
  | removeByOwner owner =>
    rw [show t.step MONITOR_FLAG p (.removeByOwner owner) = _ from removeListenerByOwner_eq p t owner]
    exact dropped _
  | removeOrphan =>
    rw [show t.step MONITOR_FLAG p .removeOrphan = _ from removeOrphan_eq p t]
    exact dropped _
  | setDeamonWaiter l' => exact written l' _ fun _ => rfl
  | setType l' type => exact written l' _ id
  | initDeamon => exact h

/-- No operation stops a queue from using the deamon for a listener. -/
theorem step_usesDeamon {op : ListenerOp} {l : Nat} (h : t.usesDeamon MONITOR_FLAG l = true) :
    (t.step MONITOR_FLAG p op).usesDeamon MONITOR_FLAG l = true := by
  cases step_effect MONITOR_FLAG p t op with
  | added _ _ _ _ _ hadd =>
    rw [hadd.use]
    exact h
  | removed _ _ _ huse _ =>
    rw [huse]
    exact h
  | same _ huse _ => exact huse l h

end ListenerTable

/-! ## Any number of queues -/

/-- The queues, with what the process has once. -/
structure SharedDeamon where
  /-- Of each table the fields that are the queue's own. -/
  queue : Nat → ListenerTable
  deamonIoWaiter : EpollSet
  object : Nat → FileDescriptorListener

namespace SharedDeamon

/-- The table that queue `q` works on. -/
def table (s : SharedDeamon) (q : Nat) : ListenerTable :=
  { s.queue q with
    deamonIoWaiter := s.deamonIoWaiter
    object := s.object }

/-- Queue `q` does an operation; `p` is the process at that moment. -/
def step (MONITOR_FLAG : Bool) (s : SharedDeamon) (q : Nat) (p : Process) (op : ListenerOp) :
    SharedDeamon :=
  let t := (s.table q).step MONITOR_FLAG p op
  { queue := Function.update s.queue q t
    deamonIoWaiter := t.deamonIoWaiter
    object := t.object }

/-- No listener is registered yet, in any queue. -/
def initial (deamonInitialized : Bool) (object : Nat → FileDescriptorListener)
    (start : Nat → ListenerStart) : SharedDeamon where
  queue q := ListenerTable.initial (start q)
  deamonIoWaiter := EpollSet.new deamonInitialized
  object := object

end SharedDeamon

/-- The operations of all queues, in any order. -/
def sharedDeamonSystem (MONITOR_FLAG deamonInitialized : Bool)
    (object : Nat → FileDescriptorListener) (start : Nat → ListenerStart) :
    System SharedDeamon (Nat × Process × ListenerOp) where
  init := .initial deamonInitialized object start
  step s a := some (s.step MONITOR_FLAG a.1 a.2.1 a.2.2)

namespace SharedDeamon

variable {MONITOR_FLAG : Bool} {p : Process} {s : SharedDeamon} {q k : Nat} {op : ListenerOp}

/-- The queue that does the operation goes on as if it were alone. -/
@[simp] theorem step_table (s : SharedDeamon) (q : Nat) :
    (s.step MONITOR_FLAG q p op).table q = (s.table q).step MONITOR_FLAG p op := by
  simp [step, table]

/-- What another queue sees of an operation. -/
theorem step_table_other (h : k ≠ q) :
    (s.step MONITOR_FLAG q p op).table k =
      { s.table k with
        deamonIoWaiter := ((s.table q).step MONITOR_FLAG p op).deamonIoWaiter
        object := ((s.table q).step MONITOR_FLAG p op).object } := by
  simp [step, table, Function.update_of_ne h]

theorem step_listeners_other (h : k ≠ q) :
    ((s.step MONITOR_FLAG q p op).table k).listeners = (s.table k).listeners := by
  rw [step_table_other h]

theorem step_ioInfo_other (h : k ≠ q) (fd : Int) :
    ((s.step MONITOR_FLAG q p op).table k).ioInfo fd = (s.table k).ioInfo fd := by
  rw [step_table_other h]
  rfl

/-- A queue that uses the deamon for a listener goes on doing so. -/
theorem step_usesDeamon_other (h : k ≠ q) {l : Nat}
    (hl : (s.table k).usesDeamon MONITOR_FLAG l = true) :
    ((s.step MONITOR_FLAG q p op).table k).usesDeamon MONITOR_FLAG l = true := by
  rw [step_table_other h]
  unfold ListenerTable.usesDeamon at hl ⊢
  simp only [Bool.or_eq_true, Bool.and_eq_true] at hl ⊢
  exact hl.imp_right fun ho => ⟨ListenerTable.step_isDeamonWaiter (t := s.table q) ho.1, ho.2⟩

/-! ## What holds in every run -/

/-- What a queue's own waiter has is listed there, and what the deamon calls a listener for is listed
    with that listener in a queue that uses the deamon for it and not its own waiter. -/
structure Owned (MONITOR_FLAG : Bool) (s : SharedDeamon) : Prop where
  io : ∀ q fd, (s.table q).ioInfo fd ≠ none → (s.table q).listeners.lookup fd ≠ none
  deamon : ∀ fd info, s.deamonIoWaiter.fileDescriptorMap.lookup fd = some info →
    info.taskName ≠ "vSyncTask" → ∃ q, (s.table q).listeners.lookup fd = some info.listener ∧
      (s.table q).ioInfo fd = none ∧ (s.table q).usesDeamon MONITOR_FLAG info.listener = true

theorem owned_initial (deamonInitialized : Bool) (object : Nat → FileDescriptorListener)
    (start : Nat → ListenerStart) : Owned MONITOR_FLAG (.initial deamonInitialized object start) := by
  constructor
  · intro q fd h
    have htidy := @ListenerTable.initial_tidy MONITOR_FLAG (start q)
    exact ListenerTable.mem_listeners.1 (htidy.io fd (Option.ne_none_iff_exists'.1 h))
  · intro fd info h
    cases h

theorem owned_step (h : Owned MONITOR_FLAG s) : Owned MONITOR_FLAG (s.step MONITOR_FLAG q p op) := by
  constructor
  · intro k fd hio
    by_cases hk : k = q
    · subst hk
      rw [step_table] at hio ⊢
      exact ListenerTable.io_listed_step (h.io k fd) hio
    · rw [step_ioInfo_other hk] at hio
      rw [step_listeners_other hk]
      exact h.io k fd hio
  · intro fd info hd hname
    have hd' : ((s.table q).step MONITOR_FLAG p op).deamonInfo fd = some info := hd
    rcases ListenerTable.owned_step (h.io q fd) hd' hname with hold | hnew
    · obtain ⟨k, hl, hio, huse⟩ := h.deamon fd info hold hname
      refine ⟨k, ?_⟩
      by_cases hk : k = q
      · subst hk
        rw [step_table]
        have hkept := @ListenerTable.owner_kept MONITOR_FLAG p (s.table k) op fd _ hl hio huse
          (by rw [hd']; exact Option.some_ne_none _)
        exact ⟨hkept.1, hkept.2, ListenerTable.step_usesDeamon huse⟩
      · rw [step_listeners_other hk, step_ioInfo_other hk]
        exact ⟨hl, hio, step_usesDeamon_other hk huse⟩
    · refine ⟨q, ?_⟩
      rw [step_table]
      exact hnew

/-! ## Clashes -/

/-- The only entry that queue `q` has for a listed descriptor is the deamon's. -/
def Relies (s : SharedDeamon) (q : Nat) (fd : Int) : Prop :=
  (s.table q).listeners.lookup fd ≠ none ∧ (s.table q).ioInfo fd = none

/-- Queue `a.1` hands a descriptor to the deamon, or removes it there, that another queue relies on. -/
def Clashes (MONITOR_FLAG : Bool) (s : SharedDeamon) (a : Nat × Process × ListenerOp) : Prop :=
  ∃ k fd, k ≠ a.1 ∧ s.Relies k fd ∧
    ((s.table a.1).toDeamon MONITOR_FLAG a.2.1 a.2.2 = some fd ∨
      (fd, true) ∈ (s.table a.1).removals MONITOR_FLAG a.2.1 a.2.2)

/-- Every listed descriptor has an entry: in the queue's own waiter, or in the deamon with the listener
    that the queue lists. -/
def Covered (s : SharedDeamon) : Prop :=
  ∀ q fd l, (s.table q).listeners.lookup fd = some l → (s.table q).ioInfo fd ≠ none ∨
    ∃ info, s.deamonIoWaiter.fileDescriptorMap.lookup fd = some info ∧ info.listener = l

/-- No two queues rely on the deamon for one descriptor. -/
def OneEach (s : SharedDeamon) : Prop := ∀ q k fd, s.Relies q fd → s.Relies k fd → q = k

theorem covered_step (h : s.Covered) (hc : ¬ s.Clashes MONITOR_FLAG (q, p, op)) :
    (s.step MONITOR_FLAG q p op).Covered := by
  intro k fd l hl
  by_cases hio : ((s.step MONITOR_FLAG q p op).table k).ioInfo fd = none
  · right
    show ∃ info, ((s.table q).step MONITOR_FLAG p op).deamonInfo fd = some info ∧ _
    by_cases hk : k = q
    · subst hk
      rw [step_table] at hl hio
      rcases ListenerTable.relies_step hl hio with ⟨hl', hio', hd⟩ | ⟨-, -, hd⟩
      · rw [hd]
        exact (h k fd l hl').resolve_left (fun hne => hne hio')
      · exact hd
    · rw [step_listeners_other hk] at hl
      rw [step_ioInfo_other hk] at hio
      have hr : s.Relies k fd := ⟨by rw [hl]; exact Option.some_ne_none _, hio⟩
      have hkept := @ListenerTable.deamonInfo_kept MONITOR_FLAG p (s.table q) op fd
        (fun ht => hc ⟨k, fd, hk, hr, Or.inl ht⟩) (fun ht => hc ⟨k, fd, hk, hr, Or.inr ht⟩)
      rw [hkept]
      exact (h k fd l hl).resolve_left (fun hne => hne hio)
  · exact Or.inl hio

/-- **A clash leaves the other queue without an entry.** -/
theorem not_covered_of_clash (h : s.Covered) (hc : s.Clashes MONITOR_FLAG (q, p, op)) :
    ¬ (s.step MONITOR_FLAG q p op).Covered := by
  obtain ⟨k, fd, hk, ⟨hl, hio⟩, htakes⟩ := hc
  obtain ⟨l, hl⟩ := Option.ne_none_iff_exists'.1 hl
  obtain ⟨info, hinfo, -⟩ := (h k fd l hl).resolve_left (fun hne => hne hio)
  have hhad : (s.table q).deamonInfo fd ≠ none := by
    rw [show (s.table q).deamonInfo fd = some info from hinfo]
    exact Option.some_ne_none _
  have hgone := ListenerTable.deamonInfo_taken hhad htakes
  intro hafter
  rcases hafter k fd l ((congrArg _ (step_listeners_other hk)).trans hl) with hne | ⟨info', hd, -⟩
  · exact hne ((step_ioInfo_other hk fd).trans hio)
  · have hd' : ((s.table q).step MONITOR_FLAG p op).deamonInfo fd = some info' := hd
    rw [hgone] at hd'
    cases hd'

/-- At most one queue has a descriptor, if who gets it finds that nobody has it. -/
theorem one_of_moves {P P' : Nat → Prop} {new : Prop} (h : ∀ k j, P k → P j → k = j)
    (hmoves : ∀ k, P' k → P k ∨ (k = q ∧ new)) (hfree : new → ∀ k, k ≠ q → ¬ P k) {k j : Nat}
    (hk : P' k) (hj : P' j) : k = j := by
  rcases hmoves k hk with hk | ⟨rfl, hnew⟩
  · rcases hmoves j hj with hj | ⟨rfl, hnew⟩
    · exact h k j hk hj
    · by_contra hne
      exact hfree hnew k hne hk
  · rcases hmoves j hj with hj | ⟨rfl, -⟩
    · by_contra hne
      exact hfree hnew j (Ne.symm hne) hj
    · rfl

theorem oneEach_step (h : s.OneEach) (hc : ¬ s.Clashes MONITOR_FLAG (q, p, op)) :
    (s.step MONITOR_FLAG q p op).OneEach := by
  -- a queue relies on a descriptor as before, or has just handed it over
  have relied : ∀ k fd, (s.step MONITOR_FLAG q p op).Relies k fd → s.Relies k fd ∨
      (k = q ∧ (s.table q).toDeamon MONITOR_FLAG p op = some fd) := by
    intro k fd hr
    by_cases hk : k = q
    · subst hk
      unfold Relies at hr
      rw [step_table] at hr
      obtain ⟨l, hl⟩ := Option.ne_none_iff_exists'.1 hr.1
      rcases ListenerTable.relies_step hl hr.2 with ⟨hl', hio', -⟩ | ⟨-, hto, -⟩
      · exact Or.inl ⟨by rw [hl']; exact Option.some_ne_none _, hio'⟩
      · exact Or.inr ⟨rfl, hto⟩
    · left
      unfold Relies at hr
      rw [step_listeners_other hk, step_ioInfo_other hk] at hr
      exact hr
  intro k j fd hk hj
  exact one_of_moves (fun k j => h k j fd) (fun k => relied k fd)
    (fun hto k hne hr => hc ⟨k, fd, hne, hr, Or.inl hto⟩) hk hj

/-! ## Descriptors of one queue -/

/-- No descriptor is listed in two queues. -/
def ListedApart (s : SharedDeamon) : Prop :=
  ∀ q k fd, (s.table q).listeners.lookup fd ≠ none → (s.table k).listeners.lookup fd ≠ none → q = k

/-- What queue `a.1` adds is listed in no other queue. -/
def AddsApart (s : SharedDeamon) (a : Nat × Process × ListenerOp) : Prop :=
  ∀ fd, a.2.2.adds = some fd → ∀ k, k ≠ a.1 → (s.table k).listeners.lookup fd = none

theorem apart_step (h : s.ListedApart) (ha : s.AddsApart (q, p, op)) :
    (s.step MONITOR_FLAG q p op).ListedApart := by
  have listed : ∀ k fd, ((s.step MONITOR_FLAG q p op).table k).listeners.lookup fd ≠ none →
      (s.table k).listeners.lookup fd ≠ none ∨ (k = q ∧ op.adds = some fd) := by
    intro k fd hl
    by_cases hk : k = q
    · subst hk
      rw [step_table] at hl
      exact (ListenerTable.listed_step hl).imp_right fun hadds => ⟨rfl, hadds⟩
    · left
      rw [← step_listeners_other hk]
      exact hl
  intro k j fd hk hj
  exact one_of_moves (fun k j => h k j fd) (fun k => listed k fd)
    (fun hadds k hne hl => hl (ha fd hadds k hne)) hk hj

theorem noClash_of_apart (h : s.ListedApart) (ha : s.AddsApart (q, p, op)) :
    ¬ s.Clashes MONITOR_FLAG (q, p, op) := by
  rintro ⟨k, fd, hk, ⟨hl, -⟩, hto | hmem⟩
  · exact hl (ha fd (ListenerTable.adds_of_toDeamon hto) k hk)
  · have hlisted := ListenerTable.mem_listeners.1 (ListenerTable.listed_of_mem_removals hmem)
    exact hk (h k q fd hl hlisted)

/-! ## Runs -/

variable {deamonInitialized : Bool} {object : Nat → FileDescriptorListener}
  {start : Nat → ListenerStart}

theorem initial_listeners (q : Nat) (fd : Int) :
    ((initial deamonInitialized object start).table q).listeners.lookup fd = none := rfl

theorem covered_initial : (initial deamonInitialized object start).Covered :=
  fun q fd l h => by rw [initial_listeners] at h; cases h

theorem oneEach_initial : (initial deamonInitialized object start).OneEach :=
  fun q _ fd h _ => absurd (initial_listeners q fd) h.1

theorem apart_initial : (initial deamonInitialized object start).ListedApart :=
  fun q _ fd h _ => absurd (initial_listeners q fd) h

end SharedDeamon

open SharedDeamon

/-- Two queues that use the deamon, and a listener of each for one descriptor. -/
def bothListen : List (Nat × Process × ListenerOp) :=
  [(0, mainProcess, .addByQueue 5 FILE_DESCRIPTOR_INPUT_EVENT (some 0) "task" .HIGH),
    (1, mainProcess, .addByQueue 5 FILE_DESCRIPTOR_INPUT_EVENT (some 1) "task" .HIGH)]

end AppExecFwk
