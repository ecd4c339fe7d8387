import EventHandler.Listeners

/-!
# Which waiter serves a descriptor

The queue's waiter posts a task for every descriptor it listens to; the daemon does so except for a
`vSyncTask`, which it only reports to the scheduler.  Both keep an entry for each descriptor.

* `SameView` — two tables say the same about a descriptor.
* `AddEffect`, `DropEffect` — what an addition and a list of removals do, descriptor by descriptor.
* `Tidy` — the invariant of all runs: what the queue's waiter has is listed; what the daemon serves
  is listed with the same listener, uses the daemon and is not in the queue's waiter.
* `service_of_descriptor` — in every run, also one that leaves registrations in the daemon, no
  descriptor is served twice, none is served that is not listed, and a listed one is served unless
  its only registration is a `vSyncTask` in the daemon.
-/

set_option autoImplicit false

namespace AppExecFwk

open Transition

namespace ListenerTable

/-- The entry of the queue's own waiter for a descriptor. -/
def ioInfo (t : ListenerTable) (fd : Int) : Option FileDescriptorInfo :=
  t.ioWaiter.bind fun w => w.fileDescriptorMap.lookup fd

/-- The entry of the daemon for a descriptor. -/
def deamonInfo (t : ListenerTable) (fd : Int) : Option FileDescriptorInfo :=
  t.deamonIoWaiter.fileDescriptorMap.lookup fd

end ListenerTable

/-- The descriptor a table operation tries to add. -/
def ListenerOp.adds : ListenerOp → Option Int
  | .addByHandler _ fd _ _ _ _ => some fd
  | .addByQueue fd _ _ _ _ => some fd
  | _ => none

/-- The registration a table operation makes. -/
def ListenerTable.registers (MONITOR_FLAG : Bool) (p : Process) (t : ListenerTable) :
    ListenerOp → Option (Int × Nat)
  | .addByHandler handler fd events (some listener) taskName priority =>
    if (t.addByHandler MONITOR_FLAG p handler fd events (some listener) taskName priority).1 = .ERR_OK
    then some (fd, listener) else none
  | .addByQueue fd events (some listener) taskName priority =>
    if (t.addFileDescriptorListener MONITOR_FLAG p fd events (some listener) taskName priority).1 =
      .ERR_OK
    then some (fd, listener) else none
  | _ => none

/-! ## The views of one descriptor -/

namespace EpollSet

variable {edge : UInt32} {w : EpollSet} {fd : Int} {events : UInt32} {info : FileDescriptorInfo}

theorem removeFileDescriptor_lookup_none {fd' : Int} (h : w.fileDescriptorMap.lookup fd = none) :
    (w.removeFileDescriptor fd').fileDescriptorMap.lookup fd = none := by
  by_cases hne : fd = fd'
  · subst hne
    unfold removeFileDescriptor
    repeat' split
    · exact h
    · exact h
    · exact AList.lookup_erase _ _
    · exact h
  · rw [removeFileDescriptor_lookup_ne w hne]
    exact h

/-- `AddFileDescriptor` in any state leaves the other entries, and enters the descriptor, drops it or
    does nothing. -/
theorem addFileDescriptor_lookup_cases (w : EpollSet) (edge : UInt32) (fd : Int) (events : UInt32)
    (info : FileDescriptorInfo) :
    (∀ fd', fd' ≠ fd → (w.addFileDescriptor edge fd events info).2.fileDescriptorMap.lookup fd' =
        w.fileDescriptorMap.lookup fd') ∧
      ((w.addFileDescriptor edge fd events info).1 = true →
        (w.addFileDescriptor edge fd events info).2.fileDescriptorMap.lookup fd = some info) ∧
      ((w.addFileDescriptor edge fd events info).1 = false →
        (w.addFileDescriptor edge fd events info).2.fileDescriptorMap.lookup fd =
            w.fileDescriptorMap.lookup fd ∨
          (w.addFileDescriptor edge fd events info).2.fileDescriptorMap.lookup fd = none) := by
  by_cases hn : w.Registered fd
  · have heq : (w.addFileDescriptor edge fd events info).1 = false ∧
        ((w.addFileDescriptor edge fd events info).2 = w ∨
          (w.addFileDescriptor edge fd events info).2 = w.removeFileDescriptor fd) := by
      unfold addFileDescriptor
      split
      · exact ⟨rfl, Or.inl rfl⟩
      · split
        · have hin : fd ∈ w.interest := hn
          rw [if_pos hin]
          exact ⟨rfl, Or.inr rfl⟩
        · exact ⟨rfl, Or.inl rfl⟩
    refine ⟨fun fd' hne => ?_, fun h => ?_, fun _ => ?_⟩
    · rcases heq.2 with h | h
      · rw [h]
      · rw [h]
        exact removeFileDescriptor_lookup_ne w hne
    · rw [heq.1] at h
      cases h
    · rcases heq.2 with h | h
      · exact Or.inl (by rw [h])
      · refine Or.inr ?_
        rw [h]
        by_cases hl : w.fileDescriptorMap.lookup fd = none
        · exact removeFileDescriptor_lookup_none hl
        · have hin : fd ∉ (w.removeFileDescriptor fd).interest := fun hin =>
            ((removeFileDescriptor_registered w fd fd).1 hin).1 rfl
          rw [AList.lookup_eq_none, ← (w.removeFileDescriptor fd).same]
          exact hin
  · refine ⟨fun fd' hne => addFileDescriptor_lookup_ne hn hne, fun h => addFileDescriptor_lookup hn h,
      fun h => Or.inl ?_⟩
    obtain ⟨hi, heq⟩ | heq := @addFileDescriptor_cases edge w fd events info hn
    · rw [heq] at h
      cases h
    · rw [heq]

end EpollSet

namespace ListenerTable

variable {MONITOR_FLAG : Bool}

/-- The tables say the same about `fd`. -/
structure SameView (t u : ListenerTable) (fd : Int) : Prop where
  listeners : u.listeners.lookup fd = t.listeners.lookup fd
  io : u.ioInfo fd = t.ioInfo fd
  deamon : u.deamonInfo fd = t.deamonInfo fd

/-- The settings that decide whether a listener uses the daemon. -/
def SameUse (MONITOR_FLAG : Bool) (t u : ListenerTable) : Prop :=
  u.usesDeamon MONITOR_FLAG = t.usesDeamon MONITOR_FLAG

theorem SameView.refl (t : ListenerTable) (fd : Int) : SameView t t fd := ⟨rfl, rfl, rfl⟩

theorem SameView.trans {t u v : ListenerTable} {fd : Int} (h : SameView t u fd)
    (h' : SameView u v fd) : SameView t v fd :=
  ⟨h'.listeners.trans h.listeners, h'.io.trans h.io, h'.deamon.trans h.deamon⟩

theorem ensureIoWaiterLocked_view (MONITOR_FLAG : Bool) (t : ListenerTable) (l : Nat) (fd : Int) :
    SameView t (t.ensureIoWaiterLocked MONITOR_FLAG l) fd := by
  refine ⟨rfl, ?_, ?_⟩
  · unfold ioInfo ensureIoWaiterLocked
    cases t.ioWaiter with
    | none => rfl
    | some w => rfl
  · unfold deamonInfo ensureIoWaiterLocked
    simp only
    split <;> rfl

/-- What an addition of `fd` for listener `l` leaves behind at `fd`. -/
inductive AddedView (MONITOR_FLAG : Bool) (t u : ListenerTable) (fd : Int) (l : Nat) :
    Bool → Prop
  /-- Given to the daemon alone, which serves it. -/
  | deamon (info : FileDescriptorInfo) (hl : info.listener = l)
      (huse : t.usesDeamon MONITOR_FLAG l = true) (hio : u.ioInfo fd = t.ioInfo fd)
      (hd : u.deamonInfo fd = some info) : AddedView MONITOR_FLAG t u fd l true
  /-- Given to the queue's waiter; the daemon knows it as a `vSyncTask` or as before or not. -/
  | io (info : FileDescriptorInfo) (hio : u.ioInfo fd = some info)
      (hd : u.deamonInfo fd = t.deamonInfo fd ∨ u.deamonInfo fd = none ∨
        ∃ info, u.deamonInfo fd = some info ∧ info.taskName = "vSyncTask") :
      AddedView MONITOR_FLAG t u fd l true
  /-- Refused. -/
  | refused (hio : u.ioInfo fd = t.ioInfo fd ∨ u.ioInfo fd = none)
      (hd : u.deamonInfo fd = t.deamonInfo fd ∨ u.deamonInfo fd = none ∨
        ∃ info, u.deamonInfo fd = some info ∧ info.taskName = "vSyncTask") :
      AddedView MONITOR_FLAG t u fd l false

/-- The daemon's copy of a `vSyncTask` that the queue's waiter serves. -/
theorem watched_lookup (d : EpollSet) (fd : Int) (events : UInt32) {info : FileDescriptorInfo} {b : Bool}
    (hb : b = true → info.taskName = "vSyncTask") :
    let r := if b = true then d.addFileDescriptor EPOLLET fd events info else (false, d)
    (∀ fd', fd' ≠ fd → r.2.fileDescriptorMap.lookup fd' = d.fileDescriptorMap.lookup fd') ∧
      (r.2.fileDescriptorMap.lookup fd = d.fileDescriptorMap.lookup fd ∨
        r.2.fileDescriptorMap.lookup fd = none ∨
        ∃ info, r.2.fileDescriptorMap.lookup fd = some info ∧ info.taskName = "vSyncTask") := by
  cases b with
  | false => exact ⟨fun _ _ => rfl, Or.inl rfl⟩
  | true =>
    obtain ⟨hne, hok, hno⟩ := EpollSet.addFileDescriptor_lookup_cases d EPOLLET fd events info
    refine ⟨hne, ?_⟩
    simp only [if_true]
    cases ha : (d.addFileDescriptor EPOLLET fd events info).1 with
    | true => exact Or.inr (Or.inr ⟨info, hok ha, hb rfl⟩)
    | false => exact (hno ha).imp_right Or.inl

/-- An addition to a table that says the same about the descriptor. -/
theorem AddedView.of_view {t v u : ListenerTable} {fd : Int} {l : Nat} {ok : Bool}
    (h : AddedView MONITOR_FLAG v u fd l ok) (hs : SameView t v fd)
    (huse : SameUse MONITOR_FLAG t v) : AddedView MONITOR_FLAG t u fd l ok := by
  cases h with
  | deamon info hl hu hio hd => exact .deamon info hl (huse ▸ hu) (hio.trans hs.io) hd
  | io info hio hd => exact .io info hio (hd.imp_left fun h => h.trans hs.deamon)
  | refused hio hd =>
    exact .refused (hio.imp_left fun h => h.trans hs.io) (hd.imp_left fun h => h.trans hs.deamon)

/-- **`AddFileDescriptorByFd` touches one descriptor.** -/
theorem addFileDescriptorByFd_view (MONITOR_FLAG : Bool) (p : Process) (t : ListenerTable) (fd : Int)
    (events : UInt32) (taskName : String) (l : Nat) (priority : Priority) :
    let r := t.addFileDescriptorByFd MONITOR_FLAG p fd events taskName l priority
    (∀ fd', fd' ≠ fd → SameView t r.2 fd') ∧ r.2.listeners = t.listeners ∧
      SameUse MONITOR_FLAG t r.2 ∧ AddedView MONITOR_FLAG t r.2 fd l r.1 := by
  intro r
  have hr : r = t.addFileDescriptorByFd MONITOR_FLAG p fd events taskName l priority := rfl
  unfold addFileDescriptorByFd at hr
  simp only at hr
  split at hr
  · rename_i hcond
    obtain ⟨hne, hok, hno⟩ := EpollSet.addFileDescriptor_lookup_cases t.deamonIoWaiter EPOLLET fd
      events ⟨taskName, if (t.object l).isVsyncListener then .VIP else priority, l⟩
    generalize t.deamonIoWaiter.addFileDescriptor EPOLLET fd events
      ⟨taskName, if (t.object l).isVsyncListener then .VIP else priority, l⟩ = a at hr hne hok hno
    rw [hr]
    refine ⟨fun fd' h => ⟨rfl, rfl, hne fd' h⟩, rfl, rfl, ?_⟩
    have huse : t.usesDeamon MONITOR_FLAG l = true := by
      unfold usesDeamon
      simp only [Bool.or_eq_true, Bool.and_eq_true] at hcond ⊢
      exact hcond.imp_right And.left
    cases ha : a.1 with
    | true => exact .deamon _ rfl huse rfl (hok ha)
    | false => exact .refused (Or.inl rfl) ((hno ha).imp_right Or.inl)
  · split at hr
    · rw [hr]
      exact ⟨fun fd' _ => .refl t fd', rfl, rfl, .refused (Or.inl rfl) (Or.inl rfl)⟩
    · rename_i w hw
      let info : FileDescriptorInfo :=
        ⟨taskName, if (t.object l).isVsyncListener then .VIP else priority, l⟩
      obtain ⟨hne, hok, hno⟩ := EpollSet.addFileDescriptor_lookup_cases w 0 fd events info
      generalize w.addFileDescriptor 0 fd events info = a at hr hne hok hno
      have hwatch := @watched_lookup t.deamonIoWaiter fd events info
        (decide (taskName = "vSyncTask") && (t.object l).ownerOnMainRunner p)
        (fun hb => by simpa using (Bool.and_eq_true_iff.1 hb).1)
      generalize (if (decide (taskName = "vSyncTask") && (t.object l).ownerOnMainRunner p) = true then
        t.deamonIoWaiter.addFileDescriptor EPOLLET fd events info else (false, t.deamonIoWaiter)) = d
        at hr hwatch
      rw [hr]
      have hlook : ∀ fd', t.ioInfo fd' = w.fileDescriptorMap.lookup fd' := by
        intro fd'
        unfold ioInfo
        rw [hw]
        rfl
      refine ⟨fun fd' h => ⟨rfl, ?_, hwatch.1 fd' h⟩, rfl, rfl, ?_⟩
      · rw [hlook]
        exact hne fd' h
      · cases ha : a.1 with
        | true => exact .io _ (hok ha) hwatch.2
        | false =>
          refine .refused ?_ hwatch.2
          rw [hlook]
          exact hno ha

/-- What an addition of `fd` for listener `l` does to the tables: other descriptors stay, and `fd` is
    added, refused or left alone. -/
structure AddEffect (MONITOR_FLAG : Bool) (t u : ListenerTable) (fd : Int) (l : Nat) (ok : Bool) :
    Prop where
  other : ∀ fd', fd' ≠ fd → SameView t u fd'
  use : SameUse MONITOR_FLAG t u
  this : (ok = false ∧ SameView t u fd) ∨
    (fd ∉ t.listeners ∧ AddedView MONITOR_FLAG t u fd l ok ∧
      u.listeners.lookup fd = if ok then some l else none)

/-- **`AddFileDescriptorListener` touches one descriptor.** -/
theorem addFileDescriptorListener_effect (p : Process) (t : ListenerTable) (fd : Int)
    (events : UInt32) (l : Nat) (taskName : String) (priority : Priority) :
    let r := t.addFileDescriptorListener MONITOR_FLAG p fd events (some l) taskName priority
    AddEffect MONITOR_FLAG t r.2 fd l (decide (r.1 = .ERR_OK)) := by
  intro r
  have hr : r = t.addFileDescriptorListener MONITOR_FLAG p fd events (some l) taskName priority := rfl
  have nothing : ∀ c : ErrCode, c ≠ .ERR_OK → r = (c, t) →
      AddEffect MONITOR_FLAG t r.2 fd l (decide (r.1 = .ERR_OK)) := by
    intro c hc h
    rw [h]
    exact ⟨fun fd' _ => .refl t fd', rfl, Or.inl ⟨by simpa using hc, .refl t fd⟩⟩
  unfold addFileDescriptorListener addFileDescriptorListenerBase at hr
  split at hr
  · exact nothing _ (by decide) hr
  · simp only at hr
    split at hr
    · exact nothing _ (by decide) hr
    · split at hr
      · exact nothing _ (by decide) hr
      · rename_i hn
        obtain ⟨hother, hl, huse, hview⟩ := addFileDescriptorByFd_view MONITOR_FLAG p
          (t.ensureIoWaiterLocked MONITOR_FLAG l) fd events taskName l priority
        generalize (t.ensureIoWaiterLocked MONITOR_FLAG l).addFileDescriptorByFd MONITOR_FLAG p fd
          events taskName l priority = a at hr hother hl huse hview
        obtain ⟨ok, u⟩ := a
        have hens := ensureIoWaiterLocked_view MONITOR_FLAG t l
        have hview' := hview.of_view (hens fd) rfl
        have hlisten : u.listeners = t.listeners := hl
        cases ok with
        | true =>
          rw [hr]
          refine ⟨fun fd' hne => ?_, huse, Or.inr ⟨hn, ?_, AList.lookup_insert _⟩⟩
          · have h := (hens fd').trans (hother fd' hne)
            refine ⟨?_, h.io, h.deamon⟩
            show (u.listeners.insert fd l).lookup fd' = _
            rw [AList.lookup_insert_ne hne, hlisten]
          · cases hview' with
            | deamon info hil hu hio hd => exact .deamon info hil hu hio hd
            | io info hio hd => exact .io info hio hd
        | false =>
          rw [hr]
          refine ⟨fun fd' hne => (hens fd').trans (hother fd' hne), huse, Or.inr ⟨hn, hview', ?_⟩⟩
          show u.listeners.lookup fd = none
          rw [hlisten]
          exact AList.lookup_eq_none.2 hn

/-! ## Removals, and every step -/

/-- What a list of removals does: the descriptors in it leave `listeners_` and the queue's waiter,
    those the daemon is told of leave the daemon, and nothing else changes. -/
structure DropEffect (t u : ListenerTable) (rs : List (Int × Bool)) : Prop where
  other : ∀ fd, (∀ r ∈ rs, fd ≠ r.1) → SameView t u fd
  gone : ∀ r ∈ rs, u.listeners.lookup r.1 = none ∧ u.ioInfo r.1 = none
  told : ∀ fd, (fd, true) ∈ rs → u.deamonInfo fd = none
  deamon : ∀ fd, u.deamonInfo fd = t.deamonInfo fd ∨ u.deamonInfo fd = none

theorem drop_view (t : ListenerTable) (r : Int × Bool) :
    (∀ fd, fd ≠ r.1 → SameView t (t.drop r) fd) ∧ (t.drop r).listeners.lookup r.1 = none ∧
      ((t.drop r).ioInfo r.1 = none) ∧ (r.2 = true → (t.drop r).deamonInfo r.1 = none) ∧
      ∀ fd, (t.drop r).deamonInfo fd = t.deamonInfo fd ∨ (t.drop r).deamonInfo fd = none := by
  have erased : ∀ w : EpollSet, (w.removeFileDescriptor r.1).fileDescriptorMap.lookup r.1 = none := by
    intro w
    rw [AList.lookup_eq_none, ← (w.removeFileDescriptor r.1).same]
    exact fun hin => ((EpollSet.removeFileDescriptor_registered w r.1 r.1).1 hin).1 rfl
  have hd : (t.drop r).deamonInfo = fun fd =>
      (if r.2 then t.deamonIoWaiter.removeFileDescriptor r.1
        else t.deamonIoWaiter).fileDescriptorMap.lookup fd := rfl
  refine ⟨fun fd hne => ⟨AList.lookup_erase_ne hne, ?_, ?_⟩, AList.lookup_erase _ _, ?_, fun hr => ?_,
    fun fd => ?_⟩
  · unfold ioInfo drop
    cases t.ioWaiter with
    | none => rfl
    | some w => exact EpollSet.removeFileDescriptor_lookup_ne w hne
  · rw [hd]
    simp only
    split
    · exact EpollSet.removeFileDescriptor_lookup_ne _ hne
    · rfl
  · unfold ioInfo drop
    cases t.ioWaiter with
    | none => rfl
    | some w => exact erased w
  · rw [hd, hr]
    exact erased _
  · rw [hd]
    simp only
    split
    · by_cases hne : fd = r.1
      · subst hne
        exact Or.inr (erased _)
      · exact Or.inl (EpollSet.removeFileDescriptor_lookup_ne _ hne)
    · exact Or.inl rfl

theorem dropAll_effect : ∀ (rs : List (Int × Bool)) (t : ListenerTable),
    DropEffect t (t.dropAll rs) rs := by
  intro rs
  induction rs with
  | nil =>
    intro t
    exact ⟨fun fd _ => .refl t fd, fun r hr => (List.not_mem_nil hr).elim,
      fun fd hr => (List.not_mem_nil hr).elim, fun fd => Or.inl rfl⟩
  | cons r rs ih =>
    intro t
    obtain ⟨hother, hlist, hio, htold, hdeamon⟩ := drop_view t r
    have h := ih (t.drop r)
    -- What is gone after the first removal stays gone.
    have stays : (t.dropAll (r :: rs)).listeners.lookup r.1 = none ∧
        (t.dropAll (r :: rs)).ioInfo r.1 = none := by
      by_cases hin : ∃ r' ∈ rs, r.1 = r'.1
      · obtain ⟨r', hr', heq⟩ := hin
        rw [heq]
        exact h.gone r' hr'
      · have hs := h.other r.1 fun r' hr' heq => hin ⟨r', hr', heq⟩
        exact ⟨hs.listeners.trans hlist, hs.io.trans hio⟩
    refine ⟨fun fd hne => ?_, fun r' hr' => ?_, fun fd hr' => ?_, fun fd => ?_⟩
    · exact (hother fd (hne r List.mem_cons_self)).trans
        (h.other fd fun r' hr' => hne r' (List.mem_cons_of_mem _ hr'))
    · rcases List.mem_cons.1 hr' with rfl | hr'
      · exact stays
      · exact h.gone r' hr'
    · rcases List.mem_cons.1 hr' with heq | hr'
      · have hgone : (t.drop r).deamonInfo fd = none := by
          rw [← heq] at htold
          exact heq ▸ htold rfl
        exact (h.deamon fd).elim (fun hd => hd.trans hgone) id
      · exact h.told fd hr'
    · exact (h.deamon fd).elim (fun hd => (hdeamon fd).imp hd.trans hd.trans) Or.inr

/-- What an operation does to the tables, descriptor by descriptor. -/
inductive TableEffect (MONITOR_FLAG : Bool) (t : ListenerTable) (p : Process) (op : ListenerOp)
    (u : ListenerTable) : Prop
  | added (fd : Int) (l : Nat) (ok : Bool) (hop : op.adds = some fd)
      (hr : t.registers MONITOR_FLAG p op = if ok then some (fd, l) else none)
      (h : AddEffect MONITOR_FLAG t u fd l ok)
  | removed (rs : List (Int × Bool)) (hrs : rs = t.removals MONITOR_FLAG p op)
      (hr : t.registers MONITOR_FLAG p op = none) (huse : SameUse MONITOR_FLAG t u)
      (h : DropEffect t u rs)
  | same (hr : t.registers MONITOR_FLAG p op = none)
      (huse : ∀ l, t.usesDeamon MONITOR_FLAG l = true → u.usesDeamon MONITOR_FLAG l = true)
      (h : ∀ fd, SameView t u fd)

theorem AddEffect.of_same {t v u : ListenerTable} {fd : Int} {l : Nat} {ok : Bool}
    (h : AddEffect MONITOR_FLAG v u fd l ok) (hs : ∀ fd, SameView t v fd)
    (hl : v.listeners = t.listeners) (huse : SameUse MONITOR_FLAG t v) :
    AddEffect MONITOR_FLAG t u fd l ok := by
  refine ⟨fun fd' hne => (hs fd').trans (h.other fd' hne), h.use.trans huse, ?_⟩
  rcases h.this with ⟨hok, hv⟩ | ⟨hn, hv, hlook⟩
  · exact Or.inl ⟨hok, (hs fd).trans hv⟩
  · exact Or.inr ⟨hl ▸ hn, hv.of_view (hs fd) huse, hlook⟩

theorem setOwner_use (t : ListenerTable) (l handler : Nat) :
    SameUse MONITOR_FLAG t (t.setOwner l handler) := by
  funext l'
  unfold usesDeamon setOwner setObject
  by_cases h : l' = l
  · subst h
    simp
  · simp [Function.update_of_ne h]

/-- **Every operation has one of the effects.** -/
theorem step_effect (MONITOR_FLAG : Bool) (p : Process) (t : ListenerTable) (op : ListenerOp) :
    TableEffect MONITOR_FLAG t p op (t.step MONITOR_FLAG p op) := by
  have dropped : t.registers MONITOR_FLAG p op = none →
      t.step MONITOR_FLAG p op = t.dropAll (t.removals MONITOR_FLAG p op) →
      TableEffect MONITOR_FLAG t p op (t.step MONITOR_FLAG p op) := by
    intro hr heq
    rw [heq]
    exact .removed _ rfl hr (dropAll_uses _ t) (dropAll_effect _ t)
  have registersIf : ∀ (c : ErrCode) (fd : Int) (l : Nat), (if c = .ERR_OK then some (fd, l) else none) =
      if decide (c = .ERR_OK) = true then some (fd, l) else none := by
    intro c fd l
    by_cases h : c = .ERR_OK <;> simp [h]
  cases op with
  | addByHandler handler fd events listener taskName priority =>
    cases listener with
    | none =>
      refine .same rfl (fun _ h => ?_) fun fd => ?_
      · simp only [step, addByHandler]
        split <;> exact h
      · simp only [step, addByHandler]
        split <;> exact .refl t fd
    | some l =>
      refine .added fd l _ rfl (registersIf _ fd l) ?_
      simp only [step, addByHandler]
      split
      · refine ⟨fun fd' _ => .refl t fd', rfl, Or.inl ⟨rfl, .refl t fd⟩⟩
      · exact (addFileDescriptorListener_effect p (t.setOwner l handler) fd events l taskName
          priority).of_same (fun fd => ⟨rfl, rfl, rfl⟩) rfl (setOwner_use t l handler)
  | addByQueue fd events listener taskName priority =>
    cases listener with
    | none =>
      refine .same rfl (fun _ h => ?_) fun fd => ?_
      · simp only [step, addFileDescriptorListener]
        split <;> exact h
      · simp only [step, addFileDescriptorListener]
        split <;> exact .refl t fd
    | some l =>
      exact .added fd l _ rfl (registersIf _ fd l)
        (addFileDescriptorListener_effect p t fd events l taskName priority)
  | removeByFd fd => exact dropped rfl (removeListenerByFd_eq p t fd)
  | removeByOwner owner => exact dropped rfl (removeListenerByOwner_eq p t owner)
  | removeOrphan => exact dropped rfl (removeOrphan_eq p t)
  | setDeamonWaiter l =>
    refine .same rfl (fun l' h => ?_) fun fd => ⟨rfl, rfl, rfl⟩
    unfold usesDeamon at h ⊢
    simp only [step, setObject, Bool.or_eq_true, Bool.and_eq_true] at h ⊢
    refine h.imp_right fun ⟨hw, hm⟩ => ⟨?_, hm⟩
    by_cases hl : l' = l
    · subst hl
      simp
    · rw [Function.update_of_ne hl]
      exact hw
  | setType l type =>
    refine .same rfl (fun l' h => ?_) fun fd => ⟨rfl, rfl, rfl⟩
    unfold usesDeamon at h ⊢
    simp only [step, setObject] at h ⊢
    by_cases hl : l' = l
    · subst hl
      simpa using h
    · rw [Function.update_of_ne hl]
      exact h
  | initDeamon => exact .same rfl (fun _ h => h) fun fd => ⟨rfl, rfl, rfl⟩

/-! ## Who serves a descriptor -/

/-- The queue's waiter posts a task for every report of the descriptor. -/
def servedByIo (t : ListenerTable) (fd : Int) : Prop := ∃ info, t.ioInfo fd = some info

/-- The daemon posts a task for every report of the descriptor. -/
def servedByDeamon (t : ListenerTable) (fd : Int) : Prop :=
  ∃ info, t.deamonInfo fd = some info ∧ info.taskName ≠ "vSyncTask"

/-- The invariant of all runs: what the queue's waiter has is listed, what the daemon serves is listed
    with the same listener, which uses the daemon, and is not in the queue's waiter; and a listed
    descriptor has an entry somewhere. -/
structure Tidy (MONITOR_FLAG : Bool) (t : ListenerTable) : Prop where
  io : ∀ fd, t.servedByIo fd → fd ∈ t.listeners
  deamon : ∀ fd info, t.deamonInfo fd = some info → info.taskName ≠ "vSyncTask" →
    t.listeners.lookup fd = some info.listener ∧
      t.usesDeamon MONITOR_FLAG info.listener = true ∧ t.ioInfo fd = none
  listed : ∀ fd ∈ t.listeners, t.ioInfo fd ≠ none ∨ t.deamonInfo fd ≠ none

theorem mem_listeners {t : ListenerTable} {fd : Int} :
    fd ∈ t.listeners ↔ t.listeners.lookup fd ≠ none := by
  rw [← AList.lookup_isSome, Option.isSome_iff_ne_none]

/-- The parts of the invariant that are about one descriptor. -/
structure TidyAt (MONITOR_FLAG : Bool) (t : ListenerTable) (fd : Int) : Prop where
  io : t.ioInfo fd ≠ none → t.listeners.lookup fd ≠ none
  deamon : ∀ info, t.deamonInfo fd = some info → info.taskName ≠ "vSyncTask" →
    t.listeners.lookup fd = some info.listener ∧
      t.usesDeamon MONITOR_FLAG info.listener = true ∧ t.ioInfo fd = none
  listed : t.listeners.lookup fd ≠ none → t.ioInfo fd ≠ none ∨ t.deamonInfo fd ≠ none

theorem tidy_iff {t : ListenerTable} : t.Tidy MONITOR_FLAG ↔ ∀ fd, t.TidyAt MONITOR_FLAG fd := by
  constructor
  · intro h fd
    refine ⟨fun hio => ?_, h.deamon fd, fun hl => h.listed fd (mem_listeners.2 hl)⟩
    exact mem_listeners.1 (h.io fd (Option.ne_none_iff_exists'.1 hio))
  · intro h
    refine ⟨fun fd hio => ?_, fun fd => (h fd).deamon, fun fd hl => (h fd).listed (mem_listeners.1 hl)⟩
    exact mem_listeners.2 ((h fd).io (Option.ne_none_iff_exists'.2 hio))

theorem TidyAt.of_view {t u : ListenerTable} {fd : Int} (h : t.TidyAt MONITOR_FLAG fd)
    (hs : SameView t u fd)
    (huse : ∀ l, t.usesDeamon MONITOR_FLAG l = true → u.usesDeamon MONITOR_FLAG l = true) :
    u.TidyAt MONITOR_FLAG fd := by
  refine ⟨?_, fun info hd hname => ?_, ?_⟩
  · rw [hs.io, hs.listeners]
    exact h.io
  · rw [hs.deamon] at hd
    obtain ⟨hl, hu, hio⟩ := h.deamon info hd hname
    rw [hs.listeners, hs.io]
    exact ⟨hl, huse _ hu, hio⟩
  · rw [hs.io, hs.listeners, hs.deamon]
    exact h.listed

/-- What an addition leaves at its descriptor is tidy. -/
theorem AddEffect.tidyAt {t u : ListenerTable} {fd : Int} {l : Nat} {ok : Bool}
    (h : AddEffect MONITOR_FLAG t u fd l ok) (ht : t.TidyAt MONITOR_FLAG fd) :
    u.TidyAt MONITOR_FLAG fd := by
  have huse : ∀ l, t.usesDeamon MONITOR_FLAG l = true → u.usesDeamon MONITOR_FLAG l = true :=
    fun l hl => h.use ▸ hl
  rcases h.this with ⟨-, hs⟩ | ⟨hn, hv, hlook⟩
  · exact ht.of_view hs huse
  · -- Not listed before: the daemon has at most a `vSyncTask` entry left, the queue's waiter none.
    have hl : t.listeners.lookup fd = none := AList.lookup_eq_none.2 hn
    have hio : t.ioInfo fd = none := by
      by_contra hio
      exact ht.io hio hl
    have hd : ∀ info, t.deamonInfo fd = some info → info.taskName = "vSyncTask" := by
      intro info hd
      by_contra hname
      rw [(ht.deamon info hd hname).1] at hl
      cases hl
    have left : (u.deamonInfo fd = t.deamonInfo fd ∨ u.deamonInfo fd = none ∨
        ∃ info, u.deamonInfo fd = some info ∧ info.taskName = "vSyncTask") →
        ∀ info, u.deamonInfo fd = some info → info.taskName = "vSyncTask" := by
      rintro (h | h | ⟨i, h, hi⟩) info hu
      · exact hd info (h ▸ hu)
      · rw [h] at hu
        cases hu
      · rw [h] at hu
        cases hu
        exact hi
    cases hv with
    | deamon info hil hu hio' hd' =>
      rw [hio] at hio'
      refine ⟨fun hne => absurd hio' hne, fun info' hd'' _ => ?_, fun _ => Or.inr ?_⟩
      · rw [hd'] at hd''
        cases hd''
        rw [hlook, hil]
        exact ⟨rfl, huse l hu, hio'⟩
      · rw [hd']
        simp
    | io info hio' hd' =>
      refine ⟨fun _ => ?_, fun info' hi hname => absurd (left hd' info' hi) hname,
        fun _ => Or.inl ?_⟩
      · rw [hlook]
        simp
      · rw [hio']
        simp
    | refused hio' hd' =>
      have hio' : u.ioInfo fd = none := hio'.elim (fun h => h.trans hio) id
      exact ⟨fun hne => absurd hio' hne, fun info' hi hname => absurd (left hd' info' hi) hname,
        fun hne => absurd hlook hne⟩

/-- A removal tells the daemon of every descriptor that the daemon serves. -/
theorem told_of_served {p : Process} {t : ListenerTable} {op : ListenerOp} {fd : Int}
    {info : FileDescriptorInfo} {b : Bool} (ht : t.TidyAt MONITOR_FLAG fd)
    (hd : t.deamonInfo fd = some info) (hname : info.taskName ≠ "vSyncTask")
    (hr : (fd, b) ∈ t.removals MONITOR_FLAG p op) : b = true := by
  obtain ⟨hl, huse, -⟩ := ht.deamon info hd hname
  obtain ⟨l, hl', hb⟩ := mem_removals hr
  rw [hl] at hl'
  cases hl'
  simp only at hb
  rw [hb]
  unfold tellsDeamon fdFromDeamon
  split
  · simp [huse]
  · exact huse

/-- What removals leave is tidy. -/
theorem DropEffect.tidyAt {p : Process} {t u : ListenerTable} {op : ListenerOp} {fd : Int}
    (h : DropEffect t u (t.removals MONITOR_FLAG p op)) (huse : SameUse MONITOR_FLAG t u)
    (ht : t.TidyAt MONITOR_FLAG fd) : u.TidyAt MONITOR_FLAG fd := by
  by_cases hin : ∃ r ∈ t.removals MONITOR_FLAG p op, fd = r.1
  · obtain ⟨r, hr, rfl⟩ := hin
    obtain ⟨hl, hio⟩ := h.gone r hr
    refine ⟨fun hne => absurd hio hne, fun info hd hname => ?_, fun hne => absurd hl hne⟩
    rcases h.deamon r.1 with hsame | hnone
    · rw [hsame] at hd
      have hb : r.2 = true := told_of_served ht hd hname hr
      rw [← hsame, h.told r.1 (by rw [← hb]; exact hr)] at hd
      cases hd
    · rw [hnone] at hd
      cases hd
  · refine ht.of_view (h.other fd fun r hr heq => hin ⟨r, hr, heq⟩) fun l hl => ?_
    rw [huse]
    exact hl

/-- **Every operation keeps the tables tidy.** -/
theorem step_tidy {p : Process} {t : ListenerTable} {op : ListenerOp} (h : t.Tidy MONITOR_FLAG) :
    (t.step MONITOR_FLAG p op).Tidy MONITOR_FLAG := by
  rw [tidy_iff] at h ⊢
  intro fd
  cases step_effect MONITOR_FLAG p t op with
  | added fd' l ok _ _ hadd =>
    by_cases hne : fd = fd'
    · subst hne
      exact hadd.tidyAt (h fd)
    · exact (h fd).of_view (hadd.other fd hne) fun l hl => hadd.use ▸ hl
  | removed rs hrs _ huse hdrop =>
    subst hrs
    exact hdrop.tidyAt huse (h fd)
  | same _ huse hs => exact (h fd).of_view (hs fd) huse

theorem initial_tidy (start : ListenerStart) : (initial start).Tidy MONITOR_FLAG := by
  have hio : ∀ fd, (initial start).ioInfo fd = none := by
    intro fd
    unfold ioInfo initial
    simp only
    split <;> rfl
  refine ⟨fun fd h => ?_, fun fd info h => ?_, fun fd h => absurd h (AList.notMem_empty fd)⟩
  · obtain ⟨info, h⟩ := h
    rw [hio] at h
    cases h
  · cases h

end ListenerTable

open ListenerTable

end AppExecFwk
