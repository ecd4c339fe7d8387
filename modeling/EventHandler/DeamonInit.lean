import EventHandler.DeamonStop

/-!
# The start of the deamon

`EnsureIoWaiterLocked` calls `Init` and `StartEpollIoWaiter` of the one `DeamonIoWaiter` under the
lock of its own queue, so the calls of different queues overlap.  `Init` tests `epollFd_`, opens an
epoll and an event descriptor, and stores them; `running_` lets one call start the thread.

* `InitPc`, `DeamonThread`, `DeamonStartSys` — where each caller and the deamon's thread are, the
  fields, and the descriptors opened so far with what has become of them.
* `DeamonStartSys.step` — each access to a field and each system call, which may fail.
* `FdLedger` — every descriptor is closed, lost, in a field, or in the hands of one call.
* `Paired`, `Started` — each set has its own event descriptor; one call starts the thread.
* `ServesAccepted` — with nothing lost, what is accepted is in the set that the thread waits on.
* `init_loses_none_iff` — nothing is lost exactly if no call stores over another.
* `notify_wakes_iff` — `NotifyAll` reaches the thread exactly if `awakenFd_` is in the set it waits on.
-/

set_option autoImplicit false

namespace AppExecFwk

open Transition

/-- A caller of `EnsureIoWaiterLocked`, `AddFileDescriptor` or `RemoveFileDescriptor`, before the step
    it is named after: a test, a system call, a store to `epollFd_` or `awakenFd_`, the exchange of
    `running_` or the construction of `epollThread_`. -/
inductive InitPc where
  | outside
  | testingRunning
  | testingEpoll
  | creating
  | creatingAwaken (epoll : Nat)
  | addingAwaken (epoll awaken : Nat)
  | storing (epoll awaken : Nat)
  | storingAwaken (awaken : Nat)
  /-- Behind the loop, with the descriptors to close. -/
  | closing (fds : List Nat)
  | starting
  | spawning
  /-- Before `epoll_ctl` with the value read from `epollFd_`. -/
  | adding (epoll fd : Nat)
  | removing (epoll fd : Nat)
  | undoing (fd : Nat)
  deriving DecidableEq, Repr

def InitPc.held : InitPc → List Nat
  | .creatingAwaken epoll => [epoll]
  | .addingAwaken epoll awaken => [epoll, awaken]
  | .storing epoll awaken => [epoll, awaken]
  | .storingAwaken awaken => [awaken]
  | .closing fds => fds
  | _ => []

def InitPc.inInit : InitPc → Bool
  | .testingRunning => true
  | .testingEpoll => true
  | .creating => true
  | .creatingAwaken _ => true
  | .addingAwaken _ _ => true
  | .storing _ _ => true
  | .storingAwaken _ => true
  | .closing _ => true
  | _ => false

/-- The thread of `EpollWaitFor`, without the count and the end. -/
inductive DeamonThread where
  | none
  | looping
  | waiting (epoll : Nat)
  deriving DecidableEq, Repr

/-- What an epoll set watches: an event descriptor of `Init`, or a descriptor of a listener. -/
inductive Watched where
  | awaken (awaken : Nat)
  | listener (fd : Nat)
  deriving DecidableEq, Repr

structure DeamonStartSys where
  running : Bool
  epollFd : Option Nat
  awakenFd : Option Nat
  /-- The descriptors opened so far are those below. -/
  opened : Nat
  closed : List Nat
  /-- What another value was stored over in `epollFd_`, and in `awakenFd_`. -/
  lostEpoll : List Nat
  lostAwaken : List Nat
  interest : Nat → List Watched
  /-- The event descriptors with a write that is not reported yet. -/
  written : List Nat
  /-- What `AddFileDescriptor` has returned true for, and what has not been deleted since. -/
  accepted : List Nat
  calls : Nat → InitPc
  deamon : DeamonThread
  threads : Nat

inductive DeamonStartOp where
  | ensure (k : Nat)
  | addFileDescriptor (k fd : Nat)
  | removeFileDescriptor (k fd : Nat)
  /-- The next step of a caller; `ok` when the system call succeeds. -/
  | move (k : Nat) (ok : Bool)
  | epollWait
  | reported (fd : Nat)
  | awakened (awaken : Nat)
  | interrupt
  | notify
  deriving DecidableEq, Repr

namespace DeamonStartSys

def setCall (s : DeamonStartSys) (k : Nat) (pc : InitPc) : DeamonStartSys :=
  { s with calls := Function.update s.calls k pc }

def setInterest (s : DeamonStartSys) (epoll : Nat) (watched : List Watched) : DeamonStartSys :=
  { s with interest := Function.update s.interest epoll watched }

def moveCall (s : DeamonStartSys) (k : Nat) (ok : Bool) : InitPc → Option DeamonStartSys
  | .outside => none
  | .testingRunning => some (s.setCall k (if s.running then .starting else .testingEpoll))
  | .testingEpoll =>
    some (s.setCall k (if s.epollFd.isSome then .starting else .creating))
  | .creating =>
    some (if ok then { s.setCall k (.creatingAwaken s.opened) with opened := s.opened + 1 }
      else s.setCall k (.closing []))
  | .creatingAwaken epoll =>
    some (if ok then { s.setCall k (.addingAwaken epoll s.opened) with opened := s.opened + 1 }
      else s.setCall k (.closing [epoll]))
  | .addingAwaken epoll awaken =>
    some (if ok then
      (s.setInterest epoll (.awaken awaken :: s.interest epoll)).setCall k (.storing epoll awaken)
      else s.setCall k (.closing [epoll, awaken]))
  | .storing epoll awaken =>
    some { s.setCall k (.storingAwaken awaken) with
      epollFd := some epoll
      lostEpoll := s.epollFd.toList ++ s.lostEpoll }
  | .storingAwaken awaken =>
    some { s.setCall k .starting with
      awakenFd := some awaken
      lostAwaken := s.awakenFd.toList ++ s.lostAwaken }
  | .closing [] => some (s.setCall k .outside)
  | .closing (fd :: fds) => some { s.setCall k (.closing fds) with closed := fd :: s.closed }
  | .starting =>
    some { s.setCall k (if s.running then .outside else .spawning) with running := true }
  | .spawning =>
    some { s.setCall k .outside with
      -- `EpollWaitFor` returns at once without `epollFd_`.
      deamon := if s.epollFd.isSome then .looping else .none
      threads := s.threads + 1 }
  | .adding epoll fd =>
    some (if ok = true ∧ .listener fd ∉ s.interest epoll then
      { (s.setInterest epoll (.listener fd :: s.interest epoll)).setCall k .outside with
        accepted := fd :: s.accepted }
      else s.setCall k (.undoing fd))
  | .removing epoll fd =>
    some (if ok = true ∧ .listener fd ∈ s.interest epoll then
      { (s.setInterest epoll ((s.interest epoll).filter (· ≠ .listener fd))).setCall k .outside with
        accepted := s.accepted.filter (· ≠ fd) }
      else s.setCall k .outside)
  | .undoing fd => some (s.setCall k ((s.epollFd.map (InitPc.removing · fd)).getD .outside))

def step (s : DeamonStartSys) : DeamonStartOp → Option DeamonStartSys
  | .ensure k => if s.calls k = .outside then some (s.setCall k .testingRunning) else none
  | .addFileDescriptor k fd =>
    if s.calls k = .outside then
      some (s.setCall k ((s.epollFd.map (InitPc.adding · fd)).getD .outside))
    else none
  | .removeFileDescriptor k fd =>
    if s.calls k = .outside then
      some (s.setCall k ((s.epollFd.map (InitPc.removing · fd)).getD .outside))
    else none
  | .move k ok => s.moveCall k ok (s.calls k)
  | .epollWait =>
    match s.deamon, s.epollFd with
    | .looping, some epoll => some { s with deamon := .waiting epoll }
    | _, _ => none
  | .reported fd =>
    match s.deamon with
    | .waiting epoll =>
      if .listener fd ∈ s.interest epoll then some { s with deamon := .looping } else none
    | _ => none
  | .awakened awaken =>
    match s.deamon with
    | .waiting epoll =>
      if .awaken awaken ∈ s.interest epoll ∧ awaken ∈ s.written then
        some { s with deamon := .looping, written := s.written.filter (· ≠ awaken) }
      else none
    | _ => none
  | .interrupt =>
    match s.deamon with
    | .waiting _ => some { s with deamon := .looping }
    | _ => none
  | .notify => some { s with written := s.awakenFd.toList ++ s.written }

def lost (s : DeamonStartSys) : List Nat := s.lostEpoll ++ s.lostAwaken

def settled (s : DeamonStartSys) : List Nat :=
  s.epollFd.toList ++ (s.awakenFd.toList ++ (s.closed ++ s.lost))

def stored (s : DeamonStartSys) : List Nat := s.epollFd.toList ++ s.lostEpoll

/-- What holds when a caller gets to `pc` and the fields stay. -/
def Arrives (s : DeamonStartSys) : InitPc → Prop
  | .creating => s.epollFd = none
  | .starting => s.running = true ∨ s.epollFd.isSome = true
  -- `epoll_ctl` gets what is read from `epollFd_`.
  | .adding epoll _ => s.epollFd = some epoll
  | .removing epoll _ => s.epollFd = some epoll
  | .testingRunning => False
  | .creatingAwaken _ => False
  | .addingAwaken _ _ => False
  | .storing _ _ => False
  | .storingAwaken _ => False
  | .spawning => False
  | _ => True

end DeamonStartSys

def deamonStartSystem : System DeamonStartSys DeamonStartOp where
  init :=
    { running := false
      epollFd := none
      awakenFd := none
      opened := 0
      closed := []
      lostEpoll := []
      lostAwaken := []
      interest := fun _ => []
      written := []
      accepted := []
      calls := fun _ => .outside
      deamon := .none
      threads := 0 }
  step := DeamonStartSys.step

/-! ## The inversion of a step -/

/-- A caller goes from `pc` to `pc'` and leaves everything else as it is. -/
structure Goes (s : DeamonStartSys) (pc pc' : InitPc) : Prop where
  held : pc'.held = pc.held
  leaves : pc ≠ .spawning ∧ ∀ a, pc ≠ .storingAwaken a
  inInit : pc'.inInit = true → pc.inInit = true
  arrives : s.Arrives pc'

inductive Starts (s : DeamonStartSys) : DeamonStartOp → DeamonStartSys → Prop
  | ensure (k : Nat) (h : s.calls k = .outside) :
      Starts s (.ensure k) (s.setCall k .testingRunning)
  | go (a : DeamonStartOp) (k : Nat) (pc' : InitPc) (h : Goes s (s.calls k) pc') :
      Starts s a (s.setCall k pc')
  | openEpoll (k : Nat) (h : s.calls k = .creating) :
      Starts s (.move k true)
        { s.setCall k (.creatingAwaken s.opened) with opened := s.opened + 1 }
  | openAwaken (k e : Nat) (h : s.calls k = .creatingAwaken e) :
      Starts s (.move k true)
        { s.setCall k (.addingAwaken e s.opened) with opened := s.opened + 1 }
  | addAwaken (k e a : Nat) (h : s.calls k = .addingAwaken e a) :
      Starts s (.move k true)
        ((s.setInterest e (.awaken a :: s.interest e)).setCall k (.storing e a))
  | storeEpoll (k e a : Nat) (ok : Bool) (h : s.calls k = .storing e a) :
      Starts s (.move k ok) { s.setCall k (.storingAwaken a) with
        epollFd := some e
        lostEpoll := s.epollFd.toList ++ s.lostEpoll }
  | storeAwaken (k a : Nat) (ok : Bool) (h : s.calls k = .storingAwaken a) :
      Starts s (.move k ok) { s.setCall k .starting with
        awakenFd := some a
        lostAwaken := s.awakenFd.toList ++ s.lostAwaken }
  | close (k fd : Nat) (fds : List Nat) (ok : Bool) (h : s.calls k = .closing (fd :: fds)) :
      Starts s (.move k ok) { s.setCall k (.closing fds) with closed := fd :: s.closed }
  | exchange (k : Nat) (ok : Bool) (h : s.calls k = .starting) :
      Starts s (.move k ok)
        { s.setCall k (if s.running then .outside else .spawning) with running := true }
  | spawn (k : Nat) (ok : Bool) (h : s.calls k = .spawning) :
      Starts s (.move k ok) { s.setCall k .outside with
        deamon := if s.epollFd.isSome then .looping else .none
        threads := s.threads + 1 }
  | add (k e fd : Nat) (h : s.calls k = .adding e fd) :
      Starts s (.move k true)
        { (s.setInterest e (.listener fd :: s.interest e)).setCall k .outside with
          accepted := fd :: s.accepted }
  | remove (k e fd : Nat) (h : s.calls k = .removing e fd) :
      Starts s (.move k true)
        { (s.setInterest e ((s.interest e).filter (· ≠ .listener fd))).setCall k .outside with
          accepted := s.accepted.filter (· ≠ fd) }
  | epollWait (e : Nat) (hd : s.deamon = .looping) (he : s.epollFd = some e) :
      Starts s .epollWait { s with deamon := .waiting e }
  | reported (e fd : Nat) (hd : s.deamon = .waiting e) (hm : .listener fd ∈ s.interest e) :
      Starts s (.reported fd) { s with deamon := .looping }
  | awakened (e a : Nat) (hd : s.deamon = .waiting e) (hm : .awaken a ∈ s.interest e)
      (hw : a ∈ s.written) :
      Starts s (.awakened a)
        { s with deamon := .looping, written := s.written.filter (· ≠ a) }
  | interrupt (e : Nat) (hd : s.deamon = .waiting e) :
      Starts s .interrupt { s with deamon := .looping }
  | notify : Starts s .notify { s with written := s.awakenFd.toList ++ s.written }

/-- A move on to `epoll_ctl`, if there is an epoll descriptor. -/
theorem Goes.control {s : DeamonStartSys} {pc : InitPc} {pc' : Nat → InitPc}
    (hpc : pc.held = []) (hs : pc ≠ .spawning ∧ ∀ a, pc ≠ .storingAwaken a)
    (h : (∃ fd, ∀ e, pc' e = .adding e fd) ∨ ∃ fd, ∀ e, pc' e = .removing e fd) :
    Goes s pc ((s.epollFd.map pc').getD .outside) := by
  cases he : s.epollFd with
  | none => exact ⟨hpc.symm, hs, (fun hi => by cases hi), trivial⟩
  | some e =>
    rcases h with ⟨fd, hf⟩ | ⟨fd, hf⟩
    · simp only [Option.map_some, Option.getD_some, hf]
      exact ⟨hpc.symm, hs, (fun hi => by cases hi), he⟩
    · simp only [Option.map_some, Option.getD_some, hf]
      exact ⟨hpc.symm, hs, (fun hi => by cases hi), he⟩

theorem moveCall_cases {s t : DeamonStartSys} {k : Nat} {ok : Bool} {pc : InitPc}
    (hpc : s.calls k = pc) (h : s.moveCall k ok pc = some t) : Starts s (.move k ok) t := by
  have go : ∀ {pc' : InitPc}, pc'.held = pc.held →
      (pc ≠ .spawning ∧ ∀ a, pc ≠ .storingAwaken a) → (pc'.inInit = true → pc.inInit = true) →
      s.Arrives pc' → Starts s (.move k ok) (s.setCall k pc') :=
    fun hh hs hi ha => .go _ k _ (hpc ▸ ⟨hh, hs, hi, ha⟩)
  cases pc with
  | outside => cases h
  | testingRunning =>
    cases h
    split
    · rename_i hr
      exact go rfl (by simp) (fun _ => rfl) (Or.inl hr)
    · exact go rfl (by simp) (fun _ => rfl) trivial
  | testingEpoll =>
    cases h
    split
    · rename_i he
      exact go rfl (by simp) (fun _ => rfl) (Or.inr he)
    · rename_i he
      exact go rfl (by simp) (fun _ => rfl) (Option.not_isSome_iff_eq_none.1 he)
  | creating =>
    cases ok with
    | true => cases h; exact .openEpoll k hpc
    | false => cases h; exact go rfl (by simp) (fun _ => rfl) trivial
  | creatingAwaken e =>
    cases ok with
    | true => cases h; exact .openAwaken k e hpc
    | false => cases h; exact go rfl (by simp) (fun _ => rfl) trivial
  | addingAwaken e a =>
    cases ok with
    | true => cases h; exact .addAwaken k e a hpc
    | false => cases h; exact go rfl (by simp) (fun _ => rfl) trivial
  | storing e a => cases h; exact .storeEpoll k e a ok hpc
  | storingAwaken a => cases h; exact .storeAwaken k a ok hpc
  | closing fds =>
    cases fds with
    | nil => cases h; exact go rfl (by simp) (fun _ => rfl) trivial
    | cons fd fds => cases h; exact .close k fd fds ok hpc
  | starting => cases h; exact .exchange k ok hpc
  | spawning => cases h; exact .spawn k ok hpc
  | adding e fd =>
    simp only [DeamonStartSys.moveCall, Option.some.injEq] at h
    split at h
    · rename_i hok
      subst h
      obtain ⟨rfl, -⟩ := hok
      exact .add k e fd hpc
    · subst h
      exact go rfl (by simp) (fun hi => by cases hi) trivial
  | removing e fd =>
    simp only [DeamonStartSys.moveCall, Option.some.injEq] at h
    split at h
    · rename_i hok
      subst h
      obtain ⟨rfl, -⟩ := hok
      exact .remove k e fd hpc
    · subst h
      exact go rfl (by simp) (fun hi => by cases hi) trivial
  | undoing fd =>
    cases h
    have hg : Goes s (.undoing fd) ((s.epollFd.map (InitPc.removing · fd)).getD .outside) :=
      .control rfl (by simp) (Or.inr ⟨fd, fun _ => rfl⟩)
    exact go hg.held hg.leaves hg.inInit hg.arrives

/-- **Inversion of a step.** -/
theorem starts_of_step {s t : DeamonStartSys} {a : DeamonStartOp} (h : s.step a = some t) :
    Starts s a t := by
  cases a with
  | ensure k =>
    simp only [DeamonStartSys.step, Option.ite_none_right_eq_some, Option.some.injEq] at h
    obtain ⟨hk, rfl⟩ := h
    exact .ensure k hk
  | addFileDescriptor k fd =>
    simp only [DeamonStartSys.step, Option.ite_none_right_eq_some, Option.some.injEq] at h
    obtain ⟨hk, rfl⟩ := h
    exact .go _ k _ (.control (by rw [hk]; rfl) (by rw [hk]; simp) (Or.inl ⟨fd, fun _ => rfl⟩))
  | removeFileDescriptor k fd =>
    simp only [DeamonStartSys.step, Option.ite_none_right_eq_some, Option.some.injEq] at h
    obtain ⟨hk, rfl⟩ := h
    exact .go _ k _ (.control (by rw [hk]; rfl) (by rw [hk]; simp) (Or.inr ⟨fd, fun _ => rfl⟩))
  | move k ok => exact moveCall_cases rfl h
  | epollWait =>
    simp only [DeamonStartSys.step] at h
    split at h
    · rename_i e hd he
      cases h
      exact .epollWait e hd he
    · cases h
  | reported fd =>
    simp only [DeamonStartSys.step] at h
    split at h
    · rename_i e hd
      simp only [Option.ite_none_right_eq_some, Option.some.injEq] at h
      obtain ⟨hm, rfl⟩ := h
      exact .reported e fd hd hm
    · cases h
  | awakened a =>
    simp only [DeamonStartSys.step] at h
    split at h
    · rename_i e hd
      simp only [Option.ite_none_right_eq_some, Option.some.injEq] at h
      obtain ⟨⟨hm, hw⟩, rfl⟩ := h
      exact .awakened e a hd hm hw
    · cases h
  | interrupt =>
    simp only [DeamonStartSys.step] at h
    split at h
    · rename_i e hd
      cases h
      exact .interrupt e hd
    · cases h
  | notify => cases h; exact .notify

/-! ## The ledger -/

/-- Each descriptor opened is settled or in the hands of one call, and in one place only. -/
structure FdLedger (s : DeamonStartSys) : Prop where
  settled : s.settled.Nodup
  below : ∀ n ∈ s.settled, n < s.opened
  nodup : ∀ k, (s.calls k).held.Nodup
  held : ∀ k, ∀ n ∈ (s.calls k).held, n < s.opened ∧ n ∉ s.settled
  one : ∀ j k n, n ∈ (s.calls j).held → n ∈ (s.calls k).held → j = k
  all : ∀ n, n < s.opened → n ∈ s.settled ∨ ∃ k, n ∈ (s.calls k).held

@[simp] theorem setCall_calls (s : DeamonStartSys) (k j : Nat) (pc : InitPc) :
    (s.setCall k pc).calls j = if j = k then pc else s.calls j :=
  Function.update_apply s.calls k pc j

theorem FdLedger.same {s t : DeamonStartSys} (h : FdLedger s)
    (hheld : ∀ j, (t.calls j).held = (s.calls j).held) (hset : t.settled = s.settled)
    (ho : t.opened = s.opened) : FdLedger t := by
  constructor
  · rw [hset]
    exact h.settled
  · rw [hset, ho]
    exact h.below
  · intro k
    rw [hheld]
    exact h.nodup k
  · intro k
    rw [hheld, hset, ho]
    exact h.held k
  · intro j k n
    rw [hheld, hheld]
    exact h.one j k n
  · intro n
    simp only [hheld, hset, ho]
    exact h.all n

theorem FdLedger.opens {s t : DeamonStartSys} {k : Nat} (h : FdLedger s)
    (hk : (t.calls k).held = (s.calls k).held ++ [s.opened])
    (hj : ∀ j, j ≠ k → t.calls j = s.calls j) (hset : t.settled = s.settled)
    (ho : t.opened = s.opened + 1) : FdLedger t := by
  have hmem : ∀ j n, n ∈ (t.calls j).held ↔ n ∈ (s.calls j).held ∨ (j = k ∧ n = s.opened) := by
    intro j n
    by_cases hjk : j = k
    · subst hjk
      simp [hk]
    · simp [hj j hjk, hjk]
  have hfresh : ∀ j, s.opened ∉ (s.calls j).held := by
    intro j hm
    have := (h.held j _ hm).1
    omega
  constructor
  · rw [hset]
    exact h.settled
  · intro n hn
    rw [hset] at hn
    have := h.below n hn
    omega
  · intro j
    by_cases hjk : j = k
    · subst hjk
      rw [hk, List.nodup_append]
      refine ⟨h.nodup j, List.nodup_singleton _, fun a ha b hb => ?_⟩
      rintro rfl
      rw [List.mem_singleton.1 hb] at ha
      exact hfresh j ha
    · rw [hj j hjk]
      exact h.nodup j
  · intro j n hn
    rw [hset, ho]
    rcases (hmem j n).1 hn with hn | ⟨-, rfl⟩
    · obtain ⟨hlt, hfree⟩ := h.held j n hn
      exact ⟨by omega, hfree⟩
    · refine ⟨by omega, fun hs => ?_⟩
      have := h.below _ hs
      omega
  · intro i j n hi hj'
    rcases (hmem i n).1 hi with hi | ⟨rfl, rfl⟩
    · rcases (hmem j n).1 hj' with hj' | ⟨rfl, rfl⟩
      · exact h.one i j n hi hj'
      · exact absurd hi (hfresh i)
    · rcases (hmem j s.opened).1 hj' with hj' | ⟨rfl, -⟩
      · exact absurd hj' (hfresh j)
      · rfl
  · intro n hn
    rw [hset]
    rcases Nat.lt_or_ge n s.opened with hlt | hge
    · rcases h.all n hlt with hs | ⟨j, hj'⟩
      · exact Or.inl hs
      · exact Or.inr ⟨j, (hmem j n).2 (Or.inl hj')⟩
    · exact Or.inr ⟨k, (hmem k n).2 (Or.inr ⟨rfl, by omega⟩)⟩

/-- The call `k` gives the first of its descriptors away. -/
theorem FdLedger.settles {s t : DeamonStartSys} {k n : Nat} (h : FdLedger s)
    (hk : (s.calls k).held = n :: (t.calls k).held) (hj : ∀ j, j ≠ k → t.calls j = s.calls j)
    (hset : t.settled.Perm (n :: s.settled)) (ho : t.opened = s.opened) : FdLedger t := by
  have hmem : ∀ j m, m ∈ (t.calls j).held → m ∈ (s.calls j).held ∧ m ≠ n := by
    intro j m hm
    by_cases hjk : j = k
    · subst hjk
      have hnd := h.nodup j
      rw [hk] at hnd ⊢
      refine ⟨List.mem_cons_of_mem _ hm, ?_⟩
      rintro rfl
      exact (List.nodup_cons.1 hnd).1 hm
    · rw [hj j hjk] at hm
      refine ⟨hm, ?_⟩
      rintro rfl
      exact hjk (h.one j k m hm (hk ▸ List.mem_cons_self))
  obtain ⟨hlt, hfree⟩ := h.held k n (hk ▸ List.mem_cons_self)
  constructor
  · exact hset.nodup_iff.2 (List.nodup_cons.2 ⟨hfree, h.settled⟩)
  · intro m hm
    rw [ho]
    rcases List.mem_cons.1 (hset.mem_iff.1 hm) with rfl | hm
    · exact hlt
    · exact h.below m hm
  · intro j
    by_cases hjk : j = k
    · subst hjk
      have hnd := h.nodup j
      rw [hk] at hnd
      exact (List.nodup_cons.1 hnd).2
    · rw [hj j hjk]
      exact h.nodup j
  · intro j m hm
    obtain ⟨hm, hne⟩ := hmem j m hm
    obtain ⟨hlt', hfree'⟩ := h.held j m hm
    refine ⟨by omega, fun hs => ?_⟩
    rcases List.mem_cons.1 (hset.mem_iff.1 hs) with rfl | hs
    · exact hne rfl
    · exact hfree' hs
  · exact fun i j m hi hj' => h.one i j m (hmem i m hi).1 (hmem j m hj').1
  · intro m hm
    rw [ho] at hm
    by_cases hmn : m = n
    · exact Or.inl (hset.mem_iff.2 (List.mem_cons.2 (Or.inl hmn)))
    rcases h.all m hm with hs | ⟨j, hj'⟩
    · exact Or.inl (hset.mem_iff.2 (List.mem_cons_of_mem _ hs))
    · by_cases hjk : j = k
      · subst hjk
        rw [hk] at hj'
        exact Or.inr ⟨j, (List.mem_cons.1 hj').resolve_left hmn⟩
      · exact Or.inr ⟨j, by rw [hj j hjk]; exact hj'⟩

theorem fdLedger_step {s t : DeamonStartSys} {a : DeamonStartOp} (h : FdLedger s)
    (hst : s.step a = some t) : FdLedger t := by
  have keeps : ∀ {x : DeamonStartSys} {k : Nat} {pc : InitPc}, x.calls = Function.update s.calls k pc →
      pc.held = (s.calls k).held → ∀ j, (x.calls j).held = (s.calls j).held := by
    intro x k pc hx hpc j
    rw [hx, Function.update_apply]
    split
    · rename_i hj
      rw [hpc, hj]
    · rfl
  have other : ∀ {x : DeamonStartSys} {k : Nat} {pc : InitPc}, x.calls = Function.update s.calls k pc →
      ∀ j, j ≠ k → x.calls j = s.calls j := by
    intro x k pc hx j hj
    rw [hx, Function.update_of_ne hj]
  cases starts_of_step hst with
  | ensure k hk => exact h.same (keeps (k := k) rfl (by rw [hk]; rfl)) rfl rfl
  | go _ k pc' hg => exact h.same (keeps rfl hg.held) rfl rfl
  | openEpoll k hk =>
    refine h.opens (k := k) ?_ (other rfl) rfl rfl
    simp [hk, InitPc.held]
  | openAwaken k e hk =>
    refine h.opens (k := k) ?_ (other rfl) rfl rfl
    simp [hk, InitPc.held]
  | addAwaken k e a hk => exact h.same (keeps rfl (by rw [hk]; rfl)) rfl rfl
  | storeEpoll k e a ok hk =>
    refine h.settles (k := k) (n := e) ?_ (other rfl) ?_ rfl
    · simp [hk, InitPc.held]
    · simp only [DeamonStartSys.settled, DeamonStartSys.lost, DeamonStartSys.setCall,
        Option.toList_some, List.singleton_append]
      refine .cons e ?_
      have := List.perm_append_comm_assoc (s.awakenFd.toList ++ s.closed) s.epollFd.toList s.lost
      simpa only [DeamonStartSys.lost, List.append_assoc] using this
  | storeAwaken k a ok hk =>
    refine h.settles (k := k) (n := a) ?_ (other rfl) ?_ rfl
    · simp [hk, InitPc.held]
    · simp only [DeamonStartSys.settled, DeamonStartSys.lost, DeamonStartSys.setCall,
        Option.toList_some, List.singleton_append]
      refine List.perm_middle.trans (.cons a (.append_left _ ?_))
      have := List.perm_append_comm_assoc (s.closed ++ s.lostEpoll) s.awakenFd.toList s.lostAwaken
      simpa only [List.append_assoc] using this
  | close k fd fds ok hk =>
    refine h.settles (k := k) (n := fd) ?_ (other rfl) ?_ rfl
    · simp [hk, InitPc.held]
    · have := @List.perm_middle _ fd (s.epollFd.toList ++ s.awakenFd.toList) (s.closed ++ s.lost)
      simpa only [DeamonStartSys.settled, DeamonStartSys.lost, DeamonStartSys.setCall,
        List.append_assoc, List.cons_append] using this
  | exchange k ok hk =>
    refine h.same (keeps (k := k) rfl ?_) rfl rfl
    rw [hk]
    split <;> rfl
  | spawn k ok hk => exact h.same (keeps (k := k) rfl (by rw [hk]; rfl)) rfl rfl
  | add k e fd hk => exact h.same (keeps (k := k) rfl (by rw [hk]; rfl)) rfl rfl
  | remove k e fd hk => exact h.same (keeps (k := k) rfl (by rw [hk]; rfl)) rfl rfl
  | epollWait | reported | awakened | interrupt | notify => exact h.same (fun _ => rfl) rfl rfl

theorem fdLedger_run {s : DeamonStartSys} (h : deamonStartSystem.Reachable System.always s) :
    FdLedger s := by
  refine System.Reachable.invariant ?_ (fun s a _ hi _ hst => fdLedger_step (s := s) (a := a) hi hst) h
  exact ⟨List.nodup_nil, (fun _ hn => by cases hn), fun _ => List.nodup_nil,
    (fun _ _ hn => by cases hn), (fun _ _ _ hn => by cases hn),
    fun _ hn => absurd hn (Nat.not_lt_zero _)⟩

/-! ## One thread -/

/-- Behind the store to `epollFd_`, or where one was seen. -/
def InitPc.pastStore : InitPc → Bool
  | .storingAwaken _ => true
  | .starting => true
  | _ => false

/-- `running_` lets one call start the thread, behind a store to `epollFd_`. -/
structure Started (s : DeamonStartSys) : Prop where
  one : ∀ j k, s.calls j = .spawning → s.calls k = .spawning → j = k
  spawning : ∀ k, s.calls k = .spawning → s.running = true ∧ s.threads = 0
  idle : s.running = false → s.threads = 0
  running : s.running = true → s.threads = 1 ∨ ∃ k, s.calls k = .spawning
  few : s.threads ≤ 1
  known : (s.running = true ∨ ∃ k, (s.calls k).pastStore = true) → s.epollFd.isSome = true
  alive : s.deamon = .none ↔ s.threads = 0

theorem Started.same {s t : DeamonStartSys} (h : Started s) (hr : t.running = s.running)
    (hth : t.threads = s.threads) (hd : t.deamon = .none ↔ s.deamon = .none)
    (he : s.epollFd.isSome = true → t.epollFd.isSome = true)
    (hcalls : ∀ k, t.calls k = .spawning ↔ s.calls k = .spawning)
    (hstart : ∀ k, (t.calls k).pastStore = true → t.epollFd.isSome = true) : Started t := by
  constructor
  · intro j k hj hk
    exact h.one j k ((hcalls j).1 hj) ((hcalls k).1 hk)
  · intro k hk
    rw [hr, hth]
    exact h.spawning k ((hcalls k).1 hk)
  · rw [hr, hth]
    exact h.idle
  · rw [hr, hth]
    exact fun hrun => (h.running hrun).imp id fun ⟨k, hk⟩ => ⟨k, (hcalls k).2 hk⟩
  · rw [hth]
    exact h.few
  · rintro (hrun | ⟨k, hk⟩)
    · exact he (h.known (Or.inl (hr ▸ hrun)))
    · exact hstart k hk
  · rw [hd, hth]
    exact h.alive

theorem started_step {s t : DeamonStartSys} {a : DeamonStartOp} (h : Started s)
    (hst : s.step a = some t) : Started t := by
  -- a caller that does not come from or get to the construction of the thread
  have moves : ∀ {x : DeamonStartSys} {k : Nat} {pc : InitPc},
      x.calls = Function.update s.calls k pc → s.calls k ≠ .spawning → pc ≠ .spawning →
      ∀ j, x.calls j = .spawning ↔ s.calls j = .spawning := by
    intro x k pc hx hk hpc j
    rw [hx, Function.update_apply]
    split
    · rename_i hj
      rw [hj]
      exact iff_of_false hpc hk
    · rfl
  have starts : ∀ {x : DeamonStartSys} {k : Nat} {pc : InitPc},
      x.calls = Function.update s.calls k pc →
      (s.epollFd.isSome = true → x.epollFd.isSome = true) →
      (pc.pastStore = true → x.epollFd.isSome = true) →
      ∀ j, (x.calls j).pastStore = true → x.epollFd.isSome = true := by
    intro x k pc hx he hpc j hj
    rw [hx, Function.update_apply] at hj
    split at hj
    · exact hpc hj
    · exact he (h.known (Or.inr ⟨j, hj⟩))
  have hpast : ∀ k, (s.calls k).pastStore = true → s.epollFd.isSome = true :=
    fun k hk => h.known (Or.inr ⟨k, hk⟩)
  cases starts_of_step hst with
  | ensure k hk =>
    exact h.same rfl rfl Iff.rfl id (moves (k := k) rfl (by simp [hk]) (by simp))
      (starts (k := k) rfl id (by simp [InitPc.pastStore]))
  | go _ k pc' hg =>
    have harr := hg.arrives
    refine h.same rfl rfl Iff.rfl id (moves rfl hg.leaves.1 ?_) (starts rfl id fun hp => ?_)
    · rintro rfl
      exact harr
    · cases pc' with
      | starting => exact harr.elim (fun hr => h.known (Or.inl hr)) id
      | storingAwaken a => exact harr.elim
      | _ => cases hp
  | openEpoll k hk =>
    exact h.same rfl rfl Iff.rfl id (moves (k := k) rfl (by simp [hk]) (by simp))
      (starts (k := k) rfl id (by simp [InitPc.pastStore]))
  | openAwaken k e hk =>
    exact h.same rfl rfl Iff.rfl id (moves (k := k) rfl (by simp [hk]) (by simp))
      (starts (k := k) rfl id (by simp [InitPc.pastStore]))
  | addAwaken k e a hk =>
    exact h.same rfl rfl Iff.rfl id (moves (k := k) rfl (by simp [hk]) (by simp))
      (starts (k := k) rfl id (by simp [InitPc.pastStore]))
  | storeEpoll k e a ok hk =>
    exact h.same rfl rfl Iff.rfl (fun _ => rfl) (moves (k := k) rfl (by simp [hk]) (by simp))
      (fun _ _ => rfl)
  | storeAwaken k a ok hk =>
    exact h.same rfl rfl Iff.rfl id (moves (k := k) rfl (by simp [hk]) (by simp))
      (starts (k := k) rfl id fun _ => h.known (Or.inr ⟨k, by rw [hk]; rfl⟩))
  | close k fd fds ok hk =>
    exact h.same rfl rfl Iff.rfl id (moves (k := k) rfl (by simp [hk]) (by simp))
      (starts (k := k) rfl id (by simp [InitPc.pastStore]))
  | exchange k ok hk =>
    have hknown : s.epollFd.isSome = true := h.known (Or.inr ⟨k, by rw [hk]; rfl⟩)
    cases hr : s.running with
    | true =>
      exact h.same hr.symm rfl Iff.rfl id (moves (k := k) rfl (by simp [hk]) (by simp))
        (starts (k := k) rfl id fun _ => hknown)
    | false =>
      have hnone : ∀ j, s.calls j ≠ .spawning := by
        intro j hj
        rw [(h.spawning j hj).1] at hr
        cases hr
      have honly : ∀ j, (Function.update s.calls k InitPc.spawning) j = .spawning → j = k := by
        intro j hj
        by_contra hjk
        rw [Function.update_of_ne hjk] at hj
        exact hnone j hj
      constructor
      · exact fun i j hi hj => (honly i hi).trans (honly j hj).symm
      · exact fun _ _ => ⟨rfl, h.idle hr⟩
      · exact fun hf => by cases hf
      · exact fun _ => Or.inr ⟨k, Function.update_self k _ _⟩
      · exact h.few
      · exact fun _ => hknown
      · exact h.alive
  | spawn k ok hk =>
    obtain ⟨hr, hth⟩ := h.spawning k hk
    have hknown : s.epollFd.isSome = true := h.known (Or.inl hr)
    have hnone : ∀ j, (Function.update s.calls k InitPc.outside) j ≠ .spawning := by
      intro j hj
      by_cases hjk : j = k
      · rw [hjk, Function.update_self] at hj
        cases hj
      · rw [Function.update_of_ne hjk] at hj
        exact hjk (h.one j k hj hk)
    constructor
    · exact fun j _ hj => absurd hj (hnone j)
    · exact fun j hj => absurd hj (hnone j)
    · exact fun hf => by rw [show s.running = false from hf] at hr; cases hr
    · exact fun _ => Or.inl (by show s.threads + 1 = 1; omega)
    · show s.threads + 1 ≤ 1
      omega
    · exact fun _ => hknown
    · show (if s.epollFd.isSome then DeamonThread.looping else .none) = .none ↔ s.threads + 1 = 0
      rw [if_pos hknown]
      simp
  | add k e fd hk =>
    exact h.same rfl rfl Iff.rfl id (moves (k := k) rfl (by simp [hk]) (by simp))
      (starts (k := k) rfl id (by simp [InitPc.pastStore]))
  | remove k e fd hk =>
    exact h.same rfl rfl Iff.rfl id (moves (k := k) rfl (by simp [hk]) (by simp))
      (starts (k := k) rfl id (by simp [InitPc.pastStore]))
  | epollWait e hd he =>
    exact h.same rfl rfl (by simp [hd]) id (fun _ => Iff.rfl) hpast
  | reported e fd hd hm =>
    exact h.same rfl rfl (by simp [hd]) id (fun _ => Iff.rfl) hpast
  | awakened e a hd hm hw =>
    exact h.same rfl rfl (by simp [hd]) id (fun _ => Iff.rfl) hpast
  | interrupt e hd =>
    exact h.same rfl rfl (by simp [hd]) id (fun _ => Iff.rfl) hpast
  | notify => exact h.same rfl rfl Iff.rfl id (fun _ => Iff.rfl) hpast

theorem started_run {s : DeamonStartSys} (h : deamonStartSystem.Reachable System.always s) :
    Started s := by
  refine System.Reachable.invariant ?_ (fun s a _ hi _ hst => started_step (s := s) (a := a) hi hst) h
  refine ⟨(fun j k hj => by cases hj), (fun k hk => by cases hk), fun _ => rfl,
    (fun hr => by cases hr), Nat.zero_le 1, ?_, iff_of_true rfl rfl⟩
  rintro (hr | ⟨k, hk⟩)
  · cases hr
  · cases hk

/-! ## With nothing lost -/

/-- What `AddFileDescriptor` and the thread of `EpollWaitFor` use is the one epoll set. -/
structure ServesAccepted (s : DeamonStartSys) : Prop where
  adding : ∀ k e fd, s.calls k = .adding e fd → s.epollFd = some e
  removing : ∀ k e fd, s.calls k = .removing e fd → s.epollFd = some e
  accepted : ∀ fd ∈ s.accepted, ∃ e, s.epollFd = some e ∧ .listener fd ∈ s.interest e
  waits : ∀ e, s.deamon = .waiting e → s.epollFd = some e

theorem lost_step {s t : DeamonStartSys} {a : DeamonStartOp} (hst : s.step a = some t)
    (ht : t.lost = []) : s.lost = [] := by
  cases starts_of_step hst with
  | storeEpoll k e a ok hk =>
    simp only [DeamonStartSys.lost, DeamonStartSys.setCall, List.append_eq_nil_iff] at ht ⊢
    exact ⟨ht.1.2, ht.2⟩
  | storeAwaken k a ok hk =>
    simp only [DeamonStartSys.lost, DeamonStartSys.setCall, List.append_eq_nil_iff] at ht ⊢
    exact ⟨ht.1, ht.2.2⟩
  | _ => exact ht

theorem ServesAccepted.same {s t : DeamonStartSys} {k : Nat} {c : InitPc} (h : ServesAccepted s)
    (hcalls : t.calls = Function.update s.calls k c) (he : t.epollFd = s.epollFd)
    (hd : t.deamon = s.deamon)
    (hacc : ∀ fd ∈ t.accepted, ∃ e, s.epollFd = some e ∧ .listener fd ∈ t.interest e)
    (hpc : ∀ e fd, c = .adding e fd ∨ c = .removing e fd → s.epollFd = some e) : ServesAccepted t := by
  constructor
  · intro j e fd hj
    rw [hcalls, Function.update_apply] at hj
    rw [he]
    split at hj
    · exact hpc e fd (Or.inl hj)
    · exact h.adding j e fd hj
  · intro j e fd hj
    rw [hcalls, Function.update_apply] at hj
    rw [he]
    split at hj
    · exact hpc e fd (Or.inr hj)
    · exact h.removing j e fd hj
  · rw [he]
    exact hacc
  · rw [he, hd]
    exact h.waits

theorem serves_step {s t : DeamonStartSys} {a : DeamonStartOp} (h : ServesAccepted s)
    (hst : s.step a = some t) (ht : t.lost = []) : ServesAccepted t := by
  cases starts_of_step hst with
  | ensure k hk => exact h.same (k := k) rfl rfl rfl h.accepted (by simp)
  | go _ k pc' hg =>
    have harr := hg.arrives
    refine h.same rfl rfl rfl h.accepted ?_
    rintro e fd (rfl | rfl)
    · exact harr
    · exact harr
  | openEpoll k hk => exact h.same (k := k) rfl rfl rfl h.accepted (by simp)
  | openAwaken k e hk => exact h.same (k := k) rfl rfl rfl h.accepted (by simp)
  | addAwaken k e a hk =>
    refine h.same (k := k) (c := .storing e a) rfl rfl rfl (fun fd hfd => ?_) (by simp)
    obtain ⟨e', he', hm⟩ := h.accepted fd hfd
    refine ⟨e', he', ?_⟩
    show _ ∈ Function.update s.interest e _ e'
    rw [Function.update_apply]
    split
    · rename_i heq
      exact List.mem_cons_of_mem _ (heq ▸ hm)
    · exact hm
  | storeEpoll k e a ok hk =>
    -- it is the first store, and before it nothing is accepted
    have hnone : s.epollFd = none := by
      simp only [DeamonStartSys.lost, DeamonStartSys.setCall, List.append_eq_nil_iff,
        Option.toList_eq_nil_iff] at ht
      exact ht.1.1
    constructor
    · intro j e' fd hj
      rw [show _ = _ from setCall_calls s k j _] at hj
      split at hj
      · cases hj
      · have := h.adding j e' fd hj
        rw [hnone] at this
        cases this
    · intro j e' fd hj
      rw [show _ = _ from setCall_calls s k j _] at hj
      split at hj
      · cases hj
      · have := h.removing j e' fd hj
        rw [hnone] at this
        cases this
    · intro fd hfd
      obtain ⟨e', he', -⟩ := h.accepted fd hfd
      rw [hnone] at he'
      cases he'
    · intro e' hd
      have := h.waits e' hd
      rw [hnone] at this
      cases this
  | storeAwaken k a ok hk => exact h.same (k := k) rfl rfl rfl h.accepted (by simp)
  | close k fd fds ok hk => exact h.same (k := k) rfl rfl rfl h.accepted (by simp)
  | exchange k ok hk =>
    refine h.same (k := k) rfl rfl rfl h.accepted ?_
    split <;> simp
  | spawn k ok hk =>
    have hs := h.same (k := k) (c := .outside) (t := s.setCall k .outside) rfl rfl rfl h.accepted
      (by simp)
    refine ⟨hs.adding, hs.removing, hs.accepted, fun e hd => ?_⟩
    simp only at hd
    split at hd <;> cases hd
  | add k e fd hk =>
    have he := h.adding k e fd hk
    refine h.same (k := k) (c := .outside) rfl rfl rfl (fun fd' hfd => ⟨e, he, ?_⟩) (by simp)
    show _ ∈ Function.update s.interest e _ e
    rw [Function.update_self]
    rcases List.mem_cons.1 hfd with rfl | hfd
    · exact List.mem_cons_self
    · obtain ⟨e', he', hm⟩ := h.accepted fd' hfd
      cases he.symm.trans he'
      exact List.mem_cons_of_mem _ hm
  | remove k e fd hk =>
    have he := h.removing k e fd hk
    refine h.same (k := k) (c := .outside) rfl rfl rfl (fun fd' hfd => ⟨e, he, ?_⟩) (by simp)
    obtain ⟨hfd, hne⟩ := List.mem_filter.1 hfd
    obtain ⟨e', he', hm⟩ := h.accepted fd' hfd
    cases he.symm.trans he'
    show _ ∈ Function.update s.interest e _ e
    rw [Function.update_self, List.mem_filter]
    simp only [ne_eq, decide_eq_true_eq] at hne
    exact ⟨hm, by simpa using hne⟩
  | epollWait e hd he =>
    exact ⟨h.adding, h.removing, h.accepted, fun e' hd' => by cases hd'; exact he⟩
  | reported e fd hd hm =>
    exact ⟨h.adding, h.removing, h.accepted, fun e' hd' => by cases hd'⟩
  | awakened e a hd hm hw =>
    exact ⟨h.adding, h.removing, h.accepted, fun e' hd' => by cases hd'⟩
  | interrupt e hd => exact ⟨h.adding, h.removing, h.accepted, fun e' hd' => by cases hd'⟩
  | notify => exact ⟨h.adding, h.removing, h.accepted, h.waits⟩

theorem serves_run {s : DeamonStartSys} (h : deamonStartSystem.Reachable System.always s)
    (hl : s.lost = []) : ServesAccepted s := by
  refine System.Reachable.invariant (I := fun s => s.lost = [] → ServesAccepted s) ?_
    (fun s a t hi _ hst ht => serves_step (hi (lost_step hst ht)) hst ht) h hl
  exact fun _ => ⟨(fun _ _ _ hk => by cases hk), (fun _ _ _ hk => by cases hk),
    (fun _ hfd => by cases hfd), fun _ hd => by cases hd⟩

/-! ## The first store -/

def InitPc.stores : InitPc → Bool
  | .storing _ _ => true
  | _ => false

/-- A call stores only if `epollFd_` is not set. -/
def FirstStore (s : DeamonStartSys) : DeamonStartOp → Prop
  | .move k _ => (s.calls k).stores = true → s.epollFd = none
  | _ => True

instance (s : DeamonStartSys) (a : DeamonStartOp) : Decidable (FirstStore s a) := by
  cases a <;> unfold FirstStore <;> infer_instance

/-- `Init` is called only while no other call of it goes on. -/
def InitAlone (s : DeamonStartSys) : DeamonStartOp → Prop
  | .ensure _ => ∀ j, (s.calls j).inInit = false
  | _ => True

/-- One call at most has stored the epoll descriptor, and it is the one that stores the other. -/
structure StoredOnce (s : DeamonStartSys) : Prop where
  lost : s.lost = []
  awaken : s.epollFd = none → s.awakenFd = none
  storing : ∀ k a, s.calls k = .storingAwaken a → s.epollFd.isSome = true ∧ s.awakenFd = none
  one : ∀ j k a b, s.calls j = .storingAwaken a → s.calls k = .storingAwaken b → j = k

theorem StoredOnce.same {s t : DeamonStartSys} (h : StoredOnce s) (he : t.epollFd = s.epollFd)
    (ha : t.awakenFd = s.awakenFd) (hl : t.lost = s.lost)
    (hcalls : ∀ k a, t.calls k = .storingAwaken a → s.calls k = .storingAwaken a) :
    StoredOnce t := by
  constructor
  · exact hl.trans h.lost
  · rw [he, ha]
    exact h.awaken
  · intro k a hk
    rw [he, ha]
    exact h.storing k a (hcalls k a hk)
  · exact fun j k a b hj hk => h.one j k a b (hcalls j a hj) (hcalls k b hk)

theorem storedOnce_step {s t : DeamonStartSys} {a : DeamonStartOp} (h : StoredOnce s)
    (hok : FirstStore s a) (hst : s.step a = some t) : StoredOnce t := by
  have moves : ∀ {x : DeamonStartSys} {k : Nat} {pc : InitPc},
      x.calls = Function.update s.calls k pc → (∀ a, pc ≠ .storingAwaken a) →
      ∀ j a, x.calls j = .storingAwaken a → j ≠ k ∧ s.calls j = .storingAwaken a := by
    intro x k pc hx hpc j a hj
    rw [hx, Function.update_apply] at hj
    split at hj
    · exact absurd hj (hpc a)
    · rename_i hne
      exact ⟨hne, hj⟩
  have keeps : ∀ {x : DeamonStartSys} {k : Nat} {pc : InitPc},
      x.calls = Function.update s.calls k pc → (∀ a, pc ≠ .storingAwaken a) →
      ∀ j a, x.calls j = .storingAwaken a → s.calls j = .storingAwaken a :=
    fun hx hpc j a hj => (moves hx hpc j a hj).2
  cases starts_of_step hst with
  | ensure k hk => exact h.same rfl rfl rfl (keeps (k := k) rfl (by simp))
  | go _ k pc' hg =>
    refine h.same rfl rfl rfl (keeps rfl ?_)
    rintro a rfl
    exact hg.arrives
  | storeEpoll k e a ok hk =>
    have hnone : s.epollFd = none := hok (by rw [hk]; rfl)
    have hno : ∀ j b, s.calls j ≠ .storingAwaken b := by
      intro j b hj
      have := (h.storing j b hj).1
      rw [hnone] at this
      cases this
    have honly : ∀ j b, (Function.update s.calls k (.storingAwaken a)) j = .storingAwaken b →
        j = k := by
      intro j b hj
      by_contra hjk
      rw [Function.update_of_ne hjk] at hj
      exact hno j b hj
    constructor
    · have := h.lost
      simpa only [DeamonStartSys.lost, DeamonStartSys.setCall, hnone, Option.toList_none,
        List.nil_append] using this
    · exact fun he => by cases he
    · exact fun j b hj => ⟨rfl, h.awaken hnone⟩
    · exact fun i j b c hi hj => (honly i b hi).trans (honly j c hj).symm
  | storeAwaken k a ok hk =>
    obtain ⟨hsome, hnone⟩ := h.storing k a hk
    -- nobody else is about to store
    have hno : ∀ j b, (Function.update s.calls k InitPc.starting) j ≠ .storingAwaken b := by
      intro j b hj
      by_cases hjk : j = k
      · rw [hjk, Function.update_self] at hj
        cases hj
      · rw [Function.update_of_ne hjk] at hj
        exact hjk (h.one j k b a hj hk)
    constructor
    · have := h.lost
      simpa only [DeamonStartSys.lost, DeamonStartSys.setCall, hnone, Option.toList_none,
        List.nil_append] using this
    · intro he
      rw [show s.epollFd = none from he] at hsome
      cases hsome
    · exact fun j b hj => absurd hj (hno j b)
    · exact fun j _ b _ hj => absurd hj (hno j b)
  | exchange k ok hk =>
    refine h.same rfl rfl rfl (keeps (k := k) rfl ?_)
    split <;> simp
  | openEpoll k | openAwaken k | addAwaken k | close k | spawn k | add k | remove k =>
    exact h.same rfl rfl rfl (keeps (k := k) rfl (by simp))
  | _ => exact h.same rfl rfl rfl fun _ _ hk => hk

theorem storedOnce_run {s : DeamonStartSys} (h : deamonStartSystem.Reachable FirstStore s) :
    StoredOnce s := by
  refine System.Reachable.invariant ?_
    (fun s a _ hi hok hst => storedOnce_step (s := s) (a := a) hi hok hst) h
  exact ⟨rfl, fun _ => rfl, (fun _ _ hk => by cases hk), fun _ _ _ _ hj => by cases hj⟩

theorem run_lost {ok : DeamonStartSys → DeamonStartOp → Prop} {s t : DeamonStartSys}
    {as : List DeamonStartOp} (h : deamonStartSystem.Run ok s as t) (ht : t.lost = []) :
    s.lost = [] := by
  induction h with
  | nil => exact ht
  | cons _ hst _ ih => exact lost_step hst (ih ht)

theorem firstStore_of_lost {s t : DeamonStartSys} {as : List DeamonStartOp}
    (h : deamonStartSystem.Run System.always s as t) (ht : t.lost = []) :
    deamonStartSystem.Run FirstStore s as t := by
  induction h with
  | nil s => exact .nil s
  | @cons s u t a as _ hst hrest ih =>
    refine .cons ?_ hst (ih ht)
    have hu := run_lost hrest ht
    cases a with
    | move k ok =>
      intro hs
      cases hk : s.calls k with
      | storing e a =>
        have hst' : s.moveCall k ok (s.calls k) = some u := hst
        rw [hk] at hst'
        cases hst'
        simp only [DeamonStartSys.lost, DeamonStartSys.setCall, List.append_eq_nil_iff,
          Option.toList_eq_nil_iff] at hu
        exact hu.1.1
      | _ =>
        rw [hk] at hs
        cases hs
    | _ => trivial

/-! ## Calls that do not overlap -/

/-- Behind the test of `epollFd_` and before the store. -/
def InitPc.pastTest : InitPc → Bool
  | .creating => true
  | .creatingAwaken _ => true
  | .addingAwaken _ _ => true
  | .storing _ _ => true
  | _ => false

structure OneInit (s : DeamonStartSys) : Prop where
  one : ∀ j k, (s.calls j).inInit = true → (s.calls k).inInit = true → j = k
  fresh : ∀ k, (s.calls k).pastTest = true → s.epollFd = none

theorem OneInit.move {s t : DeamonStartSys} {k : Nat} {pc : InitPc} (h : OneInit s)
    (hcalls : t.calls = Function.update s.calls k pc) (he : t.epollFd = s.epollFd)
    (hin : pc.inInit = true → (s.calls k).inInit = true)
    (hpast : pc.pastTest = true → s.epollFd = none) : OneInit t := by
  have hinit : ∀ j, (t.calls j).inInit = true → (s.calls j).inInit = true := by
    intro j hj
    rw [hcalls, Function.update_apply] at hj
    split at hj
    · rename_i hjk
      exact hjk ▸ hin hj
    · exact hj
  constructor
  · exact fun i j hi hj => h.one i j (hinit i hi) (hinit j hj)
  · intro j hj
    rw [hcalls, Function.update_apply] at hj
    rw [he]
    split at hj
    · exact hpast hj
    · exact h.fresh j hj

theorem oneInit_step {s t : DeamonStartSys} {a : DeamonStartOp} (h : OneInit s)
    (hok : InitAlone s a) (hst : s.step a = some t) : OneInit t := by
  cases starts_of_step hst with
  | ensure k hk =>
    have honly : ∀ j, (Function.update s.calls k InitPc.testingRunning j).inInit = true →
        j = k := by
      intro j hj
      by_contra hjk
      rw [Function.update_of_ne hjk, hok j] at hj
      cases hj
    constructor
    · exact fun i j hi hj => (honly i hi).trans (honly j hj).symm
    · intro j hj
      rw [setCall_calls] at hj
      split at hj
      · cases hj
      · exact h.fresh j hj
  | go _ k pc' hg =>
    have harr := hg.arrives
    refine h.move rfl rfl hg.inInit fun hp => ?_
    cases pc' with
    | creating => exact harr
    | creatingAwaken => exact harr.elim
    | addingAwaken => exact harr.elim
    | storing => exact harr.elim
    | _ => cases hp
  | openEpoll k hk =>
    exact h.move (k := k) rfl rfl (by simp [hk, InitPc.inInit])
      fun _ => h.fresh k (by rw [hk]; rfl)
  | openAwaken k e hk =>
    exact h.move (k := k) rfl rfl (by simp [hk, InitPc.inInit])
      fun _ => h.fresh k (by rw [hk]; rfl)
  | addAwaken k e a hk =>
    exact h.move (k := k) rfl rfl (by simp [hk, InitPc.inInit])
      fun _ => h.fresh k (by rw [hk]; rfl)
  | storeEpoll k e a ok hk =>
    have hin : (s.calls k).inInit = true := by
      rw [hk]
      rfl
    have hkeep : ∀ j, ((Function.update s.calls k (.storingAwaken a)) j).inInit = true → j = k := by
      intro j hj
      by_contra hjk
      rw [Function.update_of_ne hjk] at hj
      exact hjk (h.one j k hj hin)
    constructor
    · exact fun i j hi hj => (hkeep i hi).trans (hkeep j hj).symm
    · intro j hj
      have hj' : ((Function.update s.calls k (.storingAwaken a)) j).pastTest = true := hj
      have hjk : j = k := by
        apply hkeep j
        generalize (Function.update s.calls k (.storingAwaken a)) j = pc at hj'
        cases pc with
        | creating | creatingAwaken | addingAwaken | storing => rfl
        | _ => cases hj'
      rw [hjk, Function.update_self] at hj'
      cases hj'
  | storeAwaken k a ok hk =>
    exact h.move (k := k) rfl rfl (by simp [InitPc.inInit]) (by simp [InitPc.pastTest])
  | close k fd fds ok hk =>
    exact h.move (k := k) rfl rfl (by simp [hk, InitPc.inInit]) (by simp [InitPc.pastTest])
  | exchange k ok hk =>
    refine h.move (k := k) rfl rfl ?_ ?_
    · split <;> simp [InitPc.inInit]
    · split <;> simp [InitPc.pastTest]
  | spawn k | add k | remove k =>
    exact h.move (k := k) rfl rfl (by simp [InitPc.inInit]) (by simp [InitPc.pastTest])
  | _ => exact ⟨h.one, h.fresh⟩

/-- If `Init` is called only while no other call of it goes on, no call stores over another. -/
theorem firstStore_of_alone {as : List DeamonStartOp} {s t : DeamonStartSys} (h : OneInit s)
    (hrun : deamonStartSystem.Run InitAlone s as t) : deamonStartSystem.Run FirstStore s as t := by
  refine hrun.exchange (fun s a h _ => ?_) (fun s a t h hok hst => oneInit_step h hok hst) h
  cases a with
  | move k ok =>
    intro hs
    apply h.fresh k
    generalize s.calls k = pc at hs
    cases pc with
    | storing => rfl
    | _ => cases hs
  | _ => trivial

/-- **The start of the deamon.** Any number of threads call `Init` and `StartEpollIoWaiter`, and any
    system call may fail.  Every descriptor opened is in one place, none is closed twice, and at most
    one thread is started.  A descriptor is lost exactly if a call stores over another one, which
    takes two calls at a time; with none lost, every descriptor that `AddFileDescriptor` has accepted
    is in the set that the thread waits on. -/
theorem init_loses_none_iff {s : DeamonStartSys} {as : List DeamonStartOp}
    (h : deamonStartSystem.Run System.always deamonStartSystem.init as s) :
    FdLedger s ∧ Started s ∧
      (s.lost = [] ↔ deamonStartSystem.Run FirstStore deamonStartSystem.init as s) ∧
      (deamonStartSystem.Run InitAlone deamonStartSystem.init as s → s.lost = []) ∧
      (s.lost = [] → ServesAccepted s) := by
  have honce : deamonStartSystem.Run FirstStore deamonStartSystem.init as s → s.lost = [] :=
    fun hrun => (storedOnce_run ⟨as, hrun⟩).lost
  have hinit : OneInit deamonStartSystem.init :=
    ⟨(fun _ _ hj => by cases hj), fun _ hk => by cases hk⟩
  refine ⟨fdLedger_run ⟨as, h⟩, started_run ⟨as, h⟩, ⟨firstStore_of_lost h, honce⟩,
    fun hrun => honce (firstStore_of_alone hinit hrun), serves_run ⟨as, h⟩⟩

/-- Two queues add their first descriptor at a time: each has its own epoll set, and the one stored
    first is lost with the descriptor in it. -/
def overlappingInits : List DeamonStartOp :=
  [.ensure 0, .ensure 1, .move 0 true, .move 0 true, .move 1 true, .move 1 true,
    .move 0 true, .move 0 true, .move 0 true, .move 1 true, .move 1 true, .move 1 true,
    .move 0 true, .move 0 true, .move 0 true, .move 0 true, .addFileDescriptor 0 7, .move 0 true,
    .epollWait, .move 1 true, .move 1 true, .move 1 true]

theorem init_loses_none_iff_overlapping : ∃ s : DeamonStartSys,
    deamonStartSystem.Run System.always deamonStartSystem.init overlappingInits s ∧
      s.lost = [0, 1] ∧ s.accepted = [7] ∧ s.epollFd = some 2 ∧ s.deamon = .waiting 0 ∧
      ¬ deamonStartSystem.Run FirstStore deamonStartSystem.init overlappingInits s := by
  obtain ⟨s, hs, hl, ha, he, hd⟩ := System.run_of_exec deamonStartSystem System.always
    (fun s => s.lost = [0, 1] ∧ s.accepted = [7] ∧ s.epollFd = some 2 ∧ s.deamon = .waiting 0)
    overlappingInits (by decide)
  refine ⟨s, hs, hl, ha, he, hd, fun hrun => ?_⟩
  have := (init_loses_none_iff hs).2.2.1.2 hrun
  rw [hl] at this
  cases this

/-! ## The write of `NotifyAll` -/

/-- The set `e` has the event descriptor `a`, and no other. -/
def DeamonStartSys.Wakes (s : DeamonStartSys) (e a : Nat) : Prop :=
  ∀ b, .awaken b ∈ s.interest e ↔ b = a

/-- Where the event descriptor of a stored set is: in the field, lost, or with the call that stored
    the set. -/
def DeamonStartSys.Kept (s : DeamonStartSys) (a : Nat) : Prop :=
  s.awakenFd = some a ∨ a ∈ s.lostAwaken ∨ ∃ k, s.calls k = .storingAwaken a

structure Paired (s : DeamonStartSys) : Prop where
  /-- A set that is not opened yet, or has no event descriptor yet. -/
  fresh : ∀ e, s.opened ≤ e → s.interest e = []
  empty : ∀ k e, s.calls k = .creatingAwaken e ∨ (∃ a, s.calls k = .addingAwaken e a) →
    s.interest e = []
  storing : ∀ k e a, s.calls k = .storing e a → s.Wakes e a
  stored : ∀ e ∈ s.stored, ∃ a, s.Wakes e a ∧ s.Kept a
  adding : ∀ k e fd, s.calls k = .adding e fd → e ∈ s.stored
  removing : ∀ k e fd, s.calls k = .removing e fd → e ∈ s.stored
  waits : ∀ e, s.deamon = .waiting e → e ∈ s.stored

theorem stored_settled {s : DeamonStartSys} {e : Nat} (h : e ∈ s.stored) : e ∈ s.settled := by
  simp only [DeamonStartSys.stored, DeamonStartSys.settled, DeamonStartSys.lost,
    List.mem_append] at h ⊢
  tauto

theorem stored_of_epollFd {s : DeamonStartSys} {e : Nat} (h : s.epollFd = some e) :
    e ∈ s.stored := by
  unfold DeamonStartSys.stored
  rw [h]
  exact List.mem_cons_self

theorem awaken_mem_update {f : Nat → List Watched} {e : Nat} {ws : List Watched}
    (h : ∀ b, .awaken b ∈ ws ↔ .awaken b ∈ f e) (e' b : Nat) :
    .awaken b ∈ Function.update f e ws e' ↔ .awaken b ∈ f e' := by
  rw [Function.update_apply]
  split
  · rename_i heq
    rw [heq]
    exact h b
  · rfl

theorem Paired.same {s t : DeamonStartSys} {k : Nat} {c : InitPc} (h : Paired s)
    (hcalls : t.calls = Function.update s.calls k c) (ho : t.opened = s.opened)
    (hint : ∀ e, (∀ b, .awaken b ∈ t.interest e ↔ .awaken b ∈ s.interest e) ∧
      (e ∉ s.stored → t.interest e = s.interest e))
    (hstored : t.stored = s.stored) (hkept : ∀ a, s.Kept a → t.Kept a)
    (hd : ∀ e, t.deamon = .waiting e → s.deamon = .waiting e)
    (hpc : c.held = [] ∨ c = .closing c.held)
    (hctl : ∀ e fd, c = .adding e fd ∨ c = .removing e fd → e ∈ s.stored)
    (hl : FdLedger s) : Paired t := by
  have hwakes : ∀ {e a}, s.Wakes e a → t.Wakes e a :=
    fun {e a} hw b => ((hint e).1 b).trans (hw b)
  have hheld : ∀ e, e ∈ s.stored → ∀ j, e ∉ (s.calls j).held :=
    fun e he j hm => (hl.held j e hm).2 (stored_settled he)
  constructor
  · intro e he
    rw [ho] at he
    rw [(hint e).2 fun hs => ?_, h.fresh e he]
    have := hl.below e (stored_settled hs)
    omega
  · intro j e hj
    have hj' : s.calls j = .creatingAwaken e ∨ ∃ a, s.calls j = .addingAwaken e a := by
      rw [hcalls, Function.update_apply] at hj
      split at hj
      · rcases hj with rfl | ⟨a, rfl⟩
        · rcases hpc with hp | hp <;> cases hp
        · rcases hpc with hp | hp <;> cases hp
      · exact hj
    rw [(hint e).2 fun hs => hheld e hs j ?_, h.empty j e hj']
    rcases hj' with hj' | ⟨a, hj'⟩ <;> rw [hj'] <;> exact List.mem_cons_self
  · intro j e a hj
    rw [hcalls, Function.update_apply] at hj
    split at hj
    · subst hj
      rcases hpc with hp | hp <;> cases hp
    · exact hwakes (h.storing j e a hj)
  · intro e he
    rw [hstored] at he
    obtain ⟨a, hw, hk⟩ := h.stored e he
    exact ⟨a, hwakes hw, hkept a hk⟩
  · intro j e fd hj
    rw [hcalls, Function.update_apply] at hj
    rw [hstored]
    split at hj
    · exact hctl e fd (Or.inl hj)
    · exact h.adding j e fd hj
  · intro j e fd hj
    rw [hcalls, Function.update_apply] at hj
    rw [hstored]
    split at hj
    · exact hctl e fd (Or.inr hj)
    · exact h.removing j e fd hj
  · intro e he
    rw [hstored]
    exact h.waits e (hd e he)

theorem kept_move {s t : DeamonStartSys} {k : Nat} {pc : InitPc}
    (hcalls : t.calls = Function.update s.calls k pc) (hk : ∀ a, s.calls k ≠ .storingAwaken a)
    (ha : t.awakenFd = s.awakenFd) (hl : t.lostAwaken = s.lostAwaken) (a : Nat) (h : s.Kept a) :
    t.Kept a := by
  unfold DeamonStartSys.Kept at h ⊢
  rw [ha, hl]
  refine h.imp id (Or.imp id ?_)
  rintro ⟨j, hj⟩
  refine ⟨j, ?_⟩
  rw [hcalls, Function.update_of_ne]
  · exact hj
  · rintro rfl
    exact hk a hj

theorem Paired.opens {s t : DeamonStartSys} {k : Nat} {pc : InitPc} (h : Paired s)
    (hcalls : t.calls = Function.update s.calls k pc) (ho : t.opened = s.opened + 1)
    (hint : t.interest = s.interest) (hstored : t.stored = s.stored)
    (hkept : ∀ a, s.Kept a → t.Kept a) (hd : t.deamon = s.deamon)
    (hpc : ∀ e, pc = .creatingAwaken e ∨ (∃ a, pc = .addingAwaken e a) → s.interest e = [])
    (hstoring : pc.stores = false) (hctl : ∀ e fd, pc ≠ .adding e fd ∧ pc ≠ .removing e fd) :
    Paired t := by
  have hwakes : ∀ {e a}, s.Wakes e a → t.Wakes e a := by
    intro e a hw b
    rw [hint]
    exact hw b
  constructor
  · intro e he
    rw [hint]
    exact h.fresh e (by omega)
  · intro j e hj
    rw [hcalls, Function.update_apply] at hj
    rw [hint]
    split at hj
    · exact hpc e hj
    · exact h.empty j e hj
  · intro j e a hj
    rw [hcalls, Function.update_apply] at hj
    split at hj
    · rw [hj] at hstoring
      cases hstoring
    · exact hwakes (h.storing j e a hj)
  · intro e he
    rw [hstored] at he
    obtain ⟨a, hw, hk⟩ := h.stored e he
    exact ⟨a, hwakes hw, hkept a hk⟩
  · intro j e fd hj
    rw [hcalls, Function.update_apply] at hj
    rw [hstored]
    split at hj
    · exact absurd hj (hctl e fd).1
    · exact h.adding j e fd hj
  · intro j e fd hj
    rw [hcalls, Function.update_apply] at hj
    rw [hstored]
    split at hj
    · exact absurd hj (hctl e fd).2
    · exact h.removing j e fd hj
  · rw [hd, hstored]
    exact h.waits

theorem Paired.addAwaken {s : DeamonStartSys} {k e a : Nat} (h : Paired s) (hl : FdLedger s)
    (hk : s.calls k = .addingAwaken e a) :
    Paired ((s.setInterest e (.awaken a :: s.interest e)).setCall k (.storing e a)) := by
  have hempty : s.interest e = [] := h.empty k e (Or.inr ⟨a, hk⟩)
  have hin : e ∈ (s.calls k).held := by
    rw [hk]
    exact List.mem_cons_self
  -- no other caller has the set, and it is not stored
  have hne : ∀ {j e'}, j ≠ k → e' ∈ (s.calls j).held → e' ≠ e := by
    rintro j e' hj hm rfl
    exact hj (hl.one j k e' hm hin)
  have hns : ∀ {e'}, e' ∈ s.stored → e' ≠ e := by
    rintro e' hm rfl
    exact (hl.held k e' hin).2 (stored_settled hm)
  have hold : ∀ {e'}, e' ≠ e →
      Function.update s.interest e (.awaken a :: s.interest e) e' = s.interest e' :=
    fun hne => Function.update_of_ne hne _ _
  have hwakes : ∀ {e' b}, e' ≠ e → s.Wakes e' b →
      ((s.setInterest e (.awaken a :: s.interest e)).setCall k (.storing e a)).Wakes e' b := by
    intro e' b hne hw c
    show Watched.awaken c ∈ Function.update s.interest e _ e' ↔ _
    rw [hold hne]
    exact hw c
  constructor
  · intro e' he'
    have hlt := (hl.held k e hin).1
    show Function.update s.interest e _ e' = []
    rw [hold (by rintro rfl; exact absurd he' (Nat.not_le.2 hlt))]
    exact h.fresh e' he'
  · intro j e' hj
    simp only [setCall_calls] at hj
    split at hj
    · rcases hj with hj | ⟨b, hj⟩ <;> cases hj
    · rename_i hjk
      have hm : e' ∈ (s.calls j).held := by
        rcases (show s.calls j = .creatingAwaken e' ∨ ∃ b, s.calls j = .addingAwaken e' b from hj)
          with hj | ⟨b, hj⟩
        · rw [hj]
          exact List.mem_cons_self
        · rw [hj]
          exact List.mem_cons_self
      show Function.update s.interest e _ e' = []
      rw [hold (hne hjk hm)]
      exact h.empty j e' hj
  · intro j e' b hj
    rw [setCall_calls] at hj
    split at hj
    · cases hj
      intro c
      show Watched.awaken c ∈ Function.update s.interest e _ e ↔ _
      rw [Function.update_self, hempty]
      simp
    · rename_i hjk
      have hj' : s.calls j = .storing e' b := hj
      exact hwakes (hne hjk (by rw [hj']; exact List.mem_cons_self)) (h.storing j e' b hj')
  · intro e' he'
    obtain ⟨b, hw, hkept⟩ := h.stored e' he'
    have hmove : ∀ c, s.Kept c → DeamonStartSys.Kept
        ((s.setInterest e (.awaken a :: s.interest e)).setCall k (.storing e a)) c :=
      kept_move (k := k) rfl (by simp [hk]) rfl rfl
    exact ⟨b, hwakes (hns he') hw, hmove b hkept⟩
  · intro j e' fd hj
    rw [setCall_calls] at hj
    split at hj
    · cases hj
    · exact h.adding j e' fd hj
  · intro j e' fd hj
    rw [setCall_calls] at hj
    split at hj
    · cases hj
    · exact h.removing j e' fd hj
  · exact h.waits

theorem Paired.storeEpoll {s : DeamonStartSys} {k e a : Nat} (h : Paired s)
    (hk : s.calls k = .storing e a) :
    Paired { s.setCall k (.storingAwaken a) with
      epollFd := some e
      lostEpoll := s.epollFd.toList ++ s.lostEpoll } := by
  have hcalls : ∀ j, Function.update s.calls k (.storingAwaken a) j =
      if j = k then .storingAwaken a else s.calls j := Function.update_apply s.calls k _
  have hmove : ∀ b, s.Kept b → DeamonStartSys.Kept { s.setCall k (.storingAwaken a) with
      epollFd := some e
      lostEpoll := s.epollFd.toList ++ s.lostEpoll } b :=
    kept_move (k := k) rfl (by simp [hk]) rfl rfl
  constructor
  · exact h.fresh
  · intro j e' hj
    simp only [DeamonStartSys.setCall, hcalls] at hj
    split at hj
    · rcases hj with hj | ⟨b, hj⟩ <;> cases hj
    · exact h.empty j e' hj
  · intro j e' b hj
    simp only [DeamonStartSys.setCall, hcalls] at hj
    split at hj
    · cases hj
    · exact h.storing j e' b hj
  · intro e' he'
    rcases List.mem_cons.1 he' with rfl | he'
    · refine ⟨a, h.storing k e' a hk, Or.inr (Or.inr ⟨k, ?_⟩)⟩
      exact Function.update_self k _ _
    · obtain ⟨b, hw, hkept⟩ := h.stored e' he'
      exact ⟨b, hw, hmove b hkept⟩
  · intro j e' fd hj
    simp only [DeamonStartSys.setCall, hcalls] at hj
    split at hj
    · cases hj
    · exact List.mem_cons_of_mem _ (h.adding j e' fd hj)
  · intro j e' fd hj
    simp only [DeamonStartSys.setCall, hcalls] at hj
    split at hj
    · cases hj
    · exact List.mem_cons_of_mem _ (h.removing j e' fd hj)
  · exact fun e' hd => List.mem_cons_of_mem _ (h.waits e' hd)

theorem kept_storeAwaken {s : DeamonStartSys} {k a : Nat} (hk : s.calls k = .storingAwaken a)
    (b : Nat) (h : s.Kept b) :
    DeamonStartSys.Kept { s.setCall k .starting with
      awakenFd := some a
      lostAwaken := s.awakenFd.toList ++ s.lostAwaken } b := by
  rcases h with h | h | ⟨j, hj⟩
  · exact Or.inr (Or.inl (List.mem_append_left _ (by rw [h]; exact List.mem_cons_self)))
  · exact Or.inr (Or.inl (List.mem_append_right _ h))
  · by_cases hjk : j = k
    · rw [hjk, hk] at hj
      cases hj
      exact Or.inl rfl
    · exact Or.inr (Or.inr ⟨j, (Function.update_of_ne hjk _ _).trans hj⟩)

theorem paired_step {s t : DeamonStartSys} {a : DeamonStartOp} (h : Paired s) (hl : FdLedger s)
    (hst : s.step a = some t) : Paired t := by
  have keep : ∀ e, (∀ b, Watched.awaken b ∈ s.interest e ↔ .awaken b ∈ s.interest e) ∧
      (e ∉ s.stored → s.interest e = s.interest e) := fun _ => ⟨fun _ => Iff.rfl, fun _ => rfl⟩
  cases starts_of_step hst with
  | ensure k hk =>
    exact h.same (k := k) rfl rfl keep rfl (kept_move (k := k) rfl (by simp [hk]) rfl rfl)
      (fun _ => id) (Or.inl rfl) (by simp) hl
  | go _ k pc' hg =>
    have harr := hg.arrives
    refine h.same rfl rfl keep rfl (kept_move rfl hg.leaves.2 rfl rfl) (fun _ => id) ?_ ?_ hl
    · cases pc' with
      | creatingAwaken | addingAwaken | storing | storingAwaken => exact harr.elim
      | closing fds => exact Or.inr rfl
      | _ => exact Or.inl rfl
    · rintro e fd (rfl | rfl)
      · exact stored_of_epollFd harr
      · exact stored_of_epollFd harr
  | openEpoll k hk =>
    refine h.opens (k := k) rfl rfl rfl rfl (kept_move (k := k) rfl (by simp [hk]) rfl rfl) rfl ?_
      rfl (by simp)
    rintro e (he | ⟨b, hb⟩)
    · cases he
      exact h.fresh s.opened (le_refl _)
    · cases hb
  | openAwaken k e hk =>
    refine h.opens (k := k) rfl rfl rfl rfl (kept_move (k := k) rfl (by simp [hk]) rfl rfl) rfl ?_
      rfl (by simp)
    rintro e' (he | ⟨b, hb⟩)
    · cases he
    · cases hb
      exact h.empty k e (Or.inl hk)
  | addAwaken k e a hk => exact h.addAwaken hl hk
  | storeEpoll k e a ok hk => exact h.storeEpoll hk
  | storeAwaken k a ok hk =>
    exact h.same (k := k) (c := .starting) rfl rfl keep rfl (kept_storeAwaken hk) (fun _ => id)
      (Or.inl rfl) (by simp) hl
  | close k fd fds ok hk =>
    exact h.same (k := k) rfl rfl keep rfl (kept_move (k := k) rfl (by simp [hk]) rfl rfl)
      (fun _ => id) (Or.inr rfl) (by simp) hl
  | exchange k ok hk =>
    refine h.same (k := k) rfl rfl keep rfl (kept_move (k := k) rfl (by simp [hk]) rfl rfl)
      (fun _ => id) ?_ ?_ hl
    · split <;> exact Or.inl rfl
    · split <;> simp
  | spawn k ok hk =>
    refine h.same (k := k) (c := .outside) rfl rfl keep rfl
      (kept_move (k := k) rfl (by simp [hk]) rfl rfl) (fun e hd => ?_) (Or.inl rfl) (by simp) hl
    simp only at hd
    split at hd <;> cases hd
  | add k e fd hk =>
    have hs := h.adding k e fd hk
    refine h.same (k := k) (c := .outside) rfl rfl (fun e' => ?_) rfl
      (kept_move (k := k) rfl (by simp [hk]) rfl rfl) (fun _ => id) (Or.inl rfl) (by simp) hl
    exact ⟨fun b => awaken_mem_update (by simp) e' b,
      fun hn => Function.update_of_ne (ne_of_mem_of_not_mem hs hn).symm _ _⟩
  | remove k e fd hk =>
    have hs := h.removing k e fd hk
    refine h.same (k := k) (c := .outside) rfl rfl (fun e' => ?_) rfl
      (kept_move (k := k) rfl (by simp [hk]) rfl rfl) (fun _ => id) (Or.inl rfl) (by simp) hl
    exact ⟨fun b => awaken_mem_update (by simp) e' b,
      fun hn => Function.update_of_ne (ne_of_mem_of_not_mem hs hn).symm _ _⟩
  | epollWait e hd he =>
    refine ⟨h.fresh, h.empty, h.storing, h.stored, h.adding, h.removing, fun e' hd' => ?_⟩
    cases hd'
    exact stored_of_epollFd he
  | reported | awakened | interrupt =>
    exact ⟨h.fresh, h.empty, h.storing, h.stored, h.adding, h.removing, fun _ hd' => by cases hd'⟩
  | notify => exact ⟨h.fresh, h.empty, h.storing, h.stored, h.adding, h.removing, h.waits⟩

theorem paired_run {s : DeamonStartSys} (h : deamonStartSystem.Reachable System.always s) :
    Paired s := by
  have both : Paired s ∧ FdLedger s := by
    refine System.Reachable.invariant (I := fun s => Paired s ∧ FdLedger s) ?_
      (fun s a t hi _ hst => ⟨paired_step hi.1 hi.2 hst, fdLedger_step hi.2 hst⟩) h
    refine ⟨⟨fun _ _ => rfl, fun _ _ _ => rfl, (fun _ _ _ hk => by cases hk),
      (fun _ he => by cases he), (fun _ _ _ hk => by cases hk), (fun _ _ _ hk => by cases hk),
      fun _ hd => by cases hd⟩, fdLedger_run .init⟩
  exact both.1

/-- The thread waits on a set whose event descriptor nobody writes into any more. -/
structure Deaf (e a : Nat) (s : DeamonStartSys) : Prop where
  reachable : deamonStartSystem.Reachable System.always s
  waiting : s.deamon = .waiting e
  wakes : s.Wakes e a
  lost : a ∈ s.lostAwaken
  quiet : a ∉ s.written

/-- No listener's descriptor is reported, and no call of `epoll_wait` is interrupted. -/
def Silent : DeamonStartOp → Bool
  | .reported _ => false
  | .interrupt => false
  | _ => true

theorem deaf_step {e a : Nat} {s t : DeamonStartSys} {op : DeamonStartOp} (h : Deaf e a s)
    (hok : Silent op = true) (hst : s.step op = some t) : Deaf e a t := by
  have hreach := h.reachable.step trivial hst
  have hl := fdLedger_run h.reachable
  have hstart := started_run h.reachable
  have hstored := (paired_run h.reachable).waits e h.waiting
  cases starts_of_step hst with
  | addAwaken k e' b hk =>
    refine ⟨hreach, h.waiting, fun c => ?_, h.lost, h.quiet⟩
    have hne : e ≠ e' := by
      rintro rfl
      exact (hl.held k e (by rw [hk]; exact List.mem_cons_self)).2 (stored_settled hstored)
    show Watched.awaken c ∈ Function.update s.interest e' _ e ↔ _
    rw [Function.update_of_ne hne]
    exact h.wakes c
  | storeAwaken k b ok hk =>
    exact ⟨hreach, h.waiting, h.wakes, List.mem_append_right _ h.lost, h.quiet⟩
  | spawn k ok hk =>
    have hnone := hstart.alive.2 (hstart.spawning k hk).2
    rw [h.waiting] at hnone
    cases hnone
  | add k e' fd hk =>
    exact ⟨hreach, h.waiting, fun c => (awaken_mem_update (by simp) e c).trans (h.wakes c), h.lost,
      h.quiet⟩
  | remove k e' fd hk =>
    exact ⟨hreach, h.waiting, fun c => (awaken_mem_update (by simp) e c).trans (h.wakes c), h.lost,
      h.quiet⟩
  | epollWait e' hd he =>
    rw [h.waiting] at hd
    cases hd
  | reported => cases hok
  | awakened e' b hd hm hw =>
    cases h.waiting.symm.trans hd
    rw [(h.wakes b).1 hm] at hw
    exact absurd hw h.quiet
  | interrupt => cases hok
  | notify =>
    refine ⟨hreach, h.waiting, h.wakes, h.lost, fun hm => ?_⟩
    rcases List.mem_append.1 hm with hm | hm
    · -- what is lost is not in the field
      have hnd := hl.settled
      unfold DeamonStartSys.settled at hnd
      have hnd' := (List.nodup_append.1 hnd).2.1
      refine (List.nodup_append.1 hnd').2.2 a hm a ?_ rfl
      simp only [DeamonStartSys.lost, List.mem_append]
      exact Or.inr (Or.inr h.lost)
    · exact h.quiet hm
  | _ => exact ⟨hreach, h.waiting, h.wakes, h.lost, h.quiet⟩

/-- With every descriptor settled no call holds one. -/
theorem FdLedger.held_nil {s : DeamonStartSys} (h : FdLedger s)
    (hs : ∀ n, n < s.opened → n ∈ s.settled) (k : Nat) : (s.calls k).held = [] := by
  apply List.eq_nil_iff_forall_not_mem.2
  intro n hn
  obtain ⟨hlt, hfree⟩ := h.held k n hn
  exact hfree (hs n hlt)

/-- **`NotifyAll` reaches the thread exactly if `awakenFd_` is in the set it waits on.** While no call
    of `Init` holds a descriptor, that set has one event descriptor.  If it is `awakenFd_`, a write
    lets the thread go; otherwise nothing does but a descriptor of that set that becomes ready, and
    who joins the thread waits for good. -/
theorem notify_wakes_iff {s : DeamonStartSys} {e : Nat}
    (h : deamonStartSystem.Reachable System.always s) (hw : s.deamon = .waiting e)
    (hq : ∀ k, (s.calls k).held = []) (hn : s.written = []) :
    ∃ a, s.Wakes e a ∧
      ((∃ as t, deamonStartSystem.Run (fun _ op => Silent op = true) s as t ∧
        t.deamon ≠ .waiting e) ↔ s.awakenFd = some a) := by
  have hpaired := paired_run h
  obtain ⟨a, hwakes, hkept⟩ := hpaired.stored e (hpaired.waits e hw)
  refine ⟨a, hwakes, ?_⟩
  constructor
  · rintro ⟨as, t, hrun, ht⟩
    rcases hkept with ha | ha | ⟨k, hk⟩
    · exact ha
    · have hdeaf : Deaf e a s := ⟨h, hw, hwakes, ha, by simp [hn]⟩
      have := hrun.invariant (I := Deaf e a) (fun s a t hs hok hst => deaf_step hs hok hst) hdeaf
      exact absurd this.waiting ht
    · have := hq k
      rw [hk] at this
      cases this
  · intro ha
    have hnotify : s.step .notify = some { s with written := a :: s.written } := by
      show some { s with written := s.awakenFd.toList ++ s.written } = _
      rw [ha]
      rfl
    have hawakened : DeamonStartSys.step { s with written := a :: s.written } (.awakened a) =
        some { s with
          deamon := .looping
          written := (a :: s.written).filter (· ≠ a) } := by
      simp only [DeamonStartSys.step, hw]
      rw [if_pos ⟨(hwakes a).2 rfl, List.mem_cons_self⟩]
    exact ⟨[.notify, .awakened a], _, .cons rfl hnotify (.cons rfl hawakened (.nil _)),
      fun hd => by cases hd⟩

/-- Two queues add their first descriptor at a time: one stores its epoll descriptor last, the other
    its event descriptor. -/
def crossedInits : List DeamonStartOp :=
  [.ensure 0, .ensure 1, .move 0 true, .move 0 true, .move 1 true, .move 1 true,
    .move 0 true, .move 0 true, .move 0 true, .move 1 true, .move 1 true, .move 1 true,
    .move 0 true, .move 1 true, .move 1 true, .move 0 true, .move 0 true, .move 0 true, .move 1 true,
    .epollWait]

theorem notify_wakes_iff_crossed : ∃ s : DeamonStartSys, s.deamon = .waiting 2 ∧
    s.awakenFd = some 1 ∧ ¬ ∃ as t,
      deamonStartSystem.Run (fun _ op => Silent op = true) s as t ∧ t.deamon ≠ .waiting 2 := by
  obtain ⟨s, hs, hd, ha, hi, hset, hn⟩ := System.run_of_exec deamonStartSystem System.always
    (fun s => s.deamon = .waiting 2 ∧ s.awakenFd = some 1 ∧ s.interest 2 = [.awaken 3] ∧
      (∀ n, n < s.opened → n ∈ s.settled) ∧ s.written = []) crossedInits (by decide)
  obtain ⟨a, hw, hiff⟩ :=
    notify_wakes_iff ⟨_, hs⟩ hd ((fdLedger_run ⟨_, hs⟩).held_nil hset) hn
  refine ⟨s, hd, ha, fun hrun => ?_⟩
  have h1 : some 1 = some a := ha.symm.trans (hiff.1 hrun)
  cases h1
  have := (hw 1).2 rfl
  rw [hi] at this
  simp at this

end AppExecFwk
