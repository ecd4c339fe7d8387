import EventHandler.FileDescriptors

/-!
# Adding a descriptor when the kernel may refuse

`EpollSet` takes a system call to succeed.  Here the kernel may refuse any descriptor, and the two
tables of a waiter need not agree: a refused descriptor is what makes them differ.

* `WaiterTables` — the interest set and `fileDescriptorMap_`, in any state.
* `AddAtomic` — a call that fails leaves both as they are, and one that succeeds leaves the map
  entry that was passed.
* `AddClean` — the states and kernel answers for which it does.
* `addFileDescriptor_atomic_iff` — for both waiters, `AddAtomic` holds exactly there.
* `addFileDescriptor_ofSet` — where the kernel accepts and the tables agree, this is the model of
  `EpollSet`.
-/

set_option autoImplicit false

namespace AppExecFwk

structure WaiterTables where
  /-- `epollFd_ >= 0`. -/
  initialized : Bool
  interest : AList (fun _ : Int => UInt32)
  fileDescriptorMap : AList (fun _ : Int => FileDescriptorInfo)

namespace WaiterTables

/-- `EPOLL_CTL_ADD`; `accepts` is the kernel's answer for a descriptor it does not hold. -/
def epollAdd (accepts : Int → Bool) (w : WaiterTables) (fileDescriptor : Int) (events : UInt32) :
    Option WaiterTables :=
  if fileDescriptor ∈ w.interest then none
  else if accepts fileDescriptor then
    some { w with interest := w.interest.insert fileDescriptor events }
  else none

/-- `EPOLL_CTL_DEL`. -/
def epollDel (w : WaiterTables) (fileDescriptor : Int) : Option WaiterTables :=
  if fileDescriptor ∈ w.interest then some { w with interest := w.interest.erase fileDescriptor }
  else none

/-- `InsertFileDescriptorMap`: `emplace` keeps an entry that is there. -/
def insertFileDescriptorMap (w : WaiterTables) (fileDescriptor : Int) (info : FileDescriptorInfo) :
    WaiterTables :=
  if fileDescriptor ∈ w.fileDescriptorMap then w
  else { w with fileDescriptorMap := w.fileDescriptorMap.insert fileDescriptor info }

/-- `EraseFileDescriptorMap`. -/
def eraseFileDescriptorMap (w : WaiterTables) (fileDescriptor : Int) : WaiterTables :=
  { w with fileDescriptorMap := w.fileDescriptorMap.erase fileDescriptor }

/-- `RemoveFileDescriptor`. -/
def removeFileDescriptor (w : WaiterTables) (fileDescriptor : Int) : WaiterTables :=
  if fileDescriptor < 0 then w
  else if w.initialized = false then w
  else
    match w.epollDel fileDescriptor with
    | none => w
    | some w => w.eraseFileDescriptorMap fileDescriptor

/-- `AddFileDescriptor` of both waiters; `edge` is `EPOLLET` or nothing. -/
def addFileDescriptor (edge : UInt32) (accepts : Int → Bool) (w : WaiterTables)
    (fileDescriptor : Int) (events : UInt32) (info : FileDescriptorInfo) : Bool × WaiterTables :=
  if fileDescriptor < 0 || noEvents events then (false, w)
  else if w.initialized = false then (false, w)
  else
    let inserted := w.insertFileDescriptorMap fileDescriptor info
    match inserted.epollAdd accepts fileDescriptor (epollEvents events ||| edge) with
    | none => (false, inserted.removeFileDescriptor fileDescriptor)
    | some added => (true, added)

end WaiterTables

/-- `EpollIoWaiter::AddFileDescriptor`. -/
def EpollIoWaiter.addFileDescriptor := WaiterTables.addFileDescriptor 0

/-- `DeamonIoWaiter::AddFileDescriptor`. -/
def DeamonIoWaiter.addFileDescriptor := WaiterTables.addFileDescriptor EPOLLET

namespace WaiterTables

variable {edge : UInt32} {accepts : Int → Bool} {w : WaiterTables} {fd : Int} {events : UInt32}
  {info : FileDescriptorInfo}

/-! ## What a call does -/

/-- The call reaches the tables: its arguments are valid and the waiter has its epoll instance. -/
def Reaches (w : WaiterTables) (fd : Int) (events : UInt32) : Prop :=
  0 ≤ fd ∧ noEvents events = false ∧ w.initialized = true

@[simp] theorem insertFileDescriptorMap_interest (w : WaiterTables) (fd : Int)
    (info : FileDescriptorInfo) : (w.insertFileDescriptorMap fd info).interest = w.interest := by
  unfold insertFileDescriptorMap
  split <;> rfl

@[simp] theorem insertFileDescriptorMap_initialized (w : WaiterTables) (fd : Int)
    (info : FileDescriptorInfo) :
    (w.insertFileDescriptorMap fd info).initialized = w.initialized := by
  unfold insertFileDescriptorMap
  split <;> rfl

/-- The entry behind `emplace`: the old one if there is one. -/
theorem insertFileDescriptorMap_lookup (w : WaiterTables) (fd : Int) (info : FileDescriptorInfo) :
    (w.insertFileDescriptorMap fd info).fileDescriptorMap.lookup fd =
      some ((w.fileDescriptorMap.lookup fd).getD info) := by
  unfold insertFileDescriptorMap
  split
  · rename_i h
    obtain ⟨old, hold⟩ := Option.isSome_iff_exists.1 (AList.lookup_isSome.2 h)
    rw [hold]
    rfl
  · rename_i h
    rw [AList.lookup_eq_none.2 h]
    exact AList.lookup_insert _

theorem addFileDescriptor_invalid (h : ¬ w.Reaches fd events) :
    w.addFileDescriptor edge accepts fd events info = (false, w) := by
  unfold addFileDescriptor
  split
  · rfl
  · rename_i hv
    simp only [Bool.or_eq_true, decide_eq_true_eq, not_or, Bool.not_eq_true] at hv
    split
    · rfl
    · rename_i hi
      exact absurd ⟨by omega, hv.2, by simpa using hi⟩ h

/-- A call that reaches the tables, by what the kernel says. -/
theorem addFileDescriptor_reaches (h : w.Reaches fd events) :
    w.addFileDescriptor edge accepts fd events info =
      if fd ∈ w.interest then
        (false, { (w.insertFileDescriptorMap fd info).eraseFileDescriptorMap fd with
          interest := w.interest.erase fd })
      else if accepts fd then
        (true, { w.insertFileDescriptorMap fd info with
          interest := w.interest.insert fd (epollEvents events ||| edge) })
      else (false, w.insertFileDescriptorMap fd info) := by
  obtain ⟨h0, he, hi⟩ := h
  have hneg : ¬ fd < 0 := by omega
  unfold addFileDescriptor epollAdd removeFileDescriptor epollDel
  by_cases hin : fd ∈ w.interest
  · simp [hin, he, hi, hneg, eraseFileDescriptorMap]
  · by_cases hacc : accepts fd = true
    · simp [hin, hacc, he, hi, hneg]
    · simp [hin, hacc, he, hi, hneg]

/-! ## Error atomicity -/

/-- The outcome of a call on `w`: a failure changes nothing, a success leaves the entry passed. -/
structure AddAtomic (w : WaiterTables) (fd : Int) (info : FileDescriptorInfo)
    (r : Bool × WaiterTables) : Prop where
  refused : r.1 = false → r.2 = w
  added : r.1 = true → r.2.fileDescriptorMap.lookup fd = some info

/-- The call does not reach the tables; or the descriptor is not in the interest set, and the map
    has no other entry for it if the kernel accepts it, and has an entry for it if not. -/
def AddClean (accepts : Int → Bool) (w : WaiterTables) (fd : Int) (events : UInt32)
    (info : FileDescriptorInfo) : Prop :=
  w.Reaches fd events → fd ∉ w.interest ∧
    (accepts fd = true → ∀ old, w.fileDescriptorMap.lookup fd = some old → old = info) ∧
    (accepts fd = false → fd ∈ w.fileDescriptorMap)

/-- **Adding is atomic exactly in the clean states.** -/
theorem addAtomic_iff :
    AddAtomic w fd info (w.addFileDescriptor edge accepts fd events info) ↔
      AddClean accepts w fd events info := by
  by_cases hr : w.Reaches fd events
  · rw [addFileDescriptor_reaches hr]
    by_cases hin : fd ∈ w.interest
    · -- the rollback takes out the registration that was there
      rw [if_pos hin]
      refine iff_of_false (fun h => ?_) (fun h => (h hr).1 hin)
      have heq := congrArg WaiterTables.interest (h.refused rfl)
      simp only at heq
      rw [← heq] at hin
      exact (AList.mem_erase.1 hin).1 rfl
    · rw [if_neg hin]
      cases ha : accepts fd with
      | true =>
        -- `emplace` keeps an older entry
        rw [if_pos rfl]
        have hentry := w.insertFileDescriptorMap_lookup fd info
        constructor
        · intro h
          refine fun _ => ⟨hin, fun _ old hold => ?_, fun hf => (by rw [ha] at hf; cases hf)⟩
          have hadded := h.added rfl
          simp only at hadded
          rw [hentry, hold] at hadded
          exact Option.some.inj hadded
        · intro h
          refine ⟨fun hf => (by cases hf), fun _ => hentry.trans ?_⟩
          cases hold : w.fileDescriptorMap.lookup fd with
          | none => rfl
          | some old => rw [(h hr).2.1 ha old hold]; rfl
      | false =>
        -- `RemoveFileDescriptor` returns before it erases the entry
        rw [if_neg (by decide)]
        have hmem : fd ∈ (w.insertFileDescriptorMap fd info).fileDescriptorMap := by
          rw [← AList.lookup_isSome, insertFileDescriptorMap_lookup]
          rfl
        constructor
        · intro h
          refine fun _ => ⟨hin, fun hf => (by rw [ha] at hf; cases hf), fun _ => ?_⟩
          have heq := h.refused rfl
          simp only at heq
          rw [heq] at hmem
          exact hmem
        · intro h
          refine ⟨fun _ => ?_, fun hf => by cases hf⟩
          show w.insertFileDescriptorMap fd info = w
          unfold insertFileDescriptorMap
          rw [if_pos ((h hr).2.2 ha)]
  · rw [addFileDescriptor_invalid hr]
    exact iff_of_true ⟨fun _ => rfl, fun h => by cases h⟩ (fun h => absurd h hr)

end WaiterTables

open WaiterTables

/-- **For both waiters**, in every state and for every answer of the kernel: adding a descriptor is
    atomic exactly when it is clean. -/
theorem addFileDescriptor_atomic_iff (accepts : Int → Bool) (w : WaiterTables) (fd : Int)
    (events : UInt32) (info : FileDescriptorInfo) :
    (AddAtomic w fd info (EpollIoWaiter.addFileDescriptor accepts w fd events info) ↔
        AddClean accepts w fd events info) ∧
      (AddAtomic w fd info (DeamonIoWaiter.addFileDescriptor accepts w fd events info) ↔
        AddClean accepts w fd events info) :=
  ⟨addAtomic_iff, addAtomic_iff⟩

/-- A waiter after its `Init`. -/
def emptyTables : WaiterTables := ⟨true, ∅, ∅⟩

/-- A descriptor added twice: the second call fails and takes out what the first one registered. -/
theorem addFileDescriptor_not_atomic : ¬ ∀ accepts w fd events info,
    AddAtomic w fd info (EpollIoWaiter.addFileDescriptor accepts w fd events info) ∧
      AddAtomic w fd info (DeamonIoWaiter.addFileDescriptor accepts w fd events info) := by
  intro h
  have hclean := addAtomic_iff.1 (h (fun _ => true)
    (EpollIoWaiter.addFileDescriptor (fun _ => true) emptyTables 5 1 ⟨"first", .HIGH, 1⟩).2
    5 1 ⟨"second", .HIGH, 2⟩).1
  exact (hclean ⟨by decide, by decide, by decide⟩).1 (by decide)

/-! ## Where system calls succeed -/

namespace WaiterTables

/-- The tables of a waiter whose system calls succeed. -/
def ofSet (w : EpollSet) : WaiterTables := ⟨w.initialized, w.interest, w.fileDescriptorMap⟩

/-- **Where the kernel accepts the descriptor and the tables agree, this is `EpollSet`.** -/
theorem addFileDescriptor_ofSet {edge : UInt32} {accepts : Int → Bool} {fd : Int}
    (hacc : accepts fd = true) (w : EpollSet) (events : UInt32) (info : FileDescriptorInfo) :
    (ofSet w).addFileDescriptor edge accepts fd events info =
      ((w.addFileDescriptor edge fd events info).1,
        ofSet (w.addFileDescriptor edge fd events info).2) := by
  by_cases hr : (ofSet w).Reaches fd events
  · obtain ⟨h0, he, hi⟩ := hr
    have hneg : ¬ fd < 0 := by omega
    have hi' : w.initialized = true := hi
    have hset : w.addFileDescriptor edge fd events info =
        if fd ∈ w.interest then (false, w.removeFileDescriptor fd)
        else (true, w.insert fd (epollEvents events ||| edge) info ⟨hi', h0⟩) := by
      unfold EpollSet.addFileDescriptor
      rw [if_neg (by simp [hneg, he]), dif_pos ⟨hi', h0⟩]
    have hint : (ofSet w).interest = w.interest := rfl
    rw [addFileDescriptor_reaches ⟨h0, he, hi⟩, hset, hint]
    by_cases hin : fd ∈ w.interest
    · have hmap : fd ∈ (ofSet w).fileDescriptorMap := (w.same fd).1 hin
      have hrem : w.removeFileDescriptor fd = w.erase fd := by
        unfold EpollSet.removeFileDescriptor
        rw [if_neg hneg, if_neg (by rw [hi']; decide), if_pos hin]
      rw [if_pos hin, if_pos hin, hrem]
      unfold insertFileDescriptorMap
      rw [if_pos hmap]
      rfl
    · have hmap : fd ∉ (ofSet w).fileDescriptorMap := fun h => hin ((w.same fd).2 h)
      rw [if_neg hin, if_neg hin, if_pos hacc]
      unfold insertFileDescriptorMap
      rw [if_neg hmap]
      rfl
  · rw [addFileDescriptor_invalid hr]
    unfold EpollSet.addFileDescriptor
    split
    · rfl
    · rename_i hv
      simp only [Bool.or_eq_true, decide_eq_true_eq, not_or, Bool.not_eq_true] at hv
      rw [dif_neg fun h => hr ⟨h.2, hv.2, h.1⟩]

theorem removeFileDescriptor_ofSet (w : EpollSet) (fd : Int) :
    (ofSet w).removeFileDescriptor fd = ofSet (w.removeFileDescriptor fd) := by
  unfold removeFileDescriptor EpollSet.removeFileDescriptor epollDel
  split
  · rfl
  · split
    · rename_i hi
      rw [if_pos (show w.initialized = false from hi)]
    · rename_i hi
      rw [if_neg (show ¬ w.initialized = false from hi)]
      by_cases hin : fd ∈ w.interest
      · rw [if_pos hin, if_pos (show fd ∈ (ofSet w).interest from hin)]
        rfl
      · rw [if_neg hin, if_neg (show fd ∉ (ofSet w).interest from hin)]

end WaiterTables

end AppExecFwk
