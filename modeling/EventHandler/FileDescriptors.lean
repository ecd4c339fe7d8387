import EventHandler.InnerEvent

/-!
# The descriptors a waiter listens to

`EpollIoWaiter` and `DeamonIoWaiter` keep two tables of the descriptors they listen to: the interest
set of their epoll instance, in the kernel, and `fileDescriptorMap_`.  Both add and remove in the
same way; the daemon adds `EPOLLET`.

* `EpollSet` — the two tables of one waiter, which hold the same descriptors.
* `addFileDescriptor_registered`, `removeFileDescriptor_registered` — what is listened to afterwards.

System calls succeed, except that the kernel refuses to add a descriptor that the instance already
holds, and to remove one that it does not hold.
-/

set_option autoImplicit false

namespace AppExecFwk

def FILE_DESCRIPTOR_INPUT_EVENT : UInt32 := 1
def FILE_DESCRIPTOR_OUTPUT_EVENT : UInt32 := 2
def FILE_DESCRIPTOR_EVENTS_MASK : UInt32 := FILE_DESCRIPTOR_INPUT_EVENT ||| FILE_DESCRIPTOR_OUTPUT_EVENT

def EPOLLIN : UInt32 := 0x001
def EPOLLOUT : UInt32 := 0x004
def EPOLLET : UInt32 := 0x80000000

/-- `(events & FILE_DESCRIPTOR_EVENTS_MASK) == 0`. -/
def noEvents (events : UInt32) : Bool := events &&& FILE_DESCRIPTOR_EVENTS_MASK == 0

/-- Transform file descriptor listener events into epoll events. -/
def epollEvents (events : UInt32) : UInt32 :=
  (if events &&& FILE_DESCRIPTOR_INPUT_EVENT != 0 then EPOLLIN else 0) |||
    (if events &&& FILE_DESCRIPTOR_OUTPUT_EVENT != 0 then EPOLLOUT else 0)

structure FileDescriptorInfo where
  taskName : String
  priority : Priority
  /-- `listener_`, a shared reference to the object. -/
  listener : Nat
  deriving DecidableEq, Repr

/-- What a waiter listens to. -/
structure EpollSet where
  /-- `epollFd_ >= 0`. -/
  initialized : Bool
  /-- The interest set of the epoll instance: a descriptor and its epoll events. -/
  interest : AList (fun _ : Int => UInt32)
  fileDescriptorMap : AList (fun _ : Int => FileDescriptorInfo)
  same : ∀ fd, fd ∈ interest ↔ fd ∈ fileDescriptorMap
  valid : ∀ fd ∈ interest, initialized = true ∧ 0 ≤ fd

namespace EpollSet

/-- A waiter object before (`false`) or after (`true`) its `Init`. -/
def new (initialized : Bool) : EpollSet where
  initialized := initialized
  interest := ∅
  fileDescriptorMap := ∅
  same _ := iff_of_false (AList.notMem_empty _) (AList.notMem_empty _)
  valid _ h := absurd h (AList.notMem_empty _)

/-- `Init`, which keeps an epoll instance that exists. -/
def init (w : EpollSet) : EpollSet where
  initialized := true
  interest := w.interest
  fileDescriptorMap := w.fileDescriptorMap
  same := w.same
  valid fd h := ⟨rfl, (w.valid fd h).2⟩

/-- `EPOLL_CTL_DEL` and `EraseFileDescriptorMap`. -/
def erase (w : EpollSet) (fileDescriptor : Int) : EpollSet where
  initialized := w.initialized
  interest := w.interest.erase fileDescriptor
  fileDescriptorMap := w.fileDescriptorMap.erase fileDescriptor
  same fd := by rw [AList.mem_erase, AList.mem_erase, w.same]
  valid fd h := w.valid fd (AList.mem_erase.1 h).2

/-- `RemoveFileDescriptor`. -/
def removeFileDescriptor (w : EpollSet) (fileDescriptor : Int) : EpollSet :=
  if fileDescriptor < 0 then w
  else if w.initialized = false then w
  else if fileDescriptor ∈ w.interest then w.erase fileDescriptor
  else w

/-- `InsertFileDescriptorMap` and an `EPOLL_CTL_ADD` that succeeds. -/
def insert (w : EpollSet) (fileDescriptor : Int) (events : UInt32) (info : FileDescriptorInfo)
    (h : w.initialized = true ∧ 0 ≤ fileDescriptor) : EpollSet where
  initialized := w.initialized
  interest := w.interest.insert fileDescriptor events
  fileDescriptorMap := w.fileDescriptorMap.insert fileDescriptor info
  same fd := by rw [AList.mem_insert, AList.mem_insert, w.same]
  valid fd hfd := by
    obtain rfl | hfd := (AList.mem_insert _).1 hfd
    · exact h
    · exact w.valid fd hfd

/-- `AddFileDescriptor`; `edge` is `EPOLLET` or nothing.  When the kernel refuses the descriptor,
    `RemoveFileDescriptor` takes out the registration that was there. -/
def addFileDescriptor (edge : UInt32) (w : EpollSet) (fileDescriptor : Int) (events : UInt32)
    (info : FileDescriptorInfo) : Bool × EpollSet :=
  if fileDescriptor < 0 || noEvents events then (false, w)
  else if h : w.initialized = true ∧ 0 ≤ fileDescriptor then
    if fileDescriptor ∈ w.interest then (false, w.removeFileDescriptor fileDescriptor)
    else (true, w.insert fileDescriptor (epollEvents events ||| edge) info h)
  else (false, w)

/-- The waiter listens to the descriptor. -/
def Registered (w : EpollSet) (fd : Int) : Prop := fd ∈ w.interest

instance registeredDecidable (w : EpollSet) (fd : Int) : Decidable (w.Registered fd) :=
  inferInstanceAs (Decidable (fd ∈ w.interest))

@[simp] theorem new_registered (b : Bool) (fd : Int) : ¬ (new b).Registered fd :=
  AList.notMem_empty fd

@[simp] theorem init_registered (w : EpollSet) (fd : Int) : w.init.Registered fd ↔ w.Registered fd :=
  Iff.rfl

@[simp] theorem init_initialized (w : EpollSet) : w.init.initialized = true := rfl

@[simp] theorem init_map (w : EpollSet) : w.init.fileDescriptorMap = w.fileDescriptorMap := rfl

theorem insert_lookup_ne {w : EpollSet} {fd fd' : Int} {events : UInt32} {info : FileDescriptorInfo}
    (h : w.initialized = true ∧ 0 ≤ fd) (hne : fd' ≠ fd) :
    (w.insert fd events info h).fileDescriptorMap.lookup fd' = w.fileDescriptorMap.lookup fd' :=
  AList.lookup_insert_ne hne

/-- After a removal exactly the descriptor itself is gone. -/
@[simp] theorem removeFileDescriptor_registered (w : EpollSet) (fd' fd : Int) :
    (w.removeFileDescriptor fd').Registered fd ↔ fd ≠ fd' ∧ w.Registered fd := by
  have hout : ¬ w.Registered fd' → (w.Registered fd ↔ fd ≠ fd' ∧ w.Registered fd) := by
    intro hn
    constructor
    · intro h
      exact ⟨fun he => hn (he ▸ h), h⟩
    · exact fun h => h.2
  unfold removeFileDescriptor
  split
  · rename_i hneg
    apply hout
    intro h
    have := (w.valid fd' h).2
    omega
  · split
    · rename_i hi
      apply hout
      intro h
      rw [(w.valid fd' h).1] at hi
      cases hi
    · split
      · exact AList.mem_erase
      · rename_i hn
        exact hout hn

@[simp] theorem removeFileDescriptor_initialized (w : EpollSet) (fd : Int) :
    (w.removeFileDescriptor fd).initialized = w.initialized := by
  unfold removeFileDescriptor
  split
  · rfl
  · split
    · rfl
    · split <;> rfl

theorem removeFileDescriptor_lookup_ne {fd fd' : Int} (w : EpollSet) (hne : fd ≠ fd') :
    (w.removeFileDescriptor fd').fileDescriptorMap.lookup fd = w.fileDescriptorMap.lookup fd := by
  unfold removeFileDescriptor
  split
  · rfl
  · split
    · rfl
    · split
      · exact AList.lookup_erase_ne hne
      · rfl

/-- A descriptor the waiter does not listen to is added when the waiter has its epoll instance. -/
theorem addFileDescriptor_eq {edge : UInt32} {w : EpollSet} {fd : Int} {events : UInt32}
    {info : FileDescriptorInfo} (hn : ¬ w.Registered fd) (h0 : 0 ≤ fd) (he : noEvents events = false)
    (hi : w.initialized = true) :
    w.addFileDescriptor edge fd events info =
      (true, w.insert fd (epollEvents events ||| edge) info ⟨hi, h0⟩) := by
  have hneg : ¬ fd < 0 := by omega
  have hfd : fd ∉ w.interest := hn
  unfold addFileDescriptor
  rw [if_neg (by simp [hneg, he]), dif_pos ⟨hi, h0⟩, if_neg hfd]

/-- `AddFileDescriptor` of a descriptor that is not listened to: added, or nothing done. -/
theorem addFileDescriptor_cases {edge : UInt32} {w : EpollSet} {fd : Int} {events : UInt32}
    {info : FileDescriptorInfo} (hn : ¬ w.Registered fd) :
    (∃ h, w.addFileDescriptor edge fd events info =
      (true, w.insert fd (epollEvents events ||| edge) info h)) ∨
    w.addFileDescriptor edge fd events info = (false, w) := by
  unfold addFileDescriptor
  split
  · exact Or.inr rfl
  · split
    · rename_i h
      refine Or.inl ⟨h, ?_⟩
      exact if_neg hn
    · exact Or.inr rfl

/-- What is listened to after `AddFileDescriptor` of a descriptor that was not listened to. -/
theorem addFileDescriptor_registered {edge : UInt32} {w : EpollSet} {fd : Int} {events : UInt32}
    {info : FileDescriptorInfo} (hn : ¬ w.Registered fd) (fd' : Int) :
    (w.addFileDescriptor edge fd events info).2.Registered fd' ↔
      (fd' = fd ∧ (w.addFileDescriptor edge fd events info).1 = true) ∨ w.Registered fd' := by
  obtain ⟨h, heq⟩ | heq := addFileDescriptor_cases hn
  · rw [heq]
    simp only [and_true]
    exact AList.mem_insert _
  · simp [heq]

theorem addFileDescriptor_lookup_ne {edge : UInt32} {w : EpollSet} {fd fd' : Int} {events : UInt32}
    {info : FileDescriptorInfo} (hn : ¬ w.Registered fd) (hne : fd' ≠ fd) :
    (w.addFileDescriptor edge fd events info).2.fileDescriptorMap.lookup fd' =
      w.fileDescriptorMap.lookup fd' := by
  obtain ⟨h, heq⟩ | heq := addFileDescriptor_cases hn
  · rw [heq]
    exact insert_lookup_ne h hne
  · rw [heq]

theorem addFileDescriptor_lookup {edge : UInt32} {w : EpollSet} {fd : Int} {events : UInt32}
    {info : FileDescriptorInfo} (hn : ¬ w.Registered fd)
    (h : (w.addFileDescriptor edge fd events info).1 = true) :
    (w.addFileDescriptor edge fd events info).2.fileDescriptorMap.lookup fd = some info := by
  obtain ⟨hi, heq⟩ | heq := addFileDescriptor_cases hn
  · rw [heq]
    exact AList.lookup_insert _
  · rw [heq] at h
    cases h

end EpollSet

end AppExecFwk
