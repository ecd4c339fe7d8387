import Mathlib

/-!
# Rings of slots

A ring has `n` slots and a position; a write transforms the slot at the position and moves on,
wrapping at `n`.  What a slot holds after a list of writes is decided by the writes to that slot
alone, the *lane* of the slot:

* `lane n i xs` — the elements of `xs` at positions congruent to `i` modulo `n`, in order.
* `lane_getLast` — the last element of a lane is the one at its last position, so the lanes' last
  elements are the last `n` elements of the list.
* `writeAll_slots` — slot `i` is its initial value, transformed by the writes of its lane.
-/

set_option autoImplicit false

namespace SlotRing

variable {α σ : Type}

/-! ## Lanes -/

/-- The elements at positions congruent to `i` modulo `n`. -/
def lane (n i : Nat) (xs : List α) : List α :=
  (xs.zipIdx.filter (fun p => p.2 % n == i)).map Prod.fst

theorem lane_append_singleton (n i : Nat) (xs : List α) (x : α) :
    lane n i (xs ++ [x]) = if xs.length % n = i then lane n i xs ++ [x] else lane n i xs := by
  unfold lane
  rw [List.zipIdx_append]
  by_cases h : xs.length % n = i
  · simp [h]
  · simp [h]

theorem mem_lane {n i : Nat} {xs : List α} {x : α} :
    x ∈ lane n i xs ↔ ∃ j, xs[j]? = some x ∧ j % n = i := by
  simp [lane, List.mem_zipIdx_iff_getElem?]

/-- Beyond the end of the list a lane is empty. -/
theorem lane_eq_nil {n i : Nat} {xs : List α} (h : xs.length ≤ i) : lane n i xs = [] := by
  rw [List.eq_nil_iff_forall_not_mem]
  intro x hx
  obtain ⟨j, hj, hji⟩ := mem_lane.1 hx
  have hlt := (List.getElem?_eq_some_iff.1 hj).1
  have hle := Nat.mod_le j n
  omega

/-- Among the last `n` positions, each is the last of its lane. -/
theorem lane_getLast {n k : Nat} {xs : List α} {x : α} (h : xs[k]? = some x)
    (hk : xs.length ≤ k + n) : (lane n (k % n) xs).getLast? = some x := by
  induction xs using List.reverseRecOn with
  | nil => cases h
  | append_singleton xs y ih =>
    rw [List.length_append, List.length_singleton] at hk
    rw [lane_append_singleton]
    have hlt := (List.getElem?_eq_some_iff.1 h).1
    rw [List.length_append, List.length_singleton] at hlt
    by_cases hlast : k = xs.length
    · subst hlast
      rw [List.getElem?_append_right (Nat.le_refl _), Nat.sub_self, List.getElem?_cons_zero] at h
      rw [if_pos rfl, List.getLast?_append, List.getLast?_singleton, h]
      rfl
    · have hne : xs.length % n ≠ k % n := by
        intro heq
        have hdvd : n ∣ xs.length - k := (Nat.modEq_iff_dvd' (by omega)).1 heq.symm
        have hle := Nat.le_of_dvd (by omega) hdvd
        omega
      rw [if_neg hne]
      rw [List.getElem?_append_left (by omega)] at h
      exact ih h (by omega)

end SlotRing

/-! ## Rings -/

/-- `n` slots and the position of the next write. -/
structure SlotRing (σ : Type) (n : Nat) where
  slots : Vector σ n
  next : Nat
  next_lt : next < n

namespace SlotRing

variable {α σ : Type} {n : Nat}

/-- The slot at the position. -/
def current (r : SlotRing σ n) : σ := r.slots.get ⟨r.next, r.next_lt⟩

theorem current_eq {r : SlotRing σ n} {i : Nat} (hi : i < n) (h : r.next = i) :
    r.current = r.slots[i] := by
  subst h
  rfl

/-- Transform the slot at the position and move on. -/
def write (r : SlotRing σ n) (f : σ → σ) : SlotRing σ n where
  slots := r.slots.set r.next (f r.current) r.next_lt
  next := (r.next + 1) % n
  next_lt := Nat.mod_lt _ (Nat.lt_of_le_of_lt (Nat.zero_le _) r.next_lt)

/-- Write the elements of a list, each with the transformation `f` gives it. -/
def writeAll (f : α → σ → σ) (r : SlotRing σ n) (xs : List α) : SlotRing σ n :=
  xs.foldl (fun r x => r.write (f x)) r

theorem writeAll_append_singleton (f : α → σ → σ) (r : SlotRing σ n) (xs : List α) (x : α) :
    r.writeAll f (xs ++ [x]) = (r.writeAll f xs).write (f x) := by
  simp [writeAll]

/-- The position counts the writes modulo `n`. -/
theorem writeAll_next (f : α → σ → σ) (r : SlotRing σ n) (h : r.next = 0) (xs : List α) :
    (r.writeAll f xs).next = xs.length % n := by
  induction xs using List.reverseRecOn with
  | nil => rw [List.length_nil, Nat.zero_mod]; exact h
  | append_singleton xs x ih =>
    rw [writeAll_append_singleton, List.length_append, List.length_singleton]
    show ((r.writeAll f xs).next + 1) % n = _
    rw [ih, Nat.mod_add_mod]

/-- **A slot is transformed by the writes of its lane.** -/
theorem writeAll_slots (f : α → σ → σ) (r : SlotRing σ n) (h : r.next = 0) (xs : List α) {i : Nat}
    (hi : i < n) :
    (r.writeAll f xs).slots[i] = (lane n i xs).foldl (fun s x => f x s) r.slots[i] := by
  induction xs using List.reverseRecOn with
  | nil => rfl
  | append_singleton xs x ih =>
    have hnext := writeAll_next f r h xs
    rw [writeAll_append_singleton, lane_append_singleton]
    simp only [write, Vector.getElem_set]
    by_cases hx : xs.length % n = i
    · have hn : (r.writeAll f xs).next = i := hnext.trans hx
      rw [if_pos hn, if_pos hx, List.foldl_append, List.foldl_cons, List.foldl_nil, ← ih,
        current_eq hi hn]
    · have hn : (r.writeAll f xs).next ≠ i := fun hn => hx (hnext.symm.trans hn)
      rw [if_neg hn, if_neg hx, ih]

end SlotRing
