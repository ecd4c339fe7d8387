import Mathlib

/-!
# Lists kept in the order of a key

A list of `α` is `Sorted key` when it is non-decreasing in `key`.  Two insertions keep that order:

* `insertBack key x` walks from the end over the elements with a larger key and puts `x` behind
  the first one it meets with key at most its own (`insertBack_split`); in a sorted list `x` then
  stands behind *every* element with key at most its own (`insertBack_behind`).
* putting an element with a minimal key in front (`Sorted.cons_of_le`).

Taking elements out leaves a sublist; `find?_eraseP` says which element a search for the first
match takes and what it leaves.  Order facts other than sortedness travel through
`pairwise_insert` and `List.Pairwise.sublist`.
-/

set_option autoImplicit false

namespace StableList

variable {α κ : Type}

/-! ## Taking out the first match -/

/-- The first match and the list without it. -/
theorem find?_eraseP {p : α → Bool} {xs : List α} {e : α} (h : xs.find? p = some e) :
    ∃ a b, xs = a ++ e :: b ∧ xs.eraseP p = a ++ b ∧ p e = true ∧ ∀ y ∈ a, p y = false := by
  obtain ⟨hp, a, b, rfl, ha⟩ := List.find?_eq_some_iff_append.1 h
  refine ⟨a, b, rfl, ?_, hp, fun y hy => by simpa using ha y hy⟩
  rw [List.eraseP_append_right _ (fun y hy => by simpa using ha y hy), List.eraseP_cons_of_pos hp]

theorem pairwise_insert {R : α → α → Prop} {a b : List α} {x : α} (h : (a ++ b).Pairwise R)
    (ha : ∀ y ∈ a, R y x) (hb : ∀ y ∈ b, R x y) : (a ++ x :: b).Pairwise R := by
  rw [List.pairwise_append] at h ⊢
  obtain ⟨h₁, h₂, h₃⟩ := h
  refine ⟨h₁, List.pairwise_cons.2 ⟨hb, h₂⟩, ?_⟩
  intro y hy z hz
  rcases List.mem_cons.1 hz with rfl | hz
  · exact ha y hy
  · exact h₃ y hy z hz

section Ordered

variable [LinearOrder κ] {key : α → κ}

/-- Non-decreasing in `key`. -/
def Sorted (key : α → κ) (xs : List α) : Prop := xs.Pairwise (fun x y => key x ≤ key y)

theorem Sorted.sublist {xs ys : List α} (h : Sorted key ys) (hs : xs.Sublist ys) :
    Sorted key xs := List.Pairwise.sublist hs h

theorem Sorted.head_le {x : α} {xs : List α} (h : Sorted key (x :: xs)) :
    ∀ y ∈ x :: xs, key x ≤ key y := by
  intro y hy
  rcases List.mem_cons.1 hy with rfl | hy
  · exact le_refl _
  · exact (List.pairwise_cons.1 h).1 y hy

/-- A bound on the head bounds the list. -/
theorem Sorted.le_of_head {d : κ} {xs : List α} (h : Sorted key xs)
    (hd : ∀ y, xs.head? = some y → d ≤ key y) : ∀ y ∈ xs, d ≤ key y := by
  cases xs with
  | nil => exact fun y hy => (List.not_mem_nil hy).elim
  | cons z zs =>
    have hz : d ≤ key z := hd z rfl
    exact fun y hy => le_trans hz (h.head_le y hy)

theorem Sorted.cons_of_le {x : α} {xs : List α} (h : Sorted key xs)
    (hx : ∀ y, xs.head? = some y → key x ≤ key y) : Sorted key (x :: xs) :=
  List.pairwise_cons.2 ⟨h.le_of_head hx, h⟩

/-! ## Insertion from the back -/

/-- The walk over the reversed list. -/
def walkBack (key : α → κ) (x : α) : List α → List α
  | [] => [x]
  | p :: ps => if key p ≤ key x then x :: p :: ps else p :: walkBack key x ps

/-- Insert `x` behind the last element whose key is at most its own. -/
def insertBack (key : α → κ) (x : α) (xs : List α) : List α := (walkBack key x xs.reverse).reverse

theorem walkBack_split (key : α → κ) (x : α) : ∀ ps : List α,
    ∃ a b, ps = a ++ b ∧ walkBack key x ps = a ++ x :: b ∧ (∀ y ∈ a, key x < key y) ∧
      ∀ y, b.head? = some y → key y ≤ key x := by
  intro ps
  induction ps with
  | nil => exact ⟨[], [], rfl, rfl, fun _ h => (List.not_mem_nil h).elim, fun _ h => by cases h⟩
  | cons p ps ih =>
    unfold walkBack
    split
    · rename_i hle
      refine ⟨[], p :: ps, rfl, rfl, fun _ h => (List.not_mem_nil h).elim, ?_⟩
      intro y hy
      cases hy
      exact hle
    · rename_i hgt
      obtain ⟨a, b, hps, hw, ha, hb⟩ := ih
      refine ⟨p :: a, b, by rw [hps]; rfl, by rw [hw]; rfl, ?_, hb⟩
      intro y hy
      rcases List.mem_cons.1 hy with rfl | hy
      · exact lt_of_not_ge hgt
      · exact ha y hy

/-- `insertBack` splits the list: behind `x` only larger keys, right before it a key at most its
    own. -/
theorem insertBack_split (key : α → κ) (x : α) (xs : List α) :
    ∃ a b, xs = a ++ b ∧ insertBack key x xs = a ++ x :: b ∧ (∀ y ∈ b, key x < key y) ∧
      ∀ y, a.getLast? = some y → key y ≤ key x := by
  obtain ⟨a, b, hxs, hw, ha, hb⟩ := walkBack_split key x xs.reverse
  have hxs' : xs = b.reverse ++ a.reverse := by
    rw [← List.reverse_append, ← hxs, List.reverse_reverse]
  refine ⟨b.reverse, a.reverse, hxs', ?_, fun y hy => ha y (List.mem_reverse.1 hy), ?_⟩
  · unfold insertBack
    rw [hw]
    simp
  · intro y hy
    rw [List.getLast?_reverse] at hy
    exact hb y hy

/-- In a sorted list, `insertBack` puts `x` behind every element with key at most its own. -/
theorem insertBack_behind {x : α} {xs : List α} (h : Sorted key xs) :
    ∃ a b, xs = a ++ b ∧ insertBack key x xs = a ++ x :: b ∧ (∀ y ∈ a, key y ≤ key x) ∧
      ∀ y ∈ b, key x < key y := by
  obtain ⟨a, b, hxs, hi, hb, ha⟩ := insertBack_split key x xs
  refine ⟨a, b, hxs, hi, ?_, hb⟩
  intro y hy
  have hne : a ≠ [] := List.ne_nil_of_mem hy
  have hlast := ha (a.getLast hne) (List.getLast?_eq_some_getLast hne)
  have hsa : Sorted key (a.dropLast ++ [a.getLast hne]) := by
    rw [List.dropLast_append_getLast hne]
    exact h.sublist (by rw [hxs]; exact List.sublist_append_left a b)
  rw [← List.dropLast_append_getLast hne] at hy
  rcases List.mem_append.1 hy with hy | hy
  · exact le_trans ((List.pairwise_append.1 hsa).2.2 y hy _ List.mem_cons_self) hlast
  · rw [List.mem_singleton.1 hy]
    exact hlast

theorem insertBack_sorted {x : α} {xs : List α} (h : Sorted key xs) :
    Sorted key (insertBack key x xs) := by
  obtain ⟨a, b, hxs, hi, ha, hb⟩ := insertBack_behind (x := x) h
  rw [hi]
  rw [hxs] at h
  exact pairwise_insert h ha (fun y hy => le_of_lt (hb y hy))

end Ordered

end StableList
