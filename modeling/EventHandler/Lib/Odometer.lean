import Mathlib

/-!
# Odometers

Digits `d 0, d 1, …` in base `b`, least significant first.  A *tick at `p`* raises digit `p` by
one, sets every lower digit to zero and keeps the higher ones: it need not be the full carry of a
counter, only digit `p` must be the one that moves.

* `value_lt` — `j` digits below `b` have a value below `b ^ j`.
* `Tick.value_lt` — a tick at a position below `j` raises the value of the first `j` digits.
* `Ticks.length_lt` — so fewer than `b ^ j` ticks below `j` fit in a row, from any start.
-/

set_option autoImplicit false

namespace Odometer

/-- The value of the first `j` digits in base `b`. -/
def value (b : Nat) (d : Nat → Nat) : Nat → Nat
  | 0 => 0
  | j + 1 => value b d j + d j * b ^ j

/-- Digit `p` goes up by one, the digits below `p` go to zero, the digits from `p + 1` up to `j`
    stay. -/
structure Tick (j p : Nat) (d d' : Nat → Nat) : Prop where
  lt : p < j
  low : ∀ i < p, d' i = 0
  up : d' p = d p + 1
  high : ∀ i, p < i → i < j → d' i = d i

variable {b : Nat} {d d' : Nat → Nat}

theorem value_lt : ∀ j, (∀ i < j, d i < b) → value b d j < b ^ j
  | 0, _ => Nat.one_pos
  | j + 1, h => by
    have ih := value_lt j (fun i hi => h i (by omega))
    have hj : d j + 1 ≤ b := h j (by omega)
    have hm : (d j + 1) * b ^ j ≤ b * b ^ j := Nat.mul_le_mul_right _ hj
    unfold value
    rw [Nat.pow_succ, Nat.mul_comm (b ^ j) b]
    rw [Nat.add_mul, Nat.one_mul] at hm
    omega

theorem value_zero : ∀ j, (∀ i < j, d i = 0) → value b d j = 0
  | 0, _ => rfl
  | j + 1, h => by
    unfold value
    rw [value_zero j (fun i hi => h i (by omega)), h j (by omega), Nat.zero_mul]

/-- **A tick raises the value.** -/
theorem Tick.value_lt {p : Nat} : ∀ {j : Nat}, Tick j p d d' → (∀ i < j, d i < b) →
    value b d j < value b d' j
  | 0, h, _ => absurd h.lt (by omega)
  | j + 1, h, hb => by
    by_cases hp : p = j
    · subst hp
      have hlow := Odometer.value_lt p (fun i hi => hb i (by omega))
      unfold value
      rw [value_zero p h.low, h.up, Nat.add_mul, Nat.one_mul]
      omega
    · have hlt := h.lt
      have ih := Tick.value_lt (j := j)
        ⟨by omega, h.low, h.up, fun i h₁ h₂ => h.high i h₁ (by omega)⟩ (fun i hi => hb i (by omega))
      unfold value
      rw [h.high j (by omega) (by omega)]
      omega

/-- `n` ticks in a row at positions below `j`, all digits below `b` throughout. -/
inductive Ticks (b j : Nat) : Nat → (Nat → Nat) → (Nat → Nat) → Prop
  | nil {d : Nat → Nat} (hd : ∀ i < j, d i < b) : Ticks b j 0 d d
  | cons {n p : Nat} {d d' d'' : Nat → Nat} (hd : ∀ i < j, d i < b) :
      Tick j p d d' → Ticks b j n d' d'' → Ticks b j (n + 1) d d''

theorem Ticks.digits_lt {j n : Nat} (h : Ticks b j n d d') : ∀ i < j, d' i < b := by
  induction h with
  | nil hd => exact hd
  | cons _ _ _ ih => exact ih

theorem Ticks.add_le_value {j n : Nat} (h : Ticks b j n d d') : value b d j + n ≤ value b d' j := by
  induction h with
  | nil => exact Nat.le_refl _
  | cons hd ht _ ih =>
    have := ht.value_lt hd
    omega

/-- **Fewer than `b ^ j` ticks below `j` fit in a row.** -/
theorem Ticks.length_lt {j n : Nat} (h : Ticks b j n d d') : n < b ^ j := by
  have hle := h.add_le_value
  have hlt := Odometer.value_lt j h.digits_lt
  omega

end Odometer
