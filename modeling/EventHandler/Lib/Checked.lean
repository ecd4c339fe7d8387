import Mathlib

/-!
# Checked arithmetic

The arithmetic of a signed machine type: an operation whose exact result leaves the type has no
result (in C++ its behaviour is undefined).  A computation is a chain of such operations in
`Option`.

* `IntRange` — the range of a type; it contains 0.
* `add`, `sub`, `mul`, `mod` — the operations; division and remainder round towards zero.
* `exact_bind`, `add_bind`, `sub_bind`, `mul_bind` — a chain goes on exactly when the exact result is
  held.
* `mod_of_nonneg` — the remainder of a number that is not negative by a positive one.
-/

set_option autoImplicit false

namespace Checked

structure IntRange where
  lo : Int
  hi : Int
  lo_nonpos : lo ≤ 0
  hi_nonneg : 0 ≤ hi

namespace IntRange

variable (R : IntRange)

/-- The number is a value of the type. -/
def Holds (x : Int) : Prop := R.lo ≤ x ∧ x ≤ R.hi

instance holdsDecidable (x : Int) : Decidable (R.Holds x) :=
  inferInstanceAs (Decidable (R.lo ≤ x ∧ x ≤ R.hi))

/-- The value with the exact result `x`. -/
def exact (x : Int) : Option Int := if R.Holds x then some x else none

def add (x y : Int) : Option Int := R.exact (x + y)

def sub (x y : Int) : Option Int := R.exact (x - y)

def mul (x y : Int) : Option Int := R.exact (x * y)

/-- The remainder is undefined together with the quotient. -/
def mod (x y : Int) : Option Int :=
  if y = 0 then none else (R.exact (x.tdiv y)).bind fun _ => R.exact (x.tmod y)

variable {R} {α : Type} {x y z : Int} {f : Int → Option α} {r : α}

theorem Holds.of_le (hy : R.Holds y) (hx : 0 ≤ x) (h : x ≤ y) : R.Holds x :=
  ⟨le_trans R.lo_nonpos hx, le_trans h hy.2⟩

theorem exact_eq_some : R.exact x = some z ↔ R.Holds x ∧ z = x := by
  unfold exact
  rw [Option.ite_none_right_eq_some, Option.some.injEq, eq_comm (a := x)]

theorem exact_of_holds (h : R.Holds x) : R.exact x = some x := if_pos h

theorem add_eq_some : R.add x y = some z ↔ R.Holds (x + y) ∧ z = x + y := exact_eq_some

theorem sub_eq_some : R.sub x y = some z ↔ R.Holds (x - y) ∧ z = x - y := exact_eq_some

/-- **A chain goes on with the exact result, exactly when the type holds it.** -/
theorem exact_bind : (R.exact x).bind f = some r ↔ R.Holds x ∧ f x = some r := by
  unfold exact
  split
  · rename_i h
    simp [h]
  · rename_i h
    simp [h]

theorem add_bind : (R.add x y).bind f = some r ↔ R.Holds (x + y) ∧ f (x + y) = some r :=
  exact_bind

theorem sub_bind : (R.sub x y).bind f = some r ↔ R.Holds (x - y) ∧ f (x - y) = some r :=
  exact_bind

theorem mul_bind : (R.mul x y).bind f = some r ↔ R.Holds (x * y) ∧ f (x * y) = some r :=
  exact_bind

/-- The remainder of a number that is not negative by a positive one is always defined. -/
theorem mod_of_nonneg (hx : R.Holds x) (h : 0 ≤ x) (hy : 0 < y) : R.mod x y = some (x % y) := by
  have hdiv : R.Holds (x.tdiv y) := by
    refine hx.of_le (Int.tdiv_nonneg h hy.le) ?_
    rw [Int.tdiv_eq_ediv_of_nonneg h]
    exact Int.ediv_le_self y h
  have hmod : R.Holds (x % y) := by
    refine hx.of_le (Int.emod_nonneg x hy.ne') ?_
    have hq : 0 ≤ y * (x / y) := mul_nonneg hy.le (Int.ediv_nonneg h hy.le)
    have hx := Int.emod_add_mul_ediv x y
    omega
  unfold mod
  rw [if_neg hy.ne', exact_of_holds hdiv, Option.bind_some, Int.tmod_eq_emod_of_nonneg h,
    exact_of_holds hmod]

end IntRange

end Checked
