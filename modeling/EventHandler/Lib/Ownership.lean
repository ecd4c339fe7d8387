import Mathlib.Data.List.Basic

/-!
# Resources that their last owner releases

A resource is made for a unique owner, who may hand it to owners that share it; whoever drops it last
releases it.  An owner that shares it and will never drop it is stuck.

* `Account` — the owners of one resource, and how often it was released.
* `Move` — what a step may do to an account; its index says that the step loses the resource.
* `Sound` — a resource is released at most once, and never while it has an owner; every move keeps
  this.
* `Settled` — a resource is released exactly when it has no owner left, and none of them is stuck.
  `settled_iff` — a move keeps this exactly if it does not lose the resource.
-/

set_option autoImplicit false

namespace Ownership

structure Account where
  made : Bool
  /-- Unique owners. -/
  waits : Nat
  /-- Owners that share it and will drop it. -/
  shared : Nat
  /-- Owners that share it and will not. -/
  stuck : Nat
  released : Nat
  deriving DecidableEq, Repr

/-- What a step does to one resource, and whether it loses it. -/
inductive Move (a : Account) : Bool → Account → Prop
  | kept : Move a false a
  | made (h : a.made = false) :
      Move a false { a with made := true, waits := a.waits + 1 }
  /-- It is made and its owner disappears at once. -/
  | unowned (h : a.made = false) : Move a true { a with made := true }
  | handed (h : 0 < a.waits) :
      Move a false { a with waits := a.waits - 1, shared := a.shared + 1 }
  /-- The unique owner disappears. -/
  | abandoned (h : 0 < a.waits) : Move a true { a with waits := a.waits - 1 }
  | copied (h : 0 < a.shared) : Move a false { a with shared := a.shared + 1 }
  /-- It is shared with an owner that is stuck. -/
  | copiedStuck (h : 0 < a.shared) : Move a true { a with stuck := a.stuck + 1 }
  /-- An owner gets stuck. -/
  | getsStuck (h : 0 < a.shared) :
      Move a true { a with shared := a.shared - 1, stuck := a.stuck + 1 }
  | dropped (h : 0 < a.shared) (h' : a.shared + a.stuck ≠ 1) :
      Move a false { a with shared := a.shared - 1 }
  | released (h : a.shared = 1) (h' : a.stuck = 0) :
      Move a false { a with shared := 0, released := a.released + 1 }
  /-- The last owner drops it without releasing it. -/
  | forgotten (h : a.shared = 1) (h' : a.stuck = 0) :
      Move a true { a with shared := 0 }

/-- There is one unique owner at most, and then no other; and at most one release, none while there is
    an owner. -/
structure Sound (a : Account) : Prop where
  fresh : a.made = false → a.waits = 0 ∧ a.shared = 0 ∧ a.stuck = 0 ∧ a.released = 0
  alone : a.waits ≤ 1 ∧ (a.waits = 1 → a.shared = 0 ∧ a.stuck = 0)
  once : a.released ≤ 1 ∧ (a.released = 1 → a.waits = 0 ∧ a.shared = 0 ∧ a.stuck = 0)

/-- No owner is stuck, and the resource is released exactly if it has no owner left. -/
def Settled (a : Account) : Prop :=
  a.made = true →
    a.stuck = 0 ∧
      ((0 < a.waits + a.shared ∧ a.released = 0) ∨ (a.waits + a.shared = 0 ∧ a.released = 1))

variable {a b : Account} {lost : Bool}

theorem Sound.unmade : Sound ⟨false, 0, 0, 0, 0⟩ :=
  ⟨by simp, by simp, by simp⟩

theorem Settled.unmade : Settled ⟨false, 0, 0, 0, 0⟩ := by
  intro h
  cases h

theorem Sound.made_of_owner (h : Sound a) (ho : 0 < a.waits + a.shared) : a.made = true := by
  by_contra hmade
  have := h.fresh (Bool.eq_false_iff.2 hmade)
  omega

/-- **Every move keeps an account sound.** -/
theorem Sound.move (h : Sound a) (hm : Move a lost b) : Sound b := by
  have halone := h.alone
  have honce := h.once
  -- a move of a resource that has an owner does not make it
  have howned : ∀ {c : Account}, 0 < a.waits + a.shared → c.made = a.made →
      (c.waits ≤ 1 ∧ (c.waits = 1 → c.shared = 0 ∧ c.stuck = 0)) →
      (c.released ≤ 1 ∧ (c.released = 1 → c.waits = 0 ∧ c.shared = 0 ∧ c.stuck = 0)) → Sound c := by
    intro c ho hmade halone honce
    refine ⟨fun hfalse => ?_, halone, honce⟩
    rw [hmade, h.made_of_owner ho] at hfalse
    cases hfalse
  cases hm with
  | kept => exact h
  | made hmade =>
    have hfresh := h.fresh hmade
    refine ⟨by simp, ?_, ?_⟩ <;> dsimp only <;> omega
  | unowned hmade => exact ⟨by simp, halone, honce⟩
  | handed hpos => refine howned (by omega) rfl ?_ ?_ <;> dsimp only <;> omega
  | abandoned hpos => refine howned (by omega) rfl ?_ ?_ <;> dsimp only <;> omega
  | copied hpos => refine howned (by omega) rfl ?_ ?_ <;> dsimp only <;> omega
  | copiedStuck hpos => refine howned (by omega) rfl ?_ ?_ <;> dsimp only <;> omega
  | getsStuck hpos => refine howned (by omega) rfl ?_ ?_ <;> dsimp only <;> omega
  | dropped hpos hmore => refine howned (by omega) rfl ?_ ?_ <;> dsimp only <;> omega
  | released hone hstuck => refine howned (by omega) rfl ?_ ?_ <;> dsimp only <;> omega
  | forgotten hone hstuck => refine howned (by omega) rfl ?_ ?_ <;> dsimp only <;> omega

/-- **A move of a settled account settles it exactly if it does not lose the resource.** -/
theorem settled_iff (h : Sound a) (hs : Settled a) (hm : Move a lost b) :
    Settled b ↔ lost = false := by
  have halone := h.alone
  cases hm with
  | kept => exact iff_of_true hs rfl
  | made hmade =>
    have hfresh := h.fresh hmade
    refine iff_of_true (fun _ => ?_) rfl
    dsimp only
    omega
  | unowned hmade =>
    have hfresh := h.fresh hmade
    refine iff_of_false (fun hset => ?_) (by simp)
    have hb := hset rfl
    dsimp only at hb
    omega
  | handed hpos =>
    have ha := hs (h.made_of_owner (by omega))
    refine iff_of_true (fun _ => ?_) rfl
    dsimp only
    omega
  | abandoned hpos =>
    have hmade := h.made_of_owner (by omega)
    have ha := hs hmade
    refine iff_of_false (fun hset => ?_) (by simp)
    have hb := hset hmade
    dsimp only at hb
    omega
  | copied hpos =>
    have ha := hs (h.made_of_owner (by omega))
    refine iff_of_true (fun _ => ?_) rfl
    dsimp only
    omega
  | copiedStuck hpos =>
    refine iff_of_false (fun hset => ?_) (by simp)
    have hb := hset (h.made_of_owner (by omega))
    dsimp only at hb
    omega
  | getsStuck hpos =>
    refine iff_of_false (fun hset => ?_) (by simp)
    have hb := hset (h.made_of_owner (by omega))
    dsimp only at hb
    omega
  | dropped hpos hmore =>
    have ha := hs (h.made_of_owner (by omega))
    refine iff_of_true (fun _ => ?_) rfl
    dsimp only
    omega
  | released hone hstuck =>
    have ha := hs (h.made_of_owner (by omega))
    refine iff_of_true (fun _ => ?_) rfl
    dsimp only
    omega
  | forgotten hone hstuck =>
    have hmade := h.made_of_owner (by omega)
    have ha := hs hmade
    refine iff_of_false (fun hset => ?_) (by simp)
    have hb := hset hmade
    dsimp only at hb
    omega

end Ownership
