/-!
# Guarded transition systems

A transition system is an initial state and a partial step function: `step s a = none` says that
operation `a` is not enabled in `s`.  Everything the environment decides (clock readings, which
thread moves, what the kernel answers) is part of the operation, so a run is a list of operations.

* `Run ok s as t` — the operations `as` lead from `s` to `t`, and each of them satisfies the
  guard `ok` in the state it is taken in.  The guard carries what a result assumes about a run;
  `always` is the guard of the unrestricted run.
* `Reachable ok s` — `s` ends a guarded run from the initial state.
* `Run.invariant`, `Reachable.invariant` — the invariant rule: what every guarded step preserves
  holds in every state reached.
* `Run.exchange` — a run under one guard is a run under another that an invariant gives.
* `restrict` — the subsystem whose operations also satisfy a decidable side condition.
* `Simulation` — a map of states under which every step of one system is a run of another;
  `Simulation.reachable` carries reachability, hence every invariant, along it.
* `execIf` — guarded execution of a concrete list, with `run_of_exec` to read a run off it.
-/

set_option autoImplicit false

namespace Transition

/-- An initial state and a partial step function. -/
structure System (σ α : Type) where
  init : σ
  step : σ → α → Option σ

namespace System

variable {σ α τ β : Type}

/-- The guard that allows every operation. -/
def always (_ : σ) (_ : α) : Prop := True

/-- Guarded runs. -/
inductive Run (S : System σ α) (ok : σ → α → Prop) : σ → List α → σ → Prop
  | nil (s : σ) : Run S ok s [] s
  | cons {s t u : σ} {a : α} {as : List α} :
      ok s a → S.step s a = some t → Run S ok t as u → Run S ok s (a :: as) u

/-- States that end a guarded run from the initial state. -/
def Reachable (S : System σ α) (ok : σ → α → Prop) (s : σ) : Prop :=
  ∃ as, S.Run ok S.init as s

variable {S : System σ α} {T : System τ β} {ok ok' : σ → α → Prop}

theorem Run.one {s t : σ} {a : α} (hok : ok s a) (h : S.step s a = some t) : S.Run ok s [a] t :=
  .cons hok h (.nil t)

theorem Run.append {s t u : σ} {as bs : List α} (h₁ : S.Run ok s as t) (h₂ : S.Run ok t bs u) :
    S.Run ok s (as ++ bs) u := by
  induction h₁ with
  | nil => exact h₂
  | cons hok hs _ ih => exact .cons hok hs (ih h₂)

/-- A weaker guard allows more runs. -/
theorem Run.mono {s t : σ} {as : List α} (h : S.Run ok s as t)
    (himp : ∀ s a, ok s a → ok' s a) : S.Run ok' s as t := by
  induction h with
  | nil s => exact .nil s
  | cons hok hs _ ih => exact .cons (himp _ _ hok) hs ih

/-- **The invariant rule for runs.** -/
theorem Run.invariant {I : σ → Prop}
    (hstep : ∀ s a t, I s → ok s a → S.step s a = some t → I t)
    {s t : σ} {as : List α} (h : S.Run ok s as t) (hs : I s) : I t := by
  induction h with
  | nil => exact hs
  | cons hok hst _ ih => exact ih (hstep _ _ _ hs hok hst)

/-- **Exchange of guards**: what the guarded steps preserve helps to get the other guard. -/
theorem Run.exchange {I : σ → Prop} (himp : ∀ s a, I s → ok s a → ok' s a)
    (hstep : ∀ s a t, I s → ok s a → S.step s a = some t → I t)
    {s t : σ} {as : List α} (h : S.Run ok s as t) (hs : I s) : S.Run ok' s as t := by
  induction h with
  | nil s => exact .nil s
  | cons hok hst _ ih => exact .cons (himp _ _ hs hok) hst (ih (hstep _ _ _ hs hok hst))

theorem Reachable.init : S.Reachable ok S.init := ⟨[], .nil _⟩

theorem Reachable.step {s t : σ} {a : α} (hs : S.Reachable ok s) (hok : ok s a)
    (h : S.step s a = some t) : S.Reachable ok t := by
  obtain ⟨as, hr⟩ := hs
  exact ⟨as ++ [a], hr.append (Run.one hok h)⟩

theorem Reachable.run {s t : σ} {as : List α} (hs : S.Reachable ok s) (h : S.Run ok s as t) :
    S.Reachable ok t := by
  obtain ⟨bs, hr⟩ := hs
  exact ⟨bs ++ as, hr.append h⟩

theorem Reachable.mono {s : σ} (hs : S.Reachable ok s) (himp : ∀ s a, ok s a → ok' s a) :
    S.Reachable ok' s := by
  obtain ⟨as, hr⟩ := hs
  exact ⟨as, hr.mono himp⟩

/-- **The invariant rule for reachable states.** -/
theorem Reachable.invariant {I : σ → Prop} (hinit : I S.init)
    (hstep : ∀ s a t, I s → ok s a → S.step s a = some t → I t)
    {s : σ} (h : S.Reachable ok s) : I s := by
  obtain ⟨as, hr⟩ := h
  exact hr.invariant hstep hinit

/-! ## Subsystems -/

/-- The subsystem whose operations also satisfy `g`. -/
def restrict (S : System σ α) (g : σ → α → Bool) : System σ α where
  init := S.init
  step s a := if g s a then S.step s a else none

theorem restrict_step {g : σ → α → Bool} {s t : σ} {a : α} :
    (S.restrict g).step s a = some t ↔ g s a = true ∧ S.step s a = some t := by
  unfold restrict
  simp only
  split
  · rename_i h; simp [h]
  · rename_i h; simp [h]

/-! ## Simulation -/

/-- Under `f`, every guarded step of `S` from a reachable state is a guarded run of `T`. -/
structure Simulation (S : System σ α) (ok : σ → α → Prop) (T : System τ β) (okT : τ → β → Prop)
    (f : σ → τ) : Prop where
  init : f S.init = T.init
  step : ∀ s a t, S.Reachable ok s → ok s a → S.step s a = some t →
    ∃ bs, T.Run okT (f s) bs (f t)

theorem Simulation.reachable {okT : τ → β → Prop} {f : σ → τ} (h : Simulation S ok T okT f) {s : σ}
    (hs : S.Reachable ok s) : T.Reachable okT (f s) := by
  have both : S.Reachable ok s ∧ T.Reachable okT (f s) := by
    refine hs.invariant (I := fun s => S.Reachable ok s ∧ T.Reachable okT (f s))
      ⟨.init, by rw [h.init]; exact .init⟩ ?_
    intro s a t hI hok hst
    obtain ⟨bs, hr⟩ := h.step s a t hI.1 hok hst
    exact ⟨hI.1.step hok hst, hI.2.run hr⟩
  exact both.2

/-! ## Execution of concrete runs -/

/-- The state after an operation, or the same state when it is not enabled. -/
def next (S : System σ α) (s : σ) (a : α) : σ := (S.step s a).getD s

theorem step_next {s : σ} {a : α} (h : (S.step s a).isSome = true) :
    S.step s a = some (S.next s a) := by
  obtain ⟨t, ht⟩ := Option.isSome_iff_exists.1 h
  unfold next
  rw [ht]
  rfl

/-- Execute a list of operations, checking the guard before each. -/
def execIf (S : System σ α) (ok : σ → α → Bool) (s : σ) : List α → Option σ
  | [] => some s
  | a :: as =>
    if ok s a then
      match S.step s a with
      | some t => S.execIf ok t as
      | none => none
    else none

theorem run_of_execIf {okb : σ → α → Bool} : ∀ {as : List α} {s t : σ},
    S.execIf okb s as = some t → S.Run (fun s a => okb s a = true) s as t := by
  intro as
  induction as with
  | nil =>
    intro s t h
    simp only [execIf, Option.some.injEq] at h
    subst h
    exact .nil s
  | cons a as ih =>
    intro s t h
    unfold execIf at h
    split at h
    · rename_i hok
      split at h
      · rename_i t' hst
        exact .cons hok hst (ih h)
      · cases h
    · cases h

instance (s : σ) (a : α) : Decidable (always s a) := isTrue trivial

/-- A checked execution whose last state passes a test gives a reachable state that passes it. -/
theorem run_of_exec (S : System σ α) (ok : σ → α → Prop) [∀ s a, Decidable (ok s a)]
    (P : σ → Prop) [DecidablePred P] (as : List α)
    (h : (S.execIf (fun s a => decide (ok s a)) S.init as).any (fun s => decide (P s)) = true) :
    ∃ s, S.Run ok S.init as s ∧ P s := by
  cases hx : S.execIf (fun s a => decide (ok s a)) S.init as with
  | none => rw [hx] at h; cases h
  | some t =>
    rw [hx] at h
    exact ⟨t, (run_of_execIf hx).mono fun s a h => of_decide_eq_true h, of_decide_eq_true h⟩

end System

end Transition
