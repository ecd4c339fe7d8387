import EventHandler.Lib.Transition
import Mathlib

/-!
# Agents that wait for one agent each

In every state an agent waits for at most one other (`w c = some r`).  It can go on when the chain
of agents it waits for ends with an agent that waits for nobody.

* `Ends w c` — the chain from `c` ends; stated as accessibility, so no bound on the number of
  agents is needed.
* `Knot w D` — every agent in `D` waits for one in `D`.
* `ends_of_rank` — waits that go down in a well-founded order end.
* `Patient` — only the agent waited for can end a wait, and only while it is not waiting itself.
* `Helpful` — an agent that is not waiting can serve those that wait for it.
* `released_iff` — in such a system an agent can be released exactly when its chain ends.
-/

set_option autoImplicit false

namespace WaitsFor

open Transition

variable {ι σ α : Type}

/-- The chain of agents from `c` on ends. -/
def Ends (w : ι → Option ι) (c : ι) : Prop := Acc (fun r c => w c = some r) c

/-- Every agent in `D` waits for an agent in `D`. -/
def Knot (w : ι → Option ι) (D : ι → Prop) : Prop := ∀ c, D c → ∃ r, w c = some r ∧ D r

variable {w : ι → Option ι} {c r : ι}

theorem ends_of_free (h : w c = none) : Ends w c := by
  refine Acc.intro c fun r hr => ?_
  rw [h] at hr
  cases hr

theorem ends_iff_of_some (h : w c = some r) : Ends w c ↔ Ends w r := by
  refine ⟨fun hc => hc.inv h, fun hr => Acc.intro c fun y hy => ?_⟩
  rw [h] at hy
  cases hy
  exact hr

/-- **Waits that go down in a well-founded order end.** -/
theorem ends_of_rank {ν : Type} {lt : ν → ν → Prop} (hwf : WellFounded lt) (rank : ι → ν)
    (h : ∀ c r, w c = some r → lt (rank r) (rank c)) (c : ι) : Ends w c := by
  have hsub : Subrelation (fun r c => w c = some r) (InvImage lt rank) := fun {r c} hr => h c r hr
  exact (hsub.wf (InvImage.wf rank hwf)).apply c

/-- A chain that ends has no agent of a knot. -/
theorem Knot.not_ends {D : ι → Prop} (h : Knot w D) (hc : D c) : ¬ Ends w c := by
  intro he
  induction he with
  | intro c _ ih =>
    obtain ⟨r, hr, hD⟩ := h c hc
    exact ih r hr hD

/-- The agents whose chains do not end form a knot. -/
theorem knot_not_ends (w : ι → Option ι) : Knot w (fun c => ¬ Ends w c) := by
  intro c hc
  cases hw : w c with
  | none => exact absurd (ends_of_free hw) hc
  | some r => exact ⟨r, rfl, fun hr => hc ((ends_iff_of_some hw).2 hr)⟩

/-! ## Systems of waiting agents -/

/-- A step ends no wait for an agent that waits itself. -/
def Patient (S : System σ α) (ok : σ → α → Prop) (w : σ → ι → Option ι) : Prop :=
  ∀ s a t c r, ok s a → S.step s a = some t → w s c = some r → (w s r).isSome = true →
    w t c = some r

/-- From the states of `I`, an agent that waits for a free agent can be released, without a new
    wait of any agent. -/
def Helpful (S : System σ α) (own : σ → α → Prop) (I : σ → Prop) (w : σ → ι → Option ι) : Prop :=
  ∀ s c r, I s → w s c = some r → w s r = none →
    ∃ as t, S.Run own s as t ∧ I t ∧ w t c = none ∧ ∀ d, w t d = none ∨ w t d = w s d

variable {S : System σ α} {ok own : σ → α → Prop} {I : σ → Prop} {w : σ → ι → Option ι}

/-- **A knot is never untied.** -/
theorem Knot.run {D : ι → Prop} (hp : Patient S ok w) {s t : σ} {as : List α}
    (h : S.Run ok s as t) (hk : Knot (w s) D) : Knot (w t) D := by
  refine h.invariant (I := fun s => Knot (w s) D) ?_ hk
  intro s a t hk hok hst c hc
  obtain ⟨r, hr, hD⟩ := hk c hc
  obtain ⟨r', hr', -⟩ := hk r hD
  exact ⟨r, hp s a t c r hok hst hr (by rw [hr']; rfl), hD⟩

/-- An agent whose chain ends can be released: first the agent it waits for, then itself. -/
theorem Ends.released (hh : Helpful S own I w) {s : σ} {c : ι} (hs : I s) (he : Ends (w s) c) :
    ∃ as t, S.Run own s as t ∧ I t ∧ w t c = none ∧ ∀ d, w t d = none ∨ w t d = w s d := by
  induction he with
  | intro c _ ih =>
    cases hc : w s c with
    | none => exact ⟨[], s, .nil s, hs, hc, fun _ => Or.inr rfl⟩
    | some r =>
      obtain ⟨as, t, hrun, ht, hr, hkeep⟩ := ih r hc
      rcases hkeep c with hct | hct
      · exact ⟨as, t, hrun, ht, hct, hkeep⟩
      · rw [hc] at hct
        obtain ⟨bs, u, hrun', hu, hcu, hkeep'⟩ := hh t c r ht hct hr
        refine ⟨as ++ bs, u, hrun.append hrun', hu, hcu, fun d => ?_⟩
        rcases hkeep' d with hd | hd
        · exact Or.inl hd
        · rw [hd]
          exact hkeep d

/-- **An agent can be released exactly when its chain ends**, and then without the steps that `own`
    excludes. -/
theorem released_iff (hp : Patient S ok w) (hh : Helpful S own I w)
    (hown : ∀ s a, own s a → ok s a) {s : σ} (hs : I s) (c : ι) :
    ((∃ as t, S.Run ok s as t ∧ w t c = none) ↔ Ends (w s) c) ∧
      ((∃ as t, S.Run own s as t ∧ w t c = none) ↔ Ends (w s) c) := by
  have stuck : ∀ as t, S.Run ok s as t → w t c = none → Ends (w s) c := by
    intro as t hrun ht
    by_contra he
    obtain ⟨r, hr, -⟩ := (Knot.run hp hrun (knot_not_ends (w s))) c he
    rw [ht] at hr
    cases hr
  have free : Ends (w s) c → ∃ as t, S.Run own s as t ∧ w t c = none := by
    intro he
    obtain ⟨as, t, hrun, -, hc, -⟩ := he.released hh hs
    exact ⟨as, t, hrun, hc⟩
  refine ⟨⟨fun ⟨as, t, hrun, ht⟩ => stuck as t hrun ht, fun he => ?_⟩,
    ⟨fun ⟨as, t, hrun, ht⟩ => stuck as t (hrun.mono hown) ht, free⟩⟩
  obtain ⟨as, t, hrun, hc⟩ := free he
  exact ⟨as, t, hrun.mono hown, hc⟩

end WaitsFor
