import EventHandler.Lib.Transition

/-!
# Threads that come to an end

Some operations of a system belong to the threads under study, the others to their surroundings.  If
every own operation lowers a measure that the others do not raise, the threads make finitely many
steps; if one of theirs is enabled until they are done, they get there by themselves.

* `Lowers` — the invariant and the measure.
* `Lowers.run` — the own steps of a run are paid for by the measure.
* `Lowers.completes` — the own steps alone lead to the end.
-/

set_option autoImplicit false

namespace Transition

variable {σ α : Type}

structure Lowers (S : System σ α) (own : α → Bool) (I : σ → Prop) (μ : σ → Nat) : Prop where
  keeps : ∀ s a t, I s → S.step s a = some t → I t
  lowers : ∀ s a t, I s → S.step s a = some t → own a = true → μ t < μ s
  stays : ∀ s a t, I s → S.step s a = some t → own a = false → μ t ≤ μ s

variable {S : System σ α} {own : α → Bool} {I : σ → Prop} {μ : σ → Nat}

/-- **The measure pays for the own steps.** -/
theorem Lowers.run (h : Lowers S own I μ) {s t : σ} {as : List α}
    (hrun : S.Run System.always s as t) (hs : I s) : I t ∧ as.countP own + μ t ≤ μ s := by
  induction hrun with
  | nil s => exact ⟨hs, by simp⟩
  | @cons s t u a as hok hst _ ih =>
    obtain ⟨hu, hle⟩ := ih (h.keeps s a t hs hst)
    refine ⟨hu, ?_⟩
    rw [List.countP_cons]
    cases ho : own a with
    | true =>
      have hlt := h.lowers s a t hs hst ho
      simp only [if_true]
      omega
    | false =>
      have hle' := h.stays s a t hs hst ho
      simp only [Bool.false_eq_true, if_false]
      omega

/-- **The threads get to their end by themselves.** -/
theorem Lowers.completes (h : Lowers S own I μ) {D : σ → Prop}
    (henabled : ∀ s, I s → ¬ D s → ∃ a t, own a = true ∧ S.step s a = some t) :
    ∀ (n : Nat) (s : σ), I s → μ s ≤ n →
      ∃ as t, S.Run (fun _ a => own a = true) s as t ∧ D t := by
  intro n
  induction n with
  | zero =>
    intro s hs hn
    by_cases hd : D s
    · exact ⟨[], s, .nil s, hd⟩
    · obtain ⟨a, t, ho, hst⟩ := henabled s hs hd
      have := h.lowers s a t hs hst ho
      omega
  | succ n ih =>
    intro s hs hn
    by_cases hd : D s
    · exact ⟨[], s, .nil s, hd⟩
    · obtain ⟨a, t, ho, hst⟩ := henabled s hs hd
      have hlt := h.lowers s a t hs hst ho
      obtain ⟨as, u, hrun, hu⟩ := ih t (h.keeps s a t hs hst) (by omega)
      exact ⟨a :: as, u, .cons ho hst hrun, hu⟩

end Transition
