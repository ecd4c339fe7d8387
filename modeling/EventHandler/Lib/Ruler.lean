import Mathlib

/-!
# Turns that are counted in quotas

Contenders take turns in a fixed order.  One that has taken `b - 1` turns since it was last passed
over is passed over, and its count starts again; the last contender takes what is left.

* `Turn` — one turn: who takes it, and the counts behind it.
* `value` — the counts of all but the last contender, as the digits of one number.
* `Turn.value_eq` — every turn raises that number by one, modulo `b ^ k`.
* `ruler`, `le_ruler_iff` — the index of the contender whose turn it is: how often `b` divides the
  number of the turn, at most `k`.
* `Turns.nth` — the sequence of turns is the ruler sequence of base `b`.
* `Turns.share` — among `b ^ k` turns in a row contender `m` takes `(b - 1) * b ^ (k - 1 - m)`, and
  the last one takes one.
-/

set_option autoImplicit false

namespace Ruler

variable {α : Type*} {b : Nat}

/-- The digits `b - 1` at the end of `v`, at most `k`. -/
def ruler (b : Nat) : Nat → Nat → Nat
  | 0, _ => 0
  | k + 1, v => if v % b + 1 = b then ruler b k (v / b) + 1 else 0

/-- The counts of all contenders but the last one, the first one as the lowest digit. -/
def value (b : Nat) (d : α → Nat) : List α → Nat
  | [] => 0
  | [_] => 0
  | r :: c :: R => d r + b * value b d (c :: R)

/-- Contender `p` takes the turn, and the counts go from `d` to `d'`. -/
inductive Turn (b : Nat) (d d' : α → Nat) : List α → α → Prop
  | last (r : α) : Turn b d d' [r] r
  | stays {r c : α} {R : List α} (hb : d r + 1 < b) (hr : d' r = d r + 1)
      (hR : ∀ x ∈ c :: R, d' x = d x) : Turn b d d' (r :: c :: R) r
  | passes {r c p : α} {R : List α} (hb : d r + 1 = b) (hr : d' r = 0)
      (h : Turn b d d' (c :: R) p) : Turn b d d' (r :: c :: R) p

/-- Turns in a row; the counts are below `b` before each of them. -/
inductive Turns (b : Nat) (R : List α) : (α → Nat) → List α → (α → Nat) → Prop
  | nil (d : α → Nat) : Turns b R d [] d
  | cons {d d' d'' : α → Nat} {p : α} {ps : List α} (hd : ∀ x ∈ R, d x < b)
      (h : Turn b d d' R p) (hs : Turns b R d' ps d'') : Turns b R d (p :: ps) d''

theorem value_congr {d d' : α → Nat} : ∀ {R : List α}, (∀ x ∈ R, d' x = d x) →
    value b d' R = value b d R
  | [], _ => rfl
  | [_], _ => rfl
  | r :: c :: R, h => by
    unfold value
    rw [h r List.mem_cons_self, value_congr fun x hx => h x (List.mem_cons_of_mem _ hx)]

theorem value_lt {d : α → Nat} : ∀ {R : List α}, (∀ x ∈ R, d x < b) →
    value b d R < b ^ (R.length - 1)
  | [], _ => Nat.one_pos
  | [_], _ => Nat.one_pos
  | r :: c :: R, h => by
    have hr := h r List.mem_cons_self
    have ih := value_lt fun x hx => h x (List.mem_cons_of_mem _ hx)
    have hmul : b * (value b d (c :: R) + 1) ≤ b * b ^ R.length := Nat.mul_le_mul_left b ih
    show d r + b * value b d (c :: R) < b ^ (R.length + 1)
    rw [pow_succ, Nat.mul_comm (b ^ R.length)]
    rw [Nat.mul_add] at hmul
    omega

/-- **A turn raises the value by one.** -/
theorem Turn.value_eq {d d' : α → Nat} {R : List α} {p : α} (h : Turn b d d' R p)
    (hd : ∀ x ∈ R, d x < b) : value b d' R = (value b d R + 1) % b ^ (R.length - 1) := by
  induction h with
  | last r => rw [List.length_singleton, pow_zero, Nat.mod_one]; rfl
  | @stays r c R hb hr hR =>
    have hlt := value_lt fun x hx => hd x (List.mem_cons_of_mem r hx)
    have hmul : b * (value b d (c :: R) + 1) ≤ b * b ^ R.length := Nat.mul_le_mul_left b hlt
    show d' r + b * value b d' (c :: R) = (d r + b * value b d (c :: R) + 1) % b ^ (R.length + 1)
    rw [value_congr hR, hr, pow_succ, Nat.mul_comm (b ^ R.length), Nat.mod_eq_of_lt]
    · omega
    · rw [Nat.mul_add] at hmul
      omega
  | @passes r c p R hb hr _ ih =>
    show d' r + b * value b d' (c :: R) = (d r + b * value b d (c :: R) + 1) % b ^ (R.length + 1)
    rw [ih fun x hx => hd x (List.mem_cons_of_mem _ hx), hr, pow_succ, Nat.mul_comm (b ^ R.length),
      show d r + b * value b d (c :: R) + 1 = b * (value b d (c :: R) + 1) by
        rw [Nat.mul_add]; omega, Nat.mul_mod_mul_left, Nat.zero_add]
    rfl

/-- **The value says whose turn it is.** -/
theorem Turn.index {d d' : α → Nat} {R : List α} {p : α} (h : Turn b d d' R p)
    (hd : ∀ x ∈ R, d x < b) : R[ruler b (R.length - 1) (value b d R)]? = some p := by
  induction h with
  | last r => rfl
  | @stays r c R hb hr hR =>
    have hmod : (d r + b * value b d (c :: R)) % b = d r := by
      rw [Nat.add_mul_mod_self_left, Nat.mod_eq_of_lt (by omega)]
    show (r :: c :: R)[ruler b (R.length + 1) (d r + b * value b d (c :: R))]? = some r
    unfold ruler
    rw [hmod, if_neg (by omega)]
    rfl
  | @passes r c p R hb hr _ ih =>
    have hlt := hd r List.mem_cons_self
    have hmod : (d r + b * value b d (c :: R)) % b = d r := by
      rw [Nat.add_mul_mod_self_left, Nat.mod_eq_of_lt hlt]
    have hdiv : (d r + b * value b d (c :: R)) / b = value b d (c :: R) := by
      rw [Nat.add_mul_div_left _ _ (by omega), Nat.div_eq_of_lt hlt, Nat.zero_add]
    show (r :: c :: R)[ruler b (R.length + 1) (d r + b * value b d (c :: R))]? = some p
    unfold ruler
    rw [hmod, if_pos hb, hdiv, List.getElem?_cons_succ]
    exact ih fun x hx => hd x (List.mem_cons_of_mem _ hx)

/-- **The ruler**: how often `b` divides `v + 1`, at most `k`. -/
theorem le_ruler_iff (hb : 0 < b) : ∀ {k v m : Nat},
    m ≤ ruler b k v ↔ m ≤ k ∧ b ^ m ∣ v + 1
  | k, v, 0 => by simp
  | 0, v, m + 1 => by simp [ruler]
  | k + 1, v, m + 1 => by
    unfold ruler
    split
    · rename_i h
      have hv : v + 1 = b * (v / b + 1) := by
        have := Nat.div_add_mod v b
        rw [Nat.mul_add]
        omega
      rw [Nat.add_le_add_iff_right, Nat.add_le_add_iff_right, le_ruler_iff hb, hv, pow_succ,
        Nat.mul_comm (b ^ m), Nat.mul_dvd_mul_iff_left hb]
    · rename_i h
      refine iff_of_false (by omega) fun ⟨_, hdvd⟩ => h ?_
      have hdvd : b ∣ v + 1 := (dvd_pow_self b (Nat.succ_ne_zero m)).trans hdvd
      obtain ⟨c, hc⟩ := hdvd
      have hlt := Nat.mod_lt v hb
      have hv := Nat.div_add_mod v b
      -- `v` and `v % b` leave the same rest, so `b` divides `v % b + 1`.
      have hdvd' : b ∣ v % b + 1 := by
        rw [← Nat.dvd_add_right (Dvd.intro (v / b) rfl : b ∣ b * (v / b))]
        exact ⟨c, by omega⟩
      exact le_antisymm hlt (Nat.le_of_dvd (Nat.succ_pos _) hdvd')

theorem ruler_le (k v : Nat) (hb : 0 < b) : ruler b k v ≤ k :=
  ((le_ruler_iff hb).1 (le_refl _)).1

/-- The ruler has period `b ^ k`. -/
theorem ruler_mod (hb : 0 < b) (k v : Nat) : ruler b k (v % b ^ k) = ruler b k v := by
  apply eq_of_forall_le_iff
  intro m
  rw [le_ruler_iff hb, le_ruler_iff hb]
  refine and_congr_right fun hm => ?_
  have hdvd : b ^ m ∣ b ^ k * (v / b ^ k) := (pow_dvd_pow b hm).mul_right _
  rw [← Nat.dvd_add_right hdvd, ← Nat.add_assoc, Nat.div_add_mod]

/-- **The turns follow the ruler.** -/
theorem Turns.nth (hb : 0 < b) {d d' : α → Nat} {R ps : List α} (h : Turns b R d ps d') :
    ∀ {n : Nat} {p : α}, ps[n]? = some p →
      R[ruler b (R.length - 1) (value b d R + n)]? = some p := by
  induction h with
  | nil d => exact fun hp => by cases hp
  | @cons d d' d'' p ps hd hp hs ih =>
    intro n q hq
    cases n with
    | zero =>
      cases hq
      exact hp.index hd
    | succ n =>
      have hn := ih hq
      rw [← ruler_mod hb, hp.value_eq hd, Nat.mod_add_mod, ruler_mod hb] at hn
      rw [← Nat.add_assoc, Nat.add_right_comm]
      exact hn

/-! ## The shares -/

theorem countP_dvd (p v n : Nat) :
    (List.range n).countP (fun i => decide (p ∣ v + i + 1)) + v / p = (v + n) / p := by
  induction n with
  | zero => simp
  | succ n ih =>
    rw [List.range_succ, List.countP_append, List.countP_singleton, ← Nat.add_assoc, Nat.succ_div]
    simp only [decide_eq_true_eq]
    omega

/-- Of `b ^ k` numbers in a row `b ^ (k - m)` have a ruler of at least `m`. -/
theorem countP_le_ruler (hb : 0 < b) {k m : Nat} (hm : m ≤ k) (v : Nat) :
    (List.range (b ^ k)).countP (fun i => decide (m ≤ ruler b k (v + i))) = b ^ (k - m) := by
  have hpos : 0 < b ^ m := pow_pos hb m
  have hcount := countP_dvd (b ^ m) v (b ^ k)
  have hdiv : (v + b ^ k) / b ^ m = v / b ^ m + b ^ (k - m) := by
    rw [show b ^ k = b ^ m * b ^ (k - m) by rw [← pow_add, Nat.add_sub_cancel' hm],
      Nat.add_mul_div_left _ _ hpos]
  have heq : (fun i => decide (m ≤ ruler b k (v + i))) = fun i => decide (b ^ m ∣ v + i + 1) := by
    funext i
    exact decide_eq_decide.2 ((le_ruler_iff hb).trans (and_iff_right hm))
  rw [heq]
  omega

/-- How often the ruler is `m`. -/
theorem countP_ruler_eq (hb : 0 < b) {k m : Nat} (hm : m ≤ k) (v : Nat) :
    (List.range (b ^ k)).countP (fun i => decide (ruler b k (v + i) = m)) =
      if m = k then 1 else (b - 1) * b ^ (k - 1 - m) := by
  have hge := countP_le_ruler hb hm v
  split
  · rename_i hmk
    subst hmk
    rw [Nat.sub_self, pow_zero] at hge
    rw [← hge]
    refine List.countP_congr fun i _ => ?_
    have hle := ruler_le m (v + i) hb
    simp only [decide_eq_true_eq]
    omega
  · rename_i hmk
    have hlt : m + 1 ≤ k := by omega
    have hgt := countP_le_ruler hb hlt v
    have hsplit : ∀ l : List Nat, l.countP (fun i => decide (m ≤ ruler b k (v + i))) =
        l.countP (fun i => decide (ruler b k (v + i) = m)) +
          l.countP (fun i => decide (m + 1 ≤ ruler b k (v + i))) := by
      intro l
      induction l with
      | nil => rfl
      | cons x l ih =>
        simp only [List.countP_cons, ih, decide_eq_true_eq]
        split <;> split <;> split <;> omega
    rw [hsplit, hgt] at hge
    rw [show k - m = (k - 1 - m) + 1 by omega, pow_succ] at hge
    rw [show k - (m + 1) = k - 1 - m by omega] at hge
    rw [Nat.sub_mul, Nat.one_mul, Nat.mul_comm b]
    omega

/-- **The shares**: among `b ^ k` turns in a row of `k + 1` contenders, contender `m` takes
    `(b - 1) * b ^ (k - 1 - m)`, and the last one takes one. -/
theorem Turns.share [DecidableEq α] (hb : 0 < b) {d d' : α → Nat} {R ps : List α} (hR : R.Nodup)
    (h : Turns b R d ps d') (hlen : ps.length = b ^ (R.length - 1)) {m : Nat} {p : α}
    (hm : R[m]? = some p) :
    ps.count p = if m + 1 = R.length then 1 else (b - 1) * b ^ (R.length - 2 - m) := by
  obtain ⟨hmR, hp⟩ := List.getElem?_eq_some_iff.1 hm
  -- The turns as the contenders at the rulers of consecutive numbers.
  have hps : ps = (List.range ps.length).map fun i =>
      R.getD (ruler b (R.length - 1) (value b d R + i)) p := by
    apply List.ext_getElem?
    intro i
    rw [List.getElem?_map]
    rcases lt_or_ge i ps.length with hi | hi
    · rw [List.getElem?_range hi]
      have hq := h.nth hb (List.getElem?_eq_getElem hi)
      rw [List.getElem?_eq_getElem hi, Option.map_some, List.getD_eq_getElem?_getD, hq]
      rfl
    · rw [List.getElem?_eq_none hi, List.getElem?_eq_none (by simpa using hi)]
      rfl
  have hidx : ∀ v, R.getD (ruler b (R.length - 1) v) p = p ↔ ruler b (R.length - 1) v = m := by
    intro v
    have hlt : ruler b (R.length - 1) v < R.length := by
      have := ruler_le (R.length - 1) v hb
      omega
    rw [List.getD_eq_getElem?_getD, List.getElem?_eq_getElem hlt, Option.getD_some]
    conv_lhs => rw [← hp]
    exact hR.getElem_inj_iff
  have hcount := countP_ruler_eq hb (show m ≤ R.length - 1 by omega) (value b d R)
  rw [hps, List.count_eq_countP, List.countP_map, hlen]
  refine Eq.trans (List.countP_congr fun i _ => ?_) (hcount.trans ?_)
  · simpa using hidx (value b d R + i)
  · rw [show R.length - 1 - 1 - m = R.length - 2 - m by omega]
    exact if_congr (by omega) rfl rfl

end Ruler
