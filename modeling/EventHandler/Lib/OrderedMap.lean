import Mathlib.Data.List.Basic

/-!
# Maps ordered by a comparison

A map that finds its keys with a comparison `lt` only: two keys are the same for it when neither is
less than the other.  It is kept as the list of its entries; the place of an entry is not a matter of
the results here.

* `find`, `assign`, `erase`, `eraseIf` — lookup, `m[k] = b`, and the two ways to take entries away.
* `Separates` — no two keys are the same for `lt`.  Every strict total order does that
  (`separates_of_total`), and then the map is a partial function (`find_assign`, `find_erase`,
  `find_eraseIf`).
-/

set_option autoImplicit false

namespace OrderedMap

variable {κ β : Type}

/-- Neither key is less than the other. -/
def equiv (lt : κ → κ → Bool) (a b : κ) : Bool := !lt a b && !lt b a

def find (lt : κ → κ → Bool) (m : List (κ × β)) (k : κ) : Option β :=
  (m.find? fun e => equiv lt e.1 k).map Prod.snd

/-- `m[k] = b`; the key of an entry that is there stays. -/
def assign (lt : κ → κ → Bool) (m : List (κ × β)) (k : κ) (b : β) : List (κ × β) :=
  if (find lt m k).isSome then m.map fun e => if equiv lt e.1 k then (e.1, b) else e
  else m ++ [(k, b)]

def eraseIf (m : List (κ × β)) (p : κ → Bool) : List (κ × β) := m.filter fun e => !p e.1

def erase (lt : κ → κ → Bool) (m : List (κ × β)) (k : κ) : List (κ × β) :=
  eraseIf m fun k' => equiv lt k' k

/-- The comparison tells any two keys apart. -/
def Separates (lt : κ → κ → Bool) : Prop := ∀ a b, equiv lt a b = true ↔ a = b

variable {lt : κ → κ → Bool} {m : List (κ × β)} {k k' : κ} {b : β}

theorem separates_of_total (irrefl : ∀ a, lt a a = false)
    (total : ∀ a b, a ≠ b → lt a b = true ∨ lt b a = true) : Separates lt := by
  intro a b
  unfold equiv
  constructor
  · intro h
    by_contra hne
    rcases total a b hne with h' | h' <;> simp [h'] at h
  · rintro rfl
    simp [irrefl]

theorem find_cons (e : κ × β) :
    find lt (e :: m) k = if equiv lt e.1 k then some e.2 else find lt m k := by
  unfold find
  rw [List.find?_cons]
  cases equiv lt e.1 k <;> rfl

theorem find_append_singleton (e : κ × β) :
    find lt (m ++ [e]) k = (find lt m k).or (if equiv lt e.1 k then some e.2 else none) := by
  induction m with
  | nil => simp [find]
  | cons e' m ih =>
    rw [List.cons_append, find_cons, find_cons, ih]
    split <;> rfl

theorem find_eraseIf (h : Separates lt) (p : κ → Bool) :
    find lt (eraseIf m p) k = if p k then none else find lt m k := by
  induction m with
  | nil => simp [eraseIf, find]
  | cons e m ih =>
    unfold eraseIf at ih ⊢
    rw [List.filter_cons]
    by_cases he : equiv lt e.1 k = true
    · have hk : p e.1 = p k := congrArg p ((h e.1 k).1 he)
      cases hp : p k with
      | true => simp [hk, hp, ih]
      | false => simp [hk, hp, find_cons, he]
    · cases hp : p e.1 with
      | true => simp [ih, find_cons, he]
      | false => simp [ih, find_cons, he]

variable [DecidableEq κ]

theorem find_erase (h : Separates lt) :
    find lt (erase lt m k) k' = if k' = k then none else find lt m k' := by
  unfold erase
  rw [find_eraseIf h]
  simp only [h k' k]

/-- Values that change under one key. -/
theorem find_replace (h : Separates lt) :
    find lt (m.map fun e => if equiv lt e.1 k then (e.1, b) else e) k' =
      if k' = k then (find lt m k).map fun _ => b else find lt m k' := by
  induction m with
  | nil => simp [find]
  | cons e m ih =>
    rw [List.map_cons, find_cons, find_cons, find_cons, ih]
    by_cases hk : k' = k
    · subst hk
      by_cases he : equiv lt e.1 k' = true <;> simp [he]
    · by_cases he : equiv lt e.1 k = true
      · have hke := (h e.1 k).1 he
        have hne : equiv lt e.1 k' = false := by
          rw [Bool.eq_false_iff, Ne, h, hke]
          exact Ne.symm hk
        simp [he, hne, hk]
      · simp [he, hk]

theorem find_assign (h : Separates lt) :
    find lt (assign lt m k b) k' = if k' = k then some b else find lt m k' := by
  unfold assign
  split
  · rename_i hs
    obtain ⟨b', hb'⟩ := Option.isSome_iff_exists.1 hs
    rw [find_replace h, hb']
    rfl
  · rename_i hs
    rw [find_append_singleton]
    by_cases hk : k' = k
    · subst hk
      rw [if_pos rfl, if_pos ((h k' k').2 rfl), Option.not_isSome_iff_eq_none.1 hs]
      rfl
    · rw [if_neg hk, if_neg ((h k k').not.2 (Ne.symm hk)), Option.or_none]

end OrderedMap
