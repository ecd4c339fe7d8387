import Mathlib

/-!
# Lists of entries with distinct keys

A container that is searched by a key of its entries, and that never holds two entries of one key, is
a finite map from keys to entries.  `lookup key l` is that map.  The lemmas say what it becomes under
the operations on the list, and `ncard_keys` that the list is as long as the map has keys.
-/

set_option autoImplicit false

namespace KeyedList

variable {α κ : Type} {key : α → κ} {l : List α} {a : α} {k : κ}

/-- Two entries with the same key are the same entry. -/
theorem eq_of_key (hl : (l.map key).Nodup) {b : α} (ha : a ∈ l) (hb : b ∈ l)
    (h : key a = key b) : a = b :=
  List.inj_on_of_nodup_map hl ha hb h

theorem nodup_filter (hl : (l.map key).Nodup) (p : α → Bool) : ((l.filter p).map key).Nodup :=
  hl.sublist (List.filter_sublist.map key)

theorem nodup_erase [DecidableEq α] (hl : (l.map key).Nodup) : ((l.erase a).map key).Nodup :=
  hl.sublist (List.erase_sublist.map key)

variable [DecidableEq κ]

/-- The entry with key `k`. -/
def lookup (key : α → κ) (l : List α) (k : κ) : Option α := l.find? fun a => decide (key a = k)

@[simp] theorem lookup_nil : lookup key [] k = none := rfl

theorem mem_of_lookup (h : lookup key l k = some a) : a ∈ l := List.mem_of_find?_eq_some h

theorem key_of_lookup (h : lookup key l k = some a) : key a = k := by
  simpa using List.find?_some h

theorem lookup_eq_none : lookup key l k = none ↔ k ∉ l.map key := by
  simp [lookup]

theorem lookup_isSome : (lookup key l k).isSome ↔ k ∈ l.map key := by
  rw [← Option.ne_none_iff_isSome, Ne, lookup_eq_none, not_not]

theorem lookup_eq_some (hl : (l.map key).Nodup) :
    lookup key l k = some a ↔ a ∈ l ∧ key a = k := by
  constructor
  · intro h
    exact ⟨mem_of_lookup h, key_of_lookup h⟩
  · rintro ⟨ha, rfl⟩
    cases hb : lookup key l (key a) with
    | none => exact absurd (List.mem_map_of_mem ha) (lookup_eq_none.1 hb)
    | some b => rw [eq_of_key hl ha (mem_of_lookup hb) (key_of_lookup hb).symm]

theorem lookup_append_singleton :
    lookup key (l ++ [a]) k = (lookup key l k).or (if key a = k then some a else none) := by
  unfold lookup
  rw [List.find?_append]
  congr 1
  by_cases h : key a = k <;> simp [h]

theorem nodup_append_singleton (hl : (l.map key).Nodup) (ha : lookup key l (key a) = none) :
    ((l ++ [a]).map key).Nodup := by
  have hn := lookup_eq_none.1 ha
  rw [List.map_append, List.nodup_append]
  refine ⟨hl, by simp, ?_⟩
  rintro k hk k' hk' rfl
  rw [List.map_singleton, List.mem_singleton] at hk'
  exact hn (hk' ▸ hk)

theorem lookup_filter (hl : (l.map key).Nodup) (p : α → Bool) :
    lookup key (l.filter p) k = (lookup key l k).filter p := by
  ext a
  rw [lookup_eq_some (nodup_filter hl p), Option.filter_eq_some_iff,
    lookup_eq_some hl, List.mem_filter]
  tauto

theorem lookup_erase [DecidableEq α] (hl : (l.map key).Nodup) (ha : a ∈ l) :
    lookup key (l.erase a) k = if key a = k then none else lookup key l k := by
  have hnd : l.Nodup := hl.of_map key
  ext b
  rw [lookup_eq_some (nodup_erase hl), hnd.mem_erase_iff]
  by_cases h : key a = k
  · rw [if_pos h]
    refine ⟨?_, nofun⟩
    rintro ⟨⟨hne, hb⟩, hk⟩
    exact absurd (eq_of_key hl hb ha (hk.trans h.symm)) hne
  · rw [if_neg h, lookup_eq_some hl]
    refine ⟨fun hb => ⟨hb.1.2, hb.2⟩, fun hb => ⟨⟨?_, hb.1⟩, hb.2⟩⟩
    rintro rfl
    exact h hb.2

/-- The lookup reads nothing but the keys of the entries in the list. -/
theorem lookup_congr {key' : α → κ} (h : ∀ b ∈ l, key' b = key b) :
    lookup key' l k = lookup key l k := by
  unfold lookup
  induction l with
  | nil => rfl
  | cons b l ih =>
    rw [List.find?_cons, List.find?_cons, h b (List.mem_cons_self ..),
      ih fun c hc => h c (List.mem_cons_of_mem _ hc)]

/-- There are as many entries as keys. -/
theorem ncard_keys (hl : (l.map key).Nodup) : {k | (lookup key l k).isSome}.ncard = l.length := by
  have h : {k | (lookup key l k).isSome} = ((l.map key).toFinset : Set κ) := by
    ext k
    rw [Set.mem_ofPred_eq, lookup_isSome, Finset.mem_coe, List.mem_toFinset]
  rw [h, Set.ncard_coe_finset, List.toFinset_card_of_nodup hl, List.length_map]

end KeyedList
