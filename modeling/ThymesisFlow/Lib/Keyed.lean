import Mathlib.Data.List.Nodup

/-!
# Lists with keys

A list whose entries have keys, no key twice, is a finite map: an entry is found by its key, put in
front if its key is new, and taken out by its key.
-/

namespace ThymesisFlow

namespace Keyed

variable {α κ : Type*} [DecidableEq κ] (key : α → κ)

/-- The first entry with the key `k`. -/
def lookup (xs : List α) (k : κ) : Option α := xs.find? fun x => key x = k

/-- The list without the first entry with the key `k`. -/
def remove (xs : List α) (k : κ) : List α := xs.eraseP fun x => key x = k

/-- No key occurs twice. -/
def Distinct (xs : List α) : Prop := (xs.map key).Nodup

variable {key} {xs : List α} {x : α} {k k' : κ}

lemma lookup_cons (x : α) (xs : List α) (k : κ) :
    lookup key (x :: xs) k = if key x = k then some x else lookup key xs k := by
  rw [lookup, List.find?_cons]
  split_ifs with h
  · rw [decide_eq_true h]
  · rw [decide_eq_false h]
    rfl

lemma lookup_some (h : lookup key xs k = some x) : x ∈ xs ∧ key x = k := by
  rw [lookup] at h
  exact ⟨List.mem_of_find?_eq_some h, by simpa using List.find?_some h⟩

lemma lookup_eq_none : lookup key xs k = none ↔ ∀ x ∈ xs, key x ≠ k := by
  simp [lookup]

/-- An entry of the list is the one that is found. -/
lemma lookup_of_mem (hd : Distinct key xs) (hx : x ∈ xs) : lookup key xs (key x) = some x := by
  induction xs with
  | nil => exact absurd hx (by simp)
  | cons y ys ih =>
      obtain ⟨hnot, hd⟩ := List.nodup_cons.mp hd
      rw [lookup_cons]
      rcases List.mem_cons.mp hx with rfl | hx
      · rw [if_pos rfl]
      · have hne : key y ≠ key x := by
          intro he
          exact hnot (List.mem_map.mpr ⟨x, hx, he.symm⟩)
        rw [if_neg hne]
        exact ih hd hx

lemma Distinct.cons (hd : Distinct key xs) (h : lookup key xs (key x) = none) :
    Distinct key (x :: xs) := by
  refine List.nodup_cons.mpr ⟨fun hm => ?_, hd⟩
  obtain ⟨y, hy, he⟩ := List.mem_map.mp hm
  exact lookup_eq_none.mp h y hy he

omit [DecidableEq κ] in
lemma Distinct.eraseP (hd : Distinct key xs) (p : α → Bool) : Distinct key (xs.eraseP p) :=
  ((xs.eraseP_sublist (p := p)).map _).nodup hd

lemma Distinct.remove (hd : Distinct key xs) (k : κ) : Distinct key (remove key xs k) := hd.eraseP _

/-- Without double keys the entry that is taken out is the only one with its key. -/
lemma remove_eq_filter (hd : Distinct key xs) (k : κ) :
    remove key xs k = xs.filter fun x => key x ≠ k := by
  induction xs with
  | nil => rfl
  | cons x xs ih =>
      obtain ⟨hnot, hd⟩ := List.nodup_cons.mp hd
      by_cases hx : key x = k
      · rw [remove, List.eraseP_cons_of_pos (by simpa using hx), List.filter_cons_of_neg (by simpa using hx)]
        refine (List.filter_eq_self.mpr fun y hy => ?_).symm
        have hne : key y ≠ k := fun he => hnot (List.mem_map.mpr ⟨y, hy, he.trans hx.symm⟩)
        simpa using hne
      · rw [remove, List.eraseP_cons_of_neg (by simpa using hx), List.filter_cons_of_pos (by simpa using hx),
          ← ih hd]
        rfl

lemma mem_remove_iff (hd : Distinct key xs) : x ∈ remove key xs k ↔ x ∈ xs ∧ key x ≠ k := by
  rw [remove_eq_filter hd, List.mem_filter]
  simp

/-- After an entry has been taken out, the others are found as before. -/
lemma lookup_remove (hd : Distinct key xs) (k k' : κ) :
    lookup key (remove key xs k) k' = if k' = k then none else lookup key xs k' := by
  rw [remove_eq_filter hd]
  split_ifs with h
  · refine lookup_eq_none.mpr fun x hx => ?_
    rw [h]
    simpa using (List.mem_filter.mp hx).2
  · rw [lookup, lookup, List.find?_filter]
    congr 1
    funext x
    by_cases hx : key x = k' <;> simp [hx, h]

end Keyed

end ThymesisFlow
