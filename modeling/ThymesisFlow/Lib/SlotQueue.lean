import Mathlib.Logic.Function.Basic

/-!
# A queue that is spread over registers

A stream whose elements go to registers of their own: the register of an element is determined by
the one before it and its register (`next`).  Such registers hold the elements of a contiguous part
of the stream; they are emptied at its beginning and filled at its end.
-/

namespace ThymesisFlow

namespace SlotQueue

variable {ι α : Type*} (next : ι → α → ι)

/-- The register of the element that follows `xs`, whose first is in register `i`. -/
def after (i : ι) (xs : List α) : ι := xs.foldl next i

@[simp] lemma after_nil (i : ι) : after next i [] = i := rfl

@[simp] lemma after_cons (i : ι) (x : α) (xs : List α) :
    after next i (x :: xs) = after next (next i x) xs := rfl

lemma after_append (i : ι) (xs ys : List α) :
    after next i (xs ++ ys) = after next (after next i xs) ys := List.foldl_append

variable [DecidableEq ι]

/-- The registers hold `xs`, from register `i` on, and nothing else. -/
def Holds : (ι → Option α) → ι → List α → Prop
  | r, _, [] => ∀ j, r j = none
  | r, i, x :: xs => r i = some x ∧ Holds (Function.update r i none) (next i x) xs

variable {next} {r : ι → Option α} {i : ι} {xs : List α}

/-- The first register is empty if all of them are. -/
lemma Holds.head_eq (h : Holds next r i xs) : r i = xs.head? := by
  cases xs with
  | nil => exact h i
  | cons x xs => exact h.1

lemma Holds.eq_none (h : Holds next r i []) (j : ι) : r j = none := h j

/-- Nothing is taken out. -/
lemma Holds.clear_nil (h : Holds next r i []) : Holds next (Function.update r i none) i [] := by
  intro j
  by_cases hj : j = i
  · rw [hj, Function.update_self]
  · rw [Function.update_of_ne hj, h j]

/-- Where a register always follows the first one and is full, the first two elements go. -/
lemma Holds.pop_two (h : Holds next r i xs) {j : ι} (hij : ∀ x, next i x = j) (hne : j ≠ i) {y : α}
    (hy : r j = some y) :
    ∃ x ys, xs = x :: y :: ys ∧ r i = some x ∧
      Holds next (Function.update (Function.update r i none) j none) (next j y) ys := by
  cases xs with
  | nil =>
      rw [h j] at hy
      cases hy
  | cons x xs =>
      obtain ⟨hx, hxs⟩ := h
      rw [hij] at hxs
      have hj : Function.update r i none j = some y := by rw [Function.update_of_ne hne, hy]
      cases xs with
      | nil =>
          rw [hxs j] at hj
          cases hj
      | cons z ys =>
          obtain rfl : z = y := Option.some.inj (hxs.1.symm.trans hj)
          exact ⟨x, ys, rfl, hx, hxs.2⟩

/-- An element is put in at the end. -/
lemma Holds.push (h : Holds next r i xs) (hfree : r (after next i xs) = none) (y : α) :
    Holds next (Function.update r (after next i xs) (some y)) i (xs ++ [y]) := by
  induction xs generalizing r i with
  | nil =>
      refine ⟨Function.update_self _ _ _, fun j => ?_⟩
      rw [after_nil, Function.update_idem]
      by_cases hj : j = i
      · rw [hj, Function.update_self]
      · rw [Function.update_of_ne hj, h j]
  | cons x xs ih =>
      obtain ⟨hx, hxs⟩ := h
      rw [after_cons] at hfree ⊢
      have hne : i ≠ after next (next i x) xs := by
        intro he
        rw [← he, hx] at hfree
        cases hfree
      refine ⟨?_, ?_⟩
      · rw [Function.update_of_ne hne, hx]
      · rw [Function.update_comm hne.symm]
        refine ih hxs ?_
        rw [Function.update_of_ne hne.symm, hfree]

/-- Each element is in its register. -/
lemma Holds.apply_after {y : α} {ys : List α} (h : Holds next r i (xs ++ y :: ys)) :
    r (after next i xs) = some y := by
  induction xs generalizing r i with
  | nil => exact h.1
  | cons x xs ih =>
      have hy := ih h.2
      rw [after_cons]
      by_cases hi : after next (next i x) xs = i
      · rw [hi, Function.update_self] at hy
        cases hy
      · rwa [Function.update_of_ne hi] at hy

/-- Behind an element that is held is another one, or the end. -/
lemma Holds.next_of_mem (h : Holds next r i xs) {j : ι} {y : α} (hj : r j = some y) :
    next j y = after next i xs ∨ (r (next j y)).isSome := by
  induction xs generalizing r i with
  | nil =>
      rw [h j] at hj
      cases hj
  | cons x xs ih =>
      obtain ⟨hx, hxs⟩ := h
      rw [after_cons]
      by_cases hji : j = i
      · subst hji
        obtain rfl : x = y := Option.some.inj (hx.symm.trans hj)
        cases xs with
        | nil => exact .inl rfl
        | cons z zs =>
            have hz := hxs.1
            by_cases hne : next j x = j
            · rw [hne, Function.update_self] at hz
              cases hz
            · rw [Function.update_of_ne hne] at hz
              exact .inr (by rw [hz]; rfl)
      · refine (ih hxs (by rw [Function.update_of_ne hji, hj])).imp_right fun hsome => ?_
        by_cases hne : next j y = i
        · rw [hne, Function.update_self] at hsome
          cases hsome
        · rwa [Function.update_of_ne hne] at hsome

end SlotQueue

end ThymesisFlow
