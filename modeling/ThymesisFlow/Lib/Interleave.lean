import Mathlib.Data.List.Induction

/-!
# Interleavings of two sequences

What a fair or unfair merge of two ordered inputs hands over is an interleaving of them: nothing
lost, nothing twice, and each input in its order.
-/

namespace ThymesisFlow

variable {α : Type*}

/-- `Interleave l r m`: `m` consists of `l` and `r`, each in order. -/
inductive Interleave : List α → List α → List α → Prop
  | nil : Interleave [] [] []
  | left {a : α} {l r m : List α} (h : Interleave l r m) : Interleave (a :: l) r (a :: m)
  | right {a : α} {l r m : List α} (h : Interleave l r m) : Interleave l (a :: r) (a :: m)

namespace Interleave

lemma only_left (l : List α) : Interleave l [] l := by
  induction l with
  | nil => exact .nil
  | cons a l ih => exact .left ih

lemma only_right (r : List α) : Interleave [] r r := by
  induction r with
  | nil => exact .nil
  | cons a r ih => exact .right ih

/-- Two interleavings one after the other. -/
lemma append {l r m l' r' m' : List α} (h : Interleave l r m) (h' : Interleave l' r' m') :
    Interleave (l ++ l') (r ++ r') (m ++ m') := by
  induction h with
  | nil => exact h'
  | left _ ih => exact .left ih
  | right _ ih => exact .right ih

lemma snoc_left {l r m : List α} (h : Interleave l r m) (a : α) :
    Interleave (l ++ [a]) r (m ++ [a]) := by
  simpa using h.append (only_left [a])

lemma snoc_right {l r m : List α} (h : Interleave l r m) (a : α) :
    Interleave l (r ++ [a]) (m ++ [a]) := by
  simpa using h.append (only_right [a])

/-- An interleaving of beginnings goes on to one of the whole sequences. -/
lemma extend {l r m : List α} (h : Interleave l r m) (l' r' : List α) :
    Interleave (l ++ l') (r ++ r') (m ++ (l' ++ r')) := by
  simpa using h.append ((only_left l').append (only_right r'))

lemma mem {l r m : List α} (h : Interleave l r m) {a : α} (ha : a ∈ m) : a ∈ l ∨ a ∈ r := by
  induction h with
  | nil => exact .inl ha
  | left _ ih =>
      rcases List.mem_cons.mp ha with rfl | ha
      · exact .inl List.mem_cons_self
      · exact (ih ha).imp_left (List.mem_cons_of_mem _)
  | right _ ih =>
      rcases List.mem_cons.mp ha with rfl | ha
      · exact .inr List.mem_cons_self
      · exact (ih ha).imp_right (List.mem_cons_of_mem _)

/-- The elements of an interleaving are those of the two sequences. -/
lemma perm {l r m : List α} (h : Interleave l r m) : m.Perm (l ++ r) := by
  induction h with
  | nil => exact .nil
  | left _ ih => exact ih.cons _
  | right _ ih => exact (ih.cons _).trans List.perm_middle.symm

/-- What is related to two sequences is merged in the same way. -/
lemma related {β : Type*} {R : β → α → Prop} {l r m : List α} (h : Interleave l r m) {l' r' : List β}
    (hl : List.Forall₂ R l' l) (hr : List.Forall₂ R r' r) :
    ∃ m', Interleave l' r' m' ∧ List.Forall₂ R m' m := by
  induction h generalizing l' r' with
  | nil =>
      cases hl
      cases hr
      exact ⟨[], .nil, .nil⟩
  | left _ ih =>
      cases hl with
      | cons hab hl =>
          obtain ⟨m', hm', hrel⟩ := ih hl hr
          exact ⟨_ :: m', .left hm', .cons hab hrel⟩
  | right _ ih =>
      cases hr with
      | cons hab hr =>
          obtain ⟨m', hm', hrel⟩ := ih hl hr
          exact ⟨_ :: m', .right hm', .cons hab hrel⟩

/-- Without a second input there is nothing to interleave. -/
lemma eq_left {l m : List α} (h : Interleave l [] m) : m = l := by
  generalize hr : ([] : List α) = r at h
  induction h with
  | nil => rfl
  | left _ ih => rw [ih hr]
  | right => cases hr

lemma eq_right {r m : List α} (h : Interleave [] r m) : m = r := by
  generalize hl : ([] : List α) = l at h
  induction h with
  | nil => rfl
  | left => cases hl
  | right _ ih => rw [ih hl]

end Interleave

end ThymesisFlow
