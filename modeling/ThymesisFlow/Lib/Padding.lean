import Mathlib.Data.List.Basic

/-!
# Streams with padding

A sender that fills the gaps of a stream with padding symbols, and a receiver that drops them.
Whether a symbol is padding depends on where in the stream it stands; both sides follow the stream
with an automaton that padding does not move, which is what makes their views agree.
-/

namespace ThymesisFlow

/-- An automaton over the symbols of a stream, and the symbols that are padding in each of its
states. -/
structure Padding (φ α : Type*) where
  next : φ → α → φ
  pad : φ → α → Bool
  next_pad : ∀ p x, pad p x = true → next p x = p

namespace Padding

variable {φ α : Type*} (c : Padding φ α)

/-- The state after the symbols `xs`. -/
def after (p : φ) (xs : List α) : φ := xs.foldl c.next p

/-- The symbols that are not padding. -/
def strip : φ → List α → List α
  | _, [] => []
  | p, x :: xs => if c.pad p x then strip p xs else x :: strip (c.next p x) xs

/-- Every symbol meets `P` in the state that it is met in. -/
def All (P : φ → α → Prop) : φ → List α → Prop
  | _, [] => True
  | p, x :: xs => P p x ∧ All P (c.next p x) xs

/-- No symbol is padding. -/
def Clean (p : φ) (xs : List α) : Prop := c.All (fun q x => c.pad q x = false) p xs

@[simp] lemma after_nil (p : φ) : c.after p [] = p := rfl

@[simp] lemma after_cons (p : φ) (x : α) (xs : List α) :
    c.after p (x :: xs) = c.after (c.next p x) xs := rfl

lemma after_append (p : φ) (xs ys : List α) :
    c.after p (xs ++ ys) = c.after (c.after p xs) ys := List.foldl_append

@[simp] lemma strip_nil (p : φ) : c.strip p [] = [] := rfl

lemma strip_append (p : φ) (xs ys : List α) :
    c.strip p (xs ++ ys) = c.strip p xs ++ c.strip (c.after p xs) ys := by
  induction xs generalizing p with
  | nil => rfl
  | cons x xs ih =>
      simp only [List.cons_append, strip, after_cons, ih]
      split_ifs with hpad
      · rw [c.next_pad p x hpad]
      · rfl

/-- Padding does not move the automaton. -/
lemma after_strip (p : φ) (xs : List α) : c.after p (c.strip p xs) = c.after p xs := by
  induction xs generalizing p with
  | nil => rfl
  | cons x xs ih =>
      rw [strip, after_cons]
      split_ifs with hpad
      · rw [ih, c.next_pad p x hpad]
      · rw [after_cons, ih]

lemma all_append {P : φ → α → Prop} {p : φ} {xs ys : List α} :
    c.All P p (xs ++ ys) ↔ c.All P p xs ∧ c.All P (c.after p xs) ys := by
  induction xs generalizing p with
  | nil => simp [All]
  | cons x xs ih => simp [All, ih, and_assoc]

/-- A stream without padding is left alone. -/
lemma strip_of_clean {p : φ} {xs : List α} (h : c.Clean p xs) : c.strip p xs = xs := by
  induction xs generalizing p with
  | nil => rfl
  | cons x xs ih =>
      obtain ⟨hx, hxs⟩ := h
      rw [strip, hx, ih hxs]
      rfl

end Padding

end ThymesisFlow
