import Mathlib.Data.List.Perm.Basic

/-!
# Streams of headers and payload

A header says how many payload elements follow it.  `heads size k xs` are the headers of a stream
that begins with `k` payload elements, `left size k xs` is the number of payload elements that are
still to come after it.  A queue that is filled at one end and read at the other is described by two
numbers: what is to come at its front, and what is to come behind it.
-/

namespace ThymesisFlow

namespace Framing

variable {α : Type*} (size : α → ℕ)

/-- What is to come after the element `x`. -/
def next (k : ℕ) (x : α) : ℕ := if k = 0 then size x else k - 1

/-- The headers of a stream. -/
def heads : ℕ → List α → List α
  | _, [] => []
  | k, x :: xs => (if k = 0 then [x] else []) ++ heads (next size k x) xs

/-- What is to come after a stream. -/
def left (k : ℕ) (xs : List α) : ℕ := xs.foldl (next size) k

variable {size} {k : ℕ} {x : α} {xs ys : List α}

@[simp] lemma left_nil : left size k [] = k := rfl

@[simp] lemma left_cons : left size k (x :: xs) = left size (next size k x) xs := rfl

@[simp] lemma left_concat : left size k (xs ++ [x]) = next size (left size k xs) x := by
  simp [left]

@[simp] lemma heads_nil : heads size k [] = [] := rfl

@[simp] lemma heads_cons :
    heads size k (x :: xs) = (if k = 0 then [x] else []) ++ heads size (next size k x) xs := rfl

lemma heads_append : heads size k (xs ++ ys) = heads size k xs ++ heads size (left size k xs) ys := by
  induction xs generalizing k with
  | nil => rfl
  | cons x xs ih => rw [List.cons_append, heads_cons, heads_cons, ih, List.append_assoc, left_cons]

@[simp] lemma heads_concat :
    heads size k (xs ++ [x]) = heads size k xs ++ if left size k xs = 0 then [x] else [] := by
  rw [heads_append]
  simp

lemma left_append : left size k (xs ++ ys) = left size (left size k xs) ys := List.foldl_append

/-- A stream that has no more than the payload which is to come. -/
lemma left_of_length_le (h : xs.length ≤ k) : left size k xs = k - xs.length := by
  induction xs generalizing k with
  | nil => rfl
  | cons x xs ih =>
      rw [List.length_cons] at h
      rw [left_cons, next, if_neg (by omega), ih (by omega), List.length_cons]
      omega

/-- The headers come behind the payload which is to come. -/
lemma heads_eq_drop (k : ℕ) (xs : List α) : heads size k xs = heads size 0 (xs.drop k) := by
  induction xs generalizing k with
  | nil => rw [List.drop_nil]; rfl
  | cons x xs ih =>
      cases k with
      | zero => rfl
      | succ k =>
          rw [heads_cons, if_neg (Nat.succ_ne_zero k), List.nil_append, List.drop_succ_cons]
          exact ih k

lemma next_zero (x : α) : next size 0 x = size x := rfl

lemma next_pos (hk : k ≠ 0) (x : α) : next size k x = k - 1 := if_neg hk

end Framing

end ThymesisFlow
