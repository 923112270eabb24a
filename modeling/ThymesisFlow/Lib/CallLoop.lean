import Mathlib.Data.Nat.Find

/-!
# Loops over the answers of an environment

A loop makes a call in every pass and goes on with what the call answers.  The answers are a
sequence without end, so that a loop that is never left has a run as well: `after n` is the state
after `n` passes, and `Ends t` says that the loop is left in the state `t`.

`ends_iff_of_passes` is the rule for both kinds of result.  Given the states that the passes would go
through if nothing stopped them, the loop ends in the first of them that fails the test.
-/

namespace ThymesisFlow

/-- The test at the beginning of a pass, and the pass. -/
structure CallLoop (σ ι : Type*) where
  more : σ → Bool
  body : σ → ι → σ

namespace CallLoop

variable {σ ι : Type*} (L : CallLoop σ ι) (s : σ) (a : ℕ → ι)

/-- The state after `n` passes; a loop that has been left stays as it is. -/
def after : ℕ → σ
  | 0 => s
  | n + 1 => if L.more (after n) then L.body (after n) (a n) else after n

/-- The loop is left in the state `t`. -/
def Ends (t : σ) : Prop := ∃ n, L.after s a n = t ∧ L.more t = false

variable {L s a} {t t' : σ} {n : ℕ}

lemma after_succ_of_more (h : L.more (L.after s a n) = true) :
    L.after s a (n + 1) = L.body (L.after s a n) (a n) := if_pos h

lemma after_succ_of_left (h : L.more (L.after s a n) = false) :
    L.after s a (n + 1) = L.after s a n := by
  rw [after, h, if_neg Bool.false_ne_true]

lemma after_add_of_left (h : L.more (L.after s a n) = false) (k : ℕ) :
    L.after s a (n + k) = L.after s a n := by
  induction k with
  | zero => rfl
  | succ k ih =>
      rw [← Nat.add_assoc, after_succ_of_left (by rw [ih]; exact h), ih]

/-- A loop ends in one state only. -/
theorem Ends.unique (h : L.Ends s a t) (h' : L.Ends s a t') : t = t' := by
  obtain ⟨n, rfl, hn⟩ := h
  obtain ⟨m, rfl, hm⟩ := h'
  rcases Nat.le_total n m with hle | hle
  · obtain ⟨k, rfl⟩ := Nat.exists_eq_add_of_le hle
    exact (after_add_of_left hn k).symm
  · obtain ⟨k, rfl⟩ := Nat.exists_eq_add_of_le hle
    exact after_add_of_left hm k

section Passes

variable {f : ℕ → σ} (h0 : f 0 = s) (hf : ∀ n, f (n + 1) = L.body (f n) (a n))

include h0 hf

/-- As long as the test has not failed the passes are those of `f`. -/
lemma after_eq_of_passes (h : ∀ k < n, L.more (f k) = true) : L.after s a n = f n := by
  induction n with
  | zero => exact h0.symm
  | succ n ih =>
      have hn := ih fun k hk => h k (Nat.lt_succ_of_lt hk)
      rw [after_succ_of_more (by rw [hn]; exact h n (Nat.lt_succ_self n)), hn, hf]

/-- **The loop ends in the first state that fails the test**, and does not end without one. -/
theorem ends_iff_of_passes :
    L.Ends s a t ↔ ∃ n, (∀ k < n, L.more (f k) = true) ∧ L.more (f n) = false ∧ t = f n := by
  constructor
  · rintro ⟨n, hn, hleft⟩
    have hfail : ∃ k, L.more (f k) = false := by
      by_contra hnone
      have hmore (k : ℕ) : L.more (f k) = true := by
        rw [← Bool.not_eq_false]
        exact fun hk => hnone ⟨k, hk⟩
      rw [← hn, after_eq_of_passes h0 hf fun k _ => hmore k, hmore n] at hleft
      exact absurd hleft (by decide)
    classical
    have hfirst : ∀ k < Nat.find hfail, L.more (f k) = true := fun k hk =>
      (Bool.not_eq_false _).mp (Nat.find_min hfail hk)
    refine ⟨Nat.find hfail, hfirst, Nat.find_spec hfail, Ends.unique ⟨n, hn, hleft⟩ ?_⟩
    exact ⟨_, after_eq_of_passes h0 hf hfirst, Nat.find_spec hfail⟩
  · rintro ⟨n, hfirst, hleft, rfl⟩
    exact ⟨n, after_eq_of_passes h0 hf hfirst, hleft⟩

end Passes

end CallLoop

end ThymesisFlow
