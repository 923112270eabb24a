import Mathlib.Data.Nat.Basic
import Mathlib.Tactic.SplitIfs

/-!
# Occupied ranges of a ring

A ring of `N` slots that is filled at one end and emptied at the other holds a cyclic range of
slots: `d` of them from slot `a` on.  `ringDist` and `ringAdd` count with at most one wrap, so
that every fact about ranges is linear arithmetic.
-/

namespace ThymesisFlow

/-- The number of steps from slot `a` forward to slot `i`. -/
def ringDist (N a i : ℕ) : ℕ := if a ≤ i then i - a else i + N - a

/-- The slot `d` steps after slot `a`. -/
def ringAdd (N a d : ℕ) : ℕ := if a + d < N then a + d else a + d - N

variable {N a b d e i : ℕ}

lemma ringAdd_lt (ha : a < N) (hd : d ≤ N) : ringAdd N a d < N := by
  rw [ringAdd]
  split_ifs <;> omega

/-- One more slot at the far end. -/
lemma ringDist_lt_succ (ha : a < N) (hi : i < N) :
    ringDist N a i < d + 1 ↔ ringDist N a i < d ∨ i = ringAdd N a d := by
  rw [ringDist, ringAdd]
  split_ifs <;> omega

/-- One slot fewer at the near end. -/
lemma ringDist_succ_lt (ha : a < N) (hi : i < N) (hd : 0 < d) (hdN : d ≤ N) :
    ringDist N (ringAdd N a 1) i < d - 1 ↔ ringDist N a i < d ∧ i ≠ a := by
  rw [ringDist, ringDist, ringAdd]
  split_ifs <;> omega

end ThymesisFlow
