import Mathlib.Algebra.GroupWithZero.Nat
import ThymesisFlow.Lib.Machine

/-!
# What flows through a machine

A quantity of the state that in every step changes by what flows in and out accounts for everything
that has flowed since reset, and it does so in every state of a run only if every step balances.
-/

namespace ThymesisFlow

namespace Machine

variable {σ ι : Type*} (M : Machine σ ι) {held : σ → ℕ} {inflow outflow : σ → ι → ℕ}

/-- The sum of what `f` counts in the steps of a run. -/
def total (f : σ → ι → ℕ) (is : List ι) : ℕ := (M.collect (fun s i => [f s i]) is).sum

@[simp] lemma total_nil (f : σ → ι → ℕ) : M.total f [] = 0 := rfl

@[simp] lemma total_concat (f : σ → ι → ℕ) (is : List ι) (i : ι) :
    M.total f (is ++ [i]) = M.total f is + f (M.run is) i := by
  simp [total]

lemma total_add (f g : σ → ι → ℕ) (is : List ι) :
    M.total (fun s i => f s i + g s i) is = M.total f is + M.total g is := by
  induction is using List.reverseRecOn with
  | nil => rfl
  | append_singleton is i ih =>
      rw [total_concat, total_concat, total_concat, ih]
      omega

lemma total_mul (k : ℕ) (f : σ → ι → ℕ) (is : List ι) :
    M.total (fun s i => k * f s i) is = k * M.total f is := by
  induction is using List.reverseRecOn with
  | nil => rfl
  | append_singleton is i ih => rw [total_concat, total_concat, ih, Nat.mul_add]

/-- A step in which `held` changes by what flows in and out. -/
def Balanced (held : σ → ℕ) (inflow outflow : σ → ι → ℕ) (s : σ) (i : ι) : Prop :=
  held (M.step s i) + outflow s i = held s + inflow s i

/-- What is held and what has flowed out is what was held at reset and what has flowed in. -/
def Accounted (held : σ → ℕ) (inflow outflow : σ → ι → ℕ) (is : List ι) : Prop :=
  held (M.run is) + M.total outflow is = held M.init + M.total inflow is

/-- **The ledger rule.**  Everything is accounted for in every state of a run exactly if every step
balances. -/
theorem accounted_iff (is : List ι) :
    (∀ js, js <+: is → M.Accounted held inflow outflow js)
      ↔ M.Meets (M.Balanced held inflow outflow) is := by
  have hinit : M.Accounted held inflow outflow [] := rfl
  refine M.forall_prefix_iff hinit (fun is i _ _ _ hacc => ?_) is (M.meets_true is)
  rw [Accounted] at hacc
  rw [Accounted, Balanced, run_concat, total_concat, total_concat]
  omega

end Machine

end ThymesisFlow
