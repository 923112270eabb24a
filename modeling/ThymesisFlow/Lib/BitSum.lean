import Mathlib.Combinatorics.Colex

/-!
# Bits that are added up

An encoder that adds `2 ^ k` for every entry `k` of a list sets the bits of the list, as long as no
entry occurs twice.  An entry that occurs again carries into the bits above: `excess` is what such
entries add.  In a word of `w` bits the bits that are set are those of the list exactly when the
excess is a multiple of `2 ^ w` (`testBit_bitSum_mod_iff`).
-/

namespace ThymesisFlow

/-- One bit for every entry, added up. -/
def bitSum (ks : List ℕ) : ℕ := (ks.map (2 ^ ·)).sum

/-- What the entries that occur again later in the list add. -/
def excess : List ℕ → ℕ
  | [] => 0
  | k :: ks => (if k ∈ ks then 2 ^ k else 0) + excess ks

@[simp] lemma bitSum_nil : bitSum [] = 0 := rfl

@[simp] lemma bitSum_cons (k : ℕ) (ks : List ℕ) : bitSum (k :: ks) = 2 ^ k + bitSum ks := by
  simp [bitSum]

lemma testBit_sum_two_pow (s : Finset ℕ) (k : ℕ) :
    (∑ i ∈ s, 2 ^ i).testBit k = true ↔ k ∈ s := by
  rw [← Nat.mem_bitIndices, ← List.mem_toFinset, Finset.toFinset_bitIndices_sum_two_pow]

lemma sum_two_pow_lt {s : Finset ℕ} {w : ℕ} (h : ∀ k ∈ s, k < w) : ∑ i ∈ s, 2 ^ i < 2 ^ w := by
  refine Nat.lt_pow_two_of_testBit _ fun k hk => ?_
  rw [Bool.eq_false_iff, Ne, testBit_sum_two_pow]
  exact fun hmem => absurd (h k hmem) (Nat.not_lt.mpr hk)

/-- Every bit of the list once, and the excess. -/
lemma bitSum_eq (ks : List ℕ) : bitSum ks = ∑ k ∈ ks.toFinset, 2 ^ k + excess ks := by
  induction ks with
  | nil => rfl
  | cons k ks ih =>
      rw [bitSum_cons, ih, excess, List.toFinset_cons]
      by_cases hk : k ∈ ks
      · rw [if_pos hk, Finset.insert_eq_of_mem (List.mem_toFinset.mpr hk)]
        omega
      · rw [if_neg hk, Finset.sum_insert (by simpa using hk)]
        omega

/-- **The bits of the word are those of the list** exactly when the excess is lost in the wrap. -/
theorem testBit_bitSum_mod_iff {ks : List ℕ} {w : ℕ} (h : ∀ k ∈ ks, k < w) :
    (∀ k, (bitSum ks % 2 ^ w).testBit k = true ↔ k ∈ ks) ↔ 2 ^ w ∣ excess ks := by
  have hlt : ∑ k ∈ ks.toFinset, 2 ^ k < 2 ^ w :=
    sum_two_pow_lt fun k hk => h k (List.mem_toFinset.mp hk)
  have hbits (k : ℕ) : (∑ k ∈ ks.toFinset, 2 ^ k).testBit k = true ↔ k ∈ ks := by
    rw [testBit_sum_two_pow, List.mem_toFinset]
  rw [bitSum_eq]
  constructor
  · intro hall
    have heq : (∑ k ∈ ks.toFinset, 2 ^ k + excess ks) % 2 ^ w = ∑ k ∈ ks.toFinset, 2 ^ k := by
      refine Nat.eq_of_testBit_eq fun k => ?_
      rw [Bool.eq_iff_iff, hall k, hbits k]
    have hsub := Nat.sub_mod_eq_zero_of_mod_eq (heq.trans (Nat.mod_eq_of_lt hlt).symm)
    rw [Nat.add_sub_cancel_left] at hsub
    exact Nat.dvd_of_mod_eq_zero hsub
  · rintro ⟨c, hc⟩ k
    rw [hc, Nat.add_mul_mod_self_left, Nat.mod_eq_of_lt hlt, hbits k]

/-- Without repetitions there is no excess. -/
lemma excess_eq_zero_iff (ks : List ℕ) : excess ks = 0 ↔ ks.Nodup := by
  induction ks with
  | nil => simp [excess]
  | cons k ks ih =>
      rw [excess, Nat.add_eq_zero_iff, ih, List.nodup_cons]
      simp

end ThymesisFlow
