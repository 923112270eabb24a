import Mathlib.Data.BitVec
import Mathlib.Data.Fintype.Basic

/-!
# A FIFO of `2 ^ w` rows with a valid bit for each

The pointers are machine words, so they wrap by themselves.  `Holds` relates the FIFO to the list of
its entries, oldest first.  A full FIFO takes an entry in the cycle in which its oldest one leaves:
`replace` writes the row that is read.
-/

namespace ThymesisFlow

structure RingFifo (w : ℕ) (α : Type) where
  rows : BitVec w → α
  wrptr : BitVec w := 0
  rdptr : BitVec w := 0
  val : BitVec w → Bool := fun _ => false

namespace RingFifo

variable {w : ℕ} {α : Type} (f : RingFifo w α)

def write (x : α) : BitVec w → α := fun a => if a = f.wrptr then x else f.rows a

/-- A row is written and marked. -/
def push (x : α) : RingFifo w α where
  rows := f.write x
  wrptr := f.wrptr + 1
  rdptr := f.rdptr
  val a := if a = f.wrptr then true else f.val a

/-- The oldest row is released. -/
def pop : RingFifo w α :=
  { f with
    rdptr := f.rdptr + 1
    val := fun a => if a = f.rdptr then false else f.val a }

/-- The oldest row leaves a full FIFO, and its row is written. -/
def replace (x : α) : RingFifo w α where
  rows := f.write x
  wrptr := f.wrptr + 1
  rdptr := f.rdptr + 1
  val := f.val

def head : α := f.rows f.rdptr

def valid : Bool := f.val f.rdptr

def full : Prop := ∀ a, f.val a = true

instance : Decidable f.full := inferInstanceAs (Decidable (∀ _, _))

/-- The FIFO holds the entries `xs`, oldest first. -/
structure Holds (xs : List α) : Prop where
  length_le : xs.length ≤ 2 ^ w
  wrptr_eq : f.wrptr = f.rdptr + BitVec.ofNat w xs.length
  val_eq : ∀ a, f.val a = decide ((a - f.rdptr).toNat < xs.length)
  rows_eq : ∀ k (h : k < xs.length), f.rows (f.rdptr + BitVec.ofNat w k) = xs[k]

/-! ## Distances from the read pointer -/

lemma sub_toNat_eq {r a : BitVec w} {n : ℕ} (hn : n < 2 ^ w) :
    (a - r).toNat = n ↔ a = r + BitVec.ofNat w n := by
  constructor
  · intro h
    have heq : a - r = BitVec.ofNat w n := by
      apply BitVec.eq_of_toNat_eq
      rw [h, BitVec.toNat_ofNat, Nat.mod_eq_of_lt hn]
    rw [← heq, BitVec.add_comm, BitVec.sub_add_cancel]
  · rintro rfl
    rw [BitVec.add_comm, BitVec.add_sub_cancel, BitVec.toNat_ofNat, Nat.mod_eq_of_lt hn]

lemma sub_succ (a r : BitVec w) : a - (r + 1) = a - r - 1 := by
  rw [BitVec.sub_eq_add_neg, BitVec.neg_add, BitVec.sub_eq_add_neg, BitVec.sub_eq_add_neg a r,
    BitVec.sub_eq_add_neg, ← BitVec.add_assoc]

lemma sub_succ_toNat {r a : BitVec w} (h : a ≠ r) : (a - (r + 1)).toNat = (a - r).toNat - 1 := by
  have hne : (a - r).toNat ≠ 0 := fun h0 => h (by
    have heq : a - r = 0 := BitVec.eq_of_toNat_eq h0
    rw [← BitVec.sub_add_cancel a r, heq]
    simp)
  have hlt := (a - r).isLt
  have hone : (1 : BitVec w).toNat = 1 := Nat.mod_eq_of_lt (lt_of_le_of_lt (Nat.one_le_iff_ne_zero.mpr hne) hlt)
  rw [sub_succ, BitVec.toNat_sub, hone]
  have hpow : 2 ^ w - 1 + (a - r).toNat = 2 ^ w + ((a - r).toNat - 1) := by omega
  rw [hpow, Nat.add_mod_left, Nat.mod_eq_of_lt (by omega)]

lemma row_succ (r : BitVec w) (k : ℕ) : r + 1 + BitVec.ofNat w k = r + BitVec.ofNat w (k + 1) := by
  rw [BitVec.add_assoc, BitVec.ofNat_add, BitVec.add_comm 1]
  rfl

lemma ofNat_rows : BitVec.ofNat w (2 ^ w) = 0 := by
  apply BitVec.eq_of_toNat_eq
  rw [BitVec.toNat_ofNat, Nat.mod_self]
  rfl

/-! ## The operations -/

variable {f} {xs : List α}

lemma holds_nil (h : f.wrptr = f.rdptr) (hv : ∀ a, f.val a = false) : f.Holds [] where
  length_le := Nat.zero_le _
  wrptr_eq := by simp [h]
  val_eq a := by simp [hv]
  rows_eq := by simp

lemma Holds.valid_eq (h : f.Holds xs) : f.valid = !xs.isEmpty := by
  rw [valid, h.val_eq, BitVec.sub_self]
  cases xs <;> simp

lemma Holds.full_iff (h : f.Holds xs) : f.full ↔ xs.length = 2 ^ w := by
  constructor
  · intro hfull
    refine Nat.le_antisymm h.length_le (Nat.le_of_not_lt fun hlt => ?_)
    have hv := h.val_eq (f.rdptr + BitVec.ofNat w xs.length)
    rw [hfull, (sub_toNat_eq hlt).mpr rfl] at hv
    exact absurd hv.symm (by simp)
  · intro hlen a
    rw [h.val_eq, hlen]
    exact decide_eq_true (a - f.rdptr).isLt

lemma Holds.head_eq {x : α} (h : f.Holds (x :: xs)) : f.head = x := by
  have hrow := h.rows_eq 0 (by simp)
  simpa [head] using hrow

/-- The row behind the oldest one. -/
lemma Holds.next_valid (h : f.Holds xs) (hw : 0 < w) :
    f.val (f.rdptr + 1) = decide (1 < xs.length) := by
  have hone : (f.rdptr + 1 - f.rdptr).toNat = 1 :=
    (sub_toNat_eq (Nat.one_lt_two_pow (Nat.pos_iff_ne_zero.mp hw))).mpr rfl
  rw [h.val_eq, hone]

/-- Writing one more row. -/
lemma Holds.push (h : f.Holds xs) (hlt : xs.length < 2 ^ w) (x : α) : (f.push x).Holds (xs ++ [x]) where
  length_le := by
    rw [List.length_append]
    exact hlt
  wrptr_eq := by
    change f.wrptr + 1 = f.rdptr + _
    rw [List.length_append, BitVec.ofNat_add, ← BitVec.add_assoc, ← h.wrptr_eq]
    rfl
  val_eq a := by
    change (if a = f.wrptr then true else f.val a) = decide ((a - f.rdptr).toNat < (xs ++ [x]).length)
    rw [List.length_append, List.length_singleton, h.wrptr_eq, h.val_eq]
    by_cases ha : a = f.rdptr + BitVec.ofNat w xs.length
    · rw [if_pos ha, (sub_toNat_eq hlt).mpr ha]
      exact (decide_eq_true (Nat.lt_succ_self _)).symm
    · rw [if_neg ha]
      have hne : (a - f.rdptr).toNat ≠ xs.length := fun hx => ha ((sub_toNat_eq hlt).mp hx)
      exact decide_eq_decide.mpr (by omega)
  rows_eq k hk := by
    rw [List.length_append, List.length_singleton] at hk
    change (if f.rdptr + BitVec.ofNat w k = f.wrptr then x else f.rows _) = _
    rw [h.wrptr_eq]
    rcases Nat.lt_succ_iff_lt_or_eq.mp hk with hk | rfl
    · have hne : f.rdptr + BitVec.ofNat w k ≠ f.rdptr + BitVec.ofNat w xs.length := fun heq => by
        have h1 := (sub_toNat_eq (r := f.rdptr) (hk.trans hlt)).mpr rfl
        rw [heq, (sub_toNat_eq hlt).mpr rfl] at h1
        omega
      rw [List.getElem_append_left hk, ← h.rows_eq k hk]
      exact if_neg hne
    · rw [List.getElem_concat_length rfl]
      exact if_pos rfl

/-- Releasing the oldest row. -/
lemma Holds.pop {x : α} (h : f.Holds (x :: xs)) : f.pop.Holds xs where
  length_le := (Nat.le_succ _).trans h.length_le
  wrptr_eq := by
    change f.wrptr = f.rdptr + 1 + _
    rw [h.wrptr_eq, row_succ]
    rfl
  val_eq a := by
    change (if a = f.rdptr then false else f.val a) = decide ((a - (f.rdptr + 1)).toNat < xs.length)
    have hlen := h.length_le
    rw [List.length_cons] at hlen
    by_cases ha : a = f.rdptr
    · rw [if_pos ha, ha, eq_comm, decide_eq_false_iff_not]
      have hsub : f.rdptr - (f.rdptr + 1) = -1 := by
        rw [sub_succ, BitVec.sub_self, BitVec.zero_sub]
      have hlast : (-1 : BitVec w).toNat = 2 ^ w - 1 :=
        (congrArg BitVec.toNat BitVec.neg_one_eq_allOnes).trans BitVec.toNat_allOnes
      rw [hsub, hlast]
      omega
    · have hne : (a - f.rdptr).toNat ≠ 0 := fun h0 =>
        ha (by simpa using (sub_toNat_eq (Nat.two_pow_pos w)).mp h0)
      rw [if_neg ha, h.val_eq, sub_succ_toNat ha, List.length_cons]
      exact decide_eq_decide.mpr (by omega)
  rows_eq k hk := by
    have hrow := h.rows_eq (k + 1) (by simpa using hk)
    change f.rows (f.rdptr + 1 + _) = _
    rw [row_succ]
    simpa using hrow

/-- An entry is taken into the row of the one that leaves. -/
lemma Holds.replace {x : α} (h : f.Holds (x :: xs)) (hfull : (x :: xs).length = 2 ^ w) (y : α) :
    (f.replace y).Holds (xs ++ [y]) where
  length_le := by
    rw [List.length_append, ← hfull]
    exact le_refl _
  wrptr_eq := by
    change f.wrptr + 1 = f.rdptr + 1 + _
    rw [row_succ, List.length_append, h.wrptr_eq, List.length_singleton, List.length_cons,
      BitVec.ofNat_add (xs.length + 1), ← BitVec.add_assoc]
    rfl
  val_eq a := by
    change f.val a = _
    rw [h.val_eq, List.length_append, List.length_singleton, ← List.length_cons (a := x), hfull]
    exact (decide_eq_true (a - f.rdptr).isLt).trans (decide_eq_true (a - (f.rdptr + 1)).isLt).symm
  rows_eq k hk := by
    rw [List.length_cons] at hfull
    rw [List.length_append, List.length_singleton] at hk
    have hwr : f.wrptr = f.rdptr := by
      rw [h.wrptr_eq, List.length_cons, hfull, ofNat_rows]
      simp
    change (if f.rdptr + 1 + BitVec.ofNat w k = f.wrptr then y else f.rows _) = _
    rw [row_succ, hwr]
    rcases Nat.lt_succ_iff_lt_or_eq.mp hk with hk | rfl
    · have hne : f.rdptr + BitVec.ofNat w (k + 1) ≠ f.rdptr := fun heq => by
        have h1 := (sub_toNat_eq (r := f.rdptr) (n := k + 1) (by omega)).mpr rfl
        rw [heq, BitVec.sub_self] at h1
        exact absurd h1 (by simp)
      have hrow := h.rows_eq (k + 1) (by simpa using hk)
      rw [List.getElem_append_left hk, ← List.getElem_cons_succ x xs k (by simpa using hk), ← hrow,
        ← row_succ]
      exact if_neg (by rwa [row_succ])
    · rw [List.getElem_concat_length rfl]
      exact if_pos (by rw [hfull, ofNat_rows]; simp)

end RingFifo

end ThymesisFlow
