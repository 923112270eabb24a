import Mathlib.Data.BitVec

/-!
# An eight-row FIFO

A register array with a write pointer, a read pointer and one valid bit for each row.  `Holds`
relates it to the list of its entries, oldest first; `Holds.step` says that a cycle pushes at the
end and pops at the front, in the same cycle if need be.
-/

namespace ThymesisFlow

/-- The rows, the two pointers and the valid bits. -/
structure RowFifo (α : Type) where
  rows : BitVec 3 → α
  wrptr : BitVec 3 := 0
  rdptr : BitVec 3 := 0
  val : BitVec 8 := 0

namespace RowFifo

variable {α : Type} (f : RowFifo α)

/-- The row that the write pointer points at is marked, and written if there is something to
write; the row that the read pointer points at is released. -/
def step (push : Bool) (row : Option α) (pop : Bool) : RowFifo α where
  rows := fun a => match row with
    | some x => if push ∧ a = f.wrptr then x else f.rows a
    | none => f.rows a
  wrptr := if push then f.wrptr + 1 else f.wrptr
  rdptr := if pop then f.rdptr + 1 else f.rdptr
  val :=
    if push && pop then (f.val ||| (1#8 <<< f.wrptr.toNat)) &&& ~~~(1#8 <<< f.rdptr.toNat)
    else if push then f.val ||| (1#8 <<< f.wrptr.toNat)
    else if pop then f.val &&& ~~~(1#8 <<< f.rdptr.toNat)
    else f.val

/-- The oldest row. -/
def head : α := f.rows f.rdptr

/-- The oldest row is valid. -/
def valid : Bool := f.val.getLsbD f.rdptr.toNat

/-- Every row is valid. -/
def full : Bool := f.val = 0xFF

/-- The valid bits of `n` rows from `r` on. -/
def mask (r : BitVec 3) : ℕ → BitVec 8
  | 0 => 0
  | n + 1 => mask r n ||| (1#8 <<< (r + BitVec.ofNat 3 n).toNat)

/-- The FIFO holds the entries `xs`, oldest first. -/
structure Holds (xs : List α) : Prop where
  length_le : xs.length ≤ 8
  wrptr_eq : f.wrptr = f.rdptr + BitVec.ofNat 3 xs.length
  val_eq : f.val = mask f.rdptr xs.length
  rows_eq : ∀ k (h : k < xs.length), f.rows (f.rdptr + BitVec.ofNat 3 k) = xs[k]

lemma mask_release : ∀ r : BitVec 3, ∀ n < 8,
    mask r (n + 1) &&& ~~~(1#8 <<< r.toNat) = mask (r + 1) n := by decide

lemma mask_head : ∀ r : BitVec 3, ∀ n < 9,
    (mask r n).getLsbD r.toNat = decide (0 < n) := by decide

lemma mask_full : ∀ r : BitVec 3, ∀ n < 9, mask r n = 0xFF ↔ n = 8 := by decide

lemma row_ne : ∀ r : BitVec 3, ∀ n < 8, ∀ k < n,
    r + BitVec.ofNat 3 k ≠ r + BitVec.ofNat 3 n := by decide

lemma row_succ (r : BitVec 3) (k : ℕ) :
    r + 1 + BitVec.ofNat 3 k = r + BitVec.ofNat 3 (k + 1) := by
  rw [BitVec.add_assoc, BitVec.ofNat_add, BitVec.add_comm 1]
  rfl

variable {f} {xs : List α}

lemma holds_nil (h : f.wrptr = f.rdptr) (hv : f.val = 0) : f.Holds [] where
  length_le := by simp
  wrptr_eq := by simp [h]
  val_eq := by simp [hv, mask]
  rows_eq := by simp

lemma Holds.valid_eq (h : f.Holds xs) : f.valid = !xs.isEmpty := by
  rw [valid, h.val_eq, mask_head _ _ (Nat.lt_succ_of_le h.length_le)]
  cases xs <;> simp

lemma Holds.full_iff (h : f.Holds xs) : f.full = true ↔ xs.length = 8 := by
  rw [full, decide_eq_true_iff, h.val_eq, mask_full _ _ (Nat.lt_succ_of_le h.length_le)]

lemma Holds.head_eq {x : α} (h : f.Holds (x :: xs)) : f.head = x := by
  have := h.rows_eq 0 (by simp)
  simpa [head] using this

/-- Marking one more row. -/
lemma Holds.push (h : f.Holds xs) (hlt : xs.length < 8) (x : α) :
    (f.step true (some x) false).Holds (xs ++ [x]) where
  length_le := by simp; omega
  wrptr_eq := by
    simp only [step, List.length_append, List.length_singleton, if_true]
    rw [h.wrptr_eq, BitVec.ofNat_add, BitVec.add_assoc]
    rfl
  val_eq := by
    simp only [step, List.length_append, List.length_singleton, mask]
    rw [h.val_eq, h.wrptr_eq]
    rfl
  rows_eq := by
    intro k hk
    simp only [List.length_append, List.length_singleton] at hk
    simp only [step, h.wrptr_eq, true_and, Bool.false_eq_true, if_false]
    rcases Nat.lt_succ_iff_lt_or_eq.mp hk with hk | rfl
    · rw [if_neg (row_ne _ _ hlt _ hk), h.rows_eq k hk, List.getElem_append_left hk]
    · simp

/-- Releasing the oldest row. -/
lemma Holds.pop {x : α} (h : f.Holds (x :: xs)) (row : Option α) :
    (f.step false row true).Holds xs where
  length_le := (Nat.le_succ _).trans h.length_le
  wrptr_eq := by
    simp only [step, Bool.false_eq_true, if_false, if_true]
    rw [h.wrptr_eq, row_succ]
    rfl
  val_eq := by
    simp only [step, Bool.and_true, Bool.false_eq_true, if_false, if_true]
    rw [h.val_eq, List.length_cons, mask_release _ _ (Nat.lt_of_succ_le h.length_le)]
  rows_eq := by
    intro k hk
    have := h.rows_eq (k + 1) (by simpa using hk)
    simp only [step, Bool.false_eq_true, false_and, if_false, if_true, row_succ]
    cases row <;> simpa using this

/-- A push and a pop of the same cycle are the one after the other. -/
lemma step_push_pop (f : RowFifo α) (x : α) :
    f.step true (some x) true = (f.step true (some x) false).step false none true := by
  simp [step]

lemma step_idle (f : RowFifo α) (row : Option α) : f.step false row false = f := by
  cases row <;> simp [step]

/-- **One cycle of the FIFO.** -/
theorem Holds.step (h : f.Holds xs) (push pop : Bool) (row : Option α) (x : α)
    (hrow : push = true → row = some x) (hpush : push = true → xs.length < 8)
    (hpop : pop = true → xs ≠ []) :
    (f.step push row pop).Holds
      ((if pop then xs.tail else xs) ++ (if push then [x] else [])) := by
  cases push with
  | false =>
      cases pop with
      | false => simpa [step_idle] using h
      | true =>
          obtain ⟨y, ys, rfl⟩ := List.exists_cons_of_ne_nil (hpop rfl)
          simpa using h.pop row
  | true =>
      have hp := h.push (hpush rfl) x
      rw [hrow rfl]
      cases pop with
      | false => simpa using hp
      | true =>
          obtain ⟨y, ys, rfl⟩ := List.exists_cons_of_ne_nil (hpop rfl)
          rw [step_push_pop]
          simpa using hp.pop none

/-- A push with nothing to write leaves what was in the row. -/
lemma step_none (f : RowFifo α) (pop : Bool) :
    f.step true none pop = f.step true (some (f.rows f.wrptr)) pop := by
  simp only [RowFifo.step, RowFifo.mk.injEq, and_true]
  funext a
  split_ifs with ha
  · rw [ha.2]
  · rfl

/-- One cycle of the FIFO when there may be nothing to write. -/
theorem Holds.step_getD (h : f.Holds xs) (push pop : Bool) (row : Option α)
    (hpush : push = true → xs.length < 8) (hpop : pop = true → xs ≠ []) :
    (f.step push row pop).Holds ((if pop then xs.tail else xs)
      ++ (if push then [row.getD (f.rows f.wrptr)] else [])) := by
  cases row with
  | some x => exact h.step push pop (some x) x (fun _ => rfl) hpush hpop
  | none =>
      cases push with
      | false => exact h.step false pop none (f.rows f.wrptr) (by simp) hpush hpop
      | true =>
          rw [step_none]
          exact h.step true pop _ (f.rows f.wrptr) (fun _ => rfl) hpush hpop

end RowFifo

end ThymesisFlow
