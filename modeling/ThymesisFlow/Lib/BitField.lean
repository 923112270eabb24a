import Mathlib.Data.BitVec
import Mathlib.Logic.Function.Basic

/-!
# Reading and writing fields of a bit vector

`x[hi:lo]` on the right of an assignment is `field x lo len`; on the left it is `setField`.  The
two frame lemmas are all that later modules need: a field reads back what was written to it, and
a write leaves every field outside it alone.
-/

namespace ThymesisFlow

variable {w len : ℕ}

/-- Bits `lo + len - 1` down to `lo` of `x`. -/
def field (x : BitVec w) (lo len : ℕ) : BitVec len := x.extractLsb' lo len

/-- `x` with the bits from `lo` on replaced by `v`. -/
def setField (x : BitVec w) (lo : ℕ) (v : BitVec len) : BitVec w :=
  (x &&& ~~~((BitVec.allOnes len).setWidth w <<< lo)) ||| (v.setWidth w <<< lo)

/-- Bit `i` of `x`. -/
def bit (x : BitVec w) (i : ℕ) : Bool := x.getLsbD i

@[simp] lemma getLsbD_field (x : BitVec w) (lo i : ℕ) :
    (field x lo len).getLsbD i = (decide (i < len) && x.getLsbD (lo + i)) := by
  simp [field]

lemma getLsbD_setField (x : BitVec w) (lo : ℕ) (v : BitVec len) (i : ℕ) :
    (setField x lo v).getLsbD i
      = (decide (i < w) && if lo ≤ i ∧ i < lo + len then v.getLsbD (i - lo) else x.getLsbD i) := by
  by_cases hw : i < w
  · by_cases hlo : lo ≤ i
    · by_cases hhi : i < lo + len
      · have h1 : i - lo < len := by omega
        simp [setField, hw, hlo, hhi, h1, Nat.not_lt.mpr hlo]
      · have h1 : ¬ i - lo < len := by omega
        have h2 : v.getLsbD (i - lo) = false := BitVec.getLsbD_of_ge v _ (by omega)
        simp [setField, hw, hlo, hhi, h1, h2]
    · simp [setField, hw, hlo, Nat.lt_of_not_le hlo]
  · simp [setField, hw]

/-- A field reads back what was written to it. -/
@[simp] lemma field_setField_self (x : BitVec w) (lo : ℕ) (v : BitVec len) (h : lo + len ≤ w) :
    field (setField x lo v) lo len = v := by
  apply BitVec.eq_of_getLsbD_eq
  intro i hi
  have h1 : lo + i < w := by omega
  rw [getLsbD_field, getLsbD_setField]
  simp [hi, h1, -BitVec.getLsbD_eq_getElem]

/-- The last write to a field counts. -/
lemma setField_setField (x : BitVec w) (lo : ℕ) (u v : BitVec len) :
    setField (setField x lo u) lo v = setField x lo v := by
  apply BitVec.eq_of_getLsbD_eq
  intro i hi
  rw [getLsbD_setField, getLsbD_setField, getLsbD_setField]
  split_ifs <;> simp [hi]

/-- A write leaves a field outside it alone. -/
lemma field_setField_of_disjoint (x : BitVec w) (lo lo' : ℕ) {len' : ℕ} (v : BitVec len)
    (h : lo' + len' ≤ lo ∨ lo + len ≤ lo') :
    field (setField x lo v) lo' len' = field x lo' len' := by
  apply BitVec.eq_of_getLsbD_eq
  intro i hi
  have h1 : ¬ (lo ≤ lo' + i ∧ lo' + i < lo + len) := by omega
  by_cases hw : lo' + i < w
  · rw [getLsbD_field, getLsbD_field, getLsbD_setField]
    simp [h1, hw, -BitVec.getLsbD_eq_getElem]
  · rw [getLsbD_field, getLsbD_field, getLsbD_setField,
      BitVec.getLsbD_of_ge x _ (Nat.le_of_not_lt hw)]
    simp [h1]

/-- A write leaves a bit outside it alone. -/
lemma bit_setField_of_disjoint (x : BitVec w) (lo i : ℕ) (v : BitVec len)
    (h : i < lo ∨ lo + len ≤ i) : bit (setField x lo v) i = bit x i := by
  have h1 : ¬ (lo ≤ i ∧ i < lo + len) := by omega
  by_cases hw : i < w
  · rw [bit, bit, getLsbD_setField]
    simp [h1, hw, -BitVec.getLsbD_eq_getElem]
  · rw [bit, bit, getLsbD_setField, BitVec.getLsbD_of_ge x _ (Nat.le_of_not_lt hw)]
    simp [h1]

/-- A write makes the bits in its range agree and keeps the others. -/
lemma bit_setField_congr {x y : BitVec w} (lo : ℕ) (v : BitVec len) {i : ℕ}
    (h : i < lo ∨ lo + len ≤ i → bit x i = bit y i) :
    bit (setField x lo v) i = bit (setField y lo v) i := by
  rw [bit, bit, getLsbD_setField, getLsbD_setField]
  by_cases hi : lo ≤ i ∧ i < lo + len
  · rw [if_pos hi, if_pos hi]
  · rw [if_neg hi, if_neg hi]
    exact congrArg _ (h (by omega))

/-- Two fields next to each other are one. -/
lemma field_append_field (x : BitVec w) {lo hi len len' : ℕ} (h : hi = lo + len) :
    field x hi len' ++ field x lo len = field x lo (len' + len) :=
  BitVec.extractLsb'_append_extractLsb'_eq_extractLsb' h

lemma field_append_left {m n : ℕ} (x : BitVec m) (y : BitVec n) : field (x ++ y) n m = x :=
  BitVec.extractLsb'_append_eq_left

lemma field_append_right {m n : ℕ} (x : BitVec m) (y : BitVec n) : field (x ++ y) 0 n = y := by
  apply BitVec.eq_of_getLsbD_eq
  intro i hi
  rw [getLsbD_field, BitVec.getLsbD_append]
  simp [hi]

/-- A field of the upper of two words. -/
lemma field_append_high {m n : ℕ} (x : BitVec m) (y : BitVec n) {lo len : ℕ} (h : n ≤ lo) :
    field (x ++ y) lo len = field x (lo - n) len := by
  apply BitVec.eq_of_getLsbD_eq
  intro i hi
  rw [getLsbD_field, getLsbD_field, BitVec.getLsbD_append, if_neg (by omega),
    show lo + i - n = lo - n + i by omega]

/-- A field of the lower of two words. -/
lemma field_append_low {m n : ℕ} (x : BitVec m) (y : BitVec n) {lo len : ℕ} (h : lo + len ≤ n) :
    field (x ++ y) lo len = field y lo len := by
  apply BitVec.eq_of_getLsbD_eq
  intro i hi
  rw [getLsbD_field, getLsbD_field, BitVec.getLsbD_append, if_pos (by omega)]

lemma field_self (x : BitVec w) : field x 0 w = x := BitVec.extractLsb'_eq_self

/-- A field of a field. -/
lemma field_field (x : BitVec w) {lo lo' len' : ℕ} (h : lo' + len' ≤ len) :
    field (field x lo len) lo' len' = field x (lo + lo') len' := by
  apply BitVec.eq_of_getLsbD_eq
  intro i hi
  have hlt : lo' + i < len := by omega
  rw [getLsbD_field, getLsbD_field, getLsbD_field, Nat.add_assoc]
  simp [hi, hlt]

lemma field_setWidth (x : BitVec w) {lo len' : ℕ} (h : lo + len' ≤ len) :
    field (x.setWidth len) lo len' = field x lo len' := by
  apply BitVec.eq_of_getLsbD_eq
  intro i hi
  have hlt : lo + i < len := by omega
  rw [getLsbD_field, getLsbD_field, BitVec.getLsbD_setWidth]
  simp [hlt]

lemma bit_eq_field (x : BitVec w) (lo len : ℕ) {k : ℕ} (hk : k < len) :
    bit x (lo + k) = bit (field x lo len) k := by
  rw [bit, bit, getLsbD_field]
  simp [hk]

/-! ## Single bits -/

/-- `x` with bit `i` set. -/
def setBit (x : BitVec w) (i : ℕ) : BitVec w := x ||| (1#w <<< i)

/-- `x` with bit `i` cleared. -/
def clearBit (x : BitVec w) (i : ℕ) : BitVec w := x &&& ~~~(1#w <<< i)

lemma getLsbD_one_shiftLeft (i j : ℕ) :
    (1#w <<< i).getLsbD j = (decide (j < w) && decide (j = i)) := by
  rw [BitVec.getLsbD_shiftLeft, BitVec.getLsbD_one]
  by_cases hj : j < w
  · by_cases hji : j = i
    · subst hji
      simp [hj]
      omega
    · have h1 : ¬ (¬ j < i ∧ 0 < w ∧ j - i = 0) := by omega
      simp [hj, hji]
      omega
  · simp [hj]

lemma getLsbD_setBit (x : BitVec w) (i j : ℕ) :
    (setBit x i).getLsbD j = (x.getLsbD j || (decide (j < w) && decide (j = i))) := by
  rw [setBit, BitVec.getLsbD_or, getLsbD_one_shiftLeft]

lemma getLsbD_clearBit (x : BitVec w) (i j : ℕ) :
    (clearBit x i).getLsbD j = (x.getLsbD j && !decide (j = i)) := by
  rw [clearBit, BitVec.getLsbD_and, BitVec.getLsbD_not, getLsbD_one_shiftLeft]
  by_cases hj : j < w
  · simp [hj, -BitVec.getLsbD_eq_getElem]
  · simp [BitVec.getLsbD_of_ge x j (Nat.le_of_not_lt hj)]

/-! ## Bytes -/

/-- `x` with the enabled bytes replaced. -/
def setBytes (be : ℕ → Bool) (v : ℕ → BitVec 8) (n : ℕ) (x : BitVec w) : BitVec w :=
  (List.range n).foldl (fun x k => if be k then setField x (8 * k) (v k) else x) x

lemma setBytes_succ (be : ℕ → Bool) (v : ℕ → BitVec 8) (n : ℕ) (x : BitVec w) :
    setBytes be v (n + 1) x
      = if be n then setField (setBytes be v n x) (8 * n) (v n) else setBytes be v n x := by
  rw [setBytes, List.range_succ, List.foldl_append]
  rfl

/-- Each byte is the new one or the old one. -/
lemma field_setBytes (be : ℕ → Bool) (v : ℕ → BitVec 8) (x : BitVec w) {n k : ℕ} (hk : 8 * k + 8 ≤ w) :
    field (setBytes be v n x) (8 * k) 8
      = if k < n ∧ be k = true then v k else field x (8 * k) 8 := by
  induction n with
  | zero => simp [setBytes]
  | succ n ih =>
      rw [setBytes_succ]
      rcases Nat.lt_trichotomy k n with hlt | rfl | hgt
      · have hframe : field (setField (setBytes be v n x) (8 * n) (v n)) (8 * k) 8
            = field (setBytes be v n x) (8 * k) 8 :=
          field_setField_of_disjoint _ _ _ _ (.inl (by omega))
        have hcond : (k < n + 1 ∧ be k = true) ↔ (k < n ∧ be k = true) := by
          simp [hlt, Nat.lt_succ_of_lt hlt]
        by_cases hn : be n = true
        · rw [if_pos hn, hframe, ih, if_congr hcond rfl rfl]
        · rw [if_neg hn, ih, if_congr hcond rfl rfl]
      · split_ifs with hn hcond hcond
        · exact field_setField_self _ _ _ hk
        · exact absurd ⟨Nat.lt_succ_self k, hn⟩ hcond
        · exact absurd hcond.2 hn
        · rw [ih, if_neg fun h => absurd h.1 (Nat.lt_irrefl k)]
      · have hframe : field (setField (setBytes be v n x) (8 * n) (v n)) (8 * k) 8
            = field (setBytes be v n x) (8 * k) 8 :=
          field_setField_of_disjoint _ _ _ _ (.inr (by omega))
        have hcond : ¬ (k < n + 1 ∧ be k = true) := fun h => absurd h.1 (by omega)
        have hcond' : ¬ (k < n ∧ be k = true) := fun h => absurd h.1 (by omega)
        rw [if_neg hcond'] at ih
        by_cases hn : be n = true
        · rw [if_pos hn, hframe, ih, if_neg hcond]
        · rw [if_neg hn, ih, if_neg hcond]

lemma eq_of_bytes {n : ℕ} {x y : BitVec (8 * n)}
    (h : ∀ k < n, field x (8 * k) 8 = field y (8 * k) 8) : x = y := by
  refine BitVec.eq_of_getLsbD_eq fun i hi => ?_
  have hbyte := congrArg (fun b => b.getLsbD (i % 8)) (h (i / 8) (by omega))
  have hmod : i % 8 < 8 := Nat.mod_lt _ (by decide)
  simpa [hmod, Nat.div_add_mod, -BitVec.getLsbD_eq_getElem] using hbyte

/-! ## OR gates -/

section

variable {α : Type*} {on : α → Bool} {v : α → BitVec w}

lemma foldl_or_off (l : List α) (h : ∀ a ∈ l, on a = false) (d : BitVec w) :
    l.foldl (fun d a => d ||| if on a then v a else 0) d = d := by
  induction l generalizing d with
  | nil => rfl
  | cons a l ih =>
      rw [List.foldl_cons, ih fun b hb => h b (by simp [hb]), h a (by simp)]
      simp

/-- An OR gate of sources of which only one is on. -/
lemma foldl_or_gate (l : List α) (hl : l.Pairwise fun a b => ¬ (on a = true ∧ on b = true)) {a : α}
    (ha : a ∈ l) (hon : on a = true) (d : BitVec w) :
    l.foldl (fun d a => d ||| if on a then v a else 0) d = d ||| v a := by
  induction l generalizing d with
  | nil => simp at ha
  | cons b l ih =>
      obtain ⟨hb, hl⟩ := List.pairwise_cons.mp hl
      rw [List.foldl_cons]
      rcases List.mem_cons.mp ha with rfl | ha
      · rw [foldl_or_off l fun c hc => by simpa [hon] using hb c hc, hon, if_pos rfl]
      · have hoff : on b = false := by simpa [hon] using hb a ha
        rw [ih hl ha, hoff]
        simp

end

/-! ## Banks of registers -/

/-- A bank of registers of which one is written.  It is `Function.update`, without the cast that keeps
a run from being evaluated. -/
def setAt {ι α : Type} [DecidableEq ι] (bank : ι → α) (k : ι) (a : α) : ι → α :=
  fun j => if j = k then a else bank j

lemma setAt_eq_update {ι α : Type} [DecidableEq ι] (bank : ι → α) (k : ι) (a : α) :
    setAt bank k a = Function.update bank k a :=
  funext fun j => (Function.update_apply bank k a j).symm

end ThymesisFlow
