import Mathlib.Data.List.Basic
import Mathlib.Data.List.TakeWhile
import Mathlib.Tactic.Ring

/-!
# Byte buffers

Memory of a fixed size with `memcpy` in both directions, C strings in such memory, and numbers in
little endian order.  What is copied in is copied out again (`get_put`), and a copy leaves
everything outside its range as it is (`get_put_of_disjoint`).
-/

namespace ThymesisFlow

/-- Memory of `n` bytes. -/
abbrev Bytes (n : ℕ) := Fin n → UInt8

namespace Bytes

variable {n : ℕ}

/-- `memcpy` of `bs` to the offset `off`. -/
def put (m : Bytes n) (off : ℕ) (bs : List UInt8) : Bytes n := fun j =>
  if off ≤ j.val then bs.getD (j.val - off) (m j) else m j

/-- `memcpy` of `len` bytes from the offset `off`. -/
def get (m : Bytes n) (off len : ℕ) : List UInt8 :=
  (List.range' off len).map fun k => if h : k < n then m ⟨k, h⟩ else 0

@[simp] lemma length_get (m : Bytes n) (off len : ℕ) : (m.get off len).length = len := by
  simp [get]

lemma getElem_get (m : Bytes n) {off len k : ℕ} (hk : k < (m.get off len).length)
    (h : off + k < n) : (m.get off len)[k] = m ⟨off + k, h⟩ := by
  simp [get, h]

/-- **What is copied in is copied out again.** -/
theorem get_put (m : Bytes n) (off : ℕ) (bs : List UInt8) (h : off + bs.length ≤ n) :
    (m.put off bs).get off bs.length = bs := by
  refine List.ext_getElem (by simp) fun k hk hk' => ?_
  rw [getElem_get _ hk (by omega), put, if_pos (by simp)]
  simp [List.getElem?_eq_getElem hk']

/-- A copy to another place is not seen. -/
theorem get_put_of_disjoint (m : Bytes n) {off off' : ℕ} {bs : List UInt8} {len : ℕ}
    (h : off' + len ≤ off ∨ off + bs.length ≤ off') :
    (m.put off bs).get off' len = m.get off' len := by
  refine List.map_congr_left fun k hk => ?_
  rw [List.mem_range'_1] at hk
  split_ifs with hkn
  · simp only [put]
    split_ifs with hoff
    · rw [List.getD_eq_getElem?_getD, List.getElem?_eq_none (by omega)]
      rfl
    · rfl
  · rfl

lemma get_add (m : Bytes n) (off a b : ℕ) : m.get off (a + b) = m.get off a ++ m.get (off + a) b := by
  rw [get, get, get, ← List.map_append, List.range'_append_1]

/-- What is copied in is at the beginning of a longer copy. -/
lemma get_put_prefix (m : Bytes n) {off len : ℕ} {bs : List UInt8} (hlen : bs.length ≤ len)
    (h : off + len ≤ n) :
    (m.put off bs).get off len = bs ++ m.get (off + bs.length) (len - bs.length) := by
  have hsplit := get_add (m.put off bs) off bs.length (len - bs.length)
  rw [Nat.add_sub_cancel' hlen] at hsplit
  rw [hsplit, get_put m off bs (by omega), get_put_of_disjoint m (.inr (Nat.le_refl _))]

end Bytes

/-- The string at the beginning of `bs`, which ends at the first null byte or with `bs`. -/
def cstr (bs : List UInt8) : List UInt8 := bs.takeWhile (· ≠ 0)

/-- `strncmp(a, b, n) == 0`. -/
def strncmpEq (a b : List UInt8) (n : ℕ) : Bool := cstr (a.take n) = cstr (b.take n)

/-- `strncpy` into an array of `n` bytes, which is filled up with null bytes. -/
def strncpy (src : List UInt8) (n : ℕ) : List UInt8 :=
  cstr (src.take n) ++ List.replicate (n - (cstr (src.take n)).length) 0

lemma cstr_cons (b : UInt8) (bs : List UInt8) : cstr (b :: bs) = if b = 0 then [] else b :: cstr bs := by
  by_cases hb : b = 0 <;> simp [cstr, hb]

lemma zero_notMem_cstr (bs : List UInt8) : 0 ∉ cstr bs := fun h => by
  simpa using List.mem_takeWhile_imp h

lemma cstr_eq_self {bs : List UInt8} (h : 0 ∉ bs) : cstr bs = bs :=
  List.takeWhile_eq_self_iff.mpr fun _ hx => by simpa using ne_of_mem_of_not_mem hx h

/-- What is behind the terminator does not count. -/
lemma cstr_append_zero (s rest : List UInt8) : cstr (s ++ 0 :: rest) = cstr s := by
  induction s with
  | nil => rfl
  | cons b s ih => rw [List.cons_append, cstr_cons, cstr_cons, ih]

lemma cstr_strncpy (src : List UInt8) (n : ℕ) : cstr (strncpy src n) = cstr (src.take n) := by
  rw [strncpy]
  cases n - (cstr (src.take n)).length with
  | zero =>
      rw [List.replicate_zero, List.append_nil]
      exact cstr_eq_self (zero_notMem_cstr _)
  | succ k =>
      rw [List.replicate_succ, cstr_append_zero]
      exact cstr_eq_self (zero_notMem_cstr _)

/-- The letters of a string constant. -/
def ascii (cs : List Char) : List UInt8 := cs.map fun c => c.toNat.toUInt8

/-! ## Little endian numbers -/

/-- The low `k` bytes of `x`. -/
def leBytes : ℕ → ℕ → List UInt8
  | 0, _ => []
  | k + 1, x => UInt8.ofNat x :: leBytes k (x / 256)

/-- The number that the bytes stand for. -/
def ofLeBytes : List UInt8 → ℕ
  | [] => 0
  | b :: bs => b.toNat + 256 * ofLeBytes bs

@[simp] lemma length_leBytes (k x : ℕ) : (leBytes k x).length = k := by
  induction k generalizing x with
  | zero => rfl
  | succ k ih => simp [leBytes, ih]

theorem ofLeBytes_leBytes (k x : ℕ) : ofLeBytes (leBytes k x) = x % 256 ^ k := by
  induction k generalizing x with
  | zero => simp [leBytes, ofLeBytes, Nat.mod_one]
  | succ k ih =>
      have hb : (UInt8.ofNat x).toNat = x % 256 := by simp
      rw [leBytes, ofLeBytes, ih, hb, pow_succ', Nat.mod_mul]

end ThymesisFlow
