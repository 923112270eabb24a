import Mathlib.Data.BitVec

/-!
# Page numbers

Addresses of `w` bits in pages of `2 ^ s` bytes.  Page numbers are added where addresses are meant: on
aligned addresses that is the same, also where the sum wraps.
-/

namespace ThymesisFlow

variable {w : ℕ}

/-- `x` is the address of a page. -/
def PageAligned (s : ℕ) (x : BitVec w) : Prop := 2 ^ s ∣ x.toNat

instance (s : ℕ) (x : BitVec w) : Decidable (PageAligned s x) :=
  inferInstanceAs (Decidable (2 ^ s ∣ x.toNat))

/-- The page of an address. -/
def pageNumber (s : ℕ) (x : BitVec w) : BitVec w := x >>> s

/-- The address of a page. -/
def pageAddress (s : ℕ) (n : BitVec w) : BitVec w := n <<< s

/-- **Page numbers add up** as the addresses do. -/
theorem pageAddress_add {s : ℕ} {x y : BitVec w} (hx : PageAligned s x) (hy : PageAligned s y) :
    pageAddress s (pageNumber s x + pageNumber s y) = x + y := by
  have hpos : 0 < 2 ^ s := Nat.two_pow_pos s
  obtain ⟨a, ha⟩ := hx
  obtain ⟨b, hb⟩ := hy
  refine BitVec.eq_of_toNat_eq ?_
  rw [pageAddress, pageNumber, pageNumber, BitVec.toNat_shiftLeft, BitVec.toNat_add,
    BitVec.toNat_ushiftRight, BitVec.toNat_ushiftRight, BitVec.toNat_add, ha, hb,
    Nat.shiftRight_eq_div_pow, Nat.shiftRight_eq_div_pow, Nat.mul_div_cancel_left a hpos,
    Nat.mul_div_cancel_left b hpos, Nat.shiftLeft_eq, Nat.mod_mul_mod, ← Nat.mul_add, Nat.mul_comm]

end ThymesisFlow
