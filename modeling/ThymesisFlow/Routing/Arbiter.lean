import Mathlib.Data.BitVec

/-!
# The round-robin arbiter

`thymesisflow_rr_arbiter`: the lowest request among those not served since the mask was last
refilled.
-/

namespace ThymesisFlow

variable {SIZE : ℕ}

/-- The lowest set bit of a vector. -/
def lowestBit (v : BitVec SIZE) : BitVec SIZE := v &&& (~~~v + 1)

/-- `selected`, a function of the register `masked_req_vector` and the requests of the cycle. -/
def arbSelected (masked_req_vector request_vector : BitVec SIZE) : BitVec SIZE :=
  if masked_req_vector = 0 then lowestBit request_vector else lowestBit masked_req_vector

/-- The register `masked_req_vector`. -/
def arbStep (masked_req_vector request_vector : BitVec SIZE) (request_nxt : Bool) : BitVec SIZE :=
  let selected := arbSelected masked_req_vector request_vector
  if request_nxt && masked_req_vector = 0 then (request_vector ^^^ selected) &&& request_vector
  else if request_nxt then (masked_req_vector ^^^ selected) &&& request_vector
  else masked_req_vector

/-- The mask holds requests only. -/
def ArbMasked (masked_req_vector request_vector : BitVec SIZE) : Prop :=
  masked_req_vector &&& request_vector = masked_req_vector

/-! ## Two network ports -/

/-- The two network ports. -/
inductive Port
  | port0
  | port1
  deriving DecidableEq, Repr

namespace Port

/-- The parameters `PORT0` and `PORT1`. -/
def id : Port → BitVec 2
  | port0 => 0b01
  | port1 => 0b10

def other : Port → Port
  | port0 => port1
  | port1 => port0

@[simp] lemma other_other (p : Port) : p.other.other = p := by cases p <;> rfl

lemma other_ne (p : Port) : p.other ≠ p := by cases p <;> decide

lemma eq_or_eq_other (p x : Port) : x = p ∨ x = p.other := by
  cases p <;> cases x <;> decide

end Port

/-- The two requests as a vector. -/
def reqs (r0 r1 : Bool) : BitVec 2 := BitVec.ofBool r1 ++ BitVec.ofBool r0

/-- The mask keeps to the requests: a request only ends when it is selected. -/
lemma arbStep_masked : ∀ (mask : BitVec 2) (r0 r1 r0' r1' nxt : Bool),
    ArbMasked mask (reqs r0 r1) →
    (r0 = true → r0' = true ∨ nxt = true ∧ arbSelected mask (reqs r0 r1) = Port.id .port0) →
    (r1 = true → r1' = true ∨ nxt = true ∧ arbSelected mask (reqs r0 r1) = Port.id .port1) →
    ArbMasked (arbStep mask (reqs r0 r1) nxt) (reqs r0' r1') := by
  unfold ArbMasked
  decide

/-- With a request there is a selection, and it is a request. -/
lemma arbSelected_request : ∀ (mask : BitVec 2) (r0 r1 : Bool),
    ArbMasked mask (reqs r0 r1) → (r0 || r1) = true →
    arbSelected mask (reqs r0 r1) = Port.id .port0 ∧ r0 = true ∨
      arbSelected mask (reqs r0 r1) = Port.id .port1 ∧ r1 = true := by
  unfold ArbMasked
  decide

end ThymesisFlow
