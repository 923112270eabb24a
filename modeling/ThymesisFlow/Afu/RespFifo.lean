import ThymesisFlow.Afu.FullFifo
import ThymesisFlow.Lib.BitField

/-!
# The response FIFO of the compute AFU and the credits of the TLX

`rmem_respfifo` keeps the responses of the network until the TLX has credits for them.  A response
with data occupies two entries, its header with the first half of the data and the second half alone;
`Beats` says that a list of entries is made of whole responses, the last one maybe not complete yet.

`lpc_tlx_afu_credit_mgr` counts the credits that the TLX grants.
-/

namespace ThymesisFlow

/-! ## `rmem_respfifo` -/

/-- An entry of the response FIFO. -/
structure RffEntry where
  resp_valid : Bool
  rdata_valid : Bool
  resp_opcode : BitVec 8
  resp_code : BitVec 4
  resp_dl : BitVec 2
  resp_dp : BitVec 2
  resp_capptag : BitVec 16
  bdi : Bool
  rdata : BitVec 512
  deriving DecidableEq, Repr

/-- An entry with all bits zero. -/
def RffEntry.zero : RffEntry := ⟨false, false, 0, 0, 0, 0, 0, false, 0⟩

structure RmemRespFifo where
  respfifo : RingFifo 4 RffEntry := { rows := fun _ => .zero }
  rdptr_next : BitVec 4 := 1

namespace RmemRespFifo

variable (f : RmemRespFifo) (resp_in : Option RffEntry) (resp_sent : Bool)

def resp_out : RffEntry := if f.respfifo.valid then f.respfifo.head else .zero

def resp_out_valid : Bool := f.respfifo.valid

def resp_out_next_valid : Bool := f.respfifo.val f.rdptr_next

/-- `resp_fifo_full`, which is low when the FIFO is full. -/
def resp_fifo_full : Bool := !decide f.respfifo.full || resp_sent

/-- The entry that is taken. -/
def taken : List RffEntry := if f.resp_fifo_full resp_sent then resp_in.toList else []

def step : RmemRespFifo where
  respfifo :=
    match resp_in with
    | some x =>
        if f.respfifo.full then if resp_sent then f.respfifo.replace x else f.respfifo
        else if resp_sent then (f.respfifo.push x).pop
        else f.respfifo.push x
    | none => if resp_sent then f.respfifo.pop else f.respfifo
  rdptr_next := if resp_sent then f.rdptr_next + 1 else f.rdptr_next

/-- The FIFO holds `xs`, oldest first. -/
structure Holds (xs : List RffEntry) : Prop where
  respfifo : f.respfifo.Holds xs
  rdptr_next : f.rdptr_next = f.respfifo.rdptr + 1

variable {f resp_in resp_sent} {xs : List RffEntry}

lemma holds_init : Holds {} [] where
  respfifo := RingFifo.holds_nil rfl fun _ => rfl
  rdptr_next := rfl

lemma Holds.resp_out_valid_eq (h : f.Holds xs) : f.resp_out_valid = !xs.isEmpty := h.respfifo.valid_eq

lemma Holds.resp_out_eq (h : f.Holds xs) : f.resp_out = xs.headD .zero := by
  rw [resp_out, h.respfifo.valid_eq]
  cases xs with
  | nil => rfl
  | cons x xs => exact h.respfifo.head_eq

lemma Holds.resp_out_next_valid_eq (h : f.Holds xs) :
    f.resp_out_next_valid = decide (1 < xs.length) := by
  rw [resp_out_next_valid, h.rdptr_next]
  exact h.respfifo.next_valid (by decide)

lemma step_respfifo (f : RmemRespFifo) (resp_in : Option RffEntry) (resp_sent : Bool) :
    (f.step resp_in resp_sent).respfifo = f.respfifo.exchange ⟨resp_in, resp_sent⟩ := by
  rw [RingFifo.exchange_eq]
  cases resp_in <;> rfl

lemma taken_eq (f : RmemRespFifo) (resp_in : Option RffEntry) (resp_sent : Bool) :
    f.taken resp_in resp_sent = f.respfifo.taken ⟨resp_in, resp_sent⟩ := by
  rw [taken, RingFifo.taken, resp_fifo_full, RingFifo.ready]
  cases decide f.respfifo.full <;> rfl

/-- **One cycle of the response FIFO.** -/
theorem Holds.step (h : f.Holds xs) (hsent : resp_sent = true → xs ≠ []) :
    (f.step resp_in resp_sent).Holds
      ((if resp_sent then xs.tail else xs) ++ f.taken resp_in resp_sent) := by
  constructor
  case respfifo =>
    rw [step_respfifo, taken_eq]
    exact h.respfifo.exchange hsent
  case rdptr_next =>
    rw [step_respfifo, RingFifo.exchange_rdptr]
    change (if resp_sent then f.rdptr_next + 1 else f.rdptr_next) = _
    rw [h.rdptr_next]
    cases resp_sent <;> rfl

end RmemRespFifo

/-! ## Whole responses -/

/-- The entries are whole responses, in which a data flit alone follows a response with data.
`d` says that the first entry is to be such a flit. -/
def Beats : Bool → List RffEntry → Prop
  | _, [] => True
  | false, x :: xs => x.resp_valid = true ∧ Beats x.rdata_valid xs
  | true, x :: xs => x.resp_valid = false ∧ x.rdata_valid = true ∧ Beats false xs

/-- A data flit is to follow the entries. -/
def dueAfter : Bool → List RffEntry → Bool
  | d, [] => d
  | false, x :: xs => dueAfter x.rdata_valid xs
  | true, _ :: xs => dueAfter false xs

instance decidableBeats : ∀ d xs, Decidable (Beats d xs)
  | d, [] => by cases d <;> exact instDecidableTrue
  | false, x :: xs =>
      have := decidableBeats x.rdata_valid xs
      inferInstanceAs (Decidable (_ ∧ _))
  | true, x :: xs =>
      have := decidableBeats false xs
      inferInstanceAs (Decidable (_ ∧ _ ∧ _))

@[simp] lemma beats_nil (d : Bool) : Beats d [] := by cases d <;> trivial

lemma dueAfter_append (d : Bool) (xs ys : List RffEntry) :
    dueAfter d (xs ++ ys) = dueAfter (dueAfter d xs) ys := by
  induction xs generalizing d with
  | nil => cases d <;> rfl
  | cons x xs ih => cases d <;> exact ih _

lemma beats_append (d : Bool) (xs ys : List RffEntry) :
    Beats d (xs ++ ys) ↔ Beats d xs ∧ Beats (dueAfter d xs) ys := by
  induction xs generalizing d with
  | nil => cases d <;> simp [dueAfter]
  | cons x xs ih => cases d <;> simp [Beats, dueAfter, ih, and_assoc]

/-! ## `lpc_tlx_afu_credit_mgr` -/

/-- The counter has one bit more than the credits. -/
structure TlxCreditMgr (w : ℕ) where
  credit_reg : BitVec (w + 1)

namespace TlxCreditMgr

variable {w : ℕ} (s : TlxCreditMgr w) (consume_credits : BitVec w)

def credits_available : BitVec w := s.credit_reg.setWidth w

def credit_underflow : Bool := s.credits_available < consume_credits

def init (tlx_initial_credit : BitVec w) : TlxCreditMgr w := ⟨tlx_initial_credit.setWidth (w + 1)⟩

def step (tlx_initial_credit : BitVec w) (resync_credits tlx_credit : Bool) : TlxCreditMgr w :=
  if resync_credits then init tlx_initial_credit
  else ⟨s.credit_reg + (BitVec.ofBool tlx_credit).setWidth (w + 1)
    - consume_credits.setWidth (w + 1)⟩

/-- The credits are with the AFU or are owed by the TLX. -/
structure Counts (initial : BitVec w) (due : ℕ) : Prop where
  total : s.credit_reg.toNat + due = initial.toNat

variable {s consume_credits} {initial : BitVec w} {due : ℕ}

lemma counts_init (initial : BitVec w) : (init initial).Counts initial 0 where
  total := by
    have hlt := initial.isLt
    rw [init, BitVec.toNat_setWidth, Nat.add_zero]
    exact Nat.mod_eq_of_lt (by omega)

lemma Counts.available (h : s.Counts initial due) :
    s.credits_available.toNat = s.credit_reg.toNat := by
  have hlt := initial.isLt
  have htotal := h.total
  rw [credits_available, BitVec.toNat_setWidth]
  exact Nat.mod_eq_of_lt (by omega)

lemma available_le (s : TlxCreditMgr w) : s.credits_available.toNat ≤ s.credit_reg.toNat := by
  rw [credits_available, BitVec.toNat_setWidth]
  exact Nat.mod_le _ _

/-- The counter as a number: it wraps when the TLX returns more than there can be. -/
lemma step_toNat_mod (hle : consume_credits.toNat ≤ s.credits_available.toNat) (credit : Bool) :
    (s.step consume_credits initial false credit).credit_reg.toNat
      = (s.credit_reg.toNat + credit.toNat - consume_credits.toNat) % 2 ^ (w + 1) := by
  have hle' := hle.trans s.available_le
  have hc := consume_credits.isLt
  have hpow : 2 ≤ 2 ^ (w + 1) := Nat.le_self_pow (Nat.succ_ne_zero w) 2
  have hlt : 2 ^ w < 2 ^ (w + 1) := Nat.pow_lt_pow_right (by decide) (Nat.lt_succ_self w)
  have hone : ((BitVec.ofBool credit).setWidth (w + 1)).toNat = credit.toNat := by
    rw [BitVec.toNat_setWidth, BitVec.toNat_ofBool]
    exact Nat.mod_eq_of_lt (lt_of_lt_of_le (Bool.toNat_lt credit) hpow)
  have hcons : (consume_credits.setWidth (w + 1)).toNat = consume_credits.toNat := by
    rw [BitVec.toNat_setWidth, Nat.mod_eq_of_lt (by omega)]
  rw [step, if_neg Bool.false_ne_true, BitVec.toNat_sub, BitVec.toNat_add, hone, hcons,
    Nat.add_mod_mod]
  have hsum : 2 ^ (w + 1) - consume_credits.toNat + (s.credit_reg.toNat + credit.toNat)
      = 2 ^ (w + 1) + (s.credit_reg.toNat + credit.toNat - consume_credits.toNat) := by omega
  rw [hsum, Nat.add_mod_left]

/-- One cycle, in which no more is consumed than there is and no more comes back than is owed. -/
lemma Counts.step_toNat (h : s.Counts initial due) {credit : Bool}
    (hle : consume_credits.toNat ≤ s.credits_available.toNat)
    (hcredit : credit = true → 0 < due + consume_credits.toNat) :
    (s.step consume_credits initial false credit).credit_reg.toNat
      = s.credit_reg.toNat + credit.toNat - consume_credits.toNat := by
  have htotal := h.total
  have hlt := initial.isLt
  rw [step_toNat_mod hle credit]
  refine Nat.mod_eq_of_lt ?_
  cases credit with
  | false =>
      change _ + 0 - _ < _
      omega
  | true =>
      have hpos := hcredit rfl
      change _ + 1 - _ < _
      omega

theorem Counts.step (h : s.Counts initial due) (resync : Bool) {credit : Bool}
    (hle : consume_credits.toNat ≤ s.credits_available.toNat)
    (hcredit : credit = true → 0 < due + consume_credits.toNat) :
    (s.step consume_credits initial resync credit).Counts initial
      (if resync then 0 else due + consume_credits.toNat - credit.toNat) := by
  cases resync with
  | true => exact counts_init initial
  | false =>
      constructor
      rw [h.step_toNat hle hcredit, if_neg Bool.false_ne_true]
      have htotal := h.total
      rw [h.available] at hle
      cases credit with
      | false =>
          change _ + 0 - _ + (_ - 0) = _
          omega
      | true =>
          have hpos := hcredit rfl
          change _ + 1 - _ + (_ - 1) = _
          omega

/-- What the AFU has after a cycle, at least. -/
lemma Counts.step_le (h : s.Counts initial due) {resync credit : Bool}
    (hle : consume_credits.toNat ≤ s.credits_available.toNat)
    (hcredit : credit = true → 0 < due + consume_credits.toNat) :
    s.credits_available.toNat - consume_credits.toNat
      ≤ (s.step consume_credits initial resync credit).credits_available.toNat := by
  have hnext := (h.step resync hle hcredit).available
  rw [hnext, h.available]
  cases resync with
  | true =>
      have htotal := h.total
      have hinit := (counts_init initial).total
      change _ ≤ (init initial).credit_reg.toNat
      omega
  | false =>
      rw [h.step_toNat hle hcredit]
      omega

/-- Never more than what was granted. -/
lemma step_reg_le (initial : BitVec w) (hle : consume_credits.toNat ≤ s.credits_available.toNat) (credit : Bool) :
    (s.step consume_credits initial false credit).credit_reg.toNat + consume_credits.toNat
      ≤ s.credit_reg.toNat + credit.toNat := by
  have hle' := hle.trans s.available_le
  have hmod := Nat.mod_le (s.credit_reg.toNat + credit.toNat - consume_credits.toNat) (2 ^ (w + 1))
  rw [step_toNat_mod hle credit]
  omega

/-- Of two credits one is left after one has been used. -/
lemma step_available_pos (h2 : 2 ≤ s.credits_available.toNat) (hone : consume_credits.toNat = 1)
    (credit : Bool) :
    1 ≤ (s.step consume_credits initial false credit).credits_available.toNat := by
  have hdiv := Nat.div_add_mod s.credit_reg.toNat (2 ^ w)
  have hlt := Nat.mod_lt s.credit_reg.toNat (Nat.two_pow_pos w)
  have hcredit := Bool.toNat_le credit
  rw [credits_available, BitVec.toNat_setWidth] at h2
  rw [credits_available, BitVec.toNat_setWidth, step_toNat_mod (by
      rw [credits_available, BitVec.toNat_setWidth]
      omega), Nat.mod_mod_of_dvd _ (Nat.pow_dvd_pow 2 (Nat.le_succ w)), hone]
  have hsum : s.credit_reg.toNat + credit.toNat - 1
      = 2 ^ w * (s.credit_reg.toNat / 2 ^ w) + (s.credit_reg.toNat % 2 ^ w + credit.toNat - 1) := by omega
  rw [hsum, Nat.mul_add_mod, Nat.mod_eq_of_lt (by omega)]
  omega

lemma underflow_eq_false (hle : consume_credits.toNat ≤ s.credits_available.toNat) :
    s.credit_underflow consume_credits = false :=
  decide_eq_false (Nat.not_lt.mpr hle)

end TlxCreditMgr

end ThymesisFlow
