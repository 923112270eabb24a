import ThymesisFlow.Lib.BitField

/-!
# The credit manager and the two sides of the backpressure scheme

`thymesisflow_credit_mgr`, `thymesisflow_32B_bckpressure_egress` and
`thymesisflow_32B_bckpressure_ingress`, one step function each.  A record `…In` holds the input
wires of one cycle; a wire that an `assign` computes is a function of the state and the inputs.

Both backpressure modules follow the command and data phases of the flits that pass them with the
same state machine, here `Phase.next`: it moves when a flit is accepted, so two ends of a lossless
link that started together always agree (`phaseAfter`).
-/

namespace ThymesisFlow

/-- A 32 byte network flit. -/
abbrev Flit := BitVec 256

/-! ## `thymesisflow_credit_mgr`, instantiated with MSB = 7 -/

/-- `credit_reg`, one bit wider than the credits so that an overflow shows. -/
abbrev CreditReg := BitVec 9

structure CreditMgrIn where
  returned_credits : BitVec 8
  get_all_credits : Bool
  consume_credit : Bool

def creditMgrStep (credit_reg : CreditReg) (i : CreditMgrIn) : CreditReg :=
  if i.get_all_credits then i.returned_credits.setWidth 9
  else credit_reg + i.returned_credits.setWidth 9 - (BitVec.ofBool i.consume_credit).setWidth 9

def creditsAvailable (credit_reg : CreditReg) : BitVec 8 := field credit_reg 0 8

def creditOverflow (credit_reg : CreditReg) : Bool := bit credit_reg 8

def creditUnderflow (credit_reg : CreditReg) (consume_credit : Bool) : Bool :=
  decide ((creditsAvailable credit_reg).toNat < consume_credit.toNat)

/-! ## Command and data phases -/

/-- The opcode of a network header, bits 255:248. -/
def netOpcode (f : Flit) : BitVec 8 := field f 248 8

/-- `is_writecmd || is_respRok`: the flit is a command or response with data flits behind it. -/
def hasData (f : Flit) : Bool := bit f 253 || (bit f 250 && !bit f 248)

inductive OcapiSm
  | CMDFLIT
  | DATAFLIT
  deriving DecidableEq, Repr

/-- `ocapi_sm` and `dflit_size`. -/
structure Phase where
  ocapi_sm : OcapiSm := .CMDFLIT
  dflit_size : BitVec 3 := 0
  deriving DecidableEq, Repr

/-- The state machine after it has accepted the flit `f`. -/
def Phase.next (p : Phase) (f : Flit) : Phase :=
  match p.ocapi_sm with
  | .CMDFLIT => if hasData f then ⟨.DATAFLIT, 4⟩ else p
  | .DATAFLIT =>
      if p.dflit_size ≠ 1 then { p with dflit_size := p.dflit_size - 1 }
      else { p with ocapi_sm := .CMDFLIT }

def Phase.isCmd (p : Phase) : Bool := p.ocapi_sm = .CMDFLIT

/-! ## `thymesisflow_32B_bckpressure_egress` -/

/-- The registers.  `outdata_vld` has no reset in the source; it starts cleared. -/
structure BckpressureEgress where
  outdata_q : Flit := 0
  outdata_vld : Bool := false
  phase : Phase := {}
  deriving DecidableEq, Repr

structure BckpressureEgressIn where
  bckpr_in_tdata : Flit
  bckpr_in_tvalid : Bool
  bckpr_out_tready : Bool
  port_creds_avail : BitVec 8
  local_rx_creds : BitVec 8

/-- `parameter INIT_CREDS_COUNT` of the egress: the credits for the remote ingress. -/
def egressInitCreds : BitVec 8 := 0xfe

namespace BckpressureEgress

/-- `| port_creds_avail`: backpressure is off while even one credit is available. -/
def bckprOff (port_creds_avail : BitVec 8) : Bool := port_creds_avail ≠ 0

def portRdy (i : BckpressureEgressIn) : Bool := i.bckpr_out_tready && bckprOff i.port_creds_avail

def bckprInTready (i : BckpressureEgressIn) : Bool := portRdy i

def bckprOutTvalid (s : BckpressureEgress) (port_creds_avail : BitVec 8) : Bool :=
  s.outdata_vld && bckprOff port_creds_avail

def portConsumeCreds (i : BckpressureEgressIn) : Bool := portRdy i && i.bckpr_in_tvalid

def localRxGetall (s : BckpressureEgress) (i : BckpressureEgressIn) : Bool :=
  portRdy i && i.bckpr_in_tvalid && s.phase.isCmd

/-- What an accepted flit is stored as: the local credits ride on a command flit, bits 34:27. -/
def stamped (p : Phase) (f : Flit) (local_rx_creds : BitVec 8) : Flit :=
  if p.isCmd then setField f 27 local_rx_creds else f

def step (s : BckpressureEgress) (i : BckpressureEgressIn) : BckpressureEgress :=
  if i.bckpr_in_tvalid && portRdy i then
    { outdata_q := stamped s.phase i.bckpr_in_tdata i.local_rx_creds
      outdata_vld := true
      phase := s.phase.next i.bckpr_in_tdata }
  else
    { s with
      outdata_q := if portRdy i then 0 else s.outdata_q
      outdata_vld := if portRdy i then false else s.outdata_vld }

end BckpressureEgress

/-! ## `thymesisflow_32B_bckpressure_ingress` -/

structure BckpressureIngress where
  outdata_q : Flit := 0
  outdata_vld : Bool := false
  phase : Phase := {}
  deriving DecidableEq, Repr

structure BckpressureIngressIn where
  bckpr_in_tdata : Flit
  bckpr_in_tvalid : Bool
  bckpr_out_tready : Bool

/-- `parameter INIT_CREDS_COUNT` of the ingress: no credit to give back yet. -/
def ingressInitCreds : BitVec 8 := 0

namespace BckpressureIngress

def bckprInTready (i : BckpressureIngressIn) : Bool := i.bckpr_out_tready

/-- The credits the other side gives back, read from an accepted command flit. -/
def retRemoteRxCreds (s : BckpressureIngress) (i : BckpressureIngressIn) : BitVec 8 :=
  if s.phase.isCmd && i.bckpr_in_tvalid && i.bckpr_out_tready then field i.bckpr_in_tdata 27 8
  else 0

def cntLocalRxCreds (i : BckpressureIngressIn) : BitVec 8 :=
  if i.bckpr_in_tvalid && i.bckpr_out_tready then 1 else 0

def step (s : BckpressureIngress) (i : BckpressureIngressIn) : BckpressureIngress :=
  if i.bckpr_in_tvalid && i.bckpr_out_tready then
    { outdata_q := i.bckpr_in_tdata
      outdata_vld := true
      phase := s.phase.next i.bckpr_in_tdata }
  else
    { s with
      outdata_q := if i.bckpr_out_tready then 0 else s.outdata_q
      outdata_vld := if i.bckpr_out_tready then false else s.outdata_vld }

end BckpressureIngress

/-! ## Phases along a sequence of flits -/

/-- The phase after the flits `fs` have been accepted. -/
def phaseAfter (p : Phase) (fs : List Flit) : Phase := fs.foldl Phase.next p

/-- The sum of the credit fields, bits 34:27, of the command flits among `fs`, where `p` is the
phase in which the first of them is met. -/
def creditsIn : Phase → List Flit → ℕ
  | _, [] => 0
  | p, f :: fs => (if p.isCmd then (field f 27 8).toNat else 0) + creditsIn (p.next f) fs

@[simp] lemma phaseAfter_nil (p : Phase) : phaseAfter p [] = p := rfl

@[simp] lemma phaseAfter_cons (p : Phase) (f : Flit) (fs : List Flit) :
    phaseAfter p (f :: fs) = phaseAfter (p.next f) fs := rfl

lemma phaseAfter_append (p : Phase) (fs gs : List Flit) :
    phaseAfter p (fs ++ gs) = phaseAfter (phaseAfter p fs) gs := by
  simp [phaseAfter]

@[simp] lemma creditsIn_nil (p : Phase) : creditsIn p [] = 0 := rfl

@[simp] lemma creditsIn_cons (p : Phase) (f : Flit) (fs : List Flit) :
    creditsIn p (f :: fs)
      = (if p.isCmd then (field f 27 8).toNat else 0) + creditsIn (p.next f) fs := rfl

lemma creditsIn_append (p : Phase) (fs gs : List Flit) :
    creditsIn p (fs ++ gs) = creditsIn p fs + creditsIn (phaseAfter p fs) gs := by
  induction fs generalizing p with
  | nil => simp
  | cons f fs ih => simp [ih, Nat.add_assoc]

/-- Stamping a flit changes no bit the phase depends on. -/
@[simp] lemma hasData_stamped (p : Phase) (f : Flit) (c : BitVec 8) :
    hasData (BckpressureEgress.stamped p f c) = hasData f := by
  rw [BckpressureEgress.stamped]
  split
  · rw [hasData, bit_setField_of_disjoint _ _ _ _ (by omega),
      bit_setField_of_disjoint _ _ _ _ (by omega), bit_setField_of_disjoint _ _ _ _ (by omega),
      hasData]
  · rfl

@[simp] lemma next_stamped (p q : Phase) (f : Flit) (c : BitVec 8) :
    p.next (BckpressureEgress.stamped q f c) = p.next f := by
  simp [Phase.next]

/-- A stamped command flit carries exactly the credits it was stamped with. -/
lemma field_stamped (p : Phase) (f : Flit) (c : BitVec 8) (h : p.isCmd = true) :
    field (BckpressureEgress.stamped p f c) 27 8 = c := by
  rw [BckpressureEgress.stamped, if_pos h]
  exact field_setField_self f 27 c (by omega)

/-! ## The credit counter in natural numbers -/

lemma creditsAvailable_toNat {r : CreditReg} (h : r.toNat < 256) :
    (creditsAvailable r).toNat = r.toNat := by
  simp only [creditsAvailable, field, BitVec.extractLsb'_toNat, Nat.shiftRight_zero]
  omega

lemma creditOverflow_eq_false {r : CreditReg} (h : r.toNat < 256) : creditOverflow r = false := by
  have h2 : r < 256#9 := by simpa [BitVec.lt_def] using h
  simp only [creditOverflow, bit]
  revert h2
  revert r
  decide

lemma bckprOff_eq_true_iff {r : CreditReg} (h : r.toNat < 256) :
    BckpressureEgress.bckprOff (creditsAvailable r) = true ↔ 0 < r.toNat := by
  have h1 := creditsAvailable_toNat h
  rw [BckpressureEgress.bckprOff, decide_eq_true_eq, Ne, ← BitVec.toNat_inj, h1]
  simp only [BitVec.ofNat_eq_ofNat, BitVec.toNat_ofNat, Nat.zero_mod]
  omega

/-- The counter adds what is returned and takes what is consumed, as long as the result fits. -/
lemma creditMgrStep_toNat {r : CreditReg} {i : CreditMgrIn} (hall : i.get_all_credits = false)
    (hpos : i.consume_credit = true → 0 < r.toNat) (hfit : r.toNat + i.returned_credits.toNat < 512) :
    (creditMgrStep r i).toNat + i.consume_credit.toNat = r.toNat + i.returned_credits.toNat := by
  have hret := i.returned_credits.isLt
  rw [creditMgrStep, hall, if_neg (by simp), BitVec.toNat_sub, BitVec.toNat_add]
  cases hc : i.consume_credit with
  | false => simp; omega
  | true => have := hpos hc; simp; omega

/-- A get-all leaves only what is returned in the same cycle. -/
lemma creditMgrStep_getAll {r : CreditReg} {i : CreditMgrIn} (hall : i.get_all_credits = true) :
    (creditMgrStep r i).toNat = i.returned_credits.toNat := by
  have hret := i.returned_credits.isLt
  rw [creditMgrStep, if_pos hall, BitVec.toNat_setWidth]
  omega

end ThymesisFlow
