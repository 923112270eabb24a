import ThymesisFlow.Afu.RespFifo

/-!
# Issuing commands to the TLX

`SM_CMDFF` of `rmem_afu.v` with the FIFOs `CMFF` and `CDFF` in front of it and the credit managers
`TACC` and `TACDC`.  The port and the state register each decide by conditions of their own whether a
command goes out.  The interrupt sequencer also has credit inputs, but `irq_ok_to_send_intrp` is tied to
zero, so it stays idle and consumes none.
-/

namespace ThymesisFlow

/-- The fields of a command on the port. -/
structure AfuTlxCmd where
  opcode : BitVec 8
  ea_or_obj : BitVec 64
  afutag : BitVec 16
  dl : BitVec 2
  pl : BitVec 3
  be : BitVec 64
  actag : BitVec 12
  stream_id : BitVec 4
  pasid : BitVec 20
  pg_size : BitVec 6
  deriving DecidableEq, Repr

namespace AfuTlxCmd

def zero : AfuTlxCmd := ⟨0, 0, 0, 0, 0, 0, 0, 0, 0, 0⟩

/-- The wires behind an entry of the command FIFO. -/
def ofEntry (x : BitVec 200) : AfuTlxCmd where
  opcode := field x 191 8
  ea_or_obj := field x 127 64
  afutag := field x 111 16
  dl := field x 109 2
  pl := field x 106 3
  be := field x 42 64
  actag := field x 30 12
  stream_id := field x 26 4
  pasid := field x 6 20
  pg_size := field x 0 6

/-- A command with two data flits. -/
def IsWrite (c : AfuTlxCmd) : Prop := c.opcode = 0x20#8

instance (c : AfuTlxCmd) : Decidable c.IsWrite := inferInstanceAs (Decidable (_ = _))

end AfuTlxCmd

/-- A data flit: the bad data indicator and the bus. -/
structure AfuTlxCdata where
  bdi : Bool
  bus : BitVec 512
  deriving DecidableEq, Repr

namespace AfuTlxCdata

def zero : AfuTlxCdata := ⟨false, 0⟩

/-- The wires behind an entry of the data FIFO. -/
def ofEntry (x : BitVec 513) : AfuTlxCdata := ⟨bit x 512, field x 0 512⟩

end AfuTlxCdata

/-- What is on the port in one cycle, and what goes back to the FIFOs and the credit managers. -/
structure CmdPort where
  afu_tlx_cmd_valid : Bool
  afu_tlx_cmd : AfuTlxCmd
  afu_tlx_cdata_valid : Bool
  afu_tlx_cdata : AfuTlxCdata
  mem_cmd_sent : Bool
  mem_data_sent : Bool
  tacc_consume_credit : BitVec 4
  tacdc_consume_credit : BitVec 6

/-- The command and the data flit that the TLX sees. -/
def CmdPort.shown (o : CmdPort) : Option AfuTlxCmd × Option AfuTlxCdata :=
  (if o.afu_tlx_cmd_valid then some o.afu_tlx_cmd else none,
    if o.afu_tlx_cdata_valid then some o.afu_tlx_cdata else none)

inductive SmCmdff
  | IDLE
  | WAIT_FOR_DATA
  deriving DecidableEq, Repr

/-- The initial credits of the TLX. -/
structure CmdCredits where
  tlx_afu_cmd_initial_credit : BitVec 4
  tlx_afu_cmd_data_initial_credit : BitVec 6

/-- The last four fields count, since the last resynchronisation, the credits that the TLX has granted
and those that have been used. -/
structure CmdIssue where
  cmff : RingFifo 3 (BitVec 200) := { rows := fun _ => 0 }
  cdff : FullFifo 4 (BitVec 513) := ⟨{ rows := fun _ => 0 }, 1⟩
  SM_CMDFF : SmCmdff := .IDLE
  tacc : TlxCreditMgr 4
  tacdc : TlxCreditMgr 6
  cmd_granted : ℕ
  cmd_used : ℕ := 0
  data_granted : ℕ
  data_used : ℕ := 0

/-- What `memory_ingress` offers to the FIFOs and what comes from the TLX in one cycle. -/
structure CmdIssueIn where
  tlx_cmd : Option (BitVec 200) := none
  tlx_data : Option (BitVec 513) := none
  tlx_afu_cmd_credit : Bool := false
  tlx_afu_cmd_data_credit : Bool := false
  resync_credits : Bool := false

namespace CmdIssue

variable (cfg : CmdCredits) (s : CmdIssue) (i : CmdIssueIn)

/-! ## Wires -/

def mem_cmd_out_valid : Bool := s.cmff.valid

def mem_data_out_valid : Bool := s.cdff.fifo.valid

def mem_data_out_next_valid : Bool := s.cdff.nextValid

def cmdOut : AfuTlxCmd := .ofEntry (s.cmff.read 0 s.cmff.rdptr)

def dataOut : AfuTlxCdata := .ofEntry (s.cdff.fifo.read 0 s.cdff.fifo.rdptr)

/-- The condition of the port for a command. -/
def cmdGoes : Bool :=
  s.SM_CMDFF = .IDLE && s.mem_cmd_out_valid
    && ((s.mem_data_out_next_valid && s.mem_data_out_valid && s.cmdOut.opcode = 0x20#8
        && 2 ≤ s.tacdc.credits_available.toNat) || s.cmdOut.opcode ≠ 0x20#8)
    && 1 ≤ s.tacc.credits_available.toNat

def port : CmdPort :=
  if s.cmdGoes then
    { afu_tlx_cmd_valid := true
      afu_tlx_cmd := s.cmdOut
      afu_tlx_cdata_valid := s.cmdOut.opcode = 0x20#8
      afu_tlx_cdata := if s.cmdOut.opcode = 0x20#8 then s.dataOut else .zero
      mem_cmd_sent := true
      mem_data_sent := s.cmdOut.opcode = 0x20#8
      tacc_consume_credit := 1
      tacdc_consume_credit := if s.cmdOut.opcode = 0x20#8 then 1 else 0 }
  else if s.SM_CMDFF = .WAIT_FOR_DATA then
    { afu_tlx_cmd_valid := false
      afu_tlx_cmd := .zero
      afu_tlx_cdata_valid := true
      afu_tlx_cdata := s.dataOut
      mem_cmd_sent := false
      mem_data_sent := true
      tacc_consume_credit := 0
      tacdc_consume_credit := 1 }
  else
    { afu_tlx_cmd_valid := false
      afu_tlx_cmd := .zero
      afu_tlx_cdata_valid := false
      afu_tlx_cdata := .zero
      mem_cmd_sent := false
      mem_data_sent := false
      tacc_consume_credit := 0
      tacdc_consume_credit := 0 }

/-- The state register, by its own conditions. -/
def nextSm : SmCmdff :=
  match s.SM_CMDFF with
  | .IDLE =>
      if s.mem_cmd_out_valid && 1 ≤ s.tacc.credits_available.toNat then
        if s.cmdOut.opcode = 0x20#8 && s.mem_data_out_next_valid && s.mem_data_out_valid
            && 2 ≤ s.tacdc.credits_available.toNat then .WAIT_FOR_DATA
        else .IDLE
      else .IDLE
  | .WAIT_FOR_DATA => .IDLE

def cmffIn : FifoIn (BitVec 200) := ⟨i.tlx_cmd, s.port.mem_cmd_sent⟩

def cdffIn : FifoIn (BitVec 513) := ⟨i.tlx_data, s.port.mem_data_sent⟩

def step : CmdIssue where
  cmff := s.cmff.exchange (s.cmffIn i)
  cdff := s.cdff.step (s.cdffIn i)
  SM_CMDFF := s.nextSm
  tacc := s.tacc.step s.port.tacc_consume_credit cfg.tlx_afu_cmd_initial_credit i.resync_credits
    i.tlx_afu_cmd_credit
  tacdc := s.tacdc.step s.port.tacdc_consume_credit cfg.tlx_afu_cmd_data_initial_credit
    i.resync_credits i.tlx_afu_cmd_data_credit
  cmd_granted :=
    if i.resync_credits then cfg.tlx_afu_cmd_initial_credit.toNat
    else s.cmd_granted + i.tlx_afu_cmd_credit.toNat
  cmd_used := if i.resync_credits then 0 else s.cmd_used + s.port.tacc_consume_credit.toNat
  data_granted :=
    if i.resync_credits then cfg.tlx_afu_cmd_data_initial_credit.toNat
    else s.data_granted + i.tlx_afu_cmd_data_credit.toNat
  data_used := if i.resync_credits then 0 else s.data_used + s.port.tacdc_consume_credit.toNat

/-- The commands and the data that the FIFOs take. -/
def writtenCmd : List AfuTlxCmd := (s.cmff.taken (s.cmffIn i)).map .ofEntry

def writtenData : List AfuTlxCdata := (s.cdff.fifo.taken (s.cdffIn i)).map .ofEntry

end CmdIssue

def cmdIssue (cfg : CmdCredits) : Machine CmdIssue CmdIssueIn where
  init :=
    { tacc := .init cfg.tlx_afu_cmd_initial_credit
      tacdc := .init cfg.tlx_afu_cmd_data_initial_credit
      cmd_granted := cfg.tlx_afu_cmd_initial_credit.toNat
      data_granted := cfg.tlx_afu_cmd_data_initial_credit.toNat }
  step := CmdIssue.step cfg

/-! ## The rule of the TLX -/

section

variable {γ δ : Type*} (isWrite : γ → Prop)

/-- The cycles present the commands and the data, each once and in order: a write together with its
first data flit, its second one in the next cycle and alone, and no other data.  The flag says that a
second flit is due. -/
inductive TlxRule : Bool → List γ → List δ → List (Option γ × Option δ) → Prop
  | done (due : Bool) : TlxRule due [] [] []
  | idle {cs ds os} (h : TlxRule false cs ds os) : TlxRule false cs ds ((none, none) :: os)
  | cmd {c cs ds os} (hc : ¬ isWrite c) (h : TlxRule false cs ds os) :
      TlxRule false (c :: cs) ds ((some c, none) :: os)
  | write {c cs d ds os} (hc : isWrite c) (h : TlxRule true cs ds os) :
      TlxRule false (c :: cs) (d :: ds) ((some c, some d) :: os)
  | second {cs d ds os} (h : TlxRule false cs ds os) : TlxRule true cs (d :: ds) ((none, some d) :: os)

end

/-! ## What goes out in a cycle -/

/-- `cs` are the commands in the command FIFO and `ds` the flits in the data FIFO. -/
structure CmdIssueInv (s : CmdIssue) (cs : List (BitVec 200)) (ds : List (BitVec 513)) : Prop where
  cmff : s.cmff.Holds cs
  cdff : s.cdff.fifo.Holds ds
  ahead : s.cdff.rdptr_one_ahead = s.cdff.fifo.rdptr + 1
  due : s.SM_CMDFF = .WAIT_FOR_DATA → ds ≠ [] ∧ 1 ≤ s.tacdc.credits_available.toNat
  cmd_credit : s.tacc.credit_reg.toNat + s.cmd_used ≤ s.cmd_granted
  data_credit : s.tacdc.credit_reg.toNat + s.data_used ≤ s.data_granted

namespace CmdIssue

variable {s : CmdIssue}

/-- The state register goes to wait for the second flit exactly when the port shows a write. -/
lemma nextSm_eq : s.nextSm = .WAIT_FOR_DATA ↔ s.cmdGoes = true ∧ s.cmdOut.opcode = 0x20#8 := by
  rw [nextSm, cmdGoes]
  cases s.SM_CMDFF with
  | WAIT_FOR_DATA => simp
  | IDLE =>
      by_cases hop : s.cmdOut.opcode = 0x20#8
      · simp only [hop, decide_true, Bool.true_and, Bool.and_true, ne_eq, not_true_eq_false, decide_false,
          Bool.or_false]
        split_ifs <;> simp_all
      · simp [hop]

end CmdIssue

namespace CmdIssueInv

variable {s : CmdIssue} {cs : List (BitVec 200)} {ds : List (BitVec 513)}

lemma cmdOut_eq (h : CmdIssueInv s cs ds) : s.cmdOut = .ofEntry (cs.headD 0) :=
  congrArg AfuTlxCmd.ofEntry (h.cmff.read_head 0)

lemma dataOut_eq (h : CmdIssueInv s cs ds) : s.dataOut = .ofEntry (ds.headD 0) :=
  congrArg AfuTlxCdata.ofEntry (h.cdff.read_head 0)

lemma next_valid (h : CmdIssueInv s cs ds) :
    s.mem_data_out_next_valid = decide (1 < ds.length) := by
  rw [CmdIssue.mem_data_out_next_valid, FullFifo.nextValid, h.ahead]
  exact h.cdff.next_valid (by decide)

/-- When a command goes. -/
lemma goes_iff (h : CmdIssueInv s cs ds) : s.cmdGoes = true ↔ s.SM_CMDFF = .IDLE ∧
    (∃ c cs', cs = c :: cs' ∧ ((AfuTlxCmd.ofEntry c).IsWrite →
      1 < ds.length ∧ 2 ≤ s.tacdc.credits_available.toNat)) ∧
    1 ≤ s.tacc.credits_available.toNat := by
  rw [CmdIssue.cmdGoes, CmdIssue.mem_cmd_out_valid, h.cmff.valid_eq, h.cmdOut_eq, h.next_valid,
    CmdIssue.mem_data_out_valid, h.cdff.valid_eq]
  cases cs with
  | nil => simp
  | cons c cs =>
      have hne : 1 < ds.length → ds ≠ [] := by
        rintro hlt rfl
        exact absurd hlt (by simp)
      simp only [List.isEmpty_cons, Bool.not_false, Bool.and_true, List.headD_cons, AfuTlxCmd.IsWrite,
        Bool.and_eq_true, Bool.or_eq_true, decide_eq_true_eq, List.cons.injEq]
      constructor
      · rintro ⟨⟨hi, hgo⟩, hc⟩
        refine ⟨hi, ⟨c, cs, ⟨rfl, rfl⟩, fun hw => ?_⟩, hc⟩
        rcases hgo with hgo | hgo
        · exact ⟨hgo.1.1.1, hgo.2⟩
        · exact absurd hw (of_decide_eq_true hgo)
      · rintro ⟨hi, ⟨c', cs', ⟨rfl, rfl⟩, hw⟩, hc⟩
        refine ⟨⟨hi, ?_⟩, hc⟩
        by_cases hop : (AfuTlxCmd.ofEntry c).opcode = 0x20#8
        · obtain ⟨hlen, hcr⟩ := hw hop
          exact .inl ⟨⟨⟨hlen, by simpa using hne hlen⟩, decide_eq_true hop⟩, hcr⟩
        · exact .inr (decide_eq_true hop)

end CmdIssueInv

/-- What leaves the FIFOs in a cycle, and how it is seen. -/
structure Leaves (s : CmdIssue) (cs pc : List (BitVec 200)) (ds pd : List (BitVec 513)) : Prop where
  cmd : cs = pc ++ if s.port.mem_cmd_sent then cs.tail else cs
  data : ds = pd ++ if s.port.mem_data_sent then ds.tail else ds
  cmd_sent : s.port.mem_cmd_sent = true → cs ≠ []
  data_sent : s.port.mem_data_sent = true → ds ≠ []
  cmd_credit : s.port.tacc_consume_credit.toNat ≤ s.tacc.credits_available.toNat
  data_credit : s.port.tacdc_consume_credit.toNat ≤ s.tacdc.credits_available.toNat
  due : s.nextSm = .WAIT_FOR_DATA → ds.tail ≠ [] ∧ s.port.mem_data_sent = true ∧
    s.port.tacdc_consume_credit.toNat = 1 ∧ 2 ≤ s.tacdc.credits_available.toNat
  /-- The cycle continues what the rule allows from the next one on. -/
  rule : ∀ cs' ds' os, TlxRule AfuTlxCmd.IsWrite (decide (s.nextSm = .WAIT_FOR_DATA)) cs' ds' os →
    TlxRule AfuTlxCmd.IsWrite (decide (s.SM_CMDFF = .WAIT_FOR_DATA)) (pc.map .ofEntry ++ cs')
      (pd.map .ofEntry ++ ds') (s.port.shown :: os)

lemma CmdIssueInv.leaves {s : CmdIssue} {cs : List (BitVec 200)} {ds : List (BitVec 513)}
    (h : CmdIssueInv s cs ds) : ∃ pc pd, Leaves s cs pc ds pd := by
  have hnext := CmdIssue.nextSm_eq (s := s)
  by_cases hgo : s.cmdGoes = true
  · obtain ⟨hidle, ⟨c, cs', rfl, hw⟩, hcr⟩ := h.goes_iff.mp hgo
    have hout : s.cmdOut = .ofEntry c := h.cmdOut_eq
    by_cases hop : (AfuTlxCmd.ofEntry c).opcode = 0x20#8
    · -- a write, with its first data flit
      obtain ⟨hlen, hdcr⟩ := hw hop
      obtain ⟨d, ds', rfl⟩ := List.exists_cons_of_ne_nil (l := ds) (by
        rintro rfl
        exact absurd hlen (by simp))
      have hport : s.port = ⟨true, .ofEntry c, true, .ofEntry d, true, true, 1, 1⟩ := by
        rw [CmdIssue.port, if_pos hgo, hout, h.dataOut_eq]
        simp [hop]
      have hsm : s.nextSm = .WAIT_FOR_DATA := hnext.mpr ⟨hgo, by rw [hout]; exact hop⟩
      refine ⟨[c], [d], ?_⟩
      constructor <;> rw [hport]
      case due =>
        refine fun _ => ⟨?_, rfl, rfl, hdcr⟩
        rw [List.length_cons] at hlen
        exact List.ne_nil_of_length_pos (l := ds') (by omega)
      case rule =>
        intro cs₁ ds₁ os hr
        rw [hsm, decide_eq_true rfl] at hr
        rw [hidle]
        exact .write hop hr
      case data_credit => exact (Nat.le_succ 1).trans hdcr
      all_goals first | exact fun _ => List.cons_ne_nil _ _ | rfl | exact hcr
    · -- any other command
      have hport : s.port = ⟨true, .ofEntry c, false, .zero, true, false, 1, 0⟩ := by
        rw [CmdIssue.port, if_pos hgo, hout]
        simp [hop]
      have hsm : s.nextSm ≠ .WAIT_FOR_DATA := fun hsm => hop (by rw [← hout]; exact (hnext.mp hsm).2)
      refine ⟨[c], [], ?_⟩
      constructor <;> rw [hport]
      case due => exact fun hsm' => absurd hsm' hsm
      case rule =>
        intro cs₁ ds₁ os hr
        rw [decide_eq_false hsm] at hr
        rw [hidle]
        exact .cmd hop hr
      case data_credit => exact Nat.zero_le _
      all_goals first | exact fun _ => List.cons_ne_nil _ _ | rfl | exact hcr | exact fun h => nomatch h
  · have hsm : s.nextSm ≠ .WAIT_FOR_DATA := fun hsm => hgo (hnext.mp hsm).1
    cases hst : s.SM_CMDFF with
    | WAIT_FOR_DATA =>
        -- the second flit of a write
        obtain ⟨hne, hdcr⟩ := h.due hst
        obtain ⟨d, ds', rfl⟩ := List.exists_cons_of_ne_nil hne
        have hport : s.port = ⟨false, .zero, true, .ofEntry d, false, true, 0, 1⟩ := by
          rw [CmdIssue.port, if_neg hgo, if_pos hst, h.dataOut_eq]
          rfl
        refine ⟨[], [d], ?_⟩
        constructor <;> rw [hport]
        case due => exact fun hsm' => absurd hsm' hsm
        case rule =>
          intro cs₁ ds₁ os hr
          rw [decide_eq_false hsm] at hr
          rw [hst]
          exact .second hr
        case cmd_credit => exact Nat.zero_le _
        all_goals first
          | exact fun _ => List.cons_ne_nil _ _ | rfl | exact hdcr | exact fun h => nomatch h
    | IDLE =>
        have hport : s.port = ⟨false, .zero, false, .zero, false, false, 0, 0⟩ := by
          rw [CmdIssue.port, if_neg hgo, if_neg (by rw [hst]; decide)]
        refine ⟨[], [], ?_⟩
        constructor <;> rw [hport]
        case due => exact fun hsm' => absurd hsm' hsm
        case rule =>
          intro cs₁ ds₁ os hr
          rw [decide_eq_false hsm] at hr
          rw [hst]
          exact .idle hr
        all_goals first | rfl | exact Nat.zero_le _ | exact fun h => nomatch h

/-! ## One cycle -/

namespace CmdIssueInv

variable {cfg : CmdCredits} {s : CmdIssue} {i : CmdIssueIn} {cs pc : List (BitVec 200)}
  {ds pd : List (BitVec 513)}

lemma init (cfg : CmdCredits) : CmdIssueInv (cmdIssue cfg).init [] [] where
  cmff := RingFifo.holds_nil rfl fun _ => rfl
  cdff := RingFifo.holds_nil rfl fun _ => rfl
  ahead := rfl
  due h := nomatch h
  cmd_credit := (TlxCreditMgr.counts_init cfg.tlx_afu_cmd_initial_credit).total.le
  data_credit := (TlxCreditMgr.counts_init cfg.tlx_afu_cmd_data_initial_credit).total.le

/-- A flit that is due finds its credit in the next cycle. -/
lemma next_credit (hl : Leaves s cs pc ds pd) (hsm : s.nextSm = .WAIT_FOR_DATA)
    (hresync : i.resync_credits = true → 1 ≤ cfg.tlx_afu_cmd_data_initial_credit.toNat) :
    1 ≤ (s.step cfg i).tacdc.credits_available.toNat := by
  change 1 ≤ (s.tacdc.step _ _ i.resync_credits i.tlx_afu_cmd_data_credit).credits_available.toNat
  cases hr : i.resync_credits with
  | false => exact TlxCreditMgr.step_available_pos (hl.due hsm).2.2.2 (hl.due hsm).2.2.1 _
  | true =>
      have hcount := TlxCreditMgr.counts_init cfg.tlx_afu_cmd_data_initial_credit
      have hinit := hcount.available
      have htotal := hcount.total
      change 1 ≤ (TlxCreditMgr.init cfg.tlx_afu_cmd_data_initial_credit).credits_available.toNat
      rw [hinit, ← Nat.add_zero (BitVec.toNat _), htotal]
      exact hresync hr

lemma used_le {w : ℕ} {m : TlxCreditMgr w} {c initial : BitVec w} {used granted : ℕ}
    (h : m.credit_reg.toNat + used ≤ granted) (hle : c.toNat ≤ m.credits_available.toNat)
    (resync credit : Bool) :
    (m.step c initial resync credit).credit_reg.toNat + (if resync then 0 else used + c.toNat)
      ≤ if resync then initial.toNat else granted + credit.toNat := by
  cases resync with
  | true =>
      have htotal := (TlxCreditMgr.counts_init initial).total
      exact htotal.le
  | false =>
      have hreg := TlxCreditMgr.step_reg_le initial hle credit
      simp only [Bool.false_eq_true, if_false]
      omega

/-- **One cycle** of the FIFOs, the state register and the credits. -/
theorem step (h : CmdIssueInv s cs ds) (hl : Leaves s cs pc ds pd)
    (hresync : i.resync_credits = true → 1 ≤ cfg.tlx_afu_cmd_data_initial_credit.toNat) :
    CmdIssueInv (s.step cfg i)
      ((if s.port.mem_cmd_sent then cs.tail else cs) ++ s.cmff.taken (s.cmffIn i))
      ((if s.port.mem_data_sent then ds.tail else ds) ++ s.cdff.fifo.taken (s.cdffIn i)) where
  cmff := h.cmff.exchange hl.cmd_sent
  cdff := h.cdff.exchange hl.data_sent
  ahead := by
    change (if s.port.mem_data_sent then s.cdff.rdptr_one_ahead + 1 else s.cdff.rdptr_one_ahead)
      = (if s.port.mem_data_sent then s.cdff.fifo.rdptr + 1 else s.cdff.fifo.rdptr) + 1
    rw [h.ahead]
    split <;> rfl
  due hsm := by
    obtain ⟨htail, hsent, -⟩ := hl.due hsm
    rw [if_pos hsent]
    exact ⟨List.append_ne_nil_of_left_ne_nil htail _, next_credit hl hsm hresync⟩
  cmd_credit := used_le h.cmd_credit hl.cmd_credit _ _
  data_credit := used_le h.data_credit hl.data_credit _ _

/-! ## Every run -/

/-- The credits of a cycle: neither manager underflows, and with what is used now no more has been used
than granted. -/
structure WithinCredits (s : CmdIssue) : Prop where
  cmd : s.tacc.credit_underflow s.port.tacc_consume_credit = false
  data : s.tacdc.credit_underflow s.port.tacdc_consume_credit = false
  cmd_used : s.cmd_used + s.port.tacc_consume_credit.toNat ≤ s.cmd_granted
  data_used : s.data_used + s.port.tacdc_consume_credit.toNat ≤ s.data_granted

lemma withinCredits (h : CmdIssueInv s cs ds) : WithinCredits s := by
  obtain ⟨pc, pd, hl⟩ := h.leaves
  have hcmd := h.cmd_credit
  have hdata := h.data_credit
  have hc := hl.cmd_credit.trans s.tacc.available_le
  have hd := hl.data_credit.trans s.tacdc.available_le
  exact ⟨TlxCreditMgr.underflow_eq_false hl.cmd_credit, TlxCreditMgr.underflow_eq_false hl.data_credit,
    by omega, by omega⟩

/-- From a state on, the cycles follow the rule with what is in the FIFOs and what is written to them. -/
lemma run (h : CmdIssueInv s cs ds) (is : List CmdIssueIn)
    (hresync : ∀ i ∈ is, i.resync_credits = true → 1 ≤ cfg.tlx_afu_cmd_data_initial_credit.toNat) :
    ∃ pc cs' pd ds', TlxRule AfuTlxCmd.IsWrite (decide (s.SM_CMDFF = .WAIT_FOR_DATA))
        (pc.map .ofEntry) (pd.map .ofEntry)
        ((cmdIssue cfg).collectFrom (fun s _ => [s.port.shown]) s is) ∧
      cs ++ (cmdIssue cfg).collectFrom (fun s i => s.cmff.taken (s.cmffIn i)) s is = pc ++ cs' ∧
      ds ++ (cmdIssue cfg).collectFrom (fun s i => s.cdff.fifo.taken (s.cdffIn i)) s is = pd ++ ds' ∧
      CmdIssueInv ((cmdIssue cfg).runFrom s is) cs' ds' := by
  induction is generalizing s cs ds with
  | nil => exact ⟨[], cs, [], ds, .done _, by simp [Machine.collectFrom], by simp [Machine.collectFrom], h⟩
  | cons i is ih =>
      obtain ⟨pc, pd, hl⟩ := h.leaves
      have hnext := h.step hl (hresync i (by simp))
      obtain ⟨pc', cs', pd', ds', hrule, hcs, hds, hinv⟩ := ih hnext fun j hj => hresync j (by simp [hj])
      refine ⟨pc ++ pc', cs', pd ++ pd', ds', ?_, ?_, ?_, hinv⟩
      · rw [List.map_append, List.map_append]
        exact hl.rule _ _ _ hrule
      · rw [Machine.collectFrom, List.append_assoc, ← hcs, ← List.append_assoc, ← List.append_assoc,
          ← List.append_assoc, ← hl.cmd]
        rfl
      · rw [Machine.collectFrom, List.append_assoc, ← hds, ← List.append_assoc, ← List.append_assoc,
          ← List.append_assoc, ← hl.data]
        rfl

end CmdIssueInv

section

variable (cfg : CmdCredits) (is : List CmdIssueIn)
  (hresync : ∀ i ∈ is, i.resync_credits = true → 1 ≤ cfg.tlx_afu_cmd_data_initial_credit.toNat)

include hresync

lemma within_credits : (cmdIssue cfg).Meets (fun s _ => CmdIssueInv.WithinCredits s) is := by
  have hok : (cmdIssue cfg).Meets (fun _ i => i.resync_credits = true →
      1 ≤ cfg.tlx_afu_cmd_data_initial_credit.toNat) is :=
    Machine.meets_of_forall _ fun _ i hi => hresync i hi
  refine (cmdIssue cfg).meets_of_invariant (P := fun s => ∃ cs ds, CmdIssueInv s cs ds)
    ⟨[], [], .init cfg⟩ ?_ (fun s i ⟨cs, ds, h⟩ _ => h.withinCredits) is hok
  rintro s i ⟨cs, ds, h⟩ hr
  obtain ⟨pc, pd, hl⟩ := h.leaves
  exact ⟨_, _, h.step hl hr⟩

/-- **The commands are issued by the rule of the TLX.**  In every run the port presents what has been
written to the two FIFOs, less what is still in them, with each write's own two data flits in its cycle
and the next one, and the credit managers never underflow.  What is at the head of the command FIFO goes
out in the first cycle in which its data and the credits are there. -/
theorem commands_issued : ∃ cs cs' ds ds',
    TlxRule AfuTlxCmd.IsWrite false cs ds
      ((cmdIssue cfg).collect (fun s _ => [s.port.shown]) is) ∧
    (cmdIssue cfg).collect CmdIssue.writtenCmd is = cs ++ cs' ∧
    (cmdIssue cfg).collect CmdIssue.writtenData is = ds ++ ds' ∧
    (cmdIssue cfg).Meets (fun s _ => CmdIssueInv.WithinCredits s) is ∧
    (((cmdIssue cfg).run is).SM_CMDFF = .IDLE → ∀ c rest, cs' = c :: rest →
      (c.IsWrite → 2 ≤ ds'.length ∧ 2 ≤ ((cmdIssue cfg).run is).tacdc.credits_available.toNat) →
      1 ≤ ((cmdIssue cfg).run is).tacc.credits_available.toNat →
      ((cmdIssue cfg).run is).port.shown.1 = some c) := by
  obtain ⟨pc, cs', pd, ds', hrule, hcs, hds, hinv⟩ := (CmdIssueInv.init cfg).run is hresync
  refine ⟨pc.map .ofEntry, cs'.map .ofEntry, pd.map .ofEntry, ds'.map .ofEntry, hrule, ?_, ?_,
    within_credits cfg is hresync, ?_⟩
  · rw [← List.map_append, ← hcs]
    exact (cmdIssue cfg).collect_map (fun s i => s.cmff.taken (s.cmffIn i)) _ is
  · rw [← List.map_append, ← hds]
    exact (cmdIssue cfg).collect_map (fun s i => s.cdff.fifo.taken (s.cdffIn i)) _ is
  · intro hidle c rest hc hw hcr
    obtain ⟨x, xs, rfl, rfl, rfl⟩ := List.map_eq_cons_iff.mp hc
    rw [List.length_map] at hw
    have hgo : ((cmdIssue cfg).run is).cmdGoes = true := hinv.goes_iff.mpr ⟨hidle, ⟨x, xs, rfl, hw⟩, hcr⟩
    rw [CmdIssue.port, if_pos hgo]
    exact congrArg some hinv.cmdOut_eq

end

/-- A read, a write whose second flit comes late, and a write that waits for credits: they are
resynchronised, and once more in the cycle in which it goes. -/
def issueTest : List CmdIssueIn :=
  let write : BitVec 200 := 0x20#200 <<< 191
  [{ tlx_cmd := some (0x10#200 <<< 191) }, { tlx_cmd := some write, tlx_data := some 1 }, {},
    { tlx_data := some 2 }, { tlx_cmd := some write, tlx_data := some 3 }, { tlx_data := some 4 }, {},
    { resync_credits := true }, { resync_credits := true }, {}, {}]

theorem commands_issued_issueTest : ∃ cs cs' ds ds',
    TlxRule AfuTlxCmd.IsWrite false cs ds
      ((cmdIssue ⟨2, 2⟩).collect (fun s _ => [s.port.shown]) issueTest) ∧
    (cmdIssue ⟨2, 2⟩).collect CmdIssue.writtenCmd issueTest = cs ++ cs' ∧
    (cmdIssue ⟨2, 2⟩).collect CmdIssue.writtenData issueTest = ds ++ ds' ∧
    (cmdIssue ⟨2, 2⟩).Meets (fun s _ => CmdIssueInv.WithinCredits s) issueTest ∧
    (((cmdIssue ⟨2, 2⟩).run issueTest).SM_CMDFF = .IDLE → ∀ c rest, cs' = c :: rest →
      (c.IsWrite → 2 ≤ ds'.length ∧
        2 ≤ ((cmdIssue ⟨2, 2⟩).run issueTest).tacdc.credits_available.toNat) →
      1 ≤ ((cmdIssue ⟨2, 2⟩).run issueTest).tacc.credits_available.toNat →
      ((cmdIssue ⟨2, 2⟩).run issueTest).port.shown.1 = some c) :=
  commands_issued ⟨2, 2⟩ issueTest (by decide)

example : ((cmdIssue ⟨2, 2⟩).collect (fun s _ => [s.port.shown]) issueTest).map
    (fun o => (o.1.map AfuTlxCmd.opcode, o.2.map AfuTlxCdata.bus))
    = [(none, none), (some 0x10, none), (none, none), (none, none), (some 0x20, some 1),
        (none, some 2), (none, none), (none, none), (some 0x20, some 3), (none, some 4),
        (none, none)] := by
  decide +kernel

end ThymesisFlow
