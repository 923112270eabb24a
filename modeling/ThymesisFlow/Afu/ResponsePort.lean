import ThymesisFlow.Afu.Dispatch
import ThymesisFlow.Afu.RespFifo
import ThymesisFlow.Lib.Machine

/-!
# The response port of the compute AFU

`SM_MMW`, `SM_MMR` and the response FIFO drive one response port through OR gates, and consume the
credits of the TLX through OR gates.  What keeps them apart is `pipe_is_locked`, a register two
cycles behind the command that asks for it: it can be low for one cycle while a MMIO command starts,
and does not hold back the second data flit of a response.

`RespPortInv` bounds how late the lock can be.  `one_driver` is the result over runs.
-/

namespace ThymesisFlow

/-! ## The port -/

/-- What one part of the AFU drives on the response port. -/
structure RespDrive where
  resp_valid : Bool
  resp_opcode : BitVec 8
  resp_dl : BitVec 2
  resp_dp : BitVec 2
  resp_capptag : BitVec 16
  resp_code : BitVec 4
  rdata_valid : Bool
  rdata_bus : BitVec 512
  rdata_bdi : Bool
  deriving DecidableEq, Repr

namespace RespDrive

def zero : RespDrive := ⟨false, 0, 0, 0, 0, 0, false, 0, false⟩

/-- The OR gates of the port. -/
def or (x y : RespDrive) : RespDrive where
  resp_valid := x.resp_valid || y.resp_valid
  resp_opcode := x.resp_opcode ||| y.resp_opcode
  resp_dl := x.resp_dl ||| y.resp_dl
  resp_dp := x.resp_dp ||| y.resp_dp
  resp_capptag := x.resp_capptag ||| y.resp_capptag
  resp_code := x.resp_code ||| y.resp_code
  rdata_valid := x.rdata_valid || y.rdata_valid
  rdata_bus := x.rdata_bus ||| y.rdata_bus
  rdata_bdi := x.rdata_bdi || y.rdata_bdi

@[simp] lemma zero_or (x : RespDrive) : zero.or x = x := by simp [or, zero]

end RespDrive

/-- How an entry of the response FIFO looks on the port. -/
def RffEntry.drive (e : RffEntry) : RespDrive where
  resp_valid := e.resp_valid
  resp_opcode := if e.resp_valid then e.resp_opcode else 0
  resp_dl := if e.resp_valid then e.resp_dl else 0
  resp_dp := if e.resp_valid then e.resp_dp else 0
  resp_capptag := if e.resp_valid then e.resp_capptag else 0
  resp_code := if e.resp_valid then e.resp_code else 0
  rdata_valid := e.rdata_valid
  rdata_bus := if e.rdata_valid then e.rdata else 0
  rdata_bdi := e.rdata_valid && e.bdi

/-- The response of a MMIO command before it goes to the port. -/
structure MmioResp where
  resp_opcode : BitVec 8 := 0
  resp_dl : BitVec 2 := 0
  resp_dp : BitVec 2 := 0
  resp_code : BitVec 4 := 0
  deriving DecidableEq, Repr

/-- The configuration: what the decoder reads, and the initial credits of the TLX. -/
structure RespPortConfig where
  acs : AcsConfig
  tlx_afu_resp_initial_credit : BitVec 4
  tlx_afu_resp_data_initial_credit : BitVec 6

/-- `resp_due` and `data_due` are the credits that the TLX owes: consumed and not returned since the
last resynchronisation. -/
structure RespPort where
  rmem : Rmem := {}
  rff : RmemRespFifo := {}
  mmw_capptag : BitVec 16 := 0
  mmw_data_bdi : Bool := false
  mmw_resp : MmioResp := {}
  mmw_drive : RespDrive := .zero
  tarc_consume_credit_mmw : BitVec 4 := 0
  mmr_pl : BitVec 3 := 0
  mmr_capptag : BitVec 16 := 0
  mmr_addr : BitVec 64 := 0
  mmr_rdata : BitVec 64 := 0
  mmr_resp : MmioResp := {}
  mmr_rdata_bdi : Bool := false
  mmr_rdata_valid : Bool := false
  mmr_drive : RespDrive := .zero
  tarc_consume_credit_mmr : BitVec 4 := 0
  tardc_consume_credit_mmr : BitVec 6 := 0
  tarc : TlxCreditMgr 4
  tardc : TlxCreditMgr 6
  resp_due : ℕ := 0
  data_due : ℕ := 0

/-- The wires of one cycle. -/
structure RespPortIn where
  tlx_afu_cmd : Option HostCmd := none
  tlx_afu_cmd_data : Option DataFlit := none
  ncff_cmd_tready : Bool := true
  thymesis_cfg : Fin 12 → BitVec 64 := fun _ => 0
  rff_resp_in : Option RffEntry := none
  tlx_afu_resp_credit : Bool := false
  tlx_afu_resp_data_credit : Bool := false
  resync_credits : Bool := false
  mmio_addr_not_implemented : Bool := false
  mmio_bad_op_or_align : Bool := false
  mmio_rdata : BitVec 64 := 0
  mmio_rdata_vld : Bool := false

namespace RespPort

variable (cfg : RespPortConfig) (s : RespPort) (i : RespPortIn)

/-! ## Wires -/

def wires : RmemIn where
  tlx_afu_cmd := i.tlx_afu_cmd
  tlx_afu_cmd_data := i.tlx_afu_cmd_data
  ncff_cmd_tready := i.ncff_cmd_tready
  thymesis_cfg := i.thymesis_cfg
  tarc_credits_available := s.tarc.credits_available
  tardc_credits_available := s.tardc.credits_available
  rff_resp_valid := s.rff.resp_out_valid
  rff_out_resp_valid := s.rff.resp_out.resp_valid
  rff_out_rdata_valid := s.rff.resp_out.rdata_valid
  rff_resp_next_valid := s.rff.resp_out_next_valid
  mmr_rdata_valid := s.mmr_rdata_valid

/-- The first branch of the unload logic: a response goes out, with its first data flit. -/
def respSent : Bool := s.rmem.respSent (s.wires i)

/-- The second branch: a data flit goes out alone.  It does not look at the lock. -/
def dataSent : Bool :=
  s.rff.resp_out_valid && !s.rff.resp_out.resp_valid && s.rff.resp_out.rdata_valid
    && 1 ≤ s.tardc.credits_available.toNat

def rff_resp_sent : Bool := s.respSent i || s.dataSent

/-- `afu_tlx_…_lpc_io`. -/
def lpcIo : RespDrive :=
  let e := s.rff.resp_out
  if s.respSent i then
    { resp_valid := e.resp_valid
      resp_opcode := e.resp_opcode
      resp_dl := e.resp_dl
      resp_dp := e.resp_dp
      resp_capptag := e.resp_capptag
      resp_code := e.resp_code
      rdata_valid := if e.rdata_valid then e.rdata_valid else false
      rdata_bus := if e.rdata_valid then e.rdata else 0
      rdata_bdi := if e.rdata_valid then e.bdi else false }
  else if s.dataSent then
    { RespDrive.zero with rdata_valid := e.rdata_valid, rdata_bus := e.rdata, rdata_bdi := e.bdi }
  else .zero

def tarc_consume_credit_opd : BitVec 4 := if s.respSent i then 1 else 0

def tardc_consume_credit_opd : BitVec 6 :=
  if s.respSent i then if s.rff.resp_out.rdata_valid then 1 else 0
  else if s.dataSent then 1 else 0

/-- `consume_credits` of the response credit manager. -/
def tarc_consume_credits : BitVec 4 :=
  s.tarc_consume_credit_mmw ||| s.tarc_consume_credit_mmr ||| s.tarc_consume_credit_opd i

/-- `consume_credits` of the response data credit manager. -/
def tardc_consume_credits : BitVec 6 :=
  s.tardc_consume_credit_mmr ||| s.tardc_consume_credit_opd i

/-- The credits that the three parts use together. -/
def respUsed : ℕ :=
  s.tarc_consume_credit_mmw.toNat + s.tarc_consume_credit_mmr.toNat
    + (s.tarc_consume_credit_opd i).toNat

def dataUsed : ℕ := s.tardc_consume_credit_mmr.toNat + (s.tardc_consume_credit_opd i).toNat

/-- The response port. -/
def port : RespDrive := (s.mmw_drive.or s.mmr_drive).or (s.lpcIo i)

/-! ## The MMIO state machines -/

def legal_size (pl : BitVec 3) : Bool := pl = 0b000 || pl = 0b001 || pl = 0b010 || pl = 0b011

/-- The response that `SM_MMW` prepares in WAIT_FOR_MREG3. -/
def mmwResp : MmioResp :=
  if s.mmw_data_bdi || i.mmio_addr_not_implemented || !legal_size s.rmem.mmw_pl
      || i.mmio_bad_op_or_align then
    ⟨0x05, 0b01, 0b00, if s.mmw_data_bdi then 0x8
      else if i.mmio_addr_not_implemented then 0xE
      else if !legal_size s.rmem.mmw_pl then 0x9
      else 0xB⟩
  else ⟨0x04, 0b01, 0b00, 0x0⟩

/-- The response that `SM_MMR` prepares in WAIT_FOR_MREG2, and whether it has data. -/
def mmrResp : MmioResp × Bool :=
  if i.mmio_addr_not_implemented || !legal_size s.mmr_pl || i.mmio_bad_op_or_align
      || (!i.mmio_bad_op_or_align && !i.mmio_addr_not_implemented && !i.mmio_rdata_vld) then
    (⟨0x02, 0b01, 0b00, if i.mmio_addr_not_implemented then 0xE
      else if !legal_size s.mmr_pl then 0x9
      else if i.mmio_bad_op_or_align then 0xE
      else 0x8⟩, false)
  else (⟨0x01, 0b01, 0b00, 0x0⟩, true)

/-- `mmr_rdata_flit`. -/
def mmr_rdata_flit : BitVec 512 := setField 0 ((field s.mmr_addr 3 3).toNat * 64) s.mmr_rdata

/-- `SM_MMW` presents its response. -/
def mmwSends : Bool := s.rmem.SM_MMW = .WAIT_FOR_RESP_CR && 1 ≤ s.tarc.credits_available.toNat

/-- `SM_MMR` presents its response. -/
def mmrSends : Bool := s.rmem.SM_MMR = .WAIT_FOR_RESP_CR && (s.wires i).mmrRespSent

/-- `afu_tlx_resp_…_mmw` of the next cycle. -/
def nextMmwDrive : RespDrive :=
  if s.rmem.SM_MMW = .WAIT_FOR_RESP_CR then
    ⟨s.mmwSends, s.mmw_resp.resp_opcode, s.mmw_resp.resp_dl, s.mmw_resp.resp_dp, s.mmw_capptag,
      s.mmw_resp.resp_code, false, 0, false⟩
  else .zero

/-- `afu_tlx_…_mmr` of the next cycle. -/
def nextMmrDrive : RespDrive :=
  if s.rmem.SM_MMR = .WAIT_FOR_RESP_CR then
    ⟨s.mmrSends i, s.mmr_resp.resp_opcode, s.mmr_resp.resp_dl, s.mmr_resp.resp_dp, s.mmr_capptag,
      s.mmr_resp.resp_code, s.mmrSends i && s.mmr_rdata_valid, s.mmr_rdata_flit, s.mmr_rdata_bdi⟩
  else .zero

def step : RespPort where
  rmem := s.rmem.step cfg.acs (s.wires i)
  rff := s.rff.step i.rff_resp_in (s.rff_resp_sent i)
  mmw_capptag := if s.rmem.SM_MMW = .IDLE then s.rmem.cff_cmd.capptag else s.mmw_capptag
  mmw_data_bdi :=
    if s.rmem.SM_MMW = .WAIT_FOR_DATA then
      (i.tlx_afu_cmd_data.map fun d => bit d 512).getD s.mmw_data_bdi
    else s.mmw_data_bdi
  mmw_resp := if s.rmem.SM_MMW = .WAIT_FOR_MREG3 then s.mmwResp i else s.mmw_resp
  mmw_drive := s.nextMmwDrive
  tarc_consume_credit_mmw := if s.mmwSends then 1 else 0
  mmr_pl := if s.rmem.SM_MMR = .IDLE then s.rmem.cff_cmd.pl else s.mmr_pl
  mmr_capptag := if s.rmem.SM_MMR = .IDLE then s.rmem.cff_cmd.capptag else s.mmr_capptag
  mmr_addr := if s.rmem.SM_MMR = .IDLE then s.rmem.cff_cmd.pa else s.mmr_addr
  mmr_rdata := if s.rmem.SM_MMR = .WAIT_FOR_MREG2 then i.mmio_rdata else s.mmr_rdata
  mmr_resp := if s.rmem.SM_MMR = .WAIT_FOR_MREG2 then (s.mmrResp i).1 else s.mmr_resp
  mmr_rdata_bdi := if s.rmem.SM_MMR = .WAIT_FOR_MREG2 then false else s.mmr_rdata_bdi
  mmr_rdata_valid := if s.rmem.SM_MMR = .WAIT_FOR_MREG2 then (s.mmrResp i).2 else s.mmr_rdata_valid
  mmr_drive := s.nextMmrDrive i
  tarc_consume_credit_mmr := if s.mmrSends i then 1 else 0
  tardc_consume_credit_mmr := if s.mmrSends i && s.mmr_rdata_valid then 1 else 0
  tarc := s.tarc.step (s.tarc_consume_credits i) cfg.tlx_afu_resp_initial_credit i.resync_credits
    i.tlx_afu_resp_credit
  tardc := s.tardc.step (s.tardc_consume_credits i) cfg.tlx_afu_resp_data_initial_credit
    i.resync_credits i.tlx_afu_resp_data_credit
  resp_due := if i.resync_credits then 0 else s.resp_due + s.respUsed i - i.tlx_afu_resp_credit.toNat
  data_due :=
    if i.resync_credits then 0 else s.data_due + s.dataUsed i - i.tlx_afu_resp_data_credit.toNat

/-- The entry that the response FIFO takes. -/
def received : List RffEntry := s.rff.taken i.rff_resp_in (s.rff_resp_sent i)

/-- What the port shows of the response FIFO. -/
def presented : List RespDrive := if s.lpcIo i = .zero then [] else [s.port i]

/-- The condition on a cycle: the TLX sends a command when a row of the command FIFO is free, and
returns no credit that has not been consumed. -/
structure Allowed : Prop where
  cmd : i.tlx_afu_cmd.isSome = true → s.rmem.cff.full = false
  resp : i.tlx_afu_resp_credit = true → 0 < s.resp_due + s.respUsed i
  data : i.tlx_afu_resp_data_credit = true → 0 < s.data_due + s.dataUsed i

instance : Decidable (s.Allowed i) :=
  decidable_of_iff ((i.tlx_afu_cmd.isSome = true → s.rmem.cff.full = false) ∧
    (i.tlx_afu_resp_credit = true → 0 < s.resp_due + s.respUsed i) ∧
    (i.tlx_afu_resp_data_credit = true → 0 < s.data_due + s.dataUsed i))
    ⟨fun ⟨h1, h2, h3⟩ => ⟨h1, h2, h3⟩, fun h => ⟨h.1, h.2, h.3⟩⟩

/-- At most one part drives the port, and the credits used are those that are there. -/
structure OneDriver : Prop where
  drive : s.mmw_drive = .zero ∧ s.mmr_drive = .zero ∨ s.mmw_drive = .zero ∧ s.lpcIo i = .zero ∨
    s.mmr_drive = .zero ∧ s.lpcIo i = .zero
  resp_sum : (s.tarc_consume_credits i).toNat = s.respUsed i
  data_sum : (s.tardc_consume_credits i).toNat = s.dataUsed i
  resp_credits : s.tarc.credit_underflow (s.tarc_consume_credits i) = false
  data_credits : s.tardc.credit_underflow (s.tardc_consume_credits i) = false

end RespPort

def respPort (cfg : RespPortConfig) : Machine RespPort RespPortIn where
  init :=
    { tarc := .init cfg.tlx_afu_resp_initial_credit
      tardc := .init cfg.tlx_afu_resp_data_initial_credit }
  step := RespPort.step cfg

/-! ## How late the lock can be -/

/-- The states of `SM_MMW` in which the pipeline is locked. -/
def SmMmw.late : SmMmw → Bool
  | .WAIT_FOR_MREG2 | .WAIT_FOR_MREG3 | .WAIT_FOR_RESP_CR | .WAIT_FOR_NEXT_CMD => true
  | _ => false

/-- The states of `SM_MMR` in which the pipeline is locked. -/
def SmMmr.late : SmMmr → Bool
  | .WAIT_FOR_RESP_CR | .WAIT_FOR_NEXT_CMD => true
  | _ => false

namespace Rmem

variable {cfg : AcsConfig} {s : Rmem} {i : RmemIn}

lemma nextMmw_mreg1 (h : s.nextMmw cfg i = .WAIT_FOR_MREG1) : s.SM_MMW = .WAIT_FOR_DATA := by
  unfold nextMmw at h
  split at h <;> try split_ifs at h
  all_goals simp_all

lemma nextMmw_late (h : (s.nextMmw cfg i).late = true) :
    s.SM_MMW = .WAIT_FOR_MREG1 ∨ s.SM_MMW.late = true := by
  unfold nextMmw at h
  split at h <;> rename_i hm <;> rw [hm] <;> try split_ifs at h
  all_goals simp_all [SmMmw.late]

lemma nextMmr_mreg2 (h : s.nextMmr cfg i = .WAIT_FOR_MREG2) : s.SM_MMR = .WAIT_FOR_MREG1 := by
  unfold nextMmr at h
  split at h <;> try split_ifs at h
  all_goals simp_all

lemma nextMmr_late (h : (s.nextMmr cfg i).late = true) :
    s.SM_MMR = .WAIT_FOR_MREG2 ∨ s.SM_MMR.late = true := by
  unfold nextMmr at h
  split at h <;> rename_i hm <;> rw [hm] <;> try split_ifs at h
  all_goals simp_all [SmMmr.late]

end Rmem

/-- `cs` are the commands in the command FIFO, `bs` the entries of the response FIFO; `d` says that the
oldest of these is the second data flit of a response. -/
structure RespPortInv (cfg : RespPortConfig) (s : RespPort) (cs : List HostCmd) (d : Bool)
    (bs : List RffEntry) : Prop where
  dispatch : Dispatch cfg.acs s.rmem cs
  rff : s.rff.Holds bs
  beats : Beats d bs
  due : d = true →
    bs ≠ [] ∧ s.rmem.pipe_is_locked = false ∧ 1 ≤ s.tardc.credits_available.toNat
  mmw_mreg1 : s.rmem.SM_MMW = .WAIT_FOR_MREG1 → s.rmem.pipe_is_locked = true ∨ d = true
  mmw_late : s.rmem.SM_MMW.late = true → s.rmem.pipe_is_locked = true
  mmr_mreg2 : s.rmem.SM_MMR = .WAIT_FOR_MREG2 → s.rmem.pipe_is_locked = true ∨ d = true
  mmr_late : s.rmem.SM_MMR.late = true → s.rmem.pipe_is_locked = true
  mmw_drive : s.rmem.SM_MMW ≠ .WAIT_FOR_RESP_CR → s.rmem.SM_MMW ≠ .WAIT_FOR_NEXT_CMD →
    s.mmw_drive = .zero
  mmr_drive : s.rmem.SM_MMR ≠ .WAIT_FOR_RESP_CR → s.rmem.SM_MMR ≠ .WAIT_FOR_NEXT_CMD →
    s.mmr_drive = .zero
  mmw_consume : s.tarc_consume_credit_mmw = if s.rmem.SM_MMW = .WAIT_FOR_NEXT_CMD then 1 else 0
  mmr_consume : s.tarc_consume_credit_mmr = if s.rmem.SM_MMR = .WAIT_FOR_NEXT_CMD then 1 else 0
  mmr_consume_data : s.tardc_consume_credit_mmr
    = if s.rmem.SM_MMR = .WAIT_FOR_NEXT_CMD ∧ s.mmr_rdata_valid = true then 1 else 0
  mmw_credit : s.rmem.SM_MMW = .WAIT_FOR_NEXT_CMD → 1 ≤ s.tarc.credits_available.toNat
  mmr_credit : s.rmem.SM_MMR = .WAIT_FOR_NEXT_CMD → 1 ≤ s.tarc.credits_available.toNat ∧
    (s.mmr_rdata_valid = true → 1 ≤ s.tardc.credits_available.toNat)
  tarc : s.tarc.Counts cfg.tlx_afu_resp_initial_credit s.resp_due
  tardc : s.tardc.Counts cfg.tlx_afu_resp_data_initial_credit s.data_due

namespace RespPortInv

variable {cfg : RespPortConfig} {s : RespPort} {i : RespPortIn} {cs : List HostCmd} {d : Bool}
  {bs : List RffEntry}

lemma init (cfg : RespPortConfig) : RespPortInv cfg (respPort cfg).init [] false [] where
  dispatch := Dispatch.init cfg.acs
  rff := RmemRespFifo.holds_init
  beats := beats_nil false
  due h := nomatch h
  mmw_mreg1 h := nomatch h
  mmw_late h := nomatch h
  mmr_mreg2 h := nomatch h
  mmr_late h := nomatch h
  mmw_drive _ _ := rfl
  mmr_drive _ _ := rfl
  mmw_consume := rfl
  mmr_consume := rfl
  mmr_consume_data := rfl
  mmw_credit h := nomatch h
  mmr_credit h := nomatch h
  tarc := TlxCreditMgr.counts_init _
  tardc := TlxCreditMgr.counts_init _

/-! ### What goes out -/

/-- The second data flit goes out as soon as it is at the head. -/
lemma dataSent_eq (h : RespPortInv cfg s cs d bs) : s.dataSent = d := by
  have hbeats := h.beats
  rw [RespPort.dataSent, h.rff.resp_out_valid_eq, h.rff.resp_out_eq]
  cases d with
  | true =>
      obtain ⟨hne, -, hcredit⟩ := h.due rfl
      cases bs with
      | nil => exact absurd rfl hne
      | cons e es =>
          obtain ⟨hresp, hdata, -⟩ := hbeats
          simp [hresp, hdata, hcredit]
  | false =>
      cases bs with
      | nil => rfl
      | cons e es => simp [hbeats.1]

lemma respSent_head (h : RespPortInv cfg s cs d bs) (hs : s.respSent i = true) : ∃ e es,
    bs = e :: es ∧ d = false ∧ e.resp_valid = true ∧ s.rmem.pipe_is_locked = false ∧
      1 ≤ s.tarc.credits_available.toNat ∧
      (e.rdata_valid = true → 2 ≤ s.tardc.credits_available.toNat ∧ es ≠ []) := by
  have hbeats := h.beats
  simp only [RespPort.respSent, Rmem.respSent, RespPort.wires, h.rff.resp_out_eq,
    h.rff.resp_out_valid_eq, h.rff.resp_out_next_valid_eq] at hs
  cases bs with
  | nil => simp at hs
  | cons e es =>
      simp only [List.isEmpty_cons, Bool.not_false, List.headD_cons, Bool.true_and, Bool.and_eq_true,
        Bool.or_eq_true, Bool.not_eq_true', decide_eq_true_eq, List.length_cons] at hs
      obtain ⟨⟨⟨hresp, htarc⟩, hlock⟩, hdata⟩ := hs
      refine ⟨e, es, rfl, ?_, hresp, hlock, htarc, fun hv => ?_⟩
      · cases d with
        | false => rfl
        | true => exact absurd (hresp.symm.trans hbeats.1) (by decide)
      · rcases hdata with hd | ⟨hd, hlen⟩
        · exact absurd (hv.symm.trans hd) (by decide)
        · exact ⟨hd, List.length_pos_iff.mp (Nat.lt_of_succ_lt_succ hlen)⟩

/-- No response goes out while the pipeline is locked, nor in front of a second data flit. -/
lemma respSent_false (h : RespPortInv cfg s cs d bs) (i : RespPortIn)
    (hl : s.rmem.pipe_is_locked = true ∨ d = true) : s.respSent i = false := by
  refine eq_false_of_ne_true fun hs => ?_
  obtain ⟨e, es, -, hd, -, hunlocked, -⟩ := h.respSent_head hs
  rcases hl with hl | hl
  · exact absurd (hl.symm.trans hunlocked) (by decide)
  · exact absurd (hl.symm.trans hd) (by decide)

/-- A locked pipeline is silent. -/
lemma dataSent_false (h : RespPortInv cfg s cs d bs) (hl : s.rmem.pipe_is_locked = true) :
    s.dataSent = false := by
  rw [h.dataSent_eq]
  refine eq_false_of_ne_true fun hd => ?_
  exact absurd (hl.symm.trans (h.due hd).2.1) (by decide)

lemma lpcIo_locked (h : RespPortInv cfg s cs d bs) (i : RespPortIn)
    (hl : s.rmem.pipe_is_locked = true) : s.lpcIo i = .zero := by
  rw [RespPort.lpcIo, h.respSent_false i (.inl hl), h.dataSent_false hl]
  rfl

/-! ### Who drives the port, and who uses credits -/

/-- A part of a MMIO state machine is on the port. -/
lemma mmw_busy (h : RespPortInv cfg s cs d bs) (hd : s.mmw_drive ≠ .zero) :
    s.rmem.SM_MMW ≠ .IDLE ∧ s.rmem.pipe_is_locked = true := by
  by_cases hm : s.rmem.SM_MMW = .WAIT_FOR_RESP_CR
  · exact ⟨by rw [hm]; decide, h.mmw_late (by rw [hm]; rfl)⟩
  · by_cases hn : s.rmem.SM_MMW = .WAIT_FOR_NEXT_CMD
    · exact ⟨by rw [hn]; decide, h.mmw_late (by rw [hn]; rfl)⟩
    · exact absurd (h.mmw_drive hm hn) hd

lemma mmr_busy (h : RespPortInv cfg s cs d bs) (hd : s.mmr_drive ≠ .zero) :
    s.rmem.pipe_is_locked = true := by
  by_cases hm : s.rmem.SM_MMR = .WAIT_FOR_RESP_CR
  · exact h.mmr_late (by rw [hm]; rfl)
  · by_cases hn : s.rmem.SM_MMR = .WAIT_FOR_NEXT_CMD
    · exact h.mmr_late (by rw [hn]; rfl)
    · exact absurd (h.mmr_drive hm hn) hd

lemma mmr_idle_drive (h : RespPortInv cfg s cs d bs) (hr : s.rmem.SM_MMR = .IDLE) :
    s.mmr_drive = .zero :=
  h.mmr_drive (by rw [hr]; decide) (by rw [hr]; decide)

lemma drive (h : RespPortInv cfg s cs d bs) (i : RespPortIn) :
    s.mmw_drive = .zero ∧ s.mmr_drive = .zero ∨ s.mmw_drive = .zero ∧ s.lpcIo i = .zero ∨
      s.mmr_drive = .zero ∧ s.lpcIo i = .zero := by
  by_cases hw : s.mmw_drive = .zero
  · by_cases hr : s.mmr_drive = .zero
    · exact .inl ⟨hw, hr⟩
    · exact .inr (.inl ⟨hw, h.lpcIo_locked i (h.mmr_busy hr)⟩)
  · obtain ⟨hbusy, hl⟩ := h.mmw_busy hw
    exact .inr (.inr ⟨h.mmr_idle_drive (h.dispatch.one_busy hbusy), h.lpcIo_locked i hl⟩)

lemma opd_locked (h : RespPortInv cfg s cs d bs) (i : RespPortIn)
    (hl : s.rmem.pipe_is_locked = true) :
    s.tarc_consume_credit_opd i = 0 ∧ s.tardc_consume_credit_opd i = 0 := by
  rw [RespPort.tarc_consume_credit_opd, RespPort.tardc_consume_credit_opd,
    h.respSent_false i (.inl hl), h.dataSent_false hl]
  exact ⟨rfl, rfl⟩

/-- The response credits used are those of one part, and are there. -/
lemma resp_used (h : RespPortInv cfg s cs d bs) (i : RespPortIn) :
    (s.tarc_consume_credits i).toNat = s.respUsed i ∧
      s.respUsed i ≤ s.tarc.credits_available.toNat := by
  rw [RespPort.tarc_consume_credits, RespPort.respUsed, h.mmw_consume, h.mmr_consume]
  by_cases hw : s.rmem.SM_MMW = .WAIT_FOR_NEXT_CMD
  · have hr : s.rmem.SM_MMR = .IDLE := h.dispatch.one_busy (by rw [hw]; decide)
    rw [if_pos hw, hr, if_neg (by decide), (h.opd_locked i (h.mmw_late (by rw [hw]; rfl))).1]
    exact ⟨rfl, h.mmw_credit hw⟩
  · rw [if_neg hw]
    by_cases hr : s.rmem.SM_MMR = .WAIT_FOR_NEXT_CMD
    · rw [if_pos hr, (h.opd_locked i (h.mmr_late (by rw [hr]; rfl))).1]
      exact ⟨rfl, (h.mmr_credit hr).1⟩
    · rw [if_neg hr, RespPort.tarc_consume_credit_opd]
      cases hs : s.respSent i with
      | false => exact ⟨rfl, Nat.zero_le _⟩
      | true =>
          obtain ⟨e, es, -, -, -, -, htarc, -⟩ := h.respSent_head hs
          exact ⟨rfl, htarc⟩

/-- The data credits used are those of one part, and are there. -/
lemma data_used (h : RespPortInv cfg s cs d bs) (i : RespPortIn) :
    (s.tardc_consume_credits i).toNat = s.dataUsed i ∧
      s.dataUsed i ≤ s.tardc.credits_available.toNat := by
  rw [RespPort.tardc_consume_credits, RespPort.dataUsed, h.mmr_consume_data]
  by_cases hr : s.rmem.SM_MMR = .WAIT_FOR_NEXT_CMD ∧ s.mmr_rdata_valid = true
  · rw [if_pos hr, (h.opd_locked i (h.mmr_late (by rw [hr.1]; rfl))).2]
    exact ⟨rfl, (h.mmr_credit hr.1).2 hr.2⟩
  · rw [if_neg hr]
    refine ⟨by simp, ?_⟩
    rw [RespPort.tardc_consume_credit_opd, h.dataSent_eq]
    cases hs : s.respSent i with
    | false =>
        cases d with
        | false => exact Nat.zero_le _
        | true => exact (h.due rfl).2.2
    | true =>
        obtain ⟨e, es, hbs, -, -, -, -, hdata⟩ := h.respSent_head hs
        rw [h.rff.resp_out_eq, hbs]
        change 0 + (if e.rdata_valid then (1 : BitVec 6) else 0).toNat ≤ _
        cases hv : e.rdata_valid with
        | false => exact Nat.zero_le _
        | true => exact (Nat.le_succ 1).trans (hdata hv).1

theorem oneDriver (h : RespPortInv cfg s cs d bs) (i : RespPortIn) : s.OneDriver i where
  drive := h.drive i
  resp_sum := (h.resp_used i).1
  data_sum := (h.data_used i).1
  resp_credits := TlxCreditMgr.underflow_eq_false (by
    rw [(h.resp_used i).1]
    exact (h.resp_used i).2)
  data_credits := TlxCreditMgr.underflow_eq_false (by
    rw [(h.data_used i).1]
    exact (h.data_used i).2)

/-! ### One cycle -/

/-- A response with data goes out in this cycle. -/
def opens (s : RespPort) (i : RespPortIn) : Bool := s.respSent i && s.rff.resp_out.rdata_valid

/-- The entries that leave the response FIFO, and those that stay. -/
def gone (s : RespPort) (i : RespPortIn) (bs : List RffEntry) : List RffEntry :=
  if s.rff_resp_sent i then bs.take 1 else []

def kept (s : RespPort) (i : RespPortIn) (bs : List RffEntry) : List RffEntry :=
  if s.rff_resp_sent i then bs.tail else bs

lemma gone_kept (s : RespPort) (i : RespPortIn) (bs : List RffEntry) :
    gone s i bs ++ kept s i bs = bs := by
  rw [gone, kept]
  split
  · cases bs <;> rfl
  · rfl

/-- What goes out is at the head. -/
lemma sent_ne_nil (h : RespPortInv cfg s cs d bs) (hs : s.rff_resp_sent i = true) : bs ≠ [] := by
  rw [RespPort.rff_resp_sent, Bool.or_eq_true] at hs
  rcases hs with hs | hs
  · obtain ⟨e, es, rfl, -⟩ := h.respSent_head hs
    exact List.cons_ne_nil _ _
  · exact (h.due (h.dataSent_eq.symm.trans hs)).1

lemma due_next (h : RespPortInv cfg s cs d bs) (i : RespPortIn) :
    dueAfter d (gone s i bs) = opens s i := by
  rw [gone, opens, RespPort.rff_resp_sent, h.dataSent_eq]
  cases hs : s.respSent i with
  | true =>
      obtain ⟨e, es, hbs, rfl, -⟩ := h.respSent_head hs
      rw [h.rff.resp_out_eq, hbs]
      rfl
  | false =>
      cases d with
      | false => rfl
      | true =>
          cases bs with
          | nil => exact absurd rfl (h.due rfl).1
          | cons e es => rfl

/-- What goes out is seen on the port. -/
lemma presented_eq (h : RespPortInv cfg s cs d bs) (i : RespPortIn) :
    s.presented i = (gone s i bs).map RffEntry.drive := by
  have hlpc : s.lpcIo i = if s.rff_resp_sent i then (bs.headD .zero).drive else .zero := by
    have hbeats := h.beats
    rw [RespPort.lpcIo, RespPort.rff_resp_sent, h.rff.resp_out_eq, h.dataSent_eq]
    cases hs : s.respSent i with
    | true =>
        obtain ⟨e, es, hbs, -, hv, -⟩ := h.respSent_head hs
        rw [hbs]
        cases hd : e.rdata_valid <;> simp [RffEntry.drive, hv, hd]
    | false =>
        cases d with
        | false => rfl
        | true =>
            cases bs with
            | nil => exact absurd rfl (h.due rfl).1
            | cons e es => simp [RffEntry.drive, RespDrive.zero, hbeats.1, hbeats.2.1]
  have hne : s.rff_resp_sent i = true → (bs.headD .zero).drive ≠ .zero := by
    intro hs
    have hbeats := h.beats
    cases bs with
    | nil => exact absurd rfl (h.sent_ne_nil hs)
    | cons e es =>
        intro hz
        have hresp : e.resp_valid = false := congrArg RespDrive.resp_valid hz
        have hdata : e.rdata_valid = false := congrArg RespDrive.rdata_valid hz
        cases d with
        | false => exact absurd (hbeats.1.symm.trans hresp) (by decide)
        | true => exact absurd (hbeats.2.1.symm.trans hdata) (by decide)
  rw [RespPort.presented, gone]
  cases hs : s.rff_resp_sent i with
  | false => rw [hlpc, hs, if_neg Bool.false_ne_true, if_pos rfl, if_neg Bool.false_ne_true]; rfl
  | true =>
      have hnz : s.lpcIo i ≠ .zero := by
        rw [hlpc, hs]
        exact hne hs
      have hport : s.port i = s.lpcIo i := by
        rcases h.drive i with ⟨hw, hr⟩ | ⟨-, hz⟩ | ⟨-, hz⟩
        · rw [RespPort.port, hw, hr, RespDrive.zero_or, RespDrive.zero_or]
        · exact absurd hz hnz
        · exact absurd hz hnz
      rw [if_neg hnz, hport, hlpc, hs, if_pos rfl, if_pos rfl]
      cases bs with
      | nil => exact absurd rfl (h.sent_ne_nil hs)
      | cons e es => rfl

/-- The lock that was asked for comes, unless a response with data goes out. -/
lemma lock_next (s : RespPort) (i : RespPortIn)
    (hlock : s.rmem.pipeline_lock_w = true ∨ s.rmem.pipeline_lock_r = true) :
    s.rmem.nextPipeIsLocked (s.wires i) = true ∨ opens s i = true := by
  have hreq : (s.rmem.pipeline_lock_w || s.rmem.pipeline_lock_r) = true := by
    rwa [Bool.or_eq_true]
  rw [Rmem.nextPipeIsLocked, hreq, opens, RespPort.respSent]
  change (if s.rmem.respSent (s.wires i) then !s.rff.resp_out.rdata_valid && true else true) = true ∨ _
  cases s.rmem.respSent (s.wires i) <;> cases s.rff.resp_out.rdata_valid <;> simp

lemma lock_kept (h : RespPortInv cfg s cs d bs) (i : RespPortIn)
    (hlock : s.rmem.pipeline_lock_w = true ∨ s.rmem.pipeline_lock_r = true)
    (hl : s.rmem.pipe_is_locked = true ∨ d = true) :
    s.rmem.nextPipeIsLocked (s.wires i) = true := by
  rcases lock_next s i hlock with hn | ho
  · exact hn
  · rw [opens, h.respSent_false i hl] at ho
    exact absurd ho Bool.false_ne_true

/-- While the pipeline is locked, the credits of a part that is not on the port yet stay. -/
lemma resp_left (h : RespPortInv cfg s cs d bs) (hok : s.Allowed i) :
    s.tarc.credits_available.toNat - s.respUsed i
      ≤ ((s.step cfg i).tarc).credits_available.toNat := by
  obtain ⟨hsum, hle⟩ := h.resp_used i
  rw [← hsum] at hle ⊢
  exact h.tarc.step_le hle fun hc => by
    rw [hsum]
    exact hok.resp hc

lemma data_left (h : RespPortInv cfg s cs d bs) (hok : s.Allowed i) :
    s.tardc.credits_available.toNat - s.dataUsed i
      ≤ ((s.step cfg i).tardc).credits_available.toNat := by
  obtain ⟨hsum, hle⟩ := h.data_used i
  rw [← hsum] at hle ⊢
  exact h.tardc.step_le hle fun hc => by
    rw [hsum]
    exact hok.data hc

/-- A response with data leaves its second flit and a credit for it behind. -/
lemma due_step (h : RespPortInv cfg s cs d bs) (hok : s.Allowed i) (ho : opens s i = true) :
    kept s i bs ≠ [] ∧ s.rmem.nextPipeIsLocked (s.wires i) = false ∧
      1 ≤ ((s.step cfg i).tardc).credits_available.toNat := by
  rw [opens, Bool.and_eq_true] at ho
  obtain ⟨hs, hv⟩ := ho
  obtain ⟨e, es, hbs, -, -, hunlocked, -, hdata⟩ := h.respSent_head hs
  have hev : e.rdata_valid = true := by rwa [h.rff.resp_out_eq, hbs] at hv
  obtain ⟨htwo, hes⟩ := hdata hev
  refine ⟨?_, ?_, ?_⟩
  · rw [kept, RespPort.rff_resp_sent, hs, hbs]
    exact hes
  · have hsent : s.rmem.respSent (s.wires i) = true := hs
    have hout : (s.wires i).rff_out_rdata_valid = true := hv
    rw [Rmem.nextPipeIsLocked, hsent, hout]
    rfl
  · have hr : s.rmem.SM_MMR ≠ .WAIT_FOR_NEXT_CMD := fun hn => by
      have hl := h.mmr_late (by rw [hn]; rfl)
      exact absurd (hl.symm.trans hunlocked) (by decide)
    have hused : s.dataUsed i = 1 := by
      rw [RespPort.dataUsed, h.mmr_consume_data, if_neg fun hx => hr hx.1,
        RespPort.tardc_consume_credit_opd, hs, hv]
      rfl
    have hleft := h.data_left hok
    rw [hused] at hleft
    omega

/-- A MMIO state machine that waits for credits finds the others silent. -/
lemma used_waiting (h : RespPortInv cfg s cs d bs) (i : RespPortIn)
    (hm : s.rmem.SM_MMW = .WAIT_FOR_RESP_CR ∨ s.rmem.SM_MMR = .WAIT_FOR_RESP_CR) :
    s.respUsed i = 0 ∧ s.dataUsed i = 0 := by
  have hlate : s.rmem.SM_MMW ≠ .WAIT_FOR_NEXT_CMD ∧ s.rmem.SM_MMR ≠ .WAIT_FOR_NEXT_CMD ∧
      s.rmem.pipe_is_locked = true := by
    rcases hm with hm | hm
    · have hr : s.rmem.SM_MMR = .IDLE := h.dispatch.one_busy (by rw [hm]; decide)
      exact ⟨by rw [hm]; decide, by rw [hr]; decide, h.mmw_late (by rw [hm]; rfl)⟩
    · refine ⟨fun hn => ?_, by rw [hm]; decide, h.mmr_late (by rw [hm]; rfl)⟩
      have hr : s.rmem.SM_MMR = .IDLE := h.dispatch.one_busy (by rw [hn]; decide)
      exact absurd (hm.symm.trans hr) (by decide)
  obtain ⟨hw, hr, hl⟩ := hlate
  obtain ⟨hopd, hopdd⟩ := h.opd_locked i hl
  rw [RespPort.respUsed, RespPort.dataUsed, h.mmw_consume, h.mmr_consume, h.mmr_consume_data,
    if_neg hw, if_neg hr, if_neg fun hx => hr hx.1, hopd, hopdd]
  exact ⟨rfl, rfl⟩

lemma mmrRespSent_credits (hs : (s.wires i).mmrRespSent = true) :
    1 ≤ s.tarc.credits_available.toNat ∧
      (s.mmr_rdata_valid = true → 1 ≤ s.tardc.credits_available.toNat) := by
  simp only [RmemIn.mmrRespSent, RespPort.wires, Bool.or_eq_true, Bool.and_eq_true,
    Bool.not_eq_true'] at hs
  rcases hs with ⟨⟨-, hresp⟩, hdata⟩ | ⟨hv, hresp⟩
  · exact ⟨of_decide_eq_true hresp, fun _ => of_decide_eq_true hdata⟩
  · exact ⟨of_decide_eq_true hresp, fun hx => absurd (hx.symm.trans hv) (by decide)⟩

/-- A MMIO state machine that has nothing to send drives nothing. -/
lemma mmw_drive_step (hm : (s.step cfg i).rmem.SM_MMW ≠ .WAIT_FOR_RESP_CR)
    (hn : (s.step cfg i).rmem.SM_MMW ≠ .WAIT_FOR_NEXT_CMD) :
    (s.step cfg i).mmw_drive = .zero := by
  change s.nextMmwDrive = .zero
  refine if_neg fun hw => ?_
  change s.rmem.nextMmw cfg.acs (s.wires i) ≠ _ at hm hn
  rw [Rmem.nextMmw, hw] at hm hn
  by_cases hc : 1 ≤ (s.wires i).tarc_credits_available.toNat
  · exact hn (if_pos hc)
  · exact hm (if_neg hc)

lemma mmr_drive_step (hm : (s.step cfg i).rmem.SM_MMR ≠ .WAIT_FOR_RESP_CR)
    (hn : (s.step cfg i).rmem.SM_MMR ≠ .WAIT_FOR_NEXT_CMD) :
    (s.step cfg i).mmr_drive = .zero := by
  change s.nextMmrDrive i = .zero
  refine if_neg fun hw => ?_
  change s.rmem.nextMmr cfg.acs (s.wires i) ≠ _ at hm hn
  rw [Rmem.nextMmr, hw] at hm hn
  by_cases hc : (s.wires i).mmrRespSent = true
  · exact hn (if_pos hc)
  · exact hm (if_neg hc)

/-- A data credit is consumed for the response of a read that has data. -/
lemma mmr_consume_data_step : (s.step cfg i).tardc_consume_credit_mmr
    = if (s.step cfg i).rmem.SM_MMR = .WAIT_FOR_NEXT_CMD ∧ (s.step cfg i).mmr_rdata_valid = true
      then 1 else 0 := by
  have hiff : (s.mmrSends i && s.mmr_rdata_valid) = true ↔
      s.rmem.nextMmr cfg.acs (s.wires i) = .WAIT_FOR_NEXT_CMD ∧
        (s.step cfg i).mmr_rdata_valid = true := by
    rw [Rmem.nextMmr_eq_next, RespPort.mmrSends, Bool.and_eq_true, Bool.and_eq_true,
      decide_eq_true_eq]
    refine and_congr_right fun hx => ?_
    have hkeep : (s.step cfg i).mmr_rdata_valid = s.mmr_rdata_valid :=
      if_neg (by rw [hx.1]; decide)
    rw [hkeep]
  exact if_congr hiff rfl rfl

/-- The credits of a response that is sent are there. -/
lemma mmw_credit_step (h : RespPortInv cfg s cs d bs) (hok : s.Allowed i)
    (hm : (s.step cfg i).rmem.SM_MMW = .WAIT_FOR_NEXT_CMD) :
    1 ≤ (s.step cfg i).tarc.credits_available.toNat := by
  obtain ⟨hw, hc⟩ := Rmem.nextMmw_eq_next.mp hm
  have hleft := h.resp_left hok
  rw [(h.used_waiting i (.inl hw)).1] at hleft
  exact hc.trans hleft

lemma mmr_credit_step (h : RespPortInv cfg s cs d bs) (hok : s.Allowed i)
    (hm : (s.step cfg i).rmem.SM_MMR = .WAIT_FOR_NEXT_CMD) :
    1 ≤ (s.step cfg i).tarc.credits_available.toNat ∧
      ((s.step cfg i).mmr_rdata_valid = true →
        1 ≤ (s.step cfg i).tardc.credits_available.toNat) := by
  obtain ⟨hr, hs⟩ := Rmem.nextMmr_eq_next.mp hm
  obtain ⟨hresp, hdata⟩ := mmrRespSent_credits hs
  obtain ⟨hused, husedd⟩ := h.used_waiting i (.inr hr)
  have hleft := h.resp_left hok
  have hleftd := h.data_left hok
  rw [hused] at hleft
  rw [husedd] at hleftd
  have hkeep : (s.step cfg i).mmr_rdata_valid = s.mmr_rdata_valid := if_neg (by rw [hr]; decide)
  refine ⟨hresp.trans hleft, fun hv => ?_⟩
  rw [hkeep] at hv
  exact (hdata hv).trans hleftd

/-- **One cycle.** -/
theorem step (h : RespPortInv cfg s cs d bs) (hok : s.Allowed i)
    (hb : Beats d (bs ++ s.received i)) :
    RespPortInv cfg (s.step cfg i) (Dispatch.nextCmds s.rmem (s.wires i) cs) (opens s i)
      (kept s i bs ++ s.received i) := by
  have hlockw (hm : s.rmem.SM_MMW ≠ .IDLE) :
      s.rmem.pipeline_lock_w = true ∨ s.rmem.pipeline_lock_r = true := .inl (h.dispatch.lock_w hm)
  have hlockr (hm : s.rmem.SM_MMR ≠ .IDLE) :
      s.rmem.pipeline_lock_w = true ∨ s.rmem.pipeline_lock_r = true := .inr (h.dispatch.lock_r hm)
  constructor
  case dispatch =>
    refine h.dispatch.step (s.wires i) fun hx => ?_
    have hroom := hok.cmd hx
    refine lt_of_le_of_ne h.dispatch.cff.length_le fun heq => ?_
    exact absurd ((h.dispatch.cff.full_iff.mpr heq).symm.trans hroom) (by decide)
  case rff => exact h.rff.step h.sent_ne_nil
  case beats =>
    rw [← gone_kept s i bs, List.append_assoc, beats_append, h.due_next] at hb
    exact hb.2
  case due =>
    intro ho
    obtain ⟨hne, hl, hcredit⟩ := h.due_step hok ho
    exact ⟨fun hnil => hne (List.append_eq_nil_iff.mp hnil).1, hl, hcredit⟩
  case mmw_mreg1 =>
    intro hm
    have hdata := Rmem.nextMmw_mreg1 hm
    exact lock_next s i (hlockw (by rw [hdata]; decide))
  case mmw_late =>
    intro hm
    rcases Rmem.nextMmw_late hm with hm | hm
    · exact h.lock_kept i (hlockw (by rw [hm]; decide)) (h.mmw_mreg1 hm)
    · exact h.lock_kept i (hlockw fun hx => by rw [hx] at hm; exact absurd hm (by decide))
        (.inl (h.mmw_late hm))
  case mmr_mreg2 =>
    intro hm
    have hone := Rmem.nextMmr_mreg2 hm
    exact lock_next s i (hlockr (by rw [hone]; decide))
  case mmr_late =>
    intro hm
    rcases Rmem.nextMmr_late hm with hm | hm
    · exact h.lock_kept i (hlockr (by rw [hm]; decide)) (h.mmr_mreg2 hm)
    · exact h.lock_kept i (hlockr fun hx => by rw [hx] at hm; exact absurd hm (by decide))
        (.inl (h.mmr_late hm))
  case mmw_drive => exact mmw_drive_step
  case mmr_drive => exact mmr_drive_step
  case mmw_consume =>
    have hiff : s.mmwSends = true ↔ s.rmem.nextMmw cfg.acs (s.wires i) = .WAIT_FOR_NEXT_CMD := by
      rw [Rmem.nextMmw_eq_next, RespPort.mmwSends, Bool.and_eq_true, decide_eq_true_eq,
        decide_eq_true_eq]
      rfl
    exact if_congr hiff rfl rfl
  case mmr_consume =>
    have hiff : s.mmrSends i = true ↔ s.rmem.nextMmr cfg.acs (s.wires i) = .WAIT_FOR_NEXT_CMD := by
      rw [Rmem.nextMmr_eq_next, RespPort.mmrSends, Bool.and_eq_true, decide_eq_true_eq]
    exact if_congr hiff rfl rfl
  case mmr_consume_data => exact mmr_consume_data_step
  case mmw_credit => exact h.mmw_credit_step hok
  case mmr_credit => exact h.mmr_credit_step hok
  case tarc =>
    obtain ⟨hsum, hle⟩ := h.resp_used i
    have hnext := h.tarc.step i.resync_credits (hsum.trans_le hle) fun hc => by
      rw [hsum]
      exact hok.resp hc
    rw [hsum] at hnext
    exact hnext
  case tardc =>
    obtain ⟨hsum, hle⟩ := h.data_used i
    have hnext := h.tardc.step i.resync_credits (hsum.trans_le hle) fun hc => by
      rw [hsum]
      exact hok.data hc
    rw [hsum] at hnext
    exact hnext

end RespPortInv

/-! ## Runs -/

/-- What holds after a run: `gone` has been presented, `bs` waits. -/
structure RespPortRun (cfg : RespPortConfig) (s : RespPort) (received : List RffEntry)
    (presented : List RespDrive) (cs : List HostCmd) (gone bs : List RffEntry) : Prop where
  inv : RespPortInv cfg s cs (dueAfter false gone) bs
  received_eq : received = gone ++ bs
  presented_eq : presented = gone.map RffEntry.drive

lemma respPort_run (cfg : RespPortConfig) {is : List RespPortIn}
    (hok : (respPort cfg).Meets RespPort.Allowed is)
    (hbeats : Beats false ((respPort cfg).collect RespPort.received is)) : ∃ cs gone bs,
      RespPortRun cfg ((respPort cfg).run is) ((respPort cfg).collect RespPort.received is)
        ((respPort cfg).collect RespPort.presented is) cs gone bs := by
  revert hbeats
  refine (respPort cfg).trace_invariant
    (P := fun s received presented => Beats false received →
      ∃ cs gone bs, RespPortRun cfg s received presented cs gone bs)
    (fun _ => ⟨[], [], [], RespPortInv.init cfg, rfl, rfl⟩) ?_ is hok
  intro s a b i hP hi hb
  obtain ⟨cs, gone, bs, hinv, rfl, rfl⟩ := hP ((beats_append _ _ _).mp hb).1
  rw [List.append_assoc, beats_append] at hb
  have hdue := hinv.due_next i
  refine ⟨Dispatch.nextCmds s.rmem (s.wires i) cs, gone ++ RespPortInv.gone s i bs,
    RespPortInv.kept s i bs ++ s.received i, ?_, ?_, ?_⟩
  · rw [dueAfter_append, hdue]
    exact hinv.step hi hb.2
  · rw [List.append_assoc, List.append_assoc, ← List.append_assoc (RespPortInv.gone s i bs),
      RespPortInv.gone_kept]
  · rw [List.map_append, hinv.presented_eq]

/-- Both data flits of a response are presented, in the cycles of `i` and `j`, and nothing else is. -/
structure RespPort.TwoBeats (s : RespPort) (i : RespPortIn) (s' : RespPort) (j : RespPortIn) : Prop where
  first : s.mmw_drive = .zero ∧ s.mmr_drive = .zero
  second : s'.mmw_drive = .zero ∧ s'.mmr_drive = .zero
  data : (s'.lpcIo j).resp_valid = false ∧ (s'.lpcIo j).rdata_valid = true

/-- The response port along a run. -/
structure RespPortSafe (cfg : RespPortConfig) (is : List RespPortIn) : Prop where
  driver : ∀ pre i post, is = pre ++ i :: post → ((respPort cfg).run pre).OneDriver i
  beats : ∀ pre i j post, is = pre ++ i :: j :: post →
    (((respPort cfg).run pre).lpcIo i).resp_valid = true →
    (((respPort cfg).run pre).lpcIo i).rdata_valid = true →
      ((respPort cfg).run pre).TwoBeats i ((respPort cfg).run (pre ++ [i])) j
  order : ∃ gone bs, ((respPort cfg).run is).rff.respfifo.Holds bs ∧
    (respPort cfg).collect RespPort.received is = gone ++ bs ∧
    (respPort cfg).collect RespPort.presented is = gone.map RffEntry.drive

/-- A response FIFO that is on the port is there alone. -/
lemma RespPortInv.alone {cfg : RespPortConfig} {s : RespPort} {i : RespPortIn} {cs : List HostCmd}
    {d : Bool} {bs : List RffEntry} (h : RespPortInv cfg s cs d bs)
    (hv : (s.lpcIo i).rdata_valid = true) : s.mmw_drive = .zero ∧ s.mmr_drive = .zero := by
  rcases h.drive i with hz | ⟨-, hz⟩ | ⟨-, hz⟩
  · exact hz
  · rw [hz] at hv
    exact absurd hv Bool.false_ne_true
  · rw [hz] at hv
    exact absurd hv Bool.false_ne_true

/-- The second data flit of a response on the port. -/
lemma RespPortInv.lpcIo_due {cfg : RespPortConfig} {s : RespPort} {cs : List HostCmd}
    {bs : List RffEntry} (h : RespPortInv cfg s cs true bs) (j : RespPortIn) :
    (s.lpcIo j).resp_valid = false ∧ (s.lpcIo j).rdata_valid = true := by
  have hbeats := h.beats
  rw [RespPort.lpcIo, h.respSent_false j (.inr rfl), h.dataSent_eq, h.rff.resp_out_eq]
  cases bs with
  | nil => exact absurd rfl (h.due rfl).1
  | cons e es => exact ⟨rfl, hbeats.2.1⟩

/-- A response with data on the port is one that goes out. -/
lemma RespPort.opens_of_lpcIo {s : RespPort} {i : RespPortIn} (hr : (s.lpcIo i).resp_valid = true)
    (hv : (s.lpcIo i).rdata_valid = true) : RespPortInv.opens s i = true := by
  rw [RespPort.lpcIo] at hr hv
  rw [RespPortInv.opens]
  cases hs : s.respSent i with
  | true =>
      rw [hs, if_pos rfl] at hv
      cases hd : s.rff.resp_out.rdata_valid with
      | true => rfl
      | false => simp [hd] at hv
  | false =>
      rw [hs, if_neg Bool.false_ne_true] at hr
      split at hr <;> exact absurd hr Bool.false_ne_true

/-- **One driver on the response port.**  Let the response FIFO be given whole responses, and let the
TLX return no credit that was not consumed.  Then in every cycle at most one of `SM_MMW`, `SM_MMR` and
the response FIFO drives the port and no credit counter underflows; the two data flits of a response
are presented in consecutive cycles; and the port shows the entries in order, each of them once. -/
theorem one_driver (cfg : RespPortConfig) {is : List RespPortIn}
    (hok : (respPort cfg).Meets RespPort.Allowed is)
    (hbeats : Beats false ((respPort cfg).collect RespPort.received is)) : RespPortSafe cfg is := by
  have hrun : ∀ pre post, is = pre ++ post → ∃ cs gone bs,
      RespPortRun cfg ((respPort cfg).run pre) ((respPort cfg).collect RespPort.received pre)
        ((respPort cfg).collect RespPort.presented pre) cs gone bs := by
    rintro pre post rfl
    rw [Machine.collect_append, beats_append] at hbeats
    exact respPort_run cfg (((respPort cfg).meetsFrom_append _ _ _ _).mp hok).1 hbeats.1
  constructor
  case driver =>
    intro pre i post his
    obtain ⟨cs, gone, bs, hpre⟩ := hrun pre (i :: post) his
    exact hpre.inv.oneDriver i
  case beats =>
    intro pre i j post his hr hv
    obtain ⟨cs, gone, bs, hpre⟩ := hrun pre (i :: j :: post) his
    have hi : ((respPort cfg).run pre).Allowed i := by
      rw [his] at hok
      exact (((respPort cfg).meetsFrom_append _ _ _ _).mp hok).2.1
    have hb : Beats (dueAfter false gone) (bs ++ ((respPort cfg).run pre).received i) := by
      have hsplit : is = (pre ++ [i]) ++ j :: post := by simpa using his
      rw [hsplit, Machine.collect_append, beats_append, Machine.collect_concat, hpre.received_eq,
        List.append_assoc, beats_append] at hbeats
      exact hbeats.1.2
    have hnext := hpre.inv.step hi hb
    rw [RespPort.opens_of_lpcIo hr hv] at hnext
    have hdata := hnext.lpcIo_due j
    rw [Machine.run_concat]
    exact ⟨hpre.inv.alone hv, hnext.alone hdata.2, hdata⟩
  case order =>
    obtain ⟨cs, gone, bs, h⟩ := hrun is [] (List.append_nil is).symm
    exact ⟨gone, bs, h.inv.rff.respfifo, h.received_eq, h.presented_eq⟩

/-- A MMIO write arrives together with a response with data, and goes out behind it. -/
def respPortDemo : List RespPortIn :=
  let cmd : HostCmd := ⟨0x86, 0, 5, 3, 0, 0⟩
  let header : RffEntry := ⟨true, true, 0x01, 0, 0b10, 0, 9, false, 1⟩
  let data : RffEntry := ⟨false, true, 0, 0, 0, 0, 0, false, 2⟩
  [{ tlx_afu_cmd := some cmd, rff_resp_in := some header }, { rff_resp_in := some data }, {}, {},
    { tlx_afu_resp_data_credit := true }, { tlx_afu_cmd_data := some 7 },
    { tlx_afu_cmd_data := some 7 }, {}, {}, {}, { tlx_afu_resp_credit := true }, {}, {}, {}]

/-- Credits for one response and two data flits. -/
def respPortDemoConfig : RespPortConfig where
  acs := ⟨true, 0⟩
  tlx_afu_resp_initial_credit := 1
  tlx_afu_resp_data_initial_credit := 2

theorem one_driver_demo : ((respPort respPortDemoConfig).collect RespPort.presented respPortDemo).length = 2 ∧
    RespPortSafe respPortDemoConfig respPortDemo :=
  ⟨by decide +kernel, one_driver respPortDemoConfig (by decide +kernel) (by decide +kernel)⟩

end ThymesisFlow
