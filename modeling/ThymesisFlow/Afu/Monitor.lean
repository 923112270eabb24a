import ThymesisFlow.Afu.MmioStore
import ThymesisFlow.Afu.ResponsePort

/-!
# The compute AFU with its registers and its monitors

`rmem_afu` around the response port: the MMIO registers, which `SM_MMW` writes and `SM_MMR` reads, the
two dividers and the pulses that count flits, and `SM_LCOUNT`, which measures one command at a time.
The monitors do not see that a command is dispatched or a response presented; each has a copy of the
condition for it.
-/

namespace ThymesisFlow

inductive SmLcount
  | UNLOCKED
  | LOCKED
  deriving DecidableEq, Repr

/-- `mmio_mmw` is what `SM_MMW` passes to the registers: `mmio_addr_mmw`, `mmio_wdata` and the write
strobes. -/
structure RmemAfu where
  port : RespPort
  regs : MmioRegs
  mmio_mmw : Option MmioWrite := none
  mmio_in_captured_errors_q : BitVec 64 := 0
  cmdflit_counter_divider : Bool := false
  flit_tx_pulse_q : Bool := false
  respflit_counter_divider : Bool := false
  flit_rx_pulse_cmd_q : Bool := false
  flit_rx_pulse_data_q : Bool := false
  SM_LCOUNT : SmLcount := .UNLOCKED
  outstanding_capptag : BitVec 16 := 0
  latency_cycle_counter_q : BitVec 37 := 0
  prev_latency_cycle_counter : BitVec 64 := 0

/-- The wires of one cycle. -/
structure RmemAfuIn where
  tlx_afu_cmd : Option HostCmd := none
  tlx_afu_cmd_data : Option DataFlit := none
  ncff_cmd_tready : Bool := true
  cmddata_fifo_tready : Bool := true
  rff_resp_in : Option RffEntry := none
  tlx_afu_resp_credit : Bool := false
  tlx_afu_resp_data_credit : Bool := false
  resync_credits : Bool := false
  mmio_in_captured_errors : BitVec 64 := 0
  aurora_status : BitVec 64 := 0
  ery_data_out : BitVec 128 := 0
  mmio_in_intrp_is_pending : Bool := false

/-- `thymesis_out_slot0_reg` to `thymesis_out_slot11_reg`. -/
def MmioRegs.thymesis_out_slot (r : MmioRegs) (k : Fin 12) : BitVec 64 :=
  (([.reg_00020, .reg_00028, .reg_00030, .reg_00038, .reg_00040, .reg_00048, .reg_00050,
    .reg_00058] : List MmioReg)[k.val]?.map r.reg).getD 0

namespace RmemAfu

variable (cfg : RespPortConfig) (s : RmemAfu) (i : RmemAfuIn)

/-! ## Between the response port and the registers -/

def portIn : RespPortIn where
  tlx_afu_cmd := i.tlx_afu_cmd
  tlx_afu_cmd_data := i.tlx_afu_cmd_data
  ncff_cmd_tready := i.ncff_cmd_tready
  thymesis_cfg := s.regs.thymesis_out_slot
  rff_resp_in := i.rff_resp_in
  tlx_afu_resp_credit := i.tlx_afu_resp_credit
  tlx_afu_resp_data_credit := i.tlx_afu_resp_data_credit
  resync_credits := i.resync_credits
  mmio_addr_not_implemented := s.regs.addr_not_implemented_q
  mmio_bad_op_or_align := s.regs.bad_op_or_align_q
  mmio_rdata := s.regs.final_rdata_q
  mmio_rdata_vld := s.regs.final_rdata_vld_q

/-- `SM_MMR` sends the read to the registers. -/
def mmio_rd : Bool :=
  s.port.rmem.SM_MMR = .IDLE && s.port.rmem.start_mmio_read cfg.acs && s.port.rmem.pipe_is_locked

/-- The write strobe of a length; bad data is not written. -/
def mmio_wr (mmw_pl : BitVec 3) : Bool := s.mmio_mmw.any fun w => !w.bdi && w.mmw_pl == mmw_pl

def mmioIn : MmioIn where
  reset := false
  mmio_addr := (s.mmio_mmw.map (·.mmio_addr)).getD 0
    ||| (if s.mmio_rd cfg then field s.port.rmem.cff_cmd.pa 0 20 else 0)
  mmio_wdata := (s.mmio_mmw.map (·.mmio_wdata)).getD 0
  mmio_wr_1B := s.mmio_wr 0b000
  mmio_wr_2B := s.mmio_wr 0b001
  mmio_wr_4B := s.mmio_wr 0b010
  mmio_wr_8B := s.mmio_wr 0b011
  mmio_rd := s.mmio_rd cfg
  mmio_in_captured_errors := s.mmio_in_captured_errors_q
  mmio_in_status := i.aurora_status
  mmio_ery_data_out := i.ery_data_out
  mmio_in_intrp_is_pending := i.mmio_in_intrp_is_pending
  aurora_status := 0
  latency_cycle_counter := s.prev_latency_cycle_counter
  flit_tx_pulse := s.flit_tx_pulse_q
  flit_rx_pulse_cmd := s.flit_rx_pulse_cmd_q
  flit_rx_pulse_data := s.flit_rx_pulse_data_q

/-! ## What the monitors look at -/

def wires : RmemIn := s.port.wires (s.portIn i)

/-- `(start_write_mem || start_rd_mem) && !ncff_cmd_full`. -/
def memStart : Bool :=
  s.port.rmem.start (fun c => c.startWriteMem cfg.acs || c.startRdMem cfg.acs)
    && !s.port.rmem.ncff.full

/-- A data flit of the host goes to the command data FIFO. -/
def dataPushed : Bool := s.port.rmem.cmddata_fifo_tvalid (s.wires i) i.cmddata_fifo_tready

/-- The response at the head of the response FIFO has the credits it needs. -/
def respReady : Bool :=
  let rff := s.port.rff
  rff.resp_out_valid && 1 ≤ s.port.tarc.credits_available.toNat
    && (!rff.resp_out.rdata_valid
      || (2 ≤ s.port.tardc.credits_available.toNat && rff.resp_out_next_valid))

def latency_counter_reset : Bool := s.regs.latency_counter_reset

/-! ## `SM_LCOUNT` -/

def nextLcount : RmemAfu :=
  match s.SM_LCOUNT with
  | .UNLOCKED =>
      if s.memStart cfg && !s.latency_counter_reset then
        { s with
          outstanding_capptag := s.port.rmem.cff_cmd.capptag
          latency_cycle_counter_q := 0
          SM_LCOUNT := .LOCKED }
      else if s.latency_counter_reset then { s with prev_latency_cycle_counter := 0 }
      else s
  | .LOCKED =>
      if s.port.rff.resp_out.resp_capptag = s.outstanding_capptag then
        let prev := s.prev_latency_cycle_counter
        { s with
          prev_latency_cycle_counter :=
            (field prev 37 27 + 1) ++ (field prev 0 37 + s.latency_cycle_counter_q + 1)
          SM_LCOUNT := .UNLOCKED }
      else { s with latency_cycle_counter_q := s.latency_cycle_counter_q + 1 }

/-! ## The clock edge -/

def step : RmemAfu :=
  { s.nextLcount cfg with
    port := s.port.step cfg (s.portIn i)
    regs := s.regs.step (s.mmioIn cfg i)
    mmio_mmw := s.port.rmem.mmioWrite (s.wires i)
    mmio_in_captured_errors_q := i.mmio_in_captured_errors
    cmdflit_counter_divider := s.cmdflit_counter_divider ^^ s.memStart cfg
    flit_tx_pulse_q := s.memStart cfg && s.cmdflit_counter_divider || s.dataPushed i
    respflit_counter_divider := s.respflit_counter_divider ^^ s.respReady
    flit_rx_pulse_cmd_q := s.respReady && s.respflit_counter_divider
    flit_rx_pulse_data_q :=
      s.respReady && s.respflit_counter_divider && s.port.rff.resp_out.rdata_valid
        || s.port.dataSent }

end RmemAfu

/-- The AFU from the cycle on in which its reset has ended. -/
def rmemAfu (cfg : RespPortConfig) : Machine RmemAfu RmemAfuIn where
  init := { port := (respPort cfg).init, regs := resetRegs }
  step := RmemAfu.step cfg

end ThymesisFlow
