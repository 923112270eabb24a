import ThymesisFlow.Afu.HostCmd
import ThymesisFlow.Lib.RowFifo

/-!
# The command dispatch of the compute AFU

The part of `rmem_afu` between the command FIFO and the network: the state machines of MMIO
writes (`SM_MMW`) and MMIO reads (`SM_MMR`), the one that loads commands into the network FIFO
(`LPC_LOAD_NET`), and the locks between them.  The three of them look at the head of one command
FIFO; the first and the last ask the TLX for data flits over one interface.
-/

namespace ThymesisFlow

inductive SmMmw
  | IDLE
  | WAIT_FOR_DATA
  | WAIT_FOR_MREG1
  | WAIT_FOR_MREG2
  | WAIT_FOR_MREG3
  | WAIT_FOR_RESP_CR
  | WAIT_FOR_NEXT_CMD
  deriving DecidableEq, Repr

inductive SmMmr
  | IDLE
  | WAIT_FOR_MREG1
  | WAIT_FOR_MREG2
  | WAIT_FOR_RESP_CR
  | WAIT_FOR_NEXT_CMD
  deriving DecidableEq, Repr

inductive LpcLoadNet
  | IDLE
  | WAIT_1CYCLE
  deriving DecidableEq, Repr

/-- A command with all fields zero. -/
def HostCmd.zero : HostCmd := ⟨0, 0, 0, 0, 0, 0⟩

/-- The registers.  Those of `LPC_LOAD_NET` that have no reset in the source start cleared; the
ERROR states of the source are never entered and left out. -/
structure Rmem where
  cff : RowFifo HostCmd := ⟨fun _ => .zero, 0, 0, 0⟩
  SM_MMW : SmMmw := .IDLE
  pipeline_lock_w : Bool := false
  mmw_pl : BitVec 3 := 0
  mmw_addr : BitVec 64 := 0
  cmd_complete_mmw : Bool := false
  SM_MMR : SmMmr := .IDLE
  pipeline_lock_r : Bool := false
  cmd_complete_mmr : Bool := false
  pipe_is_locked : Bool := false
  LPC_LOAD_NET : LpcLoadNet := .IDLE
  ncff_cmd_in : HostCmd := .zero
  ncff_cmd_in_valid : Bool := false
  cmd_complete_ldnf : Bool := false
  rd_cnt_lpc_io : BitVec 3 := 0
  rd_req_lpc_io : Bool := false
  ncff : RowFifo NetCmd := ⟨fun _ => {}, 0, 0, 0⟩

/-- The wires of one cycle.  `mmr_rdata_valid` says whether the response of a MMIO read has data,
the `rff_…` wires and the two credit counts decide whether a response goes out. -/
structure RmemIn where
  tlx_afu_cmd : Option HostCmd
  tlx_afu_cmd_data : Option DataFlit
  ncff_cmd_tready : Bool
  thymesis_cfg : Fin 12 → BitVec 64
  tarc_credits_available : BitVec 4
  tardc_credits_available : BitVec 6
  rff_resp_valid : Bool
  rff_out_resp_valid : Bool
  rff_out_rdata_valid : Bool
  rff_resp_next_valid : Bool
  mmr_rdata_valid : Bool

/-- The response of a MMIO read goes out. -/
def RmemIn.mmrRespSent (i : RmemIn) : Bool :=
  i.mmr_rdata_valid && 1 ≤ i.tarc_credits_available.toNat && 1 ≤ i.tardc_credits_available.toNat
    || !i.mmr_rdata_valid && 1 ≤ i.tarc_credits_available.toNat

/-- What the MMIO registers are given: address, length, data and bad data indicator. -/
structure MmioWrite where
  mmio_addr : BitVec 20
  mmw_pl : BitVec 3
  mmio_wdata : BitVec 64
  bdi : Bool
  deriving DecidableEq, Repr

/-- `mmw_data_to_mmio_regs`: the eight bytes that bits 5:3 of the address select. -/
def mmwData (pa : BitVec 64) (d : DataFlit) : BitVec 64 := field d ((field pa 3 3).toNat * 64) 64

namespace Rmem

variable (cfg : AcsConfig) (s : Rmem) (i : RmemIn)

/-! ## Wires -/

/-- `cff_cmd_…`, the command at the head of the command FIFO. -/
def cff_cmd : HostCmd := if s.cff.valid then s.cff.head else .zero

/-- A property that the command FIFO keeps with its commands. -/
def start (p : HostCmd → Bool) : Bool := s.cff.valid && p s.cff_cmd

def start_mmio_write : Bool := s.start (HostCmd.startMmioWrite cfg)

def start_mmio_read : Bool := s.start (HostCmd.startMmioRead cfg)

/-- `LPC_LOAD_NET` takes a command. -/
def dispatch : Bool :=
  s.LPC_LOAD_NET = .IDLE && s.start (HostCmd.startRemote cfg) && !s.ncff.full

def cmd_dispatched : Bool := s.cmd_complete_mmw || s.cmd_complete_mmr || s.cmd_complete_ldnf

def rd_req_mmw : Bool := s.SM_MMW = .IDLE && s.start_mmio_write cfg && s.pipe_is_locked

/-- `afu_tlx_cmd_rd_req`. -/
def rd_req : Bool := s.rd_req_mmw cfg || s.rd_req_lpc_io

/-- `afu_tlx_cmd_rd_cnt`. -/
def rd_cnt : BitVec 3 := (if s.rd_req_mmw cfg then 0b001 else 0) ||| s.rd_cnt_lpc_io

/-- A response of the network goes out to the host in this cycle. -/
def respSent : Bool :=
  i.rff_resp_valid && i.rff_out_resp_valid && 1 ≤ i.tarc_credits_available.toNat
    && !s.pipe_is_locked && (!i.rff_out_rdata_valid
      || (2 ≤ i.tardc_credits_available.toNat && i.rff_resp_next_valid))

/-- `tlx_afu_cmd_data_valid & ~pipeline_lock_w & cmddata_fifo_tready`. -/
def cmddata_fifo_tvalid (cmddata_fifo_tready : Bool) : Bool :=
  i.tlx_afu_cmd_data.isSome && !s.pipeline_lock_w && cmddata_fifo_tready

/-- What `SM_MMW` passes to the MMIO registers in this cycle. -/
def mmioWrite : Option MmioWrite :=
  if s.SM_MMW = .WAIT_FOR_DATA then
    i.tlx_afu_cmd_data.map fun d =>
      ⟨field s.mmw_addr 0 20, s.mmw_pl, mmwData s.cff_cmd.pa d, bit d 512⟩
  else none

/-! ## Next states -/

def nextMmw : SmMmw :=
  match s.SM_MMW with
  | .IDLE => if s.start_mmio_write cfg && s.pipe_is_locked then .WAIT_FOR_DATA else .IDLE
  | .WAIT_FOR_DATA => if i.tlx_afu_cmd_data.isSome then .WAIT_FOR_MREG1 else .WAIT_FOR_DATA
  | .WAIT_FOR_MREG1 => .WAIT_FOR_MREG2
  | .WAIT_FOR_MREG2 => .WAIT_FOR_MREG3
  | .WAIT_FOR_MREG3 => .WAIT_FOR_RESP_CR
  | .WAIT_FOR_RESP_CR =>
      if 1 ≤ i.tarc_credits_available.toNat then .WAIT_FOR_NEXT_CMD else .WAIT_FOR_RESP_CR
  | .WAIT_FOR_NEXT_CMD => .IDLE

/-- `pipeline_lock_w`: released in IDLE when the head is no MMIO write. -/
def nextLockW : Bool :=
  match s.SM_MMW with
  | .IDLE => s.start_mmio_write cfg
  | _ => true

def nextMmr : SmMmr :=
  match s.SM_MMR with
  | .IDLE => if s.start_mmio_read cfg && s.pipe_is_locked then .WAIT_FOR_MREG1 else .IDLE
  | .WAIT_FOR_MREG1 => .WAIT_FOR_MREG2
  | .WAIT_FOR_MREG2 => .WAIT_FOR_RESP_CR
  | .WAIT_FOR_RESP_CR => if i.mmrRespSent then .WAIT_FOR_NEXT_CMD else .WAIT_FOR_RESP_CR
  | .WAIT_FOR_NEXT_CMD => .IDLE

def nextLockR : Bool :=
  match s.SM_MMR with
  | .IDLE => s.start_mmio_read cfg
  | _ => true

/-- `pipe_is_locked`: a response with data that goes out keeps the pipeline open. -/
def nextPipeIsLocked : Bool :=
  if s.respSent i then !i.rff_out_rdata_valid && (s.pipeline_lock_w || s.pipeline_lock_r)
  else s.pipeline_lock_w || s.pipeline_lock_r

/-- The data that is asked for together with the command: `rd_cnt` and `rd_req`. -/
def nextRd : BitVec 3 × Bool :=
  match s.LPC_LOAD_NET with
  | .IDLE =>
      if s.dispatch cfg then
        if s.cff_cmd.startWriteMem cfg then (0#1 ++ s.cff_cmd.dl, true)
        else if s.cff_cmd.startPrWrMem cfg || s.cff_cmd.startWriteMemBe cfg then (0b001, true)
        else (s.rd_cnt_lpc_io, s.rd_req_lpc_io)
      else (s.rd_cnt_lpc_io, s.rd_req_lpc_io)
  | .WAIT_1CYCLE => (0, false)

/-- The command that is handed to the network FIFO, its valid and `cmd_complete_ldnf`. -/
def nextNcffIn : HostCmd × Bool × Bool :=
  match s.LPC_LOAD_NET with
  | .IDLE =>
      if s.dispatch cfg then (s.cff_cmd, true, true)
      else (s.ncff_cmd_in, s.ncff_cmd_in_valid, s.cmd_complete_ldnf)
  | .WAIT_1CYCLE => (.zero, false, false)

/-- One cycle. -/
def step : Rmem where
  cff := s.cff.step i.tlx_afu_cmd.isSome i.tlx_afu_cmd s.cmd_dispatched
  SM_MMW := s.nextMmw cfg i
  pipeline_lock_w := s.nextLockW cfg
  mmw_pl := if s.SM_MMW = .IDLE then s.cff_cmd.pl else s.mmw_pl
  mmw_addr := if s.SM_MMW = .IDLE then s.cff_cmd.pa else s.mmw_addr
  cmd_complete_mmw := s.SM_MMW = .WAIT_FOR_RESP_CR && 1 ≤ i.tarc_credits_available.toNat
  SM_MMR := s.nextMmr cfg i
  pipeline_lock_r := s.nextLockR cfg
  cmd_complete_mmr := s.SM_MMR = .WAIT_FOR_RESP_CR && i.mmrRespSent
  pipe_is_locked := s.nextPipeIsLocked i
  LPC_LOAD_NET := if s.dispatch cfg then .WAIT_1CYCLE else .IDLE
  ncff_cmd_in := (s.nextNcffIn cfg).1
  ncff_cmd_in_valid := (s.nextNcffIn cfg).2.1
  cmd_complete_ldnf := (s.nextNcffIn cfg).2.2
  rd_cnt_lpc_io := (s.nextRd cfg).1
  rd_req_lpc_io := (s.nextRd cfg).2
  ncff := s.ncff.step s.ncff_cmd_in_valid (netCmdRow i.thymesis_cfg s.ncff_cmd_in)
    (i.ncff_cmd_tready && s.ncff.valid)

/-! ## What the state machines can do -/

variable {cfg s i}

lemma nextMmw_eq_next : s.nextMmw cfg i = .WAIT_FOR_NEXT_CMD ↔
    s.SM_MMW = .WAIT_FOR_RESP_CR ∧ 1 ≤ i.tarc_credits_available.toNat := by
  unfold nextMmw
  split <;> rename_i h <;> rw [h] <;> try split_ifs
  all_goals simp_all

lemma nextMmr_eq_next : s.nextMmr cfg i = .WAIT_FOR_NEXT_CMD ↔
    s.SM_MMR = .WAIT_FOR_RESP_CR ∧ i.mmrRespSent = true := by
  unfold nextMmr
  split <;> rename_i h <;> rw [h] <;> try split_ifs
  all_goals simp_all

/-- `SM_MMW` is busy after a cycle if it starts on the head, or was busy and not done. -/
lemma nextMmw_ne_idle (h : s.nextMmw cfg i ≠ .IDLE) :
    s.SM_MMW = .IDLE ∧ s.start_mmio_write cfg = true ∧ s.pipe_is_locked = true ∨
      s.SM_MMW ≠ .IDLE ∧ s.SM_MMW ≠ .WAIT_FOR_NEXT_CMD := by
  unfold nextMmw at h
  split at h <;> rename_i hm <;> rw [hm] <;> try split_ifs at h
  all_goals simp_all

lemma nextMmr_ne_idle (h : s.nextMmr cfg i ≠ .IDLE) :
    s.SM_MMR = .IDLE ∧ s.start_mmio_read cfg = true ∨
      s.SM_MMR ≠ .IDLE ∧ s.SM_MMR ≠ .WAIT_FOR_NEXT_CMD := by
  unfold nextMmr at h
  split at h <;> rename_i hm <;> rw [hm] <;> try split_ifs at h
  all_goals simp_all

/-- `SM_MMW` waits for data after it has asked for it, and until the TLX delivers. -/
lemma nextMmw_eq_data : s.nextMmw cfg i = .WAIT_FOR_DATA ↔
    s.rd_req_mmw cfg = true ∨ s.SM_MMW = .WAIT_FOR_DATA ∧ i.tlx_afu_cmd_data = none := by
  unfold nextMmw rd_req_mmw
  cases hd : i.tlx_afu_cmd_data <;> split <;> rename_i hm <;> rw [hm] <;> try split_ifs
  all_goals simp_all

lemma nextLockW_eq : s.nextLockW cfg = true ↔
    s.SM_MMW ≠ .IDLE ∨ s.SM_MMW = .IDLE ∧ s.start_mmio_write cfg = true := by
  unfold nextLockW
  cases hm : s.SM_MMW <;> simp

/-- After a command has been taken its data is asked for. -/
lemma nextRd_dispatch (h : s.dispatch cfg = true)
    (hrd : (s.rd_cnt_lpc_io, s.rd_req_lpc_io) = (0, false)) :
    s.nextRd cfg = if s.cff_cmd.startWriteMem cfg then (0#1 ++ s.cff_cmd.dl, true)
      else if s.cff_cmd.startPrWrMem cfg || s.cff_cmd.startWriteMemBe cfg then (0b001, true)
      else (0, false) := by
  have hl : s.LPC_LOAD_NET = .IDLE := by simp_all [dispatch]
  rw [nextRd, hl, h, hrd]
  rfl

lemma dispatch_idle (h : s.dispatch cfg = true) : s.LPC_LOAD_NET = .IDLE := by
  simp_all [dispatch]

end Rmem

end ThymesisFlow
