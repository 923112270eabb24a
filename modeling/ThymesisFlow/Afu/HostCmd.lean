import ThymesisFlow.Lib.BitField

/-!
# Host commands and network commands

The commands that the TLX delivers to the compute AFU, what `rmem_afu` decodes of them when they
enter the command FIFO, and what `net_cmdfifo` makes of them on their way to the network.
-/

namespace ThymesisFlow

/-- The fields of a TLX command that the command FIFO passes on. -/
structure HostCmd where
  opcode : BitVec 8
  dl : BitVec 2
  capptag : BitVec 16
  pl : BitVec 3
  be : BitVec 64
  pa : BitVec 64
  deriving DecidableEq, Repr

/-- A 64 byte data flit with its bad data indicator on top. -/
abbrev DataFlit := BitVec 513

/-- The configuration that the decoder reads. -/
structure AcsConfig where
  acs_memory_space : Bool
  acs_mmio_bar0 : BitVec 64
  deriving DecidableEq, Repr

namespace HostCmd

/-! ## Decoding -/

/-- `opd_mmio_range_check`: the address lies in the 1 MB MMIO space. -/
def mmioRange (cfg : AcsConfig) (c : HostCmd) : Bool :=
  cfg.acs_memory_space && field cfg.acs_mmio_bar0 20 44 = field c.pa 20 44

/-- `opd_mem_range_check`. -/
def memRange (cfg : AcsConfig) (c : HostCmd) : Bool :=
  !cfg.acs_memory_space || (cfg.acs_memory_space && field cfg.acs_mmio_bar0 20 44 ≠ field c.pa 20 44)

variable (cfg : AcsConfig) (c : HostCmd)

def startMmioWrite : Bool := c.opcode = 0x86 && c.mmioRange cfg

def startMmioRead : Bool := c.opcode = 0x28 && c.mmioRange cfg

def startPrWrMem : Bool := c.opcode = 0x86 && c.memRange cfg

def startWriteMem : Bool := c.opcode = 0x81 && c.memRange cfg

def startPrRdMem : Bool := c.opcode = 0x28 && c.memRange cfg

def startRdMem : Bool := c.opcode = 0x20 && c.memRange cfg

def startWriteMemBe : Bool := c.opcode = 0x82 && c.memRange cfg

/-- One of the commands that go to the network. -/
def startRemote : Bool :=
  c.startWriteMem cfg || c.startPrWrMem cfg || c.startWriteMemBe cfg || c.startRdMem cfg
    || c.startPrRdMem cfg

/-- The number of data flits that the host sends with the command. -/
def dataFlits : ℕ :=
  if c.opcode = 0x81 then
    if c.dl = 0b01 then 1 else if c.dl = 0b10 then 2 else if c.dl = 0b11 then 4 else 0
  else if c.opcode = 0x86 ∨ c.opcode = 0x82 then 1
  else 0

/-- The 1 TB segment of a remote address. -/
def segment : ℕ := (field c.pa 40 6).toNat

end HostCmd

/-- The number of flits that a value of `afu_tlx_cmd_rd_cnt` asks for. -/
def rdCntFlits (cnt : BitVec 3) : ℕ :=
  if cnt = 0b001 then 1 else if cnt = 0b010 then 2 else if cnt = 0b011 then 4 else 0

/-! ## Network commands -/

/-- A row of `net_cmdfifo`. -/
structure NetCmd where
  netid : BitVec 6 := 0
  opcode : BitVec 8 := 0
  dl : BitVec 2 := 0
  tag : BitVec 16 := 0
  pl : BitVec 3 := 0
  be : BitVec 64 := 0
  ea : BitVec 64 := 0
  deriving DecidableEq, Repr

/-- The opcode as it goes to the network: bit 5 says write, bit 4 says read. -/
def netCmdOpcode (opcode : BitVec 8) : BitVec 8 :=
  0#2 ++ BitVec.ofBool (bit opcode 7 && bit opcode 0) ++ BitVec.ofBool (bit opcode 5) ++ 0#4

/-- The row that is written for a command whose segment has the configuration register `reg`. -/
def NetCmd.ofHost (reg : BitVec 64) (c : HostCmd) : NetCmd where
  netid := field reg 0 6
  opcode := netCmdOpcode c.opcode
  dl := c.dl
  tag := c.capptag
  pl := c.pl
  be := c.be
  ea := c.pa + (field reg 6 58 ++ 0#6 : BitVec 64)

/-- The row that `net_cmdfifo` writes, if the segment is one of the twelve that have a
configuration register. -/
def netCmdRow (thymesis_cfg : Fin 12 → BitVec 64) (c : HostCmd) : Option NetCmd :=
  if h : c.segment < 12 then some (.ofHost (thymesis_cfg ⟨c.segment, h⟩) c) else none

/-- `is_writecmd` of the egress adapter. -/
def NetCmd.isWrite (n : NetCmd) : Bool := bit n.opcode 5

/-! ## Facts about the decoding -/

namespace HostCmd

variable {cfg : AcsConfig} {c : HostCmd}

lemma memRange_eq (cfg : AcsConfig) (c : HostCmd) : c.memRange cfg = !c.mmioRange cfg := by
  rw [memRange, mmioRange]
  cases cfg.acs_memory_space <;> by_cases h : field cfg.acs_mmio_bar0 20 44 = field c.pa 20 44 <;>
    simp [h]

/-- A command in the MMIO space is none of the network's. -/
lemma startRemote_of_mmio (h : c.mmioRange cfg = true) : c.startRemote cfg = false := by
  simp [startRemote, startWriteMem, startPrWrMem, startWriteMemBe, startRdMem, startPrRdMem,
    memRange_eq, h]

lemma startMmioWrite_opcode (h : c.startMmioWrite cfg = true) :
    c.opcode = 0x86 ∧ c.mmioRange cfg = true := by
  simpa [startMmioWrite] using h

lemma startMmioRead_opcode (h : c.startMmioRead cfg = true) :
    c.opcode = 0x28 ∧ c.mmioRange cfg = true := by
  simpa [startMmioRead] using h

lemma startMmio_of_remote (h : c.startRemote cfg = true) :
    c.startMmioWrite cfg = false ∧ c.startMmioRead cfg = false := by
  have hr : c.mmioRange cfg = false := by
    by_contra hm
    rw [startRemote_of_mmio (eq_true_of_ne_false hm)] at h
    exact Bool.false_ne_true h
  simp [startMmioWrite, startMmioRead, hr]

end HostCmd

end ThymesisFlow
