import ThymesisFlow.Lib.BitField
import ThymesisFlow.Lib.History
import ThymesisFlow.Lib.Machine

/-!
# The MMIO registers

`rmem_mmio_regs.v`: the inputs of a cycle are latched, in the next cycle the target register and the
byte enables are determined from them, and in the cycle after that the register has been written, or
what was read, or the error, is at the output.
-/

namespace ThymesisFlow

/-- What the module sees in one cycle. -/
structure MmioIn where
  reset : Bool
  mmio_addr : BitVec 20
  mmio_wdata : BitVec 64
  mmio_wr_1B : Bool
  mmio_wr_2B : Bool
  mmio_wr_4B : Bool
  mmio_wr_8B : Bool
  mmio_rd : Bool
  mmio_in_captured_errors : BitVec 64
  mmio_in_status : BitVec 64
  mmio_ery_data_out : BitVec 128
  mmio_in_intrp_is_pending : Bool
  aurora_status : BitVec 64
  latency_cycle_counter : BitVec 64
  flit_tx_pulse : Bool
  flit_rx_pulse_cmd : Bool
  flit_rx_pulse_data : Bool

/-- The registers that hold a value. -/
inductive MmioReg
  | reg_00000
  | reg_00008
  | reg_00010
  | reg_00018
  | reg_00020
  | reg_00028
  | reg_00030
  | reg_00038
  | reg_00040
  | reg_00048
  | reg_00050
  | reg_00058
  | reg_00060
  | reg_00068
  | reg_00078
  | reg_00080
  | reg_00108
  | reg_80000
  | reg_80008
  | reg_80018
  deriving DecidableEq, Repr

namespace MmioReg

/-- The address of the lowest byte. -/
def base : MmioReg → ℕ
  | .reg_00000 => 0x00000
  | .reg_00008 => 0x00008
  | .reg_00010 => 0x00010
  | .reg_00018 => 0x00018
  | .reg_00020 => 0x00020
  | .reg_00028 => 0x00028
  | .reg_00030 => 0x00030
  | .reg_00038 => 0x00038
  | .reg_00040 => 0x00040
  | .reg_00048 => 0x00048
  | .reg_00050 => 0x00050
  | .reg_00058 => 0x00058
  | .reg_00060 => 0x00060
  | .reg_00068 => 0x00068
  | .reg_00078 => 0x00078
  | .reg_00080 => 0x00080
  | .reg_00108 => 0x00108
  | .reg_80000 => 0x80000
  | .reg_80008 => 0x80008
  | .reg_80018 => 0x80018

def init : MmioReg → BitVec 64
  | .reg_00008 => 0x4000000000000000
  | .reg_80008 => 0x0000000100000000
  | .reg_80018 => 0x0000000000000010
  | _ => 0

def all : List MmioReg :=
  [.reg_00000, .reg_00008, .reg_00010, .reg_00018, .reg_00020, .reg_00028, .reg_00030, .reg_00038,
    .reg_00040, .reg_00048, .reg_00050, .reg_00058, .reg_00060, .reg_00068, .reg_00078, .reg_00080,
    .reg_00108, .reg_80000, .reg_80008, .reg_80018]

end MmioReg

structure MmioRegs where
  addr_q : BitVec 20
  wdata_q : BitVec 64
  wr_1B_q : Bool
  wr_2B_q : Bool
  wr_4B_q : Bool
  wr_8B_q : Bool
  rd_q : Bool
  reset_q : Bool
  bad_op_or_align_q : Bool
  addr_not_implemented_q : Bool
  reg : MmioReg → BitVec 64
  /-- `scratch_ary0` to `scratch_ary7`, the byte of each row, and the row. -/
  scratch_ary : ℕ → ℕ → BitVec 8
  final_rdata_q : BitVec 64
  final_rdata_vld_q : Bool

/-- `wr_be`, `do_read` and `bad_op_or_align_d` of the strobes and the lowest three address bits. -/
def decodeOp (wr_1B wr_2B wr_4B wr_8B rd : Bool) (lo : ℕ) : BitVec 8 × Bool × Bool :=
  match wr_1B, wr_2B, wr_4B, wr_8B, rd, lo with
  | false, false, false, false, false, _ => (0b00000000, false, false)
  | false, false, false, false, true, _ => (0b00000000, true, false)
  | false, false, false, true, false, 0 => (0b11111111, false, false)
  | false, false, true, false, false, 0 => (0b00001111, false, false)
  | false, false, true, false, false, 4 => (0b11110000, false, false)
  | false, true, false, false, false, 0 => (0b00000011, false, false)
  | false, true, false, false, false, 2 => (0b00001100, false, false)
  | false, true, false, false, false, 4 => (0b00110000, false, false)
  | false, true, false, false, false, 6 => (0b11000000, false, false)
  | true, false, false, false, false, 0 => (0b00000001, false, false)
  | true, false, false, false, false, 1 => (0b00000010, false, false)
  | true, false, false, false, false, 2 => (0b00000100, false, false)
  | true, false, false, false, false, 3 => (0b00001000, false, false)
  | true, false, false, false, false, 4 => (0b00010000, false, false)
  | true, false, false, false, false, 5 => (0b00100000, false, false)
  | true, false, false, false, false, 6 => (0b01000000, false, false)
  | true, false, false, false, false, 7 => (0b10000000, false, false)
  | _, _, _, _, _, _ => (0b00000000, false, true)

namespace MmioRegs

variable (s : MmioRegs) (x : MmioIn)

def op : BitVec 8 × Bool × Bool :=
  decodeOp s.wr_1B_q s.wr_2B_q s.wr_4B_q s.wr_8B_q s.rd_q (s.addr_q.toNat % 8)

def wr_be : BitVec 8 := s.op.1

def do_read : Bool := s.op.2.1

def bad_op_or_align_d : Bool := s.op.2.2

/-- The address is in the range. -/
def sel (lo hi : ℕ) : Bool := decide (lo ≤ s.addr_q.toNat) && decide (s.addr_q.toNat < hi)

def selReg (r : MmioReg) : Bool := s.sel r.base (r.base + 8)

def sel_00200_002FF : Bool := s.sel 0x00200 0x00300

def sel_addr_not_implemented : Bool :=
  s.sel 0x00080 0x00100 || s.sel 0x00120 0x00200 || s.sel 0x00300 0x80000 || s.sel 0x80020 0x100000

/-- The row of the scratch pad. -/
def sai : ℕ := s.addr_q.toNat / 8 % 32

/-- `q` with the bytes that are written overlaid. -/
def overlay (q : BitVec 64) : BitVec 64 :=
  setBytes (bit s.wr_be) (fun k => field s.wdata_q (8 * k) 8) 8 q

/-- What a register holds after the cycle, outside reset. -/
def next (r : MmioReg) : BitVec 64 :=
  let q := s.reg r
  match r with
  | .reg_00000 =>
      -- the trigger of the software interrupt is cleared by itself
      if s.selReg r then if bit s.wr_be 0 then s.overlay q else clearBit (s.overlay q) 1 else q
  | .reg_00008 => if s.selReg r then setField (s.overlay q) 48 0x4000#16 else q
  | .reg_00060 =>
      if s.selReg r && s.do_read then 0
      else if x.flit_tx_pulse then q + 1
      else q
  | .reg_00068 =>
      if s.selReg r && s.do_read then 0
      else if x.flit_rx_pulse_cmd && x.flit_rx_pulse_data then q + 2
      else if x.flit_rx_pulse_cmd || x.flit_rx_pulse_data then q + 1
      else q
  | .reg_00108 =>
      if s.selReg r then s.overlay (q ||| x.mmio_in_captured_errors)
      else q ||| x.mmio_in_captured_errors
  | .reg_80000 => if s.selReg r then setField (s.overlay q) 0 0#2 else q
  | .reg_80008 => if s.selReg r then setField (s.overlay q) 33 0#31 else q
  | _ => if s.selReg r then s.overlay q else q

/-- One byte of the scratch pad after the cycle, outside reset.  The branch that holds the value takes
that of byte 0 from byte 1. -/
def scratchNext (k g : ℕ) : BitVec 8 :=
  if s.sel_00200_002FF && s.sai == g then
    if bit s.wr_be k then field s.wdata_q (8 * k) 8 else s.scratch_ary k g
  else if k = 0 then s.scratch_ary 1 g
  else s.scratch_ary k g

/-! ## Read data -/

/-- The eight bytes of a row. -/
def scratchRow (g : ℕ) : BitVec 64 := setBytes (fun _ => true) (s.scratch_ary · g) 8 0

/-- The ranges that can be read, with what is read there. -/
def readable : List (ℕ × ℕ × BitVec 64) :=
  MmioReg.all.map (fun r => (r.base, r.base + 8, s.reg r)) ++
    [(0x00070, 0x00078, x.latency_cycle_counter),
      (0x00088, 0x00090, x.aurora_status),
      (0x00100, 0x00108, x.mmio_in_status),
      (0x00110, 0x00118, field x.mmio_ery_data_out 64 64),
      (0x00118, 0x00120, field x.mmio_ery_data_out 0 64),
      (0x80010, 0x80018, (BitVec.ofBool x.mmio_in_intrp_is_pending).setWidth 64),
      (0x00200, 0x00300, s.scratchRow s.sai)]

/-- All sources are combined by an OR gate, those that are not selected as zero. -/
def final_rdata_d : BitVec 64 :=
  (s.readable x).foldl (fun d r => d ||| if s.sel r.1 r.2.1 && s.do_read then r.2.2 else 0) 0

def latency_counter_reset : Bool := s.sel 0x00070 0x00078 && s.do_read

/-! ## The clock edge -/

def step : MmioRegs where
  addr_q := x.mmio_addr
  wdata_q := x.mmio_wdata
  wr_1B_q := x.mmio_wr_1B
  wr_2B_q := x.mmio_wr_2B
  wr_4B_q := x.mmio_wr_4B
  wr_8B_q := x.mmio_wr_8B
  rd_q := x.mmio_rd
  reset_q := x.reset
  bad_op_or_align_q := if s.reset_q then false else s.bad_op_or_align_d
  addr_not_implemented_q := s.sel_addr_not_implemented
  reg r := if s.reset_q then r.init else s.next x r
  scratch_ary k g := if s.reset_q then 0xFF else s.scratchNext k g
  final_rdata_q := s.final_rdata_d x
  final_rdata_vld_q := s.do_read

end MmioRegs

/-- The registers from a state on in which the reset has been latched. -/
def mmioRegs (s₀ : MmioRegs) : Machine MmioRegs MmioIn := ⟨s₀, MmioRegs.step⟩

end ThymesisFlow
