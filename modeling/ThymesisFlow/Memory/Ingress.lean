import ThymesisFlow.Memory.OcxFlit

/-!
# The memory ingress

`thymesisflow_memory_ingress` masters the commands of the network to the TLX: a command gets a
local CAPPTAG and is stored in the lookup BRAMs under it, with its data; a command that comes back
from the retry path keeps its tag and is not stored again.  Commands with data are followed by as
many data flits as their DL says.
-/

namespace ThymesisFlow

/-- `smstate`. -/
inductive IngressState
  | INIT
  | RECEIVE_CMD
  | RECEIVE_DATA
  deriving DecidableEq, Repr

/-- `ACTAG_CMD_OP`. -/
def actagCmdOp : BitVec 8 := 0x50

/-- The write port of a lookup BRAM.  All bytes are written or none, so `we` is one bit. -/
structure LookupPort (w : ℕ) where
  addr : BitVec 32 := 0
  din : BitVec w := 0
  we : Bool := false
  deriving DecidableEq, Repr

/-- The registers.  The enables of the three BRAMs and their resets are set together. -/
structure MemoryIngress where
  tlx_cmd_q : BitVec 200 := 0
  tlx_cmd_valid_q : Bool := false
  tlx_data_tdata_q : BitVec 520 := 0
  tlx_data_valid_q : Bool := false
  cmdlookup : LookupPort 256 := {}
  d0lookup : LookupPort 512 := {}
  d1lookup : LookupPort 512 := {}
  lookup_port_en_q : Bool := false
  dflit_size_rty : BitVec 3 := 0
  dflit_size : BitVec 3 := 0
  smstate : IngressState := .INIT
  deriving DecidableEq, Repr

/-- The wires of one cycle. -/
structure MemoryIngressIn where
  active_actag : BitVec 12
  capptag_fifo_tdata : BitVec 16
  capptag_fifo_tvalid : Bool
  netflit_in_tdata : Flit512
  netflit_in_tvalid : Bool
  rty_in_tdata : Flit512
  rty_in_tvalid : Bool
  enable : Bool
  tlx_cmd_tready : Bool
  tlx_data_tready : Bool

/-- `dflit_size` and `dflit_size_rty` for a command. -/
def cmdDflitSize (f : Flit512) : BitVec 3 :=
  if bit f 509 then
    BitVec.ofBool (bit f 423 && bit f 422) ++ BitVec.ofBool (bit f 423 && !bit f 422)
      ++ BitVec.ofBool (!bit f 423)
  else 0

namespace MemoryIngress

variable (s : MemoryIngress) (i : MemoryIngressIn)

/-! ## The ready signals -/

def capptag_fifo_tready : Bool :=
  i.enable && s.smstate = .RECEIVE_CMD && !i.rty_in_tvalid && i.netflit_in_tvalid && i.tlx_cmd_tready

def rty_in_tready : Bool :=
  i.enable && ((i.tlx_cmd_tready && s.smstate = .RECEIVE_CMD)
    || (i.tlx_data_tready && (bit s.dflit_size_rty 1 || bit s.dflit_size_rty 0)))

def netflit_in_tready : Bool :=
  i.enable && ((i.tlx_cmd_tready && s.smstate = .RECEIVE_CMD && !i.rty_in_tvalid
      && i.capptag_fifo_tvalid)
    || (i.tlx_data_tready && (bit s.dflit_size 1 || bit s.dflit_size 0)))

/-! ## The branches of the main process -/

/-- The first cycle: the acTag is assigned. -/
def assignActag : MemoryIngress :=
  { s with
    tlx_cmd_q := setField (setField (setField s.tlx_cmd_q 191 actagCmdOp) 30 i.active_actag)
      6 (0 : BitVec 20)
    tlx_cmd_valid_q := true
    tlx_data_valid_q := false }

/-- A command of the retry path: everything but the tag is passed on as it is. -/
def takeRtyCmd : MemoryIngress :=
  { s with
    tlx_cmd_q := setField (setField (setField s.tlx_cmd_q 127 (field i.rty_in_tdata 440 72))
      111 (field i.rty_in_tdata 297 16)) 0 (field i.rty_in_tdata 313 111)
    tlx_cmd_valid_q := true
    tlx_data_valid_q := s.tlx_data_valid_q && !i.tlx_data_tready
    dflit_size_rty := cmdDflitSize i.rty_in_tdata
    cmdlookup := { s.cmdlookup with we := false }
    d0lookup := { s.d0lookup with we := false }
    d1lookup := { s.d1lookup with we := false } }

/-- `tlx_cmd_q` for a command of the network. -/
def netTlxCmd : BitVec 200 :=
  setField (setField (setField (setField (setField (setField (setField s.tlx_cmd_q
    127 (field i.netflit_in_tdata 440 72)) 111 i.capptag_fifo_tdata)
    42 (field i.netflit_in_tdata 355 69)) 30 i.active_actag)
    26 (field i.netflit_in_tdata 339 4)) 6 (0 : BitVec 20)) 0 (field i.netflit_in_tdata 313 6)

/-- The record that is stored for it: the local tag, the command with its original tag, and the
net id in place of the page size. -/
def netRecord : BitVec 256 :=
  setField (setField (setField (setField (setField (setField (setField (setField s.cmdlookup.din
    199 i.capptag_fifo_tdata) 127 (field i.netflit_in_tdata 440 72))
    111 (field i.netflit_in_tdata 424 16)) 42 (field i.netflit_in_tdata 355 69))
    30 i.active_actag) 26 (field i.netflit_in_tdata 339 4)) 6 (0 : BitVec 20))
    0 (field i.netflit_in_tdata 291 6)

def takeNetCmd : MemoryIngress :=
  { s with
    tlx_cmd_q := s.netTlxCmd i
    tlx_cmd_valid_q := true
    tlx_data_valid_q := s.tlx_data_valid_q && !i.tlx_data_tready
    cmdlookup := ⟨setField s.cmdlookup.addr 5 i.capptag_fifo_tdata, s.netRecord i, true⟩
    d0lookup := { s.d0lookup with we := false }
    d1lookup := { s.d1lookup with we := false }
    dflit_size := cmdDflitSize i.netflit_in_tdata }

def takeRtyData : MemoryIngress :=
  { s with
    tlx_data_tdata_q := setField s.tlx_data_tdata_q 0 (0#1 ++ i.rty_in_tdata : BitVec 513)
    tlx_data_valid_q := true
    tlx_cmd_valid_q := s.tlx_cmd_valid_q && !i.tlx_cmd_tready
    dflit_size_rty := s.dflit_size_rty - 1 }

/-- The write port of a data BRAM for a data flit: one of the two flits of a command is its own. -/
def dataPort (p : LookupPort 512) (own : Bool) : LookupPort 512 where
  addr := setField p.addr 6 (if own then field s.cmdlookup.addr 5 16 else 0)
  din := if own then i.netflit_in_tdata else 0
  we := own

def takeNetData : MemoryIngress :=
  { s with
    tlx_data_tdata_q := setField s.tlx_data_tdata_q 0 (0#1 ++ i.netflit_in_tdata : BitVec 513)
    tlx_data_valid_q := true
    tlx_cmd_valid_q := s.tlx_cmd_valid_q && !i.tlx_cmd_tready
    cmdlookup := { s.cmdlookup with we := false }
    dflit_size := s.dflit_size - 1
    d0lookup := s.dataPort i s.d0lookup (bit s.dflit_size 1)
    d1lookup := s.dataPort i s.d1lookup (bit s.dflit_size 0) }

/-- Nothing came in this cycle. -/
def idle : MemoryIngress :=
  { s with
    tlx_cmd_valid_q := s.tlx_cmd_valid_q && !i.tlx_cmd_tready
    tlx_data_valid_q := s.tlx_data_valid_q && !i.tlx_data_tready
    cmdlookup := { s.cmdlookup with we := false }
    d0lookup := { s.d0lookup with we := false }
    d1lookup := { s.d1lookup with we := false } }

/-! ## One cycle -/

/-- The main process. -/
def datapath : MemoryIngress :=
  if s.smstate = .INIT ∧ i.enable then s.assignActag i
  else if s.smstate = .RECEIVE_CMD ∧ i.rty_in_tvalid ∧ i.tlx_cmd_tready then s.takeRtyCmd i
  else if s.smstate = .RECEIVE_CMD ∧ i.netflit_in_tvalid ∧ i.capptag_fifo_tvalid ∧ i.tlx_cmd_tready
    then s.takeNetCmd i
  else if s.smstate = .RECEIVE_DATA ∧ i.rty_in_tvalid ∧ 0 < s.dflit_size_rty ∧ i.tlx_data_tready
    then s.takeRtyData i
  else if s.smstate = .RECEIVE_DATA ∧ i.netflit_in_tvalid ∧ 0 < s.dflit_size ∧ i.tlx_data_tready
    then s.takeNetData i
  else s.idle i

/-- The state machine. -/
def nextSmstate : IngressState :=
  match s.smstate with
  | .INIT => if i.enable then .RECEIVE_CMD else .INIT
  | .RECEIVE_CMD =>
      if i.tlx_cmd_tready ∧ i.rty_in_tvalid then
        if bit i.rty_in_tdata 509 then .RECEIVE_DATA else .RECEIVE_CMD
      else if i.tlx_cmd_tready ∧ i.netflit_in_tvalid ∧ i.capptag_fifo_tvalid then
        if bit i.netflit_in_tdata 509 then .RECEIVE_DATA else .RECEIVE_CMD
      else if i.enable then .RECEIVE_CMD else .INIT
  | .RECEIVE_DATA =>
      if i.tlx_data_tready ∧ ((s.dflit_size = 1 ∧ i.netflit_in_tvalid)
        ∨ (s.dflit_size_rty = 1 ∧ i.rty_in_tvalid)) then .RECEIVE_CMD
      else .RECEIVE_DATA

def step : MemoryIngress :=
  { s.datapath i with
    smstate := s.nextSmstate i
    lookup_port_en_q := s.lookup_port_en_q || (s.smstate = .INIT && i.enable) }

/-- The command handed to the TLX in a cycle. -/
def issued (s : MemoryIngress) (i : MemoryIngressIn) : List (BitVec 200) :=
  if s.tlx_cmd_valid_q && i.tlx_cmd_tready then [s.tlx_cmd_q] else []

/-- The record written to the command BRAM in a cycle: the address and the data. -/
def recorded (s : MemoryIngress) : List (BitVec 32 × BitVec 256) :=
  if s.lookup_port_en_q && s.cmdlookup.we then [(s.cmdlookup.addr, s.cmdlookup.din)] else []

end MemoryIngress

end ThymesisFlow
