import Mathlib.Logic.Function.Basic
import ThymesisFlow.Lib.Machine
import ThymesisFlow.Port.Bckpressure

/-!
# The LLC framer

`thymesisflow_llc_framer` (`thymesisflow_llc_framer_crc_replay.v`) stores the flits it accepts in a
BRAM of 64 frames of four flits, sends each frame once all goes well, and sends again from a
frame the other side asks for.  Every register has a function `next…` that is its `always` block;
`Framer.step` collects them.  The valid masks of the 64 frames are one vector of 256 bits, indexed
by the BRAM address `{queue, pointer}`.

`Tx` adds the BRAM of the module's BRAM ports (`llc_framer_bram_32B.tcl`: one cycle of read latency,
a read in the cycle of a write returns the old contents).
-/

namespace ThymesisFlow

/-- The control states; the source encodes them in four bits, one of which is the flag
`resend_req_active`. -/
inductive SmState
  | SM_IDLE
  | SM_RETRANS_REQ
  | SM_RETRANS_MSG_XMIT
  | SM_RM_ACTIVATE_PATCHING
  | SM_RM_SEND_PREAMBLE
  deriving DecidableEq, Repr

/-- `send_state_selector`: which bit of `smstate` leaving SM_RETRANS_REQ sets. -/
inductive SendSelector
  | reset
  | msgXmit
  | activatePatching
  deriving DecidableEq, Repr

inductive SmcState
  | SMC_IDLE
  | SMC_SEND
  deriving DecidableEq, Repr

namespace SmState

/-- `smstate[0]` -/
def resendReqActive (s : SmState) : Bool := s ≠ SM_IDLE

/-- `smstate[1]` -/
def activateResendMsgXmit (s : SmState) : Bool := s = SM_RETRANS_MSG_XMIT

/-- `smstate[2]` -/
def activatePatching (s : SmState) : Bool := s = SM_RM_ACTIVATE_PATCHING

/-- `smstate[3]` -/
def resendPreambleActive (s : SmState) : Bool := s = SM_RM_SEND_PREAMBLE

end SmState

/-- The registers.  `wd_stage2` and `counter` have no reset in the source. -/
structure Framer where
  wrptr : BitVec 2 := 0
  rdptr : BitVec 2 := 0
  wrq : BitVec 6 := 0
  rdq : BitVec 6 := 0
  frame_distance : BitVec 6 := 0
  we : Bool := false
  wa : BitVec 8 := 0
  wd : Flit := 0
  wd_stage2 : Flit := 0
  read_wb : Bool := false
  datarvalid : Bool := false
  resend_rptr_lock : Bool := false
  rdy_lock : Bool := false
  data_valid : BitVec 256 := 0
  remote_retrans_req_valid : Bool := false
  remote_retrans_frame : Flit := 0
  retrans_req_valid : Bool := false
  retrans_frame : Flit := 0
  smstate : SmState := .SM_IDLE
  send_state_selector : SendSelector := .reset
  data_valid_resend : BitVec 256 := 0
  resend_rdq : BitVec 6 := 0
  resend_rdq_set : BitVec 6 := 0
  resend_rdq_one_ahead : BitVec 6 := 0
  fix_valids : Bool := false
  valid_once : Bool := false
  valid_patch_done : Bool := false
  smcstate : SmcState := .SMC_IDLE
  cmdrvalid : Bool := false
  cmdframe : Flit := 0
  counter : BitVec 2 := 0
  inband_msg_sent : Bool := false
  tlast : Bool := false
  data_out_ping : Flit := 0
  data_out_pong : Flit := 0
  ping_valid : Bool := false
  pong_valid : Bool := false
  tlast_out_ping : Bool := false
  tlast_out_pong : Bool := false
  read_turn : Bool := false
  write_turn : Bool := false
  deriving DecidableEq, Repr

structure FramerIn where
  fifo_in_tdata : Flit
  fifo_in_tvalid : Bool
  fifo_out_tready : Bool
  resend_frame_id : BitVec 6
  resend_frame_id_valid : Bool
  remote_resend_frame_id : BitVec 6
  remote_resend_frame_id_valid : Bool

/-- The BRAM address `{queue, pointer}`. -/
def slot (q : BitVec 6) (p : BitVec 2) : BitVec 8 := q ++ p

/-- Rolls over at 63. -/
def rollover (q : BitVec 6) : BitVec 6 := if q ≠ 0x3f then q + 1 else 0

/-- The single flit that starts a replay. -/
def preambleFlit : Flit := 0x80

namespace Framer

variable (s : Framer) (i : FramerIn)

/-! ## Wires -/

def all_not_empty : Bool := s.data_valid ≠ 0

def all_full : Bool := s.data_valid = BitVec.allOnes 256

def fifoInTready : Bool := decide (s.frame_distance ≤ 1) && !s.rdy_lock

/-- `fifo_in_tvalid && fifo_in_tready` -/
def accept : Bool := i.fifo_in_tvalid && s.fifoInTready

def reada : BitVec 8 := slot s.rdq s.rdptr

def writea : BitVec 8 := slot s.wrq s.wrptr

/-- `data_valid[rdq][rdptr]` -/
def rdValid : Bool := bit s.data_valid s.reada.toNat

def writeLock : Bool := s.wrptr = 0 && s.smstate.resendReqActive

def pingPongValid : Bool := s.ping_valid || s.pong_valid

/-- Both slots of the output buffer are empty, or one of them is being read. -/
def pingPongBufferReady : Bool :=
  (!s.ping_valid && !s.pong_valid) || ((s.ping_valid || s.pong_valid) && i.fifo_out_tready)

/-- The reader takes a slot in this cycle. -/
def reads : Bool := s.pingPongBufferReady i && s.all_not_empty && !s.resend_rptr_lock

/-- The cycle in which a resend overrides the read pointer and the valid masks. -/
def patches : Bool := s.valid_patch_done && !s.smstate.resendPreambleActive

def fixValidsDone : Bool := s.resend_rdq_one_ahead = s.wrq && s.valid_once

/-- `remote_retrans_frame[6:1]` -/
def remoteFrameId : BitVec 6 := field s.remote_retrans_frame 1 6

/-! ## Requests -/

def latchesRemote : Bool := i.remote_resend_frame_id_valid && !s.remote_retrans_req_valid

def remoteServed : Bool := s.smstate = .SM_RM_SEND_PREAMBLE && s.inband_msg_sent

def nextRemoteRetransReqValid : Bool :=
  if s.latchesRemote i then true
  else if s.remoteServed then false
  else s.remote_retrans_req_valid

def nextRemoteRetransFrame : Flit :=
  if s.latchesRemote i then
    setField (setField (setField s.remote_retrans_frame 0 1#1) 1 i.remote_resend_frame_id) 7 0#1
  else if s.remoteServed then preambleFlit
  else s.remote_retrans_frame

def latchesLocal : Bool := i.resend_frame_id_valid && !s.retrans_req_valid

def localServed : Bool := s.smstate = .SM_RETRANS_MSG_XMIT && s.inband_msg_sent

def nextRetransReqValid : Bool :=
  if s.latchesLocal i then true
  else if s.localServed then false
  else s.retrans_req_valid

def nextRetransFrame : Flit :=
  if s.latchesLocal i then setField (setField s.retrans_frame 0 1#1) 1 i.resend_frame_id
  else if s.localServed then 0
  else s.retrans_frame

/-! ## Control -/

/-- A frame in transit has left, and the read pointer is held at a frame boundary. -/
def quiet : Bool := !s.datarvalid && !s.pingPongValid && s.resend_rptr_lock

def nextSmstate : SmState :=
  match s.smstate with
  | .SM_IDLE =>
      if s.remote_retrans_req_valid then .SM_RETRANS_REQ
      else if s.retrans_req_valid then .SM_RETRANS_REQ
      else .SM_IDLE
  | .SM_RETRANS_REQ =>
      if s.quiet then
        match s.send_state_selector with
        | .reset => .SM_RETRANS_REQ
        | .msgXmit => .SM_RETRANS_MSG_XMIT
        | .activatePatching => .SM_RM_ACTIVATE_PATCHING
      else .SM_RETRANS_REQ
  | .SM_RM_ACTIVATE_PATCHING =>
      if s.valid_patch_done then .SM_RM_SEND_PREAMBLE else .SM_RM_ACTIVATE_PATCHING
  | .SM_RM_SEND_PREAMBLE => if s.inband_msg_sent then .SM_IDLE else .SM_RM_SEND_PREAMBLE
  | .SM_RETRANS_MSG_XMIT => if s.inband_msg_sent then .SM_IDLE else .SM_RETRANS_MSG_XMIT

def nextSendStateSelector : SendSelector :=
  match s.smstate with
  | .SM_IDLE =>
      if s.remote_retrans_req_valid then .activatePatching
      else if s.retrans_req_valid then .msgXmit
      else s.send_state_selector
  | _ => s.send_state_selector

/-! ## Pointers -/

def nextFrameDistance : BitVec 6 :=
  if s.wrq < s.rdq then (0x3f - s.rdq) + s.wrq + 1
  else if !s.all_full then s.wrq - s.rdq
  else 0x3f

def nextWrq : BitVec 6 := if s.wrptr = 3 && s.accept i then rollover s.wrq else s.wrq

def nextRdq : BitVec 6 :=
  if s.patches then s.resend_rdq_set
  else if s.rdptr = 3 && s.reads i then rollover s.rdq
  else s.rdq

def nextWrptr : BitVec 2 :=
  if s.accept i then (if s.wrptr ≠ 3 then s.wrptr + 1 else 0) else s.wrptr

def nextRdyLock : Bool :=
  if s.accept i then (if s.wrptr ≠ 3 then s.rdy_lock else s.smstate.resendReqActive)
  else s.writeLock

def nextRdptr : BitVec 2 :=
  if s.reads i then (if s.rdptr ≠ 3 then s.rdptr + 1 else 0) else s.rdptr

def nextResendRptrLock : Bool :=
  if s.reads i then (if s.rdptr ≠ 3 then s.resend_rptr_lock else s.smstate.resendReqActive)
  else if s.rdptr = 0 then s.smstate.resendReqActive
  else s.resend_rptr_lock

def nextDatarvalid : Bool := if s.reads i then s.rdValid else false

def nextWdStage2 : Flit := if s.reads i then s.wd else s.wd_stage2

def nextReadWb : Bool := s.reada = s.wa && !s.all_full

/-! ## Valid masks -/

def nextDataValid : BitVec 256 :=
  if s.patches then s.data_valid ||| s.data_valid_resend
  else if s.accept i && (!s.pingPongBufferReady i || !s.all_not_empty || s.resend_rptr_lock) then
    setBit s.data_valid s.writea.toNat
  else if !s.accept i && s.pingPongBufferReady i && !s.resend_rptr_lock then
    clearBit s.data_valid s.reada.toNat
  else if !s.all_full && s.wrq = s.rdq && s.accept i && s.pingPongBufferReady i then
    clearBit (setBit s.data_valid s.writea.toNat) s.reada.toNat
  else if !s.all_full && s.accept i && s.pingPongBufferReady i then
    -- two frames, so the two assignments touch different masks
    setBit (clearBit s.data_valid s.reada.toNat) s.writea.toNat
  else s.data_valid

/-! ## Patching the valid masks for a resend -/

/-- The loop over the frames to send again is running. -/
def patchLoop : Bool := s.fix_valids && (s.resend_rdq ≠ s.wrq || !s.valid_once)

/-- The loop is (re)started. -/
def patchStart : Bool :=
  !s.patchLoop && s.smstate.activatePatching && !s.valid_patch_done

/-- The loop's flags are cleared. -/
def patchClear : Bool := !s.patchLoop && !s.smstate.activatePatching

def nextValidPatchDone : Bool :=
  if s.patchLoop then s.fixValidsDone
  else if s.patchClear then false
  else s.valid_patch_done

def nextValidOnce : Bool :=
  if s.patchLoop then true
  else if s.patchStart then false
  else if s.patchClear then false
  else s.valid_once

def nextFixValids : Bool :=
  if s.patchStart then true
  else if s.patchClear then false
  else s.fix_valids

def nextResendRdq : BitVec 6 :=
  if s.patchLoop then rollover s.resend_rdq
  else if s.patchStart then s.remoteFrameId
  else s.resend_rdq

def nextResendRdqOneAhead : BitVec 6 :=
  if s.patchLoop then rollover s.resend_rdq_one_ahead
  else if s.patchStart then rollover s.remoteFrameId
  else s.resend_rdq_one_ahead

def nextResendRdqSet : BitVec 6 := if s.patchStart then s.remoteFrameId else s.resend_rdq_set

def nextDataValidResend : BitVec 256 :=
  if s.patchLoop then setField s.data_valid_resend (4 * s.resend_rdq.toNat) 0xf#4
  else if s.patchStart then 0
  else s.data_valid_resend

/-! ## In-band messages -/

def startsPreamble : Bool :=
  s.smcstate = .SMC_IDLE && s.smstate.resendPreambleActive && s.pingPongBufferReady i
    && !s.inband_msg_sent

def startsMsg : Bool :=
  s.smcstate = .SMC_IDLE && s.smstate.activateResendMsgXmit && s.pingPongBufferReady i
    && !s.inband_msg_sent

def lastCopySent : Bool := s.smcstate = .SMC_SEND && s.counter = 0 && s.pingPongBufferReady i

def copySent : Bool := s.smcstate = .SMC_SEND && s.counter ≠ 0 && s.pingPongBufferReady i

def nextSmcstate : SmcState :=
  if s.startsPreamble i || s.startsMsg i then .SMC_SEND
  else if s.lastCopySent i then .SMC_IDLE
  else s.smcstate

def nextCmdrvalid : Bool := s.startsPreamble i || s.startsMsg i || s.copySent i

def nextCmdframe : Flit :=
  if s.startsPreamble i then preambleFlit
  else if s.startsMsg i then s.retrans_frame
  else if s.smcstate = .SMC_IDLE || s.lastCopySent i then 0
  else s.cmdframe

def nextCounter : BitVec 2 :=
  if s.startsPreamble i || s.startsMsg i then 2
  else if s.smcstate = .SMC_IDLE then 0
  else if s.copySent i then s.counter - 1
  else s.counter

def nextInbandMsgSent : Bool :=
  if s.smcstate = .SMC_IDLE then false
  else if s.lastCopySent i then true
  else s.inband_msg_sent

/-! ## The output ping-pong buffer -/

def nextTlast : Bool := s.pingPongBufferReady i && s.rdptr = 3 && s.rdValid

/-- The flit the output buffer captures, where `read_data` is the BRAM's output. -/
def captured (read_data : Flit) : Flit :=
  if s.cmdrvalid then s.cmdframe else if s.read_wb then s.wd_stage2 else read_data

def writesPing : Bool := (s.datarvalid || s.cmdrvalid) && !s.write_turn

def writesPong : Bool := (s.datarvalid || s.cmdrvalid) && s.write_turn

/-- The first slot is emptied: the other one is written while the output is ready, or it is this
one's turn to be read. -/
def clearsPing : Bool :=
  i.fifo_out_tready && (s.writesPong || (!s.writesPing && !s.read_turn))

def clearsPong : Bool :=
  i.fifo_out_tready && (s.writesPing || (!s.writesPong && s.read_turn))

def nextDataOutPing (read_data : Flit) : Flit :=
  if s.writesPing then s.captured read_data else if s.clearsPing i then 0 else s.data_out_ping

def nextDataOutPong (read_data : Flit) : Flit :=
  if s.writesPong then s.captured read_data else if s.clearsPong i then 0 else s.data_out_pong

def nextPingValid : Bool :=
  if s.writesPing then true else if s.clearsPing i then false else s.ping_valid

def nextPongValid : Bool :=
  if s.writesPong then true else if s.clearsPong i then false else s.pong_valid

def nextTlastOutPing : Bool :=
  if s.writesPing then s.tlast || s.cmdrvalid else if s.clearsPing i then false else s.tlast_out_ping

def nextTlastOutPong : Bool :=
  if s.writesPong then s.tlast || s.cmdrvalid else if s.clearsPong i then false else s.tlast_out_pong

def nextWriteTurn : Bool :=
  if s.writesPing then true else if s.writesPong then false else s.write_turn

def nextReadTurn : Bool :=
  if s.pingPongValid && i.fifo_out_tready then !s.read_turn else s.read_turn

/-! ## Outputs -/

def fifoOutTdata : Flit := if s.read_turn then s.data_out_pong else s.data_out_ping

def fifoOutTvalid : Bool := s.ping_valid || s.pong_valid

def fifoOutTlast : Bool := if s.read_turn then s.tlast_out_pong else s.tlast_out_ping

/-- One clock cycle with the output `read_data` of the BRAM. -/
def step (read_data : Flit) : Framer where
  wrptr := s.nextWrptr i
  rdptr := s.nextRdptr i
  wrq := s.nextWrq i
  rdq := s.nextRdq i
  frame_distance := s.nextFrameDistance
  we := s.accept i
  wa := s.writea
  wd := i.fifo_in_tdata
  wd_stage2 := s.nextWdStage2 i
  read_wb := s.nextReadWb
  datarvalid := s.nextDatarvalid i
  resend_rptr_lock := s.nextResendRptrLock i
  rdy_lock := s.nextRdyLock i
  data_valid := s.nextDataValid i
  remote_retrans_req_valid := s.nextRemoteRetransReqValid i
  remote_retrans_frame := s.nextRemoteRetransFrame i
  retrans_req_valid := s.nextRetransReqValid i
  retrans_frame := s.nextRetransFrame i
  smstate := s.nextSmstate
  send_state_selector := s.nextSendStateSelector
  data_valid_resend := s.nextDataValidResend
  resend_rdq := s.nextResendRdq
  resend_rdq_set := s.nextResendRdqSet
  resend_rdq_one_ahead := s.nextResendRdqOneAhead
  fix_valids := s.nextFixValids
  valid_once := s.nextValidOnce
  valid_patch_done := s.nextValidPatchDone
  smcstate := s.nextSmcstate i
  cmdrvalid := s.nextCmdrvalid i
  cmdframe := s.nextCmdframe i
  counter := s.nextCounter i
  inband_msg_sent := s.nextInbandMsgSent i
  tlast := s.nextTlast i
  data_out_ping := s.nextDataOutPing i read_data
  data_out_pong := s.nextDataOutPong i read_data
  ping_valid := s.nextPingValid i
  pong_valid := s.nextPongValid i
  tlast_out_ping := s.nextTlastOutPing i
  tlast_out_pong := s.nextTlastOutPong i
  read_turn := s.nextReadTurn i
  write_turn := s.nextWriteTurn

end Framer

/-! ## The framer with its BRAM -/

/-- `mem` is the memory of the BRAM and `read_data` its output register. -/
structure Tx where
  framer : Framer := {}
  mem : BitVec 8 → Flit := fun _ => 0
  read_data : Flit := 0

namespace Tx

def step (t : Tx) (i : FramerIn) : Tx where
  framer := t.framer.step i t.read_data
  mem := if t.framer.we then setAt t.mem t.framer.wa t.framer.wd else t.mem
  read_data := t.mem t.framer.reada

/-- The flits accepted on `fifo_in` in a cycle. -/
def accepted (t : Tx) (i : FramerIn) : List Flit :=
  if t.framer.accept i then [i.fifo_in_tdata] else []

/-- The flits handed over on `fifo_out` in a cycle, with their `tlast`. -/
def emitted (t : Tx) (i : FramerIn) : List (Flit × Bool) :=
  if t.framer.fifoOutTvalid && i.fifo_out_tready then
    [(t.framer.fifoOutTdata, t.framer.fifoOutTlast)]
  else []

end Tx

/-- The transmitter with every input free. -/
def txMachine : Machine Tx FramerIn := ⟨{}, Tx.step⟩

end ThymesisFlow
