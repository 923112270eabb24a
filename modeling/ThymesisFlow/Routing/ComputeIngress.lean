import ThymesisFlow.Lib.Machine
import ThymesisFlow.Port.Bckpressure
import ThymesisFlow.Routing.Arbiter

/-!
# The compute side of the routing layer, ingress

`thymesisflow_32B_64B_routing_compute_ingress`.  Two network ports deliver responses in 32 byte
flits; the module widens them to 64 bytes, transcodes the opcodes of the headers and hands the
responses of both ports over through one ping-pong buffer.

The two halves of the source are the same text with the port numbers exchanged, so a port is a
record (`PortRegs`) and the state a function from ports to records.  A cycle of a port does two
things at once, a forward into the ping-pong buffer and a load from the network; `step_eq` takes
them apart.
-/

namespace ThymesisFlow

/-- A register with its valid bit. -/
structure Stage (α : Type) where
  q : α
  vld : Bool := false
  deriving DecidableEq, Repr

/-- A register is loaded, or loses its valid bit because its content is forwarded. -/
def Stage.next {α : Type} (s : Stage α) (load fwd : Bool) (x : α) : Stage α :=
  if load then ⟨x, true⟩ else if fwd then { s with vld := false } else s

/-! ## The response header -/

/-- The fields of a response header that the first stage keeps. -/
structure RespHdr where
  opcode : BitVec 8
  code : BitVec 4
  dl : BitVec 2
  dp : BitVec 2
  tag : BitVec 16
  deriving DecidableEq, Repr

/-- The TLX opcode of the network, transcoded to the TL opcode that the host expects. -/
def transcodeOpcode (f : Flit) : BitVec 8 :=
  0#5 ++ BitVec.ofBool (bit f 251) ++ BitVec.ofBool (bit f 250 && bit f 248)
    ++ BitVec.ofBool ((bit f 250 && !bit f 248) || (bit f 251 && bit f 248))

/-- What `cmdflit_q` is loaded with. -/
def RespHdr.transcode (f : Flit) : RespHdr where
  opcode := transcodeOpcode f
  code := field f 228 4
  dl := field f 226 2
  dp := field f 224 2
  tag := field f 41 16

/-- `is_respROK_in`, on the opcode of the network. -/
def isRespROKIn (f : Flit) : Bool := bit f 250 && !bit f 248

/-- `is_respROK`, on the transcoded opcode. -/
def isRespROK (h : RespHdr) : Bool := bit h.opcode 0

/-! ## The first stage -/

/-- `portin_sm`. -/
inductive PortinSm
  | PORT_CMD
  | PORT_DATA0_H
  | PORT_DATA0_L
  | PORT_DATA1_H
  | PORT_DATA1_L
  deriving DecidableEq, Repr

/-- `port_sm`. -/
inductive PortSm
  | CMD
  | DFLIT0
  | DFLIT1
  deriving DecidableEq, Repr

/-- The registers of one port. -/
structure PortRegs where
  cmdflit : Stage RespHdr := ⟨⟨0, 0, 0, 0, 0⟩, false⟩
  dataflit0h : Stage Flit := ⟨0, false⟩
  dataflit0l : Stage Flit := ⟨0, false⟩
  dataflit1h : Stage Flit := ⟨0, false⟩
  dataflit1l : Stage Flit := ⟨0, false⟩
  portin_sm : PortinSm := .PORT_CMD
  port_sm : PortSm := .CMD
  outportid_data : BitVec 2 := 0
  deriving DecidableEq, Repr

namespace PortRegs

variable (p : PortRegs)

/-- The command register is forwarded.  `other_data` is `outportid_data` of the other port. -/
def fwdCmd (PORT outportid_cmd other_data : BitVec 2) (ping_pong_ready : Bool) : Bool :=
  p.cmdflit.vld && ping_pong_ready && outportid_cmd = PORT && other_data = 0 && p.port_sm = .CMD

/-- The first 64 bytes are forwarded. -/
def fwdData0 (PORT : BitVec 2) (ping_pong_ready : Bool) : Bool :=
  p.dataflit0l.vld && ping_pong_ready && p.outportid_data = PORT && p.port_sm = .DFLIT0

/-- The last 64 bytes are forwarded. -/
def fwdData1 (PORT : BitVec 2) (ping_pong_ready : Bool) : Bool :=
  p.dataflit1l.vld && ping_pong_ready && p.outportid_data = PORT && p.port_sm = .DFLIT1

/-- `route_in_tready`: the register that the input state machine points at is empty, or its
content is forwarded in this cycle. -/
def tready (c d0 d1 : Bool) : Bool :=
  match p.portin_sm with
  | .PORT_CMD => !p.cmdflit.vld || c
  | .PORT_DATA0_H => !p.dataflit0h.vld || d0
  | .PORT_DATA0_L => !p.dataflit0l.vld || d0
  | .PORT_DATA1_H => !p.dataflit1h.vld || d1
  | .PORT_DATA1_L => !p.dataflit1l.vld || d1

/-- The input state machine after a flit has been accepted. -/
def nextPortin (tdata : Flit) : PortinSm :=
  match p.portin_sm with
  | .PORT_CMD => if isRespROKIn tdata then .PORT_DATA0_H else .PORT_CMD
  | .PORT_DATA0_H => .PORT_DATA0_L
  | .PORT_DATA0_L => .PORT_DATA1_H
  | .PORT_DATA1_H => .PORT_DATA1_L
  | .PORT_DATA1_L => .PORT_CMD

/-- The output state machine and `outportid_data`. -/
def nextPort (PORT : BitVec 2) (ping_pong_ready c : Bool) : PortSm × BitVec 2 :=
  match p.port_sm with
  | .CMD => if c && isRespROK p.cmdflit.q then (.DFLIT0, PORT) else (.CMD, p.outportid_data)
  | .DFLIT0 =>
      if p.outportid_data = PORT ∧ ping_pong_ready ∧ p.dataflit0h.vld ∧ p.dataflit0l.vld then
        (.DFLIT1, p.outportid_data)
      else (.DFLIT0, p.outportid_data)
  | .DFLIT1 =>
      if p.outportid_data = PORT ∧ ping_pong_ready ∧ p.dataflit1h.vld ∧ p.dataflit1l.vld then
        (.CMD, 0)
      else (.DFLIT1, p.outportid_data)

/-- One cycle of the registers of a port. -/
def step (PORT outportid_cmd other_data : BitVec 2) (ping_pong_ready tvalid : Bool)
    (tdata : Flit) : PortRegs :=
  let c := p.fwdCmd PORT outportid_cmd other_data ping_pong_ready
  let d0 := p.fwdData0 PORT ping_pong_ready
  let d1 := p.fwdData1 PORT ping_pong_ready
  { cmdflit := p.cmdflit.next
      (tvalid && p.portin_sm = .PORT_CMD && (!p.cmdflit.vld || c)) c (.transcode tdata)
    dataflit0h := p.dataflit0h.next
      (tvalid && p.portin_sm = .PORT_DATA0_H && (!p.dataflit0h.vld || d0)) d0 tdata
    dataflit0l := p.dataflit0l.next
      (tvalid && p.portin_sm = .PORT_DATA0_L && (!p.dataflit0l.vld || d0)) d0 tdata
    dataflit1h := p.dataflit1h.next
      (tvalid && p.portin_sm = .PORT_DATA1_H && (!p.dataflit1h.vld || d1)) d1 tdata
    dataflit1l := p.dataflit1l.next
      (tvalid && p.portin_sm = .PORT_DATA1_L && (!p.dataflit1l.vld || d1)) d1 tdata
    portin_sm := if tvalid && p.tready c d0 d1 then p.nextPortin tdata else p.portin_sm
    port_sm := (p.nextPort PORT ping_pong_ready c).1
    outportid_data := (p.nextPort PORT ping_pong_ready c).2 }

end PortRegs

/-! ## The ping-pong buffer -/

/-- `route_out_tdata`; the pad bits and `NUM_FLITS` are never written. -/
structure RespFlit where
  respvalid : Bool := false
  datavalid : Bool := false
  hdr : RespHdr := ⟨0, 0, 0, 0, 0⟩
  bdi : Bool := false
  data : BitVec 512 := 0
  deriving DecidableEq, Repr

namespace RespFlit

/-- A command is forwarded. -/
def setCmd (h : RespHdr) (o : RespFlit) : RespFlit :=
  { o with hdr := h, bdi := false, respvalid := true, datavalid := false }

/-- The first 64 bytes join the header that is in the slot already. -/
def setData0 (h l : Flit) (o : RespFlit) : RespFlit :=
  { o with datavalid := true, data := (h ++ l : BitVec 512) }

/-- The last 64 bytes have a slot of their own. -/
def setData1 (h l : Flit) (o : RespFlit) : RespFlit :=
  { o with datavalid := true, respvalid := false, data := (h ++ l : BitVec 512) }

end RespFlit

/-- `outdata_ping`, `outdata_pong` and the two turns. -/
structure PingPong where
  ping : Stage RespFlit := ⟨{}, false⟩
  pong : Stage RespFlit := ⟨{}, false⟩
  ping_pong_w : Bool := false
  ping_pong_r : Bool := false
  deriving DecidableEq, Repr

namespace PingPong

variable (o : PingPong)

def ready : Bool := !o.ping.vld || !o.pong.vld

def tdata : RespFlit := if o.ping_pong_r then o.pong.q else o.ping.q

def tvalid : Bool := if o.ping_pong_r then o.pong.vld else o.ping.vld

/-- `ping_pong_r`. -/
def nextR (tready : Bool) : Bool :=
  if !o.ping_pong_r && o.ping.vld && tready then true
  else if o.ping_pong_r && o.pong.vld && tready then false
  else o.ping_pong_r

/-- A forward: the slot of the write turn is updated and is valid or not, the other one may be
going out. -/
def write (upd : RespFlit → RespFlit) (vld tready : Bool) : PingPong where
  ping := if o.ping_pong_w then ⟨o.ping.q, o.ping.vld && (o.ping.vld ^^ tready)⟩
    else ⟨upd o.ping.q, vld⟩
  pong := if o.ping_pong_w then ⟨upd o.pong.q, vld⟩
    else ⟨o.pong.q, o.pong.vld && (o.pong.vld ^^ tready)⟩
  ping_pong_w := if vld then !o.ping_pong_w else o.ping_pong_w
  ping_pong_r := o.nextR tready

/-- Nothing is forwarded. -/
def hold (tready : Bool) : PingPong where
  ping := ⟨o.ping.q, if o.ping_pong_r then o.ping.vld else o.ping.vld && (o.ping.vld ^^ tready)⟩
  pong := ⟨o.pong.q, if o.ping_pong_r then o.pong.vld && (o.pong.vld ^^ tready) else o.pong.vld⟩
  ping_pong_w := o.ping_pong_w
  ping_pong_r := o.nextR tready

end PingPong

/-! ## The module -/

structure ComputeIngress where
  ports : Port → PortRegs := fun _ => {}
  masked_req_vector : BitVec 2 := 0
  out : PingPong := {}

/-- The wires of one cycle. -/
structure ComputeIngressIn where
  route_in_tdata : Port → Flit
  route_in_tvalid : Port → Bool
  route_out_tready : Bool

namespace ComputeIngress

variable (s : ComputeIngress)

/-- `arb_req`. -/
def arb_req : BitVec 2 :=
  BitVec.ofBool (s.ports .port1).cmdflit.vld ++ BitVec.ofBool (s.ports .port0).cmdflit.vld

/-- `outportid_cmd`, the selection of the arbiter. -/
def outportid_cmd : BitVec 2 := arbSelected s.masked_req_vector s.arb_req

def fwdCmd (p : Port) : Bool :=
  (s.ports p).fwdCmd p.id s.outportid_cmd (s.ports p.other).outportid_data s.out.ready

def fwdData0 (p : Port) : Bool := (s.ports p).fwdData0 p.id s.out.ready

def fwdData1 (p : Port) : Bool := (s.ports p).fwdData1 p.id s.out.ready

/-- `arb_req_nxt`. -/
def arb_req_nxt : Bool := s.fwdCmd .port0 || s.fwdCmd .port1

def route_in_tready (p : Port) : Bool :=
  (s.ports p).tready (s.fwdCmd p) (s.fwdData0 p) (s.fwdData1 p)

/-- The buffer after a cycle: the three forwards of port 0, then those of port 1. -/
def nextOut (tready : Bool) : PingPong :=
  let p0 := s.ports .port0
  let p1 := s.ports .port1
  if s.fwdCmd .port0 then s.out.write (.setCmd p0.cmdflit.q) (!isRespROK p0.cmdflit.q) tready
  else if s.fwdData0 .port0 then
    s.out.write (.setData0 p0.dataflit0h.q p0.dataflit0l.q) true tready
  else if s.fwdData1 .port0 then
    s.out.write (.setData1 p0.dataflit1h.q p0.dataflit1l.q) true tready
  else if s.fwdCmd .port1 then
    s.out.write (.setCmd p1.cmdflit.q) (!isRespROK p1.cmdflit.q) tready
  else if s.fwdData0 .port1 then
    s.out.write (.setData0 p1.dataflit0h.q p1.dataflit0l.q) true tready
  else if s.fwdData1 .port1 then
    s.out.write (.setData1 p1.dataflit1h.q p1.dataflit1l.q) true tready
  else s.out.hold tready

def step (i : ComputeIngressIn) : ComputeIngress where
  ports := fun p =>
    (s.ports p).step p.id s.outportid_cmd (s.ports p.other).outportid_data s.out.ready
      (i.route_in_tvalid p) (i.route_in_tdata p)
  masked_req_vector := arbStep s.masked_req_vector s.arb_req s.arb_req_nxt
  out := s.nextOut i.route_out_tready

end ComputeIngress

end ThymesisFlow
