import ThymesisFlow.Lib.SlotQueue
import ThymesisFlow.Lib.TwoSlot
import ThymesisFlow.Memory.OcxFlit
import ThymesisFlow.Routing.ComputeIngress

/-!
# The memory side of the routing layer, ingress

`thymesisflow_32B_64B_routing_memory_ingress`.  Two network ports deliver commands in 32 byte
flits; the module widens the data to 64 bytes, writes the arrival port into each command and hands
the commands of both ports over through one ping-pong buffer.

The two halves of the source are the same text with the port numbers exchanged, and the registers
are as on the compute side (`PortinSm`, `PortSm`), so `PortinSm` names the registers as well.
-/

namespace ThymesisFlow

/-- `is_writecmd`. -/
def isWriteCmd (f : Flit) : Bool := bit f 253

/-- What `cmdflit_q` is loaded with: the arrival port is the port of the response. -/
def stampPort (PORT : BitVec 2) (f : Flit) : Flit := setField f 35 PORT

/-- Bits 36:35 of a stamped command are the arrival port. -/
lemma field_stampPort (PORT : BitVec 2) (f : Flit) : field (stampPort PORT f) 35 2 = PORT :=
  field_setField_self f 35 PORT (by decide)

/-- All its other bits are those of the command. -/
lemma bit_stampPort (PORT : BitVec 2) (f : Flit) {i : ℕ} (h : i < 35 ∨ 37 ≤ i) :
    bit (stampPort PORT f) i = bit f i :=
  bit_setField_of_disjoint f 35 i PORT h

lemma field_stampPort_of_disjoint (PORT : BitVec 2) (f : Flit) {lo len : ℕ}
    (h : lo + len ≤ 35 ∨ 37 ≤ lo) : field (stampPort PORT f) lo len = field f lo len :=
  field_setField_of_disjoint f 35 lo PORT h

/-- The state machine of the input after the flit `f` has been accepted. -/
def PortinSm.next (sm : PortinSm) (f : Flit) : PortinSm :=
  match sm with
  | .PORT_CMD => if isWriteCmd f then .PORT_DATA0_H else .PORT_CMD
  | .PORT_DATA0_H => .PORT_DATA0_L
  | .PORT_DATA0_L => .PORT_DATA1_H
  | .PORT_DATA1_H => .PORT_DATA1_L
  | .PORT_DATA1_L => .PORT_CMD

/-- The registers of one port. -/
structure MemPort where
  regs : PortinSm → Stage Flit := fun _ => ⟨0, false⟩
  portin_sm : PortinSm := .PORT_CMD
  port_sm : PortSm := .CMD
  outportid_data : BitVec 2 := 0

namespace MemPort

variable (p : MemPort)

/-- The command is forwarded.  `other_data` is `outportid_data` of the other port. -/
def fwdCmd (PORT outportid_cmd other_data : BitVec 2) (ping_pong_ready : Bool) : Bool :=
  (p.regs .PORT_CMD).vld && ping_pong_ready && outportid_cmd = PORT && other_data = 0
    && p.port_sm = .CMD

/-- The first 64 bytes are forwarded. -/
def fwdData0 (PORT : BitVec 2) (ping_pong_ready : Bool) : Bool :=
  (p.regs .PORT_DATA0_L).vld && ping_pong_ready && p.outportid_data = PORT && p.port_sm = .DFLIT0

/-- The last 64 bytes are forwarded. -/
def fwdData1 (PORT : BitVec 2) (ping_pong_ready : Bool) : Bool :=
  (p.regs .PORT_DATA1_L).vld && ping_pong_ready && p.outportid_data = PORT && p.port_sm = .DFLIT1

/-- The content of the register `r` is forwarded. -/
def fwd (PORT outportid_cmd other_data : BitVec 2) (ping_pong_ready : Bool) : PortinSm → Bool
  | .PORT_CMD => p.fwdCmd PORT outportid_cmd other_data ping_pong_ready
  | .PORT_DATA0_H | .PORT_DATA0_L => p.fwdData0 PORT ping_pong_ready
  | .PORT_DATA1_H | .PORT_DATA1_L => p.fwdData1 PORT ping_pong_ready

/-- `route_in_tready`: the register that the input state machine points at is empty, or its
content is forwarded in this cycle. -/
def tready (fwd : PortinSm → Bool) : Bool := !(p.regs p.portin_sm).vld || fwd p.portin_sm

/-- The output state machine and `outportid_data`. -/
def nextPort (PORT : BitVec 2) (ping_pong_ready fwdCmd : Bool) : PortSm × BitVec 2 :=
  match p.port_sm with
  | .CMD =>
      if fwdCmd && isWriteCmd (p.regs .PORT_CMD).q then (.DFLIT0, PORT)
      else (.CMD, p.outportid_data)
  | .DFLIT0 =>
      if p.outportid_data = PORT ∧ ping_pong_ready ∧ (p.regs .PORT_DATA0_H).vld
          ∧ (p.regs .PORT_DATA0_L).vld then (.DFLIT1, p.outportid_data)
      else (.DFLIT0, p.outportid_data)
  | .DFLIT1 =>
      if p.outportid_data = PORT ∧ ping_pong_ready ∧ (p.regs .PORT_DATA1_H).vld
          ∧ (p.regs .PORT_DATA1_L).vld then (.CMD, 0)
      else (.DFLIT1, p.outportid_data)

/-- One cycle of the registers of a port. -/
def step (PORT outportid_cmd other_data : BitVec 2) (ping_pong_ready tvalid : Bool)
    (tdata : Flit) : MemPort :=
  let fwd := p.fwd PORT outportid_cmd other_data ping_pong_ready
  { regs := fun r => (p.regs r).next
      (tvalid && p.portin_sm = r && (!(p.regs r).vld || fwd r)) (fwd r)
      (if r = .PORT_CMD then stampPort PORT tdata else tdata)
    portin_sm := if tvalid && p.tready fwd then p.portin_sm.next tdata else p.portin_sm
    port_sm := (p.nextPort PORT ping_pong_ready (fwd .PORT_CMD)).1
    outportid_data := (p.nextPort PORT ping_pong_ready (fwd .PORT_CMD)).2 }

end MemPort

/-! ## The module -/

structure RoutingMemoryIngress where
  ports : Port → MemPort := fun _ => {}
  masked_req_vector : BitVec 2 := 0
  out : TwoSlot Flit512 := { ping := 0, pong := 0 }

/-- The wires of one cycle. -/
structure RoutingMemoryIngressIn where
  route_in_tdata : Port → Flit
  route_in_tvalid : Port → Bool
  route_out_tready : Bool

/-- A forward: the slot of the write turn is updated, the other one may be going out. -/
def pingPongWrite (o : TwoSlot Flit512) (upd : Flit512 → Flit512) (tready : Bool) :
    TwoSlot Flit512 where
  ping := if o.turn_w then o.ping else upd o.ping
  ping_vld := if o.turn_w then o.ping_vld && (o.ping_vld ^^ tready) else true
  pong := if o.turn_w then upd o.pong else o.pong
  pong_vld := if o.turn_w then true else o.pong_vld && (o.pong_vld ^^ tready)
  turn_w := !o.turn_w
  turn_r := o.nextR tready

/-- A command goes to the upper half of the slot. -/
def putCmdHalf (cmdflit : Flit) (slot : Flit512) : Flit512 := cmdflit ++ (field slot 0 256 : Flit)

/-- 64 bytes of data fill the slot. -/
def putData (h l : Flit) (_slot : Flit512) : Flit512 := h ++ l

namespace RoutingMemoryIngress

variable (s : RoutingMemoryIngress)

/-- `arb_req`. -/
def arb_req : BitVec 2 :=
  reqs ((s.ports .port0).regs .PORT_CMD).vld ((s.ports .port1).regs .PORT_CMD).vld

/-- `outportid_cmd`, the selection of the arbiter. -/
def outportid_cmd : BitVec 2 := arbSelected s.masked_req_vector s.arb_req

/-- The forwards of a port. -/
def fwd (p : Port) : PortinSm → Bool :=
  (s.ports p).fwd p.id s.outportid_cmd (s.ports p.other).outportid_data s.out.ready

/-- `arb_req_nxt`. -/
def arb_req_nxt : Bool := s.fwd .port0 .PORT_CMD || s.fwd .port1 .PORT_CMD

def route_in_tready (p : Port) : Bool := (s.ports p).tready (s.fwd p)

/-- What port `p` forwards, as an update of the slot of the write turn. -/
def forwards (p : Port) : Option (Flit512 → Flit512) :=
  let r := (s.ports p).regs
  if s.fwd p .PORT_CMD then some (putCmdHalf (r .PORT_CMD).q)
  else if s.fwd p .PORT_DATA0_L then some (putData (r .PORT_DATA0_H).q (r .PORT_DATA0_L).q)
  else if s.fwd p .PORT_DATA1_L then some (putData (r .PORT_DATA1_H).q (r .PORT_DATA1_L).q)
  else none

/-- The buffer after a cycle: the three forwards of port 0, then those of port 1. -/
def nextOut (tready : Bool) : TwoSlot Flit512 :=
  match s.forwards .port0 with
  | some upd => pingPongWrite s.out upd tready
  | none =>
      match s.forwards .port1 with
      | some upd => pingPongWrite s.out upd tready
      | none => s.out.hold tready

def step (i : RoutingMemoryIngressIn) : RoutingMemoryIngress where
  ports p :=
    (s.ports p).step p.id s.outportid_cmd (s.ports p.other).outportid_data s.out.ready
      (i.route_in_tvalid p) (i.route_in_tdata p)
  masked_req_vector := arbStep s.masked_req_vector s.arb_req s.arb_req_nxt
  out := s.nextOut i.route_out_tready

end RoutingMemoryIngress

end ThymesisFlow
