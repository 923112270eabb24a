import ThymesisFlow.Llc.ExactlyOnce
import ThymesisFlow.Llc.NopPadding
import ThymesisFlow.Port.CreditLoop

/-!
# A port with its link layer

What lies between the backpressure modules of two nodes in `thymesisflow_top`: the clock domain
crossing FIFO in front of the LLC, its egress driver, the lane from its framer to the parser at the
other end, the ingress driver there, and the FIFO behind it (`LlcPath`).  A node ticks with the AFU
clock (`.x`, `.y`), its LLC with the user clock of the serdes (`.usrX`, `.usrY`).

`LlcPath.toLink` reads off a path the lossless link that the credit scheme is stated over.
-/

namespace ThymesisFlow

/-! ## One direction -/

structure LlcPath where
  egress_fifo : List Flit := []
  egr : LlcEgressDriver := {}
  lane : Lane := {}
  igr : LlcIngressDriver := {}
  ingress_fifo : List Flit := []

/-- What the surroundings of an LLC choose in a cycle of its clock.  The FIFO in front of it may show
its head late. -/
structure UsrIn where
  egress_fifo_present : Bool := true
  serdes_tx_tready : Bool := true
  serdes_rx_tvalid : Bool := true
  serdes_rx_crc_ok : Bool := true

/-- The flits in the stages of the egress driver, oldest first. -/
def LlcEgressDriver.stages (s : LlcEgressDriver) : List Flit :=
  s.out.items ++ if s.outdata_s1_vld then [s.outdata_s1] else []

/-- The flit in the register of the ingress driver. -/
def LlcIngressDriver.held (s : LlcIngressDriver) : List Flit :=
  if s.outdata_vld then [s.outdata_q] else []

namespace LlcPath

variable (p : LlcPath) (u : UsrIn)

/-- `TF_32B_DRIVER_EGR` -/
def egressIn : DriverIn where
  driver_in_tdata := p.egress_fifo.headD 0
  driver_in_tvalid := u.egress_fifo_present && !p.egress_fifo.isEmpty
  driver_out_tready := p.lane.tx.framer.fifoInTready

/-- The framer behind the egress driver. -/
def endIn : EndIn where
  fifo_in_tdata := p.egr.out.tdata
  fifo_in_tvalid := p.egr.out.tvalid
  fifo_out_tready := u.serdes_tx_tready
  serdes_rx_tvalid := u.serdes_rx_tvalid
  serdes_rx_crc_ok := u.serdes_rx_crc_ok

/-- `TF_32B_DRIVER_IGR`; the FIFO behind it is ready while it is not full. -/
def ingressIn : DriverIn where
  driver_in_tdata := p.lane.rx.fifoOutTdata
  driver_in_tvalid := p.lane.rx.fifoOutTvalid
  driver_out_tready := decide (p.ingress_fifo.length < ingressFifoDepth)

/-- A cycle of the sending LLC, whose own parser is `rx`. -/
def send (rx : Parser) : LlcPath :=
  { p with
    egress_fifo := p.egress_fifo.drop (p.egr.accepted (p.egressIn u)).length
    egr := p.egr.step (p.egressIn u)
    lane := p.lane.send ((p.endIn u).framerIn rx) }

/-- A cycle of the receiving LLC. -/
def receive : LlcPath :=
  { p with
    lane := p.lane.receive u.serdes_rx_tvalid u.serdes_rx_crc_ok
    igr := p.igr.step p.ingressIn
    ingress_fifo := p.ingress_fifo ++ p.igr.emitted p.ingressIn }

/-- The flits on their way, without the NOPs, and those that have arrived. -/
def toLink : Link where
  wire := p.igr.held
    ++ nopPadding.strip p.igr.phase (p.lane.accepted.drop p.lane.emitted.length ++ p.egr.stages)
    ++ p.egress_fifo
  fifo := p.ingress_fifo

def push (fs : List Flit) : LlcPath := { p with egress_fifo := p.egress_fifo ++ fs }

def pop (fs : List Flit) : LlcPath := { p with ingress_fifo := p.ingress_fifo.drop fs.length }

end LlcPath

/-! ## Two nodes -/

structure PortLine where
  x : PortNode := {}
  y : PortNode := {}
  xy : LlcPath := {}
  yx : LlcPath := {}

inductive LineMove
  | x (t : TickIn)
  | y (t : TickIn)
  | usrX (u : UsrIn)
  | usrY (u : UsrIn)

namespace PortLine

variable (s : PortLine)

/-- The wires of node X in a tick. -/
def wiresX (t : TickIn) : PortNodeIn := t.wires { fifo := s.yx.ingress_fifo }

def wiresY (t : TickIn) : PortNodeIn := t.wires { fifo := s.xy.ingress_fifo }

def step : LineMove → PortLine
  | .x t =>
      { s with
        x := s.x.step (s.wiresX t)
        xy := s.xy.push (s.x.handsOver (s.wiresX t))
        yx := s.yx.pop (PortNode.receives (s.wiresX t)) }
  | .y t =>
      { s with
        y := s.y.step (s.wiresY t)
        yx := s.yx.push (s.y.handsOver (s.wiresY t))
        xy := s.xy.pop (PortNode.receives (s.wiresY t)) }
  | .usrX u => { s with xy := s.xy.send u s.yx.lane.rx, yx := s.yx.receive u }
  | .usrY u => { s with yx := s.yx.send u s.xy.lane.rx, xy := s.xy.receive u }

/-- The flits node X's egress accepts in a move, as it stores them. -/
def sentX : LineMove → List Flit
  | .x t => s.x.accepts (s.wiresX t)
  | _ => []

def sentY : LineMove → List Flit
  | .y t => s.y.accepts (s.wiresY t)
  | _ => []

/-- The flits node X's ingress accepts in a move. -/
def recvX : LineMove → List Flit
  | .x t => PortNode.receives (s.wiresX t)
  | _ => []

def recvY : LineMove → List Flit
  | .y t => PortNode.receives (s.wiresY t)
  | _ => []

/-- No command that is offered to an egress is a NOP of the link layer, and the lanes meet their
conditions. -/
def StepOk : LineMove → Prop
  | .x t => t.tx_tvalid = true → s.x.egr.phase.isCmd = true → isNopCmd t.tx_tdata = false
  | .y t => t.tx_tvalid = true → s.y.egr.phase.isCmd = true → isNopCmd t.tx_tdata = false
  | .usrX u => s.xy.lane.SendOk ((s.xy.endIn u).framerIn s.yx.lane.rx)
  | .usrY u => s.yx.lane.SendOk ((s.yx.endIn u).framerIn s.xy.lane.rx)

instance : ∀ m : LineMove, Decidable (s.StepOk m)
  | .x t => inferInstanceAs (Decidable (t.tx_tvalid = true → _))
  | .y t => inferInstanceAs (Decidable (t.tx_tvalid = true → _))
  | .usrX _ => inferInstanceAs (Decidable (s.xy.lane.SendOk _))
  | .usrY _ => inferInstanceAs (Decidable (s.yx.lane.SendOk _))

/-- The state that the credit scheme is stated over. -/
def toLoop : Loop where
  x := s.x
  y := s.y
  xy := s.xy.toLink
  yx := s.yx.toLink

/-- What a move is to the credit scheme: a cycle of an LLC carries a flit if its ingress driver hands
one over. -/
def loopMoves : LineMove → List LoopMove
  | .x t => [.x t]
  | .y t => [.y t]
  | .usrX _ => (s.yx.igr.emitted s.yx.ingressIn).map fun _ => .carryYX
  | .usrY _ => (s.xy.igr.emitted s.xy.ingressIn).map fun _ => .carryXY

end PortLine

/-- Two ports from their reset on. -/
def portLine : Machine PortLine LineMove := ⟨{}, PortLine.step⟩

end ThymesisFlow
