import ThymesisFlow.Port.Answers
import ThymesisFlow.Port.HostIssued

/-!
# Two nodes

A compute node and a memory node, with the two ports between them.  The commands of the host go the way
of `HostNetwork`; the memory node issues them, the memory's host answers, and the answers come back
through the routing egress of the memory node, the same ports, and the routing ingress of the compute
node.  The two nodes have clocks of their own, so have the serdes of each port, and the engines of the
memory node and its host move on their own.

A run is seen by each part as a run of its own: the commands make a run of `hostNetwork`
(`network_run`), the memory node one of `memNode` (`node_run`) and the ports one of `crossingMachine`
(`crossing_run`).
-/

namespace ThymesisFlow

/-- What the serdes of a port choose in a tick. -/
structure LinkIn where
  link_tready : Bool := true
  rx_present : Bool := true

/-- The moves of the memory node besides the cycles of its ingress. -/
inductive EngineMove
  | load
  | resp (enable : Bool)
  | rty
  | answer (r : TlResp) (data : List OCxFlit) (more : Bool)
  | deliver

def EngineMove.node : EngineMove → NodeMove
  | .load => .load
  | .resp enable => .resp enable
  | .rty => .rty
  | .answer r data more => .answer r data more
  | .deliver => .deliver

/-- `answers` is the routing egress of the memory node with the stream `net_resp_out` in front of it,
and `compute` the routing ingress of the compute node. -/
structure TwoNodes where
  host : CmdPath := {}
  crossing : Crossing := {}
  node : MemNode := {}
  answers : EgressFeed := { stream := [] }
  compute : ComputeIngress := {}

/-- A cycle of the compute node, one of the memory node, a move of its engines or of its host, or a
cycle of a user clock. -/
inductive TwoNodesMove
  | compute (h : HostPathIn) (i : Port → LinkIn) (route_out_tready : Bool)
  | memory (i : Port → LinkIn) (reset : Bool) (w : NodeWires) (offer : Bool) (idle : Flit512)
  | engine (m : EngineMove)
  | usrX (p : Port) (u : UsrIn)
  | usrY (p : Port) (u : UsrIn)

/-- An answer of the host in one part, with two flits of data or none, and no failed write. -/
def WholeParts (e : HostEntry) (r : TlResp) (more : Bool) : Prop :=
  SingleParts e r more ∧ (r.kind = some .readOk → r.dl = 2)
    ∧ (r.kind = some .fail → r.opcode = TL_RD_RESPFAIL)

instance (e : HostEntry) (r : TlResp) (more : Bool) : Decidable (WholeParts e r more) :=
  inferInstanceAs (Decidable (_ ∧ _))

namespace TwoNodes

variable (cfg : AcsConfig) (regs : Fin 12 → BitVec 64) (s : TwoNodes)

/-! ## The wires -/

/-- The two nodes without the way back. -/
def network : HostNetwork := ⟨s.host, s.crossing, s.node.lookup⟩

/-- The ports of the compute node behind the routing ingress. -/
def nodeX (i : Port → LinkIn) (p : Port) : NodeXIn where
  link_tready := (i p).link_tready
  rx_present := (i p).rx_present
  rx_tready := s.compute.route_in_tready p

/-- The ports of the memory node behind the routing egress. -/
def nodeY (i : Port → LinkIn) (p : Port) : NodeYIn where
  tx_tdata := (s.answers.egress.ports p).out.tdata
  tx_tvalid := (s.answers.egress.ports p).out.tvalid
  link_tready := (i p).link_tready
  rx_present := (i p).rx_present

/-- The backpressure egress of port `p` of the compute node behind the routing egress. -/
def tickX (i : Port → LinkIn) (p : Port) : TickIn := s.network.tickX (s.nodeX i) p

/-- The command path in front of the two ports. -/
def hostIn (h : HostPathIn) (i : Port → LinkIn) : CmdPathIn :=
  ⟨h, fun p => s.crossing.tready (s.tickX i p) p⟩

/-- The memory ingress behind the routing ingress. -/
def nodeWires (w : NodeWires) : NodeWires :=
  { w with
    netflit_in_tdata := s.crossing.routing.out.tdata
    netflit_in_tvalid := s.crossing.routing.out.tvalid }

/-- The routing egress of the memory node in front of the two ports. -/
def answersIn (i : Port → LinkIn) (offer : Bool) (idle : Flit512) : EgressFeedIn where
  offer := offer
  idle := idle
  egr_route_out_tready p := BckpressureEgress.bckprInTready
    ((s.crossing.line p).y.egrIn ((s.crossing.line p).wiresY (s.crossing.tickY p (s.nodeY i))))

def computeIn (route_out_tready : Bool) : ComputeIngressIn where
  route_in_tdata p := (s.crossing.line p).x.igr.outdata_q
  route_in_tvalid p := (s.crossing.line p).x.igr.outdata_vld
  route_out_tready := route_out_tready

/-! ## One move -/

/-- What a move is to the two nodes without the way back. -/
def networkMoves : TwoNodesMove → List HostNetworkMove
  | .compute h i _ => [.host h (s.nodeX i)]
  | .memory i reset w _ _ => [.memory (s.nodeY i) reset (s.node.ingressWires (s.nodeWires w))]
  | .engine _ => []
  | .usrX p u => [.usrX p u]
  | .usrY p u => [.usrY p u]

/-- What a move is to the ports. -/
def crossingMoves : TwoNodesMove → List CrossingMove
  | .compute _ i _ => [.x (s.tickX i)]
  | .memory i reset w _ _ =>
      [.y (s.nodeY i) reset (s.node.ingress.netflit_in_tready (s.node.ingressWires (s.nodeWires w)))]
  | .engine _ => []
  | .usrX p u => [.usrX p u]
  | .usrY p u => [.usrY p u]

/-- What a move is to the memory node. -/
def nodeMoves : TwoNodesMove → List NodeMove
  | .memory _ _ w _ _ => [.clock (s.nodeWires w)]
  | .engine m => [m.node]
  | _ => []

def step : TwoNodesMove → TwoNodes
  | .compute h i route_out_tready =>
      { s with
        host := s.host.step cfg regs (s.hostIn h i)
        crossing := s.crossing.step (.x (s.tickX i))
        compute := s.compute.step (s.computeIn route_out_tready) }
  | .memory i reset w offer idle =>
      let wires := s.nodeWires w
      { s with
        crossing := s.crossing.step
          (.y (s.nodeY i) reset (s.node.ingress.netflit_in_tready (s.node.ingressWires wires)))
        node := s.node.step (.clock wires)
        answers := s.answers.step (s.answersIn i offer idle) }
  | .engine m =>
      { s with
        node := s.node.step m.node
        answers := s.answers.append (s.node.netOut m.node) }
  | .usrX p u => { s with crossing := s.crossing.step (.usrX p u) }
  | .usrY p u => { s with crossing := s.crossing.step (.usrY p u) }

/-- **The conditions on a move**: the host sends reads and writes of two flits, the memory ingress stays
enabled, the memory's host answers the commands that it has been given, in one part, and the lanes meet
their conditions. -/
def StepOk : TwoNodesMove → Prop
  | .compute h i _ => CarryOk cfg s.host (s.hostIn h i)
  | .memory _ _ w _ _ => s.node.ingress.smstate ≠ .INIT → w.enable = true
  | .engine m => NodeOk WholeParts s.node m.node
  | .usrX p u => (s.crossing.line p).StepOk (.usrX u)
  | .usrY p u => (s.crossing.line p).StepOk (.usrY u)

instance : ∀ m : TwoNodesMove, Decidable (s.StepOk cfg m)
  | .compute h i _ => inferInstanceAs (Decidable (CarryOk cfg s.host (s.hostIn h i)))
  | .memory _ _ w _ _ => inferInstanceAs (Decidable (s.node.ingress.smstate ≠ .INIT → w.enable = true))
  | .engine m => inferInstanceAs (Decidable (NodeOk WholeParts s.node m.node))
  | .usrX p u => inferInstanceAs (Decidable ((s.crossing.line p).StepOk (.usrX u)))
  | .usrY p u => inferInstanceAs (Decidable ((s.crossing.line p).StepOk (.usrY u)))

/-! ### What is observed in a move -/

/-- The commands that enter the host's command FIFO. -/
def accepted : TwoNodesMove → List HostTxn
  | .compute h i _ => s.host.accepted (s.hostIn h i)
  | _ => []

/-- What is observed of the memory ingress. -/
def seen {α : Type} (f : MemoryIngress → MemoryIngressIn → List α) : TwoNodesMove → List α
  | .memory _ _ w _ _ => f s.node.ingress (s.node.ingressWires (s.nodeWires w))
  | _ => []

/-- The commands handed to the TLX of the memory node. -/
def issued : TwoNodesMove → List (BitVec 200) := s.seen MemoryIngress.issued

/-- Their data. -/
def issuedData : TwoNodesMove → List (BitVec 520) := s.seen MemoryIngress.issuedData

/-- The flits of the retry path that the memory ingress takes. -/
def retried : TwoNodesMove → List Flit512 := s.seen MemoryIngress.rtyTaken

/-- The response of the memory's host in a move, with its data. -/
def said : TwoNodesMove → List (TlResp × List OCxFlit)
  | .engine m => s.node.said m.node
  | _ => []

/-- The beats handed to the host of the compute node. -/
def handed : TwoNodesMove → List RespFlit
  | .compute _ _ route_out_tready =>
      if s.compute.out.tvalid && route_out_tready then [s.compute.out.tdata] else []
  | _ => []

end TwoNodes

/-- The two nodes from their reset on; the configuration registers of the compute node hold `regs`. -/
def twoNodes (cfg : AcsConfig) (regs : Fin 12 → BitVec 64) : Machine TwoNodes TwoNodesMove where
  init := {}
  step := TwoNodes.step cfg regs

/-! ## The runs of the parts -/

namespace TwoNodes

variable (cfg : AcsConfig) (regs : Fin 12 → BitVec 64)

def networkRun (ms : List TwoNodesMove) : List HostNetworkMove :=
  (twoNodes cfg regs).collect networkMoves ms

def crossingRun (ms : List TwoNodesMove) : List CrossingMove :=
  (twoNodes cfg regs).collect crossingMoves ms

def nodeRun (ms : List TwoNodesMove) : List NodeMove := (twoNodes cfg regs).collect nodeMoves ms

variable {cfg regs}

lemma node_step (s : TwoNodes) (m : TwoNodesMove) :
    ((twoNodes cfg regs).step s m).node = memNode.runFrom s.node (s.nodeMoves m) := by
  cases m <;> rfl

lemma crossing_step (s : TwoNodes) (m : TwoNodesMove) :
    ((twoNodes cfg regs).step s m).crossing = crossingMachine.runFrom s.crossing (s.crossingMoves m) := by
  cases m <;> rfl

/-- Only a cycle of the memory ingress changes what the commands see of the memory node. -/
lemma lookup_engine (s : MemNode) (m : EngineMove) : (s.step m.node).lookup = s.lookup :=
  MemNode.lookup_other fun w => by cases m <;> exact fun h => by cases h

lemma network_step (s : TwoNodes) (m : TwoNodesMove) : ((twoNodes cfg regs).step s m).network
    = (hostNetwork cfg regs).runFrom s.network (s.networkMoves m) := by
  cases m with
  | compute h i tready | memory i reset w offer idle | usrX p u | usrY p u => rfl
  | engine m =>
      have hlookup := lookup_engine s.node m
      change (⟨s.host, s.crossing, (s.node.step m.node).lookup⟩ : HostNetwork) = s.network
      rw [hlookup]
      rfl

lemma network_run (ms : List TwoNodesMove) : ((twoNodes cfg regs).run ms).network
    = (hostNetwork cfg regs).run (networkRun cfg regs ms) :=
  (twoNodes cfg regs).projects (hostNetwork cfg regs) network rfl network_step ms

lemma node_run (ms : List TwoNodesMove) :
    ((twoNodes cfg regs).run ms).node = memNode.run (nodeRun cfg regs ms) :=
  (twoNodes cfg regs).projects memNode (fun s => s.node) rfl node_step ms

lemma crossing_run (ms : List TwoNodesMove) :
    ((twoNodes cfg regs).run ms).crossing = crossingMachine.run (crossingRun cfg regs ms) :=
  (twoNodes cfg regs).projects crossingMachine (fun s => s.crossing) rfl crossing_step ms

end TwoNodes

end ThymesisFlow
