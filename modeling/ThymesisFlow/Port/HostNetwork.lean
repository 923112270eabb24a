import ThymesisFlow.Afu.CommandCarried
import ThymesisFlow.Memory.CmdIssue
import ThymesisFlow.Memory.IngressBeats
import ThymesisFlow.Port.CrossingDelivers

/-!
# From the host to the memory of the other node

The whole way of a command of the host: the command path of its node up to the routing egress
(`CmdPath`), the two ports with their link layers and the routing ingress of the memory node
(`Crossing`), and the memory ingress there with its lookup BRAMs (`LookupIngress`), which masters the
command to the TLX.  The two nodes have clocks of their own, and so have the serdes of each port.
-/

namespace ThymesisFlow

structure HostNetwork where
  host : CmdPath := {}
  crossing : Crossing := {}
  memory : LookupIngress := {}

/-- A cycle of the host's node, of the memory node, or of a user clock. -/
inductive HostNetworkMove
  | host (h : HostPathIn) (i : Port → NodeXIn)
  | memory (i : Port → NodeYIn) (reset : Bool) (w : MemoryIngressIn)
  | usrX (p : Port) (u : UsrIn)
  | usrY (p : Port) (u : UsrIn)

namespace HostNetwork

variable (cfg : AcsConfig) (regs : Fin 12 → BitVec 64) (s : HostNetwork)

/-- The backpressure egress of port `p` behind the routing egress. -/
def tickX (i : Port → NodeXIn) (p : Port) : TickIn := (i p).tick (s.host.egress.ports p).out

/-- The memory ingress behind the routing ingress. -/
def memoryIn (w : MemoryIngressIn) : MemoryIngressIn :=
  { w with
    netflit_in_tdata := s.crossing.routing.out.tdata
    netflit_in_tvalid := s.crossing.routing.out.tvalid }

/-- What a move is to the host's node. -/
def hostMoves : HostNetworkMove → List CmdPathIn
  | .host h i => [⟨h, fun p => s.crossing.tready (s.tickX i p) p⟩]
  | _ => []

/-- What a move is to the crossing. -/
def crossingMove : HostNetworkMove → CrossingMove
  | .host _ i => .x (s.tickX i)
  | .memory i reset w => .y i reset (s.memory.ingress.netflit_in_tready (s.memoryIn w))
  | .usrX p u => .usrX p u
  | .usrY p u => .usrY p u

/-- What a move is to the memory ingress. -/
def memoryMoves : HostNetworkMove → List MemoryIngressIn
  | .memory _ _ w => [s.memoryIn w]
  | _ => []

def step (m : HostNetworkMove) : HostNetwork where
  host := (s.hostMoves m).foldl (CmdPath.step cfg regs) s.host
  crossing := s.crossing.step (s.crossingMove m)
  memory := (s.memoryMoves m).foldl LookupIngress.step s.memory

/-- **The conditions on a move**: the host sends reads and writes of two flits, the lanes meet their
conditions, and the memory ingress stays enabled. -/
structure StepOk (m : HostNetworkMove) : Prop where
  host : ∀ i ∈ s.hostMoves m, CarryOk cfg s.host i
  crossing : s.crossing.StepOk (s.crossingMove m)
  memory : ∀ i ∈ s.memoryMoves m, StaysEnabled s.memory i

instance (m : HostNetworkMove) : Decidable (s.StepOk cfg m) :=
  decidable_of_iff ((∀ i ∈ s.hostMoves m, CarryOk cfg s.host i)
      ∧ s.crossing.StepOk (s.crossingMove m) ∧ ∀ i ∈ s.memoryMoves m, StaysEnabled s.memory i)
    ⟨fun ⟨h1, h2, h3⟩ => ⟨h1, h2, h3⟩, fun ⟨h1, h2, h3⟩ => ⟨h1, h2, h3⟩⟩

/-! ### What is observed in a move -/

/-- The commands that enter the host's command FIFO. -/
def accepted (m : HostNetworkMove) : List HostTxn := (s.hostMoves m).flatMap s.host.accepted

/-- The flits of the retry path that the memory ingress takes. -/
def retried (m : HostNetworkMove) : List Flit512 :=
  (s.memoryMoves m).flatMap s.memory.ingress.rtyTaken

/-- The commands and the data handed to the TLX. -/
def issued (m : HostNetworkMove) : List (BitVec 200) := (s.memoryMoves m).flatMap s.memory.ingress.issued

def issuedData (m : HostNetworkMove) : List (BitVec 520) :=
  (s.memoryMoves m).flatMap s.memory.ingress.issuedData

end HostNetwork

/-- The two nodes from their reset on; the configuration registers of the host's node hold `regs`. -/
def hostNetwork (cfg : AcsConfig) (regs : Fin 12 → BitVec 64) : Machine HostNetwork HostNetworkMove where
  init := {}
  step := HostNetwork.step cfg regs

/-! ## What is expected at the other end -/

/-- The transactions for the port `p`; the turns alternate from one command to the next. -/
def netTxnsOn (p : Port) : Port → List NetTxn → List NetTxn
  | _, [] => []
  | turn, t :: ts =>
      if netPort turn t.cmd = p then t :: netTxnsOn p turn.other ts else netTxnsOn p turn.other ts

/-- **A command of the host, as the memory node issues it**: with a tag of the memory node and with its
own operation, address, lengths, byte enables and data.  Its own tag, and the port it came in at, are in
the record that is kept for the response. -/
structure IssuedAs (y : Port × NetTxn) (x : IngressTxn) : Prop where
  opcode : (AfuTlxCmd.ofEntry x.cmd).opcode = y.2.cmd.opcode
  ea_or_obj : (AfuTlxCmd.ofEntry x.cmd).ea_or_obj = y.2.cmd.ea
  dl : (AfuTlxCmd.ofEntry x.cmd).dl = y.2.cmd.dl
  pl : (AfuTlxCmd.ofEntry x.cmd).pl = y.2.cmd.pl
  be : (AfuTlxCmd.ofEntry x.cmd).be = y.2.cmd.be
  afutag : (AfuTlxCmd.ofEntry x.cmd).afutag = x.tag
  capptag : field x.record 111 16 = y.2.cmd.tag
  netid : field x.record 0 2 = y.1.id
  data : x.data <+: y.2.data
  size : x.size = y.2.data.length

/-- The acTag that a move has to assign: it is that of a cycle of the memory node that is enabled. -/
def HostNetworkMove.actag : HostNetworkMove → Option (BitVec 12)
  | .memory _ _ w => w.actag
  | _ => none

/-- **What a run has carried from the host to the TLX of the memory node.**  The commands that have gone
to the TLX are the assignment of the acTag and, behind it, those of the transactions `txns`, with their
data; a transaction ends before the next one begins.  Those that are not retried are the first of an
interleaving of the host's commands, each port's in order. -/
structure HostCommandsIssued (cfg : AcsConfig) (regs : Fin 12 → BitVec 64) (ms : List HostNetworkMove)
    (first : List (BitVec 200)) (txns : List IngressTxn) : Prop where
  start : first = assigned HostNetworkMove.actag ms ∧ (first = [] → txns = [])
  order : ∃ m m', Interleave
      ((netTxnsOn .port0 .port0 (((hostNetwork cfg regs).collect HostNetwork.accepted ms).map
        (HostTxn.net regs))).map (Prod.mk .port0))
      ((netTxnsOn .port1 .port0 (((hostNetwork cfg regs).collect HostNetwork.accepted ms).map
        (HostTxn.net regs))).map (Prod.mk .port1)) m
    ∧ m' <+: m ∧ List.Forall₂ IssuedAs m' (txns.filter (·.fresh))
  retried : (hostNetwork cfg regs).collect HostNetwork.retried ms
    = (txns.filter (!·.fresh)).flatMap IngressTxn.words
  whole : ∀ x ∈ txns.dropLast, x.Whole
  cmds : (hostNetwork cfg regs).collect HostNetwork.issued ms
      ++ ((hostNetwork cfg regs).run ms).memory.ingress.held = first ++ txns.map IngressTxn.cmd
  data : (hostNetwork cfg regs).collect HostNetwork.issuedData ms
      ++ ((hostNetwork cfg regs).run ms).memory.ingress.heldData
    = txns.flatMap fun x => x.data.map tlxData
  kept : ∀ row x, latest txns row = some x →
    ((hostNetwork cfg regs).run ms).memory.storeCmd row = x.record

end ThymesisFlow
