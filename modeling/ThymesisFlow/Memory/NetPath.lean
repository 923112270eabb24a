import ThymesisFlow.Lib.TwoRun
import ThymesisFlow.Memory.Ingress
import ThymesisFlow.Routing.Egress
import ThymesisFlow.Routing.MemoryIngress

/-!
# From the egress adapter to the memory ingress

The path of the network commands between the two nodes: the egress adapter and the routing egress
on one side, the routing ingress and the memory ingress on the other, and for each of the two
network ports a link that delivers in order after any delay.
-/

namespace ThymesisFlow

structure NetPath where
  adapter : EgressAdapter := {}
  egress : RoutingEgress := {}
  link : Port → List Flit := fun _ => []
  routing : RoutingMemoryIngress := {}
  ingress : MemoryIngress := {}

/-- The wires of one cycle.  A command is given by the command of the host and the configuration
register of its segment. -/
structure NetPathIn where
  cmd : Option (BitVec 64 × HostCmd)
  data : Option DataFlit
  sends : Port → Bool
  delivers : Port → Bool
  active_actag : BitVec 12
  capptag_fifo_tdata : BitVec 16
  capptag_fifo_tvalid : Bool
  rty_in_tdata : Flit512
  rty_in_tvalid : Bool
  enable : Bool
  tlx_cmd_tready : Bool
  tlx_data_tready : Bool

namespace NetPath

variable (s : NetPath) (i : NetPathIn)

/-- The row at the head of the network command FIFO. -/
def netCmd (i : NetPathIn) : Option NetCmd := i.cmd.map fun x => .ofHost x.1 x.2

def egressWires : RoutingEgressIn where
  egr_route_in_tdata := s.adapter.output_q
  egr_route_in_tvalid := s.adapter.output_q_vld
  egr_route_out_tready := i.sends

/-- The ready signal of the routing egress. -/
def adapter_out_tready : Bool := s.egress.egr_route_in_tready s.adapter.output_q

/-- The link of the port shows its oldest flit. -/
def linkValid (p : Port) : Bool := i.delivers p && !(s.link p).isEmpty

def ingressWires : MemoryIngressIn where
  active_actag := i.active_actag
  capptag_fifo_tdata := i.capptag_fifo_tdata
  capptag_fifo_tvalid := i.capptag_fifo_tvalid
  netflit_in_tdata := s.routing.out.tdata
  netflit_in_tvalid := s.routing.out.tvalid
  rty_in_tdata := i.rty_in_tdata
  rty_in_tvalid := i.rty_in_tvalid
  enable := i.enable
  tlx_cmd_tready := i.tlx_cmd_tready
  tlx_data_tready := i.tlx_data_tready

def routingWires : RoutingMemoryIngressIn where
  route_in_tdata p := (s.link p).headD 0
  route_in_tvalid := s.linkValid i
  route_out_tready := s.ingress.netflit_in_tready (s.ingressWires i)

def step : NetPath where
  adapter := s.adapter.step (netCmd i) i.data s.adapter_out_tready
  egress := s.egress.step (s.egressWires i)
  link p := (if s.linkValid i p && s.routing.route_in_tready p then (s.link p).tail else s.link p)
    ++ RoutingEgress.emitted p s.egress (s.egressWires i)
  routing := s.routing.step (s.routingWires i)
  ingress := s.ingress.step (s.ingressWires i)

/-- The command handed to the TLX in a cycle. -/
def issued (s : NetPath) (i : NetPathIn) : List (BitVec 200) := s.ingress.issued (s.ingressWires i)

/-- The record written to the command BRAM in a cycle. -/
def recorded (s : NetPath) (_ : NetPathIn) : List (BitVec 32 × BitVec 256) := s.ingress.recorded

end NetPath

/-- The path at reset. -/
def netPath : Machine NetPath NetPathIn where
  init := {}
  step := NetPath.step

/-! ## Two runs -/

/-- The same commands arrive with the same timing and tags; the data of the writes may differ.  On
the retry path a flit is a command while `smstate` is `RECEIVE_CMD`. -/
structure SameCommands (s : NetPath) (i j : NetPathIn) : Prop where
  cmd : i.cmd = j.cmd
  data : i.data.isSome = j.data.isSome
  sends : i.sends = j.sends
  delivers : i.delivers = j.delivers
  active_actag : i.active_actag = j.active_actag
  capptag_fifo_tdata : i.capptag_fifo_tdata = j.capptag_fifo_tdata
  capptag_fifo_tvalid : i.capptag_fifo_tvalid = j.capptag_fifo_tvalid
  rty_in_tdata : s.ingress.smstate = .RECEIVE_CMD → i.rty_in_tdata = j.rty_in_tdata
  rty_in_tvalid : i.rty_in_tvalid = j.rty_in_tvalid
  enable : i.enable = j.enable
  tlx_cmd_tready : i.tlx_cmd_tready = j.tlx_cmd_tready
  tlx_data_tready : i.tlx_data_tready = j.tlx_data_tready

/-- **The condition on a cycle of both runs.**  Writes have two data flits, and the memory ingress
stays enabled.  Where a command is taken, what is left of it in the output register of the adapter
is the same in both runs in the fields that the command does not fill and the memory ingress reads:
the stream id and the page size.  Where a command waits and the register is empty, so is the net id
in it, on which the ready signal depends. -/
structure NoResidue (s t : NetPath) (i : NetPathIn) : Prop where
  length : ∀ x ∈ i.cmd, (NetCmd.ofHost x.1 x.2).isWrite = true → x.2.dl = 0b10
  enabled : s.ingress.smstate ≠ .INIT → i.enable = true
  stream_id : s.adapter.takesCmd (NetPath.netCmd i) s.adapter_out_tready = true →
    field s.adapter.output_q 339 4 = field t.adapter.output_q 339 4
  page_size : s.adapter.takesCmd (NetPath.netCmd i) s.adapter_out_tready = true →
    field s.adapter.output_q 313 6 = field t.adapter.output_q 313 6
  net_id : s.adapter.output_q_vld = false → s.egress.ocapi_sm = .INPUT_CMD_RESP →
    i.cmd.isSome = true → field s.adapter.output_q 291 2 = field t.adapter.output_q 291 2

/-- A cycle of two runs that meets the condition. -/
structure CleanPair (s : NetPath × NetPath) (i : NetPathIn × NetPathIn) : Prop where
  same : SameCommands s.1 i.1 i.2
  clean : NoResidue s.1 s.2 i.1

instance (f g : Port → Bool) : Decidable (f = g) :=
  decidable_of_iff (f .port0 = g .port0 ∧ f .port1 = g .port1)
    ⟨fun h => funext fun p => match p with
      | .port0 => h.1
      | .port1 => h.2, fun h => h ▸ ⟨rfl, rfl⟩⟩

instance (s : NetPath) (i j : NetPathIn) : Decidable (SameCommands s i j) :=
  decidable_of_iff (i.cmd = j.cmd ∧ i.data.isSome = j.data.isSome ∧ i.sends = j.sends ∧
      i.delivers = j.delivers ∧ i.active_actag = j.active_actag ∧
      i.capptag_fifo_tdata = j.capptag_fifo_tdata ∧ i.capptag_fifo_tvalid = j.capptag_fifo_tvalid ∧
      (s.ingress.smstate = .RECEIVE_CMD → i.rty_in_tdata = j.rty_in_tdata) ∧
      i.rty_in_tvalid = j.rty_in_tvalid ∧ i.enable = j.enable ∧
      i.tlx_cmd_tready = j.tlx_cmd_tready ∧ i.tlx_data_tready = j.tlx_data_tready)
    ⟨fun ⟨h1, h2, h3, h4, h5, h6, h7, h8, h9, h10, h11, h12⟩ =>
      ⟨h1, h2, h3, h4, h5, h6, h7, h8, h9, h10, h11, h12⟩,
    fun ⟨h1, h2, h3, h4, h5, h6, h7, h8, h9, h10, h11, h12⟩ =>
      ⟨h1, h2, h3, h4, h5, h6, h7, h8, h9, h10, h11, h12⟩⟩

instance (s t : NetPath) (i : NetPathIn) : Decidable (NoResidue s t i) :=
  decidable_of_iff ((∀ x ∈ i.cmd, (NetCmd.ofHost x.1 x.2).isWrite = true → x.2.dl = 0b10) ∧
      (s.ingress.smstate ≠ .INIT → i.enable = true) ∧
      (s.adapter.takesCmd (NetPath.netCmd i) s.adapter_out_tready = true →
        field s.adapter.output_q 339 4 = field t.adapter.output_q 339 4) ∧
      (s.adapter.takesCmd (NetPath.netCmd i) s.adapter_out_tready = true →
        field s.adapter.output_q 313 6 = field t.adapter.output_q 313 6) ∧
      (s.adapter.output_q_vld = false → s.egress.ocapi_sm = .INPUT_CMD_RESP → i.cmd.isSome = true →
        field s.adapter.output_q 291 2 = field t.adapter.output_q 291 2))
    ⟨fun ⟨h1, h2, h3, h4, h5⟩ => ⟨h1, h2, h3, h4, h5⟩,
    fun ⟨h1, h2, h3, h4, h5⟩ => ⟨h1, h2, h3, h4, h5⟩⟩

instance (s : NetPath × NetPath) (i : NetPathIn × NetPathIn) : Decidable (CleanPair s i) :=
  decidable_of_iff (SameCommands s.1 i.1 i.2 ∧ NoResidue s.1 s.2 i.1)
    ⟨fun ⟨h1, h2⟩ => ⟨h1, h2⟩, fun ⟨h1, h2⟩ => ⟨h1, h2⟩⟩

/-! ## What two flits of a command have in common -/

/-- The bits of a command in a 32 byte flit that are read: the net id, the page size, the stream
id, and from the byte enable on all. -/
def LiveBit (k : ℕ) : Prop := 35 ≤ k ∧ k < 41 ∨ 57 ≤ k ∧ k < 63 ∨ 83 ≤ k ∧ k < 87 ∨ 99 ≤ k

instance (k : ℕ) : Decidable (LiveBit k) := inferInstanceAs (Decidable (_ ∨ _))

/-- Two flits of the same command of the network. -/
structure SameCmd (x y : Flit) : Prop where
  live : ∀ k, LiveBit k → bit x k = bit y k
  plain : bit x 250 = false
  dl : isWriteCmd x = true → field x 166 2 = 0b10

namespace SameCmd

variable {x y : Flit}

lemma isWriteCmd_eq (h : SameCmd x y) : isWriteCmd x = isWriteCmd y := h.live 253 (by decide)

/-- Both state machines take the command for one of the network. -/
lemma hasData_eq (h : SameCmd x y) : hasData x = isWriteCmd x := by
  rw [hasData, h.plain, isWriteCmd]
  simp

lemma hasData_eq_right (h : SameCmd x y) : hasData y = isWriteCmd x := by
  have h250 := h.live 250 (by decide)
  rw [h.plain] at h250
  rw [hasData, ← h250, h.isWriteCmd_eq, isWriteCmd]
  simp

lemma stampPort (h : SameCmd x y) (PORT : BitVec 2) :
    SameCmd (stampPort PORT x) (stampPort PORT y) where
  live k hk := by
    rw [bit, bit, ThymesisFlow.stampPort, ThymesisFlow.stampPort, getLsbD_setField, getLsbD_setField]
    split_ifs
    · rfl
    · exact congrArg _ (h.live k hk)
  plain := (bit_stampPort PORT x (.inr (by decide))).trans h.plain
  dl hw := by
    rw [field_stampPort_of_disjoint PORT x (.inr (by decide))]
    refine h.dl ?_
    rwa [isWriteCmd, bit_stampPort PORT x (.inr (by decide))] at hw

end SameCmd

end ThymesisFlow
