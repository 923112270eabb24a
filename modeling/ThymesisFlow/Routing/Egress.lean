import ThymesisFlow.Afu.EgressAdapter
import ThymesisFlow.Lib.SlotQueue
import ThymesisFlow.Lib.TwoSlot
import ThymesisFlow.Memory.OcxFlit
import ThymesisFlow.Port.Bckpressure
import ThymesisFlow.Routing.Arbiter

/-!
# The routing layer, egress

`thymesisflow_64B_32B_routing_egress`.  A stream of 64 byte flits is cut into 32 byte flits and
sent to two network ports.  The net id of a command selects the port, or the two take turns.

The two halves of the source are the same text with the port numbers exchanged.  A port has five
registers, one for each 32 byte flit of a transaction; `port_sm` points at the one that is
forwarded next, so `EgrSm` names the registers as well.
-/

namespace ThymesisFlow

/-! ## 64 byte flits -/

/-- The upper 32 bytes. -/
def hiHalf (f : Flit512) : Flit := field f 256 256

/-- The lower 32 bytes. -/
def loHalf (f : Flit512) : Flit := field f 0 256

/-- `is_writecmd || is_respRok` of the input. -/
def egrHasData (f : Flit512) : Bool := bit f 509 || (bit f 506 && !bit f 504)

/-- The DL of a command or of a response. -/
def egrDl (f : Flit512) : BitVec 2 := if bit f 509 then field f 422 2 else field f 482 2

lemma bit_hiHalf (f : Flit512) {i : ℕ} (hi : i < 256) : bit (hiHalf f) i = bit f (256 + i) := by
  rw [hiHalf, bit, bit, getLsbD_field]
  simp [hi, -BitVec.getLsbD_eq_getElem]

/-- Both state machines see the same flags. -/
lemma hasData_hiHalf (f : Flit512) : hasData (hiHalf f) = egrHasData f := by
  rw [hasData, egrHasData, bit_hiHalf f (by decide), bit_hiHalf f (by decide),
    bit_hiHalf f (by decide)]

/-! ## A port -/

/-- `port0_sm` and `port1_sm`, and the registers `cmdflit`, `dataflit0h`, `dataflit0l`,
`dataflit1h`, `dataflit1l`. -/
inductive EgrSm
  | CMD
  | DATA0_HIGH
  | DATA0_LOW
  | DATA1_HIGH
  | DATA1_LOW
  deriving DecidableEq, Repr

/-- The state machine after the flit `x` has been forwarded. -/
def EgrSm.next (sm : EgrSm) (x : Flit) : EgrSm :=
  match sm with
  | .CMD => if hasData x then .DATA0_HIGH else .CMD
  | .DATA0_HIGH => .DATA0_LOW
  | .DATA0_LOW => .DATA1_HIGH
  | .DATA1_HIGH => .DATA1_LOW
  | .DATA1_LOW => .CMD

/-- The registers of one port; a register is `none` while its valid bit is clear. -/
structure EgressPort where
  regs : EgrSm → Option Flit := fun _ => none
  port_sm : EgrSm := .CMD
  out : TwoSlot Flit := { ping := 0, pong := 0 }

namespace EgressPort

variable (p : EgressPort)

/-- `ping_pong_ready`. -/
def ping_pong_ready : Bool := p.out.ready

/-- A register is empty, or is forwarded in this cycle. -/
def room (r : EgrSm) : Bool := (p.regs r).isNone || (p.ping_pong_ready && p.port_sm = r)

/-- One cycle of a port.  `load` says what the input has for each of the registers. -/
def step (load : EgrSm → Option Flit) (tready : Bool) : EgressPort where
  regs r :=
    match load r with
    | some x => if p.room r then some x else p.regs r
    | none => if p.ping_pong_ready && p.port_sm = r then none else p.regs r
  port_sm :=
    match p.regs p.port_sm with
    | some x => if p.ping_pong_ready then p.port_sm.next x else p.port_sm
    | none => p.port_sm
  out := p.out.step (p.regs p.port_sm) tready

end EgressPort

/-! ## The module -/

structure RoutingEgress where
  ports : Port → EgressPort := fun _ => {}
  ocapi_sm : InputSm := .INPUT_CMD_RESP
  dflit_size : BitVec 3 := 0
  next_data_interface_id : Port := .port0
  output_turn : Port := .port0

/-- The wires of one cycle. -/
structure RoutingEgressIn where
  egr_route_in_tdata : Flit512
  egr_route_in_tvalid : Bool
  egr_route_out_tready : Port → Bool

namespace RoutingEgress

variable (s : RoutingEgress) (i : RoutingEgressIn)

/-- `next_cmd_interface_id`. -/
def next_cmd_interface_id (tdata : Flit512) : Port :=
  if bit tdata 291 && bit tdata 292 then s.output_turn
  else if bit tdata 291 then .port0
  else .port1

def input_is_cmd : Bool := s.ocapi_sm = .INPUT_CMD_RESP

def input_is_data0 : Bool := bit s.dflit_size 1

def input_is_data1 : Bool := bit s.dflit_size 0

def egr_route_in_tready (tdata : Flit512) : Bool :=
  (s.input_is_cmd && (s.ports (s.next_cmd_interface_id tdata)).room .CMD) ||
  (s.input_is_data0 && (s.ports s.next_data_interface_id).room .DATA0_LOW) ||
  (s.input_is_data1 && (s.ports s.next_data_interface_id).room .DATA1_LOW)

/-- What the input has for the registers of a port.  The data registers do not look at the ready
signal: the upper half of a flit can be loaded before the flit is accepted. -/
def load (p : Port) (r : EgrSm) : Option Flit :=
  let tdata := i.egr_route_in_tdata
  match r with
  | .CMD =>
      if s.next_cmd_interface_id tdata = p && s.input_is_cmd && i.egr_route_in_tvalid then
        some (hiHalf tdata)
      else none
  | .DATA0_HIGH =>
      if s.next_data_interface_id = p && s.input_is_data0 && i.egr_route_in_tvalid then
        some (hiHalf tdata)
      else none
  | .DATA0_LOW =>
      if s.next_data_interface_id = p && s.input_is_data0 && i.egr_route_in_tvalid then
        some (loHalf tdata)
      else none
  | .DATA1_HIGH =>
      if s.next_data_interface_id = p && s.input_is_data1 && i.egr_route_in_tvalid then
        some (hiHalf tdata)
      else none
  | .DATA1_LOW =>
      if s.next_data_interface_id = p && s.input_is_data1 && i.egr_route_in_tvalid then
        some (loHalf tdata)
      else none

/-- A flit is accepted. -/
def accepts : Bool := s.egr_route_in_tready i.egr_route_in_tdata && i.egr_route_in_tvalid

def step : RoutingEgress where
  ports p := (s.ports p).step (s.load i p) (i.egr_route_out_tready p)
  ocapi_sm :=
    match s.ocapi_sm with
    | .INPUT_CMD_RESP =>
        if s.accepts i && egrHasData i.egr_route_in_tdata then .INPUT_DATAFLIT else .INPUT_CMD_RESP
    | .INPUT_DATAFLIT =>
        if s.accepts i && s.dflit_size = 1 then .INPUT_CMD_RESP else .INPUT_DATAFLIT
  dflit_size :=
    match s.ocapi_sm with
    | .INPUT_CMD_RESP =>
        if s.accepts i && egrHasData i.egr_route_in_tdata then
          dflitSize (egrDl i.egr_route_in_tdata)
        else s.dflit_size
    | .INPUT_DATAFLIT => if s.accepts i then s.dflit_size - 1 else s.dflit_size
  next_data_interface_id :=
    match s.ocapi_sm with
    | .INPUT_CMD_RESP =>
        if s.accepts i && egrHasData i.egr_route_in_tdata then
          s.next_cmd_interface_id i.egr_route_in_tdata
        else s.next_data_interface_id
    | .INPUT_DATAFLIT => s.next_data_interface_id
  output_turn := if s.accepts i && s.input_is_cmd then s.output_turn.other else s.output_turn

/-- The flit accepted in a cycle. -/
def accepted : List Flit512 := if s.accepts i then [i.egr_route_in_tdata] else []

/-- The flit handed over at a port. -/
def emitted (p : Port) (s : RoutingEgress) (i : RoutingEgressIn) : List Flit :=
  (s.ports p).out.out (i.egr_route_out_tready p)

end RoutingEgress

end ThymesisFlow
