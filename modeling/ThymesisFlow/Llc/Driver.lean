import ThymesisFlow.Lib.Machine
import ThymesisFlow.Lib.Padding
import ThymesisFlow.Lib.TwoSlot
import ThymesisFlow.Port.Bckpressure

/-!
# The drivers of the link layer

`thymesisflow_llc_egress_driver` stands in front of the framer: when its input pauses between two
transactions it goes on with NOP flits until a frame of four flits is complete.
`thymesisflow_llc_ingress_driver` stands behind the parser and drops the NOP flits.  Both tell
commands from data with the state machine of the credit modules (`Phase`).
-/

namespace ThymesisFlow

/-- `is_nopcmd`. -/
def isNopCmd (f : Flit) : Bool := bit f 254 && !bit f 249

/-! ## `thymesisflow_llc_egress_driver` -/

/-- The lowest bits of the ten bit fields of a NOP flit. -/
def nopFields : List ℕ :=
  [238, 228, 218, 208, 198, 188, 178, 168, 158, 148, 138, 128, 118, 108, 98, 88, 78, 68, 58, 48,
    38, 28, 18, 8]

/-- The NOP flit that `outdata_s1` is replaced by: `0x40` on top, and the rest of the register
advanced field by field. -/
def patchNop (outdata_s1 : Flit) : Flit :=
  setField (nopFields.foldl (fun q lo => setField q lo (field outdata_s1 lo 10 + 0x155#10))
    (setField outdata_s1 0 (field outdata_s1 0 8 + 0x55#8))) 248 0x40#8

/-- The registers of the egress driver. -/
structure LlcEgressDriver where
  outdata_s1 : Flit := 0
  outdata_s1_vld : Bool := false
  out : TwoSlot Flit := { ping := 0, pong := 0 }
  phase : Phase := {}
  frame_counter : BitVec 2 := 0
  deriving DecidableEq, Repr

/-- The wires of one cycle of a driver. -/
structure DriverIn where
  driver_in_tdata : Flit
  driver_in_tvalid : Bool
  driver_out_tready : Bool
  deriving DecidableEq, Repr

namespace LlcEgressDriver

variable (s : LlcEgressDriver) (i : DriverIn)

/-- `ping_pong_ready`. -/
def ping_pong_ready : Bool := s.out.ready

def driver_in_tready : Bool := s.ping_pong_ready || !s.outdata_s1_vld

/-- The first stage can be loaded. -/
def loads : Bool := (s.outdata_s1_vld && s.ping_pong_ready) || !s.outdata_s1_vld

/-- The ping-pong buffer after a cycle. -/
def nextOut (tready : Bool) : TwoSlot Flit :=
  let ping_w := s.outdata_s1_vld && !s.out.turn_w && !s.out.ping_vld
  let pong_w := s.outdata_s1_vld && s.out.turn_w && !s.out.pong_vld
  { ping := if ping_w then s.outdata_s1 else s.out.ping
    ping_vld := if ping_w then true
      else if !s.out.turn_r && tready then false else s.out.ping_vld
    pong := if pong_w then s.outdata_s1 else s.out.pong
    pong_vld := if pong_w then true
      else if s.out.turn_r && tready then false else s.out.pong_vld
    turn_w := if s.ping_pong_ready && s.outdata_s1_vld then !s.out.turn_w else s.out.turn_w
    turn_r := s.out.nextR tready }

def step : LlcEgressDriver where
  outdata_s1 :=
    if i.driver_in_tvalid && s.loads then i.driver_in_tdata
    else if !i.driver_in_tvalid && s.phase.isCmd && s.frame_counter ≠ 0 && s.loads then
      patchNop s.outdata_s1
    else if s.ping_pong_ready then 0
    else s.outdata_s1
  outdata_s1_vld :=
    if i.driver_in_tvalid && s.loads then true
    else if !i.driver_in_tvalid && s.phase.isCmd && s.frame_counter ≠ 0 && s.loads then true
    else if s.ping_pong_ready then false
    else s.outdata_s1_vld
  out := s.nextOut i.driver_out_tready
  phase :=
    if s.driver_in_tready && i.driver_in_tvalid then s.phase.next i.driver_in_tdata else s.phase
  frame_counter :=
    if (i.driver_in_tvalid && s.driver_in_tready) ||
        (!i.driver_in_tvalid && s.driver_in_tready && s.phase.isCmd && s.frame_counter ≠ 0) then
      s.frame_counter + 1
    else s.frame_counter

/-- The flit accepted in a cycle. -/
def accepted : List Flit :=
  if i.driver_in_tvalid && s.driver_in_tready then [i.driver_in_tdata] else []

/-- The flit handed over in a cycle. -/
def emitted : List Flit := s.out.out i.driver_out_tready

/-- Nothing is left in the driver. -/
def Drained : Prop := s.outdata_s1_vld = false ∧ s.out.ping_vld = false ∧ s.out.pong_vld = false

instance : Decidable s.Drained := inferInstanceAs (Decidable (_ ∧ _))

end LlcEgressDriver

/-- The egress driver from its reset on. -/
def llcEgressDriver : Machine LlcEgressDriver DriverIn where
  init := {}
  step := LlcEgressDriver.step

/-! ## `thymesisflow_llc_ingress_driver` -/

/-- The registers of the ingress driver. -/
structure LlcIngressDriver where
  outdata_q : Flit := 0
  outdata_vld : Bool := false
  phase : Phase := {}
  deriving DecidableEq, Repr

namespace LlcIngressDriver

variable (s : LlcIngressDriver) (i : DriverIn)

def driver_in_tready : Bool :=
  i.driver_out_tready || (isNopCmd i.driver_in_tdata && s.phase.isCmd && i.driver_in_tvalid)

def step : LlcIngressDriver :=
  let loads := (s.phase.isCmd && i.driver_in_tvalid && i.driver_out_tready &&
      !isNopCmd i.driver_in_tdata) ||
    (!s.phase.isCmd && i.driver_in_tvalid && i.driver_out_tready)
  { outdata_q :=
      if loads then i.driver_in_tdata else if i.driver_out_tready then 0 else s.outdata_q
    outdata_vld :=
      if loads then true else if i.driver_out_tready then false else s.outdata_vld
    phase :=
      if i.driver_out_tready && i.driver_in_tvalid then s.phase.next i.driver_in_tdata
      else s.phase }

/-- The flit accepted in a cycle. -/
def accepted : List Flit :=
  if i.driver_in_tvalid && s.driver_in_tready i then [i.driver_in_tdata] else []

/-- The flit handed over in a cycle. -/
def emitted : List Flit := if s.outdata_vld && i.driver_out_tready then [s.outdata_q] else []

end LlcIngressDriver

/-- The ingress driver from its reset on. -/
def llcIngressDriver : Machine LlcIngressDriver DriverIn where
  init := {}
  step := LlcIngressDriver.step

/-! ## Transactions -/

/-- A complete transaction: a command or a response with its data, if it has any. -/
inductive LlcTxn
  | short (hdr : Flit) (known : hasData hdr = false) (cmd : isNopCmd hdr = false)
  | long (hdr d0 d1 d2 d3 : Flit) (known : hasData hdr = true) (cmd : isNopCmd hdr = false)

/-- The flits of a transaction. -/
def LlcTxn.flits : LlcTxn → List Flit
  | short hdr _ _ => [hdr]
  | long hdr d0 d1 d2 d3 _ _ => [hdr, d0, d1, d2, d3]

/-- A stream of transactions. -/
def llcStream (ts : List LlcTxn) : List Flit := ts.flatMap LlcTxn.flits

end ThymesisFlow
