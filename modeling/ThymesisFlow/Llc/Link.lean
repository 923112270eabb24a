import ThymesisFlow.Llc.Parser
import ThymesisFlow.Llc.Resend

/-!
# Two ends of the link

`thymesisflow_32B_llc_top` has a framer and a parser; two of them are connected crosswise, and each
parser drives the `resend_frame_id` and `remote_resend_frame_id` inputs of the framer beside it.  A
`Lane` is one direction: the framer of one end, what the serdes has still to deliver, and the parser
of the other end, with what has gone in and come out since reset.  A `LlcLink` is the two directions.

The ends have clocks of their own: a move is a clock cycle of one of them.  The serdes delivers the
flits in order, with any delay, and gives the CRC result of a frame with its `tlast` flit.
-/

namespace ThymesisFlow

namespace TwoSlot

variable {α : Type} (b : TwoSlot α)

/-- The entries, oldest first. -/
def items : List α :=
  let ping := if b.ping_vld then [b.ping] else []
  let pong := if b.pong_vld then [b.pong] else []
  if b.turn_r then pong ++ ping else ping ++ pong

lemma Holds.items_eq {b : TwoSlot α} {q : List α} (h : b.Holds q) : b.items = q := by
  cases h with
  | @empty x y r => cases r <;> rfl
  | ping | pong | pingPong | pongPing => rfl

end TwoSlot

/-- The frames in a stream of flits with their `tlast`: the state is the part of a frame that has
come. -/
def cutter : Machine (List Flit) (Flit × Bool) where
  init := []
  step part x := if x.2 then [] else part ++ [x.1]

/-- The frame that ends with a flit. -/
def cut (part : List Flit) (x : Flit × Bool) : List (List Flit) :=
  if x.2 then [part ++ [x.1]] else []

/-! ## One direction -/

/-- `part` is what the serdes has delivered of a frame that is not complete, `wire` is what it has
still to deliver. -/
structure Lane where
  tx : Tx := {}
  accepted : List Flit := []
  part : List Flit := []
  wire : List (Flit × Bool) := []
  rx : Parser := {}
  emitted : List Flit := []

namespace Lane

variable (l : Lane) (i : FramerIn)

/-- A cycle of the framer. -/
def send : Lane :=
  { l with
    tx := l.tx.step i
    accepted := l.accepted ++ l.tx.accepted i
    wire := l.wire ++ l.tx.emitted i }

/-- The flit that the serdes delivers, if it delivers one. -/
def delivery (tvalid : Bool) : List (Flit × Bool) := if tvalid then l.wire.take 1 else []

/-- The wires of the parser when a flit is delivered or none is. -/
def parserIn (crc_ok : Bool) : List (Flit × Bool) → ParserIn
  | [] => {}
  | x :: _ =>
      { crc_valid := x.2, crc_ok, fifo_in_tdata := x.1, fifo_in_tlast := x.2, fifo_in_tvalid := true }

/-- A cycle of the parser. -/
def receive (tvalid crc_ok : Bool) : Lane :=
  let now := l.delivery tvalid
  { l with
    part := cutter.runFrom l.part now
    wire := l.wire.drop now.length
    rx := l.rx.step (parserIn crc_ok now)
    emitted := l.emitted ++ l.rx.emitted (parserIn crc_ok now) }

/-- The flits that the framer has read or made and the parser has not got. -/
def flight : List (Flit × Bool) := l.wire ++ l.tx.framer.buffer.items ++ l.tx.captures

/-- The complete frames among them. -/
def frames : List (List Flit) := cutter.collectFrom cut l.part l.flight

/-- The conditions under which a lane carries its flits, one for each way in which it can fail.  No
flit is accepted while all slots are valid, nor in the cycle in which a resend is applied.  A request
is taken up only if it is new: the parser waits for the frame it asks for, and no preamble is on its
way.  And when a resend is set up, what was accepted since the parser has stalled is still stored. -/
def SendOk : Prop :=
  (l.tx.framer.accept i = true → l.tx.framer.all_full = false ∧ l.tx.framer.patches = false)
    ∧ (l.tx.framer.latchesRemote i = true → l.rx.parser_stall = true
      ∧ i.remote_resend_frame_id = l.rx.current_frameid
      ∧ ∀ w ∈ l.frames, (⟨w, true⟩ : LinkFrame).isPreamble = false)
    ∧ (l.tx.framer.smstate = .SM_RM_ACTIVATE_PATCHING →
      l.accepted.length ≤ l.emitted.length + 256)

instance : Decidable (l.SendOk i) := by
  unfold SendOk
  infer_instance

end Lane

/-! ## Both directions -/

/-- `ab` is the framer of end A, and the parser of end B. -/
structure LlcLink where
  ab : Lane := {}
  ba : Lane := {}

inductive LinkEnd
  | A
  | B
  deriving DecidableEq, Repr

/-- The inputs of an end in a cycle: those of its framer, whether the serdes delivers a flit, and the
CRC result. -/
structure EndIn where
  fifo_in_tdata : Flit := 0
  fifo_in_tvalid : Bool := false
  fifo_out_tready : Bool := true
  serdes_rx_tvalid : Bool := true
  serdes_rx_crc_ok : Bool := true

/-- The inputs of the framer, beside the parser `rx`. -/
def EndIn.framerIn (i : EndIn) (rx : Parser) : FramerIn where
  fifo_in_tdata := i.fifo_in_tdata
  fifo_in_tvalid := i.fifo_in_tvalid
  fifo_out_tready := i.fifo_out_tready
  resend_frame_id := rx.frame_id
  resend_frame_id_valid := rx.frame_id_valid
  remote_resend_frame_id := rx.remote_frame_id
  remote_resend_frame_id_valid := rx.remote_frame_id_valid

/-- A cycle of one of the two ends. -/
def LlcLink.step (l : LlcLink) : LinkEnd × EndIn → LlcLink
  | (.A, i) =>
      { ab := l.ab.send (i.framerIn l.ba.rx)
        ba := l.ba.receive i.serdes_rx_tvalid i.serdes_rx_crc_ok }
  | (.B, i) =>
      { ab := l.ab.receive i.serdes_rx_tvalid i.serdes_rx_crc_ok
        ba := l.ba.send (i.framerIn l.ab.rx) }

/-- The conditions `SendOk` on the framer of the end whose cycle it is. -/
def LlcLink.StepOk (l : LlcLink) : LinkEnd × EndIn → Prop
  | (.A, i) => l.ab.SendOk (i.framerIn l.ba.rx)
  | (.B, i) => l.ba.SendOk (i.framerIn l.ab.rx)

instance (l : LlcLink) : ∀ m : LinkEnd × EndIn, Decidable (l.StepOk m)
  | (.A, i) => inferInstanceAs (Decidable (l.ab.SendOk (i.framerIn l.ba.rx)))
  | (.B, i) => inferInstanceAs (Decidable (l.ba.SendOk (i.framerIn l.ab.rx)))

/-- The link from its reset on. -/
def link : Machine LlcLink (LinkEnd × EndIn) := ⟨{}, LlcLink.step⟩

end ThymesisFlow
