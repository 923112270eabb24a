import Mathlib.Logic.Function.Basic
import ThymesisFlow.Llc.Framer

/-!
# The LLC parser

`thymesisflow_llc_parser` (`thymesisflow_llc_parser_crc_replay.v`) writes the flits of a data frame
to one of two frame buffers and passes the frame on once its CRC is good; a frame that fails stalls
it until the other side announces that it sends again.  A frame of a single flit is an in-band
message.  Every register has a function `next…` that is its `always` block; `Parser.step` collects
them.

The second half of the module is what the parser is for: the protocol on whole frames, and how the
frames are read off the cycles.
-/

namespace ThymesisFlow

/-- The registers.  Of the two frame buffers the one in use is chosen by a bit. -/
structure Parser where
  data : Bool → BitVec 2 → Flit := fun _ _ => 0
  wrptr : BitVec 2 := 0
  rdptr : BitVec 2 := 0
  read_enable : Bool → Bool := fun _ => false
  wrq : Bool := false
  rdq : Bool := false
  current_frameid : BitVec 6 := 0
  frame_id : BitVec 6 := 0
  frame_id_valid : Bool := false
  remote_frame_id : BitVec 6 := 0
  remote_frame_id_valid : Bool := false
  data_valid : Bool → BitVec 4 := fun _ => 0
  parser_stall : Bool := false
  tlast_distance_counter : BitVec 2 := 0

structure ParserIn where
  crc_valid : Bool := false
  crc_ok : Bool := false
  fifo_in_tdata : Flit := 0
  fifo_in_tlast : Bool := false
  fifo_in_tvalid : Bool := false
  deriving DecidableEq, Repr

namespace Parser

variable (s : Parser) (i : ParserIn)

/-! ## Wires -/

def not_empty (q : Bool) : Bool := s.data_valid q ≠ 0

def inband_msg_frame_received : Bool := i.crc_valid && s.tlast_distance_counter = 0

/-- A flit is written to the frame buffer. -/
def writes : Bool := i.fifo_in_tvalid && !s.parser_stall && !s.inband_msg_frame_received i

/-- A flit is read from the frame buffer. -/
def reading : Bool := s.not_empty s.rdq && s.read_enable s.rdq

/-- A data frame has passed its CRC check. -/
def frameOk : Bool := i.crc_valid && i.crc_ok && i.fifo_in_tlast && s.wrptr = 3

/-- A data frame has failed its CRC check. -/
def frameError : Bool := i.crc_valid && !i.crc_ok && i.fifo_in_tlast && s.wrptr = 3

/-- An in-band message has come. -/
def inbandOk : Bool := i.crc_valid && i.crc_ok && i.fifo_in_tlast && s.tlast_distance_counter = 0

def remoteRequest : Bool := s.inbandOk i && bit i.fifo_in_tdata 0

def preamble : Bool := s.inbandOk i && !bit i.fifo_in_tdata 0 && bit i.fifo_in_tdata 7

/-! ## The registers -/

def nextCurrentFrameid : BitVec 6 :=
  if s.wrptr = 3 && i.crc_valid && i.crc_ok then rollover s.current_frameid else s.current_frameid

def nextTlastDistanceCounter : BitVec 2 :=
  if i.fifo_in_tvalid then (if i.fifo_in_tlast then 0 else s.tlast_distance_counter + 1)
  else s.tlast_distance_counter

/-- The other buffer is written once a frame has passed. -/
def nextWrq : Bool := if i.fifo_in_tvalid && s.frameOk i then !s.wrq else s.wrq

def nextStallParser : Bool :=
  if s.frameError i then true else if s.preamble i then false else s.parser_stall

/-- An in-band message that is neither a request nor a preamble leaves the flag as it is. -/
def nextFrameIdValid : Bool :=
  if s.frameError i then true
  else if s.remoteRequest i || s.preamble i then false
  else if s.inbandOk i then s.frame_id_valid
  else false

def nextFrameId : BitVec 6 := if s.frameError i then s.current_frameid else s.frame_id

def nextRemoteFrameIdValid : Bool :=
  if s.frameError i then false
  else if s.remoteRequest i then true
  else if s.preamble i then false
  else if s.inbandOk i then s.remote_frame_id_valid
  else false

def nextRemoteFrameId : BitVec 6 :=
  if !s.frameError i && s.remoteRequest i then field i.fifo_in_tdata 1 6 else s.remote_frame_id

def nextReadEnable : Bool → Bool :=
  let enabled := if s.frameOk i then setAt s.read_enable s.wrq true else s.read_enable
  if s.rdptr = 3 then setAt enabled s.rdq false else enabled

def nextRdq : Bool := if s.rdptr = 3 then !s.rdq else s.rdq

def nextWrptr : BitVec 2 :=
  if s.parser_stall then 0
  else if i.fifo_in_tvalid && s.wrptr ≠ 3 && !i.fifo_in_tlast then s.wrptr + 1
  else if i.fifo_in_tvalid && i.fifo_in_tlast then 0
  else s.wrptr

def nextRdptr : BitVec 2 := if s.rdptr ≠ 3 && s.reading then s.rdptr + 1 else 0

/-- While the parser is stalled the flits that are read stay marked. -/
def nextDataValid : Bool → BitVec 4 :=
  let written := setAt s.data_valid s.wrq (setBit (s.data_valid s.wrq) s.wrptr.toNat)
  let cleared := clearBit (s.data_valid s.rdq) s.rdptr.toNat
  if s.parser_stall then setAt s.data_valid s.wrq 0
  else if s.writes i && s.reading then setAt written s.rdq cleared
  else if s.writes i then written
  else if s.reading then setAt s.data_valid s.rdq cleared
  else s.data_valid

def nextData : Bool → BitVec 2 → Flit :=
  if s.writes i then
    setAt s.data s.wrq (setAt (s.data s.wrq) s.wrptr i.fifo_in_tdata)
  else s.data

lemma nextReadEnable_eq : s.nextReadEnable i =
    let enabled := if s.frameOk i then Function.update s.read_enable s.wrq true else s.read_enable
    if s.rdptr = 3 then Function.update enabled s.rdq false else enabled := by
  simp only [nextReadEnable, setAt_eq_update]

lemma nextDataValid_eq : s.nextDataValid i =
    let written := Function.update s.data_valid s.wrq (setBit (s.data_valid s.wrq) s.wrptr.toNat)
    let cleared := clearBit (s.data_valid s.rdq) s.rdptr.toNat
    if s.parser_stall then Function.update s.data_valid s.wrq 0
    else if s.writes i && s.reading then Function.update written s.rdq cleared
    else if s.writes i then written
    else if s.reading then Function.update s.data_valid s.rdq cleared
    else s.data_valid := by
  simp only [nextDataValid, setAt_eq_update]

lemma nextData_eq : s.nextData i = if s.writes i then
    Function.update s.data s.wrq (Function.update (s.data s.wrq) s.wrptr i.fifo_in_tdata)
    else s.data := by
  simp only [nextData, setAt_eq_update]

/-- One clock cycle. -/
def step : Parser where
  data := s.nextData i
  wrptr := s.nextWrptr i
  rdptr := s.nextRdptr
  read_enable := s.nextReadEnable i
  wrq := s.nextWrq i
  rdq := s.nextRdq
  current_frameid := s.nextCurrentFrameid i
  frame_id := s.nextFrameId i
  frame_id_valid := s.nextFrameIdValid i
  remote_frame_id := s.nextRemoteFrameId i
  remote_frame_id_valid := s.nextRemoteFrameIdValid i
  data_valid := s.nextDataValid i
  parser_stall := s.nextStallParser i
  tlast_distance_counter := s.nextTlastDistanceCounter i

/-! ## Outputs -/

def fifoOutTvalid : Bool := bit (s.data_valid s.rdq) s.rdptr.toNat && s.read_enable s.rdq

def fifoOutTdata : Flit := if s.fifoOutTvalid then s.data s.rdq s.rdptr else 0

/-- The flit on `fifo_out` in a cycle. -/
def emitted (s : Parser) (_ : ParserIn) : List Flit :=
  if s.fifoOutTvalid then [s.fifoOutTdata] else []

/-- The frame id with which `resend_frame_id_valid` rises at the end of a cycle. -/
def raised (s : Parser) (i : ParserIn) : List (BitVec 6) :=
  if s.nextFrameIdValid i && !s.frame_id_valid then [s.nextFrameId i] else []

end Parser

def parserMachine : Machine Parser ParserIn := ⟨{}, Parser.step⟩

/-! ## Frames -/

/-- A frame and its CRC result. -/
structure LinkFrame where
  flits : List Flit
  crc_ok : Bool
  deriving DecidableEq, Repr

/-- The frames on the link: the state is the part of a frame that has come. -/
def deframer : Machine (List Flit) ParserIn where
  init := []
  step part i :=
    if i.fifo_in_tvalid then (if i.fifo_in_tlast then [] else part ++ [i.fifo_in_tdata]) else part

/-- The frame that ends in a cycle. -/
def endingFrame (part : List Flit) (i : ParserIn) : List LinkFrame :=
  if i.fifo_in_tvalid && i.fifo_in_tlast then [⟨part ++ [i.fifo_in_tdata], i.crc_ok⟩] else []

/-- The frames of a stream of cycles. -/
def framesOf (is : List ParserIn) : List LinkFrame := deframer.collect endingFrame is

/-- The cycle continues a stream of frames of four flits or one: `tlast` comes with the fourth flit,
or with the first, and the CRC result with `tlast`. -/
def FrameCycle (part : List Flit) (i : ParserIn) : Prop :=
  i.crc_valid = (i.fifo_in_tvalid && i.fifo_in_tlast) ∧
    (i.fifo_in_tvalid = true → part ≠ [] → (i.fifo_in_tlast = true ↔ part.length = 3))

instance (part : List Flit) (i : ParserIn) : Decidable (FrameCycle part i) :=
  inferInstanceAs (Decidable (_ ∧ _))

/-! ## The protocol -/

/-- The state of the receiving side: whether it waits for a retransmission, and the number of frames
it has delivered. -/
structure Receiver where
  stalled : Bool := false
  frames : ℕ := 0
  deriving DecidableEq, Repr

namespace LinkFrame

variable (fr : LinkFrame)

/-- An in-band message. -/
def isInband : Bool := fr.flits.length = 1

/-- The message that starts a retransmission: bit 7 is set, and bit 0 is not. -/
def isPreamble : Bool :=
  fr.isInband && fr.crc_ok && fr.flits.all fun f => bit f 7 && !bit f 0

end LinkFrame

namespace Receiver

variable (p : Receiver) (fr : LinkFrame)

/-- The frame is delivered. -/
def accepts : Bool := !fr.isInband && !p.stalled && fr.crc_ok

/-- The frame stalls the receiver. -/
def refuses : Bool := !fr.isInband && !p.stalled && !fr.crc_ok

def step : Receiver where
  stalled := if fr.isPreamble then false else p.stalled || p.refuses fr
  frames := if p.accepts fr then p.frames + 1 else p.frames

/-- The flits delivered for a frame. -/
def delivered (p : Receiver) (fr : LinkFrame) : List Flit := if p.accepts fr then fr.flits else []

/-- The frame id asked for again: the number of frames delivered, modulo 64. -/
def requested (p : Receiver) (fr : LinkFrame) : List (BitVec 6) :=
  if p.refuses fr then [BitVec.ofNat 6 p.frames] else []

end Receiver

def receiver : Machine Receiver LinkFrame := ⟨{}, Receiver.step⟩

end ThymesisFlow
