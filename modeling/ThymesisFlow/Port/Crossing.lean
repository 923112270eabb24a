import ThymesisFlow.Port.Packets
import ThymesisFlow.Routing.MemoryRouted

/-!
# The crossing to the memory node

The two ports with their link layers, and the memory side routing ingress behind them, as
`thymesisflow_top` connects them.  What is offered to the ports is open, and so is what the receiving
node sends back.  Each node has an AFU clock (`.x`, `.y`) and a user clock for each port (`.usrX`,
`.usrY`).

`Offers` says that the two ports are offered streams of transactions.  Each part of the crossing then
sees a run of its own: a line one that meets its condition (`lines_ok`), and the routing ingress one
behind streams that are the same up to the credits (`routing_run`).
-/

namespace ThymesisFlow

/-- What the surroundings of the sending node choose for a port in a tick. -/
structure NodeXIn where
  link_tready : Bool := true
  rx_present : Bool := true
  rx_tready : Bool := true

/-- What the surroundings of the receiving node choose for a port in a tick. -/
structure NodeYIn where
  tx_tdata : Flit := 0
  tx_tvalid : Bool := false
  link_tready : Bool := true
  rx_present : Bool := true

/-- A port that is offered what a ping-pong buffer shows. -/
def NodeXIn.tick (i : NodeXIn) (out : TwoSlot Flit) : TickIn where
  tx_tdata := out.tdata
  tx_tvalid := out.tvalid
  link_tready := i.link_tready
  rx_present := i.rx_present
  rx_tready := i.rx_tready

structure Crossing where
  line0 : PortLine := {}
  line1 : PortLine := {}
  routing : RoutingMemoryIngress := {}

/-- `reset` is the net at the reset pin of the arbiter of the routing ingress, which nothing drives. -/
inductive CrossingMove
  | x (t : Port → TickIn)
  | y (i : Port → NodeYIn) (reset route_out_tready : Bool)
  | usrX (p : Port) (u : UsrIn)
  | usrY (p : Port) (u : UsrIn)

namespace Crossing

variable (s : Crossing)

def line : Port → PortLine
  | .port0 => s.line0
  | .port1 => s.line1

/-- The ready signal of the backpressure egress of port `p`. -/
def tready (t : TickIn) (p : Port) : Bool :=
  BckpressureEgress.bckprInTready ((s.line p).x.egrIn ((s.line p).wiresX t))

/-- The backpressure ingress of port `p` in front of the routing ingress. -/
def tickY (p : Port) (i : Port → NodeYIn) : TickIn where
  tx_tdata := (i p).tx_tdata
  tx_tvalid := (i p).tx_tvalid
  link_tready := (i p).link_tready
  rx_present := (i p).rx_present
  rx_tready := s.routing.route_in_tready p

def routingIn (route_out_tready : Bool) : RoutingMemoryIngressIn where
  route_in_tdata p := (s.line p).y.igr.outdata_q
  route_in_tvalid p := (s.line p).y.igr.outdata_vld
  route_out_tready := route_out_tready

/-- The routing ingress with its arbiter. -/
def nextRouting (reset route_out_tready : Bool) : RoutingMemoryIngress :=
  let next := s.routing.step (s.routingIn route_out_tready)
  if reset then next else { next with masked_req_vector := 0 }

def step : CrossingMove → Crossing
  | .x t =>
      { s with
        line0 := s.line0.step (.x (t .port0))
        line1 := s.line1.step (.x (t .port1)) }
  | .y i reset route_out_tready => {
      line0 := s.line0.step (.y (s.tickY .port0 i))
      line1 := s.line1.step (.y (s.tickY .port1 i))
      routing := s.nextRouting reset route_out_tready }
  | .usrX .port0 u => { s with line0 := s.line0.step (.usrX u) }
  | .usrX .port1 u => { s with line1 := s.line1.step (.usrX u) }
  | .usrY .port0 u => { s with line0 := s.line0.step (.usrY u) }
  | .usrY .port1 u => { s with line1 := s.line1.step (.usrY u) }

/-- The flit that the egress of port `p` takes in a move, as it is offered. -/
def offered (p : Port) : CrossingMove → List Flit
  | .x t => PortLine.offeredX (s.line p) (.x (t p))
  | _ => []

/-- The beat that the routing ingress hands over in a move. -/
def delivered : CrossingMove → List Flit512
  | .y _ _ route_out_tready => s.routing.out.out route_out_tready
  | _ => []

/-- The conditions on the ports, but for what the sending node offers them. -/
def StepOk : CrossingMove → Prop
  | .x _ => True
  | .y i _ _ => ∀ p, (s.line p).StepOk (.y (s.tickY p i))
  | .usrX p u => (s.line p).StepOk (.usrX u)
  | .usrY p u => (s.line p).StepOk (.usrY u)

instance : ∀ m : CrossingMove, Decidable (s.StepOk m)
  | .x _ => inferInstanceAs (Decidable True)
  | .y i _ _ =>
      decidable_of_iff ((s.line .port0).StepOk (.y (s.tickY .port0 i))
        ∧ (s.line .port1).StepOk (.y (s.tickY .port1 i)))
        ⟨fun h p => by cases p; exacts [h.1, h.2], fun h => ⟨h .port0, h .port1⟩⟩
  | .usrX p u => inferInstanceAs (Decidable ((s.line p).StepOk (.usrX u)))
  | .usrY p u => inferInstanceAs (Decidable ((s.line p).StepOk (.usrY u)))

/-- What a move is to the line of port `p`. -/
def lineMoves (p : Port) : CrossingMove → List LineMove
  | .x t => [.x (t p)]
  | .y i _ _ => [.y (s.tickY p i)]
  | .usrX q u => if q = p then [.usrX u] else []
  | .usrY q u => if q = p then [.usrY u] else []

end Crossing

/-- The crossing from its reset on. -/
def crossingMachine : Machine Crossing CrossingMove := ⟨{}, Crossing.step⟩

/-! ## Transactions -/

namespace MemTxn

/-- A command of the network, and no NOP of the link layer. -/
structure IsCommand (u : MemTxn) : Prop where
  plain : bit u.hdr 250 = false
  noNop : isNopCmd u.hdr = false

/-- A transaction that is carried over: its header up to the credit field, and its own data. -/
structure Carries (u r : MemTxn) : Prop where
  hdr : setField r.hdr 27 0#8 = setField u.hdr 27 0#8
  data : r.data = u.data

variable {u r : MemTxn}

lemma IsCommand.hasData (h : u.IsCommand) : hasData u.hdr = isWriteCmd u.hdr := by
  rw [ThymesisFlow.hasData, h.plain, isWriteCmd]
  simp

lemma Carries.bit_hdr (h : u.Carries r) {k : ℕ} (hk : 35 ≤ k) : bit r.hdr k = bit u.hdr k :=
  bit_of_clear h.hdr hk

lemma IsCommand.txn (h : u.IsCommand) : ∃ t : LlcTxn, t.flits = u.hdr :: u.data := by
  cases u with
  | short hdr known => exact ⟨.short hdr (h.hasData.trans known) h.noNop, rfl⟩
  | write hdr a b c d known => exact ⟨.long hdr a b c d (h.hasData.trans known) h.noNop, rfl⟩

/-- Any header that is the same up to the credits makes a transaction. -/
lemma other_creds (u : MemTxn) {f : Flit} (hf : setField f 27 0#8 = setField u.hdr 27 0#8) :
    ∃ r : MemTxn, r.hdr = f ∧ r.data = u.data := by
  have hwrite : isWriteCmd f = isWriteCmd u.hdr := bit_of_clear hf (by decide)
  cases u with
  | short hdr known => exact ⟨.short f (hwrite.trans known), rfl, rfl⟩
  | write hdr a b c d known => exact ⟨.write f a b c d (hwrite.trans known), rfl, rfl⟩

end MemTxn

/-- Transactions on a line. -/
def memFormat : PacketFormat MemTxn where
  hdr := MemTxn.hdr
  data := MemTxn.data
  ok := MemTxn.IsCommand
  txn _ h := h.txn
  other_creds u _ _ hf := u.other_creds hf

lemma memStream_cons (u : MemTxn) (us : List MemTxn) :
    memStream (u :: us) = u.hdr :: (u.data ++ memStream us) := rfl

/-- Every port is offered its stream: what it has taken, with a flit that is on offer, is a beginning
of it. -/
def Offers (us : Port → List MemTxn) (ms : List CrossingMove) : Prop :=
  ∀ p pre t, pre ++ [.x t] <+: ms → (t p).tx_tvalid = true →
    crossingMachine.collect (fun s => s.offered p) pre ++ [(t p).tx_tdata] <+: memStream (us p)

lemma Offers.of_append {us : Port → List MemTxn} {ms ns : List CrossingMove} (h : Offers us (ms ++ ns)) :
    Offers us ms :=
  fun p pre t hpre => h p pre t (hpre.trans (List.prefix_append _ _))

/-! ## The runs of the parts -/

namespace Crossing

variable {s : Crossing} {us : Port → List MemTxn}

lemma line_step (s : Crossing) (m : CrossingMove) (p : Port) :
    (s.step m).line p = portLine.runFrom (s.line p) (s.lineMoves p m) := by
  cases m with
  | x t => cases p <;> rfl
  | y i reset tready => cases p <;> rfl
  | usrX q u => cases p <;> cases q <;> rfl
  | usrY q u => cases p <;> cases q <;> rfl

/-- The run of a line. -/
def lineRun (p : Port) (ms : List CrossingMove) : List LineMove :=
  crossingMachine.collect (fun s m => s.lineMoves p m) ms

lemma line_run (p : Port) (ms : List CrossingMove) :
    (crossingMachine.run ms).line p = portLine.run (lineRun p ms) :=
  crossingMachine.projects portLine (fun s => s.line p) (by cases p <;> rfl)
    (fun s m => line_step s m p) ms

/-- What is observed of a line in one more move. -/
lemma collect_lineRun (out : PortLine → LineMove → List Flit) (p : Port)
    (ms : List CrossingMove) (m : CrossingMove) :
    portLine.collect out (lineRun p (ms ++ [m]))
      = portLine.collect out (lineRun p ms)
        ++ portLine.collectFrom out ((crossingMachine.run ms).line p) ((crossingMachine.run ms).lineMoves p m) := by
  rw [line_run, lineRun, Machine.collect_concat, Machine.collect_append]
  rfl

lemma offered_eq (p : Port) (ms : List CrossingMove) :
    portLine.collect PortLine.offeredX (lineRun p ms) = crossingMachine.collect (fun s => s.offered p) ms := by
  rw [lineRun, ← crossingMachine.projects_collect portLine (fun s => s.line p) PortLine.offeredX
    (by cases p <;> rfl) (fun s m => line_step s m p) ms]
  congr 1
  funext s m
  cases m with
  | x t => exact List.append_nil _
  | y i reset tready => rfl
  | usrX q u | usrY q u =>
      by_cases hq : q = p
      · simp only [lineMoves, if_pos hq]
        rfl
      · simp only [lineMoves, if_neg hq]
        rfl

/-- What a port has taken is a beginning of its stream. -/
lemma offered_isPrefix (p : Port) (ms : List CrossingMove) (h : Offers us ms) :
    crossingMachine.collect (fun s => s.offered p) ms <+: memStream (us p) := by
  induction ms using List.reverseRecOn with
  | nil => exact List.nil_prefix
  | append_singleton ms m ih =>
      have hpre := ih h.of_append
      rw [Machine.collect_concat]
      cases m with
      | x t =>
          change _ ++ (if _ then _ else _) <+: _
          split_ifs with ht
          · exact h p ms t List.prefix_rfl (Bool.and_eq_true_iff.mp ht).1
          · rwa [List.append_nil]
      | y i reset tready | usrX q u | usrY q u =>
          change _ ++ [] <+: _
          rwa [List.append_nil]

end Crossing

end ThymesisFlow
