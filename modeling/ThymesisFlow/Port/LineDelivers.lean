import ThymesisFlow.Port.LineRefines

/-!
# What two ports deliver

The refinement to the credit scheme, and what it gives for the flits: what the ingress of one node
hands over is what the egress of the other was offered, in order and up to the credit field that the
egress stamps on command flits, and no flit that a parser puts out is lost.
-/

namespace ThymesisFlow

namespace PortLine

/-! ## Refinement -/

/-- The relation of the refinement. -/
def Follows (s : PortLine) (a : Loop) : Prop := s.toLoop = a ∧ s.Inv

lemma follows_init : Follows portLine.init loopMachine.init := ⟨rfl, inv_init⟩

lemma follows_step (s : PortLine) (a : Loop) (m : LineMove) (h : s.Follows a) (hok : s.StepOk m) :
    (portLine.step s m).Follows (loopMachine.runFrom a (s.loopMoves m)) := by
  obtain ⟨rfl, hinv⟩ := h
  exact ⟨hinv.toLoop_step, hinv.step hok⟩

/-- A cycle of an LLC is not seen at the ports. -/
lemma collect_carry {out : Loop → LoopMove → List Flit} {m : LoopMove} (hout : ∀ a, out a m = [])
    (a : Loop) (fs : List Flit) : loopMachine.collectFrom out a (fs.map fun _ => m) = [] := by
  induction fs generalizing a with
  | nil => rfl
  | cons f fs ih => rw [List.map_cons, Machine.collectFrom, hout, ih, List.append_nil]

/-- What is observed at the ports is what the credit scheme shows there. -/
lemma observed (s : PortLine) (m : LineMove) :
    s.sentX m = loopMachine.collectFrom Loop.sentX s.toLoop (s.loopMoves m)
      ∧ s.sentY m = loopMachine.collectFrom Loop.sentY s.toLoop (s.loopMoves m)
      ∧ s.recvX m = loopMachine.collectFrom Loop.recvX s.toLoop (s.loopMoves m)
      ∧ s.recvY m = loopMachine.collectFrom Loop.recvY s.toLoop (s.loopMoves m) := by
  cases m with
  | x t => exact ⟨(List.append_nil _).symm, rfl, (List.append_nil _).symm, rfl⟩
  | y t => exact ⟨rfl, (List.append_nil _).symm, rfl, (List.append_nil _).symm⟩
  | usrX u | usrY u => exact ⟨(collect_carry (fun _ => rfl) _ _).symm,
      (collect_carry (fun _ => rfl) _ _).symm, (collect_carry (fun _ => rfl) _ _).symm,
      (collect_carry (fun _ => rfl) _ _).symm⟩

/-- The moves of the credit scheme in a run. -/
def loopRun (ms : List LineMove) : List LoopMove := portLine.collect loopMoves ms

lemma sent_refines (ms : List LineMove) (h : portLine.Meets StepOk ms) :
    portLine.collect sentX ms = loopMachine.collect Loop.sentX (loopRun ms)
      ∧ portLine.collect sentY ms = loopMachine.collect Loop.sentY (loopRun ms) := by
  refine ⟨portLine.refines_collect loopMachine follows_init follows_step ?_ ms h,
    portLine.refines_collect loopMachine follows_init follows_step ?_ ms h⟩
  · rintro s a m ⟨rfl, -⟩ -
    exact (observed s m).1
  · rintro s a m ⟨rfl, -⟩ -
    exact (observed s m).2.1

lemma recv_refines (ms : List LineMove) (h : portLine.Meets StepOk ms) :
    portLine.collect recvX ms = loopMachine.collect Loop.recvX (loopRun ms)
      ∧ portLine.collect recvY ms = loopMachine.collect Loop.recvY (loopRun ms) := by
  refine ⟨portLine.refines_collect loopMachine follows_init follows_step ?_ ms h,
    portLine.refines_collect loopMachine follows_init follows_step ?_ ms h⟩
  · rintro s a m ⟨rfl, -⟩ -
    exact (observed s m).2.2.1
  · rintro s a m ⟨rfl, -⟩ -
    exact (observed s m).2.2.2

/-- What one ingress has accepted, and what is on its way to it. -/
lemma sent_eq (ms : List LineMove) (h : portLine.Meets StepOk ms) :
    portLine.collect sentX ms = portLine.collect recvY ms
        ++ inflight (portLine.run ms).x (portLine.run ms).xy.toLink
      ∧ portLine.collect sentY ms = portLine.collect recvX ms
        ++ inflight (portLine.run ms).y (portLine.run ms).yx.toLink := by
  obtain ⟨hsentX, hsentY⟩ := sent_refines ms h
  obtain ⟨hrecvX, hrecvY⟩ := recv_refines ms h
  obtain ⟨hloop, -⟩ := portLine.refines loopMachine follows_init follows_step ms h
  have hx := sentX_eq (loopRun ms)
  have hy := sentY_eq (loopRun ms)
  rw [loopRun, ← hloop] at hx hy
  rw [hsentX, hsentY, hrecvX, hrecvY]
  exact ⟨hx, hy⟩

end PortLine

open PortLine

/-- **The link layer implements the lossless link of the credit scheme.**  To every run of two ports
with their link layers whose moves meet `StepOk` belongs a run of the two ports joined by lossless
links, in which the same flits are accepted at both ends and the ports and their links end up in the
same state. -/
theorem port_line_refines (ms : List LineMove) (h : portLine.Meets StepOk ms) :
    (portLine.run ms).toLoop = loopMachine.run (loopRun ms)
      ∧ portLine.collect sentX ms = loopMachine.collect Loop.sentX (loopRun ms)
      ∧ portLine.collect sentY ms = loopMachine.collect Loop.sentY (loopRun ms)
      ∧ portLine.collect recvX ms = loopMachine.collect Loop.recvX (loopRun ms)
      ∧ portLine.collect recvY ms = loopMachine.collect Loop.recvY (loopRun ms) := by
  obtain ⟨hsentX, hsentY⟩ := sent_refines ms h
  obtain ⟨hrecvX, hrecvY⟩ := recv_refines ms h
  have hloop := portLine.refines loopMachine follows_init follows_step ms h
  exact ⟨hloop.1, hsentX, hsentY, hrecvX, hrecvY⟩

namespace LineRun

/-- A read, a write with its data, and two reads. -/
def flits : List Flit := [readCmd, writeCmd, 1, 2, 3, 4, setBit readCmd 168, setBit readCmd 169]

/-- In a round every clock ticks once.  Node X is offered the next flit, and a frame that arrives in round 9
fails its CRC check. -/
def round (n : ℕ) : List LineMove :=
  [.x ⟨flits.getD n 0, decide (n < flits.length), true, true, true⟩, .usrX {},
    .usrY { serdes_rx_crc_ok := decide (n ≠ 9) }, .y ⟨0, false, true, true, true⟩]

/-- The flits on their way from X to Y; the first frame is sent twice. -/
def resent : List LineMove := (List.range 64).flatMap round

lemma resent_ok : portLine.Meets StepOk resent := by decide +kernel

end LineRun

/-- The parser stalls over the first frame, and all flits come in. -/
theorem port_line_refines_resent :
    (portLine.run (LineRun.resent.take 80)).xy.lane.rx.parser_stall = true
      ∧ loopMachine.collect Loop.recvY (loopRun LineRun.resent) = LineRun.flits := by
  have hrecv : portLine.collect recvY LineRun.resent = LineRun.flits := by decide +kernel
  rw [← (port_line_refines _ LineRun.resent_ok).2.2.2.2]
  exact ⟨by decide +kernel, hrecv⟩

/-! ## Delivery -/

/-- The flits without the credits that ride on the commands among them. -/
def clearCreds : Phase → List Flit → List Flit
  | _, [] => []
  | p, f :: fs => (if p.isCmd then setField f 27 0#8 else f) :: clearCreds (p.next f) fs

lemma clearCreds_append (p : Phase) (fs gs : List Flit) :
    clearCreds p (fs ++ gs) = clearCreds p fs ++ clearCreds (phaseAfter p fs) gs := by
  induction fs generalizing p with
  | nil => rfl
  | cons f fs ih =>
      rw [List.cons_append, clearCreds, clearCreds, ih, List.cons_append]
      rfl

lemma clearCreds_isPrefix (p : Phase) {fs gs : List Flit} (h : fs <+: gs) :
    clearCreds p fs <+: clearCreds p gs := by
  obtain ⟨rest, rfl⟩ := h
  rw [clearCreds_append]
  exact List.prefix_append _ _

lemma clearCreds_stamped (p : Phase) (f : Flit) (c : BitVec 8) :
    clearCreds p [BckpressureEgress.stamped p f c] = clearCreds p [f] := by
  rw [BckpressureEgress.stamped]
  split_ifs with hp
  · simp only [clearCreds, if_pos hp, setField_setField]
  · rfl

namespace PortNode

/-- The flit the egress accepts in a cycle, as it is offered. -/
def offered (n : PortNode) (i : PortNodeIn) : List Flit :=
  if i.tx_tvalid && BckpressureEgress.bckprInTready (n.egrIn i) then [i.tx_tdata] else []

/-- The flit the ingress hands over in a cycle. -/
def delivers (n : PortNode) (i : PortNodeIn) : List Flit :=
  if n.igr.outdata_vld && i.rx_tready then [n.igr.outdata_q] else []

/-- The flit in the register of the ingress. -/
def arrived (n : PortNode) : List Flit := if n.igr.outdata_vld then [n.igr.outdata_q] else []

variable (n : PortNode) (i : PortNodeIn)

lemma clearCreds_accepts :
    clearCreds n.egr.phase (n.accepts i) = clearCreds n.egr.phase (n.offered i) := by
  rw [accepts, offered]
  split_ifs
  · exact clearCreds_stamped _ _ _
  · rfl

/-- The ingress hands over what it accepts. -/
lemma delivers_append : n.delivers i ++ (n.step i).arrived = n.arrived ++ receives i := by
  have hegr : (n.step i).igr = n.igr.step (igrIn i) := rfl
  rw [delivers, arrived, arrived, hegr, BckpressureIngress.step, receives, igrIn,
    BckpressureIngress.bckprInTready]
  cases i.rx_tvalid <;> cases i.rx_tready <;> cases n.igr.outdata_vld <;> simp

end PortNode

namespace PortLine

/-- The flits that node X's egress is offered and accepts in a move. -/
def offeredX (s : PortLine) : LineMove → List Flit
  | .x t => s.x.offered (s.wiresX t)
  | _ => []

def offeredY (s : PortLine) : LineMove → List Flit
  | .y t => s.y.offered (s.wiresY t)
  | _ => []

/-- The flits that node X's ingress hands over in a move. -/
def deliveredX (s : PortLine) : LineMove → List Flit
  | .x t => s.x.delivers (s.wiresX t)
  | _ => []

def deliveredY (s : PortLine) : LineMove → List Flit
  | .y t => s.y.delivers (s.wiresY t)
  | _ => []

/-- In a cycle of an LLC its ingress driver takes what its parser puts out. -/
def Hears (s : PortLine) : LineMove → Prop
  | .usrX _ => s.yx.igr.driver_in_tready s.yx.ingressIn = true
  | .usrY _ => s.xy.igr.driver_in_tready s.xy.ingressIn = true
  | _ => True

lemma Inv.hears {s : PortLine} (h : s.Inv) (m : LineMove) : s.Hears m := by
  obtain ⟨hxy, hyx⟩ := h.room
  cases m with
  | x t | y t => trivial
  | usrX u => simp [Hears, LlcIngressDriver.driver_in_tready, LlcPath.ingressIn, hyx]
  | usrY u => simp [Hears, LlcIngressDriver.driver_in_tready, LlcPath.ingressIn, hxy]

/-- What is stored is what is offered, up to the credits. -/
def Stamps (e : BckpressureEgress) (sent offered : List Flit) : Prop :=
  e.phase = phaseAfter {} sent ∧ clearCreds {} sent = clearCreds {} offered
    ∧ phaseAfter {} sent = phaseAfter {} offered

lemma Stamps.tick {n : PortNode} {sent offered : List Flit} (h : Stamps n.egr sent offered)
    (i : PortNodeIn) : Stamps (n.step i).egr (sent ++ n.accepts i) (offered ++ n.offered i) := by
  obtain ⟨hphase, hclear, hafter⟩ := h
  have hone := PortNode.clearCreds_accepts n i
  have hnext : phaseAfter n.egr.phase (n.accepts i) = phaseAfter n.egr.phase (n.offered i) := by
    rw [PortNode.accepts, PortNode.offered]
    split_ifs
    · simp
    · rfl
  rw [hphase] at hone hnext
  refine ⟨?_, ?_, ?_⟩
  · rw [tick_egr_phase, hphase, phaseAfter_append]
  · rw [clearCreds_append, clearCreds_append, hclear, hone, hafter]
  · rw [phaseAfter_append, phaseAfter_append, hnext, hafter]

lemma stamps_run (ms : List LineMove) :
    Stamps (portLine.run ms).x.egr (portLine.collect sentX ms) (portLine.collect offeredX ms)
      ∧ Stamps (portLine.run ms).y.egr (portLine.collect sentY ms) (portLine.collect offeredY ms) := by
  refine ⟨portLine.trace_invariant_all (P := fun s a b => Stamps s.x.egr a b) ⟨rfl, rfl, rfl⟩ ?_ ms,
    portLine.trace_invariant_all (P := fun s a b => Stamps s.y.egr a b) ⟨rfl, rfl, rfl⟩ ?_ ms⟩
  · intro s a b m h
    cases m with
    | x t => exact h.tick _
    | y t | usrX u | usrY u =>
        change Stamps s.x.egr (a ++ []) (b ++ [])
        rwa [List.append_nil, List.append_nil]
  · intro s a b m h
    cases m with
    | y t => exact h.tick _
    | x t | usrX u | usrY u =>
        change Stamps s.y.egr (a ++ []) (b ++ [])
        rwa [List.append_nil, List.append_nil]

/-- What an ingress has accepted it has handed over, or has in its register. -/
lemma delivered_run (ms : List LineMove) :
    portLine.collect recvX ms = portLine.collect deliveredX ms ++ (portLine.run ms).x.arrived
      ∧ portLine.collect recvY ms = portLine.collect deliveredY ms ++ (portLine.run ms).y.arrived := by
  refine ⟨portLine.trace_invariant_all (P := fun s a b => a = b ++ s.x.arrived) rfl ?_ ms,
    portLine.trace_invariant_all (P := fun s a b => a = b ++ s.y.arrived) rfl ?_ ms⟩
  · rintro s a b m rfl
    cases m with
    | x t =>
        have happ := PortNode.delivers_append s.x (s.wiresX t)
        change b ++ s.x.arrived ++ PortNode.receives _ = b ++ s.x.delivers _ ++ (s.x.step _).arrived
        rw [List.append_assoc, List.append_assoc, happ]
    | y t | usrX u | usrY u =>
        change b ++ s.x.arrived ++ [] = b ++ [] ++ s.x.arrived
        rw [List.append_nil, List.append_nil]
  · rintro s a b m rfl
    cases m with
    | y t =>
        have happ := PortNode.delivers_append s.y (s.wiresY t)
        change b ++ s.y.arrived ++ PortNode.receives _ = b ++ s.y.delivers _ ++ (s.y.step _).arrived
        rw [List.append_assoc, List.append_assoc, happ]
    | x t | usrX u | usrY u =>
        change b ++ s.y.arrived ++ [] = b ++ [] ++ s.y.arrived
        rw [List.append_nil, List.append_nil]

/-- What an ingress has accepted is a beginning of what the egress of the other node was offered. -/
lemma received_prefix (ms : List LineMove) (h : portLine.Meets StepOk ms) :
    clearCreds {} (portLine.collect recvY ms) <+: clearCreds {} (portLine.collect offeredX ms)
      ∧ clearCreds {} (portLine.collect recvX ms)
        <+: clearCreds {} (portLine.collect offeredY ms) := by
  obtain ⟨⟨-, hstampX, -⟩, -, hstampY, -⟩ := stamps_run ms
  obtain ⟨hsentX, hsentY⟩ := sent_eq ms h
  rw [← hstampX, ← hstampY, hsentX, hsentY]
  exact ⟨clearCreds_isPrefix _ (List.prefix_append _ _), clearCreds_isPrefix _ (List.prefix_append _ _)⟩

end PortLine

/-- **A port delivers what the other one was offered.**  In every run whose moves meet `StepOk`, what
the ingress of a node has handed over is a beginning of what the egress of the other was offered, up
to the credit field of the commands, and the driver behind a parser is ready in every cycle. -/
theorem port_line_delivers (ms : List LineMove) (h : portLine.Meets StepOk ms) :
    clearCreds {} (portLine.collect deliveredY ms) <+: clearCreds {} (portLine.collect offeredX ms)
      ∧ clearCreds {} (portLine.collect deliveredX ms)
        <+: clearCreds {} (portLine.collect offeredY ms)
      ∧ portLine.Meets Hears ms := by
  obtain ⟨hdelX, hdelY⟩ := delivered_run ms
  obtain ⟨hrecvY, hrecvX⟩ := received_prefix ms h
  rw [hdelY] at hrecvY
  rw [hdelX] at hrecvX
  exact ⟨(clearCreds_isPrefix _ (List.prefix_append _ _)).trans hrecvY,
    (clearCreds_isPrefix _ (List.prefix_append _ _)).trans hrecvX,
    portLine.meets_of_invariant inv_init (fun s m hs (hok : StepOk s m) => hs.step hok)
      (fun s m hs _ => hs.hears m) ms h⟩

/-- The flits are handed over, once each. -/
theorem port_line_delivers_resent :
    portLine.collect deliveredY LineRun.resent = LineRun.flits
      ∧ clearCreds {} LineRun.flits <+: clearCreds {} (portLine.collect offeredX LineRun.resent)
      ∧ portLine.Meets Hears LineRun.resent := by
  have hdelivered : portLine.collect deliveredY LineRun.resent = LineRun.flits := by decide +kernel
  obtain ⟨hbegin, -, hhears⟩ := port_line_delivers _ LineRun.resent_ok
  rw [hdelivered] at hbegin
  exact ⟨hdelivered, hbegin, hhears⟩

end ThymesisFlow
