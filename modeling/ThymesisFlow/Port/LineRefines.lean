import ThymesisFlow.Lib.Refinement
import ThymesisFlow.Port.Path

/-!
# The link layer implements the lossless link

`LlcPathInv` puts together the invariants of the two drivers and of the lane.  Under it a cycle of the
sending LLC leaves `toLink` alone (`send_toLink`), and one of the receiving LLC moves at most one flit
from the wire into the ingress FIFO (`receive_toLink`), provided the FIFO has room; that it has is
what the credits are for (`Inv.room`).  So two ports with their link layers refine the two ports
of the credit scheme.
-/

namespace ThymesisFlow

open LlcPath

variable {p : LlcPath} {e : BckpressureEgress}

/-! ## One direction -/

/-- **The invariant of a path**, whose first flits come from the backpressure module `e`. -/
structure LlcPathInv (p : LlcPath) (e : BckpressureEgress) (taken given : List Flit) : Prop where
  egr : LlcEgressDriver.Inv p.egr taken p.lane.accepted p.egr.stages
  igr : LlcIngressDriver.Inv p.igr p.lane.emitted given
  lane : ∃ c q r fs, p.lane.Inv c q r fs
  clean : nopPadding.Clean {} (taken ++ p.egress_fifo ++ e.held)
  phase : e.phase = nopPadding.after {} (taken ++ p.egress_fifo ++ e.held)

namespace LlcPathInv

variable {taken given : List Flit}

lemma init : LlcPathInv {} {} [] [] where
  egr := LlcEgressDriver.inv_init
  igr := ⟨rfl, rfl⟩
  lane := ⟨0, [], {}, [], Lane.Inv.init⟩
  clean := trivial
  phase := rfl

lemma stages_eq {s : LlcEgressDriver} {pend : List Flit} (h : s.Pending pend) : s.stages = pend := by
  obtain ⟨q, hq, rfl⟩ := h
  rw [LlcEgressDriver.stages, hq.items_eq]

/-- The parser has put out a beginning of what the framer has accepted. -/
lemma isPrefix (h : LlcPathInv p e taken given) : p.lane.emitted <+: p.lane.accepted := by
  obtain ⟨c, q, r, fs, hlane⟩ := h.lane
  exact hlane.isPrefix

lemma accepted_eq (h : LlcPathInv p e taken given) :
    p.lane.emitted ++ (p.lane.accepted.drop p.lane.emitted.length ++ p.egr.stages)
      = p.lane.accepted ++ p.egr.stages := by
  obtain ⟨rest, hrest⟩ := h.isPrefix
  rw [← hrest, List.drop_left, List.append_assoc]

/-! ### The sending side -/

lemma accepted_send (p : LlcPath) (u : UsrIn) (rx : Parser) :
    (p.send u rx).lane.accepted = p.lane.accepted ++ p.egr.emitted (p.egressIn u) := rfl

/-- What the egress driver takes comes from the front of the FIFO. -/
lemma taken_append (p : LlcPath) (u : UsrIn) (rx : Parser) :
    p.egr.accepted (p.egressIn u) ++ (p.send u rx).egress_fifo = p.egress_fifo := by
  rw [send, LlcEgressDriver.accepted, egressIn]
  cases hfifo : p.egress_fifo with
  | nil => simp
  | cons f rest => split_ifs <;> rfl

/-- The driver after a cycle, and what it has handed over. -/
lemma egr_send (h : LlcPathInv p e taken given) (u : UsrIn) (rx : Parser) :
    LlcEgressDriver.Inv (p.send u rx).egr (taken ++ p.egr.accepted (p.egressIn u))
        (p.send u rx).lane.accepted (p.send u rx).egr.stages
      ∧ p.egr.emitted (p.egressIn u) ++ (p.send u rx).egr.stages
        = p.egr.stages ++ p.egr.entering (p.egressIn u) := by
  have hclean := h.clean
  rw [← taken_append p u rx, ← List.append_assoc, List.append_assoc] at hclean
  obtain ⟨pend, hinv⟩ := h.egr.step (p.egressIn u) ((nopPadding.all_append).mp hclean).1
  obtain ⟨pend', hpend, hout⟩ := LlcEgressDriver.pending_step h.egr.pending (p.egressIn u)
  have heq : (p.send u rx).egr.stages = pend := stages_eq hinv.pending
  have heq' : (p.send u rx).egr.stages = pend' := stages_eq hpend
  refine ⟨?_, by rw [heq', hout]⟩
  rw [heq]
  exact hinv

/-- **A cycle of the sending LLC moves no flit off the link.** -/
lemma send_toLink (h : LlcPathInv p e taken given) (u : UsrIn) (rx : Parser) :
    (p.send u rx).toLink = p.toLink := by
  have hle := h.isPrefix.length_le
  have hout := (egr_send h u rx).2
  have hclean := h.clean
  rw [← taken_append p u rx, ← List.append_assoc, List.append_assoc] at hclean
  obtain ⟨hstrip, -, -⟩ :=
    LlcEgressDriver.entering_stripped h.egr.phase_eq (p.egressIn u) ((nopPadding.all_append).mp hclean).1
  -- what is on its way leaves the automaton in the phase of the driver
  have hafter : nopPadding.after p.igr.phase (p.lane.accepted.drop p.lane.emitted.length ++ p.egr.stages)
      = p.egr.phase := by
    rw [h.igr.phase_eq, ← nopPadding.after_append, h.accepted_eq, h.egr.phase_eq, ← h.egr.stripped,
      nopPadding.after_strip]
  have hwire : (p.send u rx).lane.accepted.drop p.lane.emitted.length ++ (p.send u rx).egr.stages
      = p.lane.accepted.drop p.lane.emitted.length ++ p.egr.stages
        ++ p.egr.entering (p.egressIn u) := by
    rw [accepted_send, List.drop_append_of_le_length hle, List.append_assoc, hout, List.append_assoc]
  rw [toLink, toLink]
  congr 1
  change p.igr.held ++ nopPadding.strip p.igr.phase
    ((p.send u rx).lane.accepted.drop p.lane.emitted.length ++ (p.send u rx).egr.stages)
      ++ (p.send u rx).egress_fifo = _
  rw [hwire, nopPadding.strip_append, hafter, hstrip, List.append_assoc, List.append_assoc,
    taken_append, List.append_assoc]

/-! ### The receiving side -/

/-- While the FIFO has room, the driver takes what the parser puts out. -/
lemma igr_accepted (hroom : p.ingress_fifo.length < ingressFifoDepth) (u : UsrIn) :
    p.lane.emitted ++ p.igr.accepted p.ingressIn = (p.receive u).lane.emitted := by
  have hready : p.igr.driver_in_tready p.ingressIn = true := by
    simp [LlcIngressDriver.driver_in_tready, ingressIn, hroom]
  rw [LlcIngressDriver.accepted, hready, Bool.and_true]
  rfl

lemma igr_receive (h : LlcPathInv p e taken given) (hroom : p.ingress_fifo.length < ingressFifoDepth)
    (u : UsrIn) (hlane : ∃ c q r fs, (p.receive u).lane.Inv c q r fs) :
    LlcIngressDriver.Inv (p.receive u).igr (p.receive u).lane.emitted
        (given ++ p.igr.emitted p.ingressIn)
      ∧ p.igr.emitted p.ingressIn ++ (p.receive u).toLink.wire = p.toLink.wire := by
  obtain ⟨c, q, r, fs, hlane⟩ := hlane
  obtain ⟨rest, hrest⟩ := hlane.isPrefix
  have hacc := igr_accepted hroom u
  have hall : p.lane.accepted = p.lane.emitted ++ p.igr.accepted p.ingressIn ++ rest := by
    rw [hacc, hrest]
    rfl
  have hshort := h.egr.short
  rw [hall, List.append_assoc, List.append_assoc] at hshort
  have hshort' := ((nopPadding.all_append).mp ((nopPadding.all_append).mp hshort).2).1
  rw [← h.igr.phase_eq] at hshort'
  have hphase := LlcIngressDriver.step_phase p.igr p.ingressIn hshort'
  have hout := LlcIngressDriver.step_out p.igr p.ingressIn
  refine ⟨⟨?_, ?_⟩, ?_⟩
  · rw [← hacc, nopPadding.after_append, ← h.igr.phase_eq]
    exact hphase
  · rw [← hacc, nopPadding.strip_append, ← h.igr.stripped, List.append_assoc, List.append_assoc,
      ← h.igr.phase_eq]
    exact congrArg _ hout
  · have hdrop : (p.receive u).lane.accepted.drop (p.receive u).lane.emitted.length = rest := by
      rw [← hrest, List.drop_left]
    have hdrop' : p.lane.accepted.drop p.lane.emitted.length = p.igr.accepted p.ingressIn ++ rest := by
      rw [hall, List.append_assoc, List.drop_left]
    change _ ++ ((p.igr.step p.ingressIn).held
      ++ nopPadding.strip (p.igr.step p.ingressIn).phase (_ ++ p.egr.stages) ++ p.egress_fifo)
        = p.igr.held ++ nopPadding.strip p.igr.phase (_ ++ p.egr.stages) ++ _
    rw [hdrop, hdrop', List.append_assoc (p.igr.accepted p.ingressIn), nopPadding.strip_append p.igr.phase,
      ← hphase, ← List.append_assoc, ← List.append_assoc, ← List.append_assoc]
    exact congrArg (· ++ _ ++ _) hout

/-- **A cycle of the receiving LLC carries at most one flit.** -/
lemma receive_toLink (h : LlcPathInv p e taken given) (hroom : p.ingress_fifo.length < ingressFifoDepth)
    (u : UsrIn) (hlane : ∃ c q r fs, (p.receive u).lane.Inv c q r fs) :
    p.igr.emitted p.ingressIn = [] ∧ (p.receive u).toLink = p.toLink
      ∨ ∃ f, p.igr.emitted p.ingressIn = [f] ∧ (p.receive u).toLink = p.toLink.carry := by
  have hwire := (igr_receive h hroom u hlane).2
  have hfifo : (p.receive u).toLink.fifo = p.toLink.fifo ++ p.igr.emitted p.ingressIn := rfl
  have hemitted : p.igr.emitted p.ingressIn = [] ∨ ∃ f, p.igr.emitted p.ingressIn = [f] := by
    rw [LlcIngressDriver.emitted]
    split_ifs
    · exact .inr ⟨_, rfl⟩
    · exact .inl rfl
  rcases hemitted with hnone | ⟨f, hone⟩
  · rw [hnone, List.nil_append] at hwire
    rw [hnone, List.append_nil] at hfifo
    exact .inl ⟨hnone, congrArg₂ Link.mk hwire hfifo⟩
  · rw [hone] at hwire hfifo
    refine .inr ⟨f, hone, ?_⟩
    rw [Link.carry, ← hwire]
    exact congrArg (Link.mk _) hfifo

/-! ### The invariant after a move -/

lemma send (h : LlcPathInv p e taken given) (u : UsrIn) {rx : Parser}
    (hok : p.lane.SendOk ((p.endIn u).framerIn rx)) :
    LlcPathInv (p.send u rx) e (taken ++ p.egr.accepted (p.egressIn u)) given := by
  obtain ⟨c, q, r, fs, hlane⟩ := h.lane
  obtain ⟨c', q', hlane'⟩ := hlane.send hok
  have hsame : taken ++ p.egr.accepted (p.egressIn u) ++ (p.send u rx).egress_fifo
      = taken ++ p.egress_fifo := by
    rw [List.append_assoc, taken_append]
  refine ⟨(egr_send h u rx).1, h.igr, ⟨c', q', r, fs, hlane'⟩, ?_, ?_⟩
  · rw [hsame]
    exact h.clean
  · rw [hsame]
    exact h.phase

lemma lane_receive (h : LlcPathInv p e taken given) (u : UsrIn) :
    ∃ c q r fs, (p.receive u).lane.Inv c q r fs := by
  obtain ⟨c, q, r, fs, hlane⟩ := h.lane
  obtain ⟨r', fs', hlane'⟩ := hlane.receive u.serdes_rx_tvalid u.serdes_rx_crc_ok
  exact ⟨c, q, r', fs', hlane'⟩

lemma receive (h : LlcPathInv p e taken given) (hroom : p.ingress_fifo.length < ingressFifoDepth)
    (u : UsrIn) : LlcPathInv (p.receive u) e taken (given ++ p.igr.emitted p.ingressIn) where
  egr := h.egr
  igr := (igr_receive h hroom u (h.lane_receive u)).1
  lane := h.lane_receive u
  clean := h.clean
  phase := h.phase

lemma pop (h : LlcPathInv p e taken given) (fs : List Flit) : LlcPathInv (p.pop fs) e taken given :=
  ⟨h.egr, h.igr, h.lane, h.clean, h.phase⟩

/-- What is handed over, and what is then in the register of the egress. -/
lemma handsOver_append (n : PortNode) (i : PortNodeIn) :
    n.handsOver i ++ (n.step i).egr.held = n.egr.held ++ n.accepts i := by
  simpa [inflight, Link.push] using tick_inflight n {} i

/-- No accepted flit is a NOP of the link layer. -/
lemma accepts_clean {n : PortNode} {i : PortNodeIn}
    (hcmd : i.tx_tvalid = true → n.egr.phase.isCmd = true → isNopCmd i.tx_tdata = false) :
    nopPadding.Clean n.egr.phase (n.accepts i)
      ∧ (n.step i).egr.phase = nopPadding.after n.egr.phase (n.accepts i) := by
  rw [tick_egr_phase, PortNode.accepts]
  split_ifs with h
  · rw [Bool.and_eq_true] at h
    have hpad : nopPadding.pad n.egr.phase
        (BckpressureEgress.stamped n.egr.phase i.tx_tdata (creditsAvailable n.loc_cmgr)) = false := by
      have hnop : isNopCmd (BckpressureEgress.stamped n.egr.phase i.tx_tdata
          (creditsAvailable n.loc_cmgr)) = isNopCmd i.tx_tdata := by
        rw [BckpressureEgress.stamped]
        split_ifs
        · rw [isNopCmd, bit_setField_of_disjoint _ _ _ _ (by omega),
            bit_setField_of_disjoint _ _ _ _ (by omega), isNopCmd]
        · rfl
      change (n.egr.phase.isCmd && isNopCmd _) = false
      rw [hnop]
      cases hphase : n.egr.phase.isCmd with
      | true => exact hcmd h.1 hphase
      | false => rfl
    exact ⟨⟨hpad, trivial⟩, (nopPadding_next_of_clean hpad).symm⟩
  · exact ⟨trivial, rfl⟩

lemma push {n : PortNode} (h : LlcPathInv p n.egr taken given) {i : PortNodeIn}
    (hcmd : i.tx_tvalid = true → n.egr.phase.isCmd = true → isNopCmd i.tx_tdata = false) :
    LlcPathInv (p.push (n.handsOver i)) (n.step i).egr taken given := by
  obtain ⟨hclean, hphase⟩ := accepts_clean hcmd
  have hall : taken ++ (p.push (n.handsOver i)).egress_fifo ++ (n.step i).egr.held
      = taken ++ p.egress_fifo ++ n.egr.held ++ n.accepts i := by
    change taken ++ (p.egress_fifo ++ n.handsOver i) ++ _ = _
    rw [← List.append_assoc taken, List.append_assoc _ (n.handsOver i), handsOver_append,
      ← List.append_assoc]
  refine ⟨h.egr, h.igr, h.lane, ?_, ?_⟩
  · rw [hall]
    refine (nopPadding.all_append).mpr ⟨h.clean, ?_⟩
    rw [← h.phase]
    exact hclean
  · rw [hall, nopPadding.after_append, ← h.phase, hphase]

end LlcPathInv

/-! ## Two nodes -/

/-- The credits leave room in the ingress FIFO. -/
lemma room_of_total {a b : PortNode} {ab ba : Link} (h : creditTotal a b ab ba = 254) :
    ab.fifo.length < ingressFifoDepth := by
  have hfifo := fifo_length_le a ab
  rw [creditTotal] at h
  change _ < 256
  omega

structure PortLine.Inv (s : PortLine) : Prop where
  xy : ∃ taken given, LlcPathInv s.xy s.x.egr taken given
  yx : ∃ taken given, LlcPathInv s.yx s.y.egr taken given
  credits : CreditInv s.x s.y s.xy.toLink s.yx.toLink

namespace PortLine

lemma inv_init : Inv {} where
  xy := ⟨[], [], LlcPathInv.init⟩
  yx := ⟨[], [], LlcPathInv.init⟩
  credits := ⟨rfl, rfl, rfl, rfl⟩

variable {s : PortLine}

lemma Inv.room (h : s.Inv) : s.xy.ingress_fifo.length < ingressFifoDepth
    ∧ s.yx.ingress_fifo.length < ingressFifoDepth :=
  ⟨room_of_total h.credits.total_ab, room_of_total h.credits.total_ba⟩

lemma push_toLink (p : LlcPath) (fs : List Flit) : (p.push fs).toLink = p.toLink.push fs :=
  congrArg (Link.mk · _) (List.append_assoc _ _ _).symm

/-- **What a move is to the credit scheme.** -/
lemma Inv.toLoop_step (h : s.Inv) {m : LineMove} :
    (s.step m).toLoop = loopMachine.runFrom s.toLoop (s.loopMoves m) := by
  obtain ⟨hroomXY, hroomYX⟩ := h.room
  obtain ⟨taken, given, hxy⟩ := h.xy
  obtain ⟨taken', given', hyx⟩ := h.yx
  cases m with
  | x t => exact congrArg (fun l => Loop.mk _ _ l _) (push_toLink _ _)
  | y t => exact congrArg (fun l => Loop.mk _ _ _ l) (push_toLink _ _)
  | usrX u =>
      have hsend := hxy.send_toLink u s.yx.lane.rx
      rcases hyx.receive_toLink hroomYX u (hyx.lane_receive u) with ⟨hnone, hlink⟩ | ⟨f, hone, hlink⟩
      · rw [loopMoves, hnone]
        exact congrArg₂ (Loop.mk _ _) hsend hlink
      · rw [loopMoves, hone]
        exact congrArg₂ (Loop.mk _ _) hsend hlink
  | usrY u =>
      have hsend := hyx.send_toLink u s.xy.lane.rx
      rcases hxy.receive_toLink hroomXY u (hxy.lane_receive u) with ⟨hnone, hlink⟩ | ⟨f, hone, hlink⟩
      · rw [loopMoves, hnone]
        exact congrArg₂ (Loop.mk _ _) hlink hsend
      · rw [loopMoves, hone]
        exact congrArg₂ (Loop.mk _ _) hlink hsend

/-- The credits are conserved by the moves that a move is to the credit scheme. -/
lemma creditInv_runFrom {a : Loop} (h : CreditInv a.x a.y a.xy a.yx) (ms : List LoopMove) :
    CreditInv (loopMachine.runFrom a ms).x (loopMachine.runFrom a ms).y
      (loopMachine.runFrom a ms).xy (loopMachine.runFrom a ms).yx := by
  induction ms generalizing a with
  | nil => exact h
  | cons m ms ih => exact ih (creditInv_step a m h)

/-- **Step lemma.** -/
lemma Inv.step (h : s.Inv) {m : LineMove} (hok : s.StepOk m) : (s.step m).Inv := by
  have hcredits : CreditInv (s.step m).toLoop.x (s.step m).toLoop.y (s.step m).toLoop.xy
      (s.step m).toLoop.yx := by
    rw [h.toLoop_step]
    exact creditInv_runFrom (a := s.toLoop) h.credits _
  obtain ⟨hroomXY, hroomYX⟩ := h.room
  obtain ⟨taken, given, hxy⟩ := h.xy
  obtain ⟨taken', given', hyx⟩ := h.yx
  cases m with
  | x t => exact ⟨⟨_, _, hxy.push hok⟩, ⟨_, _, hyx.pop _⟩, hcredits⟩
  | y t => exact ⟨⟨_, _, hxy.pop _⟩, ⟨_, _, hyx.push hok⟩, hcredits⟩
  | usrX u => exact ⟨⟨_, _, hxy.send u hok⟩, ⟨_, _, hyx.receive hroomYX u⟩, hcredits⟩
  | usrY u => exact ⟨⟨_, _, hxy.receive hroomXY u⟩, ⟨_, _, hyx.send u hok⟩, hcredits⟩

end PortLine

end ThymesisFlow
