import ThymesisFlow.Lib.Machine
import ThymesisFlow.Port.Bckpressure

/-!
# Credit conservation between two nodes

Two nodes as `thymesisflow_top.v` wires them for one port (the pipeline of QSFP0): at each end a
bckpressure egress and ingress, the manager of the credits for the remote ingress FIFO and the
manager of the credits owed for the local one.  Between them lies one lossless, in-order link
for each direction, whose delay is arbitrary: a flit waits on the wire until a `carry` move puts
it into the 256 deep FIFO in front of the remote ingress.  The nodes tick independently.

What a tick can do is said once (`tick_inflight`, `tick_rem_cmgr`, `tick_loc_cmgr`): it appends
the flits it accepts to the outgoing link and takes the flits it receives from the incoming one.
Conservation (`CreditInv`) follows by adding up, and holds on every run (`creditInv_run`).
-/

namespace ThymesisFlow

/-! ## One node -/

/-- The four modules of one port of a node. -/
structure PortNode where
  egr : BckpressureEgress := {}
  igr : BckpressureIngress := {}
  rem_cmgr : CreditReg := egressInitCreds.setWidth 9
  loc_cmgr : CreditReg := ingressInitCreds.setWidth 9
  deriving DecidableEq, Repr

/-- The wires into a port in one cycle: from the routing stage (`tx`), from the link's egress
FIFO, from the link's ingress FIFO (`rx`), and the ready of the routing stage behind it. -/
structure PortNodeIn where
  tx_tdata : Flit
  tx_tvalid : Bool
  link_tready : Bool
  rx_tdata : Flit
  rx_tvalid : Bool
  rx_tready : Bool

namespace PortNode

def egrIn (n : PortNode) (i : PortNodeIn) : BckpressureEgressIn where
  bckpr_in_tdata := i.tx_tdata
  bckpr_in_tvalid := i.tx_tvalid
  bckpr_out_tready := i.link_tready
  port_creds_avail := creditsAvailable n.rem_cmgr
  local_rx_creds := creditsAvailable n.loc_cmgr

def igrIn (i : PortNodeIn) : BckpressureIngressIn where
  bckpr_in_tdata := i.rx_tdata
  bckpr_in_tvalid := i.rx_tvalid
  bckpr_out_tready := i.rx_tready

/-- `TF_QSFP0_REMOTE_INGR_CMGR`: its get-all input is left at zero. -/
def remCmgrIn (n : PortNode) (i : PortNodeIn) : CreditMgrIn where
  returned_credits := n.igr.retRemoteRxCreds (igrIn i)
  get_all_credits := false
  consume_credit := BckpressureEgress.portConsumeCreds (n.egrIn i)

/-- `TF_QSFP0_LOCAL_INGR_CMGR`: its consume input is left at zero. -/
def locCmgrIn (n : PortNode) (i : PortNodeIn) : CreditMgrIn where
  returned_credits := BckpressureIngress.cntLocalRxCreds (igrIn i)
  get_all_credits := n.egr.localRxGetall (n.egrIn i)
  consume_credit := false

def step (n : PortNode) (i : PortNodeIn) : PortNode where
  egr := n.egr.step (n.egrIn i)
  igr := n.igr.step (igrIn i)
  rem_cmgr := creditMgrStep n.rem_cmgr (n.remCmgrIn i)
  loc_cmgr := creditMgrStep n.loc_cmgr (n.locCmgrIn i)

/-- The flits the egress accepts in this cycle, as it stores them. -/
def accepts (n : PortNode) (i : PortNodeIn) : List Flit :=
  if i.tx_tvalid && BckpressureEgress.bckprInTready (n.egrIn i) then
    [BckpressureEgress.stamped n.egr.phase i.tx_tdata (creditsAvailable n.loc_cmgr)]
  else []

/-- The flits the egress hands over to the link in this cycle. -/
def handsOver (n : PortNode) (i : PortNodeIn) : List Flit :=
  if n.egr.bckprOutTvalid (creditsAvailable n.rem_cmgr) && i.link_tready then [n.egr.outdata_q]
  else []

/-- The flits the ingress accepts in this cycle. -/
def receives (i : PortNodeIn) : List Flit :=
  if i.rx_tvalid && BckpressureIngress.bckprInTready (igrIn i) then [i.rx_tdata] else []

end PortNode

/-! ## The link of one direction -/

/-- A lossless in-order link: the flits on their way, and those in the ingress FIFO behind the
clock domain crossing. -/
structure Link where
  wire : List Flit := []
  fifo : List Flit := []
  deriving DecidableEq, Repr

/-- The depth of `clock_domain_cross_fifo`. -/
def ingressFifoDepth : ℕ := 256

namespace Link

/-- One flit arrives: the receive side of the serdes cannot stall, so no full FIFO stops it. -/
def carry (l : Link) : Link :=
  match l.wire with
  | [] => l
  | f :: rest => { wire := rest, fifo := l.fifo ++ [f] }

def push (l : Link) (fs : List Flit) : Link := { l with wire := l.wire ++ fs }

def pop (l : Link) (fs : List Flit) : Link := { l with fifo := l.fifo.drop fs.length }

end Link

/-- What the surroundings of a node choose in one cycle.  The ingress FIFO may show its head late
(`rx_present`), never a flit it does not hold. -/
structure TickIn where
  tx_tdata : Flit
  tx_tvalid : Bool
  link_tready : Bool
  rx_present : Bool
  rx_tready : Bool

/-- The wires of a node whose incoming link is `inc`. -/
def TickIn.wires (t : TickIn) (inc : Link) : PortNodeIn where
  tx_tdata := t.tx_tdata
  tx_tvalid := t.tx_tvalid
  link_tready := t.link_tready
  rx_tdata := inc.fifo.headD 0
  rx_tvalid := t.rx_present && !inc.fifo.isEmpty
  rx_tready := t.rx_tready

/-! ## Two nodes -/

structure Loop where
  x : PortNode := {}
  y : PortNode := {}
  xy : Link := {}
  yx : Link := {}
  deriving DecidableEq, Repr

inductive LoopMove
  | x (t : TickIn)
  | y (t : TickIn)
  | carryXY
  | carryYX

def Loop.step (s : Loop) : LoopMove → Loop
  | .x t =>
      let i := t.wires s.yx
      { s with x := s.x.step i, xy := s.xy.push (s.x.handsOver i), yx := s.yx.pop (PortNode.receives i) }
  | .y t =>
      let i := t.wires s.xy
      { s with y := s.y.step i, yx := s.yx.push (s.y.handsOver i), xy := s.xy.pop (PortNode.receives i) }
  | .carryXY => { s with xy := s.xy.carry }
  | .carryYX => { s with yx := s.yx.carry }

def loopMachine : Machine Loop LoopMove := ⟨{}, Loop.step⟩

/-- The flits node X's egress accepts in a move, as it stores them. -/
def Loop.sentX (s : Loop) : LoopMove → List Flit
  | .x t => s.x.accepts (t.wires s.yx)
  | _ => []

/-- The flits node Y's egress accepts in a move, as it stores them. -/
def Loop.sentY (s : Loop) : LoopMove → List Flit
  | .y t => s.y.accepts (t.wires s.xy)
  | _ => []

/-- The flits node X's ingress accepts in a move. -/
def Loop.recvX (s : Loop) : LoopMove → List Flit
  | .x t => PortNode.receives (t.wires s.yx)
  | _ => []

/-- The flits node Y's ingress accepts in a move. -/
def Loop.recvY (s : Loop) : LoopMove → List Flit
  | .y t => PortNode.receives (t.wires s.xy)
  | _ => []

/-! ## Flits in flight -/

/-- The flit in the output register of the egress. -/
def BckpressureEgress.held (e : BckpressureEgress) : List Flit :=
  if e.outdata_vld then [e.outdata_q] else []

/-- The flits accepted by the egress of `n` and not yet by the ingress at the other end of its
outgoing link `l`, oldest first. -/
def inflight (n : PortNode) (l : Link) : List Flit := l.fifo ++ l.wire ++ n.egr.held

lemma inflight_carry (n : PortNode) (l : Link) : inflight n l.carry = inflight n l := by
  rw [Link.carry]
  cases h : l.wire with
  | nil => rfl
  | cons f rest => simp [inflight, h]

/-- Popping what was received takes it from the front of the flits in flight. -/
lemma inflight_pop (n : PortNode) (l : Link) (t : TickIn) :
    inflight n l = PortNode.receives (t.wires l)
      ++ inflight n (l.pop (PortNode.receives (t.wires l))) := by
  rw [PortNode.receives]
  split_ifs with h
  · cases hf : l.fifo with
    | nil => simp [TickIn.wires, hf] at h
    | cons f rest => simp [inflight, Link.pop, TickIn.wires, hf]
  · simp [inflight, Link.pop]

/-- **What a tick does to the outgoing link.**  The flits in flight grow by what is accepted: a
flit is handed over exactly when its register is needed for the next one. -/
lemma tick_inflight (n : PortNode) (l : Link) (i : PortNodeIn) :
    inflight (n.step i) (l.push (n.handsOver i)) = inflight n l ++ n.accepts i := by
  have hvld : n.egr.bckprOutTvalid (creditsAvailable n.rem_cmgr)
      = (n.egr.outdata_vld && BckpressureEgress.bckprOff (creditsAvailable n.rem_cmgr)) := rfl
  have hrdy : BckpressureEgress.portRdy (n.egrIn i)
      = (i.link_tready && BckpressureEgress.bckprOff (creditsAvailable n.rem_cmgr)) := rfl
  have hin : (n.egrIn i).bckpr_in_tvalid = i.tx_tvalid := rfl
  rw [PortNode.handsOver, PortNode.accepts, hvld, BckpressureEgress.bckprInTready, hrdy]
  simp only [inflight, Link.push, PortNode.step, BckpressureEgress.step, BckpressureEgress.held,
    hrdy, hin]
  cases i.link_tready <;> cases BckpressureEgress.bckprOff (creditsAvailable n.rem_cmgr) <;>
    cases i.tx_tvalid <;> cases n.egr.outdata_vld <;> simp [PortNode.egrIn]

lemma tick_egr_phase (n : PortNode) (i : PortNodeIn) :
    (n.step i).egr.phase = phaseAfter n.egr.phase (n.accepts i) := by
  by_cases h : (i.tx_tvalid && BckpressureEgress.portRdy (n.egrIn i)) = true
  · have hstep : (n.step i).egr.phase = n.egr.phase.next i.tx_tdata :=
      congrArg BckpressureEgress.phase (if_pos h)
    have hacc : n.accepts i = [_] := if_pos h
    rw [hstep, hacc]
    simp
  · have hstep : (n.step i).egr.phase = n.egr.phase :=
      (congrArg BckpressureEgress.phase (if_neg h)).trans rfl
    have hacc : n.accepts i = [] := if_neg h
    rw [hstep, hacc, phaseAfter_nil]

lemma tick_igr_phase (n : PortNode) (i : PortNodeIn) :
    (n.step i).igr.phase = phaseAfter n.igr.phase (PortNode.receives i) := by
  by_cases h : (i.rx_tvalid && i.rx_tready) = true
  · have hstep : (n.step i).igr.phase = n.igr.phase.next i.rx_tdata :=
      congrArg BckpressureIngress.phase (if_pos h)
    have hrcv : PortNode.receives i = [i.rx_tdata] := if_pos h
    rw [hstep, hrcv, phaseAfter_cons, phaseAfter_nil]
  · have hstep : (n.step i).igr.phase = n.igr.phase :=
      (congrArg BckpressureIngress.phase (if_neg h)).trans rfl
    have hrcv : PortNode.receives i = [] := if_neg h
    rw [hstep, hrcv, phaseAfter_nil]

/-! ## What a tick does to the credits -/

lemma consume_toNat (n : PortNode) (i : PortNodeIn) :
    (n.remCmgrIn i).consume_credit.toNat = (n.accepts i).length := by
  have hcons : (n.remCmgrIn i).consume_credit
      = (i.tx_tvalid && BckpressureEgress.portRdy (n.egrIn i)) := Bool.and_comm _ _
  by_cases h : (i.tx_tvalid && BckpressureEgress.portRdy (n.egrIn i)) = true
  · have hacc : n.accepts i = [_] := if_pos h
    rw [hcons, h, hacc]
    rfl
  · have hacc : n.accepts i = [] := if_neg h
    rw [hcons, Bool.eq_false_iff.mpr h, hacc]
    rfl

lemma returned_toNat (n : PortNode) (i : PortNodeIn) :
    (n.remCmgrIn i).returned_credits.toNat = creditsIn n.igr.phase (PortNode.receives i) := by
  simp only [PortNode.remCmgrIn, BckpressureIngress.retRemoteRxCreds, PortNode.receives,
    PortNode.igrIn, BckpressureIngress.bckprInTready, Bool.and_assoc]
  by_cases h : (i.rx_tvalid && i.rx_tready) = true
  · by_cases hcmd : n.igr.phase.isCmd = true <;> simp [h, hcmd]
  · simp [h]

lemma counted_toNat (n : PortNode) (i : PortNodeIn) :
    (n.locCmgrIn i).returned_credits.toNat = (PortNode.receives i).length := by
  simp only [PortNode.locCmgrIn, BckpressureIngress.cntLocalRxCreds, PortNode.receives,
    PortNode.igrIn, BckpressureIngress.bckprInTready]
  by_cases h : (i.rx_tvalid && i.rx_tready) = true <;> simp [h]

/-- **The remote manager.**  It gains the credits read from what is received and loses one for
each flit accepted. -/
lemma tick_rem_cmgr {n : PortNode} {i : PortNodeIn}
    (hfit : n.rem_cmgr.toNat + creditsIn n.igr.phase (PortNode.receives i) < 256) :
    (n.step i).rem_cmgr.toNat + (n.accepts i).length
      = n.rem_cmgr.toNat + creditsIn n.igr.phase (PortNode.receives i) := by
  rw [← returned_toNat] at hfit ⊢
  rw [← consume_toNat]
  refine creditMgrStep_toNat rfl (fun hc => ?_) (by omega)
  simp only [PortNode.remCmgrIn, BckpressureEgress.portConsumeCreds, BckpressureEgress.portRdy,
    Bool.and_eq_true] at hc
  exact (bckprOff_eq_true_iff (by omega)).mp hc.1.2

/-- **The local manager.**  It gains one credit for each flit received and gives all it had to the
command flit that is accepted, if one is. -/
lemma tick_loc_cmgr {n : PortNode} {i : PortNodeIn} (hfit : n.loc_cmgr.toNat < 256) :
    (n.step i).loc_cmgr.toNat + creditsIn n.egr.phase (n.accepts i)
      = n.loc_cmgr.toNat + (PortNode.receives i).length := by
  have hcount := counted_toNat n i
  cases hall : (n.locCmgrIn i).get_all_credits with
  | true =>
      have hacc : n.accepts i
          = [BckpressureEgress.stamped n.egr.phase i.tx_tdata (creditsAvailable n.loc_cmgr)] := by
        simp only [PortNode.locCmgrIn, BckpressureEgress.localRxGetall, Bool.and_eq_true] at hall
        rw [PortNode.accepts, if_pos]
        simpa [BckpressureEgress.bckprInTready, PortNode.egrIn] using hall.1.symm
      have hcmd : n.egr.phase.isCmd = true := by
        simp only [PortNode.locCmgrIn, BckpressureEgress.localRxGetall, Bool.and_eq_true] at hall
        exact hall.2
      have hstep : (n.step i).loc_cmgr.toNat = (PortNode.receives i).length := by
        rw [← hcount]
        exact creditMgrStep_getAll hall
      rw [hstep, hacc, creditsIn_cons, if_pos hcmd, field_stamped _ _ _ hcmd,
        creditsAvailable_toNat hfit, creditsIn_nil]
      omega
  | false =>
      have hnone : creditsIn n.egr.phase (n.accepts i) = 0 := by
        rw [PortNode.accepts]
        split_ifs with h
        · have hcmd : n.egr.phase.isCmd = false := by
            simp only [PortNode.locCmgrIn, BckpressureEgress.localRxGetall] at hall
            simp only [BckpressureEgress.bckprInTready, Bool.and_eq_true] at h
            simpa [h.2, show (n.egrIn i).bckpr_in_tvalid = true from h.1] using hall
          simp [hcmd]
        · rfl
      have hlen : (PortNode.receives i).length ≤ 1 := by
        rw [PortNode.receives]
        split_ifs <;> simp
      have hstep : (n.step i).loc_cmgr.toNat + 0
          = n.loc_cmgr.toNat + (n.locCmgrIn i).returned_credits.toNat :=
        creditMgrStep_toNat (i := n.locCmgrIn i) hall (by simp [PortNode.locCmgrIn]) (by omega)
      omega

/-! ## Conservation -/

/-- The credits for the FIFO in front of `b`'s ingress: available at `a`, used by a flit in
flight, counted by `b`'s local manager, or on their way back in a command flit. -/
def creditTotal (a b : PortNode) (ab ba : Link) : ℕ :=
  a.rem_cmgr.toNat + (inflight a ab).length + b.loc_cmgr.toNat
    + creditsIn a.igr.phase (inflight b ba)

/-- The invariant of two nodes joined by the links `ab` and `ba`: each ingress will be in the
phase of the egress it listens to once it has accepted what is in flight, and no credit is
created or lost in either direction. -/
structure CreditInv (a b : PortNode) (ab ba : Link) : Prop where
  sync_ab : a.egr.phase = phaseAfter b.igr.phase (inflight a ab)
  sync_ba : b.egr.phase = phaseAfter a.igr.phase (inflight b ba)
  total_ab : creditTotal a b ab ba = 254
  total_ba : creditTotal b a ba ab = 254

lemma CreditInv.symm {a b : PortNode} {ab ba : Link} (h : CreditInv a b ab ba) :
    CreditInv b a ba ab :=
  ⟨h.sync_ba, h.sync_ab, h.total_ba, h.total_ab⟩

/-- The invariant depends on a link only through the flits in flight. -/
lemma CreditInv.congr {a b : PortNode} {ab ba ab' ba' : Link} (h : CreditInv a b ab ba)
    (hab : inflight a ab' = inflight a ab) (hba : inflight b ba' = inflight b ba) :
    CreditInv a b ab' ba' := by
  obtain ⟨h1, h2, h3, h4⟩ := h
  simp only [creditTotal] at h3 h4
  exact ⟨by rw [hab, h1], by rw [hba, h2], by simp only [creditTotal, hab, hba, h3],
    by simp only [creditTotal, hab, hba, h4]⟩

/-- A tick of one node keeps the invariant, in both directions at once. -/
lemma CreditInv.tick {a b : PortNode} {ab ba : Link} (h : CreditInv a b ab ba) (t : TickIn) :
    CreditInv (a.step (t.wires ba)) b (ab.push (a.handsOver (t.wires ba)))
      (ba.pop (PortNode.receives (t.wires ba))) := by
  obtain ⟨hsync_ab, hsync_ba, htotal_ab, htotal_ba⟩ := h
  have hout := tick_inflight a ab (t.wires ba)
  have hin := inflight_pop b ba t
  set i := t.wires ba
  set ba' := ba.pop (PortNode.receives i)
  have hegr := tick_egr_phase a i
  have higr := tick_igr_phase a i
  rw [hin, phaseAfter_append, ← higr] at hsync_ba
  simp only [creditTotal] at htotal_ab htotal_ba
  rw [hin, creditsIn_append, ← higr] at htotal_ab
  rw [hin, List.length_append] at htotal_ba
  have hrem := tick_rem_cmgr (n := a) (i := i) (by omega)
  have hloc := tick_loc_cmgr (n := a) (i := i) (by omega)
  refine ⟨?_, hsync_ba, ?_, ?_⟩
  · rw [hout, phaseAfter_append, ← hsync_ab, hegr]
  · rw [creditTotal, hout, List.length_append]
    omega
  · rw [creditTotal, hout, creditsIn_append, ← hsync_ab]
    omega

/-- **Step lemma.**  Every move keeps the invariant. -/
lemma creditInv_step (s : Loop) (m : LoopMove) (h : CreditInv s.x s.y s.xy s.yx) :
    CreditInv (s.step m).x (s.step m).y (s.step m).xy (s.step m).yx := by
  cases m with
  | x t => exact h.tick t
  | y t => exact (h.symm.tick t).symm
  | carryXY => exact h.congr (inflight_carry _ _) rfl
  | carryYX => exact h.congr rfl (inflight_carry _ _)

/-- **Run lemma.**  The invariant holds after every run. -/
theorem creditInv_run (ms : List LoopMove) :
    CreditInv (loopMachine.run ms).x (loopMachine.run ms).y (loopMachine.run ms).xy
      (loopMachine.run ms).yx :=
  loopMachine.invariant_all (P := fun s => CreditInv s.x s.y s.xy s.yx)
    ⟨rfl, rfl, rfl, rfl⟩ creditInv_step ms

lemma sentX_step (s : Loop) (m : LoopMove) (sent recv : List Flit)
    (h : sent = recv ++ inflight s.x s.xy) :
    sent ++ s.sentX m = (recv ++ s.recvY m) ++ inflight (s.step m).x (s.step m).xy := by
  subst h
  cases m with
  | x t => simp [Loop.sentX, Loop.recvY, Loop.step, tick_inflight]
  | y t => simpa [Loop.sentX, Loop.recvY, Loop.step] using inflight_pop s.x s.xy t
  | carryXY => simp [Loop.sentX, Loop.recvY, Loop.step, inflight_carry]
  | carryYX => simp [Loop.sentX, Loop.recvY, Loop.step]

lemma sentY_step (s : Loop) (m : LoopMove) (sent recv : List Flit)
    (h : sent = recv ++ inflight s.y s.yx) :
    sent ++ s.sentY m = (recv ++ s.recvX m) ++ inflight (s.step m).y (s.step m).yx := by
  subst h
  cases m with
  | x t => simpa [Loop.sentY, Loop.recvX, Loop.step] using inflight_pop s.y s.yx t
  | y t => simp [Loop.sentY, Loop.recvX, Loop.step, tick_inflight]
  | carryXY => simp [Loop.sentY, Loop.recvX, Loop.step]
  | carryYX => simp [Loop.sentY, Loop.recvX, Loop.step, inflight_carry]

/-- The flits in flight from X to Y are those X's egress has accepted and Y's ingress has not. -/
theorem sentX_eq (ms : List LoopMove) :
    loopMachine.collect Loop.sentX ms
      = loopMachine.collect Loop.recvY ms
        ++ inflight (loopMachine.run ms).x (loopMachine.run ms).xy :=
  loopMachine.trace_invariant_all (P := fun s sent recv => sent = recv ++ inflight s.x s.xy) rfl
    (fun s sent recv m => sentX_step s m sent recv) ms

/-- The flits in flight from Y to X are those Y's egress has accepted and X's ingress has not. -/
theorem sentY_eq (ms : List LoopMove) :
    loopMachine.collect Loop.sentY ms
      = loopMachine.collect Loop.recvX ms
        ++ inflight (loopMachine.run ms).y (loopMachine.run ms).yx :=
  loopMachine.trace_invariant_all (P := fun s sent recv => sent = recv ++ inflight s.y s.yx) rfl
    (fun s sent recv m => sentY_step s m sent recv) ms

/-- The phase of an ingress is the phase of the flits it has accepted since reset. -/
lemma igr_phase_step (s : Loop) (m : LoopMove) (recvX recvY : List Flit)
    (h : s.x.igr.phase = phaseAfter {} recvX ∧ s.y.igr.phase = phaseAfter {} recvY) :
    (s.step m).x.igr.phase = phaseAfter {} (recvX ++ s.recvX m)
      ∧ (s.step m).y.igr.phase = phaseAfter {} (recvY ++ s.recvY m) := by
  obtain ⟨hx, hy⟩ := h
  rw [phaseAfter_append, phaseAfter_append, ← hx, ← hy]
  cases m with
  | x t => exact ⟨tick_igr_phase _ _, rfl⟩
  | y t => exact ⟨rfl, tick_igr_phase _ _⟩
  | carryXY => exact ⟨rfl, rfl⟩
  | carryYX => exact ⟨rfl, rfl⟩

lemma igr_phase_run (ms : List LoopMove) :
    (loopMachine.run ms).x.igr.phase = phaseAfter {} (loopMachine.collect Loop.recvX ms)
      ∧ (loopMachine.run ms).y.igr.phase = phaseAfter {} (loopMachine.collect Loop.recvY ms) :=
  loopMachine.trace_invariant_all
    (P := fun s recvX recvY =>
      s.x.igr.phase = phaseAfter {} recvX ∧ s.y.igr.phase = phaseAfter {} recvY)
    ⟨rfl, rfl⟩ (fun s recvX recvY m => igr_phase_step s m recvX recvY) ms

/-! ## Consequences -/

lemma fifo_length_le (n : PortNode) (l : Link) : l.fifo.length ≤ (inflight n l).length := by
  simp [inflight]

/-- What conservation gives for one direction: the FIFO has room, and neither counter leaves the
8 bits it shows. -/
lemma creditTotal_bounds {a b : PortNode} {ab ba : Link} (h : creditTotal a b ab ba = 254) :
    ab.fifo.length ≤ ingressFifoDepth ∧ creditOverflow a.rem_cmgr = false
      ∧ creditOverflow b.loc_cmgr = false := by
  have hfifo := fifo_length_le a ab
  rw [creditTotal] at h
  refine ⟨?_, creditOverflow_eq_false (by omega), creditOverflow_eq_false (by omega)⟩
  simp only [ingressFifoDepth]
  omega

lemma creditsAvailable_of_total {a b : PortNode} {ab ba : Link} (h : creditTotal a b ab ba = 254) :
    (creditsAvailable a.rem_cmgr).toNat = a.rem_cmgr.toNat := by
  rw [creditTotal] at h
  exact creditsAvailable_toNat (by omega)

lemma creditsAvailable_of_total' {a b : PortNode} {ab ba : Link}
    (h : creditTotal a b ab ba = 254) : (creditsAvailable b.loc_cmgr).toNat = b.loc_cmgr.toNat := by
  rw [creditTotal] at h
  exact creditsAvailable_toNat (by omega)

/-- No credit is taken from a manager that has none. -/
lemma no_underflow (n : PortNode) (i : PortNodeIn) :
    creditUnderflow n.rem_cmgr (n.remCmgrIn i).consume_credit = false
      ∧ creditUnderflow n.loc_cmgr (n.locCmgrIn i).consume_credit = false := by
  refine ⟨?_, by simp [creditUnderflow, PortNode.locCmgrIn]⟩
  cases hc : (n.remCmgrIn i).consume_credit with
  | false => simp [creditUnderflow]
  | true =>
      simp only [PortNode.remCmgrIn, BckpressureEgress.portConsumeCreds, BckpressureEgress.portRdy,
        BckpressureEgress.bckprOff, Bool.and_eq_true, decide_eq_true_eq] at hc
      have hne : (creditsAvailable n.rem_cmgr).toNat ≠ 0 := fun h0 =>
        hc.1.2 (BitVec.eq_of_toNat_eq h0)
      simp [creditUnderflow]
      omega

/-- What the flits accepted and received so far say about the credits for `b`'s ingress FIFO.
`sentA` and `recvB` are the flits of this direction, `sentB` and `recvA` those of the other, whose
command flits return the credits; a flit of `sentB` is a command flit if `b`'s egress was in the
command phase when it accepted it. -/
def CreditsConserved (a b : PortNode) (sentA recvB sentB recvA : List Flit) : Prop :=
  ∃ ab ba, sentA = recvB ++ ab ∧ sentB = recvA ++ ba ∧
    (creditsAvailable a.rem_cmgr).toNat + ab.length + (creditsAvailable b.loc_cmgr).toNat
      + creditsIn (phaseAfter {} recvA) ba = 254

/-- **Credit conservation.**  After every run of two joined nodes the credits of each direction
add up to 254; the ingress FIFOs never hold more than they have room for, no manager's count
leaves its 8 bits, and no tick takes a credit that is not there. -/
theorem credits_conserved (ms : List LoopMove) :
    let s := loopMachine.run ms
    let sentX := loopMachine.collect Loop.sentX ms
    let recvX := loopMachine.collect Loop.recvX ms
    let sentY := loopMachine.collect Loop.sentY ms
    let recvY := loopMachine.collect Loop.recvY ms
    CreditsConserved s.x s.y sentX recvY sentY recvX
      ∧ CreditsConserved s.y s.x sentY recvX sentX recvY
      ∧ s.xy.fifo.length ≤ ingressFifoDepth ∧ s.yx.fifo.length ≤ ingressFifoDepth
      ∧ (∀ n ∈ [s.x, s.y], creditOverflow n.rem_cmgr = false ∧ creditOverflow n.loc_cmgr = false
          ∧ ∀ i, creditUnderflow n.rem_cmgr (n.remCmgrIn i).consume_credit = false
            ∧ creditUnderflow n.loc_cmgr (n.locCmgrIn i).consume_credit = false) := by
  intro s sentX recvX sentY recvY
  obtain ⟨-, -, hxy, hyx⟩ := creditInv_run ms
  obtain ⟨hphaseX, hphaseY⟩ := igr_phase_run ms
  have hsentX := sentX_eq ms
  have hsentY := sentY_eq ms
  obtain ⟨hfifoY, hremX, hlocY⟩ := creditTotal_bounds hxy
  obtain ⟨hfifoX, hremY, hlocX⟩ := creditTotal_bounds hyx
  refine ⟨⟨_, _, hsentX, hsentY, ?_⟩, ⟨_, _, hsentY, hsentX, ?_⟩, hfifoY, hfifoX, ?_⟩
  · rw [creditsAvailable_of_total hxy, creditsAvailable_of_total' hxy, ← hphaseX]
    exact hxy
  · rw [creditsAvailable_of_total hyx, creditsAvailable_of_total' hyx, ← hphaseY]
    exact hyx
  · intro n hn
    rcases List.mem_pair.mp hn with rfl | rfl
    · exact ⟨hremX, hlocX, no_underflow _⟩
    · exact ⟨hremY, hlocY, no_underflow _⟩

end ThymesisFlow
