import ThymesisFlow.Port.CreditLoop

/-!
# Credit starvation between a compute node and a memory node

Node X of `CreditLoop` is the compute node: the host's reads and 128 byte writes wait in `txq` for
its egress.  Node Y is the memory node: it answers every command it has received completely, in
any order and after any time, and its response flits wait in `respq` for its egress.

Credits travel on command and response flits only, so the credits the compute node has collected
reach the memory node with its next command, and the flit that takes the memory node's last
credit is held back.  Enough reads sent ahead of the first response therefore starve the memory
node (`duo_starves`).  They do not as long as the response flits owed to the compute node fit in
253 whenever a command is sent (`duo_not_starved`): what is owed and what the compute node has
collected since its last command then never add up to all 254 credits (`StarveInv`).
-/

namespace ThymesisFlow

/-! ## Commands and responses -/

/-- A host command as the compute node sends it. -/
inductive SentCmd
  | read (cmd : {f : Flit // netOpcode f = 0x10})
  | write (cmd : {f : Flit // netOpcode f = 0x20}) (d0 d1 d2 d3 : Flit)

def SentCmd.flits : SentCmd → List Flit
  | .read cmd => [cmd.val]
  | .write cmd d0 d1 d2 d3 => [cmd.val, d0, d1, d2, d3]

/-- A command the memory node has received and not answered. -/
inductive Due
  | read
  | write
  deriving DecidableEq, Repr

/-- The number of response flits a command is owed. -/
def Due.flits : Due → ℕ
  | .read => 5
  | .write => 1

/-- A response as the memory node sends it. -/
inductive Response
  | readOk (hdr : {f : Flit // netOpcode f = 0x04}) (d0 d1 d2 d3 : Flit)
  | writeOk (hdr : {f : Flit // netOpcode f = 0x08})

def Response.flits : Response → List Flit
  | .readOk hdr d0 d1 d2 d3 => [hdr.val, d0, d1, d2, d3]
  | .writeOk hdr => [hdr.val]

/-- What the response answers. -/
def Response.due : Response → Due
  | .readOk .. => .read
  | .writeOk .. => .write

/-- The command a header starts, by the bit the port follows it with. -/
def dueOf (f : Flit) : Due := if hasData f then .write else .read

/-! ## The two nodes -/

structure Duo where
  loop : Loop := {}
  txq : List Flit := []
  memPhase : Phase := {}
  pending : List Due := []
  respq : List Flit := []
  deriving DecidableEq, Repr

/-- The free choices of a tick: whether a waiting flit is offered, and the other ready and valid
wires of the node. -/
structure DuoTick where
  offer : Bool
  link_tready : Bool
  rx_present : Bool
  rx_tready : Bool

inductive DuoMove
  | host (c : SentCmd)
  | computeTick (t : DuoTick)
  | memTick (t : DuoTick)
  | answer (k : ℕ) (r : Response)
  | carryXY
  | carryYX

/-- The inputs of a node whose waiting flits are `q`. -/
def DuoTick.toTickIn (t : DuoTick) (q : List Flit) : TickIn where
  tx_tdata := q.headD 0
  tx_tvalid := t.offer && !q.isEmpty
  link_tready := t.link_tready
  rx_present := t.rx_present
  rx_tready := t.rx_tready

/-- The flit in the output register of the ingress. -/
def BckpressureIngress.held (g : BckpressureIngress) : List Flit :=
  if g.outdata_vld then [g.outdata_q] else []

/-- The commands completed by the flit `f`, met in phase `p`. -/
def completes (p : Phase) (f : Flit) : List Due :=
  match p.ocapi_sm with
  | .CMDFLIT => if hasData f then [] else [.read]
  | .DATAFLIT => if p.dflit_size = 1 then [.write] else []

/-- The flits the memory node takes from its ingress when it is ready. -/
def Duo.consumed (d : Duo) (t : DuoTick) : List Flit := if t.rx_tready then d.loop.y.igr.held else []

def Duo.step (d : Duo) : DuoMove → Duo
  | .host c => { d with txq := d.txq ++ c.flits }
  | .computeTick t =>
      let ti := t.toTickIn d.txq
      { d with
        loop := d.loop.step (.x ti)
        txq := d.txq.drop (d.loop.sentX (.x ti)).length }
  | .memTick t =>
      let ti := t.toTickIn d.respq
      { d with
        loop := d.loop.step (.y ti)
        respq := d.respq.drop (d.loop.sentY (.y ti)).length
        memPhase := phaseAfter d.memPhase (d.consumed t)
        pending := d.pending ++ (d.consumed t).flatMap (completes d.memPhase) }
  | .answer k r =>
      if d.pending[k]? = some r.due then
        { d with pending := d.pending.eraseIdx k, respq := d.respq ++ r.flits }
      else d
  | .carryXY => { d with loop := d.loop.step .carryXY }
  | .carryYX => { d with loop := d.loop.step .carryYX }

def duoMachine : Machine Duo DuoMove := ⟨{}, Duo.step⟩

/-- Everything sent has been consumed in both directions, a response waits at the memory node's
egress without a credit to go on, and only a new host command would change anything. -/
def Starved (d : Duo) : Prop :=
  inflight d.loop.x d.loop.xy = [] ∧ d.loop.y.igr.held = []
    ∧ d.loop.yx.wire = [] ∧ d.loop.yx.fifo = [] ∧ d.loop.x.igr.held = []
    ∧ (d.loop.y.egr.held ≠ [] ∨ d.respq ≠ [])
    ∧ creditsAvailable d.loop.y.rem_cmgr = 0
    ∧ ∀ m, (∀ c, m ≠ .host c) → d.step m = d

/-! ## What is owed -/

/-- The response flits owed to the command flits among `fs`, the first of which is met in phase
`p`. -/
def dueIn : Phase → List Flit → ℕ
  | _, [] => 0
  | p, f :: fs => (if p.isCmd then (dueOf f).flits else 0) + dueIn (p.next f) fs

@[simp] lemma dueIn_nil (p : Phase) : dueIn p [] = 0 := rfl

@[simp] lemma dueIn_cons (p : Phase) (f : Flit) (fs : List Flit) :
    dueIn p (f :: fs) = (if p.isCmd then (dueOf f).flits else 0) + dueIn (p.next f) fs := rfl

lemma dueIn_append (p : Phase) (fs gs : List Flit) :
    dueIn p (fs ++ gs) = dueIn p fs + dueIn (phaseAfter p fs) gs := by
  induction fs generalizing p with
  | nil => simp
  | cons f fs ih => simp [ih, Nat.add_assoc]

/-- The flits on their way from the compute node's egress to the memory node. -/
def Duo.toMemory (d : Duo) : List Flit := d.loop.y.igr.held ++ inflight d.loop.x d.loop.xy

/-- The response flits owed to the write whose data flits are being received in phase `p`. -/
def inReceipt (p : Phase) : ℕ := if p.isCmd then 0 else Due.write.flits

/-- The response flits owed to the commands the memory node knows of: those it has answered, those
it has not, and the write whose data it is receiving. -/
def Duo.owedByMemory (d : Duo) : ℕ :=
  inReceipt d.memPhase + (d.pending.map Due.flits).sum
    + d.respq.length + (inflight d.loop.y d.loop.yx).length

/-- The response flits owed to the compute node: five for each read and one for each write its
egress has accepted, less the flits its ingress has accepted (`owed_eq`). -/
def Duo.owed (d : Duo) : ℕ := dueIn d.memPhase d.toMemory + d.owedByMemory

/-- A tick in which the compute node's egress accepts a command flit finds room for the response:
what is owed already and the response to this command are 253 flits at most. -/
def WithinBudget (d : Duo) : DuoMove → Prop
  | .computeTick t =>
      let sent := d.loop.sentX (.x (t.toTickIn d.txq))
      d.loop.x.egr.phase.isCmd = true → sent ≠ [] →
        d.owed + dueIn d.loop.x.egr.phase sent ≤ 253
  | _ => True

instance (d : Duo) : ∀ m, Decidable (WithinBudget d m)
  | .computeTick t =>
      inferInstanceAs (Decidable (d.loop.x.egr.phase.isCmd = true →
        d.loop.sentX (.x (t.toTickIn d.txq)) ≠ [] →
        d.owed + dueIn d.loop.x.egr.phase (d.loop.sentX (.x (t.toTickIn d.txq))) ≤ 253))
  | .host _ => isTrue trivial
  | .memTick _ => isTrue trivial
  | .answer _ _ => isTrue trivial
  | .carryXY => isTrue trivial
  | .carryYX => isTrue trivial

/-! ## Accounting for one move -/

/-- The flits the compute node's egress accepts in a move. -/
def Duo.sent (d : Duo) : DuoMove → List Flit
  | .computeTick t => d.loop.sentX (.x (t.toTickIn d.txq))
  | _ => []

/-- The flits the compute node's ingress accepts in a move. -/
def Duo.recv (d : Duo) : DuoMove → List Flit
  | .computeTick t => d.loop.recvX (.x (t.toTickIn d.txq))
  | _ => []

/-- The ingress register passes on what it held when the stage behind it is ready. -/
lemma tick_igr_held (n : PortNode) (i : PortNodeIn) :
    n.igr.held ++ PortNode.receives i
      = (if i.rx_tready then n.igr.held else []) ++ (n.step i).igr.held := by
  obtain ⟨_, _, _, rx_tdata, rx_tvalid, rx_tready⟩ := i
  simp only [BckpressureIngress.held, PortNode.receives, BckpressureIngress.bckprInTready,
    PortNode.igrIn, PortNode.step, BckpressureIngress.step]
  cases rx_tready <;> cases rx_tvalid <;> simp

/-- A flit the memory node takes completes what it was owed for, or begins it. -/
lemma due_completes (p : Phase) (f : Flit) :
    (if p.isCmd then (dueOf f).flits else 0) + inReceipt p
      = ((completes p f).map Due.flits).sum + inReceipt (p.next f) := by
  obtain ⟨sm, size⟩ := p
  cases sm with
  | CMDFLIT =>
      by_cases h : hasData f = true <;>
        simp [Phase.isCmd, Phase.next, completes, dueOf, inReceipt, h]
  | DATAFLIT =>
      by_cases h : size = 1#3 <;> simp [Phase.isCmd, Phase.next, completes, inReceipt, h]

lemma due_consumed (d : Duo) (t : DuoTick) :
    dueIn d.memPhase (d.consumed t) + inReceipt d.memPhase
      = (((d.consumed t).flatMap (completes d.memPhase)).map Due.flits).sum
        + inReceipt (phaseAfter d.memPhase (d.consumed t)) := by
  have hcases : d.consumed t = [] ∨ d.consumed t = [d.loop.y.igr.outdata_q] := by
    rw [Duo.consumed, BckpressureIngress.held]
    split_ifs <;> simp
  rcases hcases with h | h
  · simp [h]
  · simpa [h] using due_completes d.memPhase d.loop.y.igr.outdata_q

/-- A node accepts no more than it is offered. -/
lemma accepts_length_le (n : PortNode) (inc : Link) (t : DuoTick) (q : List Flit) :
    (n.accepts ((t.toTickIn q).wires inc)).length ≤ q.length := by
  cases q with
  | nil => simp [PortNode.accepts, TickIn.wires, DuoTick.toTickIn]
  | cons f q =>
      rw [PortNode.accepts]
      split <;> simp

lemma sum_eraseIdx (l : List Due) (k : ℕ) (c : Due) (h : l[k]? = some c) :
    (l.map Due.flits).sum = ((l.eraseIdx k).map Due.flits).sum + c.flits := by
  induction l generalizing k with
  | nil => simp at h
  | cons a l ih =>
      cases k with
      | zero => simp at h; subst h; simp [Nat.add_comm]
      | succ k => simp at h ⊢; have := ih k h; omega

lemma response_length (r : Response) : r.flits.length = r.due.flits := by
  cases r <;> rfl

/-- **What a move does to the flits owed.**  A command flit accepted by the compute node's egress
adds its response, a flit accepted by its ingress is owed no longer, and nothing else counts. -/
lemma owed_step (d : Duo) (m : DuoMove)
    (hsync : d.loop.x.egr.phase = phaseAfter d.memPhase d.toMemory) :
    (d.step m).owed + (d.recv m).length = d.owed + dueIn d.loop.x.egr.phase (d.sent m) := by
  cases m with
  | host c => rfl
  | computeTick t =>
      have hout : (d.step (.computeTick t)).toMemory = d.toMemory ++ d.sent (.computeTick t) := by
        simp [Duo.step, Duo.toMemory, Duo.sent, Loop.step, Loop.sentX, tick_inflight]
      have hin := congrArg List.length (inflight_pop d.loop.y d.loop.yx (t.toTickIn d.txq))
      rw [List.length_append] at hin
      rw [Duo.owed, Duo.owed, hout, show (d.step (.computeTick t)).memPhase = d.memPhase from rfl,
        dueIn_append, ← hsync]
      simp only [Duo.owedByMemory, Duo.step, Loop.step, Duo.recv, Loop.recvX]
      omega
  | memTick t =>
      have hpath : d.toMemory = d.consumed t ++ (d.step (.memTick t)).toMemory := by
        rw [Duo.toMemory, inflight_pop d.loop.x d.loop.xy (t.toTickIn d.respq),
          ← List.append_assoc, tick_igr_held, List.append_assoc]
        rfl
      have hout := congrArg List.length
        (tick_inflight d.loop.y d.loop.yx ((t.toTickIn d.respq).wires d.loop.xy))
      have hoffered := accepts_length_le d.loop.y d.loop.xy t d.respq
      have hdue := due_consumed d t
      rw [List.length_append] at hout
      rw [Duo.owed, Duo.owed, hpath, dueIn_append]
      simp only [Duo.owedByMemory, Duo.step, Loop.step, Duo.recv, Duo.sent, dueIn_nil,
        List.length_nil, List.map_append, List.sum_append, List.length_drop, Loop.sentY] at *
      omega
  | answer k r =>
      simp only [Duo.step, Duo.recv, Duo.sent]
      split_ifs with h
      · have hsum := sum_eraseIdx d.pending k r.due h
        have hlen := response_length r
        simp only [Duo.owed, Duo.owedByMemory, Duo.toMemory, List.length_append, dueIn_nil,
          List.length_nil]
        omega
      · simp
  | carryXY =>
      simp [Duo.step, Duo.owed, Duo.owedByMemory, Duo.toMemory, Duo.recv, Duo.sent, Loop.step,
        inflight_carry]
  | carryYX =>
      simp [Duo.step, Duo.owed, Duo.owedByMemory, Duo.toMemory, Duo.recv, Duo.sent, Loop.step,
        inflight_carry]

/-! ## The invariants -/

/-- Credits are conserved and the memory node follows the phases of its ingress. -/
structure DuoInv (d : Duo) : Prop where
  credits : CreditInv d.loop.x d.loop.y d.loop.xy d.loop.yx
  sync : d.loop.y.igr.phase = phaseAfter d.memPhase d.loop.y.igr.held

/-- The compute node's egress is in the phase the memory node will reach. -/
lemma DuoInv.egr_phase {d : Duo} (h : DuoInv d) :
    d.loop.x.egr.phase = phaseAfter d.memPhase d.toMemory := by
  rw [Duo.toMemory, phaseAfter_append, ← h.sync]
  exact h.credits.sync_ab

lemma duoInv_credits (d : Duo) (m : DuoMove) (h : DuoInv d) :
    CreditInv (d.step m).loop.x (d.step m).loop.y (d.step m).loop.xy (d.step m).loop.yx := by
  cases m with
  | host c => exact h.credits
  | computeTick t => exact creditInv_step _ _ h.credits
  | memTick t => exact creditInv_step _ _ h.credits
  | answer k r =>
      rw [Duo.step]
      split_ifs <;> exact h.credits
  | carryXY => exact creditInv_step _ _ h.credits
  | carryYX => exact creditInv_step _ _ h.credits

lemma duoInv_sync (d : Duo) (m : DuoMove) (h : DuoInv d) :
    (d.step m).loop.y.igr.phase = phaseAfter (d.step m).memPhase (d.step m).loop.y.igr.held := by
  cases m with
  | host c => exact h.sync
  | computeTick t => exact h.sync
  | memTick t =>
      have hphase := tick_igr_phase d.loop.y ((t.toTickIn d.respq).wires d.loop.xy)
      rw [h.sync, ← phaseAfter_append, tick_igr_held, phaseAfter_append] at hphase
      exact hphase
  | answer k r =>
      rw [Duo.step]
      split_ifs <;> exact h.sync
  | carryXY => exact h.sync
  | carryYX => exact h.sync

lemma duoInv_step (d : Duo) (m : DuoMove) (h : DuoInv d) : DuoInv (d.step m) :=
  ⟨duoInv_credits d m h, duoInv_sync d m h⟩

/-- The phase of the compute node's egress follows the flits it accepts. -/
lemma egr_phase_step (d : Duo) (m : DuoMove) :
    (d.step m).loop.x.egr.phase = phaseAfter d.loop.x.egr.phase (d.sent m) := by
  cases m with
  | computeTick t => exact tick_egr_phase _ _
  | answer k r =>
      rw [Duo.step]
      split_ifs <;> rfl
  | host c => rfl
  | memTick t => rfl
  | carryXY => rfl
  | carryYX => rfl

/-- In every run the flits owed are those due to the commands the compute node has sent, less
those it has received. -/
theorem owed_eq (ms : List DuoMove) :
    (duoMachine.run ms).owed + (duoMachine.collect Duo.recv ms).length
      = dueIn {} (duoMachine.collect Duo.sent ms) := by
  have hrun : DuoInv (duoMachine.run ms) ∧
      (duoMachine.run ms).loop.x.egr.phase = phaseAfter {} (duoMachine.collect Duo.sent ms) ∧
      (duoMachine.run ms).owed + (duoMachine.collect Duo.recv ms).length
        = dueIn {} (duoMachine.collect Duo.sent ms) :=
    duoMachine.trace_invariant_all (P := fun d sent recv => DuoInv d ∧
      d.loop.x.egr.phase = phaseAfter {} sent ∧ d.owed + recv.length = dueIn {} sent)
    ⟨⟨⟨rfl, rfl, rfl, rfl⟩, rfl⟩, rfl, by decide⟩ (by
      rintro d sent recv m ⟨hinv, hphase, howed⟩
      refine ⟨duoInv_step d m hinv, ?_, ?_⟩
      · rw [phaseAfter_append, ← hphase]
        exact egr_phase_step d m
      · have hstep := owed_step d m hinv.egr_phase
        have hnext : (duoMachine.step d m).owed = (d.step m).owed := rfl
        rw [dueIn_append, ← hphase, List.length_append]
        omega) ms
  exact hrun.2.2

/-- The flits owed leave at least one of the 254 credits outside what the compute node has
collected. -/
structure StarveInv (d : Duo) : Prop extends DuoInv d where
  budget : d.owed + d.loop.x.loc_cmgr.toNat ≤ 253

/-- What the compute node has collected grows with the flits it receives and leaves with the
command it sends. -/
lemma loc_cmgr_step (d : Duo) (m : DuoMove) (h : StarveInv d) :
    (d.step m).loop.x.loc_cmgr.toNat + creditsIn d.loop.x.egr.phase (d.sent m)
      = d.loop.x.loc_cmgr.toNat + (d.recv m).length := by
  have hbudget := h.budget
  cases m with
  | computeTick t => exact tick_loc_cmgr (by omega)
  | answer k r =>
      rw [Duo.step]
      split_ifs <;> rfl
  | host c => rfl
  | memTick t => rfl
  | carryXY => rfl
  | carryYX => rfl

/-- A move within the budget sends no command, or a command that takes everything collected. -/
lemma due_le_of_withinBudget {d : Duo} {m : DuoMove} (h : StarveInv d) (hok : WithinBudget d m) :
    d.owed + dueIn d.loop.x.egr.phase (d.sent m) + d.loop.x.loc_cmgr.toNat
      ≤ 253 + creditsIn d.loop.x.egr.phase (d.sent m) := by
  have hbudget := h.budget
  cases m with
  | computeTick t =>
      have hsent : d.sent (.computeTick t)
          = d.loop.x.accepts ((t.toTickIn d.txq).wires d.loop.yx) := rfl
      by_cases hacc : d.sent (.computeTick t) = []
      · simp only [hacc, dueIn_nil, creditsIn_nil]
        omega
      · have hone : d.sent (.computeTick t)
            = [BckpressureEgress.stamped d.loop.x.egr.phase
                ((t.toTickIn d.txq).wires d.loop.yx).tx_tdata
                (creditsAvailable d.loop.x.loc_cmgr)] := by
          rw [hsent, PortNode.accepts] at hacc ⊢
          split_ifs at hacc ⊢ <;> simp_all
        cases hcmd : d.loop.x.egr.phase.isCmd with
        | true =>
            have hroom : d.owed + dueIn d.loop.x.egr.phase (d.sent (.computeTick t)) ≤ 253 :=
              hok hcmd hacc
            rw [hone, creditsIn_cons, hcmd, if_pos rfl, field_stamped _ _ _ hcmd, creditsIn_nil,
              creditsAvailable_toNat (by omega), ← hone]
            omega
        | false =>
            rw [hone, creditsIn_cons, dueIn_cons, hcmd]
            simp
            omega
  | host c => exact hbudget
  | memTick t => exact hbudget
  | answer k r => exact hbudget
  | carryXY => exact hbudget
  | carryYX => exact hbudget

/-- **Step lemma.**  A move within the budget keeps the invariant. -/
lemma starveInv_step (d : Duo) (m : DuoMove) (h : StarveInv d) (hok : WithinBudget d m) :
    StarveInv (d.step m) := by
  refine ⟨duoInv_step d m h.toDuoInv, ?_⟩
  have howed := owed_step d m h.egr_phase
  have hloc := loc_cmgr_step d m h
  have hdue := due_le_of_withinBudget h hok
  omega

/-- **Run lemma.**  The invariant holds after every run within the budget. -/
theorem starveInv_run (ms : List DuoMove) (h : duoMachine.Meets WithinBudget ms) :
    StarveInv (duoMachine.run ms) :=
  duoMachine.invariant ⟨⟨⟨rfl, rfl, rfl, rfl⟩, rfl⟩, by decide⟩ starveInv_step ms h

lemma StarveInv.not_starved {d : Duo} (h : StarveInv d) : ¬ Starved d := by
  rintro ⟨hpath, -, -, -, -, -, hcreds, -⟩
  have htotal := h.credits.total_ba
  have hbudget := h.budget
  have hrem : d.loop.y.rem_cmgr.toNat = 0 := by
    rw [← creditsAvailable_of_total htotal, hcreds]
    rfl
  rw [creditTotal, hpath, creditsIn_nil, hrem] at htotal
  rw [Duo.owed, Duo.owedByMemory] at hbudget
  omega

/-- **No starvation within the budget.**  In a run in which the compute node sends a command only
while the response flits owed to it, those of the new command included, are at most 253, the
memory node's egress is never left without credits and without a flit that could bring some. -/
theorem duo_not_starved (ms : List DuoMove) (h : duoMachine.Meets WithinBudget ms) :
    ¬ Starved (duoMachine.run ms) :=
  (starveInv_run ms h).not_starved

/-! ## A starved run

The compute node sends 51 reads before the first response reaches it.  None of them carries a
credit, so the memory node's 254 credits have to last for 255 response flits. -/

namespace StarvedRun

def readFlit : {f : Flit // netOpcode f = 0x10} := ⟨0x10#256 <<< 248, by decide +kernel⟩

def readOkFlit : {f : Flit // netOpcode f = 0x04} := ⟨0x04#256 <<< 248, by decide +kernel⟩

/-- A tick in which everything is offered and everything is ready. -/
def busy : DuoTick := ⟨true, true, true, true⟩

/-- The host issues a read; it is sent, carried and received. -/
def readRound : List DuoMove :=
  [.host (.read readFlit), .computeTick busy, .computeTick busy, .carryXY, .memTick busy,
    .memTick busy]

/-- One response flit is sent, carried and received. -/
def respFlitRound : List DuoMove :=
  [.memTick busy, .memTick { busy with offer := false }, .carryYX, .computeTick busy, .computeTick busy]

/-- The oldest read is answered and its five response flits are received. -/
def respRound : List DuoMove :=
  .answer 0 (.readOk readOkFlit 0 0 0 0) :: (List.replicate 5 respFlitRound).flatten

/-- `k` reads have been received and none is answered. -/
def afterReads (k : ℕ) : Duo where
  loop.x.rem_cmgr := BitVec.ofNat 9 (254 - k)
  loop.y.loc_cmgr := BitVec.ofNat 9 k
  pending := List.replicate k .read

/-- All 51 reads have been received and `k + 1` of them answered. -/
def afterResponses (k : ℕ) : Duo where
  loop.x.loc_cmgr := BitVec.ofNat 9 (5 * (k + 1))
  loop.y.rem_cmgr := BitVec.ofNat 9 (254 - 5 * (k + 1))
  loop.x.igr.phase.dflit_size := 1
  loop.y.egr.phase.dflit_size := 1
  pending := List.replicate (50 - k) .read

/-- The last read is answered: three flits are received, the fourth takes the last credit and the
fifth is not accepted. -/
def starved : Duo where
  loop.x.loc_cmgr := 253
  loop.y.rem_cmgr := 0
  loop.x.igr.phase := ⟨.DATAFLIT, 2⟩
  loop.y.egr := { outdata_vld := true, phase := ⟨.DATAFLIT, 1⟩ }
  respq := [0]

lemma readRound_afterReads : ∀ k ∈ List.range 51,
    duoMachine.runFrom (afterReads k) readRound = afterReads (k + 1) := by
  decide +kernel

lemma respRound_afterReads : duoMachine.runFrom (afterReads 51) respRound = afterResponses 0 := by
  decide +kernel

lemma respRound_afterResponses : ∀ k ∈ List.range 49,
    duoMachine.runFrom (afterResponses k) respRound = afterResponses (k + 1) := by
  decide +kernel

/-- The last read is answered, and the memory node sends until it has no credit left. -/
def lastRound : List DuoMove :=
  .answer 0 (.readOk readOkFlit 0 0 0 0) :: (List.replicate 3 respFlitRound).flatten
    ++ [.memTick busy]

lemma lastRound_afterResponses :
    duoMachine.runFrom (afterResponses 49) lastRound = starved := by
  decide +kernel

/-- The whole run. -/
def moves : List DuoMove :=
  (List.replicate 51 readRound).flatten ++ (respRound
    ++ ((List.replicate 49 respRound).flatten ++ lastRound))

lemma run_moves : duoMachine.run moves = starved := by
  have hreads := duoMachine.runFrom_rounds afterReads readRound 51
    (fun k hk => readRound_afterReads k (List.mem_range.mpr hk))
  have hresps := duoMachine.runFrom_rounds afterResponses respRound 49
    (fun k hk => respRound_afterResponses k (List.mem_range.mpr hk))
  have hinit : duoMachine.init = afterReads 0 := rfl
  rw [Machine.run, moves, hinit, Machine.runFrom_append, hreads, Machine.runFrom_append,
    respRound_afterReads, Machine.runFrom_append, hresps, lastRound_afterResponses]

/-- Only a new host command changes the state the run ends in. -/
lemma starved_stuck (m : DuoMove) (hm : ∀ c, m ≠ .host c) : starved.step m = starved := by
  cases m with
  | host c => exact absurd rfl (hm c)
  | computeTick t =>
      clear hm
      obtain ⟨offer, link_tready, rx_present, rx_tready⟩ := t
      revert offer link_tready rx_present rx_tready
      decide +kernel
  | memTick t =>
      clear hm
      obtain ⟨offer, link_tready, rx_present, rx_tready⟩ := t
      revert offer link_tready rx_present rx_tready
      decide +kernel
  | answer k r => rfl
  | carryXY => rfl
  | carryYX => rfl

end StarvedRun

/-- The budget is met by a read that is answered. -/
theorem duo_not_starved_read :
    ¬ Starved (duoMachine.run (StarvedRun.readRound ++ StarvedRun.respRound)) :=
  duo_not_starved _ (by decide +kernel)

/-- **Starvation.**  A starved state is reachable. -/
theorem duo_starves : ∃ ms, Starved (duoMachine.run ms) := by
  refine ⟨StarvedRun.moves, ?_⟩
  rw [StarvedRun.run_moves]
  exact ⟨rfl, rfl, rfl, rfl, rfl, .inl (by decide), rfl, StarvedRun.starved_stuck⟩

end ThymesisFlow
