import ThymesisFlow.Afu.CommandPath

/-!
# Every command with exactly its own data

`CommandsCarried` is what a run of the path has to satisfy, `CarryOk` the condition on the commands
of the host: reads, and writes of two flits.  `CarryInv` says which commands and data are where;
every flit of a transaction is in one place, and they are in order from the host to the ports.
-/

namespace ThymesisFlow

/-- The network transactions of the commands that the host has sent. -/
def cmdTxns (cfg : AcsConfig) (regs : Fin 12 → BitVec 64) (is : List CmdPathIn) : List NetTxn :=
  ((cmdPath cfg regs).collect CmdPath.accepted is).map (HostTxn.net regs)

/-- What a run hands over at a port. -/
def cmdOut (cfg : AcsConfig) (regs : Fin 12 → BitVec 64) (p : Port) (is : List CmdPathIn) :
    List Flit :=
  (cmdPath cfg regs).collect (CmdPath.emitted p) is

/-- The host sends nothing, and everything else goes on. -/
def CmdPathIn.go : CmdPathIn := ⟨hostCycle none true, fun _ => true⟩

/-- **Every command is carried with exactly its own data** in the run with the inputs `is`: each
port has handed over the beginning of what is expected of it, and when nothing is in the way all of
it, with no data left over. -/
structure CommandsCarried (cfg : AcsConfig) (regs : Fin 12 → BitVec 64) (is : List CmdPathIn) :
    Prop where
  order : ∀ p, ∃ hs, hs <+: netStream p .port0 (cmdTxns cfg regs is) ∧
    List.Forall₂ NetHalf.Matches hs (cmdOut cfg regs p is)
  complete : ∃ k,
    (∀ p, List.Forall₂ NetHalf.Matches (netStream p .port0 (cmdTxns cfg regs is))
      (cmdOut cfg regs p (is ++ List.replicate k .go))) ∧
    ((cmdPath cfg regs).run (is ++ List.replicate k .go)).host.cmddata_fifo = []

/-- The condition on a cycle: what the host sends is a read or a write of two flits, to a segment
with a configuration register. -/
structure CarryOk (cfg : AcsConfig) (s : CmdPath) (i : CmdPathIn) : Prop where
  remote : ∀ t ∈ s.accepted i, t.cmd.startRemote cfg = true
  mixed : ∀ t ∈ s.accepted i, t.cmd.Mixed cfg

instance (cfg : AcsConfig) (s : CmdPath) (i : CmdPathIn) : Decidable (CarryOk cfg s i) :=
  decidable_of_iff ((∀ t ∈ s.accepted i, t.cmd.startRemote cfg = true) ∧
    ∀ t ∈ s.accepted i, t.cmd.Mixed cfg) ⟨fun h => ⟨h.1, h.2⟩, fun h => ⟨h.1, h.2⟩⟩

/-! ## The transactions of the commands -/

namespace HostTxn

variable {cfg : AcsConfig} {regs : Fin 12 → BitVec 64} {t : HostTxn}

lemma netCmdRow_eq (regs : Fin 12 → BitVec 64) (hr : t.cmd.startRemote cfg = true) (hm : t.cmd.Mixed cfg) :
    ∃ h : t.cmd.segment < 12, netCmdRow regs t.cmd = some (.ofHost (regs ⟨_, h⟩) t.cmd) := by
  refine ⟨hm.mapped hr, ?_⟩
  rw [netCmdRow, dif_pos (hm.mapped hr)]

lemma net_whole (hr : t.cmd.startRemote cfg = true) (hm : t.cmd.Mixed cfg) :
    (t.net regs).Whole := by
  obtain ⟨h, hrow⟩ := netCmdRow_eq regs hr hm
  obtain ⟨hdl, hlen⟩ := hm.remote hr (regs ⟨_, h⟩)
  have hcmd : (t.net regs).cmd = .ofHost (regs ⟨_, h⟩) t.cmd := by rw [net, hrow]; rfl
  constructor
  · rw [hcmd]
    have hlow : ∀ w r : Bool, bit (0#2 ++ BitVec.ofBool w ++ BitVec.ofBool r ++ 0#4) 2 = false := by
      decide
    exact hlow _ _
  · rw [hcmd]
    exact hdl
  · rw [hcmd, ← hlen, ← t.len]
    exact List.length_map _

/-- The data flits that the TLX delivers for a command are those of its transaction. -/
lemma net_data (t : HostTxn) : (t.flits.map Prod.snd).map dataBytes = (t.net regs).data := by
  rw [flits, List.map_map, List.map_map]
  rfl

end HostTxn

/-! ## The adapter and the queues before it -/

/-- The rows of the commands in the network FIFO. -/
def netRows (regs : Fin 12 → BitVec 64) (us : List HostTxn) : List NetCmd :=
  us.map fun t => (t.net regs).cmd

/-- Their data. -/
def netData (regs : Fin 12 → BitVec 64) (us : List HostTxn) : List Flit512 :=
  us.flatMap fun t => (t.net regs).data

/-- Their flits. -/
def netFlits (regs : Fin 12 → BitVec 64) (us : List HostTxn) : List NetFlit :=
  (us.map (HostTxn.net regs)).flatMap NetTxn.flits

lemma netData_append (regs : Fin 12 → BitVec 64) (us us' : List HostTxn) :
    netData regs (us ++ us') = netData regs us ++ netData regs us' := List.flatMap_append

lemma netFlits_append (regs : Fin 12 → BitVec 64) (us us' : List HostTxn) :
    netFlits regs (us ++ us') = netFlits regs us ++ netFlits regs us' := by
  rw [netFlits, List.map_append, List.flatMap_append]
  rfl

lemma netData_txnFlits (regs : Fin 12 → BitVec 64) (us : List HostTxn) :
    ((txnFlits us).map Prod.snd).map dataBytes = netData regs us := by
  induction us with
  | nil => rfl
  | cons t us ih =>
      rw [txnFlits_cons, List.map_append, List.map_append, ih, t.net_data]
      rfl

/-- `us` are the commands in the network FIFO, `cur` is the data that is still to come for the
command that the adapter has taken last.  The data FIFO and what is owed to it are exactly the data
of these. -/
structure AdapterInv (regs : Fin 12 → BitVec 64) (s : HostPath) (cur : List Flit512)
    (us : List HostTxn) : Prop where
  left : s.adapter.left = cur.length
  data : (s.cmddata_fifo ++ s.owed.map Prod.snd).map dataBytes = cur ++ netData regs us

namespace AdapterInv

variable {cfg : AcsConfig} {regs : Fin 12 → BitVec 64} {s : HostPath} {ts us : List HostTxn}
  {cur : List Flit512} {i : HostPathIn}

/-- What the adapter takes in a cycle: `new` is what it puts out, `cur'` and `us'` are what is left
before it. -/
structure Turn (cfg : AcsConfig) (regs : Fin 12 → BitVec 64) (s : HostPath) (i : HostPathIn)
    (cur : List Flit512) (us : List HostTxn) (new : List NetFlit) (cur' : List Flit512)
    (us' : List HostTxn) : Prop where
  flits : cur.map .data ++ netFlits regs us = new ++ (cur'.map .data ++ netFlits regs us')
  popped : us' = if (s.wires i).ncff_cmd_tready && s.rmem.ncff.valid then us.tail else us
  left : (s.step cfg i).adapter.left = cur'.length
  data : ((if s.adapter.takesData (s.adapterData i) i.adapter_out_tready then s.cmddata_fifo.tail
    else s.cmddata_fifo) ++ s.owed.map Prod.snd).map dataBytes = cur' ++ netData regs us'
  loaded : i.adapter_out_tready = true → List.Forall₂ NetFlit.Matches new
    (if (s.step cfg i).adapter.output_q_vld then [(s.step cfg i).adapter.output_q] else [])
  stays : i.adapter_out_tready = false → new = [] ∧ (s.step cfg i).adapter = s.adapter

/-- The network FIFO shows its first command. -/
lemma adapterCmd_eq (h : SplitInv cfg s ts (netRows regs us)) :
    s.adapterCmd = (us.head?).map fun t => (t.net regs).cmd := by
  rw [HostPath.adapterCmd, h.path.rmem.ncff.valid_eq]
  cases us with
  | nil => rfl
  | cons t us =>
      have hhead : s.rmem.ncff.head = (t.net regs).cmd :=
        RowFifo.Holds.head_eq h.path.rmem.ncff
      simp [netRows, hhead]

/-- The network FIFO gives a command exactly when the adapter takes it. -/
lemma pop_eq (h : SplitInv cfg s ts (netRows regs us)) (i : HostPathIn) :
    ((s.wires i).ncff_cmd_tready && s.rmem.ncff.valid)
      = s.adapter.takesCmd s.adapterCmd i.adapter_out_tready := by
  rw [EgressAdapter.takesCmd, adapterCmd_eq h, h.path.rmem.ncff.valid_eq]
  cases us <;> rfl

/-- **What the adapter takes.** -/
theorem turn (ha : AdapterInv regs s cur us) (h : SplitInv cfg s ts (netRows regs us))
    (hwhole : ∀ t ∈ us, (t.net regs).Whole) (i : HostPathIn) :
    ∃ new cur' us', Turn cfg regs s i cur us new cur' us' := by
  have hpop := pop_eq h i
  have hstep : (s.step cfg i).adapter
      = s.adapter.step s.adapterCmd (s.adapterData i) i.adapter_out_tready := rfl
  have hleft := ha.left
  by_cases hc : s.adapter.takesCmd s.adapterCmd i.adapter_out_tready = true
  · -- a command: nothing is to come for the one before
    obtain ⟨n, hn, hsm, hd, heq⟩ := EgressAdapter.step_takesCmd (s.adapterData i) hc
    have hr : i.adapter_out_tready = true := by
      simp only [EgressAdapter.takesCmd, EgressAdapter.cmdTready, Bool.and_eq_true] at hc
      exact hc.1.1
    rw [EgressAdapter.left, hsm, if_neg (by decide)] at hleft
    obtain rfl := List.length_eq_zero_iff.mp hleft.symm
    rw [adapterCmd_eq h] at hn
    cases us with
    | nil => cases hn
    | cons t us =>
        obtain rfl := Option.some.inj hn
        have ht := hwhole t (by simp)
        have hlen := ht.len
        refine ⟨[.cmd (t.net regs).cmd], (t.net regs).data, us, rfl, ?_, ?_, ?_, ?_, ?_⟩
        · rw [hpop, hc]
          rfl
        · rw [hstep, heq, EgressAdapter.left, hlen]
          cases hw : (t.net regs).cmd.isWrite with
          | false => rfl
          | true =>
              rw [ht.dl hw]
              rfl
        · rw [hd, if_neg Bool.false_ne_true, ha.data]
          rfl
        · intro _
          rw [hstep, heq]
          exact .cons (NetCmd.in_putCmd _ _) .nil
        · intro hf
          rw [hr] at hf
          cases hf
  · have hc' := eq_false_of_ne_true hc
    by_cases hd : s.adapter.takesData (s.adapterData i) i.adapter_out_tready = true
    · -- a data flit of the command in hand
      obtain ⟨d, hdata, hsm, -, heq⟩ := EgressAdapter.step_takesData s.adapterCmd hd
      have hr : i.adapter_out_tready = true := by
        simp only [EgressAdapter.takesData, EgressAdapter.dataTready, Bool.and_eq_true] at hd
        exact hd.1.1
      rw [EgressAdapter.left, hsm, if_pos rfl] at hleft
      obtain ⟨fifo, hfifo⟩ : ∃ fifo, s.cmddata_fifo = d :: fifo := by
        rw [HostPath.adapterData] at hdata
        split_ifs at hdata
        exact List.head?_eq_some_iff.mp hdata
      have hsize := h.size hsm
      cases cur with
      | nil =>
          rw [List.length_nil] at hleft
          rcases hsize with hz | hz <;> rw [hz] at hleft <;> cases hleft
      | cons c cur =>
          have hpool := ha.data
          rw [hfifo] at hpool
          obtain ⟨rfl, hrest⟩ := List.cons.inj hpool
          refine ⟨[.data (dataBytes d)], cur, us, rfl, ?_, ?_, ?_, ?_, ?_⟩
          · rw [hpop, hc']
            rfl
          · rw [List.length_cons] at hleft
            rw [hstep, heq, EgressAdapter.left]
            rcases hsize with hz | hz <;> rw [hz] at hleft ⊢
            · have hlen : cur.length = 0 := Nat.succ_injective hleft.symm
              rw [hlen]
              rfl
            · have hlen : cur.length = 1 := Nat.succ_injective hleft.symm
              rw [hlen]
              rfl
          · rw [hd, if_pos rfl, hfifo]
            exact hrest
          · intro _
            rw [hstep, heq]
            exact .cons rfl .nil
          · intro hf
            rw [hr] at hf
            cases hf
    · have hd' := eq_false_of_ne_true hd
      have heq := EgressAdapter.step_idle hc' hd'
      refine ⟨[], cur, us, rfl, ?_, ?_, ?_, ?_, ?_⟩
      · rw [hpop, hc']
        rfl
      · rw [hstep, heq]
        exact hleft
      · rw [hd', if_neg Bool.false_ne_true]
        exact ha.data
      · intro hr
        rw [hstep, heq, hr]
        simp
      · intro hr
        refine ⟨rfl, ?_⟩
        rw [hstep, heq, hr]
        simp

end AdapterInv

/-! ## The dispatch without MMIO commands -/

namespace SplitInv

variable {cfg : AcsConfig} {s : HostPath} {ts : List HostTxn} {ns : List NetCmd}

/-- The state machines of the MMIO commands stay idle. -/
lemma mmio_idle (h : SplitInv cfg s ts ns) (hremote : ∀ t ∈ ts, t.cmd.startRemote cfg = true) :
    s.rmem.SM_MMW = .IDLE ∧ s.rmem.SM_MMR = .IDLE := by
  constructor
  · by_contra hw
    obtain ⟨t, r, rfl, ht, -⟩ := h.path.rmem.mmw hw
    have hnw := (HostCmd.startMmio_of_remote (hremote t (by simp))).1
    exact Bool.false_ne_true (hnw.symm.trans ht)
  · by_contra hr
    obtain ⟨t, r, rfl, ht⟩ := h.path.rmem.mmr hr
    have hnr := (HostCmd.startMmio_of_remote (hremote t (by simp))).2
    exact Bool.false_ne_true (hnr.symm.trans ht)

lemma start_mmio_write_eq (h : SplitInv cfg s ts ns)
    (hremote : ∀ t ∈ ts, t.cmd.startRemote cfg = true) : s.rmem.start_mmio_write cfg = false := by
  by_contra hs
  obtain ⟨t, r, rfl, ht, -⟩ := h.path.rmem.start_head (eq_true_of_ne_false hs)
  have hnw := (HostCmd.startMmio_of_remote (hremote t (by simp))).1
  exact Bool.false_ne_true (hnw.symm.trans ht)

/-- What the dispatch does in a cycle: `ps` goes from the command FIFO to the network FIFO, and its
data is asked for. -/
structure Dispatched (cfg : AcsConfig) (regs : Fin 12 → BitVec 64) (s : HostPath) (i : HostPathIn)
    (ts acc ps ts' : List HostTxn) : Prop where
  split : ts = ps ++ ts'
  queue : RmemInv.nextTxns s.rmem ts acc = ts' ++ acc
  rows : (if s.rmem.ncff_cmd_in_valid then (netCmdRow i.thymesis_cfg s.rmem.ncff_cmd_in).toList
    else []) = netRows regs ps
  asked : s.tlx_data.take (s.asked cfg) = txnFlits ps
  busy : ps = [] ∨ s.rmem.LPC_LOAD_NET = .WAIT_1CYCLE

lemma dispatched (h : SplitInv cfg s ts ns) (hremote : ∀ t ∈ ts, t.cmd.startRemote cfg = true)
    {regs : Fin 12 → BitVec 64} {i : HostPathIn} (hregs : i.thymesis_cfg = regs)
    (acc : List HostTxn) : ∃ ps ts', Dispatched cfg regs s i ts acc ps ts' ∧
      (s.rmem.LPC_LOAD_NET = .WAIT_1CYCLE → ps ≠ []) := by
  obtain ⟨hw, hr⟩ := h.mmio_idle hremote
  have hdisp := h.path.rmem.cmd_dispatched_eq
  have hvalid := h.path.rmem.ncff_in
  have htake := h.path.take_asked
  have hmmw : s.rmem.rd_req_mmw cfg = false := by
    rw [Rmem.rd_req_mmw, h.start_mmio_write_eq hremote]
    simp
  rw [hw, hr] at hdisp
  cases hl : s.rmem.LPC_LOAD_NET with
  | IDLE =>
      rw [hl] at hdisp hvalid
      rw [hl, hmmw, if_neg (by simp)] at htake
      refine ⟨[], ts, ⟨rfl, ?_, ?_, htake, .inl rfl⟩, fun hc => by cases hc⟩
      · rw [RmemInv.nextTxns, hdisp]
        rfl
      · rw [hvalid]
        rfl
  | WAIT_1CYCLE =>
      obtain ⟨t, r, rfl, ht, hin, -⟩ := h.path.rmem.lpc hl
      obtain ⟨hseg, hrow⟩ := HostTxn.netCmdRow_eq regs ht (h.mixed t (by simp))
      rw [hl] at hdisp hvalid
      rw [hl, hmmw, if_pos (.inr rfl)] at htake
      refine ⟨[t], r, ⟨rfl, ?_, ?_, htake, .inr hl⟩, fun _ => List.cons_ne_nil _ _⟩
      · rw [RmemInv.nextTxns, hdisp]
        rfl
      · rw [hvalid, hin, hregs, hrow]
        simp [netRows, HostTxn.net, hrow]

/-- Every flit that is delivered goes to the data FIFO. -/
lemma pushed_eq (h : SplitInv cfg s ts ns) (hremote : ∀ t ∈ ts, t.cmd.startRemote cfg = true)
    (i : HostPathIn) : s.pushed i = (s.delivered i).map Prod.snd := by
  have hw := (h.mmio_idle hremote).1
  rw [(h.split i).2.1, List.filter_eq_self.mpr]
  intro x hx
  refine h.remote (by rw [hw]; decide) x ?_
  rw [← s.delivered_append_stillOwed i]
  exact List.mem_append_left _ hx

end SplitInv

/-! ## The whole path -/

/-- Where the commands and their data are. -/
structure CarryAt where
  /-- The commands in the command FIFO. -/
  ts : List HostTxn
  /-- The commands in the network FIFO. -/
  us : List HostTxn
  /-- The data still to come for the command that the adapter has taken last. -/
  cur : List Flit512
  /-- The flit in the output register of the adapter. -/
  first : List NetFlit
  /-- The flits in the routing egress. -/
  pend : Port → List Flit
  /-- What is still to enter it. -/
  todo : Port → List NetHalf

/-- The output register of the adapter. -/
def CmdPath.outputFlit (s : CmdPath) : List Flit512 :=
  if s.host.adapter.output_q_vld then [s.host.adapter.output_q] else []

/-- **The invariant of a run**: `sent` are the commands of the host, `out` is what the ports have
handed over, `held` the flit that stays at the input of the routing egress. -/
structure CarryInv (cfg : AcsConfig) (regs : Fin 12 → BitVec 64) (s : CmdPath)
    (sent : List HostTxn) (out : Port → List Flit) (held : Option Flit512) (w : CarryAt) :
    Prop where
  split : SplitInv cfg s.host w.ts (netRows regs w.us)
  remote : ∀ t ∈ w.ts, t.cmd.startRemote cfg = true
  whole : ∀ t ∈ w.us, (t.net regs).Whole
  adapter : AdapterInv regs s.host w.cur w.us
  first : List.Forall₂ NetFlit.Matches w.first s.outputFlit
  stays : ∀ f, held = some f → s.outputFlit = [f]
  egress : s.egress.Inv held w.pend
  rest : NetRest s.egress (w.first ++ (w.cur.map .data ++ netFlits regs (w.us ++ w.ts))) w.todo
    (turnAfter .port0 (sent.map (HostTxn.net regs)))
  total : ∀ p, ∃ hs, hs ++ w.todo p = netStream p .port0 (sent.map (HostTxn.net regs)) ∧
    List.Forall₂ NetHalf.Matches hs (out p ++ w.pend p)

namespace CarryInv

open CmdPath (emitted)

variable {cfg : AcsConfig} {regs : Fin 12 → BitVec 64} {s : CmdPath} {sent : List HostTxn}
  {out : Port → List Flit} {held : Option Flit512} {w : CarryAt} {i : CmdPathIn}

lemma init (cfg : AcsConfig) (regs : Fin 12 → BitVec 64) :
    CarryInv cfg regs {} [] (fun _ => []) none ⟨[], [], [], [], fun _ => [], fun _ => []⟩ where
  split := SplitInv.init cfg
  remote := by simp
  whole := by simp
  adapter := ⟨rfl, rfl⟩
  first := .nil
  stays := by simp
  egress := RoutingEgress.inv_init
  rest := @NetRest.cmd _ [] rfl rfl (by simp)
  total := fun _ => ⟨[], rfl, .nil⟩

/-- A flit is accepted when the output register is valid and the routing egress ready. -/
lemma accepts_eq (regs : Fin 12 → BitVec 64) (s : CmdPath) (i : CmdPathIn) : s.egress.accepts (s.egressWires i)
    = ((s.hostWires regs i).adapter_out_tready && s.host.adapter.output_q_vld) := rfl

lemma outputFlit_cases (s : CmdPath) :
    s.host.adapter.output_q_vld = true ∧ s.outputFlit = [s.host.adapter.output_q] ∨
      s.host.adapter.output_q_vld = false ∧ s.outputFlit = [] := by
  rw [CmdPath.outputFlit]
  cases s.host.adapter.output_q_vld
  · exact .inr ⟨rfl, rfl⟩
  · exact .inl ⟨rfl, rfl⟩

/-- The flit in the output register, while it is valid. -/
lemma first_eq (h : CarryInv cfg regs s sent out held w)
    (hv : s.host.adapter.output_q_vld = true) :
    ∃ x, w.first = [x] ∧ x.Matches s.host.adapter.output_q := by
  have hfirst := h.first
  rw [CmdPath.outputFlit, hv, if_pos rfl] at hfirst
  cases hf : w.first with
  | nil => rw [hf] at hfirst; cases hfirst
  | cons x xs =>
      rw [hf] at hfirst
      cases hfirst with
      | cons hx hxs =>
          cases hxs
          exact ⟨x, rfl, hx⟩

/-- What the routing egress may be offered. -/
lemma offered (h : CarryInv cfg regs s sent out held w) (i : CmdPathIn) :
    s.egress.Offered held (s.egressWires i) := by
  refine ⟨fun f hf => ?_, fun ha hsm hd => ?_⟩
  · have hq := h.stays f hf
    rcases outputFlit_cases s with ⟨hv, heq⟩ | ⟨-, heq⟩
    · rw [heq] at hq
      exact ⟨hv, (List.cons.inj hq).1⟩
    · rw [heq] at hq
      cases hq
  · obtain ⟨x, hx, hm⟩ := h.first_eq (Bool.and_eq_true_iff.mp ha).2
    have hrest := h.rest
    rw [hx] at hrest
    exact hrest.pairs hm hsm hd

/-- What is left after a cycle of the routing egress: the register is emptied if it is ready. -/
lemma rest_step (h : CarryInv cfg regs s sent out held w) (i : CmdPathIn) :
    ∃ todo', NetRest (s.egress.step (s.egressWires i))
        ((if (s.hostWires regs i).adapter_out_tready then [] else w.first)
          ++ (w.cur.map .data ++ netFlits regs (w.us ++ w.ts))) todo'
        (turnAfter .port0 (sent.map (HostTxn.net regs))) ∧
      ∀ p, ∃ hs, hs ++ todo' p = w.todo p ∧
        List.Forall₂ NetHalf.Matches hs (s.egress.entering (s.egressWires i) p) := by
  have hacc := accepts_eq regs s i
  have hrest := h.rest
  cases ha : s.egress.accepts (s.egressWires i) with
  | true =>
      obtain ⟨hr, hv⟩ := Bool.and_eq_true_iff.mp (hacc.symm.trans ha)
      obtain ⟨x, hx, hm⟩ := h.first_eq hv
      rw [hx] at hrest
      rw [hr, if_pos rfl]
      exact hrest.accept hm ha
  | false =>
      have henter : ∀ p, s.egress.entering (s.egressWires i) p = [] := fun p => by
        rw [RoutingEgress.entering, ha, if_neg Bool.false_ne_true]
      refine ⟨w.todo, ?_, fun p => ⟨[], rfl, by rw [henter]; exact .nil⟩⟩
      have hidle := hrest.idle ha
      cases hr : (s.hostWires regs i).adapter_out_tready with
      | false => exact hidle
      | true =>
          -- ready and nothing accepted: the register is empty
          have hv : s.host.adapter.output_q_vld = false := by
            rw [hr, Bool.true_and] at hacc
            exact hacc.symm.trans ha
          have hfirst := h.first
          rw [CmdPath.outputFlit, hv, if_neg Bool.false_ne_true] at hfirst
          cases hf : w.first with
          | nil => rwa [hf] at hidle
          | cons x xs => rw [hf] at hfirst; cases hfirst

/-- The queues before the adapter after a cycle. -/
lemma adapter_step (h : CarryInv cfg regs s sent out held w) {new : List NetFlit}
    {cur' : List Flit512} {us' ps ts' : List HostTxn} {i : HostPathIn}
    (ht : AdapterInv.Turn cfg regs s.host i w.cur w.us new cur' us') {acc : List HostTxn}
    (hd : SplitInv.Dispatched cfg regs s.host i w.ts acc ps ts') :
    AdapterInv regs (s.host.step cfg i) cur' (us' ++ ps) := by
  refine ⟨ht.left, ?_⟩
  have hfifo : (s.host.step cfg i).cmddata_fifo
      = (if s.host.adapter.takesData (s.host.adapterData i) i.adapter_out_tready then
          s.host.cmddata_fifo.tail else s.host.cmddata_fifo) ++ s.host.pushed i := rfl
  have howed : (s.host.step cfg i).owed = s.host.stillOwed i ++ s.host.tlx_data.take
      (s.host.asked cfg) := rfl
  have hsplit := congrArg (List.map Prod.snd) (s.host.delivered_append_stillOwed i)
  have hdata := ht.data
  rw [List.map_append] at hsplit
  rw [← hsplit, ← List.append_assoc] at hdata
  have howed' : (s.host.stillOwed i ++ txnFlits ps).map Prod.snd
      = (s.host.stillOwed i).map Prod.snd ++ (txnFlits ps).map Prod.snd := List.map_append
  rw [hfifo, howed, hd.asked, h.split.pushed_eq h.remote, netData_append, howed',
    ← List.append_assoc, List.map_append, hdata, netData_txnFlits, List.append_assoc]

/-- The queues of the dispatch after a cycle. -/
lemma split_step (h : CarryInv cfg regs s sent out held w) (hok : CarryOk cfg s i)
    {new : List NetFlit} {cur' : List Flit512} {us' ps ts' : List HostTxn}
    (ht : AdapterInv.Turn cfg regs s.host (s.hostWires regs i) w.cur w.us new cur' us')
    (hd : SplitInv.Dispatched cfg regs s.host (s.hostWires regs i) w.ts (s.accepted i) ps ts') :
    SplitInv cfg (s.host.step cfg (s.hostWires regs i)) (ts' ++ s.accepted i)
      (netRows regs (us' ++ ps)) := by
  have hsplitOk : SplitOk cfg s.host (s.hostWires regs i) := by
    refine ⟨hok.mixed, fun _ hs => ?_⟩
    rw [h.split.start_mmio_write_eq h.remote] at hs
    cases hs
  have hnext := h.split.step hsplitOk
  have hqueue : RmemInv.nextTxns s.host.rmem w.ts (s.host.accepted (s.hostWires regs i))
      = ts' ++ s.accepted i := hd.queue
  have hrows : RmemInv.nextNcff s.host.rmem (s.host.wires (s.hostWires regs i))
      (netRows regs w.us) = netRows regs (us' ++ ps) := by
    have hpushed : (if s.host.rmem.ncff_cmd_in_valid then (netCmdRow
        (s.host.wires (s.hostWires regs i)).thymesis_cfg s.host.rmem.ncff_cmd_in).toList else [])
        = netRows regs ps := hd.rows
    rw [RmemInv.nextNcff, hpushed, netRows, netRows, netRows, List.map_append, ht.popped]
    split_ifs <;> simp
  rw [hqueue, hrows] at hnext
  exact hnext

/-- The words before the router after a cycle. -/
lemma flits_step {new : List NetFlit} {cur' : List Flit512} {us' ps ts' : List HostTxn}
    (ht : AdapterInv.Turn cfg regs s.host (s.hostWires regs i) w.cur w.us new cur' us')
    (hd : SplitInv.Dispatched cfg regs s.host (s.hostWires regs i) w.ts (s.accepted i) ps ts') :
    (if (s.hostWires regs i).adapter_out_tready then [] else w.first)
        ++ (w.cur.map .data ++ netFlits regs (w.us ++ w.ts))
      = (if (s.hostWires regs i).adapter_out_tready then new else w.first)
        ++ (cur'.map .data ++ netFlits regs (us' ++ (ps ++ ts'))) := by
  rw [netFlits_append, netFlits_append, ← List.append_assoc (w.cur.map _), ht.flits,
    hd.split]
  cases hr : (s.hostWires regs i).adapter_out_tready with
  | true => simp
  | false => simp [(ht.stays hr).1]

/-- What moves in a cycle, from `w` to `w'`. -/
structure Moved (cfg : AcsConfig) (regs : Fin 12 → BitVec 64) (s : CmdPath) (i : CmdPathIn)
    (w w' : CarryAt) : Prop where
  queues : ∃ new us' ps ts', AdapterInv.Turn cfg regs s.host (s.hostWires regs i) w.cur w.us new
      w'.cur us' ∧
    SplitInv.Dispatched cfg regs s.host (s.hostWires regs i) w.ts (s.accepted i) ps ts' ∧
    (s.host.rmem.LPC_LOAD_NET = .WAIT_1CYCLE → ps ≠ []) ∧
    w'.us = us' ++ ps ∧ w'.ts = ts' ++ s.accepted i
  ports : ∀ p, emitted p s i ++ w'.pend p = w.pend p ++ s.egress.entering (s.egressWires i) p
  todo : s.accepted i = [] → ∀ p,
    (s.egress.entering (s.egressWires i) p).length + (w'.todo p).length = (w.todo p).length

/-- **One cycle of a run.** -/
theorem step (h : CarryInv cfg regs s sent out held w) (hok : CarryOk cfg s i) :
    ∃ w', Moved cfg regs s i w w' ∧
      CarryInv cfg regs (s.step cfg regs i) (sent ++ s.accepted i)
        (fun p => out p ++ emitted p s i) (s.egress.heldAfter (s.egressWires i)) w' := by
  obtain ⟨new, cur', us', hturn⟩ := h.adapter.turn h.split h.whole (s.hostWires regs i)
  obtain ⟨ps, ts', hdisp, hbusy⟩ :=
    h.split.dispatched (i := s.hostWires regs i) h.remote rfl (s.accepted i)
  obtain ⟨pend', hegress, hout⟩ := h.egress.step (h.offered i)
  obtain ⟨todo', hrest, htodo⟩ := h.rest_step i
  have hwholeTs : ∀ t ∈ w.ts, (t.net regs).Whole :=
    fun t ht => HostTxn.net_whole (h.remote t ht) (h.split.mixed t ht)
  have hps : ∀ t ∈ ps, t ∈ w.ts := fun t ht => by
    rw [hdisp.split]
    exact List.mem_append_left _ ht
  have hts' : ∀ t ∈ ts', t ∈ w.ts := fun t ht => by
    rw [hdisp.split]
    exact List.mem_append_right _ ht
  have hus' : ∀ t ∈ us', t ∈ w.us := fun t ht => by
    rw [hturn.popped] at ht
    split_ifs at ht
    · exact List.mem_of_mem_tail ht
    · exact ht
  have hnet : ∀ t ∈ (s.accepted i).map (HostTxn.net regs), t.Whole := by
    intro t ht
    obtain ⟨x, hx, rfl⟩ := List.mem_map.mp ht
    exact HostTxn.net_whole (hok.remote x hx) (hok.mixed x hx)
  have hnextOut : (s.step cfg regs i).outputFlit
      = if (s.host.step cfg (s.hostWires regs i)).adapter.output_q_vld then
        [(s.host.step cfg (s.hostWires regs i)).adapter.output_q] else [] := rfl
  refine ⟨⟨ts' ++ s.accepted i, us' ++ ps, cur',
    if (s.hostWires regs i).adapter_out_tready then new else w.first, pend',
    fun p => todo' p ++ netStream p (turnAfter .port0 (sent.map (HostTxn.net regs)))
      ((s.accepted i).map (HostTxn.net regs))⟩,
    ⟨⟨new, us', ps, ts', hturn, hdisp, hbusy, rfl, rfl⟩, hout, fun hnone p => ?_⟩, ?_⟩
  · obtain ⟨hs, heq, hm⟩ := htodo p
    rw [hnone, ← heq, List.length_append, List.length_append, hm.length_eq]
    rfl
  constructor
  case split => exact h.split_step hok hturn hdisp
  case remote =>
    intro t ht
    exact (List.mem_append.mp ht).elim (fun ht => h.remote t (hts' t ht)) (hok.remote t)
  case whole =>
    intro t ht
    exact (List.mem_append.mp ht).elim (fun ht => h.whole t (hus' t ht))
      fun ht => hwholeTs t (hps t ht)
  case adapter => exact h.adapter_step hturn hdisp
  case first =>
    rw [hnextOut]
    cases hr : (s.hostWires regs i).adapter_out_tready with
    | true => exact hturn.loaded hr
    | false =>
        rw [(hturn.stays hr).2]
        exact h.first
  case stays =>
    intro f hf
    rw [RoutingEgress.heldAfter, accepts_eq regs] at hf
    split_ifs at hf with hv
    have hwire : (s.egressWires i).egr_route_in_tvalid = s.host.adapter.output_q_vld := rfl
    rw [hwire] at hv
    obtain ⟨hvld, hnr⟩ := Bool.and_eq_true_iff.mp hv
    rw [hvld, Bool.and_true, Bool.not_eq_true'] at hnr
    rw [hnextOut, (hturn.stays hnr).2, hvld, if_pos rfl]
    exact congrArg (fun x => [x]) (Option.some.inj hf)
  case egress => exact hegress
  case rest =>
    rw [List.map_append, turnAfter_append]
    have hext := hrest.extend hnet
    have hflits := flits_step hturn hdisp
    rw [hflits, List.append_assoc, List.append_assoc] at hext
    have hall : netFlits regs (us' ++ (ps ++ ts')) ++ netFlits regs (s.accepted i)
        = netFlits regs ((us' ++ ps) ++ (ts' ++ s.accepted i)) := by
      rw [← netFlits_append]
      simp
    rw [← hall]
    exact hext
  case total =>
    intro p
    obtain ⟨hs, heq, hm⟩ := h.total p
    obtain ⟨hs', heq', hm'⟩ := htodo p
    refine ⟨hs ++ hs', ?_, ?_⟩
    · rw [List.map_append, netStream_append, ← heq, ← heq']
      simp
    · have hsplit : out p ++ emitted p s i ++ pend' p
          = (out p ++ w.pend p) ++ s.egress.entering (s.egressWires i) p := by
        rw [List.append_assoc, List.append_assoc]
        exact congrArg (out p ++ ·) (hout p)
      rw [hsplit]
      exact List.rel_append hm hm'

/-- The invariant of the run with the inputs `is`. -/
def Reached (cfg : AcsConfig) (regs : Fin 12 → BitVec 64) (is : List CmdPathIn)
    (held : Option Flit512) (w : CarryAt) : Prop :=
  CarryInv cfg regs ((cmdPath cfg regs).run is) ((cmdPath cfg regs).collect CmdPath.accepted is)
    (fun p => cmdOut cfg regs p is) held w

lemma Reached.step {is : List CmdPathIn} (h : Reached cfg regs is held w)
    (hok : CarryOk cfg ((cmdPath cfg regs).run is) i) :
    ∃ held' w', Moved cfg regs ((cmdPath cfg regs).run is) i w w' ∧
      Reached cfg regs (is ++ [i]) held' w' := by
  obtain ⟨w', hmoved, h'⟩ := CarryInv.step h hok
  refine ⟨((cmdPath cfg regs).run is).egress.heldAfter (((cmdPath cfg regs).run is).egressWires i),
    w', hmoved, ?_⟩
  rw [Reached, Machine.run_concat, Machine.collect_concat]
  simp only [cmdOut, Machine.collect_concat]
  exact h'

/-- The invariant holds in every run. -/
theorem reached (cfg : AcsConfig) (regs : Fin 12 → BitVec 64) (is : List CmdPathIn)
    (hok : (cmdPath cfg regs).Meets (CarryOk cfg) is) : ∃ held w, Reached cfg regs is held w := by
  induction is using List.reverseRecOn with
  | nil => exact ⟨none, _, init cfg regs⟩
  | append_singleton is i ih =>
      obtain ⟨hbefore, hi⟩ := ((cmdPath cfg regs).meets_concat _ is i).mp hok
      obtain ⟨held, w, h⟩ := ih hbefore
      obtain ⟨held', w', -, h'⟩ := h.step hi
      exact ⟨held', w', h'⟩

/-! ### Everything arrives -/

/-- The work left before the routing egress: a command is dispatched in two cycles, and its data
is asked for, delivered and taken. -/
def hostWork (s : CmdPath) (w : CarryAt) : ℕ :=
  3 * w.ts.length + (if s.host.rmem.LPC_LOAD_NET = .IDLE then 1 else 0) + w.us.length
    + 3 * s.host.tlx_data.length + 2 * s.host.owed.length + s.host.cmddata_fifo.length

/-- The work left at a port. -/
def portWork (s : CmdPath) (w : CarryAt) (p : Port) : ℕ :=
  2 * (w.pend p).length + 3 * (w.todo p).length - (s.egress.ports p).out.count

/-- What is done in a cycle before the routing egress. -/
def hostMoves (cfg : AcsConfig) (regs : Fin 12 → BitVec 64) (s : CmdPath) (i : CmdPathIn) : ℕ :=
  (s.host.rmem.dispatch cfg).toNat + (if s.host.rmem.LPC_LOAD_NET = .IDLE then 0 else 1)
    + (s.host.delivered (s.hostWires regs i)).length
    + (s.host.adapter.takesCmd s.host.adapterCmd (s.hostWires regs i).adapter_out_tready).toNat
    + (s.host.adapter.takesData (s.host.adapterData (s.hostWires regs i))
        (s.hostWires regs i).adapter_out_tready).toNat

lemma host_work (h : CarryInv cfg regs s sent out held w) {w' : CarryAt}
    (hm : Moved cfg regs s i w w') (hnone : s.accepted i = []) :
    hostWork (s.step cfg regs i) w' + hostMoves cfg regs s i ≤ hostWork s w := by
  obtain ⟨new, us', ps, ts', hturn, hdisp, hbusy, hus, hts⟩ := hm.queues
  have hwts : w.ts.length = ps.length + ts'.length := by rw [hdisp.split, List.length_append]
  have hwts' : w'.ts.length = ts'.length := by rw [hts, hnone, List.append_nil]
  have hwus' : w'.us.length = us'.length + ps.length := by rw [hus, List.length_append]
  have hpop : us'.length + (s.host.adapter.takesCmd s.host.adapterCmd
      (s.hostWires regs i).adapter_out_tready).toNat = w.us.length := by
    rw [hturn.popped, AdapterInv.pop_eq h.split]
    cases hc : s.host.adapter.takesCmd s.host.adapterCmd
        (s.hostWires regs i).adapter_out_tready with
    | false => rfl
    | true =>
        cases hu : w.us with
        | nil =>
            rw [EgressAdapter.takesCmd, AdapterInv.adapterCmd_eq h.split, hu] at hc
            simp at hc
        | cons t us => rfl
  have hfifo := SplitInv.fifo_step cfg s.host (s.hostWires regs i)
  have hpushed : (s.host.pushed (s.hostWires regs i)).length
      = (s.host.delivered (s.hostWires regs i)).length := by
    rw [h.split.pushed_eq h.remote, List.length_map]
  have hstill := congrArg List.length (s.host.delivered_append_stillOwed (s.hostWires regs i))
  have howed : (s.host.step cfg (s.hostWires regs i)).owed
      = s.host.stillOwed (s.hostWires regs i) ++ txnFlits ps := by
    rw [← hdisp.asked]
    rfl
  have htlx : (s.host.step cfg (s.hostWires regs i)).tlx_data.length + (txnFlits ps).length
      = s.host.tlx_data.length := by
    have hstep : (s.host.step cfg (s.hostWires regs i)).tlx_data
        = s.host.tlx_data.drop (s.host.asked cfg) ++ (s.accepted i).flatMap HostTxn.flits := rfl
    rw [hstep, hnone, ← hdisp.asked, List.flatMap_nil, List.append_nil, List.length_drop,
      List.length_take]
    omega
  have howed := congrArg List.length howed
  rw [List.length_append] at howed hstill
  have hlpc : (s.host.step cfg (s.hostWires regs i)).rmem.LPC_LOAD_NET
      = if s.host.rmem.dispatch cfg then .WAIT_1CYCLE else .IDLE := rfl
  have hif : (if s.host.adapter.takesData (s.host.adapterData (s.hostWires regs i))
      (s.hostWires regs i).adapter_out_tready then 1 else 0)
      = (s.host.adapter.takesData (s.host.adapterData (s.hostWires regs i))
        (s.hostWires regs i).adapter_out_tready).toNat := by
    cases s.host.adapter.takesData (s.host.adapterData (s.hostWires regs i))
      (s.hostWires regs i).adapter_out_tready <;> rfl
  rw [hif] at hfifo
  have hstate : (if (s.host.step cfg (s.hostWires regs i)).rmem.LPC_LOAD_NET = .IDLE then 1 else 0)
      + (s.host.rmem.dispatch cfg).toNat = 1 := by
    rw [hlpc]
    cases s.host.rmem.dispatch cfg <;> rfl
  have hwait : (if s.host.rmem.LPC_LOAD_NET = .IDLE then 0 else 1)
      + (if s.host.rmem.LPC_LOAD_NET = .IDLE then 1 else 0) = 1 := by
    split_ifs <;> rfl
  have hps : (if s.host.rmem.LPC_LOAD_NET = .IDLE then 0 else 1) ≤ ps.length := by
    split_ifs with hl
    · exact Nat.zero_le _
    · refine List.length_pos_iff.mpr (hbusy ?_)
      cases hc : s.host.rmem.LPC_LOAD_NET with
      | IDLE => exact absurd hc hl
      | WAIT_1CYCLE => rfl
  have hstep : (s.step cfg regs i).host = s.host.step cfg (s.hostWires regs i) := rfl
  rw [hostWork, hostWork, hostMoves, hstep]
  omega

/-- What a port does in a cycle. -/
def portMoves (s : CmdPath) (i : CmdPathIn) (p : Port) : ℕ :=
  (s.egress.entering (s.egressWires i) p).length + (emitted p s i).length
    + (s.egress.forwards p).toNat

lemma port_work (h : CarryInv cfg regs s sent out held w) {w' : CarryAt} {held' : Option Flit512}
    (h' : (s.step cfg regs i).egress.Inv held' w'.pend)
    (hm : Moved cfg regs s i w w') (hnone : s.accepted i = []) (p : Port) :
    portWork (s.step cfg regs i) w' p + portMoves s i p = portWork s w p := by
  have hle := h.egress.count_le p
  have hle' := h'.count_le p
  have hcount : ((s.step cfg regs i).egress.ports p).out.count + (emitted p s i).length
      = (s.egress.ports p).out.count + (s.egress.forwards p).toNat :=
    h.egress.count_step (s.egressWires i) p
  have hpend := congrArg List.length (hm.ports p)
  have htodo := hm.todo hnone p
  rw [List.length_append, List.length_append] at hpend
  rw [portWork, portWork, portMoves]
  omega

/-- The host has nothing to send. -/
lemma accepted_go (s : CmdPath) : s.accepted .go = [] := by
  change (if s.host.rmem.cff.full then [] else Option.toList none) = _
  split_ifs <;> rfl

lemma carryOk_go (cfg : AcsConfig) (s : CmdPath) : CarryOk cfg s .go := by
  constructor <;> rw [accepted_go] <;> simp

/-- When nothing is in the way, a cycle does some work, or everything is done. -/
lemma works_or_done (h : CarryInv cfg regs s sent out held w) :
    (∀ p, w.pend p = [] ∧ w.todo p = []) ∧ s.host.cmddata_fifo = [] ∨
      0 < hostMoves cfg regs s .go + (portMoves s .go .port0 + portMoves s .go .port1) := by
  rw [Decidable.or_iff_not_imp_right]
  intro hidle
  have hhost : hostMoves cfg regs s .go = 0 := by omega
  have hports : ∀ p, s.egress.entering (s.egressWires .go) p = [] ∧ emitted p s .go = [] ∧
      s.egress.forwards p = false := by
    intro p
    have hp : portMoves s .go p = 0 := by cases p <;> omega
    rw [portMoves] at hp
    refine ⟨List.length_eq_zero_iff.mp (by omega), List.length_eq_zero_iff.mp (by omega), ?_⟩
    exact Bool.toNat_eq_zero.mp (by omega)
  -- the ports are empty, so the routing egress is ready and the output register empty
  have hquiet : ∀ p, w.pend p = [] ∧ ∀ r, (s.egress.ports p).room r = true := fun p =>
    h.egress.quiet (i := s.egressWires .go) rfl (hports p).2.1 (hports p).2.2
  have hready : (s.hostWires regs .go).adapter_out_tready = true :=
    h.egress.tready (fun p => (hquiet p).2) _
  have hempty : s.host.adapter.output_q_vld = false := by
    by_contra hv
    have ha := accepts_eq regs s .go
    rw [hready, eq_true_of_ne_false hv] at ha
    obtain ⟨p, hp⟩ := RoutingEgress.entering_ne_nil ha
    exact hp (hports p).1
  have hfirst : w.first = [] := by
    have hf := h.first
    rw [CmdPath.outputFlit, hempty, if_neg Bool.false_ne_true] at hf
    cases hw : w.first with
    | nil => rfl
    | cons x xs => rw [hw] at hf; cases hf
  -- nothing is owed, and the adapter takes nothing
  rw [hostMoves, hready] at hhost
  have howed : s.host.owed = [] := by
    have hd : s.host.delivered (s.hostWires regs .go) = [] :=
      List.length_eq_zero_iff.mp (by omega)
    change (if true then s.host.owed.head?.toList else []) = [] at hd
    cases ho : s.host.owed with
    | nil => rfl
    | cons x xs => rw [ho] at hd; cases hd
  have htake : s.host.adapter.takesCmd s.host.adapterCmd true = false :=
    Bool.toNat_eq_zero.mp (by omega)
  have htakeData : s.host.adapter.takesData s.host.cmddata_fifo.head? true = false :=
    Bool.toNat_eq_zero.mp (by
      change (s.host.adapter.takesData (if true then s.host.cmddata_fifo.head? else none) true).toNat
        = 0
      change _ + (s.host.adapter.takesData (if true then s.host.cmddata_fifo.head? else none)
        true).toNat = 0 at hhost
      omega)
  have hcount := h.split.count
  rw [howed, List.countP_nil, Nat.add_zero] at hcount
  have hsm : s.host.adapter.ocapi_sm = .INPUT_CMD_RESP := by
    cases hsm : s.host.adapter.ocapi_sm with
    | INPUT_CMD_RESP => rfl
    | INPUT_DATAFLIT =>
        have hfifo : s.host.cmddata_fifo = [] := by
          simpa [EgressAdapter.takesData, EgressAdapter.dataTready, hsm] using htakeData
        rw [hfifo, List.length_nil, EgressAdapter.left, hsm, if_pos rfl] at hcount
        rcases h.split.size hsm with hz | hz <;> rw [hz] at hcount <;> simp at hcount
  have hus : w.us = [] := by
    rw [EgressAdapter.takesCmd, EgressAdapter.cmdTready, hsm, AdapterInv.adapterCmd_eq h.split]
      at htake
    simpa using htake
  have hcur : w.cur = [] := by
    have hleft := h.adapter.left
    rw [EgressAdapter.left, hsm, if_neg (by decide)] at hleft
    exact List.length_eq_zero_iff.mp hleft.symm
  have hfifo : s.host.cmddata_fifo = [] := by
    have hdata := h.adapter.data
    rw [hcur, hus, howed] at hdata
    simpa [netData] using hdata
  -- the dispatch has nothing to dispatch
  have hlpc : s.host.rmem.LPC_LOAD_NET = .IDLE := by
    by_contra hl
    rw [if_neg hl] at hhost
    omega
  have hts : w.ts = [] := by
    cases hts : w.ts with
    | nil => rfl
    | cons t r =>
        exfalso
        have hstart : s.host.rmem.start (HostCmd.startRemote cfg) = true := by
          have hsplit := h.split
          rw [hts] at hsplit
          rw [hsplit.path.rmem.start_eq]
          exact h.remote t (by simp [hts])
        have hfull : s.host.rmem.ncff.full = false := by
          refine eq_false_of_ne_true fun hf => ?_
          have h8 := h.split.path.rmem.ncff.full_iff.mp hf
          rw [hus] at h8
          cases h8
        have hd : s.host.rmem.dispatch cfg = true := by
          simp [Rmem.dispatch, hlpc, hstart, hfull]
        rw [hd] at hhost
        simp at hhost
  have hrest := h.rest
  rw [hfirst, hcur, hus, hts] at hrest
  exact ⟨fun p => ⟨(hquiet p).1, hrest.todo_nil p⟩, hfifo⟩

/-- The work gets done. -/
lemma Reached.finishes (n : ℕ) {is : List CmdPathIn} (h : Reached cfg regs is held w)
    (hn : hostWork ((cmdPath cfg regs).run is) w + (portWork ((cmdPath cfg regs).run is) w .port0
      + portWork ((cmdPath cfg regs).run is) w .port1) = n) :
    ∃ k, (∀ p, List.Forall₂ NetHalf.Matches (netStream p .port0 (cmdTxns cfg regs is))
        (cmdOut cfg regs p (is ++ List.replicate k .go))) ∧
      ((cmdPath cfg regs).run (is ++ List.replicate k .go)).host.cmddata_fifo = [] := by
  induction n using Nat.strong_induction_on generalizing is held w with
  | _ n ih =>
      rcases works_or_done h with ⟨hdone, hfifo⟩ | hpos
      · refine ⟨0, fun p => ?_, ?_⟩
        · obtain ⟨hs, heq, hm⟩ := CarryInv.total h p
          rw [(hdone p).2, List.append_nil] at heq
          rw [(hdone p).1, List.append_nil] at hm
          rw [List.replicate_zero, List.append_nil, cmdTxns, ← heq]
          exact hm
        · rw [List.replicate_zero, List.append_nil]
          exact hfifo
      · obtain ⟨held', w', hmoved, h'⟩ := h.step (carryOk_go cfg _)
        have hnone := accepted_go ((cmdPath cfg regs).run is)
        have hrun : (cmdPath cfg regs).run (is ++ [.go])
            = ((cmdPath cfg regs).run is).step cfg regs .go := Machine.run_concat _ _ _
        have hegress := CarryInv.egress h'
        rw [hrun] at hegress
        have hhost := host_work h hmoved hnone
        have h0 := port_work h hegress hmoved hnone .port0
        have h1 := port_work h hegress hmoved hnone .port1
        have hlt : hostWork ((cmdPath cfg regs).run (is ++ [.go])) w'
            + (portWork ((cmdPath cfg regs).run (is ++ [.go])) w' .port0
              + portWork ((cmdPath cfg regs).run (is ++ [.go])) w' .port1) < n := by
          rw [hrun]
          omega
        have hsent : cmdTxns cfg regs (is ++ [.go]) = cmdTxns cfg regs is := by
          rw [cmdTxns, Machine.collect_concat, hnone, List.append_nil]
          rfl
        obtain ⟨k, hk⟩ := ih _ hlt h' rfl
        refine ⟨k + 1, ?_⟩
        rw [List.replicate_succ, List.append_cons, ← hsent]
        exact hk

end CarryInv

/-- **Every command is carried with exactly its own data** in every run whose commands are reads
and writes of two flits. -/
theorem commands_carried (cfg : AcsConfig) (regs : Fin 12 → BitVec 64) (is : List CmdPathIn)
    (hok : (cmdPath cfg regs).Meets (CarryOk cfg) is) : CommandsCarried cfg regs is := by
  obtain ⟨held, w, h⟩ := CarryInv.reached cfg regs is hok
  refine ⟨fun p => ?_, CarryInv.Reached.finishes _ h rfl⟩
  obtain ⟨hs, heq, hm⟩ := CarryInv.total h p
  refine ⟨hs.take (cmdOut cfg regs p is).length, ?_, ?_⟩
  · rw [cmdTxns, ← heq]
    exact (List.take_prefix _ _).trans (List.prefix_append _ _)
  · have htake := List.forall₂_take (cmdOut cfg regs p is).length hm
    rwa [List.take_left] at htake

/-! ## Runs with each kind of write -/

/-- A `pr_wr_mem` of eight bytes to segment 0. -/
def partialTxn : HostTxn := ⟨⟨0x86, 0, 2, 3, 0, 0x40⟩, [0xb1], mmioTxn.len⟩

/-- The host sends the commands one after the other; then nothing is in the way. -/
def sendAll (ts : List HostTxn) (n : ℕ) : List CmdPathIn :=
  ts.map (fun t => ⟨hostCycle (some t) true, fun _ => true⟩) ++ List.replicate n .go

/-- Two writes of 128 bytes arrive with their data. -/
theorem commands_carried_twice : CommandsCarried cfgAt (fun _ => 0) (sendAll [remoteTxn, remoteTxn] 4)
    ∧ cmdTxns cfgAt (fun _ => 0) (sendAll [remoteTxn, remoteTxn] 4)
      = [remoteTxn.net fun _ => 0, remoteTxn.net fun _ => 0] :=
  ⟨commands_carried cfgAt _ _ (by decide +kernel), by decide +kernel⟩

/-- Where data is expected and a flit has been handed over, it is that data. -/
lemma CommandsCarried.data_at {cfg : AcsConfig} {regs : Fin 12 → BitVec 64} {is : List CmdPathIn}
    (h : CommandsCarried cfg regs is) {p : Port} {k : ℕ} {d x : Flit}
    (hd : (netStream p .port0 (cmdTxns cfg regs is))[k]? = some (.data d))
    (hx : (cmdOut cfg regs p is)[k]? = some x) : x = d := by
  obtain ⟨hs, ⟨rest, hpre⟩, hm⟩ := h.order p
  obtain ⟨hlt, hxk⟩ := List.getElem?_eq_some_iff.mp hx
  have hlen : k < hs.length := by
    rw [hm.length_eq]
    exact hlt
  rw [← hpre, List.getElem?_append_left hlen, List.getElem?_eq_getElem hlen] at hd
  have hk := hm.get hlen hlt
  rw [List.get_eq_getElem, Option.some.inj hd, List.get_eq_getElem, hxk] at hk
  exact hk

/-- **The data of a partial write stays in the data FIFO:** the write after it is sent with it, and
its own last flit stays behind in turn. -/
theorem commands_carried_fails :
    (∀ t ∈ (cmdPath cfgAt fun _ => 0).collect CmdPath.accepted (sendAll [partialTxn, remoteTxn] 25),
      t.cmd.startRemote cfgAt = true ∧ t.cmd.segment < 12) ∧
    (cmdOut cfgAt (fun _ => 0) .port1 (sendAll [partialTxn, remoteTxn] 25)).map
        (fun x => (field x 248 8, field x 168 16, field x 0 16))
      = [(0x00, 2, 0), (0x20, 1, 0), (0, 0, 0), (0, 0, 0xb1), (0, 0, 0), (0, 0, 0xa1)] ∧
    ((cmdPath cfgAt fun _ => 0).run (sendAll [partialTxn, remoteTxn] 25)).host.cmddata_fifo
      = [0xa2] ∧
    ¬ CommandsCarried cfgAt (fun _ => 0) (sendAll [partialTxn, remoteTxn] 25) := by
  refine ⟨by decide +kernel, by decide +kernel, by decide +kernel, fun h => ?_⟩
  have hdata : (netStream .port1 .port0 (cmdTxns cfgAt (fun _ => 0)
      (sendAll [partialTxn, remoteTxn] 25)))[1]? = some (.data 0) := by decide +kernel
  have hout : ((cmdOut cfgAt (fun _ => 0) .port1
      (sendAll [partialTxn, remoteTxn] 25))[1]?).any (fun x => decide (x ≠ 0)) = true := by
    decide +kernel
  cases hx : (cmdOut cfgAt (fun _ => 0) .port1 (sendAll [partialTxn, remoteTxn] 25))[1]? with
  | none => rw [hx] at hout; cases hout
  | some x =>
      rw [hx, h.data_at hdata hx] at hout
      cases hout

end ThymesisFlow
