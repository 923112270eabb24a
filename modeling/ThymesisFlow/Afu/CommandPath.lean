import ThymesisFlow.Afu.DataSplit
import ThymesisFlow.Routing.EgressRouted

/-!
# From the host to the network ports

The path of the host's commands up to the two network ports: the dispatch and the egress adapter
(`HostPath`), and the routing egress behind the adapter's output register.  A network transaction
is a row of the network command FIFO with the data flits that are requested for it; `netStream` is
what is expected of a port, and `NetRest` what is left of it at the input of the routing egress.
-/

namespace ThymesisFlow

structure CmdPath where
  host : HostPath := {}
  egress : RoutingEgress := {}

/-- The choices of one cycle. -/
structure CmdPathIn where
  host : HostPathIn
  egr_route_out_tready : Port → Bool

namespace CmdPath

variable (cfg : AcsConfig) (regs : Fin 12 → BitVec 64) (s : CmdPath) (i : CmdPathIn)

/-- The output register of the adapter is the input of the routing egress. -/
def egressWires : RoutingEgressIn where
  egr_route_in_tdata := s.host.adapter.output_q
  egr_route_in_tvalid := s.host.adapter.output_q_vld
  egr_route_out_tready := i.egr_route_out_tready

/-- The configuration registers are MMIO registers, so without a MMIO command they do not change. -/
def hostWires : HostPathIn :=
  { i.host with
    adapter_out_tready := s.egress.egr_route_in_tready s.host.adapter.output_q
    thymesis_cfg := regs }

def step : CmdPath where
  host := s.host.step cfg (s.hostWires regs i)
  egress := s.egress.step (s.egressWires i)

/-- The command that enters the command FIFO. -/
def accepted (s : CmdPath) (i : CmdPathIn) : List HostTxn := s.host.accepted i.host

/-- The flit handed over at a port. -/
def emitted (p : Port) (s : CmdPath) (i : CmdPathIn) : List Flit :=
  RoutingEgress.emitted p s.egress (s.egressWires i)

end CmdPath

/-- The path at reset. -/
def cmdPath (cfg : AcsConfig) (regs : Fin 12 → BitVec 64) : Machine CmdPath CmdPathIn where
  init := {}
  step := CmdPath.step cfg regs

/-! ## Network transactions -/

/-- A row of the network command FIFO and its data flits. -/
structure NetTxn where
  cmd : NetCmd
  data : List Flit512
  deriving DecidableEq

/-- A data flit without the bad data indicator. -/
def dataBytes (d : DataFlit) : Flit512 := d.extractLsb' 0 512

/-- What a command of the host is on the network. -/
def HostTxn.net (regs : Fin 12 → BitVec 64) (t : HostTxn) : NetTxn where
  cmd := (netCmdRow regs t.cmd).getD {}
  data := t.data.map dataBytes

/-- A 64 byte flit of a transaction. -/
inductive NetFlit
  | cmd (n : NetCmd)
  | data (d : Flit512)

/-- A 32 byte flit of a transaction. -/
inductive NetHalf
  | cmd (n : NetCmd)
  | data (h : Flit)
  deriving DecidableEq

/-- A 32 byte flit carries the command `n`. -/
structure NetCmd.In (n : NetCmd) (h : Flit) : Prop where
  netid : field h 35 6 = n.netid
  opcode : field h 248 8 = n.opcode
  dl : field h 166 2 = n.dl
  tag : field h 168 16 = n.tag
  pl : field h 163 3 = n.pl
  be : field h 99 64 = n.be
  ea : field h 184 64 = n.ea

instance (n : NetCmd) (h : Flit) : Decidable (n.In h) :=
  decidable_of_iff (field h 35 6 = n.netid ∧ field h 248 8 = n.opcode ∧ field h 166 2 = n.dl ∧
    field h 168 16 = n.tag ∧ field h 163 3 = n.pl ∧ field h 99 64 = n.be ∧ field h 184 64 = n.ea)
    ⟨fun ⟨h1, h2, h3, h4, h5, h6, h7⟩ => ⟨h1, h2, h3, h4, h5, h6, h7⟩,
      fun ⟨h1, h2, h3, h4, h5, h6, h7⟩ => ⟨h1, h2, h3, h4, h5, h6, h7⟩⟩

def NetFlit.Matches : NetFlit → Flit512 → Prop
  | .cmd n, f => n.In (hiHalf f)
  | .data d, f => f = d

def NetHalf.Matches : NetHalf → Flit → Prop
  | .cmd n, h => n.In h
  | .data d, h => h = d

namespace NetTxn

def flits (t : NetTxn) : List NetFlit := .cmd t.cmd :: t.data.map .data

/-- The two halves of each data flit, the upper one first. -/
def dataHalves (ds : List Flit512) : List NetHalf :=
  ds.flatMap fun d => [.data (hiHalf d), .data (loHalf d)]

/-- The transaction on its port. -/
def halves (t : NetTxn) : List NetHalf := .cmd t.cmd :: dataHalves t.data

end NetTxn

/-- The port for a command, when it is the turn of the port `turn`. -/
def netPort (turn : Port) (n : NetCmd) : Port :=
  if bit n.netid 0 && bit n.netid 1 then turn else if bit n.netid 0 then .port0 else .port1

/-- What is expected of the port `p`; the turns alternate from one command to the next. -/
def netStream (p : Port) : Port → List NetTxn → List NetHalf
  | _, [] => []
  | turn, t :: ts =>
      (if netPort turn t.cmd = p then t.halves else []) ++ netStream p turn.other ts

/-- The turn after a sequence of commands. -/
def turnAfter (turn : Port) (ts : List NetTxn) : Port := ts.foldl (fun turn _ => turn.other) turn

lemma turnAfter_append (turn : Port) (ts us : List NetTxn) :
    turnAfter turn (ts ++ us) = turnAfter (turnAfter turn ts) us := List.foldl_append

lemma netStream_append (p turn : Port) (ts us : List NetTxn) :
    netStream p turn (ts ++ us) = netStream p turn ts ++ netStream p (turnAfter turn ts) us := by
  induction ts generalizing turn with
  | nil => rfl
  | cons t ts ih =>
      rw [List.cons_append, netStream, netStream, ih, List.append_assoc]
      rfl

/-! ## Commands in flits -/

/-- The opcodes of the network's commands and the lengths of its writes. -/
structure NetTxn.Whole (t : NetTxn) : Prop where
  plain : bit t.cmd.opcode 2 = false
  dl : t.cmd.isWrite = true → t.cmd.dl = 0b10
  len : t.data.length = if t.cmd.isWrite then 2 else 0

namespace NetCmd

variable {n : NetCmd} {f : Flit512}

/-- The adapter writes every field of the command. -/
lemma in_putCmd (q : Flit512) (n : NetCmd) : n.In (hiHalf (EgressAdapter.putCmd q n)) := by
  have hhalf : ∀ (lo len : ℕ) (x : Flit512), lo + len ≤ 256 →
      field (hiHalf x) lo len = field x (256 + lo) len := by
    intro lo len x hle
    apply BitVec.eq_of_getLsbD_eq
    intro k hk
    rw [getLsbD_field, getLsbD_field, hiHalf, getLsbD_field, ← Nat.add_assoc]
    have hlt : lo + k < 256 := by omega
    simp [hlt]
  constructor <;> rw [hhalf _ _ _ (by decide), EgressAdapter.putCmd] <;>
    simp [field_setField_of_disjoint]

lemma In.hasData (h : n.In (hiHalf f)) (hplain : bit n.opcode 2 = false) :
    egrHasData f = n.isWrite := by
  have h5 : bit f 509 = bit n.opcode 5 := by
    rw [← h.opcode, ← bit_eq_field _ _ _ (by decide), bit_hiHalf f (by decide)]
  have h2 : bit f 506 = bit n.opcode 2 := by
    rw [← h.opcode, ← bit_eq_field _ _ _ (by decide), bit_hiHalf f (by decide)]
  rw [egrHasData, h5, h2, hplain, isWrite]
  simp

lemma In.egrDl (h : n.In (hiHalf f)) (hw : n.isWrite = true) : egrDl f = n.dl := by
  have h5 : bit f 509 = true := by
    rw [← hw, isWrite, ← h.opcode, ← bit_eq_field _ _ _ (by decide), bit_hiHalf f (by decide)]
  rw [ThymesisFlow.egrDl, h5, if_pos rfl, ← h.dl]
  apply BitVec.eq_of_getLsbD_eq
  intro k hk
  have hlt : 166 + k < 256 := by omega
  rw [getLsbD_field, getLsbD_field, hiHalf, getLsbD_field, ← Nat.add_assoc]
  simp [hlt]

/-- The routing egress picks the port by the net id. -/
lemma In.port (h : n.In (hiHalf f)) (s : RoutingEgress) :
    s.next_cmd_interface_id f = netPort s.output_turn n := by
  have h0 : bit f 291 = bit n.netid 0 := by
    rw [← h.netid, ← bit_eq_field _ _ _ (by decide), bit_hiHalf f (by decide)]
  have h1 : bit f 292 = bit n.netid 1 := by
    rw [← h.netid, ← bit_eq_field _ _ _ (by decide), bit_hiHalf f (by decide)]
  rw [RoutingEgress.next_cmd_interface_id, h0, h1, netPort]

end NetCmd

/-! ## What is left at the input of the routing egress -/

/-- The flits that have not been accepted, what they are on the ports, and the turn after them
(`NetRest s rest todo turn`). -/
inductive NetRest (s : RoutingEgress) : List NetFlit → (Port → List NetHalf) → Port → Prop
  | cmd {ts : List NetTxn} (hsm : s.ocapi_sm = .INPUT_CMD_RESP) (hsize : s.dflit_size = 0)
      (hts : ∀ t ∈ ts, t.Whole) :
      NetRest s (ts.flatMap NetTxn.flits) (fun p => netStream p s.output_turn ts)
        (turnAfter s.output_turn ts)
  | data0 {d0 d1 : Flit512} {ts : List NetTxn} (hsm : s.ocapi_sm = .INPUT_DATAFLIT)
      (hsize : s.dflit_size = 2) (hts : ∀ t ∈ ts, t.Whole) :
      NetRest s (.data d0 :: .data d1 :: ts.flatMap NetTxn.flits) (fun p =>
        (if s.next_data_interface_id = p then NetTxn.dataHalves [d0, d1] else [])
          ++ netStream p s.output_turn ts) (turnAfter s.output_turn ts)
  | data1 {d1 : Flit512} {ts : List NetTxn} (hsm : s.ocapi_sm = .INPUT_DATAFLIT)
      (hsize : s.dflit_size = 1) (hts : ∀ t ∈ ts, t.Whole) :
      NetRest s (.data d1 :: ts.flatMap NetTxn.flits) (fun p =>
        (if s.next_data_interface_id = p then NetTxn.dataHalves [d1] else [])
          ++ netStream p s.output_turn ts) (turnAfter s.output_turn ts)

namespace NetRest

variable {s : RoutingEgress} {i : RoutingEgressIn} {rest : List NetFlit}
  {todo : Port → List NetHalf} {turn : Port}

/-- A cycle that accepts nothing. -/
lemma idle (h : NetRest s rest todo turn) (ha : s.accepts i = false) :
    NetRest (s.step i) rest todo turn := by
  have hturn : (s.step i).output_turn = s.output_turn := by simp [RoutingEgress.step, ha]
  have hnext : s.ocapi_sm = .INPUT_DATAFLIT →
      (s.step i).next_data_interface_id = s.next_data_interface_id := by
    intro hsm
    simp [RoutingEgress.step, hsm]
  have hsize : (s.step i).dflit_size = s.dflit_size := by
    simp only [RoutingEgress.step, ha]
    cases s.ocapi_sm <;> simp
  have hstay : (s.step i).ocapi_sm = s.ocapi_sm := by
    simp only [RoutingEgress.step, ha]
    cases s.ocapi_sm <;> simp
  cases h with
  | cmd hsm h0 hts =>
      rw [← hturn]
      exact .cmd (hstay.trans hsm) (hsize.trans h0) hts
  | data0 hsm h2 hts =>
      rw [← hturn, ← hnext hsm]
      exact .data0 (hstay.trans hsm) (hsize.trans h2) hts
  | data1 hsm h1 hts =>
      rw [← hturn, ← hnext hsm]
      exact .data1 (hstay.trans hsm) (hsize.trans h1) hts

/-- Accepting a command. -/
lemma accept_cmd {t : NetTxn} {ts : List NetTxn} (hsm : s.ocapi_sm = .INPUT_CMD_RESP)
    (h0 : s.dflit_size = 0) (hts : ∀ x ∈ t :: ts, x.Whole)
    (hm : t.cmd.In (hiHalf i.egr_route_in_tdata)) (ha : s.accepts i = true) :
    ∃ todo', NetRest (s.step i) (t.data.map .data ++ ts.flatMap NetTxn.flits) todo'
        (turnAfter s.output_turn (t :: ts)) ∧
      ∀ p, ∃ hs, hs ++ todo' p = netStream p s.output_turn (t :: ts) ∧
        List.Forall₂ NetHalf.Matches hs (s.entering i p) := by
  have ht := hts t (by simp)
  have hts' : ∀ x ∈ ts, x.Whole := fun x hx => hts x (List.mem_cons_of_mem _ hx)
  have hport := hm.port s
  have hdata := hm.hasData ht.plain
  have hlen := ht.len
  have hturn : (s.step i).output_turn = s.output_turn.other := by
    simp [RoutingEgress.step, RoutingEgress.input_is_cmd, hsm, ha]
  have henter : ∀ p, s.entering i p
      = if netPort s.output_turn t.cmd = p then [hiHalf i.egr_route_in_tdata] else [] := by
    intro p
    rw [RoutingEgress.entering, ha, if_pos rfl, hsm, hport]
  -- the command goes to its port, its data follows
  have hhead : ∀ p, ∃ hs, (hs ++ ((if netPort s.output_turn t.cmd = p then
        NetTxn.dataHalves t.data else []) ++ netStream p s.output_turn.other ts)
          = netStream p s.output_turn (t :: ts)) ∧
        List.Forall₂ NetHalf.Matches hs (s.entering i p) := by
    intro p
    rw [henter, netStream]
    by_cases hp : netPort s.output_turn t.cmd = p
    · simp only [hp, if_true]
      exact ⟨[.cmd t.cmd], rfl, .cons hm .nil⟩
    · simp only [hp, if_false]
      exact ⟨[], rfl, .nil⟩
  cases hw : t.cmd.isWrite with
  | false =>
      rw [hw, if_neg Bool.false_ne_true] at hlen
      obtain hnil := List.length_eq_zero_iff.mp hlen
      rw [hw] at hdata
      rw [hnil] at hhead ⊢
      have hsm' : (s.step i).ocapi_sm = .INPUT_CMD_RESP := by
        simp [RoutingEgress.step, hsm, hdata]
      have h0' : (s.step i).dflit_size = 0 := by simp [RoutingEgress.step, hsm, hdata, h0]
      have hnext := NetRest.cmd hsm' h0' hts'
      rw [hturn] at hnext
      refine ⟨_, hnext, fun p => ?_⟩
      · obtain ⟨hs, heq, hmatch⟩ := hhead p
        refine ⟨hs, ?_, hmatch⟩
        rw [← heq]
        simp [NetTxn.dataHalves]
  | true =>
      rw [hw, if_pos rfl] at hlen
      obtain ⟨d0, d1, hd⟩ := List.length_eq_two.mp hlen
      rw [hw] at hdata
      have hdl := (hm.egrDl hw).trans (ht.dl hw)
      rw [hd] at hhead ⊢
      have hsm' : (s.step i).ocapi_sm = .INPUT_DATAFLIT := by
        simp [RoutingEgress.step, hsm, ha, hdata]
      have h2' : (s.step i).dflit_size = 2 := by
        simp [RoutingEgress.step, hsm, ha, hdata, hdl, dflitSize, bit]
      have hid : (s.step i).next_data_interface_id = netPort s.output_turn t.cmd := by
        simp [RoutingEgress.step, hsm, ha, hdata, hport]
      have hnext := @NetRest.data0 _ d0 d1 _ hsm' h2' hts'
      rw [hturn, hid] at hnext
      exact ⟨_, hnext, hhead⟩

/-- Accepting the next flit. -/
lemma accept {x : NetFlit} (h : NetRest s (x :: rest) todo turn) (hx : x.Matches i.egr_route_in_tdata)
    (ha : s.accepts i = true) :
    ∃ todo', NetRest (s.step i) rest todo' turn ∧
      ∀ p, ∃ hs, hs ++ todo' p = todo p ∧ List.Forall₂ NetHalf.Matches hs (s.entering i p) := by
  generalize hflits : x :: rest = flits at h
  -- a data flit goes to the port of its command
  have hdata : ∀ (d : Flit512) (tail : Port → List NetHalf), s.ocapi_sm = .INPUT_DATAFLIT →
      i.egr_route_in_tdata = d → ∀ p, ∃ hs, (hs ++ tail p
          = (if s.next_data_interface_id = p then NetTxn.dataHalves [d] else []) ++ tail p) ∧
        List.Forall₂ NetHalf.Matches hs (s.entering i p) := by
    intro d tail hsm hd p
    refine ⟨_, rfl, ?_⟩
    rw [RoutingEgress.entering, ha, if_pos rfl, hsm, hd]
    by_cases hp : s.next_data_interface_id = p
    · simp only [hp, if_true]
      exact .cons rfl (.cons rfl .nil)
    · simp only [hp, if_false]
      exact .nil
  cases h with
  | @cmd ts hsm h0 hts =>
      cases ts with
      | nil => cases hflits
      | cons t ts =>
          obtain ⟨rfl, rfl⟩ := List.cons.inj hflits
          exact accept_cmd hsm h0 hts hx ha
  | @data0 d0 d1 ts hsm h2 hts =>
      obtain ⟨rfl, rfl⟩ := List.cons.inj hflits
      have hturn : (s.step i).output_turn = s.output_turn := by
        simp [RoutingEgress.step, RoutingEgress.input_is_cmd, hsm]
      have hnext : (s.step i).next_data_interface_id = s.next_data_interface_id := by
        simp [RoutingEgress.step, hsm]
      have hsm' : (s.step i).ocapi_sm = .INPUT_DATAFLIT := by
        simp [RoutingEgress.step, hsm, h2]
      have h1' : (s.step i).dflit_size = 1 := by simp [RoutingEgress.step, hsm, ha, h2]
      have hrest := @NetRest.data1 _ d1 _ hsm' h1' hts
      rw [hturn, hnext] at hrest
      refine ⟨_, hrest, fun p => ?_⟩
      obtain ⟨hs, heq, hmatch⟩ := hdata d0 (fun p =>
        (if s.next_data_interface_id = p then NetTxn.dataHalves [d1] else [])
          ++ netStream p s.output_turn ts) hsm hx p
      refine ⟨hs, heq.trans ?_, hmatch⟩
      by_cases hp : s.next_data_interface_id = p <;> simp [hp, NetTxn.dataHalves]
  | @data1 d1 ts hsm h1 hts =>
      obtain ⟨rfl, rfl⟩ := List.cons.inj hflits
      have hturn : (s.step i).output_turn = s.output_turn := by
        simp [RoutingEgress.step, RoutingEgress.input_is_cmd, hsm]
      have hsm' : (s.step i).ocapi_sm = .INPUT_CMD_RESP := by
        simp [RoutingEgress.step, hsm, ha, h1]
      have h0' : (s.step i).dflit_size = 0 := by simp [RoutingEgress.step, hsm, ha, h1]
      have hrest := NetRest.cmd hsm' h0' hts
      rw [hturn] at hrest
      exact ⟨_, hrest, hdata d1 (fun p => netStream p s.output_turn ts) hsm hx⟩

/-- More transactions are sent. -/
lemma extend (h : NetRest s rest todo turn) {us : List NetTxn} (hus : ∀ t ∈ us, t.Whole) :
    NetRest s (rest ++ us.flatMap NetTxn.flits) (fun p => todo p ++ netStream p turn us)
      (turnAfter turn us) := by
  have hall : ∀ {ts : List NetTxn}, (∀ t ∈ ts, t.Whole) → ∀ t ∈ ts ++ us, t.Whole :=
    fun hts t ht => (List.mem_append.mp ht).elim (hts t) (hus t)
  cases h with
  | @cmd ts hsm h0 hts =>
      rw [← List.flatMap_append, ← turnAfter_append]
      simp only [← netStream_append]
      exact .cmd hsm h0 (hall hts)
  | @data0 d0 d1 ts hsm h2 hts =>
      rw [List.cons_append, List.cons_append, ← List.flatMap_append, ← turnAfter_append]
      simp only [List.append_assoc, ← netStream_append]
      exact .data0 hsm h2 (hall hts)
  | @data1 d1 ts hsm h1 hts =>
      rw [List.cons_append, ← List.flatMap_append, ← turnAfter_append]
      simp only [List.append_assoc, ← netStream_append]
      exact .data1 hsm h1 (hall hts)

/-- The next flit is a command with two data flits, if it has any. -/
lemma pairs {x : NetFlit} (h : NetRest s (x :: rest) todo turn) {f : Flit512} (hx : x.Matches f)
    (hsm : s.ocapi_sm = .INPUT_CMD_RESP) (hd : egrHasData f = true) : egrDl f = 2 := by
  generalize hflits : x :: rest = flits at h
  cases h with
  | @cmd ts _ _ hts =>
      cases ts with
      | nil => cases hflits
      | cons t ts =>
          obtain ⟨rfl, -⟩ := List.cons.inj hflits
          have ht := hts t (by simp)
          have hm : t.cmd.In (hiHalf f) := hx
          rw [hm.hasData ht.plain] at hd
          exact (hm.egrDl hd).trans (ht.dl hd)
  | data0 hdata => rw [hdata] at hsm; cases hsm
  | data1 hdata => rw [hdata] at hsm; cases hsm

/-- Nothing is left for the ports at the end. -/
lemma todo_nil (h : NetRest s [] todo turn) (p : Port) : todo p = [] := by
  generalize hr : ([] : List NetFlit) = rest at h
  cases h with
  | @cmd ts =>
      cases ts with
      | nil => rfl
      | cons t ts => cases hr
  | data0 => cases hr
  | data1 => cases hr

end NetRest

end ThymesisFlow
