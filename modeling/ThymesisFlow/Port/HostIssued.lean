import ThymesisFlow.Memory.Retried
import ThymesisFlow.Port.HostNetwork

/-!
# What arrives at the memory node

The parts of the way are put together.  What has entered the routing egress of the host's node is, port
by port, the beginning of a stream of transactions (`exists_onPort`), and a flit that the egress shows
is the next one of it (`offers`).  So the crossing delivers transactions that are the same up to the
credits, the memory ingress takes them as they are (`taken_of_beats`), and each field of a command can be
followed from the row in the host's network command FIFO to the wires of the TLX (`issuedAs`).
-/

namespace ThymesisFlow

/-! ## The transactions on a port -/

/-- A transaction with a command that is none of the link layer's. -/
structure NetTxn.Sendable (t : NetTxn) : Prop extends t.Whole where
  noNop : bit t.cmd.opcode 6 = false

/-- A transaction in the flits of its port. -/
structure NetTxn.OnPort (t : NetTxn) (u : MemTxn) : Prop where
  hdr : t.cmd.In u.hdr
  data : u.data = t.data.flatMap fun d => [hiHalf d, loHalf d]

lemma HostTxn.net_sendable {cfg : AcsConfig} {regs : Fin 12 → BitVec 64} {t : HostTxn}
    (hr : t.cmd.startRemote cfg = true) (hm : t.cmd.Mixed cfg) : (t.net regs).Sendable := by
  obtain ⟨h, hrow⟩ := HostTxn.netCmdRow_eq regs hr hm
  refine ⟨HostTxn.net_whole hr hm, ?_⟩
  have hcmd : (t.net regs).cmd = .ofHost (regs ⟨_, h⟩) t.cmd := by rw [HostTxn.net, hrow]; rfl
  rw [hcmd]
  have hhigh : ∀ w r : Bool, bit (0#2 ++ BitVec.ofBool w ++ BitVec.ofBool r ++ 0#4) 6 = false := by
    decide
  exact hhigh _ _

/-- A command keeps the tag of the host. -/
lemma HostTxn.net_tag {cfg : AcsConfig} {regs : Fin 12 → BitVec 64} {t : HostTxn}
    (hr : t.cmd.startRemote cfg = true) (hm : t.cmd.Mixed cfg) : (t.net regs).cmd.tag = t.cmd.capptag := by
  obtain ⟨h, hrow⟩ := HostTxn.netCmdRow_eq regs hr hm
  rw [HostTxn.net, hrow]
  rfl

lemma netStream_eq (p turn : Port) (ts : List NetTxn) :
    netStream p turn ts = (netTxnsOn p turn ts).flatMap NetTxn.halves := by
  induction ts generalizing turn with
  | nil => rfl
  | cons t ts ih =>
      rw [netStream, netTxnsOn, ih]
      split_ifs
      · rw [List.flatMap_cons]
      · rw [List.nil_append]

lemma netTxnsOn_dealt : DealtByTurns (fun turn t => netPort turn t.cmd) netTxnsOn :=
  ⟨fun _ _ => rfl, fun _ _ _ _ => rfl⟩

namespace NetTxn

lemma dataHalves_eq (ds : List Flit512) :
    dataHalves ds = (ds.flatMap fun d => [hiHalf d, loHalf d]).map .data := by
  rw [dataHalves, List.map_flatMap]
  rfl

lemma bit_opcode {n : NetCmd} {f : Flit} (h : n.In f) {k : ℕ} (hk : k < 8) :
    bit f (248 + k) = bit n.opcode k := by
  rw [← h.opcode, ← bit_eq_field _ _ _ hk]

/-- A transaction whose command is in the flit `f`. -/
lemma Sendable.exists_txn {t : NetTxn} (ht : t.Sendable) {f : Flit} (hf : t.cmd.In f) :
    ∃ u : MemTxn, t.OnPort u ∧ u.IsCommand ∧ u.TwoFlits ∧ u.hdr = f := by
  have hwrite : isWriteCmd f = t.cmd.isWrite := bit_opcode hf (k := 5) (by decide)
  have hplain : bit f 250 = false := (bit_opcode hf (k := 2) (by decide)).trans ht.plain
  have hnop : isNopCmd f = false := by
    have h6 : bit f 254 = false := (bit_opcode hf (k := 6) (by decide)).trans ht.noNop
    rw [isNopCmd, h6, Bool.false_and]
  have htwo : isWriteCmd f = true → field f 166 2 = 0b10#2 := fun hw =>
    hf.dl.trans (ht.dl (hwrite.symm.trans hw))
  have hlen := ht.len
  cases hw : t.cmd.isWrite with
  | false =>
      rw [hw, if_neg Bool.false_ne_true] at hlen
      have hnil := List.length_eq_zero_iff.mp hlen
      exact ⟨.short f (hwrite.trans hw), ⟨hf, by rw [hnil]; rfl⟩, ⟨hplain, hnop⟩, htwo, rfl⟩
  | true =>
      rw [hw, if_pos rfl] at hlen
      obtain ⟨d0, d1, hd⟩ := List.length_eq_two.mp hlen
      exact ⟨.write f (hiHalf d0) (loHalf d0) (hiHalf d1) (loHalf d1) (hwrite.trans hw),
        ⟨hf, by rw [hd]; rfl⟩, ⟨hplain, hnop⟩, htwo, rfl⟩

/-- **What a port has got belongs to transactions**: those that are expected of it, where the flits of
the commands are not known in advance. -/
lemma exists_onPort (ts : List NetTxn) (hts : ∀ t ∈ ts, t.Sendable) {hs : List NetHalf}
    {fs : List Flit} (hpre : hs <+: ts.flatMap halves) (hm : List.Forall₂ NetHalf.Matches hs fs) :
    ∃ us, fs <+: memStream us ∧ List.Forall₂ OnPort ts us
      ∧ ∀ u ∈ us, u.IsCommand ∧ u.TwoFlits := by
  induction ts generalizing hs fs with
  | nil =>
      obtain rfl := List.prefix_nil.mp hpre
      cases hm
      exact ⟨[], List.nil_prefix, .nil, by simp⟩
  | cons t ts ih =>
      have ht := hts t List.mem_cons_self
      have hts' := fun x hx => hts x (List.mem_cons_of_mem t hx)
      have hall : ∀ {u : MemTxn} {us : List MemTxn}, u.IsCommand ∧ u.TwoFlits →
          (∀ v ∈ us, v.IsCommand ∧ v.TwoFlits) → ∀ v ∈ u :: us, v.IsCommand ∧ v.TwoFlits := by
        intro u us hu hus v hv
        rcases List.mem_cons.mp hv with rfl | hv
        · exact hu
        · exact hus v hv
      cases hm with
      | nil =>
          obtain ⟨us, -, hon, hus⟩ := ih hts' List.nil_prefix .nil
          obtain ⟨u, hu, hcmd, htwo, -⟩ := ht.exists_txn (NetCmd.in_putCmd 0 t.cmd)
          exact ⟨u :: us, List.nil_prefix, .cons hu hon, hall ⟨hcmd, htwo⟩ hus⟩
      | @cons h f hs fs hf hrest =>
          rw [List.flatMap_cons, halves, List.cons_append] at hpre
          obtain ⟨rfl, htail⟩ := List.cons_prefix_cons.mp hpre
          obtain ⟨u, hu, hcmd, htwo, rfl⟩ := ht.exists_txn hf
          have hlen : (dataHalves t.data).length = u.data.length := by
            rw [hu.data, dataHalves_eq, List.length_map]
          -- the data of this transaction, and what is behind it
          have hdata : fs.take u.data.length <+: u.data := by
            rw [hu.data]
            refine isPrefix_of_related (f := NetHalf.data) (fun x y h => h) ?_ (List.forall₂_take (t.data.flatMap fun d =>
              [hiHalf d, loHalf d]).length hrest)
            rw [← dataHalves_eq]
            refine List.prefix_of_prefix_length_le ((List.take_prefix _ _).trans htail)
              (List.prefix_append _ _) ?_
            rw [hlen, hu.data]
            exact List.length_take_le _ _
          obtain ⟨us, hfs, hon, hus⟩ := ih hts'
            (by
              have hdrop := htail.drop (dataHalves t.data).length
              rwa [List.drop_left] at hdrop)
            (List.forall₂_drop (dataHalves t.data).length hrest)
          refine ⟨u :: us, ?_, .cons hu hon, hall ⟨hcmd, htwo⟩ hus⟩
          rw [memStream_cons]
          refine (List.prefix_cons_inj _).mpr ?_
          rw [hlen] at hfs
          rw [← List.take_append_drop u.data.length fs]
          rcases Nat.lt_or_ge fs.length u.data.length with hshort | hlong
          · rw [List.drop_eq_nil_of_le hshort.le, List.append_nil]
            exact hdata.trans (List.prefix_append _ _)
          · have hfull : fs.take u.data.length = u.data :=
              hdata.eq_of_length (List.length_take_of_le hlong)
            rw [hfull]
            exact (List.prefix_append_right_inj _).mpr hfs

end NetTxn

/-! ## The runs of the parts -/

/-- What has entered the routing egress for a port. -/
def cmdEntered (cfg : AcsConfig) (regs : Fin 12 → BitVec 64) (p : Port) (is : List CmdPathIn) :
    List Flit :=
  (cmdPath cfg regs).collect (fun s i => s.egress.entering (s.egressWires i) p) is

/-- It has been handed over, or is still in the egress. -/
lemma exists_entered (cfg : AcsConfig) (regs : Fin 12 → BitVec 64) (is : List CmdPathIn)
    (hok : (cmdPath cfg regs).Meets (CarryOk cfg) is) :
    ∃ held w, CarryInv.Reached cfg regs is held w
      ∧ ∀ p, cmdOut cfg regs p is ++ w.pend p = cmdEntered cfg regs p is := by
  induction is using List.reverseRecOn with
  | nil => exact ⟨none, _, CarryInv.init cfg regs, fun p => rfl⟩
  | append_singleton is i ih =>
      obtain ⟨hbefore, hi⟩ := ((cmdPath cfg regs).meets_concat _ is i).mp hok
      obtain ⟨held, w, h, hentered⟩ := ih hbefore
      obtain ⟨held', w', hmoved, h'⟩ := h.step hi
      refine ⟨held', w', h', fun p => ?_⟩
      rw [cmdOut, cmdEntered, Machine.collect_concat, Machine.collect_concat, List.append_assoc,
        hmoved.ports p, ← List.append_assoc]
      exact congrArg (· ++ _) (hentered p)

namespace HostNetwork

variable {cfg : AcsConfig} {regs : Fin 12 → BitVec 64}

/-- The runs of the host's node, of the crossing and of the memory ingress. -/
def hostRun (cfg : AcsConfig) (regs : Fin 12 → BitVec 64) (ms : List HostNetworkMove) : List CmdPathIn :=
  (hostNetwork cfg regs).collect hostMoves ms

def crossingRun (cfg : AcsConfig) (regs : Fin 12 → BitVec 64) (ms : List HostNetworkMove) :
    List CrossingMove :=
  (hostNetwork cfg regs).collect (fun s m => [s.crossingMove m]) ms

def memoryRun (cfg : AcsConfig) (regs : Fin 12 → BitVec 64) (ms : List HostNetworkMove) :
    List MemoryIngressIn :=
  (hostNetwork cfg regs).collect memoryMoves ms

lemma host_step (s : HostNetwork) (m : HostNetworkMove) :
    ((hostNetwork cfg regs).step s m).host = (cmdPath cfg regs).runFrom s.host (s.hostMoves m) := rfl

lemma crossing_step (s : HostNetwork) (m : HostNetworkMove) :
    ((hostNetwork cfg regs).step s m).crossing
      = crossingMachine.runFrom s.crossing [s.crossingMove m] := rfl

lemma memory_step (s : HostNetwork) (m : HostNetworkMove) :
    ((hostNetwork cfg regs).step s m).memory = lookupIngress.runFrom s.memory (s.memoryMoves m) := rfl

lemma host_run (ms : List HostNetworkMove) :
    ((hostNetwork cfg regs).run ms).host = (cmdPath cfg regs).run (hostRun cfg regs ms) :=
  (hostNetwork cfg regs).projects (cmdPath cfg regs) (fun s => s.host) rfl host_step ms

lemma crossing_run (ms : List HostNetworkMove) :
    ((hostNetwork cfg regs).run ms).crossing = crossingMachine.run (crossingRun cfg regs ms) :=
  (hostNetwork cfg regs).projects crossingMachine (fun s => s.crossing) rfl crossing_step ms

lemma memory_run (ms : List HostNetworkMove) :
    ((hostNetwork cfg regs).run ms).memory = lookupIngress.run (memoryRun cfg regs ms) :=
  (hostNetwork cfg regs).projects lookupIngress (fun s => s.memory) rfl memory_step ms

/-- What is observed of the host's node. -/
lemma collect_host {α : Type} (out : CmdPath → CmdPathIn → List α) (ms : List HostNetworkMove) :
    (hostNetwork cfg regs).collect (fun s m => (s.hostMoves m).flatMap (out s.host)) ms
      = (cmdPath cfg regs).collect out (hostRun cfg regs ms) := by
  rw [hostRun, ← (hostNetwork cfg regs).projects_collect (cmdPath cfg regs) (fun s => s.host) out rfl
    host_step ms]
  congr 1
  funext s m
  cases m <;> rfl

/-- What is observed of the memory ingress. -/
lemma collect_memory {α : Type} (out : LookupIngress → MemoryIngressIn → List α)
    (ms : List HostNetworkMove) :
    (hostNetwork cfg regs).collect (fun s m => (s.memoryMoves m).flatMap (out s.memory)) ms
      = lookupIngress.collect out (memoryRun cfg regs ms) := by
  rw [memoryRun, ← (hostNetwork cfg regs).projects_collect lookupIngress (fun s => s.memory) out rfl
    memory_step ms]
  congr 1
  funext s m
  cases m <;> rfl

variable (cfg regs) in
/-- What a port takes is what the routing egress hands over at it. -/
lemma offered_eq (p : Port) (ms : List HostNetworkMove) :
    crossingMachine.collect (fun s => s.offered p) (crossingRun cfg regs ms)
      = cmdOut cfg regs p (hostRun cfg regs ms) := by
  rw [crossingRun, ← (hostNetwork cfg regs).projects_collect crossingMachine (fun s => s.crossing)
    (fun s => s.offered p) rfl crossing_step ms, cmdOut, ← collect_host]
  congr 1
  funext s m
  cases m <;> rfl

/-- What the memory ingress takes from the network is what the routing ingress hands over. -/
lemma net_eq (ms : List HostNetworkMove) :
    (ingressHistory (memoryRun cfg regs ms)).net
      = crossingMachine.collect Crossing.delivered (crossingRun cfg regs ms) := by
  change lookupIngress.collect (fun s i => s.ingress.netTaken i) _ = _
  rw [crossingRun, ← (hostNetwork cfg regs).projects_collect crossingMachine (fun s => s.crossing)
    Crossing.delivered rfl crossing_step ms, ← collect_memory]
  congr 1
  funext s m
  cases m <;> rfl

variable {ms : List HostNetworkMove}

lemma meets_host (h : (hostNetwork cfg regs).Meets (StepOk cfg) ms) :
    (cmdPath cfg regs).Meets (CarryOk cfg) (hostRun cfg regs ms) :=
  (hostNetwork cfg regs).projects_meets (cmdPath cfg regs) (fun s => s.host) rfl host_step
    (fun s m hok => by
      cases m with
      | host h i => exact ⟨hok.host _ (List.mem_singleton_self _), trivial⟩
      | memory i reset w => trivial
      | usrX p u => trivial
      | usrY p u => trivial) ms h

lemma meets_crossing (h : (hostNetwork cfg regs).Meets (StepOk cfg) ms) :
    crossingMachine.Meets Crossing.StepOk (crossingRun cfg regs ms) :=
  (hostNetwork cfg regs).projects_meets crossingMachine (fun s => s.crossing) rfl crossing_step
    (fun _ _ hok => And.intro hok.crossing trivial) ms h

lemma meets_memory (h : (hostNetwork cfg regs).Meets (StepOk cfg) ms) :
    lookupIngress.Meets StaysEnabled (memoryRun cfg regs ms) :=
  (hostNetwork cfg regs).projects_meets lookupIngress (fun s => s.memory) rfl memory_step
    (fun s m hok => by
      cases m with
      | host h i => trivial
      | memory i reset w => exact ⟨hok.memory _ (List.mem_singleton_self _), trivial⟩
      | usrX p u => trivial
      | usrY p u => trivial) ms h

/-- **The routing egress offers each port its stream**, any stream that begins with what has entered
it for the port. -/
lemma offers (h : (hostNetwork cfg regs).Meets (StepOk cfg) ms) {us : Port → List MemTxn}
    (hus : ∀ p, cmdEntered cfg regs p (hostRun cfg regs ms) <+: memStream (us p)) :
    Offers us (crossingRun cfg regs ms) := by
  intro p pre t hpre hv
  obtain ⟨js, m, hjs, rfl, hm⟩ := Machine.exists_of_prefix (hostNetwork cfg regs) hpre
  have hrun := offered_eq cfg regs p js
  rw [crossingRun] at hrun
  rw [hrun]
  have hbefore : js <+: ms := (List.prefix_append _ _).trans hjs
  have hhost : hostRun cfg regs js <+: hostRun cfg regs ms :=
    Machine.collect_prefix (hostNetwork cfg regs) _ hbefore
  have hbegan := Machine.meets_prefix (hostNetwork cfg regs) hbefore h
  obtain ⟨held, w, hinv, hentered⟩ := exists_entered cfg regs (hostRun cfg regs js)
    (meets_host hbegan)
  have hin : cmdEntered cfg regs p (hostRun cfg regs js) <+: cmdEntered cfg regs p (hostRun cfg regs ms) :=
    Machine.collect_prefix (cmdPath cfg regs) _ hhost
  refine List.IsPrefix.trans ?_ (hin.trans (hus p))
  have hegress := CarryInv.egress hinv
  rw [← host_run] at hegress
  cases m with
  | host x i =>
      obtain rfl := CrossingMove.x.inj hm
      obtain ⟨rest, hpend⟩ := hegress.shows hv
      have hall := hentered p
      rw [hpend] at hall
      exact ⟨rest, by rw [List.append_assoc]; exact hall⟩
  | memory i reset x => cases hm
  | usrX q u => cases hm
  | usrY q u => cases hm

end HostNetwork

/-! ## The fields of a command -/

/-- A transaction that comes in at a port as it was sent, but for the credits. -/
structure ComesInAs (y : Port × NetTxn) (z : Port × MemTxn) : Prop where
  port : y.1 = z.1
  txn : ∃ u, y.2.OnPort u ∧ u.Carries z.2

/-- What comes in is none of the commands of the link layer. -/
lemma ComesInAs.noNop {y : Port × NetTxn} {z : Port × MemTxn} (h : ComesInAs y z)
    (hy : y.2.Sendable) : bit z.2.hdr 254 = false := by
  obtain ⟨u, hon, hcarries⟩ := h.txn
  rw [hcarries.bit_hdr (by decide)]
  exact (NetTxn.bit_opcode hon.hdr (k := 6) (by decide)).trans hy.noNop

/-- Above the arrival port and the credits a command comes in as it was sent. -/
lemma MemTxn.TakenAs.field_eq {u : MemTxn} {z : Port × MemTxn} {x : IngressTxn}
    (h : MemTxn.TakenAs z x) (hu : u.Carries z.2) {lo len : ℕ} (hlo : 37 ≤ lo) (hle : lo + len ≤ 256) :
    field x.flit (256 + lo) len = field u.hdr lo len := by
  have hhalf : field (hiHalf x.flit) lo len = field x.flit (256 + lo) len := field_field x.flit hle
  have hclear : field (setField z.2.hdr 27 0#8) lo len = field (setField u.hdr 27 0#8) lo len := by
    rw [hu.hdr]
  rw [field_setField_of_disjoint _ _ _ _ (by omega), field_setField_of_disjoint _ _ _ _ (by omega)]
    at hclear
  rw [← hhalf, h.hdr, field_stampPort_of_disjoint _ _ (by omega), hclear]

/-- The two halves of a flit. -/
lemma hiHalf_append_loHalf (d : Flit512) : hiHalf d ++ loHalf d = d :=
  (field_append_field d rfl).trans (field_self d)

lemma dataBeats_halves (ds : List Flit512) :
    dataBeats (ds.flatMap fun d => [hiHalf d, loHalf d]) = ds.map .data := by
  induction ds with
  | nil => rfl
  | cons d ds ih =>
      change .data (hiHalf d ++ loHalf d) :: dataBeats (ds.flatMap _) = _
      rw [ih, hiHalf_append_loHalf, List.map_cons]

/-- The CAPPTAG of the network is in the record as it came. -/
lemma IngressTxn.record_capptag (x : IngressTxn) : field x.record 111 16 = field x.flit 424 16 := by
  rw [record]
  simp (disch := decide) only [field_append_high, field_append_right, Nat.reduceSub]

/-- **A command goes to the TLX as the host's node sent it.** -/
lemma issuedAs {y : Port × NetTxn} {z : Port × MemTxn} {x : IngressTxn} (hy : ComesInAs y z)
    (hx : MemTxn.TakenAs z x) (hfresh : x.fresh = true) : IssuedAs y x := by
  obtain ⟨u, hon, hu⟩ := hy.txn
  obtain ⟨-, hop, htag, hlens, -⟩ := IngressTxn.cmd_fields hfresh
  have hbeats : dataBeats z.2.data = y.2.data.map .data := by
    rw [hu.data, hon.data, dataBeats_halves]
  -- the operation and the address are in one part of the command, the lengths and bytes in another
  have hhigh : ∀ {k len : ℕ}, k + len ≤ 72 →
      field x.cmd (127 + k) len = field u.hdr (184 + k) len := by
    intro k len hle
    rw [← field_field x.cmd hle, hop, field_field x.flit hle, ← hx.field_eq hu (by omega) (by omega),
      ← Nat.add_assoc]
  have hlow : ∀ {k len : ℕ}, k + len ≤ 69 →
      field x.cmd (42 + k) len = field u.hdr (99 + k) len := by
    intro k len hle
    rw [← field_field x.cmd hle, hlens, field_field x.flit hle,
      ← hx.field_eq hu (by omega) (by omega), ← Nat.add_assoc]
  have hport : field x.flit 291 2 = z.1.id := by
    have hhalf : field (hiHalf x.flit) 35 2 = field x.flit 291 2 := field_field x.flit (by decide)
    rw [← hhalf, hx.hdr, field_stampPort]
  constructor
  case opcode => exact (hhigh (k := 64) (by decide)).trans hon.hdr.opcode
  case ea_or_obj => exact (hhigh (k := 0) (by decide)).trans hon.hdr.ea
  case dl => exact (hlow (k := 67) (by decide)).trans hon.hdr.dl
  case pl => exact (hlow (k := 64) (by decide)).trans hon.hdr.pl
  case be => exact (hlow (k := 0) (by decide)).trans hon.hdr.be
  case afutag => exact htag
  case capptag =>
    rw [← hon.hdr.tag, ← hx.field_eq hu (by decide) (by decide)]
    exact x.record_capptag
  case netid =>
    rw [hy.port, ← hport, IngressTxn.record, field_append_low _ _ (by decide),
      field_field _ (by decide)]
  case data =>
    obtain ⟨es, hpre, hmatch⟩ := hx.data
    rw [hbeats] at hpre
    exact isPrefix_of_related (fun d f h => h) hpre hmatch
  case size => rw [hx.size, hbeats, List.length_map]

/-! ## The whole way -/

/-- A write of two flits stays one. -/
lemma MemTxn.Carries.twoFlits {u r : MemTxn} (h : u.Carries r) (hu : u.TwoFlits) : r.TwoFlits := by
  intro hw
  have hfield : field (setField r.hdr 27 0#8) 166 2 = field (setField u.hdr 27 0#8) 166 2 := by
    rw [h.hdr]
  rw [field_setField_of_disjoint _ _ _ _ (by decide), field_setField_of_disjoint _ _ _ _ (by decide)]
    at hfield
  rw [hfield]
  exact hu ((h.bit_hdr (by decide)).symm.trans hw)

namespace HostNetwork

variable {cfg : AcsConfig} {regs : Fin 12 → BitVec 64} {ms : List HostNetworkMove}

/-- The host's commands are of the kinds that it is to send. -/
lemma accepted_ok (h : (hostNetwork cfg regs).Meets (StepOk cfg) ms) :
    ∀ x ∈ (cmdPath cfg regs).collect CmdPath.accepted (hostRun cfg regs ms),
      x.cmd.startRemote cfg = true ∧ x.cmd.Mixed cfg :=
  (cmdPath cfg regs).forall_collect (fun _ _ hs x hx => ⟨hs.remote x hx, hs.mixed x hx⟩) (meets_host h)

lemma sendable (h : (hostNetwork cfg regs).Meets (StepOk cfg) ms) :
    ∀ t ∈ cmdTxns cfg regs (hostRun cfg regs ms), t.Sendable := by
  intro t ht
  obtain ⟨x, hx, rfl⟩ := List.mem_map.mp ht
  obtain ⟨hremote, hmixed⟩ := accepted_ok h x hx
  exact HostTxn.net_sendable hremote hmixed

/-- **What has entered the routing egress for a port are the commands for it.** -/
lemma entered (h : (hostNetwork cfg regs).Meets (StepOk cfg) ms) (p : Port) :
    ∃ us, cmdEntered cfg regs p (hostRun cfg regs ms) <+: memStream us
      ∧ List.Forall₂ NetTxn.OnPort
        (netTxnsOn p .port0 (cmdTxns cfg regs (hostRun cfg regs ms))) us
      ∧ ∀ u ∈ us, u.IsCommand ∧ u.TwoFlits := by
  obtain ⟨held, w, hinv, hentered⟩ := exists_entered cfg regs (hostRun cfg regs ms) (meets_host h)
  obtain ⟨hs, heq, hm⟩ := CarryInv.total hinv p
  rw [hentered p] at hm
  exact NetTxn.exists_onPort _ (fun t ht => sendable h t (netTxnsOn_dealt.mem ht))
    ⟨w.todo p, heq.trans (netStream_eq p .port0 _)⟩ hm

/-- The lines of the crossing meet their conditions. -/
lemma lines_ok (h : (hostNetwork cfg regs).Meets (StepOk cfg) ms) (p : Port) :
    portLine.Meets PortLine.StepOk (Crossing.lineRun p (crossingRun cfg regs ms)) := by
  have hentered := entered h
  choose us hus hon hcmds using hentered
  exact Crossing.lines_ok (fun p u hu => (hcmds p u hu).1) _ (meets_crossing h) (offers h hus) p

/-- **What the crossing delivers and shows are the host's commands**, up to the arrival ports and the
credits. -/
lemma arrives (h : (hostNetwork cfg regs).Meets (StepOk cfg) ms) :
    ∃ m z es, Interleave
        ((netTxnsOn .port0 .port0 (cmdTxns cfg regs (hostRun cfg regs ms))).map (Prod.mk .port0))
        ((netTxnsOn .port1 .port0 (cmdTxns cfg regs (hostRun cfg regs ms))).map (Prod.mk .port1)) m
      ∧ List.Forall₂ ComesInAs m z ∧ (∀ y ∈ z, y.2.TwoFlits ∧ bit y.2.hdr 254 = false)
      ∧ es <+: memBeats z
      ∧ List.Forall₂ MemBeat.Matches es ((ingressHistory (memoryRun cfg regs ms)).net
        ++ ((hostNetwork cfg regs).run ms).crossing.routing.out.out true) := by
  have hentered := entered h
  choose us hus hon hcmds using hentered
  obtain ⟨rs, hrs, z, es, hz, hes, hbeats⟩ := crossing_shows (fun p u hu => (hcmds p u hu).1) _
    (meets_crossing h) (offers h hus)
  have hcomes : ∀ p, List.Forall₂ ComesInAs
      ((netTxnsOn p .port0 (cmdTxns cfg regs (hostRun cfg regs ms))).map (Prod.mk p))
      (fromPort p (rs p)) := fun p =>
    List.forall₂_map_left_iff.mpr (List.forall₂_map_right_iff.mpr
      (forall₂_comp (fun t u r hu hr => ⟨rfl, u, hu, hr⟩) (hon p) (hrs p)))
  have hsent : ∀ p, ∀ y ∈ fromPort p (rs p), y.2.TwoFlits ∧ bit y.2.hdr 254 = false := by
    intro p y hy
    obtain ⟨x, hx, hxy⟩ := exists_of_forall₂ (hcomes p) hy
    obtain ⟨t, ht, rfl⟩ := List.mem_map.mp hx
    obtain ⟨r, hr, rfl⟩ := List.mem_map.mp hy
    obtain ⟨u, hu, hur⟩ := exists_of_forall₂ (hrs p) hr
    exact ⟨MemTxn.Carries.twoFlits hur (hcmds p u hu).2,
      hxy.noNop (sendable h t (netTxnsOn_dealt.mem ht))⟩
  obtain ⟨m, hm, hrel⟩ := hz.related (hcomes .port0) (hcomes .port1)
  rw [← net_eq, ← crossing_run] at hbeats
  exact ⟨m, z, es, hm, hrel, fun y hy => (hz.mem hy).elim (hsent .port0 y) (hsent .port1 y), hes, hbeats⟩

lemma delivered (h : (hostNetwork cfg regs).Meets (StepOk cfg) ms) :
    ∃ m z es, Interleave
        ((netTxnsOn .port0 .port0 (cmdTxns cfg regs (hostRun cfg regs ms))).map (Prod.mk .port0))
        ((netTxnsOn .port1 .port0 (cmdTxns cfg regs (hostRun cfg regs ms))).map (Prod.mk .port1)) m
      ∧ List.Forall₂ ComesInAs m z ∧ (∀ y ∈ z, y.2.TwoFlits) ∧ es <+: memBeats z
      ∧ List.Forall₂ MemBeat.Matches es (ingressHistory (memoryRun cfg regs ms)).net := by
  obtain ⟨m, z, es, hm, hrel, hsent, hes, hbeats⟩ := arrives h
  have htaken := List.forall₂_take (ingressHistory (memoryRun cfg regs ms)).net.length hbeats
  rw [List.take_left] at htaken
  exact ⟨m, z, _, hm, hrel, fun y hy => (hsent y hy).1, (List.take_prefix _ _).trans hes, htaken⟩

/-- **The commands with which the memory node begins are the host's**, each port's in order. -/
lemma order (h : (hostNetwork cfg regs).Meets (StepOk cfg) ms) {s : LookupIngress} {H : IngressHistory}
    {first : List (BitVec 200)} {txns : List IngressTxn} (t : IngressTrace s H first txns)
    (hnet : (ingressHistory (memoryRun cfg regs ms)).net = H.net) :
    ∃ m m', Interleave
        ((netTxnsOn .port0 .port0 (cmdTxns cfg regs (hostRun cfg regs ms))).map (Prod.mk .port0))
        ((netTxnsOn .port1 .port0 (cmdTxns cfg regs (hostRun cfg regs ms))).map (Prod.mk .port1)) m
      ∧ m' <+: m ∧ List.Forall₂ IssuedAs m' (txns.filter (·.fresh)) := by
  obtain ⟨m, z, es, hm, hrel, htwo, hes, hbeats⟩ := delivered h
  rw [hnet, t.net] at hbeats
  obtain ⟨z', hz', htaken⟩ := taken_of_beats htwo hes hbeats
    (fun x hx => t.current.whole_dropLast x (mem_dropLast_of_filter hx))
    fun x hx => t.current.length_le x (List.mem_of_mem_filter hx)
  have hcomes := List.forall₂_take z'.length hrel
  rw [← List.prefix_iff_eq_take.mp hz'] at hcomes
  refine ⟨m, m.take z'.length, hm, List.take_prefix _ _, ?_⟩
  -- each of them is followed to the TLX
  have hfresh := (List.forall₂_and_left _ _).mpr
    ⟨fun x (hx : x ∈ txns.filter (·.fresh)) => (List.mem_filter.mp hx).2, htaken.flip⟩
  exact forall₂_comp (fun y z x (hyz : ComesInAs y z)
    (hzx : x.fresh = true ∧ MemTxn.TakenAs z x) => issuedAs hyz hzx.2 hzx.1) hcomes hfresh.flip

end HostNetwork

/-- **Every command of the host is issued once at the memory node, in order, with its own fields and its
own data**, in every run in which the host sends reads and writes of two flits, the lanes meet their
conditions, the memory ingress stays enabled, and retried writes have two flits. -/
theorem host_commands_issued (cfg : AcsConfig) (regs : Fin 12 → BitVec 64) (ms : List HostNetworkMove)
    (h : (hostNetwork cfg regs).Meets (HostNetwork.StepOk cfg) ms)
    (hrty : TwoFlitWrites ((hostNetwork cfg regs).collect HostNetwork.retried ms)) :
    ∃ first txns, HostCommandsIssued cfg regs ms first txns := by
  obtain ⟨-, z, es, -, -, htwo, hes, hbeats⟩ := HostNetwork.delivered h
  have hsent : (cmdPath cfg regs).collect CmdPath.accepted (HostNetwork.hostRun cfg regs ms)
      = (hostNetwork cfg regs).collect HostNetwork.accepted ms :=
    (HostNetwork.collect_host CmdPath.accepted ms).symm
  have hretried : (ingressHistory (HostNetwork.memoryRun cfg regs ms)).rty
      = (hostNetwork cfg regs).collect HostNetwork.retried ms :=
    (HostNetwork.collect_memory (fun s i => s.ingress.rtyTaken i) ms).symm
  have hcmds : (ingressHistory (HostNetwork.memoryRun cfg regs ms)).cmds
      = (hostNetwork cfg regs).collect HostNetwork.issued ms :=
    (HostNetwork.collect_memory (fun s i => s.ingress.issued i) ms).symm
  have hdata : (ingressHistory (HostNetwork.memoryRun cfg regs ms)).data
      = (hostNetwork cfg regs).collect HostNetwork.issuedData ms :=
    (HostNetwork.collect_memory (fun s i => s.ingress.issuedData i) ms).symm
  have hactag : assigned MemoryIngressIn.actag (HostNetwork.memoryRun cfg regs ms)
      = assigned HostNetworkMove.actag ms :=
    assigned_collect (hostNetwork cfg regs) (fun s m => by
      cases m with
      | memory i reset w => exact List.findSome?_singleton
      | host h i | usrX p u | usrY p u => rfl) ms
  obtain ⟨-, txns, t⟩ := ingressTrace_run _ (HostNetwork.meets_memory h)
    (twoFlitWrites_of_beats htwo hes hbeats) (hretried ▸ hrty)
  obtain ⟨m, m', hm, hpre, hissued⟩ := HostNetwork.order h t rfl
  rw [cmdTxns, hsent] at hm
  rw [← HostNetwork.memory_run, hactag] at t
  refine ⟨_, txns, ⟨rfl, t.txns_nil⟩, ⟨m, m', hm, hpre, hissued⟩, ?_, t.current.whole_dropLast, ?_, ?_, t.kept.cmd⟩
  · rw [← hretried, t.rty]
  · rw [← hcmds, t.cmds]
  · rw [← hdata, t.data]

/-! ## A run over both ports -/

/-- Both ports carry every segment. -/
def bonded : Fin 12 → BitVec 64 := fun _ => 0b11

/-- A `rd_mem` of 128 bytes to segment 0. -/
def remoteRead (capptag : BitVec 16) (pa : BitVec 64) : HostTxn := ⟨⟨0x20, 0b10, capptag, 0, 0, pa⟩, [], rfl⟩

namespace HostRun

/-- The host sends a write and two reads; the ports carry them over by turns, and the memory node issues
them, each with the tag that it is offered in that cycle. -/
def threeCommands : List HostNetworkMove :=
  let host (t : Option HostTxn) : HostNetworkMove := .host (hostCycle t true) fun _ => {}
  let memory (tag : ℕ) : HostNetworkMove :=
    .memory (fun _ => {}) true ⟨5, BitVec.ofNat 16 tag, true, 0, false, 0, false, true, true, true⟩
  [host (some remoteTxn), host (some (remoteRead 2 0x100)), host (some (remoteRead 3 0x180))]
    ++ List.replicate 15 (host none)
    ++ List.replicate 16 (.usrX .port0 {}) ++ List.replicate 9 (.usrX .port1 {})
    ++ List.replicate 12 (.usrY .port0 {}) ++ List.replicate 6 (.usrY .port1 {})
    ++ (List.range' 7 18).map memory

end HostRun

/-- What the TLX is told to do, and under which tag. -/
def AfuTlxCmd.asked (x : BitVec 200) : BitVec 8 × BitVec 64 × BitVec 16 :=
  ((ofEntry x).opcode, (ofEntry x).ea_or_obj, (ofEntry x).afutag)

/-- The write and the two reads are issued behind the assignment of the acTag, and with the write its
data. -/
theorem host_commands_issued_threeCommands :
    ∃ first txns, HostCommandsIssued cfgAt bonded HostRun.threeCommands first txns
      ∧ first = [actagCmd 5]
      ∧ txns.map (fun x => AfuTlxCmd.asked x.cmd)
        = [(0x20, 0x80, 10), (0x10, 0x100, 15), (0x10, 0x180, 16)]
      ∧ (txns.flatMap fun x => x.data.map tlxData) = [0xa1, 0xa2] := by
  obtain ⟨first, txns, h⟩ := host_commands_issued cfgAt bonded HostRun.threeCommands
    (by decide +kernel) (by decide +kernel)
  have hfirst : first = [actagCmd 5] := h.start.1.trans (by decide +kernel)
  refine ⟨first, txns, h, hfirst, ?_, h.data.symm.trans (by decide +kernel)⟩
  have hcmds := congrArg (List.map AfuTlxCmd.asked) h.cmds
  have hseen : (((hostNetwork cfgAt bonded).collect HostNetwork.issued HostRun.threeCommands)
      ++ ((hostNetwork cfgAt bonded).run HostRun.threeCommands).memory.ingress.held).map AfuTlxCmd.asked
      = (0x50, 0, 0) :: [(0x20, 0x80, 10), (0x10, 0x100, 15), (0x10, 0x180, 16)] := by decide +kernel
  rw [hseen, hfirst, List.singleton_append, List.map_cons, List.map_map] at hcmds
  exact (List.cons.inj hcmds).2.symm

end ThymesisFlow
