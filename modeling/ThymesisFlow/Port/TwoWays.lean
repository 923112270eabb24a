import ThymesisFlow.Memory.IssueLog
import ThymesisFlow.Port.TwoNodes

/-!
# The two ways need each other

The memory node is promised commands of the network, and gets them if the way there works; the ports are
promised no NOPs of the link layer, also from the memory node, and get none if the way back starts with
answers.  In a run of the two nodes each part meets its condition because the other has met it so far
(`partsOk`).
-/

namespace ThymesisFlow

open Framing

/-! ## What the memory ingress takes -/

lemma NodeOk.whole {s : MemNode} {m : NodeMove} (h : NodeOk WholeParts s m) : NodeOk SingleParts s m :=
  h.mono fun _ _ _ hparts => hparts.1

/-- The counters of the memory ingress, in a run of the node. -/
lemma sizes_run (ns : List NodeMove) (hok : memNode.Meets (NodeOk P9Parts) ns)
    (hnet : TwoFlitWrites (nodeHistory ns).net) : Sizes (memNode.run ns).ingress (nodeHistory ns) := by
  induction ns using List.reverseRecOn with
  | nil => exact ⟨rfl, rfl, by decide⟩
  | append_singleton ns m ih =>
      obtain ⟨hpre, hlast⟩ := (memNode.meets_concat _ ns m).mp hok
      rw [Machine.run_concat]
      have hother (hm : ∀ w, m ≠ .clock w) :
          Sizes (memNode.step (memNode.run ns) m).ingress (nodeHistory (ns ++ [m])) := by
        have hsame : (memNode.step (memNode.run ns) m).ingress = (memNode.run ns).ingress :=
          congrArg LookupIngress.ingress (MemNode.lookup_other (s := memNode.run ns) hm)
        rw [nodeHistory_other ns hm] at hnet ⊢
        rw [hsame]
        exact ih hpre hnet
      cases m with
      | clock w =>
          have hnode := NodeInv.run ns hpre
          obtain ⟨hcycle, -⟩ := hnode.cycle hlast.1 fun hv => (hlast.2 hv).2
          rw [nodeHistory_clock] at hnet ⊢
          exact (ih hpre hnet.of_append).step hnode.orderly hcycle hnet
      | load | resp _ | rty | answer _ _ _ | deliver => exact hother fun w hw => by cases hw

/-- **The memory ingress is shown commands of the network**, where it expects a command. -/
lemma netFlitOk_of_arrives {s : MemoryIngress} {h : IngressHistory} (hs : Sizes s h) (horderly : s.Orderly)
    {z : List (Port × MemTxn)} (hz : ∀ y ∈ z, y.2.TwoFlits ∧ bit y.2.hdr 254 = false)
    {es : List MemBeat} (hes : es <+: memBeats z) {f : Flit512}
    (hbeats : List.Forall₂ MemBeat.Matches es (h.net ++ [f])) : NetFlitOk s f := by
  refine ⟨fun hsm => ?_, hs.two⟩
  obtain ⟨z', hz', hheads⟩ := heads_of_beats (fun y hy => (hz y hy).1) hes hbeats
  have hleft : left dataFlits 0 h.net = 0 := by
    rw [hs.net, (horderly.idle (by rw [hsm]; decide)).1]
    rfl
  rw [heads_concat, hleft, if_pos rfl] at hheads
  obtain ⟨y, hy, hhead⟩ := exists_of_forall₂ hheads (List.mem_append_right _ (List.mem_singleton_self f))
  have hbit : bit (hiHalf f) 254 = bit f 510 := bit_hiHalf f (by decide)
  rw [← hbit, hhead, bit_stampPort _ _ (by decide)]
  exact (hz y (hz'.subset hy)).2

/-! ## What the memory node answers -/

/-- The answers of a run of the memory node: as transactions of the routing egress, and as responses on
each port. -/
structure AnswerStream (ns : List NodeMove) (answers : List NetAnswer) (ts : List EgrTxn)
    (us : Port → List NetResp) : Prop where
  onNet : List.Forall₂ NetAnswer.OnNet answers ts
  written : ∃ x, egrStream ts = memNode.collect MemNode.netOut ns ++ x
  resps : ∀ p, List.Forall₂ EgrTxn.AsResp (portTxns p .port0 ts) (us p)
  good : ∀ p, ∀ r ∈ us p, r.isWriteFail = false

/-- What the memory's host has said can be carried. -/
lemma said_carried {ns : List NodeMove} (hok : memNode.Meets (NodeOk WholeParts) ns) :
    ∀ x ∈ memNode.collect MemNode.said ns, x.1.Carried := by
  refine memNode.forall_collect (fun s m hm x hx => ?_) hok
  cases m with
  | answer r data more =>
      obtain ⟨e, -, ha⟩ := hm
      obtain rfl := List.mem_singleton.mp hx
      exact ⟨ha.parts.2.1, ha.parts.2.2⟩
  | clock w | load | resp enable | rty | deliver => cases hx

lemma egrStream_of_onNet {answers : List NetAnswer} {ts : List EgrTxn}
    (h : List.Forall₂ NetAnswer.OnNet answers ts) : egrStream ts = answers.flatMap NetAnswer.flits := by
  induction h with
  | nil => rfl
  | @cons a t answers ts ha _ ih =>
      rw [egrStream, List.flatMap_cons, List.flatMap_cons, NetAnswer.flits, ha.hdr, ha.data]
      exact congrArg _ ih

/-- **The answers are a stream for the routing egress.** -/
lemma Follows.answerStream {ns : List NodeMove} (hok : memNode.Meets (NodeOk WholeParts) ns) {s : MemNode}
    {accepted : List (Tag × Flit512)} {answers : List NetAnswer} {current : Tag → Option Flit512}
    {handled xs ys : List (TlResp × List OCxFlit)} {cur : List OCxFlit}
    (h : Follows s accepted (memNode.collect MemNode.said ns) (memNode.collect MemNode.netOut ns) answers
      current handled xs ys cur) : ∃ ts us, AnswerStream ns answers ts us := by
  have hone : ∀ a ∈ answers, ∃ t, a.OnNet t ∧ ∃ r : NetResp, t.AsResp r ∧ r.isWriteFail = false := by
    intro a ha
    have hmem : (a.resp, a.data) ∈ handled.filter (·.1.answers) := by
      rw [← h.forwarded.answered]
      exact List.mem_map_of_mem (f := fun a : NetAnswer => (a.resp, a.data)) ha
    obtain ⟨hhandled, hans⟩ := List.mem_filter.mp hmem
    refine (h.carries a ha).exists_onNet hans (said_carried hok (a.resp, a.data) ?_)
    rw [h.queued.said]
    exact List.mem_append_left _ hhandled
  obtain ⟨ts, hts⟩ := exists_forall₂ hone
  have honNet : List.Forall₂ NetAnswer.OnNet answers ts := hts.imp fun _ _ hx => hx.1
  have hresp : ∀ p, ∃ us, List.Forall₂ (fun (t : EgrTxn) (r : NetResp) =>
      t.AsResp r ∧ r.isWriteFail = false) (portTxns p .port0 ts) us := by
    refine fun p => exists_forall₂ fun t ht => ?_
    obtain ⟨a, -, ha⟩ := exists_of_forall₂ hts (portTxns_dealt.mem ht)
    exact ha.2
  choose us hus using hresp
  refine ⟨ts, us, honNet, ⟨cur.map OCxFlit.toOCxFlit, ?_⟩, fun p => (hus p).imp fun _ _ hx => hx.1, ?_⟩
  · rw [egrStream_of_onNet honNet, h.forwarded.written]
  · intro p r hr
    obtain ⟨t, -, ht⟩ := exists_of_forall₂ (hus p) hr
    exact ht.2

namespace TwoNodes

variable {cfg : AcsConfig} {regs : Fin 12 → BitVec 64}

/-- The flit of an answer that port `p` of the memory node takes in a move. -/
def answered (p : Port) (s : TwoNodes) : TwoNodesMove → List Flit
  | .memory i _ _ offer idle => EgressFeed.emitted p s.answers (s.answersIn i offer idle)
  | _ => []

/-- What the routing egress of the memory node has handed over belongs to the answers. -/
lemma writes_run (ms : List TwoNodesMove) : ((twoNodes cfg regs).run ms).answers.Writes
    (memNode.collect MemNode.netOut (nodeRun cfg regs ms))
    fun p => (twoNodes cfg regs).collect (answered p) ms := by
  induction ms using List.reverseRecOn with
  | nil => exact .init
  | append_singleton ms m ih =>
      have hcollect : memNode.collect MemNode.netOut (nodeRun cfg regs (ms ++ [m]))
          = memNode.collect MemNode.netOut (nodeRun cfg regs ms)
            ++ memNode.collectFrom MemNode.netOut ((twoNodes cfg regs).run ms).node
              (((twoNodes cfg regs).run ms).nodeMoves m) := by
        rw [nodeRun, Machine.collect_concat, Machine.collect_append, ← nodeRun, ← node_run]
      simp only [Machine.run_concat, Machine.collect_concat, hcollect]
      generalize (twoNodes cfg regs).run ms = s at ih ⊢
      cases m with
      | compute h i tready | usrX p u | usrY p u =>
          change s.answers.Writes (_ ++ []) fun p => _ ++ []
          simpa only [List.append_nil] using ih
      | memory i reset w offer idle =>
          change (s.answers.step (s.answersIn i offer idle)).Writes (_ ++ []) _
          rw [List.append_nil]
          exact ih.step _
      | engine m =>
          change (s.answers.append (s.node.netOut m.node)).Writes (_ ++ (_ ++ [])) fun p => _ ++ []
          simpa only [List.append_nil] using ih.append _

/-! ### The parts are told the same -/

lemma crossingRun_eq (ms : List TwoNodesMove) :
    HostNetwork.crossingRun cfg regs (networkRun cfg regs ms) = crossingRun cfg regs ms := by
  rw [HostNetwork.crossingRun, networkRun, ← (twoNodes cfg regs).projects_collect (hostNetwork cfg regs)
    network (fun s m => [s.crossingMove m]) rfl network_step ms, crossingRun]
  congr 1
  funext s m
  cases m <;> rfl

/-- What the memory ingress has taken from the network. -/
lemma net_eq (ms : List TwoNodesMove) :
    (ingressHistory (HostNetwork.memoryRun cfg regs (networkRun cfg regs ms))).net
      = (nodeHistory (nodeRun cfg regs ms)).net := by
  change lookupIngress.collect (fun s i => s.ingress.netTaken i) _
    = memNode.collect (MemNode.seen MemoryIngress.netTaken) _
  rw [← HostNetwork.collect_memory, networkRun, ← (twoNodes cfg regs).projects_collect
    (hostNetwork cfg regs) network _ rfl network_step ms, nodeRun, ← (twoNodes cfg regs).projects_collect
    memNode (fun s => s.node) _ rfl node_step ms]
  congr 1
  funext s m
  cases m with
  | memory i reset w offer idle => exact congrArg (· ++ []) (List.append_nil _)
  | compute h i tready | usrX p u | usrY p u => rfl
  | engine m => cases m <;> rfl

/-- The run of the line of port `p`. -/
def lineRun (cfg : AcsConfig) (regs : Fin 12 → BitVec 64) (p : Port) (ms : List TwoNodesMove) :
    List LineMove :=
  Crossing.lineRun p (crossingRun cfg regs ms)

lemma line_run (p : Port) (ms : List TwoNodesMove) :
    ((twoNodes cfg regs).run ms).crossing.line p = portLine.run (lineRun cfg regs p ms) := by
  rw [crossing_run]
  exact Crossing.line_run p _

/-- What is observed of a line. -/
lemma collect_line {α : Type} (out : PortLine → LineMove → List α) (p : Port) (ms : List TwoNodesMove) :
    (twoNodes cfg regs).collect (fun s m => crossingMachine.collectFrom
        (fun s m => portLine.collectFrom out (s.line p) (s.lineMoves p m)) s.crossing (s.crossingMoves m))
      ms = portLine.collect out (lineRun cfg regs p ms) := by
  rw [lineRun, Crossing.lineRun, ← crossingMachine.projects_collect portLine (fun s => s.line p) out
    (by cases p <;> rfl) (fun s m => Crossing.line_step s m p), crossingRun,
    ← (twoNodes cfg regs).projects_collect crossingMachine (fun s => s.crossing) _ rfl crossing_step ms]

/-- What a port of the memory node is offered is what the routing egress hands over at it. -/
lemma answered_eq (p : Port) (ms : List TwoNodesMove) :
    portLine.collect PortLine.offeredY (lineRun cfg regs p ms)
      = (twoNodes cfg regs).collect (answered p) ms := by
  rw [← collect_line]
  congr 1
  funext s m
  cases m with
  | memory i reset w offer idle =>
      change (_ ++ []) ++ [] = _
      rw [List.append_nil, List.append_nil]
      rfl
  | compute h i tready | engine m => rfl
  | usrX q u | usrY q u =>
      change portLine.collectFrom _ _ (if q = p then _ else _) ++ [] = _
      split_ifs <;> rfl

/-! ### The conditions of the parts -/

/-- The two ways meet their conditions. -/
structure PartsOk (cfg : AcsConfig) (regs : Fin 12 → BitVec 64) (ms : List TwoNodesMove) : Prop where
  network : (hostNetwork cfg regs).Meets (HostNetwork.StepOk cfg) (networkRun cfg regs ms)
  node : memNode.Meets (NodeOk WholeParts) (nodeRun cfg regs ms)

namespace PartsOk

variable {ms : List TwoNodesMove}

lemma single (h : PartsOk cfg regs ms) : memNode.Meets (NodeOk SingleParts) (nodeRun cfg regs ms) :=
  memNode.meets_mono (fun _ _ hm => hm.whole) h.node

lemma nodeInv (h : PartsOk cfg regs ms) : NodeInv (memNode.run (nodeRun cfg regs ms)) :=
  NodeInv.run _ (memNode.meets_mono (fun _ _ hm => hm.mono fun _ _ _ => SingleParts.p9) h.single)

/-- **The memory node is shown commands.** -/
lemma netFlitOk (h : PartsOk cfg regs ms) (w : NodeWires)
    (hv : (((twoNodes cfg regs).run ms).nodeWires w).netflit_in_tvalid = true) :
    NetFlitOk ((twoNodes cfg regs).run ms).node.ingress
      (((twoNodes cfg regs).run ms).nodeWires w).netflit_in_tdata := by
  obtain ⟨m, z, es, -, -, hz, hes, hbeats⟩ := HostNetwork.arrives h.network
  rw [net_eq, ← network_run] at hbeats
  have hshown : ((twoNodes cfg regs).run ms).crossing.routing.out.out true
      = [(((twoNodes cfg regs).run ms).nodeWires w).netflit_in_tdata] := if_pos (by
    rw [Bool.and_true]
    exact hv)
  change List.Forall₂ _ es (_ ++ ((twoNodes cfg regs).run ms).crossing.routing.out.out true) at hbeats
  rw [hshown] at hbeats
  have hnet : TwoFlitWrites (nodeHistory (nodeRun cfg regs ms)).net :=
    TwoFlitWrites.of_append (twoFlitWrites_of_beats (fun y hy => (hz y hy).1) hes hbeats)
  have hsizes := sizes_run _ (memNode.meets_mono (fun _ _ hm => hm.mono fun _ _ _ => SingleParts.p9)
    h.single) hnet
  have horderly := h.nodeInv.orderly
  rw [← node_run] at hsizes horderly
  exact netFlitOk_of_arrives hsizes horderly hz hes hbeats

/-- The answers of the memory node. -/
lemma answers (h : PartsOk cfg regs ms) : ∃ answers current handled xs ys cur ts us,
    Follows (memNode.run (nodeRun cfg regs ms)) (memNode.collect MemNode.accepted (nodeRun cfg regs ms))
        (memNode.collect MemNode.said (nodeRun cfg regs ms))
        (memNode.collect MemNode.netOut (nodeRun cfg regs ms)) answers current handled xs ys cur
      ∧ AnswerStream (nodeRun cfg regs ms) answers ts us := by
  obtain ⟨answers, current, handled, xs, ys, cur, hfollows⟩ := Follows.run _ h.single
  obtain ⟨ts, us, hstream⟩ := hfollows.answerStream h.node
  exact ⟨answers, current, handled, xs, ys, cur, ts, us, hfollows, hstream⟩

/-- What a port of the memory node has taken, with what it is shown, is a beginning of its responses. -/
lemma offered {answers : List NetAnswer} {ts : List EgrTxn} {us : Port → List NetResp}
    (h : AnswerStream (nodeRun cfg regs ms) answers ts us) (p : Port) :
    portLine.collect PortLine.offeredY (lineRun cfg regs p ms)
      ++ (((twoNodes cfg regs).run ms).answers.egress.ports p).out.out true
      <+: respFormat.stream (us p) := by
  obtain ⟨x, hx⟩ := h.written
  rw [stream_of_asResp (h.resps p), answered_eq]
  exact (writes_run ms).shows hx p

/-- **The ports are offered no NOPs by the memory node.** -/
lemma noNop (h : PartsOk cfg regs ms) (i : Port → LinkIn) (p : Port) :
    (((twoNodes cfg regs).run ms).crossing.line p).StepOk
      (.y (((twoNodes cfg regs).run ms).crossing.tickY p (((twoNodes cfg regs).run ms).nodeY i))) := by
  intro hv hcmd
  obtain ⟨answers, -, -, -, -, -, ts, us, -, hstream⟩ := h.answers
  have hstamps := (PortLine.stamps_run (lineRun cfg regs p ms)).2
  rw [← line_run] at hstamps
  have hnext := offered hstream p
  have hshown : (((twoNodes cfg regs).run ms).answers.egress.ports p).out.out true
      = [(((twoNodes cfg regs).run ms).answers.egress.ports p).out.tdata] := if_pos (by
    rw [Bool.and_true]
    exact hv)
  rw [hshown] at hnext
  exact respFormat.next_noNop (fun _ _ => trivial) hstamps hnext hcmd

end PartsOk

/-- **In a run of the two nodes each part meets its conditions.** -/
theorem partsOk (ms : List TwoNodesMove) (h : (twoNodes cfg regs).Meets (StepOk cfg) ms) :
    PartsOk cfg regs ms := by
  induction ms using List.reverseRecOn with
  | nil => exact ⟨trivial, trivial⟩
  | append_singleton ms m ih =>
      obtain ⟨hpre, hm⟩ := ((twoNodes cfg regs).meets_concat _ ms m).mp h
      have hparts := ih hpre
      have hnetwork : (hostNetwork cfg regs).MeetsFrom (HostNetwork.StepOk cfg)
          ((twoNodes cfg regs).run ms).network (((twoNodes cfg regs).run ms).networkMoves m) := by
        cases m with
        | compute h i tready =>
            refine ⟨⟨fun j hj => ?_, trivial, fun j hj => by cases hj⟩, trivial⟩
            obtain rfl := List.mem_singleton.mp hj
            exact hm
        | memory i reset w offer idle =>
            refine ⟨⟨fun j hj => (by cases hj), fun p => hparts.noNop i p, fun j hj => ?_⟩, trivial⟩
            obtain rfl := List.mem_singleton.mp hj
            exact hm
        | engine m => trivial
        | usrX p u | usrY p u =>
            exact ⟨⟨fun j hj => (by cases hj), hm, fun j hj => by cases hj⟩, trivial⟩
      have hnode : memNode.MeetsFrom (NodeOk WholeParts) ((twoNodes cfg regs).run ms).node
          (((twoNodes cfg regs).run ms).nodeMoves m) := by
        cases m with
        | memory i reset w offer idle => exact ⟨⟨hm, hparts.netFlitOk w⟩, trivial⟩
        | engine m => exact ⟨hm, trivial⟩
        | compute h i tready | usrX p u | usrY p u => trivial
      rw [network_run] at hnetwork
      rw [node_run] at hnode
      refine ⟨?_, ?_⟩
      · rw [networkRun, Machine.collect_concat]
        exact ((hostNetwork cfg regs).meetsFrom_append _ _ _ _).mpr
          ⟨hparts.network, by rwa [← networkRun, ← Machine.run]⟩
      · rw [nodeRun, Machine.collect_concat]
        exact (memNode.meetsFrom_append _ _ _ _).mpr ⟨hparts.node, by rwa [← nodeRun, ← Machine.run]⟩

end TwoNodes

end ThymesisFlow
