import ThymesisFlow.Port.Crossing

/-!
# What the crossing delivers

Neither node offers a NOP of the link layer, so the lines meet their condition and what they accept
belongs to transactions that are the same up to the credit field.  The routing ingress behind two
streams of transactions hands over an interleaving of them (`crossing_delivers`).
-/

namespace ThymesisFlow

/-- With its arbiter reset the routing ingress goes on as before. -/
lemma MemInv.reset {rs : Port → List MemTxn} {s : RoutingMemoryIngress} {rest : Port → List Flit}
    {out : List Flit512} {cur : Port → List Flit} {a u : Port → List MemTxn}
    {m : List (Port × MemTxn)} (h : MemInv rs s rest out cur a u m) (reset : Bool) :
    MemInv rs (if reset then s else { s with masked_req_vector := 0 }) rest out cur a u m := by
  cases reset with
  | true => exact h
  | false => exact ⟨h.port, h.alone, BitVec.zero_and, h.whole, h.order, h.beats⟩

namespace PortNode

variable {n : PortNode} {stream : List Flit}

/-- A flit that an ingress shows is the next one of a stream that begins with it. -/
lemma shown (h : n.arrived <+: stream) (hv : n.igr.outdata_vld = true) :
    n.igr.outdata_q :: stream.tail = stream := by
  rw [arrived, hv, if_pos rfl] at h
  obtain ⟨rest, rfl⟩ := h
  rfl

/-- The flit that is handed over is taken from the stream. -/
lemma delivers_tail (h : n.arrived <+: stream) (i : PortNodeIn) :
    n.delivers i ++ (if n.igr.outdata_vld && i.rx_tready then stream.tail else stream) = stream := by
  rw [delivers]
  split_ifs with hv
  · exact shown h (Bool.and_eq_true_iff.mp hv).1
  · rfl

end PortNode

namespace Crossing

variable {s : Crossing} {us : Port → List MemTxn}

/-- **A line of the crossing meets its condition**: no command that it is offered is a NOP. -/
lemma lines_ok (hus : ∀ p, ∀ u ∈ us p, u.IsCommand) (ms : List CrossingMove)
    (h : crossingMachine.Meets StepOk ms) (hoff : Offers us ms) (p : Port) :
    portLine.Meets PortLine.StepOk (lineRun p ms) := by
  induction ms using List.reverseRecOn with
  | nil => trivial
  | append_singleton ms m ih =>
      obtain ⟨hpre, hok⟩ := (crossingMachine.meets_concat _ ms m).mp h
      have hline := line_run p ms
      rw [lineRun, Machine.collect_concat]
      refine (portLine.meetsFrom_append _ _ _ _).mpr ⟨ih hpre hoff.of_append, ?_⟩
      change portLine.MeetsFrom PortLine.StepOk (portLine.run (lineRun p ms)) _
      rw [← hline]
      cases m with
      | x t =>
          refine ⟨fun hv hcmd => ?_, trivial⟩
          have hstamps := (PortLine.stamps_run (lineRun p ms)).1
          rw [← hline, offered_eq] at hstamps
          exact memFormat.next_noNop (hus p) hstamps (hoff p ms t List.prefix_rfl hv) hcmd
      | y i reset tready => exact ⟨hok p, trivial⟩
      | usrX q u =>
          change portLine.MeetsFrom PortLine.StepOk _ (if q = p then _ else _)
          split_ifs with hq
          · exact ⟨hq ▸ hok, trivial⟩
          · trivial
      | usrY q u =>
          change portLine.MeetsFrom PortLine.StepOk _ (if q = p then _ else _)
          split_ifs with hq
          · exact ⟨hq ▸ hok, trivial⟩
          · trivial

/-- What the ingress of a port has accepted belongs to transactions. -/
lemma received (hus : ∀ p, ∀ u ∈ us p, u.IsCommand) (ms : List CrossingMove)
    (h : crossingMachine.Meets StepOk ms) (hoff : Offers us ms) (p : Port) :
    ∃ rs, portLine.collect PortLine.recvY (lineRun p ms) <+: memStream rs
      ∧ List.Forall₂ MemTxn.Carries (us p) rs := by
  have hrecv := (PortLine.received_prefix _ (lines_ok hus ms h hoff p)).1
  rw [offered_eq] at hrecv
  obtain ⟨rs, hpre, hrs⟩ := memFormat.received_of_offered (hus p) hrecv (offered_isPrefix p ms hoff)
  exact ⟨rs, hpre, hrs.imp fun _ _ hr => ⟨hr.hdr, hr.data⟩⟩

/-! ## The routing ingress -/

/-- A cycle of the ingress of a port takes the flit that it hands over from the stream. -/
lemma delivers_append {p : Port} {stream : List Flit} (h : (s.line p).y.arrived <+: stream)
    (i : Port → NodeYIn) :
    PortNode.delivers (s.line p).y ((s.line p).wiresY (s.tickY p i))
      ++ (if (s.line p).y.igr.outdata_vld && s.routing.route_in_tready p then stream.tail else stream)
      = stream :=
  PortNode.delivers_tail h _

/-- The moves that the routing ingress does not see. -/
lemma unseen {m : CrossingMove} (hm : ∀ i reset tready, m ≠ .y i reset tready) (s : Crossing) :
    (s.step m).routing = s.routing ∧ s.delivered m = []
      ∧ ∀ p, portLine.collectFrom PortLine.deliveredY (s.line p) (s.lineMoves p m) = [] := by
  cases m with
  | x t => exact ⟨rfl, rfl, fun p => rfl⟩
  | y i reset tready => exact absurd rfl (hm i reset tready)
  | usrX q u | usrY q u =>
      refine ⟨by cases q <;> rfl, rfl, fun p => ?_⟩
      rw [lineMoves]
      split_ifs <;> rfl

/-- **The run of the routing ingress**, behind any transactions of which the ports have accepted a
beginning. -/
lemma routing_run (rs : Port → List MemTxn) (ms : List CrossingMove)
    (h : ∀ p, portLine.collect PortLine.recvY (lineRun p ms) <+: memStream (rs p)) :
    ∃ rest cur a u m, (∀ p, portLine.collect PortLine.deliveredY (lineRun p ms) ++ rest p
        = memStream (rs p))
      ∧ MemInv rs (crossingMachine.run ms).routing rest (crossingMachine.collect delivered ms) cur a u
        m := by
  induction ms using List.reverseRecOn with
  | nil => exact ⟨_, _, _, _, _, fun p => rfl, MemInv.init rs⟩
  | append_singleton ms m ih =>
      have hbefore : ∀ p, portLine.collect PortLine.recvY (lineRun p ms) <+: memStream (rs p) := by
        intro p
        have hp := h p
        rw [collect_lineRun] at hp
        exact (List.prefix_append _ _).trans hp
      obtain ⟨rest, cur, a, u, order, hrest, hinv⟩ := ih hbefore
      rw [Machine.run_concat, Machine.collect_concat]
      by_cases hm : ∃ i reset tready, m = .y i reset tready
      · obtain ⟨i, reset, tready, rfl⟩ := hm
        -- what a port shows it has accepted and not handed over
        have harrived : ∀ p, ((crossingMachine.run ms).line p).y.arrived <+: rest p := by
          intro p
          have hrecv := (PortLine.delivered_run (lineRun p ms)).2
          have hp := hbefore p
          rw [hrecv, ← line_run, ← hrest p] at hp
          exact (List.prefix_append_right_inj _).mp hp
        obtain ⟨cur', u', -, a', order', hinv'⟩ := hinv.step
          (i := (crossingMachine.run ms).routingIn tready) fun p hv => by
            rw [← PortNode.shown (harrived p) hv]
            rfl
        refine ⟨_, cur', a', u', order', fun p => ?_, hinv'.reset reset⟩
        rw [collect_lineRun, ← hrest p, List.append_assoc]
        refine congrArg (_ ++ ·) (Eq.trans ?_ (delivers_append (harrived p) i))
        exact congrArg (· ++ _) (List.append_nil _)
      · obtain ⟨hrouting, hnone, hport⟩ :=
          unseen (fun i reset tready hx => hm ⟨i, reset, tready, hx⟩) (crossingMachine.run ms)
        refine ⟨rest, cur, a, u, order, fun p => ?_, ?_⟩
        · rw [collect_lineRun, hport, List.append_nil]
          exact hrest p
        · rw [hnone, List.append_nil]
          exact hrouting ▸ hinv

end Crossing

/-! ## The crossing -/

/-- The beats of a run are the beginning of those of an interleaving. -/
lemma MemInv.out_prefix {rs : Port → List MemTxn} {s : RoutingMemoryIngress} {rest : Port → List Flit}
    {out : List Flit512} {cur : Port → List Flit} {a u : Port → List MemTxn}
    {m : List (Port × MemTxn)} (h : MemInv rs s rest out cur a u m) :
    ∃ m es, Interleave (fromPort .port0 (rs .port0)) (fromPort .port1 (rs .port1)) m ∧
      es <+: memBeats m ∧ List.Forall₂ MemBeat.Matches es out := by
  obtain ⟨q, es, -, hes, hbeats⟩ := h.beats
  obtain ⟨p, hp⟩ := h.alone
  rw [← Port.other_other p] at hp
  have hbegun : es <+: memBeats m := ⟨_, hbeats p.other hp⟩
  have hwhole : ∀ p, fromPort p (rs p) = fromPort p (a p) ++ fromPort p (u p) := fun p => by
    rw [← h.whole p, fromPort, List.map_append]
    rfl
  have htake := List.forall₂_take out.length hes
  rw [List.take_left] at htake
  refine ⟨m ++ (fromPort .port0 (u .port0) ++ fromPort .port1 (u .port1)), es.take out.length, ?_, ?_,
    htake⟩
  · rw [hwhole, hwhole]
    exact h.order.extend _ _
  · rw [memBeats, List.flatMap_append]
    exact (List.take_prefix _ _).trans (hbegun.trans (List.prefix_append _ _))

/-- **The crossing carries every transaction once, whole and in order.**  Where the ports are offered
streams of transactions, the routing ingress of the receiving node has handed over the beginning of an
interleaving of the two, each transaction with its own data and with its header up to the credit
field. -/
lemma crossing_delivers {us : Port → List MemTxn} (hus : ∀ p, ∀ u ∈ us p, u.IsCommand)
    (ms : List CrossingMove) (h : crossingMachine.Meets Crossing.StepOk ms) (hoff : Offers us ms) :
    ∃ rs : Port → List MemTxn, (∀ p, List.Forall₂ MemTxn.Carries (us p) (rs p)) ∧
      ∃ m es, Interleave (fromPort .port0 (rs .port0)) (fromPort .port1 (rs .port1)) m ∧
        es <+: memBeats m ∧ List.Forall₂ MemBeat.Matches es (crossingMachine.collect Crossing.delivered ms) := by
  have hport := Crossing.received hus ms h hoff
  choose rs hpre hrs using hport
  obtain ⟨rest, cur, a, u, m, -, hinv⟩ := Crossing.routing_run rs ms hpre
  exact ⟨rs, hrs, hinv.out_prefix⟩

/-- What the routing ingress shows is the next beat of the same. -/
lemma crossing_shows {us : Port → List MemTxn} (hus : ∀ p, ∀ u ∈ us p, u.IsCommand)
    (ms : List CrossingMove) (h : crossingMachine.Meets Crossing.StepOk ms) (hoff : Offers us ms) :
    ∃ rs : Port → List MemTxn, (∀ p, List.Forall₂ MemTxn.Carries (us p) (rs p)) ∧
      ∃ m es, Interleave (fromPort .port0 (rs .port0)) (fromPort .port1 (rs .port1)) m ∧
        es <+: memBeats m ∧ List.Forall₂ MemBeat.Matches es
          (crossingMachine.collect Crossing.delivered ms
            ++ (crossingMachine.run ms).routing.out.out true) := by
  -- a cycle that takes the beat, in which the ports are offered nothing
  let idle : CrossingMove := .y (fun _ => {}) true true
  have hok : crossingMachine.Meets Crossing.StepOk (ms ++ [idle]) :=
    (crossingMachine.meets_concat _ ms idle).mpr ⟨h, fun p hv => Bool.noConfusion hv⟩
  have hoff' : Offers us (ms ++ [idle]) := by
    intro p pre t hpre hv
    rcases List.prefix_concat_iff.mp hpre with heq | hbefore
    · have hlast : CrossingMove.x t = .y (fun _ => {}) true true :=
        List.singleton_inj.mp (List.append_inj_right' heq rfl)
      cases hlast
    · exact hoff p pre t hbefore hv
  obtain ⟨rs, hrs, hout⟩ := crossing_delivers hus (ms ++ [idle]) hok hoff'
  rw [Machine.collect_concat] at hout
  exact ⟨rs, hrs, hout⟩

end ThymesisFlow
