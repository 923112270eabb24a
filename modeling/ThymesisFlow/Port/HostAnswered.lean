import ThymesisFlow.Port.TwoWays

/-!
# What the host is told

The answers of the memory node come back through the ports and the routing ingress of the compute node.
Put together with the way there, every response that the host is handed answers one of its own commands,
with the tag of the host and with the data that the memory's host has given for it, and no command is
answered twice (`host_answered`).
-/

namespace ThymesisFlow

/-! ## The routing ingress of the compute node -/

namespace ComputeIngress

/-- What is at an input without its valid bit makes no difference. -/
lemma step_congr {s : ComputeIngress} {i j : ComputeIngressIn}
    (hv : i.route_in_tvalid = j.route_in_tvalid) (hr : i.route_out_tready = j.route_out_tready)
    (hd : ∀ p, i.route_in_tvalid p = true → i.route_in_tdata p = j.route_in_tdata p) :
    s.step i = s.step j := by
  have hport : ∀ p, (s.ports p).step p.id s.outportid_cmd (s.ports p.other).outportid_data s.out.ready
      (i.route_in_tvalid p) (i.route_in_tdata p) = (s.ports p).step p.id s.outportid_cmd
        (s.ports p.other).outportid_data s.out.ready (j.route_in_tvalid p) (j.route_in_tdata p) := by
    intro p
    rw [← hv]
    cases hp : i.route_in_tvalid p with
    | false =>
        rw [PortRegs.step_eq, PortRegs.step_eq, Bool.false_and, if_neg Bool.false_ne_true,
          if_neg Bool.false_ne_true]
    | true => rw [hd p hp]
  rw [step, step, hr]
  simp only [hport]

end ComputeIngress

namespace TwoNodes

variable {cfg : AcsConfig} {regs : Fin 12 → BitVec 64}

/-- What is observed of a line in one more move. -/
lemma collect_line_concat (out : PortLine → LineMove → List Flit) (p : Port) (ms : List TwoNodesMove)
    (m : TwoNodesMove) : portLine.collect out (lineRun cfg regs p (ms ++ [m]))
      = portLine.collect out (lineRun cfg regs p ms) ++ crossingMachine.collectFrom
        (fun s m => portLine.collectFrom out (s.line p) (s.lineMoves p m))
        ((twoNodes cfg regs).run ms).crossing (((twoNodes cfg regs).run ms).crossingMoves m) := by
  rw [← collect_line, ← collect_line, Machine.collect_concat]

variable (cfg regs) in
/-- The moves that the routing ingress does not see. -/
lemma unseen {m : TwoNodesMove} (hm : ∀ h i tready, m ≠ .compute h i tready) (s : TwoNodes) :
    ((twoNodes cfg regs).step s m).compute = s.compute ∧ s.handed m = []
      ∧ ∀ p, crossingMachine.collectFrom (fun s m => portLine.collectFrom PortLine.deliveredX (s.line p)
        (s.lineMoves p m)) s.crossing (s.crossingMoves m) = [] := by
  cases m with
  | compute h i tready => exact absurd rfl (hm h i tready)
  | memory i reset w offer idle | engine m => exact ⟨rfl, rfl, fun p => rfl⟩
  | usrX q u | usrY q u =>
      refine ⟨rfl, rfl, fun p => ?_⟩
      change portLine.collectFrom _ _ (if q = p then _ else _) ++ [] = _
      split_ifs <;> rfl

/-- **A cycle of the routing ingress** behind streams that its ports show the beginnings of. -/
lemma compute_step (s : TwoNodes) {rest : Port → List Flit}
    (harrived : ∀ p, (s.crossing.line p).x.arrived <+: rest p) (tready : Bool) :
    RespFeed.step ⟨s.compute, rest⟩ ⟨fun p => (s.crossing.line p).x.igr.outdata_vld, tready⟩
      = ⟨s.compute.step (s.computeIn tready), fun p =>
        if (s.crossing.line p).x.igr.outdata_vld && s.compute.route_in_tready p then (rest p).tail
        else rest p⟩ := by
  have hv : ∀ p, ((s.crossing.line p).x.igr.outdata_vld && !(rest p).isEmpty)
      = (s.crossing.line p).x.igr.outdata_vld := by
    intro p
    cases hvld : (s.crossing.line p).x.igr.outdata_vld with
    | false => rfl
    | true =>
        rw [← PortNode.shown (harrived p) hvld]
        rfl
  have hstep : s.compute.step (RespFeed.wires ⟨s.compute, rest⟩
      ⟨fun p => (s.crossing.line p).x.igr.outdata_vld, tready⟩) = s.compute.step (s.computeIn tready) := by
    refine ComputeIngress.step_congr (funext hv) rfl fun p hp => ?_
    have hvld : (s.crossing.line p).x.igr.outdata_vld = true := (hv p).symm.trans hp
    change (rest p).headD 0 = (s.crossing.line p).x.igr.outdata_q
    rw [← PortNode.shown (harrived p) hvld]
    rfl
  have hstream : ∀ p, RespFeed.accepts ⟨s.compute, rest⟩
      ⟨fun p => (s.crossing.line p).x.igr.outdata_vld, tready⟩ p
        = ((s.crossing.line p).x.igr.outdata_vld && s.compute.route_in_tready p) := fun p =>
    congrArg (· && s.compute.route_in_tready p) (hv p)
  rw [RespFeed.step, hstep]
  simp only [hstream]

/-- **The run of the routing ingress**, behind any responses of which the ports have accepted a
beginning. -/
lemma compute_run {rs : Port → List NetResp} (good : ∀ p, ∀ r ∈ rs p, r.isWriteFail = false)
    (ms : List TwoNodesMove)
    (h : ∀ p, portLine.collect PortLine.recvX (lineRun cfg regs p ms) <+: respStream (rs p)) :
    ∃ rest cur a u m, (∀ p, portLine.collect PortLine.deliveredX (lineRun cfg regs p ms) ++ rest p
        = respStream (rs p))
      ∧ RouteInv rs ⟨((twoNodes cfg regs).run ms).compute, rest⟩ ((twoNodes cfg regs).collect handed ms)
        cur a u m := by
  induction ms using List.reverseRecOn with
  | nil => exact ⟨_, _, _, _, _, fun p => rfl, RouteInv.init rs⟩
  | append_singleton ms m ih =>
      have hbefore : ∀ p, portLine.collect PortLine.recvX (lineRun cfg regs p ms)
          <+: respStream (rs p) := by
        intro p
        have hp := h p
        rw [collect_line_concat] at hp
        exact (List.prefix_append _ _).trans hp
      obtain ⟨rest, cur, a, u, order, hrest, hinv⟩ := ih hbefore
      rw [Machine.run_concat, Machine.collect_concat]
      by_cases hm : ∃ x i tready, m = .compute x i tready
      · obtain ⟨x, i, tready, rfl⟩ := hm
        -- what a port shows it has accepted and not handed over
        have harrived : ∀ p, (((twoNodes cfg regs).run ms).crossing.line p).x.arrived <+: rest p := by
          intro p
          have hp := hbefore p
          rw [(PortLine.delivered_run (lineRun cfg regs p ms)).1, ← line_run, ← hrest p] at hp
          exact (List.prefix_append_right_inj _).mp hp
        obtain ⟨cur', a', u', order', hinv', -⟩ := hinv.step good
          ⟨fun p => (((twoNodes cfg regs).run ms).crossing.line p).x.igr.outdata_vld, tready⟩
        rw [compute_step _ harrived] at hinv'
        refine ⟨_, cur', a', u', order', fun p => ?_, hinv'⟩
        rw [collect_line_concat, ← hrest p, List.append_assoc]
        refine congrArg (_ ++ ·) (Eq.trans ?_ (PortNode.delivers_tail (harrived p)
          ((((twoNodes cfg regs).run ms).crossing.line p).wiresX
            (((twoNodes cfg regs).run ms).tickX i p))))
        exact congrArg (· ++ _) ((List.append_nil _).trans (List.append_nil _))
      · obtain ⟨hcompute, hnone, hport⟩ := unseen cfg regs
          (fun x i tready hx => hm ⟨x, i, tready, hx⟩) ((twoNodes cfg regs).run ms)
        refine ⟨rest, cur, a, u, order, fun p => ?_, ?_⟩
        · rw [collect_line_concat, hport, List.append_nil]
          exact hrest p
        · rw [hnone, List.append_nil, hcompute]
          exact hinv

end TwoNodes

/-! ## What is expected -/

/-- A command of the host that has been answered: what it was at the memory node, and what the memory's
host has said about it. -/
structure AnsweredTxn where
  cmd : HostTxn
  txn : IngressTxn
  resp : TlResp
  data : List OCxFlit

namespace AnsweredTxn

variable (x : AnsweredTxn)

/-- The response of the memory's host with the tag of the host that waits for it. -/
def hostHdr : RespHdr where
  opcode := hostOpcode x.resp.opcode
  code := x.resp.code
  dl := x.resp.dl
  dp := x.resp.dp
  tag := x.cmd.cmd.capptag

/-- The first data flit comes with the header. -/
def beats : List HostBeat :=
  match x.data with
  | [] => [⟨some x.hostHdr, none⟩]
  | d :: ds => ⟨some x.hostHdr, some d.toOCxFlit⟩ :: ds.map fun d => ⟨none, some d.toOCxFlit⟩

end AnsweredTxn

/-- The acTag that a move has to assign: it is that of a cycle of the memory node that is enabled. -/
def TwoNodesMove.actag : TwoNodesMove → Option (BitVec 12)
  | .memory _ _ w _ _ => if w.enable then some w.active_actag else none
  | _ => none

/-- **What a run of the two nodes has done for the host.**  `txns` is what the memory node has handed to
its TLX behind the assignment of the acTag, with its data, those of the retry path among them, and
`taken` those of the host's commands that it has begun with.  The commands under a tag of the memory
node are answered one after the other, each with what the memory's host says next about the tag, and
what is handed back are the answers, each with its own data. -/
structure HostAnswered (cfg : AcsConfig) (regs : Fin 12 → BitVec 64) (ms : List TwoNodesMove)
    (first : List (BitVec 200)) (txns : List IngressTxn) (taken : List (HostTxn × IngressTxn))
    (answers : List AnsweredTxn) : Prop where
  start : first = assigned TwoNodesMove.actag ms ∧ (first = [] → txns = [])
  sent : (taken.map Prod.fst).Subperm ((twoNodes cfg regs).collect TwoNodes.accepted ms)
  begun : taken.map Prod.snd = txns.filter (·.fresh)
  issuedAs : ∀ y ∈ taken, ∃ p, IssuedAs (p, y.1.net regs) y.2
  retried : (twoNodes cfg regs).collect TwoNodes.retried ms
    = (txns.filter (!·.fresh)).flatMap IngressTxn.words
  cmds : (twoNodes cfg regs).collect TwoNodes.issued ms
      ++ ((twoNodes cfg regs).run ms).node.ingress.held = first ++ txns.map IngressTxn.cmd
  data : (twoNodes cfg regs).collect TwoNodes.issuedData ms
      ++ ((twoNodes cfg regs).run ms).node.ingress.heldData
    = txns.flatMap fun x => x.data.map tlxData
  once : ∀ t, ∃ waiting : Option (HostTxn × IngressTxn), taken.filter (·.2.tag = t)
    = (answers.filter (·.txn.tag = t)).map (fun x => (x.cmd, x.txn)) ++ waiting.toList
  tag : ∀ x ∈ answers, x.resp.capptag = x.txn.tag
  said : answers.map (fun x => (x.resp, x.data))
    <+: ((twoNodes cfg regs).collect TwoNodes.said ms).filter (·.1.answers)
  handed : ∃ xs : List AnsweredTxn, xs.Perm answers ∧
    ((twoNodes cfg regs).collect TwoNodes.handed ms).map RespFlit.beat <+: xs.flatMap AnsweredTxn.beats

/-! ## The beats of an answer -/

namespace AnsweredTxn

variable {x : AnsweredTxn} {a : NetAnswer} {t : EgrTxn} {r r' : NetResp}

/-- The answer of the memory node. -/
structure Of (x : AnsweredTxn) (a : NetAnswer) : Prop where
  tag : x.txn.tag = a.tag
  flit : x.txn.flit = a.cmd
  resp : x.resp = a.resp
  data : x.data = a.data

/-- **An answer comes back as it was given.** -/
lemma beats_eq (hx : x.Of a) (ha : a.Carries) (ht : a.OnNet t) (hr : t.AsResp r)
    (hr' : respFormat.Carries r r') (htag : field x.txn.flit 424 16 = x.cmd.cmd.capptag) :
    r'.beats = x.beats := by
  -- a field of the header
  have hfield : ∀ lo len, 35 ≤ lo → lo + len ≤ 256 →
      field r'.hdr lo len = field a.header (256 + lo) len := by
    intro lo len hlo hle
    rw [← ht.hdr, ← field_field t.hdr hle]
    have hclear : field r'.hdr lo len = field r.hdr lo len := field_of_clear hr'.hdr hlo
    rw [hclear, hr.hdr]
    rfl
  have hresp : ∀ lo len, lo + len ≤ 38 → field r'.hdr (218 + lo) len = field x.resp lo len := by
    intro lo len hle
    rw [hfield _ _ (by omega) (by omega), ← Nat.add_assoc, hx.resp]
    exact ha.field_header lo len hle
  have hhdr : r'.hostHdr = x.hostHdr := by
    have hopcode : netOpcode r'.hdr = x.resp.opcode := hresp 30 8 (by decide)
    have hcode : field r'.hdr 228 4 = x.resp.code := hresp 10 4 (by decide)
    have hdl : field r'.hdr 226 2 = x.resp.dl := hresp 8 2 (by decide)
    have hdp : field r'.hdr 224 2 = x.resp.dp := hresp 6 2 (by decide)
    have hcapptag : field r'.hdr 41 16 = x.cmd.cmd.capptag := by
      rw [hfield 41 16 (by decide) (by decide), ha.capptag, ← hx.flit, htag]
    rw [NetResp.hostHdr, hopcode, hcode, hdl, hdp, hcapptag, hostHdr]
  have hdata : r'.data = x.data.flatMap fun d => [hiHalf d.toOCxFlit, loHalf d.toOCxFlit] := by
    have hsame : r'.data = r.data := hr'.data
    rw [hsame, hr.data, ht.data, hx.data, List.flatMap_map]
  cases r' with
  | short f k =>
      have hnil : x.data = [] := by
        cases hd : x.data with
        | nil => rfl
        | cons d ds =>
            rw [hd] at hdata
            cases hdata
      rw [NetResp.beats, hhdr, beats, hnil]
  | readOk f h0 l0 h1 l1 k =>
      rcases hd : x.data with _ | ⟨d0, _ | ⟨d1, _ | ⟨d2, ds⟩⟩⟩ <;> rw [hd] at hdata <;>
        simp only [NetResp.data, List.flatMap_cons, List.flatMap_nil, List.cons_append, List.nil_append,
          List.cons.injEq, reduceCtorEq, and_false, and_true] at hdata
      obtain ⟨rfl, rfl, rfl, rfl⟩ := hdata
      rw [NetResp.beats, hhdr, beats, hd]
      simp only [hiHalf_append_loHalf, List.map_cons, List.map_nil]

end AnsweredTxn

/-! ## The commands -/

namespace HostNetwork

variable {cfg : AcsConfig} {regs : Fin 12 → BitVec 64} {ms : List HostNetworkMove}

/-- **Each command of the host is at the memory node at most once.** -/
lemma exists_taken {m m' : List (Port × NetTxn)} {xs : List IngressTxn} (hm : Interleave
      ((netTxnsOn .port0 .port0 (cmdTxns cfg regs (hostRun cfg regs ms))).map (Prod.mk .port0))
      ((netTxnsOn .port1 .port0 (cmdTxns cfg regs (hostRun cfg regs ms))).map (Prod.mk .port1)) m)
    (hpre : m' <+: m) (hissued : List.Forall₂ IssuedAs m' xs) :
    ∃ taken : List (HostTxn × IngressTxn),
      (taken.map Prod.fst).Subperm ((cmdPath cfg regs).collect CmdPath.accepted (hostRun cfg regs ms))
        ∧ taken.map Prod.snd = xs ∧ ∀ y ∈ taken, ∃ p, IssuedAs (p, y.1.net regs) y.2 := by
  have hperm : (m.map Prod.snd).Perm (cmdTxns cfg regs (hostRun cfg regs ms)) := by
    refine (hm.perm.map Prod.snd).trans ?_
    rw [List.map_append, List.map_map, List.map_map]
    simpa only [Function.comp_def, List.map_id'] using netTxnsOn_dealt.perm .port0 _
  have hnet : List.Forall₂ (fun (c : HostTxn) t => c.net regs = t)
      ((cmdPath cfg regs).collect CmdPath.accepted (hostRun cfg regs ms))
      (cmdTxns cfg regs (hostRun cfg regs ms)) :=
    List.forall₂_map_right_iff.mpr (List.forall₂_same.mpr fun _ _ => rfl)
  obtain ⟨cs, hcs, hrel⟩ := subperm_related hnet ((hpre.map Prod.snd).sublist.subperm.trans hperm.subperm)
  obtain ⟨taken, hfst, hsnd⟩ := exists_between (S := fun (c : HostTxn) (z : HostTxn × IngressTxn) => z.1 = c)
    (T := fun z x => z.2 = x ∧ ∃ p, IssuedAs (p, z.1.net regs) z.2)
    (fun c x (hx : ∃ p, IssuedAs (p, c.net regs) x) => ⟨(c, x), rfl, rfl, hx⟩)
    (forall₂_comp (fun c (y : Port × NetTxn) x (hy : c.net regs = y.2) hx => ⟨y.1, hy ▸ hx⟩)
      (List.forall₂_map_right_iff.mp hrel) hissued)
  refine ⟨taken, ?_, map_eq_of_forall₂ (hsnd.flip.imp fun _ _ hz => hz.1), fun y hy => ?_⟩
  · rw [map_eq_of_forall₂ hfst]
    exact hcs
  · obtain ⟨x, -, hx⟩ := exists_of_forall₂ hsnd.flip hy
    exact hx.2

/-- The memory node has the tag of the host with each of them. -/
lemma taken_tag (h : (hostNetwork cfg regs).Meets (StepOk cfg) ms) {y : HostTxn × IngressTxn} {p : Port}
    (hy : y.1 ∈ (cmdPath cfg regs).collect CmdPath.accepted (hostRun cfg regs ms))
    (hissued : IssuedAs (p, y.1.net regs) y.2) : field y.2.flit 424 16 = y.1.cmd.capptag := by
  obtain ⟨hremote, hmixed⟩ := accepted_ok h y.1 hy
  rw [← y.2.record_capptag, hissued.capptag]
  exact HostTxn.net_tag hremote hmixed

end HostNetwork

/-! ## What is observed -/

namespace TwoNodes

variable {cfg : AcsConfig} {regs : Fin 12 → BitVec 64}

lemma accepted_eq (ms : List TwoNodesMove) : (twoNodes cfg regs).collect accepted ms
    = (cmdPath cfg regs).collect CmdPath.accepted (HostNetwork.hostRun cfg regs (networkRun cfg regs ms)) := by
  rw [← HostNetwork.collect_host, networkRun, ← (twoNodes cfg regs).projects_collect
    (hostNetwork cfg regs) network _ rfl network_step ms]
  congr 1
  funext s m
  cases m with
  | compute h i tready => exact ((List.append_nil _).trans (List.append_nil _)).symm
  | memory i reset w offer idle | engine m | usrX p u | usrY p u => rfl

lemma seen_eq {α : Type} (f : MemoryIngress → MemoryIngressIn → List α) (ms : List TwoNodesMove) :
    (twoNodes cfg regs).collect (fun s => s.seen f) ms
      = memNode.collect (MemNode.seen f) (nodeRun cfg regs ms) := by
  rw [nodeRun, ← (twoNodes cfg regs).projects_collect memNode (fun s => s.node) _ rfl node_step ms]
  congr 1
  funext s m
  cases m with
  | memory i reset w offer idle => exact (List.append_nil _).symm
  | compute h i tready | usrX p u | usrY p u => rfl
  | engine m => cases m <;> rfl

lemma said_eq (ms : List TwoNodesMove) : (twoNodes cfg regs).collect said ms
    = memNode.collect MemNode.said (nodeRun cfg regs ms) := by
  rw [nodeRun, ← (twoNodes cfg regs).projects_collect memNode (fun s => s.node) _ rfl node_step ms]
  congr 1
  funext s m
  cases m with
  | engine m => exact (List.append_nil _).symm
  | memory i reset w offer idle | compute h i tready | usrX p u | usrY p u => rfl

/-- **The beats that are handed over are those of the answers.** -/
lemma handed_answers {ms : List TwoNodesMove} (h : PartsOk cfg regs ms) {answers : List NetAnswer}
    {ts : List EgrTxn} {us : Port → List NetResp}
    (hstream : AnswerStream (nodeRun cfg regs ms) answers ts us) {xs : List AnsweredTxn}
    (hxs : List.Forall₂ (fun (x : AnsweredTxn) a => x.Of a ∧ a.Carries
      ∧ field x.txn.flit 424 16 = x.cmd.cmd.capptag) xs answers) :
    ∃ xs' : List AnsweredTxn, xs'.Perm xs ∧
      ((twoNodes cfg regs).collect handed ms).map RespFlit.beat <+: xs'.flatMap AnsweredTxn.beats := by
  have hrecv : ∀ p, ∃ rs, portLine.collect PortLine.recvX (lineRun cfg regs p ms) <+: respFormat.stream rs
      ∧ List.Forall₂ respFormat.Carries (us p) rs := by
    intro p
    have hline := HostNetwork.lines_ok h.network p
    rw [crossingRun_eq] at hline
    exact respFormat.received_of_offered (fun _ _ => trivial) (PortLine.received_prefix _ hline).2
      ((List.prefix_append _ _).trans (PartsOk.offered hstream p))
  choose rs hrs hcarries using hrecv
  have good : ∀ p, ∀ r ∈ rs p, r.isWriteFail = false := by
    intro p r' hr'
    obtain ⟨r, hr, hcarried⟩ := exists_of_forall₂ (hcarries p) hr'
    have hopcode : netOpcode r'.hdr = netOpcode r.hdr := by
      rw [netOpcode, netOpcode]
      exact field_of_clear hcarried.hdr (by decide)
    have hgood := hstream.good p r hr
    rw [NetResp.isWriteFail] at hgood ⊢
    rw [hopcode]
    exact hgood
  obtain ⟨rest, cur, a, u, order, -, hinv⟩ := compute_run good ms hrs
  obtain ⟨m, hm, hout⟩ := hinv.out_isPrefix
  -- the answers in the order of the ports, and in the order in which they are handed over
  have hnet : List.Forall₂ (fun (t : EgrTxn) (x : AnsweredTxn) => ∃ a : NetAnswer, a.OnNet t ∧ x.Of a
      ∧ a.Carries ∧ field x.txn.flit 424 16 = x.cmd.cmd.capptag) ts xs :=
    (forall₂_comp (fun x a t hx ht => ⟨a, ht, hx⟩) hxs hstream.onNet).flip
  obtain ⟨ys, hys, hperm⟩ := List.perm_comp_forall₂ (portTxns_dealt.perm .port0 ts) hnet
  have hresp : ∀ p, List.Forall₂ (fun (t : EgrTxn) (r' : NetResp) => ∃ r, t.AsResp r
      ∧ respFormat.Carries r r') (portTxns p .port0 ts) (rs p) := fun p =>
    forall₂_comp (fun t r r' ht hr => ⟨r, ht, hr⟩) (hstream.resps p) (hcarries p)
  have hbeats : List.Forall₂ (fun (r' : NetResp) (x : AnsweredTxn) => r'.beats = x.beats)
      (rs .port0 ++ rs .port1) ys := by
    refine forall₂_comp (fun r' t x hr hx => ?_) (List.rel_append (hresp .port0) (hresp .port1)).flip hys
    obtain ⟨r, hasResp, hcarried⟩ := hr
    obtain ⟨a, honNet, hof, hcar, htag⟩ := hx
    exact AnsweredTxn.beats_eq hof hcar honNet hasResp hcarried htag
  obtain ⟨zs, hzs, hperm'⟩ := List.perm_comp_forall₂ hm.perm hbeats
  refine ⟨zs, hperm'.trans hperm, ?_⟩
  rw [← flatMap_eq_of_forall₂ hzs]
  exact hout

end TwoNodes

/-! ## The whole loop -/

namespace TwoNodes

/-- The acTag that the memory node assigns. -/
lemma assigned_eq (cfg : AcsConfig) (regs : Fin 12 → BitVec 64) (ms : List TwoNodesMove) :
    assigned NodeMove.actag (nodeRun cfg regs ms) = assigned TwoNodesMove.actag ms :=
  assigned_collect (twoNodes cfg regs) (fun s m => by
    cases m with
    | memory i reset w offer idle => exact List.findSome?_singleton
    | engine m => cases m <;> rfl
    | compute h i tready | usrX p u | usrY p u => rfl) ms

/-- The answers of the memory node are those to the first of the commands taken under each tag. -/
lemma exists_answers {taken : List (HostTxn × IngressTxn)} {nas : List NetAnswer}
    {current : Tag → Option Flit512}
    (h : ∀ t, (taken.filter (·.2.tag = t)).map (·.2.flit)
      = (nas.filter (·.tag = t)).map NetAnswer.cmd ++ (current t).toList) :
    ∃ answers : List AnsweredTxn, List.Forall₂ AnsweredTxn.Of answers nas
      ∧ (∀ t, ∃ waiting : Option (HostTxn × IngressTxn), taken.filter (·.2.tag = t)
        = (answers.filter (·.txn.tag = t)).map (fun x => (x.cmd, x.txn)) ++ waiting.toList)
      ∧ ∀ x ∈ answers, (x.cmd, x.txn) ∈ taken := by
  obtain ⟨pairs, hpairs, hwaiting⟩ := exists_of_keyed_option _ _ fun t => ⟨current t, h t⟩
  obtain ⟨answers, hcmds, hof⟩ := exists_between
    (S := fun u (x : AnsweredTxn) => (x.cmd, x.txn) = u) (T := AnsweredTxn.Of)
    (fun u a hu => ⟨⟨u.1, u.2, a.resp, a.data⟩, rfl, hu.1, hu.2, rfl, rfl⟩) hpairs
  have hmap := map_eq_of_forall₂ hcmds
  have hfirst : ∀ t, pairs.filter (·.2.tag = t) <+: taken.filter (·.2.tag = t) := by
    intro t
    obtain ⟨c, hc⟩ := hwaiting t
    rw [hc]
    exact List.prefix_append _ _
  refine ⟨answers, hof, fun t => ?_, fun x hx => (subperm_of_keyed hfirst).subset ?_⟩
  · obtain ⟨c, hc⟩ := hwaiting t
    refine ⟨c, ?_⟩
    rw [hc, ← hmap, List.filter_map]
    rfl
  · rw [← hmap]
    exact List.mem_map_of_mem (f := fun x : AnsweredTxn => (x.cmd, x.txn)) hx

end TwoNodes

/-- **The host is told about its own commands, each at most once, and what the memory's host has said**,
in every run in which the host sends reads and writes of two flits, the memory ingress stays enabled, the
memory's host answers in one part and with no failed write, and the lanes meet their conditions. -/
theorem host_answered (cfg : AcsConfig) (regs : Fin 12 → BitVec 64) (ms : List TwoNodesMove)
    (h : (twoNodes cfg regs).Meets (TwoNodes.StepOk cfg) ms) :
    ∃ first txns taken answers, HostAnswered cfg regs ms first txns taken answers := by
  have hparts := TwoNodes.partsOk ms h
  obtain ⟨nas, current, handled, xs, ys, cur, ts, us, hfollows, hstream⟩ := hparts.answers
  have hp9 : memNode.Meets (NodeOk P9Parts) (TwoNodes.nodeRun cfg regs ms) :=
    memNode.meets_mono (fun _ _ hm => hm.mono fun _ _ _ => SingleParts.p9) hparts.single
  have t := node_trace _ hp9
  rw [TwoNodes.assigned_eq] at t
  obtain ⟨m, m', hm, hpre, hissued⟩ := HostNetwork.order hparts.network t (TwoNodes.net_eq ms)
  obtain ⟨taken, hsent, hbegun, hissuedAs⟩ := HostNetwork.exists_taken hm hpre hissued
  have hunder : ∀ tag, (taken.filter (·.2.tag = tag)).map (·.2.flit)
      = (nas.filter (·.tag = tag)).map NetAnswer.cmd ++ (current tag).toList := by
    intro tag
    rw [← hfollows.tracked.once tag, accepted_eq_log _ hp9, ← hbegun, List.map_map, List.filter_map,
      List.map_map]
    rfl
  obtain ⟨answers, hof, honce, hmem⟩ := TwoNodes.exists_answers hunder
  have htag : ∀ x ∈ answers, field x.txn.flit 424 16 = x.cmd.cmd.capptag := by
    intro x hx
    have htaken := hmem x hx
    obtain ⟨p, hp⟩ := hissuedAs _ htaken
    exact HostNetwork.taken_tag (y := (x.cmd, x.txn)) hparts.network
      (hsent.subset (List.mem_map_of_mem (f := Prod.fst) htaken)) hp
  have hall : List.Forall₂ (fun (x : AnsweredTxn) a => x.Of a ∧ a.Carries
      ∧ field x.txn.flit 424 16 = x.cmd.cmd.capptag) answers nas := by
    have hleft := (List.forall₂_and_left _ _).mpr ⟨htag, hof⟩
    have hright := (List.forall₂_and_left _ _).mpr ⟨hfollows.carries, hleft.flip⟩
    exact hright.flip.imp fun x a hx => ⟨hx.2.2, hx.1, hx.2.1⟩
  refine ⟨_, _, taken, answers, ⟨rfl, t.txns_nil⟩, ?_, hbegun, hissuedAs,
    (TwoNodes.seen_eq MemoryIngress.rtyTaken ms).trans t.rty, ?_, ?_, honce, fun x hx => ?_, ?_,
    TwoNodes.handed_answers hparts hstream hall⟩
  · rw [TwoNodes.accepted_eq]
    exact hsent
  · have hcmds := @TwoNodes.seen_eq cfg regs _ MemoryIngress.issued ms
    rw [TwoNodes.node_run]
    exact (congrArg (· ++ _) hcmds).trans t.cmds
  · have hdata := @TwoNodes.seen_eq cfg regs _ MemoryIngress.issuedData ms
    rw [TwoNodes.node_run]
    exact (congrArg (· ++ _) hdata).trans t.data
  · obtain ⟨a, ha, hax⟩ := exists_of_forall₂ hof.flip hx
    rw [hax.resp, (hfollows.carries a ha).tag, hax.tag]
  · have hsame : answers.map (fun x => (x.resp, x.data)) = nas.map fun a => (a.resp, a.data) :=
      map_eq_of_forall₂ (List.forall₂_map_left_iff.mpr (hof.flip.imp fun a x hx => by
        rw [hx.resp, hx.data]))
    rw [hsame, hfollows.forwarded.answered, TwoNodes.said_eq, hfollows.queued.said, List.filter_append]
    exact List.prefix_append _ _

/-! ## Runs behind the initialisation of the memory node -/

namespace TwoNodes

variable {cfg : AcsConfig} {regs : Fin 12 → BitVec 64}

lemma run_seeding {n : ℕ} (hn : n ≤ 512) :
    (twoNodes cfg regs).run (List.replicate n (.engine (.resp true))) = { node := seededNode n } := by
  induction n with
  | zero => rfl
  | succ n ih =>
      have hsm : (seededNode n).resp.smstate = .INIT := if_neg (by omega)
      rw [List.replicate_succ', Machine.run_concat, ih (by omega)]
      change TwoNodes.mk {} {} ((seededNode n).step (.resp true))
        (EgressFeed.append { stream := [] } ((seededNode n).netOut (.resp true))) {} = _
      rw [seededNode_step hn, MemNode.netOut_of_init hsm]
      rfl

lemma meets_seeding (ms : List TwoNodesMove)
    (h : (twoNodes cfg regs).MeetsFrom (StepOk cfg) { node := seededNode 512 } ms) :
    (twoNodes cfg regs).Meets (StepOk cfg) (List.replicate 512 (.engine (.resp true)) ++ ms) := by
  refine (twoNodes cfg regs).meets_behind (fun s m hm => ?_) (run_seeding (le_refl 512)) h
  rw [List.eq_of_mem_replicate hm]
  trivial

/-- A write and two reads of the host are carried over and issued.  The memory's host gives the data of
the first read, takes the write and lets the other read fail, and the answers are carried back. -/
def threeCommands : List TwoNodesMove :=
  let host (t : Option HostTxn) : TwoNodesMove := .compute (hostCycle t true) (fun _ => {}) true
  let memory : TwoNodesMove := .memory (fun _ => {}) true { active_actag := 5 } true 0
  let answer (op : BitVec 8) (t : Tag) (code : BitVec 4) (data : List OCxFlit) : List TwoNodesMove :=
    [.engine (.answer (op ++ t ++ code ++ (0b10 : BitVec 2) ++ 0#8) data false), .engine .load]
      ++ List.replicate data.length (.engine .deliver)
      ++ List.replicate (1 + data.length) (.engine (.resp true))
  [host (some remoteTxn), host (some (remoteRead 2 0x100)), host (some (remoteRead 3 0x180))]
    ++ List.replicate 15 (host none)
    ++ List.replicate 16 (.usrX .port0 {}) ++ List.replicate 9 (.usrX .port1 {})
    ++ List.replicate 12 (.usrY .port0 {}) ++ List.replicate 6 (.usrY .port1 {})
    ++ List.replicate 18 memory
    ++ answer TL_RD_RESPOK 2 0 [0xb1, 0xb2] ++ answer TL_WR_RESPOK 1 0 []
    ++ answer TL_RD_RESPFAIL 3 0xE []
    ++ List.replicate 14 memory
    ++ List.replicate 16 (.usrY .port0 {}) ++ List.replicate 16 (.usrY .port1 {})
    ++ List.replicate 12 (.usrX .port0 {}) ++ List.replicate 12 (.usrX .port1 {})
    ++ List.replicate 16 (host none)

end TwoNodes

/-- No more headers are handed back than there are answers. -/
lemma HostAnswered.headers_le {cfg : AcsConfig} {regs : Fin 12 → BitVec 64} {ms : List TwoNodesMove}
    {first : List (BitVec 200)} {txns : List IngressTxn} {taken : List (HostTxn × IngressTxn)}
    {answers : List AnsweredTxn} (h : HostAnswered cfg regs ms first txns taken answers) :
    (((twoNodes cfg regs).collect TwoNodes.handed ms).map RespFlit.beat).countP (·.resp.isSome)
      ≤ answers.length := by
  obtain ⟨xs, hperm, hpre⟩ := h.handed
  have hone : ∀ x : AnsweredTxn, x.beats.countP (·.resp.isSome) = 1 := by
    intro x
    rw [AnsweredTxn.beats]
    cases x.data with
    | nil => rfl
    | cons d ds =>
        rw [List.countP_cons_of_pos rfl, List.countP_eq_zero.mpr]
        intro b hb
        obtain ⟨d', -, rfl⟩ := List.mem_map.mp hb
        exact Bool.false_ne_true
  refine (hpre.sublist.countP_le).trans ?_
  rw [List.countP_flatMap, ← hperm.length_eq]
  simp [Function.comp_def, hone]

/-- The three commands are issued, and all of them are answered: the host is handed the answers over the
two ports, with its own tags and with the data for the first read. -/
theorem host_answered_threeCommands :
    ∃ first txns taken answers, HostAnswered cfgAt bonded
        (List.replicate 512 (.engine (.resp true)) ++ TwoNodes.threeCommands) first txns taken answers
      ∧ first = [actagCmd 5]
      ∧ txns.map (fun x => AfuTlxCmd.asked x.cmd)
        = [(0x20, 0x80, 1), (0x10, 0x100, 2), (0x10, 0x180, 3)]
      ∧ (txns.flatMap fun x => x.data.map tlxData) = [0xa1, 0xa2]
      ∧ answers.map (fun x => (x.resp.capptag, x.resp.opcode, x.data))
        = [(2, TL_RD_RESPOK, [0xb1, 0xb2]), (1, TL_WR_RESPOK, []), (3, TL_RD_RESPFAIL, [])]
      ∧ ((twoNodes cfgAt bonded).collect TwoNodes.handed
          (List.replicate 512 (.engine (.resp true)) ++ TwoNodes.threeCommands)).map RespFlit.beat
        = [⟨some ⟨0x04, 0, 0b10, 0, 1⟩, none⟩, ⟨some ⟨0x01, 0, 0b10, 0, 2⟩, some 0xb1⟩, ⟨none, some 0xb2⟩,
          ⟨some ⟨0x02, 0xE, 0b10, 0, 3⟩, none⟩] := by
  obtain ⟨first, txns, taken, answers, h⟩ := host_answered cfgAt bonded _
    (TwoNodes.meets_seeding TwoNodes.threeCommands (by decide +kernel))
  have hinit : ∀ m ∈ List.replicate 512 (.engine (.resp true)), m = TwoNodesMove.engine (.resp true) :=
    fun m hm => List.eq_of_mem_replicate hm
  have hbehind {α : Type} (out : TwoNodes → TwoNodesMove → List α)
      (hnone : ∀ s, out s (.engine (.resp true)) = []) : (twoNodes cfgAt bonded).collect out
        (List.replicate 512 (.engine (.resp true)) ++ TwoNodes.threeCommands)
      = (twoNodes cfgAt bonded).collectFrom out { node := seededNode 512 } TwoNodes.threeCommands :=
    (twoNodes cfgAt bonded).collect_behind (fun s m hm => hinit m hm ▸ hnone s)
      (TwoNodes.run_seeding (le_refl 512))
  have hfirst : first = [actagCmd 5] := h.start.1.trans (by decide +kernel)
  have hhanded : ((twoNodes cfgAt bonded).collect TwoNodes.handed
        (List.replicate 512 (.engine (.resp true)) ++ TwoNodes.threeCommands)).map RespFlit.beat
      = [⟨some ⟨0x04, 0, 0b10, 0, 1⟩, none⟩, ⟨some ⟨0x01, 0, 0b10, 0, 2⟩, some 0xb1⟩, ⟨none, some 0xb2⟩,
        ⟨some ⟨0x02, 0xE, 0b10, 0, 3⟩, none⟩] := by
    rw [hbehind TwoNodes.handed fun s => rfl]
    decide +kernel
  refine ⟨first, txns, taken, answers, h, hfirst, ?_, ?_, ?_, hhanded⟩
  · have hcmds := congrArg (List.map AfuTlxCmd.asked) h.cmds
    have hissued : ((twoNodes cfgAt bonded).collectFrom TwoNodes.issued { node := seededNode 512 }
          TwoNodes.threeCommands ++ ((twoNodes cfgAt bonded).runFrom { node := seededNode 512 }
          TwoNodes.threeCommands).node.ingress.held).map AfuTlxCmd.asked
        = (0x50, 0, 0) :: [(0x20, 0x80, 1), (0x10, 0x100, 2), (0x10, 0x180, 3)] := by
      decide +kernel
    rw [hbehind TwoNodes.issued fun s => rfl, Machine.run_append, TwoNodes.run_seeding (le_refl 512),
      hissued, hfirst, List.singleton_append, List.map_cons, List.map_map] at hcmds
    exact (List.cons.inj hcmds).2.symm
  · rw [← h.data, hbehind TwoNodes.issuedData fun s => rfl, Machine.run_append,
      TwoNodes.run_seeding (le_refl 512)]
    decide +kernel
  · have hsaid := h.said
    have hall : ((twoNodes cfgAt bonded).collectFrom TwoNodes.said { node := seededNode 512 }
          TwoNodes.threeCommands).filter (·.1.answers) = [(TL_RD_RESPOK ++ 2#16 ++ 0x200#14, [0xb1, 0xb2]),
        (TL_WR_RESPOK ++ 1#16 ++ 0x200#14, []), (TL_RD_RESPFAIL ++ 3#16 ++ 0x3A00#14, [])] := by
      decide +kernel
    have hthree := h.headers_le
    rw [hhanded] at hthree
    rw [hbehind TwoNodes.said fun s => rfl, hall] at hsaid
    have hsame := hsaid.eq_of_length_le (by rw [List.length_map]; exact hthree)
    have hmap := congrArg (List.map fun x : TlResp × List OCxFlit => (x.1.capptag, x.1.opcode, x.2)) hsame
    rw [List.map_map] at hmap
    exact hmap

end ThymesisFlow
