import ThymesisFlow.Memory.IngressAlike

/-!
# What a command carries of earlier data

Two runs of the path in which the same commands arrive and the data of the writes differ.  The
adapter puts a command into the register in which the data was, so the fields that it does not write
hold what is left there; `no_residue` is what is left of the independence of the data when those
fields happen to agree, and `residue_issued` is a run where they do not.
-/

namespace ThymesisFlow

namespace NetPath

/-- What is left on a link. -/
def left (s : NetPath) (i : NetPathIn) (p : Port) : List Flit :=
  if s.linkValid i p && s.routing.route_in_tready p then (s.link p).tail else s.link p

/-- **The relation between the two runs.**  The two copies of each module are alike, and so is what is
on the way between them. -/
structure Rel (s t : NetPath) : Prop where
  adapter : EgressAdapter.Alike s.adapter t.adapter
  inStep : InStep s.adapter s.egress
  waiting : s.adapter.output_q_vld = true → s.egress.ocapi_sm = .INPUT_CMD_RESP →
    SameCmd (hiHalf s.adapter.output_q) (hiHalf t.adapter.output_q)
  egress : RoutingEgress.Alike s.egress t.egress
  sent : ∀ p, EgressPort.Sent (s.routing.ports p).portin_sm (s.link p) (s.egress.ports p)
    (t.link p) (t.egress.ports p)
  routing : RoutingMemoryIngress.Alike s.routing t.routing
  sound : s.routing.Sound
  sound_right : t.routing.Sound
  handed : ∃ k, s.ingress.Phase k ∧ RoutingMemoryIngress.Handed k [] s.routing [] t.routing
  ingress : MemoryIngress.Alike s.ingress t.ingress

namespace Rel

variable {s t : NetPath} {i j : NetPathIn}

lemma init : Rel {} {} where
  adapter := ⟨rfl, rfl, rfl⟩
  inStep := rfl
  waiting := fun h => nomatch h
  egress := ⟨fun _ => ⟨fun _ => rfl, fun _ _ h => (nomatch h), rfl⟩, rfl, rfl, rfl, rfl⟩
  sent := fun _ => .init _ _
  routing := ⟨fun _ => ⟨fun _ => rfl, fun h => (nomatch h), rfl, rfl, rfl⟩, rfl⟩
  sound := RoutingMemoryIngress.sound_init
  sound_right := RoutingMemoryIngress.sound_init
  handed := ⟨0, .cmd (by decide) rfl rfl, .init _ _⟩
  ingress := ⟨rfl, rfl, rfl, rfl, rfl, rfl, rfl, rfl⟩

/-! ### The egress side -/

lemma egressIn (h : Rel s t) (hs : SameCommands s i j) :
    s.egress.AlikeIn (s.egressWires i) (t.egressWires j) where
  tvalid := h.adapter.output_q_vld
  tdata := h.waiting
  out_tready := hs.sends

/-- The ready signals differ at most where nobody looks at them. -/
lemma adapter_out_tready_eq (h : Rel s t) (hc : NoResidue s t i)
    (hlook : s.adapter.output_q_vld = true ∨ s.adapter.ocapi_sm = .INPUT_DATAFLIT ∨
      (netCmd i).isSome = true) : s.adapter_out_tready = t.adapter_out_tready := by
  refine h.egress.tready_eq (fun p => (h.sent p).aligned) fun hsm => ?_
  cases hv : s.adapter.output_q_vld with
  | true => exact RoutingEgress.Alike.netid_eq (h.waiting hv hsm)
  | false =>
      refine hc.net_id hv hsm ?_
      rcases hlook with hlook | hlook | hlook
      · rw [hv] at hlook
        cases hlook
      · -- without a flit between them the two modules are in the same state
        have hin := h.inStep
        rw [InStep, hv, if_neg Bool.false_ne_true] at hin
        have hsame : s.adapter.ocapi_sm = s.egress.ocapi_sm := congrArg Prod.fst hin
        rw [hlook, hsm] at hsame
        cases hsame
      · rwa [netCmd, Option.isSome_map] at hlook

lemma netCmd_eq (hs : SameCommands s i j) : netCmd i = netCmd j := by
  rw [netCmd, netCmd, hs.cmd]

lemma takesCmd_eq (h : Rel s t) (hs : SameCommands s i j) (hc : NoResidue s t i) :
    s.adapter.takesCmd (netCmd i) s.adapter_out_tready
      = t.adapter.takesCmd (netCmd j) t.adapter_out_tready := by
  rw [EgressAdapter.takesCmd, EgressAdapter.takesCmd, ← netCmd_eq hs]
  cases hcmd : (netCmd i).isSome with
  | false => rw [Bool.and_false, Bool.and_false]
  | true =>
      rw [EgressAdapter.cmdTready, EgressAdapter.cmdTready, h.adapter.ocapi_sm,
        h.adapter_out_tready_eq hc (.inr (.inr hcmd))]

/-- A flit that is taken by the adapter is of the kind that the routing egress expects next. -/
lemma input_of_ready (h : Rel s t) (i : NetPathIn) (hr : s.adapter_out_tready = true) :
    (s.step i).egress.input = s.adapter.input := by
  have hin := h.inStep
  rw [InStep] at hin
  have hacc : s.egress.accepts (s.egressWires i) = s.adapter.output_q_vld := by
    change (s.adapter_out_tready && s.adapter.output_q_vld) = _
    rw [hr, Bool.true_and]
  rw [hin, ← hacc]
  exact s.egress.input_step (s.egressWires i)

/-- The flit between the adapter and the routing egress after a cycle. -/
lemma waiting_step (h : Rel s t) (hs : SameCommands s i j) (hc : NoResidue s t i)
    (hv : (s.step i).adapter.output_q_vld = true)
    (hsm : (s.step i).egress.ocapi_sm = .INPUT_CMD_RESP) :
    SameCmd (hiHalf (s.step i).adapter.output_q) (hiHalf (t.step j).adapter.output_q) := by
  have htakes := h.takesCmd_eq hs hc
  cases hcmd : s.adapter.takesCmd (netCmd i) s.adapter_out_tready with
  | true =>
      obtain ⟨n, hn, -, -, hstep⟩ := EgressAdapter.step_takesCmd i.data hcmd
      obtain ⟨n', hn', -, -, hstep'⟩ := EgressAdapter.step_takesCmd j.data (htakes.symm.trans hcmd)
      obtain rfl : n = n' := Option.some.inj (hn.symm.trans ((netCmd_eq hs).trans hn'))
      obtain ⟨x, hx, rfl⟩ := Option.map_eq_some_iff.mp hn
      change SameCmd (hiHalf (EgressAdapter.step _ _ _ _).output_q)
        (hiHalf (EgressAdapter.step _ _ _ _).output_q)
      rw [hstep, hstep']
      exact .putCmd (EgressAdapter.plain_ofHost _ _) (hc.length x hx) (hc.stream_id hcmd)
        (hc.page_size hcmd)
  | false =>
      cases hdata : s.adapter.takesData i.data s.adapter_out_tready with
      | true =>
          -- the routing egress expects the data flit that was taken
          obtain ⟨d, -, hdsm, -, -⟩ := EgressAdapter.step_takesData (netCmd i) hdata
          have hr : s.adapter_out_tready = true := by
            simp only [EgressAdapter.takesData, EgressAdapter.dataTready, Bool.and_eq_true] at hdata
            exact hdata.1.1
          have hin := congrArg Prod.fst (h.input_of_ready i hr)
          change (s.step i).egress.ocapi_sm = s.adapter.ocapi_sm at hin
          rw [hsm, hdsm] at hin
          cases hin
      | false =>
          have hstep : (s.step i).adapter = _ := EgressAdapter.step_idle hcmd hdata
          rw [hstep] at hv ⊢
          simp only [Bool.and_eq_true, Bool.not_eq_true'] at hv
          have hready := h.adapter_out_tready_eq hc (.inl hv.1)
          have hdata' : t.adapter.takesData j.data t.adapter_out_tready = false := by
            rw [EgressAdapter.takesData, EgressAdapter.dataTready, ← hready, hv.2]
            rfl
          have hstep' : (t.step j).adapter = _ :=
            EgressAdapter.step_idle (htakes.symm.trans hcmd) hdata'
          have hhold : (s.step i).egress.input = s.egress.input := by
            have hacc : s.egress.accepts (s.egressWires i) = false := by
              change (s.adapter_out_tready && s.adapter.output_q_vld) = false
              rw [hv.2, Bool.false_and]
            have hinput := s.egress.input_step (s.egressWires i)
            rw [hacc, if_neg Bool.false_ne_true] at hinput
            exact hinput
          rw [hstep']
          exact h.waiting hv.1 ((congrArg Prod.fst hhold).symm.trans hsm)

/-! ### The links and the ingress side -/

lemma linkValid_eq (h : Rel s t) (hs : SameCommands s i j) (p : Port) :
    s.linkValid i p = t.linkValid j p := by
  have hlen := (h.sent p).length_eq
  rw [linkValid, linkValid, hs.delivers]
  cases hx : s.link p <;> cases hy : t.link p
  · rfl
  · rw [hx, hy] at hlen
    cases hlen
  · rw [hx, hy] at hlen
    cases hlen
  · rfl

/-- The link of a port that shows a flit. -/
lemma link_cons (h : Rel s t) (hs : SameCommands s i j) {p : Port} (hv : s.linkValid i p = true) :
    ∃ x xs y ys, s.link p = x :: xs ∧ t.link p = y :: ys ∧
      LikeFlit (s.routing.ports p).portin_sm x y ∧
      EgressPort.Sent ((s.routing.ports p).portin_sm.next x) xs (s.egress.ports p) ys
        (t.egress.ports p) := by
  have hv' := (h.linkValid_eq hs p).symm.trans hv
  have hsent := h.sent p
  rw [linkValid] at hv hv'
  cases hx : s.link p with
  | nil => simp [hx] at hv
  | cons x xs =>
      cases hy : t.link p with
      | nil => simp [hy] at hv'
      | cons y ys =>
          rw [hx, hy] at hsent
          obtain ⟨hxy, hrest⟩ := hsent.pop
          exact ⟨x, xs, y, ys, rfl, rfl, hxy, hrest⟩

lemma ingressIn (h : Rel s t) (hs : SameCommands s i j) :
    s.ingress.AlikeIn (s.ingressWires i) (t.ingressWires j) := by
  obtain ⟨k, hphase, hb⟩ := h.handed
  exact
    { active_actag := hs.active_actag
      capptag_fifo_tdata := hs.capptag_fifo_tdata
      capptag_fifo_tvalid := hs.capptag_fifo_tvalid
      netflit_in_tdata := fun hv hsm => hb.tdata_related hv (hphase.eq_zero hsm)
      netflit_in_tvalid := hb.aligned.tvalid_eq
      rty_in_tdata := hs.rty_in_tdata
      rty_in_tvalid := hs.rty_in_tvalid
      enable := hs.enable
      tlx_cmd_tready := hs.tlx_cmd_tready
      tlx_data_tready := hs.tlx_data_tready }

lemma routingIn (h : Rel s t) (hs : SameCommands s i j) :
    s.routing.AlikeIn (s.routingWires i) (t.routingWires j) where
  tvalid := funext (h.linkValid_eq hs)
  tdata p hv := by
    obtain ⟨x, xs, y, ys, hx, hy, hxy, -⟩ := h.link_cons hs hv
    change LikeFlit _ ((s.link p).headD 0) ((t.link p).headD 0)
    rw [hx, hy]
    exact hxy
  out_tready := h.ingress.ready_eq (h.ingressIn hs)

/-- The oldest flit may leave its link, and the routing ingress goes on to the next kind. -/
lemma sent_left (h : Rel s t) (hs : SameCommands s i j) (p : Port) :
    EgressPort.Sent ((s.step i).routing.ports p).portin_sm (s.left i p) (s.egress.ports p)
      (t.left j p) (t.egress.ports p) := by
  have ho : TwoSlot.Aligned s.routing.out t.routing.out :=
    h.handed.elim fun _ hk => hk.2.aligned
  have hin : ((s.step i).routing.ports p).portin_sm
      = if s.linkValid i p && s.routing.route_in_tready p then
          (s.routing.ports p).portin_sm.next ((s.link p).headD 0)
        else (s.routing.ports p).portin_sm := rfl
  rw [hin, left, left, ← h.linkValid_eq hs p, ← h.routing.tready_eq ho]
  cases ht : s.linkValid i p && s.routing.route_in_tready p with
  | false => exact h.sent p
  | true =>
      obtain ⟨x, xs, y, ys, hx, hy, -, hrest⟩ := h.link_cons hs (Bool.and_eq_true_iff.mp ht).1
      rw [hx, hy]
      exact hrest

/-- What the memory ingress waits for after a cycle, and what it is handed. -/
lemma handed_step (h : Rel s t) (hs : SameCommands s i j) (hc : NoResidue s t i) :
    ∃ k, (s.step i).ingress.Phase k ∧
      RoutingMemoryIngress.Handed k [] (s.step i).routing [] (t.step j).routing := by
  obtain ⟨k, hphase, hb⟩ := h.handed
  have hlike : k = 0 → s.routing.out.tvalid = true →
      SameCmd (hiHalf s.routing.out.tdata) (hiHalf t.routing.out.tdata) :=
    fun hk hv => hb.tdata_related hv hk
  have hstep := (h.routing.step h.sound h.sound_right (h.routingIn hs) hb).2
  have hphase' := @MemoryIngress.Phase.step _ (s.ingressWires i) _ hphase hc.enabled
    fun hk hv => (hlike hk hv).dl
  refine ⟨_, hphase', ?_⟩
  rw [TwoSlot.out, TwoSlot.out, ← hb.aligned.tvalid_eq] at hstep
  change RoutingMemoryIngress.Handed (if s.routing.out.tvalid
    && s.ingress.netflit_in_tready (s.ingressWires i) then _ else _) _ _ _ _
  change RoutingMemoryIngress.Handed k (if s.routing.out.tvalid
    && s.ingress.netflit_in_tready (s.ingressWires i) then _ else _) _ (if s.routing.out.tvalid
    && s.ingress.netflit_in_tready (s.ingressWires i) then _ else _) _ at hstep
  cases htaken : s.routing.out.tvalid && s.ingress.netflit_in_tready (s.ingressWires i) with
  | false =>
      rw [htaken] at hstep
      exact hstep
  | true =>
      rw [htaken] at hstep
      exact hstep.pop.2

/-- **One cycle of both runs.** -/
theorem step (h : Rel s t) (hs : SameCommands s i j) (hc : NoResidue s t i) :
    Rel (s.step i) (t.step j) := by
  obtain ⟨k, hphase, hb⟩ := h.handed
  have hin := h.ingressIn hs
  have hrouting := h.routing.step h.sound h.sound_right (h.routingIn hs) hb
  have hegress := h.egress.step (h.egressIn hs) (h.sent_left hs)
  exact
    { adapter := by
        change EgressAdapter.Alike (EgressAdapter.step _ _ _ _) (EgressAdapter.step _ _ _ _)
        rw [← netCmd_eq hs]
        exact h.adapter.step hs.data (h.adapter_out_tready_eq hc)
      inStep := EgressAdapter.inStep_step h.inStep (s.egressWires i) rfl rfl fun n hn => by
        obtain ⟨x, -, rfl⟩ := Option.map_eq_some_iff.mp hn
        exact EgressAdapter.plain_ofHost _ _
      waiting := h.waiting_step hs hc
      egress := hegress.1
      sent := hegress.2
      routing := hrouting.1
      sound := h.sound.step _
      sound_right := h.sound_right.step _
      handed := h.handed_step hs hc
      ingress := h.ingress.step hin }

end Rel

end NetPath

/-- **Commands carry no residue of earlier data.**  In two runs in which the same commands arrive with
the same timing and tags, the same commands go to the TLX and the same records to the command BRAM,
where what the commands keep of the output register of the adapter is the same. -/
theorem no_residue (is : List (NetPathIn × NetPathIn)) (h : netPath.pair.Meets CleanPair is) :
    netPath.collect NetPath.issued (is.map Prod.fst)
        = netPath.collect NetPath.issued (is.map Prod.snd) ∧
      netPath.collect NetPath.recorded (is.map Prod.fst)
        = netPath.collect NetPath.recorded (is.map Prod.snd) := by
  constructor
  · refine netPath.pair_collect_eq (R := NetPath.Rel) .init (fun s t i j hrel hok => ?_) is h
    exact ⟨hrel.step hok.same hok.clean, hrel.ingress.issued_eq (hrel.ingressIn hok.same)⟩
  · refine netPath.pair_collect_eq (R := NetPath.Rel) .init (fun s t i j hrel hok => ?_) is h
    exact ⟨hrel.step hok.same hok.clean, hrel.ingress.recorded_eq⟩

/-! ## A write and a read -/

/-- A cycle in which nothing is held up. -/
def openIn (cmd : Option HostCmd) (data : Option DataFlit) : NetPathIn where
  cmd := cmd.map fun c => (1, c)
  data := data
  sends _ := true
  delivers _ := true
  active_actag := 7
  capptag_fifo_tdata := 9
  capptag_fifo_tvalid := true
  rty_in_tdata := 0
  rty_in_tvalid := false
  enable := true
  tlx_cmd_tready := true
  tlx_data_tready := true

/-- A write with the second data flit `d`, and a read behind it. -/
def writeThenRead (d : DataFlit) : List NetPathIn :=
  [openIn (some ⟨0x81, 0b10, 5, 0, 0, 0x1000⟩) none, openIn none (some 3), openIn none (some d),
    openIn (some ⟨0x20, 0b10, 6, 0, 0, 0x2000⟩) none] ++ List.replicate 11 (openIn none none)

/-- Data that differs in other bits is not seen. -/
theorem no_residue_low_bits :
    netPath.pair.Meets CleanPair ((writeThenRead 0).zip (writeThenRead 255)) ∧
      netPath.collect NetPath.issued (((writeThenRead 0).zip (writeThenRead 255)).map Prod.fst)
        = netPath.collect NetPath.issued (((writeThenRead 0).zip (writeThenRead 255)).map Prod.snd) ∧
      netPath.collect NetPath.recorded (((writeThenRead 0).zip (writeThenRead 255)).map Prod.fst)
        = netPath.collect NetPath.recorded
          (((writeThenRead 0).zip (writeThenRead 255)).map Prod.snd) := by
  have h : netPath.pair.Meets CleanPair ((writeThenRead 0).zip (writeThenRead 255)) := by
    decide +kernel
  exact ⟨h, no_residue _ h⟩

/-- The stream id of the read is taken from the data of the write before it. -/
theorem residue_issued :
    ¬∀ is : List (NetPathIn × NetPathIn),
      netPath.pair.Meets (fun s i => SameCommands s.1 i.1 i.2) is →
      netPath.collect NetPath.issued (is.map Prod.fst)
          = netPath.collect NetPath.issued (is.map Prod.snd) ∧
        netPath.collect NetPath.recorded (is.map Prod.fst)
          = netPath.collect NetPath.recorded (is.map Prod.snd) := by
  intro h
  have hmeets : netPath.pair.Meets (fun s i => SameCommands s.1 i.1 i.2)
      ((writeThenRead 0).zip (writeThenRead (1 <<< 339))) := by decide +kernel
  have hdiffer : netPath.collect NetPath.issued
        (((writeThenRead 0).zip (writeThenRead (1 <<< 339))).map Prod.fst)
      ≠ netPath.collect NetPath.issued
        (((writeThenRead 0).zip (writeThenRead (1 <<< 339))).map Prod.snd) := by decide +kernel
  exact hdiffer (h _ hmeets).1

end ThymesisFlow
