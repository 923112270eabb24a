import ThymesisFlow.Lib.Machine
import ThymesisFlow.Routing.EgressPort

/-!
# The routing layer, egress: every transaction to its port

`RoutingEgress.Inv` ties the two ports (`EgressPort.Inv`) to the state machine of the input;
`Inv.step` says what a cycle adds to a port and what it hands over.  On top of it stands a stream
of transactions: `EgressRest` is what is left of it, `egress_routed` what comes out.
-/

namespace ThymesisFlow

namespace RoutingEgress

variable {s : RoutingEgress} {i : RoutingEgressIn}

/-- The register for what the input accepts next, as seen from a port. -/
def tail (s : RoutingEgress) (p : Port) : EgrSm :=
  if s.ocapi_sm = .INPUT_DATAFLIT ∧ s.next_data_interface_id = p then
    if s.dflit_size = 2 then .DATA0_HIGH else .DATA1_HIGH
  else .CMD

/-- The state machine of the input, when data flits come in pairs. -/
def InputOk (s : RoutingEgress) : Prop :=
  (s.ocapi_sm = .INPUT_CMD_RESP ∧ s.dflit_size = 0) ∨
    (s.ocapi_sm = .INPUT_DATAFLIT ∧ (s.dflit_size = 2 ∨ s.dflit_size = 1))

/-- **The invariant of the module.**  `held` is the flit that stays at the input; `pend` is what
the ports have taken over and not handed over. -/
structure Inv (s : RoutingEgress) (held : Option Flit512) (pend : Port → List Flit) : Prop where
  input : s.InputOk
  port : ∀ p, ∃ early, (s.ports p).Inv (pend p) (s.tail p) early ∧
    (early = [] ∨ ∃ f, held = some f ∧ early = [hiHalf f])

/-- What a cycle adds to a port. -/
def entering (s : RoutingEgress) (i : RoutingEgressIn) (p : Port) : List Flit :=
  if s.accepts i then
    match s.ocapi_sm with
    | .INPUT_CMD_RESP =>
        if s.next_cmd_interface_id i.egr_route_in_tdata = p then [hiHalf i.egr_route_in_tdata]
        else []
    | .INPUT_DATAFLIT =>
        if s.next_data_interface_id = p then
          [hiHalf i.egr_route_in_tdata, loHalf i.egr_route_in_tdata]
        else []
  else []

lemma inv_init : Inv {} none fun _ => [] where
  input := .inl ⟨rfl, rfl⟩
  port := fun _ => ⟨[], EgressPort.inv_init, .inl rfl⟩

/-! ## The input expects a command -/

section Cmd

variable (hsm : s.ocapi_sm = .INPUT_CMD_RESP) (hsize : s.dflit_size = 0)
include hsm hsize

lemma accepts_cmd (i : RoutingEgressIn) : s.accepts i
    = ((s.ports (s.next_cmd_interface_id i.egr_route_in_tdata)).room .CMD
      && i.egr_route_in_tvalid) := by
  simp [accepts, egr_route_in_tready, input_is_cmd, input_is_data0, input_is_data1, hsm, hsize,
    bit]

lemma load_cmd (i : RoutingEgressIn) (p : Port) : s.load i p
    = if s.next_cmd_interface_id i.egr_route_in_tdata = p ∧ i.egr_route_in_tvalid then
        EgressPort.offerCmd (hiHalf i.egr_route_in_tdata)
      else fun _ => none := by
  funext r
  cases r <;> simp [load, input_is_cmd, input_is_data0, input_is_data1, hsm, hsize, bit,
    EgressPort.offerCmd, Function.update, apply_ite, ite_apply]

omit hsize in
lemma tail_cmd (p : Port) : s.tail p = .CMD := by
  simp [tail, hsm]

end Cmd

/-! ## The input expects data -/

section Data

variable (hsm : s.ocapi_sm = .INPUT_DATAFLIT) (hsize : s.dflit_size = 2 ∨ s.dflit_size = 1)
include hsm hsize

lemma tail_high : (s.tail s.next_data_interface_id).isHigh = true := by
  rcases hsize with h | h <;> simp [tail, hsm, h, EgrSm.isHigh]

lemma accepts_data (i : RoutingEgressIn) : s.accepts i
    = ((s.ports s.next_data_interface_id).room (s.tail s.next_data_interface_id).low
      && i.egr_route_in_tvalid) := by
  rcases hsize with h | h <;>
    simp [accepts, egr_route_in_tready, input_is_cmd, input_is_data0, input_is_data1, hsm, h, bit,
      tail, EgrSm.low]

lemma load_data (i : RoutingEgressIn) (p : Port) : s.load i p
    = if s.next_data_interface_id = p ∧ i.egr_route_in_tvalid then
        EgressPort.offerData (s.tail p) (hiHalf i.egr_route_in_tdata) (loHalf i.egr_route_in_tdata)
      else fun _ => none := by
  funext r
  by_cases hp : s.next_data_interface_id = p
  · rcases hsize with h | h <;> cases r <;>
      simp [load, input_is_cmd, input_is_data0, input_is_data1, hsm, h, hp, bit, tail, EgrSm.low,
        EgressPort.offerData, Function.update, ite_apply]
  · cases r <;> simp [load, input_is_cmd, hsm, hp]

end Data

/-! ## One cycle -/

/-- The flit that stays at the input after a cycle. -/
def heldAfter (s : RoutingEgress) (i : RoutingEgressIn) : Option Flit512 :=
  if i.egr_route_in_tvalid && !s.accepts i then some i.egr_route_in_tdata else none

/-- What the module may be offered: what was not accepted stays, and data flits come in pairs. -/
structure Offered (s : RoutingEgress) (held : Option Flit512) (i : RoutingEgressIn) : Prop where
  stays : ∀ f, held = some f → i.egr_route_in_tvalid = true ∧ i.egr_route_in_tdata = f
  pairs : s.accepts i = true → s.ocapi_sm = .INPUT_CMD_RESP →
    egrHasData i.egr_route_in_tdata = true → egrDl i.egr_route_in_tdata = 2

/-- A port after a cycle. -/
def PortAfter (s : RoutingEgress) (i : RoutingEgressIn) (pend : List Flit) (p : Port) : Prop :=
  ∃ pend' early, ((s.step i).ports p).Inv pend' ((s.step i).tail p) early ∧
    (early = [] ∨ ∃ f, s.heldAfter i = some f ∧ early = [hiHalf f]) ∧
    emitted p s i ++ pend' = pend ++ s.entering i p

lemma early_of_cmd {held : Option Flit512} {pend : List Flit} {early : List Flit} {p : Port}
    (h : (s.ports p).Inv pend (s.tail p) early) (htail : s.tail p = .CMD)
    (he : early = [] ∨ ∃ f, held = some f ∧ early = [hiHalf f]) : early = [] := by
  rcases he with rfl | ⟨f, -, rfl⟩
  · rfl
  · have hhigh := (h.early_low (List.cons_ne_nil _ _)).1
    rw [htail] at hhigh
    cases hhigh

lemma port_cmd (hsm : s.ocapi_sm = .INPUT_CMD_RESP) (hsize : s.dflit_size = 0)
    (hpairs : s.accepts i = true → egrHasData i.egr_route_in_tdata = true →
      egrDl i.egr_route_in_tdata = 2) {p : Port} {pend : List Flit}
    (h : (s.ports p).Inv pend .CMD []) : PortAfter s i pend p := by
  have hacc := accepts_cmd hsm hsize i
  have hload := load_cmd hsm hsize i p
  obtain ⟨pend', hfwd, hout⟩ := h.forward (s.load i p) (i.egr_route_out_tready p)
  have hports : (s.step i).ports p = (s.ports p).step (s.load i p) (i.egr_route_out_tready p) := rfl
  by_cases hp : s.next_cmd_interface_id i.egr_route_in_tdata = p ∧ i.egr_route_in_tvalid = true
  · obtain ⟨hp, hv⟩ := hp
    rw [hp, hv, Bool.and_true] at hacc
    rw [if_pos ⟨hp, hv⟩] at hload
    rw [hload] at hfwd hports
    have hcmd := hfwd.cmd
    cases hr : (s.ports p).room .CMD with
    | true =>
        rw [hr, if_pos rfl] at hcmd
        rw [hr] at hacc
        -- what follows depends on whether the command announces data
        have htail : (s.step i).tail p = EgrSm.CMD.next (hiHalf i.egr_route_in_tdata) := by
          rw [EgrSm.next, hasData_hiHalf]
          cases hd : egrHasData i.egr_route_in_tdata
          · simp [tail, step, hsm, hacc, hd]
          · have hdl := hpairs hacc hd
            simp [tail, step, hsm, hacc, hd, hp, hdl, dflitSize, bit]
        rw [PortAfter, hports, htail]
        refine ⟨_, [], hcmd, .inl rfl, ?_⟩
        rw [entering, hacc, if_pos rfl, hsm, ← List.append_assoc]
        simp only [hp, if_true]
        exact congrArg (· ++ [_]) hout
    | false =>
        rw [hr, if_neg Bool.false_ne_true] at hcmd
        rw [hr] at hacc
        have htail : (s.step i).tail p = .CMD := by simp [tail, step, hsm, hacc]
        rw [PortAfter, hports, htail]
        refine ⟨_, [], hcmd, .inl rfl, ?_⟩
        rw [entering, hacc, if_neg Bool.false_ne_true, List.append_nil]
        exact hout
  · rw [if_neg hp] at hload
    rw [hload] at hfwd hports
    have hne : s.accepts i = true → s.next_cmd_interface_id i.egr_route_in_tdata ≠ p :=
      fun ha he => hp ⟨he, by rw [hacc] at ha; exact (Bool.and_eq_true_iff.mp ha).2⟩
    have htail : (s.step i).tail p = .CMD := by
      cases ha : s.accepts i
      · simp [tail, step, hsm, ha]
      · cases hd : egrHasData i.egr_route_in_tdata <;> simp [tail, step, hsm, ha, hd, hne ha]
    have hnone : s.entering i p = [] := by
      rw [entering]
      cases ha : s.accepts i
      · rfl
      · simp [hsm, hne ha]
    rw [PortAfter, hports, htail, hnone]
    exact ⟨pend', [], hfwd.idle, .inl rfl, by rw [List.append_nil]; exact hout⟩

/-- The register for the flit after an accepted data flit. -/
lemma tail_step_data (hsm : s.ocapi_sm = .INPUT_DATAFLIT)
    (hsize : s.dflit_size = 2 ∨ s.dflit_size = 1) :
    (s.step i).tail s.next_data_interface_id
      = if s.accepts i then (s.tail s.next_data_interface_id).afterData
        else s.tail s.next_data_interface_id := by
  rcases hsize with h | h <;> cases ha : s.accepts i <;>
    simp [tail, step, hsm, h, ha, EgrSm.afterData]

lemma tail_step_other (hsm : s.ocapi_sm = .INPUT_DATAFLIT) {p : Port}
    (hp : s.next_data_interface_id ≠ p) : (s.step i).tail p = .CMD := by
  simp [tail, step, hsm, hp]

lemma port_data (hsm : s.ocapi_sm = .INPUT_DATAFLIT)
    (hsize : s.dflit_size = 2 ∨ s.dflit_size = 1) {held : Option Flit512}
    (hstays : ∀ f, held = some f → i.egr_route_in_tvalid = true ∧ i.egr_route_in_tdata = f)
    {p : Port} {pend early : List Flit} (h : (s.ports p).Inv pend (s.tail p) early)
    (hearly : early = [] ∨ ∃ f, held = some f ∧ early = [hiHalf f]) : PortAfter s i pend p := by
  have hacc := accepts_data hsm hsize i
  have hload := load_data hsm hsize i p
  obtain ⟨pend', hfwd, hout⟩ := h.forward (s.load i p) (i.egr_route_out_tready p)
  have hports : (s.step i).ports p = (s.ports p).step (s.load i p) (i.egr_route_out_tready p) := rfl
  by_cases hp : s.next_data_interface_id = p
  · subst hp
    have htail := tail_step_data (i := i) hsm hsize
    cases hv : i.egr_route_in_tvalid with
    | true =>
        rw [hv, Bool.and_true] at hacc
        rw [if_pos ⟨rfl, hv⟩] at hload
        rw [hload] at hfwd hports
        have hearly' : early = [] ∨ early = [hiHalf i.egr_route_in_tdata] :=
          hearly.imp_right fun ⟨f, hf, he⟩ => by rw [he, (hstays f hf).2]
        have hdata := hfwd.data (tail_high hsm hsize) hearly'
        rw [← hacc] at hdata
        cases ha : s.accepts i with
        | true =>
            rw [ha, if_pos rfl] at hdata
            rw [ha, if_pos rfl] at htail
            rw [PortAfter, hports, htail]
            refine ⟨_, [], hdata, .inl rfl, ?_⟩
            rw [entering, ha, if_pos rfl, hsm, ← List.append_assoc]
            simp only [if_true]
            exact congrArg (· ++ [_, _]) hout
        | false =>
            rw [ha, if_neg Bool.false_ne_true] at hdata
            rw [ha, if_neg Bool.false_ne_true] at htail
            obtain ⟨early', he, hinv⟩ := hdata
            rw [PortAfter, hports, htail]
            refine ⟨_, early', hinv, he.imp_right fun he => ⟨_, ?_, he⟩, ?_⟩
            · rw [heldAfter, hv, ha]
              rfl
            · rw [entering, ha, if_neg Bool.false_ne_true, List.append_nil]
              exact hout
    | false =>
        have ha : s.accepts i = false := by rw [hacc, hv, Bool.and_false]
        have hnil : early = [] := by
          rcases hearly with he | ⟨f, hf, -⟩
          · exact he
          · exact absurd (hv.symm.trans (hstays f hf).1) Bool.false_ne_true
        subst hnil
        rw [if_neg (fun hc => by rw [hv] at hc; exact Bool.false_ne_true hc.2)] at hload
        rw [hload] at hfwd hports
        rw [ha, if_neg Bool.false_ne_true] at htail
        rw [PortAfter, hports, htail]
        refine ⟨_, [], hfwd.idle, .inl rfl, ?_⟩
        rw [entering, ha, if_neg Bool.false_ne_true, List.append_nil]
        exact hout
  · have hcmd : s.tail p = .CMD := by simp [tail, hp]
    obtain rfl := early_of_cmd h hcmd hearly
    rw [if_neg fun hc => hp hc.1] at hload
    rw [hload] at hfwd hports
    rw [hcmd] at hfwd
    rw [PortAfter, hports, tail_step_other hsm hp]
    refine ⟨pend', [], hfwd.idle, .inl rfl, ?_⟩
    have hnone : s.entering i p = [] := by
      rw [entering, hsm]
      cases s.accepts i <;> simp [hp]
    rw [hnone, List.append_nil]
    exact hout

/-- The state machine of the input after a cycle. -/
lemma inputOk_step {held : Option Flit512} (h : s.InputOk) (hi : s.Offered held i) :
    (s.step i).InputOk := by
  rcases h with ⟨hsm, hsize⟩ | ⟨hsm, hsize⟩
  · cases ha : s.accepts i with
    | false => exact .inl (by simp [step, hsm, ha, hsize])
    | true =>
        cases hd : egrHasData i.egr_route_in_tdata with
        | false => exact .inl (by simp [step, hsm, ha, hd, hsize])
        | true =>
            have hdl := hi.pairs ha hsm hd
            exact .inr (by simp [step, hsm, ha, hd, hdl, dflitSize, bit])
  · cases ha : s.accepts i with
    | false => exact .inr (by simpa [step, hsm, ha] using hsize)
    | true =>
        rcases hsize with h2 | h1
        · exact .inr (by simp [step, hsm, ha, h2])
        · exact .inl (by simp [step, hsm, ha, h1])

/-- **One cycle of the module.** -/
theorem Inv.step {held : Option Flit512} {pend : Port → List Flit} (h : Inv s held pend)
    (hi : s.Offered held i) :
    ∃ pend', Inv (s.step i) (s.heldAfter i) pend' ∧
      ∀ p, emitted p s i ++ pend' p = pend p ++ s.entering i p := by
  have hport : ∀ p, PortAfter s i (pend p) p := by
    intro p
    obtain ⟨early, hp, hearly⟩ := h.port p
    rcases h.input with ⟨hsm, hsize⟩ | ⟨hsm, hsize⟩
    · have hcmd := tail_cmd hsm p
      obtain rfl := early_of_cmd hp hcmd hearly
      rw [hcmd] at hp
      exact port_cmd hsm hsize (fun ha => hi.pairs ha hsm) hp
    · exact port_data hsm hsize hi.stays hp hearly
  choose pend' early hinv hearly hout using hport
  exact ⟨pend', ⟨inputOk_step h.input hi, fun p => ⟨early p, hinv p, hearly p⟩⟩, hout⟩

/-! ## Idle ports -/

/-- A flit of the port `p` is forwarded into its ping-pong buffer. -/
def forwards (s : RoutingEgress) (p : Port) : Bool :=
  (s.ports p).ping_pong_ready && ((s.ports p).regs (s.ports p).port_sm).isSome

/-- The flits in the buffer of a port. -/
lemma Inv.count_step {held : Option Flit512} {pend : Port → List Flit} (h : Inv s held pend)
    (i : RoutingEgressIn) (p : Port) :
    ((s.step i).ports p).out.count + (emitted p s i).length
      = (s.ports p).out.count + (s.forwards p).toNat := by
  obtain ⟨early, hp, -⟩ := h.port p
  obtain ⟨q, ys, -, hq, -⟩ := hp.held
  exact hq.count_step _ _

lemma Inv.count_le {held : Option Flit512} {pend : Port → List Flit} (h : Inv s held pend)
    (p : Port) : (s.ports p).out.count ≤ (pend p).length := by
  obtain ⟨early, hp, -⟩ := h.port p
  exact hp.count_le

/-- The flit that a port shows is the next one of what it has taken over. -/
lemma Inv.shows {held : Option Flit512} {pend : Port → List Flit} (h : Inv s held pend) {p : Port}
    (hv : (s.ports p).out.tvalid = true) : ∃ rest, pend p = (s.ports p).out.tdata :: rest := by
  obtain ⟨early, hp, -⟩ := h.port p
  obtain ⟨q, ys, hpend, hq, -⟩ := hp.held
  rw [hq.tvalid_eq] at hv
  cases q with
  | nil => cases hv
  | cons f q =>
      rw [hpend, ← hq.tdata_eq]
      exact ⟨q ++ ys, rfl⟩

/-- A port that could hand over a flit, and neither does nor forwards one, is empty. -/
lemma Inv.quiet {held : Option Flit512} {pend : Port → List Flit} (h : Inv s held pend) {p : Port}
    (hready : i.egr_route_out_tready p = true) (hemit : emitted p s i = [])
    (hfwd : s.forwards p = false) : pend p = [] ∧ ∀ r, (s.ports p).room r = true := by
  obtain ⟨early, hp, -⟩ := h.port p
  have hout : (s.ports p).out.out true = [] := by
    rw [← hready]
    exact hemit
  refine hp.quiet hout ?_
  obtain ⟨q, ys, -, hq, -⟩ := hp.held
  have hpp : (s.ports p).ping_pong_ready = true := by
    rw [hq.out_eq, if_pos rfl] at hout
    refine hq.ready_iff.mpr ?_
    cases q with
    | nil => exact Nat.zero_lt_two
    | cons x q => cases hout
  rw [forwards, hpp, Bool.true_and] at hfwd
  exact Option.not_isSome_iff_eq_none.mp (by rw [hfwd]; exact Bool.false_ne_true)

/-- With empty registers the input is ready. -/
lemma Inv.tready {held : Option Flit512} {pend : Port → List Flit} (h : Inv s held pend)
    (hroom : ∀ p r, (s.ports p).room r = true) (tdata : Flit512) :
    s.egr_route_in_tready tdata = true := by
  rcases h.input with ⟨hsm, hsize⟩ | ⟨hsm, hsize⟩
  · simp [egr_route_in_tready, input_is_cmd, hsm, hroom]
  · rcases hsize with h2 | h1
    · simp [egr_route_in_tready, input_is_data0, h2, hroom, bit]
    · simp [egr_route_in_tready, input_is_data1, h1, hroom, bit]

/-- What enters is at one port. -/
lemma entering_ne_nil (ha : s.accepts i = true) : ∃ p, s.entering i p ≠ [] := by
  cases hsm : s.ocapi_sm with
  | INPUT_CMD_RESP =>
      exact ⟨s.next_cmd_interface_id i.egr_route_in_tdata, by simp [entering, ha, hsm]⟩
  | INPUT_DATAFLIT => exact ⟨s.next_data_interface_id, by simp [entering, ha, hsm]⟩

end RoutingEgress

/-! ## Transactions -/

/-- A transaction in 64 byte flits: a command or response without data, or one with two flits. -/
inductive EgrTxn
  | short (hdr : Flit512) (known : egrHasData hdr = false)
  | long (hdr d0 d1 : Flit512) (known : egrHasData hdr = true) (dl : egrDl hdr = 2)

namespace EgrTxn

def hdr : EgrTxn → Flit512
  | short hdr _ => hdr
  | long hdr .. => hdr

/-- The data flits. -/
def data : EgrTxn → List Flit512
  | short .. => []
  | long _ d0 d1 _ _ => [d0, d1]

/-- The transaction on its port. -/
def halves (t : EgrTxn) : List Flit :=
  hiHalf t.hdr :: t.data.flatMap fun d => [hiHalf d, loHalf d]

end EgrTxn

/-- A stream of transactions. -/
def egrStream (ts : List EgrTxn) : List Flit512 := ts.flatMap fun t => t.hdr :: t.data

/-- The port that a command is for, when it is the turn of the port `turn`. -/
def egrPort (turn : Port) (hdr : Flit512) : Port :=
  if bit hdr 291 && bit hdr 292 then turn else if bit hdr 291 then .port0 else .port1

/-- `on p turn ts` are those of `ts` that are for the port `p`; the turns alternate from one to the
next. -/
structure DealtByTurns {α : Type} (port : Port → α → Port) (on : Port → Port → List α → List α) : Prop where
  nil : ∀ p turn, on p turn [] = []
  cons : ∀ p turn t ts, on p turn (t :: ts)
    = if port turn t = p then t :: on p turn.other ts else on p turn.other ts

namespace DealtByTurns

variable {α : Type} {port : Port → α → Port} {on : Port → Port → List α → List α}

/-- Each of them is for one of the ports. -/
lemma perm (h : DealtByTurns port on) (turn : Port) (ts : List α) :
    (on .port0 turn ts ++ on .port1 turn ts).Perm ts := by
  induction ts generalizing turn with
  | nil =>
      rw [h.nil, h.nil]
      exact .nil
  | cons t ts ih =>
      rw [h.cons, h.cons]
      cases port turn t with
      | port0 =>
          rw [if_pos rfl, if_neg (by decide), List.cons_append]
          exact (ih turn.other).cons t
      | port1 =>
          rw [if_neg (by decide), if_pos rfl]
          exact List.perm_middle.trans ((ih turn.other).cons t)

lemma mem (h : DealtByTurns port on) {p turn : Port} {ts : List α} {t : α} (ht : t ∈ on p turn ts) :
    t ∈ ts := by
  refine (h.perm turn ts).subset ?_
  cases p with
  | port0 => exact List.mem_append_left _ ht
  | port1 => exact List.mem_append_right _ ht

end DealtByTurns

/-- The transactions for the port `p`; the turns alternate from one command to the next. -/
def portTxns (p : Port) : Port → List EgrTxn → List EgrTxn
  | _, [] => []
  | turn, t :: ts =>
      if egrPort turn t.hdr = p then t :: portTxns p turn.other ts else portTxns p turn.other ts

/-- What is expected of the port `p`. -/
def portStream (p turn : Port) (ts : List EgrTxn) : List Flit :=
  (portTxns p turn ts).flatMap EgrTxn.halves

lemma portStream_cons (p turn : Port) (t : EgrTxn) (ts : List EgrTxn) :
    portStream p turn (t :: ts)
      = (if egrPort turn t.hdr = p then t.halves else []) ++ portStream p turn.other ts := by
  rw [portStream, portTxns]
  split_ifs <;> rfl

lemma portTxns_dealt : DealtByTurns (fun turn t => egrPort turn t.hdr) portTxns :=
  ⟨fun _ _ => rfl, fun _ _ _ _ => rfl⟩

/-- What is left of a stream of transactions (`EgressRest s rest todo`: the flits that have not
been accepted, and what they are on the ports). -/
inductive EgressRest (s : RoutingEgress) : List Flit512 → (Port → List Flit) → Prop
  | cmd {ts : List EgrTxn} (hsm : s.ocapi_sm = .INPUT_CMD_RESP) (hsize : s.dflit_size = 0) :
      EgressRest s (egrStream ts) fun p => portStream p s.output_turn ts
  | data0 {d0 d1 : Flit512} {ts : List EgrTxn} (hsm : s.ocapi_sm = .INPUT_DATAFLIT)
      (hsize : s.dflit_size = 2) :
      EgressRest s (d0 :: d1 :: egrStream ts) fun p =>
        (if s.next_data_interface_id = p then [hiHalf d0, loHalf d0, hiHalf d1, loHalf d1] else [])
          ++ portStream p s.output_turn ts
  | data1 {d1 : Flit512} {ts : List EgrTxn} (hsm : s.ocapi_sm = .INPUT_DATAFLIT)
      (hsize : s.dflit_size = 1) :
      EgressRest s (d1 :: egrStream ts) fun p =>
        (if s.next_data_interface_id = p then [hiHalf d1, loHalf d1] else [])
          ++ portStream p s.output_turn ts

namespace EgressRest

variable {s : RoutingEgress} {i : RoutingEgressIn} {rest : List Flit512} {todo : Port → List Flit}

/-- A cycle that accepts nothing. -/
lemma idle (h : EgressRest s rest todo) (ha : s.accepts i = false) :
    EgressRest (s.step i) rest todo := by
  have hturn : (s.step i).output_turn = s.output_turn := by simp [RoutingEgress.step, ha]
  cases h with
  | cmd hsm hsize =>
      rw [← hturn]
      exact .cmd (by simp [RoutingEgress.step, hsm, ha]) (by simp [RoutingEgress.step, hsm, ha, hsize])
  | data0 hsm hsize =>
      have hnext : (s.step i).next_data_interface_id = s.next_data_interface_id := by
        simp [RoutingEgress.step, hsm]
      rw [← hturn, ← hnext]
      exact .data0 (by simp [RoutingEgress.step, hsm, ha]) (by simp [RoutingEgress.step, hsm, ha, hsize])
  | data1 hsm hsize =>
      have hnext : (s.step i).next_data_interface_id = s.next_data_interface_id := by
        simp [RoutingEgress.step, hsm]
      rw [← hturn, ← hnext]
      exact .data1 (by simp [RoutingEgress.step, hsm, ha]) (by simp [RoutingEgress.step, hsm, ha, hsize])

/-- Accepting the next flit of the stream. -/
lemma accept (h : EgressRest s (i.egr_route_in_tdata :: rest) todo) (ha : s.accepts i = true) :
    ∃ todo', EgressRest (s.step i) rest todo' ∧ ∀ p, s.entering i p ++ todo' p = todo p := by
  generalize hflits : i.egr_route_in_tdata :: rest = flits at h
  cases h with
  | @cmd ts hsm hsize =>
      have hturn : (s.step i).output_turn = s.output_turn.other := by
        simp [RoutingEgress.step, RoutingEgress.input_is_cmd, hsm, ha]
      cases ts with
      | nil => cases hflits
      | cons t ts =>
          cases t with
          | short hdr known =>
              obtain ⟨hhdr, rfl⟩ := List.cons.inj hflits
              refine ⟨_, .cmd ?_ ?_, fun p => ?_⟩
              · simp [RoutingEgress.step, hsm, ha, hhdr, EgrTxn.hdr, known]
              · simp [RoutingEgress.step, hsm, ha, hhdr, EgrTxn.hdr, known, hsize]
              · change _ = portStream p s.output_turn (_ :: ts)
                rw [portStream_cons, hturn, RoutingEgress.entering, ha, if_pos rfl, hsm, hhdr]
                rfl
          | long hdr d0 d1 known dl =>
              obtain ⟨hhdr, rfl⟩ := List.cons.inj hflits
              refine ⟨_, .data0 ?_ ?_, fun p => ?_⟩
              · simp [RoutingEgress.step, hsm, ha, hhdr, EgrTxn.hdr, known]
              · simp [RoutingEgress.step, hsm, ha, hhdr, EgrTxn.hdr, known, dl, dflitSize, bit]
              · have hnext : (s.step i).next_data_interface_id = egrPort s.output_turn hdr := by
                  simp [RoutingEgress.step, hsm, ha, hhdr, EgrTxn.hdr, known,
                    RoutingEgress.next_cmd_interface_id, egrPort]
                change _ = portStream p s.output_turn (_ :: ts)
                rw [portStream_cons, hturn, hnext, RoutingEgress.entering, ha, if_pos rfl, hsm, hhdr]
                change (if egrPort s.output_turn hdr = p then _ else _) ++ _
                  = (if egrPort s.output_turn hdr = p then _ else _) ++ _
                by_cases hp : egrPort s.output_turn hdr = p
                · simp only [hp, if_true]
                  rfl
                · simp only [hp, if_false]
                  rfl
  | data0 hsm hsize =>
      obtain ⟨hd, rfl⟩ := List.cons.inj hflits
      have hturn : (s.step i).output_turn = s.output_turn := by
        simp [RoutingEgress.step, RoutingEgress.input_is_cmd, hsm]
      have hnext : (s.step i).next_data_interface_id = s.next_data_interface_id := by
        simp [RoutingEgress.step, hsm]
      refine ⟨_, .data1 ?_ ?_, fun p => ?_⟩
      · simp [RoutingEgress.step, hsm, hsize]
      · simp [RoutingEgress.step, hsm, ha, hsize]
      · rw [hturn, hnext, RoutingEgress.entering, ha, if_pos rfl, hsm, hd]
        by_cases hp : s.next_data_interface_id = p <;> simp [hp]
  | data1 hsm hsize =>
      obtain ⟨hd, rfl⟩ := List.cons.inj hflits
      have hturn : (s.step i).output_turn = s.output_turn := by
        simp [RoutingEgress.step, RoutingEgress.input_is_cmd, hsm]
      refine ⟨_, .cmd ?_ ?_, fun p => ?_⟩
      · simp [RoutingEgress.step, hsm, ha, hsize]
      · simp [RoutingEgress.step, hsm, ha, hsize]
      · rw [hturn, RoutingEgress.entering, ha, if_pos rfl, hsm, hd]

/-- The next flit of the stream is a command with two data flits, if it has any. -/
lemma pairs (h : EgressRest s rest todo) {f : Flit512} (hf : rest.head? = some f)
    (hsm : s.ocapi_sm = .INPUT_CMD_RESP) (hd : egrHasData f = true) : egrDl f = 2 := by
  cases h with
  | @cmd ts =>
      cases ts with
      | nil => cases hf
      | cons t ts =>
          obtain rfl : t.hdr = f := Option.some.inj hf
          cases t with
          | short hdr known => exact absurd (known.symm.trans hd) Bool.false_ne_true
          | long hdr d0 d1 known dl => exact dl
  | data0 hdata => rw [hdata] at hsm; cases hsm
  | data1 hdata => rw [hdata] at hsm; cases hsm

/-- Nothing is left for the ports at the end of the stream. -/
lemma todo_nil (h : EgressRest s [] todo) (p : Port) : todo p = [] := by
  generalize hr : ([] : List Flit512) = rest at h
  cases h with
  | @cmd ts =>
      cases ts with
      | nil => rfl
      | cons t ts => cases hr
  | data0 => cases hr
  | data1 => cases hr

end EgressRest

/-! ## The module between a stream and its two ports -/

/-- The module, what is left of the stream, and whether its next flit is on offer already. -/
structure EgressFeed where
  egress : RoutingEgress := {}
  stream : List Flit512
  held : Bool := false

/-- The timing of one cycle: whether the next flit is offered, what is at the input otherwise, and
which ports take a flit. -/
structure EgressFeedIn where
  offer : Bool
  idle : Flit512
  egr_route_out_tready : Port → Bool

namespace EgressFeed

variable (s : EgressFeed) (i : EgressFeedIn)

def tvalid : Bool := (s.held || i.offer) && !s.stream.isEmpty

def wires : RoutingEgressIn where
  egr_route_in_tdata := if s.tvalid i then s.stream.headD 0 else i.idle
  egr_route_in_tvalid := s.tvalid i
  egr_route_out_tready := i.egr_route_out_tready

/-- A flit that is offered and not accepted stays at the input. -/
def step : EgressFeed where
  egress := s.egress.step (s.wires i)
  stream := if s.egress.accepts (s.wires i) then s.stream.tail else s.stream
  held := s.tvalid i && !s.egress.accepts (s.wires i)

/-- The flit handed over at a port in a cycle. -/
def emitted (p : Port) (s : EgressFeed) (i : EgressFeedIn) : List Flit :=
  RoutingEgress.emitted p s.egress (s.wires i)

end EgressFeed

/-- The module at reset with a stream of transactions in front of it. -/
def egressFeed (ts : List EgrTxn) : Machine EgressFeed EgressFeedIn where
  init := { stream := egrStream ts }
  step := EgressFeed.step

/-- What a run hands over at a port. -/
def egressOut (ts : List EgrTxn) (p : Port) (is : List EgressFeedIn) : List Flit :=
  (egressFeed ts).collect (EgressFeed.emitted p) is

/-- The next flit is on offer and both ports take what comes. -/
def EgressFeedIn.go : EgressFeedIn := ⟨true, 0, fun _ => true⟩

namespace EgressFeed

/-- The flit that stays at the input. -/
def heldFlit (s : EgressFeed) : Option Flit512 := if s.held then s.stream.head? else none

/-- **The invariant of a run**: what is out, in the module and still to come is what is expected of
each port. -/
structure Inv (ts : List EgrTxn) (s : EgressFeed) (out pend todo : Port → List Flit) : Prop where
  egress : s.egress.Inv s.heldFlit pend
  rest : EgressRest s.egress s.stream todo
  total : ∀ p, out p ++ (pend p ++ todo p) = portStream p .port0 ts

lemma inv_init (ts : List EgrTxn) :
    Inv ts (egressFeed ts).init (fun _ => []) (fun _ => []) fun p => portStream p .port0 ts where
  egress := RoutingEgress.inv_init
  rest := .cmd rfl rfl
  total := fun _ => rfl

variable {ts : List EgrTxn} {s : EgressFeed} {out pend todo : Port → List Flit}

/-- A valid flit is the next one of the stream. -/
lemma stream_of_tvalid {i : EgressFeedIn} (hv : s.tvalid i = true) :
    ∃ rest, s.stream = (s.wires i).egr_route_in_tdata :: rest := by
  cases hs : s.stream with
  | nil => simp [tvalid, hs] at hv
  | cons f rest => exact ⟨rest, by simp [wires, hv, hs]⟩

/-- The wires respect what the module may be offered. -/
lemma Inv.offered (h : Inv ts s out pend todo) (i : EgressFeedIn) :
    s.egress.Offered s.heldFlit (s.wires i) := by
  refine ⟨fun f hf => ?_, fun ha hsm hd => ?_⟩
  · rw [heldFlit] at hf
    split_ifs at hf with hheld
    have hv : s.tvalid i = true := by
      cases hs : s.stream with
      | nil => rw [hs] at hf; cases hf
      | cons f rest => simp [tvalid, hheld, hs]
    obtain ⟨rest, hs⟩ := stream_of_tvalid hv
    rw [hs] at hf
    exact ⟨hv, Option.some.inj hf⟩
  · obtain ⟨rest, hs⟩ := stream_of_tvalid (Bool.and_eq_true_iff.mp ha).2
    exact h.rest.pairs (by rw [hs]; rfl) hsm hd

/-- **One cycle of a run.** -/
theorem Inv.step (h : Inv ts s out pend todo) (i : EgressFeedIn) :
    ∃ pend' todo', Inv ts (s.step i) (fun p => out p ++ emitted p s i) pend' todo' ∧
      ∀ p, emitted p s i ++ pend' p = pend p ++ s.egress.entering (s.wires i) p ∧
        s.egress.entering (s.wires i) p ++ todo' p = todo p := by
  obtain ⟨pend', hinv, hout⟩ := h.egress.step (h.offered i)
  have hrest : ∃ todo', EgressRest (s.egress.step (s.wires i)) (s.step i).stream todo' ∧
      ∀ p, s.egress.entering (s.wires i) p ++ todo' p = todo p := by
    cases ha : s.egress.accepts (s.wires i) with
    | false =>
        refine ⟨todo, ?_, fun p => ?_⟩
        · rw [EgressFeed.step, ha]
          exact h.rest.idle ha
        · rw [RoutingEgress.entering, ha]
          rfl
    | true =>
        obtain ⟨rest, hs⟩ := stream_of_tvalid (Bool.and_eq_true_iff.mp ha).2
        have hnext : (s.step i).stream = rest := by
          rw [EgressFeed.step, ha, if_pos rfl, hs, List.tail_cons]
        have hr := h.rest
        rw [hs] at hr
        rw [hnext]
        exact hr.accept ha
  obtain ⟨todo', hrest', htodo⟩ := hrest
  refine ⟨pend', todo', ⟨?_, hrest', fun p => ?_⟩, fun p => ⟨hout p, htodo p⟩⟩
  · have hheld : (s.step i).heldFlit = s.egress.heldAfter (s.wires i) := by
      rw [heldFlit, RoutingEgress.heldAfter]
      have hwire : (s.wires i).egr_route_in_tvalid = s.tvalid i := rfl
      rw [hwire]
      cases hv : s.tvalid i with
      | false => simp [EgressFeed.step, hv]
      | true =>
          obtain ⟨rest, hs⟩ := stream_of_tvalid hv
          cases ha : s.egress.accepts (s.wires i) with
          | true => simp [EgressFeed.step, hv, ha]
          | false =>
              rw [EgressFeed.step, hv, ha, hs]
              rfl
    rw [hheld]
    exact hinv
  · have hsplit : emitted p s i ++ (pend' p ++ todo' p) = pend p ++ todo p := by
      rw [← htodo p, ← List.append_assoc, ← List.append_assoc]
      exact congrArg (· ++ todo' p) (hout p)
    rw [← h.total p, List.append_assoc, hsplit]

/-- The invariant holds in every run. -/
theorem inv_run (ts : List EgrTxn) (is : List EgressFeedIn) :
    ∃ pend todo, Inv ts ((egressFeed ts).run is) (fun p => egressOut ts p is) pend todo := by
  induction is using List.reverseRecOn with
  | nil => exact ⟨_, _, inv_init ts⟩
  | append_singleton is i ih =>
      obtain ⟨pend, todo, h⟩ := ih
      obtain ⟨pend', todo', h', -⟩ := h.step i
      refine ⟨pend', todo', ?_⟩
      simp only [egressOut, Machine.run_concat, Machine.collect_concat]
      exact h'

/-! ### Progress -/

/-- What a port has still to do: every flit is loaded, forwarded and handed over. -/
def portWork (s : EgressFeed) (pend todo : Port → List Flit) (p : Port) : ℕ :=
  2 * (pend p).length + 3 * (todo p).length - (s.egress.ports p).out.count

/-- A flit of the port `p` is forwarded. -/
def forwards (s : EgressFeed) (p : Port) : Bool :=
  (s.egress.ports p).ping_pong_ready && ((s.egress.ports p).regs (s.egress.ports p).port_sm).isSome

/-- Each load, forward and hand-over is one unit of work. -/
lemma Inv.work_step (h : Inv ts s out pend todo) (i : EgressFeedIn) :
    ∃ pend' todo', Inv ts (s.step i) (fun p => out p ++ emitted p s i) pend' todo' ∧
      ∀ p, portWork (s.step i) pend' todo' p + (s.egress.entering (s.wires i) p).length
        + (emitted p s i).length + (s.forwards p).toNat = portWork s pend todo p := by
  obtain ⟨pend', todo', h', hports⟩ := h.step i
  refine ⟨pend', todo', h', fun p => ?_⟩
  have hle := h.egress.count_le p
  have hle' := h'.egress.count_le p
  have hcount : ((s.step i).egress.ports p).out.count + (emitted p s i).length
      = (s.egress.ports p).out.count + (s.forwards p).toNat :=
    h.egress.count_step (s.wires i) p
  obtain ⟨hpend, htodo⟩ := hports p
  have hpend := congrArg List.length hpend
  have htodo := congrArg List.length htodo
  rw [List.length_append, List.length_append] at hpend
  rw [List.length_append] at htodo
  rw [portWork, portWork]
  omega

/-- When both ports take what comes, a cycle does some work, or everything is done. -/
lemma Inv.works_or_done (h : Inv ts s out pend todo) :
    (∀ p, pend p = [] ∧ todo p = []) ∨
      ∃ p, 0 < (s.egress.entering (s.wires .go) p).length + (emitted p s .go).length
        + (s.forwards p).toNat := by
  by_contra hcon
  rw [not_or] at hcon
  obtain ⟨hleft, hidle⟩ := hcon
  have hidle : ∀ p, s.egress.entering (s.wires .go) p = [] ∧ emitted p s .go = [] ∧
      s.forwards p = false := by
    intro p
    have hp := not_exists.mp hidle p
    refine ⟨List.length_eq_zero_iff.mp (by omega), List.length_eq_zero_iff.mp (by omega), ?_⟩
    exact Bool.toNat_eq_zero.mp (by omega)
  have hquiet : ∀ p, pend p = [] ∧ ∀ r, (s.egress.ports p).room r = true := fun p =>
    h.egress.quiet (i := s.wires .go) rfl (hidle p).2.1 (hidle p).2.2
  refine hleft fun p => ⟨(hquiet p).1, ?_⟩
  have hr := h.rest
  cases hs : s.stream with
  | nil =>
      rw [hs] at hr
      exact hr.todo_nil p
  | cons f rest =>
      -- with empty registers the next flit is accepted
      exfalso
      have hv : s.tvalid .go = true := by simp [tvalid, EgressFeedIn.go, hs]
      have ha : s.egress.accepts (s.wires .go) = true := by
        rw [RoutingEgress.accepts, h.egress.tready (fun p => (hquiet p).2)]
        exact hv
      obtain ⟨q, hq⟩ := RoutingEgress.entering_ne_nil ha
      exact hq (hidle q).1

/-- The work gets done. -/
lemma Inv.finishes (n : ℕ) {is : List EgressFeedIn}
    (h : Inv ts ((egressFeed ts).run is) (fun p => egressOut ts p is) pend todo)
    (hn : portWork ((egressFeed ts).run is) pend todo .port0
      + portWork ((egressFeed ts).run is) pend todo .port1 = n) :
    ∃ k, ∀ p, egressOut ts p (is ++ List.replicate k .go) = portStream p .port0 ts := by
  induction n using Nat.strong_induction_on generalizing is pend todo with
  | _ n ih =>
      rcases h.works_or_done with hdone | ⟨p, hp⟩
      · refine ⟨0, fun p => ?_⟩
        have htotal := h.total p
        rw [(hdone p).1, (hdone p).2] at htotal
        simpa using htotal
      · obtain ⟨pend', todo', h', hwork⟩ := h.work_step .go
        have h0 := hwork .port0
        have h1 := hwork .port1
        have hrun : (egressFeed ts).run (is ++ [.go]) = ((egressFeed ts).run is).step .go :=
          Machine.run_concat _ _ _
        have hlt : portWork ((egressFeed ts).run (is ++ [.go])) pend' todo' .port0
            + portWork ((egressFeed ts).run (is ++ [.go])) pend' todo' .port1 < n := by
          rw [hrun]
          cases p <;> omega
        have hinv : Inv ts ((egressFeed ts).run (is ++ [.go]))
            (fun p => egressOut ts p (is ++ [.go])) pend' todo' := by
          simp only [egressOut, hrun, Machine.collect_concat]
          exact h'
        obtain ⟨k, hk⟩ := ih _ hlt hinv rfl
        refine ⟨k + 1, fun q => ?_⟩
        rw [← hk q, List.replicate_succ, List.append_assoc]
        rfl

end EgressFeed

/-- **Every transaction leaves on its port, whole and in order.**  In every run each port has
handed over the beginning of what is expected of it, and in the end it hands over all of it. -/
theorem egress_routed (ts : List EgrTxn) (is : List EgressFeedIn) :
    (∀ p, egressOut ts p is <+: portStream p .port0 ts) ∧
    ∃ k, ∀ p, egressOut ts p (is ++ List.replicate k .go) = portStream p .port0 ts := by
  obtain ⟨pend, todo, h⟩ := EgressFeed.inv_run ts is
  refine ⟨fun p => ?_, h.finishes _ rfl⟩
  rw [← h.total p]
  exact List.prefix_append _ _

end ThymesisFlow
