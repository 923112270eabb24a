import ThymesisFlow.Afu.CommandPath
import ThymesisFlow.Memory.NetPath

/-!
# Two copies of the egress side

Two copies of a module are alike if they have the same control state and hold the same commands.
One cycle of the egress adapter and of the routing egress keeps the copies alike, whatever the data
is; what the neighbours must promise for that are the hypotheses of the step lemmas.
-/

namespace ThymesisFlow

/-! ## The state machine of an input -/

/-- `ocapi_sm` and `dflit_size`. -/
abbrev InputState := InputSm × BitVec 3

/-- The state machine after the flit `f`. -/
def InputState.next (st : InputState) (f : Flit512) : InputState :=
  match st.1 with
  | .INPUT_CMD_RESP =>
      if egrHasData f then (.INPUT_DATAFLIT, dflitSize (egrDl f)) else (.INPUT_CMD_RESP, st.2)
  | .INPUT_DATAFLIT => (if st.2 = 1 then .INPUT_CMD_RESP else .INPUT_DATAFLIT, st.2 - 1)

def RoutingEgress.input (s : RoutingEgress) : InputState := (s.ocapi_sm, s.dflit_size)

def EgressAdapter.input (a : EgressAdapter) : InputState := (a.ocapi_sm, a.dflit_size)

lemma RoutingEgress.input_step (s : RoutingEgress) (i : RoutingEgressIn) :
    (s.step i).input = if s.accepts i then s.input.next i.egr_route_in_tdata else s.input := by
  simp only [input, step, InputState.next]
  cases hsm : s.ocapi_sm with
  | INPUT_CMD_RESP =>
      cases s.accepts i <;> cases egrHasData i.egr_route_in_tdata <;> rfl
  | INPUT_DATAFLIT =>
      cases s.accepts i with
      | false => rfl
      | true => exact Prod.ext (if_congr (by simp) rfl rfl) rfl

/-- The adapter and the routing egress agree on what comes next, but for the flit between them. -/
def InStep (a : EgressAdapter) (s : RoutingEgress) : Prop :=
  a.input = if a.output_q_vld then s.input.next a.output_q else s.input

namespace EgressAdapter

variable {a b : EgressAdapter} {cmd : Option NetCmd} {data : Option DataFlit}

/-- The opcode bits that say what a flit is. -/
lemma plain_ofHost (reg : BitVec 64) (c : HostCmd) :
    bit (NetCmd.ofHost reg c).opcode 2 = false := by
  change bit (netCmdOpcode c.opcode) 2 = false
  rw [netCmdOpcode, bit, BitVec.getLsbD_append, if_pos (by decide)]
  simp

/-- **One cycle of the adapter before the routing egress.** -/
lemma inStep_step {s : RoutingEgress} (h : InStep a s) (i : RoutingEgressIn)
    (hdata : i.egr_route_in_tdata = a.output_q) (hvalid : i.egr_route_in_tvalid = a.output_q_vld)
    (hplain : ∀ n, cmd = some n → bit n.opcode 2 = false) :
    InStep (a.step cmd data (s.egr_route_in_tready a.output_q)) (s.step i) := by
  rw [InStep] at h ⊢
  have hacc : s.accepts i = (s.egr_route_in_tready a.output_q && a.output_q_vld) := by
    rw [RoutingEgress.accepts, hdata, hvalid]
  rw [s.input_step i, hacc, hdata]
  generalize hr : s.egr_route_in_tready a.output_q = ready
  -- what the routing egress has taken by the next cycle, if the adapter is not held up
  have hnext : ready = true →
      (if (ready && a.output_q_vld) then s.input.next a.output_q else s.input) = a.input := by
    rintro rfl
    rw [h, Bool.true_and]
  by_cases hc : a.takesCmd cmd ready = true
  · obtain ⟨n, rfl, hsm, -, hstep⟩ := step_takesCmd data hc
    have hready : ready = true := by
      simp only [takesCmd, cmdTready, Bool.and_eq_true] at hc
      exact hc.1.1
    rw [hstep, if_pos rfl, hnext hready]
    have hin := NetCmd.in_putCmd a.output_q n
    simp only [input, InputState.next, hsm]
    rw [hin.hasData (hplain n rfl)]
    cases hw : n.isWrite with
    | false => rfl
    | true => rw [hin.egrDl hw]; rfl
  · by_cases hd : a.takesData data ready = true
    · obtain ⟨d, rfl, hsm, -, hstep⟩ := step_takesData cmd hd
      have hready : ready = true := by
        simp only [takesData, dataTready, Bool.and_eq_true] at hd
        exact hd.1.1
      rw [hstep, if_pos rfl, hnext hready]
      simp only [input, InputState.next, hsm]
    · rw [step_idle (eq_false_of_ne_true hc) (eq_false_of_ne_true hd)]
      cases ready with
      | true =>
          rw [hnext rfl, if_neg (by simp)]
          rfl
      | false =>
          simp only [Bool.not_false, Bool.and_true, Bool.false_and, Bool.false_eq_true, if_false]
          exact h

/-- The control state of the two copies is the same. -/
structure Alike (a b : EgressAdapter) : Prop where
  output_q_vld : a.output_q_vld = b.output_q_vld
  ocapi_sm : a.ocapi_sm = b.ocapi_sm
  dflit_size : a.dflit_size = b.dflit_size

namespace Alike

variable {data' : Option DataFlit} {ready ready' : Bool}

/-- The two ready signals may differ where nobody looks at them: the register is empty, and no
command comes. -/
lemma step (h : Alike a b) (hd : data.isSome = data'.isSome)
    (hr : a.output_q_vld = true ∨ a.ocapi_sm = .INPUT_DATAFLIT ∨ cmd.isSome = true →
      ready = ready') :
    Alike (a.step cmd data ready) (b.step cmd data' ready') := by
  obtain ⟨q, v, sm, size⟩ := a
  obtain ⟨q', v', sm', size'⟩ := b
  obtain ⟨rfl, rfl, rfl⟩ : v = v' ∧ sm = sm' ∧ size = size' :=
    ⟨h.output_q_vld, h.ocapi_sm, h.dflit_size⟩
  by_cases hidle : v = false ∧ sm = .INPUT_CMD_RESP ∧ cmd = none
  · obtain ⟨rfl, rfl, rfl⟩ := hidle
    cases data <;> cases data' <;> cases ready <;> cases ready' <;>
      exact ⟨rfl, rfl, rfl⟩
  · obtain rfl : ready = ready' := by
      refine hr ?_
      by_contra hn
      simp only [not_or] at hn
      refine hidle ⟨eq_false_of_ne_true hn.1, ?_, Option.not_isSome_iff_eq_none.mp hn.2.2⟩
      cases sm with
      | INPUT_CMD_RESP => rfl
      | INPUT_DATAFLIT => exact absurd rfl hn.2.1
    cases sm <;> cases cmd <;> cases data <;> cases data' <;> cases ready <;>
      first | exact ⟨rfl, rfl, rfl⟩ | cases hd

end Alike

end EgressAdapter

/-- The adapter puts the same command in two registers. -/
lemma SameCmd.putCmd {q r : Flit512} {n : NetCmd} (hplain : bit n.opcode 2 = false)
    (hdl : n.isWrite = true → n.dl = 0b10) (hstream : field q 339 4 = field r 339 4)
    (hpage : field q 313 6 = field r 313 6) :
    SameCmd (hiHalf (EgressAdapter.putCmd q n)) (hiHalf (EgressAdapter.putCmd r n)) where
  live k hk := by
    by_cases hlt : k < 256
    · rw [bit_hiHalf _ hlt, bit_hiHalf _ hlt]
      rw [EgressAdapter.putCmd, EgressAdapter.putCmd]
      refine bit_setField_congr _ _ fun h1 => bit_setField_congr _ _ fun h2 =>
        bit_setField_congr _ _ fun h3 => bit_setField_congr _ _ fun h4 =>
        bit_setField_congr _ _ fun h5 => bit_setField_congr _ _ fun h6 =>
        bit_setField_congr _ _ fun h7 => ?_
      -- what the adapter does not write and the memory side reads
      have hrest : 313 ≤ 256 + k ∧ 256 + k < 319 ∨ 339 ≤ 256 + k ∧ 256 + k < 343 := by
        rw [LiveBit] at hk
        omega
      rcases hrest with ⟨hlo, hhi⟩ | ⟨hlo, hhi⟩
      · obtain ⟨m, hm⟩ := Nat.exists_eq_add_of_le hlo
        rw [hm, bit_eq_field q _ 6 (by omega), bit_eq_field r _ 6 (by omega), hpage]
      · obtain ⟨m, hm⟩ := Nat.exists_eq_add_of_le hlo
        rw [hm, bit_eq_field q _ 4 (by omega), bit_eq_field r _ 4 (by omega), hstream]
    · rw [bit, bit, BitVec.getLsbD_of_ge _ _ (Nat.le_of_not_lt hlt),
        BitVec.getLsbD_of_ge _ _ (Nat.le_of_not_lt hlt)]
  plain := by
    have hop := (NetCmd.in_putCmd q n).opcode
    rw [bit_eq_field _ 248 8 (show 2 < 8 by decide), hop, hplain]
  dl hw := by
    have hin := NetCmd.in_putCmd q n
    rw [hin.dl]
    refine hdl ?_
    rw [NetCmd.isWrite, ← hin.opcode, ← bit_eq_field _ 248 8 (show 5 < 8 by decide)]
    exact hw

/-- A bit of the command, in the 64 byte flit. -/
lemma SameCmd.bit_eq {f g : Flit512} (h : SameCmd (hiHalf f) (hiHalf g)) (k : ℕ) (hlt : k < 256)
    (hlive : LiveBit k) : bit f (256 + k) = bit g (256 + k) := by
  have hk := h.live k hlive
  rwa [bit_hiHalf f hlt, bit_hiHalf g hlt] at hk

/-- A field of the command, in the 64 byte flit. -/
lemma SameCmd.hi_field_eq {f g : Flit512} (h : SameCmd (hiHalf f) (hiHalf g)) (lo len : ℕ)
    (hle : lo + len ≤ 256) (hlive : ∀ k < len, LiveBit (lo + k)) :
    field f (256 + lo) len = field g (256 + lo) len := by
  apply BitVec.eq_of_getLsbD_eq
  intro k hk
  have hbit := h.bit_eq (lo + k) (by omega) (hlive k hk)
  rw [← Nat.add_assoc] at hbit
  rw [getLsbD_field, getLsbD_field]
  exact congrArg _ hbit

/-! ## The routing egress -/

/-- What the memory side expects when a port is in the state `sm`. -/
def EgrSm.kind : EgrSm → PortinSm
  | .CMD => .PORT_CMD
  | .DATA0_HIGH => .PORT_DATA0_H
  | .DATA0_LOW => .PORT_DATA0_L
  | .DATA1_HIGH => .PORT_DATA1_H
  | .DATA1_LOW => .PORT_DATA1_L

/-- Two flits on the way to the memory side: commands are the same. -/
def LikeFlit (sm : PortinSm) (x y : Flit) : Prop := sm = .PORT_CMD → SameCmd x y

namespace LikeFlit

variable {sm : PortinSm} {x y : Flit}

lemma next_eq (h : LikeFlit sm x y) : sm.next x = sm.next y := by
  cases sm with
  | PORT_CMD => rw [PortinSm.next, PortinSm.next, (h rfl).isWriteCmd_eq]
  | PORT_DATA0_H | PORT_DATA0_L | PORT_DATA1_H | PORT_DATA1_L => rfl

end LikeFlit

lemma EgrSm.kind_next {sm : EgrSm} {x y : Flit} (h : LikeFlit sm.kind x y) :
    sm.next x = sm.next y ∧ (sm.next x).kind = sm.kind.next x := by
  cases sm with
  | CMD =>
      have hx := (h rfl).hasData_eq
      have hy := (h rfl).hasData_eq_right
      rw [EgrSm.next, EgrSm.next, hx, hy, EgrSm.kind, PortinSm.next]
      cases isWriteCmd x <;> exact ⟨rfl, rfl⟩
  | DATA0_HIGH | DATA0_LOW | DATA1_HIGH | DATA1_LOW => exact ⟨rfl, rfl⟩

namespace EgressPort

/-- The same registers are full, and the commands are the same. -/
structure Alike (p q : EgressPort) : Prop where
  isSome : ∀ r, (p.regs r).isSome = (q.regs r).isSome
  cmd : ∀ x y, p.regs .CMD = some x → q.regs .CMD = some y → SameCmd x y
  port_sm : p.port_sm = q.port_sm

/-- What is on the way from a port: the flits `xs` on the link, and what the buffer holds. -/
abbrev Sent (sm : PortinSm) (xs : List Flit) (p : EgressPort) (ys : List Flit) (q : EgressPort) :
    Prop :=
  Agree.Buffered PortinSm.next LikeFlit sm xs p.out ys q.out p.port_sm.kind

lemma port_sm_step (p : EgressPort) (load : EgrSm → Option Flit) (tready : Bool) :
    (p.step load tready).port_sm
      = if p.ping_pong_ready then (p.regs p.port_sm).elim p.port_sm p.port_sm.next
        else p.port_sm := by
  simp only [step]
  cases p.regs p.port_sm with
  | none => exact (ite_self _).symm
  | some x => rfl

/-- The command that a port holds was there before or is loaded. -/
lemma cmd_step {p : EgressPort} {load : EgrSm → Option Flit} {tready : Bool} {x : Flit}
    (hx : (p.step load tready).regs .CMD = some x) :
    p.regs .CMD = some x ∧ (p.forwarded .CMD).isSome = true ∨
      load .CMD = some x ∧ (p.forwarded .CMD).isSome = false := by
  rw [step_regs] at hx
  cases hf : p.forwarded .CMD with
  | none => exact .inr ⟨by simpa [hf] using hx, rfl⟩
  | some y =>
      obtain rfl : y = x := by simpa [hf] using hx
      refine .inl ⟨?_, rfl⟩
      rw [forwarded] at hf
      split_ifs at hf
      · by_cases hc : EgrSm.CMD = p.port_sm
        · rw [← hc, Function.update_self] at hf
          cases hf
        · rwa [Function.update_of_ne hc] at hf
      · exact hf

namespace Alike

variable {p q : EgressPort} {load load' : EgrSm → Option Flit}

lemma room_eq (h : Alike p q) (ho : TwoSlot.Aligned p.out q.out) (r : EgrSm) :
    p.room r = q.room r := by
  have hnone : (p.regs r).isNone = (q.regs r).isNone := by
    rw [← Option.not_isSome, ← Option.not_isSome, h.isSome]
  rw [room, room, hnone, ping_pong_ready, ping_pong_ready, ho.ready_eq, h.port_sm]

lemma like_reg (h : Alike p q) {r : EgrSm} {x y : Flit} (hx : p.regs r = some x)
    (hy : q.regs r = some y) : LikeFlit r.kind x y := by
  intro hr
  cases r with
  | CMD => exact h.cmd x y hx hy
  | DATA0_HIGH | DATA0_LOW | DATA1_HIGH | DATA1_LOW => cases hr

/-- **One cycle of a port.** -/
theorem step (h : Alike p q) {sm : PortinSm} {xs ys : List Flit} (hs : Sent sm xs p ys q)
    (hload : ∀ r, (load r).isSome = (load' r).isSome)
    (hcmd : ∀ x y, load .CMD = some x → load' .CMD = some y → SameCmd x y) (tready : Bool) :
    Alike (p.step load tready) (q.step load' tready) ∧
      Sent sm (xs ++ p.out.out tready) (p.step load tready) (ys ++ q.out.out tready)
        (q.step load' tready) := by
  have hready : p.ping_pong_ready = q.ping_pong_ready := hs.aligned.ready_eq
  have hroom := h.room_eq hs.aligned
  have hforwarded : ∀ r, (p.forwarded r).isSome = (q.forwarded r).isSome := fun r => by
    have hr := hroom r
    rw [p.room_eq, q.room_eq] at hr
    rw [← Option.not_isNone, ← Option.not_isNone, hr]
  have hsm : (p.step load tready).port_sm = (q.step load' tready).port_sm ∧
      (p.step load tready).port_sm.kind
        = if p.out.ready then Agree.Buffered.after PortinSm.next p.port_sm.kind (p.regs p.port_sm)
          else p.port_sm.kind := by
    have hsome := h.isSome p.port_sm
    rw [port_sm_step, port_sm_step, ← hready, ← h.port_sm]
    change _ ∧ _ = if p.ping_pong_ready = true then _ else _
    cases p.ping_pong_ready with
    | false => exact ⟨rfl, rfl⟩
    | true =>
        rw [if_pos rfl, if_pos rfl, if_pos rfl]
        cases hp : p.regs p.port_sm with
        | none =>
            rw [hp] at hsome
            have hq : q.regs p.port_sm = none :=
              Option.not_isSome_iff_eq_none.mp (by rw [← hsome]; decide)
            rw [hq]
            exact ⟨rfl, rfl⟩
        | some x =>
            rw [hp] at hsome
            obtain ⟨y, hy⟩ := Option.isSome_iff_exists.mp hsome.symm
            rw [hy]
            exact EgrSm.kind_next (h.like_reg hp hy)
  refine ⟨⟨fun r => ?_, fun x y hx hy => ?_, hsm.1⟩, ?_⟩
  · rw [step_regs, step_regs, Option.isSome_or, Option.isSome_or, hforwarded, hload]
  · have hf := hforwarded .CMD
    rcases cmd_step hx with ⟨hx, hfx⟩ | ⟨hx, hfx⟩ <;>
      rcases cmd_step hy with ⟨hy, hfy⟩ | ⟨hy, hfy⟩
    · exact h.cmd x y hx hy
    · rw [hfx, hfy] at hf
      cases hf
    · rw [hfx, hfy] at hf
      cases hf
    · exact hcmd x y hx hy
  · have hsome : (p.regs p.port_sm).isSome = (q.regs q.port_sm).isSome := by
      rw [h.isSome, h.port_sm]
    have hlike : ∀ u v, p.regs p.port_sm = some u → q.regs q.port_sm = some v →
        LikeFlit p.port_sm.kind u v := by
      intro u v hu hv
      rw [← h.port_sm] at hv
      exact h.like_reg hu hv
    have hstep := Agree.Buffered.step hs hsome (fun _ => hlike) tready
    rw [← hsm.2] at hstep
    exact hstep

end Alike

end EgressPort

namespace RoutingEgress

/-- The same control state, and ports that are alike. -/
structure Alike (s t : RoutingEgress) : Prop where
  ports : ∀ p, EgressPort.Alike (s.ports p) (t.ports p)
  ocapi_sm : s.ocapi_sm = t.ocapi_sm
  dflit_size : s.dflit_size = t.dflit_size
  next_data_interface_id : s.next_data_interface_id = t.next_data_interface_id
  output_turn : s.output_turn = t.output_turn

/-- Both copies are offered the same command, or data, or nothing. -/
structure AlikeIn (s : RoutingEgress) (i j : RoutingEgressIn) : Prop where
  tvalid : i.egr_route_in_tvalid = j.egr_route_in_tvalid
  tdata : i.egr_route_in_tvalid = true → s.ocapi_sm = .INPUT_CMD_RESP →
    SameCmd (hiHalf i.egr_route_in_tdata) (hiHalf j.egr_route_in_tdata)
  out_tready : i.egr_route_out_tready = j.egr_route_out_tready

lemma AlikeIn.tdata_of_accepts {s : RoutingEgress} {i j : RoutingEgressIn} (hi : AlikeIn s i j)
    (ha : s.accepts i = true) (hsm : s.ocapi_sm = .INPUT_CMD_RESP) :
    SameCmd (hiHalf i.egr_route_in_tdata) (hiHalf j.egr_route_in_tdata) :=
  hi.tdata (Bool.and_eq_true_iff.mp ha).2 hsm

namespace Alike

variable {s t : RoutingEgress} {i j : RoutingEgressIn}

/-- The port for a command depends on its net id. -/
lemma next_cmd_interface_id_eq (h : Alike s t) {f g : Flit512}
    (hfg : field f 291 2 = field g 291 2) :
    s.next_cmd_interface_id f = t.next_cmd_interface_id g := by
  have h0 : bit f 291 = bit g 291 := by
    rw [bit_eq_field f 291 2 (show 0 < 2 by decide), bit_eq_field g 291 2 (show 0 < 2 by decide), hfg]
  have h1 : bit f 292 = bit g 292 := by
    rw [bit_eq_field f 291 2 (show 1 < 2 by decide), bit_eq_field g 291 2 (show 1 < 2 by decide), hfg]
  rw [next_cmd_interface_id, next_cmd_interface_id, h0, h1, h.output_turn]

lemma netid_eq {f g : Flit512} (h : SameCmd (hiHalf f) (hiHalf g)) :
    field f 291 2 = field g 291 2 := h.hi_field_eq 35 2 (by decide) (by decide)

/-- The ready signal looks at the net id of a command only. -/
lemma tready_eq (h : Alike s t) (ho : ∀ p, TwoSlot.Aligned (s.ports p).out (t.ports p).out)
    {f g : Flit512} (hfg : s.ocapi_sm = .INPUT_CMD_RESP → field f 291 2 = field g 291 2) :
    s.egr_route_in_tready f = t.egr_route_in_tready g := by
  have hroom : ∀ p r, (s.ports p).room r = (t.ports p).room r :=
    fun p r => (h.ports p).room_eq (ho p) r
  rw [egr_route_in_tready, egr_route_in_tready, input_is_cmd, input_is_cmd, input_is_data0,
    input_is_data0, input_is_data1, input_is_data1, ← h.ocapi_sm, ← h.dflit_size,
    ← h.next_data_interface_id, hroom, hroom, hroom]
  by_cases hsm : s.ocapi_sm = .INPUT_CMD_RESP
  · rw [h.next_cmd_interface_id_eq (hfg hsm)]
  · simp [hsm]

lemma accepts_eq (h : Alike s t) (ho : ∀ p, TwoSlot.Aligned (s.ports p).out (t.ports p).out)
    (hi : AlikeIn s i j) : s.accepts i = t.accepts j := by
  rw [accepts, accepts, ← hi.tvalid]
  cases hv : i.egr_route_in_tvalid with
  | false => simp
  | true => rw [h.tready_eq ho fun hsm => netid_eq (hi.tdata hv hsm)]

lemma load_isSome_eq (h : Alike s t) (hi : AlikeIn s i j) (p : Port) (r : EgrSm) :
    (s.load i p r).isSome = (t.load j p r).isSome := by
  have hite : ∀ {c d : Bool} (x y : Flit), c = d →
      (if c then some x else none).isSome = (if d then some y else none).isSome := by
    rintro c _ x y rfl
    cases c <;> rfl
  have hdata0 : (s.next_data_interface_id = p && s.input_is_data0 && i.egr_route_in_tvalid)
      = (t.next_data_interface_id = p && t.input_is_data0 && j.egr_route_in_tvalid) := by
    rw [input_is_data0, input_is_data0, h.next_data_interface_id, h.dflit_size, hi.tvalid]
  have hdata1 : (s.next_data_interface_id = p && s.input_is_data1 && i.egr_route_in_tvalid)
      = (t.next_data_interface_id = p && t.input_is_data1 && j.egr_route_in_tvalid) := by
    rw [input_is_data1, input_is_data1, h.next_data_interface_id, h.dflit_size, hi.tvalid]
  cases r with
  | CMD =>
      refine hite _ _ ?_
      rw [input_is_cmd, input_is_cmd, ← h.ocapi_sm, ← hi.tvalid]
      cases hv : i.egr_route_in_tvalid with
      | false => rw [Bool.and_false, Bool.and_false]
      | true =>
          by_cases hsm : s.ocapi_sm = .INPUT_CMD_RESP
          · rw [h.next_cmd_interface_id_eq (netid_eq (hi.tdata hv hsm))]
          · simp [hsm]
  | DATA0_HIGH | DATA0_LOW => exact hite _ _ hdata0
  | DATA1_HIGH | DATA1_LOW => exact hite _ _ hdata1

/-- What is loaded as a command is one. -/
lemma load_cmd_same (hi : AlikeIn s i j) (p : Port) {x y : Flit} (hx : s.load i p .CMD = some x)
    (hy : t.load j p .CMD = some y) : SameCmd x y := by
  simp only [load] at hx hy
  split_ifs at hx with hc
  split_ifs at hy
  simp only [input_is_cmd, Bool.and_eq_true, decide_eq_true_eq] at hc
  obtain rfl := Option.some.inj hx
  obtain rfl := Option.some.inj hy
  exact hi.tdata hc.2 hc.1.2

/-- Two flits with the same command have the same flags. -/
lemma egrHasData_eq {f g : Flit512} (h : SameCmd (hiHalf f) (hiHalf g)) :
    egrHasData f = egrHasData g := by
  rw [← hasData_hiHalf, ← hasData_hiHalf, h.hasData_eq, h.hasData_eq_right]

lemma egrDl_eq {f g : Flit512} (h : SameCmd (hiHalf f) (hiHalf g)) (hf : egrHasData f = true) :
    egrDl f = egrDl g := by
  have hw : bit f 509 = true := by
    rw [← hasData_hiHalf, h.hasData_eq, isWriteCmd, bit_hiHalf f (by decide)] at hf
    exact hf
  rw [egrDl, egrDl, ← h.bit_eq 253 (by decide) (by decide), hw, if_pos rfl, if_pos rfl]
  exact h.hi_field_eq 166 2 (by decide) (by decide)

lemma input_next_eq {st : InputState} {f g : Flit512}
    (h : st.1 = .INPUT_CMD_RESP → SameCmd (hiHalf f) (hiHalf g)) : st.next f = st.next g := by
  rw [InputState.next, InputState.next]
  cases hsm : st.1 with
  | INPUT_DATAFLIT => rfl
  | INPUT_CMD_RESP =>
      have hsame := h hsm
      simp only
      rw [← egrHasData_eq hsame]
      cases hd : egrHasData f with
      | false => rw [if_neg Bool.false_ne_true, if_neg Bool.false_ne_true]
      | true => rw [egrDl_eq hsame hd]

lemma input_step_eq (h : Alike s t) (ho : ∀ p, TwoSlot.Aligned (s.ports p).out (t.ports p).out)
    (hi : AlikeIn s i j) : (s.step i).input = (t.step j).input := by
  have hin : s.input = t.input := Prod.ext h.ocapi_sm h.dflit_size
  rw [s.input_step, t.input_step, ← h.accepts_eq ho hi, ← hin]
  cases ha : s.accepts i with
  | false => rw [if_neg Bool.false_ne_true, if_neg Bool.false_ne_true]
  | true => rw [if_pos rfl, if_pos rfl, input_next_eq fun hsm => hi.tdata_of_accepts ha hsm]

lemma next_data_interface_id_step (s : RoutingEgress) (i : RoutingEgressIn) :
    (s.step i).next_data_interface_id
      = if s.ocapi_sm = .INPUT_CMD_RESP ∧ s.accepts i = true ∧ egrHasData i.egr_route_in_tdata = true
        then s.next_cmd_interface_id i.egr_route_in_tdata else s.next_data_interface_id := by
  simp only [RoutingEgress.step]
  cases s.ocapi_sm <;> simp

lemma next_data_interface_id_eq (h : Alike s t)
    (ho : ∀ p, TwoSlot.Aligned (s.ports p).out (t.ports p).out) (hi : AlikeIn s i j) :
    (s.step i).next_data_interface_id = (t.step j).next_data_interface_id := by
  rw [next_data_interface_id_step, next_data_interface_id_step, ← h.accepts_eq ho hi, ← h.ocapi_sm,
    ← h.next_data_interface_id]
  by_cases hc : s.ocapi_sm = .INPUT_CMD_RESP ∧ s.accepts i = true
  · have hsame := hi.tdata_of_accepts hc.2 hc.1
    rw [egrHasData_eq hsame, h.next_cmd_interface_id_eq (netid_eq hsame)]
  · rw [if_neg fun hn => hc ⟨hn.1, hn.2.1⟩, if_neg fun hn => hc ⟨hn.1, hn.2.1⟩]

lemma output_turn_eq (h : Alike s t)
    (ho : ∀ p, TwoSlot.Aligned (s.ports p).out (t.ports p).out) (hi : AlikeIn s i j) :
    (s.step i).output_turn = (t.step j).output_turn := by
  have hcmd : s.input_is_cmd = t.input_is_cmd := by rw [input_is_cmd, input_is_cmd, h.ocapi_sm]
  change (if s.accepts i && s.input_is_cmd then s.output_turn.other else s.output_turn)
    = if t.accepts j && t.input_is_cmd then t.output_turn.other else t.output_turn
  rw [h.accepts_eq ho hi, hcmd, h.output_turn]

/-- **One cycle of the routing egress.** -/
theorem step (h : Alike s t) (hi : AlikeIn s i j) {sm : Port → PortinSm} {xs ys : Port → List Flit}
    (hs : ∀ p, EgressPort.Sent (sm p) (xs p) (s.ports p) (ys p) (t.ports p)) :
    Alike (s.step i) (t.step j) ∧ ∀ p, EgressPort.Sent (sm p) (xs p ++ emitted p s i)
      ((s.step i).ports p) (ys p ++ emitted p t j) ((t.step j).ports p) := by
  have ho := fun p => (hs p).aligned
  have hport : ∀ p, EgressPort.Alike ((s.step i).ports p) ((t.step j).ports p) ∧
      EgressPort.Sent (sm p) (xs p ++ emitted p s i) ((s.step i).ports p)
        (ys p ++ emitted p t j) ((t.step j).ports p) := by
    intro p
    rw [emitted, emitted]
    simp only [RoutingEgress.step, ← hi.out_tready]
    exact (h.ports p).step (hs p) (h.load_isSome_eq hi p)
      (fun x y hx hy => load_cmd_same hi p hx hy) _
  have hinput := h.input_step_eq ho hi
  exact ⟨⟨fun p => (hport p).1, congrArg Prod.fst hinput, congrArg Prod.snd hinput,
    h.next_data_interface_id_eq ho hi, h.output_turn_eq ho hi⟩, fun p => (hport p).2⟩

end Alike

end RoutingEgress

end ThymesisFlow
