import ThymesisFlow.Memory.EgressAlike
import ThymesisFlow.Routing.MemoryRouted

/-!
# Two copies of the ingress side

The same for the routing ingress and the memory ingress.  What the one hands to the other is a stream
of commands and data flits, so each of the two also has an invariant of a single run that says how
many data flits are to come: `RoutingMemoryIngress.Sound` and `MemoryIngress.Phase`.
-/

namespace ThymesisFlow

/-! ## The routing ingress -/

namespace MemPort

/-- The same control state, and the same command in the register. -/
structure Alike (p q : MemPort) : Prop where
  vld : ∀ r, (p.regs r).vld = (q.regs r).vld
  cmd : (p.regs .PORT_CMD).vld = true → SameCmd (p.regs .PORT_CMD).q (q.regs .PORT_CMD).q
  portin_sm : p.portin_sm = q.portin_sm
  port_sm : p.port_sm = q.port_sm
  outportid_data : p.outportid_data = q.outportid_data

lemma vld_of_fwdCmd {p : MemPort} {PORT sel other : BitVec 2} {ready : Bool}
    (h : p.fwd PORT sel other ready .PORT_CMD = true) : (p.regs .PORT_CMD).vld = true := by
  simp only [fwd, fwdCmd, Bool.and_eq_true] at h
  exact h.1.1.1.1

namespace Alike

variable {p q : MemPort} {PORT sel other : BitVec 2} {ready tvalid : Bool} {x y : Flit}

lemma fwd_eq (h : Alike p q) : p.fwd PORT sel other ready = q.fwd PORT sel other ready := by
  funext r
  cases r <;> simp only [fwd, fwdCmd, fwdData0, fwdData1, h.vld, h.outportid_data, h.port_sm]

lemma tready_eq (h : Alike p q) (fwd : PortinSm → Bool) : p.tready fwd = q.tready fwd := by
  rw [tready, tready, h.portin_sm, h.vld]

lemma nextPort_eq (h : Alike p q) :
    p.nextPort PORT ready (p.fwd PORT sel other ready .PORT_CMD)
      = q.nextPort PORT ready (q.fwd PORT sel other ready .PORT_CMD) := by
  rw [← h.fwd_eq, nextPort, nextPort, ← h.port_sm, ← h.outportid_data, h.vld, h.vld, h.vld, h.vld]
  cases hf : p.fwd PORT sel other ready .PORT_CMD with
  | false => rw [Bool.false_and, Bool.false_and]
  | true => rw [(h.cmd (vld_of_fwdCmd hf)).isWriteCmd_eq]

/-- **One cycle of a port.** -/
theorem step (h : Alike p q) (hxy : tvalid = true → LikeFlit p.portin_sm x y) :
    Alike (p.step PORT sel other ready tvalid x) (q.step PORT sel other ready tvalid y) := by
  have hfwd : p.fwd PORT sel other ready = q.fwd PORT sel other ready := h.fwd_eq
  have hnext : p.nextPort PORT ready (p.fwd PORT sel other ready .PORT_CMD)
      = q.nextPort PORT ready (q.fwd PORT sel other ready .PORT_CMD) := h.nextPort_eq
  have hvld : ∀ (a b : Stage Flit) (load fwd : Bool) (u v : Flit), a.vld = b.vld →
      (a.next load fwd u).vld = (b.next load fwd v).vld := by
    intro a b load fwd u v hab
    cases load <;> cases fwd <;> simp [Stage.next, hab]
  refine ⟨fun r => ?_, fun hv => ?_, ?_, congrArg Prod.fst hnext, congrArg Prod.snd hnext⟩
  · simp only [MemPort.step, ← hfwd, ← h.portin_sm, ← h.vld r]
    exact hvld _ _ _ _ _ _ (h.vld r)
  · simp only [MemPort.step, ← hfwd, ← h.portin_sm, ← h.vld .PORT_CMD, if_true] at hv ⊢
    rw [Stage.next] at hv ⊢
    rw [Stage.next]
    split_ifs at hv ⊢ with hload hf
    · simp only [Bool.and_eq_true, decide_eq_true_eq] at hload
      exact (hxy hload.1.1 hload.1.2).stampPort PORT
    · exact h.cmd hv
  · simp only [MemPort.step, ← hfwd, ← h.portin_sm, ← h.tready_eq]
    cases htv : tvalid with
    | false => rw [Bool.false_and, if_neg Bool.false_ne_true, if_neg Bool.false_ne_true]
    | true => rw [(hxy htv).next_eq]

end Alike

end MemPort

/-- The 64 byte data flits that are still to be forwarded. -/
def PortSm.beats : PortSm → ℕ
  | .CMD => 0
  | .DFLIT0 => 2
  | .DFLIT1 => 1

/-- The data flits that follow the flit `x`, when `k` data flits are still to come before it. -/
def beatNext (k : ℕ) (x : Flit512) : ℕ :=
  if k = 0 then if isWriteCmd (hiHalf x) then 2 else 0 else k - 1

/-- Two flits that are handed over: commands are the same. -/
def LikeBeat (k : ℕ) (x y : Flit512) : Prop := k = 0 → SameCmd (hiHalf x) (hiHalf y)

lemma hiHalf_putCmdHalf (f : Flit) (slot : Flit512) : hiHalf (putCmdHalf f slot) = f :=
  BitVec.extractLsb'_append_eq_left

namespace RoutingMemoryIngress

/-- The registers of the ports are queues, and only one port is in a transaction. -/
structure Sound (s : RoutingMemoryIngress) : Prop where
  queue : ∀ p, ∃ ys, (s.ports p).Queue p.id ys
  alone : ∃ p, (s.ports p).port_sm = .CMD

/-- What is put into the buffer in a cycle. -/
def pushed (s : RoutingMemoryIngress) : Option Flit512 :=
  ((s.forwards .port0).or (s.forwards .port1)).map fun upd =>
    upd (if s.out.turn_w then s.out.pong else s.out.ping)

/-- The data flits that are still to be forwarded. -/
def beats (s : RoutingMemoryIngress) : ℕ :=
  (s.ports .port0).port_sm.beats + (s.ports .port1).port_sm.beats

/-- What a cycle puts into the buffer (`Push s s' x`). -/
inductive Push (s s' : RoutingMemoryIngress) : Option Flit512 → Prop
  | nothing (hfwd : ∀ p r, s.fwd p r = false) (hbeats : s'.beats = s.beats) : Push s s' none
  | cmd (p : Port) (slot : Flit512) (hfwd : s.fwd p .PORT_CMD = true) (hbeats : s.beats = 0)
      (hnext : s'.beats = if isWriteCmd ((s.ports p).regs .PORT_CMD).q then 2 else 0) :
      Push s s' (some (putCmdHalf ((s.ports p).regs .PORT_CMD).q slot))
  | data (x : Flit512) (hbeats : s.beats = s'.beats + 1) : Push s s' (some x)

variable {s : RoutingMemoryIngress}

lemma sound_init : Sound {} where
  queue := fun _ => ⟨[], fun _ => rfl, rfl, rfl⟩
  alone := ⟨.port0, rfl⟩

lemma beats_eq (s : RoutingMemoryIngress) (p : Port) :
    s.beats = (s.ports p).port_sm.beats + (s.ports p.other).port_sm.beats := by
  cases p with
  | port0 => rfl
  | port1 => exact Nat.add_comm _ _

lemma forwards_isSome (s : RoutingMemoryIngress) (p : Port) : (s.forwards p).isSome
    = (s.fwd p .PORT_CMD || s.fwd p .PORT_DATA0_L || s.fwd p .PORT_DATA1_L) := by
  rw [forwards]
  cases s.fwd p .PORT_CMD <;> cases s.fwd p .PORT_DATA0_L <;> cases s.fwd p .PORT_DATA1_L <;> simp

lemma pushed_of_forwards {p : Port} {upd : Flit512 → Flit512} (h : s.forwards p = some upd)
    (hother : s.forwards p.other = none) :
    s.pushed = some (upd (if s.out.turn_w then s.out.pong else s.out.ping)) := by
  rw [pushed]
  cases p with
  | port0 => rw [h]; rfl
  | port1 =>
      have h0 : s.forwards .port0 = none := hother
      rw [h0, h]
      rfl

namespace Sound

variable (h : Sound s) (i : RoutingMemoryIngressIn)
include h

/-- What a port forwards, and its state machine afterwards. -/
lemma moves (p : Port) : ∃ zs,
    MemPort.Moves (s.ports p) (s.fwd p) zs ((s.step i).ports p).port_sm := by
  obtain ⟨ys, hq⟩ := h.queue p
  obtain ⟨zs, sm, ys', hm, -, hf⟩ :=
    hq.forward s.outportid_cmd (s.ports p.other).outportid_data s.out.ready
  have hsm : ((s.step i).ports p).port_sm = sm := congrArg Prod.fst hf.port
  rw [hsm]
  exact ⟨zs, hm⟩

lemma exclusive {p : Port} {r : PortinSm} (hr : s.fwd p r = true) :
    (s.ports p.other).port_sm = .CMD ∧ ∀ r', s.fwd p.other r' = false :=
  fwd_exclusive (fun p => (h.queue p).elim fun _ hq => hq.data) h.alone hr

/-- A port that forwards nothing stays in its state. -/
lemma stays {p : Port} (hq : ∀ r, s.fwd p r = false) :
    ((s.step i).ports p).port_sm = (s.ports p).port_sm := by
  obtain ⟨zs, hm⟩ := h.moves i p
  generalize ((s.step i).ports p).port_sm = sm at hm ⊢
  cases hm with
  | nothing hq => rfl
  | cmd hsm hf => rw [hq] at hf; cases hf
  | data0 hsm hf => rw [hq] at hf; cases hf
  | data1 hsm hf => rw [hq] at hf; cases hf

/-- **What a cycle forwards.** -/
theorem push : Push s (s.step i) s.pushed := by
  by_cases hquiet : ∀ p r, s.fwd p r = false
  · have hnone : s.pushed = none := by
      rw [pushed, forwards_of_quiet (hquiet _), forwards_of_quiet (hquiet _)]
      rfl
    rw [hnone]
    refine .nothing hquiet ?_
    rw [beats, beats, h.stays i (hquiet _), h.stays i (hquiet _)]
  · push Not at hquiet
    obtain ⟨p, r, hr⟩ := hquiet
    obtain ⟨hother, hq⟩ := h.exclusive (eq_true_of_ne_false hr)
    have hnone := forwards_of_quiet hq
    have hnext := h.stays i hq
    have hbeats := s.beats_eq p
    have hbeats' := (s.step i).beats_eq p
    rw [hother] at hbeats hnext
    rw [hnext] at hbeats'
    obtain ⟨zs, hm⟩ := h.moves i p
    generalize hsm' : ((s.step i).ports p).port_sm = sm at hm hbeats'
    cases hm with
    | nothing hall => exact absurd (hall r) hr
    | cmd hsm hf =>
        rw [pushed_of_forwards (if_pos hf) hnone]
        refine .cmd p _ hf (by rw [hbeats, hsm]; rfl) ?_
        rw [hbeats']
        cases isWriteCmd ((s.ports p).regs .PORT_CMD).q <;> rfl
    | data0 hsm hf =>
        have hcmd : s.fwd p .PORT_CMD = false := by simp [fwd, MemPort.fwd, MemPort.fwdCmd, hsm]
        have hfor : s.forwards p = some (putData ((s.ports p).regs .PORT_DATA0_H).q
            ((s.ports p).regs .PORT_DATA0_L).q) := by
          simp only [forwards, hcmd, hf, Bool.false_eq_true, if_false, if_true]
        rw [pushed_of_forwards hfor hnone]
        exact .data _ (by rw [hbeats, hbeats', hsm]; rfl)
    | data1 hsm hf =>
        have hcmd : s.fwd p .PORT_CMD = false := by simp [fwd, MemPort.fwd, MemPort.fwdCmd, hsm]
        have hd0 : s.fwd p .PORT_DATA0_L = false := by
          simp [fwd, MemPort.fwd, MemPort.fwdData0, hsm]
        have hfor : s.forwards p = some (putData ((s.ports p).regs .PORT_DATA1_H).q
            ((s.ports p).regs .PORT_DATA1_L).q) := by
          simp only [forwards, hcmd, hd0, hf, Bool.false_eq_true, if_false, if_true]
        rw [pushed_of_forwards hfor hnone]
        exact .data _ (by rw [hbeats, hbeats', hsm]; rfl)

/-- The buffer takes what is forwarded; a forward needs room. -/
lemma nextOut_eq {q : List Flit512} (hout : s.out.Holds q) (tready : Bool) :
    s.nextOut tready = s.out.step s.pushed tready ∧
      (s.pushed.isSome = true → s.out.ready = true) := by
  by_cases hquiet : ∀ p, s.forwards p = none
  · have hnone : s.pushed = none := by rw [pushed, hquiet, hquiet]; rfl
    rw [nextOut_of_quiet hquiet, hnone]
    exact ⟨rfl, fun hs => nomatch hs⟩
  · push Not at hquiet
    obtain ⟨p, hp⟩ := hquiet
    obtain ⟨upd, hupd⟩ := Option.ne_none_iff_exists'.mp hp
    have hactive : ∃ r, s.fwd p r = true := by
      by_contra hn
      push Not at hn
      exact hp (forwards_of_quiet fun r => eq_false_of_ne_true (hn r))
    obtain ⟨r, hr⟩ := hactive
    have hnone := forwards_of_quiet (h.exclusive hr).2
    have hready := ready_of_fwd hr
    rw [nextOut_of_forwards hupd hnone, pushed_of_forwards hupd hnone, pingPongWrite_eq hout hready]
    exact ⟨rfl, fun _ => hready⟩

lemma step : Sound (s.step i) where
  queue p := by
    obtain ⟨ys, hq⟩ := h.queue p
    obtain ⟨zs, sm, ys', -, -, hf⟩ :=
      hq.forward s.outportid_cmd (s.ports p.other).outportid_data s.out.ready
    exact ⟨_, hf.load (i.route_in_tvalid p) (i.route_in_tdata p)⟩
  alone := by
    by_cases hquiet : ∀ p r, s.fwd p r = false
    · obtain ⟨p, hp⟩ := h.alone
      exact ⟨p, (h.stays i (hquiet p)).trans hp⟩
    · push Not at hquiet
      obtain ⟨p, r, hr⟩ := hquiet
      obtain ⟨hother, hq⟩ := h.exclusive (eq_true_of_ne_false hr)
      exact ⟨p.other, (h.stays i hq).trans hother⟩

end Sound

/-- The kind of the next flit after what a cycle puts into the buffer. -/
lemma Push.beats_eq {s' : RoutingMemoryIngress} {x : Option Flit512} (h : Push s s' x) :
    Agree.Buffered.after beatNext s.beats x = s'.beats := by
  cases h with
  | nothing hfwd hbeats => exact hbeats.symm
  | cmd p slot hfwd hbeats hnext =>
      change beatNext s.beats _ = _
      rw [hbeats, hnext, beatNext, if_pos rfl, hiHalf_putCmdHalf]
  | data x hbeats =>
      change beatNext s.beats _ = _
      rw [hbeats, beatNext, if_neg (Nat.succ_ne_zero _), Nat.add_sub_cancel]

/-- The same control state, and ports that are alike. -/
structure Alike (s t : RoutingMemoryIngress) : Prop where
  ports : ∀ p, MemPort.Alike (s.ports p) (t.ports p)
  masked_req_vector : s.masked_req_vector = t.masked_req_vector

/-- Both copies are offered flits of the same kinds. -/
structure AlikeIn (s : RoutingMemoryIngress) (i j : RoutingMemoryIngressIn) : Prop where
  tvalid : i.route_in_tvalid = j.route_in_tvalid
  tdata : ∀ p, i.route_in_tvalid p = true →
    LikeFlit (s.ports p).portin_sm (i.route_in_tdata p) (j.route_in_tdata p)
  out_tready : i.route_out_tready = j.route_out_tready

/-- What the two buffers hold, when `k` data flits are still to come before their first entry. -/
abbrev Handed (k : ℕ) (xs : List Flit512) (s : RoutingMemoryIngress) (ys : List Flit512)
    (t : RoutingMemoryIngress) : Prop :=
  Agree.Buffered beatNext LikeBeat k xs s.out ys t.out s.beats

namespace Alike

variable {t : RoutingMemoryIngress} {i j : RoutingMemoryIngressIn}

lemma arb_req_eq (h : Alike s t) : s.arb_req = t.arb_req := by
  rw [arb_req, arb_req, (h.ports _).vld, (h.ports _).vld]

lemma fwd_eq (h : Alike s t) (ho : TwoSlot.Aligned s.out t.out) (p : Port) : s.fwd p = t.fwd p := by
  rw [fwd, fwd, outportid_cmd, outportid_cmd, h.arb_req_eq, h.masked_req_vector, ho.ready_eq,
    (h.ports p.other).outportid_data, (h.ports p).fwd_eq]

lemma tready_eq (h : Alike s t) (ho : TwoSlot.Aligned s.out t.out) :
    s.route_in_tready = t.route_in_tready := by
  funext p
  rw [route_in_tready, route_in_tready, h.fwd_eq ho, (h.ports p).tready_eq]

lemma beats_eq (h : Alike s t) : s.beats = t.beats := by
  rw [beats, beats, (h.ports _).port_sm, (h.ports _).port_sm]

lemma pushed_isSome_eq (h : Alike s t) (ho : TwoSlot.Aligned s.out t.out) :
    s.pushed.isSome = t.pushed.isSome := by
  have hfor : ∀ p, (s.forwards p).isSome = (t.forwards p).isSome := fun p => by
    rw [forwards_isSome, forwards_isSome, h.fwd_eq ho]
  rw [pushed, pushed, Option.isSome_map, Option.isSome_map, Option.isSome_or, Option.isSome_or,
    hfor, hfor]

/-- Both copies forward the same command. -/
lemma pushed_like (h : Alike s t) (ho : TwoSlot.Aligned s.out t.out) (hs : Sound s) (ht : Sound t)
    {x y : Flit512} (hx : s.pushed = some x) (hy : t.pushed = some y)
    (i : RoutingMemoryIngressIn) : LikeBeat s.beats x y := by
  intro hzero
  have hpx := hs.push i
  have hpy := ht.push i
  rw [hx] at hpx
  rw [hy] at hpy
  cases hpx with
  | data x hbeats => exact absurd (hbeats.symm.trans hzero) (Nat.succ_ne_zero _)
  | cmd p slot hfwd _ _ =>
      cases hpy with
      | data y hbeats =>
          rw [h.beats_eq, hbeats] at hzero
          exact absurd hzero (Nat.succ_ne_zero _)
      | cmd p' slot' hfwd' _ _ =>
          rw [hiHalf_putCmdHalf, hiHalf_putCmdHalf]
          rw [← h.fwd_eq ho] at hfwd'
          rcases p.eq_or_eq_other p' with rfl | rfl
          · exact (h.ports p').cmd (MemPort.vld_of_fwdCmd hfwd)
          · rw [(hs.exclusive hfwd).2] at hfwd'
            cases hfwd'

/-- **One cycle of the routing ingress.** -/
theorem step (h : Alike s t) (hs : Sound s) (ht : Sound t) (hi : AlikeIn s i j) {k : ℕ}
    (hb : Handed k [] s [] t) :
    Alike (s.step i) (t.step j) ∧
      Handed k (s.out.out i.route_out_tready) (s.step i) (t.out.out i.route_out_tready)
        (t.step j) := by
  have ho := hb.aligned
  have hfwd := h.fwd_eq ho
  have hnxt : s.arb_req_nxt = t.arb_req_nxt := by rw [arb_req_nxt, arb_req_nxt, hfwd, hfwd]
  refine ⟨⟨fun p => ?_, ?_⟩, ?_⟩
  · change MemPort.Alike (MemPort.step _ _ _ _ _ _ _) (MemPort.step _ _ _ _ _ _ _)
    rw [← (h.ports p.other).outportid_data, ← ho.ready_eq, ← hi.tvalid, outportid_cmd,
      outportid_cmd, ← h.arb_req_eq, ← h.masked_req_vector]
    exact (h.ports p).step (hi.tdata p)
  · change arbStep _ _ _ = arbStep _ _ _
    rw [h.masked_req_vector, h.arb_req_eq, hnxt]
  · obtain ⟨q, r, hq, hr, -⟩ := hb.entries
    have hpush := hs.push i
    have hout := hs.nextOut_eq hq i.route_out_tready
    have hout' := ht.nextOut_eq hr i.route_out_tready
    have hstep := Agree.Buffered.step hb (h.pushed_isSome_eq ho)
      (fun _ u v hu hv => h.pushed_like ho hs ht hu hv i) i.route_out_tready
    change Agree.Buffered _ _ _ _ (s.nextOut _) _ (t.nextOut _) _
    rw [← hi.out_tready, hout.1, hout'.1]
    have hkind : (if s.out.ready then Agree.Buffered.after beatNext s.beats s.pushed else s.beats)
        = (s.step i).beats := by
      cases hready : s.out.ready with
      | true => exact hpush.beats_eq
      | false =>
          have hnone : s.pushed = none := by
            refine Option.not_isSome_iff_eq_none.mp fun hsome => ?_
            rw [hout.2 hsome] at hready
            cases hready
          rw [hnone] at hpush
          exact hpush.beats_eq
    rw [hkind] at hstep
    exact hstep

end Alike

end RoutingMemoryIngress

/-! ## The memory ingress -/

namespace MemoryIngress

/-- What the module waits for on the network stream: `k` data flits are to come
(`Phase s k`). -/
inductive Phase (s : MemoryIngress) : ℕ → Prop
  | cmd (hsm : s.smstate ≠ .RECEIVE_DATA) (h : s.dflit_size = 0) (hrty : s.dflit_size_rty = 0) :
      Phase s 0
  | data (hsm : s.smstate = .RECEIVE_DATA) (h : s.dflit_size = 1 ∨ s.dflit_size = 2)
      (hrty : s.dflit_size_rty = 0) : Phase s s.dflit_size.toNat
  | rty (hsm : s.smstate = .RECEIVE_DATA) (h : s.dflit_size = 0) (hrty : 0 < s.dflit_size_rty) :
      Phase s 0

namespace Phase

variable {s : MemoryIngress} {i : MemoryIngressIn} {k : ℕ}

/-- While no command is expected and no data either, nothing is taken. -/
lemma tready_of_not_cmd (hsm : s.smstate ≠ .RECEIVE_CMD) (h : s.dflit_size = 0)
    (i : MemoryIngressIn) : s.netflit_in_tready i = false := by
  simp [netflit_in_tready, hsm, h, bit]

lemma cmdDflitSize_eq (f : Flit512) : cmdDflitSize f
    = if isWriteCmd (hiHalf f) then dflitSize (field (hiHalf f) 166 2) else 0 := by
  have h1 : bit (field (hiHalf f) 166 2) 1 = bit f 423 := by
    rw [← bit_eq_field _ 166 2 (show 1 < 2 by decide), bit_hiHalf f (by decide)]
  have h0 : bit (field (hiHalf f) 166 2) 0 = bit f 422 := by
    rw [← bit_eq_field _ 166 2 (show 0 < 2 by decide), bit_hiHalf f (by decide)]
  rw [cmdDflitSize, isWriteCmd, bit_hiHalf f (by decide), dflitSize, h1, h0]

lemma cmdDflitSize_pos {f : Flit512} (hw : bit f 509 = true) : 0 < cmdDflitSize f := by
  rw [cmdDflitSize, hw, if_pos rfl]
  cases bit f 423 <;> cases bit f 422 <;> decide

lemma step_init (hsm : s.smstate = .INIT) (h : s.dflit_size = 0) (hrty : s.dflit_size_rty = 0) :
    Phase (s.step i) 0 := by
  have hnext : (s.step i).smstate ≠ .RECEIVE_DATA := by
    simp only [step, nextSmstate, hsm]
    split_ifs <;> decide
  refine .cmd hnext ?_ ?_ <;> simp only [step, datapath, hsm] <;> split_ifs <;>
    simp_all [assignActag, idle]

lemma step_cmd (hsm : s.smstate = .RECEIVE_CMD) (h : s.dflit_size = 0) (hrty : s.dflit_size_rty = 0)
    (hen : i.enable = true)
    (hdl : i.netflit_in_tvalid = true → isWriteCmd (hiHalf i.netflit_in_tdata) = true →
      field (hiHalf i.netflit_in_tdata) 166 2 = 0b10) :
    Phase (s.step i) (if i.netflit_in_tvalid && s.netflit_in_tready i then
      beatNext 0 i.netflit_in_tdata else 0) := by
  have hready : s.netflit_in_tready i
      = (i.tlx_cmd_tready && !i.rty_in_tvalid && i.capptag_fifo_tvalid) := by
    simp [netflit_in_tready, hen, hsm, h, bit]
  have hinit : ¬(s.smstate = .INIT ∧ i.enable = true) := fun hn => by
    rw [hsm] at hn
    cases hn.1
  have hdata : s.smstate ≠ .RECEIVE_DATA := by rw [hsm]; decide
  by_cases hr : i.rty_in_tvalid = true ∧ i.tlx_cmd_tready = true
  · -- a command of the retry path goes first
    have hpath : s.datapath i = s.takeRtyCmd i := by
      rw [datapath, if_neg hinit, if_pos ⟨hsm, hr⟩]
    have hnext : s.nextSmstate i
        = if bit i.rty_in_tdata 509 then .RECEIVE_DATA else .RECEIVE_CMD := by
      rw [nextSmstate, hsm]
      simp [hr]
    have hsize : (s.step i).dflit_size = 0 := by rw [step, hpath]; exact h
    have hsize' : (s.step i).dflit_size_rty = cmdDflitSize i.rty_in_tdata := by
      rw [step, hpath]
      rfl
    have hsm' : (s.step i).smstate = s.nextSmstate i := rfl
    rw [hready, hr.1, hr.2, if_neg (by simp)]
    cases hw : bit i.rty_in_tdata 509 with
    | true =>
        rw [hnext, hw, if_pos rfl] at hsm'
        exact .rty hsm' hsize (by rw [hsize']; exact cmdDflitSize_pos hw)
    | false =>
        rw [hnext, hw, if_neg Bool.false_ne_true] at hsm'
        refine .cmd (by rw [hsm']; decide) hsize ?_
        rw [hsize', cmdDflitSize, hw, if_neg Bool.false_ne_true]
  · by_cases hn : i.netflit_in_tvalid = true ∧ i.capptag_fifo_tvalid = true ∧ i.tlx_cmd_tready = true
    · have hpath : s.datapath i = s.takeNetCmd i := by
        rw [datapath, if_neg hinit, if_neg fun hx => hr hx.2, if_pos ⟨hsm, hn⟩]
      have hrv : i.rty_in_tvalid = false := eq_false_of_ne_true fun hx => hr ⟨hx, hn.2.2⟩
      have hnext : s.nextSmstate i
          = if isWriteCmd (hiHalf i.netflit_in_tdata) then .RECEIVE_DATA else .RECEIVE_CMD := by
        rw [nextSmstate, hsm, isWriteCmd, bit_hiHalf _ (by decide)]
        simp [hn, hrv]
      have hsize : (s.step i).dflit_size = cmdDflitSize i.netflit_in_tdata := by
        rw [step, hpath]
        rfl
      have hsize' : (s.step i).dflit_size_rty = 0 := by rw [step, hpath]; exact hrty
      have hsm' : (s.step i).smstate = s.nextSmstate i := rfl
      rw [cmdDflitSize_eq] at hsize
      rw [hnext] at hsm'
      rw [hready, hn.1, hn.2.1, hn.2.2, hrv, if_pos (by decide), beatNext, if_pos rfl]
      cases hw : isWriteCmd (hiHalf i.netflit_in_tdata) with
      | true =>
          rw [hw, if_pos rfl] at hsm'
          rw [hw, if_pos rfl, hdl hn.1 hw] at hsize
          have h2 : (s.step i).dflit_size = 2 := hsize
          have hphase := Phase.data hsm' (.inr h2) hsize'
          rwa [h2] at hphase
      | false =>
          rw [hw, if_neg Bool.false_ne_true] at hsm' hsize
          exact .cmd (by rw [hsm']; decide) hsize hsize'
    · have hpath : s.datapath i = s.idle i := by
        rw [datapath, if_neg hinit, if_neg fun hx => hr hx.2, if_neg fun hx => hn hx.2,
          if_neg fun hx => hdata hx.1, if_neg fun hx => hdata hx.1]
      have hnext : s.nextSmstate i = .RECEIVE_CMD := by
        rw [nextSmstate, hsm]
        simp only
        rw [if_neg fun hx => hr ⟨hx.2, hx.1⟩, if_neg fun hx => hn ⟨hx.2.1, hx.2.2, hx.1⟩, hen,
          if_pos rfl]
      have hnot : (i.netflit_in_tvalid && s.netflit_in_tready i) = false := by
        rw [hready]
        refine eq_false_of_ne_true fun hx => hn ?_
        simp only [Bool.and_eq_true] at hx
        exact ⟨hx.1, hx.2.2, hx.2.1.1⟩
      rw [hnot, if_neg Bool.false_ne_true]
      have hsm' : (s.step i).smstate = .RECEIVE_CMD := hnext
      exact .cmd (by rw [hsm']; decide) (by rw [step, hpath]; exact h) (by rw [step, hpath]; exact hrty)

lemma step_data (hsm : s.smstate = .RECEIVE_DATA) (h : s.dflit_size = 1 ∨ s.dflit_size = 2)
    (hrty : s.dflit_size_rty = 0) (hen : i.enable = true) :
    Phase (s.step i) (if i.netflit_in_tvalid && s.netflit_in_tready i then
      beatNext s.dflit_size.toNat i.netflit_in_tdata else s.dflit_size.toNat) := by
  have hready : s.netflit_in_tready i = i.tlx_data_tready := by
    rcases h with h | h <;> simp [netflit_in_tready, hen, hsm, h, bit]
  have hrty0 : ¬0 < s.dflit_size_rty := by rw [hrty]; decide
  have hinit : s.smstate ≠ .INIT := by rw [hsm]; decide
  have hcmd : s.smstate ≠ .RECEIVE_CMD := by rw [hsm]; decide
  rw [hready]
  by_cases hn : i.netflit_in_tvalid = true ∧ i.tlx_data_tready = true
  · have hpos : 0 < s.dflit_size := by rcases h with h | h <;> rw [h] <;> decide
    have hpath : s.datapath i = s.takeNetData i := by
      rw [datapath, if_neg fun hx => hinit hx.1, if_neg fun hx => hcmd hx.1,
        if_neg fun hx => hcmd hx.1, if_neg fun hx => hrty0 hx.2.2.1, if_pos ⟨hsm, hn.1, hpos, hn.2⟩]
    have hnext : s.nextSmstate i = if s.dflit_size = 1 then .RECEIVE_CMD else .RECEIVE_DATA := by
      rw [nextSmstate, hsm]
      simp [hn, hrty]
    have hsize : (s.step i).dflit_size = s.dflit_size - 1 := by
      rw [step, hpath]
      rfl
    have hsize' : (s.step i).dflit_size_rty = 0 := by rw [step, hpath]; exact hrty
    have hsm' : (s.step i).smstate = s.nextSmstate i := rfl
    rw [hn.1, hn.2, if_pos (by rfl)]
    rcases h with h | h
    · rw [hnext, h, if_pos rfl] at hsm'
      rw [h] at hsize ⊢
      exact .cmd (by rw [hsm']; decide) hsize hsize'
    · rw [hnext, h, if_neg (by decide)] at hsm'
      rw [h] at hsize ⊢
      have h1 : (s.step i).dflit_size = 1 := hsize
      have hphase := Phase.data hsm' (.inl h1) hsize'
      rwa [h1] at hphase
  · have hpath : s.datapath i = s.idle i := by
      rw [datapath, if_neg fun hx => hinit hx.1, if_neg fun hx => hcmd hx.1,
        if_neg fun hx => hcmd hx.1, if_neg fun hx => hrty0 hx.2.2.1,
        if_neg fun hx => hn ⟨hx.2.1, hx.2.2.2⟩]
    have hnext : s.nextSmstate i = .RECEIVE_DATA := by
      rw [nextSmstate, hsm]
      refine if_neg fun hx => ?_
      rcases hx.2 with h1 | h1
      · exact hn ⟨h1.2, hx.1⟩
      · rw [hrty] at h1
        exact absurd h1.1 (by decide)
    have hsize : (s.step i).dflit_size = s.dflit_size := by
      rw [step, hpath]
      rfl
    rw [if_neg (by simpa using hn)]
    have hphase := @Phase.data (s.step i) hnext (by rw [hsize]; exact h)
      (by rw [step, hpath]; exact hrty)
    rwa [hsize] at hphase

lemma step_rty (hsm : s.smstate = .RECEIVE_DATA) (h : s.dflit_size = 0)
    (hrty : 0 < s.dflit_size_rty) : Phase (s.step i) 0 := by
  have hsize0 : ¬0 < s.dflit_size := by rw [h]; decide
  have hinit : s.smstate ≠ .INIT := by rw [hsm]; decide
  have hcmd : s.smstate ≠ .RECEIVE_CMD := by rw [hsm]; decide
  by_cases hn : i.rty_in_tvalid = true ∧ i.tlx_data_tready = true
  · have hpath : s.datapath i = s.takeRtyData i := by
      rw [datapath, if_neg fun hx => hinit hx.1, if_neg fun hx => hcmd hx.1,
        if_neg fun hx => hcmd hx.1, if_pos ⟨hsm, hn.1, hrty, hn.2⟩]
    have hnext : s.nextSmstate i = if s.dflit_size_rty = 1 then .RECEIVE_CMD else .RECEIVE_DATA := by
      rw [nextSmstate, hsm]
      simp [hn, h]
    have hsize : (s.step i).dflit_size_rty = s.dflit_size_rty - 1 := by
      rw [step, hpath]
      rfl
    have hsize' : (s.step i).dflit_size = 0 := by rw [step, hpath]; exact h
    have hsm' : (s.step i).smstate = s.nextSmstate i := rfl
    by_cases h1 : s.dflit_size_rty = 1
    · rw [hnext, if_pos h1] at hsm'
      rw [h1] at hsize
      exact .cmd (by rw [hsm']; decide) hsize' hsize
    · rw [hnext, if_neg h1] at hsm'
      refine .rty hsm' hsize' ?_
      rw [hsize]
      revert h1 hrty
      generalize s.dflit_size_rty = z
      revert z
      decide
  · have hpath : s.datapath i = s.idle i := by
      rw [datapath, if_neg fun hx => hinit hx.1, if_neg fun hx => hcmd hx.1,
        if_neg fun hx => hcmd hx.1, if_neg fun hx => hn ⟨hx.2.1, hx.2.2.2⟩,
        if_neg fun hx => hsize0 hx.2.2.1]
    have hnext : s.nextSmstate i = .RECEIVE_DATA := by
      rw [nextSmstate, hsm]
      refine if_neg fun hx => ?_
      rcases hx.2 with h1 | h1
      · rw [h] at h1
        exact absurd h1.1 (by decide)
      · exact hn ⟨h1.2, hx.1⟩
    exact .rty hnext (by rw [step, hpath]; exact h) (by rw [step, hpath]; exact hrty)

/-- **What the module waits for after a cycle.** -/
theorem step (h : Phase s k) (hen : s.smstate ≠ .INIT → i.enable = true)
    (hdl : k = 0 → i.netflit_in_tvalid = true → isWriteCmd (hiHalf i.netflit_in_tdata) = true →
      field (hiHalf i.netflit_in_tdata) 166 2 = 0b10) :
    Phase (s.step i) (if i.netflit_in_tvalid && s.netflit_in_tready i then
      beatNext k i.netflit_in_tdata else k) := by
  cases h with
  | cmd hsm h hrty =>
      cases hst : s.smstate with
      | INIT =>
          rw [tready_of_not_cmd (by rw [hst]; decide) h, Bool.and_false, if_neg Bool.false_ne_true]
          exact step_init hst h hrty
      | RECEIVE_CMD => exact step_cmd hst h hrty (hen (by rw [hst]; decide)) (hdl rfl)
      | RECEIVE_DATA => exact absurd hst hsm
  | data hsm h hrty => exact step_data hsm h hrty (hen (by rw [hsm]; decide))
  | rty hsm h hrty =>
      rw [tready_of_not_cmd (by rw [hsm]; decide) h, Bool.and_false, if_neg Bool.false_ne_true]
      exact step_rty hsm h hrty

/-- A command is expected only when no data is to come. -/
lemma eq_zero (h : Phase s k) (hsm : s.smstate = .RECEIVE_CMD) : k = 0 := by
  cases h with
  | cmd => rfl
  | data hdata => rw [hsm] at hdata; cases hdata
  | rty => rfl

end Phase

/-- The same control state and the same commands; the data may differ. -/
structure Alike (s t : MemoryIngress) : Prop where
  tlx_cmd_q : s.tlx_cmd_q = t.tlx_cmd_q
  tlx_cmd_valid_q : s.tlx_cmd_valid_q = t.tlx_cmd_valid_q
  tlx_data_valid_q : s.tlx_data_valid_q = t.tlx_data_valid_q
  cmdlookup : s.cmdlookup = t.cmdlookup
  lookup_port_en_q : s.lookup_port_en_q = t.lookup_port_en_q
  dflit_size_rty : s.dflit_size_rty = t.dflit_size_rty
  dflit_size : s.dflit_size = t.dflit_size
  smstate : s.smstate = t.smstate

/-- Both copies are offered the same commands. -/
structure AlikeIn (s : MemoryIngress) (i j : MemoryIngressIn) : Prop where
  active_actag : i.active_actag = j.active_actag
  capptag_fifo_tdata : i.capptag_fifo_tdata = j.capptag_fifo_tdata
  capptag_fifo_tvalid : i.capptag_fifo_tvalid = j.capptag_fifo_tvalid
  netflit_in_tdata : i.netflit_in_tvalid = true → s.smstate = .RECEIVE_CMD →
    SameCmd (hiHalf i.netflit_in_tdata) (hiHalf j.netflit_in_tdata)
  netflit_in_tvalid : i.netflit_in_tvalid = j.netflit_in_tvalid
  rty_in_tdata : s.smstate = .RECEIVE_CMD → i.rty_in_tdata = j.rty_in_tdata
  rty_in_tvalid : i.rty_in_tvalid = j.rty_in_tvalid
  enable : i.enable = j.enable
  tlx_cmd_tready : i.tlx_cmd_tready = j.tlx_cmd_tready
  tlx_data_tready : i.tlx_data_tready = j.tlx_data_tready

namespace Alike

variable {s t : MemoryIngress} {i j : MemoryIngressIn}

lemma ready_eq (h : Alike s t) (hi : AlikeIn s i j) :
    s.netflit_in_tready i = t.netflit_in_tready j := by
  rw [netflit_in_tready, netflit_in_tready, hi.enable, hi.tlx_cmd_tready, hi.rty_in_tvalid,
    hi.capptag_fifo_tvalid, hi.tlx_data_tready, h.smstate, h.dflit_size]

lemma issued_eq (h : Alike s t) (hi : AlikeIn s i j) : s.issued i = t.issued j := by
  rw [issued, issued, h.tlx_cmd_q, h.tlx_cmd_valid_q, hi.tlx_cmd_tready]

lemma recorded_eq (h : Alike s t) : s.recorded = t.recorded := by
  rw [recorded, recorded, h.cmdlookup, h.lookup_port_en_q]

/-- What the module reads of a command of the network. -/
lemma takeNetCmd_alike (h : Alike s t) (hi : AlikeIn s i j)
    (hf : SameCmd (hiHalf i.netflit_in_tdata) (hiHalf j.netflit_in_tdata)) :
    Alike (s.takeNetCmd i) (t.takeNetCmd j) := by
  have hea := hf.hi_field_eq 184 72 (by decide) (by decide)
  have htag := hf.hi_field_eq 168 16 (by decide) (by decide)
  have hbe := hf.hi_field_eq 99 69 (by decide) (by decide)
  have hstream := hf.hi_field_eq 83 4 (by decide) (by decide)
  have hpage := hf.hi_field_eq 57 6 (by decide) (by decide)
  have hnetid := hf.hi_field_eq 35 6 (by decide) (by decide)
  have hsize : cmdDflitSize i.netflit_in_tdata = cmdDflitSize j.netflit_in_tdata := by
    rw [cmdDflitSize, cmdDflitSize, hf.bit_eq 253 (by decide) (by decide),
      hf.bit_eq 167 (by decide) (by decide), hf.bit_eq 166 (by decide) (by decide)]
  have hcmd : s.netTlxCmd i = t.netTlxCmd j := by
    rw [netTlxCmd, netTlxCmd, h.tlx_cmd_q, hi.capptag_fifo_tdata, hi.active_actag, hea, hbe, hstream,
      hpage]
  have hrec : s.netRecord i = t.netRecord j := by
    rw [netRecord, netRecord, h.cmdlookup, hi.capptag_fifo_tdata, hi.active_actag, hea, htag, hbe,
      hstream, hnetid]
  exact ⟨hcmd, rfl, by rw [takeNetCmd, takeNetCmd, h.tlx_data_valid_q, hi.tlx_data_tready],
    by rw [takeNetCmd, takeNetCmd, h.cmdlookup, hi.capptag_fifo_tdata, hrec],
    h.lookup_port_en_q, h.dflit_size_rty, hsize, h.smstate⟩

lemma datapath_alike (h : Alike s t) (hi : AlikeIn s i j) :
    Alike (s.datapath i) (t.datapath j) := by
  rw [datapath, datapath, ← h.smstate, ← hi.enable, ← hi.rty_in_tvalid, ← hi.tlx_cmd_tready,
    ← hi.netflit_in_tvalid, ← hi.capptag_fifo_tvalid, ← hi.tlx_data_tready, ← h.dflit_size_rty,
    ← h.dflit_size]
  have hcmd : (s.tlx_cmd_valid_q && !i.tlx_cmd_tready) = (t.tlx_cmd_valid_q && !j.tlx_cmd_tready) := by
    rw [h.tlx_cmd_valid_q, hi.tlx_cmd_tready]
  have hdata : (s.tlx_data_valid_q && !i.tlx_data_tready)
      = (t.tlx_data_valid_q && !j.tlx_data_tready) := by
    rw [h.tlx_data_valid_q, hi.tlx_data_tready]
  have hlookup : ({ s.cmdlookup with we := false } : LookupPort 256)
      = { t.cmdlookup with we := false } := by rw [h.cmdlookup]
  split_ifs with hinit hrty hnet hrtydata hdatain
  · exact ⟨by rw [assignActag, assignActag, h.tlx_cmd_q, hi.active_actag], rfl, rfl, h.cmdlookup,
      h.lookup_port_en_q, h.dflit_size_rty, h.dflit_size, h.smstate⟩
  · have hf := hi.rty_in_tdata hrty.1
    exact ⟨by rw [takeRtyCmd, takeRtyCmd, h.tlx_cmd_q, hf], rfl, hdata, hlookup,
      h.lookup_port_en_q, by rw [takeRtyCmd, takeRtyCmd, hf], h.dflit_size, h.smstate⟩
  · exact h.takeNetCmd_alike hi (hi.netflit_in_tdata hnet.2.1 hnet.1)
  · exact ⟨h.tlx_cmd_q, hcmd, rfl, h.cmdlookup, h.lookup_port_en_q,
      congrArg (· - 1) h.dflit_size_rty, h.dflit_size, h.smstate⟩
  · exact ⟨h.tlx_cmd_q, hcmd, rfl, hlookup, h.lookup_port_en_q, h.dflit_size_rty,
      congrArg (· - 1) h.dflit_size, h.smstate⟩
  · exact ⟨h.tlx_cmd_q, hcmd, hdata, hlookup, h.lookup_port_en_q, h.dflit_size_rty, h.dflit_size,
      h.smstate⟩

lemma nextSmstate_eq (h : Alike s t) (hi : AlikeIn s i j) :
    s.nextSmstate i = t.nextSmstate j := by
  rw [nextSmstate, nextSmstate, ← h.smstate, ← hi.enable, ← hi.rty_in_tvalid, ← hi.tlx_cmd_tready,
    ← hi.netflit_in_tvalid, ← hi.capptag_fifo_tvalid, ← hi.tlx_data_tready, ← h.dflit_size_rty,
    ← h.dflit_size]
  cases hsm : s.smstate with
  | INIT | RECEIVE_DATA => rfl
  | RECEIVE_CMD =>
      rw [← hi.rty_in_tdata hsm]
      cases hv : i.netflit_in_tvalid with
      | false => simp
      | true => rw [(hi.netflit_in_tdata hv hsm).bit_eq 253 (by decide) (by decide)]

/-- **One cycle of the memory ingress.** -/
theorem step (h : Alike s t) (hi : AlikeIn s i j) : Alike (s.step i) (t.step j) := by
  have hpath := h.datapath_alike hi
  exact ⟨hpath.tlx_cmd_q, hpath.tlx_cmd_valid_q, hpath.tlx_data_valid_q, hpath.cmdlookup,
    by rw [MemoryIngress.step, MemoryIngress.step, h.lookup_port_en_q, h.smstate, hi.enable],
    hpath.dflit_size_rty, hpath.dflit_size, h.nextSmstate_eq hi⟩

end Alike

end MemoryIngress

end ThymesisFlow
