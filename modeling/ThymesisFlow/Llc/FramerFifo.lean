import Mathlib.Data.List.Basic
import ThymesisFlow.Lib.TwoSlot
import ThymesisFlow.Llc.Store

/-!
# The framer without errors

As long as nobody asks for a retransmission the framer is a FIFO that puts frames of four flits
around what it passes on.  A flit is in one of three places: in the store, where it may still be on
its way to the BRAM; in the read pipeline; or in the two-entry output.  `FramerFifo` relates the
three to the flits that were accepted and those that were handed over.
-/

namespace ThymesisFlow

/-- The flits with their `tlast`: every fourth one ends a frame. -/
def framed (fs : List Flit) : List (Flit × Bool) := fs.mapIdx fun n f => (f, decide (n % 4 = 3))

lemma framed_concat (fs : List Flit) (f : Flit) :
    framed (fs ++ [f]) = framed fs ++ [(f, decide (fs.length % 4 = 3))] := by
  simp [framed, List.mapIdx_append]

lemma framed_append (fs gs : List Flit) : framed fs <+: framed (fs ++ gs) := by
  rw [framed, framed, List.mapIdx_append]
  exact List.prefix_append _ _

@[simp] lemma length_framed (fs : List Flit) : (framed fs).length = fs.length := List.length_mapIdx

/-- No retransmission is requested in the cycle. -/
def FramerIn.noRequest (i : FramerIn) : Prop :=
  i.resend_frame_id_valid = false ∧ i.remote_resend_frame_id_valid = false

instance (i : FramerIn) : Decidable i.noRequest := inferInstanceAs (Decidable (_ ∧ _))

namespace Framer

variable {s : Framer} {i : FramerIn} {d : Flit} {q : List (Flit × Bool)} {k : ℕ}

/-! ## The control part rests -/

/-- No request is known, and nothing is being sent in-band. -/
structure Quiet (s : Framer) : Prop where
  idle : s.smstate = .SM_IDLE
  remote : s.remote_retrans_req_valid = false
  loc : s.retrans_req_valid = false
  smc : s.smcstate = .SMC_IDLE
  cmd : s.cmdrvalid = false
  fix : s.fix_valids = false
  done : s.valid_patch_done = false
  lock : s.resend_rptr_lock = false
  rdy : s.rdy_lock = false

lemma Quiet.patches (h : s.Quiet) : s.patches = false := by simp [Framer.patches, h.done]

lemma Quiet.step (h : s.Quiet) (hi : i.noRequest) : (s.step i d).Quiet := by
  obtain ⟨hloc, hremote⟩ := hi
  have hloop : s.patchLoop = false := by simp [patchLoop, h.fix]
  have hstart : s.patchStart = false := by simp [patchStart, SmState.activatePatching, h.idle]
  have hclear : s.patchClear = true := by
    simp [patchClear, hloop, SmState.activatePatching, h.idle]
  have hpre : s.startsPreamble i = false := by
    simp [startsPreamble, SmState.resendPreambleActive, h.idle]
  have hmsg : s.startsMsg i = false := by
    simp [startsMsg, SmState.activateResendMsgXmit, h.idle]
  have hactive : s.smstate.resendReqActive = false := by simp [SmState.resendReqActive, h.idle]
  refine ⟨?_, ?_, ?_, ?_, ?_, ?_, ?_, ?_, ?_⟩
  · change s.nextSmstate = _
    rw [nextSmstate, h.idle, h.remote, h.loc]
    rfl
  · change s.nextRemoteRetransReqValid i = _
    simp [nextRemoteRetransReqValid, latchesRemote, hremote, h.remote]
  · change s.nextRetransReqValid i = _
    simp [nextRetransReqValid, latchesLocal, hloc, h.loc]
  · change s.nextSmcstate i = _
    simp [nextSmcstate, hpre, hmsg, lastCopySent, h.smc]
  · change s.nextCmdrvalid i = _
    simp [nextCmdrvalid, hpre, hmsg, copySent, h.smc]
  · change s.nextFixValids = _
    simp [nextFixValids, hstart, hclear]
  · change s.nextValidPatchDone = _
    simp [nextValidPatchDone, hloop, hclear]
  · change s.nextResendRptrLock i = _
    simp [nextResendRptrLock, hactive, h.lock]
  · change s.nextRdyLock i = _
    simp [nextRdyLock, hactive, writeLock, h.rdy]

/-! ## The output -/

/-- The two-entry output with its `tlast`. -/
def buffer (s : Framer) : TwoSlot (Flit × Bool) where
  ping := (s.data_out_ping, s.tlast_out_ping)
  ping_vld := s.ping_valid
  pong := (s.data_out_pong, s.tlast_out_pong)
  pong_vld := s.pong_valid
  turn_w := s.write_turn
  turn_r := s.read_turn

/-- The flit in the read pipeline, where `read_data` is the BRAM's output. -/
def fetched (s : Framer) (read_data : Flit) : List (Flit × Bool) :=
  if s.datarvalid then [(s.captured read_data, s.tlast)] else []

/-- What the output captures: the flit in the read pipeline or an in-band message. -/
def captures (s : Framer) (read_data : Flit) : List (Flit × Bool) :=
  if s.datarvalid || s.cmdrvalid then [(s.captured read_data, s.tlast || s.cmdrvalid)] else []

lemma captures_eq_fetched (hcmd : s.cmdrvalid = false) : s.captures d = s.fetched d := by
  simp [captures, fetched, hcmd]

/-- A read is issued only if the output has room for it in the cycle after. -/
lemma ready_eq (h : s.buffer.Holds q) : s.pingPongBufferReady i = (q.isEmpty || i.fifo_out_tready) := by
  have hempty : (s.ping_valid || s.pong_valid) = !q.isEmpty := by
    generalize hb : s.buffer = b at h
    have h1 : s.ping_valid = b.ping_vld := congrArg TwoSlot.ping_vld hb
    have h2 : s.pong_valid = b.pong_vld := congrArg TwoSlot.pong_vld hb
    rw [h1, h2]
    cases h <;> rfl
  have hnone : (!s.ping_valid && !s.pong_valid) = q.isEmpty := by
    rw [← Bool.not_or, hempty, Bool.not_not]
  rw [pingPongBufferReady, hempty, hnone]
  cases q.isEmpty <;> simp

/-- **The output in a cycle**: it takes what it captures and gives up its first flit. -/
lemma buffer_captures (h : s.buffer.Holds q) (hroom : s.captures d ≠ [] → q.length < 2) :
    (s.step i d).buffer.Holds ((if i.fifo_out_tready then q.tail else q) ++ s.captures d) := by
  have hnext : (s.step i d).buffer = {
      ping := (s.nextDataOutPing i d, s.nextTlastOutPing i)
      ping_vld := s.nextPingValid i
      pong := (s.nextDataOutPong i d, s.nextTlastOutPong i)
      pong_vld := s.nextPongValid i
      turn_w := s.nextWriteTurn
      turn_r := s.nextReadTurn i } := rfl
  rw [captures] at hroom ⊢
  rw [hnext]
  generalize hb : s.buffer = b at h
  have hping : s.ping_valid = b.ping_vld := congrArg TwoSlot.ping_vld hb
  have hpong : s.pong_valid = b.pong_vld := congrArg TwoSlot.pong_vld hb
  have hw : s.write_turn = b.turn_w := congrArg TwoSlot.turn_w hb
  have hr : s.read_turn = b.turn_r := congrArg TwoSlot.turn_r hb
  have hpingd : (s.data_out_ping, s.tlast_out_ping) = b.ping := congrArg TwoSlot.ping hb
  have hpongd : (s.data_out_pong, s.tlast_out_pong) = b.pong := congrArg TwoSlot.pong hb
  simp only [nextDataOutPing, nextTlastOutPing, nextPingValid, nextDataOutPong, nextTlastOutPong,
    nextPongValid, nextWriteTurn, nextReadTurn, clearsPing, clearsPong, writesPing, writesPong,
    pingPongValid, hw, hr, hping, hpong]
  generalize (s.datarvalid || s.cmdrvalid) = v at hroom ⊢
  cases h with
  | @empty x y r =>
      cases v <;> cases i.fifo_out_tready <;> cases r <;>
        first | exact .empty | exact .ping | exact .pong
  | @ping x y =>
      obtain rfl : (s.data_out_ping, s.tlast_out_ping) = x := hpingd
      cases v <;> cases i.fifo_out_tready <;>
        first | exact .empty | exact .ping | exact .pong | exact .pingPong
  | @pong x y =>
      obtain rfl : (s.data_out_pong, s.tlast_out_pong) = y := hpongd
      cases v <;> cases i.fifo_out_tready <;>
        first | exact .empty | exact .ping | exact .pong | exact .pongPing
  | @pingPong x y =>
      obtain rfl : (s.data_out_ping, s.tlast_out_ping) = x := hpingd
      obtain rfl : (s.data_out_pong, s.tlast_out_pong) = y := hpongd
      cases v with
      | true => exact absurd (hroom (by simp)) (by simp)
      | false => cases i.fifo_out_tready <;> first | exact .pong | exact .pingPong
  | @pongPing x y =>
      obtain rfl : (s.data_out_ping, s.tlast_out_ping) = x := hpingd
      obtain rfl : (s.data_out_pong, s.tlast_out_pong) = y := hpongd
      cases v with
      | true => exact absurd (hroom (by simp)) (by simp)
      | false => cases i.fifo_out_tready <;> first | exact .ping | exact .pongPing

/-- The output in a cycle without a message. -/
lemma buffer_step (h : s.buffer.Holds q) (hcmd : s.cmdrvalid = false)
    (hroom : s.datarvalid = true → q.length < 2) :
    (s.step i d).buffer.Holds ((if i.fifo_out_tready then q.tail else q) ++ s.fetched d) := by
  rw [← captures_eq_fetched hcmd]
  refine buffer_captures h fun hne => hroom ?_
  by_contra hd
  exact hne (by simp [captures, hcmd, hd])

/-! ## The store does not fill up -/

/-- The frame distance that is registered in a cycle covers the unread flits. -/
lemma unread_le_distance (h : Unread s k) (hk : k < 128) :
    k ≤ 4 * s.nextFrameDistance.toNat + 3 := by
  have hfull : s.all_full = false :=
    eq_false_of_ne_true fun hx => absurd (h.all_full_iff.mp hx) (by omega)
  have hwr := h.write
  have hp := s.wrptr.isLt
  have hp' := s.rdptr.isLt
  have hq := s.wrq.isLt
  have hq' := s.rdq.isLt
  rw [reada, writea, slot_toNat, slot_toNat, ringAdd] at hwr
  rw [nextFrameDistance, hfull]
  by_cases hlt : s.wrq < s.rdq
  · have hlt' : s.wrq.toNat < s.rdq.toNat := hlt
    have hdist : ((0x3f - s.rdq) + s.wrq + 1).toNat = 64 - s.rdq.toNat + s.wrq.toNat := by bv_omega
    rw [if_pos hlt, hdist]
    split_ifs at hwr <;> omega
  · have hle : s.rdq.toNat ≤ s.wrq.toNat := Nat.le_of_not_lt hlt
    have hdist : (s.wrq - s.rdq).toNat = s.wrq.toNat - s.rdq.toNat := by bv_omega
    rw [if_neg hlt, Bool.not_false, if_pos rfl, hdist]
    split_ifs at hwr <;> omega

lemma reada_advance (hp : s.patches = false) :
    (s.step i d).reada = if s.reads i then s.reada + 1 else s.reada := by
  have hstep := reada_step (i := i) (d := d) hp
  have hrd := s.reada_lt
  apply BitVec.eq_of_toNat_eq
  rw [hstep]
  cases s.reads i with
  | false => rfl
  | true =>
      rw [if_pos rfl, if_pos rfl, ringAdd]
      split_ifs <;> bv_omega

/-- The slots from the read position up to the write position. -/
lemma Unread.writea_eq (h : Unread s k) : s.writea = s.reada + BitVec.ofNat 8 k := by
  have hwr := h.write
  have hle := h.le
  have hrd := s.reada_lt
  apply BitVec.eq_of_toNat_eq
  rw [← hwr, ringAdd, BitVec.toNat_add, BitVec.toNat_ofNat]
  split_ifs <;> omega

/-- A slot that is read is valid. -/
lemma rdValid_of_reads (h : Unread s k) (hr : s.reads i = true) : s.rdValid = true ∧ 0 < k := by
  simp only [reads, Bool.and_eq_true] at hr
  have hk := h.all_not_empty_iff.mp hr.1.2
  have hrd := s.reada_lt
  refine ⟨?_, hk⟩
  rw [rdValid, bit, h.valid _ hrd, ringDist, if_pos (le_refl _), Nat.sub_self]
  exact decide_eq_true hk

/-- The slot written in a cycle is the one before the write position. -/
lemma wa_step : (s.step i d).writea
    = if (s.step i d).we then (s.step i d).wa + 1 else (s.step i d).wa := by
  have hstep := writea_step (s := s) (i := i) (d := d)
  have hlt := s.writea_lt
  change _ = if s.accept i then s.writea + 1 else s.writea
  apply BitVec.eq_of_toNat_eq
  rw [hstep]
  cases s.accept i with
  | false => rfl
  | true =>
      rw [if_pos rfl, if_pos rfl, ringAdd]
      split_ifs <;> bv_omega

/-- The output has room for what a cycle puts into the read pipeline. -/
lemma room_step (h : s.buffer.Holds q) (hroom : s.captures d ≠ [] → q.length < 2)
    (hready : s.pingPongBufferReady i = true) :
    ((if i.fifo_out_tready then q.tail else q) ++ s.captures d).length < 2 := by
  have hle := h.length_le
  have hone : (s.captures d).length ≤ 1 := by
    rw [captures]
    split_ifs <;> simp
  rw [ready_eq h] at hready
  rw [List.length_append]
  cases q with
  | nil =>
      rw [List.tail_nil, ite_self, List.length_nil]
      omega
  | cons x q =>
      simp only [List.isEmpty_cons, Bool.false_or] at hready
      rw [hready, if_pos rfl, List.tail_cons]
      rw [List.length_cons] at hle hroom
      by_cases hnil : s.captures d = []
      · rw [hnil, List.length_nil]
        omega
      · have := hroom hnil
        omega

lemma ready_of_reads (hr : s.reads i = true) : s.pingPongBufferReady i = true := by
  simp only [reads, Bool.and_eq_true] at hr
  exact hr.1.1

end Framer

/-- What is handed over in a cycle. -/
lemma emitted_eq {t : Tx} {q : List (Flit × Bool)} (h : t.framer.buffer.Holds q) (i : FramerIn) :
    t.emitted i = t.framer.buffer.out i.fifo_out_tready := by
  have hvalid : t.framer.fifoOutTvalid = t.framer.buffer.tvalid := by
    rw [h.tvalid_eq, Framer.fifoOutTvalid]
    generalize hb : t.framer.buffer = b at h
    have h1 : t.framer.ping_valid = b.ping_vld := congrArg TwoSlot.ping_vld hb
    have h2 : t.framer.pong_valid = b.pong_vld := congrArg TwoSlot.pong_vld hb
    rw [h1, h2]
    cases h <;> rfl
  have hdata : (t.framer.fifoOutTdata, t.framer.fifoOutTlast) = t.framer.buffer.tdata := by
    rw [Framer.fifoOutTdata, Framer.fifoOutTlast, TwoSlot.tdata, Framer.buffer]
    cases t.framer.read_turn <;> rfl
  rw [Tx.emitted, TwoSlot.out, hvalid, hdata]

/-! ## The transmitter -/

/-- What `f` holds in the `k` slots from `a` on. -/
def slots (f : BitVec 8 → Flit) (a : BitVec 8) (k : ℕ) : List Flit :=
  (List.range k).map fun j => f (a + BitVec.ofNat 8 j)

lemma slots_concat (f : BitVec 8 → Flit) (a : BitVec 8) (k : ℕ) :
    slots f a (k + 1) = slots f a k ++ [f (a + BitVec.ofNat 8 k)] := by
  rw [slots, List.range_succ, List.map_append]
  rfl

lemma slots_cons (f : BitVec 8 → Flit) (a : BitVec 8) (k : ℕ) :
    slots f a (k + 1) = f a :: slots f (a + 1) k := by
  rw [slots, List.range_succ_eq_map, List.map_cons, List.map_map]
  refine congrArg₂ _ (by simp) (List.map_congr_left fun j _ => congrArg f ?_)
  rw [Nat.succ_eq_add_one, BitVec.ofNat_add]
  ac_rfl

@[simp] lemma length_slots (f : BitVec 8 → Flit) (a : BitVec 8) (k : ℕ) : (slots f a k).length = k := by
  rw [slots, List.length_map, List.length_range]

namespace Tx

variable (t : Tx) {i : FramerIn} {k : ℕ}

/-- The flits of the `k` slots from the read position on. -/
def unread (k : ℕ) : List Flit := slots t.content t.framer.reada k

/-- The flit of the read pipeline. -/
def fetched : List (Flit × Bool) := t.framer.fetched t.read_data

variable {t}

lemma length_fetched : t.fetched.length = t.framer.datarvalid.toNat := by
  rw [fetched, Framer.fetched]
  cases t.framer.datarvalid <;> rfl

/-- The unread flits once the accepted one is stored. -/
lemma unread_accept (h : t.framer.Unread k) (hk : k < 256) :
    slots (t.step i).content t.framer.reada (k + (t.framer.accept i).toNat)
      = t.unread k ++ t.accepted i := by
  have hwa := h.writea_eq
  have hlow : slots (t.step i).content t.framer.reada k = t.unread k := by
    refine List.map_congr_left fun j hj => ?_
    have hlt := List.mem_range.mp hj
    have hne : t.framer.writea ≠ t.framer.reada + BitVec.ofNat 8 j := by
      rw [hwa]
      intro heq
      have hnat := congrArg BitVec.toNat ((BitVec.add_right_inj _).mp heq)
      rw [BitVec.toNat_ofNat, BitVec.toNat_ofNat] at hnat
      omega
    rw [content_step, decide_eq_false hne, Bool.and_false, if_neg Bool.false_ne_true]
  rw [accepted]
  cases hacc : t.framer.accept i with
  | false =>
      rw [if_neg Bool.false_ne_true, List.append_nil]
      exact hlow
  | true =>
      have hlast : (t.step i).content (t.framer.reada + BitVec.ofNat 8 k) = i.fifo_in_tdata := by
        rw [content_step, hacc, decide_eq_true hwa]
        rfl
      rw [if_pos rfl, Bool.toNat_true, slots_concat, hlow, hlast]

/-- The unread flits after a cycle: one may have been added, and one may have been read. -/
lemma unread_step (h : t.framer.Unread k) (hk : k < 256) (hp : t.framer.patches = false) :
    (if t.framer.reads i then [t.content t.framer.reada] else [])
      ++ (t.step i).unread (k + (t.framer.accept i).toNat - (t.framer.reads i).toNat)
        = t.unread k ++ t.accepted i := by
  have hreada : (t.step i).framer.reada = if t.framer.reads i then t.framer.reada + 1
      else t.framer.reada := Framer.reada_advance hp
  rw [← unread_accept h hk, unread, hreada]
  cases hr : t.framer.reads i with
  | false => rfl
  | true =>
      have hpos := (Framer.rdValid_of_reads h hr).2
      obtain ⟨n, hn⟩ : ∃ n, k + (t.framer.accept i).toNat = n + 1 :=
        ⟨k + (t.framer.accept i).toNat - 1, by omega⟩
      have hne : t.framer.writea ≠ t.framer.reada := by
        rw [h.writea_eq]
        intro heq
        have hnat := congrArg BitVec.toNat heq
        rw [BitVec.toNat_add, BitVec.toNat_ofNat] at hnat
        omega
      have hfirst : (t.step i).content t.framer.reada = t.content t.framer.reada := by
        rw [content_step, decide_eq_false hne, Bool.and_false, if_neg Bool.false_ne_true]
      rw [hn, slots_cons, hfirst]
      rfl

/-- The flit that is read comes out of the BRAM or around it: its slot may be written in the cycle
it is read. -/
lemma captured_of_reads (h : t.framer.Unread k) (hr : t.framer.reads i = true)
    (hcmd : t.framer.nextCmdrvalid i = false)
    (hold : t.framer.we = false → t.framer.wa = t.framer.writea)
    (hfull : t.framer.all_full = true → t.framer.we = true → t.framer.reada ≠ t.framer.wa) :
    (t.framer.step i t.read_data).captured (t.mem t.framer.reada) = t.content t.framer.reada := by
  have hcmd' : (t.framer.step i t.read_data).cmdrvalid = false := hcmd
  have hwb : (t.framer.step i t.read_data).read_wb
      = (decide (t.framer.reada = t.framer.wa) && !t.framer.all_full) := rfl
  have hstage : (t.framer.step i t.read_data).wd_stage2 = t.framer.wd := by
    change t.framer.nextWdStage2 i = _
    rw [Framer.nextWdStage2, hr, if_pos rfl]
  rw [Framer.captured, hcmd', if_neg Bool.false_ne_true, hwb, hstage, content]
  by_cases hsame : t.framer.reada = t.framer.wa
  · cases hwe : t.framer.we with
    | true =>
        have hnot : t.framer.all_full = false := eq_false_of_ne_true fun hx => hfull hx hwe hsame
        simp [hsame, hnot]
    | false =>
        -- the read position is the write position, so all slots are valid
        have hpos := (Framer.rdValid_of_reads h hr).2
        have hall : t.framer.all_full = true := by
          have hwa := hold hwe
          have hle := h.le
          rw [hwa, h.writea_eq] at hsame
          have hnat := congrArg BitVec.toNat hsame
          rw [BitVec.toNat_add, BitVec.toNat_ofNat] at hnat
          have hlt := t.framer.reada_lt
          exact h.all_full_iff.mpr (by omega)
        simp [hall]
  · simp [hsame, Ne.symm hsame]

lemma tlast_of_reads (h : t.framer.Unread k) (hr : t.framer.reads i = true) :
    t.framer.nextTlast i = decide (t.framer.rdptr = 3) := by
  rw [Framer.nextTlast, Framer.ready_of_reads hr, (Framer.rdValid_of_reads h hr).1]
  simp

/-! ## The invariant -/

/-- The parts of the framer in a run without requests: `k` flits are unread, and the output holds
`q`. -/
structure FramerFifo (t : Tx) (k : ℕ) (q : List (Flit × Bool)) : Prop where
  quiet : t.framer.Quiet
  range : t.framer.Unread k
  few : k ≤ 9 ∧ k ≤ 4 * t.framer.frame_distance.toNat + 4
  holds : t.framer.buffer.Holds q
  room : t.framer.datarvalid = true → q.length < 2
  written : t.framer.we = false → t.framer.wa = t.framer.writea

namespace FramerFifo

variable {q : List (Flit × Bool)}

lemma fetched_step (h : FramerFifo t k q) : (t.step i).fetched
    = if t.framer.reads i then [(t.content t.framer.reada, decide (t.framer.rdptr = 3))] else [] := by
  have hnext : (t.step i).fetched = if t.framer.nextDatarvalid i then
      [((t.framer.step i t.read_data).captured (t.mem t.framer.reada), t.framer.nextTlast i)]
      else [] := rfl
  rw [hnext, Framer.nextDatarvalid]
  cases hr : t.framer.reads i with
  | false => rfl
  | true =>
      have hvalid := (Framer.rdValid_of_reads h.range hr).1
      have hcmd : t.framer.nextCmdrvalid i = false := by
        have hidle := h.quiet.idle
        simp [Framer.nextCmdrvalid, Framer.startsPreamble, Framer.startsMsg, Framer.copySent,
          SmState.resendPreambleActive, SmState.activateResendMsgXmit, hidle, h.quiet.smc]
      have hfew := h.few.1
      have hcaptured := captured_of_reads h.range hr hcmd h.written fun hx _ => by
        have := h.range.all_full_iff.mp hx
        omega
      rw [if_pos rfl, if_pos hvalid, if_pos rfl, hcaptured, tlast_of_reads h.range hr]

/-- **One cycle of the three places.** -/
lemma step (h : FramerFifo t k q) (hi : i.noRequest) :
    FramerFifo (t.step i) (k + (t.framer.accept i).toNat - (t.framer.reads i).toNat)
      ((if i.fifo_out_tready then q.tail else q) ++ t.fetched) := by
  have hp := h.quiet.patches
  have hfew := h.few
  have haccept : t.framer.accept i = true → k ≤ 8 := by
    intro hacc
    simp only [Framer.accept, Framer.fifoInTready, Bool.and_eq_true, decide_eq_true_eq] at hacc
    have hfd : t.framer.frame_distance.toNat ≤ 1 := hacc.2.1
    omega
  have hfull : t.framer.accept i = true → t.framer.all_full = false := fun _ =>
    eq_false_of_ne_true fun hx => by
      have := h.range.all_full_iff.mp hx
      omega
  refine ⟨h.quiet.step hi, Framer.unread_step h.range hp hfull, ⟨?_, ?_⟩,
    Framer.buffer_step h.holds h.quiet.cmd h.room, fun hv => ?_, fun hwe => ?_⟩
  · cases hacc : t.framer.accept i with
    | false =>
        rw [Bool.toNat_false]
        omega
    | true =>
        have := haccept hacc
        rw [Bool.toNat_true]
        omega
  · have hdist : k ≤ 4 * (t.step i).framer.frame_distance.toNat + 3 :=
      Framer.unread_le_distance h.range (by omega)
    cases t.framer.accept i with
    | false =>
        rw [Bool.toNat_false]
        omega
    | true =>
        rw [Bool.toNat_true]
        omega
  · have hr : t.framer.reads i = true := by
      have hv' : t.framer.nextDatarvalid i = true := hv
      rw [Framer.nextDatarvalid] at hv'
      by_contra hr
      simp [hr] at hv'
    have hroom : t.framer.captures t.read_data ≠ [] → q.length < 2 := fun hne => h.room <| by
      by_contra hd
      exact hne (by simp [Framer.captures, hd, h.quiet.cmd])
    rw [fetched, ← Framer.captures_eq_fetched h.quiet.cmd]
    exact Framer.room_step h.holds hroom (Framer.ready_of_reads hr)
  · have hacc : t.framer.accept i = false := hwe
    have hstep : (t.step i).framer.writea.toNat = t.framer.writea.toNat := by
      have hx : (t.step i).framer.writea.toNat = _ := Framer.writea_step (i := i) (d := t.read_data)
      rw [hacc, if_neg Bool.false_ne_true] at hx
      exact hx
    exact (BitVec.eq_of_toNat_eq hstep).symm

lemma init : FramerFifo {} 0 [] where
  quiet := ⟨rfl, rfl, rfl, rfl, rfl, rfl, rfl, rfl, rfl⟩
  range := ⟨by decide, by decide, by simp⟩
  few := by decide
  holds := .empty
  room h := by cases h
  written _ := rfl

end FramerFifo

/-- The three places against the histories: `accepted` went in, `emitted` came out. -/
structure FifoTrace (t : Tx) (accepted : List Flit) (emitted : List (Flit × Bool)) (k : ℕ)
    (q : List (Flit × Bool)) : Prop where
  fifo : FramerFifo t k q
  flits : accepted = (emitted ++ q ++ t.fetched).map Prod.fst ++ t.unread k
  frames : emitted ++ q ++ t.fetched = framed ((emitted ++ q ++ t.fetched).map Prod.fst)
  phase : t.framer.rdptr.toNat = (emitted ++ q ++ t.fetched).length % 4

namespace FifoTrace

variable {q : List (Flit × Bool)} {as : List Flit} {es : List (Flit × Bool)}

/-- What is fetched goes behind everything that was fetched before. -/
lemma fetched_step (h : FifoTrace t as es k q) (i : FramerIn) :
    (es ++ t.emitted i) ++ ((if i.fifo_out_tready then q.tail else q) ++ t.fetched)
        ++ (t.step i).fetched
      = (es ++ q ++ t.fetched) ++ if t.framer.reads i then
        [(t.content t.framer.reada, decide (t.framer.rdptr = 3))] else [] := by
  have hout := h.fifo.holds.out_append i.fifo_out_tready
  rw [h.fifo.fetched_step, emitted_eq h.fifo.holds, List.append_assoc es, ← List.append_assoc _ _
    t.fetched, hout, ← List.append_assoc]

/-- **One cycle.** -/
lemma step (h : FifoTrace t as es k q) (hi : i.noRequest) :
    FifoTrace (t.step i) (as ++ t.accepted i) (es ++ t.emitted i)
      (k + (t.framer.accept i).toNat - (t.framer.reads i).toNat)
      ((if i.fifo_out_tready then q.tail else q) ++ t.fetched) := by
  have hfetched := h.fetched_step i
  have hp := h.fifo.quiet.patches
  have hfew := h.fifo.few.1
  have hunread := unread_step (i := i) h.fifo.range (by omega) hp
  have hrdptr : (t.step i).framer.rdptr = t.framer.nextRdptr i := rfl
  have hflits := h.flits
  have hframes := h.frames
  have hphase := h.phase
  generalize es ++ q ++ t.fetched = P at hfetched hflits hframes hphase
  refine ⟨h.fifo.step hi, ?_, ?_, ?_⟩
  · rw [hfetched, List.map_append, List.append_assoc, hflits, List.append_assoc, ← hunread]
    cases t.framer.reads i <;> rfl
  · rw [hfetched]
    cases t.framer.reads i with
    | false =>
        rw [if_neg Bool.false_ne_true, List.append_nil]
        exact hframes
    | true =>
        have h3 : decide (t.framer.rdptr = 3) = decide (P.length % 4 = 3) := by
          rw [← hphase]
          exact decide_eq_decide.mpr ⟨fun hx => by rw [hx]; rfl, fun hx => BitVec.eq_of_toNat_eq hx⟩
        rw [if_pos rfl, List.map_append, List.map_singleton, framed_concat, ← hframes,
          List.length_map, h3]
  · rw [hfetched, hrdptr, Framer.nextRdptr]
    cases t.framer.reads i with
    | false =>
        rw [if_neg Bool.false_ne_true, if_neg Bool.false_ne_true, List.append_nil]
        exact hphase
    | true =>
        have hlt := t.framer.rdptr.isLt
        rw [if_pos rfl, if_pos rfl, List.length_append, List.length_singleton]
        by_cases h3 : t.framer.rdptr = 3
        · rw [if_neg (not_not.mpr h3)]
          have hnat : t.framer.rdptr.toNat = 3 := by rw [h3]; rfl
          change 0 = _
          omega
        · have hnat : t.framer.rdptr.toNat ≠ 3 := fun hx => h3 (BitVec.eq_of_toNat_eq hx)
          rw [if_pos h3]
          bv_omega

lemma init : FifoTrace {} [] [] 0 [] := ⟨FramerFifo.init, rfl, rfl, rfl⟩

end FifoTrace

end Tx

/-! ## Every run -/

/-- The cycle brings no request. -/
def Tx.NoRequest (_ : Tx) (i : FramerIn) : Prop := i.noRequest

instance (t : Tx) (i : FramerIn) : Decidable (t.NoRequest i) := inferInstanceAs (Decidable i.noRequest)

/-- The flits of a run without requests. -/
lemma fifoTrace_run (is : List FramerIn) (h : txMachine.Meets Tx.NoRequest is) :
    ∃ k q, Tx.FifoTrace (txMachine.run is) (txMachine.collect Tx.accepted is)
      (txMachine.collect Tx.emitted is) k q :=
  txMachine.trace_invariant (P := fun t as es => ∃ k q, Tx.FifoTrace t as es k q)
    ⟨0, [], Tx.FifoTrace.init⟩ (fun _ _ _ _ ⟨_, _, hinv⟩ hi => ⟨_, _, hinv.step hi⟩) is h

/-- What has been handed over is a beginning of what was accepted, in frames of four. -/
lemma emitted_isPrefix (is : List FramerIn) (h : txMachine.Meets Tx.NoRequest is) :
    txMachine.collect Tx.emitted is <+: framed (txMachine.collect Tx.accepted is) := by
  obtain ⟨k, q, htrace⟩ := fifoTrace_run is h
  rw [htrace.flits]
  refine List.IsPrefix.trans ?_ (framed_append _ _)
  rw [← htrace.frames, List.append_assoc]
  exact List.prefix_append _ _

/-! ## The flits go out -/

/-- How far the first `n` flits are from being handed over: each has three places to go through. -/
def lag (n : ℕ) (is : List FramerIn) : ℕ :=
  let out := (txMachine.collect Tx.emitted is).length
  let buffered := out + (txMachine.run is).framer.buffer.count
  let fetched := buffered + (txMachine.run is).framer.datarvalid.toNat
  (n - out) + (n - buffered) + (n - fetched)

/-- A cycle in which the output is ready brings the flits closer. -/
lemma lag_step (n : ℕ) (is : List FramerIn) (i : FramerIn)
    (h : txMachine.Meets Tx.NoRequest (is ++ [i]))
    (hn : n ≤ (txMachine.collect Tx.accepted is).length) :
    lag n (is ++ [i]) ≤ lag n is ∧
      (i.fifo_out_tready = true → lag n is ≠ 0 → lag n (is ++ [i]) < lag n is) := by
  obtain ⟨hpre, hi⟩ := (txMachine.meets_concat _ is i).mp h
  obtain ⟨k, q, htrace⟩ := fifoTrace_run is hpre
  have hnext := htrace.step hi
  have hall := congrArg List.length htrace.flits
  have hreads : q = [] → 0 < k → (txMachine.run is).framer.reads i = true := by
    intro hq hk
    have hready := Framer.ready_eq (i := i) htrace.fifo.holds
    rw [hq] at hready
    have hne := htrace.fifo.range.all_not_empty_iff.mpr hk
    simp [Framer.reads, hready, hne, htrace.fifo.quiet.lock]
  have hbuf := htrace.fifo.holds.count_eq
  have hbuf' := hnext.fifo.holds.count_eq
  have hrun : (txMachine.run is).step i = txMachine.run (is ++ [i]) :=
    (txMachine.run_concat is i).symm
  rw [hrun] at hbuf'
  have hdata : (txMachine.run (is ++ [i])).framer.datarvalid.toNat
      = ((txMachine.run is).framer.reads i).toNat := by
    rw [← hrun, ← Tx.length_fetched, htrace.fifo.fetched_step]
    cases (txMachine.run is).framer.reads i <;> rfl
  have hout : (txMachine.collect Tx.emitted (is ++ [i])).length
      = (txMachine.collect Tx.emitted is).length + (if i.fifo_out_tready then q.take 1 else []).length := by
    rw [Machine.collect_concat, List.length_append, emitted_eq htrace.fifo.holds,
      htrace.fifo.holds.out_eq]
  have hread_le := ((txMachine.run is).framer.reads i).toNat_le
  simp only [lag, hbuf, hbuf', hdata, hout]
  simp only [List.length_append, List.length_map, Tx.length_fetched, Tx.unread, length_slots] at hall ⊢
  cases hready : i.fifo_out_tready with
  | false =>
      simp only [Bool.false_eq_true, if_false, List.length_nil, false_implies, and_true]
      omega
  | true =>
      simp only [if_true, List.length_take, List.length_tail, true_implies]
      cases q with
      | cons x q =>
          simp only [List.length_cons]
          omega
      | nil =>
          simp only [List.length_nil]
          cases hd : (txMachine.run is).framer.datarvalid with
          | true =>
              simp only [Bool.toNat_true]
              omega
          | false =>
              rw [hd] at hall
              simp only [Bool.toNat_false, List.length_nil] at hall ⊢
              by_cases hk : 0 < k
              · have hone := hreads rfl hk
                rw [hone, Bool.toNat_true]
                omega
              · omega

/-- After enough cycles in which the output is ready the flits have been handed over. -/
lemma lag_run (n : ℕ) (is js : List FramerIn) (h : txMachine.Meets Tx.NoRequest (is ++ js))
    (hn : n ≤ (txMachine.collect Tx.accepted is).length) :
    lag n (is ++ js) + (js.countP (·.fifo_out_tready)) ≤ lag n is ∨ lag n (is ++ js) = 0 := by
  induction js using List.reverseRecOn with
  | nil =>
      rw [List.append_nil, List.countP_nil]
      exact .inl (le_refl _)
  | append_singleton js i ih =>
      rw [← List.append_assoc] at h ⊢
      have hpre := ((txMachine.meets_concat _ _ i).mp h).1
      have hlen : n ≤ (txMachine.collect Tx.accepted (is ++ js)).length := by
        exact hn.trans (txMachine.collect_prefix _ (List.prefix_append is js)).length_le
      obtain ⟨hle, hlt⟩ := lag_step n (is ++ js) i h hlen
      rw [List.countP_append, List.countP_singleton]
      cases hready : i.fifo_out_tready with
      | false =>
          rw [if_neg Bool.false_ne_true]
          rcases ih hpre with hi | hi <;> omega
      | true =>
          have hlt' := hlt hready
          rw [if_pos rfl]
          rcases ih hpre with hi | hi <;> omega

/-- **Without requests the framer is a FIFO with framing.**  What it has handed over is at every cycle
a beginning of what it has accepted, with `tlast` on every fourth flit; and whatever it has accepted
is handed over once the output has been ready often enough. -/
theorem framer_fifo (is : List FramerIn) (h : txMachine.Meets Tx.NoRequest is) :
    txMachine.collect Tx.emitted is <+: framed (txMachine.collect Tx.accepted is) ∧
      ∀ js, txMachine.Meets Tx.NoRequest (is ++ js) →
        3 * (txMachine.collect Tx.accepted is).length ≤ js.countP (·.fifo_out_tready) →
        framed (txMachine.collect Tx.accepted is) <+: txMachine.collect Tx.emitted (is ++ js) := by
  refine ⟨emitted_isPrefix is h, fun js hjs hcount => ?_⟩
  have hpre := emitted_isPrefix (is ++ js) hjs
  have hacc := txMachine.collect_append Tx.accepted is js
  rw [hacc] at hpre
  refine List.prefix_of_prefix_length_le (framed_append _ _) hpre ?_
  rw [length_framed]
  have hlag := lag_run _ is js hjs (le_refl _)
  have hfirst : lag (txMachine.collect Tx.accepted is).length is
      ≤ 3 * (txMachine.collect Tx.accepted is).length := by
    simp only [lag]
    omega
  simp only [lag] at hlag
  simp only [lag] at hfirst
  omega

/-- Six flits, and a stall while the first one is taken. -/
theorem framer_fifo_six :
    let flit := fun n : BitVec 256 => ({ ReplayRun.idle with
      fifo_in_tdata := n, fifo_in_tvalid := true } : FramerIn)
    let is := [flit 1, flit 2, flit 3, { flit 4 with fifo_out_tready := false }, flit 5, flit 6]
    let js := List.replicate 18 ReplayRun.idle
    txMachine.Meets Tx.NoRequest (is ++ js) ∧
      framed [1, 2, 3, 4, 5, 6] <+: txMachine.collect Tx.emitted (is ++ js) := by
  intro flit is js
  have hmeets : txMachine.Meets Tx.NoRequest (is ++ js) := by decide +kernel
  have hpre : txMachine.Meets Tx.NoRequest is :=
    ((txMachine.meetsFrom_append _ _ is js).mp hmeets).1
  have hacc : txMachine.collect Tx.accepted is = [1, 2, 3, 4, 5, 6] := by decide +kernel
  have hlast := (framer_fifo is hpre).2 js hmeets
  rw [hacc] at hlast
  exact ⟨hmeets, hlast (by decide)⟩

end ThymesisFlow
