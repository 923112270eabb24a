import ThymesisFlow.Llc.FramerFifo

/-!
# The framer when frames are sent again

What leaves the framer is a stream of data flits read from the store and of in-band messages.
`MsgInv` says which message is being sent; `Pipe` follows the read pipeline and the output, whatever
the control does; `Sender` adds that the store holds the last flits accepted, of which those from a
cursor on are unread.  Only a resend moves the cursor back.
-/

namespace ThymesisFlow

namespace Framer

variable {s : Framer} {i : FramerIn} {d : Flit}

/-! ## In-band messages -/

/-- The message being sent is the preamble, or a request, which has bit 0 set. -/
structure MsgInv (s : Framer) : Prop where
  sending : s.cmdrvalid = true → s.smcstate = .SMC_SEND
  frame : s.smcstate = .SMC_SEND → s.smstate = .SM_RM_SEND_PREAMBLE ∧ s.cmdframe = preambleFlit
    ∨ s.smstate = .SM_RETRANS_MSG_XMIT ∧ bit s.cmdframe 0 = true
  request : s.retrans_req_valid = true → bit s.retrans_frame 0 = true
  pending : s.smstate = .SM_RETRANS_MSG_XMIT
      ∨ s.smstate = .SM_RETRANS_REQ ∧ s.send_state_selector = .msgXmit →
    s.retrans_req_valid = true

/-- A request that is not being answered stays latched. -/
lemma request_stays (hv : s.retrans_req_valid = true) (hn : s.localServed = false) :
    s.nextRetransReqValid i = true ∧ s.nextRetransFrame i = s.retrans_frame := by
  simp [nextRetransReqValid, nextRetransFrame, latchesLocal, hv, hn]

/-- What the output is given next, and in which state: the state stays until the message is sent. -/
lemma MsgInv.frame_step (h : MsgInv s) (hctl : CtlInv s) (hsend : s.nextSmcstate i = .SMC_SEND) :
    s.smstate = .SM_RM_SEND_PREAMBLE ∧ s.nextSmstate = .SM_RM_SEND_PREAMBLE
        ∧ s.nextCmdframe i = preambleFlit
      ∨ s.smstate = .SM_RETRANS_MSG_XMIT ∧ s.nextSmstate = .SM_RETRANS_MSG_XMIT
        ∧ bit (s.nextCmdframe i) 0 = true := by
  rw [nextSmcstate] at hsend
  cases hpre : s.startsPreamble i with
  | true =>
      simp only [startsPreamble, SmState.resendPreambleActive, Bool.and_eq_true, decide_eq_true_eq,
        Bool.not_eq_true'] at hpre
      obtain ⟨⟨⟨hidle, hst⟩, hready⟩, hunsent⟩ := hpre
      refine .inl ⟨hst, by rw [nextSmstate, hst, hunsent]; rfl, ?_⟩
      simp [nextCmdframe, startsPreamble, SmState.resendPreambleActive, hidle, hst, hready, hunsent]
  | false =>
      cases hmsg : s.startsMsg i with
      | true =>
          have hframe : s.nextCmdframe i = s.retrans_frame := by
            simp [nextCmdframe, hpre, hmsg]
          simp only [startsMsg, SmState.activateResendMsgXmit, Bool.and_eq_true, decide_eq_true_eq,
            Bool.not_eq_true'] at hmsg
          obtain ⟨⟨⟨-, hst⟩, -⟩, hunsent⟩ := hmsg
          refine .inr ⟨hst, by rw [nextSmstate, hst, hunsent]; rfl, ?_⟩
          rw [hframe]
          exact h.request (h.pending (.inl hst))
      | false =>
          -- a copy is repeated
          rw [hpre, hmsg] at hsend
          cases hlast : s.lastCopySent i with
          | true => simp [hlast] at hsend
          | false =>
              have hold : s.smcstate = .SMC_SEND := by simpa [hlast] using hsend
              have hunsent : s.inband_msg_sent = false :=
                eq_false_of_ne_true fun hs => by simp [hctl.sent hs] at hold
              have hframe : s.nextCmdframe i = s.cmdframe := by
                simp [nextCmdframe, hpre, hmsg, hlast, hold]
              rw [hframe]
              rcases h.frame hold with ⟨hst, hcmd⟩ | ⟨hst, hcmd⟩
              · exact .inl ⟨hst, by rw [nextSmstate, hst, hunsent]; rfl, hcmd⟩
              · exact .inr ⟨hst, by rw [nextSmstate, hst, hunsent]; rfl, hcmd⟩

/-- A message is put out while the sending machine is at work. -/
lemma smc_of_cmdrvalid (hcmd : s.nextCmdrvalid i = true) : s.nextSmcstate i = .SMC_SEND := by
  rw [nextCmdrvalid] at hcmd
  rw [nextSmcstate]
  cases hstart : s.startsPreamble i || s.startsMsg i with
  | true => rfl
  | false =>
      rw [hstart, Bool.false_or] at hcmd
      simp only [copySent, Bool.and_eq_true, decide_eq_true_eq] at hcmd
      have hlast : s.lastCopySent i = false := by
        rw [lastCopySent, decide_eq_false hcmd.1.2, Bool.and_false, Bool.false_and]
      simp [hlast, hcmd.1.1]

/-- The message put into the pipeline in a cycle. -/
lemma MsgInv.message (h : MsgInv s) (hctl : CtlInv s) (hcmd : s.nextCmdrvalid i = true) :
    s.resend_rptr_lock = true
      ∧ (s.smstate = .SM_RM_SEND_PREAMBLE ∧ s.nextCmdframe i = preambleFlit
        ∨ s.smstate = .SM_RETRANS_MSG_XMIT ∧ bit (s.nextCmdframe i) 0 = true) := by
  rcases h.frame_step hctl (smc_of_cmdrvalid hcmd) with ⟨hst, -, hframe⟩ | ⟨hst, -, hframe⟩
  · exact ⟨hctl.held (by simp [hst]) (by simp [hst]), .inl ⟨hst, hframe⟩⟩
  · exact ⟨hctl.held (by simp [hst]) (by simp [hst]), .inr ⟨hst, hframe⟩⟩

/-- Which states a request is sent from. -/
lemma pending_step (h : s.nextSmstate = .SM_RETRANS_MSG_XMIT
      ∨ s.nextSmstate = .SM_RETRANS_REQ ∧ s.nextSendStateSelector = .msgXmit) :
    s.localServed = false ∧ (s.smstate = .SM_RETRANS_MSG_XMIT
      ∨ s.smstate = .SM_RETRANS_REQ ∧ s.send_state_selector = .msgXmit
      ∨ s.retrans_req_valid = true) := by
  rw [nextSmstate, nextSendStateSelector] at h
  rw [localServed]
  cases hst : s.smstate with
  | SM_IDLE =>
      refine ⟨rfl, .inr (.inr ?_)⟩
      rw [hst] at h
      cases hl : s.retrans_req_valid with
      | true => rfl
      | false => cases hr : s.remote_retrans_req_valid <;> simp [hl, hr] at h
  | SM_RETRANS_REQ =>
      refine ⟨rfl, .inr (.inl ⟨rfl, ?_⟩)⟩
      rw [hst] at h
      cases hsel : s.send_state_selector <;> cases hq : s.quiet <;> simp [hsel, hq] at h
      · rfl
      · rfl
  | SM_RETRANS_MSG_XMIT =>
      rw [hst] at h
      cases hsent : s.inband_msg_sent with
      | true => simp [hsent] at h
      | false => exact ⟨by simp, .inl rfl⟩
  | SM_RM_ACTIVATE_PATCHING =>
      rw [hst] at h
      cases hd : s.valid_patch_done <;> simp [hd] at h
  | SM_RM_SEND_PREAMBLE =>
      rw [hst] at h
      cases hd : s.inband_msg_sent <;> simp [hd] at h

/-- **Step lemma.** -/
lemma MsgInv.step (h : MsgInv s) (hctl : CtlInv s) : MsgInv (s.step i d) where
  sending hcmd := smc_of_cmdrvalid hcmd
  frame hsend := by
    rcases h.frame_step hctl hsend with ⟨-, hst, hframe⟩ | ⟨-, hst, hframe⟩
    · exact .inl ⟨hst, hframe⟩
    · exact .inr ⟨hst, hframe⟩
  request hv := by
    have hv' : s.nextRetransReqValid i = true := hv
    change bit (s.nextRetransFrame i) 0 = true
    rw [nextRetransReqValid] at hv'
    rw [nextRetransFrame]
    cases hl : s.latchesLocal i with
    | true =>
        rw [if_pos rfl, bit_setField_of_disjoint _ _ _ _ (.inl (by decide)), bit, getLsbD_setField]
        rfl
    | false =>
        cases hs : s.localServed with
        | true => simp [hl, hs] at hv'
        | false =>
            simp only [hl, hs, Bool.false_eq_true, if_false] at hv'
            simpa using h.request hv'
  pending hp := by
    obtain ⟨hserved, hold⟩ := pending_step hp
    have hv : s.retrans_req_valid = true := by
      rcases hold with hst | hst | hv
      · exact h.pending (.inl hst)
      · exact h.pending (.inr hst)
      · exact hv
    exact (request_stays hv hserved).1

lemma MsgInv.init : MsgInv {} := by
  constructor <;> simp

end Framer

namespace Tx

variable {t : Tx} {i : FramerIn} {q : List (Flit × Bool)} {k : ℕ}

/-! ## The read pipeline and the output -/

/-- What the output captures. -/
def captures (t : Tx) : List (Flit × Bool) := t.framer.captures t.read_data

/-- What a cycle puts into the pipeline, with its `tlast`. -/
def pipelined (t : Tx) (i : FramerIn) : List (Flit × Bool) :=
  if t.framer.reads i then [(t.content t.framer.reada, decide (t.framer.rdptr = 3))]
  else if t.framer.nextCmdrvalid i then [(t.framer.nextCmdframe i, true)]
  else []

/-- The output holds `q`, with room for what is in the pipeline. -/
structure Pipe (t : Tx) (q : List (Flit × Bool)) : Prop where
  holds : t.framer.buffer.Holds q
  room : t.captures ≠ [] → q.length < 2
  written : t.framer.writea = if t.framer.we then t.framer.wa + 1 else t.framer.wa

namespace Pipe

/-- What is captured in the next cycle is what this one puts into the pipeline: a read and a message
exclude each other. -/
lemma captures_step (h : Pipe t q) (hrange : t.framer.Unread k) (hctl : t.framer.CtlInv)
    (hmsg : t.framer.MsgInv) : (t.step i).captures = t.pipelined i := by
  have hnext : (t.step i).captures = if t.framer.nextDatarvalid i || t.framer.nextCmdrvalid i then
      [((t.framer.step i t.read_data).captured (t.mem t.framer.reada),
        t.framer.nextTlast i || t.framer.nextCmdrvalid i)]
      else [] := rfl
  rw [hnext, pipelined, Framer.nextDatarvalid]
  cases hr : t.framer.reads i with
  | true =>
      have hcmd : t.framer.nextCmdrvalid i = false := eq_false_of_ne_true fun hcmd => by
        rw [Framer.reads_of_lock (hmsg.message hctl hcmd).1] at hr
        cases hr
      have hold : t.framer.we = false → t.framer.wa = t.framer.writea := fun hwe => by
        rw [h.written, hwe, if_neg Bool.false_ne_true]
      have hfull : t.framer.all_full = true → t.framer.we = true →
          t.framer.reada ≠ t.framer.wa := fun hfull hwe hsame => by
        have hk := hrange.all_full_iff.mp hfull
        have hwa := hrange.writea_eq
        rw [h.written, hwe, if_pos rfl, hk, hsame] at hwa
        have hnat := congrArg BitVec.toNat hwa
        bv_omega
      rw [(Framer.rdValid_of_reads hrange hr).1, hcmd, tlast_of_reads hrange hr,
        captured_of_reads hrange hr hcmd hold hfull]
      simp
  | false =>
      cases hcmd : t.framer.nextCmdrvalid i with
      | false => rfl
      | true =>
          have hcmd' : (t.framer.step i t.read_data).cmdrvalid = true := hcmd
          have hframe : (t.framer.step i t.read_data).cmdframe = t.framer.nextCmdframe i := rfl
          rw [Framer.captured, hcmd', if_pos rfl, hframe]
          simp

/-- **One cycle of the pipeline and the output.** -/
lemma step (h : Pipe t q) (hrange : t.framer.Unread k) (hctl : t.framer.CtlInv)
    (hmsg : t.framer.MsgInv) :
    Pipe (t.step i) ((if i.fifo_out_tready then q.tail else q) ++ t.captures) where
  holds := Framer.buffer_captures h.holds h.room
  room hne := by
    rw [h.captures_step hrange hctl hmsg, pipelined] at hne
    refine Framer.room_step h.holds h.room ?_
    by_cases hr : t.framer.reads i = true
    · exact Framer.ready_of_reads hr
    · by_cases hcmd : t.framer.nextCmdrvalid i = true
      · simp only [Framer.nextCmdrvalid, Framer.startsPreamble, Framer.startsMsg, Framer.copySent,
          Bool.or_eq_true, Bool.and_eq_true] at hcmd
        rcases hcmd with (hcmd | hcmd) | hcmd
        · exact hcmd.1.2
        · exact hcmd.1.2
        · exact hcmd.2
      · simp [hr, hcmd] at hne
  written := Framer.wa_step

lemma init : Pipe {} [] where
  holds := .empty
  room h := absurd rfl h
  written := rfl

/-- What has been put into the pipeline goes out in order. -/
lemma flight_step (h : Pipe t q) (hrange : t.framer.Unread k) (hctl : t.framer.CtlInv)
    (hmsg : t.framer.MsgInv) :
    t.emitted i ++ ((if i.fifo_out_tready then q.tail else q) ++ t.captures) ++ (t.step i).captures
      = q ++ t.captures ++ t.pipelined i := by
  rw [h.captures_step hrange hctl hmsg, emitted_eq h.holds, ← List.append_assoc,
    h.holds.out_append i.fifo_out_tready]

end Pipe

/-! ## The store and its cursor -/

/-- `c` is the number of the flit that is read next among those accepted: the store holds the last
256 of them, and those from `c` on are marked valid. -/
structure Sender (t : Tx) (accepted : List Flit) (c : ℕ) : Prop where
  ctl : t.framer.CtlInv
  msg : t.framer.MsgInv
  patch : t.framer.PatchInv
  late : t.framer.LateFrame
  le : c ≤ accepted.length
  range : t.framer.Unread (accepted.length - c)
  write : t.framer.writea.toNat = accepted.length % 256
  stored : ∀ j (h : j < accepted.length), accepted.length ≤ j + 256 →
    t.content (BitVec.ofNat 8 j) = accepted[j]

namespace Sender

variable {as : List Flit} {c e : ℕ}

lemma read (h : Sender t as c) : t.framer.reada.toNat = c % 256 := by
  have hwr := h.range.write
  have hk := h.range.le
  have hle := h.le
  have hrd := t.framer.reada_lt
  rw [h.write, ringAdd] at hwr
  split_ifs at hwr <;> omega

/-- The pointers inside a frame, and the frames. -/
lemma rdptr_eq (h : Sender t as c) : t.framer.rdptr.toNat = c % 4 := by
  have hrd := h.read
  have hlt := t.framer.rdptr.isLt
  rw [Framer.reada, Framer.slot_toNat] at hrd
  omega

lemma wrptr_eq (h : Sender t as c) : t.framer.wrptr.toNat = as.length % 4
    ∧ t.framer.wrq.toNat = as.length / 4 % 64 := by
  have hwr := h.write
  have hlt := t.framer.wrptr.isLt
  rw [Framer.writea, Framer.slot_toNat] at hwr
  omega

/-- The flit that is read is the one at the cursor. -/
lemma reads_eq (h : Sender t as c) (hr : t.framer.reads i = true) :
    ∃ hc : c < as.length, t.content t.framer.reada = as[c] := by
  have hpos := (Framer.rdValid_of_reads h.range hr).2
  have hk := h.range.le
  have hc : c < as.length := by omega
  refine ⟨hc, ?_⟩
  have hrd : t.framer.reada = BitVec.ofNat 8 c := by
    apply BitVec.eq_of_toNat_eq
    rw [h.read, BitVec.toNat_ofNat]
  rw [hrd]
  exact h.stored c hc (by omega)

/-- **One cycle of the store.**  A resend sets the cursor, otherwise it moves with the reader. -/
lemma step (h : Sender t as c) (hok : t.StoreOk i)
    (hread : t.framer.patches = false → e = c + (t.framer.reads i).toNat)
    (hpatch : t.framer.patches = true →
      e + (4 * t.framer.replayLen + t.framer.wrptr.toNat) = as.length) :
    Sender (t.step i) (as ++ t.accepted i) e := by
  have hlen : (as ++ t.accepted i).length = as.length + (t.framer.accept i).toNat := by
    rw [List.length_append, accepted]
    cases t.framer.accept i <;> rfl
  have hreads : t.framer.reads i = true → c < as.length := fun hr => (h.reads_eq hr).1
  have hle := h.le
  have hrange : e ≤ (as ++ t.accepted i).length
      ∧ (t.step i).framer.Unread ((as ++ t.accepted i).length - e) := by
    rw [hlen]
    cases hp : t.framer.patches with
    | true =>
        have hc := hpatch hp
        have hnone := (hok.2.1 hp).1
        have hnext := Framer.unread_patch (d := t.read_data) h.range h.ctl h.patch h.late hok hp
        rw [hnone, Bool.toNat_false]
        refine ⟨by omega, ?_⟩
        have heq : as.length + 0 - e = 4 * t.framer.replayLen + t.framer.wrptr.toNat := by omega
        rw [heq]
        exact hnext
    | false =>
        have hc := hread hp
        have hnext := Framer.unread_step (i := i) (d := t.read_data) h.range hp hok.1
        have hone : (t.framer.reads i).toNat ≤ 1 := Bool.toNat_le _
        have hlt : c + (t.framer.reads i).toNat ≤ as.length := by
          cases hr : t.framer.reads i with
          | false => exact hle
          | true => exact hreads hr
        refine ⟨by omega, ?_⟩
        have heq : as.length + (t.framer.accept i).toNat - e
            = as.length - c + (t.framer.accept i).toNat - (t.framer.reads i).toNat := by omega
        rw [heq]
        exact hnext
  have hwrite := h.write
  refine ⟨Framer.ctlInv_step h.ctl, h.msg.step h.ctl, Framer.patchInv_step h.ctl h.patch hok.2.2,
    Framer.lateFrame_step h.range h.ctl h.patch hok, hrange.1, hrange.2, ?_, fun j hj hnew => ?_⟩
  · have hwa : (t.step i).framer.writea.toNat = _ := Framer.writea_step (i := i) (d := t.read_data)
    rw [hwa, hlen, hwrite]
    cases t.framer.accept i with
    | false => rfl
    | true =>
        rw [if_pos rfl, ringAdd, Bool.toNat_true]
        split_ifs <;> omega
  · rw [content_step]
    rw [hlen] at hj hnew
    have hwa : t.framer.writea = BitVec.ofNat 8 as.length := by
      apply BitVec.eq_of_toNat_eq
      rw [hwrite, BitVec.toNat_ofNat]
    cases hacc : t.framer.accept i with
    | false =>
        rw [hacc, Bool.toNat_false] at hj hnew
        simp only [Bool.false_and, Bool.false_eq_true, if_false, accepted, hacc, List.append_nil]
        exact h.stored j hj hnew
    | true =>
        rw [hacc, Bool.toNat_true] at hj hnew
        by_cases hlast : j = as.length
        · subst hlast
          simp [accepted, hacc, hwa]
        · have hne : t.framer.writea ≠ BitVec.ofNat 8 j := fun heq => by
            rw [hwa] at heq
            have hnat := congrArg BitVec.toNat heq
            rw [BitVec.toNat_ofNat, BitVec.toNat_ofNat] at hnat
            omega
          rw [decide_eq_false hne, Bool.and_false, if_neg Bool.false_ne_true,
            List.getElem_append_left (by omega)]
          exact h.stored j (by omega) (by omega)

lemma init : Sender {} [] 0 where
  ctl := Framer.ctlInv_init
  msg := Framer.MsgInv.init
  patch := .idle rfl rfl
  late := by simp [Framer.LateFrame]
  le := le_refl _
  range := ⟨by decide, by decide, by simp⟩
  write := rfl
  stored j hj := by cases hj

end Sender

end Tx

end ThymesisFlow
