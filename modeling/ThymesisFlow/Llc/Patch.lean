import ThymesisFlow.Lib.Ring
import ThymesisFlow.Llc.Framer

/-!
# Setting up a replay

When the other side asks for the frames from `f` on, the framer waits for a frame boundary, marks
the frames `f, f + 1, …, wrq - 1` in `data_valid_resend` one a cycle and then raises
`valid_patch_done`.  `CtlInv` is what the control registers satisfy in every reachable state;
`PatchInv` follows the loop.
-/

namespace ThymesisFlow

namespace Framer

variable {s : Framer} {i : FramerIn} {d : Flit}

/-! ## Words as numbers -/

lemma rollover_eq (q : BitVec 6) : rollover q = q + 1 := by
  rw [rollover]
  split_ifs with h
  · rfl
  · rw [not_not] at h
    subst h
    rfl

lemma rollover_toNat (q : BitVec 6) : (rollover q).toNat = ringAdd 64 q.toNat 1 := by
  have hq := q.isLt
  have h1 : (1 : BitVec 6).toNat = 1 := rfl
  rw [rollover_eq, BitVec.toNat_add, h1, ringAdd]
  split_ifs <;> omega

lemma slot_toNat (q : BitVec 6) (p : BitVec 2) : (slot q p).toNat = 4 * q.toNat + p.toNat := by
  have hp := p.isLt
  rw [slot, BitVec.toNat_append, ← Nat.shiftLeft_add_eq_or_of_lt hp, Nat.shiftLeft_eq]
  omega

/-! ## The control registers -/

/-- The transitions of `smstate`, each with what it depends on. -/
inductive SmMove (s : Framer) : SmState → SmState → Prop
  | idle : SmMove s .SM_IDLE .SM_IDLE
  | request (h : s.remote_retrans_req_valid = true ∧ s.nextSendStateSelector = .activatePatching
      ∨ s.nextSendStateSelector = .msgXmit) : SmMove s .SM_IDLE .SM_RETRANS_REQ
  | wait : SmMove s .SM_RETRANS_REQ .SM_RETRANS_REQ
  | sendMsg (h : s.quiet = true) : SmMove s .SM_RETRANS_REQ .SM_RETRANS_MSG_XMIT
  | patch (h : s.quiet = true) (hsel : s.send_state_selector = .activatePatching) :
      SmMove s .SM_RETRANS_REQ .SM_RM_ACTIVATE_PATCHING
  | patching (h : s.valid_patch_done = false) :
      SmMove s .SM_RM_ACTIVATE_PATCHING .SM_RM_ACTIVATE_PATCHING
  | patched (h : s.valid_patch_done = true) :
      SmMove s .SM_RM_ACTIVATE_PATCHING .SM_RM_SEND_PREAMBLE
  | preamble (h : s.inband_msg_sent = false) : SmMove s .SM_RM_SEND_PREAMBLE .SM_RM_SEND_PREAMBLE
  | served (h : s.inband_msg_sent = true) : SmMove s .SM_RM_SEND_PREAMBLE .SM_IDLE
  | msg (h : s.inband_msg_sent = false) : SmMove s .SM_RETRANS_MSG_XMIT .SM_RETRANS_MSG_XMIT
  | msgSent (h : s.inband_msg_sent = true) : SmMove s .SM_RETRANS_MSG_XMIT .SM_IDLE

lemma smMove (s : Framer) : SmMove s s.smstate s.nextSmstate := by
  cases hs : s.smstate with
  | SM_IDLE =>
      rw [nextSmstate, hs]
      cases hr : s.remote_retrans_req_valid with
      | true => exact .request (.inl ⟨hr, by simp [nextSendStateSelector, hs, hr]⟩)
      | false =>
          cases hl : s.retrans_req_valid with
          | true => exact .request (.inr (by simp [nextSendStateSelector, hs, hr, hl]))
          | false => exact .idle
  | SM_RETRANS_REQ =>
      rw [nextSmstate, hs]
      cases hq : s.quiet with
      | false => exact .wait
      | true =>
          cases hsel : s.send_state_selector with
          | reset => exact .wait
          | msgXmit => exact .sendMsg hq
          | activatePatching => exact .patch hq hsel
  | SM_RM_ACTIVATE_PATCHING =>
      rw [nextSmstate, hs]
      cases hd : s.valid_patch_done with
      | true => exact .patched hd
      | false => exact .patching hd
  | SM_RM_SEND_PREAMBLE =>
      rw [nextSmstate, hs]
      cases hd : s.inband_msg_sent with
      | true => exact .served hd
      | false => exact .preamble hd
  | SM_RETRANS_MSG_XMIT =>
      rw [nextSmstate, hs]
      cases hd : s.inband_msg_sent with
      | true => exact .msgSent hd
      | false => exact .msg hd

/-- What the control registers satisfy in every reachable state. -/
structure CtlInv (s : Framer) : Prop where
  lock_rdptr : s.resend_rptr_lock = true → s.rdptr = 0
  held : s.smstate ≠ .SM_IDLE → s.smstate ≠ .SM_RETRANS_REQ → s.resend_rptr_lock = true
  no_data : s.resend_rptr_lock = true → s.smstate ≠ .SM_IDLE → s.smstate ≠ .SM_RETRANS_REQ →
    s.datarvalid = false
  writer : s.resend_rptr_lock = true → s.smstate ≠ .SM_IDLE → (s.wrptr = 0 ↔ s.rdy_lock = true)
  selector : s.smstate = .SM_RETRANS_REQ → s.send_state_selector = .activatePatching →
    s.remote_retrans_req_valid = true
  remote : s.smstate = .SM_RM_ACTIVATE_PATCHING ∨ s.smstate = .SM_RM_SEND_PREAMBLE →
    s.remote_retrans_req_valid = true
  smc : s.smstate = .SM_IDLE ∨ s.smstate = .SM_RETRANS_REQ ∨ s.smstate = .SM_RM_ACTIVATE_PATCHING →
    s.smcstate = .SMC_IDLE ∧ s.inband_msg_sent = false
  sent : s.inband_msg_sent = true → s.smcstate = .SMC_IDLE

lemma reads_of_lock (h : s.resend_rptr_lock = true) : s.reads i = false := by
  simp [reads, h]

lemma lock_rdptr_step (h : CtlInv s) :
    s.nextResendRptrLock i = true → s.nextRdptr i = 0 := by
  have hlock := h.lock_rdptr
  rw [nextResendRptrLock, nextRdptr]
  cases hr : s.reads i with
  | true =>
      have hunlocked : s.resend_rptr_lock = false := by
        cases hl : s.resend_rptr_lock with
        | false => rfl
        | true => rw [reads_of_lock hl] at hr; exact absurd hr (by simp)
      by_cases hp : s.rdptr = 3#2 <;> simp [hp, hunlocked]
  | false => by_cases hp : s.rdptr = 0#2 <;> simp_all

/-- The write pointer while a resend is active: at a frame boundary exactly if it is locked. -/
lemma writer_step (hact : s.smstate ≠ .SM_IDLE) :
    s.nextWrptr i = 0 ↔ s.nextRdyLock i = true := by
  have hactive : s.smstate.resendReqActive = true := by simp [SmState.resendReqActive, hact]
  have hrdy : s.accept i = true → s.rdy_lock = false := by
    intro h
    simp only [accept, fifoInTready, Bool.and_eq_true, Bool.not_eq_true'] at h
    exact h.2.2
  rw [nextWrptr, nextRdyLock, writeLock]
  cases hacc : s.accept i with
  | false => simp [hactive]
  | true =>
      have hp := s.wrptr.isLt
      by_cases h3 : s.wrptr = 3#2
      · simp [h3, hactive]
      · have hne : s.wrptr + 1#2 ≠ 0#2 := by
          intro h0
          have h1 := congrArg BitVec.toNat h0
          have h2 : s.wrptr.toNat ≠ 3 := fun h => h3 (BitVec.eq_of_toNat_eq h)
          rw [BitVec.toNat_add] at h1
          simp at h1
          omega
        simp [h3, hrdy hacc, hne]

lemma lock_of_quiet (h : s.quiet = true) : s.resend_rptr_lock = true := by
  simp only [quiet, Bool.and_eq_true] at h
  exact h.2

/-- The read pointer stays locked while a resend is active. -/
lemma lock_stays (h : CtlInv s) (hact : s.smstate ≠ .SM_IDLE) (hl : s.resend_rptr_lock = true) :
    s.nextResendRptrLock i = true := by
  simp [nextResendRptrLock, reads_of_lock hl, h.lock_rdptr hl, SmState.resendReqActive, hact]

/-- The read pointer is unlocked when a request is taken up. -/
lemma unlocked_step (h : CtlInv s) (hidle : s.smstate = .SM_IDLE) :
    s.nextResendRptrLock i = false := by
  rw [nextResendRptrLock]
  cases hl : s.resend_rptr_lock with
  | true => simp [reads_of_lock hl, h.lock_rdptr hl, hidle, SmState.resendReqActive]
  | false => simp [hidle, SmState.resendReqActive]

lemma held_step (h : CtlInv s) (h1 : s.nextSmstate ≠ .SM_IDLE)
    (h2 : s.nextSmstate ≠ .SM_RETRANS_REQ) :
    s.resend_rptr_lock = true ∧ s.smstate ≠ .SM_IDLE := by
  have hheld := h.held
  have hmove := smMove s
  generalize s.smstate = old at hmove hheld ⊢
  generalize s.nextSmstate = new at hmove h1 h2
  cases hmove with
  | idle => exact absurd rfl h1
  | request => exact absurd rfl h2
  | wait => exact absurd rfl h2
  | sendMsg hq => exact ⟨lock_of_quiet hq, by simp⟩
  | patch hq => exact ⟨lock_of_quiet hq, by simp⟩
  | patching => exact ⟨hheld (by simp) (by simp), by simp⟩
  | patched => exact ⟨hheld (by simp) (by simp), by simp⟩
  | preamble => exact ⟨hheld (by simp) (by simp), by simp⟩
  | served => exact absurd rfl h1
  | msg => exact ⟨hheld (by simp) (by simp), by simp⟩
  | msgSent => exact absurd rfl h1

lemma selector_step (h : CtlInv s) (h1 : s.nextSmstate = .SM_RETRANS_REQ)
    (hsel : s.nextSendStateSelector = .activatePatching) :
    s.remote_retrans_req_valid = true ∧ s.remoteServed = false := by
  have hselector := h.selector
  have hmove := smMove s
  rw [h1] at hmove
  rw [remoteServed]
  cases hs : s.smstate with
  | SM_IDLE =>
      rw [hs] at hmove
      cases hmove with
      | request hr =>
          rcases hr with hr | hr
          · exact ⟨hr.1, by simp⟩
          · rw [hsel] at hr; cases hr
  | SM_RETRANS_REQ =>
      rw [nextSendStateSelector, hs] at hsel
      exact ⟨hselector hs hsel, by simp⟩
  | SM_RETRANS_MSG_XMIT => rw [hs] at hmove; cases hmove
  | SM_RM_ACTIVATE_PATCHING => rw [hs] at hmove; cases hmove
  | SM_RM_SEND_PREAMBLE => rw [hs] at hmove; cases hmove

lemma remote_step (h : CtlInv s)
    (h1 : s.nextSmstate = .SM_RM_ACTIVATE_PATCHING ∨ s.nextSmstate = .SM_RM_SEND_PREAMBLE) :
    s.remote_retrans_req_valid = true ∧ s.remoteServed = false := by
  have hmove := smMove s
  have hselector := h.selector
  have hremote := h.remote
  rw [remoteServed]
  generalize s.smstate = old at hmove hselector hremote ⊢
  generalize s.nextSmstate = new at hmove h1
  cases hmove with
  | idle => simp at h1
  | request => simp at h1
  | wait => simp at h1
  | sendMsg => simp at h1
  | patch hq hsel => exact ⟨hselector rfl hsel, by simp⟩
  | patching => exact ⟨hremote (.inl rfl), by simp⟩
  | patched => exact ⟨hremote (.inl rfl), by simp⟩
  | preamble hn => exact ⟨hremote (.inr rfl), by simp [hn]⟩
  | served => simp at h1
  | msg => simp at h1
  | msgSent => simp at h1

/-- A request that is being served stays latched. -/
lemma remote_stays (hr : s.remote_retrans_req_valid = true ∧ s.remoteServed = false) :
    s.nextRemoteRetransReqValid i = true := by
  simp [nextRemoteRetransReqValid, latchesRemote, hr.1, hr.2]

/-- Messages are only sent in the two states that send them. -/
lemma smc_step (h : CtlInv s) (h1 : s.nextSmstate = .SM_IDLE ∨ s.nextSmstate = .SM_RETRANS_REQ
      ∨ s.nextSmstate = .SM_RM_ACTIVATE_PATCHING) :
    s.nextSmcstate i = .SMC_IDLE ∧ s.nextInbandMsgSent i = false := by
  have hsmc : s.smcstate = .SMC_IDLE ∧ (s.inband_msg_sent = true
      ∨ s.smstate.resendPreambleActive = false ∧ s.smstate.activateResendMsgXmit = false) := by
    have hmove := smMove s
    have hsmc := h.smc
    have hsent := h.sent
    generalize s.smstate = old at hmove hsmc ⊢
    generalize s.nextSmstate = new at hmove h1
    cases hmove with
    | idle => exact ⟨(hsmc (by simp)).1, .inr (by decide)⟩
    | request => exact ⟨(hsmc (by simp)).1, .inr (by decide)⟩
    | wait => exact ⟨(hsmc (by simp)).1, .inr (by decide)⟩
    | sendMsg => simp at h1
    | patch => exact ⟨(hsmc (by simp)).1, .inr (by decide)⟩
    | patching => exact ⟨(hsmc (by simp)).1, .inr (by decide)⟩
    | patched => simp at h1
    | preamble => simp at h1
    | served hs => exact ⟨hsent hs, .inl hs⟩
    | msg => simp at h1
    | msgSent hs => exact ⟨hsent hs, .inl hs⟩
  obtain ⟨hidle, hnone⟩ := hsmc
  have hstarts : s.startsPreamble i = false ∧ s.startsMsg i = false := by
    rcases hnone with hs | ⟨hp, hm⟩
    · simp [startsPreamble, startsMsg, hs]
    · simp [startsPreamble, startsMsg, hp, hm]
  simp [nextSmcstate, nextInbandMsgSent, hstarts.1, hstarts.2, hidle]

/-- **Step lemma.** -/
lemma ctlInv_step (h : CtlInv s) : CtlInv (s.step i d) where
  lock_rdptr := lock_rdptr_step h
  held h1 h2 :=
    let hold := held_step h h1 h2
    lock_stays h hold.2 hold.1
  no_data hl h1 h2 := by
    have hold := held_step h h1 h2
    exact if_neg (by simp [reads_of_lock hold.1])
  writer hl h1 := by
    refine writer_step fun hidle => ?_
    exact absurd ((unlocked_step h hidle).symm.trans hl) (by simp)
  selector h1 hsel := remote_stays (selector_step h h1 hsel)
  remote h1 := remote_stays (remote_step h h1)
  smc h1 := smc_step h h1
  sent hs := by
    have hs' : s.nextInbandMsgSent i = true := hs
    change s.nextSmcstate i = .SMC_IDLE
    have hsent := h.sent
    rw [nextInbandMsgSent] at hs'
    split_ifs at hs' with h1 h2
    · have hlast := h2
      simp only [lastCopySent, Bool.and_eq_true, decide_eq_true_eq] at hlast
      simp [nextSmcstate, startsPreamble, startsMsg, hlast.1.1, h2]
    · exact absurd (hsent hs') h1

lemma ctlInv_init : CtlInv {} := by
  constructor <;> simp

/-! ## The patch loop -/

/-- The number of frames `f, f + 1, …, wrq - 1`, which are the whole store if `f` is `wrq`. -/
def framesUpTo (f wrq : BitVec 6) : ℕ := if f = wrq then 64 else ringDist 64 f.toNat wrq.toNat

/-- The frames to send again. -/
def replayLen (s : Framer) : ℕ := framesUpTo s.remoteFrameId s.wrq

/-- `mask` marks all four flits of `k` frames from frame `f` on, and nothing else. -/
def Marks (mask : BitVec 256) (f k : ℕ) : Prop :=
  ∀ j < 256, mask.getLsbD j = decide (ringDist 64 f (j / 4) < k)

/-- The loop has marked `k` frames. -/
structure PatchRun (s : Framer) (k : ℕ) : Prop where
  fix : s.fix_valids = true
  set : s.resend_rdq_set = s.remoteFrameId
  rdq : s.resend_rdq.toNat = ringAdd 64 s.remoteFrameId.toNat k
  ahead : s.resend_rdq_one_ahead = rollover s.resend_rdq
  once : s.valid_once = decide (0 < k)
  le : k ≤ 64
  mask : Marks s.data_valid_resend s.remoteFrameId.toNat k

/-- Where the loop is.  A frame that was being written may be completed while the loop runs; then
the loop may end one frame early, and once more after the replay has begun. -/
inductive PatchInv (s : Framer) : Prop
  | idle (fix : s.fix_valids = false) (done : s.valid_patch_done = false)
  | marking (k : ℕ) (run : PatchRun s k) (state : s.smstate = .SM_RM_ACTIVATE_PATCHING)
      (done : s.valid_patch_done = false)
      (count : k = 0 ∨ k < s.replayLen ∨ s.replayLen = 1 ∧ k = 1)
  | marked (k : ℕ) (run : PatchRun s k) (state : s.smstate = .SM_RM_ACTIVATE_PATCHING)
      (done : s.valid_patch_done = true) (two : 2 ≤ k)
      (count : k = s.replayLen ∨ k + 1 = s.replayLen ∧ s.wrptr = 0)
  | sending (k : ℕ) (run : PatchRun s k) (state : s.smstate = .SM_RM_SEND_PREAMBLE)
      (done : s.valid_patch_done = true) (unsent : s.inband_msg_sent = false) (two : 2 ≤ k)
      (count : k = s.replayLen
        ∨ k + 1 = s.replayLen ∧ s.wrptr = 0 ∧ s.smcstate = .SMC_IDLE)

lemma replayLen_bounds (s : Framer) : 1 ≤ s.replayLen ∧ s.replayLen ≤ 64 := by
  have hf := s.remoteFrameId.isLt
  have hw := s.wrq.isLt
  rw [replayLen, framesUpTo]
  split_ifs with h
  · omega
  · have hne : s.remoteFrameId.toNat ≠ s.wrq.toNat := fun h0 => h (BitVec.eq_of_toNat_eq h0)
    rw [ringDist]
    split_ifs <;> omega

/-- One frame is to be sent again if the write queue is right behind it. -/
lemma eq_rollover_of_framesUpTo {f wrq : BitVec 6} (h : framesUpTo f wrq = 1) :
    wrq = rollover f := by
  have hf := f.isLt
  have hw := wrq.isLt
  have hroll := rollover_toNat f
  apply BitVec.eq_of_toNat_eq
  by_cases h0 : f = wrq
  · rw [framesUpTo, if_pos h0] at h
    omega
  · rw [framesUpTo, if_neg h0] at h
    rw [hroll]
    simp only [ringDist, ringAdd] at h ⊢
    split_ifs at h ⊢ <;> omega

/-- Frame `q` is the one `k` frames after the requested one exactly if `k` frames lead to it. -/
lemma eq_wrq_iff (s : Framer) {q : BitVec 6} {k : ℕ}
    (hq : q.toNat = ringAdd 64 s.remoteFrameId.toNat k) (h0 : 0 < k) (hk : k ≤ 64) :
    q = s.wrq ↔ k = s.replayLen := by
  have hf := s.remoteFrameId.isLt
  have hw := s.wrq.isLt
  have hiff : q = s.wrq ↔ q.toNat = s.wrq.toNat :=
    ⟨congrArg _, BitVec.eq_of_toNat_eq⟩
  rw [hiff, hq, replayLen, framesUpTo, ringAdd]
  by_cases h : s.remoteFrameId = s.wrq
  · have hn := congrArg BitVec.toNat h
    rw [if_pos h]
    split_ifs <;> omega
  · have hne : s.remoteFrameId.toNat ≠ s.wrq.toNat := fun h0 => h (BitVec.eq_of_toNat_eq h0)
    rw [if_neg h, ringDist]
    split_ifs <;> omega

lemma PatchRun.ahead_toNat {k : ℕ} (h : PatchRun s k) (hk : k < 64) :
    s.resend_rdq_one_ahead.toNat = ringAdd 64 s.remoteFrameId.toNat (k + 1) := by
  have hf := s.remoteFrameId.isLt
  rw [h.ahead, rollover_toNat, h.rdq]
  simp only [ringAdd]
  split_ifs <;> omega

/-- The loop goes on until it has marked as many frames as there are. -/
lemma PatchRun.patchLoop_eq {k : ℕ} (h : PatchRun s k) :
    s.patchLoop = true ↔ ¬ (0 < k ∧ k = s.replayLen) := by
  rw [patchLoop, h.fix, h.once]
  by_cases h0 : 0 < k
  · have hiff := eq_wrq_iff s h.rdq h0 h.le
    simp [h0, hiff]
  · simp [h0]

lemma PatchRun.patchLoop_done {k : ℕ} (h : PatchRun s k) (h0 : 0 < k) (hk : k = s.replayLen) :
    s.patchLoop = false :=
  Bool.eq_false_iff.mpr fun hl => h.patchLoop_eq.mp hl ⟨h0, hk⟩

/-- The frame one ahead is the write queue's exactly if one frame is left. -/
lemma PatchRun.fixValidsDone_eq {k : ℕ} (h : PatchRun s k) (hk : k < 64) :
    s.fixValidsDone = true ↔ 0 < k ∧ k + 1 = s.replayLen := by
  have hiff := eq_wrq_iff s (h.ahead_toNat hk) (Nat.succ_pos k) hk
  rw [fixValidsDone, h.once]
  simp [hiff, and_comm]

lemma marks_succ {m : BitVec 256} {f k : ℕ} {q : BitVec 6} (h : Marks m f k) (hf : f < 64)
    (hq : q.toNat = ringAdd 64 f k) :
    Marks (setField m (4 * q.toNat) 0xf#4) f (k + 1) := by
  intro j hj
  have hj4 : j / 4 < 64 := by omega
  have hsucc := ringDist_lt_succ (N := 64) (a := f) (i := j / 4) (d := k) hf hj4
  rw [getLsbD_setField, h j hj]
  by_cases hin : 4 * q.toNat ≤ j ∧ j < 4 * q.toNat + 4
  · have hbit : ∀ b < 4, (0xf#4).getLsbD b = true := by decide
    have hat : j / 4 = ringAdd 64 f k := by omega
    rw [if_pos hin, hbit _ (by omega), decide_eq_true (hsucc.mpr (.inr hat))]
    simpa using hj
  · have hat : j / 4 ≠ ringAdd 64 f k := by omega
    rw [if_neg hin]
    simp [hj, hsucc, hat]

/-- While a request is served the requested frame stays. -/
lemma remoteFrameId_step (h : CtlInv s)
    (hst : s.smstate = .SM_RM_ACTIVATE_PATCHING ∨ s.smstate = .SM_RM_SEND_PREAMBLE)
    (hn : s.remoteServed = false) : (s.step i d).remoteFrameId = s.remoteFrameId := by
  have hr := h.remote hst
  change field (s.nextRemoteRetransFrame i) 1 6 = field s.remote_retrans_frame 1 6
  simp [nextRemoteRetransFrame, latchesRemote, hr, hn]

/-- While a request is served the write queue moves at most once: by the last flit of a frame that
was begun before. -/
lemma wrq_step (h : CtlInv s)
    (hst : s.smstate = .SM_RM_ACTIVATE_PATCHING ∨ s.smstate = .SM_RM_SEND_PREAMBLE) :
    s.nextWrq i = s.wrq ∧ (s.wrptr = 0 → s.nextWrptr i = 0)
      ∨ s.wrptr = 3 ∧ s.nextWrq i = rollover s.wrq ∧ s.nextWrptr i = 0 := by
  have hne : s.smstate ≠ .SM_IDLE ∧ s.smstate ≠ .SM_RETRANS_REQ := by
    rcases hst with h | h <;> simp [h]
  have hwriter := h.writer (h.held hne.1 hne.2) hne.1
  cases hacc : s.accept i with
  | false => exact .inl ⟨by simp [nextWrq, hacc], by simp [nextWrptr, hacc]⟩
  | true =>
      have hrdy : s.rdy_lock = false := by
        simp only [accept, fifoInTready, Bool.and_eq_true, Bool.not_eq_true'] at hacc
        exact hacc.2.2
      by_cases h3 : s.wrptr = 3#2
      · exact .inr ⟨h3, by simp [nextWrq, hacc, h3], by simp [nextWrptr, hacc, h3]⟩
      · refine .inl ⟨by simp [nextWrq, hacc, h3], fun h0 => ?_⟩
        exact absurd (hwriter.mp h0) (by simp [hrdy])

/-- What a cycle does to the number of frames to send again, where the whole store is only asked
for at a frame boundary of the writer. -/
lemma replayLen_step (h : CtlInv s)
    (hst : s.smstate = .SM_RM_ACTIVATE_PATCHING ∨ s.smstate = .SM_RM_SEND_PREAMBLE)
    (hn : s.remoteServed = false) (hfull : s.remoteFrameId = s.wrq → s.wrptr = 0) :
    (s.step i d).replayLen = s.replayLen ∧ (s.wrptr = 0 → s.nextWrptr i = 0)
      ∨ (s.step i d).replayLen = s.replayLen + 1 ∧ s.nextWrptr i = 0 ∧ s.wrptr ≠ 0 := by
  have hid := remoteFrameId_step (i := i) (d := d) h hst hn
  rcases wrq_step (i := i) h hst with ⟨hw, hp⟩ | ⟨h3, hw, hp⟩
  · left
    have hw' : (s.step i d).wrq = s.wrq := hw
    exact ⟨by rw [replayLen, replayLen, hid, hw'], hp⟩
  · right
    have hw' : (s.step i d).wrq = rollover s.wrq := hw
    have hne : s.remoteFrameId ≠ s.wrq := fun h0 => by simp [hfull h0] at h3
    have hne' : s.remoteFrameId.toNat ≠ s.wrq.toNat := fun h0 => hne (BitVec.eq_of_toNat_eq h0)
    have hroll := rollover_toNat s.wrq
    have hf := s.remoteFrameId.isLt
    have hq := s.wrq.isLt
    refine ⟨?_, hp, by simp [h3]⟩
    rw [replayLen, replayLen, hid, hw', framesUpTo, framesUpTo, if_neg hne]
    by_cases heq : s.remoteFrameId = rollover s.wrq
    · have heq' := congrArg BitVec.toNat heq
      rw [hroll] at heq'
      rw [if_pos heq]
      simp only [ringDist, ringAdd] at heq' ⊢
      split_ifs at heq' ⊢ <;> omega
    · have heq' : s.remoteFrameId.toNat ≠ (rollover s.wrq).toNat :=
        fun h0 => heq (BitVec.eq_of_toNat_eq h0)
      rw [hroll] at heq'
      rw [if_neg heq, hroll]
      simp only [ringDist, ringAdd] at heq' ⊢
      split_ifs at heq' ⊢ <;> omega

/-- The first cycle of the loop. -/
lemma patchRun_start (hs : s.patchStart = true) (hid : (s.step i d).remoteFrameId = s.remoteFrameId) :
    PatchRun (s.step i d) 0 := by
  have hloop : s.patchLoop = false := by
    simp only [patchStart, Bool.and_eq_true, Bool.not_eq_true'] at hs
    exact hs.1.1
  have hf := s.remoteFrameId.isLt
  refine ⟨by simp [step, nextFixValids, hs], ?_, ?_, ?_, ?_, by omega, ?_⟩
  · rw [hid]
    simp [step, nextResendRdqSet, hs]
  · rw [hid]
    simp only [step, nextResendRdq, hloop, hs, if_true, ringAdd]
    simp
    omega
  · simp [step, nextResendRdqOneAhead, nextResendRdq, hloop, hs]
  · simp [step, nextValidOnce, hloop, hs]
  · intro j hj
    simp [step, nextDataValidResend, hloop, hs]

/-- A cycle of the loop. -/
lemma PatchRun.succ {k : ℕ} (h : PatchRun s k) (hl : s.patchLoop = true) (hk : k < 64)
    (hid : (s.step i d).remoteFrameId = s.remoteFrameId) : PatchRun (s.step i d) (k + 1) := by
  have hf := s.remoteFrameId.isLt
  have hstart : s.patchStart = false := by simp [patchStart, hl]
  have hclear : s.patchClear = false := by simp [patchClear, hl]
  refine ⟨by simp [step, nextFixValids, hstart, hclear, h.fix], ?_, ?_, ?_, ?_, hk, ?_⟩
  · rw [hid, ← h.set]
    simp [step, nextResendRdqSet, hstart]
  · rw [hid]
    change s.nextResendRdq.toNat = _
    rw [nextResendRdq, if_pos hl, rollover_toNat, h.rdq]
    simp only [ringAdd]
    split_ifs <;> omega
  · change s.nextResendRdqOneAhead = rollover s.nextResendRdq
    rw [nextResendRdqOneAhead, nextResendRdq, if_pos hl, if_pos hl, h.ahead]
  · simp [step, nextValidOnce, hl]
  · rw [hid]
    change Marks s.nextDataValidResend _ _
    rw [nextDataValidResend, if_pos hl]
    exact marks_succ h.mask hf h.rdq

/-- A cycle in which the loop rests. -/
lemma PatchRun.rest {k : ℕ} (h : PatchRun s k) (hl : s.patchLoop = false)
    (hstart : s.patchStart = false) (hclear : s.patchClear = false)
    (hid : (s.step i d).remoteFrameId = s.remoteFrameId) : PatchRun (s.step i d) k := by
  refine ⟨by simp [step, nextFixValids, hstart, hclear, h.fix], ?_, ?_, ?_, ?_, h.le, ?_⟩
  · rw [hid, ← h.set]
    simp [step, nextResendRdqSet, hstart]
  · rw [hid, ← h.rdq]
    simp [step, nextResendRdq, hl, hstart]
  · rw [show (s.step i d).resend_rdq_one_ahead = s.resend_rdq_one_ahead by
      simp [step, nextResendRdqOneAhead, hl, hstart], h.ahead]
    simp [step, nextResendRdq, hl, hstart]
  · rw [← h.once]
    simp [step, nextValidOnce, hl, hstart, hclear]
  · rw [hid, show (s.step i d).data_valid_resend = s.data_valid_resend by
      simp [step, nextDataValidResend, hl, hstart]]
    exact h.mask

/-- The whole store is asked for only at a frame boundary of the writer. -/
def WholeStoreOk (s : Framer) : Prop :=
  s.smstate = .SM_RM_ACTIVATE_PATCHING → s.remoteFrameId = s.wrq → s.wrptr = 0

lemma patchInv_start (h : CtlInv s) (hs : s.patchStart = true)
    (hst : s.smstate = .SM_RM_ACTIVATE_PATCHING) (hdone : s.valid_patch_done = false) :
    PatchInv (s.step i d) := by
  have hn : s.remoteServed = false := by simp [remoteServed, hst]
  have hloop : s.patchLoop = false := by
    simp only [patchStart, Bool.and_eq_true, Bool.not_eq_true'] at hs
    exact hs.1.1
  refine .marking 0 (patchRun_start hs (remoteFrameId_step h (.inl hst) hn)) ?_ ?_ (.inl rfl)
  · simp [step, nextSmstate, hst, hdone]
  · simp [step, nextValidPatchDone, hloop, hdone]

lemma patchInv_clear (hclear : s.patchClear = true) : PatchInv (s.step i d) := by
  have hc := hclear
  simp only [patchClear, Bool.and_eq_true, Bool.not_eq_true'] at hc
  have hstart : s.patchStart = false := by simp [patchStart, hc.2]
  exact .idle (by simp [step, nextFixValids, hstart, hclear])
    (by simp [step, nextValidPatchDone, hc.1, hclear])

/-- A cycle of the loop before its end. -/
lemma patchInv_marking (h : CtlInv s) (hok : WholeStoreOk s) {k : ℕ} (run : PatchRun s k)
    (hst : s.smstate = .SM_RM_ACTIVATE_PATCHING) (hdone : s.valid_patch_done = false)
    (hcount : k = 0 ∨ k < s.replayLen ∨ s.replayLen = 1 ∧ k = 1) : PatchInv (s.step i d) := by
  have hn : s.remoteServed = false := by simp [remoteServed, hst]
  have hid := remoteFrameId_step (i := i) (d := d) h (.inl hst) hn
  have hlen := replayLen_step (i := i) (d := d) h (.inl hst) hn (hok hst)
  have hbound := replayLen_bounds s
  have hloop := run.patchLoop_eq
  by_cases hend : 0 < k ∧ k = s.replayLen
  · -- the loop has run into the write queue without noticing: it starts again
    have hl := run.patchLoop_done hend.1 hend.2
    have hstart : s.patchStart = true := by
      simp [patchStart, hl, hst, hdone, SmState.activatePatching]
    exact patchInv_start h hstart hst hdone
  · have hl : s.patchLoop = true := hloop.mpr hend
    have hk : k < 64 := by omega
    have hnext := run.succ (i := i) (d := d) hl hk hid
    have hstate : (s.step i d).smstate = .SM_RM_ACTIVATE_PATCHING := by
      simp [step, nextSmstate, hst, hdone]
    have hdone' : (s.step i d).valid_patch_done = s.fixValidsDone := by
      simp [step, nextValidPatchDone, hl]
    have hfix := run.fixValidsDone_eq hk
    cases hd : s.fixValidsDone with
    | true =>
        obtain ⟨hpos, hone⟩ := hfix.mp hd
        refine .marked (k + 1) hnext hstate (hdone'.trans hd) (by omega) ?_
        rcases hlen with ⟨hlen, -⟩ | ⟨hlen, hp, -⟩
        · exact .inl (by omega)
        · exact .inr ⟨by omega, hp⟩
    | false =>
        have hnot : ¬ (0 < k ∧ k + 1 = s.replayLen) := fun hc => by simp [hfix.mpr hc] at hd
        refine .marking (k + 1) hnext hstate (hdone'.trans hd) ?_
        rcases hlen with ⟨hlen, -⟩ | ⟨hlen, -, -⟩ <;> omega

/-- The loop has ended: its result is held while the masks are patched. -/
lemma patchInv_marked (h : CtlInv s) (hok : WholeStoreOk s) {k : ℕ} (run : PatchRun s k)
    (hst : s.smstate = .SM_RM_ACTIVATE_PATCHING) (hdone : s.valid_patch_done = true) (two : 2 ≤ k)
    (hcount : k = s.replayLen ∨ k + 1 = s.replayLen ∧ s.wrptr = 0) : PatchInv (s.step i d) := by
  have hn : s.remoteServed = false := by simp [remoteServed, hst]
  have hid := remoteFrameId_step (i := i) (d := d) h (.inl hst) hn
  have hlen := replayLen_step (i := i) (d := d) h (.inl hst) hn (hok hst)
  have hbound := replayLen_bounds s
  have hloop := run.patchLoop_eq
  have hsmc := h.smc (.inr (.inr hst))
  have hstate : (s.step i d).smstate = .SM_RM_SEND_PREAMBLE := by
    simp [step, nextSmstate, hst, hdone]
  have hunsent : (s.step i d).inband_msg_sent = false := by
    simp [step, nextInbandMsgSent, hsmc.1]
  have hidle : (s.step i d).smcstate = .SMC_IDLE := by
    simp [step, nextSmcstate, startsPreamble, startsMsg, lastCopySent, hst, hsmc.1,
      SmState.resendPreambleActive, SmState.activateResendMsgXmit]
  rcases hcount with hk | ⟨hk, hp⟩
  · have hl := run.patchLoop_done (by omega) hk
    have hrest := run.rest (i := i) (d := d) hl (by simp [patchStart, hdone])
      (by simp [patchClear, hst, SmState.activatePatching]) hid
    refine .sending k hrest hstate ?_ hunsent two ?_
    · simp [step, nextValidPatchDone, hl, patchClear, hst, hdone, SmState.activatePatching]
    · rcases hlen with ⟨hlen, -⟩ | ⟨hlen, hp, -⟩
      · exact .inl (by omega)
      · exact .inr ⟨by omega, hp, hidle⟩
  · have hl : s.patchLoop = true := hloop.mpr (by omega)
    have hk64 : k < 64 := by omega
    refine .sending (k + 1) (run.succ hl hk64 hid) hstate ?_ hunsent (by omega) ?_
    · have hfix := (run.fixValidsDone_eq hk64).mpr ⟨by omega, hk⟩
      simp [step, nextValidPatchDone, hl, hfix]
    · rcases hlen with ⟨hlen, -⟩ | ⟨-, -, hp'⟩
      · exact .inl (by omega)
      · exact absurd hp hp'

/-- The replay has begun: the loop catches up with a frame completed meanwhile and is cleared. -/
lemma patchInv_sending (h : CtlInv s) {k : ℕ} (run : PatchRun s k)
    (hst : s.smstate = .SM_RM_SEND_PREAMBLE) (hunsent : s.inband_msg_sent = false) (two : 2 ≤ k)
    (hcount : k = s.replayLen ∨ k + 1 = s.replayLen ∧ s.wrptr = 0 ∧ s.smcstate = .SMC_IDLE) :
    PatchInv (s.step i d) := by
  have hn : s.remoteServed = false := by simp [remoteServed, hunsent]
  have hid := remoteFrameId_step (i := i) (d := d) h (.inr hst) hn
  have hbound := replayLen_bounds s
  have hloop := run.patchLoop_eq
  rcases hcount with hk | ⟨hk, hp, hidle⟩
  · have hl := run.patchLoop_done (by omega) hk
    exact patchInv_clear (by simp [patchClear, hl, hst, SmState.activatePatching])
  · have hl : s.patchLoop = true := hloop.mpr (by omega)
    have hk64 : k < 64 := by omega
    have hlen : (s.step i d).replayLen = s.replayLen := by
      rcases wrq_step (i := i) h (.inr hst) with ⟨hw, -⟩ | ⟨h3, -, -⟩
      · have hw' : (s.step i d).wrq = s.wrq := hw
        rw [replayLen, replayLen, hid, hw']
      · simp [hp] at h3
    refine .sending (k + 1) (run.succ hl hk64 hid) ?_ ?_ ?_ (by omega) (.inl (by omega))
    · simp [step, nextSmstate, hst, hunsent]
    · have hfix := (run.fixValidsDone_eq hk64).mpr ⟨by omega, hk⟩
      simp [step, nextValidPatchDone, hl, hfix]
    · simp [step, nextInbandMsgSent, hidle]

/-- **Step lemma.** -/
lemma patchInv_step (h : CtlInv s) (hp : PatchInv s) (hok : WholeStoreOk s) :
    PatchInv (s.step i d) := by
  cases hp with
  | idle fix done =>
      have hl : s.patchLoop = false := by simp [patchLoop, fix]
      by_cases hst : s.smstate = .SM_RM_ACTIVATE_PATCHING
      · refine patchInv_start h ?_ hst done
        simp [patchStart, hl, hst, done, SmState.activatePatching]
      · exact patchInv_clear (by simp [patchClear, hl, hst, SmState.activatePatching])
  | marking k run state done count => exact patchInv_marking h hok run state done count
  | marked k run state done two count => exact patchInv_marked h hok run state done two count
  | sending k run state done unsent two count => exact patchInv_sending h run state unsent two count

/-! ## Completion -/

/-- The conditions under which a replay is set up.  They concern the cycles of the patch loop: the
whole store is only asked for at a frame boundary of the writer; when the loop starts, the write
queue is not the frame right after the requested one; and no frame is completed in the very cycle
in which the loop finds its last one. -/
def PatchOk (s : Framer) (i : FramerIn) : Prop :=
  s.smstate = .SM_RM_ACTIVATE_PATCHING →
    (s.remoteFrameId = s.wrq → s.wrptr = 0)
      ∧ (s.patchStart = true → s.nextWrq i ≠ rollover s.remoteFrameId)
      ∧ (s.patchLoop = true → s.fixValidsDone = true → s.nextWrq i = s.wrq)

instance : Decidable (PatchOk s i) := by
  unfold PatchOk
  infer_instance

lemma PatchOk.wholeStoreOk (h : PatchOk s i) : WholeStoreOk s := fun hst => (h hst).1

/-- The loop is running, and will not run into the write queue. -/
structure Marking (s : Framer) (k : ℕ) : Prop where
  ctl : CtlInv s
  run : PatchRun s k
  state : s.smstate = .SM_RM_ACTIVATE_PATCHING
  done : s.valid_patch_done = false
  two : 2 ≤ s.replayLen
  count : k < s.replayLen

/-- The loop has just ended, with every frame up to the write queue marked. -/
structure Marked (s : Framer) : Prop where
  ctl : CtlInv s
  state : s.smstate = .SM_RM_ACTIVATE_PATCHING
  done : s.valid_patch_done = true
  set : s.resend_rdq_set = s.remoteFrameId
  mask : Marks s.data_valid_resend s.remoteFrameId.toNat s.replayLen

/-- One more frame is marked, or all of them have been. -/
lemma Marking.step {k : ℕ} (h : Marking s k) (hok : PatchOk s i) :
    (s.step i d).remoteFrameId = s.remoteFrameId
      ∧ (Marking (s.step i d) (k + 1) ∨ Marked (s.step i d)) := by
  obtain ⟨hctl, run, hst, hdone, two, hcount⟩ := h
  have hn : s.remoteServed = false := by simp [remoteServed, hst]
  have hid := remoteFrameId_step (i := i) (d := d) hctl (.inl hst) hn
  have hlen := replayLen_step (i := i) (d := d) hctl (.inl hst) hn (hok hst).1
  have hbound := replayLen_bounds s
  have hl : s.patchLoop = true := run.patchLoop_eq.mpr (by omega)
  have hk : k < 64 := by omega
  have hnext := run.succ (i := i) (d := d) hl hk hid
  have hctl' := ctlInv_step (i := i) (d := d) hctl
  have hstate : (s.step i d).smstate = .SM_RM_ACTIVATE_PATCHING := by
    simp [Framer.step, nextSmstate, hst, hdone]
  have hdone' : (s.step i d).valid_patch_done = s.fixValidsDone := by
    simp [Framer.step, nextValidPatchDone, hl]
  have hfix := run.fixValidsDone_eq hk
  refine ⟨hid, ?_⟩
  cases hd : s.fixValidsDone with
  | true =>
      obtain ⟨hpos, hone⟩ := hfix.mp hd
      have hw : (s.step i d).wrq = s.wrq := (hok hst).2.2 hl hd
      have hsame : (s.step i d).replayLen = k + 1 := by
        rw [replayLen, hid, hw, hone, replayLen]
      exact .inr ⟨hctl', hstate, hdone'.trans hd, hnext.set, hsame ▸ hnext.mask⟩
  | false =>
      have hnot : ¬ (0 < k ∧ k + 1 = s.replayLen) := fun hc => by simp [hfix.mpr hc] at hd
      refine .inl ⟨hctl', hnext, hstate, hdone'.trans hd, ?_, ?_⟩ <;>
        rcases hlen with ⟨hlen, -⟩ | ⟨hlen, -, -⟩ <;> omega

/-- The read position is forced to the first flit of the requested frame. -/
lemma Marked.read_position (h : Marked s) :
    (s.step i d).rdq = s.remoteFrameId ∧ (s.step i d).rdptr = 0 := by
  have hlock := h.ctl.held (by simp [h.state]) (by simp [h.state])
  constructor
  · rw [← h.set]
    simp [Framer.step, nextRdq, patches, h.done, h.state, SmState.resendPreambleActive]
  · simp [Framer.step, nextRdptr, reads_of_lock hlock, h.ctl.lock_rdptr hlock]

end Framer

namespace Tx

/-- The condition `PatchOk` on the framer of the transmitter. -/
def PatchOk (t : Tx) (i : FramerIn) : Prop := t.framer.PatchOk i

instance (t : Tx) (i : FramerIn) : Decidable (t.PatchOk i) :=
  inferInstanceAs (Decidable (t.framer.PatchOk i))

/-- The cycle with inputs `i` takes the framer into SM_RM_ACTIVATE_PATCHING. -/
def EntersPatching (t : Tx) (i : FramerIn) : Prop :=
  t.framer.smstate ≠ .SM_RM_ACTIVATE_PATCHING
    ∧ (t.step i).framer.smstate = .SM_RM_ACTIVATE_PATCHING

instance (t : Tx) (i : FramerIn) : Decidable (t.EntersPatching i) :=
  inferInstanceAs (Decidable (_ ∧ _))

/-- What is asked of a replay: from the state `t`, with the inputs `js`, `valid_patch_done` is
raised within 66 cycles; then exactly the frames from the latched one up to the write queue are
marked, and the next read position is the latched frame's first flit. -/
def ReplaySetUp (t : Tx) (js : List FramerIn) : Prop :=
  ∃ n ≤ 66,
    (∀ m < n, (txMachine.runFrom t (js.take m)).framer.valid_patch_done = false)
      ∧ let u := (txMachine.runFrom t (js.take n)).framer
        let f := t.framer.remoteFrameId
        u.valid_patch_done = true
          ∧ Framer.Marks u.data_valid_resend f.toNat (Framer.framesUpTo f u.wrq)
          ∧ ∀ i d, (u.step i d).rdq = f ∧ (u.step i d).rdptr = 0

end Tx

open Framer in
/-- **Run lemma.**  The control registers and the loop in every reachable state. -/
theorem ctlInv_run (is : List FramerIn) : CtlInv (txMachine.run is).framer :=
  txMachine.invariant_all (P := fun t => CtlInv t.framer) ctlInv_init
    (fun _ _ h => ctlInv_step h) is

open Framer in
theorem patchInv_run {ok : Tx → FramerIn → Prop} (hok : ∀ t i, ok t i → WholeStoreOk t.framer)
    (is : List FramerIn) (h : txMachine.Meets ok is) : PatchInv (txMachine.run is).framer := by
  have hinv := txMachine.invariant (P := fun t => CtlInv t.framer ∧ PatchInv t.framer)
    ⟨ctlInv_init, .idle rfl rfl⟩
    (fun t i hinv hi => ⟨ctlInv_step hinv.1, patchInv_step hinv.1 hinv.2 (hok t i hi)⟩) is h
  exact hinv.2

/-- A running loop ends within as many cycles as there are frames left in the store. -/
lemma marking_run (m k : ℕ) (hm : m + k = 64) (t : Tx) (js : List FramerIn)
    (h : t.framer.Marking k) (hjs : txMachine.MeetsFrom Tx.PatchOk t js) (hlen : m ≤ js.length) :
    ∃ n ≤ m, (∀ l < n, (txMachine.runFrom t (js.take l)).framer.valid_patch_done = false)
      ∧ (txMachine.runFrom t (js.take n)).framer.Marked
      ∧ (txMachine.runFrom t (js.take n)).framer.remoteFrameId = t.framer.remoteFrameId := by
  induction m generalizing k t js with
  | zero =>
      have hcount := h.count
      have hbound := t.framer.replayLen_bounds
      omega
  | succ m ih =>
      cases js with
      | nil => simp at hlen
      | cons j js =>
          obtain ⟨hj, hjs⟩ := hjs
          obtain ⟨hid, hnext⟩ := h.step (d := t.read_data) hj
          rcases hnext with hnext | hnext
          · obtain ⟨n, hn, hfirst, hmarked, hid'⟩ :=
              ih (k + 1) (by omega) (t.step j) js hnext hjs (by simpa using hlen)
            refine ⟨n + 1, by omega, ?_, hmarked, hid'.trans hid⟩
            intro l hl
            cases l with
            | zero => exact h.done
            | succ l => exact hfirst l (by omega)
          · refine ⟨1, by omega, ?_, hnext, hid⟩
            intro l hl
            obtain rfl : l = 0 := by omega
            exact h.done

/-- When the framer enters SM_RM_ACTIVATE_PATCHING the loop has not been started. -/
lemma entersPatching_fresh {t : Tx} {i : FramerIn}
    (hinv : t.framer.PatchInv) (hent : t.EntersPatching i) :
    (t.step i).framer.fix_valids = false ∧ (t.step i).framer.valid_patch_done = false := by
  obtain ⟨hold, hnew⟩ := hent
  have hmove := t.framer.smMove
  have hnew' : t.framer.nextSmstate = .SM_RM_ACTIVATE_PATCHING := hnew
  rw [hnew'] at hmove
  have hreq : t.framer.smstate = .SM_RETRANS_REQ := by
    generalize t.framer.smstate = old at hmove hold
    cases hmove with
    | patch => rfl
    | patching => exact absurd rfl hold
  cases hinv with
  | marking k run state => exact absurd state hold
  | marked k run state => exact absurd state hold
  | sending k run state => rw [hreq] at state; cases state
  | idle fix done =>
      have hclear : t.framer.patchClear = true := by
        simp [Framer.patchClear, Framer.patchLoop, fix, hreq, SmState.activatePatching]
      have hstart : t.framer.patchStart = false := by
        simp [Framer.patchStart, hreq, SmState.activatePatching]
      have hloop : t.framer.patchLoop = false := by simp [Framer.patchLoop, fix]
      constructor
      · simp [Tx.step, Framer.step, Framer.nextFixValids, hstart, hclear]
      · simp [Tx.step, Framer.step, Framer.nextValidPatchDone, hloop, hclear]

/-- **Replay set-up.**  In every run whose cycles meet `PatchOk`, whenever the framer enters
SM_RM_ACTIVATE_PATCHING the patch loop raises `valid_patch_done` within 66 cycles, with exactly the
frames from the latched one up to the write queue marked and the read position forced to the
latched frame. -/
theorem replay_set_up (is : List FramerIn) (i : FramerIn) (js : List FramerIn)
    (hrun : txMachine.Meets Tx.PatchOk (is ++ [i] ++ js))
    (hent : (txMachine.run is).EntersPatching i) (hlen : 66 ≤ js.length) :
    (txMachine.run (is ++ [i])).ReplaySetUp js := by
  rw [Machine.Meets, Machine.meetsFrom_append] at hrun
  obtain ⟨hpre, hjs⟩ := hrun
  have his := ((txMachine.meets_concat _ _ _).mp hpre).1
  have hctl := ctlInv_run (is ++ [i])
  have hinv := patchInv_run (fun t i h => h.wholeStoreOk) is his
  obtain ⟨hfix, hdone⟩ := entersPatching_fresh hinv hent
  have hst := hent.2
  rw [← Machine.run] at hjs
  rw [Machine.run_concat] at hctl hjs ⊢
  set t := txMachine.step (txMachine.run is) i with ht
  have hfix : t.framer.fix_valids = false := hfix
  have hdone : t.framer.valid_patch_done = false := hdone
  have hst : t.framer.smstate = .SM_RM_ACTIVATE_PATCHING := hst
  cases js with
  | nil => simp at hlen
  | cons j js =>
      obtain ⟨hj, hjs⟩ := hjs
      have hl : t.framer.patchLoop = false := by simp [Framer.patchLoop, hfix]
      have hstart : t.framer.patchStart = true := by
        simp [Framer.patchStart, hl, hst, hdone, SmState.activatePatching]
      have hn : t.framer.remoteServed = false := by simp [Framer.remoteServed, hst]
      have hid := Framer.remoteFrameId_step (i := j) (d := t.read_data) hctl (.inl hst) hn
      have hmarking : (t.step j).framer.Marking 0 := by
        have hbound := Framer.replayLen_bounds (t.step j).framer
        have hlen : (t.step j).framer.replayLen ≠ 1 := by
          have hne := (hj hst).2.1 hstart
          rw [Framer.replayLen, show (t.step j).framer.remoteFrameId = _ from hid]
          exact fun h1 => hne (Framer.eq_rollover_of_framesUpTo h1)
        refine ⟨Framer.ctlInv_step hctl, Framer.patchRun_start hstart hid, ?_, ?_, by omega,
          by omega⟩
        · simp [Tx.step, Framer.step, Framer.nextSmstate, hst, hdone]
        · simp [Tx.step, Framer.step, Framer.nextValidPatchDone, hl, hdone, Framer.patchClear, hst]
      obtain ⟨n, hn64, hfirst, hmarked, hid'⟩ :=
        marking_run 64 0 rfl (t.step j) js hmarking hjs (by simp at hlen; omega)
      refine ⟨n + 1, by omega, ?_, ?_⟩
      · intro m hm
        cases m with
        | zero => exact hdone
        | succ m => exact hfirst m (by omega)
      · have hid'' : (txMachine.runFrom (t.step j) (js.take n)).framer.remoteFrameId
            = t.framer.remoteFrameId := hid'.trans hid
        refine ⟨hmarked.done, ?_, fun i d => ?_⟩
        · rw [← hid'']
          exact hmarked.mask
        · rw [← hid'']
          exact hmarked.read_position

/-! ## The last frame alone -/

/-- One frame is to be sent again, the loop has not ended, and the writer is between frames. -/
structure Wedged (s : Framer) : Prop where
  ctl : s.CtlInv
  state : s.smstate = .SM_RM_ACTIVATE_PATCHING
  done : s.valid_patch_done = false
  one : s.replayLen = 1
  loop : s.fix_valids = false ∨ s.PatchRun 0 ∨ s.PatchRun 1

/-- Without a flit to accept a wedged framer stays wedged: the loop is started, marks the one frame
there is, and is started again. -/
lemma Wedged.step {s : Framer} (h : Wedged s) (i : FramerIn) (d : Flit)
    (hi : i.fifo_in_tvalid = false) : Wedged (s.step i d) := by
  obtain ⟨hctl, hst, hdone, hone, hloop⟩ := h
  have hn : s.remoteServed = false := by simp [Framer.remoteServed, hst]
  have hid := Framer.remoteFrameId_step (i := i) (d := d) hctl (.inl hst) hn
  have hw : (s.step i d).wrq = s.wrq := by
    simp [Framer.step, Framer.nextWrq, Framer.accept, hi]
  have hone' : (s.step i d).replayLen = 1 := by rw [Framer.replayLen, hid, hw, ← hone]; rfl
  have hst' : (s.step i d).smstate = .SM_RM_ACTIVATE_PATCHING := by
    simp [Framer.step, Framer.nextSmstate, hst, hdone]
  have hstarts : s.patchLoop = false → (s.step i d).PatchRun 0
      ∧ (s.step i d).valid_patch_done = false := by
    intro hl
    have hstart : s.patchStart = true := by
      simp [Framer.patchStart, hl, hst, hdone, SmState.activatePatching]
    refine ⟨Framer.patchRun_start hstart hid, ?_⟩
    simp [Framer.step, Framer.nextValidPatchDone, hl, hdone]
  refine (?_ : _ ∧ _).elim fun hrun hdone' =>
    ⟨Framer.ctlInv_step hctl, hst', hdone', hone', .inr hrun⟩
  rcases hloop with hfix | run | run
  · have hnew := hstarts (by simp [Framer.patchLoop, hfix])
    exact ⟨.inl hnew.1, hnew.2⟩
  · have hl : s.patchLoop = true := run.patchLoop_eq.mpr (by omega)
    have hfix : s.fixValidsDone = false :=
      Bool.eq_false_iff.mpr fun hf => by have := (run.fixValidsDone_eq (by omega)).mp hf; omega
    refine ⟨.inr (run.succ hl (by omega) hid), ?_⟩
    simp [Framer.step, Framer.nextValidPatchDone, hl, hfix]
  · have hnew := hstarts (run.patchLoop_done (by omega) hone.symm)
    exact ⟨.inl hnew.1, hnew.2⟩

lemma wedged_run (t : Tx) (h : Wedged t.framer) (js : List FramerIn)
    (hjs : ∀ j ∈ js, j.fifo_in_tvalid = false) : Wedged (txMachine.runFrom t js).framer := by
  induction js generalizing t with
  | nil => exact h
  | cons j js ih =>
      exact ih (t.step j) (h.step j _ (hjs j (by simp))) fun k hk => hjs k (by simp [hk])

namespace ReplayRun

/-- A cycle with no input and a ready output. -/
def idle : FramerIn := ⟨0, false, true, 0, false, 0, false⟩

/-- `n` frames are accepted and sent; then the other side asks for frame 0 again. -/
def inputs (n : ℕ) : List FramerIn :=
  List.replicate (4 * n) { idle with fifo_in_tvalid := true } ++ List.replicate 8 idle
    ++ [{ idle with remote_resend_frame_id_valid := true }] ++ List.replicate 2 idle

end ReplayRun

/-- Two frames are set up to be sent again. -/
theorem replay_set_up_two :
    (txMachine.run (ReplayRun.inputs 2 ++ [ReplayRun.idle])).ReplaySetUp
      (List.replicate 66 ReplayRun.idle) :=
  replay_set_up (ReplayRun.inputs 2) ReplayRun.idle (List.replicate 66 ReplayRun.idle)
    (by decide +kernel) (by decide +kernel) (by decide +kernel)

lemma wedgeRun_wedged :
    Wedged (txMachine.run (ReplayRun.inputs 1 ++ [ReplayRun.idle])).framer := by
  have hent : (txMachine.run (ReplayRun.inputs 1)).EntersPatching ReplayRun.idle := by
    decide +kernel
  have hok : txMachine.Meets Tx.PatchOk (ReplayRun.inputs 1) := by decide +kernel
  have hinv := patchInv_run (fun t i h => h.wholeStoreOk) (ReplayRun.inputs 1) hok
  obtain ⟨hfix, hdone⟩ := entersPatching_fresh hinv hent
  have hctl := ctlInv_run (ReplayRun.inputs 1 ++ [ReplayRun.idle])
  have hone : (txMachine.run (ReplayRun.inputs 1 ++ [ReplayRun.idle])).framer.replayLen = 1 := by
    decide +kernel
  have hst := hent.2
  rw [Machine.run_concat] at hctl hone ⊢
  exact ⟨hctl, hst, hdone, hone, .inl hfix⟩

/-- **The last frame sent is never set up.**  One frame has been sent and is asked for again; the
patch loop is entered, and while no new flit arrives `valid_patch_done` is never raised. -/
theorem last_frame_never_set_up :
    (txMachine.run (ReplayRun.inputs 1)).EntersPatching ReplayRun.idle
      ∧ ∀ js : List FramerIn, (∀ j ∈ js, j.fifo_in_tvalid = false) →
        (txMachine.runFrom (txMachine.run (ReplayRun.inputs 1 ++ [ReplayRun.idle]))
          js).framer.valid_patch_done = false :=
  ⟨by decide +kernel, fun js hjs => (wedged_run _ wedgeRun_wedged js hjs).done⟩

end ThymesisFlow
