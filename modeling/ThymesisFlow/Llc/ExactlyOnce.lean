import ThymesisFlow.Llc.LaneInv

/-!
# Exactly once, in order

A cycle of the framer adds a flit, or a message, to what is on its way, or applies a resend.  The
invariant of `LaneInv` survives all of them under `Lane.SendOk`, so in both directions of the link
what the parser has put out is a beginning of what the framer has accepted.
-/

namespace ThymesisFlow

namespace Lane

open Channel Receiver

variable {l : Lane} {i : FramerIn} {c : ℕ} {q : List (Flit × Bool)} {p : Receiver} {fs : List Flit}

/-! ## A resend -/

/-- What is known of the request while its frames are marked: `p` waits for the frame asked for, it
is stored with all those after it, and the frames on their way do nothing. -/
structure Patching (l : Lane) (c : ℕ) (p : Receiver) : Prop where
  stalled : p.stalled = true
  rest : ∀ w ∈ l.frames, p.Due l.accepted w ∧ ∀ crc_ok, p.hear w crc_ok = p
  sent : 4 * p.frames ≤ c
  kept : l.accepted.length ≤ 4 * p.frames + 256
  replayLen : p.frames + l.tx.framer.replayLen = l.accepted.length / 4
  whole : l.tx.framer.remoteFrameId = l.tx.framer.wrq → l.tx.framer.wrptr = 0

lemma Inv.patching (h : l.Inv c q p fs) (hok : l.SendOk i)
    (hst : l.tx.framer.smstate = .SM_RM_ACTIVATE_PATCHING) : l.Patching c p := by
  have hremote := h.sender.ctl.remote (.inl hst)
  obtain ⟨hstall, hid, hpre⟩ := h.asked hremote (by simp [hst])
  have hrest : ∀ w ∈ l.frames, p.Due l.accepted w ∧ ∀ crc_ok, p.hear w crc_ok = p := fun w hw =>
    ⟨fun hrun => (by rw [hstall] at hrun; cases hrun), hear_rest hstall (hpre w hw)⟩
  have hlevel := (leads_iff_of_rest hrest).mp h.leads
  rw [Level, if_neg (by simp [hst])] at hlevel
  have hle := h.stalled hstall
  have hemitted : l.emitted.length ≤ 4 * p.frames := by
    have hput := congrArg List.length h.put
    rw [List.length_append, List.length_take] at hput
    omega
  have hkept := hok.2.2 hst
  obtain ⟨hwrptr, hwrq⟩ := h.sender.wrptr_eq
  have hf : l.tx.framer.remoteFrameId.toNat = p.frames % 64 := by rw [hid, BitVec.toNat_ofNat]
  refine ⟨hstall, hrest, by omega, by omega, ?_, fun heq => ?_⟩
  · rw [Framer.replayLen, Framer.framesUpTo]
    by_cases heq : l.tx.framer.remoteFrameId = l.tx.framer.wrq
    · have hnat := congrArg BitVec.toNat heq
      rw [if_pos heq]
      omega
    · have hnat : l.tx.framer.remoteFrameId.toNat ≠ l.tx.framer.wrq.toNat :=
        fun hnat => heq (BitVec.eq_of_toNat_eq hnat)
      rw [if_neg heq, ringDist]
      split_ifs <;> omega
  · have hnat := congrArg BitVec.toNat heq
    apply BitVec.eq_of_toNat_eq
    change _ = 0
    omega

/-- A resend is applied at the end of the loop. -/
lemma Inv.patching_of_patches (h : l.Inv c q p fs) (hp : l.tx.framer.patches = true) :
    l.tx.framer.smstate = .SM_RM_ACTIVATE_PATCHING := by
  have hdone : l.tx.framer.valid_patch_done = true
      ∧ l.tx.framer.smstate ≠ .SM_RM_SEND_PREAMBLE := by
    simpa [Framer.patches, SmState.resendPreambleActive] using hp
  cases h.sender.patch with
  | idle fix done => simp [done] at hdone
  | marking k run state => exact state
  | marked k run state => exact state
  | sending k run state => exact absurd state hdone.2

lemma Inv.storeOk (h : l.Inv c q p fs) (hok : l.SendOk i) : l.tx.StoreOk i := by
  refine ⟨fun hacc => (hok.1 hacc).1, fun hp => ⟨eq_false_of_ne_true fun hacc => ?_, ?_⟩,
    fun hst => (h.patching hok hst).whole⟩
  · have hnone := (hok.1 hacc).2
    rw [hp] at hnone
    cases hnone
  · have hst := h.patching_of_patches hp
    have hpatch := h.patching hok hst
    have hlock := h.sender.ctl.held (by simp [hst]) (by simp [hst])
    have hrd := h.sender.ctl.lock_rdptr hlock
    have hframes := (h.sender.range.eq_frames hrd).1
    have hwrptr := h.sender.wrptr_eq.1
    have hrdptr := h.sender.rdptr_eq
    have hle := h.sender.le
    have hsent := hpatch.sent
    have hlen := hpatch.replayLen
    rw [hrd] at hrdptr
    change 0 = _ at hrdptr
    omega

/-! ## What a cycle of the framer adds -/

lemma flight_send (h : l.Inv c q p fs) :
    (l.send i).flight = l.flight ++ l.tx.pipelined i := by
  have hnext := h.pipe.step (i := i) h.sender.range h.sender.ctl h.sender.msg
  have hflight := h.pipe.flight_step (i := i) h.sender.range h.sender.ctl h.sender.msg
  have hitems : (l.send i).tx.framer.buffer.items = _ := hnext.holds.items_eq
  rw [flight, flight, h.pipe.holds.items_eq, hitems]
  change (l.wire ++ l.tx.emitted i) ++ _ ++ (l.tx.step i).captures = _
  rw [List.append_assoc, List.append_assoc, ← List.append_assoc (l.tx.emitted i), hflight,
    List.append_assoc, List.append_assoc, List.append_assoc]

/-- The frames that a cycle completes: none, the next data frame, or a message. -/
inductive Completes (l : Lane) (i : FramerIn) (c c' : ℕ) : List (List Flit) → Prop
  | none (hc : c' / 4 = c / 4) : Completes l i c c' []
  | data (hc : c' / 4 = c / 4 + 1) (hle : 4 * (c / 4 + 1) ≤ l.accepted.length)
      (hst : l.tx.framer.smstate ≠ .SM_RM_SEND_PREAMBLE) :
      Completes l i c c' [frameAt l.accepted (c / 4)]
  | message (m : Flit) (hc : c' = c)
      (hm : l.tx.framer.smstate = .SM_RM_SEND_PREAMBLE ∧ m = preambleFlit
        ∨ l.tx.framer.smstate = .SM_RETRANS_MSG_XMIT ∧ bit m 0 = true) :
      Completes l i c c' [[m]]

/-- What the cycle puts into the pipeline, as frames. -/
lemma Inv.completes (h : l.Inv c q p fs) :
    ∃ new, (l.send i).frames = l.frames ++ new
      ∧ Completes l i c (c + (l.tx.framer.reads i).toNat) new
      ∧ cutter.runFrom (l.send i).part (l.send i).flight
        = (l.accepted.take (c + (l.tx.framer.reads i).toNat)).drop
          (4 * ((c + (l.tx.framer.reads i).toNat) / 4)) := by
  have hframes : (l.send i).frames
      = l.frames ++ cutter.collectFrom cut ((l.accepted.take c).drop (4 * (c / 4)))
        (l.tx.pipelined i) := by
    rw [frames, flight_send h, ← h.last, frames]
    exact cutter.collectFrom_append cut _ _ _
  have hlast : cutter.runFrom (l.send i).part (l.send i).flight
      = cutter.runFrom ((l.accepted.take c).drop (4 * (c / 4))) (l.tx.pipelined i) := by
    rw [flight_send h, ← h.last]
    exact cutter.runFrom_append _ _ _
  have hrdptr := h.sender.rdptr_eq
  rw [hframes, hlast, Tx.pipelined]
  cases hr : l.tx.framer.reads i with
  | true =>
      obtain ⟨hc, hcontent⟩ := h.sender.reads_eq hr
      have hcut := last_append_getElem hc
      have hst : l.tx.framer.smstate ≠ .SM_RM_SEND_PREAMBLE := fun hst => by
        rw [Framer.reads_of_lock (h.sender.ctl.held (by simp [hst]) (by simp [hst]))] at hr
        cases hr
      rw [if_pos rfl, Bool.toNat_true, hcontent]
      by_cases h3 : l.tx.framer.rdptr = 3
      · have hmod : c % 4 = 3 := by rw [← hrdptr, h3]; rfl
        have hnext : 4 * ((c + 1) / 4) = c + 1 := by omega
        have hword : c + 1 = 4 * (c / 4 + 1) := by omega
        refine ⟨_, rfl, ?_, ?_⟩
        · have hdata : (l.accepted.take c).drop (4 * (c / 4)) ++ [l.accepted[c]]
              = frameAt l.accepted (c / 4) := by
            rw [hcut, frameAt, ← hword]
          rw [decide_eq_true h3]
          change Completes l i c (c + 1) [_ ++ [l.accepted[c]]]
          rw [hdata]
          exact .data (by omega) (by omega) hst
        · rw [decide_eq_true h3, hnext]
          change [] = _
          rw [List.drop_take_self]
      · have hmod : c % 4 ≠ 3 := fun hx => h3 (BitVec.eq_of_toNat_eq (hrdptr.trans hx))
        have hnext : (c + 1) / 4 = c / 4 := by omega
        refine ⟨_, rfl, ?_, ?_⟩
        · rw [decide_eq_false h3]
          exact .none hnext
        · rw [decide_eq_false h3, hnext, ← hcut]
          rfl
  | false =>
      rw [if_neg Bool.false_ne_true, Bool.toNat_false, Nat.add_zero]
      cases hcmd : l.tx.framer.nextCmdrvalid i with
      | false => exact ⟨_, rfl, .none rfl, rfl⟩
      | true =>
          obtain ⟨hlock, hm⟩ := h.sender.msg.message h.sender.ctl hcmd
          have hrd := h.sender.ctl.lock_rdptr hlock
          rw [hrd] at hrdptr
          have hmod : 4 * (c / 4) = c := by
            change 0 = _ at hrdptr
            omega
          have hnil : (l.accepted.take c).drop (4 * (c / 4)) = [] := by
            rw [hmod, List.drop_take_self]
          refine ⟨_, rfl, ?_, ?_⟩
          · rw [hnil]
            exact .message _ rfl hm
          · rw [hnil]
            rfl

/-- A request is no preamble. -/
lemma isPreamble_request {m : Flit} (h : bit m 0 = true) :
    (⟨[m], true⟩ : LinkFrame).isPreamble = false := by
  simp [LinkFrame.isPreamble, h]

/-- The preamble stays the next frame until it is sent; only a resend starts it. -/
lemma level_stays {s : Framer} {d : Flit} {n : ℕ} (hp : s.patches = false) {p : Receiver}
    (h : Level s n p) : Level (s.step i d) n p := by
  have hmove := Framer.smMove s
  have hnext : (s.step i d).smstate = s.nextSmstate := rfl
  rw [Level] at h ⊢
  rw [hnext]
  by_cases hst : s.smstate = .SM_RM_SEND_PREAMBLE
  · rw [if_pos hst] at h
    split_ifs
    · exact h
    · exact ⟨h.le, fun _ => h⟩
  · rw [if_neg hst] at h
    have hdone : s.valid_patch_done = false := by
      simpa [Framer.patches, SmState.resendPreambleActive, hst] using hp
    have hno : s.nextSmstate ≠ .SM_RM_SEND_PREAMBLE := fun hx => by
      rw [hx] at hmove
      generalize s.smstate = old at hmove hst
      cases hmove with
      | patched hd => simp [hdone] at hd
      | preamble => exact hst rfl
    rw [if_neg hno]
    exact h

/-- What a receiver that is up to date does with the frames of a cycle. -/
lemma Completes.leads {s : Framer} {c' : ℕ} {new ws : List (List Flit)}
    (h : Completes l i c c' new) (hs : s = l.tx.framer.step i l.tx.read_data)
    (hp : l.tx.framer.patches = false)
    (hleads : Leads hear (Due l.accepted) (Level l.tx.framer (c / 4)) p ws) :
    Leads hear (Due l.accepted) (Level s (c' / 4)) p (ws ++ new) := by
  subst hs
  cases h with
  | none hc =>
      rw [hc, List.append_nil]
      exact hleads.mono (fun _ _ hdue => hdue) fun _ hlevel => level_stays hp hlevel
  | data hc hle hst =>
      refine hleads.send fun p hlevel => ⟨fun hrun _ => ?_, fun crc_ok => ?_⟩
      · rw [Level, if_neg hst] at hlevel
        rw [hlevel.2 hrun]
        exact ⟨hle, rfl⟩
      · rw [hc]
        refine level_stays hp ?_
        have hdata : (⟨frameAt l.accepted (c / 4), crc_ok⟩ : LinkFrame).isInband = false := by
          simp [LinkFrame.isInband, length_frameAt hle]
        rw [Level, if_neg hst] at hlevel ⊢
        obtain ⟨hframes, hrun⟩ := hlevel
        rw [hear, step_data _ hdata]
        cases hstall : p.stalled with
        | true => exact ⟨by simpa using hframes.step, fun hx => by simp at hx⟩
        | false =>
            have heq := hrun hstall
            cases crc_ok with
            | true => simp [heq]
            | false => simpa using hframes.step
  | message m hc hm =>
      rw [hc]
      refine hleads.send fun p hlevel => ⟨fun _ hone => absurd rfl hone, fun crc_ok => ?_⟩
      refine level_stays hp ?_
      have hinband : (⟨[m], crc_ok⟩ : LinkFrame).isInband = true := rfl
      rw [hear, step_message _ hinband]
      rcases hm with ⟨hst, -⟩ | ⟨hst, hbit⟩
      · rw [Level, if_pos hst] at hlevel ⊢
        exact hlevel
      · have hno : (⟨[m], crc_ok⟩ : LinkFrame).isPreamble = false := by
          simp [LinkFrame.isPreamble, hbit]
        rw [hno]
        exact hlevel

/-- While no preamble is sent none is added. -/
lemma Completes.no_preamble {c' : ℕ} {new : List (List Flit)} (h : Completes l i c c' new)
    (hst : l.tx.framer.smstate ≠ .SM_RM_SEND_PREAMBLE) :
    ∀ w ∈ new, (⟨w, true⟩ : LinkFrame).isPreamble = false := by
  intro w hw
  cases h with
  | none => cases hw
  | data hc hle =>
      obtain rfl := List.mem_singleton.mp hw
      simp [LinkFrame.isPreamble, LinkFrame.isInband, length_frameAt hle]
  | message m hc hm =>
      obtain rfl := List.mem_singleton.mp hw
      rcases hm with ⟨hx, -⟩ | ⟨-, hbit⟩
      · exact absurd hx hst
      · exact isPreamble_request hbit

lemma Completes.sizes {c' : ℕ} {new : List (List Flit)} (h : Completes l i c c' new) :
    ∀ w ∈ new, w.length = 4 ∨ w.length = 1 := by
  intro w hw
  cases h with
  | none => cases hw
  | data hc hle =>
      obtain rfl := List.mem_singleton.mp hw
      exact .inl (length_frameAt hle)
  | message =>
      obtain rfl := List.mem_singleton.mp hw
      exact .inr rfl

/-! ## A cycle of the framer -/

/-- The flits accepted so far stay where they are. -/
lemma put_send (h : l.Inv c q p fs) :
    (l.send i).emitted ++ fs = (l.send i).accepted.take (4 * p.frames)
      ∧ 4 * p.frames ≤ (l.send i).accepted.length
      ∧ (p.stalled = true → 4 * (p.frames + 1) ≤ (l.send i).accepted.length) := by
  have hle := h.le
  have hlen : l.accepted.length ≤ (l.send i).accepted.length :=
    (List.prefix_append l.accepted (l.tx.accepted i)).length_le
  refine ⟨?_, by omega, fun hst => (h.stalled hst).trans hlen⟩
  change l.emitted ++ fs = (l.accepted ++ l.tx.accepted i).take _
  rw [List.take_append_of_le_length hle]
  exact h.put

/-- A cycle in which a resend is applied: the cursor goes back to the frame the receiver waits for. -/
lemma Inv.send_resend (h : l.Inv c q p fs) (hok : l.SendOk i)
    (hp : l.tx.framer.patches = true) : ∃ c' q', (l.send i).Inv c' q' p fs := by
  have hst := h.patching_of_patches hp
  have hpatch := h.patching hok hst
  have hlock := h.sender.ctl.held (by simp [hst]) (by simp [hst])
  have hr : l.tx.framer.reads i = false := Framer.reads_of_lock hlock
  have hdone : l.tx.framer.valid_patch_done = true := by
    rw [Framer.patches, Bool.and_eq_true] at hp
    exact hp.1
  have hst' : (l.send i).tx.framer.smstate = .SM_RM_SEND_PREAMBLE := by
    change l.tx.framer.nextSmstate = _
    rw [Framer.nextSmstate, hst, hdone]
    rfl
  obtain ⟨new, hframes, hnew, hlast⟩ := h.completes (i := i)
  -- nothing is added in this cycle
  obtain rfl : new = [] := by
    cases hnew with
    | none => rfl
    | data hc => rw [hr] at hc; simp at hc
    | message m hc hm => rcases hm with ⟨hx, -⟩ | ⟨hx, -⟩ <;> rw [hst] at hx <;> cases hx
  rw [List.append_nil] at hframes
  rw [hr, Bool.toNat_false, Nat.add_zero] at hlast
  have hcursor : 4 * p.frames + (4 * l.tx.framer.replayLen + l.tx.framer.wrptr.toNat)
      = l.accepted.length := by
    have hlen := hpatch.replayLen
    have hwrptr := h.sender.wrptr_eq.1
    omega
  have hsender := h.sender.step (i := i) (e := 4 * p.frames) (h.storeOk hok)
    (fun hx => by rw [hx] at hp; cases hp) fun _ => hcursor
  obtain ⟨hput, hle, hstalled⟩ := put_send (i := i) h
  have hmod : 4 * (c / 4) = c := by
    have hrdptr := h.sender.rdptr_eq
    rw [h.sender.ctl.lock_rdptr hlock] at hrdptr
    change 0 = _ at hrdptr
    omega
  refine ⟨_, _, hsender, h.pipe.step h.sender.range h.sender.ctl h.sender.msg, h.write, h.read, hput,
    hle, hstalled, ?_, ?_, ?_, fun _ hx => absurd hst' hx⟩
  · rw [hlast, hmod, List.drop_take_self, Nat.mul_div_cancel_left _ (by decide), List.drop_take_self]
  · rw [hframes]
    exact h.sizes
  · have hrest := hpatch.rest
    rw [← hframes] at hrest
    refine (leads_iff_of_rest fun w hw => ⟨(hrest w hw).1.append _, (hrest w hw).2⟩).mpr ?_
    rw [Level, if_pos hst', Nat.mul_div_cancel_left _ (by decide)]

/-- A request that is known after a cycle is either new, and then it is a good one, or it was known
before. -/
lemma asked_send (h : l.Inv c q p fs) (hok : l.SendOk i)
    (hv : (l.send i).tx.framer.remote_retrans_req_valid = true)
    (hst : (l.send i).tx.framer.smstate ≠ .SM_RM_SEND_PREAMBLE) :
    l.tx.framer.smstate ≠ .SM_RM_SEND_PREAMBLE ∧ p.stalled = true
      ∧ (l.send i).tx.framer.remoteFrameId = BitVec.ofNat 6 p.frames
      ∧ ∀ w ∈ l.frames, (⟨w, true⟩ : LinkFrame).isPreamble = false := by
  have hv' : l.tx.framer.nextRemoteRetransReqValid i = true := hv
  have hst' : l.tx.framer.nextSmstate ≠ .SM_RM_SEND_PREAMBLE := hst
  have hid : (l.send i).tx.framer.remoteFrameId = field (l.tx.framer.nextRemoteRetransFrame i) 1 6 :=
    rfl
  rw [hid]
  rw [Framer.nextRemoteRetransReqValid] at hv'
  rw [Framer.nextRemoteRetransFrame]
  cases hl : l.tx.framer.latchesRemote i with
  | true =>
      obtain ⟨hstall, hframe, hpre⟩ := hok.2.1 hl
      have hnew : l.tx.framer.remote_retrans_req_valid = false := by
        simp only [Framer.latchesRemote, Bool.and_eq_true, Bool.not_eq_true'] at hl
        exact hl.2
      refine ⟨fun hx => ?_, by rw [← h.write.stall]; exact hstall, ?_, hpre⟩
      · rw [h.sender.ctl.remote (.inr hx)] at hnew
        cases hnew
      · rw [if_pos rfl, field_setField_of_disjoint _ _ _ _ (.inl (by decide)),
          field_setField_self _ _ _ (by decide), hframe, h.write.id]
  | false =>
      cases hs : l.tx.framer.remoteServed with
      | true => simp [hl, hs] at hv'
      | false =>
          simp only [hl, hs, Bool.false_eq_true, if_false] at hv' ⊢
          have hno : l.tx.framer.smstate ≠ .SM_RM_SEND_PREAMBLE := fun hx => by
            have hunsent : l.tx.framer.inband_msg_sent = false := by
              simpa [Framer.remoteServed, hx] using hs
            refine hst' ?_
            rw [Framer.nextSmstate, hx, hunsent]
            rfl
          exact ⟨hno, h.asked hv' hno⟩

/-- A cycle without a resend. -/
lemma Inv.send_next (h : l.Inv c q p fs) (hok : l.SendOk i)
    (hp : l.tx.framer.patches = false) : ∃ c' q', (l.send i).Inv c' q' p fs := by
  obtain ⟨new, hframes, hnew, hlast⟩ := h.completes (i := i)
  have hsender := h.sender.step (i := i) (h.storeOk hok) (fun _ => rfl)
    (fun hx => by rw [hx] at hp; cases hp)
  obtain ⟨hput, hle, hstalled⟩ := put_send (i := i) h
  have hcursor : c + (l.tx.framer.reads i).toNat ≤ l.accepted.length := by
    cases hr : l.tx.framer.reads i with
    | false => exact h.sender.le
    | true => exact (h.sender.reads_eq hr).1
  refine ⟨_, _, hsender, h.pipe.step h.sender.range h.sender.ctl h.sender.msg, h.write, h.read, hput,
    hle, hstalled, ?_, fun w hw => ?_, ?_, fun hv hst => ?_⟩
  · rw [hlast]
    change _ = ((l.accepted ++ l.tx.accepted i).take _).drop _
    rw [List.take_append_of_le_length hcursor]
  · rw [hframes] at hw
    rcases List.mem_append.mp hw with hw | hw
    · exact h.sizes w hw
    · exact hnew.sizes w hw
  · rw [hframes]
    exact (hnew.leads rfl hp h.leads).mono (fun _ _ hdue => hdue.append _) fun _ hlevel => hlevel
  · obtain ⟨hno, hstall, hid, hpre⟩ := asked_send h hok hv hst
    refine ⟨hstall, hid, fun w hw => ?_⟩
    rw [hframes] at hw
    rcases List.mem_append.mp hw with hw | hw
    · exact hpre w hw
    · exact hnew.no_preamble hno w hw

/-- **The framer's side of the step lemma.** -/
lemma Inv.send (h : l.Inv c q p fs) (hok : l.SendOk i) : ∃ c' q', (l.send i).Inv c' q' p fs := by
  cases hp : l.tx.framer.patches with
  | true => exact h.send_resend hok hp
  | false => exact h.send_next hok hp

/-- What the parser has put out is a beginning of what the framer has accepted. -/
lemma Inv.isPrefix (h : l.Inv c q p fs) : l.emitted <+: l.accepted := by
  have hput := List.take_prefix (4 * p.frames) l.accepted
  rw [← h.put] at hput
  exact (List.prefix_append l.emitted fs).trans hput

end Lane

/-! ## Every run of the link -/

/-- Both lanes keep their invariant. -/
def LlcLink.Inv (l : LlcLink) : Prop :=
  (∃ c q p fs, l.ab.Inv c q p fs) ∧ ∃ c q p fs, l.ba.Inv c q p fs

/-- **Step lemma.** -/
lemma LlcLink.inv_step (l : LlcLink) (m : LinkEnd × EndIn) (h : l.Inv) (hok : l.StepOk m) :
    (l.step m).Inv := by
  obtain ⟨⟨c, q, p, fs, hab⟩, c', q', p', fs', hba⟩ := h
  obtain ⟨e, i⟩ := m
  cases e with
  | A =>
      obtain ⟨c, q, hab⟩ := hab.send (i := i.framerIn l.ba.rx) hok
      obtain ⟨p', fs', hba⟩ := hba.receive i.serdes_rx_tvalid i.serdes_rx_crc_ok
      exact ⟨⟨c, q, p, fs, hab⟩, c', q', p', fs', hba⟩
  | B =>
      obtain ⟨c', q', hba⟩ := hba.send (i := i.framerIn l.ab.rx) hok
      obtain ⟨p, fs, hab⟩ := hab.receive i.serdes_rx_tvalid i.serdes_rx_crc_ok
      exact ⟨⟨c, q, p, fs, hab⟩, c', q', p', fs', hba⟩

/-- **Run lemma.** -/
lemma link_inv (ms : List (LinkEnd × EndIn)) (h : link.Meets LlcLink.StepOk ms) : (link.run ms).Inv :=
  link.invariant (P := LlcLink.Inv) ⟨⟨0, [], {}, [], Lane.Inv.init⟩, 0, [], {}, [], Lane.Inv.init⟩
    LlcLink.inv_step ms h

/-- **Exactly-once in-order delivery.**  In every run of two ends connected crosswise whose cycles
meet `SendOk`, whatever frames and messages fail their CRC check: in both directions the flits that
the parser has put out are a beginning of the flits that the framer has accepted. -/
theorem link_exactly_once (ms : List (LinkEnd × EndIn)) (h : link.Meets LlcLink.StepOk ms) :
    (link.run ms).ab.emitted <+: (link.run ms).ab.accepted
      ∧ (link.run ms).ba.emitted <+: (link.run ms).ba.accepted := by
  obtain ⟨⟨_, _, _, _, hab⟩, _, _, _, _, hba⟩ := link_inv ms h
  exact ⟨hab.isPrefix, hba.isPrefix⟩

namespace LinkRun

/-- `n` cycles of both ends with the same inputs. -/
def cycles (n : ℕ) (a b : EndIn) : List (LinkEnd × EndIn) :=
  (List.replicate n [(LinkEnd.A, a), (LinkEnd.B, b)]).flatten

/-- End A is offered two frames, the first of which fails its CRC check at end B. -/
def firstFails : List (LinkEnd × EndIn) :=
  (List.range 8).flatMap fun n =>
    [(.A, { fifo_in_tdata := BitVec.ofNat 256 (n + 1), fifo_in_tvalid := true }),
      (.B, { serdes_rx_crc_ok := decide (n ≠ 6) })]

end LinkRun

/-- The parser of end B stalls over the first frame, which is asked for and sent again. -/
theorem link_exactly_once_resend :
    (link.run LinkRun.firstFails).ab.rx.parser_stall = true
      ∧ (link.run (LinkRun.firstFails ++ LinkRun.cycles 36 {} {})).ab.emitted = [1, 2, 3, 4, 5, 6, 7, 8]
      ∧ (link.run (LinkRun.firstFails ++ LinkRun.cycles 36 {} {})).ab.emitted
        <+: (link.run (LinkRun.firstFails ++ LinkRun.cycles 36 {} {})).ab.accepted :=
  ⟨by decide +kernel, by decide +kernel, (link_exactly_once _ (by decide +kernel)).1⟩

/-! ## Late requests -/

/-- The wires of the parser of end A in its cycles. -/
def LlcLink.toA (l : LlcLink) : LinkEnd × EndIn → List ParserIn
  | (.A, i) => [Lane.parserIn i.serdes_rx_crc_ok (l.ba.delivery i.serdes_rx_tvalid)]
  | (.B, _) => []

/-- The wires of the parser of end B in its cycles. -/
def LlcLink.toB (l : LlcLink) : LinkEnd × EndIn → List ParserIn
  | (.A, _) => []
  | (.B, i) => [Lane.parserIn i.serdes_rx_crc_ok (l.ab.delivery i.serdes_rx_tvalid)]

/-- The flits that leave the framer of end A, and those that leave the framer of end B. -/
def LlcLink.fromA (l : LlcLink) : LinkEnd × EndIn → List (Flit × Bool)
  | (.A, i) => l.ab.tx.emitted (i.framerIn l.ba.rx)
  | (.B, _) => []

def LlcLink.fromB (l : LlcLink) : LinkEnd × EndIn → List (Flit × Bool)
  | (.A, _) => []
  | (.B, i) => l.ba.tx.emitted (i.framerIn l.ab.rx)

/-- Every in-band message arrives with a good CRC, and fewer than 64 frames leave each framer. -/
structure Undisturbed (ms : List (LinkEnd × EndIn)) : Prop where
  toA : ∀ fr ∈ framesOf (link.collect LlcLink.toA ms), fr.isInband = true → fr.crc_ok = true
  toB : ∀ fr ∈ framesOf (link.collect LlcLink.toB ms), fr.isInband = true → fr.crc_ok = true
  fewFromA : (link.collect LlcLink.fromA ms).countP (·.2) < 64
  fewFromB : (link.collect LlcLink.fromB ms).countP (·.2) < 64

namespace LinkRun

/-- The framer of end B is held up between the copies of its request, so the second copy arrives when
the first one has been answered. -/
def lateCopy : List (LinkEnd × EndIn) :=
  firstFails ++ cycles 6 {} {} ++ cycles 13 {} { fifo_out_tready := false } ++ cycles 36 {} {}

end LinkRun

/-- **A late copy of a request is answered again.**  Every message arrives with a good CRC, and only a
few frames leave the framers; but the parser of end B puts out the first frame twice. -/
theorem late_copy_repeats :
    Undisturbed LinkRun.lateCopy
      ∧ (link.run LinkRun.lateCopy).ab.accepted = [1, 2, 3, 4, 5, 6, 7, 8]
      ∧ (link.run LinkRun.lateCopy).ab.emitted = [1, 2, 3, 4, 1, 2, 3, 4, 5, 6, 7, 8]
      ∧ ¬ (link.run LinkRun.lateCopy).ab.emitted <+: (link.run LinkRun.lateCopy).ab.accepted := by
  have haccepted : (link.run LinkRun.lateCopy).ab.accepted = [1, 2, 3, 4, 5, 6, 7, 8] := by
    decide +kernel
  have hemitted : (link.run LinkRun.lateCopy).ab.emitted = [1, 2, 3, 4, 1, 2, 3, 4, 5, 6, 7, 8] := by
    decide +kernel
  refine ⟨⟨by decide +kernel, by decide +kernel, by decide +kernel, by decide +kernel⟩, haccepted,
    hemitted, ?_⟩
  rw [haccepted, hemitted]
  decide

end ThymesisFlow
