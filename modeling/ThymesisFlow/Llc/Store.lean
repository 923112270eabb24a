import ThymesisFlow.Llc.Patch

/-!
# The frame store

The slots marked valid in the store of the framer are the ones between the read and the write
position.  `nextDataValid_bit` says once what a cycle does to one slot; the ring arithmetic of
`Lib.Ring` does the rest.  A resend moves the read position back and marks the frames in between
(`storeInv_patch`).
-/

namespace ThymesisFlow

/-- The slots set in `dv` are the cyclic range from `rd` up to `wr`: none, or all, if they
coincide. -/
def CyclicRange (dv : BitVec 256) (rd wr : ℕ) : Prop :=
  ∃ k ≤ 256, ringAdd 256 rd k = wr ∧ ∀ j < 256, dv.getLsbD j = decide (ringDist 256 rd j < k)

namespace Framer

variable {s : Framer} {i : FramerIn} {d : Flit}

/-- The number of valid slots is `k`, and they are those from the read position on. -/
structure Unread (s : Framer) (k : ℕ) : Prop where
  le : k ≤ 256
  write : ringAdd 256 s.reada.toNat k = s.writea.toNat
  valid : ∀ j < 256, s.data_valid.getLsbD j = decide (ringDist 256 s.reada.toNat j < k)

/-- The frames that are not read yet, where the reader is at a frame boundary. -/
def unreadFrames (s : Framer) : ℕ := if s.all_full then 64 else ringDist 64 s.rdq.toNat s.wrq.toNat

/-- The conditions under which the store invariant is kept: no flit is accepted while all slots
are valid, nor in the cycle in which a resend is applied; and a resend does not skip frames that
are still unread, nor does it ask for the whole store while the writer is inside a frame. -/
def StoreOk (s : Framer) (i : FramerIn) : Prop :=
  (s.accept i = true → s.all_full = false)
    ∧ (s.patches = true → s.accept i = false ∧ s.unreadFrames ≤ s.replayLen)
    ∧ s.WholeStoreOk

lemma reada_lt (s : Framer) : s.reada.toNat < 256 := s.reada.isLt

lemma writea_lt (s : Framer) : s.writea.toNat < 256 := s.writea.isLt

lemma Unread.all_full_iff {k : ℕ} (h : Unread s k) : s.all_full = true ↔ k = 256 := by
  have hrd := s.reada_lt
  rw [all_full, decide_eq_true_eq]
  constructor
  · intro hfull
    have hle := h.le
    by_contra hk
    have hlt : ringAdd 256 s.reada.toNat k < 256 := ringAdd_lt hrd hle
    have hbit := h.valid _ hlt
    rw [hfull, BitVec.getLsbD_allOnes, decide_eq_true hlt] at hbit
    have hdist := of_decide_eq_true hbit.symm
    simp only [ringDist, ringAdd] at hdist
    split_ifs at hdist <;> omega
  · rintro rfl
    apply BitVec.eq_of_getLsbD_eq
    intro j hj
    rw [h.valid j hj, BitVec.getLsbD_allOnes]
    have hdist : ringDist 256 s.reada.toNat j < 256 := by
      rw [ringDist]
      split_ifs <;> omega
    simp [hj, hdist]

lemma Unread.all_not_empty_iff {k : ℕ} (h : Unread s k) : s.all_not_empty = true ↔ 0 < k := by
  have hrd := s.reada_lt
  rw [all_not_empty, decide_eq_true_eq]
  constructor
  · intro hne
    by_contra hk
    obtain rfl : k = 0 := by omega
    refine hne (BitVec.eq_of_getLsbD_eq fun j hj => ?_)
    rw [h.valid j hj]
    simp
  · intro hk h0
    have hbit := h.valid _ hrd
    rw [h0] at hbit
    simp [ringDist] at hbit
    omega

/-! ## One cycle -/

/-- A pointer that moves on goes to the next slot of the ring. -/
lemma slot_advance (q : BitVec 6) (p : BitVec 2) :
    (slot (if p = 3 then rollover q else q) (if p ≠ 3 then p + 1 else 0)).toNat
      = ringAdd 256 (slot q p).toNat 1 := by
  have hq := q.isLt
  have hp := p.isLt
  by_cases h3 : p = 3
  · have hn : p.toNat = 3 := by rw [h3]; rfl
    rw [if_pos h3, if_neg (not_not.mpr h3), slot_toNat, slot_toNat, rollover_toNat, hn]
    simp only [ringAdd, BitVec.ofNat_eq_ofNat, BitVec.toNat_ofNat, Nat.zero_mod]
    split_ifs <;> omega
  · have hne : p.toNat ≠ 3 := fun h0 => h3 (BitVec.eq_of_toNat_eq h0)
    have h1 : (p + 1).toNat = p.toNat + 1 := by
      have hone : (1 : BitVec 2).toNat = 1 := rfl
      rw [BitVec.toNat_add, hone]
      omega
    rw [if_neg h3, if_pos h3, slot_toNat, slot_toNat, h1, ringAdd]
    split_ifs <;> omega

/-- The write position moves by what is accepted. -/
lemma writea_step : (s.step i d).writea.toNat
    = if s.accept i then ringAdd 256 s.writea.toNat 1 else s.writea.toNat := by
  have hadv := slot_advance s.wrq s.wrptr
  change (slot (s.nextWrq i) (s.nextWrptr i)).toNat = _
  rw [nextWrq, nextWrptr, writea]
  cases s.accept i <;> simp_all

/-- Without a resend the read position moves by what is read. -/
lemma reada_step (hp : s.patches = false) : (s.step i d).reada.toNat
    = if s.reads i then ringAdd 256 s.reada.toNat 1 else s.reada.toNat := by
  have hadv := slot_advance s.rdq s.rdptr
  change (slot (s.nextRdq i) (s.nextRdptr i)).toNat = _
  rw [nextRdq, nextRdptr, hp, reada]
  cases s.reads i <;> simp_all

/-- **What a cycle without a resend does to a slot**: it is set by the flit accepted for it and
cleared when it is read. -/
lemma nextDataValid_bit {k : ℕ} (h : Unread s k) (hp : s.patches = false)
    (hfull : s.accept i = true → s.all_full = false) {j : ℕ} (hj : j < 256) :
    (s.nextDataValid i).getLsbD j
      = ((s.data_valid.getLsbD j || (s.accept i && decide (j = s.writea.toNat)))
        && !(s.reads i && decide (j = s.reada.toNat))) := by
  have hempty := h.all_not_empty_iff
  have hwr := h.write
  have hrd := s.reada_lt
  have hle := h.le
  rw [nextDataValid, hp, reads]
  cases hacc : s.accept i with
  | false =>
      cases hready : s.pingPongBufferReady i <;> cases hlock : s.resend_rptr_lock <;>
        simp [getLsbD_clearBit, -BitVec.getLsbD_eq_getElem]
      -- an empty store: the mask that is cleared is clear already
      cases hne : s.all_not_empty with
      | true => simp [-BitVec.getLsbD_eq_getElem]
      | false =>
          have hk : k = 0 := by
            by_contra hk
            simp [hempty.mpr (by omega)] at hne
          rw [h.valid j hj, hk]
          simp
  | true =>
      have hnf := hfull hacc
      have hk256 : k ≠ 256 := fun hk => by simp [h.all_full_iff.mpr hk] at hnf
      cases hready : s.pingPongBufferReady i <;> cases hlock : s.resend_rptr_lock <;>
        cases hne : s.all_not_empty <;>
        simp [hj, hnf, getLsbD_setBit, -BitVec.getLsbD_eq_getElem]
      have hk0 := hempty.mp hne
      have hpos : s.writea.toNat ≠ s.reada.toNat := by
        rw [← hwr, ringAdd]
        split_ifs <;> omega
      split_ifs <;> simp [getLsbD_setBit, getLsbD_clearBit, hj, -BitVec.getLsbD_eq_getElem]
      by_cases hjw : j = s.writea.toNat
      · simp [hjw, hpos]
      · simp [hjw]

/-- A cycle without a resend moves the two ends of the range. -/
lemma unread_step {k : ℕ} (h : Unread s k) (hp : s.patches = false)
    (hfull : s.accept i = true → s.all_full = false) :
    Unread (s.step i d) (k + (s.accept i).toNat - (s.reads i).toNat) := by
  have hrd := s.reada_lt
  have hle := h.le
  have hwr := h.write
  have hk256 : s.accept i = true → k ≠ 256 := fun ha hk => by
    have hf := hfull ha
    simp [h.all_full_iff.mpr hk] at hf
  have hk0 : s.reads i = true → 0 < k := fun hr => by
    simp only [reads, Bool.and_eq_true] at hr
    exact h.all_not_empty_iff.mp hr.1.2
  have hbit : ∀ j < 256, (s.step i d).data_valid.getLsbD j = _ :=
    fun j hj => nextDataValid_bit h hp hfull hj
  refine ⟨?_, ?_, fun j hj => ?_⟩
  · cases hr : s.reads i <;> cases ha : s.accept i <;> simp_all <;> omega
  · rw [writea_step, reada_step hp]
    cases hr : s.reads i <;> cases ha : s.accept i <;> simp [← hwr] <;>
      simp only [ringAdd] <;> simp_all <;> split_ifs <;> omega
  · have hpush := ringDist_lt_succ (N := 256) (d := k) hrd hj
    have hpop := fun k' => ringDist_succ_lt (N := 256) (d := k') hrd hj
    rw [hbit j hj, reada_step hp, h.valid j hj, ← hwr]
    cases hr : s.reads i with
    | false =>
        cases ha : s.accept i with
        | false => simp
        | true => simp [hpush]
    | true =>
        have hk := hk0 hr
        cases ha : s.accept i with
        | false => simp [hpop k hk hle]
        | true =>
            have hlt := hk256 ha
            have hboth := hpop (k + 1) (by omega) (by omega)
            rw [Nat.add_sub_cancel, hpush] at hboth
            simp [hboth]

/-! ## A resend -/

/-- A store read up to a frame boundary has whole frames and the begun one unread. -/
lemma Unread.eq_frames {k : ℕ} (h : Unread s k) (hrd : s.rdptr = 0) :
    k = 4 * s.unreadFrames + s.wrptr.toNat
      ∧ ringAdd 64 s.rdq.toNat s.unreadFrames = s.wrq.toNat := by
  have hfull := h.all_full_iff
  have hle := h.le
  have hwr := h.write
  have hq := s.rdq.isLt
  have hw := s.wrq.isLt
  have hp := s.wrptr.isLt
  have h0 : (0 : BitVec 2).toNat = 0 := rfl
  rw [reada, writea, slot_toNat, slot_toNat, hrd, h0, ringAdd] at hwr
  rw [unreadFrames]
  by_cases hf : s.all_full = true
  · rw [if_pos hf, ringAdd]
    have hk := hfull.mp hf
    split_ifs at hwr ⊢ <;> omega
  · rw [if_neg hf, ringDist, ringAdd]
    have hk : k ≠ 256 := fun hk => hf (hfull.mpr hk)
    split_ifs at hwr ⊢ <;> omega

lemma ringAdd_replayLen (s : Framer) :
    ringAdd 64 s.remoteFrameId.toNat s.replayLen = s.wrq.toNat := by
  have hf := s.remoteFrameId.isLt
  have hw := s.wrq.isLt
  rw [replayLen, framesUpTo]
  split_ifs with h
  · have hn := congrArg BitVec.toNat h
    rw [ringAdd]
    split_ifs <;> omega
  · simp only [ringAdd, ringDist]
    split_ifs <;> omega

/-- The marked frames and the unread slots together are the slots from the first marked frame on:
`f` is that frame, `r` the frame being read, `w` the one being written, `p` of whose flits are
there, and the range of `L` frames from `f` on covers the `u` unread ones. -/
lemma range_union {f r w p L u n j : ℕ} (hf : f < 64) (hr : r < 64) (hp : p < 4) (hL : L ≤ 64)
    (hLw : ringAdd 64 f L = w) (huw : ringAdd 64 r u = w) (hu : u ≤ L)
    (hn : n = L ∨ n + 1 = L ∧ p = 0 ∧ 1 ≤ u) (hj : j < 256) :
    ringDist 256 (4 * r) j < 4 * u + p ∨ ringDist 64 f (j / 4) < n
      ↔ ringDist 256 (4 * f) j < 4 * L + p := by
  simp only [ringAdd, ringDist] at *
  split_ifs at * <;> omega

/-- When the loop has ended a frame early, the frame it has left out was completed meanwhile and
is unread. -/
def LateFrame (s : Framer) : Prop :=
  s.smstate = .SM_RM_ACTIVATE_PATCHING → s.valid_patch_done = true → s.resend_rdq ≠ s.wrq →
    s.all_not_empty = true

lemma lateFrame_step {k : ℕ} (h : Unread s k) (hctl : CtlInv s) (hinv : PatchInv s)
    (hok : StoreOk s i) : LateFrame (s.step i d) := by
  intro hst' hdone' hne
  have hmove := smMove s
  have hst'' : s.nextSmstate = .SM_RM_ACTIVATE_PATCHING := hst'
  have hd : s.nextValidPatchDone = true := hdone'
  rw [hst''] at hmove
  have hdone : s.valid_patch_done = false ∧ (s.patchLoop = true → s.smstate ≠ .SM_RETRANS_REQ) := by
    cases hinv with
    | idle fix done => exact ⟨done, by simp [patchLoop, fix]⟩
    | marking _ _ state done => exact ⟨done, by simp [state]⟩
    | marked _ _ state done =>
        generalize s.smstate = old at hmove state
        cases hmove with
        | patch => cases state
        | patching hn => simp [hn] at done
    | sending _ _ state =>
        rw [state] at hmove
        cases hmove
  have hp : s.patches = false := by simp [patches, hdone.1]
  have hloop : s.patchLoop = true := by
    by_contra hl
    rw [Bool.not_eq_true] at hl
    rw [nextValidPatchDone, hl] at hd
    split_ifs at hd <;> simp_all
  have hlast : s.fixValidsDone = true := by rwa [nextValidPatchDone, if_pos hloop] at hd
  have hst : s.smstate = .SM_RM_ACTIVATE_PATCHING := by
    have hnreq := hdone.2 hloop
    generalize s.smstate = old at hmove hnreq
    cases hmove with
    | patch => exact absurd rfl hnreq
    | patching => rfl
  have hlock := hctl.held (by simp [hst]) (by simp [hst])
  cases hinv with
  | idle fix => simp [patchLoop, fix] at hloop
  | marked _ _ _ done => simp [done] at hdone
  | sending _ _ state => rw [hst] at state; cases state
  | marking n run =>
      have hacc : s.accept i = true := by
        by_contra hacc
        refine hne ?_
        change s.nextResendRdq = s.nextWrq i
        have hahead := run.ahead
        simp only [fixValidsDone, Bool.and_eq_true, decide_eq_true_eq] at hlast
        rw [nextResendRdq, if_pos hloop, ← hahead, hlast.1]
        simp [nextWrq, hacc]
      have hnext := unread_step (i := i) (d := d) h hp hok.1
      rw [hacc, reads_of_lock hlock] at hnext
      exact hnext.all_not_empty_iff.mpr (by simp)

/-- The cycle in which a resend is applied: the frames to send again and the unread ones together
are the range from the requested frame on. -/
lemma unread_patch {k : ℕ} (h : Unread s k) (hctl : CtlInv s) (hinv : PatchInv s)
    (hlate : LateFrame s) (hok : StoreOk s i) (hp : s.patches = true) :
    Unread (s.step i d) (4 * s.replayLen + s.wrptr.toNat) := by
  have hdone : s.valid_patch_done = true ∧ s.smstate ≠ .SM_RM_SEND_PREAMBLE := by
    simpa [patches, SmState.resendPreambleActive] using hp
  cases hinv with
  | idle fix done => simp [done] at hdone
  | marking _ _ _ done => simp [done] at hdone
  | sending _ _ state => exact absurd state hdone.2
  | marked n run state done two count =>
      obtain ⟨hacc, hunread⟩ := hok.2.1 hp
      have hlock := hctl.held (by simp [state]) (by simp [state])
      have hrd0 := hctl.lock_rdptr hlock
      obtain ⟨hk, huw⟩ := h.eq_frames hrd0
      have hLw := ringAdd_replayLen s
      have hbound := replayLen_bounds s
      have hwp := s.wrptr.isLt
      have hf := s.remoteFrameId.isLt
      have hrq := s.rdq.isLt
      have h0 : (0 : BitVec 2).toNat = 0 := rfl
      have hwhole : s.replayLen = 64 → s.wrptr.toNat = 0 := fun h64 => by
        rw [h64, ringAdd] at hLw
        have heq : s.remoteFrameId = s.wrq := by
          apply BitVec.eq_of_toNat_eq
          split_ifs at hLw <;> omega
        rw [hok.2.2 state heq, h0]
      have hn : n = s.replayLen
          ∨ n + 1 = s.replayLen ∧ s.wrptr.toNat = 0 ∧ 1 ≤ s.unreadFrames := by
        rcases count with hn | ⟨hn, hw⟩
        · exact .inl hn
        · have hw0 : s.wrptr.toNat = 0 := by rw [hw, h0]
          have hne : s.resend_rdq ≠ s.wrq := fun heq => by
            have := (eq_wrq_iff s run.rdq (by omega) run.le).mp heq
            omega
          have hpos := h.all_not_empty_iff.mp (hlate state done hne)
          exact .inr ⟨hn, hw0, by omega⟩
      have hreada : (s.step i d).reada.toNat = 4 * s.remoteFrameId.toNat := by
        change (slot (s.nextRdq i) (s.nextRdptr i)).toNat = _
        rw [slot_toNat, nextRdq, if_pos hp, run.set, nextRdptr, reads_of_lock hlock, hrd0]
        rfl
      have hwritea : (s.step i d).writea.toNat = 4 * s.wrq.toNat + s.wrptr.toNat := by
        rw [writea_step, hacc, ← slot_toNat]
        rfl
      have hdv : (s.step i d).data_valid = s.data_valid ||| s.data_valid_resend := if_pos hp
      refine ⟨by omega, ?_, fun j hj => ?_⟩
      · rw [hreada, hwritea, ← hLw]
        simp only [ringAdd]
        split_ifs <;> omega
      · have hunion := range_union hf hrq hwp hbound.2 hLw huw hunread hn hj
        have hrd : s.reada.toNat = 4 * s.rdq.toNat := by rw [reada, slot_toNat, hrd0, h0]; rfl
        rw [hreada, hdv, BitVec.getLsbD_or, h.valid j hj, run.mask j hj, hk, hrd]
        simp [← hunion]

end Framer

/-! ## What the slots hold -/

namespace Tx

/-- The contents of a slot once the pending BRAM write is taken into account. -/
def content (t : Tx) (a : BitVec 8) : Flit :=
  if t.framer.we && t.framer.wa = a then t.framer.wd else t.mem a

/-- The flit accepted in a cycle, with the slot it is accepted for. -/
def stored (t : Tx) (i : FramerIn) : List (BitVec 8 × Flit) :=
  if t.framer.accept i then [(t.framer.writea, i.fifo_in_tdata)] else []

/-- The conditions `StoreOk` on the framer of the transmitter. -/
def StoreOk (t : Tx) (i : FramerIn) : Prop := t.framer.StoreOk i

instance (t : Tx) (i : FramerIn) : Decidable (t.StoreOk i) := by
  unfold StoreOk Framer.StoreOk Framer.WholeStoreOk
  infer_instance

end Tx

/-- The last flit accepted for slot `a`. -/
def lastFor (hist : List (BitVec 8 × Flit)) (a : BitVec 8) : Option Flit :=
  (hist.reverse.find? fun p => p.1 = a).map Prod.snd

@[simp] lemma lastFor_nil (a : BitVec 8) : lastFor [] a = none := rfl

lemma lastFor_concat (hist : List (BitVec 8 × Flit)) (p : BitVec 8 × Flit) (a : BitVec 8) :
    lastFor (hist ++ [p]) a = if p.1 = a then some p.2 else lastFor hist a := by
  rw [lastFor, List.reverse_append, List.reverse_singleton, List.singleton_append,
    List.find?_cons]
  split_ifs with h
  · simp [h]
  · simp [h, lastFor]

/-- A cycle changes the contents of one slot at most: the one a flit is accepted for. -/
lemma content_step (t : Tx) (i : FramerIn) (a : BitVec 8) :
    (t.step i).content a
      = if t.framer.accept i && t.framer.writea = a then i.fifo_in_tdata else t.content a := by
  have hmem : (t.step i).mem a = t.content a := by
    change (if t.framer.we then setAt t.mem t.framer.wa t.framer.wd else t.mem) a = _
    rw [Tx.content]
    cases t.framer.we with
    | false => simp
    | true =>
        by_cases h : t.framer.wa = a
        · simp [h, setAt]
        · simp [h, setAt, Ne.symm h]
  rw [Tx.content, hmem]
  rfl

/-! ## The invariant -/

/-- The invariant of the store, where `hist` is what has been accepted for which slot. -/
structure StoreInv (t : Tx) (hist : List (BitVec 8 × Flit)) : Prop where
  ctl : t.framer.CtlInv
  patch : t.framer.PatchInv
  late : t.framer.LateFrame
  range : ∃ k, t.framer.Unread k
  content : ∀ a f, lastFor hist a = some f → t.content a = f

/-- **Step lemma.** -/
lemma storeInv_step {t : Tx} {hist : List (BitVec 8 × Flit)} (h : StoreInv t hist) {i : FramerIn}
    (hok : t.StoreOk i) : StoreInv (t.step i) (hist ++ t.stored i) := by
  obtain ⟨hctl, hpatch, hlate, ⟨k, hk⟩, hcontent⟩ := h
  refine ⟨Framer.ctlInv_step hctl, Framer.patchInv_step hctl hpatch hok.2.2,
    Framer.lateFrame_step hk hctl hpatch hok, ?_, ?_⟩
  · cases hp : t.framer.patches with
    | true => exact ⟨_, Framer.unread_patch hk hctl hpatch hlate hok hp⟩
    | false => exact ⟨_, Framer.unread_step hk hp hok.1⟩
  · intro a f hf
    rw [content_step]
    rw [Tx.stored] at hf
    cases hacc : t.framer.accept i with
    | false =>
        simp only [hacc, Bool.false_eq_true, if_false, List.append_nil] at hf
        simpa using hcontent a f hf
    | true =>
        simp only [hacc, if_true, lastFor_concat] at hf
        by_cases ha : t.framer.writea = a
        · simpa [ha] using hf
        · simp only [ha, if_false] at hf
          simpa [ha] using hcontent a f hf

lemma storeInv_init : StoreInv {} [] where
  ctl := Framer.ctlInv_init
  patch := .idle rfl rfl
  late := by simp [Framer.LateFrame]
  range := ⟨0, by decide, by decide, by simp⟩
  content := by simp

/-- **Run lemma.** -/
theorem storeInv_run (is : List FramerIn) (h : txMachine.Meets Tx.StoreOk is) :
    StoreInv (txMachine.run is) (txMachine.collect Tx.stored is) :=
  txMachine.history_invariant storeInv_init (fun _ _ _ hinv hok => storeInv_step hinv hok) is h

/-- A flit accepted is marked, and a mark is only lost when the slot is read. -/
lemma marks_step {t : Tx} {hist : List (BitVec 8 × Flit)} (h : StoreInv t hist) {i : FramerIn}
    (hok : t.StoreOk i) :
    (t.framer.accept i = true → (t.step i).framer.data_valid.getLsbD t.framer.writea.toNat = true)
      ∧ ∀ j < 256, t.framer.data_valid.getLsbD j = true →
        (t.step i).framer.data_valid.getLsbD j = false →
        t.framer.reads i = true ∧ j = t.framer.reada.toNat := by
  obtain ⟨-, -, -, ⟨k, hk⟩, -⟩ := h
  cases hp : t.framer.patches with
  | true =>
      have hdv : (t.step i).framer.data_valid
          = t.framer.data_valid ||| t.framer.data_valid_resend := if_pos hp
      refine ⟨fun ha => ?_, fun j _ hset hcleared => ?_⟩
      · have hnone := (hok.2.1 hp).1
        simp [hnone] at ha
      · rw [hdv, BitVec.getLsbD_or, hset] at hcleared
        simp at hcleared
  | false =>
      have hbit : ∀ j < 256, (t.step i).framer.data_valid.getLsbD j = _ :=
        fun j hj => Framer.nextDataValid_bit hk hp hok.1 hj
      refine ⟨fun ha => ?_, fun j hj hset hcleared => ?_⟩
      · rw [hbit _ t.framer.writea_lt, ha]
        have hnf := hok.1 ha
        have hwr := hk.write
        have hle := hk.le
        have hrd := t.framer.reada_lt
        have hfull := hk.all_full_iff
        have hempty := hk.all_not_empty_iff
        cases hr : t.framer.reads i with
        | false => simp
        | true =>
            simp only [Framer.reads, Bool.and_eq_true] at hr
            have hk0 := hempty.mp hr.1.2
            have hk256 : k ≠ 256 := fun h256 => by simp [hfull.mpr h256] at hnf
            have hne : t.framer.writea.toNat ≠ t.framer.reada.toNat := by
              rw [← hwr, ringAdd]
              split_ifs <;> omega
            simp [hne]
      · rw [hbit j hj, hset] at hcleared
        simpa using hcleared

/-- **The store invariant.**  In every run whose cycles meet `StoreOk` the valid slots are exactly
the cyclic range from the read position up to the write position, a valid slot holds the last flit
accepted for it, an accepted flit is marked valid at once, and it loses the mark only when it is
read. -/
theorem store_invariant (is : List FramerIn) (h : txMachine.Meets Tx.StoreOk is) :
    let t := txMachine.run is
    CyclicRange t.framer.data_valid t.framer.reada.toNat t.framer.writea.toNat
      ∧ (∀ a f, t.framer.data_valid.getLsbD a.toNat = true →
          lastFor (txMachine.collect Tx.stored is) a = some f → t.content a = f)
      ∧ ∀ i, t.StoreOk i →
          (t.framer.accept i = true →
            (t.step i).framer.data_valid.getLsbD t.framer.writea.toNat = true)
          ∧ ∀ j < 256, t.framer.data_valid.getLsbD j = true →
            (t.step i).framer.data_valid.getLsbD j = false →
            t.framer.reads i = true ∧ j = t.framer.reada.toNat := by
  intro t
  have hinv := storeInv_run is h
  obtain ⟨k, hk⟩ := hinv.range
  exact ⟨⟨k, hk.le, hk.write, hk.valid⟩, fun a f _ hf => hinv.content a f hf,
    fun i hok => marks_step hinv hok⟩

/-- Two frames are sent and sent again. -/
theorem store_invariant_replay :
    let t := txMachine.run (ReplayRun.inputs 2 ++ List.replicate 30 ReplayRun.idle)
    CyclicRange t.framer.data_valid t.framer.reada.toNat t.framer.writea.toNat :=
  (store_invariant (ReplayRun.inputs 2 ++ List.replicate 30 ReplayRun.idle)
    (by decide +kernel)).1

namespace ReplayRun

/-- Two frames are accepted and sent, and asked for again.  The writer begins a third frame just
before it would be stopped, and gets its second flit in the cycle in which the resend is applied. -/
def lostFlit : List FramerIn :=
  let valid := { idle with fifo_in_tvalid := true }
  List.replicate 8 valid ++ List.replicate 8 idle
    ++ [{ idle with remote_resend_frame_id_valid := true }, idle, valid]
    ++ List.replicate 4 idle ++ [valid]

end ReplayRun

/-- **A flit loses its mark.**  The flit accepted in the cycle of the resend is not marked valid, so
the valid slots are not the range up to the write position. -/
theorem accepted_flit_unmarked :
    ¬ CyclicRange (txMachine.run ReplayRun.lostFlit).framer.data_valid
      (txMachine.run ReplayRun.lostFlit).framer.reada.toNat
      (txMachine.run ReplayRun.lostFlit).framer.writea.toNat := by
  have hrd : (txMachine.run ReplayRun.lostFlit).framer.reada.toNat = 0 := by decide +kernel
  have hwr : (txMachine.run ReplayRun.lostFlit).framer.writea.toNat = 10 := by decide +kernel
  have hbit : (txMachine.run ReplayRun.lostFlit).framer.data_valid.getLsbD 9 = false := by
    decide +kernel
  rw [hrd, hwr]
  rintro ⟨k, hk, hadd, hvalid⟩
  have h9 := hvalid 9 (by omega)
  rw [hbit, eq_comm, decide_eq_false_iff_not] at h9
  simp only [ringAdd, ringDist] at hadd h9
  split_ifs at hadd h9 <;> omega

end ThymesisFlow
