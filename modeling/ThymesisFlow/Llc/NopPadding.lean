import ThymesisFlow.Llc.Driver

/-!
# NOP padding is invisible

`nopPadding` is the convention that the two drivers share: the phase of the flit stream, and which
flits are NOPs in it.  The invariant of the egress driver says that its output, with what is still
in its stages, is the accepted stream with NOPs put in, and how many flits that makes modulo four;
the one of the ingress driver that it hands over its input without the NOPs.
-/

namespace ThymesisFlow

/-- NOPs of the link layer; a NOP has no data and leaves the phase alone. -/
def nopPadding : Padding Phase Flit where
  pad p f := p.isCmd && isNopCmd f
  next p f := if p.isCmd && isNopCmd f then p else p.next f
  next_pad _ _ h := if_pos h

/-- The NOPs of a stream announce no data. -/
def NopsShort : Phase → List Flit → Prop :=
  nopPadding.All fun p f => nopPadding.pad p f = true → hasData f = false

lemma nopPadding_next_of_clean {p : Phase} {f : Flit} (h : nopPadding.pad p f = false) :
    nopPadding.next p f = p.next f := by
  have h' : ¬ (p.isCmd && isNopCmd f) = true := fun he => Bool.false_ne_true (h.symm.trans he)
  exact if_neg h'

lemma pad_dataflit (n : BitVec 3) (f : Flit) : nopPadding.pad ⟨.DATAFLIT, n⟩ f = false := by
  simp [nopPadding, Phase.isCmd]

lemma next_dataflit (n : BitVec 3) (f : Flit) :
    nopPadding.next ⟨.DATAFLIT, n⟩ f = if n ≠ 1 then ⟨.DATAFLIT, n - 1⟩ else ⟨.CMDFLIT, n⟩ := by
  rw [nopPadding_next_of_clean (pad_dataflit n f), Phase.next]

/-- The state machine of the source follows the stream if its NOPs announce no data. -/
lemma next_eq_of_short {p : Phase} {f : Flit}
    (h : nopPadding.pad p f = true → hasData f = false) : p.next f = nopPadding.next p f := by
  cases hpad : nopPadding.pad p f with
  | false => exact (nopPadding_next_of_clean hpad).symm
  | true =>
      rw [nopPadding.next_pad p f hpad]
      have hcmd : p.ocapi_sm = .CMDFLIT := by
        have : (p.isCmd && isNopCmd f) = true := hpad
        simpa [Phase.isCmd] using (Bool.and_eq_true_iff.mp this).1
      simp [Phase.next, hcmd, h hpad]

/-! ## The NOP flit and the transactions -/

/-- The top byte of a NOP flit. -/
lemma patchNop_top (q : Flit) : field (patchNop q) 248 8 = 0x40#8 :=
  field_setField_self _ _ _ (by decide)

lemma isNopCmd_patchNop (q : Flit) : isNopCmd (patchNop q) = true := by
  rw [isNopCmd, bit_eq_field _ 248 8 (show 6 < 8 by decide),
    bit_eq_field _ 248 8 (show 1 < 8 by decide), patchNop_top]
  decide

lemma hasData_patchNop (q : Flit) : hasData (patchNop q) = false := by
  rw [hasData, bit_eq_field _ 248 8 (show 5 < 8 by decide),
    bit_eq_field _ 248 8 (show 2 < 8 by decide), bit_eq_field _ 248 8 (show 0 < 8 by decide),
    patchNop_top]
  decide

/-- A transaction starts and ends in the command phase, and its command is no NOP. -/
lemma LlcTxn.clean (t : LlcTxn) {p : Phase} (hp : p.isCmd = true) :
    nopPadding.Clean p t.flits ∧ (nopPadding.after p t.flits).isCmd = true := by
  have hsm : p.ocapi_sm = .CMDFLIT := by simpa [Phase.isCmd] using hp
  cases t with
  | short hdr known cmd =>
      have hpad : nopPadding.pad p hdr = false := by simp [nopPadding, cmd]
      refine ⟨⟨hpad, trivial⟩, ?_⟩
      simp [LlcTxn.flits, nopPadding_next_of_clean hpad, Phase.next, hsm, known, hp]
  | long hdr d0 d1 d2 d3 known cmd =>
      have hpad : nopPadding.pad p hdr = false := by simp [nopPadding, cmd]
      have hnext : nopPadding.next p hdr = ⟨.DATAFLIT, 4⟩ := by
        simp [nopPadding_next_of_clean hpad, Phase.next, hsm, known]
      refine ⟨⟨hpad, ?_⟩, ?_⟩
      · simp [hnext, Padding.All, next_dataflit, pad_dataflit]
      · simp [LlcTxn.flits, hnext, next_dataflit, Phase.isCmd]

lemma llcStream_clean (ts : List LlcTxn) {p : Phase} (hp : p.isCmd = true) :
    nopPadding.Clean p (llcStream ts) ∧ (nopPadding.after p (llcStream ts)).isCmd = true := by
  induction ts generalizing p with
  | nil => exact ⟨trivial, hp⟩
  | cons t ts ih =>
      obtain ⟨hclean, hcmd⟩ := t.clean hp
      obtain ⟨hcleans, hcmds⟩ := ih hcmd
      rw [llcStream, List.flatMap_cons, nopPadding.after_append]
      exact ⟨(nopPadding.all_append).mpr ⟨hclean, hcleans⟩, hcmds⟩

/-! ## The egress driver -/

namespace LlcEgressDriver

variable {s : LlcEgressDriver} {pend : List Flit}

/-- The flits in the two stages, oldest first. -/
def Pending (s : LlcEgressDriver) (pend : List Flit) : Prop :=
  ∃ q, s.out.Holds q ∧ pend = q ++ (if s.outdata_s1_vld then [s.outdata_s1] else [])

/-- A NOP is put in: the input pauses between two transactions, within a frame. -/
def patches (s : LlcEgressDriver) (i : DriverIn) : Bool :=
  !i.driver_in_tvalid && s.phase.isCmd && s.frame_counter ≠ 0 && s.driver_in_tready

/-- What enters the first stage in a cycle. -/
def entering (s : LlcEgressDriver) (i : DriverIn) : List Flit :=
  s.accepted i ++ if s.patches i then [patchNop s.outdata_s1] else []

lemma loads_eq (s : LlcEgressDriver) : s.loads = s.driver_in_tready := by
  rw [loads, driver_in_tready]
  cases s.outdata_s1_vld <;> simp

/-- The second stage is a ping-pong buffer that is offered the first one. -/
lemma nextOut_eq {q : List Flit} (h : s.out.Holds q) (tready : Bool) :
    s.nextOut tready
      = s.out.step (if s.outdata_s1_vld then some s.outdata_s1 else none) tready := by
  obtain ⟨s1, vld, out, ph, fc⟩ := s
  cases h with
  | @empty x y r => cases vld <;> cases tready <;> cases r <;> rfl
  | ping | pong | pingPong | pongPing => cases vld <;> cases tready <;> rfl

lemma step_of_accepts {i : DriverIn} (h : i.driver_in_tvalid = true)
    (hr : s.driver_in_tready = true) :
    (s.step i).outdata_s1 = i.driver_in_tdata ∧ (s.step i).outdata_s1_vld = true := by
  simp [step, loads_eq, h, hr]

lemma step_of_patches {i : DriverIn} (h : s.patches i = true) :
    (s.step i).outdata_s1 = patchNop s.outdata_s1 ∧ (s.step i).outdata_s1_vld = true := by
  simp only [patches, Bool.and_eq_true, Bool.not_eq_true'] at h
  obtain ⟨⟨⟨hv, hcmd⟩, hfc⟩, hr⟩ := h
  simp only [step, loads_eq, hv, hcmd, hfc, hr]
  exact ⟨rfl, rfl⟩

lemma step_of_neither {i : DriverIn} (ha : (i.driver_in_tvalid && s.driver_in_tready) = false)
    (hp : s.patches i = false) :
    (s.step i).outdata_s1 = (if s.ping_pong_ready then 0 else s.outdata_s1) ∧
    (s.step i).outdata_s1_vld = (if s.ping_pong_ready then false else s.outdata_s1_vld) := by
  rw [patches] at hp
  simp only [step, loads_eq, ha, hp, Bool.false_eq_true, if_false, and_self]

/-- A flit that enters the first stage does so when the one that was there goes on. -/
lemma s1_goes (hr : s.driver_in_tready = true) :
    (s.outdata_s1_vld && !s.ping_pong_ready) = false := by
  rw [driver_in_tready] at hr
  cases hp : s.ping_pong_ready
  · simpa [hp] using hr
  · simp

/-- The first stage after a cycle. -/
lemma step_s1 (s : LlcEgressDriver) (i : DriverIn) :
    (if (s.step i).outdata_s1_vld then [(s.step i).outdata_s1] else [])
      = (if s.outdata_s1_vld && !s.ping_pong_ready then [s.outdata_s1] else [])
        ++ s.entering i := by
  cases ha : i.driver_in_tvalid && s.driver_in_tready with
  | true =>
      obtain ⟨hv, hr⟩ := Bool.and_eq_true_iff.mp ha
      obtain ⟨hs1, hvld⟩ := step_of_accepts hv hr
      simp [hs1, hvld, s1_goes hr, entering, accepted, patches, hv, hr]
  | false =>
      cases hp : s.patches i with
      | true =>
          obtain ⟨hs1, hvld⟩ := step_of_patches hp
          have hr : s.driver_in_tready = true := by
            rw [patches] at hp
            exact (Bool.and_eq_true_iff.mp hp).2
          simp [hs1, hvld, s1_goes hr, entering, accepted, ha, hp]
      | false =>
          obtain ⟨hs1, hvld⟩ := step_of_neither ha hp
          cases hr : s.ping_pong_ready <;> simp [hs1, hvld, hr, entering, accepted, ha, hp]

/-- **What a cycle does to the flits in the driver.** -/
theorem pending_step (h : Pending s pend) (i : DriverIn) :
    ∃ pend', Pending (s.step i) pend' ∧ s.emitted i ++ pend' = pend ++ s.entering i := by
  obtain ⟨q, hq, rfl⟩ := h
  have hnext := hq.step (if s.outdata_s1_vld then some s.outdata_s1 else none) i.driver_out_tready
  rw [← nextOut_eq hq] at hnext
  refine ⟨_, ⟨_, hnext, rfl⟩, ?_⟩
  have hs1 : (if s.out.ready then
        (if s.outdata_s1_vld then some s.outdata_s1 else none).toList else [])
      ++ (if s.outdata_s1_vld && !s.ping_pong_ready then [s.outdata_s1] else [])
      = if s.outdata_s1_vld then [s.outdata_s1] else [] := by
    rw [ping_pong_ready]
    cases s.outdata_s1_vld <;> cases s.out.ready <;> rfl
  rw [step_s1, emitted, ← hs1]
  conv_rhs => rw [← hq.out_append i.driver_out_tready]
  simp only [List.append_assoc]

/-- **The invariant of the egress driver**, with what it has accepted and handed over. -/
structure Inv (s : LlcEgressDriver) (acc out : List Flit) (pend : List Flit) : Prop where
  pending : Pending s pend
  stripped : nopPadding.strip {} (out ++ pend) = acc
  short : NopsShort {} (out ++ pend)
  phase_eq : s.phase = nopPadding.after {} acc
  counter : s.frame_counter = BitVec.ofNat 2 (out ++ pend).length
  filling : s.phase.isCmd = true → s.frame_counter ≠ 0 → s.outdata_s1_vld = true

lemma inv_init : Inv llcEgressDriver.init [] [] [] where
  pending := ⟨[], .empty, rfl⟩
  stripped := rfl
  short := trivial
  phase_eq := rfl
  counter := rfl
  filling := fun _ h => absurd rfl h

/-- The phase and the counter advance with what enters. -/
lemma step_phase (s : LlcEgressDriver) (i : DriverIn) :
    (s.step i).phase = (s.accepted i).foldl Phase.next s.phase := by
  simp only [step, accepted, Bool.and_comm i.driver_in_tvalid]
  split_ifs <;> rfl

lemma step_counter (s : LlcEgressDriver) (i : DriverIn) :
    (s.step i).frame_counter
      = s.frame_counter + BitVec.ofNat 2 (s.entering i).length := by
  have hstep : (s.step i).frame_counter
      = if (i.driver_in_tvalid && s.driver_in_tready) || s.patches i then s.frame_counter + 1
        else s.frame_counter := by
    simp only [step, patches, Bool.and_right_comm _ _ s.driver_in_tready]
  rw [hstep, entering, accepted]
  cases hv : i.driver_in_tvalid <;> cases hr : s.driver_in_tready <;>
    cases hp : s.patches i <;> simp_all [patches]

lemma step_filling (s : LlcEgressDriver) (i : DriverIn)
    (h : s.phase.isCmd = true → s.frame_counter ≠ 0 → s.outdata_s1_vld = true)
    (hcmd : (s.step i).phase.isCmd = true) (hfc : (s.step i).frame_counter ≠ 0) :
    (s.step i).outdata_s1_vld = true := by
  cases ha : i.driver_in_tvalid && s.driver_in_tready with
  | true =>
      obtain ⟨hv, hr⟩ := Bool.and_eq_true_iff.mp ha
      exact (step_of_accepts hv hr).2
  | false =>
      cases hp : s.patches i with
      | true => exact (step_of_patches hp).2
      | false =>
          -- the phase and the counter stay, so the first stage was full and is stuck
          have hphase : (s.step i).phase = s.phase := by simp [step_phase, accepted, ha]
          have hcounter : (s.step i).frame_counter = s.frame_counter := by
            simp [step_counter, entering, accepted, ha, hp]
          rw [hphase] at hcmd
          rw [hcounter] at hfc
          have hvld := h hcmd hfc
          have hready : s.ping_pong_ready = false := by
            by_contra hne
            have hr : s.driver_in_tready = true := by simp_all [driver_in_tready]
            simp_all [patches]
          rw [(step_of_neither ha hp).2, hready]
          exact hvld

/-- What enters keeps the NOPs apart from the flits of the transactions. -/
lemma entering_stripped {acc : List Flit} (hphase : s.phase = nopPadding.after {} acc)
    (i : DriverIn) (hclean : nopPadding.Clean {} (acc ++ s.accepted i)) :
    nopPadding.strip s.phase (s.entering i) = s.accepted i ∧ NopsShort s.phase (s.entering i) ∧
      (s.accepted i).foldl Phase.next s.phase = nopPadding.after s.phase (s.accepted i) := by
  obtain ⟨-, hclean⟩ := (nopPadding.all_append).mp hclean
  rw [← hphase] at hclean
  rw [entering]
  cases ha : i.driver_in_tvalid && s.driver_in_tready with
  | true =>
      have hp : s.patches i = false := by
        rw [patches, (Bool.and_eq_true_iff.mp ha).1]
        rfl
      have hacc : s.accepted i = [i.driver_in_tdata] := by simp [accepted, ha]
      rw [hacc] at hclean ⊢
      have hpad : nopPadding.pad s.phase i.driver_in_tdata = false := hclean.1
      have hstrip := nopPadding.strip_of_clean hclean
      simp only [hp, Bool.false_eq_true, if_false, List.append_nil]
      refine ⟨hstrip, ⟨fun h => absurd (hpad.symm.trans h) Bool.false_ne_true, trivial⟩, ?_⟩
      exact (nopPadding_next_of_clean hpad).symm
  | false =>
      have hacc : s.accepted i = [] := by simp [accepted, ha]
      rw [hacc]
      cases hp : s.patches i with
      | false => exact ⟨rfl, trivial, rfl⟩
      | true =>
          have hpad : nopPadding.pad s.phase (patchNop s.outdata_s1) = true := by
            have hcmd : s.phase.isCmd = true := by simp_all [patches]
            simp [nopPadding, hcmd, isNopCmd_patchNop]
          refine ⟨?_, ⟨fun _ => hasData_patchNop _, trivial⟩, rfl⟩
          simp [Padding.strip, hpad]

/-- The invariant is kept as long as what is accepted is a stream of transactions. -/
lemma Inv.step {acc out : List Flit} (h : Inv s acc out pend) (i : DriverIn)
    (hclean : nopPadding.Clean {} (acc ++ s.accepted i)) :
    ∃ pend', Inv (s.step i) (acc ++ s.accepted i) (out ++ s.emitted i) pend' := by
  obtain ⟨pend', hpend, hout⟩ := pending_step h.pending i
  obtain ⟨hstrip, hshort, hnext⟩ := entering_stripped h.phase_eq i hclean
  have hphase : nopPadding.after {} (out ++ pend) = s.phase := by
    rw [h.phase_eq, ← h.stripped, nopPadding.after_strip]
  have hall : out ++ s.emitted i ++ pend' = out ++ pend ++ s.entering i := by
    rw [List.append_assoc, hout, ← List.append_assoc]
  refine ⟨pend', hpend, ?_, ?_, ?_, ?_, step_filling s i h.filling⟩
  · rw [hall, nopPadding.strip_append, h.stripped, hphase, hstrip]
  · rw [hall]
    exact (nopPadding.all_append).mpr ⟨h.short, hphase ▸ hshort⟩
  · rw [step_phase, hnext, h.phase_eq, ← nopPadding.after_append]
  · rw [hall, step_counter, h.counter, ← BitVec.ofNat_add, ← List.length_append]

/-- **The invariant of the egress driver holds in every run.** -/
theorem inv_run (is : List DriverIn)
    (hclean : nopPadding.Clean {} (llcEgressDriver.collect accepted is)) :
    ∃ pend, Inv (llcEgressDriver.run is) (llcEgressDriver.collect accepted is)
      (llcEgressDriver.collect emitted is) pend := by
  induction is using List.reverseRecOn with
  | nil => exact ⟨[], inv_init⟩
  | append_singleton is i ih =>
      rw [Machine.collect_concat] at hclean
      obtain ⟨pend, h⟩ := ih ((nopPadding.all_append).mp hclean).1
      rw [Machine.run_concat, Machine.collect_concat, Machine.collect_concat]
      exact h.step i hclean

/-! ### Draining -/

/-- The NOPs that the current frame still needs. -/
def missing (s : LlcEgressDriver) : ℕ := (-s.frame_counter).toNat

/-- The ready cycles it takes until the driver has nothing left to hand over, when its input
pauses. -/
def wait (s : LlcEgressDriver) : ℕ :=
  s.missing + s.out.count + s.outdata_s1_vld.toNat
    + if s.outdata_s1_vld ∧ s.out.count = 0 then 1 else 0

/-- Between two transactions. -/
structure Pausing (s : LlcEgressDriver) : Prop where
  holds : ∃ q, s.out.Holds q
  isCmd : s.phase.isCmd = true
  filling : s.frame_counter ≠ 0 → s.outdata_s1_vld = true

lemma missing_patched : ∀ fc : BitVec 2, fc ≠ 0 → (-fc).toNat = (-(fc + 1)).toNat + 1 := by
  decide

/-- Between two transactions a NOP is put in whenever the second stage has room. -/
lemma Pausing.patches_eq (h : Pausing s) {i : DriverIn} (hi : i.driver_in_tvalid = false) :
    s.patches i = (decide (s.frame_counter ≠ 0) && s.ping_pong_ready) := by
  rw [patches, hi, h.isCmd]
  by_cases hfc : s.frame_counter = 0
  · simp [hfc]
  · simp [driver_in_tready, h.filling hfc]

/-- A cycle without input. -/
lemma Pausing.step (h : Pausing s) {i : DriverIn} (hi : i.driver_in_tvalid = false) :
    Pausing (s.step i) := by
  have hphase : (s.step i).phase = s.phase := by simp [step_phase, accepted, hi]
  have hcmd : (s.step i).phase.isCmd = true := by rw [hphase, h.isCmd]
  obtain ⟨q, hq⟩ := h.holds
  have hnext := hq.step (if s.outdata_s1_vld then some s.outdata_s1 else none) i.driver_out_tready
  rw [← nextOut_eq hq] at hnext
  exact ⟨⟨_, hnext⟩, hcmd, step_filling s i (fun _ => h.filling) hcmd⟩

/-- After a cycle without input the first stage holds a NOP of the frame, or is empty, or is
stuck. -/
lemma Pausing.step_vld (h : Pausing s) {i : DriverIn} (hi : i.driver_in_tvalid = false) :
    (s.step i).outdata_s1_vld
      = if s.ping_pong_ready then decide (s.frame_counter ≠ 0) else s.outdata_s1_vld := by
  have hpatches := h.patches_eq hi
  cases hp : s.patches i with
  | true =>
      rw [hp] at hpatches
      obtain ⟨hfc, hr⟩ := Bool.and_eq_true_iff.mp hpatches.symm
      rw [(step_of_patches hp).2, hr, hfc, if_pos rfl]
  | false =>
      rw [hp] at hpatches
      have hacc : (i.driver_in_tvalid && s.driver_in_tready) = false := by simp [hi]
      rw [(step_of_neither hacc hp).2]
      cases hr : s.ping_pong_ready with
      | false => rfl
      | true =>
          rw [hr, Bool.and_true] at hpatches
          exact hpatches

lemma Pausing.step_missing (h : Pausing s) {i : DriverIn} (hi : i.driver_in_tvalid = false) :
    s.missing = (s.step i).missing
      + (decide (s.frame_counter ≠ 0) && s.ping_pong_ready).toNat := by
  have hcounter := step_counter s i
  rw [entering, accepted, hi, h.patches_eq hi] at hcounter
  rw [missing, missing]
  cases hp : decide (s.frame_counter ≠ 0) && s.ping_pong_ready with
  | true =>
      rw [hp] at hcounter
      have hfc : s.frame_counter ≠ 0 := of_decide_eq_true (Bool.and_eq_true_iff.mp hp).1
      rw [hcounter]
      exact missing_patched _ hfc
  | false =>
      rw [hp] at hcounter
      rw [hcounter]
      simp

/-- Each ready cycle brings the end nearer. -/
lemma Pausing.wait_step (h : Pausing s) {i : DriverIn} (hi : i.driver_in_tvalid = false) :
    (s.step i).wait ≤ s.wait - i.driver_out_tready.toNat := by
  obtain ⟨q, hq⟩ := h.holds
  have hnext := hq.step (if s.outdata_s1_vld then some s.outdata_s1 else none) i.driver_out_tready
  rw [← nextOut_eq hq] at hnext
  have hcount : (s.step i).out.count
      = (q.length - i.driver_out_tready.toNat)
        + (s.ping_pong_ready && s.outdata_s1_vld).toNat := by
    refine hnext.count_eq.trans ?_
    rw [ping_pong_ready]
    cases i.driver_out_tready <;> cases s.out.ready <;> cases s.outdata_s1_vld <;> simp
  have hroom : s.ping_pong_ready = true ↔ q.length < 2 := hq.ready_iff
  have hle := hq.length_le
  have hmissing := h.step_missing hi
  have hzero : decide (s.frame_counter ≠ 0) = false → s.missing = 0 := fun h0 => by
    rw [missing, not_ne_iff.mp (of_decide_eq_false h0)]
    rfl
  have hfill : decide (s.frame_counter ≠ 0) = true → s.outdata_s1_vld = true :=
    fun hne => h.filling (of_decide_eq_true hne)
  rw [wait, wait, hcount, hq.count_eq, h.step_vld hi]
  generalize decide (s.frame_counter ≠ 0) = z at hmissing hzero hfill ⊢
  generalize q.length = n at hroom hle ⊢
  cases hr : s.ping_pong_ready <;> cases hv : s.outdata_s1_vld <;>
    cases i.driver_out_tready <;> cases z <;>
    simp [hr, hv] at hmissing hzero hroom hfill ⊢
  all_goals
    try split_ifs
    all_goals omega

lemma wait_le (h : Pausing s) : s.wait ≤ 6 := by
  obtain ⟨q, hq⟩ := h.holds
  have hlen := hq.length_le
  have hmissing : s.missing ≤ 3 := by
    rw [missing]
    exact Nat.le_of_lt_succ (BitVec.isLt _)
  have hvld := Bool.toNat_le s.outdata_s1_vld
  rw [wait, hq.count_eq]
  split_ifs with he <;> omega

/-- Nothing more comes out. -/
lemma drained_of_wait (h : s.wait = 0) : s.Drained ∧ s.frame_counter = 0 := by
  have hvld : s.outdata_s1_vld.toNat = 0 := by rw [wait] at h; omega
  have hping : s.out.ping_vld.toNat = 0 := by rw [wait, TwoSlot.count] at h; omega
  have hpong : s.out.pong_vld.toNat = 0 := by rw [wait, TwoSlot.count] at h; omega
  have hmissing : s.missing = 0 := by rw [wait] at h; omega
  refine ⟨⟨Bool.toNat_eq_zero.mp hvld, Bool.toNat_eq_zero.mp hping,
    Bool.toNat_eq_zero.mp hpong⟩, ?_⟩
  by_contra hfc
  have := missing_patched _ hfc
  rw [missing] at hmissing
  omega

lemma emitted_of_drained (h : s.Drained) (i : DriverIn) : s.emitted i = [] := by
  have hvalid : s.out.tvalid = false := by
    rw [TwoSlot.tvalid, h.2.1, h.2.2]
    cases s.out.turn_r <;> rfl
  rw [emitted, TwoSlot.out, hvalid]
  rfl

lemma pending_of_drained (h : Pending s pend) (hd : s.Drained) : pend = [] := by
  obtain ⟨q, hq, rfl⟩ := h
  have hlen := hq.count_eq
  rw [TwoSlot.count, hd.2.1, hd.2.2] at hlen
  rw [List.length_eq_zero_iff.mp hlen.symm, hd.1]
  rfl

/-- A pause: ready cycles bring the end nearer, and nothing is accepted. -/
lemma Pausing.run (idle : List DriverIn) (hidle : ∀ i ∈ idle, i.driver_in_tvalid = false)
    (h : Pausing s) :
    Pausing (llcEgressDriver.runFrom s idle) ∧
    (llcEgressDriver.runFrom s idle).wait ≤ s.wait - idle.countP (·.driver_out_tready) ∧
    llcEgressDriver.collectFrom accepted s idle = [] := by
  induction idle generalizing s with
  | nil => exact ⟨h, le_rfl, rfl⟩
  | cons i idle ih =>
      have hi := hidle i List.mem_cons_self
      obtain ⟨hp, hwait, hacc⟩ := ih (fun j hj => hidle j (List.mem_cons_of_mem i hj)) (h.step hi)
      have hstep := h.wait_step hi
      refine ⟨hp, ?_, ?_⟩
      · refine hwait.trans ?_
        rw [List.countP_cons]
        cases hr : i.driver_out_tready
        · rw [hr] at hstep
          simp only [Bool.toNat_false, Bool.false_eq_true, if_false] at hstep ⊢
          omega
        · rw [hr] at hstep
          simp only [Bool.toNat_true, if_true] at hstep ⊢
          omega
      · have hnone : s.accepted i = [] := by simp [accepted, hi]
        rw [Machine.collectFrom, hnone]
        exact hacc

/-- Once the end is reached nothing is handed over until the next transaction. -/
lemma Pausing.silent (more : List DriverIn) (hmore : ∀ i ∈ more, i.driver_in_tvalid = false)
    (h : Pausing s) (hwait : s.wait = 0) : llcEgressDriver.collectFrom emitted s more = [] := by
  induction more generalizing s with
  | nil => rfl
  | cons i more ih =>
      have hi := hmore i List.mem_cons_self
      have hnext : (s.step i).wait = 0 := by
        have := h.wait_step hi
        omega
      rw [Machine.collectFrom, emitted_of_drained (drained_of_wait hwait).1]
      exact ih (fun j hj => hmore j (List.mem_cons_of_mem i hj)) (h.step hi) hnext

end LlcEgressDriver

/-! ## The ingress driver -/

namespace LlcIngressDriver

/-- **The invariant of the ingress driver**: it hands over what it accepts, without the NOPs. -/
structure Inv (s : LlcIngressDriver) (acc out : List Flit) : Prop where
  phase_eq : s.phase = nopPadding.after {} acc
  stripped : out ++ (if s.outdata_vld then [s.outdata_q] else []) = nopPadding.strip {} acc

/-- What a cycle adds to the output. -/
lemma step_out (s : LlcIngressDriver) (i : DriverIn) :
    s.emitted i ++ (if (s.step i).outdata_vld then [(s.step i).outdata_q] else [])
      = (if s.outdata_vld then [s.outdata_q] else [])
        ++ nopPadding.strip s.phase (s.accepted i) := by
  have hpad : nopPadding.pad s.phase i.driver_in_tdata
      = (s.phase.isCmd && isNopCmd i.driver_in_tdata) := rfl
  cases hr : i.driver_out_tready <;> cases hv : i.driver_in_tvalid <;>
    cases hc : s.phase.isCmd <;> cases hn : isNopCmd i.driver_in_tdata <;>
    simp [step, emitted, accepted, driver_in_tready, Padding.strip, hpad, hr, hv, hc, hn]

lemma step_phase (s : LlcIngressDriver) (i : DriverIn)
    (hshort : NopsShort s.phase (s.accepted i)) :
    (s.step i).phase = nopPadding.after s.phase (s.accepted i) := by
  rw [accepted] at hshort ⊢
  cases hv : i.driver_in_tvalid with
  | false => simp [step, hv]
  | true =>
      cases hready : s.driver_in_tready i with
      | false =>
          have hr : i.driver_out_tready = false := by
            rw [driver_in_tready] at hready
            exact (Bool.or_eq_false_iff.mp hready).1
          simp [step, hr]
      | true =>
          rw [hv, hready] at hshort
          have hnext := next_eq_of_short hshort.1
          cases hr : i.driver_out_tready with
          | true => simp [step, hv, hr, hnext]
          | false =>
              have hpad : nopPadding.pad s.phase i.driver_in_tdata = true := by
                rw [driver_in_tready, hr, hv] at hready
                simpa [nopPadding, Bool.and_comm] using hready
              simp [step, hr, nopPadding.next_pad _ _ hpad]

/-- **The invariant of the ingress driver holds in every run.** -/
theorem inv_run (js : List DriverIn)
    (hshort : NopsShort {} (llcIngressDriver.collect accepted js)) :
    Inv (llcIngressDriver.run js) (llcIngressDriver.collect accepted js)
      (llcIngressDriver.collect emitted js) := by
  induction js using List.reverseRecOn with
  | nil => exact ⟨rfl, rfl⟩
  | append_singleton js j ih =>
      rw [Machine.collect_concat] at hshort
      obtain ⟨hshort, hj⟩ := (nopPadding.all_append).mp hshort
      have h := ih hshort
      rw [← h.phase_eq] at hj
      rw [Machine.run_concat, Machine.collect_concat, Machine.collect_concat]
      refine ⟨?_, ?_⟩
      · rw [nopPadding.after_append, ← h.phase_eq]
        exact step_phase _ j hj
      · rw [nopPadding.strip_append, ← h.phase_eq, ← h.stripped, List.append_assoc,
          List.append_assoc]
        exact congrArg _ (step_out _ j)

end LlcIngressDriver

/-! ## The two drivers -/

lemma clean_of_isPrefix {ts : List LlcTxn} {acc : List Flit} (h : acc <+: llcStream ts) :
    nopPadding.Clean {} acc := by
  obtain ⟨rest, hrest⟩ := h
  have := (llcStream_clean ts (p := {}) rfl).1
  rw [← hrest] at this
  exact ((nopPadding.all_append).mp this).1

/-- The end of a pause between two transactions. -/
lemma pause_ends {ts : List LlcTxn} {is : List DriverIn}
    (hts : llcEgressDriver.collect LlcEgressDriver.accepted is = llcStream ts)
    {idle : List DriverIn} (hidle : ∀ i ∈ idle, i.driver_in_tvalid = false)
    (hready : 6 ≤ idle.countP (·.driver_out_tready)) :
    4 ∣ (llcEgressDriver.collect LlcEgressDriver.emitted (is ++ idle)).length ∧
    (llcEgressDriver.run (is ++ idle)).Drained ∧
    ∀ more : List DriverIn, (∀ i ∈ more, i.driver_in_tvalid = false) →
      llcEgressDriver.collect LlcEgressDriver.emitted (is ++ idle ++ more)
        = llcEgressDriver.collect LlcEgressDriver.emitted (is ++ idle) := by
  have hclean : nopPadding.Clean {} (llcEgressDriver.collect LlcEgressDriver.accepted is) :=
    clean_of_isPrefix (show _ <+: llcStream ts by rw [hts])
  obtain ⟨pend, hinv⟩ := LlcEgressDriver.inv_run is hclean
  have hpausing : LlcEgressDriver.Pausing (llcEgressDriver.run is) := by
    obtain ⟨q, hq, -⟩ := hinv.pending
    have hcmd : (llcEgressDriver.run is).phase.isCmd = true := by
      rw [hinv.phase_eq, hts]
      exact (llcStream_clean ts rfl).2
    exact ⟨⟨q, hq⟩, hcmd, hinv.filling hcmd⟩
  obtain ⟨hp, hwait, hacc⟩ := hpausing.run idle hidle
  have hzero : (llcEgressDriver.run (is ++ idle)).wait = 0 := by
    have hle := LlcEgressDriver.wait_le hpausing
    rw [Machine.run_append]
    omega
  obtain ⟨hdrained, hfc⟩ := LlcEgressDriver.drained_of_wait hzero
  have hsame : llcEgressDriver.collect LlcEgressDriver.accepted (is ++ idle)
      = llcEgressDriver.collect LlcEgressDriver.accepted is := by
    rw [Machine.collect, Machine.collectFrom_append]
    exact (congrArg _ hacc).trans (List.append_nil _)
  obtain ⟨pend', hinv'⟩ := LlcEgressDriver.inv_run (is ++ idle) (hsame ▸ hclean)
  refine ⟨?_, hdrained, fun more hmore => ?_⟩
  · have hcounter := hinv'.counter
    rw [hfc, LlcEgressDriver.pending_of_drained hinv'.pending hdrained, List.append_nil] at hcounter
    have := congrArg BitVec.toNat hcounter
    rw [BitVec.toNat_ofNat] at this
    exact Nat.dvd_of_mod_eq_zero this.symm
  · rw [← Machine.run_append] at hp
    rw [Machine.collect, Machine.collectFrom_append]
    exact (congrArg _ (hp.silent more hmore hzero)).trans (List.append_nil _)

/-- **NOP padding is invisible and completes frames.**  Whatever pattern of gaps and stalls the
two drivers see, what comes out behind the ingress driver is what went into the egress driver, and
a pause between two transactions ends with a complete frame. -/
theorem nop_padding (ts : List LlcTxn) (is : List DriverIn)
    (hoffered : llcEgressDriver.collect LlcEgressDriver.accepted is <+: llcStream ts) :
    (∀ js, llcIngressDriver.collect LlcIngressDriver.accepted js
        <+: llcEgressDriver.collect LlcEgressDriver.emitted is →
      llcIngressDriver.collect LlcIngressDriver.emitted js
        <+: llcEgressDriver.collect LlcEgressDriver.accepted is ∧
      (llcIngressDriver.collect LlcIngressDriver.accepted js
          = llcEgressDriver.collect LlcEgressDriver.emitted is →
        (llcEgressDriver.run is).Drained → (llcIngressDriver.run js).outdata_vld = false →
        llcIngressDriver.collect LlcIngressDriver.emitted js
          = llcEgressDriver.collect LlcEgressDriver.accepted is)) ∧
    (∀ ts', llcEgressDriver.collect LlcEgressDriver.accepted is = llcStream ts' →
      ∀ idle : List DriverIn, (∀ i ∈ idle, i.driver_in_tvalid = false) →
        6 ≤ idle.countP (·.driver_out_tready) →
        4 ∣ (llcEgressDriver.collect LlcEgressDriver.emitted (is ++ idle)).length ∧
        (llcEgressDriver.run (is ++ idle)).Drained ∧
        ∀ more : List DriverIn, (∀ i ∈ more, i.driver_in_tvalid = false) →
          llcEgressDriver.collect LlcEgressDriver.emitted (is ++ idle ++ more)
            = llcEgressDriver.collect LlcEgressDriver.emitted (is ++ idle)) := by
  refine ⟨fun js hjs => ?_, fun ts' hts idle hidle hready => pause_ends hts hidle hready⟩
  obtain ⟨pend, hinv⟩ := LlcEgressDriver.inv_run is (clean_of_isPrefix hoffered)
  obtain ⟨rest, hrest⟩ := hjs
  have hshort := hinv.short
  have hstripped := hinv.stripped
  rw [← hrest, List.append_assoc] at hshort hstripped
  have hin := LlcIngressDriver.inv_run js ((nopPadding.all_append).mp hshort).1
  rw [nopPadding.strip_append, ← hin.stripped] at hstripped
  refine ⟨?_, fun hall hdrained hvld => ?_⟩
  · rw [← hstripped, List.append_assoc]
    exact List.prefix_append _ _
  · have hrest' : rest = [] := by
      rw [hall] at hrest
      exact List.append_right_eq_self.mp hrest
    rw [← hstripped, hrest', LlcEgressDriver.pending_of_drained hinv.pending hdrained, hvld]
    simp

/-! ### A run with stalls -/

/-- A read command without data. -/
def readCmd : Flit := setField 0 248 0x10#8

/-- A write command, which has four data flits. -/
def writeCmd : Flit := setField 0 248 0x20#8

/-- A read, a write with its data, and two reads. -/
def fourTxns : List LlcTxn :=
  [.short readCmd (by decide +kernel) (by decide +kernel),
    .long writeCmd 1 2 3 4 (by decide +kernel) (by decide +kernel),
    .short (setBit readCmd 168) (by decide +kernel) (by decide +kernel),
    .short (setBit readCmd 169) (by decide +kernel) (by decide +kernel)]

/-- They are offered with gaps, and held where the egress driver is not ready. -/
def stalledTxns : List DriverIn :=
  [⟨readCmd, true, true⟩, ⟨0, false, true⟩, ⟨writeCmd, true, false⟩, ⟨1, true, false⟩, ⟨1, true, true⟩,
    ⟨1, true, true⟩, ⟨2, true, false⟩, ⟨0, false, true⟩, ⟨3, true, true⟩, ⟨4, true, true⟩,
    ⟨setBit readCmd 168, true, true⟩, ⟨setBit readCmd 169, true, true⟩]

def idleCycles : List DriverIn := List.replicate 7 ⟨0, false, true⟩

/-- The output of the egress driver, offered to the ingress driver, which is stalled in every second cycle. -/
def stalledPadded : List DriverIn :=
  ((llcEgressDriver.collect LlcEgressDriver.emitted (stalledTxns ++ idleCycles)).flatMap
    fun f => [⟨0, false, false⟩, ⟨f, true, true⟩]) ++ [⟨0, false, true⟩]

/-- The eight flits come out of the ingress driver again; between the drivers there is a NOP in the gap,
and three more complete the third frame. -/
theorem nop_padding_stalledTxns :
    llcIngressDriver.collect LlcIngressDriver.emitted stalledPadded = llcStream fourTxns ∧
    4 ∣ (llcEgressDriver.collect LlcEgressDriver.emitted (stalledTxns ++ idleCycles)).length := by
  have hts : llcEgressDriver.collect LlcEgressDriver.accepted stalledTxns = llcStream fourTxns := by
    decide +kernel
  have hall : llcEgressDriver.collect LlcEgressDriver.accepted (stalledTxns ++ idleCycles)
      = llcStream fourTxns := by decide +kernel
  refine ⟨?_, ?_⟩
  · refine ((nop_padding _ (stalledTxns ++ idleCycles) (by rw [hall])).1 stalledPadded ?_).2 ?_ ?_ ?_
      |>.trans hall
    all_goals decide +kernel
  · exact ((nop_padding _ stalledTxns (by rw [hts])).2 _ hts idleCycles (by decide) (by decide)).1

end ThymesisFlow
