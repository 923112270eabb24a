import ThymesisFlow.Llc.Parser
import ThymesisFlow.Llc.Patch

/-!
# The parser follows its protocol

A frame is written to one buffer while the frame before it is read from the other.  `WriteSide` says
what the writer has of the current frame, `ReadSide` what the reader has still to put out; the two
meet when a frame passes its CRC check, which is never earlier than the cycle in which the reader is
done with the other buffer.
-/

namespace ThymesisFlow

namespace Receiver

/-- The receiver after a data frame. -/
lemma step_data (p : Receiver) {fr : LinkFrame} (h : fr.isInband = false) :
    p.step fr = ⟨p.stalled || !fr.crc_ok,
      if !p.stalled && fr.crc_ok then p.frames + 1 else p.frames⟩ := by
  have hpre : fr.isPreamble = false := by rw [LinkFrame.isPreamble, h]; rfl
  rw [step, hpre, refuses, accepts, h]
  cases p.stalled <;> rfl

/-- The receiver after an in-band message. -/
lemma step_message (p : Receiver) {fr : LinkFrame} (h : fr.isInband = true) :
    p.step fr = ⟨if fr.isPreamble then false else p.stalled, p.frames⟩ := by
  rw [step, refuses, accepts, h]
  cases fr.isPreamble <;> simp

end Receiver

namespace Parser

variable {s : Parser} {i : ParserIn} {part fs : List Flit} {p : Receiver}

/-! ## The invariant -/

/-- The writer: `part` is what it has of the current frame.  While it is stalled it has nothing. -/
structure WriteSide (s : Parser) (part : List Flit) (p : Receiver) : Prop where
  counter : s.tlast_distance_counter.toNat = part.length
  stall : s.parser_stall = p.stalled
  ptr : s.wrptr.toNat = if p.stalled then 0 else part.length
  kept : p.stalled = false → ∀ j (h : j < part.length), s.data s.wrq (BitVec.ofNat 2 j) = part[j] ∧
    (s.data_valid s.wrq).getLsbD j = true
  id : s.current_frameid = BitVec.ofNat 6 p.frames
  raised : s.frame_id_valid = true → p.stalled = true

/-- The reader: `fs` is what it has still to put out. -/
inductive ReadSide (s : Parser) : List Flit → Prop
  | idle (hptr : s.rdptr = 0) (hsame : s.rdq = s.wrq) (hoff : ∀ q, s.read_enable q = false) :
      ReadSide s []
  | busy {fs : List Flit} (hother : s.rdq = !s.wrq) (hon : s.read_enable s.rdq = true)
      (hoff : s.read_enable s.wrq = false) (hne : fs ≠ []) (hlen : fs.length + s.rdptr.toNat = 4)
      (hkept : ∀ j (h : j < fs.length),
        s.data s.rdq (BitVec.ofNat 2 (s.rdptr.toNat + j)) = fs[j] ∧
          (s.data_valid s.rdq).getLsbD (s.rdptr.toNat + j) = true)
      (hahead : s.wrptr.toNat ≤ s.rdptr.toNat) : ReadSide s fs

/-! ## What a cycle brings -/

/-- The cycles of a stream of frames. -/
inductive Brings (s : Parser) (i : ParserIn) (part : List Flit) : Prop
  | nothing (hv : i.fifo_in_tvalid = false) (hc : i.crc_valid = false)
  | flit (hv : i.fifo_in_tvalid = true) (hl : i.fifo_in_tlast = false) (hc : i.crc_valid = false)
      (hlen : part.length < 3)
  | frame (hv : i.fifo_in_tvalid = true) (hl : i.fifo_in_tlast = true) (hc : i.crc_valid = true)
      (hlen : part.length = 3)
  | message (hv : i.fifo_in_tvalid = true) (hl : i.fifo_in_tlast = true) (hc : i.crc_valid = true)
      (hnil : part = [])

lemma brings (h : FrameCycle part i) (hle : part.length ≤ 3) : Brings s i part := by
  obtain ⟨hc, hl⟩ := h
  cases hv : i.fifo_in_tvalid with
  | false => exact .nothing hv (by rw [hc, hv]; rfl)
  | true =>
      cases hlast : i.fifo_in_tlast with
      | false =>
          refine .flit hv hlast (by rw [hc, hv, hlast]; rfl) ?_
          by_cases hnil : part = []
          · rw [hnil]
            decide
          · have hno : part.length ≠ 3 := fun hx => by
              have := (hl hv hnil).mpr hx
              rw [hlast] at this
              cases this
            omega
      | true =>
          by_cases hnil : part = []
          · exact .message hv hlast (by rw [hc, hv, hlast]; rfl) hnil
          · exact .frame hv hlast (by rw [hc, hv, hlast]; rfl) ((hl hv hnil).mp hlast)

/-- Whether the writer is at the fourth flit of a frame it takes. -/
lemma WriteSide.ptr_eq (h : WriteSide s part p) :
    decide (s.wrptr = 3) = (!p.stalled && decide (part.length = 3)) := by
  have hptr := h.ptr
  have hiff : s.wrptr = 3 ↔ s.wrptr.toNat = 3 :=
    ⟨fun hx => by rw [hx]; rfl, fun hx => BitVec.eq_of_toNat_eq hx⟩
  rw [Bool.eq_iff_iff, decide_eq_true_iff, hiff, hptr]
  cases p.stalled <;> simp

lemma WriteSide.counter_eq (h : WriteSide s part p) :
    decide (s.tlast_distance_counter = 0) = decide (part = []) := by
  have hcounter := h.counter
  refine decide_eq_decide.mpr ⟨fun hx => ?_, fun hx => ?_⟩
  · rw [hx] at hcounter
    exact List.length_eq_zero_iff.mp hcounter.symm
  · rw [hx] at hcounter
    exact BitVec.eq_of_toNat_eq hcounter

/-- What the CRC result of a cycle is about. -/
structure Signals (s : Parser) (i : ParserIn) (ok error request pre msg : Bool) : Prop where
  ok : s.frameOk i = ok
  error : s.frameError i = error
  request : s.remoteRequest i = request
  preamble : s.preamble i = pre
  message : s.inbandOk i = msg

/-- No frame ends. -/
lemma signals_none (hc : i.crc_valid = false) : Signals s i false false false false false := by
  constructor <;> simp [frameOk, frameError, remoteRequest, preamble, inbandOk, hc]

/-- A data frame ends. -/
lemma signals_frame (h : WriteSide s part p) (hl : i.fifo_in_tlast = true) (hc : i.crc_valid = true)
    (hlen : part.length = 3) :
    Signals s i (!p.stalled && i.crc_ok) (!p.stalled && !i.crc_ok) false false false := by
  have hptr := h.ptr_eq
  have hcounter := h.counter_eq
  have hne : part ≠ [] := fun hx => by rw [hx] at hlen; cases hlen
  rw [hlen, decide_eq_true rfl, Bool.and_true] at hptr
  rw [decide_eq_false hne] at hcounter
  constructor <;> simp only [frameOk, frameError, remoteRequest, preamble, inbandOk, hl, hc, hptr,
    hcounter, Bool.true_and, Bool.and_true, Bool.and_false, Bool.false_and] <;>
    exact Bool.and_comm _ _

/-- An in-band message ends. -/
lemma signals_message (h : WriteSide s [] p) (hl : i.fifo_in_tlast = true) (hc : i.crc_valid = true) :
    Signals s i false false (i.crc_ok && bit i.fifo_in_tdata 0)
      (i.crc_ok && !bit i.fifo_in_tdata 0 && bit i.fifo_in_tdata 7) i.crc_ok := by
  have hptr := h.ptr_eq
  have hcounter := h.counter_eq
  rw [decide_eq_true rfl] at hcounter
  have h3 : decide (([] : List Flit).length = 3) = false := rfl
  rw [h3, Bool.and_false] at hptr
  constructor <;> simp only [frameOk, frameError, remoteRequest, preamble, inbandOk, hl, hc, hptr,
    hcounter, Bool.true_and, Bool.and_true, Bool.and_false]

/-! ## The frame buffers -/

/-- The reader is done, or it reads the other buffer. -/
lemma ReadSide.apart (h : ReadSide s fs) : s.reading = true → s.rdq ≠ s.wrq := by
  cases h with
  | idle hptr hsame hoff => simp [reading, hoff]
  | busy hother => simp [hother]

lemma ReadSide.reading_eq (h : ReadSide s fs) : s.reading = !fs.isEmpty := by
  cases h with
  | idle hptr hsame hoff => simp [reading, hoff]
  | busy hother hon hoff hne hlen hkept =>
      have hpos := List.length_pos_iff.mpr hne
      have hbit := (hkept 0 hpos).2
      have hne' : s.data_valid s.rdq ≠ 0 := by
        intro hx
        rw [hx] at hbit
        simp at hbit
      have hfalse : fs.isEmpty = false := by simpa using hne
      rw [reading, not_empty, hon, hfalse, decide_eq_true hne']
      rfl

/-- The slots the reader has not come to stay as they are. -/
lemma kept_other (hne : s.rdq ≠ s.wrq) {j : ℕ} (hj : j ≠ s.rdptr.toNat) (a : BitVec 2) :
    s.nextData i s.rdq a = s.data s.rdq a ∧
      (s.nextDataValid i s.rdq).getLsbD j = (s.data_valid s.rdq).getLsbD j := by
  constructor
  · rw [nextData_eq]
    split_ifs
    · rw [Function.update_of_ne hne]
    · rfl
  · rw [nextDataValid_eq]
    split_ifs <;> simp [Function.update_of_ne hne, getLsbD_clearBit, hj]

/-- What the writer does to its buffer. -/
lemma written_own (hapart : s.reading = true → s.rdq ≠ s.wrq) (hstall : s.parser_stall = false)
    (a : BitVec 2) (j : ℕ) :
    s.nextData i s.wrq a
        = (if s.writes i = true ∧ a = s.wrptr then i.fifo_in_tdata else s.data s.wrq a) ∧
      (s.nextDataValid i s.wrq).getLsbD j
        = if s.writes i then (setBit (s.data_valid s.wrq) s.wrptr.toNat).getLsbD j
          else (s.data_valid s.wrq).getLsbD j := by
  constructor
  · rw [nextData_eq]
    cases s.writes i with
    | false => simp
    | true =>
        by_cases ha : a = s.wrptr
        · simp [ha]
        · simp [ha]
  · rw [nextDataValid_eq, hstall, if_neg Bool.false_ne_true]
    cases hr : s.reading with
    | false => cases s.writes i <;> simp
    | true =>
        have hne := (hapart hr).symm
        cases s.writes i <;> simp [Function.update_of_ne hne]

/-- A flit is added to the frame in the buffer. -/
lemma WriteSide.written (h : WriteSide s part p) (hread : ReadSide s fs) (hrun : p.stalled = false)
    (hw : s.writes i = true) (hle : part.length ≤ 3) :
    ∀ j (hj : j < (part ++ [i.fifo_in_tdata]).length),
      s.nextData i s.wrq (BitVec.ofNat 2 j) = (part ++ [i.fifo_in_tdata])[j] ∧
        (s.nextDataValid i s.wrq).getLsbD j = true := by
  intro j hj
  have hptr := h.ptr
  rw [hrun, if_neg Bool.false_ne_true] at hptr
  rw [List.length_append, List.length_singleton] at hj
  obtain ⟨hdata, hvalid⟩ := written_own (i := i) hread.apart (h.stall.trans hrun) (BitVec.ofNat 2 j) j
  rw [hdata, hvalid, hw, if_pos rfl, getLsbD_setBit, hptr]
  by_cases hlast : j = part.length
  · have heq : BitVec.ofNat 2 j = s.wrptr := by
      apply BitVec.eq_of_toNat_eq
      rw [hptr, BitVec.toNat_ofNat]
      omega
    have hlt : j < 4 := by omega
    rw [if_pos ⟨rfl, heq⟩]
    simp [hlast]
    omega
  · have hlt : j < part.length := by omega
    have hne : BitVec.ofNat 2 j ≠ s.wrptr := by
      intro heq
      have hnat := congrArg BitVec.toNat heq
      rw [BitVec.toNat_ofNat, hptr] at hnat
      omega
    obtain ⟨hkept, hbit⟩ := h.kept hrun j hlt
    rw [if_neg fun hx => hne hx.2, hkept, hbit, List.getElem_append_left hlt]
    exact ⟨rfl, rfl⟩

/-! ## One cycle -/

/-- The registers of the writer. -/
lemma step_wrptr (s : Parser) (i : ParserIn) : (s.step i).wrptr = s.nextWrptr i := rfl

lemma step_tlast_distance_counter (s : Parser) (i : ParserIn) :
    (s.step i).tlast_distance_counter = s.nextTlastDistanceCounter i := rfl

lemma step_parser_stall (s : Parser) (i : ParserIn) :
    (s.step i).parser_stall = s.nextStallParser i := rfl

lemma step_current_frameid (s : Parser) (i : ParserIn) :
    (s.step i).current_frameid = s.nextCurrentFrameid i := rfl

lemma step_frame_id_valid (s : Parser) (i : ParserIn) :
    (s.step i).frame_id_valid = s.nextFrameIdValid i := rfl

/-- Nothing arrives. -/
lemma WriteSide.nothing (h : WriteSide s part p) (hread : ReadSide s fs)
    (hv : i.fifo_in_tvalid = false) (hc : i.crc_valid = false) : WriteSide (s.step i) part p := by
  have hptr := h.ptr
  have hcounter := h.counter
  obtain ⟨hok, herror, hrequest, hpre, hmsg⟩ := signals_none (s := s) hc
  have hwrites : s.writes i = false := by simp [writes, hv]
  refine ⟨?_, ?_, ?_, fun hrun j hj => ?_, ?_, fun hx => ?_⟩
  · rw [step_tlast_distance_counter, nextTlastDistanceCounter, hv]
    exact hcounter
  · rw [step_parser_stall, nextStallParser, herror, hpre]
    exact h.stall
  · rw [step_wrptr, nextWrptr, hv, h.stall]
    cases hst : p.stalled with
    | true => rfl
    | false => simpa [hst] using hptr
  · have hq : (s.step i).wrq = s.wrq := by
      change s.nextWrq i = _
      rw [nextWrq, hv]
      rfl
    obtain ⟨hdata, hvalid⟩ := written_own (i := i) hread.apart (h.stall.trans hrun)
      (BitVec.ofNat 2 j) j
    rw [hq]
    change s.nextData i s.wrq _ = _ ∧ (s.nextDataValid i s.wrq).getLsbD j = true
    rw [hdata, hvalid, hwrites, if_neg fun hx => Bool.false_ne_true hx.1,
      if_neg Bool.false_ne_true]
    exact h.kept hrun j hj
  · rw [step_current_frameid, nextCurrentFrameid, hc, Bool.and_false, Bool.false_and,
      if_neg Bool.false_ne_true]
    exact h.id
  · rw [step_frame_id_valid, nextFrameIdValid, herror, hrequest, hpre, hmsg] at hx
    cases hx

/-- A flit arrives that does not end its frame. -/
lemma WriteSide.flit (h : WriteSide s part p) (hread : ReadSide s fs)
    (hv : i.fifo_in_tvalid = true) (hl : i.fifo_in_tlast = false) (hc : i.crc_valid = false)
    (hlen : part.length < 3) : WriteSide (s.step i) (part ++ [i.fifo_in_tdata]) p := by
  have hptr := h.ptr
  have hcounter := h.counter
  obtain ⟨hok, herror, hrequest, hpre, hmsg⟩ := signals_none (s := s) hc
  refine ⟨?_, ?_, ?_, fun hrun j hj => ?_, ?_, fun hx => ?_⟩
  · rw [step_tlast_distance_counter, nextTlastDistanceCounter, hv, hl, if_pos rfl, if_neg Bool.false_ne_true,
      List.length_append, List.length_singleton]
    bv_omega
  · rw [step_parser_stall, nextStallParser, herror, hpre]
    exact h.stall
  · rw [step_wrptr, nextWrptr, hv, hl, h.stall, List.length_append, List.length_singleton]
    cases hst : p.stalled with
    | true => rfl
    | false =>
        rw [hst, if_neg Bool.false_ne_true] at hptr
        have hne : s.wrptr ≠ 3 := fun hx => by
          rw [hx] at hptr
          change 3 = _ at hptr
          omega
        simp only [Bool.false_eq_true, if_false, hne, ne_eq, not_false_eq_true, decide_true,
          Bool.and_self, Bool.not_false, if_true]
        bv_omega
  · have hq : (s.step i).wrq = s.wrq := by
      change s.nextWrq i = _
      rw [nextWrq, hok, Bool.and_false]
      rfl
    have hwrites : s.writes i = true := by
      simp [writes, hv, h.stall, hrun, inband_msg_frame_received, hc]
    rw [hq]
    exact h.written hread hrun hwrites (by omega) j hj
  · rw [step_current_frameid, nextCurrentFrameid, hc, Bool.and_false, Bool.false_and,
      if_neg Bool.false_ne_true]
    exact h.id
  · rw [step_frame_id_valid, nextFrameIdValid, herror, hrequest, hpre, hmsg] at hx
    cases hx

/-- The fourth flit of a frame arrives. -/
lemma WriteSide.frame (h : WriteSide s part p) (hv : i.fifo_in_tvalid = true)
    (hl : i.fifo_in_tlast = true) (hc : i.crc_valid = true) (hlen : part.length = 3) :
    WriteSide (s.step i) [] (p.step ⟨part ++ [i.fifo_in_tdata], i.crc_ok⟩) := by
  obtain ⟨hok, herror, hrequest, hpre, hmsg⟩ := signals_frame h hl hc hlen
  have hdataframe : (⟨part ++ [i.fifo_in_tdata], i.crc_ok⟩ : LinkFrame).isInband = false := by
    simp [LinkFrame.isInband, hlen]
  rw [p.step_data hdataframe]
  refine ⟨?_, ?_, ?_, (fun _ j hj => by cases hj), ?_, fun hx => ?_⟩
  · rw [step_tlast_distance_counter, nextTlastDistanceCounter, hv, hl]
    rfl
  · rw [step_parser_stall, nextStallParser, herror, hpre, h.stall]
    cases p.stalled <;> cases i.crc_ok <;> rfl
  · rw [step_wrptr, nextWrptr, hv, hl]
    cases s.parser_stall <;> simp
  · rw [step_current_frameid, nextCurrentFrameid, hc, h.ptr_eq, hlen, h.id]
    cases p.stalled <;> cases i.crc_ok <;> simp [Framer.rollover_eq, BitVec.ofNat_add]
  · rw [step_frame_id_valid, nextFrameIdValid, herror, hrequest, hpre, hmsg] at hx
    cases hst : p.stalled with
    | true => rfl
    | false =>
        rw [hst] at hx
        cases hcrc : i.crc_ok with
        | true => simp [hcrc] at hx
        | false => rfl

/-- An in-band message arrives. -/
lemma WriteSide.message (h : WriteSide s [] p) (hv : i.fifo_in_tvalid = true)
    (hl : i.fifo_in_tlast = true) (hc : i.crc_valid = true) :
    WriteSide (s.step i) [] (p.step ⟨[i.fifo_in_tdata], i.crc_ok⟩) := by
  obtain ⟨hok, herror, hrequest, hpre, hmsg⟩ := signals_message h hl hc
  have hpreamble : (⟨[i.fifo_in_tdata], i.crc_ok⟩ : LinkFrame).isPreamble
      = (i.crc_ok && !bit i.fifo_in_tdata 0 && bit i.fifo_in_tdata 7) := by
    simp only [LinkFrame.isPreamble, LinkFrame.isInband, List.all_cons, List.all_nil,
      List.length_singleton, decide_true, Bool.true_and, Bool.and_true]
    rw [Bool.and_comm (bit i.fifo_in_tdata 7), Bool.and_assoc]
  rw [p.step_message rfl, hpreamble]
  refine ⟨?_, ?_, ?_, (fun _ j hj => by cases hj), ?_, fun hx => ?_⟩
  · rw [step_tlast_distance_counter, nextTlastDistanceCounter, hv, hl]
    rfl
  · rw [step_parser_stall, nextStallParser, herror, hpre, h.stall]
    rfl
  · rw [step_wrptr, nextWrptr, hv, hl]
    cases s.parser_stall <;> simp
  · have h3 : decide (s.wrptr = 3) = false := by
      rw [h.ptr_eq]
      exact Bool.and_false _
    rw [step_current_frameid, nextCurrentFrameid, h3, Bool.false_and, Bool.false_and,
      if_neg Bool.false_ne_true]
    exact h.id
  · rw [step_frame_id_valid, nextFrameIdValid, herror, hrequest, hpre, hmsg,
      if_neg Bool.false_ne_true] at hx
    split at hx
    · cases hx
    · rename_i hno
      have hnopre : (i.crc_ok && !bit i.fifo_in_tdata 0 && bit i.fifo_in_tdata 7) = false :=
        eq_false_of_ne_true fun hy => hno (by rw [hy, Bool.or_true])
      split at hx
      · rw [hnopre]
        exact h.raised hx
      · cases hx

/-- **The writer in a cycle.** -/
lemma WriteSide.step (h : WriteSide s part p) (hread : ReadSide s fs) (hle : part.length ≤ 3)
    (hcycle : FrameCycle part i) :
    WriteSide (s.step i) (deframer.step part i) (receiver.runFrom p (endingFrame part i)) := by
  cases brings (s := s) hcycle hle with
  | nothing hv hc =>
      have hnone : endingFrame part i = [] := by simp [endingFrame, hv]
      have hpart : deframer.step part i = part := by simp [deframer, hv]
      rw [hnone, hpart]
      exact h.nothing hread hv hc
  | flit hv hl hc hlen =>
      have hnone : endingFrame part i = [] := by simp [endingFrame, hl]
      have hpart : deframer.step part i = part ++ [i.fifo_in_tdata] := by simp [deframer, hv, hl]
      rw [hnone, hpart]
      exact h.flit hread hv hl hc hlen
  | frame hv hl hc hlen =>
      have hone : endingFrame part i = [⟨part ++ [i.fifo_in_tdata], i.crc_ok⟩] := by
        simp [endingFrame, hv, hl]
      have hpart : deframer.step part i = [] := by simp [deframer, hv, hl]
      rw [hone, hpart]
      exact h.frame hv hl hc hlen
  | message hv hl hc hnil =>
      subst hnil
      have hone : endingFrame [] i = [⟨[i.fifo_in_tdata], i.crc_ok⟩] := by
        simp [endingFrame, hv, hl]
      have hpart : deframer.step [] i = [] := by simp [deframer, hv, hl]
      rw [hone, hpart]
      exact h.message hv hl hc

/-- What is asked for again in a cycle. -/
lemma WriteSide.raised_eq (h : WriteSide s part p) (hle : part.length ≤ 3)
    (hcycle : FrameCycle part i) :
    s.raised i = receiver.collectFrom Receiver.requested p (endingFrame part i) := by
  cases brings (s := s) hcycle hle with
  | nothing hv hc =>
      obtain ⟨hok, herror, hrequest, hpre, hmsg⟩ := signals_none (s := s) hc
      have hnone : endingFrame part i = [] := by simp [endingFrame, hv]
      rw [hnone, Parser.raised, nextFrameIdValid, herror, hrequest, hpre, hmsg]
      rfl
  | flit hv hl hc hlen =>
      obtain ⟨hok, herror, hrequest, hpre, hmsg⟩ := signals_none (s := s) hc
      have hnone : endingFrame part i = [] := by simp [endingFrame, hl]
      rw [hnone, Parser.raised, nextFrameIdValid, herror, hrequest, hpre, hmsg]
      rfl
  | frame hv hl hc hlen =>
      obtain ⟨hok, herror, hrequest, hpre, hmsg⟩ := signals_frame h hl hc hlen
      have hone : endingFrame part i = [⟨part ++ [i.fifo_in_tdata], i.crc_ok⟩] := by
        simp [endingFrame, hv, hl]
      have hdataframe : (⟨part ++ [i.fifo_in_tdata], i.crc_ok⟩ : LinkFrame).isInband = false := by
        simp [LinkFrame.isInband, hlen]
      have hquiet : p.stalled = false → s.frame_id_valid = false := fun hst =>
        eq_false_of_ne_true fun hx => by
          rw [h.raised hx] at hst
          cases hst
      rw [hone, Machine.collectFrom, Machine.collectFrom, List.append_nil, Receiver.requested,
        Receiver.refuses, hdataframe, Parser.raised, nextFrameIdValid, nextFrameId, herror, hrequest, hpre,
        hmsg, h.id]
      cases hst : p.stalled with
      | true => simp
      | false =>
          have := hquiet hst
          cases i.crc_ok <;> simp [this]
  | message hv hl hc hnil =>
      subst hnil
      obtain ⟨hok, herror, hrequest, hpre, hmsg⟩ := signals_message h hl hc
      have hone : endingFrame [] i = [⟨[i.fifo_in_tdata], i.crc_ok⟩] := by
        simp [endingFrame, hv, hl]
      have hinband : (⟨[i.fifo_in_tdata], i.crc_ok⟩ : LinkFrame).isInband = true := rfl
      rw [hone, Machine.collectFrom, Machine.collectFrom, List.append_nil, Receiver.requested,
        Receiver.refuses, hinband, Parser.raised, nextFrameIdValid, herror]
      cases hx : s.frame_id_valid <;> simp

/-! ## The reader -/

/-- The flits that a cycle makes ready to be read. -/
lemma frameOk_eq (h : WriteSide s part p) (hle : part.length ≤ 3) (hcycle : FrameCycle part i) :
    receiver.collectFrom Receiver.delivered p (endingFrame part i)
        = (if s.frameOk i then part ++ [i.fifo_in_tdata] else []) ∧
      (s.frameOk i = true → i.fifo_in_tvalid = true ∧ part.length = 3 ∧ p.stalled = false ∧
        s.writes i = true) := by
  cases brings (s := s) hcycle hle with
  | nothing hv hc =>
      have hok := (signals_none (s := s) hc).ok
      have hnone : endingFrame part i = [] := by simp [endingFrame, hv]
      rw [hnone, hok]
      exact ⟨rfl, fun hx => by cases hx⟩
  | flit hv hl hc hlen =>
      have hok := (signals_none (s := s) hc).ok
      have hnone : endingFrame part i = [] := by simp [endingFrame, hl]
      rw [hnone, hok]
      exact ⟨rfl, fun hx => by cases hx⟩
  | frame hv hl hc hlen =>
      have hok := (signals_frame h hl hc hlen).ok
      have hone : endingFrame part i = [⟨part ++ [i.fifo_in_tdata], i.crc_ok⟩] := by
        simp [endingFrame, hv, hl]
      have hdataframe : (⟨part ++ [i.fifo_in_tdata], i.crc_ok⟩ : LinkFrame).isInband = false := by
        simp [LinkFrame.isInband, hlen]
      rw [hone, Machine.collectFrom, Machine.collectFrom, List.append_nil, Receiver.delivered,
        Receiver.accepts, hdataframe, hok]
      refine ⟨by cases p.stalled <;> cases i.crc_ok <;> rfl, fun hx => ?_⟩
      have hst : p.stalled = false := by
        cases hst : p.stalled with
        | true => simp [hst] at hx
        | false => rfl
      have hcounter : s.tlast_distance_counter ≠ 0 := by
        intro h0
        have hcounter := h.counter
        rw [h0, hlen] at hcounter
        cases hcounter
      refine ⟨hv, hlen, hst, ?_⟩
      rw [writes, hv, h.stall, hst, inband_msg_frame_received, decide_eq_false hcounter, Bool.and_false]
      rfl
  | message hv hl hc hnil =>
      subst hnil
      have hok := (signals_message h hl hc).ok
      have hone : endingFrame [] i = [⟨[i.fifo_in_tdata], i.crc_ok⟩] := by
        simp [endingFrame, hv, hl]
      have hinband : (⟨[i.fifo_in_tdata], i.crc_ok⟩ : LinkFrame).isInband = true := rfl
      rw [hone, Machine.collectFrom, Machine.collectFrom, List.append_nil, Receiver.delivered,
        Receiver.accepts, hinband, hok]
      exact ⟨rfl, fun hx => by cases hx⟩

/-- The flit on the output is the first of those still to be put out. -/
lemma ReadSide.emitted_eq (h : ReadSide s fs) : s.emitted i = fs.take 1 := by
  cases h with
  | idle hptr hsame hoff => simp [emitted, fifoOutTvalid, hoff]
  | busy hother hon hoff hne hlen hkept =>
      obtain ⟨x, xs, rfl⟩ := List.exists_cons_of_ne_nil hne
      obtain ⟨hdata, hbit⟩ := hkept 0 (by simp)
      rw [Nat.add_zero] at hdata hbit
      rw [BitVec.ofNat_toNat, BitVec.setWidth_eq] at hdata
      have hvalid : s.fifoOutTvalid = true := by
        rw [fifoOutTvalid, bit, hbit, hon]
        rfl
      rw [emitted, fifoOutTdata, hvalid, if_pos rfl, if_pos rfl, hdata]
      rfl

lemma nextWrptr_le : (s.nextWrptr i).toNat ≤ s.wrptr.toNat + 1 := by
  rw [nextWrptr]
  split_ifs
  · exact Nat.zero_le _
  · bv_omega
  · exact Nat.zero_le _
  · omega

/-- The reader, while no frame passes its check. -/
lemma ReadSide.step_rest (h : ReadSide s fs) (hok : s.frameOk i = false) :
    ReadSide (s.step i) fs.tail := by
  have hreading := h.reading_eq
  have hwrq : (s.step i).wrq = s.wrq := by
    change s.nextWrq i = _
    rw [nextWrq, hok, Bool.and_false, if_neg Bool.false_ne_true]
  have hrdq : (s.step i).rdq = s.nextRdq := rfl
  have hrdptr : (s.step i).rdptr = s.nextRdptr := rfl
  have hen : (s.step i).read_enable
      = if s.rdptr = 3 then Function.update s.read_enable s.rdq false else s.read_enable := by
    change s.nextReadEnable i = _
    rw [nextReadEnable_eq, hok, if_neg Bool.false_ne_true]
  cases h with
  | idle hptr hsame hoff =>
      have hne : s.rdptr ≠ 3 := by rw [hptr]; decide
      refine .idle ?_ ?_ fun q => ?_
      · rw [hrdptr, nextRdptr, hreading]
        simp
      · rw [hrdq, nextRdq, if_neg hne, hwrq, hsame]
      · rw [hen, if_neg hne]
        exact hoff q
  | busy hother hon hoff hne hlen hkept hahead =>
      obtain ⟨x, xs, rfl⟩ := List.exists_cons_of_ne_nil hne
      rw [List.length_cons] at hlen
      by_cases h3 : s.rdptr = 3
      · -- the last flit goes out, and the reader waits for the other buffer
        have hnil : xs = [] := by
          rw [h3] at hlen
          change xs.length + 1 + 3 = 4 at hlen
          exact List.length_eq_zero_iff.mp (by omega)
        rw [List.tail_cons, hnil]
        refine .idle ?_ ?_ fun q => ?_
        · rw [hrdptr, nextRdptr, h3]
          rfl
        · rw [hrdq, nextRdq, if_pos h3, hwrq, hother, Bool.not_not]
        · rw [hen, if_pos h3]
          by_cases hq : q = s.rdq
          · rw [hq, Function.update_self]
          · have hq' : q = s.wrq := by
              rw [hother] at hq
              revert hq
              cases q <;> cases s.wrq <;> decide
            rw [Function.update_of_ne hq, hq']
            exact hoff
      · have hnext : s.nextRdptr.toNat = s.rdptr.toNat + 1 := by
          have hne3 : s.rdptr.toNat ≠ 3 := fun hx => h3 (BitVec.eq_of_toNat_eq hx)
          rw [nextRdptr, hreading]
          simp only [h3, ne_eq, not_false_eq_true, decide_true, List.isEmpty_cons, Bool.not_false,
            Bool.and_self, if_true]
          have hlt := s.rdptr.isLt
          bv_omega
        have hapart : s.rdq ≠ s.wrq := by simp [hother]
        rw [List.tail_cons]
        refine .busy ?_ ?_ ?_ ?_ ?_ (fun j hj => ?_) ?_
        · rw [hrdq, nextRdq, if_neg h3, hwrq, hother]
        · rw [hen, if_neg h3, hrdq, nextRdq, if_neg h3]
          exact hon
        · rw [hen, if_neg h3, hwrq]
          exact hoff
        · intro hnil
          rw [hnil] at hlen
          change 0 + 1 + _ = 4 at hlen
          exact h3 (BitVec.eq_of_toNat_eq (by change _ = 3; omega))
        · rw [hrdptr, hnext]
          omega
        · have hj' : j + 1 < (x :: xs).length := by
            rw [List.length_cons]
            omega
          obtain ⟨hdata, hbit⟩ := hkept (j + 1) hj'
          have hadd : s.rdptr.toNat + 1 + j = s.rdptr.toNat + (j + 1) := by omega
          obtain ⟨hkeep, hkeep'⟩ := kept_other (i := i) hapart
            (show s.rdptr.toNat + (j + 1) ≠ s.rdptr.toNat by omega)
            (BitVec.ofNat 2 (s.rdptr.toNat + (j + 1)))
          rw [hrdptr, hnext, hadd, hrdq, nextRdq, if_neg h3]
          change s.nextData i s.rdq _ = _ ∧ (s.nextDataValid i s.rdq).getLsbD _ = true
          rw [hkeep, hkeep', hdata, hbit]
          exact ⟨rfl, rfl⟩
        · rw [hrdptr, hnext]
          exact nextWrptr_le.trans (by omega)

/-- The reader, when a frame passes its check: it has put out the last flit of the frame before. -/
lemma ReadSide.step_frame (h : ReadSide s fs) (hok : s.frameOk i = true)
    (hv : i.fifo_in_tvalid = true) (frame : List Flit) (hlen : frame.length = 4)
    (hwritten : ∀ j (hj : j < frame.length), s.nextData i s.wrq (BitVec.ofNat 2 j) = frame[j] ∧
      (s.nextDataValid i s.wrq).getLsbD j = true) :
    fs.tail = [] ∧ ReadSide (s.step i) frame := by
  have hreading := h.reading_eq
  have h3 : s.wrptr = 3 := by
    simp only [frameOk, Bool.and_eq_true, decide_eq_true_eq] at hok
    exact hok.2
  have hwrq : (s.step i).wrq = !s.wrq := by
    change s.nextWrq i = _
    rw [nextWrq, hok, hv]
    rfl
  have hrdq : (s.step i).rdq = s.nextRdq := rfl
  have hrdptr : (s.step i).rdptr = s.nextRdptr := rfl
  have hen : (s.step i).read_enable = if s.rdptr = 3 then
      Function.update (Function.update s.read_enable s.wrq true) s.rdq false
      else Function.update s.read_enable s.wrq true := by
    change s.nextReadEnable i = _
    rw [nextReadEnable_eq, hok, if_pos rfl]
  have hptr' : (s.step i).wrptr = 0 := by
    change s.nextWrptr i = 0
    have hl : i.fifo_in_tlast = true := by
      simp only [frameOk, Bool.and_eq_true] at hok
      exact hok.1.2
    rw [nextWrptr, hv, hl]
    cases s.parser_stall <;> simp
  -- the buffer just written is the next one to be read, from its first flit
  have hnext : s.nextRdq = s.wrq → s.nextRdptr = 0 →
      (s.step i).read_enable s.wrq = true → (s.step i).read_enable (!s.wrq) = false →
      ReadSide (s.step i) frame := by
    intro hq hp hon hoff
    have hzero : (0 : BitVec 2).toNat = 0 := rfl
    refine .busy ?_ ?_ ?_ ?_ ?_ (fun j hj => ?_) ?_
    · rw [hrdq, hq, hwrq, Bool.not_not]
    · rw [hrdq, hq]
      exact hon
    · rw [hwrq]
      exact hoff
    · intro hnil
      rw [hnil] at hlen
      cases hlen
    · rw [hrdptr, hp, hlen]
      rfl
    · rw [hrdptr, hp, hrdq, hq, hzero, Nat.zero_add]
      exact hwritten j hj
    · rw [hptr', hrdptr, hp]
  cases h with
  | idle hptr hsame hoff =>
      have hne : s.rdptr ≠ 3 := by rw [hptr]; decide
      refine ⟨rfl, hnext ?_ ?_ ?_ ?_⟩
      · rw [nextRdq, if_neg hne, hsame]
      · rw [nextRdptr, hreading]
        simp
      · rw [hen, if_neg hne, Function.update_self]
      · rw [hen, if_neg hne, Function.update_of_ne (by simp)]
        exact hoff _
  | busy hother hon hoff hne hlen' hkept hahead =>
      have hr3 : s.rdptr = 3 := by
        have hnat : s.wrptr.toNat = 3 := by rw [h3]; rfl
        have hlt := s.rdptr.isLt
        exact BitVec.eq_of_toNat_eq (by change _ = 3; omega)
      obtain ⟨x, xs, rfl⟩ := List.exists_cons_of_ne_nil hne
      refine ⟨?_, hnext ?_ ?_ ?_ ?_⟩
      · rw [hr3] at hlen'
        change xs.length + 1 + 3 = 4 at hlen'
        have hnil : xs.length = 0 := by omega
        exact List.length_eq_zero_iff.mp hnil
      · rw [nextRdq, if_pos hr3, hother, Bool.not_not]
      · rw [nextRdptr, hr3]
        rfl
      · rw [hen, if_pos hr3, Function.update_of_ne (by simp [hother]), Function.update_self]
      · rw [hen, if_pos hr3, hother, Function.update_self]

/-- **The reader in a cycle**: it puts out a flit, and gets the frame that has passed its check. -/
lemma ReadSide.step (h : ReadSide s fs) (hw : WriteSide s part p) (hle : part.length ≤ 3)
    (hcycle : FrameCycle part i) :
    ReadSide (s.step i)
      (fs.tail ++ receiver.collectFrom Receiver.delivered p (endingFrame part i)) := by
  obtain ⟨hdelivered, hframe⟩ := frameOk_eq hw hle hcycle
  rw [hdelivered]
  cases hok : s.frameOk i with
  | false =>
      rw [if_neg Bool.false_ne_true, List.append_nil]
      exact h.step_rest hok
  | true =>
      obtain ⟨hv, hlen, hrun, hwrites⟩ := hframe hok
      obtain ⟨hnil, hnext⟩ := h.step_frame hok hv (part ++ [i.fifo_in_tdata])
        (by rw [List.length_append, hlen]; rfl) (hw.written h hrun hwrites hle)
      rw [if_pos rfl, hnil, List.nil_append]
      exact hnext

end Parser

/-! ## Every run -/

/-- The parser against the frames of a run: `emitted` is what it has put out. -/
structure ParserInv (s : Parser) (is : List ParserIn) (fs : List Flit) : Prop where
  write : s.WriteSide (deframer.run is) (receiver.run (framesOf is))
  read : s.ReadSide fs
  short : (deframer.run is).length ≤ 3
  emitted : parserMachine.collect Parser.emitted is ++ fs
    = receiver.collect Receiver.delivered (framesOf is)
  raised : parserMachine.collect Parser.raised is
    = receiver.collect Receiver.requested (framesOf is)

lemma framesOf_concat (is : List ParserIn) (i : ParserIn) :
    framesOf (is ++ [i]) = framesOf is ++ endingFrame (deframer.run is) i :=
  deframer.collect_concat _ is i

lemma deframer_short {part : List Flit} {i : ParserIn} (h : FrameCycle part i)
    (hle : part.length ≤ 3) : (deframer.step part i).length ≤ 3 := by
  cases Parser.brings (s := {}) h hle with
  | nothing hv => simpa [deframer, hv] using hle
  | flit hv hl hc hlen =>
      simp only [deframer, hv, hl, if_true, Bool.false_eq_true, if_false, List.length_append,
        List.length_singleton]
      omega
  | frame hv hl | message hv hl => simp [deframer, hv, hl]

lemma ParserInv.step {is : List ParserIn} {fs : List Flit} {i : ParserIn}
    (h : ParserInv (parserMachine.run is) is fs) (hcycle : FrameCycle (deframer.run is) i) :
    ParserInv (parserMachine.run (is ++ [i])) (is ++ [i])
      (fs.tail ++ receiver.collectFrom Receiver.delivered (receiver.run (framesOf is))
        (endingFrame (deframer.run is) i)) := by
  have hrun : receiver.run (framesOf (is ++ [i]))
      = receiver.runFrom (receiver.run (framesOf is)) (endingFrame (deframer.run is) i) := by
    rw [framesOf_concat, Machine.run_append]
  have hcollect : ∀ {α : Type} (out : Receiver → LinkFrame → List α),
      receiver.collect out (framesOf (is ++ [i])) = receiver.collect out (framesOf is)
        ++ receiver.collectFrom out (receiver.run (framesOf is)) (endingFrame (deframer.run is) i) := by
    intro α out
    rw [framesOf_concat, Machine.collect_append]
  refine ⟨?_, ?_, ?_, ?_, ?_⟩
  · rw [hrun, Machine.run_concat, Machine.run_concat]
    exact h.write.step h.read h.short hcycle
  · rw [Machine.run_concat]
    exact h.read.step h.write h.short hcycle
  · rw [Machine.run_concat]
    exact deframer_short hcycle h.short
  · rw [Machine.collect_concat, h.read.emitted_eq, hcollect, ← h.emitted, List.append_assoc,
      List.append_assoc, ← List.append_assoc (fs.take 1)]
    congr 2
    rw [← List.drop_one, List.take_append_drop]
  · rw [Machine.collect_concat, hcollect, h.raised]
    exact congrArg _ (h.write.raised_eq h.short hcycle)

lemma parserInv_run (is : List ParserIn) (h : deframer.Meets FrameCycle is) :
    ∃ fs, ParserInv (parserMachine.run is) is fs := by
  induction is using List.reverseRecOn with
  | nil =>
      refine ⟨[], ⟨rfl, rfl, rfl, (fun _ j hj => by cases hj), rfl, fun hx => by cases hx⟩, ?_, ?_, rfl,
        rfl⟩
      · exact .idle rfl rfl fun _ => rfl
      · exact Nat.zero_le _
  | append_singleton is i ih =>
      obtain ⟨hpre, hi⟩ := (deframer.meets_concat _ is i).mp h
      obtain ⟨fs, hinv⟩ := ih hpre
      exact ⟨_, hinv.step hi⟩

/-- What is still to be put out is a frame at most. -/
lemma Parser.ReadSide.length_le {s : Parser} {fs : List Flit} (h : s.ReadSide fs) : fs.length ≤ 4 := by
  cases h with
  | idle => exact Nat.zero_le _
  | busy hother hon hoff hne hlen => omega

lemma delivered_isPrefix (is js : List ParserIn) : receiver.collect Receiver.delivered (framesOf is)
    <+: receiver.collect Receiver.delivered (framesOf (is ++ js)) :=
  receiver.collect_prefix _ (deframer.collect_prefix _ (List.prefix_append is js))

/-- The reader needs a cycle for each flit. -/
lemma emitted_after (is js : List ParserIn) (h : deframer.Meets FrameCycle (is ++ js)) {n : ℕ}
    (hn : n ≤ (receiver.collect Receiver.delivered (framesOf is)).length)
    (hlate : n ≤ (parserMachine.collect Parser.emitted is).length + js.length) :
    n ≤ (parserMachine.collect Parser.emitted (is ++ js)).length := by
  induction js using List.reverseRecOn generalizing n with
  | nil => simpa using hlate
  | append_singleton js i ih =>
      rw [← List.append_assoc] at h ⊢
      obtain ⟨hpre, hi⟩ := (deframer.meets_concat _ _ i).mp h
      obtain ⟨fs, hinv⟩ := parserInv_run _ hpre
      rw [List.length_append, List.length_singleton] at hlate
      have hbefore := ih hpre (n := n - 1) (by omega) (by omega)
      rw [Machine.collect_concat, List.length_append, hinv.read.emitted_eq, List.length_take]
      have hall := congrArg List.length hinv.emitted
      have hmono := (delivered_isPrefix is js).length_le
      rw [List.length_append] at hall
      omega

/-- **The parser refines its protocol.**  For every stream of frames of four flits or one: what it has
put out is at every cycle a beginning of the flits that the protocol delivers, and they are all put
out four cycles later at the latest; it is stalled exactly when the protocol is; and it asks again
exactly when the protocol does, with the same frame id. -/
theorem parser_refines (is : List ParserIn) (h : deframer.Meets FrameCycle is) :
    parserMachine.collect Parser.emitted is <+: receiver.collect Receiver.delivered (framesOf is) ∧
      (∀ js, deframer.Meets FrameCycle (is ++ js) → 4 ≤ js.length →
        receiver.collect Receiver.delivered (framesOf is)
          <+: parserMachine.collect Parser.emitted (is ++ js)) ∧
      (parserMachine.run is).parser_stall = (receiver.run (framesOf is)).stalled ∧
      parserMachine.collect Parser.raised is = receiver.collect Receiver.requested (framesOf is) := by
  obtain ⟨fs, hinv⟩ := parserInv_run is h
  refine ⟨?_, fun js hjs hfour => ?_, hinv.write.stall, hinv.raised⟩
  · rw [← hinv.emitted]
    exact List.prefix_append _ _
  · obtain ⟨fs', hinv'⟩ := parserInv_run _ hjs
    have hput : parserMachine.collect Parser.emitted (is ++ js)
        <+: receiver.collect Receiver.delivered (framesOf (is ++ js)) := by
      rw [← hinv'.emitted]
      exact List.prefix_append _ _
    refine List.prefix_of_prefix_length_le (delivered_isPrefix is js) hput ?_
    refine emitted_after is js hjs (le_refl _) ?_
    have hall := congrArg List.length hinv.emitted
    have hle := hinv.read.length_le
    rw [List.length_append] at hall
    omega

/-- A frame, one that fails, one that is not looked at, the preamble and another frame. -/
theorem parser_refines_retransmission :
    let flit := fun (n : Flit) (last ok : Bool) => ({
      crc_valid := last, crc_ok := ok, fifo_in_tdata := n, fifo_in_tlast := last,
      fifo_in_tvalid := true } : ParserIn)
    let frame := fun (n : Flit) ok =>
      [flit n false false, flit (n + 1) false false, flit (n + 2) false false, flit (n + 3) true ok]
    let is := frame 1 true ++ frame 5 false ++ frame 9 true ++ [{}, flit 0x80 true true]
      ++ frame 5 true
    deframer.Meets FrameCycle is ∧
      parserMachine.collect Parser.raised is = [1] ∧
      parserMachine.collect Parser.emitted is
        <+: receiver.collect Receiver.delivered (framesOf is) ∧
      receiver.collect Receiver.delivered (framesOf is) = [1, 2, 3, 4, 5, 6, 7, 8] := by
  intro flit frame is
  have hmeets : deframer.Meets FrameCycle is := by decide +kernel
  obtain ⟨hfirst, -, -, hraised⟩ := parser_refines is hmeets
  refine ⟨hmeets, hraised.trans ?_, hfirst, ?_⟩ <;> decide +kernel

end ThymesisFlow
