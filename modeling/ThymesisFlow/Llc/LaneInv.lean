import ThymesisFlow.Lib.Channel
import ThymesisFlow.Llc.Link
import ThymesisFlow.Llc.ParserRefines

/-!
# What is on its way to the parser

Frames carry no number, so the invariant of a lane is about what the frames on their way do to the
receiver, whatever their CRC results are: each data frame that comes while it is not stalled is the
one it waits for, and behind them all it waits for the frame that the framer reads next
(`Channel.Leads`).  While the preamble is sent this holds of a stalled receiver too, so the frames
behind the preamble are the right ones.
-/

namespace ThymesisFlow

/-! ## Frames -/

/-- Frame number `n` of the flits. -/
def frameAt (fs : List Flit) (n : ℕ) : List Flit := (fs.take (4 * (n + 1))).drop (4 * n)

lemma length_frameAt {fs : List Flit} {n : ℕ} (h : 4 * (n + 1) ≤ fs.length) :
    (frameAt fs n).length = 4 := by
  rw [frameAt, List.length_drop, List.length_take]
  omega

lemma frameAt_append {fs : List Flit} {n : ℕ} (h : 4 * (n + 1) ≤ fs.length) (gs : List Flit) :
    frameAt (fs ++ gs) n = frameAt fs n := by
  rw [frameAt, List.take_append_of_le_length h, frameAt]

lemma take_frameAt {fs : List Flit} (n : ℕ) :
    fs.take (4 * n) ++ frameAt fs n = fs.take (4 * (n + 1)) := by
  have htake : fs.take (4 * n) = (fs.take (4 * (n + 1))).take (4 * n) := by
    rw [List.take_take, Nat.min_eq_left (by omega)]
  rw [frameAt, htake, List.take_append_drop]

/-- A frame is complete with its fourth flit. -/
lemma last_append_getElem {fs : List Flit} {c : ℕ} (hc : c < fs.length) :
    (fs.take c).drop (4 * (c / 4)) ++ [fs[c]] = (fs.take (c + 1)).drop (4 * (c / 4)) := by
  rw [List.take_succ_eq_append_getElem hc, List.drop_append_of_le_length]
  rw [List.length_take]
  omega

namespace Receiver

/-- The receiver after a word with the CRC result `crc_ok`. -/
def hear (p : Receiver) (w : List Flit) (crc_ok : Bool) : Receiver := p.step ⟨w, crc_ok⟩

/-- A data frame that comes while the receiver is not stalled is the one it waits for. -/
def Due (accepted : List Flit) (p : Receiver) (w : List Flit) : Prop :=
  p.stalled = false → w.length ≠ 1 →
    4 * (p.frames + 1) ≤ accepted.length ∧ w = frameAt accepted p.frames

lemma Due.append {as : List Flit} {p : Receiver} {w : List Flit} (h : p.Due as w) (bs : List Flit) :
    p.Due (as ++ bs) w := fun hrun hw => by
  obtain ⟨hle, heq⟩ := h hrun hw
  refine ⟨by rw [List.length_append]; omega, ?_⟩
  rw [frameAt_append hle, heq]

/-- A stalled receiver only listens to preambles. -/
lemma hear_rest {p : Receiver} {w : List Flit} (hst : p.stalled = true)
    (hpre : (⟨w, true⟩ : LinkFrame).isPreamble = false) (crc_ok : Bool) : p.hear w crc_ok = p := by
  have hno : (⟨w, crc_ok⟩ : LinkFrame).isPreamble = false := by
    cases crc_ok with
    | true => exact hpre
    | false => simp [LinkFrame.isPreamble]
  obtain ⟨stalled, frames⟩ := p
  obtain rfl : stalled = true := hst
  rw [hear, step, hno, accepts, refuses]
  simp

/-- What a word delivers, and how far the receiver is then. -/
lemma hear_frames {as : List Flit} {p : Receiver} {w : List Flit} (hdue : p.Due as w)
    (hle : 4 * p.frames ≤ as.length) (hst : p.stalled = true → 4 * (p.frames + 1) ≤ as.length)
    (crc_ok : Bool) :
    as.take (4 * p.frames) ++ p.delivered ⟨w, crc_ok⟩ = as.take (4 * (p.hear w crc_ok).frames)
      ∧ 4 * (p.hear w crc_ok).frames ≤ as.length
      ∧ ((p.hear w crc_ok).stalled = true → 4 * ((p.hear w crc_ok).frames + 1) ≤ as.length) := by
  by_cases hone : w.length = 1
  · have hinband : (⟨w, crc_ok⟩ : LinkFrame).isInband = true := by simp [LinkFrame.isInband, hone]
    rw [hear, step_message _ hinband, delivered, accepts, hinband]
    refine ⟨by simp, hle, fun h => hst ?_⟩
    by_contra hno
    simp [hno] at h
  · have hdata : (⟨w, crc_ok⟩ : LinkFrame).isInband = false := by simp [LinkFrame.isInband, hone]
    rw [hear, step_data _ hdata, delivered, accepts, hdata]
    cases hrun : p.stalled with
    | true => simpa using ⟨hle, hst hrun⟩
    | false =>
        obtain ⟨hlen, heq⟩ := hdue hrun hone
        cases crc_ok with
        | true =>
            refine ⟨?_, hlen, fun h => by cases h⟩
            rw [heq]
            exact take_frameAt p.frames
        | false => simpa using ⟨hle, hlen⟩

end Receiver

/-! ## The invariant -/

namespace Lane

open Channel Receiver

variable {l : Lane} {i : FramerIn} {c : ℕ} {q : List (Flit × Bool)} {p : Receiver} {fs : List Flit}

/-- The receiver waits for frame `n`, the next one of the framer.  If it is stalled, it waits for an
earlier one, except behind a preamble. -/
def Level (s : Framer) (n : ℕ) (p : Receiver) : Prop :=
  if s.smstate = .SM_RM_SEND_PREAMBLE then p.frames = n
  else p.frames ≤ n ∧ (p.stalled = false → p.frames = n)

/-- The invariant of a lane: `c` flits of those accepted have been read, the output holds `q`; the
receiver is in state `p`, and `fs` is what the parser has still to put out. -/
structure Inv (l : Lane) (c : ℕ) (q : List (Flit × Bool)) (p : Receiver) (fs : List Flit) :
    Prop where
  sender : l.tx.Sender l.accepted c
  pipe : l.tx.Pipe q
  write : l.rx.WriteSide l.part p
  read : l.rx.ReadSide fs
  put : l.emitted ++ fs = l.accepted.take (4 * p.frames)
  le : 4 * p.frames ≤ l.accepted.length
  stalled : p.stalled = true → 4 * (p.frames + 1) ≤ l.accepted.length
  last : cutter.runFrom l.part l.flight = (l.accepted.take c).drop (4 * (c / 4))
  sizes : ∀ w ∈ l.frames, w.length = 4 ∨ w.length = 1
  leads : Leads hear (Due l.accepted) (Level l.tx.framer (c / 4)) p l.frames
  asked : l.tx.framer.remote_retrans_req_valid = true →
    l.tx.framer.smstate ≠ .SM_RM_SEND_PREAMBLE →
    p.stalled = true ∧ l.tx.framer.remoteFrameId = BitVec.ofNat 6 p.frames
      ∧ ∀ w ∈ l.frames, (⟨w, true⟩ : LinkFrame).isPreamble = false

lemma Inv.init : Inv {} 0 [] {} [] where
  sender := Tx.Sender.init
  pipe := Tx.Pipe.init
  write := ⟨rfl, rfl, rfl, (fun _ j hj => by cases hj), rfl, fun h => by cases h⟩
  read := .idle rfl rfl fun _ => rfl
  put := rfl
  le := le_refl _
  stalled h := by cases h
  last := rfl
  sizes w hw := by cases hw
  leads := ⟨le_refl _, fun _ => rfl⟩
  asked h := by cases h

/-! ## A cycle of the parser -/

/-- The serdes delivers the beginning of what is on its way. -/
lemma receive_cases (l : Lane) (tvalid crc_ok : Bool) :
    deframer.step l.part (parserIn crc_ok (l.delivery tvalid)) = (l.receive tvalid crc_ok).part
      ∧ cutter.runFrom (l.receive tvalid crc_ok).part (l.receive tvalid crc_ok).flight
        = cutter.runFrom l.part l.flight
      ∧ (endingFrame l.part (parserIn crc_ok (l.delivery tvalid)) = []
          ∧ (l.receive tvalid crc_ok).frames = l.frames
        ∨ ∃ w, endingFrame l.part (parserIn crc_ok (l.delivery tvalid)) = [⟨w, crc_ok⟩]
          ∧ l.frames = w :: (l.receive tvalid crc_ok).frames) := by
  cases tvalid with
  | false => exact ⟨rfl, rfl, .inl ⟨rfl, rfl⟩⟩
  | true =>
      obtain ⟨tx, accepted, part, wire, rx, emitted⟩ := l
      cases wire with
      | nil => exact ⟨rfl, rfl, .inl ⟨rfl, rfl⟩⟩
      | cons x ws =>
          obtain ⟨f, tlast⟩ := x
          cases tlast with
          | false => exact ⟨rfl, rfl, .inl ⟨rfl, rfl⟩⟩
          | true => exact ⟨rfl, rfl, .inr ⟨part ++ [f], rfl, rfl⟩⟩

/-- A frame that is too long does not get shorter. -/
lemma part_le_of_frames {part : List Flit} {xs : List (Flit × Bool)}
    (hframes : ∀ w ∈ cutter.collectFrom cut part xs, w.length ≤ 4)
    (hlast : (cutter.runFrom part xs).length ≤ 3) : part.length ≤ 3 := by
  induction xs generalizing part with
  | nil => exact hlast
  | cons x xs ih =>
      obtain ⟨f, tlast⟩ := x
      cases tlast with
      | true =>
          have hfirst := hframes (part ++ [f]) (List.mem_append_left _ (List.mem_singleton_self _))
          rw [List.length_append, List.length_singleton] at hfirst
          omega
      | false =>
          have hnext : (part ++ [f]).length ≤ 3 := ih hframes hlast
          rw [List.length_append, List.length_singleton] at hnext
          omega

lemma Inv.last_le (h : l.Inv c q p fs) : (cutter.runFrom l.part l.flight).length ≤ 3 := by
  rw [h.last, List.length_drop, List.length_take]
  omega

lemma Inv.part_le (h : l.Inv c q p fs) : l.part.length ≤ 3 :=
  part_le_of_frames (fun w hw => by have := h.sizes w hw; omega) h.last_le

/-- What is delivered continues a stream of frames of four flits or one. -/
lemma Inv.frameCycle (h : l.Inv c q p fs) (tvalid crc_ok : Bool) :
    FrameCycle l.part (parserIn crc_ok (l.delivery tvalid)) := by
  have hsizes := h.sizes
  have hlast := h.last_le
  obtain ⟨tx, accepted, part, wire, rx, emitted⟩ := l
  cases tvalid with
  | false => exact ⟨rfl, fun hv => by cases hv⟩
  | true =>
      cases wire with
      | nil => exact ⟨rfl, fun hv => by cases hv⟩
      | cons x ws =>
          obtain ⟨f, tlast⟩ := x
          cases tlast with
          | true =>
              have hfirst := hsizes (part ++ [f]) (List.mem_cons_self ..)
              rw [List.length_append, List.length_singleton] at hfirst
              refine ⟨rfl, fun _ hne => ⟨fun _ => ?_, fun _ => rfl⟩⟩
              have hpos : 0 < part.length := List.length_pos_iff.mpr hne
              change part.length = 3
              omega
          | false =>
              have hnext : (part ++ [f]).length ≤ 3 := part_le_of_frames
                (fun w hw => by have := hsizes w hw; omega) hlast
              rw [List.length_append, List.length_singleton] at hnext
              refine ⟨rfl, fun _ _ => ⟨fun hx => (by cases hx), fun hx => ?_⟩⟩
              change part.length = 3 at hx
              omega

/-- **The parser's side of the step lemma.** -/
lemma Inv.receive (h : l.Inv c q p fs) (tvalid crc_ok : Bool) :
    ∃ p' fs', (l.receive tvalid crc_ok).Inv c q p' fs' := by
  obtain ⟨hpart, hlast, hcases⟩ := receive_cases l tvalid crc_ok
  have hcycle := h.frameCycle tvalid crc_ok
  have hwrite := h.write.step h.read h.part_le hcycle
  have hread := h.read.step h.write h.part_le hcycle
  have hemitted : (l.receive tvalid crc_ok).emitted = l.emitted ++ fs.take 1 := by
    rw [← h.read.emitted_eq (i := parserIn crc_ok (l.delivery tvalid))]
    rfl
  rw [hpart] at hwrite
  have hput : ∀ gs, (l.receive tvalid crc_ok).emitted ++ (fs.tail ++ gs)
      = l.accepted.take (4 * p.frames) ++ gs := fun gs => by
    rw [hemitted, ← h.put, List.append_assoc, List.append_assoc, ← List.append_assoc (fs.take 1),
      ← List.drop_one, List.take_append_drop]
  rcases hcases with ⟨hnone, hframes⟩ | ⟨w, hone, hframes⟩
  · rw [hnone] at hwrite hread
    refine ⟨p, fs.tail ++ [], ⟨h.sender, h.pipe, hwrite, hread, ?_, h.le, h.stalled, ?_, ?_, ?_, ?_⟩⟩
    · rw [hput, List.append_nil]
      rfl
    · rw [hlast]
      exact h.last
    · rw [hframes]
      exact h.sizes
    · rw [hframes]
      exact h.leads
    · rw [hframes]
      exact h.asked
  · rw [hone] at hwrite hread
    have hleads := h.leads
    have hasked := h.asked
    have hsizes := h.sizes
    rw [hframes] at hleads hasked hsizes
    obtain ⟨hdue, hnext⟩ := hleads.receive crc_ok
    obtain ⟨hdelivered, hle, hstalled⟩ := hear_frames hdue h.le h.stalled crc_ok
    refine ⟨p.hear w crc_ok, fs.tail ++ p.delivered ⟨w, crc_ok⟩,
      ⟨h.sender, h.pipe, hwrite, ?_, ?_, hle, hstalled, ?_, fun v hv => ?_, hnext, fun hv hst => ?_⟩⟩
    · rw [Machine.collectFrom, Machine.collectFrom, List.append_nil] at hread
      exact hread
    · rw [hput]
      exact hdelivered
    · rw [hlast]
      exact h.last
    · exact hsizes v (List.mem_cons_of_mem w hv)
    · obtain ⟨hstall, hid, hpre⟩ := hasked hv hst
      have hrest := hear_rest hstall (hpre w (List.mem_cons_self ..)) crc_ok
      rw [hrest]
      exact ⟨hstall, hid, fun v hv => hpre v (List.mem_cons_of_mem w hv)⟩

end Lane

end ThymesisFlow
