import ThymesisFlow.Memory.Correlation
import ThymesisFlow.Port.Packets
import ThymesisFlow.Routing.EgressRouted
import ThymesisFlow.Routing.RespRouting

/-!
# The answers on their way

What the response engine writes to the network is a stream of transactions for the routing egress
(`NetAnswer.OnNet`), and on its port each of them is a response as the compute side expects it
(`EgrTxn.AsResp`).  The stream is not in front of the egress from the beginning: it is written while the
egress works.  `EgressFeed.Writes` is the invariant of the egress in such a run, for any stream that
begins with what has been written.
-/

namespace ThymesisFlow

/-! ## Responses on a line -/

/-- Flits are written to the stream in front of the routing egress. -/
def EgressFeed.append (s : EgressFeed) (fs : List Flit512) : EgressFeed :=
  { s with stream := s.stream ++ fs }

namespace NetResp

/-- A header with the opcode of a response has data behind it if it is a READ OK, and it is no NOP. -/
lemma hasData_opcode (r : NetResp) : hasData r.hdr = !r.data.isEmpty ∧ isNopCmd r.hdr = false := by
  have hbit : ∀ k, k < 8 → bit r.hdr (248 + k) = (netOpcode r.hdr).getLsbD k := fun k hk =>
    bit_opcode r.hdr hk
  have h0 := hbit 0 (by decide)
  have h2 := hbit 2 (by decide)
  have h5 := hbit 5 (by decide)
  have h6 := hbit 6 (by decide)
  rw [hasData, isNopCmd, h6, h5, h2, h0]
  cases r with
  | readOk h a b c d k =>
      rw [hdr, k]
      exact ⟨rfl, rfl⟩
  | short h k =>
      simp only [List.mem_cons, List.not_mem_nil, or_false] at k
      rw [hdr]
      rcases k with k | k | k <;> rw [k] <;> exact ⟨rfl, rfl⟩

lemma txn (r : NetResp) : ∃ t : LlcTxn, t.flits = r.hdr :: r.data := by
  obtain ⟨hdata, hnop⟩ := r.hasData_opcode
  cases r with
  | readOk h a b c d k => exact ⟨.long h a b c d hdata hnop, rfl⟩
  | short h k => exact ⟨.short h hdata hnop, rfl⟩

/-- Any header that is the same up to the credits makes a response. -/
lemma other_creds (r : NetResp) {f : Flit} (hf : setField f 27 0#8 = setField r.hdr 27 0#8) :
    ∃ r' : NetResp, r'.hdr = f ∧ r'.data = r.data := by
  have hopcode : netOpcode f = netOpcode r.hdr := by
    rw [netOpcode, netOpcode]
    exact field_of_clear hf (by decide)
  cases r with
  | readOk h a b c d k =>
      rw [hdr, k] at hopcode
      exact ⟨.readOk f a b c d hopcode, rfl, rfl⟩
  | short h k =>
      rw [hdr] at hopcode
      rw [← hopcode] at k
      exact ⟨.short f k, rfl, rfl⟩

end NetResp

/-- Responses on a line. -/
def respFormat : PacketFormat NetResp where
  hdr := NetResp.hdr
  data := NetResp.data
  ok _ := True
  txn r _ := r.txn
  other_creds r _ _ hf := r.other_creds hf

/-! ## From an answer to a response -/

/-- The responses that the way back is made for: a READ OK has two flits of data, and what fails is a
read. -/
structure TlResp.Carried (r : TlResp) : Prop where
  dl : r.kind = some .readOk → r.dl = 2
  fail : r.kind = some .fail → r.opcode = TL_RD_RESPFAIL

/-- The opcode of a response that is forwarded and carried. -/
lemma TlResp.Carried.opcode {r : TlResp} (h : r.Carried) (hans : r.answers = true) :
    r.kind = some .readOk ∧ r.opcode = 0x04
      ∨ r.kind ≠ some .readOk ∧ (r.opcode = 0x05 ∨ r.opcode = 0x08) := by
  by_cases h4 : r.opcode = TL_RD_RESPOK
  · exact .inl ⟨if_pos h4, h4⟩
  · have hne : r.kind ≠ some .readOk := by
      rw [kind, if_neg h4]
      split_ifs <;> simp
    refine .inr ⟨hne, ?_⟩
    by_cases h8 : r.opcode = TL_WR_RESPOK
    · exact .inr h8
    · have hfail : r.kind = some .fail := by
        rw [TlResp.answers] at hans
        rw [kind, if_neg h4, if_neg h8] at hans ⊢
        split_ifs at hans ⊢
        all_goals first | rfl | cases hans
      exact .inl (h.fail hfail)

/-- An answer as a transaction of the routing egress. -/
structure NetAnswer.OnNet (a : NetAnswer) (t : EgrTxn) : Prop where
  hdr : t.hdr = a.header
  data : t.data = a.data.map OCxFlit.toOCxFlit

/-- A transaction of the routing egress as a response on its port. -/
structure EgrTxn.AsResp (t : EgrTxn) (r : NetResp) : Prop where
  hdr : r.hdr = hiHalf t.hdr
  data : r.data = t.data.flatMap fun d => [hiHalf d, loHalf d]

namespace NetAnswer

variable {a : NetAnswer}

/-- The fields of the header are those of the response. -/
lemma Carries.field_header (h : a.Carries) (lo len : ℕ) (hle : lo + len ≤ 38) :
    field a.header (474 + lo) len = field a.resp lo len := by
  rw [← h.resp, field_field _ hle]

lemma Carries.opcode (h : a.Carries) : field a.header 504 8 = a.resp.opcode :=
  h.field_header 30 8 (by decide)

lemma Carries.bit_header (h : a.Carries) {k : ℕ} (hk : k < 8) :
    bit a.header (504 + k) = a.resp.opcode.getLsbD k := by
  rw [← h.opcode, getLsbD_field, decide_eq_true hk, Bool.true_and]
  rfl

/-- **An answer is a transaction of the routing egress**, and a response on its port. -/
lemma Carries.exists_onNet (h : a.Carries) (hans : a.resp.answers = true) (hc : a.resp.Carried) :
    ∃ t : EgrTxn, a.OnNet t ∧ ∃ r : NetResp, t.AsResp r ∧ r.isWriteFail = false := by
  have h0 := h.bit_header (k := 0) (by decide)
  have h2 := h.bit_header (k := 2) (by decide)
  have h5 := h.bit_header (k := 5) (by decide)
  have hopcode : netOpcode (hiHalf a.header) = a.resp.opcode :=
    (field_field _ (by decide)).trans h.opcode
  rcases hc.opcode hans with ⟨hk, hop⟩ | ⟨hk, hop⟩
  · -- a READ OK with its data
    have hdata : egrHasData a.header = true := by
      rw [egrHasData, h5, h2, h0, hop]
      rfl
    have hdl : egrDl a.header = 2 := by
      have hdl' : field a.header 482 2 = a.resp.dl := h.field_header 8 2 (by decide)
      rw [egrDl, h5, hop, hdl', hc.dl hk]
      rfl
    have hlen := h.data
    rw [if_pos hk, hc.dl hk] at hlen
    obtain ⟨d0, d1, hd⟩ := List.length_eq_two.mp hlen
    have hwf : (NetResp.readOk (hiHalf a.header) (hiHalf d0.toOCxFlit) (loHalf d0.toOCxFlit)
        (hiHalf d1.toOCxFlit) (loHalf d1.toOCxFlit) (hopcode.trans hop)).isWriteFail = false := by
      rw [NetResp.isWriteFail, NetResp.hdr, hopcode, hop]
      decide
    exact ⟨.long a.header d0.toOCxFlit d1.toOCxFlit hdata hdl, ⟨rfl, by rw [hd]; rfl⟩, _,
      ⟨rfl, rfl⟩, hwf⟩
  · -- a response without data
    have hdata : egrHasData a.header = false := by
      rw [egrHasData, h5, h2, h0]
      rcases hop with hop | hop <;> rw [hop] <;> rfl
    have hlen := h.data
    rw [if_neg hk] at hlen
    have hmem : netOpcode (hiHalf a.header) ∈ [0x05, 0x08, 0x09] := by
      rw [hopcode]
      rcases hop with hop | hop <;> rw [hop] <;> decide
    have hwf : (NetResp.short (hiHalf a.header) hmem).isWriteFail = false := by
      rw [NetResp.isWriteFail, NetResp.hdr, hopcode]
      rcases hop with hop | hop <;> rw [hop] <;> decide
    exact ⟨.short a.header hdata, ⟨rfl, by rw [List.length_eq_zero_iff.mp hlen]; rfl⟩, _,
      ⟨rfl, rfl⟩, hwf⟩

end NetAnswer

/-! ## The streams of the ports -/

/-- The flits of a port are those of its responses. -/
lemma stream_of_asResp {ts : List EgrTxn} {rs : List NetResp} (h : List.Forall₂ EgrTxn.AsResp ts rs) :
    respFormat.stream rs = ts.flatMap EgrTxn.halves := by
  induction h with
  | nil => rfl
  | @cons t r ts rs hr _ ih =>
      rw [PacketFormat.stream_cons, ih, List.flatMap_cons, EgrTxn.halves, ← hr.hdr, ← hr.data]
      rfl

/-! ## The egress while its stream is written -/

/-- The flits that are offered, whatever is still to be written. -/
def EgressFeedIn.within (i : EgressFeedIn) (s : EgressFeed) : EgressFeedIn :=
  { i with offer := s.tvalid i }

namespace EgressFeed

/-- A flit that stays at the input is the next one of the stream. -/
def HeldOk (s : EgressFeed) : Prop := s.held = true → s.stream ≠ []

variable {s : EgressFeed}

lemma HeldOk.step (i : EgressFeedIn) : (s.step i).HeldOk := by
  intro hheld
  obtain ⟨hv, ha⟩ := Bool.and_eq_true_iff.mp hheld
  obtain ⟨rest, hs⟩ := stream_of_tvalid hv
  rw [Bool.not_eq_true'] at ha
  change (if s.egress.accepts (s.wires i) then s.stream.tail else s.stream) ≠ []
  rw [ha, if_neg Bool.false_ne_true, hs]
  exact List.cons_ne_nil _ _

/-- What comes behind the stream makes no difference in a cycle. -/
lemma wires_append (h : s.HeldOk) (x : List Flit512) (i : EgressFeedIn) :
    (s.append x).wires (i.within s) = s.wires i ∧ (s.append x).tvalid (i.within s) = s.tvalid i := by
  have hv : (s.append x).tvalid (i.within s) = s.tvalid i := by
    have hnil : s.stream = [] → s.held = false := fun hs => eq_false_of_ne_true fun hx => h hx hs
    cases hs : s.stream with
    | nil => simp [tvalid, append, EgressFeedIn.within, hs, hnil hs]
    | cons f fs => simp [tvalid, append, EgressFeedIn.within, hs]
  refine ⟨?_, hv⟩
  rw [wires, wires, hv]
  cases hsv : s.tvalid i with
  | false => rfl
  | true =>
      obtain ⟨rest, hs⟩ := stream_of_tvalid hsv
      simp [append, EgressFeedIn.within, hs]

lemma step_append (h : s.HeldOk) (x : List Flit512) (i : EgressFeedIn) :
    (s.append x).step (i.within s) = (s.step i).append x := by
  obtain ⟨hwires, hv⟩ := wires_append h x i
  have hstream : (if s.egress.accepts (s.wires i) then (s.stream ++ x).tail else s.stream ++ x)
      = (if s.egress.accepts (s.wires i) then s.stream.tail else s.stream) ++ x := by
    split_ifs with ha
    · obtain ⟨rest, hs⟩ := stream_of_tvalid (Bool.and_eq_true_iff.mp ha).2
      rw [hs, List.cons_append, List.tail_cons, List.tail_cons]
    · rfl
  rw [step, hwires, hv]
  exact congrArg (fun fs => EgressFeed.mk (s.egress.step (s.wires i)) fs
    (s.tvalid i && !s.egress.accepts (s.wires i))) hstream

/-- **The invariant of the egress while its stream is written.**  Whatever transactions the stream will
turn out to hold, what has been handed over at a port belongs to them. -/
structure Writes (s : EgressFeed) (written : List Flit512) (out : Port → List Flit) : Prop where
  held : s.HeldOk
  inv : ∀ ts x, egrStream ts = written ++ x → ∃ pend todo, Inv ts (s.append x) out pend todo

namespace Writes

variable {written : List Flit512} {out : Port → List Flit}

lemma init : Writes { stream := [] } [] fun _ => [] where
  held := fun hx => Bool.noConfusion hx
  inv ts x hx := by
    rw [List.nil_append] at hx
    subst hx
    exact ⟨_, _, inv_init ts⟩

/-- A cycle of the egress. -/
lemma step (h : Writes s written out) (i : EgressFeedIn) :
    Writes (s.step i) written fun p => out p ++ emitted p s i where
  held := .step i
  inv ts x hx := by
    obtain ⟨pend, todo, hinv⟩ := h.inv ts x hx
    obtain ⟨pend', todo', hinv', -⟩ := hinv.step (i.within s)
    rw [step_append h.held] at hinv'
    exact ⟨pend', todo', hinv'⟩

/-- Flits are written. -/
lemma append (h : Writes s written out) (fs : List Flit512) : Writes (s.append fs) (written ++ fs) out where
  held := fun hx => List.append_ne_nil_of_left_ne_nil (h.held hx) fs
  inv ts x hx := by
    rw [List.append_assoc] at hx
    obtain ⟨pend, todo, hinv⟩ := h.inv ts (fs ++ x) hx
    refine ⟨pend, todo, ?_⟩
    rw [EgressFeed.append, EgressFeed.append, List.append_assoc]
    exact hinv

/-- What has been handed over, with the flit that a port shows, is the beginning of its stream. -/
lemma shows (h : Writes s written out) {ts : List EgrTxn} {x : List Flit512}
    (hts : egrStream ts = written ++ x) (p : Port) :
    out p ++ (s.egress.ports p).out.out true <+: portStream p .port0 ts := by
  obtain ⟨pend, todo, hinv⟩ := h.inv ts x hts
  rw [← hinv.total p, List.prefix_append_right_inj, TwoSlot.out]
  cases hv : (s.egress.ports p).out.tvalid with
  | false => exact List.nil_prefix
  | true =>
      obtain ⟨rest, hpend⟩ := hinv.egress.shows (p := p) hv
      rw [hpend]
      exact ⟨rest ++ todo p, rfl⟩

end Writes

end EgressFeed

end ThymesisFlow
