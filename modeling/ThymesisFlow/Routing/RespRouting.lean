import ThymesisFlow.Lib.Interleave
import ThymesisFlow.Routing.PortShape

/-!
# The responses that the compute side hands to the host

Two streams of responses go in, one sequence of beats comes out.  `RespRouted` says what is
expected of it for one pair of streams and every timing; `respRouted_iff` says for which pairs it
holds.  The invariant `RouteInv` ties the configurations of the two ports (`PortShape`) to the
ping-pong buffer and to the beats that are out already.
-/

namespace ThymesisFlow

/-! ## What the host expects -/

/-- What a beat carries: a header if RESPVALID is set, 64 bytes if DATAVALID is set. -/
structure HostBeat where
  resp : Option RespHdr
  data : Option (BitVec 512)
  deriving DecidableEq, Repr

def RespFlit.beat (o : RespFlit) : HostBeat where
  resp := if o.respvalid then some o.hdr else none
  data := if o.datavalid then some o.data else none

/-- TLX opcodes of the network and TL opcodes of the host. -/
def hostOpcode (opcode : BitVec 8) : BitVec 8 :=
  if opcode = 0x04 then 0x01
  else if opcode = 0x05 then 0x02
  else if opcode = 0x08 then 0x04
  else 0x05

namespace NetResp

/-- The header the host expects. -/
def hostHdr (r : NetResp) : RespHdr where
  opcode := hostOpcode (netOpcode r.hdr)
  code := field r.hdr 228 4
  dl := field r.hdr 226 2
  dp := field r.hdr 224 2
  tag := field r.hdr 41 16

/-- The beats the host expects. -/
def beats : NetResp → List HostBeat
  | readOk h a b c d k =>
      [⟨some (readOk h a b c d k).hostHdr, some (a ++ b : BitVec 512)⟩,
        ⟨none, some (c ++ d : BitVec 512)⟩]
  | short h k => [⟨some (short h k).hostHdr, none⟩]

lemma opcode_cases (r : NetResp) : netOpcode r.hdr = 0x04 ∨ netOpcode r.hdr = 0x05 ∨
    netOpcode r.hdr = 0x08 ∨ netOpcode r.hdr = 0x09 := by
  cases r with
  | readOk h a b c d k => exact .inl k
  | short h k => exact .inr (by simpa [hdr] using k)

lemma transcode_hdr (r : NetResp) : RespHdr.transcode r.hdr = r.hostHdr := by
  have h : transcodeOpcode r.hdr = hostOpcode (netOpcode r.hdr) := by
    obtain ⟨t4, t5, t8, t9⟩ := transcodeOpcode_table r.hdr
    rcases r.opcode_cases with k | k | k | k
    · rw [t4 k, k]; rfl
    · rw [t5 k, k]; rfl
    · rw [t8 k, k]; rfl
    · rw [t9 k, k]; rfl
  simp [RespHdr.transcode, hostHdr, h]

end NetResp

/-- A sequence of responses as the host expects it. -/
def hostBeats (rs : List NetResp) : List HostBeat := rs.flatMap NetResp.beats

@[simp] lemma hostBeats_append (rs rs' : List NetResp) :
    hostBeats (rs ++ rs') = hostBeats rs ++ hostBeats rs' := List.flatMap_append

@[simp] lemma hostBeats_singleton (r : NetResp) : hostBeats [r] = r.beats := by
  simp [hostBeats]

/-! ## The module between its two streams -/

/-- The module, and what is left of the stream of each port. -/
structure RespFeed where
  ingress : ComputeIngress
  stream : Port → List Flit

/-- The timing of one cycle: which ports have their next flit on offer, and whether the host side
takes a beat. -/
structure RespFeedIn where
  offer : Port → Bool
  route_out_tready : Bool

namespace RespFeed

variable (s : RespFeed) (i : RespFeedIn)

def wires : ComputeIngressIn where
  route_in_tdata p := (s.stream p).headD 0
  route_in_tvalid p := i.offer p && !(s.stream p).isEmpty
  route_out_tready := i.route_out_tready

/-- The next flit of the port's stream is taken. -/
def accepts (p : Port) : Bool := (s.wires i).route_in_tvalid p && s.ingress.route_in_tready p

def step : RespFeed where
  ingress := s.ingress.step (s.wires i)
  stream p := if s.accepts i p then (s.stream p).tail else s.stream p

/-- The flits taken from a port in a cycle. -/
def taken (p : Port) (s : RespFeed) (i : RespFeedIn) : List Flit :=
  if s.accepts i p then [(s.stream p).headD 0] else []

/-- The beats handed over in a cycle. -/
def emits (s : RespFeed) (i : RespFeedIn) : List RespFlit :=
  if s.ingress.out.tvalid && i.route_out_tready then [s.ingress.out.tdata] else []

end RespFeed

/-- The module at reset with the two streams in front of it. -/
def respFeed (rs : Port → List NetResp) : Machine RespFeed RespFeedIn where
  init := ⟨{}, fun p => respStream (rs p)⟩
  step := RespFeed.step

/-- The beats handed over in a run. -/
def respOut (rs : Port → List NetResp) (is : List RespFeedIn) : List HostBeat :=
  ((respFeed rs).collect RespFeed.emits is).map RespFlit.beat

/-- The flits taken from a port in a run. -/
def respTaken (rs : Port → List NetResp) (p : Port) (is : List RespFeedIn) : List Flit :=
  (respFeed rs).collect (RespFeed.taken p) is

/-- Nothing on offer, and the host takes what comes. -/
def RespFeedIn.drain : RespFeedIn := ⟨fun _ => false, true⟩

/-- Everything on offer, and the host takes what comes. -/
def RespFeedIn.go : RespFeedIn := ⟨fun _ => true, true⟩

/-- **What is expected of the response routing**, for one pair of streams and every timing. -/
structure RespRouted (rs : Port → List NetResp) : Prop where
  /-- What has been handed over is the beginning of an interleaving of whole responses. -/
  in_order : ∀ is, ∃ m, Interleave (rs .port0) (rs .port1) m ∧ respOut rs is <+: hostBeats m
  /-- Every response is handed over in the end. -/
  delivered : ∀ is, ∃ n m, Interleave (rs .port0) (rs .port1) m ∧
    respOut rs (is ++ List.replicate n .go) = hostBeats m
  /-- With no further flit, 22 cycles later either every response that has been taken is out, or
  all are out that precede a response whose header has been taken, but not all of its data. -/
  not_held_back : ∀ is, ∃ (a : Port → List NetResp) (m : List NetResp),
    (∀ p, a p <+: rs p) ∧ Interleave (a .port0) (a .port1) m ∧
    let out := respOut rs (is ++ List.replicate 22 .drain)
    (out = hostBeats m ∧ ∀ p, respTaken rs p is = respStream (a p)) ∨
      ∃ p b m' r, a p = b ++ [r] ∧ m = m' ++ [r] ∧
        (respStream b).length < (respTaken rs p is).length ∧
        (respTaken rs p is).length < (respStream (a p)).length ∧
        hostBeats m' <+: out ∧ out <+: hostBeats m

/-! ## The ping-pong buffer as a queue -/

namespace PingPong

variable (o : PingPong)

/-- The valid slots in the order in which they go out. -/
def queue : List RespFlit :=
  let ping := if o.ping.vld then [o.ping.q] else []
  let pong := if o.pong.vld then [o.pong.q] else []
  if o.ping_pong_r then pong ++ ping else ping ++ pong

/-- The slot that is written next. -/
def slot : RespFlit := if o.ping_pong_w then o.pong.q else o.ping.q

/-- Both slots are full or empty, and the turns agree; or the slot of the read turn is full. -/
def Ok : Prop :=
  if o.ping_pong_r = o.ping_pong_w then o.ping.vld = o.pong.vld
  else o.ping.vld = !o.ping_pong_r ∧ o.pong.vld = o.ping_pong_r

/-- What goes out in a cycle. -/
def emits (tready : Bool) : List RespFlit := if o.tvalid && tready then [o.tdata] else []

variable {o}

/-- A forward appends to the queue, or leaves its flit in the slot. -/
lemma queue_write (h : o.Ok) (hr : o.ready = true) (upd : RespFlit → RespFlit)
    (vld tready : Bool) :
    (o.write upd vld tready).Ok ∧
      o.emits tready ++ (o.write upd vld tready).queue
        = o.queue ++ (if vld then [upd o.slot] else []) ∧
      (vld = false → (o.write upd vld tready).slot = upd o.slot) := by
  obtain ⟨⟨ping, v⟩, ⟨pong, v'⟩, w, r⟩ := o
  cases v <;> cases v' <;> cases w <;> cases r <;> simp [Ok, ready] at h hr <;>
    cases vld <;> cases tready <;>
    simp [Ok, write, nextR, emits, queue, slot, tvalid, tdata]

lemma queue_hold (h : o.Ok) (tready : Bool) :
    (o.hold tready).Ok ∧ o.emits tready ++ (o.hold tready).queue = o.queue ∧
      (o.hold tready).slot = o.slot := by
  obtain ⟨⟨ping, v⟩, ⟨pong, v'⟩, w, r⟩ := o
  cases v <;> cases v' <;> cases w <;> cases r <;> simp [Ok] at h <;> cases tready <;>
    simp [Ok, hold, nextR, emits, queue, slot, tvalid, tdata]

/-- The host takes the oldest slot. -/
lemma emits_length (h : o.Ok) (tready : Bool) :
    (o.emits tready).length = if tready && !o.queue.isEmpty then 1 else 0 := by
  obtain ⟨⟨ping, v⟩, ⟨pong, v'⟩, w, r⟩ := o
  cases v <;> cases v' <;> cases w <;> cases r <;> simp [Ok] at h <;> cases tready <;>
    simp [emits, queue, tvalid]

lemma queue_length_le : o.queue.length ≤ 2 := by
  obtain ⟨⟨ping, v⟩, ⟨pong, v'⟩, w, r⟩ := o
  cases v <;> cases v' <;> cases r <;> simp [queue]

lemma ready_of_queue_eq_nil (h : o.queue = []) : o.ready = true := by
  obtain ⟨⟨ping, v⟩, ⟨pong, v'⟩, w, r⟩ := o
  cases v <;> cases v' <;> cases r <;> simp_all [queue, ready]

/-- An empty buffer at rest stays as it is. -/
lemma hold_eq (h : o.queue = []) (tready : Bool) : o.hold tready = o := by
  obtain ⟨⟨ping, v⟩, ⟨pong, v'⟩, w, r⟩ := o
  cases v <;> cases v' <;> cases r <;> simp_all [queue, hold, nextR]

end PingPong

/-! ## One cycle of the module -/

namespace ComputeIngress

variable (s : ComputeIngress)

/-- The registers of port `p` after the forwards of the cycle. -/
def forwarded (p : Port) : PortRegs :=
  (s.ports p).forward p.id s.outportid_cmd (s.ports p.other).outportid_data s.out.ready

/-- Port `p` forwards nothing in this cycle. -/
def Quiet (p : Port) : Prop :=
  s.fwdCmd p = false ∧ s.fwdData0 p = false ∧ s.fwdData1 p = false

/-- The buffer when only port `p` may forward. -/
def portOut (p : Port) (tready : Bool) : PingPong :=
  let r := s.ports p
  if s.fwdCmd p then s.out.write (.setCmd r.cmdflit.q) (!isRespROK r.cmdflit.q) tready
  else if s.fwdData0 p then s.out.write (.setData0 r.dataflit0h.q r.dataflit0l.q) true tready
  else if s.fwdData1 p then s.out.write (.setData1 r.dataflit1h.q r.dataflit1l.q) true tready
  else s.out.hold tready

lemma nextOut_eq {p : Port} (h : s.Quiet p.other) (tready : Bool) :
    s.nextOut tready = s.portOut p tready := by
  obtain ⟨hc, h0, h1⟩ := h
  cases p <;> simp only [Port.other] at hc h0 h1 <;> simp [nextOut, portOut, hc, h0, h1]

/-- A command is only lost from its register when it is forwarded. -/
lemma cmdflit_stays {p : Port} (i : ComputeIngressIn) (hv : (s.ports p).cmdflit.vld = true)
    (hc : s.fwdCmd p = false) : ((s.step i).ports p).cmdflit.vld = true := by
  rw [fwdCmd] at hc
  simp only [step, PortRegs.step, hc, PortRegs.next_eq]
  split_ifs <;> simp [hv]

lemma arb_req_eq : s.arb_req = reqs (s.ports .port0).cmdflit.vld (s.ports .port1).cmdflit.vld :=
  rfl

lemma fwdCmd_selected {p : Port} (h : s.fwdCmd p = true) :
    s.arb_req_nxt = true ∧ s.outportid_cmd = p.id := by
  have hs : s.outportid_cmd = p.id := by simp_all [fwdCmd, PortRegs.fwdCmd]
  exact ⟨by cases p <;> simp [arb_req_nxt, h], hs⟩

lemma masked_step (i : ComputeIngressIn) (h : ArbMasked s.masked_req_vector s.arb_req) :
    ArbMasked (s.step i).masked_req_vector (s.step i).arb_req := by
  rw [arb_req_eq] at h ⊢
  have key (p : Port) (hv : (s.ports p).cmdflit.vld = true) :
      ((s.step i).ports p).cmdflit.vld = true ∨
        s.arb_req_nxt = true ∧ s.outportid_cmd = p.id := by
    cases hc : s.fwdCmd p with
    | false => exact .inl (s.cmdflit_stays i hv hc)
    | true => exact .inr (s.fwdCmd_selected hc)
  exact arbStep_masked _ _ _ _ _ _ h (key .port0) (key .port1)

end ComputeIngress

namespace RespFeed

variable (s : RespFeed) (i : RespFeedIn)

lemma accepts_eq (p : Port) :
    s.accepts i p = (i.offer p && !(s.stream p).isEmpty && (s.ingress.forwarded p).free) := by
  rw [ComputeIngress.forwarded, PortRegs.free_forward]
  rfl

/-- A port forwards and then loads what it accepts. -/
lemma ports_step (p : Port) :
    (s.step i).ingress.ports p = if s.accepts i p then
      (s.ingress.forwarded p).load ((s.stream p).headD 0) else s.ingress.forwarded p := by
  rw [accepts_eq]
  exact PortRegs.step_eq _ _ _ _ _ _ _

lemma taken_append_stream (p : Port) : taken p s i ++ (s.step i).stream p = s.stream p := by
  have hne : s.accepts i p = true → (s.stream p).isEmpty = false := by
    rw [accepts_eq]; simp_all
  simp only [taken, step]
  cases hs : s.stream p <;> split_ifs with h <;> simp_all

/-- The load of a cycle keeps the configuration. -/
lemma shape_step {p : Port} {cur : List Flit} {u : List NetResp}
    (h : PortShape p.id (s.ingress.forwarded p) cur u (s.stream p))
    (good : ∀ r ∈ u, r.isWriteFail = false) :
    PortShape p.id ((s.step i).ingress.ports p) cur u ((s.step i).stream p) := by
  rw [ports_step]
  have hacc := s.accepts_eq i p
  simp only [step]
  split_ifs with ha
  · rw [ha] at hacc
    simp only [Bool.true_eq, Bool.and_eq_true, Bool.not_eq_true', List.isEmpty_eq_false_iff] at hacc
    obtain ⟨f, q, hq⟩ := List.exists_cons_of_ne_nil hacc.1.2
    rw [hq] at h ⊢
    exact h.load hacc.2 good
  · exact h

end RespFeed

/-! ## The invariant -/

/-- The beats still to come of a started response, given what is left of its data. -/
def pendingBeats (slot : RespFlit) : List Flit → List HostBeat
  | [a, b, c, d] => [⟨some slot.hdr, some (a ++ b : BitVec 512)⟩, ⟨none, some (c ++ d : BitVec 512)⟩]
  | [c, d] => [⟨none, some (c ++ d : BitVec 512)⟩]
  | _ => []

/-- A state of the module between its streams: `a` and `u` are the responses started and not
started, `m` is the order in which they were started, `cur` the data still to be forwarded of the
response started last, and `out` what has been handed over. -/
structure RouteInv (rs : Port → List NetResp) (s : RespFeed) (out : List RespFlit)
    (cur : Port → List Flit) (a u : Port → List NetResp) (m : List NetResp) : Prop where
  split : ∀ p, rs p = a p ++ u p
  shape : ∀ p, PortShape p.id (s.ingress.ports p) (cur p) (u p) (s.stream p)
  order : Interleave (a .port0) (a .port1) m
  /-- Only one port is in the middle of a response, the last one of `m`. -/
  lock : ∀ p, cur p ≠ [] → cur p.other = [] ∧ ∃ b m' r, a p = b ++ [r] ∧ m = m' ++ [r] ∧
    (cur p).length ≤ r.data.length ∧ pendingBeats s.ingress.out.slot (cur p) <:+ r.beats
  /-- Its header is in the slot until the first 64 bytes join it. -/
  header : ∀ p, (cur p).length = 4 → s.ingress.out.slot.respvalid = true
  queued : s.ingress.out.Ok
  masked : ArbMasked s.ingress.masked_req_vector s.ingress.arb_req
  beats : ∀ p, cur p.other = [] → (out ++ s.ingress.out.queue).map RespFlit.beat
    ++ pendingBeats s.ingress.out.slot (cur p) = hostBeats m

namespace RouteInv

variable {rs : Port → List NetResp} {s : RespFeed} {out : List RespFlit}
  {cur : Port → List Flit} {a u : Port → List NetResp} {m : List NetResp}

lemma init (rs : Port → List NetResp) :
    RouteInv rs (respFeed rs).init [] (fun _ => []) (fun _ => []) rs [] where
  split _ := rfl
  shape _ := .idle
  order := .nil
  lock _ h := absurd rfl h
  header _ h := absurd h (by decide)
  queued := rfl
  masked := BitVec.zero_and
  beats _ _ := rfl

lemma outportid_eq_zero (h : RouteInv rs s out cur a u m) (p : Port) :
    (s.ingress.ports p).outportid_data = 0 ↔ cur p = [] := by
  rw [(h.shape p).outportid_data]
  split_ifs with hc
  · simp [hc]
  · simp only [hc, iff_false]
    cases p <;> decide

/-- A port between responses forwards no data. -/
lemma no_data (h : RouteInv rs s out cur a u m) {p : Port} (hc : cur p = []) :
    s.ingress.fwdData0 p = false ∧ s.ingress.fwdData1 p = false := by
  have hm : (s.ingress.ports p).port_sm = .CMD := by
    have hs := h.shape p
    rw [hc] at hs
    exact hs.cmd_or_idle.1
  simp [ComputeIngress.fwdData0, ComputeIngress.fwdData1, PortRegs.fwdData0, PortRegs.fwdData1, hm]

/-- In every cycle there is one port beside which the other one forwards nothing. -/
lemma active (h : RouteInv rs s out cur a u m) :
    ∃ p : Port, s.ingress.Quiet p.other ∧ cur p.other = [] := by
  by_cases hfree : ∀ p, cur p = []
  · -- between responses the arbiter selects one port
    by_cases h0 : s.ingress.fwdCmd .port1 = false
    · exact ⟨.port0, ⟨h0, h.no_data (hfree _)⟩, hfree _⟩
    · have h1 : s.ingress.fwdCmd .port0 = false := by
        obtain ⟨-, hs⟩ := s.ingress.fwdCmd_selected (eq_true_of_ne_false h0)
        rw [ComputeIngress.fwdCmd, PortRegs.fwdCmd, hs]
        simp [Port.id]
      exact ⟨.port1, ⟨h1, h.no_data (hfree _)⟩, hfree _⟩
  · -- in the middle of a response the other port is locked out
    obtain ⟨p, hp⟩ := not_forall.mp hfree
    have ho := (h.lock p hp).1
    refine ⟨p, ⟨?_, h.no_data ho⟩, ho⟩
    have hz : (s.ingress.ports p).outportid_data ≠ 0 := mt (h.outportid_eq_zero p).mp hp
    rw [ComputeIngress.fwdCmd, PortRegs.fwdCmd, Port.other_other, decide_eq_false hz]
    simp

/-- A quiet port keeps its registers in the forward. -/
lemma forwarded_eq (h : RouteInv rs s out cur a u m) {p : Port} (hq : s.ingress.Quiet p) :
    s.ingress.forwarded p = s.ingress.ports p :=
  (h.shape p).forward_eq hq.1 hq.2.1 hq.2.2

/-- The cycle, given what it does to the active port `p` and to the buffer. -/
lemma step_of (h : RouteInv rs s out cur a u m) (good : ∀ p, ∀ r ∈ rs p, r.isWriteFail = false)
    (i : RespFeedIn) {p : Port} (hq : s.ingress.Quiet p.other) (ho : cur p.other = [])
    {c : List Flit} {a' u' m' : List NetResp}
    (hshape : PortShape p.id (s.ingress.forwarded p) c u' (s.stream p))
    (hsplit : rs p = a' ++ u')
    (horder : Interleave (Function.update a p a' .port0) (Function.update a p a' .port1) m')
    (hlock : c ≠ [] → ∃ b m'' r, a' = b ++ [r] ∧ m' = m'' ++ [r] ∧ c.length ≤ r.data.length ∧
      pendingBeats (s.ingress.portOut p i.route_out_tready).slot c <:+ r.beats)
    (hheader : c.length = 4 → (s.ingress.portOut p i.route_out_tready).slot.respvalid = true)
    (hqueued : (s.ingress.portOut p i.route_out_tready).Ok)
    (hbeats : (out ++ s.ingress.out.emits i.route_out_tready
        ++ (s.ingress.portOut p i.route_out_tready).queue).map RespFlit.beat
      ++ pendingBeats (s.ingress.portOut p i.route_out_tready).slot c = hostBeats m') :
    RouteInv rs (s.step i) (out ++ RespFeed.emits s i) (Function.update cur p c)
      (Function.update a p a') (Function.update u p u') m' := by
  have hout : (s.step i).ingress.out = s.ingress.portOut p i.route_out_tready :=
    s.ingress.nextOut_eq hq _
  have hne := p.other_ne
  have hother : Function.update cur p c p.other = [] := by
    rw [Function.update_of_ne hne, ho]
  have hu : ∀ r ∈ u', r.isWriteFail = false := fun r hr => good p r (by rw [hsplit]; simp [hr])
  constructor
  case split =>
    intro x
    obtain rfl | rfl := p.eq_or_eq_other x
    · simpa using hsplit
    · simpa [hne] using h.split p.other
  case shape =>
    intro x
    obtain rfl | rfl := p.eq_or_eq_other x
    · simpa using s.shape_step i hshape hu
    · have hs := h.shape p.other
      rw [← h.forwarded_eq hq] at hs
      have hgood : ∀ r ∈ u p.other, r.isWriteFail = false :=
        fun r hr => good p.other r (by rw [h.split]; simp [hr])
      simpa [hne] using s.shape_step i hs hgood
  case order => exact horder
  case lock =>
    intro x hx
    obtain rfl | rfl := p.eq_or_eq_other x
    · rw [hout]
      simpa [hother] using hlock (by simpa using hx)
    · exact absurd hother hx
  case header =>
    intro x hx
    obtain rfl | rfl := p.eq_or_eq_other x
    · rw [hout]
      exact hheader (by simpa using hx)
    · rw [hother] at hx
      exact absurd hx (by decide)
  case queued => rw [hout]; exact hqueued
  case masked => exact s.ingress.masked_step _ h.masked
  case beats =>
    intro x hx
    rw [hout]
    obtain rfl | rfl := p.eq_or_eq_other x
    · rw [Function.update_self]
      exact hbeats
    · have hc : c = [] := by simpa using hx
      rw [hother]
      rw [hc] at hbeats
      exact hbeats

/-- What a cycle costs: a measure that falls whenever something moves. -/
def weight (s : RespFeed) (cur : Port → List Flit) (u : Port → List NetResp) : ℕ :=
  2 * ((cur .port0 ++ respStream (u .port0)).length + (cur .port1 ++ respStream (u .port1)).length)
    + ((s.stream .port0).length + (s.stream .port1).length) + s.ingress.out.queue.length

/-- The effect of a cycle: only the part `p` of the invariant changes, and the measure pays for
what the host takes. -/
def Advances (rs : Port → List NetResp) (s : RespFeed) (out : List RespFlit)
    (cur : Port → List Flit) (a u : Port → List NetResp) (i : RespFeedIn) : Prop :=
  ∃ p c a' u' m', RouteInv rs (s.step i) (out ++ RespFeed.emits s i) (Function.update cur p c)
      (Function.update a p a') (Function.update u p u') m' ∧
    2 * (c ++ respStream u').length + (s.step i).ingress.out.queue.length
        + (RespFeed.emits s i).length
      ≤ 2 * (cur p ++ respStream (u p)).length + s.ingress.out.queue.length ∧
    ((∀ x, s.ingress.Quiet x) ∨
      2 * (c ++ respStream u').length + (s.step i).ingress.out.queue.length
        < 2 * (cur p ++ respStream (u p)).length + s.ingress.out.queue.length)

/-- The four cases of a cycle, each given the active port. -/
lemma advances_of (h : RouteInv rs s out cur a u m)
    (good : ∀ p, ∀ r ∈ rs p, r.isWriteFail = false) (i : RespFeedIn) {p : Port}
    (hq : s.ingress.Quiet p.other) (ho : cur p.other = []) {o : PingPong}
    (hp : s.ingress.portOut p i.route_out_tready = o)
    {c : List Flit} {a' u' m' : List NetResp} (new : List RespFlit)
    (hshape : PortShape p.id (s.ingress.forwarded p) c u' (s.stream p))
    (hsplit : rs p = a' ++ u')
    (horder : Interleave (Function.update a p a' .port0) (Function.update a p a' .port1) m')
    (hlock : c ≠ [] → ∃ b m'' r, a' = b ++ [r] ∧ m' = m'' ++ [r] ∧ c.length ≤ r.data.length ∧
      pendingBeats o.slot c <:+ r.beats)
    (hheader : c.length = 4 → o.slot.respvalid = true)
    (hqueued : o.Ok)
    (hqueue : s.ingress.out.emits i.route_out_tready ++ o.queue = s.ingress.out.queue ++ new)
    (hbeats : (out ++ s.ingress.out.queue ++ new).map RespFlit.beat ++ pendingBeats o.slot c
      = hostBeats m')
    (hweight : 2 * (c ++ respStream u').length + new.length
      ≤ 2 * (cur p ++ respStream (u p)).length)
    (hmove : (∀ x, s.ingress.Quiet x) ∨
      2 * (c ++ respStream u').length + new.length < 2 * (cur p ++ respStream (u p)).length) :
    Advances rs s out cur a u i := by
  have hout : (s.step i).ingress.out = o := (s.ingress.nextOut_eq hq _).trans hp
  have hemit : RespFeed.emits s i = s.ingress.out.emits i.route_out_tready := rfl
  have hlen := congrArg List.length hqueue
  simp only [List.length_append] at hlen
  subst hp
  refine ⟨p, c, a', u', m', h.step_of good i hq ho hshape hsplit horder hlock hheader hqueued ?_,
    ?_, ?_⟩
  · rwa [List.append_assoc, hqueue, ← List.append_assoc]
  · rw [hout, hemit]
    omega
  · rw [hout]
    exact hmove.imp_right (by omega)

/-- The response `r` of port `p` is started. -/
lemma order_snoc (h : Interleave (a .port0) (a .port1) m) (p : Port) (r : NetResp) :
    Interleave (Function.update a p (a p ++ [r]) .port0) (Function.update a p (a p ++ [r]) .port1)
      (m ++ [r]) := by
  cases p
  · simpa using h.snoc_left r
  · simpa using h.snoc_right r

/-- A started response: its one beat, or its header in the slot and its data to come. -/
lemma started_beats (slot : RespFlit) (r : NetResp) :
    (if r.data.isEmpty then [RespFlit.setCmd r.hostHdr slot] else []).map RespFlit.beat
      ++ pendingBeats (.setCmd r.hostHdr slot) r.data = r.beats := by
  cases r <;> rfl

/-- A command is forwarded. -/
lemma advances_cmd (h : RouteInv rs s out cur a u m)
    (good : ∀ p, ∀ r ∈ rs p, r.isWriteFail = false) (i : RespFeedIn) {p : Port}
    (hq : s.ingress.Quiet p.other) (ho : cur p.other = []) (hc : s.ingress.fwdCmd p = true) :
    Advances rs s out cur a u i := by
  obtain ⟨r, u', hu, hcur, hhdr, hk, hs⟩ := (h.shape p).fwdCmd hc
  have hr : s.ingress.out.ready = true := by simp_all [ComputeIngress.fwdCmd, PortRegs.fwdCmd]
  have hp : s.ingress.portOut p i.route_out_tready = s.ingress.out.write
      (.setCmd r.hostHdr) r.data.isEmpty i.route_out_tready := by
    rw [ComputeIngress.portOut, if_pos hc, hk, hhdr, r.transcode_hdr, Bool.not_not]
  obtain ⟨hok, hqueue, hslot⟩ := PingPong.queue_write h.queued hr (.setCmd r.hostHdr)
    r.data.isEmpty i.route_out_tready
  have hpend : pendingBeats (s.ingress.out.write (.setCmd r.hostHdr) r.data.isEmpty
      i.route_out_tready).slot r.data
        = pendingBeats (.setCmd r.hostHdr s.ingress.out.slot) r.data := by
    cases r with
    | readOk h a b c d k => rw [hslot rfl]
    | short h k => rfl
  have hstart := started_beats s.ingress.out.slot r
  have hb := h.beats p ho
  rw [hcur] at hb
  refine h.advances_of good i hq ho hp _ hs (by rw [h.split, hu]; simp) (order_snoc h.order p r)
    (fun _ => ⟨a p, m, r, rfl, rfl, le_rfl, ?_⟩) ?_ hok hqueue ?_ ?_ (.inr ?_)
  · rw [hpend, ← hstart]
    exact List.suffix_append _ _
  · intro hlen
    rw [hslot (by cases hr : r.data <;> simp_all)]
    rfl
  · rw [hpend, List.map_append, List.append_assoc, hstart, hostBeats_append, ← hb]
    simp [pendingBeats]
  · rw [hcur, hu]
    split_ifs <;> simp only [respStream_cons, List.length_append, List.length_cons,
      List.length_nil] <;> omega
  · rw [hcur, hu]
    split_ifs <;> simp only [respStream_cons, List.length_append, List.length_cons,
      List.length_nil] <;> omega

/-- The first 64 bytes join their header. -/
lemma advances_data0 (h : RouteInv rs s out cur a u m)
    (good : ∀ p, ∀ r ∈ rs p, r.isWriteFail = false) (i : RespFeedIn) {p : Port}
    (hq : s.ingress.Quiet p.other) (ho : cur p.other = []) (hc : s.ingress.fwdCmd p = false)
    (h0 : s.ingress.fwdData0 p = true) : Advances rs s out cur a u i := by
  obtain ⟨f1, f2, f3, f4, hcur, hf1, hf2, hs⟩ := (h.shape p).fwdData0 h0
  have hr : s.ingress.out.ready = true := by simp_all [ComputeIngress.fwdData0, PortRegs.fwdData0]
  have hp : s.ingress.portOut p i.route_out_tready = s.ingress.out.write
      (.setData0 f1 f2) true i.route_out_tready := by
    rw [ComputeIngress.portOut, hc, if_neg Bool.false_ne_true, if_pos h0, hf1, hf2]
  obtain ⟨hok, hqueue, -⟩ := PingPong.queue_write h.queued hr (.setData0 f1 f2) true
    i.route_out_tready
  obtain ⟨-, b, m', r, ha, hm, hlen, hsuf⟩ := h.lock p (by simp [hcur])
  have hhdr := h.header p (by simp [hcur])
  have hb := h.beats p ho
  rw [hcur] at hb hlen hsuf
  refine h.advances_of good i hq ho hp _ hs (h.split p) (by simpa using h.order)
    (fun _ => ⟨b, m', r, ha, hm, ?_, ?_⟩) (by simp) hok hqueue ?_ ?_ (.inr ?_)
  · simp only [List.length_cons] at hlen ⊢
    omega
  · exact (List.suffix_cons _ _).trans hsuf
  · rw [← hb]
    simp [pendingBeats, RespFlit.setData0, RespFlit.beat, hhdr]
  · rw [hcur]
    simp only [↓reduceIte, List.length_append, List.length_cons, List.length_nil]
    omega
  · rw [hcur]
    simp only [↓reduceIte, List.length_append, List.length_cons, List.length_nil]
    omega

/-- The last 64 bytes are forwarded. -/
lemma advances_data1 (h : RouteInv rs s out cur a u m)
    (good : ∀ p, ∀ r ∈ rs p, r.isWriteFail = false) (i : RespFeedIn) {p : Port}
    (hq : s.ingress.Quiet p.other) (ho : cur p.other = []) (hc : s.ingress.fwdCmd p = false)
    (h0 : s.ingress.fwdData0 p = false) (h1 : s.ingress.fwdData1 p = true) :
    Advances rs s out cur a u i := by
  obtain ⟨f3, f4, hcur, hf3, hf4, hs⟩ := (h.shape p).fwdData1 h1
  have hr : s.ingress.out.ready = true := by simp_all [ComputeIngress.fwdData1, PortRegs.fwdData1]
  have hp : s.ingress.portOut p i.route_out_tready = s.ingress.out.write
      (.setData1 f3 f4) true i.route_out_tready := by
    rw [ComputeIngress.portOut, hc, h0, if_neg Bool.false_ne_true, if_neg Bool.false_ne_true,
      if_pos h1, hf3, hf4]
  obtain ⟨hok, hqueue, -⟩ := PingPong.queue_write h.queued hr (.setData1 f3 f4) true
    i.route_out_tready
  have hb := h.beats p ho
  rw [hcur] at hb
  refine h.advances_of good i hq ho hp _ hs (h.split p) (by simpa using h.order)
    (fun hx => absurd rfl hx) (by simp) hok hqueue ?_ ?_ (.inr ?_)
  · rw [← hb]
    simp [pendingBeats, RespFlit.setData1, RespFlit.beat]
  · rw [hcur]
    simp only [↓reduceIte, List.length_append, List.length_cons, List.length_nil]
    omega
  · rw [hcur]
    simp only [↓reduceIte, List.length_append, List.length_cons, List.length_nil]
    omega

/-- Nothing is forwarded. -/
lemma advances_hold (h : RouteInv rs s out cur a u m)
    (good : ∀ p, ∀ r ∈ rs p, r.isWriteFail = false) (i : RespFeedIn) {p : Port}
    (hq : s.ingress.Quiet p.other) (ho : cur p.other = []) (hquiet : s.ingress.Quiet p) :
    Advances rs s out cur a u i := by
  have hp : s.ingress.portOut p i.route_out_tready
      = s.ingress.out.hold i.route_out_tready := by
    simp [ComputeIngress.portOut, hquiet.1, hquiet.2.1, hquiet.2.2]
  obtain ⟨hok, hqueue, hslot⟩ := PingPong.queue_hold h.queued i.route_out_tready
  have hshape : PortShape p.id (s.ingress.forwarded p) (cur p) (u p) (s.stream p) := by
    rw [h.forwarded_eq hquiet]
    exact h.shape p
  refine h.advances_of good i hq ho hp [] hshape (h.split p) (by simpa using h.order) ?_ ?_
    hok (by simpa using hqueue) ?_ (by simp) (.inl fun x => ?_)
  · rw [hslot]; exact fun hx => (h.lock p hx).2
  · rw [hslot]; exact h.header p
  · rw [hslot, List.append_nil]
    exact h.beats p ho
  · obtain rfl | rfl := p.eq_or_eq_other x
    · exact hquiet
    · exact hq

lemma advances (h : RouteInv rs s out cur a u m)
    (good : ∀ p, ∀ r ∈ rs p, r.isWriteFail = false) (i : RespFeedIn) :
    Advances rs s out cur a u i := by
  obtain ⟨p, hq, ho⟩ := h.active
  cases hc : s.ingress.fwdCmd p with
  | true => exact h.advances_cmd good i hq ho hc
  | false =>
      cases h0 : s.ingress.fwdData0 p with
      | true => exact h.advances_data0 good i hq ho hc h0
      | false =>
          cases h1 : s.ingress.fwdData1 p with
          | true => exact h.advances_data1 good i hq ho hc h0 h1
          | false => exact h.advances_hold good i hq ho ⟨hc, h0, h1⟩

end RouteInv

/-! ## Whole runs -/

/-- Nothing moves in a cycle with the inputs `i`. -/
def RespFeed.Rest (s : RespFeed) (i : RespFeedIn) : Prop :=
  s.ingress.out.queue = [] ∧ ∀ p, s.ingress.Quiet p ∧ s.accepts i p = false

namespace RouteInv

variable {rs : Port → List NetResp} {s : RespFeed} {out : List RespFlit}
  {cur : Port → List Flit} {a u : Port → List NetResp} {m : List NetResp}

/-- A sum over the ports from the point of view of one of them. -/
lemma sum_ports (f : Port → ℕ) (p : Port) : f .port0 + f .port1 = f p + f p.other := by
  cases p
  · rfl
  · exact Nat.add_comm _ _

lemma weight_eq (s : RespFeed) (cur : Port → List Flit) (u : Port → List NetResp) (p : Port) :
    weight s cur u = 2 * (cur p ++ respStream (u p)).length
      + 2 * (cur p.other ++ respStream (u p.other)).length
      + ((s.stream .port0).length + (s.stream .port1).length) + s.ingress.out.queue.length := by
  have := sum_ports (fun x => (cur x ++ respStream (u x)).length) p
  rw [weight, this]
  omega

lemma stream_length (s : RespFeed) (i : RespFeedIn) (p : Port) :
    ((s.step i).stream p).length + (if s.accepts i p then 1 else 0) = (s.stream p).length := by
  rw [← s.taken_append_stream i p, RespFeed.taken]
  split_ifs <;> simp [Nat.add_comm]

/-- **The step of the invariant.**  Whatever moves in a cycle is paid for by the measure. -/
theorem step (h : RouteInv rs s out cur a u m)
    (good : ∀ p, ∀ r ∈ rs p, r.isWriteFail = false) (i : RespFeedIn) :
    ∃ cur' a' u' m', RouteInv rs (s.step i) (out ++ RespFeed.emits s i) cur' a' u' m' ∧
      weight (s.step i) cur' u' ≤ weight s cur u ∧
      (i.route_out_tready = true → s.Rest i ∨ weight (s.step i) cur' u' < weight s cur u) := by
  obtain ⟨p, c, a', u', m', hinv, hle, hlt⟩ := h.advances good i
  refine ⟨_, _, _, _, hinv, ?_, fun hr => ?_⟩ <;>
    rw [weight_eq _ _ _ p, weight_eq s cur u p] <;>
    simp only [Function.update_self, Function.update_of_ne p.other_ne]
  all_goals
    have h0 := stream_length s i .port0
    have h1 := stream_length s i .port1
  · omega
  · by_cases hrest : s.Rest i
    · exact .inl hrest
    · refine .inr ?_
      have hemit := PingPong.emits_length h.queued i.route_out_tready
      rw [hr, Bool.true_and] at hemit
      by_cases hqueue : s.ingress.out.queue = []
      · obtain hquiet | hmove := hlt
        · -- only a load is left
          have : s.accepts i .port0 = true ∨ s.accepts i .port1 = true := by
            by_contra hacc
            rw [not_or, Bool.not_eq_true, Bool.not_eq_true] at hacc
            exact hrest ⟨hqueue, fun x => ⟨hquiet x, by cases x <;> simp [hacc]⟩⟩
          rcases this with hacc | hacc <;> simp only [hacc, if_true] at h0 h1 <;> omega
        · omega
      · have : (RespFeed.emits s i).length = 1 := by
          rw [show RespFeed.emits s i = s.ingress.out.emits true by rw [← hr]; rfl, hemit]
          simp [hqueue]
        omega

/-- A state at rest stays as it is and hands nothing over. -/
lemma step_rest (h : RouteInv rs s out cur a u m) {i : RespFeedIn} (hrest : s.Rest i) :
    s.step i = s ∧ RespFeed.emits s i = [] := by
  obtain ⟨hqueue, hq⟩ := hrest
  have hports : (s.step i).ingress.ports = s.ingress.ports := by
    funext p
    rw [s.ports_step, (hq p).2, if_neg Bool.false_ne_true, h.forwarded_eq (hq p).1]
  have hout : (s.step i).ingress.out = s.ingress.out := by
    have : (s.step i).ingress.out = s.ingress.portOut .port0 i.route_out_tready :=
      s.ingress.nextOut_eq (p := .port0) (hq .port1).1 _
    obtain ⟨hc, h0, h1⟩ := (hq .port0).1
    rw [this, ComputeIngress.portOut, hc, h0, h1]
    exact PingPong.hold_eq hqueue _
  have hmask : (s.step i).ingress.masked_req_vector = s.ingress.masked_req_vector := by
    have hnxt : s.ingress.arb_req_nxt = false := by
      rw [ComputeIngress.arb_req_nxt, (hq .port0).1.1, (hq .port1).1.1]; rfl
    have : (s.step i).ingress.masked_req_vector
        = arbStep s.ingress.masked_req_vector s.ingress.arb_req s.ingress.arb_req_nxt := rfl
    rw [this, hnxt]
    simp [arbStep]
  have hstream : (s.step i).stream = s.stream := by
    funext p
    simp [RespFeed.step, (hq p).2]
  refine ⟨?_, ?_⟩
  · generalize s.step i = s' at *
    obtain ⟨⟨_, _, _⟩, _⟩ := s
    obtain ⟨⟨_, _, _⟩, _⟩ := s'
    simp_all
  · have hemit := PingPong.emits_length h.queued i.route_out_tready
    rw [hqueue] at hemit
    exact List.eq_nil_of_length_eq_zero (hemit.trans (by simp))

/-- What holds the module up: no response at all, or a response that waits for its own data. -/
lemma rest_cases (h : RouteInv rs s out cur a u m) {i : RespFeedIn} (hrest : s.Rest i) :
    (∀ p, cur p = [] ∧ (s.ingress.ports p).cmdflit.vld = false ∧
      s.stream p = respStream (u p) ∧ (s.ingress.ports p).free = true) ∨
    ∃ p, cur p ≠ [] ∧ (s.ingress.ports p).free = true ∧
      (respStream (u p)).length < (s.stream p).length := by
  obtain ⟨hqueue, hq⟩ := hrest
  have hready := PingPong.ready_of_queue_eq_nil hqueue
  by_cases hfree : ∀ p, cur p = []
  · refine .inl fun p => ?_
    have hs (x : Port) : PortShape x.id (s.ingress.ports x) [] (u x) (s.stream x) := by
      rw [← hfree x]
      exact h.shape x
    -- a command that the arbiter selects would be forwarded
    have hsel (x : Port) (hx : s.ingress.outportid_cmd = x.id)
        (hv : (s.ingress.ports x).cmdflit.vld = true) : False := by
      have hc := (hq x).1.1
      have ho : (s.ingress.ports x.other).outportid_data = 0 :=
        (h.outportid_eq_zero x.other).mpr (hfree _)
      rw [ComputeIngress.fwdCmd, PortRegs.fwdCmd, hv, hready, hx, ho, (hs x).cmd_or_idle.1] at hc
      simp at hc
    have hmask := h.masked
    rw [s.ingress.arb_req_eq] at hmask
    have hno : ((s.ingress.ports .port0).cmdflit.vld || (s.ingress.ports .port1).cmdflit.vld)
        = false := by
      rw [Bool.eq_false_iff]
      intro hreq
      rcases arbSelected_request _ _ _ hmask hreq with ⟨h0, hv⟩ | ⟨h1, hv⟩
      · exact hsel .port0 h0 hv
      · exact hsel .port1 h1 hv
    rw [Bool.or_eq_false_iff] at hno
    have hv : (s.ingress.ports p).cmdflit.vld = false := by
      cases p
      · exact hno.1
      · exact hno.2
    rcases (hs p).cmd_or_idle.2 with hv' | hidle
    · exact absurd (hv.symm.trans hv') Bool.false_ne_true
    · exact ⟨hfree p, hidle⟩
  · obtain ⟨p, hp⟩ := not_forall.mp hfree
    refine .inr ⟨p, hp, ?_⟩
    obtain ⟨hc, h0, h1⟩ := (hq p).1
    have hs := h.shape p
    rcases hs.cur_cases with hcur | ⟨a, b, c, d, hcur⟩ | ⟨c, d, hcur⟩
    · exact absurd hcur hp
    · rw [hcur] at hs
      obtain ⟨hm, hid, hv | ⟨hf, hl⟩⟩ := hs.data0_or_waits
      · simp [ComputeIngress.fwdData0, PortRegs.fwdData0, hm, hid, hv, hready] at h0
      · simp only [List.length_append, List.length_cons] at hl
        exact ⟨hf, by omega⟩
    · rw [hcur] at hs
      obtain ⟨hm, hid, hv | hwait⟩ := hs.data1_or_waits
      · simp [ComputeIngress.fwdData1, PortRegs.fwdData1, hm, hid, hv, hready] at h1
      · exact hwait

/-- The invariant after a run. -/
lemma run (good : ∀ p, ∀ r ∈ rs p, r.isWriteFail = false) (is : List RespFeedIn) :
    ∃ cur a u m, RouteInv rs ((respFeed rs).run is) ((respFeed rs).collect RespFeed.emits is)
      cur a u m := by
  refine (respFeed rs).history_invariant_all
    (P := fun s out => ∃ cur a u m, RouteInv rs s out cur a u m) ⟨_, _, _, _, init rs⟩ ?_ is
  rintro s out i ⟨cur, a, u, m, h⟩
  obtain ⟨cur', a', u', m', h', -⟩ := h.step good i
  exact ⟨cur', a', u', m', h'⟩

/-- A state at rest for the rest of the run. -/
lemma runFrom_rest (h : RouteInv rs s out cur a u m) {i : RespFeedIn} (hrest : s.Rest i) (n : ℕ) :
    (respFeed rs).runFrom s (List.replicate n i) = s ∧
      (respFeed rs).collectFrom RespFeed.emits s (List.replicate n i) = [] := by
  obtain ⟨hstep, hemit⟩ := h.step_rest hrest
  have hstep' : (respFeed rs).step s i = s := hstep
  induction n with
  | zero => exact ⟨rfl, rfl⟩
  | succ n ih => simp [List.replicate_succ, Machine.collectFrom, hstep', hemit, ih]

/-- With the same inputs in every cycle and a host that takes what comes, the module comes to
rest: after as many cycles as the measure is above what it cannot fall below. -/
lemma settle (good : ∀ p, ∀ r ∈ rs p, r.isWriteFail = false) (i : RespFeedIn)
    (hr : i.route_out_tready = true) (K : RespFeed → Prop) (floor : ℕ)
    (hK : ∀ s, K s → K (s.step i))
    (hfloor : ∀ s out cur a u m, RouteInv rs s out cur a u m → K s → floor ≤ weight s cur u)
    (n : ℕ) (h : RouteInv rs s out cur a u m) (hs : K s) (hn : weight s cur u ≤ n + floor) :
    ∃ cur' a' u' m', RouteInv rs ((respFeed rs).runFrom s (List.replicate n i))
        (out ++ (respFeed rs).collectFrom RespFeed.emits s (List.replicate n i)) cur' a' u' m' ∧
      ((respFeed rs).runFrom s (List.replicate n i)).Rest i ∧
      K ((respFeed rs).runFrom s (List.replicate n i)) := by
  induction n generalizing s out cur a u m with
  | zero =>
      obtain ⟨cur', a', u', m', h', -, hmove⟩ := h.step good i
      refine ⟨cur, a, u, m, by simpa [Machine.collectFrom] using h, ?_, hs⟩
      rcases hmove hr with hrest | hlt
      · exact hrest
      · have := hfloor _ _ _ _ _ _ h' (hK s hs)
        omega
  | succ n ih =>
      obtain ⟨cur', a', u', m', h', -, hmove⟩ := h.step good i
      rcases hmove hr with hrest | hlt
      · obtain ⟨hrun, hcollect⟩ := h.runFrom_rest hrest (n + 1)
        rw [hrun, hcollect, List.append_nil]
        exact ⟨cur, a, u, m, h, hrest, hs⟩
      · have hres := ih h' (hK s hs) (by omega)
        rwa [List.append_assoc] at hres

end RouteInv

/-- The beats of a run are the beginning of those of an interleaving. -/
lemma RouteInv.out_isPrefix {rs : Port → List NetResp} {s : RespFeed} {out : List RespFlit}
    {cur : Port → List Flit} {a u : Port → List NetResp} {m : List NetResp}
    (h : RouteInv rs s out cur a u m) :
    ∃ m, Interleave (rs .port0) (rs .port1) m ∧ out.map RespFlit.beat <+: hostBeats m := by
  refine ⟨m ++ (u .port0 ++ u .port1), ?_, ?_⟩
  · rw [h.split, h.split]
    exact h.order.extend _ _
  · obtain ⟨p, -, ho⟩ := h.active
    have hb := h.beats p ho
    rw [List.map_append, List.append_assoc] at hb
    rw [hostBeats_append, ← hb, List.append_assoc]
    exact List.prefix_append _ _

lemma respTaken_append_stream (rs : Port → List NetResp) (p : Port) (is : List RespFeedIn) :
    respTaken rs p is ++ ((respFeed rs).run is).stream p = respStream (rs p) := by
  refine (respFeed rs).history_invariant_all
    (P := fun s t => t ++ s.stream p = respStream (rs p)) rfl ?_ is
  intro s t i h
  rw [List.append_assoc]
  exact (congrArg (t ++ ·) (s.taken_append_stream i p)).trans h

/-! ## Streams without a failed write are routed as expected -/

section Good

variable {rs : Port → List NetResp}

/-- Nothing is lost, doubled, reordered or altered, whatever the timing. -/
theorem resp_in_order (good : ∀ p, ∀ r ∈ rs p, r.isWriteFail = false) (is : List RespFeedIn) :
    ∃ m, Interleave (rs .port0) (rs .port1) m ∧ respOut rs is <+: hostBeats m := by
  obtain ⟨cur, a, u, m, h⟩ := RouteInv.run good is
  exact h.out_isPrefix

/-- With everything on offer the module comes to rest with nothing left. -/
lemma resp_settles (good : ∀ p, ∀ r ∈ rs p, r.isWriteFail = false) (is : List RespFeedIn) :
    ∃ n cur a u m, let js := is ++ List.replicate n .go
      RouteInv rs ((respFeed rs).run js) ((respFeed rs).collect RespFeed.emits js) cur a u m ∧
      ((respFeed rs).run js).Rest .go ∧ ∀ p, cur p = [] ∧ u p = [] ∧
        ((respFeed rs).run js).stream p = [] ∧
        (((respFeed rs).run js).ingress.ports p).cmdflit.vld = false := by
  obtain ⟨cur, a, u, m, h⟩ := RouteInv.run good is
  obtain ⟨cur', a', u', m', h', hrest, -⟩ := RouteInv.settle good .go rfl
    (fun _ => True) 0 (fun _ _ => trivial)
    (fun _ _ _ _ _ _ _ _ => Nat.zero_le _) (RouteInv.weight ((respFeed rs).run is) cur u) h trivial
    le_rfl
  rw [← Machine.run_append] at h' hrest
  refine ⟨_, cur', a', u', m', ?_, hrest, ?_⟩
  · rw [Machine.collect, Machine.collectFrom_append]
    exact h'
  · -- what is free to load does not wait with a flit on offer
    have hempty (p : Port) (hf : (((respFeed rs).run (is ++ List.replicate
        (RouteInv.weight ((respFeed rs).run is) cur u) .go)).ingress.ports p).free = true) :
        ((respFeed rs).run (is ++ List.replicate
          (RouteInv.weight ((respFeed rs).run is) cur u) .go)).stream p = [] := by
      have hacc := (hrest.2 p).2
      rw [RespFeed.accepts_eq, h'.forwarded_eq (hrest.2 p).1, hf] at hacc
      simpa [RespFeedIn.go] using hacc
    rcases h'.rest_cases hrest with hidle | ⟨p, -, hf, hl⟩
    · intro p
      obtain ⟨hcur, hv, hs, hf⟩ := hidle p
      rw [hempty p hf] at hs
      refine ⟨hcur, ?_, hempty p hf, hv⟩
      cases hu : u' p with
      | nil => rfl
      | cons r u => rw [hu] at hs; exact absurd hs (List.cons_ne_nil _ _).symm
    · rw [hempty p hf] at hl
      exact absurd hl (Nat.not_lt_zero _)

/-- All responses come out once everything is on offer. -/
theorem resp_delivered (good : ∀ p, ∀ r ∈ rs p, r.isWriteFail = false) (is : List RespFeedIn) :
    ∃ n m, Interleave (rs .port0) (rs .port1) m ∧
      respOut rs (is ++ List.replicate n .go) = hostBeats m := by
  obtain ⟨n, cur, a, u, m, h, hrest, hend⟩ := resp_settles good is
  refine ⟨n, m, ?_, ?_⟩
  · rw [h.split .port0, h.split .port1, (hend .port0).2.1, (hend .port1).2.1, List.append_nil,
      List.append_nil]
    exact h.order
  · have hb := h.beats .port0 (hend _).1
    rw [hrest.1, (hend _).1, List.append_nil] at hb
    exact (List.append_nil _).symm.trans hb

/-- Nothing that has been taken is held back by anything but the data of a response before it. -/
theorem resp_not_held_back (good : ∀ p, ∀ r ∈ rs p, r.isWriteFail = false)
    (is : List RespFeedIn) : ∃ (a : Port → List NetResp) (m : List NetResp),
    (∀ p, a p <+: rs p) ∧ Interleave (a .port0) (a .port1) m ∧
    let out := respOut rs (is ++ List.replicate 22 .drain)
    (out = hostBeats m ∧ ∀ p, respTaken rs p is = respStream (a p)) ∨
      ∃ p b m' r, a p = b ++ [r] ∧ m = m' ++ [r] ∧
        (respStream b).length < (respTaken rs p is).length ∧
        (respTaken rs p is).length < (respStream (a p)).length ∧
        hostBeats m' <+: out ∧ out <+: hostBeats m := by
  obtain ⟨cur₀, a₀, u₀, m₀, h₀⟩ := RouteInv.run good is
  set s₀ := (respFeed rs).run is with hs₀
  have hlen (s : RespFeed) (out cur a u m) (h : RouteInv rs s out cur a u m) (p : Port) :=
    (h.shape p).length_le
  obtain ⟨cur, a, u, m, h, hrest, hK⟩ := RouteInv.settle good .drain rfl
    (fun s => s.stream = s₀.stream)
    (3 * ((s₀.stream .port0).length + (s₀.stream .port1).length))
    (fun s hs => by rw [← hs]; rfl)
    (fun s out cur a u m h hs => by
      have h0 := (hlen s out cur a u m h .port0).1
      have h1 := (hlen s out cur a u m h .port1).1
      rw [hs] at h0 h1
      rw [RouteInv.weight, hs]
      omega) 22 h₀ rfl
    (by
      have h0 := (hlen s₀ _ cur₀ a₀ u₀ m₀ h₀ .port0).2
      have h1 := (hlen s₀ _ cur₀ a₀ u₀ m₀ h₀ .port1).2
      have hq := s₀.ingress.out.queue_length_le
      rw [RouteInv.weight]
      omega)
  have hout : respOut rs (is ++ List.replicate 22 .drain)
      = ((respFeed rs).collect RespFeed.emits is ++ (respFeed rs).collectFrom RespFeed.emits s₀
        (List.replicate 22 .drain)).map RespFlit.beat := by
    rw [respOut, Machine.collect, Machine.collectFrom_append]
    rfl
  have htaken (p : Port) : respTaken rs p is ++ s₀.stream p
      = respStream (a p) ++ respStream (u p) := by
    rw [← respStream_append, ← h.split]
    exact respTaken_append_stream rs p is
  refine ⟨a, m, fun p => ⟨u p, (h.split p).symm⟩, h.order, ?_⟩
  have hb := fun p => h.beats p
  simp only [hrest.1, List.append_nil, ← hout] at hb
  rcases h.rest_cases hrest with hidle | ⟨p, hp, -, hl⟩
  · refine .inl ⟨?_, fun p => ?_⟩
    · simpa [(hidle _).1, pendingBeats] using hb .port0 (hidle _).1
    · have ht := htaken p
      rw [← hK, (hidle p).2.2.1] at ht
      exact List.append_cancel_right ht
  · obtain ⟨ho, b, m', r, ha, hm, hcur, rest, hsuf⟩ := h.lock p hp
    have htl := congrArg List.length (htaken p)
    have hle := (hlen _ _ _ _ _ _ h p).1
    have hal : (respStream (a p)).length = (respStream b).length + (1 + r.data.length) := by
      rw [ha]
      simp [Nat.add_comm]
    rw [hK] at hl hle
    simp only [List.length_append] at htl hle
    have hbp := hb p ho
    rw [hm, hostBeats_append, hostBeats_singleton, ← hsuf, ← List.append_assoc] at hbp
    have hbp' := List.append_cancel_right hbp
    refine .inr ⟨p, b, m', r, ha, hm, by omega, by omega, ?_, ?_⟩
    · rw [hbp']
      exact List.prefix_append _ _
    · rw [← hb p ho]
      exact List.prefix_append _ _

end Good

/-! ## A failed write -/

/-- The module with more flits at the end of the streams. -/
def RespFeed.extend (s : RespFeed) (x : Port → List Flit) : RespFeed :=
  { s with stream := fun p => s.stream p ++ x p }

/-- The same timing, with nothing on offer where a stream has ended. -/
def RespFeedIn.within (i : RespFeedIn) (s : RespFeed) : RespFeedIn :=
  { i with offer := fun p => i.offer p && !(s.stream p).isEmpty }

lemma accepts_within (s : RespFeed) (x : Port → List Flit) (i : RespFeedIn) (p : Port) :
    (s.extend x).accepts (i.within s) p = s.accepts i p := by
  simp only [RespFeed.accepts_eq]
  cases hs : s.stream p <;> simp [RespFeed.extend, RespFeedIn.within, hs]

/-- Later flits of the streams have no effect on what comes before them. -/
lemma step_within (s : RespFeed) (x : Port → List Flit) (i : RespFeedIn) :
    (s.extend x).step (i.within s) = (s.step i).extend x := by
  have hports : ((s.extend x).step (i.within s)).ingress.ports = (s.step i).ingress.ports := by
    funext p
    rw [RespFeed.ports_step, RespFeed.ports_step, accepts_within]
    split_ifs with hacc
    · rw [RespFeed.accepts_eq] at hacc
      cases hs : s.stream p with
      | nil => simp [hs] at hacc
      | cons f q => simp [RespFeed.extend, hs]
    · rfl
  have hstream : ((s.extend x).step (i.within s)).stream = ((s.step i).extend x).stream := by
    funext p
    change (if (s.extend x).accepts (i.within s) p then (s.stream p ++ x p).tail
        else s.stream p ++ x p)
      = (if s.accepts i p then (s.stream p).tail else s.stream p) ++ x p
    rw [accepts_within]
    split_ifs with hacc
    · rw [RespFeed.accepts_eq] at hacc
      cases hs : s.stream p with
      | nil => simp [hs] at hacc
      | cons f q => rfl
    · rfl
  unfold RespFeed.step RespFeed.extend ComputeIngress.step at *
  simp only [RespFeed.mk.injEq, ComputeIngress.mk.injEq] at *
  exact ⟨⟨hports, trivial, rfl⟩, hstream⟩

/-- A run of the shorter streams is a run of the longer ones. -/
lemma run_extend (rs rs' : Port → List NetResp) (s : RespFeed) (x : Port → List Flit)
    (is : List RespFeedIn) : ∃ js,
    (respFeed rs').runFrom (s.extend x) js = ((respFeed rs).runFrom s is).extend x ∧
    (respFeed rs').collectFrom RespFeed.emits (s.extend x) js
      = (respFeed rs).collectFrom RespFeed.emits s is := by
  induction is generalizing s with
  | nil => exact ⟨[], rfl, rfl⟩
  | cons i is ih =>
      obtain ⟨js, hrun, hout⟩ := ih (s.step i)
      refine ⟨i.within s :: js, ?_, ?_⟩
      · rw [Machine.runFrom_cons]
        exact (congrArg (fun s => (respFeed rs').runFrom s js) (step_within s x i)).trans hrun
      · rw [Machine.collectFrom, Machine.collectFrom]
        refine congrArg₂ (· ++ ·) rfl ?_
        exact (congrArg (fun s => (respFeed rs').collectFrom RespFeed.emits s js)
          (step_within s x i)).trans hout

/-- The port holds a command that it takes for one with data, and no data. -/
structure PortRegs.Starved (r : PortRegs) : Prop where
  data0 : r.dataflit0l.vld = false
  data1 : r.dataflit1l.vld = false
  sm : r.port_sm = .CMD ∧ r.cmdflit.vld = true ∧ isRespROK r.cmdflit.q = true ∨ r.port_sm = .DFLIT0

/-- The port holds nothing. -/
structure PortRegs.Idle (r : PortRegs) : Prop where
  data0 : r.dataflit0l.vld = false
  data1 : r.dataflit1l.vld = false
  sm : r.port_sm = .CMD
  cmd : r.cmdflit.vld = false

/-- Port `p` waits for data and nothing is on its way out. -/
structure RespFeed.Wedged (s : RespFeed) (p : Port) : Prop where
  starved : (s.ingress.ports p).Starved
  idle : (s.ingress.ports p.other).Idle
  queue : s.ingress.out.queue = []
  ok : s.ingress.out.Ok

lemma PortRegs.Idle.forward {r : PortRegs} (h : r.Idle) (PORT sel other : BitVec 2)
    (ready : Bool) :
    r.fwdCmd PORT sel other ready = false ∧ r.fwdData0 PORT ready = false ∧
      r.fwdData1 PORT ready = false ∧ (PortRegs.forward r PORT sel other ready).Idle := by
  obtain ⟨h0, h1, hm, hv⟩ := h
  refine ⟨?_, ?_, ?_, ⟨?_, ?_, ?_, ?_⟩⟩ <;>
    simp [PortRegs.forward, fwdCmd, fwdData0, fwdData1, nextPort, h0, h1, hm, hv]

lemma PortRegs.Starved.forward {r : PortRegs} (h : r.Starved) (PORT sel other : BitVec 2)
    (ready : Bool) :
    r.fwdData0 PORT ready = false ∧ r.fwdData1 PORT ready = false ∧
      (r.fwdCmd PORT sel other ready = true → isRespROK r.cmdflit.q = true) ∧
      (PortRegs.forward r PORT sel other ready).Starved := by
  obtain ⟨h0, h1, ⟨hm, hv, hk⟩ | hm⟩ := h
  · refine ⟨?_, ?_, fun _ => hk, ⟨?_, ?_, ?_⟩⟩ <;>
      cases hc : r.fwdCmd PORT sel other ready <;>
      simp [PortRegs.forward, fwdData0, fwdData1, nextPort, h0, h1, hm, hv, hk, hc]
  · refine ⟨?_, ?_, ?_, ⟨?_, ?_, ?_⟩⟩ <;>
      simp [PortRegs.forward, fwdCmd, fwdData0, fwdData1, nextPort, h0, h1, hm]

/-- Without a further flit a wedged module hands nothing over, ever. -/
lemma wedged_step {s : RespFeed} {p : Port} (h : s.Wedged p) :
    (s.step .drain).Wedged p ∧ RespFeed.emits s .drain = [] := by
  obtain ⟨hstarved, hidle, hqueue, hok⟩ := h
  obtain ⟨h0, h1, hk, hs⟩ := hstarved.forward p.id s.ingress.outportid_cmd
    (s.ingress.ports p.other).outportid_data s.ingress.out.ready
  obtain ⟨hc', h0', h1', hi⟩ := hidle.forward p.other.id s.ingress.outportid_cmd
    (s.ingress.ports p.other.other).outportid_data s.ingress.out.ready
  have hemit := PingPong.emits_length hok true
  rw [hqueue] at hemit
  have hemit' : RespFeed.emits s .drain = [] :=
    List.eq_nil_of_length_eq_zero (hemit.trans rfl)
  have hports (x : Port) : (s.step .drain).ingress.ports x = s.ingress.forwarded x := by
    rw [s.ports_step, s.accepts_eq]
    rfl
  have hout : (s.step .drain).ingress.out = s.ingress.portOut p true :=
    s.ingress.nextOut_eq ⟨hc', h0', h1'⟩ _
  suffices hgoal : (s.step .drain).ingress.out.queue = [] ∧ (s.step .drain).ingress.out.Ok from
    ⟨⟨by rw [hports]; exact hs, by rw [hports]; exact hi, hgoal.1, hgoal.2⟩, hemit'⟩
  rw [hout, ComputeIngress.portOut]
  have hnil : s.ingress.out.emits true = [] := hemit'
  cases hc : s.ingress.fwdCmd p with
  | true =>
      -- the header is written, but does not count as a beat
      have hready := PingPong.ready_of_queue_eq_nil hqueue
      rw [hk hc]
      obtain ⟨hok', hq, -⟩ := PingPong.queue_write hok hready
        (.setCmd (s.ingress.ports p).cmdflit.q) false true
      rw [hnil, hqueue] at hq
      exact ⟨hq, hok'⟩
  | false =>
      obtain ⟨hok', hq, -⟩ := PingPong.queue_hold hok true
      rw [hnil, hqueue] at hq
      have hd0 : s.ingress.fwdData0 p = false := h0
      have hd1 : s.ingress.fwdData1 p = false := h1
      rw [hd0, hd1]
      exact ⟨hq, hok'⟩

lemma wedged_drain {rs : Port → List NetResp} {s : RespFeed} {p : Port} (h : s.Wedged p) (n : ℕ) :
    (respFeed rs).collectFrom RespFeed.emits s (List.replicate n .drain) = [] := by
  induction n generalizing s with
  | zero => rfl
  | succ n ih =>
      obtain ⟨hstep, hemit⟩ := wedged_step h
      rw [List.replicate_succ, Machine.collectFrom, hemit]
      exact ih hstep

/-- A failed write that is taken into an empty module wedges it. -/
lemma wedged_of_writeFail {rs : Port → List NetResp} {s : RespFeed} {out : List RespFlit}
    {cur : Port → List Flit} {a u : Port → List NetResp} {m : List NetResp}
    (h : RouteInv rs s out cur a u m) (hrest : s.Rest .go) (p : Port) (x : Port → List Flit)
    (hend : ∀ p, cur p = [] ∧ u p = [] ∧ s.stream p = [] ∧
      (s.ingress.ports p).cmdflit.vld = false) {wf : NetResp} (hwf : wf.isWriteFail = true)
    {q : List Flit} (hx : x p = wf.hdr :: q) :
    let i : RespFeedIn := ⟨fun y => y = p, true⟩
    ((s.extend x).step i).Wedged p ∧ RespFeed.emits (s.extend x) i = [] ∧
      RespFeed.taken p (s.extend x) i = [wf.hdr] ∧
      RespFeed.taken p.other (s.extend x) i = [] := by
  intro i
  have hshape (y : Port) : PortShape y.id (s.ingress.ports y) [] (u y) (s.stream y) := by
    rw [← (hend y).1]
    exact h.shape y
  have hidle (y : Port) : (s.ingress.ports y).Idle :=
    ⟨((hshape y).idle_regs (hend y).2.2.2).2.1, ((hshape y).idle_regs (hend y).2.2.2).2.2,
      (hshape y).cmd_or_idle.1, (hend y).2.2.2⟩
  have hin := ((hshape p).idle_regs (hend p).2.2.2).1
  have hfree : (s.ingress.ports p).free = true := by
    rw [PortRegs.free, hin]
    simp [(hend p).2.2.2]
  have hfwd (y : Port) : (s.extend x).ingress.forwarded y = s.ingress.ports y :=
    h.forwarded_eq (hrest.2 y).1
  have hacc : (s.extend x).accepts i p = true := by
    rw [RespFeed.accepts_eq, hfwd, hfree]
    simp [i, RespFeed.extend, (hend p).2.2.1, hx]
  have hacc' : (s.extend x).accepts i p.other = false := by
    rw [RespFeed.accepts_eq]
    simp [i, p.other_ne]
  have hhead : ((s.extend x).stream p).headD 0 = wf.hdr := by
    simp [RespFeed.extend, (hend p).2.2.1, hx]
  have hok : isRespROK (.transcode wf.hdr) = true := by
    rw [isRespROK_transcode, hwf, Bool.or_true]
  have hemit := PingPong.emits_length h.queued true
  rw [hrest.1] at hemit
  have hout : ((s.extend x).step i).ingress.out = s.ingress.out.hold true := by
    obtain ⟨hc, h0, h1⟩ := (hrest.2 p).1
    have : ((s.extend x).step i).ingress.out = s.ingress.portOut p true :=
      s.ingress.nextOut_eq (hrest.2 p.other).1 _
    rw [this, ComputeIngress.portOut, hc, h0, h1]
    rfl
  refine ⟨⟨?_, ?_, ?_, ?_⟩, List.eq_nil_of_length_eq_zero (hemit.trans rfl), ?_, ?_⟩
  · rw [RespFeed.ports_step, hacc, if_pos rfl, hfwd, hhead, PortRegs.load, hin]
    exact ⟨(hidle p).data0, (hidle p).data1, .inl ⟨(hidle p).sm, rfl, hok⟩⟩
  · rw [RespFeed.ports_step, hacc', if_neg Bool.false_ne_true, hfwd]
    exact hidle _
  · rw [hout, PingPong.hold_eq hrest.1]
    exact hrest.1
  · rw [hout, PingPong.hold_eq hrest.1]
    exact h.queued
  · rw [RespFeed.taken, hacc, if_pos rfl, hhead]
  · rw [RespFeed.taken, hacc', if_neg Bool.false_ne_true]

/-- A failed write has no data. -/
lemma NetResp.data_of_writeFail {r : NetResp} (h : r.isWriteFail = true) : r.data = [] := by
  cases r with
  | readOk f a b c d k => simp [NetResp.isWriteFail, NetResp.hdr, k] at h
  | short f k => rfl

/-- The order in which one port alone starts its responses. -/
lemma order_only {a : Port → List NetResp} {m : List NetResp}
    (h : Interleave (a .port0) (a .port1) m) (p : Port) (ho : a p.other = []) : m = a p := by
  cases p
  · have ho' : a .port1 = [] := ho
    rw [ho'] at h
    exact h.eq_left
  · have ho' : a .port0 = [] := ho
    rw [ho'] at h
    exact h.eq_right

/-- A longer beginning of a sequence of responses has more flits. -/
lemma respStream_length_lt {rs a b : List NetResp} (ha : a <+: rs) (hb : b <+: rs)
    (h : a.length < b.length) : (respStream a).length < (respStream b).length := by
  obtain ⟨c, rfl⟩ := List.prefix_of_prefix_length_le ha hb h.le
  cases c with
  | nil => simp at h
  | cons r c => simp

/-- The first failed write of a stream. -/
lemma first_writeFail {rs : List NetResp} {r : NetResp} (hr : r ∈ rs)
    (hwf : r.isWriteFail = true) : ∃ pre wf post, rs = pre ++ wf :: post ∧
      wf.isWriteFail = true ∧ ∀ x ∈ pre, x.isWriteFail = false := by
  have hf : (rs.find? NetResp.isWriteFail).isSome := List.find?_isSome.mpr ⟨r, hr, hwf⟩
  obtain ⟨wf, hfind⟩ := Option.isSome_iff_exists.mp hf
  obtain ⟨hwf', pre, post, hrs, hpre⟩ := List.find?_eq_some_iff_append.mp hfind
  exact ⟨pre, wf, post, hrs, hwf', by simpa using hpre⟩

/-- A run that takes a failed write, and nothing behind it, and hands over what precedes it only,
however long the host side waits. -/
lemma writeFail_run {rs : Port → List NetResp} {p : Port} {pre post : List NetResp} {wf : NetResp}
    (hrs : rs p = pre ++ wf :: post) (hwf : wf.isWriteFail = true)
    (hpre : ∀ x ∈ pre, x.isWriteFail = false) : ∃ is,
    respTaken rs p is = respStream (pre ++ [wf]) ∧ respTaken rs p.other is = [] ∧
      ∀ n, respOut rs (is ++ List.replicate n .drain) = hostBeats pre := by
  -- the port sees the responses before it, the other port sees nothing
  let rs' : Port → List NetResp := fun x => if x = p then pre else []
  have good : ∀ x, ∀ r ∈ rs' x, r.isWriteFail = false := by
    intro x r hr
    by_cases hx : x = p
    · exact hpre r (by simpa [rs', hx] using hr)
    · simp [rs', hx] at hr
  let x : Port → List Flit := fun y => if y = p then respStream (wf :: post) else respStream (rs y)
  have hinit : ((respFeed rs').init).extend x = (respFeed rs).init := by
    refine congrArg (RespFeed.mk _) (funext fun y => ?_)
    by_cases hy : y = p
    · subst hy
      simp [rs', x, respFeed, hrs]
    · simp [rs', x, hy, respFeed]
  obtain ⟨n, cur, a, u, m, h, hrest, hend⟩ := resp_settles good []
  obtain ⟨js, hrun, hout⟩ := run_extend rs' rs (respFeed rs').init x
    ([] ++ List.replicate n .go)
  rw [hinit] at hrun hout
  have ha (y : Port) : a y = rs' y := by rw [h.split y, (hend y).2.1, List.append_nil]
  have hm : m = pre := by
    rw [order_only h.order p (by rw [ha]; simp [rs', p.other_ne]), ha]
    simp [rs']
  have hbeats : respOut rs js = hostBeats pre := by
    have hb := h.beats .port0 (hend _).1
    rw [hrest.1, (hend _).1, List.append_nil, hm] at hb
    rw [respOut, Machine.collect, hout]
    exact (List.append_nil _).symm.trans hb
  -- then it sees the failed write
  obtain ⟨hwedged, hemit, htaken, htaken'⟩ := wedged_of_writeFail h hrest p x
    (fun y => ⟨(hend y).1, (hend y).2.1, (hend y).2.2.1, (hend y).2.2.2⟩) hwf
    (show x p = wf.hdr :: (wf.data ++ respStream post) by simp [x])
  have hrun' : (respFeed rs).run js
      = ((respFeed rs').run ([] ++ List.replicate n .go)).extend x := hrun
  rw [← hrun'] at hwedged hemit htaken htaken'
  have hstream (y : Port) : respTaken rs y js ++ x y = respStream (rs y) := by
    have ht := respTaken_append_stream rs y js
    rw [hrun'] at ht
    change _ ++ (((respFeed rs').run ([] ++ List.replicate n .go)).stream y ++ x y) = _ at ht
    rwa [(hend y).2.2.1, List.nil_append] at ht
  refine ⟨js ++ [⟨fun y => y = p, true⟩], ?_, ?_, fun k => ?_⟩
  · have ht := hstream p
    rw [hrs, respStream_append] at ht
    have ht' : respTaken rs p js = respStream pre :=
      List.append_cancel_right (ht.trans (by simp [x]))
    rw [respTaken, Machine.collect_concat, htaken, ← respTaken, ht']
    simp [NetResp.data_of_writeFail hwf]
  · have ht := hstream p.other
    have hx : x p.other = respStream (rs p.other) := by simp [x, p.other_ne]
    rw [hx, List.append_left_eq_self] at ht
    rw [respTaken, Machine.collect_concat, htaken', ← respTaken, ht, List.nil_append]
  · rw [respOut, Machine.collect, Machine.collectFrom_append, ← Machine.run, ← Machine.collect,
      Machine.collect_concat, hemit, Machine.run_concat]
    have hw : (respFeed rs).collectFrom RespFeed.emits ((respFeed rs).step ((respFeed rs).run js)
        ⟨fun y => y = p, true⟩) (List.replicate k .drain) = [] := wedged_drain hwedged k
    rw [hw, List.append_nil, List.append_nil]
    exact hbeats

/-- **A failed write is never handed over.**  No pair of streams with one is routed as
expected. -/
lemma not_respRouted_of_writeFail {rs : Port → List NetResp} {p : Port} {r : NetResp}
    (hr : r ∈ rs p) (hwf : r.isWriteFail = true) : ¬ RespRouted rs := by
  intro hroute
  obtain ⟨pre, wf, post, hrs, hwf', hpre⟩ := first_writeFail hr hwf
  obtain ⟨is, htaken, htaken', hout⟩ := writeFail_run hrs hwf' hpre
  have hpw : pre ++ [wf] <+: rs p := ⟨post, by rw [hrs]; simp⟩
  obtain ⟨a, m, ha, horder, ⟨hb, ht⟩ | ⟨x, b, m', r', hax, -, hlo, hhi, -⟩⟩ :=
    hroute.not_held_back is
  · -- everything that has been taken would be out
    have hap : (a p).length = (pre ++ [wf]).length := by
      have heq : (respStream (a p)).length = (respStream (pre ++ [wf])).length := by
        rw [← ht, htaken]
      rcases lt_trichotomy (a p).length (pre ++ [wf]).length with hlt | h | hlt
      · exact absurd (respStream_length_lt (ha p) hpw hlt) (by omega)
      · exact h
      · exact absurd (respStream_length_lt hpw (ha p) hlt) (by omega)
    have hap' : a p = pre ++ [wf] :=
      (List.prefix_of_prefix_length_le (ha p) hpw hap.le).eq_of_length hap
    have hao : a p.other = [] := by
      have hto := ht p.other
      rw [htaken'] at hto
      cases hc : a p.other with
      | nil => rfl
      | cons r u => rw [hc] at hto; exact absurd hto (List.cons_ne_nil _ _).symm
    have hm : m = pre ++ [wf] := (order_only horder p hao).trans hap'
    rw [hout, hm, hostBeats_append] at hb
    have hlen := congrArg List.length hb
    cases wf <;> simp [NetResp.beats] at hlen
  · -- no response has been taken in part
    obtain rfl | rfl := p.eq_or_eq_other x
    · rw [htaken] at hlo hhi
      have hbx : b <+: rs x := (List.prefix_append b [r']).trans (hax ▸ ha x)
      rcases Nat.lt_or_ge b.length (pre ++ [wf]).length with hlt | hge
      · rcases Nat.lt_or_ge (pre ++ [wf]).length (a x).length with hlt' | hge'
        · simp only [hax, List.length_append, List.length_singleton] at hlt hlt'
          omega
        · obtain ⟨c, hc⟩ := List.prefix_of_prefix_length_le (ha x) hpw hge'
          rw [← hc, respStream_append, List.length_append] at hhi
          omega
      · obtain ⟨c, hc⟩ := List.prefix_of_prefix_length_le hpw hbx hge
        rw [← hc, respStream_append, List.length_append] at hlo
        omega
    · rw [htaken'] at hlo
      exact absurd hlo (Nat.not_lt_zero _)

/-- **Response routing.**  The module routes two streams of responses as expected if and only if
none of them contains a failed write. -/
theorem respRouted_iff (rs : Port → List NetResp) :
    RespRouted rs ↔ ∀ p, ∀ r ∈ rs p, r.isWriteFail = false := by
  constructor
  · intro h p r hr
    by_contra hwf
    exact not_respRouted_of_writeFail hr (eq_true_of_ne_false hwf) h
  · intro good
    exact ⟨resp_in_order good, resp_delivered good, resp_not_held_back good⟩

/-- A failed write with all other fields zero. -/
def oneWriteFail : NetResp := .short (setField 0 248 (0x09 : BitVec 8)) (by decide)

/-- One failed write on port 0 and nothing else: its opcode becomes 0x05, bit 0 of which the
output state machine takes for the sign of a READ OK. -/
theorem writeFail_not_routed :
    ¬ RespRouted (fun p => if p = .port0 then [oneWriteFail] else []) :=
  not_respRouted_of_writeFail (p := .port0) (r := oneWriteFail) (by simp) (by decide)

end ThymesisFlow
