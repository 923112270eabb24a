import ThymesisFlow.Routing.ComputeIngress

/-!
# What a response port holds

`PortShape` lists the configurations a port can be in: the two state machines, the five registers
and the place of their contents in the stream of the port.  Every later fact about a port is read
off it: what a forward hands over (`fwdCmd`, `fwdData0`, `fwdData1`), that a load keeps it
(`load`), and that a port which cannot forward is waiting for the next flit of its stream.
-/

namespace ThymesisFlow

/-! ## The responses of a port -/

/-- A complete response of the network: a READ OK with its data, or one of the three others. -/
inductive NetResp
  | readOk (hdr d0h d0l d1h d1l : Flit) (known : netOpcode hdr = 0x04)
  | short (hdr : Flit) (known : netOpcode hdr ∈ [0x05, 0x08, 0x09])

namespace NetResp

def hdr : NetResp → Flit
  | readOk h .. => h
  | short h _ => h

/-- The data flits. -/
def data : NetResp → List Flit
  | readOk _ a b c d _ => [a, b, c, d]
  | short .. => []

/-- The response on the network. -/
def flits (r : NetResp) : List Flit := r.hdr :: r.data

/-- A failed write. -/
def isWriteFail (r : NetResp) : Bool := netOpcode r.hdr = 0x09

end NetResp

/-- A stream of responses on the network. -/
def respStream (rs : List NetResp) : List Flit := rs.flatMap NetResp.flits

@[simp] lemma respStream_nil : respStream [] = [] := rfl

@[simp] lemma respStream_cons (r : NetResp) (rs : List NetResp) :
    respStream (r :: rs) = r.hdr :: (r.data ++ respStream rs) := rfl

@[simp] lemma respStream_append (rs rs' : List NetResp) :
    respStream (rs ++ rs') = respStream rs ++ respStream rs' := List.flatMap_append

lemma bit_opcode (f : Flit) {i : ℕ} (hi : i < 8) : bit f (248 + i) = (netOpcode f).getLsbD i := by
  simp [netOpcode, hi, bit, -BitVec.getLsbD_eq_getElem]

/-- The transcoding depends on the opcode only. -/
lemma transcodeOpcode_eq (f : Flit) :
    transcodeOpcode f = 0#5 ++ BitVec.ofBool ((netOpcode f).getLsbD 3)
      ++ BitVec.ofBool ((netOpcode f).getLsbD 2 && (netOpcode f).getLsbD 0)
      ++ BitVec.ofBool (((netOpcode f).getLsbD 2 && !(netOpcode f).getLsbD 0)
        || ((netOpcode f).getLsbD 3 && (netOpcode f).getLsbD 0)) := by
  rw [transcodeOpcode, ← bit_opcode f (by decide : 3 < 8), ← bit_opcode f (by decide : 2 < 8),
    ← bit_opcode f (by decide : 0 < 8)]

/-- The four opcodes as the host sees them. -/
theorem transcodeOpcode_table (f : Flit) :
    (netOpcode f = 0x04 → transcodeOpcode f = 0x01) ∧
    (netOpcode f = 0x05 → transcodeOpcode f = 0x02) ∧
    (netOpcode f = 0x08 → transcodeOpcode f = 0x04) ∧
    (netOpcode f = 0x09 → transcodeOpcode f = 0x05) := by
  refine ⟨?_, ?_, ?_, ?_⟩ <;> intro h <;> rw [transcodeOpcode_eq, h] <;> decide

/-- What the network opcode says about data. -/
lemma isRespROKIn_hdr (r : NetResp) : isRespROKIn r.hdr = !r.data.isEmpty := by
  have h : isRespROKIn r.hdr
      = ((netOpcode r.hdr).getLsbD 2 && !(netOpcode r.hdr).getLsbD 0) := by
    rw [isRespROKIn, ← bit_opcode _ (by decide : 2 < 8), ← bit_opcode _ (by decide : 0 < 8)]
  rw [h]
  cases r with
  | readOk hdr a b c d known => simp only [NetResp.hdr, known]; rfl
  | short hdr known =>
      simp only [List.mem_cons, List.not_mem_nil, or_false] at known
      rcases known with known | known | known <;> simp only [NetResp.hdr, known] <;> rfl

/-- What the transcoded opcode says about data: the same, except for a failed write. -/
lemma isRespROK_transcode (r : NetResp) :
    isRespROK (.transcode r.hdr) = (!r.data.isEmpty || r.isWriteFail) := by
  rw [isRespROK, RespHdr.transcode]
  cases r with
  | readOk hdr a b c d known =>
      rw [NetResp.hdr, (transcodeOpcode_table hdr).1 known]
      simp [NetResp.data, bit]
  | short hdr known =>
      obtain ⟨-, t5, t8, t9⟩ := transcodeOpcode_table hdr
      simp only [List.mem_cons, List.not_mem_nil, or_false] at known
      rcases known with known | known | known
      · simp only [NetResp.hdr, NetResp.isWriteFail, t5 known, known]; rfl
      · simp only [NetResp.hdr, NetResp.isWriteFail, t8 known, known]; rfl
      · simp only [NetResp.hdr, NetResp.isWriteFail, t9 known, known]; rfl

/-! ## The configurations -/

/-- `PortShape PORT p cur u q`: the port has started all responses of its stream but `u`, has
still to forward the data `cur` of the response it started last, and the flits `q` of its stream
have still to arrive.  The names say the state of the output and how many data flits of which
response are in the registers. -/
inductive PortShape (PORT : BitVec 2) :
    PortRegs → List Flit → List NetResp → List Flit → Prop
  | idle {h : RespHdr} {a b c d : Flit} {u : List NetResp} :
      PortShape PORT ⟨⟨h, false⟩, ⟨a, false⟩, ⟨b, false⟩, ⟨c, false⟩, ⟨d, false⟩,
        .PORT_CMD, .CMD, 0⟩ [] u (respStream u)
  | cmdShort {f : Flit} {k} {a b c d : Flit} {u : List NetResp}
      (ok : isRespROK (.transcode f) = false) :
      PortShape PORT ⟨⟨.transcode f, true⟩, ⟨a, false⟩, ⟨b, false⟩, ⟨c, false⟩, ⟨d, false⟩,
        .PORT_CMD, .CMD, 0⟩ [] (.short f k :: u) (respStream u)
  | cmd0 {f f1 f2 f3 f4 : Flit} {k} {a b c d : Flit} {u : List NetResp} :
      PortShape PORT ⟨⟨.transcode f, true⟩, ⟨a, false⟩, ⟨b, false⟩, ⟨c, false⟩, ⟨d, false⟩,
        .PORT_DATA0_H, .CMD, 0⟩ [] (.readOk f f1 f2 f3 f4 k :: u)
        (f1 :: f2 :: f3 :: f4 :: respStream u)
  | cmd1 {f f1 f2 f3 f4 : Flit} {k} {b c d : Flit} {u : List NetResp} :
      PortShape PORT ⟨⟨.transcode f, true⟩, ⟨f1, true⟩, ⟨b, false⟩, ⟨c, false⟩, ⟨d, false⟩,
        .PORT_DATA0_L, .CMD, 0⟩ [] (.readOk f f1 f2 f3 f4 k :: u)
        (f2 :: f3 :: f4 :: respStream u)
  | cmd2 {f f1 f2 f3 f4 : Flit} {k} {c d : Flit} {u : List NetResp} :
      PortShape PORT ⟨⟨.transcode f, true⟩, ⟨f1, true⟩, ⟨f2, true⟩, ⟨c, false⟩, ⟨d, false⟩,
        .PORT_DATA1_H, .CMD, 0⟩ [] (.readOk f f1 f2 f3 f4 k :: u) (f3 :: f4 :: respStream u)
  | cmd3 {f f1 f2 f3 f4 : Flit} {k} {d : Flit} {u : List NetResp} :
      PortShape PORT ⟨⟨.transcode f, true⟩, ⟨f1, true⟩, ⟨f2, true⟩, ⟨f3, true⟩, ⟨d, false⟩,
        .PORT_DATA1_L, .CMD, 0⟩ [] (.readOk f f1 f2 f3 f4 k :: u) (f4 :: respStream u)
  | cmd4 {f f1 f2 f3 f4 : Flit} {k} {u : List NetResp} :
      PortShape PORT ⟨⟨.transcode f, true⟩, ⟨f1, true⟩, ⟨f2, true⟩, ⟨f3, true⟩, ⟨f4, true⟩,
        .PORT_CMD, .CMD, 0⟩ [] (.readOk f f1 f2 f3 f4 k :: u) (respStream u)
  | first0 {h : RespHdr} {f1 f2 f3 f4 : Flit} {a b c d : Flit} {u : List NetResp} :
      PortShape PORT ⟨⟨h, false⟩, ⟨a, false⟩, ⟨b, false⟩, ⟨c, false⟩, ⟨d, false⟩,
        .PORT_DATA0_H, .DFLIT0, PORT⟩ [f1, f2, f3, f4] u
        (f1 :: f2 :: f3 :: f4 :: respStream u)
  | first1 {h : RespHdr} {f1 f2 f3 f4 : Flit} {b c d : Flit} {u : List NetResp} :
      PortShape PORT ⟨⟨h, false⟩, ⟨f1, true⟩, ⟨b, false⟩, ⟨c, false⟩, ⟨d, false⟩,
        .PORT_DATA0_L, .DFLIT0, PORT⟩ [f1, f2, f3, f4] u (f2 :: f3 :: f4 :: respStream u)
  | first2 {h : RespHdr} {f1 f2 f3 f4 : Flit} {c d : Flit} {u : List NetResp} :
      PortShape PORT ⟨⟨h, false⟩, ⟨f1, true⟩, ⟨f2, true⟩, ⟨c, false⟩, ⟨d, false⟩,
        .PORT_DATA1_H, .DFLIT0, PORT⟩ [f1, f2, f3, f4] u (f3 :: f4 :: respStream u)
  | first3 {h : RespHdr} {f1 f2 f3 f4 : Flit} {d : Flit} {u : List NetResp} :
      PortShape PORT ⟨⟨h, false⟩, ⟨f1, true⟩, ⟨f2, true⟩, ⟨f3, true⟩, ⟨d, false⟩,
        .PORT_DATA1_L, .DFLIT0, PORT⟩ [f1, f2, f3, f4] u (f4 :: respStream u)
  | first4 {h : RespHdr} {f1 f2 f3 f4 : Flit} {u : List NetResp} :
      PortShape PORT ⟨⟨h, false⟩, ⟨f1, true⟩, ⟨f2, true⟩, ⟨f3, true⟩, ⟨f4, true⟩,
        .PORT_CMD, .DFLIT0, PORT⟩ [f1, f2, f3, f4] u (respStream u)
  | first4Short {f f1 f2 f3 f4 : Flit} {k} {u : List NetResp}
      (ok : isRespROK (.transcode f) = false) :
      PortShape PORT ⟨⟨.transcode f, true⟩, ⟨f1, true⟩, ⟨f2, true⟩, ⟨f3, true⟩, ⟨f4, true⟩,
        .PORT_CMD, .DFLIT0, PORT⟩ [f1, f2, f3, f4] (.short f k :: u) (respStream u)
  | first4Read {f f1 f2 f3 f4 g1 g2 g3 g4 : Flit} {k} {u : List NetResp} :
      PortShape PORT ⟨⟨.transcode f, true⟩, ⟨f1, true⟩, ⟨f2, true⟩, ⟨f3, true⟩, ⟨f4, true⟩,
        .PORT_DATA0_H, .DFLIT0, PORT⟩ [f1, f2, f3, f4] (.readOk f g1 g2 g3 g4 k :: u)
        (g1 :: g2 :: g3 :: g4 :: respStream u)
  | last0 {h : RespHdr} {f3 f4 : Flit} {a b c d : Flit} {u : List NetResp} :
      PortShape PORT ⟨⟨h, false⟩, ⟨a, false⟩, ⟨b, false⟩, ⟨c, false⟩, ⟨d, false⟩,
        .PORT_DATA1_H, .DFLIT1, PORT⟩ [f3, f4] u (f3 :: f4 :: respStream u)
  | last1 {h : RespHdr} {f3 f4 : Flit} {a b d : Flit} {u : List NetResp} :
      PortShape PORT ⟨⟨h, false⟩, ⟨a, false⟩, ⟨b, false⟩, ⟨f3, true⟩, ⟨d, false⟩,
        .PORT_DATA1_L, .DFLIT1, PORT⟩ [f3, f4] u (f4 :: respStream u)
  | last2 {h : RespHdr} {f3 f4 : Flit} {a b : Flit} {u : List NetResp} :
      PortShape PORT ⟨⟨h, false⟩, ⟨a, false⟩, ⟨b, false⟩, ⟨f3, true⟩, ⟨f4, true⟩,
        .PORT_CMD, .DFLIT1, PORT⟩ [f3, f4] u (respStream u)
  | last2Short {f f3 f4 : Flit} {k} {a b : Flit} {u : List NetResp}
      (ok : isRespROK (.transcode f) = false) :
      PortShape PORT ⟨⟨.transcode f, true⟩, ⟨a, false⟩, ⟨b, false⟩, ⟨f3, true⟩, ⟨f4, true⟩,
        .PORT_CMD, .DFLIT1, PORT⟩ [f3, f4] (.short f k :: u) (respStream u)
  | last2Read0 {f f3 f4 g1 g2 g3 g4 : Flit} {k} {a b : Flit} {u : List NetResp} :
      PortShape PORT ⟨⟨.transcode f, true⟩, ⟨a, false⟩, ⟨b, false⟩, ⟨f3, true⟩, ⟨f4, true⟩,
        .PORT_DATA0_H, .DFLIT1, PORT⟩ [f3, f4] (.readOk f g1 g2 g3 g4 k :: u)
        (g1 :: g2 :: g3 :: g4 :: respStream u)
  | last2Read1 {f f3 f4 g1 g2 g3 g4 : Flit} {k} {b : Flit} {u : List NetResp} :
      PortShape PORT ⟨⟨.transcode f, true⟩, ⟨g1, true⟩, ⟨b, false⟩, ⟨f3, true⟩, ⟨f4, true⟩,
        .PORT_DATA0_L, .DFLIT1, PORT⟩ [f3, f4] (.readOk f g1 g2 g3 g4 k :: u)
        (g2 :: g3 :: g4 :: respStream u)
  | last2Read2 {f f3 f4 g1 g2 g3 g4 : Flit} {k} {u : List NetResp} :
      PortShape PORT ⟨⟨.transcode f, true⟩, ⟨g1, true⟩, ⟨g2, true⟩, ⟨f3, true⟩, ⟨f4, true⟩,
        .PORT_DATA1_H, .DFLIT1, PORT⟩ [f3, f4] (.readOk f g1 g2 g3 g4 k :: u)
        (g3 :: g4 :: respStream u)

namespace PortRegs

/-! ## A cycle is a forward and then a load -/

/-- The registers after the forwards of a cycle. -/
def forward (p : PortRegs) (PORT outportid_cmd other_data : BitVec 2) (ping_pong_ready : Bool) :
    PortRegs :=
  let c := p.fwdCmd PORT outportid_cmd other_data ping_pong_ready
  let d0 := p.fwdData0 PORT ping_pong_ready
  let d1 := p.fwdData1 PORT ping_pong_ready
  { p with
    cmdflit := ⟨p.cmdflit.q, p.cmdflit.vld && !c⟩
    dataflit0h := ⟨p.dataflit0h.q, p.dataflit0h.vld && !d0⟩
    dataflit0l := ⟨p.dataflit0l.q, p.dataflit0l.vld && !d0⟩
    dataflit1h := ⟨p.dataflit1h.q, p.dataflit1h.vld && !d1⟩
    dataflit1l := ⟨p.dataflit1l.q, p.dataflit1l.vld && !d1⟩
    port_sm := (p.nextPort PORT ping_pong_ready c).1
    outportid_data := (p.nextPort PORT ping_pong_ready c).2 }

/-- The register that the input state machine points at is empty. -/
def free (p : PortRegs) : Bool :=
  match p.portin_sm with
  | .PORT_CMD => !p.cmdflit.vld
  | .PORT_DATA0_H => !p.dataflit0h.vld
  | .PORT_DATA0_L => !p.dataflit0l.vld
  | .PORT_DATA1_H => !p.dataflit1h.vld
  | .PORT_DATA1_L => !p.dataflit1l.vld

/-- The registers after a flit has been loaded. -/
def load (p : PortRegs) (tdata : Flit) : PortRegs :=
  let p' := { p with portin_sm := p.nextPortin tdata }
  match p.portin_sm with
  | .PORT_CMD => { p' with cmdflit := ⟨.transcode tdata, true⟩ }
  | .PORT_DATA0_H => { p' with dataflit0h := ⟨tdata, true⟩ }
  | .PORT_DATA0_L => { p' with dataflit0l := ⟨tdata, true⟩ }
  | .PORT_DATA1_H => { p' with dataflit1h := ⟨tdata, true⟩ }
  | .PORT_DATA1_L => { p' with dataflit1l := ⟨tdata, true⟩ }

variable (p : PortRegs) (PORT sel other : BitVec 2) (ready tvalid : Bool) (tdata : Flit)

lemma free_forward :
    (p.forward PORT sel other ready).free
      = p.tready (p.fwdCmd PORT sel other ready) (p.fwdData0 PORT ready)
        (p.fwdData1 PORT ready) := by
  unfold free tready
  cases h : p.portin_sm <;> simp [forward, h]

lemma next_eq {α : Type} (s : Stage α) (load fwd : Bool) (x : α) :
    s.next load fwd x = if load then ⟨x, true⟩ else ⟨s.q, s.vld && !fwd⟩ := by
  obtain ⟨q, vld⟩ := s
  cases load <;> cases fwd <;> simp [Stage.next]

lemma step_eq :
    p.step PORT sel other ready tvalid tdata
      = if tvalid && (p.forward PORT sel other ready).free then
          (p.forward PORT sel other ready).load tdata
        else p.forward PORT sel other ready := by
  rw [free_forward, step]
  simp only [next_eq]
  cases tvalid with
  | false => simp [forward]
  | true =>
      -- only the register that the input state machine points at can be loaded
      unfold tready load forward nextPortin
      cases h : p.portin_sm <;>
        simp only [reduceCtorEq, decide_true, decide_false, Bool.true_and, Bool.false_and,
          Bool.false_eq_true, if_false] <;>
        split_ifs <;> rfl

/-- The command register is forwarded, alone. -/
lemma forward_cmd {p : PortRegs} {PORT sel other : BitVec 2} {ready : Bool}
    (h : p.fwdCmd PORT sel other ready = true) :
    p.forward PORT sel other ready = { p with
      cmdflit := ⟨p.cmdflit.q, false⟩
      port_sm := if isRespROK p.cmdflit.q then .DFLIT0 else .CMD
      outportid_data := if isRespROK p.cmdflit.q then PORT else p.outportid_data } := by
  have hm : p.port_sm = .CMD := by simp_all [fwdCmd]
  cases hr : isRespROK p.cmdflit.q <;>
    simp [forward, h, hm, hr, nextPort, fwdData0, fwdData1]

/-- The first 64 bytes are forwarded, alone. -/
lemma forward_data0 {p : PortRegs} {PORT sel other : BitVec 2} {ready : Bool}
    (h : p.fwdData0 PORT ready = true) (hv : p.dataflit0h.vld = true) :
    p.forward PORT sel other ready = { p with
      dataflit0h := ⟨p.dataflit0h.q, false⟩
      dataflit0l := ⟨p.dataflit0l.q, false⟩
      port_sm := .DFLIT1 } := by
  have hm : p.port_sm = .DFLIT0 := by simp_all [fwdData0]
  have hd : p.dataflit0l.vld = true ∧ ready = true ∧ p.outportid_data = PORT := by
    simp_all [fwdData0]
  simp [forward, hm, hd, hv, nextPort, fwdCmd, fwdData0, fwdData1]

/-- The last 64 bytes are forwarded, alone. -/
lemma forward_data1 {p : PortRegs} {PORT sel other : BitVec 2} {ready : Bool}
    (h : p.fwdData1 PORT ready = true) (hv : p.dataflit1h.vld = true) :
    p.forward PORT sel other ready = { p with
      dataflit1h := ⟨p.dataflit1h.q, false⟩
      dataflit1l := ⟨p.dataflit1l.q, false⟩
      port_sm := .CMD
      outportid_data := 0 } := by
  have hm : p.port_sm = .DFLIT1 := by simp_all [fwdData1]
  have hd : p.dataflit1l.vld = true ∧ ready = true ∧ p.outportid_data = PORT := by
    simp_all [fwdData1]
  simp [forward, hm, hd, hv, nextPort, fwdCmd, fwdData0, fwdData1]

end PortRegs

/-! ## What the forwards and the load do to a configuration -/

namespace PortShape

variable {PORT : BitVec 2} {p : PortRegs} {cur : List Flit} {u : List NetResp} {q : List Flit}

/-- A READ OK is announced by both opcodes. -/
lemma readOk_isRespROK {f : Flit} (k : netOpcode f = 0x04) :
    isRespROK (.transcode f) = true :=
  isRespROK_transcode (.readOk f 0 0 0 0 k)

/-- A forwarded command is the header of the next response, whose data follows. -/
lemma fwdCmd {sel other : BitVec 2} {ready : Bool} (h : PortShape PORT p cur u q)
    (fwd : p.fwdCmd PORT sel other ready = true) :
    ∃ r u', u = r :: u' ∧ cur = [] ∧ p.cmdflit.q = .transcode r.hdr ∧
      isRespROK p.cmdflit.q = !r.data.isEmpty ∧
      PortShape PORT (p.forward PORT sel other ready) r.data u' q := by
  rw [PortRegs.forward_cmd fwd]
  have hc : p.cmdflit.vld = true ∧ p.port_sm = .CMD := by
    simp_all [PortRegs.fwdCmd]
  clear fwd
  cases h <;> simp only [reduceCtorEq, Bool.false_eq_true, and_false, false_and] at hc
  case cmdShort ok =>
    refine ⟨_, _, rfl, rfl, rfl, ok, ?_⟩
    simp only [ok, if_neg Bool.false_ne_true]
    exact .idle
  all_goals
    have ok := readOk_isRespROK ‹_›
    refine ⟨_, _, rfl, rfl, rfl, ok, ?_⟩
    simp only [ok, if_true]
    constructor

/-- The first forward of data takes the first two flits of the started response. -/
lemma fwdData0 {sel other : BitVec 2} {ready : Bool} (h : PortShape PORT p cur u q)
    (fwd : p.fwdData0 PORT ready = true) :
    ∃ a b c d, cur = [a, b, c, d] ∧ p.dataflit0h.q = a ∧ p.dataflit0l.q = b ∧
      PortShape PORT (p.forward PORT sel other ready) [c, d] u q := by
  have hc : p.dataflit0l.vld = true ∧ p.port_sm = .DFLIT0 := by
    simp_all [PortRegs.fwdData0]
  have hv : p.dataflit0h.vld = true := by cases h <;> simp_all
  rw [PortRegs.forward_data0 fwd hv]
  clear fwd hv
  cases h <;> simp only [reduceCtorEq, Bool.false_eq_true, and_false, false_and] at hc
  case first4Short ok => exact ⟨_, _, _, _, rfl, rfl, rfl, .last2Short ok⟩
  all_goals exact ⟨_, _, _, _, rfl, rfl, rfl, by constructor⟩

/-- The second one takes the other two. -/
lemma fwdData1 {sel other : BitVec 2} {ready : Bool} (h : PortShape PORT p cur u q)
    (fwd : p.fwdData1 PORT ready = true) :
    ∃ c d, cur = [c, d] ∧ p.dataflit1h.q = c ∧ p.dataflit1l.q = d ∧
      PortShape PORT (p.forward PORT sel other ready) [] u q := by
  have hc : p.dataflit1l.vld = true ∧ p.port_sm = .DFLIT1 := by
    simp_all [PortRegs.fwdData1]
  have hv : p.dataflit1h.vld = true := by cases h <;> simp_all
  rw [PortRegs.forward_data1 fwd hv]
  clear fwd hv
  cases h <;> simp only [reduceCtorEq, Bool.false_eq_true, and_false, false_and] at hc
  case last2Short ok => exact ⟨_, _, rfl, rfl, rfl, .cmdShort ok⟩
  all_goals exact ⟨_, _, rfl, rfl, rfl, by constructor⟩

/-- Without a forward the registers stay. -/
lemma forward_eq {sel other : BitVec 2} {ready : Bool} (h : PortShape PORT p cur u q)
    (hc : p.fwdCmd PORT sel other ready = false) (h0 : p.fwdData0 PORT ready = false)
    (h1 : p.fwdData1 PORT ready = false) : p.forward PORT sel other ready = p := by
  have hn : p.nextPort PORT ready (p.fwdCmd PORT sel other ready)
      = (p.port_sm, p.outportid_data) := by
    rw [hc]
    clear hc
    cases h <;> simp_all [PortRegs.nextPort, PortRegs.fwdData0, PortRegs.fwdData1]
  rw [hc] at hn
  simp [PortRegs.forward, hc, h0, h1, hn]

/-- The next flit of a stream of whole responses is the header of the next one, and the network
opcode says whether data follows it. -/
lemma next_header {f : Flit} (h : respStream u = f :: q)
    (good : ∀ r ∈ u, r.isWriteFail = false) :
    (∃ a b c d k u', u = .readOk f a b c d k :: u' ∧ isRespROKIn f = true ∧
      q = a :: b :: c :: d :: respStream u') ∨
    (∃ k u', u = .short f k :: u' ∧ isRespROKIn f = false ∧
      isRespROK (.transcode f) = false ∧ q = respStream u') := by
  cases u with
  | nil => simp at h
  | cons r u' =>
      obtain ⟨rfl, rfl⟩ := List.cons.inj ((respStream_cons r u').symm.trans h)
      have hin := isRespROKIn_hdr r
      have hok := isRespROK_transcode r
      rw [good r (by simp)] at hok
      cases r with
      | readOk f a b c d k => exact .inl ⟨a, b, c, d, k, u', rfl, hin, rfl⟩
      | short f k => exact .inr ⟨k, u', rfl, hin, hok, rfl⟩

/-- The load takes the next flit of the stream, which belongs where the input state machine
points. -/
lemma load {f : Flit} (h : PortShape PORT p cur u (f :: q)) (hfree : p.free = true)
    (good : ∀ r ∈ u, r.isWriteFail = false) : PortShape PORT (p.load f) cur u q := by
  generalize hs : f :: q = s at h
  cases h <;> simp only [PortRegs.free, Bool.not_true, Bool.false_eq_true] at hfree
  -- a command register is loaded
  case idle =>
    obtain ⟨a, b, c, d, k, u', rfl, hin, rfl⟩ | ⟨k, u', rfl, hin, hok, rfl⟩ :=
      next_header hs.symm good <;> simp only [PortRegs.load, PortRegs.nextPortin, hin]
    · exact .cmd0
    · exact .cmdShort hok
  case first4 =>
    obtain ⟨a, b, c, d, k, u', rfl, hin, rfl⟩ | ⟨k, u', rfl, hin, hok, rfl⟩ :=
      next_header hs.symm good <;> simp only [PortRegs.load, PortRegs.nextPortin, hin]
    · exact .first4Read
    · exact .first4Short hok
  case last2 =>
    obtain ⟨a, b, c, d, k, u', rfl, hin, rfl⟩ | ⟨k, u', rfl, hin, hok, rfl⟩ :=
      next_header hs.symm good <;> simp only [PortRegs.load, PortRegs.nextPortin, hin]
    · exact .last2Read0
    · exact .last2Short hok
  -- a data register is loaded
  all_goals
    obtain ⟨rfl, rfl⟩ := List.cons.inj hs
    constructor

/-! ## A port that cannot forward waits for its stream -/

/-- A port between responses either has a command, or has nothing at all and is ready. -/
lemma cmd_or_idle (h : PortShape PORT p [] u q) :
    p.port_sm = .CMD ∧
      (p.cmdflit.vld = true ∨ p.cmdflit.vld = false ∧ q = respStream u ∧ p.free = true) := by
  generalize hc : ([] : List Flit) = cur at h
  cases h <;> simp_all [PortRegs.free]

/-- A port without a command between responses has nothing in its registers. -/
lemma idle_regs (h : PortShape PORT p [] u q) (hc : p.cmdflit.vld = false) :
    p.portin_sm = .PORT_CMD ∧ p.dataflit0l.vld = false ∧ p.dataflit1l.vld = false := by
  generalize hcur : ([] : List Flit) = cur at h
  cases h <;> simp_all

/-- A port in the first half of a response either has the data, or waits for it. -/
lemma data0_or_waits {a b c d : Flit} (h : PortShape PORT p [a, b, c, d] u q) :
    p.port_sm = .DFLIT0 ∧ p.outportid_data = PORT ∧
      (p.dataflit0l.vld = true ∨
        p.free = true ∧ ([c, d] ++ respStream u).length < q.length) := by
  generalize hc : [a, b, c, d] = cur at h
  cases h <;> simp_all [PortRegs.free]

/-- The same in the second half. -/
lemma data1_or_waits {c d : Flit} (h : PortShape PORT p [c, d] u q) :
    p.port_sm = .DFLIT1 ∧ p.outportid_data = PORT ∧
      (p.dataflit1l.vld = true ∨ p.free = true ∧ (respStream u).length < q.length) := by
  have hlt : (respStream u).length < (respStream u).length + 1 + 1 := by omega
  generalize hc : [c, d] = cur at h
  cases h <;> simp_all [PortRegs.free]

/-- What has still to arrive is what has still to be forwarded, but for the at most five flits in
the registers. -/
lemma length_le (h : PortShape PORT p cur u q) :
    q.length ≤ (cur ++ respStream u).length ∧ (cur ++ respStream u).length ≤ q.length + 5 := by
  cases h <;> simp [NetResp.data] <;> omega

/-- The three phases of a port. -/
lemma cur_cases (h : PortShape PORT p cur u q) :
    cur = [] ∨ (∃ a b c d, cur = [a, b, c, d]) ∨ ∃ c d, cur = [c, d] := by
  cases h <;> simp

/-- `outportid_data` says whether the port has started a response. -/
lemma outportid_data (h : PortShape PORT p cur u q) :
    p.outportid_data = if cur = [] then 0 else PORT := by
  cases h <;> rfl

end PortShape

end ThymesisFlow
