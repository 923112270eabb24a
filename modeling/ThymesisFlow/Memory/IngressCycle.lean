import ThymesisFlow.Memory.Ingress

/-!
# A cycle of the memory ingress

`Orderly` is the invariant of the memory ingress while it stays enabled: data is expected on one
stream at a time, and a record is written to the lookup BRAM only in the cycle after its command was
taken.  `Cycle` lists what a cycle can do.
-/

namespace ThymesisFlow

namespace MemoryIngress

/-! ## The handshakes -/

/-- A tag is taken from the CAPPTAG FIFO. -/
def takesTag (s : MemoryIngress) (i : MemoryIngressIn) : Bool :=
  i.capptag_fifo_tvalid && s.capptag_fifo_tready i

/-- A flit is taken from the retry path. -/
def takesRty (s : MemoryIngress) (i : MemoryIngressIn) : Bool := i.rty_in_tvalid && s.rty_in_tready i

/-- A flit is taken from the network. -/
def takesNet (s : MemoryIngress) (i : MemoryIngressIn) : Bool :=
  i.netflit_in_tvalid && s.netflit_in_tready i

/-- The command in the output register. -/
def held (s : MemoryIngress) : List (BitVec 200) := if s.tlx_cmd_valid_q then [s.tlx_cmd_q] else []

/-! ## The invariant -/

/-- No lookup BRAM is being written. -/
structure Silent (s : MemoryIngress) : Prop where
  cmd : s.cmdlookup.we = false
  d0 : s.d0lookup.we = false
  d1 : s.d1lookup.we = false

/-- Data is expected from the network, or from the retry path. -/
inductive DataStage (s : MemoryIngress) : Prop
  | net (hsize : s.dflit_size = 1 ∨ s.dflit_size = 2 ∨ s.dflit_size = 4)
      (hrty : s.dflit_size_rty = 0)
  | rty (hsize : s.dflit_size_rty = 1 ∨ s.dflit_size_rty = 2) (hnet : s.dflit_size = 0)
      (hsilent : Silent s)

structure Orderly (s : MemoryIngress) : Prop where
  idle : s.smstate ≠ .RECEIVE_DATA → s.dflit_size = 0 ∧ s.dflit_size_rty = 0
  data : s.smstate = .RECEIVE_DATA → DataStage s
  init : s.smstate = .INIT → s.tlx_cmd_valid_q = false ∧ s.tlx_data_valid_q = false ∧ Silent s
  en : s.lookup_port_en_q = decide (s.smstate ≠ .INIT)

/-- What a cycle takes, and the branch it goes through: the handshakes and the branches are written
apart in the source, and agree. -/
inductive Cycle (s : MemoryIngress) (i : MemoryIngressIn) : Prop
  | idle (hstay : (s.step i).smstate = s.smstate) (hrty : s.takesRty i = false)
      (htag : s.takesTag i = false) (hnet : s.takesNet i = false) (hpath : s.datapath i = s.idle i)
  | actag (hsm : s.smstate = .INIT) (hnext : (s.step i).smstate = .RECEIVE_CMD)
      (hrty : s.takesRty i = false) (htag : s.takesTag i = false) (hnet : s.takesNet i = false)
      (hpath : s.datapath i = s.assignActag i)
  | rtyCmd (hsm : s.smstate = .RECEIVE_CMD) (hready : i.tlx_cmd_tready = true)
      (hrty : s.takesRty i = true) (htag : s.takesTag i = false) (hnet : s.takesNet i = false)
      (hpath : s.datapath i = s.takeRtyCmd i)
  | netCmd (hsm : s.smstate = .RECEIVE_CMD) (hready : i.tlx_cmd_tready = true)
      (hrty : s.takesRty i = false) (htag : s.takesTag i = true) (hnet : s.takesNet i = true)
      (hpath : s.datapath i = s.takeNetCmd i)
  | rtyData (hsm : s.smstate = .RECEIVE_DATA) (hready : i.tlx_data_tready = true)
      (hsize : s.dflit_size_rty = 1 ∨ s.dflit_size_rty = 2)
      (hrty : s.takesRty i = true) (htag : s.takesTag i = false) (hnet : s.takesNet i = false)
      (hpath : s.datapath i = s.takeRtyData i)
  | netData (hsm : s.smstate = .RECEIVE_DATA) (hready : i.tlx_data_tready = true)
      (hsize : s.dflit_size = 1 ∨ s.dflit_size = 2)
      (hrty : s.takesRty i = false) (htag : s.takesTag i = false) (hnet : s.takesNet i = true)
      (hpath : s.datapath i = s.takeNetData i)

variable {s : MemoryIngress} {i : MemoryIngressIn}

lemma orderly_init : Orderly {} where
  idle _ := ⟨rfl, rfl⟩
  data h := by cases h
  init _ := ⟨rfl, rfl, rfl, rfl, rfl⟩
  en := rfl

/-- The sizes of the data of a command. -/
lemma cmdDflitSize_cases (f : Flit512) : (bit f 509 = false ∧ cmdDflitSize f = 0) ∨ (bit f 509 = true ∧
    (cmdDflitSize f = 1 ∨ cmdDflitSize f = 2 ∨ cmdDflitSize f = 4)) := by
  rw [cmdDflitSize]
  cases bit f 509 <;> cases bit f 423 <;> cases bit f 422 <;> decide

/-- The reset state. -/
lemma cycle_init (h : Orderly s) (hsm : s.smstate = .INIT) : Cycle s i ∧ Orderly (s.step i) := by
  obtain ⟨hsize, hsize'⟩ := h.idle (by rw [hsm]; decide)
  obtain ⟨hvalid, hdvalid, -⟩ := h.init hsm
  have hrty : s.takesRty i = false := by
    simp [takesRty, rty_in_tready, hsm, hsize', bit]
  have htag : s.takesTag i = false := by simp [takesTag, capptag_fifo_tready, hsm]
  have hnet : s.takesNet i = false := by simp [takesNet, netflit_in_tready, hsm, hsize, bit]
  by_cases hen : i.enable = true
  · have hpath : s.datapath i = s.assignActag i := by rw [datapath, if_pos ⟨hsm, hen⟩]
    have hnext : (s.step i).smstate = .RECEIVE_CMD := by
      simp only [step, nextSmstate, hsm, hen, if_true]
    refine ⟨.actag hsm hnext hrty htag hnet hpath, ⟨fun _ => ?_, fun hx => ?_, fun hx => ?_, ?_⟩⟩
    · rw [step, hpath]
      exact ⟨hsize, hsize'⟩
    · rw [hnext] at hx
      cases hx
    · rw [hnext] at hx
      cases hx
    · rw [hnext]
      simp [step, hsm, hen]
  · have hpath : s.datapath i = s.idle i := by
      rw [datapath, if_neg fun hx => hen hx.2]
      simp [hsm]
    have hnext : (s.step i).smstate = .INIT := by
      simp only [step, nextSmstate, hsm]
      rw [if_neg hen]
    refine ⟨.idle (hnext.trans hsm.symm) hrty htag hnet hpath, ⟨fun _ => ?_, fun hx => ?_, fun _ => ?_, ?_⟩⟩
    · rw [step, hpath]
      exact ⟨hsize, hsize'⟩
    · rw [hnext] at hx
      cases hx
    · rw [step, hpath]
      exact ⟨by rw [idle, hvalid]; rfl, by rw [idle, hdvalid]; rfl, rfl, rfl, rfl⟩
    · rw [hnext]
      simp [step, hsm, hen, h.en]

/-- Once the module has left INIT the lookup port is enabled. -/
lemma Orderly.en_step (h : Orderly s) (hsm : s.smstate ≠ .INIT) :
    (s.step i).lookup_port_en_q = true := by
  simp [step, h.en, hsm]

/-- The handshakes while a command is expected. -/
lemma Orderly.takesRty_cmd (h : Orderly s) (hsm : s.smstate = .RECEIVE_CMD) (hen : i.enable = true) :
    s.takesRty i = (i.rty_in_tvalid && i.tlx_cmd_tready) := by
  obtain ⟨-, hsize'⟩ := h.idle (by rw [hsm]; decide)
  simp [takesRty, rty_in_tready, hsm, hsize', hen, bit]

lemma takesTag_cmd (hsm : s.smstate = .RECEIVE_CMD) (hen : i.enable = true) :
    s.takesTag i = (i.capptag_fifo_tvalid && (!i.rty_in_tvalid && i.netflit_in_tvalid
      && i.tlx_cmd_tready)) := by
  simp [takesTag, capptag_fifo_tready, hsm, hen]

lemma Orderly.takesNet_cmd (h : Orderly s) (hsm : s.smstate = .RECEIVE_CMD) (hen : i.enable = true) :
    s.takesNet i = (i.netflit_in_tvalid && (i.tlx_cmd_tready && !i.rty_in_tvalid
      && i.capptag_fifo_tvalid)) := by
  obtain ⟨hsize, -⟩ := h.idle (by rw [hsm]; decide)
  simp [takesNet, netflit_in_tready, hsm, hsize, hen, bit]

/-- A command of the retry path goes first. -/
lemma cycle_rtyCmd (h : Orderly s) (hsm : s.smstate = .RECEIVE_CMD) (hen : i.enable = true)
    (hr : i.rty_in_tvalid = true ∧ i.tlx_cmd_tready = true)
    (hdl : s.takesRty i = true → cmdDflitSize i.rty_in_tdata ≠ 4) :
    Cycle s i ∧ Orderly (s.step i) := by
  obtain ⟨hsize, hsize'⟩ := h.idle (by rw [hsm]; decide)
  have hrty := h.takesRty_cmd hsm hen
  have htag := takesTag_cmd hsm hen
  have hnet := h.takesNet_cmd hsm hen
  have hinit : ¬(s.smstate = .INIT ∧ i.enable = true) := fun hn => by
    rw [hsm] at hn
    cases hn.1
  have hen' : (s.step i).lookup_port_en_q = true := h.en_step (by rw [hsm]; decide)
  have hpath : s.datapath i = s.takeRtyCmd i := by
    rw [datapath, if_neg hinit, if_pos ⟨hsm, hr⟩]
  have hnext : (s.step i).smstate
      = if bit i.rty_in_tdata 509 then .RECEIVE_DATA else .RECEIVE_CMD := by
    simp only [step, nextSmstate, hsm]
    simp [hr]
  have hnetsize : (s.step i).dflit_size = 0 := by rw [step, hpath]; exact hsize
  have hrtysize : (s.step i).dflit_size_rty = cmdDflitSize i.rty_in_tdata := by
    rw [step, hpath]
    rfl
  have hsilent : Silent (s.step i) := by rw [step, hpath]; exact ⟨rfl, rfl, rfl⟩
  refine ⟨.rtyCmd hsm hr.2 (by rw [hrty, hr.1, hr.2]; rfl) (by rw [htag, hr.1]; simp)
    (by rw [hnet, hr.1]; simp) hpath, ?_⟩
  rcases cmdDflitSize_cases i.rty_in_tdata with ⟨hw, h0⟩ | ⟨hw, hpos⟩
  · rw [hw, if_neg Bool.false_ne_true] at hnext
    refine ⟨fun _ => ⟨hnetsize, hrtysize.trans h0⟩, fun hx => ?_, fun hx => ?_, ?_⟩
    · rw [hnext] at hx
      cases hx
    · rw [hnext] at hx
      cases hx
    · rw [hen', hnext]
      rfl
  · rw [hw, if_pos rfl] at hnext
    refine ⟨fun hx => absurd hnext hx, fun _ => .rty ?_ hnetsize hsilent, fun hx => ?_, ?_⟩
    · rw [hrtysize]
      rcases hpos with h1 | h2 | h4
      · exact .inl h1
      · exact .inr h2
      · exact absurd h4 (hdl (by rw [hrty, hr.1, hr.2]; rfl))
    · rw [hnext] at hx
      cases hx
    · rw [hen', hnext]
      rfl

/-- A command of the network. -/
lemma cycle_netCmd (h : Orderly s) (hsm : s.smstate = .RECEIVE_CMD) (hen : i.enable = true)
    (hr : ¬(i.rty_in_tvalid = true ∧ i.tlx_cmd_tready = true))
    (hn : i.netflit_in_tvalid = true ∧ i.capptag_fifo_tvalid = true ∧ i.tlx_cmd_tready = true) :
    Cycle s i ∧ Orderly (s.step i) := by
  obtain ⟨hsize, hsize'⟩ := h.idle (by rw [hsm]; decide)
  have htag := takesTag_cmd hsm hen
  have hnet := h.takesNet_cmd hsm hen
  have hinit : ¬(s.smstate = .INIT ∧ i.enable = true) := fun hn => by
    rw [hsm] at hn
    cases hn.1
  have hen' : (s.step i).lookup_port_en_q = true := h.en_step (by rw [hsm]; decide)
  have hrty0 : s.takesRty i = false := by
    rw [h.takesRty_cmd hsm hen]
    exact eq_false_of_ne_true fun hx => hr (by simpa using hx)
  have hrv : i.rty_in_tvalid = false := eq_false_of_ne_true fun hx => hr ⟨hx, hn.2.2⟩
  have hpath : s.datapath i = s.takeNetCmd i := by
    rw [datapath, if_neg hinit, if_neg fun hx => hr hx.2, if_pos ⟨hsm, hn⟩]
  have hnext : (s.step i).smstate
      = if bit i.netflit_in_tdata 509 then .RECEIVE_DATA else .RECEIVE_CMD := by
    simp only [step, nextSmstate, hsm]
    simp [hn, hrv]
  have hnetsize : (s.step i).dflit_size = cmdDflitSize i.netflit_in_tdata := by
    rw [step, hpath]
    rfl
  have hrtysize : (s.step i).dflit_size_rty = 0 := by rw [step, hpath]; exact hsize'
  refine ⟨.netCmd hsm hn.2.2 hrty0 (by rw [htag, hn.1, hn.2.1, hn.2.2, hrv]; rfl)
    (by rw [hnet, hn.1, hn.2.1, hn.2.2, hrv]; rfl) hpath, ?_⟩
  rcases cmdDflitSize_cases i.netflit_in_tdata with ⟨hw, h0⟩ | ⟨hw, hpos⟩
  · rw [hw, if_neg Bool.false_ne_true] at hnext
    refine ⟨fun _ => ⟨hnetsize.trans h0, hrtysize⟩, fun hx => ?_, fun hx => ?_, ?_⟩
    · rw [hnext] at hx
      cases hx
    · rw [hnext] at hx
      cases hx
    · rw [hen', hnext]
      rfl
  · rw [hw, if_pos rfl] at hnext
    refine ⟨fun hx => absurd hnext hx, fun _ => .net (by rw [hnetsize]; exact hpos) hrtysize,
      fun hx => ?_, ?_⟩
    · rw [hnext] at hx
      cases hx
    · rw [hen', hnext]
      rfl

/-- No command. -/
lemma cycle_noCmd (h : Orderly s) (hsm : s.smstate = .RECEIVE_CMD) (hen : i.enable = true)
    (hr : ¬(i.rty_in_tvalid = true ∧ i.tlx_cmd_tready = true))
    (hn : ¬(i.netflit_in_tvalid = true ∧ i.capptag_fifo_tvalid = true ∧ i.tlx_cmd_tready = true)) :
    Cycle s i ∧ Orderly (s.step i) := by
  obtain ⟨hsize, hsize'⟩ := h.idle (by rw [hsm]; decide)
  have htag := takesTag_cmd hsm hen
  have hnet := h.takesNet_cmd hsm hen
  have hinit : ¬(s.smstate = .INIT ∧ i.enable = true) := fun hn => by
    rw [hsm] at hn
    cases hn.1
  have hdata : s.smstate ≠ .RECEIVE_DATA := by rw [hsm]; decide
  have hen' : (s.step i).lookup_port_en_q = true := h.en_step (by rw [hsm]; decide)
  have hrty0 : s.takesRty i = false := by
    rw [h.takesRty_cmd hsm hen]
    exact eq_false_of_ne_true fun hx => hr (by simpa using hx)
  have hpath : s.datapath i = s.idle i := by
    rw [datapath, if_neg hinit, if_neg fun hx => hr hx.2, if_neg fun hx => hn hx.2,
      if_neg fun hx => hdata hx.1, if_neg fun hx => hdata hx.1]
  have hnext : (s.step i).smstate = .RECEIVE_CMD := by
    simp only [step, nextSmstate, hsm]
    rw [if_neg fun hx => hr ⟨hx.2, hx.1⟩, if_neg fun hx => hn ⟨hx.2.1, hx.2.2, hx.1⟩, hen,
      if_pos rfl]
  have htag0 : s.takesTag i = false := by
    rw [htag]
    refine eq_false_of_ne_true fun hx => hn ?_
    simp only [Bool.and_eq_true] at hx
    exact ⟨hx.2.1.2, hx.1, hx.2.2⟩
  have hnet0 : s.takesNet i = false := by
    rw [hnet]
    refine eq_false_of_ne_true fun hx => hn ?_
    simp only [Bool.and_eq_true] at hx
    exact ⟨hx.1, hx.2.2, hx.2.1.1⟩
  refine ⟨.idle (hnext.trans hsm.symm) hrty0 htag0 hnet0 hpath, ⟨fun _ => ?_, fun hx => ?_, fun hx => ?_, ?_⟩⟩
  · rw [step, hpath]
    exact ⟨hsize, hsize'⟩
  · rw [hnext] at hx
    cases hx
  · rw [hnext] at hx
    cases hx
  · rw [hen', hnext]
    rfl

/-- A command is expected. -/
lemma cycle_cmd (h : Orderly s) (hsm : s.smstate = .RECEIVE_CMD) (hen : i.enable = true)
    (hdl : s.takesRty i = true → cmdDflitSize i.rty_in_tdata ≠ 4) :
    Cycle s i ∧ Orderly (s.step i) := by
  by_cases hr : i.rty_in_tvalid = true ∧ i.tlx_cmd_tready = true
  · exact cycle_rtyCmd h hsm hen hr hdl
  · by_cases hn : i.netflit_in_tvalid = true ∧ i.capptag_fifo_tvalid = true ∧ i.tlx_cmd_tready = true
    · exact cycle_netCmd h hsm hen hr hn
    · exact cycle_noCmd h hsm hen hr hn

/-- Data is expected from the network. -/
lemma cycle_net (h : Orderly s) (hsm : s.smstate = .RECEIVE_DATA) (hen : i.enable = true)
    (hsize : s.dflit_size = 1 ∨ s.dflit_size = 2 ∨ s.dflit_size = 4) (hrty : s.dflit_size_rty = 0)
    (h4 : i.netflit_in_tvalid = true → s.dflit_size ≠ 4) : Cycle s i ∧ Orderly (s.step i) := by
  have hrty0 : s.takesRty i = false := by
    simp [takesRty, rty_in_tready, hsm, hrty, bit]
  have htag0 : s.takesTag i = false := by simp [takesTag, capptag_fifo_tready, hsm]
  have hnolate : ¬0 < s.dflit_size_rty := by rw [hrty]; decide
  have hinit : s.smstate ≠ .INIT := by rw [hsm]; decide
  have hcmd : s.smstate ≠ .RECEIVE_CMD := by rw [hsm]; decide
  have hen' : (s.step i).lookup_port_en_q = true := h.en_step (by rw [hsm]; decide)
  by_cases hn : i.netflit_in_tvalid = true ∧ i.tlx_data_tready = true
  · have hsize2 : s.dflit_size = 1 ∨ s.dflit_size = 2 := by
      rcases hsize with h1 | h2 | h3
      · exact .inl h1
      · exact .inr h2
      · exact absurd h3 (h4 hn.1)
    have hpos : 0 < s.dflit_size := by rcases hsize2 with h1 | h1 <;> rw [h1] <;> decide
    have hpath : s.datapath i = s.takeNetData i := by
      rw [datapath, if_neg fun hx => hinit hx.1, if_neg fun hx => hcmd hx.1,
        if_neg fun hx => hcmd hx.1, if_neg fun hx => hnolate hx.2.2.1, if_pos ⟨hsm, hn.1, hpos, hn.2⟩]
    have hnet : s.takesNet i = true := by
      rcases hsize2 with h1 | h1 <;> simp [takesNet, netflit_in_tready, hn, hen, h1, bit]
    have hnext : (s.step i).smstate = if s.dflit_size = 1 then .RECEIVE_CMD else .RECEIVE_DATA := by
      simp only [step, nextSmstate, hsm]
      simp [hn, hrty]
    have hnetsize : (s.step i).dflit_size = s.dflit_size - 1 := by
      rw [step, hpath]
      rfl
    have hrtysize : (s.step i).dflit_size_rty = 0 := by rw [step, hpath]; exact hrty
    refine ⟨.netData hsm hn.2 hsize2 hrty0 htag0 hnet hpath, ?_⟩
    rcases hsize2 with h1 | h1
    · rw [h1, if_pos rfl] at hnext
      rw [h1] at hnetsize
      refine ⟨fun _ => ⟨hnetsize, hrtysize⟩, fun hx => ?_, fun hx => ?_, ?_⟩
      · rw [hnext] at hx
        cases hx
      · rw [hnext] at hx
        cases hx
      · rw [hen', hnext]
        rfl
    · rw [h1, if_neg (by decide)] at hnext
      rw [h1] at hnetsize
      refine ⟨fun hx => absurd hnext hx, fun _ => .net (.inl hnetsize) hrtysize, fun hx => ?_, ?_⟩
      · rw [hnext] at hx
        cases hx
      · rw [hen', hnext]
        rfl
  · have hpath : s.datapath i = s.idle i := by
      rw [datapath, if_neg fun hx => hinit hx.1, if_neg fun hx => hcmd hx.1,
        if_neg fun hx => hcmd hx.1, if_neg fun hx => hnolate hx.2.2.1,
        if_neg fun hx => hn ⟨hx.2.1, hx.2.2.2⟩]
    have hnet : s.takesNet i = false := by
      refine eq_false_of_ne_true fun hx => hn ?_
      simp only [takesNet, netflit_in_tready, hsm, Bool.and_eq_true, Bool.or_eq_true,
        decide_eq_true_eq, reduceCtorEq, and_false, false_and, false_or] at hx
      exact ⟨hx.1, hx.2.2.1⟩
    have hnext : (s.step i).smstate = .RECEIVE_DATA := by
      simp only [step, nextSmstate, hsm]
      refine if_neg fun hx => ?_
      rcases hx.2 with h1 | h1
      · exact hn ⟨h1.2, hx.1⟩
      · rw [hrty] at h1
        exact absurd h1.1 (by decide)
    have hnetsize : (s.step i).dflit_size = s.dflit_size := by
      rw [step, hpath]
      rfl
    refine ⟨.idle (hnext.trans hsm.symm) hrty0 htag0 hnet hpath, fun hx => absurd hnext hx,
      fun _ => .net (by rw [hnetsize]; exact hsize) (by rw [step, hpath]; exact hrty), fun hx => ?_, ?_⟩
    · rw [hnext] at hx
      cases hx
    · rw [hen', hnext]
      rfl

/-- Data is expected from the retry path. -/
lemma cycle_rty (h : Orderly s) (hsm : s.smstate = .RECEIVE_DATA) (hen : i.enable = true)
    (hsize : s.dflit_size_rty = 1 ∨ s.dflit_size_rty = 2) (hnet : s.dflit_size = 0)
    (hsilent : Silent s) : Cycle s i ∧ Orderly (s.step i) := by
  have hnet0 : s.takesNet i = false := by
    simp [takesNet, netflit_in_tready, hsm, hnet, bit]
  have htag0 : s.takesTag i = false := by simp [takesTag, capptag_fifo_tready, hsm]
  have hinit : s.smstate ≠ .INIT := by rw [hsm]; decide
  have hcmd : s.smstate ≠ .RECEIVE_CMD := by rw [hsm]; decide
  have hpos : 0 < s.dflit_size_rty := by rcases hsize with h1 | h1 <;> rw [h1] <;> decide
  have hen' : (s.step i).lookup_port_en_q = true := h.en_step (by rw [hsm]; decide)
  have hrty : s.takesRty i = (i.rty_in_tvalid && i.tlx_data_tready) := by
    rcases hsize with h1 | h1 <;> simp [takesRty, rty_in_tready, hsm, hen, h1, bit]
  by_cases hn : i.rty_in_tvalid = true ∧ i.tlx_data_tready = true
  · have hpath : s.datapath i = s.takeRtyData i := by
      rw [datapath, if_neg fun hx => hinit hx.1, if_neg fun hx => hcmd hx.1,
        if_neg fun hx => hcmd hx.1, if_pos ⟨hsm, hn.1, hpos, hn.2⟩]
    have hnext : (s.step i).smstate
        = if s.dflit_size_rty = 1 then .RECEIVE_CMD else .RECEIVE_DATA := by
      simp only [step, nextSmstate, hsm]
      simp [hn, hnet]
    have hrtysize : (s.step i).dflit_size_rty = s.dflit_size_rty - 1 := by
      rw [step, hpath]
      rfl
    have hnetsize : (s.step i).dflit_size = 0 := by rw [step, hpath]; exact hnet
    have hsilent' : Silent (s.step i) := by
      rw [step, hpath]
      exact ⟨hsilent.cmd, hsilent.d0, hsilent.d1⟩
    refine ⟨.rtyData hsm hn.2 hsize (by rw [hrty, hn.1, hn.2]; rfl) htag0 hnet0 hpath, ?_⟩
    rcases hsize with h1 | h1
    · rw [h1, if_pos rfl] at hnext
      rw [h1] at hrtysize
      refine ⟨fun _ => ⟨hnetsize, hrtysize⟩, fun hx => ?_, fun hx => ?_, ?_⟩
      · rw [hnext] at hx
        cases hx
      · rw [hnext] at hx
        cases hx
      · rw [hen', hnext]
        rfl
    · rw [h1, if_neg (by decide)] at hnext
      rw [h1] at hrtysize
      refine ⟨fun hx => absurd hnext hx, fun _ => .rty (.inl hrtysize) hnetsize hsilent', fun hx => ?_, ?_⟩
      · rw [hnext] at hx
        cases hx
      · rw [hen', hnext]
        rfl
  · have hpath : s.datapath i = s.idle i := by
      rw [datapath, if_neg fun hx => hinit hx.1, if_neg fun hx => hcmd hx.1,
        if_neg fun hx => hcmd hx.1, if_neg fun hx => hn ⟨hx.2.1, hx.2.2.2⟩,
        if_neg fun hx => absurd hx.2.2.1 (by rw [hnet]; decide)]
    have hnext : (s.step i).smstate = .RECEIVE_DATA := by
      simp only [step, nextSmstate, hsm]
      refine if_neg fun hx => ?_
      rcases hx.2 with h1 | h1
      · rw [hnet] at h1
        exact absurd h1.1 (by decide)
      · exact hn ⟨h1.2, hx.1⟩
    have hrtysize : (s.step i).dflit_size_rty = s.dflit_size_rty := by
      rw [step, hpath]
      rfl
    have hrty0 : s.takesRty i = false := by
      rw [hrty]
      exact eq_false_of_ne_true fun hx => hn (by simpa using hx)
    refine ⟨.idle (hnext.trans hsm.symm) hrty0 htag0 hnet0 hpath, fun hx => absurd hnext hx,
      fun _ => .rty (by rw [hrtysize]; exact hsize) (by rw [step, hpath]; exact hnet)
        (by rw [step, hpath]; exact ⟨rfl, rfl, rfl⟩), fun hx => ?_, ?_⟩
    · rw [hnext] at hx
      cases hx
    · rw [hen', hnext]
      rfl

/-- **One cycle.**  The module stays enabled, no flit comes while the data of a write of four flits
is expected, and the retry path has no such write. -/
theorem cycle (h : Orderly s) (hen : s.smstate ≠ .INIT → i.enable = true)
    (hnet : i.netflit_in_tvalid = true → s.dflit_size ≠ 4)
    (hrty : s.smstate = .RECEIVE_CMD → s.takesRty i = true → cmdDflitSize i.rty_in_tdata ≠ 4) :
    Cycle s i ∧ Orderly (s.step i) := by
  cases hsm : s.smstate with
  | INIT => exact cycle_init h hsm
  | RECEIVE_CMD => exact cycle_cmd h hsm (hen (by rw [hsm]; decide)) (hrty hsm)
  | RECEIVE_DATA =>
      have henable := hen (by rw [hsm]; decide)
      cases h.data hsm with
      | net hsize hzero => exact cycle_net h hsm henable hsize hzero hnet
      | rty hsize hzero hsilent => exact cycle_rty h hsm henable hsize hzero hsilent

/-! ## The tags -/

/-- A cycle that takes no tag writes no record. -/
lemma Cycle.silent (hc : Cycle s i) (h : Orderly s) (htag : s.takesTag i = false) :
    (s.step i).cmdlookup.we = false := by
  cases hc with
  | idle _ _ _ _ hpath => rw [step, hpath]; rfl
  | actag hsm _ _ _ _ hpath =>
      rw [step, hpath]
      exact (h.init hsm).2.2.cmd
  | rtyCmd _ _ _ _ _ hpath => rw [step, hpath]; rfl
  | netCmd _ _ _ htag' _ _ =>
      rw [htag] at htag'
      cases htag'
  | rtyData hsm _ hsize _ _ _ hpath =>
      rw [step, hpath]
      cases h.data hsm with
      | net _ hzero =>
          rw [hzero] at hsize
          exact absurd hsize (by decide)
      | rty _ _ hsilent => exact hsilent.cmd
  | netData _ _ _ _ _ _ hpath => rw [step, hpath]; rfl

/-- A tag is taken for a command of the network. -/
lemma Cycle.net (hc : Cycle s i) (htag : s.takesTag i = true) :
    s.smstate = .RECEIVE_CMD ∧ s.takesNet i = true ∧ s.datapath i = s.takeNetCmd i := by
  cases hc with
  | netCmd hsm _ _ _ hnet hpath => exact ⟨hsm, hnet, hpath⟩
  | idle _ _ htag' _ _ | actag _ _ _ htag' _ _ | rtyCmd _ _ _ htag' _ _ | rtyData _ _ _ _ htag' _ _
  | netData _ _ _ _ htag' _ _ =>
      rw [htag] at htag'
      cases htag'

/-! ## The output registers -/

/-- A register that is read goes empty. -/
lemma read_out {α : Type*} (q : α) (valid ready : Bool) :
    (if valid && ready then [q] else []) ++ (if valid && !ready then [q] else [])
      = if valid then [q] else [] := by
  cases valid <;> cases ready <;> rfl

/-- No command was taken. -/
lemma held_of_keep (hcmd : (s.datapath i).tlx_cmd_q = s.tlx_cmd_q)
    (hvalid : (s.datapath i).tlx_cmd_valid_q = (s.tlx_cmd_valid_q && !i.tlx_cmd_tready)) :
    s.issued i ++ (s.step i).held = s.held := by
  have hq : (s.step i).tlx_cmd_q = s.tlx_cmd_q := hcmd
  have hv : (s.step i).tlx_cmd_valid_q = (s.tlx_cmd_valid_q && !i.tlx_cmd_tready) := hvalid
  rw [issued, held, held, hq, hv]
  exact read_out s.tlx_cmd_q s.tlx_cmd_valid_q i.tlx_cmd_tready

/-- A command was taken, and the one before it went out. -/
lemma held_of_take (hready : i.tlx_cmd_tready = true)
    (hvalid : (s.datapath i).tlx_cmd_valid_q = true) :
    s.issued i ++ (s.step i).held = s.held ++ [(s.datapath i).tlx_cmd_q] := by
  have hq : (s.step i).tlx_cmd_q = (s.datapath i).tlx_cmd_q := rfl
  have hv : (s.step i).tlx_cmd_valid_q = true := hvalid
  rw [issued, held, held, hq, hv, hready, Bool.and_true, if_pos rfl]

/-- The acTag is assigned from the empty register. -/
lemma held_of_actag (h : Orderly s) (hsm : s.smstate = .INIT)
    (hpath : s.datapath i = s.assignActag i) :
    s.issued i = [] ∧ s.held = [] ∧ (s.step i).held = [(s.assignActag i).tlx_cmd_q] := by
  have hvalid := (h.init hsm).1
  have hv : (s.step i).tlx_cmd_valid_q = true := by rw [step, hpath]; rfl
  have hq : (s.step i).tlx_cmd_q = (s.assignActag i).tlx_cmd_q := by rw [step, hpath]
  refine ⟨?_, ?_, ?_⟩
  · rw [issued, hvalid, Bool.false_and, if_neg Bool.false_ne_true]
  · rw [held, hvalid, if_neg Bool.false_ne_true]
  · rw [held, hv, if_pos rfl, hq]

lemma bit_assignActag (s : MemoryIngress) (i : MemoryIngressIn) :
    bit (s.assignActag i).tlx_cmd_q 197 = true := by
  rw [assignActag, bit_setField_of_disjoint _ _ _ _ (.inr (by decide)),
    bit_setField_of_disjoint _ _ _ _ (.inr (by decide)),
    bit_eq_field _ 191 8 (show 6 < 8 by decide), field_setField_self _ _ _ (by decide)]
  rfl

end MemoryIngress

end ThymesisFlow
