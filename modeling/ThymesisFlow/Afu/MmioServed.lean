import ThymesisFlow.Afu.MmioServer

/-!
# The compute AFU serves its MMIO space

`SM_MMW` and `SM_MMR` take turns at the head of the command FIFO, the registers answer two cycles after
they are asked, and the response waits for credits while the port may be busy with responses of the
network.  `ServesMmio` relates all that to the server: which command is being answered, what its answer will
be, and from which cycle on the registers hold what it writes.
-/

namespace ThymesisFlow

namespace RmemAfu

variable (cfg : RespPortConfig) (s : RmemAfu) (i : RmemAfuIn)

/-- The response of a MMIO command is on the port. -/
def mmioAnswered : Bool := s.port.mmw_drive.resp_valid || s.port.mmr_drive.resp_valid

/-- What the port shows of it. -/
def mmioAnswers : List RespDrive := if s.mmioAnswered then [s.port.port (s.portIn i)] else []

/-- What a cycle is for the server. -/
def mmioEvents : List MmioEvent :=
  (if s.port.rmem.SM_MMW = .WAIT_FOR_DATA then i.tlx_afu_cmd_data.toList.map .data else [])
    ++ (if s.mmioAnswered then [.answer s.port.mmr_rdata] else [])
    ++ (i.tlx_afu_cmd.toList.filter (HostCmd.isMmio cfg.acs)).map .cmd

/-- The entries that the response FIFO takes. -/
def received : List RffEntry := s.port.received (s.portIn i)

/-- The TLX sends a command when a row of the command FIFO is free, and returns no credit that has not
been consumed. -/
def Allowed : Prop := s.port.Allowed (s.portIn i)

instance : Decidable (s.Allowed i) := inferInstanceAs (Decidable (s.port.Allowed _))

end RmemAfu

/-! ## The events of a cycle -/

namespace MmioServer

variable (cfg : AcsConfig) (a : MmioServer)

lemma runFrom_cmds (cs : List HostCmd) :
    (mmioServer cfg).runFrom a (cs.map .cmd) = { a with waiting := a.waiting ++ cs } := by
  induction cs generalizing a with
  | nil => rw [List.append_nil]; rfl
  | cons c cs ih =>
      rw [List.map_cons, Machine.runFrom_cons, ih]
      change ({ a with waiting := (a.waiting ++ [c]) ++ cs } : MmioServer) = _
      rw [List.append_assoc]
      rfl

lemma answers_cmds (cs : List HostCmd) :
    (mmioServer cfg).collectFrom (answers cfg) a (cs.map .cmd) = [] := by
  induction cs generalizing a with
  | nil => rfl
  | cons c cs ih => exact ih _

end MmioServer

/-! ## The head of the command FIFO -/

namespace Dispatch

variable {cfg : AcsConfig} {s : Rmem} {c : HostCmd} {cs r : List HostCmd}

lemma cff_cmd_cons (h : Dispatch cfg s (c :: r)) : s.cff_cmd = c := by
  rw [Rmem.cff_cmd, h.cff.valid_eq]
  exact h.cff.head_eq

lemma start_cons (h : Dispatch cfg s (c :: r)) (p : HostCmd → Bool) : s.start p = p c := by
  rw [Rmem.start, h.cff_cmd_cons, h.cff.valid_eq]
  rfl

/-- The MMIO commands that wait after a cycle: the head leaves when it has been answered. -/
lemma waiting_next (h : Dispatch cfg s cs) (i : RmemIn) :
    (nextCmds s i cs).filter (HostCmd.isMmio cfg)
      = (if s.SM_MMW = .WAIT_FOR_NEXT_CMD ∨ s.SM_MMR = .WAIT_FOR_NEXT_CMD then
          (cs.filter (HostCmd.isMmio cfg)).tail else cs.filter (HostCmd.isMmio cfg))
        ++ i.tlx_afu_cmd.toList.filter (HostCmd.isMmio cfg) := by
  rw [nextCmds, List.filter_append]
  congr 1
  by_cases hw : s.SM_MMW = .WAIT_FOR_NEXT_CMD
  · obtain ⟨c, r, rfl, hc⟩ := h.mmw (by rw [hw]; decide)
    have hm : c.isMmio cfg = true := by rw [HostCmd.isMmio, hc, Bool.true_or]
    rw [h.cmd_dispatched_eq, hw, decide_eq_true rfl, Bool.true_or, Bool.true_or, if_pos rfl,
      if_pos (.inl rfl), List.filter_cons_of_pos hm]
    rfl
  · by_cases hr : s.SM_MMR = .WAIT_FOR_NEXT_CMD
    · obtain ⟨c, r, rfl, hc⟩ := h.mmr (by rw [hr]; decide)
      have hm : c.isMmio cfg = true := by rw [HostCmd.isMmio, hc, Bool.or_true]
      rw [h.cmd_dispatched_eq, hr, decide_eq_true rfl, Bool.or_true, Bool.true_or, if_pos rfl,
        if_pos (.inr rfl), List.filter_cons_of_pos hm]
      rfl
    · rw [if_neg (not_or.mpr ⟨hw, hr⟩), h.cmd_dispatched_eq, decide_eq_false hw, decide_eq_false hr,
        Bool.false_or, Bool.false_or]
      by_cases hl : s.LPC_LOAD_NET = .WAIT_1CYCLE
      · -- a command that leaves for the network is no MMIO command
        obtain ⟨c, r, rfl, hc⟩ := h.lpc hl
        obtain ⟨hnw, hnr⟩ := HostCmd.startMmio_of_remote hc
        have hm : ¬ c.isMmio cfg = true := by
          rw [HostCmd.isMmio, hnw, hnr]
          exact Bool.false_ne_true
        rw [decide_eq_true hl, if_pos rfl, List.filter_cons_of_neg hm]
        rfl
      · rw [decide_eq_false hl, if_neg Bool.false_ne_true]

/-- The command that `SM_MMW` is busy with after a cycle was at the head before it. -/
lemma head_write (h : Dispatch cfg s cs) {i : RmemIn} (hw : s.nextMmw cfg i ≠ .IDLE) : ∃ c r,
    cs = c :: r ∧ c.startMmioWrite cfg = true ∧ s.SM_MMR = .IDLE ∧
      nextCmds s i cs = c :: (r ++ i.tlx_afu_cmd.toList) := by
  have hhead : ∃ c r, cs = c :: r ∧ c.startMmioWrite cfg = true := by
    rcases Rmem.nextMmw_ne_idle hw with ⟨-, hs, -⟩ | ⟨hm, -⟩
    · exact h.start_head hs
    · exact h.mmw hm
  have hn : s.SM_MMW ≠ .WAIT_FOR_NEXT_CMD := by
    rcases Rmem.nextMmw_ne_idle hw with ⟨hm, -⟩ | ⟨-, hn⟩
    · rw [hm]
      decide
    · exact hn
  obtain ⟨c, r, rfl, hc⟩ := hhead
  obtain ⟨hr, hl⟩ := h.idle_of_write rfl hc
  refine ⟨c, r, rfl, hc, hr, ?_⟩
  rw [nextCmds_keep i (by rw [h.cmd_dispatched_eq, hr, hl, decide_eq_false hn]; rfl)]
  rfl

lemma head_read (h : Dispatch cfg s cs) {i : RmemIn} (hr : s.nextMmr cfg i ≠ .IDLE) : ∃ c r,
    cs = c :: r ∧ c.startMmioRead cfg = true ∧ s.SM_MMW = .IDLE ∧
      nextCmds s i cs = c :: (r ++ i.tlx_afu_cmd.toList) := by
  have hhead : ∃ c r, cs = c :: r ∧ c.startMmioRead cfg = true := by
    rcases Rmem.nextMmr_ne_idle hr with ⟨-, hs⟩ | ⟨hm, -⟩
    · exact h.start_head hs
    · exact h.mmr hm
  have hn : s.SM_MMR ≠ .WAIT_FOR_NEXT_CMD := by
    rcases Rmem.nextMmr_ne_idle hr with ⟨hm, -⟩ | ⟨-, hn⟩
    · rw [hm]
      decide
    · exact hn
  obtain ⟨c, r, rfl, hc⟩ := hhead
  obtain ⟨hw, hl⟩ := h.idle_of_read rfl hc
  refine ⟨c, r, rfl, hc, hw, ?_⟩
  rw [nextCmds_keep i (by rw [h.cmd_dispatched_eq, hw, hl, decide_eq_false hn]; rfl)]
  rfl

end Dispatch

/-! ## What a MMIO command has come to -/

@[simp] lemma RespDrive.or_zero (x : RespDrive) : x.or .zero = x := by simp [or, zero]

/-- A response as the state machines prepare it. -/
def RespDrive.mmioResp (r : RespDrive) : MmioResp := ⟨r.resp_opcode, r.resp_dl, r.resp_dp, r.resp_code⟩

namespace RmemAfu

variable (s : RmemAfu)

/-- What `SM_MMW` has latched of its command. -/
structure WriteOf (c : HostCmd) : Prop where
  pl : s.port.rmem.mmw_pl = c.pl
  addr : s.port.rmem.mmw_addr = c.pa
  capptag : s.port.mmw_capptag = c.capptag

/-- What `SM_MMR` has latched of its command. -/
structure ReadOf (c : HostCmd) : Prop where
  pl : s.port.mmr_pl = c.pl
  addr : s.port.mmr_addr = c.pa
  capptag : s.port.mmr_capptag = c.capptag

/-- The states of `SM_MMW` behind the write of `d`. -/
def WritePhase (c : HostCmd) (bytes : ℕ → BitVec 8) : SmMmw → Option DataFlit → Prop
  | .WAIT_FOR_DATA, none => s.regs.Settles bytes
  | .WAIT_FOR_MREG1, some d =>
      s.port.mmw_data_bdi = bit d 512 ∧ s.regs.Settles bytes ∧ s.mmio_mmw = some (writtenMmio c d)
  | .WAIT_FOR_MREG2, some d =>
      s.port.mmw_data_bdi = bit d 512 ∧ s.regs.Settles (storeBytes bytes c d) ∧
        ∃ (r : MmioRegs) (x : MmioIn), x.IsWriteOf c d ∧ s.regs = r.step x
  | .WAIT_FOR_MREG3, some d =>
      s.regs.Settles (storeBytes bytes c d) ∧
        ∀ i, s.port.mmwResp (s.portIn i) = (writeAnswer c d).mmioResp
  | .WAIT_FOR_RESP_CR, some d =>
      s.regs.Settles (storeBytes bytes c d) ∧ s.port.mmw_resp = (writeAnswer c d).mmioResp
  | .WAIT_FOR_NEXT_CMD, some d =>
      s.regs.Settles (storeBytes bytes c d) ∧ s.port.mmw_drive = writeAnswer c d
  | _, _ => False

/-- The states of `SM_MMR` behind a read. -/
def ReadPhase (c : HostCmd) (bytes : ℕ → BitVec 8) : SmMmr → Prop
  | .IDLE => False
  | .WAIT_FOR_MREG1 => ∃ (r : MmioRegs) (x : MmioIn), r.Settles bytes ∧ r.LowLoaded ∧ x.IsRead ∧
      x.reset = false ∧ x.addr = c.mmioAddr ∧ s.regs = r.step x
  | .WAIT_FOR_MREG2 =>
      (∀ i, s.port.mmrResp (s.portIn i) = ((readAnswer bytes c 0).mmioResp, decide (c.readError = none)))
        ∧ readData bytes c s.regs.final_rdata_q = s.regs.final_rdata_q
  | .WAIT_FOR_RESP_CR =>
      s.port.mmr_resp = (readAnswer bytes c 0).mmioResp ∧
        s.port.mmr_rdata_valid = decide (c.readError = none) ∧ s.port.mmr_rdata_bdi = false ∧
        readData bytes c s.port.mmr_rdata = s.port.mmr_rdata
  | .WAIT_FOR_NEXT_CMD => s.port.mmr_drive = readAnswer bytes c s.port.mmr_rdata

end RmemAfu

/-- **The AFU and the server**, with the commands `cs` in the command FIFO. -/
structure ServesMmio (cfg : RespPortConfig) (s : RmemAfu) (cs : List HostCmd) (a : MmioServer) : Prop where
  waiting : a.waiting = cs.filter (HostCmd.isMmio cfg.acs)
  mmw_valid : s.port.mmw_drive.resp_valid = decide (s.port.rmem.SM_MMW = .WAIT_FOR_NEXT_CMD)
  mmr_valid : s.port.mmr_drive.resp_valid = decide (s.port.rmem.SM_MMR = .WAIT_FOR_NEXT_CMD)
  low : s.port.rmem.SM_MMW ≠ .WAIT_FOR_MREG2 → s.regs.LowLoaded
  quiet : s.port.rmem.SM_MMW ≠ .WAIT_FOR_MREG1 → s.mmio_mmw = none
  idle : s.port.rmem.SM_MMW = .IDLE → a.flit = none ∧ s.regs.Settles a.bytes
  writes : s.port.rmem.SM_MMW ≠ .IDLE → ∀ c r, cs = c :: r →
    s.WriteOf c ∧ s.WritePhase c a.bytes s.port.rmem.SM_MMW a.flit
  reads : s.port.rmem.SM_MMR ≠ .IDLE → ∀ c r, cs = c :: r →
    s.ReadOf c ∧ s.ReadPhase c a.bytes s.port.rmem.SM_MMR

/-- After reset. -/
lemma serves_init (cfg : RespPortConfig) : ServesMmio cfg (rmemAfu cfg).init [] {} where
  waiting := rfl
  mmw_valid := rfl
  mmr_valid := rfl
  low _ _ _ _ := rfl
  quiet _ := rfl
  idle _ := by
    refine ⟨rfl, fun r hr k hk _ x => ?_, fun g hg k hk _ x => ?_⟩
    · obtain ⟨-, hlt, hinit⟩ := MmioRegs.storeRegs_base r hr
      change field r.init (8 * k) 8 = resetByte (r.base + k)
      rw [hinit, resetByte, if_neg (by omega)]
      simp [field]
    · change (0xFF : BitVec 8) = resetByte (0x200 + 8 * g + k)
      rw [resetByte, if_pos (by omega)]
  writes h := absurd rfl h
  reads h := absurd rfl h

/-! ## The wires to the registers -/

namespace RmemAfu

variable {cfg : RespPortConfig} {s : RmemAfu} {c : HostCmd} {d : DataFlit}

variable (cfg) in
lemma mmioIn_noWrite (h : s.mmio_mmw = none) (i : RmemAfuIn) : (s.mmioIn cfg i).NoWrite := by
  have hwr : ∀ pl, s.mmio_wr pl = false := fun pl => by rw [mmio_wr, h]; rfl
  exact ⟨rfl, hwr _, hwr _, hwr _, hwr _⟩

lemma mmioIn_away (h : s.mmio_mmw = none) (hrd : s.mmio_rd cfg = false) (i : RmemAfuIn) :
    (s.mmioIn cfg i).addr = 0 := by
  change ((s.mmio_mmw.map (·.mmio_addr)).getD 0 ||| (if s.mmio_rd cfg then _ else 0)).toNat = 0
  rw [h, hrd, if_neg Bool.false_ne_true]
  rfl

lemma mmioIn_write (h : s.mmio_mmw = some (writtenMmio c d)) (hrd : s.mmio_rd cfg = false)
    (i : RmemAfuIn) : (s.mmioIn cfg i).IsWriteOf c d := by
  have hwr : ∀ pl, s.mmio_wr pl = (!bit d 512 && c.pl == pl) := fun pl => by rw [mmio_wr, h]; rfl
  refine ⟨rfl, ?_, ?_, hwr _, hwr _, hwr _, hwr _, hrd⟩
  · change ((s.mmio_mmw.map (·.mmio_addr)).getD 0 ||| (if s.mmio_rd cfg then _ else 0)).toNat = _
    rw [h, hrd, if_neg Bool.false_ne_true]
    have hor : (field c.pa 0 20 ||| 0 : BitVec 20) = field c.pa 0 20 := by simp
    exact congrArg BitVec.toNat hor
  · change (s.mmio_mmw.map (·.mmio_wdata)).getD 0 = _
    rw [h]
    rfl

lemma mmioIn_read (h : s.mmio_mmw = none) (hrd : s.mmio_rd cfg = true)
    (hc : s.port.rmem.cff_cmd = c) (i : RmemAfuIn) :
    (s.mmioIn cfg i).IsRead ∧ (s.mmioIn cfg i).addr = c.mmioAddr := by
  have hno := mmioIn_noWrite cfg h i
  refine ⟨⟨hrd, ?_⟩, ?_⟩
  · rw [hno.wr_1B, hno.wr_2B, hno.wr_4B, hno.wr_8B]
    rfl
  · change ((s.mmio_mmw.map (·.mmio_addr)).getD 0 ||| (if s.mmio_rd cfg then _ else 0)).toNat = _
    rw [h, hrd, if_pos rfl, hc]
    have hor : (0 ||| field c.pa 0 20 : BitVec 20) = field c.pa 0 20 := by simp
    exact congrArg BitVec.toNat hor

/-! ## What the registers answer -/

lemma legal_size_eq (c : HostCmd) : RespPort.legal_size c.pl = decide (c.mmioSize ≠ none) := by
  have hpl : ∀ pl : BitVec 3, RespPort.legal_size pl = decide ((if pl = 0b000 then some 1
      else if pl = 0b001 then some 2 else if pl = 0b010 then some 4
      else if pl = 0b011 then some 8 else none : Option ℕ) ≠ none) := by
    decide
  exact hpl c.pl

lemma hole_eq {r : MmioRegs} {x : MmioIn} (haddr : x.addr = c.mmioAddr) :
    (r.step x).sel_addr_not_implemented = decide c.MmioHole := by
  rw [Bool.eq_iff_iff, decide_eq_true_iff, MmioRegs.not_implemented_step]
  rw [MmioIn.NotImplemented, HostCmd.MmioHole, haddr]

/-- Whether the operation is bad, for a write of good data and legal length. -/
lemma bad_op_eq {r : MmioRegs} {x : MmioIn} (hx : x.IsWriteOf c d) (hgood : bit d 512 = false)
    {n : ℕ} (hn : c.mmioSize = some n) :
    (r.step x).bad_op_or_align_d = !decide (c.mmioAddr % n = 0) := by
  have hsize : x.writeSize = some n := by rw [hx.writeSize, hgood, if_neg Bool.false_ne_true, hn]
  have hwrite : x.IsWrite := by
    by_contra hno
    rw [MmioIn.IsWrite, Bool.not_eq_true] at hno
    simp only [Bool.or_eq_false_iff] at hno
    rw [MmioIn.writeSize, hno.1.1.1, hno.1.1.2, hno.1.2, hno.2] at hsize
    cases hsize
  have hiff := r.bad_op_step hwrite
  rw [hsize, hx.addr] at hiff
  have hmod : (∃ m ∈ some n, c.mmioAddr % m = 0) ↔ c.mmioAddr % n = 0 := by simp
  rw [hmod] at hiff
  by_cases hal : c.mmioAddr % n = 0
  · rw [hiff.mpr hal, decide_eq_true hal]
    rfl
  · rw [decide_eq_false hal]
    exact Bool.eq_true_of_not_eq_false fun hf => hal (hiff.mp hf)

/-- The response of a write. -/
lemma mmwResp_eq (hbdi : s.port.mmw_data_bdi = bit d 512) (hpl : s.port.rmem.mmw_pl = c.pl)
    {r : MmioRegs} {x y : MmioIn} (hx : x.IsWriteOf c d) (hregs : s.regs = (r.step x).step y)
    (i : RmemAfuIn) : s.port.mmwResp (s.portIn i) = (writeAnswer c d).mmioResp := by
  have hhole : (s.portIn i).mmio_addr_not_implemented = decide c.MmioHole := by
    change s.regs.addr_not_implemented_q = _
    rw [hregs]
    exact hole_eq hx.addr
  have hbad : (s.portIn i).mmio_bad_op_or_align = (r.step x).bad_op_or_align_d := by
    change s.regs.bad_op_or_align_q = _
    rw [hregs]
    change (if x.reset then false else _) = _
    rw [hx.reset, if_neg Bool.false_ne_true]
  rw [RespPort.mmwResp, hbdi, hpl, hhole, hbad, legal_size_eq, writeAnswer, RespDrive.mmioResp,
    HostCmd.writeError]
  cases hgood : bit d 512 with
  | true => rfl
  | false =>
      by_cases hno : c.MmioHole
      · rw [decide_eq_true hno, if_neg Bool.false_ne_true, if_neg Bool.false_ne_true, if_pos hno]
        rfl
      · rw [decide_eq_false hno, if_neg Bool.false_ne_true, if_neg Bool.false_ne_true, if_neg hno]
        cases hn : c.mmioSize with
        | none => rfl
        | some n =>
            rw [bad_op_eq hx hgood hn]
            by_cases hal : c.mmioAddr % n = 0
            · simp [hal]
            · simp [hal]

/-- The response of a read, and whether it has data. -/
lemma mmrResp_eq (hpl : s.port.mmr_pl = c.pl) {r : MmioRegs} {x y : MmioIn} (hx : x.IsRead)
    (hreset : x.reset = false) (haddr : x.addr = c.mmioAddr) (hregs : s.regs = (r.step x).step y)
    (bytes : ℕ → BitVec 8) (i : RmemAfuIn) :
    s.port.mmrResp (s.portIn i)
      = ((readAnswer bytes c 0).mmioResp, decide (c.readError = none)) := by
  obtain ⟨hvld, hbad, hhole⟩ := r.read_flags hx hreset y
  rw [hole_eq haddr] at hhole
  rw [← hregs] at hvld hbad hhole
  have hvld' : (s.portIn i).mmio_rdata_vld = true := hvld
  have hbad' : (s.portIn i).mmio_bad_op_or_align = false := hbad
  have hhole' : (s.portIn i).mmio_addr_not_implemented = decide c.MmioHole := hhole
  rw [RespPort.mmrResp, hpl, hvld', hbad', hhole', legal_size_eq, readAnswer, RespDrive.mmioResp,
    HostCmd.readError]
  by_cases hno : c.MmioHole
  · simp [hno]
  · cases hn : c.mmioSize with
    | none => simp [hno]
    | some n => simp [hno]

end RmemAfu

/-! ## One cycle -/

namespace ServesMmio

variable {cfg : RespPortConfig} {s : RmemAfu} {cs : List HostCmd} {a : MmioServer} {d : Bool}
  {bs : List RffEntry}

lemma answered_iff (h : ServesMmio cfg s cs a) : s.mmioAnswered = true ↔
    s.port.rmem.SM_MMW = .WAIT_FOR_NEXT_CMD ∨ s.port.rmem.SM_MMR = .WAIT_FOR_NEXT_CMD := by
  rw [RmemAfu.mmioAnswered, h.mmw_valid, h.mmr_valid, Bool.or_eq_true, decide_eq_true_iff,
    decide_eq_true_iff]

/-- Neither data nor an answer. -/
lemma events_cmds (h : ServesMmio cfg s cs a) (i : RmemAfuIn)
    (hdata : s.port.rmem.SM_MMW = .WAIT_FOR_DATA → i.tlx_afu_cmd_data = none)
    (hw : s.port.rmem.SM_MMW ≠ .WAIT_FOR_NEXT_CMD) (hr : s.port.rmem.SM_MMR ≠ .WAIT_FOR_NEXT_CMD) :
    s.mmioEvents cfg i = (i.tlx_afu_cmd.toList.filter (HostCmd.isMmio cfg.acs)).map .cmd := by
  have hno : s.mmioAnswered = false :=
    Bool.eq_false_iff.mpr fun hans => (h.answered_iff.mp hans).elim hw hr
  rw [RmemAfu.mmioEvents, hno, if_neg Bool.false_ne_true, List.append_nil]
  by_cases hd : s.port.rmem.SM_MMW = .WAIT_FOR_DATA
  · rw [if_pos hd, hdata hd]
    rfl
  · rw [if_neg hd]
    rfl

lemma events_data (h : ServesMmio cfg s cs a) (hp : Dispatch cfg.acs s.port.rmem cs) {i : RmemAfuIn}
    {f : DataFlit} (hw : s.port.rmem.SM_MMW = .WAIT_FOR_DATA) (hf : i.tlx_afu_cmd_data = some f) :
    s.mmioEvents cfg i = .data f :: (i.tlx_afu_cmd.toList.filter (HostCmd.isMmio cfg.acs)).map .cmd := by
  have hno : s.mmioAnswered = false := by
    refine Bool.eq_false_iff.mpr fun hans => ?_
    have hr := hp.one_busy (by rw [hw]; decide)
    rcases h.answered_iff.mp hans with hx | hx
    · rw [hw] at hx
      cases hx
    · rw [hr] at hx
      cases hx
  rw [RmemAfu.mmioEvents, hno, if_neg Bool.false_ne_true, List.append_nil, if_pos hw, hf]
  rfl

lemma events_answer (h : ServesMmio cfg s cs a) (i : RmemAfuIn)
    (hnext : s.port.rmem.SM_MMW = .WAIT_FOR_NEXT_CMD ∨ s.port.rmem.SM_MMR = .WAIT_FOR_NEXT_CMD)
    (hw : s.port.rmem.SM_MMW ≠ .WAIT_FOR_DATA) :
    s.mmioEvents cfg i = .answer s.port.mmr_rdata
      :: (i.tlx_afu_cmd.toList.filter (HostCmd.isMmio cfg.acs)).map .cmd := by
  rw [RmemAfu.mmioEvents, h.answered_iff.mpr hnext, if_pos rfl, if_neg hw]
  rfl

/-- The server after the cycle. -/
def next (cfg : RespPortConfig) (s : RmemAfu) (i : RmemAfuIn) (a : MmioServer) : MmioServer :=
  (mmioServer cfg.acs).runFrom a (s.mmioEvents cfg i)

/-- While no command is answered the bytes stay. -/
lemma next_rest (h : ServesMmio cfg s cs a) (i : RmemAfuIn)
    (hdata : s.port.rmem.SM_MMW = .WAIT_FOR_DATA → i.tlx_afu_cmd_data = none)
    (hw : s.port.rmem.SM_MMW ≠ .WAIT_FOR_NEXT_CMD) (hr : s.port.rmem.SM_MMR ≠ .WAIT_FOR_NEXT_CMD) :
    (next cfg s i a).flit = a.flit ∧ (next cfg s i a).bytes = a.bytes := by
  rw [next, h.events_cmds i hdata hw hr, MmioServer.runFrom_cmds]
  exact ⟨rfl, rfl⟩

lemma next_data (h : ServesMmio cfg s cs a) (hp : Dispatch cfg.acs s.port.rmem cs) {i : RmemAfuIn}
    {f : DataFlit} (hw : s.port.rmem.SM_MMW = .WAIT_FOR_DATA) (hf : i.tlx_afu_cmd_data = some f) :
    (next cfg s i a).flit = some f ∧ (next cfg s i a).bytes = a.bytes := by
  rw [next, h.events_data hp hw hf, Machine.runFrom_cons, MmioServer.runFrom_cmds]
  exact ⟨rfl, rfl⟩

lemma next_answer (h : ServesMmio cfg s cs a) (i : RmemAfuIn)
    (hnext : s.port.rmem.SM_MMW = .WAIT_FOR_NEXT_CMD ∨ s.port.rmem.SM_MMR = .WAIT_FOR_NEXT_CMD)
    (hw : s.port.rmem.SM_MMW ≠ .WAIT_FOR_DATA) :
    (next cfg s i a).flit = none
      ∧ (next cfg s i a).bytes = (MmioServer.step cfg.acs a (.answer s.port.mmr_rdata)).bytes := by
  rw [next, h.events_answer i hnext hw, Machine.runFrom_cons, MmioServer.runFrom_cmds]
  exact ⟨rfl, rfl⟩

/-- The commands that wait. -/
lemma next_waiting (h : ServesMmio cfg s cs a) (hp : Dispatch cfg.acs s.port.rmem cs) (i : RmemAfuIn) :
    (next cfg s i a).waiting
      = (Dispatch.nextCmds s.port.rmem (s.wires i) cs).filter (HostCmd.isMmio cfg.acs) := by
  rw [hp.waiting_next, ← h.waiting]
  by_cases hnext : s.port.rmem.SM_MMW = .WAIT_FOR_NEXT_CMD ∨ s.port.rmem.SM_MMR = .WAIT_FOR_NEXT_CMD
  · have hw : s.port.rmem.SM_MMW ≠ .WAIT_FOR_DATA := by
      intro hw
      have hr := hp.one_busy (by rw [hw]; decide)
      rcases hnext with hx | hx
      · rw [hw] at hx
        cases hx
      · rw [hr] at hx
        cases hx
    rw [if_pos hnext, next, h.events_answer i hnext hw, Machine.runFrom_cons, MmioServer.runFrom_cmds]
    rfl
  · obtain ⟨hw, hr⟩ := not_or.mp hnext
    rw [if_neg hnext]
    by_cases hd : s.port.rmem.SM_MMW = .WAIT_FOR_DATA
    · cases hf : i.tlx_afu_cmd_data with
      | none =>
          rw [next, h.events_cmds i (fun _ => hf) hw hr, MmioServer.runFrom_cmds]
          rfl
      | some f =>
          rw [next, h.events_data hp hd hf, Machine.runFrom_cons, MmioServer.runFrom_cmds]
          rfl
    · rw [next, h.events_cmds i (fun hx => absurd hx hd) hw hr, MmioServer.runFrom_cmds]
      rfl

/-! ### The state machines -/

lemma mmw_valid_next (cfg : RespPortConfig) (s : RmemAfu) (i : RmemAfuIn) :
    (s.step cfg i).port.mmw_drive.resp_valid
      = decide ((s.step cfg i).port.rmem.SM_MMW = .WAIT_FOR_NEXT_CMD) := by
  rw [Bool.eq_iff_iff, decide_eq_true_iff]
  change s.port.nextMmwDrive.resp_valid = true ↔ s.port.rmem.nextMmw cfg.acs (s.wires i) = _
  rw [Rmem.nextMmw_eq_next, RespPort.nextMmwDrive]
  split_ifs with hw
  · change s.port.mmwSends = true ↔ _
    rw [RespPort.mmwSends, Bool.and_eq_true, decide_eq_true_iff, decide_eq_true_iff]
    rfl
  · exact iff_of_false Bool.false_ne_true fun hx => hw hx.1

lemma mmr_valid_next (cfg : RespPortConfig) (s : RmemAfu) (i : RmemAfuIn) :
    (s.step cfg i).port.mmr_drive.resp_valid
      = decide ((s.step cfg i).port.rmem.SM_MMR = .WAIT_FOR_NEXT_CMD) := by
  rw [Bool.eq_iff_iff, decide_eq_true_iff]
  change (s.port.nextMmrDrive (s.portIn i)).resp_valid = true
    ↔ s.port.rmem.nextMmr cfg.acs (s.wires i) = _
  rw [Rmem.nextMmr_eq_next, RespPort.nextMmrDrive]
  split_ifs with hr
  · change s.port.mmrSends (s.portIn i) = true ↔ _
    rw [RespPort.mmrSends, Bool.and_eq_true, decide_eq_true_iff]
    rfl
  · exact iff_of_false Bool.false_ne_true fun hx => hr hx.1

/-- A MMIO read is started only by `SM_MMR` on the head. -/
lemma not_rd_of_busy (hp : Dispatch cfg.acs s.port.rmem cs) (hw : s.port.rmem.SM_MMW ≠ .IDLE) :
    s.mmio_rd cfg = false := by
  obtain ⟨c, r, rfl, hc⟩ := hp.mmw hw
  have hstart : s.port.rmem.start_mmio_read cfg.acs = false :=
    (hp.start_cons _).trans (Dispatch.write_ne_read hc)
  rw [RmemAfu.mmio_rd, hstart, Bool.and_false, Bool.false_and]

lemma mmioWrite_eq (s : RmemAfu) (i : RmemAfuIn) (hw : s.port.rmem.SM_MMW ≠ .WAIT_FOR_DATA) :
    s.port.rmem.mmioWrite (s.wires i) = none := by
  rw [Rmem.mmioWrite, if_neg hw]

lemma quiet_next (cfg : RespPortConfig) (s : RmemAfu) (i : RmemAfuIn)
    (hw : (s.step cfg i).port.rmem.SM_MMW ≠ .WAIT_FOR_MREG1) : (s.step cfg i).mmio_mmw = none := by
  change s.port.rmem.mmioWrite (s.wires i) = none
  by_cases hd : s.port.rmem.SM_MMW = .WAIT_FOR_DATA
  · cases hf : i.tlx_afu_cmd_data with
    | none =>
        rw [Rmem.mmioWrite, if_pos hd]
        exact congrArg (Option.map _) hf
    | some f =>
        refine absurd ?_ hw
        change s.port.rmem.nextMmw cfg.acs (s.wires i) = _
        have hdata : (s.wires i).tlx_afu_cmd_data = some f := hf
        rw [Rmem.nextMmw, hd]
        change (if (s.wires i).tlx_afu_cmd_data.isSome then SmMmw.WAIT_FOR_MREG1 else _) = _
        rw [hdata]
        rfl
  · exact mmioWrite_eq s i hd

lemma low_next (h : ServesMmio cfg s cs a) (hp : Dispatch cfg.acs s.port.rmem cs) (i : RmemAfuIn)
    (hw : (s.step cfg i).port.rmem.SM_MMW ≠ .WAIT_FOR_MREG2) : (s.step cfg i).regs.LowLoaded := by
  have hmreg1 : s.port.rmem.SM_MMW ≠ .WAIT_FOR_MREG1 := by
    intro hm
    refine hw ?_
    change s.port.rmem.nextMmw cfg.acs (s.wires i) = _
    rw [Rmem.nextMmw, hm]
  have hquiet := h.quiet hmreg1
  by_cases hm : s.port.rmem.SM_MMW = .WAIT_FOR_MREG2
  · -- the write has been latched, and the row is no longer addressed
    have hrd := not_rd_of_busy hp (by rw [hm]; decide)
    have haway := RmemAfu.mmioIn_away hquiet hrd i
    exact MmioRegs.lowLoaded_of_away s.regs rfl (by omega)
  · exact (h.low hm).step_noWrite (RmemAfu.mmioIn_noWrite cfg hquiet i)

/-! ### Idle -/

lemma mmw_idle_cases {cfg : AcsConfig} {s : Rmem} {i : RmemIn} (h : s.nextMmw cfg i = .IDLE) :
    s.SM_MMW = .IDLE ∨ s.SM_MMW = .WAIT_FOR_NEXT_CMD := by
  rw [Rmem.nextMmw] at h
  cases hm : s.SM_MMW with
  | IDLE => exact .inl rfl
  | WAIT_FOR_NEXT_CMD => exact .inr rfl
  | WAIT_FOR_DATA | WAIT_FOR_MREG1 | WAIT_FOR_MREG2 | WAIT_FOR_MREG3 | WAIT_FOR_RESP_CR =>
      rw [hm] at h
      simp only at h
      first | cases h | (split_ifs at h)

lemma step_answer_none (cfg : AcsConfig) {a : MmioServer} (h : a.flit = none) (v : BitVec 64) :
    (MmioServer.step cfg a (.answer v)).bytes = a.bytes := by
  obtain ⟨waiting, flit, bytes⟩ := a
  change flit = none at h
  subst h
  cases waiting <;> rfl

/-- While `SM_MMW` is idle nothing is written. -/
lemma next_idle (h : ServesMmio cfg s cs a) (i : RmemAfuIn) (hw : s.port.rmem.SM_MMW = .IDLE) :
    (next cfg s i a).flit = none ∧ (next cfg s i a).bytes = a.bytes
      ∧ (s.step cfg i).regs.Settles a.bytes := by
  obtain ⟨hflit, hset⟩ := h.idle hw
  have hregs := hset.step_noWrite (RmemAfu.mmioIn_noWrite cfg
    (h.quiet (by rw [hw]; decide)) i)
  by_cases hr : s.port.rmem.SM_MMR = .WAIT_FOR_NEXT_CMD
  · obtain ⟨hf, hb⟩ := h.next_answer i (.inr hr) (by rw [hw]; decide)
    exact ⟨hf, hb.trans (step_answer_none cfg.acs hflit _), hregs⟩
  · obtain ⟨hf, hb⟩ := h.next_rest i (fun hx => by rw [hw] at hx; cases hx) (by rw [hw]; decide) hr
    exact ⟨hf.trans hflit, hb, hregs⟩

lemma idle_next (h : ServesMmio cfg s cs a) (hp : Dispatch cfg.acs s.port.rmem cs) (i : RmemAfuIn)
    (hw : (s.step cfg i).port.rmem.SM_MMW = .IDLE) :
    (next cfg s i a).flit = none ∧ (s.step cfg i).regs.Settles (next cfg s i a).bytes := by
  rcases mmw_idle_cases (i := s.wires i) hw with hm | hm
  · obtain ⟨hf, hb, hset⟩ := h.next_idle i hm
    rw [hb]
    exact ⟨hf, hset⟩
  · -- the write has been answered
    obtain ⟨c, r, rfl, hc⟩ := hp.mmw (by rw [hm]; decide)
    obtain ⟨-, hphase⟩ := h.writes (by rw [hm]; decide) c r rfl
    rw [hm] at hphase
    obtain ⟨hf, hb⟩ := h.next_answer i (.inl hm) (by rw [hm]; decide)
    have hwait := h.waiting
    have hmmio : c.isMmio cfg.acs = true := by rw [HostCmd.isMmio, hc, Bool.true_or]
    rw [List.filter_cons_of_pos hmmio] at hwait
    refine ⟨hf, ?_⟩
    cases hflit : a.flit with
    | none =>
        rw [hflit] at hphase
        exact hphase.elim
    | some f =>
        rw [hflit] at hphase
        have hbytes : (MmioServer.step cfg.acs a (.answer s.port.mmr_rdata)).bytes
            = storeBytes a.bytes c f := by
          rw [MmioServer.step, hwait, hflit]
          exact if_pos hc
        rw [hb, hbytes]
        exact hphase.1.step_noWrite (RmemAfu.mmioIn_noWrite cfg (h.quiet (by rw [hm]; decide)) i)

/-! ### A write -/

/-- `SM_MMW` starts on the head. -/
lemma write_start (h : ServesMmio cfg s cs a) {c : HostCmd} {r : List HostCmd}
    (hp : Dispatch cfg.acs s.port.rmem (c :: r)) (i : RmemAfuIn) (hm : s.port.rmem.SM_MMW = .IDLE)
    (hw : (s.step cfg i).port.rmem.SM_MMW ≠ .IDLE) :
    (s.step cfg i).WriteOf c ∧ (s.step cfg i).WritePhase c (next cfg s i a).bytes
      (s.step cfg i).port.rmem.SM_MMW (next cfg s i a).flit := by
  have hhead := hp.cff_cmd_cons
  have hnext : (s.step cfg i).port.rmem.SM_MMW = .WAIT_FOR_DATA := by
    change s.port.rmem.nextMmw cfg.acs (s.wires i) = _
    change s.port.rmem.nextMmw cfg.acs (s.wires i) ≠ _ at hw
    rw [Rmem.nextMmw, hm] at hw ⊢
    simp only at hw ⊢
    by_cases hs : (s.port.rmem.start_mmio_write cfg.acs && s.port.rmem.pipe_is_locked) = true
    · rw [if_pos hs]
    · rw [if_neg hs] at hw
      exact absurd rfl hw
  obtain ⟨hf, hb, hset⟩ := h.next_idle i hm
  refine ⟨⟨?_, ?_, ?_⟩, ?_⟩
  · change (if s.port.rmem.SM_MMW = .IDLE then s.port.rmem.cff_cmd.pl else _) = _
    rw [if_pos hm, hhead]
  · change (if s.port.rmem.SM_MMW = .IDLE then s.port.rmem.cff_cmd.pa else _) = _
    rw [if_pos hm, hhead]
  · change (if s.port.rmem.SM_MMW = .IDLE then s.port.rmem.cff_cmd.capptag else _) = _
    rw [if_pos hm, hhead]
  · rw [hnext, hf, hb]
    exact hset

/-- What has been latched stays while `SM_MMW` is busy. -/
lemma writeOf_next {c : HostCmd} (h : s.WriteOf c) (i : RmemAfuIn) (hm : s.port.rmem.SM_MMW ≠ .IDLE) :
    (s.step cfg i).WriteOf c := by
  refine ⟨?_, ?_, ?_⟩
  · change (if s.port.rmem.SM_MMW = .IDLE then _ else s.port.rmem.mmw_pl) = _
    rw [if_neg hm, h.pl]
  · change (if s.port.rmem.SM_MMW = .IDLE then _ else s.port.rmem.mmw_addr) = _
    rw [if_neg hm, h.addr]
  · change (if s.port.rmem.SM_MMW = .IDLE then _ else s.port.mmw_capptag) = _
    rw [if_neg hm, h.capptag]

/-- `SM_MMW` goes on, behind the data. -/
lemma write_on (h : ServesMmio cfg s cs a) {c : HostCmd} {r : List HostCmd}
    (hp : Dispatch cfg.acs s.port.rmem cs) (hcs : cs = c :: r) (i : RmemAfuIn)
    (hm : s.port.rmem.SM_MMW ≠ .IDLE) (hdata : s.port.rmem.SM_MMW ≠ .WAIT_FOR_DATA)
    (hn : s.port.rmem.SM_MMW ≠ .WAIT_FOR_NEXT_CMD) :
    (s.step cfg i).WritePhase c (next cfg s i a).bytes
      (s.step cfg i).port.rmem.SM_MMW (next cfg s i a).flit := by
  obtain ⟨hof, hphase⟩ := h.writes hm c r hcs
  have hr := hp.one_busy hm
  have hrd := not_rd_of_busy hp hm
  obtain ⟨hf, hb⟩ := h.next_rest i (fun hx => absurd hx hdata) hn (by rw [hr]; decide)
  have hsm : (s.step cfg i).port.rmem.SM_MMW = s.port.rmem.nextMmw cfg.acs (s.wires i) := rfl
  have hbdi : (s.step cfg i).port.mmw_data_bdi = s.port.mmw_data_bdi := if_neg hdata
  have hpl : (s.step cfg i).port.rmem.mmw_pl = c.pl := (writeOf_next hof i hm).pl
  rw [hf, hb, hsm]
  cases hflit : a.flit with
  | none =>
      rw [hflit] at hphase
      cases hsw : s.port.rmem.SM_MMW with
      | WAIT_FOR_DATA => exact absurd hsw hdata
      | IDLE => exact absurd hsw hm
      | WAIT_FOR_MREG1 | WAIT_FOR_MREG2 | WAIT_FOR_MREG3 | WAIT_FOR_RESP_CR | WAIT_FOR_NEXT_CMD =>
          rw [hsw] at hphase
          exact hphase.elim
  | some f =>
      rw [hflit] at hphase
      cases hsw : s.port.rmem.SM_MMW with
      | IDLE => exact absurd hsw hm
      | WAIT_FOR_DATA => exact absurd hsw hdata
      | WAIT_FOR_NEXT_CMD => exact absurd hsw hn
      | WAIT_FOR_MREG1 =>
          rw [hsw] at hphase
          obtain ⟨hbad, hset, hmmio⟩ := hphase
          have hx := RmemAfu.mmioIn_write hmmio hrd i
          rw [Rmem.nextMmw, hsw]
          exact ⟨hbdi.trans hbad, hset.step_write hx, s.regs, s.mmioIn cfg i, hx, rfl⟩
      | WAIT_FOR_MREG2 =>
          rw [hsw] at hphase
          obtain ⟨hbad, hset, r, x, hx, hregs⟩ := hphase
          rw [Rmem.nextMmw, hsw]
          refine ⟨hset.step_noWrite (RmemAfu.mmioIn_noWrite cfg (h.quiet (by rw [hsw]; decide)) i),
            fun j => ?_⟩
          have hregs' : (s.step cfg i).regs = (r.step x).step (s.mmioIn cfg i) := by
            rw [← hregs]
            rfl
          exact RmemAfu.mmwResp_eq (hbdi.trans hbad) hpl hx hregs' j
      | WAIT_FOR_MREG3 =>
          rw [hsw] at hphase
          obtain ⟨hset, hresp⟩ := hphase
          rw [Rmem.nextMmw, hsw]
          refine ⟨hset.step_noWrite (RmemAfu.mmioIn_noWrite cfg (h.quiet (by rw [hsw]; decide)) i), ?_⟩
          change (if s.port.rmem.SM_MMW = .WAIT_FOR_MREG3 then s.port.mmwResp (s.portIn i) else _) = _
          rw [if_pos hsw, hresp i]
      | WAIT_FOR_RESP_CR =>
          rw [hsw] at hphase
          obtain ⟨hset, hresp⟩ := hphase
          have hset' := hset.step_noWrite (RmemAfu.mmioIn_noWrite cfg
            (h.quiet (by rw [hsw]; decide)) i)
          rw [Rmem.nextMmw, hsw]
          change RmemAfu.WritePhase _ c a.bytes (if 1 ≤ (s.wires i).tarc_credits_available.toNat
            then .WAIT_FOR_NEXT_CMD else .WAIT_FOR_RESP_CR) _
          split_ifs with hcr
          · refine ⟨hset', ?_⟩
            have hsends : s.port.mmwSends = true := by
              rw [RespPort.mmwSends, hsw, decide_eq_true rfl, Bool.true_and]
              exact decide_eq_true hcr
            change s.port.nextMmwDrive = _
            rw [RespPort.nextMmwDrive, if_pos hsw, hsends, hresp, hof.capptag]
            rfl
          · refine ⟨hset', ?_⟩
            change (if s.port.rmem.SM_MMW = .WAIT_FOR_MREG3 then _ else s.port.mmw_resp) = _
            rw [if_neg (by rw [hsw]; decide), hresp]

/-- `SM_MMW` waits for data, or takes it. -/
lemma write_data (h : ServesMmio cfg s cs a) {c : HostCmd} {r : List HostCmd}
    (hp : Dispatch cfg.acs s.port.rmem cs) (hcs : cs = c :: r) (i : RmemAfuIn)
    (hm : s.port.rmem.SM_MMW = .WAIT_FOR_DATA) :
    (s.step cfg i).WritePhase c (next cfg s i a).bytes
      (s.step cfg i).port.rmem.SM_MMW (next cfg s i a).flit := by
  obtain ⟨hof, hphase⟩ := h.writes (by rw [hm]; decide) c r hcs
  have hr := hp.one_busy (by rw [hm]; decide)
  rw [hm] at hphase
  have hflit : a.flit = none := by
    cases hflit : a.flit with
    | none => rfl
    | some f =>
        rw [hflit] at hphase
        exact hphase.elim
  rw [hflit] at hphase
  have hset := MmioRegs.Settles.step_noWrite hphase (RmemAfu.mmioIn_noWrite cfg
    (h.quiet (by rw [hm]; decide)) i)
  have hsm : (s.step cfg i).port.rmem.SM_MMW
      = if i.tlx_afu_cmd_data.isSome then .WAIT_FOR_MREG1 else .WAIT_FOR_DATA := by
    change s.port.rmem.nextMmw cfg.acs (s.wires i) = _
    rw [Rmem.nextMmw, hm]
    rfl
  cases hf : i.tlx_afu_cmd_data with
  | none =>
      obtain ⟨hnf, hnb⟩ := h.next_rest i (fun _ => hf) (by rw [hm]; decide) (by rw [hr]; decide)
      rw [hsm, hf, hnf, hnb, hflit]
      exact hset
  | some f =>
      obtain ⟨hnf, hnb⟩ := h.next_data hp hm hf
      rw [hsm, hf, hnf, hnb]
      refine ⟨?_, hset, ?_⟩
      · change (if s.port.rmem.SM_MMW = .WAIT_FOR_DATA then
          (i.tlx_afu_cmd_data.map fun d => bit d 512).getD s.port.mmw_data_bdi else _) = _
        rw [if_pos hm, hf]
        rfl
      · subst hcs
        change s.port.rmem.mmioWrite (s.wires i) = _
        have hdata : (s.wires i).tlx_afu_cmd_data = some f := hf
        rw [Rmem.mmioWrite, if_pos hm, hdata, hof.addr, hof.pl, hp.cff_cmd_cons]
        rfl

lemma writes_next (h : ServesMmio cfg s cs a) (hp : Dispatch cfg.acs s.port.rmem cs) (i : RmemAfuIn)
    (hw : (s.step cfg i).port.rmem.SM_MMW ≠ .IDLE) (c : HostCmd) (r : List HostCmd)
    (hcs : Dispatch.nextCmds s.port.rmem (s.wires i) cs = c :: r) :
    (s.step cfg i).WriteOf c ∧ (s.step cfg i).WritePhase c (next cfg s i a).bytes
      (s.step cfg i).port.rmem.SM_MMW (next cfg s i a).flit := by
  obtain ⟨c', r', hcs', -, -, hkeep⟩ := hp.head_write (i := s.wires i) hw
  rw [hkeep] at hcs
  obtain ⟨rfl, -⟩ := List.cons.inj hcs
  by_cases hm : s.port.rmem.SM_MMW = .IDLE
  · exact h.write_start (hcs' ▸ hp) i hm hw
  · have hn : s.port.rmem.SM_MMW ≠ .WAIT_FOR_NEXT_CMD := by
      rcases Rmem.nextMmw_ne_idle (i := s.wires i) hw with ⟨hx, -⟩ | ⟨-, hx⟩
      · exact absurd hx hm
      · exact hx
    refine ⟨writeOf_next (h.writes hm _ r' hcs').1 i hm, ?_⟩
    by_cases hd : s.port.rmem.SM_MMW = .WAIT_FOR_DATA
    · exact h.write_data hp hcs' i hd
    · exact h.write_on hp hcs' i hm hd hn

/-! ### A read -/

/-- `SM_MMR` starts on the head, and the registers are asked in the same cycle. -/
lemma read_start (h : ServesMmio cfg s cs a) {c : HostCmd} {r : List HostCmd}
    (hp : Dispatch cfg.acs s.port.rmem (c :: r)) (i : RmemAfuIn) (hw : s.port.rmem.SM_MMW = .IDLE)
    (hm : s.port.rmem.SM_MMR = .IDLE) (hr : (s.step cfg i).port.rmem.SM_MMR ≠ .IDLE) :
    (s.step cfg i).ReadOf c
      ∧ (s.step cfg i).ReadPhase c a.bytes (s.step cfg i).port.rmem.SM_MMR := by
  have hhead := hp.cff_cmd_cons
  have hstart : (s.port.rmem.start_mmio_read cfg.acs && s.port.rmem.pipe_is_locked) = true := by
    by_contra hs
    refine hr ?_
    change s.port.rmem.nextMmr cfg.acs (s.wires i) = _
    rw [Rmem.nextMmr, hm]
    exact if_neg hs
  have hnext : (s.step cfg i).port.rmem.SM_MMR = .WAIT_FOR_MREG1 := by
    change s.port.rmem.nextMmr cfg.acs (s.wires i) = _
    rw [Rmem.nextMmr, hm]
    exact if_pos hstart
  have hrd : s.mmio_rd cfg = true := by
    rw [RmemAfu.mmio_rd, hm, decide_eq_true rfl, Bool.true_and]
    exact hstart
  obtain ⟨hread, haddr⟩ := RmemAfu.mmioIn_read (h.quiet (by rw [hw]; decide)) hrd hhead i
  refine ⟨⟨?_, ?_, ?_⟩, ?_⟩
  · change (if s.port.rmem.SM_MMR = .IDLE then s.port.rmem.cff_cmd.pl else _) = _
    rw [if_pos hm, hhead]
  · change (if s.port.rmem.SM_MMR = .IDLE then s.port.rmem.cff_cmd.pa else _) = _
    rw [if_pos hm, hhead]
  · change (if s.port.rmem.SM_MMR = .IDLE then s.port.rmem.cff_cmd.capptag else _) = _
    rw [if_pos hm, hhead]
  · rw [hnext]
    exact ⟨s.regs, s.mmioIn cfg i, (h.idle hw).2, h.low (by rw [hw]; decide), hread, rfl, haddr, rfl⟩

lemma readOf_next {c : HostCmd} (h : s.ReadOf c) (i : RmemAfuIn) (hm : s.port.rmem.SM_MMR ≠ .IDLE) :
    (s.step cfg i).ReadOf c := by
  refine ⟨?_, ?_, ?_⟩
  · change (if s.port.rmem.SM_MMR = .IDLE then _ else s.port.mmr_pl) = _
    rw [if_neg hm, h.pl]
  · change (if s.port.rmem.SM_MMR = .IDLE then _ else s.port.mmr_addr) = _
    rw [if_neg hm, h.addr]
  · change (if s.port.rmem.SM_MMR = .IDLE then _ else s.port.mmr_capptag) = _
    rw [if_neg hm, h.capptag]

/-- What the registers show of a row that can be read. -/
lemma readData_eq {bytes : ℕ → BitVec 8} {c : HostCmd} {r : MmioRegs} {x : MmioIn}
    (hset : r.Settles bytes) (hlow : r.LowLoaded) (hread : x.IsRead) (haddr : x.addr = c.mmioAddr)
    (y : MmioIn) : readData bytes c ((r.step x).step y).final_rdata_q
      = ((r.step x).step y).final_rdata_q := by
  rw [readData]
  split_ifs with hok
  · obtain ⟨herr, hin⟩ := hok
    have hb : Readable x.addr := by
      rw [haddr]
      refine ⟨hin, fun hx => ?_⟩
      rw [HostCmd.readError, if_pos (.inl (by omega))] at herr
      cases herr
    rw [hset.read hlow hread hb y, haddr]
  · rfl

/-- `SM_MMR` goes on. -/
lemma read_on (h : ServesMmio cfg s cs a) {c : HostCmd} {r : List HostCmd} (hcs : cs = c :: r)
    (i : RmemAfuIn) (hm : s.port.rmem.SM_MMR ≠ .IDLE) (hn : s.port.rmem.SM_MMR ≠ .WAIT_FOR_NEXT_CMD) :
    (s.step cfg i).ReadPhase c a.bytes (s.step cfg i).port.rmem.SM_MMR := by
  obtain ⟨hof, hphase⟩ := h.reads hm c r hcs
  have hsm : (s.step cfg i).port.rmem.SM_MMR = s.port.rmem.nextMmr cfg.acs (s.wires i) := rfl
  have hpl : (s.step cfg i).port.mmr_pl = c.pl := (readOf_next hof i hm).pl
  rw [hsm]
  cases hsr : s.port.rmem.SM_MMR with
  | IDLE => exact absurd hsr hm
  | WAIT_FOR_NEXT_CMD => exact absurd hsr hn
  | WAIT_FOR_MREG1 =>
      rw [hsr] at hphase
      obtain ⟨r, x, hset, hlow, hread, hreset, haddr, hregs⟩ := hphase
      have hregs' : (s.step cfg i).regs = (r.step x).step (s.mmioIn cfg i) := by
        rw [← hregs]
        rfl
      rw [Rmem.nextMmr, hsr]
      refine ⟨fun j => RmemAfu.mmrResp_eq hpl hread hreset haddr hregs' a.bytes j, ?_⟩
      rw [hregs']
      exact readData_eq hset hlow hread haddr _
  | WAIT_FOR_MREG2 =>
      rw [hsr] at hphase
      obtain ⟨hresp, hdata⟩ := hphase
      rw [Rmem.nextMmr, hsr]
      refine ⟨?_, ?_, ?_, ?_⟩
      · change (if s.port.rmem.SM_MMR = .WAIT_FOR_MREG2 then (s.port.mmrResp (s.portIn i)).1 else _) = _
        rw [if_pos hsr, hresp i]
      · change (if s.port.rmem.SM_MMR = .WAIT_FOR_MREG2 then (s.port.mmrResp (s.portIn i)).2 else _) = _
        rw [if_pos hsr, hresp i]
      · change (if s.port.rmem.SM_MMR = .WAIT_FOR_MREG2 then false else _) = _
        rw [if_pos hsr]
      · have hrdata : (s.step cfg i).port.mmr_rdata = s.regs.final_rdata_q := if_pos hsr
        rw [hrdata]
        exact hdata
  | WAIT_FOR_RESP_CR =>
      rw [hsr] at hphase
      obtain ⟨hresp, hvalid, hbdi, hdata⟩ := hphase
      have hne : s.port.rmem.SM_MMR ≠ .WAIT_FOR_MREG2 := by rw [hsr]; decide
      have hrdata : (s.step cfg i).port.mmr_rdata = s.port.mmr_rdata := if_neg hne
      rw [Rmem.nextMmr, hsr]
      change RmemAfu.ReadPhase _ c a.bytes (if (s.wires i).mmrRespSent then .WAIT_FOR_NEXT_CMD
        else .WAIT_FOR_RESP_CR)
      split_ifs with hsent
      · have hsends : s.port.mmrSends (s.portIn i) = true := by
          rw [RespPort.mmrSends, hsr, decide_eq_true rfl, Bool.true_and]
          exact hsent
        have hans : readAnswer a.bytes c s.port.mmr_rdata = { readAnswer a.bytes c 0 with
            rdata_bus := setField 0 ((field c.pa 3 3).toNat * 64) s.port.mmr_rdata } := by
          rw [readAnswer, hdata]
          rfl
        change s.port.nextMmrDrive (s.portIn i) = readAnswer a.bytes c (s.step cfg i).port.mmr_rdata
        rw [RespPort.nextMmrDrive, if_pos hsr, hsends, hresp, hvalid, hbdi, hof.capptag, hrdata,
          RespPort.mmr_rdata_flit, hof.addr, hans]
        rfl
      · refine ⟨?_, ?_, ?_, ?_⟩
        · change (if s.port.rmem.SM_MMR = .WAIT_FOR_MREG2 then _ else s.port.mmr_resp) = _
          rw [if_neg hne, hresp]
        · change (if s.port.rmem.SM_MMR = .WAIT_FOR_MREG2 then _ else s.port.mmr_rdata_valid) = _
          rw [if_neg hne, hvalid]
        · change (if s.port.rmem.SM_MMR = .WAIT_FOR_MREG2 then _ else s.port.mmr_rdata_bdi) = _
          rw [if_neg hne, hbdi]
        · rw [hrdata]
          exact hdata

lemma reads_next (h : ServesMmio cfg s cs a) (hp : Dispatch cfg.acs s.port.rmem cs) (i : RmemAfuIn)
    (hr : (s.step cfg i).port.rmem.SM_MMR ≠ .IDLE) (c : HostCmd) (r : List HostCmd)
    (hcs : Dispatch.nextCmds s.port.rmem (s.wires i) cs = c :: r) :
    (s.step cfg i).ReadOf c ∧ (s.step cfg i).ReadPhase c (next cfg s i a).bytes
      (s.step cfg i).port.rmem.SM_MMR := by
  obtain ⟨c', r', hcs', -, hw, hkeep⟩ := hp.head_read (i := s.wires i) hr
  rw [hkeep] at hcs
  obtain ⟨rfl, -⟩ := List.cons.inj hcs
  rw [(h.next_idle i hw).2.1]
  by_cases hm : s.port.rmem.SM_MMR = .IDLE
  · exact h.read_start (hcs' ▸ hp) i hw hm hr
  · have hn : s.port.rmem.SM_MMR ≠ .WAIT_FOR_NEXT_CMD := by
      rcases Rmem.nextMmr_ne_idle (i := s.wires i) hr with ⟨hx, -⟩ | ⟨-, hx⟩
      · exact absurd hx hm
      · exact hx
    exact ⟨readOf_next (h.reads hm _ r' hcs').1 i hm, h.read_on hcs' i hm hn⟩

/-- **One cycle.** -/
theorem step (h : ServesMmio cfg s cs a) (hp : Dispatch cfg.acs s.port.rmem cs) (i : RmemAfuIn) :
    ServesMmio cfg (s.step cfg i) (Dispatch.nextCmds s.port.rmem (s.wires i) cs) (next cfg s i a) where
  waiting := h.next_waiting hp i
  mmw_valid := mmw_valid_next cfg s i
  mmr_valid := mmr_valid_next cfg s i
  low hw := h.low_next hp i hw
  quiet hw := quiet_next cfg s i hw
  idle hw := h.idle_next hp i hw
  writes hw c r hcs := h.writes_next hp i hw c r hcs
  reads hr c r hcs := h.reads_next hp i hr c r hcs

/-- **What is on the port** is what the server answers. -/
lemma answers_eq (h : ServesMmio cfg s cs a) (hp : RespPortInv cfg s.port cs d bs) (i : RmemAfuIn) :
    s.mmioAnswers i = (mmioServer cfg.acs).collectFrom (MmioServer.answers cfg.acs) a
      (s.mmioEvents cfg i) := by
  have hdisp := hp.dispatch
  by_cases hw : s.port.rmem.SM_MMW = .WAIT_FOR_NEXT_CMD
  · obtain ⟨c, r, rfl, hc⟩ := hdisp.mmw (by rw [hw]; decide)
    obtain ⟨-, hphase⟩ := h.writes (by rw [hw]; decide) c r rfl
    rw [hw] at hphase
    have hwait := h.waiting
    rw [List.filter_cons_of_pos (by rw [HostCmd.isMmio, hc, Bool.true_or])] at hwait
    rw [h.events_answer i (.inl hw) (by rw [hw]; decide), RmemAfu.mmioAnswers,
      h.answered_iff.mpr (.inl hw), if_pos rfl, Machine.collectFrom, MmioServer.answers_cmds,
      List.append_nil, MmioServer.answers, hwait]
    cases hflit : a.flit with
    | none =>
        rw [hflit] at hphase
        exact hphase.elim
    | some f =>
        rw [hflit] at hphase
        have hport : s.port.port (s.portIn i) = s.port.mmw_drive := by
          have hvalid : s.port.mmw_drive ≠ .zero := fun hz => by
            rw [hphase.2] at hz
            cases congrArg RespDrive.resp_valid hz
          rcases hp.drive (s.portIn i) with ⟨hz, -⟩ | ⟨hz, -⟩ | ⟨hz, hlpc⟩
          · exact absurd hz hvalid
          · exact absurd hz hvalid
          · rw [RespPort.port, hz, hlpc, RespDrive.or_zero, RespDrive.or_zero]
        rw [hport, hphase.2]
        exact (if_pos hc).symm
  · by_cases hr : s.port.rmem.SM_MMR = .WAIT_FOR_NEXT_CMD
    · obtain ⟨c, r, rfl, hc⟩ := hdisp.mmr (by rw [hr]; decide)
      have hidle := (hdisp.idle_of_read rfl hc).1
      obtain ⟨-, hphase⟩ := h.reads (by rw [hr]; decide) c r rfl
      rw [hr] at hphase
      have hwait := h.waiting
      rw [List.filter_cons_of_pos (by rw [HostCmd.isMmio, hc, Bool.or_true])] at hwait
      have hport : s.port.port (s.portIn i) = s.port.mmr_drive := by
        have hvalid : s.port.mmr_drive ≠ .zero := fun hz => by
          rw [show s.port.mmr_drive = _ from hphase] at hz
          cases congrArg RespDrive.resp_valid hz
        rcases hp.drive (s.portIn i) with ⟨-, hz⟩ | ⟨hz, hlpc⟩ | ⟨hz, -⟩
        · exact absurd hz hvalid
        · rw [RespPort.port, hz, hlpc, RespDrive.zero_or, RespDrive.or_zero]
        · exact absurd hz hvalid
      rw [h.events_answer i (.inr hr) (by rw [hidle]; decide), RmemAfu.mmioAnswers,
        h.answered_iff.mpr (.inr hr), if_pos rfl, Machine.collectFrom, MmioServer.answers_cmds,
        List.append_nil, MmioServer.answers, hwait, (h.idle hidle).1, hport,
        show s.port.mmr_drive = _ from hphase]
      exact (if_pos hc).symm
    · have hno : s.mmioAnswered = false :=
        Bool.eq_false_iff.mpr fun hans => (h.answered_iff.mp hans).elim hw hr
      rw [RmemAfu.mmioAnswers, hno, if_neg Bool.false_ne_true]
      by_cases hd : s.port.rmem.SM_MMW = .WAIT_FOR_DATA
      · cases hf : i.tlx_afu_cmd_data with
        | none => rw [h.events_cmds i (fun _ => hf) hw hr, MmioServer.answers_cmds]
        | some f =>
            rw [h.events_data hdisp hd hf, Machine.collectFrom, MmioServer.answers_cmds]
            rfl
      · rw [h.events_cmds i (fun hx => absurd hx hd) hw hr, MmioServer.answers_cmds]

end ServesMmio

/-! ## Runs -/

/-- What holds after a run. -/
lemma serves_run (cfg : RespPortConfig) (is : List RmemAfuIn)
    (hok : (rmemAfu cfg).Meets RmemAfu.Allowed is)
    (hbeats : Beats false ((rmemAfu cfg).collect RmemAfu.received is)) : ∃ cs gone bs,
      (rmemAfu cfg).collect RmemAfu.received is = gone ++ bs
        ∧ RespPortInv cfg ((rmemAfu cfg).run is).port cs (dueAfter false gone) bs
        ∧ ServesMmio cfg ((rmemAfu cfg).run is) cs
          ((mmioServer cfg.acs).run ((rmemAfu cfg).collect (RmemAfu.mmioEvents cfg) is))
        ∧ (rmemAfu cfg).collect RmemAfu.mmioAnswers is
          = (mmioServer cfg.acs).collect (MmioServer.answers cfg.acs)
            ((rmemAfu cfg).collect (RmemAfu.mmioEvents cfg) is) := by
  induction is using List.reverseRecOn with
  | nil => exact ⟨[], [], [], rfl, RespPortInv.init cfg, serves_init cfg, rfl⟩
  | append_singleton is i ih =>
      obtain ⟨hpre, hi⟩ := ((rmemAfu cfg).meets_concat _ is i).mp hok
      rw [Machine.collect_concat] at hbeats
      obtain ⟨cs, gone, bs, hrecv, hport, hserves, hans⟩ := ih hpre ((beats_append _ _ _).mp hbeats).1
      have hb := hbeats
      rw [hrecv, List.append_assoc, beats_append] at hb
      refine ⟨Dispatch.nextCmds ((rmemAfu cfg).run is).port.rmem (((rmemAfu cfg).run is).wires i) cs,
        gone ++ RespPortInv.gone ((rmemAfu cfg).run is).port (((rmemAfu cfg).run is).portIn i) bs,
        RespPortInv.kept ((rmemAfu cfg).run is).port (((rmemAfu cfg).run is).portIn i) bs
          ++ ((rmemAfu cfg).run is).received i, ?_, ?_, ?_, ?_⟩
      · rw [Machine.collect_concat, hrecv, List.append_assoc, List.append_assoc,
          ← List.append_assoc (RespPortInv.gone _ _ bs), RespPortInv.gone_kept]
      · rw [Machine.run_concat, dueAfter_append, hport.due_next]
        exact hport.step hi hb.2
      · rw [Machine.run_concat, Machine.collect_concat, Machine.run_append]
        exact hserves.step hport.dispatch i
      · rw [Machine.collect_concat, Machine.collect_concat, Machine.collect_append, hans,
          hserves.answers_eq hport i]

/-- A write of eight bytes and a read of them. -/
def mmioDemo : List RmemAfuIn :=
  [{ tlx_afu_cmd := some ⟨0x86, 0, 5, 3, 0, 0x20⟩ }, { tlx_afu_cmd := some ⟨0x28, 0, 6, 3, 0, 0x20⟩ },
    {}, {}, { tlx_afu_cmd_data := some (setField 0 256 (0x42 : BitVec 64)) }, {}, {}, {}, {}, {},
    { tlx_afu_resp_credit := true }, {}, {}, {}, {}, {}, {}, {}]

end ThymesisFlow
