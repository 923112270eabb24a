import ThymesisFlow.Afu.EgressAdapter
import ThymesisFlow.Afu.Rmem
import ThymesisFlow.Lib.Machine

/-!
# From the host to the egress adapter

The dispatch of the compute AFU between the TLX and the egress adapter.  The TLX sends a command
when a row of the command FIFO is free, and delivers data flits strictly in the order of the
requests, at any time from the cycle after the request on; so every longer delay is covered.  The
data that the host sends with a command is kept with that command (`HostTxn`), which the AFU
cannot see: a flit at its data interface carries no tag.

`RmemInv` says which commands are where and what each state machine is busy with.
-/

namespace ThymesisFlow

/-- A command of the host and the data flits it sends with it. -/
structure HostTxn where
  cmd : HostCmd
  data : List DataFlit
  len : data.length = cmd.dataFlits

/-- The data flits with the command they belong to. -/
def HostTxn.flits (t : HostTxn) : List (HostCmd × DataFlit) := t.data.map fun d => (t.cmd, d)

structure HostPath where
  rmem : Rmem := {}
  /-- Data of commands that the AFU has not asked for. -/
  tlx_data : List (HostCmd × DataFlit) := []
  /-- Data that the AFU has asked for and the TLX has not delivered. -/
  owed : List (HostCmd × DataFlit) := []
  /-- The 128 entries of `dataflit_fifo`. -/
  cmddata_fifo : List DataFlit := []
  adapter : EgressAdapter := {}

/-- The choices of one cycle: what the host sends, whether the TLX delivers, whether the data FIFO
shows its oldest entry, whether the egress is ready, and the wires of the response side. -/
structure HostPathIn where
  txn : Option HostTxn
  deliver : Bool
  fifo_out : Bool
  adapter_out_tready : Bool
  thymesis_cfg : Fin 12 → BitVec 64
  tarc_credits_available : BitVec 4
  tardc_credits_available : BitVec 6
  rff_resp_valid : Bool
  rff_out_resp_valid : Bool
  rff_out_rdata_valid : Bool
  rff_resp_next_valid : Bool
  mmr_rdata_valid : Bool

namespace HostPath

variable (cfg : AcsConfig) (s : HostPath) (i : HostPathIn)

/-- The command that enters the command FIFO. -/
def accepted (s : HostPath) (i : HostPathIn) : List HostTxn :=
  if s.rmem.cff.full then [] else i.txn.toList

/-- The flit that the TLX delivers. -/
def delivered (s : HostPath) (i : HostPathIn) : List (HostCmd × DataFlit) :=
  if i.deliver then s.owed.head?.toList else []

/-- What is still owed after the delivery. -/
def stillOwed : List (HostCmd × DataFlit) := if i.deliver then s.owed.tail else s.owed

def wires : RmemIn where
  tlx_afu_cmd := (s.accepted i).head?.map HostTxn.cmd
  tlx_afu_cmd_data := (s.delivered i).head?.map Prod.snd
  ncff_cmd_tready := s.adapter.cmdTready i.adapter_out_tready
  thymesis_cfg := i.thymesis_cfg
  tarc_credits_available := i.tarc_credits_available
  tardc_credits_available := i.tardc_credits_available
  rff_resp_valid := i.rff_resp_valid
  rff_out_resp_valid := i.rff_out_resp_valid
  rff_out_rdata_valid := i.rff_out_rdata_valid
  rff_resp_next_valid := i.rff_resp_next_valid
  mmr_rdata_valid := i.mmr_rdata_valid

/-- The flits that the AFU asks for in this cycle. -/
def asked : ℕ := if s.rmem.rd_req cfg then rdCntFlits (s.rmem.rd_cnt cfg) else 0

/-- The flit that enters the command data FIFO. -/
def pushed (s : HostPath) (i : HostPathIn) : List DataFlit :=
  if s.rmem.cmddata_fifo_tvalid (s.wires i) (s.cmddata_fifo.length < 128) then
    (s.wires i).tlx_afu_cmd_data.toList
  else []

/-- What goes to the MMIO registers. -/
def written (s : HostPath) (i : HostPathIn) : List MmioWrite := (s.rmem.mmioWrite (s.wires i)).toList

/-- The entry that the data FIFO shows to the adapter. -/
def adapterData : Option DataFlit := if i.fifo_out then s.cmddata_fifo.head? else none

/-- The command that the network FIFO shows to the adapter. -/
def adapterCmd : Option NetCmd := if s.rmem.ncff.valid then some s.rmem.ncff.head else none

def step : HostPath where
  rmem := s.rmem.step cfg (s.wires i)
  tlx_data := s.tlx_data.drop (s.asked cfg) ++ (s.accepted i).flatMap HostTxn.flits
  owed := s.stillOwed i ++ s.tlx_data.take (s.asked cfg)
  cmddata_fifo :=
    (if s.adapter.dataTready i.adapter_out_tready && (s.adapterData i).isSome then
      s.cmddata_fifo.tail else s.cmddata_fifo) ++ s.pushed i
  adapter := s.adapter.step s.adapterCmd (s.adapterData i) i.adapter_out_tready

end HostPath

/-- The path of the host's commands at reset. -/
def hostPath (cfg : AcsConfig) : Machine HostPath HostPathIn where
  init := {}
  step := HostPath.step cfg

/-- A command that the network side knows what to do with: its segment has a configuration
register and DL is not the reserved value. -/
structure HostCmd.Carried (cfg : AcsConfig) (c : HostCmd) : Prop where
  mapped : c.startRemote cfg = true → c.segment < 12
  length : c.startWriteMem cfg = true → c.dl ≠ 0
  decoded : c.startRemote cfg = true ∨ c.startMmioWrite cfg = true ∨ c.startMmioRead cfg = true

/-! ## What is asked for a command -/

/-- `rd_cnt` and `rd_req` for a command of the network. -/
def HostCmd.rd (cfg : AcsConfig) (c : HostCmd) : BitVec 3 × Bool :=
  if c.startWriteMem cfg then (0#1 ++ c.dl, true)
  else if c.startPrWrMem cfg || c.startWriteMemBe cfg then (0b001, true)
  else (0, false)

namespace HostCmd

variable {cfg : AcsConfig} {c : HostCmd}

lemma startRemote_cases (h : c.startRemote cfg = true) :
    c.memRange cfg = true ∧ (c.opcode = 0x81 ∨ c.opcode = 0x86 ∨ c.opcode = 0x82 ∨
      c.opcode = 0x20 ∨ c.opcode = 0x28) := by
  simp only [startRemote, startWriteMem, startPrWrMem, startWriteMemBe, startRdMem, startPrRdMem,
    Bool.or_eq_true, Bool.and_eq_true, decide_eq_true_eq] at h
  rcases h with (((h | h) | h) | h) | h <;> exact ⟨h.2, by simp [h.1]⟩

/-- For every command the AFU asks for the flits that the host sends with it. -/
lemma rd_flits (h : c.startRemote cfg = true) (hlen : c.startWriteMem cfg = true → c.dl ≠ 0) :
    (if (c.rd cfg).2 then rdCntFlits (c.rd cfg).1 else 0) = c.dataFlits := by
  obtain ⟨hr, hop⟩ := startRemote_cases h
  rcases hop with hop | hop | hop | hop | hop
  · have hdl : c.dl ≠ 0 := hlen (by simp [startWriteMem, hop, hr])
    have key : ∀ dl : BitVec 2, dl ≠ 0 → rdCntFlits (0#1 ++ dl)
        = if dl = 0b01 then 1 else if dl = 0b10 then 2 else if dl = 0b11 then 4 else 0 := by decide
    simp only [rd, startWriteMem, hop, hr, dataFlits]
    simpa using key c.dl hdl
  all_goals
    simp [rd, startWriteMem, startPrWrMem, startWriteMemBe, hop, hr, dataFlits, rdCntFlits]

lemma dataFlits_mmioWrite (h : c.startMmioWrite cfg = true) : c.dataFlits = 1 := by
  simp [dataFlits, (startMmioWrite_opcode h).1]

lemma dataFlits_mmioRead (h : c.startMmioRead cfg = true) : c.dataFlits = 0 := by
  simp [dataFlits, (startMmioRead_opcode h).1]

end HostCmd

/-! ## The state machines and the queues -/

/-- `ts` are the commands in the command FIFO and `ns` those in the network FIFO; a state machine
that is busy is busy with the head of `ts`. -/
structure RmemInv (cfg : AcsConfig) (s : Rmem) (ts : List HostTxn) (ns : List NetCmd) : Prop where
  cff : s.cff.Holds (ts.map HostTxn.cmd)
  ncff : s.ncff.Holds ns
  complete_mmw : s.cmd_complete_mmw = decide (s.SM_MMW = .WAIT_FOR_NEXT_CMD)
  complete_mmr : s.cmd_complete_mmr = decide (s.SM_MMR = .WAIT_FOR_NEXT_CMD)
  complete_ldnf : s.cmd_complete_ldnf = decide (s.LPC_LOAD_NET = .WAIT_1CYCLE)
  ncff_in : s.ncff_cmd_in_valid = decide (s.LPC_LOAD_NET = .WAIT_1CYCLE)
  idle_rd : s.LPC_LOAD_NET = .IDLE → (s.rd_cnt_lpc_io, s.rd_req_lpc_io) = (0, false)
  mmw : s.SM_MMW ≠ .IDLE → ∃ t r, ts = t :: r ∧ t.cmd.startMmioWrite cfg = true ∧
    s.mmw_addr = t.cmd.pa ∧ s.mmw_pl = t.cmd.pl
  mmr : s.SM_MMR ≠ .IDLE → ∃ t r, ts = t :: r ∧ t.cmd.startMmioRead cfg = true
  lpc : s.LPC_LOAD_NET = .WAIT_1CYCLE → ∃ t r, ts = t :: r ∧ t.cmd.startRemote cfg = true ∧
    s.ncff_cmd_in = t.cmd ∧ (s.rd_cnt_lpc_io, s.rd_req_lpc_io) = t.cmd.rd cfg ∧ ns.length < 8
  lock_w : s.SM_MMW ≠ .IDLE → s.pipeline_lock_w = true

namespace RmemInv

variable {cfg : AcsConfig} {s : Rmem} {ts : List HostTxn} {ns : List NetCmd}

lemma init (cfg : AcsConfig) : RmemInv cfg {} [] [] where
  cff := RowFifo.holds_nil rfl rfl
  ncff := RowFifo.holds_nil rfl rfl
  complete_mmw := rfl
  complete_mmr := rfl
  complete_ldnf := rfl
  ncff_in := rfl
  idle_rd _ := rfl
  mmw h := absurd rfl h
  mmr h := absurd rfl h
  lpc h := nomatch h
  lock_w h := absurd rfl h

/-- The decoder sees the head of the queue. -/
lemma start_eq (h : RmemInv cfg s ts ns) (p : HostCmd → Bool) :
    s.start p = match ts with
      | [] => false
      | t :: _ => p t.cmd := by
  rw [Rmem.start, Rmem.cff_cmd, h.cff.valid_eq]
  cases ts with
  | nil => rfl
  | cons t r => simp [RowFifo.Holds.head_eq h.cff]

lemma cff_cmd_eq {t : HostTxn} {r : List HostTxn} (h : RmemInv cfg s (t :: r) ns) :
    s.cff_cmd = t.cmd := by
  rw [Rmem.cff_cmd, h.cff.valid_eq]
  simp [RowFifo.Holds.head_eq h.cff]

/-- A command leaves the command FIFO only when it is there. -/
lemma dispatched_ne_nil (h : RmemInv cfg s ts ns) (hd : s.cmd_dispatched = true) : ts ≠ [] := by
  rw [Rmem.cmd_dispatched, h.complete_mmw, h.complete_mmr, h.complete_ldnf] at hd
  simp only [Bool.or_eq_true, decide_eq_true_eq] at hd
  rcases hd with (hd | hd) | hd
  · obtain ⟨t, r, rfl, -⟩ := h.mmw (by simp [hd])
    simp
  · obtain ⟨t, r, rfl, -⟩ := h.mmr (by simp [hd])
    simp
  · obtain ⟨t, r, rfl, -⟩ := h.lpc hd
    simp

/-- The three state machines in one cycle: at most one of them is busy, and which one the head of
the queue says. -/
lemma busy_cases (h : RmemInv cfg s ts ns) :
    (s.SM_MMW = .IDLE ∧ s.SM_MMR = .IDLE ∧ s.LPC_LOAD_NET = .IDLE) ∨
    (s.SM_MMW ≠ .IDLE ∧ s.SM_MMR = .IDLE ∧ s.LPC_LOAD_NET = .IDLE) ∨
    (s.SM_MMW = .IDLE ∧ s.SM_MMR ≠ .IDLE ∧ s.LPC_LOAD_NET = .IDLE) ∨
    (s.SM_MMW = .IDLE ∧ s.SM_MMR = .IDLE ∧ s.LPC_LOAD_NET = .WAIT_1CYCLE) := by
  have hlpc : s.LPC_LOAD_NET = .IDLE ∨ s.LPC_LOAD_NET = .WAIT_1CYCLE := by
    cases s.LPC_LOAD_NET <;> simp
  have hwr : s.SM_MMW ≠ .IDLE → s.SM_MMR = .IDLE := by
    intro hw
    by_contra hr
    obtain ⟨t, r, rfl, ht, -⟩ := h.mmw hw
    obtain ⟨t', r', heq, ht'⟩ := h.mmr hr
    obtain ⟨rfl, -⟩ := List.cons.inj heq
    have := (HostCmd.startMmioWrite_opcode ht).1.symm.trans (HostCmd.startMmioRead_opcode ht').1
    exact absurd this (by decide)
  have hlw : s.LPC_LOAD_NET = .WAIT_1CYCLE → s.SM_MMW = .IDLE ∧ s.SM_MMR = .IDLE := by
    intro hl
    obtain ⟨t, r, rfl, ht, -⟩ := h.lpc hl
    obtain ⟨hnw, hnr⟩ := HostCmd.startMmio_of_remote ht
    refine ⟨by_contra fun hw => ?_, by_contra fun hr => ?_⟩
    · obtain ⟨t', r', heq, ht', -⟩ := h.mmw hw
      obtain ⟨rfl, -⟩ := List.cons.inj heq
      exact absurd (hnw.symm.trans ht') Bool.false_ne_true
    · obtain ⟨t', r', heq, ht'⟩ := h.mmr hr
      obtain ⟨rfl, -⟩ := List.cons.inj heq
      exact absurd (hnr.symm.trans ht') Bool.false_ne_true
  rcases hlpc with hl | hl
  · by_cases hw : s.SM_MMW = .IDLE
    · by_cases hr : s.SM_MMR = .IDLE
      · exact .inl ⟨hw, hr, hl⟩
      · exact .inr (.inr (.inl ⟨hw, hr, hl⟩))
    · exact .inr (.inl ⟨hw, hwr hw, hl⟩)
  · exact .inr (.inr (.inr ⟨(hlw hl).1, (hlw hl).2, hl⟩))

lemma cmd_dispatched_eq (h : RmemInv cfg s ts ns) :
    s.cmd_dispatched = (decide (s.SM_MMW = .WAIT_FOR_NEXT_CMD)
      || decide (s.SM_MMR = .WAIT_FOR_NEXT_CMD) || decide (s.LPC_LOAD_NET = .WAIT_1CYCLE)) := by
  rw [Rmem.cmd_dispatched, h.complete_mmw, h.complete_mmr, h.complete_ldnf]

/-- A state machine is about to start on the head of the queue. -/
lemma start_head (h : RmemInv cfg s ts ns) {p : HostCmd → Bool} (hs : s.start p = true) :
    ∃ t r, ts = t :: r ∧ p t.cmd = true ∧ s.cff_cmd = t.cmd := by
  rw [h.start_eq] at hs
  cases ts with
  | nil => exact absurd hs Bool.false_ne_true
  | cons t r => exact ⟨t, r, rfl, hs, h.cff_cmd_eq⟩

/-- While a MMIO write is at the head, only `SM_MMW` is busy. -/
lemma busy_mmioWrite (h : RmemInv cfg s ts ns) (hs : s.start_mmio_write cfg = true) :
    s.SM_MMR = .IDLE ∧ s.LPC_LOAD_NET = .IDLE := by
  obtain ⟨t, r, rfl, ht, -⟩ := h.start_head hs
  refine ⟨by_contra fun hr => ?_, ?_⟩
  · obtain ⟨t', r', heq, ht'⟩ := h.mmr hr
    obtain ⟨rfl, -⟩ := List.cons.inj heq
    have := (HostCmd.startMmioWrite_opcode ht).1.symm.trans (HostCmd.startMmioRead_opcode ht').1
    exact absurd this (by decide)
  · cases hl : s.LPC_LOAD_NET with
    | IDLE => rfl
    | WAIT_1CYCLE =>
        obtain ⟨t', r', heq, ht', -⟩ := h.lpc hl
        obtain ⟨rfl, -⟩ := List.cons.inj heq
        exact absurd ((HostCmd.startMmio_of_remote ht').1.symm.trans ht) Bool.false_ne_true

/-- While a MMIO read is at the head, only `SM_MMR` is busy. -/
lemma busy_mmioRead (h : RmemInv cfg s ts ns) (hs : s.start_mmio_read cfg = true) :
    s.SM_MMW = .IDLE ∧ s.LPC_LOAD_NET = .IDLE := by
  obtain ⟨t, r, rfl, ht, -⟩ := h.start_head hs
  refine ⟨by_contra fun hr => ?_, ?_⟩
  · obtain ⟨t', r', heq, ht', -⟩ := h.mmw hr
    obtain ⟨rfl, -⟩ := List.cons.inj heq
    have := (HostCmd.startMmioWrite_opcode ht').1.symm.trans (HostCmd.startMmioRead_opcode ht).1
    exact absurd this (by decide)
  · cases hl : s.LPC_LOAD_NET with
    | IDLE => rfl
    | WAIT_1CYCLE =>
        obtain ⟨t', r', heq, ht', -⟩ := h.lpc hl
        obtain ⟨rfl, -⟩ := List.cons.inj heq
        exact absurd ((HostCmd.startMmio_of_remote ht').2.symm.trans ht) Bool.false_ne_true

/-- `LPC_LOAD_NET` starts on a command when nothing else is busy. -/
lemma busy_dispatch (h : RmemInv cfg s ts ns) (hd : s.dispatch cfg = true) :
    ∃ t r, ts = t :: r ∧ t.cmd.startRemote cfg = true ∧ s.cff_cmd = t.cmd ∧
      s.SM_MMW = .IDLE ∧ s.SM_MMR = .IDLE ∧ s.LPC_LOAD_NET = .IDLE ∧ ns.length < 8 := by
  simp only [Rmem.dispatch, Bool.and_eq_true, decide_eq_true_eq, Bool.not_eq_true'] at hd
  obtain ⟨⟨hl, hs⟩, hfull⟩ := hd
  obtain ⟨t, r, rfl, ht, hc⟩ := h.start_head hs
  obtain ⟨hnw, hnr⟩ := HostCmd.startMmio_of_remote ht
  refine ⟨t, r, rfl, ht, hc, by_contra fun hw => ?_, by_contra fun hr => ?_, hl, ?_⟩
  · obtain ⟨t', r', heq, ht', -⟩ := h.mmw hw
    obtain ⟨rfl, -⟩ := List.cons.inj heq
    exact absurd (hnw.symm.trans ht') Bool.false_ne_true
  · obtain ⟨t', r', heq, ht'⟩ := h.mmr hr
    obtain ⟨rfl, -⟩ := List.cons.inj heq
    exact absurd (hnr.symm.trans ht') Bool.false_ne_true
  · refine Nat.lt_of_le_of_ne h.ncff.length_le fun h8 => ?_
    exact absurd ((h.ncff.full_iff.mpr h8).symm.trans hfull) (by decide)

/-- The queue of commands after a cycle. -/
def nextTxns (s : Rmem) (ts acc : List HostTxn) : List HostTxn :=
  (if s.cmd_dispatched then ts.tail else ts) ++ acc

/-- The network commands after a cycle. -/
def nextNcff (s : Rmem) (i : RmemIn) (ns : List NetCmd) : List NetCmd :=
  (if i.ncff_cmd_tready && s.ncff.valid then ns.tail else ns)
    ++ (if s.ncff_cmd_in_valid then (netCmdRow i.thymesis_cfg s.ncff_cmd_in).toList else [])

lemma nextNcff_length (hv : s.ncff_cmd_in_valid = false) (i : RmemIn) (ns : List NetCmd) :
    (nextNcff s i ns).length ≤ ns.length := by
  simp only [nextNcff, hv, Bool.false_eq_true, if_false, List.append_nil]
  split_ifs <;> simp

lemma nextTxns_kept (hd : s.cmd_dispatched = false) (acc : List HostTxn) :
    nextTxns s ts acc = ts ++ acc := by
  rw [nextTxns, hd, if_neg Bool.false_ne_true]

/-- The command FIFO. -/
lemma cff_step (h : RmemInv cfg s ts ns) (i : RmemIn) {acc : List HostTxn}
    (hacc : i.tlx_afu_cmd = acc.head?.map HostTxn.cmd) (hone : acc.length ≤ 1)
    (hfull : acc ≠ [] → ts.length < 8) :
    (s.step cfg i).cff.Holds ((nextTxns s ts acc).map HostTxn.cmd) := by
  have hx : ∃ t : HostCmd, i.tlx_afu_cmd.isSome = true → i.tlx_afu_cmd = some t := by
    cases ht : i.tlx_afu_cmd with
    | none => exact ⟨.zero, by simp⟩
    | some t => exact ⟨t, fun _ => rfl⟩
  obtain ⟨x, hx⟩ := hx
  have hq := h.cff.step i.tlx_afu_cmd.isSome s.cmd_dispatched i.tlx_afu_cmd x hx
    (fun hp => by
      have : acc ≠ [] := by rintro rfl; simp [hacc] at hp
      simpa using hfull this)
    (fun hp => by simpa using h.dispatched_ne_nil hp)
  have hl : (nextTxns s ts acc).map HostTxn.cmd
      = (if s.cmd_dispatched then (ts.map HostTxn.cmd).tail else ts.map HostTxn.cmd)
        ++ (if i.tlx_afu_cmd.isSome then [x] else []) := by
    rw [nextTxns, List.map_append]
    congr 1
    · split_ifs <;> simp
    · rcases acc with _ | ⟨t, _ | _⟩
      · simp [hacc]
      · have := hx (by simp [hacc])
        simp_all
      · simp at hone
  rw [hl]
  exact hq

/-- The network FIFO. -/
lemma ncff_step (h : RmemInv cfg s ts ns) (i : RmemIn)
    (hmapped : ∀ t ∈ ts, t.cmd.startRemote cfg = true → t.cmd.segment < 12) :
    (s.step cfg i).ncff.Holds (nextNcff s i ns) := by
  have hv := h.ncff_in
  by_cases hl : s.LPC_LOAD_NET = .WAIT_1CYCLE
  · obtain ⟨t, r, rfl, ht, hin, -, hlen⟩ := h.lpc hl
    have hseg := hmapped t (by simp) ht
    have hrow : netCmdRow i.thymesis_cfg s.ncff_cmd_in
        = some (.ofHost (i.thymesis_cfg ⟨t.cmd.segment, hseg⟩) t.cmd) := by
      rw [hin, netCmdRow, dif_pos hseg]
    have hq := h.ncff.step s.ncff_cmd_in_valid (i.ncff_cmd_tready && s.ncff.valid)
      (netCmdRow i.thymesis_cfg s.ncff_cmd_in) _ (fun _ => hrow) (fun _ => hlen)
      (fun hp => by
        have := h.ncff.valid_eq
        simp_all)
    rw [nextNcff, hrow]
    exact hq
  · rw [decide_eq_false hl] at hv
    have hq := h.ncff.step s.ncff_cmd_in_valid (i.ncff_cmd_tready && s.ncff.valid)
      (netCmdRow i.thymesis_cfg s.ncff_cmd_in) {} (by simp [hv]) (by simp [hv])
      (fun hp => by
        have := h.ncff.valid_eq
        simp_all)
    rw [nextNcff]
    simp only [hv, Bool.false_eq_true, if_false] at hq ⊢
    have hn : s.ncff_cmd_in_valid = false := hv
    simpa [Rmem.step, hn] using hq

/-- `SM_MMW` is busy with the head of the queue. -/
lemma mmw_step (h : RmemInv cfg s ts ns) (i : RmemIn) (acc : List HostTxn)
    (hw : (s.step cfg i).SM_MMW ≠ .IDLE) :
    ∃ t r, nextTxns s ts acc = t :: r ∧ t.cmd.startMmioWrite cfg = true ∧
      (s.step cfg i).mmw_addr = t.cmd.pa ∧ (s.step cfg i).mmw_pl = t.cmd.pl := by
  rcases Rmem.nextMmw_ne_idle hw with ⟨hm, hs, -⟩ | ⟨hm, hn⟩
  · obtain ⟨t, r, rfl, ht, hc⟩ := h.start_head hs
    obtain ⟨hr, hl⟩ := h.busy_mmioWrite hs
    rw [nextTxns_kept (by rw [h.cmd_dispatched_eq, hm, hr, hl]; rfl)]
    exact ⟨t, r ++ acc, rfl, ht, by simp [Rmem.step, hm, hc]⟩
  · obtain ⟨t, r, rfl, ht, hpa, hpl⟩ := h.mmw hm
    rcases h.busy_cases with hb | ⟨-, hr, hl⟩ | hb | hb
    · exact absurd hb.1 hm
    · rw [nextTxns_kept (by rw [h.cmd_dispatched_eq, hr, hl]; simp [hn])]
      exact ⟨t, r ++ acc, rfl, ht, by simp [Rmem.step, hm, hpa, hpl]⟩
    · exact absurd hb.1 hm
    · exact absurd hb.1 hm

/-- `SM_MMR` is busy with the head of the queue. -/
lemma mmr_step (h : RmemInv cfg s ts ns) (i : RmemIn) (acc : List HostTxn)
    (hw : (s.step cfg i).SM_MMR ≠ .IDLE) :
    ∃ t r, nextTxns s ts acc = t :: r ∧ t.cmd.startMmioRead cfg = true := by
  rcases Rmem.nextMmr_ne_idle hw with ⟨hm, hs⟩ | ⟨hm, hn⟩
  · obtain ⟨t, r, rfl, ht, -⟩ := h.start_head hs
    obtain ⟨hr, hl⟩ := h.busy_mmioRead hs
    rw [nextTxns_kept (by rw [h.cmd_dispatched_eq, hm, hr, hl]; rfl)]
    exact ⟨t, r ++ acc, rfl, ht⟩
  · obtain ⟨t, r, rfl, ht⟩ := h.mmr hm
    rcases h.busy_cases with hb | hb | ⟨hr, -, hl⟩ | hb
    · exact absurd hb.2.1 hm
    · exact absurd hb.2.1 hm
    · rw [nextTxns_kept (by rw [h.cmd_dispatched_eq, hr, hl]; simp [hn])]
      exact ⟨t, r ++ acc, rfl, ht⟩
    · exact absurd hb.2.1 hm

/-- `LPC_LOAD_NET` is busy with the head of the queue. -/
lemma lpc_step (h : RmemInv cfg s ts ns) (i : RmemIn) (acc : List HostTxn)
    (hl' : (s.step cfg i).LPC_LOAD_NET = .WAIT_1CYCLE) :
    ∃ t r, nextTxns s ts acc = t :: r ∧ t.cmd.startRemote cfg = true ∧
      (s.step cfg i).ncff_cmd_in = t.cmd ∧
      ((s.step cfg i).rd_cnt_lpc_io, (s.step cfg i).rd_req_lpc_io) = t.cmd.rd cfg ∧
      (nextNcff s i ns).length < 8 := by
  have hd : s.dispatch cfg = true := by
    cases hd : s.dispatch cfg <;> simp_all [Rmem.step]
  obtain ⟨t, r, rfl, ht, hc, hw, hr, hl, hlen⟩ := h.busy_dispatch hd
  have hv : s.ncff_cmd_in_valid = false := by rw [h.ncff_in, hl]; rfl
  rw [nextTxns_kept (by rw [h.cmd_dispatched_eq, hw, hr, hl]; rfl)]
  refine ⟨t, r ++ acc, rfl, ht, ?_, ?_, ?_⟩
  · simp [Rmem.step, Rmem.nextNcffIn, hl, hd, hc]
  · have := Rmem.nextRd_dispatch hd (h.idle_rd hl)
    rw [hc] at this
    exact this
  · exact (nextNcff_length hv i ns).trans_lt hlen

/-- **One cycle of the dispatch.** -/
theorem step (h : RmemInv cfg s ts ns) (i : RmemIn) {acc : List HostTxn}
    (hacc : i.tlx_afu_cmd = acc.head?.map HostTxn.cmd) (hone : acc.length ≤ 1)
    (hfull : acc ≠ [] → ts.length < 8)
    (hmapped : ∀ t ∈ ts, t.cmd.startRemote cfg = true → t.cmd.segment < 12) :
    RmemInv cfg (s.step cfg i) (nextTxns s ts acc) (nextNcff s i ns) := by
  constructor
  case cff => exact h.cff_step i hacc hone hfull
  case ncff => exact h.ncff_step i hmapped
  case complete_mmw =>
    rw [Bool.eq_iff_iff, decide_eq_true_iff]
    simpa [Rmem.step] using Rmem.nextMmw_eq_next.symm
  case complete_mmr =>
    rw [Bool.eq_iff_iff, decide_eq_true_iff]
    simpa [Rmem.step] using Rmem.nextMmr_eq_next.symm
  case complete_ldnf =>
    have hold := h.complete_ldnf
    by_cases hd : s.dispatch cfg = true
    · simp [Rmem.step, Rmem.nextNcffIn, Rmem.dispatch_idle hd, hd]
    · cases hl : s.LPC_LOAD_NET <;> simp_all [Rmem.step, Rmem.nextNcffIn]
  case ncff_in =>
    have hold := h.ncff_in
    by_cases hd : s.dispatch cfg = true
    · simp [Rmem.step, Rmem.nextNcffIn, Rmem.dispatch_idle hd, hd]
    · cases hl : s.LPC_LOAD_NET <;> simp_all [Rmem.step, Rmem.nextNcffIn]
  case idle_rd =>
    intro hl'
    have hd : s.dispatch cfg = false := by
      cases hd : s.dispatch cfg <;> simp_all [Rmem.step]
    have hidle := h.idle_rd
    cases hl : s.LPC_LOAD_NET <;> simp_all [Rmem.step, Rmem.nextRd]
  case mmw => exact h.mmw_step i acc
  case mmr => exact h.mmr_step i acc
  case lpc => exact h.lpc_step i acc
  case lock_w =>
    intro hw
    refine Rmem.nextLockW_eq.mpr ?_
    rcases Rmem.nextMmw_ne_idle hw with ⟨hm, hs, -⟩ | ⟨hm, -⟩
    · exact .inr ⟨hm, hs⟩
    · exact .inl hm

end RmemInv

/-! ## The data of the commands -/

/-- A sequence of commands as the TLX sees their data. -/
def txnFlits (ts : List HostTxn) : List (HostCmd × DataFlit) := ts.flatMap HostTxn.flits

@[simp] lemma txnFlits_nil : txnFlits [] = [] := rfl

@[simp] lemma txnFlits_cons (t : HostTxn) (ts : List HostTxn) :
    txnFlits (t :: ts) = t.flits ++ txnFlits ts := rfl

@[simp] lemma txnFlits_append (ts ts' : List HostTxn) :
    txnFlits (ts ++ ts') = txnFlits ts ++ txnFlits ts' := List.flatMap_append

lemma HostTxn.length_flits (t : HostTxn) : t.flits.length = t.cmd.dataFlits := by
  rw [HostTxn.flits, List.length_map, t.len]

lemma HostTxn.mem_flits {t : HostTxn} {x : HostCmd × DataFlit} (h : x ∈ t.flits) :
    x.1 = t.cmd := by
  obtain ⟨d, -, rfl⟩ := List.mem_map.mp h
  rfl

lemma HostTxn.flits_mmioWrite {cfg : AcsConfig} {t : HostTxn}
    (h : t.cmd.startMmioWrite cfg = true) : ∃ d, t.flits = [(t.cmd, d)] := by
  have hlen := t.len
  rw [HostCmd.dataFlits_mmioWrite h] at hlen
  obtain ⟨d, hd⟩ := List.length_eq_one_iff.mp hlen
  exact ⟨d, by rw [HostTxn.flits, hd]; rfl⟩

lemma HostTxn.flits_mmioRead {cfg : AcsConfig} {t : HostTxn}
    (h : t.cmd.startMmioRead cfg = true) : t.flits = [] := by
  rw [← List.length_eq_zero_iff, t.length_flits, HostCmd.dataFlits_mmioRead h]

/-- `ts` and `ns` are the commands in the two FIFOs; the data that has not been asked for is that
of the commands in the command FIFO, but for the MMIO write that `SM_MMW` is busy with. -/
structure PathInv (cfg : AcsConfig) (s : HostPath) (ts : List HostTxn) (ns : List NetCmd) :
    Prop where
  rmem : RmemInv cfg s.rmem ts ns
  carried : ∀ t ∈ ts, t.cmd.Carried cfg
  tlx : s.tlx_data = txnFlits (if s.rmem.SM_MMW = .IDLE then ts else ts.tail)

namespace PathInv

variable {cfg : AcsConfig} {s : HostPath} {ts : List HostTxn} {ns : List NetCmd}

lemma init (cfg : AcsConfig) : PathInv cfg {} [] [] := ⟨RmemInv.init cfg, by simp, rfl⟩

/-- The flits that are asked for in a cycle: those of the MMIO write at the head, or those of the
command that `LPC_LOAD_NET` has just taken, or none. -/
lemma asked_cases (h : PathInv cfg s ts ns) :
    (∃ t r d, ts = t :: r ∧ s.rmem.rd_req_mmw cfg = true ∧ t.cmd.startMmioWrite cfg = true ∧
      t.flits = [(t.cmd, d)] ∧ s.asked cfg = 1) ∨
    (∃ t r, ts = t :: r ∧ s.rmem.LPC_LOAD_NET = .WAIT_1CYCLE ∧ s.rmem.rd_req_mmw cfg = false ∧
      s.rmem.SM_MMW = .IDLE ∧ t.cmd.startRemote cfg = true ∧ s.asked cfg = t.flits.length) ∨
    (s.rmem.LPC_LOAD_NET = .IDLE ∧ s.rmem.rd_req_mmw cfg = false ∧ s.asked cfg = 0) := by
  by_cases hmmw : s.rmem.rd_req_mmw cfg = true
  · have hm := hmmw
    simp only [Rmem.rd_req_mmw, Bool.and_eq_true, decide_eq_true_eq] at hm
    obtain ⟨⟨hidle, hs⟩, -⟩ := hm
    obtain ⟨t, r, rfl, ht, -⟩ := h.rmem.start_head hs
    obtain ⟨d, hd⟩ := HostTxn.flits_mmioWrite ht
    obtain ⟨hcnt, hreq⟩ := Prod.mk.inj (h.rmem.idle_rd (h.rmem.busy_mmioWrite hs).2)
    refine .inl ⟨t, r, d, rfl, hmmw, ht, hd, ?_⟩
    rw [HostPath.asked, Rmem.rd_req, Rmem.rd_cnt, hmmw, hcnt]
    rfl
  · have hmmw' := eq_false_of_ne_true hmmw
    cases hl : s.rmem.LPC_LOAD_NET with
    | IDLE =>
        obtain ⟨-, hreq⟩ := Prod.mk.inj (h.rmem.idle_rd hl)
        refine .inr (.inr ⟨rfl, hmmw', ?_⟩)
        rw [HostPath.asked, Rmem.rd_req, hmmw', hreq]
        rfl
    | WAIT_1CYCLE =>
        obtain ⟨t, r, rfl, ht, -, hrd, -⟩ := h.rmem.lpc hl
        have hw : s.rmem.SM_MMW = .IDLE := by
          rcases h.rmem.busy_cases with hb | hb | hb | hb
          · exact hb.1
          · exact absurd (hl.symm.trans hb.2.2) (by decide)
          · exact hb.1
          · exact hb.1
        refine .inr (.inl ⟨t, r, rfl, rfl, hmmw', hw, ht, ?_⟩)
        have hcnt : s.rmem.rd_cnt_lpc_io = (t.cmd.rd cfg).1 := congrArg Prod.fst hrd
        have hreq : s.rmem.rd_req_lpc_io = (t.cmd.rd cfg).2 := congrArg Prod.snd hrd
        rw [HostPath.asked, Rmem.rd_req, Rmem.rd_cnt, hmmw', hcnt, hreq, t.length_flits,
          ← HostCmd.rd_flits ht (h.carried t (by simp)).length]
        simp

/-- What is asked for is the data of the head, or nothing. -/
lemma take_asked (h : PathInv cfg s ts ns) :
    s.tlx_data.take (s.asked cfg) = if s.rmem.rd_req_mmw cfg = true ∨
      s.rmem.LPC_LOAD_NET = .WAIT_1CYCLE then txnFlits (ts.take 1) else [] := by
  rcases h.asked_cases with ⟨t, r, d, rfl, hmmw, ht, hd, hask⟩ | ⟨t, r, rfl, hl, -, hw, -, hask⟩ |
    ⟨hl, hmmw, hask⟩
  · have hidle : s.rmem.SM_MMW = .IDLE := by simp_all [Rmem.rd_req_mmw]
    rw [h.tlx, hask, if_pos hidle, if_pos (.inl hmmw)]
    simp [hd]
  · rw [h.tlx, hask, if_pos hw, if_pos (.inr hl)]
    simp
  · rw [hask, if_neg (by simp [hl, hmmw])]
    rfl

/-- The data that has not been asked for, after a cycle. -/
lemma tlx_step (h : PathInv cfg s ts ns) (i : HostPathIn) :
    (s.step cfg i).tlx_data = txnFlits (if (s.step cfg i).rmem.SM_MMW = .IDLE then
      RmemInv.nextTxns s.rmem ts (s.accepted i)
      else (RmemInv.nextTxns s.rmem ts (s.accepted i)).tail) := by
  have hstep : (s.step cfg i).tlx_data
      = s.tlx_data.drop (s.asked cfg) ++ txnFlits (s.accepted i) := rfl
  have hsm : (s.step cfg i).rmem.SM_MMW = s.rmem.nextMmw cfg (s.wires i) := rfl
  have hdisp := h.rmem.cmd_dispatched_eq
  rw [hstep, hsm, h.tlx, RmemInv.nextTxns]
  rcases h.asked_cases with ⟨t, r, d, rfl, hmmw, ht, hd, hask⟩ | ⟨t, r, rfl, hl, hmmw, hw, ht, hask⟩ |
    ⟨hl, hmmw, hask⟩
  · have hm := hmmw
    simp only [Rmem.rd_req_mmw, Bool.and_eq_true, decide_eq_true_eq] at hm
    obtain ⟨⟨hidle, hs⟩, -⟩ := hm
    obtain ⟨hr, hl⟩ := h.rmem.busy_mmioWrite hs
    have hnext := (Rmem.nextMmw_eq_data (i := s.wires i)).mpr (.inl hmmw)
    rw [hdisp, hidle, hr, hl, hnext, hask]
    simp [hd]
  · have hnext : s.rmem.nextMmw cfg (s.wires i) = .IDLE := by
      by_contra hn
      rcases Rmem.nextMmw_ne_idle hn with ⟨-, hs, -⟩ | ⟨hn', -⟩
      · exact absurd (hl.symm.trans (h.rmem.busy_mmioWrite hs).2) (by decide)
      · exact hn' hw
    rw [hdisp, hl, hnext, hask, hw]
    simp
  · rw [hask, List.drop_zero]
    by_cases hw : s.rmem.SM_MMW = .IDLE
    · have hnext : s.rmem.nextMmw cfg (s.wires i) = .IDLE := by
        by_contra hn
        rcases Rmem.nextMmw_ne_idle hn with ⟨-, hs, hp⟩ | ⟨hn', -⟩
        · simp [Rmem.rd_req_mmw, hw, hs, hp] at hmmw
        · exact hn' hw
      rw [hdisp, hl, hnext, hw]
      by_cases hr : s.rmem.SM_MMR = .WAIT_FOR_NEXT_CMD
      · obtain ⟨t, r, rfl, ht⟩ := h.rmem.mmr (by simp [hr])
        simp [hr, HostTxn.flits_mmioRead ht]
      · simp [hr]
    · obtain ⟨t, r, rfl, -⟩ := h.rmem.mmw hw
      have hr : s.rmem.SM_MMR = .IDLE := by
        rcases h.rmem.busy_cases with hb | hb | hb | hb
        · exact absurd hb.1 hw
        · exact hb.2.1
        · exact absurd hb.1 hw
        · exact absurd hb.1 hw
      by_cases hn : s.rmem.SM_MMW = .WAIT_FOR_NEXT_CMD
      · have hnext : s.rmem.nextMmw cfg (s.wires i) = .IDLE := by
          rw [Rmem.nextMmw, hn]
        rw [hdisp, hl, hnext, hr, hn]
        simp
      · have hnext : s.rmem.nextMmw cfg (s.wires i) ≠ .IDLE := by
          rw [Rmem.nextMmw]
          cases hm : s.rmem.SM_MMW <;> simp_all <;> split_ifs <;> simp
        rw [hdisp, hl, hr, if_neg hw, if_neg hnext]
        simp [hn]

lemma accepted_length (s : HostPath) (i : HostPathIn) : (s.accepted i).length ≤ 1 := by
  rw [HostPath.accepted]
  cases i.txn <;> split_ifs <;> simp

/-- **One cycle of the path.** -/
theorem step (h : PathInv cfg s ts ns) (i : HostPathIn)
    (hacc : ∀ t ∈ s.accepted i, t.cmd.Carried cfg) :
    PathInv cfg (s.step cfg i) (RmemInv.nextTxns s.rmem ts (s.accepted i))
      (RmemInv.nextNcff s.rmem (s.wires i) ns) where
  rmem := by
    refine h.rmem.step (s.wires i) rfl (accepted_length s i) (fun hne => ?_)
      fun t ht => (h.carried t ht).mapped
    refine Nat.lt_of_le_of_ne (by simpa using h.rmem.cff.length_le) fun h8 => hne ?_
    have hfull : s.rmem.cff.full = true := h.rmem.cff.full_iff.mpr (by simpa using h8)
    rw [HostPath.accepted, if_pos hfull]
  carried := by
    intro t ht
    rcases List.mem_append.mp ht with ht | ht
    · refine h.carried t ?_
      split_ifs at ht
      · exact List.mem_of_mem_tail ht
      · exact ht
    · exact hacc t ht
  tlx := h.tlx_step i

end PathInv

lemma HostPath.delivered_append_stillOwed (s : HostPath) (i : HostPathIn) :
    s.delivered i ++ s.stillOwed i = s.owed := by
  rw [HostPath.delivered, HostPath.stillOwed]
  cases s.owed <;> split_ifs <;> simp

/-- The TLX's account: the data of the commands sent is what has been delivered, what is owed and
what has not been asked for, in this order. -/
lemma tlx_account (cfg : AcsConfig) (s : HostPath) (i : HostPathIn) :
    s.delivered i ++ (s.step cfg i).owed ++ (s.step cfg i).tlx_data
      = s.owed ++ s.tlx_data ++ txnFlits (s.accepted i) := by
  have howed : (s.step cfg i).owed = s.stillOwed i ++ s.tlx_data.take (s.asked cfg) := rfl
  have htlx : (s.step cfg i).tlx_data
      = s.tlx_data.drop (s.asked cfg) ++ txnFlits (s.accepted i) := rfl
  rw [howed, htlx, ← s.delivered_append_stillOwed i]
  simp only [List.append_assoc]
  rw [← List.append_assoc (List.take _ _), List.take_append_drop]

end ThymesisFlow
