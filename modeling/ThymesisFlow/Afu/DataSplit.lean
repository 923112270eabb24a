import ThymesisFlow.Afu.HostPath

/-!
# Write data and its two consumers

A data flit that the TLX delivers carries no tag.  It goes to the command data FIFO while
`pipeline_lock_w` is clear and to the MMIO registers while `SM_MMW` waits for data.
`pipeline_lock_w` is set as soon as a MMIO write is at the head of the command FIFO, whatever is
still outstanding, so a remote write's flit that arrives after that is dropped or taken for the
MMIO write.

`DataSplit` is what a run has to satisfy, `SplitOk` the condition on a cycle: when a MMIO write is
at the head and `SM_MMW` is idle, no data of a remote write is outstanding.
-/

namespace ThymesisFlow

/-- The commands of the mix: 128 byte writes and reads of the remote memory, MMIO writes and MMIO
reads. -/
structure HostCmd.Mixed (cfg : AcsConfig) (c : HostCmd) : Prop where
  kind : c.startWriteMem cfg = true ∧ c.dl = 0b10 ∨ c.startRdMem cfg = true ∨
    c.startPrRdMem cfg = true ∨ c.startMmioWrite cfg = true ∨ c.startMmioRead cfg = true
  mapped : c.startRemote cfg = true → c.segment < 12

instance (cfg : AcsConfig) (c : HostCmd) : Decidable (c.Mixed cfg) :=
  decidable_of_iff ((c.startWriteMem cfg = true ∧ c.dl = 0b10 ∨ c.startRdMem cfg = true ∨
    c.startPrRdMem cfg = true ∨ c.startMmioWrite cfg = true ∨ c.startMmioRead cfg = true) ∧
    (c.startRemote cfg = true → c.segment < 12)) ⟨fun h => ⟨h.1, h.2⟩, fun h => ⟨h.1, h.2⟩⟩

/-- What the MMIO registers have to be given for a MMIO write. -/
def HostCmd.mmioWrite (c : HostCmd) (d : DataFlit) : MmioWrite :=
  ⟨field c.pa 0 20, c.pl, mmwData c.pa d, bit d 512⟩

/-- **Every flit reaches its own consumer** in the run with the inputs `is`. -/
structure DataSplit (cfg : AcsConfig) (is : List HostPathIn) : Prop where
  /-- What is delivered and outstanding is the data of the commands, in order. -/
  requested : (hostPath cfg).collect HostPath.delivered is ++ ((hostPath cfg).run is).owed
    <+: txnFlits ((hostPath cfg).collect HostPath.accepted is)
  /-- Each flit belongs to one of the two consumers. -/
  owner : ∀ x ∈ (hostPath cfg).collect HostPath.delivered is,
    x.1.startRemote cfg = true ∨ x.1.startMmioWrite cfg = true
  /-- The flits of remote writes are pushed into the command data FIFO, once and in order. -/
  remote : (hostPath cfg).collect HostPath.pushed is
    = (((hostPath cfg).collect HostPath.delivered is).filter fun x => x.1.startRemote cfg).map Prod.snd
  /-- The flits of MMIO writes are what the MMIO registers are given. -/
  mmio : (hostPath cfg).collect HostPath.written is
    = (((hostPath cfg).collect HostPath.delivered is).filter fun x => x.1.startMmioWrite cfg).map
        fun x => x.1.mmioWrite x.2
  /-- There is always room in the command data FIFO. -/
  room : ((hostPath cfg).run is).cmddata_fifo.length < 128

/-- The condition on a cycle. -/
structure SplitOk (cfg : AcsConfig) (s : HostPath) (i : HostPathIn) : Prop where
  mixed : ∀ t ∈ s.accepted i, t.cmd.Mixed cfg
  settled : s.rmem.SM_MMW = .IDLE → s.rmem.start_mmio_write cfg = true →
    ∀ x ∈ s.stillOwed i, x.1.startRemote cfg = false

instance (cfg : AcsConfig) (s : HostPath) (i : HostPathIn) : Decidable (SplitOk cfg s i) :=
  decidable_of_iff ((∀ t ∈ s.accepted i, t.cmd.Mixed cfg) ∧ (s.rmem.SM_MMW = .IDLE →
    s.rmem.start_mmio_write cfg = true → ∀ x ∈ s.stillOwed i, x.1.startRemote cfg = false))
    ⟨fun h => ⟨h.1, h.2⟩, fun h => ⟨h.1, h.2⟩⟩

/-! ## The commands of the mix -/

namespace HostCmd

variable {cfg : AcsConfig} {c : HostCmd}

lemma Mixed.carried (h : c.Mixed cfg) : c.Carried cfg where
  mapped := h.mapped
  length hw := by
    rcases h.kind with ⟨-, hk⟩ | hk | hk | hk | hk
    · rw [hk]; decide
    all_goals simp_all [startWriteMem, startRdMem, startPrRdMem, startMmioWrite, startMmioRead]
  decoded := by
    rcases h.kind with ⟨hk, -⟩ | hk | hk | hk | hk <;> simp [startRemote, hk]

/-- A remote command of the mix is a write of two flits or has no data. -/
lemma Mixed.remote (h : c.Mixed cfg) (hr : c.startRemote cfg = true) (reg : BitVec 64) :
    ((NetCmd.ofHost reg c).isWrite = true → (NetCmd.ofHost reg c).dl = 0b10) ∧
      c.dataFlits = if (NetCmd.ofHost reg c).isWrite then 2 else 0 := by
  have hop : c.opcode = 0x81 ∧ c.dl = 0b10 ∨ c.opcode = 0x20 ∨ c.opcode = 0x28 := by
    obtain ⟨hnw, hnr⟩ := startMmio_of_remote hr
    rcases h.kind with ⟨hk, hdl⟩ | hk | hk | hk | hk
    · exact .inl ⟨by simp_all [startWriteMem], hdl⟩
    · exact .inr (.inl (by simp_all [startRdMem]))
    · exact .inr (.inr (by simp_all [startPrRdMem]))
    · exact absurd (hnw.symm.trans hk) Bool.false_ne_true
    · exact absurd (hnr.symm.trans hk) Bool.false_ne_true
  have hw : (NetCmd.ofHost reg c).isWrite = bit (netCmdOpcode c.opcode) 5 := rfl
  rcases hop with ⟨hop, hdl⟩ | hop | hop
  · have hbit : bit (netCmdOpcode 0x81) 5 = true := by decide
    rw [hw, hop, hbit]
    exact ⟨fun _ => hdl, by simp [dataFlits, hop, hdl]⟩
  · have hbit : bit (netCmdOpcode 0x20) 5 = false := by decide
    rw [hw, hop, hbit]
    exact ⟨fun h => absurd h Bool.false_ne_true, by simp [dataFlits, hop]⟩
  · have hbit : bit (netCmdOpcode 0x28) 5 = false := by decide
    rw [hw, hop, hbit]
    exact ⟨fun h => absurd h Bool.false_ne_true, by simp [dataFlits, hop]⟩

end HostCmd

/-- What the adapter waits for after a cycle, if every write has two flits. -/
lemma EgressAdapter.left_step {a : EgressAdapter} {cmd : Option NetCmd}
    (hdl : ∀ n, cmd = some n → n.isWrite = true → n.dl = 0b10) (data : Option DataFlit)
    (out_tready : Bool)
    (hsize : a.ocapi_sm = .INPUT_DATAFLIT → a.dflit_size = 1 ∨ a.dflit_size = 2) :
    ((a.step cmd data out_tready).left + (if a.takesData data out_tready then 1 else 0)
      = a.left + if a.takesCmd cmd out_tready then 2 * cmd.toList.countP NetCmd.isWrite else 0) ∧
    ((a.step cmd data out_tready).ocapi_sm = .INPUT_DATAFLIT →
      (a.step cmd data out_tready).dflit_size = 1 ∨ (a.step cmd data out_tready).dflit_size = 2) := by
  have htwo : dflitSize 2#2 = 2#3 := by decide
  by_cases hc : a.takesCmd cmd out_tready = true
  · obtain ⟨n, rfl, hsm, hd, heq⟩ := step_takesCmd data hc
    rw [heq, hd, hc]
    by_cases hw : n.isWrite = true
    · simp [left, hsm, hw, hdl n rfl hw, htwo]
    · simp [left, hsm, hw]
  · have hc' := eq_false_of_ne_true hc
    by_cases hd : a.takesData data out_tready = true
    · obtain ⟨d, rfl, hsm, -, heq⟩ := step_takesData cmd hd
      rw [heq, hd, hc']
      rcases hsize hsm with hz | hz <;> simp [left, hsm, hz]
    · have hd' := eq_false_of_ne_true hd
      rw [step_idle hc' hd', hd', hc']
      exact ⟨rfl, hsize⟩

/-! ## The invariant -/

/-- While `SM_MMW` waits for data exactly the flit of the MMIO write at the head is owed, and
otherwise only flits of remote writes; none of them once the pipeline is locked.  Whatever is in
the command data FIFO or owed to it is waited for by a command in the network FIFO or by the
adapter. -/
structure SplitInv (cfg : AcsConfig) (s : HostPath) (ts : List HostTxn) (ns : List NetCmd) :
    Prop where
  path : PathInv cfg s ts ns
  mixed : ∀ t ∈ ts, t.cmd.Mixed cfg
  mmw_data : s.rmem.SM_MMW = .WAIT_FOR_DATA → ∃ t r d, ts = t :: r ∧ t.flits = [(t.cmd, d)] ∧
    s.owed = [(t.cmd, d)]
  remote : s.rmem.SM_MMW ≠ .WAIT_FOR_DATA → ∀ x ∈ s.owed, x.1.startRemote cfg = true
  lock : s.rmem.pipeline_lock_w = true → s.rmem.SM_MMW ≠ .WAIT_FOR_DATA → s.owed = []
  rows : ∀ n ∈ ns, n.isWrite = true → n.dl = 0b10
  size : s.adapter.ocapi_sm = .INPUT_DATAFLIT →
    s.adapter.dflit_size = 1 ∨ s.adapter.dflit_size = 2
  count : s.cmddata_fifo.length + s.owed.countP (fun x => x.1.startRemote cfg)
    = 2 * ns.countP NetCmd.isWrite + s.adapter.left

namespace SplitInv

variable {cfg : AcsConfig} {s : HostPath} {ts : List HostTxn} {ns : List NetCmd} {i : HostPathIn}

lemma init (cfg : AcsConfig) : SplitInv cfg {} [] [] where
  path := PathInv.init cfg
  mixed := by simp
  mmw_data h := nomatch h
  remote _ := by simp
  lock _ _ := rfl
  rows := by simp
  size h := nomatch h
  count := rfl

lemma left_le (h : SplitInv cfg s ts ns) : s.adapter.left ≤ 2 := by
  rw [EgressAdapter.left]
  split_ifs with hsm
  · rcases h.size hsm with hz | hz <;> simp [hz]
  · exact Nat.zero_le _

/-- At most the data of nine writes is in the command data FIFO. -/
lemma fifo_le (h : SplitInv cfg s ts ns) : s.cmddata_fifo.length ≤ 18 := by
  have hcount := h.count
  have hle := h.left_le
  have hns : ns.countP NetCmd.isWrite ≤ 8 := List.countP_le_length.trans h.path.rmem.ncff.length_le
  omega

/-- What is delivered: nothing, a flit of a remote write while the pipeline is not locked, or the
flit that `SM_MMW` waits for. -/
lemma delivered_cases (h : SplitInv cfg s ts ns) (i : HostPathIn) :
    s.delivered i = [] ∧ s.stillOwed i = s.owed ∨
    (∃ x, s.delivered i = [x] ∧ s.owed = x :: s.stillOwed i ∧ x.1.startRemote cfg = true ∧
      s.rmem.pipeline_lock_w = false ∧ s.rmem.SM_MMW = .IDLE) ∨
    (∃ t r d, ts = t :: r ∧ s.delivered i = [(t.cmd, d)] ∧ s.owed = [(t.cmd, d)] ∧
      s.stillOwed i = [] ∧ t.cmd.startMmioWrite cfg = true ∧ s.rmem.SM_MMW = .WAIT_FOR_DATA) := by
  rw [HostPath.delivered, HostPath.stillOwed]
  cases hdl : i.deliver with
  | false => exact .inl ⟨rfl, rfl⟩
  | true =>
      rw [if_pos rfl, if_pos rfl]
      cases ho : s.owed with
      | nil => exact .inl ⟨rfl, rfl⟩
      | cons x xs =>
          by_cases hm : s.rmem.SM_MMW = .WAIT_FOR_DATA
          · obtain ⟨t, r, d, rfl, -, ho'⟩ := h.mmw_data hm
            obtain ⟨rfl, rfl⟩ := List.cons.inj (ho.symm.trans ho')
            obtain ⟨t', r', heq, ht, -⟩ := h.path.rmem.mmw (by simp [hm])
            obtain ⟨rfl, -⟩ := List.cons.inj heq
            exact .inr (.inr ⟨t, r, d, rfl, rfl, rfl, rfl, ht, hm⟩)
          · have hlock : s.rmem.pipeline_lock_w = false := by
              by_contra hl
              have := h.lock (eq_true_of_ne_false hl) hm
              exact absurd (ho.symm.trans this) (by simp)
            have hidle : s.rmem.SM_MMW = .IDLE := by
              by_contra hi
              exact absurd (hlock.symm.trans (h.path.rmem.lock_w hi)) Bool.false_ne_true
            exact .inr (.inl ⟨x, rfl, rfl, h.remote hm x (by simp [ho]), hlock, hidle⟩)

/-- In every cycle the flit delivered goes to its own consumer. -/
lemma split (h : SplitInv cfg s ts ns) (i : HostPathIn) :
    (∀ x ∈ s.delivered i, x.1.startRemote cfg = true ∨ x.1.startMmioWrite cfg = true) ∧
    s.pushed i = ((s.delivered i).filter fun x => x.1.startRemote cfg).map Prod.snd ∧
    s.written i = ((s.delivered i).filter fun x => x.1.startMmioWrite cfg).map
      fun x => x.1.mmioWrite x.2 := by
  have hdata : (s.wires i).tlx_afu_cmd_data = (s.delivered i).head?.map Prod.snd := rfl
  have hroom : s.cmddata_fifo.length < 128 := h.fifo_le.trans_lt (by decide)
  rw [HostPath.pushed, HostPath.written, Rmem.cmddata_fifo_tvalid, Rmem.mmioWrite, hdata]
  rcases h.delivered_cases i with ⟨hd, -⟩ | ⟨x, hd, -, hx, hl, hm⟩ | ⟨t, r, d, rfl, hd, -, -, ht, hm⟩
  · simp [hd]
  · have hnw := (HostCmd.startMmio_of_remote hx).1
    simp [hd, hx, hnw, hl, hm, hroom]
  · have hnr : t.cmd.startRemote cfg = false :=
      HostCmd.startRemote_of_mmio (HostCmd.startMmioWrite_opcode ht).2
    have hl : s.rmem.pipeline_lock_w = true := h.path.rmem.lock_w (by simp [hm])
    obtain ⟨t', r', heq, -, hpa, hpl⟩ := h.path.rmem.mmw (by simp [hm])
    obtain ⟨rfl, -⟩ := List.cons.inj heq
    have hc := h.path.rmem.cff_cmd_eq
    simp [hd, hnr, ht, hl, hm, hpa, hpl, hc, HostCmd.mmioWrite]

lemma countP_remote {t : HostTxn} (ht : t.cmd.startRemote cfg = true) :
    t.flits.countP (fun x => x.1.startRemote cfg) = t.cmd.dataFlits := by
  rw [List.countP_eq_length.mpr, t.length_flits]
  intro x hx
  rw [HostTxn.mem_flits hx]
  exact ht

/-- For every flit that is asked for, a command that waits for it enters the network FIFO in the
same cycle. -/
lemma count_asked (h : SplitInv cfg s ts ns) (i : HostPathIn) :
    (s.tlx_data.take (s.asked cfg)).countP (fun x => x.1.startRemote cfg)
        = 2 * (if s.rmem.ncff_cmd_in_valid then
          (netCmdRow i.thymesis_cfg s.rmem.ncff_cmd_in).toList else []).countP NetCmd.isWrite ∧
      ∀ n ∈ (if s.rmem.ncff_cmd_in_valid then
          (netCmdRow i.thymesis_cfg s.rmem.ncff_cmd_in).toList else []), n.isWrite = true →
        n.dl = 0b10 := by
  rw [h.path.take_asked, h.path.rmem.ncff_in]
  rcases h.path.asked_cases with ⟨t, r, d, rfl, hmmw, ht, hd, -⟩ | ⟨t, r, rfl, hl, -, -, ht, -⟩ |
    ⟨hl, hmmw, -⟩
  · have hl : s.rmem.LPC_LOAD_NET = .IDLE := by
      simp only [Rmem.rd_req_mmw, Bool.and_eq_true, decide_eq_true_eq] at hmmw
      exact (h.path.rmem.busy_mmioWrite hmmw.1.2).2
    have hnr : t.cmd.startRemote cfg = false :=
      HostCmd.startRemote_of_mmio (HostCmd.startMmioWrite_opcode ht).2
    simp [hmmw, hl, hd, hnr]
  · obtain ⟨t', r', heq, -, hin, -⟩ := h.path.rmem.lpc hl
    obtain ⟨rfl, -⟩ := List.cons.inj heq
    have hseg := (h.mixed t (by simp)).mapped ht
    have hrow : netCmdRow i.thymesis_cfg s.rmem.ncff_cmd_in
        = some (.ofHost (i.thymesis_cfg ⟨t.cmd.segment, hseg⟩) t.cmd) := by
      rw [hin, netCmdRow, dif_pos hseg]
    obtain ⟨hdl, hlen⟩ :=
      (h.mixed t (by simp)).remote ht (i.thymesis_cfg ⟨t.cmd.segment, hseg⟩)
    rw [hrow, if_pos (.inr hl), hl]
    refine ⟨?_, by simpa using hdl⟩
    simp only [List.take_succ_cons, List.take_zero, txnFlits_cons, txnFlits_nil, List.append_nil,
      countP_remote ht, hlen, decide_true, if_true, Option.toList_some, List.countP_singleton]
    split_ifs <;> rfl
  · simp [hmmw, hl]

lemma stillOwed_subset (s : HostPath) (i : HostPathIn) : s.stillOwed i ⊆ s.owed := by
  rw [← s.delivered_append_stillOwed i]
  exact List.subset_append_right _ _

/-- When `SM_MMW` starts to wait, or has waited in vain, exactly its flit is owed. -/
lemma mmw_data_step (h : SplitInv cfg s ts ns) (hok : SplitOk cfg s i)
    (hw : (s.step cfg i).rmem.SM_MMW = .WAIT_FOR_DATA) :
    ∃ t r d, RmemInv.nextTxns s.rmem ts (s.accepted i) = t :: r ∧ t.flits = [(t.cmd, d)] ∧
      (s.step cfg i).owed = [(t.cmd, d)] := by
  have howed : (s.step cfg i).owed = s.stillOwed i ++ s.tlx_data.take (s.asked cfg) := rfl
  have hkeep (hd : s.rmem.cmd_dispatched = false) :
      RmemInv.nextTxns s.rmem ts (s.accepted i) = ts ++ s.accepted i := by
    rw [RmemInv.nextTxns, hd, if_neg Bool.false_ne_true]
  rw [howed, h.path.take_asked]
  rcases Rmem.nextMmw_eq_data.mp hw with hmmw | ⟨hm, hnone⟩
  · have hm := hmmw
    simp only [Rmem.rd_req_mmw, Bool.and_eq_true, decide_eq_true_eq] at hm
    obtain ⟨⟨hidle, hs⟩, -⟩ := hm
    obtain ⟨hr, hl⟩ := h.path.rmem.busy_mmioWrite hs
    obtain ⟨t, r, rfl, ht, -⟩ := h.path.rmem.start_head hs
    obtain ⟨d, hd⟩ := HostTxn.flits_mmioWrite ht
    have hnone : s.stillOwed i = [] := by
      rw [List.eq_nil_iff_forall_not_mem]
      intro x hx
      have := h.remote (by simp [hidle]) x (stillOwed_subset s i hx)
      exact absurd (this.symm.trans (hok.settled hidle hs x hx)) (by decide)
    refine ⟨t, r ++ s.accepted i, d, ?_, hd, ?_⟩
    · rw [hkeep (by rw [h.path.rmem.cmd_dispatched_eq, hidle, hr, hl]; rfl)]
      rfl
    · rw [hnone, if_pos (.inl hmmw)]
      simp [hd]
  · obtain ⟨t, r, d, rfl, hd, ho⟩ := h.mmw_data hm
    have hb : s.rmem.SM_MMR = .IDLE ∧ s.rmem.LPC_LOAD_NET = .IDLE := by
      rcases h.path.rmem.busy_cases with hb | hb | hb | hb
      · exact absurd (hb.1.symm.trans hm) (by decide)
      · exact hb.2
      · exact absurd (hb.1.symm.trans hm) (by decide)
      · exact absurd (hb.1.symm.trans hm) (by decide)
    have hstill : s.stillOwed i = s.owed := by
      rcases h.delivered_cases i with ⟨-, hs⟩ | ⟨x, hx, -⟩ | ⟨t, r, d, -, hx, -⟩
      · exact hs
      · simp [HostPath.wires, hx] at hnone
      · simp [HostPath.wires, hx] at hnone
    refine ⟨t, r ++ s.accepted i, d, ?_, hd, ?_⟩
    · rw [hkeep (by rw [h.path.rmem.cmd_dispatched_eq, hm, hb.1, hb.2]; rfl)]
      rfl
    · rw [hstill, ho, if_neg (by simp [Rmem.rd_req_mmw, hm, hb.2])]
      simp

/-- Otherwise the flits owed are those that were, and those of a command just dispatched. -/
lemma owed_step (h : SplitInv cfg s ts ns)
    (hw : (s.step cfg i).rmem.SM_MMW ≠ .WAIT_FOR_DATA) :
    (s.step cfg i).owed = s.stillOwed i ++
        (if s.rmem.LPC_LOAD_NET = .WAIT_1CYCLE then txnFlits (ts.take 1) else []) ∧
      ∀ x ∈ s.stillOwed i, x.1.startRemote cfg = true := by
  have howed : (s.step cfg i).owed = s.stillOwed i ++ s.tlx_data.take (s.asked cfg) := rfl
  have hmmw : s.rmem.rd_req_mmw cfg = false := by
    by_contra hr
    exact hw (Rmem.nextMmw_eq_data.mpr (.inl (eq_true_of_ne_false hr)))
  rw [howed, h.path.take_asked, hmmw]
  refine ⟨by simp, fun x hx => ?_⟩
  by_cases hm : s.rmem.SM_MMW = .WAIT_FOR_DATA
  · rcases h.delivered_cases i with ⟨hd, -⟩ | ⟨-, -, -, -, -, hi⟩ | ⟨-, -, -, -, -, -, hs, -⟩
    · exact absurd (Rmem.nextMmw_eq_data.mpr (.inr ⟨hm, by simp [HostPath.wires, hd]⟩)) hw
    · exact absurd (hi.symm.trans hm) (by decide)
    · simp [hs] at hx
  · exact h.remote hm x (stillOwed_subset s i hx)

/-- Once the pipeline is locked no remote write has data outstanding. -/
lemma lock_step (h : SplitInv cfg s ts ns) (hok : SplitOk cfg s i)
    (hlock : (s.step cfg i).rmem.pipeline_lock_w = true)
    (hw : (s.step cfg i).rmem.SM_MMW ≠ .WAIT_FOR_DATA) : (s.step cfg i).owed = [] := by
  obtain ⟨howed, hremote⟩ := h.owed_step hw
  rcases Rmem.nextLockW_eq.mp hlock with hm | ⟨hm, hs⟩
  · have hl : s.rmem.LPC_LOAD_NET = .IDLE := by
      rcases h.path.rmem.busy_cases with hb | hb | hb | hb
      · exact hb.2.2
      · exact hb.2.2
      · exact hb.2.2
      · exact absurd hb.1 hm
    have hstill : s.stillOwed i = [] := by
      by_cases hd : s.rmem.SM_MMW = .WAIT_FOR_DATA
      · rcases h.delivered_cases i with ⟨hn, -⟩ | ⟨-, -, -, -, -, hi⟩ | ⟨-, -, -, -, -, -, hs, -⟩
        · exact absurd (Rmem.nextMmw_eq_data.mpr (.inr ⟨hd, by simp [HostPath.wires, hn]⟩)) hw
        · exact absurd hi hm
        · exact hs
      · have := h.lock (h.path.rmem.lock_w hm) hd
        exact List.subset_nil.mp (this ▸ stillOwed_subset s i)
    rw [howed, hstill, hl]
    rfl
  · have hstill : s.stillOwed i = [] := by
      rw [List.eq_nil_iff_forall_not_mem]
      intro x hx
      exact absurd ((hremote x hx).symm.trans (hok.settled hm hs x hx)) (by decide)
    rw [howed, hstill, (h.path.rmem.busy_mmioWrite hs).2]
    rfl

lemma fifo_step (cfg : AcsConfig) (s : HostPath) (i : HostPathIn) :
    (s.step cfg i).cmddata_fifo.length
        + (if s.adapter.takesData (s.adapterData i) i.adapter_out_tready then 1 else 0)
      = s.cmddata_fifo.length + (s.pushed i).length := by
  have hfifo : (s.step cfg i).cmddata_fifo
      = (if s.adapter.takesData (s.adapterData i) i.adapter_out_tready then s.cmddata_fifo.tail
        else s.cmddata_fifo) ++ s.pushed i := rfl
  rw [hfifo, List.length_append]
  split_ifs with ht
  · obtain ⟨d, hd, -⟩ := EgressAdapter.step_takesData none ht
    have hne : s.cmddata_fifo ≠ [] := by
      rintro hnil
      simp [HostPath.adapterData, hnil] at hd
    have := List.length_pos_iff.mpr hne
    rw [List.length_tail]
    omega
  · rfl

/-- The commands that the adapter takes leave the network FIFO. -/
lemma ncff_step (h : SplitInv cfg s ts ns) (i : HostPathIn) :
    (if (s.wires i).ncff_cmd_tready && s.rmem.ncff.valid then ns.tail else ns).countP NetCmd.isWrite
        + (if s.adapter.takesCmd s.adapterCmd i.adapter_out_tready then
          s.adapterCmd.toList.countP NetCmd.isWrite else 0)
      = ns.countP NetCmd.isWrite := by
  have hv := h.path.rmem.ncff.valid_eq
  have hw : (s.wires i).ncff_cmd_tready = s.adapter.cmdTready i.adapter_out_tready := rfl
  rw [HostPath.adapterCmd, EgressAdapter.takesCmd, hw, hv]
  cases ns with
  | nil => simp
  | cons n ns =>
      rw [h.path.rmem.ncff.head_eq]
      cases s.adapter.cmdTready i.adapter_out_tready <;> simp [List.countP_cons]

/-- **One cycle.** -/
theorem step (h : SplitInv cfg s ts ns) (hok : SplitOk cfg s i) :
    SplitInv cfg (s.step cfg i) (RmemInv.nextTxns s.rmem ts (s.accepted i))
      (RmemInv.nextNcff s.rmem (s.wires i) ns) := by
  obtain ⟨hcount, hrows⟩ := h.count_asked i
  have hcmd : ∀ n, s.adapterCmd = some n → n.isWrite = true → n.dl = 0b10 := by
    intro n hn
    have hv := h.path.rmem.ncff.valid_eq
    rw [HostPath.adapterCmd] at hn
    cases hns : ns with
    | nil => simp [hv, hns] at hn
    | cons n' ns' =>
        have hhead := RowFifo.Holds.head_eq (hns ▸ h.path.rmem.ncff)
        simp only [hv, hns, List.isEmpty_cons, Bool.not_false, if_true, Option.some.injEq] at hn
        rw [← hn, hhead]
        exact h.rows n' (by simp [hns])
  have hadapter := EgressAdapter.left_step hcmd (s.adapterData i) i.adapter_out_tready h.size
  constructor
  case path => exact h.path.step i fun t ht => (hok.mixed t ht).carried
  case mixed =>
    intro t ht
    rcases List.mem_append.mp ht with ht | ht
    · refine h.mixed t ?_
      split_ifs at ht
      · exact List.mem_of_mem_tail ht
      · exact ht
    · exact hok.mixed t ht
  case mmw_data => exact h.mmw_data_step hok
  case remote =>
    intro hw x hx
    obtain ⟨howed, hremote⟩ := h.owed_step hw
    rw [howed] at hx
    rcases List.mem_append.mp hx with hx | hx
    · exact hremote x hx
    · split_ifs at hx with hl
      · obtain ⟨t, r, rfl, ht, -⟩ := h.path.rmem.lpc hl
        have hx' : x ∈ t.flits := by simpa using hx
        rw [HostTxn.mem_flits hx']
        exact ht
      · exact absurd hx (by simp)
  case lock => exact h.lock_step hok
  case rows =>
    intro n hn
    rcases List.mem_append.mp hn with hn | hn
    · refine h.rows n ?_
      split_ifs at hn
      · exact List.mem_of_mem_tail hn
      · exact hn
    · exact hrows n hn
  case size => exact hadapter.2
  case count =>
    have howed : (s.step cfg i).owed = s.stillOwed i ++ s.tlx_data.take (s.asked cfg) := rfl
    have hns : RmemInv.nextNcff s.rmem (s.wires i) ns
        = (if (s.wires i).ncff_cmd_tready && s.rmem.ncff.valid then ns.tail else ns)
          ++ (if s.rmem.ncff_cmd_in_valid then
            (netCmdRow i.thymesis_cfg s.rmem.ncff_cmd_in).toList else []) := rfl
    have hsplit := congrArg (List.countP fun x => x.1.startRemote cfg)
      (s.delivered_append_stillOwed i)
    have hpushed := congrArg List.length (h.split i).2.1
    have hfifo := fifo_step cfg s i
    have hncff := h.ncff_step i
    have hleft : (s.step cfg i).adapter.left + _ = _ := hadapter.1
    have hold := h.count
    rw [List.countP_append] at hsplit
    rw [List.length_map, ← List.countP_eq_length_filter] at hpushed
    rw [howed, hns, List.countP_append, List.countP_append, hcount]
    -- the adapter takes a command with its two flits, or one flit, or nothing
    have htwice : (if s.adapter.takesCmd s.adapterCmd i.adapter_out_tready then
          2 * s.adapterCmd.toList.countP NetCmd.isWrite else 0)
        = 2 * if s.adapter.takesCmd s.adapterCmd i.adapter_out_tready then
          s.adapterCmd.toList.countP NetCmd.isWrite else 0 := by
      split_ifs <;> rfl
    rw [htwice] at hleft
    omega

end SplitInv

/-! ## Every run -/

/-- Every reachable state has its commands and is in the invariant, with the TLX's account of the
data. -/
lemma reach_split (cfg : AcsConfig) (is : List HostPathIn)
    (hok : (hostPath cfg).Meets (SplitOk cfg) is) :
    (∃ ts ns, SplitInv cfg ((hostPath cfg).run is) ts ns) ∧
      (hostPath cfg).collect HostPath.delivered is ++ ((hostPath cfg).run is).owed
        ++ ((hostPath cfg).run is).tlx_data
        = txnFlits ((hostPath cfg).collect HostPath.accepted is) := by
  refine (hostPath cfg).trace_invariant
    (P := fun s (b : List (HostCmd × DataFlit)) (a : List HostTxn) =>
      (∃ ts ns, SplitInv cfg s ts ns) ∧ b ++ s.owed ++ s.tlx_data = txnFlits a)
    ⟨⟨[], [], SplitInv.init cfg⟩, rfl⟩ ?_ is hok
  rintro s b a i ⟨⟨ts, ns, h⟩, hacc⟩ hok
  refine ⟨⟨_, _, h.step hok⟩, ?_⟩
  calc b ++ s.delivered i ++ (s.step cfg i).owed ++ (s.step cfg i).tlx_data
      = b ++ (s.delivered i ++ (s.step cfg i).owed ++ (s.step cfg i).tlx_data) := by simp
    _ = b ++ s.owed ++ s.tlx_data ++ txnFlits (s.accepted i) := by
        rw [tlx_account cfg s i]
        simp
    _ = txnFlits (a ++ s.accepted i) := by rw [hacc, txnFlits_append]

lemma reach_pushed (cfg : AcsConfig) (is : List HostPathIn)
    (hok : (hostPath cfg).Meets (SplitOk cfg) is) :
    (∃ ts ns, SplitInv cfg ((hostPath cfg).run is) ts ns) ∧
    (∀ x ∈ (hostPath cfg).collect HostPath.delivered is,
      x.1.startRemote cfg = true ∨ x.1.startMmioWrite cfg = true) ∧
    (hostPath cfg).collect HostPath.pushed is
      = (((hostPath cfg).collect HostPath.delivered is).filter fun x =>
          x.1.startRemote cfg).map Prod.snd := by
  refine (hostPath cfg).trace_invariant
    (P := fun s (b : List (HostCmd × DataFlit)) (a : List DataFlit) =>
      (∃ ts ns, SplitInv cfg s ts ns) ∧
      (∀ x ∈ b, x.1.startRemote cfg = true ∨ x.1.startMmioWrite cfg = true) ∧
      a = (b.filter fun x => x.1.startRemote cfg).map Prod.snd)
    ⟨⟨[], [], SplitInv.init cfg⟩, by simp, rfl⟩ ?_ is hok
  rintro s b a i ⟨⟨ts, ns, h⟩, hown, ha⟩ hok
  obtain ⟨hown', hp, -⟩ := h.split i
  refine ⟨⟨_, _, h.step hok⟩, fun x hx => ?_, ?_⟩
  · exact (List.mem_append.mp hx).elim (hown x) (hown' x)
  · rw [ha, hp, List.filter_append, List.map_append]

lemma reach_written (cfg : AcsConfig) (is : List HostPathIn)
    (hok : (hostPath cfg).Meets (SplitOk cfg) is) :
    (∃ ts ns, SplitInv cfg ((hostPath cfg).run is) ts ns) ∧
    (hostPath cfg).collect HostPath.written is
      = (((hostPath cfg).collect HostPath.delivered is).filter fun x =>
          x.1.startMmioWrite cfg).map fun x => x.1.mmioWrite x.2 := by
  refine (hostPath cfg).trace_invariant
    (P := fun s (b : List (HostCmd × DataFlit)) (a : List MmioWrite) =>
      (∃ ts ns, SplitInv cfg s ts ns) ∧
      a = (b.filter fun x => x.1.startMmioWrite cfg).map fun x => x.1.mmioWrite x.2)
    ⟨⟨[], [], SplitInv.init cfg⟩, rfl⟩ ?_ is hok
  rintro s b a i ⟨⟨ts, ns, h⟩, ha⟩ hok
  obtain ⟨-, -, hw⟩ := h.split i
  refine ⟨⟨_, _, h.step hok⟩, ?_⟩
  rw [ha, hw, List.filter_append, List.map_append]

/-- **Write data reaches its own consumer** in every run in which no data of a remote write is
outstanding when a MMIO write comes to the head of the command FIFO. -/
theorem data_split (cfg : AcsConfig) (is : List HostPathIn)
    (hok : (hostPath cfg).Meets (SplitOk cfg) is) : DataSplit cfg is := by
  obtain ⟨⟨ts, ns, h⟩, haccount⟩ := reach_split cfg is hok
  obtain ⟨-, hown, hremote⟩ := reach_pushed cfg is hok
  obtain ⟨-, hmmio⟩ := reach_written cfg is hok
  exact ⟨⟨_, haccount⟩, hown, hremote, hmmio, h.fifo_le.trans_lt (by decide)⟩

/-! ## A run of each kind -/

/-- The address space of the runs below: MMIO from 2^40 on. -/
def cfgAt : AcsConfig := ⟨true, 0x10000000000⟩

/-- A 128 byte write to segment 0. -/
def remoteTxn : HostTxn := ⟨⟨0x81, 0b10, 1, 0, 0, 0x80⟩, [0xa1, 0xa2], rfl⟩

/-- A MMIO write. -/
def mmioTxn : HostTxn := ⟨⟨0x86, 0, 2, 3, 0, 0x10000000000⟩, [0xb1], rfl⟩

/-- A cycle with a command, or a delivery, and nothing else in the way. -/
def hostCycle (txn : Option HostTxn) (deliver : Bool) : HostPathIn where
  txn := txn
  deliver := deliver
  fifo_out := true
  adapter_out_tready := true
  thymesis_cfg _ := 0
  tarc_credits_available := 1
  tardc_credits_available := 2
  rff_resp_valid := false
  rff_out_resp_valid := false
  rff_out_rdata_valid := false
  rff_resp_next_valid := false
  mmr_rdata_valid := false

/-- The remote write is sent and its data is delivered; then the MMIO write is sent. -/
def writeThenMmio : List HostPathIn :=
  hostCycle (some remoteTxn) false :: List.replicate 5 (hostCycle none false)
    ++ [hostCycle none true, hostCycle none true, hostCycle (some mmioTxn) false]
    ++ List.replicate 5 (hostCycle none false) ++ [hostCycle none true]

theorem data_split_writeThenMmio : DataSplit cfgAt writeThenMmio ∧
    (hostPath cfgAt).collect HostPath.pushed writeThenMmio = [0xa1, 0xa2] ∧
    (hostPath cfgAt).collect HostPath.written writeThenMmio = [⟨0, 3, 0xb1, false⟩] :=
  ⟨data_split cfgAt writeThenMmio (by decide +kernel), by decide +kernel, by decide +kernel⟩

/-- The two writes are sent one after the other, and the data of the first is delivered three
cycles after it has been asked for. -/
def writeAndMmio : List HostPathIn :=
  hostCycle (some remoteTxn) false :: hostCycle (some mmioTxn) false
    :: List.replicate 3 (hostCycle none false) ++ [hostCycle none true, hostCycle none true]

/-- **The flits of the remote write are lost:** the first is dropped, and the second goes to the
MMIO registers. -/
theorem data_split_fails :
    (∀ t ∈ (hostPath cfgAt).collect HostPath.accepted writeAndMmio, t.cmd.Mixed cfgAt) ∧
    (hostPath cfgAt).collect (fun s _ => [s.asked cfgAt]) writeAndMmio = [0, 0, 2, 0, 0, 1, 0] ∧
    (hostPath cfgAt).collect (fun s i => [(s.delivered i).map Prod.snd]) writeAndMmio
      = [[], [], [], [], [], [0xa1], [0xa2]] ∧
    (hostPath cfgAt).collect HostPath.pushed writeAndMmio = [] ∧
    (hostPath cfgAt).collect HostPath.written writeAndMmio = [⟨0, 3, 0xa2, false⟩] ∧
    ¬ DataSplit cfgAt writeAndMmio := by
  refine ⟨by decide +kernel, by decide +kernel, by decide +kernel, by decide +kernel,
    by decide +kernel, fun h => ?_⟩
  have hlen := congrArg List.length h.remote
  have hno : ((hostPath cfgAt).collect HostPath.pushed writeAndMmio).length
      ≠ ((((hostPath cfgAt).collect HostPath.delivered writeAndMmio).filter fun x =>
        x.1.startRemote cfgAt).map Prod.snd).length := by decide +kernel
  exact hno hlen

end ThymesisFlow
