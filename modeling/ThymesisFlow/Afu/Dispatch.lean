import ThymesisFlow.Afu.Rmem

/-!
# Who is busy with the head of the command FIFO

The two MMIO state machines and `LPC_LOAD_NET` take the commands from one FIFO.  `Dispatch` says that
a state machine that is busy is busy with the head, so at most one of them is.
-/

namespace ThymesisFlow

/-- `cs` are the commands in the command FIFO; a state machine that is busy is busy with their head. -/
structure Dispatch (cfg : AcsConfig) (s : Rmem) (cs : List HostCmd) : Prop where
  cff : s.cff.Holds cs
  complete_mmw : s.cmd_complete_mmw = decide (s.SM_MMW = .WAIT_FOR_NEXT_CMD)
  complete_mmr : s.cmd_complete_mmr = decide (s.SM_MMR = .WAIT_FOR_NEXT_CMD)
  complete_ldnf : s.cmd_complete_ldnf = decide (s.LPC_LOAD_NET = .WAIT_1CYCLE)
  mmw : s.SM_MMW ≠ .IDLE → ∃ c r, cs = c :: r ∧ c.startMmioWrite cfg = true
  mmr : s.SM_MMR ≠ .IDLE → ∃ c r, cs = c :: r ∧ c.startMmioRead cfg = true
  lpc : s.LPC_LOAD_NET = .WAIT_1CYCLE → ∃ c r, cs = c :: r ∧ c.startRemote cfg = true
  lock_w : s.SM_MMW ≠ .IDLE → s.pipeline_lock_w = true
  lock_r : s.SM_MMR ≠ .IDLE → s.pipeline_lock_r = true

namespace Dispatch

variable {cfg : AcsConfig} {s : Rmem} {cs : List HostCmd}

lemma init (cfg : AcsConfig) : Dispatch cfg {} [] where
  cff := RowFifo.holds_nil rfl rfl
  complete_mmw := rfl
  complete_mmr := rfl
  complete_ldnf := rfl
  mmw h := absurd rfl h
  mmr h := absurd rfl h
  lpc h := nomatch h
  lock_w h := absurd rfl h
  lock_r h := absurd rfl h

/-- A state machine is about to start on the head of the queue. -/
lemma start_head (h : Dispatch cfg s cs) {p : HostCmd → Bool} (hs : s.start p = true) :
    ∃ c r, cs = c :: r ∧ p c = true := by
  rw [Rmem.start, Rmem.cff_cmd, h.cff.valid_eq] at hs
  cases cs with
  | nil => exact absurd hs Bool.false_ne_true
  | cons c r => exact ⟨c, r, rfl, by simpa [RowFifo.Holds.head_eq h.cff] using hs⟩

/-- The head is no MMIO write and a MMIO read at once. -/
lemma write_ne_read {c : HostCmd} (hw : c.startMmioWrite cfg = true) : c.startMmioRead cfg = false := by
  refine eq_false_of_ne_true fun hr => ?_
  have heq := (HostCmd.startMmioWrite_opcode hw).1.symm.trans (HostCmd.startMmioRead_opcode hr).1
  exact absurd heq (by decide)

/-- A MMIO write at the head keeps the other two idle. -/
lemma idle_of_write (h : Dispatch cfg s cs) {c : HostCmd} {r : List HostCmd} (hcs : cs = c :: r)
    (hw : c.startMmioWrite cfg = true) : s.SM_MMR = .IDLE ∧ s.LPC_LOAD_NET = .IDLE := by
  constructor
  · by_contra hr
    obtain ⟨c', r', heq, hc'⟩ := h.mmr hr
    obtain ⟨rfl, -⟩ := List.cons.inj (hcs.symm.trans heq)
    exact absurd ((write_ne_read hw).symm.trans hc') Bool.false_ne_true
  · cases hl : s.LPC_LOAD_NET with
    | IDLE => rfl
    | WAIT_1CYCLE =>
        obtain ⟨c', r', heq, hc'⟩ := h.lpc hl
        obtain ⟨rfl, -⟩ := List.cons.inj (hcs.symm.trans heq)
        exact absurd ((HostCmd.startMmio_of_remote hc').1.symm.trans hw) Bool.false_ne_true

/-- A MMIO read at the head keeps the other two idle. -/
lemma idle_of_read (h : Dispatch cfg s cs) {c : HostCmd} {r : List HostCmd} (hcs : cs = c :: r)
    (hr : c.startMmioRead cfg = true) : s.SM_MMW = .IDLE ∧ s.LPC_LOAD_NET = .IDLE := by
  constructor
  · by_contra hw
    obtain ⟨c', r', heq, hc'⟩ := h.mmw hw
    obtain ⟨rfl, -⟩ := List.cons.inj (hcs.symm.trans heq)
    exact absurd ((write_ne_read hc').symm.trans hr) Bool.false_ne_true
  · cases hl : s.LPC_LOAD_NET with
    | IDLE => rfl
    | WAIT_1CYCLE =>
        obtain ⟨c', r', heq, hc'⟩ := h.lpc hl
        obtain ⟨rfl, -⟩ := List.cons.inj (hcs.symm.trans heq)
        exact absurd ((HostCmd.startMmio_of_remote hc').2.symm.trans hr) Bool.false_ne_true

/-- A remote command at the head keeps the MMIO state machines idle. -/
lemma idle_of_remote (h : Dispatch cfg s cs) {c : HostCmd} {r : List HostCmd} (hcs : cs = c :: r)
    (hc : c.startRemote cfg = true) : s.SM_MMW = .IDLE ∧ s.SM_MMR = .IDLE := by
  obtain ⟨hnw, hnr⟩ := HostCmd.startMmio_of_remote hc
  constructor
  · by_contra hw
    obtain ⟨c', r', heq, hc'⟩ := h.mmw hw
    obtain ⟨rfl, -⟩ := List.cons.inj (hcs.symm.trans heq)
    exact absurd (hnw.symm.trans hc') Bool.false_ne_true
  · by_contra hr
    obtain ⟨c', r', heq, hc'⟩ := h.mmr hr
    obtain ⟨rfl, -⟩ := List.cons.inj (hcs.symm.trans heq)
    exact absurd (hnr.symm.trans hc') Bool.false_ne_true

/-- At most one of the MMIO state machines is busy. -/
lemma one_busy (h : Dispatch cfg s cs) (hw : s.SM_MMW ≠ .IDLE) : s.SM_MMR = .IDLE := by
  obtain ⟨c, r, hcs, hc⟩ := h.mmw hw
  exact (h.idle_of_write hcs hc).1

lemma cmd_dispatched_eq (h : Dispatch cfg s cs) :
    s.cmd_dispatched = (decide (s.SM_MMW = .WAIT_FOR_NEXT_CMD)
      || decide (s.SM_MMR = .WAIT_FOR_NEXT_CMD) || decide (s.LPC_LOAD_NET = .WAIT_1CYCLE)) := by
  rw [Rmem.cmd_dispatched, h.complete_mmw, h.complete_mmr, h.complete_ldnf]

/-- A command leaves the command FIFO only when it is there. -/
lemma dispatched_ne_nil (h : Dispatch cfg s cs) (hd : s.cmd_dispatched = true) : cs ≠ [] := by
  rw [h.cmd_dispatched_eq] at hd
  simp only [Bool.or_eq_true, decide_eq_true_eq] at hd
  rcases hd with (hd | hd) | hd
  · obtain ⟨c, r, rfl, -⟩ := h.mmw (by rw [hd]; decide)
    exact List.cons_ne_nil _ _
  · obtain ⟨c, r, rfl, -⟩ := h.mmr (by rw [hd]; decide)
    exact List.cons_ne_nil _ _
  · obtain ⟨c, r, rfl, -⟩ := h.lpc hd
    exact List.cons_ne_nil _ _

/-- The commands after a cycle. -/
def nextCmds (s : Rmem) (i : RmemIn) (cs : List HostCmd) : List HostCmd :=
  (if s.cmd_dispatched then cs.tail else cs) ++ i.tlx_afu_cmd.toList

lemma nextCmds_keep (i : RmemIn) (hd : s.cmd_dispatched = false) : nextCmds s i cs
    = cs ++ i.tlx_afu_cmd.toList := by
  rw [nextCmds, hd, if_neg Bool.false_ne_true]

/-- **One cycle of the dispatch.** -/
theorem step (h : Dispatch cfg s cs) (i : RmemIn) (hfull : i.tlx_afu_cmd.isSome = true → cs.length < 8) :
    Dispatch cfg (s.step cfg i) (nextCmds s i cs) := by
  have hdisp := h.cmd_dispatched_eq
  constructor
  case cff =>
    have hq := h.cff.step i.tlx_afu_cmd.isSome s.cmd_dispatched i.tlx_afu_cmd
      (i.tlx_afu_cmd.getD .zero) (fun hx => by
        obtain ⟨c, hc⟩ := Option.isSome_iff_exists.mp hx
        rw [hc]
        rfl) hfull h.dispatched_ne_nil
    have hin : (if i.tlx_afu_cmd.isSome = true then [i.tlx_afu_cmd.getD .zero] else [])
        = i.tlx_afu_cmd.toList := by
      cases i.tlx_afu_cmd <;> rfl
    rw [hin] at hq
    exact hq
  case complete_mmw =>
    rw [Bool.eq_iff_iff, decide_eq_true_iff]
    simpa [Rmem.step] using Rmem.nextMmw_eq_next.symm
  case complete_mmr =>
    rw [Bool.eq_iff_iff, decide_eq_true_iff]
    simpa [Rmem.step] using Rmem.nextMmr_eq_next.symm
  case complete_ldnf =>
    have hold := h.complete_ldnf
    by_cases hd : s.dispatch cfg = true
    · simp [Rmem.step, Rmem.nextNcffIn, Rmem.dispatch_idle hd, hd]
    · cases hl : s.LPC_LOAD_NET <;> simp_all [Rmem.step, Rmem.nextNcffIn]
  case mmw =>
    intro hw
    rcases Rmem.nextMmw_ne_idle hw with ⟨hm, hs, -⟩ | ⟨hm, hn⟩
    · obtain ⟨c, r, hcs, hc⟩ := h.start_head hs
      obtain ⟨hr, hl⟩ := h.idle_of_write hcs hc
      rw [nextCmds_keep i (by rw [hdisp, hm, hr, hl]; rfl), hcs]
      exact ⟨c, _, rfl, hc⟩
    · obtain ⟨c, r, hcs, hc⟩ := h.mmw hm
      obtain ⟨hr, hl⟩ := h.idle_of_write hcs hc
      rw [nextCmds_keep i (by rw [hdisp, hr, hl, decide_eq_false hn]; rfl), hcs]
      exact ⟨c, _, rfl, hc⟩
  case mmr =>
    intro hr
    rcases Rmem.nextMmr_ne_idle hr with ⟨hm, hs⟩ | ⟨hm, hn⟩
    · obtain ⟨c, r, hcs, hc⟩ := h.start_head hs
      obtain ⟨hw, hl⟩ := h.idle_of_read hcs hc
      rw [nextCmds_keep i (by rw [hdisp, hm, hw, hl]; rfl), hcs]
      exact ⟨c, _, rfl, hc⟩
    · obtain ⟨c, r, hcs, hc⟩ := h.mmr hm
      obtain ⟨hw, hl⟩ := h.idle_of_read hcs hc
      rw [nextCmds_keep i (by rw [hdisp, hw, hl, decide_eq_false hn]; rfl), hcs]
      exact ⟨c, _, rfl, hc⟩
  case lpc =>
    intro hl'
    have hd : s.dispatch cfg = true := by
      cases hd : s.dispatch cfg <;> simp_all [Rmem.step]
    have hs : s.start (HostCmd.startRemote cfg) = true := by
      simp only [Rmem.dispatch, Bool.and_eq_true] at hd
      exact hd.1.2
    obtain ⟨c, r, hcs, hc⟩ := h.start_head hs
    obtain ⟨hw, hr⟩ := h.idle_of_remote hcs hc
    rw [nextCmds_keep i (by rw [hdisp, hw, hr, Rmem.dispatch_idle hd]; rfl), hcs]
    exact ⟨c, _, rfl, hc⟩
  case lock_w =>
    intro hw
    refine Rmem.nextLockW_eq.mpr ?_
    rcases Rmem.nextMmw_ne_idle hw with ⟨hm, hs, -⟩ | ⟨hm, -⟩
    · exact .inr ⟨hm, hs⟩
    · exact .inl hm
  case lock_r =>
    intro hr
    change s.nextLockR cfg = true
    rw [Rmem.nextLockR]
    rcases Rmem.nextMmr_ne_idle hr with ⟨hm, hs⟩ | ⟨hm, -⟩
    · rw [hm]
      exact hs
    · cases hsm : s.SM_MMR with
      | IDLE => exact absurd hsm hm
      | _ => rfl

end Dispatch

end ThymesisFlow
