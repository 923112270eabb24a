import ThymesisFlow.Afu.Monitor
import ThymesisFlow.Lib.Ledger

/-!
# The flit counters

The register at `0x60` counts what goes to the network, the one at `0x68` what comes back, in flits of
64 bytes: each data flit, and every second command or response header, of which two fill a flit.  A
register is cleared when it is read, and a pulse is one cycle on its way to it.

Twice the count plus the divider is the amount that has to balance in every cycle: a data flit adds
two to it, and a command one.  `flits_balanced_iff` says in which cycles it does.
-/

namespace ThymesisFlow

/-! ## What is counted -/

namespace RmemAfu

variable (cfg : RespPortConfig) (s : RmemAfu) (i : RmemAfuIn)

/-- The eight bytes from `base` on are read from the registers. -/
def reads (base : ℕ) : Bool := s.regs.sel base (base + 8) && s.regs.do_read

/-- What is read there. -/
def readValue (base : ℕ) : Option (BitVec 64) :=
  if s.reads base then some (s.regs.final_rdata_d (s.mmioIn cfg i)) else none

/-- A write_mem or rd_mem command is dispatched. -/
def memDispatched : Bool := s.port.rmem.LPC_LOAD_NET = .IDLE && s.memStart cfg

/-- What the response FIFO puts on the response port. -/
def remoteResp : RespDrive := s.port.lpcIo (s.portIn i)

end RmemAfu

/-- The two registers: flits to the network, and flits from it. -/
inductive FlitCounter
  | tx
  | rx
  deriving DecidableEq, Repr

namespace FlitCounter

variable (cfg : RespPortConfig) (s : RmemAfu) (i : RmemAfuIn)

def reg : FlitCounter → MmioReg
  | .tx => .reg_00060
  | .rx => .reg_00068

/-- The pulses that are on their way to the register. -/
def pulses : FlitCounter → RmemAfu → ℕ
  | .tx, s => s.flit_tx_pulse_q.toNat
  | .rx, s => s.flit_rx_pulse_cmd_q.toNat + s.flit_rx_pulse_data_q.toNat

def divider : FlitCounter → RmemAfu → Bool
  | .tx, s => s.cmdflit_counter_divider
  | .rx, s => s.respflit_counter_divider

/-- A data flit goes to the network, or a data beat to the TLX. -/
def flit : FlitCounter → Bool
  | .tx => s.dataPushed i
  | .rx => (s.remoteResp i).rdata_valid

/-- A command goes to the network, or a response header to the TLX. -/
def cmd : FlitCounter → Bool
  | .tx => s.memDispatched cfg
  | .rx => (s.remoteResp i).resp_valid

/-- The condition under which the divider toggles. -/
def toggles : FlitCounter → Bool
  | .tx => s.memStart cfg
  | .rx => s.respReady

variable (c : FlitCounter)

/-- The value that a read returns. -/
def readOut : ℕ := ((s.readValue cfg i c.reg.base).map BitVec.toNat).getD 0

/-- What the reads have returned, what the register holds and the pulses in flight. -/
def counted (is : List RmemAfuIn) : ℕ :=
  (rmemAfu cfg).total (c.readOut cfg) is
    + (((rmemAfu cfg).run is).regs.reg c.reg).toNat + c.pulses ((rmemAfu cfg).run is)

/-- The data flits, and one for every second command. -/
def presented (is : List RmemAfuIn) : ℕ :=
  (rmemAfu cfg).total (fun s i => (c.flit s i).toNat) is
    + (rmemAfu cfg).total (fun s i => (c.cmd cfg s i).toNat) is / 2

/-- A cycle in which a pulse stands for a flit.  The divider toggles for a command only, which it does
not while `LPC_LOAD_NET` waits, nor while a response waits for the pipeline to be unlocked or a data beat is
at the head; the one pulse for a data flit and a command to the network stands for only one of them; the data
beat that comes with a header is counted only with the divider set; and a pulse that arrives while
the register is read is lost. -/
structure Faithful : Prop where
  toggles : c.toggles cfg s = true → c.cmd cfg s i = true
  apart : c = .tx → s.memStart cfg = true → s.cmdflit_counter_divider = true → s.dataPushed i = false
  first : c = .rx → (s.remoteResp i).resp_valid = true → (s.remoteResp i).rdata_valid = true →
    s.respflit_counter_divider = true
  kept : s.reads c.reg.base = true → c.pulses s = 0
  room : (s.regs.reg c.reg).toNat + c.pulses s < 2 ^ 64

instance : Decidable (c.Faithful cfg s i) :=
  decidable_of_iff ((c.toggles cfg s = true → c.cmd cfg s i = true) ∧
    (c = .tx → s.memStart cfg = true → s.cmdflit_counter_divider = true → s.dataPushed i = false) ∧
    (c = .rx → (s.remoteResp i).resp_valid = true → (s.remoteResp i).rdata_valid = true →
      s.respflit_counter_divider = true) ∧
    (s.reads c.reg.base = true → c.pulses s = 0) ∧ (s.regs.reg c.reg).toNat + c.pulses s < 2 ^ 64)
    ⟨fun ⟨h1, h2, h3, h4, h5⟩ => ⟨h1, h2, h3, h4, h5⟩, fun h => ⟨h.1, h.2, h.3, h.4, h.5⟩⟩

/-! ## One cycle of a register -/

variable {cfg s i}

/-- While the reset is latched nothing is read and nothing has been counted. -/
def Started (s : RmemAfu) : Prop :=
  s.regs.reset_q = true → s.regs.do_read = false ∧ ∀ c : FlitCounter,
    s.regs.reg c.reg = 0 ∧ c.pulses s = 0

lemma started_init : Started (rmemAfu cfg).init := fun _ => ⟨rfl, fun c => by cases c <;> exact ⟨rfl, rfl⟩⟩

lemma started_step : Started (s.step cfg i) := fun h => absurd h Bool.false_ne_true

lemma reg_step (h : Started s) :
    (s.step cfg i).regs.reg c.reg
      = if s.reads c.reg.base then 0 else s.regs.reg c.reg + BitVec.ofNat 64 (c.pulses s) := by
  change (if s.regs.reset_q then c.reg.init else s.regs.next (s.mmioIn cfg i) c.reg) = _
  cases hr : s.regs.reset_q with
  | true =>
      obtain ⟨hrd, hc⟩ := h hr
      rw [if_pos rfl, RmemAfu.reads, hrd, Bool.and_false, if_neg Bool.false_ne_true, (hc c).1, (hc c).2]
      cases c <;> rfl
  | false =>
      rw [if_neg Bool.false_ne_true]
      cases c with
      | tx =>
          change (if s.reads 0x60 then 0 else if s.flit_tx_pulse_q then _ else _) = _
          cases hp : s.flit_tx_pulse_q <;> simp [pulses, reg, MmioReg.base, hp]
      | rx =>
          change (if s.reads 0x68 then 0
            else if s.flit_rx_pulse_cmd_q && s.flit_rx_pulse_data_q then _
            else if s.flit_rx_pulse_cmd_q || s.flit_rx_pulse_data_q then _ else _) = _
          cases hc : s.flit_rx_pulse_cmd_q <;> cases hd : s.flit_rx_pulse_data_q <;>
            simp [pulses, reg, MmioReg.base, hc, hd]

lemma readOut_eq : c.readOut cfg s i
    = if s.reads c.reg.base then (s.regs.reg c.reg).toNat else 0 := by
  rw [readOut, RmemAfu.readValue]
  cases hr : s.reads c.reg.base with
  | false => rfl
  | true =>
      obtain ⟨hsel, hrd⟩ := (Bool.and_eq_true _ _).mp hr
      have hall : c.reg ∈ MmioReg.all := by cases c <;> decide
      have hmem : (c.reg.base, c.reg.base + 8, s.regs.reg c.reg) ∈ s.regs.readable (s.mmioIn cfg i) :=
        List.mem_append_left _ (List.mem_map.mpr ⟨c.reg, hall, rfl⟩)
      rw [if_pos rfl, if_pos rfl, s.regs.final_rdata_eq hmem hsel hrd]
      rfl

/-! ## The balance of a cycle -/

/-- Twice the count, and the divider. -/
def held (s : RmemAfu) : ℕ := 2 * ((s.regs.reg c.reg).toNat + c.pulses s) + (c.divider s).toNat

/-- A data flit weighs two, a command one. -/
def weight (cfg : RespPortConfig) (s : RmemAfu) (i : RmemAfuIn) : ℕ :=
  2 * (c.flit s i).toNat + (c.cmd cfg s i).toNat

lemma divider_step : c.divider (s.step cfg i) = (c.divider s ^^ c.toggles cfg s) := by
  cases c <;> rfl

lemma respSent_eq : s.port.respSent (s.portIn i)
    = (s.respReady && s.port.rff.resp_out.resp_valid && !s.port.rmem.pipe_is_locked) := by
  change (_ && s.port.rff.resp_out.resp_valid && _ && _ && _) = (_ && _ && _ && _ && _)
  rw [Bool.and_right_comm _ (!s.port.rmem.pipe_is_locked), Bool.and_right_comm _ s.port.rff.resp_out.resp_valid,
    Bool.and_right_comm _ s.port.rff.resp_out.resp_valid]
  rfl

lemma remoteResp_resp_valid : (s.remoteResp i).resp_valid = s.port.respSent (s.portIn i) := by
  rw [RmemAfu.remoteResp, RespPort.lpcIo]
  cases hs : s.port.respSent (s.portIn i) with
  | true =>
      rw [respSent_eq, Bool.and_eq_true, Bool.and_eq_true] at hs
      exact hs.1.2
  | false =>
      rw [if_neg Bool.false_ne_true]
      split <;> rfl

lemma remoteResp_rdata_valid : (s.remoteResp i).rdata_valid
    = (s.port.respSent (s.portIn i) && s.port.rff.resp_out.rdata_valid || s.port.dataSent) := by
  rw [RmemAfu.remoteResp, RespPort.lpcIo]
  cases hs : s.port.respSent (s.portIn i) with
  | true =>
      have hd : s.port.dataSent = false := by
        rw [respSent_eq, Bool.and_eq_true, Bool.and_eq_true] at hs
        simp [RespPort.dataSent, hs.1.2]
      rw [if_pos rfl, hd]
      cases s.port.rff.resp_out.rdata_valid <;> rfl
  | false =>
      cases hd : s.port.dataSent with
      | true =>
          simp only [RespPort.dataSent, Bool.and_eq_true] at hd
          exact hd.1.2
      | false => rfl

/-- A command makes the divider toggle. -/
lemma toggles_of_cmd (h : c.cmd cfg s i = true) : c.toggles cfg s = true := by
  cases c with
  | tx => exact ((Bool.and_eq_true _ _).mp h).2
  | rx =>
      change (s.remoteResp i).resp_valid = true at h
      rw [remoteResp_resp_valid, respSent_eq, Bool.and_eq_true, Bool.and_eq_true] at h
      exact h.1.1

/-- Where the divider toggles for commands only, the pulses stand for no more than what went by. -/
lemma pulses_step (h : c.toggles cfg s = c.cmd cfg s i) :
    2 * c.pulses (s.step cfg i) + (c.divider (s.step cfg i)).toNat
        ≤ (c.divider s).toNat + c.weight cfg s i ∧
      (2 * c.pulses (s.step cfg i) + (c.divider (s.step cfg i)).toNat
          = (c.divider s).toNat + c.weight cfg s i ↔
        (c = .tx → s.memStart cfg = true → s.cmdflit_counter_divider = true → s.dataPushed i = false) ∧
        (c = .rx → (s.remoteResp i).resp_valid = true → (s.remoteResp i).rdata_valid = true →
          s.respflit_counter_divider = true)) := by
  rw [divider_step, weight, ← h]
  cases c with
  | tx =>
      change 2 * (s.memStart cfg && s.cmdflit_counter_divider || s.dataPushed i).toNat
          + (s.cmdflit_counter_divider ^^ s.memStart cfg).toNat
          ≤ s.cmdflit_counter_divider.toNat
            + (2 * (s.dataPushed i).toNat + (s.memStart cfg).toNat) ∧
        (2 * (s.memStart cfg && s.cmdflit_counter_divider || s.dataPushed i).toNat
          + (s.cmdflit_counter_divider ^^ s.memStart cfg).toNat
          = s.cmdflit_counter_divider.toNat
            + (2 * (s.dataPushed i).toNat + (s.memStart cfg).toNat) ↔ _)
      cases s.memStart cfg <;> cases s.cmdflit_counter_divider <;> cases s.dataPushed i <;> simp
  | rx =>
      change s.respReady = (s.remoteResp i).resp_valid at h
      have hsent : s.respReady = true → s.port.dataSent = false := by
        intro hx
        rw [hx, remoteResp_resp_valid] at h
        have hs := h.symm
        rw [respSent_eq, Bool.and_eq_true, Bool.and_eq_true] at hs
        simp [RespPort.dataSent, hs.1.2]
      change 2 * ((s.respReady && s.respflit_counter_divider).toNat
            + (s.respReady && s.respflit_counter_divider && s.port.rff.resp_out.rdata_valid
              || s.port.dataSent).toNat) + (s.respflit_counter_divider ^^ s.respReady).toNat
          ≤ s.respflit_counter_divider.toNat
            + (2 * (s.remoteResp i).rdata_valid.toNat + s.respReady.toNat) ∧
        (2 * ((s.respReady && s.respflit_counter_divider).toNat
            + (s.respReady && s.respflit_counter_divider && s.port.rff.resp_out.rdata_valid
              || s.port.dataSent).toNat) + (s.respflit_counter_divider ^^ s.respReady).toNat
          = s.respflit_counter_divider.toNat
            + (2 * (s.remoteResp i).rdata_valid.toNat + s.respReady.toNat) ↔ _)
      rw [remoteResp_rdata_valid, ← remoteResp_resp_valid, ← h]
      revert hsent
      cases s.respReady <;> cases s.respflit_counter_divider <;>
        cases s.port.rff.resp_out.rdata_valid <;> cases s.port.dataSent <;> simp

/-- What a cycle adds to the register and to what has been read: the pulses, unless a read or an overflow
loses them. -/
lemma register_step (cfg : RespPortConfig) (i : RmemAfuIn) (h : Started s) :
    ((s.step cfg i).regs.reg c.reg).toNat + c.readOut cfg s i
        ≤ (s.regs.reg c.reg).toNat + c.pulses s ∧
      (((s.step cfg i).regs.reg c.reg).toNat + c.readOut cfg s i
          = (s.regs.reg c.reg).toNat + c.pulses s ↔
        (s.reads c.reg.base = true → c.pulses s = 0) ∧
        (s.regs.reg c.reg).toNat + c.pulses s < 2 ^ 64) := by
  have hlt := (s.regs.reg c.reg).isLt
  rw [reg_step c h, readOut_eq]
  cases s.reads c.reg.base with
  | true =>
      rw [if_pos rfl, if_pos rfl]
      change 0 + _ ≤ _ ∧ (0 + _ = _ ↔ _)
      constructor
      · omega
      · constructor
        · intro heq
          exact ⟨fun _ => by omega, by omega⟩
        · rintro ⟨hkept, -⟩
          have := hkept rfl
          omega
  | false =>
      rw [if_neg Bool.false_ne_true, if_neg Bool.false_ne_true, BitVec.toNat_add, BitVec.toNat_ofNat,
        Nat.add_mod_mod]
      have hle := Nat.mod_le ((s.regs.reg c.reg).toNat + c.pulses s) (2 ^ 64)
      refine ⟨hle, fun heq => ⟨fun h => absurd h Bool.false_ne_true, ?_⟩, fun h => ?_⟩
      · rw [Nat.add_zero] at heq
        exact heq ▸ Nat.mod_lt _ (by decide)
      · exact Nat.mod_eq_of_lt h.2

/-- **One cycle of a counter.**  It balances exactly in the cycles in which each pulse stands for a flit. -/
theorem balanced_iff (h : Started s) :
    (rmemAfu cfg).Balanced c.held (c.weight cfg) (fun s i => 2 * c.readOut cfg s i) s i
      ↔ c.Faithful cfg s i := by
  obtain ⟨hrle, hreq⟩ := c.register_step cfg i h
  change 2 * (((s.step cfg i).regs.reg c.reg).toNat + c.pulses (s.step cfg i))
      + (c.divider (s.step cfg i)).toNat + 2 * c.readOut cfg s i
    = 2 * ((s.regs.reg c.reg).toNat + c.pulses s) + (c.divider s).toNat + c.weight cfg s i ↔ _
  by_cases ht : c.toggles cfg s = c.cmd cfg s i
  · obtain ⟨hple, hpeq⟩ := c.pulses_step ht
    constructor
    · intro hbal
      obtain ⟨hapart, hfirst⟩ := hpeq.mp (by omega)
      obtain ⟨hkept, hroom⟩ := hreq.mp (by omega)
      exact ⟨fun h => ht ▸ h, hapart, hfirst, hkept, hroom⟩
    · rintro ⟨-, hapart, hfirst, hkept, hroom⟩
      have hp := hpeq.mpr ⟨hapart, hfirst⟩
      have hr := hreq.mpr ⟨hkept, hroom⟩
      omega
  · -- the divider toggles without a command, and the two sides differ in parity
    refine iff_of_false (fun hbal => ?_) fun hf => ht (Bool.eq_iff_iff.mpr ⟨hf.toggles, c.toggles_of_cmd⟩)
    rw [divider_step, weight] at hbal
    revert ht hbal
    cases c.divider s <;> cases c.toggles cfg s <;> cases c.cmd cfg s i <;>
      simp only [Bool.xor_false, Bool.xor_true, Bool.not_false, Bool.not_true, Bool.toNat_false,
        Bool.toNat_true, not_true_eq_false, false_implies, reduceCtorEq, not_false_eq_true,
        forall_const] <;> omega

/-! ## Runs -/

lemma total_weight (is : List RmemAfuIn) : (rmemAfu cfg).total (c.weight cfg) is
    = 2 * (rmemAfu cfg).total (fun s i => (c.flit s i).toNat) is
      + (rmemAfu cfg).total (fun s i => (c.cmd cfg s i).toNat) is := by
  rw [← Machine.total_mul, ← Machine.total_add]
  rfl

/-- Where the cycles of a run balance. -/
theorem flits_balanced_iff (cfg : RespPortConfig) (c : FlitCounter) (is : List RmemAfuIn) :
    (∀ js, js <+: is →
        (rmemAfu cfg).Accounted c.held (c.weight cfg) (fun s i => 2 * c.readOut cfg s i) js)
      ↔ (rmemAfu cfg).Meets (c.Faithful cfg) is := by
  rw [Machine.accounted_iff]
  constructor
  · exact (rmemAfu cfg).meets_of_invariant started_init (fun _ _ _ _ => started_step)
      (fun _ _ hs hi => (c.balanced_iff hs).mp hi) is
  · exact (rmemAfu cfg).meets_of_invariant started_init (fun _ _ _ _ => started_step)
      (fun _ _ hs hi => (c.balanced_iff hs).mpr hi) is

end FlitCounter

/-- **Flits are counted.**  In a run whose cycles are all such that each pulse stands for a flit, the values
read so far, the register and the pulses in flight add up to the data flits and every second command. -/
theorem flits_counted (cfg : RespPortConfig) (c : FlitCounter) {is : List RmemAfuIn}
    (hok : (rmemAfu cfg).Meets (c.Faithful cfg) is) : c.counted cfg is = c.presented cfg is := by
  have hacc := (FlitCounter.flits_balanced_iff cfg c is).mpr hok is (List.prefix_refl is)
  have hinit : c.held (rmemAfu cfg).init = 0 := by cases c <;> rfl
  have hlt := Bool.toNat_lt (c.divider ((rmemAfu cfg).run is))
  rw [Machine.Accounted, Machine.total_mul, c.total_weight, hinit, FlitCounter.held] at hacc
  rw [FlitCounter.counted, FlitCounter.presented]
  omega

/-- Room for one remote response and its two data beats. -/
def monitorConfig : RespPortConfig where
  acs := ⟨true, 0⟩
  tlx_afu_resp_initial_credit := 4
  tlx_afu_resp_data_initial_credit := 8

/-- The response to a write comes back, and then that to a read with its data. -/
def responsesDemo : List RmemAfuIn :=
  let written : RffEntry := ⟨true, false, 0x04, 0, 0b10, 0, 1, false, 0⟩
  let header : RffEntry := ⟨true, true, 0x01, 0, 0b10, 0, 2, false, 1⟩
  let data : RffEntry := ⟨false, true, 0, 0, 0, 0, 0, false, 2⟩
  [{ rff_resp_in := some written }, { rff_resp_in := some header }, { rff_resp_in := some data }, {}, {}, {},
    {}]

/-- Three partial writes with their data, and between them a read of `0x60`. -/
def partialWritesDemo : List RmemAfuIn :=
  let quiet : RmemAfuIn := {}
  let prWrMem : RmemAfuIn := { tlx_afu_cmd := some ⟨0x86, 0, 7, 3, 0, 1 <<< 32⟩ }
  let data (d : DataFlit) : RmemAfuIn := { tlx_afu_cmd_data := some d }
  [prWrMem, quiet, quiet, data 1, prWrMem, quiet, quiet, data 2,
    { tlx_afu_cmd := some ⟨0x28, 0, 5, 3, 0, 0x60⟩ }] ++ List.replicate 7 quiet
    ++ [prWrMem] ++ List.replicate 5 quiet ++ [data 3, quiet, quiet]

/-- The data to the network is counted, the first two flits in the value that is read, and so are the data
from the network and every second response. -/
theorem flits_counted_bothWays :
    (FlitCounter.tx.presented monitorConfig partialWritesDemo = 3 ∧
      (rmemAfu monitorConfig).total (FlitCounter.tx.readOut monitorConfig) partialWritesDemo = 2 ∧
      FlitCounter.tx.counted monitorConfig partialWritesDemo
        = FlitCounter.tx.presented monitorConfig partialWritesDemo) ∧
    FlitCounter.rx.presented monitorConfig responsesDemo = 3 ∧
      FlitCounter.rx.counted monitorConfig responsesDemo
        = FlitCounter.rx.presented monitorConfig responsesDemo :=
  ⟨⟨by decide +kernel, by decide +kernel, flits_counted monitorConfig .tx (by decide +kernel)⟩,
    by decide +kernel, flits_counted monitorConfig .rx (by decide +kernel)⟩

/-- One rd_mem command. -/
def rdMemDemo : List RmemAfuIn := [{ tlx_afu_cmd := some ⟨0x20, 0b10, 7, 0, 0, 1 <<< 32⟩ }, {}, {}, {}, {}]

/-- A single rd_mem command is counted, since it is still at the head of the command FIFO in the cycle after
its dispatch and moves the divider twice. -/
theorem command_counted_twice : ¬ ∀ (cfg : RespPortConfig) (c : FlitCounter) (is : List RmemAfuIn),
    c.counted cfg is = c.presented cfg is := by
  intro h
  have hcount : FlitCounter.tx.counted monitorConfig rdMemDemo = 1 := by decide +kernel
  have hpresent : FlitCounter.tx.presented monitorConfig rdMemDemo = 0 := by decide +kernel
  exact absurd (hcount.symm.trans ((h monitorConfig .tx rdMemDemo).trans hpresent)) (by decide)

end ThymesisFlow
