import ThymesisFlow.Memory.RespPath

/-!
# The credits of `mem_respfifo`

The FIFO has eight rows and gives the TLX eight credits, the first ones by itself and then one for
each entry that leaves.  The counter of the first ones is held in a cycle in which an entry leaves,
but the guard of the hold does not look at `network_ready`: if the network is not ready, a credit is
sent and none is taken off the counter (`extraCredit`).  An entry that leaves while the TLX is not
ready gives no credit back (`lostCredit`).  `total_step` says that nothing else changes the sum.
-/

namespace ThymesisFlow

/-- The FIFO, and the credits that the TLX has received and not used. -/
structure Mrff where
  fifo : MemRespFifo := {}
  tlx_credits : ℕ := 0

namespace Mrff

variable (s : Mrff) (i : MemRespFifoIn)

def step : Mrff where
  fifo := s.fifo.step i
  tlx_credits := if i.resync_credits then 0
    else s.tlx_credits + s.fifo.cmd_credit_to_TLX_q.toNat - i.cmd_in.isSome.toNat

/-- The number of valid rows. -/
def occupancy : ℕ := (List.finRange 8).countP fun k => s.fifo.cmdfifo.val.getLsbD k

/-- The credits issued, the one that is being sent included, minus the responses received, plus the
occupancy. -/
def issued : ℕ := s.tlx_credits + s.fifo.cmd_credit_to_TLX_q.toNat + s.occupancy

/-- The same with the initial credits that are still to be sent. -/
def total : ℕ := s.issued + s.fifo.initial_credits.toNat

/-- The TLX sends a response against a credit; the credits are resynchronised when the FIFO is
empty. -/
structure Ok : Prop where
  credit : i.cmd_in.isSome = true → 0 < s.tlx_credits + s.fifo.cmd_credit_to_TLX_q.toNat
  resync : i.resync_credits = true → i.cmd_in = none ∧ s.fifo.cmdfifo.val = 0

/-- No valid row is overwritten. -/
def RowFree : Prop :=
  i.cmd_in.isSome = true → s.fifo.cmdfifo.val.getLsbD s.fifo.cmdfifo.wrptr.toNat = false

/-- An initial credit is sent and the counter is held. -/
def extraCredit : Bool :=
  i.tlx_is_ready && s.fifo.initialDue && (i.cmd_tready && s.fifo.cmdfifo.valid) && !i.network_ready

/-- An entry leaves and no credit is sent. -/
def lostCredit : Bool := !i.tlx_is_ready && s.fifo.pops i

instance : Decidable (s.Ok i) :=
  decidable_of_iff ((i.cmd_in.isSome = true → 0 < s.tlx_credits + s.fifo.cmd_credit_to_TLX_q.toNat) ∧
    (i.resync_credits = true → i.cmd_in = none ∧ s.fifo.cmdfifo.val = 0))
    ⟨fun h => ⟨h.1, h.2⟩, fun h => ⟨h.credit, h.resync⟩⟩

instance : Decidable (s.RowFree i) := inferInstanceAs (Decidable (_ → _))

end Mrff

def mrff : Machine Mrff MemRespFifoIn := ⟨{}, Mrff.step⟩

namespace Mrff

variable {s : Mrff} {i : MemRespFifoIn} {xs : List TlResp}

/-! ## One cycle -/

lemma countP_mask : ∀ r : BitVec 3, ∀ n < 9,
    (List.finRange 8).countP (fun k => (RowFifo.mask r n).getLsbD k) = n := by decide

lemma mask_next : ∀ r : BitVec 3, ∀ n < 8,
    (RowFifo.mask r n).getLsbD (r + BitVec.ofNat 3 n).toNat = false := by decide

lemma occupancy_eq (h : s.fifo.cmdfifo.Holds xs) : s.occupancy = xs.length := by
  rw [occupancy, h.val_eq]
  exact countP_mask _ _ (Nat.lt_succ_of_le h.length_le)

/-- As long as the sum is right, a response finds a free row. -/
lemma room (h : s.fifo.cmdfifo.Holds xs) (hok : s.Ok i) (htotal : s.total ≤ 8)
    (hin : i.cmd_in.isSome = true) : xs.length < 8 := by
  have hpos := hok.credit hin
  rw [total, issued, occupancy_eq h] at htotal
  omega

lemma rowFree (h : s.fifo.cmdfifo.Holds xs) (hok : s.Ok i) (htotal : s.total ≤ 8) : s.RowFree i := by
  intro hin
  rw [h.val_eq, h.wrptr_eq]
  exact mask_next _ _ (room h hok htotal hin)

lemma holds_step (h : s.fifo.cmdfifo.Holds xs) (hok : s.Ok i) (htotal : s.total ≤ 8) :
    (s.step i).fifo.cmdfifo.Holds (s.fifo.entriesAfter i xs) :=
  MemRespFifo.holds_entriesAfter h (room h hok htotal)

/-- The counter and the pulse: what goes out without an entry comes off the counter, except for an
extra credit. -/
lemma pulse_step (hr : i.resync_credits = false) :
    (s.fifo.step i).cmd_credit_to_TLX_q.toNat + (s.fifo.step i).initial_credits.toNat
      + (s.lostCredit i).toNat
      = s.fifo.initial_credits.toNat + (s.fifo.pops i).toNat + (s.extraCredit i).toNat := by
  have hsub : 0#4 < s.fifo.initial_credits →
      1 + (s.fifo.initial_credits.toNat + 15) % 16 = s.fifo.initial_credits.toNat := by
    intro h
    bv_omega
  simp only [MemRespFifo.step, MemRespFifo.nextInitialCredits, lostCredit, extraCredit,
    MemRespFifo.pops, MemRespFifo.initialDue, hr, Bool.not_false, Bool.true_and, Bool.false_eq_true,
    if_false]
  cases i.tlx_is_ready with
  | false => simp
  | true =>
      obtain hk | hk := Bool.eq_false_or_eq_true s.fifo.ok_to_send_credits <;>
        obtain hv | hv := Bool.eq_false_or_eq_true s.fifo.cmdfifo.valid <;>
        by_cases hpos : 0#4 < s.fifo.initial_credits <;>
        cases i.cmd_tready <;> cases i.network_ready <;> simp [hk, hv, hpos, hsub, Nat.add_comm]

/-- **One cycle changes the sum by an extra and by a lost credit only.** -/
lemma total_step (h : s.fifo.cmdfifo.Holds xs) (hok : s.Ok i) (htotal : s.total ≤ 8)
    (hr : i.resync_credits = false) :
    (s.step i).total + (s.lostCredit i).toNat = s.total + (s.extraCredit i).toNat := by
  have hlen := MemRespFifo.length_entriesAfter h i
  have hpulse := pulse_step (s := s) hr
  have hcredit : i.cmd_in.isSome.toNat ≤ s.tlx_credits + s.fifo.cmd_credit_to_TLX_q.toNat := by
    cases hin : i.cmd_in.isSome with
    | false => exact Nat.zero_le _
    | true => exact hok.credit hin
  have htlx : (s.step i).tlx_credits
      = s.tlx_credits + s.fifo.cmd_credit_to_TLX_q.toNat - i.cmd_in.isSome.toNat := by
    rw [step, hr]
    rfl
  rw [total, total, issued, issued, occupancy_eq h, occupancy_eq (holds_step h hok htotal), htlx]
  change _ + (s.fifo.step i).cmd_credit_to_TLX_q.toNat + _ + (s.fifo.step i).initial_credits.toNat
    + _ = _
  omega

/-- A resynchronisation starts again. -/
lemma total_resync (h : s.fifo.cmdfifo.Holds xs) (hok : s.Ok i) (htotal : s.total ≤ 8)
    (hr : i.resync_credits = true) :
    (s.step i).total = 8 ∧ s.extraCredit i = false ∧ s.lostCredit i = false := by
  obtain ⟨hin, hval⟩ := hok.resync hr
  have hvalid : s.fifo.cmdfifo.valid = false := by
    rw [RowFifo.valid, hval]
    simp
  have hnil : xs = [] := by
    rw [h.valid_eq] at hvalid
    simpa using hvalid
  subst hnil
  have hafter := occupancy_eq (holds_step h hok htotal)
  have hpops : s.fifo.pops i = false := by simp [MemRespFifo.pops, hvalid]
  rw [MemRespFifo.entriesAfter, hpops, hin] at hafter
  refine ⟨?_, by simp [extraCredit, hvalid], by simp [lostCredit, hpops]⟩
  rw [total, issued, hafter]
  simp [step, MemRespFifo.step, MemRespFifo.nextInitialCredits, hr]

/-! ## Every run -/

/-- The rows are in order and the sum is not too large. -/
def Safe (s : Mrff) : Prop := (∃ xs, s.fifo.cmdfifo.Holds xs) ∧ s.total ≤ 8

lemma safe_init : Safe {} := ⟨⟨[], RowFifo.holds_nil rfl rfl⟩, by decide⟩

lemma Safe.step (h : s.Safe) (hok : s.Ok i) (hextra : s.extraCredit i = false) : (s.step i).Safe := by
  obtain ⟨⟨xs, hxs⟩, htotal⟩ := h
  refine ⟨⟨_, holds_step hxs hok htotal⟩, ?_⟩
  cases hr : i.resync_credits with
  | true => exact (total_resync hxs hok htotal hr).1.le
  | false =>
      have hstep := total_step hxs hok htotal hr
      rw [hextra, Bool.toNat_false] at hstep
      omega

/-- The sum stays exact in the cycles without an extra and without a lost credit, and only then. -/
lemma exact_step (h : s.Safe) (hok : s.Ok i) (hexact : s.total = 8) :
    (s.step i).total = 8 ↔ s.extraCredit i = false ∧ s.lostCredit i = false := by
  obtain ⟨⟨xs, hxs⟩, htotal⟩ := h
  cases hr : i.resync_credits with
  | true =>
      obtain ⟨htotal', hextra, hlost⟩ := total_resync hxs hok htotal hr
      exact ⟨fun _ => ⟨hextra, hlost⟩, fun _ => htotal'⟩
  | false =>
      have hstep := total_step hxs hok htotal hr
      have hone : s.extraCredit i = false ∨ s.lostCredit i = false := by
        rw [extraCredit, lostCredit]
        cases i.tlx_is_ready <;> simp
      rw [hexact] at hstep
      cases he : s.extraCredit i <;> cases hl : s.lostCredit i <;>
        simp only [he, hl, Bool.toNat_false, Bool.toNat_true, Bool.true_eq_false, or_self, and_self,
          and_true, true_and, iff_true, iff_false] at hstep hone ⊢ <;> omega

lemma run_safe {is : List MemRespFifoIn}
    (hok : mrff.Meets (fun s i => s.Ok i ∧ s.extraCredit i = false) is) : (mrff.run is).Safe :=
  mrff.invariant safe_init (fun _ _ h hok => h.step hok.1 hok.2) is hok

lemma run_rowFree {is : List MemRespFifoIn}
    (hok : mrff.Meets (fun s i => s.Ok i ∧ s.extraCredit i = false) is) : mrff.Meets RowFree is := by
  refine mrff.meets_of_invariant safe_init (fun _ _ h hok => h.step hok.1 hok.2) ?_ is hok
  rintro s i ⟨⟨xs, hxs⟩, htotal⟩ hok
  exact rowFree hxs hok.1 htotal

/-- The sum is exact after every part of a run, or an extra or a lost credit is the first cause. -/
lemma exact_iff {is : List MemRespFifoIn} (hok : mrff.Meets Ok is) :
    (∀ js, js <+: is → (mrff.run js).total = 8)
      ↔ mrff.Meets (fun s i => s.extraCredit i = false ∧ s.lostCredit i = false) is := by
  refine mrff.forall_prefix_iff (by decide) (fun is i hpre hlast hmeets htotal => ?_) is hok
  have hextra := mrff.meets_mono (fun _ _ h => h.1) hmeets
  rw [mrff.run_concat]
  exact exact_step (run_safe (mrff.meets_and hpre hextra)) hlast htotal

/-- **Credits are conserved.**  Without an extra credit the TLX never has more credits than there are
free rows, and no valid row is overwritten.  The sum is exactly 8 after every part of a run if and
only if there is neither an extra nor a lost credit in it. -/
theorem row_credits_conserved (is : List MemRespFifoIn) (hok : mrff.Meets Ok is) :
    (mrff.Meets (fun s i => s.extraCredit i = false) is →
      (∀ js, js <+: is → (mrff.run js).issued ≤ 8) ∧ mrff.Meets RowFree is) ∧
    ((∀ js, js <+: is → (mrff.run js).total = 8)
      ↔ mrff.Meets (fun s i => s.extraCredit i = false ∧ s.lostCredit i = false) is) := by
  refine ⟨fun hextra => ?_, exact_iff hok⟩
  have hboth := mrff.meets_and hok hextra
  refine ⟨fun js hjs => ?_, run_rowFree hboth⟩
  have htotal := (run_safe (mrff.meets_prefix hjs hboth)).2
  rw [total] at htotal
  omega

/-- Eight cycles in which the credits are held off, and two in which the first ones are sent. -/
def holdOff : List MemRespFifoIn := List.replicate 10 ⟨false, true, true, none, false⟩

/-- The first response arrives while initial credits are left, and leaves. -/
def earlyResponse : List MemRespFifoIn :=
  holdOff ++ [⟨false, true, true, some 5, false⟩, ⟨false, true, true, none, true⟩,
    ⟨false, true, true, none, true⟩]

theorem row_credits_conserved_earlyResponse :
    ((∀ js, js <+: earlyResponse → (mrff.run js).issued ≤ 8) ∧ mrff.Meets RowFree earlyResponse) ∧
      ∀ js, js <+: earlyResponse → (mrff.run js).total = 8 :=
  have h := row_credits_conserved earlyResponse (by decide +kernel)
  ⟨h.1 (by decide +kernel), h.2.mpr (by decide +kernel)⟩

/-- The same response with a network that is not ready for nine cycles, and then eight responses
more. -/
def networkBusy : List MemRespFifoIn :=
  holdOff ++ [⟨false, true, true, some 5, false⟩]
    ++ List.replicate 9 ⟨false, true, false, none, true⟩
    ++ List.replicate 8 ⟨false, true, false, some 5, true⟩

/-- The TLX is given more credits than there are rows, and uses them. -/
theorem overrun_networkBusy :
    mrff.Meets Ok networkBusy ∧ 8 < (mrff.run (networkBusy.take 20)).issued ∧
      ¬ mrff.Meets RowFree networkBusy := by decide +kernel

end Mrff

end ThymesisFlow
