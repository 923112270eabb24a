import ThymesisFlow.Afu.HostCmd
import ThymesisFlow.Lib.Machine
import ThymesisFlow.Lib.RowFifo

/-!
# Address translation in software and in hardware

The agent writes `calculate_seg_offset` of `connection.c` into the configuration register of a
segment; `net_cmdfifo` splits the register into a network id and an offset and adds the offset to
the address of each command of the segment.
-/

namespace ThymesisFlow

def calculate_seg_offset (ea_base seg_offset netid : BitVec 64) : BitVec 64 :=
  (ea_base - seg_offset) ^^^ netid

def MEM_SEG0_OFFSET : BitVec 64 := 0x0

def MEM_SEG1_OFFSET : BitVec 64 := 1 <<< 40

/-- The offset of a segment that the software configures. -/
def memSegOffset (i : Fin 2) : BitVec 64 := if i = 0 then MEM_SEG0_OFFSET else MEM_SEG1_OFFSET

/-! ## The FIFO of network commands -/

/-- The wires of one cycle; the configuration registers may change at any time. -/
structure NetCmdIn where
  cmd_in : Option HostCmd
  thymesis_cfg : Fin 12 → BitVec 64
  cmd_dispatched : Bool

/-- `net_cmdfifo`. -/
def netCmdFifo : Machine (RowFifo NetCmd) NetCmdIn where
  init := ⟨fun _ => {}, 0, 0, 0⟩
  step f i := f.step i.cmd_in.isSome (i.cmd_in.bind (netCmdRow i.thymesis_cfg))
    (i.cmd_dispatched && f.valid)

/-- The command that enters, with the registers at that time. -/
def netCmdEntered (_ : RowFifo NetCmd) (i : NetCmdIn) : List ((Fin 12 → BitVec 64) × HostCmd) :=
  i.cmd_in.toList.map fun c => (i.thymesis_cfg, c)

/-- The command that leaves. -/
def netCmdEmitted (f : RowFifo NetCmd) (i : NetCmdIn) : List NetCmd :=
  if i.cmd_dispatched && f.valid then [f.head] else []

/-- **The emitted command `n` has the port and the address that the software meant**: whenever the
register of segment `i` held the value for `ea` and `p`, and the command is for this segment. -/
def Translated (x : (Fin 12 → BitVec 64) × HostCmd) (n : NetCmd) : Prop :=
  ∀ (i : Fin 2) (ea : BitVec 64) (p : BitVec 6), ea.toNat % 64 = 0 →
    x.1 (i.castLE (by decide)) = calculate_seg_offset ea (memSegOffset i) (p.setWidth 64) →
    x.2.segment = i → n.netid = p ∧ n.ea = ea + (x.2.pa - memSegOffset i)

/-! ## The register -/

/-- The low bits of an aligned number are clear. -/
lemma getLsbD_of_aligned {x : BitVec 64} (h : x.toNat % 64 = 0) {k : ℕ} (hk : k < 6) :
    x.getLsbD k = false := by
  have hmod := Nat.testBit_mod_two_pow x.toNat 6 k
  rw [show x.toNat % 2 ^ 6 = 0 from h, Nat.zero_testBit, decide_eq_true hk, Bool.true_and] at hmod
  exact hmod.symm

/-- The port goes into the low bits of an aligned offset and comes out again. -/
lemma field_xor_port {x : BitVec 64} (h : x.toNat % 64 = 0) (p : BitVec 6) :
    field (x ^^^ p.setWidth 64) 0 6 = p := by
  refine BitVec.eq_of_getLsbD_eq fun k hk => ?_
  rw [getLsbD_field, Nat.zero_add, BitVec.getLsbD_xor, getLsbD_of_aligned h hk]
  simp [hk, show k < 64 by omega]

/-- The other bits are the offset. -/
lemma append_field_xor_port {x : BitVec 64} (h : x.toNat % 64 = 0) (p : BitVec 6) :
    (field (x ^^^ p.setWidth 64) 6 58 ++ 0#6 : BitVec 64) = x := by
  refine BitVec.eq_of_getLsbD_eq fun k hk => ?_
  rw [BitVec.getLsbD_append, getLsbD_field, BitVec.getLsbD_xor]
  by_cases hk6 : k < 6
  · simp [hk6, getLsbD_of_aligned h hk6]
  · have hp : p.getLsbD k = false := BitVec.getLsbD_of_ge _ _ (by omega)
    have hs : 6 + (k - 6) = k := by omega
    simp [hk6, hs, show k - 6 < 58 by omega, hp]

lemma memSegOffset_aligned (i : Fin 2) : (memSegOffset i).toNat % 64 = 0 := by
  revert i
  decide

lemma sub_aligned {x y : BitVec 64} (hx : x.toNat % 64 = 0) (hy : y.toNat % 64 = 0) :
    (x - y).toNat % 64 = 0 := by
  have := x.isLt
  have := y.isLt
  rw [BitVec.toNat_sub]
  omega

/-- The row that is written for a command is what the software meant. -/
theorem translated_row {cfg : Fin 12 → BitVec 64} {c : HostCmd} {n : NetCmd}
    (h : netCmdRow cfg c = some n) : Translated (cfg, c) n := by
  intro i ea p hea hreg hseg
  simp only at hreg hseg
  have hlt : c.segment < 12 := by
    have := i.isLt
    omega
  have hidx : (⟨c.segment, hlt⟩ : Fin 12) = i.castLE (by decide) := Fin.ext hseg
  have haligned := sub_aligned hea (memSegOffset_aligned i)
  rw [netCmdRow, dif_pos hlt, hidx, hreg, calculate_seg_offset] at h
  obtain rfl := Option.some.inj h
  refine ⟨field_xor_port haligned p, ?_⟩
  rw [NetCmd.ofHost, append_field_xor_port haligned]
  bv_omega

/-- A command of another segment may leave a row as it was, which means nothing. -/
lemma translated_getD (cfg : Fin 12 → BitVec 64) (c : HostCmd) (n : NetCmd) :
    Translated (cfg, c) ((netCmdRow cfg c).getD n) := by
  cases h : netCmdRow cfg c with
  | some n' => exact translated_row h
  | none =>
      intro i ea p _ _ hseg
      simp only at hseg
      have := i.isLt
      rw [netCmdRow, dif_pos (by omega)] at h
      exact absurd h (by simp)

/-! ## Every run -/

/-- Nothing is written while every row is valid. -/
def netCmdRoom (f : RowFifo NetCmd) (i : NetCmdIn) : Prop := i.cmd_in.isSome = true → f.full = false

instance (f : RowFifo NetCmd) (i : NetCmdIn) : Decidable (netCmdRoom f i) :=
  inferInstanceAs (Decidable (_ → _))

/-- The translation of a command, if its segment has a slot. -/
def netCmdTranslation (x : (Fin 12 → BitVec 64) × HostCmd) : Option NetCmd := netCmdRow x.1 x.2

/-- `n` is the translation of `x`, or whatever was in the row if there is none. -/
def InRow (x : (Fin 12 → BitVec 64) × HostCmd) (n : NetCmd) : Prop :=
  ∃ n', n = (netCmdTranslation x).getD n'

/-- **One row for each command**: every command that enters is emitted, in order, as its row, or is
still in the FIFO. -/
theorem netCmds_inRows (is : List NetCmdIn) (hroom : netCmdFifo.Meets netCmdRoom is) :
    ∃ rows, (netCmdFifo.run is).Holds rows ∧
      List.Forall₂ InRow (netCmdFifo.collect netCmdEntered is)
        (netCmdFifo.collect netCmdEmitted is ++ rows) := by
  refine netCmdFifo.trace_invariant
    (P := fun f a b => ∃ rows, f.Holds rows ∧ List.Forall₂ InRow a (b ++ rows))
    ⟨[], RowFifo.holds_nil rfl rfl, .nil⟩ ?_ is hroom
  rintro f a b i ⟨rows, hf, hab⟩ hroom
  have hpop : (i.cmd_dispatched && f.valid) = true → rows ≠ [] := by
    rintro hp rfl
    rw [hf.valid_eq] at hp
    simp at hp
  have hpush : i.cmd_in.isSome = true → rows.length < 8 := by
    intro hp
    refine Nat.lt_of_le_of_ne hf.length_le fun h8 => ?_
    exact absurd ((hroom hp).symm.trans (hf.full_iff.mpr h8)) (by decide)
  refine ⟨_, hf.step_getD i.cmd_in.isSome (i.cmd_dispatched && f.valid) _ hpush hpop, ?_⟩
  have hkeep : netCmdEmitted f i ++ (if i.cmd_dispatched && f.valid then rows.tail else rows) = rows := by
    rw [netCmdEmitted]
    split_ifs with hp
    · obtain ⟨n, rows, rfl⟩ := List.exists_cons_of_ne_nil (hpop hp)
      rw [hf.head_eq]
      rfl
    · rfl
  rw [List.append_assoc, ← List.append_assoc (netCmdEmitted f i), hkeep, ← List.append_assoc]
  refine List.rel_append hab ?_
  cases hc : i.cmd_in with
  | none => simp [netCmdEntered, hc]
  | some c =>
      simp only [netCmdEntered, hc, Option.toList_some, List.map_cons, List.map_nil,
        Option.isSome_some, if_true, Option.bind_some]
      exact .cons ⟨_, rfl⟩ .nil

/-- **Software and hardware agree**: every command that enters `net_cmdfifo` is emitted, in order,
with the port and the address that the software meant, or is still in the FIFO. -/
theorem seg_translated (is : List NetCmdIn)
    (hroom : netCmdFifo.Meets (fun f i => i.cmd_in.isSome = true → f.full = false) is) :
    ∃ rows, (netCmdFifo.run is).Holds rows ∧
      List.Forall₂ (fun x n => Translated x n) (netCmdFifo.collect netCmdEntered is)
        (netCmdFifo.collect netCmdEmitted is ++ rows) := by
  obtain ⟨rows, hrows, hin⟩ := netCmds_inRows is hroom
  refine ⟨rows, hrows, hin.imp ?_⟩
  rintro x _ ⟨n', rfl⟩
  exact translated_getD x.1 x.2 n'

/-- A read in segment 1, whose register is set for an address below the segment base and port 5,
and then a cycle in which it leaves. -/
def segOneRead : List NetCmdIn :=
  [⟨some ⟨0x20, 0b10, 1, 0, 0, 0x10000000100⟩,
      fun _ => calculate_seg_offset 0x80 MEM_SEG1_OFFSET 5, false⟩,
    ⟨none, fun _ => 0, true⟩]

theorem seg_translated_segOneRead :
    (∃ rows, (netCmdFifo.run segOneRead).Holds rows ∧
      List.Forall₂ (fun x n => Translated x n) (netCmdFifo.collect netCmdEntered segOneRead)
        (netCmdFifo.collect netCmdEmitted segOneRead ++ rows)) ∧
    (netCmdFifo.collect netCmdEmitted segOneRead).map (fun n => (n.netid, n.ea)) = [(5, 0x180)] :=
  ⟨seg_translated segOneRead (by decide), by decide⟩

/-! ## Commands without a slot

The `default` branch of the row contents writes nothing, but the pointer and the valid bit do not
look at the segment: the command leaves as the command that was in the row before.
-/

/-- What is taken at the output is, in order, the translation of commands that were received, each
of them once. -/
def OnlyReceived (is : List NetCmdIn) : Prop :=
  ((netCmdFifo.collect netCmdEmitted is).map some).Sublist
    ((netCmdFifo.collect netCmdEntered is).map netCmdTranslation)

/-- A command that is written has a slot: bits 45:40 of its address are below 12. -/
def SlotWritten (i : NetCmdIn) : Prop := ∀ c ∈ i.cmd_in, c.segment < 12

instance (i : NetCmdIn) : Decidable (SlotWritten i) := by
  unfold SlotWritten
  infer_instance

lemma translation_of_slot {x : (Fin 12 → BitVec 64) × HostCmd} (h : x.2.segment < 12) :
    ∃ n, netCmdTranslation x = some n := ⟨_, dif_pos h⟩

/-- Rows of commands with a slot are their translations. -/
lemma map_translation {xs : List ((Fin 12 → BitVec 64) × HostCmd)} {ns : List NetCmd}
    (h : List.Forall₂ InRow xs ns) (hslot : ∀ x ∈ xs, x.2.segment < 12) :
    xs.map netCmdTranslation = ns.map some := by
  induction h with
  | nil => rfl
  | @cons x n xs ns hin _ ih =>
      obtain ⟨n', rfl⟩ := hin
      obtain ⟨m, hm⟩ := translation_of_slot (hslot x (by simp))
      rw [List.map_cons, List.map_cons, ih fun y hy => hslot y (by simp [hy]), hm]
      rfl

/-- **Commands with a slot are only emitted as received**: nothing is lost either, what has not been
taken yet is in the rows. -/
theorem only_received_of_slots (is : List NetCmdIn)
    (hok : netCmdFifo.Meets (fun f i => netCmdRoom f i ∧ SlotWritten i) is) :
    OnlyReceived is ∧ ∃ rows, (netCmdFifo.run is).Holds rows ∧
      (netCmdFifo.collect netCmdEntered is).map netCmdTranslation
        = (netCmdFifo.collect netCmdEmitted is ++ rows).map some := by
  obtain ⟨rows, hrows, hin⟩ := netCmds_inRows is (netCmdFifo.meets_mono (fun _ _ h => h.1) hok)
  have hslot : ∀ x ∈ netCmdFifo.collect netCmdEntered is, x.2.segment < 12 := by
    refine netCmdFifo.forall_collect (fun f i h x hx => ?_) hok
    obtain ⟨c, hc, rfl⟩ := List.mem_map.mp hx
    exact h.2 c (Option.mem_toList.mp hc)
  have hmap := map_translation hin hslot
  refine ⟨?_, rows, hrows, hmap⟩
  rw [OnlyReceived, hmap, List.map_append]
  exact List.sublist_append_left _ _

/-- Eight reads of slot 0 that leave at once, and then one of segment 12. -/
def slotTwelveRead : List NetCmdIn :=
  (List.finRange 8).map (fun k => ⟨some ⟨0x20, 0b10, k, 0, 0, 0x100⟩, fun _ => 5, true⟩)
    ++ [⟨some ⟨0x20, 0b10, 9, 0, 0, 0xC0000000100⟩, fun _ => 5, true⟩, ⟨none, fun _ => 5, true⟩]

/-- A read of each slot, while the registers change from one to the next; the first five wait. -/
def readOfEachSlot : List NetCmdIn :=
  (List.range 12).map (fun k => ⟨some ⟨0x20, 0b10, BitVec.ofNat 16 k, 0, 0, BitVec.ofNat 64 (k * 2 ^ 40 + 0x100)⟩,
      fun slot => BitVec.ofNat 64 (slot * 128 + (k + slot) % 64), decide (5 ≤ k)⟩)
    ++ List.replicate 4 ⟨none, fun _ => 0, true⟩

/-- Each leaves once with the port and the address of its time, and one is left in the rows. -/
theorem only_received_readOfEachSlot :
    (OnlyReceived readOfEachSlot ∧ ∃ rows, (netCmdFifo.run readOfEachSlot).Holds rows ∧
      (netCmdFifo.collect netCmdEntered readOfEachSlot).map netCmdTranslation
        = (netCmdFifo.collect netCmdEmitted readOfEachSlot ++ rows).map some) ∧
    (netCmdFifo.collect netCmdEmitted readOfEachSlot).map (fun n => (n.tag, n.netid))
      = (List.range 11).map fun k => (BitVec.ofNat 16 k, BitVec.ofNat 6 (2 * k)) :=
  ⟨only_received_of_slots readOfEachSlot (by decide +kernel), by decide +kernel⟩

/-- The read of segment 12 leaves as the first read once more. -/
theorem stale_slotTwelveRead :
    netCmdFifo.Meets netCmdRoom slotTwelveRead ∧ ¬ OnlyReceived slotTwelveRead ∧
      ((netCmdFifo.collect netCmdEmitted slotTwelveRead).map fun n => n.tag)
        = [0, 1, 2, 3, 4, 5, 6, 7, 0] := by
  unfold OnlyReceived
  exact ⟨by decide +kernel, by decide +kernel, by decide +kernel⟩

end ThymesisFlow
