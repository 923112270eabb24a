import ThymesisFlow.Afu.MmioRegs

/-!
# The MMIO registers as a store of bytes

Software takes the slot registers, the control registers and the scratch pad for a memory: a read
returns in each byte what the last write to it left there.  Two slips stand against it.  The branch that
holds the lowest byte of a row of the scratch pad loads it from the byte above, and the register at
`0x80` lies in a range that is answered as not implemented although it is written.
-/

namespace ThymesisFlow

/-- The number of bytes that a single write strobe asks for. -/
def strobeSize (wr_1B wr_2B wr_4B wr_8B rd : Bool) : Option ℕ :=
  match wr_1B, wr_2B, wr_4B, wr_8B, rd with
  | true, false, false, false, false => some 1
  | false, true, false, false, false => some 2
  | false, false, true, false, false => some 4
  | false, false, false, true, false => some 8
  | _, _, _, _, _ => none

namespace MmioIn

variable (c : MmioIn)

def addr : ℕ := c.mmio_addr.toNat

def writeSize : Option ℕ :=
  strobeSize c.mmio_wr_1B c.mmio_wr_2B c.mmio_wr_4B c.mmio_wr_8B c.mmio_rd

/-- An aligned write that covers byte `b`. -/
def Writes (b : ℕ) : Prop := ∃ n ∈ c.writeSize, c.addr % n = 0 ∧ c.addr ≤ b ∧ b < c.addr + n

/-- A write strobe is active. -/
def IsWrite : Prop := (c.mmio_wr_1B || c.mmio_wr_2B || c.mmio_wr_4B || c.mmio_wr_8B) = true

/-- The read strobe is active, and no other. -/
def IsRead : Prop :=
  c.mmio_rd = true ∧ (c.mmio_wr_1B || c.mmio_wr_2B || c.mmio_wr_4B || c.mmio_wr_8B) = false

/-- The addresses that are answered as not implemented. -/
def NotImplemented : Prop :=
  0x00080 ≤ c.addr ∧ c.addr < 0x00100 ∨ 0x00120 ≤ c.addr ∧ c.addr < 0x00200 ∨
    0x00300 ≤ c.addr ∧ c.addr < 0x80000 ∨ 0x80020 ≤ c.addr

/-- The data that goes to byte `b`. -/
def lane (b : ℕ) : BitVec 8 := field c.mmio_wdata (8 * (b % 8)) 8

instance (b : ℕ) : Decidable (c.Writes b) :=
  match h : c.writeSize with
  | none => .isFalse (by rintro ⟨n, hn, -⟩; simp [h] at hn)
  | some n => decidable_of_iff (c.addr % n = 0 ∧ c.addr ≤ b ∧ b < c.addr + n) (by simp [Writes, h])

instance : Decidable c.NotImplemented := by unfold NotImplemented; infer_instance

end MmioIn

/-- The bytes of the slot registers, the control registers and the scratch pad. -/
def InStore (b : ℕ) : Prop := 0x20 ≤ b ∧ b < 0x60 ∨ 0x78 ≤ b ∧ b < 0x88 ∨ 0x200 ≤ b ∧ b < 0x300

def resetByte (b : ℕ) : BitVec 8 := if 0x200 ≤ b ∧ b < 0x300 then 0xFF else 0

/-- The data of the last aligned write to the byte, or its reset value. -/
def lastWritten (cs : List MmioIn) (b : ℕ) : BitVec 8 :=
  lastValue (·.Writes b) (·.lane b) (resetByte b) cs

/-- The data of the last write to the byte that is not answered with an error. -/
def lastAccepted (cs : List MmioIn) (b : ℕ) : BitVec 8 :=
  lastValue (fun c => c.Writes b ∧ ¬ c.NotImplemented) (·.lane b) (resetByte b) cs

/-- The lowest byte of a row of the scratch pad. -/
def LowByte (b : ℕ) : Prop := 0x200 ≤ b ∧ b < 0x300 ∧ b % 8 = 0

/-- Since the address bus was last away from the row of `b`, either `b` has been written, or the byte
above held the same then. -/
def LowKept (cs : List MmioIn) (b : ℕ) : Prop :=
  ∀ cs₁ c cs₂, cs = cs₁ ++ c :: cs₂ → c.addr / 8 ≠ b / 8 → (∀ c' ∈ cs₂, c'.addr / 8 = b / 8) →
    (∃ c' ∈ cs₂, c'.Writes b) ∨ lastWritten cs₁ (b + 1) = lastWritten cs₁ b

/-- The state holds what software expects: nothing but the reset value has been written where writes
are answered as not implemented, and a lowest byte of the scratch pad has been written since the address
bus was last away from its row, unless the byte above then held the same. -/
structure ByteKept (cs : List MmioIn) (b : ℕ) : Prop where
  implemented : 0x80 ≤ b → b < 0x88 → lastWritten cs b = resetByte b
  low : LowByte b → LowKept cs b

/-! ## Byte enables -/

/-- The bytes that are enabled are those that the strobe covers. -/
lemma decodeOp_wr_be : ∀ (w₁ w₂ w₄ w₈ rd : Bool) (lo k : Fin 8),
    bit (decodeOp w₁ w₂ w₄ w₈ rd lo).1 k = true ↔
      ∃ n ∈ strobeSize w₁ w₂ w₄ w₈ rd, (lo : ℕ) % n = 0 ∧ (lo : ℕ) ≤ k ∧ (k : ℕ) < lo + n := by
  decide +kernel

lemma strobeSize_cases : ∀ (w₁ w₂ w₄ w₈ rd : Bool), ∀ n ∈ strobeSize w₁ w₂ w₄ w₈ rd,
    n = 1 ∨ n = 2 ∨ n = 4 ∨ n = 8 := by
  decide

namespace MmioRegs

variable (s : MmioRegs) (c : MmioIn)

/-- A byte is enabled when a write to it has been latched. -/
lemma wr_be_step (b : ℕ) :
    (c.addr / 8 = b / 8 ∧ bit (s.step c).wr_be (b % 8) = true) ↔ c.Writes b := by
  have hbe := decodeOp_wr_be c.mmio_wr_1B c.mmio_wr_2B c.mmio_wr_4B c.mmio_wr_8B c.mmio_rd
    ⟨c.addr % 8, Nat.mod_lt _ (by decide)⟩ ⟨b % 8, Nat.mod_lt _ (by decide)⟩
  change (c.addr / 8 = b / 8 ∧ bit (decodeOp c.mmio_wr_1B c.mmio_wr_2B c.mmio_wr_4B c.mmio_wr_8B
    c.mmio_rd (c.addr % 8)).1 (b % 8) = true) ↔ _
  rw [hbe]
  constructor
  · rintro ⟨hrow, n, hn, hw⟩
    refine ⟨n, hn, ?_⟩
    simp only at hw
    rcases strobeSize_cases _ _ _ _ _ n hn with rfl | rfl | rfl | rfl <;> omega
  · rintro ⟨n, hn, hw⟩
    have hmod : c.addr % 8 % n = 0 ∧ c.addr % 8 ≤ b % 8 ∧ b % 8 < c.addr % 8 + n := by
      rcases strobeSize_cases _ _ _ _ _ n hn with rfl | rfl | rfl | rfl <;> omega
    have hrow : c.addr / 8 = b / 8 := by
      rcases strobeSize_cases _ _ _ _ _ n hn with rfl | rfl | rfl | rfl <;> omega
    exact ⟨hrow, n, hn, hmod⟩

/-! ## Registers -/

/-- The registers of the store. -/
def storeRegs : List MmioReg :=
  [.reg_00020, .reg_00028, .reg_00030, .reg_00038, .reg_00040, .reg_00048, .reg_00050, .reg_00058,
    .reg_00078, .reg_00080]

variable {r : MmioReg}

lemma storeRegs_base : ∀ r ∈ storeRegs, r.base % 8 = 0 ∧ r.base + 8 ≤ 0x200 ∧ r.init = 0 := by decide

lemma selReg_iff (hr : r ∈ storeRegs) : s.selReg r = true ↔ s.addr_q.toNat / 8 = r.base / 8 := by
  have hbase := (storeRegs_base r hr).1
  rw [selReg, sel, Bool.and_eq_true, decide_eq_true_eq, decide_eq_true_eq]
  omega

lemma next_of_mem (hr : r ∈ storeRegs) :
    s.next c r = if s.selReg r then s.overlay (s.reg r) else s.reg r := by
  simp only [storeRegs, List.mem_cons, List.not_mem_nil, or_false] at hr
  rcases hr with rfl | rfl | rfl | rfl | rfl | rfl | rfl | rfl | rfl | rfl <;> rfl

lemma field_overlay (q : BitVec 64) {k : ℕ} (hk : k < 8) :
    field (s.overlay q) (8 * k) 8
      = if bit s.wr_be k = true then field s.wdata_q (8 * k) 8 else field q (8 * k) 8 := by
  rw [overlay, field_setBytes _ _ _ (by omega)]
  simp [hk]

/-- One cycle of one byte of a register: a latched write to it, or it is held. -/
lemma byte_step (hr : r ∈ storeRegs) {k : ℕ} (hk : k < 8) (hreset : c.reset = false) (x : MmioIn) :
    field (((s.step c).step x).reg r) (8 * k) 8
      = if c.Writes (r.base + k) then c.lane (r.base + k) else field ((s.step c).reg r) (8 * k) 8 := by
  have hbase := (storeRegs_base r hr).1
  have hmod : (r.base + k) % 8 = k := by omega
  have hdiv : (r.base + k) / 8 = r.base / 8 := by omega
  have hw := wr_be_step s c (r.base + k)
  have hsel : (s.step c).selReg r = true ↔ c.addr / 8 = r.base / 8 := selReg_iff _ hr
  change field (if c.reset then r.init else (s.step c).next x r) (8 * k) 8 = _
  rw [hreset, if_neg (by decide), next_of_mem _ _ hr]
  rw [hmod, hdiv] at hw
  simp only [← hw, MmioIn.lane, hmod]
  by_cases hrow : c.addr / 8 = r.base / 8
  · rw [if_pos (hsel.mpr hrow), field_overlay _ _ hk]
    simp only [hrow, true_and]
    rfl
  · rw [if_neg fun h => hrow (hsel.mp h), if_neg fun h => hrow h.1]

/-! ## The scratch pad -/

/-- One cycle of one byte of the scratch pad: a latched write to it, or it is held, the lowest byte of a
row only while the row is addressed. -/
lemma scratch_step {g k : ℕ} (hg : g < 32) (hk : k < 8) (hreset : c.reset = false) (x : MmioIn) :
    ((s.step c).step x).scratch_ary k g
      = if c.Writes (0x200 + 8 * g + k) then c.lane (0x200 + 8 * g + k)
        else if c.addr / 8 = 0x40 + g then (s.step c).scratch_ary k g
        else (s.step c).scratch_ary (if k = 0 then 1 else k) g := by
  have hmod : (0x200 + 8 * g + k) % 8 = k := by omega
  have hdiv : (0x200 + 8 * g + k) / 8 = 0x40 + g := by omega
  have hw := wr_be_step s c (0x200 + 8 * g + k)
  rw [hmod, hdiv] at hw
  have hsel : ((s.step c).sel_00200_002FF && (s.step c).sai == g) = true ↔ c.addr / 8 = 0x40 + g := by
    rw [Bool.and_eq_true, beq_iff_eq, sel_00200_002FF, sel, Bool.and_eq_true, decide_eq_true_eq,
      decide_eq_true_eq]
    change (0x00200 ≤ c.addr ∧ c.addr < 0x00300) ∧ c.addr / 8 % 32 = g ↔ _
    omega
  change (if c.reset then (0xFF : BitVec 8) else (s.step c).scratchNext k g) = _
  rw [hreset, if_neg (by decide), scratchNext]
  simp only [← hw, MmioIn.lane, hmod]
  by_cases hrow : c.addr / 8 = 0x40 + g
  · rw [if_pos (hsel.mpr hrow)]
    simp only [hrow, true_and, if_true]
    rfl
  · rw [if_neg fun h => hrow (hsel.mp h)]
    simp only [hrow, false_and, if_false]
    split_ifs <;> rfl

/-! ## Read data -/

/-- A source of read data is selected by one range, and no two ranges overlap. -/
lemma readable_exclusive (x : MmioIn) : (s.readable x).Pairwise fun r r' =>
    ¬ ((s.sel r.1 r.2.1 && s.do_read) = true ∧ (s.sel r'.1 r'.2.1 && s.do_read) = true) := by
  have hranges : ((s.readable x).map fun r => (r.1, r.2.1)).Pairwise fun r r' =>
      r.2 ≤ r'.1 ∨ r'.2 ≤ r.1 := by
    change List.Pairwise _ (((MmioReg.all.map fun r => (r.base, r.base + 8)) ++
      [(0x00070, 0x00078), (0x00088, 0x00090), (0x00100, 0x00108), (0x00110, 0x00118),
        (0x00118, 0x00120), (0x80010, 0x80018), (0x00200, 0x00300)] : List (ℕ × ℕ)))
    decide
  refine (List.pairwise_map.mp hranges).imp fun {r r'} hd hon => ?_
  simp only [sel, Bool.and_eq_true, decide_eq_true_eq] at hon
  omega

/-- What is read is what the range of the address holds. -/
lemma final_rdata_eq {x : MmioIn} {lo hi : ℕ} {v : BitVec 64} (hv : (lo, hi, v) ∈ s.readable x)
    (hsel : s.sel lo hi = true) (hrd : s.do_read = true) : s.final_rdata_d x = v := by
  rw [final_rdata_d, foldl_or_gate (s.readable x) (s.readable_exclusive x) hv (by simp [hsel, hrd])]
  simp

lemma do_read_step {c : MmioIn} (hc : c.IsRead) : (s.step c).do_read = true := by
  obtain ⟨hrd, hwr⟩ := hc
  simp only [Bool.or_eq_false_iff] at hwr
  change (decodeOp c.mmio_wr_1B c.mmio_wr_2B c.mmio_wr_4B c.mmio_wr_8B c.mmio_rd _).2.1 = true
  rw [hwr.1.1.1, hwr.1.1.2, hwr.1.2, hwr.2, hrd]
  rfl

lemma read_reg {r : MmioReg} (hr : r ∈ storeRegs) {c : MmioIn} (hc : c.IsRead)
    (hrow : c.addr / 8 = r.base / 8) (x : MmioIn) :
    ((s.step c).step x).final_rdata_q = (s.step c).reg r := by
  have hall : ∀ r ∈ storeRegs, r ∈ MmioReg.all := by decide
  have hmem : (r.base, r.base + 8, (s.step c).reg r) ∈ (s.step c).readable x :=
    List.mem_append_left _ (List.mem_map.mpr ⟨r, hall r hr, rfl⟩)
  exact final_rdata_eq (s.step c) hmem ((selReg_iff _ hr).mpr hrow) (s.do_read_step hc)

lemma read_scratch {g : ℕ} (hg : g < 32) {c : MmioIn} (hc : c.IsRead)
    (hrow : c.addr / 8 = 0x40 + g) (x : MmioIn) :
    ((s.step c).step x).final_rdata_q = (s.step c).scratchRow g := by
  have hsai : (s.step c).sai = g := by
    change c.addr / 8 % 32 = g
    omega
  have hmem : (0x00200, 0x00300, (s.step c).scratchRow g) ∈ (s.step c).readable x := by
    rw [← hsai]
    exact List.mem_append_right _ (by simp)
  refine final_rdata_eq (s.step c) hmem ?_ (s.do_read_step hc)
  change (decide (0x00200 ≤ c.addr) && decide (c.addr < 0x00300)) = true
  rw [Bool.and_eq_true, decide_eq_true_eq, decide_eq_true_eq]
  omega

lemma field_scratchRow (g : ℕ) {k : ℕ} (hk : k < 8) :
    field (s.scratchRow g) (8 * k) 8 = s.scratch_ary k g := by
  rw [scratchRow, field_setBytes _ _ _ (by omega)]
  simp [hk]

/-! ## Errors -/

/-- The same state, but without a strobe. -/
def idle : MmioRegs :=
  { s with wr_1B_q := false, wr_2B_q := false, wr_4B_q := false, wr_8B_q := false, rd_q := false }

lemma overlay_idle (q : BitVec 64) : s.idle.overlay q = q := by
  refine eq_of_bytes (n := 8) fun k hk => ?_
  have hbe : s.idle.wr_be = 0 := rfl
  rw [field_overlay _ _ hk, hbe]
  simp [bit]

/-- The registers after the cycle are those of a cycle without a strobe. -/
def Unchanged (x : MmioIn) : Prop :=
  (s.step x).reg = (s.idle.step x).reg ∧ (s.step x).scratch_ary = (s.idle.step x).scratch_ary

lemma next_idle_of_not_sel (x : MmioIn) {r : MmioReg} (h : s.selReg r = false) :
    s.next x r = s.idle.next x r := by
  have hi : s.idle.selReg r = false := h
  cases r <;> simp only [next, h, hi] <;> rfl

lemma next_idle_of_wr_be (x : MmioIn) (r : MmioReg) (hbe : s.wr_be = 0) (hrd : s.do_read = false) :
    s.next x r = s.idle.next x r := by
  have hov : ∀ q, s.overlay q = s.idle.overlay q := fun q => by
    rw [overlay, overlay, hbe]
    rfl
  have hi : s.idle.do_read = false := rfl
  have hibe : s.idle.wr_be = 0 := rfl
  cases r <;> simp only [next, hbe, hibe, hrd, hi, hov] <;> rfl

/-- Nothing is enabled by an operation that is answered as illegal. -/
lemma decodeOp_bad : ∀ (w₁ w₂ w₄ w₈ rd : Bool) (lo : Fin 8),
    (decodeOp w₁ w₂ w₄ w₈ rd lo).2.2 = true →
      (decodeOp w₁ w₂ w₄ w₈ rd lo).1 = 0 ∧ (decodeOp w₁ w₂ w₄ w₈ rd lo).2.1 = false := by
  decide +kernel

/-- A write is legal when there is one strobe and it is aligned. -/
lemma decodeOp_write : ∀ (w₁ w₂ w₄ w₈ rd : Bool) (lo : Fin 8), (w₁ || w₂ || w₄ || w₈) = true →
    (decodeOp w₁ w₂ w₄ w₈ rd lo).2.1 = false ∧
    ((decodeOp w₁ w₂ w₄ w₈ rd lo).2.2 = false ↔ ∃ n ∈ strobeSize w₁ w₂ w₄ w₈ rd, (lo : ℕ) % n = 0) := by
  decide +kernel

end MmioRegs

/-! ## Runs -/

/-- Away from the row the byte is loaded from the one above. -/
lemma lowKept_concat_away {cs : List MmioIn} {c : MmioIn} {b : ℕ} (hc : c.addr / 8 ≠ b / 8) :
    LowKept (cs ++ [c]) b ↔ lastWritten cs (b + 1) = lastWritten cs b := by
  constructor
  · intro h
    simpa using h cs c [] rfl hc (by simp)
  · intro heq cs₁ d cs₂ hsplit _ hrow
    rcases List.eq_nil_or_concat cs₂ with rfl | ⟨cs₃, e, rfl⟩
    · obtain ⟨rfl, -⟩ := List.append_inj' hsplit rfl
      exact .inr heq
    · have hsplit' : cs ++ [c] = (cs₁ ++ d :: cs₃) ++ [e] := by simpa using hsplit
      obtain rfl : c = e := by simpa using (List.append_inj' hsplit' rfl).2
      exact absurd (hrow c (by simp)) hc

/-- In the row a write makes good what was lost, and every other access leaves it. -/
lemma lowKept_concat_row {cs : List MmioIn} {c : MmioIn} {b : ℕ} (hc : c.addr / 8 = b / 8) :
    LowKept (cs ++ [c]) b ↔ c.Writes b ∨ LowKept cs b := by
  constructor
  · intro h
    by_cases hw : c.Writes b
    · exact .inl hw
    · refine .inr fun cs₁ d cs₂ hsplit hd hrow => ?_
      obtain ⟨e, he, hwe⟩ | heq := h cs₁ d (cs₂ ++ [c]) (by simp [hsplit]) hd (by
        intro c' hc'
        rcases List.mem_append.mp hc' with h | h
        · exact hrow c' h
        · rwa [List.mem_singleton.mp h])
      · rcases List.mem_append.mp he with h | h
        · exact .inl ⟨e, h, hwe⟩
        · exact absurd (List.mem_singleton.mp h ▸ hwe) hw
      · exact .inr heq
  · intro h cs₁ d cs₂ hsplit hd hrow
    rcases List.eq_nil_or_concat cs₂ with rfl | ⟨cs₃, e, rfl⟩
    · obtain rfl : c = d := by simpa using (List.append_inj' hsplit rfl).2
      exact absurd hc hd
    · have hsplit' : cs ++ [c] = (cs₁ ++ d :: cs₃) ++ [e] := by simpa using hsplit
      obtain ⟨rfl, hlast⟩ := List.append_inj' hsplit' rfl
      obtain rfl : c = e := by simpa using hlast
      rcases h with hw | h
      · exact .inl ⟨c, by simp, hw⟩
      · obtain ⟨e, he, hwe⟩ | heq := h cs₁ d cs₃ rfl hd fun c' hc' => hrow c' (by simp [hc'])
        · exact .inl ⟨e, by simp [he], hwe⟩
        · exact .inr heq

section

variable {s₀ : MmioRegs} (h₀ : s₀.reset_q = true)

include h₀

/-- A register holds what was written last, accepted or not. -/
lemma reg_run {r : MmioReg} (hr : r ∈ MmioRegs.storeRegs) {k : ℕ} (hk : k < 8) (cs : List MmioIn)
    (hcs : ∀ c ∈ cs, c.reset = false) (x : MmioIn) :
    field (((mmioRegs s₀).run (cs ++ [x])).reg r) (8 * k) 8 = lastWritten cs (r.base + k) := by
  induction cs using List.reverseRecOn generalizing x with
  | nil =>
      obtain ⟨-, hlt, hinit⟩ := MmioRegs.storeRegs_base r hr
      change field (if s₀.reset_q then r.init else _) (8 * k) 8 = resetByte (r.base + k)
      rw [h₀, if_pos rfl, hinit, resetByte, if_neg (by omega)]
      simp [field]
  | append_singleton cs d ih =>
      have hd := hcs d (by simp)
      have ih := ih (fun c hc => hcs c (by simp [hc])) d
      rw [Machine.run_concat] at ih ⊢
      rw [Machine.run_concat, lastWritten, lastValue_concat]
      refine (MmioRegs.byte_step _ d hr hk hd x).trans ?_
      split_ifs
      · rfl
      · exact ih

/-- So does a byte of the scratch pad that is not the lowest of its row. -/
lemma scratch_run {g k : ℕ} (hg : g < 32) (hk : k < 8) (hlow : k ≠ 0) (cs : List MmioIn)
    (hcs : ∀ c ∈ cs, c.reset = false) (x : MmioIn) :
    ((mmioRegs s₀).run (cs ++ [x])).scratch_ary k g = lastWritten cs (0x200 + 8 * g + k) := by
  induction cs using List.reverseRecOn generalizing x with
  | nil =>
      change (if s₀.reset_q then 0xFF else _) = resetByte (0x200 + 8 * g + k)
      rw [h₀, if_pos rfl, resetByte, if_pos (by omega)]
  | append_singleton cs d ih =>
      have hd := hcs d (by simp)
      have ih := ih (fun c hc => hcs c (by simp [hc])) d
      rw [Machine.run_concat] at ih ⊢
      rw [Machine.run_concat, lastWritten, lastValue_concat]
      refine (MmioRegs.scratch_step _ d hg hk hd x).trans ?_
      rw [if_neg hlow, ite_self]
      split_ifs
      · rfl
      · exact ih

/-- The lowest byte of a row. -/
lemma low_run {g : ℕ} (hg : g < 32) (cs : List MmioIn) (hcs : ∀ c ∈ cs, c.reset = false)
    (x : MmioIn) :
    ((mmioRegs s₀).run (cs ++ [x])).scratch_ary 0 g = lastWritten cs (0x200 + 8 * g)
      ↔ LowKept cs (0x200 + 8 * g) := by
  have hdiv : (0x200 + 8 * g) / 8 = 0x40 + g := by omega
  induction cs using List.reverseRecOn generalizing x with
  | nil =>
      change (if s₀.reset_q then 0xFF else _) = resetByte (0x200 + 8 * g) ↔ _
      rw [h₀, if_pos rfl, resetByte, if_pos (by omega)]
      exact iff_of_true rfl fun cs₁ c cs₂ h => by simp at h
  | append_singleton cs d ih =>
      have hd := hcs d (by simp)
      have hcs' : ∀ c ∈ cs, c.reset = false := fun c hc => hcs c (by simp [hc])
      have hstep := MmioRegs.scratch_step ((mmioRegs s₀).run cs) d hg (k := 0) (by decide) hd x
      rw [Nat.add_zero] at hstep
      rw [Machine.run_concat, Machine.run_concat, lastWritten, lastValue_concat]
      change ((((mmioRegs s₀).run cs).step d).step x).scratch_ary 0 g = _ ↔ _
      rw [hstep]
      by_cases hrow : d.addr / 8 = (0x200 + 8 * g) / 8
      · rw [lowKept_concat_row hrow]
        by_cases hw : d.Writes (0x200 + 8 * g)
        · simp [hw]
        · have ih := ih hcs' d
          rw [Machine.run_concat] at ih
          rw [if_neg hw, if_neg hw, if_pos (hrow.trans hdiv)]
          simp only [hw, false_or]
          exact ih
      · have hw : ¬ d.Writes (0x200 + 8 * g) := fun hw =>
          hrow ((MmioRegs.wr_be_step s₀ d _).mpr hw).1
        have habove := scratch_run h₀ hg (k := 1) (by decide) (by decide) cs hcs' d
        rw [Machine.run_concat] at habove
        rw [lowKept_concat_away hrow, if_neg hw, if_neg hw, if_neg (hdiv ▸ hrow), if_pos rfl]
        exact Eq.congr_left habove

end

/-! ## Accepted writes -/

lemma MmioIn.Writes.row {c : MmioIn} {b : ℕ} (h : c.Writes b) : c.addr / 8 = b / 8 := by
  obtain ⟨n, hn, hw⟩ := h
  rcases strobeSize_cases _ _ _ _ _ n hn with rfl | rfl | rfl | rfl <;> omega

lemma lastAccepted_of_implemented {b : ℕ} (hb : InStore b) (hn : ¬ (0x80 ≤ b ∧ b < 0x88))
    (cs : List MmioIn) : lastAccepted cs b = lastWritten cs b := by
  refine lastValue_congr (fun c => and_iff_left_of_imp fun hw => ?_) cs
  have hrow := hw.row
  rw [InStore] at hb
  rw [MmioIn.NotImplemented]
  omega

lemma lastAccepted_of_not_implemented {b : ℕ} (hn : 0x80 ≤ b ∧ b < 0x88) (cs : List MmioIn) :
    lastAccepted cs b = resetByte b := by
  refine lastValue_of_forall_not (fun c hc => hc.2 ?_) cs
  have hrow := hc.1.row
  exact .inl (by omega)

lemma byteKept_of_reg {cs : List MmioIn} {b : ℕ} (hb : InStore b) (hlow : ¬ LowByte b) :
    lastWritten cs b = lastAccepted cs b ↔ ByteKept cs b := by
  by_cases hn : 0x80 ≤ b ∧ b < 0x88
  · rw [lastAccepted_of_not_implemented hn]
    exact ⟨fun h => ⟨fun _ _ => h, fun hl => absurd hl hlow⟩, fun h => h.implemented hn.1 hn.2⟩
  · rw [lastAccepted_of_implemented hb hn]
    exact iff_of_true rfl ⟨fun h₁ h₂ => absurd ⟨h₁, h₂⟩ hn, fun hl => absurd hl hlow⟩

/-- The row of a byte is a register or one of the scratch pad. -/
lemma row_cases {b : ℕ} (hb : InStore b) :
    (b < 0x200 ∧ ∃ r ∈ MmioRegs.storeRegs, r.base = 8 * (b / 8)) ∨
    ∃ g < 32, b = 0x200 + 8 * g + b % 8 := by
  have hregs : ∀ q < 17, 4 ≤ q ∧ q < 12 ∨ 15 ≤ q → ∃ r ∈ MmioRegs.storeRegs, r.base = 8 * q := by
    decide
  rw [InStore] at hb
  by_cases hlt : b < 0x200
  · exact .inl ⟨hlt, hregs (b / 8) (by omega) (by omega)⟩
  · exact .inr ⟨b / 8 - 0x40, by omega, by omega⟩

/-- What is read from a byte, against what was accepted for it. -/
lemma read_iff {s₀ : MmioRegs} (h₀ : s₀.reset_q = true) {cs : List MmioIn}
    (hcs : ∀ c ∈ cs, c.reset = false) {r : MmioIn} (hr : r.IsRead) {b : ℕ} (hb : InStore b)
    (hrow : r.addr / 8 = b / 8) (x : MmioIn) :
    field ((mmioRegs s₀).run (cs ++ [r, x])).final_rdata_q (8 * (b % 8)) 8 = lastAccepted cs b
      ↔ ByteKept cs b := by
  have hk : b % 8 < 8 := Nat.mod_lt _ (by decide)
  have hrun : (mmioRegs s₀).run (cs ++ [r, x]) = (((mmioRegs s₀).run cs).step r).step x := by
    rw [Machine.run_append]
    rfl
  rw [hrun]
  rcases row_cases hb with ⟨hlt, q, hq, hbase⟩ | ⟨g, hg, hbg⟩
  · have hb' : q.base + b % 8 = b := by omega
    have hstored := reg_run h₀ hq hk cs hcs r
    rw [Machine.run_concat, hb'] at hstored
    change field ((((mmioRegs s₀).run cs).step r).reg q) _ _ = _ at hstored
    rw [MmioRegs.read_reg _ hq hr (by omega), hstored]
    exact byteKept_of_reg hb fun h => absurd h.1 (by omega)
  · rw [MmioRegs.read_scratch _ hg hr (by omega), MmioRegs.field_scratchRow _ _ hk]
    by_cases hz : b % 8 = 0
    · have hlow := low_run h₀ hg cs hcs r
      have hb' : 0x200 + 8 * g = b := by omega
      rw [Machine.run_concat, hb'] at hlow
      rw [hz, lastAccepted_of_implemented hb (by omega)]
      exact hlow.trans ⟨fun h => ⟨fun _ _ => by omega, fun _ => h⟩,
        fun h => h.low ⟨by omega, by omega, hz⟩⟩
    · have hstored := scratch_run h₀ hg hk hz cs hcs r
      rw [Machine.run_concat, ← hbg] at hstored
      refine (Eq.congr_left hstored).trans (byteKept_of_reg hb fun h => hz h.2.2)

/-! ## Writes that are answered with an error -/

namespace MmioRegs

variable (s : MmioRegs) {w : MmioIn}

lemma do_read_of_write (hw : w.IsWrite) : (s.step w).do_read = false :=
  (decodeOp_write w.mmio_wr_1B w.mmio_wr_2B w.mmio_wr_4B w.mmio_wr_8B w.mmio_rd
    ⟨w.addr % 8, Nat.mod_lt _ (by decide)⟩ hw).1

lemma bad_op_step (hw : w.IsWrite) :
    (s.step w).bad_op_or_align_d = false ↔ ∃ n ∈ w.writeSize, w.addr % n = 0 := by
  refine (decodeOp_write w.mmio_wr_1B w.mmio_wr_2B w.mmio_wr_4B w.mmio_wr_8B w.mmio_rd
    ⟨w.addr % 8, Nat.mod_lt _ (by decide)⟩ hw).2.trans (exists_congr fun n => and_congr_right fun hn => ?_)
  rcases strobeSize_cases _ _ _ _ _ n hn with rfl | rfl | rfl | rfl <;> simp only <;> omega

lemma wr_be_of_bad (h : (s.step w).bad_op_or_align_d = true) :
    (s.step w).wr_be = 0 ∧ (s.step w).do_read = false :=
  decodeOp_bad w.mmio_wr_1B w.mmio_wr_2B w.mmio_wr_4B w.mmio_wr_8B w.mmio_rd
    ⟨w.addr % 8, Nat.mod_lt _ (by decide)⟩ h

lemma not_implemented_step : (s.step w).sel_addr_not_implemented = true ↔ w.NotImplemented := by
  have hlt : w.addr < 0x100000 := w.mmio_addr.isLt
  have hsel : ∀ lo hi, (s.step w).sel lo hi = true ↔ lo ≤ w.addr ∧ w.addr < hi := fun lo hi => by
    rw [sel, Bool.and_eq_true, decide_eq_true_eq, decide_eq_true_eq]
    rfl
  rw [sel_addr_not_implemented, Bool.or_eq_true, Bool.or_eq_true, Bool.or_eq_true, hsel, hsel, hsel,
    hsel, MmioIn.NotImplemented]
  omega

/-- The only register in the range that is answered as not implemented. -/
lemma selReg_of_not_implemented (h : w.NotImplemented) {r : MmioReg} (hr : r ≠ .reg_00080) :
    (s.step w).selReg r = false := by
  have hbase : r.base + 8 ≤ 0x80 ∨ 0x100 ≤ r.base ∧ r.base + 8 ≤ 0x120 ∨
      0x80000 ≤ r.base ∧ r.base + 8 ≤ 0x80020 := by
    cases r <;> first | exact absurd rfl hr | decide
  rw [MmioIn.NotImplemented] at h
  rw [Bool.eq_false_iff, selReg, sel, Ne, Bool.and_eq_true, decide_eq_true_eq, decide_eq_true_eq]
  change ¬ (r.base ≤ w.addr ∧ w.addr < r.base + 8)
  omega

/-- A write that is answered with an error changes at most the register at `0x80`. -/
lemma next_idle_of_error (hw : w.IsWrite)
    (herr : (s.step w).bad_op_or_align_d = true ∨ w.NotImplemented) (x : MmioIn) {r : MmioReg}
    (hr : r ≠ .reg_00080) : (s.step w).next x r = (s.step w).idle.next x r := by
  rcases herr with hbad | hn
  · exact next_idle_of_wr_be _ x r (s.wr_be_of_bad hbad).1 (s.do_read_of_write hw)
  · exact next_idle_of_not_sel _ x (s.selReg_of_not_implemented hn hr)

lemma scratch_idle_of_error (herr : (s.step w).bad_op_or_align_d = true ∨ w.NotImplemented) (k g : ℕ) :
    (s.step w).scratchNext k g = (s.step w).idle.scratchNext k g := by
  rcases herr with hbad | hn
  · rw [scratchNext, scratchNext, (s.wr_be_of_bad hbad).1]
    rfl
  · have hsel : (s.step w).sel_00200_002FF = false := by
      rw [MmioIn.NotImplemented] at hn
      rw [Bool.eq_false_iff, sel_00200_002FF, sel, Ne, Bool.and_eq_true, decide_eq_true_eq,
        decide_eq_true_eq]
      change ¬ (0x00200 ≤ w.addr ∧ w.addr < 0x00300)
      omega
    have hi : (s.step w).idle.sel_00200_002FF = false := hsel
    rw [scratchNext, scratchNext, hsel, hi]
    rfl

end MmioRegs

/-- The write leaves all registers exactly when it does not bring new data to the register at `0x80`. -/
lemma error_iff {s₀ : MmioRegs} (h₀ : s₀.reset_q = true) {cs : List MmioIn}
    (hcs : ∀ c ∈ cs, c.reset = false) {w : MmioIn} (hreset : w.reset = false) (hw : w.IsWrite)
    (x : MmioIn)
    (herr : ((mmioRegs s₀).run (cs ++ [w])).bad_op_or_align_d = true ∨ w.NotImplemented) :
    ((mmioRegs s₀).run (cs ++ [w])).Unchanged x
      ↔ ∀ b, 0x80 ≤ b → b < 0x88 → w.Writes b → w.lane b = lastWritten cs b := by
  have hmem : MmioReg.reg_00080 ∈ MmioRegs.storeRegs := by decide
  rw [Machine.run_concat] at herr ⊢
  change MmioRegs.Unchanged (((mmioRegs s₀).run cs).step w) x ↔ _
  change (MmioRegs.step _ w).bad_op_or_align_d = true ∨ _ at herr
  generalize hs : (mmioRegs s₀).run cs = s at herr ⊢
  -- byte by byte, the register at `0x80` takes a latched write
  have hbyte : ∀ k < 8, field (((s.step w).step x).reg .reg_00080) (8 * k) 8
      = field (((s.step w).idle.step x).reg .reg_00080) (8 * k) 8
        ↔ (w.Writes (0x80 + k) → w.lane (0x80 + k) = lastWritten cs (0x80 + k)) := by
    intro k hk
    have hstored := reg_run h₀ hmem hk cs hcs w
    rw [Machine.run_concat, hs] at hstored
    have hidle : field (((s.step w).idle.step x).reg .reg_00080) (8 * k) 8
        = lastWritten cs (0x80 + k) := by
      have hheld : ((s.step w).idle.step x).reg .reg_00080 = (s.step w).reg .reg_00080 := by
        change (if w.reset then _ else (s.step w).idle.next x .reg_00080) = _
        rw [hreset, if_neg (by decide), MmioRegs.next_of_mem _ x hmem, MmioRegs.overlay_idle, ite_self]
        rfl
      rw [hheld]
      exact hstored
    rw [hidle, MmioRegs.byte_step s w hmem hk hreset x]
    change (if w.Writes (0x80 + k) then w.lane (0x80 + k) else _) = _ ↔ _
    split_ifs with hwr
    · simp [hwr]
    · exact iff_of_true hstored fun h => absurd h hwr
  constructor
  · intro hun b hlo hhi hwr
    have h := (hbyte (b - 0x80) (by omega)).mp
      (congrArg (fun q : MmioReg → BitVec 64 => field (q .reg_00080) (8 * (b - 0x80)) 8) hun.1)
    rw [Nat.add_sub_cancel' hlo] at h
    exact h hwr
  · intro hdata
    refine ⟨funext fun r => ?_, funext fun k => funext fun g => ?_⟩
    · by_cases hr : r = .reg_00080
      · subst hr
        exact eq_of_bytes (n := 8) fun k hk =>
          (hbyte k hk).mpr (hdata (0x80 + k) (by omega) (by omega))
      · change (if w.reset then r.init else (s.step w).next x r)
          = if w.reset then r.init else (s.step w).idle.next x r
        rw [MmioRegs.next_idle_of_error s hw herr x hr]
    · change (if w.reset then (0xFF : BitVec 8) else (s.step w).scratchNext k g)
        = if w.reset then 0xFF else (s.step w).idle.scratchNext k g
      rw [MmioRegs.scratch_idle_of_error s herr]

/-- The two answers to a write. -/
structure WriteAnswered (s₀ : MmioRegs) (cs : List MmioIn) (w x : MmioIn) : Prop where
  /-- There is no error exactly when the write is accepted. -/
  accepted : (((mmioRegs s₀).run (cs ++ [w, x])).bad_op_or_align_q = false ∧
      ((mmioRegs s₀).run (cs ++ [w, x])).addr_not_implemented_q = false)
    ↔ (∃ n ∈ w.writeSize, w.addr % n = 0) ∧ ¬ w.NotImplemented
  /-- With an error the registers are left alone, unless it writes other data at `0x80`. -/
  error : ((mmioRegs s₀).run (cs ++ [w, x])).bad_op_or_align_q = true ∨
      ((mmioRegs s₀).run (cs ++ [w, x])).addr_not_implemented_q = true →
    (((mmioRegs s₀).run (cs ++ [w])).Unchanged x
      ↔ ∀ b, 0x80 ≤ b → b < 0x88 → w.Writes b → w.lane b = lastWritten cs b)

lemma answered {s₀ : MmioRegs} (h₀ : s₀.reset_q = true) {cs : List MmioIn}
    (hcs : ∀ c ∈ cs, c.reset = false) {w : MmioIn} (hreset : w.reset = false) (hw : w.IsWrite)
    (x : MmioIn) : WriteAnswered s₀ cs w x := by
  have hrun : (mmioRegs s₀).run (cs ++ [w, x]) = (((mmioRegs s₀).run cs).step w).step x := by
    rw [Machine.run_append]
    rfl
  have hbad : ((mmioRegs s₀).run (cs ++ [w, x])).bad_op_or_align_q
      = (((mmioRegs s₀).run cs).step w).bad_op_or_align_d := by
    rw [hrun]
    change (if w.reset then false else _) = _
    rw [hreset, if_neg (by decide)]
  have hnot : ((mmioRegs s₀).run (cs ++ [w, x])).addr_not_implemented_q = true ↔ w.NotImplemented := by
    rw [hrun]
    exact MmioRegs.not_implemented_step _
  constructor
  · rw [hbad, MmioRegs.bad_op_step _ hw, ← Bool.not_eq_true _, hnot]
  · rw [hbad, hnot]
    intro herr
    refine error_iff h₀ hcs hreset hw x ?_
    rw [Machine.run_concat]
    exact herr

/-- **The registers are a store of bytes but for the two slips.**  For every sequence of cycles after
reset, a read of a byte of the slot registers, the control registers and the scratch pad returns what was
accepted last for it exactly when the byte is `ByteKept`, and a write that is answered with an error changes
no register exactly when it brings no new data to the register at `0x80`. -/
theorem mmio_byte_store (s₀ : MmioRegs) (h₀ : s₀.reset_q = true) (cs : List MmioIn)
    (hcs : ∀ c ∈ cs, c.reset = false) (c x : MmioIn) (hreset : c.reset = false) :
    (c.IsRead → ((mmioRegs s₀).run (cs ++ [c, x])).final_rdata_vld_q = true ∧
      ∀ b, InStore b → c.addr / 8 = b / 8 →
        (field ((mmioRegs s₀).run (cs ++ [c, x])).final_rdata_q (8 * (b % 8)) 8 = lastAccepted cs b
          ↔ ByteKept cs b)) ∧
    (c.IsWrite → WriteAnswered s₀ cs c x) := by
  refine ⟨fun hc => ⟨?_, fun b hb hrow => read_iff h₀ hcs hc hb hrow x⟩,
    fun hw => answered h₀ hcs hreset hw x⟩
  rw [Machine.run_append]
  exact MmioRegs.do_read_step _ hc

/-! ## The slips -/

/-- A cycle without a strobe, at address zero. -/
def idleIn : MmioIn where
  reset := false
  mmio_addr := 0
  mmio_wdata := 0
  mmio_wr_1B := false
  mmio_wr_2B := false
  mmio_wr_4B := false
  mmio_wr_8B := false
  mmio_rd := false
  mmio_in_captured_errors := 0
  mmio_in_status := 0
  mmio_ery_data_out := 0
  mmio_in_intrp_is_pending := false
  aurora_status := 0
  latency_cycle_counter := 0
  flit_tx_pulse := false
  flit_rx_pulse_cmd := false
  flit_rx_pulse_data := false

/-- The reset has been latched; what the registers hold is lost in the next cycle. -/
def resetRegs : MmioRegs where
  addr_q := 0
  wdata_q := 0
  wr_1B_q := false
  wr_2B_q := false
  wr_4B_q := false
  wr_8B_q := false
  rd_q := false
  reset_q := true
  bad_op_or_align_q := false
  addr_not_implemented_q := false
  reg _ := 0
  scratch_ary _ _ := 0
  final_rdata_q := 0
  final_rdata_vld_q := false

def write1B (addr : BitVec 20) (data : BitVec 64) : MmioIn :=
  { idleIn with mmio_addr := addr, mmio_wdata := data, mmio_wr_1B := true }

def write8B (addr : BitVec 20) (data : BitVec 64) : MmioIn :=
  { idleIn with mmio_addr := addr, mmio_wdata := data, mmio_wr_8B := true }

def readAt (addr : BitVec 20) : MmioIn := { idleIn with mmio_addr := addr, mmio_rd := true }

theorem mmio_byte_store_read :
    ((readAt 0x200).IsRead → ((mmioRegs resetRegs).run ([write1B 0x201 0x4200] ++
        [readAt 0x200, idleIn])).final_rdata_vld_q = true ∧
      ∀ b, InStore b → (readAt 0x200).addr / 8 = b / 8 →
        (field ((mmioRegs resetRegs).run ([write1B 0x201 0x4200] ++
            [readAt 0x200, idleIn])).final_rdata_q (8 * (b % 8)) 8
              = lastAccepted [write1B 0x201 0x4200] b
          ↔ ByteKept [write1B 0x201 0x4200] b)) ∧
    ((readAt 0x200).IsWrite → WriteAnswered resetRegs [write1B 0x201 0x4200] (readAt 0x200) idleIn) :=
  mmio_byte_store resetRegs rfl _ (by decide) _ _ rfl

/-- One cycle after it was written, the lowest byte of a row of the scratch pad is that of the byte above,
and a write to the register at `0x80` is answered as not implemented and carried out. -/
theorem mmio_slips :
    (field ((mmioRegs resetRegs).run ([write1B 0x200 0x42, idleIn] ++
        [readAt 0x200, idleIn])).final_rdata_q 0 8 = 0xFF ∧
      lastAccepted [write1B 0x200 0x42, idleIn] 0x200 = 0x42) ∧
    ((mmioRegs resetRegs).run [write8B 0x80 1, idleIn]).addr_not_implemented_q = true ∧
    ¬ ((mmioRegs resetRegs).run [write8B 0x80 1]).Unchanged idleIn := by
  refine ⟨by decide +kernel, by decide +kernel, fun h => ?_⟩
  have hreg : (((mmioRegs resetRegs).run [write8B 0x80 1]).step idleIn).reg .reg_00080
      ≠ (((mmioRegs resetRegs).run [write8B 0x80 1]).idle.step idleIn).reg .reg_00080 := by
    decide +kernel
  exact hreg (congrFun h.1 .reg_00080)

end ThymesisFlow
