import ThymesisFlow.Afu.Monitor

/-!
# The MMIO space as a server

What the MMIO space of the compute AFU is for: it takes the MMIO commands in order, answers each once,
and keeps the bytes of the slot registers, the control registers and the scratch pad.  A write is carried
out exactly when it is answered with success.  One slip is part of it: the lowest byte of a row of the
scratch pad reads as the one above it, since there is always a cycle between two commands in which the
row is not addressed.

`MmioServer` is that server.  `Settles` says that the registers hold its bytes after the next clock edge.
-/

namespace ThymesisFlow

/-! ## Commands -/

namespace HostCmd

/-- A command in the MMIO space. -/
def isMmio (cfg : AcsConfig) (c : HostCmd) : Bool := c.startMmioWrite cfg || c.startMmioRead cfg

def mmioAddr (c : HostCmd) : ℕ := (field c.pa 0 20).toNat

/-- The number of bytes; the other lengths are illegal. -/
def mmioSize (c : HostCmd) : Option ℕ :=
  if c.pl = 0b000 then some 1 else if c.pl = 0b001 then some 2 else if c.pl = 0b010 then some 4
  else if c.pl = 0b011 then some 8 else none

/-- The address is one of those that are answered as not implemented. -/
def MmioHole (c : HostCmd) : Prop :=
  0x00080 ≤ c.mmioAddr ∧ c.mmioAddr < 0x00100 ∨ 0x00120 ≤ c.mmioAddr ∧ c.mmioAddr < 0x00200 ∨
    0x00300 ≤ c.mmioAddr ∧ c.mmioAddr < 0x80000 ∨ 0x80020 ≤ c.mmioAddr

instance (c : HostCmd) : Decidable c.MmioHole := by unfold MmioHole; infer_instance

/-- The error that a write is answered with. -/
def writeError (c : HostCmd) (d : DataFlit) : Option (BitVec 4) :=
  if bit d 512 then some 0x8
  else if c.MmioHole then some 0xE
  else match c.mmioSize with
    | none => some 0x9
    | some n => if c.mmioAddr % n = 0 then none else some 0xB

/-- The error that a read is answered with. -/
def readError (c : HostCmd) : Option (BitVec 4) :=
  if c.MmioHole then some 0xE else if c.mmioSize = none then some 0x9 else none

/-- The bytes that a write is for. -/
def Covers (c : HostCmd) (b : ℕ) : Prop := ∃ n ∈ c.mmioSize, c.mmioAddr ≤ b ∧ b < c.mmioAddr + n

instance (c : HostCmd) (b : ℕ) : Decidable (c.Covers b) :=
  match h : c.mmioSize with
  | none => .isFalse (by rintro ⟨n, hn, -⟩; simp [h] at hn)
  | some n => decidable_of_iff (c.mmioAddr ≤ b ∧ b < c.mmioAddr + n) (by simp [Covers, h])

end HostCmd

/-! ## The server -/

instance : DecidablePred InStore := fun _ => inferInstanceAs (Decidable (_ ∨ _ ∨ _))

instance : DecidablePred LowByte := fun _ => inferInstanceAs (Decidable (_ ∧ _ ∧ _))

/-- `flit` is the data that has been taken for the oldest command. -/
structure MmioServer where
  waiting : List HostCmd := []
  flit : Option DataFlit := none
  bytes : ℕ → BitVec 8 := resetByte

/-- A command arrives, data is taken, the oldest command is answered.  `other` is what the answer shows
where nothing is promised about it. -/
inductive MmioEvent
  | cmd (c : HostCmd)
  | data (d : DataFlit)
  | answer (other : BitVec 64)

/-- The bytes after a write: byte `b` is byte `b % 64` of the flit. -/
def storeBytes (bytes : ℕ → BitVec 8) (c : HostCmd) (d : DataFlit) (b : ℕ) : BitVec 8 :=
  if c.writeError d = none ∧ c.Covers b then field d (8 * (b % 64)) 8 else bytes b

/-- What is read from byte `b`. -/
def loadByte (bytes : ℕ → BitVec 8) (b : ℕ) : BitVec 8 :=
  if LowByte b then bytes (b + 1) else bytes b

def loadRow (bytes : ℕ → BitVec 8) (row : ℕ) : BitVec 64 :=
  setBytes (fun _ => true) (fun k => loadByte bytes (8 * row + k)) 8 0

/-- The eight bytes that a read shows. -/
def readData (bytes : ℕ → BitVec 8) (c : HostCmd) (other : BitVec 64) : BitVec 64 :=
  if c.readError = none ∧ InStore c.mmioAddr then loadRow bytes (c.mmioAddr / 8) else other

def writeAnswer (c : HostCmd) (d : DataFlit) : RespDrive where
  resp_valid := true
  resp_opcode := if c.writeError d = none then 0x04 else 0x05
  resp_dl := 0b01
  resp_dp := 0b00
  resp_capptag := c.capptag
  resp_code := (c.writeError d).getD 0
  rdata_valid := false
  rdata_bus := 0
  rdata_bdi := false

def readAnswer (bytes : ℕ → BitVec 8) (c : HostCmd) (other : BitVec 64) : RespDrive where
  resp_valid := true
  resp_opcode := if c.readError = none then 0x01 else 0x02
  resp_dl := 0b01
  resp_dp := 0b00
  resp_capptag := c.capptag
  resp_code := c.readError.getD 0
  rdata_valid := c.readError = none
  rdata_bus := setField 0 ((field c.pa 3 3).toNat * 64) (readData bytes c other)
  rdata_bdi := false

namespace MmioServer

variable (cfg : AcsConfig)

def step (a : MmioServer) : MmioEvent → MmioServer
  | .cmd c => { a with waiting := a.waiting ++ [c] }
  | .data d => { a with flit := some d }
  | .answer _ =>
      { waiting := a.waiting.tail
        flit := none
        bytes := match a.waiting, a.flit with
          | c :: _, some d => if c.startMmioWrite cfg then storeBytes a.bytes c d else a.bytes
          | _, _ => a.bytes }

/-- What is answered. -/
def answers (a : MmioServer) : MmioEvent → List RespDrive
  | .answer other =>
      match a.waiting, a.flit with
      | c :: _, some d => if c.startMmioWrite cfg then [writeAnswer c d] else []
      | c :: _, none => if c.startMmioRead cfg then [readAnswer a.bytes c other] else []
      | [], _ => []
  | _ => []

end MmioServer

def mmioServer (cfg : AcsConfig) : Machine MmioServer MmioEvent := ⟨{}, MmioServer.step cfg⟩

/-! ## The registers under the server -/

/-- The wires from `SM_MMW` for a write and its data. -/
def writtenMmio (c : HostCmd) (d : DataFlit) : MmioWrite :=
  ⟨field c.pa 0 20, c.pl, mmwData c.pa d, bit d 512⟩

/-- The wires are those of a write of the data. -/
structure MmioIn.IsWriteOf (x : MmioIn) (c : HostCmd) (d : DataFlit) : Prop where
  reset : x.reset = false
  addr : x.addr = c.mmioAddr
  wdata : x.mmio_wdata = mmwData c.pa d
  wr_1B : x.mmio_wr_1B = (!bit d 512 && c.pl == 0b000)
  wr_2B : x.mmio_wr_2B = (!bit d 512 && c.pl == 0b001)
  wr_4B : x.mmio_wr_4B = (!bit d 512 && c.pl == 0b010)
  wr_8B : x.mmio_wr_8B = (!bit d 512 && c.pl == 0b011)
  rd : x.mmio_rd = false

/-- No write strobe is active. -/
structure MmioIn.NoWrite (x : MmioIn) : Prop where
  reset : x.reset = false
  wr_1B : x.mmio_wr_1B = false
  wr_2B : x.mmio_wr_2B = false
  wr_4B : x.mmio_wr_4B = false
  wr_8B : x.mmio_wr_8B = false

namespace MmioIn

variable {x : MmioIn} {c : HostCmd} {d : DataFlit}

lemma IsWriteOf.writeSize (h : x.IsWriteOf c d) :
    x.writeSize = if bit d 512 then none else c.mmioSize := by
  have hpl : ∀ pl : BitVec 3, ∀ bad : Bool, strobeSize (!bad && pl == 0b000) (!bad && pl == 0b001)
      (!bad && pl == 0b010) (!bad && pl == 0b011) false
        = if bad then none else if pl = 0b000 then some 1 else if pl = 0b001 then some 2
          else if pl = 0b010 then some 4 else if pl = 0b011 then some 8 else none := by
    decide
  rw [MmioIn.writeSize, h.wr_1B, h.wr_2B, h.wr_4B, h.wr_8B, h.rd]
  exact hpl c.pl (bit d 512)

lemma NoWrite.writeSize (h : x.NoWrite) : x.writeSize = none := by
  rw [MmioIn.writeSize, h.wr_1B, h.wr_2B, h.wr_4B, h.wr_8B]
  rfl

lemma NoWrite.not_writes (h : x.NoWrite) (b : ℕ) : ¬ x.Writes b := by
  rintro ⟨n, hn, -⟩
  rw [h.writeSize] at hn
  cases hn

end MmioIn

/-- A byte that can be read. -/
def Readable (b : ℕ) : Prop := InStore b ∧ ¬ (0x80 ≤ b ∧ b < 0x88)

lemma readable_row {b b' : ℕ} (hrow : b / 8 = b' / 8) (h : Readable b) : Readable b' := by
  obtain ⟨hin, hout⟩ := h
  rw [InStore] at hin
  refine ⟨?_, ?_⟩
  · rw [InStore]
    omega
  · omega

namespace MmioIn

variable {x : MmioIn} {c : HostCmd} {d : DataFlit}

/-- What is written to a byte that can be read is what the server stores. -/
lemma IsWriteOf.writes_iff (h : x.IsWriteOf c d) {b : ℕ} (hb : Readable b) :
    x.Writes b ↔ c.writeError d = none ∧ c.Covers b := by
  have hhole : x.Writes b → ¬ c.MmioHole := by
    intro hw
    have hrow := hw.row
    rw [h.addr] at hrow
    obtain ⟨hin, hout⟩ := hb
    rw [InStore] at hin
    rw [HostCmd.MmioHole]
    omega
  cases hbad : bit d 512 with
  | true =>
      refine iff_of_false ?_ fun hok => ?_
      · rintro ⟨n, hn, -⟩
        rw [h.writeSize, hbad, if_pos rfl] at hn
        cases hn
      · rw [HostCmd.writeError, hbad, if_pos rfl] at hok
        cases hok.1
  | false =>
      have hsize : x.writeSize = c.mmioSize := by
        rw [h.writeSize, hbad, if_neg Bool.false_ne_true]
      constructor
      · intro hw
        have hno := hhole hw
        obtain ⟨n, hn, hmod, hlo, hhi⟩ := hw
        rw [hsize, Option.mem_def] at hn
        rw [h.addr] at hmod hlo hhi
        refine ⟨?_, n, hn, hlo, hhi⟩
        rw [HostCmd.writeError, hbad, if_neg Bool.false_ne_true, if_neg hno, hn]
        exact if_pos hmod
      · rintro ⟨hok, n, hn, hlo, hhi⟩
        rw [HostCmd.writeError, hbad, if_neg Bool.false_ne_true] at hok
        split_ifs at hok with hno
        rw [Option.mem_def] at hn
        rw [hn] at hok
        refine ⟨n, by rw [hsize]; exact hn, ?_⟩
        rw [h.addr]
        refine ⟨?_, hlo, hhi⟩
        by_contra hmod
        change (if c.mmioAddr % n = 0 then none else some 0xB) = none at hok
        rw [if_neg hmod] at hok
        cases hok

/-- The data for a byte is its byte of the 64 byte line. -/
lemma IsWriteOf.lane_eq (h : x.IsWriteOf c d) {b : ℕ} (hrow : c.mmioAddr / 8 = b / 8) :
    x.lane b = field d (8 * (b % 64)) 8 := by
  have hsel : (field c.pa 3 3).toNat = b / 8 % 8 := by
    rw [← hrow, HostCmd.mmioAddr, field, field, BitVec.extractLsb'_toNat, BitVec.extractLsb'_toNat,
      Nat.shiftRight_eq_div_pow, Nat.shiftRight_eq_div_pow]
    omega
  rw [MmioIn.lane, h.wdata, mmwData, hsel, field_field d (by omega)]
  congr 1
  omega

end MmioIn

namespace MmioRegs

/-- What the registers hold of the bytes after the next clock edge. -/
structure Settles (s : MmioRegs) (bytes : ℕ → BitVec 8) : Prop where
  reg : ∀ r ∈ storeRegs, ∀ k < 8, Readable (r.base + k) → ∀ x,
    field ((s.step x).reg r) (8 * k) 8 = bytes (r.base + k)
  scratch : ∀ g < 32, ∀ k < 8, k ≠ 0 → ∀ x,
    (s.step x).scratch_ary k g = bytes (0x200 + 8 * g + k)

/-- After the next clock edge the lowest byte of each row of the scratch pad is the one above it. -/
def LowLoaded (s : MmioRegs) : Prop :=
  ∀ g < 32, ∀ x, (s.step x).scratch_ary 0 g = (s.step x).scratch_ary 1 g

variable {s : MmioRegs} {bytes bytes' : ℕ → BitVec 8} {c : MmioIn}

/-- **One clock edge.**  The bytes change as the latched operation says. -/
lemma Settles.step (h : s.Settles bytes) (hreset : c.reset = false)
    (hnext : ∀ b, Readable b → bytes' b = if c.Writes b then c.lane b else bytes b) :
    (s.step c).Settles bytes' where
  reg r hr k hk hb x := by
    rw [byte_step s c hr hk hreset x, h.reg r hr k hk hb c, hnext _ hb]
  scratch g hg k hk hlow x := by
    have hb : Readable (0x200 + 8 * g + k) := ⟨.inr (.inr (by omega)), by omega⟩
    rw [scratch_step s c hg hk hreset x, h.scratch g hg k hk hlow c, hnext _ hb, if_neg hlow,
      h.scratch g hg k hk hlow c, ite_self]

lemma Settles.step_noWrite (h : s.Settles bytes) (hc : c.NoWrite) : (s.step c).Settles bytes :=
  h.step hc.reset fun b _ => by rw [if_neg (hc.not_writes b)]

lemma Settles.step_write {w : HostCmd} {d : DataFlit} (h : s.Settles bytes) (hc : c.IsWriteOf w d) :
    (s.step c).Settles (storeBytes bytes w d) := by
  refine h.step hc.reset fun b hb => ?_
  rw [storeBytes]
  by_cases hw : c.Writes b
  · have hrow := hw.row
    rw [hc.addr] at hrow
    rw [if_pos hw, if_pos ((hc.writes_iff hb).mp hw), hc.lane_eq hrow]
  · rw [if_neg hw, if_neg fun hok => hw ((hc.writes_iff hb).mpr hok)]

/-- A cycle in which no row is addressed. -/
lemma lowLoaded_of_away (s : MmioRegs) (hreset : c.reset = false) (haway : c.addr < 0x200) :
    (s.step c).LowLoaded := by
  intro g hg x
  have hlow : ¬ c.Writes (0x200 + 8 * g + 0) := fun hw => by have := hw.row; omega
  have habove : ¬ c.Writes (0x200 + 8 * g + 1) := fun hw => by have := hw.row; omega
  have hrow : ¬ c.addr / 8 = 0x40 + g := by omega
  have h0 := scratch_step s c hg (k := 0) (by decide) hreset x
  have h1 := scratch_step s c hg (k := 1) (by decide) hreset x
  rw [if_neg hlow, if_neg hrow, if_pos rfl] at h0
  rw [if_neg habove, if_neg hrow, if_neg Nat.one_ne_zero] at h1
  exact h0.trans h1.symm

lemma LowLoaded.step_noWrite (h : s.LowLoaded) (hc : c.NoWrite) : (s.step c).LowLoaded := by
  intro g hg x
  have h0 := scratch_step s c hg (k := 0) (by decide) hc.reset x
  have h1 := scratch_step s c hg (k := 1) (by decide) hc.reset x
  rw [if_neg (hc.not_writes _), if_pos rfl, h g hg c, ite_self] at h0
  rw [if_neg (hc.not_writes _), if_neg Nat.one_ne_zero, ite_self] at h1
  exact h0.trans h1.symm

/-! ### What is read -/

/-- A read of a row shows the bytes of the server. -/
lemma Settles.read (h : s.Settles bytes) (hlow : s.LowLoaded) (hc : c.IsRead)
    (hb : Readable c.addr) (x : MmioIn) :
    ((s.step c).step x).final_rdata_q = loadRow bytes (c.addr / 8) := by
  have hrow : ∀ k < 8, Readable (8 * (c.addr / 8) + k) := fun k hk => readable_row (by omega) hb
  refine eq_of_bytes (n := 8) fun k hk => ?_
  have hload : field (loadRow bytes (c.addr / 8)) (8 * k) 8 = loadByte bytes (8 * (c.addr / 8) + k) := by
    rw [loadRow, field_setBytes _ _ _ (by omega)]
    simp [hk]
  refine Eq.trans ?_ hload.symm
  rcases row_cases (hrow k hk).1 with ⟨hlt, r, hr, hbase⟩ | ⟨g, hg, hbg⟩
  · have hbase' : r.base = 8 * (c.addr / 8) := by omega
    have hlb : ¬ LowByte (8 * (c.addr / 8) + k) := fun hl => absurd hl.1 (by omega)
    rw [read_reg s hr hc (by omega) x, loadByte, if_neg hlb, ← hbase']
    exact h.reg r hr k hk (by rw [hbase']; exact hrow k hk) c
  · have hg' : c.addr / 8 = 0x40 + g := by omega
    rw [read_scratch s hg hc hg' x, field_scratchRow _ _ hk, loadByte, hg']
    have haddr : 8 * (0x40 + g) + k = 0x200 + 8 * g + k := by omega
    rw [haddr]
    by_cases hk0 : k = 0
    · subst hk0
      have hl : LowByte (0x200 + 8 * g + 0) := ⟨by omega, by omega, by omega⟩
      rw [if_pos hl, hlow g hg c]
      exact h.scratch g hg 1 (by decide) (by decide) c
    · have hl : ¬ LowByte (0x200 + 8 * g + k) := fun hl => absurd hl.2.2 (by omega)
      rw [if_neg hl]
      exact h.scratch g hg k hk hk0 c

/-- The three flags behind a read. -/
lemma read_flags (s : MmioRegs) (hc : c.IsRead) (hreset : c.reset = false) (x : MmioIn) :
    ((s.step c).step x).final_rdata_vld_q = true
      ∧ ((s.step c).step x).bad_op_or_align_q = false
      ∧ ((s.step c).step x).addr_not_implemented_q = (s.step c).sel_addr_not_implemented := by
  refine ⟨s.do_read_step hc, ?_, rfl⟩
  obtain ⟨hrd, hwr⟩ := hc
  simp only [Bool.or_eq_false_iff] at hwr
  change (if c.reset then false else (decodeOp c.mmio_wr_1B c.mmio_wr_2B c.mmio_wr_4B c.mmio_wr_8B
    c.mmio_rd _).2.2) = false
  rw [hreset, hwr.1.1.1, hwr.1.1.2, hwr.1.2, hwr.2, hrd]
  rfl

end MmioRegs

end ThymesisFlow
