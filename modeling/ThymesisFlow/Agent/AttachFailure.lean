import ThymesisFlow.Agent.Handlers

/-!
# Attaches that fail

`attach_memory` and `attach_compute` add the connection to `clist` before they allocate, lock and set
up anything, and none of their error paths takes it out again.  A failed attach leaves no trace only if
it is refused before, for its list of ports.
-/

namespace ThymesisFlow

/-! ## The setup of the AFU -/

def ERR_AFU_OPEN : BitVec 32 := 102

def ERR_AFU_ATTACH : BitVec 32 := 103

def ERR_MMIO_MAP_GLOBAL : BitVec 32 := 104

def ERR_MMIO_MAP_LOCAL : BitVec 32 := 105

def ERR_WRITE_CTRL_REGISTER : BitVec 32 := 106

def ERR_ENABLING_NETWORK : BitVec 32 := 107

def ERR_AURORA_CHAN : BitVec 32 := 109

def ERR_ATTACH_SEG : BitVec 32 := 110

def AURORA_CTRL : ℕ := 0x78

def MEM_SEG0_CONFIG : ℕ := 0x20

/-- Which calls of the OpenCAPI library succeed; `write` is by the register. -/
structure Ocxl where
  afu_open : Bool
  afu_attach : Bool
  map_global : Bool
  map_per_pasid : Bool
  write : ℕ → Bool

def setup_afu_compute (o : Ocxl) : BitVec 32 :=
  if !o.afu_open then ERR_AFU_OPEN
  else if !o.map_global then ERR_MMIO_MAP_GLOBAL
  else if !o.write AURORA_CTRL then ERR_AURORA_CHAN
  else if !o.write MEM_SEG0_CONFIG then ERR_ATTACH_SEG
  else 0

def setup_afu_memory (o : Ocxl) : BitVec 32 :=
  if !o.afu_open then ERR_AFU_OPEN
  else if !o.afu_attach then ERR_AFU_ATTACH
  else if !o.map_global then ERR_MMIO_MAP_GLOBAL
  else if !o.map_per_pasid then ERR_MMIO_MAP_LOCAL
  else if !o.write 0x0 then ERR_WRITE_CTRL_REGISTER
  else if !o.write 0x78 then ERR_ENABLING_NETWORK
  else 0

/-- The calls that the compute side makes. -/
structure Ocxl.ComputeOk (o : Ocxl) : Prop where
  afu_open : o.afu_open = true
  map_global : o.map_global = true
  channel : o.write AURORA_CTRL = true
  segment : o.write MEM_SEG0_CONFIG = true

/-- The calls that the memory side makes. -/
structure Ocxl.MemoryOk (o : Ocxl) : Prop where
  afu_open : o.afu_open = true
  afu_attach : o.afu_attach = true
  map_global : o.map_global = true
  map_per_pasid : o.map_per_pasid = true
  control : o.write 0x0 = true
  network : o.write 0x78 = true

lemma setup_afu_compute_iff (o : Ocxl) : setup_afu_compute o = 0 ↔ o.ComputeOk := by
  constructor
  · intro h
    rw [setup_afu_compute] at h
    split_ifs at h with h1 h2 h3 h4 <;> first | exact absurd h (by decide) | skip
    exact ⟨by simpa using h1, by simpa using h2, by simpa using h3, by simpa using h4⟩
  · rintro ⟨h1, h2, h3, h4⟩
    simp [setup_afu_compute, h1, h2, h3, h4]

lemma setup_afu_memory_iff (o : Ocxl) : setup_afu_memory o = 0 ↔ o.MemoryOk := by
  constructor
  · intro h
    rw [setup_afu_memory] at h
    split_ifs at h with h1 h2 h3 h4 h5 h6 <;> first | exact absurd h (by decide) | skip
    exact ⟨by simpa using h1, by simpa using h2, by simpa using h3, by simpa using h4,
      by simpa using h5, by simpa using h6⟩
  · rintro ⟨h1, h2, h3, h4, h5, h6⟩
    simp [setup_afu_memory, h1, h2, h3, h4, h5, h6]

/-- An error code of the setup. -/
def SetupCode (r : BitVec 32) : Prop := r = 0 ∨ 102 ≤ r.toNat ∧ r.toNat ≤ 110

lemma setup_afu_compute_code (o : Ocxl) : SetupCode (setup_afu_compute o) := by
  rw [setup_afu_compute]
  split_ifs <;> simp [SetupCode, ERR_AFU_OPEN, ERR_MMIO_MAP_GLOBAL, ERR_AURORA_CHAN, ERR_ATTACH_SEG]

lemma setup_afu_memory_code (o : Ocxl) : SetupCode (setup_afu_memory o) := by
  rw [setup_afu_memory]
  split_ifs <;> simp [SetupCode, ERR_AFU_OPEN, ERR_AFU_ATTACH, ERR_MMIO_MAP_GLOBAL,
    ERR_MMIO_MAP_LOCAL, ERR_WRITE_CTRL_REGISTER, ERR_ENABLING_NETWORK]

lemma SetupCode.ne_ok {r : BitVec 32} (h : SetupCode r) : r ≠ ATTACH_OK := by
  rintro rfl
  exact absurd h (by simp [SetupCode, ATTACH_OK])

namespace Platform

/-- The platform with the setup that `setup_afu_memory` makes of the library calls. -/
def onMemory (plat : Platform) (o : Ocxl) : Platform :=
  { plat with setup := setup_afu_memory o, setup_code := setup_afu_memory_code o }

/-- The platform with the setup that `setup_afu_compute` makes of the library calls. -/
def onCompute (plat : Platform) (o : Ocxl) : Platform :=
  { plat with setup := setup_afu_compute o, setup_code := setup_afu_compute_code o }

end Platform

/-! ## What a failed attach leaves -/

/-- If `attach_memory` fails, `clist` is what it was. -/
def MemoryNoTrace (build : Build) (plat : Platform) (node : Node) (circuit_id afu_name : List UInt8)
    (size : BitVec 64) : Prop :=
  (attach_memory build plat node circuit_id afu_name size).2.1 ≠ ATTACH_OK →
    (attach_memory build plat node circuit_id afu_name size).1.clist = node.clist

/-- If `attach_compute` fails, `clist` is what it was. -/
def ComputeNoTrace (build : Build) (plat : Platform) (node : Node)
    (circuit_id afu_name : List UInt8) (ports : List ℕ) (size : BitVec 64) (no_hotplug : BitVec 32) :
    Prop :=
  ∀ r, attach_compute build plat node circuit_id afu_name ports size no_hotplug = some r →
    r.2 ≠ ATTACH_OK → r.1.clist = node.clist

/-- No step of `attach_memory` fails. -/
structure MemorySteps (build : Build) (plat : Platform) (o : Ocxl) : Prop where
  memalign : plat.memalign ≠ none
  mlock : build = .AFU → plat.mlock = true
  setup : build = .AFU → o.MemoryOk

/-- No step of `attach_compute` fails that comes after the check of the ports. -/
structure ComputeSteps (build : Build) (plat : Platform) (o : Ocxl) (ports : List ℕ) (size : BitVec 64)
    (no_hotplug : BitVec 32) : Prop where
  setup : ports.length = 1 → build = .AFU → o.ComputeOk
  hotplug : ports.length = 1 → build = .AFU → no_hotplug = 0 →
    ∀ b ∈ memoryBlocks size, plat.writable b = true ∧ plat.written b = true

variable {plat : Platform} {o : Ocxl} {node : Node} {circuit_id : List UInt8}

/-- A circuit that was not there is linked. -/
lemma add_conn_ne (node : Node) (conn : Connection) (hfresh : registered node.clist conn.circuit = none) :
    (add_conn node.clist conn).1 ≠ node.clist := by
  rw [add_conn_fresh hfresh]
  exact List.cons_ne_self _ _

lemma registered_new_conn {conn : Connection} (hc : conn.circuit_id = circuit_id.take CIRCUIT_ID_SIZE)
    (hfresh : registered node.clist (circuitOf circuit_id) = none) :
    registered node.clist conn.circuit = none := by
  rw [Connection.circuit, hc, circuitOf, List.take_take, Nat.min_self]
  exact hfresh

/-- `attach_memory` links the connection, whatever comes then. -/
lemma attach_memory_clist (build : Build) (plat : Platform) (node : Node)
    (circuit_id afu_name : List UInt8) (size : BitVec 64) :
    (attach_memory build plat node circuit_id afu_name size).1.clist
      = (add_conn node.clist { new_conn circuit_id afu_name size 0 with ea := plat.memalign }).1 := by
  rw [attach_memory]
  cases plat.memalign with
  | none => rfl
  | some ea =>
      cases build with
      | MOCK => rfl
      | AFU =>
          simp only
          split_ifs <;> rfl

lemma attach_memory_ok_iff (build : Build) (node : Node) (circuit_id afu_name : List UInt8) (size : BitVec 64) :
    (attach_memory build (plat.onMemory o) node circuit_id afu_name size).2.1 = ATTACH_OK
      ↔ MemorySteps build plat o := by
  have hone : (1 : BitVec 32) ≠ ATTACH_OK := by decide
  have hcode := (setup_afu_memory_code o).ne_ok
  have hmem : (plat.onMemory o).memalign = plat.memalign := rfl
  simp only [attach_memory, hmem]
  cases hm : plat.memalign with
  | none => exact ⟨fun h => absurd h hone, fun h => absurd hm h.memalign⟩
  | some ea =>
      have hne : plat.memalign ≠ none := by rw [hm]; simp
      cases build with
      | MOCK => exact ⟨fun _ => ⟨hne, by simp, by simp⟩, fun _ => rfl⟩
      | AFU =>
          change (if plat.mlock = false then _ else if setup_afu_memory o ≠ 0 then _ else _
            : Node × BitVec 32 × Option (BitVec 64)).2.1 = _ ↔ _
          split_ifs with hl hs
          · exact ⟨fun h => absurd h hone, fun h => absurd ((h.mlock rfl).symm.trans hl) (by decide)⟩
          · exact ⟨fun h => absurd h hcode,
              fun h => absurd ((setup_afu_memory_iff o).mpr (h.setup rfl)) hs⟩
          · exact ⟨fun _ => ⟨hne, fun _ => eq_true_of_ne_false hl,
              fun _ => (setup_afu_memory_iff o).mp (not_not.mp hs)⟩, fun _ => rfl⟩

lemma memory_no_trace_iff (build : Build) (afu_name : List UInt8) (size : BitVec 64)
    (hfresh : registered node.clist (circuitOf circuit_id) = none) :
    MemoryNoTrace build (plat.onMemory o) node circuit_id afu_name size
      ↔ MemorySteps build plat o := by
  rw [← attach_memory_ok_iff build node circuit_id afu_name size,
    MemoryNoTrace, attach_memory_clist]
  have hne := add_conn_ne node { new_conn circuit_id afu_name size 0 with ea := (plat.onMemory o).memalign }
    (registered_new_conn rfl hfresh)
  exact ⟨fun h => not_not.mp fun hno => hne (h hno), fun h hno => absurd h hno⟩

/-- A state file that cannot be written is the only error of the hotplug. -/
lemma hotplug_error {plat : Platform} {size : BitVec 64} {online : Finset ℕ} {r : Finset ℕ × BitVec 32}
    (h : hotplug_memory_blocks plat size online = some r) : r.2 = ATTACH_OK
      ↔ ∀ b ∈ memoryBlocks size, plat.writable b = true ∧ plat.written b = true := by
  rw [← onlineBlocks_iff plat _ online]
  rw [hotplug_memory_blocks] at h
  rcases hb : onlineBlocks plat (memoryBlocks size) online with ⟨online', ok⟩
  rw [hb] at h
  cases ok with
  | false =>
      obtain rfl := Option.some.inj h
      have hprobe : ERR_PROBE ≠ ATTACH_OK := by decide
      exact ⟨fun h => absurd h hprobe, fun h => absurd h Bool.false_ne_true⟩
  | true =>
      simp only at h
      split_ifs at h
      obtain rfl := Option.some.inj h
      exact ⟨fun _ => rfl, fun _ => rfl⟩

lemma hotplug_of_fail {plat : Platform} {size : BitVec 64} {online : Finset ℕ}
    (h : ¬ ∀ b ∈ memoryBlocks size, plat.writable b = true ∧ plat.written b = true) :
    ∃ r, hotplug_memory_blocks plat size online = some r := by
  rw [← onlineBlocks_iff plat _ online] at h
  rw [hotplug_memory_blocks]
  rcases hb : onlineBlocks plat (memoryBlocks size) online with ⟨online', ok⟩
  rw [hb] at h
  obtain rfl : ok = false := eq_false_of_ne_true h
  exact ⟨_, rfl⟩

lemma compute_no_trace_iff (build : Build) (afu_name : List UInt8) (ports : List ℕ)
    (size : BitVec 64) (no_hotplug : BitVec 32)
    (hfresh : registered node.clist (circuitOf circuit_id) = none) :
    ComputeNoTrace build (plat.onCompute o) node circuit_id afu_name ports size no_hotplug
      ↔ ComputeSteps build plat o ports size no_hotplug := by
  have hne := add_conn_ne node (new_conn circuit_id afu_name size no_hotplug)
    (registered_new_conn rfl hfresh)
  have hcode := (setup_afu_compute_code o).ne_ok
  rw [ComputeNoTrace]
  match ports with
  | [] | _ :: _ :: _ =>
      -- refused for the ports, before the connection is linked
      refine ⟨fun _ => ⟨by simp, by simp⟩, fun _ r hr _ => ?_⟩
      obtain rfl := Option.some.inj hr
      rfl
  | [_] =>
      cases build with
      | MOCK =>
          refine ⟨fun _ => ⟨by simp, by simp⟩, fun _ r hr hno => ?_⟩
          obtain rfl := Option.some.inj hr
          exact absurd rfl hno
      | AFU =>
          rw [attach_compute]
          change (∀ r, (if setup_afu_compute o ≠ 0 then _ else if no_hotplug ≠ 0 then _ else
            (hotplug_memory_blocks (plat.onCompute o) size node.online).map _) = some r → _) ↔ _
          split_ifs with hs hn
          · refine ⟨fun h => absurd (h _ rfl hcode) hne, fun h => ?_⟩
            exact absurd ((setup_afu_compute_iff o).mpr (h.setup rfl rfl)) hs
          · refine ⟨fun _ => ⟨fun _ _ => (setup_afu_compute_iff o).mp (not_not.mp hs),
              fun _ _ h0 => absurd h0 hn⟩, fun _ r hr hno => ?_⟩
            obtain rfl := Option.some.inj hr
            exact absurd rfl hno
          · have hsetup := (setup_afu_compute_iff o).mp (not_not.mp hs)
            refine ⟨fun h => ⟨fun _ _ => hsetup, fun _ _ _ => ?_⟩, fun h r hr hno => ?_⟩
            · by_contra hfail
              -- the files are those of the platform, whatever the setup is
              obtain ⟨q, hq⟩ : ∃ r, hotplug_memory_blocks (plat.onCompute o) size node.online = some r :=
                hotplug_of_fail hfail
              rw [hq] at h
              exact hne (h _ rfl fun hok => hfail ((hotplug_error hq).mp hok))
            · obtain ⟨q, hq, rfl⟩ := Option.map_eq_some_iff.mp hr
              exact absurd ((hotplug_error hq).mpr (h.hotplug rfl rfl (not_not.mp hn))) hno

/-- **A failed attach leaves no trace** exactly when nothing fails behind the insertion: on the memory
side that is never when it fails at all, on the compute side only when the ports are refused. -/
theorem failed_attach_no_trace (build : Build) (plat : Platform) (o : Ocxl) (node : Node)
    (circuit_id afu_name : List UInt8) (ports : List ℕ) (size : BitVec 64) (no_hotplug : BitVec 32)
    (hfresh : registered node.clist (circuitOf circuit_id) = none) :
    (MemoryNoTrace build (plat.onMemory o) node circuit_id afu_name size
      ↔ MemorySteps build plat o) ∧
    (ComputeNoTrace build (plat.onCompute o) node circuit_id afu_name ports size no_hotplug
      ↔ ComputeSteps build plat o ports size no_hotplug) :=
  ⟨memory_no_trace_iff build afu_name size hfresh,
    compute_no_trace_iff build afu_name ports size no_hotplug hfresh⟩

/-- Every call of the library succeeds except for the opening of the AFU. -/
def noAfu : Ocxl := ⟨false, true, true, true, fun _ => true⟩

theorem failed_attach_no_trace_noAfu :
    (MemoryNoTrace .AFU (plainPlatform.onMemory noAfu) {} (ascii ['c']) (ascii ['a']) 0x10000000
      ↔ MemorySteps .AFU plainPlatform noAfu) ∧
    (ComputeNoTrace .AFU (plainPlatform.onCompute noAfu) {} (ascii ['c']) (ascii ['a']) [1] 0x10000000 0
      ↔ ComputeSteps .AFU plainPlatform noAfu [1] 0x10000000 0) :=
  failed_attach_no_trace _ _ _ _ _ _ _ _ _ rfl

/-- The AFU cannot be opened: both attaches fail, and the circuit stays registered, so that a later
detach of it does not report that it is missing. -/
theorem trace_noAfu :
    ¬ MemoryNoTrace .AFU (plainPlatform.onMemory noAfu) {} (ascii ['c']) (ascii ['a']) 0x10000000 ∧
    ¬ ComputeNoTrace .AFU (plainPlatform.onCompute noAfu) {} (ascii ['c']) (ascii ['a']) [1]
        0x10000000 0 ∧
    ((attach_memory .AFU (plainPlatform.onMemory noAfu) {} (ascii ['c']) (ascii ['a']) 0x10000000).2.1,
      (detach_memory (attach_memory .AFU (plainPlatform.onMemory noAfu) {} (ascii ['c']) (ascii ['a'])
        0x10000000).1 (ascii ['c'])).map Prod.snd) = (ERR_AFU_OPEN, some DETACH_OK) := by
  refine ⟨fun h => ?_, fun h => ?_, by decide⟩
  · exact absurd (h (by decide)) (by decide)
  · exact absurd (h _ rfl (by decide)) (by decide)

end ThymesisFlow
