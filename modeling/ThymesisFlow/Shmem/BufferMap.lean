import ThymesisFlow.Lib.Pages
import ThymesisFlow.Shmem.Init

/-!
# Mapping a buffer on a compute node

`tf_buffer_map` of `tf_shmem.c` over `mmap` of the driver in `tfshmem_ops.c`.  The offset of the buffer in
the pool is an unsigned difference, which goes through `mmap` as a page number; the driver adds the page
of the OpenCAPI window.  Neither side looks at `pool_size`.

The kernel is a parameter.  What the code relies on is in its fields: `mmap` takes offsets that are
multiples of the page size, and rounds lengths up to whole pages.
-/

namespace ThymesisFlow

def OCAPI_PHY_BASE : BitVec 64 := 0x2000000000000

/-- What the driver reads of a `struct vm_area_struct`. -/
structure VmArea where
  vm_start : BitVec 64
  vm_end : BitVec 64
  vm_pgoff : BitVec 64
  deriving DecidableEq, Repr

/-- What the kernel decides during one call. -/
structure Kernel where
  PAGE_SHIFT : ℕ
  base_aligned : PageAligned PAGE_SHIFT OCAPI_PHY_BASE
  /-- `open("/dev/tfshmem")` succeeds. -/
  opens : Bool
  /-- The area that `mmap` hands to the driver for a size and an offset, unless it fails before. -/
  mmap : BitVec 64 → BitVec 64 → Option VmArea
  offset_aligned : ∀ size offset vma, mmap size offset = some vma → PageAligned PAGE_SHIFT offset
  pgoff_eq : ∀ size offset vma, mmap size offset = some vma →
    vma.vm_pgoff = pageNumber PAGE_SHIFT offset
  length_le : ∀ size offset vma, mmap size offset = some vma →
    size.toNat ≤ (vma.vm_end - vma.vm_start).toNat ∧
      (vma.vm_end - vma.vm_start).toNat < size.toNat + 2 ^ PAGE_SHIFT
  /-- Success for an address, a page number and a size. -/
  remap_pfn_range : BitVec 64 → BitVec 64 → BitVec 64 → Bool
  mlock : BitVec 64 → BitVec 64 → Bool

/-- Physical memory from `start` on. -/
structure PhysRange where
  start : BitVec 64
  size : BitVec 64
  deriving DecidableEq, Repr

namespace Kernel

variable (k : Kernel)

/-- The page number that the driver asks for. -/
def pfn (vma : VmArea) : BitVec 64 := vma.vm_pgoff + pageNumber k.PAGE_SHIFT OCAPI_PHY_BASE

/-- The memory that is mapped, if `remap_pfn_range` succeeds. -/
def tfshmem_mmap (vma : VmArea) : Option PhysRange :=
  let size := vma.vm_end - vma.vm_start
  if k.remap_pfn_range vma.vm_start (k.pfn vma) size then
    some { start := pageAddress k.PAGE_SHIFT (k.pfn vma), size := size }
  else none

/-- The address, -1 if `mmap` fails, and the memory that is mapped there. -/
def buf_map_mmap (offset size : BitVec 64) : BitVec 64 × Option PhysRange :=
  if !k.opens then (0, none)
  else
    match k.mmap size offset with
    | none => (-1, none)
    | some vma =>
        match k.tfshmem_mmap vma with
        | none => (-1, none)
        | some range => (vma.vm_start, some range)

/-- The address, zero for `NULL`, and the memory that is mapped. -/
def tf_buffer_map (s : ShmemState) (ea buffer_size : BitVec 64) : BitVec 64 × Option PhysRange :=
  if ea = 0 then (0, none)
  else if !s.is_initialized then (0, none)
  else if s.memory_node ≠ 0 then (0, none)
  else
    let buf_offset := ea - s.ea
    let (addr, mapped) := k.buf_map_mmap buf_offset buffer_size
    if addr = -1 then (0, mapped)
    else if !k.mlock addr buffer_size then (0, mapped)
    else (addr, mapped)

/-- The device cannot be opened, or `mmap` fails, in the kernel or in the driver. -/
def Refuses (size offset : BitVec 64) : Prop :=
  k.opens = false ∨ ∀ vma, k.mmap size offset = some vma →
    k.remap_pfn_range vma.vm_start (k.pfn vma) (vma.vm_end - vma.vm_start) = false

end Kernel

/-- `[ea, ea + n)` lies in the pool, without wrapping around. -/
def InPool (ea0 pool_size ea n : BitVec 64) : Prop :=
  ea0.toNat ≤ ea.toNat ∧ ea.toNat + n.toNat ≤ ea0.toNat + pool_size.toNat ∧
    ea.toNat + n.toNat < 2 ^ 64

/-- A compute node that has been initialised with `ea0` and `pool_size`. -/
structure ComputeNode (ea0 pool_size : BitVec 64) (s : ShmemState) : Prop where
  memory_node : s.memory_node = 0
  ea : s.ea = ea0
  pool_size : s.pool_size = pool_size

/-- **A call maps a buffer of the pool, or nothing.** -/
structure MapsInPool (k : Kernel) (s : ShmemState) (ea0 pool_size ea n : BitVec 64) : Prop where
  /-- What is mapped starts where the buffer does, has its length up to the end of the last page, and
  belongs to a buffer of the pool. -/
  range : ∀ range, (k.tf_buffer_map s ea n).2 = some range →
    range.start = OCAPI_PHY_BASE + (ea - ea0) ∧ n.toNat ≤ range.size.toNat ∧
      range.size.toNat < n.toNat + 2 ^ k.PAGE_SHIFT ∧ InPool ea0 pool_size ea n
  /-- Anything else is refused. -/
  outside : ¬ InPool ea0 pool_size ea n → k.tf_buffer_map s ea n = (0, none)

/-! ## The node -/

namespace ComputeNode

variable {ea0 pool_size : BitVec 64} {s : ShmemState}

/-- An initialisation that is attempted leads to such a node. -/
lemma of_init (hi : s.is_initialized = false) (ret : BitVec 32) :
    ComputeNode ea0 pool_size (s.step (.tf_compute_init ea0 pool_size ret)) := by
  rw [ShmemState.step, ShmemState.tf_compute_init, hi, if_neg Bool.false_ne_true]
  exact ⟨rfl, rfl, rfl⟩

lemma is_initialized (h : ComputeNode ea0 pool_size s) : s.is_initialized = true := by
  rw [ShmemState.is_initialized_eq_true, h.memory_node]
  decide

/-- It stays one until a teardown succeeds. -/
lemma step (h : ComputeNode ea0 pool_size s) (c : InitCall)
    (hc : ∀ role, s.event c ≠ .teardown role 0) : ComputeNode ea0 pool_size (s.step c) := by
  have hstep := s.initStep c
  generalize s.step c = s', s.event c = e at hstep hc
  cases hstep with
  | refused role hi hf => exact h
  | attached role hi hf hm => exact absurd (h.is_initialized.symm.trans hi) (by decide)
  | attachFailed hi hret => exact h
  | storedAnyway hi hret => exact absurd (h.is_initialized.symm.trans hi) (by decide)
  | notInitialized hi => exact h
  | detachFailed hi => exact h
  | detached hi => exact absurd rfl (hc _)

end ComputeNode

/-! ## One call -/

section Calls

variable {k : Kernel} {s : ShmemState} {ea0 pool_size ea n : BitVec 64}

/-- What the driver maps. -/
lemma tfshmem_mmap_start {vma : VmArea} {range : PhysRange} {size offset : BitVec 64}
    (hvma : k.mmap size offset = some vma) (h : k.tfshmem_mmap vma = some range) :
    range.start = OCAPI_PHY_BASE + offset ∧ size.toNat ≤ range.size.toNat ∧
      range.size.toNat < size.toNat + 2 ^ k.PAGE_SHIFT := by
  rw [Kernel.tfshmem_mmap] at h
  split_ifs at h
  obtain rfl := Option.some.inj h
  refine ⟨?_, k.length_le _ _ _ hvma⟩
  simp only [Kernel.pfn]
  rw [k.pgoff_eq _ _ _ hvma, pageAddress_add (k.offset_aligned _ _ _ hvma) k.base_aligned,
    BitVec.add_comm]

/-- A refusal is seen as `NULL` or as -1. -/
lemma buf_map_mmap_refused {offset size : BitVec 64} (h : k.Refuses size offset) :
    k.buf_map_mmap offset size = (0, none) ∨ k.buf_map_mmap offset size = (-1, none) := by
  rw [Kernel.buf_map_mmap]
  rcases h with ho | hr
  · rw [ho]
    exact .inl rfl
  · split_ifs
    · exact .inl rfl
    · cases hvma : k.mmap size offset with
      | none => exact .inr rfl
      | some vma =>
          have hnone : k.tfshmem_mmap vma = none := by
            rw [Kernel.tfshmem_mmap, hr vma hvma]
            rfl
          exact .inr (by simp only [hnone])

/-- Whatever is not refused is mapped. -/
lemma buf_map_mmap_mapped {offset size : BitVec 64} (h : ¬ k.Refuses size offset) :
    ∃ vma range, k.mmap size offset = some vma ∧ k.tfshmem_mmap vma = some range ∧
      k.buf_map_mmap offset size = (vma.vm_start, some range) := by
  obtain ⟨ho, hr⟩ := not_or.mp h
  obtain ⟨vma, hr⟩ := not_forall.mp hr
  obtain ⟨hvma, hremap⟩ := Classical.not_imp.mp hr
  have hmap : k.tfshmem_mmap vma = some
      { start := pageAddress k.PAGE_SHIFT (k.pfn vma), size := vma.vm_end - vma.vm_start } := by
    rw [Kernel.tfshmem_mmap, (Bool.not_eq_false _).mp hremap]
    rfl
  refine ⟨vma, _, hvma, hmap, ?_⟩
  rw [Kernel.buf_map_mmap, (Bool.not_eq_false _).mp ho]
  simp only [hvma, hmap]
  rfl

/-- Past the checks of the library, the mapping is what `mmap` makes of the offset. -/
lemma tf_buffer_map_mapped (hs : ComputeNode ea0 pool_size s) (hea : ea ≠ 0) :
    (k.tf_buffer_map s ea n).2 = (k.buf_map_mmap (ea - ea0) n).2 := by
  rw [Kernel.tf_buffer_map, if_neg hea, hs.is_initialized, hs.memory_node, hs.ea]
  simp only [Bool.not_true, Bool.false_eq_true, if_false, ne_eq, not_true_eq_false]
  split_ifs <;> rfl

/-- The call returns `NULL` and maps nothing if the kernel refuses. -/
lemma tf_buffer_map_refused (hs : ComputeNode ea0 pool_size s)
    (h : ea = 0 ∨ k.Refuses n (ea - ea0)) : k.tf_buffer_map s ea n = (0, none) := by
  rw [Kernel.tf_buffer_map]
  by_cases hea : ea = 0
  · rw [if_pos hea]
  · rw [if_neg hea, hs.is_initialized, hs.memory_node, hs.ea]
    simp only [Bool.not_true, Bool.false_eq_true, if_false, ne_eq, not_true_eq_false]
    rcases buf_map_mmap_refused (h.resolve_left hea) with heq | heq
    · rw [heq]
      simp
    · rw [heq]
      simp

end Calls

/-- **Buffers are mapped inside the pool** exactly where the buffer lies in the pool, `ea` is `NULL`, or
the kernel refuses the mapping. -/
theorem buffer_map_in_pool_iff (k : Kernel) (s : ShmemState) (ea0 pool_size ea n : BitVec 64)
    (hs : ComputeNode ea0 pool_size s) :
    MapsInPool k s ea0 pool_size ea n ↔
      InPool ea0 pool_size ea n ∨ ea = 0 ∨ k.Refuses n (ea - ea0) := by
  constructor
  · intro h
    by_contra hno
    obtain ⟨hin, hno⟩ := not_or.mp hno
    obtain ⟨hea, href⟩ := not_or.mp hno
    obtain ⟨vma, range, -, -, heq⟩ := buf_map_mmap_mapped href
    have hmapped := tf_buffer_map_mapped (k := k) (n := n) hs hea
    rw [h.outside hin, heq] at hmapped
    exact nomatch hmapped
  · intro h
    by_cases href : ea = 0 ∨ k.Refuses n (ea - ea0)
    · have hnone := tf_buffer_map_refused hs href
      refine ⟨fun range hrange => ?_, fun _ => hnone⟩
      rw [hnone] at hrange
      exact nomatch hrange
    · have hin := h.resolve_right href
      obtain ⟨hea, href⟩ := not_or.mp href
      obtain ⟨vma, range, hvma, hmap, heq⟩ := buf_map_mmap_mapped href
      refine ⟨fun range' hrange => ?_, fun hout => absurd hin hout⟩
      rw [tf_buffer_map_mapped hs hea, heq] at hrange
      obtain rfl := Option.some.inj hrange
      obtain ⟨hstart, hlo, hhi⟩ := tfshmem_mmap_start hvma hmap
      exact ⟨hstart, hlo, hhi, hin⟩

/-! ## Pages of 64 KiB -/

/-- Where `plainKernel` maps. -/
def MAP_ADDRESS : BitVec 64 := 0x7fff00000000

/-- An area for a size up to 1 TiB and an aligned offset, if the offsets of the area do not wrap. -/
def plainMmap (size offset : BitVec 64) : Option VmArea :=
  if size ≠ 0 ∧ size.toNat ≤ 2 ^ 40 ∧ PageAligned 16 offset ∧ offset.toNat + size.toNat < 2 ^ 64 then
    some { vm_start := MAP_ADDRESS, vm_end := MAP_ADDRESS + alignPage size,
           vm_pgoff := pageNumber 16 offset }
  else none

lemma plainMmap_some {size offset : BitVec 64} {vma : VmArea} (h : plainMmap size offset = some vma) :
    (size.toNat ≤ 2 ^ 40 ∧ PageAligned 16 offset) ∧
      vma = { vm_start := MAP_ADDRESS, vm_end := MAP_ADDRESS + alignPage size,
              vm_pgoff := pageNumber 16 offset } := by
  rw [plainMmap] at h
  split_ifs at h with hc
  exact ⟨⟨hc.2.1, hc.2.2.1⟩, (Option.some.inj h).symm⟩

/-- A kernel with pages of 64 KiB on which nothing else fails. -/
def plainKernel : Kernel where
  PAGE_SHIFT := 16
  base_aligned := by decide
  opens := true
  mmap := plainMmap
  offset_aligned size offset vma h := (plainMmap_some h).1.2
  pgoff_eq size offset vma h := by rw [(plainMmap_some h).2]
  length_le size offset vma h := by
    obtain ⟨⟨hsize, -⟩, rfl⟩ := plainMmap_some h
    have hlen : MAP_ADDRESS + alignPage size - MAP_ADDRESS = alignPage size := by
      rw [BitVec.add_comm, BitVec.add_sub_cancel]
    simp only [hlen]
    exact alignPage_bounds size (by omega)
  remap_pfn_range _ _ _ := true
  mlock _ _ := true

/-- A compute node with a pool of 64 KiB. -/
def smallNode : ShmemState :=
  ({} : ShmemState).step (.tf_compute_init 0x700000000000 0x10000 ATTACH_OK)

theorem buffer_map_in_pool_iff_smallNode :
    MapsInPool plainKernel smallNode 0x700000000000 0x10000 0x700000000000 0x8000 ↔
      InPool 0x700000000000 0x10000 0x700000000000 0x8000 ∨ (0x700000000000 : BitVec 64) = 0 ∨
        plainKernel.Refuses 0x8000 (0x700000000000 - 0x700000000000) :=
  buffer_map_in_pool_iff plainKernel smallNode 0x700000000000 0x10000 0x700000000000 0x8000
    (ComputeNode.of_init rfl ATTACH_OK)

/-- **A buffer behind the pool is mapped**: the memory that follows the pool in the window. -/
theorem buffer_behind_pool_mapped :
    plainKernel.tf_buffer_map smallNode 0x700000010000 0x10000
      = (MAP_ADDRESS, some { start := OCAPI_PHY_BASE + 0x10000, size := 0x10000 }) ∧
    ¬ MapsInPool plainKernel smallNode 0x700000000000 0x10000 0x700000010000 0x10000 := by
  have hmap : plainKernel.tf_buffer_map smallNode 0x700000010000 0x10000
      = (MAP_ADDRESS, some { start := OCAPI_PHY_BASE + 0x10000, size := 0x10000 }) := by
    decide
  refine ⟨hmap, fun h => ?_⟩
  obtain ⟨-, -, -, -, hhi, -⟩ := h.range _ (congrArg Prod.snd hmap)
  exact absurd hhi (by decide)

end ThymesisFlow
