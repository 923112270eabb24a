import ThymesisFlow.Agent.Handlers
import ThymesisFlow.Lib.History
import ThymesisFlow.Lib.Machine
import Mathlib.Data.Nat.Bitwise

/-!
# The shared memory pool

`tf_shmem.c` on a memory node, with the allocator of `custom_mm.c` beneath.  The allocator hands
out consecutive pieces of the pool: it rounds a size up to 64 KiB, and never compares its cursor
`next` with the pool.  Neither a teardown nor an initialisation sets `next` back.

The pool itself comes from `attach_memory`.  `PoolSafe` says of a history of initialisations and
buffers that every buffer lies in its pool and apart from the others.
-/

namespace ThymesisFlow

def AFU_NAME : List UInt8 := ascii ['I', 'B', 'M', ',', 'R', 'M', 'E', 'M']

/-- The circuit id of the pool, `"0x1"`. -/
def POOL_CIRCUIT : List UInt8 := ascii ['0', 'x', '1']

/-! ## The allocator -/

/-- The static variables of `custom_mm.c`. -/
structure CustomMm where
  base_address : BitVec 64 := 0
  next : BitVec 64 := 0
  PREALLOC_SIZE : BitVec 64 := 0
  initialized : Bool := false

/-- `ALIGN(size, PAGE_SIZE)`. -/
def alignPage (size : BitVec 64) : BitVec 64 := (size + 0xffff) &&& ~~~0xffff

namespace CustomMm

variable (m : CustomMm)

/-- Where the next buffer starts. -/
def cursor : BitVec 64 := if m.next = 0 then m.base_address else m.next

def custom_malloc (size : BitVec 64) : CustomMm × BitVec 64 :=
  if size = 0 || !m.initialized then (m, 0)
  else ({ m with next := m.cursor + alignPage size }, m.cursor)

def init_custom_mm (base_addr size : BitVec 64) : CustomMm :=
  { m with base_address := base_addr, PREALLOC_SIZE := size, initialized := true }

end CustomMm

/-! ## The library -/

/-- The state of the library: `memory_node` is -1 before initialisation, 0 on a compute node and 1
on a memory node.  It runs until it frees a pointer that was never assigned. -/
structure Shmem where
  ea : BitVec 64 := 0
  pool_size : BitVec 64 := 0
  memory_node : ℤ := -1
  mm : CustomMm := {}
  node : Node := {}
  running : Bool := true

inductive ShmemCall
  | tf_memory_init (pool_size : BitVec 64) (plat : Platform)
  | tf_shmem_teardown (plat : Platform)
  | tf_buffer_alloc (buffer_size : BitVec 64)
  | tf_buffer_free (buf : BitVec 64)

namespace Shmem

variable (build : Build) (s : Shmem)

def tf_memory_init (plat : Platform) (pool_size : BitVec 64) : Shmem × BitVec 32 :=
  if s.memory_node ≠ -1 then (s, -2)
  else
    let (node, ret, ptr) := attach_memory build plat s.node POOL_CIRCUIT AFU_NAME pool_size
    match ptr with
    | some ptr =>
        ({ s with node := node, ea := ptr, pool_size := pool_size,
                  mm := s.mm.init_custom_mm ptr pool_size, memory_node := 1 }, ret)
    | none => ({ s with node := node }, ret)

def tf_shmem_teardown (plat : Platform) : Shmem :=
  if s.memory_node = -1 then s
  else
    match (if s.memory_node ≠ 0 then detach_memory s.node POOL_CIRCUIT
      else detach_compute build plat s.node POOL_CIRCUIT) with
    | none => { s with running := false }
    | some (node, ret) =>
        if ret ≠ DETACH_OK then { s with node := node }
        else { s with node := node, ea := 0, pool_size := 0, memory_node := -1 }

/-- Returns the address, zero for `NULL`. -/
def tf_buffer_alloc (buffer_size : BitVec 64) : Shmem × BitVec 64 :=
  if s.memory_node = -1 then (s, 0)
  else if s.memory_node = 0 then (s, 0)
  else
    let (mm, ptr) := s.mm.custom_malloc buffer_size
    ({ s with mm := mm }, ptr)

/-- One call.  `tf_buffer_free` frees nothing. -/
def step (i : ShmemCall) : Shmem :=
  if s.running then
    match i with
    | .tf_memory_init pool_size plat => (s.tf_memory_init build plat pool_size).1
    | .tf_shmem_teardown plat => s.tf_shmem_teardown build plat
    | .tf_buffer_alloc buffer_size => (s.tf_buffer_alloc buffer_size).1
    | .tf_buffer_free _ => s
  else s

end Shmem

def shmem (build : Build) : Machine Shmem ShmemCall where
  init := {}
  step := Shmem.step build

/-! ## The buffers handed out -/

/-- An initialisation with its pool, or a buffer that is handed out. -/
inductive PoolEvent
  | pool (base size : BitVec 64)
  | buffer (p n : BitVec 64)
  deriving DecidableEq, Repr

/-- What a call is seen to do. -/
def Shmem.events (build : Build) (s : Shmem) (i : ShmemCall) : List PoolEvent :=
  if s.running then
    match i with
    | .tf_memory_init pool_size plat =>
        if (s.tf_memory_init build plat pool_size).2 = ATTACH_OK then
          [.pool (s.tf_memory_init build plat pool_size).1.mm.base_address pool_size]
        else []
    | .tf_buffer_alloc buffer_size =>
        if (s.tf_buffer_alloc buffer_size).2 = 0 then []
        else [.buffer (s.tf_buffer_alloc buffer_size).2 buffer_size]
    | _ => []
  else []

/-- The pool of the last initialisation. -/
def lastPool : List PoolEvent → Option (BitVec 64 × BitVec 64) :=
  List.foldl (fun p e => match e with
    | .pool base size => some (base, size)
    | .buffer _ _ => p) none

/-- The buffers handed out since the last initialisation. -/
def handedOut : List PoolEvent → List (BitVec 64 × BitVec 64) :=
  List.foldl (fun bs e => match e with
    | .pool _ _ => []
    | .buffer p n => bs ++ [(p, n)]) []

/-- `[p, p + n)` and `[q, q + m)` have no byte in common. -/
def Apart (p n q m : BitVec 64) : Prop := p.toNat + n.toNat ≤ q.toNat ∨ q.toNat + m.toNat ≤ p.toNat

/-- **Every buffer lies in the pool and apart from the others** that were handed out since the
pool was initialised. -/
def PoolSafe : List PoolEvent → Prop :=
  Each fun h e => ∀ p n, e = .buffer p n → ∃ base size, lastPool h = some (base, size) ∧
    base.toNat ≤ p.toNat ∧ p.toNat + n.toNat ≤ base.toNat + size.toNat ∧
    ∀ b ∈ handedOut h, Apart b.1 b.2 p n

/-- The condition on a call: a request that reaches the allocator fits between its cursor and the
end of the pool. -/
structure AllocOk (s : Shmem) (i : ShmemCall) : Prop where
  fits : ∀ n, i = .tf_buffer_alloc n → s.running = true → s.memory_node = 1 → n ≠ 0 →
    s.mm.cursor ≠ 0 → s.mm.base_address.toNat ≤ s.mm.cursor.toNat ∧
      s.mm.cursor.toNat + n.toNat ≤ s.mm.base_address.toNat + s.mm.PREALLOC_SIZE.toNat

/-- The memory that `posix_memalign` returns ends below the last 64 KiB of the address space. -/
def ShmemCall.InAddressSpace : ShmemCall → Prop
  | .tf_memory_init pool_size plat =>
      ∀ ea, plat.memalign = some ea → ea.toNat + pool_size.toNat + 0x10000 ≤ 2 ^ 64
  | _ => True

/-! ## Rounding -/

lemma toNat_and_not_page (x : BitVec 64) :
    (x &&& ~~~0xffff).toNat + x.toNat % 0x10000 = x.toNat := by
  have hsplit : (x &&& 0xffff) + (x &&& ~~~0xffff) = x := by
    rw [BitVec.add_eq_or_of_and_eq_zero]
    · ext i hi
      simp only [BitVec.getElem_or, BitVec.getElem_and, BitVec.getElem_not]
      cases x[i] <;> cases (0xffff : BitVec 64)[i] <;> rfl
    · ext i hi
      simp only [BitVec.getElem_and, BitVec.getElem_not, BitVec.getElem_zero]
      cases x[i] <;> cases (0xffff : BitVec 64)[i] <;> rfl
  have hlow : (x &&& 0xffff).toNat = x.toNat % 0x10000 := by
    rw [BitVec.toNat_and]
    exact Nat.and_two_pow_sub_one_eq_mod x.toNat 16
  have hle : (x &&& ~~~0xffff).toNat ≤ x.toNat := by
    rw [BitVec.toNat_and]
    exact Nat.and_le_left
  have hsum := congrArg BitVec.toNat hsplit
  rw [BitVec.toNat_add] at hsum
  have hlt := x.isLt
  omega

/-- A size that does not wrap is rounded up by less than a page. -/
lemma alignPage_bounds (size : BitVec 64) (h : size.toNat + 0x10000 ≤ 2 ^ 64) :
    size.toNat ≤ (alignPage size).toNat ∧ (alignPage size).toNat < size.toNat + 0x10000 := by
  have hadd : (size + 0xffff : BitVec 64).toNat = size.toNat + 0xffff := by
    rw [BitVec.toNat_add]
    exact Nat.mod_eq_of_lt (by simp; omega)
  have hand := toNat_and_not_page (size + 0xffff)
  rw [alignPage]
  omega

/-! ## The calls -/

section Calls

variable {build : Build} {s : Shmem} {i : ShmemCall}

/-- An initialisation sets up the allocator, or leaves all but the connections as it is. -/
lemma tf_memory_init_cases (build : Build) (s : Shmem) (plat : Platform) (pool_size : BitVec 64) :
    (∃ node ea, plat.memalign = some ea ∧ s.memory_node = -1 ∧ s.tf_memory_init build plat pool_size
      = ({ s with node := node, ea := ea, pool_size := pool_size,
                  mm := s.mm.init_custom_mm ea pool_size, memory_node := 1 }, ATTACH_OK)) ∨
    (∃ node, (s.tf_memory_init build plat pool_size).1 = { s with node := node } ∧
      (s.tf_memory_init build plat pool_size).2 ≠ ATTACH_OK) := by
  have hbusy : (-2 : BitVec 32) ≠ ATTACH_OK := by decide
  rw [Shmem.tf_memory_init]
  by_cases hm : s.memory_node = -1
  · rw [if_neg (not_not_intro hm)]
    obtain ⟨node, ⟨ea, hea, heq⟩ | ⟨res, hres, heq⟩⟩ :=
      attach_memory_cases build plat s.node POOL_CIRCUIT AFU_NAME pool_size
    · exact .inl ⟨node, ea, hea, hm, by rw [heq]⟩
    · rw [heq]
      exact .inr ⟨node, rfl, hres⟩
  · rw [if_pos hm]
    exact .inr ⟨s.node, rfl, hbusy⟩

/-- A teardown does not touch the allocator. -/
lemma tf_shmem_teardown_mm (build : Build) (s : Shmem) (plat : Platform) :
    (s.tf_shmem_teardown build plat).mm = s.mm ∧
      ((s.tf_shmem_teardown build plat).memory_node = s.memory_node ∨
        (s.tf_shmem_teardown build plat).memory_node = -1) := by
  rw [Shmem.tf_shmem_teardown]
  split_ifs with hm
  · exact ⟨rfl, .inl rfl⟩
  · split
    · exact ⟨rfl, .inl rfl⟩
    · split_ifs
      · exact ⟨rfl, .inl rfl⟩
      · exact ⟨rfl, .inr rfl⟩
  · split
    · exact ⟨rfl, .inl rfl⟩
    · split_ifs
      · exact ⟨rfl, .inl rfl⟩
      · exact ⟨rfl, .inr rfl⟩

/-- A request that the allocator serves. -/
def Serves (s : Shmem) (n : BitVec 64) : Prop :=
  s.running = true ∧ s.memory_node = 1 ∧ s.mm.initialized = true ∧ n ≠ 0

lemma alloc_serves (build : Build) {n : BitVec 64} (h : Serves s n) :
    s.step build (.tf_buffer_alloc n)
        = { s with mm := { s.mm with next := s.mm.cursor + alignPage n } } ∧
      s.events build (.tf_buffer_alloc n) = if s.mm.cursor = 0 then [] else [.buffer s.mm.cursor n] := by
  obtain ⟨hr, hm, hi, hn⟩ := h
  have halloc : s.tf_buffer_alloc n
      = ({ s with mm := { s.mm with next := s.mm.cursor + alignPage n } }, s.mm.cursor) := by
    rw [Shmem.tf_buffer_alloc, if_neg (by rw [hm]; decide), if_neg (by rw [hm]; decide),
      CustomMm.custom_malloc, if_neg (by simpa [hi] using hn)]
  rw [Shmem.step, Shmem.events, if_pos hr, if_pos hr]
  simp only [halloc]
  exact ⟨trivial, trivial⟩

/-- Any other request is refused. -/
lemma alloc_refused (build : Build) {n : BitVec 64} (h : ¬ Serves s n) (hm : s.memory_node = -1 ∨ s.memory_node = 1) :
    s.step build (.tf_buffer_alloc n) = s ∧ s.events build (.tf_buffer_alloc n) = [] := by
  rw [Shmem.step, Shmem.events]
  by_cases hr : s.running = true
  · have halloc : s.tf_buffer_alloc n = (s, 0) := by
      rw [Shmem.tf_buffer_alloc]
      rcases hm with hm | hm
      · rw [if_pos hm]
      · have hno : (n = 0 || !s.mm.initialized) = true := by
          by_contra hno
          simp only [Bool.or_eq_true, decide_eq_true_eq, Bool.not_eq_true', not_or,
            Bool.not_eq_false] at hno
          exact h ⟨hr, hm, hno.2, hno.1⟩
        rw [if_neg (by rw [hm]; decide), if_neg (by rw [hm]; decide), CustomMm.custom_malloc,
          if_pos hno]
    rw [if_pos hr, if_pos hr]
    simp only [halloc, if_true, and_self]
  · rw [if_neg hr, if_neg hr]
    exact ⟨rfl, rfl⟩

lemma events_teardown (build : Build) (s : Shmem) (plat : Platform) :
    s.events build (.tf_shmem_teardown plat) = [] := by
  rw [Shmem.events.eq_def]
  cases s.running <;> rfl

lemma events_free (build : Build) (s : Shmem) (buf : BitVec 64) :
    s.events build (.tf_buffer_free buf) = [] := by
  rw [Shmem.events.eq_def]
  cases s.running <;> rfl

end Calls

/-! ## The invariant -/

lemma lastPool_concat (h : List PoolEvent) (base size : BitVec 64) :
    lastPool (h ++ [.pool base size]) = some (base, size) := by
  rw [lastPool, List.foldl_append]
  rfl

lemma handedOut_concat_pool (h : List PoolEvent) (base size : BitVec 64) :
    handedOut (h ++ [.pool base size]) = [] := by
  rw [handedOut, List.foldl_append]
  rfl

lemma lastPool_concat_buffer (h : List PoolEvent) (p n : BitVec 64) :
    lastPool (h ++ [.buffer p n]) = lastPool h := by
  rw [lastPool, List.foldl_append]
  rfl

lemma handedOut_concat (h : List PoolEvent) (p n : BitVec 64) :
    handedOut (h ++ [.buffer p n]) = handedOut h ++ [(p, n)] := by
  rw [handedOut, List.foldl_append]
  rfl

/-- On a memory node the allocator has the pool of the last initialisation, and all buffers handed
out since then lie before its cursor. -/
structure PoolInv (s : Shmem) (h : List PoolEvent) : Prop where
  mode : s.memory_node = -1 ∨ s.memory_node = 1
  pool : s.memory_node = 1 → lastPool h = some (s.mm.base_address, s.mm.PREALLOC_SIZE)
  init : s.memory_node = 1 → s.mm.initialized = true
  ends : s.memory_node = 1 →
    s.mm.base_address.toNat + s.mm.PREALLOC_SIZE.toNat + 0x10000 ≤ 2 ^ 64
  below : s.memory_node = 1 → ∀ b ∈ handedOut h, s.mm.next ≠ 0 ∧
    b.1.toNat + b.2.toNat ≤ s.mm.next.toNat

namespace PoolInv

variable {build : Build} {s : Shmem} {i : ShmemCall} {h : List PoolEvent}

lemma nil : PoolInv {} [] where
  mode := .inl rfl
  pool hm := absurd hm (by decide)
  init hm := absurd hm (by decide)
  ends hm := absurd hm (by decide)
  below hm := absurd hm (by decide)

/-- The invariant looks at the mode and the allocator only. -/
lemma congr (hi : PoolInv s h) {s' : Shmem} (hm : s'.memory_node = s.memory_node)
    (hmm : s'.mm = s.mm) : PoolInv s' h := by
  obtain ⟨h1, h2, h3, h4, h5⟩ := hi
  rw [← hm] at h1 h2 h3 h4 h5
  rw [← hmm] at h2 h3 h4 h5
  exact ⟨h1, h2, h3, h4, h5⟩

/-- The cursor moves; the buffers handed out lie below it. -/
lemma move (hi : PoolInv s h) {next : BitVec 64} {h' : List PoolEvent} (hpool : lastPool h' = lastPool h)
    (hbelow : s.memory_node = 1 → ∀ b ∈ handedOut h', next ≠ 0 ∧ b.1.toNat + b.2.toNat ≤ next.toNat) :
    PoolInv { s with mm := { s.mm with next := next } } h' :=
  ⟨hi.mode, fun hm => hpool.trans (hi.pool hm), hi.init, hi.ends, hbelow⟩

/-- A request that fits moves the cursor behind the new buffer. -/
lemma alloc (hi : PoolInv s h) {n : BitVec 64} (hs : Serves s n)
    (hok : AllocOk s (.tf_buffer_alloc n)) :
    PoolInv (s.step build (.tf_buffer_alloc n)) (h ++ s.events build (.tf_buffer_alloc n)) := by
  obtain ⟨hstep, hev⟩ := alloc_serves build hs
  obtain ⟨hr, hm, -, hn⟩ := hs
  rw [hstep, hev]
  by_cases hc : s.mm.cursor = 0
  · -- the pool is at address zero and nothing has been handed out
    have hnext : s.mm.next = 0 := by
      by_contra hne
      rw [CustomMm.cursor, if_neg hne] at hc
      exact hne hc
    have hnone : handedOut h = [] := by
      rw [List.eq_nil_iff_forall_not_mem]
      exact fun b hb => (hi.below hm b hb).1 hnext
    rw [if_pos hc, List.append_nil]
    exact hi.move rfl fun _ b hb => by simp [hnone] at hb
  · obtain ⟨hlo, hhi⟩ := hok.fits n rfl hr hm hn hc
    have hends := hi.ends hm
    have hpos : 0 < n.toNat := Nat.pos_of_ne_zero fun h0 => hn (BitVec.eq_of_toNat_eq h0)
    obtain ⟨hge, hlt⟩ := alignPage_bounds n (by omega)
    have hadd : (s.mm.cursor + alignPage n).toNat = s.mm.cursor.toNat + (alignPage n).toNat := by
      rw [BitVec.toNat_add]
      exact Nat.mod_eq_of_lt (by omega)
    have hne : s.mm.cursor + alignPage n ≠ 0 := by
      intro h0
      have hzero : (s.mm.cursor + alignPage n).toNat = 0 := by rw [h0]; rfl
      omega
    rw [if_neg hc]
    refine hi.move (lastPool_concat_buffer ..) fun _ b hb => ⟨hne, ?_⟩
    rw [handedOut_concat] at hb
    rw [hadd]
    rcases List.mem_append.mp hb with hb | hb
    · obtain ⟨hnext, hle⟩ := hi.below hm b hb
      have hcur : s.mm.cursor = s.mm.next := if_neg hnext
      rw [hcur]
      omega
    · obtain rfl : b = (s.mm.cursor, n) := by simpa using hb
      simp only
      omega

/-- **One call.** -/
lemma step (hi : PoolInv s h) (haddr : i.InAddressSpace) (hok : AllocOk s i) :
    PoolInv (s.step build i) (h ++ s.events build i) := by
  by_cases hr : s.running = true
  · cases i with
    | tf_memory_init pool_size plat =>
        rw [Shmem.step, Shmem.events, if_pos hr, if_pos hr]
        rcases tf_memory_init_cases build s plat pool_size with
          ⟨node, ea, hea, -, heq⟩ | ⟨node, hstate, hret⟩
        · simp only [heq, if_true]
          refine ⟨.inr rfl, fun _ => lastPool_concat _ _ _, fun _ => rfl, fun _ => ?_, fun _ => ?_⟩
          · exact haddr ea hea
          · exact (handedOut_concat_pool h ea pool_size).symm ▸ by simp
        · simp only [hret, if_false, List.append_nil, hstate]
          exact hi.congr rfl rfl
    | tf_shmem_teardown plat =>
        rw [events_teardown, List.append_nil, Shmem.step, if_pos hr]
        obtain ⟨hmm, hm | hm⟩ := tf_shmem_teardown_mm build s plat
        · exact hi.congr hm hmm
        · have hne : (s.tf_shmem_teardown build plat).memory_node ≠ 1 := by rw [hm]; decide
          exact ⟨.inl hm, fun h1 => absurd h1 hne, fun h1 => absurd h1 hne,
            fun h1 => absurd h1 hne, fun h1 => absurd h1 hne⟩
    | tf_buffer_alloc n =>
        by_cases hs : Serves s n
        · exact hi.alloc hs hok
        · obtain ⟨hstep, hev⟩ := alloc_refused build hs hi.mode
          rw [hstep, hev, List.append_nil]
          exact hi
    | tf_buffer_free p =>
        rw [events_free, List.append_nil, Shmem.step.eq_def, if_pos hr]
        exact hi
  · rw [Shmem.step.eq_def, Shmem.events.eq_def, if_neg hr, if_neg hr, List.append_nil]
    exact hi

/-- A call hands out a safe buffer exactly when it meets the condition. -/
lemma safe_iff (hi : PoolInv s h) :
    PoolSafe (h ++ s.events build i) ↔ PoolSafe h ∧ AllocOk s i := by
  have hother (hev : PoolSafe (h ++ s.events build i) ↔ PoolSafe h) (hok : AllocOk s i) :
      PoolSafe (h ++ s.events build i) ↔ PoolSafe h ∧ AllocOk s i := by
    rw [hev]
    exact ⟨fun hp => ⟨hp, hok⟩, And.left⟩
  by_cases hs : ∃ n, i = .tf_buffer_alloc n ∧ Serves s n ∧ s.mm.cursor ≠ 0
  · obtain ⟨n, rfl, hs, hc⟩ := hs
    obtain ⟨-, hev⟩ := alloc_serves build hs
    obtain ⟨hr, hm, -, hn⟩ := hs
    rw [hev, if_neg hc, PoolSafe, each_concat]
    refine and_congr_right fun _ => ⟨fun hnew => ⟨fun n' heq _ _ _ _ => ?_⟩, fun hok p n' heq => ?_⟩
    · obtain rfl := ShmemCall.tf_buffer_alloc.inj heq
      obtain ⟨base, size, hpool, hlo, hhi, -⟩ := hnew _ _ rfl
      obtain ⟨rfl, rfl⟩ := Prod.mk.inj (Option.some.inj ((hi.pool hm).symm.trans hpool))
      exact ⟨hlo, hhi⟩
    · obtain ⟨rfl, rfl⟩ := PoolEvent.buffer.inj heq
      obtain ⟨hlo, hhi⟩ := hok.fits _ rfl hr hm hn hc
      refine ⟨_, _, hi.pool hm, hlo, hhi, fun b hb => .inl ?_⟩
      obtain ⟨hnext, hle⟩ := hi.below hm b hb
      have hcur : s.mm.cursor = s.mm.next := if_neg hnext
      rw [hcur]
      exact hle
  · have hok : AllocOk s i := by
      refine ⟨fun n heq hr hm hn hc => absurd ⟨n, heq, ⟨hr, hm, hi.init hm, hn⟩, hc⟩ hs⟩
    refine hother ?_ hok
    by_cases hr : s.running = true
    · cases i with
      | tf_memory_init pool_size plat =>
          rw [Shmem.events, if_pos hr]
          split_ifs with hret
          · rw [PoolSafe, each_concat]
            exact ⟨And.left, fun hp => ⟨hp, fun p n heq => nomatch heq⟩⟩
          · rw [List.append_nil]
      | tf_buffer_alloc n =>
          by_cases hsv : Serves s n
          · have hc : s.mm.cursor = 0 := by
              by_contra hc
              exact hs ⟨n, rfl, hsv, hc⟩
            rw [(alloc_serves build hsv).2, if_pos hc, List.append_nil]
          · rw [(alloc_refused build hsv hi.mode).2, List.append_nil]
      | tf_shmem_teardown plat => rw [events_teardown, List.append_nil]
      | tf_buffer_free p => rw [events_free, List.append_nil]
    · rw [Shmem.events.eq_def, if_neg hr, List.append_nil]

end PoolInv

/-! ## Every sequence of calls -/

lemma reach_pool (build : Build) (is : List ShmemCall) (haddr : ∀ i ∈ is, i.InAddressSpace)
    (hok : (shmem build).Meets AllocOk is) :
    PoolInv ((shmem build).run is) ((shmem build).collect (Shmem.events build) is) := by
  have hcalls := (shmem build).meets_and ((shmem build).meets_of_forall fun _ => haddr) hok
  exact (shmem build).history_invariant PoolInv.nil (fun _ _ _ hi h => hi.step h.1 h.2) is hcalls

/-- **The pool is safe** exactly in the runs in which every request that reaches the allocator
fits into the rest of the pool. -/
theorem pool_safe_iff (build : Build) (is : List ShmemCall) (haddr : ∀ i ∈ is, i.InAddressSpace) :
    PoolSafe ((shmem build).collect (Shmem.events build) is) ↔ (shmem build).Meets AllocOk is := by
  induction is using List.reverseRecOn with
  | nil => exact ⟨fun _ => trivial, fun _ => each_nil⟩
  | append_singleton is i ih =>
      have haddr' : ∀ j ∈ is, j.InAddressSpace := fun j hj => haddr j (by simp [hj])
      rw [Machine.meets_concat, Machine.collect_concat, ← ih haddr']
      constructor
      · intro hsafe
        have hinv := reach_pool build is haddr' ((ih haddr').mp (Each.left hsafe))
        exact hinv.safe_iff.mp hsafe
      · rintro ⟨hpre, hok⟩
        have hinv := reach_pool build is haddr' ((ih haddr').mp hpre)
        exact hinv.safe_iff.mpr ⟨hpre, hok⟩

/-! ## A pool of two pages -/

/-- A platform with memory at `ea` on which everything succeeds. -/
def platformAt (ea : BitVec 64) : Platform where
  memalign := some ea
  mlock := true
  setup := 0
  setup_code := plainPlatform.setup_code
  writable _ := true
  written _ := true
  fresh _ := 0
  effective_address := 0

/-- A pool of 128 KiB, and two buffers that fill it. -/
def fillPool : List ShmemCall :=
  [.tf_memory_init 0x20000 (platformAt 0x700000000000), .tf_buffer_alloc 0x10000,
    .tf_buffer_alloc 100]

theorem pool_safe_iff_fillPool :
    PoolSafe ((shmem .AFU).collect (Shmem.events .AFU) fillPool) ↔
      (shmem .AFU).Meets AllocOk fillPool :=
  pool_safe_iff .AFU fillPool (by
    simp only [fillPool, List.mem_cons, List.not_mem_nil, or_false]
    rintro i (rfl | rfl | rfl)
    · rintro ea h
      obtain rfl : (0x700000000000 : BitVec 64) = ea := Option.some.inj h
      decide
    · trivial
    · trivial)

/-- **The third buffer lies behind the pool.** -/
theorem pool_overrun :
    (shmem .AFU).collect (Shmem.events .AFU) (fillPool ++ [.tf_buffer_alloc 1])
      = [.pool 0x700000000000 0x20000, .buffer 0x700000000000 0x10000,
          .buffer 0x700000010000 100, .buffer 0x700000020000 1] ∧
    ¬ PoolSafe ((shmem .AFU).collect (Shmem.events .AFU) (fillPool ++ [.tf_buffer_alloc 1])) := by
  have hev : (shmem .AFU).collect (Shmem.events .AFU) (fillPool ++ [.tf_buffer_alloc 1])
      = [.pool 0x700000000000 0x20000, .buffer 0x700000000000 0x10000,
          .buffer 0x700000010000 100, .buffer 0x700000020000 1] := by decide +kernel
  refine ⟨hev, fun hsafe => ?_⟩
  rw [hev] at hsafe
  obtain ⟨base, size, hpool, -, hhi, -⟩ := hsafe
    [.pool 0x700000000000 0x20000, .buffer 0x700000000000 0x10000, .buffer 0x700000010000 100]
    (.buffer 0x700000020000 1) [] rfl 0x700000020000 1 rfl
  obtain ⟨rfl, rfl⟩ : (0x700000000000 : BitVec 64) = base ∧ (0x20000 : BitVec 64) = size :=
    Prod.mk.inj (Option.some.inj hpool)
  exact absurd hhi (by decide)

end ThymesisFlow
