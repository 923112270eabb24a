import ThymesisFlow.Agent.AttachFailure
import ThymesisFlow.Shmem.Pool

/-!
# Initialisation and teardown of the library

The state record of `tf_shmem.c` under the two initialisations and the teardown, with whatever the attach
and detach functions of the other library answer.  `tf_memory_init` returns before it stores anything when
the attach fails.  `tf_compute_init` only changes its answer, and stores the node all the same.

`Established` says of a history who is in charge: the last event that decides is an initialisation that
succeeded.  On success an initialisation answers `ATTACH_OK`.
-/

namespace ThymesisFlow

/-- `struct tf_shmem_state`. -/
structure ShmemState where
  ea : BitVec 64 := 0
  pool_size : BitVec 64 := 0
  memory_node : ℤ := -1
  deriving DecidableEq, Repr

inductive Role
  | compute
  | memory
  deriving DecidableEq, Repr

/-- 0 for the compute node configuration, 1 for the memory node configuration. -/
def Role.memory_node : Role → ℤ
  | .compute => 0
  | .memory => 1

/-- The calls, with what the functions beneath answer. -/
inductive InitCall
  | tf_compute_init (ea pool_size : BitVec 64) (attach_compute : BitVec 32)
  | tf_memory_init (pool_size : BitVec 64) (attach_memory : BitVec 32) (ptr : BitVec 64)
  | tf_shmem_teardown (detach_memory detach_compute : BitVec 32)
  deriving DecidableEq, Repr

/-- A call that is over, with its answer; a teardown with the function that it has called. -/
inductive InitEvent
  | init (role : Role) (answer : BitVec 32)
  | teardown (detached : Option Role) (answer : BitVec 32)
  deriving DecidableEq, Repr

namespace ShmemState

variable (s : ShmemState)

def is_initialized : Bool := s.memory_node ≠ -1

def tf_initialized : Bool := s.is_initialized

def tf_compute_init (ea pool_size : BitVec 64) (attach_compute : BitVec 32) :
    ShmemState × BitVec 32 :=
  if s.is_initialized then (s, -2)
  else
    let ret := if attach_compute ≠ ATTACH_OK then -1 else attach_compute
    ({ ea := ea, pool_size := pool_size, memory_node := 0 }, ret)

def tf_memory_init (pool_size : BitVec 64) (attach_memory : BitVec 32) (ptr : BitVec 64) :
    ShmemState × BitVec 32 :=
  if s.is_initialized then (s, -2)
  else if attach_memory ≠ ATTACH_OK then (s, attach_memory)
  else ({ ea := ptr, pool_size := pool_size, memory_node := 1 }, attach_memory)

/-- Also returns which of the two detach functions has been called. -/
def tf_shmem_teardown (detach_memory detach_compute : BitVec 32) :
    ShmemState × BitVec 32 × Option Role :=
  if !s.is_initialized then (s, 0, none)
  else
    let (ret, role) : BitVec 32 × Role :=
      if s.memory_node ≠ 0 then (detach_memory, .memory) else (detach_compute, .compute)
    if ret ≠ DETACH_OK then (s, -1, some role)
    else ({ ea := 0, pool_size := 0, memory_node := -1 }, 0, some role)

def step : InitCall → ShmemState
  | .tf_compute_init ea pool_size ret => (s.tf_compute_init ea pool_size ret).1
  | .tf_memory_init pool_size ret ptr => (s.tf_memory_init pool_size ret ptr).1
  | .tf_shmem_teardown mem comp => (s.tf_shmem_teardown mem comp).1

def event : InitCall → InitEvent
  | .tf_compute_init ea pool_size ret => .init .compute (s.tf_compute_init ea pool_size ret).2
  | .tf_memory_init pool_size ret ptr => .init .memory (s.tf_memory_init pool_size ret ptr).2
  | .tf_shmem_teardown mem comp =>
      .teardown (s.tf_shmem_teardown mem comp).2.2 (s.tf_shmem_teardown mem comp).2.1

/-- An initialisation that is attempted and whose attach fails. -/
def AttachFails : InitCall → Prop
  | .tf_compute_init _ _ ret => s.is_initialized = false ∧ ret ≠ ATTACH_OK
  | .tf_memory_init _ ret _ => s.is_initialized = false ∧ ret ≠ ATTACH_OK
  | .tf_shmem_teardown _ _ => False

end ShmemState

def shmemInit : Machine ShmemState InitCall where
  init := {}
  step := ShmemState.step

/-- An initialisation that did not answer -2, or a teardown that succeeded. -/
def InitEvent.Decides : InitEvent → Prop
  | .init _ answer => answer ≠ -2
  | .teardown _ answer => answer = 0

/-- The last event that decides is an initialisation in this role, which succeeded. -/
def Established (h : List InitEvent) (role : Role) : Prop :=
  LastIs InitEvent.Decides h (.init role ATTACH_OK)

/-- **Initialisation is atomic** in one step, with the events `x.2` before it. -/
structure InitAtomic (x : ShmemState × List InitEvent) (c : InitCall) : Prop where
  /-- The library is initialised exactly when the last decision was for it. -/
  initialized : (x.1.step c).tf_initialized = true ↔ ∃ role, Established (x.2 ++ [x.1.event c]) role
  /-- An initialisation whose attach fails leaves the state as it was. -/
  unchanged : x.1.AttachFails c → x.1.step c = x.1
  /-- The next initialisation is attempted. -/
  attempted : x.1.AttachFails c → (x.1.step c).tf_initialized = false
  /-- A teardown detaches in the role of the initialisation that succeeded. -/
  role : ∀ role answer, x.1.event c = .teardown (some role) answer → Established x.2 role

/-- The condition on a call: `tf_compute_init` is not attempted with an attach that fails. -/
structure ComputeAttachOk (s : ShmemState) (c : InitCall) : Prop where
  attach : ∀ ea pool_size ret, c = .tf_compute_init ea pool_size ret → s.is_initialized = false →
    ret = ATTACH_OK

/-! ## The functions -/

namespace ShmemState

variable {s : ShmemState}

lemma is_initialized_eq_true : s.is_initialized = true ↔ s.memory_node ≠ -1 := decide_eq_true_iff

lemma is_initialized_eq_false : s.is_initialized = false ↔ s.memory_node = -1 := by
  rw [← Bool.not_eq_true, is_initialized_eq_true, not_not]

/-- What one call does: the state after it and the event. -/
inductive InitStep (s : ShmemState) : InitCall → ShmemState → InitEvent → Prop
  | refused {c : InitCall} (role : Role) (hi : s.is_initialized = true) (hf : ¬ s.AttachFails c) :
      InitStep s c s (.init role (-2))
  | attached {c : InitCall} {s' : ShmemState} (role : Role) (hi : s.is_initialized = false)
      (hf : ¬ s.AttachFails c) (hm : s'.memory_node = role.memory_node) :
      InitStep s c s' (.init role ATTACH_OK)
  | attachFailed {pool_size ptr : BitVec 64} {ret : BitVec 32} (hi : s.is_initialized = false)
      (hret : ret ≠ ATTACH_OK) :
      InitStep s (.tf_memory_init pool_size ret ptr) s (.init .memory ret)
  | storedAnyway {ea pool_size : BitVec 64} {ret : BitVec 32} (hi : s.is_initialized = false)
      (hret : ret ≠ ATTACH_OK) :
      InitStep s (.tf_compute_init ea pool_size ret)
        { ea := ea, pool_size := pool_size, memory_node := 0 } (.init .compute (-1))
  | notInitialized {mem comp : BitVec 32} (hi : s.is_initialized = false) :
      InitStep s (.tf_shmem_teardown mem comp) s (.teardown none 0)
  | detachFailed {mem comp : BitVec 32} (hi : s.is_initialized = true) :
      InitStep s (.tf_shmem_teardown mem comp) s
        (.teardown (some (if s.memory_node ≠ 0 then .memory else .compute)) (-1))
  | detached {mem comp : BitVec 32} (hi : s.is_initialized = true) :
      InitStep s (.tf_shmem_teardown mem comp) {}
        (.teardown (some (if s.memory_node ≠ 0 then .memory else .compute)) 0)

/-- **One call.** -/
theorem initStep (s : ShmemState) (c : InitCall) : InitStep s c (s.step c) (s.event c) := by
  cases c with
  | tf_compute_init ea pool_size ret =>
      simp only [step, event, tf_compute_init]
      cases hi : s.is_initialized with
      | true =>
          rw [if_pos rfl]
          exact .refused .compute hi fun hf => absurd (hi.symm.trans hf.1) (by decide)
      | false =>
          rw [if_neg Bool.false_ne_true]
          by_cases hret : ret = ATTACH_OK
          · subst hret
            rw [if_neg (not_not_intro rfl)]
            exact .attached .compute hi (fun hf => hf.2 rfl) rfl
          · rw [if_pos hret]
            exact .storedAnyway hi hret
  | tf_memory_init pool_size ret ptr =>
      simp only [step, event, tf_memory_init]
      cases hi : s.is_initialized with
      | true =>
          rw [if_pos rfl]
          exact .refused .memory hi fun hf => absurd (hi.symm.trans hf.1) (by decide)
      | false =>
          rw [if_neg Bool.false_ne_true]
          by_cases hret : ret = ATTACH_OK
          · subst hret
            rw [if_neg (not_not_intro rfl)]
            exact .attached .memory hi (fun hf => hf.2 rfl) rfl
          · rw [if_pos hret]
            exact .attachFailed hi hret
  | tf_shmem_teardown mem comp =>
      simp only [step, event, tf_shmem_teardown]
      cases hi : s.is_initialized with
      | false => exact .notInitialized hi
      | true =>
          rw [Bool.not_true, if_neg Bool.false_ne_true]
          by_cases hm : s.memory_node ≠ 0
          · have hrole : (if s.memory_node ≠ 0 then Role.memory else .compute) = .memory := if_pos hm
            rw [if_pos hm, ← hrole]
            by_cases hret : mem ≠ DETACH_OK
            · rw [if_pos hret]
              exact .detachFailed hi
            · rw [if_neg hret]
              exact .detached hi
          · have hrole : (if s.memory_node ≠ 0 then Role.memory else .compute) = .compute := if_neg hm
            rw [if_neg hm, ← hrole]
            by_cases hret : comp ≠ DETACH_OK
            · rw [if_pos hret]
              exact .detachFailed hi
            · rw [if_neg hret]
              exact .detached hi

end ShmemState

/-! ## Who is in charge -/

lemma established_concat (h : List InitEvent) (e : InitEvent) (role : Role) :
    Established (h ++ [e]) role ↔
      (e.Decides ∧ .init role ATTACH_OK = e) ∨ (¬ e.Decides ∧ Established h role) :=
  lastIs_concat h e _

/-- An event that does not decide changes nothing. -/
lemma established_keep {h : List InitEvent} {e : InitEvent} (he : ¬ e.Decides) (role : Role) :
    Established (h ++ [e]) role ↔ Established h role := by
  rw [established_concat]
  simp [he]

/-- An event that decides counts alone. -/
lemma established_decides {h : List InitEvent} {e : InitEvent} (he : e.Decides) (role : Role) :
    Established (h ++ [e]) role ↔ .init role ATTACH_OK = e := by
  rw [established_concat]
  simp [he]

/-- The mode is the role that the history establishes. -/
structure ModeAgrees (s : ShmemState) (h : List InitEvent) : Prop where
  mode : s.is_initialized = true → ∃ role : Role, s.memory_node = role.memory_node
  agrees : ∀ role : Role, Established h role ↔ s.memory_node = role.memory_node

namespace ModeAgrees

variable {s s' : ShmemState} {h : List InitEvent} {c : InitCall} {e : InitEvent}

lemma role_ne (role : Role) : role.memory_node ≠ -1 := by cases role <;> decide

lemma role_inj {role role' : Role} : role.memory_node = role'.memory_node ↔ role = role' := by
  cases role <;> cases role' <;> decide

/-- The library is initialised when somebody is in charge. -/
lemma isSome (hs : ModeAgrees s h) : s.tf_initialized = true ↔ ∃ role, Established h role := by
  constructor
  · intro hi
    obtain ⟨role, hrole⟩ := hs.mode hi
    exact ⟨role, (hs.agrees role).mpr hrole⟩
  · rintro ⟨role, hrole⟩
    rw [ShmemState.tf_initialized, ShmemState.is_initialized_eq_true, (hs.agrees role).mp hrole]
    exact role_ne role

lemma nil : ModeAgrees {} [] where
  mode hi := absurd hi (by decide)
  agrees role := by
    constructor
    · exact fun hest => absurd hest (lastIs_nil _)
    · exact fun hm => absurd hm.symm (role_ne role)

/-- The state after a call without anybody in charge. -/
lemma of_none (hi : s'.is_initialized = false) (hno : ∀ role, ¬ Established h role) :
    ModeAgrees s' h where
  mode hi' := absurd (hi.symm.trans hi') (by decide)
  agrees role := by
    rw [ShmemState.is_initialized_eq_false] at hi
    rw [hi]
    exact iff_of_false (hno role) (role_ne role).symm

/-- Nobody is in charge of a library that is not initialised. -/
lemma none (hs : ModeAgrees s h) (hi : s.is_initialized = false) (role : Role) :
    ¬ Established h role := by
  rw [hs.agrees, ShmemState.is_initialized_eq_false.mp hi]
  exact (role_ne role).symm

/-- **One call** whose attach is fine, if it is one of `tf_compute_init`. -/
lemma step (hs : ModeAgrees s h) (hok : ComputeAttachOk s c) (hstep : s.InitStep c s' e) :
    ModeAgrees s' (h ++ [e]) := by
  cases hstep with
  | refused role hi hf =>
      exact ⟨hs.mode, fun role' => (established_keep (by simp [InitEvent.Decides]) role').trans
        (hs.agrees role')⟩
  | attached role hi hf hm =>
      refine ⟨fun _ => ⟨role, hm⟩, fun role' => ?_⟩
      rw [established_decides (by simp [InitEvent.Decides, ATTACH_OK]), hm, role_inj]
      simp [eq_comm]
  | attachFailed hi hret =>
      refine of_none hi fun role hest => ?_
      rcases (established_concat _ _ _).mp hest with ⟨-, heq⟩ | ⟨-, hest⟩
      · exact hret (InitEvent.init.inj heq).2.symm
      · exact hs.none hi role hest
  | storedAnyway hi hret => exact absurd (hok.attach _ _ _ rfl hi) hret
  | notInitialized hi =>
      refine of_none hi fun role hest => ?_
      cases (established_decides (show InitEvent.Decides (.teardown _ 0) from rfl) role).mp hest
  | detachFailed hi =>
      exact ⟨hs.mode, fun role' => (established_keep (by simp [InitEvent.Decides]) role').trans
        (hs.agrees role')⟩
  | detached hi =>
      refine of_none rfl fun role hest => ?_
      cases (established_decides (show InitEvent.Decides (.teardown _ 0) from rfl) role).mp hest

/-- The role of a teardown. -/
lemma teardown_role (hs : ModeAgrees s h) (hi : s.is_initialized = true) :
    Established h (if s.memory_node ≠ 0 then .memory else .compute) := by
  obtain ⟨role, hrole⟩ := hs.mode hi
  rw [hs.agrees, hrole]
  cases role <;> rfl

/-- **A call is atomic** exactly when it meets the condition. -/
lemma atomic_iff (hs : ModeAgrees s h) (c : InitCall) :
    InitAtomic (s, h) c ↔ ComputeAttachOk s c := by
  have hstep := s.initStep c
  constructor
  · rintro hat
    refine ⟨fun ea pool_size ret heq hi => ?_⟩
    subst heq
    by_contra hret
    have hmode := hat.attempted ⟨hi, hret⟩
    rw [ShmemState.step, ShmemState.tf_compute_init, hi, if_neg Bool.false_ne_true] at hmode
    exact absurd (show true = false from hmode) (by decide)
  · intro hok
    refine ⟨(hs.step hok hstep).isSome, ?_, ?_, ?_⟩
    · intro hf
      generalize s.step c = s', s.event c = e at hstep
      cases hstep with
      | attached role hi hno hm => exact absurd hf hno
      | storedAnyway hi hret => exact absurd (hok.attach _ _ _ rfl hi) hret
      | detached hi => exact hf.elim
      | _ => rfl
    · intro hf
      generalize s.step c = s', s.event c = e at hstep
      cases hstep with
      | refused role hi hno => exact absurd hf hno
      | attached role hi hno hm => exact absurd hf hno
      | attachFailed hi hret => exact hi
      | storedAnyway hi hret => exact absurd (hok.attach _ _ _ rfl hi) hret
      | _ => exact hf.elim
    · intro role answer heq
      simp only at heq ⊢
      rw [heq] at hstep
      generalize s.step c = s' at hstep
      cases hstep with
      | detachFailed hi => exact hs.teardown_role hi
      | detached hi => exact hs.teardown_role hi

end ModeAgrees

/-- **Initialisation is atomic** exactly in the runs in which `tf_compute_init` is never attempted
with an attach that fails. -/
theorem init_atomic_iff (calls : List InitCall) :
    (shmemInit.withHistory fun s c => [s.event c]).Meets InitAtomic calls ↔
      shmemInit.Meets ComputeAttachOk calls :=
  Machine.meets_withHistory_iff shmemInit ModeAgrees.nil
    (fun s _ c hs hok => hs.step hok (s.initStep c)) (fun _ _ c hs => hs.atomic_iff c) calls

/-- **The library counts as initialised** after an initialisation that has failed, and refuses the
next one. -/
theorem compute_init_not_atomic :
    ¬ (shmemInit.withHistory fun s c => [s.event c]).Meets InitAtomic
      [.tf_compute_init 0x700000000000 0x20000 ERR_AFU_OPEN] ∧
    shmemInit.collect (fun s c => [s.event c])
        [.tf_compute_init 0x700000000000 0x20000 ERR_AFU_OPEN,
          .tf_compute_init 0x700000000000 0x20000 ATTACH_OK]
      = [.init .compute (-1), .init .compute (-2)] := by
  refine ⟨?_, by decide⟩
  rintro ⟨hat, -⟩
  exact absurd (hat.attempted ⟨rfl, by decide⟩) (by decide)

/-! ## The library on a memory node

The model of the pool has the attach and detach functions themselves in place of their answers. -/

/-- The state record in the state of the library. -/
def Shmem.state (s : Shmem) : ShmemState where
  ea := s.ea
  pool_size := s.pool_size
  memory_node := s.memory_node

namespace Shmem

variable (build : Build) (s : Shmem)

lemma tf_memory_init_state (plat : Platform) (pool_size : BitVec 64) : ∃ ret ptr,
    (s.tf_memory_init build plat pool_size).1.state = s.state.step (.tf_memory_init pool_size ret ptr) := by
  rcases tf_memory_init_cases build s plat pool_size with ⟨node, ea, -, hm, heq⟩ | ⟨node, heq, hret⟩
  · have hi : s.state.is_initialized = false := ShmemState.is_initialized_eq_false.mpr hm
    refine ⟨ATTACH_OK, ea, ?_⟩
    rw [heq, ShmemState.step, ShmemState.tf_memory_init, hi, if_neg Bool.false_ne_true,
      if_neg (not_not_intro rfl)]
    rfl
  · refine ⟨(s.tf_memory_init build plat pool_size).2, 0, ?_⟩
    rw [heq, ShmemState.step, ShmemState.tf_memory_init, if_pos hret]
    split_ifs <;> rfl

lemma tf_shmem_teardown_state (plat : Platform) : ∃ ret,
    (s.tf_shmem_teardown build plat).state = s.state.step (.tf_shmem_teardown ret ret) := by
  have hkeep (ret : BitVec 32) (h : ret ≠ DETACH_OK) :
      s.state.step (.tf_shmem_teardown ret ret) = s.state := by
    rw [ShmemState.step, ShmemState.tf_shmem_teardown]
    split_ifs <;> simp [h]
  rw [tf_shmem_teardown]
  by_cases hm : s.memory_node = -1
  · have hi : s.state.is_initialized = false := ShmemState.is_initialized_eq_false.mpr hm
    refine ⟨0, ?_⟩
    rw [if_pos hm, hkeep 0 (by decide)]
  · have hi : s.state.is_initialized = true := ShmemState.is_initialized_eq_true.mpr hm
    rw [if_neg hm]
    split
    · exact ⟨0, (hkeep 0 (by decide)).symm⟩
    · rename_i node ret hdetach
      refine ⟨ret, ?_⟩
      by_cases hret : ret ≠ DETACH_OK
      · rw [if_pos hret, hkeep ret hret]
        rfl
      · rw [if_neg hret, ShmemState.step, ShmemState.tf_shmem_teardown, hi, Bool.not_true,
          if_neg Bool.false_ne_true]
        split_ifs <;> simp [hret, Shmem.state]

lemma tf_buffer_alloc_state (n : BitVec 64) : (s.tf_buffer_alloc n).1.state = s.state := by
  rw [tf_buffer_alloc]
  split_ifs <;> rfl

end Shmem

/-- **The state record of the library on a memory node** goes through the states of this module. -/
theorem shmem_state_reached (build : Build) (is : List ShmemCall) :
    ∃ calls, ((shmem build).run is).state = shmemInit.run calls := by
  induction is using List.reverseRecOn with
  | nil => exact ⟨[], rfl⟩
  | append_singleton is i ih =>
      obtain ⟨calls, hcalls⟩ := ih
      have hcall (c : InitCall) (h : ((shmem build).step ((shmem build).run is) i).state
          = ((shmem build).run is).state.step c) :
          ∃ calls, ((shmem build).step ((shmem build).run is) i).state = shmemInit.run calls := by
        refine ⟨calls ++ [c], ?_⟩
        rw [h, hcalls, Machine.run_concat]
        rfl
      rw [Machine.run_concat]
      generalize (shmem build).run is = s at hcalls hcall ⊢
      simp only [shmem, Shmem.step] at hcall ⊢
      split_ifs with hr
      · rw [if_pos hr] at hcall
        cases i with
        | tf_memory_init pool_size plat =>
            obtain ⟨ret, ptr, h⟩ := s.tf_memory_init_state build plat pool_size
            exact hcall _ h
        | tf_shmem_teardown plat =>
            obtain ⟨ret, h⟩ := s.tf_shmem_teardown_state build plat
            exact hcall _ h
        | tf_buffer_alloc n =>
            exact ⟨calls, (s.tf_buffer_alloc_state n).trans hcalls⟩
        | tf_buffer_free p => exact ⟨calls, hcalls⟩
      · exact ⟨calls, hcalls⟩

end ThymesisFlow
