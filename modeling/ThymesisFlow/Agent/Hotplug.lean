import Mathlib.Data.List.Pairwise
import ThymesisFlow.Agent.Registry

/-!
# Memory blocks of several circuits

A compute node that attaches and detaches circuits with hotplug.  The blocks of a circuit are
computed from its size alone, both when it is attached and when it is detached, so all circuits
start at the same block.  `Isolated` says that each circuit has its own blocks and that these are
the ones online.
-/

namespace ThymesisFlow

/-- A request to the handlers of the compute side, with hotplug and on one port. -/
inductive ComputeCall
  | attach_compute (circuit_id afu_name : List UInt8) (port : ℕ) (size : BitVec 64)
  | detach_compute (circuit_id : List UInt8)

/-- The handler's result. -/
def ComputeCall.run (plat : Platform) (node : Node) : ComputeCall → Option (Node × BitVec 32)
  | .attach_compute circuit_id afu_name port size =>
      ThymesisFlow.attach_compute .AFU plat node circuit_id afu_name [port] size 0
  | .detach_compute circuit_id => ThymesisFlow.detach_compute .AFU plat node circuit_id

/-- A compute node with its real AFU. -/
def computeNode : Machine Agent (ComputeCall × Platform) where
  init := {}
  step s i :=
    if s.running then
      match i.1.run i.2 s.node with
      | some (node, _) => { s with node := node }
      | none => { s with running := false }
    else s

/-- **The circuits are isolated**: they own disjoint ranges of blocks, and the blocks that are
online are those of the circuits that are registered. -/
structure Isolated (s : Agent) : Prop where
  running : s.running = true
  disjoint : s.node.clist.Pairwise fun c d => ∀ b ∈ memoryBlocks c.size, b ∉ memoryBlocks d.size
  online : ∀ b, b ∈ s.node.online ↔ ∃ c ∈ s.node.clist, b ∈ memoryBlocks c.size

/-- The calls in question: a circuit id is not registered twice, and all sysfs files can be
written. -/
structure HotplugCall (s : Agent) (i : ComputeCall × Platform) : Prop where
  distinct : ∀ id afu port size, i.1 = .attach_compute id afu port size →
    registered s.node.clist (circuitOf id) = none
  writable : ∀ b, i.2.writable b = true
  written : ∀ b, i.2.written b = true

/-- The condition on a call: a circuit with memory blocks is attached only while no other one has
any, the AFU setup succeeds, and the number of blocks fits an `int`. -/
structure HotplugOk (s : Agent) (i : ComputeCall × Platform) : Prop where
  alone : ∀ id afu port size, i.1 = .attach_compute id afu port size → memoryBlocks size ≠ [] →
    i.2.setup = 0 ∧ counterOverflows size = false ∧
      ∀ c ∈ s.node.clist, memoryBlocks c.size = []

/-! ## The blocks -/

/-- Every circuit with blocks has the first one. -/
lemma first_mem_memoryBlocks {size : BitVec 64} (h : memoryBlocks size ≠ []) :
    INIT_PROBE_ADDR / MEMBLOCK_SIZE ∈ memoryBlocks size := by
  rw [memoryBlocks, ne_eq, List.map_eq_nil_iff, List.range_eq_nil] at h
  exact List.mem_map.mpr ⟨0, List.mem_range.mpr (Nat.pos_of_ne_zero h), by simp⟩

section Blocks

variable {plat : Platform} (hw : ∀ b, plat.writable b = true) (hwr : ∀ b, plat.written b = true)

include hw hwr

lemma onlineBlocks_spec (bs : List ℕ) (online : Finset ℕ) :
    (onlineBlocks plat bs online).2 = true ∧
      ∀ b, b ∈ (onlineBlocks plat bs online).1 ↔ b ∈ online ∨ b ∈ bs := by
  induction bs generalizing online with
  | nil => simp [onlineBlocks]
  | cons a bs ih =>
      rw [onlineBlocks, hw a, hwr a]
      refine ⟨(ih _).1, fun b => ?_⟩
      have := (ih (insert a online)).2 b
      simp only [Bool.and_self, if_true, this, Finset.mem_insert, List.mem_cons]
      tauto

lemma offlineBlocks_spec (bs : List ℕ) (online : Finset ℕ) :
    (offlineBlocks plat bs online).2 = true ∧
      ∀ b, b ∈ (offlineBlocks plat bs online).1 ↔ b ∈ online ∧ b ∉ bs := by
  induction bs generalizing online with
  | nil => simp [offlineBlocks]
  | cons a bs ih =>
      rw [offlineBlocks, hw a, hwr a]
      refine ⟨(ih _).1, fun b => ?_⟩
      have := (ih (online.erase a)).2 b
      simp only [if_true, this, Finset.mem_erase, List.mem_cons]
      tauto

lemma hotplug_spec (size : BitVec 64) (online : Finset ℕ) :
    if counterOverflows size = true then hotplug_memory_blocks plat size online = none
    else ∃ online', hotplug_memory_blocks plat size online = some (online', ATTACH_OK) ∧
      ∀ b, b ∈ online' ↔ b ∈ online ∨ b ∈ memoryBlocks size := by
  obtain ⟨hok, hmem⟩ := onlineBlocks_spec hw hwr (memoryBlocks size) online
  have heq : onlineBlocks plat (memoryBlocks size) online
      = ((onlineBlocks plat (memoryBlocks size) online).1, true) := Prod.ext rfl hok
  rw [hotplug_memory_blocks, heq]
  by_cases hc : counterOverflows size = true
  · simp [hc]
  · simp [hc, hmem]

lemma unplug_spec {size : BitVec 64} (hc : counterOverflows size = false) (online : Finset ℕ) :
    ∃ online', unplug_memory_blocks plat size online = some (online', DETACH_OK) ∧
      ∀ b, b ∈ online' ↔ b ∈ online ∧ b ∉ memoryBlocks size := by
  obtain ⟨hok, hmem⟩ := offlineBlocks_spec hw hwr (memoryBlocks size) online
  have heq : offlineBlocks plat (memoryBlocks size) online
      = ((offlineBlocks plat (memoryBlocks size) online).1, true) := Prod.ext rfl hok
  rw [unplug_memory_blocks, heq]
  simp [hc, hmem]

end Blocks

/-! ## One call -/

/-- All circuits were attached with hotplug, and once. -/
structure Hotplugged (clist : List Connection) : Prop where
  distinct : Distinct clist
  hotplug : ∀ c ∈ clist, c.no_hotplug = 0
  counted : ∀ c ∈ clist, counterOverflows c.size = false

lemma counterOverflows_of_nil {size : BitVec 64} (h : memoryBlocks size = []) :
    counterOverflows size = false := by
  rw [memoryBlocks, List.map_eq_nil_iff, List.range_eq_nil] at h
  rw [counterOverflows, decide_eq_false_iff_not]
  omega

section Calls

variable {s : Agent} {plat : Platform} {id afu : List UInt8} {port : ℕ} {size : BitVec 64}

/-- An attach adds the circuit; its blocks are put online if the AFU setup succeeds. -/
lemma attach_spec (hr : s.running = true)
    (hi : HotplugCall s (.attach_compute id afu port size, plat)) :
    if plat.setup ≠ 0 then
      computeNode.step s (.attach_compute id afu port size, plat)
        = { s with node := ⟨new_conn id afu size 0 :: s.node.clist, s.node.online⟩ }
    else if counterOverflows size = true then
      (computeNode.step s (.attach_compute id afu port size, plat)).running = false
    else ∃ online, computeNode.step s (.attach_compute id afu port size, plat)
        = { s with node := ⟨new_conn id afu size 0 :: s.node.clist, online⟩ } ∧
      ∀ b, b ∈ online ↔ b ∈ s.node.online ∨ b ∈ memoryBlocks size := by
  have hadd : (add_conn s.node.clist (new_conn id afu size 0)).1
      = new_conn id afu size 0 :: s.node.clist :=
    add_conn_fresh ((congrArg _ (circuitOf_take id)).trans (hi.distinct id afu port size rfl))
  have hplug := hotplug_spec hi.writable hi.written size s.node.online
  have hstep : computeNode.step s (.attach_compute id afu port size, plat)
      = match attach_compute .AFU plat s.node id afu [port] size 0 with
        | some (node, _) => { s with node := node }
        | none => { s with running := false } := if_pos hr
  have hzero : ¬ (0 : BitVec 32) ≠ 0 := by decide
  rw [hstep, attach_compute]
  simp only [hadd, if_neg hzero]
  by_cases hs : plat.setup ≠ 0
  · rw [if_pos hs, if_pos hs]
  · rw [if_neg hs, if_neg hs]
    by_cases hc : counterOverflows size = true
    · rw [if_pos hc] at hplug
      simp [hc, hplug]
    · rw [if_neg hc] at hplug
      obtain ⟨online, heq, hmem⟩ := hplug
      rw [if_neg hc]
      exact ⟨online, by rw [heq]; rfl, hmem⟩

lemma pairwise_cons_iff {conn : Connection} {clist : List Connection} (hs : conn.size = size) :
    (conn :: clist).Pairwise (fun c d => ∀ b ∈ memoryBlocks c.size, b ∉ memoryBlocks d.size) ↔
      (memoryBlocks size ≠ [] → ∀ c ∈ clist, memoryBlocks c.size = []) ∧
      clist.Pairwise fun c d => ∀ b ∈ memoryBlocks c.size, b ∉ memoryBlocks d.size := by
  rw [List.pairwise_cons, hs]
  refine and_congr_left fun _ => ⟨fun h hne c hc => ?_, fun h c hc b hb => ?_⟩
  · by_contra hcne
    exact h c hc _ (first_mem_memoryBlocks hne) (first_mem_memoryBlocks hcne)
  · rw [h (List.ne_nil_of_mem hb) c hc]
    simp

/-- An attach keeps the circuits isolated exactly when it meets the condition. -/
lemma attach_isolated_iff (hs : Isolated s)
    (hi : HotplugCall s (.attach_compute id afu port size, plat)) :
    Isolated (computeNode.step s (.attach_compute id afu port size, plat)) ↔
      HotplugOk s (.attach_compute id afu port size, plat) := by
  have hspec := attach_spec hs.running hi
  have hsize : (new_conn id afu size 0).size = size := rfl
  constructor
  · intro h
    refine ⟨fun id' afu' port' size' heq hne => ?_⟩
    obtain ⟨rfl, rfl, rfl, rfl⟩ := ComputeCall.attach_compute.inj heq
    by_cases hsetup : plat.setup ≠ 0
    · -- the circuit is registered, and its blocks are not online
      rw [if_pos hsetup] at hspec
      rw [hspec] at h
      have halone := ((pairwise_cons_iff hsize).mp h.disjoint).1 hne
      have hfirst := (h.online _).mpr ⟨_, List.mem_cons_self, first_mem_memoryBlocks hne⟩
      obtain ⟨c, hc, hb⟩ := (hs.online _).mp hfirst
      rw [halone c hc] at hb
      exact absurd hb (by simp)
    · rw [if_neg hsetup] at hspec
      by_cases hc : counterOverflows size = true
      · rw [if_pos hc] at hspec
        exact absurd (hspec.symm.trans h.running) (by decide)
      · rw [if_neg hc] at hspec
        obtain ⟨online, heq, -⟩ := hspec
        rw [heq] at h
        exact ⟨not_not.mp hsetup, eq_false_of_ne_true hc,
          ((pairwise_cons_iff hsize).mp h.disjoint).1 hne⟩
  · intro hok
    have hok := hok.alone id afu port size rfl
    have hpair := (pairwise_cons_iff hsize).mpr ⟨fun hne => (hok hne).2.2, hs.disjoint⟩
    by_cases hsetup : plat.setup ≠ 0
    · have hnil : memoryBlocks size = [] := by
        by_contra hne
        exact hsetup (hok hne).1
      rw [if_pos hsetup] at hspec
      rw [hspec]
      refine ⟨hs.running, hpair, fun b => ?_⟩
      simp [hs.online b, hnil]
    · have hc : ¬ counterOverflows size = true := by
        by_cases hnil : memoryBlocks size = []
        · rw [counterOverflows_of_nil hnil]
          decide
        · rw [(hok hnil).2.1]
          decide
      rw [if_neg hsetup, if_neg hc] at hspec
      obtain ⟨online, heq, hmem⟩ := hspec
      rw [heq]
      refine ⟨hs.running, hpair, fun b => ?_⟩
      simp only [hmem, hs.online b, List.mem_cons, exists_eq_or_imp, new_conn_size]
      exact or_comm

/-- A detach takes the blocks of its circuit offline, and no others. -/
lemma detach_isolated (hs : Isolated s) (hp : Hotplugged s.node.clist)
    (hi : HotplugCall s (.detach_compute id, plat)) :
    Isolated (computeNode.step s (.detach_compute id, plat)) ∧
      (computeNode.step s (.detach_compute id, plat)).node.clist.Sublist s.node.clist := by
  have hstep : computeNode.step s (.detach_compute id, plat)
      = match detach_compute .AFU plat s.node id with
        | some (node, _) => { s with node := node }
        | none => { s with running := false } := if_pos hs.running
  rw [hstep, detach_compute]
  cases hc : get_conn s.node.clist id with
  | none => exact ⟨hs, List.Sublist.refl _⟩
  | some conn =>
      obtain ⟨hmem, hcirc⟩ := registered_some (show registered s.node.clist (circuitOf id) = _ from hc)
      obtain ⟨online, heq, hon⟩ :=
        unplug_spec hi.writable hi.written (hp.counted conn hmem) s.node.online
      simp only [true_and, hp.hotplug conn hmem, if_true, heq, Option.map_some, del_conn_found hc]
      refine ⟨⟨hs.running, hs.disjoint.sublist List.eraseP_sublist, fun b => ?_⟩,
        List.eraseP_sublist⟩
      have : Std.Symm fun c d : Connection =>
          ∀ b ∈ memoryBlocks c.size, b ∉ memoryBlocks d.size :=
        ⟨fun c d h b hb hb' => h b hb' hb⟩
      rw [hon, hs.online]
      constructor
      · rintro ⟨⟨c, hcm, hb⟩, hnb⟩
        refine ⟨c, (mem_eraseP_iff hp.distinct _).mpr ⟨hcm, fun he => hnb ?_⟩, hb⟩
        have hsame := registered_of_mem hp.distinct hcm
        rw [he, ← hcirc, registered_of_mem hp.distinct hmem] at hsame
        rwa [Option.some.inj hsame]
      · rintro ⟨c, hcm, hb⟩
        obtain ⟨hcm, hne⟩ := (mem_eraseP_iff hp.distinct _).mp hcm
        have hcne : c ≠ conn := by
          rintro rfl
          exact hne hcirc
        exact ⟨⟨c, hcm, hb⟩, hs.disjoint.forall hcm hmem hcne b hb⟩

end Calls

/-! ## Every sequence of calls -/

/-- What the node keeps besides: its circuits are distinct, hotplugged and countable. -/
lemma hotplugged_step {s : Agent} {i : ComputeCall × Platform} (hs : Isolated s)
    (hp : Hotplugged s.node.clist) (hi : HotplugCall s i) (hok : HotplugOk s i) :
    Hotplugged (computeNode.step s i).node.clist := by
  obtain ⟨c, plat⟩ := i
  cases c with
  | attach_compute id afu port size =>
      have hcount : counterOverflows size = false := by
        by_cases hnil : memoryBlocks size = []
        · exact counterOverflows_of_nil hnil
        · exact (hok.alone id afu port size rfl hnil).2.1
      have hfresh : registered s.node.clist (new_conn id afu size 0).circuit = none :=
        (congrArg _ (circuitOf_take id)).trans (hi.distinct id afu port size rfl)
      have hcons : Hotplugged (new_conn id afu size 0 :: s.node.clist) := by
        refine ⟨hp.distinct.cons hfresh, fun c hc => ?_, fun c hc => ?_⟩
        · rcases List.mem_cons.mp hc with rfl | hc
          · rfl
          · exact hp.hotplug c hc
        · rcases List.mem_cons.mp hc with rfl | hc
          · exact hcount
          · exact hp.counted c hc
      have hspec := attach_spec hs.running hi
      rw [if_neg (by rw [hcount]; decide : ¬ counterOverflows size = true)] at hspec
      split_ifs at hspec
      · rw [hspec]
        exact hcons
      · obtain ⟨online, heq, -⟩ := hspec
        rw [heq]
        exact hcons
  | detach_compute id =>
      have hsub := (detach_isolated hs hp hi).2
      exact ⟨(hsub.map _).nodup hp.distinct, fun c hc => hp.hotplug c (hsub.subset hc),
        fun c hc => hp.counted c (hsub.subset hc)⟩

lemma isolated_step_iff {s : Agent} {i : ComputeCall × Platform} (hs : Isolated s)
    (hp : Hotplugged s.node.clist) (hi : HotplugCall s i) :
    Isolated (computeNode.step s i) ↔ HotplugOk s i := by
  obtain ⟨c, plat⟩ := i
  cases c with
  | attach_compute id afu port size => exact attach_isolated_iff hs hi
  | detach_compute id =>
      exact ⟨fun _ => ⟨fun _ _ _ _ heq => nomatch heq⟩, fun _ => (detach_isolated hs hp hi).1⟩

/-- What the agent keeps along the runs in which the circuits stay isolated. -/
lemma hotplugged_run {is : List (ComputeCall × Platform)} (hcall : computeNode.Meets HotplugCall is)
    (hok : computeNode.Meets HotplugOk is) :
    Isolated (computeNode.run is) ∧ Hotplugged (computeNode.run is).node.clist := by
  refine computeNode.invariant (P := fun s => Isolated s ∧ Hotplugged s.node.clist) ?_ ?_ is
    (computeNode.meets_and hcall hok)
  · exact ⟨⟨rfl, .nil, fun b => by simp [computeNode]⟩, List.nodup_nil, by simp [computeNode],
      by simp [computeNode]⟩
  · rintro s i ⟨hs, hp⟩ ⟨hi, hoki⟩
    exact ⟨(isolated_step_iff hs hp hi).mpr hoki, hotplugged_step hs hp hi hoki⟩

/-- **The circuits are isolated after every call** exactly when every call meets the condition. -/
theorem isolated_iff (is : List (ComputeCall × Platform)) (hcall : computeNode.Meets HotplugCall is) :
    (∀ js, js <+: is → Isolated (computeNode.run js)) ↔ computeNode.Meets HotplugOk is := by
  have hinit : Isolated (computeNode.run []) := (@hotplugged_run [] trivial trivial).1
  refine computeNode.forall_prefix_iff hinit (fun is i hpre hi hok hs => ?_) is hcall
  rw [Machine.run_concat]
  exact isolated_step_iff hs (hotplugged_run hpre hok).2 hi

/-! ## Two circuits -/

/-- Circuit `a` has two blocks, and circuit `b` one. -/
def twoCircuits : List (ComputeCall × Platform) :=
  [(.attach_compute (ascii ['a']) (ascii ['x']) 1 0x20000000, plainPlatform),
    (.attach_compute (ascii ['b']) (ascii ['x']) 1 0x10000000, plainPlatform)]

/-- Circuit `a` is attached, detached, and circuit `b` is attached. -/
def oneAfterTheOther : List (ComputeCall × Platform) :=
  [(.attach_compute (ascii ['a']) (ascii ['x']) 1 0x20000000, plainPlatform),
    (.detach_compute (ascii ['a']), plainPlatform),
    (.attach_compute (ascii ['b']) (ascii ['x']) 1 0x10000000, plainPlatform)]

theorem isolated_iff_oneAfterTheOther :
    (∀ js, js <+: oneAfterTheOther → Isolated (computeNode.run js)) ↔
      computeNode.Meets HotplugOk oneAfterTheOther := by
  refine isolated_iff oneAfterTheOther ⟨⟨?_, fun _ => rfl, fun _ => rfl⟩,
    ⟨?_, fun _ => rfl, fun _ => rfl⟩, ⟨?_, fun _ => rfl, fun _ => rfl⟩, trivial⟩
  all_goals
    intro id afu port size heq
    cases heq
  all_goals decide +kernel

/-- **Detaching one circuit takes a block of the other offline.** -/
theorem detach_takes_block_of_other :
    (computeNode.run twoCircuits).node.online = {0x200000, 0x200001} ∧
    (computeNode.run (twoCircuits ++ [(.detach_compute (ascii ['b']), plainPlatform)])).node.clist.map
      (fun c => (c.circuit, memoryBlocks c.size)) = [(ascii ['a'], [0x200000, 0x200001])] ∧
    (computeNode.run (twoCircuits ++ [(.detach_compute (ascii ['b']), plainPlatform)])).node.online
      = {0x200001} ∧
    ¬ Isolated (computeNode.run (twoCircuits ++ [(.detach_compute (ascii ['b']), plainPlatform)])) := by
  have honline : (computeNode.run
      (twoCircuits ++ [(.detach_compute (ascii ['b']), plainPlatform)])).node.online = {0x200001} := by
    decide +kernel
  refine ⟨by decide +kernel, by decide +kernel, honline, fun h => ?_⟩
  have hmem := h.online 0x200000
  rw [honline] at hmem
  have hyes : ∃ c ∈ (computeNode.run
      (twoCircuits ++ [(.detach_compute (ascii ['b']), plainPlatform)])).node.clist,
      0x200000 ∈ memoryBlocks c.size := by decide +kernel
  exact absurd (hmem.mpr hyes) (by decide)

end ThymesisFlow
