import ThymesisFlow.Afu.FlitCount
import ThymesisFlow.Lib.Stopwatch

/-!
# The latency monitor

`SM_LCOUNT` locks on a command that goes to the network and counts cycles until its capptag is at the head
of the response FIFO.  The register at `0x70` holds the number of measurements in bits 63:37 and the sum
of their cycles below, and is cleared when it is read; `_stats_thread` divides the one by the other.

The purpose is that of a stopwatch: a dispatch starts it, a response header at the head of the FIFO stops it.
`Keeps` relates the two; it is lost where the monitor locks a cycle late, takes something for the response
that is none, or is read while it is locked and does not see it.
-/

namespace ThymesisFlow

/-! ## The statistics thread -/

/-- One pass of `_stats_thread`: the three numbers of a line, unless the division ends the program. -/
def statsLine (tx rx latency : BitVec 64) : Option (BitVec 64 × BitVec 64 × BitVec 64) :=
  if latency >>> 37 = 0 then none
  else some (tx, rx, (((1#64 <<< 37) - 1#64) &&& latency) / (latency >>> 37))

/-! ## What is measured -/

namespace RmemAfu

variable (cfg : RespPortConfig) (s : RmemAfu) (i : RmemAfuIn)

/-- The response header at the head of the response FIFO. -/
def headResp : Option (BitVec 16) :=
  let rff := s.port.rff
  if rff.resp_out_valid && rff.resp_out.resp_valid then some rff.resp_out.resp_capptag else none

/-- A command is dispatched, a response header is at the head of the response FIFO, `0x70` is read. -/
def lapEvent : LapEvent (BitVec 16) where
  start := if s.memDispatched cfg then some s.port.rmem.cff_cmd.capptag else none
  stop := s.headResp
  read := s.reads 0x70

/-- A cycle in which the monitor sees what happens.  It locks in the cycle of the dispatch; a capptag that
it takes for that of the response is that of a valid header; and a read while it is locked finds
nothing to clear. -/
structure Watches : Prop where
  start : s.SM_LCOUNT = .UNLOCKED → s.memStart cfg = true → s.reads 0x70 = false →
    s.memDispatched cfg = true
  stop : s.SM_LCOUNT = .LOCKED → s.port.rff.resp_out.resp_capptag = s.outstanding_capptag →
    s.headResp = some s.outstanding_capptag
  read : s.SM_LCOUNT = .LOCKED → s.reads 0x70 = true → s.prev_latency_cycle_counter = 0

instance : Decidable (s.Watches cfg) :=
  decidable_of_iff ((s.SM_LCOUNT = .UNLOCKED → s.memStart cfg = true → s.reads 0x70 = false →
      s.memDispatched cfg = true) ∧
    (s.SM_LCOUNT = .LOCKED → s.port.rff.resp_out.resp_capptag = s.outstanding_capptag →
      s.headResp = some s.outstanding_capptag) ∧
    (s.SM_LCOUNT = .LOCKED → s.reads 0x70 = true → s.prev_latency_cycle_counter = 0))
    ⟨fun ⟨h1, h2, h3⟩ => ⟨h1, h2, h3⟩, fun h => ⟨h.1, h.2, h.3⟩⟩

end RmemAfu

/-- The events of a run. -/
def lapEvents (cfg : RespPortConfig) (is : List RmemAfuIn) : List (LapEvent (BitVec 16)) :=
  (rmemAfu cfg).collect (fun s _ => [s.lapEvent cfg]) is

/-- The measurements that each read of `0x70` is to report. -/
def latencyReports (cfg : RespPortConfig) (is : List RmemAfuIn) : List (List ℕ) :=
  (stopwatch (BitVec 16)).collect Stopwatch.report (lapEvents cfg is)

/-- The values that the reads of `0x70` return. -/
def latencyReads (cfg : RespPortConfig) (is : List RmemAfuIn) : List (BitVec 64) :=
  (rmemAfu cfg).collect (fun s i => (s.readValue cfg i 0x70).toList) is

/-! ## The register and the stopwatch -/

/-- The number of measurements above the sum of their cycles. -/
def encodeLaps (laps : List ℕ) : BitVec 64 := BitVec.ofNat 27 laps.length ++ BitVec.ofNat 37 laps.sum

lemma count_encodeLaps (laps : List ℕ) : (field (encodeLaps laps) 37 27).toNat = laps.length % 2 ^ 27 := by
  rw [encodeLaps, field_append_left, BitVec.toNat_ofNat]

lemma sum_encodeLaps (laps : List ℕ) : (field (encodeLaps laps) 0 37).toNat = laps.sum % 2 ^ 37 := by
  rw [encodeLaps, field_append_right, BitVec.toNat_ofNat]

/-- What `SM_LCOUNT` does with a measurement. -/
lemma encodeLaps_concat (laps : List ℕ) (n : ℕ) :
    encodeLaps (laps ++ [n + 1])
      = (field (encodeLaps laps) 37 27 + 1)
        ++ (field (encodeLaps laps) 0 37 + BitVec.ofNat 37 n + 1) := by
  rw [encodeLaps, encodeLaps, field_append_left, field_append_right, List.length_append, List.sum_append]
  simp [BitVec.ofNat_add, BitVec.add_assoc]

/-- `SM_LCOUNT` is locked while the stopwatch runs, and the register holds what has not been read. -/
structure Keeps (s : RmemAfu) (w : Stopwatch (BitVec 16)) : Prop where
  running : ∃ n, s.latency_cycle_counter_q = BitVec.ofNat 37 n ∧
    w.running = match s.SM_LCOUNT with
      | .UNLOCKED => none
      | .LOCKED => some (s.outstanding_capptag, n)
  laps : s.prev_latency_cycle_counter = encodeLaps w.laps

namespace Keeps

variable {cfg : RespPortConfig} {s : RmemAfu} {w : Stopwatch (BitVec 16)}

lemma init : Keeps (rmemAfu cfg).init {} := ⟨⟨0, rfl, rfl⟩, rfl⟩

/-- Unlocked, the monitor waits for a dispatch or is cleared. -/
lemma step_unlocked (h : Keeps s w) (hok : s.Watches cfg) (hu : s.SM_LCOUNT = .UNLOCKED) :
    Keeps (s.nextLcount cfg) (w.step (s.lapEvent cfg)) := by
  obtain ⟨n, hn, hw⟩ := h.running
  rw [hu] at hw
  have hlap : w.lap (s.lapEvent cfg) = none := by rw [Stopwatch.lap, hw]
  have hrun : w.nextRunning (s.lapEvent cfg)
      = if s.reads 0x70 then none else (s.lapEvent cfg).start.map fun tag => (tag, 0) := by
    rw [Stopwatch.nextRunning, hw]
    rfl
  rw [RmemAfu.nextLcount, hu]
  change Keeps (if s.memStart cfg && !s.reads 0x70 then _ else if s.reads 0x70 then _ else _)
    ⟨w.nextRunning _, (if s.reads 0x70 then [] else w.laps) ++ (w.lap (s.lapEvent cfg)).toList⟩
  rw [hlap, hrun, Option.toList_none, List.append_nil]
  cases hr : s.reads 0x70 with
  | true =>
      simp only [Bool.not_true, Bool.and_false, Bool.false_eq_true, ↓reduceIte]
      exact ⟨⟨n, hn, rfl⟩, rfl⟩
  | false =>
      simp only [Bool.not_false, Bool.and_true, Bool.false_eq_true, ↓reduceIte]
      cases hm : s.memStart cfg with
      | true =>
          have hd := hok.start hu hm hr
          refine ⟨⟨0, rfl, ?_⟩, h.laps⟩
          simp [RmemAfu.lapEvent, hd]
      | false =>
          have hd : s.memDispatched cfg = false := by rw [RmemAfu.memDispatched, hm, Bool.and_false]
          refine ⟨⟨n, hn, ?_⟩, h.laps⟩
          simp [RmemAfu.lapEvent, hd, hu]

/-- Locked, the monitor counts until the capptag is back. -/
lemma step_locked (h : Keeps s w) (hok : s.Watches cfg) (hl : s.SM_LCOUNT = .LOCKED) :
    Keeps (s.nextLcount cfg) (w.step (s.lapEvent cfg)) := by
  obtain ⟨n, hn, hw⟩ := h.running
  rw [hl] at hw
  have hprev : s.prev_latency_cycle_counter = encodeLaps (if s.reads 0x70 then [] else w.laps) := by
    cases hr : s.reads 0x70 with
    | true =>
        rw [hok.read hl hr, if_pos rfl]
        rfl
    | false => exact h.laps
  have hstop : s.headResp = some s.outstanding_capptag
      ↔ s.port.rff.resp_out.resp_capptag = s.outstanding_capptag := by
    refine ⟨fun hs => ?_, hok.stop hl⟩
    rw [RmemAfu.headResp] at hs
    exact Option.some.inj (Option.ite_none_right_eq_some.mp hs).2
  rw [RmemAfu.nextLcount, hl, Stopwatch.step, Stopwatch.nextRunning, Stopwatch.lap, hw]
  change Keeps _ ⟨if s.headResp = some s.outstanding_capptag then none else _,
    (if s.reads 0x70 then [] else w.laps)
      ++ (if s.headResp = some s.outstanding_capptag then _ else none : Option ℕ).toList⟩
  by_cases htag : s.port.rff.resp_out.resp_capptag = s.outstanding_capptag
  · rw [if_pos (hstop.mpr htag), if_pos (hstop.mpr htag), if_pos htag]
    refine ⟨⟨n, hn, rfl⟩, ?_⟩
    change _ ++ (_ + s.latency_cycle_counter_q + 1) = encodeLaps (_ ++ [n + 1])
    rw [hprev, hn, encodeLaps_concat]
  · rw [if_neg (mt hstop.mp htag), if_neg (mt hstop.mp htag), if_neg htag]
    refine ⟨⟨n + 1, ?_, ?_⟩, ?_⟩
    · change s.latency_cycle_counter_q + 1 = _
      rw [hn, BitVec.ofNat_add]
      rfl
    · rfl
    · rw [Option.toList_none, List.append_nil]
      exact hprev

/-- **One cycle of the monitor is one of the stopwatch.** -/
theorem step (i : RmemAfuIn) (h : Keeps s w) (hok : s.Watches cfg) :
    Keeps (s.step cfg i) (w.step (s.lapEvent cfg)) := by
  cases hl : s.SM_LCOUNT with
  | UNLOCKED => exact ⟨(h.step_unlocked hok hl).running, (h.step_unlocked hok hl).laps⟩
  | LOCKED => exact ⟨(h.step_locked hok hl).running, (h.step_locked hok hl).laps⟩

/-- A read returns what the stopwatch reports. -/
lemma readValue_eq (i : RmemAfuIn) (h : Keeps s w) :
    (s.readValue cfg i 0x70).toList = (w.report (s.lapEvent cfg)).map encodeLaps := by
  rw [RmemAfu.readValue, Stopwatch.report]
  change _ = (if s.reads 0x70 then [w.laps] else []).map encodeLaps
  cases hr : s.reads 0x70 with
  | false => rfl
  | true =>
      obtain ⟨hsel, hrd⟩ := (Bool.and_eq_true _ _).mp hr
      have hmem : (0x00070, 0x00078, s.prev_latency_cycle_counter) ∈ s.regs.readable (s.mmioIn cfg i) :=
        List.mem_append_right _ (List.mem_cons_self)
      rw [if_pos rfl, if_pos rfl, s.regs.final_rdata_eq hmem hsel hrd, h.laps]
      rfl

end Keeps

/-! ## Runs -/

/-- The two fields as `_stats_thread` takes them from the value. -/
lemma shift_eq_field (v : BitVec 64) : (v >>> 37).toNat = (field v 37 27).toNat := by
  have hlt := v.isLt
  rw [BitVec.toNat_ushiftRight, field, BitVec.extractLsb'_toNat, Nat.shiftRight_eq_div_pow]
  exact (Nat.mod_eq_of_lt (by omega)).symm

lemma mask_eq_field (v : BitVec 64) : (((1#64 <<< 37) - 1#64) &&& v).toNat = (field v 0 37).toNat := by
  have hmask : ((1#64 <<< 37) - 1#64).toNat = 2 ^ 37 - 1 := by decide
  rw [BitVec.toNat_and, hmask, Nat.and_comm, Nat.and_two_pow_sub_one_eq_mod, field, BitVec.extractLsb'_toNat,
    Nat.shiftRight_zero]

/-- What the division of `_stats_thread` gives for the measurements of an interval. -/
lemma statsLine_encodeLaps (tx rx : BitVec 64) (laps : List ℕ) :
    ((statsLine tx rx (encodeLaps laps)).map fun line => line.2.2.toNat)
      = if laps.length % 2 ^ 27 = 0 then none
        else some (laps.sum % 2 ^ 37 / (laps.length % 2 ^ 27)) := by
  have hcount : (encodeLaps laps >>> 37).toNat = laps.length % 2 ^ 27 :=
    (shift_eq_field _).trans (count_encodeLaps laps)
  have hsum : (((1#64 <<< 37) - 1#64) &&& encodeLaps laps).toNat = laps.sum % 2 ^ 37 :=
    (mask_eq_field _).trans (sum_encodeLaps laps)
  have hzero : encodeLaps laps >>> 37 = 0 ↔ laps.length % 2 ^ 27 = 0 := by
    rw [← hcount, ← BitVec.toNat_inj]
    rfl
  rw [statsLine]
  by_cases h : laps.length % 2 ^ 27 = 0
  · rw [if_pos (hzero.mpr h), if_pos h]
    rfl
  · rw [if_neg (mt hzero.mp h), if_neg h, Option.map_some, BitVec.toNat_udiv, hcount, hsum]

/-- The reads of `0x70` report the measurements, each of them once, and the statistics thread computes their
mean. -/
structure LatencyReported (cfg : RespPortConfig) (is : List RmemAfuIn) : Prop where
  reads : (latencyReads cfg is).map (fun v => ((field v 37 27).toNat, (field v 0 37).toNat))
    = (latencyReports cfg is).map fun laps => (laps.length % 2 ^ 27, laps.sum % 2 ^ 37)
  once : (latencyReports cfg is).flatten ++ ((stopwatch (BitVec 16)).run (lapEvents cfg is)).laps
    = (stopwatch (BitVec 16)).collect (fun w e => (w.lap e).toList) (lapEvents cfg is)
  mean : ∀ tx rx, (latencyReads cfg is).map
      (fun v => (statsLine tx rx v).map fun line => line.2.2.toNat)
    = (latencyReports cfg is).map fun laps =>
        some (laps.sum % 2 ^ 37 / (laps.length % 2 ^ 27))

lemma latencyReads_eq (cfg : RespPortConfig) {is : List RmemAfuIn}
    (hok : (rmemAfu cfg).Meets (fun s _ => s.Watches cfg) is) :
    latencyReads cfg is = (latencyReports cfg is).map encodeLaps :=
  (rmemAfu cfg).simulates_collect (stopwatch (BitVec 16)) (R := Keeps) Keeps.init
    (fun _ _ i h hs => h.step i hs) (fun _ _ i h _ => h.readValue_eq i) is hok

/-- **The latency monitor reports what it measures.**  In a run in which the monitor sees what happens, the
reads of `0x70` report every measurement once and the statistics thread computes their mean, exactly if
something was measured before each read. -/
theorem latency_reported (cfg : RespPortConfig) {is : List RmemAfuIn}
    (hok : (rmemAfu cfg).Meets (fun s _ => s.Watches cfg) is) :
    LatencyReported cfg is ↔ ∀ laps ∈ latencyReports cfg is, laps.length % 2 ^ 27 ≠ 0 := by
  have hreads := latencyReads_eq cfg hok
  have hmean (tx rx : BitVec 64) : (latencyReads cfg is).map
      (fun v => (statsLine tx rx v).map fun line => line.2.2.toNat)
      = (latencyReports cfg is).map fun laps =>
          if laps.length % 2 ^ 27 = 0 then none
          else some (laps.sum % 2 ^ 37 / (laps.length % 2 ^ 27)) := by
    rw [hreads, List.map_map]
    exact List.map_congr_left fun laps _ => statsLine_encodeLaps tx rx laps
  constructor
  · intro h laps hlaps hzero
    have hboth := (hmean 0 0).symm.trans (h.mean 0 0)
    have hlap := List.map_inj_left.mp hboth laps hlaps
    rw [if_pos hzero] at hlap
    exact Option.some_ne_none _ hlap.symm
  · intro hsome
    refine ⟨?_, laps_reported _, fun tx rx => ?_⟩
    · rw [hreads, List.map_map]
      refine List.map_congr_left fun laps _ => ?_
      exact Prod.ext (count_encodeLaps laps) (sum_encodeLaps laps)
    · rw [hmean]
      exact List.map_congr_left fun laps hlaps => if_neg (hsome laps hlaps)

def quiet : RmemAfuIn := {}

/-- The host reads `0x70`. -/
def readLatency : RmemAfuIn := { tlx_afu_cmd := some ⟨0x28, 0, 5, 3, 0, 0x70⟩ }

/-- The host sends a rd_mem command. -/
def rdMem (capptag : BitVec 16) : RmemAfuIn := { tlx_afu_cmd := some ⟨0x20, 0b10, capptag, 0, 0, 1 <<< 32⟩ }

/-- A rd_mem command, its response some cycles later, and a read of `0x70`. -/
def measuredDemo : List RmemAfuIn :=
  let header : RffEntry := ⟨true, true, 0x01, 0, 0b10, 0, 7, false, 1⟩
  let data : RffEntry := ⟨false, true, 0, 0, 0, 0, 0, false, 2⟩
  [rdMem 7] ++ List.replicate 4 quiet ++ [{ rff_resp_in := some header }, { rff_resp_in := some data }]
    ++ List.replicate 4 quiet ++ [readLatency] ++ List.replicate 8 quiet

theorem latency_reported_read : latencyReports monitorConfig measuredDemo = [[5]] ∧
    LatencyReported monitorConfig measuredDemo :=
  ⟨by decide +kernel, (latency_reported monitorConfig (by decide +kernel)).mpr (by decide +kernel)⟩

/-- Two reads of `0x70`, and between them a rd_mem command with capptag zero, to which there is no response. -/
def noResponseDemo : List RmemAfuIn :=
  [readLatency] ++ List.replicate 12 quiet ++ [rdMem 0] ++ List.replicate 6 quiet ++ [readLatency]
    ++ List.replicate 8 quiet

/-- An empty response FIFO shows capptag zero, which the monitor takes for that of the command. -/
theorem response_invented : ¬ ∀ (cfg : RespPortConfig) (is : List RmemAfuIn), LatencyReported cfg is := by
  intro h
  have hreads : (latencyReads monitorConfig noResponseDemo).map
      (fun v => ((field v 37 27).toNat, (field v 0 37).toNat)) = [(0, 0), (1, 1)] := by decide +kernel
  have hreports : (latencyReports monitorConfig noResponseDemo).map
      (fun laps => (laps.length % 2 ^ 27, laps.sum % 2 ^ 37)) = [(0, 0), (0, 0)] := by decide +kernel
  exact absurd (hreads.symm.trans ((h monitorConfig noResponseDemo).reads.trans hreports)) (by decide)

end ThymesisFlow
