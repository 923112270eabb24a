import ThymesisFlow.Memory.NodeResp

/-!
# Where the CAPPTAGs of the memory node are

Once the response engine has counted through the tags, each of them is in the CAPPTAG FIFO or is
owned by a command that has not got its final response.  The engine tells the parts of a split
response by their `dp`, so this holds for hosts that mark the parts as it expects (`P9Parts`) and
fails for a host that delivers them in another order.
-/

namespace ThymesisFlow

/-! ## Runs behind the initialisation -/

/-- The node after `n` calls of the response engine in state INIT. -/
def seededNode (n : ℕ) : MemNode where
  capptag_fifo := seededTags n
  resp := .seeded n

lemma seededNode_step {n : ℕ} (hn : n < 512) : (seededNode n).step (.resp true) = seededNode (n + 1) := by
  have hsm : (seededNode n).resp.smstate = .INIT := if_neg (by omega)
  have hcall : (seededNode n).respCall true = some ({ seededNode n with
      resp := (seededNode n).resp.initTag.1 }, (seededNode n).resp.initTag.2) := by
    rw [MemNode.respCall, MemNode.respEngSM, hsm]
    rfl
  have htag : (seededNode n).resp.initTag.2.lookup_out = some (BitVec.ofNat 16 (n + 1)) := rfl
  rw [MemNode.step, hcall]
  change MemNode.written { seededNode n with resp := (RespEng.seeded n).initTag.1 } _ = _
  rw [RespEng.seeded_initTag hn]
  simp only [RespEng.initTag, MemNode.written, seededNode, seededTags_succ, Option.toList_some,
    Option.toList_none, List.append_nil]
  rfl

lemma run_seeded {n : ℕ} (hn : n ≤ 512) :
    memNode.run (List.replicate n (.resp true)) = seededNode n := by
  induction n with
  | zero => rfl
  | succ n ih =>
      rw [List.replicate_succ', Machine.run_concat, ih (by omega)]
      exact seededNode_step hn

/-- A run that goes on behind the initialisation. -/
lemma meets_seeded {parts : HostEntry → TlResp → Bool → Prop} (ms : List NodeMove)
    (h : memNode.MeetsFrom (NodeOk parts) (seededNode 512) ms) :
    memNode.Meets (NodeOk parts) (List.replicate 512 (.resp true) ++ ms) := by
  refine memNode.meets_behind (fun s m hm => ?_) (run_seeded (le_refl 512)) h
  rw [List.eq_of_mem_replicate hm]
  trivial

instance decidableNodeOk (parts : HostEntry → TlResp → Bool → Prop)
    [∀ e r more, Decidable (parts e r more)] (s : MemNode) : ∀ m, Decidable (NodeOk parts s m)
  | .clock _ => inferInstanceAs (Decidable (_ ∧ _))
  | .answer r data more => decidable_of_iff (∃ e ∈ s.host, e.tag = r.capptag ∧
      (if e.pend then r.kind = some .xlateDone else r.kind ≠ none ∧ r.kind ≠ some .xlateDone) ∧
      data.length = (if r.kind = some .readOk then (dataSize r.dl).toNat else 0) ∧ parts e r more)
      ⟨fun ⟨e, he, h1, h2, h3, h4⟩ => ⟨e, he, h1, h2, h3, h4⟩,
        fun ⟨e, he, h⟩ => ⟨e, he, h.1, h.2, h.3, h.4⟩⟩
  | .load | .resp _ | .rty | .deliver => inferInstanceAs (Decidable True)

instance (e : HostEntry) (r : TlResp) (more : Bool) : Decidable (P9Parts e r more) :=
  inferInstanceAs (Decidable (_ = _))

/-! ## The tags -/

/-- Each of the 512 tags is in one place, and the owned ones include those of every command that the
host has and of every response on its way. -/
structure TagsLinear (s : MemNode) : Prop where
  tags : (s.capptag_fifo ++ s.ledger.owned).Perm (seededTags 512)
  nodup : (s.capptag_fifo ++ s.ledger.owned).Nodup
  host : ∀ e ∈ s.host, e.tag ∈ s.ledger.owned
  flight : ∀ r ∈ s.flight, TlResp.capptag r ∈ s.ledger.owned

/-- Every tag of the pool is in one place. -/
lemma TagsLinear.count {s : MemNode} (h : TagsLinear s) {t : Tag} (ht : t ∈ seededTags 512) :
    s.capptag_fifo.count t + s.ledger.owned.count t = 1 := by
  rw [← List.count_append]
  exact List.count_eq_one_of_mem h.nodup (h.tags.mem_iff.mpr ht)

/-- **The tags are linear.** -/
theorem tags_linear (ms : List NodeMove) (hok : memNode.Meets (NodeOk P9Parts) ms)
    (hsm : (memNode.run ms).resp.smstate ≠ .INIT) : TagsLinear (memNode.run ms) := by
  have h := NodeInv.run ms hok
  have hseeded : (memNode.run ms).ledger.seeded = seededTags 512 := by
    change seededTags ((memNode.run ms).resp.capptag_count.toNat - 1) = _
    rw [h.counted.running hsm]
    rfl
  have htags := h.ledger.tags
  rw [hseeded] at htags
  refine ⟨htags, h.ledger.nodup_owned, fun e he => ?_, fun r hr => h.ledger.flight_owned hr⟩
  refine List.mem_append_left _ (List.mem_map_of_mem (f := Prod.fst) (a := MemNode.tlxEntry e.cmd) ?_)
  exact List.mem_append_right _
    (List.mem_map_of_mem (f := fun e : HostEntry => MemNode.tlxEntry e.cmd) he)

/-- A read of 256 bytes with both halves in order, the first of which has been forwarded. -/
def halvesInOrder : List NodeMove :=
  let read : Flit512 := setField 0 422 (0b11 : BitVec 2)
  let half (dp : BitVec 2) : TlResp :=
    TL_RD_RESPOK ++ (1 : Tag) ++ 0#4 ++ (0b10 : BitVec 2) ++ dp ++ 0#6
  [.clock {}, .clock { netflit_in_tdata := read, netflit_in_tvalid := true }, .clock {},
    .answer (half 0) [0, 0] true, .answer (half 1) [0, 0] false, .load, .load, .deliver, .deliver,
    .resp true, .resp true, .resp true, .resp true]

theorem tags_linear_demo : TagsLinear (memNode.run (List.replicate 512 (.resp true) ++ halvesInOrder)) :=
  tags_linear _ (meets_seeded halvesInOrder (by decide +kernel)) (by
    rw [Machine.run_append, run_seeded (le_refl 512)]
    decide +kernel)

/-! ## Parts in another order -/

/-- The host splits the data of a read as it likes, and delivers the parts in any order. -/
def AnyParts (_ : HostEntry) (r : TlResp) (more : Bool) : Prop :=
  more = true → r.kind = some .readOk

instance (e : HostEntry) (r : TlResp) (more : Bool) : Decidable (AnyParts e r more) :=
  inferInstanceAs (Decidable (_ → _))

/-- A read of 256 bytes, of which the host delivers the second half first. -/
def halvesSwapped : List NodeMove :=
  let read : Flit512 := setField 0 422 (0b11 : BitVec 2)
  let half : TlResp := TL_RD_RESPOK ++ (1 : Tag) ++ 0#4 ++ (0b10 : BitVec 2) ++ (0b01 : BitVec 2) ++ 0#6
  [.clock {}, .clock { netflit_in_tdata := read, netflit_in_tvalid := true }, .clock {},
    .answer half [0, 0] true, .load, .deliver, .deliver, .resp true, .resp true, .resp true]

/-- The tag of the read is given back while the first half is still due. -/
theorem tag_returned_early : ¬ ∀ ms, memNode.Meets (NodeOk AnyParts) ms →
    (memNode.run ms).resp.smstate ≠ .INIT → TagsLinear (memNode.run ms) := by
  intro h
  have hms : memNode.run (List.replicate 512 (.resp true) ++ halvesSwapped)
      = memNode.runFrom (seededNode 512) halvesSwapped := by
    rw [Machine.run_append, run_seeded (le_refl 512)]
  have hrun := h _ (meets_seeded halvesSwapped (by decide +kernel)) (by
    rw [hms]
    decide +kernel)
  rw [hms] at hrun
  have hhost : ∃ e ∈ (memNode.runFrom (seededNode 512) halvesSwapped).host,
      e.tag ∈ (memNode.runFrom (seededNode 512) halvesSwapped).capptag_fifo := by decide +kernel
  obtain ⟨e, he, hfifo⟩ := hhost
  exact List.disjoint_of_nodup_append hrun.nodup hfifo (hrun.host e he)

end ThymesisFlow
