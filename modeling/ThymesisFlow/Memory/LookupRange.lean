import ThymesisFlow.Memory.NodeResp

/-!
# The indices of the lookup tables

The lookup tables have `LOOKUPSIZE` entries, and the response engine hands out the CAPPTAGs that
index them.  It counts from 1, and the call that finds the count at `0x200` writes it before it
leaves state INIT: the last tag it hands out is one past the tables.
-/

namespace ThymesisFlow

/-- The number of entries of a lookup table. -/
def LOOKUPSIZE : ℕ := 512

/-- The tags under which the memory ingress writes the lookup tables in a cycle. -/
def MemoryIngress.writeIndices (s : MemoryIngress) : List Tag :=
  (if s.lookup_port_en_q && s.cmdlookup.we then [field s.cmdlookup.addr 5 16] else [])
    ++ (if s.lookup_port_en_q && s.d0lookup.we then [field s.d0lookup.addr 6 16] else [])
    ++ (if s.lookup_port_en_q && s.d1lookup.we then [field s.d1lookup.addr 6 16] else [])

namespace MemNode

/-- The indices at which a move writes or reads the lookup tables. -/
def lookupIndices (s : MemNode) : NodeMove → List Tag
  | .clock _ => s.ingress.writeIndices
  | .load => (s.tl_resp.head?.map TlResp.capptag).toList
  | .resp _ =>
      if s.resp.smstate = .GET_DATA ∧ s.resp.respdataflag = false then [s.resp.localtag] else []
  | _ => []

/-- The tags that the response engine writes to the CAPPTAG FIFO in a move. -/
def freed (s : MemNode) : NodeMove → List Tag
  | .resp enable => ((s.respCall enable).bind fun call => call.2.lookup_out).toList
  | _ => []

/-- The tags that a move hands out or uses as an index. -/
def usedTags (s : MemNode) (m : NodeMove) : List Tag := s.freed m ++ s.lookupIndices m

/-- The tags of the commands handed to the host in a move. -/
def sentTags (s : MemNode) : NodeMove → List Tag
  | .clock w => ((s.ingress.issued (s.ingressWires w)).filter tlxHasTag).map tlxCappTag
  | _ => []

end MemNode

/-- The host answers with a tag it was sent. -/
def AnswersSent (sent : List Tag) : NodeMove → Prop
  | .answer r _ _ => TlResp.capptag r ∈ sent
  | _ => True

instance (sent : List Tag) (m : NodeMove) : Decidable (AnswersSent sent m) := by
  cases m <;> unfold AnswersSent <;> infer_instance

/-- The move is a call of the response engine with `enable` high. -/
def NodeMove.isEnabledCall : NodeMove → Bool
  | .resp enable => enable
  | _ => false

/-- Every tag that is handed out, and every index of the lookup tables, lies in the tables. -/
def IndicesInRange (ms : List NodeMove) : Prop :=
  ∀ t ∈ memNode.collect MemNode.usedTags ms, t.toNat < LOOKUPSIZE

/-! ## The memory ingress -/

namespace MemoryIngress

/-- The tags in the registers lie in the tables. -/
structure TagsBelow (s : MemoryIngress) : Prop where
  held : (tlxCappTag s.tlx_cmd_q).toNat < LOOKUPSIZE
  cmd : (field s.cmdlookup.addr 5 16).toNat < LOOKUPSIZE
  d0 : (field s.d0lookup.addr 6 16).toNat < LOOKUPSIZE
  d1 : (field s.d1lookup.addr 6 16).toNat < LOOKUPSIZE

variable {s : MemoryIngress} {i : MemoryIngressIn}

/-- The address of a data BRAM, after a data flit. -/
lemma TagsBelow.dataPort (h : s.TagsBelow) (p : LookupPort 512) (own : Bool) :
    (field (s.dataPort i p own).addr 6 16).toNat < LOOKUPSIZE := by
  rw [MemoryIngress.dataPort, field_setField_self _ _ _ (by decide)]
  cases own with
  | true => exact h.cmd
  | false =>
      rw [if_neg Bool.false_ne_true]
      decide

lemma TagsBelow.step (h : s.TagsBelow) (htag : i.capptag_fifo_tdata.toNat < LOOKUPSIZE)
    (hrty : (rtyTag i.rty_in_tdata).toNat < LOOKUPSIZE) : (s.step i).TagsBelow := by
  have hpath : (s.datapath i).TagsBelow := by
    rw [datapath]
    split_ifs
    · refine ⟨?_, h.cmd, h.d0, h.d1⟩
      rw [tlxCappTag, assignActag]
      simp only [field_setField_of_disjoint, Nat.reduceAdd, Nat.reduceLeDiff, or_true, true_or]
      exact h.held
    · refine ⟨?_, h.cmd, h.d0, h.d1⟩
      have htag' : tlxCappTag (s.takeRtyCmd i).tlx_cmd_q = rtyTag i.rty_in_tdata :=
        congrArg Prod.fst (tlxEntry_takeRtyCmd s i)
      rw [htag']
      exact hrty
    · have htag' : tlxCappTag (s.netTlxCmd i) = i.capptag_fifo_tdata :=
        congrArg Prod.fst (tlxEntry_netTlxCmd s i)
      refine ⟨?_, ?_, h.d0, h.d1⟩
      · change (tlxCappTag (s.netTlxCmd i)).toNat < _
        rw [htag']
        exact htag
      · change (field (setField s.cmdlookup.addr 5 i.capptag_fifo_tdata) 5 16).toNat < _
        rw [field_setField_self _ _ _ (by decide)]
        exact htag
    · exact ⟨h.held, h.cmd, h.d0, h.d1⟩
    · exact ⟨h.held, h.cmd, h.dataPort _ _, h.dataPort _ _⟩
    · exact ⟨h.held, h.cmd, h.d0, h.d1⟩
  exact ⟨hpath.held, hpath.cmd, hpath.d0, hpath.d1⟩

lemma TagsBelow.writeIndices (h : s.TagsBelow) : ∀ t ∈ s.writeIndices, t.toNat < LOOKUPSIZE := by
  intro t ht
  simp only [MemoryIngress.writeIndices, List.mem_append, List.mem_ite_nil_right,
    List.mem_singleton] at ht
  rcases ht with (⟨-, rfl⟩ | ⟨-, rfl⟩) | ⟨-, rfl⟩
  · exact h.cmd
  · exact h.d0
  · exact h.d1

end MemoryIngress

/-! ## While the engine counts -/

/-- The node after `n` calls of the response engine, while it counts: nothing is retried. -/
structure Counting (n : ℕ) (s : MemNode) (sent : List Tag) : Prop where
  engine : s.resp.smstate = .INIT
  count : s.resp.capptag_count.toNat = n + 1
  fifo : ∀ t ∈ s.capptag_fifo, t.toNat < LOOKUPSIZE
  rty : s.rty = {}
  ingress : s.ingress.TagsBelow
  sent : ∀ t ∈ sent, t.toNat < LOOKUPSIZE
  resp : ∀ r ∈ s.tl_resp, (TlResp.capptag r).toNat < LOOKUPSIZE

lemma toNat_last_tag : (0x200 : Tag).toNat = 512 := rfl

/-- A call of the engine while it counts. -/
lemma respCall_counting {s : MemNode} (hsm : s.resp.smstate = .INIT) (enable : Bool) :
    s.respCall enable
      = if enable then some ({ s with resp := s.resp.initTag.1 }, s.resp.initTag.2) else none := by
  rw [MemNode.respCall, MemNode.respEngSM, hsm]
  cases enable <;> rfl

namespace Counting

variable {n : ℕ} {s : MemNode} {sent : List Tag}

/-- The head of the CAPPTAG FIFO, and 0 if there is none. -/
lemma head_fifo (h : Counting n s sent) : (s.capptag_fifo.headD 0).toNat < LOOKUPSIZE := by
  cases hfifo : s.capptag_fifo with
  | nil => decide
  | cons t rest => exact h.fifo t (by rw [hfifo]; exact List.mem_cons_self)

/-- A cycle of the memory ingress. -/
lemma clock (h : Counting n s sent) (w : NodeWires) :
    Counting n (s.clock w) (sent ++ s.sentTags (.clock w)) := by
  refine ⟨h.engine, h.count, fun t ht => ?_, ?_, ?_, fun t ht => ?_, h.resp⟩
  · change t ∈ (if s.ingress.takesTag (s.ingressWires w) then s.capptag_fifo.tail
      else s.capptag_fifo) at ht
    split at ht
    · exact h.fifo t (List.mem_of_mem_tail ht)
    · exact h.fifo t ht
  · have hrty : (s.clock w).rty = { s.rty with
        output_fifo := if s.ingress.takesRty (s.ingressWires w) then s.rty.output_fifo.tail
          else s.rty.output_fifo } := rfl
    rw [hrty, h.rty]
    split <;> rfl
  · refine h.ingress.step h.head_fifo ?_
    have hhead : (s.ingressWires w).rty_in_tdata = s.rty.output_fifo.headD 0 := rfl
    have hzero : rtyTag 0 = 0 := by simp [rtyTag, field]
    rw [hhead, h.rty]
    change (rtyTag 0).toNat < _
    rw [hzero]
    decide
  · rcases List.mem_append.mp ht with ht | ht
    · exact h.sent t ht
    · obtain ⟨cmd, hcmd, rfl⟩ := List.mem_map.mp ht
      have hissued := (List.mem_filter.mp hcmd).1
      rw [MemoryIngress.issued, List.mem_ite_nil_right, List.mem_singleton] at hissued
      rw [hissued.2]
      exact h.ingress.held

lemma load (h : Counting n s sent) : Counting n s.load sent := by
  rw [MemNode.load]
  cases hresp : s.tl_resp with
  | nil => exact h
  | cons r rest =>
      exact ⟨h.engine, h.count, h.fifo, h.rty, h.ingress, h.sent,
        fun r' hr' => h.resp r' (by rw [hresp]; exact List.mem_cons_of_mem r hr')⟩

/-- An enabled call of the engine that is not the last one of state INIT. -/
lemma seed (h : Counting n s sent) (hn : n + 1 < LOOKUPSIZE) :
    Counting (n + 1) (s.step (.resp true)) sent := by
  have hstep : s.step (.resp true)
      = MemNode.written { s with resp := s.resp.initTag.1 } s.resp.initTag.2 := by
    rw [MemNode.step, respCall_counting h.engine]
    rfl
  have hcount := h.count
  rw [LOOKUPSIZE] at hn
  have hne : s.resp.capptag_count ≠ 0x200 := by
    intro hx
    rw [hx, toNat_last_tag] at hcount
    omega
  rw [hstep]
  refine ⟨if_neg hne, ?_, fun t ht => ?_, ?_, h.ingress, h.sent, h.resp⟩
  · change (s.resp.capptag_count + 1).toNat = _
    rw [BitVec.toNat_add, hcount]
    change (n + 1 + 1) % 65536 = _
    omega
  · rcases List.mem_append.mp ht with ht | ht
    · exact h.fifo t ht
    · have ht' : t = s.resp.capptag_count := List.mem_singleton.mp ht
      rw [ht', hcount, LOOKUPSIZE]
      exact hn
  · exact (NodeInv.written_rty _ rfl).trans h.rty

/-- **One move**, that is not the last call of state INIT. -/
lemma step (h : Counting n s sent) {m : NodeMove} (hsent : AnswersSent sent m)
    (hn : n + (if m.isEnabledCall then 1 else 0) < LOOKUPSIZE) :
    Counting (n + if m.isEnabledCall then 1 else 0) (s.step m) (sent ++ s.sentTags m) := by
  cases m with
  | clock w => exact h.clock w
  | load =>
      change Counting _ _ (sent ++ [])
      rw [List.append_nil]
      exact h.load
  | resp enable =>
      change Counting _ _ (sent ++ [])
      rw [List.append_nil]
      cases enable with
      | true => exact h.seed hn
      | false =>
          have hstep : s.step (.resp false) = s := by
            rw [MemNode.step, respCall_counting h.engine]
            rfl
          rw [hstep]
          exact h
  | rty =>
      have hstep : s.step .rty = s := by
        rw [MemNode.step, h.rty]
        have hnone : rtyEngSM {} = none := rfl
        rw [hnone, Option.getD_none, ← h.rty]
      change Counting _ _ (sent ++ [])
      rw [List.append_nil, hstep]
      exact h
  | answer r data more =>
      change Counting _ _ (sent ++ [])
      rw [List.append_nil]
      refine ⟨h.engine, h.count, h.fifo, h.rty, h.ingress, h.sent, fun r' hr' => ?_⟩
      rcases List.mem_append.mp hr' with hr' | hr'
      · exact h.resp r' hr'
      · rw [List.mem_singleton.mp hr']
        exact h.sent _ hsent
  | deliver =>
      change Counting _ _ (sent ++ [])
      rw [List.append_nil]
      cases hdue : s.due with
      | nil =>
          rw [MemNode.step_deliver_of_nil hdue]
          exact h
      | cons d rest =>
          rw [MemNode.step_deliver_of_cons hdue]
          exact ⟨h.engine, h.count, h.fifo, h.rty, h.ingress, h.sent, h.resp⟩

/-- What a move hands out and reads. -/
lemma indices (h : Counting n s sent) {m : NodeMove}
    (hn : n + (if m.isEnabledCall then 1 else 0) < LOOKUPSIZE) :
    ∀ t ∈ s.usedTags m, t.toNat < LOOKUPSIZE := by
  intro t ht
  rw [MemNode.usedTags] at ht
  cases m with
  | clock w => exact h.ingress.writeIndices t ht
  | load =>
      cases hresp : s.tl_resp with
      | nil => simp [MemNode.freed, MemNode.lookupIndices, hresp] at ht
      | cons r rest =>
          simp only [MemNode.freed, MemNode.lookupIndices, hresp, List.head?_cons, Option.map_some,
            Option.toList_some, List.nil_append, List.mem_singleton] at ht
          rw [ht]
          exact h.resp r (by rw [hresp]; exact List.mem_cons_self)
  | resp enable =>
      have hno : ¬(s.resp.smstate = .GET_DATA ∧ s.resp.respdataflag = false) := fun hx => by
        rw [h.engine] at hx
        cases hx.1
      rw [MemNode.lookupIndices, if_neg hno, List.append_nil, MemNode.freed,
        respCall_counting h.engine] at ht
      cases enable with
      | false => cases ht
      | true =>
          have ht' : t = s.resp.capptag_count := List.mem_singleton.mp ht
          rw [ht', h.count]
          exact hn
  | rty | answer | deliver => cases ht

end Counting

/-! ## Every run -/

/-- The enabled calls of the response engine in a run. -/
def enabledCalls (ms : List NodeMove) : ℕ := ms.countP NodeMove.isEnabledCall

lemma enabledCalls_concat (ms : List NodeMove) (m : NodeMove) :
    enabledCalls (ms ++ [m]) = enabledCalls ms + if m.isEnabledCall then 1 else 0 := by
  rw [enabledCalls, List.countP_append, List.countP_singleton]
  rfl

/-- The node while the engine counts, and what it has handed out and read. -/
lemma counting_run (ms : List NodeMove)
    (hsent : (memNode.withHistory MemNode.sentTags).Meets (fun s m => AnswersSent s.2 m) ms)
    (hn : enabledCalls ms < LOOKUPSIZE) :
    Counting (enabledCalls ms) (memNode.run ms) (memNode.collect MemNode.sentTags ms) ∧
      IndicesInRange ms := by
  induction ms using List.reverseRecOn with
  | nil =>
      refine ⟨⟨rfl, rfl, (fun t ht => by cases ht), rfl, ⟨?_, ?_, ?_, ?_⟩, (fun t ht => by cases ht),
        fun r hr => by cases hr⟩, fun t ht => by cases ht⟩ <;> decide
  | append_singleton ms m ih =>
      obtain ⟨hpre, hlast⟩ := (Machine.meets_concat _ _ ms m).mp hsent
      rw [Machine.run_withHistory] at hlast
      rw [enabledCalls_concat] at hn ⊢
      obtain ⟨hcount, hrange⟩ := ih hpre (by omega)
      rw [Machine.run_concat, Machine.collect_concat]
      refine ⟨hcount.step hlast hn, fun t ht => ?_⟩
      rw [Machine.collect_concat] at ht
      rcases List.mem_append.mp ht with ht | ht
      · exact hrange t ht
      · exact hcount.indices hn t ht

/-- The engine counts its enabled calls, and the 512th one hands out the tag 512. -/
lemma last_tag_handed_out (ms : List NodeMove) :
    (enabledCalls ms < LOOKUPSIZE → (memNode.run ms).resp.smstate = .INIT ∧
      (memNode.run ms).resp.capptag_count.toNat = enabledCalls ms + 1) ∧
    (LOOKUPSIZE ≤ enabledCalls ms → (0x200 : Tag) ∈ memNode.collect MemNode.usedTags ms) := by
  induction ms using List.reverseRecOn with
  | nil => exact ⟨fun _ => ⟨rfl, rfl⟩, fun h => by cases h⟩
  | append_singleton ms m ih =>
      rw [enabledCalls_concat, Machine.run_concat, Machine.collect_concat]
      by_cases hm : m.isEnabledCall = true
      · rw [if_pos hm]
        obtain ⟨enable, rfl⟩ : ∃ enable, m = .resp enable := by
          cases m <;> first | exact ⟨_, rfl⟩ | cases hm
        obtain rfl : enable = true := hm
        refine ⟨fun hlt => ?_, fun hle => ?_⟩
        · obtain ⟨hsm, hcount⟩ := ih.1 (by omega)
          have hstep : memNode.step (memNode.run ms) (.resp true) = MemNode.written
              { memNode.run ms with resp := (memNode.run ms).resp.initTag.1 }
              (memNode.run ms).resp.initTag.2 := by
            change MemNode.step (memNode.run ms) (.resp true) = _
            rw [MemNode.step, respCall_counting hsm]
            rfl
          rw [LOOKUPSIZE] at hlt
          have hne : (memNode.run ms).resp.capptag_count ≠ 0x200 := by
            intro hx
            rw [hx, toNat_last_tag] at hcount
            omega
          rw [hstep]
          refine ⟨if_neg hne, ?_⟩
          change ((memNode.run ms).resp.capptag_count + 1).toNat = _
          rw [BitVec.toNat_add, hcount]
          change (enabledCalls ms + 1 + 1) % 65536 = _
          omega
        · by_cases hpre : LOOKUPSIZE ≤ enabledCalls ms
          · exact List.mem_append_left _ (ih.2 hpre)
          · obtain ⟨hsm, hcount⟩ := ih.1 (Nat.lt_of_not_le hpre)
            have h512 : (memNode.run ms).resp.capptag_count = 0x200 := by
              refine BitVec.eq_of_toNat_eq (hcount.trans ?_)
              rw [LOOKUPSIZE] at hle hpre
              rw [toNat_last_tag]
              omega
            refine List.mem_append_right _ (List.mem_append_left _ ?_)
            rw [MemNode.freed, respCall_counting hsm, if_pos rfl, Option.bind_some,
              RespEng.initTag, h512]
            exact List.mem_singleton_self _
      · rw [if_neg hm, Nat.add_zero]
        refine ⟨fun hlt => ?_, fun hle => List.mem_append_left _ (ih.2 hle)⟩
        have hresp : (memNode.step (memNode.run ms) m).resp = (memNode.run ms).resp := by
          change (MemNode.step _ m).resp = _
          cases m with
          | clock w => rfl
          | load =>
              rw [MemNode.step, MemNode.load]
              cases (memNode.run ms).tl_resp <;> rfl
          | resp enable =>
              have hoff : enable = false := eq_false_of_ne_true hm
              rw [MemNode.step, respCall_counting (ih.1 hlt).1, hoff]
              rfl
          | rty => rfl
          | answer => rfl
          | deliver =>
              rw [MemNode.step]
              cases (memNode.run ms).due <;> rfl
        rw [hresp]
        exact ih.1 hlt

/-- **The indices stay in range exactly until the response engine has been called 512 times.**  That
call, the last one of state INIT, hands out the tag 512. -/
theorem indicesInRange_iff (ms : List NodeMove)
    (hsent : (memNode.withHistory MemNode.sentTags).Meets (fun s m => AnswersSent s.2 m) ms) :
    IndicesInRange ms ↔ enabledCalls ms < LOOKUPSIZE := by
  constructor
  · intro h
    by_contra hn
    have hmem := h _ ((last_tag_handed_out ms).2 (Nat.le_of_not_lt hn))
    exact absurd hmem (by decide)
  · exact fun hn => (counting_run ms hsent hn).2

/-- A command under tag 1 is sent and answered. -/
theorem indicesInRange_one :
    let ms : List NodeMove := [.resp true, .clock {},
      .clock { netflit_in_tdata := setField 0 504 (0x10 : BitVec 8), netflit_in_tvalid := true },
      .clock {}, .answer (setField 0 14 (1 : Tag)) [] false, .load, .resp true]
    (memNode.withHistory MemNode.sentTags).Meets (fun s m => AnswersSent s.2 m) ms ∧
      (IndicesInRange ms ↔ enabledCalls ms < LOOKUPSIZE) := by
  have hsent : (memNode.withHistory MemNode.sentTags).Meets (fun s m => AnswersSent s.2 m)
      [.resp true, .clock {},
        .clock { netflit_in_tdata := setField 0 504 (0x10 : BitVec 8), netflit_in_tvalid := true },
        .clock {}, .answer (setField 0 14 (1 : Tag)) [] false, .load, .resp true] := by
    decide +kernel
  exact ⟨hsent, indicesInRange_iff _ hsent⟩

/-- The calls of state INIT. -/
theorem init_out_of_range :
    (memNode.withHistory MemNode.sentTags).Meets (fun s m => AnswersSent s.2 m)
        (List.replicate 512 (.resp true)) ∧
      ¬ IndicesInRange (List.replicate 512 (.resp true)) := by
  refine ⟨Machine.meets_of_forall _ fun s m hm => ?_, fun h => ?_⟩
  · rw [List.eq_of_mem_replicate hm]
    trivial
  · have hcalls : enabledCalls (List.replicate 512 (.resp true)) = 512 := by
      rw [enabledCalls, List.countP_replicate]
      rfl
    have hmem := h _ ((last_tag_handed_out _).2 (by rw [hcalls]; decide))
    exact absurd hmem (by decide)

end ThymesisFlow
