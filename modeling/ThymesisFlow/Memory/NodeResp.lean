import ThymesisFlow.Memory.NodeInv

/-!
# The response engine in the memory node

The calls of the response engine keep the invariant of the node: each of its branches frees the tag
of a response, sends it back with its command, or keeps it for the data that follows.  With the moves
of the other parties this makes the invariant one of every run.
-/

namespace ThymesisFlow

open Framing

/-! ## What a branch reads and writes -/

/-- The shape of a record does not depend on the local tag. -/
lemma wordShape_low {w : ℕ} (x : BitVec w) :
    wordShape ((field x 0 199).setWidth 215 : StoredCmd) = wordShape x := by
  have hbit : ∀ k < 199, bit ((field x 0 199).setWidth 215 : StoredCmd) k = bit x k := by
    intro k hk
    have hlt : k < 215 := by omega
    rw [bit, bit, BitVec.getLsbD_setWidth, getLsbD_field, Nat.zero_add]
    simp [hk, hlt]
  have hdl : field ((field x 0 199).setWidth 215 : StoredCmd) 109 2 = field x 109 2 := by
    rw [field_setWidth _ (by decide), field_field x (by decide)]
  rw [wordShape, wordShape, hbit 196 (by decide), hbit 197 (by decide), hdl]

/-- The shape of the record in a combo. -/
lemma wordShape_combo (c : RespCombo) : wordShape (field c 0 215) = wordShape c := by
  have h196 : bit (field c 0 215) 196 = bit c 196 :=
    (bit_eq_field c 0 215 (show 196 < 215 by decide)).symm.trans (by rw [Nat.zero_add])
  have h197 : bit (field c 0 215) 197 = bit c 197 :=
    (bit_eq_field c 0 215 (show 197 < 215 by decide)).symm.trans (by rw [Nat.zero_add])
  have hdl : field (field c 0 215) 109 2 = field c 109 2 := field_field c (by decide)
  rw [wordShape, wordShape, h196, h197, hdl]

namespace RespEng

/-- The command that goes to the retry engine is the record, with another page size and tag. -/
lemma field_comboRetry (e : RespEng) (c : RespCombo) {lo len : ℕ} (hlo : 319 ≤ lo)
    (hhi : lo + len ≤ 512) : field (comboRetry e c) lo len
      = field ((0 : OCxFlit).fromTLxCStore (field c 0 215)) lo len := by
  rw [comboRetry, OCxFlit.toOCxFlit, field_field _ (by omega), Nat.zero_add, retryCmd,
    OCxFlit.setCappTagLocal, field_setField_of_disjoint _ _ _ _ (.inr (by omega)),
    OCxFlit.setTLxCmdRespAnno, field_setField_of_disjoint _ _ _ _ (.inr (by omega))]

lemma rtyTag_comboRetry (e : RespEng) (c : RespCombo) :
    rtyTag (comboRetry e c) = TlResp.capptag (field c 215 38) := by
  obtain ⟨htag, -, -, -⟩ := respHeader_fields e.tlresp (field c 215 38)
    ((0 : OCxFlit).fromTLxCStore (field c 0 215))
  rw [rtyTag, comboRetry, OCxFlit.toOCxFlit, field_field _ (by decide), Nat.zero_add, retryCmd,
    OCxFlit.setCappTagLocal, field_setField_self _ _ _ (by decide)]
  exact htag

/-- The command that goes to the retry engine has the tag of the response and the shape of the
record. -/
lemma rtyEntry_comboRetry (e : RespEng) (c : RespCombo) : MemNode.rtyEntry (comboRetry e c)
    = (TlResp.capptag (field c 215 38), wordShape c) := by
  obtain ⟨hop, -, -, hdl, -⟩ := OCxFlit.field_fromTLxCStore 0 (field c 0 215)
  have hbit : ∀ k < 8, bit (comboRetry e c) (504 + k) = bit (field c 0 215) (191 + k) := by
    intro k hk
    rw [bit_eq_field _ 504 8 hk, field_comboRetry e c (by decide) (by decide), hop,
      ← bit_eq_field _ 191 8 hk]
  have h5 := hbit 5 (by decide)
  have h6 := hbit 6 (by decide)
  simp only [Nat.reduceAdd] at h5 h6
  rw [MemNode.rtyEntry, rtyTag_comboRetry, ← wordShape_combo, flitShape, wordShape, h5, h6,
    field_comboRetry e c (by decide) (by decide), hdl]

/-- The next tag is counted. -/
lemma Counted.next_initTag {e : RespEng} (h : e.Counted) (hsm : e.smstate = .INIT) :
    e.initTag.1.capptag_count.toNat = e.capptag_count.toNat + 1 := by
  have hcount := h.init hsm
  change (e.capptag_count + 1).toNat = _
  rw [BitVec.toNat_add]
  change (e.capptag_count.toNat + 1) % 65536 = _
  omega

lemma Counted.seeded_initTag {e : RespEng} (h : e.Counted) (hsm : e.smstate = .INIT) :
    seededTags (e.initTag.1.capptag_count.toNat - 1)
      = seededTags (e.capptag_count.toNat - 1) ++ [e.capptag_count] := by
  have hcount := h.init hsm
  obtain ⟨n, hn⟩ : ∃ n, e.capptag_count.toNat = n + 1 := ⟨e.capptag_count.toNat - 1, by omega⟩
  have htag : BitVec.ofNat 16 (n + 1) = e.capptag_count := by
    rw [← hn, BitVec.ofNat_toNat, BitVec.setWidth_eq]
  rw [h.next_initTag hsm, hn, Nat.add_sub_cancel, Nat.add_sub_cancel, seededTags_succ, htag]

/-- One more data flit of the store has been replayed. -/
lemma Counted.getStoreData {e : RespEng} (h : e.Counted) (hsm : e.smstate = .GET_DATA)
    (hflag : e.respdataflag = false) (data0lookup data1lookup : Tag → Flit512) :
    (e.getStoreData data0lookup data1lookup).1.Counted ∧
      (e.getStoreData data0lookup data1lookup).1.cdata_count.toNat = e.cdata_count.toNat + 1 ∧
      e.owed ≠ 0 ∧ (e.getStoreData data0lookup data1lookup).1.owed = e.owed - 1 := by
  obtain ⟨hpos, hle, hmax⟩ := h.store hsm hflag
  have hrun := h.running (by rw [hsm]; decide)
  generalize he : (e.getStoreData data0lookup data1lookup).1 = e'
  have hsm' : e'.smstate = if e.cdata_count = e.cdata then .GET_CMD else .GET_DATA := by
    rw [← he]
    rfl
  have hflag' : e'.respdataflag = false := by
    rw [← he]
    exact hflag
  have hcdata : e'.cdata = e.cdata := by
    rw [← he]
    rfl
  have hcount : e'.capptag_count = e.capptag_count := by
    rw [← he]
    rfl
  have hccount : e'.cdata_count.toNat = e.cdata_count.toNat + 1 := by
    rw [← he]
    change (e.cdata_count + 1).toNat = _
    rw [BitVec.toNat_add]
    change (e.cdata_count.toNat + 1) % 8 = _
    omega
  have hlast : e.cdata_count = e.cdata ↔ e.cdata_count.toNat = e.cdata.toNat :=
    ⟨fun hx => congrArg BitVec.toNat hx, BitVec.eq_of_toNat_eq⟩
  have howed : e.owed = e.cdata.toNat + 1 - e.cdata_count.toNat := if_pos ⟨hsm, hflag⟩
  refine ⟨⟨fun hx _ => ?_, fun hx => ?_, fun _ => hcount.trans hrun⟩, hccount, by omega, ?_⟩
  · have hne : e.cdata_count ≠ e.cdata := by
      intro hend
      rw [hsm', if_pos hend] at hx
      cases hx
    have hne' : e.cdata_count.toNat ≠ e.cdata.toNat := fun hx => hne (hlast.mpr hx)
    rw [hcdata, hccount]
    omega
  · rw [hsm'] at hx
    split at hx <;> cases hx
  · rw [howed, owed, hsm', hflag', hcdata, hccount]
    by_cases hend : e.cdata_count = e.cdata
    · rw [if_pos hend, if_neg fun hx => by cases hx.1]
      have := hlast.mp hend
      omega
    · rw [if_neg hend, if_pos ⟨rfl, rfl⟩]
      omega

/-- With the command the engine owes the data behind it. -/
lemma owed_getCmd {e : RespEng} {c : RespCombo} (hst : bit (comboState c) 0 = true) :
    (e.getCmd c).1.owed = rtySize (comboRetry e c) := by
  have hsize : rtySize (comboRetry e c)
      = if bit c 196 then (dataSize (field c 109 2)).toNat else 0 :=
    congrArg (fun x : Tag × CmdShape => x.2.size) (rtyEntry_comboRetry e c)
  rw [hsize, getCmd_eq, if_pos hst, owed]
  cases bit c 196 <;> simp

end RespEng

namespace NodeInv

variable {s : MemNode}

lemma stored_of_joined {c : RespCombo} (hj : s.Joined c) :
    s.stored (TlResp.capptag (field c 215 38)) = wordShape c := by
  rw [← wordShape_combo, hj, wordShape_low]
  rfl

/-- The retry engine when nothing is written to it. -/
lemma written_rty (s : MemNode) {w : RespWrites} (hw : w.rtry_do_cmd_out = none) :
    (s.written w).rty = s.rty := by
  have h : (s.written w).rty
      = { s.rty with input_fifo := s.rty.input_fifo ++ w.rtry_do_cmd_out.toList } := rfl
  rw [h, hw, Option.toList_none, List.append_nil]

/-- State INIT: the next tag is seeded. -/
lemma resp_init (h : NodeInv s) (hsm : s.resp.smstate = .INIT) :
    NodeInv (MemNode.written { s with resp := s.resp.initTag.1 } s.resp.initTag.2) := by
  have hcount := h.counted.init hsm
  have hrty : (MemNode.written { s with resp := s.resp.initTag.1 } s.resp.initTag.2).rty = s.rty :=
    written_rty _ rfl
  have hnext := h.counted.next_initTag hsm
  have hstate : s.resp.initTag.1.smstate
      = if s.resp.capptag_count = 0x200 then .GET_CMD else .INIT := rfl
  have hnodata : s.resp.initTag.1.smstate ≠ .GET_DATA := by
    rw [hstate]
    split <;> decide
  have howed : s.resp.initTag.1.owed = s.resp.owed := by
    rw [RespEng.owed, RespEng.owed, if_neg fun hx => hnodata hx.1, if_neg fun hx => by
      rw [hsm] at hx
      cases hx.1]
  have hbusy : s.resp.initTag.1.busy = s.resp.busy := by
    rw [RespEng.busy, RespEng.busy, if_neg fun hx => hnodata hx.1, if_neg fun hx => by
      rw [hsm] at hx
      cases hx.1]
  refine ⟨h.orderly, ?_, ⟨fun hx => absurd hx hnodata, fun hx => ?_, fun hx => ?_⟩, ?_, h.joined,
    h.writes⟩
  · rw [hrty]
    change s.rty.Framed s.resp.initTag.1.owed _
    rw [howed]
    exact h.framed
  · have hne : s.resp.capptag_count ≠ 0x200 := by
      intro h200
      change s.resp.initTag.1.smstate = _ at hx
      rw [hstate, if_pos h200] at hx
      cases hx
    have hne' : s.resp.capptag_count.toNat ≠ 0x200 := fun hx => hne (BitVec.eq_of_toNat_eq hx)
    change 1 ≤ s.resp.initTag.1.capptag_count.toNat ∧ s.resp.initTag.1.capptag_count.toNat ≤ 0x200
    omega
  · have h200 : s.resp.capptag_count = 0x200 := by
      by_contra hne
      refine hx ?_
      change s.resp.initTag.1.smstate = _
      rw [hstate, if_neg hne]
    change s.resp.capptag_count + 1 = 0x201
    rw [h200]
    rfl
  · have hseeded := h.counted.seeded_initTag hsm
    have hseed := @TagLedger.Sound.seed s.ledger s.resp.capptag_count h.ledger
      (seededTags (s.resp.initTag.1.capptag_count.toNat - 1)) (seededTags_nodup (by omega))
      (by rw [hseeded]; exact List.perm_append_singleton _ _)
    have heq : (MemNode.written { s with resp := s.resp.initTag.1 } s.resp.initTag.2).ledger
        = { s.ledger with
            seeded := seededTags (s.resp.initTag.1.capptag_count.toNat - 1)
            fifo := s.ledger.fifo ++ [s.resp.capptag_count] } := by
      refine TagLedger.ext rfl rfl rfl rfl ?_ rfl rfl hbusy
      change _ ++ (RtyEng.cmds (MemNode.written _ _).rty _).map _ = _
      rw [hrty]
      rfl
    rw [heq]
    exact hseed

/-- The engine before a response. -/
lemma idle_of_getCmd {e : RespEng} (hsm : e.smstate = .GET_CMD) : e.owed = 0 ∧ e.busy = [] := by
  have hne : e.smstate ≠ .GET_DATA := by rw [hsm]; decide
  exact ⟨if_neg fun hx => hne hx.1, if_neg fun hx => hne hx.1⟩

/-- The response at the head of the FIFO, and what is left. -/
lemma flight_of_head {c : RespCombo} {rest : List RespCombo} (hresp : s.tl_fifo_resp = c :: rest) :
    s.ledger.flight = field c 215 38 :: (rest.map (fun c => field c 215 38) ++ s.tl_resp) := by
  change s.tl_fifo_resp.map _ ++ s.tl_resp = _
  rw [hresp]
  rfl

/-- Whether the response at the head is the last one. -/
lemma last_of_head (h : NodeInv s) {c : RespCombo} {rest : List RespCombo}
    (hresp : s.tl_fifo_resp = c :: rest) :
    s.ledger.last (field c 215 38) = lastResp (field c 109 2) (field c 215 38) := by
  have hj := h.joined c (by rw [hresp]; exact List.mem_cons_self)
  change lastResp (s.stored (TlResp.capptag (field c 215 38))).dl _ = _
  rw [stored_of_joined hj]
  rfl

/-- The counters after a response: the tags are seeded, and data to replay is counted from 1. -/
lemma counted_of_getCmd (h : NodeInv s) (hsm : s.resp.smstate = .GET_CMD) {e : RespEng}
    (hcount : e.capptag_count = s.resp.capptag_count) (hne : e.smstate ≠ .INIT)
    (hstore : e.smstate = .GET_DATA → e.respdataflag = false →
      1 ≤ e.cdata_count.toNat ∧ e.cdata_count.toNat ≤ e.cdata.toNat ∧ e.cdata.toNat ≤ 4) :
    e.Counted :=
  ⟨hstore, fun hx => absurd hx hne,
    fun _ => hcount.trans (h.counted.running (by rw [hsm]; decide))⟩

/-- State GET_CMD, the command goes to the retry engine. -/
lemma resp_retry (h : NodeInv s) (hsm : s.resp.smstate = .GET_CMD) {c : RespCombo}
    {rest : List RespCombo} (hresp : s.tl_fifo_resp = c :: rest)
    (hst : bit (RespEng.comboState c) 0 = true) :
    NodeInv (MemNode.written { s with resp := (s.resp.getCmd c).1, tl_fifo_resp := rest }
      (s.resp.getCmd c).2) := by
  obtain ⟨howed, hbusy⟩ := idle_of_getCmd hsm
  have hj := h.joined c (by rw [hresp]; exact List.mem_cons_self)
  have hcall := RespEng.getCmd_eq s.resp c
  rw [if_pos hst] at hcall
  generalize hg : s.resp.getCmd c = call at hcall ⊢
  have hwrite : call.2.rtry_do_cmd_out = some (RespEng.comboRetry s.resp c) := by rw [hcall]
  have hlookup : call.2.lookup_out = none := by rw [hcall]
  have hsm' : call.1.smstate = if bit c 196 then .GET_DATA else .GET_CMD := by rw [hcall]
  have hcdata : call.1.cdata = dataSize (field c 109 2) := by rw [hcall]
  have hccount : call.1.cdata_count = 1 := by rw [hcall]
  have hflag : call.1.respdataflag = if bit c 196 then false else s.resp.respdataflag := by rw [hcall]
  have hentry := RespEng.rtyEntry_comboRetry s.resp c
  have howed' : call.1.owed = rtySize (RespEng.comboRetry s.resp c) := by
    rw [← hg]
    exact RespEng.owed_getCmd hst
  have hbusy' : call.1.busy = [] := by
    rw [RespEng.busy, hsm', hflag]
    cases bit c 196 <;> simp
  have hlast : s.ledger.last (field c 215 38) = true := by
    rw [h.last_of_head hresp, lastResp]
    exact if_pos hst
  have hpush := h.framed.push (RespEng.comboRetry s.resp c)
  have hcmds := h.framed.cmds_push (RespEng.comboRetry s.resp c)
  rw [howed, next_zero] at hpush
  rw [howed, if_pos rfl] at hcmds
  have hrty : (MemNode.written { s with resp := call.1, tl_fifo_resp := rest } call.2).rty
      = { s.rty with input_fifo := s.rty.input_fifo ++ [RespEng.comboRetry s.resp c] } := by
    rw [MemNode.written, hwrite]
    rfl
  refine ⟨h.orderly, ?_, h.counted_of_getCmd hsm ?_ ?_ ?_, ?_,
    fun c' hc' => h.joined c' (by rw [hresp]; exact List.mem_cons_of_mem c hc'), h.writes⟩
  · rw [hrty]
    change RtyEng.Framed _ call.1.owed _
    rw [howed']
    exact hpush
  · change call.1.capptag_count = _
    rw [hcall]
    rfl
  · change call.1.smstate ≠ _
    rw [hsm']
    split <;> decide
  · intro _ _
    change 1 ≤ call.1.cdata_count.toNat ∧ call.1.cdata_count.toNat ≤ call.1.cdata.toNat
      ∧ call.1.cdata.toNat ≤ 4
    rw [hccount, hcdata]
    generalize field c 109 2 = dl
    revert dl
    decide
  · have hfinish := @TagLedger.Sound.finish s.ledger _ h.ledger _ (flight_of_head hresp) hlast
      s.ledger.fifo [] (s.ledger.moving ++ [(TlResp.capptag (field c 215 38), wordShape c)])
      (by
        rw [List.map_append, List.append_nil]
        change _ ++ (_ ++ [_]) |>.Perm (_ :: (_ ++ (_ ++ s.resp.busy)))
        rw [hbusy, List.append_nil, ← List.append_assoc]
        exact List.perm_append_singleton _ _)
      (fun x hx => by
        rcases List.mem_append.mp hx with hx | hx
        · exact .inl hx
        · refine .inr ((List.mem_singleton.mp hx).trans ?_)
          change _ = (_, s.stored _)
          rw [stored_of_joined hj])
      (fun t ht => by cases ht)
    have hmoving : (MemNode.written { s with resp := call.1, tl_fifo_resp := rest }
        call.2).ledger.moving.Perm
        (s.ledger.moving ++ [(TlResp.capptag (field c 215 38), wordShape c)]) := by
      change ((s.ingress.held.filter tlxHasTag).map MemNode.tlxEntry ++ (RtyEng.cmds
        (MemNode.written { s with resp := call.1, tl_fifo_resp := rest } call.2).rty _).map
          MemNode.rtyEntry).Perm _
      rw [hrty, ← hentry]
      refine ((hcmds.map MemNode.rtyEntry).append_left _).trans ?_
      rw [List.map_append, ← List.append_assoc]
      exact List.Perm.refl _
    have heq : (MemNode.written { s with resp := call.1, tl_fifo_resp := rest } call.2).ledger
        = { s.ledger with
            fifo := s.ledger.fifo, busy := []
            moving := (MemNode.written { s with resp := call.1, tl_fifo_resp := rest }
              call.2).ledger.moving
            flight := rest.map (fun c => field c 215 38) ++ s.tl_resp } := by
      refine TagLedger.ext ?_ rfl rfl ?_ rfl rfl rfl hbusy'
      · change seededTags (call.1.capptag_count.toNat - 1) = _
        rw [hcall]
        rfl
      · change s.capptag_fifo ++ call.2.lookup_out.toList = _
        rw [hlookup, Option.toList_none, List.append_nil]
        rfl
    rw [heq]
    exact hfinish.permute (hmoving.append_right _) fun t ht => ht

/-- The ledger after a header, by the tags that the branch frees and keeps. -/
lemma header_ledger (h : NodeInv s) {c : RespCombo} {rest : List RespCombo}
    (hresp : s.tl_fifo_resp = c :: rest) (hbusy : s.resp.busy = []) {call : RespEng × RespWrites}
    (hnone : call.2.rtry_do_cmd_out = none)
    (hcount : call.1.capptag_count = s.resp.capptag_count)
    (htags : call.2.lookup_out.toList ++ call.1.busy
      = if s.ledger.last (field c 215 38) then [TlResp.capptag (field c 215 38)] else []) :
    (MemNode.written { s with resp := call.1, tl_fifo_resp := rest } call.2).ledger.Sound := by
  have hflight := flight_of_head hresp
  have hrty : (MemNode.written { s with resp := call.1, tl_fifo_resp := rest } call.2).rty = s.rty :=
    written_rty _ hnone
  have heq : (MemNode.written { s with resp := call.1, tl_fifo_resp := rest } call.2).ledger
      = { s.ledger with
          fifo := s.ledger.fifo ++ call.2.lookup_out.toList, busy := call.1.busy
          flight := rest.map (fun c => field c 215 38) ++ s.tl_resp } := by
    refine TagLedger.ext ?_ rfl rfl rfl ?_ rfl rfl rfl
    · change seededTags (call.1.capptag_count.toNat - 1) = _
      rw [hcount]
      rfl
    · change _ ++ (RtyEng.cmds (MemNode.written _ _).rty _).map _ = _
      rw [hrty]
      rfl
  rw [heq]
  cases hl : s.ledger.last (field c 215 38) with
  | true =>
      rw [hl, if_pos rfl] at htags
      refine h.ledger.finish hflight hl ?_ (fun x hx => .inl hx) fun t ht => ?_
      · refine List.perm_iff_count.mpr fun t => ?_
        have hcounts := congrArg (List.count t) htags
        have hnone' : s.ledger.busy = [] := hbusy
        simp only [List.count_append, List.count_cons, List.count_nil, hnone'] at hcounts ⊢
        omega
      · have hmem : t ∈ call.2.lookup_out.toList ++ call.1.busy := List.mem_append_right _ ht
        rw [htags] at hmem
        exact List.mem_cons.mpr (.inl (List.mem_singleton.mp hmem))
  | false =>
      rw [hl, if_neg Bool.false_ne_true, List.append_eq_nil_iff] at htags
      have hdrop := h.ledger.drop hflight hl
      rw [htags.1, htags.2, List.append_nil]
      have hsame : { s.ledger with
          fifo := s.ledger.fifo, busy := []
          flight := rest.map (fun c => field c 215 38) ++ s.tl_resp }
          = { s.ledger with flight := rest.map (fun c => field c 215 38) ++ s.tl_resp } :=
        TagLedger.ext rfl rfl rfl rfl rfl rfl rfl hbusy.symm
      rw [hsame]
      exact hdrop

/-- The rest of the invariant, for a branch that writes nothing to the retry engine. -/
lemma header_written (h : NodeInv s) {c : RespCombo} {rest : List RespCombo}
    (hresp : s.tl_fifo_resp = c :: rest) (howed : s.resp.owed = 0) {call : RespEng × RespWrites}
    (hnone : call.2.rtry_do_cmd_out = none) (howed' : call.1.owed = 0) (hcounted : call.1.Counted)
    (hsound : (MemNode.written { s with resp := call.1, tl_fifo_resp := rest } call.2).ledger.Sound) :
    NodeInv (MemNode.written { s with resp := call.1, tl_fifo_resp := rest } call.2) := by
  have hrty : (MemNode.written { s with resp := call.1, tl_fifo_resp := rest } call.2).rty = s.rty :=
    written_rty _ hnone
  refine ⟨h.orderly, ?_, hcounted, hsound,
    fun c' hc' => h.joined c' (by rw [hresp]; exact List.mem_cons_of_mem c hc'), h.writes⟩
  rw [hrty]
  change s.rty.Framed call.1.owed _
  rw [howed', ← howed]
  exact h.framed

/-- State GET_CMD, the response goes to the network. -/
lemma resp_header (h : NodeInv s) (hsm : s.resp.smstate = .GET_CMD) {c : RespCombo}
    {rest : List RespCombo} (hresp : s.tl_fifo_resp = c :: rest)
    (hst : bit (RespEng.comboState c) 0 = false) :
    NodeInv (MemNode.written { s with resp := (s.resp.getCmd c).1, tl_fifo_resp := rest }
      (s.resp.getCmd c).2) := by
  obtain ⟨howed, hbusy⟩ := idle_of_getCmd hsm
  have hcall := RespEng.getCmd_eq s.resp c
  rw [if_neg (by rw [hst]; exact Bool.false_ne_true)] at hcall
  have hlast := h.last_of_head hresp
  rw [lastResp] at hlast
  have hlast' : s.ledger.last (field c 215 38)
      = if bit (RespEng.comboState c) 1 then
          !(TlResp.dl (field c 215 38) ≠ field c 109 2 && TlResp.dp (field c 215 38) = 0)
        else bit (RespEng.comboState c) 2 := by
    rw [hlast]
    exact if_neg (by rw [RespEng.comboState] at hst; rw [hst]; exact Bool.false_ne_true)
  by_cases h1 : bit (RespEng.comboState c) 1 = true
  · -- with data
    rw [if_pos h1] at hcall
    rw [if_pos h1] at hlast'
    rw [hcall]
    refine h.header_written hresp howed rfl (if_neg fun hx => by cases hx.2) ?_
      (h.header_ledger hresp hbusy rfl rfl ?_)
    · exact h.counted_of_getCmd hsm rfl (fun hx => by cases hx) fun _ hx => by cases hx
    · rw [hlast', RespEng.busy]
      simp only [RespEng.comboRead, Option.toList_none, List.nil_append, true_and]
      cases hkeep : (decide (TlResp.dl (field c 215 38) ≠ field c 109 2)
        && decide (TlResp.dp (field c 215 38) = 0)) <;> rfl
  · rw [if_neg h1] at hcall hlast'
    by_cases h2 : bit (RespEng.comboState c) 2 = true
    · -- without data
      rw [if_pos h2] at hcall
      rw [h2] at hlast'
      have hidle : (RespEng.comboRead s.resp c).smstate = .GET_CMD := hsm
      obtain ⟨howed', hbusy'⟩ := idle_of_getCmd hidle
      rw [hcall]
      refine h.header_written hresp howed rfl howed' ?_
        (h.header_ledger hresp hbusy rfl rfl ?_)
      · exact h.counted_of_getCmd hsm rfl (by rw [hidle]; decide) fun hx => by
          rw [hidle] at hx
          cases hx
      · rw [hlast', if_pos rfl, hbusy']
        rfl
    · -- neither
      rw [if_neg h2] at hcall
      rw [eq_false_of_ne_true h2] at hlast'
      have hidle : (RespEng.comboRead s.resp c).smstate = .GET_CMD := hsm
      obtain ⟨howed', hbusy'⟩ := idle_of_getCmd hidle
      rw [hcall]
      refine h.header_written hresp howed rfl howed' ?_
        (h.header_ledger hresp hbusy rfl rfl ?_)
      · exact h.counted_of_getCmd hsm rfl (by rw [hidle]; decide) fun hx => by
          rw [hidle] at hx
          cases hx
      · rw [hlast', if_neg Bool.false_ne_true, hbusy']
        rfl

/-! ## State GET_DATA -/

/-- The engine while it forwards data of the host. -/
lemma idle_of_host {e : RespEng} (hflag : e.respdataflag = true) : e.owed = 0 :=
  if_neg fun hx => by rw [hflag] at hx; cases hx.2

/-- State GET_DATA, a data flit of the host goes to the network. -/
lemma resp_data (h : NodeInv s) (hsm : s.resp.smstate = .GET_DATA)
    (hflag : s.resp.respdataflag = true) (d : OCxFlit) (rest : List OCxFlit) :
    NodeInv (MemNode.written { s with resp := (s.resp.getHostData d).1, tl_fifo_data := rest }
      (s.resp.getHostData d).2) := by
  have hrun := h.counted.running (by rw [hsm]; decide)
  -- the invariant, for a branch that frees or keeps the tag
  have hrest : ∀ call : RespEng × RespWrites, call.2.rtry_do_cmd_out = none →
      call.1.smstate ≠ .INIT → call.1.capptag_count = s.resp.capptag_count →
      call.1.respdataflag = true → call.2.lookup_out.toList ++ call.1.busy = s.resp.busy →
      NodeInv (MemNode.written { s with resp := call.1, tl_fifo_data := rest } call.2) := by
    intro call hnone hne hcount hflag' htags
    have hrty : (MemNode.written { s with resp := call.1, tl_fifo_data := rest } call.2).rty = s.rty :=
      written_rty _ hnone
    have heq : (MemNode.written { s with resp := call.1, tl_fifo_data := rest } call.2).ledger
        = { s.ledger with
            fifo := s.ledger.fifo ++ call.2.lookup_out.toList, busy := call.1.busy } := by
      refine TagLedger.ext ?_ rfl rfl rfl ?_ rfl rfl rfl
      · change seededTags (call.1.capptag_count.toNat - 1) = _
        rw [hcount]
        rfl
      · change _ ++ (RtyEng.cmds (MemNode.written _ _).rty _).map _ = _
        rw [hrty]
        rfl
    refine ⟨h.orderly, ?_, ⟨fun _ hx => ?_, fun hx => absurd hx hne, fun _ => hcount.trans hrun⟩, ?_,
      h.joined, h.writes⟩
    · rw [hrty]
      change s.rty.Framed call.1.owed _
      rw [idle_of_host hflag', ← idle_of_host hflag]
      exact h.framed
    · change call.1.respdataflag = false at hx
      rw [hflag'] at hx
      cases hx
    · rw [heq]
      refine h.ledger.release ?_ fun t ht => ?_
      · change (s.capptag_fifo ++ call.2.lookup_out.toList ++ call.1.busy).Perm _
        rw [List.append_assoc, htags]
        exact List.Perm.refl _
      · change t ∈ s.resp.busy
        rw [← htags]
        exact List.mem_append_right _ ht
  by_cases hone : s.resp.cdata ≠ 1
  · have hcall : s.resp.getHostData d = ({ s.resp with cdata := s.resp.cdata - 1 },
        { network_cmd_out0 := some d.toOCxFlit }) := if_pos hone
    rw [hcall]
    refine hrest _ rfl (fun hx => ?_) rfl hflag rfl
    have hx' : s.resp.smstate = .INIT := hx
    rw [hsm] at hx'
    cases hx'
  · have hcall : s.resp.getHostData d = ({ s.resp with smstate := .GET_CMD },
        { lookup_out := if s.resp.keeplookupentry then none else some s.resp.localtag
          network_cmd_out0 := some d.toOCxFlit }) := if_neg hone
    rw [hcall]
    refine hrest _ rfl (fun hx => by cases hx) rfl hflag ?_
    have hidle : RespEng.busy { s.resp with smstate := .GET_CMD } = [] := (idle_of_getCmd rfl).2
    rw [hidle, RespEng.busy, hsm, hflag]
    cases s.resp.keeplookupentry <;> rfl

/-- State GET_DATA, a data flit of the store goes to the retry engine. -/
lemma resp_replay (h : NodeInv s) (hsm : s.resp.smstate = .GET_DATA)
    (hflag : s.resp.respdataflag = false) (data0lookup data1lookup : Tag → Flit512) :
    NodeInv (MemNode.written { s with resp := (s.resp.getStoreData data0lookup data1lookup).1 }
      (s.resp.getStoreData data0lookup data1lookup).2) := by
  obtain ⟨hcounted, -, howing, howed⟩ := h.counted.getStoreData hsm hflag data0lookup data1lookup
  generalize hx : (if s.resp.cdata_count = 1 then data0lookup s.resp.localtag
    else if s.resp.cdata_count = 2 then data1lookup s.resp.localtag else 0) = x
  have hcall : (s.resp.getStoreData data0lookup data1lookup).2 = { rtry_do_cmd_out := some x } := by
    rw [RespEng.getStoreData, hx]
  have hcount : (s.resp.getStoreData data0lookup data1lookup).1.capptag_count
      = s.resp.capptag_count := rfl
  have hflag' : (s.resp.getStoreData data0lookup data1lookup).1.respdataflag = false := hflag
  rw [hcall]
  generalize (s.resp.getStoreData data0lookup data1lookup).1 = e at *
  have hbusy : s.resp.busy = [] := if_neg fun hx => by rw [hflag] at hx; cases hx.2.1
  have hbusy' : e.busy = [] := if_neg fun hx => by rw [hflag'] at hx; cases hx.2.1
  have hpush := h.framed.push x
  have hcmds := h.framed.cmds_push x
  rw [next_pos howing] at hpush
  rw [if_neg howing, List.append_nil] at hcmds
  refine ⟨h.orderly, ?_, hcounted, ?_, h.joined, h.writes⟩
  · change RtyEng.Framed { s.rty with input_fifo := s.rty.input_fifo ++ [x] } e.owed _
    rw [howed]
    exact hpush
  · have hperm : (((s.ingress.held.filter tlxHasTag).map MemNode.tlxEntry
        ++ (RtyEng.cmds { s.rty with input_fifo := s.rty.input_fifo ++ [x] }
          s.ingress.dflit_size_rty.toNat).map MemNode.rtyEntry) ++ s.ledger.host).Perm
        (s.ledger.moving ++ s.ledger.host) :=
      ((hcmds.map MemNode.rtyEntry).append_left _).append_right _
    have heq : (MemNode.written { s with resp := e } { rtry_do_cmd_out := some x }).ledger
        = { s.ledger with
            moving := (s.ingress.held.filter tlxHasTag).map MemNode.tlxEntry
              ++ (RtyEng.cmds { s.rty with input_fifo := s.rty.input_fifo ++ [x] }
                s.ingress.dflit_size_rty.toNat).map MemNode.rtyEntry
            host := s.ledger.host } := by
      refine TagLedger.ext ?_ rfl rfl (List.append_nil _) rfl rfl rfl (hbusy'.trans hbusy.symm)
      change seededTags (e.capptag_count.toNat - 1) = _
      rw [hcount]
      rfl
    rw [heq]
    exact h.ledger.permute hperm fun t ht => ht

/-- **A call of the response engine.** -/
theorem resp (h : NodeInv s) (enable : Bool) : NodeInv (s.step (.resp enable)) := by
  cases hcall : s.respCall enable with
  | none =>
      rw [MemNode.step_resp_of_none hcall]
      exact h
  | some call =>
      rw [MemNode.step_resp_of_some hcall]
      have hcall' : s.respEngSM enable = some call := (Option.filter_eq_some_iff.mp hcall).1
      rw [MemNode.respEngSM] at hcall'
      cases hsm : s.resp.smstate with
      | INIT =>
          rw [hsm] at hcall'
          cases enable with
          | false => cases hcall'
          | true =>
              obtain rfl := Option.some.inj hcall'
              exact h.resp_init hsm
      | GET_CMD =>
          rw [hsm] at hcall'
          cases hresp : s.tl_fifo_resp with
          | nil =>
              rw [hresp] at hcall'
              cases hcall'
          | cons c rest =>
              rw [hresp] at hcall'
              obtain rfl := Option.some.inj hcall'
              cases hst : bit (RespEng.comboState c) 0 with
              | true => exact h.resp_retry hsm hresp hst
              | false => exact h.resp_header hsm hresp hst
      | GET_DATA =>
          rw [hsm] at hcall'
          cases hflag : s.resp.respdataflag with
          | true =>
              rw [hflag] at hcall'
              cases hdata : s.tl_fifo_data with
              | nil =>
                  rw [hdata] at hcall'
                  cases hcall'
              | cons d rest =>
                  rw [hdata] at hcall'
                  obtain rfl := Option.some.inj hcall'
                  exact h.resp_data hsm hflag d rest
          | false =>
              rw [hflag] at hcall'
              obtain rfl := Option.some.inj hcall'
              exact h.resp_replay hsm hflag _ _

/-! ## Every run -/

lemma init : NodeInv {} where
  orderly := MemoryIngress.orderly_init
  framed := RtyEng.Framed.init
  counted := ⟨(fun hx => by cases hx), (fun _ => by decide), fun hx => absurd rfl hx⟩
  ledger := ⟨List.nodup_nil, List.Perm.refl _, (fun _ hc => by cases hc), (fun _ ht => by cases ht),
    trivial⟩
  joined _ hc := by cases hc
  writes hx := by cases hx

/-- **One move.** -/
theorem step (h : NodeInv s) {m : NodeMove} (hok : NodeOk P9Parts s m) : NodeInv (s.step m) := by
  cases m with
  | clock w => exact h.clock hok.1 hok.2
  | load => exact h.load
  | resp enable => exact h.resp enable
  | rty => exact h.rty
  | answer r data more =>
      obtain ⟨e, he, hr⟩ := hok
      exact h.answer he hr
  | deliver =>
      cases hdue : s.due with
      | nil =>
          rw [MemNode.step_deliver_of_nil hdue]
          exact h
      | cons d rest =>
          rw [MemNode.step_deliver_of_cons hdue]
          exact ⟨h.orderly, h.framed, h.counted, h.ledger, h.joined, h.writes⟩

/-- Every reachable state. -/
theorem run (ms : List NodeMove) (hok : memNode.Meets (NodeOk P9Parts) ms) :
    NodeInv (memNode.run ms) :=
  memNode.invariant init (fun _ _ h hm => h.step hm) ms hok

end NodeInv

end ThymesisFlow
