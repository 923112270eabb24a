import ThymesisFlow.Memory.Retried

/-!
# The invariant of the retry path

`RetryInv` says what the streams and registers between the lookup BRAMs and the memory ingress carry, in
terms of the log: the commands on the retry path repeat the last commands with their tags, and the data
behind them is the data of these commands.  It holds as long as the host asks again only for commands whose
data it has been given, and for no write of 64 bytes.
-/

namespace ThymesisFlow

open Script

/-! ## What is asked of the host -/

/-- The response sends its command back to the memory ingress. -/
def TlResp.Retries (r : TlResp) : Prop :=
  TlResp.kind r = some .rty ∨ TlResp.kind r = some .xlateDone

instance (r : TlResp) : Decidable r.Retries := inferInstanceAs (Decidable (_ ∨ _))

/-- The engine sends a command back for these responses only. -/
lemma TlResp.retries_of_bit {r : TlResp} {k : RespKind} (hk : TlResp.kind r = some k)
    (h : bit (respState (TlResp.opcode r) (TlResp.code r)) 0 = true) : r.Retries := by
  rw [RespEng.respState_eq hk] at h
  cases k with
  | rty => exact .inl hk
  | xlateDone => exact .inr hk
  | readOk | writeOk | fail | pend => exact absurd h (by decide)

/-- The host has been given the data of the last command with the tag. -/
def Handed (s : MemNode) (txns : List IngressTxn) (t : Tag) : Prop :=
  ∀ y ∈ latest txns (tagRow t),
    y.Whole ∧ (txns.getLast? = some y → s.ingress.tlx_data_valid_q = false)

/-- The last command with the tag is no write of 64 bytes. -/
def NotShort (txns : List IngressTxn) (t : Tag) : Prop := ∀ y ∈ latest txns (tagRow t), ¬ y.ShortWrite

instance (s : MemNode) (txns : List IngressTxn) (t : Tag) : Decidable (Handed s txns t) :=
  inferInstanceAs (Decidable (∀ y ∈ latest txns (tagRow t), _ ∧ (_ → _)))

instance (txns : List IngressTxn) (t : Tag) : Decidable (NotShort txns t) :=
  inferInstanceAs (Decidable (∀ y ∈ latest txns (tagRow t), ¬ _))

/-! ## The invariant -/

/-- The tag has been given to a command and has not come back. -/
def MemNode.InUse (s : MemNode) (t : Tag) : Prop := t ∈ s.ledger.seeded ∧ t ∉ s.capptag_fifo

/-- The lookup BRAMs hold the last command `y` with the tag `t`, in the places from which it is
replayed. -/
structure Replayable (data0lookup data1lookup : BitVec 9 → Flit512) (txns : List IngressTxn) (t : Tag)
    (y : IngressTxn) : Prop where
  latest : latest txns (tagRow t) = some y
  tag : y.tag = t
  whole : y.Whole
  long : ¬ y.ShortWrite
  data0 : ∀ a, y.size = 2 → y.data[0]? = some a → data0lookup (tagRow t) = a
  data1 : ∀ a, y.size = 2 → y.data[1]? = some a → data1lookup (tagRow t) = a

/-- The engine replays the store. -/
def RespEng.Replaying (e : RespEng) : Prop := e.smstate = .GET_DATA ∧ e.respdataflag = false

/-- What the response engine still owes is what it will read from the data BRAMs. -/
def Replays (s : MemNode) (txns : List IngressTxn) (owed : List (Option Flit512)) : Prop :=
  s.resp.Replaying → s.InUse s.resp.localtag ∧ ∃ y,
    Replayable s.data0lookup s.data1lookup txns s.resp.localtag y ∧ ∀ k a, owed[k]? = some (some a) →
      y.size = 2 ∧ y.data[s.resp.cdata_count.toNat - 1 + k]? = some a

/-- A transaction of the retry path repeats the last command of the network with its tag. -/
def Again (before : List IngressTxn) (x : IngressTxn) : Prop :=
  x.fresh = false → ∃ y, latest before (tagRow x.tag) = some y ∧ x.Repeats y ∧ ¬ y.ShortWrite ∧
    y.Whole ∧ (y.size = 2 → x.data <+: y.data)

/-- What the memory ingress expects from the retry path is the rest of the data of the first issue. -/
def Expects (txns : List IngressTxn) (due : List (Option Flit512)) : Prop :=
  ∀ pre x, txns = pre ++ [x] → x.fresh = false → ∀ y, latest pre (tagRow x.tag) = some y → y.size = 2 →
    due = (y.data.drop x.data.length).map some

/-- `owed` is still to be written to the retry engine, and `due` is what the memory ingress expects. -/
structure RetryInv (s : MemNode) (txns : List IngressTxn) (owed due : List (Option Flit512)) :
    Prop where
  script : RtyEng.Scripted (RepeatsLatest txns) (prescribed txns) s.rty owed due
  owing : owed.length = s.resp.owed
  awaited : due.length = s.ingress.dflit_size_rty.toNat
  replay : Replays s txns owed
  flight : ∀ r ∈ s.flight, bit (respState (TlResp.opcode r) (TlResp.code r)) 0 = true →
    ∃ y, Replayable s.data0lookup s.data1lookup txns (TlResp.capptag r) y
  inUse : ∀ t, s.InUse t → ∃ y, latest txns (tagRow t) = some y ∧ y.tag = t
  expects : Expects txns due
  again : Each Again txns
  port0 : PortOf s.ingress txns s.ingress.d0lookup
  port1 : PortOf s.ingress txns s.ingress.d1lookup

lemma RespEng.owed_of_not_replaying {e : RespEng} (h : ¬ e.Replaying) : e.owed = 0 := if_neg h

/-- A response that is not sent back leaves nothing to replay. -/
lemma RespEng.getCmd_header {e : RespEng} {c : RespCombo} (hsm : e.smstate = .GET_CMD)
    (hst : bit (comboState c) 0 = false) : (e.getCmd c).2.rtry_do_cmd_out = none ∧
      ¬ (e.getCmd c).1.Replaying ∧ (e.getCmd c).1.capptag_count = e.capptag_count := by
  have hread : ¬ (comboRead e c).Replaying := by
    rintro ⟨hx, -⟩
    have hx' : e.smstate = .GET_DATA := hx
    rw [hsm] at hx'
    cases hx'
  rw [getCmd_eq, if_neg (by rw [hst]; exact Bool.false_ne_true)]
  split_ifs
  · exact ⟨rfl, fun hx => absurd hx.2 (by simp), rfl⟩
  · exact ⟨rfl, hread, rfl⟩
  · exact ⟨rfl, hread, rfl⟩

/-- Nor does data of the host. -/
lemma RespEng.getHostData_keeps {e : RespEng} (hflag : e.respdataflag = true) (d : OCxFlit) :
    (e.getHostData d).2.rtry_do_cmd_out = none ∧ ¬ (e.getHostData d).1.Replaying ∧
      (e.getHostData d).1.capptag_count = e.capptag_count := by
  by_cases hone : e.cdata ≠ 1
  · rw [getHostData, if_pos hone]
    exact ⟨rfl, fun hx => absurd (hflag.symm.trans hx.2) (by simp), rfl⟩
  · rw [getHostData, if_neg hone]
    exact ⟨rfl, fun hx => absurd hx.1 (by simp), rfl⟩

namespace NodeInv

variable {s : MemNode} {t t' : Tag}

lemma inUse_of_owned (h : NodeInv s) (ht : t ∈ s.ledger.owned) : s.InUse t :=
  ⟨h.ledger.mem_seeded (List.mem_append_right _ ht), fun hf => h.ledger.not_owned_of_fifo hf ht⟩

/-- A free tag has another row than one in use. -/
lemma row_ne (h : NodeInv s) (ht : t ∈ s.capptag_fifo) (ht' : s.InUse t') : tagRow t ≠ tagRow t' := by
  intro hrow
  have hseeded : t ∈ s.ledger.seeded := h.ledger.mem_seeded (List.mem_append_left _ ht)
  obtain rfl := tagRow_inj (h.seeded_range hseeded) (h.seeded_range ht'.1) hrow
  exact ht'.2 ht

/-- The tags of the commands on the retry path are in use. -/
lemma inUse_of_cmds (h : NodeInv s) {f : Flit512}
    (hf : f ∈ s.rty.cmds s.ingress.dflit_size_rty.toNat) : s.InUse (rtyTag f) := by
  refine h.inUse_of_owned (List.mem_append_left _ ?_)
  have hmem : MemNode.rtyEntry f ∈ s.ledger.moving ++ s.ledger.host :=
    List.mem_append_left _ (List.mem_append_right _ (List.mem_map_of_mem hf))
  exact List.mem_map_of_mem (f := Prod.fst) hmem

end NodeInv

namespace RetryInv

variable {s : MemNode} {txns : List IngressTxn} {owed due : List (Option Flit512)}

lemma init : RetryInv {} [] [] [] where
  script := RtyEng.Scripted.init
  owing := rfl
  awaited := rfl
  replay h := by cases h.1
  flight r hr := by cases hr
  inUse t ht := by cases ht.1
  expects pre x h := by simp at h
  again := each_nil
  port0 := .silent rfl
  port1 := .silent rfl

/-! ## The lookup stage, the retry engine and the host -/

/-- A call of the lookup stage. -/
lemma load (h : RetryInv s txns owed due) : RetryInv s.load txns owed due := by
  have hflight := s.flight_load
  rw [MemNode.load] at hflight ⊢
  cases hresp : s.tl_resp with
  | nil => exact h
  | cons r rest =>
      rw [hresp] at hflight
      refine ⟨h.script, h.owing, h.awaited, h.replay, fun r' hr' => ?_, h.inUse, h.expects, h.again, h.port0,
        h.port1⟩
      have hr'' : r' ∈ s.flight := by
        rw [← hflight]
        exact hr'
      exact h.flight r' hr''

/-- A call of the retry engine. -/
lemma rty (h : RetryInv s txns owed due) (hn : NodeInv s) :
    RetryInv { s with rty := (rtyEngSM s.rty).getD s.rty } txns owed due := by
  cases hcall : rtyEngSM s.rty with
  | none => exact h
  | some e =>
      have hscript := h.script.step (length_prescribed txns) hn.framed.count hcall
      exact ⟨hscript, h.owing, h.awaited, h.replay, h.flight, h.inUse, h.expects, h.again, h.port0, h.port1⟩

/-- The host answers. -/
lemma answer (h : RetryInv s txns owed due) (hn : NodeInv s) {hist : IngressHistory}
    {first : List (BitVec 200)} (ht : IngressTrace s.lookup hist first txns)
    {parts : HostEntry → TlResp → Bool → Prop} {e : HostEntry} (he : e ∈ s.host) {r : TlResp}
    {data : List OCxFlit} {more : Bool} (hr : HostAnswer parts e r data more)
    (hhanded : r.Retries → Handed s txns (TlResp.capptag r))
    (hlong : r.Retries → NotShort txns (TlResp.capptag r)) :
    RetryInv (s.step (.answer r data more)) txns owed due := by
  have hflight : (s.step (.answer r data more)).flight = s.flight ++ [r] :=
    (List.append_assoc _ _ _).symm
  refine ⟨h.script, h.owing, h.awaited, h.replay, fun r' hr' hbit => ?_, h.inUse, h.expects, h.again, h.port0,
    h.port1⟩
  rw [hflight] at hr'
  rcases List.mem_append.mp hr' with hr' | hr'
  · exact h.flight r' hr' hbit
  · obtain rfl := List.mem_singleton.mp hr'
    obtain ⟨k, hk⟩ := NodeInv.kind_of_answer hr
    have hretries := TlResp.retries_of_bit hk hbit
    have hhost : MemNode.tlxEntry e.cmd ∈ s.ledger.moving ++ s.ledger.host :=
      List.mem_append_right _ (List.mem_map_of_mem (f := fun e : HostEntry => MemNode.tlxEntry e.cmd) he)
    have howned : e.tag ∈ s.ledger.owned :=
      List.mem_append_left _ (List.mem_map_of_mem (f := Prod.fst) hhost)
    rw [hr.tag] at howned
    obtain ⟨y, hy, htag⟩ := h.inUse _ (hn.inUse_of_owned howned)
    obtain ⟨hwhole, hout⟩ := hhanded hretries y hy
    have h0 : s.lookup.store0 _ = s.data0lookup _ := store_of_handed h.port0 hy hout s.data0lookup
    have h1 : s.lookup.store1 _ = s.data1lookup _ := store_of_handed h.port1 hy hout s.data1lookup
    refine ⟨y, hy, htag, hwhole, hlong hretries y hy, fun a hsize ha => ?_, fun a hsize ha => ?_⟩
    · exact h0.symm.trans (ht.kept.data0 _ y a hy hsize ha)
    · exact h1.symm.trans (ht.kept.data1 _ y a hy hsize ha)

/-! ## The response engine -/

/-- A call of the response engine that writes nothing to the retry engine. -/
lemma quiet (h : RetryInv s txns owed due) {e : RespEng} {resps : List RespCombo} {data : List OCxFlit}
    {w : RespWrites} (hw : w.rtry_do_cmd_out = none) (hfrom : ¬ s.resp.Replaying) (hto : ¬ e.Replaying)
    (hflight : ∀ c ∈ resps, c ∈ s.tl_fifo_resp)
    (hseeded : ∀ t ∈ seededTags (e.capptag_count.toNat - 1),
      t ∈ s.ledger.seeded ∨ t ∈ w.lookup_out.toList) :
    RetryInv (MemNode.written { s with resp := e, tl_fifo_resp := resps, tl_fifo_data := data } w)
      txns owed due := by
  have hrty : (MemNode.written { s with resp := e, tl_fifo_resp := resps, tl_fifo_data := data } w).rty
      = s.rty := NodeInv.written_rty _ hw
  refine ⟨?_, ?_, h.awaited, fun hx => absurd hx hto, fun r hr => ?_, fun t ht => ?_, h.expects, h.again,
    h.port0, h.port1⟩
  · rw [hrty]
    exact h.script
  · have howed := h.owing
    rw [RespEng.owed_of_not_replaying hfrom] at howed
    exact howed.trans (RespEng.owed_of_not_replaying hto).symm
  · refine h.flight r ?_
    have hr' : r ∈ resps.map (fun c => field c 215 38) ++ s.tl_resp := hr
    rcases List.mem_append.mp hr' with hr' | hr'
    · exact List.mem_append_left _ (List.map_subset _ hflight hr')
    · exact List.mem_append_right _ hr'
  · obtain ⟨hmem, hno⟩ := ht
    have hno' : t ∉ s.capptag_fifo ++ w.lookup_out.toList := hno
    rw [List.mem_append, not_or] at hno'
    exact h.inUse t ⟨(hseeded t hmem).resolve_right hno'.2, hno'.1⟩

/-- The response engine sends a command to the retry engine. -/
lemma retry (h : RetryInv s txns owed due) (hn : NodeInv s) {hist : IngressHistory}
    {first : List (BitVec 200)} (ht : IngressTrace s.lookup hist first txns)
    (hsm : s.resp.smstate = .GET_CMD) {c : RespCombo} {rest : List RespCombo}
    (hresp : s.tl_fifo_resp = c :: rest) (hst : bit (RespEng.comboState c) 0 = true) :
    RetryInv (MemNode.written { s with resp := (s.resp.getCmd c).1, tl_fifo_resp := rest }
      (s.resp.getCmd c).2) txns (prescribed txns (RespEng.comboRetry s.resp c)) due := by
  have hmem : field c 215 38 ∈ s.flight := by
    rw [MemNode.flight, hresp]
    exact List.mem_cons_self
  have hinUse := hn.inUse_of_owned (hn.ledger.flight_owned hmem)
  obtain ⟨y, hy⟩ := h.flight _ hmem hst
  have hjoined := hn.joined c (by rw [hresp]; exact List.mem_cons_self)
  have hrecord : s.store (tagRow (TlResp.capptag (field c 215 38))) = y.record :=
    ht.kept.cmd _ y hy.latest
  rw [MemNode.Joined, hrecord] at hjoined
  have hrepeats := repeats_comboRetry (e := s.resp) (fresh_of_latest hy.latest) hjoined hy.tag.symm
  have hlatest : latest txns (tagRow (rtyTag (RespEng.comboRetry s.resp c))) = some y := by
    rw [RespEng.rtyTag_comboRetry]
    exact hy.latest
  have howed := RespEng.owed_getCmd (e := s.resp) hst
  have hnil : owed = [] := by
    have hlen := h.owing
    rw [(NodeInv.idle_of_getCmd hsm).1] at hlen
    exact List.length_eq_zero_iff.mp hlen
  have hcall := RespEng.getCmd_eq s.resp c
  rw [if_pos hst] at hcall
  generalize s.resp.getCmd c = call at *
  have hwrite : call.2.rtry_do_cmd_out = some (RespEng.comboRetry s.resp c) := by rw [hcall]
  have hlookup : call.2.lookup_out = none := by rw [hcall]
  have hcount : call.1.capptag_count = s.resp.capptag_count := by
    rw [hcall]
    rfl
  have htag : call.1.localtag = TlResp.capptag (field c 215 38) := by
    rw [hcall]
    rfl
  have hcdata : call.1.cdata_count = 1 := by rw [hcall]
  have hpush := (hnil ▸ h.script).push
    (x := RespEng.comboRetry s.resp c) ⟨y, hlatest, hrepeats, hy.whole, hy.long⟩
  generalize RespEng.comboRetry s.resp c = f at *
  have hrty : (MemNode.written { s with resp := call.1, tl_fifo_resp := rest } call.2).rty
      = { s.rty with input_fifo := s.rty.input_fifo ++ [f] } := by
    rw [MemNode.written, hwrite]
    rfl
  have hfifo : (MemNode.written { s with resp := call.1, tl_fifo_resp := rest } call.2).capptag_fifo
      = s.capptag_fifo := by
    rw [MemNode.written, hlookup]
    exact List.append_nil _
  have hseeded : (MemNode.written { s with resp := call.1, tl_fifo_resp := rest } call.2).ledger.seeded
      = s.ledger.seeded := congrArg (fun n : Tag => seededTags (n.toNat - 1)) hcount
  have hkeep : ∀ t, (MemNode.written { s with resp := call.1, tl_fifo_resp := rest } call.2).InUse t ↔
      s.InUse t := by
    intro t
    rw [MemNode.InUse, hfifo, hseeded]
    rfl
  refine ⟨?_, ?_, h.awaited, fun _ => ?_, fun r hr => ?_, fun t hx => h.inUse t ((hkeep t).mp hx), h.expects,
    h.again, h.port0, h.port1⟩
  · rw [hrty]
    exact hpush
  · exact (length_prescribed txns f).trans howed.symm
  · have htag' : (MemNode.written { s with resp := call.1, tl_fifo_resp := rest } call.2).resp.localtag
        = TlResp.capptag (field c 215 38) := htag
    have hcdata' : (MemNode.written { s with resp := call.1, tl_fifo_resp := rest }
        call.2).resp.cdata_count = 1 := hcdata
    rw [htag', hcdata', hkeep]
    refine ⟨hinUse, y, hy, fun k a ha => ?_⟩
    obtain ⟨hsize, hk⟩ := getElem?_prescribed hlatest ha
    refine ⟨hrepeats.size.symm.trans ((toNat_cmdDflitSize f).trans hsize), ?_⟩
    change y.data[0 + k]? = some a
    rw [Nat.zero_add]
    exact hk
  · refine h.flight r ?_
    have hr' : r ∈ rest.map (fun c => field c 215 38) ++ s.tl_resp := hr
    rw [MemNode.flight, hresp]
    exact List.mem_cons_of_mem _ hr'

/-- The response engine replays a data flit. -/
lemma replayed (h : RetryInv s txns owed due) (hn : NodeInv s) (hreplaying : s.resp.Replaying) :
    RetryInv (MemNode.written { s with resp := (s.resp.getStoreData
        (fun tag => s.data0lookup (tagRow tag)) fun tag => s.data1lookup (tagRow tag)).1 }
      (s.resp.getStoreData (fun tag => s.data0lookup (tagRow tag))
        fun tag => s.data1lookup (tagRow tag)).2) txns owed.tail due := by
  obtain ⟨hinUse, y, hy, hdata⟩ := h.replay hreplaying
  obtain ⟨hpos, -⟩ := hn.counted.store hreplaying.1 hreplaying.2
  obtain ⟨-, hcount, howing, howed⟩ := hn.counted.getStoreData hreplaying.1 hreplaying.2
    (fun tag => s.data0lookup (tagRow tag)) fun tag => s.data1lookup (tagRow tag)
  obtain ⟨o, rest, rfl⟩ : ∃ o rest, owed = o :: rest := by
    cases owed with
    | nil => exact absurd h.owing.symm howing
    | cons o rest => exact ⟨o, rest, rfl⟩
  -- the data BRAM that is read has the flit
  have hfits : Fits (RepeatsLatest txns) (o :: rest) (if s.resp.cdata_count = 1 then
      s.data0lookup (tagRow s.resp.localtag) else if s.resp.cdata_count = 2 then
      s.data1lookup (tagRow s.resp.localtag) else 0) := by
    intro a ha
    have ha' : o = some a := ha
    obtain ⟨hsize, hk⟩ := hdata 0 a (by rw [ha']; rfl)
    rw [Nat.add_zero] at hk
    have hlen : y.data.length = 2 := hy.whole.trans hsize
    have hlt := (List.getElem?_eq_some_iff.mp hk).1
    obtain hone | htwo : s.resp.cdata_count.toNat = 1 ∨ s.resp.cdata_count.toNat = 2 := by omega
    · have hcdata : s.resp.cdata_count = 1 := BitVec.eq_of_toNat_eq hone
      rw [if_pos hcdata]
      rw [hone] at hk
      exact hy.data0 a hsize hk
    · have hcdata : s.resp.cdata_count = 2 := BitVec.eq_of_toNat_eq htwo
      rw [hcdata, if_neg (by decide), if_pos rfl]
      rw [htwo] at hk
      exact hy.data1 a hsize hk
  have hpush := h.script.push hfits
  have hlen : rest.length + 1 = s.resp.owed := h.owing
  refine ⟨hpush, ?_, h.awaited, fun _ => ⟨?_, y, hy,
    fun k a ha => ?_⟩, h.flight, fun t hx => h.inUse t ?_, h.expects, h.again, h.port0, h.port1⟩
  · change rest.length = _
    refine Eq.trans ?_ howed.symm
    omega
  · refine ⟨hinUse.1, fun hx => hinUse.2 ?_⟩
    rw [← List.append_nil s.capptag_fifo]
    exact hx
  · obtain ⟨hsize, hk⟩ := hdata (k + 1) a ha
    have hindex : (s.resp.getStoreData (fun tag => s.data0lookup (tagRow tag))
        fun tag => s.data1lookup (tagRow tag)).1.cdata_count.toNat - 1 + k
          = s.resp.cdata_count.toNat - 1 + (k + 1) := by
      rw [hcount]
      omega
    exact ⟨hsize, (congrArg (y.data[·]?) hindex).trans hk⟩
  · exact ⟨hx.1, fun hf => hx.2 (List.mem_append_left _ hf)⟩

/-- **A call of the response engine.** -/
theorem resp (h : RetryInv s txns owed due) (hn : NodeInv s) {hist : IngressHistory}
    {first : List (BitVec 200)} (ht : IngressTrace s.lookup hist first txns) (enable : Bool) :
    ∃ owed', RetryInv (s.step (.resp enable)) txns owed' due := by
  cases hcall : s.respCall enable with
  | none =>
      rw [MemNode.step_resp_of_none hcall]
      exact ⟨owed, h⟩
  | some call =>
      rw [MemNode.step_resp_of_some hcall]
      have hcall' : s.respEngSM enable = some call := (Option.filter_eq_some_iff.mp hcall).1
      rw [MemNode.respEngSM] at hcall'
      cases hsm : s.resp.smstate with
      | INIT =>
          rw [hsm] at hcall'
          cases enable with
          | false => cases hcall'
          | true =>
              obtain rfl := Option.some.inj hcall'
              refine ⟨owed, h.quiet rfl (fun hx => ?_) (fun hx => ?_) (fun c hc => hc) fun t ht' => ?_⟩
              · rw [RespEng.Replaying, hsm] at hx
                cases hx.1
              · have hstate : (if s.resp.capptag_count = 0x200 then RespState.GET_CMD else .INIT)
                    = .GET_DATA := hx.1
                split at hstate <;> cases hstate
              · rw [hn.counted.seeded_initTag hsm] at ht'
                exact List.mem_append.mp ht'
      | GET_CMD =>
          rw [hsm] at hcall'
          cases hresp : s.tl_fifo_resp with
          | nil =>
              rw [hresp] at hcall'
              cases hcall'
          | cons c rest =>
              rw [hresp] at hcall'
              obtain rfl := Option.some.inj hcall'
              cases hst : bit (RespEng.comboState c) 0 with
              | true => exact ⟨_, h.retry hn ht hsm hresp hst⟩
              | false =>
                  obtain ⟨hw, hto, hcount⟩ := RespEng.getCmd_header hsm hst
                  refine ⟨owed, h.quiet hw (fun hx => ?_) hto (fun c' hc' => ?_) fun t ht' => .inl ?_⟩
                  · rw [RespEng.Replaying, hsm] at hx
                    cases hx.1
                  · rw [hresp]
                    exact List.mem_cons_of_mem c hc'
                  · rw [hcount] at ht'
                    exact ht'
      | GET_DATA =>
          rw [hsm] at hcall'
          cases hflag : s.resp.respdataflag with
          | true =>
              rw [hflag] at hcall'
              cases hdata : s.tl_fifo_data with
              | nil =>
                  rw [hdata] at hcall'
                  cases hcall'
              | cons d rest =>
                  rw [hdata] at hcall'
                  obtain rfl := Option.some.inj hcall'
                  obtain ⟨hw, hto, hcount⟩ := RespEng.getHostData_keeps hflag d
                  refine ⟨owed, h.quiet hw (fun hx => ?_) hto (fun c hc => hc) fun t ht' => .inl ?_⟩
                  · exact absurd (hflag.symm.trans hx.2) (by simp)
                  · rw [hcount] at ht'
                    exact ht'
          | false =>
              rw [hflag] at hcall'
              obtain rfl := Option.some.inj hcall'
              exact ⟨_, h.replayed hn ⟨hsm, hflag⟩⟩

end RetryInv

end ThymesisFlow
