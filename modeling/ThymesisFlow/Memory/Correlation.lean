import ThymesisFlow.Memory.NodeTags
import ThymesisFlow.Memory.RespPath

/-!
# What the network is told, and about which command

A response of the host is joined with the record of its tag, so the response engine can give back the
CAPPTAG and the net id that the network chose for the command.  Over a run it matters which command
has been taken under a tag (`Tracked`), that the responses and their data stay in one order (`Queued`,
`Forwarded`), and what each header says (`NetAnswer.Carries`).
-/

namespace ThymesisFlow

/-! ## The host -/

/-- A host that answers a command in one part: nothing follows, and the data of READ OK has the data
length of the command or is said to be a part behind the first. -/
def SingleParts (e : HostEntry) (r : TlResp) (more : Bool) : Prop :=
  more = false ∧ (r.kind = some .readOk → r.dl = e.dl ∨ r.dp ≠ 0)

instance (e : HostEntry) (r : TlResp) (more : Bool) : Decidable (SingleParts e r more) :=
  inferInstanceAs (Decidable (_ ∧ _))

lemma SingleParts.p9 {e : HostEntry} {r : TlResp} {more : Bool} (h : SingleParts e r more) :
    P9Parts e r more := by
  obtain ⟨hmore, hlast⟩ := h
  rw [P9Parts, hmore]
  symm
  by_cases hk : r.kind = some .readOk
  · rcases hlast hk with hdl | hdp
    · simp [hdl]
    · rw [decide_eq_false hdp, Bool.and_false, Bool.and_false]
  · simp [hk]

lemma NodeOk.mono {parts parts' : HostEntry → TlResp → Bool → Prop}
    (h : ∀ e r more, parts e r more → parts' e r more) {s : MemNode} {m : NodeMove}
    (hm : NodeOk parts s m) : NodeOk parts' s m := by
  cases m with
  | answer r data more =>
      obtain ⟨e, he, ha⟩ := hm
      exact ⟨e, he, ha.tag, ha.kind, ha.data, h _ _ _ ha.parts⟩
  | clock w => exact hm
  | load | resp _ | rty | deliver => trivial

/-- The response of the host in a move, with its data. -/
def MemNode.said (_ : MemNode) : NodeMove → List (TlResp × List OCxFlit)
  | .answer r data _ => [(r, data)]
  | _ => []

/-- The responses of the kind are forwarded to the network. -/
def RespKind.answers : RespKind → Bool
  | .readOk | .writeOk | .fail => true
  | .rty | .pend | .xlateDone => false

def TlResp.answers (r : TlResp) : Bool := r.kind.any RespKind.answers

/-! ## Answers -/

/-- What the network is told about a command: `resp` is the response of the host for `tag`, and `cmd`
the command of the network that was taken under it. -/
structure NetAnswer where
  tag : Tag
  cmd : Flit512
  resp : TlResp
  header : Flit512
  data : List OCxFlit

namespace NetAnswer

/-- The flits of an answer. -/
def flits (a : NetAnswer) : List Flit512 := a.header :: a.data.map OCxFlit.toOCxFlit

/-- The header has the response of the host, with the CAPPTAG and the net id of the command, and there
is data as the response says. -/
structure Carries (a : NetAnswer) : Prop where
  tag : a.resp.capptag = a.tag
  resp : field a.header 474 38 = a.resp
  capptag : field a.header 297 16 = field a.cmd 424 16
  netId : field a.header 291 6 = field a.cmd 291 6
  data : a.data.length = if a.resp.kind = some .readOk then (dataSize a.resp.dl).toNat else 0

end NetAnswer

/-- Run `ms` has answered with `answers`.  The host has said `handled` and then `waiting`; `unsent`
is the data of the last answer that has not been forwarded. -/
structure Correlated (ms : List NodeMove) (answers : List NetAnswer)
    (handled waiting : List (TlResp × List OCxFlit)) (unsent : List OCxFlit) : Prop where
  carries : ∀ a ∈ answers, a.Carries
  /-- The commands taken under a tag are answered one after the other, each before the next. -/
  once : ∀ t, ∃ current : Option Flit512,
    ((memNode.collect MemNode.accepted ms).filter (·.1 = t)).map Prod.snd
      = (answers.filter (·.tag = t)).map NetAnswer.cmd ++ current.toList
  written : memNode.collect MemNode.netOut ms ++ unsent.map OCxFlit.toOCxFlit
    = answers.flatMap NetAnswer.flits
  last : unsent <:+ (answers.getLast?.map NetAnswer.data).getD []
  said : memNode.collect MemNode.said ms = handled ++ waiting
  answered : answers.map (fun a => (a.resp, a.data)) = handled.filter (·.1.answers)
  /-- What the FIFO of the data holds, and what has still to reach it. -/
  data : unsent ++ waiting.flatMap Prod.snd = (memNode.run ms).tl_fifo_data ++ (memNode.run ms).due

/-! ## The branches by the kind of the response -/

/-- The data of a response is the data of READ OK. -/
lemma TlResp.dataFlits_of_kind {r : TlResp} {k : RespKind} (hk : r.kind = some k) :
    r.dataFlits = if k = .readOk then (dataSize r.dl).toNat else 0 := by
  have hdata : r.hasData = bit (RespEng.branchOf k) 1 := by
    rw [← RespEng.respState_eq hk, (bit_respState _ _).2, TlResp.hasData]
  rw [TlResp.dataFlits, hdata]
  cases k <;> rfl

namespace RespEng

variable {e : RespEng} {c : RespCombo} {k : RespKind}

/-- What is written for a response. -/
lemma getCmd_written (hk : TlResp.kind (field c 215 38) = some k) : (e.getCmd c).2.network_cmd_out0
    = if k.answers then some (comboHeader e c).toOCxFlit else none := by
  have hst : comboState c = branchOf k := respState_eq hk
  rw [getCmd_eq, hst]
  cases k <;> rfl

lemma getCmd_count (e : RespEng) (c : RespCombo) : (e.getCmd c).1.capptag_count = e.capptag_count := by
  rw [getCmd_eq]
  split_ifs <;> rfl

/-- The tag of a last response is freed, or it stays with the engine for the data; the tag of a
retried command goes with it. -/
lemma getCmd_tags (hsm : e.smstate = .GET_CMD) (hk : TlResp.kind (field c 215 38) = some k)
    (hlast : k ≠ .pend → lastResp (field c 109 2) (field c 215 38) = true) :
    (e.getCmd c).2.lookup_out.toList ++ (e.getCmd c).1.busy
      = if k.answers then [TlResp.capptag (field c 215 38)] else [] := by
  have hst : comboState c = branchOf k := respState_eq hk
  have hidle : (comboRead e c).smstate = .GET_CMD := hsm
  rw [lastResp_eq hk] at hlast
  rw [getCmd_eq, hst]
  cases k with
  | readOk =>
      have hkeep : (decide (TlResp.dl (field c 215 38) ≠ field c 109 2)
          && decide (TlResp.dp (field c 215 38) = 0)) = false := by
        simpa only [RespKind.isLast, Bool.not_eq_true'] using hlast (by decide)
      change [] ++ busy { comboRead e c with
        respdataflag := true
        cdata := dataSize (TlResp.dl (field c 215 38))
        cdata_count := 1
        smstate := .GET_DATA } = _
      rw [busy, if_pos ⟨rfl, rfl, hkeep⟩]
      rfl
  | writeOk | fail =>
      change [_] ++ (comboRead e c).busy = _
      rw [(NodeInv.idle_of_getCmd hidle).2]
      rfl
  | rty | xlateDone =>
      change [] ++ busy { comboRead e c with
        cdata := dataSize (field c 109 2)
        cdata_count := 1
        respdataflag := if bit c 196 then false else e.respdataflag
        smstate := if bit c 196 then .GET_DATA else .GET_CMD } = _
      rw [busy]
      cases bit c 196 <;> simp [RespKind.answers]
  | pend =>
      change [] ++ (comboRead e c).busy = _
      rw [(NodeInv.idle_of_getCmd hidle).2]
      rfl

/-- A data flit of the host is forwarded; the tag is freed with the last one. -/
lemma getHostData_spec (hsm : e.smstate = .GET_DATA) (hflag : e.respdataflag = true) (d : OCxFlit) :
    (e.getHostData d).2.network_cmd_out0 = some d.toOCxFlit ∧
      (e.getHostData d).1.capptag_count = e.capptag_count ∧
      (e.getHostData d).2.lookup_out.toList ++ (e.getHostData d).1.busy = e.busy := by
  by_cases hone : e.cdata ≠ 1
  · rw [getHostData, if_pos hone]
    exact ⟨rfl, rfl, rfl⟩
  · rw [getHostData, if_neg hone]
    refine ⟨rfl, rfl, ?_⟩
    have hidle : busy { e with smstate := .GET_CMD } = [] := (NodeInv.idle_of_getCmd rfl).2
    rw [hidle, busy, hsm, hflag]
    cases e.keeplookupentry <;> rfl

/-- The fields of a header. -/
lemma header_fields (e : RespEng) (c : RespCombo) :
    field (comboHeader e c).toOCxFlit 474 38 = field c 215 38 ∧
      field (comboHeader e c).toOCxFlit 297 16 = field (field c 0 215) 111 16 ∧
      field (comboHeader e c).toOCxFlit 291 6 = field (field c 0 215) 0 6 := by
  obtain ⟨horig, hnet, -, -⟩ := OCxFlit.fromTLxCStore_fields 0 (field c 0 215)
  have hresp : field (e.tlresp.fromTLRespData (field c 215 38)) 474 38 = field c 215 38 := by
    have h := OCxFlit.toTLRespData_fromTLRespData e.tlresp (field c 215 38)
    generalize e.tlresp.fromTLRespData (field c 215 38) = o at h ⊢
    rw [OCxFlit.toTLRespData, field_append_field o (show 504 = 488 + 16 from rfl),
      field_append_field o (show 488 = 484 + 4 from rfl), field_append_field o (show 484 = 482 + 2 from rfl),
      field_append_field o (show 482 = 480 + 2 from rfl),
      field_append_field o (show 480 = 474 + 6 from rfl)] at h
    exact h
  refine ⟨?_, ?_, ?_⟩
  · rw [OCxFlit.toOCxFlit, field_field _ (by decide), Nat.zero_add, comboHeader, respHeader,
      OCxFlit.setNetId, OCxFlit.setRespOrigCappTag,
      field_setField_of_disjoint _ _ _ _ (.inr (by decide)),
      field_setField_of_disjoint _ _ _ _ (.inr (by decide)), hresp]
  · rw [OCxFlit.toOCxFlit, field_field _ (by decide), Nat.zero_add, comboHeader, respHeader,
      OCxFlit.setNetId, field_setField_of_disjoint _ _ _ _ (.inr (by decide)),
      OCxFlit.setRespOrigCappTag, field_setField_self _ _ _ (by decide), horig]
  · rw [OCxFlit.toOCxFlit, field_field _ (by decide), Nat.zero_add, comboHeader, respHeader,
      OCxFlit.setNetId, field_setField_self _ _ _ (by decide), hnet]

end RespEng

/-! ## The commands that wait for an answer -/

namespace MemNode

variable (s : MemNode)

/-- The tag belongs to a command that has not been answered. -/
def Pending (t : Tag) : Prop := t ∈ s.ledger.seeded ∧ t ∉ s.capptag_fifo ∧ t ∉ s.resp.busy

end MemNode

namespace NodeInv

variable {s : MemNode} {t : Tag}

lemma owned_of_pending (h : NodeInv s) (ht : s.Pending t) : t ∈ s.ledger.owned := by
  rcases List.mem_append.mp (h.ledger.tags.mem_iff.mpr ht.1) with hfifo | howned
  · exact absurd hfifo ht.2.1
  · exact howned

/-- A command whose last response is on its way has not been answered. -/
lemma pending_of_last (h : NodeInv s) {r : TlResp} (hr : r ∈ s.flight) (hlast : s.ledger.last r = true) :
    s.Pending r.capptag := by
  have hans : r.capptag ∈ s.ledger.answered :=
    List.mem_map_of_mem (List.mem_filter.mpr ⟨hr, hlast⟩)
  have howned := h.ledger.flight_owned hr
  refine ⟨h.ledger.mem_seeded (List.mem_append_right _ howned), fun hfifo => ?_, fun hbusy => ?_⟩
  · exact h.ledger.not_owned_of_fifo hfifo howned
  · have hnodup := (List.nodup_append.mp (List.nodup_append.mp h.ledger.nodup_owned).2.1).2.1
    exact List.disjoint_of_nodup_append hnodup hans hbusy

/-- **A cycle**: a tag becomes pending when a command of the network takes it. -/
lemma pending_clock (h : NodeInv s) (w : NodeWires) : (s.clock w).Pending t ↔ s.Pending t ∨
    (s.ingress.takesTag (s.ingressWires w) = true ∧ t = s.capptag_fifo.headD 0) := by
  have hiff : (s.clock w).Pending t
      ↔ t ∈ s.ledger.seeded ∧ t ∉ (s.clock w).capptag_fifo ∧ t ∉ s.resp.busy := Iff.rfl
  rw [hiff, clock_fifo]
  by_cases htag : s.ingress.takesTag (s.ingressWires w) = true
  · obtain ⟨fifo, hfifo⟩ := fifo_of_takesTag htag
    have hnodup := h.ledger.nodup_owned
    change (s.capptag_fifo ++ _).Nodup at hnodup
    rw [hfifo] at hnodup
    have hhead := (List.nodup_cons.mp hnodup).1
    have hseeded : (s.ingressWires w).capptag_fifo_tdata ∈ s.ledger.seeded := by
      refine h.ledger.mem_seeded (List.mem_append_left _ ?_)
      change _ ∈ s.capptag_fifo
      rw [hfifo]
      exact List.mem_cons_self
    rw [if_pos htag, hfifo, MemNode.Pending, hfifo]
    constructor
    · rintro ⟨hs, htail, hbusy⟩
      by_cases heq : t = (s.ingressWires w).capptag_fifo_tdata
      · exact .inr ⟨htag, heq⟩
      · exact .inl ⟨hs, fun hx => (List.mem_cons.mp hx).elim heq htail, hbusy⟩
    · rintro (⟨hs, hno, hbusy⟩ | ⟨-, rfl⟩)
      · exact ⟨hs, fun hx => hno (List.mem_cons_of_mem _ hx), hbusy⟩
      · refine ⟨hseeded, fun hx => hhead (List.mem_append_left _ hx), fun hx => hhead ?_⟩
        exact List.mem_append_right _ (List.mem_append_right _ (List.mem_append_right _ hx))
  · rw [if_neg htag]
    exact ⟨fun hx => .inl hx, fun hx => hx.resolve_right fun hy => htag hy.1⟩

/-- The records of the tags in use stay in a cycle. -/
lemma clock_store_owned (h : NodeInv s) {w : NodeWires}
    (hok : NodeOk P9Parts s (.clock w)) : ∀ t ∈ s.ledger.owned,
      (s.clock w).store (tagRow t) = s.store (tagRow t) := by
  obtain ⟨hcycle, -⟩ := h.cycle hok.1 fun hv => (hok.2 hv).2
  by_cases htag : s.ingress.takesTag (s.ingressWires w) = true
  · obtain ⟨hsm, -, hpath⟩ := hcycle.net htag
    exact h.store_of_owned hsm htag hpath
  · intro t _
    rw [clock_store, bramWrite_silent _ _ (hcycle.silent h.orderly (eq_false_of_ne_true htag))]

end NodeInv

/-! ## The commands under each tag -/

/-- The commands that were taken under a tag have been answered, except for the one of `current`,
whose CAPPTAG and net id are in the record. -/
structure Tracked (s : MemNode) (accepted : List (Tag × Flit512)) (answers : List NetAnswer)
    (current : Tag → Option Flit512) : Prop where
  once : ∀ t, (accepted.filter (·.1 = t)).map Prod.snd
    = (answers.filter (·.tag = t)).map NetAnswer.cmd ++ (current t).toList
  pending : ∀ t, (current t).isSome ↔ s.Pending t
  recorded : ∀ t, ∀ f ∈ current t, field (s.store (tagRow t)) 111 16 = field f 424 16 ∧
    field (s.store (tagRow t)) 0 6 = field f 291 6

namespace Tracked

variable {s s' : MemNode} {accepted : List (Tag × Flit512)} {answers : List NetAnswer}
  {current : Tag → Option Flit512}

/-- No command comes and none is answered. -/
lemma keep (h : Tracked s accepted answers current) (hpending : ∀ t, s'.Pending t ↔ s.Pending t)
    (hstore : ∀ t, s.Pending t → s'.store (tagRow t) = s.store (tagRow t)) :
    Tracked s' accepted answers current where
  once := h.once
  pending t := (h.pending t).trans (hpending t).symm
  recorded t f hf := by
    rw [hstore t ((h.pending t).mp (Option.isSome_iff_exists.mpr ⟨f, hf⟩))]
    exact h.recorded t f hf

/-- **A command is taken under a free tag.** -/
lemma take (h : Tracked s accepted answers current) {t : Tag} {f : Flit512} (hfree : ¬ s.Pending t)
    (hpending : ∀ t', s'.Pending t' ↔ s.Pending t' ∨ t' = t)
    (hstore : ∀ t', s.Pending t' → s'.store (tagRow t') = s.store (tagRow t'))
    (hself : field (s'.store (tagRow t)) 111 16 = field f 424 16 ∧
      field (s'.store (tagRow t)) 0 6 = field f 291 6) :
    Tracked s' (accepted ++ [(t, f)]) answers (Function.update current t (some f)) where
  once t' := by
    rw [List.filter_append, List.map_append, h.once t']
    by_cases ht : t' = t
    · rw [ht] at *
      have hnone : current t = none := by
        rw [← Option.not_isSome_iff_eq_none, h.pending]
        exact hfree
      simp [hnone]
    · rw [Function.update_of_ne ht]
      simp [Ne.symm ht]
  pending t' := by
    rw [hpending]
    by_cases ht : t' = t
    · rw [ht, Function.update_self]
      simp
    · rw [Function.update_of_ne ht, h.pending]
      simp [ht]
  recorded t' f' hf := by
    by_cases ht : t' = t
    · rw [ht, Function.update_self] at hf
      obtain rfl := Option.some.inj hf
      rw [ht]
      exact hself
    · rw [Function.update_of_ne ht] at hf
      rw [hstore t' ((h.pending t').mp (Option.isSome_iff_exists.mpr ⟨f', hf⟩))]
      exact h.recorded t' f' hf

/-- **The command of a tag is answered.** -/
lemma answer (h : Tracked s accepted answers current) {a : NetAnswer} (ha : current a.tag = some a.cmd)
    (hpending : ∀ t, s'.Pending t ↔ s.Pending t ∧ t ≠ a.tag) (hstore : s'.store = s.store) :
    Tracked s' accepted (answers ++ [a]) (Function.update current a.tag none) where
  once t := by
    rw [h.once t, List.filter_append, List.map_append]
    by_cases ht : t = a.tag
    · rw [ht, ha, Function.update_self]
      simp
    · rw [Function.update_of_ne ht]
      simp [Ne.symm ht]
  pending t := by
    rw [hpending]
    by_cases ht : t = a.tag
    · rw [ht, Function.update_self]
      simp
    · rw [Function.update_of_ne ht, h.pending]
      simp [ht]
  recorded t f hf := by
    rw [hstore]
    by_cases ht : t = a.tag
    · rw [ht, Function.update_self] at hf
      cases hf
    · rw [Function.update_of_ne ht] at hf
      exact h.recorded t f hf

end Tracked

/-! ## The responses and their data -/

/-- The responses of the host in their order, each with its data: `handled` have been read by the
engine, `xs` wait in its FIFO and `ys` before the lookup stage; `cur` is the data the engine has still to
read. -/
structure Queued (s : MemNode) (said handled xs ys : List (TlResp × List OCxFlit))
    (cur : List OCxFlit) : Prop where
  reading : RespEng.Reading 4 s.resp s.tl_fifo_resp cur xs
  lookup : s.tl_resp = ys.map Prod.fst
  sized : ∀ x ∈ ys, x.2.length = x.1.dataFlits ∧ x.2.length ≤ 4
  known : ∀ r ∈ s.flight, ∃ k, r.kind = some k ∧ (k ≠ .pend → s.ledger.last r = true)
  data : cur ++ (xs ++ ys).flatMap Prod.snd = s.tl_fifo_data ++ s.due
  said : said = handled ++ (xs ++ ys)

namespace Queued

variable {s : MemNode} {said handled xs ys : List (TlResp × List OCxFlit)} {cur : List OCxFlit}

/-- A cycle of the memory ingress. -/
lemma clock (h : Queued s said handled xs ys cur) (hnode : NodeInv s) {w : NodeWires}
    (hstore : ∀ t ∈ s.ledger.owned, (s.clock w).store (tagRow t) = s.store (tagRow t)) :
    Queued (s.clock w) said handled xs ys cur where
  reading := h.reading
  lookup := h.lookup
  sized := h.sized
  known r hr := by
    obtain ⟨k, hk, hlast⟩ := h.known r hr
    have hsame : (s.clock w).ledger.last r = s.ledger.last r := by
      change lastResp (wordShape ((s.clock w).store _)).dl r = _
      rw [hstore _ (hnode.ledger.flight_owned hr)]
      rfl
    rw [hsame]
    exact ⟨k, hk, hlast⟩
  data := h.data
  said := h.said

/-- A call of the lookup stage. -/
lemma load (h : Queued s said handled xs ys cur) : ∃ xs' ys', Queued s.load said handled xs' ys' cur := by
  rw [MemNode.load]
  cases hresp : s.tl_resp with
  | nil => exact ⟨xs, ys, h⟩
  | cons r rest =>
      obtain ⟨y, ys', rfl⟩ : ∃ y ys', ys = y :: ys' := by
        cases ys with
        | nil =>
            have hlookup := h.lookup
            rw [hresp] at hlookup
            cases hlookup
        | cons y ys' => exact ⟨y, ys', rfl⟩
      have hlookup := h.lookup
      rw [hresp, List.map_cons, List.cons.injEq] at hlookup
      have hr : field (CmdFifoLoad.cmdFifoLoadSM
          (fun tag => (s.cmdlookup (tagRow tag)).setWidth 215) r) 215 38 = r := by
        rw [CmdFifoLoad.cmdFifoLoadSM_eq]
        exact field_append_left _ _
      have hsplit : xs ++ [y] ++ ys' = xs ++ y :: ys' := by simp
      refine ⟨xs ++ [y], ys', ⟨?_, h.reading.waiting, h.reading.idle, h.reading.le, fun x hx => ?_⟩,
        hlookup.2, fun x hx => h.sized x (List.mem_cons_of_mem _ hx), fun x hx => ?_,
        by rw [hsplit]; exact h.data, by rw [hsplit]; exact h.said⟩
      · rw [List.map_append, List.map_append, h.reading.resps, List.map_singleton, List.map_singleton,
          hr, hlookup.1]
      · rcases List.mem_append.mp hx with hx | hx
        · exact h.reading.sized x hx
        · rw [List.mem_singleton.mp hx]
          exact h.sized y List.mem_cons_self
      · refine h.known x ?_
        change x ∈ s.tl_fifo_resp.map _ ++ s.tl_resp
        have hx' : x ∈ (s.tl_fifo_resp ++ [_]).map _ ++ rest := hx
        rw [List.map_append, List.map_singleton, hr, List.append_assoc, List.singleton_append] at hx'
        rw [hresp]
        exact hx'

/-- The host answers. -/
lemma answer (h : Queued s said handled xs ys cur) (hnode : NodeInv s) {e : HostEntry} (he : e ∈ s.host)
    {r : TlResp} {data : List OCxFlit} {more : Bool} (hr : HostAnswer SingleParts e r data more) :
    Queued (s.step (.answer r data more)) (said ++ [(r, data)]) handled xs (ys ++ [(r, data)]) cur := by
  obtain ⟨k, hk⟩ := NodeInv.kind_of_answer hr
  have hsize : ∀ dl : BitVec 2, (dataSize dl).toNat ≤ 4 := by decide
  have hflits : data.length = r.dataFlits := by
    rw [TlResp.dataFlits_of_kind hk, hr.data, hk]
    simp
  refine ⟨h.reading, ?_, fun x hx => ?_, fun x hx => ?_, ?_, ?_⟩
  · change s.tl_resp ++ [r] = _
    rw [h.lookup, List.map_append]
    rfl
  · rcases List.mem_append.mp hx with hx | hx
    · exact h.sized x hx
    · rw [List.mem_singleton.mp hx]
      refine ⟨hflits, ?_⟩
      change data.length ≤ 4
      rw [hflits, TlResp.dataFlits]
      split
      · exact hsize _
      · exact Nat.zero_le _
  · have hx' : x ∈ s.flight ++ [r] := by
      rw [MemNode.flight, List.append_assoc]
      exact hx
    rcases List.mem_append.mp hx' with hx' | hx'
    · exact h.known x hx'
    · rw [List.mem_singleton.mp hx']
      refine ⟨k, hk, fun hpend => ?_⟩
      change s.ledger.last r = true
      rw [hnode.last_of_answer he hr, lastResp_eq hk]
      cases k with
      | readOk =>
          rcases hr.parts.2 hk with hdl | hdp
          · rw [RespKind.isLast, hdl]
            simp
          · rw [RespKind.isLast, decide_eq_false hdp, Bool.and_false]
            rfl
      | pend => exact absurd rfl hpend
      | writeOk | fail | rty | xlateDone => rfl
  · change _ = s.tl_fifo_data ++ (s.due ++ data)
    rw [← List.append_assoc xs, List.flatMap_append, ← List.append_assoc, h.data]
    simp
  · rw [h.said]
    simp

/-- Data reaches its FIFO. -/
lemma deliver (h : Queued s said handled xs ys cur) :
    Queued (s.step .deliver) said handled xs ys cur := by
  cases hdue : s.due with
  | nil =>
      rw [MemNode.step_deliver_of_nil hdue]
      exact h
  | cons d rest =>
      rw [MemNode.step_deliver_of_cons hdue]
      refine ⟨h.reading, h.lookup, h.sized, h.known, ?_, h.said⟩
      have hdata := h.data
      rw [hdue] at hdata
      change _ = s.tl_fifo_data ++ [d] ++ rest
      rw [hdata, List.append_assoc]
      rfl

/-- The engine reads a response. -/
lemma getCmd (h : Queued s said handled xs ys cur) (hsm : s.resp.smstate = .GET_CMD) {c : RespCombo}
    {rest : List RespCombo} (hresp : s.tl_fifo_resp = c :: rest) : ∃ ds xs', cur = [] ∧
      ds.length = TlResp.dataFlits (field c 215 38) ∧
      Queued (MemNode.written { s with resp := (s.resp.getCmd c).1, tl_fifo_resp := rest }
        (s.resp.getCmd c).2) said (handled ++ [(field c 215 38, ds)]) xs' ys ds := by
  have hw : ¬ s.resp.Waits := RespEng.not_waits (.inl (by rw [hsm]; decide))
  have hreading := h.reading
  rw [hresp] at hreading
  obtain rfl := hreading.idle hw
  obtain ⟨ds, xs', rfl, hreading'⟩ := hreading.getCmd hw
  refine ⟨ds, xs', rfl, (h.reading.sized _ List.mem_cons_self).1, hreading', h.lookup, h.sized,
    fun r hr => h.known r ?_, ?_, ?_⟩
  · change r ∈ s.tl_fifo_resp.map _ ++ s.tl_resp
    rw [hresp]
    exact List.mem_cons_of_mem _ hr
  · exact h.data
  · rw [h.said]
    simp

/-- The engine reads data of the host. -/
lemma getHostData (h : Queued s said handled xs ys cur) (hsm : s.resp.smstate = .GET_DATA)
    (hflag : s.resp.respdataflag = true) {d : OCxFlit} {rest : List OCxFlit}
    (hfifo : s.tl_fifo_data = d :: rest) : ∃ cur', cur = d :: cur' ∧
      Queued (MemNode.written { s with resp := (s.resp.getHostData d).1, tl_fifo_data := rest }
        (s.resp.getHostData d).2) said handled xs ys cur' := by
  have hdata := h.data
  rw [hfifo, List.flatMap_append, ← List.append_assoc] at hdata
  obtain ⟨cur', rfl, hreading⟩ := h.reading.getHostData ⟨hsm, hflag⟩ ⟨_, _, hdata⟩
  refine ⟨cur', rfl, hreading, h.lookup, h.sized, h.known, ?_, h.said⟩
  have hdata' := h.data
  rw [hfifo] at hdata'
  exact (List.cons.inj hdata').2

end Queued

/-- What has been written to the network are the answers to `handled`, up to the data `cur` of the last
one. -/
structure Forwarded (out : List Flit512) (answers : List NetAnswer)
    (handled : List (TlResp × List OCxFlit)) (cur : List OCxFlit) : Prop where
  written : out ++ cur.map OCxFlit.toOCxFlit = answers.flatMap NetAnswer.flits
  last : cur <:+ (answers.getLast?.map NetAnswer.data).getD []
  answered : answers.map (fun a => (a.resp, a.data)) = handled.filter (·.1.answers)

namespace Forwarded

variable {out : List Flit512} {answers : List NetAnswer} {handled : List (TlResp × List OCxFlit)}
  {cur : List OCxFlit}

/-- A header is written. -/
lemma header (h : Forwarded out answers handled []) (a : NetAnswer) (ha : a.resp.answers = true) :
    Forwarded (out ++ [a.header]) (answers ++ [a]) (handled ++ [(a.resp, a.data)]) a.data where
  written := by
    have hwritten := h.written
    rw [List.map_nil, List.append_nil] at hwritten
    rw [hwritten, List.flatMap_append, List.flatMap_singleton, NetAnswer.flits, List.append_assoc]
    rfl
  last := by
    rw [List.getLast?_concat]
    exact List.suffix_refl _
  answered := by
    rw [List.map_append, List.filter_append, h.answered, List.filter_singleton, ha]
    rfl

/-- A response is not forwarded. -/
lemma skip (h : Forwarded out answers handled []) {r : TlResp} (hr : r.answers = false)
    (ds : List OCxFlit) : Forwarded out answers (handled ++ [(r, ds)]) [] where
  written := h.written
  last := h.last
  answered := by
    rw [h.answered, List.filter_append, List.filter_singleton, hr]
    exact (List.append_nil _).symm

/-- A data flit is written. -/
lemma data {d : OCxFlit} (h : Forwarded out answers handled (d :: cur)) :
    Forwarded (out ++ [d.toOCxFlit]) answers handled cur where
  written := by
    rw [← h.written, List.append_assoc]
    rfl
  last := (List.suffix_cons d cur).trans h.last
  answered := h.answered

end Forwarded

/-! ## One move -/

/-- What is kept over a run: `accepted` are the commands of the network, `said` the responses of the
host, and `out` what the engine has written. -/
structure Follows (s : MemNode) (accepted : List (Tag × Flit512)) (said : List (TlResp × List OCxFlit))
    (out : List Flit512) (answers : List NetAnswer) (current : Tag → Option Flit512)
    (handled xs ys : List (TlResp × List OCxFlit)) (cur : List OCxFlit) : Prop where
  node : NodeInv s
  tracked : Tracked s accepted answers current
  queued : Queued s said handled xs ys cur
  forwarded : Forwarded out answers handled cur
  carries : ∀ a ∈ answers, a.Carries

/-- The tags that wait for an answer after a call of the response engine that frees or keeps `tags`. -/
lemma pending_written (s : MemNode) (resps : List RespCombo) (data : List OCxFlit)
    (call : RespEng × RespWrites) (hcount : call.1.capptag_count = s.resp.capptag_count) {tags : List Tag}
    (htags : call.2.lookup_out.toList ++ call.1.busy = tags) (t : Tag) :
    (MemNode.written { s with resp := call.1, tl_fifo_resp := resps, tl_fifo_data := data }
      call.2).Pending t ↔ t ∈ s.ledger.seeded ∧ t ∉ s.capptag_fifo ∧ t ∉ tags := by
  have hiff : (MemNode.written { s with resp := call.1, tl_fifo_resp := resps, tl_fifo_data := data }
      call.2).Pending t ↔ t ∈ seededTags (call.1.capptag_count.toNat - 1) ∧
        t ∉ s.capptag_fifo ++ call.2.lookup_out.toList ∧ t ∉ call.1.busy := Iff.rfl
  rw [hiff, hcount, ← htags]
  simp only [List.mem_append, not_or, and_assoc]
  exact Iff.rfl

namespace Follows

variable {s : MemNode} {accepted : List (Tag × Flit512)} {said : List (TlResp × List OCxFlit)}
  {out : List Flit512} {answers : List NetAnswer} {current : Tag → Option Flit512}
  {handled xs ys : List (TlResp × List OCxFlit)} {cur : List OCxFlit}

/-- **A cycle of the memory ingress.** -/
lemma clock (h : Follows s accepted said out answers current handled xs ys cur) {w : NodeWires}
    (hok : NodeOk P9Parts s (.clock w)) : ∃ current',
      Follows (s.clock w) (accepted ++ s.accepted (.clock w)) said out answers current' handled xs ys
        cur := by
  have hnode : NodeInv (s.clock w) := h.node.step hok
  have hstore := h.node.clock_store_owned hok
  have hqueued := h.queued.clock h.node hstore
  have hpending := fun t => h.node.pending_clock (t := t) w
  obtain ⟨hcycle, -⟩ := h.node.cycle hok.1 fun hv => (hok.2 hv).2
  by_cases htag : s.ingress.takesTag (s.ingressWires w) = true
  · obtain ⟨hsm, hnet, hpath⟩ := hcycle.net htag
    obtain ⟨fifo, hfifo⟩ := NodeInv.fifo_of_takesTag htag
    have haccepted : s.accepted (.clock w) = [(s.capptag_fifo.headD 0, w.netflit_in_tdata)] := by
      rw [MemNode.accepted, htag, hnet]
      rfl
    have hen : (s.ingress.step (s.ingressWires w)).lookup_port_en_q = true :=
      h.node.orderly.en_step (by rw [hsm]; decide)
    have hself := NodeInv.store_of_net hen hpath (tagRow (s.capptag_fifo.headD 0))
    rw [if_pos (by rw [hfifo]; rfl)] at hself
    rw [haccepted]
    refine ⟨_, hnode, h.tracked.take (fun hx => hx.2.1 ?_) (fun t => ?_)
      (fun t ht => hstore t (h.node.owned_of_pending ht)) ?_, hqueued, h.forwarded, h.carries⟩
    · rw [hfifo]
      exact List.mem_cons_self
    · rw [hpending t]
      simp [htag]
    · rw [hself, MemoryIngress.netRecord]
      simp [field_setField_of_disjoint, MemNode.ingressWires]
  · have haccepted : s.accepted (.clock w) = [] := by
      rw [MemNode.accepted, eq_false_of_ne_true htag]
      rfl
    rw [haccepted, List.append_nil]
    refine ⟨current, hnode, h.tracked.keep (fun t => (hpending t).trans ?_)
      (fun t ht => hstore t (h.node.owned_of_pending ht)), hqueued, h.forwarded, h.carries⟩
    simp [htag]

/-- State INIT: a tag is seeded. -/
lemma initTag (h : Follows s accepted said out answers current handled xs ys cur)
    (hsm : s.resp.smstate = .INIT) :
    Follows (MemNode.written { s with resp := s.resp.initTag.1 } s.resp.initTag.2) accepted said out
      answers current handled xs ys cur := by
  have hw : ¬ s.resp.Waits := RespEng.not_waits (.inl (by rw [hsm]; decide))
  have hnode := h.node.resp_init hsm
  have hq := h.queued
  refine ⟨hnode, h.tracked.keep (fun t => ?_) fun t _ => rfl,
    ⟨hq.reading.initTag hw, hq.lookup, hq.sized, hq.known, hq.data, hq.said⟩, h.forwarded, h.carries⟩
  have hcount := h.node.counted.init hsm
  obtain ⟨n, hn⟩ : ∃ n, s.resp.capptag_count.toNat = n + 1 := ⟨s.resp.capptag_count.toNat - 1, by omega⟩
  have htag : BitVec.ofNat 16 (n + 1) = s.resp.capptag_count := by
    rw [← hn, BitVec.ofNat_toNat, BitVec.setWidth_eq]
  have hnext : s.resp.initTag.1.capptag_count.toNat = n + 1 + 1 := by
    change (s.resp.capptag_count + 1).toNat = _
    rw [BitVec.toNat_add]
    change (s.resp.capptag_count.toNat + 1) % 65536 = _
    omega
  have hseeded : seededTags (s.resp.initTag.1.capptag_count.toNat - 1)
      = s.ledger.seeded ++ [s.resp.capptag_count] := by
    change _ = seededTags (s.resp.capptag_count.toNat - 1) ++ _
    rw [hnext, hn, Nat.add_sub_cancel, Nat.add_sub_cancel, seededTags_succ, htag]
  have hfresh : s.resp.capptag_count ∉ s.ledger.seeded := by
    have hnodup : (seededTags (s.resp.initTag.1.capptag_count.toNat - 1)).Nodup :=
      seededTags_nodup (by omega)
    rw [hseeded] at hnodup
    exact fun hx => List.disjoint_of_nodup_append hnodup hx (List.mem_singleton_self _)
  have hbusy : s.resp.initTag.1.busy = [] := if_neg fun hx => by
    have hx' := hx.1
    change (if s.resp.capptag_count = 0x200 then RespState.GET_CMD else .INIT) = .GET_DATA at hx'
    split at hx' <;> cases hx'
  have hbusy' : s.resp.busy = [] := if_neg fun hx => by
    rw [hsm] at hx
    cases hx.1
  have hiff : (MemNode.written { s with resp := s.resp.initTag.1 } s.resp.initTag.2).Pending t
      ↔ t ∈ seededTags (s.resp.initTag.1.capptag_count.toNat - 1) ∧
        t ∉ s.capptag_fifo ++ [s.resp.capptag_count] ∧ t ∉ s.resp.initTag.1.busy := Iff.rfl
  rw [hiff, hseeded, hbusy, MemNode.Pending, hbusy', List.mem_append, List.mem_append,
    List.mem_singleton, not_or]
  constructor
  · rintro ⟨hs | hs, ⟨hno, hne⟩, hb⟩
    · exact ⟨hs, hno, hb⟩
    · exact absurd hs hne
  · rintro ⟨hs, hno, hb⟩
    refine ⟨.inl hs, ⟨hno, ?_⟩, hb⟩
    rintro rfl
    exact hfresh hs

/-- **State GET_CMD**: the engine reads a response. -/
lemma getCmd (h : Follows s accepted said out answers current handled xs ys cur)
    (hsm : s.resp.smstate = .GET_CMD) {c : RespCombo} {rest : List RespCombo}
    (hresp : s.tl_fifo_resp = c :: rest)
    (hnode : NodeInv (MemNode.written { s with resp := (s.resp.getCmd c).1, tl_fifo_resp := rest }
      (s.resp.getCmd c).2)) : ∃ answers' current' handled' xs' ds,
      Follows (MemNode.written { s with resp := (s.resp.getCmd c).1, tl_fifo_resp := rest }
        (s.resp.getCmd c).2) accepted said (out ++ (s.resp.getCmd c).2.network_cmd_out0.toList)
        answers' current' handled' xs' ys ds := by
  obtain ⟨ds, xs', rfl, hlen, hqueued⟩ := h.queued.getCmd hsm hresp
  have hflight : field c 215 38 ∈ s.flight := by
    change _ ∈ s.ledger.flight
    rw [NodeInv.flight_of_head hresp]
    exact List.mem_cons_self
  obtain ⟨k, hk, hlast⟩ := h.queued.known _ hflight
  have hlast' := hlast
  rw [h.node.last_of_head hresp] at hlast'
  have htags := RespEng.getCmd_tags hsm hk hlast'
  have hbusy : s.resp.busy = [] := (NodeInv.idle_of_getCmd hsm).2
  have hpending := pending_written s rest s.tl_fifo_data (s.resp.getCmd c)
    (RespEng.getCmd_count s.resp c) htags
  have hanswers : TlResp.answers (field c 215 38) = k.answers := by rw [TlResp.answers, hk]; rfl
  rw [TlResp.dataFlits_of_kind hk] at hlen
  rw [RespEng.getCmd_written hk]
  cases hans : k.answers with
  | true =>
      -- the response goes to the network
      rw [hans] at hpending
      have hne : k ≠ .pend := by rintro rfl; cases hans
      have hwait := h.node.pending_of_last hflight (hlast hne)
      obtain ⟨f, hf⟩ := Option.isSome_iff_exists.mp ((h.tracked.pending _).mpr hwait)
      obtain ⟨horig, hnetid⟩ := h.tracked.recorded _ f hf
      have hj := h.node.joined c (by rw [hresp]; exact List.mem_cons_self)
      obtain ⟨hr, hcapptag, hid⟩ := RespEng.header_fields s.resp c
      have hlow : ∀ lo len, lo + len ≤ 199 → field (field c 0 215) lo len
          = field (s.store (tagRow (TlResp.capptag (field c 215 38)))) lo len := by
        intro lo len hle
        rw [hj, field_setWidth _ (by omega), field_field _ (by omega), Nat.zero_add]
      rw [hlow 111 16 (by decide)] at hcapptag
      rw [hlow 0 6 (by decide)] at hid
      let a : NetAnswer := ⟨TlResp.capptag (field c 215 38), f, field c 215 38,
        (RespEng.comboHeader s.resp c).toOCxFlit, ds⟩
      refine ⟨answers ++ [a], _, _, xs', ds, hnode, h.tracked.answer (a := a) hf (fun t => ?_) rfl,
        hqueued, h.forwarded.header a (hanswers.trans hans), fun a' ha' => ?_⟩
      · rw [hpending t, MemNode.Pending, hbusy]
        simp [a, and_assoc]
      · rcases List.mem_append.mp ha' with ha' | ha'
        · exact h.carries a' ha'
        · rw [List.mem_singleton.mp ha']
          refine ⟨rfl, hr, hcapptag.trans horig, hid.trans hnetid, ?_⟩
          change ds.length = if TlResp.kind (field c 215 38) = some .readOk then _ else 0
          rw [hlen, hk]
          simp only [Option.some.injEq]
          rfl
  | false =>
      -- the command goes to the retry engine, or the host will say more
      rw [hans] at hpending
      have hds : ds = [] := by
        rw [if_neg (by rintro rfl; cases hans)] at hlen
        exact List.length_eq_zero_iff.mp hlen
      subst hds
      refine ⟨answers, current, _, xs', [], hnode, h.tracked.keep (fun t => ?_) fun t _ => rfl, hqueued,
        ?_, h.carries⟩
      · rw [hpending t, MemNode.Pending, hbusy]
        rfl
      · have hskip := h.forwarded.skip (hanswers.trans hans) []
        simpa using hskip

/-- State GET_DATA: the engine reads data of the host. -/
lemma getHostData (h : Follows s accepted said out answers current handled xs ys cur)
    (hsm : s.resp.smstate = .GET_DATA) (hflag : s.resp.respdataflag = true) {d : OCxFlit}
    {rest : List OCxFlit} (hfifo : s.tl_fifo_data = d :: rest) : ∃ cur',
      Follows (MemNode.written { s with resp := (s.resp.getHostData d).1, tl_fifo_data := rest }
        (s.resp.getHostData d).2) accepted said
        (out ++ (s.resp.getHostData d).2.network_cmd_out0.toList) answers current handled xs ys
        cur' := by
  obtain ⟨cur', rfl, hqueued⟩ := h.queued.getHostData hsm hflag hfifo
  obtain ⟨hout, hcount, htags⟩ := RespEng.getHostData_spec (e := s.resp) hsm hflag d
  have hpending := pending_written s s.tl_fifo_resp rest (s.resp.getHostData d) hcount htags
  rw [hout]
  exact ⟨cur', h.node.resp_data hsm hflag d rest, h.tracked.keep hpending fun t _ => rfl, hqueued,
    h.forwarded.data, h.carries⟩

/-- State GET_DATA: the engine replays data of the store. -/
lemma getStoreData (h : Follows s accepted said out answers current handled xs ys cur)
    (hsm : s.resp.smstate = .GET_DATA) (hflag : s.resp.respdataflag = false)
    (data0lookup data1lookup : Tag → Flit512) :
    Follows (MemNode.written { s with resp := (s.resp.getStoreData data0lookup data1lookup).1 }
      (s.resp.getStoreData data0lookup data1lookup).2) accepted said out answers current handled xs ys
      cur := by
  have hbusy : s.resp.busy = [] := if_neg fun hx => by rw [hflag] at hx; cases hx.2.1
  have hbusy' : (s.resp.getStoreData data0lookup data1lookup).1.busy = s.resp.busy := by
    rw [hbusy]
    refine if_neg fun hx => ?_
    have hx' : s.resp.respdataflag = true := hx.2.1
    rw [hflag] at hx'
    cases hx'
  have hpending := pending_written s s.tl_fifo_resp s.tl_fifo_data
    (s.resp.getStoreData data0lookup data1lookup) rfl hbusy'
  have hq := h.queued
  exact ⟨h.node.resp_replay hsm hflag data0lookup data1lookup,
    h.tracked.keep hpending fun t _ => rfl,
    ⟨hq.reading.getStoreData hflag data0lookup data1lookup, hq.lookup, hq.sized, hq.known, hq.data, hq.said⟩, h.forwarded,
    h.carries⟩

/-- **A call of the response engine.** -/
lemma resp (h : Follows s accepted said out answers current handled xs ys cur) (enable : Bool) :
    ∃ answers' current' handled' xs' cur',
      Follows (s.step (.resp enable)) accepted said (out ++ s.netOut (.resp enable)) answers' current'
        handled' xs' ys cur' := by
  have hnode := h.node.resp enable
  rw [MemNode.netOut]
  cases hcall : s.respCall enable with
  | none =>
      rw [MemNode.step_resp_of_none hcall]
      exact ⟨answers, current, handled, xs, cur, by simpa using h⟩
  | some call =>
      rw [MemNode.step_resp_of_some hcall] at hnode ⊢
      have hcall' : s.respEngSM enable = some call := (Option.filter_eq_some_iff.mp hcall).1
      rw [MemNode.respEngSM] at hcall'
      cases hsm : s.resp.smstate with
      | INIT =>
          rw [hsm] at hcall'
          cases enable with
          | false => cases hcall'
          | true =>
              obtain rfl := Option.some.inj hcall'
              exact ⟨answers, current, handled, xs, cur, by simpa [RespEng.initTag] using h.initTag hsm⟩
      | GET_CMD =>
          rw [hsm] at hcall'
          cases hresp : s.tl_fifo_resp with
          | nil =>
              rw [hresp] at hcall'
              cases hcall'
          | cons c rest =>
              rw [hresp] at hcall'
              obtain rfl := Option.some.inj hcall'
              obtain ⟨answers', current', handled', xs', ds, h'⟩ := h.getCmd hsm hresp hnode
              exact ⟨answers', current', handled', xs', ds, h'⟩
      | GET_DATA =>
          rw [hsm] at hcall'
          cases hflag : s.resp.respdataflag with
          | true =>
              rw [hflag] at hcall'
              cases hdata : s.tl_fifo_data with
              | nil =>
                  rw [hdata] at hcall'
                  cases hcall'
              | cons d rest =>
                  rw [hdata] at hcall'
                  obtain rfl := Option.some.inj hcall'
                  obtain ⟨cur', h'⟩ := h.getHostData hsm hflag hdata
                  exact ⟨answers, current, handled, xs, cur', h'⟩
          | false =>
              rw [hflag] at hcall'
              obtain rfl := Option.some.inj hcall'
              refine ⟨answers, current, handled, xs, cur, ?_⟩
              change Follows _ _ _ (out ++ []) _ _ _ _ _ _
              rw [List.append_nil]
              exact h.getStoreData hsm hflag _ _

/-- **One move.** -/
theorem step (h : Follows s accepted said out answers current handled xs ys cur) {m : NodeMove}
    (hok : NodeOk SingleParts s m) : ∃ answers' current' handled' xs' ys' cur',
      Follows (s.step m) (accepted ++ s.accepted m) (said ++ s.said m) (out ++ s.netOut m) answers'
        current' handled' xs' ys' cur' := by
  have hnode : NodeInv (s.step m) := h.node.step (hok.mono fun _ _ _ => SingleParts.p9)
  cases m with
  | clock w =>
      obtain ⟨current', h'⟩ := h.clock (w := w) (hok.mono fun _ _ _ => SingleParts.p9)
      refine ⟨answers, current', handled, xs, ys, cur, ?_⟩
      change Follows (s.clock w) _ (said ++ []) (out ++ []) _ _ _ _ _ _
      rw [List.append_nil, List.append_nil]
      exact h'
  | load =>
      obtain ⟨xs', ys', hqueued⟩ := h.queued.load
      have hsame : ∀ t, s.load.Pending t ↔ s.Pending t := fun t => by
        rw [MemNode.load]
        cases s.tl_resp <;> exact Iff.rfl
      have hstore : s.load.store = s.store := by
        rw [MemNode.load]
        cases s.tl_resp <;> rfl
      refine ⟨answers, current, handled, xs', ys', cur, ?_⟩
      change Follows s.load (accepted ++ []) (said ++ []) (out ++ []) _ _ _ _ _ _
      rw [List.append_nil, List.append_nil, List.append_nil]
      exact ⟨hnode, h.tracked.keep hsame fun t _ => by rw [hstore], hqueued, h.forwarded, h.carries⟩
  | resp enable =>
      obtain ⟨answers', current', handled', xs', cur', h'⟩ := h.resp enable
      refine ⟨answers', current', handled', xs', ys, cur', ?_⟩
      change Follows _ (accepted ++ []) (said ++ []) _ _ _ _ _ _ _
      rw [List.append_nil, List.append_nil]
      exact h'
  | rty =>
      have hq := h.queued
      refine ⟨answers, current, handled, xs, ys, cur, ?_⟩
      change Follows _ (accepted ++ []) (said ++ []) (out ++ []) _ _ _ _ _ _
      rw [List.append_nil, List.append_nil, List.append_nil]
      exact ⟨hnode, h.tracked.keep (fun _ => Iff.rfl) fun _ _ => rfl,
        ⟨hq.reading, hq.lookup, hq.sized, hq.known, hq.data, hq.said⟩, h.forwarded, h.carries⟩
  | answer r data more =>
      obtain ⟨e, he, hr⟩ := hok
      refine ⟨answers, current, handled, xs, ys ++ [(r, data)], cur, ?_⟩
      change Follows _ (accepted ++ []) (said ++ [(r, data)]) (out ++ []) _ _ _ _ _ _
      rw [List.append_nil, List.append_nil]
      exact ⟨hnode, h.tracked.keep (fun _ => Iff.rfl) fun _ _ => rfl, h.queued.answer h.node he hr,
        h.forwarded, h.carries⟩
  | deliver =>
      have hsame : ∀ t, (s.step .deliver).Pending t ↔ s.Pending t := fun t => by
        rw [MemNode.step]
        cases s.due <;> exact Iff.rfl
      have hstore : (s.step .deliver).store = s.store := by
        rw [MemNode.step]
        cases s.due <;> rfl
      refine ⟨answers, current, handled, xs, ys, cur, ?_⟩
      change Follows _ (accepted ++ []) (said ++ []) (out ++ []) _ _ _ _ _ _
      rw [List.append_nil, List.append_nil, List.append_nil]
      exact ⟨hnode, h.tracked.keep hsame fun t _ => by rw [hstore], h.queued.deliver, h.forwarded,
        h.carries⟩

lemma init : Follows {} [] [] [] [] (fun _ => none) [] [] [] [] where
  node := NodeInv.init
  tracked :=
    { once _ := rfl
      pending _ := ⟨(fun hx => by cases hx), fun hx => by cases hx.1⟩
      recorded _ _ hf := by cases hf }
  queued :=
    { reading := ⟨rfl, fun hx => absurd hx.1 (by decide), fun _ => rfl, by decide, by simp⟩
      lookup := rfl
      sized := by simp
      known _ hr := by cases hr
      data := rfl
      said := rfl }
  forwarded := ⟨rfl, List.nil_suffix, rfl⟩
  carries := by simp

/-- Every run. -/
theorem run (ms : List NodeMove) (hok : memNode.Meets (NodeOk SingleParts) ms) :
    ∃ answers current handled xs ys cur,
      Follows (memNode.run ms) (memNode.collect MemNode.accepted ms) (memNode.collect MemNode.said ms)
        (memNode.collect MemNode.netOut ms) answers current handled xs ys cur := by
  induction ms using List.reverseRecOn with
  | nil => exact ⟨_, _, _, _, _, _, init⟩
  | append_singleton ms m ih =>
      obtain ⟨hpre, hm⟩ := (memNode.meets_concat _ ms m).mp hok
      obtain ⟨answers, current, handled, xs, ys, cur, h⟩ := ih hpre
      rw [Machine.run_concat, Machine.collect_concat, Machine.collect_concat, Machine.collect_concat]
      exact h.step hm

end Follows

/-- **Responses are correlated.**  Every header gives back the CAPPTAG and the net id of the command
that was taken under the answering tag, each command is answered at most once, and the data behind
a header is the data that the host delivered with its response. -/
theorem responses_correlated (ms : List NodeMove) (hok : memNode.Meets (NodeOk SingleParts) ms) :
    ∃ answers handled waiting unsent, Correlated ms answers handled waiting unsent := by
  obtain ⟨answers, current, handled, xs, ys, cur, h⟩ := Follows.run ms hok
  exact ⟨answers, handled, xs ++ ys, cur, h.carries, fun t => ⟨current t, h.tracked.once t⟩,
    h.forwarded.written, h.forwarded.last, h.queued.said, h.forwarded.answered, h.queued.data⟩

/-- Two reads.  The first is answered with RTY, the second waits for a translation; both are issued
again, the second gets its data and the first fails. -/
def retriedReads : List NodeMove :=
  let read (tag : Tag) (netid : BitVec 6) : Flit512 :=
    setField (setField (setField (setField 0 504 (0x10 : BitVec 8)) 424 tag) 422 (0b10 : BitVec 2)) 291
      netid
  let say (op : BitVec 8) (tag : Tag) (code : BitVec 4) : TlResp :=
    op ++ tag ++ code ++ (0b10 : BitVec 2) ++ 0#2 ++ 0#6
  [.clock {}, .clock { netflit_in_tdata := read 0x77 5, netflit_in_tvalid := true },
    .clock { netflit_in_tdata := read 0x99 6, netflit_in_tvalid := true }, .clock {},
    .answer (say TL_RD_RESPFAIL 1 TLRESP_CODE_RTY) [] false,
    .answer (say TL_RD_RESPFAIL 2 TLRESP_CODE_PEND) [] false, .answer (say TL_XLATE_DONE 2 0) [] false,
    .load, .resp true, .rty, .load, .resp true, .load, .resp true, .rty, .rty, .clock {}, .clock {},
    .clock {}, .answer (say TL_RD_RESPOK 2 0) [1, 2] false, .answer (say TL_RD_RESPFAIL 1 0xE) [] false,
    .load, .load, .deliver, .deliver, .resp true, .resp true, .resp true, .resp true]

/-- The initialisation writes nothing to the network. -/
lemma MemNode.netOut_of_init {s : MemNode} (hsm : s.resp.smstate = .INIT) (enable : Bool) :
    s.netOut (.resp enable) = [] := by
  rw [netOut, respCall, respEngSM, hsm]
  cases enable <;> rfl

/-- What the network is given behind the initialisation. -/
lemma netOut_seeded (ms : List NodeMove) :
    memNode.collect MemNode.netOut (List.replicate 512 (.resp true) ++ ms)
      = memNode.collectFrom MemNode.netOut (seededNode 512) ms := by
  have hnone : ∀ n ≤ 512, memNode.collect MemNode.netOut (List.replicate n (.resp true)) = [] := by
    intro n hn
    induction n with
    | zero => rfl
    | succ n ih =>
        have hsm : (seededNode n).resp.smstate = .INIT := if_neg (by omega)
        rw [List.replicate_succ', Machine.collect_concat, ih (by omega), run_seeded (by omega),
          MemNode.netOut_of_init hsm, List.append_nil]
  rw [Machine.collect_append, hnone 512 (le_refl 512), run_seeded (le_refl 512), List.nil_append]

/-- What the host says behind the initialisation. -/
lemma said_seeded (ms : List NodeMove) :
    memNode.collect MemNode.said (List.replicate 512 (.resp true) ++ ms)
      = memNode.collectFrom MemNode.said (seededNode 512) ms := by
  refine memNode.collect_behind (fun s m hm => ?_) (run_seeded (le_refl 512))
  rw [List.eq_of_mem_replicate hm]
  rfl

/-- Both reads are answered, the second one first, with the tags that the network has given them. -/
theorem responses_correlated_demo : ∃ answers handled waiting unsent,
    Correlated (List.replicate 512 (.resp true) ++ retriedReads) answers handled waiting unsent
      ∧ unsent = []
      ∧ answers.map (fun a => (a.resp.capptag, a.resp.opcode, a.data))
        = [(2, TL_RD_RESPOK, [1, 2]), (1, TL_RD_RESPFAIL, [])]
      ∧ answers.map (fun a => field a.header 297 16) = [0x99, 0x77] := by
  obtain ⟨answers, handled, waiting, unsent, h⟩ :=
    responses_correlated _ (meets_seeded retriedReads (by decide +kernel))
  have hunsent : unsent = [] := by
    have hdata := h.data
    have hnone : (memNode.runFrom (seededNode 512) retriedReads).tl_fifo_data
        ++ (memNode.runFrom (seededNode 512) retriedReads).due = [] := by decide +kernel
    rw [Machine.run_append, run_seeded (le_refl 512), hnone] at hdata
    exact (List.append_eq_nil_iff.mp hdata).1
  have hwritten : (answers.flatMap NetAnswer.flits).map (fun f => field f 297 16) = [0x99, 0, 0, 0x77] := by
    rw [← h.written, hunsent, List.map_nil, List.append_nil, netOut_seeded]
    decide +kernel
  have hanswered : answers.map (fun a => (a.resp.capptag, a.resp.opcode, a.data))
      <+: [(2, TL_RD_RESPOK, [1, 2]), (1, TL_RD_RESPFAIL, [])] := by
    have hsaid : (((memNode.collectFrom MemNode.said (seededNode 512) retriedReads).filter
        (·.1.answers)).map fun x => (x.1.capptag, x.1.opcode, x.2))
        = [(2, TL_RD_RESPOK, [1, 2]), (1, TL_RD_RESPFAIL, [])] := by decide +kernel
    have hpre : (answers.map fun a => (a.resp, a.data))
        <+: (memNode.collectFrom MemNode.said (seededNode 512) retriedReads).filter (·.1.answers) := by
      rw [h.answered, ← said_seeded, h.said, List.filter_append]
      exact List.prefix_append _ _
    have hmap := hpre.map fun x : TlResp × List OCxFlit => (x.1.capptag, x.1.opcode, x.2)
    rw [List.map_map, hsaid] at hmap
    exact hmap
  -- the flits that have been written are those of both answers
  rcases answers with _ | ⟨a, _ | ⟨b, rest⟩⟩
  · cases hwritten
  · obtain ⟨-, -, hdata⟩ : a.resp.capptag = 2 ∧ a.resp.opcode = TL_RD_RESPOK ∧ a.data = [1, 2] := by
      simpa using hanswered
    simp [NetAnswer.flits, hdata] at hwritten
  · obtain rfl : rest = [] := by
      have hlen := hanswered.length_le
      rw [List.length_map, List.length_cons, List.length_cons] at hlen
      exact List.eq_nil_of_length_eq_zero (by change rest.length + 1 + 1 ≤ 2 at hlen; omega)
    have hboth := hanswered.eq_of_length_le (le_refl 2)
    obtain ⟨hdata, hdata'⟩ : a.data = [1, 2] ∧ b.data = [] := by
      simp only [List.map_cons, List.map_nil, List.cons.injEq, Prod.mk.injEq] at hboth
      exact ⟨hboth.1.2.2, hboth.2.1.2.2⟩
    refine ⟨_, _, _, _, h, hunsent, hboth, ?_⟩
    simp only [List.flatMap_cons, List.flatMap_nil, NetAnswer.flits, hdata, hdata', List.map_cons,
      List.map_nil, List.cons_append, List.nil_append, List.cons.injEq] at hwritten
    rw [List.map_cons, List.map_cons, List.map_nil, hwritten.1, hwritten.2.2.2.1]

end ThymesisFlow
