import ThymesisFlow.Lib.History
import ThymesisFlow.Memory.NodeResp

/-!
# The log of the memory node

What the memory ingress of the node takes is logged as a list of transactions, those of the network and
those of the retry path in the order in which they are issued.  The log is read off the handshakes; that
the commands and the data handed to the TLX are those of the log is what `IngressTrace` says about it.
-/

namespace ThymesisFlow

/-- The transaction that begins with a command of the retry path. -/
def IngressTxn.retry (f : Flit512) : IngressTxn := ⟨false, f, rtyTag f, 0, []⟩

namespace MemoryIngress

variable {s : MemoryIngress} {i : MemoryIngressIn} {txns : List IngressTxn}

/-- The log after a cycle: a command that is taken begins a transaction, and a data flit belongs to the
last one. -/
def logged (s : MemoryIngress) (i : MemoryIngressIn) (txns : List IngressTxn) : List IngressTxn :=
  if s.smstate = .RECEIVE_CMD then
    txns ++ ((s.rtyTaken i).map IngressTxn.retry
      ++ (s.netTaken i).map fun f => ⟨true, f, i.capptag_fifo_tdata, i.active_actag, []⟩)
  else
    txns.dropLast ++ txns.getLast?.toList.map fun x =>
      { x with data := x.data ++ (s.rtyTaken i ++ s.netTaken i) }

/-- Nothing is taken. -/
lemma logged_idle (hrty : s.takesRty i = false) (hnet : s.takesNet i = false) :
    s.logged i txns = txns := by
  have hr : s.rtyTaken i = [] := by rw [rtyTaken, hrty, if_neg Bool.false_ne_true]
  have hn : s.netTaken i = [] := by rw [netTaken, hnet, if_neg Bool.false_ne_true]
  rw [logged, hr, hn]
  split
  · simp
  · rcases List.eq_nil_or_concat txns with rfl | ⟨pre, x, rfl⟩
    · rfl
    · simp

lemma logged_netCmd (hsm : s.smstate = .RECEIVE_CMD) (hrty : s.takesRty i = false)
    (hnet : s.takesNet i = true) : s.logged i txns
      = txns ++ [⟨true, i.netflit_in_tdata, i.capptag_fifo_tdata, i.active_actag, []⟩] := by
  rw [logged, if_pos hsm, rtyTaken, hrty, netTaken, hnet]
  rfl

lemma logged_rtyCmd (hsm : s.smstate = .RECEIVE_CMD) (hrty : s.takesRty i = true)
    (hnet : s.takesNet i = false) :
    s.logged i txns = txns ++ [IngressTxn.retry i.rty_in_tdata] := by
  rw [logged, if_pos hsm, rtyTaken, hrty, netTaken, hnet]
  rfl

lemma logged_netData (hsm : s.smstate = .RECEIVE_DATA) (hrty : s.takesRty i = false)
    (hnet : s.takesNet i = true) (pre : List IngressTxn) (x : IngressTxn) :
    s.logged i (pre ++ [x]) = pre ++ [{ x with data := x.data ++ [i.netflit_in_tdata] }] := by
  rw [logged, if_neg (by rw [hsm]; decide), rtyTaken, hrty, netTaken, hnet]
  simp

lemma logged_rtyData (hsm : s.smstate = .RECEIVE_DATA) (hrty : s.takesRty i = true)
    (hnet : s.takesNet i = false) (pre : List IngressTxn) (x : IngressTxn) :
    s.logged i (pre ++ [x]) = pre ++ [{ x with data := x.data ++ [i.rty_in_tdata] }] := by
  rw [logged, if_neg (by rw [hsm]; decide), rtyTaken, hrty, netTaken, hnet]
  simp

end MemoryIngress

/-- **The log is a trace** of the memory ingress. -/
theorem IngressTrace.logged {s : LookupIngress} {i : MemoryIngressIn} {h : IngressHistory}
    {first : List (BitVec 200)} {txns : List IngressTxn} (t : IngressTrace s h first txns)
    (hcycle : s.ingress.Cycle i) (horderly : (s.ingress.step i).Orderly) :
    IngressTrace (s.step i) (h.add s.ingress i) (i.assign first) (s.ingress.logged i txns) := by
  cases hcycle with
  | idle hstay hrty htag hnet hpath =>
      rw [MemoryIngress.logged_idle hrty hnet, t.assign_of_stay fun hsm => hstay.trans hsm]
      exact t.idle horderly hstay hrty htag hnet hpath
  | actag hsm hnext hrty htag hnet hpath =>
      rw [MemoryIngress.logged_idle hrty hnet, t.assign_of_init hsm hnext]
      exact t.actag horderly hsm hnext hrty htag hnet hpath
  | rtyCmd hsm hready hrty htag hnet hpath =>
      rw [MemoryIngress.logged_rtyCmd hsm hrty hnet,
        t.assign_of_stay fun hx => absurd (hsm.symm.trans hx) (by decide)]
      exact t.rtyCmd horderly hsm hready hrty htag hnet hpath
  | netCmd hsm hready hrty htag hnet hpath =>
      rw [MemoryIngress.logged_netCmd hsm hrty hnet,
        t.assign_of_stay fun hx => absurd (hsm.symm.trans hx) (by decide)]
      exact t.netCmd horderly hsm hready hrty htag hnet hpath
  | rtyData hsm hready hsize hrty htag hnet hpath =>
      obtain ⟨pre, x, rfl, h'⟩ := t.rtyData horderly hsm hready hsize hrty htag hnet hpath
      rw [MemoryIngress.logged_rtyData hsm hrty hnet,
        t.assign_of_stay fun hx => absurd (hsm.symm.trans hx) (by decide)]
      exact h'
  | netData hsm hready hsize hrty htag hnet hpath =>
      obtain ⟨pre, x, rfl, h'⟩ := t.netData horderly hsm hready hsize hrty htag hnet hpath
      rw [MemoryIngress.logged_netData hsm hrty hnet,
        t.assign_of_stay fun hx => absurd (hsm.symm.trans hx) (by decide)]
      exact h'

/-! ## What a cycle does to the log -/

/-- A cycle leaves the log as it is, begins a transaction, or adds a data flit to the last one. -/
inductive LogStep (s : MemoryIngress) (i : MemoryIngressIn) :
    List IngressTxn → List IngressTxn → Prop
  | keep {txns : List IngressTxn} (hrty : s.takesRty i = false) (htag : s.takesTag i = false)
      (hsize : (s.step i).dflit_size_rty = s.dflit_size_rty) : LogStep s i txns txns
  | rtyCmd {txns : List IngressTxn} (hrty : s.takesRty i = true) (htag : s.takesTag i = false)
      (hzero : s.dflit_size_rty.toNat = 0)
      (hsize : (s.step i).dflit_size_rty.toNat = dataFlits i.rty_in_tdata) :
      LogStep s i txns (txns ++ [IngressTxn.retry i.rty_in_tdata])
  | netCmd {txns : List IngressTxn} (hrty : s.takesRty i = false) (htag : s.takesTag i = true)
      (hsize : (s.step i).dflit_size_rty = s.dflit_size_rty) :
      LogStep s i txns (txns ++ [⟨true, i.netflit_in_tdata, i.capptag_fifo_tdata, i.active_actag, []⟩])
  | rtyData {pre : List IngressTxn} {x : IngressTxn} (hold : x.fresh = false)
      (hrty : s.takesRty i = true) (htag : s.takesTag i = false)
      (hsize : (s.step i).dflit_size_rty.toNat + 1 = s.dflit_size_rty.toNat) :
      LogStep s i (pre ++ [x]) (pre ++ [{ x with data := x.data ++ [i.rty_in_tdata] }])
  | netData {pre : List IngressTxn} {x : IngressTxn} (hfresh : x.fresh = true)
      (hlen : x.data.length < x.size) (hrty : s.takesRty i = false) (htag : s.takesTag i = false)
      (hsize : (s.step i).dflit_size_rty = s.dflit_size_rty) :
      LogStep s i (pre ++ [x]) (pre ++ [{ x with data := x.data ++ [i.netflit_in_tdata] }])

/-- The log follows the cycles. -/
theorem IngressTrace.logStep {s : LookupIngress} {i : MemoryIngressIn} {h : IngressHistory}
    {first : List (BitVec 200)} {txns : List IngressTxn} (t : IngressTrace s h first txns)
    (hcycle : s.ingress.Cycle i) : LogStep s.ingress i txns (s.ingress.logged i txns) := by
  cases hcycle with
  | idle hstay hrty htag hnet hpath =>
      rw [MemoryIngress.logged_idle hrty hnet]
      refine .keep hrty htag ?_
      rw [MemoryIngress.step, hpath]
      rfl
  | actag hsm hnext hrty htag hnet hpath =>
      rw [MemoryIngress.logged_idle hrty hnet]
      refine .keep hrty htag ?_
      rw [MemoryIngress.step, hpath]
      rfl
  | rtyCmd hsm hready hrty htag hnet hpath =>
      rw [MemoryIngress.logged_rtyCmd hsm hrty hnet]
      refine .rtyCmd hrty htag ?_ ?_
      · rw [(t.orderly.idle (by rw [hsm]; decide)).2]
        rfl
      · rw [MemoryIngress.step, hpath]
        rfl
  | netCmd hsm hready hrty htag hnet hpath =>
      rw [MemoryIngress.logged_netCmd hsm hrty hnet]
      refine .netCmd hrty htag ?_
      rw [MemoryIngress.step, hpath]
      rfl
  | rtyData hsm hready hsize hrty htag hnet hpath =>
      obtain ⟨pre, x, rfl, hold⟩ := t.current.old_last hsm hsize
      rw [MemoryIngress.logged_rtyData hsm hrty hnet]
      refine .rtyData hold hrty htag ?_
      have hstep : (s.ingress.step i).dflit_size_rty = s.ingress.dflit_size_rty - 1 := by
        rw [MemoryIngress.step, hpath]
        rfl
      rw [hstep]
      rcases hsize with hone | htwo
      · rw [hone]
        rfl
      · rw [htwo]
        rfl
  | netData hsm hready hsize hrty htag hnet hpath =>
      obtain ⟨pre, x, rfl, hfresh, hlen, -⟩ := t.current.fresh_last hsm hsize
      rw [MemoryIngress.logged_netData hsm hrty hnet]
      refine .netData hfresh ?_ hrty htag ?_
      · rcases hsize with hone | htwo
        · rw [hone] at hlen
          exact Nat.lt_of_succ_le hlen.le
        · rw [htwo] at hlen
          change _ + 2 = _ at hlen
          omega
      · rw [MemoryIngress.step, hpath]
        rfl

/-! ## The data ports -/

/-- The flit that a data port writes belongs to the last transaction, and it is in the output register. -/
def PortOf (s : MemoryIngress) (txns : List IngressTxn) (p : LookupPort 512) : Prop :=
  p.we = true → s.tlx_data_valid_q = true ∧
    ∃ x, txns.getLast? = some x ∧ x.fresh = true ∧ bramRow 6 p.addr = tagRow x.tag

lemma PortOf.silent {s : MemoryIngress} {txns : List IngressTxn} {p : LookupPort 512}
    (h : p.we = false) : PortOf s txns p := fun hwe => by
  rw [h] at hwe
  cases hwe

/-- **The data ports follow the cycles.** -/
theorem IngressTrace.ports {s : LookupIngress} {i : MemoryIngressIn} {h : IngressHistory}
    {first : List (BitVec 200)} {txns : List IngressTxn} (t : IngressTrace s h first txns)
    (hcycle : s.ingress.Cycle i) :
    PortOf (s.ingress.step i) (s.ingress.logged i txns) (s.ingress.step i).d0lookup ∧
      PortOf (s.ingress.step i) (s.ingress.logged i txns) (s.ingress.step i).d1lookup := by
  cases hcycle with
  | idle hstay hrty htag hnet hpath =>
      rw [MemoryIngress.step, hpath]
      exact ⟨.silent rfl, .silent rfl⟩
  | actag hsm hnext hrty htag hnet hpath =>
      have hsilent := (t.orderly.init hsm).2.2
      rw [MemoryIngress.step, hpath]
      exact ⟨.silent hsilent.d0, .silent hsilent.d1⟩
  | rtyCmd hsm hready hrty htag hnet hpath =>
      rw [MemoryIngress.step, hpath]
      exact ⟨.silent rfl, .silent rfl⟩
  | netCmd hsm hready hrty htag hnet hpath =>
      rw [MemoryIngress.step, hpath]
      exact ⟨.silent rfl, .silent rfl⟩
  | rtyData hsm hready hsize hrty htag hnet hpath =>
      have hsilent : s.ingress.Silent := by
        cases t.orderly.data hsm with
        | net _ hzero =>
            rw [hzero] at hsize
            exact absurd hsize (by decide)
        | rty _ _ hsilent => exact hsilent
      rw [MemoryIngress.step, hpath]
      exact ⟨.silent hsilent.d0, .silent hsilent.d1⟩
  | netData hsm hready hsize hrty htag hnet hpath =>
      obtain ⟨pre, x, rfl, hfresh, -, haddr⟩ := t.current.fresh_last hsm hsize
      rw [MemoryIngress.logged_netData hsm hrty hnet]
      have hport {p : LookupPort 512} {own : Bool} : PortOf (s.ingress.step i)
          (pre ++ [{ x with data := x.data ++ [i.netflit_in_tdata] }]) (s.ingress.dataPort i p own) := by
        intro hown
        refine ⟨?_, _, List.getLast?_concat, hfresh, ?_⟩
        · rw [MemoryIngress.step, hpath]
          rfl
        · have hown' : own = true := hown
          rw [MemoryIngress.dataPort, bramRow_setField (by decide), if_pos hown', haddr]
      have hd0 : (s.ingress.step i).d0lookup
          = s.ingress.dataPort i s.ingress.d0lookup (bit s.ingress.dflit_size 1) := by
        rw [MemoryIngress.step, hpath]
        rfl
      have hd1 : (s.ingress.step i).d1lookup
          = s.ingress.dataPort i s.ingress.d1lookup (bit s.ingress.dflit_size 0) := by
        rw [MemoryIngress.step, hpath]
        rfl
      rw [hd0, hd1]
      exact ⟨hport, hport⟩

/-! ## The last command of a row -/

lemma latest_old {txns : List IngressTxn} {x : IngressTxn} (h : x.fresh = false) (row : BitVec 9) :
    latest (txns ++ [x]) row = latest txns row := by
  rw [latest_concat, h]
  rfl

lemma latest_fresh {txns : List IngressTxn} {x : IngressTxn} (h : x.fresh = true) (row : BitVec 9) :
    latest (txns ++ [x]) row = if tagRow x.tag = row then some x else latest txns row := by
  rw [latest_concat, h]
  by_cases hrow : tagRow x.tag = row <;> simp [hrow]

/-- The last transaction with more data. -/
lemma latest_more (txns : List IngressTxn) (x : IngressTxn) (data : List Flit512) (row : BitVec 9) :
    latest (txns ++ [{ x with data }]) row
      = if x.fresh && tagRow x.tag = row then some { x with data } else latest txns row :=
  latest_concat txns _ row

lemma fresh_of_latest {txns : List IngressTxn} {y : IngressTxn} {row : BitVec 9}
    (h : latest txns row = some y) : y.fresh = true := by
  have hp := List.find?_some h
  exact (Bool.and_eq_true_iff.mp hp).1

/-- Where the data of a command is no longer in the output register, the data BRAMs have it. -/
lemma store_of_handed {s : MemoryIngress} {txns : List IngressTxn} {p : LookupPort 512}
    (h : PortOf s txns p) {row : BitVec 9} {y : IngressTxn} (hy : latest txns row = some y)
    (hout : txns.getLast? = some y → s.tlx_data_valid_q = false) (mem : BitVec 9 → Flit512) :
    bramWrite 6 mem s.lookup_port_en_q p row = mem row := by
  refine if_neg fun hwrite => ?_
  simp only [Bool.and_eq_true, decide_eq_true_eq] at hwrite
  obtain ⟨⟨-, hwe⟩, hrow⟩ := hwrite
  obtain ⟨hvalid, x, hlast, hfresh, haddr⟩ := h hwe
  obtain ⟨pre, rfl⟩ : ∃ pre, txns = pre ++ [x] := List.getLast?_eq_some_iff.mp hlast
  rw [latest_fresh hfresh, if_pos (haddr.symm.trans hrow)] at hy
  rw [hout (by rw [hlast, hy])] at hvalid
  cases hvalid

/-! ## The node -/

namespace MemNode

variable (s : MemNode)

/-- The memory ingress of the node with its lookup BRAMs. -/
def lookup : LookupIngress := ⟨s.ingress, s.cmdlookup, s.data0lookup, s.data1lookup⟩

/-- The log after a move. -/
def logged (s : MemNode) (txns : List IngressTxn) : NodeMove → List IngressTxn
  | .clock w => s.ingress.logged (s.ingressWires w) txns
  | _ => txns

/-- What is observed of the memory ingress in a move. -/
def seen {α : Type*} (f : MemoryIngress → MemoryIngressIn → List α) (s : MemNode) :
    NodeMove → List α
  | .clock w => f s.ingress (s.ingressWires w)
  | _ => []

end MemNode

/-- The node with its log. -/
def loggedNode : Machine (MemNode × List IngressTxn) NodeMove where
  init := ({}, [])
  step s m := (s.1.step m, s.1.logged s.2 m)

lemma loggedNode_run (ms : List NodeMove) : (loggedNode.run ms).1 = memNode.run ms := by
  induction ms using List.reverseRecOn with
  | nil => rfl
  | append_singleton ms m ih =>
      rw [Machine.run_concat, Machine.run_concat, ← ih]
      rfl

/-- What the memory ingress of the node has taken and given. -/
def nodeHistory (ms : List NodeMove) : IngressHistory where
  net := memNode.collect (MemNode.seen MemoryIngress.netTaken) ms
  rty := memNode.collect (MemNode.seen MemoryIngress.rtyTaken) ms
  tags := memNode.collect (MemNode.seen MemoryIngress.tagTaken) ms
  cmds := memNode.collect (MemNode.seen MemoryIngress.issued) ms
  data := memNode.collect (MemNode.seen MemoryIngress.issuedData) ms

lemma nodeHistory_clock (ms : List NodeMove) (w : NodeWires) : nodeHistory (ms ++ [.clock w])
    = (nodeHistory ms).add (memNode.run ms).ingress ((memNode.run ms).ingressWires w) := by
  simp only [nodeHistory, Machine.collect_concat]
  rfl

lemma nodeHistory_other (ms : List NodeMove) {m : NodeMove} (hm : ∀ w, m ≠ .clock w) :
    nodeHistory (ms ++ [m]) = nodeHistory ms := by
  have hseen {α : Type} (f : MemoryIngress → MemoryIngressIn → List α) (s : MemNode) :
      s.seen f m = [] := by
    cases m with
    | clock w => exact absurd rfl (hm w)
    | load | resp _ | rty | answer _ _ _ | deliver => rfl
  simp only [nodeHistory, Machine.collect_concat, hseen, List.append_nil]

namespace MemNode

variable {s : MemNode} {txns : List IngressTxn} {m : NodeMove}

/-- Only a cycle of the memory ingress changes it and the BRAMs. -/
lemma lookup_other (hm : ∀ w, m ≠ .clock w) : (s.step m).lookup = s.lookup := by
  cases m with
  | clock w => exact absurd rfl (hm w)
  | load =>
      rw [step, load]
      cases s.tl_resp <;> rfl
  | resp enable =>
      cases hcall : s.respCall enable with
      | none => rw [step_resp_of_none hcall]
      | some call =>
          rw [step_resp_of_some hcall]
          have hcall' := (Option.filter_eq_some_iff.mp hcall).1
          rw [respEngSM_eq] at hcall'
          obtain ⟨out, -, rfl⟩ := Option.map_eq_some_iff.mp hcall'
          rfl
  | rty => rfl
  | answer r data more => rfl
  | deliver =>
      cases hdue : s.due with
      | nil => rw [step_deliver_of_nil hdue]
      | cons d rest => rw [step_deliver_of_cons hdue]; rfl

end MemNode

/-! ## Every run -/

lemma loggedNode_meets {ok : MemNode → NodeMove → Prop} (ms : List NodeMove) :
    loggedNode.Meets (fun s m => ok s.1 m) ms ↔ memNode.Meets ok ms := by
  induction ms using List.reverseRecOn with
  | nil => exact Iff.rfl
  | append_singleton ms m ih => rw [Machine.meets_concat, Machine.meets_concat, ih, loggedNode_run]

lemma loggedNode_log (ms : List NodeMove) (m : NodeMove) : (loggedNode.run (ms ++ [m])).2
    = (memNode.run ms).logged (loggedNode.run ms).2 m := by
  rw [Machine.run_concat, ← loggedNode_run]
  rfl

/-- The acTag that a cycle of the node has to assign. -/
def NodeMove.actag : NodeMove → Option (BitVec 12)
  | .clock w => if w.enable then some w.active_actag else none
  | _ => none

/-- **What the node hands to the TLX is its log.** -/
theorem node_trace (ms : List NodeMove) (hok : memNode.Meets (NodeOk P9Parts) ms) :
    IngressTrace (memNode.run ms).lookup (nodeHistory ms) (assigned NodeMove.actag ms)
      (loggedNode.run ms).2 := by
  induction ms using List.reverseRecOn with
  | nil => exact IngressTrace.init
  | append_singleton ms m ih =>
      obtain ⟨hpre, hlast⟩ := (memNode.meets_concat _ ms m).mp hok
      have ht := ih hpre
      rw [Machine.run_concat, loggedNode_log, assigned_concat]
      have hother (hm : ∀ w, m ≠ .clock w) (hlog : (memNode.run ms).logged (loggedNode.run ms).2 m
          = (loggedNode.run ms).2) (hnone : m.actag = none) :
          IngressTrace (memNode.step (memNode.run ms) m).lookup (nodeHistory (ms ++ [m]))
            (if assigned NodeMove.actag ms = [] then (m.actag.map actagCmd).toList
              else assigned NodeMove.actag ms)
            ((memNode.run ms).logged (loggedNode.run ms).2 m) := by
        have hlookup : (memNode.step (memNode.run ms) m).lookup = (memNode.run ms).lookup :=
          MemNode.lookup_other hm
        have hfirst : (if assigned NodeMove.actag ms = [] then (m.actag.map actagCmd).toList
            else assigned NodeMove.actag ms) = assigned NodeMove.actag ms := by
          rw [hnone]
          split_ifs with hnil
          · exact hnil.symm
          · rfl
        rw [nodeHistory_other ms hm, hlookup, hlog, hfirst]
        exact ht
      cases m with
      | clock w =>
          obtain ⟨hcycle, horderly⟩ := (NodeInv.run ms hpre).cycle hlast.1 fun hv => (hlast.2 hv).2
          rw [nodeHistory_clock]
          exact ht.logged hcycle horderly
      | load | resp _ | rty | answer _ _ _ | deliver =>
          exact hother (fun w hw => by cases hw) rfl rfl

/-- The command that an entry of the log begins with, and its tag. -/
def IngressTxn.begun (x : IngressTxn) : Tag × Flit512 := (x.tag, x.flit)

/-- The log goes on with a command of the network where a tag is taken, and only there. -/
lemma LogStep.begun {s : MemoryIngress} {i : MemoryIngressIn} {txns txns' : List IngressTxn}
    (h : LogStep s i txns txns') : (txns'.filter (·.fresh)).map IngressTxn.begun
      = (txns.filter (·.fresh)).map IngressTxn.begun
        ++ if s.takesTag i then [(i.capptag_fifo_tdata, i.netflit_in_tdata)] else [] := by
  cases h with
  | keep hrty htag hsize => rw [htag, if_neg Bool.false_ne_true, List.append_nil]
  | rtyCmd hrty htag hzero hsize =>
      rw [htag, List.filter_append, List.map_append]
      rfl
  | netCmd hrty htag hsize =>
      rw [htag, List.filter_append, List.map_append]
      rfl
  | rtyData hold hrty htag hsize =>
      rw [htag, List.filter_append, List.filter_append, List.filter_singleton, List.filter_singleton, hold]
      exact (List.append_nil _).symm
  | netData hfresh hlen hrty htag hsize =>
      rw [htag, List.filter_append, List.filter_append, List.filter_singleton, List.filter_singleton,
        hfresh, if_neg Bool.false_ne_true, List.append_nil, List.map_append, List.map_append]
      rfl

/-- The commands that the node has taken are those of its log. -/
lemma accepted_eq_log (ns : List NodeMove) (hok : memNode.Meets (NodeOk P9Parts) ns) :
    memNode.collect MemNode.accepted ns
      = ((loggedNode.run ns).2.filter (·.fresh)).map IngressTxn.begun := by
  induction ns using List.reverseRecOn with
  | nil => rfl
  | append_singleton ns m ih =>
      obtain ⟨hpre, hlast⟩ := (memNode.meets_concat _ ns m).mp hok
      rw [Machine.collect_concat, ih hpre, loggedNode_log]
      cases m with
      | load | resp enable | rty | answer r data more | deliver => exact List.append_nil _
      | clock w =>
          have t := node_trace ns hpre
          obtain ⟨hcycle, -⟩ := (NodeInv.run ns hpre).cycle hlast.1 fun hv => (hlast.2 hv).2
          have hlog : LogStep (memNode.run ns).ingress ((memNode.run ns).ingressWires w)
              (loggedNode.run ns).2 ((memNode.run ns).logged (loggedNode.run ns).2 (.clock w)) :=
            t.logStep hcycle
          rw [hlog.begun, MemNode.accepted]
          cases htag : (memNode.run ns).ingress.takesTag ((memNode.run ns).ingressWires w) with
          | false => rfl
          | true =>
              rw [(hcycle.net htag).2.1]
              rfl

end ThymesisFlow
