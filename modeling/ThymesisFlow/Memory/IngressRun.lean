import ThymesisFlow.Memory.IngressTrace

/-!
# Runs of the memory ingress

The two streams may come in any interleaving and the TLX may stall the two outputs in any pattern:
the commands go out once each and in the order of their streams, with a tag of their own and the
data behind them, and the lookup BRAMs hold the last command of each tag.
-/

namespace ThymesisFlow

open Framing

/-! ## The streams of a run -/

/-- What has been taken and given in a run. -/
def ingressHistory (is : List MemoryIngressIn) : IngressHistory where
  net := lookupIngress.collect (fun s i => s.ingress.netTaken i) is
  rty := lookupIngress.collect (fun s i => s.ingress.rtyTaken i) is
  tags := lookupIngress.collect (fun s i => s.ingress.tagTaken i) is
  cmds := lookupIngress.collect (fun s i => s.ingress.issued i) is
  data := lookupIngress.collect (fun s i => s.ingress.issuedData i) is

lemma ingressHistory_concat (is : List MemoryIngressIn) (i : MemoryIngressIn) :
    ingressHistory (is ++ [i]) = (ingressHistory is).add (lookupIngress.run is).ingress i := by
  simp only [ingressHistory, Machine.collect_concat]
  rfl

/-- The module stays enabled. -/
def StaysEnabled (s : LookupIngress) (i : MemoryIngressIn) : Prop :=
  s.ingress.smstate ≠ .INIT → i.enable = true

instance (s : LookupIngress) (i : MemoryIngressIn) : Decidable (StaysEnabled s i) :=
  inferInstanceAs (Decidable (_ → _))

/-- A stream of commands and data in which every write is one of 128 bytes. -/
def TwoFlitWrites (fs : List Flit512) : Prop :=
  ∀ c ∈ heads dataFlits 0 fs, cmdIsWrite c = true → cmdDl c = 0b10

instance (fs : List Flit512) : Decidable (TwoFlitWrites fs) :=
  List.decidableBAll (fun c => cmdIsWrite c = true → cmdDl c = 0b10) _

/-- The tags of the pool. -/
def PoolTags (ts : List Tag) : Prop := ∀ t ∈ ts, 1 ≤ t.toNat ∧ t.toNat ≤ 512

instance (ts : List Tag) : Decidable (PoolTags ts) :=
  List.decidableBAll (fun t : Tag => 1 ≤ t.toNat ∧ t.toNat ≤ 512) ts

lemma TwoFlitWrites.of_append {fs gs : List Flit512} (h : TwoFlitWrites (fs ++ gs)) :
    TwoFlitWrites fs := by
  intro c hc
  refine h c ?_
  rw [heads_append]
  exact List.mem_append_left _ hc

/-- The number of flits behind a command of such a stream. -/
lemma cmdDflitSize_two {c : Flit512} (h : cmdIsWrite c = true → cmdDl c = 0b10) :
    cmdDflitSize c = if cmdIsWrite c then 2 else 0 := by
  rw [cmdDflitSize]
  change (if cmdIsWrite c = true then _ else _) = _
  by_cases hw : cmdIsWrite c = true
  · have hdl := h hw
    have h1 : bit c 423 = (cmdDl c).getLsbD 1 := by rw [cmdDl, getLsbD_field]; rfl
    have h0 : bit c 422 = (cmdDl c).getLsbD 0 := by rw [cmdDl, getLsbD_field]; rfl
    rw [if_pos hw, if_pos hw, h1, h0, hdl]
    rfl
  · rw [if_neg hw, if_neg hw]

/-- The counters of the data to come. -/
structure Sizes (s : MemoryIngress) (h : IngressHistory) : Prop where
  net : left dataFlits 0 h.net = s.dflit_size.toNat
  rty : left dataFlits 0 h.rty = s.dflit_size_rty.toNat
  two : s.dflit_size ≠ 4

namespace Sizes

variable {s : MemoryIngress} {i : MemoryIngressIn} {h : IngressHistory}

/-- A command that is taken is a command of its stream. -/
lemma head_of_idle {fs : List Flit512} {c : Flit512} {size : BitVec 3}
    (hleft : left dataFlits 0 fs = size.toNat) (hzero : size = 0) (h : TwoFlitWrites (fs ++ [c])) :
    cmdDflitSize c = if cmdIsWrite c then 2 else 0 := by
  refine cmdDflitSize_two (h c ?_)
  rw [heads_concat, hleft, hzero]
  exact List.mem_append_right _ (List.mem_singleton.mpr rfl)

/-- The counter of a stream after a data flit. -/
lemma left_data {fs : List Flit512} {f : Flit512} {size : BitVec 3}
    (hleft : left dataFlits 0 fs = size.toNat) (hsize : size = 1 ∨ size = 2) :
    left dataFlits 0 (fs ++ [f]) = (size - 1).toNat := by
  rw [left_concat, hleft]
  rcases hsize with rfl | rfl <;> rfl

lemma step (hs : Sizes s h) (horderly : s.Orderly) (hcycle : s.Cycle i)
    (hnet : TwoFlitWrites (h.add s i).net) : Sizes (s.step i) (h.add s i) := by
  have hidle : s.smstate ≠ .RECEIVE_DATA → s.dflit_size = 0 ∧ s.dflit_size_rty = 0 := horderly.idle
  have keep_net : s.takesNet i = false → (h.add s i).net = h.net := fun hx => by
    rw [IngressHistory.add, MemoryIngress.netTaken, hx, if_neg Bool.false_ne_true]
    exact List.append_nil _
  have keep_rty : s.takesRty i = false → (h.add s i).rty = h.rty := fun hx => by
    rw [IngressHistory.add, MemoryIngress.rtyTaken, hx, if_neg Bool.false_ne_true]
    exact List.append_nil _
  have add_net : s.takesNet i = true → (h.add s i).net = h.net ++ [i.netflit_in_tdata] := fun hx => by
    rw [IngressHistory.add, MemoryIngress.netTaken, hx, if_pos rfl]
  have add_rty : s.takesRty i = true → (h.add s i).rty = h.rty ++ [i.rty_in_tdata] := fun hx => by
    rw [IngressHistory.add, MemoryIngress.rtyTaken, hx, if_pos rfl]
  cases hcycle with
  | idle _ hrty _ htaken hpath =>
      have hsize : (s.step i).dflit_size = s.dflit_size := by rw [MemoryIngress.step, hpath]; rfl
      have hsize' : (s.step i).dflit_size_rty = s.dflit_size_rty := by
        rw [MemoryIngress.step, hpath]
        rfl
      exact ⟨by rw [keep_net htaken, hsize, hs.net], by rw [keep_rty hrty, hsize', hs.rty],
        by rw [hsize]; exact hs.two⟩
  | actag _ _ hrty _ htaken hpath =>
      have hsize : (s.step i).dflit_size = s.dflit_size := by rw [MemoryIngress.step, hpath]; rfl
      have hsize' : (s.step i).dflit_size_rty = s.dflit_size_rty := by
        rw [MemoryIngress.step, hpath]
        rfl
      exact ⟨by rw [keep_net htaken, hsize, hs.net], by rw [keep_rty hrty, hsize', hs.rty],
        by rw [hsize]; exact hs.two⟩
  | rtyCmd hsm _ hrty _ htaken hpath =>
      have hzero := (hidle (by rw [hsm]; decide)).2
      have hsize : (s.step i).dflit_size = s.dflit_size := by rw [MemoryIngress.step, hpath]; rfl
      have hsize' : (s.step i).dflit_size_rty = cmdDflitSize i.rty_in_tdata := by
        rw [MemoryIngress.step, hpath]
        rfl
      refine ⟨by rw [keep_net htaken, hsize, hs.net], ?_, by rw [hsize]; exact hs.two⟩
      rw [add_rty hrty, left_concat, hs.rty, hzero, hsize']
      rfl
  | netCmd hsm _ hrty _ htaken hpath =>
      have hzero := (hidle (by rw [hsm]; decide)).1
      have hsize : (s.step i).dflit_size = cmdDflitSize i.netflit_in_tdata := by
        rw [MemoryIngress.step, hpath]
        rfl
      have hsize' : (s.step i).dflit_size_rty = s.dflit_size_rty := by
        rw [MemoryIngress.step, hpath]
        rfl
      rw [add_net htaken] at hnet
      refine ⟨?_, by rw [keep_rty hrty, hsize', hs.rty], ?_⟩
      · rw [add_net htaken, left_concat, hs.net, hzero, hsize]
        rfl
      · rw [hsize, head_of_idle hs.net hzero hnet]
        split <;> decide
  | rtyData _ _ hsz hrty _ htaken hpath =>
      have hsize : (s.step i).dflit_size = s.dflit_size := by rw [MemoryIngress.step, hpath]; rfl
      have hsize' : (s.step i).dflit_size_rty = s.dflit_size_rty - 1 := by
        rw [MemoryIngress.step, hpath]
        rfl
      refine ⟨by rw [keep_net htaken, hsize, hs.net], ?_, by rw [hsize]; exact hs.two⟩
      rw [add_rty hrty, left_data hs.rty hsz, hsize']
  | netData _ _ hsz hrty _ htaken hpath =>
      have hsize : (s.step i).dflit_size = s.dflit_size - 1 := by
        rw [MemoryIngress.step, hpath]
        rfl
      have hsize' : (s.step i).dflit_size_rty = s.dflit_size_rty := by
        rw [MemoryIngress.step, hpath]
        rfl
      refine ⟨?_, by rw [keep_rty hrty, hsize', hs.rty], ?_⟩
      · rw [add_net htaken, left_data hs.net hsz, hsize]
      · rw [hsize]
        rcases hsz with h1 | h1 <;> rw [h1] <;> decide

end Sizes

/-! ## Every run -/

/-- The trace after every run. -/
lemma ingressTrace_run (is : List MemoryIngressIn) (hen : lookupIngress.Meets StaysEnabled is)
    (hnet : TwoFlitWrites (ingressHistory is).net) (hrty : TwoFlitWrites (ingressHistory is).rty) :
    Sizes (lookupIngress.run is).ingress (ingressHistory is) ∧
      ∃ txns, IngressTrace (lookupIngress.run is) (ingressHistory is)
        (assigned MemoryIngressIn.actag is) txns := by
  induction is using List.reverseRecOn with
  | nil => exact ⟨⟨rfl, rfl, by decide⟩, _, IngressTrace.init⟩
  | append_singleton is i ih =>
      obtain ⟨hen, hen'⟩ := (lookupIngress.meets_concat _ is i).mp hen
      rw [ingressHistory_concat] at hnet hrty ⊢
      obtain ⟨hs, txns, t⟩ := ih hen hnet.of_append hrty.of_append
      rw [Machine.run_concat, assigned_concat]
      obtain ⟨hcycle, horderly⟩ := MemoryIngress.cycle t.orderly hen' (fun _ => hs.two)
        fun hsm htaken => by
          have hzero := (t.orderly.idle (by rw [hsm]; decide)).2
          rw [IngressHistory.add, MemoryIngress.rtyTaken, htaken, if_pos rfl] at hrty
          rw [Sizes.head_of_idle hs.rty hzero hrty]
          split <;> decide
      exact ⟨hs.step t.orderly hcycle hnet, t.step hcycle horderly⟩

/-- The last command of a tag is the one that no later command has taken the tag of. -/
lemma latest_of_split {pre post : List IngressTxn} {x : IngressTxn} (hfresh : x.fresh = true)
    (hlast : ∀ y ∈ post, y.fresh = true → tagRow y.tag ≠ tagRow x.tag) :
    latest (pre ++ x :: post) (tagRow x.tag) = some x := by
  induction post using List.reverseRecOn with
  | nil => rw [latest_concat, hfresh, decide_eq_true rfl, Bool.and_true, if_pos rfl]
  | append_singleton post y ih =>
      rw [← List.cons_append, ← List.append_assoc, latest_concat, if_neg, ih]
      · exact fun z hz => hlast z (List.mem_append_left _ hz)
      · intro hy
        rw [Bool.and_eq_true, decide_eq_true_eq] at hy
        exact hlast y (List.mem_append_right _ (List.mem_singleton.mpr rfl)) hy.1 hy.2

/-- After whole transactions a stream is at a command. -/
lemma left_words {txns : List IngressTxn} (hwhole : ∀ x ∈ txns, x.Whole) :
    left dataFlits 0 (txns.flatMap IngressTxn.words) = 0 := by
  induction txns with
  | nil => rfl
  | cons x txns ih =>
      have hx : x.data.length = dataFlits x.flit := hwhole x List.mem_cons_self
      have hleft : left dataFlits 0 x.words = 0 := by
        rw [IngressTxn.words, left_cons, next_zero, left_of_length_le hx.le, hx, Nat.sub_self]
      rw [List.flatMap_cons, left_append, hleft]
      exact ih fun y hy => hwhole y (List.mem_cons_of_mem _ hy)

/-- The command of a transaction is a command of its stream. -/
lemma mem_heads_words {pre post : List IngressTxn} {x : IngressTxn} (hwhole : ∀ y ∈ pre, y.Whole) :
    x.flit ∈ heads dataFlits 0 ((pre ++ x :: post).flatMap IngressTxn.words) := by
  rw [List.flatMap_append, heads_append, left_words hwhole, List.flatMap_cons, IngressTxn.words,
    List.cons_append, heads_cons, if_pos rfl]
  exact List.mem_append_right _ (List.mem_append_left _ (List.mem_singleton.mpr rfl))

/-- What stands before a transaction is whole. -/
lemma Current.whole_pre {s : MemoryIngress} {pre post : List IngressTxn} {x : IngressTxn}
    (h : Current s (pre ++ x :: post)) : ∀ y ∈ pre, y.Whole := by
  intro y hy
  refine h.whole_dropLast y ?_
  rw [List.dropLast_append_of_ne_nil (List.cons_ne_nil _ _)]
  exact List.mem_append_left _ hy

/-- What a run of the memory ingress has done, read off its transactions. -/
structure IngressRun (is : List MemoryIngressIn) (first : List (BitVec 200))
    (txns : List IngressTxn) : Prop where
  /-- In front there is one assignment of the acTag, and nothing before it. -/
  start : first = assigned MemoryIngressIn.actag is ∧ (first = [] → txns = [])
  /-- Each stream keeps its order, and every command has the flits behind it. -/
  net : (ingressHistory is).net = (txns.filter (·.fresh)).flatMap IngressTxn.words
  rty : (ingressHistory is).rty = (txns.filter (!·.fresh)).flatMap IngressTxn.words
  size : ∀ x ∈ txns, x.size = if cmdIsWrite x.flit then 2 else 0
  whole : ∀ x ∈ txns.dropLast, x.Whole
  /-- A command of the network has a tag of the tag stream, a retried one has its own. -/
  tags : (ingressHistory is).tags = (txns.filter (·.fresh)).map IngressTxn.tag
  own : ∀ x ∈ txns, x.fresh = false → x.tag = field x.flit 297 16
  /-- What has gone to the TLX, with what is in the output registers. -/
  cmds : (ingressHistory is).cmds ++ (lookupIngress.run is).ingress.held
    = first ++ txns.map IngressTxn.cmd
  data : (ingressHistory is).data ++ (lookupIngress.run is).ingress.heldData
    = txns.flatMap fun x => x.data.map tlxData
  /-- Until a tag is taken again its row has the record and the data of its command. -/
  kept : ∀ pre x post, txns = pre ++ x :: post → x.fresh = true →
    (∀ y ∈ post, y.fresh = true → y.tag ≠ x.tag) →
    (lookupIngress.run is).storeCmd (tagRow x.tag) = x.record ∧
    (∀ a, x.data[0]? = some a → (lookupIngress.run is).store0 (tagRow x.tag) = a) ∧
    (∀ a, x.data[1]? = some a → (lookupIngress.run is).store1 (tagRow x.tag) = a)

/-- **Every command is issued once, with its data.**  The module stays enabled, both streams have
writes of 128 bytes only, and the tags are those of the pool. -/
theorem ingress_issues (is : List MemoryIngressIn) (hen : lookupIngress.Meets StaysEnabled is)
    (hnet : TwoFlitWrites (ingressHistory is).net) (hrty : TwoFlitWrites (ingressHistory is).rty)
    (htags : PoolTags (ingressHistory is).tags) :
    ∃ first txns, IngressRun is first txns := by
  obtain ⟨-, txns, t⟩ := ingressTrace_run is hen hnet hrty
  have hsize : ∀ x ∈ txns, x.size = if cmdIsWrite x.flit then 2 else 0 := by
    intro x hx
    obtain ⟨pre, post, rfl⟩ := List.append_of_mem hx
    have hpre := t.current.whole_pre
    have hdl : cmdIsWrite x.flit = true → cmdDl x.flit = 0b10 := by
      cases hf : x.fresh with
      | true =>
          refine hnet x.flit ?_
          rw [t.net, List.filter_append, List.filter_cons_of_pos hf]
          exact mem_heads_words fun y hy => hpre y (List.mem_filter.mp hy).1
      | false =>
          refine hrty x.flit ?_
          rw [t.rty, List.filter_append, List.filter_cons_of_pos (by rw [hf]; rfl)]
          exact mem_heads_words fun y hy => hpre y (List.mem_filter.mp hy).1
    rw [IngressTxn.size, dataFlits, cmdDflitSize_two hdl]
    split <;> rfl
  refine ⟨_, txns, ⟨⟨rfl, t.txns_nil⟩, t.net, t.rty, hsize, t.current.whole_dropLast, t.tags, t.own,
    t.cmds, t.data, ?_⟩⟩
  rintro pre x post rfl hfresh hlast
  have hpool : ∀ y ∈ pre ++ x :: post, y.fresh = true → 1 ≤ y.tag.toNat ∧ y.tag.toNat ≤ 512 := by
    intro y hy hf
    refine htags y.tag ?_
    rw [t.tags]
    exact List.mem_map_of_mem (List.mem_filter.mpr ⟨hy, hf⟩)
  have hx : x ∈ pre ++ x :: post := List.mem_append_right _ List.mem_cons_self
  have hlatest : latest (pre ++ x :: post) (tagRow x.tag) = some x := by
    refine latest_of_split hfresh fun y hy hf hrow => hlast y hy hf ?_
    exact tagRow_inj (hpool y (List.mem_append_right _ (List.mem_cons_of_mem _ hy)) hf)
      (hpool x hx hfresh) hrow
  have hlen : x.data.length ≤ x.size := t.current.length_le x hx
  have htwo : ∀ {k : ℕ} {a : Flit512}, x.data[k]? = some a → x.size = 2 := by
    intro k a ha
    obtain ⟨hk, -⟩ := List.getElem?_eq_some_iff.mp ha
    have h2 := hsize x hx
    split at h2
    · exact h2
    · omega
  exact ⟨t.kept.cmd _ x hlatest, fun a ha => t.kept.data0 _ x a hlatest (htwo ha) ha,
    fun a ha => t.kept.data1 _ x a hlatest (htwo ha) ha⟩

/-- Two writes of the network with their data, between which a command of the retry path goes out. -/
def ingressDemo : List MemoryIngressIn :=
  let wire (tag : Tag) (net rty : Option Flit512) : MemoryIngressIn :=
    ⟨5, tag, true, net.getD 0, net.isSome, rty.getD 0, rty.isSome, true, true, true⟩
  let write : Flit512 := setField (setBit 0 509) 422 (0b10 : BitVec 2)
  let read : Flit512 := setField (setBit 0 508) 297 (9 : Tag)
  [wire 7 (some write) none, wire 7 (some write) none, wire 8 (some 1) (some read),
    wire 8 (some 2) (some read), wire 8 (some write) (some read), wire 8 (some write) none,
    wire 6 (some 3) none, wire 6 (some 4) none]

/-- The writes go out with tags of the pool and their data, the retried read with its own tag. -/
theorem ingress_issues_demo : ∃ first txns, IngressRun ingressDemo first txns ∧ first = [actagCmd 5]
    ∧ txns.map (fun x => (field x.cmd 191 8, field x.cmd 111 16))
      = [(0x20#8, 7#16), (0x10, 9), (0x20, 8)]
    ∧ (txns.filter (·.fresh)).map IngressTxn.tag = [7, 8]
    ∧ (txns.flatMap fun x => x.data.map tlxData) = [1, 2, 3, 4] := by
  obtain ⟨first, txns, h⟩ := ingress_issues ingressDemo (by decide +kernel) (by decide +kernel)
    (by decide +kernel) (by decide +kernel)
  have hfirst : first = [actagCmd 5] := h.start.1.trans (by decide +kernel)
  refine ⟨first, txns, h, hfirst, ?_, h.tags.symm.trans (by decide +kernel),
    h.data.symm.trans (by decide +kernel)⟩
  have hcmds := congrArg (List.map fun x => (field x 191 8, field x 111 16)) h.cmds
  have hseen : ((ingressHistory ingressDemo).cmds ++ (lookupIngress.run ingressDemo).ingress.held).map
      (fun x => (field x 191 8, field x 111 16))
      = (0x50#8, 0#16) :: [(0x20#8, 7#16), (0x10, 9), (0x20, 8)] := by decide +kernel
  rw [hseen, hfirst, List.singleton_append, List.map_cons, List.map_map] at hcmds
  exact (List.cons.inj hcmds).2.symm

end ThymesisFlow
