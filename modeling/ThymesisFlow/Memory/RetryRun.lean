import ThymesisFlow.Memory.NodeTags
import ThymesisFlow.Memory.RetryInv

/-!
# Retried commands are the original ones

The invariant of the retry path is kept by every move of the node, so in the log of every run each
transaction of the retry path repeats the last command of the network with its tag, with the same data.
-/

namespace ThymesisFlow

open Script

/-! ## A cycle of the memory ingress -/

namespace LogStep

variable {s : MemNode} {w : NodeWires} {txns txns' : List IngressTxn} {t : Tag} {y : IngressTxn}

/-- A command with all its data stays the last one while its tag is in use. -/
lemma whole_stays (hlog : LogStep s.ingress (s.ingressWires w) txns txns') (hn : NodeInv s)
    (ht : s.InUse t) (hy : latest txns (tagRow t) = some y) (hwhole : y.Whole) :
    latest txns' (tagRow t) = some y := by
  cases hlog with
  | keep => exact hy
  | rtyCmd =>
      rw [latest_old rfl]
      exact hy
  | netCmd hrty htag =>
      rw [latest_fresh rfl, if_neg (hn.row_ne (NodeInv.head_mem htag) ht)]
      exact hy
  | @rtyData pre x hold =>
      rw [latest_old hold] at hy
      exact (latest_more pre x _ _).trans (by rw [hold]; exact hy)
  | @netData pre x hfresh hlen =>
      rw [latest_fresh hfresh] at hy
      rw [latest_more, hfresh]
      by_cases hrow : tagRow x.tag = tagRow t
      · rw [if_pos hrow] at hy
        obtain rfl := Option.some.inj hy
        exact absurd hwhole hlen.ne
      · rw [if_neg hrow] at hy
        rw [decide_eq_false hrow]
        exact hy

/-- A tag in use keeps its command, which may get more data. -/
lemma tag_stays (hlog : LogStep s.ingress (s.ingressWires w) txns txns') (hn : NodeInv s)
    (ht : s.InUse t) (hy : latest txns (tagRow t) = some y) (htag : y.tag = t) :
    ∃ y', latest txns' (tagRow t) = some y' ∧ y'.tag = t := by
  cases hlog with
  | keep => exact ⟨y, hy, htag⟩
  | rtyCmd =>
      rw [latest_old rfl]
      exact ⟨y, hy, htag⟩
  | netCmd hrty htaken =>
      rw [latest_fresh rfl, if_neg (hn.row_ne (NodeInv.head_mem htaken) ht)]
      exact ⟨y, hy, htag⟩
  | @rtyData pre x hold =>
      rw [latest_old hold] at hy
      exact ⟨y, (latest_more pre x _ _).trans (by rw [hold]; exact hy), htag⟩
  | @netData pre x hfresh =>
      rw [latest_fresh hfresh] at hy
      rw [latest_more, hfresh]
      by_cases hrow : tagRow x.tag = tagRow t
      · rw [if_pos hrow] at hy
        obtain rfl := Option.some.inj hy
        exact ⟨_, if_pos (by rw [decide_eq_true hrow]; rfl), htag⟩
      · rw [if_neg hrow] at hy
        exact ⟨y, by rw [decide_eq_false hrow]; exact hy, htag⟩

/-- A tag that is no longer free has been given to a command. -/
lemma tag_given (hlog : LogStep s.ingress (s.ingressWires w) txns txns') (ht : t ∈ s.capptag_fifo)
    (hgone : t ∉ (s.clock w).capptag_fifo) : ∃ y, latest txns' (tagRow t) = some y ∧ y.tag = t := by
  rw [NodeInv.clock_fifo] at hgone
  cases hlog with
  | keep _ htag | rtyCmd _ htag | rtyData _ _ htag | netData _ _ _ htag =>
      rw [htag] at hgone
      exact absurd ht hgone
  | netCmd _ htag =>
      obtain ⟨rest, hfifo⟩ := NodeInv.fifo_of_takesTag htag
      rw [htag, if_pos rfl, hfifo] at hgone
      rw [hfifo] at ht
      obtain rfl := (List.mem_cons.mp ht).resolve_right hgone
      exact ⟨_, (latest_fresh rfl _).trans (if_pos rfl), rfl⟩

end LogStep

namespace RetryInv

variable {s : MemNode} {w : NodeWires} {txns txns' : List IngressTxn} {owed due : List (Option Flit512)}

/-- The commands on the retry path repeat the last commands of the new log. -/
lemma script_clock (h : RetryInv s txns owed due) (hn : NodeInv s)
    (hlog : LogStep s.ingress (s.ingressWires w) txns txns') :
    RtyEng.Scripted (RepeatsLatest txns') (prescribed txns') s.rty owed due := by
  refine h.script.congr (length_prescribed txns) ?_
  rintro f hf ⟨y, hy, hrepeats, hwhole, hlong⟩
  rw [h.awaited] at hf
  have hy' := hlog.whole_stays hn (hn.inUse_of_cmds hf) hy hwhole
  exact ⟨⟨y, hy', hrepeats, hwhole, hlong⟩, prescribed_congr (hy'.trans hy.symm)⟩

/-- What the memory ingress takes from the retry path repeats the original. -/
lemma stream_clock (h : RetryInv s txns owed due) (hn : NodeInv s)
    (hlog : LogStep s.ingress (s.ingressWires w) txns txns') :
    ∃ due', RtyEng.Scripted (RepeatsLatest txns') (prescribed txns') (s.clock w).rty owed due' ∧
      due'.length = (s.clock w).ingress.dflit_size_rty.toNat ∧ Expects txns' due' ∧
      Each Again txns' := by
  have hscript := h.script_clock hn hlog
  have hawaited := h.awaited
  have hagain := h.again
  have hsize : (s.clock w).ingress.dflit_size_rty
      = (s.ingress.step (s.ingressWires w)).dflit_size_rty := rfl
  cases hlog with
  | keep hrty htag hkeep =>
      rw [NodeInv.clock_rty_keep hrty, hsize, hkeep]
      exact ⟨due, hscript, hawaited, h.expects, hagain⟩
  | netCmd hrty htag hkeep =>
      rw [NodeInv.clock_rty_keep hrty, hsize, hkeep]
      refine ⟨due, hscript, hawaited, fun pre x heq hold => ?_, (each_concat _ _).mpr ⟨hagain, ?_⟩⟩
      · obtain ⟨-, hx⟩ := List.append_inj' heq rfl
        obtain rfl := List.singleton_inj.mp hx
        cases hold
      · intro hold
        cases hold
  | @netData pre x hfresh hlen hrty htag hkeep =>
      rw [NodeInv.clock_rty_keep hrty, hsize, hkeep]
      obtain ⟨hpre, -⟩ := (each_concat _ _).mp hagain
      refine ⟨due, hscript, hawaited, fun pre' x' heq hold => ?_, (each_concat _ _).mpr ⟨hpre, ?_⟩⟩
      · obtain ⟨-, hx⟩ := List.append_inj' heq rfl
        obtain rfl := List.singleton_inj.mp hx
        rw [hfresh] at hold
        cases hold
      · intro hold
        rw [hfresh] at hold
        cases hold
  | rtyCmd hrty htag hzero hnext =>
      obtain ⟨rest, hout, hpop⟩ := NodeInv.clock_rty_pop hrty
      obtain rfl : due = [] := List.length_eq_zero_iff.mp (hawaited.trans hzero)
      obtain ⟨⟨y, hy, hrepeats, hwhole, hlong⟩, hrest⟩ := hscript.pop hout
      rw [hpop, hsize]
      generalize (s.ingressWires w).rty_in_tdata = f at *
      have hlen := (length_prescribed (txns ++ [IngressTxn.retry f]) f).trans (toNat_cmdDflitSize f).symm
      have hysize : y.size = rtySize f := hrepeats.size.symm.trans (toNat_cmdDflitSize f)
      have hy' : latest txns (tagRow (rtyTag f)) = some y := by
        rw [latest_old rfl] at hy
        exact hy
      refine ⟨_, hrest, hlen.trans hnext.symm, fun pre x heq hold y' hlatest htwo => ?_,
        (each_concat _ _).mpr ⟨hagain, fun _ => ⟨y, hy', hrepeats, hlong, hwhole, fun _ => ?_⟩⟩⟩
      · obtain ⟨rfl, hx⟩ := List.append_inj' heq rfl
        obtain rfl := List.singleton_inj.mp hx
        obtain rfl : y = y' := Option.some.inj (hy'.symm.trans hlatest)
        exact prescribed_of_two hy (hysize.symm.trans htwo) (hwhole.trans htwo)
      · exact List.nil_prefix
  | @rtyData pre x hold hrty htag hnext =>
      obtain ⟨rest, hout, hpop⟩ := NodeInv.clock_rty_pop hrty
      obtain ⟨o, due, rfl⟩ : ∃ o rest, due = o :: rest := by
        cases due with
        | nil => exact absurd (hawaited.trans hnext.symm) (Nat.succ_ne_zero _).symm
        | cons o rest => exact ⟨o, rest, rfl⟩
      obtain ⟨hfits, hrest⟩ := hscript.pop hout
      rw [hpop, hsize]
      generalize (s.ingressWires w).rty_in_tdata = f at *
      obtain ⟨hpre, hx⟩ := (each_concat _ _).mp hagain
      obtain ⟨y, hy, hrepeats, hlong, hwhole, hprefix⟩ := hx hold
      -- the flit that was expected is the next one of the original
      have hdata : y.size = 2 → ∃ tail, y.data = x.data ++ f :: tail ∧ due = tail.map some := by
        intro htwo
        obtain ⟨tail, htail⟩ := hprefix htwo
        have hdue := h.expects pre x rfl hold y hy htwo
        rw [← htail, List.drop_left] at hdue
        cases tail with
        | nil => cases hdue
        | cons a tail =>
            obtain ⟨ho, hrest'⟩ := List.cons.inj hdue
            obtain rfl : f = a := hfits a ho
            exact ⟨tail, htail.symm, hrest'⟩
      refine ⟨due, hrest, Nat.succ.inj (hawaited.trans hnext.symm), fun pre' x' heq _ y' hlatest htwo => ?_,
        (each_concat _ _).mpr ⟨hpre, fun _ => ⟨y, hy, hrepeats, hlong, hwhole, fun htwo => ?_⟩⟩⟩
      · obtain ⟨rfl, hx'⟩ := List.append_inj' heq rfl
        obtain rfl := List.singleton_inj.mp hx'
        obtain rfl : y = y' := Option.some.inj (hy.symm.trans hlatest)
        obtain ⟨tail, htail, hdue⟩ := hdata htwo
        have hsplit : y.data = (x.data ++ [f]) ++ tail := by
          rw [htail, List.append_assoc, List.singleton_append]
        rw [hdue, hsplit, List.drop_left]
      · obtain ⟨tail, htail, -⟩ := hdata htwo
        exact ⟨tail, by rw [htail, List.append_assoc, List.singleton_append]⟩

/-- **A cycle of the memory ingress.** -/
theorem clock (h : RetryInv s txns owed due) (hn : NodeInv s) {hist : IngressHistory}
    {first : List (BitVec 200)} (ht : IngressTrace s.lookup hist first txns)
    (hcycle : s.ingress.Cycle (s.ingressWires w)) :
    ∃ due', RetryInv (s.clock w) (s.ingress.logged (s.ingressWires w) txns) owed due' := by
  have hlog : LogStep s.ingress (s.ingressWires w) txns (s.ingress.logged (s.ingressWires w) txns) :=
    ht.logStep hcycle
  obtain ⟨hport0, hport1⟩ := ht.ports hcycle
  change PortOf (s.clock w).ingress (s.ingress.logged (s.ingressWires w) txns) _ at hport0 hport1
  generalize s.ingress.logged (s.ingressWires w) txns = txns' at *
  have hseeded : (s.clock w).ledger.seeded = s.ledger.seeded := rfl
  have hstays : ∀ t, s.InUse t → (s.clock w).InUse t := by
    rintro t ⟨hmem, hno⟩
    refine ⟨hmem, fun hx => hno ?_⟩
    rw [NodeInv.clock_fifo] at hx
    split at hx
    · exact List.mem_of_mem_tail hx
    · exact hx
  have hreplayable : ∀ t y, s.InUse t → Replayable s.data0lookup s.data1lookup txns t y →
      Replayable (s.clock w).data0lookup (s.clock w).data1lookup txns' t y := by
    intro t y huse hy
    exact ⟨hlog.whole_stays hn huse hy.latest hy.whole, hy.tag, hy.whole, hy.long,
      fun a hsize ha => ht.kept.data0 _ y a hy.latest hsize ha,
      fun a hsize ha => ht.kept.data1 _ y a hy.latest hsize ha⟩
  obtain ⟨due', hscript, hawaited, hexpects, hagain⟩ := h.stream_clock hn hlog
  refine ⟨due', hscript, h.owing, hawaited, fun hr => ?_, fun r hr hbit => ?_, fun t huse => ?_, hexpects,
    hagain, hport0, hport1⟩
  · obtain ⟨huse, y, hy, hdata⟩ := h.replay hr
    exact ⟨hstays _ huse, y, hreplayable _ y huse hy, hdata⟩
  · obtain ⟨y, hy⟩ := h.flight r hr hbit
    exact ⟨y, hreplayable _ y (hn.inUse_of_owned (hn.ledger.flight_owned hr)) hy⟩
  · by_cases hfree : t ∈ s.capptag_fifo
    · exact hlog.tag_given hfree huse.2
    · obtain ⟨y, hy, htag⟩ := h.inUse t ⟨huse.1, hfree⟩
      exact hlog.tag_stays hn ⟨huse.1, hfree⟩ hy htag

end RetryInv

/-! ## Every run -/

/-- What the node is promised: the host asks again only for commands whose data it has been given. -/
def RetryOk (s : MemNode × List IngressTxn) (m : NodeMove) : Prop :=
  NodeOk P9Parts s.1 m ∧ match m with
    | .answer r _ _ => r.Retries → Handed s.1 s.2 (TlResp.capptag r)
    | _ => True

/-- The host asks for no write of 64 bytes again. -/
def NoShortRetry (s : MemNode × List IngressTxn) : NodeMove → Prop
  | .answer r _ _ => r.Retries → NotShort s.2 (TlResp.capptag r)
  | _ => True

instance decidableRetryOk (s : MemNode × List IngressTxn) : ∀ m, Decidable (RetryOk s m)
  | .answer r data more => inferInstanceAs (Decidable (NodeOk P9Parts s.1 (.answer r data more) ∧ (_ → _)))
  | .clock w => inferInstanceAs (Decidable (NodeOk P9Parts s.1 (.clock w) ∧ True))
  | .load | .resp _ | .rty | .deliver => inferInstanceAs (Decidable (True ∧ True))

instance decidableNoShortRetry (s : MemNode × List IngressTxn) : ∀ m, Decidable (NoShortRetry s m)
  | .answer _ _ _ => inferInstanceAs (Decidable (_ → _))
  | .clock _ | .load | .resp _ | .rty | .deliver => inferInstanceAs (Decidable True)

/-- A transaction of the retry path has the tag of a command of the network, the last one with that tag,
and with 64 or 128 bytes it is that command again, followed by the same data. -/
def RetriedAs (before : List IngressTxn) (x : IngressTxn) : Prop :=
  x.fresh = false → ∃ y, latest before (tagRow x.tag) = some y ∧ y.tag = x.tag ∧
    (cmdDl y.flit = 0b01 ∨ cmdDl y.flit = 0b10 →
      x.Repeats y ∧ x.data <+: y.data ∧ (x.Whole → x.data = y.data))

/-- What the node hands to the TLX is its log, in which every retried command is the original one. -/
def RetriesOriginal (ms : List NodeMove) : Prop :=
  (∃ first, IngressTrace (memNode.run ms).lookup (nodeHistory ms) first (loggedNode.run ms).2) ∧
    Each RetriedAs (loggedNode.run ms).2

/-- A transaction that repeats a command with 64 or 128 bytes has its data. -/
lemma Again.retriedAs {before : List IngressTxn} {x : IngressTxn} (h : Again before x)
    (hlen : x.data.length ≤ x.size) : RetriedAs before x := by
  intro hold
  obtain ⟨y, hy, hrepeats, hlong, hwhole, hprefix⟩ := h hold
  refine ⟨y, hy, hrepeats.1.symm, fun hdl => ⟨hrepeats, ?_⟩⟩
  have hsize : x.size = y.size := hrepeats.size
  have hsize' : y.size = rtySize y.flit := toNat_cmdDflitSize y.flit
  cases hwrite : cmdIsWrite y.flit with
  | false =>
      rw [rtySize, hwrite, if_neg Bool.false_ne_true] at hsize'
      rw [hsize, hsize', Nat.le_zero, List.length_eq_zero_iff] at hlen
      rw [IngressTxn.Whole, hsize', List.length_eq_zero_iff] at hwhole
      rw [hlen, hwhole]
      exact ⟨List.prefix_rfl, fun _ => rfl⟩
  | true =>
      obtain hdl | hdl := hdl
      · exact absurd ⟨hwrite, hdl⟩ hlong
      · rw [rtySize, hwrite, if_pos rfl, hdl] at hsize'
        have hpre := hprefix hsize'
        exact ⟨hpre, fun hx => hpre.eq_of_length (hx.trans (hsize.trans hwhole.symm))⟩

/-- The moves of a run keep the invariant. -/
lemma RetryInv.run (ms : List NodeMove)
    (hok : loggedNode.Meets (fun s m => RetryOk s m ∧ NoShortRetry s m) ms) :
    ∃ owed due, RetryInv (memNode.run ms) (loggedNode.run ms).2 owed due := by
  induction ms using List.reverseRecOn with
  | nil => exact ⟨[], [], RetryInv.init⟩
  | append_singleton ms m ih =>
      obtain ⟨hpre, ⟨hnode, hhanded⟩, hlong⟩ := (loggedNode.meets_concat _ ms m).mp hok
      obtain ⟨owed, due, h⟩ := ih hpre
      have hmeets : memNode.Meets (NodeOk P9Parts) ms :=
        (loggedNode_meets ms).mp (loggedNode.meets_mono (fun _ _ hx => hx.1.1) hpre)
      have hn := NodeInv.run ms hmeets
      have ht := node_trace ms hmeets
      rw [loggedNode_run] at hnode
      rw [Machine.run_concat, loggedNode_log]
      cases m with
      | clock w =>
          obtain ⟨hcycle, -⟩ := hn.cycle hnode.1 fun hv => (hnode.2 hv).2
          obtain ⟨due', h'⟩ := h.clock hn ht hcycle
          exact ⟨owed, due', h'⟩
      | load => exact ⟨owed, due, h.load⟩
      | resp enable =>
          obtain ⟨owed', h'⟩ := h.resp hn ht enable
          exact ⟨owed', due, h'⟩
      | rty => exact ⟨owed, due, h.rty hn⟩
      | answer r data more =>
          obtain ⟨e, he, hr⟩ := hnode
          change r.Retries → Handed (loggedNode.run ms).1 (loggedNode.run ms).2 _ at hhanded
          rw [loggedNode_run] at hhanded
          exact ⟨owed, due, h.answer hn ht he hr hhanded hlong⟩
      | deliver =>
          refine ⟨owed, due, ?_⟩
          change RetryInv ((memNode.run ms).step .deliver) _ _ _
          cases hdue : (memNode.run ms).due with
          | nil =>
              rw [MemNode.step_deliver_of_nil hdue]
              exact h
          | cons d rest =>
              rw [MemNode.step_deliver_of_cons hdue]
              exact ⟨h.script, h.owing, h.awaited, h.replay, h.flight, h.inUse, h.expects, h.again,
                h.port0, h.port1⟩

/-- **A retried command is the original one**, as long as no write of 64 bytes is retried. -/
theorem retries_original (ms : List NodeMove)
    (hok : loggedNode.Meets (fun s m => RetryOk s m ∧ NoShortRetry s m) ms) : RetriesOriginal ms := by
  obtain ⟨owed, due, h⟩ := RetryInv.run ms hok
  have ht := node_trace ms
    ((loggedNode_meets ms).mp (loggedNode.meets_mono (fun _ _ hx => hx.1.1) hok))
  refine ⟨⟨_, ht⟩, fun before x since heq => (h.again before x since heq).retriedAs ?_⟩
  refine ht.current.length_le x ?_
  rw [heq]
  exact List.mem_append_right _ List.mem_cons_self

/-! ## Runs behind the initialisation -/

/-- The initialisation takes no command. -/
lemma loggedNode_seeded {n : ℕ} (hn : n ≤ 512) :
    loggedNode.run (List.replicate n (.resp true)) = (seededNode n, []) := by
  refine Prod.ext ((loggedNode_run _).trans (run_seeded hn)) ?_
  induction n with
  | zero => rfl
  | succ n ih =>
      rw [List.replicate_succ', loggedNode_log]
      exact ih (by omega)

lemma loggedNode_meets_seeded {ok : MemNode × List IngressTxn → NodeMove → Prop} (ms : List NodeMove)
    (hresp : ∀ s, ok s (.resp true)) (h : loggedNode.MeetsFrom ok (seededNode 512, []) ms) :
    loggedNode.Meets ok (List.replicate 512 (.resp true) ++ ms) := by
  refine loggedNode.meets_behind (fun s m hm => ?_) (loggedNode_seeded (le_refl 512)) h
  rw [List.eq_of_mem_replicate hm]
  exact hresp s

/-- A write with data length `dl` that the host answers with PEND and, once the translation is done, with
XLATE_DONE. -/
def faultedWrite (dl : BitVec 2) (data : List Flit512) : List NodeMove :=
  let cmd : Flit512 := setField (setField 0 504 (0x20 : BitVec 8)) 422 dl
  let pend : TlResp := TL_WR_RESPFAIL ++ (1 : Tag) ++ TLRESP_CODE_PEND ++ 0#10
  let done : TlResp := TL_XLATE_DONE ++ (1 : Tag) ++ 0#14
  [.clock {}, .clock { netflit_in_tdata := cmd, netflit_in_tvalid := true }]
    ++ data.map (fun d => .clock { netflit_in_tdata := d, netflit_in_tvalid := true })
    ++ [.clock {}, .clock {}, .answer pend [] false, .load, .resp true, .answer done [] false, .load,
      .resp true, .resp true, .resp true, .rty, .rty, .rty, .clock {}, .clock {}, .clock {}]

theorem retries_original_longWrite :
    RetriesOriginal (List.replicate 512 (.resp true) ++ faultedWrite 0b10 [7, 8]) :=
  retries_original _ (loggedNode_meets_seeded _ (fun _ => ⟨⟨trivial, trivial⟩, trivial⟩)
    (by decide +kernel))

/-- A write of 64 bytes with the data 7 comes back with the data 0. -/
lemma log_shortWrite : ∃ y x,
    (loggedNode.run (List.replicate 512 (.resp true) ++ faultedWrite 0b01 [7])).2 = [y, x] ∧
      x.fresh = false ∧ latest [y] (tagRow x.tag) = some y ∧ cmdDl y.flit = 0b01 ∧ ¬ x.data <+: y.data := by
  refine ⟨⟨true, setField (setField 0 504 (0x20 : BitVec 8)) 422 (0b01 : BitVec 2), 1, 0, [7]⟩,
    ⟨false, setField (setField (setField 0 504 (0x20 : BitVec 8)) 422 (0b01 : BitVec 2)) 297 (1 : Tag),
      1, 0, [0]⟩, ?_, rfl, by decide +kernel, by decide +kernel, by decide +kernel⟩
  rw [Machine.run_append, loggedNode_seeded (le_refl 512)]
  decide +kernel

/-- The data flit of a write of 64 bytes is stored in the second data BRAM, and the first one is
replayed. -/
theorem short_write_replayed : ¬ ∀ ms, loggedNode.Meets RetryOk ms → RetriesOriginal ms := by
  intro h
  obtain ⟨-, heach⟩ := h _ (loggedNode_meets_seeded (faultedWrite 0b01 [7])
    (fun _ => ⟨trivial, trivial⟩) (by decide +kernel))
  obtain ⟨y, x, hlog, hold, hlatest, hdl, hdata⟩ := log_shortWrite
  obtain ⟨y', hy', -, hsame⟩ := heach [y] x [] hlog hold
  obtain rfl : y = y' := Option.some.inj (hlatest.symm.trans hy')
  exact hdata (hsame (.inl hdl)).2.1

end ThymesisFlow
