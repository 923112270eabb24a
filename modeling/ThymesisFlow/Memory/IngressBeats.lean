import ThymesisFlow.Lib.Related
import ThymesisFlow.Memory.IngressRun
import ThymesisFlow.Routing.MemoryRouted

/-!
# From the routing ingress to the memory ingress

The routing ingress hands over the beats of transactions, the memory ingress cuts what it takes into
transactions by the sizes in the commands.  Where every write has two flits the two agree: the
transactions of the memory ingress are the first of those that came in at the ports (`taken_of_beats`).
-/

namespace ThymesisFlow

open Framing

namespace MemTxn

/-- A write is one of two flits. -/
def TwoFlits (r : MemTxn) : Prop := isWriteCmd r.hdr = true → field r.hdr 166 2 = 0b10#2

/-- The transaction that the memory ingress makes of one that came in at a port, whose data may still
be on its way. -/
structure TakenAs (y : Port × MemTxn) (x : IngressTxn) : Prop where
  hdr : hiHalf x.flit = stampPort y.1.id y.2.hdr
  size : x.size = (dataBeats y.2.data).length
  data : ∃ es, es <+: dataBeats y.2.data ∧ List.Forall₂ MemBeat.Matches es x.data

variable {r : MemTxn}

lemma dataBeats_length (r : MemTxn) : (dataBeats r.data).length = if isWriteCmd r.hdr then 2 else 0 := by
  cases r with
  | short f known => simp [data, dataBeats, hdr, known]
  | write f a b c d known => simp [data, dataBeats, hdr, known]

/-- What the memory ingress reads of a command that has come through. -/
lemma TwoFlits.of_flit (h : r.TwoFlits) {p : Port} {f : Flit512}
    (hf : hiHalf f = stampPort p.id r.hdr) :
    (cmdIsWrite f = true → cmdDl f = 0b10) ∧ dataFlits f = (dataBeats r.data).length := by
  have hwrite : cmdIsWrite f = isWriteCmd r.hdr := by
    rw [← isWriteCmd_stampPort p.id, ← hf, isWriteCmd, bit_hiHalf f (by decide)]
    rfl
  have hdl : cmdDl f = field r.hdr 166 2 := by
    have hhalf : field (hiHalf f) 166 2 = cmdDl f := field_field f (by decide)
    rw [← hhalf, hf, field_stampPort_of_disjoint _ _ (by decide)]
  have htwo : cmdIsWrite f = true → cmdDl f = 0b10 := fun hw => hdl.trans (h (hwrite.symm.trans hw))
  refine ⟨htwo, ?_⟩
  rw [dataFlits, cmdDflitSize_two htwo, dataBeats_length, hwrite]
  split <;> rfl

end MemTxn

/-- The beats of a sequence of transactions, the first one apart. -/
lemma memBeats_cons (y : Port × MemTxn) (m : List (Port × MemTxn)) :
    memBeats (y :: m) = .cmd (stampPort y.1.id y.2.hdr) :: (dataBeats y.2.data ++ memBeats m) := rfl

variable {m : List (Port × MemTxn)} {es : List MemBeat} {fs : List Flit512}

/-- Behind the data of the first transaction. -/
lemma drop_beats {y : Port × MemTxn} (hpre : es <+: dataBeats y.2.data ++ memBeats m) :
    es.drop (dataBeats y.2.data).length <+: memBeats m := by
  have hdrop := hpre.drop (dataBeats y.2.data).length
  rwa [List.drop_left] at hdrop

/-- A beat with the command of a transaction that came in at a port. -/
def HeadOf (y : Port × MemTxn) (f : Flit512) : Prop := hiHalf f = stampPort y.1.id y.2.hdr

/-- The commands in what is handed over are those of the first transactions. -/
lemma heads_of_beats (hm : ∀ y ∈ m, y.2.TwoFlits) (hpre : es <+: memBeats m)
    (hmatch : List.Forall₂ MemBeat.Matches es fs) :
    ∃ m', m' <+: m ∧ List.Forall₂ HeadOf m' (heads dataFlits 0 fs) := by
  induction m generalizing es fs with
  | nil =>
      obtain rfl := List.prefix_nil.mp hpre
      cases hmatch
      exact ⟨[], List.nil_prefix, .nil⟩
  | cons y m ih =>
      have hy := hm y List.mem_cons_self
      have hm' := fun z hz => hm z (List.mem_cons_of_mem y hz)
      rw [memBeats_cons] at hpre
      cases hmatch with
      | nil => exact ⟨[], List.nil_prefix, .nil⟩
      | @cons e f es fs he hes =>
          obtain ⟨rfl, hdata⟩ := List.cons_prefix_cons.mp hpre
          have hhead : HeadOf y f := he
          obtain ⟨m', hm'', hheads⟩ := ih hm' (drop_beats hdata) (List.forall₂_drop _ hes)
          refine ⟨y :: m', (List.prefix_cons_inj y).mpr hm'', ?_⟩
          rw [heads_cons, if_pos rfl, next_zero, (hy.of_flit hhead).2, heads_eq_drop]
          exact .cons hhead hheads

/-- What is handed over has writes of two flits. -/
lemma twoFlitWrites_of_beats (hm : ∀ y ∈ m, y.2.TwoFlits) (hpre : es <+: memBeats m)
    (hmatch : List.Forall₂ MemBeat.Matches es fs) : TwoFlitWrites fs := by
  obtain ⟨m', hm', hheads⟩ := heads_of_beats hm hpre hmatch
  intro c hc
  obtain ⟨y, hy, hhead⟩ := exists_of_forall₂ hheads hc
  exact ((hm y (hm'.subset hy)).of_flit hhead).1

/-- **The memory ingress cuts the beats where the transactions end.** -/
lemma taken_of_beats (hm : ∀ y ∈ m, y.2.TwoFlits) (hpre : es <+: memBeats m) {xs : List IngressTxn}
    (hmatch : List.Forall₂ MemBeat.Matches es (xs.flatMap IngressTxn.words))
    (hwhole : ∀ x ∈ xs.dropLast, x.Whole) (hlen : ∀ x ∈ xs, x.data.length ≤ x.size) :
    ∃ m', m' <+: m ∧ List.Forall₂ MemTxn.TakenAs m' xs := by
  induction m generalizing es xs with
  | nil =>
      obtain rfl := List.prefix_nil.mp hpre
      cases xs with
      | nil => exact ⟨[], List.nil_prefix, .nil⟩
      | cons x xs => cases hmatch
  | cons y m ih =>
      have hy := hm y List.mem_cons_self
      have hm' := fun z hz => hm z (List.mem_cons_of_mem y hz)
      cases xs with
      | nil => exact ⟨[], List.nil_prefix, .nil⟩
      | cons x xs =>
          rw [memBeats_cons] at hpre
          rw [List.flatMap_cons, IngressTxn.words, List.cons_append] at hmatch
          cases hmatch with
          | @cons e f es fs he hes =>
              obtain ⟨rfl, hbeats⟩ := List.cons_prefix_cons.mp hpre
              have hsize : x.size = (dataBeats y.2.data).length := (hy.of_flit he).2
              have hx : x.data.length ≤ (dataBeats y.2.data).length := hsize ▸ hlen x List.mem_cons_self
              have hdata := List.forall₂_take x.data.length hes
              rw [List.take_left] at hdata
              have hrest := List.forall₂_drop x.data.length hes
              rw [List.drop_left] at hrest
              -- the data of the first transaction is no more than its beats
              have hown : es.take x.data.length <+: dataBeats y.2.data := by
                refine List.prefix_of_prefix_length_le ((List.take_prefix _ _).trans hbeats)
                  (List.prefix_append _ _) ?_
                exact (List.length_take_le _ _).trans hx
              cases xs with
              | nil =>
                  exact ⟨[y], List.prefix_iff_eq_append.mpr rfl, .cons ⟨he, hsize, _, hown, hdata⟩ .nil⟩
              | cons z zs =>
                  have hfull : x.data.length = (dataBeats y.2.data).length :=
                    (hwhole x (by simp)).trans hsize
                  have hpre' : es.drop x.data.length <+: memBeats m := by
                    rw [hfull]
                    exact drop_beats hbeats
                  obtain ⟨m', hm'', htaken⟩ := ih hm' hpre' hrest
                    (fun w hw => hwhole w (by
                      rw [List.dropLast_cons_cons]
                      exact List.mem_cons_of_mem x hw))
                    fun w hw => hlen w (List.mem_cons_of_mem x hw)
                  exact ⟨y :: m', (List.prefix_cons_inj y).mpr hm'',
                    .cons ⟨he, hsize, _, hown, hdata⟩ htaken⟩

/-- What comes before the last of some transactions comes before the last of all. -/
lemma mem_dropLast_of_filter {p : IngressTxn → Bool} {xs : List IngressTxn} {x : IngressTxn}
    (h : x ∈ (xs.filter p).dropLast) : x ∈ xs.dropLast := by
  induction xs using List.reverseRecOn with
  | nil => cases h
  | append_singleton xs y _ =>
      rw [List.dropLast_concat]
      rw [List.filter_append] at h
      cases hy : p y with
      | true =>
          rw [List.filter_cons_of_pos hy, List.filter_nil, List.dropLast_concat] at h
          exact List.mem_of_mem_filter h
      | false =>
          rw [List.filter_cons_of_neg (by rw [hy]; decide), List.filter_nil, List.append_nil] at h
          exact List.mem_of_mem_filter (List.mem_of_mem_dropLast h)

end ThymesisFlow
