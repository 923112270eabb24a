import ThymesisFlow.Port.CrossingDelivers
import ThymesisFlow.Routing.EgressRouted

/-!
# The network between two nodes

The routing egress of one node, the two ports with their link layers, and the memory side routing
ingress of the other, as `thymesisflow_top` connects them.  The transactions come from a stream in
front of the routing egress (`EgressFeed`).  What the routing egress shows at a port is the next flit
of what it was given for it (`Network.offers`), so the crossing behind it delivers the stream.
-/

namespace ThymesisFlow

structure Network where
  feed : EgressFeed
  crossing : Crossing := {}

inductive NetworkMove
  | x (offer : Bool) (idle : Flit512) (i : Port → NodeXIn)
  | y (i : Port → NodeYIn) (reset route_out_tready : Bool)
  | usrX (p : Port) (u : UsrIn)
  | usrY (p : Port) (u : UsrIn)

namespace Network

variable (s : Network)

/-- The backpressure egress of port `p` behind the routing egress. -/
def tickX (i : Port → NodeXIn) (p : Port) : TickIn := (i p).tick (s.feed.egress.ports p).out

/-- The routing egress in front of the two ports. -/
def feedIn (offer : Bool) (idle : Flit512) (i : Port → NodeXIn) : EgressFeedIn where
  offer := offer
  idle := idle
  egr_route_out_tready p := s.crossing.tready (s.tickX i p) p

/-- What a move is to the crossing. -/
def crossingMove : NetworkMove → CrossingMove
  | .x _ _ i => .x (s.tickX i)
  | .y i reset route_out_tready => .y i reset route_out_tready
  | .usrX p u => .usrX p u
  | .usrY p u => .usrY p u

/-- What a move is to the routing egress. -/
def feedMoves : NetworkMove → List EgressFeedIn
  | .x offer idle i => [s.feedIn offer idle i]
  | _ => []

def step (m : NetworkMove) : Network where
  feed := (s.feedMoves m).foldl EgressFeed.step s.feed
  crossing := s.crossing.step (s.crossingMove m)

/-- The beat that the routing ingress hands over in a move. -/
def delivered (m : NetworkMove) : List Flit512 := s.crossing.delivered (s.crossingMove m)

/-- The conditions on the ports, but for what the routing egress offers them. -/
def StepOk (m : NetworkMove) : Prop := s.crossing.StepOk (s.crossingMove m)

instance (m : NetworkMove) : Decidable (s.StepOk m) :=
  inferInstanceAs (Decidable (s.crossing.StepOk _))

end Network

/-- The network from its reset on, with the stream `ts` in front of it. -/
def network (ts : List EgrTxn) : Machine Network NetworkMove where
  init := { feed := (egressFeed ts).init }
  step := Network.step

/-! ## Transactions -/

namespace EgrTxn

/-- A command of the network, and no NOP of the link layer. -/
structure IsCommand (t : EgrTxn) : Prop where
  plain : bit (hiHalf t.hdr) 250 = false
  noNop : isNopCmd (hiHalf t.hdr) = false

/-- A transaction that is carried over: its header up to the credit field, and its own data. -/
structure Carries (t : EgrTxn) (r : MemTxn) : Prop where
  hdr : setField r.hdr 27 0#8 = setField (hiHalf t.hdr) 27 0#8
  data : r.data = t.data.flatMap fun d => [hiHalf d, loHalf d]

lemma IsCommand.isWriteCmd {t : EgrTxn} (h : t.IsCommand) :
    ThymesisFlow.isWriteCmd (hiHalf t.hdr) = egrHasData t.hdr := by
  rw [← hasData_hiHalf, hasData, h.plain, ThymesisFlow.isWriteCmd]
  simp

/-- The transaction in the flits of its port. -/
lemma IsCommand.onPort {t : EgrTxn} (h : t.IsCommand) :
    ∃ u : MemTxn, u.IsCommand ∧ u.hdr :: u.data = t.halves := by
  cases t with
  | short hdr known => exact ⟨.short (hiHalf hdr) (h.isWriteCmd.trans known), ⟨h.plain, h.noNop⟩, rfl⟩
  | long hdr d0 d1 known dl =>
      exact ⟨.write (hiHalf hdr) (hiHalf d0) (loHalf d0) (hiHalf d1) (loHalf d1)
        (h.isWriteCmd.trans known), ⟨h.plain, h.noNop⟩, rfl⟩

/-- A stream of them. -/
lemma exists_onPort (ts : List EgrTxn) (h : ∀ t ∈ ts, t.IsCommand) :
    ∃ us : List MemTxn, (∀ u ∈ us, u.IsCommand) ∧ memStream us = ts.flatMap EgrTxn.halves ∧
      List.Forall₂ (fun t u => t.halves = u.hdr :: u.data) ts us := by
  induction ts with
  | nil => exact ⟨[], by simp, rfl, .nil⟩
  | cons t ts ih =>
      obtain ⟨us, hus, hstream, hall⟩ := ih fun x hx => h x (List.mem_cons_of_mem t hx)
      obtain ⟨u, hu, hhalves⟩ := (h t (List.mem_cons_self ..)).onPort
      refine ⟨u :: us, ?_, ?_, .cons hhalves.symm hall⟩
      · intro v hv
        rcases List.mem_cons.mp hv with rfl | hv
        · exact hu
        · exact hus v hv
      · rw [memStream_cons, hstream, List.flatMap_cons, ← hhalves, List.cons_append]

/-- What carries the flits of a transaction on its port carries the transaction. -/
lemma carries_of_onPort {ts : List EgrTxn} {us rs : List MemTxn}
    (h : List.Forall₂ (fun t u => t.halves = u.hdr :: u.data) ts us)
    (h' : List.Forall₂ MemTxn.Carries us rs) : List.Forall₂ EgrTxn.Carries ts rs := by
  induction h generalizing rs with
  | nil =>
      cases h'
      exact .nil
  | @cons t u ts us htu hus ih =>
      cases h' with
      | cons hur hrs =>
          obtain ⟨hhdr, hdata⟩ := List.cons.inj htu
          refine .cons ⟨?_, ?_⟩ (ih hrs)
          · rw [hur.hdr, hhdr]
          · rw [hur.data, hdata]

end EgrTxn

/-! ## The runs of the parts -/

namespace Network

/-- The runs of the crossing and of the routing egress. -/
def crossingRun (ts : List EgrTxn) (ms : List NetworkMove) : List CrossingMove :=
  (network ts).collect (fun s m => [s.crossingMove m]) ms

def feedRun (ts : List EgrTxn) (ms : List NetworkMove) : List EgressFeedIn :=
  (network ts).collect feedMoves ms

lemma crossing_step (ts : List EgrTxn) (s : Network) (m : NetworkMove) :
    ((network ts).step s m).crossing = crossingMachine.runFrom s.crossing [s.crossingMove m] := rfl

lemma feed_step (ts : List EgrTxn) (s : Network) (m : NetworkMove) :
    ((network ts).step s m).feed = (egressFeed ts).runFrom s.feed (s.feedMoves m) := rfl

lemma feed_run (ts : List EgrTxn) (ms : List NetworkMove) :
    ((network ts).run ms).feed = (egressFeed ts).run (feedRun ts ms) :=
  (network ts).projects (egressFeed ts) (fun s => s.feed) rfl (feed_step ts) ms

/-- What the routing egress hands over at a port is what the port takes. -/
lemma offered_eq (ts : List EgrTxn) (p : Port) (ms : List NetworkMove) :
    crossingMachine.collect (fun s => s.offered p) (crossingRun ts ms)
      = egressOut ts p (feedRun ts ms) := by
  have hcrossing := (network ts).projects_collect crossingMachine (fun s => s.crossing)
    (fun s => s.offered p) rfl (crossing_step ts) ms
  have hfeed := (network ts).projects_collect (egressFeed ts) (fun s => s.feed)
    (EgressFeed.emitted p) rfl (feed_step ts) ms
  rw [crossingRun, egressOut, feedRun, ← hcrossing, ← hfeed]
  congr 1
  funext s m
  cases m with
  | x offer idle i => rfl
  | y i reset tready => rfl
  | usrX q u => rfl
  | usrY q u => rfl

lemma delivered_eq (ts : List EgrTxn) (ms : List NetworkMove) :
    (network ts).collect delivered ms
      = crossingMachine.collect Crossing.delivered (crossingRun ts ms) := by
  rw [crossingRun, ← (network ts).projects_collect crossingMachine (fun s => s.crossing)
    Crossing.delivered rfl (crossing_step ts) ms]
  congr 1
  funext s m
  exact (List.append_nil _).symm

/-- **The routing egress offers each port its stream.** -/
lemma offers (ts : List EgrTxn) (ms : List NetworkMove) {us : Port → List MemTxn}
    (hus : ∀ p, memStream (us p) = portStream p .port0 ts) : Offers us (crossingRun ts ms) := by
  intro p pre t hpre hv
  obtain ⟨js, m, -, rfl, hm⟩ := Machine.exists_of_prefix (network ts) hpre
  have hrun := offered_eq ts p js
  rw [crossingRun] at hrun
  rw [hrun, hus]
  obtain ⟨pend, todo, hinv⟩ := EgressFeed.inv_run ts (feedRun ts js)
  rw [← feed_run] at hinv
  cases m with
  | x offer idle i =>
      obtain rfl := CrossingMove.x.inj hm
      obtain ⟨rest, hpend⟩ := hinv.egress.shows hv
      rw [← hinv.total p, hpend]
      exact ⟨rest ++ todo p, by simp [tickX, NodeXIn.tick]⟩
  | y i reset tready => cases hm
  | usrX q u => cases hm
  | usrY q u => cases hm

end Network

/-! ## The network -/

/-- A command that both ports may carry. -/
def bondedHdr (f : Flit) : Flit512 := setField (f ++ (0 : Flit)) 291 (0b11 : BitVec 2)

namespace NetworkRun

/-- A write with its data, and two reads. -/
def txns : List EgrTxn :=
  [.long (setField (bondedHdr writeCmd) 422 (0b10 : BitVec 2)) 0xa1 0xa2 (by decide +kernel)
      (by decide +kernel),
    .short (bondedHdr readCmd) (by decide +kernel),
    .short (bondedHdr (setBit readCmd 168)) (by decide +kernel)]

lemma isCommand : ∀ t ∈ txns, t.IsCommand := by
  intro t ht
  simp only [txns, List.mem_cons, List.not_mem_nil, or_false] at ht
  rcases ht with rfl | rfl | rfl
  all_goals exact ⟨by decide +kernel, by decide +kernel⟩

/-- The two ports carry them by turns; the first frame of port 0 fails its CRC check and is sent again. -/
def resent : List NetworkMove :=
  List.replicate 14 (.x true 0 fun _ => {})
    ++ (List.range 60).flatMap (fun n => [.usrX .port0 {}, .usrX .port1 {},
      .usrY .port0 { serdes_rx_crc_ok := decide (n ≠ 8) }, .usrY .port1 {}])
    ++ List.replicate 14 (.y (fun _ => {}) true true)

end NetworkRun

end ThymesisFlow
