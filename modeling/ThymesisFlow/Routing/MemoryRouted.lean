import ThymesisFlow.Lib.Interleave
import ThymesisFlow.Lib.Machine
import ThymesisFlow.Routing.Egress
import ThymesisFlow.Routing.MemoryIngress

/-!
# The commands that the memory side hands over

Two streams of commands with their data go in, one sequence of 64 byte beats comes out.  `PortOk`
says where the transactions of a port are; `PortOk.step` lists what a cycle of a port can do.
`MemInv` puts the two ports, the arbiter and the ping-pong buffer together.
-/

namespace ThymesisFlow

/-! ## Transactions and beats -/

/-- A complete transaction of the network: a command, with four data flits if it is a write. -/
inductive MemTxn
  | short (hdr : Flit) (known : isWriteCmd hdr = false)
  | write (hdr a b c d : Flit) (known : isWriteCmd hdr = true)

namespace MemTxn

def hdr : MemTxn → Flit
  | short hdr _ => hdr
  | write hdr .. => hdr

/-- The data flits. -/
def data : MemTxn → List Flit
  | short .. => []
  | write _ a b c d _ => [a, b, c, d]

/-- The data of a write are four flits. -/
lemma data_length (t : MemTxn) : t.data.length = if isWriteCmd t.hdr then 4 else 0 := by
  cases t with
  | short hdr known => simp [data, MemTxn.hdr, known]
  | write hdr a b c d known => simp [data, MemTxn.hdr, known]

end MemTxn

/-- A stream of transactions. -/
def memStream (ts : List MemTxn) : List Flit := ts.flatMap fun t => t.hdr :: t.data

/-- The stream as port `PORT` registers it. -/
def stampedStream (PORT : BitVec 2) (ts : List MemTxn) : List Flit :=
  ts.flatMap fun t => stampPort PORT t.hdr :: t.data

/-- A 64 byte beat: the upper half is a command, or all of it is data. -/
inductive MemBeat
  | cmd (half : Flit)
  | data (flit : Flit512)

/-- What the beat says of what is handed over. -/
def MemBeat.Matches : MemBeat → Flit512 → Prop
  | .cmd half, b => hiHalf b = half
  | .data flit, b => b = flit

/-- The beats of the data that are left of a transaction. -/
def dataBeats : List Flit → List MemBeat
  | a :: b :: rest => .data (a ++ b) :: dataBeats rest
  | _ => []

/-- The beats of a transaction that came in at port `p`. -/
def MemTxn.beats (p : Port) (t : MemTxn) : List MemBeat :=
  .cmd (stampPort p.id t.hdr) :: dataBeats t.data

/-- A sequence of transactions as it is handed over. -/
def memBeats (m : List (Port × MemTxn)) : List MemBeat := m.flatMap fun x => x.2.beats x.1

lemma memBeats_snoc (m : List (Port × MemTxn)) (p : Port) (t : MemTxn) :
    memBeats (m ++ [(p, t)]) = memBeats m ++ t.beats p := by
  simp [memBeats]

/-- The arrival port does not touch the write bit. -/
lemma isWriteCmd_stampPort (PORT : BitVec 2) (f : Flit) :
    isWriteCmd (stampPort PORT f) = isWriteCmd f :=
  bit_stampPort PORT f (.inr (by decide))

/-- A register that is not forwarded stays full. -/
lemma Stage.next_vld {α : Type} {r : Stage α} (h : r.vld = true) (load : Bool) (x : α) :
    (r.next load false x).vld = true := by
  cases load
  · exact h
  · rfl

/-! ## The registers of a port as a queue -/

/-- The register that the output state machine reads next. -/
def PortSm.slot : PortSm → PortinSm
  | .CMD => .PORT_CMD
  | .DFLIT0 => .PORT_DATA0_H
  | .DFLIT1 => .PORT_DATA1_H

/-- The data flits that are still to be forwarded. -/
def PortSm.left : PortSm → ℕ
  | .CMD => 0
  | .DFLIT0 => 4
  | .DFLIT1 => 2

/-- The data flits that are still to be accepted. -/
def PortinSm.left : PortinSm → ℕ
  | .PORT_CMD => 0
  | .PORT_DATA0_H => 4
  | .PORT_DATA0_L => 3
  | .PORT_DATA1_H => 2
  | .PORT_DATA1_L => 1

namespace MemPort

variable (p : MemPort)

/-- The registers with a valid content. -/
def view (r : PortinSm) : Option Flit := if (p.regs r).vld then some (p.regs r).q else none

/-- The registers hold the flits `ys`, from the one that is forwarded next to the one that is
loaded next. -/
structure Queue (PORT : BitVec 2) (ys : List Flit) : Prop where
  holds : SlotQueue.Holds PortinSm.next p.view p.port_sm.slot ys
  tail : SlotQueue.after PortinSm.next p.port_sm.slot ys = p.portin_sm
  data : p.outportid_data = if p.port_sm = .CMD then 0 else PORT

/-- What a port forwards in a cycle, and its output state machine afterwards
(`Moves p fwd zs sm`). -/
inductive Moves (p : MemPort) (fwd : PortinSm → Bool) : List Flit → PortSm → Prop
  | nothing (h : ∀ r, fwd r = false) : Moves p fwd [] p.port_sm
  | cmd (hsm : p.port_sm = .CMD) (h : fwd .PORT_CMD = true) :
      Moves p fwd [(p.regs .PORT_CMD).q] (if isWriteCmd (p.regs .PORT_CMD).q then .DFLIT0 else .CMD)
  | data0 (hsm : p.port_sm = .DFLIT0) (h : fwd .PORT_DATA0_L = true) :
      Moves p fwd [(p.regs .PORT_DATA0_H).q, (p.regs .PORT_DATA0_L).q] .DFLIT1
  | data1 (hsm : p.port_sm = .DFLIT1) (h : fwd .PORT_DATA1_L = true) :
      Moves p fwd [(p.regs .PORT_DATA1_H).q, (p.regs .PORT_DATA1_L).q] .CMD

/-- The registers after the forwards of a cycle. -/
def forwardedView (fwd : PortinSm → Bool) (r : PortinSm) : Option Flit :=
  if fwd r then none else p.view r

variable {p} {PORT : BitVec 2} {ys : List Flit}

lemma view_eq_some {r : PortinSm} {x : Flit} (h : p.view r = some x) :
    (p.regs r).vld = true ∧ (p.regs r).q = x := by
  rw [view] at h
  split_ifs at h with hv
  exact ⟨hv, Option.some.inj h⟩

lemma view_isSome {r : PortinSm} (h : (p.regs r).vld = true) : p.view r = some (p.regs r).q := by
  rw [view, if_pos h]

/-- In the state `CMD` only the command can be forwarded. -/
lemma fwd_of_cmd (hsm : p.port_sm = .CMD) (sel other : BitVec 2) (ready : Bool) {r : PortinSm}
    (hr : r ≠ .PORT_CMD) : p.fwd PORT sel other ready r = false := by
  cases r with
  | PORT_CMD => exact absurd rfl hr
  | PORT_DATA0_H | PORT_DATA0_L => simp [fwd, fwdData0, hsm]
  | PORT_DATA1_H | PORT_DATA1_L => simp [fwd, fwdData1, hsm]

lemma forwardedView_of_quiet {fwd : PortinSm → Bool} (h : ∀ r, fwd r = false) :
    p.forwardedView fwd = p.view := by
  funext r
  rw [forwardedView, h r, if_neg Bool.false_ne_true]

/-- The state of a port after the forwards of a cycle, before anything is loaded: `sm` is the
output state machine, `ys'` are the flits that are left. -/
structure Forwarded (p : MemPort) (PORT : BitVec 2) (fwd : PortinSm → Bool) (nxt : PortSm × BitVec 2)
    (sm : PortSm) (ys' : List Flit) : Prop where
  holds : SlotQueue.Holds PortinSm.next (p.forwardedView fwd) sm.slot ys'
  tail : SlotQueue.after PortinSm.next sm.slot ys' = p.portin_sm
  port : nxt = (sm, if sm = .CMD then 0 else PORT)

/-- A port that forwards nothing. -/
lemma Queue.forward_quiet (h : p.Queue PORT ys) {fwd : PortinSm → Bool} (hfwd : ∀ r, fwd r = false)
    {nxt : PortSm × BitVec 2} (hnxt : nxt = (p.port_sm, p.outportid_data)) :
    Forwarded p PORT fwd nxt p.port_sm ys := by
  refine ⟨?_, h.tail, hnxt.trans (by rw [h.data])⟩
  rw [forwardedView_of_quiet hfwd]
  exact h.holds

lemma Queue.forward_cmd (h : p.Queue PORT ys) (hsm : p.port_sm = .CMD) (sel other : BitVec 2)
    (ready : Bool) :
    ∃ zs sm ys', Moves p (p.fwd PORT sel other ready) zs sm ∧ ys = zs ++ ys' ∧
      Forwarded p PORT (p.fwd PORT sel other ready)
        (p.nextPort PORT ready (p.fwd PORT sel other ready .PORT_CMD)) sm ys' := by
  have hholds := h.holds
  have htail := h.tail
  have hdata := h.data
  rw [hsm] at hholds htail hdata
  cases hf : p.fwd PORT sel other ready .PORT_CMD with
  | false =>
      have hq : ∀ r, p.fwd PORT sel other ready r = false := fun r => by
        by_cases hr : r = .PORT_CMD
        · rw [hr, hf]
        · exact fwd_of_cmd hsm sel other ready hr
      refine ⟨[], _, ys, .nothing hq, rfl, h.forward_quiet hq ?_⟩
      simp [nextPort, hsm]
  | true =>
      have hvld : (p.regs .PORT_CMD).vld = true := by
        simp only [fwd, fwdCmd, Bool.and_eq_true] at hf
        exact hf.1.1.1.1
      have hhead := hholds.head_eq.symm.trans (view_isSome hvld)
      have hview : p.forwardedView (p.fwd PORT sel other ready)
          = Function.update p.view .PORT_CMD none := by
        funext r
        by_cases hr : r = .PORT_CMD
        · rw [hr, forwardedView, hf, if_pos rfl, Function.update_self]
        · rw [forwardedView, fwd_of_cmd hsm sel other ready hr, if_neg Bool.false_ne_true,
            Function.update_of_ne hr]
      cases ys with
      | nil => cases hhead
      | cons x ys' =>
          obtain rfl : x = (p.regs .PORT_CMD).q := Option.some.inj hhead
          refine ⟨[_], _, ys', .cmd hsm hf, rfl, ?_⟩
          have hnext := hholds.2
          rw [SlotQueue.after_cons] at htail
          have hnxt : p.nextPort PORT ready true = if isWriteCmd (p.regs .PORT_CMD).q
            then (.DFLIT0, PORT) else (.CMD, 0) := by
            simp [nextPort, hsm, hdata]
          cases hw : isWriteCmd (p.regs .PORT_CMD).q with
          | true =>
              rw [PortSm.slot, PortinSm.next, hw, if_pos rfl] at hnext htail
              rw [hw, if_pos rfl] at hnxt
              exact ⟨by rw [hview]; exact hnext, htail, hnxt⟩
          | false =>
              rw [PortSm.slot, PortinSm.next, hw, if_neg Bool.false_ne_true] at hnext htail
              rw [hw, if_neg Bool.false_ne_true] at hnxt
              exact ⟨by rw [hview]; exact hnext, htail, hnxt⟩

/-- The two data flits in the registers `h'` and `l` are forwarded together, or nothing is. -/
lemma Queue.forward_data (h : p.Queue PORT ys) (fwd : PortinSm → Bool) (h' l : PortinSm)
    (sm' : PortSm) (nxt : PortSm × BitVec 2) (hslot : p.port_sm.slot = h')
    (hl : ∀ x, h'.next x = l) (hne : l ≠ h') (hsm' : ∀ x, l.next x = sm'.slot)
    (hfwd : ∀ r, fwd r = true ↔ (r = h' ∨ r = l) ∧ fwd l = true)
    (hvld : fwd l = true → (p.regs l).vld = true)
    (hnxt : nxt = if fwd l = true ∧ (p.regs h').vld = true
      then (sm', if sm' = .CMD then 0 else PORT) else (p.port_sm, p.outportid_data)) :
    (∀ r, fwd r = false) ∧ Forwarded p PORT fwd nxt p.port_sm ys ∨
      fwd l = true ∧ ∃ ys', ys = (p.regs h').q :: (p.regs l).q :: ys' ∧
        Forwarded p PORT fwd nxt sm' ys' := by
  have hholds := h.holds
  have htail := h.tail
  rw [hslot] at hholds htail
  cases hf : fwd l with
  | false =>
      have hq : ∀ r, fwd r = false := fun r =>
        eq_false_of_ne_true fun hr => by
          rw [((hfwd r).mp hr).2] at hf
          cases hf
      rw [hf, if_neg fun hc => Bool.false_ne_true hc.1] at hnxt
      exact .inl ⟨hq, h.forward_quiet hq hnxt⟩
  | true =>
      obtain ⟨x, ys', rfl, hx, hrest⟩ := hholds.pop_two hl hne (view_isSome (hvld hf))
      obtain ⟨hv, rfl⟩ := view_eq_some hx
      rw [if_pos ⟨hf, hv⟩] at hnxt
      refine .inr ⟨rfl, ys', rfl, ?_⟩
      rw [SlotQueue.after_cons, SlotQueue.after_cons, hl, hsm'] at htail
      rw [hsm'] at hrest
      refine ⟨?_, htail, hnxt⟩
      have hview : p.forwardedView fwd
          = Function.update (Function.update p.view h' none) l none := by
        funext r
        by_cases hrl : r = l
        · rw [hrl, forwardedView, hf, if_pos rfl, Function.update_self]
        · rw [Function.update_of_ne hrl]
          by_cases hrh : r = h'
          · rw [hrh, forwardedView, if_pos ((hfwd h').mpr ⟨.inl rfl, hf⟩), Function.update_self]
          · rw [Function.update_of_ne hrh, forwardedView, if_neg fun hr => ?_]
            exact ((hfwd r).mp hr).1.elim hrh hrl
      rw [hview]
      exact hrest

/-- **What a port forwards.** -/
theorem Queue.forward (h : p.Queue PORT ys) (sel other : BitVec 2) (ready : Bool) :
    ∃ zs sm ys', Moves p (p.fwd PORT sel other ready) zs sm ∧ ys = zs ++ ys' ∧
      Forwarded p PORT (p.fwd PORT sel other ready)
        (p.nextPort PORT ready (p.fwd PORT sel other ready .PORT_CMD)) sm ys' := by
  have hdata := h.data
  cases hsm : p.port_sm with
  | CMD => exact h.forward_cmd hsm sel other ready
  | DFLIT0 =>
      rw [hsm] at hdata
      have hpair : ∀ r, p.fwd PORT sel other ready r = true ↔
          (r = .PORT_DATA0_H ∨ r = .PORT_DATA0_L) ∧ p.fwd PORT sel other ready .PORT_DATA0_L = true := by
        intro r
        cases r <;> simp [fwd, fwdCmd, fwdData1, hsm]
      have hvld : p.fwd PORT sel other ready .PORT_DATA0_L = true →
          (p.regs .PORT_DATA0_L).vld = true := by
        intro hl
        simp only [fwd, fwdData0, Bool.and_eq_true] at hl
        exact hl.1.1.1
      have hnxt : p.nextPort PORT ready (p.fwd PORT sel other ready .PORT_CMD)
          = if p.fwd PORT sel other ready .PORT_DATA0_L = true ∧ (p.regs .PORT_DATA0_H).vld = true
            then (.DFLIT1, if .DFLIT1 = PortSm.CMD then 0 else PORT)
            else (p.port_sm, p.outportid_data) := by
        simp only [nextPort, hsm]
        exact if_congr (by simp [fwd, fwdData0, hsm, hdata]; tauto) (by simp [hdata]) rfl
      rcases h.forward_data (p.fwd PORT sel other ready) .PORT_DATA0_H .PORT_DATA0_L .DFLIT1
        (p.nextPort PORT ready (p.fwd PORT sel other ready .PORT_CMD))
        (by rw [hsm]; rfl) (fun _ => rfl) (by decide) (fun _ => rfl) hpair hvld hnxt with
        ⟨hq, hf⟩ | ⟨hl, ys', rfl, hf⟩
      · exact ⟨[], _, ys, .nothing hq, rfl, hf⟩
      · exact ⟨_, _, ys', .data0 hsm hl, rfl, hf⟩
  | DFLIT1 =>
      rw [hsm] at hdata
      have hpair : ∀ r, p.fwd PORT sel other ready r = true ↔
          (r = .PORT_DATA1_H ∨ r = .PORT_DATA1_L) ∧ p.fwd PORT sel other ready .PORT_DATA1_L = true := by
        intro r
        cases r <;> simp [fwd, fwdCmd, fwdData0, hsm]
      have hvld : p.fwd PORT sel other ready .PORT_DATA1_L = true →
          (p.regs .PORT_DATA1_L).vld = true := by
        intro hl
        simp only [fwd, fwdData1, Bool.and_eq_true] at hl
        exact hl.1.1.1
      have hnxt : p.nextPort PORT ready (p.fwd PORT sel other ready .PORT_CMD)
          = if p.fwd PORT sel other ready .PORT_DATA1_L = true ∧ (p.regs .PORT_DATA1_H).vld = true
            then (.CMD, if .CMD = PortSm.CMD then 0 else PORT)
            else (p.port_sm, p.outportid_data) := by
        simp only [nextPort, hsm]
        exact if_congr (by simp [fwd, fwdData1, hsm, hdata]; tauto) rfl rfl
      rcases h.forward_data (p.fwd PORT sel other ready) .PORT_DATA1_H .PORT_DATA1_L .CMD
        (p.nextPort PORT ready (p.fwd PORT sel other ready .PORT_CMD))
        (by rw [hsm]; rfl) (fun _ => rfl) (by decide) (fun _ => rfl) hpair hvld hnxt with
        ⟨hq, hf⟩ | ⟨hl, ys', rfl, hf⟩
      · exact ⟨[], _, ys, .nothing hq, rfl, hf⟩
      · exact ⟨_, _, ys', .data1 hsm hl, rfl, hf⟩

/-- When the second register of a pair is empty, at most the first one is full. -/
lemma Queue.short (h : p.Queue PORT ys) {l : PortinSm} (hl : ∀ x, p.port_sm.slot.next x = l)
    (hne : l ≠ p.port_sm.slot) (hv : p.view l = none) :
    ys.length < 2 ∧ p.view p.portin_sm = none := by
  have hholds := h.holds
  have htail := h.tail
  cases ys with
  | nil => exact ⟨Nat.zero_lt_two, hholds.eq_none _⟩
  | cons x ys =>
      obtain ⟨-, hrest⟩ := hholds
      rw [SlotQueue.after_cons, hl] at htail
      rw [hl] at hrest
      cases ys with
      | nil =>
          have hin : l = p.portin_sm := htail
          exact ⟨Nat.one_lt_two, by rw [← hin, hv]⟩
      | cons y ys =>
          have hy := hrest.1
          rw [Function.update_of_ne hne, hv] at hy
          cases hy

/-! ### Loading -/

/-- What the register that the input state machine points at is loaded with. -/
def registered (PORT : BitVec 2) (sm : PortinSm) (tdata : Flit) : Flit :=
  if sm = .PORT_CMD then stampPort PORT tdata else tdata

lemma next_registered (PORT : BitVec 2) (sm : PortinSm) (f : Flit) :
    sm.next (registered PORT sm f) = sm.next f := by
  cases sm with
  | PORT_CMD => simp only [PortinSm.next, registered, if_true, isWriteCmd_stampPort]
  | PORT_DATA0_H | PORT_DATA0_L | PORT_DATA1_H | PORT_DATA1_L => rfl

lemma tready_eq (fwd : PortinSm → Bool) :
    p.tready fwd = (p.forwardedView fwd p.portin_sm).isNone := by
  rw [tready, forwardedView, view]
  cases hf : fwd p.portin_sm <;> cases hv : (p.regs p.portin_sm).vld <;> simp

/-- The registers after a cycle. -/
lemma view_step (sel other : BitVec 2) (ready tvalid : Bool) (tdata : Flit) :
    (p.step PORT sel other ready tvalid tdata).view
      = if tvalid && p.tready (p.fwd PORT sel other ready) then
          Function.update (p.forwardedView (p.fwd PORT sel other ready)) p.portin_sm
            (some (registered PORT p.portin_sm tdata))
        else p.forwardedView (p.fwd PORT sel other ready) := by
  funext r
  rw [tready]
  generalize hfwd : p.fwd PORT sel other ready = fwd
  simp only [view, step, hfwd, Stage.next, ite_apply]
  by_cases hr : r = p.portin_sm
  · subst hr
    rw [Function.update_self, forwardedView, view]
    cases tvalid <;> cases fwd p.portin_sm <;> cases hv : (p.regs p.portin_sm).vld <;>
      simp [hv, registered]
  · have hne : ¬p.portin_sm = r := fun he => hr he.symm
    rw [Function.update_of_ne hr, ite_self, forwardedView, view]
    cases fwd r <;> cases hv : (p.regs r).vld <;> simp [hv, hne]

/-- **One cycle of a port, after its forwards.** -/
lemma Forwarded.load {sel other : BitVec 2} {ready : Bool} {sm : PortSm}
    (h : Forwarded p PORT (p.fwd PORT sel other ready)
      (p.nextPort PORT ready (p.fwd PORT sel other ready .PORT_CMD)) sm ys)
    (tvalid : Bool) (tdata : Flit) :
    (p.step PORT sel other ready tvalid tdata).Queue PORT
      (ys ++ if tvalid && p.tready (p.fwd PORT sel other ready) then
        [registered PORT p.portin_sm tdata] else []) := by
  have hsm : (p.step PORT sel other ready tvalid tdata).port_sm = sm := congrArg Prod.fst h.port
  have hdata : (p.step PORT sel other ready tvalid tdata).outportid_data
      = if sm = .CMD then 0 else PORT := congrArg Prod.snd h.port
  have hin : (p.step PORT sel other ready tvalid tdata).portin_sm
      = if tvalid && p.tready (p.fwd PORT sel other ready) then p.portin_sm.next tdata
        else p.portin_sm := rfl
  refine ⟨?_, ?_, by rw [hsm, hdata]⟩
  · rw [view_step, hsm]
    cases hacc : tvalid && p.tready (p.fwd PORT sel other ready) with
    | false => simpa using h.holds
    | true =>
        have hfree : p.forwardedView (p.fwd PORT sel other ready) p.portin_sm = none := by
          have hr := (Bool.and_eq_true_iff.mp hacc).2
          rwa [tready_eq, Option.isNone_iff_eq_none] at hr
        rw [if_pos rfl, if_pos rfl]
        have hpush := h.holds.push (by rw [h.tail]; exact hfree) (registered PORT p.portin_sm tdata)
        rwa [h.tail] at hpush
  · rw [hsm, hin, SlotQueue.after_append, h.tail]
    cases tvalid && p.tready (p.fwd PORT sel other ready) with
    | false => rfl
    | true => exact next_registered PORT p.portin_sm tdata

end MemPort

/-! ## A port and its stream -/

/-- What is left of a stream of transactions when the input state machine is `sm`: the flits that
have not been accepted, and the flits they are registered as. -/
def MemRest (PORT : BitVec 2) (sm : PortinSm) (rest restS : List Flit) : Prop :=
  ∃ ds ts, rest = ds ++ memStream ts ∧ restS = ds ++ stampedStream PORT ts ∧ ds.length = sm.left

lemma MemRest.accept {PORT : BitVec 2} {sm : PortinSm} {f : Flit} {rest restS : List Flit}
    (h : MemRest PORT sm (f :: rest) restS) :
    ∃ restS', restS = MemPort.registered PORT sm f :: restS' ∧
      MemRest PORT (sm.next f) rest restS' := by
  obtain ⟨ds, ts, hrest, rfl, hlen⟩ := h
  cases ds with
  | nil =>
      obtain rfl : sm = .PORT_CMD := by
        cases sm with
        | PORT_CMD => rfl
        | PORT_DATA0_H | PORT_DATA0_L | PORT_DATA1_H | PORT_DATA1_L => cases hlen
      cases ts with
      | nil => cases hrest
      | cons t ts =>
          obtain ⟨rfl, rfl⟩ := List.cons.inj hrest
          refine ⟨_, rfl, t.data, ts, rfl, rfl, ?_⟩
          rw [t.data_length, PortinSm.next]
          split_ifs <;> rfl
  | cons d ds =>
      obtain ⟨rfl, rfl⟩ := List.cons.inj hrest
      cases sm with
      | PORT_CMD => cases hlen
      | PORT_DATA0_H | PORT_DATA0_L | PORT_DATA1_H | PORT_DATA1_L =>
          exact ⟨_, rfl, ds, ts, rfl, rfl, Nat.succ_injective hlen⟩

lemma MemRest.restS_nil {PORT : BitVec 2} {sm : PortinSm} {restS : List Flit}
    (h : MemRest PORT sm [] restS) : restS = [] := by
  obtain ⟨ds, ts, hrest, rfl, -⟩ := h
  obtain ⟨rfl, hts⟩ := List.append_eq_nil_iff.mp hrest.symm
  cases ts with
  | nil => rfl
  | cons t ts => cases hts

/-- Where the transactions of a port are: `cur` is the data that the transaction in hand still has
to forward, `u` are the transactions that have not begun, `rest` is what has not been accepted. -/
def MemPort.PortOk (p : MemPort) (PORT : BitVec 2) (rest cur : List Flit) (u : List MemTxn) : Prop :=
  ∃ ys restS, p.Queue PORT ys ∧ MemRest PORT p.portin_sm rest restS ∧
    ys ++ restS = cur ++ stampedStream PORT u ∧ cur.length = p.port_sm.left

/-- The next beat of a port (`Turn p fwd cur u cur' u'`). -/
inductive MemPort.Turn (p : MemPort) (PORT : BitVec 2) (fwd : PortinSm → Bool) :
    List Flit → List MemTxn → List Flit → List MemTxn → Prop
  | nothing {cur : List Flit} {u : List MemTxn} (h : ∀ r, fwd r = false) : Turn p PORT fwd cur u cur u
  | cmd {t : MemTxn} {u : List MemTxn} (hsm : p.port_sm = .CMD) (h : fwd .PORT_CMD = true)
      (hq : (p.regs .PORT_CMD).q = stampPort PORT t.hdr) : Turn p PORT fwd [] (t :: u) t.data u
  | data0 {c d : Flit} {u : List MemTxn} (hsm : p.port_sm = .DFLIT0)
      (h : fwd .PORT_DATA0_L = true) :
      Turn p PORT fwd [(p.regs .PORT_DATA0_H).q, (p.regs .PORT_DATA0_L).q, c, d] u [c, d] u
  | data1 {u : List MemTxn} (hsm : p.port_sm = .DFLIT1) (h : fwd .PORT_DATA1_L = true) :
      Turn p PORT fwd [(p.regs .PORT_DATA1_H).q, (p.regs .PORT_DATA1_L).q] u [] u

namespace MemPort.PortOk

variable {p : MemPort} {PORT : BitVec 2} {rest cur : List Flit} {u : List MemTxn}

lemma init (PORT : BitVec 2) (ts : List MemTxn) : PortOk {} PORT (memStream ts) [] ts :=
  ⟨[], stampedStream PORT ts, ⟨fun _ => rfl, rfl, rfl⟩, ⟨[], ts, rfl, rfl, rfl⟩, rfl, rfl⟩

lemma cur_eq_nil_iff (h : p.PortOk PORT rest cur u) : cur = [] ↔ p.port_sm = .CMD := by
  obtain ⟨ys, restS, -, -, -, hlen⟩ := h
  rw [← List.length_eq_zero_iff, hlen]
  cases p.port_sm <;> simp [PortSm.left]

lemma outportid_data_eq (h : p.PortOk PORT rest cur u) :
    p.outportid_data = if p.port_sm = .CMD then 0 else PORT := by
  obtain ⟨ys, restS, hq, -⟩ := h
  exact hq.data

/-- What the forwarded flits are of the transactions. -/
lemma turn {fwd : PortinSm → Bool} {zs ws : List Flit} {sm : PortSm} (hm : Moves p fwd zs sm)
    (hsplit : zs ++ ws = cur ++ stampedStream PORT u) (hlen : cur.length = p.port_sm.left) :
    ∃ cur' u', p.Turn PORT fwd cur u cur' u' ∧ ws = cur' ++ stampedStream PORT u' ∧
      cur'.length = sm.left := by
  cases hm with
  | nothing h => exact ⟨cur, u, .nothing h, hsplit, hlen⟩
  | cmd hsm h =>
      rw [hsm] at hlen
      obtain rfl := List.length_eq_zero_iff.mp hlen
      cases u with
      | nil => cases hsplit
      | cons t u =>
          obtain ⟨hq, hws⟩ := List.cons.inj hsplit
          refine ⟨t.data, u, .cmd hsm h hq, hws, ?_⟩
          rw [t.data_length, hq, isWriteCmd_stampPort]
          split_ifs <;> rfl
  | data0 hsm h =>
      rw [hsm] at hlen
      obtain ⟨a, b, c, d, rfl⟩ : ∃ a b c d, cur = [a, b, c, d] := by
        match cur, hlen with
        | [a, b, c, d], _ => exact ⟨a, b, c, d, rfl⟩
      obtain ⟨rfl, htl⟩ := List.cons.inj hsplit
      obtain ⟨rfl, hws⟩ := List.cons.inj htl
      exact ⟨[c, d], u, .data0 hsm h, hws, rfl⟩
  | data1 hsm h =>
      rw [hsm] at hlen
      obtain ⟨a, b, rfl⟩ := List.length_eq_two.mp hlen
      obtain ⟨rfl, htl⟩ := List.cons.inj hsplit
      obtain ⟨rfl, hws⟩ := List.cons.inj htl
      exact ⟨[], u, .data1 hsm h, hws, rfl⟩

/-- **One cycle of a port.** -/
theorem step (h : p.PortOk PORT rest cur u) (sel other : BitVec 2) (ready tvalid : Bool)
    (tdata : Flit) (hvalid : tvalid = true → rest.head? = some tdata) :
    ∃ cur' u', p.Turn PORT (p.fwd PORT sel other ready) cur u cur' u' ∧
      (p.step PORT sel other ready tvalid tdata).PortOk PORT
        (if tvalid && p.tready (p.fwd PORT sel other ready) then rest.tail else rest) cur' u' := by
  obtain ⟨ys, restS, hq, hrest, hsplit, hlen⟩ := h
  obtain ⟨zs, sm, ys', hm, rfl, hf⟩ := hq.forward sel other ready
  rw [List.append_assoc] at hsplit
  obtain ⟨cur', u', hturn, hws, hlen'⟩ := turn hm hsplit hlen
  refine ⟨cur', u', hturn, ?_⟩
  have hload := hf.load tvalid tdata
  have hsm : (p.step PORT sel other ready tvalid tdata).port_sm = sm := congrArg Prod.fst hf.port
  have hin : (p.step PORT sel other ready tvalid tdata).portin_sm
      = if tvalid && p.tready (p.fwd PORT sel other ready) then p.portin_sm.next tdata
        else p.portin_sm := rfl
  cases hacc : tvalid && p.tready (p.fwd PORT sel other ready) with
  | false =>
      rw [hacc] at hload hin
      refine ⟨_, restS, hload, ?_, by simpa using hws, by rw [hsm, hlen']⟩
      rw [hin]
      exact hrest
  | true =>
      rw [hacc] at hload hin
      have hhead := hvalid (Bool.and_eq_true_iff.mp hacc).1
      cases rest with
      | nil => cases hhead
      | cons f rest =>
          obtain rfl := Option.some.inj hhead
          obtain ⟨restS', rfl, hrest'⟩ := hrest.accept
          refine ⟨_, restS', hload, ?_, by simpa using hws, by rw [hsm, hlen']⟩
          rw [hin]
          exact hrest'

/-- A port that cannot forward its data accepts the next flit, and there is one. -/
lemma stuck_data (h : p.PortOk PORT rest cur u) (hcur : cur ≠ []) {sel other : BitVec 2}
    (hq : ∀ r, p.fwd PORT sel other true r = false) :
    p.tready (p.fwd PORT sel other true) = true ∧ rest ≠ [] := by
  obtain ⟨ys, restS, hqueue, hrest, hsplit, hlen⟩ := h
  have hdata := hqueue.data
  -- at most the first of the two registers is full
  have hshort : ys.length < 2 ∧ p.view p.portin_sm = none := by
    cases hsm : p.port_sm with
    | CMD =>
        rw [hsm] at hlen
        exact absurd (List.length_eq_zero_iff.mp hlen) hcur
    | DFLIT0 =>
        have hv : p.view .PORT_DATA0_L = none := by
          simpa [fwd, fwdData0, hsm, hdata, view] using hq .PORT_DATA0_L
        exact hqueue.short (by rw [hsm]; exact fun _ => rfl) (by rw [hsm]; decide) hv
    | DFLIT1 =>
        have hv : p.view .PORT_DATA1_L = none := by
          simpa [fwd, fwdData1, hsm, hdata, view] using hq .PORT_DATA1_L
        exact hqueue.short (by rw [hsm]; exact fun _ => rfl) (by rw [hsm]; decide) hv
  refine ⟨?_, fun hnil => ?_⟩
  · rw [tready_eq, forwardedView_of_quiet hq, hshort.2]
    rfl
  · rw [hnil] at hrest
    have htotal := congrArg List.length hsplit
    rw [hrest.restS_nil, List.append_nil, List.length_append, hlen] at htotal
    have hpos : cur.length ≠ 0 := fun h0 => hcur (List.length_eq_zero_iff.mp h0)
    have hleft : 2 ≤ p.port_sm.left := by
      rw [hlen] at hpos
      revert hpos
      cases p.port_sm <;> decide
    omega

/-- A port without a command accepts the next flit; at the end of its stream it is done. -/
lemma stuck_cmd (h : p.PortOk PORT rest [] u) {sel other : BitVec 2} {ready : Bool}
    (hv : (p.regs .PORT_CMD).vld = false) :
    p.tready (p.fwd PORT sel other ready) = true ∧ (rest = [] → u = []) := by
  have hsm := h.cur_eq_nil_iff.mp rfl
  obtain ⟨ys, restS, hqueue, hrest, hsplit, -⟩ := h
  have hholds := hqueue.holds
  have htail := hqueue.tail
  rw [hsm] at hholds htail
  obtain rfl : ys = [] := by
    have hhead := hholds.head_eq
    have hnone : p.view .PORT_CMD = none := by rw [view, hv]; rfl
    exact List.head?_eq_none_iff.mp (hhead.symm.trans hnone)
  refine ⟨?_, fun hnil => ?_⟩
  · have hin : PortinSm.PORT_CMD = p.portin_sm := htail
    rw [tready, ← hin, hv]
    rfl
  · rw [hnil] at hrest
    rw [hrest.restS_nil] at hsplit
    cases u with
    | nil => rfl
    | cons t u => cases hsplit

end MemPort.PortOk

/-! ## The two ports and the buffer -/

/-- A forward is a push. -/
lemma pingPongWrite_eq {o : TwoSlot Flit512} {q : List Flit512} (h : o.Holds q)
    (hr : o.ready = true) (upd : Flit512 → Flit512) (tready : Bool) :
    pingPongWrite o upd tready
      = o.step (some (upd (if o.turn_w then o.pong else o.ping))) tready := by
  cases h with
  | @empty x y r => cases r <;> rfl
  | ping | pong => rfl
  | pingPong | pongPing => cases hr

namespace RoutingMemoryIngress

variable {s : RoutingMemoryIngress} {p : Port} {cur cur' : List Flit} {u u' : List MemTxn}

/-- A turn in which port `p` forwards the beat `b`. -/
structure Forwards (s : RoutingMemoryIngress) (p : Port) (cur : List Flit) (u : List MemTxn)
    (cur' : List Flit) (u' : List MemTxn) (b : MemBeat) : Prop where
  active : ∃ r, s.fwd p r = true
  update : ∃ upd, s.forwards p = some upd ∧ ∀ slot, b.Matches (upd slot)
  beat : (∃ t, cur = [] ∧ u = t :: u' ∧ cur' = t.data ∧ b = .cmd (stampPort p.id t.hdr)) ∨
    u' = u ∧ dataBeats cur = b :: dataBeats cur' ∧ cur'.length < cur.length

/-- A port is quiet or forwards the next beat. -/
lemma quiet_or_forwards (h : (s.ports p).Turn p.id (s.fwd p) cur u cur' u') :
    (∀ r, s.fwd p r = false) ∧ s.forwards p = none ∧ cur' = cur ∧ u' = u ∨
      ∃ b, s.Forwards p cur u cur' u' b := by
  cases h with
  | nothing h => exact .inl ⟨h, by simp [forwards, h], rfl, rfl⟩
  | @cmd t u hsm h hq =>
      refine .inr ⟨_, ⟨_, h⟩, ⟨_, if_pos h, fun slot => ?_⟩, .inl ⟨t, rfl, rfl, rfl, rfl⟩⟩
      change hiHalf (_ ++ (field slot 0 256 : Flit)) = _
      rw [hq, hiHalf, field]
      exact BitVec.extractLsb'_append_eq_left
  | @data0 c d u hsm h =>
      have hcmd : s.fwd p .PORT_CMD = false := by simp [fwd, MemPort.fwd, MemPort.fwdCmd, hsm]
      refine .inr ⟨.data (((s.ports p).regs .PORT_DATA0_H).q ++ ((s.ports p).regs .PORT_DATA0_L).q),
        ⟨_, h⟩, ⟨_, ?_, fun slot => rfl⟩, .inr ⟨rfl, rfl, by simp⟩⟩
      simp only [forwards, hcmd, Bool.false_eq_true, if_false, h, if_true]
      rfl
  | @data1 u hsm h =>
      have hcmd : s.fwd p .PORT_CMD = false := by simp [fwd, MemPort.fwd, MemPort.fwdCmd, hsm]
      have hd0 : s.fwd p .PORT_DATA0_L = false := by
        simp [fwd, MemPort.fwd, MemPort.fwdData0, hsm]
      refine .inr ⟨.data (((s.ports p).regs .PORT_DATA1_H).q ++ ((s.ports p).regs .PORT_DATA1_L).q),
        ⟨_, h⟩, ⟨_, ?_, fun slot => rfl⟩, .inr ⟨rfl, rfl, by simp⟩⟩
      simp only [forwards, hcmd, hd0, Bool.false_eq_true, if_false, h, if_true]
      rfl

lemma id_ne_zero (p : Port) : 0#2 ≠ p.id := by cases p <;> decide

lemma id_other_ne (p : Port) : p.id ≠ p.other.id := by cases p <;> decide

/-- While a port forwards, the other one waits for its turn. -/
lemma fwd_exclusive (hdata : ∀ p, (s.ports p).outportid_data
      = if (s.ports p).port_sm = .CMD then 0 else p.id)
    (halone : ∃ p, (s.ports p).port_sm = .CMD) {p : Port} {r : PortinSm} (hr : s.fwd p r = true) :
    (s.ports p.other).port_sm = .CMD ∧ ∀ r', s.fwd p.other r' = false := by
  have hp := hdata p
  have ho := hdata p.other
  by_cases hsm : (s.ports p).port_sm = .CMD
  · -- the port forwards a command: it is selected, and the other one has no data in hand
    have hcmd : s.outportid_cmd = p.id ∧ (s.ports p.other).outportid_data = 0 := by
      cases r with
      | PORT_CMD =>
          simp only [fwd, MemPort.fwd, MemPort.fwdCmd, Bool.and_eq_true, decide_eq_true_eq] at hr
          exact ⟨hr.1.1.2, hr.1.2⟩
      | PORT_DATA0_H | PORT_DATA0_L => simp [fwd, MemPort.fwd, MemPort.fwdData0, hsm] at hr
      | PORT_DATA1_H | PORT_DATA1_L => simp [fwd, MemPort.fwd, MemPort.fwdData1, hsm] at hr
    have hother : (s.ports p.other).port_sm = .CMD := by
      by_contra hne
      rw [if_neg hne] at ho
      exact id_ne_zero p.other (hcmd.2.symm.trans ho)
    refine ⟨hother, fun r' => ?_⟩
    cases r' with
    | PORT_CMD => simp [fwd, MemPort.fwd, MemPort.fwdCmd, hcmd.1, id_other_ne p]
    | PORT_DATA0_H | PORT_DATA0_L =>
        simp [fwd, MemPort.fwd, MemPort.fwdData0, hcmd.2, id_ne_zero]
    | PORT_DATA1_H | PORT_DATA1_L =>
        simp [fwd, MemPort.fwd, MemPort.fwdData1, hcmd.2, id_ne_zero]
  · have hother : (s.ports p.other).port_sm = .CMD := by
      obtain ⟨x, hx⟩ := halone
      rcases p.eq_or_eq_other x with rfl | rfl
      · exact absurd hx hsm
      · exact hx
    rw [if_neg hsm] at hp
    rw [if_pos hother] at ho
    refine ⟨hother, fun r' => ?_⟩
    cases r' with
    | PORT_CMD =>
        simp [fwd, MemPort.fwd, MemPort.fwdCmd, Port.other_other, hp, (id_ne_zero p).symm]
    | PORT_DATA0_H | PORT_DATA0_L => simp [fwd, MemPort.fwd, MemPort.fwdData0, ho, id_ne_zero]
    | PORT_DATA1_H | PORT_DATA1_L => simp [fwd, MemPort.fwd, MemPort.fwdData1, ho, id_ne_zero]

/-- A forward needs room in the buffer. -/
lemma ready_of_fwd {r : PortinSm} (h : s.fwd p r = true) : s.out.ready = true := by
  cases r with
  | PORT_CMD =>
      simp only [fwd, MemPort.fwd, MemPort.fwdCmd, Bool.and_eq_true] at h
      exact h.1.1.1.2
  | PORT_DATA0_H | PORT_DATA0_L =>
      simp only [fwd, MemPort.fwd, MemPort.fwdData0, Bool.and_eq_true] at h
      exact h.1.1.2
  | PORT_DATA1_H | PORT_DATA1_L =>
      simp only [fwd, MemPort.fwd, MemPort.fwdData1, Bool.and_eq_true] at h
      exact h.1.1.2

/-- A forwarded command is the selected one. -/
lemma fwd_cmd_selected {p : Port} (h : s.fwd p .PORT_CMD = true) :
    s.arb_req_nxt = true ∧ s.outportid_cmd = p.id := by
  constructor
  · rw [arb_req_nxt]
    cases p <;> simp [h]
  · simp only [fwd, MemPort.fwd, MemPort.fwdCmd, Bool.and_eq_true, decide_eq_true_eq] at h
    exact h.1.1.2

lemma masked_step (h : ArbMasked s.masked_req_vector s.arb_req) (i : RoutingMemoryIngressIn) :
    ArbMasked (s.step i).masked_req_vector (s.step i).arb_req := by
  have hkept : ∀ p, ((s.ports p).regs .PORT_CMD).vld = true →
      (((s.step i).ports p).regs .PORT_CMD).vld = true ∨
        s.arb_req_nxt = true ∧ arbSelected s.masked_req_vector s.arb_req = p.id := by
    intro p hv
    cases hf : s.fwd p .PORT_CMD with
    | true => exact .inr (fwd_cmd_selected hf)
    | false =>
        refine .inl ?_
        change (Stage.next _ _ (s.fwd p .PORT_CMD) _).vld = true
        rw [hf]
        exact Stage.next_vld hv _ _
  exact arbStep_masked _ _ _ _ _ _ h (hkept .port0) (hkept .port1)

/-- The buffer after a cycle in which port `p` forwards, or nothing is forwarded. -/
lemma nextOut_of_forwards {p : Port} {upd : Flit512 → Flit512} (h : s.forwards p = some upd)
    (hother : s.forwards p.other = none) (tready : Bool) :
    s.nextOut tready = pingPongWrite s.out upd tready := by
  cases p with
  | port0 => rw [nextOut, h]
  | port1 =>
      have h0 : s.forwards .port0 = none := hother
      rw [nextOut, h0, h]

lemma nextOut_of_quiet (h : ∀ p, s.forwards p = none) (tready : Bool) :
    s.nextOut tready = s.out.hold tready := by
  rw [nextOut, h, h]

lemma forwards_of_quiet (h : ∀ r, s.fwd p r = false) : s.forwards p = none := by
  simp [forwards, h]

end RoutingMemoryIngress

/-- The transactions of a port, with the port. -/
def fromPort (p : Port) (ts : List MemTxn) : List (Port × MemTxn) := ts.map (Prod.mk p)

/-- **The invariant of the module.**  `out` has been handed over, `cur` is the data of the
transaction in hand, `a` are the transactions that have begun, in the order `m`, and `u` those that
have not. -/
structure MemInv (rs : Port → List MemTxn) (s : RoutingMemoryIngress) (rest : Port → List Flit)
    (out : List Flit512) (cur : Port → List Flit) (a u : Port → List MemTxn)
    (m : List (Port × MemTxn)) : Prop where
  port : ∀ p, (s.ports p).PortOk p.id (rest p) (cur p) (u p)
  alone : ∃ p, cur p = []
  masked : ArbMasked s.masked_req_vector s.arb_req
  whole : ∀ p, a p ++ u p = rs p
  order : Interleave (fromPort .port0 (a .port0)) (fromPort .port1 (a .port1)) m
  beats : ∃ q es, s.out.Holds q ∧ List.Forall₂ MemBeat.Matches es (out ++ q) ∧
    ∀ p, cur p.other = [] → es ++ dataBeats (cur p) = memBeats m

namespace MemInv

variable {rs : Port → List MemTxn} {s : RoutingMemoryIngress} {rest : Port → List Flit}
  {out : List Flit512} {cur : Port → List Flit} {a u : Port → List MemTxn}
  {m : List (Port × MemTxn)} {i : RoutingMemoryIngressIn}

lemma init (rs : Port → List MemTxn) :
    MemInv rs {} (fun p => memStream (rs p)) [] (fun _ => []) (fun _ => []) rs [] where
  port := fun p => MemPort.PortOk.init p.id (rs p)
  alone := ⟨.port0, rfl⟩
  masked := rfl
  whole := fun _ => rfl
  order := .nil
  beats := ⟨[], [], .empty, .nil, fun _ _ => rfl⟩

/-- A transaction begins. -/
lemma order_snoc (p : Port) (t : MemTxn)
    (h : Interleave (fromPort .port0 (a .port0)) (fromPort .port1 (a .port1)) m) :
    Interleave (fromPort .port0 (Function.update a p (a p ++ [t]) .port0))
      (fromPort .port1 (Function.update a p (a p ++ [t]) .port1)) (m ++ [(p, t)]) := by
  cases p with
  | port0 => simpa [fromPort, Function.update] using h.snoc_left (Port.port0, t)
  | port1 => simpa [fromPort, Function.update] using h.snoc_right (Port.port1, t)

/-- The beats that are handed over and left in the buffer after a cycle. -/
lemma matches_step {q : List Flit512} {es : List MemBeat} (hq : s.out.Holds q)
    (hes : List.Forall₂ MemBeat.Matches es (out ++ q)) (tready : Bool) (x : List Flit512)
    (bs : List MemBeat) (hx : List.Forall₂ MemBeat.Matches bs x) :
    List.Forall₂ MemBeat.Matches (es ++ bs)
      ((out ++ s.out.out tready) ++ ((if tready then q.tail else q) ++ x)) := by
  rw [← List.append_assoc, List.append_assoc out, hq.out_append]
  exact List.rel_append hes hx

/-- While a port forwards, the other one has nothing in hand and is quiet. -/
lemma exclusive (h : MemInv rs s rest out cur a u m) {p : Port} {r : PortinSm}
    (hr : s.fwd p r = true) : cur p.other = [] ∧ ∀ r', s.fwd p.other r' = false := by
  obtain ⟨x, hx⟩ := h.alone
  obtain ⟨hsm, hquiet⟩ := s.fwd_exclusive (fun p => (h.port p).outportid_data_eq)
    ⟨x, (h.port x).cur_eq_nil_iff.mp hx⟩ hr
  exact ⟨(h.port p.other).cur_eq_nil_iff.mpr hsm, hquiet⟩

/-- The transactions and beats after a cycle in which port `p` forwards the beat `b`. -/
lemma step_active (h : MemInv rs s rest out cur a u m) {rest' : Port → List Flit}
    {cur' : Port → List Flit} {u' : Port → List MemTxn}
    (hport : ∀ p, ((s.step i).ports p).PortOk p.id (rest' p) (cur' p) (u' p))
    {p : Port} {b : MemBeat} (hf : s.Forwards p (cur p) (u p) (cur' p) (u' p) b)
    (hcur : cur' p.other = cur p.other) (hu : u' p.other = u p.other) :
    ∃ a' m', MemInv rs (s.step i) rest' (out ++ s.out.out i.route_out_tready) cur' a' u' m' := by
  obtain ⟨r, hr⟩ := hf.active
  obtain ⟨hother, hquiet⟩ := h.exclusive hr
  obtain ⟨upd, hupd, hmatch⟩ := hf.update
  obtain ⟨q, es, hq, hes, hbeats⟩ := h.beats
  have hready := s.ready_of_fwd hr
  have hstep : (s.step i).out = pingPongWrite s.out upd i.route_out_tready :=
    s.nextOut_of_forwards hupd (s.forwards_of_quiet hquiet) _
  obtain ⟨slot, hout⟩ : ∃ slot, (s.step i).out.Holds
      ((if i.route_out_tready then q.tail else q) ++ [upd slot]) := by
    have hout := hq.step (some (upd (if s.out.turn_w then s.out.pong else s.out.ping)))
      i.route_out_tready
    rw [← pingPongWrite_eq hq hready, ← hstep, hready, if_pos rfl] at hout
    exact ⟨_, hout⟩
  have halone : ∃ p, cur' p = [] := ⟨p.other, by rw [hcur, hother]⟩
  have hmasked := s.masked_step h.masked i
  have hmatches := matches_step hq hes i.route_out_tready [upd slot] [b]
    (.cons (hmatch slot) .nil)
  -- whichever port is looked at, the beats of the data in hand are those of port `p`
  have hall : ∀ x, cur' x.other = [] → dataBeats (cur' x) = dataBeats (cur' p) := by
    intro x hx
    rcases p.eq_or_eq_other x with rfl | rfl
    · rfl
    · rw [Port.other_other] at hx
      rw [hx, hcur, hother]
  rcases hf.beat with ⟨t, hcurp, hup, hcur', rfl⟩ | ⟨hup, hdata, -⟩
  · refine ⟨Function.update a p (a p ++ [t]), m ++ [(p, t)], hport, halone, hmasked, fun x => ?_,
      order_snoc p t h.order, _, es ++ [.cmd (stampPort p.id t.hdr)], hout, hmatches,
      fun x hx => ?_⟩
    · rw [← h.whole x]
      rcases p.eq_or_eq_other x with rfl | rfl
      · rw [Function.update_self, hup, List.append_assoc]
        rfl
      · rw [Function.update_of_ne p.other_ne, hu]
    · have hes' := hbeats p hother
      rw [hcurp] at hes'
      rw [hall x hx, memBeats_snoc, hcur', ← hes']
      simp [dataBeats, MemTxn.beats]
  · refine ⟨a, m, hport, halone, hmasked, fun x => ?_, h.order, _, es ++ [b], hout, hmatches,
      fun x hx => ?_⟩
    · rw [← h.whole x]
      rcases p.eq_or_eq_other x with rfl | rfl
      · rw [hup]
      · rw [hu]
    · rw [hall x hx, ← hbeats p hother, hdata]
      simp

/-- A cycle in which nothing is forwarded. -/
lemma step_quiet (h : MemInv rs s rest out cur a u m) {rest' : Port → List Flit}
    (hport : ∀ p, ((s.step i).ports p).PortOk p.id (rest' p) (cur p) (u p))
    (hquiet : ∀ p, s.forwards p = none) :
    MemInv rs (s.step i) rest' (out ++ s.out.out i.route_out_tready) cur a u m := by
  obtain ⟨q, es, hq, hes, hbeats⟩ := h.beats
  have hout := hq.step none i.route_out_tready
  have hstep : (s.step i).out = s.out.hold i.route_out_tready := s.nextOut_of_quiet hquiet _
  have hmatches := matches_step hq hes i.route_out_tready [] [] .nil
  rw [List.append_nil] at hmatches
  refine ⟨hport, h.alone, s.masked_step h.masked i, h.whole, h.order, _, es, ?_, hmatches, hbeats⟩
  rw [hstep]
  change TwoSlot.Holds (s.out.step none _) _
  simpa using hout

/-- The cycle of each port: what it forwards, and what is left of its stream. -/
def Turns (s : RoutingMemoryIngress) (cur : Port → List Flit) (u : Port → List MemTxn)
    (cur' : Port → List Flit) (u' : Port → List MemTxn) : Prop :=
  ∀ p, (s.ports p).Turn p.id (s.fwd p) (cur p) (u p) (cur' p) (u' p)

/-- **One cycle of the module.** -/
theorem step (h : MemInv rs s rest out cur a u m)
    (hvalid : ∀ p, i.route_in_tvalid p = true → (rest p).head? = some (i.route_in_tdata p)) :
    ∃ cur' u', Turns s cur u cur' u' ∧ ∃ a' m',
      MemInv rs (s.step i)
        (fun p => if i.route_in_tvalid p && s.route_in_tready p then (rest p).tail else rest p)
        (out ++ s.out.out i.route_out_tready) cur' a' u' m' := by
  have hports := fun p => (h.port p).step s.outportid_cmd (s.ports p.other).outportid_data
    s.out.ready (i.route_in_tvalid p) (i.route_in_tdata p) (hvalid p)
  choose cur' u' hturn hport using hports
  refine ⟨cur', u', hturn, ?_⟩
  by_cases hq : ∃ p b, s.Forwards p (cur p) (u p) (cur' p) (u' p) b
  · obtain ⟨p, b, hf⟩ := hq
    obtain ⟨r, hr⟩ := hf.active
    obtain ⟨-, hquiet⟩ := h.exclusive hr
    rcases s.quiet_or_forwards (hturn p.other) with ⟨-, -, hcur, hu⟩ | ⟨b', hf'⟩
    · exact h.step_active hport hf hcur hu
    · obtain ⟨r', hr'⟩ := hf'.active
      rw [hquiet r'] at hr'
      cases hr'
  · have hall : ∀ p, s.forwards p = none ∧ cur' p = cur p ∧ u' p = u p := by
      intro p
      rcases s.quiet_or_forwards (hturn p) with ⟨-, hn, hcur, hu⟩ | ⟨b, hf⟩
      · exact ⟨hn, hcur, hu⟩
      · exact absurd ⟨p, b, hf⟩ hq
    obtain rfl : cur' = cur := funext fun p => (hall p).2.1
    obtain rfl : u' = u := funext fun p => (hall p).2.2
    exact ⟨a, m, h.step_quiet hport fun p => (hall p).1⟩

end MemInv

/-! ## The module between its two streams -/

/-- The module, and what is left of the stream of each port. -/
structure MemFeed where
  ingress : RoutingMemoryIngress := {}
  stream : Port → List Flit

/-- The timing of one cycle: which ports have their next flit on offer, what is at the inputs
otherwise, and whether a beat is taken. -/
structure MemFeedIn where
  offer : Port → Bool
  idle : Port → Flit
  route_out_tready : Bool

namespace MemFeed

variable (s : MemFeed) (i : MemFeedIn)

def tvalid (p : Port) : Bool := i.offer p && !(s.stream p).isEmpty

def wires : RoutingMemoryIngressIn where
  route_in_tdata p := if s.tvalid i p then (s.stream p).headD 0 else i.idle p
  route_in_tvalid := s.tvalid i
  route_out_tready := i.route_out_tready

def step : MemFeed where
  ingress := s.ingress.step (s.wires i)
  stream p :=
    if s.tvalid i p && s.ingress.route_in_tready p then (s.stream p).tail else s.stream p

/-- The beat handed over in a cycle. -/
def emitted (s : MemFeed) (i : MemFeedIn) : List Flit512 := s.ingress.out.out i.route_out_tready

end MemFeed

/-- The module at reset with the two streams in front of it. -/
def memFeed (rs : Port → List MemTxn) : Machine MemFeed MemFeedIn where
  init := { stream := fun p => memStream (rs p) }
  step := MemFeed.step

/-- What a run hands over. -/
def memOut (rs : Port → List MemTxn) (is : List MemFeedIn) : List Flit512 :=
  (memFeed rs).collect MemFeed.emitted is

/-- The next flits are on offer, and a beat is taken. -/
def MemFeedIn.go : MemFeedIn := ⟨fun _ => true, fun _ => 0, true⟩

namespace MemFeed

variable {rs : Port → List MemTxn} {s : MemFeed} {out : List Flit512} {cur : Port → List Flit}
  {a u : Port → List MemTxn} {m : List (Port × MemTxn)}

/-- A valid flit is the next one of the stream. -/
lemma head_of_tvalid {i : MemFeedIn} {p : Port} (hv : (s.wires i).route_in_tvalid p = true) :
    (s.stream p).head? = some ((s.wires i).route_in_tdata p) := by
  have hv' : s.tvalid i p = true := hv
  cases hs : s.stream p with
  | nil => simp [tvalid, hs] at hv'
  | cons f rest => simp [wires, hv', hs]

/-- One cycle of a run. -/
lemma inv_step (h : MemInv rs s.ingress s.stream out cur a u m) (i : MemFeedIn) :
    ∃ cur' u', MemInv.Turns s.ingress cur u cur' u' ∧ ∃ a' m',
      MemInv rs (s.step i).ingress (s.step i).stream (out ++ s.emitted i) cur' a' u' m' :=
  h.step fun _ hv => head_of_tvalid hv

/-- The state of a run. -/
theorem inv_run (rs : Port → List MemTxn) (is : List MemFeedIn) :
    ∃ cur a u m, MemInv rs ((memFeed rs).run is).ingress ((memFeed rs).run is).stream
      (memOut rs is) cur a u m := by
  induction is using List.reverseRecOn with
  | nil => exact ⟨_, _, _, _, MemInv.init rs⟩
  | append_singleton is i ih =>
      obtain ⟨cur, a, u, m, h⟩ := ih
      obtain ⟨cur', u', -, a', m', h'⟩ := inv_step h i
      refine ⟨cur', a', u', m', ?_⟩
      rw [memOut, Machine.collect_concat, Machine.run_concat]
      exact h'

/-! ### Everything comes out -/

/-- The work left at a port. -/
def portWork (s : MemFeed) (cur : Port → List Flit) (u : Port → List MemTxn) (p : Port) : ℕ :=
  2 * ((cur p).length + (memStream (u p)).length) + (s.stream p).length

/-- The work left. -/
def work (s : MemFeed) (cur : Port → List Flit) (u : Port → List MemTxn) : ℕ :=
  portWork s cur u .port0 + portWork s cur u .port1 + s.ingress.out.count

/-- A flit of the port is accepted. -/
def accepts (s : MemFeed) (i : MemFeedIn) (p : Port) : Bool :=
  s.tvalid i p && s.ingress.route_in_tready p

/-- The port forwards a beat. -/
def active (s : MemFeed) (p : Port) : Bool := (s.ingress.forwards p).isSome

/-- A beat that is forwarded is work done. -/
lemma turn_work {i : MemFeedIn} {cur' : Port → List Flit} {u' : Port → List MemTxn} {p : Port}
    (h : (s.ingress.ports p).Turn p.id (s.ingress.fwd p) (cur p) (u p) (cur' p) (u' p)) :
    portWork (s.step i) cur' u' p + 2 * (s.active p).toNat + (s.accepts i p).toNat
      ≤ portWork s cur u p := by
  have hstream : ((s.step i).stream p).length + (s.accepts i p).toNat = (s.stream p).length := by
    change (if s.accepts i p then _ else _ : List Flit).length + _ = _
    cases ha : s.accepts i p with
    | false => rfl
    | true =>
        have hv := (Bool.and_eq_true_iff.mp ha).1
        cases hs : s.stream p with
        | nil => simp [tvalid, hs] at hv
        | cons f rest => rfl
  rcases s.ingress.quiet_or_forwards h with ⟨-, hn, hcur, hu⟩ | ⟨b, hf⟩
  · rw [portWork, portWork, active, hn, hcur, hu]
    simp only [Option.isSome_none, Bool.toNat_false]
    omega
  · obtain ⟨upd, hupd, -⟩ := hf.update
    rw [portWork, portWork, active, hupd]
    simp only [Option.isSome_some, Bool.toNat_true]
    rcases hf.beat with ⟨t, hcur, hu, hcur', -⟩ | ⟨hu, -, hlt⟩
    · have hlen : (memStream (u p)).length = (t.data.length + 1) + (memStream (u' p)).length := by
        rw [hu]
        change (t.hdr :: (t.data ++ memStream (u' p))).length = _
        rw [List.length_cons, List.length_append]
        omega
      rw [hcur, hcur', hlen, List.length_nil]
      omega
    · rw [hu]
      omega

/-- The buffer takes the beats that are forwarded and gives those that are handed over. -/
lemma count_step (h : MemInv rs s.ingress s.stream out cur a u m) (i : MemFeedIn) :
    (s.step i).ingress.out.count + (s.emitted i).length
      ≤ s.ingress.out.count + ((s.active .port0).toNat + (s.active .port1).toNat) := by
  obtain ⟨q, es, hq, -, -⟩ := h.beats
  have hready : ∀ p, s.active p = true → s.ingress.out.ready = true := by
    intro p hp
    by_contra hn
    have hquiet : ∀ r, s.ingress.fwd p r = false :=
      fun r => eq_false_of_ne_true fun hr => hn (s.ingress.ready_of_fwd hr)
    rw [active, s.ingress.forwards_of_quiet hquiet] at hp
    cases hp
  change (s.ingress.nextOut i.route_out_tready).count + (s.ingress.out.out _).length ≤ _
  have hstep := fun x => hq.count_step x i.route_out_tready
  rw [RoutingMemoryIngress.nextOut]
  cases h0 : s.ingress.forwards .port0 with
  | some upd =>
      have ha : s.active .port0 = true := by rw [active, h0]; rfl
      simp only [pingPongWrite_eq hq (hready .port0 ha), hstep, hready .port0 ha, ha]
      simp
  | none =>
      cases h1 : s.ingress.forwards .port1 with
      | some upd =>
          have ha : s.active .port1 = true := by rw [active, h1]; rfl
          simp only [pingPongWrite_eq hq (hready .port1 ha), hstep, hready .port1 ha, ha]
          simp
      | none =>
          have hnone := hstep none
          rw [Option.isSome_none, Bool.and_false, Bool.toNat_false, Nat.add_zero] at hnone
          exact (Nat.le_of_eq hnone).trans (Nat.le_add_right _ _)

/-- What a cycle does is taken from the work left. -/
lemma work_step (h : MemInv rs s.ingress s.stream out cur a u m) (i : MemFeedIn) :
    ∃ cur' u' a' m',
      MemInv rs (s.step i).ingress (s.step i).stream (out ++ s.emitted i) cur' a' u' m' ∧
        work (s.step i) cur' u' + ((s.accepts i .port0).toNat + (s.accepts i .port1).toNat
          + (s.active .port0).toNat + (s.active .port1).toNat + (s.emitted i).length)
          ≤ work s cur u := by
  obtain ⟨cur', u', hturn, a', m', h'⟩ := inv_step h i
  refine ⟨cur', u', a', m', h', ?_⟩
  have h0 := turn_work (i := i) (hturn .port0)
  have h1 := turn_work (i := i) (hturn .port1)
  have hcount := count_step h i
  rw [work, work]
  omega

/-- When beats are taken, a cycle does some work, or everything is done. -/
lemma works_or_done (h : MemInv rs s.ingress s.stream out cur a u m) :
    (∀ p, cur p = [] ∧ u p = []) ∧ s.ingress.out.Holds [] ∨
      0 < (s.accepts .go .port0).toNat + (s.accepts .go .port1).toNat
        + (s.active .port0).toNat + (s.active .port1).toNat + (s.emitted .go).length := by
  rw [Decidable.or_iff_not_imp_right]
  intro hidle
  have haccepts : ∀ p, s.accepts .go p = false := by
    intro p
    cases p <;> exact Bool.toNat_eq_zero.mp (by omega)
  have hactive : ∀ p, s.active p = false := by
    intro p
    cases p <;> exact Bool.toNat_eq_zero.mp (by omega)
  have hemit : s.emitted .go = [] := List.length_eq_zero_iff.mp (by omega)
  obtain ⟨q, es, hq, -, -⟩ := h.beats
  obtain rfl : q = [] := by
    change s.ingress.out.out true = [] at hemit
    rw [hq.out_eq, if_pos rfl] at hemit
    cases q with
    | nil => rfl
    | cons x q => cases hemit
  have hready : s.ingress.out.ready = true := hq.ready_iff.mpr Nat.zero_lt_two
  have hquiet : ∀ p r, s.ingress.fwd p r = false := by
    intro p r
    obtain ⟨cur', u', hturn, -⟩ := inv_step h .go
    rcases s.ingress.quiet_or_forwards (hturn p) with ⟨hquiet, -⟩ | ⟨b, hf⟩
    · exact hquiet r
    · obtain ⟨upd, hupd, -⟩ := hf.update
      have hp := hactive p
      rw [active, hupd] at hp
      cases hp
  -- with room in its register the next flit of a stream would be accepted
  have hstuck : ∀ p, s.ingress.route_in_tready p = true → s.stream p = [] := by
    intro p hr
    have hp := haccepts p
    rw [accepts, hr, Bool.and_true] at hp
    simpa [tvalid, MemFeedIn.go] using hp
  have hcur : ∀ p, cur p = [] := by
    intro p
    by_contra hne
    have hp := hquiet p
    simp only [RoutingMemoryIngress.fwd, hready] at hp
    obtain ⟨hr, hrest⟩ := (h.port p).stuck_data hne hp
    refine hrest (hstuck p ?_)
    rw [RoutingMemoryIngress.route_in_tready]
    simp only [RoutingMemoryIngress.fwd, hready]
    exact hr
  have hport : ∀ p, (s.ingress.ports p).PortOk p.id (s.stream p) [] (u p) :=
    fun p => hcur p ▸ h.port p
  -- a waiting command would be selected and forwarded
  have hvld : ∀ p, ((s.ingress.ports p).regs .PORT_CMD).vld = false := by
    have hsel : ∀ p, s.ingress.outportid_cmd = p.id →
        ((s.ingress.ports p).regs .PORT_CMD).vld = true → False := by
      intro p hid hv
      have hp := hquiet p .PORT_CMD
      have hsm : ∀ p, (s.ingress.ports p).port_sm = .CMD :=
        fun p => (hport p).cur_eq_nil_iff.mp rfl
      have ho : (s.ingress.ports p.other).outportid_data = 0 := by
        rw [(hport p.other).outportid_data_eq, if_pos (hsm p.other)]
      simp [RoutingMemoryIngress.fwd, MemPort.fwd, MemPort.fwdCmd, hv, hready, hid, ho, hsm] at hp
    intro p
    by_contra hv
    rw [Bool.not_eq_false] at hv
    have hany : (((s.ingress.ports .port0).regs .PORT_CMD).vld
        || ((s.ingress.ports .port1).regs .PORT_CMD).vld) = true := by
      cases p <;> simp [hv]
    rcases arbSelected_request _ _ _ h.masked hany with ⟨hid, hv'⟩ | ⟨hid, hv'⟩
    · exact hsel .port0 hid hv'
    · exact hsel .port1 hid hv'
  refine ⟨fun p => ⟨hcur p, ?_⟩, hq⟩
  obtain ⟨hr, hu⟩ := (hport p).stuck_cmd (hvld p)
  exact hu (hstuck p hr)

/-- When everything is done, all transactions are out. -/
lemma all_out (h : MemInv rs s.ingress s.stream out cur a u m) (hdone : ∀ p, cur p = [] ∧ u p = [])
    (hempty : s.ingress.out.Holds []) :
    Interleave (fromPort .port0 (rs .port0)) (fromPort .port1 (rs .port1)) m ∧
      List.Forall₂ MemBeat.Matches (memBeats m) out := by
  obtain ⟨q, es, hq, hes, hbeats⟩ := h.beats
  have ha : ∀ p, a p = rs p := by
    intro p
    have hp := h.whole p
    rwa [(hdone p).2, List.append_nil] at hp
  refine ⟨by rw [← ha, ← ha]; exact h.order, ?_⟩
  obtain rfl : q = [] :=
    List.length_eq_zero_iff.mp (hq.count_eq.symm.trans hempty.count_eq)
  have hm := hbeats .port0 (hdone _).1
  rw [(hdone .port0).1, show dataBeats [] = [] from rfl, List.append_nil] at hm
  rwa [hm, List.append_nil] at hes

/-- The work gets done. -/
lemma finishes (n : ℕ) {is : List MemFeedIn}
    (h : MemInv rs ((memFeed rs).run is).ingress ((memFeed rs).run is).stream (memOut rs is)
      cur a u m)
    (hn : work ((memFeed rs).run is) cur u = n) :
    ∃ k m', Interleave (fromPort .port0 (rs .port0)) (fromPort .port1 (rs .port1)) m' ∧
      List.Forall₂ MemBeat.Matches (memBeats m') (memOut rs (is ++ List.replicate k .go)) := by
  induction n using Nat.strong_induction_on generalizing is cur a u m with
  | _ n ih =>
      rcases works_or_done h with ⟨hdone, hempty⟩ | hpos
      · refine ⟨0, m, ?_⟩
        rw [List.replicate_zero, List.append_nil]
        exact all_out h hdone hempty
      · obtain ⟨cur', u', a', m', h', hwork⟩ := work_step h .go
        have hrun : (memFeed rs).run (is ++ [.go]) = ((memFeed rs).run is).step .go :=
          Machine.run_concat _ _ _
        have hout : memOut rs (is ++ [.go])
            = memOut rs is ++ ((memFeed rs).run is).emitted .go := Machine.collect_concat _ _ _ _
        rw [← hrun, ← hout] at h'
        rw [← hrun] at hwork
        obtain ⟨k, m'', hk⟩ := ih _ (by omega) h' rfl
        refine ⟨k + 1, m'', ?_⟩
        rw [List.replicate_succ, List.append_cons]
        exact hk

end MemFeed

/-- **Both ports' commands are handed over whole and in order.**  In every run the beats handed
over are the beginning of an interleaving of the transactions of the two ports, and in the end all
of one. -/
theorem memory_routed (rs : Port → List MemTxn) (is : List MemFeedIn) :
    (∃ m es, Interleave (fromPort .port0 (rs .port0)) (fromPort .port1 (rs .port1)) m ∧
      es <+: memBeats m ∧ List.Forall₂ MemBeat.Matches es (memOut rs is)) ∧
    ∃ k m, Interleave (fromPort .port0 (rs .port0)) (fromPort .port1 (rs .port1)) m ∧
      List.Forall₂ MemBeat.Matches (memBeats m) (memOut rs (is ++ List.replicate k .go)) := by
  obtain ⟨cur, a, u, m, h⟩ := MemFeed.inv_run rs is
  refine ⟨?_, MemFeed.finishes _ h rfl⟩
  obtain ⟨q, es, -, hes, hbeats⟩ := h.beats
  refine ⟨m ++ (fromPort .port0 (u .port0) ++ fromPort .port1 (u .port1)),
    es.take (memOut rs is).length, ?_, ?_, ?_⟩
  · have hall : ∀ p, fromPort p (rs p) = fromPort p (a p) ++ fromPort p (u p) := by
      intro p
      rw [← h.whole p, fromPort, List.map_append]
      rfl
    rw [hall, hall]
    exact h.order.extend _ _
  · have hes' : es <+: memBeats m := by
      obtain ⟨p, hp⟩ := h.alone
      rw [← Port.other_other p] at hp
      rw [← hbeats p.other hp]
      exact List.prefix_append _ _
    rw [memBeats, List.flatMap_append]
    exact (List.take_prefix _ _).trans (hes'.trans (List.prefix_append _ _))
  · have htake := List.forall₂_take (memOut rs is).length hes
    rwa [List.take_left] at htake

end ThymesisFlow
