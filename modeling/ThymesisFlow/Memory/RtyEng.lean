import Mathlib.Data.List.Perm.Basic
import ThymesisFlow.Lib.Machine
import ThymesisFlow.Memory.OcxFlit

/-!
# The retry engine

`RtyEng::RtyEngSM` (`ocx_rty_eng.cpp`) receives the commands the host wants again.  A command
annotated with the code RTY goes to `rty_jail` and sets `xlate_lock`; any other command goes
straight out and lifts the lock.  The jail is only read while no input waits and the lock is
lifted: the parameter `timeout` and the counter that were to release it are not used.

`RtyInv` says where every transaction is between two calls of the engine.  It is kept by every
call and every arrival (`rtyInv_step`), and what it says once nothing can move any more is the
condition under which the jail has been emptied (`rty_jail_emptied_iff`).
-/

namespace ThymesisFlow

/-- `smstate` of the retry engine. -/
inductive RtyState
  | START
  | DATA
  | JAIL_DATA
  deriving DecidableEq, Repr

/-- The static variables of `RtyEngSM` and the three streams it is connected to. -/
structure RtyEng where
  smstate : RtyState := .START
  rtycmd : OCxFlit := 0
  rdata : BitVec 3 := 0
  xlate_lock : Bool := false
  jaildata : Bool := false
  input_fifo : List Flit512 := []
  rty_jail : List Flit512 := []
  output_fifo : List Flit512 := []
  deriving DecidableEq, Repr

/-- `#pragma HLS STREAM variable=rty_unit_fifo_in depth=128`. -/
def rtyUnitFifoDepth : ℕ := 128

/-- `#pragma HLS STREAM variable=rty_jail depth=512`. -/
def rtyJailDepth : ℕ := 512

/-- A command read from `input_fifo` in state START. -/
def rtyReceive (s : RtyEng) (fl : Flit512) (rest : List Flit512) : Option RtyEng :=
  let rtycmd := s.rtycmd.fromOCxFlit fl
  let rdata := dataSize rtycmd.getDl
  if rtycmd.getTLxCmdRespAnno = TLRESP_CODE_RTY then
    -- a write to a full stream stalls the pipeline with the call unfinished
    if s.rty_jail.length < rtyJailDepth then
      some { s with
        rtycmd, rdata, input_fifo := rest, xlate_lock := true
        rty_jail := s.rty_jail ++ [rtycmd.toOCxFlit]
        jaildata := if rtycmd.tlxCmdIsWrite then true else s.jaildata
        smstate := if rtycmd.tlxCmdIsWrite then .DATA else .START }
    else none
  else
    some { s with
      rtycmd, rdata, input_fifo := rest, xlate_lock := false
      output_fifo := s.output_fifo ++ [rtycmd.toOCxFlit]
      jaildata := if rtycmd.tlxCmdIsWrite then false else s.jaildata
      smstate := if rtycmd.tlxCmdIsWrite then .DATA else .START }

/-- A command read from `rty_jail` in state START. -/
def rtyRelease (s : RtyEng) (fl : Flit512) (jail : List Flit512) : RtyEng :=
  let rtycmd := s.rtycmd.fromOCxFlit fl
  { s with
    rtycmd, rdata := dataSize rtycmd.getDl, rty_jail := jail
    output_fifo := s.output_fifo ++ [rtycmd.toOCxFlit]
    smstate := if rtycmd.tlxCmdIsWrite then .JAIL_DATA else .START }

/-- `rdata` and `smstate` after one more data flit. -/
def rtyCountDown (s : RtyEng) : RtyEng :=
  if s.rdata = 1 then { s with smstate := .START } else { s with rdata := s.rdata - 1 }

/-- One call of `RtyEngSM`; `none` when the call reads nothing or cannot finish a write. -/
def rtyEngSM (s : RtyEng) : Option RtyEng :=
  match s.smstate with
  | .START =>
      match s.input_fifo with
      | fl :: rest => rtyReceive s fl rest
      | [] =>
          match s.rty_jail, s.xlate_lock with
          | fl :: jail, false => some (rtyRelease s fl jail)
          | _, _ => none
  | .DATA =>
      match s.input_fifo with
      | dflt :: rest =>
          if s.jaildata then
            if s.rty_jail.length < rtyJailDepth then
              some { rtyCountDown s with input_fifo := rest, rty_jail := s.rty_jail ++ [dflt] }
            else none
          else
            some { rtyCountDown s with input_fifo := rest, output_fifo := s.output_fifo ++ [dflt] }
      | [] => none
  | .JAIL_DATA =>
      match s.rty_jail with
      | dflt :: jail =>
          some { rtyCountDown s with rty_jail := jail, output_fifo := s.output_fifo ++ [dflt] }
      | [] => none

/-! ## The engine in its surroundings -/

/-- A retried transaction: a command and, if it is a write, the data flits its length says. -/
structure RtyTxn where
  cmd : Flit512
  data : List Flit512
  data_length : data.length = if cmdIsWrite cmd then (dataSize (cmdDl cmd)).toNat else 0

namespace RtyTxn

def flits (t : RtyTxn) : List Flit512 := t.cmd :: t.data

/-- The transaction carries the code RTY. -/
def isRty (t : RtyTxn) : Bool := cmdAnno t.cmd = TLRESP_CODE_RTY

end RtyTxn

/-- The words of a list of transactions, one after the other. -/
def flitsOf (ts : List RtyTxn) : List Flit512 := ts.flatMap RtyTxn.flits

/-- The last transaction of the list carries the code RTY. -/
def lastIsRty (ts : List RtyTxn) : Bool := (ts.getLast?.map RtyTxn.isRty).getD false

/-- The engine and the words the response engine has still to write to `input_fifo`. -/
structure RtyRun where
  pending : List Flit512
  eng : RtyEng := {}
  deriving DecidableEq, Repr

/-- Who moves: the response engine writes a word, or the retry engine makes a call. -/
inductive RtyMove
  | arrive
  | engine
  deriving DecidableEq, Repr

def rtyStep (s : RtyRun) : RtyMove → RtyRun
  | .arrive =>
      match s.pending with
      | [] => s
      | fl :: pending =>
          if s.eng.input_fifo.length < rtyUnitFifoDepth then
            ⟨pending, { s.eng with input_fifo := s.eng.input_fifo ++ [fl] }⟩
          else s
  | .engine => { s with eng := (rtyEngSM s.eng).getD s.eng }

/-- The retry engine fed with the transactions `ts`, in any interleaving of arrivals and calls. -/
def rtyMachine (ts : List RtyTxn) : Machine RtyRun RtyMove where
  init := { pending := flitsOf ts }
  step := rtyStep

/-- All input has arrived and been read, and the engine has nothing more to do. -/
def RtyRun.Drained (s : RtyRun) : Prop :=
  s.pending = [] ∧ s.eng.input_fifo = [] ∧ rtyEngSM s.eng = none

instance (s : RtyRun) : Decidable s.Drained := inferInstanceAs (Decidable (_ ∧ _ ∧ _))

/-! ## Where every transaction is -/

@[simp] lemma flitsOf_nil : flitsOf [] = [] := rfl

@[simp] lemma flitsOf_cons (t : RtyTxn) (ts : List RtyTxn) :
    flitsOf (t :: ts) = t.cmd :: (t.data ++ flitsOf ts) := by
  simp [flitsOf, RtyTxn.flits]

@[simp] lemma flitsOf_append (ts us : List RtyTxn) : flitsOf (ts ++ us) = flitsOf ts ++ flitsOf us := by
  simp [flitsOf]

lemma flitsOf_eq_nil {ts : List RtyTxn} (h : flitsOf ts = []) : ts = [] := by
  cases ts with
  | nil => rfl
  | cons t ts => simp at h

@[simp] lemma lastIsRty_concat (ts : List RtyTxn) (t : RtyTxn) :
    lastIsRty (ts ++ [t]) = t.isRty := by
  simp [lastIsRty]

/-- The words that have not been read by the engine. -/
def RtyRun.inflow (s : RtyRun) : List Flit512 := s.eng.input_fifo ++ s.pending

/-- The transactions of `done` have been sorted: those with the code RTY went to the jail and leave
it in order, the others went straight out. -/
structure RtySorted (out jailed done : List RtyTxn) : Prop where
  jail : out.filter RtyTxn.isRty ++ jailed = done.filter RtyTxn.isRty
  straight : (out.filter fun t => !t.isRty) = done.filter fun t => !t.isRty

namespace RtySorted

variable {out jailed done : List RtyTxn} {t : RtyTxn}

lemma to_jail (h : RtySorted out jailed done) (ht : t.isRty = true) :
    RtySorted out (jailed ++ [t]) (done ++ [t]) where
  jail := by rw [← List.append_assoc, h.jail, List.filter_append, List.filter_singleton, ht, cond_true]
  straight := by simp [h.straight, ht]

lemma straight_out (h : RtySorted out jailed done) (ht : t.isRty = false) :
    RtySorted (out ++ [t]) jailed (done ++ [t]) where
  jail := by simp [← h.jail, ht]
  straight := by simp [h.straight, ht]

lemma release (h : RtySorted out (t :: jailed) done) : RtySorted (out ++ [t]) jailed done := by
  have hmem : t ∈ done.filter RtyTxn.isRty := by
    rw [← h.jail]
    simp
  have ht : t.isRty = true := (List.mem_filter.mp hmem).2
  exact ⟨by simp [← h.jail, ht], by simp [h.straight, ht]⟩

/-- Nothing is lost. -/
lemma perm (h : RtySorted out jailed done) : (out ++ jailed).Perm done := by
  refine List.Perm.trans ?_ (List.filter_append_perm RtyTxn.isRty done)
  rw [← h.jail, ← h.straight]
  refine ((List.filter_append_perm RtyTxn.isRty out).symm.append_right jailed).trans ?_
  rw [List.append_assoc, List.append_assoc]
  exact List.perm_append_comm.append_left _

end RtySorted

/-- Where the transactions `ts` are.  `out` have been written out, `jailed` wait in the jail,
`rest` have not been read; `done` are those read completely, in the order of the input.  Inside a
transaction `cur`, `sofar` has been moved and `todo` has not. -/
inductive RtyInv (ts : List RtyTxn) (s : RtyRun) : Prop
  | start (out jailed done rest : List RtyTxn)
      (hstate : s.eng.smstate = .START)
      (hin : s.inflow = flitsOf rest) (hjail : s.eng.rty_jail = flitsOf jailed)
      (hout : s.eng.output_fifo = flitsOf out) (hts : ts = done ++ rest)
      (hsort : RtySorted out jailed done) (hlock : s.eng.xlate_lock = lastIsRty done)
      (hjailed : lastIsRty done = true → jailed ≠ [])
  | data (out jailed done rest : List RtyTxn) (cur : RtyTxn) (sofar todo : List Flit512)
      (hstate : s.eng.smstate = .DATA) (hcur : cur.data = sofar ++ todo)
      (hcount : s.eng.rdata.toNat = todo.length) (htodo : todo ≠ [])
      (hin : s.inflow = todo ++ flitsOf rest)
      (hflag : s.eng.jaildata = cur.isRty) (hlock : s.eng.xlate_lock = cur.isRty)
      (hjail : s.eng.rty_jail
        = flitsOf jailed ++ if cur.isRty then cur.cmd :: sofar else [])
      (hout : s.eng.output_fifo = flitsOf out ++ if cur.isRty then [] else cur.cmd :: sofar)
      (hts : ts = done ++ cur :: rest) (hsort : RtySorted out jailed done)
  | jailData (out jailed done rest : List RtyTxn) (cur : RtyTxn) (sofar todo : List Flit512)
      (hstate : s.eng.smstate = .JAIL_DATA) (hcur : cur.data = sofar ++ todo)
      (hcount : s.eng.rdata.toNat = todo.length) (htodo : todo ≠ [])
      (hin : s.inflow = flitsOf rest) (hjail : s.eng.rty_jail = todo ++ flitsOf jailed)
      (hout : s.eng.output_fifo = flitsOf out ++ cur.cmd :: sofar)
      (hts : ts = done ++ rest) (hsort : RtySorted out (cur :: jailed) done)
      (hlock : s.eng.xlate_lock = false) (hlast : lastIsRty done = false)

lemma rtyInv_init (ts : List RtyTxn) : RtyInv ts (rtyMachine ts).init :=
  .start [] [] [] ts rfl rfl rfl rfl rfl ⟨rfl, rfl⟩ rfl (by simp [lastIsRty])

/-- The invariant speaks of the input only through `inflow`. -/
lemma RtyInv.congr {ts : List RtyTxn} {s s' : RtyRun} (h : RtyInv ts s)
    (hin : s'.inflow = s.inflow)
    (heng : { s'.eng with input_fifo := [] } = { s.eng with input_fifo := [] }) :
    RtyInv ts s' := by
  obtain ⟨p, e⟩ := s
  obtain ⟨p', e'⟩ := s'
  cases e; cases e'
  simp only [RtyEng.mk.injEq, true_and] at heng
  obtain ⟨rfl, rfl, rfl, rfl, rfl, rfl, rfl⟩ := heng
  cases h with
  | start out jailed done rest h1 h2 => exact .start out jailed done rest h1 (hin.trans h2) ‹_› ‹_› ‹_› ‹_› ‹_› ‹_›
  | data out jailed done rest cur sofar todo h1 h2 h3 h4 h5 =>
      exact .data out jailed done rest cur sofar todo h1 h2 h3 h4 (hin.trans h5) ‹_› ‹_› ‹_› ‹_› ‹_› ‹_›
  | jailData out jailed done rest cur sofar todo h1 h2 h3 h4 h5 =>
      exact .jailData out jailed done rest cur sofar todo h1 h2 h3 h4 (hin.trans h5) ‹_› ‹_› ‹_› ‹_› ‹_› ‹_›

lemma RtyTxn.data_eq_nil {t : RtyTxn} (h : cmdIsWrite t.cmd = false) : t.data = [] := by
  have hl := t.data_length
  simpa [h] using hl

lemma RtyTxn.data_ne_nil {t : RtyTxn} (h : cmdIsWrite t.cmd = true) : t.data ≠ [] := by
  intro h0
  have hl := t.data_length
  have hpos := dataSize_pos (cmdDl t.cmd)
  simp only [h, if_true, h0, List.length_nil] at hl
  omega

/-- The head of the words of a list of transactions is the command of its first one. -/
lemma flitsOf_eq_cons {ts : List RtyTxn} {fl : Flit512} {l : List Flit512}
    (h : fl :: l = flitsOf ts) : ∃ t us, ts = t :: us ∧ fl = t.cmd ∧ l = t.data ++ flitsOf us := by
  cases ts with
  | nil => simp at h
  | cons t us =>
      rw [flitsOf_cons, List.cons.injEq] at h
      exact ⟨t, us, rfl, h.1, h.2⟩

lemma isRty_eq {t : RtyTxn} : (cmdAnno t.cmd = TLRESP_CODE_RTY) ↔ t.isRty = true := by
  simp [RtyTxn.isRty]

/-- Reading a command keeps the invariant. -/
lemma rtyInv_receive {ts : List RtyTxn} {s : RtyRun} {e : RtyEng} {fl : Flit512}
    {tail : List Flit512} (h : RtyInv ts s) (hstate : s.eng.smstate = .START)
    (hfifo : s.eng.input_fifo = fl :: tail) (hstep : rtyReceive s.eng fl tail = some e) :
    RtyInv ts { s with eng := e } := by
  cases h with
  | data => simp_all
  | jailData => simp_all
  | start out jailed done rest _ hin hjail hout hts hsort hlock hjailed =>
      rw [RtyRun.inflow, hfifo, List.cons_append] at hin
      obtain ⟨t, us, rfl, rfl, hrest⟩ := flitsOf_eq_cons hin
      have hts' : ts = (done ++ [t]) ++ us := by simp [hts]
      simp only [rtyReceive, getTLxCmdRespAnno_fromOCxFlit, getDl_fromOCxFlit,
        tlxCmdIsWrite_fromOCxFlit, OCxFlit.toOCxFlit_fromOCxFlit, isRty_eq] at hstep
      split_ifs at hstep with hrty hroom hw hw
      -- to the jail, with data to follow
      · obtain rfl := Option.some.inj hstep
        exact .data out jailed done us t [] t.data rfl rfl
          (by simp [t.data_length, hw]) (t.data_ne_nil hw) hrest hrty.symm hrty.symm
          (by simp [hjail, hrty]) (by simp [hout, hrty]) hts hsort
      -- to the jail, without data
      · obtain rfl := Option.some.inj hstep
        have hd : t.data = [] := t.data_eq_nil (by simpa using hw)
        exact .start out (jailed ++ [t]) (done ++ [t]) us rfl
          (by simpa [hd, RtyRun.inflow] using hrest) (by simp [hjail, hd]) hout hts'
          (hsort.to_jail hrty) (by simp [hrty]) (by simp)
      -- straight out, with data to follow
      · obtain rfl := Option.some.inj hstep
        have hrty' : t.isRty = false := by simpa using hrty
        exact .data out jailed done us t [] t.data rfl rfl
          (by simp [t.data_length, hw]) (t.data_ne_nil hw) hrest hrty'.symm hrty'.symm
          (by simp [hjail, hrty']) (by simp [hout, hrty']) hts hsort
      -- straight out, without data
      · obtain rfl := Option.some.inj hstep
        have hrty' : t.isRty = false := by simpa using hrty
        have hd : t.data = [] := t.data_eq_nil (by simpa using hw)
        exact .start (out ++ [t]) jailed (done ++ [t]) us rfl
          (by simpa [hd, RtyRun.inflow] using hrest) hjail (by simp [hout, hd]) hts'
          (hsort.straight_out hrty')
          (by simp [hrty']) (by simp [hrty'])

lemma rtyCountDown_last {s : RtyEng} (h : s.rdata.toNat = 1) :
    rtyCountDown s = { s with smstate := .START } := by
  have h1 : s.rdata = 1 := by apply BitVec.eq_of_toNat_eq; simpa using h
  rw [rtyCountDown, if_pos h1]

lemma rtyCountDown_more {s : RtyEng} (h : s.rdata.toNat ≠ 1) :
    rtyCountDown s = { s with rdata := s.rdata - 1 } := by
  have h1 : s.rdata ≠ 1 := by rintro h1; simp [h1] at h
  rw [rtyCountDown, if_neg h1]

lemma rdata_pred {r : BitVec 3} (h : 0 < r.toNat) : (r - 1).toNat = r.toNat - 1 := by
  revert r; decide

/-- Reading a data flit of an arriving transaction keeps the invariant. -/
lemma rtyInv_data {ts : List RtyTxn} {s : RtyRun} {e : RtyEng} (h : RtyInv ts s)
    (hstate : s.eng.smstate = .DATA) (hstep : rtyEngSM s.eng = some e) :
    RtyInv ts { s with eng := e } := by
  cases h with
  | start => simp_all
  | jailData => simp_all
  | data out jailed done rest cur sofar todo _ hcur hcount htodo hin hflag hlock hjail hout hts hsort =>
      cases hfifo : s.eng.input_fifo with
      | nil => simp [rtyEngSM, hstate, hfifo] at hstep
      | cons fl tail =>
          obtain ⟨d, todo, rfl⟩ := List.exists_cons_of_ne_nil htodo
          rw [RtyRun.inflow, hfifo, List.cons_append, List.cons_append, List.cons.injEq] at hin
          obtain ⟨rfl, hin⟩ := hin
          have hcur' : cur.data = (sofar ++ [fl]) ++ todo := by simp [hcur]
          simp only [rtyEngSM, hstate, hfifo, hflag] at hstep
          by_cases hlast : todo = []
          · -- the last flit of the transaction
            subst hlast
            have hdata : cur.data = sofar ++ [fl] := by simpa using hcur'
            have hts' : ts = (done ++ [cur]) ++ rest := by simp [hts]
            rw [rtyCountDown_last (by simpa using hcount)] at hstep
            cases hrty : cur.isRty with
            | true =>
                rw [hrty, if_pos rfl] at hstep
                split_ifs at hstep
                obtain rfl := Option.some.inj hstep
                exact .start out (jailed ++ [cur]) (done ++ [cur]) rest rfl
                  (by simpa [RtyRun.inflow] using hin) (by simp [hjail, hrty, hdata])
                  (by simp [hout, hrty]) hts'
                  (hsort.to_jail hrty)
                  (by simp [hlock]) (by simp)
            | false =>
                rw [hrty, if_neg (by simp)] at hstep
                obtain rfl := Option.some.inj hstep
                exact .start (out ++ [cur]) jailed (done ++ [cur]) rest rfl
                  (by simpa [RtyRun.inflow] using hin) (by simp [hjail, hrty])
                  (by simp [hout, hrty, hdata]) hts'
                  (hsort.straight_out hrty)
                  (by simp [hlock]) (by simp [hrty])
          · have hlen : 0 < todo.length := List.length_pos_iff.mpr hlast
            have hne : s.eng.rdata.toNat ≠ 1 := by simp only [hcount, List.length_cons]; omega
            have hcount' : (s.eng.rdata - 1).toNat = todo.length := by
              rw [rdata_pred (by rw [hcount]; simp), hcount]; simp
            rw [rtyCountDown_more hne] at hstep
            cases hrty : cur.isRty with
            | true =>
                rw [hrty, if_pos rfl] at hstep
                split_ifs at hstep
                obtain rfl := Option.some.inj hstep
                exact .data out jailed done rest cur (sofar ++ [fl]) todo hstate hcur' hcount' hlast
                  (by simpa [RtyRun.inflow] using hin) hflag hlock
                  (by simp [hjail, hrty]) (by simp [hout, hrty]) hts hsort
            | false =>
                rw [hrty, if_neg (by simp)] at hstep
                obtain rfl := Option.some.inj hstep
                exact .data out jailed done rest cur (sofar ++ [fl]) todo hstate hcur' hcount' hlast
                  (by simpa [RtyRun.inflow] using hin) hflag hlock
                  (by simp [hjail, hrty]) (by simp [hout, hrty]) hts hsort

/-- Taking a command out of the jail keeps the invariant. -/
lemma rtyInv_release {ts : List RtyTxn} {s : RtyRun} {fl : Flit512} {jail : List Flit512}
    (h : RtyInv ts s) (hstate : s.eng.smstate = .START) (hfl : s.eng.rty_jail = fl :: jail)
    (hunlocked : s.eng.xlate_lock = false) :
    RtyInv ts { s with eng := rtyRelease s.eng fl jail } := by
  cases h with
  | data => simp_all
  | jailData => simp_all
  | start out jailed done rest _ hin hjail hout hts hsort hlock hjailed =>
      obtain ⟨t, us, rfl, rfl, hrest⟩ := flitsOf_eq_cons (hfl.symm.trans hjail)
      have hlast : lastIsRty done = false := by rw [← hlock, hunlocked]
      cases hw : cmdIsWrite t.cmd with
      | true =>
          exact .jailData out us done rest t [] t.data (by simp [rtyRelease, hw]) rfl
            (by simp [rtyRelease, t.data_length, hw]) (t.data_ne_nil hw)
            (by simpa [rtyRelease, RtyRun.inflow] using hin) (by simp [rtyRelease, hrest])
            (by simp [rtyRelease, hout]) hts hsort (by simpa [rtyRelease] using hunlocked) hlast
      | false =>
          have hd : t.data = [] := t.data_eq_nil hw
          exact .start (out ++ [t]) us done rest (by simp [rtyRelease, hw])
            (by simpa [rtyRelease, RtyRun.inflow] using hin) (by simp [rtyRelease, hrest, hd])
            (by simp [rtyRelease, hout, hd]) hts hsort.release
            (by simp [rtyRelease, hunlocked, hlast]) (by simp [hlast])

/-- Moving a data flit out of the jail keeps the invariant. -/
lemma rtyInv_jailData {ts : List RtyTxn} {s : RtyRun} {e : RtyEng} (h : RtyInv ts s)
    (hstate : s.eng.smstate = .JAIL_DATA) (hstep : rtyEngSM s.eng = some e) :
    RtyInv ts { s with eng := e } := by
  cases h with
  | start => simp_all
  | data => simp_all
  | jailData out jailed done rest cur sofar todo _ hcur hcount htodo hin hjail hout hts hsort hlock
      hlast =>
      obtain ⟨d, todo, rfl⟩ := List.exists_cons_of_ne_nil htodo
      have hcur' : cur.data = (sofar ++ [d]) ++ todo := by simp [hcur]
      simp only [rtyEngSM, hstate, hjail, List.cons_append, Option.some.injEq] at hstep
      subst hstep
      by_cases hend : todo = []
      · -- the last flit of the transaction
        subst hend
        have hdata : cur.data = sofar ++ [d] := by simpa using hcur'
        rw [rtyCountDown_last (by simpa using hcount)]
        exact .start (out ++ [cur]) jailed done rest rfl (by simpa [RtyRun.inflow] using hin)
          (by simp) (by simp [hout, hdata]) hts hsort.release (by simp [hlock, hlast])
          (by simp [hlast])
      · have hlen : 0 < todo.length := List.length_pos_iff.mpr hend
        have hne : s.eng.rdata.toNat ≠ 1 := by simp only [hcount, List.length_cons]; omega
        have hcount' : (s.eng.rdata - 1).toNat = todo.length := by
          rw [rdata_pred (by rw [hcount]; simp), hcount]; simp
        rw [rtyCountDown_more hne]
        exact .jailData out jailed done rest cur (sofar ++ [d]) todo hstate hcur' hcount' hend
          (by simpa [RtyRun.inflow] using hin) (by simp) (by simp [hout]) hts hsort hlock hlast

/-- **Every move keeps the invariant.** -/
lemma rtyInv_step {ts : List RtyTxn} {s : RtyRun} (m : RtyMove) (h : RtyInv ts s) :
    RtyInv ts (rtyStep s m) := by
  cases m with
  | arrive =>
      simp only [rtyStep]
      split
      · exact h
      · rename_i fl pending hp
        split_ifs
        · exact h.congr (by simp [RtyRun.inflow, hp]) rfl
        · exact h
  | engine =>
      cases hstep : rtyEngSM s.eng with
      | none => simpa [rtyStep, hstep] using h
      | some e =>
          rw [rtyStep, hstep, Option.getD_some]
          cases hstate : s.eng.smstate with
          | DATA => exact rtyInv_data h hstate hstep
          | JAIL_DATA => exact rtyInv_jailData h hstate hstep
          | START =>
              simp only [rtyEngSM, hstate] at hstep
              split at hstep
              · exact rtyInv_receive h hstate ‹_› hstep
              · split at hstep
                · obtain rfl := Option.some.inj hstep
                  exact rtyInv_release h hstate ‹_› ‹_›
                · simp at hstep

lemma rtyInv_run (ts : List RtyTxn) (ms : List RtyMove) : RtyInv ts ((rtyMachine ts).run ms) :=
  (rtyMachine ts).invariant_all (rtyInv_init ts) (fun _ m h => rtyInv_step m h) ms

/-! ## Every transaction leaves once -/

/-- What the engine has in hand: nothing, or a transaction it reads from the input or from the jail,
of whose data `moved` has been moved and `todo` has not. -/
inductive RtyHand
  | empty
  | reads (t : RtyTxn) (moved todo : List Flit512) (split : t.data = moved ++ todo)
  | releases (t : RtyTxn) (moved todo : List Flit512) (split : t.data = moved ++ todo)

namespace RtyHand

/-- The transaction that is being read from the input. -/
def reading : RtyHand → List RtyTxn
  | reads t _ _ _ => [t]
  | _ => []

/-- The transaction that is being read from the jail. -/
def releasing : RtyHand → List RtyTxn
  | releases t _ _ _ => [t]
  | _ => []

/-- Its words that are still in the input. -/
def unread : RtyHand → List Flit512
  | reads _ _ todo _ => todo
  | _ => []

/-- Its words that are still at the front of the jail. -/
def unreleased : RtyHand → List Flit512
  | releases _ _ todo _ => todo
  | _ => []

/-- Its words that have been put into the jail. -/
def jailed : RtyHand → List Flit512
  | reads t moved _ _ => if t.isRty then t.cmd :: moved else []
  | _ => []

/-- Its words that have been written out. -/
def out : RtyHand → List Flit512
  | empty => []
  | reads t moved _ _ => if t.isRty then [] else t.cmd :: moved
  | releases t moved _ _ => t.cmd :: moved

end RtyHand

/-- Where the transactions are, word for word: `out` written out, `jailed` in the jail, one in hand,
`rest` unread; `done` have been read.  The jail is left in the order it was entered, and what does
not enter it keeps the order of the input. -/
structure RtyPlaced (ts : List RtyTxn) (s : RtyRun) (out jailed done rest : List RtyTxn)
    (hand : RtyHand) : Prop where
  read : ts = done ++ (hand.reading ++ rest)
  input : s.inflow = hand.unread ++ flitsOf rest
  jail : s.eng.rty_jail = hand.unreleased ++ flitsOf jailed ++ hand.jailed
  output : s.eng.output_fifo = flitsOf out ++ hand.out
  sorted : RtySorted out (hand.releasing ++ jailed) done
  kept : (out ++ (hand.releasing ++ jailed)).Perm done

/-- **The retry engine conserves transactions.**  After every interleaving of arrivals and calls, every
transaction that has been read is in exactly one place, with its own data behind it. -/
theorem rty_conserved (ts : List RtyTxn) (ms : List RtyMove) :
    ∃ out jailed done rest hand,
      RtyPlaced ts ((rtyMachine ts).run ms) out jailed done rest hand := by
  generalize hs : (rtyMachine ts).run ms = s
  have hinv := rtyInv_run ts ms
  rw [hs] at hinv
  cases hinv with
  | start out jailed done rest hstate hin hjail hout hts hsort =>
      exact ⟨out, jailed, done, rest, .empty, hts, hin, by simpa [RtyHand.unreleased, RtyHand.jailed],
        by simpa [RtyHand.out], hsort, hsort.perm⟩
  | data out jailed done rest cur sofar todo hstate hcur _ _ hin _ _ hjail hout hts hsort =>
      exact ⟨out, jailed, done, rest, .reads cur sofar todo hcur, hts, hin, hjail, hout, hsort,
        hsort.perm⟩
  | jailData out jailed done rest cur sofar todo hstate hcur _ _ hin hjail hout hts hsort =>
      exact ⟨out, jailed, done, rest, .releases cur sofar todo hcur, hts, hin,
        by simpa [RtyHand.unreleased, RtyHand.jailed], hout, hsort, hsort.perm⟩

/-! ## When the jail has been emptied -/

/-- With the input drained the engine stands in START with everything read, and it stops there
only with an empty jail or the lock set. -/
lemma rtyInv_drained {ts : List RtyTxn} {s : RtyRun} (h : RtyInv ts s) (hd : s.Drained) :
    ∃ out jailed, s.eng.rty_jail = flitsOf jailed ∧ s.eng.output_fifo = flitsOf out ∧
      (out ++ jailed).Perm ts ∧ (jailed = [] ↔ lastIsRty ts = false) := by
  obtain ⟨hpending, hinput, hstop⟩ := hd
  cases h with
  | data out jailed done rest cur sofar todo _ _ _ htodo hin =>
      rw [RtyRun.inflow, hpending, hinput] at hin
      exact absurd (List.append_eq_nil_iff.mp hin.symm).1 htodo
  | jailData out jailed done rest cur sofar todo hstate _ _ htodo _ hjail =>
      obtain ⟨d, todo, rfl⟩ := List.exists_cons_of_ne_nil htodo
      simp [rtyEngSM, hstate, hjail] at hstop
  | start out jailed done rest hstate hin hjail hout hts hsort hlock hjailed =>
      rw [RtyRun.inflow, hpending, hinput] at hin
      obtain rfl := flitsOf_eq_nil hin.symm
      rw [List.append_nil] at hts
      subst hts
      refine ⟨out, jailed, hjail, hout, hsort.perm, ?_, ?_⟩
      · intro hempty
        cases hl : lastIsRty ts with
        | false => rfl
        | true => exact absurd hempty (hjailed hl)
      · intro hl
        cases jailed with
        | nil => rfl
        | cons t us => simp [rtyEngSM, hstate, hinput, hjail, hlock, hl] at hstop

/-- What the retry path owes once it has come to rest: an empty jail, and every transaction
written out with its own data behind it. -/
def RtyAllReissued (ts : List RtyTxn) (s : RtyRun) : Prop :=
  s.eng.rty_jail = [] ∧ ∃ out, out.Perm ts ∧ s.eng.output_fifo = flitsOf out

/-- **The jail has been emptied exactly when no command with the code RTY came last.**  For every
sequence of retried transactions and every interleaving of arrivals and calls after which the
input is drained and the engine has nothing more to do. -/
theorem rty_jail_emptied_iff (ts : List RtyTxn) (ms : List RtyMove)
    (hd : ((rtyMachine ts).run ms).Drained) :
    RtyAllReissued ts ((rtyMachine ts).run ms) ↔ lastIsRty ts = false := by
  obtain ⟨out, jailed, hjail, hout, hperm, hiff⟩ := rtyInv_drained (rtyInv_run ts ms) hd
  rw [← hiff]
  constructor
  · rintro ⟨hempty, -⟩
    exact flitsOf_eq_nil (hjail.symm.trans hempty)
  · rintro rfl
    exact ⟨hjail, out, by simpa using hperm, hout⟩

/-- A 64 byte read the host answered with the code RTY. -/
def rtyRead : RtyTxn where
  cmd := setField 0 313 (2 : BitVec 6)
  data := []
  data_length := by decide +kernel

/-- A 64 byte write whose address translation is done, with its data flit. -/
def xlateDoneWrite : RtyTxn where
  cmd := setField 0 504 (0x20 : BitVec 8)
  data := [7]
  data_length := by decide +kernel

theorem rty_jail_emptied_iff_xlateDone :
    RtyAllReissued [rtyRead, xlateDoneWrite]
        ((rtyMachine [rtyRead, xlateDoneWrite]).run
          [.arrive, .engine, .arrive, .arrive, .engine, .engine, .engine])
      ↔ lastIsRty [rtyRead, xlateDoneWrite] = false :=
  rty_jail_emptied_iff [rtyRead, xlateDoneWrite]
    [.arrive, .engine, .arrive, .arrive, .engine, .engine, .engine] (by decide +kernel)

/-- A single read with the code RTY goes to the jail and stays there. -/
theorem rty_jail_stranded :
    ((rtyMachine [rtyRead]).run [.arrive, .engine]).Drained ∧
      ¬ RtyAllReissued [rtyRead] ((rtyMachine [rtyRead]).run [.arrive, .engine]) ∧
      ((rtyMachine [rtyRead]).run [.arrive, .engine]).eng.rty_jail = [rtyRead.cmd] := by
  have hjail : ((rtyMachine [rtyRead]).run [.arrive, .engine]).eng.rty_jail = [rtyRead.cmd] := by
    decide +kernel
  refine ⟨by decide +kernel, ?_, hjail⟩
  rintro ⟨hempty, -⟩
  rw [hjail] at hempty
  exact List.cons_ne_nil _ _ hempty

/-! ## The engine comes to rest -/

/-- How far the words still have to travel: in from the response engine, through the engine, and
possibly out of the jail. -/
def RtyRun.distance (s : RtyRun) : ℕ :=
  3 * s.pending.length + 2 * s.eng.input_fifo.length + s.eng.rty_jail.length

lemma rtyReceive_distance {s e : RtyEng} {fl : Flit512} {tail : List Flit512}
    (h : rtyReceive s fl tail = some e) :
    e.input_fifo = tail ∧ e.rty_jail.length ≤ s.rty_jail.length + 1 := by
  simp only [rtyReceive] at h
  split_ifs at h <;> obtain rfl := Option.some.inj h <;> simp

lemma rtyCountDown_streams (s : RtyEng) :
    (rtyCountDown s).input_fifo = s.input_fifo ∧ (rtyCountDown s).rty_jail = s.rty_jail := by
  rw [rtyCountDown]
  split <;> exact ⟨rfl, rfl⟩

lemma rtyEngSM_distance {s e : RtyEng} (h : rtyEngSM s = some e) :
    2 * e.input_fifo.length + e.rty_jail.length < 2 * s.input_fifo.length + s.rty_jail.length := by
  simp only [rtyEngSM] at h
  split at h
  · split at h
    · obtain ⟨h1, h2⟩ := rtyReceive_distance h
      simp only [h1, ‹s.input_fifo = _›, List.length_cons]
      omega
    · split at h
      · obtain rfl := Option.some.inj h
        simp [rtyRelease, *]
      · simp at h
  · split at h
    · split_ifs at h
      all_goals
        obtain rfl := Option.some.inj h
        simp [(rtyCountDown_streams s).2, *] <;> omega
    · simp at h
  · split at h
    · obtain rfl := Option.some.inj h
      simp [(rtyCountDown_streams s).1, *]
    · simp at h

/-- **No run goes on for ever**: a move either changes nothing or brings the words nearer to their
end, so after at most three moves for every word only idle moves are left. -/
theorem rtyStep_distance (s : RtyRun) (m : RtyMove) :
    rtyStep s m = s ∨ (rtyStep s m).distance < s.distance := by
  cases m with
  | arrive =>
      simp only [rtyStep]
      split
      · exact Or.inl rfl
      · rename_i fl pending hp
        split_ifs
        · right
          simp only [RtyRun.distance, hp, List.length_append, List.length_cons, List.length_nil]
          omega
        · exact Or.inl rfl
  | engine =>
      cases h : rtyEngSM s.eng with
      | none => left; simp [rtyStep, h]
      | some e =>
          right
          have hlt := rtyEngSM_distance h
          simp only [rtyStep, h, Option.getD_some, RtyRun.distance]
          omega

end ThymesisFlow
