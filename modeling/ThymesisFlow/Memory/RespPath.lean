import ThymesisFlow.Lib.Machine
import ThymesisFlow.Lib.RowFifo
import ThymesisFlow.Memory.RespEng

/-!
# The way of a response through the memory node

A response of the TLX goes through `mem_respfifo` (MRFF), the lookup stage and the TL response FIFO to
the response engine; its data is asked for when the response arrives and waits in a FIFO of its own.
Nothing holds the data back, so what bounds it are the credits for MRFF and a watermark on the
TL response FIFO.
-/

namespace ThymesisFlow

/-! ## `mem_respfifo` -/

structure MemRespFifo where
  cmdfifo : RowFifo TlResp := ⟨fun _ => 0, 0, 0, 0⟩
  resync_credits_dly_q : BitVec 8 := 0xFF
  initial_credits : BitVec 4 := 8
  cmd_credit_to_TLX_q : Bool := false

/-- The wires of one cycle. -/
structure MemRespFifoIn where
  resync_credits : Bool
  tlx_is_ready : Bool
  network_ready : Bool
  cmd_in : Option TlResp
  cmd_tready : Bool

namespace MemRespFifo

variable (s : MemRespFifo) (i : MemRespFifoIn)

/-- The oldest entry is handed over. -/
def pops : Bool := i.cmd_tready && s.cmdfifo.valid && i.network_ready

def ok_to_send_credits : Bool := s.resync_credits_dly_q = 0

/-- An initial credit may be sent. -/
def initialDue : Bool := decide (0 < s.initial_credits) && s.ok_to_send_credits

def nextInitialCredits : BitVec 4 :=
  if i.resync_credits then 8
  else if !i.tlx_is_ready then s.initial_credits
  -- the source does not look at `network_ready` here
  else if i.cmd_tready && s.cmdfifo.valid && 0 < s.initial_credits then s.initial_credits
  else if s.initialDue then s.initial_credits - 1
  else s.initial_credits

def step : MemRespFifo where
  cmdfifo := s.cmdfifo.step i.cmd_in.isSome i.cmd_in (s.pops i)
  resync_credits_dly_q := BitVec.ofBool i.resync_credits ++ (field s.resync_credits_dly_q 1 7)
  initial_credits := s.nextInitialCredits i
  cmd_credit_to_TLX_q := !i.resync_credits && i.tlx_is_ready && (s.pops i || s.initialDue)

end MemRespFifo

/-! ## The path -/

/-- The TLX gives data with the response: `tlx_afu_resp_opcode[2] & ~tlx_afu_resp_opcode[0]`. -/
def TlResp.hasData (r : TlResp) : Bool := bit r.opcode 2 && !bit r.opcode 0

/-- The number of data flits of a response. -/
def TlResp.dataFlits (r : TlResp) : ℕ := if r.hasData then (dataSize r.dl).toNat else 0

/-- The TLX keeps `tlx_data`, the data it has not been asked for, and `owed`, the data it has been
asked for and has not delivered.  `lookup` are the responses in the lookup stage. -/
structure RespPath where
  tlx_credits : ℕ := 0
  tlx_data : List OCxFlit := []
  owed : List OCxFlit := []
  mrff : MemRespFifo := {}
  afu_tlx_resp_rd_cnt : BitVec 3 := 0
  afu_tlx_resp_rd_req : Bool := false
  lookup : List TlResp := []
  tl_fifo_resp : List RespCombo := []
  tl_fifo_data : List OCxFlit := []
  resp : RespEng := {}

/-- The choices of one cycle: what the TLX sends and delivers, whether the lookup stage takes a
response or hands one on, with what it and the engine find in the lookup BRAMs, and whether a call
of the engine finishes. -/
structure RespPathIn where
  resync_credits : Bool := false
  tlx_afu_ready : Bool := true
  answer : Option (TlResp × List OCxFlit) := none
  deliver : Bool := true
  tl_resp_early_fifo_cnt : BitVec 32 := 0
  tl_resp_tready : Bool := true
  load : Bool := true
  cmdlookup : Tag → StoredCmd := fun _ => 0
  call : Bool := true
  enable : Bool := true
  data0lookup : Tag → Flit512 := fun _ => 0
  data1lookup : Tag → Flit512 := fun _ => 0

/-- A word of the streams that the engine reads. -/
inductive RespWord
  | resp (r : TlResp)
  | data (d : OCxFlit)
  deriving DecidableEq, Repr

namespace RespPath

variable (s : RespPath) (i : RespPathIn)

/-- `FIFO_THRES`. -/
def FIFO_THRES : BitVec 11 := 0x14

/-- `network_resp_ready`. -/
def network_resp_ready (i : RespPathIn) : Bool := ¬ FIFO_THRES < field i.tl_resp_early_fifo_cnt 0 11

def mrffWires (i : RespPathIn) : MemRespFifoIn where
  resync_credits := i.resync_credits
  tlx_is_ready := i.tlx_afu_ready
  network_ready := network_resp_ready i
  cmd_in := i.answer.map Prod.fst
  cmd_tready := i.tl_resp_tready

/-- The data flits that are asked for in this cycle. -/
def asked : ℕ := if s.afu_tlx_resp_rd_req then s.afu_tlx_resp_rd_cnt.toNat else 0

/-- `afu_tlx_resp_rd_cnt` and `afu_tlx_resp_rd_req`. -/
def nextRd (i : RespPathIn) : BitVec 3 × Bool :=
  match i.answer with
  | some (r, _) => if r.hasData then (dataSize r.dl, true) else (0, false)
  | none => (0, false)

/-- What the lookup stage takes from MRFF. -/
def handed : List TlResp := if s.mrff.pops (mrffWires i) then [s.mrff.cmdfifo.head] else []

/-- What the lookup stage hands on. -/
def loaded : List RespCombo :=
  if i.load then (s.lookup.head?.map (CmdFifoLoad.cmdFifoLoadSM i.cmdlookup)).toList else []

/-- The call of the engine in this cycle. -/
def engine : Option ((RespEng × RespWrites) × List RespCombo × List OCxFlit) :=
  if i.call then
    s.resp.call i.enable s.tl_fifo_resp s.tl_fifo_data i.data0lookup i.data1lookup
  else none

/-- The engine and its two input FIFOs after the call. -/
def called : RespEng × List RespCombo × List OCxFlit :=
  match s.engine i with
  | some (e, resps, data) => (e.1, resps, data)
  | none => (s.resp, s.tl_fifo_resp, s.tl_fifo_data)

def step : RespPath where
  tlx_credits := if i.resync_credits then 0
    else s.tlx_credits + s.mrff.cmd_credit_to_TLX_q.toNat - i.answer.isSome.toNat
  tlx_data := s.tlx_data.drop s.asked ++ (i.answer.map Prod.snd).getD []
  owed := (if i.deliver then s.owed.tail else s.owed) ++ s.tlx_data.take s.asked
  mrff := s.mrff.step (mrffWires i)
  afu_tlx_resp_rd_cnt := (nextRd i).1
  afu_tlx_resp_rd_req := (nextRd i).2
  lookup := (if i.load then s.lookup.tail else s.lookup) ++ s.handed i
  tl_fifo_resp := (s.called i).2.1 ++ s.loaded i
  tl_fifo_data := (s.called i).2.2 ++ if i.deliver then s.owed.head?.toList else []
  resp := (s.called i).1

/-- What the TLX sends. -/
def sent (_ : RespPath) (i : RespPathIn) : List RespWord :=
  match i.answer with
  | some (r, data) => .resp r :: data.map .data
  | none => []

/-- What the engine reads. -/
def reads : List RespWord :=
  match s.engine i with
  | some _ =>
      match s.resp.smstate with
      | .INIT => []
      | .GET_CMD => (s.tl_fifo_resp.head?.map fun c => .resp (field c 215 38)).toList
      | .GET_DATA =>
          if s.resp.respdataflag then (s.tl_fifo_data.head?.map .data).toList else []
  | none => []

end RespPath

def respPath : Machine RespPath RespPathIn := ⟨{}, RespPath.step⟩

/-- The condition on a cycle.  The TLX sends a response against a credit, after the initial credits
and with at most two data flits; the credits are not resynchronised while a response waits in MRFF.
The lookup stage holds at most eight responses, and the count of the TL response FIFO may lack its
last two entries. -/
structure RespPathOk (s : RespPath) (i : RespPathIn) : Prop where
  credit : i.answer.isSome = true → 0 < s.tlx_credits ∧ s.mrff.initial_credits = 0
  data : ∀ x ∈ i.answer, x.2.length = x.1.dataFlits ∧ x.2.length ≤ 2
  resync : i.resync_credits = true → i.answer = none ∧ s.mrff.cmdfifo.val = 0
  lookup : (s.step i).lookup.length ≤ 8
  count : s.tl_fifo_resp.length ≤ (field i.tl_resp_early_fifo_cnt 0 11).toNat + 2

instance (s : RespPath) (i : RespPathIn) : Decidable (RespPathOk s i) :=
  decidable_of_iff ((i.answer.isSome = true → 0 < s.tlx_credits ∧ s.mrff.initial_credits = 0) ∧
    (∀ x ∈ i.answer, x.2.length = x.1.dataFlits ∧ x.2.length ≤ 2) ∧
    (i.resync_credits = true → i.answer = none ∧ s.mrff.cmdfifo.val = 0) ∧
    (s.step i).lookup.length ≤ 8 ∧
    s.tl_fifo_resp.length ≤ (field i.tl_resp_early_fifo_cnt 0 11).toNat + 2)
    ⟨fun ⟨h1, h2, h3, h4, h5⟩ => ⟨h1, h2, h3, h4, h5⟩, fun h => ⟨h.1, h.2, h.3, h.4, h.5⟩⟩

/-! ## The credits -/

namespace MemRespFifo

variable {s : MemRespFifo} {i : MemRespFifoIn} {xs : List TlResp}

lemma pops_ne_nil (h : s.cmdfifo.Holds xs) (hp : s.pops i = true) : xs ≠ [] := by
  rw [pops, h.valid_eq, Bool.and_eq_true, Bool.and_eq_true] at hp
  rintro rfl
  exact absurd hp.1.2 Bool.false_ne_true

lemma initialDue_zero (h : s.initial_credits = 0) : s.initialDue = false := by
  rw [initialDue, h]
  rfl

/-- A credit is in one place: with the TLX, on its way, not yet sent, or used for an entry.  Before
the initial credits have been sent there is no entry. -/
structure Credits (s : MemRespFifo) (credits : ℕ) (xs : List TlResp) : Prop where
  total : credits + s.cmd_credit_to_TLX_q.toNat + s.initial_credits.toNat + xs.length ≤ 8
  initial : s.initial_credits ≠ 0 → xs = []

/-- The entries after a cycle. -/
def entriesAfter (s : MemRespFifo) (i : MemRespFifoIn) (xs : List TlResp) : List TlResp :=
  (if s.pops i then xs.tail else xs) ++ i.cmd_in.toList

lemma length_entriesAfter (h : s.cmdfifo.Holds xs) (i : MemRespFifoIn) :
    (entriesAfter s i xs).length + (s.pops i).toNat = xs.length + i.cmd_in.isSome.toNat := by
  have hin : i.cmd_in.toList.length = i.cmd_in.isSome.toNat := by cases i.cmd_in <;> rfl
  rw [entriesAfter, List.length_append, hin]
  cases hp : s.pops i with
  | false => rfl
  | true =>
      have hpos := List.length_pos_iff.mpr (pops_ne_nil h hp)
      rw [if_pos rfl, List.length_tail]
      change _ + 1 = _
      omega

/-- One cycle of the rows. -/
lemma holds_entriesAfter (h : s.cmdfifo.Holds xs) (hpush : i.cmd_in.isSome = true → xs.length < 8) :
    (s.step i).cmdfifo.Holds (entriesAfter s i xs) := by
  have hq := h.step i.cmd_in.isSome (s.pops i) i.cmd_in (i.cmd_in.getD 0)
    (fun hx => by
      obtain ⟨r, hr⟩ := Option.isSome_iff_exists.mp hx
      rw [hr]
      rfl)
    hpush (pops_ne_nil h)
  have hin : (if i.cmd_in.isSome = true then [i.cmd_in.getD 0] else []) = i.cmd_in.toList := by
    cases i.cmd_in <;> rfl
  rwa [hin] at hq

/-- The credits after a cycle in which the TLX has used one if it has sent a response. -/
lemma Credits.step {credits : ℕ} (hc : s.Credits credits xs) (h : s.cmdfifo.Holds xs)
    (hsend : i.cmd_in.isSome = true → 0 < credits ∧ s.initial_credits = 0)
    (hresync : i.resync_credits = true → i.cmd_in = none ∧ xs = []) :
    (s.step i).Credits (if i.resync_credits then 0
      else credits + s.cmd_credit_to_TLX_q.toNat - i.cmd_in.isSome.toNat) (entriesAfter s i xs) := by
  have hlen := length_entriesAfter h i
  have htotal := hc.total
  by_cases hr : i.resync_credits = true
  · obtain ⟨hin, rfl⟩ := hresync hr
    have hafter : entriesAfter s i [] = [] := by
      rw [entriesAfter, hin]
      split <;> rfl
    have hq : (s.step i).cmd_credit_to_TLX_q = false := by rw [MemRespFifo.step, hr]; rfl
    have hinit : (s.step i).initial_credits = 8 := by
      rw [MemRespFifo.step, nextInitialCredits, hr, if_pos rfl]
    refine ⟨?_, fun _ => hafter⟩
    rw [hafter, hq, hinit, hr, if_pos rfl]
    decide
  · have hr0 : i.resync_credits = false := eq_false_of_ne_true hr
    have hq : (s.step i).cmd_credit_to_TLX_q = (i.tlx_is_ready && (s.pops i || s.initialDue)) := by
      rw [MemRespFifo.step, hr0]
      rfl
    have hinit : (s.step i).initial_credits = s.nextInitialCredits i := rfl
    rw [if_neg hr]
    by_cases hzero : s.initial_credits = 0
    · have hnext : s.nextInitialCredits i = 0 := by
        rw [nextInitialCredits, if_neg hr, initialDue_zero hzero, hzero]
        simp
      have hsent : i.cmd_in.isSome.toNat ≤ credits := by
        cases hs : i.cmd_in.isSome with
        | false => exact Nat.zero_le _
        | true => exact (hsend hs).1
      have hq' : (s.step i).cmd_credit_to_TLX_q.toNat ≤ (s.pops i).toNat := by
        rw [hq, initialDue_zero hzero, Bool.or_false]
        cases i.tlx_is_ready <;> cases s.pops i <;> decide
      rw [hzero] at htotal
      refine ⟨?_, fun hx => absurd (hinit.trans hnext) hx⟩
      rw [hinit, hnext]
      change _ + 0 + _ ≤ 8 at htotal
      change _ + 0 + _ ≤ 8
      omega
    · obtain rfl := hc.initial hzero
      have hpops : s.pops i = false := eq_false_of_ne_true fun hp => pops_ne_nil h hp rfl
      have hin : i.cmd_in = none := by
        cases hs : i.cmd_in with
        | none => rfl
        | some r => exact absurd (hsend (by rw [hs]; rfl)).2 hzero
      have hafter : entriesAfter s i [] = [] := by rw [entriesAfter, hpops, hin]; rfl
      have hvalid : s.cmdfifo.valid = false := by rw [h.valid_eq]; rfl
      have hpos : 0 < s.initial_credits.toNat :=
        Nat.pos_of_ne_zero fun hx => hzero (BitVec.eq_of_toNat_eq hx)
      refine ⟨?_, fun _ => hafter⟩
      rw [hafter, hq, hinit, hpops, hin, Bool.false_or, nextInitialCredits, if_neg hr, hvalid]
      cases i.tlx_is_ready with
      | false =>
          simp only [Bool.not_false, if_true, Bool.false_and, Bool.toNat_false, Option.isSome_none,
            List.length_nil] at htotal ⊢
          omega
      | true =>
          cases hdue : s.initialDue with
          | false => simpa using htotal
          | true =>
              have hsub : (s.initial_credits - 1).toNat = s.initial_credits.toNat - 1 := by
                rw [BitVec.toNat_sub]
                change (16 - 1 + _) % 16 = _
                have := s.initial_credits.isLt
                omega
              simp only [Bool.not_true, Bool.false_eq_true, if_false, Bool.and_false, Bool.false_and,
                if_true, Bool.and_self, Bool.toNat_true, hsub, Option.isSome_none, Bool.toNat_false,
                List.length_nil] at htotal ⊢
              omega

end MemRespFifo

/-! ## What the engine reads -/

lemma bit_ofBools (a b c : Bool) :
    bit (BitVec.ofBool a ++ BitVec.ofBool b ++ BitVec.ofBool c) 0 = c ∧
      bit (BitVec.ofBool a ++ BitVec.ofBool b ++ BitVec.ofBool c) 1 = b := by
  revert a b c
  decide

/-- The branch of the engine and the request for the data go by the same bits of the opcode. -/
lemma bit_respState (op : BitVec 8) (code : BitVec 4) :
    bit (respState op code) 0 = ((bit op 0 && code = TLRESP_CODE_RTY) || op = TL_XLATE_DONE) ∧
      bit (respState op code) 1 = (bit op 2 && !bit op 0) :=
  bit_ofBools _ _ _

/-- A response with data is no retry. -/
lemma TlResp.hasData_branch {r : TlResp} (h : r.hasData = true) :
    bit (respState r.opcode r.code) 0 = false := by
  rw [TlResp.hasData, Bool.and_eq_true, Bool.not_eq_true'] at h
  rw [(bit_respState _ _).1, h.2, Bool.false_and, Bool.false_or, decide_eq_false_iff_not]
  intro hop
  rw [hop] at h
  exact absurd h.1 (by decide)

/-- A response and its data, as the engine reads them. -/
def respWords (x : TlResp × List OCxFlit) : List RespWord := .resp x.1 :: x.2.map .data

namespace RespEng

/-- The engine waits for data of the host. -/
def Waits (e : RespEng) : Prop := e.smstate = .GET_DATA ∧ e.respdataflag = true

/-- What the engine has still to read: `cur` for the response it is at, and `xs` in the FIFO, with at
most `n` data flits each. -/
structure Reading (n : ℕ) (e : RespEng) (resps : List RespCombo) (cur : List OCxFlit)
    (xs : List (TlResp × List OCxFlit)) : Prop where
  resps : resps.map (fun c => field c 215 38) = xs.map Prod.fst
  waiting : e.Waits → cur.length = e.cdata.toNat ∧ cur ≠ []
  idle : ¬ e.Waits → cur = []
  le : cur.length ≤ n
  sized : ∀ x ∈ xs, x.2.length = x.1.dataFlits ∧ x.2.length ≤ n

/-- What the engine has read after the call that leads to `xs'` and `cur'`. -/
structure Read (words : List RespWord) (cur cur' : List OCxFlit)
    (xs xs' : List (TlResp × List OCxFlit)) (data data' : List OCxFlit) : Prop where
  words : cur.map .data ++ xs.flatMap respWords
    = words ++ (cur'.map .data ++ xs'.flatMap respWords)
  data : ∀ post post', cur ++ xs.flatMap Prod.snd ++ post = data ++ post' →
    cur' ++ xs'.flatMap Prod.snd ++ post = data' ++ post'
  le : xs'.length ≤ xs.length

lemma Read.refl (cur : List OCxFlit) (xs : List (TlResp × List OCxFlit)) (data : List OCxFlit) :
    Read [] cur cur xs xs data data :=
  ⟨rfl, fun _ _ h => h, le_refl _⟩

/-- A response was read. -/
lemma Read.ofResp (r : TlResp) (ds data : List OCxFlit) (xs : List (TlResp × List OCxFlit)) :
    Read [.resp r] [] ds ((r, ds) :: xs) xs data data :=
  ⟨rfl, fun _ _ heq => heq, Nat.le_succ _⟩

/-- A data flit was read. -/
lemma Read.ofData (d : OCxFlit) (cur data : List OCxFlit) (xs : List (TlResp × List OCxFlit)) :
    Read [.data d] (d :: cur) cur xs xs (d :: data) data :=
  ⟨rfl, fun _ _ heq => (List.cons.inj heq).2, le_refl _⟩

variable {n : ℕ} {e : RespEng} {c : RespCombo} {resps : List RespCombo} {cur data : List OCxFlit}
  {xs : List (TlResp × List OCxFlit)}

lemma not_waits {e : RespEng} (hsm : e.smstate ≠ .GET_DATA ∨ e.respdataflag = false) : ¬ e.Waits := by
  rintro ⟨hx, hflag⟩
  rcases hsm with hsm | hsm
  · exact hsm hx
  · rw [hflag] at hsm
    cases hsm

/-- State INIT: nothing is read. -/
lemma Reading.initTag (h : Reading n e resps cur xs) (hw : ¬ e.Waits) :
    Reading n e.initTag.1 resps cur xs := by
  have hw' : ¬ e.initTag.1.Waits := by
    refine not_waits (.inl ?_)
    change (if e.capptag_count = 0x200 then RespState.GET_CMD else .INIT) ≠ .GET_DATA
    split <;> decide
  exact ⟨h.resps, fun hx => absurd hx hw', fun _ => h.idle hw, h.le, h.sized⟩

/-- State GET_CMD: a response is read, and the engine waits for its data. -/
lemma Reading.getCmd (h : Reading n e (c :: resps) cur xs) (hw : ¬ e.Waits) :
    ∃ ds xs', xs = (field c 215 38, ds) :: xs' ∧ Reading n (e.getCmd c).1 resps ds xs' := by
  obtain ⟨⟨r, ds⟩, xs', rfl⟩ : ∃ x xs', xs = x :: xs' := by
    cases xs with
    | nil => exact absurd h.resps (by simp)
    | cons x xs' => exact ⟨x, xs', rfl⟩
  have hmap := h.resps
  rw [List.map_cons, List.map_cons, List.cons.injEq] at hmap
  obtain ⟨hr, hrest⟩ := hmap
  change field c 215 38 = r at hr
  obtain ⟨hlen, hle⟩ := h.sized (r, ds) List.mem_cons_self
  have hsized : ∀ x ∈ xs', x.2.length = x.1.dataFlits ∧ x.2.length ≤ n :=
    fun x hx => h.sized x (List.mem_cons_of_mem _ hx)
  refine ⟨ds, xs', by rw [hr], hrest, ?_, ?_, hle, hsized⟩
  all_goals
    rw [getCmd_eq, comboState, hr]
  · intro hwait
    by_cases h0 : bit (respState (TlResp.opcode r) (TlResp.code r)) 0 = true
    · rw [if_pos h0] at hwait
      obtain ⟨hsm, hflag⟩ := hwait
      by_cases hw196 : bit c 196 = true
      · simp [hw196] at hflag
      · simp [hw196] at hsm
    · rw [if_neg h0] at hwait ⊢
      by_cases h1 : bit (respState (TlResp.opcode r) (TlResp.code r)) 1 = true
      · have hdata : r.hasData = true := by rw [TlResp.hasData, ← (bit_respState _ _).2]; exact h1
        have hflits : ds.length = (dataSize r.dl).toNat := by
          rw [hlen, TlResp.dataFlits, if_pos hdata]
        rw [if_pos h1]
        refine ⟨hflits, fun hnil => ?_⟩
        have hpos := dataSize_pos r.dl
        rw [← hflits, hnil] at hpos
        exact absurd hpos (Nat.lt_irrefl 0)
      · exfalso
        rw [if_neg h1] at hwait
        refine hw ?_
        split at hwait
        · exact hwait
        · exact hwait
  · intro hwait
    by_contra hne
    have hdata : r.hasData = true := by
      by_contra hd
      rw [TlResp.dataFlits, if_neg hd] at hlen
      exact hne (List.length_eq_zero_iff.mp hlen)
    have h1 : bit (respState (TlResp.opcode r) (TlResp.code r)) 1 = true := by
      rw [(bit_respState _ _).2]
      exact hdata
    rw [if_neg (by rw [TlResp.hasData_branch hdata]; exact Bool.false_ne_true), if_pos h1] at hwait
    exact hwait ⟨rfl, rfl⟩

/-- State GET_DATA: data of the host is read. -/
lemma Reading.getHostData {d : OCxFlit} (h : Reading n e resps cur xs) (hw : e.Waits)
    (hdata : ∃ post post', cur ++ xs.flatMap Prod.snd ++ post = d :: data ++ post') :
    ∃ cur', cur = d :: cur' ∧ Reading n (e.getHostData d).1 resps cur' xs := by
  obtain ⟨hlen, hne⟩ := h.waiting hw
  obtain ⟨x, cur', rfl⟩ := List.exists_cons_of_ne_nil hne
  obtain rfl : x = d := by
    obtain ⟨post, post', heq⟩ := hdata
    exact (List.cons.inj heq).1
  have hle := h.le
  rw [List.length_cons] at hlen hle
  refine ⟨cur', rfl, h.resps, ?_, ?_, by omega, h.sized⟩
  · rw [RespEng.getHostData]
    intro hwait
    by_cases hone : e.cdata = 1
    · rw [if_neg (not_not_intro hone)] at hwait
      exact absurd (show RespState.GET_CMD = .GET_DATA from hwait.1) (by decide)
    · rw [if_pos hone]
      have hsub : (e.cdata - 1).toNat = e.cdata.toNat - 1 := by
        have := e.cdata.isLt
        rw [BitVec.toNat_sub]
        change (8 - 1 + _) % 8 = _
        omega
      have hnat : e.cdata.toNat ≠ 1 := fun hx => hone (BitVec.eq_of_toNat_eq hx)
      refine ⟨?_, fun hnil => ?_⟩
      · change cur'.length = (e.cdata - 1).toNat
        omega
      · rw [hnil] at hlen
        exact hnat hlen.symm
  · rw [RespEng.getHostData]
    intro hwait
    by_cases hone : e.cdata = 1
    · rw [hone] at hlen
      exact List.length_eq_zero_iff.mp (Nat.succ.inj hlen)
    · rw [if_pos hone] at hwait
      exact absurd hw hwait

/-- State GET_DATA: data of the store is written, nothing is read. -/
lemma Reading.getStoreData (h : Reading n e resps cur xs) (hflag : e.respdataflag = false)
    (data0lookup data1lookup : Tag → Flit512) :
    Reading n (e.getStoreData data0lookup data1lookup).1 resps cur xs :=
  ⟨h.resps, fun hx => absurd hx (not_waits (.inr hflag)), fun _ => h.idle (not_waits (.inr hflag)), h.le,
    h.sized⟩

/-- A call of the engine. -/
lemma Reading.call (h : Reading n e resps cur xs)
    (hdata : ∃ post post', cur ++ xs.flatMap Prod.snd ++ post = data ++ post')
    {enable : Bool} {data0lookup data1lookup : Tag → Flit512}
    {out : (RespEng × RespWrites) × List RespCombo × List OCxFlit}
    (hcall : e.call enable resps data data0lookup data1lookup = some out) :
    ∃ words cur' xs', Reading n out.1.1 out.2.1 cur' xs' ∧ Read words cur cur' xs xs' data out.2.2 ∧
      words = match e.smstate with
        | .INIT => []
        | .GET_CMD => (resps.head?.map fun c => RespWord.resp (field c 215 38)).toList
        | .GET_DATA => if e.respdataflag then (data.head?.map RespWord.data).toList else [] := by
  cases hsm : e.smstate with
  | INIT =>
      have hw : ¬ e.Waits := not_waits (.inl (by rw [hsm]; decide))
      simp only [RespEng.call, hsm] at hcall
      split at hcall
      · obtain rfl := Option.some.inj hcall
        exact ⟨_, cur, xs, h.initTag hw, Read.refl _ _ _, rfl⟩
      · cases hcall
  | GET_CMD =>
      have hw : ¬ e.Waits := not_waits (.inl (by rw [hsm]; decide))
      cases resps with
      | nil =>
          simp only [RespEng.call, hsm] at hcall
          cases hcall
      | cons c rest =>
          simp only [RespEng.call, hsm] at hcall
          obtain rfl := Option.some.inj hcall
          obtain rfl := h.idle hw
          obtain ⟨ds, xs', rfl, hr⟩ := h.getCmd hw
          exact ⟨_, ds, xs', hr, Read.ofResp _ _ _ _, rfl⟩
  | GET_DATA =>
      cases hflag : e.respdataflag with
      | true =>
          cases data with
          | nil =>
              simp only [RespEng.call, hsm, hflag] at hcall
              cases hcall
          | cons d ds =>
              simp only [RespEng.call, hsm, hflag] at hcall
              obtain rfl := Option.some.inj hcall
              obtain ⟨cur', rfl, hr⟩ := h.getHostData ⟨hsm, hflag⟩ hdata
              exact ⟨_, cur', xs, hr, Read.ofData _ _ _ _, rfl⟩
      | false =>
          simp only [RespEng.call, hsm, hflag] at hcall
          obtain rfl := Option.some.inj hcall
          exact ⟨_, cur, xs, h.getStoreData hflag _ _, Read.refl _ _ _, rfl⟩

end RespEng

/-! ## The path of responses and data -/

/-- Where the responses are, each with its data: `xs` in the TL response FIFO, `ys` in the lookup
stage, `zs` in MRFF; `cur` is what the engine has still to read for its response. -/
structure RespPathInv (s : RespPath) (cur : List OCxFlit)
    (xs ys zs : List (TlResp × List OCxFlit)) : Prop where
  reading : RespEng.Reading 2 s.resp s.tl_fifo_resp cur xs
  lookup : s.lookup = ys.map Prod.fst
  mrff : s.mrff.cmdfifo.Holds (zs.map Prod.fst)
  sized : ∀ x ∈ ys ++ zs, x.2.length = x.1.dataFlits ∧ x.2.length ≤ 2
  /-- The data is in the order of the responses, in the FIFO and with the TLX. -/
  data : cur ++ xs.flatMap Prod.snd ++ (ys ++ zs).flatMap Prod.snd
    = s.tl_fifo_data ++ (s.owed ++ s.tlx_data)
  asked : s.tlx_data.length = s.asked
  credits : s.mrff.Credits s.tlx_credits (zs.map Prod.fst)
  stage : ys.length ≤ 8
  watermark : xs.length + ys.length ≤ 31

namespace RespPathInv

variable {s : RespPath} {i : RespPathIn} {cur : List OCxFlit}
  {xs ys zs : List (TlResp × List OCxFlit)}

lemma init : RespPathInv {} [] [] [] [] where
  reading := ⟨rfl, fun h => absurd h.1 (by decide), fun _ => rfl, by decide, by simp⟩
  lookup := rfl
  mrff := RowFifo.holds_nil rfl rfl
  sized := by simp
  data := rfl
  asked := rfl
  credits := ⟨by decide, fun _ => rfl⟩
  stage := by decide
  watermark := by decide

lemma length_flatMap_le (zs : List (TlResp × List OCxFlit)) (h : ∀ x ∈ zs, x.2.length ≤ 2) :
    (zs.flatMap Prod.snd).length ≤ 2 * zs.length := by
  induction zs with
  | nil => exact le_refl _
  | cons x zs ih =>
      rw [List.flatMap_cons, List.length_append, List.length_cons]
      have hx := h x List.mem_cons_self
      have hzs := ih fun y hy => h y (List.mem_cons_of_mem _ hy)
      omega

/-- **The bounds.**  Every response has at most two data flits, and there are at most 39 responses
behind the one the engine is at. -/
lemma bounds (h : RespPathInv s cur xs ys zs) :
    s.tl_fifo_data.length + s.owed.length + s.tlx_data.length ≤ 128 ∧ s.tl_fifo_resp.length ≤ 32 := by
  have hmrff : zs.length ≤ 8 := by
    have hlen := h.mrff.length_le
    rwa [List.length_map] at hlen
  have hresps : s.tl_fifo_resp.length = xs.length := by
    simpa using congrArg List.length h.reading.resps
  have hdata := congrArg List.length h.data
  simp only [List.length_append] at hdata
  have hx := length_flatMap_le xs fun x hx => (h.reading.sized x hx).2
  have hyz := length_flatMap_le (ys ++ zs) fun x hx => (h.sized x hx).2
  rw [List.length_append] at hyz
  have hcur := h.reading.le
  have hw := h.watermark
  constructor
  · omega
  · omega

/-- The responses and data that have been sent and not read. -/
def pending (cur : List OCxFlit) (xs ys zs : List (TlResp × List OCxFlit)) : List RespWord :=
  cur.map .data ++ xs.flatMap respWords ++ ys.flatMap respWords ++ zs.flatMap respWords

/-- What moves on from a stage, and what stays there. -/
def moved (b : Bool) (ys : List (TlResp × List OCxFlit)) : List (TlResp × List OCxFlit) :=
  if b then ys.take 1 else []

def kept (b : Bool) (ys : List (TlResp × List OCxFlit)) : List (TlResp × List OCxFlit) :=
  if b then ys.drop 1 else ys

lemma moved_append_kept (b : Bool) (ys : List (TlResp × List OCxFlit)) : moved b ys ++ kept b ys = ys := by
  cases b with
  | false => rfl
  | true => exact List.take_append_drop 1 ys

lemma length_moved_le (b : Bool) (ys : List (TlResp × List OCxFlit)) : (moved b ys).length ≤ 1 := by
  cases b with
  | false => exact Nat.zero_le _
  | true => exact List.length_take_le _ _

/-- The response at the head of MRFF goes to the lookup stage. -/
abbrev popped (s : RespPath) (i : RespPathIn) : Bool := s.mrff.pops (RespPath.mrffWires i)

/-- The lookup stage hands a response on as it was. -/
lemma loaded_eq (h : s.lookup = ys.map Prod.fst) :
    (s.loaded i).map (fun c => field c 215 38) = (moved i.load ys).map Prod.fst := by
  rw [RespPath.loaded, moved, h]
  cases i.load with
  | false => rfl
  | true =>
      cases ys with
      | nil => rfl
      | cons y ys =>
          have hr : field (CmdFifoLoad.cmdFifoLoadSM i.cmdlookup y.1) 215 38 = y.1 := by
            rw [CmdFifoLoad.cmdFifoLoadSM_eq]
            exact field_append_left _ _
          simpa using hr

lemma handed_eq (h : s.mrff.cmdfifo.Holds (zs.map Prod.fst)) :
    s.handed i = (moved (popped s i) zs).map Prod.fst := by
  rw [RespPath.handed, moved]
  change (if popped s i = true then _ else _) = _
  cases hp : popped s i with
  | false => rfl
  | true =>
      cases zs with
      | nil => exact absurd rfl (MemRespFifo.pops_ne_nil h hp)
      | cons z zs =>
          rw [if_pos rfl, if_pos rfl, RowFifo.Holds.head_eq h]
          rfl

/-- The engine in a cycle. -/
lemma engine_step (h : RespPathInv s cur xs ys zs) : ∃ cur' xs',
    RespEng.Reading 2 (s.called i).1 (s.called i).2.1 cur' xs' ∧
      RespEng.Read (s.reads i) cur cur' xs xs' s.tl_fifo_data (s.called i).2.2 := by
  rw [RespPath.called, RespPath.reads]
  cases hengine : s.engine i with
  | none => exact ⟨cur, xs, h.reading, RespEng.Read.refl _ _ _⟩
  | some out =>
      rw [RespPath.engine] at hengine
      split at hengine
      · obtain ⟨words, cur', xs', hr, hread, hwords⟩ :=
          h.reading.call ⟨_, _, h.data⟩ hengine
        exact ⟨cur', xs', hr, by rw [hwords] at hread; exact hread⟩
      · cases hengine

/-! ### The stages after a cycle -/

lemma reading_step (h : RespPathInv s cur xs ys zs) {cur' : List OCxFlit} {xs' : List (TlResp × List OCxFlit)}
    (hr : RespEng.Reading 2 (s.called i).1 (s.called i).2.1 cur' xs') :
    RespEng.Reading 2 (s.step i).resp (s.step i).tl_fifo_resp cur' (xs' ++ moved i.load ys) := by
  refine ⟨?_, hr.waiting, hr.idle, hr.le, fun x hx => ?_⟩
  · change ((s.called i).2.1 ++ s.loaded i).map _ = _
    rw [List.map_append, List.map_append, hr.resps, loaded_eq h.lookup]
  · rcases List.mem_append.mp hx with hx | hx
    · exact hr.sized x hx
    · refine h.sized x (List.mem_append_left _ ?_)
      rw [← moved_append_kept i.load ys]
      exact List.mem_append_left _ hx

lemma lookup_step (h : RespPathInv s cur xs ys zs) :
    (s.step i).lookup = (kept i.load ys ++ moved (popped s i) zs).map Prod.fst := by
  rw [List.map_append, ← handed_eq h.mrff, kept]
  change (if i.load then s.lookup.tail else s.lookup) ++ s.handed i = _
  rw [h.lookup]
  cases i.load <;> simp

/-- The entries of MRFF. -/
lemma entries_step (s : RespPath) (i : RespPathIn) (zs : List (TlResp × List OCxFlit)) :
    MemRespFifo.entriesAfter s.mrff (RespPath.mrffWires i) (zs.map Prod.fst)
      = (kept (popped s i) zs ++ i.answer.toList).map Prod.fst := by
  rw [MemRespFifo.entriesAfter, List.map_append, kept]
  change (if popped s i = true then _ else _) ++ (i.answer.map Prod.fst).toList = _
  cases popped s i <;> cases i.answer <;> simp

lemma credit_of_answer (hok : RespPathOk s i) (hx : (RespPath.mrffWires i).cmd_in.isSome = true) :
    0 < s.tlx_credits ∧ s.mrff.initial_credits = 0 := by
  change (i.answer.map Prod.fst).isSome = true at hx
  rw [Option.isSome_map] at hx
  exact hok.credit hx

lemma mrff_step (h : RespPathInv s cur xs ys zs) (hok : RespPathOk s i) :
    (s.step i).mrff.cmdfifo.Holds ((kept (popped s i) zs ++ i.answer.toList).map Prod.fst) := by
  rw [← entries_step]
  refine MemRespFifo.holds_entriesAfter h.mrff fun hx => ?_
  have htotal := h.credits.total
  have hpos := (credit_of_answer hok hx).1
  omega

lemma credits_step (h : RespPathInv s cur xs ys zs) (hok : RespPathOk s i) :
    (s.step i).mrff.Credits (s.step i).tlx_credits
      ((kept (popped s i) zs ++ i.answer.toList).map Prod.fst) := by
  have hempty : i.resync_credits = true → zs = [] := fun hr => by
    by_contra hne
    have hvalid := h.mrff.valid_eq
    rw [RowFifo.valid, (hok.resync hr).2] at hvalid
    cases zs with
    | nil => exact hne rfl
    | cons z zs => simp at hvalid
  have hc := h.credits.step (i := RespPath.mrffWires i) h.mrff (credit_of_answer hok) fun hr =>
    ⟨by rw [RespPath.mrffWires, (hok.resync hr).1]; rfl, by rw [hempty hr]; rfl⟩
  have hcount : (RespPath.mrffWires i).cmd_in.isSome = i.answer.isSome := Option.isSome_map
  rw [hcount] at hc
  rw [← entries_step]
  exact hc

lemma sized_step (h : RespPathInv s cur xs ys zs) (hok : RespPathOk s i) :
    ∀ x ∈ kept i.load ys ++ moved (popped s i) zs ++ (kept (popped s i) zs ++ i.answer.toList),
      x.2.length = x.1.dataFlits ∧ x.2.length ≤ 2 := by
  have hold : ∀ x ∈ moved i.load ys ++ kept i.load ys ++ (moved (popped s i) zs ++ kept (popped s i) zs),
      x.2.length = x.1.dataFlits ∧ x.2.length ≤ 2 := by
    rw [moved_append_kept, moved_append_kept]
    exact h.sized
  intro x hx
  simp only [List.mem_append] at hx hold
  rcases hx with (hx | hx) | (hx | hx)
  · exact hold x (.inl (.inr hx))
  · exact hold x (.inr (.inl hx))
  · exact hold x (.inr (.inr hx))
  · exact hok.data x (Option.mem_toList.mp hx)

/-- The data of the host has been asked for as it has come. -/
lemma asked_step (h : RespPathInv s cur xs ys zs) (hok : RespPathOk s i) :
    (s.step i).tlx_data.length = (s.step i).asked := by
  change (s.tlx_data.drop s.asked ++ (i.answer.map Prod.snd).getD []).length
    = if (RespPath.nextRd i).2 then (RespPath.nextRd i).1.toNat else 0
  rw [List.length_append, List.length_drop, h.asked, Nat.sub_self, Nat.zero_add, RespPath.nextRd]
  cases hans : i.answer with
  | none => rfl
  | some x =>
      obtain ⟨r, ds⟩ := x
      have hlen := (hok.data (r, ds) hans).1
      rw [TlResp.dataFlits] at hlen
      cases hd : r.hasData with
      | true =>
          rw [hd, if_pos rfl] at hlen
          simpa [hd] using hlen
      | false =>
          rw [hd, if_neg Bool.false_ne_true] at hlen
          simpa [hd] using hlen

/-- The data moves on in the order of the responses. -/
lemma data_step (h : RespPathInv s cur xs ys zs) {cur' : List OCxFlit} {xs' : List (TlResp × List OCxFlit)}
    (hread : RespEng.Read (s.reads i) cur cur' xs xs' s.tl_fifo_data (s.called i).2.2) :
    cur' ++ (xs' ++ moved i.load ys).flatMap Prod.snd
        ++ (kept i.load ys ++ moved (popped s i) zs ++ (kept (popped s i) zs ++ i.answer.toList)).flatMap Prod.snd
      = (s.step i).tl_fifo_data ++ ((s.step i).owed ++ (s.step i).tlx_data) := by
  have hdata := hread.data _ _ h.data
  have hnew : i.answer.toList.flatMap Prod.snd = (i.answer.map Prod.snd).getD [] := by
    cases i.answer <;> simp
  have howed : (if i.deliver then s.owed.head?.toList else [])
      ++ (if i.deliver then s.owed.tail else s.owed) = s.owed := by
    cases i.deliver with
    | false => rfl
    | true => cases s.owed <;> rfl
  rw [← moved_append_kept i.load ys, ← moved_append_kept (popped s i) zs] at hdata
  simp only [List.flatMap_append, List.append_assoc] at hdata ⊢
  have hleft : cur' ++ (xs'.flatMap Prod.snd ++ ((moved i.load ys).flatMap Prod.snd
      ++ ((kept i.load ys).flatMap Prod.snd ++ ((moved (popped s i) zs).flatMap Prod.snd
        ++ ((kept (popped s i) zs).flatMap Prod.snd ++ i.answer.toList.flatMap Prod.snd)))))
      = (s.called i).2.2 ++ (s.owed ++ s.tlx_data) ++ i.answer.toList.flatMap Prod.snd := by
    rw [← hdata]
    simp only [List.append_assoc]
  rw [hleft, hnew]
  change _ = ((s.called i).2.2 ++ if i.deliver then s.owed.head?.toList else [])
    ++ (((if i.deliver then s.owed.tail else s.owed) ++ s.tlx_data.take s.asked)
    ++ (s.tlx_data.drop s.asked ++ (i.answer.map Prod.snd).getD []))
  conv_lhs => rw [← howed, ← List.take_append_drop s.asked s.tlx_data]
  simp only [List.append_assoc]

/-- **The watermark**: where MRFF hands a response over, there is room for what the lookup stage holds. -/
lemma watermark_step (h : RespPathInv s cur xs ys zs) (hok : RespPathOk s i)
    {xs' : List (TlResp × List OCxFlit)} (hle : xs'.length ≤ xs.length) :
    (xs' ++ moved i.load ys).length + (kept i.load ys ++ moved (popped s i) zs).length ≤ 31 := by
  have hlen := hok.lookup
  rw [h.lookup_step, List.length_map] at hlen
  have hw := h.watermark
  have hys := congrArg List.length (moved_append_kept i.load ys)
  rw [List.length_append] at hlen hys ⊢
  rw [List.length_append]
  cases hp : popped s i with
  | false =>
      change _ + (_ + 0) ≤ _
      omega
  | true =>
      have hcount : xs.length ≤ 22 := by
        have hready : RespPath.network_resp_ready i = true := by
          rw [popped, MemRespFifo.pops, Bool.and_eq_true] at hp
          exact hp.2
        rw [RespPath.network_resp_ready, decide_eq_true_eq, BitVec.not_lt] at hready
        have hle20 : (field i.tl_resp_early_fifo_cnt 0 11).toNat ≤ 20 := hready
        have hfifo := hok.count
        have hresps : s.tl_fifo_resp.length = xs.length := by
          simpa using congrArg List.length h.reading.resps
        omega
      have hone := length_moved_le i.load ys
      rw [hp] at hlen
      omega

/-- What is pending after a cycle. -/
lemma pending_step {cur' : List OCxFlit} {xs' : List (TlResp × List OCxFlit)}
    (hread : RespEng.Read (s.reads i) cur cur' xs xs' s.tl_fifo_data (s.called i).2.2) :
    s.reads i ++ pending cur' (xs' ++ moved i.load ys) (kept i.load ys ++ moved (popped s i) zs)
        (kept (popped s i) zs ++ i.answer.toList)
      = pending cur xs ys zs ++ s.sent i := by
  have hwords := hread.words
  have hsent : s.sent i = i.answer.toList.flatMap respWords := by
    rw [RespPath.sent]
    cases i.answer <;> simp [respWords]
  rw [hsent, pending, pending]
  conv_rhs => rw [hwords, ← moved_append_kept i.load ys, ← moved_append_kept (popped s i) zs]
  simp only [List.flatMap_append, List.append_assoc]

/-- **One cycle.** -/
theorem step (h : RespPathInv s cur xs ys zs) (hok : RespPathOk s i) : ∃ cur' xs' ys' zs',
    RespPathInv (s.step i) cur' xs' ys' zs' ∧
      s.reads i ++ pending cur' xs' ys' zs' = pending cur xs ys zs ++ s.sent i := by
  obtain ⟨cur', xs', hreading, hread⟩ := h.engine_step (i := i)
  have hstage := hok.lookup
  rw [h.lookup_step, List.length_map] at hstage
  exact ⟨cur', _, _, _, ⟨h.reading_step hreading, h.lookup_step, h.mrff_step hok, h.sized_step hok,
    h.data_step hread, h.asked_step hok, h.credits_step hok, hstage, h.watermark_step hok hread.le⟩,
    pending_step hread⟩

end RespPathInv

/-- **Read data is never dropped.**  The data in the FIFO and the data that has been asked for fit
into its 128 entries, the TL response FIFO does not overflow, and the engine reads every response and
after it the data that came with it. -/
theorem read_data_kept (is : List RespPathIn) (h : respPath.Meets RespPathOk is) :
    (respPath.run is).tl_fifo_data.length + (respPath.run is).owed.length
        + (respPath.run is).tlx_data.length ≤ 128 ∧
      (respPath.run is).tl_fifo_resp.length ≤ 32 ∧
      respPath.collect RespPath.reads is <+: respPath.collect RespPath.sent is := by
  obtain ⟨cur, xs, ys, zs, hinv, hwords⟩ := respPath.trace_invariant
    (P := fun s sent read => ∃ cur xs ys zs, RespPathInv s cur xs ys zs ∧
      sent = read ++ RespPathInv.pending cur xs ys zs)
    ⟨[], [], [], [], RespPathInv.init, rfl⟩
    (fun s sent read i ⟨cur, xs, ys, zs, hinv, hwords⟩ hok => by
      obtain ⟨cur', xs', ys', zs', hinv', hstep⟩ := hinv.step hok
      refine ⟨cur', xs', ys', zs', hinv', ?_⟩
      rw [hwords, List.append_assoc, ← hstep, ← List.append_assoc]) is h
  rw [hwords]
  exact ⟨hinv.bounds.1, hinv.bounds.2, List.prefix_append _ _⟩

/-! ## Runs behind the initialisation -/

/-- A cycle in which the engine counts through the tags, while the credits are held back. -/
def RespPathIn.seeding : RespPathIn := { resync_credits := true }

lemma RespPath.engine_seeding {n : ℕ} (hn : n < 512) :
    RespPath.engine { resp := .seeded n } .seeding = some ((RespEng.seeded n).initTag, [], []) := by
  have hsm : (RespEng.seeded n).smstate = .INIT := if_neg (by omega)
  rw [engine, RespEng.call, hsm]
  rfl

/-- Such a run leaves everything else as it is at reset. -/
lemma respPath_seeded {n : ℕ} (hn : n ≤ 512) :
    respPath.run (List.replicate n .seeding) = { resp := .seeded n } := by
  induction n with
  | zero => rfl
  | succ n ih =>
      have hmrff : MemRespFifo.step {} (RespPath.mrffWires .seeding) = {} := rfl
      have hpops : MemRespFifo.pops {} (RespPath.mrffWires .seeding) = false := rfl
      rw [List.replicate_succ', Machine.run_concat, ih (by omega)]
      change RespPath.step _ _ = _
      simp only [RespPath.step, RespPath.called, RespPath.engine_seeding hn, RespEng.seeded_initTag hn,
        RespPath.handed, hmrff, hpops]
      rfl

/-- The engine reads nothing in it. -/
lemma reads_seeded {n : ℕ} (hn : n ≤ 512) :
    respPath.collect RespPath.reads (List.replicate n .seeding) = [] := by
  induction n with
  | zero => rfl
  | succ n ih =>
      have hsm : (RespEng.seeded n).smstate = .INIT := if_neg (by omega)
      rw [List.replicate_succ', Machine.collect_concat, ih (by omega), respPath_seeded (by omega),
        RespPath.reads, RespPath.engine_seeding hn, hsm]
      rfl

lemma respPath_meets_seeded {n : ℕ} (hn : n ≤ 512) :
    respPath.Meets RespPathOk (List.replicate n .seeding) := by
  induction n with
  | zero => trivial
  | succ n ih =>
      rw [List.replicate_succ', Machine.meets_concat]
      refine ⟨ih (by omega), ?_⟩
      have hnext := respPath_seeded hn
      rw [List.replicate_succ', Machine.run_concat, respPath_seeded (by omega)] at hnext
      change RespPath.step _ _ = _ at hnext
      rw [respPath_seeded (by omega)]
      refine ⟨fun h => (by cases h), fun x hx => (by cases hx), fun _ => ⟨rfl, rfl⟩, ?_, Nat.zero_le _⟩
      rw [hnext]
      exact Nat.zero_le _

/-- Behind it, eight reads are answered at once, each with two data flits, while the engine stalls and
the TL response FIFO says that it is full; then all of them go on. -/
def stalledReads : List RespPathIn :=
  let idle : RespPathIn := {}
  let readOk (n : ℕ) : RespPathIn :=
    { answer := some (0x4#8 ++ BitVec.ofNat 16 (n + 1) ++ 0#4 ++ 0b10#2 ++ 0#2 ++ 0#6,
        [BitVec.ofNat 513 (2 * n + 1), BitVec.ofNat 513 (2 * n + 2)])
      call := false
      tl_resp_early_fifo_cnt := 21 }
  List.replicate 18 idle ++ (List.range 8).map readOk
    ++ List.replicate 4 { call := false, tl_resp_early_fifo_cnt := 4 }
    ++ List.replicate 30 { tl_resp_early_fifo_cnt := 8 }

def respPathDemo : List RespPathIn := List.replicate 512 .seeding ++ stalledReads

/-- The engine reads the eight responses and the data of each. -/
theorem read_data_kept_demo :
    (respPath.run respPathDemo).tl_fifo_data.length + (respPath.run respPathDemo).owed.length
        + (respPath.run respPathDemo).tlx_data.length ≤ 128 ∧
      (respPath.run respPathDemo).tl_fifo_resp.length ≤ 32 ∧
      respPath.collect RespPath.reads respPathDemo <+: respPath.collect RespPath.sent respPathDemo ∧
      (respPath.collect RespPath.reads respPathDemo).length = 24 := by
  have hok : respPath.Meets RespPathOk respPathDemo := by
    refine (respPath.meetsFrom_append _ _ _ _).mpr ⟨respPath_meets_seeded (le_refl 512), ?_⟩
    change respPath.MeetsFrom _ (respPath.run _) _
    rw [respPath_seeded (le_refl 512)]
    decide +kernel
  obtain ⟨hdata, hresp, hpre⟩ := read_data_kept respPathDemo hok
  refine ⟨hdata, hresp, hpre, ?_⟩
  rw [respPathDemo, Machine.collect_append, reads_seeded (le_refl 512), respPath_seeded (le_refl 512)]
  decide +kernel

end ThymesisFlow
