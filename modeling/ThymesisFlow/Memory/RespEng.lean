import ThymesisFlow.Memory.OcxFlit

/-!
# The lookup stage and the response engine

A response of the host is joined with the stored command of its tag by `CmdFifoLoad`
(`ocx_cmd_fifo_load.cpp`) and handled by `TLRespEng` (`ocx_resp_eng.cpp`), which sends a header and
its data to the network, or the command to the retry engine.  Both have a class `OCxFlit` of their
own; the methods of the lookup stage that differ are in `CmdFifoLoad`.
-/

namespace ThymesisFlow

/-- `tlrflit_t`, a response of the TL. -/
abbrev TlResp := BitVec 38

/-- `tlxscflit_t`, a stored command. -/
abbrev StoredCmd := BitVec 215

/-- `resp_combo_t`. -/
abbrev RespCombo := BitVec 253

/-! ## The lookup stage -/

namespace CmdFifoLoad

/-- The last field goes to the page size. -/
def fromTLxCStore (o : OCxFlit) (fl : StoredCmd) : OCxFlit :=
  setField (setField (setField (setField (setField (setField (setField (setField (setField (setField
    (setField o 297 (field fl 199 16)) 504 (field fl 191 8)) 440 (field fl 127 64))
    424 (field fl 111 16)) 422 (field fl 109 2)) 419 (field fl 106 3)) 355 (field fl 42 64))
    343 (field fl 30 12)) 339 (field fl 26 4)) 319 (field fl 6 20)) 313 (field fl 0 6)

/-- The local `fl` is a `tlxcflit_t` of 199 bits, so the local tag is not kept. -/
def toTLxCStore (o : OCxFlit) : StoredCmd :=
  (field o 504 8 ++ field o 440 64 ++ field o 424 16 ++ field o 422 2 ++ field o 419 3
    ++ field o 355 64 ++ field o 343 12 ++ field o 339 4 ++ field o 319 20
    ++ field o 313 6 : BitVec 199).setWidth 215

/-- `CmdFifoLoadSM` for the response `r`. -/
def cmdFifoLoadSM (cmdlookup : Tag → StoredCmd) (r : TlResp) : RespCombo :=
  let tlresp := (0 : OCxFlit).fromTLRespData r
  let cmdf := fromTLxCStore 0 (cmdlookup tlresp.getRespCappTag)
  tlresp.toTLRespData ++ toTLxCStore cmdf

end CmdFifoLoad

/-! ## The response engine -/

/-- `smstate` of the response engine. -/
inductive RespState
  | INIT
  | GET_CMD
  | GET_DATA
  deriving DecidableEq, Repr

/-- The static variables of `RespEngSM`. -/
structure RespEng where
  smstate : RespState := .INIT
  tlresp : OCxFlit := 0
  capptag_count : Tag := 1
  keeplookupentry : Bool := false
  respdataflag : Bool := false
  localtag : Tag := 0
  cdata : BitVec 3 := 0
  cdata_count : BitVec 3 := 0
  deriving DecidableEq, Repr

/-- What a call writes to its output streams. -/
structure RespWrites where
  lookup_out : Option Tag := none
  rtry_do_cmd_out : Option Flit512 := none
  network_cmd_out0 : Option Flit512 := none
  deriving DecidableEq, Repr

namespace RespEng

variable (e : RespEng)

/-- State INIT while the engine is enabled: the next CAPPTAG. -/
def initTag : RespEng × RespWrites :=
  ({ e with
      smstate := if e.capptag_count = 0x200 then .GET_CMD else .INIT
      capptag_count := e.capptag_count + 1 },
    { lookup_out := some e.capptag_count })

/-- The header for a response, before it is known whether it is sent. -/
def respHeader (tlresp : OCxFlit) (r : TlResp) (cmdf : OCxFlit) : OCxFlit :=
  ((tlresp.fromTLRespData r).setRespOrigCappTag cmdf.getCappTagOrig).setNetId cmdf.getNetId

/-- The command for the retry engine. -/
def retryCmd (tlresp cmdf : OCxFlit) : OCxFlit :=
  (cmdf.setTLxCmdRespAnno (if tlresp.tlRespIsXlateDone then 0 else tlresp.getRespCode)).setCappTagLocal
    tlresp.getRespCappTag

/-- State GET_CMD. -/
def getCmd (tlresp_combo : RespCombo) : RespEng × RespWrites :=
  let cmdf := (0 : OCxFlit).fromTLxCStore (field tlresp_combo 0 215)
  let tlresp := respHeader e.tlresp (field tlresp_combo 215 38) cmdf
  let respdl := tlresp.getTLRespDl
  let origdl := cmdf.getDl
  let e' := { e with
    tlresp
    localtag := tlresp.getRespCappTag
    keeplookupentry := respdl ≠ origdl && tlresp.getTLRespDp = 0 }
  if bit tlresp.getTLRespState 0 then
    ({ e' with
        cdata := dataSize origdl
        cdata_count := 1
        respdataflag := if cmdf.tlxCmdIsWrite then false else e.respdataflag
        smstate := if cmdf.tlxCmdIsWrite then .GET_DATA else .GET_CMD },
      { rtry_do_cmd_out := some (retryCmd tlresp cmdf).toOCxFlit })
  else if bit tlresp.getTLRespState 1 then
    ({ e' with
        respdataflag := true
        cdata := dataSize respdl
        cdata_count := 1
        smstate := .GET_DATA },
      { network_cmd_out0 := some tlresp.toOCxFlit })
  else if bit tlresp.getTLRespState 2 then
    (e', { lookup_out := some tlresp.getRespCappTag, network_cmd_out0 := some tlresp.toOCxFlit })
  else (e', {})

/-- State GET_DATA for data of the host. -/
def getHostData (d : OCxFlit) : RespEng × RespWrites :=
  if e.cdata ≠ 1 then
    ({ e with cdata := e.cdata - 1 }, { network_cmd_out0 := some d.toOCxFlit })
  else
    ({ e with smstate := .GET_CMD },
      { lookup_out := if e.keeplookupentry then none else some e.localtag
        network_cmd_out0 := some d.toOCxFlit })

/-- State GET_DATA for data from the store.  The last two lookup ports are tied to 0. -/
def getStoreData (data0lookup data1lookup : Tag → Flit512) : RespEng × RespWrites :=
  ({ e with
      smstate := if e.cdata_count = e.cdata then .GET_CMD else .GET_DATA
      cdata_count := e.cdata_count + 1 },
    { rtry_do_cmd_out := some (if e.cdata_count = 1 then data0lookup e.localtag
        else if e.cdata_count = 2 then data1lookup e.localtag else 0) })

/-- A call of `RespEngSM` with what its two input streams hold; `none` if it reads nothing. -/
def call (enable : Bool) (resps : List RespCombo) (data : List OCxFlit)
    (data0lookup data1lookup : Tag → Flit512) :
    Option ((RespEng × RespWrites) × List RespCombo × List OCxFlit) :=
  match e.smstate with
  | .INIT => if enable then some (e.initTag, resps, data) else none
  | .GET_CMD =>
      match resps with
      | [] => none
      | c :: rest => some (e.getCmd c, rest, data)
  | .GET_DATA =>
      if e.respdataflag then
        match data with
        | [] => none
        | d :: rest => some (e.getHostData d, resps, rest)
      else some (e.getStoreData data0lookup data1lookup, resps, data)

/-- The engine after `n` calls in state INIT. -/
def seeded (n : ℕ) : RespEng where
  smstate := if n = 512 then .GET_CMD else .INIT
  capptag_count := BitVec.ofNat 16 (n + 1)

lemma seeded_initTag {n : ℕ} (hn : n < 512) : (seeded n).initTag.1 = seeded (n + 1) := by
  have hcount : (BitVec.ofNat 16 (n + 1) = (0x200 : Tag)) = (n + 1 = 512) := by
    rw [← BitVec.toNat_inj, BitVec.toNat_ofNat, Nat.mod_eq_of_lt (by omega)]
    rfl
  have hsucc : BitVec.ofNat 16 (n + 1) + 1 = BitVec.ofNat 16 (n + 1 + 1) :=
    (BitVec.ofNat_add (n + 1) 1).symm
  simp only [initTag, seeded, hcount, hsucc]

end RespEng

/-! ## What the two read -/

namespace OCxFlit

variable (o : OCxFlit) (r : TlResp) (fl : StoredCmd)

lemma field_fromTLRespData :
    field (o.fromTLRespData r) 504 8 = field r 30 8 ∧
      field (o.fromTLRespData r) 488 16 = field r 14 16 ∧
      field (o.fromTLRespData r) 484 4 = field r 10 4 ∧
      field (o.fromTLRespData r) 482 2 = field r 8 2 ∧
      field (o.fromTLRespData r) 480 2 = field r 6 2 ∧
      field (o.fromTLRespData r) 474 6 = field r 0 6 := by
  rw [fromTLRespData]
  simp [field_setField_of_disjoint]

lemma toTLRespData_fromTLRespData : (o.fromTLRespData r).toTLRespData = r := by
  obtain ⟨h1, h2, h3, h4, h5, h6⟩ := o.field_fromTLRespData r
  rw [toTLRespData, h1, h2, h3, h4, h5, h6, field_append_field r (show 30 = 14 + 16 from rfl),
    field_append_field r (show 14 = 10 + 4 from rfl), field_append_field r (show 10 = 8 + 2 from rfl),
    field_append_field r (show 8 = 6 + 2 from rfl), field_append_field r (show 6 = 0 + 6 from rfl)]
  exact field_self r

/-- The fields of a stored command, in the flit it is copied to. -/
lemma field_fromTLxCStore :
    field (o.fromTLxCStore fl) 504 8 = field fl 191 8 ∧
      field (o.fromTLxCStore fl) 440 64 = field fl 127 64 ∧
      field (o.fromTLxCStore fl) 424 16 = field fl 111 16 ∧
      field (o.fromTLxCStore fl) 422 2 = field fl 109 2 ∧
      field (o.fromTLxCStore fl) 419 3 = field fl 106 3 ∧
      field (o.fromTLxCStore fl) 355 64 = field fl 42 64 ∧
      field (o.fromTLxCStore fl) 343 12 = field fl 30 12 ∧
      field (o.fromTLxCStore fl) 339 4 = field fl 26 4 ∧
      field (o.fromTLxCStore fl) 319 20 = field fl 6 20 ∧
      field (o.fromTLxCStore fl) 291 6 = field fl 0 6 := by
  rw [fromTLxCStore]
  simp [field_setField_of_disjoint]

/-- What the response engine reads of a stored command. -/
lemma fromTLxCStore_fields :
    (o.fromTLxCStore fl).getCappTagOrig = field fl 111 16 ∧
      (o.fromTLxCStore fl).getNetId = field fl 0 6 ∧
      (o.fromTLxCStore fl).getDl = field fl 109 2 ∧
      (o.fromTLxCStore fl).tlxCmdIsWrite = bit fl 196 := by
  obtain ⟨hop, -, htag, hdl, -, -, -, -, -, hnetid⟩ := field_fromTLxCStore o fl
  refine ⟨htag, hnetid, hdl, ?_⟩
  rw [tlxCmdIsWrite, bit_eq_field _ 504 8 (show 5 < 8 by decide), hop,
    ← bit_eq_field _ 191 8 (show 5 < 8 by decide)]

end OCxFlit

namespace CmdFifoLoad

lemma toTLxCStore_fromTLxCStore (o : OCxFlit) (fl : StoredCmd) :
    toTLxCStore (fromTLxCStore o fl) = (field fl 0 199).setWidth 215 := by
  have hfields : field (fromTLxCStore o fl) 504 8 = field fl 191 8 ∧
      field (fromTLxCStore o fl) 440 64 = field fl 127 64 ∧
      field (fromTLxCStore o fl) 424 16 = field fl 111 16 ∧
      field (fromTLxCStore o fl) 422 2 = field fl 109 2 ∧
      field (fromTLxCStore o fl) 419 3 = field fl 106 3 ∧
      field (fromTLxCStore o fl) 355 64 = field fl 42 64 ∧
      field (fromTLxCStore o fl) 343 12 = field fl 30 12 ∧
      field (fromTLxCStore o fl) 339 4 = field fl 26 4 ∧
      field (fromTLxCStore o fl) 319 20 = field fl 6 20 ∧
      field (fromTLxCStore o fl) 313 6 = field fl 0 6 := by
    rw [fromTLxCStore]
    simp [field_setField_of_disjoint]
  obtain ⟨h1, h2, h3, h4, h5, h6, h7, h8, h9, h10⟩ := hfields
  rw [toTLxCStore, h1, h2, h3, h4, h5, h6, h7, h8, h9, h10,
    field_append_field fl (show 191 = 127 + 64 from rfl),
    field_append_field fl (show 127 = 111 + 16 from rfl),
    field_append_field fl (show 111 = 109 + 2 from rfl),
    field_append_field fl (show 109 = 106 + 3 from rfl),
    field_append_field fl (show 106 = 42 + 64 from rfl),
    field_append_field fl (show 42 = 30 + 12 from rfl),
    field_append_field fl (show 30 = 26 + 4 from rfl),
    field_append_field fl (show 26 = 6 + 20 from rfl), field_append_field fl (show 6 = 0 + 6 from rfl)]

/-- The response and the stored command without its local tag. -/
lemma cmdFifoLoadSM_eq (cmdlookup : Tag → StoredCmd) (r : TlResp) : cmdFifoLoadSM cmdlookup r
    = r ++ ((field (cmdlookup (field r 14 16)) 0 199).setWidth 215 : StoredCmd) := by
  have htag : ((0 : OCxFlit).fromTLRespData r).getRespCappTag = field r 14 16 :=
    (OCxFlit.field_fromTLRespData 0 r).2.1
  rw [cmdFifoLoadSM, htag, OCxFlit.toTLRespData_fromTLRespData, toTLxCStore_fromTLxCStore]

/-- The record `fl` comes back from the lookup stage, and every response for it is joined with it. -/
def StoreKept (fl : StoredCmd) : Prop :=
  (∀ o, toTLxCStore (fromTLxCStore o fl) = fl) ∧
    ∀ (cmdlookup : Tag → StoredCmd) (r : TlResp), cmdlookup (field r 14 16) = fl →
      cmdFifoLoadSM cmdlookup r = r ++ fl

/-- The record without its local tag is the record if there was none. -/
lemma dropTag_eq_iff (fl : StoredCmd) :
    (field fl 0 199).setWidth 215 = fl ↔ field fl 199 16 = 0 := by
  have hbit : ∀ i, ((field fl 0 199).setWidth 215).getLsbD i
      = (decide (i < 199) && fl.getLsbD i) := by
    intro i
    rw [BitVec.getLsbD_setWidth, getLsbD_field, Nat.zero_add]
    by_cases hi : i < 199
    · have hlt : i < 215 := by omega
      simp [hi, hlt]
    · simp [hi]
  constructor
  · intro h
    apply BitVec.eq_of_getLsbD_eq
    intro i hi
    have hhigh := hbit (199 + i)
    rw [h] at hhigh
    rw [getLsbD_field, hhigh]
    simp
  · intro h
    apply BitVec.eq_of_getLsbD_eq
    intro i hi
    rw [hbit]
    by_cases hlow : i < 199
    · simp [hlow]
    · have htag : (field fl 199 16).getLsbD (i - 199) = false := by rw [h]; exact BitVec.getLsbD_zero
      have hi' : i - 199 < 16 := by omega
      have hadd : 199 + (i - 199) = i := by omega
      rw [getLsbD_field, hadd] at htag
      simp only [hi', decide_true, Bool.true_and] at htag
      simp [hlow, htag]

/-- **The lookup stage keeps a record exactly when its local tag is 0.**  The bits of the tag lie
outside the variable that the record is written back to. -/
theorem storeKept_iff (fl : StoredCmd) : StoreKept fl ↔ field fl 199 16 = 0 := by
  rw [← dropTag_eq_iff]
  constructor
  · intro h
    rw [← toTLxCStore_fromTLxCStore 0 fl]
    exact h.1 0
  · intro h
    refine ⟨fun o => (toTLxCStore_fromTLxCStore o fl).trans h, fun cmdlookup r hr => ?_⟩
    rw [cmdFifoLoadSM_eq, hr, h]

/-- The record of a command with local tag 1. -/
theorem local_tag_not_kept : ¬ StoreKept (setField 0 199 (1 : Tag)) := by
  rw [storeKept_iff]
  decide

end CmdFifoLoad

/-! ## The kinds of responses -/

/-- What the host says in a response, by the opcodes and codes that the engine knows. -/
inductive RespKind
  | readOk
  | writeOk
  | fail
  | rty
  | pend
  | xlateDone
  deriving DecidableEq, Repr

namespace TlResp

variable (r : TlResp)

def opcode : BitVec 8 := field r 30 8

def capptag : Tag := field r 14 16

def code : BitVec 4 := field r 10 4

def dl : BitVec 2 := field r 8 2

def dp : BitVec 2 := field r 6 2

def kind : Option RespKind :=
  if opcode r = TL_RD_RESPOK then some .readOk
  else if opcode r = TL_WR_RESPOK then some .writeOk
  else if opcode r = TL_RD_RESPFAIL ∨ opcode r = TL_WR_RESPFAIL then
    if code r = TLRESP_CODE_RTY then some .rty
    else if code r = TLRESP_CODE_PEND then some .pend
    else some .fail
  else if opcode r = TL_XLATE_DONE then some .xlateDone
  else none

end TlResp

/-- `getTLRespState` as a function of the opcode and the code. -/
def respState (op : BitVec 8) (code : BitVec 4) : BitVec 3 :=
  BitVec.ofBool ((bit op 3 && !bit op 0) || (bit op 0 && !(code = TLRESP_CODE_RTY
      || code = TLRESP_CODE_PEND)))
    ++ BitVec.ofBool (bit op 2 && !bit op 0)
    ++ BitVec.ofBool ((bit op 0 && code = TLRESP_CODE_RTY) || op = TL_XLATE_DONE)

lemma OCxFlit.getTLRespState_eq (o : OCxFlit) :
    o.getTLRespState = respState (field o 504 8) (field o 484 4) := by
  rw [getTLRespState, respState, ← bit_eq_field o 504 8 (show 3 < 8 by decide),
    ← bit_eq_field o 504 8 (show 0 < 8 by decide), ← bit_eq_field o 504 8 (show 2 < 8 by decide)]

namespace RespEng

/-- The branch of the engine for a response of the kind. -/
def branchOf : RespKind → BitVec 3
  | .readOk => 0b010
  | .writeOk | .fail => 0b100
  | .rty => 0b001
  | .pend => 0b000
  | .xlateDone => 0b101

lemma respState_eq {r : TlResp} {k : RespKind} (h : TlResp.kind r = some k) :
    respState (TlResp.opcode r) (TlResp.code r) = branchOf k := by
  rw [TlResp.kind] at h
  generalize TlResp.opcode r = op at h
  generalize TlResp.code r = code at h
  split_ifs at h with h1 h2 h3 h4 h5 h6
  all_goals obtain rfl := Option.some.inj h
  · rw [h1]; revert code; decide
  · rw [h2]; revert code; decide
  · rcases h3 with h3 | h3 <;> rw [h3, h4] <;> decide
  · rcases h3 with h3 | h3 <;> rw [h3, h5] <;> decide
  · rcases h3 with h3 | h3 <;> rw [h3] <;> revert code <;> decide
  · rw [h6]; revert code; decide

/-- The header for a response. -/
lemma respHeader_fields (tlresp : OCxFlit) (r : TlResp) (cmdf : OCxFlit) :
    (respHeader tlresp r cmdf).getRespCappTag = TlResp.capptag r ∧
      (respHeader tlresp r cmdf).getTLRespDl = TlResp.dl r ∧
      (respHeader tlresp r cmdf).getTLRespDp = TlResp.dp r ∧
      (respHeader tlresp r cmdf).getTLRespState = respState (TlResp.opcode r) (TlResp.code r) := by
  have hfields : ∀ lo len, 313 ≤ lo → field (respHeader tlresp r cmdf) lo len
      = field (tlresp.fromTLRespData r) lo len := by
    intro lo len hlo
    rw [respHeader, OCxFlit.setNetId, OCxFlit.setRespOrigCappTag,
      field_setField_of_disjoint _ _ _ _ (.inr (by omega)),
      field_setField_of_disjoint _ _ _ _ (.inr (by omega))]
  obtain ⟨h1, h2, h3, h4, h5, -⟩ := tlresp.field_fromTLRespData r
  refine ⟨(hfields 488 16 (by decide)).trans h2, (hfields 482 2 (by decide)).trans h4,
    (hfields 480 2 (by decide)).trans h5, ?_⟩
  rw [OCxFlit.getTLRespState_eq, hfields 504 8 (by decide), hfields 484 4 (by decide), h1, h3]
  rfl

/-! ## The branches of state GET_CMD -/

section GetCmd

variable (e : RespEng) (c : RespCombo)

/-- The header for the response of a combo. -/
def comboHeader : OCxFlit :=
  respHeader e.tlresp (field c 215 38) ((0 : OCxFlit).fromTLxCStore (field c 0 215))

/-- The command for the retry engine. -/
def comboRetry : Flit512 :=
  (retryCmd (comboHeader e c) ((0 : OCxFlit).fromTLxCStore (field c 0 215))).toOCxFlit

/-- What every branch sets. -/
def comboRead : RespEng :=
  { e with
    tlresp := comboHeader e c
    localtag := TlResp.capptag (field c 215 38)
    keeplookupentry := TlResp.dl (field c 215 38) ≠ field c 109 2
      && TlResp.dp (field c 215 38) = 0 }

/-- The branch bits for the response of a combo. -/
def comboState : BitVec 3 :=
  respState (TlResp.opcode (field c 215 38)) (TlResp.code (field c 215 38))

/-- `getCmd` in terms of the response and the record. -/
lemma getCmd_eq : e.getCmd c =
    if bit (comboState c) 0 then
      ({ comboRead e c with
          cdata := dataSize (field c 109 2)
          cdata_count := 1
          respdataflag := if bit c 196 then false else e.respdataflag
          smstate := if bit c 196 then .GET_DATA else .GET_CMD },
        { rtry_do_cmd_out := some (comboRetry e c) })
    else if bit (comboState c) 1 then
      ({ comboRead e c with
          respdataflag := true
          cdata := dataSize (TlResp.dl (field c 215 38))
          cdata_count := 1
          smstate := .GET_DATA },
        { network_cmd_out0 := some (comboHeader e c).toOCxFlit })
    else if bit (comboState c) 2 then
      (comboRead e c,
        { lookup_out := some (TlResp.capptag (field c 215 38))
          network_cmd_out0 := some (comboHeader e c).toOCxFlit })
    else (comboRead e c, {}) := by
  obtain ⟨htag, hdl, hdp, hst⟩ := respHeader_fields e.tlresp (field c 215 38)
    ((0 : OCxFlit).fromTLxCStore (field c 0 215))
  obtain ⟨-, -, hcmddl, hwrite⟩ := OCxFlit.fromTLxCStore_fields 0 (field c 0 215)
  have hdl' : field (field c 0 215) 109 2 = field c 109 2 := field_field c (by decide)
  have hwrite' : bit (field c 0 215) 196 = bit c 196 := by
    rw [← bit_eq_field c 0 215 (show 196 < 215 by decide)]
  rw [getCmd]
  simp only [htag, hdl, hdp, hst, hcmddl, hwrite, hdl', hwrite']
  rfl

end GetCmd

end RespEng

end ThymesisFlow
