import ThymesisFlow.Lib.BitField

/-!
# The OpenCAPI flit of the memory stack

`OCxFlit` (`ocx_flit.cpp`) is a 513 bit word: a 512 bit flit and the bad data indicator.  Every
method reads or writes a field of it; this file has those the engines of the memory stack call,
each with the bit range of the source.
-/

namespace ThymesisFlow

/-- `ocxflit_t`: what the streams between the engines carry. -/
abbrev Flit512 := BitVec 512

/-- The state of the class `OCxFlit`: `ocxflitbdi_t flit`. -/
abbrev OCxFlit := BitVec 513

/-- `tag_t`, a CAPPTAG. -/
abbrev Tag := BitVec 16

/-- `TLRESP_CODE_RTY`: the host asks for the command again. -/
def TLRESP_CODE_RTY : BitVec 4 := 2

/-- `TLRESP_CODE_PEND`: the host will say when the translation is done. -/
def TLRESP_CODE_PEND : BitVec 4 := 4

def TL_RD_RESPOK : BitVec 8 := 0x4

def TL_RD_RESPFAIL : BitVec 8 := 0x5

def TL_WR_RESPOK : BitVec 8 := 0x8

def TL_WR_RESPFAIL : BitVec 8 := 0x9

def TL_XLATE_DONE : BitVec 8 := 0x18

namespace OCxFlit

def fromOCxFlit (o : OCxFlit) (fl : Flit512) : OCxFlit := setField o 0 fl

def toOCxFlit (o : OCxFlit) : Flit512 := field o 0 512

/-- A stored flit comes back unchanged. -/
@[simp] lemma toOCxFlit_fromOCxFlit (o : OCxFlit) (fl : Flit512) :
    (o.fromOCxFlit fl).toOCxFlit = fl :=
  field_setField_self o 0 fl (by omega)

def getTLxCmdRespAnno (o : OCxFlit) : BitVec 4 := (field o 313 6).setWidth 4

def tlxCmdIsWrite (o : OCxFlit) : Bool := bit o 509

def getDl (o : OCxFlit) : BitVec 2 := field o 422 2

/-! ### Responses of the TL -/

def fromTLRespData (o : OCxFlit) (fl : BitVec 38) : OCxFlit :=
  setField (setField (setField (setField (setField (setField o 504 (field fl 30 8))
    488 (field fl 14 16)) 484 (field fl 10 4)) 482 (field fl 8 2)) 480 (field fl 6 2))
    474 (field fl 0 6)

def toTLRespData (o : OCxFlit) : BitVec 38 :=
  field o 504 8 ++ field o 488 16 ++ field o 484 4 ++ field o 482 2 ++ field o 480 2 ++ field o 474 6

def getRespCappTag (o : OCxFlit) : Tag := field o 488 16

def getTLRespDl (o : OCxFlit) : BitVec 2 := field o 482 2

def getTLRespDp (o : OCxFlit) : BitVec 2 := field o 480 2

def setRespOrigCappTag (o : OCxFlit) (tag : Tag) : OCxFlit := setField o 297 tag

def getRespCode (o : OCxFlit) : BitVec 4 := field o 484 4

def tlRespIsXlateDone (o : OCxFlit) : Bool := bit o 508 && bit o 507

/-- Bit 0: to the retry engine.  Bit 1: to the network, with data.  Bit 2: to the network, without
data. -/
def getTLRespState (o : OCxFlit) : BitVec 3 :=
  let resp_fail := bit o 504
  let resp_rty_only := field o 484 4 = TLRESP_CODE_RTY
  let resp_rty_pend := field o 484 4 = TLRESP_CODE_RTY || field o 484 4 = TLRESP_CODE_PEND
  BitVec.ofBool ((bit o 507 && !bit o 504) || (resp_fail && !resp_rty_pend))
    ++ BitVec.ofBool (bit o 506 && !bit o 504)
    ++ BitVec.ofBool ((resp_fail && resp_rty_only) || field o 504 8 = TL_XLATE_DONE)

/-! ### Stored commands -/

def fromTLxCStore (o : OCxFlit) (fl : BitVec 215) : OCxFlit :=
  setField (setField (setField (setField (setField (setField (setField (setField (setField (setField
    (setField o 297 (field fl 199 16)) 504 (field fl 191 8)) 440 (field fl 127 64))
    424 (field fl 111 16)) 422 (field fl 109 2)) 419 (field fl 106 3)) 355 (field fl 42 64))
    343 (field fl 30 12)) 339 (field fl 26 4)) 319 (field fl 6 20)) 291 (field fl 0 6)

def setTLxCmdRespAnno (o : OCxFlit) (cd : BitVec 4) : OCxFlit :=
  setField o 313 (cd.setWidth 6 : BitVec 6)

def setCappTagLocal (o : OCxFlit) (tag : Tag) : OCxFlit := setField o 297 tag

def getCappTagOrig (o : OCxFlit) : Tag := field o 424 16

def getNetId (o : OCxFlit) : BitVec 6 := field o 291 6

def setNetId (o : OCxFlit) (netid : BitVec 6) : OCxFlit := setField o 291 netid

end OCxFlit

/-- The number of data flits a data length stands for, in the one-hot code both engines build:
bit 2 for `11`, bit 1 for `10`, bit 0 for `01` and `00`. -/
def dataSize (dl : BitVec 2) : BitVec 3 :=
  BitVec.ofBool (dl.getLsbD 1 && dl.getLsbD 0) ++ BitVec.ofBool (dl.getLsbD 1 && !dl.getLsbD 0)
    ++ BitVec.ofBool (!dl.getLsbD 1)

lemma dataSize_pos (dl : BitVec 2) : 0 < (dataSize dl).toNat := by
  revert dl; decide

/-! ## The fields of a stored command

The engines copy a stream word into an `OCxFlit` and ask the object.  These are the same questions
asked of the word itself; the object's answer does not depend on what it held before.
-/

/-- The response code the response engine left in the page size field of a retried command. -/
def cmdAnno (fl : Flit512) : BitVec 4 := (field fl 313 6).setWidth 4

/-- The command is of the write family: opcode bit 5. -/
def cmdIsWrite (fl : Flit512) : Bool := bit fl 509

/-- The data length of the command. -/
def cmdDl (fl : Flit512) : BitVec 2 := field fl 422 2

lemma field_fromOCxFlit (o : OCxFlit) (fl : Flit512) {lo len : ℕ} (h : lo + len ≤ 512) :
    field (o.fromOCxFlit fl) lo len = field fl lo len := by
  apply BitVec.eq_of_getLsbD_eq
  intro i hi
  have h1 : lo + i < 513 := by omega
  have h2 : lo + i < 512 := by omega
  rw [getLsbD_field, getLsbD_field, OCxFlit.fromOCxFlit, getLsbD_setField]
  simp [h1, h2, -BitVec.getLsbD_eq_getElem]

@[simp] lemma getTLxCmdRespAnno_fromOCxFlit (o : OCxFlit) (fl : Flit512) :
    (o.fromOCxFlit fl).getTLxCmdRespAnno = cmdAnno fl := by
  rw [OCxFlit.getTLxCmdRespAnno, field_fromOCxFlit o fl (by omega), cmdAnno]

@[simp] lemma getDl_fromOCxFlit (o : OCxFlit) (fl : Flit512) :
    (o.fromOCxFlit fl).getDl = cmdDl fl :=
  field_fromOCxFlit o fl (by omega)

@[simp] lemma tlxCmdIsWrite_fromOCxFlit (o : OCxFlit) (fl : Flit512) :
    (o.fromOCxFlit fl).tlxCmdIsWrite = cmdIsWrite fl := by
  rw [OCxFlit.tlxCmdIsWrite, cmdIsWrite, bit, bit, OCxFlit.fromOCxFlit, getLsbD_setField]
  simp

end ThymesisFlow
