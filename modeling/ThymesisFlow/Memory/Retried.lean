import ThymesisFlow.Memory.IssueLog
import ThymesisFlow.Memory.RtyScript

/-!
# Retried commands

A command that the host wants again comes back from the lookup BRAMs, through the response engine and the
retry engine, to the memory ingress.  In the log of the node it is a transaction of its own, which should
repeat the last command of the network with its tag: the same command but for the page size field, and the
same data.  So it does, but for writes of 64 bytes: the memory ingress stores their data flit in the second
data BRAM, and the response engine replays the first.
-/

namespace ThymesisFlow

/-! ## The words of a repeated command -/

namespace IngressTxn

/-- The command for the TLX is that of `y`, but for the page size field. -/
def Repeats (x y : IngressTxn) : Prop := x.tag = y.tag ∧ field x.cmd 6 194 = field y.cmd 6 194

instance (x y : IngressTxn) : Decidable (x.Repeats y) := inferInstanceAs (Decidable (_ ∧ _))

/-- A write of 64 bytes. -/
def ShortWrite (x : IngressTxn) : Prop := cmdIsWrite x.flit = true ∧ cmdDl x.flit = 0b01

instance (x : IngressTxn) : Decidable x.ShortWrite := inferInstanceAs (Decidable (_ ∧ _))

instance (x : IngressTxn) : Decidable x.Whole := inferInstanceAs (Decidable (_ = _))

lemma cmd_fields {x : IngressTxn} (h : x.fresh = true) : field x.cmd 199 1 = 0 ∧
    field x.cmd 127 72 = field x.flit 440 72 ∧ field x.cmd 111 16 = x.tag ∧
    field x.cmd 42 69 = field x.flit 355 69 ∧ field x.cmd 30 12 = x.actag ∧
    field x.cmd 26 4 = field x.flit 339 4 ∧ field x.cmd 6 20 = 0 := by
  rw [cmd, if_pos h]
  refine ⟨?_, ?_, ?_, ?_, ?_, ?_, ?_⟩ <;>
    simp (disch := decide) only [field_append_high, Nat.reduceSub, field_append_right]
  all_goals rfl

lemma record_fields (x : IngressTxn) : field x.record 127 72 = field x.flit 440 72 ∧
    field x.record 42 69 = field x.flit 355 69 ∧ field x.record 30 12 = x.actag ∧
    field x.record 26 4 = field x.flit 339 4 ∧ field x.record 6 20 = 0 := by
  rw [record]
  refine ⟨?_, ?_, ?_, ?_, ?_⟩ <;>
    simp (disch := decide) only [field_append_high, Nat.reduceSub, field_append_right]
  rfl

lemma old_fields {x : IngressTxn} (h : x.fresh = false) : field x.cmd 199 1 = 0 ∧
    field x.cmd 127 72 = field x.flit 440 72 ∧ field x.cmd 111 16 = x.tag ∧
    field x.cmd 0 111 = field x.flit 313 111 := by
  rw [cmd, if_neg (by rw [h]; exact Bool.false_ne_true)]
  refine ⟨?_, ?_, ?_, ?_⟩ <;>
    simp (disch := decide) only [field_append_high, Nat.reduceSub, field_append_right]
  rfl

/-- The command for the TLX has the shape of the flit. -/
lemma wordShape_cmd (x : IngressTxn) : wordShape x.cmd = flitShape x.flit := by
  cases hfresh : x.fresh with
  | true =>
      obtain ⟨-, hop, -, hdl, -⟩ := cmd_fields hfresh
      exact wordShape_of_fields hop hdl
  | false =>
      obtain ⟨-, hop, -, hlow⟩ := old_fields hfresh
      refine wordShape_of_fields hop ?_
      have hx : field (field x.cmd 0 111) 42 69 = field x.cmd 42 69 := field_field _ (by decide)
      have hf : field (field x.flit 313 111) 42 69 = field x.flit 355 69 := field_field _ (by decide)
      rw [hlow] at hx
      exact hx.symm.trans hf

lemma size_eq (x : IngressTxn) : x.size = (flitShape x.flit).size := toNat_cmdDflitSize x.flit

/-- A TLX command but for its lowest field. -/
lemma upper_ext {v w : BitVec 200} (h199 : field v 199 1 = field w 199 1)
    (h127 : field v 127 72 = field w 127 72) (h111 : field v 111 16 = field w 111 16)
    (h6 : field v 6 105 = field w 6 105) : field v 6 194 = field w 6 194 := by
  have hparts (u : BitVec 200) : (field u 199 1 ++ field u 127 72 ++ field u 111 16
      ++ field u 6 105 : BitVec 194) = field u 6 194 := by
    rw [field_append_field u (show 199 = 127 + 72 from rfl),
      field_append_field u (show 127 = 111 + 16 from rfl),
      field_append_field u (show 111 = 6 + 105 from rfl)]
  rw [← hparts, ← hparts, h199, h127, h111, h6]

/-- A command that is repeated keeps its shape. -/
lemma Repeats.shape {x y : IngressTxn} (h : x.Repeats y) : flitShape x.flit = flitShape y.flit := by
  have hbit (k : ℕ) (hk : k < 194) : bit x.cmd (6 + k) = bit y.cmd (6 + k) := by
    rw [bit_eq_field x.cmd 6 194 hk, bit_eq_field y.cmd 6 194 hk, h.2]
  have hdl : field x.cmd 109 2 = field y.cmd 109 2 := by
    have hx : field (field x.cmd 6 194) 103 2 = field x.cmd 109 2 := field_field _ (by decide)
    have hy : field (field y.cmd 6 194) 103 2 = field y.cmd 109 2 := field_field _ (by decide)
    rw [← hx, ← hy, h.2]
  rw [← wordShape_cmd, ← wordShape_cmd]
  exact CmdShape.ext (hbit 190 (by decide)) hdl (congrArg (! ·) (hbit 191 (by decide)))

lemma Repeats.size {x y : IngressTxn} (h : x.Repeats y) : x.size = y.size := by
  rw [size_eq, size_eq, h.shape]

end IngressTxn

/-- The middle part of a word from its fields. -/
lemma middle_ext {n m : ℕ} {v : BitVec n} {w : BitVec m} (h42 : field v 42 69 = field w 42 69)
    (h30 : field v 30 12 = field w 30 12) (h26 : field v 26 4 = field w 26 4)
    (h6 : field v 6 20 = field w 6 20) : field v 6 105 = field w 6 105 := by
  have hparts {k : ℕ} (u : BitVec k) : (field u 42 69 ++ field u 30 12 ++ field u 26 4
      ++ field u 6 20 : BitVec 105) = field u 6 105 := by
    rw [field_append_field u (show 42 = 30 + 12 from rfl),
      field_append_field u (show 30 = 26 + 4 from rfl),
      field_append_field u (show 26 = 6 + 20 from rfl)]
  rw [← hparts, ← hparts, h42, h30, h26, h6]

/-- What a retried command keeps of the record. -/
lemma RespEng.comboRetry_fields (e : RespEng) (c : RespCombo) :
    field (comboRetry e c) 440 72 = field (field c 0 215) 127 72 ∧
      field (comboRetry e c) 319 105 = field (field c 0 215) 6 105 := by
  obtain ⟨h504, h440, -, h422, h419, h355, h343, h339, h319, -⟩ :=
    OCxFlit.field_fromTLxCStore 0 (field c 0 215)
  rw [← field_comboRetry e c (by decide) (by decide)] at h504 h440 h422 h419 h355 h343 h339 h319
  generalize comboRetry e c = f at *
  generalize field c 0 215 = r at *
  constructor
  · have hparts : (field f 504 8 ++ field f 440 64 : BitVec 72) = field f 440 72 :=
      field_append_field f rfl
    rw [← hparts, h504, h440]
    exact field_append_field r rfl
  · have hparts : (field f 422 2 ++ field f 419 3 ++ field f 355 64 ++ field f 343 12
        ++ field f 339 4 ++ field f 319 20 : BitVec 105) = field f 319 105 := by
      rw [field_append_field f (show 422 = 419 + 3 from rfl),
        field_append_field f (show 419 = 355 + 64 from rfl),
        field_append_field f (show 355 = 343 + 12 from rfl),
        field_append_field f (show 343 = 339 + 4 from rfl),
        field_append_field f (show 339 = 319 + 20 from rfl)]
    rw [← hparts, h422, h419, h355, h343, h339, h319,
      field_append_field r (show 109 = 106 + 3 from rfl),
      field_append_field r (show 106 = 42 + 64 from rfl),
      field_append_field r (show 42 = 30 + 12 from rfl),
      field_append_field r (show 30 = 26 + 4 from rfl),
      field_append_field r (show 26 = 6 + 20 from rfl)]

/-- **The record gives the command back.** -/
lemma repeats_comboRetry {e : RespEng} {c : RespCombo} {y : IngressTxn} (hfresh : y.fresh = true)
    (hrecord : field c 0 215 = ((field y.record 0 199).setWidth 215 : StoredCmd))
    (htag : TlResp.capptag (field c 215 38) = y.tag) :
    (IngressTxn.retry (RespEng.comboRetry e c)).Repeats y := by
  obtain ⟨h440, h319⟩ := RespEng.comboRetry_fields e c
  have htag' := (RespEng.rtyTag_comboRetry e c).trans htag
  have hlow {lo len : ℕ} (h : lo + len ≤ 199) :
      field (field c 0 215) lo len = field y.record lo len := by
    rw [hrecord, field_setWidth _ (by omega), field_field _ h, Nat.zero_add]
  rw [hlow (by decide)] at h440 h319
  generalize RespEng.comboRetry e c = f at *
  obtain ⟨hx199, hx127, hx111, hx0⟩ := IngressTxn.old_fields (x := IngressTxn.retry f) rfl
  obtain ⟨hy199, hy127, hy111, hy42, hy30, hy26, hy6⟩ := IngressTxn.cmd_fields hfresh
  obtain ⟨hr127, hr42, hr30, hr26, hr6⟩ := y.record_fields
  refine ⟨htag', IngressTxn.upper_ext (hx199.trans hy199.symm) ?_ ?_ ?_⟩
  · rw [hx127, hy127, ← hr127]
    exact h440
  · rw [hx111, hy111]
    exact htag'
  · have hx : field (field (IngressTxn.retry f).cmd 0 111) 6 105 = field (IngressTxn.retry f).cmd 6 105 :=
      field_field _ (by decide)
    have hf : field (field f 313 111) 6 105 = field f 319 105 := field_field _ (by decide)
    rw [← hx, hx0]
    refine hf.trans (h319.trans ?_)
    exact middle_ext (hr42.trans hy42.symm) (hr30.trans hy30.symm) (hr26.trans hy26.symm)
      (hr6.trans hy6.symm)

/-! ## What the streams carry -/

/-- The command `f` of the retry path repeats the last command of the network with its tag, which has all
its data and is no write of 64 bytes. -/
def RepeatsLatest (txns : List IngressTxn) (f : Flit512) : Prop :=
  ∃ y, latest txns (tagRow (rtyTag f)) = some y ∧ (IngressTxn.retry f).Repeats y ∧ y.Whole ∧
    ¬ y.ShortWrite

/-- The data behind it: of a write of 128 bytes the data of the first issue. -/
def prescribed (txns : List IngressTxn) (f : Flit512) : List (Option Flit512) :=
  (List.range (rtySize f)).map fun k =>
    if rtySize f = 2 then (latest txns (tagRow (rtyTag f))).bind fun y => y.data[k]? else none

lemma length_prescribed (txns : List IngressTxn) (f : Flit512) :
    (prescribed txns f).length = rtySize f := by
  rw [prescribed, List.length_map, List.length_range]

/-- Of a write of 128 bytes all data is prescribed. -/
lemma prescribed_of_two {txns : List IngressTxn} {f : Flit512} {y : IngressTxn}
    (hy : latest txns (tagRow (rtyTag f)) = some y) (hsize : rtySize f = 2) (hdata : y.data.length = 2) :
    prescribed txns f = y.data.map some := by
  obtain ⟨a, b, hab⟩ := List.length_eq_two.mp hdata
  simp [prescribed, hsize, hy, hab, List.range_succ]

/-- What is prescribed is data of a write of 128 bytes. -/
lemma getElem?_prescribed {txns : List IngressTxn} {f : Flit512} {y : IngressTxn} {k : ℕ}
    {a : Flit512} (hy : latest txns (tagRow (rtyTag f)) = some y)
    (h : (prescribed txns f)[k]? = some (some a)) : rtySize f = 2 ∧ y.data[k]? = some a := by
  rw [prescribed, List.getElem?_map, hy] at h
  obtain ⟨j, hj, ha⟩ := Option.map_eq_some_iff.mp h
  obtain ⟨hlt, rfl⟩ := List.getElem?_eq_some_iff.mp hj
  by_cases hsize : rtySize f = 2
  · rw [if_pos hsize, List.getElem_range] at ha
    exact ⟨hsize, ha⟩
  · rw [if_neg hsize] at ha
    cases ha

/-- What is prescribed depends on the last command with the tag. -/
lemma prescribed_congr {txns txns' : List IngressTxn} {f : Flit512}
    (h : latest txns' (tagRow (rtyTag f)) = latest txns (tagRow (rtyTag f))) :
    prescribed txns' f = prescribed txns f := by
  rw [prescribed, prescribed, h]

end ThymesisFlow
