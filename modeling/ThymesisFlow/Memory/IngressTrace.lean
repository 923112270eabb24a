import ThymesisFlow.Lib.Framing
import ThymesisFlow.Lib.Machine
import ThymesisFlow.Memory.IngressCycle

/-!
# The transactions of the memory ingress

A command and the data flits behind it are a transaction.  `IngressTrace` describes a run of the
memory ingress by the list of its transactions: what was taken from the two streams, what went to
the TLX, and what the lookup BRAMs hold are all read off that list.
-/

namespace ThymesisFlow

/-! ## The lookup BRAMs -/

/-- The address range of a lookup BRAM: 512 rows of `2 ^ lo` bytes. -/
def bramRow (lo : ℕ) (addr : BitVec 32) : BitVec 9 := field addr lo 9

/-- The row of the lookup BRAMs for a CAPPTAG. -/
def tagRow (tag : Tag) : BitVec 9 := field tag 0 9

/-- A BRAM after a cycle of its write port. -/
def bramWrite {w : ℕ} (lo : ℕ) (mem : BitVec 9 → BitVec w) (en : Bool) (p : LookupPort w) :
    BitVec 9 → BitVec w :=
  fun row => if en && p.we && bramRow lo p.addr = row then p.din else mem row

lemma bramWrite_silent {w lo : ℕ} (mem : BitVec 9 → BitVec w) (en : Bool) {p : LookupPort w}
    (h : p.we = false) : bramWrite lo mem en p = mem := by
  funext row
  rw [bramWrite, h, Bool.and_false, Bool.false_and, if_neg Bool.false_ne_true]

lemma bramRow_setField {lo : ℕ} (hlo : lo + 16 ≤ 32) (addr : BitVec 32) (t : Tag) :
    bramRow lo (setField addr lo t) = tagRow t := by
  have h : field (field (setField addr lo t) lo 16) 0 9 = field (setField addr lo t) lo 9 :=
    field_field _ (by decide)
  rw [field_setField_self _ _ _ hlo] at h
  exact h.symm

lemma toNat_tagRow (t : Tag) : (tagRow t).toNat = t.toNat % 512 := by
  simp [tagRow, field]

/-- The tags have rows of their own. -/
lemma tagRow_inj {t t' : Tag} (h : 1 ≤ t.toNat ∧ t.toNat ≤ 512) (h' : 1 ≤ t'.toNat ∧ t'.toNat ≤ 512)
    (hrow : tagRow t = tagRow t') : t = t' := by
  have hnat := congrArg BitVec.toNat hrow
  rw [toNat_tagRow, toNat_tagRow] at hnat
  exact BitVec.eq_of_toNat_eq (by omega)

/-- The memory ingress with the lookup BRAMs that it writes. -/
structure LookupIngress where
  ingress : MemoryIngress := {}
  cmdlookup : BitVec 9 → BitVec 256 := fun _ => 0
  data0lookup : BitVec 9 → Flit512 := fun _ => 0
  data1lookup : BitVec 9 → Flit512 := fun _ => 0

namespace LookupIngress

variable (s : LookupIngress)

/-- The command BRAM after the write that its port has been given. -/
def storeCmd : BitVec 9 → BitVec 256 :=
  bramWrite 5 s.cmdlookup s.ingress.lookup_port_en_q s.ingress.cmdlookup

def store0 : BitVec 9 → Flit512 :=
  bramWrite 6 s.data0lookup s.ingress.lookup_port_en_q s.ingress.d0lookup

def store1 : BitVec 9 → Flit512 :=
  bramWrite 6 s.data1lookup s.ingress.lookup_port_en_q s.ingress.d1lookup

def step (i : MemoryIngressIn) : LookupIngress where
  ingress := s.ingress.step i
  cmdlookup := s.storeCmd
  data0lookup := s.store0
  data1lookup := s.store1

end LookupIngress

def lookupIngress : Machine LookupIngress MemoryIngressIn := ⟨{}, LookupIngress.step⟩

/-! ## What a cycle takes and gives -/

namespace MemoryIngress

variable (s : MemoryIngress) (i : MemoryIngressIn)

def netTaken : List Flit512 := if s.takesNet i then [i.netflit_in_tdata] else []

def rtyTaken : List Flit512 := if s.takesRty i then [i.rty_in_tdata] else []

def tagTaken : List Tag := if s.takesTag i then [i.capptag_fifo_tdata] else []

/-- The data handed to the TLX in a cycle. -/
def issuedData : List (BitVec 520) :=
  if s.tlx_data_valid_q && i.tlx_data_tready then [s.tlx_data_tdata_q] else []

/-- The data in the output register. -/
def heldData : List (BitVec 520) := if s.tlx_data_valid_q then [s.tlx_data_tdata_q] else []

end MemoryIngress

/-! ## Transactions -/

/-- The number of data flits behind a command. -/
def dataFlits (f : Flit512) : ℕ := (cmdDflitSize f).toNat

/-- A command of the network (`fresh`), which has got a tag, or of the retry path, which has its
own; with the data taken so far.  `actag` is the acTag in the cycle in which it was taken. -/
structure IngressTxn where
  fresh : Bool
  flit : Flit512
  tag : Tag
  actag : BitVec 12 := 0
  data : List Flit512 := []
  deriving DecidableEq, Repr

namespace IngressTxn

variable (x : IngressTxn)

/-- The flits of the transaction. -/
def words : List Flit512 := x.flit :: x.data

def size : ℕ := dataFlits x.flit

/-- The command for the TLX. -/
def cmd : BitVec 200 :=
  if x.fresh then
    0#1 ++ field x.flit 440 72 ++ x.tag ++ field x.flit 355 69 ++ x.actag ++ field x.flit 339 4
      ++ 0#20 ++ field x.flit 313 6
  else 0#1 ++ field x.flit 440 72 ++ x.tag ++ field x.flit 313 111

/-- The record in the command BRAM. -/
def record : BitVec 256 :=
  0#41 ++ x.tag ++ field x.flit 440 72 ++ field x.flit 424 16 ++ field x.flit 355 69 ++ x.actag
    ++ field x.flit 339 4 ++ 0#20 ++ field x.flit 291 6

/-- All data has been taken. -/
def Whole : Prop := x.data.length = x.size

end IngressTxn

/-- A data flit for the TLX: bit 512 would say that it is bad. -/
def tlxData (f : Flit512) : BitVec 520 := 0#7 ++ (0#1 ++ f : BitVec 513)

/-- The command that assigns the acTag. -/
def actagCmd (actag : BitVec 12) : BitVec 200 :=
  setField (setField (setField 0 191 actagCmdOp) 30 actag) 6 (0 : BitVec 20)

/-- The acTag that a cycle has to assign. -/
def MemoryIngressIn.actag (i : MemoryIngressIn) : Option (BitVec 12) :=
  if i.enable then some i.active_actag else none

/-- The assignment of the acTag in a run: it is that of the first move that has one. -/
def assigned {ι : Type} (actag : ι → Option (BitVec 12)) (ms : List ι) : List (BitVec 200) :=
  ((ms.findSome? actag).map actagCmd).toList

/-- The assignment after one more cycle. -/
def MemoryIngressIn.assign (i : MemoryIngressIn) (first : List (BitVec 200)) : List (BitVec 200) :=
  if first = [] then (i.actag.map actagCmd).toList else first

/-- The assignment is the first one that there is. -/
lemma assigned_concat {ι : Type} (actag : ι → Option (BitVec 12)) (ms : List ι) (m : ι) :
    assigned actag (ms ++ [m])
      = if assigned actag ms = [] then ((actag m).map actagCmd).toList else assigned actag ms := by
  rw [assigned, assigned, List.findSome?_append]
  cases ms.findSome? actag with
  | none => simp
  | some a => simp

/-- The assignment is seen in the cycles of a module as in the moves of the whole. -/
lemma assigned_collect {σ ι κ : Type} (M : Machine σ ι) {out : σ → ι → List κ}
    {actag : κ → Option (BitVec 12)} {actag' : ι → Option (BitVec 12)}
    (h : ∀ s i, (out s i).findSome? actag = actag' i) (is : List ι) :
    assigned actag (M.collect out is) = assigned actag' is := by
  rw [assigned, M.findSome?_collect h, assigned]

/-- The last command of the network whose tag has the row. -/
def latest (txns : List IngressTxn) (row : BitVec 9) : Option IngressTxn :=
  txns.reverse.find? fun x => x.fresh && tagRow x.tag = row

lemma latest_concat (txns : List IngressTxn) (x : IngressTxn) (row : BitVec 9) :
    latest (txns ++ [x]) row
      = if x.fresh && tagRow x.tag = row then some x else latest txns row := by
  rw [latest, List.reverse_append, List.reverse_singleton, List.singleton_append, List.find?_cons]
  cases x.fresh && tagRow x.tag = row <;> rfl

/-! ## The words of a transaction -/

namespace MemoryIngress

variable {s : MemoryIngress} {i : MemoryIngressIn}

lemma netTlxCmd_top : field (s.netTlxCmd i) 199 1 = field s.tlx_cmd_q 199 1 := by
  rw [netTlxCmd]
  simp [field_setField_of_disjoint]

lemma netRecord_top : field (s.netRecord i) 215 41 = field s.cmdlookup.din 215 41 := by
  rw [netRecord]
  simp [field_setField_of_disjoint]

lemma takeRtyCmd_top : field (s.takeRtyCmd i).tlx_cmd_q 199 1 = field s.tlx_cmd_q 199 1 := by
  rw [takeRtyCmd]
  simp [field_setField_of_disjoint]

lemma netTlxCmd_eq (htop : field s.tlx_cmd_q 199 1 = 0) (tag : Tag)
    (htag : i.capptag_fifo_tdata = tag) : s.netTlxCmd i
      = IngressTxn.cmd ⟨true, i.netflit_in_tdata, tag, i.active_actag, []⟩ := by
  have hparts : (field (s.netTlxCmd i) 199 1 ++ field (s.netTlxCmd i) 127 72
      ++ field (s.netTlxCmd i) 111 16 ++ field (s.netTlxCmd i) 42 69 ++ field (s.netTlxCmd i) 30 12
      ++ field (s.netTlxCmd i) 26 4 ++ field (s.netTlxCmd i) 6 20
      ++ field (s.netTlxCmd i) 0 6 : BitVec 200) = s.netTlxCmd i := by
    rw [field_append_field _ (show 199 = 127 + 72 from rfl),
      field_append_field _ (show 127 = 111 + 16 from rfl),
      field_append_field _ (show 111 = 42 + 69 from rfl),
      field_append_field _ (show 42 = 30 + 12 from rfl),
      field_append_field _ (show 30 = 26 + 4 from rfl),
      field_append_field _ (show 26 = 6 + 20 from rfl), field_append_field _ (show 6 = 0 + 6 from rfl)]
    exact field_self _
  have hfields : field (s.netTlxCmd i) 199 1 = 0 ∧
      field (s.netTlxCmd i) 127 72 = field i.netflit_in_tdata 440 72 ∧
      field (s.netTlxCmd i) 111 16 = tag ∧
      field (s.netTlxCmd i) 42 69 = field i.netflit_in_tdata 355 69 ∧
      field (s.netTlxCmd i) 30 12 = i.active_actag ∧
      field (s.netTlxCmd i) 26 4 = field i.netflit_in_tdata 339 4 ∧
      field (s.netTlxCmd i) 6 20 = 0 ∧
      field (s.netTlxCmd i) 0 6 = field i.netflit_in_tdata 313 6 := by
    rw [netTlxCmd]
    simp [field_setField_of_disjoint, htag, htop]
  obtain ⟨h1, h2, h3, h4, h5, h6, h7, h8⟩ := hfields
  rw [← hparts, h1, h2, h3, h4, h5, h6, h7, h8]
  rfl

lemma netRecord_eq (htop : field s.cmdlookup.din 215 41 = 0) : s.netRecord i
      = IngressTxn.record ⟨true, i.netflit_in_tdata, i.capptag_fifo_tdata, i.active_actag, []⟩ := by
  have hparts : (field (s.netRecord i) 215 41 ++ field (s.netRecord i) 199 16
      ++ field (s.netRecord i) 127 72 ++ field (s.netRecord i) 111 16 ++ field (s.netRecord i) 42 69
      ++ field (s.netRecord i) 30 12 ++ field (s.netRecord i) 26 4 ++ field (s.netRecord i) 6 20
      ++ field (s.netRecord i) 0 6 : BitVec 256) = s.netRecord i := by
    rw [field_append_field _ (show 215 = 199 + 16 from rfl),
      field_append_field _ (show 199 = 127 + 72 from rfl),
      field_append_field _ (show 127 = 111 + 16 from rfl),
      field_append_field _ (show 111 = 42 + 69 from rfl),
      field_append_field _ (show 42 = 30 + 12 from rfl),
      field_append_field _ (show 30 = 26 + 4 from rfl),
      field_append_field _ (show 26 = 6 + 20 from rfl), field_append_field _ (show 6 = 0 + 6 from rfl)]
    exact field_self _
  have hfields : field (s.netRecord i) 215 41 = 0 ∧
      field (s.netRecord i) 199 16 = i.capptag_fifo_tdata ∧
      field (s.netRecord i) 127 72 = field i.netflit_in_tdata 440 72 ∧
      field (s.netRecord i) 111 16 = field i.netflit_in_tdata 424 16 ∧
      field (s.netRecord i) 42 69 = field i.netflit_in_tdata 355 69 ∧
      field (s.netRecord i) 30 12 = i.active_actag ∧
      field (s.netRecord i) 26 4 = field i.netflit_in_tdata 339 4 ∧
      field (s.netRecord i) 6 20 = 0 ∧
      field (s.netRecord i) 0 6 = field i.netflit_in_tdata 291 6 := by
    rw [netRecord]
    simp [field_setField_of_disjoint, htop]
  obtain ⟨h1, h2, h3, h4, h5, h6, h7, h8, h9⟩ := hfields
  rw [← hparts, h1, h2, h3, h4, h5, h6, h7, h8, h9]
  rfl

lemma rtyTlxCmd_eq (htop : field s.tlx_cmd_q 199 1 = 0) : (s.takeRtyCmd i).tlx_cmd_q
      = IngressTxn.cmd ⟨false, i.rty_in_tdata, field i.rty_in_tdata 297 16, 0, []⟩ := by
  generalize hx : (s.takeRtyCmd i).tlx_cmd_q = x
  have hparts : (field x 199 1 ++ field x 127 72 ++ field x 111 16 ++ field x 0 111 : BitVec 200)
      = x := by
    rw [field_append_field _ (show 199 = 127 + 72 from rfl),
      field_append_field _ (show 127 = 111 + 16 from rfl),
      field_append_field _ (show 111 = 0 + 111 from rfl)]
    exact field_self _
  have hfields : field x 199 1 = 0 ∧ field x 127 72 = field i.rty_in_tdata 440 72 ∧
      field x 111 16 = field i.rty_in_tdata 297 16 ∧
      field x 0 111 = field i.rty_in_tdata 313 111 := by
    rw [← hx, takeRtyCmd]
    simp [field_setField_of_disjoint, htop]
  obtain ⟨h1, h2, h3, h4⟩ := hfields
  rw [← hparts, h1, h2, h3, h4]
  rfl

/-- The upper bits of the data register stay 0. -/
lemma tlxData_eq {q : BitVec 520} (htop : field q 513 7 = 0) (f : Flit512) :
    setField q 0 (0#1 ++ f : BitVec 513) = tlxData f := by
  generalize hx : setField q 0 (0#1 ++ f : BitVec 513) = x
  have hparts : (field x 513 7 ++ field x 0 513 : BitVec 520) = x := by
    rw [field_append_field _ (show 513 = 0 + 513 from rfl)]
    exact field_self _
  have hfields : field x 513 7 = 0 ∧ field x 0 513 = (0#1 ++ f : BitVec 513) := by
    rw [← hx]
    simp [field_setField_of_disjoint, htop]
  rw [← hparts, hfields.1, hfields.2]
  rfl

end MemoryIngress

/-! ## The trace -/

/-- What has been taken from the three streams, and what has been given to the TLX. -/
structure IngressHistory where
  net : List Flit512 := []
  rty : List Flit512 := []
  tags : List Tag := []
  cmds : List (BitVec 200) := []
  data : List (BitVec 520) := []

/-- The history after one more cycle. -/
def IngressHistory.add (h : IngressHistory) (s : MemoryIngress) (i : MemoryIngressIn) :
    IngressHistory where
  net := h.net ++ s.netTaken i
  rty := h.rty ++ s.rtyTaken i
  tags := h.tags ++ s.tagTaken i
  cmds := h.cmds ++ s.issued i
  data := h.data ++ s.issuedData i

/-- The last transaction may still take data, from the stream its command came from. -/
inductive Current (s : MemoryIngress) : List IngressTxn → Prop
  | rest {txns : List IngressTxn} (hsm : s.smstate ≠ .RECEIVE_DATA) (hwhole : ∀ x ∈ txns, x.Whole) :
      Current s txns
  | net {pre : List IngressTxn} {x : IngressTxn} (hsm : s.smstate = .RECEIVE_DATA)
      (hwhole : ∀ y ∈ pre, y.Whole) (hfresh : x.fresh = true)
      (hlen : x.data.length + s.dflit_size.toNat = x.size) (hrty : s.dflit_size_rty = 0)
      (haddr : field s.cmdlookup.addr 5 16 = x.tag) : Current s (pre ++ [x])
  | rty {pre : List IngressTxn} {x : IngressTxn} (hsm : s.smstate = .RECEIVE_DATA)
      (hwhole : ∀ y ∈ pre, y.Whole) (hfresh : x.fresh = false)
      (hlen : x.data.length + s.dflit_size_rty.toNat = x.size) (hnet : s.dflit_size = 0) :
      Current s (pre ++ [x])

/-- The bits of the registers that nothing writes. -/
structure Tops (s : MemoryIngress) : Prop where
  cmd : field s.tlx_cmd_q 199 1 = 0
  record : field s.cmdlookup.din 215 41 = 0
  data : field s.tlx_data_tdata_q 513 7 = 0

/-- The records and the data of the last command for each row. -/
structure Kept (s : LookupIngress) (txns : List IngressTxn) : Prop where
  cmd : ∀ row x, latest txns row = some x → s.storeCmd row = x.record
  data0 : ∀ row x a, latest txns row = some x → x.size = 2 → x.data[0]? = some a → s.store0 row = a
  data1 : ∀ row x a, latest txns row = some x → x.size = 2 → x.data[1]? = some a → s.store1 row = a

/-- The memory ingress after the transactions `txns`, the first of which came behind the assignment
`first` of the acTag. -/
structure IngressTrace (s : LookupIngress) (h : IngressHistory) (first : List (BitVec 200))
    (txns : List IngressTxn) : Prop where
  orderly : s.ingress.Orderly
  tops : Tops s.ingress
  current : Current s.ingress txns
  net : h.net = (txns.filter (·.fresh)).flatMap IngressTxn.words
  rty : h.rty = (txns.filter (!·.fresh)).flatMap IngressTxn.words
  tags : h.tags = (txns.filter (·.fresh)).map IngressTxn.tag
  own : ∀ x ∈ txns, x.fresh = false → x.tag = field x.flit 297 16
  cmds : h.cmds ++ s.ingress.held = first ++ txns.map IngressTxn.cmd
  data : h.data ++ s.ingress.heldData = txns.flatMap fun x => x.data.map tlxData
  start : if s.ingress.smstate = .INIT then first = [] ∧ txns = [] ∧ s.ingress.tlx_cmd_q = 0
    else ∃ actag, first = [actagCmd actag]
  kept : Kept s txns

namespace MemoryIngress

variable {s : MemoryIngress} {i : MemoryIngressIn}

/-- No data was taken. -/
lemma heldData_of_keep (hdata : (s.datapath i).tlx_data_tdata_q = s.tlx_data_tdata_q)
    (hvalid : (s.datapath i).tlx_data_valid_q = (s.tlx_data_valid_q && !i.tlx_data_tready)) :
    s.issuedData i ++ (s.step i).heldData = s.heldData := by
  have hq : (s.step i).tlx_data_tdata_q = s.tlx_data_tdata_q := hdata
  have hv : (s.step i).tlx_data_valid_q = (s.tlx_data_valid_q && !i.tlx_data_tready) := hvalid
  rw [issuedData, heldData, heldData, hq, hv]
  exact read_out s.tlx_data_tdata_q s.tlx_data_valid_q i.tlx_data_tready

/-- A data flit was taken, and the one before it went out. -/
lemma heldData_of_take (hready : i.tlx_data_tready = true)
    (hvalid : (s.datapath i).tlx_data_valid_q = true) :
    s.issuedData i ++ (s.step i).heldData = s.heldData ++ [(s.datapath i).tlx_data_tdata_q] := by
  have hq : (s.step i).tlx_data_tdata_q = (s.datapath i).tlx_data_tdata_q := rfl
  have hv : (s.step i).tlx_data_valid_q = true := hvalid
  rw [issuedData, heldData, heldData, hq, hv, hready, Bool.and_true, if_pos rfl]

/-- The state machine does not come back to state INIT. -/
lemma not_init_step (h : s.Orderly) (h' : (s.step i).Orderly) (hsm : s.smstate ≠ .INIT) :
    (s.step i).smstate ≠ .INIT := by
  intro hx
  have hen := h'.en
  have hen' : (s.step i).lookup_port_en_q = (s.lookup_port_en_q || (s.smstate = .INIT && i.enable)) :=
    rfl
  rw [hen', h.en, decide_eq_true hsm, hx] at hen
  cases hen

/-- Data is expected if and only if a size says so. -/
lemma receiving_iff (h : s.Orderly) :
    s.smstate = .RECEIVE_DATA ↔ s.dflit_size ≠ 0 ∨ s.dflit_size_rty ≠ 0 := by
  constructor
  · intro hsm
    cases h.data hsm with
    | net hsize => exact .inl (by rcases hsize with h1 | h1 | h1 <;> rw [h1] <;> decide)
    | rty hsize => exact .inr (by rcases hsize with h1 | h1 <;> rw [h1] <;> decide)
  · intro hsize
    by_contra hsm
    obtain ⟨h1, h2⟩ := h.idle hsm
    rcases hsize with h | h
    · exact h h1
    · exact h h2

end MemoryIngress

/-! ## One cycle -/

lemma Current.congr {s s' : MemoryIngress} {txns : List IngressTxn} (h : Current s txns)
    (hsm : s'.smstate = s.smstate) (hsize : s'.dflit_size = s.dflit_size)
    (hrty : s'.dflit_size_rty = s.dflit_size_rty) (haddr : s'.cmdlookup.addr = s.cmdlookup.addr) :
    Current s' txns := by
  cases h with
  | rest h1 h2 => exact .rest (by rw [hsm]; exact h1) h2
  | net h1 h2 h3 h4 h5 h6 =>
      exact .net (hsm.trans h1) h2 h3 (by rw [hsize]; exact h4) (hrty.trans h5) (by rw [haddr]; exact h6)
  | rty h1 h2 h3 h4 h5 => exact .rty (hsm.trans h1) h2 h3 (by rw [hrty]; exact h4) (hsize.trans h5)

/-- A command is expected when the last transaction is whole. -/
lemma Current.whole {s : MemoryIngress} {txns : List IngressTxn} (h : Current s txns)
    (hsm : s.smstate ≠ .RECEIVE_DATA) : ∀ x ∈ txns, x.Whole := by
  cases h with
  | rest _ h2 => exact h2
  | net h1 | rty h1 => exact absurd h1 hsm

/-- Only the last transaction may not be whole. -/
lemma Current.whole_dropLast {s : MemoryIngress} {txns : List IngressTxn} (h : Current s txns) :
    ∀ x ∈ txns.dropLast, x.Whole := by
  cases h with
  | rest _ h2 => exact fun x hx => h2 x (List.dropLast_subset _ hx)
  | net _ h2 | rty _ h2 =>
      rw [List.dropLast_concat]
      exact h2

/-- No transaction has more data than its command says. -/
lemma Current.length_le {s : MemoryIngress} {txns : List IngressTxn} (h : Current s txns) :
    ∀ x ∈ txns, x.data.length ≤ x.size := by
  cases h with
  | rest _ h2 => exact fun x hx => (h2 x hx).le
  | net _ h2 _ hlen | rty _ h2 _ hlen =>
      intro x hx
      rcases List.mem_append.mp hx with hx | hx
      · exact (h2 x hx).le
      · rw [List.mem_singleton.mp hx]
        omega

/-- The transaction that takes data of the network. -/
lemma Current.fresh_last {s : MemoryIngress} {txns : List IngressTxn} (h : Current s txns)
    (hsm : s.smstate = .RECEIVE_DATA) (hsize : s.dflit_size = 1 ∨ s.dflit_size = 2) :
    ∃ pre x, txns = pre ++ [x] ∧ x.fresh = true ∧ x.data.length + s.dflit_size.toNat = x.size ∧
      field s.cmdlookup.addr 5 16 = x.tag := by
  cases h with
  | rest hn => exact absurd hsm hn
  | @net pre x _ _ hfresh hlen _ haddr => exact ⟨pre, x, rfl, hfresh, hlen, haddr⟩
  | rty _ _ _ _ hzero =>
      rw [hzero] at hsize
      exact absurd hsize (by decide)

/-- The transaction that takes data of the retry path. -/
lemma Current.old_last {s : MemoryIngress} {txns : List IngressTxn} (h : Current s txns)
    (hsm : s.smstate = .RECEIVE_DATA) (hsize : s.dflit_size_rty = 1 ∨ s.dflit_size_rty = 2) :
    ∃ pre x, txns = pre ++ [x] ∧ x.fresh = false := by
  cases h with
  | rest hn => exact absurd hsm hn
  | net _ _ _ _ hzero =>
      rw [hzero] at hsize
      exact absurd hsize (by decide)
  | @rty pre x _ _ hold => exact ⟨pre, x, rfl, hold⟩

namespace Kept

variable {s : LookupIngress} {i : MemoryIngressIn} {txns txns' : List IngressTxn}

/-- Nothing is written, and no command of the network was taken. -/
lemma silent (h : Kept s txns) (hlatest : ∀ row, latest txns' row = latest txns row)
    (hsilent : (s.ingress.step i).Silent) : Kept (s.step i) txns' := by
  have hcmd : (s.step i).storeCmd = s.storeCmd := bramWrite_silent _ _ hsilent.cmd
  have h0 : (s.step i).store0 = s.store0 := bramWrite_silent _ _ hsilent.d0
  have h1 : (s.step i).store1 = s.store1 := bramWrite_silent _ _ hsilent.d1
  refine ⟨?_, ?_, ?_⟩
  · intro row x hx
    rw [hlatest] at hx
    rw [hcmd]
    exact h.cmd row x hx
  · intro row x a hx
    rw [hlatest] at hx
    rw [h0]
    exact h.data0 row x a hx
  · intro row x a hx
    rw [hlatest] at hx
    rw [h1]
    exact h.data1 row x a hx

/-- A command of the network was taken: its record is written. -/
lemma netCmd (h : Kept s txns) {x : IngressTxn} (hfresh : x.fresh = true) (hnodata : x.data = [])
    (hen : (s.ingress.step i).lookup_port_en_q = true) {a : BitVec 32}
    (hport : (s.ingress.step i).cmdlookup = ⟨setField a 5 x.tag, x.record, true⟩)
    (hd0 : (s.ingress.step i).d0lookup.we = false) (hd1 : (s.ingress.step i).d1lookup.we = false) :
    Kept (s.step i) (txns ++ [x]) := by
  have hcmd : ∀ row, (s.step i).storeCmd row = if tagRow x.tag = row then x.record
      else s.storeCmd row := by
    intro row
    change bramWrite 5 s.storeCmd (s.ingress.step i).lookup_port_en_q (s.ingress.step i).cmdlookup row = _
    rw [bramWrite, hen, hport, bramRow_setField (by decide)]
    simp only [Bool.and_self, Bool.true_and, decide_eq_true_eq]
  have h0 : (s.step i).store0 = s.store0 := bramWrite_silent _ _ hd0
  have h1 : (s.step i).store1 = s.store1 := bramWrite_silent _ _ hd1
  refine ⟨?_, ?_, ?_⟩
  · intro row y hy
    rw [latest_concat, hfresh, Bool.true_and] at hy
    rw [hcmd]
    by_cases hrow : tagRow x.tag = row
    · rw [decide_eq_true hrow, if_pos rfl] at hy
      rw [if_pos hrow, Option.some.inj hy]
    · rw [decide_eq_false hrow, if_neg Bool.false_ne_true] at hy
      rw [if_neg hrow]
      exact h.cmd row y hy
  · intro row y a hy hsize ha
    rw [latest_concat, hfresh, Bool.true_and] at hy
    rw [h0]
    by_cases hrow : tagRow x.tag = row
    · rw [decide_eq_true hrow, if_pos rfl] at hy
      rw [← Option.some.inj hy, hnodata] at ha
      cases ha
    · rw [decide_eq_false hrow, if_neg Bool.false_ne_true] at hy
      exact h.data0 row y a hy hsize ha
  · intro row y a hy hsize ha
    rw [latest_concat, hfresh, Bool.true_and] at hy
    rw [h1]
    by_cases hrow : tagRow x.tag = row
    · rw [decide_eq_true hrow, if_pos rfl] at hy
      rw [← Option.some.inj hy, hnodata] at ha
      cases ha
    · rw [decide_eq_false hrow, if_neg Bool.false_ne_true] at hy
      exact h.data1 row y a hy hsize ha

/-- A data BRAM after a data flit. -/
lemma dataPort_write {mem : BitVec 9 → Flit512} {ingress : MemoryIngress} {p : LookupPort 512}
    {own : Bool} {tag : Tag} (haddr : field ingress.cmdlookup.addr 5 16 = tag) (row : BitVec 9) :
    bramWrite 6 mem true (ingress.dataPort i p own) row
      = if own = true ∧ tagRow tag = row then i.netflit_in_tdata else mem row := by
  rw [bramWrite, MemoryIngress.dataPort, bramRow_setField (by decide), haddr]
  cases own <;> simp

/-- A data flit of the network was taken: with two flits to come it is the first one. -/
lemma netData {pre : List IngressTxn} {x : IngressTxn} (h : Kept s (pre ++ [x]))
    (hfresh : x.fresh = true) (hlen : x.data.length + s.ingress.dflit_size.toNat = x.size)
    (hsize : s.ingress.dflit_size = 1 ∨ s.ingress.dflit_size = 2)
    (haddr : field s.ingress.cmdlookup.addr 5 16 = x.tag)
    (hen : (s.ingress.step i).lookup_port_en_q = true)
    (hcmd : (s.ingress.step i).cmdlookup.we = false)
    (hd0 : (s.ingress.step i).d0lookup
      = s.ingress.dataPort i s.ingress.d0lookup (bit s.ingress.dflit_size 1))
    (hd1 : (s.ingress.step i).d1lookup
      = s.ingress.dataPort i s.ingress.d1lookup (bit s.ingress.dflit_size 0)) :
    Kept (s.step i) (pre ++ [{ x with data := x.data ++ [i.netflit_in_tdata] }]) := by
  have hstore : (s.step i).storeCmd = s.storeCmd := bramWrite_silent _ _ hcmd
  have h0 : ∀ row, (s.step i).store0 row = if bit s.ingress.dflit_size 1 = true ∧ tagRow x.tag = row
      then i.netflit_in_tdata else s.store0 row := by
    intro row
    change bramWrite 6 s.store0 (s.ingress.step i).lookup_port_en_q (s.ingress.step i).d0lookup row = _
    rw [hen, hd0]
    exact dataPort_write haddr row
  have h1 : ∀ row, (s.step i).store1 row = if bit s.ingress.dflit_size 0 = true ∧ tagRow x.tag = row
      then i.netflit_in_tdata else s.store1 row := by
    intro row
    change bramWrite 6 s.store1 (s.ingress.step i).lookup_port_en_q (s.ingress.step i).d1lookup row = _
    rw [hen, hd1]
    exact dataPort_write haddr row
  -- the last command of a row is the one that takes data, or it is as before
  have hrows : ∀ row y, latest (pre ++ [{ x with data := x.data ++ [i.netflit_in_tdata] }]) row = some y →
      (tagRow x.tag = row ∧ y = { x with data := x.data ++ [i.netflit_in_tdata] } ∧
        latest (pre ++ [x]) row = some x) ∨
      (tagRow x.tag ≠ row ∧ latest (pre ++ [x]) row = some y) := by
    intro row y hy
    rw [latest_concat] at hy
    change (if x.fresh && decide (tagRow x.tag = row) then _ else _) = _ at hy
    rw [hfresh, Bool.true_and] at hy
    rw [latest_concat, hfresh, Bool.true_and]
    by_cases hrow : tagRow x.tag = row
    · rw [decide_eq_true hrow, if_pos rfl] at hy ⊢
      exact .inl ⟨hrow, (Option.some.inj hy).symm, rfl⟩
    · rw [decide_eq_false hrow, if_neg Bool.false_ne_true] at hy ⊢
      exact .inr ⟨hrow, hy⟩
  refine ⟨?_, ?_, ?_⟩
  · intro row y hy
    rw [hstore]
    rcases hrows row y hy with ⟨-, rfl, hx⟩ | ⟨-, hy⟩
    · exact h.cmd row x hx
    · exact h.cmd row y hy
  · intro row y a hy hy2 ha
    rw [h0]
    rcases hrows row y hy with ⟨hrow, rfl, hx⟩ | ⟨hrow, hy⟩
    · have hx2 : x.size = 2 := hy2
      rcases hsize with hone | htwo
      · have hlen1 : x.data.length = 1 := by
          rw [hone, hx2] at hlen
          change _ + 1 = 2 at hlen
          omega
        have ha' : x.data[0]? = some a := by
          rw [← ha, List.getElem?_append_left (by omega)]
        rw [hone, if_neg fun hb => absurd hb.1 (by decide)]
        exact h.data0 row x a hx hx2 ha'
      · have hnil : x.data = [] := by
          rw [htwo, hx2] at hlen
          change _ + 2 = 2 at hlen
          exact List.length_eq_zero_iff.mp (by omega)
        rw [hnil] at ha
        rw [htwo, if_pos ⟨by decide, hrow⟩]
        exact Option.some.inj ha
    · rw [if_neg fun hb => hrow hb.2]
      exact h.data0 row y a hy hy2 ha
  · intro row y a hy hy2 ha
    rw [h1]
    rcases hrows row y hy with ⟨hrow, rfl, hx⟩ | ⟨hrow, hy⟩
    · have hx2 : x.size = 2 := hy2
      rcases hsize with hone | htwo
      · have hlen1 : x.data.length = 1 := by
          rw [hone, hx2] at hlen
          change _ + 1 = 2 at hlen
          omega
        rw [List.getElem?_append_right (by omega), hlen1] at ha
        rw [hone, if_pos ⟨by decide, hrow⟩]
        exact Option.some.inj ha
      · have hnil : x.data = [] := by
          rw [htwo, hx2] at hlen
          change _ + 2 = 2 at hlen
          exact List.length_eq_zero_iff.mp (by omega)
        rw [hnil] at ha
        cases ha
    · rw [if_neg fun hb => hrow hb.2]
      exact h.data1 row y a hy hy2 ha

end Kept

namespace IngressTrace

variable {s : LookupIngress} {i : MemoryIngressIn} {h : IngressHistory} {first : List (BitVec 200)}
  {txns : List IngressTxn}

/-- The acTag has been assigned. -/
lemma start_step (t : IngressTrace s h first txns) (horderly : (s.ingress.step i).Orderly)
    (hinit : s.ingress.smstate ≠ .INIT) {txns' : List IngressTxn} :
    if (s.step i).ingress.smstate = .INIT then
      first = [] ∧ txns' = [] ∧ (s.step i).ingress.tlx_cmd_q = 0
    else ∃ actag, first = [actagCmd actag] := by
  have hstart := t.start
  rw [if_neg hinit] at hstart
  have hstep : (s.step i).ingress.smstate ≠ .INIT :=
    MemoryIngress.not_init_step t.orderly horderly hinit
  rw [if_neg hstep]
  exact hstart

/-- The acTag is assigned once. -/
lemma assign_of_stay (t : IngressTrace s h first txns)
    (hstay : s.ingress.smstate = .INIT → (s.ingress.step i).smstate = .INIT) :
    i.assign first = first := by
  have hstart := t.start
  by_cases hsm : s.ingress.smstate = .INIT
  · rw [if_pos hsm] at hstart
    have hnext : (if i.enable then IngressState.RECEIVE_CMD else .INIT) = .INIT := by
      have hnext : s.ingress.nextSmstate i = .INIT := hstay hsm
      rwa [MemoryIngress.nextSmstate, hsm] at hnext
    have hen : i.enable = false := eq_false_of_ne_true fun hen => by
      rw [if_pos hen] at hnext
      cases hnext
    rw [MemoryIngressIn.assign, MemoryIngressIn.actag, hen, if_neg Bool.false_ne_true, hstart.1]
    rfl
  · rw [if_neg hsm] at hstart
    obtain ⟨a, rfl⟩ := hstart
    exact if_neg (List.cons_ne_nil _ _)

lemma assign_of_init (t : IngressTrace s h first txns) (hsm : s.ingress.smstate = .INIT)
    (hnext : (s.ingress.step i).smstate = .RECEIVE_CMD) :
    i.assign first = [actagCmd i.active_actag] := by
  have hstart := t.start
  rw [if_pos hsm] at hstart
  have hstep : (if i.enable then IngressState.RECEIVE_CMD else .INIT) = .RECEIVE_CMD := by
    have hstep : s.ingress.nextSmstate i = .RECEIVE_CMD := hnext
    rwa [MemoryIngress.nextSmstate, hsm] at hstep
  have hen : i.enable = true := Bool.not_eq_false _ |>.mp fun hen => by
    rw [hen, if_neg Bool.false_ne_true] at hstep
    cases hstep
  rw [MemoryIngressIn.assign, if_pos hstart.1, MemoryIngressIn.actag, if_pos hen]
  rfl

/-- The lookup BRAMs are enabled. -/
lemma en_step (t : IngressTrace s h first txns) (horderly : (s.ingress.step i).Orderly)
    (hinit : s.ingress.smstate ≠ .INIT) : (s.ingress.step i).lookup_port_en_q = true := by
  rw [horderly.en]
  exact decide_eq_true (MemoryIngress.not_init_step t.orderly horderly hinit)

/-- Nothing was taken. -/
lemma idle (t : IngressTrace s h first txns) (horderly : (s.ingress.step i).Orderly)
    (hstay : (s.ingress.step i).smstate = s.ingress.smstate) (hrty : s.ingress.takesRty i = false)
    (htag : s.ingress.takesTag i = false) (hnet : s.ingress.takesNet i = false)
    (hpath : s.ingress.datapath i = s.ingress.idle i) :
    IngressTrace (s.step i) (h.add s.ingress i) first txns := by
  have hq : (s.ingress.step i).tlx_cmd_q = s.ingress.tlx_cmd_q := by
    rw [MemoryIngress.step, hpath]
    rfl
  have hheld := MemoryIngress.held_of_keep (s := s.ingress) (i := i) (by rw [hpath]; rfl)
    (by rw [hpath]; rfl)
  have hdata := MemoryIngress.heldData_of_keep (s := s.ingress) (i := i) (by rw [hpath]; rfl)
    (by rw [hpath]; rfl)
  refine ⟨horderly, ⟨?_, ?_, ?_⟩, ?_, ?_, ?_, ?_, t.own, ?_, ?_, ?_, ?_⟩
  · change field (s.ingress.step i).tlx_cmd_q 199 1 = 0
    rw [hq]
    exact t.tops.cmd
  · change field (s.ingress.step i).cmdlookup.din 215 41 = 0
    rw [MemoryIngress.step, hpath]
    exact t.tops.record
  · change field (s.ingress.step i).tlx_data_tdata_q 513 7 = 0
    rw [MemoryIngress.step, hpath]
    exact t.tops.data
  · refine t.current.congr hstay ?_ ?_ ?_
    · change (s.ingress.step i).dflit_size = _
      rw [MemoryIngress.step, hpath]
      rfl
    · change (s.ingress.step i).dflit_size_rty = _
      rw [MemoryIngress.step, hpath]
      rfl
    · change (s.ingress.step i).cmdlookup.addr = _
      rw [MemoryIngress.step, hpath]
      rfl
  · rw [IngressHistory.add, MemoryIngress.netTaken, hnet, if_neg Bool.false_ne_true]
    exact (List.append_nil _).trans t.net
  · rw [IngressHistory.add, MemoryIngress.rtyTaken, hrty, if_neg Bool.false_ne_true]
    exact (List.append_nil _).trans t.rty
  · rw [IngressHistory.add, MemoryIngress.tagTaken, htag, if_neg Bool.false_ne_true]
    exact (List.append_nil _).trans t.tags
  · change (h.cmds ++ s.ingress.issued i) ++ (s.ingress.step i).held = _
    rw [List.append_assoc, hheld]
    exact t.cmds
  · change (h.data ++ s.ingress.issuedData i) ++ (s.ingress.step i).heldData = _
    rw [List.append_assoc, hdata]
    exact t.data
  · have hstart := t.start
    change if (s.ingress.step i).smstate = .INIT then
      first = [] ∧ txns = [] ∧ (s.ingress.step i).tlx_cmd_q = 0 else _
    rw [hstay, hq]
    exact hstart
  · refine t.kept.silent (fun _ => rfl) ?_
    rw [MemoryIngress.step, hpath]
    exact ⟨rfl, rfl, rfl⟩

/-- The acTag was assigned. -/
lemma actag (t : IngressTrace s h first txns) (horderly : (s.ingress.step i).Orderly)
    (hsm : s.ingress.smstate = .INIT) (hnext : (s.ingress.step i).smstate = .RECEIVE_CMD)
    (hrty : s.ingress.takesRty i = false) (htag : s.ingress.takesTag i = false)
    (hnet : s.ingress.takesNet i = false) (hpath : s.ingress.datapath i = s.ingress.assignActag i) :
    IngressTrace (s.step i) (h.add s.ingress i) [actagCmd i.active_actag] txns := by
  obtain ⟨rfl, rfl, hq⟩ : first = [] ∧ txns = [] ∧ s.ingress.tlx_cmd_q = 0 := by
    have hstart := t.start
    rw [if_pos hsm] at hstart
    exact hstart
  obtain ⟨hissued, hheld, hheld'⟩ := MemoryIngress.held_of_actag t.orderly hsm hpath
  obtain ⟨-, hdvalid, hsilent⟩ := t.orderly.init hsm
  have hq' : (s.ingress.step i).tlx_cmd_q = actagCmd i.active_actag := by
    rw [MemoryIngress.step, hpath, MemoryIngress.assignActag, hq]
    rfl
  refine ⟨horderly, ⟨?_, ?_, ?_⟩, ?_, ?_, ?_, ?_, t.own, ?_, ?_, ?_, ?_⟩
  · change field (s.ingress.step i).tlx_cmd_q 199 1 = 0
    rw [hq', actagCmd]
    simp only [field_setField_of_disjoint _ _ _ _ (show 199 + 1 ≤ 6 ∨ 6 + 20 ≤ 199 by decide),
      field_setField_of_disjoint _ _ _ _ (show 199 + 1 ≤ 30 ∨ 30 + 12 ≤ 199 by decide),
      field_setField_of_disjoint _ _ _ _ (show 199 + 1 ≤ 191 ∨ 191 + 8 ≤ 199 by decide)]
    rfl
  · change field (s.ingress.step i).cmdlookup.din 215 41 = 0
    rw [MemoryIngress.step, hpath]
    exact t.tops.record
  · change field (s.ingress.step i).tlx_data_tdata_q 513 7 = 0
    rw [MemoryIngress.step, hpath]
    exact t.tops.data
  · refine .rest ?_ fun _ hx => absurd hx List.not_mem_nil
    change (s.ingress.step i).smstate ≠ _
    rw [hnext]
    decide
  · rw [IngressHistory.add, MemoryIngress.netTaken, hnet, if_neg Bool.false_ne_true]
    exact (List.append_nil _).trans t.net
  · rw [IngressHistory.add, MemoryIngress.rtyTaken, hrty, if_neg Bool.false_ne_true]
    exact (List.append_nil _).trans t.rty
  · rw [IngressHistory.add, MemoryIngress.tagTaken, htag, if_neg Bool.false_ne_true]
    exact (List.append_nil _).trans t.tags
  · have hcmds := t.cmds
    rw [hheld, List.append_nil] at hcmds
    change (h.cmds ++ s.ingress.issued i) ++ (s.ingress.step i).held = _
    rw [hissued, hheld', hcmds, MemoryIngress.assignActag, hq]
    rfl
  · have hdata := t.data
    have hvalid : (s.ingress.step i).tlx_data_valid_q = false := by
      rw [MemoryIngress.step, hpath]
      rfl
    rw [MemoryIngress.heldData, hdvalid, if_neg Bool.false_ne_true] at hdata
    change (h.data ++ s.ingress.issuedData i) ++ (s.ingress.step i).heldData = _
    rw [MemoryIngress.issuedData, MemoryIngress.heldData, hdvalid, hvalid]
    simpa using hdata
  · change if (s.ingress.step i).smstate = .INIT then _ else _
    rw [hnext, if_neg (by decide)]
    exact ⟨i.active_actag, rfl⟩
  · refine t.kept.silent (fun _ => rfl) ?_
    rw [MemoryIngress.step, hpath]
    exact ⟨hsilent.cmd, hsilent.d0, hsilent.d1⟩

/-- A command of the network was taken. -/
lemma netCmd (t : IngressTrace s h first txns) (horderly : (s.ingress.step i).Orderly)
    (hsm : s.ingress.smstate = .RECEIVE_CMD) (hready : i.tlx_cmd_tready = true)
    (hrty : s.ingress.takesRty i = false) (htag : s.ingress.takesTag i = true)
    (hnet : s.ingress.takesNet i = true) (hpath : s.ingress.datapath i = s.ingress.takeNetCmd i) :
    IngressTrace (s.step i) (h.add s.ingress i) first
      (txns ++ [⟨true, i.netflit_in_tdata, i.capptag_fifo_tdata, i.active_actag, []⟩]) := by
  have hcmd : (s.ingress.step i).tlx_cmd_q = s.ingress.netTlxCmd i := by
    rw [MemoryIngress.step, hpath]
    rfl
  have hrecord : (s.ingress.step i).cmdlookup
      = ⟨setField s.ingress.cmdlookup.addr 5 i.capptag_fifo_tdata, s.ingress.netRecord i, true⟩ := by
    rw [MemoryIngress.step, hpath]
    rfl
  have hsize : (s.ingress.step i).dflit_size = cmdDflitSize i.netflit_in_tdata := by
    rw [MemoryIngress.step, hpath]
    rfl
  have hrtysize : (s.ingress.step i).dflit_size_rty = 0 := by
    rw [MemoryIngress.step, hpath]
    exact (t.orderly.idle (by rw [hsm]; decide)).2
  have hinit : s.ingress.smstate ≠ .INIT := by rw [hsm]; decide
  have hwhole := t.current.whole (by rw [hsm]; decide)
  have hheld := MemoryIngress.held_of_take (s := s.ingress) (i := i) hready (by rw [hpath]; rfl)
  have hdata := MemoryIngress.heldData_of_keep (s := s.ingress) (i := i) (by rw [hpath]; rfl)
    (by rw [hpath]; rfl)
  generalize hx : (⟨true, i.netflit_in_tdata, i.capptag_fifo_tdata, i.active_actag, []⟩ : IngressTxn) = x
  have htlx : s.ingress.netTlxCmd i = x.cmd := by
    rw [← hx]
    exact MemoryIngress.netTlxCmd_eq t.tops.cmd _ rfl
  have hrec : s.ingress.netRecord i = x.record := by
    rw [← hx]
    exact MemoryIngress.netRecord_eq t.tops.record
  have hfresh : x.fresh = true := by rw [← hx]
  refine ⟨horderly, ⟨?_, ?_, ?_⟩, ?_, ?_, ?_, ?_, ?_, ?_, ?_, ?_, ?_⟩
  · change field (s.ingress.step i).tlx_cmd_q 199 1 = 0
    rw [hcmd, MemoryIngress.netTlxCmd_top]
    exact t.tops.cmd
  · change field (s.ingress.step i).cmdlookup.din 215 41 = 0
    rw [hrecord]
    exact MemoryIngress.netRecord_top.trans t.tops.record
  · change field (s.ingress.step i).tlx_data_tdata_q 513 7 = 0
    rw [MemoryIngress.step, hpath]
    exact t.tops.data
  · change Current (s.ingress.step i) _
    by_cases hzero : cmdDflitSize i.netflit_in_tdata = 0
    · refine .rest (fun hrecv => ?_) fun y hy => ?_
      · rcases (MemoryIngress.receiving_iff horderly).mp hrecv with hpos | hpos
        · exact hpos (hsize.trans hzero)
        · exact hpos hrtysize
      · rcases List.mem_append.mp hy with hy | hy
        · exact hwhole y hy
        · rw [List.mem_singleton.mp hy, ← hx]
          change 0 = (cmdDflitSize i.netflit_in_tdata).toNat
          rw [hzero]
          rfl
    · refine .net ((MemoryIngress.receiving_iff horderly).mpr (.inl ?_)) hwhole hfresh ?_ hrtysize ?_
      · rw [hsize]
        exact hzero
      · rw [hsize, ← hx]
        exact Nat.zero_add _
      · rw [hrecord, ← hx]
        exact field_setField_self _ _ _ (by decide)
  · rw [IngressHistory.add, MemoryIngress.netTaken, hnet, if_pos rfl, List.filter_append,
      List.flatMap_append, ← t.net, ← hx]
    rfl
  · rw [IngressHistory.add, MemoryIngress.rtyTaken, hrty, if_neg Bool.false_ne_true,
      List.filter_append, List.flatMap_append, ← t.rty, ← hx]
    rfl
  · rw [IngressHistory.add, MemoryIngress.tagTaken, htag, if_pos rfl, List.filter_append,
      List.map_append, ← t.tags, ← hx]
    rfl
  · intro y hy hold
    rcases List.mem_append.mp hy with hy | hy
    · exact t.own y hy hold
    · rw [List.mem_singleton.mp hy, hfresh] at hold
      cases hold
  · change (h.cmds ++ s.ingress.issued i) ++ (s.ingress.step i).held = _
    rw [List.append_assoc, hheld, ← List.append_assoc, t.cmds, hpath, List.map_append,
      ← List.append_assoc]
    change _ ++ [s.ingress.netTlxCmd i] = _
    rw [htlx]
    rfl
  · change (h.data ++ s.ingress.issuedData i) ++ (s.ingress.step i).heldData = _
    rw [List.append_assoc, hdata, t.data, List.flatMap_append, ← hx]
    exact (List.append_nil _).symm
  · exact t.start_step horderly hinit
  · have hen := t.en_step horderly hinit
    refine t.kept.netCmd hfresh (by rw [← hx]) hen (a := s.ingress.cmdlookup.addr) ?_ ?_ ?_
    · rw [hrecord, hrec, ← hx]
    · rw [MemoryIngress.step, hpath]
      rfl
    · rw [MemoryIngress.step, hpath]
      rfl

/-- A command of the retry path was taken. -/
lemma rtyCmd (t : IngressTrace s h first txns) (horderly : (s.ingress.step i).Orderly)
    (hsm : s.ingress.smstate = .RECEIVE_CMD) (hready : i.tlx_cmd_tready = true)
    (hrty : s.ingress.takesRty i = true) (htag : s.ingress.takesTag i = false)
    (hnet : s.ingress.takesNet i = false) (hpath : s.ingress.datapath i = s.ingress.takeRtyCmd i) :
    IngressTrace (s.step i) (h.add s.ingress i) first
      (txns ++ [⟨false, i.rty_in_tdata, field i.rty_in_tdata 297 16, 0, []⟩]) := by
  have hcmd : (s.ingress.step i).tlx_cmd_q = (s.ingress.takeRtyCmd i).tlx_cmd_q := by
    rw [MemoryIngress.step, hpath]
  have hsize : (s.ingress.step i).dflit_size_rty = cmdDflitSize i.rty_in_tdata := by
    rw [MemoryIngress.step, hpath]
    rfl
  have hnetsize : (s.ingress.step i).dflit_size = 0 := by
    rw [MemoryIngress.step, hpath]
    exact (t.orderly.idle (by rw [hsm]; decide)).1
  have hinit : s.ingress.smstate ≠ .INIT := by rw [hsm]; decide
  have hwhole := t.current.whole (by rw [hsm]; decide)
  have hheld := MemoryIngress.held_of_take (s := s.ingress) (i := i) hready (by rw [hpath]; rfl)
  have hdata := MemoryIngress.heldData_of_keep (s := s.ingress) (i := i) (by rw [hpath]; rfl)
    (by rw [hpath]; rfl)
  generalize hx : (⟨false, i.rty_in_tdata, field i.rty_in_tdata 297 16, 0, []⟩ : IngressTxn) = x
  have htlx : (s.ingress.takeRtyCmd i).tlx_cmd_q = x.cmd := by
    rw [← hx]
    exact MemoryIngress.rtyTlxCmd_eq t.tops.cmd
  have hold : x.fresh = false := by rw [← hx]
  refine ⟨horderly, ⟨?_, ?_, ?_⟩, ?_, ?_, ?_, ?_, ?_, ?_, ?_, ?_, ?_⟩
  · change field (s.ingress.step i).tlx_cmd_q 199 1 = 0
    rw [hcmd, MemoryIngress.takeRtyCmd_top]
    exact t.tops.cmd
  · change field (s.ingress.step i).cmdlookup.din 215 41 = 0
    rw [MemoryIngress.step, hpath]
    exact t.tops.record
  · change field (s.ingress.step i).tlx_data_tdata_q 513 7 = 0
    rw [MemoryIngress.step, hpath]
    exact t.tops.data
  · change Current (s.ingress.step i) _
    by_cases hzero : cmdDflitSize i.rty_in_tdata = 0
    · refine .rest (fun hrecv => ?_) fun y hy => ?_
      · rcases (MemoryIngress.receiving_iff horderly).mp hrecv with hpos | hpos
        · exact hpos hnetsize
        · exact hpos (hsize.trans hzero)
      · rcases List.mem_append.mp hy with hy | hy
        · exact hwhole y hy
        · rw [List.mem_singleton.mp hy, ← hx]
          change 0 = (cmdDflitSize i.rty_in_tdata).toNat
          rw [hzero]
          rfl
    · refine .rty ((MemoryIngress.receiving_iff horderly).mpr (.inr ?_)) hwhole hold ?_ hnetsize
      · rw [hsize]
        exact hzero
      · rw [hsize, ← hx]
        exact Nat.zero_add _
  · rw [IngressHistory.add, MemoryIngress.netTaken, hnet, if_neg Bool.false_ne_true,
      List.filter_append, List.flatMap_append, ← t.net, ← hx]
    rfl
  · rw [IngressHistory.add, MemoryIngress.rtyTaken, hrty, if_pos rfl, List.filter_append,
      List.flatMap_append, ← t.rty, ← hx]
    rfl
  · rw [IngressHistory.add, MemoryIngress.tagTaken, htag, if_neg Bool.false_ne_true,
      List.filter_append, List.map_append, ← t.tags, ← hx]
    rfl
  · intro y hy hy0
    rcases List.mem_append.mp hy with hy | hy
    · exact t.own y hy hy0
    · rw [List.mem_singleton.mp hy, ← hx]
  · change (h.cmds ++ s.ingress.issued i) ++ (s.ingress.step i).held = _
    rw [List.append_assoc, hheld, ← List.append_assoc, t.cmds, hpath, List.map_append,
      ← List.append_assoc, htlx]
    rfl
  · change (h.data ++ s.ingress.issuedData i) ++ (s.ingress.step i).heldData = _
    rw [List.append_assoc, hdata, t.data, List.flatMap_append, ← hx]
    exact (List.append_nil _).symm
  · exact t.start_step horderly hinit
  · refine t.kept.silent (fun row => ?_) ?_
    · rw [latest_concat, hold]
      rfl
    · rw [MemoryIngress.step, hpath]
      exact ⟨rfl, rfl, rfl⟩

/-- A data flit of the network was taken. -/
lemma netData (t : IngressTrace s h first txns) (horderly : (s.ingress.step i).Orderly)
    (hsm : s.ingress.smstate = .RECEIVE_DATA) (hready : i.tlx_data_tready = true)
    (hsize : s.ingress.dflit_size = 1 ∨ s.ingress.dflit_size = 2)
    (hrty : s.ingress.takesRty i = false) (htag : s.ingress.takesTag i = false)
    (hnet : s.ingress.takesNet i = true) (hpath : s.ingress.datapath i = s.ingress.takeNetData i) :
    ∃ pre x, txns = pre ++ [x] ∧ IngressTrace (s.step i) (h.add s.ingress i) first
      (pre ++ [{ x with data := x.data ++ [i.netflit_in_tdata] }]) := by
  have hinit : s.ingress.smstate ≠ .INIT := by rw [hsm]; decide
  have hsize' : (s.ingress.step i).dflit_size = s.ingress.dflit_size - 1 := by
    rw [MemoryIngress.step, hpath]
    rfl
  have hheld := MemoryIngress.held_of_keep (s := s.ingress) (i := i) (by rw [hpath]; rfl)
    (by rw [hpath]; rfl)
  have hdata := MemoryIngress.heldData_of_take (s := s.ingress) (i := i) hready (by rw [hpath]; rfl)
  have htlx : (s.ingress.datapath i).tlx_data_tdata_q = tlxData i.netflit_in_tdata := by
    rw [hpath]
    exact MemoryIngress.tlxData_eq t.tops.data _
  cases t.current with
  | rest hn => exact absurd hsm hn
  | rty _ _ _ _ hzero =>
      rw [hzero] at hsize
      exact absurd hsize (by decide)
  | @net pre x _ hwhole hfresh hlen hrtysize haddr =>
      refine ⟨pre, x, rfl, ?_⟩
      have hrtysize' : (s.ingress.step i).dflit_size_rty = 0 := by
        rw [MemoryIngress.step, hpath]
        exact hrtysize
      refine ⟨horderly, ⟨?_, ?_, ?_⟩, ?_, ?_, ?_, ?_, ?_, ?_, ?_, ?_, ?_⟩
      · change field (s.ingress.step i).tlx_cmd_q 199 1 = 0
        rw [MemoryIngress.step, hpath]
        exact t.tops.cmd
      · change field (s.ingress.step i).cmdlookup.din 215 41 = 0
        rw [MemoryIngress.step, hpath]
        exact t.tops.record
      · change field (s.ingress.datapath i).tlx_data_tdata_q 513 7 = 0
        rw [hpath]
        change field (setField _ _ _) 513 7 = 0
        rw [field_setField_of_disjoint _ _ _ _ (.inr (by decide))]
        exact t.tops.data
      · change Current (s.ingress.step i) _
        rcases hsize with hone | htwo
        · rw [hone] at hsize' hlen
          refine .rest (fun hrecv => ?_) fun y hy => ?_
          · rcases (MemoryIngress.receiving_iff horderly).mp hrecv with hpos | hpos
            · exact hpos hsize'
            · exact hpos hrtysize'
          · rcases List.mem_append.mp hy with hy | hy
            · exact hwhole y hy
            · rw [List.mem_singleton.mp hy]
              change (x.data ++ [i.netflit_in_tdata]).length = x.size
              rw [List.length_append]
              exact hlen
        · rw [htwo] at hsize' hlen
          refine .net ((MemoryIngress.receiving_iff horderly).mpr (.inl (by rw [hsize']; decide)))
            hwhole hfresh ?_ hrtysize' ?_
          · rw [hsize']
            change (x.data ++ [i.netflit_in_tdata]).length + 1 = x.size
            change _ + 2 = x.size at hlen
            rw [List.length_append, List.length_singleton]
            omega
          · rw [MemoryIngress.step, hpath]
            exact haddr
      · rw [IngressHistory.add, MemoryIngress.netTaken, hnet, if_pos rfl, t.net]
        simp [List.filter_append, IngressTxn.words, hfresh]
      · rw [IngressHistory.add, MemoryIngress.rtyTaken, hrty, if_neg Bool.false_ne_true, t.rty]
        simp [List.filter_append, hfresh]
      · rw [IngressHistory.add, MemoryIngress.tagTaken, htag, if_neg Bool.false_ne_true, t.tags]
        simp [List.filter_append, hfresh]
      · intro y hy hold
        rcases List.mem_append.mp hy with hy | hy
        · exact t.own y (List.mem_append_left _ hy) hold
        · rw [List.mem_singleton.mp hy] at hold ⊢
          exact t.own x (List.mem_append_right _ (List.mem_singleton.mpr rfl)) hold
      · change (h.cmds ++ s.ingress.issued i) ++ (s.ingress.step i).held = _
        rw [List.append_assoc, hheld, t.cmds, List.map_append, List.map_append]
        rfl
      · change (h.data ++ s.ingress.issuedData i) ++ (s.ingress.step i).heldData = _
        rw [List.append_assoc, hdata, ← List.append_assoc, t.data, htlx]
        simp [List.flatMap_append]
      · exact t.start_step horderly hinit
      · have hen := t.en_step horderly hinit
        refine t.kept.netData hfresh hlen hsize haddr hen ?_ ?_ ?_
        · rw [MemoryIngress.step, hpath]
          rfl
        · rw [MemoryIngress.step, hpath]
          rfl
        · rw [MemoryIngress.step, hpath]
          rfl

/-- A data flit of the retry path was taken. -/
lemma rtyData (t : IngressTrace s h first txns) (horderly : (s.ingress.step i).Orderly)
    (hsm : s.ingress.smstate = .RECEIVE_DATA) (hready : i.tlx_data_tready = true)
    (hsize : s.ingress.dflit_size_rty = 1 ∨ s.ingress.dflit_size_rty = 2)
    (hrty : s.ingress.takesRty i = true) (htag : s.ingress.takesTag i = false)
    (hnet : s.ingress.takesNet i = false) (hpath : s.ingress.datapath i = s.ingress.takeRtyData i) :
    ∃ pre x, txns = pre ++ [x] ∧ IngressTrace (s.step i) (h.add s.ingress i) first
      (pre ++ [{ x with data := x.data ++ [i.rty_in_tdata] }]) := by
  have hinit : s.ingress.smstate ≠ .INIT := by rw [hsm]; decide
  have hsize' : (s.ingress.step i).dflit_size_rty = s.ingress.dflit_size_rty - 1 := by
    rw [MemoryIngress.step, hpath]
    rfl
  have hheld := MemoryIngress.held_of_keep (s := s.ingress) (i := i) (by rw [hpath]; rfl)
    (by rw [hpath]; rfl)
  have hdata := MemoryIngress.heldData_of_take (s := s.ingress) (i := i) hready (by rw [hpath]; rfl)
  have htlx : (s.ingress.datapath i).tlx_data_tdata_q = tlxData i.rty_in_tdata := by
    rw [hpath]
    exact MemoryIngress.tlxData_eq t.tops.data _
  cases t.current with
  | rest hn => exact absurd hsm hn
  | net _ _ _ _ hzero =>
      rw [hzero] at hsize
      exact absurd hsize (by decide)
  | @rty pre x _ hwhole hold hlen hnetsize =>
      refine ⟨pre, x, rfl, ?_⟩
      have hnetsize' : (s.ingress.step i).dflit_size = 0 := by
        rw [MemoryIngress.step, hpath]
        exact hnetsize
      have hsilent : s.ingress.Silent := by
        cases t.orderly.data hsm with
        | net _ hzero =>
            rw [hzero] at hsize
            exact absurd hsize (by decide)
        | rty _ _ hsilent => exact hsilent
      refine ⟨horderly, ⟨?_, ?_, ?_⟩, ?_, ?_, ?_, ?_, ?_, ?_, ?_, ?_, ?_⟩
      · change field (s.ingress.step i).tlx_cmd_q 199 1 = 0
        rw [MemoryIngress.step, hpath]
        exact t.tops.cmd
      · change field (s.ingress.step i).cmdlookup.din 215 41 = 0
        rw [MemoryIngress.step, hpath]
        exact t.tops.record
      · change field (s.ingress.datapath i).tlx_data_tdata_q 513 7 = 0
        rw [hpath]
        change field (setField _ _ _) 513 7 = 0
        rw [field_setField_of_disjoint _ _ _ _ (.inr (by decide))]
        exact t.tops.data
      · change Current (s.ingress.step i) _
        rcases hsize with hone | htwo
        · rw [hone] at hsize' hlen
          refine .rest (fun hrecv => ?_) fun y hy => ?_
          · rcases (MemoryIngress.receiving_iff horderly).mp hrecv with hpos | hpos
            · exact hpos hnetsize'
            · exact hpos hsize'
          · rcases List.mem_append.mp hy with hy | hy
            · exact hwhole y hy
            · rw [List.mem_singleton.mp hy]
              change (x.data ++ [i.rty_in_tdata]).length = x.size
              rw [List.length_append]
              exact hlen
        · rw [htwo] at hsize' hlen
          refine .rty ((MemoryIngress.receiving_iff horderly).mpr (.inr (by rw [hsize']; decide)))
            hwhole hold ?_ hnetsize'
          rw [hsize']
          change (x.data ++ [i.rty_in_tdata]).length + 1 = x.size
          change _ + 2 = x.size at hlen
          rw [List.length_append, List.length_singleton]
          omega
      · rw [IngressHistory.add, MemoryIngress.netTaken, hnet, if_neg Bool.false_ne_true, t.net]
        simp [List.filter_append, hold]
      · rw [IngressHistory.add, MemoryIngress.rtyTaken, hrty, if_pos rfl, t.rty]
        simp [List.filter_append, IngressTxn.words, hold]
      · rw [IngressHistory.add, MemoryIngress.tagTaken, htag, if_neg Bool.false_ne_true, t.tags]
        simp [List.filter_append, hold]
      · intro y hy hy0
        rcases List.mem_append.mp hy with hy | hy
        · exact t.own y (List.mem_append_left _ hy) hy0
        · rw [List.mem_singleton.mp hy]
          exact t.own x (List.mem_append_right _ (List.mem_singleton.mpr rfl)) hold
      · change (h.cmds ++ s.ingress.issued i) ++ (s.ingress.step i).held = _
        rw [List.append_assoc, hheld, t.cmds, List.map_append, List.map_append]
        rfl
      · change (h.data ++ s.ingress.issuedData i) ++ (s.ingress.step i).heldData = _
        rw [List.append_assoc, hdata, ← List.append_assoc, t.data, htlx]
        simp [List.flatMap_append]
      · exact t.start_step horderly hinit
      · refine t.kept.silent (fun row => ?_) ?_
        · rw [latest_concat, latest_concat]
          change (if x.fresh && decide (tagRow x.tag = row) then _ else _) = _
          rw [hold]
          rfl
        · rw [MemoryIngress.step, hpath]
          exact ⟨hsilent.cmd, hsilent.d0, hsilent.d1⟩

/-- No transaction comes before the assignment of the acTag. -/
lemma txns_nil (t : IngressTrace s h first txns) (hfirst : first = []) : txns = [] := by
  have hstart := t.start
  split at hstart
  · exact hstart.2.1
  · obtain ⟨actag, hactag⟩ := hstart
    rw [hactag] at hfirst
    cases hfirst

/-- **One cycle.**  What is known of the module after a cycle. -/
theorem step (t : IngressTrace s h first txns) (hcycle : s.ingress.Cycle i)
    (horderly : (s.ingress.step i).Orderly) :
    ∃ txns', IngressTrace (s.step i) (h.add s.ingress i) (i.assign first) txns' := by
  cases hcycle with
  | idle hstay hrty htag hnet hpath =>
      rw [t.assign_of_stay fun hsm => hstay.trans hsm]
      exact ⟨_, t.idle horderly hstay hrty htag hnet hpath⟩
  | actag hsm hnext hrty htag hnet hpath =>
      rw [t.assign_of_init hsm hnext]
      exact ⟨_, t.actag horderly hsm hnext hrty htag hnet hpath⟩
  | rtyCmd hsm hready hrty htag hnet hpath =>
      rw [t.assign_of_stay fun hx => absurd (hsm.symm.trans hx) (by decide)]
      exact ⟨_, t.rtyCmd horderly hsm hready hrty htag hnet hpath⟩
  | netCmd hsm hready hrty htag hnet hpath =>
      rw [t.assign_of_stay fun hx => absurd (hsm.symm.trans hx) (by decide)]
      exact ⟨_, t.netCmd horderly hsm hready hrty htag hnet hpath⟩
  | rtyData hsm hready hsize hrty htag hnet hpath =>
      rw [t.assign_of_stay fun hx => absurd (hsm.symm.trans hx) (by decide)]
      obtain ⟨pre, x, -, h'⟩ := t.rtyData horderly hsm hready hsize hrty htag hnet hpath
      exact ⟨_, h'⟩
  | netData hsm hready hsize hrty htag hnet hpath =>
      rw [t.assign_of_stay fun hx => absurd (hsm.symm.trans hx) (by decide)]
      obtain ⟨pre, x, -, h'⟩ := t.netData horderly hsm hready hsize hrty htag hnet hpath
      exact ⟨_, h'⟩

lemma init : IngressTrace {} {} [] [] where
  orderly := MemoryIngress.orderly_init
  tops := ⟨by simp [field], by simp [field], by simp [field]⟩
  current := .rest (by decide) fun _ hx => absurd hx List.not_mem_nil
  net := rfl
  rty := rfl
  tags := rfl
  own _ hx := absurd hx List.not_mem_nil
  cmds := rfl
  data := rfl
  start := by
    rw [if_pos rfl]
    exact ⟨rfl, rfl, rfl⟩
  kept := ⟨fun _ _ h => (nomatch h), fun _ _ _ h => (nomatch h), fun _ _ _ h => (nomatch h)⟩

end IngressTrace

end ThymesisFlow
