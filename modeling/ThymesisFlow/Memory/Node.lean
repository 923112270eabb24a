import ThymesisFlow.Lib.Machine
import ThymesisFlow.Memory.IngressTrace
import ThymesisFlow.Memory.RespEng
import ThymesisFlow.Memory.RtyEng

/-!
# The memory node

The memory ingress, the lookup stage, the response engine and the retry engine as
`thymesisflow_top` connects them: through the CAPPTAG FIFO, the lookup BRAMs, the FIFOs of responses
and response data, and the retry FIFO.  The host is a party of its own: it has a list of the
commands it has been given and may answer any of them at any time.

The parties move one at a time.  A cycle of the memory ingress is one move; the engines are pipelines
whose calls take as long as the streams let them, so each call is a move, at any point of a run.
-/

namespace ThymesisFlow

/-- A TLX command the host has been given, and whether it has been answered with PEND. -/
structure HostEntry where
  cmd : BitVec 200
  pend : Bool := false
  deriving DecidableEq, Repr

/-- The CAPPTAG of a TLX command. -/
def tlxCappTag (cmd : BitVec 200) : Tag := field cmd 111 16

/-- The command has a CAPPTAG: opcode bit 6 is clear, so it does not assign an acTag. -/
def tlxHasTag (cmd : BitVec 200) : Bool := !bit cmd 197

namespace HostEntry

def tag (e : HostEntry) : Tag := tlxCappTag e.cmd

def dl (e : HostEntry) : BitVec 2 := field e.cmd 109 2

end HostEntry

/-- The node and its host.  `due` is the data of responses that has not reached `tl_fifo_data`;
the input of the retry engine is `rty_unit_fifo`, its output the FIFO `rty_in` of the ingress. -/
structure MemNode where
  ingress : MemoryIngress := {}
  capptag_fifo : List Tag := []
  cmdlookup : BitVec 9 → BitVec 256 := fun _ => 0
  data0lookup : BitVec 9 → Flit512 := fun _ => 0
  data1lookup : BitVec 9 → Flit512 := fun _ => 0
  host : List HostEntry := []
  tl_resp : List TlResp := []
  due : List OCxFlit := []
  tl_fifo_resp : List RespCombo := []
  tl_fifo_data : List OCxFlit := []
  resp : RespEng := {}
  rty : RtyEng := {}

/-- The wires of one cycle of the memory ingress.  A FIFO shows its head with any delay. -/
structure NodeWires where
  active_actag : BitVec 12 := 0
  capptag_fifo_shows : Bool := true
  netflit_in_tdata : Flit512 := 0
  netflit_in_tvalid : Bool := false
  rty_fifo_shows : Bool := true
  enable : Bool := true
  tlx_cmd_tready : Bool := true
  tlx_data_tready : Bool := true

/-- Who moves.  `answer r data more` is a response of the host with its data; with `more` the command
stays with the host. -/
inductive NodeMove
  | clock (w : NodeWires)
  | load
  | resp (enable : Bool)
  | rty
  | answer (r : TlResp) (data : List OCxFlit) (more : Bool)
  | deliver

namespace MemNode

variable (s : MemNode)

/-! ## A cycle of the memory ingress -/

def ingressWires (w : NodeWires) : MemoryIngressIn where
  active_actag := w.active_actag
  capptag_fifo_tdata := s.capptag_fifo.headD 0
  capptag_fifo_tvalid := w.capptag_fifo_shows && !s.capptag_fifo.isEmpty
  netflit_in_tdata := w.netflit_in_tdata
  netflit_in_tvalid := w.netflit_in_tvalid
  rty_in_tdata := s.rty.output_fifo.headD 0
  rty_in_tvalid := w.rty_fifo_shows && !s.rty.output_fifo.isEmpty
  enable := w.enable
  tlx_cmd_tready := w.tlx_cmd_tready
  tlx_data_tready := w.tlx_data_tready

/-- The command BRAM after the write that its port has been given. -/
def store : BitVec 9 → BitVec 256 :=
  bramWrite 5 s.cmdlookup s.ingress.lookup_port_en_q s.ingress.cmdlookup

def clock (w : NodeWires) : MemNode :=
  let i := s.ingressWires w
  { s with
    ingress := s.ingress.step i
    capptag_fifo := if s.ingress.takesTag i then s.capptag_fifo.tail else s.capptag_fifo
    cmdlookup := s.store
    data0lookup := bramWrite 6 s.data0lookup s.ingress.lookup_port_en_q s.ingress.d0lookup
    data1lookup := bramWrite 6 s.data1lookup s.ingress.lookup_port_en_q s.ingress.d1lookup
    host := s.host ++ ((s.ingress.issued i).filter tlxHasTag).map fun cmd => { cmd }
    rty := { s.rty with
      output_fifo := if s.ingress.takesRty i then s.rty.output_fifo.tail else s.rty.output_fifo } }

/-! ## The calls of the engines -/

/-- A call of `CmdFifoLoadSM`, which reads the command BRAM. -/
def load : MemNode :=
  match s.tl_resp with
  | [] => s
  | r :: rest =>
      { s with
        tl_resp := rest
        tl_fifo_resp := s.tl_fifo_resp ++ [CmdFifoLoad.cmdFifoLoadSM
          (fun tag => (s.cmdlookup (tagRow tag)).setWidth 215) r] }

/-- A call of `RespEngSM`, with what it writes; `none` if it reads nothing. -/
def respEngSM (enable : Bool) : Option (MemNode × RespWrites) :=
  match s.resp.smstate with
  | .INIT => if enable then some ({ s with resp := s.resp.initTag.1 }, s.resp.initTag.2) else none
  | .GET_CMD =>
      match s.tl_fifo_resp with
      | [] => none
      | c :: rest =>
          some ({ s with resp := (s.resp.getCmd c).1, tl_fifo_resp := rest }, (s.resp.getCmd c).2)
  | .GET_DATA =>
      if s.resp.respdataflag then
        match s.tl_fifo_data with
        | [] => none
        | d :: rest =>
            some ({ s with resp := (s.resp.getHostData d).1, tl_fifo_data := rest },
              (s.resp.getHostData d).2)
      else
        let call := s.resp.getStoreData (fun tag => s.data0lookup (tagRow tag))
          fun tag => s.data1lookup (tagRow tag)
        some ({ s with resp := call.1 }, call.2)

/-- The call with what the two input FIFOs and the data BRAMs hold. -/
lemma respEngSM_eq (enable : Bool) : s.respEngSM enable
    = (s.resp.call enable s.tl_fifo_resp s.tl_fifo_data (fun tag => s.data0lookup (tagRow tag))
        fun tag => s.data1lookup (tagRow tag)).map fun out =>
      ({ s with resp := out.1.1, tl_fifo_resp := out.2.1, tl_fifo_data := out.2.2 }, out.1.2) := by
  cases hsm : s.resp.smstate with
  | INIT =>
      simp only [respEngSM, RespEng.call, hsm]
      cases enable <;> rfl
  | GET_CMD =>
      simp only [respEngSM, RespEng.call, hsm]
      cases s.tl_fifo_resp <;> rfl
  | GET_DATA =>
      simp only [respEngSM, RespEng.call, hsm]
      cases s.resp.respdataflag with
      | true => cases s.tl_fifo_data <;> rfl
      | false => rfl

/-- What is written reaches the CAPPTAG FIFO and the retry engine. -/
def written (w : RespWrites) : MemNode :=
  { s with
    capptag_fifo := s.capptag_fifo ++ w.lookup_out.toList
    rty := { s.rty with input_fifo := s.rty.input_fifo ++ w.rtry_do_cmd_out.toList } }

/-- The call that is made.  With `rty_unit_fifo` full a call that writes to it does not finish. -/
def respCall (enable : Bool) : Option (MemNode × RespWrites) :=
  (s.respEngSM enable).filter fun call =>
    call.2.rtry_do_cmd_out.isNone || s.rty.input_fifo.length < rtyUnitFifoDepth

/-! ## The host -/

/-- The commands of the host after its answer `r`. -/
def hostAfter (r : TlResp) (more : Bool) : List HostEntry :=
  if r.kind = some .pend then
    s.host.map fun e => if e.tag = r.capptag then { e with pend := true } else e
  else if more then s.host
  else s.host.eraseP (·.tag = r.capptag)

/-! ## One move -/

def step : NodeMove → MemNode
  | .clock w => s.clock w
  | .load => s.load
  | .resp enable =>
      match s.respCall enable with
      | none => s
      | some (s', w) => s'.written w
  | .rty => { s with rty := (rtyEngSM s.rty).getD s.rty }
  | .answer r data more =>
      { s with host := s.hostAfter r more, tl_resp := s.tl_resp ++ [r], due := s.due ++ data }
  | .deliver =>
      match s.due with
      | [] => s
      | d :: rest => { s with tl_fifo_data := s.tl_fifo_data ++ [d], due := rest }

variable {s}

lemma step_resp_of_none {enable : Bool} (h : s.respCall enable = none) :
    s.step (.resp enable) = s := by
  simp only [step, h]

lemma step_resp_of_some {enable : Bool} {call : MemNode × RespWrites}
    (h : s.respCall enable = some call) : s.step (.resp enable) = call.1.written call.2 := by
  simp only [step, h]

lemma step_deliver_of_nil (h : s.due = []) : s.step .deliver = s := by
  simp only [step, h]

lemma step_deliver_of_cons {d : OCxFlit} {rest : List OCxFlit} (h : s.due = d :: rest) :
    s.step .deliver = { s with tl_fifo_data := s.tl_fifo_data ++ [d], due := rest } := by
  simp only [step, h]

variable (s)

/-- The network command taken in a move, with its local tag. -/
def accepted (s : MemNode) : NodeMove → List (Tag × Flit512)
  | .clock w =>
      if s.ingress.takesTag (s.ingressWires w) && s.ingress.takesNet (s.ingressWires w) then
        [(s.capptag_fifo.headD 0, w.netflit_in_tdata)]
      else []
  | _ => []

/-- What the response engine writes to the network in a move. -/
def netOut (s : MemNode) : NodeMove → List Flit512
  | .resp enable => ((s.respCall enable).bind fun call => call.2.network_cmd_out0).toList
  | _ => []

end MemNode

/-- The node at reset, with nothing given to the host. -/
def memNode : Machine MemNode NodeMove where
  init := {}
  step := MemNode.step

/-! ## What the node is promised -/

/-- What the network presents to the memory ingress: commands have opcode bit 6 clear, and nothing
comes after a write of four data flits, whose data the routing egress does not accept. -/
def NetFlitOk (i : MemoryIngress) (f : Flit512) : Prop :=
  (i.smstate = .RECEIVE_CMD → bit f 510 = false) ∧ i.dflit_size ≠ 4

instance (i : MemoryIngress) (f : Flit512) : Decidable (NetFlitOk i f) :=
  inferInstanceAs (Decidable (_ ∧ _))

/-- An answer to the command `e`: after PEND the host says XLATE_DONE, READ OK comes with as much
data as its DL says, and `parts` says which answers are followed by others. -/
structure HostAnswer (parts : HostEntry → TlResp → Bool → Prop) (e : HostEntry) (r : TlResp)
    (data : List OCxFlit) (more : Bool) : Prop where
  tag : e.tag = r.capptag
  kind : if e.pend then r.kind = some .xlateDone
    else r.kind ≠ none ∧ r.kind ≠ some .xlateDone
  data : data.length = if r.kind = some .readOk then (dataSize r.dl).toNat else 0
  parts : parts e r more

/-- The condition on a move: the memory ingress stays enabled, the network sends commands, and the
host answers the commands it has been given. -/
def NodeOk (parts : HostEntry → TlResp → Bool → Prop) (s : MemNode) : NodeMove → Prop
  | .clock w => (s.ingress.smstate ≠ .INIT → w.enable = true) ∧
      (w.netflit_in_tvalid = true → NetFlitOk s.ingress w.netflit_in_tdata)
  | .answer r data more => ∃ e ∈ s.host, HostAnswer parts e r data more
  | _ => True

end ThymesisFlow
