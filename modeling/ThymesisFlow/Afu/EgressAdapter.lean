import ThymesisFlow.Afu.HostCmd

/-!
# The compute egress adapter

`thymesisflow_64B_compute_egress_adapter` merges the network commands and the data flits of the
write commands into one stream of 64 byte flits.
-/

namespace ThymesisFlow

/-- `ocapi_sm` of the adapter and of the routing egress behind it. -/
inductive InputSm
  | INPUT_CMD_RESP
  | INPUT_DATAFLIT
  deriving DecidableEq, Repr

/-- `dflit_size` as it is computed from DL. -/
def dflitSize (dl : BitVec 2) : BitVec 3 :=
  BitVec.ofBool (bit dl 1 && bit dl 0) ++ BitVec.ofBool (bit dl 1 && !bit dl 0)
    ++ BitVec.ofBool (!bit dl 1)

/-- The registers of the adapter. -/
structure EgressAdapter where
  output_q : BitVec 512 := 0
  output_q_vld : Bool := false
  ocapi_sm : InputSm := .INPUT_CMD_RESP
  dflit_size : BitVec 3 := 0
  deriving DecidableEq, Repr

namespace EgressAdapter

/-- The fields of a command in a 64 byte flit; the other bits keep what was there. -/
def putCmd (q : BitVec 512) (n : NetCmd) : BitVec 512 :=
  setField (setField (setField (setField (setField (setField (setField q 291 n.netid)
    504 n.opcode) 422 n.dl) 424 n.tag) 419 n.pl) 355 n.be) 440 n.ea

variable (a : EgressAdapter)

def cmdTready (out_tready : Bool) : Bool := out_tready && a.ocapi_sm = .INPUT_CMD_RESP

def dataTready (out_tready : Bool) : Bool := out_tready && a.ocapi_sm = .INPUT_DATAFLIT

/-- One cycle: the command and the data flit that are valid at the inputs, and the ready of the
output. -/
def step (cmd : Option NetCmd) (data : Option DataFlit) (out_tready : Bool) : EgressAdapter :=
  match a.ocapi_sm, cmd, data with
  | .INPUT_CMD_RESP, some n, _ =>
      if out_tready then
        { output_q := putCmd a.output_q n
          output_q_vld := true
          ocapi_sm := if n.isWrite then .INPUT_DATAFLIT else .INPUT_CMD_RESP
          dflit_size := if n.isWrite then dflitSize n.dl else a.dflit_size }
      else a
  | .INPUT_DATAFLIT, _, some d =>
      if out_tready then
        { output_q := d.extractLsb' 0 512
          output_q_vld := true
          ocapi_sm := if a.dflit_size = 1 then .INPUT_CMD_RESP else .INPUT_DATAFLIT
          dflit_size := a.dflit_size - 1 }
      else a
  | _, _, _ => if out_tready then { a with output_q_vld := false } else a

/-! ## The data that the adapter waits for -/

/-- The number of data flits that are still to come for the last command. -/
def left : ℕ := if a.ocapi_sm = .INPUT_DATAFLIT then a.dflit_size.toNat else 0

/-- The adapter takes a command. -/
def takesCmd (cmd : Option NetCmd) (out_tready : Bool) : Bool := a.cmdTready out_tready && cmd.isSome

/-- The adapter takes a data flit. -/
def takesData (data : Option DataFlit) (out_tready : Bool) : Bool :=
  a.dataTready out_tready && data.isSome

variable {a} {cmd : Option NetCmd} {data : Option DataFlit} {out_tready : Bool}

lemma step_takesCmd (data : Option DataFlit) (h : a.takesCmd cmd out_tready = true) :
    ∃ n, cmd = some n ∧ a.ocapi_sm = .INPUT_CMD_RESP ∧ a.takesData data out_tready = false ∧
      a.step cmd data out_tready = { output_q := putCmd a.output_q n
                                     output_q_vld := true
                                     ocapi_sm := if n.isWrite then .INPUT_DATAFLIT else .INPUT_CMD_RESP
                                     dflit_size := if n.isWrite then dflitSize n.dl else a.dflit_size } := by
  simp only [takesCmd, cmdTready, Bool.and_eq_true, decide_eq_true_eq] at h
  obtain ⟨⟨hr, hsm⟩, hc⟩ := h
  obtain ⟨n, rfl⟩ := Option.isSome_iff_exists.mp hc
  refine ⟨n, rfl, hsm, by simp [takesData, dataTready, hsm], ?_⟩
  simp only [step, hsm, hr, if_true]

lemma step_takesData (cmd : Option NetCmd) (h : a.takesData data out_tready = true) :
    ∃ d, data = some d ∧ a.ocapi_sm = .INPUT_DATAFLIT ∧ a.takesCmd cmd out_tready = false ∧
      a.step cmd data out_tready = { output_q := d.extractLsb' 0 512
                                     output_q_vld := true
                                     ocapi_sm := if a.dflit_size = 1 then .INPUT_CMD_RESP
                                       else .INPUT_DATAFLIT
                                     dflit_size := a.dflit_size - 1 } := by
  simp only [takesData, dataTready, Bool.and_eq_true, decide_eq_true_eq] at h
  obtain ⟨⟨hr, hsm⟩, hc⟩ := h
  obtain ⟨d, rfl⟩ := Option.isSome_iff_exists.mp hc
  refine ⟨d, rfl, hsm, by simp [takesCmd, cmdTready, hsm], ?_⟩
  simp only [step, hsm, hr, if_true]

/-- A cycle in which nothing is taken at most takes the output away. -/
lemma step_idle (hc : a.takesCmd cmd out_tready = false) (hd : a.takesData data out_tready = false) :
    a.step cmd data out_tready = { a with output_q_vld := a.output_q_vld && !out_tready } := by
  simp only [takesCmd, takesData, cmdTready, dataTready] at hc hd
  cases hsm : a.ocapi_sm <;> cases cmd <;> cases data <;> cases out_tready <;>
    simp_all [step] <;> rw [← hsm]

end EgressAdapter

end ThymesisFlow
