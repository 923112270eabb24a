import ThymesisFlow.Agent.Handlers
import ThymesisFlow.Agent.Ports

/-!
# Requests and responses on the wire

`marshal_attach_*_request` of `proto.c` build the requests, `unmarshal_response` takes the responses
apart.  A field is written by one setter and no other setter touches it, so what a getter reads is what
its setter wrote, as long as the setter did not refuse the value.
-/

namespace ThymesisFlow

def marshal_attach_memory_request (fresh : Message) (circuit_id afu : List UInt8) (ports : List ℕ)
    (memsize : BitVec 64) : Message :=
  let request_msg := fresh.set_circuitid circuit_id
  let request_msg := request_msg.set_msgtype MEMORY_ATTACH
  let request_msg := request_msg.set_afu afu
  let request_msg := request_msg.set_iports ports
  request_msg.set_size memsize

def marshal_attach_compute_request (fresh : Message) (circuit_id afu : List UInt8) (ports : List ℕ)
    (memsize ea : BitVec 64) (no_hotplug : BitVec 32) : Message :=
  let request_msg := fresh.set_circuitid circuit_id
  let request_msg := request_msg.set_msgtype COMPUTE_ATTACH
  let request_msg := request_msg.set_afu afu
  let request_msg := request_msg.set_iports ports
  let request_msg := request_msg.set_size memsize
  let request_msg := request_msg.set_ea ea
  request_msg.set_no_hotplug no_hotplug

/-- `pmessage`, which has no member for the ports. -/
structure PMessage where
  circuitid : List UInt8
  msgtype : List UInt8
  afu : List UInt8
  status : BitVec 32
  size : BitVec 64
  ea : BitVec 64
  no_hotplug : BitVec 32
  deriving DecidableEq

/-- The getters terminate the strings that they copy. -/
def unmarshal_response (msg : Message) : PMessage where
  circuitid := strncpy (msg.get_circuitid ++ [0]) (CIRCUIT_ID_SIZE + 1)
  msgtype := strncpy (msg.get_msgtype ++ [0]) (MSGTYPE_SIZE + 1)
  afu := strncpy (msg.get_afu_name ++ [0]) (AFUNAME_SIZE + 1)
  status := msg.get_status
  size := msg.get_size
  ea := msg.get_ea
  no_hotplug := msg.get_no_hotplug

/-! ## What is set is read back -/

namespace Message

variable (msg : Message)

/-- A field begins with what has been written into it. -/
lemma field_put_self (f : Field) {bs : List UInt8} (hlen : bs.length ≤ f.size) :
    ∃ rest, Message.field (msg.put f.offset bs) f = bs ++ rest :=
  ⟨_, Bytes.get_put_prefix msg hlen f.fits⟩

lemma field_put_full (f : Field) {bs : List UInt8} (hlen : bs.length = f.size) :
    Message.field (msg.put f.offset bs) f = bs := by
  obtain ⟨rest, hrest⟩ := msg.field_put_self f hlen.le
  have hnil : rest = [] := by
    have hl := congrArg List.length hrest
    rw [field, Bytes.length_get, List.length_append] at hl
    exact List.eq_nil_of_length_eq_zero (by omega)
  rw [hrest, hnil, List.append_nil]

lemma ofNat_leBytes_64 (x : BitVec 64) : BitVec.ofNat 64 (ofLeBytes (leBytes 8 x.toNat)) = x := by
  rw [ofLeBytes_leBytes]
  refine BitVec.eq_of_toNat_eq ?_
  have := x.isLt
  rw [BitVec.toNat_ofNat]
  omega

lemma get_size_set_size {size : BitVec 64} (h0 : size ≠ 0) (hm : size.toNat % MEMBLOCK_SIZE = 0) :
    (msg.set_size size).get_size = size := by
  rw [set_size, if_neg h0, if_neg (not_not.mpr hm)]
  have hf := msg.field_put_full .MEM_SIZE (length_leBytes 8 size.toNat)
  exact (congrArg (fun bs => BitVec.ofNat 64 (ofLeBytes bs)) hf).trans (ofNat_leBytes_64 size)

lemma get_ea_set_ea {ea : BitVec 64} (h0 : ea ≠ 0) : (msg.set_ea ea).get_ea = ea := by
  rw [set_ea, if_neg h0]
  have hf := msg.field_put_full .EA (length_leBytes 8 ea.toNat)
  exact (congrArg (fun bs => BitVec.ofNat 64 (ofLeBytes bs)) hf).trans (ofNat_leBytes_64 ea)

lemma get_no_hotplug_set_no_hotplug {no_hotplug : BitVec 32} (h : no_hotplug = 0 ∨ no_hotplug = 1) :
    (msg.set_no_hotplug no_hotplug).get_no_hotplug = no_hotplug := by
  have hr : ¬ (1 < no_hotplug.toInt ∨ no_hotplug.toInt < 0) := by
    rcases h with rfl | rfl <;> decide
  rw [set_no_hotplug, if_neg hr]
  have hf := msg.field_put_full .NO_HOTPLUG (length_leBytes 4 no_hotplug.toNat)
  refine (congrArg (fun bs => BitVec.ofNat 32 (ofLeBytes bs)) hf).trans ?_
  rcases h with rfl | rfl <;> decide

lemma get_iports_set_iports (ports : List ℕ) :
    (msg.set_iports ports).get_iports = unmarshal_iports (marshal_iports ports) := by
  have hf : Message.field (msg.set_iports ports) .IPORT = [marshal_iports ports] :=
    msg.field_put_full .IPORT rfl
  change unmarshal_iports ((Message.field (msg.set_iports ports) .IPORT).headD 0) = _
  rw [hf]
  rfl

/-- A name with its terminator is read back. -/
lemma cstr_get_afu_name {name : List UInt8} (rest : List UInt8) (h0 : 0 ∉ name) (hne : name ≠ [])
    (hlen : name.length < AFUNAME_SIZE) :
    cstr (msg.set_afu (name ++ 0 :: rest)).get_afu_name = name := by
  have hname : cstr (name ++ 0 :: rest) = name := (cstr_append_zero name rest).trans (cstr_eq_self h0)
  rw [set_afu, hname, if_neg hne]
  obtain ⟨rest', hf⟩ := msg.field_put_self .AFUNAME (List.length_take_le AFUNAME_SIZE (name ++ 0 :: rest))
  have htake : (name ++ 0 :: rest).take AFUNAME_SIZE
      = name ++ 0 :: rest.take (AFUNAME_SIZE - name.length - 1) := by
    obtain ⟨k, hk⟩ := Nat.exists_eq_add_of_lt hlen
    rw [hk, Nat.add_assoc, List.take_length_add_append, List.take_succ_cons]
    congr 3
    omega
  change cstr (Message.field (msg.put AFUNAME_OFFSET _) .AFUNAME) = name
  rw [show AFUNAME_OFFSET = Field.AFUNAME.offset from rfl, hf, htake, List.append_assoc,
    List.cons_append, cstr_append_zero, cstr_eq_self h0]

/-- The name of a request is copied into the response. -/
lemma get_afu_name_copy (src : Message) (hne : cstr src.get_afu_name ≠ []) :
    (msg.set_afu src.get_afu_name).get_afu_name = src.get_afu_name := by
  have hlen : src.get_afu_name.length = AFUNAME_SIZE := Bytes.length_get _ _ _
  rw [set_afu, if_neg hne, List.take_of_length_le hlen.le]
  exact msg.field_put_full .AFUNAME hlen

lemma get_iports_copy (src : Message) : (msg.set_iports src.get_iports).get_iports = src.get_iports := by
  rw [get_iports_set_iports, get_iports, marshal_unmarshal]

/-- The message types have no null byte and fit the field. -/
lemma msgtype_fits : ∀ t ∈ MSGTYPES, 0 ∉ t ∧ t.length ≤ MSGTYPE_SIZE := by decide

lemma cstr_get_msgtype {t : List UInt8} (ht : t ∈ MSGTYPES) : cstr (msg.set_msgtype t).get_msgtype = t := by
  obtain ⟨h0, hlen⟩ := msgtype_fits t ht
  rw [set_msgtype, if_pos ht]
  obtain ⟨rest, hf⟩ := msg.field_put_self .MSGTYPE (List.length_take_le MSGTYPE_SIZE (t ++ [0]))
  change cstr (Message.field (msg.put MSGTYPE_OFFSET _) .MSGTYPE) = t
  rcases Nat.lt_or_eq_of_le hlen with hlt | heq
  · -- the terminator fits
    have htake : (t ++ [0]).take MSGTYPE_SIZE = t ++ [0] := List.take_of_length_le (by
      rw [List.length_append]
      exact hlt)
    rw [show MSGTYPE_OFFSET = Field.MSGTYPE.offset from rfl, hf, htake, List.append_assoc]
    exact (cstr_append_zero t _).trans (cstr_eq_self h0)
  · have htake : (t ++ [0]).take MSGTYPE_SIZE = t := by rw [← heq, List.take_left']; rfl
    rw [htake, show MSGTYPE_OFFSET = Field.MSGTYPE.offset from rfl, msg.field_put_full .MSGTYPE heq]
    exact cstr_eq_self h0

/-! A getter looks at its field only. -/

variable {msg} {msg' : Message}

lemma get_circuitid_of_field (h : msg.field .CIRCUIT_ID = msg'.field .CIRCUIT_ID) :
    msg.get_circuitid = msg'.get_circuitid := h

lemma get_msgtype_of_field (h : msg.field .MSGTYPE = msg'.field .MSGTYPE) :
    msg.get_msgtype = msg'.get_msgtype := h

lemma get_afu_name_of_field (h : msg.field .AFUNAME = msg'.field .AFUNAME) :
    msg.get_afu_name = msg'.get_afu_name := h

lemma get_iports_of_field (h : msg.field .IPORT = msg'.field .IPORT) :
    msg.get_iports = msg'.get_iports :=
  congrArg (fun bs : List UInt8 => unmarshal_iports (bs.headD 0)) h

lemma get_size_of_field (h : msg.field .MEM_SIZE = msg'.field .MEM_SIZE) :
    msg.get_size = msg'.get_size :=
  congrArg (fun bs => BitVec.ofNat 64 (ofLeBytes bs)) h

lemma get_status_of_field (h : msg.field .ERROR = msg'.field .ERROR) :
    msg.get_status = msg'.get_status :=
  congrArg (fun bs => BitVec.ofNat 32 (ofLeBytes bs)) h

lemma get_no_hotplug_of_field (h : msg.field .NO_HOTPLUG = msg'.field .NO_HOTPLUG) :
    msg.get_no_hotplug = msg'.get_no_hotplug :=
  congrArg (fun bs => BitVec.ofNat 32 (ofLeBytes bs)) h

lemma get_ea_of_field (h : msg.field .EA = msg'.field .EA) : msg.get_ea = msg'.get_ea :=
  congrArg (fun bs => BitVec.ofNat 64 (ofLeBytes bs)) h

/-- The dispatch goes by the string in the type field. -/
lemma strncmpEq_msgtype (msg : Message) (t : List UInt8) :
    strncmpEq (msg.get CIRCUIT_ID_SIZE MSGTYPE_SIZE) t MSGTYPE_SIZE
      = decide (cstr msg.get_msgtype = cstr (t.take MSGTYPE_SIZE)) := by
  have hlen : msg.get_msgtype.length = MSGTYPE_SIZE := Bytes.length_get _ _ _
  have htake : msg.get_msgtype.take MSGTYPE_SIZE = msg.get_msgtype := List.take_of_length_le hlen.le
  exact decide_eq_decide.mpr (iff_of_eq (congrArg (cstr · = cstr (t.take MSGTYPE_SIZE)) htake))

lemma mode_memory_attach (h : cstr msg.get_msgtype = MEMORY_ATTACH) : msg.mode = .MEMORY_ATTACH := by
  simp only [mode, strncmpEq_msgtype, h]
  decide

lemma mode_compute_attach (h : cstr msg.get_msgtype = COMPUTE_ATTACH) :
    msg.mode = .COMPUTE_ATTACH := by
  simp only [mode, strncmpEq_msgtype, h]
  decide

end Message

/-! ## Requests -/

/-- What an attach is asked for with.  The memory side uses neither `ea` nor `no_hotplug`. -/
structure AttachArgs where
  circuit_id : List UInt8
  circuit_id_length : circuit_id.length = CIRCUIT_ID_SIZE
  circuit_id_chars : 0 ∉ circuit_id
  afu : List UInt8
  afu_pos : afu ≠ []
  afu_length : afu.length < AFUNAME_SIZE
  afu_chars : 0 ∉ afu
  ports : List ℕ
  ports_nodup : ports.Nodup
  ports_range : ∀ p ∈ ports, 1 ≤ p ∧ p ≤ 8
  size : BitVec 64
  size_pos : size ≠ 0
  size_blocks : size.toNat % MEMBLOCK_SIZE = 0
  ea : BitVec 64
  ea_pos : ea ≠ 0
  no_hotplug : BitVec 32
  no_hotplug_flag : no_hotplug = 0 ∨ no_hotplug = 1

/-- What is in memory behind the strings of a request, and in its new message. -/
structure Garbage where
  fresh : Message
  circuit_id : List UInt8
  afu : List UInt8

namespace AttachArgs

variable (a : AttachArgs) (g : Garbage)

def memoryRequest : Message :=
  marshal_attach_memory_request g.fresh (a.circuit_id ++ 0 :: g.circuit_id) (a.afu ++ 0 :: g.afu)
    a.ports a.size

def computeRequest : Message :=
  marshal_attach_compute_request g.fresh (a.circuit_id ++ 0 :: g.circuit_id) (a.afu ++ 0 :: g.afu)
    a.ports a.size a.ea a.no_hotplug

/-- The getters return what was asked for. -/
structure Decodes (msg : Message) : Prop where
  circuitid : msg.get_circuitid = a.circuit_id
  afu_name : cstr msg.get_afu_name = a.afu
  iports : ∀ p, p ∈ msg.get_iports ↔ p ∈ a.ports
  size : msg.get_size = a.size

lemma get_circuitid_set (msg : Message) :
    (msg.set_circuitid (a.circuit_id ++ 0 :: g.circuit_id)).get_circuitid = a.circuit_id := by
  have htake : (a.circuit_id ++ 0 :: g.circuit_id).take CIRCUIT_ID_SIZE = a.circuit_id := by
    rw [← a.circuit_id_length, List.take_left]
  rw [Message.set_circuitid, htake]
  exact msg.field_put_full .CIRCUIT_ID a.circuit_id_length

lemma get_afu_name_set (msg : Message) :
    cstr (msg.set_afu (a.afu ++ 0 :: g.afu)).get_afu_name = a.afu :=
  msg.cstr_get_afu_name g.afu a.afu_chars a.afu_pos a.afu_length

lemma get_iports_set (msg : Message) (p : ℕ) :
    p ∈ (msg.set_iports a.ports).get_iports ↔ p ∈ a.ports := by
  rw [Message.get_iports_set_iports]
  exact mem_unmarshal_marshal a.ports_range a.ports_nodup p

lemma get_size_set (msg : Message) : (msg.set_size a.size).get_size = a.size :=
  msg.get_size_set_size a.size_pos a.size_blocks

/-! A request is a chain of setters, and the ones behind the setter of a field do not touch it. -/

lemma memory_decodes : a.Decodes (a.memoryRequest g) := by
  rw [memoryRequest, marshal_attach_memory_request]
  refine ⟨by simp [a.get_circuitid_set g], ?_, fun p => ?_, a.get_size_set _⟩
  · rw [Message.get_afu_name_of_field (Message.field_set_size _ (by decide) _),
      Message.get_afu_name_of_field (Message.field_set_iports _ (by decide) _)]
    exact a.get_afu_name_set g _
  · rw [Message.get_iports_of_field (Message.field_set_size _ (by decide) _)]
    exact a.get_iports_set _ p

lemma compute_decodes : a.Decodes (a.computeRequest g) := by
  rw [computeRequest, marshal_attach_compute_request]
  refine ⟨by simp [a.get_circuitid_set g], ?_, fun p => ?_, ?_⟩
  · rw [Message.get_afu_name_of_field (Message.field_set_no_hotplug _ (by decide) _),
      Message.get_afu_name_of_field (Message.field_set_ea _ (by decide) _),
      Message.get_afu_name_of_field (Message.field_set_size _ (by decide) _),
      Message.get_afu_name_of_field (Message.field_set_iports _ (by decide) _)]
    exact a.get_afu_name_set g _
  · rw [Message.get_iports_of_field (Message.field_set_no_hotplug _ (by decide) _),
      Message.get_iports_of_field (Message.field_set_ea _ (by decide) _),
      Message.get_iports_of_field (Message.field_set_size _ (by decide) _)]
    exact a.get_iports_set _ p
  · rw [Message.get_size_of_field (Message.field_set_no_hotplug _ (by decide) _),
      Message.get_size_of_field (Message.field_set_ea _ (by decide) _)]
    exact a.get_size_set _

lemma compute_get_ea : (a.computeRequest g).get_ea = a.ea := by
  rw [computeRequest, marshal_attach_compute_request,
    Message.get_ea_of_field (Message.field_set_no_hotplug _ (by decide) _)]
  exact Message.get_ea_set_ea _ a.ea_pos

lemma compute_get_no_hotplug : (a.computeRequest g).get_no_hotplug = a.no_hotplug :=
  Message.get_no_hotplug_set_no_hotplug _ a.no_hotplug_flag

/-! ## Dispatch -/

lemma memory_dispatched (build : Build) (plat : Platform) (node : Node) :
    handle_request build plat node (a.memoryRequest g)
      = some (proto_attach_memory build plat node (a.memoryRequest g)) := by
  have hm : cstr (a.memoryRequest g).get_msgtype = MEMORY_ATTACH := by
    rw [memoryRequest, marshal_attach_memory_request,
      Message.get_msgtype_of_field (Message.field_set_size _ (by decide) _),
      Message.get_msgtype_of_field (Message.field_set_iports _ (by decide) _),
      Message.get_msgtype_of_field (Message.field_set_afu _ (by decide) _)]
    exact Message.cstr_get_msgtype _ (by decide)
  rw [handle_request, Message.mode_memory_attach hm]

lemma compute_get_msgtype : cstr (a.computeRequest g).get_msgtype = COMPUTE_ATTACH := by
  rw [computeRequest, marshal_attach_compute_request,
    Message.get_msgtype_of_field (Message.field_set_no_hotplug _ (by decide) _),
    Message.get_msgtype_of_field (Message.field_set_ea _ (by decide) _),
    Message.get_msgtype_of_field (Message.field_set_size _ (by decide) _),
    Message.get_msgtype_of_field (Message.field_set_iports _ (by decide) _),
    Message.get_msgtype_of_field (Message.field_set_afu _ (by decide) _)]
  exact Message.cstr_get_msgtype _ (by decide)

lemma compute_dispatched (build : Build) (plat : Platform) (node : Node) :
    handle_request build plat node (a.computeRequest g)
      = proto_attach_compute build plat node (a.computeRequest g) := by
  rw [handle_request, Message.mode_compute_attach (a.compute_get_msgtype g)]

end AttachArgs

/-! ## Responses -/

section

variable (rsp : Message)

lemma cstr_terminated {bs : List UInt8} {n : ℕ} (h : bs.length = n) :
    cstr (strncpy (bs ++ [0]) (n + 1)) = cstr bs := by
  rw [cstr_strncpy, List.take_of_length_le (by simp [h]), cstr_append_zero]

lemma unmarshal_circuitid : cstr (unmarshal_response rsp).circuitid = cstr rsp.get_circuitid :=
  cstr_terminated (Bytes.length_get _ _ _)

lemma unmarshal_msgtype : cstr (unmarshal_response rsp).msgtype = cstr rsp.get_msgtype :=
  cstr_terminated (Bytes.length_get _ _ _)

lemma unmarshal_afu : cstr (unmarshal_response rsp).afu = cstr rsp.get_afu_name :=
  cstr_terminated (Bytes.length_get _ _ _)

end

/-- What every handler answers: the circuit of the request, the type of the response, the result. -/
structure Answers (msg rsp : Message) (msgtype : List UInt8) (status : BitVec 32) : Prop where
  circuitid : cstr (unmarshal_response rsp).circuitid = cstr msg.get_circuitid
  msgtype : cstr (unmarshal_response rsp).msgtype = msgtype
  status : (unmarshal_response rsp).status = status

/-- What an attach answers besides: the AFU and the size, unless their setters refuse them, and the
ports, for which the reader has no member. -/
structure AnswersAttach (msg rsp : Message) : Prop where
  afu : cstr msg.get_afu_name ≠ [] → cstr (unmarshal_response rsp).afu = cstr msg.get_afu_name
  size : msg.get_size ≠ 0 → msg.get_size.toNat % MEMBLOCK_SIZE = 0 →
    (unmarshal_response rsp).size = msg.get_size
  iports : rsp.get_iports = msg.get_iports

section

variable (build : Build) (plat : Platform) (node : Node) (msg : Message)

lemma proto_attach_memory_answers :
    Answers msg (proto_attach_memory build plat node msg).2 MRESPONSE_ATTACH
      (attach_memory build plat node msg.get_circuitid msg.get_afu_name msg.get_size).2.1 ∧
    AnswersAttach msg (proto_attach_memory build plat node msg).2 ∧
    ((attach_memory build plat node msg.get_circuitid msg.get_afu_name msg.get_size).2.2.getD
        plat.effective_address ≠ 0 →
      (unmarshal_response (proto_attach_memory build plat node msg).2).ea
        = (attach_memory build plat node msg.get_circuitid msg.get_afu_name msg.get_size).2.2.getD
            plat.effective_address) := by
  rw [proto_attach_memory]
  rcases attach_memory build plat node msg.get_circuitid msg.get_afu_name msg.get_size
    with ⟨node', res, ea⟩
  refine ⟨⟨?_, ?_, Message.get_status_set_status _ res⟩, ⟨fun hne => ?_, fun h0 hm => ?_, ?_⟩,
    fun h0 => ?_⟩
  · rw [unmarshal_circuitid]
    simp
  · rw [unmarshal_msgtype,
      Message.get_msgtype_of_field (Message.field_set_status _ (by decide) _),
      Message.get_msgtype_of_field (Message.field_set_ea _ (by decide) _),
      Message.get_msgtype_of_field (Message.field_set_size _ (by decide) _),
      Message.get_msgtype_of_field (Message.field_set_iports _ (by decide) _),
      Message.get_msgtype_of_field (Message.field_set_afu _ (by decide) _)]
    exact Message.cstr_get_msgtype _ (by decide)
  · rw [unmarshal_afu,
      Message.get_afu_name_of_field (Message.field_set_status _ (by decide) _),
      Message.get_afu_name_of_field (Message.field_set_ea _ (by decide) _),
      Message.get_afu_name_of_field (Message.field_set_size _ (by decide) _),
      Message.get_afu_name_of_field (Message.field_set_iports _ (by decide) _),
      Message.get_afu_name_copy _ msg hne]
  · rw [unmarshal_response,
      Message.get_size_of_field (Message.field_set_status _ (by decide) _),
      Message.get_size_of_field (Message.field_set_ea _ (by decide) _)]
    exact Message.get_size_set_size _ h0 hm
  · rw [Message.get_iports_of_field (Message.field_set_status _ (by decide) _),
      Message.get_iports_of_field (Message.field_set_ea _ (by decide) _),
      Message.get_iports_of_field (Message.field_set_size _ (by decide) _),
      Message.get_iports_copy]
  · rw [unmarshal_response, Message.get_ea_of_field (Message.field_set_status _ (by decide) _)]
    exact Message.get_ea_set_ea _ h0

/-- The response of the compute side, for the result `err`. -/
lemma attach_compute_answers (err : BitVec 32) :
    let rsp := (((((plat.fresh.set_circuitid msg.get_circuitid).set_msgtype CRESPONSE_ATTACH).set_size
      msg.get_size).set_afu msg.get_afu_name).set_iports msg.get_iports).set_status err
    Answers msg rsp CRESPONSE_ATTACH err ∧ AnswersAttach msg rsp := by
  refine ⟨⟨?_, ?_, Message.get_status_set_status _ err⟩, ⟨fun hne => ?_, fun h0 hm => ?_, ?_⟩⟩
  · rw [unmarshal_circuitid]
    simp
  · rw [unmarshal_msgtype,
      Message.get_msgtype_of_field (Message.field_set_status _ (by decide) _),
      Message.get_msgtype_of_field (Message.field_set_iports _ (by decide) _),
      Message.get_msgtype_of_field (Message.field_set_afu _ (by decide) _),
      Message.get_msgtype_of_field (Message.field_set_size _ (by decide) _)]
    exact Message.cstr_get_msgtype _ (by decide)
  · rw [unmarshal_afu,
      Message.get_afu_name_of_field (Message.field_set_status _ (by decide) _),
      Message.get_afu_name_of_field (Message.field_set_iports _ (by decide) _),
      Message.get_afu_name_copy _ msg hne]
  · rw [unmarshal_response,
      Message.get_size_of_field (Message.field_set_status _ (by decide) _),
      Message.get_size_of_field (Message.field_set_iports _ (by decide) _),
      Message.get_size_of_field (Message.field_set_afu _ (by decide) _)]
    exact Message.get_size_set_size _ h0 hm
  · rw [Message.get_iports_of_field (Message.field_set_status _ (by decide) _),
      Message.get_iports_copy]

/-- A detach answers with the type of its response and its result. -/
lemma detach_answers {msgtype : List UInt8} (ht : msgtype ∈ MSGTYPES) (err : BitVec 32) :
    Answers msg (((plat.fresh.set_circuitid msg.get_circuitid).set_msgtype msgtype).set_status err)
      msgtype err := by
  refine ⟨?_, ?_, Message.get_status_set_status _ err⟩
  · rw [unmarshal_circuitid]
    simp
  · rw [unmarshal_msgtype, Message.get_msgtype_of_field (Message.field_set_status _ (by decide) _)]
    exact Message.cstr_get_msgtype _ ht

/-- The response to a request of unknown type has no type and no result. -/
lemma unknown_answers :
    cstr (unmarshal_response (set_unknown_mode_response plat msg)).circuitid = cstr msg.get_circuitid ∧
    (cstr msg.get_afu_name ≠ [] →
      cstr (unmarshal_response (set_unknown_mode_response plat msg)).afu = cstr msg.get_afu_name) := by
  refine ⟨?_, fun hne => ?_⟩
  · rw [unmarshal_circuitid, set_unknown_mode_response]
    simp
  · rw [unmarshal_afu, set_unknown_mode_response, Message.get_afu_name_copy _ msg hne]

/-- What the reader of the response gets from each handler. -/
structure ResponsesReturned : Prop where
  attach_memory :
    let r := attach_memory build plat node msg.get_circuitid msg.get_afu_name msg.get_size
    let rsp := (proto_attach_memory build plat node msg).2
    Answers msg rsp MRESPONSE_ATTACH r.2.1 ∧ AnswersAttach msg rsp ∧
      (r.2.2.getD plat.effective_address ≠ 0 →
        (unmarshal_response rsp).ea = r.2.2.getD plat.effective_address)
  attach_compute : ∀ r ∈ proto_attach_compute build plat node msg,
    ∃ err, attach_compute build plat node msg.get_circuitid msg.get_afu_name msg.get_iports msg.get_size
        msg.get_no_hotplug = some (r.1, err) ∧
      Answers msg r.2 CRESPONSE_ATTACH err ∧ AnswersAttach msg r.2
  detach_memory : ∀ r ∈ proto_detach_memory plat node msg,
    ∃ err, detach_memory node msg.get_circuitid = some (r.1, err) ∧
      Answers msg r.2 MRESPONSE_DETACH err
  detach_compute : ∀ r ∈ proto_detach_compute build plat node msg,
    ∃ err, detach_compute build plat node msg.get_circuitid = some (r.1, err) ∧
      Answers msg r.2 CRESPONSE_DETACH err
  unknown :
    cstr (unmarshal_response (set_unknown_mode_response plat msg)).circuitid = cstr msg.get_circuitid ∧
    (cstr msg.get_afu_name ≠ [] →
      cstr (unmarshal_response (set_unknown_mode_response plat msg)).afu = cstr msg.get_afu_name)

lemma responses_returned : ResponsesReturned build plat node msg where
  attach_memory := proto_attach_memory_answers build plat node msg
  attach_compute r hr := by
    obtain ⟨⟨node', err⟩, he, rfl⟩ := Option.map_eq_some_iff.mp hr
    exact ⟨err, he, attach_compute_answers plat msg err⟩
  detach_memory r hr := by
    obtain ⟨⟨node', err⟩, he, rfl⟩ := Option.map_eq_some_iff.mp hr
    exact ⟨err, he, detach_answers plat msg (by decide) err⟩
  detach_compute r hr := by
    obtain ⟨⟨node', err⟩, he, rfl⟩ := Option.map_eq_some_iff.mp hr
    exact ⟨err, he, detach_answers plat msg (by decide) err⟩
  unknown := unknown_answers plat msg

/-- **Both directions of the wire.**  The two attach requests reach their handlers and decode to what
they were built from, and the reader of a response gets what the handler has written, where a setter did
not refuse it.  The ports of a response are in the message, but not in what `unmarshal_response` fills. -/
theorem wire_round_trip (a : AttachArgs) (g : Garbage) :
    (handle_request build plat node (a.memoryRequest g)
        = some (proto_attach_memory build plat node (a.memoryRequest g)) ∧
      a.Decodes (a.memoryRequest g)) ∧
    (handle_request build plat node (a.computeRequest g)
        = proto_attach_compute build plat node (a.computeRequest g) ∧
      a.Decodes (a.computeRequest g) ∧ (a.computeRequest g).get_ea = a.ea ∧
      (a.computeRequest g).get_no_hotplug = a.no_hotplug) ∧
    ResponsesReturned build plat node msg :=
  ⟨⟨a.memory_dispatched g build plat node, a.memory_decodes g⟩,
    ⟨a.compute_dispatched g build plat node, a.compute_decodes g, a.compute_get_ea g,
      a.compute_get_no_hotplug g⟩, responses_returned build plat node msg⟩

end

/-- An attach to the first port. -/
def attachArgs : AttachArgs where
  circuit_id := List.replicate 36 0x61
  circuit_id_length := rfl
  circuit_id_chars := by decide
  afu := ascii ['a']
  afu_pos := by decide
  afu_length := by decide
  afu_chars := by decide
  ports := [1]
  ports_nodup := by decide
  ports_range := by decide
  size := 0x10000000
  size_pos := by decide
  size_blocks := by decide
  ea := 0x10000
  ea_pos := by decide
  no_hotplug := 0
  no_hotplug_flag := .inl rfl

/-- On memory that was cleared. -/
def attachRequest : Message := attachArgs.computeRequest ⟨fun _ => 0, [], []⟩

theorem wire_round_trip_attachArgs :
    (handle_request .MOCK plainPlatform {} (attachArgs.memoryRequest ⟨fun _ => 0, [], []⟩)
        = some (proto_attach_memory .MOCK plainPlatform {}
            (attachArgs.memoryRequest ⟨fun _ => 0, [], []⟩)) ∧
      attachArgs.Decodes (attachArgs.memoryRequest ⟨fun _ => 0, [], []⟩)) ∧
    (handle_request .MOCK plainPlatform {} attachRequest
        = proto_attach_compute .MOCK plainPlatform {} attachRequest ∧
      attachArgs.Decodes attachRequest ∧ attachRequest.get_ea = 0x10000 ∧
      attachRequest.get_no_hotplug = 0) ∧
    ResponsesReturned .MOCK plainPlatform {} attachRequest :=
  wire_round_trip _ _ _ _ attachArgs ⟨fun _ => 0, [], []⟩

/-! ## The ports of a response -/

/-- The reader looks at every field but that of the ports. -/
lemma unmarshal_response_of_fields {rsp rsp' : Message} (h : ∀ f, f ≠ .IPORT → rsp.field f = rsp'.field f) :
    unmarshal_response rsp = unmarshal_response rsp' := by
  rw [unmarshal_response, unmarshal_response,
    Message.get_circuitid_of_field (h .CIRCUIT_ID (by decide)),
    Message.get_msgtype_of_field (h .MSGTYPE (by decide)),
    Message.get_afu_name_of_field (h .AFUNAME (by decide)),
    Message.get_status_of_field (h .ERROR (by decide)),
    Message.get_size_of_field (h .MEM_SIZE (by decide)),
    Message.get_ea_of_field (h .EA (by decide)),
    Message.get_no_hotplug_of_field (h .NO_HOTPLUG (by decide))]

lemma unmarshal_response_ports (rsp : Message) (ports ports' : List ℕ) (err : BitVec 32) :
    unmarshal_response ((rsp.set_iports ports).set_status err)
      = unmarshal_response ((rsp.set_iports ports').set_status err) := by
  refine unmarshal_response_of_fields fun f hf => ?_
  by_cases he : f = .ERROR
  · subst he
    exact (Message.field_put_full _ .ERROR (length_leBytes _ _)).trans
      (Message.field_put_full _ .ERROR (length_leBytes _ _)).symm
  · rw [Message.field_set_status _ he, Message.field_set_status _ he, Message.field_set_iports _ hf,
      Message.field_set_iports _ hf]

/-- What an agent without an AFU answers to the attach to another port. -/
lemma handle_request_set_iports {msg : Message} (hm : cstr msg.get_msgtype = COMPUTE_ATTACH)
    (ports : List ℕ) {p : ℕ} (hp : unmarshal_iports (marshal_iports ports) = [p]) : ∃ r,
      handle_request .MOCK plainPlatform {} (msg.set_iports ports) = some r ∧
      r.2 = (((((plainPlatform.fresh.set_circuitid msg.get_circuitid).set_msgtype
        CRESPONSE_ATTACH).set_size msg.get_size).set_afu msg.get_afu_name).set_iports [p]).set_status
          ATTACH_OK := by
  have hmode : (msg.set_iports ports).mode = .COMPUTE_ATTACH := by
    refine Message.mode_compute_attach ?_
    rwa [Message.get_msgtype_of_field (Message.field_set_iports msg (by decide) ports)]
  rw [handle_request, hmode]
  change ∃ r, proto_attach_compute .MOCK plainPlatform {} (msg.set_iports ports) = some r ∧ _
  rw [proto_attach_compute, Message.get_iports_set_iports, hp, Message.get_circuitid_set_iports,
    Message.get_size_of_field (Message.field_set_iports msg (by decide) ports),
    Message.get_afu_name_of_field (Message.field_set_iports msg (by decide) ports)]
  exact ⟨_, rfl, rfl⟩

/-- The responses to two requests that differ in the port are read as the same, so no member holds the
ports of a response. -/
theorem no_ports_in_pmessage :
    (∃ r₁ ∈ handle_request .MOCK plainPlatform {} (attachRequest.set_iports [1]),
      ∃ r₂ ∈ handle_request .MOCK plainPlatform {} (attachRequest.set_iports [2]),
        unmarshal_response r₁.2 = unmarshal_response r₂.2 ∧
        r₁.2.get_iports = [1] ∧ r₂.2.get_iports = [2]) ∧
    ¬ ∃ iports : PMessage → List ℕ, ∀ msg, ∀ r ∈ handle_request .MOCK plainPlatform {} msg,
      iports (unmarshal_response r.2) = r.2.get_iports := by
  have hm : cstr attachRequest.get_msgtype = COMPUTE_ATTACH := attachArgs.compute_get_msgtype _
  obtain ⟨r₁, h₁, hr₁⟩ := handle_request_set_iports hm [1] (p := 1) (by decide)
  obtain ⟨r₂, h₂, hr₂⟩ := handle_request_set_iports hm [2] (p := 2) (by decide)
  have hread : unmarshal_response r₁.2 = unmarshal_response r₂.2 := by
    rw [hr₁, hr₂]
    exact unmarshal_response_ports _ [1] [2] ATTACH_OK
  have hone : r₁.2.get_iports = [1] := by
    rw [hr₁, Message.get_iports_of_field (Message.field_set_status _ (by decide) _),
      Message.get_iports_set_iports]
    decide
  have htwo : r₂.2.get_iports = [2] := by
    rw [hr₂, Message.get_iports_of_field (Message.field_set_status _ (by decide) _),
      Message.get_iports_set_iports]
    decide
  refine ⟨⟨r₁, h₁, r₂, h₂, hread, hone, htwo⟩, ?_⟩
  rintro ⟨iports, hall⟩
  have hread₁ := (hall _ r₁ h₁).trans hone
  have hread₂ := (hall _ r₂ h₂).trans htwo
  rw [hread, hread₂] at hread₁
  exact absurd hread₁ (by decide)

end ThymesisFlow
