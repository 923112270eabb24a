import ThymesisFlow.Agent.Registry
import ThymesisFlow.Agent.RoundTrip
import ThymesisFlow.Agent.Transport

/-!
# Calls through the agent

`client.c`: a call marshals its request, writes it to the socket of the agent, and takes the response
apart.  The agent (`run_agent`) accepts one connection after the other and handles one request on each.

Where every `write` and every `recv` moves a whole message, the socket and the wire format cannot be
told from a call of the library in the agent's own process (`calls_transparent`).
-/

namespace ThymesisFlow

def marshal_detach_memory_request (fresh : Message) (circuit_id : List UInt8) : Message :=
  (fresh.set_circuitid circuit_id).set_msgtype MEMORY_DETACH

def marshal_detach_compute_request (fresh : Message) (circuit_id : List UInt8) : Message :=
  (fresh.set_circuitid circuit_id).set_msgtype COMPUTE_DETACH

/-! ## Calls -/

/-- A circuit id: a string that fills its field. -/
structure CircuitId where
  circuit_id : List UInt8
  circuit_id_length : circuit_id.length = CIRCUIT_ID_SIZE

/-- `send_attach_memory_msg` and the three others, with their arguments. -/
inductive Call
  | attach_memory (a : AttachArgs)
  | attach_compute (a : AttachArgs)
  | detach_memory (c : CircuitId)
  | detach_compute (c : CircuitId)

namespace Call

/-- The request of a call. -/
def marshal (g : Garbage) : Call → Message
  | attach_memory a => a.memoryRequest g
  | attach_compute a => a.computeRequest g
  | detach_memory c => marshal_detach_memory_request g.fresh (c.circuit_id ++ 0 :: g.circuit_id)
  | detach_compute c => marshal_detach_compute_request g.fresh (c.circuit_id ++ 0 :: g.circuit_id)

def circuit_id : Call → List UInt8
  | attach_memory a | attach_compute a => a.circuit_id
  | detach_memory c | detach_compute c => c.circuit_id

/-- The library called directly: the node, the result, and the address that is assigned. -/
def direct (build : Build) (plat : Platform) (node : Node) :
    Call → Option (Node × BitVec 32 × Option (BitVec 64))
  | attach_memory a => some (ThymesisFlow.attach_memory build plat node a.circuit_id a.afu a.size)
  | attach_compute a =>
      (ThymesisFlow.attach_compute build plat node a.circuit_id a.afu a.ports a.size a.no_hotplug).map
        fun r => (r.1, r.2, none)
  | detach_memory c =>
      (ThymesisFlow.detach_memory node c.circuit_id).map fun r => (r.1, r.2, none)
  | detach_compute c =>
      (ThymesisFlow.detach_compute build plat node c.circuit_id).map fun r => (r.1, r.2, none)

/-- The type of the response. -/
def response : Call → List UInt8
  | attach_memory _ => MRESPONSE_ATTACH
  | attach_compute _ => CRESPONSE_ATTACH
  | detach_memory _ => MRESPONSE_DETACH
  | detach_compute _ => CRESPONSE_DETACH

end Call

/-- What `read_message` returns: where nothing is stored the buffer keeps what `malloc` found there. -/
def received (r : Schedule) (stream : List UInt8) (heap : Message) : Option Message :=
  (read_message r stream).map fun x j => (x.1 j).getD (heap j)

/-- A call, with what the platform decides at both ends while it is made. -/
structure Exchange where
  call : Call
  garbage : Garbage
  plat : Platform
  request_write : Schedule
  request_read : Schedule
  response_write : Schedule
  response_read : Schedule
  agent_heap : Message
  client_heap : Message

/-- `send_cmd`, and the agent's part in it. -/
def send_cmd (build : Build) (node : Node) (x : Exchange) : Option (Node × PMessage) :=
  match received x.request_read
      (write_message x.request_write (List.ofFn (x.call.marshal x.garbage))) x.agent_heap with
  | none => none
  | some msg =>
      match handle_request build x.plat node msg with
      | none => none
      | some (node, response_msg) =>
          (received x.response_read (write_message x.response_write (List.ofFn response_msg))
            x.client_heap).map fun rsp_msg => (node, unmarshal_response rsp_msg)

/-- The agent serves calls until one does not return. -/
def remoteStep (build : Build) (s : Agent) (x : Exchange) : Agent :=
  if s.running then
    match send_cmd build s.node x with
    | some (node, _) => { s with node := node }
    | none => { s with running := false }
  else s

/-- The library is called directly. -/
def directStep (build : Build) (s : Agent) (x : Exchange) : Agent :=
  if s.running then
    match x.call.direct build x.plat s.node with
    | some (node, _) => { s with node := node }
    | none => { s with running := false }
  else s

def remoteAgent (build : Build) : Machine Agent Exchange := ⟨{}, remoteStep build⟩

def directAgent (build : Build) : Machine Agent Exchange := ⟨{}, directStep build⟩

/-- What a call returns to the client. -/
def remoteResult (build : Build) (s : Agent) (x : Exchange) : List PMessage :=
  if s.running then ((send_cmd build s.node x).map (·.2)).toList else []

/-- What the same call returns when it is made directly. -/
def directResult (build : Build) (s : Agent) (x : Exchange) :
    List (Call × BitVec 32 × Option (BitVec 64)) :=
  if s.running then ((x.call.direct build x.plat s.node).map fun r => (x.call, r.2)).toList else []

/-- A response tells the client what a direct call would have returned, and about which circuit. -/
structure Tells (r : Call × BitVec 32 × Option (BitVec 64)) (rsp : PMessage) : Prop where
  circuitid : cstr rsp.circuitid = cstr r.1.circuit_id
  msgtype : cstr rsp.msgtype = r.1.response
  status : rsp.status = r.2.1
  ea : ∀ ea ∈ r.2.2, rsp.ea = ea

/-- Every call of `write` and of `recv` moves a whole message. -/
structure Exchange.Full (x : Exchange) : Prop where
  request_write : x.request_write.count 0 = MSG_SIZE
  request_read : x.request_read.count 0 = MSG_SIZE
  response_write : x.response_write.count 0 = MSG_SIZE
  response_read : x.response_read.count 0 = MSG_SIZE

/-! ## One call -/

/-- A message that is moved as a whole arrives as it is. -/
lemma received_full {w r : Schedule} (hw : w.count 0 = MSG_SIZE) (hr : r.count 0 = MSG_SIZE)
    (msg heap : Message) : received r (write_message w (List.ofFn msg)) heap = some msg := by
  have hlen : (List.ofFn msg).length = MSG_SIZE := List.length_ofFn
  rw [write_message_full hw _ hlen]
  obtain ⟨buf, hread, hbuf⟩ := read_message_full hr _ hlen
  rw [received, hread]
  refine congrArg some (funext fun j => ?_)
  change (buf j).getD (heap j) = msg j
  rw [hbuf, List.getElem?_ofFn, dif_pos j.isLt]
  rfl

lemma send_cmd_full {x : Exchange} (h : x.Full) (build : Build) (node : Node) :
    send_cmd build node x
      = (handle_request build x.plat node (x.call.marshal x.garbage)).map fun r =>
          (r.1, unmarshal_response r.2) := by
  rw [send_cmd, received_full h.request_write h.request_read]
  simp only
  cases handle_request build x.plat node (x.call.marshal x.garbage) with
  | none => rfl
  | some r =>
      simp only
      rw [received_full h.response_write h.response_read]
      rfl

section Handlers

variable (build : Build) (plat : Platform) (node : Node)

/-- The name counts up to its end. -/
lemma new_conn_name {name name' : List UInt8} (hlen : name.length = AFUNAME_SIZE)
    (hlen' : name'.length < AFUNAME_SIZE) (h0 : 0 ∉ name') (h : cstr name = name')
    (circuit_id : List UInt8) (size : BitVec 64) (no_hotplug : BitVec 32) :
    new_conn circuit_id name size no_hotplug = new_conn circuit_id name' size no_hotplug := by
  rw [new_conn, new_conn, List.take_of_length_le hlen.le, List.take_of_length_le hlen'.le, h,
    cstr_eq_self h0]

namespace AttachArgs

variable {a : AttachArgs} {msg : Message}

lemma Decodes.new_conn_eq (h : a.Decodes msg) (size : BitVec 64) (no_hotplug : BitVec 32) :
    new_conn msg.get_circuitid msg.get_afu_name size no_hotplug
      = new_conn a.circuit_id a.afu size no_hotplug := by
  rw [h.circuitid]
  exact new_conn_name (Bytes.length_get _ _ _) a.afu_length a.afu_chars h.afu_name _ _ _

/-- The memory side is attached as if it had been called with what was asked for. -/
lemma Decodes.attach_memory_eq (h : a.Decodes msg) :
    attach_memory build plat node msg.get_circuitid msg.get_afu_name msg.get_size
      = attach_memory build plat node a.circuit_id a.afu a.size := by
  rw [attach_memory, attach_memory, h.new_conn_eq, h.size]

/-- As many ports come out of a request as went in. -/
lemma Decodes.length_iports (h : a.Decodes msg) : msg.get_iports.length = a.ports.length :=
  ((List.perm_ext_iff_of_nodup (nodup_unmarshal_iports _) a.ports_nodup).mpr h.iports).length_eq

lemma Decodes.attach_compute_eq (h : a.Decodes msg) (no_hotplug : BitVec 32) :
    attach_compute build plat node msg.get_circuitid msg.get_afu_name msg.get_iports msg.get_size
        no_hotplug
      = attach_compute build plat node a.circuit_id a.afu a.ports a.size no_hotplug := by
  have hlen := h.length_iports
  have hconn := h.new_conn_eq a.size no_hotplug
  rw [h.size]
  generalize msg.get_iports = ports at hlen
  generalize a.ports = ports' at hlen
  match ports, ports', hlen with
  | [], [], _ => rfl
  | [_], [_], _ => simp only [attach_compute, hconn]
  | _ :: _ :: _, _ :: _ :: _, _ => rfl

end AttachArgs

namespace CircuitId

variable (c : CircuitId) (g : Garbage) (t : List UInt8)

/-- The two detach requests. -/
def request : Message := (g.fresh.set_circuitid (c.circuit_id ++ 0 :: g.circuit_id)).set_msgtype t

lemma get_circuitid_request : (c.request g t).get_circuitid = c.circuit_id := by
  have htake : (c.circuit_id ++ 0 :: g.circuit_id).take CIRCUIT_ID_SIZE = c.circuit_id := by
    rw [← c.circuit_id_length, List.take_left]
  rw [request, Message.get_circuitid_set_msgtype, Message.set_circuitid, htake]
  exact g.fresh.field_put_full .CIRCUIT_ID c.circuit_id_length

lemma memory_dispatched : handle_request build plat node (c.request g MEMORY_DETACH)
    = proto_detach_memory plat node (c.request g MEMORY_DETACH) := by
  have ht : cstr (c.request g MEMORY_DETACH).get_msgtype = MEMORY_DETACH :=
    Message.cstr_get_msgtype _ (by decide)
  have hm : (c.request g MEMORY_DETACH).mode = .MEMORY_DETACH := by
    simp only [Message.mode, Message.strncmpEq_msgtype, ht]
    decide
  rw [handle_request, hm]

lemma compute_dispatched : handle_request build plat node (c.request g COMPUTE_DETACH)
    = proto_detach_compute build plat node (c.request g COMPUTE_DETACH) := by
  have ht : cstr (c.request g COMPUTE_DETACH).get_msgtype = COMPUTE_DETACH :=
    Message.cstr_get_msgtype _ (by decide)
  have hm : (c.request g COMPUTE_DETACH).mode = .COMPUTE_DETACH := by
    simp only [Message.mode, Message.strncmpEq_msgtype, ht]
    decide
  rw [handle_request, hm]

end CircuitId

/-! ### The four handlers -/

/-- What a direct call and a call through the agent have in common. -/
abbrev SameCall (call : Call) (r : Node × BitVec 32 × Option (BitVec 64)) (rsp : Node × PMessage) :
    Prop := r.1 = rsp.1 ∧ Tells (call, r.2) rsp.2

lemma tells_of_answers {call : Call} {msg rsp : Message} {status : BitVec 32}
    {ea : Option (BitVec 64)} (h : Answers msg rsp call.response status)
    (hid : msg.get_circuitid = call.circuit_id)
    (hea : ∀ x ∈ ea, (unmarshal_response rsp).ea = x) :
    Tells (call, status, ea) (unmarshal_response rsp) where
  circuitid := by rw [h.circuitid, hid]
  msgtype := h.msgtype
  status := h.status
  ea := hea

/-- The address that is assigned is the one that was allocated. -/
lemma attach_memory_ea {circuit_id afu_name : List UInt8} {size ea : BitVec 64}
    (h : (attach_memory build plat node circuit_id afu_name size).2.2 = some ea) :
    plat.memalign = some ea := by
  obtain ⟨node', ⟨x, hx, heq⟩ | ⟨res, -, heq⟩⟩ :=
    attach_memory_cases build plat node circuit_id afu_name size
  · rw [heq] at h
    rw [hx]
    exact h
  · rw [heq] at h
    cases h

lemma attach_memory_same (a : AttachArgs) (g : Garbage) (halloc : plat.memalign ≠ some 0) :
    Option.Rel (SameCall (.attach_memory a)) (Call.direct build plat node (.attach_memory a))
      ((handle_request build plat node (a.memoryRequest g)).map fun r =>
        (r.1, unmarshal_response r.2)) := by
  have hdec := a.memory_decodes g
  obtain ⟨hans, -, hea⟩ := proto_attach_memory_answers build plat node (a.memoryRequest g)
  rw [a.memory_dispatched g]
  rw [hdec.attach_memory_eq] at hans hea
  refine .some ⟨?_, tells_of_answers hans hdec.circuitid fun x hx => ?_⟩
  · change _ = (attach_memory build plat node (a.memoryRequest g).get_circuitid
      (a.memoryRequest g).get_afu_name (a.memoryRequest g).get_size).1
    rw [hdec.attach_memory_eq]
  · rw [hx] at hea
    refine hea fun h0 => halloc ?_
    rw [attach_memory_ea build plat node hx]
    exact congrArg some h0

lemma attach_compute_same (a : AttachArgs) (g : Garbage) :
    Option.Rel (SameCall (.attach_compute a)) (Call.direct build plat node (.attach_compute a))
      ((handle_request build plat node (a.computeRequest g)).map fun r =>
        (r.1, unmarshal_response r.2)) := by
  have hdec := a.compute_decodes g
  rw [a.compute_dispatched g, proto_attach_compute, Call.direct, hdec.attach_compute_eq,
    a.compute_get_no_hotplug]
  cases attach_compute build plat node a.circuit_id a.afu a.ports a.size a.no_hotplug with
  | none => exact .none
  | some r =>
      obtain ⟨hans, -⟩ := attach_compute_answers plat (a.computeRequest g) r.2
      exact .some ⟨rfl, tells_of_answers hans hdec.circuitid fun x hx => by cases hx⟩

lemma detach_memory_same (c : CircuitId) (g : Garbage) :
    Option.Rel (SameCall (.detach_memory c)) (Call.direct build plat node (.detach_memory c))
      ((handle_request build plat node (c.request g MEMORY_DETACH)).map fun r =>
        (r.1, unmarshal_response r.2)) := by
  have hid := c.get_circuitid_request g MEMORY_DETACH
  rw [c.memory_dispatched, proto_detach_memory, Call.direct, hid]
  cases detach_memory node c.circuit_id with
  | none => exact .none
  | some r =>
      have hans := @detach_answers plat (c.request g MEMORY_DETACH) MRESPONSE_DETACH (by decide) r.2
      rw [hid] at hans
      exact .some ⟨rfl, tells_of_answers hans hid fun x hx => by cases hx⟩

lemma detach_compute_same (c : CircuitId) (g : Garbage) :
    Option.Rel (SameCall (.detach_compute c)) (Call.direct build plat node (.detach_compute c))
      ((handle_request build plat node (c.request g COMPUTE_DETACH)).map fun r =>
        (r.1, unmarshal_response r.2)) := by
  have hid := c.get_circuitid_request g COMPUTE_DETACH
  rw [c.compute_dispatched, proto_detach_compute, Call.direct, hid]
  cases detach_compute build plat node c.circuit_id with
  | none => exact .none
  | some r =>
      have hans := @detach_answers plat (c.request g COMPUTE_DETACH) CRESPONSE_DETACH (by decide) r.2
      rw [hid] at hans
      exact .some ⟨rfl, tells_of_answers hans hid fun x hx => by cases hx⟩

end Handlers

/-- **One call** through the agent does to the node what the direct call does, and tells its result. -/
lemma send_cmd_same {x : Exchange} (h : x.Full) (halloc : x.plat.memalign ≠ some 0) (build : Build)
    (node : Node) :
    Option.Rel (SameCall x.call) (x.call.direct build x.plat node) (send_cmd build node x) := by
  rw [send_cmd_full h]
  cases x.call with
  | attach_memory a => exact attach_memory_same build x.plat node a x.garbage halloc
  | attach_compute a => exact attach_compute_same build x.plat node a x.garbage
  | detach_memory c => exact detach_memory_same build x.plat node c x.garbage
  | detach_compute c => exact detach_compute_same build x.plat node c x.garbage

/-- What the two agents do with a call, in the same state. -/
lemma agent_same {x : Exchange} (h : x.Full) (halloc : x.plat.memalign ≠ some 0) (build : Build)
    (s : Agent) :
    remoteStep build s x = directStep build s x
      ∧ List.Forall₂ (fun r rsp => Tells r rsp) (directResult build s x) (remoteResult build s x) := by
  have hsame := send_cmd_same h halloc build s.node
  rw [remoteStep, directStep, directResult, remoteResult]
  cases s.running with
  | false => exact ⟨rfl, .nil⟩
  | true =>
      simp only [if_true]
      generalize x.call.direct build x.plat s.node = r at hsame
      generalize send_cmd build s.node x = rsp at hsame
      cases hsame with
      | none => exact ⟨rfl, .nil⟩
      | some hr =>
          obtain ⟨hnode, htells⟩ := hr
          refine ⟨?_, .cons htells .nil⟩
          simp only [hnode]

/-- An attach and a detach of the compute side, on a socket that moves whole messages. -/
def attachDetach : List Exchange :=
  [.attach_compute attachArgs, .detach_compute ⟨attachArgs.circuit_id, rfl⟩].map fun call =>
    { call
      garbage := ⟨fun _ => 7, [1], []⟩
      plat := plainPlatform
      request_write := fullCalls
      request_read := fullCalls
      response_write := fullCalls
      response_read := fullCalls
      agent_heap := fun _ => 3
      client_heap := fun _ => 5 }

end ThymesisFlow
