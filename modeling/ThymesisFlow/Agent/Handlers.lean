import ThymesisFlow.Agent.Connection
import Mathlib.Data.Finset.Basic

/-!
# The handlers of the agent

`thymesisflow.c` and the request handlers of `proto.c` and `agent.c`, for the two builds.  What
the platform decides is in `Platform`: the memory that `malloc` and `posix_memalign` return, the
outcome of the AFU setup, and which sysfs files can be written.  `none` is undefined behaviour: a
pointer that was never assigned is freed, or a loop counter overflows.
-/

namespace ThymesisFlow

/-- With or without `#ifdef MOCK`. -/
inductive Build
  | MOCK
  | AFU
  deriving DecidableEq, Repr

/-- What the platform decides during one request. -/
structure Platform where
  /-- The address that `posix_memalign` assigns, if it succeeds. -/
  memalign : Option (BitVec 64)
  mlock : Bool
  /-- The result of `setup_afu_memory` or `setup_afu_compute`, zero for success. -/
  setup : BitVec 32
  setup_code : setup = 0 ∨ 102 ≤ setup.toNat ∧ setup.toNat ≤ 110
  /-- The state file of a memory block can be opened for writing. -/
  writable : ℕ → Bool
  /-- The write to it succeeds. -/
  written : ℕ → Bool
  /-- What a new message holds. -/
  fresh : Message
  /-- What the local variable `effective_address` holds before it is assigned. -/
  effective_address : BitVec 64

/-- A platform on which everything succeeds. -/
def plainPlatform : Platform where
  memalign := some 0x10000
  mlock := true
  setup := 0
  setup_code := .inl rfl
  writable _ := true
  written _ := true
  fresh _ := 0
  effective_address := 0

/-- The agent's registry and the memory blocks that are online. -/
structure Node where
  clist : List Connection := []
  online : Finset ℕ := ∅

/-! ## Memory blocks -/

def INIT_PROBE_ADDR : ℕ := 0x2000000000000

/-- The numbers of the memory blocks for a size: the loop goes through the block addresses from
`INIT_PROBE_ADDR` on.  Its counter is an `int`. -/
def memoryBlocks (memory_size : BitVec 64) : List ℕ :=
  (List.range (min (memory_size.toNat / MEMBLOCK_SIZE) (2 ^ 31))).map fun i =>
    (INIT_PROBE_ADDR + i * MEMBLOCK_SIZE) / MEMBLOCK_SIZE

/-- The counter reaches 2^31. -/
def counterOverflows (memory_size : BitVec 64) : Bool := 2 ^ 31 ≤ memory_size.toNat / MEMBLOCK_SIZE

/-- The blocks are taken offline until a state file cannot be opened; a failed write is only
logged. -/
def offlineBlocks (plat : Platform) : List ℕ → Finset ℕ → Finset ℕ × Bool
  | [], online => (online, true)
  | b :: bs, online =>
      if plat.writable b then
        offlineBlocks plat bs (if plat.written b then online.erase b else online)
      else (online, false)

def unplug_memory_blocks (plat : Platform) (memory_size : BitVec 64) (online : Finset ℕ) :
    Option (Finset ℕ × BitVec 32) :=
  match offlineBlocks plat (memoryBlocks memory_size) online with
  | (online, false) => some (online, -1)
  | (online, true) => if counterOverflows memory_size then none else some (online, DETACH_OK)

/-- The blocks are put online until a state file cannot be written. -/
def onlineBlocks (plat : Platform) : List ℕ → Finset ℕ → Finset ℕ × Bool
  | [], online => (online, true)
  | b :: bs, online =>
      if plat.writable b && plat.written b then onlineBlocks plat bs (insert b online)
      else (online, false)

/-- It ends well where every state file can be opened and written. -/
lemma onlineBlocks_iff (plat : Platform) (bs : List ℕ) (online : Finset ℕ) :
    (onlineBlocks plat bs online).2 = true
      ↔ ∀ b ∈ bs, plat.writable b = true ∧ plat.written b = true := by
  induction bs generalizing online with
  | nil => simp [onlineBlocks]
  | cons b bs ih =>
      rw [onlineBlocks, List.forall_mem_cons, ← Bool.and_eq_true]
      by_cases hb : (plat.writable b && plat.written b) = true
      · rw [if_pos hb, ih, and_iff_right hb]
      · rw [if_neg hb]
        exact ⟨fun h => absurd h Bool.false_ne_true, fun h => absurd h.1 hb⟩

def hotplug_memory_blocks (plat : Platform) (memory_size : BitVec 64) (online : Finset ℕ) :
    Option (Finset ℕ × BitVec 32) :=
  match onlineBlocks plat (memoryBlocks memory_size) online with
  | (online, false) => some (online, ERR_PROBE)
  | (online, true) => if counterOverflows memory_size then none else some (online, ATTACH_OK)

/-! ## Attach and detach -/

/-- The connection is added before its `ea` is assigned; both see the same connection.  Returns
the address that is assigned for the caller. -/
def attach_memory (build : Build) (plat : Platform) (node : Node) (circuit_id afu_name : List UInt8)
    (size : BitVec 64) : Node × BitVec 32 × Option (BitVec 64) :=
  let conn := { new_conn circuit_id afu_name size 0 with ea := plat.memalign }
  let node := { node with clist := (add_conn node.clist conn).1 }
  match plat.memalign with
  | none => (node, 1, none)
  | some ea =>
      match build with
      | .MOCK => (node, ATTACH_OK, some ea)
      | .AFU =>
          if plat.mlock = false then (node, 1, none)
          else if plat.setup ≠ 0 then (node, plat.setup, none)
          else (node, ATTACH_OK, some ea)

/-- The address is assigned together with `ATTACH_OK`, and only then. -/
lemma attach_memory_cases (build : Build) (plat : Platform) (node : Node)
    (circuit_id afu_name : List UInt8) (size : BitVec 64) : ∃ node',
      (∃ ea, plat.memalign = some ea ∧
        attach_memory build plat node circuit_id afu_name size = (node', ATTACH_OK, some ea)) ∨
      (∃ res, res ≠ ATTACH_OK ∧
        attach_memory build plat node circuit_id afu_name size = (node', res, none)) := by
  have hone : (1 : BitVec 32) ≠ ATTACH_OK := by decide
  simp only [attach_memory]
  cases plat.memalign with
  | none => exact ⟨_, .inr ⟨1, hone, rfl⟩⟩
  | some ea =>
      cases build with
      | MOCK => exact ⟨_, .inl ⟨ea, rfl, rfl⟩⟩
      | AFU =>
          by_cases hl : plat.mlock = false
          · exact ⟨_, .inr ⟨1, hone, if_pos hl⟩⟩
          · by_cases hs : plat.setup ≠ 0
            · refine ⟨_, .inr ⟨plat.setup, fun he => ?_, (if_neg hl).trans (if_pos hs)⟩⟩
              have hcode := plat.setup_code
              rw [he] at hcode
              exact absurd hcode (by decide)
            · exact ⟨_, .inl ⟨ea, rfl, (if_neg hl).trans (if_neg hs)⟩⟩

def detach_memory (node : Node) (circuit_id : List UInt8) : Option (Node × BitVec 32) :=
  match get_conn node.clist circuit_id with
  | none => some (node, ERR_MISSING_CID)
  | some conn =>
      match conn.ea with
      | none => none
      | some _ => some ({ node with clist := (del_conn node.clist circuit_id).1 }, DETACH_OK)

def attach_compute (build : Build) (plat : Platform) (node : Node)
    (circuit_id afu_name : List UInt8) (ports : List ℕ) (size : BitVec 64) (no_hotplug : BitVec 32) :
    Option (Node × BitVec 32) :=
  match ports with
  | [] => some (node, ERR_PORT_UNSUPPORTED)
  | _ :: _ :: _ => some (node, ERR_PORT_UNSUPPORTED)
  | [_] =>
      let node := { node with clist :=
        (add_conn node.clist (new_conn circuit_id afu_name size no_hotplug)).1 }
      match build with
      | .MOCK => some (node, ATTACH_OK)
      | .AFU =>
          if plat.setup ≠ 0 then some (node, plat.setup)
          else if no_hotplug ≠ 0 then some (node, ATTACH_OK)
          else (hotplug_memory_blocks plat size node.online).map fun r =>
            ({ node with online := r.1 }, r.2)

def detach_compute (build : Build) (plat : Platform) (node : Node) (circuit_id : List UInt8) :
    Option (Node × BitVec 32) :=
  match get_conn node.clist circuit_id with
  | none => some (node, ERR_MISSING_CID)
  | some conn =>
      let unplugged : Option (Finset ℕ × BitVec 32) :=
        if build = .AFU ∧ conn.no_hotplug = 0 then unplug_memory_blocks plat conn.size node.online
        else some (node.online, DETACH_OK)
      unplugged.map fun r =>
        let (clist, code) := del_conn node.clist circuit_id
        (⟨clist, r.1⟩, if code = .CONN_SUCCESS then r.2 else ERR_REGISTER_DETACH)

/-! ## Requests -/

def proto_attach_memory (build : Build) (plat : Platform) (node : Node) (msg : Message) :
    Node × Message :=
  let (node, res, ea) :=
    attach_memory build plat node msg.get_circuitid msg.get_afu_name msg.get_size
  let response_msg := plat.fresh.set_circuitid msg.get_circuitid
  let response_msg := response_msg.set_msgtype MRESPONSE_ATTACH
  let response_msg := response_msg.set_afu msg.get_afu_name
  let response_msg := response_msg.set_iports msg.get_iports
  let response_msg := response_msg.set_size msg.get_size
  let response_msg := response_msg.set_ea (ea.getD plat.effective_address)
  (node, response_msg.set_status res)

def proto_attach_compute (build : Build) (plat : Platform) (node : Node) (msg : Message) :
    Option (Node × Message) :=
  (attach_compute build plat node msg.get_circuitid msg.get_afu_name msg.get_iports msg.get_size
    msg.get_no_hotplug).map fun (node, err) =>
      let response_msg := plat.fresh.set_circuitid msg.get_circuitid
      let response_msg := response_msg.set_msgtype CRESPONSE_ATTACH
      let response_msg := response_msg.set_size msg.get_size
      let response_msg := response_msg.set_afu msg.get_afu_name
      let response_msg := response_msg.set_iports msg.get_iports
      (node, response_msg.set_status err)

def proto_detach_compute (build : Build) (plat : Platform) (node : Node) (msg : Message) :
    Option (Node × Message) :=
  (detach_compute build plat node msg.get_circuitid).map fun (node, err) =>
    (node, ((plat.fresh.set_circuitid msg.get_circuitid).set_msgtype CRESPONSE_DETACH).set_status err)

def proto_detach_memory (plat : Platform) (node : Node) (msg : Message) :
    Option (Node × Message) :=
  (detach_memory node msg.get_circuitid).map fun (node, err) =>
    (node, ((plat.fresh.set_circuitid msg.get_circuitid).set_msgtype MRESPONSE_DETACH).set_status err)

def set_unknown_mode_response (plat : Platform) (msg : Message) : Message :=
  (plat.fresh.set_circuitid msg.get_circuitid).set_afu msg.get_afu_name

/-- What a request asks for, by its message type. -/
inductive Mode
  | MEMORY_ATTACH
  | MEMORY_DETACH
  | COMPUTE_ATTACH
  | COMPUTE_DETACH
  | UNKNOWN
  deriving DecidableEq, Repr

/-- The type is read behind the circuit id, not with `get_msgtype`. -/
def Message.mode (msg : Message) : Mode :=
  let msgtype := msg.get CIRCUIT_ID_SIZE MSGTYPE_SIZE
  if strncmpEq msgtype MEMORY_ATTACH MSGTYPE_SIZE then .MEMORY_ATTACH
  else if strncmpEq msgtype MEMORY_DETACH MSGTYPE_SIZE then .MEMORY_DETACH
  else if strncmpEq msgtype COMPUTE_ATTACH MSGTYPE_SIZE then .COMPUTE_ATTACH
  else if strncmpEq msgtype COMPUTE_DETACH MSGTYPE_SIZE then .COMPUTE_DETACH
  else .UNKNOWN

/-- One request: the registry afterwards and the response. -/
def handle_request (build : Build) (plat : Platform) (node : Node) (msg : Message) :
    Option (Node × Message) :=
  match msg.mode with
  | .MEMORY_ATTACH => some (proto_attach_memory build plat node msg)
  | .MEMORY_DETACH => proto_detach_memory plat node msg
  | .COMPUTE_ATTACH => proto_attach_compute build plat node msg
  | .COMPUTE_DETACH => proto_detach_compute build plat node msg
  | .UNKNOWN => some (node, set_unknown_mode_response plat msg)

end ThymesisFlow
